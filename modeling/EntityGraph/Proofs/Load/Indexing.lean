import EntityGraph.Catalog
import EntityGraph.Proofs.Lists
import EntityGraph.Proofs.Load.Matching

/-!
# What indexes ask for

An index asks for one value under every key that was inserted: the value that came with the key
first, in the order in which the keys came first (`Holds`). For a batch these are the keys of its
entities (`holds_ofBatch`), for pivot rows the keys that they link to a parent (`links_of_links`),
and for parents of several types there is one such index for each discriminator
(`groups_of_groups`).
-/

namespace EntityGraph

/-- The first pair under every key, in order. -/
def firsts {α : Type} (pairs : List (String × α)) : List (String × α) :=
  pairs.eraseDupsBy fun p q => p.1 == q.1

/-- The values to ask for: the first one under every key. -/
def firstValues {α : Type} (pairs : List (String × α)) : List α := (firsts pairs).map Prod.snd

section
variable {α : Type}

@[simp] theorem firsts_nil : firsts ([] : List (String × α)) = [] := rfl

theorem firsts_cons (p : String × α) (pairs : List (String × α)) :
    firsts (p :: pairs) = p :: firsts (pairs.filter fun q => q.1 ≠ p.1) := by
  rw [firsts, List.eraseDupsBy_cons]
  simp [firsts, beq_eq_false_iff_ne]

/-- Induction that drops the key of the head from the tail. -/
theorem firsts_induct {motive : List (String × α) → Prop} (nil : motive [])
    (cons : ∀ p pairs, motive (pairs.filter fun q => q.1 ≠ p.1) → motive (p :: pairs)) :
    ∀ pairs, motive pairs
  | [] => nil
  | p :: pairs => cons p pairs (firsts_induct nil cons _)
termination_by pairs => pairs.length
decreasing_by exact Nat.lt_succ_of_le (List.length_filter_le ..)

theorem firsts_subset (pairs : List (String × α)) : firsts pairs ⊆ pairs := by
  induction pairs using firsts_induct with
  | nil => simp
  | cons p pairs ih =>
    rw [firsts_cons]
    exact List.cons_subset_cons p fun q hq => List.mem_of_mem_filter (ih hq)

theorem mem_keys_firsts {pairs : List (String × α)} {key : String} :
    key ∈ (firsts pairs).map Prod.fst ↔ key ∈ pairs.map Prod.fst := by
  induction pairs using firsts_induct with
  | nil => simp
  | cons p pairs ih =>
    rw [firsts_cons, List.map_cons, List.map_cons, List.mem_cons, List.mem_cons, ih]
    by_cases hkey : key = p.1
    · simp [hkey]
    · simp only [hkey, false_or, List.mem_map, List.mem_filter, decide_eq_true_eq]
      constructor
      · rintro ⟨q, ⟨hq, -⟩, rfl⟩
        exact ⟨q, hq, rfl⟩
      · rintro ⟨q, hq, rfl⟩
        exact ⟨q, ⟨hq, hkey⟩, rfl⟩

theorem firsts_eq_nil {pairs : List (String × α)} : firsts pairs = [] ↔ pairs = [] := by
  cases pairs with
  | nil => simp
  | cons p pairs => simp [firsts_cons]

/-- A pair at the end counts if its key is new. -/
theorem firsts_concat (pairs : List (String × α)) (p : String × α) :
    firsts (pairs ++ [p])
      = firsts pairs ++ if p.1 ∈ pairs.map Prod.fst then [] else [p] := by
  induction pairs using firsts_induct with
  | nil => simp [firsts_cons]
  | cons q pairs ih =>
    rw [List.cons_append, firsts_cons, firsts_cons, List.filter_append, List.cons_append]
    by_cases hkey : p.1 = q.1
    · simp [hkey]
    · have hmem : p.1 ∈ (pairs.filter fun r => r.1 ≠ q.1).map Prod.fst ↔
          p.1 ∈ (q :: pairs).map Prod.fst := by
        have hfirst : p.1 ∈ (firsts (q :: pairs)).map Prod.fst ↔ p.1 ∈ (q :: pairs).map Prod.fst :=
          mem_keys_firsts
        rw [← hfirst, firsts_cons, List.map_cons, List.mem_cons, mem_keys_firsts]
        simp [hkey]
      have hlast : [p].filter (fun r => r.1 ≠ q.1) = [p] := by simp [hkey]
      rw [hlast, ih]
      simp only [hmem]

end

namespace KeyIndex

/-- An index after pairs of keys and values were inserted at whatever positions. -/
structure Holds (i : KeyIndex) (pairs : List (String × Sql.Value)) : Prop where
  keys_eq : i.groups.map Prod.fst = (firsts pairs).map Prod.fst
  values_eq : i.values = firstValues pairs

theorem holds_empty : ({} : KeyIndex).Holds [] := ⟨rfl, rfl⟩

theorem keys_of_join? {key : String} {position : Nat} {groups joined : List (String × List Nat)}
    (h : join? key position groups = some joined) :
    joined.map Prod.fst = groups.map Prod.fst ∧ key ∈ groups.map Prod.fst := by
  induction groups generalizing joined with
  | nil => simp [join?] at h
  | cons g groups ih =>
    obtain ⟨k, ps⟩ := g
    rw [join?] at h
    by_cases hk : k = key
    · rw [if_pos hk, Option.some_inj] at h
      subst h
      simp [hk]
    · rw [if_neg hk, Option.map_eq_some_iff] at h
      obtain ⟨rest, hrest, rfl⟩ := h
      obtain ⟨heq, hmem⟩ := ih hrest
      exact ⟨congrArg (k :: ·) heq, List.mem_cons_of_mem _ hmem⟩

theorem not_mem_of_join?_eq_none {key : String} {position : Nat}
    {groups : List (String × List Nat)} (h : join? key position groups = none) :
    key ∉ groups.map Prod.fst := by
  have hlookup := join?_eq_none h
  rw [List.lookup_eq_none_iff] at hlookup
  rintro hmem
  obtain ⟨g, hg, rfl⟩ := List.mem_map.1 hmem
  simpa using hlookup g hg

theorem Holds.mem_keys {i : KeyIndex} {pairs : List (String × Sql.Value)} (h : i.Holds pairs)
    {key : String} : key ∈ i.groups.map Prod.fst ↔ key ∈ pairs.map Prod.fst := by
  rw [h.keys_eq, mem_keys_firsts]

/-- A pair whose key was inserted before is not asked for again. -/
theorem Holds.again {i : KeyIndex} {pairs : List (String × Sql.Value)} (h : i.Holds pairs)
    {key : String} (hkey : key ∈ pairs.map Prod.fst) (value : Sql.Value) :
    i.Holds (pairs ++ [(key, value)]) := by
  have hsame : firsts (pairs ++ [(key, value)]) = firsts pairs := by
    rw [firsts_concat, if_pos hkey, List.append_nil]
  exact ⟨by rw [hsame, h.keys_eq], by rw [firstValues, hsame, h.values_eq, firstValues]⟩

theorem Holds.isEmpty_eq {i : KeyIndex} {pairs : List (String × Sql.Value)} (h : i.Holds pairs) :
    i.isEmpty = true ↔ pairs = [] := by
  rw [isEmpty, h.values_eq, firstValues, List.isEmpty_iff, List.map_eq_nil_iff, firsts_eq_nil]

theorem Holds.insert {i : KeyIndex} {pairs : List (String × Sql.Value)} (h : i.Holds pairs)
    (key : String) (value : Sql.Value) (position : Nat) :
    (i.insert key value position).Holds (pairs ++ [(key, value)]) := by
  rw [KeyIndex.insert]
  cases hjoin : join? key position i.groups with
  | some joined =>
    obtain ⟨hkeys, hmem⟩ := keys_of_join? hjoin
    have hagain := h.again (h.mem_keys.1 hmem) value
    exact ⟨hkeys.trans hagain.keys_eq, hagain.values_eq⟩
  | none =>
    have hnew : key ∉ pairs.map Prod.fst := fun hmem =>
      not_mem_of_join?_eq_none hjoin (h.mem_keys.2 hmem)
    constructor
    · simp only [List.map_append, firsts_concat, if_neg hnew, h.keys_eq]
      rfl
    · simp only [firstValues, firsts_concat, if_neg hnew, List.map_append, h.values_eq]
      rfl

end KeyIndex

/-! ### Batches -/

/-- The encoded key that an entity holds in a column, with its value. -/
def Row.keyPair? (e : Entity) (column : ColumnInfo) : Option (String × Sql.Value) :=
  match e.joinKey? column with
  | .ok pair => pair
  | .error _ => none

theorem Row.keyPair?_eq {e : Entity} {column : ColumnInfo} {pair : Option (String × Sql.Value)}
    (h : e.joinKey? column = .ok pair) : e.keyPair? column = pair := by
  rw [keyPair?, h]

theorem Row.fst_keyPair? (e : Entity) (column : ColumnInfo) :
    (e.keyPair? column).map Prod.fst = e.keyText? column := by
  rw [keyPair?]
  cases h : e.joinKey? column with
  | ok pair => exact (Row.keyText?_eq h).symm
  | error why =>
    unfold joinKey? at h
    unfold keyText?
    cases hcell : e.cell? column.path with
    | none => rfl
    | some c =>
      simp only [hcell] at h
      split at h
      · cases h
      · next hzero => cases hkey : c.toKey <;> simp_all [Except.toOption]

/-- The key of an entity is the text of its cell's key, and what is asked for is the cell as it is
bound. -/
theorem Row.cell_of_keyPair? {e : Entity} {column : ColumnInfo} {key : String} {v : Sql.Value}
    (h : e.keyPair? column = some (key, v)) :
    ∃ c k, e.cell? column.path = some c ∧ c.isZero = false ∧ c.toKey = .ok k ∧
      k.encode = key ∧ c.toSql = v := by
  rw [keyPair?, joinKey?] at h
  cases hcell : e.cell? column.path with
  | none => simp [hcell] at h
  | some c =>
    cases hzero : c.isZero with
    | true => simp [hcell, hzero] at h
    | false =>
      cases hkey : c.toKey with
      | error why => simp [hcell, hzero, hkey] at h
      | ok k =>
        simp only [hcell, hzero, hkey, Bool.false_eq_true, if_false, Option.some.injEq,
          Prod.mk.injEq] at h
        exact ⟨c, k, rfl, hzero, hkey, h.1, h.2⟩

/-- The pairs of keys and values in a column of a batch. -/
def keyPairs (column : ColumnInfo) (batch : List Entity) : List (String × Sql.Value) :=
  batch.filterMap (·.keyPair? column)

namespace KeyIndex

theorem holds_addAll {column : ColumnInfo} {start : Nat} {batch : List Entity} {i i' : KeyIndex}
    (h : addAll column start batch i = .ok i') {pairs : List (String × Sql.Value)}
    (hi : i.Holds pairs) : i'.Holds (pairs ++ keyPairs column batch) := by
  fun_induction addAll column start batch i generalizing pairs with
  | case1 start i =>
    cases h
    simpa [keyPairs] using hi
  | case2 start e rest i hkey ih =>
    rw [keyPairs, List.filterMap_cons, Row.keyPair?_eq hkey]
    exact ih h hi
  | case3 start e rest i key value hkey ih =>
    rw [keyPairs, List.filterMap_cons, Row.keyPair?_eq hkey]
    have hinserted := ih h (hi.insert key value start)
    rwa [List.append_assoc] at hinserted
  | case4 start e rest i why hkey => simp at h

/-- **An index of a batch asks for the first value of every key in it.** -/
theorem holds_ofBatch {column : ColumnInfo} {batch : List Entity} {i : KeyIndex}
    (h : ofBatch column batch = .ok i) : i.Holds (keyPairs column batch) :=
  holds_addAll h holds_empty

end KeyIndex

/-! ### Pivot rows -/

namespace PivotJoin

/-- What a pivot row says: the row with one key belongs to the parents with another. -/
structure Link where
  owner : String
  target : String
  /-- The value that the target's key was read from. -/
  value : Sql.Value

/-- The link of a pivot row, none if a column is missing or holds a zero key. -/
def linkOf? (j : PivotJoin) (r : Sql.Record) : Option Link := do
  let owner ← r.get? j.foreignPivotKey
  let target ← r.get? j.relatedPivotKey
  let ownerKey ← (Key.ofValue owner).toOption
  let targetKey ← (Key.ofValue target).toOption
  if ownerKey.isZero || targetKey.isZero then none
  else pure ⟨ownerKey.encode, targetKey.encode, target⟩

/-- A pivot row that holds two values links their keys, unless one of them is zero. -/
theorem linkOf?_eq {j : PivotJoin} {r : Sql.Record} {owner target : Sql.Value}
    {ownerKey targetKey : Key} (howner : r.get? j.foreignPivotKey = some owner)
    (hownerKey : Key.ofValue owner = .ok ownerKey)
    (htarget : r.get? j.relatedPivotKey = some target)
    (htargetKey : Key.ofValue target = .ok targetKey) :
    j.linkOf? r = if ownerKey.isZero || targetKey.isZero then none
      else some ⟨ownerKey.encode, targetKey.encode, target⟩ := by
  rw [linkOf?, howner, htarget]
  simp only [hownerKey, htargetKey, Except.toOption, Option.bind_eq_bind, Option.bind_some]
  rfl

theorem link_eq_ok {j : PivotJoin} {parents links links' : KeyIndex} {r : Sql.Record}
    (h : j.link parents links r = .ok links') :
    links' = match j.linkOf? r with
      | none => links
      | some l => (parents.positions l.owner).foldl (linkPosition l.target l.value) links := by
  unfold link at h
  unfold linkOf?
  cases howner : r.get? j.foreignPivotKey with
  | none => simp_all
  | some owner =>
    cases htarget : r.get? j.relatedPivotKey with
    | none => simp_all
    | some target =>
      rw [howner, htarget] at h
      simp only at h
      cases hownerKey : Key.ofValue owner with
      | error why => simp [hownerKey, Except.mapError, bind, Except.bind] at h
      | ok ownerKey =>
        cases htargetKey : Key.ofValue target with
        | error why =>
          simp [hownerKey, htargetKey, Except.mapError, bind, Except.bind] at h
        | ok targetKey =>
          simp only [hownerKey, htargetKey, Except.mapError, bind, Except.bind] at h
          by_cases hzero : (ownerKey.isZero || targetKey.isZero) = true
          · rw [if_pos hzero] at h
            cases h
            rw [Bool.or_eq_true] at hzero
            simp [hownerKey, htargetKey, Except.toOption, hzero]
          · rw [if_neg hzero] at h
            cases h
            rw [Bool.or_eq_true] at hzero
            simp [hownerKey, htargetKey, Except.toOption, hzero, KeyIndex.positions]

/-- The keys that rows link to parents in an index, with their values, in order. -/
def linkedPairs (j : PivotJoin) (parents : KeyIndex) (rows : List Sql.Record) :
    List (String × Sql.Value) :=
  rows.filterMap fun r => (j.linkOf? r).bind fun l =>
    if (parents.positions l.owner).isEmpty then none else some (l.target, l.value)

/-- Links after some pivot rows were read. -/
structure Links (j : PivotJoin) (parents : KeyIndex) (rows : List Sql.Record) (links : KeyIndex) :
    Prop where
  holds : links.Holds (j.linkedPairs parents rows)
  mem_positions : ∀ key position, position ∈ links.positions key ↔
    ∃ r ∈ rows, ∃ l, j.linkOf? r = some l ∧ l.target = key ∧ position ∈ parents.positions l.owner
  nodup : ∀ key, (links.positions key).Nodup

theorem mem_positions_linkPosition (key : String) (value : Sql.Value) (links : KeyIndex)
    (position : Nat) (k : String) (p : Nat) :
    p ∈ (linkPosition key value links position).positions k ↔
      p ∈ links.positions k ∨ k = key ∧ p = position := by
  rw [linkPosition]
  by_cases hmem : position ∈ links.positions key
  · rw [if_pos (by simpa [KeyIndex.positions] using hmem)]
    constructor
    · exact .inl
    · rintro (h | ⟨rfl, rfl⟩)
      · exact h
      · exact hmem
  · rw [if_neg (by simpa [KeyIndex.positions] using hmem), KeyIndex.positions_insert,
      List.mem_append]
    by_cases hk : k = key <;> simp [hk]

theorem nodup_linkPosition {key : String} {value : Sql.Value} {links : KeyIndex}
    {position : Nat} (h : ∀ k, (links.positions k).Nodup) (k : String) :
    ((linkPosition key value links position).positions k).Nodup := by
  rw [linkPosition]
  by_cases hmem : position ∈ links.positions key
  · rw [if_pos (by simpa [KeyIndex.positions] using hmem)]
    exact h k
  · rw [if_neg (by simpa [KeyIndex.positions] using hmem), KeyIndex.positions_insert]
    by_cases hk : k = key
    · subst hk
      simpa [List.nodup_append] using ⟨h k, fun p hp heq => hmem (heq ▸ hp)⟩
    · simpa [hk] using h k

theorem mem_positions_foldl (key : String) (value : Sql.Value) (positions : List Nat)
    (links : KeyIndex) (k : String) (p : Nat) :
    p ∈ (positions.foldl (linkPosition key value) links).positions k ↔
      p ∈ links.positions k ∨ k = key ∧ p ∈ positions := by
  induction positions generalizing links with
  | nil => simp
  | cons position positions ih =>
    rw [List.foldl_cons, ih, mem_positions_linkPosition, List.mem_cons]
    tauto

theorem nodup_foldl {key : String} {value : Sql.Value} (positions : List Nat)
    {links : KeyIndex} (h : ∀ k, (links.positions k).Nodup) (k : String) :
    ((positions.foldl (linkPosition key value) links).positions k).Nodup := by
  induction positions generalizing links with
  | nil => exact h k
  | cons position positions ih => exact ih (nodup_linkPosition h)

theorem mem_keys_of_mem_positions {i : KeyIndex} {key : String} {position : Nat}
    (h : position ∈ i.positions key) : key ∈ i.groups.map Prod.fst := by
  rw [KeyIndex.positions, KeyIndex.get?] at h
  cases hlookup : i.groups.lookup key with
  | none => simp [hlookup] at h
  | some ps => exact List.mem_map_of_mem (f := Prod.fst) (Catalog.mem_of_lookup hlookup)

/-- Linking a key that is asked for does not change what is asked for. -/
theorem holds_linkPosition_of_mem {links : KeyIndex} {pairs : List (String × Sql.Value)}
    (h : links.Holds pairs) {key : String} (hkey : key ∈ pairs.map Prod.fst) (value : Sql.Value)
    (position : Nat) : (linkPosition key value links position).Holds pairs := by
  rw [linkPosition]
  split
  · exact h
  · have hinsert := h.insert key value position
    have hsame : firsts (pairs ++ [(key, value)]) = firsts pairs := by
      rw [firsts_concat, if_pos hkey, List.append_nil]
    refine ⟨by rw [hinsert.keys_eq, hsame], ?_⟩
    rw [hinsert.values_eq, firstValues, hsame, firstValues]

theorem holds_linkPosition {links : KeyIndex} {pairs : List (String × Sql.Value)}
    (h : links.Holds pairs) (key : String) (value : Sql.Value) (position : Nat) :
    (linkPosition key value links position).Holds (pairs ++ [(key, value)]) := by
  rw [linkPosition]
  split
  · next hmem =>
    have hposition : position ∈ links.positions key := by simpa [KeyIndex.positions] using hmem
    exact h.again (h.mem_keys.1 (mem_keys_of_mem_positions hposition)) value
  · exact h.insert key value position

theorem holds_foldl {links : KeyIndex} {pairs : List (String × Sql.Value)} (h : links.Holds pairs)
    (key : String) (value : Sql.Value) {positions : List Nat} (hpositions : positions ≠ []) :
    (positions.foldl (linkPosition key value) links).Holds (pairs ++ [(key, value)]) := by
  obtain ⟨first, positions, rfl⟩ := List.exists_cons_of_ne_nil hpositions
  have hkey : key ∈ (pairs ++ [(key, value)]).map Prod.fst := by simp
  have hfirst := holds_linkPosition h key value first
  rw [List.foldl_cons]
  clear hpositions
  generalize linkPosition key value links first = links at hfirst
  induction positions generalizing links with
  | nil => exact hfirst
  | cons position positions ih =>
    exact ih _ (holds_linkPosition_of_mem hfirst hkey value position)

theorem Links.step {j : PivotJoin} {parents links links' : KeyIndex} {rows : List Sql.Record}
    (h : Links j parents rows links) {r : Sql.Record}
    (hlink : j.link parents links r = .ok links') :
    Links j parents (rows ++ [r]) links' := by
  obtain rfl := link_eq_ok hlink
  have hpairs : j.linkedPairs parents (rows ++ [r])
      = j.linkedPairs parents rows ++ j.linkedPairs parents [r] := List.filterMap_append
  cases hl : j.linkOf? r with
  | none =>
    refine ⟨?_, fun key position => ?_, h.nodup⟩
    · rw [hpairs]
      simpa [linkedPairs, hl] using h.holds
    · rw [h.mem_positions]
      simp [or_and_right, exists_or, hl]
  | some l =>
    refine ⟨?_, fun key position => ?_, nodup_foldl _ h.nodup⟩
    · rw [hpairs]
      by_cases hnone : parents.positions l.owner = []
      · simpa [linkedPairs, hl, hnone] using h.holds
      · simpa [linkedPairs, hl, hnone] using holds_foldl h.holds l.target l.value hnone
    · rw [mem_positions_foldl, h.mem_positions]
      simp only [List.mem_append, List.mem_singleton, or_and_right, exists_or, exists_eq_left, hl,
        Option.some.injEq, exists_eq_left', @eq_comm _ key]

/-- **What pivot rows link to the positions of parents.** -/
theorem links_of_links {j : PivotJoin} {parents links : KeyIndex} {rows : List Sql.Record}
    (h : j.links parents rows = .ok links) : Links j parents rows links := by
  have hrun : ∀ (rows done : List Sql.Record) (start : KeyIndex), Links j parents done start →
      rows.foldlM (j.link parents) start = .ok links → Links j parents (done ++ rows) links := by
    intro rows
    induction rows with
    | nil =>
      intro done start hstart hfold
      cases hfold
      rwa [List.append_nil]
    | cons r rows ih =>
      intro done start hstart hfold
      rw [List.foldlM_cons] at hfold
      cases hlink : j.link parents start r with
      | error why => simp [hlink, bind, Except.bind] at hfold
      | ok next =>
        rw [hlink] at hfold
        rw [List.append_cons]
        exact ih _ next (hstart.step hlink) hfold
  have hempty : Links j parents [] {} :=
    ⟨KeyIndex.holds_empty, by simp, fun key => List.nodup_nil⟩
  exact hrun rows [] {} hempty h

/-- The values of a pivot row make keys, unless one of them is missing. -/
def HasKeys (j : PivotJoin) (r : Sql.Record) : Prop :=
  ∀ owner target, r.get? j.foreignPivotKey = some owner → r.get? j.relatedPivotKey = some target →
    (∃ k, Key.ofValue owner = .ok k) ∧ ∃ k, Key.ofValue target = .ok k

theorem exists_link {j : PivotJoin} {r : Sql.Record} (h : j.HasKeys r) (parents links : KeyIndex) :
    ∃ links', j.link parents links r = .ok links' := by
  unfold link
  cases howner : r.get? j.foreignPivotKey with
  | none => exact ⟨links, rfl⟩
  | some owner =>
    cases htarget : r.get? j.relatedPivotKey with
    | none => exact ⟨links, rfl⟩
    | some target =>
      obtain ⟨⟨ownerKey, hownerKey⟩, targetKey, htargetKey⟩ := h owner target howner htarget
      simp only [hownerKey, htargetKey, Except.mapError, bind, Except.bind]
      split <;> exact ⟨_, rfl⟩

/-- Pivot rows whose values make keys are read without fail. -/
theorem exists_links {j : PivotJoin} {rows : List Sql.Record} (h : ∀ r ∈ rows, j.HasKeys r)
    (parents : KeyIndex) : ∃ links, j.links parents rows = .ok links := by
  have hfold : ∀ start, ∃ links, rows.foldlM (j.link parents) start = .ok links := by
    induction rows with
    | nil => exact fun start => ⟨start, rfl⟩
    | cons r rows ih =>
      intro start
      obtain ⟨hr, hrest⟩ := List.forall_mem_cons.1 h
      obtain ⟨next, hnext⟩ := exists_link hr parents start
      obtain ⟨links, hlinks⟩ := ih hrest next
      exact ⟨links, by rw [List.foldlM_cons, hnext]; exact hlinks⟩
  exact hfold {}

end PivotJoin

/-! ### Owners -/

namespace OwnerJoin

/-- The key and value of an entity that holds a discriminator. -/
def pairAs? (type id : ColumnInfo) (discriminator : String) (e : Entity) :
    Option (String × Sql.Value) :=
  if discriminatorOf type e = some discriminator then e.keyPair? id else none

/-- The index of the parents with a discriminator among groups. -/
def indexOf (groups : ByName KeyIndex) (discriminator : String) : KeyIndex :=
  (groups.get? discriminator).getD {}

/-- The index of the parents with a discriminator. -/
structure Group (type id : ColumnInfo) (parents : List Entity) (discriminator : String)
    (index : KeyIndex) : Prop where
  holds : index.Holds (parents.filterMap (pairAs? type id discriminator))
  mem_positions : ∀ key position, position ∈ index.positions key ↔
    ∃ p, parents[position]? = some p ∧ discriminatorOf type p = some discriminator ∧
      p.keyText? id = some key
  nodup : ∀ key, (index.positions key).Nodup

/-- Groups after some parents were added. -/
structure Groups (type id : ColumnInfo) (parents : List Entity) (groups : ByName KeyIndex) :
    Prop where
  isSome_get? : ∀ d, (groups.get? d).isSome = true ↔ ∃ p ∈ parents, pairAs? type id d p ≠ none
  group : ∀ d, Group type id parents d (indexOf groups d)

theorem groups_empty (type id : ColumnInfo) : Groups type id [] .empty where
  isSome_get? d := by simp
  group d := ⟨KeyIndex.holds_empty, by simp [indexOf], fun _ => List.nodup_nil⟩

section
variable {type id : ColumnInfo} {parents : List Entity} {d : String} {index : KeyIndex} {e : Entity}

theorem Group.skip (h : Group type id parents d index) (he : pairAs? type id d e = none) :
    Group type id (parents ++ [e]) d index where
  holds := by simpa [he] using h.holds
  mem_positions key position := by
    rw [h.mem_positions]
    simp only [getElem?_concat_eq_some, or_and_right, exists_or, iff_self_or]
    rintro ⟨p, ⟨-, rfl⟩, hd, hkey⟩
    rw [pairAs?, if_pos hd] at he
    rw [← Row.fst_keyPair?, he] at hkey
    cases hkey
  nodup := h.nodup

theorem Group.insert (h : Group type id parents d index) (hd : discriminatorOf type e = some d)
    {key : String} {value : Sql.Value} (hkey : e.joinKey? id = .ok (some (key, value))) :
    Group type id (parents ++ [e]) d (index.insert key value parents.length) where
  holds := by
    have hpair : pairAs? type id d e = some (key, value) := by
      rw [pairAs?, if_pos hd, Row.keyPair?_eq hkey]
    rw [List.filterMap_append, List.filterMap_cons, hpair]
    exact h.holds.insert key value parents.length
  mem_positions k position := by
    simp only [getElem?_concat_eq_some, or_and_right, exists_or, ← h.mem_positions, and_assoc,
      exists_eq_left', hd, Row.keyText?_eq hkey, Option.some_inj, Option.map_some,
      exists_and_left, KeyIndex.positions_insert, List.mem_append]
    by_cases hk : k = key <;> simp [hk, @eq_comm _ key]
  nodup k := by
    rw [KeyIndex.positions_insert]
    by_cases hk : k = key
    · rw [if_pos hk, List.nodup_append]
      refine ⟨h.nodup k, List.nodup_singleton _, ?_⟩
      rintro position hposition _ hlast rfl
      -- positions that were inserted before are those of earlier parents
      obtain ⟨p, hp, -⟩ := (h.mem_positions k position).1 hposition
      rw [List.mem_singleton.1 hlast, List.getElem?_eq_none (Nat.le_refl _)] at hp
      cases hp
    · simpa [hk] using h.nodup k

theorem Groups.skip {groups : ByName KeyIndex} (h : Groups type id parents groups)
    (he : ∀ d, pairAs? type id d e = none) : Groups type id (parents ++ [e]) groups where
  isSome_get? d := by simp [h.isSome_get?, or_and_right, exists_or, he]
  group d := (h.group d).skip (he d)

theorem Groups.insert {groups : ByName KeyIndex} (h : Groups type id parents groups)
    (hd : discriminatorOf type e = some d) {key : String} {value : Sql.Value}
    (hkey : e.joinKey? id = .ok (some (key, value))) :
    Groups type id (parents ++ [e]) (groups.update d fun index =>
      (index.getD {}).insert key value parents.length) := by
  have hpair : ∀ d', pairAs? type id d' e = if d' = d then some (key, value) else none := by
    intro d'
    rw [pairAs?, hd, Row.keyPair?_eq hkey]
    simp [eq_comm]
  refine ⟨fun d' => ?_, fun d' => ?_⟩
  · rw [ByName.get?_update]
    by_cases hsame : d' = d
    · simp [hsame, hpair]
    · simp [hsame, h.isSome_get?, hpair, or_and_right, exists_or]
  · rw [indexOf, ByName.get?_update]
    by_cases hsame : d' = d
    · rw [if_pos hsame, hsame]
      exact (h.group d).insert hd hkey
    · rw [if_neg hsame]
      exact (h.group d').skip (by rw [hpair, if_neg hsame])

end

/-- **Parents are grouped by discriminator and by id.** -/
theorem groups_of_groups {type id : ColumnInfo} {parents : List Entity} {groups : ByName KeyIndex}
    (h : OwnerJoin.groups type id parents = .ok groups) : Groups type id parents groups := by
  have hrun : ∀ (start : Nat) (parents done : List Entity) (before : ByName KeyIndex),
      start = done.length → Groups type id done before →
      addParents type id start parents before = .ok groups →
      Groups type id (done ++ parents) groups := by
    intro start parents done before hstart hbefore hadd
    fun_induction addParents type id start parents before generalizing done with
    | case1 start before =>
      cases hadd
      rwa [List.append_nil]
    | case2 start e rest before hd ih =>
      rw [List.append_cons]
      exact ih _ (by simp [hstart]) (hbefore.skip fun d => by simp [pairAs?, hd]) hadd
    | case3 start e rest before discriminator hd hkey ih =>
      rw [List.append_cons]
      refine ih _ (by simp [hstart]) (hbefore.skip fun d => ?_) hadd
      simp [pairAs?, Row.keyPair?_eq hkey]
    | case4 start e rest before discriminator hd key value hkey ih =>
      subst hstart
      rw [List.append_cons]
      exact ih _ (by simp) (hbefore.insert hd hkey) hadd
    | case5 => cases hadd
  exact hrun 0 parents [] .empty rfl (groups_empty type id) h

end OwnerJoin

end EntityGraph
