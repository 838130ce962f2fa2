import EntityGraph.Proofs.Load.Indexing
import Mathlib.Data.List.Perm.Basic

/-!
# Indexes as partitions

An index is what was inserted, put into groups: there is one group for each key, in the order in
which the keys came first, and it has the positions that were inserted under the key, in order
(`groups_ofInserts`). So all groups together are the inserted positions
(`flatMap_groups_ofInserts`). A batch is indexed by inserting the positions of its entities in order
(`eq_ofInserts_of_ofBatch`), so its groups are the positions of the entities that have a key.
-/

namespace EntityGraph

/-! ### First pairs -/

theorem map_fst_firsts {α : Type} (pairs : List (String × α)) :
    (firsts pairs).map Prod.fst = (pairs.map Prod.fst).eraseDups := by
  induction pairs using List.reverseRecOn with
  | nil => rfl
  | append_singleton pairs p ih =>
    rw [firsts_concat, List.map_append, List.map_append, List.map_singleton, eraseDups_concat, ih]
    split
    · exact List.append_nil _
    · rfl

/-- The first pair under a key is the one that is found there. -/
theorem lookup_of_mem_firsts {α : Type} {pairs : List (String × α)} {p : String × α}
    (hp : p ∈ firsts pairs) : pairs.lookup p.1 = some p.2 := by
  induction pairs using List.reverseRecOn with
  | nil => cases hp
  | append_singleton pairs q ih =>
    rw [firsts_concat, List.mem_append] at hp
    rw [List.lookup_append]
    rcases hp with hp | hp
    · rw [ih hp, Option.some_or]
    · split at hp
      · cases hp
      · next hnew =>
        obtain rfl := List.mem_singleton.1 hp
        have hnone : pairs.lookup p.1 = none := lookup_eq_none fun q hq heq =>
          hnew (heq ▸ List.mem_map_of_mem hq)
        rw [hnone, Option.none_or, List.lookup_cons_self]

/-! ### Keys of entities -/

namespace Row

variable {e : Entity} {column : ColumnInfo}

theorem joinKey?_of_keyPair? {pair : String × Sql.Value} (h : e.keyPair? column = some pair) :
    e.joinKey? column = .ok (some pair) := by
  unfold keyPair? at h
  split at h
  · next pair' hkey =>
    subst h
    exact hkey
  · cases h

/-- An entity whose key can be read has one unless its cell holds a zero. -/
theorem exists_keyPair? (h : ∃ pair, e.joinKey? column = .ok pair) {c : Cell}
    (hcell : e.cell? column.path = some c) (hzero : c.isZero = false) :
    ∃ pair, e.keyPair? column = some pair := by
  obtain ⟨pair, hpair⟩ := h
  rw [keyPair?_eq hpair]
  rw [joinKey?, hcell] at hpair
  simp only [hzero, Bool.false_eq_true, if_false] at hpair
  cases hkey : c.toKey with
  | error why => simp [hkey] at hpair
  | ok key =>
    rw [hkey, Except.ok.injEq] at hpair
    exact ⟨_, hpair.symm⟩

end Row

/-! ### Insertions -/

/-- A position with the key and the value found there. -/
structure Insertion where
  key : String
  value : Sql.Value
  position : Nat

namespace Insertion

/-- The keys of some insertions, in the order in which they came first. -/
def keys (inserted : List Insertion) : List String := (inserted.map key).eraseDups

/-- The positions that were inserted under a key, in order. -/
def positionsUnder (inserted : List Insertion) (k : String) : List Nat :=
  (inserted.filter (·.key = k)).map position

/-- The value that was inserted with a key first. -/
def firstValue? (inserted : List Insertion) (k : String) : Option Sql.Value :=
  (inserted.find? (·.key = k)).map value

variable {inserted : List Insertion} {k : String}

theorem mem_keys : k ∈ keys inserted ↔ k ∈ inserted.map key := List.mem_eraseDups

theorem nodup_keys (inserted : List Insertion) : (keys inserted).Nodup := nodup_eraseDups _

theorem mem_positionsUnder {n : Nat} :
    n ∈ positionsUnder inserted k ↔ ∃ x ∈ inserted, x.key = k ∧ x.position = n := by
  simp [positionsUnder, and_assoc]

theorem lookup_pairs (inserted : List Insertion) (k : String) :
    (inserted.map fun x => (x.key, x.value)).lookup k = firstValue? inserted k := by
  induction inserted with
  | nil => rfl
  | cons x inserted ih =>
    rw [List.map_cons, List.lookup_cons, firstValue?, List.find?_cons]
    by_cases hk : x.key = k
    · simp [hk]
    · rw [beq_eq_false_iff_ne.2 (Ne.symm hk), decide_eq_false hk]
      exact ih

/-- **Positions under distinct keys that cover all insertions are the positions of all
insertions.** -/
theorem flatMap_positionsUnder {ks : List String} (hks : ks.Nodup)
    (hcover : ∀ x ∈ inserted, x.key ∈ ks) :
    (ks.flatMap (positionsUnder inserted)).Perm (inserted.map position) := by
  induction ks generalizing inserted with
  | nil =>
    obtain rfl := List.eq_nil_iff_forall_not_mem.2 fun x hx => List.not_mem_nil (hcover x hx)
    rfl
  | cons k ks ih =>
    obtain ⟨hk, hks⟩ := List.nodup_cons.1 hks
    -- the other keys are those of the insertions that are left
    have hothers : ks.flatMap (positionsUnder inserted)
        = ks.flatMap (positionsUnder (inserted.filter (·.key ≠ k))) := by
      refine List.flatMap_congr fun k' hk' => ?_
      have hne : k' ≠ k := fun heq => hk (heq ▸ hk')
      rw [positionsUnder, positionsUnder, List.filter_filter]
      congr 1
      refine List.filter_congr fun x _ => ?_
      by_cases hx : x.key = k' <;> simp [hx, hne]
    have hcover' : ∀ x ∈ inserted.filter (·.key ≠ k), x.key ∈ ks := fun x hx => by
      obtain ⟨hx, hne⟩ := List.mem_filter.1 hx
      exact (List.mem_cons.1 (hcover x hx)).resolve_left (of_decide_eq_true hne)
    have hrest := ih hks hcover'
    rw [List.flatMap_cons, hothers]
    refine (hrest.append_left _).trans ?_
    rw [positionsUnder, ← List.map_append]
    have hsplit := List.filter_append_perm (fun x : Insertion => decide (x.key = k)) inserted
    simp only [← decide_not] at hsplit
    exact hsplit.map _

end Insertion

namespace KeyIndex

open Insertion (keys positionsUnder firstValue?)

/-- The index after some insertions, one after the other. -/
def ofInserts (inserted : List Insertion) : KeyIndex :=
  inserted.foldl (fun i x => i.insert x.key x.value x.position) {}

theorem ofInserts_concat (inserted : List Insertion) (x : Insertion) :
    ofInserts (inserted ++ [x]) = (ofInserts inserted).insert x.key x.value x.position :=
  List.foldl_concat ..

theorem positions_ofInserts (inserted : List Insertion) (k : String) :
    (ofInserts inserted).positions k = positionsUnder inserted k := by
  induction inserted using List.reverseRecOn with
  | nil => rfl
  | append_singleton inserted x ih =>
    rw [ofInserts_concat, positions_insert, ih, positionsUnder, positionsUnder, List.filter_append,
      List.map_append]
    by_cases hk : k = x.key <;> simp [hk, eq_comm]

theorem holds_ofInserts (inserted : List Insertion) :
    (ofInserts inserted).Holds (inserted.map fun x => (x.key, x.value)) := by
  induction inserted using List.reverseRecOn with
  | nil => exact holds_empty
  | append_singleton inserted x ih =>
    rw [ofInserts_concat, List.map_append]
    exact ih.insert x.key x.value x.position

theorem keys_ofInserts (inserted : List Insertion) :
    (ofInserts inserted).groups.map Prod.fst = keys inserted := by
  rw [(holds_ofInserts inserted).keys_eq, map_fst_firsts, List.map_map]
  rfl

theorem nodup_keys_ofInserts (inserted : List Insertion) :
    ((ofInserts inserted).groups.map Prod.fst).Nodup := by
  rw [keys_ofInserts]
  exact Insertion.nodup_keys inserted

/-- The values are those that came with their keys first. -/
theorem values_ofInserts (inserted : List Insertion) :
    (ofInserts inserted).values.map some = (keys inserted).map (firstValue? inserted) := by
  have hholds := holds_ofInserts inserted
  rw [← keys_ofInserts, hholds.keys_eq, hholds.values_eq, firstValues, List.map_map, List.map_map]
  refine List.map_congr_left fun p hp => ?_
  rw [Function.comp_apply, Function.comp_apply, ← Insertion.lookup_pairs, lookup_of_mem_firsts hp]

/-- **One group for each key, with the positions that were inserted under it.** -/
theorem groups_ofInserts (inserted : List Insertion) :
    (ofInserts inserted).groups
      = (keys inserted).map fun k => (k, positionsUnder inserted k) := by
  have hnodup := nodup_keys_ofInserts inserted
  rw [← keys_ofInserts, List.map_map]
  refine (List.map_id _).symm.trans (List.map_congr_left fun g hg => ?_)
  rw [Function.comp_apply, ← positions_ofInserts, positions, get?, lookup_of_mem hnodup hg]
  rfl

/-- The positions under a key are those that were inserted under it, none if it never was. -/
theorem get?_ofInserts (inserted : List Insertion) (k : String) :
    (ofInserts inserted).get? k
      = if k ∈ inserted.map Insertion.key then some (positionsUnder inserted k) else none := by
  have hnodup := nodup_keys_ofInserts inserted
  rw [get?]
  split
  · next hk =>
    refine lookup_of_mem hnodup ?_
    rw [groups_ofInserts]
    exact List.mem_map_of_mem (Insertion.mem_keys.2 hk)
  · next hk =>
    refine lookup_eq_none fun g hg heq => hk ?_
    rw [← Insertion.mem_keys, ← keys_ofInserts, ← heq]
    exact List.mem_map_of_mem hg

/-- **All groups together are the inserted positions.** -/
theorem flatMap_groups_ofInserts (inserted : List Insertion) :
    ((ofInserts inserted).groups.flatMap Prod.snd).Perm (inserted.map Insertion.position) := by
  rw [groups_ofInserts, List.flatMap_map]
  exact Insertion.flatMap_positionsUnder (Insertion.nodup_keys inserted) fun x hx =>
    Insertion.mem_keys.2 (List.mem_map_of_mem hx)

/-- A position occurs in a group for each key that it was inserted under. -/
theorem countP_groups_ofInserts (inserted : List Insertion) (n : Nat) :
    (ofInserts inserted).groups.countP (n ∈ ·.2)
      = (keys (inserted.filter (·.position = n))).length := by
  rw [groups_ofInserts, List.countP_map, List.countP_eq_length_filter]
  refine List.Perm.length_eq ((List.perm_ext_iff_of_nodup
    ((Insertion.nodup_keys inserted).filter _) (Insertion.nodup_keys _)).2 fun k => ?_)
  simp only [List.mem_filter, Insertion.mem_keys, List.mem_map, Function.comp_apply,
    decide_eq_true_eq, Insertion.mem_positionsUnder]
  constructor
  · rintro ⟨-, x, hx, rfl, rfl⟩
    exact ⟨x, ⟨hx, rfl⟩, rfl⟩
  · rintro ⟨x, ⟨hx, rfl⟩, rfl⟩
    exact ⟨⟨x, hx, rfl⟩, x, hx, rfl, rfl⟩

theorem isEmpty_ofInserts (inserted : List Insertion) :
    (ofInserts inserted).isEmpty = true ↔ inserted = [] := by
  rw [(holds_ofInserts inserted).isEmpty_eq, List.map_eq_nil_iff]

/-! ### Batches -/

/-- What a batch inserts into an index: the position of every entity that has a key. -/
def insertions (column : ColumnInfo) (start : Nat) (batch : List Entity) : List Insertion :=
  (batch.zipIdx start).filterMap fun x =>
    (x.1.keyPair? column).map fun pair => ⟨pair.1, pair.2, x.2⟩

theorem addAll_eq {column : ColumnInfo} {start : Nat} {batch : List Entity} {i i' : KeyIndex}
    (h : addAll column start batch i = .ok i') :
    i' = (insertions column start batch).foldl
      (fun i x => i.insert x.key x.value x.position) i := by
  fun_induction addAll column start batch i with
  | case1 start i =>
    cases h
    rfl
  | case2 start e rest i hkey ih =>
    rw [insertions, List.zipIdx_cons, List.filterMap_cons, Row.keyPair?_eq hkey]
    exact ih h
  | case3 start e rest i key value hkey ih =>
    rw [insertions, List.zipIdx_cons, List.filterMap_cons, Row.keyPair?_eq hkey]
    exact ih h
  | case4 start e rest i why hkey => cases h

/-- A batch is indexed by inserting the positions of its entities in order. -/
theorem eq_ofInserts_of_ofBatch {column : ColumnInfo} {batch : List Entity} {i : KeyIndex}
    (h : ofBatch column batch = .ok i) : i = ofInserts (insertions column 0 batch) :=
  addAll_eq h

theorem pairwise_insertions (column : ColumnInfo) (start : Nat) (batch : List Entity) :
    ((insertions column start batch).map Insertion.position).Pairwise (· < ·) := by
  have hall : (batch.zipIdx start).Pairwise fun x y => x.2 < y.2 := by
    rw [← List.pairwise_map, List.zipIdx_map_snd]
    exact List.pairwise_lt_range'
  rw [insertions, List.map_filterMap, List.pairwise_filterMap]
  refine hall.imp fun {x y} hxy n hn m hm => ?_
  simp only [Option.map_map, Option.map_eq_some_iff, Function.comp_apply] at hn hm
  obtain ⟨-, -, rfl⟩ := hn
  obtain ⟨-, -, rfl⟩ := hm
  exact hxy

theorem mem_insertions {column : ColumnInfo} {batch : List Entity} {x : Insertion} :
    x ∈ insertions column 0 batch ↔ ∃ e, batch[x.position]? = some e ∧
      e.keyPair? column = some (x.key, x.value) := by
  simp only [insertions, List.mem_filterMap, Option.map_eq_some_iff, Prod.exists,
    List.mem_zipIdx_iff_getElem?]
  constructor
  · rintro ⟨e, n, he, k, v, hpair, rfl⟩
    exact ⟨e, he, hpair⟩
  · rintro ⟨e, he, hpair⟩
    exact ⟨e, x.position, he, _, _, hpair, rfl⟩

/-- The groups of an index are the positions of the entities of a batch that do not hold a zero,
by their keys and in order; its values are the keys of some entities, one for each group. -/
structure Partitions (i : KeyIndex) (column : ColumnInfo) (batch : List Entity) : Prop where
  nodup : (i.groups.flatMap Prod.snd).Nodup
  mem_iff : ∀ n, n ∈ i.groups.flatMap Prod.snd ↔
    ∃ e c, batch[n]? = some e ∧ e.cell? column.path = some c ∧ c.isZero = false
  mem_group_iff : ∀ g ∈ i.groups, ∀ n, n ∈ g.2 ↔
    ∃ e, batch[n]? = some e ∧ e.keyText? column = some g.1
  ascending : ∀ g ∈ i.groups, g.2 ≠ [] ∧ g.2.Pairwise (· < ·)
  keys_nodup : (i.groups.map Prod.fst).Nodup
  values : List.Forall₂ (fun key value => ∃ e ∈ batch, e.joinKey? column = .ok (some (key, value)))
    (i.groups.map Prod.fst) i.values

theorem partitions_ofBatch {column : ColumnInfo} {batch : List Entity} {i : KeyIndex}
    (h : ofBatch column batch = .ok i) : i.Partitions column batch := by
  have hkeys := exists_ofBatch_iff.1 ⟨i, h⟩
  have hpositions := positions_ofBatch h
  obtain rfl := eq_ofInserts_of_ofBatch h
  have hperm := flatMap_groups_ofInserts (insertions column 0 batch)
  have hpairwise := pairwise_insertions column 0 batch
  have hgroup : ∀ g ∈ (ofInserts (insertions column 0 batch)).groups,
      g.1 ∈ keys (insertions column 0 batch) ∧
        g.2 = positionsUnder (insertions column 0 batch) g.1 := by
    intro g hg
    rw [groups_ofInserts] at hg
    obtain ⟨k, hk, rfl⟩ := List.mem_map.1 hg
    exact ⟨hk, rfl⟩
  refine ⟨?_, fun n => ?_, fun g hg n => ?_, fun g hg => ⟨?_, ?_⟩, nodup_keys_ofInserts _, ?_⟩
  · exact hperm.nodup_iff.2 (hpairwise.imp Nat.ne_of_lt)
  · rw [hperm.mem_iff, List.mem_map]
    constructor
    · rintro ⟨x, hx, rfl⟩
      obtain ⟨e, he, hpair⟩ := mem_insertions.1 hx
      obtain ⟨c, -, hcell, hzero, -⟩ := Row.cell_of_keyPair? hpair
      exact ⟨e, c, he, hcell, hzero⟩
    · rintro ⟨e, c, he, hcell, hzero⟩
      obtain ⟨pair, hpair⟩ :=
        Row.exists_keyPair? (hkeys e (List.mem_of_getElem? he)) hcell hzero
      exact ⟨⟨pair.1, pair.2, n⟩, mem_insertions.2 ⟨e, he, hpair⟩, rfl⟩
  · rw [(hgroup g hg).2, ← positions_ofInserts, hpositions, mem_keyed]
  · obtain ⟨x, hx, hkey⟩ := List.mem_map.1 (Insertion.mem_keys.1 (hgroup g hg).1)
    rw [(hgroup g hg).2]
    exact List.ne_nil_of_mem (Insertion.mem_positionsUnder.2 ⟨x, hx, hkey, rfl⟩)
  · rw [(hgroup g hg).2]
    exact hpairwise.sublist (List.filter_sublist.map _)
  · have hvalues := values_ofInserts (insertions column 0 batch)
    rw [← keys_ofInserts, ← List.forall₂_eq_eq_eq, List.forall₂_map_left_iff,
      List.forall₂_map_right_iff] at hvalues
    refine hvalues.flip.imp fun k value hfirst => ?_
    obtain ⟨x, hx, rfl⟩ := Option.map_eq_some_iff.1 hfirst.symm
    obtain ⟨e, he, hpair⟩ := mem_insertions.1 (List.mem_of_find?_eq_some hx)
    have hkey := List.find?_some hx
    obtain rfl := of_decide_eq_true hkey
    exact ⟨e, List.mem_of_getElem? he, Row.joinKey?_of_keyPair? hpair⟩

/-- **An index is what was inserted, put into groups.** It has one group and one value for each key,
in the order in which the keys came first, where the value is the one that came first, and under a
key the positions that were inserted under it, in order. All groups together have a position as
often as it was inserted, and a position is in one group for each key that it was inserted under.
The index of a batch, which there is unless a key cannot be read, splits the positions of the
entities that do not hold a zero. -/
theorem partitions_inserted (inserted : List Insertion) (column : ColumnInfo)
    (batch : List Entity) :
    let i := ofInserts inserted
    i.groups.map Prod.fst = keys inserted ∧
    i.values.map some = (keys inserted).map (firstValue? inserted) ∧
    (∀ k, i.get? k
      = if k ∈ inserted.map Insertion.key then some (positionsUnder inserted k) else none) ∧
    (i.groups.flatMap Prod.snd).Perm (inserted.map Insertion.position) ∧
    (∀ n, i.groups.countP (n ∈ ·.2) = (keys (inserted.filter (·.position = n))).length) ∧
    (i.isEmpty = true ↔ inserted = []) ∧
    ((∃ i, ofBatch column batch = .ok i) ↔ ∀ e ∈ batch, ∃ key, e.joinKey? column = .ok key) ∧
    ∀ i, ofBatch column batch = .ok i → i.Partitions column batch := by
  intro i
  exact ⟨keys_ofInserts inserted, values_ofInserts inserted, get?_ofInserts inserted,
    flatMap_groups_ofInserts inserted, countP_groups_ofInserts inserted,
    isEmpty_ofInserts inserted, exists_ofBatch_iff, fun _ => partitions_ofBatch⟩

/-- A row whose join column has no keys. -/
def scoredRow : Entity := ⟨"Author", [.cell ⟨.double, .ofInt 1⟩]⟩

def scoreColumn : ColumnInfo := ⟨"score", "score", [0], false, false, .double⟩

/-- A position that is inserted twice under a key is in one group just the same, and a batch need
not have an index. -/
theorem insertedTwice_inOneGroup :
    (∃ inserted : List Insertion, (inserted.map Insertion.position).count 0 = 2 ∧
      (ofInserts inserted).groups.countP (0 ∈ ·.2) = 1) ∧
    (∃ c, scoredRow.cell? scoreColumn.path = some c ∧ c.isZero = false) ∧
    ∀ i, ofBatch scoreColumn [scoredRow] ≠ .ok i := by
  refine ⟨⟨[⟨"7", .int 7, 0⟩, ⟨"7", .int 7, 0⟩], by decide +kernel, by decide +kernel⟩,
    ⟨⟨.double, .ofInt 1⟩, rfl, by decide +kernel⟩, fun i h => ?_⟩
  have hfails : (ofBatch scoreColumn [scoredRow]).toOption = none := by decide +kernel
  rw [h] at hfails
  cases hfails

/-- Two keys, one of them twice, and a zero. -/
def fourRows : List Entity :=
  ["ada", "eve", "", "ada"].map fun name => ⟨"Author", [.cell ⟨.text, name⟩]⟩

def nameColumn : ColumnInfo := ⟨"name", "name", [0], false, false, .text⟩

theorem partitions_inserted_fourRows :
    (∀ e ∈ fourRows, ∃ key, e.joinKey? nameColumn = .ok key) ∧
    ∃ i, ofBatch nameColumn fourRows = .ok i ∧ i.groups.map Prod.snd = [[0, 3], [1]] ∧
      i.values = [.text "ada", .text "eve"] ∧ i.Partitions nameColumn fourRows := by
  obtain ⟨-, -, -, -, -, -, hexists, hbatch⟩ := partitions_inserted [] nameColumn fourRows
  have hok : (ofBatch nameColumn fourRows).toOption.map (fun i => (i.groups.map Prod.snd, i.values))
      = some ([[0, 3], [1]], [.text "ada", .text "eve"]) := by decide +kernel
  cases h : ofBatch nameColumn fourRows with
  | error why =>
    rw [h] at hok
    cases hok
  | ok i =>
    rw [h] at hok
    obtain ⟨hgroups, hvalues⟩ := Prod.mk.inj (Option.some.inj hok)
    exact ⟨hexists.1 ⟨i, h⟩, i, rfl, hgroups, hvalues, hbatch i h⟩

end KeyIndex

end EntityGraph
