import EntityGraph.Proofs.Load.Linked
import EntityGraph.Proofs.Load.Owned
import EntityGraph.Proofs.Load.Serving

/-!
# Loading a batch, and its entities alone

A relation that is loaded onto a batch in one go holds for every entity what it holds if it is
loaded onto that entity alone (`loadNode_alone`). For this the relation is joined on integers, and
the database looks them up in fixed tables. The keys of one entity are some of the keys of the
batch, for a pivot relation its links are some of the links, and for a relation to owners its
discriminator is one of those that are looked up.
-/

namespace EntityGraph

namespace Plan

open Run
open Sql (Columns Dialect Record Value)

variable {reg : Registry} {σ : Type} {db : Database σ} {plan : Plan} {node : PathNode}
  {type : String} {parents : List Entity} {w w₁ : World reg σ} {info : RelationInfo}
  {d : Dialect} {tables : String → List Columns} {s target : Schema} {i : Nat} {p : Entity}

/-! ### Keys of the parents -/

/-- What the keys of a batch are for an entity in it: those of the entity alone are some of them. -/
structure KeysAlone (s : Schema) (name : String) (parents : List Entity) (p : Entity)
    (column : ColumnInfo) (index index' : KeyIndex) : Prop where
  ofBatch_eq : KeyIndex.ofBatch column [p] = .ok index'
  values_eq : index.values = firstValues (keyPairs column parents)
  values_eq' : index'.values = firstValues (keyPairs column [p])
  integers : AreIntegers (keyPairs column parents)
  integers' : AreIntegers (keyPairs column [p])
  subset : (keyPairs column [p]).map Prod.fst ⊆ (keyPairs column parents).map Prod.fst
  mem_keys : ∀ k, s.keyText? name p = some k → k ∈ (keyPairs column [p]).map Prod.fst
  keyText?_eq_none : index.isEmpty = true ∨ index'.isEmpty = true → s.keyText? name p = none
  isEmpty_of_eq_none : s.keyText? name p = none → index'.isEmpty = true

theorem exists_keysAlone {name : String} {column : ColumnInfo} {index : KeyIndex}
    (hint : s.HasIntegers name) (htyped : ∀ e ∈ parents, s.Typed e)
    (hcolumn : s.column? name = some column) (hindex : KeyIndex.ofBatch column parents = .ok index)
    (hp : p ∈ parents) : ∃ index', KeysAlone s name parents p column index index' := by
  have hkeys : ∀ e ∈ parents, e.joinKey? column = .ok none ∨
      ∃ n, e.joinKey? column = .ok (some ((Key.signed n).encode, .ofInt n)) := fun e he =>
    Schema.exists_joinKey?_of_typed (htyped e he) (Schema.mem_of_column? hcolumn)
      (hint column hcolumn)
  obtain ⟨index', hindex'⟩ : ∃ index', KeyIndex.ofBatch column [p] = .ok index' :=
    KeyIndex.exists_ofBatch_iff.2
      (by simpa using KeyIndex.exists_ofBatch_iff.1 ⟨index, hindex⟩ p hp)
  have hkey : s.keyText? name p = p.keyText? column := by
    rw [Schema.keyText?, hcolumn, Option.bind_some]
  refine ⟨index', hindex', (KeyIndex.holds_ofBatch hindex).values_eq,
    (KeyIndex.holds_ofBatch hindex').values_eq, areIntegers_keyPairs hkeys,
    areIntegers_keyPairs (by simpa using hkeys p hp),
    List.map_subset Prod.fst (List.filterMap_subset _ (by simpa using hp)), fun k hk => ?_, ?_, ?_⟩
  · rw [hkey, ← Row.fst_keyPair?] at hk
    obtain ⟨q, hq, rfl⟩ := Option.map_eq_some_iff.1 hk
    exact List.mem_map_of_mem (List.mem_filterMap.2 ⟨p, by simp, hq⟩)
  · rintro (hempty | hempty)
    · rw [hkey, (KeyIndex.isEmpty_ofBatch hindex).1 hempty p hp]
    · rw [hkey, (KeyIndex.isEmpty_ofBatch hindex').1 hempty p (by simp)]
  · intro hnone
    rw [hkey] at hnone
    rw [KeyIndex.isEmpty_ofBatch hindex']
    simpa using hnone

/-! ### Key relations -/

/-- What a level stages for a parent is staged for the parent alone. -/
theorem succeeds_stageKeyed (hserves : db.Serves d tables) (hplain : plan.IsPlain node)
    {kind : RelationKind} {j : Join} (hjoins : j.JoinsIntegers reg tables s)
    (htyped : ∀ e ∈ parents, s.Typed e)
    {staged : List (Nat × Entity)}
    (hstage : (plan.stageKeyed db node kind j s parents).run w = (.ok staged, w₁))
    (hp : parents[i]? = some p) :
    Succeeds (plan.stageKeyed db node kind j s [p] : Run reg σ _) fun staged' =>
      Staged.atPosition staged' 0 = Staged.atPosition staged i := by
  obtain ⟨column, index, hcolumn, hindex, hcases⟩ := selected_of_stageKeyed hstage
  obtain ⟨index', hkeys⟩ := exists_keysAlone hjoins.parent htyped hcolumn hindex
    (List.mem_of_getElem? hp)
  unfold stageKeyed
  refine (ensures_mapped (by rw [hcolumn]; rfl)).bind fun c hc => ?_
  obtain rfl : column = c := Option.some.inj (hcolumn.symm.trans hc)
  refine (ensures_ofExcept_of hkeys.ofBatch_eq).bind fun _ heq => ?_
  obtain rfl := heq.symm
  by_cases hempty : index'.isEmpty = true
  · -- a parent without a key holds nothing, whatever the others hold
    rw [if_pos hempty]
    refine (ensures_emit _).bind fun _ _ => Ensures.pure ?_
    obtain ⟨-, rfl, -⟩ | ⟨-, target, rows, -, hstaged⟩ := hcases
    · rfl
    · rw [atPosition_keyed hcolumn hindex hstaged hp, Join.rowsOf,
        hkeys.keyText?_eq_none (.inr hempty)]
      rfl
  rw [if_neg hempty]
  obtain ⟨hnone, -⟩ | ⟨-, target, rows, hselected, hstaged⟩ := hcases
  · exact absurd (hkeys.isEmpty_of_eq_none (hkeys.keyText?_eq_none (.inl hnone))) hempty
  rw [joinScope_eq, hkeys.values_eq] at hselected
  rw [joinScope_eq, hkeys.values_eq']
  refine (succeeds_fetch hserves hplain hselected (hjoins.target target hselected.schema_eq)
    hjoins.stored hkeys.integers hkeys.integers' hkeys.subset index' _).imp fun staged' h => ?_
  obtain ⟨rows', hstaged', hfilter⟩ := h
  have hp' : [p][0]? = some p := rfl
  rw [atPosition_keyed hcolumn hindex hstaged hp,
    atPosition_keyed hcolumn hkeys.ofBatch_eq hstaged' hp', Join.rowsOf, Join.rowsOf]
  cases hk : s.keyText? j.parentColumn p with
  | none => rfl
  | some k => exact hfilter _ fun e he => ⟨k, hkeys.mem_keys k hk, by simpa using he⟩

/-! ### Pivot relations -/

section
variable {j : PivotJoin} {row : Columns}

/-- A pivot row of integers links one integer to another. -/
theorem linkOf?_recordOf (hforeign : (row j.foreignPivotKey).IsStoredInt)
    (hrelated : (row j.relatedPivotKey).IsStoredInt) {l : PivotJoin.Link}
    (h : j.linkOf? (recordOf [j.foreignPivotKey, j.relatedPivotKey] row) = some l) :
    (∃ n, row j.foreignPivotKey = .ofInt n ∧ l.owner = (Key.signed n).encode) ∧
      ∃ n, l.target = (Key.signed n).encode ∧ l.value = .ofInt n := by
  obtain ⟨owner, howner, hinteger, hencode⟩ := Key.exists_ofValue hforeign
  obtain ⟨target, htarget, hinteger', hencode'⟩ := Key.exists_ofValue hrelated
  rw [PivotJoin.linkOf?, get?_recordOf (by simp), get?_recordOf (by simp)] at h
  simp only [Option.bind_eq_bind, Option.bind_some, howner, htarget, Except.toOption] at h
  split at h
  · cases h
  · next hzero =>
    simp only [Bool.or_eq_true, not_or, Bool.not_eq_true] at hzero
    cases h
    obtain ⟨n, hn⟩ := hinteger hzero.1
    obtain ⟨m, hm⟩ := hinteger' hzero.2
    exact ⟨⟨n, hn, hencode n hn⟩, m, hencode' m hm, hm⟩

theorem hasKeys_recordOf (hforeign : (row j.foreignPivotKey).IsStoredInt)
    (hrelated : (row j.relatedPivotKey).IsStoredInt) :
    j.HasKeys (recordOf [j.foreignPivotKey, j.relatedPivotKey] row) := by
  intro owner target howner htarget
  rw [get?_recordOf (by simp), Option.some.injEq] at howner htarget
  subst howner htarget
  obtain ⟨ownerKey, hownerKey, -⟩ := Key.exists_ofValue hforeign
  obtain ⟨targetKey, htargetKey, -⟩ := Key.exists_ofValue hrelated
  exact ⟨⟨ownerKey, hownerKey⟩, targetKey, htargetKey⟩

/-- Pivot rows of some parents, read from a table of integers. -/
abbrev servedPivots (d : Dialect) (tables : String → List Columns) (j : PivotJoin)
    (pairs : List (String × Value)) : List Record :=
  served d (tables j.pivotTable) [j.foreignPivotKey, j.relatedPivotKey]
    (lookupScope j.foreignPivotKey none (firstValues pairs))

theorem mem_servedPivots (hd : d.IsExact)
    (hforeign : HoldIntegers (tables j.pivotTable) j.foreignPivotKey)
    {pairs : List (String × Value)} (hpairs : AreIntegers pairs) {r : Record} :
    r ∈ servedPivots d tables j pairs ↔ ∃ row ∈ tables j.pivotTable,
      (∃ n, row j.foreignPivotKey = .ofInt n ∧ (Key.signed n).encode ∈ pairs.map Prod.fst) ∧
        recordOf [j.foreignPivotKey, j.relatedPivotKey] row = r := by
  rw [servedPivots, served, List.mem_map]
  simp only [List.mem_filter, decide_eq_true_eq, and_assoc]
  refine exists_congr fun row => and_congr_right fun hrow => ?_
  rw [← truth_among hd hpairs (hforeign row hrow)]
  rfl

/-- Pivot rows that link a key are read whenever the key is asked for. -/
theorem exists_isLink_iff (hd : d.IsExact)
    (hforeign : HoldIntegers (tables j.pivotTable) j.foreignPivotKey)
    (hrelated : HoldIntegers (tables j.pivotTable) j.relatedPivotKey)
    {pairs pairs' : List (String × Value)} (hpairs : AreIntegers pairs)
    (hpairs' : AreIntegers pairs') (hsub : pairs'.map Prod.fst ⊆ pairs.map Prod.fst)
    {owner : String} (howner : owner ∈ pairs'.map Prod.fst) (key : String) :
    (∃ r ∈ servedPivots d tables j pairs', j.IsLink owner key r) ↔
      ∃ r ∈ servedPivots d tables j pairs, j.IsLink owner key r := by
  simp only [mem_servedPivots hd hforeign hpairs, mem_servedPivots hd hforeign hpairs']
  constructor
  · rintro ⟨r, ⟨row, hrow, ⟨n, hn, hkey⟩, rfl⟩, hlink⟩
    exact ⟨_, ⟨row, hrow, ⟨n, hn, hsub hkey⟩, rfl⟩, hlink⟩
  · rintro ⟨r, ⟨row, hrow, -, rfl⟩, l, hl, hlowner, hltarget⟩
    obtain ⟨⟨n, hn, henc⟩, -⟩ := linkOf?_recordOf (hforeign row hrow) (hrelated row hrow) hl
    refine ⟨_, ⟨row, hrow, ⟨n, hn, ?_⟩, rfl⟩, l, hl, hlowner, hltarget⟩
    rwa [← henc, hlowner]

theorem areIntegers_linked (hd : d.IsExact)
    (hforeign : HoldIntegers (tables j.pivotTable) j.foreignPivotKey)
    (hrelated : HoldIntegers (tables j.pivotTable) j.relatedPivotKey)
    {pairs : List (String × Value)} (hpairs : AreIntegers pairs) (s : Schema)
    (parents : List Entity) : AreIntegers (j.linked s parents (servedPivots d tables j pairs)) := by
  intro q hq
  obtain ⟨r, hr, hlink⟩ := List.mem_filterMap.1 hq
  obtain ⟨row, hrow, -, rfl⟩ := (mem_servedPivots hd hforeign hpairs).1 hr
  obtain ⟨l, hl, hq⟩ := Option.bind_eq_some_iff.1 hlink
  obtain ⟨-, n, htarget, hvalue⟩ := linkOf?_recordOf (hforeign row hrow) (hrelated row hrow) hl
  split at hq
  · cases hq
    exact ⟨n, by rw [htarget, hvalue]⟩
  · cases hq

theorem mem_keys_linked {s : Schema} {parents : List Entity} {pivots : List Record}
    {key : String} : key ∈ (j.linked s parents pivots).map Prod.fst ↔
      ∃ p ∈ parents, ∃ owner, s.keyText? j.parentKey p = some owner ∧
        ∃ r ∈ pivots, j.IsLink owner key r := by
  simp only [PivotJoin.linked, List.mem_map, List.mem_filterMap, PivotJoin.IsLink]
  constructor
  · rintro ⟨q, ⟨r, hr, hlink⟩, rfl⟩
    obtain ⟨l, hl, hq⟩ := Option.bind_eq_some_iff.1 hlink
    split at hq
    · next h =>
      obtain ⟨p, hp, hkey⟩ := h
      cases hq
      exact ⟨p, hp, l.owner, hkey, r, hr, l, hl, rfl, rfl⟩
    · cases hq
  · rintro ⟨p, hp, owner, hkey, r, hr, l, hl, rfl, rfl⟩
    exact ⟨(l.target, l.value), ⟨r, hr, by rw [hl, Option.bind_some, if_pos ⟨p, hp, hkey⟩]⟩, rfl⟩

end

theorem succeeds_selectPivot (hserves : db.Serves d tables) {j : PivotJoin}
    (haccepted : Sql.Accepted j.pivotTable) (pairs : List (String × Value)) :
    Succeeds (selectPivot db j (firstValues pairs) : Run reg σ _)
      (· = servedPivots d tables j pairs) := by
  refine (ensures_checkName_of haccepted).bind fun _ _ => ?_
  exact succeeds_issue hserves .pivot j.pivotTable [j.foreignPivotKey, j.relatedPivotKey]
    j.foreignPivotKey none (firstValues pairs)

/-- Rows that are not linked are not held. -/
theorem rowsOf_eq_nil {j : PivotJoin} {pivots : List Record} (rows : List Entity)
    (h : ∀ owner, s.keyText? j.parentKey p = some owner → ∀ key, ¬ ∃ r ∈ pivots,
      j.IsLink owner key r) : j.rowsOf s target pivots rows p = [] := by
  refine List.filter_eq_nil_iff.2 fun row _ => ?_
  cases hk : s.keyText? j.parentKey p with
  | none => simp
  | some owner => cases target.keyText? j.relatedKey row <;> simp [h owner hk]

/-- The same rows are held if the same are linked, and rows are left out only if they are not. -/
theorem rowsOf_congr {j : PivotJoin} {pivots pivots' : List Record} {rows rows' : List Entity}
    (h : ∀ owner, s.keyText? j.parentKey p = some owner → ∀ key,
      (∃ r ∈ pivots', j.IsLink owner key r) ↔ ∃ r ∈ pivots, j.IsLink owner key r)
    (hfilter : ∀ q : Entity → Bool, (∀ e, q e = true → ∃ k ∈ (j.linked s [p] pivots').map Prod.fst,
      target.keyText? j.relatedKey e = some k) → rows'.filter q = rows.filter q) :
    j.rowsOf s target pivots' rows' p = j.rowsOf s target pivots rows p := by
  cases hk : s.keyText? j.parentKey p with
  | none =>
    rw [rowsOf_eq_nil rows (by simp [hk]), rowsOf_eq_nil rows' (by simp [hk])]
  | some owner =>
    have hsame : j.rowsOf s target pivots' rows' p = j.rowsOf s target pivots rows' p := by
      refine List.filter_congr fun row _ => ?_
      rw [hk]
      cases target.keyText? j.relatedKey row <;> simp [h owner hk]
    rw [hsame]
    refine hfilter _ fun e he => ?_
    rw [hk] at he
    cases hkey : target.keyText? j.relatedKey e with
    | none => simp [hkey] at he
    | some key =>
      simp only [hkey, decide_eq_true_eq] at he
      exact ⟨key, mem_keys_linked.2 ⟨p, by simp, owner, hk, (h owner hk key).2 he⟩, rfl⟩

/-- What the links of a batch are for a parent in it: those of the parent alone are some of them. -/
structure LinksAlone (j : PivotJoin) (s : Schema) (parents : List Entity) (p : Entity)
    (pivots pivots' : List Record) (index' links links' : KeyIndex) : Prop where
  links_eq : j.links index' pivots' = .ok links'
  holds : links.Holds (j.linked s parents pivots)
  holds' : links'.Holds (j.linked s [p] pivots')
  integers : AreIntegers (j.linked s parents pivots)
  integers' : AreIntegers (j.linked s [p] pivots')
  subset : (j.linked s [p] pivots').map Prod.fst ⊆ (j.linked s parents pivots).map Prod.fst
  isLink_iff : ∀ owner, s.keyText? j.parentKey p = some owner → ∀ key,
    (∃ r ∈ pivots', j.IsLink owner key r) ↔ ∃ r ∈ pivots, j.IsLink owner key r

theorem exists_linksAlone (hd : d.IsExact) {j : PivotJoin} (hjoins : j.JoinsIntegers reg tables s)
    {column : ColumnInfo} {index index' links : KeyIndex}
    (hcolumn : s.column? j.parentKey = some column)
    (hindex : KeyIndex.ofBatch column parents = .ok index)
    (hkeys : KeysAlone s j.parentKey parents p column index index')
    (hlinks : j.links index (servedPivots d tables j (keyPairs column parents)) = .ok links)
    (hp : p ∈ parents) :
    ∃ links', LinksAlone j s parents p (servedPivots d tables j (keyPairs column parents))
      (servedPivots d tables j (keyPairs column [p])) index' links links' := by
  obtain ⟨links', hlinks'⟩ : ∃ links,
      j.links index' (servedPivots d tables j (keyPairs column [p])) = .ok links := by
    refine PivotJoin.exists_links (fun r hr => ?_) index'
    obtain ⟨row, hrow, -, rfl⟩ := (mem_servedPivots hd hjoins.foreign hkeys.integers').1 hr
    exact hasKeys_recordOf (hjoins.foreign row hrow) (hjoins.related row hrow)
  have hsame : ∀ owner, s.keyText? j.parentKey p = some owner → ∀ key,
      (∃ r ∈ servedPivots d tables j (keyPairs column [p]), j.IsLink owner key r) ↔
        ∃ r ∈ servedPivots d tables j (keyPairs column parents), j.IsLink owner key r :=
    fun owner hk => exists_isLink_iff hd hjoins.foreign hjoins.related hkeys.integers
      hkeys.integers' hkeys.subset (hkeys.mem_keys owner hk)
  refine ⟨links', hlinks', ?_, ?_,
    areIntegers_linked hd hjoins.foreign hjoins.related hkeys.integers s parents,
    areIntegers_linked hd hjoins.foreign hjoins.related hkeys.integers' s [p], ?_, hsame⟩
  · rw [← linkedPairs_eq hcolumn hindex]
    exact (PivotJoin.links_of_links hlinks).holds
  · rw [← linkedPairs_eq hcolumn hkeys.ofBatch_eq]
    exact (PivotJoin.links_of_links hlinks').holds
  · intro key hkey
    obtain ⟨e, he, owner, hk, hex⟩ := mem_keys_linked.1 hkey
    obtain rfl := List.mem_singleton.1 he
    exact mem_keys_linked.2 ⟨e, hp, owner, hk, (hsame owner hk key).1 hex⟩

/-- What a pivot level stages for a parent is staged for the parent alone. -/
theorem succeeds_stagePivot (hserves : db.Serves d tables) (hplain : plan.IsPlain node)
    {j : PivotJoin} (hjoins : j.JoinsIntegers reg tables s) (htyped : ∀ e ∈ parents, s.Typed e)
    {staged : List (Nat × Entity)}
    (hstage : (plan.stagePivot db node j s parents).run w = (.ok staged, w₁))
    (hp : parents[i]? = some p) :
    Succeeds (plan.stagePivot db node j s [p] : Run reg σ _) fun staged' =>
      Staged.atPosition staged' 0 = Staged.atPosition staged i := by
  obtain ⟨column, index, hcolumn, hindex, hcases⟩ := stagePivot_eq_ok hstage
  have hmem := List.mem_of_getElem? hp
  obtain ⟨index', hkeys⟩ := exists_keysAlone hjoins.parent htyped hcolumn hindex hmem
  unfold stagePivot
  refine (ensures_mapped (by rw [hcolumn]; rfl)).bind fun c hc => ?_
  obtain rfl : column = c := Option.some.inj (hcolumn.symm.trans hc)
  refine (ensures_ofExcept_of hkeys.ofBatch_eq).bind fun _ heq => ?_
  obtain rfl := heq.symm
  by_cases hempty : index'.isEmpty = true
  · -- a parent without a key holds nothing, whatever the others hold
    rw [if_pos hempty]
    refine (ensures_emit _).bind fun _ _ => Ensures.pure ?_
    obtain ⟨-, rfl, -⟩ | ⟨-, pivots, links, w₂, -, -, hlinks,
      ⟨-, rfl, -⟩ | ⟨-, target, rows, -, hstaged⟩⟩ := hcases
    · rfl
    · rfl
    · have hnone := hkeys.keyText?_eq_none (.inr hempty)
      rw [atPosition_linked hcolumn hindex hlinks hstaged hp]
      exact (rowsOf_eq_nil rows fun owner hk => by rw [hnone] at hk; cases hk).symm
  rw [if_neg hempty]
  obtain ⟨hnone, -⟩ | ⟨-, pivots, links, w₂, haccepted, hanswered, hlinks, hlinked⟩ := hcases
  · exact absurd (hkeys.isEmpty_of_eq_none (hkeys.keyText?_eq_none (.inl hnone))) hempty
  rw [hkeys.values_eq] at hanswered
  obtain rfl : servedPivots d tables j (keyPairs column parents) = pivots :=
    Except.ok.inj ((hserves.answer_eq ..).symm.trans hanswered.answer_eq)
  obtain ⟨links', halone⟩ := exists_linksAlone hserves.exact hjoins hcolumn hindex hkeys hlinks hmem
  rw [hkeys.values_eq']
  refine (succeeds_selectPivot hserves haccepted _).bind fun _ heq => ?_
  subst heq
  refine (ensures_ofExcept_of halone.links_eq).bind fun _ heq => ?_
  obtain rfl := heq.symm
  by_cases hunlinked : links'.isEmpty = true
  · -- no row of the batch is linked to the parent, or it would be linked to the parent alone
    rw [if_pos hunlinked]
    refine (ensures_emit _).bind fun _ _ => Ensures.pure ?_
    obtain ⟨-, rfl, -⟩ | ⟨-, target, rows, -, hstaged⟩ := hlinked
    · rfl
    · rw [atPosition_linked hcolumn hindex hlinks hstaged hp]
      refine (rowsOf_eq_nil rows fun owner hk key hex => ?_).symm
      have hkey := mem_keys_linked.2
        ⟨p, List.mem_singleton_self p, owner, hk, (halone.isLink_iff owner hk key).2 hex⟩
      rw [halone.holds'.isEmpty_eq.1 hunlinked] at hkey
      cases hkey
  rw [if_neg hunlinked]
  obtain ⟨hnone, -⟩ | ⟨-, target, rows, hselected, hstaged⟩ := hlinked
  · have hsub := halone.subset
    rw [halone.holds.isEmpty_eq.1 hnone, List.map_nil, List.subset_nil, List.map_eq_nil_iff] at hsub
    exact absurd (halone.holds'.isEmpty_eq.2 hsub) hunlinked
  rw [halone.holds.values_eq, among_eq] at hselected
  rw [halone.holds'.values_eq, among_eq]
  refine (succeeds_fetch hserves hplain hselected (hjoins.target target hselected.schema_eq)
    hjoins.stored halone.integers halone.integers' halone.subset links' _).imp fun staged' h => ?_
  obtain ⟨rows', hstaged', hfilter⟩ := h
  have hp' : [p][0]? = some p := rfl
  rw [atPosition_linked hcolumn hindex hlinks hstaged hp,
    atPosition_linked hcolumn hkeys.ofBatch_eq halone.links_eq hstaged' hp']
  exact rowsOf_congr halone.isLink_iff hfilter

/-! ### Owners -/

section
variable {j : OwnerJoin} {typeColumn idColumn : ColumnInfo}

theorem FoundOwners.scanAll_eq (hserves : db.Serves d tables) (hplain : plan.IsPlain node)
    {values : List Value} {g : Owners} {owners : List Entity}
    (h : FoundOwners db plan node j values w w₁ g owners) :
    g.schema.scanAll (served d (tables g.schema.table) g.schema.columnNames
      (lookupScope g.column.column none values)) = .ok g.rows := by
  obtain ⟨columns, hcolumns, hstatement⟩ := h.statement_eq
  obtain ⟨records, w₂, hanswered, hscan, -⟩ := h.answered
  have hanswer := hanswered.answer_eq
  rw [hstatement, hplain.constrain_eq, among_eq, hserves.answer_eq,
    hcolumns hplain.columns_eq] at hanswer
  rwa [← Except.ok.inj hanswer] at hscan

theorem areIntegers_pairAs? (typeColumn : ColumnInfo)
    (hid : s.column? j.idColumn = some idColumn) (hint : s.HasIntegers j.idColumn)
    (htyped : ∀ e ∈ parents, s.Typed e) (discriminator : String) :
    AreIntegers (parents.filterMap (OwnerJoin.pairAs? typeColumn idColumn discriminator)) := by
  intro q hq
  obtain ⟨e, he, hpair⟩ := List.mem_filterMap.1 hq
  have hkey : e.keyPair? idColumn = some q := by
    unfold OwnerJoin.pairAs? at hpair
    split at hpair
    · exact hpair
    · cases hpair
  refine areIntegers_keyPairs (fun e he => ?_) q (List.mem_filterMap.2 ⟨e, he, hkey⟩)
  exact Schema.exists_joinKey?_of_typed (htyped e he) (Schema.mem_of_column? hid)
    (hint idColumn hid)

/-- Owners that were found for a batch are found for one parent alone. -/
theorem FoundOwners.scanAll_alone (hserves : db.Serves d tables) (hplain : plan.IsPlain node)
    (hjoins : j.JoinsIntegers reg tables s) (hid : s.column? j.idColumn = some idColumn)
    (htyped : ∀ e ∈ parents, s.Typed e)
    (hp : p ∈ parents) {g : Owners} {owners : List Entity}
    (h : FoundOwners db plan node j (referred typeColumn idColumn parents g.discriminator) w w₁ g
      owners) :
    ∃ rows, g.schema.scanAll (served d (tables g.schema.table) g.schema.columnNames
        (lookupScope g.column.column none (referred typeColumn idColumn [p] g.discriminator)))
          = .ok rows ∧
      ∀ k, OwnerJoin.discriminatorOf typeColumn p = some g.discriminator →
        p.keyText? idColumn = some k →
        (rows.find? fun row => row.keyText? g.column = some k)
          = g.rows.find? fun row => row.keyText? g.column = some k := by
  obtain ⟨hinteger, hstored⟩ := hjoins.owner _ _ _ _ h.type_eq h.schema_eq h.column_eq
  have hpairs := areIntegers_pairAs? typeColumn hid hjoins.id htyped g.discriminator
  have hpairs' := areIntegers_pairAs? typeColumn hid hjoins.id
    (List.forall_mem_singleton.2 (htyped p hp)) g.discriminator
  have hcolumn : g.schema.HasIntegers g.column.column := by
    intro c hc
    rw [h.column?_eq] at hc
    cases hc
    exact hinteger
  have hsub : ([p].filterMap (OwnerJoin.pairAs? typeColumn idColumn g.discriminator)).map Prod.fst
      ⊆ (parents.filterMap (OwnerJoin.pairAs? typeColumn idColumn g.discriminator)).map Prod.fst :=
    List.map_subset _ (List.filterMap_subset _ (by simpa using hp))
  obtain ⟨rows, hscan, hfilter⟩ := Schema.scanAll_alone h.schema_eq hserves.exact hstored hcolumn
    hpairs hpairs' hsub (h.scanAll_eq hserves hplain)
  refine ⟨rows, hscan, fun k hd hk => ?_⟩
  rw [← List.head?_filter, ← List.head?_filter]
  refine congrArg List.head? (hfilter _ fun e he => ⟨k, ?_, ?_⟩)
  · rw [← Row.fst_keyPair?] at hk
    obtain ⟨q, hq, rfl⟩ := Option.map_eq_some_iff.1 hk
    refine List.mem_map_of_mem (List.mem_filterMap.2 ⟨p, by simp, ?_⟩)
    rwa [OwnerJoin.pairAs?, if_pos hd]
  · rw [Schema.keyText?, h.column?_eq, Option.bind_some]
    simpa using he

/-- Of the owners of a discriminator, a parent refers to the same one when it is alone. -/
theorem FoundOwners.rowFor?_alone (hserves : db.Serves d tables) (hplain : plan.IsPlain node)
    (hjoins : j.JoinsIntegers reg tables s) (hid : s.column? j.idColumn = some idColumn)
    (htyped : ∀ e ∈ parents, s.Typed e)
    (hp : p ∈ parents) {g g' : Owners} {owners owners' : List Entity} {w' w₁' : World reg σ}
    (h : FoundOwners db plan node j (referred typeColumn idColumn parents g.discriminator) w w₁ g
      owners)
    (h' : FoundOwners db plan node j (referred typeColumn idColumn [p] g'.discriminator) w' w₁' g'
      owners')
    (hsame : g'.discriminator = g.discriminator)
    (hd : OwnerJoin.discriminatorOf typeColumn p = some g.discriminator) :
    g'.rowFor? idColumn p = g.rowFor? idColumn p := by
  have htype : g'.schema.type = g.schema.type :=
    Option.some.inj (h'.type_eq.symm.trans (hsame ▸ h.type_eq))
  have hschema : g'.schema = g.schema :=
    Except.ok.inj (h'.schema_eq.symm.trans (htype ▸ h.schema_eq))
  have hcolumn : g'.column = g.column :=
    Option.some.inj (h'.column_eq.symm.trans (hschema ▸ h.column_eq))
  obtain ⟨rows, hscan, hfind⟩ := h.scanAll_alone hserves hplain hjoins hid htyped hp
  have hscan' := h'.scanAll_eq hserves hplain
  rw [hschema, hcolumn, hsame, hscan] at hscan'
  rw [Owners.rowFor?, Owners.rowFor?, hcolumn, ← Except.ok.inj hscan']
  cases hk : p.keyText? idColumn with
  | none => rfl
  | some k => exact hfind k hd hk

/-- The owners of a discriminator that were found for a batch can be looked up for one parent. -/
theorem succeeds_stageOwners (hserves : db.Serves d tables) (hplain : plan.IsPlain node)
    (hjoins : j.JoinsIntegers reg tables s) (hid : s.column? j.idColumn = some idColumn)
    (htyped : ∀ e ∈ parents, s.Typed e)
    (hp : p ∈ parents) {g : Owners} {owners : List Entity}
    (h : FoundOwners db plan node j (referred typeColumn idColumn parents g.discriminator) w w₁ g
      owners)
    {index : KeyIndex} (hvalues : index.values = referred typeColumn idColumn [p] g.discriminator) :
    Succeeds (plan.stageOwners db (plan.below db node) node j g.discriminator index :
      Run reg σ _) fun _ => True := by
  obtain ⟨rows, hscan, -⟩ := h.scanAll_alone hserves hplain hjoins hid htyped hp
  have hnames : ∀ values, ∀ n ∈ (lookupScope g.column.column none values).names,
      Sql.Accepted n := by
    intro values
    rw [lookupScope_names _ _ values (referred typeColumn idColumn parents g.discriminator),
      ← among_eq, ← hplain.constrain_eq (among ..)]
    exact h.names_accepted
  unfold stageOwners
  rw [h.type_eq]
  refine (ensures_schema_of h.schema_eq).bind fun s' heq => ?_
  rw [← heq]
  refine ((ensures_ownerColumn j h.schema_eq).weaken fun e he => ?_).bind fun column hcolumn => ?_
  · rw [h.column_eq] at he
    cases he.1
  obtain rfl : g.column = column := Option.some.inj (h.column_eq.symm.trans hcolumn)
  rw [among_eq, hvalues]
  refine (succeeds_select hserves hplain h.schema_eq (hnames _) h.table_accepted hscan).bind
    fun _ heq => ?_
  rw [heq]
  have hbelow : Succeeds (plan.below db node g.schema.type rows : Run reg σ _) (· = rows) := by
    refine ensures_ofLoaded ?_
    rw [hplain.children_eq, loadNodes]
    exact Yields.pure rfl
  refine hbelow.bind fun _ heq => ?_
  rw [heq]
  obtain ⟨staged, hstaged⟩ := (KeyIndex.exists_correlate_iff index).2
    (Schema.joinKey?_scanAll h.schema_eq hscan (Schema.mem_of_column? h.column?_eq)
      (hjoins.owner _ _ _ _ h.type_eq h.schema_eq h.column_eq).1)
  refine (ensures_ofExcept_of hstaged).bind fun _ _ => ?_
  exact (ensures_emit _).bind fun _ _ => Ensures.pure trivial

theorem succeeds_stageGroups (hserves : db.Serves d tables) (hplain : plan.IsPlain node)
    (hjoins : j.JoinsIntegers reg tables s) (hid : s.column? j.idColumn = some idColumn)
    (htyped : ∀ e ∈ parents, s.Typed e)
    (hp : p ∈ parents) {ds : List String} {found : List Owners}
    (hfound : FoundAll db plan node j (referred typeColumn idColumn parents) ds w w₁ found)
    {groups : List (String × KeyIndex)} (hgroups : Grouping typeColumn idColumn [p] groups)
    (hsub : groups.map Prod.fst ⊆ ds) :
    Succeeds (plan.stageGroups db (plan.below db node) node j groups : Run reg σ _)
      fun _ => True := by
  induction groups with
  | nil => exact Ensures.pure trivial
  | cons group groups ih =>
    obtain ⟨discriminator, index⟩ := group
    obtain ⟨hgroup, hrest⟩ := List.forall_mem_cons.1 hgroups.group
    obtain ⟨hmem, hsub⟩ := List.cons_subset.1 hsub
    have hfirst : Succeeds (plan.stageOwners db (plan.below db node) node j discriminator index :
        Run reg σ _) fun _ => True := by
      by_cases hd : j.types.get? discriminator = none
      · exact (stageOwners_unmapped hd _ _).mono (fun _ => False.elim) (fun _ => id)
          fun _ _ => trivial
      · obtain ⟨g, owners, w, w₁, -, rfl, hfinds⟩ := hfound.find?_eq_some hmem hd
        exact succeeds_stageOwners hserves hplain hjoins hid htyped hp hfinds
          hgroup.holds.values_eq
    refine hfirst.bind fun _ _ => ?_
    refine (ih ⟨(List.pairwise_cons.1 hgroups.ordered).2, hrest⟩ hsub).bind fun _ _ => ?_
    exact Ensures.pure trivial

/-- A parent refers to the same owner when it is alone. -/
theorem refer?_alone (hserves : db.Serves d tables) (hplain : plan.IsPlain node)
    (hjoins : j.JoinsIntegers reg tables s) (hid : s.column? j.idColumn = some idColumn)
    (htyped : ∀ e ∈ parents, s.Typed e)
    (hp : p ∈ parents) {ds ds' : List String} {found found' : List Owners} {w' w₁' : World reg σ}
    (hpresent : Present typeColumn idColumn parents ds)
    (hpresent' : Present typeColumn idColumn [p] ds')
    (hfound : FoundAll db plan node j (referred typeColumn idColumn parents) ds w w₁ found)
    (hfound' : FoundAll db plan node j (referred typeColumn idColumn [p]) ds' w' w₁' found') :
    (Owners.refer? typeColumn idColumn found' p).map (fun r => (r.1.discriminator, r.2))
      = (Owners.refer? typeColumn idColumn found p).map fun r => (r.1.discriminator, r.2) := by
  cases hd : OwnerJoin.discriminatorOf typeColumn p with
  | none => simp [Owners.refer?, hd]
  | some discriminator =>
    by_cases hk : p.keyText? idColumn = none
    · simp [Owners.refer?, Owners.rowFor?, hk]
    by_cases hmapped : j.types.get? discriminator = none
    · simp [Owners.refer?, hd, hfound.find?_eq_none hmapped, hfound'.find?_eq_none hmapped]
    obtain ⟨g, owners, w, w₁, hg, hsame, hfinds⟩ :=
      hfound.find?_eq_some ((hpresent.mem_iff _).2 ⟨p, hp, hd, hk⟩) hmapped
    obtain ⟨g', owners', w', w₁', hg', hsame', hfinds'⟩ :=
      hfound'.find?_eq_some ((hpresent'.mem_iff _).2 ⟨p, by simp, hd, hk⟩) hmapped
    have hrow := hfinds.rowFor?_alone hserves hplain hjoins hid htyped hp hfinds'
      (hsame'.trans hsame.symm) (by rw [hd, hsame])
    rw [Owners.refer?_of_find? hd hg, Owners.refer?_of_find? hd hg', hrow]
    cases g.rowFor? idColumn p with
    | none => rfl
    | some row => simp [hsame, hsame']

/-- The owner that is staged for a parent is staged for the parent alone. -/
theorem exists_succeeds_stageGroups (hserves : db.Serves d tables) (hplain : plan.IsPlain node)
    (hjoins : j.JoinsIntegers reg tables s) (hid : s.column? j.idColumn = some idColumn)
    (htyped : ∀ e ∈ parents, s.Typed e)
    {groups : ByName KeyIndex} (hgroups : OwnerJoin.groups typeColumn idColumn parents = .ok groups)
    {staged : List (Nat × (String × Entity))}
    (hstage : (plan.stageGroups db (plan.below db node) node j groups.entries).run w
      = (.ok staged, w₁)) (hp : parents[i]? = some p) :
    ∃ groups', OwnerJoin.groups typeColumn idColumn [p] = .ok groups' ∧
      Succeeds (plan.stageGroups db (plan.below db node) node j groups'.entries : Run reg σ _)
        fun staged' =>
          (Staged.atPosition staged' 0).head? = (Staged.atPosition staged i).head? := by
  have hmem := List.mem_of_getElem? hp
  obtain ⟨found, hfound, hrefer⟩ := stageGroups_eq_ok (grouping_of_groups hgroups) hstage
  have hpresent := present_of_groups hgroups
  cases hgroups' : OwnerJoin.groups typeColumn idColumn [p] with
  | error why =>
    obtain ⟨e, he, hkey⟩ := groups_eq_error hgroups'
    obtain rfl := List.mem_singleton.1 he
    obtain hnone | ⟨n, hsome⟩ := Schema.exists_joinKey?_of_typed (htyped e hmem)
      (Schema.mem_of_column? hid) (hjoins.id _ hid)
    · rw [hnone] at hkey
      cases hkey
    · rw [hsome] at hkey
      cases hkey
  | ok groups' =>
    have hpresent' := present_of_groups hgroups'
    have hsub : groups'.entries.map Prod.fst ⊆ groups.entries.map Prod.fst := by
      intro discriminator hd
      obtain ⟨e, he, hrest⟩ := (hpresent'.mem_iff _).1 hd
      obtain rfl := List.mem_singleton.1 he
      exact (hpresent.mem_iff _).2 ⟨e, hmem, hrest⟩
    refine ⟨groups', rfl, ?_⟩
    refine (succeeds_stageGroups hserves hplain hjoins hid htyped hmem hfound
      (grouping_of_groups hgroups') hsub).reached.imp fun staged' hreached => ?_
    obtain ⟨-, w', w₁', hstage'⟩ := hreached
    obtain ⟨found', hfound', hrefer'⟩ := stageGroups_eq_ok (grouping_of_groups hgroups') hstage'
    have hbatch := hrefer i p hp
    have halone := hrefer' 0 p rfl
    rw [hplain.children_eq] at hbatch halone
    rw [Owners.eq_of_rel hbatch, Owners.eq_of_rel halone]
    exact refer?_alone hserves hplain hjoins hid htyped hmem hpresent hpresent' hfound hfound'

end

/-! ### The level -/

/-- What a level of rows is to hold for a parent is staged for the parent alone. -/
theorem succeeds_stageRows (hs : reg.schema type = .ok s) {k : RelationKind} {target : String}
    (work work' : Schema → Run reg σ (List (Nat × Entity))) {staged : Staged}
    (hstage : (do
      let s ← schema type
      let info ← MonadExcept.ofExcept (relation s.val node)
      let rows ← work s
      pure (info, Staged.rows k target rows) : Run reg σ (RelationInfo × Staged)).run w
        = (.ok (info, staged), w₁))
    (hwork : ∀ rows w₂, (work s).run w₂ = (.ok rows, w₁) → Succeeds (work' s) fun rows' =>
      Staged.atPosition rows' 0 = Staged.atPosition rows i) :
    Succeeds (do
      let s ← schema type
      let info ← MonadExcept.ofExcept (relation s.val node)
      let rows ← work' s
      pure (info, Staged.rows k target rows) : Run reg σ (RelationInfo × Staged)) fun r =>
        r.1 = info ∧ r.2.item 0 = staged.item i := by
  obtain ⟨⟨s', hs'⟩, w₂, -, h⟩ := bind_eq_ok hstage
  obtain rfl : s = s' := Except.ok.inj (hs.symm.trans hs')
  obtain ⟨info', w₃, hrelation, h⟩ := bind_eq_ok h
  obtain ⟨hinfo, rfl⟩ := ofExcept_eq_ok hrelation
  obtain ⟨rows, w₄, hrows, hpure⟩ := bind_eq_ok h
  cases hpure
  refine (ensures_schema_of hs).bind fun s'' heq => ?_
  rw [← heq, hinfo]
  refine (ensures_ofExcept_of rfl).bind fun _ heq => ?_
  refine (hwork rows _ hrows).bind fun rows' h => ?_
  exact Ensures.pure ⟨heq, by rw [Staged.item, Staged.item, h]⟩

/-- What a level is to hold for a parent is staged for the parent alone. -/
theorem succeeds_stage (hserves : db.Serves d tables) (hplain : plan.IsPlain node)
    (hs : reg.schema type = .ok s) {descriptor : Descriptor}
    (hd : plan.descriptor? type node = some descriptor)
    (hjoins : descriptor.JoinsIntegers reg tables s) (htyped : ∀ e ∈ parents, s.Typed e)
    {staged : Staged}
    (hstage : (plan.stage db (plan.below db node) node type parents).run w
      = (.ok (info, staged), w₁)) (hp : parents[i]? = some p) :
    Succeeds (plan.stage db (plan.below db node) node type [p] : Run reg σ _) fun r =>
      r.1 = info ∧ r.2.item 0 = staged.item i := by
  cases descriptor with
  | hasOne j | hasMany j | belongsTo j | morphOne j | morphMany j =>
    rw [stage_of_join hd rfl] at hstage ⊢
    exact succeeds_stageRows hs (fun s => plan.stageKeyed db node _ j s parents)
      (fun s => plan.stageKeyed db node _ j s [p]) hstage fun rows w₂ hrows =>
        succeeds_stageKeyed hserves hplain hjoins htyped hrows hp
  | belongsToMany j =>
    rw [stage_of_pivot hd] at hstage ⊢
    exact succeeds_stageRows hs (fun s => plan.stagePivot db node j s parents)
      (fun s => plan.stagePivot db node j s [p]) hstage fun rows w₂ hrows =>
        succeeds_stagePivot hserves hplain hjoins htyped hrows hp
  | morphTo j =>
    obtain ⟨typeColumn, idColumn, groups, owners, w₂, hinfo, htype, hid, hgroups, -, howners,
      rfl⟩ := stage_eq_ok_of_owners hs hd hstage
    obtain ⟨groups', hgroups', hsucceeds⟩ :=
      exists_succeeds_stageGroups hserves hplain hjoins hid htyped hgroups howners hp
    rw [stage_of_owners hd]
    refine (ensures_schema_of hs).bind fun s'' heq => ?_
    rw [← heq, hinfo]
    refine (ensures_ofExcept_of rfl).bind fun _ heq => ?_
    refine (ensures_mapped (by rw [htype]; rfl)).bind fun c hc => ?_
    obtain rfl : typeColumn = c := Option.some.inj (htype.symm.trans hc)
    refine (ensures_mapped (by rw [hid]; rfl)).bind fun c hc => ?_
    obtain rfl : idColumn = c := Option.some.inj (hid.symm.trans hc)
    refine (ensures_ofExcept_of hgroups').bind fun _ hsame => ?_
    rw [hsame]
    refine hsucceeds.bind fun staged' h => ?_
    exact Ensures.pure ⟨heq, congrArg Item.owner h⟩

/-- **A batch is loaded as its entities are loaded one by one.** -/
theorem loadNode_alone (hserves : db.Serves d tables) (hplain : plan.IsPlain node)
    (hs : reg.schema type = .ok s) {descriptor : Descriptor}
    (hd : plan.descriptor? type node = some descriptor)
    (hjoins : descriptor.JoinsIntegers reg tables s) (htyped : ∀ e ∈ parents, s.Typed e)
    {es : List Entity} (hload : plan.loadNode db node type parents w = (⟨es, none⟩, w₁)) :
    List.Forall₂ (fun p e => ∀ w', ∃ w₂,
      plan.loadNode db node type [p] w' = (⟨[e], none⟩, (w₂ : World reg σ))) parents es := by
  rcases hstage : (plan.stage db (plan.below db node) node type parents).run w with
    ⟨why | ⟨info, staged⟩, w₂⟩
  · rw [loadNode_error hstage] at hload
    cases hload
  rw [loadNode_leaf hplain.children_eq hstage] at hload
  cases hload
  refine forall₂_commit _ _ _ fun i p hp w' => ?_
  obtain ⟨⟨info', staged'⟩, w₂, hrun, hinfo, hitem⟩ :=
    (succeeds_stage hserves hplain hs hd hjoins htyped hstage hp).exists_ok w'
  refine ⟨w₂, ?_⟩
  rw [loadNode_leaf hplain.children_eq hrun]
  dsimp only at hinfo hitem
  rw [Staged.commit, List.mapIdx_singleton, hinfo, hitem]

/-! Members and their clubs. The columns differ in width, a club has an id beyond what a signed
column can hold, and some pivot rows lack a key. -/

def clubsOfMembers : PivotJoin :=
  { target := "Club", table := "clubs", pivotTable := "memberships", foreignPivotKey := "member_id",
    relatedPivotKey := "club_id", parentKey := "id", relatedKey := "id" }

def clubRegistry : Registry :=
  ⟨[{ type := "Member", table := some "members", members :=
        [.column "id" (.optional (.int .i32)) (some "id") true false,
          .relation "clubs" (.belongsToMany "Club") { name := some "Clubs" }] },
    { type := "Club", table := some "clubs", members :=
        [.column "id" (.int .u64) (some "id") true false] }]⟩

def clubPlan : Plan where
  eager := {}
  nodes := [⟨"Clubs", "Clubs", none, []⟩]
  descriptors := [(("Member", "Clubs"), .belongsToMany clubsOfMembers)]

/-- A row of integers, NULL in all other columns. -/
def integerRow (cells : List (String × Int)) : Columns := fun column =>
  match cells.lookup column with
  | some n => .ofInt n
  | none => .null

theorem isStoredInt_integerRow (cells : List (String × Int)) (column : String) :
    (integerRow cells column).IsStoredInt := by
  unfold integerRow
  cases cells.lookup column with
  | none => exact .inl rfl
  | some n => exact .inr ⟨n, rfl⟩

def clubCells (table : String) : List (List (String × Int)) :=
  if table = "memberships" then
    [[("member_id", 2), ("club_id", 7)], [("member_id", 1), ("club_id", 9223372036854775808)],
      [("member_id", 1)], [("club_id", 7)], [("member_id", 2), ("club_id", 7)],
      [("member_id", -2), ("club_id", 9223372036854775808)],
      [("member_id", 2), ("club_id", 9223372036854775808)]]
  else [[("id", 9223372036854775808)], [("id", 7)]]

def clubTables (table : String) : List Columns := (clubCells table).map integerRow

theorem holdIntegers_clubTables (table column : String) :
    HoldIntegers (clubTables table) column := by
  intro row hrow
  obtain ⟨cells, -, rfl⟩ := List.mem_map.1 hrow
  exact isStoredInt_integerRow cells column

def member (id : Option Int) : Entity :=
  ⟨"Member", [.cell ⟨.optional (.int .i32), id.map (Column.IntType.ofInt .i32)⟩, .many []]⟩

def fourMembers : List Entity :=
  [member (some 2), member (some 1), member none, member (some (-2))]

theorem loadNode_alone_clubs :
    let w : World clubRegistry Unit := { catalog := .empty _ {}, state := () }
    let db := Database.ofTables .simple clubTables
    let node : PathNode := ⟨"Clubs", "Clubs", none, []⟩
    ∃ es w₁, clubPlan.loadNode db node "Member" fourMembers w = (⟨es, none⟩, w₁) ∧
      (es.map fun e => (e.children 1).length) = [2, 1, 0, 1] ∧
      List.Forall₂ (fun p e => ∀ w', ∃ w₂, clubPlan.loadNode db node "Member" [p] w'
        = (⟨[e], none⟩, (w₂ : World clubRegistry Unit))) fourMembers es := by
  intro w db node
  obtain ⟨s, hs⟩ : ∃ s, clubRegistry.schema "Member" = .ok s := ⟨_, rfl⟩
  have hserves : db.Serves .simple clubTables :=
    Database.serves_ofTables Sql.Dialect.isExact_simple clubTables
  have hplain : clubPlan.IsPlain node := ⟨rfl, rfl, fun _ => rfl⟩
  have hjoins : clubsOfMembers.JoinsIntegers clubRegistry clubTables s := by
    refine ⟨fun c hc => ?_, fun target htarget c hc => ?_, holdIntegers_clubTables _ _,
      holdIntegers_clubTables _ _, holdIntegers_clubTables _ _⟩
    · cases hs
      cases hc
      exact .optional .i32
    · cases htarget
      cases hc
      exact .int .u64
  have hd : clubPlan.descriptor? "Member" node = some (.belongsToMany clubsOfMembers) := rfl
  have hcells : ∀ e ∈ fourMembers, ∀ c ∈ s.columns,
      (e.cell? c.path).map Cell.type = some c.type := by
    cases hs
    decide +kernel
  have hok : (clubPlan.loadNode db node "Member" fourMembers w).1.failure.isNone = true := by
    decide +kernel
  have hcounts : ((clubPlan.loadNode db node "Member" fourMembers w).1.entities.map fun e =>
    (e.children 1).length) = [2, 1, 0, 1] := by decide +kernel
  rcases hload : clubPlan.loadNode db node "Member" fourMembers w with ⟨⟨es, _ | why⟩, w₁⟩
  · rw [hload] at hcounts
    exact ⟨es, w₁, rfl, hcounts, loadNode_alone hserves hplain hs hd hjoins
      (fun e he => Schema.typed_of_types (hcells e he)) hload⟩
  · rw [hload] at hok
    cases hok

end Plan

end EntityGraph
