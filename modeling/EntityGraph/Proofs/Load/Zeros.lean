import EntityGraph.Proofs.Load.Linked
import EntityGraph.Proofs.Load.Serving

/-!
# Zero keys

Three tests decide whether an integer is a key at all: that of the parents' column when keys are
collected, that of the related column when rows are matched, and that of raw values when pivot rows
are read. They agree on every integer but zero, which is a key in an optional column and none
elsewhere (`keyText?_eq_some_iff`). So a row with an integer that was asked for is matched with
every parent that holds it, except that zero may be asked for in vain (`stage_correlates`).
-/

namespace EntityGraph

open Run
open Sql (Record Value)

variable {reg : Registry} {σ : Type}

/-! ### Integers that are keys -/

/-- The key of an integer column is the text of its integer, unless the integer is the zero of a
column without missing values. -/
theorem Row.keyText?_integer {e : Entity} {c : ColumnInfo} (hc : c.type.IsInteger)
    {x : c.type.Carrier} (hcell : e.cell? c.path = some ⟨c.type, x⟩) :
    e.keyText? c = (c.type.integer? x).bind fun n =>
      if n ≠ 0 ∨ c.type.isOptional = true then some (Key.signed n).encode else none := by
  obtain ⟨field, column, path, primaryKey, auto, type⟩ := c
  rw [keyText?, hcell]
  cases hc with
  | int t =>
    by_cases hzero : x.val = 0
    · simp [Cell.isZero, ColumnType.isZero, ColumnType.integer?, ColumnType.isOptional, hzero]
    · simp [Cell.isZero, ColumnType.isZero, ColumnType.integer?, ColumnType.isOptional, hzero,
        Cell.toKey, ColumnType.toKey, Except.toOption, Column.IntType.encode_toKey]
  | optional t =>
    cases x with
    | none => rfl
    | some n =>
      simp [Cell.isZero, ColumnType.isZero, ColumnType.integer?, ColumnType.isOptional,
        Cell.toKey, ColumnType.toKey, Except.toOption, Column.IntType.encode_toKey]

namespace Schema

variable {s : Schema} {type : String}

/-- The integer that an entity holds in a column of its type. -/
def integer? (s : Schema) (column : String) (e : Entity) : Option Int := do
  let c ← s.column? column
  let cell ← e.cell? c.path
  cell.type.integer? cell.value

/-- Whether values of a column may be missing. -/
def isOptional (s : Schema) (column : String) : Bool :=
  (s.column? column).any fun c => c.type.isOptional

/-- An integer is a key of a column unless it is the zero of a column without missing values. -/
def IsKey (s : Schema) (column : String) (n : Int) : Prop := n ≠ 0 ∨ s.isOptional column = true

/-- **The keys of an integer column** are its integers, but zero only if values may be missing. -/
theorem keyText?_eq_some_iff {column : String} (hint : s.HasIntegers column) {e : Entity}
    (he : s.Typed e) {key : String} :
    s.keyText? column e = some key ↔
      ∃ n, s.integer? column e = some n ∧ s.IsKey column n ∧ key = (Key.signed n).encode := by
  cases hc : s.column? column with
  | none => simp [keyText?, integer?, hc]
  | some c =>
    obtain ⟨x, hcell⟩ := he c (mem_of_column? hc)
    have hinteger : s.integer? column e = c.type.integer? x := by
      simp [integer?, hc, hcell]
    have hoptional : s.isOptional column = c.type.isOptional := by
      simp [isOptional, hc]
    rw [keyText?, hc, Option.bind_some, Row.keyText?_integer (hint c hc) hcell, hinteger]
    simp only [IsKey, hoptional, Option.bind_eq_some_iff, Option.ite_none_right_eq_some,
      Option.some.injEq, @eq_comm _ key]

/-- A key that is held is that of the integer that is held. -/
theorem keyText?_of_integer? {column : String} (hint : s.HasIntegers column) {e : Entity}
    (he : s.Typed e) {n : Int} (hn : s.integer? column e = some n) (m : Int) :
    s.keyText? column e = some (Key.signed m).encode ↔ m = n ∧ s.IsKey column n := by
  rw [keyText?_eq_some_iff hint he]
  constructor
  · rintro ⟨k, hk, hkey, hencode⟩
    obtain rfl := Key.encode_signed_injective hencode
    obtain rfl : n = m := Option.some.inj (hn.symm.trans hk)
    exact ⟨rfl, hkey⟩
  · rintro ⟨rfl, hkey⟩
    exact ⟨m, hn, hkey, rfl⟩

/-- The integers that a batch asks for are those that are keys of its entities. -/
theorem mem_firstValues_keyPairs {column : String} (hint : s.HasIntegers column)
    {batch : List Entity} (hbatch : ∀ e ∈ batch, s.Typed e) (n : Int) :
    .ofInt n ∈ firstValues (s.keyPairs column batch) ↔
      ∃ e ∈ batch, s.integer? column e = some n ∧ s.IsKey column n := by
  cases hc : s.column? column with
  | none => simp [keyPairs, integer?, hc, firstValues, firsts]
  | some c =>
    have hintegers : AreIntegers (EntityGraph.keyPairs c batch) :=
      areIntegers_keyPairs fun e he =>
        exists_joinKey?_of_typed (hbatch e he) (mem_of_column? hc) (hint c hc)
    have hkeys : (EntityGraph.keyPairs c batch).map Prod.fst
        = batch.filterMap (s.keyText? column) := by
      rw [EntityGraph.keyPairs, List.map_filterMap]
      refine List.filterMap_congr fun e _ => ?_
      rw [Row.fst_keyPair?, keyText?, hc, Option.bind_some]
    rw [keyPairs, hc]
    dsimp only
    rw [hintegers.mem_firstValues, hkeys, List.mem_filterMap]
    refine exists_congr fun e => and_congr_right fun he => ?_
    rw [keyText?_eq_some_iff hint (hbatch e he)]
    constructor
    · rintro ⟨m, hm, hkey, hencode⟩
      obtain rfl := Key.encode_signed_injective hencode
      exact ⟨hm, hkey⟩
    · rintro ⟨hn, hkey⟩
      exact ⟨n, hn, hkey, rfl⟩

end Schema

/-! ### Integers in pivot rows -/

namespace PivotJoin

/-- A pivot row pairs two integers. -/
structure Pairs (j : PivotJoin) (r : Record) (owner target : Int) : Prop where
  owner_eq : r.get? j.foreignPivotKey = some (.ofInt owner)
  target_eq : r.get? j.relatedPivotKey = some (.ofInt target)

/-- A pivot row links the integers that it pairs, unless one of them is zero. -/
theorem Pairs.isLink_iff {j : PivotJoin} {r : Record} {n t : Int} (h : j.Pairs r n t)
    {owner target : String} :
    j.IsLink owner target r ↔ (n ≠ 0 ∧ t ≠ 0) ∧
      owner = (Key.signed n).encode ∧ target = (Key.signed t).encode := by
  obtain ⟨ownerKey, hownerKey, howner, hownerZero⟩ := Key.exists_ofValue_ofInt n
  obtain ⟨targetKey, htargetKey, htarget, htargetZero⟩ := Key.exists_ofValue_ofInt t
  have hlink : j.linkOf? r = if n = 0 ∨ t = 0 then none
      else some ⟨(Key.signed n).encode, (Key.signed t).encode, .ofInt t⟩ := by
    rw [linkOf?_eq h.owner_eq hownerKey h.target_eq htargetKey]
    simp only [Bool.or_eq_true, hownerZero, htargetZero, howner, htarget]
  rw [IsLink, hlink]
  by_cases hzero : n = 0 ∨ t = 0
  · rw [if_pos hzero, ← not_or]
    simp [hzero]
  · rw [if_neg hzero, ← not_or]
    simp [hzero, @eq_comm _ owner, @eq_comm _ target]

end PivotJoin

/-! ### What becomes of the rows that are asked for -/

/-- A relation joins columns of integers. -/
def Descriptor.JoinsIntegerColumns (reg : Registry) (s : Schema) : Descriptor → Prop
  | .hasOne j | .hasMany j | .belongsTo j | .morphOne j | .morphMany j =>
    s.HasIntegers j.parentColumn ∧
      ∀ target, reg.schema j.target = .ok target → target.HasIntegers j.childColumn
  | .belongsToMany j =>
    s.HasIntegers j.parentKey ∧
      ∀ target, reg.schema j.target = .ok target → target.HasIntegers j.relatedKey
  | .morphTo _ => True

/-- The integers that a statement asks for are the keys of the parents. -/
def Asks (s : Schema) (column : String) (parents : List Entity) (values : List Value) : Prop :=
  ∀ n, .ofInt n ∈ values ↔
    ∃ p ∈ parents, s.integer? column p = some n ∧ s.IsKey column n

/-- A row is matched with all parents that hold the integer `n`, where `column` is theirs. -/
def MatchedWith (s : Schema) (column : String) (parents : List Entity) (n : Int)
    (staged : List (Nat × Entity)) (row : Entity) : Prop :=
  ∀ i p, parents[i]? = some p → s.integer? column p = some n → (i, row) ∈ staged

namespace Plan

variable {db : Database σ} {plan : Plan} {node : PathNode} {type : String}
  {parents : List Entity} {w w₁ : World reg σ} {info : RelationInfo}

/-- What becomes of the rows that a key relation asks for: a row with an integer that was asked for
is matched with every parent that holds it, if the integer is a key of the row's column, and
otherwise with none. -/
def CorrelatesKeyed (db : Database σ) (plan : Plan) (node : PathNode) (j : Join) (s : Schema)
    (parents : List Entity) (w w₁ : World reg σ) (staged : List (Nat × Entity)) : Prop :=
  (∃ p ∈ parents, s.keyText? j.parentColumn p ≠ none) →
    ∃ values target rows, Fetched db plan node j values w w₁ target rows ∧
      Asks s j.parentColumn parents values ∧
      ∀ n, .ofInt n ∈ values → ∀ row ∈ rows, target.integer? j.childColumn row = some n →
        (target.IsKey j.childColumn n → MatchedWith s j.parentColumn parents n staged row) ∧
        (¬ target.IsKey j.childColumn n → ∀ i, (i, row) ∉ staged)

/-- What becomes of the pivot rows that are asked for: the related rows that a pivot row pairs with
an integer that was asked for are fetched and matched with every parent that holds it, if neither
integer is zero. Nothing is matched for zeros. -/
def CorrelatesPivot (db : Database σ) (plan : Plan) (node : PathNode) (j : PivotJoin) (s : Schema)
    (parents : List Entity) (w w₁ : World reg σ) (staged : List (Nat × Entity)) : Prop :=
  (∃ p ∈ parents, s.keyText? j.parentKey p ≠ none) →
    ∃ values pivots w₂, Answered db (j.statement values) w w₂ pivots ∧
      Asks s j.parentKey parents values ∧
      (∀ n t r, .ofInt n ∈ values → r ∈ pivots → j.Pairs r n t → n ≠ 0 → t ≠ 0 →
        ∃ related target rows,
          Selected db plan node j.target j.table (among j.relatedKey related) w₂ w₁ target rows ∧
          ∀ row ∈ rows, target.integer? j.relatedKey row = some t →
            MatchedWith s j.parentKey parents n staged row) ∧
      ((∀ r ∈ pivots, ∃ n t, j.Pairs r n t) → ∀ i p row target, (i, row) ∈ staged →
        parents[i]? = some p → reg.schema j.target = .ok target →
        s.integer? j.parentKey p ≠ some 0 ∧ target.integer? j.relatedKey row ≠ some 0)

/-- Rows that are read hold the cells of their type. -/
theorem typed_scanAll {s : Schema} (hs : reg.schema type = .ok s) {records : List Record}
    {rows : List Entity} (h : s.scanAll records = .ok rows) : ∀ row ∈ rows, s.Typed row := by
  intro row hrow
  obtain ⟨r, -, hr⟩ := exists_of_mapM_eq_ok h hrow
  exact Schema.typed_scan hs hr

theorem Fetched.typed {j : Join} {values : List Value} {target : Schema} {rows : List Entity}
    (h : Fetched db plan node j values w w₁ target rows) : ∀ row ∈ rows, target.Typed row := by
  obtain ⟨hschema, columns, records, -, -, hscan⟩ := h
  exact typed_scanAll hschema hscan

theorem Selected.typed {table : String} {scope : Sql.Scope} {s : Schema} {rows : List Entity}
    (h : Selected db plan node type table scope w w₁ s rows) : ∀ row ∈ rows, s.Typed row := by
  obtain ⟨columns, records, -, -, hscan⟩ := h.answered
  exact typed_scanAll h.schema_eq hscan

section
variable {s : Schema} {name : String} {column : ColumnInfo} {index : KeyIndex}

theorem asks_ofBatch (hparents : ∀ p ∈ parents, s.Typed p) (hint : s.HasIntegers name)
    (hcolumn : s.column? name = some column)
    (hindex : KeyIndex.ofBatch column parents = .ok index) :
    Asks s name parents index.values := by
  intro n
  have hvalues : index.values = firstValues (s.keyPairs name parents) := by
    rw [(KeyIndex.holds_ofBatch hindex).values_eq, Schema.keyPairs, hcolumn]
  rw [hvalues, Schema.mem_firstValues_keyPairs hint hparents]

/-- The positions under the key of an integer are those of the parents that hold it as a key. -/
theorem mem_positions_integer (hparents : ∀ p ∈ parents, s.Typed p) (hint : s.HasIntegers name)
    (hcolumn : s.column? name = some column)
    (hindex : KeyIndex.ofBatch column parents = .ok index) {i : Nat} {p : Entity}
    (hp : parents[i]? = some p) {n : Int} (hn : s.integer? name p = some n) (m : Int) :
    i ∈ index.positions (Key.signed m).encode ↔ m = n ∧ s.IsKey name n := by
  rw [KeyIndex.positions_ofBatch hindex, KeyIndex.mem_keyed,
    ← Schema.keyText?_of_integer? hint (hparents p (List.mem_of_getElem? hp)) hn,
    Schema.keyText?, hcolumn, Option.bind_some]
  simp [hp]

theorem exists_keyText?_of_isEmpty (hcolumn : s.column? name = some column)
    (hindex : KeyIndex.ofBatch column parents = .ok index) (hnone : index.isEmpty = true) :
    ¬ ∃ p ∈ parents, s.keyText? name p ≠ none := by
  rintro ⟨p, hp, hkey⟩
  rw [KeyIndex.isEmpty_ofBatch hindex] at hnone
  rw [Schema.keyText?, hcolumn] at hkey
  exact hkey (hnone p hp)

end

theorem correlates_keyed {kind : RelationKind} {j : Join} {s : Schema}
    {staged : List (Nat × Entity)} (hparents : ∀ p ∈ parents, s.Typed p)
    (hint : s.HasIntegers j.parentColumn)
    (htarget : ∀ target, reg.schema j.target = .ok target → target.HasIntegers j.childColumn)
    (h : (plan.stageKeyed db node kind j s parents).run w = (.ok staged, w₁)) :
    CorrelatesKeyed db plan node j s parents w w₁ staged := by
  intro hsome
  obtain ⟨column, index, hcolumn, hindex, hcases⟩ := stageKeyed_eq_ok h
  obtain ⟨hnone, -⟩ | ⟨-, target, rows, hfetched, hstaged⟩ := hcases
  · exact absurd hsome (exists_keyText?_of_isEmpty hcolumn hindex hnone)
  have hasks := asks_ofBatch hparents hint hcolumn hindex
  refine ⟨index.values, target, rows, hfetched, hasks, fun n hn row hrow hrowInt => ?_⟩
  have htyped := hfetched.typed row hrow
  cases hc : target.column? j.childColumn with
  | none => simp [Schema.integer?, hc] at hrowInt
  | some c =>
    rw [hc] at hstaged
    have hnodup : ∀ key, (index.positions key).Nodup := by
      intro key
      rw [KeyIndex.positions_ofBatch hindex]
      exact KeyIndex.nodup_keyed column parents key
    have hrowInts := htarget target hfetched.schema_eq
    have hrowText : target.keyText? j.childColumn row = row.keyText? c := by
      rw [Schema.keyText?, hc, Option.bind_some]
    constructor
    · intro hkey i p hp hpInt
      have hparentKey : s.IsKey j.parentColumn n := by
        obtain ⟨-, -, -, hkey⟩ := (hasks n).1 hn
        exact hkey
      have hposition := (mem_positions_integer hparents hint hcolumn hindex hp hpInt n).2
        ⟨rfl, hparentKey⟩
      have hrowKey := (Schema.keyText?_of_integer? hrowInts htyped hrowInt n).2 ⟨rfl, hkey⟩
      exact (KeyIndex.mem_correlate hnodup hstaged).2 ⟨hrow, _, hrowText ▸ hrowKey, hposition⟩
    · intro hnot i hmem
      obtain ⟨-, key, hkey, -⟩ := (KeyIndex.mem_correlate hnodup hstaged).1 hmem
      rw [← hrowText, Schema.keyText?_eq_some_iff hrowInts htyped] at hkey
      obtain ⟨m, hm, hmKey, -⟩ := hkey
      obtain rfl : n = m := Option.some.inj (hrowInt.symm.trans hm)
      exact hnot hmKey

theorem correlates_pivot {j : PivotJoin} {s : Schema} {staged : List (Nat × Entity)}
    (hparents : ∀ p ∈ parents, s.Typed p) (hint : s.HasIntegers j.parentKey)
    (htarget : ∀ target, reg.schema j.target = .ok target → target.HasIntegers j.relatedKey)
    (h : (plan.stagePivot db node j s parents).run w = (.ok staged, w₁)) :
    CorrelatesPivot db plan node j s parents w w₁ staged := by
  intro hsome
  obtain ⟨column, index, hcolumn, hindex, hcases⟩ := stagePivot_eq_ok h
  obtain ⟨hnone, -⟩ | ⟨-, pivots, links, w₂, -, hanswered, hlinks, hlinked⟩ := hcases
  · exact absurd hsome (exists_keyText?_of_isEmpty hcolumn hindex hnone)
  have hasks := asks_ofBatch hparents hint hcolumn hindex
  have hlink := PivotJoin.links_of_links hlinks
  refine ⟨index.values, pivots, w₂, hanswered, hasks, fun n t r hn hr hpairs hn0 ht0 => ?_, ?_⟩
  · have hposition : ∀ i p, parents[i]? = some p → s.integer? j.parentKey p = some n →
        i ∈ links.positions (Key.signed t).encode := by
      intro i p hp hpInt
      obtain ⟨l, hl, howner, hkey⟩ := hpairs.isLink_iff.2 ⟨⟨hn0, ht0⟩, rfl, rfl⟩
      refine (hlink.mem_positions _ _).2 ⟨r, hr, l, hl, hkey, ?_⟩
      rw [howner, mem_positions_integer hparents hint hcolumn hindex hp hpInt]
      exact ⟨rfl, .inl hn0⟩
    obtain ⟨hnone, -⟩ | ⟨-, target, rows, hselected, hstaged⟩ := hlinked
    · -- a parent that holds the integer is linked, so there are links
      obtain ⟨p, hp, hpInt, -⟩ := (hasks n).1 hn
      obtain ⟨i, hi⟩ := List.mem_iff_getElem?.1 hp
      have hheld := PivotJoin.mem_keys_of_mem_positions (hposition i p hi hpInt)
      rw [hlink.holds.mem_keys, hlink.holds.isEmpty_eq.1 hnone] at hheld
      cases hheld
    · refine ⟨links.values, target, rows, hselected, fun row hrow hrowInt i p hp hpInt => ?_⟩
      have htyped := hselected.typed row hrow
      cases hc : target.column? j.relatedKey with
      | none => simp [Schema.integer?, hc] at hrowInt
      | some c =>
        rw [hc] at hstaged
        have hrowKey := (Schema.keyText?_of_integer? (htarget target hselected.schema_eq) htyped
          hrowInt t).2 ⟨rfl, .inl ht0⟩
        rw [Schema.keyText?, hc, Option.bind_some] at hrowKey
        exact (KeyIndex.mem_correlate hlink.nodup hstaged).2
          ⟨hrow, _, hrowKey, hposition i p hp hpInt⟩
  · intro hstored i p row target hmem hp htype
    obtain ⟨-, rfl, -⟩ | ⟨-, target', rows, hselected, hstaged⟩ := hlinked
    · cases hmem
    obtain rfl : target = target' := Except.ok.inj (htype.symm.trans hselected.schema_eq)
    cases hc : target.column? j.relatedKey with
    | none =>
      rw [hc] at hstaged
      subst hstaged
      cases hmem
    | some c =>
      rw [hc] at hstaged
      obtain ⟨hrow, key, hkey, hposition⟩ := (KeyIndex.mem_correlate hlink.nodup hstaged).1 hmem
      obtain ⟨r, hr, l, hl, rfl, howner⟩ := (hlink.mem_positions _ _).1 hposition
      obtain ⟨n, t, hpairs⟩ := hstored r hr
      obtain ⟨⟨hn0, ht0⟩, hownerKey, htargetKey⟩ := hpairs.isLink_iff.1 ⟨l, hl, rfl, rfl⟩
      constructor
      · intro hzero
        rw [hownerKey, mem_positions_integer hparents hint hcolumn hindex hp hzero] at howner
        exact hn0 howner.1
      · intro hzero
        have hrowText : target.keyText? j.relatedKey row = some l.target := by
          rw [Schema.keyText?, hc, Option.bind_some, hkey]
        rw [htargetKey, Schema.keyText?_of_integer? (htarget target htype)
          (hselected.typed row hrow) hzero] at hrowText
        exact ht0 hrowText.1

theorem CorrelatesKeyed.after {j : Join} {s : Schema} {staged : List (Nat × Entity)}
    {w' : World reg σ} (h : CorrelatesKeyed db plan node j s parents w' w₁ staged)
    (hw : Untouched w w') : CorrelatesKeyed db plan node j s parents w w₁ staged := by
  intro hsome
  obtain ⟨values, target, rows, hfetched, hrest⟩ := h hsome
  exact ⟨values, target, rows, hfetched.after hw, hrest⟩

theorem CorrelatesPivot.after {j : PivotJoin} {s : Schema} {staged : List (Nat × Entity)}
    {w' : World reg σ} (h : CorrelatesPivot db plan node j s parents w' w₁ staged)
    (hw : Untouched w w') : CorrelatesPivot db plan node j s parents w w₁ staged := by
  intro hsome
  obtain ⟨values, pivots, w₂, hanswered, hrest⟩ := h hsome
  exact ⟨values, pivots, w₂, hanswered.after hw, hrest⟩

@[inherit_doc CorrelatesKeyed]
def Correlates (db : Database σ) (plan : Plan) (node : PathNode) (s : Schema)
    (parents : List Entity) (w w₁ : World reg σ) (staged : List (Nat × Entity)) :
    Descriptor → Prop
  | .hasOne j | .hasMany j | .belongsTo j | .morphOne j | .morphMany j =>
    CorrelatesKeyed db plan node j s parents w w₁ staged
  | .belongsToMany j => CorrelatesPivot db plan node j s parents w w₁ staged
  | .morphTo _ => True

/-- **What becomes of the rows that a relation over integer columns asks for.** A row with an
integer that was asked for is matched with every parent that holds it, unless the integer is zero:
zero is asked for if the parents' column is optional, but no row is matched for it if the related
column is not, and no pivot row. -/
theorem stage_correlates {descend : String → List Entity → Run reg σ (List Entity)} {s : Schema}
    {d : Descriptor} {kind : RelationKind} {target : String} {staged : List (Nat × Entity)}
    (hs : reg.schema type = .ok s) (hd : plan.descriptor? type node = some d)
    (hint : d.JoinsIntegerColumns reg s) (hparents : ∀ p ∈ parents, s.Typed p)
    (hstage : (plan.stage db descend node type parents).run w
      = (.ok (info, .rows kind target staged), w₁)) :
    Correlates db plan node s parents w w₁ staged d := by
  cases d with
  | morphTo j => trivial
  | belongsToMany j =>
    rw [stage_of_pivot hd] at hstage
    obtain ⟨s', w₂, -, hw₂, hstage⟩ := (ensures_schema type).quiet.bind_eq_ok hstage
    obtain rfl : s = s' := Except.ok.inj (hs.symm.trans s'.property)
    obtain ⟨info', w₃, hrelation, hstage⟩ := bind_eq_ok hstage
    obtain ⟨-, rfl⟩ := ofExcept_eq_ok hrelation
    obtain ⟨rows, w₄, hrows, hpure⟩ := bind_eq_ok hstage
    cases hpure
    exact (correlates_pivot hparents hint.1 hint.2 hrows).after hw₂
  | hasOne j | hasMany j | belongsTo j | morphOne j | morphMany j =>
    rw [stage_of_join hd rfl] at hstage
    obtain ⟨s', w₂, -, hw₂, hstage⟩ := (ensures_schema type).quiet.bind_eq_ok hstage
    obtain rfl : s = s' := Except.ok.inj (hs.symm.trans s'.property)
    obtain ⟨info', w₃, hrelation, hstage⟩ := bind_eq_ok hstage
    obtain ⟨-, rfl⟩ := ofExcept_eq_ok hrelation
    obtain ⟨rows, w₄, hrows, hpure⟩ := bind_eq_ok hstage
    cases hpure
    exact (correlates_keyed hparents hint.1 hint.2 hrows).after hw₂

/-! An author with the key zero in an optional column, and a post that refers to it. -/

/-- Authors and their posts, which refer to the authors in a column of a type. -/
def zeroRegistry (key : ColumnType) : Registry :=
  ⟨[{ type := "Author", table := some "authors", members :=
        [.column "id" (.optional (.int .i64)) (some "id") true false,
          .relation "posts" (.hasMany "Post") { name := some "Posts" }] },
    { type := "Post", table := some "posts", members :=
        [.column "id" (.int .i64) (some "id") true false,
          .column "author_id" key (some "author_id") false false] }]⟩

def zeroDatabase : Database Unit where
  answer _ _ := (.ok [⟨[("id", .int 7), ("author_id", .int 0)]⟩], ())

def zeroAuthor : Entity :=
  ⟨"Author", [.cell ⟨.optional (.int .i64), some (Column.IntType.zero .i64)⟩, .many []]⟩

/-- Where the posts may lack an author too, the post of author zero is matched with it. -/
theorem stage_correlates_zero :
    let reg := zeroRegistry (.optional (.int .u32))
    let w : World reg Unit := { catalog := .empty _ {}, state := () }
    let node : PathNode := ⟨"Posts", "Posts", none, []⟩
    ∃ s w₁ values target rows staged, reg.schema "Author" = .ok s ∧
      Fetched zeroDatabase authorPlan node postsOfAuthors values w w₁ target rows ∧
      .ofInt 0 ∈ values ∧ rows.map (target.integer? "author_id") = [some 0] ∧
      ∀ row ∈ rows, MatchedWith s "id" [zeroAuthor] 0 staged row := by
  intro reg w node
  obtain ⟨s, hs⟩ : ∃ s, reg.schema "Author" = .ok s := ⟨_, rfl⟩
  obtain ⟨t, ht⟩ : ∃ t, reg.schema "Post" = .ok t := ⟨_, rfl⟩
  have hparents : ∀ p ∈ [zeroAuthor], s.Typed p := by
    intro p hp
    obtain rfl := List.mem_singleton.1 hp
    refine Schema.typed_of_types ?_
    cases hs
    decide
  have hint : Descriptor.JoinsIntegerColumns reg s (.hasMany postsOfAuthors) := by
    constructor
    · intro c hc
      cases hs
      cases hc
      exact .optional .i64
    · intro target htarget c hc
      cases htarget
      cases hc
      exact .optional .u32
  have hkey : ∃ p ∈ [zeroAuthor], s.keyText? "id" p ≠ none := by
    cases hs
    exact ⟨zeroAuthor, by simp, by decide +kernel⟩
  have hok : (match (authorPlan.stage zeroDatabase (authorPlan.below zeroDatabase node) node
      "Author" [zeroAuthor]).run w with
    | (.ok (_, .rows ..), _) => true
    | _ => false) = true := by decide +kernel
  split at hok
  · next info kind target staged w₁ hstage =>
    obtain ⟨values, target, rows, hfetched, hasks, hmatched⟩ :=
      stage_correlates (d := .hasMany postsOfAuthors) hs rfl hint hparents hstage hkey
    have hzero : .ofInt 0 ∈ values := by
      refine (hasks 0).2 ⟨zeroAuthor, by simp, ?_, .inr ?_⟩ <;> cases hs <;> decide +kernel
    have hrows : rows.map (t.integer? "author_id") = [some 0] ∧ t = target := by
      obtain ⟨hschema, columns, records, -, hanswer, hscan⟩ := hfetched
      obtain rfl : t = target := Except.ok.inj (ht.symm.trans hschema)
      cases hanswer
      have hread : (match t.scanAll [⟨[("id", .int 7), ("author_id", .int 0)]⟩] with
        | .ok rows => rows.map (t.integer? "author_id")
        | .error _ => []) = [some 0] := by
        cases ht
        decide +kernel
      rw [hscan] at hread
      exact ⟨hread, rfl⟩
    obtain ⟨hrows, rfl⟩ := hrows
    have hoptional : t.IsKey "author_id" 0 := by
      cases ht
      exact .inr (by decide +kernel)
    refine ⟨s, w₁, values, t, rows, staged, hs, hfetched, hzero, hrows, fun row hrow => ?_⟩
    have hrowInt : t.integer? "author_id" row ∈ [some 0] := hrows ▸ List.mem_map_of_mem hrow
    exact (hmatched 0 hzero row hrow (List.mem_singleton.1 hrowInt)).1 hoptional
  · cases hok

/-- **A row that was asked for is dropped**: the key zero of the author is sent, and the post that
is answered holds it, but the author is left without posts. -/
theorem loadPaths_drops_zero :
    let w : World (zeroRegistry (.int .i64)) Unit := { catalog := .empty _ {}, state := () }
    let loaded := loadPaths zeroDatabase ["Posts"] "Author" [zeroAuthor] w
    loaded.1.failure = none ∧
      loaded.2.issued = [.select "posts" ["id", "author_id"] (among "author_id" [.int 0])] ∧
      loaded.1.entities.map (fun e => (e.children 1).length) = [0] := by
  decide +kernel

end Plan

end EntityGraph
