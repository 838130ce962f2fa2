import EntityGraph.Proofs.Load.Carrying
import EntityGraph.Proofs.Load.Integers
import EntityGraph.Proofs.Load.Keyed

/-!
# Reading from fixed tables

A database that looks values up in fixed tables answers with the rows that hold one of the values.
If the values are integers, then the rows that are read for some of them are among the rows that are
read for all, and no row with a key that is asked for is missing (`scanAll_alone`). So whatever was
fetched can be fetched again for fewer keys (`succeeds_fetch`).
-/

namespace EntityGraph

open Run
open Sql (Columns Dialect Record Value)

variable {reg : Registry} {σ : Type}

/-! ### Fixed tables -/

/-- The columns of a row that a statement selects. -/
def recordOf (columns : List String) (row : Columns) : Record := ⟨columns.map fun c => (c, row c)⟩

/-- The condition that a column holds one of the values, and that another holds a text if one is
given. -/
def lookupScope (column : String) (other : Option (String × String)) (values : List Value) :
    Sql.Scope :=
  match other with
  | some (c, text) => (Plan.among column values).filter (.compare c .eq (.text text))
  | none => Plan.among column values

/-- What is read from a table: the rows that a scope accepts, in their order. -/
def served (d : Dialect) (rows : List Columns) (columns : List String) (scope : Sql.Scope) :
    List Record :=
  (rows.filter fun row => scope.truth d row = .holds).map (recordOf columns)

/-- A database that looks values up in fixed tables. -/
structure Database.Serves (db : Database σ) (d : Dialect) (tables : String → List Columns) :
    Prop where
  exact : d.IsExact
  answer_eq : ∀ table columns column other values state,
    (db.answer (.select table columns (lookupScope column other values)) state).1
      = .ok (served d (tables table) columns (lookupScope column other values))

/-- A database that reads from fixed tables. -/
def Database.ofTables (d : Dialect) (tables : String → List Columns) : Database Unit where
  answer s _ :=
    match s with
    | .select table columns scope => (.ok (served d (tables table) columns scope), ())
    | _ => (.ok [], ())

theorem Database.serves_ofTables {d : Dialect} (hd : d.IsExact) (tables : String → List Columns) :
    (Database.ofTables d tables).Serves d tables :=
  ⟨hd, fun _ _ _ _ _ _ => rfl⟩

theorem get?_recordOf {columns : List String} {column : String} (h : column ∈ columns)
    (row : Columns) : (recordOf columns row).get? column = some (row column) := by
  rw [recordOf, Record.get?]
  induction columns with
  | nil => cases h
  | cons c columns ih =>
    rw [List.map_cons, List.lookup_cons]
    by_cases hc : column = c
    · simp [hc]
    · rw [beq_eq_false_iff_ne.2 hc]
      exact ih ((List.mem_cons.1 h).resolve_left hc)

theorem lookupScope_names (column : String) (other : Option (String × String))
    (values values' : List Value) :
    (lookupScope column other values).names = (lookupScope column other values').names := by
  cases other <;> rfl

/-- The other column is compared in the same way for all values. -/
theorem truth_lookupScope (d : Dialect) (column : String) (other : Option (String × String))
    (values : List Value) (row : Columns) :
    (lookupScope column other values).truth d row = .holds ↔
      (Plan.among column values).truth d row = .holds ∧
        ∀ p ∈ other, d.compare .eq (row p.1) (.text p.2) = .holds := by
  cases other with
  | none => simp [lookupScope]
  | some p =>
    show Sql.Truth.and (d.among _ _) (Sql.Truth.and (d.compare _ _ _) .holds) = .holds ↔
      Sql.Truth.and (d.among _ _) .holds = .holds ∧ _
    simp [Sql.Truth.and_eq_holds]

/-! ### Reading rows -/

/-- What can be read of some elements can be read of fewer. A filter then finds the same, if it
accepts only what is read of the elements that are left. -/
theorem exists_mapM_filter {α β ε : Type} {f : α → Except ε β} {b s : α → Bool} {as : List α}
    {bs : List β} (h : (as.filter b).mapM f = .ok bs) (hsub : ∀ a ∈ as, s a = true → b a = true) :
    ∃ bs', (as.filter s).mapM f = .ok bs' ∧
      ∀ q : β → Bool, (∀ a ∈ as, ∀ e, b a = true → f a = .ok e → q e = true → s a = true) →
        bs'.filter q = bs.filter q := by
  induction as generalizing bs with
  | nil =>
    cases h
    exact ⟨[], rfl, fun _ _ => rfl⟩
  | cons a as ih =>
    have hrest : ∀ a ∈ as, s a = true → b a = true := fun a ha => hsub a (List.mem_cons_of_mem _ ha)
    by_cases hb : b a = true
    · rw [List.filter_cons, if_pos hb, List.mapM_cons] at h
      cases hhead : f a with
      | error why => simp [hhead, bind, Except.bind] at h
      | ok e =>
        cases htail : (as.filter b).mapM f with
        | error why => simp [hhead, htail, bind, Except.bind] at h
        | ok es =>
          simp only [hhead, htail, bind, Except.bind, pure, Except.pure, Except.ok.injEq] at h
          subst h
          obtain ⟨es', hes', hfilter⟩ := ih htail hrest
          by_cases hsa : s a = true
          · refine ⟨e :: es', ?_, fun q hq => ?_⟩
            · rw [List.filter_cons, if_pos hsa, List.mapM_cons, hhead, hes']
              rfl
            · rw [List.filter_cons, List.filter_cons,
                hfilter q fun a ha => hq a (List.mem_cons_of_mem _ ha)]
          · refine ⟨es', ?_, fun q hq => ?_⟩
            · rwa [List.filter_cons, if_neg hsa]
            · have hqe : ¬ q e = true := fun hqe => hsa (hq a (by simp) e hb hhead hqe)
              rw [List.filter_cons, if_neg hqe]
              exact hfilter q fun a ha => hq a (List.mem_cons_of_mem _ ha)
    · have hsa : ¬ s a = true := fun hsa => hb (hsub a (by simp) hsa)
      rw [List.filter_cons, if_neg hb] at h
      obtain ⟨es', hes', hfilter⟩ := ih h hrest
      refine ⟨es', by rwa [List.filter_cons, if_neg hsa], fun q hq => ?_⟩
      exact hfilter q fun a ha => hq a (List.mem_cons_of_mem _ ha)

namespace Schema

variable {type : String} {s : Schema}

/-- The entity of a row of a table. -/
def readRow (s : Schema) (row : Columns) : Except Error Entity :=
  s.scan (recordOf s.columnNames row)

theorem scanAll_served (s : Schema) (d : Dialect) (rows : List Columns) (scope : Sql.Scope) :
    s.scanAll (served d rows s.columnNames scope)
      = (rows.filter fun row => scope.truth d row = .holds).mapM s.readRow := by
  rw [scanAll, served, List.mapM_map]
  rfl

/-- A row with an integer in a column is read as an entity with that integer as its key, or with
none. -/
theorem joinKey?_readRow (hs : reg.schema type = .ok s) {row : Columns} {e : Entity}
    (h : s.readRow row = .ok e) {name : String} {c : ColumnInfo} (hc : s.column? name = some c)
    (hint : c.type.IsInteger) {n : Int} (hn : row name = .ofInt n) :
    e.joinKey? c = .ok none ∨ e.joinKey? c = .ok (some ((Key.signed n).encode, .ofInt n)) := by
  have honly : ∀ p ∈ (recordOf s.columnNames row).columns, p.1 = name → p.2 = row name := by
    intro p hp hname
    obtain ⟨column, -, rfl⟩ := List.mem_map.1 hp
    exact congrArg row hname
  have hmem : name ∈ (recordOf s.columnNames row).columns.map Prod.fst := by
    have hcolumn : c.column ∈ s.columnNames := List.mem_map_of_mem (mem_of_column? hc)
    rw [column_of_column? hc] at hcolumn
    simpa [recordOf, Function.comp_def] using hcolumn
  obtain ⟨x, hx, hcell⟩ := cell?_scan hs h hc honly hmem
  rw [hn] at hx
  obtain hnone | ⟨m, hm, hkey⟩ := Row.joinKey?_of_isInteger hint hcell
  · exact .inl hnone
  · rw [hint.integer?_of_fromSql hx] at hm
    cases hm
    exact .inr hkey

theorem exists_joinKey?_of_typed {e : Entity} (he : s.Typed e) {c : ColumnInfo}
    (hc : c ∈ s.columns) (hint : c.type.IsInteger) :
    e.joinKey? c = .ok none ∨
      ∃ n, e.joinKey? c = .ok (some ((Key.signed n).encode, .ofInt n)) := by
  obtain ⟨x, hcell⟩ := he c hc
  exact (Row.joinKey?_of_isInteger hint hcell).imp_right fun ⟨n, _, hkey⟩ => ⟨n, hkey⟩

/-- **No row with a key that is asked for is missing** among the rows that are fetched for fewer
keys, and all else that these rows could fail at did not fail for more keys. -/
theorem scanAll_alone (hs : reg.schema type = .ok s) {d : Dialect} (hd : d.IsExact)
    {name : String} {rows : List Columns} (hrows : ∀ row ∈ rows, (row name).IsStoredInt)
    (hint : ∀ c, s.column? name = some c → c.type.IsInteger) {other : Option (String × String)}
    {pairs pairs' : List (String × Value)} (hpairs : AreIntegers pairs)
    (hpairs' : AreIntegers pairs') (hsub : pairs'.map Prod.fst ⊆ pairs.map Prod.fst)
    {es : List Entity}
    (hscan : s.scanAll (served d rows s.columnNames (lookupScope name other (firstValues pairs)))
      = .ok es) :
    ∃ es', s.scanAll (served d rows s.columnNames (lookupScope name other (firstValues pairs')))
        = .ok es' ∧
      ∀ q : Entity → Bool, (∀ e, q e = true → ∃ k ∈ pairs'.map Prod.fst,
        s.keyText? name e = some k) → es'.filter q = es.filter q := by
  rw [scanAll_served] at hscan
  simp only [scanAll_served]
  have haccepts : ∀ {pairs : List (String × Value)}, AreIntegers pairs → ∀ row ∈ rows,
      ((lookupScope name other (firstValues pairs)).truth d row = .holds ↔
        (∃ n, row name = .ofInt n ∧ (Key.signed n).encode ∈ pairs.map Prod.fst) ∧
          ∀ p ∈ other, d.compare .eq (row p.1) (.text p.2) = .holds) := by
    intro pairs h row hrow
    rw [truth_lookupScope, Plan.truth_among hd h (hrows row hrow)]
  obtain ⟨es', hes', hfilter⟩ := exists_mapM_filter
    (s := fun row => (lookupScope name other (firstValues pairs')).truth d row = .holds) hscan
    fun row hrow h => by
      rw [decide_eq_true_eq, haccepts hpairs' row hrow] at h
      rw [decide_eq_true_eq, haccepts hpairs row hrow]
      obtain ⟨⟨n, hn, hkey⟩, hother⟩ := h
      exact ⟨⟨n, hn, hsub hkey⟩, hother⟩
  refine ⟨es', hes', fun q hq => hfilter q fun row hrow e hbatch hread hqe => ?_⟩
  rw [decide_eq_true_eq, haccepts hpairs row hrow] at hbatch
  rw [decide_eq_true_eq, haccepts hpairs' row hrow]
  obtain ⟨⟨n, hn, -⟩, hother⟩ := hbatch
  obtain ⟨k, hk, hkey⟩ := hq e hqe
  obtain ⟨c, hc, hkey⟩ := Option.bind_eq_some_iff.1 hkey
  obtain hnone | hsome := joinKey?_readRow hs hread hc (hint c hc) hn
  · rw [Row.keyText?_eq hnone] at hkey
    cases hkey
  · rw [Row.keyText?_eq hsome] at hkey
    cases hkey
    exact ⟨⟨n, hn, hk⟩, hother⟩

/-- Rows that are read from a table have keys in integer columns, or none. -/
theorem joinKey?_scanAll (hs : reg.schema type = .ok s) {records : List Record} {es : List Entity}
    (h : s.scanAll records = .ok es) {c : ColumnInfo} (hc : c ∈ s.columns)
    (hint : c.type.IsInteger) : ∀ e ∈ es, ∃ pair, e.joinKey? c = .ok pair := by
  intro e he
  obtain ⟨r, -, hscan⟩ := exists_of_mapM_eq_ok h he
  obtain hnone | ⟨n, hsome⟩ := exists_joinKey?_of_typed (typed_scan hs hscan) hc hint
  · exact ⟨none, hnone⟩
  · exact ⟨_, hsome⟩

end Schema

theorem areIntegers_keyPairs {c : ColumnInfo} {batch : List Entity}
    (h : ∀ e ∈ batch, e.joinKey? c = .ok none ∨
      ∃ n, e.joinKey? c = .ok (some ((Key.signed n).encode, .ofInt n))) :
    AreIntegers (keyPairs c batch) := by
  intro p hp
  obtain ⟨e, he, hpair⟩ := List.mem_filterMap.1 hp
  obtain hnone | ⟨n, hsome⟩ := h e he
  · rw [Row.keyPair?_eq hnone] at hpair
    cases hpair
  · rw [Row.keyPair?_eq hsome] at hpair
    cases hpair
    exact ⟨n, rfl⟩

/-! ### Columns of integers -/

/-- The columns of a type that have the name hold integers. -/
def Schema.HasIntegers (s : Schema) (name : String) : Prop :=
  ∀ c, s.column? name = some c → c.type.IsInteger

/-- The rows of a table have integers in a column, or NULL. -/
def HoldIntegers (rows : List Columns) (name : String) : Prop :=
  ∀ row ∈ rows, (row name).IsStoredInt

/-- A relation joins columns of integers, in the types and in the tables. -/
structure Join.JoinsIntegers (reg : Registry) (tables : String → List Columns) (s : Schema)
    (j : Join) : Prop where
  parent : s.HasIntegers j.parentColumn
  target : ∀ target, reg.schema j.target = .ok target → target.HasIntegers j.childColumn
  stored : HoldIntegers (tables j.table) j.childColumn

@[inherit_doc Join.JoinsIntegers]
structure PivotJoin.JoinsIntegers (reg : Registry) (tables : String → List Columns) (s : Schema)
    (j : PivotJoin) : Prop where
  parent : s.HasIntegers j.parentKey
  target : ∀ target, reg.schema j.target = .ok target → target.HasIntegers j.relatedKey
  foreign : HoldIntegers (tables j.pivotTable) j.foreignPivotKey
  related : HoldIntegers (tables j.pivotTable) j.relatedPivotKey
  stored : HoldIntegers (tables j.table) j.relatedKey

@[inherit_doc Join.JoinsIntegers]
structure OwnerJoin.JoinsIntegers (reg : Registry) (tables : String → List Columns) (s : Schema)
    (j : OwnerJoin) : Prop where
  id : s.HasIntegers j.idColumn
  owner : ∀ d type target c, j.types.get? d = some type → reg.schema type = .ok target →
    j.column? target = some c → c.type.IsInteger ∧ HoldIntegers (tables target.table) c.column

@[inherit_doc Join.JoinsIntegers]
def Descriptor.JoinsIntegers (reg : Registry) (tables : String → List Columns) (s : Schema) :
    Descriptor → Prop
  | .hasOne j | .hasMany j | .belongsTo j | .morphOne j | .morphMany j =>
    j.JoinsIntegers reg tables s
  | .belongsToMany j => j.JoinsIntegers reg tables s
  | .morphTo j => j.JoinsIntegers reg tables s

/-! ### Runs that succeed -/

/-- A run succeeds in every world, with a value that satisfies `Q`. -/
abbrev Run.Succeeds {α : Type} (x : Run reg σ α) (Q : α → Prop) : Prop :=
  Ensures x (fun _ => True) (fun _ => False) Q

namespace Plan

/-- The node asks for a relation as it is: all columns, nothing below, no constraint. -/
structure IsPlain (plan : Plan) (node : PathNode) : Prop where
  columns_eq : node.columns = none
  children_eq : node.children = []
  constrain_eq : ∀ scope, plan.eager.constrain node.path scope = scope

variable {db : Database σ} {plan : Plan} {node : PathNode} {type : String}
  {parents : List Entity} {w w₁ : World reg σ} {info : RelationInfo}
  {d : Dialect} {tables : String → List Columns} {s target : Schema} {i : Nat} {p : Entity}

theorem joinScope_eq (j : Join) (values : List Value) :
    joinScope j values = lookupScope j.childColumn j.discriminator values := by
  unfold joinScope lookupScope
  cases j.discriminator <;> rfl

theorem among_eq (column : String) (values : List Value) :
    among column values = lookupScope column none values := rfl

theorem succeeds_issue (hserves : db.Serves d tables) (purpose : Sql.Purpose) (table : String)
    (columns : List String) (column : String) (other : Option (String × String))
    (values : List Value) :
    Succeeds (issue db purpose (.select table columns (lookupScope column other values)) :
      Run reg σ (List Record))
      (· = served d (tables table) columns (lookupScope column other values)) :=
  (ensures_issue_of (E := fun _ => False)
    (fun state => hserves.answer_eq table columns column other values state) purpose).mono
    (fun _ _ => trivial) (fun _ => id) fun _ => id

theorem succeeds_select (hserves : db.Serves d tables) (hplain : plan.IsPlain node)
    (hs : reg.schema type = .ok s) {table name : String} {other : Option (String × String)}
    {values : List Value} (hnames : ∀ n ∈ (lookupScope name other values).names, Sql.Accepted n)
    (htable : Sql.Accepted table) {rows : List Entity}
    (hscan : s.scanAll (served d (tables table) s.columnNames (lookupScope name other values))
      = .ok rows) :
    Succeeds (plan.select db node type table (lookupScope name other values) : Run reg σ _)
      (· = rows) := by
  unfold select
  rw [hplain.constrain_eq]
  refine (ensures_checkNames_of hnames).bind fun _ _ => ?_
  refine (ensures_schema_of hs).bind fun s' heq => ?_
  subst heq
  have hcolumns : Succeeds (projection node s'.val : Run reg σ (List String))
      (· = s'.val.columnNames) := by
    unfold projection
    rw [hplain.columns_eq]
    exact Ensures.pure rfl
  refine hcolumns.bind fun columns heq => ?_
  subst heq
  refine (ensures_checkName_of htable).bind fun _ _ => ?_
  refine (succeeds_issue hserves _ _ _ _ _ _).bind fun records heq => ?_
  subst heq
  exact ensures_ofExcept_of hscan

/-- The rows that were selected are those of the table. -/
theorem Selected.scanAll_eq (hserves : db.Serves d tables) (hplain : plan.IsPlain node)
    {table name : String} {other : Option (String × String)} {values : List Value}
    {rows : List Entity}
    (h : Selected db plan node type table (lookupScope name other values) w w₁ s rows) :
    s.scanAll (served d (tables table) s.columnNames (lookupScope name other values))
      = .ok rows := by
  obtain ⟨columns, records, hcolumns, hanswered, hscan⟩ := h.answered
  have hanswer := hanswered.answer_eq
  rw [hplain.constrain_eq, hserves.answer_eq, hcolumns hplain.columns_eq] at hanswer
  rwa [← Except.ok.inj hanswer] at hscan

theorem Selected.accepted (hplain : plan.IsPlain node) {table name : String}
    {other : Option (String × String)} {values : List Value} {rows : List Entity}
    (h : Selected db plan node type table (lookupScope name other values) w w₁ s rows)
    (values' : List Value) :
    ∀ n ∈ (lookupScope name other values').names, Sql.Accepted n := by
  rw [lookupScope_names name other values' values, ← hplain.constrain_eq (lookupScope ..)]
  exact h.names_accepted

theorem succeeds_correlate (index : KeyIndex) {name : String} {rows : List Entity}
    (h : ∀ c, target.column? name = some c → ∀ row ∈ rows, ∃ pair, row.joinKey? c = .ok pair) :
    Succeeds (correlate index target name rows : Run reg σ _) fun staged =>
      match target.column? name with
      | some c => index.correlate c rows = .ok staged
      | none => staged = [] := by
  unfold correlate
  cases hc : target.column? name with
  | none => exact Ensures.pure rfl
  | some c =>
    obtain ⟨staged, hstaged⟩ := (KeyIndex.exists_correlate_iff index).2 (h c hc)
    refine (ensures_ofExcept_of hstaged).imp fun _ heq => ?_
    rw [heq]
    exact hstaged

/-- What was fetched for a batch can be fetched for fewer keys, and no row with such a key is then
missing. -/
theorem succeeds_fetch (hserves : db.Serves d tables) (hplain : plan.IsPlain node)
    {table name : String} {other : Option (String × String)} {pairs pairs' : List (String × Value)}
    {rows : List Entity}
    (hselected : Selected db plan node type table (lookupScope name other (firstValues pairs)) w w₁
      target rows)
    (hint : target.HasIntegers name) (hstored : HoldIntegers (tables table) name)
    (hpairs : AreIntegers pairs) (hpairs' : AreIntegers pairs')
    (hsub : pairs'.map Prod.fst ⊆ pairs.map Prod.fst) (index : KeyIndex)
    (event : List Entity → List (Nat × Entity) → Event) :
    Succeeds (do
      let rows ← plan.select db node type table (lookupScope name other (firstValues pairs'))
      let target ← schema type
      let staged ← correlate index target name rows
      emit (event rows staged)
      pure staged : Run reg σ (List (Nat × Entity))) fun staged => ∃ rows',
        (match target.column? name with
          | some c => index.correlate c rows' = .ok staged
          | none => staged = []) ∧
        ∀ q : Entity → Bool, (∀ e, q e = true → ∃ k ∈ pairs'.map Prod.fst,
          target.keyText? name e = some k) → rows'.filter q = rows.filter q := by
  have hs := hselected.schema_eq
  obtain ⟨rows', hscan, hfilter⟩ := Schema.scanAll_alone hs hserves.exact hstored hint hpairs
    hpairs' hsub (hselected.scanAll_eq hserves hplain)
  refine (succeeds_select hserves hplain hs (hselected.accepted hplain _) hselected.table_accepted
    hscan).bind fun _ heq => ?_
  subst heq
  refine (ensures_schema_of hs).bind fun target' heq => ?_
  subst heq
  refine (succeeds_correlate index fun c hc => Schema.joinKey?_scanAll hs hscan
    (Schema.mem_of_column? hc) (hint c hc)).bind fun staged hstaged => ?_
  exact (ensures_emit _).bind fun _ _ => Ensures.pure ⟨_, hstaged, hfilter⟩

end Plan

end EntityGraph
