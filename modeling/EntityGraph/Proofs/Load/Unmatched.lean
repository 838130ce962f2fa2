import EntityGraph.Proofs.Load.Linked
import EntityGraph.Proofs.Load.Owned
import EntityGraph.Proofs.Schema.Scanning
import Mathlib.Data.List.Sort

/-!
# Rows without the column they are joined on

A load does not look at the columns that it selects. If they leave out the column on which rows are
matched, every row is read with the default there, the default of every type is its zero, and a zero
is no key. So the rows match nothing: the load succeeds, issues the statements of its own level and
no other, and empties the relation of every parent (`loadNode_unmatched`).
-/

namespace EntityGraph

open Run
open Sql (Record Statement Value)

variable {reg : Registry} {σ : Type}

/-! ### Defaults are no keys -/

/-- The default of every type is its zero. -/
theorem ColumnType.isZero_default (t : ColumnType) : t.isZero t.default = true := by
  cases t with
  | byteArray n => simp [isZero, default]
  | _ => rfl

/-- A column that a row lacks holds no key. -/
theorem Schema.joinKey?_of_lacking {type : String} {s : Schema} (hs : reg.schema type = .ok s)
    {r : Record} {e : Entity} (h : s.scan r = .ok e) {name : String} (hlacks : r.get? name = none)
    {c : ColumnInfo} (hc : s.column? name = some c) : e.joinKey? c = .ok none := by
  have hcell : e.cell? c.path = some (Cell.default c.type) := by
    have hmem := mem_of_column? hc
    refine (cell?_readColumns_of_ne hs (typed_fresh hs) h hmem fun p hp hpc => ?_).trans
      (cell?_fresh hs hmem)
    have hname : p.1 = name := (column_of_column? hpc).symm.trans (column_of_column? hc)
    exact bne_iff_ne.1 (List.lookup_eq_none_iff.1 hlacks p hp) hname.symm
  have hzero : (Cell.default c.type).isZero = true := c.type.isZero_default
  rw [Row.joinKey?, hcell]
  simp only [hzero, if_true]

/-- Entities without keys are matched with nothing. -/
theorem KeyIndex.correlate_of_keyless (index : KeyIndex) {c : ColumnInfo} {rows : List Entity}
    (h : ∀ row ∈ rows, row.joinKey? c = .ok none) : index.correlate c rows = .ok [] := by
  induction rows with
  | nil => rfl
  | cons row rows ih =>
    obtain ⟨hrow, hrest⟩ := List.forall_mem_cons.1 h
    rw [correlate, matching, hrow, ih hrest]
    rfl

/-! ### The answers to a level -/

/-- The columns that a node selects of a type. -/
def PathNode.selected (reg : Registry) (node : PathNode) (s : Schema) : List String :=
  match node.columns with
  | some columns => columns.map fun name => (reg.resolve (s.type, name)).getD name
  | none => s.columnNames

/-- The column of the parents whose keys are looked up. -/
def Descriptor.keyColumn : Descriptor → String
  | .hasOne j | .hasMany j | .belongsTo j | .morphOne j | .morphMany j => j.parentColumn
  | .belongsToMany j => j.parentKey
  | .morphTo j => j.idColumn

namespace Plan

section
variable (reg : Registry) (db : Database σ) (plan : Plan) (node : PathNode)

/-- The database answers the statement of a node for entities of a type with rows that can be read,
but all of them lack a column. -/
structure AnswersWithout (column type table : String) (target : Schema) (scope : Sql.Scope)
    (st : σ) (statement : Statement) (st' : σ) : Prop where
  schema_eq : reg.schema type = .ok target
  names_accepted : ∀ name ∈ (plan.eager.constrain node.path scope).names, Sql.Accepted name
  table_accepted : Sql.Accepted table
  statement_eq : statement
    = .select table (node.selected reg target) (plan.eager.constrain node.path scope)
  answered : ∃ records rows, db.answer statement st = (.ok records, st') ∧
    target.scanAll records = .ok rows ∧ ∀ r ∈ records, r.get? column = none

/-- What is answered to a key relation: nothing is asked without keys. -/
inductive UnmatchedKeyed (s : Schema) (parents : List Entity) (j : Join) :
    σ → List Statement → σ → Prop
  | keyless {st : σ} (h : s.keyPairs j.parentColumn parents = []) :
    UnmatchedKeyed s parents j st [] st
  | fetched {st st' : σ} {target : Schema} {statement : Statement}
    (hkeys : s.keyPairs j.parentColumn parents ≠ [])
    (h : AnswersWithout reg db plan node j.childColumn j.target j.table target
      (joinScope j (firstValues (s.keyPairs j.parentColumn parents))) st statement st') :
    UnmatchedKeyed s parents j st [statement] st'

/-- What is answered to a pivot relation: pivot rows whose values make keys, and then the rows that
they link to, if there are any. -/
inductive UnmatchedPivot (s : Schema) (parents : List Entity) (j : PivotJoin) :
    σ → List Statement → σ → Prop
  | keyless {st : σ} (h : s.keyPairs j.parentKey parents = []) : UnmatchedPivot s parents j st [] st
  | linkless {st st' : σ} {pivots : List Record} (hkeys : s.keyPairs j.parentKey parents ≠ [])
    (hpivots : db.answer (j.statement (firstValues (s.keyPairs j.parentKey parents))) st
      = (.ok pivots, st'))
    (hencoded : ∀ r ∈ pivots, j.HasKeys r) (hnone : j.linked s parents pivots = []) :
    UnmatchedPivot s parents j st
      [j.statement (firstValues (s.keyPairs j.parentKey parents))] st'
  | linked {st st₁ st' : σ} {pivots : List Record} {target : Schema} {statement : Statement}
    (hkeys : s.keyPairs j.parentKey parents ≠ [])
    (hpivots : db.answer (j.statement (firstValues (s.keyPairs j.parentKey parents))) st
      = (.ok pivots, st₁))
    (hencoded : ∀ r ∈ pivots, j.HasKeys r) (hsome : j.linked s parents pivots ≠ [])
    (h : AnswersWithout reg db plan node j.relatedKey j.target j.table target
      (among j.relatedKey (firstValues (j.linked s parents pivots))) st₁ statement st') :
    UnmatchedPivot s parents j st
      [j.statement (firstValues (s.keyPairs j.parentKey parents)), statement] st'

/-- What is answered for the owners of some discriminators, one after the other. -/
inductive UnmatchedOwners (j : OwnerJoin) (values : String → List Value) :
    List String → σ → List Statement → σ → Prop
  | done {st : σ} : UnmatchedOwners j values [] st [] st
  | unmapped {d : String} {ds : List String} {st st' : σ} {statements : List Statement}
    (hd : j.types.get? d = none) (rest : UnmatchedOwners j values ds st statements st') :
    UnmatchedOwners j values (d :: ds) st statements st'
  | mapped {d type : String} {ds : List String} {target : Schema} {column : ColumnInfo}
    {st st₁ st' : σ} {statement : Statement} {statements : List Statement}
    (hd : j.types.get? d = some type) (hcolumn : j.column? target = some column)
    (first : AnswersWithout reg db plan node column.column type target.table target
      (among column.column (values d)) st statement st₁)
    (rest : UnmatchedOwners j values ds st₁ statements st') :
    UnmatchedOwners j values (d :: ds) st (statement :: statements) st'

/-- The statements of a level are answered one after the other, and the rows for the relation lack
the column that they are joined on. -/
def Unmatched (s : Schema) (parents : List Entity) (st : σ) (statements : List Statement)
    (st' : σ) : Descriptor → Prop
  | .hasOne j | .hasMany j | .belongsTo j | .morphOne j | .morphMany j =>
    UnmatchedKeyed reg db plan node s parents j st statements st'
  | .belongsToMany j => UnmatchedPivot reg db plan node s parents j st statements st'
  | .morphTo j => ∃ typeColumn idColumn discriminators,
    s.column? j.typeColumn = some typeColumn ∧ s.column? j.idColumn = some idColumn ∧
      Present typeColumn idColumn parents discriminators ∧
      UnmatchedOwners reg db plan node j (referred typeColumn idColumn parents) discriminators st
        statements st'

end

variable {db : Database σ} {plan : Plan} {node : PathNode} {type : String}
  {parents : List Entity} {w : World reg σ} {info : RelationInfo} {s target : Schema}
  {st st' : σ} {statement : Statement} {statements : List Statement}

/-! ### Rows that match nothing -/

theorem ensures_selected (node : PathNode) (hs : reg.schema type = .ok s) :
    Ensures (projection node s : Run reg σ (List String)) (fun _ => False) (fun _ => False)
      (· = node.selected reg s) := by
  have hself : reg.schema s.type = .ok s := by
    rw [Registry.type_eq hs]
    exact hs
  unfold projection PathNode.selected
  cases node.columns with
  | none => exact Ensures.pure rfl
  | some columns =>
    refine (ensures_mapM fun name _ => (ensures_resolveOrKeep s.type name).weaken fun _ h =>
      h.2 s hself).imp fun found hall => ?_
    rw [← List.forall₂_eq_eq_eq, List.forall₂_map_right_iff]
    exact hall.flip

theorem AnswersWithout.takes {column table : String} {scope : Sql.Scope}
    (h : AnswersWithout reg db plan node column type table target scope st statement st') :
    ∃ rows, Takes (plan.select db node type table scope : Run reg σ _) st [statement] st' rows ∧
      ∀ c, target.column? column = some c → ∀ row ∈ rows, row.joinKey? c = .ok none := by
  obtain ⟨records, rows, hanswer, hscan, hlacks⟩ := h.answered
  refine ⟨rows, ?_, fun c hc row hrow => ?_⟩
  · unfold select
    refine .after (ensures_checkNames_of h.names_accepted) fun _ _ => ?_
    refine .after (ensures_schema_of h.schema_eq) fun target' heq => ?_
    subst heq
    refine .after (ensures_selected node h.schema_eq) fun columns heq => ?_
    subst heq
    refine .after (ensures_checkName_of h.table_accepted) fun _ _ => ?_
    rw [← h.statement_eq]
    exact (takes_issue hanswer .relation).before (ensures_ofExcept_of hscan)
  · obtain ⟨r, hr, hread⟩ := exists_of_mapM_eq_ok hscan hrow
    exact Schema.joinKey?_of_lacking h.schema_eq hread (hlacks r hr) hc

/-- Rows that were fetched without the column are matched with nothing. -/
theorem AnswersWithout.takes_fetch {column table : String} {scope : Sql.Scope}
    (h : AnswersWithout reg db plan node column type table target scope st statement st')
    (index : KeyIndex) (event : List Entity → List (Nat × Entity) → Event) :
    Takes (do
      let rows ← plan.select db node type table scope
      let target ← schema type
      let staged ← correlate index target column rows
      emit (event rows staged)
      pure staged : Run reg σ (List (Nat × Entity))) st [statement] st' [] := by
  obtain ⟨rows, hselect, hkeyless⟩ := h.takes
  refine hselect.before ?_
  refine (ensures_schema_of h.schema_eq).bind fun target' heq => ?_
  subst heq
  have hnothing : Ensures (correlate index target'.val column rows : Run reg σ _)
      (fun _ => False) (fun _ => False) (· = []) := by
    unfold correlate
    cases hc : target'.val.column? column with
    | none => exact Ensures.pure rfl
    | some c => exact ensures_ofExcept_of (index.correlate_of_keyless (hkeyless c hc))
  refine hnothing.bind fun staged heq => ?_
  subst heq
  exact (ensures_emit _).bind fun _ _ => Ensures.pure rfl

/-- The keys that parents hold in a column can be encoded. -/
def HaveKeys (s : Schema) (parents : List Entity) (name : String) : Prop :=
  ∀ c, s.column? name = some c → ∀ p ∈ parents, ∃ key, p.joinKey? c = .ok key

/-- Parents whose keys can be encoded are indexed by them. -/
theorem HaveKeys.exists_index {name : String} (h : HaveKeys s parents name)
    (hmapped : (s.column? name).isSome = true) :
    ∃ c index, s.column? name = some c ∧ KeyIndex.ofBatch c parents = .ok index ∧
      index.Holds (s.keyPairs name parents) := by
  obtain ⟨c, hc⟩ := Option.isSome_iff_exists.1 hmapped
  obtain ⟨index, hindex⟩ := KeyIndex.exists_ofBatch_iff.2 (h c hc)
  refine ⟨c, index, hc, hindex, ?_⟩
  rw [Schema.keyPairs, hc]
  exact KeyIndex.holds_ofBatch hindex

theorem UnmatchedKeyed.takes {j : Join}
    (h : UnmatchedKeyed reg db plan node s parents j st statements st')
    (hmapped : (s.column? j.parentColumn).isSome = true)
    (hkeys : HaveKeys s parents j.parentColumn) (kind : RelationKind) :
    Takes (plan.stageKeyed db node kind j s parents : Run reg σ _) st statements st' [] := by
  obtain ⟨c, index, hc, hindex, hholds⟩ := hkeys.exists_index hmapped
  unfold stageKeyed
  refine .after (ensures_mapped hmapped) fun c' hc' => ?_
  obtain rfl : c = c' := Option.some.inj (hc.symm.trans hc')
  refine .after (ensures_ofExcept_of hindex) fun _ heq => ?_
  subst heq
  cases h with
  | keyless hnone =>
    rw [if_pos (hholds.isEmpty_eq.2 hnone)]
    exact .after (ensures_emit _) fun _ _ => .pure _ _
  | fetched hsome h =>
    rw [if_neg (hholds.isEmpty_eq.not.2 hsome), hholds.values_eq]
    exact h.takes_fetch _ _

theorem takes_selectPivot {j : PivotJoin} (hpivot : Sql.Accepted j.pivotTable)
    {values : List Value} {pivots : List Record}
    (h : db.answer (j.statement values) st = (.ok pivots, st')) :
    Takes (selectPivot db j values : Run reg σ _) st [j.statement values] st' pivots := by
  exact .after (ensures_checkName_of hpivot) fun _ _ => takes_issue h .pivot

theorem UnmatchedPivot.takes {j : PivotJoin}
    (h : UnmatchedPivot reg db plan node s parents j st statements st')
    (hmapped : (s.column? j.parentKey).isSome = true) (hpivot : Sql.Accepted j.pivotTable)
    (hkeys : HaveKeys s parents j.parentKey) :
    Takes (plan.stagePivot db node j s parents : Run reg σ _) st statements st' [] := by
  obtain ⟨c, index, hc, hindex, hholds⟩ := hkeys.exists_index hmapped
  have hlinks : ∀ {pivots : List Record}, (∀ r ∈ pivots, j.HasKeys r) →
      ∃ links, j.links index pivots = .ok links ∧ links.Holds (j.linked s parents pivots) := by
    intro pivots hencoded
    obtain ⟨links, hlinks⟩ := PivotJoin.exists_links hencoded index
    exact ⟨links, hlinks, linkedPairs_eq hc hindex pivots ▸ (PivotJoin.links_of_links hlinks).holds⟩
  unfold stagePivot
  refine .after (ensures_mapped hmapped) fun c' hc' => ?_
  obtain rfl : c = c' := Option.some.inj (hc.symm.trans hc')
  refine .after (ensures_ofExcept_of hindex) fun _ heq => ?_
  subst heq
  cases h with
  | keyless hnone =>
    rw [if_pos (hholds.isEmpty_eq.2 hnone)]
    exact .after (ensures_emit _) fun _ _ => .pure _ _
  | linkless hsome hpivots hencoded hnone =>
    rw [if_neg (hholds.isEmpty_eq.not.2 hsome), hholds.values_eq]
    obtain ⟨links, hlinks, hlinked⟩ := hlinks hencoded
    refine (takes_selectPivot hpivot hpivots).before ?_
    refine (ensures_ofExcept_of hlinks).bind fun _ heq => ?_
    subst heq
    rw [if_pos (hlinked.isEmpty_eq.2 hnone)]
    exact (ensures_emit _).bind fun _ _ => Ensures.pure rfl
  | linked hsome hpivots hencoded hsome' h =>
    rw [if_neg (hholds.isEmpty_eq.not.2 hsome), hholds.values_eq]
    obtain ⟨links, hlinks, hlinked⟩ := hlinks hencoded
    refine (takes_selectPivot hpivot hpivots).bind ?_
    refine .after (ensures_ofExcept_of hlinks) fun _ heq => ?_
    subst heq
    rw [if_neg (hlinked.isEmpty_eq.not.2 hsome'), hlinked.values_eq]
    exact h.takes_fetch _ _

section
variable {j : OwnerJoin}

theorem ensures_below (hleaf : node.children = []) (rows : List Entity) :
    Ensures (plan.below db node type rows : Run reg σ _) (fun _ => False) (fun _ => False)
      (· = rows) := by
  rw [below, hleaf, loadNodes]
  exact ensures_ofLoaded (Yields.pure rfl)

theorem AnswersWithout.takes_owners {d : String} {column : ColumnInfo} {st₁ : σ}
    {index : KeyIndex} (hd : j.types.get? d = some type) (hcolumn : j.column? target = some column)
    (h : AnswersWithout reg db plan node column.column type target.table target
      (among column.column index.values) st statement st₁) (hleaf : node.children = []) :
    Takes (plan.stageOwners db (plan.below db node) node j d index : Run reg σ _) st [statement]
      st₁ [] := by
  obtain ⟨rows, hselect, hkeyless⟩ := h.takes
  unfold stageOwners
  rw [hd]
  refine .after (ensures_schema_of h.schema_eq) fun target' heq => ?_
  subst heq
  refine .after ((ensures_ownerColumn j h.schema_eq).weaken fun _ hnone =>
    absurd hcolumn (by simp [hnone.1])) fun c hc => ?_
  obtain rfl : column = c := Option.some.inj (hcolumn.symm.trans hc)
  refine hselect.before ?_
  refine (ensures_below hleaf rows).bind fun _ heq => ?_
  subst heq
  refine (ensures_ofExcept_of (index.correlate_of_keyless
    (hkeyless column (OwnerJoin.column?_column hcolumn)))).bind fun _ heq => ?_
  subst heq
  exact (ensures_emit _).bind fun _ _ => Ensures.pure rfl

theorem UnmatchedOwners.takes {values : String → List Value} {groups : List (String × KeyIndex)}
    (h : UnmatchedOwners reg db plan node j values (groups.map Prod.fst) st statements st')
    (hvalues : ∀ g ∈ groups, g.2.values = values g.1) (hleaf : node.children = []) :
    Takes (plan.stageGroups db (plan.below db node) node j groups : Run reg σ _) st statements
      st' [] := by
  induction groups generalizing st statements with
  | nil =>
    cases h
    exact .pure _ _
  | cons group groups ih =>
    obtain ⟨d, index⟩ := group
    obtain ⟨hindex, hrest⟩ := List.forall_mem_cons.1 hvalues
    rw [stageGroups]
    cases h with
    | unmapped hd rest =>
      refine .after (stageOwners_unmapped hd _ index) fun _ heq => ?_
      subst heq
      exact (ih rest hrest).before (Ensures.pure rfl)
    | mapped hd hcolumn first rest =>
      rw [← hindex] at first
      refine (first.takes_owners hd hcolumn hleaf).bind ?_
      exact (ih rest hrest).before (Ensures.pure rfl)

end

theorem Present.unique {typeColumn idColumn : ColumnInfo} {ds ds' : List String}
    (h : Present typeColumn idColumn parents ds) (h' : Present typeColumn idColumn parents ds') :
    ds = ds' :=
  h.ordered.eq_of_mem_iff h'.ordered fun d => (h.mem_iff d).trans (h'.mem_iff d).symm

/-! ### The level -/

theorem takes_stageRows (hs : reg.schema type = .ok s) (hinfo : relation s node = .ok info)
    {k : RelationKind} {target : String} (work : Schema → Run reg σ (List (Nat × Entity)))
    (h : Takes (work s) st statements st' []) :
    Takes (do
      let s ← schema type
      let info ← MonadExcept.ofExcept (relation s.val node)
      let rows ← work s
      pure (info, Staged.rows k target rows) : Run reg σ (RelationInfo × Staged)) st statements st'
        (info, .rows k target []) := by
  refine .after (ensures_schema_of hs) fun s' heq => ?_
  rw [← heq]
  refine .after (ensures_ofExcept_of hinfo) fun _ heq => ?_
  subst heq
  exact h.before (Ensures.pure rfl)

/-- A level whose rows lack the column that they are joined on is staged, and holds nothing. -/
theorem Unmatched.takes_rows {d : Descriptor} (hs : reg.schema type = .ok s)
    (hinfo : relation s node = .ok info) (hd : plan.descriptor? type node = some d)
    (hchecked : d.Checked reg s) (hkeys : HaveKeys s parents d.keyColumn)
    (h : Unmatched reg db plan node s parents st statements st' d) (hkind : d.kind ≠ .morphTo) :
    ∃ target, Takes (plan.stage db (plan.below db node) node type parents : Run reg σ _) st
      statements st' (info, .rows d.kind target []) := by
  cases d with
  | hasOne j | hasMany j | belongsTo j | morphOne j | morphMany j =>
    rw [stage_of_join hd rfl]
    exact ⟨j.target, takes_stageRows hs hinfo (fun s => plan.stageKeyed db node _ j s parents)
      (h.takes hchecked.2 hkeys _)⟩
  | belongsToMany j =>
    rw [stage_of_pivot hd]
    exact ⟨j.target, takes_stageRows hs hinfo (fun s => plan.stagePivot db node j s parents)
      (h.takes hchecked.2.1 (hchecked.2.2 _ (by simp)) hkeys)⟩
  | morphTo j => exact absurd rfl hkind

theorem Unmatched.takes_owners {j : OwnerJoin} (hs : reg.schema type = .ok s)
    (hinfo : relation s node = .ok info) (hd : plan.descriptor? type node = some (.morphTo j))
    (hkeys : HaveKeys s parents j.idColumn)
    (h : Unmatched reg db plan node s parents st statements st' (.morphTo j))
    (hleaf : node.children = []) :
    Takes (plan.stage db (plan.below db node) node type parents : Run reg σ _) st statements st'
      (info, .owners []) := by
  obtain ⟨typeColumn, idColumn, ds, htype, hid, hpresent, howners⟩ := h
  cases hgroups : OwnerJoin.groups typeColumn idColumn parents with
  | error why =>
    obtain ⟨p, hp, herror⟩ := groups_eq_error hgroups
    obtain ⟨key, hkey⟩ := hkeys idColumn hid p hp
    rw [hkey] at herror
    cases herror
  | ok groups =>
    obtain rfl := hpresent.unique (present_of_groups hgroups)
    have hvalues : ∀ g ∈ groups.entries, g.2.values = referred typeColumn idColumn parents g.1 :=
      fun g hg => ((grouping_of_groups hgroups).group g hg).holds.values_eq
    rw [stage_of_owners hd]
    refine .after (ensures_schema_of hs) fun s' heq => ?_
    rw [← heq]
    refine .after (ensures_ofExcept_of hinfo) fun _ heq => ?_
    subst heq
    refine .after (ensures_mapped (by rw [htype]; rfl)) fun c hc => ?_
    obtain rfl : typeColumn = c := Option.some.inj (htype.symm.trans hc)
    refine .after (ensures_mapped (by rw [hid]; rfl)) fun c hc => ?_
    obtain rfl : idColumn = c := Option.some.inj (hid.symm.trans hc)
    refine .after (ensures_ofExcept_of hgroups) fun _ heq => ?_
    subst heq
    exact (howners.takes hvalues hleaf).before (Ensures.pure rfl)

theorem commit_owners_nil (slot : Nat) (parents : List Entity) :
    (Staged.owners []).commit slot parents
      = parents.map fun p => p.setItem slot RelationKind.morphTo.emptyItem :=
  List.ext_getElem? fun i => by simp [Staged.commit, Staged.item, Staged.atPosition,
    RelationKind.emptyItem]

theorem content_nil {k : RelationKind} (hk : k ≠ .morphTo) : k.content [] = k.emptyItem := by
  cases k with
  | morphTo => exact absurd rfl hk
  | _ => rfl

/-- **Rows without the column that they are joined on match nothing.** If the statements of a level
are answered, the answers can be read and the keys of the parents and of the pivot rows can be
encoded, then the load succeeds and issues these statements only, whatever is requested below the
relation, and every parent holds nothing, whatever it held before. Below a relation to owners of
several types nothing is to be requested. -/
theorem loadNode_unmatched {d : Descriptor} (hs : reg.schema type = .ok s)
    (hinfo : relation s node = .ok info) (hd : plan.descriptor? type node = some d)
    (hchecked : d.Checked reg s) (hfits : ∀ p ∈ parents, s.Fits p)
    (hkeys : HaveKeys s parents d.keyColumn)
    (hleaf : d.kind = .morphTo → node.children = [])
    (h : Unmatched reg db plan node s parents w.state statements st' d) :
    ∃ w₁, plan.loadNode db node type parents w
        = (⟨parents.map fun p => p.setItem info.position d.kind.emptyItem, none⟩, w₁) ∧
      w₁.issued = w.issued ++ statements ∧ w₁.state = st' ∧
      ∀ p ∈ parents, (p.setItem info.position d.kind.emptyItem).item? info.position
        = some d.kind.emptyItem := by
  have hposition : ∀ p ∈ parents, info.position < p.items.length := by
    intro p hp
    rw [hfits p hp]
    exact Registry.position_lt hs (mem_relations_of_relation hinfo)
  have hempty : ∀ p ∈ parents, (p.setItem info.position d.kind.emptyItem).item? info.position
      = some d.kind.emptyItem := fun p hp => Row.item?_setItem (hposition p hp) _
  by_cases hkind : d.kind = .morphTo
  · obtain ⟨j, rfl⟩ : ∃ j, d = .morphTo j := by
      cases d with
      | morphTo j => exact ⟨j, rfl⟩
      | _ => cases hkind
    obtain ⟨w₁, hstage, hissued, hst'⟩ :=
      Unmatched.takes_owners hs hinfo hd hkeys h (hleaf rfl) w rfl
    refine ⟨w₁, ?_, hissued, hst', hempty⟩
    rw [loadNode_owners hstage, commit_owners_nil]
    rfl
  · obtain ⟨target, htakes⟩ := Unmatched.takes_rows hs hinfo hd hchecked hkeys h hkind
    obtain ⟨w₁, hstage, hissued, hst'⟩ := htakes w rfl
    refine ⟨w₁, ?_, hissued, hst', hempty⟩
    rw [loadNode_nothing hposition hstage, content_nil hkind]

/-! Two authors that hold a post already. Their posts are asked for without the column that refers
to the author, together with what is below the posts. -/

def namelessDatabase : Database Unit where
  answer _ _ := (.ok [⟨[("id", .int 7)]⟩, ⟨[("id", .int 8)]⟩], ())

def writer (id : Int) : Entity :=
  (author id).setItem 1 (.many [⟨"Post", [.cell ⟨.int .i64, Column.IntType.ofInt .i64 7⟩,
    .cell ⟨.int .i64, Column.IntType.ofInt .i64 id⟩]⟩])

def postIds : PathNode :=
  ⟨"Posts", "Posts", some ["id"], [⟨"Comments", "Posts.Comments", none, []⟩]⟩

theorem loadNode_unmatched_authors :
    let w : World authorRegistry Unit := { catalog := .empty _ {}, state := () }
    let statement : Statement := .select "posts" ["id"] (among "author_id" [.int 1, .int 2])
    ∃ w₁, authorPlan.loadNode namelessDatabase postIds "Author" [writer 1, writer 2] w
        = (⟨[author 1, author 2], none⟩, w₁) ∧
      w₁.issued = [statement] := by
  intro w statement
  obtain ⟨s, hs⟩ : ∃ s, authorRegistry.schema "Author" = .ok s := ⟨_, rfl⟩
  obtain ⟨target, htarget⟩ : ∃ s, authorRegistry.schema "Post" = .ok s := ⟨_, rfl⟩
  obtain ⟨info, hinfo, hposition⟩ : ∃ info, relation s postIds = .ok info ∧ info.position = 1 := by
    cases hs
    exact ⟨_, rfl, rfl⟩
  have hchecked : (Descriptor.hasMany postsOfAuthors).Checked authorRegistry s := by
    cases hs
    exact ⟨by decide +kernel, rfl⟩
  have hfits : ∀ p ∈ [writer 1, writer 2], s.Fits p := by
    cases hs
    decide
  have hkeys : HaveKeys s [writer 1, writer 2] "id" := by
    intro c hc
    cases hs
    cases hc
    exact List.forall_mem_cons.2 ⟨⟨_, rfl⟩, List.forall_mem_singleton.2 ⟨_, rfl⟩⟩
  have hpairs : s.keyPairs postsOfAuthors.parentColumn [writer 1, writer 2]
      = [("1", .int 1), ("2", .int 2)] := by
    cases hs
    decide +kernel
  have hanswers : AnswersWithout authorRegistry namelessDatabase authorPlan postIds "author_id"
      "Post" "posts" target
      (joinScope postsOfAuthors
        (firstValues (s.keyPairs postsOfAuthors.parentColumn [writer 1, writer 2])))
      () statement () := by
    rw [hpairs]
    cases htarget
    exact ⟨rfl, by decide +kernel, by decide +kernel, rfl, _, _, rfl, rfl, by decide⟩
  have hd : authorPlan.descriptor? "Author" postIds = some (.hasMany postsOfAuthors) := rfl
  obtain ⟨w₁, hload, hissued, -, -⟩ := loadNode_unmatched hs hinfo hd hchecked hfits hkeys nofun
    (UnmatchedKeyed.fetched (by simp [hpairs]) hanswers)
  rw [hposition] at hload
  exact ⟨w₁, hload, hissued⟩

end Plan

end EntityGraph
