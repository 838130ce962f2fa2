import EntityGraph.Proofs.Load.Keeping
import EntityGraph.Proofs.Load.Matching

/-!
# What key relations hold

A relation that joins on one key column takes one statement for a whole batch. When its rows are at
hand, every parent holds the rows with its own key, in the order of the answer: all of them, or the
first one, as the kind of the relation has it (`loadNode_keyed`). What the relation held before does
not matter. A batch without keys takes no statement.
-/

namespace EntityGraph

open Sql (Statement Record)

variable {reg : Registry} {σ : Type}

/-! ### What is to be held -/

/-- The join of a relation that is matched on one key column of the related table. -/
def Descriptor.join? : Descriptor → Option Join
  | .hasOne j | .hasMany j | .belongsTo j | .morphOne j | .morphMany j => some j
  | .belongsToMany _ | .morphTo _ => none

/-- The encoded key that an entity holds in a column of its type. -/
def Schema.keyText? (s : Schema) (column : String) (e : Entity) : Option String :=
  (s.column? column).bind e.keyText?

/-- The rows that have the key of a parent. -/
def Join.rowsOf (j : Join) (s target : Schema) (rows : List Entity) (parent : Entity) :
    List Entity :=
  match s.keyText? j.parentColumn parent with
  | none => []
  | some key => rows.filter fun row => target.keyText? j.childColumn row = some key

/-- What a relation of a kind holds, given its rows. -/
def RelationKind.content (k : RelationKind) (rows : List Entity) : Item :=
  if k.isMany then .many rows else .one rows.head?

/-- Relations whose entities are related one by one. -/
inductive Item.Rel (R : Entity → Entity → Prop) : Item → Item → Prop
  | one {a b : Option Entity} (h : Option.Rel R a b) : Rel R (.one a) (.one b)
  | many {as bs : List Entity} (h : List.Forall₂ R as bs) : Rel R (.many as) (.many bs)

theorem Item.Rel.mono {R S : Entity → Entity → Prop} (hRS : ∀ a b, R a b → S a b) {x y : Item}
    (h : Item.Rel R x y) : Item.Rel S x y := by
  cases h with
  | one h =>
    refine .one ?_
    cases h with
    | none => exact .none
    | some h => exact .some (hRS _ _ h)
  | many h => exact .many (h.imp hRS)

theorem Item.Rel.eq {x y : Item} (h : Item.Rel (fun a b => b = a) x y) : y = x := by
  cases h with
  | one h =>
    cases h with
    | none => rfl
    | some h => rw [h]
  | many h =>
    induction h with
    | nil => rfl
    | cons hhead _ ih =>
      cases ih
      rw [hhead]

/-! ### Putting children back -/

theorem Row.item?_setItem {e : Entity} {slot : Nat} (h : slot < e.items.length) (item : Item) :
    (e.setItem slot item).item? slot = some item := by
  simp [Row.item?, Row.setItem, h]

theorem Row.setItem_setItem (e : Entity) (slot : Nat) (x y : Item) :
    (e.setItem slot x).setItem slot y = e.setItem slot y := by
  simp [Row.setItem]

/-- Children that are put back replace the children that were taken out. -/
theorem setChildren_content {R : Entity → Entity → Prop} {e : Entity} {slot : Nat}
    (h : slot < e.items.length) (k : RelationKind) (rows : List Entity) {cs : List Entity}
    (hcs : List.Forall₂ R ((e.setItem slot (k.content rows)).children slot) cs) :
    ∃ item, (e.setItem slot (k.content rows)).setChildren slot cs = e.setItem slot item ∧
      Item.Rel R (k.content rows) item := by
  rw [Row.children, Row.item?_setItem h] at hcs
  rw [Row.setChildren, Row.item?_setItem h]
  unfold RelationKind.content at hcs ⊢
  by_cases hmany : k.isMany = true
  · simp only [hmany, if_true] at hcs ⊢
    exact ⟨.many cs, Row.setItem_setItem .., .many hcs⟩
  · simp only [hmany] at hcs ⊢
    refine ⟨.one cs.head?, Row.setItem_setItem .., .one ?_⟩
    cases hrows : rows.head? with
    | none =>
      rw [hrows] at hcs
      cases hcs
      exact .none
    | some row =>
      rw [hrows] at hcs
      cases hcs with
      | cons hhead _ => exact .some hhead

theorem children_content_nil {e : Entity} {slot : Nat} (h : slot < e.items.length)
    (k : RelationKind) : (e.setItem slot (k.content [])).children slot = [] := by
  rw [Row.children, Row.item?_setItem h, RelationKind.content]
  cases k.isMany <;> rfl

theorem gather_commit_nil (kind : RelationKind) (target : String) (slot : Nat)
    (parents : List Entity) :
    gather slot ((Staged.rows kind target []).commit slot parents) = [] := by
  rw [gather, List.flatMap_eq_nil_iff]
  intro p hp
  obtain ⟨i, hi, rfl⟩ := List.mem_mapIdx.1 hp
  by_cases hslot : slot < (parents[i]).items.length
  · exact children_content_nil hslot kind
  · rw [Row.children, Row.item?, List.getElem?_eq_none (by simpa [Row.setItem] using hslot)]

theorem forall₂_scatter_content {R : Entity → Entity → Prop} {slot : Nat} {k : RelationKind}
    {g : Entity → List Entity} {parents cs : List Entity}
    (hslot : ∀ p ∈ parents, slot < p.items.length)
    (h : List.Forall₂ R
      (gather slot (parents.map fun p => p.setItem slot (k.content (g p)))) cs) :
    List.Forall₂ (fun p p' => ∃ item, p' = p.setItem slot item ∧ Item.Rel R (k.content (g p)) item)
      parents (scatter slot (parents.map fun p => p.setItem slot (k.content (g p))) cs) := by
  have hscatter := List.forall₂_map_left_iff.1 (forall₂_scatter h)
  refine ((List.forall₂_and_left _ _).2 ⟨hslot, hscatter⟩).imp fun p p' hp => ?_
  obtain ⟨hlt, cs, hcs, rfl⟩ := hp
  exact setChildren_content hlt k (g p) hcs

/-- A level that stages for every parent what depends on the parent alone. -/
theorem commit_eq_map {k : RelationKind} {target : String} {staged : List (Nat × Entity)}
    {g : Entity → List Entity} {parents : List Entity}
    (h : ∀ i p, parents[i]? = some p → Staged.atPosition staged i = g p) (slot : Nat) :
    (Staged.rows k target staged).commit slot parents
      = parents.map fun p => p.setItem slot (k.content (g p)) := by
  refine List.ext_getElem? fun i => ?_
  rw [Staged.commit, List.getElem?_mapIdx, List.getElem?_map]
  cases hp : parents[i]? with
  | none => rfl
  | some p =>
    rw [Option.map_some, Option.map_some, Staged.item, h i p hp]
    rfl

/-! ### The statement of a level -/

namespace Plan

open Run

variable {db : Database σ} {plan : Plan} {node : PathNode} {type : String}
  {parents : List Entity} {w w₁ : World reg σ} {info : RelationInfo}

theorem quiet_projection (node : PathNode) (s : Schema) :
    Quiet (projection node s : Run reg σ (List String)) := by
  unfold projection
  cases node.columns with
  | none => exact Ensures.pure trivial
  | some columns =>
    have hcolumns : Ensures (columns.mapM (resolveOrKeep s.type) : Run reg σ (List String))
        (fun _ => False) (HasNoSchema reg s.type) _ :=
      ensures_mapM fun name _ => ensures_resolveOrKeep s.type name
    exact hcolumns.quiet

theorem projection_eq_ok {s : Schema} {columns : List String}
    (h : (projection node s : Run reg σ (List String)).run w = (.ok columns, w₁))
    (hnone : node.columns = none) : columns = s.columnNames := by
  unfold projection at h
  rw [hnone] at h
  exact (pure_eq_ok h).1.symm

/-- One statement for the rows of a type was issued with names that are accepted, and its answer
read as rows. -/
structure Selected (db : Database σ) (plan : Plan) (node : PathNode) (type table : String)
    (scope : Sql.Scope) (w w₁ : World reg σ) (s : Schema) (rows : List Entity) : Prop where
  schema_eq : reg.schema type = .ok s
  names_accepted : ∀ name ∈ (plan.eager.constrain node.path scope).names, Sql.Accepted name
  table_accepted : Sql.Accepted table
  answered : ∃ columns records, (node.columns = none → columns = s.columnNames) ∧
    Answered db (.select table columns (plan.eager.constrain node.path scope)) w w₁ records ∧
    s.scanAll records = .ok rows

/-- A select that succeeds issued one statement and read its rows. -/
theorem select_eq_ok {table : String} {scope : Sql.Scope} {rows : List Entity}
    (h : (plan.select db node type table scope).run w = (.ok rows, w₁)) :
    ∃ s, Selected db plan node type table scope w w₁ s rows := by
  rw [select] at h
  have hcheck : Ensures (checkNames (plan.eager.constrain node.path scope).names :
      Run reg σ Unit) (fun _ => False) _ _ := ensures_checkNames _
  obtain ⟨u, w₂, hchecked, hnames, h⟩ := hcheck.quiet.bind_eq_ok h
  obtain ⟨s, w₃, -, hschema, h⟩ := (ensures_schema type).quiet.bind_eq_ok h
  obtain ⟨columns, w₄, hprojected, hcolumns, h⟩ := (quiet_projection node s).bind_eq_ok h
  have hcheckTable : Ensures (checkName table : Run reg σ Unit) (fun _ => False) _ _ :=
    ensures_checkName table
  obtain ⟨v, w₅, htabled, htable, h⟩ := hcheckTable.quiet.bind_eq_ok h
  obtain ⟨records, w₆, hissue, h⟩ := bind_eq_ok h
  obtain ⟨hrows, rfl⟩ := ofExcept_eq_ok h
  have hbefore := ((hnames.trans hschema).trans hcolumns).trans htable
  exact ⟨s, s.property, hcheck.of_ok hchecked, hcheckTable.of_ok htabled, columns, records,
    projection_eq_ok hprojected, (issue_eq_ok hissue).after hbefore, hrows⟩

theorem quiet_mapped (s : Schema) (node : PathNode) (column : String) :
    Quiet (mapped s node column : Run reg σ ColumnInfo) := by
  unfold mapped
  cases s.column? column with
  | some c => exact Ensures.pure trivial
  | none => exact Ensures.throw trivial

theorem mapped_eq_ok {s : Schema} {column : String} {c : ColumnInfo}
    (h : (mapped s node column : Run reg σ ColumnInfo).run w = (.ok c, w₁)) :
    s.column? column = some c := by
  unfold mapped at h
  split at h
  · next c' hc =>
    cases h
    exact hc
  · cases h

theorem correlate_eq_ok {index : KeyIndex} {s : Schema} {column : String} {rows : List Entity}
    {staged : List (Nat × Entity)}
    (h : (correlate index s column rows : Run reg σ _).run w = (.ok staged, w₁)) :
    w = w₁ ∧ match s.column? column with
      | some c => index.correlate c rows = .ok staged
      | none => staged = [] := by
  unfold correlate at h
  cases hc : s.column? column with
  | some c =>
    rw [hc] at h
    obtain ⟨hstaged, hw⟩ := ofExcept_eq_ok h
    exact ⟨hw, hstaged⟩
  | none =>
    rw [hc] at h
    cases h
    exact ⟨rfl, rfl⟩

/-- One statement for a key relation was issued, and its answer read as rows. -/
structure Fetched (db : Database σ) (plan : Plan) (node : PathNode) (j : Join)
    (values : List Sql.Value) (w w₁ : World reg σ) (target : Schema) (rows : List Entity) :
    Prop where
  schema_eq : reg.schema j.target = .ok target
  answered : ∃ columns records,
    let statement := Statement.select j.table columns
      (plan.eager.constrain node.path (joinScope j values))
    w₁.issued = w.issued ++ [statement] ∧ (db.answer statement w.state).1 = .ok records ∧
      target.scanAll records = .ok rows

theorem Fetched.after {j : Join} {values : List Sql.Value} {w w₁ w₂ : World reg σ} {target : Schema}
    {rows : List Entity} (h : Fetched db plan node j values w₁ w₂ target rows)
    (hw : Untouched w w₁) : Fetched db plan node j values w w₂ target rows := by
  obtain ⟨hschema, columns, records, hissued, hanswer, hscan⟩ := h
  rw [hw.issued_eq] at hissued
  rw [hw.state_eq] at hanswer
  exact ⟨hschema, columns, records, hissued, hanswer, hscan⟩

theorem Selected.after {table : String} {scope : Sql.Scope} {w₂ : World reg σ} {s : Schema}
    {rows : List Entity} (h : Selected db plan node type table scope w₁ w₂ s rows)
    (hw : Untouched w w₁) : Selected db plan node type table scope w w₂ s rows := by
  obtain ⟨columns, records, hcolumns, hanswered, hscan⟩ := h.answered
  exact { h with answered := ⟨columns, records, hcolumns, hanswered.after hw, hscan⟩ }

theorem Selected.before {table : String} {scope : Sql.Scope} {w₂ : World reg σ} {s : Schema}
    {rows : List Entity} (h : Selected db plan node type table scope w w₁ s rows)
    (hw : Untouched w₁ w₂) : Selected db plan node type table scope w w₂ s rows := by
  obtain ⟨columns, records, hcolumns, hanswered, hscan⟩ := h.answered
  exact { h with answered := ⟨columns, records, hcolumns, hanswered.before hw, hscan⟩ }

theorem Selected.fetched {j : Join} {values : List Sql.Value} {target : Schema} {rows : List Entity}
    (h : Selected db plan node j.target j.table (joinScope j values) w w₁ target rows) :
    Fetched db plan node j values w w₁ target rows := by
  obtain ⟨columns, records, -, hanswered, hscan⟩ := h.answered
  exact ⟨h.schema_eq, columns, records, hanswered.issued_eq, hanswered.answer_eq, hscan⟩

/-- A key relation that was staged either found no key and issued nothing, or selected the rows and
matched them. -/
theorem selected_of_stageKeyed {kind : RelationKind} {j : Join} {s : Schema}
    {staged : List (Nat × Entity)}
    (h : (plan.stageKeyed db node kind j s parents).run w = (.ok staged, w₁)) :
    ∃ column index, s.column? j.parentColumn = some column ∧
      KeyIndex.ofBatch column parents = .ok index ∧
      ((index.isEmpty = true ∧ staged = [] ∧ w₁.issued = w.issued) ∨
        index.isEmpty = false ∧ ∃ target rows,
          Selected db plan node j.target j.table (joinScope j index.values) w w₁ target rows ∧
          match target.column? j.childColumn with
          | some c => index.correlate c rows = .ok staged
          | none => staged = []) := by
  rw [stageKeyed] at h
  obtain ⟨column, w₂, hcolumn, hw₂, h⟩ := (quiet_mapped s node _).bind_eq_ok h
  obtain ⟨index, w₃, hindex, h⟩ := bind_eq_ok h
  obtain ⟨hbatch, rfl⟩ := ofExcept_eq_ok hindex
  refine ⟨column, index, mapped_eq_ok hcolumn, hbatch, ?_⟩
  split at h
  · next hempty =>
    obtain ⟨-, w₄, -, hevent, h⟩ := (quiet_emit _).bind_eq_ok h
    obtain ⟨rfl, rfl⟩ := pure_eq_ok h
    exact .inl ⟨hempty, rfl, (hw₂.trans hevent).issued_eq⟩
  · next hempty =>
    obtain ⟨rows, w₄, hselect, h⟩ := bind_eq_ok h
    obtain ⟨target, w₅, -, hschema, h⟩ := (ensures_schema j.target).quiet.bind_eq_ok h
    obtain ⟨staged', w₆, hcorrelate, h⟩ := bind_eq_ok h
    obtain ⟨-, w₇, -, hevent, h⟩ := (quiet_emit _).bind_eq_ok h
    obtain ⟨rfl, rfl⟩ := pure_eq_ok h
    obtain ⟨s', hselected⟩ := select_eq_ok hselect
    obtain rfl : target.val = s' :=
      Except.ok.inj (target.property.symm.trans hselected.schema_eq)
    obtain ⟨rfl, hstaged⟩ := correlate_eq_ok hcorrelate
    exact .inr ⟨by simpa using hempty, target, rows,
      (hselected.after hw₂).before (hschema.trans hevent), hstaged⟩

theorem stageKeyed_eq_ok {kind : RelationKind} {j : Join} {s : Schema}
    {staged : List (Nat × Entity)}
    (h : (plan.stageKeyed db node kind j s parents).run w = (.ok staged, w₁)) :
    ∃ column index, s.column? j.parentColumn = some column ∧
      KeyIndex.ofBatch column parents = .ok index ∧
      ((index.isEmpty = true ∧ staged = [] ∧ w₁.issued = w.issued) ∨
        index.isEmpty = false ∧ ∃ target rows,
          Fetched db plan node j index.values w w₁ target rows ∧
          match target.column? j.childColumn with
          | some c => index.correlate c rows = .ok staged
          | none => staged = []) := by
  obtain ⟨column, index, hcolumn, hindex, hcases⟩ := selected_of_stageKeyed h
  refine ⟨column, index, hcolumn, hindex, hcases.imp_right ?_⟩
  rintro ⟨hsome, target, rows, hselected, hrest⟩
  exact ⟨hsome, target, rows, hselected.fetched, hrest⟩

/-- The rows that lead to a parent are those with its key. -/
theorem filter_leadsTo {j : Join} {s target : Schema} {column c : ColumnInfo} {index : KeyIndex}
    (hcolumn : s.column? j.parentColumn = some column)
    (hindex : KeyIndex.ofBatch column parents = .ok index)
    (hc : target.column? j.childColumn = some c) (rows : List Entity) {i : Nat} {p : Entity}
    (hp : parents[i]? = some p) :
    rows.filter (index.leadsTo c i) = j.rowsOf s target rows p := by
  have hmem : ∀ key, i ∈ index.positions key ↔ p.keyText? column = some key := by
    intro key
    rw [KeyIndex.positions_ofBatch hindex, KeyIndex.mem_keyed]
    simp [hp]
  rw [Join.rowsOf, Schema.keyText?, hcolumn, Option.bind_some]
  cases hkey : p.keyText? column with
  | none =>
    rw [List.filter_eq_nil_iff]
    intro row _
    rw [KeyIndex.leadsTo]
    cases row.keyText? c with
    | none => simp
    | some key => simp [hmem key, hkey]
  | some key =>
    refine List.filter_congr fun row _ => ?_
    rw [KeyIndex.leadsTo, Schema.keyText?, hc, Option.bind_some]
    cases row.keyText? c with
    | none => simp
    | some key' => simp [hmem key', hkey, eq_comm]

/-- **What is staged for a parent is the rows with its key.** -/
theorem atPosition_keyed {j : Join} {s target : Schema} {column : ColumnInfo} {index : KeyIndex}
    {rows : List Entity} {staged : List (Nat × Entity)}
    (hcolumn : s.column? j.parentColumn = some column)
    (hindex : KeyIndex.ofBatch column parents = .ok index)
    (hstaged : match target.column? j.childColumn with
      | some c => index.correlate c rows = .ok staged
      | none => staged = []) {i : Nat} {p : Entity} (hp : parents[i]? = some p) :
    Staged.atPosition staged i = j.rowsOf s target rows p := by
  cases hc : target.column? j.childColumn with
  | some c =>
    rw [hc] at hstaged
    have hnodup : ∀ key, (index.positions key).Nodup := by
      intro key
      rw [KeyIndex.positions_ofBatch hindex]
      exact KeyIndex.nodup_keyed column parents key
    rw [KeyIndex.atPosition_correlate hnodup hstaged]
    exact filter_leadsTo hcolumn hindex hc rows hp
  | none =>
    rw [hc] at hstaged
    subst hstaged
    rw [Join.rowsOf]
    split
    · rfl
    · simp [Staged.atPosition, Schema.keyText?, hc]

theorem stage_of_join {d : Descriptor} {j : Join} (hd : plan.descriptor? type node = some d)
    (hj : d.join? = some j) (descend : String → List Entity → Run reg σ (List Entity))
    (parents : List Entity) :
    plan.stage db descend node type parents = (do
      let s ← schema type
      let info ← MonadExcept.ofExcept (relation s.val node)
      let staged ← plan.stageKeyed db node d.kind j s parents
      pure (info, .rows d.kind j.target staged)) := by
  cases d with
  | belongsToMany => cases hj
  | morphTo => cases hj
  | _ =>
    cases hj
    rw [stage, hd]
    rfl

theorem loadNodes_nil_batch (nodes : List PathNode) (type : String) (w : World reg σ) :
    plan.loadNodes db nodes type [] w = (⟨[], none⟩, w) := by
  cases nodes with
  | nil =>
    rw [loadNodes]
    rfl
  | cons node rest => rw [loadNodes_cons, List.isEmpty_nil, if_pos rfl]

/-- What the levels below leave of the entities that a level has assigned. -/
theorem loadNodes_below (db : Database σ) (plan : Plan) {target : Schema}
    (hs : reg.schema type = .ok target) (nodes : List PathNode) (batch : List Entity)
    (w : World reg σ) : List.Forall₂ (fun e e' => target.Keeps e e' ∧ (nodes = [] → e' = e)) batch
      (plan.loadNodes db nodes type batch w).1.entities := by
  cases nodes with
  | nil =>
    rw [loadNodes]
    exact List.forall₂_same.2 fun e _ => ⟨.refl target e, fun _ => rfl⟩
  | cons node rest =>
    exact (loadNodes_keeps db plan hs (node :: rest) batch w).imp fun e e' h => ⟨h, by simp⟩

section
variable {k : RelationKind} {target : String} {staged : List (Nat × Entity)}

/-- A level that stages nothing empties the relation of every parent, and ends there. -/
theorem loadNode_nothing (hposition : ∀ p ∈ parents, info.position < p.items.length)
    (hstage : (plan.stage db (plan.below db node) node type parents).run w
      = (.ok (info, .rows k target []), w₁)) :
    plan.loadNode db node type parents w
      = (⟨parents.map fun p => p.setItem info.position (k.content []), none⟩, w₁) := by
  have hcommit : (Staged.rows k target []).commit info.position parents
      = parents.map fun p => p.setItem info.position (k.content []) :=
    commit_eq_map (g := fun _ => []) (fun _ _ _ => rfl) _
  have hgather : gather info.position
      (parents.map fun p => p.setItem info.position (k.content [])) = [] := by
    rw [gather, List.flatMap_map, List.flatMap_eq_nil_iff]
    exact fun p hp => children_content_nil (hposition p hp) k
  have hback := forall₂_scatter_content (R := fun a b => b = a) (k := k) (g := fun _ => [])
    hposition (by rw [hgather]; exact .nil)
  have heq : parents.map (fun p => p.setItem info.position (k.content []))
      = scatter info.position (parents.map fun p => p.setItem info.position (k.content [])) [] := by
    rw [← List.forall₂_eq_eq_eq, List.forall₂_map_left_iff]
    refine hback.imp fun p p' hp => ?_
    obtain ⟨item, rfl, hitem⟩ := hp
    rw [hitem.eq]
  rw [loadNode_rows hstage, hcommit]
  simp only [hgather, loadNodes_nil_batch, ← heq]

/-- What a level stages for every parent is what the parent then holds, as far as the levels below
leave it. -/
theorem loadNode_content (hposition : ∀ p ∈ parents, info.position < p.items.length)
    (hstage : (plan.stage db (plan.below db node) node type parents).run w
      = (.ok (info, .rows k target staged), w₁)) {g : Entity → List Entity}
    (hg : ∀ i p, parents[i]? = some p → Staged.atPosition staged i = g p) {s : Schema}
    (hs : reg.schema target = .ok s) :
    List.Forall₂ (fun p p' => ∃ item, p' = p.setItem info.position item ∧
        p'.item? info.position = some item ∧ Item.Rel s.Keeps (k.content (g p)) item ∧
        (node.children = [] → item = k.content (g p)))
      parents (plan.loadNode db node type parents w).1.entities := by
  rw [loadNode_rows hstage, commit_eq_map hg]
  have hback := forall₂_scatter_content hposition (loadNodes_below db plan hs
    node.children (gather info.position
      (parents.map fun p => p.setItem info.position (k.content (g p)))) w₁)
  refine ((List.forall₂_and_left _ _).2 ⟨hposition, hback⟩).imp fun p p' hp => ?_
  obtain ⟨hlt, item, rfl, hitem⟩ := hp
  exact ⟨item, rfl, Row.item?_setItem hlt item, hitem.mono fun a b h => h.1, fun hnil =>
    (hitem.mono fun a b h => h.2 hnil).eq⟩

end

/-- **What a key relation holds when its own statement and its matching succeeded.** Without keys
nothing is issued and every relation is emptied. Otherwise one statement is issued, and every parent
holds the rows of its answer that have the key of the parent; levels below may fill the relations of
these rows, and the rows stay as they were read if there are no levels below. -/
theorem loadNode_keyed {s : Schema} {d : Descriptor} {j : Join} {staged : Staged}
    (hs : reg.schema type = .ok s) (hd : plan.descriptor? type node = some d)
    (hj : d.join? = some j) (hfits : ∀ p ∈ parents, s.Fits p)
    (hstage : (plan.stage db (plan.below db node) node type parents).run w
      = (.ok (info, staged), w₁)) :
    ((∀ p ∈ parents, s.keyText? j.parentColumn p = none) →
      w₁.issued = w.issued ∧
      plan.loadNode db node type parents w
        = (⟨parents.map fun p => p.setItem info.position (d.kind.content []), none⟩, w₁)) ∧
    ((∃ p ∈ parents, s.keyText? j.parentColumn p ≠ none) →
      ∃ values target rows, Fetched db plan node j values w w₁ target rows ∧
        List.Forall₂ (fun p p' => ∃ item, p' = p.setItem info.position item ∧
            p'.item? info.position = some item ∧
            Item.Rel target.Keeps (d.kind.content (j.rowsOf s target rows p)) item ∧
            (node.children = [] → item = d.kind.content (j.rowsOf s target rows p)))
          parents (plan.loadNode db node type parents w).1.entities) := by
  have hposition : ∀ p ∈ parents, info.position < p.items.length := by
    obtain ⟨s', hs', hrelation⟩ := relation_of_stage hstage
    obtain rfl : s = s' := Except.ok.inj (hs.symm.trans hs')
    intro p hp
    rw [hfits p hp]
    exact Registry.position_lt hs (mem_relations_of_relation hrelation)
  have hkeyed := hstage
  rw [stage_of_join hd hj] at hkeyed
  obtain ⟨s', w₂, -, hw₂, hkeyed⟩ := (ensures_schema type).quiet.bind_eq_ok hkeyed
  obtain rfl : s = s' := Except.ok.inj (hs.symm.trans s'.property)
  obtain ⟨info', w₃, hrelation, hkeyed⟩ := bind_eq_ok hkeyed
  obtain ⟨-, rfl⟩ := ofExcept_eq_ok hrelation
  obtain ⟨rows, w₄, hkeyed, hpure⟩ := bind_eq_ok hkeyed
  cases hpure
  obtain ⟨column, index, hcolumn, hindex, hcases⟩ := stageKeyed_eq_ok hkeyed
  have hempty : index.isEmpty = true ↔ ∀ p ∈ parents, s'.val.keyText? j.parentColumn p = none := by
    rw [KeyIndex.isEmpty_ofBatch hindex]
    simp [Schema.keyText?, hcolumn]
  constructor
  · intro hnone
    obtain ⟨-, rfl, hissued⟩ | ⟨hfull, -⟩ := hcases
    · exact ⟨hissued.trans hw₂.issued_eq, loadNode_nothing hposition hstage⟩
    · rw [hempty.2 hnone] at hfull
      cases hfull
  · intro hsome
    obtain ⟨hnone, -⟩ | ⟨-, t, answered, hfetched, hstaged⟩ := hcases
    · obtain ⟨p, hp, hkey⟩ := hsome
      exact absurd (hempty.1 hnone p hp) hkey
    · refine ⟨index.values, t, answered, hfetched.after hw₂, ?_⟩
      exact loadNode_content hposition hstage
        (fun i p hp => atPosition_keyed hcolumn hindex hstaged hp) hfetched.schema_eq

/-! Four authors, two of them with one key and one without, and their posts. -/

def postsOfAuthors : Join :=
  { target := "Post", table := "posts", parentColumn := "id", childColumn := "author_id" }

def authorRegistry : Registry :=
  ⟨[{ type := "Author", table := some "authors", members :=
        [.column "id" (.int .i64) (some "id") true false,
          .relation "posts" (.hasMany "Post") { name := some "Posts" }] },
    { type := "Post", table := some "posts", members :=
        [.column "id" (.int .i64) (some "id") true false,
          .column "author_id" (.int .i64) (some "author_id") false false] }]⟩

def authorDatabase : Database Unit where
  answer _ _ :=
    (.ok [⟨[("id", .int 7), ("author_id", .int 2)]⟩, ⟨[("id", .int 8), ("author_id", .int 1)]⟩,
      ⟨[("id", .int 9), ("author_id", .int 2)]⟩], ())

def authorPlan : Plan where
  eager := {}
  nodes := [⟨"Posts", "Posts", none, []⟩]
  descriptors := [(("Author", "Posts"), .hasMany postsOfAuthors)]

def author (id : Int) : Entity :=
  ⟨"Author", [.cell ⟨.int .i64, Column.IntType.ofInt .i64 id⟩, .many []]⟩

def fourAuthors : List Entity := [author 1, author 2, author 0, author 2]

theorem loadNode_keyed_authors :
    let w : World authorRegistry Unit := { catalog := .empty _ {}, state := () }
    let node : PathNode := ⟨"Posts", "Posts", none, []⟩
    ∃ s w₁ values target rows position, authorRegistry.schema "Author" = .ok s ∧
      Fetched authorDatabase authorPlan node postsOfAuthors values w w₁ target rows ∧
      List.Forall₂ (fun (p p' : Entity) => p'.item? position
          = some (.many (postsOfAuthors.rowsOf s target rows p)))
        fourAuthors
        (authorPlan.loadNode authorDatabase node "Author" fourAuthors w).1.entities := by
  intro w node
  obtain ⟨s, hs⟩ : ∃ s, authorRegistry.schema "Author" = .ok s := ⟨_, rfl⟩
  have hfits : ∀ p ∈ fourAuthors, s.Fits p := by
    cases hs
    decide
  have hkey : ∃ p ∈ fourAuthors, s.keyText? "id" p ≠ none := by
    cases hs
    exact ⟨author 1, by simp [fourAuthors], by decide +kernel⟩
  have hok : ((authorPlan.stage authorDatabase (authorPlan.below authorDatabase node) node
    "Author" fourAuthors).run w).1.isOk = true := by decide +kernel
  rcases hstage : (authorPlan.stage authorDatabase (authorPlan.below authorDatabase node) node
    "Author" fourAuthors).run w with ⟨why | ⟨info, staged⟩, w₁⟩
  · rw [hstage] at hok
    cases hok
  · obtain ⟨values, target, rows, hfetched, hall⟩ :=
      (loadNode_keyed (d := .hasMany postsOfAuthors) hs rfl rfl hfits hstage).2 hkey
    refine ⟨s, w₁, values, target, rows, info.position, hs, hfetched, hall.imp fun p p' hp => ?_⟩
    obtain ⟨item, -, hitem, -, hcontent⟩ := hp
    rw [hitem, hcontent rfl]
    rfl

end Plan

end EntityGraph
