import EntityGraph.Proofs.Run
import EntityGraph.Proofs.Schema.Columns
import EntityGraph.Query.Basic
import Mathlib.Data.List.Forall2

/-!
# What loads leave alone

A load assigns relations and nothing else: every entity of a batch keeps its type, its columns and
its embedded entities, and stays at its place (`loadNodes_keeps`). Entities are taken out of the
relations of their parents for the levels below and put back afterwards, each where it was
(`forall₂_scatter`, `gather_scatter`).
-/

namespace EntityGraph

variable {reg : Registry} {σ : Type}

/-! ### Entities of a type -/

namespace Schema

/-- The entity has an item for every member of the type. -/
def Fits (s : Schema) (e : Entity) : Prop := e.items.length = s.members.length

instance (s : Schema) (e : Entity) : Decidable (s.Fits e) := inferInstanceAs (Decidable (_ = _))

/-- An entity that differs from another at most in what its relations hold. -/
structure Keeps (s : Schema) (e e' : Entity) : Prop where
  type_eq : e'.type = e.type
  length_eq : e'.items.length = e.items.length
  item_eq : ∀ i, (∀ info ∈ s.relations, info.position ≠ i) → e'.item? i = e.item? i

variable {s : Schema} {e e' : Entity}

theorem Keeps.refl (s : Schema) (e : Entity) : s.Keeps e e := ⟨rfl, rfl, fun _ _ => rfl⟩

theorem Keeps.fits (h : s.Keeps e e') (he : s.Fits e) : s.Fits e' := h.length_eq.trans he

/-- The columns of a type do not lie in its relations. -/
theorem Keeps.cell?_eq {type : String} (hs : reg.schema type = .ok s) (h : s.Keeps e e')
    {c : ColumnInfo} (hc : c ∈ s.columns) : e'.cell? c.path = e.cell? c.path := by
  obtain ⟨i, rest, hpath, hother⟩ := Registry.head_path_ne_position hs hc
  have hitem : e'.items[i]? = e.items[i]? := h.item_eq i hother
  rw [Row.cell?, Row.cell?, hpath, cellAt?_cons, cellAt?_cons, hitem]

end Schema

/-- An entity that differs from another at most in the items at some positions. -/
structure Row.ChangesAt (P : Nat → Prop) (e e' : Entity) : Prop where
  type_eq : e'.type = e.type
  length_eq : e'.items.length = e.items.length
  item?_eq : ∀ i, ¬ P i → e'.item? i = e.item? i

namespace Row

variable {P Q : Nat → Prop} {e e' e'' : Entity}

theorem ChangesAt.refl (P : Nat → Prop) (e : Entity) : e.ChangesAt P e := ⟨rfl, rfl, fun _ _ => rfl⟩

theorem ChangesAt.trans (h : ChangesAt P e e') (h' : ChangesAt P e' e'') : ChangesAt P e e'' :=
  ⟨h'.type_eq.trans h.type_eq, h'.length_eq.trans h.length_eq, fun i hi =>
    (h'.item?_eq i hi).trans (h.item?_eq i hi)⟩

theorem ChangesAt.mono (h : ChangesAt P e e') (hPQ : ∀ i, P i → Q i) : ChangesAt Q e e' :=
  ⟨h.type_eq, h.length_eq, fun i hi => h.item?_eq i fun hp => hi (hPQ i hp)⟩

theorem forall₂_changesAt_refl (P : Nat → Prop) (es : List Entity) :
    List.Forall₂ (ChangesAt P) es es :=
  List.forall₂_same.2 fun e _ => .refl P e

theorem changesAt_setItem {slot : Nat} (hslot : P slot) (e : Entity) (item : Item) :
    e.ChangesAt P (e.setItem slot item) := by
  refine ⟨rfl, by simp [setItem], fun i hi => ?_⟩
  have hne : slot ≠ i := by
    rintro rfl
    exact hi hslot
  simp [item?, setItem, List.getElem?_set_ne hne]

theorem changesAt_setChildren {slot : Nat} (hslot : P slot) (e : Entity) (children : List Entity) :
    e.ChangesAt P (e.setChildren slot children) := by
  unfold setChildren
  split
  · exact changesAt_setItem hslot e _
  · exact changesAt_setItem hslot e _
  · exact .refl P e

end Row

theorem length_memberDefaults (ms : List Member) : (memberDefaults ms).length = ms.length := by
  induction ms with
  | nil => simp [memberDefaults]
  | cons m ms ih => simp [memberDefaults, ih]

theorem length_setCellAt (c : Cell) (path : List Nat) (items : List Item) :
    (setCellAt c path items).length = items.length := by
  cases path with
  | nil => simp [setCellAt]
  | cons i path =>
    rw [setCellAt]
    split <;> simp

namespace Schema

variable {s : Schema}

theorem fits_fresh (s : Schema) : s.Fits s.fresh := length_memberDefaults s.members

theorem fits_readColumns {columns : List (String × Sql.Value)} {e e' : Entity} (he : s.Fits e)
    (h : s.readColumns e columns = .ok e') : s.Fits e' := by
  refine readColumns_induct (fun hread he => ?_) h he
  obtain rfl | ⟨c, cell, rfl⟩ := eq_or_setCell_of_readColumn hread
  · exact he
  · exact (length_setCellAt ..).trans he

theorem type_readColumns {columns : List (String × Sql.Value)} {e e' : Entity}
    (h : s.readColumns e columns = .ok e') : e'.type = e.type := by
  refine readColumns_induct (motive := fun e' => e'.type = e.type) (fun hread he => ?_) h rfl
  obtain rfl | ⟨c, cell, rfl⟩ := eq_or_setCell_of_readColumn hread
  · exact he
  · exact he

theorem fits_scanAll {rs : List Sql.Record} {es : List Entity} (h : s.scanAll rs = .ok es) :
    ∀ e ∈ es, s.Fits e := by
  intro e he
  obtain ⟨r, -, hscan⟩ := exists_of_mapM_eq_ok h he
  exact fits_readColumns (fits_fresh s) hscan

/-- What is read for a type is of the type. -/
theorem type_of_scanAll {rs : List Sql.Record} {es : List Entity} (h : s.scanAll rs = .ok es) :
    ∀ e ∈ es, e.type = s.type := by
  intro e he
  obtain ⟨r, -, hscan⟩ := exists_of_mapM_eq_ok h he
  exact type_readColumns hscan

end Schema

theorem position_lt_of_mem {start : Nat} {ms : List Member} {r : RelationDecl}
    (h : r ∈ memberRelations start ms) : r.position < start + ms.length := by
  fun_induction memberRelations start ms with
  | case1 => simp at h
  | case2 start field shape options ms ih =>
    rcases List.mem_cons.1 h with rfl | h
    · simp
    · have := ih h
      simp only [List.length_cons]
      omega
  | case3 start m ms _ ih =>
    have := ih h
    simp only [List.length_cons]
    omega

/-- Every relation of a type has its place among the members. -/
theorem Registry.position_lt {type : String} {s : Schema} (hs : reg.schema type = .ok s)
    {info : RelationInfo} (h : info ∈ s.relations) : info.position < s.members.length := by
  unfold Registry.schema at hs
  split at hs
  · cases hs
  · cases hs
    have hrelations : info ∈ (reg.get type).relations.map RelationDecl.info := h
    obtain ⟨r, hr, rfl⟩ := List.mem_map.1 hrelations
    have hlt := position_lt_of_mem hr
    rw [Nat.zero_add] at hlt
    exact hlt

theorem mem_relations_of_relation {s : Schema} {node : PathNode} {info : RelationInfo}
    (h : Plan.relation s node = .ok info) : info ∈ s.relations := by
  unfold Plan.relation Schema.relation? at h
  split at h
  · next info' hfind =>
    cases h
    exact List.mem_reverse.1 (List.mem_of_find?_eq_some hfind)
  · cases h

/-! ### Taking entities out and putting them back -/

theorem gather_cons (slot : Nat) (e : Entity) (es : List Entity) :
    gather slot (e :: es) = e.children slot ++ gather slot es := rfl

/-- What is put back fills the relation it was taken from. -/
theorem forall₂_scatter_children (slot : Nat) (es cs : List Entity) :
    List.Forall₂ (fun e e' => ∃ cs, e' = e.setChildren slot cs) es (scatter slot es cs) := by
  induction es generalizing cs with
  | nil => exact .nil
  | cons e es ih => exact .cons ⟨_, rfl⟩ (ih _)

/-- What is put back stands where it was taken from. -/
theorem forall₂_scatter {R : Entity → Entity → Prop} {slot : Nat} {es cs : List Entity}
    (h : List.Forall₂ R (gather slot es) cs) :
    List.Forall₂ (fun e e' => ∃ cs, List.Forall₂ R (e.children slot) cs ∧
      e' = e.setChildren slot cs) es (scatter slot es cs) := by
  induction es generalizing cs with
  | nil => exact .nil
  | cons e es ih =>
    rw [gather_cons] at h
    refine .cons ⟨_, ?_, rfl⟩ (ih ?_)
    · have htake := List.forall₂_take (e.children slot).length h
      rwa [List.take_left'  rfl] at htake
    · have hdrop := List.forall₂_drop (e.children slot).length h
      rwa [List.drop_left' rfl] at hdrop

@[simp] theorem length_scatter (slot : Nat) (es cs : List Entity) :
    (scatter slot es cs).length = es.length :=
  (forall₂_scatter_children slot es cs).length_eq.symm

/-- A relation keeps its entities if they are put back as they were. -/
theorem Row.setChildren_children (e : Entity) (slot : Nat) :
    e.setChildren slot (e.children slot) = e := by
  have hsame : ∀ item, e.item? slot = some item → e.setItem slot item = e := by
    intro item hitem
    obtain ⟨hlt, heq⟩ := List.getElem?_eq_some_iff.1 hitem
    rw [setItem, ← heq, List.set_getElem_self]
  unfold setChildren children
  cases hitem : e.item? slot with
  | none => rfl
  | some item =>
    cases item with
    | one entity =>
      refine hsame _ (hitem.trans ?_)
      cases entity <;> rfl
    | many entities => exact hsame _ hitem
    | _ => rfl

theorem scatter_gather (slot : Nat) (es : List Entity) : scatter slot es (gather slot es) = es := by
  induction es with
  | nil => rfl
  | cons e es ih =>
    rw [scatter, gather_cons, List.take_left, List.drop_left, ih, Row.setChildren_children]

/-- A relation holds the entities that are put back, if they are as many as were taken out. -/
theorem Row.children_setChildren {e : Entity} {slot : Nat} {cs : List Entity}
    (h : cs.length = (e.children slot).length) : (e.setChildren slot cs).children slot = cs := by
  have hset : ∀ item item', e.item? slot = some item →
      (e.setItem slot item').item? slot = some item' := by
    intro item item' hitem
    obtain ⟨hlt, -⟩ := List.getElem?_eq_some_iff.1 hitem
    simp [item?, setItem, hlt]
  unfold setChildren
  unfold children at h ⊢
  cases hitem : e.item? slot with
  | none =>
    rw [hitem] at h
    simp [hitem, List.eq_nil_of_length_eq_zero h]
  | some item =>
    rw [hitem] at h
    cases item with
    | one entity =>
      simp only [hset _ _ hitem]
      match cs, entity with
      | [], _ => rfl
      | [c], _ => rfl
      | _ :: _ :: _, none => cases h
      | _ :: _ :: _, some _ => cases h
    | many entities => simp only [hset _ _ hitem]
    | _ => simp [hitem, List.eq_nil_of_length_eq_zero h]

theorem gather_scatter {slot : Nat} {es cs : List Entity}
    (h : cs.length = (gather slot es).length) : gather slot (scatter slot es cs) = cs := by
  induction es generalizing cs with
  | nil => exact (List.eq_nil_of_length_eq_zero h).symm
  | cons e es ih =>
    rw [gather_cons, List.length_append] at h
    rw [scatter, gather_cons, Row.children_setChildren (by simp [h]), ih (by simp [h]),
      List.take_append_drop]

theorem forall₂_comp {α β γ : Type} {R : α → β → Prop} {S : β → γ → Prop} {as : List α}
    {bs : List β} {cs : List γ} (h : List.Forall₂ R as bs) (h' : List.Forall₂ S bs cs) :
    List.Forall₂ (fun a c => ∃ b, R a b ∧ S b c) as cs := by
  induction h generalizing cs with
  | nil =>
    cases h'
    exact .nil
  | cons hab _ ih =>
    cases h' with
    | cons hbc htail => exact .cons ⟨_, hab, hbc⟩ (ih htail)

theorem forall₂_commit (s : Staged) (slot : Nat) (parents : List Entity)
    {R : Entity → Entity → Prop}
    (h : ∀ i e, parents[i]? = some e → R e (e.setItem slot (s.item i))) :
    List.Forall₂ R parents (s.commit slot parents) := by
  rw [List.forall₂_iff_get]
  refine ⟨by simp [Staged.commit], fun i hi hi' => ?_⟩
  simpa [Staged.commit] using h i parents[i] (List.getElem?_eq_getElem hi)

/-! ### Loading a node -/

/-- The type whose rows a relation holds before anything below them is loaded. -/
def Descriptor.rowType? : Descriptor → Option String
  | .hasOne j | .hasMany j | .belongsTo j | .morphOne j | .morphMany j => some j.target
  | .belongsToMany j => some j.target
  | .morphTo _ => none

namespace Plan

/-- What a node has loaded below the owners that it finds. -/
abbrev below (db : Database σ) (plan : Plan) (node : PathNode) (type : String)
    (es : List Entity) : Run reg σ (List Entity) :=
  Run.ofLoaded (plan.loadNodes db node.children type es)

variable {db : Database σ} {plan : Plan} {node : PathNode} {type : String}
  {parents : List Entity} {w w₁ : World reg σ} {info : RelationInfo}

theorem loadNode_eq (db : Database σ) (plan : Plan) (node : PathNode) (type : String)
    (parents : List Entity) :
    (plan.loadNode db node type parents : StateM (World reg σ) Loaded) = (do
      match ← (plan.stage db (plan.below db node) node type parents).run with
      | .error why => pure ⟨parents, some why⟩
      | .ok (info, .owners owners) =>
        pure ⟨(Staged.owners owners).commit info.position parents, none⟩
      | .ok (info, .rows kind target rows) =>
        let parents := (Staged.rows kind target rows).commit info.position parents
        let below ← plan.loadNodes db node.children target (gather info.position parents)
        pure ⟨scatter info.position parents below.entities, below.failure⟩) := by
  obtain ⟨name, path, columns, children⟩ := node
  exact loadNode.eq_1 db plan type parents name path columns children

theorem loadNodes_cons (db : Database σ) (plan : Plan) (node : PathNode) (rest : List PathNode)
    (type : String) (batch : List Entity) (w : World reg σ) :
    plan.loadNodes db (node :: rest) type batch w
      = if batch.isEmpty then (⟨batch, none⟩, w)
        else
          let done := plan.loadNode db node type batch w
          match done.1.failure with
          | some _ => done
          | none => plan.loadNodes db rest type done.1.entities done.2 := by
  rw [loadNodes]
  split
  · rfl
  · show StateT.bind _ _ w = _
    rw [StateT.bind]
    rcases plan.loadNode db node type batch w with ⟨⟨es, _ | why⟩, w₁⟩ <;> rfl

theorem loadNode_error {why : Error}
    (h : (plan.stage db (plan.below db node) node type parents).run w = (.error why, w₁)) :
    plan.loadNode db node type parents w = (⟨parents, some why⟩, w₁) := by
  rw [loadNode_eq]
  show StateT.bind _ _ w = _
  rw [StateT.bind, h]
  rfl

theorem loadNode_owners {owners : List (Nat × (String × Entity))}
    (h : (plan.stage db (plan.below db node) node type parents).run w
      = (.ok (info, .owners owners), w₁)) :
    plan.loadNode db node type parents w
      = (⟨(Staged.owners owners).commit info.position parents, none⟩, w₁) := by
  rw [loadNode_eq]
  show StateT.bind _ _ w = _
  rw [StateT.bind, h]
  rfl

theorem loadNode_rows {kind : RelationKind} {target : String} {rows : List (Nat × Entity)}
    (h : (plan.stage db (plan.below db node) node type parents).run w
      = (.ok (info, .rows kind target rows), w₁)) :
    plan.loadNode db node type parents w
      = (let committed := (Staged.rows kind target rows).commit info.position parents
        let done := plan.loadNodes db node.children target (gather info.position committed) w₁
        (⟨scatter info.position committed done.1.entities, done.1.failure⟩, done.2)) := by
  rw [loadNode_eq]
  show StateT.bind _ _ w = _
  rw [StateT.bind, h]
  rfl

/-- A level with nothing below it is loaded once it is committed. -/
theorem loadNode_leaf (hleaf : node.children = []) {staged : Staged}
    (hstage : (plan.stage db (plan.below db node) node type parents).run w
      = (.ok (info, staged), w₁)) :
    plan.loadNode db node type parents w
      = (⟨staged.commit info.position parents, none⟩, w₁) := by
  cases staged with
  | owners owners => exact loadNode_owners hstage
  | rows kind target rows =>
    rw [loadNode_rows hstage]
    dsimp only
    rw [hleaf, loadNodes]
    show (Loaded.mk (scatter _ _ (gather _ _)) none, w₁) = _
    rw [scatter_gather]

/-- The relation that was staged is one of the type. -/
theorem relation_of_stage {descend : String → List Entity → Run reg σ (List Entity)}
    {staged : Staged}
    (h : (plan.stage db descend node type parents).run w = (.ok (info, staged), w₁)) :
    ∃ s, reg.schema type = .ok s ∧ relation s node = .ok info := by
  rw [stage] at h
  obtain ⟨s, w₂, -, h⟩ := Run.bind_eq_ok h
  obtain ⟨info', w₃, hrelation, h⟩ := Run.bind_eq_ok h
  obtain ⟨hinfo, -⟩ := Run.ofExcept_eq_ok hrelation
  have hsame : info' = info := by
    split at h
    · cases h
    · obtain ⟨staged, w₄, -, h⟩ := Run.bind_eq_ok h
      cases h
      rfl
    · obtain ⟨typeColumn, w₄, -, h⟩ := Run.bind_eq_ok h
      obtain ⟨idColumn, w₅, -, h⟩ := Run.bind_eq_ok h
      obtain ⟨groups, w₆, -, h⟩ := Run.bind_eq_ok h
      obtain ⟨staged, w₇, -, h⟩ := Run.bind_eq_ok h
      cases h
      rfl
    all_goals
      obtain ⟨staged, w₄, -, h⟩ := Run.bind_eq_ok h
      cases h
      rfl
  exact ⟨s, s.property, hsame ▸ hinfo⟩

/-- Rows are staged for the target of the relation. -/
theorem rowType_of_stage {descend : String → List Entity → Run reg σ (List Entity)}
    {kind : RelationKind} {target : String} {rows : List (Nat × Entity)}
    (h : (plan.stage db descend node type parents).run w
      = (.ok (info, .rows kind target rows), w₁)) :
    ∃ d, plan.descriptor? type node = some d ∧ d.rowType? = some target := by
  rw [stage] at h
  obtain ⟨s, w₂, -, h⟩ := Run.bind_eq_ok h
  obtain ⟨info', w₃, -, h⟩ := Run.bind_eq_ok h
  split at h
  · cases h
  · next hd =>
    obtain ⟨staged, w₄, -, h⟩ := Run.bind_eq_ok h
    cases h
    exact ⟨_, hd, rfl⟩
  · obtain ⟨typeColumn, w₄, -, h⟩ := Run.bind_eq_ok h
    obtain ⟨idColumn, w₅, -, h⟩ := Run.bind_eq_ok h
    obtain ⟨groups, w₆, -, h⟩ := Run.bind_eq_ok h
    obtain ⟨staged, w₇, -, h⟩ := Run.bind_eq_ok h
    cases h
  all_goals
    next hd =>
      obtain ⟨staged, w₄, -, h⟩ := Run.bind_eq_ok h
      cases h
      exact ⟨_, hd, rfl⟩

/-- The position of the relation that a node asks for on a type. -/
def IsAt (s : Schema) (node : PathNode) (position : Nat) : Prop :=
  ∃ info, relation s node = .ok info ∧ info.position = position

/-- A position of a relation that some nodes ask for on a type. -/
def IsRequested (s : Schema) (nodes : List PathNode) (position : Nat) : Prop :=
  ∃ node ∈ nodes, IsAt s node position

/-- **Loading a node changes its relation only.** -/
theorem loadNode_changes (db : Database σ) (plan : Plan) (node : PathNode) {s : Schema}
    (hs : reg.schema type = .ok s) (parents : List Entity) (w : World reg σ) :
    List.Forall₂ (Row.ChangesAt (IsAt s node)) parents
      (plan.loadNode db node type parents w).1.entities := by
  rcases h : (plan.stage db (plan.below db node) node type parents).run w with
    ⟨why | ⟨info, staged⟩, w₁⟩
  · rw [loadNode_error h]
    exact Row.forall₂_changesAt_refl _ _
  · obtain ⟨s', hs', hrelation⟩ := relation_of_stage h
    obtain rfl : s = s' := Except.ok.inj (hs.symm.trans hs')
    have hinfo : IsAt s node info.position := ⟨info, hrelation, rfl⟩
    have hcommit : ∀ staged : Staged, List.Forall₂ (Row.ChangesAt (IsAt s node)) parents
        (staged.commit info.position parents) := fun staged =>
      forall₂_commit staged _ parents fun i e _ => Row.changesAt_setItem hinfo e _
    cases staged with
    | owners owners =>
      rw [loadNode_owners h]
      exact hcommit _
    | rows kind target rows =>
      rw [loadNode_rows h]
      refine (forall₂_comp (hcommit _) (forall₂_scatter_children ..)).imp fun e e' h => ?_
      obtain ⟨committed, hchanges, cs, rfl⟩ := h
      exact hchanges.trans (Row.changesAt_setChildren hinfo committed cs)

/-- **Loading nodes changes their relations only**, also where it fails. -/
theorem loadNodes_changes (db : Database σ) (plan : Plan) {s : Schema}
    (hs : reg.schema type = .ok s) (nodes : List PathNode) (batch : List Entity) (w : World reg σ) :
    List.Forall₂ (Row.ChangesAt (IsRequested s nodes)) batch
      (plan.loadNodes db nodes type batch w).1.entities := by
  induction nodes generalizing batch w with
  | nil =>
    rw [loadNodes]
    exact Row.forall₂_changesAt_refl _ _
  | cons node rest ih =>
    rw [loadNodes_cons]
    have hnode := (loadNode_changes db plan node hs batch w).imp fun e e' h =>
      h.mono (Q := IsRequested s (node :: rest)) fun i hi => ⟨node, by simp, hi⟩
    split
    · exact Row.forall₂_changesAt_refl _ _
    · dsimp only
      split
      · exact hnode
      · refine (forall₂_comp hnode (ih _ _)).imp fun e e'' h => ?_
        obtain ⟨e', hfirst, hrest⟩ := h
        refine hfirst.trans (hrest.mono fun i hi => ?_)
        obtain ⟨other, hother, hi⟩ := hi
        exact ⟨other, List.mem_cons_of_mem _ hother, hi⟩

theorem IsAt.exists_relation {s : Schema} {i : Nat} (h : IsAt s node i) :
    ∃ info ∈ s.relations, info.position = i := by
  obtain ⟨info, hinfo, hposition⟩ := h
  exact ⟨info, mem_relations_of_relation hinfo, hposition⟩

theorem keeps_of_changesAt {s : Schema} {P : Nat → Prop}
    (hP : ∀ i, P i → ∃ info ∈ s.relations, info.position = i) {e e' : Entity}
    (h : e.ChangesAt P e') : s.Keeps e e' := by
  refine ⟨h.type_eq, h.length_eq, fun i hi => h.item?_eq i fun hp => ?_⟩
  obtain ⟨info, hinfo, hposition⟩ := hP i hp
  exact hi info hinfo hposition

/-- **Loading nodes changes relations only**, also where it fails. -/
theorem loadNodes_keeps (db : Database σ) (plan : Plan) {s : Schema}
    (hs : reg.schema type = .ok s) (nodes : List PathNode) (batch : List Entity) (w : World reg σ) :
    List.Forall₂ s.Keeps batch (plan.loadNodes db nodes type batch w).1.entities :=
  (loadNodes_changes db plan hs nodes batch w).imp fun _ _ =>
    keeps_of_changesAt fun _ ⟨_, _, h⟩ => h.exists_relation

theorem loadNodes_fits (db : Database σ) (plan : Plan) {s : Schema}
    (hs : reg.schema type = .ok s) (nodes : List PathNode) {batch : List Entity}
    (hbatch : ∀ e ∈ batch, s.Fits e) (w : World reg σ) :
    ∀ e ∈ (plan.loadNodes db nodes type batch w).1.entities, s.Fits e := by
  intro e he
  obtain ⟨i, hi, rfl⟩ := List.getElem_of_mem he
  have hkeeps := loadNodes_keeps db plan hs nodes batch w
  have hlt : i < batch.length := hkeeps.length_eq ▸ hi
  exact (hkeeps.get hlt hi).fits (hbatch _ (List.getElem_mem hlt))

end Plan

/-! ### Requests -/

section
variable {eager : Eager} {plan : Plan} {type : String}

theorem preload_of_idle {batch : List Entity} (h : batch = [] ∨ eager.isEmpty = true)
    (db : Database σ) (type : String) (w : World reg σ) :
    preload db eager type batch w = (⟨batch, none⟩, w) := by
  have hidle : (batch.isEmpty || eager.isEmpty) = true := by simpa using h
  unfold preload
  rw [if_pos hidle]
  rfl

theorem preload_of_error {w w₁ : World reg σ} {why : Error} {batch : List Entity}
    (h : (Plan.make eager type).run w = (.error why, w₁)) (db : Database σ) (hbatch : batch ≠ [])
    (heager : eager.isEmpty = false) : preload db eager type batch w = (⟨batch, some why⟩, w₁) := by
  unfold preload
  rw [List.isEmpty_eq_false_iff.2 hbatch, heager, Bool.or_self, if_neg Bool.false_ne_true]
  show StateT.bind _ _ w = _
  rw [StateT.bind, h]
  rfl

theorem preload_of_ok {w w₁ : World reg σ} {batch : List Entity}
    (h : (Plan.make eager type).run w = (.ok plan, w₁)) (db : Database σ) (hbatch : batch ≠ [])
    (heager : eager.isEmpty = false) :
    preload db eager type batch w = plan.load db type batch w₁ := by
  unfold preload
  rw [List.isEmpty_eq_false_iff.2 hbatch, heager, Bool.or_self, if_neg Bool.false_ne_true]
  show StateT.bind _ _ w = _
  rw [StateT.bind, h]
  rfl

end

/-- **Whatever a query yields has the shape of its type.** -/
theorem Query.fits_of_execute {db : Database σ} {q : Query} {es : List Entity}
    {w w₁ : World reg σ} (h : (q.execute db).run w = (.ok es, w₁)) :
    ∃ s, reg.schema q.type = .ok s ∧ ∀ e ∈ es, s.Fits e := by
  rw [execute] at h
  obtain ⟨s, w₂, -, h⟩ := Run.bind_eq_ok h
  obtain ⟨-, w₃, -, h⟩ := Run.bind_eq_ok h
  obtain ⟨-, w₄, -, h⟩ := Run.bind_eq_ok h
  obtain ⟨columns, w₅, -, h⟩ := Run.bind_eq_ok h
  obtain ⟨plan, w₆, -, h⟩ := Run.bind_eq_ok h
  obtain ⟨records, w₇, -, h⟩ := Run.bind_eq_ok h
  obtain ⟨entities, w₈, hrun, h⟩ := Run.bind_eq_ok h
  obtain ⟨hscan, rfl⟩ := Run.ofExcept_eq_ok hrun
  have hload := Run.ofLoaded_eq_ok h
  have hfits := Plan.loadNodes_fits db plan s.property plan.nodes
    (Schema.fits_scanAll hscan) w₇
  rw [Plan.load] at hload
  rw [hload] at hfits
  exact ⟨s, s.property, hfits⟩

end EntityGraph
