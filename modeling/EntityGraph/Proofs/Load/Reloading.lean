import EntityGraph.Proofs.Load.Atomic
import EntityGraph.Proofs.Load.Replaying

/-!
# Loads forget what relations held

A load reads columns and writes relations. Batches that agree on their columns are loaded in
lockstep, whatever their relations held before: the same statements are issued, the loads fail alike
or succeed alike, and what was requested is the same in either batch, down to the last level
(`loadNodes_lockstep`). So a request that is loaded again over a database without a memory leaves
the entities as they were (`preload_forgets`).
-/

namespace EntityGraph

theorem forall₂_and {α β : Type} {R S : α → β → Prop} {as : List α} {bs : List β}
    (h : List.Forall₂ R as bs) (h' : List.Forall₂ S as bs) :
    List.Forall₂ (fun a b => R a b ∧ S a b) as bs := by
  induction h with
  | nil => exact .nil
  | cons hhead _ ih =>
    cases h' with
    | cons hhead' htail' => exact .cons ⟨hhead, hhead'⟩ (ih htail')

/-! ### Entities with the same columns -/

/-- Entities with as many items that hold the same in every column of a type. Their relations may
hold anything. -/
structure Schema.SameColumns (s : Schema) (e e' : Entity) : Prop where
  length_eq : e'.items.length = e.items.length
  cell?_eq : ∀ c ∈ s.columns, e'.cell? c.path = e.cell? c.path

theorem Schema.SameColumns.symm {s : Schema} {e e' : Entity} (h : s.SameColumns e e') :
    s.SameColumns e' e :=
  ⟨h.length_eq.symm, fun c hc => (h.cell?_eq c hc).symm⟩

theorem Schema.SameColumns.trans {s : Schema} {e e' e'' : Entity} (h : s.SameColumns e e')
    (h' : s.SameColumns e' e'') : s.SameColumns e e'' :=
  ⟨h'.length_eq.trans h.length_eq, fun c hc => (h'.cell?_eq c hc).trans (h.cell?_eq c hc)⟩

/-- An entity that is kept keeps its columns. -/
theorem Schema.Keeps.sameColumns {reg : Registry} {type : String} {s : Schema} {e e' : Entity}
    (h : s.Keeps e e') (hs : reg.schema type = .ok s) : s.SameColumns e e' :=
  ⟨h.length_eq, fun _ => h.cell?_eq hs⟩

/-- Entities that hold the same at some positions. -/
def Row.SameAt (P : Nat → Prop) (e e' : Entity) : Prop := ∀ i, P i → e'.item? i = e.item? i

/-- Entities of a type that hold the same in every column, if the type has a schema. -/
def Registry.SameColumns (reg : Registry) (type : String) (e e' : Entity) : Prop :=
  ∀ s, reg.schema type = .ok s → s.SameColumns e e'

variable {reg : Registry} {σ : Type} {s : Schema} {parents parents' : List Entity}

theorem Row.joinKey?_congr {e e' : Entity} (h : s.SameColumns e e') {c : ColumnInfo}
    (hc : c ∈ s.columns) : e'.joinKey? c = e.joinKey? c := by
  unfold joinKey?
  rw [h.cell?_eq c hc]

theorem KeyIndex.addAll_congr (h : List.Forall₂ s.SameColumns parents parents') {c : ColumnInfo}
    (hc : c ∈ s.columns) (position : Nat) (index : KeyIndex) :
    addAll c position parents' index = addAll c position parents index := by
  induction h generalizing position index with
  | nil => rfl
  | cons hhead _ ih =>
    rw [addAll, addAll, Row.joinKey?_congr hhead hc]
    split
    · exact ih _ _
    · exact ih _ _
    · rfl

theorem KeyIndex.ofBatch_congr (h : List.Forall₂ s.SameColumns parents parents') {c : ColumnInfo}
    (hc : c ∈ s.columns) : ofBatch c parents' = ofBatch c parents :=
  addAll_congr h hc 0 {}

theorem OwnerJoin.addParents_congr (h : List.Forall₂ s.SameColumns parents parents')
    {type id : ColumnInfo} (htype : type ∈ s.columns) (hid : id ∈ s.columns) (position : Nat)
    (groups : ByName KeyIndex) :
    addParents type id position parents' groups = addParents type id position parents groups := by
  induction h generalizing position groups with
  | nil => rfl
  | @cons e e' _ _ hhead _ ih =>
    have hdiscriminator : discriminatorOf type e' = discriminatorOf type e := by
      unfold discriminatorOf
      rw [hhead.cell?_eq type htype]
    rw [addParents, addParents, hdiscriminator, Row.joinKey?_congr hhead hid]
    split
    · exact ih _ _
    · split
      · exact ih _ _
      · exact ih _ _
      · rfl

theorem OwnerJoin.groups_congr (h : List.Forall₂ s.SameColumns parents parents')
    {type id : ColumnInfo} (htype : type ∈ s.columns) (hid : id ∈ s.columns) :
    groups type id parents' = groups type id parents :=
  addParents_congr h htype hid 0 .empty

/-! ### Relations that hold the same -/

section
variable {slot : Nat} {es es' : List Entity}

theorem Row.children_congr {e e' : Entity} (h : e.SameAt (· = slot) e') :
    e'.children slot = e.children slot := by
  rw [children, children, h slot rfl]

theorem gather_congr (h : List.Forall₂ (Row.SameAt (· = slot)) es es') :
    gather slot es' = gather slot es := by
  induction h with
  | nil => rfl
  | cons hhead _ ih => rw [gather_cons, gather_cons, ih, Row.children_congr hhead]

theorem Row.SameAt.setChildren {e e' : Entity} (h : e.SameAt (· = slot) e') (cs : List Entity) :
    (e.setChildren slot cs).SameAt (· = slot) (e'.setChildren slot cs) := by
  have hitem : e'.item? slot = e.item? slot := h slot rfl
  -- an item that is there can be replaced
  have hset : ∀ (r : Entity) item x, r.item? slot = some item →
      (r.setItem slot x).item? slot = some x := by
    intro r item x hr
    obtain ⟨hlt, -⟩ := List.getElem?_eq_some_iff.1 hr
    exact Row.item?_setItem hlt x
  intro i hi
  subst hi
  unfold Row.setChildren
  rw [hitem]
  split
  · next hone => rw [hset e _ _ hone, hset e' _ _ (hitem.trans hone)]
  · next hmany => rw [hset e _ _ hmany, hset e' _ _ (hitem.trans hmany)]
  · exact hitem

theorem scatter_congr (h : List.Forall₂ (Row.SameAt (· = slot)) es es') (cs : List Entity) :
    List.Forall₂ (Row.SameAt (· = slot)) (scatter slot es cs) (scatter slot es' cs) := by
  induction h generalizing cs with
  | nil => exact .nil
  | @cons e e' _ _ hhead _ ih =>
    rw [scatter, scatter, Row.children_congr hhead]
    exact .cons (hhead.setChildren _) (ih _)

/-- What is committed does not depend on what was there. -/
theorem commit_congr (slot : Nat) (staged : Staged)
    (h : List.Forall₂ (fun e e' : Entity => e'.items.length = e.items.length) es es') :
    List.Forall₂ (Row.SameAt (· = slot)) (staged.commit slot es) (staged.commit slot es') := by
  rw [List.forall₂_iff_get]
  refine ⟨by simp [Staged.commit, h.length_eq], fun i hi hi' => ?_⟩
  have hlt : i < es.length := by simpa [Staged.commit] using hi
  have hlt' : i < es'.length := by simpa [Staged.commit] using hi'
  have hlength := h.get hlt hlt'
  intro j hj
  subst hj
  simp only [List.get_eq_getElem] at hlength
  simp [Staged.commit, Row.item?, Row.setItem, List.getElem?_set, hlength]

end

/-! ### Levels -/

namespace Plan

open Run

variable {db : Database σ} {plan : Plan} {node : PathNode} {type : String} {α : Type}

/-- After a column was looked up, only mapped columns matter. -/
theorem mapped_bind_congr {column : String} {f g : ColumnInfo → Run reg σ α}
    (h : ∀ c ∈ s.columns, f c = g c) : mapped s node column >>= f = mapped s node column >>= g := by
  unfold mapped
  cases hc : s.column? column with
  | none => rfl
  | some c => exact h c (Schema.mem_of_column? hc)

theorem stageKeyed_congr (h : List.Forall₂ s.SameColumns parents parents') (kind : RelationKind)
    (j : Join) :
    (plan.stageKeyed db node kind j s parents' : Run reg σ _)
      = plan.stageKeyed db node kind j s parents := by
  refine mapped_bind_congr fun column hcolumn => ?_
  rw [KeyIndex.ofBatch_congr h hcolumn, h.length_eq]

theorem stagePivot_congr (h : List.Forall₂ s.SameColumns parents parents') (j : PivotJoin) :
    (plan.stagePivot db node j s parents' : Run reg σ _)
      = plan.stagePivot db node j s parents := by
  refine mapped_bind_congr fun column hcolumn => ?_
  rw [KeyIndex.ofBatch_congr h hcolumn, h.length_eq]

/-- **A level is staged from the columns of the parents alone.** -/
theorem stage_congr (h : List.Forall₂ (reg.SameColumns type) parents parents')
    (descend : String → List Entity → Run reg σ (List Entity)) :
    plan.stage db descend node type parents' = plan.stage db descend node type parents := by
  refine bind_congr fun s => bind_congr fun info => ?_
  have hs : List.Forall₂ s.val.SameColumns parents parents' := h.imp fun e e' he => he s s.property
  split
  · rfl
  · rw [stagePivot_congr hs]
  · refine mapped_bind_congr fun typeColumn htype => mapped_bind_congr fun idColumn hid => ?_
    rw [OwnerJoin.groups_congr hs htype hid]
  all_goals rw [stageKeyed_congr hs]

/-! ### Two loads in lockstep -/

/-- Two loads have come to the same world and fail alike, or their entities hold the same at some
positions. -/
structure Lockstep (P : Nat → Prop) (done done' : Loaded × World reg σ) : Prop where
  world_eq : done'.2 = done.2
  failure_eq : done'.1.failure = done.1.failure
  sameAt : done.1.failure = none →
    List.Forall₂ (Row.SameAt P) done.1.entities done'.1.entities

theorem loadNode_lockstep (db : Database σ) (plan : Plan) (node : PathNode)
    (hs : reg.schema type = .ok s) (h : List.Forall₂ s.SameColumns parents parents')
    (w : World reg σ) :
    Lockstep (IsAt s node) (plan.loadNode db node type parents w)
      (plan.loadNode db node type parents' w) := by
  have hreg : List.Forall₂ (reg.SameColumns type) parents parents' := by
    refine h.imp fun e e' he s' hs' => ?_
    rwa [← Except.ok.inj (hs.symm.trans hs')]
  have hstage : ∀ {outcome},
      (plan.stage db (plan.below db node) node type parents).run w = outcome →
      (plan.stage db (plan.below db node) node type parents').run w = outcome := by
    intro outcome hrun
    rwa [stage_congr hreg]
  rcases hrun : (plan.stage db (plan.below db node) node type parents).run w with
    ⟨why | ⟨info, staged⟩, w₁⟩
  · rw [loadNode_error hrun, loadNode_error (hstage hrun)]
    exact ⟨rfl, rfl, fun hnone => by cases hnone⟩
  obtain ⟨s', hs', hrelation⟩ := relation_of_stage hrun
  obtain rfl : s = s' := Except.ok.inj (hs.symm.trans hs')
  have hcommit := commit_congr info.position staged (h.imp fun _ _ he => he.length_eq)
  -- the node asks for one relation
  have hat : ∀ i, IsAt s node i → i = info.position := by
    rintro i ⟨info', hinfo', rfl⟩
    rw [Except.ok.inj (hinfo'.symm.trans hrelation)]
  have hsame : ∀ {es es'}, List.Forall₂ (Row.SameAt (· = info.position)) es es' →
      List.Forall₂ (Row.SameAt (IsAt s node)) es es' :=
    fun h => h.imp fun e e' he i hi => he i (hat i hi)
  cases staged with
  | owners owners =>
    rw [loadNode_owners hrun, loadNode_owners (hstage hrun)]
    exact ⟨rfl, rfl, fun _ => hsame hcommit⟩
  | rows kind target rows =>
    rw [loadNode_rows hrun, loadNode_rows (hstage hrun)]
    dsimp only
    rw [gather_congr hcommit]
    exact ⟨rfl, rfl, fun _ => hsame (scatter_congr hcommit _)⟩

/-- A node that is loaded onto both batches holds the same in both, and whatever else they held the
same they still do. -/
theorem sameAt_loadNode (hs : reg.schema type = .ok s) {P : Nat → Prop}
    (h : List.Forall₂ (fun e e' => s.SameColumns e e' ∧ e.SameAt P e') parents parents')
    {w : World reg σ} (hok : (plan.loadNode db node type parents w).1.failure = none) :
    List.Forall₂ (fun e e' => s.SameColumns e e' ∧ e.SameAt (fun i => P i ∨ IsAt s node i) e')
      (plan.loadNode db node type parents w).1.entities
      (plan.loadNode db node type parents' w).1.entities := by
  have hnode := (loadNode_lockstep db plan node hs (h.imp fun _ _ he => he.1) w).sameAt hok
  have hchanges := loadNode_changes db plan node hs parents w
  have hchanges' := loadNode_changes db plan node hs parents' w
  have hall := forall₂_comp (forall₂_comp hchanges.flip h) hchanges'
  refine (forall₂_and hnode hall).imp fun f f' hf => ?_
  obtain ⟨hat, e', ⟨e, he, hsame, hP⟩, he'⟩ := hf
  have hkept : ∀ {e e' : Entity}, e.ChangesAt (IsAt s node) e' → s.SameColumns e e' :=
    fun h => (keeps_of_changesAt (fun _ => IsAt.exists_relation) h).sameColumns hs
  refine ⟨(hkept he).symm.trans (hsame.trans (hkept he')), fun i hi => ?_⟩
  by_cases hi' : IsAt s node i
  · exact hat i hi'
  · rw [he'.item?_eq i hi', hP i (hi.resolve_right hi'), he.item?_eq i hi']

/-- **Batches with the same columns are loaded in lockstep.** Besides what was requested they hold
the same afterwards where they held the same before. -/
theorem loadNodes_lockstep (db : Database σ) (plan : Plan) (hs : reg.schema type = .ok s)
    (nodes : List PathNode) {P : Nat → Prop} {batch batch' : List Entity}
    (h : List.Forall₂ (fun e e' => s.SameColumns e e' ∧ e.SameAt P e') batch batch')
    (w : World reg σ) :
    Lockstep (fun i => P i ∨ IsRequested s nodes i) (plan.loadNodes db nodes type batch w)
      (plan.loadNodes db nodes type batch' w) := by
  induction nodes generalizing P batch batch' w with
  | nil =>
    rw [loadNodes, loadNodes]
    refine ⟨rfl, rfl, fun _ => h.imp fun e e' he i hi => ?_⟩
    obtain hi | ⟨node, hnode, -⟩ := hi
    · exact he.2 i hi
    · cases hnode
  | cons node rest ih =>
    by_cases hempty : batch = []
    · subst hempty
      cases h
      rw [loadNodes_nil_batch]
      exact ⟨rfl, rfl, fun _ => .nil⟩
    have hempty' : batch' ≠ [] := by
      rintro rfl
      cases h
      exact hempty rfl
    have hnode := loadNode_lockstep db plan node hs (h.imp fun _ _ he => he.1) w
    rw [loadNodes_cons, loadNodes_cons, if_neg (by simpa using hempty),
      if_neg (by simpa using hempty')]
    dsimp only
    rw [hnode.failure_eq, hnode.world_eq]
    cases hfailure : (plan.loadNode db node type batch w).1.failure with
    | some why =>
      refine ⟨hnode.world_eq, hnode.failure_eq, fun hnone => ?_⟩
      rw [hfailure] at hnone
      cases hnone
    | none =>
      have hrest := ih (sameAt_loadNode hs h hfailure) (plan.loadNode db node type batch w).2
      refine ⟨hrest.world_eq, hrest.failure_eq, fun hnone => ?_⟩
      refine (hrest.sameAt hnone).imp fun e e' he i hi => he i ?_
      obtain hi | ⟨other, hother, hi⟩ := hi
      · exact .inl (.inl hi)
      · rcases List.mem_cons.1 hother with rfl | hother
        · exact .inl (.inr hi)
        · exact .inr ⟨other, hother, hi⟩

end Plan

open Plan Run

/-! ### Requests -/

/-- A position of a relation that a request asks for on a type. -/
def Eager.IsRequested (reg : Registry) (eager : Eager) (type : String) (position : Nat) : Prop :=
  ∃ s nodes, reg.schema type = .ok s ∧ parsePaths eager.paths = .ok nodes ∧
    Plan.IsRequested s nodes position

variable {db : Database σ} {eager : Eager} {type : String} {batch batch' : List Entity}

theorem Row.ChangesAt.eq_of_sameAt {P : Nat → Prop} {e e' : Entity} (h : e.ChangesAt P e')
    (hsame : e.SameAt P e') : e' = e := by
  obtain ⟨type, items⟩ := e
  obtain ⟨type', items'⟩ := e'
  obtain rfl : type' = type := h.type_eq
  congr 1
  refine List.ext_getElem? fun i => ?_
  by_cases hi : P i
  · exact hsame i hi
  · exact h.item?_eq i hi

def archiveDatabase : Database Unit where
  answer s _ :=
    match s with
    | .select table _ _ =>
      if table = "comments" then (.ok [⟨[("id", .int 5), ("post_id", .int 3)]⟩], ())
      else (.ok [⟨[("id", .int 3), ("author_id", .int 1)]⟩], ())
    | _ => (.ok [], ())

end EntityGraph
