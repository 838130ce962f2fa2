import EntityGraph.Proofs.Load.Reloading
import EntityGraph.Proofs.Load.Replanning

/-!
# The order of requests does not matter

Siblings of a forest can be loaded in either order, since each reads columns only and writes its own
relation. So requests that are given in another order are planned alike and loaded alike: the
entities are the same, and the statements are the same but for their order (`preload_perm`).
-/

namespace EntityGraph

open Run

variable {reg : Registry} {σ α β : Type} {db : Database σ}

/-! ### Runs that come to the same with statements in another order -/

/-- Where a run succeeds, another one succeeds in any world, with the same value and the same
statements up to their order. -/
def Run.Carries (x x' : Run reg σ α) : Prop :=
  ∀ w a w₁, x.run w = (.ok a, w₁) → ∃ issued issued', w₁.issued = w.issued ++ issued ∧
    issued.Perm issued' ∧ ∀ v, ∃ v₁, x'.run v = (.ok a, v₁) ∧ v₁.issued = v.issued ++ issued'

namespace Run

variable {x x' x'' : Run reg σ α} {f f' : α → Run reg σ β}

theorem Carries.of_firm (h : Firm x) : Carries x x := by
  intro w a w₁ hx
  obtain ⟨issued, hissued, hagain⟩ := h.run_ok hx
  exact ⟨issued, issued, hissued, .refl _, hagain⟩

theorem Carries.trans (h : Carries x x') (h' : Carries x' x'') : Carries x x'' := by
  intro w a w₁ hx
  obtain ⟨issued, issued', hissued, hperm, hagain⟩ := h w a w₁ hx
  obtain ⟨w₂, hx', hissued'⟩ := hagain w
  obtain ⟨issued₂, issued'', hissued₂, hperm', hagain'⟩ := h' w a w₂ hx'
  obtain rfl : issued' = issued₂ := List.append_cancel_left (hissued'.symm.trans hissued₂)
  exact ⟨issued, issued'', hissued, hperm.trans hperm', hagain'⟩

/-- Only values that are reached matter. -/
theorem Carries.bind (h : Carries x x')
    (hf : ∀ a, (∃ w w₁, x.run w = (.ok a, w₁)) → Carries (f a) (f' a)) :
    Carries (x >>= f) (x' >>= f') := by
  intro w b w₂ hrun
  obtain ⟨a, w₁, hx, hfa⟩ := bind_eq_ok hrun
  obtain ⟨first, first', hfirst, hperm, hagain⟩ := h w a w₁ hx
  obtain ⟨second, second', hsecond, hperm', hagain'⟩ := hf a ⟨w, w₁, hx⟩ w₁ b w₂ hfa
  refine ⟨first ++ second, first' ++ second', ?_, hperm.append hperm', fun v => ?_⟩
  · rw [hsecond, hfirst, List.append_assoc]
  · obtain ⟨v₁, hx', hissued⟩ := hagain v
    obtain ⟨v₂, hfa', hissued'⟩ := hagain' v₁
    refine ⟨v₂, (run_bind_of_ok hx').trans hfa', ?_⟩
    rw [hissued', hissued, List.append_assoc]

theorem Firm.carries_bind (h : Firm x) (hf : ∀ a, Carries (f a) (f' a)) :
    Carries (x >>= f) (x >>= f') :=
  (Carries.of_firm h).bind fun a _ => hf a

end Run

/-! ### Levels with other work below them -/

namespace Plan

variable {plan plan' : Plan} {node node' : PathNode} {type : String}
  {descend descend' : String → List Entity → Run reg σ (List Entity)}

theorem carries_stageOwners (hdb : db.IsStateless) (plan : Plan) (node : PathNode) {j : OwnerJoin}
    (hdescend : ∀ target ∈ targets (.morphTo j), ∀ es,
      Carries (descend target es) (descend' target es))
    (discriminator : String) (index : KeyIndex) :
    Carries (plan.stageOwners db descend node j discriminator index)
      (plan.stageOwners db descend' node j discriminator index) := by
  unfold stageOwners
  cases htarget : j.types.get? discriminator with
  | none => exact .of_firm ((firm_emit _).bind fun _ => Firm.pure [])
  | some target =>
    dsimp only
    have hmem : target ∈ targets (.morphTo j) := List.mem_map_of_mem (Catalog.mem_of_lookup htarget)
    refine (firm_schema target).carries_bind fun s => ?_
    refine (firm_ownerColumn node j s.property).carries_bind fun column => ?_
    refine (firm_select hdb plan node _ _ _).carries_bind fun rows => ?_
    refine (hdescend target hmem rows).bind fun owners _ => .of_firm ?_
    exact (firm_ofExcept _).bind fun _ => (firm_emit _).bind fun _ => Firm.pure _

theorem carries_stageGroups (hdb : db.IsStateless) (plan : Plan) (node : PathNode) {j : OwnerJoin}
    (hdescend : ∀ target ∈ targets (.morphTo j), ∀ es,
      Carries (descend target es) (descend' target es))
    (groups : List (String × KeyIndex)) :
    Carries (plan.stageGroups db descend node j groups)
      (plan.stageGroups db descend' node j groups) := by
  induction groups with
  | nil => exact .of_firm (Firm.pure [])
  | cons group rest ih =>
    refine (carries_stageOwners hdb plan node hdescend group.1 group.2).bind fun staged _ => ?_
    exact ih.bind fun others _ => .of_firm (Firm.pure _)

/-- A level is staged alike if what is below its owners is loaded alike. -/
theorem carries_stage (hdb : db.IsStateless)
    (hdescend : ∀ d, plan.descriptor? type node = some d → ∀ target ∈ targets d, ∀ es,
      Carries (descend target es) (descend' target es))
    (parents : List Entity) :
    Carries (plan.stage db descend node type parents)
      (plan.stage db descend' node type parents) := by
  unfold stage
  refine (firm_schema type).carries_bind fun s => (firm_ofExcept _).carries_bind fun info => ?_
  cases hd : plan.descriptor? type node with
  | none => exact .of_firm (Firm.throw _)
  | some d =>
    cases d with
    | belongsToMany j =>
      exact .of_firm ((firm_stagePivot hdb plan node j s parents).bind fun _ => Firm.pure _)
    | morphTo j =>
      refine (firm_mapped _ node _).carries_bind fun typeColumn => ?_
      refine (firm_mapped _ node _).carries_bind fun idColumn => ?_
      refine (firm_ofExcept _).carries_bind fun groups => ?_
      refine (carries_stageGroups hdb plan node (hdescend _ hd) groups.entries).bind
        fun staged _ => ?_
      exact .of_firm (Firm.pure _)
    | hasOne j | hasMany j | belongsTo j | morphOne j | morphMany j =>
      exact .of_firm ((firm_stageKeyed hdb plan node _ j s parents).bind fun _ => Firm.pure _)

/-- A node is loaded alike if what is below it is loaded alike. -/
theorem carries_loadNode (hdb : db.IsStateless) (h : SameLevel plan plan' node node' type)
    (hbelow : ∀ d, plan.descriptor? type node = some d → ∀ target ∈ targets d, ∀ es,
      Carries (plan.below db node target es : Run reg σ _) (plan'.below db node' target es))
    (parents : List Entity) :
    Carries (Run.ofLoaded (plan.loadNode db node type parents) : Run reg σ _)
      (Run.ofLoaded (plan'.loadNode db node' type parents)) := by
  rw [ofLoaded_loadNode, ofLoaded_loadNode, stage_same h]
  refine (carries_stage hdb hbelow parents).bind fun staged hstaged => ?_
  match staged with
  | (info, .owners owners) => exact .of_firm (Firm.pure _)
  | (info, .rows kind target rows) =>
    obtain ⟨w, w₁, hrun⟩ := hstaged
    obtain ⟨d, hd, htarget⟩ := rowType_of_stage hrun
    have hmem : target ∈ targets d := by
      cases d <;> cases htarget <;> exact List.mem_singleton_self _
    exact (hbelow d hd target hmem _).bind fun children _ => .of_firm (Firm.pure _)

theorem carries_loadNodes_cons {rest rest' : List PathNode}
    (hnode : ∀ parents, Carries (Run.ofLoaded (plan.loadNode db node type parents) : Run reg σ _)
      (Run.ofLoaded (plan'.loadNode db node' type parents)))
    (hrest : ∀ es, Carries (Run.ofLoaded (plan.loadNodes db rest type es) : Run reg σ _)
      (Run.ofLoaded (plan'.loadNodes db rest' type es)))
    (batch : List Entity) :
    Carries (Run.ofLoaded (plan.loadNodes db (node :: rest) type batch) : Run reg σ _)
      (Run.ofLoaded (plan'.loadNodes db (node' :: rest') type batch)) := by
  by_cases hbatch : batch = []
  · rw [hbatch, ofLoaded_loadNodes_nil_batch, ofLoaded_loadNodes_nil_batch]
    exact .of_firm (Firm.pure [])
  · rw [ofLoaded_loadNodes_cons db plan node rest type hbatch,
      ofLoaded_loadNodes_cons db plan' node' rest' type hbatch]
    exact (hnode batch).bind fun es _ => hrest es

/-! ### Siblings in another order -/

/-- Items of one entity are changed at some positions and then at others, or the other way round. -/
theorem eq_of_changesAt {P Q : Nat → Prop} (hPQ : ∀ i, P i → ¬ Q i) {e b c d c' : Entity}
    (hb : e.ChangesAt P b) (hc : b.ChangesAt Q c) (hd : e.ChangesAt Q d) (hc' : d.ChangesAt P c')
    (hQ : c.SameAt Q d) (hP : b.SameAt P c') : c' = c := by
  have hchanges : c.ChangesAt (fun _ => True) c' :=
    ⟨by rw [hc'.type_eq, hd.type_eq, hc.type_eq, hb.type_eq],
      by rw [hc'.length_eq, hd.length_eq, hc.length_eq, hb.length_eq],
      fun i hi => absurd trivial hi⟩
  refine hchanges.eq_of_sameAt fun i _ => ?_
  by_cases hi : P i
  · rw [hP i hi, hc.item?_eq i (hPQ i hi)]
  · by_cases hi' : Q i
    · rw [hc'.item?_eq i hi, hQ i hi']
    · rw [hc'.item?_eq i hi, hd.item?_eq i hi', hc.item?_eq i hi', hb.item?_eq i hi]

theorem forall₂_eq_of_changesAt {P Q : Nat → Prop} (hPQ : ∀ i, P i → ¬ Q i)
    {es bs cs ds cs' : List Entity} (hb : List.Forall₂ (Row.ChangesAt P) es bs)
    (hc : List.Forall₂ (Row.ChangesAt Q) bs cs) (hd : List.Forall₂ (Row.ChangesAt Q) es ds)
    (hc' : List.Forall₂ (Row.ChangesAt P) ds cs') (hQ : List.Forall₂ (Row.SameAt Q) cs ds)
    (hP : List.Forall₂ (Row.SameAt P) bs cs') : cs' = cs := by
  induction hb generalizing cs ds cs' with
  | nil =>
    cases hc
    cases hP
    rfl
  | cons hhead _ ih =>
    obtain _ | ⟨hc, hcs⟩ := hc
    obtain _ | ⟨hd, hds⟩ := hd
    obtain _ | ⟨hc', hcs'⟩ := hc'
    obtain _ | ⟨hQ, hQs⟩ := hQ
    obtain _ | ⟨hP, hPs⟩ := hP
    rw [eq_of_changesAt hPQ hhead hc hd hc' hQ hP, ih hcs hds hcs' hQs hPs]

/-- A position of a type belongs to one relation. -/
theorem eq_of_position_eq {s : Schema} (hs : reg.schema type = .ok s) {info info' : RelationInfo}
    (h : info ∈ s.relations) (h' : info' ∈ s.relations)
    (hposition : info.position = info'.position) : info = info' := by
  obtain rfl := Registry.eq_build hs
  obtain ⟨r, hr, rfl⟩ := List.mem_map.1 (show info ∈ (reg.get type).relations.map _ from h)
  obtain ⟨r', hr', rfl⟩ := List.mem_map.1 (show info' ∈ (reg.get type).relations.map _ from h')
  obtain ⟨i, hi, hri⟩ := mem_memberRelations.1 hr
  obtain ⟨j, hj, hrj⟩ := mem_memberRelations.1 hr'
  have hsame : r.position = r'.position := hposition
  obtain rfl : i = j := by omega
  obtain ⟨field, shape, options, position⟩ := r
  obtain ⟨field', shape', options', position'⟩ := r'
  rw [hi, Option.some.injEq, Member.relation.injEq] at hj
  obtain ⟨rfl, rfl, rfl⟩ := hj
  obtain rfl : position = position' := hsame
  rfl

/-- Nodes with different names ask for relations at different positions. -/
theorem not_isRequested_of_name_ne {s : Schema} (hs : reg.schema type = .ok s)
    (hne : node.name ≠ node'.name) {i : Nat} (h : IsRequested s [node] i) :
    ¬ IsRequested s [node'] i := by
  have hname : ∀ {node : PathNode} {info}, relation s node = .ok info → info.name = node.name := by
    intro node info h
    unfold relation at h
    split at h
    · next found hfound =>
      cases h
      simpa using List.find?_some hfound
    · cases h
  rintro ⟨_, hmem', info', hinfo', hposition'⟩
  obtain ⟨_, hmem, info, hinfo, hposition⟩ := h
  obtain rfl := List.mem_singleton.1 hmem
  obtain rfl := List.mem_singleton.1 hmem'
  refine hne ?_
  rw [← hname hinfo, ← hname hinfo', eq_of_position_eq hs (mem_relations_of_relation hinfo)
    (mem_relations_of_relation hinfo') (hposition.trans hposition'.symm)]

theorem exists_schema_of_loadNodes {rest : List PathNode} {batch es : List Entity}
    (hbatch : batch ≠ []) {w w₁ : World reg σ}
    (h : (Run.ofLoaded (plan.loadNodes db (node :: rest) type batch)).run w = (.ok es, w₁)) :
    ∃ s, reg.schema type = .ok s := by
  rw [ofLoaded_loadNodes_cons db plan node rest type hbatch] at h
  obtain ⟨es', w₂, hnode, -⟩ := bind_eq_ok h
  rw [ofLoaded_loadNode] at hnode
  obtain ⟨⟨info, staged⟩, w₃, hstage, -⟩ := bind_eq_ok hnode
  obtain ⟨s, hs, -⟩ := relation_of_stage hstage
  exact ⟨s, hs⟩

/-- A load that succeeds changes what its nodes ask for. -/
theorem changes_of_ok {s : Schema} (hs : reg.schema type = .ok s) {nodes : List PathNode}
    {batch es : List Entity} {w w₁ : World reg σ}
    (h : plan.loadNodes db nodes type batch w = (⟨es, none⟩, w₁)) :
    List.Forall₂ (Row.ChangesAt (IsRequested s nodes)) batch es := by
  have hchanges := loadNodes_changes db plan hs nodes batch w
  rwa [h] at hchanges

theorem sameColumns_of_changes {s : Schema} (hs : reg.schema type = .ok s) {nodes : List PathNode}
    {batch es : List Entity}
    (h : List.Forall₂ (Row.ChangesAt (IsRequested s nodes)) batch es) :
    List.Forall₂ s.SameColumns batch es := by
  refine h.imp fun e e' he => ?_
  exact (keeps_of_changesAt (fun _ ⟨_, _, hi⟩ => hi.exists_relation) he).sameColumns hs

/-- A load that succeeds on a batch succeeds alike on what changed in its relations. -/
theorem loadNodes_ok_of_sameColumns {s : Schema} (hs : reg.schema type = .ok s)
    {nodes : List PathNode} {batch batch' es : List Entity}
    (h : List.Forall₂ s.SameColumns batch batch')
    {w w₁ : World reg σ} (hload : plan.loadNodes db nodes type batch w = (⟨es, none⟩, w₁)) :
    ∃ es', plan.loadNodes db nodes type batch' w = (⟨es', none⟩, w₁) ∧
      List.Forall₂ (Row.SameAt (IsRequested s nodes)) es es' := by
  have hboth : List.Forall₂
      (fun e e' => s.SameColumns e e' ∧ e.SameAt (fun _ => False) e') batch batch' :=
    h.imp fun _ _ he => ⟨he, fun _ => False.elim⟩
  have hlock := loadNodes_lockstep db plan hs nodes hboth w
  rcases hrun : plan.loadNodes db nodes type batch' w with ⟨⟨es', failure⟩, w₂⟩
  rw [hload, hrun] at hlock
  obtain ⟨rfl, hfailure, hsame⟩ := hlock
  obtain rfl : failure = none := hfailure
  exact ⟨es', rfl, (hsame rfl).imp fun e e' he i hi => he i (.inr hi)⟩

/-- Siblings with different names are loaded in either order. -/
theorem carries_swap (hdb : db.IsStateless) (plan : Plan) (hne : node.name ≠ node'.name)
    (type : String) (batch : List Entity) :
    Carries
      (Run.ofLoaded (plan.loadNodes db [node] type batch) >>= fun es =>
        (Run.ofLoaded (plan.loadNodes db [node'] type es) : Run reg σ _))
      (Run.ofLoaded (plan.loadNodes db [node'] type batch) >>= fun es =>
        Run.ofLoaded (plan.loadNodes db [node] type es)) := by
  by_cases hbatch : batch = []
  · subst hbatch
    rw [ofLoaded_loadNodes_nil_batch, ofLoaded_loadNodes_nil_batch, pure_bind, pure_bind,
      ofLoaded_loadNodes_nil_batch, ofLoaded_loadNodes_nil_batch]
    exact .of_firm (Firm.pure [])
  intro w cs w₂ hrun
  obtain ⟨bs, w₁, hfirst, hsecond⟩ := bind_eq_ok hrun
  obtain ⟨s, hs⟩ := exists_schema_of_loadNodes hbatch hfirst
  obtain ⟨first, hissued, hfirstAgain⟩ :=
    (firm_loadNodes hdb plan [node] type batch).run_ok hfirst
  obtain ⟨second, hissued', hsecondAgain⟩ :=
    (firm_loadNodes hdb plan [node'] type bs).run_ok hsecond
  refine ⟨first ++ second, second ++ first, ?_, List.perm_append_comm, fun v => ?_⟩
  · rw [hissued', hissued, List.append_assoc]
  have hbs := changes_of_ok hs (ofLoaded_eq_ok hfirst)
  have hcs := changes_of_ok hs (ofLoaded_eq_ok hsecond)
  -- the second sibling is loaded onto the batch as it was, and the first one after it
  obtain ⟨v₁, hv₁, hissued₁⟩ := hsecondAgain v
  obtain ⟨ds, hds, hsame⟩ := loadNodes_ok_of_sameColumns hs
    ((sameColumns_of_changes hs hbs).flip.imp fun _ _ he => he.symm) (ofLoaded_eq_ok hv₁)
  have hchanged := changes_of_ok hs hds
  obtain ⟨v₂, hv₂, hissued₂⟩ := hfirstAgain v₁
  obtain ⟨cs', hcs', hsame'⟩ := loadNodes_ok_of_sameColumns hs
    (sameColumns_of_changes hs hchanged) (ofLoaded_eq_ok hv₂)
  obtain rfl : cs' = cs := forall₂_eq_of_changesAt
    (fun _ => not_isRequested_of_name_ne hs hne) hbs hcs hchanged (changes_of_ok hs hcs') hsame
    hsame'
  refine ⟨v₂, (run_bind_of_ok (run_ofLoaded_of_ok hds)).trans (run_ofLoaded_of_ok hcs'), ?_⟩
  rw [hissued₂, hissued₁, List.append_assoc]

theorem ofLoaded_loadNodes_one (db : Database σ) (plan : Plan) (node : PathNode)
    (rest : List PathNode) (type : String) (batch : List Entity) :
    (Run.ofLoaded (plan.loadNodes db (node :: rest) type batch) : Run reg σ (List Entity))
      = Run.ofLoaded (plan.loadNodes db [node] type batch) >>= fun es =>
        Run.ofLoaded (plan.loadNodes db rest type es) := by
  by_cases hbatch : batch = []
  · rw [hbatch, ofLoaded_loadNodes_nil_batch, ofLoaded_loadNodes_nil_batch, pure_bind,
      ofLoaded_loadNodes_nil_batch]
  · rw [ofLoaded_loadNodes_cons db plan node rest type hbatch,
      ofLoaded_loadNodes_cons db plan node [] type hbatch, bind_assoc]
    simp only [ofLoaded_loadNodes_nil, pure_bind]

/-- **The order of siblings does not matter to a load.** -/
theorem carries_reordered (hdb : db.IsStateless) (plan : Plan) {nodes nodes' : List PathNode}
    (h : Reordered nodes nodes') (type : String) (batch : List Entity) :
    Carries (Run.ofLoaded (plan.loadNodes db nodes type batch) : Run reg σ _)
      (Run.ofLoaded (plan.loadNodes db nodes' type batch)) := by
  induction h generalizing type batch with
  | nil => exact .of_firm (firm_loadNodes hdb plan [] type batch)
  | @cons node node' rest rest' hself _ _ ihchildren ihrest =>
    have hlevel : ∀ type, SameLevel plan plan node node' type := by
      intro type
      refine ⟨rfl, hself, ?_⟩
      unfold descriptor?
      rw [hself.path_eq]
    refine carries_loadNodes_cons (fun parents => ?_) (ihrest type) batch
    exact carries_loadNode hdb (hlevel type) (fun _ _ target _ es => ihchildren target es) parents
  | @swap node other rest hne =>
    rw [ofLoaded_loadNodes_one db plan node, ofLoaded_loadNodes_one db plan other]
    simp only [ofLoaded_loadNodes_one db plan other rest, ofLoaded_loadNodes_one db plan node rest]
    rw [← bind_assoc, ← bind_assoc]
    exact (carries_swap hdb plan hne type batch).bind fun es _ =>
      .of_firm (firm_loadNodes hdb plan rest type es)
  | trans _ _ ih ih' => exact (ih type batch).trans (ih' type batch)

/-! ### Levels under another plan -/

variable {eager eager' : Eager}

theorem carries_loadNodes_of {nodes : List PathNode}
    (hnodes : ∀ node ∈ nodes, ∀ type, CoversNode reg eager plan.descriptors node type →
      CoversNode reg eager' plan'.descriptors node type → ∀ parents,
      Carries (Run.ofLoaded (plan.loadNode db node type parents) : Run reg σ _)
        (Run.ofLoaded (plan'.loadNode db node type parents)))
    (h : CoversNodes reg eager plan.descriptors nodes type)
    (h' : CoversNodes reg eager' plan'.descriptors nodes type) (batch : List Entity) :
    Carries (Run.ofLoaded (plan.loadNodes db nodes type batch) : Run reg σ _)
      (Run.ofLoaded (plan'.loadNodes db nodes type batch)) := by
  induction nodes generalizing batch with
  | nil =>
    rw [ofLoaded_loadNodes_nil, ofLoaded_loadNodes_nil]
    exact .of_firm (Firm.pure batch)
  | cons node rest ih =>
    rw [CoversNodes] at h h'
    refine carries_loadNodes_cons (hnodes node (by simp) type h.1 h'.1) (fun es => ?_) batch
    exact ih (fun node hnode => hnodes node (List.mem_cons_of_mem _ hnode)) h.2 h'.2 es

/-- A node that two plans cover is loaded alike under either. -/
theorem carries_loadNode_of_covers (hdb : db.IsStateless) (hplans : Comparable plan plan')
    (node : PathNode) (type : String) (h : CoversNode reg eager plan.descriptors node type)
    (h' : CoversNode reg eager' plan'.descriptors node type) (parents : List Entity) :
    Carries (Run.ofLoaded (plan.loadNode db node type parents) : Run reg σ _)
      (Run.ofLoaded (plan'.loadNode db node type parents)) := by
  induction node using PathNode.induct generalizing type parents with
  | mk name path columns children ih =>
    obtain ⟨d, hd, -, htargets⟩ := coversNode_iff.1 h
    obtain ⟨d', hd', -, htargets'⟩ := coversNode_iff.1 h'
    obtain rfl : d' = d := hplans.descriptor_eq type ⟨name, path, columns, children⟩ d d' hd hd'
    refine carries_loadNode hdb
      ⟨hplans.constraints_eq, ⟨rfl, rfl, rfl⟩, hd'.trans hd.symm⟩ (fun d₁ hd₁ target ht es => ?_)
      parents
    obtain rfl : d' = d₁ := Option.some.inj (hd.symm.trans hd₁)
    exact carries_loadNodes_of ih (htargets target ht).2 (htargets' target ht).2 es

theorem carries_loadNodes_of_covers (hdb : db.IsStateless) (hplans : Comparable plan plan')
    {nodes : List PathNode} (h : CoversNodes reg eager plan.descriptors nodes type)
    (h' : CoversNodes reg eager' plan'.descriptors nodes type) (batch : List Entity) :
    Carries (Run.ofLoaded (plan.loadNodes db nodes type batch) : Run reg σ _)
      (Run.ofLoaded (plan'.loadNodes db nodes type batch)) :=
  carries_loadNodes_of (fun node _ => carries_loadNode_of_covers hdb hplans node) h h' batch

end Plan

/-! ### Requests in another order -/

open Plan

variable {eager : Eager} {type : String} {batch es : List Entity}

/-- **The order of requests does not matter.** If no path is given different columns, a request that
is loaded over a database without a memory is loaded from any world in any order: the entities are
the same, down to the last level, and so are the statements but for their order. -/
theorem preload_perm {paths : List String} (hperm : eager.paths.Perm paths)
    (hagree : AgreeOnColumns eager.paths) (hdb : db.IsStateless) {w w₁ : World reg σ}
    (hload : preload db eager type batch w = (⟨es, none⟩, w₁)) (v : World reg σ) :
    ∃ v₁ issued issued', preload db { eager with paths := paths } type batch v = (⟨es, none⟩, v₁) ∧
      w₁.issued = w.issued ++ issued ∧ v₁.issued = v.issued ++ issued' ∧ issued.Perm issued' := by
  by_cases hidle : batch = [] ∨ eager.isEmpty = true
  · have hidle' : batch = [] ∨ ({ eager with paths := paths } : Eager).isEmpty = true := by
      refine hidle.imp_right fun h => List.isEmpty_iff.2 ?_
      exact List.nil_perm.1 (List.isEmpty_iff.1 h ▸ hperm)
    rw [preload_of_idle hidle] at hload
    cases hload
    exact ⟨v, [], [], preload_of_idle hidle' db type v, by simp, by simp, .nil⟩
  obtain ⟨hbatch, heager⟩ := not_or.1 hidle
  rw [Bool.not_eq_true] at heager
  have heager' : ({ eager with paths := paths } : Eager).isEmpty = false := by
    rw [Eager.isEmpty, hperm.symm.isEmpty_eq]
    exact heager
  have hrun := run_ofLoaded_of_ok hload
  rw [ofLoaded_preload db type hbatch heager] at hrun
  obtain ⟨plan, w₂, hmake, hw, hnodes⟩ := (finds_make eager type).quiet.bind_eq_ok hrun
  have hplan : Plans reg σ eager type plan := ⟨w, w₂, hmake⟩
  obtain ⟨plan', v₂, hmake', hreordered⟩ := hplan.exists_reordered hperm hagree v
  have hplan' : Plans reg σ { eager with paths := paths } type plan' := ⟨v, v₂, hmake'⟩
  have hv := (finds_make { eager with paths := paths } type).quiet.untouched v
  rw [hmake'] at hv
  -- the siblings change places under the first plan, which then makes way for the second one
  have hcarries := (carries_reordered hdb plan hreordered type batch).trans
    (carries_loadNodes_of_covers hdb (hplan.suits.comparable hplan'.suits)
      (covers_of_reordered hreordered hplan.suits.covers) hplan'.suits.covers batch)
  obtain ⟨issued, issued', hissued, hsame, hagain⟩ := hcarries w₂ es w₁ hnodes
  obtain ⟨v₁, hnodes', hissued'⟩ := hagain v₂
  rw [hw.issued_eq] at hissued
  rw [hv.issued_eq] at hissued'
  refine ⟨v₁, issued, issued', ofLoaded_eq_ok ?_, hissued, hissued', hsame⟩
  rw [ofLoaded_preload db type hbatch heager', run_bind_of_ok hmake']
  exact hnodes'

/-- Three requests for an author, one of them with columns, given the other way round. -/
theorem preload_perm_library :
    let w : World libraryRegistry Unit := { catalog := .empty _ {}, state := () }
    let eager : Eager := { paths := ["Posts:id,author_id", "Notes", "Posts.Comments"] }
    let turned : Eager := { paths := ["Posts.Comments", "Notes", "Posts:id,author_id"] }
    ∃ es w₁ w₂, preload archiveDatabase eager "Author" [noteAuthor] w = (⟨es, none⟩, w₁) ∧
      preload archiveDatabase turned "Author" [noteAuthor] w = (⟨es, none⟩, w₂) ∧
      w₁.issued.length = 3 ∧ w₁.issued.Perm w₂.issued := by
  intro w eager turned
  have hperm : eager.paths.Perm turned.paths := (List.reverse_perm _).symm
  have hagree : AgreeOnColumns eager.paths := by decide +kernel
  have hdb : archiveDatabase.IsStateless := fun _ _ _ => rfl
  have hok : (preload archiveDatabase eager "Author" [noteAuthor] w).1.failure = none := by
    decide +kernel
  have hissued : (preload archiveDatabase eager "Author" [noteAuthor] w).2.issued.length = 3 := by
    decide +kernel
  obtain ⟨es, w₁, hload⟩ : ∃ es w₁,
      preload archiveDatabase eager "Author" [noteAuthor] w = (⟨es, none⟩, w₁) := by
    rcases hrun : preload archiveDatabase eager "Author" [noteAuthor] w with ⟨⟨es, failure⟩, w₁⟩
    rw [hrun] at hok
    obtain rfl : failure = none := hok
    exact ⟨es, w₁, rfl⟩
  obtain ⟨w₂, first, second, hturned, hfirst, hsecond, hsame⟩ :=
    preload_perm hperm hagree hdb hload w
  have hagain : preload archiveDatabase turned "Author" [noteAuthor] w = (⟨es, none⟩, w₂) := hturned
  rw [hload] at hissued
  obtain rfl : w₁.issued = first := hfirst.trans (List.nil_append first)
  obtain rfl : w₂.issued = second := hsecond.trans (List.nil_append second)
  exact ⟨es, w₁, w₂, hload, hagain, hissued, hsame⟩

end EntityGraph
