import EntityGraph.Proofs.Lists
import EntityGraph.Proofs.Load.Paths
import EntityGraph.Proofs.Relation.Describing

/-!
# What planning establishes

A plan holds a descriptor for every node of its forest on every type that the node can be reached
with (`finds_make`): a load that follows the forest from the type that was planned never comes to a
node it has no descriptor for. A type may be reached on several ways, and its nodes are then
described several times; since a description depends on nothing but the registry and the request,
no descriptor is replaced by another one. Which of several types comes first is left open, but what
is planned for them in the end is the same (`Plans.ensures_make`).
-/

namespace EntityGraph

open Run
open Sql (Accepted)

namespace Plan

variable {reg : Registry} {σ : Type}

/-! ### Describing a node -/

/-- Describing a node on a type yields this descriptor in some world. -/
def Describes (reg : Registry) (σ : Type) (eager : Eager) (type : String) (node : PathNode)
    (d : Descriptor) : Prop :=
  ∃ w w' : World reg σ, (describe eager type node).run w = (.ok d, w')

/-- What has been checked when a node was described on a type. -/
structure Prepared (reg : Registry) (eager : Eager) (type : String) (node : PathNode)
    (d : Descriptor) : Prop where
  exists_relation : ∃ s info, reg.schema type = .ok s ∧ relation s node = .ok info ∧
    d.Checked reg s
  columns : ∀ columns ∈ node.columns, ∀ name ∈ columns, Accepted name
  constraint : ∀ name ∈ (eager.constrain node.path {}).names, Accepted name

theorem finds_describe (eager : Eager) (type : String) (node : PathNode) :
    Finds (describe eager type node : Run reg σ Descriptor) (Prepared reg eager type node) := by
  refine (ensures_schema type).finds.bind fun s _ => ?_
  have hrelation : Finds (MonadExcept.ofExcept (relation s.val node) : Run reg σ RelationInfo)
      fun info => relation s.val node = .ok info := by
    refine ensures_ofExcept ?_
    cases h : relation s.val node with
    | error why => trivial
    | ok info => rfl
  refine hrelation.bind fun info hinfo => ?_
  have hself : reg.schema s.val.type = .ok s.val := by
    rw [Registry.type_eq s.property]
    exact s.property
  refine (info.finds_describe hself _).bind fun d hd => ?_
  have hcolumns : Finds (node.columns.forM checkNames : Run reg σ Unit) fun _ =>
      ∀ columns ∈ node.columns, ∀ name ∈ columns, Accepted name := by
    cases node.columns with
    | none => exact Ensures.pure (by simp)
    | some columns =>
      refine (ensures_checkNames columns).finds.imp fun _ h => ?_
      simpa using h
  refine hcolumns.bind fun _ hcs => ?_
  refine (ensures_checkNames _).finds.bind fun _ hconstraint => ?_
  exact Ensures.pure ⟨⟨s, info, s.property, hinfo, hd⟩, hcs, hconstraint⟩

/-- Nodes of one name and path have one descriptor on a type. -/
theorem Describes.unique {eager : Eager} {type : String} {node node' : PathNode}
    {d d' : Descriptor} (h : Describes reg σ eager type node d)
    (h' : Describes reg σ eager type node' d') (hname : node.name = node'.name)
    (hpath : node.path = node'.path) : d = d' := by
  obtain ⟨w, w₁, h⟩ := h
  obtain ⟨w', w₁', h'⟩ := h'
  rw [describe] at h h'
  obtain ⟨s, w₂, -, h⟩ := bind_eq_ok h
  obtain ⟨s', w₂', -, h'⟩ := bind_eq_ok h'
  obtain rfl : s = s' := Subtype.ext (Except.ok.inj (s.property.symm.trans s'.property))
  obtain ⟨info, w₃, hinfo, h⟩ := bind_eq_ok h
  obtain ⟨info', w₃', hinfo', h'⟩ := bind_eq_ok h'
  have hsame : relation s.val node = relation s.val node' := by
    rw [relation, relation, hname]
  obtain rfl : info = info' := by
    have heq := (ofExcept_eq_ok hinfo).1.symm.trans (hsame.trans (ofExcept_eq_ok hinfo').1)
    exact Except.ok.inj heq
  obtain ⟨found, w₄, hd, h⟩ := bind_eq_ok h
  obtain ⟨found', w₄', hd', h'⟩ := bind_eq_ok h'
  obtain ⟨-, w₅, -, h⟩ := bind_eq_ok h
  obtain ⟨-, w₅', -, h'⟩ := bind_eq_ok h'
  obtain ⟨-, w₆, -, h⟩ := bind_eq_ok h
  obtain ⟨-, w₆', -, h'⟩ := bind_eq_ok h'
  cases h
  cases h'
  rw [hpath] at hd
  exact (info.steady_describe _).eq hd hd'

/-! ### Descriptors found so far -/

/-- Every descriptor is that of a node of its path. -/
def Consistent (reg : Registry) (σ : Type) (eager : Eager) (found : Descriptors) : Prop :=
  ∀ p ∈ found, ∃ node, node.path = p.1.2 ∧ lastSegment node.path = node.name ∧
    Describes reg σ eager p.1.1 node p.2

/-- What is found is found again. -/
def Extends (found found' : Descriptors) : Prop :=
  ∀ key d, found.lookup key = some d → found'.lookup key = some d

theorem Extends.refl (found : Descriptors) : Extends found found := fun _ _ => id

theorem Extends.trans {found found' found'' : Descriptors} (h : Extends found found')
    (h' : Extends found' found'') : Extends found found'' :=
  fun key d hd => h' key d (h key d hd)

theorem extends_cons {eager : Eager} {found : Descriptors} (h : Consistent reg σ eager found)
    {type : String} {node : PathNode} {d : Descriptor} (hname : lastSegment node.path = node.name)
    (hd : Describes reg σ eager type node d) : Extends found (((type, node.path), d) :: found) := by
  intro key d' hlookup
  rw [List.lookup_cons]
  by_cases hkey : key = (type, node.path)
  · subst hkey
    obtain ⟨node', hpath, hname', hd'⟩ := h _ (Catalog.mem_of_lookup hlookup)
    rw [beq_self_eq_true]
    refine congrArg some (hd.unique hd' ?_ hpath.symm)
    rw [← hname, ← hname', hpath]
  · rw [beq_eq_false_iff_ne.2 hkey]
    exact hlookup

theorem consistent_cons {eager : Eager} {found : Descriptors} (h : Consistent reg σ eager found)
    {type : String} {node : PathNode} {d : Descriptor} (hname : lastSegment node.path = node.name)
    (hd : Describes reg σ eager type node d) :
    Consistent reg σ eager (((type, node.path), d) :: found) :=
  List.forall_mem_cons.2 ⟨⟨node, rfl, hname, hd⟩, h⟩

/-- **Descriptors for one type and path are the same**, on whatever way they were found. -/
theorem Consistent.eq_of_fst_eq {eager : Eager} {found : Descriptors}
    (h : Consistent reg σ eager found) {p q : (String × String) × Descriptor} (hp : p ∈ found)
    (hq : q ∈ found) (hkey : p.1 = q.1) : p.2 = q.2 := by
  obtain ⟨node, hpath, hname, hdescribes⟩ := h p hp
  obtain ⟨node', hpath', hname', hdescribes'⟩ := h q hq
  rw [← hkey] at hpath' hdescribes'
  have hsame : node.path = node'.path := hpath.trans hpath'.symm
  refine hdescribes.unique hdescribes' ?_ hsame
  rw [← hname, ← hname', hsame]

/-! ### Covering a forest -/

mutual

/-- A node and all that is below it have descriptors, on the type and the types it leads to. -/
def CoversNode (reg : Registry) (eager : Eager) (found : Descriptors) :
    PathNode → String → Prop
  | ⟨name, path, columns, children⟩, type =>
    ∃ d, found.lookup (type, path) = some d ∧
      Prepared reg eager type ⟨name, path, columns, children⟩ d ∧
      ∀ target ∈ targets d, (∃ s, reg.schema target = .ok s) ∧
        CoversNodes reg eager found children target

def CoversNodes (reg : Registry) (eager : Eager) (found : Descriptors) :
    List PathNode → String → Prop
  | [], _ => True
  | node :: rest, type =>
    CoversNode reg eager found node type ∧ CoversNodes reg eager found rest type

end

theorem coversNode_iff {eager : Eager} {found : Descriptors} {node : PathNode} {type : String} :
    CoversNode reg eager found node type ↔ ∃ d, found.lookup (type, node.path) = some d ∧
      Prepared reg eager type node d ∧ ∀ target ∈ targets d,
        (∃ s, reg.schema target = .ok s) ∧ CoversNodes reg eager found node.children target := by
  obtain ⟨name, path, columns, children⟩ := node
  rw [CoversNode]

theorem CoversNodes.of_mem {eager : Eager} {found : Descriptors} {nodes : List PathNode}
    {type : String} (h : CoversNodes reg eager found nodes type) {node : PathNode}
    (hnode : node ∈ nodes) : CoversNode reg eager found node type := by
  induction nodes with
  | nil => cases hnode
  | cons first rest ih =>
    rw [CoversNodes] at h
    rcases List.mem_cons.1 hnode with rfl | hnode
    · exact h.1
    · exact ih h.2 hnode

mutual

theorem CoversNode.mono {eager : Eager} {found found' : Descriptors}
    (hext : Extends found found') : (node : PathNode) → (type : String) →
    CoversNode reg eager found node type → CoversNode reg eager found' node type
  | ⟨name, path, columns, children⟩, type, h => by
    rw [CoversNode] at h ⊢
    obtain ⟨d, hlookup, hprepared, htargets⟩ := h
    refine ⟨d, hext _ _ hlookup, hprepared, fun target ht => ?_⟩
    exact ⟨(htargets target ht).1, CoversNodes.mono hext children target (htargets target ht).2⟩

theorem CoversNodes.mono {eager : Eager} {found found' : Descriptors}
    (hext : Extends found found') : (nodes : List PathNode) → (type : String) →
    CoversNodes reg eager found nodes type → CoversNodes reg eager found' nodes type
  | [], _, _ => by
    rw [CoversNodes]
    trivial
  | node :: rest, type, h => by
    rw [CoversNodes] at h ⊢
    exact ⟨CoversNode.mono hext node type h.1, CoversNodes.mono hext rest type h.2⟩

end

theorem finds_forTypes {step : String → Descriptors → Run reg σ Descriptors}
    {I : Descriptors → Prop} {C : String → Descriptors → Prop}
    (hmono : ∀ t f f', Extends f f' → C t f → C t f')
    (hstep : ∀ t f, I f → Finds (step t f) fun f' => I f' ∧ Extends f f' ∧ C t f')
    (types : List String) {found : Descriptors} (hfound : I found) :
    Finds (forTypes step types found) fun found' =>
      I found' ∧ Extends found found' ∧ ∀ t ∈ types, C t found' := by
  induction types generalizing found with
  | nil => exact Ensures.pure ⟨hfound, .refl found, by simp⟩
  | cons type rest ih =>
    refine (hstep type found hfound).bind fun f hf => ?_
    obtain ⟨hI, hext, hC⟩ := hf
    refine (ih hI).imp fun f' hf' => ?_
    obtain ⟨hI', hext', hall⟩ := hf'
    exact ⟨hI', hext.trans hext', List.forall_mem_cons.2 ⟨hmono _ _ _ hext' hC, hall⟩⟩

/-- However the types are walked, the step is taken for all of them. -/
theorem finds_walkTypes {step : String → Descriptors → Run reg σ Descriptors}
    {I : Descriptors → Prop} {C : String → Descriptors → Prop}
    (hmono : ∀ t f f', Extends f f' → C t f → C t f')
    (hstep : ∀ t f, I f → Finds (step t f) fun f' => I f' ∧ Extends f f' ∧ C t f')
    (types : List String) {found : Descriptors} (hfound : I found) :
    Finds (walkTypes step types found) fun found' =>
      I found' ∧ Extends found found' ∧ ∀ t ∈ types, C t found' := by
  refine (ensures_walk types).bind fun order hperm => ?_
  refine (finds_forTypes hmono hstep order hfound).imp fun found' h => ?_
  exact ⟨h.1, h.2.1, fun t ht => h.2.2 t (hperm.mem_iff.2 ht)⟩

/-- The step of planning at one node. -/
theorem finds_prepareNode_step {eager : Eager} (node : PathNode)
    (hname : lastSegment node.path = node.name)
    (hchildren : ∀ target f, Consistent reg σ eager f →
      Finds (prepareNodes eager node.children target f : Run reg σ Descriptors) fun f' =>
        Consistent reg σ eager f' ∧ Extends f f' ∧ CoversNodes reg eager f' node.children target)
    (type : String) {found : Descriptors} (hfound : Consistent reg σ eager found) :
    Finds (prepareNode eager node type found : Run reg σ Descriptors) fun found' =>
      Consistent reg σ eager found' ∧ Extends found found' ∧
        CoversNode reg eager found' node type := by
  obtain ⟨name, path, columns, children⟩ := node
  have hstep : ∀ target f, Consistent reg σ eager f →
      Finds (schema target >>= fun _ => prepareNodes eager children target f :
        Run reg σ Descriptors) fun f' =>
        Consistent reg σ eager f' ∧ Extends f f' ∧ (∃ s, reg.schema target = .ok s) ∧
          CoversNodes reg eager f' children target := by
    intro target f hf
    refine (ensures_schema target).finds.bind fun s _ => ?_
    refine (hchildren target f hf).imp fun f' hf' => ?_
    exact ⟨hf'.1, hf'.2.1, ⟨s.val, s.property⟩, hf'.2.2⟩
  rw [prepareNode]
  refine (finds_describe eager type _).reached.bind fun d hd => ?_
  obtain ⟨hprepared, hdescribes⟩ := hd
  refine (finds_walkTypes (fun target f f' hext h =>
    ⟨h.1, CoversNodes.mono hext children target h.2⟩) hstep (targets d) hfound).bind ?_
  intro f hf
  obtain ⟨hf, hext, htargets⟩ := hf
  have hcons := extends_cons hf hname hdescribes
  refine Ensures.pure ⟨consistent_cons hf hname hdescribes, hext.trans hcons, ?_⟩
  rw [CoversNode]
  refine ⟨d, List.lookup_cons_self, hprepared, fun target ht => ?_⟩
  exact ⟨(htargets target ht).1, CoversNodes.mono hcons children target (htargets target ht).2⟩

theorem finds_prepareNodes_of {eager : Eager} {nodes : List PathNode}
    (hnodes : ∀ node ∈ nodes, node.IsNamed → ∀ type found, Consistent reg σ eager found →
      Finds (prepareNode eager node type found : Run reg σ Descriptors) fun found' =>
        Consistent reg σ eager found' ∧ Extends found found' ∧
          CoversNode reg eager found' node type)
    (hnamed : AreNamed nodes) (type : String) {found : Descriptors}
    (hfound : Consistent reg σ eager found) :
    Finds (prepareNodes eager nodes type found : Run reg σ Descriptors) fun found' =>
      Consistent reg σ eager found' ∧ Extends found found' ∧
        CoversNodes reg eager found' nodes type := by
  induction nodes generalizing found with
  | nil =>
    rw [prepareNodes]
    exact Ensures.pure ⟨hfound, .refl found, by rw [CoversNodes]; trivial⟩
  | cons node rest ih =>
    rw [AreNamed] at hnamed
    rw [prepareNodes]
    refine (hnodes node (by simp) hnamed.1 type found hfound).bind fun f hf => ?_
    obtain ⟨hf, hext, hnode⟩ := hf
    refine (ih (fun node h => hnodes node (List.mem_cons_of_mem _ h)) hnamed.2 hf).mono
      (fun _ => id) (fun _ => id) fun f' hf' => ?_
    obtain ⟨hf', hext', hrest⟩ := hf'
    refine ⟨hf', hext.trans hext', ?_⟩
    rw [CoversNodes]
    exact ⟨CoversNode.mono hext' node type hnode, hrest⟩

theorem finds_prepareNode (eager : Eager) (node : PathNode) (hnamed : node.IsNamed)
    (type : String) (found : Descriptors) (hfound : Consistent reg σ eager found) :
    Finds (prepareNode eager node type found : Run reg σ Descriptors) fun found' =>
      Consistent reg σ eager found' ∧ Extends found found' ∧
        CoversNode reg eager found' node type := by
  induction node using PathNode.induct generalizing type found with
  | mk name path columns children ih =>
    rw [PathNode.IsNamed] at hnamed
    have hchildren : ∀ target f, Consistent reg σ eager f → _ := fun target f hf =>
      finds_prepareNodes_of (fun child hc hn t f hf => ih child hc hn t f hf) hnamed.2 target hf
    exact finds_prepareNode_step ⟨name, path, columns, children⟩ hnamed.1 hchildren type
      hfound

theorem finds_prepareNodes (eager : Eager) {nodes : List PathNode} (hnamed : AreNamed nodes)
    (type : String) (found : Descriptors) (hfound : Consistent reg σ eager found) :
    Finds (prepareNodes eager nodes type found : Run reg σ Descriptors) fun found' =>
      Consistent reg σ eager found' ∧ Extends found found' ∧
        CoversNodes reg eager found' nodes type :=
  finds_prepareNodes_of (fun node _ => finds_prepareNode eager node) hnamed type hfound

/-- What planning a request for a type establishes. -/
structure Suits (reg : Registry) (σ : Type) (eager : Eager) (type : String) (plan : Plan) :
    Prop where
  eager_eq : plan.eager = eager
  exists_schema : ∃ s, reg.schema type = .ok s
  consistent : Consistent reg σ eager plan.descriptors
  covers : CoversNodes reg eager plan.descriptors plan.nodes type

/-- **A plan covers its forest**, and planning issues nothing. -/
theorem finds_make (eager : Eager) (type : String) :
    Finds (make eager type : Run reg σ Plan) (Suits reg σ eager type) := by
  have hparse : Finds (MonadExcept.ofExcept (parsePaths eager.paths) : Run reg σ _) AreNamed := by
    refine ensures_ofExcept ?_
    cases h : parsePaths eager.paths with
    | error why => trivial
    | ok nodes => exact areNamed_parsePaths h
  refine hparse.bind fun nodes hnodes => ?_
  refine (ensures_schema type).finds.bind fun s _ => ?_
  refine (finds_prepareNodes eager hnodes type [] (by simp [Consistent])).bind
    fun f hf => ?_
  exact Ensures.pure ⟨rfl, ⟨s.val, s.property⟩, hf.1, hf.2.2⟩

/-- A descriptor of a plan is that of a node that was described. -/
theorem Suits.exists_prepared {eager : Eager} {type type' : String} {plan : Plan}
    {node : PathNode} {d : Descriptor} (h : Suits reg σ eager type plan)
    (hd : plan.descriptor? type' node = some d) :
    ∃ node', node'.path = node.path ∧ Prepared reg eager type' node' d := by
  obtain ⟨node', hpath, -, w, w', hdescribe⟩ := h.consistent _ (Catalog.mem_of_lookup hd)
  exact ⟨node', hpath, (finds_describe eager type' node').of_ok hdescribe⟩

/-! ### Plans do not depend on the world -/

/-- A node is described alike in two worlds in which owner types are walked alike. -/
theorem agrees_planned {view : View reg σ} (hview : view.Sound)
    (howners : ∀ (info : RelationInfo) parent key types,
      Agrees view (info.walkOwners parent key types : Run reg σ Unit))
    (eager : Eager) (type : String) (node : PathNode) :
    Agrees view (describe eager type node : Run reg σ Descriptor) := by
  refine (hview.schema type).bind fun s => (hview.ofExcept _).bind fun info => ?_
  refine (info.agrees_describe hview (howners info _) _).bind fun d => Agrees.bind ?_ fun _ =>
    (hview.checkNames _).bind fun _ => Agrees.pure d
  cases node.columns with
  | none => exact Agrees.pure ()
  | some columns => exact hview.checkNames columns

theorem steady_planned (eager : Eager) (type : String) (node : PathNode) :
    Steady (describe eager type node : Run reg σ Descriptor) :=
  agrees_planned sound_any (fun info _ => info.steady_walkOwners) eager type node

/-- What a step of planning adds to the descriptors found before it, in every world and in some
order. A step that adds nothing at all always fails. -/
def Adds (step : Descriptors → Run reg σ Descriptors) : Option Descriptors → Prop
  | none => ∀ found, Finds (step found) fun _ => False
  | some added => ∀ found, Ensures (step found) (fun _ => False) (fun _ => False) fun found' =>
      found'.Perm (added ++ found)

theorem Adds.quiet {step : Descriptors → Run reg σ Descriptors} {added : Option Descriptors}
    (h : Adds step added) (found : Descriptors) : Quiet (step found) := by
  cases added with
  | none => exact (h found).quiet
  | some added => exact (h found).quiet

/-- A step of planning that adds the same in every world. -/
def Adding (step : Descriptors → Run reg σ Descriptors) : Prop := ∃ added, Adds step added

section
variable {α : Type} {first second : Descriptors → Run reg σ Descriptors}
  {step : String → Descriptors → Run reg σ Descriptors}

theorem Adding.pure : Adding (fun found => (Pure.pure found : Run reg σ Descriptors)) :=
  ⟨some [], fun found => Ensures.pure (.refl found)⟩

theorem Adding.cons (p : (String × String) × Descriptor) :
    Adding (fun found => (Pure.pure (p :: found) : Run reg σ Descriptors)) :=
  ⟨some [p], fun _ => Ensures.pure (.refl _)⟩

theorem Adding.bind (h : Adding first) (h' : Adding second) :
    Adding fun found => first found >>= second := by
  obtain ⟨added, h⟩ := h
  obtain ⟨added', h'⟩ := h'
  cases added with
  | none => exact ⟨none, fun found => (h found).bind fun _ => False.elim⟩
  | some added =>
    cases added' with
    | none => exact ⟨none, fun found => (h found).finds.bind fun f _ => h' f⟩
    | some added' =>
      refine ⟨some (added' ++ added), fun found => (h found).bind fun f hf => ?_⟩
      refine (h' f).imp fun f' hf' => ?_
      rw [List.append_assoc]
      exact hf'.trans (hf.append_left added')

/-- What is done first comes to the same in every world. -/
theorem Adding.after {x : Run reg σ α} {step : α → Descriptors → Run reg σ Descriptors}
    (hx : Steady x) (hquiet : Quiet x) (h : ∀ a, Adding (step a)) :
    Adding fun found => x >>= fun a => step a found := by
  by_cases hok : ∃ w a w₁, x.run w = (.ok a, w₁)
  · obtain ⟨w, a, w₁, hrun⟩ := hok
    have ha := hx.ensures hquiet hrun
    obtain ⟨added, h⟩ := h a
    refine ⟨added, ?_⟩
    cases added with
    | none => exact fun found => ha.finds.bind fun _ heq => heq ▸ h found
    | some added => exact fun found => ha.bind fun _ heq => heq ▸ h found
  · refine ⟨none, fun found => hquiet.reached.bind fun a ha => ?_⟩
    obtain ⟨-, w, w₁, hrun⟩ := ha
    exact absurd ⟨w, a, w₁, hrun⟩ hok

/-- One type whose step always fails is enough. -/
theorem fails_forTypes (hquiet : ∀ type found, Quiet (step type found)) {types : List String}
    (h : ∃ type ∈ types, Adds (step type) none) (found : Descriptors) :
    Finds (forTypes step types found) fun _ => False := by
  obtain ⟨type, htype, hfails⟩ := h
  induction types generalizing found with
  | nil => cases htype
  | cons first rest ih =>
    rcases List.mem_cons.1 htype with rfl | hrest
    · exact (hfails found).bind fun _ => False.elim
    · exact (hquiet first found).bind fun f _ => ih f hrest

theorem adds_forTypes {added : String → Descriptors} {types : List String}
    (h : ∀ type ∈ types, Adds (step type) (some (added type))) :
    Adds (forTypes step types) (some (types.flatMap added)) := by
  induction types with
  | nil => exact fun found => Ensures.pure (.refl found)
  | cons type rest ih =>
    obtain ⟨htype, hrest⟩ := List.forall_mem_cons.1 h
    refine fun found => (htype found).bind fun f hf => (ih hrest f).imp fun f' hf' => ?_
    have hswap : (rest.flatMap added ++ added type).Perm (added type ++ rest.flatMap added) :=
      List.perm_append_comm
    have hall := (hf'.trans (hf.append_left _)).trans
      (List.append_assoc .. ▸ hswap.append_right found)
    rwa [List.flatMap_cons]

/-- **It does not matter in which order the types are walked.** -/
theorem Adding.walkTypes (h : ∀ type, Adding (step type)) (types : List String) :
    Adding (Plan.walkTypes step types) := by
  choose added hadded using h
  by_cases hfails : ∃ type ∈ types, added type = none
  · obtain ⟨type, htype, hnone⟩ := hfails
    refine ⟨none, fun found => (ensures_walk types).bind fun order hperm => ?_⟩
    refine fails_forTypes (fun type found => (hadded type).quiet found) ⟨type, ?_, ?_⟩ found
    · exact hperm.mem_iff.2 htype
    · exact hnone ▸ hadded type
  · have hsome : ∀ type ∈ types, Adds (step type) (some ((added type).getD [])) := by
      intro type htype
      obtain ⟨found, hfound⟩ := Option.ne_none_iff_exists'.1 fun hnone =>
        hfails ⟨type, htype, hnone⟩
      have hstep := hadded type
      rw [hfound] at hstep ⊢
      exact hstep
    refine ⟨some (types.flatMap fun type => (added type).getD []), fun found => ?_⟩
    refine (ensures_walk types).bind fun order hperm => ?_
    have horder := adds_forTypes fun type htype => hsome type (hperm.mem_iff.1 htype)
    exact (horder found).imp fun f hf => hf.trans ((hperm.flatMap_right _).append_right found)

end

theorem adding_prepareNodes_of {eager : Eager} {nodes : List PathNode} {type : String}
    (hnodes : ∀ node ∈ nodes, Adding (prepareNode eager node type : _ → Run reg σ Descriptors)) :
    Adding (prepareNodes eager nodes type : _ → Run reg σ Descriptors) := by
  induction nodes with
  | nil =>
    have hnil : (prepareNodes eager [] type : _ → Run reg σ Descriptors) = pure :=
      funext fun found => by rw [prepareNodes]
    exact hnil ▸ Adding.pure
  | cons node rest ih =>
    have hcons : (prepareNodes eager (node :: rest) type : _ → Run reg σ Descriptors) =
        fun found => prepareNode eager node type found >>= prepareNodes eager rest type :=
      funext fun found => by rw [prepareNodes]
    rw [hcons]
    exact (hnodes node (by simp)).bind (ih fun node h => hnodes node (List.mem_cons_of_mem _ h))

theorem adding_prepareNode (eager : Eager) (node : PathNode) (type : String) :
    Adding (prepareNode eager node type : _ → Run reg σ Descriptors) := by
  induction node using PathNode.induct generalizing type with
  | mk name path columns children ih =>
    rw [funext fun found => show (prepareNode eager ⟨name, path, columns, children⟩ type found :
      Run reg σ Descriptors) = _ by rw [prepareNode]]
    refine Adding.after (steady_planned eager type _) (finds_describe eager type _).quiet
      fun d => ?_
    refine Adding.bind (Adding.walkTypes (fun target => ?_) (targets d)) (Adding.cons _)
    exact Adding.after (firm_schema target).steady (ensures_schema target).quiet fun _ =>
      adding_prepareNodes_of fun child hchild => ih child hchild target

/-- A plan that a request is resolved to. -/
def Plans (reg : Registry) (σ : Type) (eager : Eager) (type : String) (plan : Plan) : Prop :=
  ∃ w w', (make eager type : Run reg σ Plan).run w = (.ok plan, w')

/-- Plans with the same descriptors, which may have been found in another order. -/
structure Same (plan plan' : Plan) : Prop where
  eager_eq : plan'.eager = plan.eager
  nodes_eq : plan'.nodes = plan.nodes
  perm : plan'.descriptors.Perm plan.descriptors

section
variable {eager : Eager} {type : String} {plan plan' : Plan}

theorem Plans.parsePaths_eq (h : Plans reg σ eager type plan) :
    parsePaths eager.paths = .ok plan.nodes := by
  obtain ⟨w, w', hrun⟩ := h
  rw [make] at hrun
  obtain ⟨nodes, w₁, hnodes, hrun⟩ := bind_eq_ok hrun
  obtain ⟨s, w₂, -, hrun⟩ := bind_eq_ok hrun
  obtain ⟨f, w₃, -, hrun⟩ := bind_eq_ok hrun
  cases hrun
  exact (ofExcept_eq_ok hnodes).1

theorem Plans.suits (h : Plans reg σ eager type plan) : Suits reg σ eager type plan := by
  obtain ⟨w, w', hrun⟩ := h
  exact (finds_make eager type).of_ok hrun

/-- **A request that can be planned can be planned in any world, and comes to the same plan** but
for the order of its descriptors, whatever the catalog has seen before and however owner types are
walked. -/
theorem Plans.ensures_make (h : Plans reg σ eager type plan) :
    Ensures (make eager type : Run reg σ Plan) (fun _ => False) (fun _ => False) plan.Same := by
  obtain ⟨s, hs⟩ := h.suits.exists_schema
  obtain ⟨w, w', hrun⟩ := h
  rw [make] at hrun ⊢
  obtain ⟨nodes, w₁, hnodes, hrun⟩ := bind_eq_ok hrun
  obtain ⟨s', w₂, -, hrun⟩ := bind_eq_ok hrun
  obtain ⟨found, w₃, hfound, hrun⟩ := bind_eq_ok hrun
  cases hrun
  refine (ensures_ofExcept_of (ofExcept_eq_ok hnodes).1).bind fun nodes' hnodes' => ?_
  refine (ensures_schema_of hs).bind fun _ _ => ?_
  obtain ⟨added, hadded⟩ : Adding (prepareNodes eager nodes type : _ → Run reg σ Descriptors) :=
    adding_prepareNodes_of fun node _ => adding_prepareNode eager node type
  cases added with
  | none => exact ((hadded []).of_ok hfound).elim
  | some added =>
    have hperm := (hadded []).of_ok hfound
    subst hnodes'
    refine (hadded []).bind fun found' hfound' => Ensures.pure ⟨rfl, rfl, hfound'.trans hperm.symm⟩

/-- Plans with the same descriptors have the same ones for every node. -/
theorem Same.descriptor?_eq (h : plan.Same plan') (hplan : Suits reg σ eager type plan) :
    plan'.descriptor? = plan.descriptor? := by
  funext type node
  exact lookup_eq_of_perm h.perm (fun _ hp _ hq => hplan.consistent.eq_of_fst_eq hp hq) _

theorem Plans.same (h : Plans reg σ eager type plan) (h' : Plans reg σ eager type plan') :
    plan.Same plan' := by
  obtain ⟨v, v', hrun⟩ := h'
  exact h.ensures_make.of_ok hrun

end

end Plan

end EntityGraph
