import EntityGraph.Proofs.Load.Planning
import EntityGraph.Proofs.Load.Siblings

/-!
# Plans for requests in another order

A node that was described can be described again in any world. So a plan stays one for its forest
with siblings in another order (`covers_of_reordered`), and a request that can be planned can be
planned in another order (`Plans.exists_reordered`). The two plans agree on every node that both
describe (`Suits.comparable`).
-/

namespace EntityGraph

namespace Plan

open Run

variable {reg : Registry} {σ : Type} {eager : Eager} {plan plan' : Plan} {node node' : PathNode}
  {type : String}

/-! ### Siblings in another order -/

theorem Prepared.of_sameRelation {d : Descriptor} (h : Prepared reg eager type node d)
    (hsame : node.SameRelation node') : Prepared reg eager type node' d := by
  obtain ⟨s, info, hs, hinfo, hd⟩ := h.exists_relation
  refine ⟨⟨s, info, hs, ?_, hd⟩, ?_, ?_⟩
  · rwa [relation, hsame.name_eq]
  · rw [hsame.columns_eq]
    exact h.columns
  · rw [hsame.path_eq]
    exact h.constraint

/-- **A plan covers its forest in any order of siblings.** -/
theorem covers_of_reordered {found : Descriptors} {nodes nodes' : List PathNode}
    (h : Reordered nodes nodes') (hcovers : CoversNodes reg eager found nodes type) :
    CoversNodes reg eager found nodes' type := by
  induction h generalizing type with
  | nil => exact hcovers
  | @cons node node' rest rest' hself _ _ ihchildren ihrest =>
    rw [CoversNodes, coversNode_iff] at hcovers ⊢
    obtain ⟨⟨d, hd, hprepared, htargets⟩, hrest⟩ := hcovers
    refine ⟨⟨d, ?_, hprepared.of_sameRelation hself, fun target ht => ?_⟩, ihrest hrest⟩
    · rwa [hself.path_eq]
    · exact ⟨(htargets target ht).1, ihchildren (htargets target ht).2⟩
  | swap rest hne =>
    rw [CoversNodes, CoversNodes] at hcovers ⊢
    exact ⟨hcovers.2.1, hcovers.1, hcovers.2.2⟩
  | trans _ _ ih ih' => exact ih' (ih hcovers)

/-! ### Describing once more -/

/-- A node that has been prepared has the descriptor that was found for another node of its name and
path. -/
theorem ensures_describe_of {d : Descriptor} (h : Describes reg σ eager type node' d)
    (hname : node'.name = node.name) (hpath : node'.path = node.path)
    (hprepared : Prepared reg eager type node d) :
    Ensures (describe eager type node : Run reg σ Descriptor) (fun _ => False) (fun _ => False)
      (· = d) := by
  obtain ⟨w, w₁, hrun⟩ := h
  rw [describe] at hrun
  obtain ⟨s, w₂, -, hrun⟩ := bind_eq_ok hrun
  obtain ⟨info, w₃, hinfo, hrun⟩ := bind_eq_ok hrun
  obtain ⟨found, w₄, hfound, hrun⟩ := bind_eq_ok hrun
  obtain ⟨-, w₅, -, hrun⟩ := bind_eq_ok hrun
  obtain ⟨-, w₆, -, hrun⟩ := bind_eq_ok hrun
  obtain ⟨rfl, -⟩ := pure_eq_ok hrun
  have hself : reg.schema s.val.type = .ok s.val := by
    rw [Registry.type_eq s.property]
    exact s.property
  have hrelation : relation s.val node = .ok info := by
    rw [relation, ← hname]
    exact (ofExcept_eq_ok hinfo).1
  rw [hpath] at hfound
  have hdescribe := (info.steady_describe _).ensures (info.finds_describe hself _).quiet hfound
  have hcolumns : Ensures (node.columns.forM checkNames : Run reg σ Unit) (fun _ => False)
      (fun _ => False) fun _ => True := by
    cases hgiven : node.columns with
    | none => exact Ensures.pure trivial
    | some columns => exact ensures_checkNames_of (hprepared.columns columns hgiven)
  refine (ensures_schema_of s.property).bind fun s' hs' => ?_
  obtain rfl : s = s' := Subtype.ext hs'
  rw [hrelation]
  refine Ensures.bind (Q := (· = info)) (Ensures.pure rfl) fun info' hinfo' => ?_
  subst hinfo'
  refine hdescribe.bind fun found' hfound' => hcolumns.bind fun _ _ => ?_
  exact (ensures_checkNames_of hprepared.constraint).bind fun _ _ => Ensures.pure hfound'

/-- A planning run that does not fail. -/
abbrev Prepares (x : Run reg σ Descriptors) : Prop :=
  Ensures x (fun _ => False) (fun _ => False) fun _ => True

theorem prepares_forTypes {step : String → Descriptors → Run reg σ Descriptors}
    {types : List String} (hstep : ∀ type ∈ types, ∀ found, Prepares (step type found))
    (found : Descriptors) : Prepares (forTypes step types found) := by
  induction types generalizing found with
  | nil => exact Ensures.pure trivial
  | cons type rest ih =>
    exact (hstep type (by simp) found).bind fun f _ =>
      ih (fun type h => hstep type (List.mem_cons_of_mem _ h)) f

theorem prepares_walkTypes {step : String → Descriptors → Run reg σ Descriptors}
    {types : List String} (hstep : ∀ type ∈ types, ∀ found, Prepares (step type found))
    (found : Descriptors) : Prepares (walkTypes step types found) :=
  (ensures_walk types).bind fun _ hperm =>
    prepares_forTypes (fun type htype => hstep type (hperm.mem_iff.1 htype)) found

theorem prepares_prepareNodes_of {nodes : List PathNode} {type : String}
    (hnodes : ∀ node ∈ nodes, ∀ found, Prepares (prepareNode eager node type found : Run reg σ _))
    (found : Descriptors) : Prepares (prepareNodes eager nodes type found : Run reg σ _) := by
  induction nodes generalizing found with
  | nil =>
    rw [prepareNodes]
    exact Ensures.pure trivial
  | cons node rest ih =>
    rw [prepareNodes]
    exact (hnodes node (by simp) found).bind fun f _ =>
      ih (fun node h => hnodes node (List.mem_cons_of_mem _ h)) f

/-- **What a plan covers is planned without fail**, whatever paths are requested. -/
theorem prepares_of_covers {found : Descriptors} (hfound : Consistent reg σ eager found)
    {node : PathNode} (hnamed : node.IsNamed) {type : String}
    (h : CoversNode reg eager found node type) (paths : List String) (found' : Descriptors) :
    Prepares (prepareNode { eager with paths := paths } node type found' : Run reg σ _) := by
  induction node using PathNode.induct generalizing type found' with
  | mk name path columns children ih =>
    rw [PathNode.IsNamed] at hnamed
    obtain ⟨d, hd, hprepared, htargets⟩ := coversNode_iff.1 h
    obtain ⟨node, hpath, hname, hdescribes⟩ := hfound _ (Catalog.mem_of_lookup hd)
    have hsame : node.name = name := by rw [← hname, hpath, hnamed.1]
    rw [prepareNode]
    refine (ensures_describe_of hdescribes hsame hpath hprepared).bind fun d' hd' => ?_
    subst hd'
    have hstep : ∀ target ∈ targets d', ∀ f, Prepares (schema target >>= fun _ =>
        prepareNodes { eager with paths := paths } children target f : Run reg σ _) := by
      intro target ht f
      obtain ⟨⟨s, hs⟩, hchildren⟩ := htargets target ht
      refine (ensures_schema_of hs).bind fun _ _ => ?_
      refine prepares_prepareNodes_of (fun child hchild found' => ?_) f
      exact ih child hchild (hnamed.2.of_mem hchild) (hchildren.of_mem hchild) found'
    exact (prepares_walkTypes hstep found').bind fun _ _ => Ensures.pure trivial

/-! ### Requests in another order -/

/-- A request that can be planned can be planned in another order, in any world. -/
theorem Plans.exists_reordered {paths : List String} (h : Plans reg σ eager type plan)
    (hperm : eager.paths.Perm paths) (hagree : AgreeOnColumns eager.paths) (v : World reg σ) :
    ∃ plan' v₁, (make { eager with paths := paths } type).run v = (.ok plan', v₁) ∧
      Reordered plan.nodes plan'.nodes := by
  obtain ⟨nodes', hnodes', hreordered⟩ := parsePaths_perm hperm hagree h.parsePaths_eq
  have hcovers := covers_of_reordered hreordered h.suits.covers
  have hnamed := areNamed_parsePaths hnodes'
  obtain ⟨s, hs⟩ := h.suits.exists_schema
  have hmake : Ensures (make { eager with paths := paths } type : Run reg σ Plan)
      (fun _ => False) (fun _ => False) fun plan' => plan'.nodes = nodes' := by
    refine Ensures.bind (Q := (· = nodes')) (ensures_ofExcept ?_) fun nodes hnodes => ?_
    · rw [hnodes']
      exact rfl
    subst hnodes
    refine (ensures_schema_of hs).bind fun _ _ => ?_
    refine Ensures.bind (Q := fun _ => True) ?_ fun found _ => Ensures.pure rfl
    refine prepares_prepareNodes_of (fun node hnode found => ?_) []
    exact prepares_of_covers h.suits.consistent (hnamed.of_mem hnode) (hcovers.of_mem hnode) paths
      found
  obtain ⟨plan', v₁, hrun, rfl⟩ := hmake.exists_ok v
  exact ⟨plan', v₁, hrun, hreordered⟩

/-- Plans with the same constraints whose descriptors are those of nodes on types. -/
structure Comparable (plan plan' : Plan) : Prop where
  constraints_eq : plan'.eager.constraints = plan.eager.constraints
  descriptor_eq : ∀ type node d d', plan.descriptor? type node = some d →
    plan'.descriptor? type node = some d' → d' = d

/-- Plans for one request with different paths are comparable. -/
theorem Suits.comparable {paths : List String} (h : Suits reg σ eager type plan)
    (h' : Suits reg σ { eager with paths := paths } type plan') : Comparable plan plan' := by
  refine ⟨by rw [h.eager_eq, h'.eager_eq], fun type node d d' hd hd' => ?_⟩
  obtain ⟨node₁, hpath, hname, hdescribes⟩ := h.consistent _ (Catalog.mem_of_lookup hd)
  obtain ⟨node₂, hpath', hname', hdescribes'⟩ := h'.consistent _ (Catalog.mem_of_lookup hd')
  -- what is described does not depend on the paths that are requested
  have hdescribes₂ : Describes reg σ eager type node₂ d' := hdescribes'
  refine hdescribes₂.unique hdescribes ?_ (hpath'.trans hpath.symm)
  rw [← hname, ← hname', hpath, hpath']

end Plan

end EntityGraph
