import EntityGraph.Proofs.Load.Forest
import Mathlib.Data.List.Perm.Basic

/-!
# Requests in another order

Requests that are given in another order lead to a forest with the same nodes, whose siblings stand
in another order (`parsePaths_perm`). This takes that no two requests give different columns to one
path, since the columns given last are those that count.
-/

namespace EntityGraph

/-! ### Forests up to the order of siblings -/

/-- Nodes that ask for the same relation and columns, whatever they ask for below. -/
structure PathNode.SameRelation (node node' : PathNode) : Prop where
  name_eq : node'.name = node.name
  path_eq : node'.path = node.path
  columns_eq : node'.columns = node.columns

/-- Forests with the same nodes, where siblings may stand in another order. Siblings that change
places have different names. -/
inductive Reordered : List PathNode → List PathNode → Prop
  | nil : Reordered [] []
  | cons {node node' : PathNode} {rest rest' : List PathNode} : node.SameRelation node' →
      Reordered node.children node'.children → Reordered rest rest' →
      Reordered (node :: rest) (node' :: rest')
  | swap {node other : PathNode} (rest : List PathNode) :
      node.name ≠ other.name → Reordered (node :: other :: rest) (other :: node :: rest)
  | trans {nodes nodes' nodes'' : List PathNode} :
      Reordered nodes nodes' → Reordered nodes' nodes'' → Reordered nodes nodes''

/-- Nodes that differ in the order of what is below them. -/
def PathNode.Reordered (node node' : PathNode) : Prop :=
  node.SameRelation node' ∧ EntityGraph.Reordered node.children node'.children

theorem Reordered.cons_of {node node' : PathNode} {rest rest' : List PathNode}
    (h : node.Reordered node') (hrest : Reordered rest rest') :
    Reordered (node :: rest) (node' :: rest') :=
  .cons h.1 h.2 hrest

theorem Reordered.refl (nodes : List PathNode) : Reordered nodes nodes := by
  have hlist : ∀ {nodes : List PathNode},
      (∀ node ∈ nodes, Reordered node.children node.children) → Reordered nodes nodes := by
    intro nodes h
    induction nodes with
    | nil => exact .nil
    | cons node rest ih =>
      exact .cons ⟨rfl, rfl, rfl⟩ (h node (by simp)) (ih (List.forall_mem_cons.1 h).2)
  refine hlist fun node hnode => ?_
  clear hnode
  induction node using PathNode.induct with
  | mk name path columns children ih => exact hlist ih

theorem PathNode.Reordered.refl (node : PathNode) : node.Reordered node :=
  ⟨⟨rfl, rfl, rfl⟩, .refl _⟩

/-! ### Growing -/

section
variable {name path : String} {grow grow' : PathNode → PathNode}

theorem reordered_growNode (hgrow : ∀ node, (grow node).Reordered (grow' node))
    (nodes : List PathNode) :
    Reordered (growNode name path grow nodes) (growNode name path grow' nodes) := by
  induction nodes with
  | nil => exact .cons_of (hgrow _) .nil
  | cons node rest ih =>
    rw [growNode, growNode]
    split
    · exact .cons_of (hgrow node) (.refl rest)
    · exact .cons_of (.refl node) ih

/-- Growing a node does not depend on the order of its siblings. -/
theorem Reordered.growNode (hname : ∀ node, (grow node).name = node.name)
    (hgrow : ∀ node node', node.Reordered node' → (grow node).Reordered (grow node'))
    {nodes nodes' : List PathNode} (h : Reordered nodes nodes') :
    Reordered (growNode name path grow nodes) (growNode name path grow nodes') := by
  induction h with
  | nil => exact .refl _
  | @cons node node' rest rest' hself hchildren hrest _ ih =>
    rw [EntityGraph.growNode, EntityGraph.growNode, hself.name_eq]
    split
    · exact .cons_of (hgrow node node' ⟨hself, hchildren⟩) hrest
    · exact .cons hself hchildren ih
  | @swap node other rest hne =>
    rw [EntityGraph.growNode, EntityGraph.growNode, EntityGraph.growNode, EntityGraph.growNode]
    by_cases hnode : node.name = name
    · have hother : other.name ≠ name := fun h => hne (hnode.trans h.symm)
      rw [if_pos hnode, if_neg hother, if_pos hnode]
      exact .swap rest (by rwa [hname])
    · rw [if_neg hnode, if_neg hnode]
      split
      · exact .swap rest (by rwa [hname])
      · exact .swap _ hne
  | trans _ _ ih ih' => exact ih.trans ih'

theorem growNode_growNode (hname : ∀ node, (grow' node).name = node.name) (nodes : List PathNode) :
    growNode name path grow (growNode name path grow' nodes)
      = growNode name path (fun node => grow (grow' node)) nodes := by
  induction nodes with
  | nil =>
    rw [growNode, growNode, growNode, if_pos]
    rw [hname]
  | cons node rest ih =>
    rw [growNode]
    split
    · next hnode => rw [growNode, growNode, if_pos (by rwa [hname]), if_pos hnode]
    · next hnode => rw [growNode, growNode, if_neg hnode, if_neg hnode, ih]

/-- Nodes of different names grow in either order. -/
theorem growNode_comm (hname : ∀ node, (grow node).name = node.name)
    (hname' : ∀ node, (grow' node).name = node.name) {other : String} (hne : name ≠ other)
    {path' : String} (nodes : List PathNode) :
    Reordered (growNode name path grow (growNode other path' grow' nodes))
      (growNode other path' grow' (growNode name path grow nodes)) := by
  induction nodes with
  | nil =>
    have hother : (grow' ⟨other, path', none, []⟩).name ≠ name := by
      rw [hname']
      exact hne.symm
    have hthis : (grow ⟨name, path, none, []⟩).name ≠ other := by
      rw [hname]
      exact hne
    rw [growNode, growNode, growNode, if_neg hother, growNode, growNode, if_neg hthis, growNode]
    refine .swap [] ?_
    rw [hname, hname']
    exact hne.symm
  | cons node rest ih =>
    rw [growNode.eq_2 other, growNode.eq_2 name]
    by_cases hnode : node.name = name
    · have hother : node.name ≠ other := fun h => hne (hnode.symm.trans h)
      have hgrown : (grow node).name ≠ other := by rwa [hname]
      rw [if_neg hother, if_pos hnode, growNode, growNode, if_pos hnode, if_neg hgrown]
      exact .refl _
    · rw [if_neg hnode]
      by_cases hother : node.name = other
      · have hgrown : (grow' node).name ≠ name := by rwa [hname']
        rw [if_pos hother, growNode, growNode, if_neg hgrown, if_pos hother]
        exact .refl _
      · rw [if_neg hother, growNode, growNode, if_neg hnode, if_neg hother]
        exact .cons_of (.refl node) ih

end

/-! ### Requests -/

/-- What the rest of a request does to the node of its first name. -/
def growBy (columns : Option (List String)) (path : String) (rest : List String)
    (node : PathNode) : PathNode :=
  { node with
    columns := if rest.isEmpty then columns <|> node.columns else node.columns
    children := addRequest columns path rest node.children }

theorem name_growBy (columns : Option (List String)) (path : String) (rest : List String)
    (node : PathNode) : (growBy columns path rest node).name = node.name := rfl

theorem addRequest_cons (columns : Option (List String)) (above name : String)
    (rest : List String) (nodes : List PathNode) :
    addRequest columns above (name :: rest) nodes
      = growNode name (childPath above name) (growBy columns (childPath above name) rest) nodes :=
  rfl

/-- Adding a request does not depend on the order of siblings. -/
theorem Reordered.addRequest (columns : Option (List String)) {nodes nodes' : List PathNode}
    (h : Reordered nodes nodes') (above : String) (names : List String) :
    Reordered (addRequest columns above names nodes) (addRequest columns above names nodes') := by
  induction names generalizing above nodes nodes' with
  | nil => simpa [EntityGraph.addRequest] using h
  | cons name rest ih =>
    rw [addRequest_cons, addRequest_cons]
    refine h.growNode (name_growBy columns _ rest) fun node node' hnode => ?_
    obtain ⟨⟨hname, hpath, hcolumns⟩, hchildren⟩ := hnode
    refine ⟨⟨hname, hpath, ?_⟩, ih hchildren _⟩
    rw [growBy, growBy, hcolumns]

/-- Requests for one path do not give different columns. -/
def PathRequest.Agrees (r r' : PathRequest) : Prop :=
  r.names = r'.names → ∀ columns ∈ r.columns, ∀ columns' ∈ r'.columns, columns = columns'

instance (r r' : PathRequest) : Decidable (r.Agrees r') :=
  inferInstanceAs (Decidable (_ → _))

/-- No path is given different columns. -/
def AgreeOnColumns (texts : List String) : Prop :=
  ∀ text ∈ texts, ∀ text' ∈ texts, ∀ r ∈ (PathRequest.read text).toOption,
    ∀ r' ∈ (PathRequest.read text').toOption, r.Agrees r'

instance (texts : List String) : Decidable (AgreeOnColumns texts) :=
  inferInstanceAs (Decidable (∀ text ∈ texts, _))

theorem orElse_comm_of {α : Type} {a b : Option α} (h : ∀ x ∈ a, ∀ y ∈ b, x = y) (c : Option α) :
    (a <|> (b <|> c)) = (b <|> (a <|> c)) := by
  cases a with
  | none => cases b <;> rfl
  | some x =>
    cases b with
    | none => rfl
    | some y => rw [h x rfl y rfl]

/-- **Requests are added in either order**, unless they give different columns to one path. -/
theorem addRequest_comm {columns columns' : Option (List String)} {names names' : List String}
    (h : PathRequest.Agrees ⟨names, columns⟩ ⟨names', columns'⟩) (above : String)
    (nodes : List PathNode) :
    Reordered (addRequest columns above names (addRequest columns' above names' nodes))
      (addRequest columns' above names' (addRequest columns above names nodes)) := by
  induction names generalizing above names' nodes with
  | nil =>
    rw [addRequest, addRequest]
    exact .refl _
  | cons name rest ih =>
    cases names' with
    | nil =>
      rw [addRequest.eq_1 columns', addRequest.eq_1 columns']
      exact .refl _
    | cons name' rest' =>
      simp only [addRequest_cons]
      by_cases hname : name = name'
      · subst hname
        rw [growNode_growNode (name_growBy columns' _ rest'),
          growNode_growNode (name_growBy columns _ rest)]
        have hagree : PathRequest.Agrees ⟨rest, columns⟩ ⟨rest', columns'⟩ :=
          fun hsame => h (congrArg (List.cons name) hsame)
        refine reordered_growNode (fun node => ?_) nodes
        refine ⟨⟨rfl, rfl, ?_⟩, ih hagree _ _⟩
        simp only [growBy]
        by_cases hrest : rest = [] <;> by_cases hrest' : rest' = []
        · subst hrest hrest'
          exact (orElse_comm_of (h rfl) _).symm
        all_goals simp [hrest, hrest']
      · exact growNode_comm (name_growBy columns _ rest) (name_growBy columns' _ rest') hname nodes

theorem Reordered.foldl {nodes nodes' : List PathNode} (h : Reordered nodes nodes')
    (requests : List PathRequest) :
    Reordered (requests.foldl PathRequest.addTo nodes)
      (requests.foldl PathRequest.addTo nodes') := by
  induction requests generalizing nodes nodes' with
  | nil => exact h
  | cons r rest ih => exact ih (h.addRequest r.columns "" r.names)

theorem reordered_foldl {requests requests' : List PathRequest} (h : requests.Perm requests')
    (hagree : ∀ r ∈ requests, ∀ r' ∈ requests, r.Agrees r') (nodes : List PathNode) :
    Reordered (requests.foldl PathRequest.addTo nodes)
      (requests'.foldl PathRequest.addTo nodes) := by
  induction h generalizing nodes with
  | nil => exact .refl nodes
  | cons r _ ih =>
    refine ih (fun r hr r' hr' => ?_) _
    exact hagree r (List.mem_cons_of_mem _ hr) r' (List.mem_cons_of_mem _ hr')
  | swap r r' rest =>
    have hcomm := addRequest_comm (hagree r (by simp) r' (by simp)) "" nodes
    exact hcomm.foldl rest
  | trans hfirst _ ih ih' =>
    refine (ih hagree nodes).trans (ih' (fun r hr r' hr' => ?_) nodes)
    exact hagree r (hfirst.mem_iff.2 hr) r' (hfirst.mem_iff.2 hr')

/-! ### Whole forests -/

/-- **Requests in another order lead to the same forest, up to the order of siblings**, unless they
give different columns to one path. -/
theorem parsePaths_perm {texts texts' : List String} (h : texts.Perm texts')
    (hagree : AgreeOnColumns texts) {nodes : List PathNode}
    (hnodes : parsePaths texts = .ok nodes) :
    ∃ nodes', parsePaths texts' = .ok nodes' ∧ Reordered nodes nodes' := by
  obtain ⟨requests, hread, rfl⟩ := parsePaths_eq_ok hnodes
  obtain ⟨requests', hread', hperm⟩ := List.perm_comp_forall₂ h.symm hread
  refine ⟨requests'.foldl PathRequest.addTo [], ?_, reordered_foldl hperm.symm ?_ []⟩
  · rw [parsePaths, mapM_eq_ok_of_forall₂ hread']
    rfl
  · intro r hr r' hr'
    obtain ⟨i, hi, rfl⟩ := List.getElem_of_mem hr
    obtain ⟨j, hj, rfl⟩ := List.getElem_of_mem hr'
    have hlt : i < texts.length := hread.length_eq ▸ hi
    have hlt' : j < texts.length := hread.length_eq ▸ hj
    refine hagree texts[i] (List.getElem_mem hlt) texts[j] (List.getElem_mem hlt') _ ?_ _ ?_
    · rw [show PathRequest.read texts[i] = _ from hread.get hlt hi]
      rfl
    · rw [show PathRequest.read texts[j] = _ from hread.get hlt' hj]
      rfl

end EntityGraph
