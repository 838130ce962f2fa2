import EntityGraph.Proofs.Run

/-!
# Paths and names

No name in a request holds a point, so the path of a node ends in its name (`areNamed_parsePaths`):
nodes with the same path ask for the same relation, wherever in the forest they stand.
-/

namespace EntityGraph

namespace Text

theorem not_mem_of_mem_splitOn {sep : Char} {cs piece : List Char} (h : piece ∈ splitOn sep cs) :
    sep ∉ piece := by
  induction cs generalizing piece with
  | nil => simp_all [splitOn]
  | cons c cs ih =>
    rw [splitOn] at h
    split at h
    · rcases List.mem_cons.1 h with rfl | h
      · simp
      · exact ih h
    · next hc =>
      split at h
      · next hnil => exact absurd hnil (splitOn_ne_nil sep cs)
      · next first rest hsplit =>
        rcases List.mem_cons.1 h with rfl | h
        · have hfirst : sep ∉ first := ih (by simp [hsplit])
          simp [hfirst, Ne.symm hc]
        · exact ih (by simp [hsplit, h])

theorem mem_of_mem_trim {c : Char} {cs : List Char} (h : c ∈ trim cs) : c ∈ cs := by
  rw [trim, trimRight, List.mem_reverse] at h
  have hright := (List.dropWhile_sublist isBlank).mem h
  rw [List.mem_reverse, trimLeft] at hright
  exact (List.dropWhile_sublist isBlank).mem hright

end Text

/-- A name without points. -/
def IsSegment (name : String) : Prop := '.' ∉ name.toList

/-- The part of a path after its last point. -/
def lastSegment (path : String) : String :=
  String.ofList (path.toList.reverse.takeWhile (· ≠ '.')).reverse

theorem takeWhile_segment {name : String} (h : IsSegment name) (rest : List Char) :
    (name.toList.reverse ++ rest).takeWhile (· ≠ '.')
      = name.toList.reverse ++ rest.takeWhile (· ≠ '.') := by
  refine List.takeWhile_append_of_pos fun c hc => ?_
  rw [List.mem_reverse] at hc
  have hne : c ≠ '.' := fun heq => h (heq ▸ hc)
  simp [hne]

theorem lastSegment_childPath (above : String) {name : String} (h : IsSegment name) :
    lastSegment (childPath above name) = name := by
  have hname := takeWhile_segment h []
  rw [List.append_nil, List.takeWhile_nil, List.append_nil] at hname
  rw [childPath]
  split
  · rw [lastSegment, hname]
    simp
  · have hpath : (above ++ "." ++ name).toList.reverse
        = name.toList.reverse ++ '.' :: above.toList.reverse := by
      simp
    rw [lastSegment, hpath, takeWhile_segment h]
    simp

theorem isSegment_of_pieces? {cs : List Char} {names : List String}
    (h : pieces? '.' cs = some names) : ∀ name ∈ names, IsSegment name := by
  unfold pieces? at h
  dsimp only at h
  split at h
  · cases h
  · cases h
    intro name hname
    obtain ⟨piece, hpiece, rfl⟩ := List.mem_map.1 hname
    obtain ⟨segment, hsegment, rfl⟩ := List.mem_map.1 hpiece
    rw [IsSegment, String.toList_ofList]
    exact fun hpoint => Text.not_mem_of_mem_splitOn hsegment (Text.mem_of_mem_trim hpoint)

theorem isSegment_of_read {text : String} {r : PathRequest} (h : PathRequest.read text = .ok r) :
    ∀ name ∈ r.names, IsSegment name := by
  unfold PathRequest.read at h
  dsimp only at h
  split at h
  · next r' hr =>
    cases h
    unfold PathRequest.ofChars? at hr
    split at hr
    · obtain ⟨names, hnames, rfl⟩ := Option.map_eq_some_iff.1 hr
      exact isSegment_of_pieces? hnames
    · simp only [Option.bind_eq_bind, Option.bind_eq_some_iff] at hr
      obtain ⟨columns, -, names, hnames, hpure⟩ := hr
      cases hpure
      exact isSegment_of_pieces? hnames
  · cases h

/-! ### Forests -/

/-- Induction over a forest: a node has a property if all nodes right below it have it. -/
@[elab_as_elim]
theorem PathNode.induct {motive : PathNode → Prop}
    (mk : ∀ name path columns children, (∀ child ∈ children, motive child) →
      motive ⟨name, path, columns, children⟩) (node : PathNode) : motive node :=
  @PathNode.rec motive (fun children => ∀ child ∈ children, motive child) mk (by simp)
    (fun _ _ hhead htail => List.forall_mem_cons.2 ⟨hhead, htail⟩) node

mutual

/-- The path of the node ends in its name, and so for every node below. -/
def PathNode.IsNamed : PathNode → Prop
  | ⟨name, path, _, children⟩ => lastSegment path = name ∧ AreNamed children

/-- The path of every node in a forest ends in the name of the node. -/
def AreNamed : List PathNode → Prop
  | [] => True
  | node :: rest => node.IsNamed ∧ AreNamed rest

end

theorem PathNode.isNamed_iff {node : PathNode} :
    node.IsNamed ↔ lastSegment node.path = node.name ∧ AreNamed node.children := by
  obtain ⟨name, path, columns, children⟩ := node
  rw [PathNode.IsNamed]

theorem AreNamed.of_mem {nodes : List PathNode} (h : AreNamed nodes) {node : PathNode}
    (hnode : node ∈ nodes) : node.IsNamed := by
  induction nodes with
  | nil => cases hnode
  | cons first rest ih =>
    rw [AreNamed] at h
    rcases List.mem_cons.1 hnode with rfl | hnode
    · exact h.1
    · exact ih h.2 hnode

theorem areNamed_growNode {name path : String} {grow : PathNode → PathNode}
    (hpath : lastSegment path = name) (hgrow : ∀ node, node.IsNamed → (grow node).IsNamed)
    {nodes : List PathNode} (h : AreNamed nodes) : AreNamed (growNode name path grow nodes) := by
  induction nodes with
  | nil =>
    rw [growNode, AreNamed]
    refine ⟨hgrow _ ?_, trivial⟩
    rw [PathNode.IsNamed]
    exact ⟨hpath, trivial⟩
  | cons node rest ih =>
    rw [AreNamed] at h
    rw [growNode]
    split
    · exact ⟨hgrow node h.1, h.2⟩
    · exact ⟨h.1, ih h.2⟩

theorem areNamed_addRequest (columns : Option (List String)) {above : String}
    {names : List String} (hnames : ∀ name ∈ names, IsSegment name) {nodes : List PathNode}
    (h : AreNamed nodes) : AreNamed (addRequest columns above names nodes) := by
  induction names generalizing above nodes with
  | nil => simpa [addRequest] using h
  | cons name rest ih =>
    rw [addRequest]
    refine areNamed_growNode (lastSegment_childPath above (hnames name (by simp))) ?_ h
    intro node hnode
    obtain ⟨n, p, cs, children⟩ := node
    rw [PathNode.IsNamed] at hnode ⊢
    exact ⟨hnode.1, ih (fun name h => hnames name (List.mem_cons_of_mem _ h)) hnode.2⟩

theorem areNamed_addTo {rs : List PathRequest} (hrs : ∀ r ∈ rs, ∀ name ∈ r.names, IsSegment name)
    {nodes : List PathNode} (h : AreNamed nodes) : AreNamed (rs.foldl PathRequest.addTo nodes) := by
  induction rs generalizing nodes with
  | nil => exact h
  | cons r rs ih =>
    refine ih (fun r hr => hrs r (List.mem_cons_of_mem _ hr)) ?_
    exact areNamed_addRequest r.columns (hrs r (by simp)) h

/-- **In a parsed forest the path of every node ends in its name.** -/
theorem areNamed_parsePaths {texts : List String} {nodes : List PathNode}
    (h : parsePaths texts = .ok nodes) : AreNamed nodes := by
  unfold parsePaths at h
  cases hread : texts.mapM PathRequest.read with
  | error why => simp [hread, bind, Except.bind] at h
  | ok requests =>
    simp only [hread, bind, Except.bind, pure, Except.pure, Except.ok.injEq] at h
    subst h
    refine areNamed_addTo (fun r hr => ?_) trivial
    obtain ⟨text, -, hr⟩ := exists_of_mapM_eq_ok hread hr
    exact isSegment_of_read hr

end EntityGraph
