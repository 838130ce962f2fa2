import EntityGraph.Proofs.Load.Paths
import Mathlib.Data.List.Nodup

/-!
# The forest of a request

Requests are merged by their beginnings: the forest has one node for every beginning of a request
and no other nodes (`nodup_routes_parsePaths`, `mem_routes_parsePaths`). A node is reached by the
names on the way to it, and its path is these names joined by points (`path_nodeAt?_parsePaths`).
-/

namespace EntityGraph

mutual

/-- The names on the way to a node, and to all nodes below it. -/
def PathNode.routes : PathNode → List (List String)
  | ⟨name, _, _, children⟩ => [name] :: (routesOf children).map (name :: ·)

/-- The names on the way to every node of a forest. -/
def routesOf : List PathNode → List (List String)
  | [] => []
  | node :: rest => node.routes ++ routesOf rest

end

/-- The node that a list of names leads to. -/
def nodeAt? : List String → List PathNode → Option PathNode
  | [], _ => none
  | name :: rest, nodes =>
    match nodes.find? (·.name = name) with
    | none => none
    | some node => if rest.isEmpty then some node else nodeAt? rest node.children

/-- Names joined by points. -/
def joinedPath (names : List String) : String := names.foldl childPath ""

/-! ### Routes -/

theorem routes_eq (node : PathNode) :
    node.routes = [node.name] :: (routesOf node.children).map (node.name :: ·) := by
  obtain ⟨name, path, columns, children⟩ := node
  exact PathNode.routes.eq_1 ..

theorem nil_not_mem_routesOf (nodes : List PathNode) : [] ∉ routesOf nodes := by
  induction nodes with
  | nil => simp [routesOf]
  | cons node rest ih => simp [routesOf, routes_eq, ih]

theorem cons_mem_routesOf {name : String} {tail : List String} {nodes : List PathNode} :
    name :: tail ∈ routesOf nodes ↔
      ∃ node ∈ nodes, node.name = name ∧ (tail = [] ∨ tail ∈ routesOf node.children) := by
  induction nodes with
  | nil => simp [routesOf]
  | cons node rest ih =>
    have hnode : name :: tail ∈ node.routes ↔
        node.name = name ∧ (tail = [] ∨ tail ∈ routesOf node.children) := by
      simp only [routes_eq, List.mem_cons, List.cons.injEq, List.mem_map]
      constructor
      · rintro (⟨rfl, rfl⟩ | ⟨tail, htail, rfl, rfl⟩)
        · exact ⟨rfl, .inl rfl⟩
        · exact ⟨rfl, .inr htail⟩
      · rintro ⟨rfl, rfl | htail⟩
        · exact .inl ⟨rfl, rfl⟩
        · exact .inr ⟨tail, htail, rfl, rfl⟩
    rw [routesOf, List.mem_append, hnode, ih]
    simp

/-- Routes are distinct where siblings have distinct names. -/
theorem nodup_routesOf_cons {node : PathNode} {rest : List PathNode} :
    (routesOf (node :: rest)).Nodup ↔ (routesOf node.children).Nodup ∧
      (∀ other ∈ rest, other.name ≠ node.name) ∧ (routesOf rest).Nodup := by
  have hroutes : node.routes.Nodup ↔ (routesOf node.children).Nodup := by
    rw [routes_eq, List.nodup_cons,
      List.nodup_map_iff fun _ _ h => (List.cons.inj h).2, and_iff_right]
    intro hmem
    obtain ⟨route, hroute, heq⟩ := List.mem_map.1 hmem
    rw [(List.cons.inj heq).2] at hroute
    exact nil_not_mem_routesOf _ hroute
  rw [routesOf, List.nodup_append', hroutes]
  refine and_congr_right fun _ => and_comm.trans (and_congr_left fun _ => ?_)
  constructor
  · intro hdisjoint other hother hname
    refine hdisjoint (a := [node.name]) (by simp [routes_eq]) ?_
    exact cons_mem_routesOf.2 ⟨other, hother, hname, .inl rfl⟩
  · intro hnames route hroute hrest
    obtain ⟨tail, rfl⟩ : ∃ tail, route = node.name :: tail := by
      rw [routes_eq] at hroute
      rcases List.mem_cons.1 hroute with rfl | hroute
      · exact ⟨[], rfl⟩
      · obtain ⟨tail, -, rfl⟩ := List.mem_map.1 hroute
        exact ⟨tail, rfl⟩
    obtain ⟨other, hother, hname, -⟩ := cons_mem_routesOf.1 hrest
    exact hnames other hother hname

/-! ### Growing -/

theorem name_of_mem_growNode {name path : String} {grow : PathNode → PathNode}
    (hname : ∀ node, (grow node).name = node.name) {nodes : List PathNode} {other : String}
    (h : ∃ node ∈ growNode name path grow nodes, node.name = other) :
    other = name ∨ ∃ node ∈ nodes, node.name = other := by
  induction nodes with
  | nil =>
    obtain ⟨node, hnode, rfl⟩ := h
    obtain rfl := List.mem_singleton.1 hnode
    exact .inl (hname _)
  | cons first rest ih =>
    obtain ⟨node, hnode, rfl⟩ := h
    rw [growNode] at hnode
    split at hnode
    · next hfirst =>
      rcases List.mem_cons.1 hnode with rfl | hnode
      · exact .inl ((hname first).trans hfirst)
      · exact .inr ⟨node, List.mem_cons_of_mem _ hnode, rfl⟩
    · rcases List.mem_cons.1 hnode with rfl | hnode
      · exact .inr ⟨_, List.mem_cons_self, rfl⟩
      · refine (ih ⟨node, hnode, rfl⟩).imp_right ?_
        rintro ⟨node', hnode', heq⟩
        exact ⟨node', List.mem_cons_of_mem _ hnode', heq⟩

/-- Growing a node adds the routes that its growth adds below it. -/
theorem mem_routesOf_growNode {name path : String} {grow : PathNode → PathNode}
    (added : List String → Prop) (hname : ∀ node, (grow node).name = node.name)
    (hgrow : ∀ node tail, tail ∈ routesOf (grow node).children ↔
      tail ∈ routesOf node.children ∨ added tail) {nodes : List PathNode} {route : List String} :
    route ∈ routesOf (growNode name path grow nodes) ↔
      route ∈ routesOf nodes ∨ ∃ tail, route = name :: tail ∧ (tail = [] ∨ added tail) := by
  cases route with
  | nil => simp [nil_not_mem_routesOf]
  | cons first tail =>
    simp only [List.cons.injEq]
    induction nodes with
    | nil =>
      simp only [growNode, cons_mem_routesOf, List.mem_singleton, exists_eq_left, hname, hgrow]
      simp [routesOf, eq_comm]
    | cons node rest ih =>
      rw [growNode]
      split
      · next hnode =>
        simp only [cons_mem_routesOf, List.exists_mem_cons_iff, hname, hgrow]
        subst hnode
        constructor
        · rintro (⟨rfl, h | h | h⟩ | h)
          · exact .inl (.inl ⟨rfl, .inl h⟩)
          · exact .inl (.inl ⟨rfl, .inr h⟩)
          · exact .inr ⟨tail, ⟨rfl, rfl⟩, .inr h⟩
          · exact .inl (.inr h)
        · rintro ((⟨rfl, h | h⟩ | h) | ⟨tail, ⟨rfl, rfl⟩, h | h⟩)
          · exact .inl ⟨rfl, .inl h⟩
          · exact .inl ⟨rfl, .inr (.inl h)⟩
          · exact .inr h
          · exact .inl ⟨rfl, .inl h⟩
          · exact .inl ⟨rfl, .inr (.inr h)⟩
      · simp only [cons_mem_routesOf, List.exists_mem_cons_iff] at ih ⊢
        rw [ih, or_assoc]

theorem nodup_routesOf_growNode {name path : String} {grow : PathNode → PathNode}
    (hname : ∀ node, (grow node).name = node.name)
    (hgrow : ∀ node, (routesOf node.children).Nodup → (routesOf (grow node).children).Nodup)
    {nodes : List PathNode} (h : (routesOf nodes).Nodup) :
    (routesOf (growNode name path grow nodes)).Nodup := by
  induction nodes with
  | nil =>
    rw [growNode, nodup_routesOf_cons]
    exact ⟨hgrow _ (by simp [routesOf]), by simp, by simp [routesOf]⟩
  | cons node rest ih =>
    obtain ⟨hnode, hnames, hrest⟩ := nodup_routesOf_cons.1 h
    rw [growNode]
    split
    · exact nodup_routesOf_cons.2 ⟨hgrow node hnode, by rwa [hname], hrest⟩
    · next hne =>
      refine nodup_routesOf_cons.2 ⟨hnode, fun other hother hsame => ?_, ih hrest⟩
      obtain hnew | ⟨old, hold, heq⟩ := name_of_mem_growNode hname ⟨other, hother, hsame⟩
      · exact hne hnew
      · exact hnames old hold heq

/-- **A request adds its beginnings**, and nothing else. -/
theorem mem_routesOf_addRequest (columns : Option (List String)) {above : String}
    {names : List String} {nodes : List PathNode} {route : List String} :
    route ∈ routesOf (addRequest columns above names nodes) ↔
      route ∈ routesOf nodes ∨ (route ≠ [] ∧ route <+: names) := by
  induction names generalizing above nodes route with
  | nil =>
    simp only [addRequest, List.prefix_nil]
    tauto
  | cons name rest ih =>
    have hgrow := @ih (childPath above name)
    rw [addRequest]
    refine (mem_routesOf_growNode (fun tail => tail ≠ [] ∧ tail <+: rest) ?_ ?_).trans
      (or_congr_right ?_)
    · exact fun node => rfl
    · exact fun node tail => hgrow
    constructor
    · rintro ⟨tail, rfl, rfl | ⟨-, htail⟩⟩
      · simp
      · simpa using htail
    · rintro ⟨hne, hprefix⟩
      cases route with
      | nil => exact absurd rfl hne
      | cons first tail =>
        obtain ⟨rfl, htail⟩ := List.cons_prefix_cons.1 hprefix
        exact ⟨tail, rfl, (em (tail = [])).imp_right fun h => ⟨h, htail⟩⟩

theorem nodup_routesOf_addRequest (columns : Option (List String)) {above : String}
    {names : List String} {nodes : List PathNode} (h : (routesOf nodes).Nodup) :
    (routesOf (addRequest columns above names nodes)).Nodup := by
  induction names generalizing above nodes with
  | nil => simpa [addRequest] using h
  | cons name rest ih =>
    rw [addRequest]
    refine nodup_routesOf_growNode ?_ ?_ h
    · exact fun node => rfl
    · exact fun node hnode => ih hnode

/-! ### Paths -/

mutual

/-- The path of a node below another path, and of all nodes below it, is the path above it and its
name. -/
def PathNode.IsPlaced (above : String) : PathNode → Prop
  | ⟨name, path, _, children⟩ => path = childPath above name ∧ ArePlaced path children

def ArePlaced (above : String) : List PathNode → Prop
  | [] => True
  | node :: rest => node.IsPlaced above ∧ ArePlaced above rest

end

theorem isPlaced_iff {above : String} {node : PathNode} :
    node.IsPlaced above ↔
      node.path = childPath above node.name ∧ ArePlaced node.path node.children := by
  obtain ⟨name, path, columns, children⟩ := node
  rw [PathNode.IsPlaced]

theorem ArePlaced.of_mem {above : String} {nodes : List PathNode} (h : ArePlaced above nodes)
    {node : PathNode} (hnode : node ∈ nodes) : node.IsPlaced above := by
  induction nodes with
  | nil => cases hnode
  | cons first rest ih =>
    rw [ArePlaced] at h
    rcases List.mem_cons.1 hnode with rfl | hnode
    · exact h.1
    · exact ih h.2 hnode

theorem arePlaced_growNode {above name : String} {grow : PathNode → PathNode}
    (hgrow : ∀ node, node.name = name → node.IsPlaced above → (grow node).IsPlaced above)
    {nodes : List PathNode} (h : ArePlaced above nodes) :
    ArePlaced above (growNode name (childPath above name) grow nodes) := by
  induction nodes with
  | nil =>
    rw [growNode, ArePlaced]
    refine ⟨hgrow _ rfl (isPlaced_iff.2 ⟨rfl, ?_⟩), ?_⟩
    · rw [ArePlaced]
      trivial
    · rw [ArePlaced]
      trivial
  | cons node rest ih =>
    rw [ArePlaced] at h
    rw [growNode]
    split
    · next hname =>
      rw [ArePlaced]
      exact ⟨hgrow node hname h.1, h.2⟩
    · rw [ArePlaced]
      exact ⟨h.1, ih h.2⟩

theorem arePlaced_addRequest (columns : Option (List String)) {above : String}
    {names : List String} {nodes : List PathNode} (h : ArePlaced above nodes) :
    ArePlaced above (addRequest columns above names nodes) := by
  induction names generalizing above nodes with
  | nil => simpa [addRequest] using h
  | cons name rest ih =>
    rw [addRequest]
    refine arePlaced_growNode (fun node hname hnode => ?_) h
    obtain ⟨hpath, hchildren⟩ := isPlaced_iff.1 hnode
    rw [hpath, hname] at hchildren
    refine isPlaced_iff.2 ⟨hpath, ?_⟩
    dsimp only
    rw [hpath, hname]
    exact ih hchildren

/-! ### Nodes by their names -/

theorem isSome_nodeAt? {names : List String} {nodes : List PathNode}
    (h : (routesOf nodes).Nodup) :
    (nodeAt? names nodes).isSome = true ↔ names ∈ routesOf nodes := by
  induction names generalizing nodes with
  | nil => simp [nodeAt?, nil_not_mem_routesOf]
  | cons name rest ih =>
    rw [cons_mem_routesOf]
    induction nodes with
    | nil => simp [nodeAt?]
    | cons node others ihNodes =>
      obtain ⟨hnode, hnames, hothers⟩ := nodup_routesOf_cons.1 h
      rw [List.exists_mem_cons_iff, ← ihNodes hothers, nodeAt?, nodeAt?, List.find?_cons]
      by_cases hname : node.name = name
      · -- no other node has the name
        have hnone : others.find? (·.name = name) = none := by
          rw [List.find?_eq_none]
          subst hname
          simpa using hnames
        rw [hnone]
        simp only [hname, decide_true, true_and]
        cases rest with
        | nil => simp
        | cons next rest => simp [ih hnode]
      · simp [hname]

/-- A placed node has the path that its names make. -/
theorem path_nodeAt? {above : String} {names : List String} {nodes : List PathNode}
    (h : ArePlaced above nodes) {node : PathNode} (hnode : nodeAt? names nodes = some node) :
    node.path = names.foldl childPath above := by
  induction names generalizing above nodes with
  | nil => cases hnode
  | cons name rest ih =>
    rw [nodeAt?] at hnode
    split at hnode
    · cases hnode
    · next first hfirst =>
      obtain ⟨hpath, hchildren⟩ := isPlaced_iff.1 (h.of_mem (List.mem_of_find?_eq_some hfirst))
      have hname : first.name = name := by simpa using List.find?_some hfirst
      rw [hname] at hpath
      rw [List.foldl_cons, ← hpath]
      split at hnode
      · next hrest =>
        obtain rfl := Option.some.inj hnode
        rw [List.isEmpty_iff.1 hrest, List.foldl_nil]
      · exact ih hchildren hnode

/-! ### Whole forests -/

theorem parsePaths_eq_ok {texts : List String} {nodes : List PathNode}
    (h : parsePaths texts = .ok nodes) : ∃ requests,
      List.Forall₂ (fun text r => PathRequest.read text = .ok r) texts requests ∧
        nodes = requests.foldl PathRequest.addTo [] := by
  unfold parsePaths at h
  cases hread : texts.mapM PathRequest.read with
  | error why => simp [hread, bind, Except.bind] at h
  | ok requests =>
    simp only [hread, bind, Except.bind, pure, Except.pure, Except.ok.injEq] at h
    exact ⟨requests, forall₂_of_mapM_eq_ok hread, h.symm⟩

/-- Every text of a request that is merged is read. -/
theorem exists_read_of_parsePaths {texts : List String} {nodes : List PathNode}
    (h : parsePaths texts = .ok nodes) {text : String} (htext : text ∈ texts) :
    ∃ r, PathRequest.read text = .ok r := by
  obtain ⟨requests, hread, -⟩ := parsePaths_eq_ok h
  obtain ⟨i, hi, rfl⟩ := List.getElem_of_mem htext
  have hlt : i < requests.length := hread.length_eq ▸ hi
  exact ⟨requests[i], hread.get hi hlt⟩

/-- A property that every request keeps holds of the forest. -/
theorem parsePaths_induct {motive : List PathNode → Prop} (nil : motive [])
    (addTo : ∀ nodes (r : PathRequest), motive nodes → motive (r.addTo nodes)) {texts : List String}
    {nodes : List PathNode} (h : parsePaths texts = .ok nodes) : motive nodes := by
  obtain ⟨requests, -, rfl⟩ := parsePaths_eq_ok h
  exact List.foldlRecOn requests PathRequest.addTo nil fun nodes hnodes r _ => addTo nodes r hnodes

/-- **No two nodes of a forest are reached by the same names.** -/
theorem nodup_routes_parsePaths {texts : List String} {nodes : List PathNode}
    (h : parsePaths texts = .ok nodes) : (routesOf nodes).Nodup :=
  parsePaths_induct (motive := fun nodes => (routesOf nodes).Nodup) (by simp [routesOf])
    (fun _ r hnodes => nodup_routesOf_addRequest r.columns hnodes) h

theorem arePlaced_parsePaths {texts : List String} {nodes : List PathNode}
    (h : parsePaths texts = .ok nodes) : ArePlaced "" nodes :=
  parsePaths_induct (motive := ArePlaced "") (by rw [ArePlaced]; trivial)
    (fun _ r hnodes => arePlaced_addRequest r.columns hnodes) h

theorem mem_routesOf_foldl {requests : List PathRequest} {nodes : List PathNode}
    {route : List String} :
    route ∈ routesOf (requests.foldl PathRequest.addTo nodes) ↔
      route ∈ routesOf nodes ∨ ∃ r ∈ requests, route ≠ [] ∧ route <+: r.names := by
  induction requests generalizing nodes with
  | nil => simp
  | cons r requests ih =>
    rw [List.foldl_cons, ih, PathRequest.addTo, mem_routesOf_addRequest, List.exists_mem_cons_iff,
      or_assoc]

/-- **The nodes of a forest are the beginnings of its requests.** -/
theorem mem_routes_parsePaths {texts : List String} {nodes : List PathNode}
    (h : parsePaths texts = .ok nodes) {route : List String} :
    route ∈ routesOf nodes ↔ route ≠ [] ∧
      ∃ text ∈ texts, ∃ r, PathRequest.read text = .ok r ∧ route <+: r.names := by
  obtain ⟨requests, hread, rfl⟩ := parsePaths_eq_ok h
  rw [mem_routesOf_foldl]
  simp only [routesOf, List.not_mem_nil, false_or]
  constructor
  · rintro ⟨r, hr, hne, hprefix⟩
    obtain ⟨i, hi, rfl⟩ := List.getElem_of_mem hr
    have hlt : i < texts.length := hread.length_eq ▸ hi
    exact ⟨hne, texts[i], List.getElem_mem hlt, requests[i], hread.get hlt hi, hprefix⟩
  · rintro ⟨hne, text, htext, r, hr, hprefix⟩
    obtain ⟨i, hi, rfl⟩ := List.getElem_of_mem htext
    have hlt : i < requests.length := hread.length_eq ▸ hi
    have hsame := Except.ok.inj (hr.symm.trans (hread.get hi hlt))
    exact ⟨requests[i], List.getElem_mem hlt, hne, hsame ▸ hprefix⟩

/-- **A request leads to a node**, whose path is the names of the request joined by points. -/
theorem path_nodeAt?_parsePaths {texts : List String} {nodes : List PathNode}
    (h : parsePaths texts = .ok nodes) {names : List String} {node : PathNode}
    (hnode : nodeAt? names nodes = some node) : node.path = joinedPath names :=
  path_nodeAt? (arePlaced_parsePaths h) hnode

end EntityGraph
