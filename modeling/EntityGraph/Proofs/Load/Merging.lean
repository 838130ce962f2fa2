import EntityGraph.Proofs.Lists
import EntityGraph.Proofs.Load.Spelling
import Mathlib

/-!
# Merging requests

Requests are added to a forest one after the other. The nodes at any place are merged in the same
way from what the requests ask for below the place (`LevelAt.eq_mergeBelow`): there is one node for
each name that is requested there, in the order of first request (`mergeBelow_eq`). With that the
texts alone say which nodes a forest has, in which order and with which columns (`IsMerge`), and
every list of texts is parsed to such a forest unless one of them has an empty name or column
(`parsePaths_merges`).
-/

namespace EntityGraph

/-! ### What a text asks for -/

/-- The trimmed pieces of a text between separators. -/
def trimmedPieces (sep : Char) (cs : List Char) : List String :=
  (cs.splitOn sep).map fun piece => String.ofList (Text.trim piece)

/-- The names of a request: what stands before its first colon, cut at the points. -/
def requestedNames (text : String) : List String :=
  trimmedPieces '.' (text.toList.takeWhile (· ≠ ':'))

/-- The columns of a request: what stands behind its first colon, cut at the commas. -/
def requestedColumns? (text : String) : Option (List String) :=
  if ':' ∈ text.toList then
    some (trimmedPieces ',' (text.toList.dropWhile (· ≠ ':')).tail)
  else none

def requestOf (text : String) : PathRequest := ⟨requestedNames text, requestedColumns? text⟩

/-- No name and no column of a request is empty. -/
def IsWellFormed (text : String) : Prop :=
  "" ∉ requestedNames text ∧ ∀ columns ∈ requestedColumns? text, "" ∉ columns

instance (text : String) : Decidable (IsWellFormed text) :=
  inferInstanceAs (Decidable ("" ∉ requestedNames text ∧
    ∀ columns ∈ requestedColumns? text, "" ∉ columns))

theorem Text.splitOn_eq (sep : Char) (cs : List Char) : Text.splitOn sep cs = cs.splitOn sep := by
  induction cs with
  | nil => rfl
  | cons c cs ih =>
    rw [Text.splitOn, ih, List.splitOn_cons_eq_if_modifyHead]
    cases hpieces : cs.splitOn sep with
    | nil => exact absurd hpieces (List.splitOn_ne_nil _ _)
    | cons piece rest => by_cases hc : c = sep <;> simp [hc]

theorem pieces?_eq (sep : Char) (cs : List Char) :
    pieces? sep cs
      = if "" ∈ trimmedPieces sep cs then none else some (trimmedPieces sep cs) := by
  have hpieces : ((Text.splitOn sep cs).map Text.trim).map String.ofList
      = trimmedPieces sep cs := by
    simp [trimmedPieces, Text.splitOn_eq, Function.comp_def]
  have hempty : ((Text.splitOn sep cs).map Text.trim).any List.isEmpty = true
      ↔ "" ∈ trimmedPieces sep cs := by
    rw [← hpieces, List.any_eq_true, List.mem_map]
    refine exists_congr fun piece => and_congr_right fun _ => ?_
    rw [List.isEmpty_iff, ← String.toList_inj, String.toList_ofList, String.toList_empty]
  rw [pieces?, hpieces]
  exact if_congr hempty rfl rfl

/-- **A text is taken apart at its first colon**, at points before it and at commas behind it. -/
theorem ofChars?_eq (text : String) :
    PathRequest.ofChars? (Text.trim text.toList)
      = if IsWellFormed text then some (requestOf text) else none := by
  by_cases hcolon : ':' ∈ text.toList
  · obtain ⟨before, after, htext, hbefore⟩ := List.eq_append_cons_of_mem hcolon
    have hneg : ∀ c ∈ before, decide (c ≠ ':') = true := fun c hc =>
      decide_eq_true fun heq => hbefore (heq ▸ hc)
    have hnames : requestedNames text = trimmedPieces '.' before := by
      rw [requestedNames, htext, List.takeWhile_append_of_pos hneg]
      simp
    have hcolumns : requestedColumns? text = some (trimmedPieces ',' after) := by
      rw [requestedColumns?, if_pos hcolon, htext, List.dropWhile_append_of_pos hneg]
      simp
    rw [htext, ofChars?_of_colon hbefore, pieces?_eq, pieces?_eq]
    simp only [IsWellFormed, requestOf, hnames, hcolumns]
    by_cases hn : "" ∈ trimmedPieces '.' before <;> by_cases hc : "" ∈ trimmedPieces ',' after <;>
      simp [hn, hc]
  · have hnames : requestedNames text = trimmedPieces '.' text.toList := by
      rw [requestedNames, List.takeWhile_eq_self_iff.2]
      exact fun c hc => decide_eq_true fun heq => hcolon (heq ▸ hc)
    have hcolumns : requestedColumns? text = none := by rw [requestedColumns?, if_neg hcolon]
    rw [ofChars?_of_no_colon hcolon, pieces?_eq]
    simp only [IsWellFormed, requestOf, hnames, hcolumns]
    by_cases hn : "" ∈ trimmedPieces '.' text.toList <;> simp [hn]

theorem read_eq (text : String) :
    PathRequest.read text =
      if IsWellFormed text then .ok (requestOf text)
      else .error (.path (String.ofList (Text.trim text.toList))) := by
  rw [PathRequest.read, ofChars?_eq]
  by_cases hwell : IsWellFormed text <;> simp [hwell]

/-! ### Merging one level -/

/-- What a request asks for below a place. -/
def PathRequest.below? (route : List String) (r : PathRequest) : Option PathRequest :=
  (r.names.dropPrefix? route).map (⟨·, r.columns⟩)

/-- The columns that a request asks for at the place that it is read from. -/
def PathRequest.columnsHere? (r : PathRequest) : Option (List String) :=
  if r.names.isEmpty then r.columns else none

/-- The nodes that are requested below a path. -/
def mergeBelow (above : String) (rs : List PathRequest) : List PathNode :=
  rs.foldl (fun nodes r => addRequest r.columns above r.names nodes) []

/-- The names that are requested first, each of them once. -/
def firstNames (rs : List PathRequest) : List String :=
  (rs.filterMap (·.names.head?)).eraseDups

/-- The node of a name: it has the columns of the last request that ends there and gives some, and
below it stands what the requests ask for below it. -/
def mergedNode (above : String) (rs : List PathRequest) (name : String) : PathNode :=
  let inner := rs.filterMap (PathRequest.below? [name])
  ⟨name, childPath above name, (inner.filterMap PathRequest.columnsHere?).getLast?,
    mergeBelow (childPath above name) inner⟩

theorem growNode_of_not_mem {name path : String} {grow : PathNode → PathNode}
    {nodes : List PathNode} (h : name ∉ nodes.map PathNode.name) :
    growNode name path grow nodes = nodes ++ [grow ⟨name, path, none, []⟩] := by
  induction nodes with
  | nil => rfl
  | cons first nodes ih =>
    rw [List.map_cons, List.mem_cons, not_or] at h
    rw [growNode, if_neg (Ne.symm h.1), ih h.2, List.cons_append]

theorem growNode_of_mem {name path : String} {grow : PathNode → PathNode} {nodes : List PathNode}
    (hnodup : (nodes.map PathNode.name).Nodup) (h : name ∈ nodes.map PathNode.name) :
    growNode name path grow nodes
      = nodes.map fun node => if node.name = name then grow node else node := by
  induction nodes with
  | nil => cases h
  | cons first nodes ih =>
    rw [List.map_cons, List.nodup_cons] at hnodup
    rw [growNode, List.map_cons]
    by_cases hsame : first.name = name
    · -- no other node has the name
      subst hsame
      have hothers : nodes.map (fun node => if node.name = first.name then grow node else node)
          = nodes.map id :=
        List.map_congr_left fun node hnode =>
          if_neg fun heq => hnodup.1 (List.mem_map.2 ⟨node, hnode, heq⟩)
      rw [hothers, List.map_id, if_pos rfl, if_pos rfl]
    · have hmem := (List.mem_cons.1 h).resolve_left (Ne.symm hsame)
      rw [if_neg hsame, if_neg hsame, ih hnodup.2 hmem]

section Merged

variable {above name : String} {rs : List PathRequest} {r inner : PathRequest}

theorem PathRequest.below?_singleton (name : String) (r : PathRequest) :
    r.below? [name] = match r.names with
      | [] => none
      | first :: rest => if first = name then some ⟨rest, r.columns⟩ else none := by
  obtain ⟨names, columns⟩ := r
  cases names with
  | nil => rfl
  | cons first rest =>
    by_cases hsame : first = name <;> simp [below?, List.dropPrefix?, hsame]

/-- Nothing is known of a name that is not requested yet. -/
theorem mergedNode_of_not_mem (h : name ∉ firstNames rs) :
    mergedNode above rs name = ⟨name, childPath above name, none, []⟩ := by
  have hnone : rs.filterMap (PathRequest.below? [name]) = [] := by
    rw [List.filterMap_eq_nil_iff]
    intro r hr
    rw [PathRequest.below?_singleton]
    split
    · rfl
    · next first rest hnames =>
      refine if_neg fun hsame => h ?_
      rw [firstNames, List.mem_eraseDups, List.mem_filterMap]
      exact ⟨r, hr, by rw [hnames, hsame]; rfl⟩
  rw [mergedNode, hnone]
  rfl

theorem mergedNode_concat_of_none (h : r.below? [name] = none) :
    mergedNode above (rs ++ [r]) name = mergedNode above rs name := by
  simp [mergedNode, List.filterMap_append, h]

theorem mergeBelow_concat (above : String) (rs : List PathRequest) (r : PathRequest) :
    mergeBelow above (rs ++ [r]) = addRequest r.columns above r.names (mergeBelow above rs) := by
  rw [mergeBelow, List.foldl_append]
  rfl

theorem mergedNode_concat_of_some (h : r.below? [name] = some inner) :
    mergedNode above (rs ++ [r]) name =
      { mergedNode above rs name with
        columns := inner.columnsHere? <|> (mergedNode above rs name).columns
        children := addRequest inner.columns (childPath above name) inner.names
          (mergedNode above rs name).children } := by
  have hinner : (rs ++ [r]).filterMap (PathRequest.below? [name])
      = rs.filterMap (PathRequest.below? [name]) ++ [inner] := by
    simp [List.filterMap_append, h]
  rw [mergedNode, hinner]
  dsimp only
  rw [mergeBelow_concat, List.filterMap_append, List.getLast?_append]
  cases hcolumns : inner.columnsHere? <;> simp [hcolumns, mergedNode]

theorem firstNames_concat (rs : List PathRequest) {r : PathRequest} {rest : List String}
    (h : r.names = name :: rest) :
    firstNames (rs ++ [r])
      = if name ∈ firstNames rs then firstNames rs else firstNames rs ++ [name] := by
  have hnames : (rs ++ [r]).filterMap (·.names.head?) = rs.filterMap (·.names.head?) ++ [name] := by
    simp [List.filterMap_append, h]
  simp only [firstNames, hnames, List.mem_eraseDups, eraseDups_concat]

/-- A request that begins with a name changes the node of the name, and no other. -/
theorem mergedNode_concat {rest : List String} (h : r.names = name :: rest) (n : String) :
    mergedNode above (rs ++ [r]) n =
      if n = name then
        { mergedNode above rs n with
          columns :=
            if rest.isEmpty then r.columns <|> (mergedNode above rs n).columns
            else (mergedNode above rs n).columns
          children := addRequest r.columns (childPath above n) rest
            (mergedNode above rs n).children }
      else mergedNode above rs n := by
  have hbelow := PathRequest.below?_singleton n r
  rw [h] at hbelow
  split
  · next hn =>
    subst hn
    rw [mergedNode_concat_of_some (hbelow.trans (if_pos rfl))]
    cases rest <;> rfl
  · next hn => exact mergedNode_concat_of_none (hbelow.trans (if_neg (Ne.symm hn)))

end Merged

theorem map_name_mergedNode (above : String) (rs : List PathRequest) (names : List String) :
    (names.map (mergedNode above rs)).map PathNode.name = names := by
  rw [List.map_map]
  exact List.map_id' _

/-- **The nodes that are requested below a path**: one for each name, in the order in which the
names are requested first. -/
theorem mergeBelow_eq (above : String) (rs : List PathRequest) :
    mergeBelow above rs = (firstNames rs).map (mergedNode above rs) := by
  induction rs using List.reverseRecOn with
  | nil => rfl
  | append_singleton rs r ih =>
    have hnames := map_name_mergedNode above rs (firstNames rs)
    rw [mergeBelow_concat, ih]
    -- the last request changes the node of its first name, or adds that node at the end
    cases hr : r.names with
    | nil =>
      have hfirst : firstNames (rs ++ [r]) = firstNames rs := by
        simp [firstNames, List.filterMap_append, hr]
      have hnone : ∀ n, r.below? [n] = none := fun n => by
        rw [PathRequest.below?_singleton, hr]
      rw [addRequest, hfirst]
      exact List.map_congr_left fun n _ => (mergedNode_concat_of_none (hnone n)).symm
    | cons name rest =>
      rw [addRequest, firstNames_concat rs hr]
      by_cases hold : name ∈ firstNames rs
      · have hnodup : (((firstNames rs).map (mergedNode above rs)).map PathNode.name).Nodup := by
          rw [hnames]
          exact nodup_eraseDups _
        rw [if_pos hold, growNode_of_mem hnodup (by rwa [hnames]), List.map_map]
        refine List.map_congr_left fun n _ => ?_
        rw [mergedNode_concat hr]
        by_cases hn : n = name
        · subst hn
          rw [if_pos rfl]
          exact if_pos rfl
        · rw [if_neg hn]
          exact if_neg hn
      · have hothers : ∀ n ∈ firstNames rs,
            mergedNode above (rs ++ [r]) n = mergedNode above rs n := fun n hn => by
          rw [mergedNode_concat hr, if_neg (ne_of_mem_of_not_mem hn hold)]
        rw [if_neg hold, growNode_of_not_mem (by rwa [hnames]), List.map_append,
          List.map_congr_left hothers, List.map_singleton, mergedNode_concat hr, if_pos rfl,
          mergedNode_of_not_mem hold]

/-! ### Levels -/

/-- The siblings that stand below a place of a forest, with the names on the way to the place. -/
inductive LevelAt (roots : List PathNode) : List String → List PathNode → Prop where
  | top : LevelAt roots [] roots
  | child {route : List String} {level : List PathNode} {node : PathNode}
    (hlevel : LevelAt roots route level) (hnode : node ∈ level) :
    LevelAt roots (route ++ [node.name]) node.children

theorem joinedPath_concat (route : List String) (name : String) :
    joinedPath (route ++ [name]) = childPath (joinedPath route) name := by
  rw [joinedPath, List.foldl_append]
  rfl

theorem dropPrefix?_append (names route more : List String) :
    (names.dropPrefix? route).bind (·.dropPrefix? more) = names.dropPrefix? (route ++ more) := by
  induction route generalizing names with
  | nil => simp
  | cons name route ih =>
    cases names with
    | nil => rfl
    | cons first names =>
      rw [List.cons_append, List.dropPrefix?, List.dropPrefix?]
      split
      · exact ih names
      · rfl

theorem PathRequest.below?_append (route more : List String) (r : PathRequest) :
    (r.below? route).bind (·.below? more) = r.below? (route ++ more) := by
  rw [below?, below?, ← dropPrefix?_append]
  cases r.names.dropPrefix? route <;> rfl

/-- **Every level of a merged forest is merged from what the requests ask for below its place.** -/
theorem LevelAt.eq_mergeBelow {rs : List PathRequest} {route : List String}
    {level : List PathNode} (h : LevelAt (mergeBelow "" rs) route level) :
    level = mergeBelow (joinedPath route) (rs.filterMap (PathRequest.below? route)) := by
  induction h with
  | top =>
    have hall : rs.filterMap (PathRequest.below? []) = rs := by
      have hsome : PathRequest.below? [] = some := by
        funext r
        simp [PathRequest.below?]
      rw [hsome, List.filterMap_some]
    rw [hall]
    rfl
  | @child route level node _ hnode ih =>
    -- the children of a node are merged from what is requested below its name
    rw [ih, mergeBelow_eq] at hnode
    obtain ⟨name, -, rfl⟩ := List.mem_map.1 hnode
    rw [mergedNode]
    dsimp only
    rw [joinedPath_concat, List.filterMap_filterMap]
    simp only [PathRequest.below?_append]

theorem LevelAt.mem_routesOf {roots : List PathNode} {route : List String}
    {level : List PathNode} (h : LevelAt roots route level) {tail : List String}
    (htail : tail ∈ routesOf level) : route ++ tail ∈ routesOf roots := by
  induction h generalizing tail with
  | top => exact htail
  | @child route level node _ hnode ih =>
    rw [List.append_assoc]
    exact ih (cons_mem_routesOf.2 ⟨node, hnode, rfl, .inr htail⟩)

/-! ### Paths -/

mutual

/-- The paths of a node and of all nodes below it. -/
def PathNode.paths : PathNode → List String
  | ⟨_, path, _, children⟩ => path :: pathsOf children

/-- The paths of all nodes of a forest. -/
def pathsOf : List PathNode → List String
  | [] => []
  | node :: rest => node.paths ++ pathsOf rest

end

theorem pathsOf_eq_of_forall {above : String} {nodes : List PathNode}
    (h : ∀ node ∈ nodes, node.paths = node.routes.map (·.foldl childPath above)) :
    pathsOf nodes = (routesOf nodes).map (·.foldl childPath above) := by
  induction nodes with
  | nil => rfl
  | cons node rest ih =>
    obtain ⟨hnode, hrest⟩ := List.forall_mem_cons.1 h
    rw [pathsOf, routesOf, hnode, ih hrest, List.map_append]

theorem paths_eq {node : PathNode} {above : String} (h : node.IsPlaced above) :
    node.paths = node.routes.map (·.foldl childPath above) := by
  induction node using PathNode.induct generalizing above with
  | mk name path columns children ih =>
    obtain ⟨hpath, hchildren⟩ := isPlaced_iff.1 h
    dsimp only at hpath hchildren
    have hbelow := pathsOf_eq_of_forall fun child hchild =>
      ih child hchild (hchildren.of_mem hchild)
    rw [PathNode.paths, PathNode.routes, hbelow, hpath]
    simp [Function.comp_def]

/-- In a placed forest the paths are the names on the way, joined. -/
theorem pathsOf_eq {nodes : List PathNode} (h : ArePlaced "" nodes) :
    pathsOf nodes = (routesOf nodes).map joinedPath :=
  pathsOf_eq_of_forall fun _ hnode => paths_eq (h.of_mem hnode)

theorem intercalate_cons_eq_flatMap (sep : Char) (first : List Char) (rest : List (List Char)) :
    [sep].intercalate (first :: rest) = first ++ rest.flatMap (sep :: ·) := by
  induction rest generalizing first with
  | nil => simp
  | cons next rest ih =>
    rw [List.intercalate_cons_cons, ih, List.flatMap_cons, List.append_assoc, List.cons_append,
      List.nil_append, List.cons_append]

theorem joinedPath_eq_intercalate {names : List String} (hnames : ∀ name ∈ names, IsName name) :
    joinedPath names = ".".intercalate names := by
  cases names with
  | nil => rfl
  | cons first rest =>
    have hfirst := (hnames first (by simp)).ne_nil
    rw [← String.toList_inj, String.toList_intercalate, joinedPath, List.foldl_cons, childPath,
      if_pos (by rfl), toList_foldl_childPath rest hfirst]
    exact (intercalate_cons_eq_flatMap '.' _ _).symm

/-- Paths are the same only if the names on the way are. -/
theorem joinedPath_inj {names others : List String} (hne : names ≠ []) (hne' : others ≠ [])
    (hnames : ∀ name ∈ names, IsName name) (hothers : ∀ name ∈ others, IsName name)
    (h : joinedPath names = joinedPath others) : names = others := by
  have hread := read_joinedPath hne hnames
  rw [h, read_joinedPath hne' hothers] at hread
  cases hread
  rfl

/-! ### Whole requests -/

/-- The name that a text requests right below a place. -/
def nextName? (route : List String) (text : String) : Option String :=
  ((requestedNames text).dropPrefix? route).bind List.head?

/-- The columns that a text requests for the last of its names, if they lead to a place. -/
def columnsAt? (route : List String) (text : String) : Option (List String) :=
  if requestedNames text = route then requestedColumns? text else none

/-- A forest is the merge of requests. -/
structure IsMerge (texts : List String) (roots : List PathNode) : Prop where
  /-- No two siblings have the same name. -/
  nodup_names : ∀ {route level}, LevelAt roots route level → (level.map PathNode.name).Nodup
  /-- Siblings stand in the order in which they are requested first. -/
  names_eq : ∀ {route level}, LevelAt roots route level →
    level.map PathNode.name = (texts.filterMap (nextName? route)).eraseDups
  /-- The path of a node is the names on the way to it, joined by points. -/
  path_eq : ∀ {route level}, LevelAt roots route level → ∀ node ∈ level,
    node.path = ".".intercalate (route ++ [node.name])
  /-- A node has the columns of the last request that ends at it and gives some. -/
  columns_eq : ∀ {route level}, LevelAt roots route level → ∀ node ∈ level,
    node.columns = (texts.filterMap (columnsAt? (route ++ [node.name]))).getLast?
  /-- No two nodes have the same path. -/
  nodup_paths : (pathsOf roots).Nodup
  /-- The paths are the beginnings of the requests. -/
  mem_paths : ∀ {path}, path ∈ pathsOf roots ↔ ∃ text ∈ texts, ∃ route, route ≠ [] ∧
    route <+: requestedNames text ∧ path = ".".intercalate route

theorem nextName?_eq (route : List String) (text : String) :
    ((requestOf text).below? route).bind (·.names.head?) = nextName? route text := by
  rw [PathRequest.below?, Option.bind_map, nextName?]
  rfl

theorem columnsAt?_eq (route : List String) (text : String) :
    ((requestOf text).below? route).bind PathRequest.columnsHere? = columnsAt? route text := by
  rw [PathRequest.below?, requestOf, columnsAt?]
  dsimp only
  by_cases hends : requestedNames text = route
  · have hnil : (requestedNames text).dropPrefix? route = some [] :=
      List.dropPrefix?_eq_some_iff.2 ⟨route, by simpa using hends, by simp⟩
    rw [if_pos hends, hnil]
    rfl
  · rw [if_neg hends]
    cases hrest : (requestedNames text).dropPrefix? route with
    | none => rfl
    | some rest =>
      obtain ⟨front, hnames, hfront⟩ := List.dropPrefix?_eq_some_iff.1 hrest
      have hne : rest ≠ [] := by
        rintro rfl
        exact hends (by simpa [eq_of_beq hfront] using hnames)
      rw [Option.map_some, Option.bind_some, PathRequest.columnsHere?, if_neg]
      simpa using hne

/-- **Parsing fails at the first text that is not well-formed**, and else merges all requests. -/
theorem parsePaths_eq (texts : List String) :
    parsePaths texts = match texts.find? (¬ IsWellFormed ·) with
      | some text => .error (.path (String.ofList (Text.trim text.toList)))
      | none => .ok (mergeBelow "" (texts.map requestOf)) := by
  have hread : texts.mapM PathRequest.read = match texts.find? (¬ IsWellFormed ·) with
      | some text => .error (.path (String.ofList (Text.trim text.toList)))
      | none => .ok (texts.map requestOf) := by
    induction texts with
    | nil => rfl
    | cons text texts ih =>
      rw [List.mapM_cons, ih, read_eq, List.find?_cons]
      by_cases hwell : IsWellFormed text
      · simp only [hwell, if_true, not_true_eq_false, decide_false]
        cases texts.find? (¬ IsWellFormed ·) <;> rfl
      · simp only [hwell, if_false, not_false_eq_true, decide_true]
        rfl
  rw [parsePaths, hread]
  cases texts.find? (¬ IsWellFormed ·) <;> rfl

section Merge

variable {texts : List String} {roots : List PathNode}

theorem eq_mergeBelow_of_parsePaths (h : parsePaths texts = .ok roots) :
    roots = mergeBelow "" (texts.map requestOf) := by
  rw [parsePaths_eq] at h
  split at h
  · cases h
  · exact (Except.ok.inj h).symm

/-- What stands at a place of a parsed forest. -/
theorem LevelAt.eq_of_parsePaths (h : parsePaths texts = .ok roots) {route : List String}
    {level : List PathNode} (hat : LevelAt roots route level) :
    level = mergeBelow (joinedPath route)
      (texts.filterMap fun text => (requestOf text).below? route) := by
  rw [eq_mergeBelow_of_parsePaths h] at hat
  rw [hat.eq_mergeBelow, List.filterMap_map]
  rfl

/-- A node of a parsed forest is determined by its place and its name. -/
theorem LevelAt.node_eq (h : parsePaths texts = .ok roots) {route : List String}
    {level : List PathNode} (hat : LevelAt roots route level) {node : PathNode}
    (hnode : node ∈ level) : node = mergedNode (joinedPath route)
      (texts.filterMap fun text => (requestOf text).below? route) node.name := by
  rw [hat.eq_of_parsePaths h, mergeBelow_eq] at hnode
  obtain ⟨name, -, rfl⟩ := List.mem_map.1 hnode
  rfl

theorem mem_routesOf_iff (h : parsePaths texts = .ok roots) {route : List String} :
    route ∈ routesOf roots ↔ ∃ text ∈ texts, route ≠ [] ∧ route <+: requestedNames text := by
  rw [eq_mergeBelow_of_parsePaths h]
  refine mem_routesOf_foldl.trans ?_
  simp [routesOf, requestOf]

theorem isName_of_mem_routesOf (h : parsePaths texts = .ok roots) {route : List String}
    (hroute : route ∈ routesOf roots) : route ≠ [] ∧ ∀ name ∈ route, IsName name := by
  obtain ⟨hne, text, -, r, hr, hbegins⟩ := (mem_routes_parsePaths h).1 hroute
  exact ⟨hne, fun name hname => (isName_of_read hr).2 name (hbegins.subset hname)⟩

theorem nodup_pathsOf (h : parsePaths texts = .ok roots) : (pathsOf roots).Nodup := by
  rw [pathsOf_eq (arePlaced_parsePaths h)]
  refine (nodup_routes_parsePaths h).map_on fun route hroute other hother heq => ?_
  obtain ⟨hne, hnames⟩ := isName_of_mem_routesOf h hroute
  obtain ⟨hne', hothers⟩ := isName_of_mem_routesOf h hother
  exact joinedPath_inj hne hne' hnames hothers heq

theorem mem_pathsOf (h : parsePaths texts = .ok roots) {path : String} :
    path ∈ pathsOf roots ↔ ∃ text ∈ texts, ∃ route, route ≠ [] ∧
      route <+: requestedNames text ∧ path = ".".intercalate route := by
  have hjoined : ∀ {route}, route ∈ routesOf roots → joinedPath route = ".".intercalate route :=
    fun hroute => joinedPath_eq_intercalate (isName_of_mem_routesOf h hroute).2
  rw [pathsOf_eq (arePlaced_parsePaths h), List.mem_map]
  constructor
  · rintro ⟨route, hroute, rfl⟩
    obtain ⟨text, htext, hne, hbegins⟩ := (mem_routesOf_iff h).1 hroute
    exact ⟨text, htext, route, hne, hbegins, hjoined hroute⟩
  · rintro ⟨text, htext, route, hne, hbegins, rfl⟩
    have hroute := (mem_routesOf_iff h).2 ⟨text, htext, hne, hbegins⟩
    exact ⟨route, hroute, hjoined hroute⟩

/-- **A forest that is parsed is the merge of its requests.** -/
theorem isMerge_of_parsePaths (h : parsePaths texts = .ok roots) : IsMerge texts roots := by
  have hnames : ∀ {route level}, LevelAt roots route level →
      level.map PathNode.name = (texts.filterMap (nextName? route)).eraseDups := by
    intro route level hat
    rw [hat.eq_of_parsePaths h, mergeBelow_eq, map_name_mergedNode, firstNames,
      List.filterMap_filterMap]
    simp only [nextName?_eq]
  constructor
  case nodup_names =>
    intro route level hat
    rw [hnames hat]
    exact nodup_eraseDups _
  case names_eq => exact hnames
  case path_eq =>
    intro route level hat node hnode
    have hroute : route ++ [node.name] ∈ routesOf roots :=
      hat.mem_routesOf (cons_mem_routesOf.2 ⟨node, hnode, rfl, .inl rfl⟩)
    rw [← joinedPath_eq_intercalate (isName_of_mem_routesOf h hroute).2, joinedPath_concat]
    exact congrArg PathNode.path (hat.node_eq h hnode)
  case columns_eq =>
    intro route level hat node hnode
    rw [congrArg PathNode.columns (hat.node_eq h hnode), mergedNode]
    dsimp only
    simp only [List.filterMap_filterMap, PathRequest.below?_append, columnsAt?_eq]
  case nodup_paths => exact nodup_pathsOf h
  case mem_paths => exact mem_pathsOf h

end Merge

/-- **Paths are parsed to the merge of all requests**, or else fail with the trimmed text of the
first one that has an empty name or column. -/
theorem parsePaths_merges (texts : List String) :
    (∀ why, parsePaths texts = .error why ↔
      ∃ text, texts.find? (¬ IsWellFormed ·) = some text ∧
        why = .path (String.ofList (Text.trim text.toList))) ∧
    ((∀ text ∈ texts, IsWellFormed text) →
      ∃ roots, parsePaths texts = .ok roots ∧ IsMerge texts roots) := by
  constructor
  · intro why
    rw [parsePaths_eq]
    cases texts.find? (¬ IsWellFormed ·) with
    | none => simp
    | some text => simp [eq_comm]
  · intro hwell
    have hnone : texts.find? (¬ IsWellFormed ·) = none := by simpa using hwell
    have hok : parsePaths texts = .ok (mergeBelow "" (texts.map requestOf)) := by
      rw [parsePaths_eq, hnone]
    exact ⟨_, hok, isMerge_of_parsePaths hok⟩

/-- Four requests, of which two have the same beginning and two lead to the same relation. -/
def shelfRequests : List String :=
  ["Posts", " Posts . Comments : id , body", "Profile", "Posts.Comments"]

/-- The requests of a shelf are merged to a forest of three relations. A request with an empty name
is refused with its text, without the blanks around it. -/
theorem parsePaths_merges_shelf :
    (∀ text ∈ shelfRequests, IsWellFormed text) ∧
    (∃ roots, parsePaths shelfRequests = .ok roots ∧ IsMerge shelfRequests roots ∧
      pathsOf roots = ["Posts", "Posts.Comments", "Profile"]) ∧
    parsePaths ["Posts", " Posts. .Tags:id ", ":"] = .error (.path "Posts. .Tags:id") := by
  have hwell : ∀ text ∈ shelfRequests, IsWellFormed text := by decide +kernel
  have hfirst : ["Posts", " Posts. .Tags:id ", ":"].find? (¬ IsWellFormed ·)
      = some " Posts. .Tags:id " := by decide +kernel
  have hpaths : (parsePaths shelfRequests).toOption.map pathsOf
      = some ["Posts", "Posts.Comments", "Profile"] := by decide +kernel
  obtain ⟨roots, hroots, hmerge⟩ := (parsePaths_merges shelfRequests).2 hwell
  rw [hroots] at hpaths
  refine ⟨hwell, ⟨roots, hroots, hmerge, Option.some.inj hpaths⟩, ?_⟩
  exact ((parsePaths_merges _).1 _).2 ⟨_, hfirst, by decide +kernel⟩

end EntityGraph
