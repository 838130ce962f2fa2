import EntityGraph.Error

/-!
# Relation paths

Requests such as `Posts.Comments:id,body`: the relation `Posts`, and below it the relation
`Comments` with only the columns `id` and `body`. Requests that begin alike are merged into one
forest, so that every relation stands once below its parent.
-/

namespace EntityGraph

/-- A requested relation and the relations requested below it. -/
structure PathNode where
  name : String
  /-- The names from the root down to this node, joined by points. -/
  path : String
  /-- The columns to select; all of them if none are given. -/
  columns : Option (List String)
  children : List PathNode

/-! ## Single requests -/

/-- A request taken apart: the names of its relations and the columns of the last one. -/
structure PathRequest where
  names : List String
  columns : Option (List String)
  deriving DecidableEq, Repr

/-- The trimmed pieces of a text between separators; none of them may be empty. -/
def pieces? (sep : Char) (cs : List Char) : Option (List String) :=
  let pieces := (Text.splitOn sep cs).map Text.trim
  if pieces.any List.isEmpty then none else some (pieces.map String.ofList)

def PathRequest.ofChars? (cs : List Char) : Option PathRequest :=
  match Text.cutAt ':' cs with
  | none => (pieces? '.' cs).map fun names => ⟨names, none⟩
  | some (names, columns) => do
    let columns ← pieces? ',' columns
    let names ← pieces? '.' names
    pure ⟨names, some columns⟩

/-- Reads a request; blanks around it, around names and around columns do not count. -/
def PathRequest.read (text : String) : Except Error PathRequest :=
  let cs := Text.trim text.toList
  match PathRequest.ofChars? cs with
  | some r => .ok r
  | none => .error (.path (String.ofList cs))

/-! ## Merging -/

/-- Changes the node of a name, which is added at the end if there is none. -/
def growNode (name path : String) (grow : PathNode → PathNode) : List PathNode → List PathNode
  | [] => [grow ⟨name, path, none, []⟩]
  | node :: rest =>
    if node.name = name then grow node :: rest else node :: growNode name path grow rest

def childPath (above name : String) : String := if above.isEmpty then name else above ++ "." ++ name

/-- Adds a request to the nodes below a path. Columns given for its last relation replace those of
earlier requests. -/
def addRequest (columns : Option (List String)) :
    (above : String) → (names : List String) → List PathNode → List PathNode
  | _, [], nodes => nodes
  | above, name :: rest, nodes =>
    let path := childPath above name
    growNode name path
      (fun node =>
        { node with
          columns := if rest.isEmpty then columns <|> node.columns else node.columns
          children := addRequest columns path rest node.children })
      nodes

def PathRequest.addTo (nodes : List PathNode) (r : PathRequest) : List PathNode :=
  addRequest r.columns "" r.names nodes

/-- The forest of all requests, in the order of first request. -/
def parsePaths (texts : List String) : Except Error (List PathNode) := do
  let requests ← texts.mapM PathRequest.read
  pure (requests.foldl PathRequest.addTo [])

end EntityGraph
