import EntityGraph.Load.Eager
import EntityGraph.Relation.Describe

/-!
# Plans

Before a load issues a statement, every requested path is resolved: each relation must be declared
on the type it is requested of, its names must be settled, and the columns and constraints asked for
must be acceptable. The outcome is a descriptor for every pair of an entity type and a path.
-/

namespace EntityGraph

/-- Descriptors by entity type and path, the latest first. -/
abbrev Descriptors : Type := List ((String × String) × Descriptor)

structure Plan where
  eager : Eager
  nodes : List PathNode
  descriptors : Descriptors

namespace Plan

variable {reg : Registry} {σ : Type}

/-- The types whose entities are loaded for a relation, in no order. -/
def targets : Descriptor → List String
  | .hasOne j | .hasMany j | .belongsTo j | .morphOne j | .morphMany j => [j.target]
  | .belongsToMany j => [j.target]
  | .morphTo j => j.types.entries.map Prod.snd

/-- The relation that a node asks for on a type. -/
def relation (s : Schema) (node : PathNode) : Except Error RelationInfo :=
  match s.relation? node.name with
  | some info => .ok info
  | none => .error (.unknownRelation node.name s.type)

/-- Resolves a node on a type, but not what is below it. -/
def describe (eager : Eager) (type : String) (node : PathNode) : Run reg σ Descriptor := do
  let s ← Run.schema type
  let info ← MonadExcept.ofExcept (relation s.val node)
  let descriptor ← info.describe s.val (eager.owners.get? node.path)
  node.columns.forM Run.checkNames
  Run.checkNames (eager.constrain node.path {}).names
  pure descriptor

/-- Adds what a step adds for each of some types. -/
def forTypes (step : String → Descriptors → Run reg σ Descriptors) :
    List String → Descriptors → Run reg σ Descriptors
  | [], found => pure found
  | type :: rest, found => do
    let found ← step type found
    forTypes step rest found

/-- Adds what a step adds for each of the types that a relation leads to, as they come. -/
def walkTypes (step : String → Descriptors → Run reg σ Descriptors) (types : List String)
    (found : Descriptors) : Run reg σ Descriptors := do
  forTypes step (← Run.walk types) found

mutual

/-- Resolves a node on a type, and all that is below it on the types it leads to. -/
def prepareNode (eager : Eager) : PathNode → String → Descriptors → Run reg σ Descriptors
  | ⟨name, path, columns, children⟩, type, found => do
    let descriptor ← describe eager type ⟨name, path, columns, children⟩
    let found ←
      walkTypes
        (fun target found => do
          let _ ← Run.schema target
          prepareNodes eager children target found)
        (targets descriptor) found
    pure (((type, path), descriptor) :: found)

def prepareNodes (eager : Eager) : List PathNode → String → Descriptors → Run reg σ Descriptors
  | [], _, found => pure found
  | node :: rest, type, found => do
    let found ← prepareNode eager node type found
    prepareNodes eager rest type found

end

/-- Resolves a request for entities of a type. -/
def make (eager : Eager) (type : String) : Run reg σ Plan := do
  let nodes ← MonadExcept.ofExcept (parsePaths eager.paths)
  let _ ← Run.schema type
  let descriptors ← prepareNodes eager nodes type []
  pure ⟨eager, nodes, descriptors⟩

/-- The descriptor of a node for entities of a type. -/
def descriptor? (p : Plan) (type : String) (node : PathNode) : Option Descriptor :=
  p.descriptors.lookup (type, node.path)

end Plan

end EntityGraph
