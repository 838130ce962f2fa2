import EntityGraph.Load.Path
import EntityGraph.Relation.Descriptor
import EntityGraph.Sql.Scope

/-!
# Eager requests

The relation paths to load along with a batch, and what is asked for at single paths: a constraint
on the scope of their statement, or the owner types of a relation to several of them. Asking for
something at a path requests the path.
-/

namespace EntityGraph

structure Eager where
  /-- The requested paths as they were given. -/
  paths : List String := []
  /-- Constraints by path. -/
  constraints : ByName (Sql.Scope → Sql.Scope) := .empty
  /-- Owner types by path. -/
  owners : ByName OwnerTypes := .empty

namespace Eager

def isEmpty (e : Eager) : Bool := e.paths.isEmpty

/-- A requested path without its columns, as it was given. -/
def pathOf (text : String) : List Char :=
  match Text.cutAt ':' text.toList with
  | some (path, _) => path
  | none => text.toList

/-- Whether a path was requested, with or without columns. -/
def requests (e : Eager) (path : String) : Bool :=
  e.paths.any fun p => pathOf p = path.toList || p = path

/-- Requests paths. -/
def withPaths (e : Eager) (paths : List String) : Eager := { e with paths := e.paths ++ paths }

/-- Requests a path unless it was requested. -/
def withPath (e : Eager) (path : String) : Eager :=
  if e.requests path then e else e.withPaths [path]

/-- Constrains the statement of a path. -/
def withConstraint (e : Eager) (path : String) (f : Sql.Scope → Sql.Scope) : Eager :=
  { e.withPath path with constraints := e.constraints.insert path f }

/-- Gives the owner types of a path. -/
def withOwners (e : Eager) (path : String) (types : OwnerTypes) : Eager :=
  { e.withPath path with owners := e.owners.insert path types }

/-- The scope of a path's statement under the constraint of the path. -/
def constrain (e : Eager) (path : String) (s : Sql.Scope) : Sql.Scope :=
  match e.constraints.get? path with
  | some f => f s
  | none => s

/-- The request as it is shown for diagnosis. -/
def diagnostic (e : Eager) : String :=
  Text.shownParts "Eager"
    [("paths", Text.shownList (e.paths.map Text.quoted)),
      ("callbacks", Text.shownList (e.constraints.names.map Text.quoted)),
      ("morphs", Text.shownEntries (e.owners.entries.map fun p => (p.1, p.2.diagnostic)))]

end Eager

/-! ## Operations -/

/-- One addition to a request. -/
inductive EagerOp where
  | paths (paths : List String)
  /-- Constrains the statement of a path by changes to its scope. -/
  | constraint (path : String) (changes : List Sql.ScopeOp)
  | owners (path : String) (types : OwnerTypes)

def EagerOp.apply (e : Eager) : EagerOp → Eager
  | .paths requested => e.withPaths requested
  | .constraint path changes => e.withConstraint path fun s => s.applyAll changes
  | .owners path types => e.withOwners path types

def Eager.applyAll (e : Eager) (ops : List EagerOp) : Eager := ops.foldl EagerOp.apply e

end EntityGraph
