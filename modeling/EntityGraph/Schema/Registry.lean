import EntityGraph.Schema.Registration

/-!
# Registries

All entity types of a program. A declaration names the types that it embeds; the registry holds
registrations, in which every embedded entity stands in full. A type that is not declared has no
members. Declarations are generic in what describes the type of a column.
-/

namespace EntityGraph

/-- A field of a declared type, with embedded entities by name. -/
inductive MemberDecl (τ : Type) where
  | column (field : String) (type : τ) (name : Option String) (primaryKey auto : Bool)
  | embed (field type : String)
  | relation (field : String) (shape : RelationShape) (options : RelationOptions)
  deriving Repr

structure Declaration (τ : Type) where
  type : String
  table : Option String := none
  primaryKey : Option String := none
  morphAlias : Option String := none
  members : List (MemberDecl τ) := []
  deriving Repr

structure Registry where
  registrations : List Registration
  deriving Repr

namespace Declaration

def find? (ds : List (Declaration ColumnType)) (type : String) : Option (Declaration ColumnType) :=
  ds.find? (·.type = type)

/-- The members of a declared type with embedded entities in full, to a depth of `depth`. -/
def unfold (ds : List (Declaration ColumnType)) :
    (depth : Nat) → List (MemberDecl ColumnType) → List Member
  | _, [] => []
  | depth, .column field type name primaryKey auto :: ms =>
    .column field type name primaryKey auto :: unfold ds depth ms
  | depth, .relation field shape options :: ms =>
    .relation field shape options :: unfold ds depth ms
  | 0, .embed field type :: ms => .embed field type [] :: unfold ds 0 ms
  | depth + 1, .embed field type :: ms =>
    .embed field type (unfold ds depth ((find? ds type).map members |>.getD []))
      :: unfold ds (depth + 1) ms
termination_by depth ms => (depth, ms.length)

/-- A declaration in full. No type embeds itself, so no chain is longer than the declarations. -/
def register (ds : List (Declaration ColumnType)) (d : Declaration ColumnType) : Registration :=
  { type := d.type
    table := d.table
    primaryKey := d.primaryKey
    morphAlias := d.morphAlias
    members := unfold ds ds.length d.members }

end Declaration

namespace Registry

def ofDeclarations (ds : List (Declaration ColumnType)) : Registry :=
  ⟨ds.map (Declaration.register ds)⟩

/-- The registration of a type. -/
def get (reg : Registry) (type : String) : Registration :=
  (reg.registrations.find? (·.type = type)).getD { type := type }

end Registry

end EntityGraph
