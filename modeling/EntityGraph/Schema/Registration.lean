import EntityGraph.Column.Type
import EntityGraph.Relation.Kind

/-!
# Registrations

What an entity type declares about itself: its columns, the entities embedded in it and its
relations, in the order of its fields. Embedded entities are part of the registration; relations
name their target types only, so that types may refer to each other.
-/

namespace EntityGraph

/-- The kind of a relation with the type it leads to, and the name of its type and id columns. -/
inductive RelationShape where
  | hasOne (target : String)
  | hasMany (target : String)
  | belongsTo (target : String)
  | belongsToMany (target : String)
  | morphOne (target morph : String)
  | morphMany (target morph : String)
  | morphTo (morph : String)
  deriving DecidableEq, Repr

def RelationShape.kind : RelationShape → RelationKind
  | hasOne _ => .hasOne
  | hasMany _ => .hasMany
  | belongsTo _ => .belongsTo
  | belongsToMany _ => .belongsToMany
  | morphOne _ _ => .morphOne
  | morphMany _ _ => .morphMany
  | morphTo _ => .morphTo

/-- Names that replace the conventional ones. -/
structure RelationOptions where
  name : Option String := none
  foreignKey : Option String := none
  ownerKey : Option String := none
  table : Option String := none
  pivot : Option String := none
  /-- The pivot columns of the parent and of the related row. -/
  pivotKeys : Option (String × String) := none
  relatedKey : Option String := none
  /-- The columns of the owner's type and id. -/
  morphColumns : Option (String × String) := none
  /-- Owner types with their discriminators, the conventional one if none is given. -/
  targets : List (String × Option String) := []
  deriving DecidableEq, Repr

/-- A field of an entity type. -/
inductive Member where
  | column (field : String) (type : ColumnType) (name : Option String) (primaryKey auto : Bool)
  | embed (field type : String) (members : List Member)
  | relation (field : String) (shape : RelationShape) (options : RelationOptions)
  deriving Repr

structure Registration where
  type : String
  table : Option String := none
  primaryKey : Option String := none
  morphAlias : Option String := none
  members : List Member := []
  deriving Repr

/-! ## Columns -/

/-- A declared column and its place: one index for each level of embedding. -/
structure ColumnDecl where
  field : String
  type : ColumnType
  name : Option String
  primaryKey : Bool
  auto : Bool
  path : List Nat
  deriving DecidableEq, Repr

def ColumnDecl.inside (position : Nat) (c : ColumnDecl) : ColumnDecl :=
  { c with path := position :: c.path }

mutual

/-- The columns of a member at a position, those of embedded entities flattened into it. -/
def Member.columns (position : Nat) : Member → List ColumnDecl
  | .column field type name primaryKey auto =>
    [⟨field, type, name, primaryKey, auto, [position]⟩]
  | .embed _ _ members => (memberColumns 0 members).map (ColumnDecl.inside position)
  | .relation _ _ _ => []

/-- The columns of members from a position on. -/
def memberColumns (position : Nat) : List Member → List ColumnDecl
  | [] => []
  | m :: ms => m.columns position ++ memberColumns (position + 1) ms

end

def Registration.columns (r : Registration) : List ColumnDecl := memberColumns 0 r.members

/-! ## Relations -/

/-- A declared relation and its place. -/
structure RelationDecl where
  field : String
  shape : RelationShape
  options : RelationOptions
  position : Nat
  deriving DecidableEq, Repr

/-- The relations among members from a position on; embedded entities contribute none. -/
def memberRelations (position : Nat) : List Member → List RelationDecl
  | [] => []
  | .relation field shape options :: ms =>
    ⟨field, shape, options, position⟩ :: memberRelations (position + 1) ms
  | _ :: ms => memberRelations (position + 1) ms

def Registration.relations (r : Registration) : List RelationDecl := memberRelations 0 r.members

/-! ## Embedded entities -/

mutual

/-- The type and field of each embedded entity, inner ones first. -/
def Member.embeds : Member → List (String × String)
  | .embed field type members => memberEmbeds members ++ [(type, field)]
  | .column _ _ _ _ _ => []
  | .relation _ _ _ => []

def memberEmbeds : List Member → List (String × String)
  | [] => []
  | m :: ms => m.embeds ++ memberEmbeds ms

end

def Registration.embeds (r : Registration) : List (String × String) := memberEmbeds r.members

end EntityGraph
