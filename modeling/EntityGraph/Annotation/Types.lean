import EntityGraph.Annotation.Struct

/-!
# Written types

The types in an annotated structure stand as they are written. Here is the declaration once it is
known which column type or which entity type each of them means.
-/

namespace EntityGraph

/-- What written types mean. -/
structure TypeNames where
  column : String → ColumnType
  /-- The entity type that a field holds, behind whatever wraps it. -/
  entity : String → String

def RelationShape.resolve (t : TypeNames) : RelationShape → RelationShape
  | .hasOne target => .hasOne (t.entity target)
  | .hasMany target => .hasMany (t.entity target)
  | .belongsTo target => .belongsTo (t.entity target)
  | .belongsToMany target => .belongsToMany (t.entity target)
  | .morphOne target morph => .morphOne (t.entity target) morph
  | .morphMany target morph => .morphMany (t.entity target) morph
  | .morphTo morph => .morphTo morph

def RelationOptions.resolve (t : TypeNames) (o : RelationOptions) : RelationOptions :=
  { o with targets := o.targets.map fun target => (t.entity target.1, target.2) }

def MemberDecl.resolve (t : TypeNames) : MemberDecl String → MemberDecl ColumnType
  | .column field type name primaryKey auto => .column field (t.column type) name primaryKey auto
  | .embed field type => .embed field (t.entity type)
  | .relation field shape options => .relation field (shape.resolve t) (options.resolve t)

def Declaration.resolve (t : TypeNames) (d : Declaration String) : Declaration ColumnType :=
  { type := d.type
    table := d.table
    primaryKey := d.primaryKey
    morphAlias := d.morphAlias
    members := d.members.map (MemberDecl.resolve t) }

end EntityGraph
