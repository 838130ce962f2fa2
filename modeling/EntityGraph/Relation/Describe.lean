import EntityGraph.Relation.Descriptor
import EntityGraph.World

/-!
# Describing relations

From a declared relation to its descriptor. Names that the declaration leaves out follow from the
types: keys are called after the type they refer to, pivot tables after both types, and the columns
of an owner after the name of the relation. Every name is checked, and every column of a mapped type
must be one of its columns.
-/

namespace EntityGraph

namespace RelationInfo

variable {reg : Registry} {σ : Type}

/-- The column of a type that a name of the relation stands for. -/
def mappedColumn (info : RelationInfo) (parent : Schema) (type name : String) :
    Run reg σ String := do
  Run.checkName name
  match ← Run.resolve type name with
  | some column => pure column
  | none => throw (.misconfigured info.name parent.type (.notMappedOn name type))

/-- The schema of the target, and the related table. -/
def related (info : RelationInfo) (target : String) : Run reg σ (Schema × String) := do
  let s ← Run.schema target
  let table := info.options.table.getD s.val.table
  Run.checkName table
  pure (s, table)

/-- The key of the parent that other tables refer to. -/
def parentKey (info : RelationInfo) (parent : Schema) : String :=
  info.options.ownerKey.getD parent.primaryKey

/-- The column name that refers to a type. -/
def keyName (type : String) : Run reg σ String := do
  pure ((← Run.snakeCase type) ++ "_id")

/-- The names of a type column and an id column. -/
def morphColumns (info : RelationInfo) (morph : String) : String × String :=
  info.options.morphColumns.getD (morph ++ "_type", morph ++ "_id")

/-- Two names in alphabetical order, joined by an underscore. -/
def pivotTableName (left right : String) : String :=
  if right < left then right ++ "_" ++ left else left ++ "_" ++ right

/-! ## Kinds of relations -/

/-- The related table refers to the parent. -/
def describeHas (info : RelationInfo) (parent : Schema) (target : String) : Run reg σ Join := do
  let (_, table) ← info.related target
  let conventional ← keyName parent.type
  let foreignKey ←
    info.mappedColumn parent target (info.options.foreignKey.getD conventional)
  let ownerKey ← info.mappedColumn parent parent.type (info.parentKey parent)
  pure { target := target, table := table, parentColumn := ownerKey, childColumn := foreignKey }

/-- The parent refers to the related table. -/
def describeBelongsTo (info : RelationInfo) (parent : Schema) (target : String) :
    Run reg σ Join := do
  let (s, table) ← info.related target
  let conventional ← keyName target
  let foreignKey ←
    info.mappedColumn parent parent.type (info.options.foreignKey.getD conventional)
  let ownerKey ← info.mappedColumn parent target (info.options.ownerKey.getD s.primaryKey)
  pure { target := target, table := table, parentColumn := foreignKey, childColumn := ownerKey }

/-- A pivot table refers to both. -/
def describePivot (info : RelationInfo) (parent : Schema) (target : String) :
    Run reg σ PivotJoin := do
  let (s, table) ← info.related target
  let left ← Run.snakeCase parent.type
  let right ← Run.snakeCase target
  let pivot := info.options.pivot.getD (pivotTableName left right)
  let keys := info.options.pivotKeys.getD (left ++ "_id", right ++ "_id")
  Run.checkName pivot
  Run.checkName keys.1
  Run.checkName keys.2
  let parentColumn ← info.mappedColumn parent parent.type (info.parentKey parent)
  let relatedColumn ←
    info.mappedColumn parent target (info.options.relatedKey.getD s.primaryKey)
  pure
    { target := target
      table := table
      pivotTable := pivot
      foreignPivotKey := keys.1
      relatedPivotKey := keys.2
      parentKey := parentColumn
      relatedKey := relatedColumn }

/-- The related table refers to owners of several types, the parent's type among them. -/
def describeMorph (info : RelationInfo) (parent : Schema) (target morph : String) :
    Run reg σ Join := do
  let (_, table) ← info.related target
  let names := info.morphColumns morph
  let typeColumn ← info.mappedColumn parent target names.1
  let idColumn ← info.mappedColumn parent target names.2
  let ownerKey ← info.mappedColumn parent parent.type (info.parentKey parent)
  pure
    { target := target
      table := table
      parentColumn := ownerKey
      childColumn := idColumn
      discriminator := some (typeColumn, parent.morphAlias) }

/-- The declared owner types, under their own names where no discriminator is given. -/
def declaredOwners : List (String × Option String) → OwnerTypes → Run reg σ OwnerTypes
  | [], types => pure types
  | (type, some discriminator) :: rest, types =>
    declaredOwners rest (types.insert discriminator type)
  | (type, none) :: rest, types => do
    let s ← Run.schema type
    declaredOwners rest (types.insert s.val.morphAlias type)

/-- Every owner type must have the column that the parents refer to. The first one that lacks it is
the one that is reported. -/
def checkOwners (info : RelationInfo) (parent : Schema) (key : String) :
    List String → Run reg σ Unit
  | [] => pure ()
  | type :: rest => do
    match ← Run.resolve type key with
    | some _ => info.checkOwners parent key rest
    | none => throw (.misconfigured info.name parent.type (.notMappedOn key type))

/-- Checks the owner types of a map as they come. -/
def walkOwners (info : RelationInfo) (parent : Schema) (key : String) (types : OwnerTypes) :
    Run reg σ Unit := do
  info.checkOwners parent key (← Run.walk (types.entries.map Prod.snd))

/-- The parent refers to owners of several types. -/
def describeOwners (info : RelationInfo) (parent : Schema) (morph : String)
    (given : Option OwnerTypes) : Run reg σ OwnerJoin := do
  let names := info.morphColumns morph
  let typeColumn ← info.mappedColumn parent parent.type names.1
  let idColumn ← info.mappedColumn parent parent.type names.2
  info.options.ownerKey.forM Run.checkName
  let types ←
    match given with
    | some types => pure types
    | none => declaredOwners info.options.targets .empty
  info.options.ownerKey.forM fun key => info.walkOwners parent key types
  pure
    { typeColumn := typeColumn
      idColumn := idColumn
      ownerKey := info.options.ownerKey
      types := types }

/-- The descriptor of a relation declared on a type. Owner types that the caller gives replace the
declared ones. -/
def describe (info : RelationInfo) (parent : Schema) (owners : Option OwnerTypes) :
    Run reg σ Descriptor :=
  match info.shape with
  | .hasOne target => .hasOne <$> info.describeHas parent target
  | .hasMany target => .hasMany <$> info.describeHas parent target
  | .belongsTo target => .belongsTo <$> info.describeBelongsTo parent target
  | .belongsToMany target => .belongsToMany <$> info.describePivot parent target
  | .morphOne target morph => .morphOne <$> info.describeMorph parent target morph
  | .morphMany target morph => .morphMany <$> info.describeMorph parent target morph
  | .morphTo morph => .morphTo <$> info.describeOwners parent morph owners

end RelationInfo

end EntityGraph
