import EntityGraph.Load.Level
import EntityGraph.Load.Plan

/-!
# Staging a level

The statements that fetch a level and the matching of their rows. A key relation takes one
statement, a pivot relation two, and a relation to owners of several types one for each
discriminator at hand. No parent is touched here, so a level that fails leaves its parents as they
were.
-/

namespace EntityGraph

namespace Plan

variable {reg : Registry} {σ : Type}

/-- The mapped column of that name. -/
def mapped (s : Schema) (node : PathNode) (column : String) : Run reg σ ColumnInfo :=
  match s.column? column with
  | some c => pure c
  | none => throw (.misconfigured node.name s.type (.notMapped column))

/-- The columns that a node selects of a type. Columns that join the rows are not added. -/
def projection (node : PathNode) (s : Schema) : Run reg σ (List String) :=
  match node.columns with
  | some columns => columns.mapM (Run.resolveOrKeep s.type)
  | none => pure s.columnNames

/-- Fetches the rows of a node: entities of a type from a table, under the node's constraint. -/
def select (db : Database σ) (plan : Plan) (node : PathNode) (type table : String)
    (scope : Sql.Scope) : Run reg σ (List Entity) := do
  let scope := plan.eager.constrain node.path scope
  Run.checkNames scope.names
  let s ← Run.schema type
  let columns ← projection node s
  Run.checkName table
  let records ← Run.issue db .relation (.select table columns scope)
  MonadExcept.ofExcept (s.val.scanAll records)

/-- The condition that a column holds one of the values. -/
def among (column : String) (values : List Sql.Value) : Sql.Scope :=
  ({} : Sql.Scope).filter (.inList column values)

/-- Matches rows by a column that the type may lack; then nothing matches. -/
def correlate (index : KeyIndex) (s : Schema) (column : String) (rows : List Entity) :
    Run reg σ (List (Nat × Entity)) :=
  match s.column? column with
  | some c => MonadExcept.ofExcept (index.correlate c rows)
  | none => pure []

/-! ## Key relations -/

def joinScope (j : Join) (values : List Sql.Value) : Sql.Scope :=
  match j.discriminator with
  | some (column, text) => (among j.childColumn values).filter (.compare column .eq (.text text))
  | none => among j.childColumn values

def stageKeyed (db : Database σ) (plan : Plan) (node : PathNode) (kind : RelationKind) (j : Join)
    (s : Schema) (parents : List Entity) : Run reg σ (List (Nat × Entity)) := do
  let column ← mapped s node j.parentColumn
  let index ← MonadExcept.ofExcept (KeyIndex.ofBatch column parents)
  if index.isEmpty then
    Run.emit (.noParentKeys node.path kind.text)
    pure []
  else
    let rows ← plan.select db node j.target j.table (joinScope j index.values)
    let target ← Run.schema j.target
    let staged ← correlate index target j.childColumn rows
    Run.emit (.loaded node.path kind.text parents.length rows.length staged.length none)
    pure staged

/-! ## Pivot relations -/

/-- Fetches the pivot rows of some parents. -/
def selectPivot (db : Database σ) (j : PivotJoin) (values : List Sql.Value) :
    Run reg σ (List Sql.Record) := do
  Run.checkName j.pivotTable
  Run.issue db .pivot
    (.select j.pivotTable [j.foreignPivotKey, j.relatedPivotKey] (among j.foreignPivotKey values))

def stagePivot (db : Database σ) (plan : Plan) (node : PathNode) (j : PivotJoin) (s : Schema)
    (parents : List Entity) : Run reg σ (List (Nat × Entity)) := do
  let column ← mapped s node j.parentKey
  let index ← MonadExcept.ofExcept (KeyIndex.ofBatch column parents)
  if index.isEmpty then
    Run.emit (.noParentKeys node.path RelationKind.belongsToMany.text)
    pure []
  else
    let pivotRows ← selectPivot db j index.values
    let links ← MonadExcept.ofExcept (j.links index pivotRows)
    if links.isEmpty then
      Run.emit (.noPivotRows node.path pivotRows.length)
      pure []
    else
      let rows ← plan.select db node j.target j.table (among j.relatedKey links.values)
      let target ← Run.schema j.target
      let staged ← correlate links target j.relatedKey rows
      Run.emit
        (.loaded node.path RelationKind.belongsToMany.text parents.length rows.length
          staged.length (some pivotRows.length))
      pure staged

/-! ## Owners -/

/-- The column of an owner type that parents refer to. -/
def ownerColumn (node : PathNode) (j : OwnerJoin) (s : Schema) : Run reg σ ColumnInfo := do
  match j.ownerKey with
  | none => mapped s node s.primaryKey
  | some key =>
    match ← Run.resolve s.type key with
    | some column => mapped s node column
    | none => throw (.misconfigured node.name s.type (.notMapped key))

/-- Fetches the owners of one discriminator, with all that is requested below them. -/
def stageOwners (db : Database σ) (plan : Plan)
    (descend : String → List Entity → Run reg σ (List Entity)) (node : PathNode) (j : OwnerJoin)
    (discriminator : String) (index : KeyIndex) : Run reg σ (List (Nat × (String × Entity))) := do
  match j.types.get? discriminator with
  | none =>
    Run.emit (.skippedDiscriminator node.path discriminator index.size)
    pure []
  | some type =>
    let s ← Run.schema type
    let column ← ownerColumn node j s
    let rows ← plan.select db node type s.val.table (among column.column index.values)
    let owners ← descend type rows
    let staged ← MonadExcept.ofExcept (index.correlate column owners)
    Run.emit (.loadedOwners node.path discriminator type rows.length)
    pure (staged.map fun p => (p.1, discriminator, p.2))

/-- Fetches the owners of every discriminator in turn. -/
def stageGroups (db : Database σ) (plan : Plan)
    (descend : String → List Entity → Run reg σ (List Entity)) (node : PathNode) (j : OwnerJoin) :
    List (String × KeyIndex) → Run reg σ (List (Nat × (String × Entity)))
  | [] => pure []
  | (discriminator, index) :: rest => do
    let staged ← plan.stageOwners db descend node j discriminator index
    let others ← plan.stageGroups db descend node j rest
    pure (staged ++ others)

/-! ## Any relation -/

/-- The relation of a node on a type, and what it is going to hold. -/
def stage (db : Database σ) (plan : Plan)
    (descend : String → List Entity → Run reg σ (List Entity)) (node : PathNode) (type : String)
    (parents : List Entity) : Run reg σ (RelationInfo × Staged) := do
  let s ← Run.schema type
  let info ← MonadExcept.ofExcept (relation s.val node)
  match plan.descriptor? type node with
  | none => throw (.unknownRelation node.name type)
  | some (.belongsToMany j) =>
    let staged ← plan.stagePivot db node j s parents
    pure (info, .rows .belongsToMany j.target staged)
  | some (.morphTo j) =>
    let typeColumn ← mapped s node j.typeColumn
    let idColumn ← mapped s node j.idColumn
    let groups ← MonadExcept.ofExcept (OwnerJoin.groups typeColumn idColumn parents)
    let staged ← plan.stageGroups db descend node j groups.entries
    pure (info, .owners staged)
  | some (.hasOne j) =>
    let staged ← plan.stageKeyed db node .hasOne j s parents
    pure (info, .rows .hasOne j.target staged)
  | some (.hasMany j) =>
    let staged ← plan.stageKeyed db node .hasMany j s parents
    pure (info, .rows .hasMany j.target staged)
  | some (.belongsTo j) =>
    let staged ← plan.stageKeyed db node .belongsTo j s parents
    pure (info, .rows .belongsTo j.target staged)
  | some (.morphOne j) =>
    let staged ← plan.stageKeyed db node .morphOne j s parents
    pure (info, .rows .morphOne j.target staged)
  | some (.morphMany j) =>
    let staged ← plan.stageKeyed db node .morphMany j s parents
    pure (info, .rows .morphMany j.target staged)

end Plan

end EntityGraph
