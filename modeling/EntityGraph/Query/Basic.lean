import EntityGraph.Load.Batch

/-!
# Queries

A query is a description: the entity type, a scope, the columns to select and the relations to load
with the rows. Running it checks every name and plans every relation before its statement is issued.
-/

namespace EntityGraph

open Sql (Value Filter Scope ScopeOp)

structure Query where
  type : String
  scope : Scope := {}
  /-- The columns to select; all of them if none are given. -/
  columns : Option (List String) := none
  eager : Eager := {}

namespace Query

/-! ## Building -/

/-- The query that no row satisfies. -/
def none (type : String) : Query := { type := type, scope := ({} : Scope).filter .nothing }

def filter (q : Query) (f : Filter) : Query := { q with scope := q.scope.filter f }

def orderBy (q : Query) (spec : String) : Query := { q with scope := q.scope.orderBy spec }

/-- The query for at most `n` rows. -/
def limit (q : Query) (n : Int) : Query := { q with scope := { q.scope with limit := some n } }

/-! ## Running -/

variable {reg : Registry} {σ : Type}

/-- The columns to select, checked. -/
def selected (q : Query) (s : Schema) : Run reg σ (List String) := do
  match q.columns with
  | .none => pure s.columnNames
  | some columns =>
    Run.checkNames columns
    columns.mapM (Run.resolveOrKeep q.type)

/-- All entities that satisfy the query, with the relations that it asks for. -/
def execute (db : Database σ) (q : Query) : Run reg σ (List Entity) := do
  let s ← Run.schema q.type
  Run.checkName s.val.table
  Run.checkNames q.scope.names
  let columns ← q.selected s
  let plan ← Plan.make q.eager q.type
  let records ← Run.issue db .select (.select s.val.table columns q.scope)
  let entities ← MonadExcept.ofExcept (s.val.scanAll records)
  Run.ofLoaded (plan.load db q.type entities)

/-- The first entity that satisfies the query, if there is one. -/
def first (db : Database σ) (q : Query) : Run reg σ (Option Entity) :=
  List.head? <$> execute db (q.limit 1)

/-- The only entity that satisfies the query. -/
def get (db : Database σ) (q : Query) : Run reg σ Entity := do
  match ← execute db (q.limit 2) with
  | [] => throw .notFound
  | [e] => pure e
  | _ => throw .multiple

/-- The integer in the first column of the first row. -/
def countIn (records : List Sql.Record) : Option Int64 := do
  let record ← records.head?
  let column ← record.columns.head?
  column.2.asInt

/-- The number of rows that satisfy the query. -/
def count (db : Database σ) (q : Query) : Run reg σ Int64 := do
  let s ← Run.schema q.type
  Run.checkName s.val.table
  Run.checkNames q.scope.names
  let records ← Run.issue db .count (.count s.val.table q.scope)
  match countIn records with
  | some n => pure n
  | .none => throw (.decode q.type .count)

/-- Whether any row satisfies the query. -/
def any (db : Database σ) (q : Query) : Run reg σ Bool := do
  let n ← q.count db
  pure (0 < n)

/-! ## Queries by primary key -/

/-- The query for a primary key. -/
def byKey (type : String) (key : Value) : Run reg σ Query := do
  let s ← Run.schema type
  pure ({ type := type : Query }.filter (.compare s.val.primaryKey .eq key))

/-- The query for the greatest primary key first. -/
def latest (type : String) : Run reg σ Query := do
  let s ← Run.schema type
  pure ({ type := type : Query }.orderBy ("-" ++ s.val.primaryKey))

/-! ## Statements of the caller -/

/-- The rows of a statement written by the caller. -/
def rows (db : Database σ) (text : String) (args : List Value) : Run reg σ (List Sql.Record) :=
  Run.issue db .select (.raw text args)

end Query

/-! ## Operations -/

/-- One addition to a query. -/
inductive QueryOp where
  | scope (op : ScopeOp)
  /-- Selects these columns only. -/
  | only (columns : List String)
  | eager (op : EagerOp)

def QueryOp.apply (q : Query) : QueryOp → Query
  | .scope op => { q with scope := op.apply q.scope }
  | .only columns => { q with columns := some columns }
  | .eager op => { q with eager := op.apply q.eager }

def Query.applyAll (q : Query) (ops : List QueryOp) : Query := ops.foldl QueryOp.apply q

end EntityGraph
