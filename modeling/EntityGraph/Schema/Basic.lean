import EntityGraph.Error
import EntityGraph.Schema.Registry
import EntityGraph.Text.Casing

/-!
# Schemas

What follows from a registration: table, primary key and column names, given by convention where
the registration is silent. Where columns or relations share a name the last one counts.

The conventions need names in snake_case. `buildWith` takes the conversion as a parameter, so that a
catalog can remember converted names; `Registry.schema` is the schema itself.
-/

namespace EntityGraph

/-- A mapped column. -/
structure ColumnInfo where
  field : String
  column : String
  path : List Nat
  primaryKey : Bool
  auto : Bool
  type : ColumnType
  deriving DecidableEq, Repr

/-- A declared relation under its name. -/
structure RelationInfo where
  name : String
  field : String
  position : Nat
  shape : RelationShape
  options : RelationOptions
  deriving DecidableEq, Repr

def RelationDecl.info (r : RelationDecl) : RelationInfo :=
  { name := r.options.name.getD (Text.upperCamelCase r.field)
    field := r.field
    position := r.position
    shape := r.shape
    options := r.options }

structure Schema where
  type : String
  table : String
  primaryKey : String
  /-- The discriminator of the type in the type columns of other tables. -/
  morphAlias : String
  columns : List ColumnInfo
  relations : List RelationInfo
  members : List Member
  deriving Repr

namespace Schema

/-! ## Building -/

def asciiLower (s : String) : List Char := s.toList.map Char.toLower

/-- The primary key column: the one named by the registration, else the first one marked, else that
of the field named `id` in any case, else `id`. -/
def choosePrimaryKey (explicit : Option String) (columns : List (ColumnDecl × String)) : String :=
  match explicit with
  | some name => name
  | none =>
    match columns.find? fun p => p.1.primaryKey with
    | some p => p.2
    | none =>
      match columns.find? fun p => asciiLower p.1.field = ['i', 'd'] with
      | some p => p.2
      | none => "id"

/-- The schema of a registration with its table and column names. -/
def assemble (r : Registration) (table : String) (names : List String) : Schema :=
  let columns := r.columns.zip names
  let primaryKey := choosePrimaryKey r.primaryKey columns
  { type := r.type
    table := table
    primaryKey := primaryKey
    morphAlias := r.morphAlias.getD table
    columns := columns.map fun p =>
      ⟨p.1.field, p.2, p.1.path, p.2 = primaryKey, p.1.auto, p.1.type⟩
    relations := r.relations.map RelationDecl.info
    members := r.members }

section

variable {m : Type → Type} [Monad m]

def tableWith (snake : String → m String) (r : Registration) : m String :=
  match r.table with
  | some table => pure table
  | none => do
    let name ← snake r.type
    pure (name ++ "s")

def columnWith (snake : String → m String) (c : ColumnDecl) : m String :=
  match c.name with
  | some name => pure name
  | none => snake c.field

/-- The schema of a registration, with a conversion to snake_case that may have effects: first for
the table, then for the columns in order. -/
def buildWith (snake : String → m String) (r : Registration) : m Schema := do
  let table ← tableWith snake r
  let names ← r.columns.mapM (columnWith snake)
  pure (assemble r table names)

end

def build (r : Registration) : Schema := Id.run (buildWith (fun s => pure (Text.snakeCase s)) r)

/-! ## Looking up -/

/-- The column of that name. -/
def column? (s : Schema) (name : String) : Option ColumnInfo :=
  s.columns.reverse.find? (·.column = name)

/-- The column of the field of that name. -/
def field? (s : Schema) (name : String) : Option ColumnInfo :=
  s.columns.reverse.find? (·.field = name)

def columnNames (s : Schema) : List String := s.columns.map ColumnInfo.column

/-- A column or field by its exact name. -/
def named? (s : Schema) (name : String) : Option ColumnInfo := s.column? name <|> s.field? name

/-- The column that a name stands for: a column name, a field name, or any spelling whose snake_case
is a column name. -/
def resolve (s : Schema) (name : String) : Option String :=
  match s.named? name with
  | some c => some c.column
  | none => (s.column? (Text.snakeCase name)).map ColumnInfo.column

def relation? (s : Schema) (name : String) : Option RelationInfo :=
  s.relations.reverse.find? (·.name = name)

/-- The relation that fills a field. -/
def relationField? (s : Schema) (field : String) : Option RelationInfo :=
  s.relations.reverse.find? (·.field = field)

/-- The names of the relations in alphabetical order. -/
def relationNames (s : Schema) : List String :=
  ((s.relations.map RelationInfo.name).eraseDups).mergeSort fun a b => !(b < a)

end Schema

namespace Registry

/-- The schema of a type, which must have a column. -/
def schema (reg : Registry) (type : String) : Except Error Schema :=
  if (reg.get type).columns.isEmpty then .error (.noColumns type)
  else .ok (Schema.build (reg.get type))

/-- The column of a type that a name stands for. -/
def resolve (reg : Registry) (key : String × String) : Option String :=
  match reg.schema key.1 with
  | .ok s => s.resolve key.2
  | .error _ => none

end Registry

end EntityGraph
