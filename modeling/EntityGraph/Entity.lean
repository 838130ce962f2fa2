import EntityGraph.Schema.Basic

/-!
# Entities

The values of entity types: one item for each member of the type, in order. A column is reached by
its path, one index for each level of embedding; a relation by its position.
-/

namespace EntityGraph

/-- An entity with items of some kind. -/
structure Row (α : Type) where
  type : String
  items : List α

/-- The content of a member. -/
inductive Item where
  | cell (c : Cell)
  | embedded (items : List Item)
  /-- A relation to at most one entity. -/
  | one (entity : Option (Row Item))
  /-- A relation to any number of entities. -/
  | many (entities : List (Row Item))
  /-- The owner under a discriminator. -/
  | owner (value : Option (String × Row Item))

abbrev Entity : Type := Row Item

/-! ## Fresh entities -/

/-- The unloaded content of a relation. -/
def RelationKind.emptyItem (k : RelationKind) : Item :=
  match k with
  | .morphTo => .owner none
  | k => if k.isMany then .many [] else .one none

mutual

def Member.default : Member → Item
  | .column _ type _ _ _ => .cell (Cell.default type)
  | .embed _ _ members => .embedded (memberDefaults members)
  | .relation _ shape _ => shape.kind.emptyItem

def memberDefaults : List Member → List Item
  | [] => []
  | m :: ms => m.default :: memberDefaults ms

end

/-- The entity with the default of every column and no relation loaded. -/
def Schema.fresh (s : Schema) : Entity := ⟨s.type, memberDefaults s.members⟩

/-! ## Columns -/

/-- The cell at a path. -/
def cellAt? : List Nat → List Item → Option Cell
  | [], _ => none
  | i :: path, items =>
    match items[i]? with
    | some (.cell c) => if path.isEmpty then some c else none
    | some (.embedded inner) => cellAt? path inner
    | _ => none

/-- The items with the cell at a path replaced. -/
def setCellAt (c : Cell) : List Nat → List Item → List Item
  | [], items => items
  | i :: path, items =>
    match items[i]? with
    | some (.cell _) => items.set i (.cell c)
    | some (.embedded inner) => items.set i (.embedded (setCellAt c path inner))
    | _ => items

namespace Row

def cell? (e : Entity) (path : List Nat) : Option Cell := cellAt? path e.items

def setCell (e : Entity) (path : List Nat) (c : Cell) : Entity :=
  { e with items := setCellAt c path e.items }

/-! ## Relations -/

def item? (e : Entity) (position : Nat) : Option Item := e.items[position]?

def setItem (e : Entity) (position : Nat) (item : Item) : Entity :=
  { e with items := e.items.set position item }

/-- The entities that a relation holds. -/
def children (e : Entity) (position : Nat) : List Entity :=
  match e.item? position with
  | some (.one child) => child.toList
  | some (.many children) => children
  | _ => []

/-- Puts the entities of a relation back after they were worked on. -/
def setChildren (e : Entity) (position : Nat) (children : List Entity) : Entity :=
  match e.item? position with
  | some (.one _) => e.setItem position (.one children.head?)
  | some (.many _) => e.setItem position (.many children)
  | _ => e

end Row

/-! ## Rows -/

namespace Schema

/-- Reads one value of a row into its column; a column that is not mapped is left out. -/
def readColumn (s : Schema) (e : Entity) (name : String) (v : Sql.Value) : Except Error Entity :=
  match s.column? name with
  | none => .ok e
  | some c =>
    match (⟨c.type, c.type.default⟩ : Cell).read v with
    | .ok cell => .ok (e.setCell c.path cell)
    | .error why => .error (.decode s.type (.column name why))

def readColumns (s : Schema) (e : Entity) : List (String × Sql.Value) → Except Error Entity
  | [] => .ok e
  | (name, v) :: rest => do
    let e ← s.readColumn e name v
    s.readColumns e rest

/-- The entity of a row. Columns that the row lacks keep their defaults. -/
def scan (s : Schema) (r : Sql.Record) : Except Error Entity := s.readColumns s.fresh r.columns

def scanAll (s : Schema) (rs : List Sql.Record) : Except Error (List Entity) := rs.mapM s.scan

end Schema

end EntityGraph
