import EntityGraph.Entity
import EntityGraph.Load.KeyIndex
import EntityGraph.Relation.Descriptor

/-!
# Levels

One relation on a whole batch of parents. Rows are matched to parents by encoded keys, and nothing
is assigned until every row of the level is at hand: a level is staged first, as rows with the
positions of their parents, and then committed at once.
-/

namespace EntityGraph

/-! ## Keys -/

/-- The key that an entity holds in a column: its encoded text and the value itself. The zero of the
column's type is no key. -/
def Row.joinKey? (e : Entity) (column : ColumnInfo) : Except Error (Option (String × Sql.Value)) :=
  match e.cell? column.path with
  | none => .ok none
  | some c =>
    if c.isZero then .ok none
    else
      match c.toKey with
      | .ok key => .ok (some (key.encode, c.toSql))
      | .error e => .error (.key e)

namespace KeyIndex

/-- Adds entities by their keys, the first one at a position. -/
def addAll (column : ColumnInfo) : Nat → List Entity → KeyIndex → Except Error KeyIndex
  | _, [], index => .ok index
  | position, e :: rest, index =>
    match e.joinKey? column with
    | .ok none => addAll column (position + 1) rest index
    | .ok (some (key, value)) =>
      addAll column (position + 1) rest (index.insert key value position)
    | .error why => .error why

/-- The positions of a batch by key; entities without a key are left out. -/
def ofBatch (column : ColumnInfo) (batch : List Entity) : Except Error KeyIndex :=
  addAll column 0 batch {}

/-- The positions that an entity belongs to by its key. -/
def matching (index : KeyIndex) (column : ColumnInfo) (e : Entity) : Except Error (List Nat) :=
  match e.joinKey? column with
  | .ok none => .ok []
  | .ok (some (key, _)) => .ok ((index.get? key).getD [])
  | .error why => .error why

/-- Every entity with each position it belongs to, in the order of the entities. -/
def correlate (index : KeyIndex) (column : ColumnInfo) :
    List Entity → Except Error (List (Nat × Entity))
  | [] => .ok []
  | e :: rest => do
    let positions ← index.matching column e
    let others ← index.correlate column rest
    pure (positions.map (·, e) ++ others)

end KeyIndex

/-! ## Pivot rows -/

namespace PivotJoin

/-- Links a position to a key, unless it is linked already. -/
def linkPosition (key : String) (value : Sql.Value) (links : KeyIndex) (position : Nat) :
    KeyIndex :=
  if ((links.get? key).getD []).contains position then links else links.insert key value position

/-- Adds the links of a pivot row. A row lacks a column, or holds a zero key, or belongs to no
parent, if it links nothing. -/
def link (j : PivotJoin) (parents links : KeyIndex) (r : Sql.Record) : Except Error KeyIndex :=
  match r.get? j.foreignPivotKey, r.get? j.relatedPivotKey with
  | some owner, some target => do
    let ownerKey ← (Key.ofValue owner).mapError Error.key
    let targetKey ← (Key.ofValue target).mapError Error.key
    if ownerKey.isZero || targetKey.isZero then pure links
    else
      pure (((parents.get? ownerKey.encode).getD []).foldl
        (linkPosition targetKey.encode target) links)
  | _, _ => .ok links

/-- The positions of the parents by the keys that pivot rows link them to. -/
def links (j : PivotJoin) (parents : KeyIndex) (rows : List Sql.Record) : Except Error KeyIndex :=
  rows.foldlM (j.link parents) {}

end PivotJoin

/-! ## Owners -/

namespace OwnerJoin

/-- The discriminator that a parent holds: a text that is not empty. -/
def discriminatorOf (column : ColumnInfo) (e : Entity) : Option String :=
  match (e.cell? column.path).map Cell.toSql with
  | some (.text s) => if s.isEmpty then none else some s
  | _ => none

def addParents (type id : ColumnInfo) :
    Nat → List Entity → ByName KeyIndex → Except Error (ByName KeyIndex)
  | _, [], groups => .ok groups
  | position, e :: rest, groups =>
    match discriminatorOf type e with
    | none => addParents type id (position + 1) rest groups
    | some discriminator =>
      match e.joinKey? id with
      | .ok none => addParents type id (position + 1) rest groups
      | .ok (some (key, value)) =>
        addParents type id (position + 1) rest
          (groups.update discriminator fun index => (index.getD {}).insert key value position)
      | .error why => .error why

/-- The parents by discriminator and id; those that lack either are left out. -/
def groups (type id : ColumnInfo) (parents : List Entity) : Except Error (ByName KeyIndex) :=
  addParents type id 0 parents .empty

end OwnerJoin

/-! ## Staged levels -/

/-- What a relation is going to hold, by the positions of the parents. -/
inductive Staged where
  | rows (kind : RelationKind) (target : String) (rows : List (Nat × Entity))
  | owners (owners : List (Nat × (String × Entity)))

namespace Staged

/-- What is staged for one position, in order. -/
def atPosition {α : Type} (staged : List (Nat × α)) (position : Nat) : List α :=
  (staged.filter (·.1 = position)).map Prod.snd

/-- The content of the relation at a position: all rows, or the first one. -/
def item : Staged → Nat → Item
  | rows kind _ staged, position =>
    if kind.isMany then .many (atPosition staged position)
    else .one (atPosition staged position).head?
  | owners staged, position => .owner (atPosition staged position).head?

/-- Replaces the relation of every parent. -/
def commit (s : Staged) (slot : Nat) (parents : List Entity) : List Entity :=
  parents.mapIdx fun position e => e.setItem slot (s.item position)

end Staged

/-! ## Children -/

/-- The entities that a relation of the parents holds, parent by parent. -/
def gather (slot : Nat) (parents : List Entity) : List Entity :=
  parents.flatMap (·.children slot)

/-- Puts entities back where they were gathered. -/
def scatter (slot : Nat) : List Entity → List Entity → List Entity
  | [], _ => []
  | e :: rest, children =>
    let n := (e.children slot).length
    e.setChildren slot (children.take n) :: scatter slot rest (children.drop n)

end EntityGraph
