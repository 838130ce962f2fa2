import EntityGraph.ByName
import EntityGraph.Relation.Kind
import EntityGraph.Text.Shown

/-!
# Relation descriptors

A relation with all its names settled: the tables it reads and the columns that join them.
-/

namespace EntityGraph

/-! ## Owner types -/

/-- The type that each discriminator stands for. The map keeps its entries by name, but nothing says
in which order it is walked. -/
abbrev OwnerTypes : Type := ByName String

namespace OwnerTypes

def ofList (types : List (String × String)) : OwnerTypes :=
  types.foldl (fun t p => t.insert p.1 p.2) .empty

/-- The types as they are shown for diagnosis. -/
def diagnostic (t : OwnerTypes) : String :=
  Text.shownEntries (t.entries.map fun p => (p.1, Text.quoted p.2))

end OwnerTypes

/-! ## Joins -/

/-- A related table that is joined to the parents on one column each. -/
structure Join where
  target : String
  table : String
  parentColumn : String
  childColumn : String
  /-- Another column of the related table, and the text it must hold. -/
  discriminator : Option (String × String) := none
  deriving DecidableEq, Repr

/-- A related table that is joined to the parents through a pivot table. -/
structure PivotJoin where
  target : String
  table : String
  pivotTable : String
  /-- The pivot column that refers to the parent. -/
  foreignPivotKey : String
  /-- The pivot column that refers to the related row. -/
  relatedPivotKey : String
  parentKey : String
  relatedKey : String
  deriving DecidableEq, Repr

/-- Tables of owners that the parents refer to by type and id. -/
structure OwnerJoin where
  typeColumn : String
  idColumn : String
  /-- The column of the owners that the id refers to, their primary key if none is given. -/
  ownerKey : Option String
  types : OwnerTypes

inductive Descriptor where
  | hasOne (j : Join)
  | hasMany (j : Join)
  | belongsTo (j : Join)
  | belongsToMany (j : PivotJoin)
  | morphOne (j : Join)
  | morphMany (j : Join)
  | morphTo (j : OwnerJoin)

def Descriptor.kind : Descriptor → RelationKind
  | hasOne _ => .hasOne
  | hasMany _ => .hasMany
  | belongsTo _ => .belongsTo
  | belongsToMany _ => .belongsToMany
  | morphOne _ => .morphOne
  | morphMany _ => .morphMany
  | morphTo _ => .morphTo

end EntityGraph
