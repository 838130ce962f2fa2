/-!
# Relation kinds

The seven ways in which the rows of two tables belong together.
-/

namespace EntityGraph

inductive RelationKind where
  /-- The related table holds the key of the parent; at most one row. -/
  | hasOne
  /-- The related table holds the key of the parent; any number of rows. -/
  | hasMany
  /-- The parent holds the key of the related row. -/
  | belongsTo
  /-- A pivot table pairs parents with related rows. -/
  | belongsToMany
  /-- The related table names the type and key of its owner; at most one row. -/
  | morphOne
  /-- The related table names the type and key of its owner; any number of rows. -/
  | morphMany
  /-- The parent names the type and key of its owner. -/
  | morphTo
  deriving DecidableEq, Repr

namespace RelationKind

/-- Whether the relation fills a list. -/
def isMany : RelationKind → Bool
  | hasMany | belongsToMany | morphMany => true
  | _ => false

def text : RelationKind → String
  | hasOne => "has_one"
  | hasMany => "has_many"
  | belongsTo => "belongs_to"
  | belongsToMany => "belongs_to_many"
  | morphOne => "morph_one"
  | morphMany => "morph_many"
  | morphTo => "morph_to"

def all : List RelationKind :=
  [hasOne, hasMany, belongsTo, belongsToMany, morphOne, morphMany, morphTo]

end RelationKind

end EntityGraph
