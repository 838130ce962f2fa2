/-!
# Events

What a catalog and a load report while they work. An event has a level, a text and named details.
-/

namespace EntityGraph

inductive Event where
  | evicted (slot : Nat)
  | flattened (embedded field : String)
  | builtMetadata (entity table : String) (columns relations : Nat)
  | registered (entity : String)
  | executing (op sql : String) (args : Nat)
  | noParentKeys (relation kind : String)
  | noPivotRows (relation : String) (pivotRows : Nat)
  | loaded (relation kind : String) (parents rows assigned : Nat) (pivotRows : Option Nat)
  | skippedDiscriminator (relation discriminator : String) (parents : Nat)
  | loadedOwners (relation discriminator owner : String) (rows : Nat)
  deriving DecidableEq, Repr

inductive EventLevel where
  | trace
  | debug
  deriving DecidableEq, Repr

/-- A detail of an event: a text or a count. -/
inductive EventDetail where
  | text (s : String)
  | count (n : Nat)
  deriving DecidableEq, Repr

namespace Event

def level : Event → EventLevel
  | evicted _ => .trace
  | flattened _ _ => .trace
  | builtMetadata _ _ _ _ => .trace
  | registered _ => .trace
  | _ => .debug

def message : Event → String
  | evicted _ => "evicted least recently used cache entry"
  | flattened _ _ => "flattened embedded entity"
  | builtMetadata _ _ _ _ => "built entity metadata"
  | registered _ => "registered entity schema"
  | executing _ _ _ => "executing statement"
  | noParentKeys _ _ => "no parent keys, skipping query"
  | noPivotRows _ _ => "no pivot rows, skipping related query"
  | loaded _ _ _ _ _ _ => "loaded relation"
  | skippedDiscriminator _ _ _ => "skipping unmapped morph discriminator"
  | loadedOwners _ _ _ _ => "loaded morph owners"

def details : Event → List (String × EventDetail)
  | evicted slot => [("slot", .count slot)]
  | flattened embedded field => [("embedded", .text embedded), ("field", .text field)]
  | builtMetadata entity table columns relations =>
    [("entity", .text entity), ("table", .text table), ("columns", .count columns),
      ("relations", .count relations)]
  | registered entity => [("entity", .text entity)]
  | executing op sql args => [("op", .text op), ("sql", .text sql), ("args", .count args)]
  | noParentKeys relation kind => [("relation", .text relation), ("kind", .text kind)]
  | noPivotRows relation pivotRows =>
    [("relation", .text relation), ("pivot_rows", .count pivotRows)]
  | loaded relation kind parents rows assigned pivotRows =>
    [("relation", .text relation), ("kind", .text kind), ("parents", .count parents),
      ("rows", .count rows), ("assigned", .count assigned)]
      ++ (pivotRows.map fun n => ("pivot_rows", .count n)).toList
  | skippedDiscriminator relation discriminator parents =>
    [("relation", .text relation), ("discriminator", .text discriminator),
      ("parents", .count parents)]
  | loadedOwners relation discriminator owner rows =>
    [("relation", .text relation), ("discriminator", .text discriminator), ("owner", .text owner),
      ("rows", .count rows)]

end Event

end EntityGraph
