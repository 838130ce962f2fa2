import EntityGraph.Annotation.Basic
import EntityGraph.Schema.Registration

/-!
# Options in annotations

What annotations say about a type, a column or a relation. An option that is given twice counts as
given last, except that a relation has one kind only.
-/

namespace EntityGraph

open Annotation (readItems)

/-! ## Types -/

/-- Names given for a type. -/
structure TypeOptions where
  table : Option String := none
  primaryKey : Option String := none
  morphAlias : Option String := none
  deriving DecidableEq, Repr

def TypeOptions.add (o : TypeOptions) (a : Annotation) (_ : Bool) :
    Except AnnotationError TypeOptions :=
  match a.name with
  | "table" => a.textValue.map fun s => { o with table := some s }
  | "primary_key" => a.textValue.map fun s => { o with primaryKey := some s }
  | "morph_alias" => a.textValue.map fun s => { o with morphAlias := some s }
  | _ => .error (.unknown "entity")

/-- The options of a type, from all its annotations. -/
def TypeOptions.read : List Annotation → TypeOptions → Except AnnotationError TypeOptions
  | [], o => .ok o
  | a :: rest, o =>
    if a.name = "entity" then do
      let items ← a.items
      let o ← readItems TypeOptions.add items o
      TypeOptions.read rest o
    else TypeOptions.read rest o

/-! ## Columns -/

structure ColumnOptions where
  name : Option String := none
  primaryKey : Bool := false
  auto : Bool := false
  /-- Whether the field is no column at all. -/
  skip : Bool := false
  deriving DecidableEq, Repr

def ColumnOptions.add (o : ColumnOptions) (a : Annotation) (_ : Bool) :
    Except AnnotationError ColumnOptions :=
  match a.name with
  | "primary_key" => a.alone.map fun _ => { o with primaryKey := true }
  | "auto" => a.alone.map fun _ => { o with auto := true }
  | "skip" => a.alone.map fun _ => { o with skip := true }
  | "name" => a.textValue.map fun s => { o with name := some s }
  | _ => .error (.unknown "column")

/-- The options of a column, from all annotations of its field. One that stands alone says
nothing. -/
def ColumnOptions.read : List Annotation → ColumnOptions → Except AnnotationError ColumnOptions
  | [], o => .ok o
  | ⟨"column", .none⟩ :: rest, o => ColumnOptions.read rest o
  | a :: rest, o =>
    if a.name = "column" then do
      let items ← a.items
      let o ← readItems ColumnOptions.add items o
      ColumnOptions.read rest o
    else ColumnOptions.read rest o

/-! ## Relations -/

/-- The kind of relation that a name stands for. -/
def relationKind? : String → Option RelationKind
  | "has_one" => some .hasOne
  | "has_many" => some .hasMany
  | "belongs_to" => some .belongsTo
  | "many_to_many" => some .belongsToMany
  | "morph_one" => some .morphOne
  | "morph_many" => some .morphMany
  | "morph_to" => some .morphTo
  | _ => none

/-- What is said about a relation, before it is known to fit together. -/
structure RelationDraft where
  kind : Option RelationKind := none
  morph : Option String := none
  foreignPivotKey : Option String := none
  relatedPivotKey : Option String := none
  morphType : Option String := none
  morphId : Option String := none
  /-- The options that stand on their own. -/
  options : RelationOptions := {}
  deriving DecidableEq, Repr

namespace RelationDraft

def addTarget (targets : List (String × Option String)) (a : Annotation) (_ : Bool) :
    Except AnnotationError (List (String × Option String)) :=
  a.optionalText.map fun discriminator => targets ++ [(a.name, discriminator)]

def addKind (d : RelationDraft) (a : Annotation) (kind : RelationKind) :
    Except AnnotationError RelationDraft :=
  match d.kind with
  | some _ => .error .kindRepeated
  | none => a.alone.map fun _ => { d with kind := some kind }

def addOption (d : RelationDraft) (a : Annotation) (atEnd : Bool) :
    Except AnnotationError RelationDraft :=
  let o := d.options
  match a.name with
  | "name" => a.textValue.map fun s => { d with options := { o with name := some s } }
  | "foreign_key" =>
    a.textValue.map fun s => { d with options := { o with foreignKey := some s } }
  | "owner_key" => a.textValue.map fun s => { d with options := { o with ownerKey := some s } }
  | "table" => a.textValue.map fun s => { d with options := { o with table := some s } }
  | "pivot" => a.textValue.map fun s => { d with options := { o with pivot := some s } }
  | "foreign_pivot_key" => a.textValue.map fun s => { d with foreignPivotKey := some s }
  | "related_pivot_key" => a.textValue.map fun s => { d with relatedPivotKey := some s }
  | "related_key" =>
    a.textValue.map fun s => { d with options := { o with relatedKey := some s } }
  | "morph" => a.textValue.map fun s => { d with morph := some s }
  | "morph_type" => a.textValue.map fun s => { d with morphType := some s }
  | "morph_id" => a.textValue.map fun s => { d with morphId := some s }
  | "targets" => do
    let items ← a.nestedItems atEnd
    let targets ← readItems addTarget items o.targets
    pure { d with options := { o with targets := targets } }
  | _ => .error (.unknown "relation")

def add (d : RelationDraft) (a : Annotation) (atEnd : Bool) :
    Except AnnotationError RelationDraft :=
  match relationKind? a.name with
  | some kind => d.addKind a kind
  | none => d.addOption a atEnd

/-- The draft of a relation by its annotation. -/
def read (a : Annotation) : Except AnnotationError RelationDraft :=
  match a.argument with
  | .none => .error (.kindMissing "belongs_to")
  | _ => do
    let items ← a.items
    readItems add items {}

/-- Two names that are given together or not at all. -/
def both (first second : Option String) (why : AnnotationError) :
    Except AnnotationError (Option (String × String)) :=
  match first, second with
  | some a, some b => .ok (some (a, b))
  | none, none => .ok none
  | _, _ => .error why

/-- The shape of a relation that a field of some type holds. -/
def shape (d : RelationDraft) (field type : String) : Except AnnotationError RelationShape :=
  match d.kind with
  | none => .error (.kindMissing "has_many")
  | some .hasOne => .ok (.hasOne type)
  | some .hasMany => .ok (.hasMany type)
  | some .belongsTo => .ok (.belongsTo type)
  | some .belongsToMany => .ok (.belongsToMany type)
  | some .morphTo => .ok (.morphTo (d.morph.getD field))
  | some .morphOne =>
    match d.morph with
    | some morph => .ok (.morphOne type morph)
    | none => .error .morphNameMissing
  | some .morphMany =>
    match d.morph with
    | some morph => .ok (.morphMany type morph)
    | none => .error .morphNameMissing

/-- Whether owners of several types take part. -/
def isMorph : RelationKind → Bool
  | .morphOne | .morphMany | .morphTo => true
  | _ => false

/-- The relation, if all that is said about it fits together. -/
def finish (d : RelationDraft) (field type : String) :
    Except AnnotationError (RelationShape × RelationOptions) := do
  let shape ← d.shape field type
  if !isMorph shape.kind && (d.morph.isSome || d.morphType.isSome) then throw .morphMisplaced
  if shape.kind ≠ .morphTo && !d.options.targets.isEmpty then throw .targetsMisplaced
  let pivotKeys ← both d.foreignPivotKey d.relatedPivotKey .pivotKeysApart
  let morphColumns ← both d.morphType d.morphId .morphColumnsApart
  pure (shape, { d.options with pivotKeys := pivotKeys, morphColumns := morphColumns })

end RelationDraft

end EntityGraph
