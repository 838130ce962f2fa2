import EntityGraph.Annotation.Options
import EntityGraph.Schema.Registry

/-!
# Annotated structures

The declaration that an annotated structure stands for. Every field is a relation, an embedded
entity or a column, and becomes one member of the declaration unless it is skipped. Types stand in
the declaration as they are written.
-/

namespace EntityGraph

/-- A field with its type as it is written. -/
structure AnnotatedField where
  name : String
  type : String
  annotations : List Annotation

/-- The form of a type description; only a structure with named fields can be an entity. -/
inductive StructForm where
  | named (fields : List AnnotatedField)
  | tuple
  | unit
  | enumeration
  | union

structure AnnotatedStruct where
  name : String
  annotations : List Annotation
  form : StructForm

/-- The member that a field stands for, if it is not skipped. The first annotation as a relation
counts, then any as an embedded entity, then those as a column. -/
def AnnotatedField.member (f : AnnotatedField) :
    Except AnnotationError (Option (MemberDecl String)) := do
  match f.annotations.find? (·.name = "relation") with
  | some a =>
    let draft ← RelationDraft.read a
    let (shape, options) ← draft.finish f.name f.type
    pure (some (.relation f.name shape options))
  | none =>
    if f.annotations.any (·.name = "embed") then pure (some (.embed f.name f.type))
    else
      let o ← ColumnOptions.read f.annotations {}
      if o.skip then pure none
      else pure (some (.column f.name f.type o.name o.primaryKey o.auto))

/-- Whether a member brings columns. -/
def MemberDecl.bringsColumns {τ : Type} : MemberDecl τ → Bool
  | .relation _ _ _ => false
  | _ => true

namespace AnnotatedStruct

/-- The members in the order of the fields. -/
def members : List AnnotatedField → Except AnnotationError (List (MemberDecl String))
  | [] => .ok []
  | f :: rest => do
    let member ← f.member
    let others ← members rest
    pure (member.toList ++ others)

/-- The declaration of the structure. -/
def declaration (s : AnnotatedStruct) : Except AnnotationError (Declaration String) := do
  let o ← TypeOptions.read s.annotations {}
  match s.form with
  | .named fields =>
    let ms ← members fields
    if ms.any MemberDecl.bringsColumns then
      pure
        { type := s.name
          table := o.table
          primaryKey := o.primaryKey
          morphAlias := o.morphAlias
          members := ms }
    else throw .noColumns
  | .tuple | .unit => throw .fieldsNotNamed
  | .enumeration | .union => throw .notStruct

end AnnotatedStruct

end EntityGraph
