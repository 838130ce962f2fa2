/-!
# Annotations

Structure descriptions carry annotations: a name alone, a name with a value, or a name with a list
of annotations in parentheses. Here are the rules of reading them that do not depend on what they
mean.
-/

namespace EntityGraph

mutual

structure Annotation where
  name : String
  argument : Annotation.Argument

/-- What follows the name of an annotation. -/
inductive Annotation.Argument where
  | none
  | text (s : String)
  /-- A value that is not a text. -/
  | literal
  | list (items : List Annotation)

end

/-- Why a description of a structure cannot be read. -/
inductive AnnotationError where
  /-- An annotation stands alone where a list is needed. -/
  | listMissing (name : String)
  /-- An annotation has a value where a list is needed. -/
  | listExpected (name : String)
  | valueExpected
  | textExpected
  | separatorExpected
  /-- No parenthesis follows, at the end of the list or before its end. -/
  | parenthesesExpected (atEnd : Bool)
  | itemExpected
  | unknown (list : String)
  | kindMissing (suggestion : String)
  | kindRepeated
  | morphNameMissing
  | morphMisplaced
  | targetsMisplaced
  | pivotKeysApart
  | morphColumnsApart
  | fieldsNotNamed
  | notStruct
  | noColumns
  deriving DecidableEq, Repr

def AnnotationError.message : AnnotationError → String
  | listMissing name => "expected attribute arguments in parentheses: #[" ++ name ++ "(...)]"
  | listExpected name => "expected parentheses: #[" ++ name ++ "(...)]"
  | valueExpected => "expected `=`"
  | textExpected => "expected string literal"
  | separatorExpected => "expected `,`"
  | parenthesesExpected true => "unexpected end of input, expected parentheses"
  | parenthesesExpected false => "expected parentheses"
  | itemExpected => "unexpected end of input, expected nested attribute"
  | unknown list => "unknown " ++ list ++ " attribute"
  | kindMissing suggestion => "missing relation kind, e.g. #[relation(" ++ suggestion ++ ")]"
  | kindRepeated => "only one relation kind is allowed"
  | morphNameMissing => "morph_one and morph_many need `morph = \"...\"`"
  | morphMisplaced => "morph options only apply to morph relations"
  | targetsMisplaced => "`targets` only applies to morph_to"
  | pivotKeysApart => "`foreign_pivot_key` and `related_pivot_key` must be given together"
  | morphColumnsApart => "`morph_type` and `morph_id` must be given together"
  | fieldsNotNamed => "Entity derive only supports structs with named fields"
  | notStruct => "Entity derive only supports structs"
  | noColumns => "Entity derive requires at least one column"

namespace Annotation

/-- The items of an annotation that must have a list. -/
def items (a : Annotation) : Except AnnotationError (List Annotation) :=
  match a.argument with
  | .list items => .ok items
  | .none => .error (.listMissing a.name)
  | .text _ | .literal => .error (.listExpected a.name)

/-- An item that must stand alone. -/
def alone (a : Annotation) : Except AnnotationError Unit :=
  match a.argument with
  | .none => .ok ()
  | _ => .error .separatorExpected

/-- The text that an item must have. -/
def textValue (a : Annotation) : Except AnnotationError String :=
  match a.argument with
  | .text s => .ok s
  | .literal => .error .textExpected
  | .none | .list _ => .error .valueExpected

/-- The text that an item may have. -/
def optionalText (a : Annotation) : Except AnnotationError (Option String) :=
  match a.argument with
  | .none => .ok none
  | .text s => .ok (some s)
  | .literal => .error .textExpected
  | .list _ => .error .separatorExpected

/-- The items that an item must have, at least one. -/
def nestedItems (a : Annotation) (atEnd : Bool) : Except AnnotationError (List Annotation) :=
  match a.argument with
  | .list [] => .error .itemExpected
  | .list items => .ok items
  | .none => .error (.parenthesesExpected atEnd)
  | .text _ | .literal => .error (.parenthesesExpected false)

/-- Reads items in order; a step is told whether its item is the last one. -/
def readItems {σ : Type} (step : σ → Annotation → (atEnd : Bool) → Except AnnotationError σ) :
    List Annotation → σ → Except AnnotationError σ
  | [], s => .ok s
  | a :: rest, s => do
    let s ← step s a rest.isEmpty
    readItems step rest s

end Annotation

end EntityGraph
