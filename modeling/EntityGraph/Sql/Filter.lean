import EntityGraph.Sql.Identifier
import EntityGraph.Sql.Value

/-!
# Filters

Conditions on a row as trees. A filter is written with a placeholder for every value it holds; the
values stand beside the text in the order of their placeholders. Operands of AND and OR and the
operand of NOT are bracketed.
-/

namespace EntityGraph.Sql

inductive Comparison where
  | eq
  | ne
  | gt
  | gte
  | lt
  | lte
  deriving DecidableEq, Repr

namespace Comparison

def symbol : Comparison → String
  | eq => "="
  | ne => "!="
  | gt => ">"
  | gte => ">="
  | lt => "<"
  | lte => "<="

def diagnostic : Comparison → String
  | eq => "Eq"
  | ne => "Ne"
  | gt => "Gt"
  | gte => "Gte"
  | lt => "Lt"
  | lte => "Lte"

end Comparison

inductive Filter where
  | compare (field : String) (op : Comparison) (value : Value)
  | isNull (field : String)
  | isNotNull (field : String)
  /-- An empty list matches nothing. -/
  | inList (field : String) (values : List Value)
  /-- An empty list matches everything. -/
  | notInList (field : String) (values : List Value)
  /-- `%` stands for any characters and `_` for any one character. -/
  | like (field : String) (pattern : String)
  | between (field : String) (low high : Value)
  | and (left right : Filter)
  | or (left right : Filter)
  | not (inner : Filter)
  | nothing
  deriving DecidableEq, Repr

/-- As many placeholders as there are values. -/
def placeholders {α : Type} (values : List α) : String :=
  ", ".intercalate (values.map fun _ => "?")

namespace Filter

/-! ## Substring filters -/

def contains (field part : String) : Filter := like field ("%" ++ part ++ "%")

def startsWith (field part : String) : Filter := like field (part ++ "%")

def endsWith (field part : String) : Filter := like field ("%" ++ part)

/-! ## Text and values -/

/-- The condition with a placeholder for every value. -/
def text : Filter → String
  | compare field op _ => field ++ " " ++ op.symbol ++ " ?"
  | isNull field => field ++ " IS NULL"
  | isNotNull field => field ++ " IS NOT NULL"
  | inList _ [] => "1 = 0"
  | inList field (v :: vs) => field ++ " IN (" ++ placeholders (v :: vs) ++ ")"
  | notInList _ [] => "1 = 1"
  | notInList field (v :: vs) => field ++ " NOT IN (" ++ placeholders (v :: vs) ++ ")"
  | like field _ => field ++ " LIKE ?"
  | between field _ _ => field ++ " BETWEEN ? AND ?"
  | and left right => "(" ++ left.text ++ ") AND (" ++ right.text ++ ")"
  | or left right => "(" ++ left.text ++ ") OR (" ++ right.text ++ ")"
  | not inner => "NOT (" ++ inner.text ++ ")"
  | nothing => "1 = 0"

/-- The values in the order of their placeholders. -/
def params : Filter → List Value
  | compare _ _ value => [value]
  | isNull _ => []
  | isNotNull _ => []
  | inList _ values => values
  | notInList _ values => values
  | like _ pattern => [.text pattern]
  | between _ low high => [low, high]
  | and left right => left.params ++ right.params
  | or left right => left.params ++ right.params
  | not inner => inner.params
  | nothing => []

/-- The field names in the order they appear. -/
def fields : Filter → List String
  | compare field _ _ => [field]
  | isNull field => [field]
  | isNotNull field => [field]
  | inList field _ => [field]
  | notInList field _ => [field]
  | like field _ => [field]
  | between field _ _ => [field]
  | and left right => left.fields ++ right.fields
  | or left right => left.fields ++ right.fields
  | not inner => inner.fields
  | nothing => []

def check (f : Filter) : Except IdentifierError Unit := checkIdentifiers f.fields

end Filter

end EntityGraph.Sql
