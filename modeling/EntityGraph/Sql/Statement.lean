import EntityGraph.Sql.Scope

/-!
# Statements and rows

What is handed to a database, and what comes back. A statement keeps its parts; its text and its
arguments are derived from them.
-/

namespace EntityGraph.Sql

/-- What a statement is run for. -/
inductive Purpose where
  | select
  | count
  | relation
  | pivot
  deriving DecidableEq, Repr

def Purpose.text : Purpose → String
  | .select => "select"
  | .count => "count"
  | .relation => "relation"
  | .pivot => "pivot"

inductive Statement where
  | select (table : String) (columns : List String) (scope : Scope)
  | count (table : String) (scope : Scope)
  /-- A text written by the caller. -/
  | raw (text : String) (args : List Value)
  deriving DecidableEq, Repr

namespace Statement

def text : Statement → String
  | select table columns scope => scope.selectText table columns
  | count table scope => scope.countText table
  | raw text _ => text

def args : Statement → List Value
  | select _ _ scope => scope.params
  | count _ scope => scope.params
  | raw _ args => args

end Statement

/-- A row: column names with their values, in select order. Names may repeat. -/
structure Record where
  columns : List (String × Value) := []
  deriving DecidableEq, Repr

namespace Record

def push (r : Record) (name : String) (value : Value) : Record := ⟨r.columns ++ [(name, value)]⟩

/-- The value of the first column of that name. -/
def get? (r : Record) (name : String) : Option Value := r.columns.lookup name

def size (r : Record) : Nat := r.columns.length

def isEmpty (r : Record) : Bool := r.columns.isEmpty

end Record

end EntityGraph.Sql
