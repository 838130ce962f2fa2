import EntityGraph.Sql.Filter

/-!
# Scopes

What a select asks for apart from its table and columns: conditions, order and paging. All filters
must hold and all excludes must not; they are joined by AND. An offset without a limit is written
with the limit -1, which means none.
-/

namespace EntityGraph.Sql

structure OrderBy where
  column : String
  descending : Bool
  deriving DecidableEq, Repr

namespace OrderBy

/-- A column name; a `-` in front asks for descending order. -/
def ofSpec (spec : String) : OrderBy :=
  match spec.toList with
  | '-' :: column => ⟨String.ofList column, true⟩
  | _ => ⟨spec, false⟩

def text (o : OrderBy) : String := o.column ++ (if o.descending then " DESC" else " ASC")

end OrderBy

structure Scope where
  filters : List Filter := []
  excludes : List Filter := []
  order : List OrderBy := []
  limit : Option Int := none
  offset : Option Int := none
  distinct : Bool := false
  deriving DecidableEq, Repr

namespace Scope

/-! ## Building -/

def filter (s : Scope) (f : Filter) : Scope := { s with filters := s.filters ++ [f] }

def exclude (s : Scope) (f : Filter) : Scope := { s with excludes := s.excludes ++ [f] }

def orderBy (s : Scope) (spec : String) : Scope :=
  { s with order := s.order ++ [OrderBy.ofSpec spec] }

/-- Replaces the order. -/
def reorder (s : Scope) (specs : List String) : Scope :=
  { s with order := specs.map OrderBy.ofSpec }

/-! ## Checking -/

/-- The names that become part of a statement, in the order they are checked. -/
def names (s : Scope) : List String :=
  (s.filters ++ s.excludes).flatMap Filter.fields ++ s.order.map OrderBy.column

def check (s : Scope) : Except IdentifierError Unit := checkIdentifiers s.names

/-! ## Text and values -/

def conditions (s : Scope) : List String :=
  s.filters.map Filter.text ++ s.excludes.map fun f => "NOT (" ++ f.text ++ ")"

def params (s : Scope) : List Value := (s.filters ++ s.excludes).flatMap Filter.params

def whereText (s : Scope) : String :=
  if s.conditions.isEmpty then "" else " WHERE " ++ " AND ".intercalate s.conditions

def orderText (s : Scope) : String :=
  if s.order.isEmpty then "" else " ORDER BY " ++ ", ".intercalate (s.order.map OrderBy.text)

def integerText (n : Int) : String := String.ofList (Number.decimal n)

def pageText (s : Scope) : String :=
  match s.limit, s.offset with
  | none, none => ""
  | some n, none => " LIMIT " ++ integerText n
  | none, some m => " LIMIT -1 OFFSET " ++ integerText m
  | some n, some m => " LIMIT " ++ integerText n ++ " OFFSET " ++ integerText m

def selectText (s : Scope) (table : String) (columns : List String) : String :=
  "SELECT " ++ (if s.distinct then "DISTINCT " else "")
    ++ (if columns.isEmpty then "*" else ", ".intercalate columns)
    ++ " FROM " ++ table ++ s.whereText ++ s.orderText ++ s.pageText

def countText (s : Scope) (table : String) : String :=
  "SELECT COUNT(*) FROM " ++ table ++ s.whereText

end Scope

/-! ## Operations -/

/-- One change to a scope. -/
inductive ScopeOp where
  | filter (f : Filter)
  | exclude (f : Filter)
  | orderBy (spec : String)
  | reorder (specs : List String)
  | limit (n : Int)
  | offset (n : Int)
  | distinct
  /-- Starts again from the scope without conditions. -/
  | reset
  deriving DecidableEq, Repr

def ScopeOp.apply (s : Scope) : ScopeOp → Scope
  | .filter f => s.filter f
  | .exclude f => s.exclude f
  | .orderBy spec => s.orderBy spec
  | .reorder specs => s.reorder specs
  | .limit n => { s with limit := some n }
  | .offset n => { s with offset := some n }
  | .distinct => { s with distinct := true }
  | .reset => {}

def Scope.applyAll (s : Scope) (ops : List ScopeOp) : Scope := ops.foldl ScopeOp.apply s

end EntityGraph.Sql
