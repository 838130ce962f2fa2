import EntityGraph.Column.Codec
import EntityGraph.Failure

/-!
# Errors

Everything that can keep a query or a load from succeeding, by cause.
-/

namespace EntityGraph

/-- What is wrong with a relation. -/
inductive Misconfiguration where
  /-- A column the relation names is not a column of the type. -/
  | notMappedOn (column type : String)
  /-- A resolved column cannot be read. -/
  | notMapped (column : String)
  deriving DecidableEq, Repr

def Misconfiguration.reason : Misconfiguration → String
  | .notMappedOn column type => "column `" ++ column ++ "` is not mapped on `" ++ type ++ "`"
  | .notMapped column => "column `" ++ column ++ "` is not mapped"

/-- What is wrong with a row. -/
inductive RowFault where
  | column (name : String) (e : ColumnError)
  /-- The answer to a count holds no integer. -/
  | count
  deriving DecidableEq, Repr

namespace RowFault

def columnName : RowFault → String
  | column name _ => name
  | count => "COUNT(*)"

def reason : RowFault → String
  | column _ e => e.message
  | count => "count query returned no integer"

end RowFault

inductive Error where
  /-- No relation of that name is declared on the type. -/
  | unknownRelation (name type : String)
  | identifier (e : Sql.IdentifierError)
  | misconfigured (relation type : String) (why : Misconfiguration)
  | path (text : String)
  | query (purpose : Sql.Purpose) (statement : Sql.Statement) (failure : Failure)
  | key (e : KeyError)
  | decode (type : String) (fault : RowFault)
  | notFound
  | multiple
  /-- A type without columns is used as an entity: a mistake in the program. -/
  | noColumns (type : String)
  deriving DecidableEq, Repr

namespace Error

def message : Error → String
  | unknownRelation name type => "relation `" ++ name ++ "` not found on `" ++ type ++ "`"
  | identifier e => e.message
  | misconfigured relation type why =>
    "relation `" ++ relation ++ "` on `" ++ type ++ "` is misconfigured: " ++ why.reason
  | path text => "invalid relation path `" ++ text ++ "`"
  | query purpose statement failure =>
    purpose.text ++ " query failed: " ++ failure.message ++ " (sql: " ++ statement.text ++ ")"
  | key e => e.message
  | decode type fault =>
    "cannot decode column `" ++ fault.columnName ++ "` of `" ++ type ++ "`: " ++ fault.reason
  | notFound => "object not found"
  | multiple => "multiple objects returned when one was expected"
  | noColumns type => "entity `" ++ type ++ "` registers no columns"

/-! ## Classification -/

/-- The failure of the database behind an error. -/
def failure? : Error → Option Failure
  | query _ _ f => some f
  | _ => none

def isNotFound (e : Error) : Bool := e = notFound || e.failure?.any Failure.isNotFound

def isConstraintViolation (e : Error) : Bool := e.failure?.any Failure.isConstraintViolation

def isTimeout (e : Error) : Bool := e.failure?.any Failure.isTimeout

def isConnectionFailure (e : Error) : Bool := e.failure?.any Failure.isConnectionFailure

def isCancelled (e : Error) : Bool := e.failure?.any Failure.isCancelled

/-- The names of the classes an error belongs to. -/
def flags (e : Error) : List String :=
  [("not_found", e.isNotFound), ("constraint_violation", e.isConstraintViolation),
    ("timeout", e.isTimeout), ("connection_failure", e.isConnectionFailure),
    ("cancelled", e.isCancelled)].filterMap fun p => if p.2 then some p.1 else none

end Error

end EntityGraph
