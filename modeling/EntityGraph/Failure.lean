import EntityGraph.Context.Basic
import EntityGraph.Sql.Statement

/-!
# Failures of statements

What a database reports when a statement fails, and how such failures are classified.
-/

namespace EntityGraph

/-- What a database objects to. -/
inductive DatabaseErrorKind where
  | unique
  | foreignKey
  | notNull
  | check
  | other
  deriving DecidableEq, Repr

inductive Failure where
  | interrupted (i : Interruption)
  | rowNotFound
  | poolTimedOut
  | poolClosed
  | workerCrashed
  | io (message : String)
  | tls (message : String)
  | protocol (message : String)
  | columnNotFound (column : String)
  | database (kind : DatabaseErrorKind) (message : String)
  deriving DecidableEq, Repr

namespace Failure

def message : Failure → String
  | interrupted .cancelled => "context cancelled"
  | interrupted .expired => "context deadline exceeded"
  | rowNotFound => "no rows returned by a query that expected to return at least one row"
  | poolTimedOut => "pool timed out while waiting for an open connection"
  | poolClosed => "attempted to acquire a connection on a closed pool"
  | workerCrashed => "attempted to communicate with a crashed background worker"
  | io m => "error communicating with database: " ++ m
  | tls m => "error occurred while attempting to establish a TLS connection: " ++ m
  | protocol m => "encountered unexpected or invalid data: " ++ m
  | columnNotFound c => "no column found for name: " ++ c
  | database _ m => "error returned from database: " ++ m

def isNotFound (f : Failure) : Bool := f = rowNotFound

def isConstraintViolation : Failure → Bool
  | database kind _ => kind ≠ .other
  | _ => false

def isTimeout (f : Failure) : Bool := f = interrupted .expired || f = poolTimedOut

def isConnectionFailure : Failure → Bool
  | io _ => true
  | tls _ => true
  | poolClosed => true
  | workerCrashed => true
  | _ => false

def isCancelled (f : Failure) : Bool := f = interrupted .cancelled

end Failure

end EntityGraph
