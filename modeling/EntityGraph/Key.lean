import EntityGraph.Number.Decimal
import EntityGraph.Sql.Value
import EntityGraph.Text.Utf8

/-!
# Relation keys

Rows are matched in memory by the encoded text of their keys, so that both sides of a relation may
declare different integer widths, texts or bytes. Values without a canonical text are refused.
-/

namespace EntityGraph

open Number (decimal)

inductive Key where
  | null
  | signed (n : Int)
  | unsigned (n : Nat)
  | text (s : String)
  | bytes (b : List UInt8)
  /-- An identifier in its canonical text. -/
  | ident (s : String)
  deriving DecidableEq, Repr

/-- A value of a type that has no key. -/
structure KeyError where
  type : String
  deriving DecidableEq, Repr

def KeyError.message (e : KeyError) : String :=
  "values of type `" ++ e.type ++ "` cannot be used as relation keys"

namespace Key

/-- The text by which keys are compared. -/
def encode : Key → String
  | null => ""
  | signed n => String.ofList (decimal n)
  | unsigned n => String.ofList (decimal n)
  | text s => s
  | bytes b => Text.Utf8.decodeLossy b
  | ident s => s

/-- Whether the key is the zero of its representation. -/
def isZero : Key → Bool
  | null => true
  | signed n => n = 0
  | unsigned n => n = 0
  | text s => s.isEmpty
  | bytes b => b.isEmpty
  | ident s => s.isEmpty

def kind : Key → String
  | null => "null"
  | signed _ => "signed"
  | unsigned _ => "unsigned"
  | text _ => "text"
  | bytes _ => "bytes"
  | ident _ => "ident"

/-- The key of a value as it stands in a row. -/
def ofValue : Sql.Value → Except KeyError Key
  | .null => .ok null
  | .int n => .ok (signed n.toInt)
  | .text s => .ok (text s)
  | .blob b => .ok (bytes b)
  | .bool _ => .error ⟨"bool"⟩
  | .float _ => .error ⟨"f64"⟩

end Key

end EntityGraph
