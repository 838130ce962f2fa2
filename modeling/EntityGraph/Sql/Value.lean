import EntityGraph.Number.Shortest
import EntityGraph.Text.Quoted

/-!
# SQL values

The values that are bound to placeholders and read back from rows, with their literal form and
their diagnostic form. Statements never hold literals; both forms only serve to show a value.
-/

namespace EntityGraph.Sql

open Number (Double decimal)

inductive Value where
  | null
  | bool (b : Bool)
  | int (n : Int64)
  | float (x : Double)
  | text (s : String)
  | blob (bytes : List UInt8)
  deriving DecidableEq, Repr

/-! ## Literals -/

/-- A text with every single quote doubled. -/
def doubleQuotes : List Char → List Char
  | [] => []
  | c :: cs => if c = '\'' then '\'' :: '\'' :: doubleQuotes cs else c :: doubleQuotes cs

/-- The hexadecimal digit of a number below sixteen. -/
def upperHexDigit (n : Nat) : Char := if n < 10 then Char.ofNat (48 + n) else Char.ofNat (55 + n)

def upperHex (b : UInt8) : List Char :=
  [upperHexDigit (b.toNat / 16), upperHexDigit (b.toNat % 16)]

namespace Value

/-- The value as an SQL literal. -/
def literal : Value → String
  | null => "NULL"
  | bool true => "TRUE"
  | bool false => "FALSE"
  | int n => String.ofList (decimal n.toInt)
  | float x => x.text
  | text s => String.ofList ('\'' :: doubleQuotes s.toList ++ ['\''])
  | blob bytes => String.ofList ('X' :: '\'' :: bytes.flatMap upperHex ++ ['\''])

/-- The value as it is shown for diagnosis. -/
def diagnostic : Value → String
  | null => "Null"
  | bool b => "Bool(" ++ toString b ++ ")"
  | int n => "Int(" ++ String.ofList (decimal n.toInt) ++ ")"
  | float x => "Float(" ++ x.diagnostic ++ ")"
  | text s => "Text(" ++ Text.quoted s ++ ")"
  | blob bytes => "Blob([" ++ ", ".intercalate (bytes.map (toString ·.toNat)) ++ "])"

/-! ## Views -/

def isNull : Value → Bool
  | null => true
  | _ => false

def asText : Value → Option String
  | text s => some s
  | _ => none

def asInt : Value → Option Int64
  | int n => some n
  | _ => none

/-- The name of the storage class. -/
def kind : Value → String
  | null => "null"
  | bool _ => "bool"
  | int _ => "integer"
  | float _ => "float"
  | text _ => "text"
  | blob _ => "blob"

/-! ## Storage -/

/-- The value as it comes back from a database that stores truth values as integers and has no
number for an undefined result. -/
def stored : Value → Value
  | bool b => int (if b then 1 else 0)
  | float x => if x.isNaN then null else float x
  | v => v

/-- An integer that fits 64 bits as such, and any other as decimal text. -/
def ofInt (n : Int) : Value :=
  if Int64.minValue.toInt ≤ n ∧ n ≤ Int64.maxValue.toInt then int (Int64.ofInt n)
  else text (String.ofList (decimal n))

end Value

end EntityGraph.Sql
