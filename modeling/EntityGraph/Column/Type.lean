import EntityGraph.Column.Uuid
import EntityGraph.Number.Binary
import EntityGraph.Time.Calendar

/-!
# Column types

The declared types of columns and the values each of them has. Integers are numbers with a proof
that they are in range, byte arrays lists with a proof of their length.
-/

namespace EntityGraph.Column

/-- Integers by width and sign; pointer-sized ones have 64 bits. -/
inductive IntType where
  | i8
  | i16
  | i32
  | i64
  | i128
  | isize
  | u8
  | u16
  | u32
  | u64
  | u128
  | usize
  deriving DecidableEq, Repr

namespace IntType

def signed : IntType → Bool
  | i8 | i16 | i32 | i64 | i128 | isize => true
  | _ => false

def bits : IntType → Nat
  | i8 | u8 => 8
  | i16 | u16 => 16
  | i32 | u32 => 32
  | i64 | isize | u64 | usize => 64
  | i128 | u128 => 128

def least (t : IntType) : Int := if t.signed then -Int.pow 2 (t.bits - 1) else 0

def greatest (t : IntType) : Int :=
  if t.signed then Int.pow 2 (t.bits - 1) - 1 else Int.pow 2 t.bits - 1

def name : IntType → String
  | i8 => "i8"
  | i16 => "i16"
  | i32 => "i32"
  | i64 => "i64"
  | i128 => "i128"
  | isize => "isize"
  | u8 => "u8"
  | u16 => "u16"
  | u32 => "u32"
  | u64 => "u64"
  | u128 => "u128"
  | usize => "usize"

/-- The integers in range. -/
abbrev Carrier (t : IntType) : Type := { n : Int // t.least ≤ n ∧ n ≤ t.greatest }

def ofInt? (t : IntType) (n : Int) : Option t.Carrier :=
  if h : t.least ≤ n ∧ n ≤ t.greatest then some ⟨n, h⟩ else none

theorem zero_mem (t : IntType) : t.least ≤ 0 ∧ 0 ≤ t.greatest := by
  cases t <;> decide

def zero (t : IntType) : t.Carrier := ⟨0, t.zero_mem⟩

end IntType

end EntityGraph.Column

namespace EntityGraph

open Column (IntType ByteArrayOf Uuid)
open Number (Single Double)
open Time (Moment Date)

/-- A declared column type. -/
inductive ColumnType where
  | int (t : IntType)
  | bool
  | single
  | double
  | text
  | bytes
  | byteArray (n : Nat)
  | uuid
  /-- A moment of universal time. -/
  | instant
  | moment
  | date
  | optional (t : ColumnType)
  deriving DecidableEq, Repr

namespace ColumnType

/-- The values of a type. -/
@[reducible] def Carrier : ColumnType → Type
  | int t => t.Carrier
  | bool => Bool
  | single => Single
  | double => Double
  | text => String
  | bytes => List UInt8
  | byteArray n => ByteArrayOf n
  | uuid => Uuid
  | instant => Moment
  | moment => Moment
  | date => Date
  | optional t => Option t.Carrier

/-- The full name of a type, as it stands in messages. -/
def name : ColumnType → String
  | int t => t.name
  | bool => "bool"
  | single => "f32"
  | double => "f64"
  | text => "alloc::string::String"
  | bytes => "alloc::vec::Vec<u8>"
  | byteArray n => "[u8; " ++ toString n ++ "]"
  | uuid => "uuid::Uuid"
  | instant => "chrono::datetime::DateTime<chrono::offset::utc::Utc>"
  | moment => "chrono::naive::datetime::NaiveDateTime"
  | date => "chrono::naive::date::NaiveDate"
  | optional t => "core::option::Option<" ++ t.name ++ ">"

/-- The value of a field that nothing was written to. -/
def default : (t : ColumnType) → t.Carrier
  | int t => t.zero
  | bool => false
  | single => ⟨0⟩
  | double => ⟨0⟩
  | text => ""
  | bytes => []
  | byteArray n => ⟨List.replicate n 0, List.length_replicate⟩
  | uuid => Uuid.nil
  | instant => Moment.epoch
  | moment => Moment.epoch
  | date => Date.epoch
  | optional _ => none

/-- Whether a value is the zero of its type. -/
def isZero : (t : ColumnType) → t.Carrier → Bool
  | int _, n => n.val = 0
  | bool, b => !b
  | single, x => x.isZero
  | double, x => x.isZero
  | text, s => s.isEmpty
  | bytes, b => b.isEmpty
  | byteArray _, b => b.val.all (· = 0)
  | uuid, u => u.val.all (· = 0)
  | instant, m => m = Moment.epoch
  | moment, m => m = Moment.epoch
  | date, d => d = Date.epoch
  | optional _, o => o.isNone

end ColumnType

end EntityGraph
