import EntityGraph.Column.Type
import EntityGraph.Key
import EntityGraph.Time.Library

/-!
# Reading and writing columns

The value bound for a field, the value read back from a row, and the key a field joins by. Reading
is lenient about storage: integers also come as decimal text or truth values, texts as numbers or
bytes, dates and times as text.
-/

namespace EntityGraph

open Column (IntType ByteArrayOf Uuid)

/-- Why a value cannot be read into a column. -/
inductive ColumnError where
  /-- The storage class does not fit the type. -/
  | mismatch (kind type : String)
  | outOfRange (n : Int) (type : String)
  | length (expected found : Nat)
  | utf8 (e : Text.Utf8.DecodeError)
  | uuid (e : Column.UuidError)
  | moment (text : String) (e : Time.ReadError)
  | date (e : Time.ReadError)
  | timestamp (seconds : Int)
  deriving DecidableEq, Repr

def ColumnError.message : ColumnError → String
  | .mismatch kind type => "cannot read " ++ kind ++ " value into `" ++ type ++ "`"
  | .outOfRange n type =>
    String.ofList (Number.decimal n) ++ " is out of range for `" ++ type ++ "`"
  | .length expected found =>
    "expected " ++ toString expected ++ " bytes, found " ++ toString found
  | .utf8 e => e.message
  | .uuid e => e.message
  | .moment text e => "invalid datetime `" ++ text ++ "`: " ++ e.message
  | .date e => e.message
  | .timestamp seconds =>
    "timestamp " ++ String.ofList (Number.decimal seconds) ++ " is out of range"

namespace ColumnType

/-! ## Dates and times -/

section Times

open Time (Library Moment Date)

variable (l : Library)

def dateToSql (d : Date) : Sql.Value := .text (l.writeDate Time.dateFormat d)

def dateFromSql (v : Sql.Value) : Except ColumnError Date :=
  match v with
  | .text s => (l.readDate Time.dateFormat s).mapError .date
  | _ => .error (.mismatch v.kind date.name)

/-- A moment with a blank between date and time, or else with a `T`. -/
def readMoment (s : String) : Except ColumnError Moment :=
  match l.readMoment Time.spacedFormat s with
  | .ok m => .ok m
  | .error _ => (l.readMoment Time.joinedFormat s).mapError (.moment s)

def momentToSql (m : Moment) : Sql.Value := .text (l.writeMoment Time.spacedFormat m)

def momentFromSql (v : Sql.Value) : Except ColumnError Moment :=
  match v with
  | .text s => readMoment l s
  | _ => .error (.mismatch v.kind moment.name)

def instantToSql (m : Moment) : Sql.Value := .text (l.writeInstant m)

/-- An instant with an offset, a moment without one, or the seconds since the epoch. -/
def instantFromSql (v : Sql.Value) : Except ColumnError Moment :=
  match v with
  | .text s =>
    match l.readInstant? s with
    | some m => .ok m
    | none => readMoment l s
  | .int n =>
    match l.ofTimestamp? n.toInt with
    | some m => .ok m
    | none => .error (.timestamp n.toInt)
  | _ => .error (.mismatch v.kind instant.name)

end Times

/-! ## Writing -/

/-- The value bound for a field. -/
def toSql : (t : ColumnType) → t.Carrier → Sql.Value
  | int _, n => .ofInt n.val
  | bool, b => .bool b
  | single, x => .float x.widen
  | double, x => .float x
  | text, s => .text s
  | bytes, b => .blob b
  | byteArray _, b => .blob b.val
  | uuid, u => .text (Uuid.text u)
  | instant, m => instantToSql Time.library m
  | moment, m => momentToSql Time.library m
  | date, d => dateToSql Time.library d
  | optional t, o =>
    match o with
    | none => .null
    | some x => t.toSql x

/-- The key by which a field joins rows. Truth values, floating point numbers, dates and times
have none. -/
def toKey : (t : ColumnType) → t.Carrier → Except KeyError Key
  | int t, n => .ok (if t.signed then .signed n.val else .unsigned n.val.toNat)
  | text, s => .ok (.text s)
  | bytes, b => .ok (.bytes b)
  | byteArray _, b => .ok (.bytes b.val)
  | uuid, u => .ok (.ident (Uuid.text u))
  | optional t, o =>
    match o with
    | none => .ok .null
    | some x => t.toKey x
  | t, _ => .error ⟨t.name⟩

/-! ## Reading -/

def readInt (t : IntType) (v : Sql.Value) : Except ColumnError t.Carrier :=
  match v with
  | .int n =>
    match t.ofInt? n.toInt with
    | some x => .ok x
    | none => .error (.outOfRange n.toInt t.name)
  | .bool b =>
    match t.ofInt? (if b then 1 else 0) with
    | some x => .ok x
    | none => .error (.mismatch v.kind t.name)
  | .text s =>
    match (Number.readInt? t.signed s.toList).bind t.ofInt? with
    | some x => .ok x
    | none => .error (.mismatch v.kind t.name)
  | _ => .error (.mismatch v.kind t.name)

def readDouble (v : Sql.Value) : Except ColumnError Number.Double :=
  match v with
  | .float x => .ok x
  | .int n => .ok (.ofInt n.toInt)
  | _ => .error (.mismatch v.kind double.name)

def readText (v : Sql.Value) : Except ColumnError String :=
  match v with
  | .text s => .ok s
  | .int n => .ok (String.ofList (Number.decimal n.toInt))
  | .float x => .ok x.text
  | .blob b => (Text.Utf8.decode b).mapError .utf8
  | _ => .error (.mismatch v.kind text.name)

def readBytes (v : Sql.Value) : Except ColumnError (List UInt8) :=
  match v with
  | .blob b => .ok b
  | .text s => .ok (Text.Utf8.encode s)
  | _ => .error (.mismatch v.kind bytes.name)

/-- Reads a value into a field of the type. -/
def fromSql : (t : ColumnType) → Sql.Value → Except ColumnError t.Carrier
  | int t, v => readInt t v
  | bool, v =>
    match v with
    | .bool b => .ok b
    | .int n => .ok (n.toInt ≠ 0)
    | _ => .error (.mismatch v.kind bool.name)
  | single, v => (readDouble v).map Number.Double.narrow
  | double, v => readDouble v
  | text, v => readText v
  | bytes, v => readBytes v
  | byteArray n, v => do
    let b ← readBytes v
    match ByteArrayOf.ofList? n b with
    | some x => .ok x
    | none => .error (.length n b.length)
  | uuid, v =>
    match v with
    | .text s => (Uuid.read s.toList).mapError .uuid
    | .blob b => (Uuid.ofBytes b).mapError .uuid
    | _ => .error (.mismatch v.kind uuid.name)
  | instant, v => instantFromSql Time.library v
  | moment, v => momentFromSql Time.library v
  | date, v => dateFromSql Time.library v
  | optional t, v =>
    match v with
    | .null => .ok none
    | _ => (t.fromSql v).map some

end ColumnType

/-- A typed field value. -/
structure Cell where
  type : ColumnType
  value : type.Carrier

namespace Cell

def default (t : ColumnType) : Cell := ⟨t, t.default⟩

def toSql (c : Cell) : Sql.Value := c.type.toSql c.value

def toKey (c : Cell) : Except KeyError Key := c.type.toKey c.value

def isZero (c : Cell) : Bool := c.type.isZero c.value

/-- The cell of the same type that a value is read into. -/
def read (c : Cell) (v : Sql.Value) : Except ColumnError Cell :=
  (c.type.fromSql v).map fun x => ⟨c.type, x⟩

end Cell

end EntityGraph
