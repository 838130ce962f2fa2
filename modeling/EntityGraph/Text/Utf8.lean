/-!
# UTF-8

Reading bytes as text with a state machine that takes one byte at a time. A byte that cannot
continue the current character ends it as a broken stretch and is read again from the start, so
each broken stretch is a maximal one. A strict reading fails at the first broken stretch; a lossy
reading replaces each by U+FFFD.
-/

namespace EntityGraph.Text.Utf8

/-- The bytes of a text. -/
def encode (s : String) : List UInt8 := s.toList.flatMap String.utf8EncodeChar

/-- A stretch of the input. -/
inductive Chunk where
  | char (c : Char)
  /-- `length` bytes that cannot start or continue a character. -/
  | broken (length : Nat)
  /-- The input ends inside a character. -/
  | cut (length : Nat)
  deriving DecidableEq, Repr

/-- Where the reading stands between bytes. -/
inductive State where
  | start
  /-- Inside a character: `need` more bytes, the next one between `low` and `high`; `code` holds
  the bits read so far, `seen` counts the bytes. -/
  | inside (need low high code seen : Nat)
  deriving DecidableEq, Repr

/-- The first byte of a character. -/
def begin (b : Nat) : List Chunk × State :=
  if b < 0x80 then ([.char (Char.ofNat b)], .start)
  else if b < 0xC2 then ([.broken 1], .start)
  else if b < 0xE0 then ([], .inside 1 0x80 0xBF (b - 0xC0) 1)
  else if b = 0xE0 then ([], .inside 2 0xA0 0xBF 0 1)
  else if b = 0xED then ([], .inside 2 0x80 0x9F 0xD 1)
  else if b < 0xF0 then ([], .inside 2 0x80 0xBF (b - 0xE0) 1)
  else if b = 0xF0 then ([], .inside 3 0x90 0xBF 0 1)
  else if b < 0xF4 then ([], .inside 3 0x80 0xBF (b - 0xF0) 1)
  else if b = 0xF4 then ([], .inside 3 0x80 0x8F 4 1)
  else ([.broken 1], .start)

/-- One byte: the stretches it completes and the state after it. -/
def step (s : State) (b : Nat) : List Chunk × State :=
  match s with
  | .start => begin b
  | .inside need low high code seen =>
    if low ≤ b ∧ b ≤ high then
      let code := code * 64 + b % 64
      if need ≤ 1 then ([.char (Char.ofNat code)], .start)
      else ([], .inside (need - 1) 0x80 0xBF code (seen + 1))
    else
      let again := begin b
      (.broken seen :: again.1, again.2)

/-- All stretches of the input from a state on. -/
def run (s : State) : List UInt8 → List Chunk
  | [] =>
    match s with
    | .start => []
    | .inside _ _ _ _ seen => [.cut seen]
  | b :: bs => (step s b.toNat).1 ++ run (step s b.toNat).2 bs

def chunks (bytes : List UInt8) : List Chunk := run .start bytes

/-! ## Lossy reading -/

def Chunk.lossy : Chunk → Char
  | .char c => c
  | .broken _ => '\uFFFD'
  | .cut _ => '\uFFFD'

/-- The text of the bytes with each broken stretch replaced by U+FFFD. -/
def decodeLossy (bytes : List UInt8) : String := String.ofList ((chunks bytes).map Chunk.lossy)

/-! ## Strict reading -/

/-- Why bytes are not a text: where the first broken stretch starts, and its length unless the
input ended inside it. -/
structure DecodeError where
  index : Nat
  length : Option Nat
  deriving DecidableEq, Repr

def DecodeError.message (e : DecodeError) : String :=
  match e.length with
  | some n => "invalid utf-8 sequence of " ++ toString n ++ " bytes from index " ++ toString e.index
  | none => "incomplete utf-8 byte sequence from index " ++ toString e.index

/-- The characters of the stretches, or the first broken one; `index` counts the bytes before. -/
def collect (index : Nat) : List Chunk → Except DecodeError (List Char)
  | [] => .ok []
  | .char c :: rest => (collect (index + c.utf8Size) rest).map (c :: ·)
  | .broken n :: _ => .error ⟨index, some n⟩
  | .cut _ :: _ => .error ⟨index, none⟩

def decode (bytes : List UInt8) : Except DecodeError String :=
  (collect 0 (chunks bytes)).map String.ofList

end EntityGraph.Text.Utf8
