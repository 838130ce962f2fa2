/-!
# UUIDs

Sixteen bytes, written as five groups of lower-case hexadecimal digits. Reading accepts the
hyphenated form, also in braces or after `urn:uuid:` in any case, and the form without hyphens.
A text that is refused is refused for its length first, then for a stray character, then for the
number of its groups, and last for a group of the wrong length.
-/

namespace EntityGraph.Column

/-- Byte strings of a fixed length. -/
abbrev ByteArrayOf (n : Nat) : Type := { b : List UInt8 // b.length = n }

/-- Bytes that must have a given length. -/
def ByteArrayOf.ofList? (n : Nat) (b : List UInt8) : Option (ByteArrayOf n) :=
  if h : b.length = n then some ⟨b, h⟩ else none

abbrev Uuid : Type := ByteArrayOf 16

/-- Why a text or a byte string is no UUID. -/
inductive UuidError where
  | character (c : Char) (index : Nat)
  | textLength (found : Nat)
  | byteLength (found : Nat)
  | groupCount (found : Nat)
  | groupLength (group expected found : Nat)
  deriving DecidableEq, Repr

def UuidError.message : UuidError → String
  | .character c index =>
    "invalid character: found `" ++ String.ofList [c] ++ "` at " ++ toString index
  | .textLength found => "invalid length: found " ++ toString found
  | .byteLength found => "invalid length: expected 16 bytes, found " ++ toString found
  | .groupCount found => "invalid group count: expected 5, found " ++ toString found
  | .groupLength group expected found =>
    "invalid group length in group " ++ toString group ++ ": expected " ++ toString expected
      ++ ", found " ++ toString found

namespace Uuid

/-! ## Hexadecimal digits -/

def hexDigit (n : Nat) : Char := if n < 10 then Char.ofNat (48 + n) else Char.ofNat (87 + n)

def hexValue? (c : Char) : Option Nat :=
  if '0' ≤ c && c ≤ '9' then some (c.toNat - 48)
  else if 'a' ≤ c && c ≤ 'f' then some (c.toNat - 87)
  else if 'A' ≤ c && c ≤ 'F' then some (c.toNat - 55)
  else none

def writeByte (b : UInt8) : List Char := [hexDigit (b.toNat / 16), hexDigit (b.toNat % 16)]

/-- Pairs of digits as bytes. -/
def readBytes? : List Char → Option (List UInt8)
  | [] => some []
  | [_] => none
  | c :: d :: rest => do
    let high ← hexValue? c
    let low ← hexValue? d
    let bytes ← readBytes? rest
    pure (UInt8.ofNat (high * 16 + low) :: bytes)

/-! ## Writing -/

/-- The lengths of the groups in digits. -/
def groups : List Nat := [8, 4, 4, 4, 12]

/-- Cuts a text into groups of the given lengths, and what is left. -/
def cutGroups : List Nat → List Char → List (List Char)
  | [], _ => []
  | n :: ns, cs => cs.take n :: cutGroups ns (cs.drop n)

/-- The hyphenated text. -/
def text (u : Uuid) : String :=
  String.ofList (['-'].intercalate (cutGroups groups (u.val.flatMap writeByte)))

/-! ## Reading -/

/-- The length of a text in bytes. -/
def byteLength (cs : List Char) : Nat := (cs.map Char.utf8Size).foldr (· + ·) 0

/-- The length of the hyphenated form. -/
def hyphenatedLength : Nat := 36

/-- The longest accepted text is the hyphenated form after the scheme. -/
def maxByteLength : Nat := 45

/-- The part of a text that is to hold the digits. -/
structure Body where
  chars : List Char
  /-- Where places in it are counted from. -/
  start : Nat
  /-- The digits may stand in a row. -/
  inRow : Bool
  deriving DecidableEq, Repr

/-- What stands inside braces or after the scheme, else the whole text. -/
def unwrap (cs : List Char) : Body :=
  if (cs.take 9).map Char.toLower = "urn:uuid:".toList then ⟨cs.drop 9, 9, false⟩
  else
    match cs with
    | '\x7b' :: rest =>
      if rest.getLast? = some '\x7d' then ⟨rest.dropLast, 1, false⟩ else ⟨cs, 0, true⟩
    | _ => ⟨cs, 0, true⟩

/--
A text, or what it wraps, that is as long as the hyphenated form is taken to be that form and read
on its own: it is not unwrapped again, and places in it count from its own beginning.
-/
def body (cs : List Char) : Body :=
  if byteLength cs = hyphenatedLength then ⟨cs, 0, false⟩
  else
    let b := unwrap cs
    if byteLength b.chars = hyphenatedLength then ⟨b.chars, 0, false⟩ else b

/-- The digits of a text in hyphenated groups. -/
def hyphenated? (cs : List Char) : Option (List UInt8) :=
  let pieces := groupsOf cs
  if pieces.map List.length = groups then readBytes? pieces.flatten else none
where
  groupsOf : List Char → List (List Char)
    | [] => [[]]
    | c :: cs =>
      match groupsOf cs with
      | [] => [[c]]
      | piece :: rest => if c = '-' then [] :: piece :: rest else (c :: piece) :: rest

/-- The first character that is neither a hyphen nor a digit, with the bytes before it. -/
def strayCharacter? (index : Nat) : List Char → Option (Char × Nat)
  | [] => none
  | c :: cs =>
    if c = '-' || (hexValue? c).isSome then strayCharacter? (index + c.utf8Size) cs
    else some (c, index)

/--
The first group whose length is wrong. The last one is counted with what is wrapped around the
body.
-/
def wrongGroup (wrapping number : Nat) : List Nat → List (List Char) → UuidError
  | n :: ns, piece :: rest =>
    if rest.isEmpty then .groupLength number n (piece.length + wrapping)
    else if piece.length = n then wrongGroup wrapping (number + 1) ns rest
    else .groupLength number n piece.length
  | _, _ => .groupCount number

/-- What is wrong with a text that is no UUID. Lengths are those of the whole text. -/
def fault (cs : List Char) : UuidError :=
  let length := byteLength cs
  let ⟨chars, start, inRow⟩ := body cs
  let pieces := hyphenated?.groupsOf chars
  if maxByteLength < length then .textLength length
  else
    match strayCharacter? start chars with
    | some (c, index) => .character c index
    | none =>
      if pieces.length = 1 && inRow then .textLength length
      else if pieces.length ≠ groups.length then .groupCount pieces.length
      else wrongGroup (length - byteLength chars) 0 groups pieces

def read (cs : List Char) : Except UuidError Uuid :=
  let bytes? := if byteLength cs = 32 then readBytes? cs else hyphenated? (body cs).chars
  match bytes?.bind (ByteArrayOf.ofList? 16) with
  | some u => .ok u
  | none => .error (fault cs)

def ofBytes (b : List UInt8) : Except UuidError Uuid :=
  match ByteArrayOf.ofList? 16 b with
  | some u => .ok u
  | none => .error (.byteLength b.length)

/-- The UUID of zeros. -/
def nil : Uuid := ⟨List.replicate 16 0, by decide⟩

end Uuid

end EntityGraph.Column
