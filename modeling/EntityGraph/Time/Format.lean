import EntityGraph.Number.Decimal
import EntityGraph.Text.Blank
import EntityGraph.Time.Calendar

/-!
# Date and time formats

A format is a list of parts, used both to write a moment and to read one. Reading takes numbers of
at most their usual width, skips blanks before a number, accepts any number of blanks where the
format has one, and leaves a fraction of the second optional.
-/

namespace EntityGraph.Time

open Number (digits readDigits? padded)

/-- Why a text is no date or time. -/
inductive ReadError where
  | invalid
  | outOfRange
  | tooShort
  | tooLong
  deriving DecidableEq, Repr

def ReadError.message : ReadError → String
  | .invalid => "input contains invalid characters"
  | .outOfRange => "input is out of range"
  | .tooShort => "premature end of input"
  | .tooLong => "trailing input"

/-- A part of a format. -/
inductive Part where
  | year
  | month
  | day
  | hour
  | minute
  | second
  /-- A point and the nanoseconds, or nothing. -/
  | fraction
  | literal (c : Char)
  | blank
  deriving DecidableEq, Repr

/-- `2024-01-02` -/
def dateFormat : List Part := [.year, .literal '-', .month, .literal '-', .day]

/-- `03:04:05.678` -/
def timeFormat : List Part :=
  [.hour, .literal ':', .minute, .literal ':', .second, .fraction]

/-- `2024-01-02 03:04:05.678` -/
def spacedFormat : List Part := dateFormat ++ [.blank] ++ timeFormat

/-- `2024-01-02T03:04:05.678` -/
def joinedFormat : List Part := dateFormat ++ [.literal 'T'] ++ timeFormat

/-! ## Writing -/

/-- Four digits; years outside 0 to 9999 carry a sign. -/
def writeYear (year : Int) : List Char :=
  if 0 ≤ year && year ≤ 9999 then padded 4 year.toNat
  else (if year < 0 then '-' else '+') :: padded 4 year.natAbs

/-- A point and three, six or nine digits, or nothing for a whole second. -/
def writeFraction (nano : Nat) : List Char :=
  let n := nano % billion
  if n = 0 then []
  else if n % 1000000 = 0 then '.' :: padded 3 (n / 1000000)
  else if n % 1000 = 0 then '.' :: padded 6 (n / 1000)
  else '.' :: padded 9 n

def Part.write (m : Moment) : Part → List Char
  | .year => writeYear m.date.year
  | .month => padded 2 m.date.month
  | .day => padded 2 m.date.day
  | .hour => padded 2 m.time.hour
  | .minute => padded 2 m.time.minute
  | .second => padded 2 (m.time.second + m.time.nano / billion)
  | .fraction => writeFraction m.time.nano
  | .literal c => [c]
  | .blank => [' ']

def write (format : List Part) (m : Moment) : List Char := format.flatMap (Part.write m)

/-! ## Reading -/

/-- The readings of a text. -/
structure Readings where
  year : Int := 0
  month : Nat := 0
  day : Nat := 0
  hour : Nat := 0
  minute : Nat := 0
  second : Nat := 0
  nano : Nat := 0
  deriving DecidableEq, Repr

/-- The digits a number may take from the text. -/
def leadingDigits (width : Option Nat) (cs : List Char) : List Char :=
  (match width with
    | some w => cs.take w
    | none => cs).takeWhile Char.isDigit

def readNumber (width : Option Nat) (cs : List Char) : Except ReadError (Nat × List Char) :=
  if cs.isEmpty then .error .tooShort
  else
    let ds := leadingDigits width cs
    if ds.isEmpty then .error .invalid
    else .ok (Nat.ofDigitChars 10 ds 0, cs.drop ds.length)

/-- A year: up to four digits, or any number of digits after a sign. -/
def readYear (cs : List Char) : Except ReadError (Int × List Char) :=
  match cs with
  | '-' :: rest => (readNumber none rest).map fun p => (-(p.1 : Int), p.2)
  | '+' :: rest => (readNumber none rest).map fun p => ((p.1 : Int), p.2)
  | _ => (readNumber (some 4) cs).map fun p => ((p.1 : Int), p.2)

/-- The digits after a point as nanoseconds; digits beyond the ninth are dropped. -/
def readFraction (cs : List Char) : Except ReadError (Nat × List Char) := do
  let (n, rest) ← readNumber (some 9) cs
  let taken := (leadingDigits (some 9) cs).length
  pure (n * Nat.pow 10 (9 - taken), rest.dropWhile Char.isDigit)

def within (low high n : Nat) : Except ReadError Nat :=
  if low ≤ n && n ≤ high then .ok n else .error .outOfRange

def Part.read (r : Readings) (cs : List Char) : Part → Except ReadError (Readings × List Char)
  | .year => do
    let (y, rest) ← readYear (Text.trimLeft cs)
    if -2147483648 ≤ y && y ≤ 2147483647 then pure ({ r with year := y }, rest)
    else throw .outOfRange
  | .month => do
    let (n, rest) ← readNumber (some 2) (Text.trimLeft cs)
    pure ({ r with month := ← within 1 12 n }, rest)
  | .day => do
    let (n, rest) ← readNumber (some 2) (Text.trimLeft cs)
    pure ({ r with day := ← within 1 31 n }, rest)
  | .hour => do
    let (n, rest) ← readNumber (some 2) (Text.trimLeft cs)
    pure ({ r with hour := ← within 0 23 n }, rest)
  | .minute => do
    let (n, rest) ← readNumber (some 2) (Text.trimLeft cs)
    pure ({ r with minute := ← within 0 59 n }, rest)
  | .second => do
    let (n, rest) ← readNumber (some 2) (Text.trimLeft cs)
    pure ({ r with second := ← within 0 60 n }, rest)
  | .fraction =>
    match cs with
    | '.' :: rest => do
      let (n, rest) ← readFraction rest
      pure ({ r with nano := n }, rest)
    | _ => pure (r, cs)
  | .literal c =>
    match cs with
    | [] => throw .tooShort
    | d :: rest => if d = c then pure (r, rest) else throw .invalid
  | .blank => pure (r, Text.trimLeft cs)

/-- Reads the parts in order. -/
def readParts (r : Readings) (cs : List Char) : List Part → Except ReadError (Readings × List Char)
  | [] => .ok (r, cs)
  | p :: ps => do
    let (r, cs) ← p.read r cs
    readParts r cs ps

def readAll (format : List Part) (cs : List Char) : Except ReadError Readings := do
  let (r, rest) ← readParts {} cs format
  if rest.isEmpty then pure r else throw .tooLong

def Readings.date (r : Readings) : Except ReadError Date :=
  match Date.of? r.year r.month r.day with
  | some d => .ok d
  | none => .error .outOfRange

def Readings.moment (r : Readings) : Except ReadError Moment := do
  let date ← r.date
  match TimeOfDay.of? r.hour r.minute r.second r.nano with
  | some time => pure ⟨date, time⟩
  | none => throw .outOfRange

def readDate (format : List Part) (cs : List Char) : Except ReadError Date := do
  (← readAll format cs).date

def readMoment (format : List Part) (cs : List Char) : Except ReadError Moment := do
  (← readAll format cs).moment

/-! ## Instants with an offset -/

/-- A moment of universal time with its offset, as in `2024-01-02T03:04:05+00:00`. -/
def writeInstant (m : Moment) : List Char :=
  write joinedFormat m ++ ['+', '0', '0', ':', '0', '0']

/-- Exactly `width` digits. -/
def readExactly? (width : Nat) (cs : List Char) : Option (Nat × List Char) :=
  if width ≤ cs.length then (readDigits? (cs.take width)).map fun n => (n, cs.drop width) else none

def readChar? (c : Char) : List Char → Option (List Char)
  | [] => none
  | d :: rest => if d = c then some rest else none

/-- An offset in minutes: `Z`, or a sign, hours and minutes, at most 23:59. -/
def readOffset? : List Char → Option (Int × List Char)
  | [] => none
  | c :: rest =>
    if c = 'Z' || c = 'z' then some (0, rest)
    else if c = '+' || c = '-' || c = '\u2212' then do
      let (hours, rest) ← readExactly? 2 rest
      let rest ← readChar? ':' rest
      let (minutes, rest) ← readExactly? 2 rest
      let total := hours * 60 + minutes
      if minutes < 60 && total < 1440 then
        pure (if c = '+' then (total : Int) else -(total : Int), rest)
      else none
    else none

/-- An instant of fixed-width fields with an offset, in universal time. -/
def readInstant? (cs : List Char) : Option Moment := do
  let (year, cs) ← readExactly? 4 cs
  let cs ← readChar? '-' cs
  let (month, cs) ← readExactly? 2 cs
  let cs ← readChar? '-' cs
  let (day, cs) ← readExactly? 2 cs
  let cs ← readChar? 'T' cs <|> readChar? 't' cs <|> readChar? ' ' cs
  let (hour, cs) ← readExactly? 2 cs
  let cs ← readChar? ':' cs
  let (minute, cs) ← readExactly? 2 cs
  let cs ← readChar? ':' cs
  let (second, cs) ← readExactly? 2 cs
  let (nano, cs) ←
    match cs with
    | '.' :: rest => (readFraction rest).toOption
    | _ => some (0, cs)
  let (offset, cs) ← readOffset? cs
  if cs.isEmpty then
    let date ← Date.of? year month day
    let time ← TimeOfDay.of? hour minute second nano
    (Moment.mk date time).behind? offset
  else none

end EntityGraph.Time
