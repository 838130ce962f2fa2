import EntityGraph.Time.Format

/-!
# Libraries of dates and times

What the columns of dates and times take from a library: texts written and read by a format, the
texts of instants with an offset, and the moment a number of seconds after the epoch.
-/

namespace EntityGraph.Time

structure Library where
  writeDate : List Part → Date → String
  readDate : List Part → String → Except ReadError Date
  writeMoment : List Part → Moment → String
  readMoment : List Part → String → Except ReadError Moment
  /-- A moment of universal time, with its offset. -/
  writeInstant : Moment → String
  /-- An instant with an offset, in universal time. -/
  readInstant? : String → Option Moment
  ofTimestamp? : Int → Option Moment

/-- The library that columns are written and read with. -/
def library : Library where
  writeDate format d := String.ofList (write format ⟨d, .midnight⟩)
  readDate format s := readDate format s.toList
  writeMoment format m := String.ofList (write format m)
  readMoment format s := readMoment format s.toList
  writeInstant m := String.ofList (writeInstant m)
  readInstant? s := readInstant? s.toList
  ofTimestamp? := Moment.ofTimestamp?

end EntityGraph.Time
