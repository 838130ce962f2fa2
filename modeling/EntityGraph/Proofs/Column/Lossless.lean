import EntityGraph.Column.Codec
import EntityGraph.Proofs.Column.Uuid
import EntityGraph.Proofs.Number.Numerals
import EntityGraph.Proofs.Time.Reading

/-!
# Values that survive being stored

A column of integers reads what stands for an integer in range, and reads that integer
(`readInt_eq_ok_iff`). Integers of every width, truth values, texts, bytes and UUIDs are read back
as they were written, also if they may be missing, and also from a database that stores truth values
as integers (`fromSql_lossless`).

With a library of dates and times that does what is documented of it, dates and moments are read
back as well, and instants of the years 0 to 9999; an instant of another year is written as a text
that no reader accepts (`fromSql_moments`).
-/

namespace EntityGraph

open Column (IntType)
open Number (IsNumeral)
open Sql (Value)

/-! ### Integers -/

theorem Column.IntType.ofInt?_eq_some_iff {t : IntType} {n : Int} {x : t.Carrier} :
    t.ofInt? n = some x ↔ x.val = n := by
  unfold ofInt?
  split
  · rw [Option.some.injEq, Subtype.ext_iff, eq_comm]
  · next hrange => exact iff_of_false nofun fun h => hrange (h ▸ x.property)

theorem Column.IntType.signed_or_nonneg (t : IntType) (x : t.Carrier) :
    t.signed = true ∨ 0 ≤ x.val := by
  cases hsigned : t.signed with
  | true => exact .inl rfl
  | false =>
    have hleast : t.least = 0 := by simp [IntType.least, hsigned]
    exact .inr (le_of_eq_of_le hleast.symm x.property.1)

namespace Sql.Value

theorem toInt_ofInt {n : Int} (h : Int64.minValue.toInt ≤ n ∧ n ≤ Int64.maxValue.toInt) :
    (Int64.ofInt n).toInt = n :=
  Int64.toInt_ofInt_of_le h.1 (Int.lt_of_le_of_lt h.2 (by decide))

/-- What stands for an integer in a column of integers: the integer, a truth value as 0 or 1, and a
numeral of the integer. -/
def StandsFor (signed : Bool) (v : Value) (n : Int) : Prop :=
  match v with
  | .int m => m.toInt = n
  | .bool b => (if b then 1 else 0) = n
  | .text s => IsNumeral signed s.toList n
  | .null | .float _ | .blob _ => False

/-- An integer is bound to a value that stands for it. -/
theorem standsFor_ofInt {signed : Bool} {n : Int} (h : signed = true ∨ 0 ≤ n) :
    (Value.ofInt n).StandsFor signed n := by
  unfold ofInt
  split
  · next hrange => exact toInt_ofInt hrange
  · rw [StandsFor, String.toList_ofList]
    exact Number.isNumeral_decimal h

theorem StandsFor.of_signed {signed : Bool} {v : Value} {n : Int} (h : v.StandsFor signed n) :
    v.StandsFor true n := by
  cases v with
  | text s => exact IsNumeral.of_signed h
  | _ => exact h

/-- A value stands for one integer at most. -/
theorem StandsFor.unique {signed : Bool} {v : Value} {m n : Int} (hm : v.StandsFor signed m)
    (hn : v.StandsFor signed n) : m = n := by
  cases v with
  | int _ | bool _ => exact hm.symm.trans hn
  | text s =>
    have hread := Number.readInt?_eq_some_iff.2 hm
    exact Option.some.inj (hread.symm.trans (Number.readInt?_eq_some_iff.2 hn))
  | null | float _ | blob _ => exact hm.elim

end Sql.Value

namespace ColumnType

/-- An integer in range is read from what stands for it, and nothing else is read. -/
theorem readInt_eq_ok_iff {t : IntType} {v : Value} {x : t.Carrier} :
    readInt t v = .ok x ↔ v.StandsFor t.signed x.val := by
  cases v with
  | int n =>
    rw [Value.StandsFor, eq_comm (a := n.toInt), ← IntType.ofInt?_eq_some_iff, readInt]
    cases t.ofInt? n.toInt <;> simp
  | bool b =>
    rw [Value.StandsFor, eq_comm (b := x.val), ← IntType.ofInt?_eq_some_iff, readInt]
    cases t.ofInt? (if b then 1 else 0) <;> simp
  | text s =>
    have hbind : (Number.readInt? t.signed s.toList).bind t.ofInt? = some x
        ↔ IsNumeral t.signed s.toList x.val := by
      rw [Option.bind_eq_some_iff, ← Number.readInt?_eq_some_iff]
      simp only [IntType.ofInt?_eq_some_iff, exists_eq_right']
    rw [Value.StandsFor, ← hbind, readInt]
    cases (Number.readInt? t.signed s.toList).bind t.ofInt? <;> simp
  | null | float _ | blob _ => exact iff_of_false nofun id

/-! ### Columns -/

/-- Integers, truth values, texts, bytes and UUIDs. -/
def isPlain : ColumnType → Bool
  | int _ | bool | text | bytes | byteArray _ | uuid => true
  | single | double | instant | moment | date | optional _ => false

/-- The plain types, and these types with missing values. A type in which a missing value may be
missing again is left out: NULL is read as missing there, whatever was written. -/
def isExact : ColumnType → Bool
  | optional t => t.isPlain
  | t => t.isPlain

theorem fromSql_toSql_of_isPlain {t : ColumnType} (ht : t.isPlain = true) (x : t.Carrier) :
    t.toSql x ≠ .null ∧ (t.toSql x).stored ≠ .null ∧
      t.fromSql (t.toSql x) = .ok x ∧ t.fromSql (t.toSql x).stored = .ok x := by
  cases t with
  | int t =>
    have hstands := Value.standsFor_ofInt (t.signed_or_nonneg x)
    have hstored : (Value.ofInt x.val).stored = .ofInt x.val ∧ Value.ofInt x.val ≠ .null := by
      unfold Value.ofInt
      split <;> exact ⟨rfl, nofun⟩
    have hread : readInt t (.ofInt x.val) = .ok x := readInt_eq_ok_iff.2 hstands
    rw [toSql, hstored.1]
    exact ⟨hstored.2, hstored.2, hread, hread⟩
  | bool => cases x <;> exact ⟨nofun, nofun, rfl, rfl⟩
  | text => exact ⟨nofun, nofun, rfl, rfl⟩
  | bytes => exact ⟨nofun, nofun, rfl, rfl⟩
  | byteArray n =>
    have hread : (byteArray n).fromSql (.blob x.val) = .ok x := by
      simp only [fromSql, readBytes, bind, Except.bind, Column.ofList?_val]
    exact ⟨nofun, nofun, hread, hread⟩
  | uuid =>
    have hread : uuid.fromSql (.text (Column.Uuid.text x)) = .ok x := by
      rw [fromSql, Column.Uuid.read_text]
      rfl
    exact ⟨nofun, nofun, hread, hread⟩
  | single | double | instant | moment | date | optional => cases ht

/-- A missing value is NULL, and any other is read as if it could not be missing. -/
theorem fromSql_optional {t : ColumnType} {v : Value} (hv : v ≠ .null) :
    (optional t).fromSql v = (t.fromSql v).map some := by
  cases v with
  | null => exact absurd rfl hv
  | _ => rfl

theorem fromSql_toSql_of_isExact {t : ColumnType} (ht : t.isExact = true) (x : t.Carrier) :
    t.fromSql (t.toSql x) = .ok x ∧ t.fromSql (t.toSql x).stored = .ok x := by
  cases t with
  | optional t =>
    cases x with
    | none => exact ⟨rfl, rfl⟩
    | some x =>
      obtain ⟨hvalue, hstored, hread, hreadStored⟩ := fromSql_toSql_of_isPlain ht x
      rw [toSql, fromSql_optional hvalue, fromSql_optional hstored, hread, hreadStored]
      exact ⟨rfl, rfl⟩
  | _ => exact (fromSql_toSql_of_isPlain (by exact ht) x).2.2

/-- **Values survive being stored.** A value of an exact type is read back from the value that is
bound for it, and from what a database makes of that value. A column of integers reads the integers
in range from the values that stand for them, and rejects everything else. -/
theorem fromSql_lossless :
    (∀ t : ColumnType, t.isExact = true → ∀ x : t.Carrier,
      t.fromSql (t.toSql x) = .ok x ∧ t.fromSql (t.toSql x).stored = .ok x) ∧
    ∀ (t : IntType) (v : Value),
      (∀ x : t.Carrier, (int t).fromSql v = .ok x ↔ v.StandsFor t.signed x.val) ∧
      ((∃ why, (int t).fromSql v = .error why) ↔
        ∀ n, v.StandsFor t.signed n → ¬ (t.least ≤ n ∧ n ≤ t.greatest)) := by
  refine ⟨fun t ht x => fromSql_toSql_of_isExact ht x, fun t v =>
    ⟨fun x => readInt_eq_ok_iff, ?_⟩⟩
  constructor
  · rintro ⟨why, hwhy⟩ n hn hrange
    have hread : readInt t v = .ok ⟨n, hrange⟩ := readInt_eq_ok_iff.2 hn
    cases hread.symm.trans hwhy
  · intro hnone
    cases hread : (int t).fromSql v with
    | error why => exact ⟨why, rfl⟩
    | ok x => exact absurd x.property (hnone x.val (readInt_eq_ok_iff.1 hread))

/-- The greatest unsigned integer of 64 bits is written as a text and read back from it, and a
column of eight bits reads its least integer from a text with superfluous zeros. -/
theorem fromSql_lossless_least :
    (optional (int .u64)).toSql (some ⟨18446744073709551615, by decide⟩)
        = .text "18446744073709551615" ∧
      (optional (int .u64)).isExact = true ∧
      (optional (int .u64)).fromSql (.text "18446744073709551615")
        = .ok (some ⟨18446744073709551615, by decide⟩) ∧
      (int .i8).fromSql (.text "-0128") = .ok ⟨-128, by decide⟩ := by
  have hwritten : (optional (int .u64)).toSql (some ⟨18446744073709551615, by decide⟩)
      = .text "18446744073709551615" := by decide +kernel
  have hrun : Number.IsRun ['0', '1', '2', '8'] := ⟨by decide, List.all_eq_true.1 rfl⟩
  have hstands : (Value.text "-0128").StandsFor true (-128) := .minus rfl hrun
  refine ⟨hwritten, rfl, ?_, ((fromSql_lossless.2 .i8 (.text "-0128")).1 _).2 hstands⟩
  rw [← hwritten]
  exact (fromSql_lossless.1 (optional (int .u64)) rfl _).1

/-! ### Dates and times -/

/-- **Dates and times that survive being stored**, with a library that does what is documented.
Dates and moments are read back from their texts, over the whole calendar, with fractions and leap
seconds. Every moment is an instant that is read from some text; the text that it is written as
itself is read back in the years 0 to 9999, and rejected in the other years: their sign belongs to
no instant, and the offset to no moment. -/
theorem fromSql_moments (l : Time.Library) (h : l.Documented) (d : Time.Date) (m : Time.Moment) :
    dateFromSql l (dateToSql l d) = .ok d ∧
    momentFromSql l (momentToSql l m) = .ok m ∧
    instantFromSql l (momentToSql l m) = .ok m ∧
    instantFromSql l (instantToSql l m)
      = if 0 ≤ m.date.year ∧ m.date.year ≤ 9999 then .ok m
        else .error (.moment (l.writeInstant m) .tooLong) := by
  have hmoment : readMoment l (l.writeMoment Time.spacedFormat m) = .ok m := by
    rw [readMoment, h.readMoment_write]
  refine ⟨?_, hmoment, ?_, ?_⟩
  · rw [dateToSql, dateFromSql, h.readDate_write]
    rfl
  · simp only [momentToSql, instantFromSql, h.readInstant?_writeMoment, hmoment]
  · rw [instantToSql]
    split
    · next hyear => simp only [instantFromSql, h.readInstant?_write hyear]
    · next hyear =>
      obtain ⟨hspaced, hjoined⟩ := h.readMoment_writeInstant m
      simp only [instantFromSql, h.readInstant?_write_signed hyear, readMoment, hspaced, hjoined]
      rfl

/-- The last day before the year 0. -/
def eveOfYearZero : Time.Date := ⟨-1, 12, 31, by decide, by decide, by decide⟩

/-- The middle of the leap second at the end of 2016. -/
def leapSecond : Time.Moment :=
  ⟨⟨2016, 12, 31, by decide, by decide, by decide⟩,
    ⟨23, 59, 59, 1500000000, by decide, by decide, by decide, by decide, by decide⟩⟩

/-- The first second of the year 10000. -/
def year10000 : Time.Moment :=
  ⟨{ Time.Date.epoch with year := 10000, year_mem := by decide, day_mem := by decide }, .midnight⟩

theorem fromSql_moments_library :
    date.fromSql (date.toSql eveOfYearZero) = .ok eveOfYearZero ∧
    moment.fromSql (moment.toSql leapSecond) = .ok leapSecond ∧
    instant.fromSql (instant.toSql leapSecond) = .ok leapSecond ∧
    instant.fromSql (moment.toSql year10000) = .ok year10000 ∧
    instant.fromSql (instant.toSql year10000)
      = .error (.moment "+10000-01-01T00:00:00+00:00" .tooLong) := by
  have hlibrary := Time.documented_library
  obtain ⟨hdate, hmoment, -, hleap⟩ :=
    fromSql_moments Time.library hlibrary eveOfYearZero leapSecond
  obtain ⟨-, -, hread, hlate⟩ := fromSql_moments Time.library hlibrary eveOfYearZero year10000
  have htext : Time.library.writeInstant year10000 = "+10000-01-01T00:00:00+00:00" := by
    decide +kernel
  rw [if_pos (by decide)] at hleap
  rw [if_neg (by decide), htext] at hlate
  exact ⟨hdate, hmoment, hleap, hread, hlate⟩

/-- An instant that is read from a number, and not from its own text. -/
theorem fromSql_year_10000 :
    instant.fromSql (.int 253402300800) = .ok year10000 ∧
    instant.toSql year10000 = .text "+10000-01-01T00:00:00+00:00" ∧
    instant.fromSql (instant.toSql year10000)
      = .error (.moment "+10000-01-01T00:00:00+00:00" .tooLong) :=
  ⟨by decide +kernel, by decide +kernel, by decide +kernel⟩

end ColumnType

end EntityGraph
