import EntityGraph.Proofs.Number.Numerals
import EntityGraph.Time.Library

/-!
# Texts of dates and times

What is documented of a library of dates and times (`Library.Documented`): the text that it writes
for a moment, and the texts that it reads as one (`Spells`). These are more than it writes: a year
may have a sign that it does not need, and a fraction may have any number of digits up to nine.
What is written spells the moment (`spells_write`), so dates and moments are read back.

The texts of instants have years of just four digits and end in an offset. So an instant of a year
with a sign is read neither as an instant nor, for its offset, as a moment.
-/

namespace EntityGraph.Time

open Number (IsRun padded)

variable {m : Moment} {cs rest : List Char}

/-! ### Spelling -/

/-- Four digits, or any number of digits after a sign. -/
inductive IsYear : Int → List Char → Prop
  | plain {ds : List Char} : IsRun ds → ds.length = 4 → IsYear (Nat.ofDigitChars 10 ds 0) ds
  | plus {ds : List Char} : IsRun ds → IsYear (Nat.ofDigitChars 10 ds 0) ('+' :: ds)
  | minus {ds : List Char} : IsRun ds → IsYear (-Nat.ofDigitChars 10 ds 0) ('-' :: ds)

/-- A point and up to nine digits of a second, given in nanoseconds, or nothing. -/
inductive IsFraction : Nat → List Char → Prop
  | none : IsFraction 0 []
  | point {ds : List Char} : IsRun ds → ds.length ≤ 9 →
    IsFraction (Nat.ofDigitChars 10 ds 0 * 10 ^ (9 - ds.length)) ('.' :: ds)

/-- The texts of a part of a moment. The other parts have just the text that is written: two digits,
or the character itself. -/
def Part.Spells (m : Moment) (p : Part) (cs : List Char) : Prop :=
  match p with
  | .year => IsYear m.date.year cs
  | .fraction => IsFraction (m.time.nano % billion) cs
  | _ => cs = p.write m

/-- The texts of a moment in a format. -/
inductive Spells (m : Moment) : List Part → List Char → Prop
  | nil : Spells m [] []
  | cons {p : Part} {ps : List Part} {cs ds : List Char} :
    p.Spells m cs → Spells m ps ds → Spells m (p :: ps) (cs ++ ds)

theorem spells_cons_iff {p : Part} {ps : List Part} :
    Spells m (p :: ps) cs ↔ ∃ as bs, cs = as ++ bs ∧ p.Spells m as ∧ Spells m ps bs := by
  constructor
  · rintro (_ | ⟨hp, hps⟩)
    exact ⟨_, _, rfl, hp, hps⟩
  · rintro ⟨as, bs, rfl, hp, hps⟩
    exact .cons hp hps

theorem isYear_write (year : Int) : IsYear year (writeYear year) := by
  have hrun := Number.isRun_padded 4
  have hvalue := Number.ofDigitChars_padded 4
  unfold writeYear
  split
  · next hyear =>
    have hrange : 0 ≤ year ∧ year ≤ 9999 := by simpa using hyear
    have hlength : (padded 4 year.toNat).length = 4 :=
      Number.length_padded (by decide) (by omega)
    have hplain := IsYear.plain (hrun year.toNat) hlength
    rwa [hvalue, Int.toNat_of_nonneg hrange.1] at hplain
  · split
    · next hneg =>
      have hminus := IsYear.minus (hrun year.natAbs)
      rwa [hvalue, Int.ofNat_natAbs_of_nonpos (Int.le_of_lt hneg), Int.neg_neg] at hminus
    · next hneg =>
      have hplus := IsYear.plus (hrun year.natAbs)
      rwa [hvalue, Int.natAbs_of_nonneg (by omega)] at hplus

/-- A fraction is written with three, six or nine digits, as many as it needs, or not at all. -/
theorem exists_writeFraction (nano : Nat) :
    nano % billion = 0 ∧ writeFraction nano = [] ∨
      ∃ width n, (3 ≤ width ∧ width ≤ 9) ∧ n < 10 ^ width ∧ n * 10 ^ (9 - width) = nano % billion ∧
        writeFraction nano = '.' :: padded width n := by
  have hlt : nano % billion < 1000000000 := Nat.mod_lt _ (by decide)
  unfold writeFraction
  dsimp only
  split
  · next hzero => exact .inl ⟨hzero, rfl⟩
  refine .inr ?_
  split
  · exact ⟨3, _, by decide, by omega, by omega, rfl⟩
  split
  · exact ⟨6, _, by decide, by omega, by omega, rfl⟩
  · exact ⟨9, _, by decide, by omega, by omega, rfl⟩

theorem isFraction_write (nano : Nat) : IsFraction (nano % billion) (writeFraction nano) := by
  obtain ⟨hzero, htext⟩ | ⟨width, n, hwidth, hn, hnano, htext⟩ := exists_writeFraction nano
  · rw [hzero, htext]
    exact .none
  · have hlength := Number.length_padded (Nat.lt_of_lt_of_le (by decide) hwidth.1) hn
    have hpoint := IsFraction.point (Number.isRun_padded width n)
      (le_of_eq_of_le hlength hwidth.2)
    rw [Number.ofDigitChars_padded, hlength, hnano] at hpoint
    rwa [htext]

theorem Part.spells_write (m : Moment) (p : Part) : p.Spells m (p.write m) := by
  cases p with
  | year => exact isYear_write m.date.year
  | fraction => exact isFraction_write m.time.nano
  | _ => rfl

/-- **What is written in a format spells the moment.** -/
theorem spells_write (m : Moment) (format : List Part) : Spells m format (write format m) := by
  induction format with
  | nil => exact .nil
  | cons p ps ih => exact .cons (p.spells_write m) ih

/-! ### Instants -/

/-- `Z`, or a sign with hours and minutes. -/
inductive IsOffset : List Char → Prop
  | zulu {c : Char} : c = 'Z' ∨ c = 'z' → IsOffset [c]
  | hours {sign : Char} {hours minutes : List Char} : sign = '+' ∨ sign = '-' ∨ sign = '\u2212' →
    hours.length = 2 → minutes.length = 2 → IsOffset (sign :: (hours ++ ':' :: minutes))

namespace IsOffset

variable {ds minutes offset : List Char}

theorem isDigit_of_suffix {c : Char} (hds : IsRun ds) (hcs : ds <:+ cs) (hc : [c] <:+ cs) :
    c.isDigit = true := by
  have hends := List.suffix_of_suffix_length_le hc hcs (List.length_pos_of_ne_nil hds.ne_nil)
  exact hds.isDigit c (hends.subset List.mem_cons_self)

/-- No offset ends in three digits: the third from the end would be a colon. -/
theorem not_suffix_digits (hds : IsRun ds) (hlength : 3 ≤ ds.length) (hcs : ds <:+ cs)
    (hoffset : offset <:+ cs) : ¬ IsOffset offset := by
  rintro (@⟨c, hzulu⟩ | @⟨sign, hours, minutes, -, -, hminutes⟩)
  · have hdigit := isDigit_of_suffix hds hcs hoffset
    obtain rfl | rfl := hzulu <;> cases hdigit
  · have hcolon : ':' :: minutes <:+ cs := (List.suffix_append (sign :: hours) _).trans hoffset
    have hends := List.suffix_of_suffix_length_le hcolon hcs (by simpa [hminutes] using hlength)
    have hdigit := hds.isDigit ':' (hends.subset List.mem_cons_self)
    cases hdigit

/-- No offset ends in minutes and seconds: a colon is no sign. -/
theorem not_suffix_time (hds : IsRun ds) (hlength : ds.length = 2) (hminutes : minutes.length = 2)
    (hcs : ':' :: (minutes ++ ':' :: ds) <:+ cs) (hoffset : offset <:+ cs) :
    ¬ IsOffset offset := by
  rintro (@⟨c, hzulu⟩ | ⟨hsign, hhours, hends⟩)
  · have hlast : ds <:+ ':' :: (minutes ++ ':' :: ds) := ⟨':' :: (minutes ++ [':']), by simp⟩
    have hdigit := isDigit_of_suffix hds (hlast.trans hcs) hoffset
    obtain rfl | rfl := hzulu <;> cases hdigit
  · have hsame := (List.suffix_of_suffix_length_le hoffset hcs (by simp [*])).eq_of_length
      (by simp [*])
    obtain ⟨rfl, -⟩ := List.cons.inj hsame
    revert hsign
    decide

end IsOffset

/-- The seconds that are written, which a leap second is counted with. -/
theorem TimeOfDay.shownSecond_le (t : TimeOfDay) : t.second + t.nano / billion ≤ 60 := by
  have hsecond := t.second_lt
  have hnano : t.nano / billion < 2 := Nat.div_lt_of_lt_mul (Nat.mul_comm 2 billion ▸ t.nano_lt)
  omega

theorem daysIn_le (year : Int) (month : Nat) : daysIn year month ≤ 31 := by
  unfold daysIn
  split
  · split <;> decide
  all_goals decide

/-- The numbers that are written with two digits. -/
theorem Moment.two_digits (m : Moment) :
    m.date.month < 10 ^ 2 ∧ m.date.day < 10 ^ 2 ∧ m.time.hour < 10 ^ 2 ∧ m.time.minute < 10 ^ 2 ∧
      m.time.second + m.time.nano / billion < 10 ^ 2 := by
  have hmonth := m.date.month_mem
  have hday := m.date.day_mem
  have hdays := daysIn_le m.date.year m.date.month
  have hhour := m.time.hour_lt
  have hminute := m.time.minute_lt
  have hsecond := m.time.shownSecond_le
  omega

/-- The text of a moment does not end in an offset. -/
theorem not_isOffset_of_suffix {offset : List Char} (h : offset <:+ write spacedFormat m) :
    ¬ IsOffset offset := by
  obtain ⟨-, -, -, hminute, hsecond⟩ := m.two_digits
  -- the date and the hour, then minutes, seconds and the fraction
  have htext : write spacedFormat m = write (dateFormat ++ [.blank, .hour]) m
      ++ ':' :: (padded 2 m.time.minute ++ ':' :: (padded 2 (m.time.second + m.time.nano / billion)
        ++ writeFraction m.time.nano)) := by
    simp [write, spacedFormat, dateFormat, timeFormat, Part.write]
  obtain ⟨-, hnone⟩ | ⟨width, n, hwidth, hn, -, hsome⟩ := exists_writeFraction m.time.nano
  · rw [hnone, List.append_nil] at htext
    exact IsOffset.not_suffix_time (Number.isRun_padded ..)
      (Number.length_padded (by decide) hsecond) (Number.length_padded (by decide) hminute)
      (htext ▸ List.suffix_append ..) h
  · have hlength := Number.length_padded (Nat.lt_of_lt_of_le (by decide) hwidth.1) hn
    have hends : padded width n <:+ write spacedFormat m := by
      rw [htext, hsome]
      exact ⟨write (dateFormat ++ [.blank, .hour]) m ++ ':' :: (padded 2 m.time.minute
        ++ ':' :: (padded 2 (m.time.second + m.time.nano / billion) ++ ['.'])), by simp⟩
    exact IsOffset.not_suffix_digits (Number.isRun_padded width n)
      (le_of_le_of_eq hwidth.1 hlength.symm) hends h

/-- The offset of universal time. -/
def zeroOffset : List Char := ['+', '0', '0', ':', '0', '0']

/-- The years that have four digits and no sign. -/
def Date.IsShort (d : Date) : Prop := 0 ≤ d.year ∧ d.year ≤ 9999

theorem writeYear_of_isShort (h : m.date.IsShort) :
    writeYear m.date.year = padded 4 m.date.year.toNat :=
  if_pos (by simpa [Date.IsShort] using h)

/-- Other years are written with a sign. -/
theorem exists_writeYear (h : ¬ m.date.IsShort) :
    ∃ sign : Char, sign.isDigit = false ∧
      writeYear m.date.year = sign :: padded 4 m.date.year.natAbs := by
  refine ⟨_, ?_, if_neg (by simpa [Date.IsShort] using h)⟩
  split <;> rfl

/-! ### What is documented -/

/-- The two formats that moments are read by. -/
def IsMomentFormat (format : List Part) : Prop := format = spacedFormat ∨ format = joinedFormat

/-- What a library of dates and times documents of the formats that columns use, and of the texts of
instants. Nothing is said of other formats, nor of texts that spell no moment. -/
structure Library.Documented (l : Library) : Prop where
  /-- The year has four digits, and a sign outside of 0 to 9999. -/
  writeDate_eq : ∀ d, l.writeDate dateFormat d = String.ofList (write dateFormat ⟨d, .midnight⟩)
  /-- The fraction of a second has three, six or nine digits, or is left out. -/
  writeMoment_eq : ∀ m, l.writeMoment spacedFormat m = String.ofList (write spacedFormat m)
  /-- The offset of universal time is written out. -/
  writeInstant_eq : ∀ m, l.writeInstant m = String.ofList (write joinedFormat m ++ zeroOffset)
  readDate_of_spells : ∀ {m cs}, Spells m dateFormat cs →
    l.readDate dateFormat (String.ofList cs) = .ok m.date
  readMoment_of_spells : ∀ {format m cs}, IsMomentFormat format → Spells m format cs →
    l.readMoment format (String.ofList cs) = .ok m
  /-- Nothing may follow the last part. -/
  readMoment_tooLong : ∀ {format m cs c rest}, IsMomentFormat format → Spells m format cs →
    c.isDigit = false → c ≠ '.' →
    l.readMoment format (String.ofList (cs ++ c :: rest)) = .error .tooLong
  /-- A number is due behind the date, after blanks. -/
  readMoment_invalid : ∀ {m cs c rest}, Spells m dateFormat cs →
    c.isDigit = false → Text.isBlank c = false →
    l.readMoment spacedFormat (String.ofList (cs ++ c :: rest)) = .error .invalid
  /-- A text whose year has no sign, with the offset of universal time, is an instant. -/
  readInstant?_of_spells : ∀ {m cs}, Spells m joinedFormat cs →
    (∀ c ∈ cs.head?, c.isDigit = true) →
    l.readInstant? (String.ofList (cs ++ zeroOffset)) = some m
  /-- The year of an instant has just four digits. -/
  year_of_readInstant? : ∀ {s m}, l.readInstant? s = some m →
    ∃ year, year <+: s.toList ∧ IsRun year ∧ year.length = 4
  /-- The offset of an instant is not left out. -/
  offset_of_readInstant? : ∀ {s m}, l.readInstant? s = some m →
    ∃ offset, offset <:+ s.toList ∧ IsOffset offset

namespace Library.Documented

variable {l : Library} (h : l.Documented)

include h

theorem readDate_write (d : Date) : l.readDate dateFormat (l.writeDate dateFormat d) = .ok d := by
  rw [h.writeDate_eq]
  exact h.readDate_of_spells (spells_write ⟨d, .midnight⟩ dateFormat)

theorem readMoment_write (m : Moment) :
    l.readMoment spacedFormat (l.writeMoment spacedFormat m) = .ok m := by
  rw [h.writeMoment_eq]
  exact h.readMoment_of_spells (.inl rfl) (spells_write m spacedFormat)

/-- What is written as an instant is no moment: a blank does not stand before the time, and there
is no place for the offset. -/
theorem readMoment_writeInstant (m : Moment) :
    l.readMoment spacedFormat (l.writeInstant m) = .error .invalid ∧
    l.readMoment joinedFormat (l.writeInstant m) = .error .tooLong := by
  rw [h.writeInstant_eq]
  constructor
  · have hdate : write joinedFormat m ++ zeroOffset
        = write dateFormat m ++ 'T' :: (write timeFormat m ++ zeroOffset) := by
      simp only [joinedFormat, write, List.flatMap_append, List.append_assoc]
      rfl
    rw [hdate]
    exact h.readMoment_invalid (spells_write m dateFormat) rfl rfl
  · exact h.readMoment_tooLong (.inr rfl) (spells_write m joinedFormat) rfl (by decide)

theorem readInstant?_write {m : Moment} (hyear : m.date.IsShort) :
    l.readInstant? (l.writeInstant m) = some m := by
  rw [h.writeInstant_eq]
  refine h.readInstant?_of_spells (spells_write m joinedFormat) ?_
  have hrun := Number.isRun_padded 4 m.date.year.toNat
  obtain ⟨d, ds, hds⟩ := List.exists_cons_of_ne_nil hrun.ne_nil
  have htext : (write joinedFormat m).head? = some d := by
    rw [joinedFormat, dateFormat, write, List.cons_append, List.cons_append, List.flatMap_cons,
      Part.write, writeYear_of_isShort hyear, hds]
    rfl
  rw [htext]
  rintro _ ⟨⟩
  exact hrun.isDigit d (by simp [hds])

/-- A year with a sign is no year of an instant. -/
theorem readInstant?_write_signed {m : Moment} (hyear : ¬ m.date.IsShort) :
    l.readInstant? (l.writeInstant m) = none := by
  refine Option.eq_none_iff_forall_ne_some.2 fun m' hread => ?_
  obtain ⟨year, hprefix, hrun, -⟩ := h.year_of_readInstant? hread
  obtain ⟨sign, hsign, hsigned⟩ := exists_writeYear hyear
  obtain ⟨d, ds, rfl⟩ := List.exists_cons_of_ne_nil hrun.ne_nil
  rw [h.writeInstant_eq, String.toList_ofList, joinedFormat, dateFormat, write, List.cons_append,
    List.cons_append, List.flatMap_cons, Part.write, hsigned] at hprefix
  obtain ⟨rfl, -⟩ := List.cons_prefix_cons.1 hprefix
  have hdigit := hrun.isDigit d List.mem_cons_self
  rw [hsign] at hdigit
  cases hdigit

/-- The text of a moment is that of no instant. -/
theorem readInstant?_writeMoment (m : Moment) :
    l.readInstant? (l.writeMoment spacedFormat m) = none := by
  refine Option.eq_none_iff_forall_ne_some.2 fun m' hread => ?_
  obtain ⟨offset, hsuffix, hoffset⟩ := h.offset_of_readInstant? hread
  rw [h.writeMoment_eq, String.toList_ofList] at hsuffix
  exact not_isOffset_of_suffix hsuffix hoffset

end Library.Documented

end EntityGraph.Time
