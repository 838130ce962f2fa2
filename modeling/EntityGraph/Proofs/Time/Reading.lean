import EntityGraph.Proofs.Time.Texts
import Mathlib.Data.List.Chain

/-!
# Moments read back

A text that spells a moment is read as it, if the parts of the format can be told apart
(`readParts_spells`): a number of two digits ends by itself, whereas a year with a sign and a
fraction take all the digits that follow. So the library that columns use does what is documented
(`documented_library`).
-/

namespace EntityGraph.Time

open Number (IsRun padded)

variable {cs rest : List Char}

/-! ### Numbers -/

/-- The text does not go on with a digit. -/
def EndsDigits (cs : List Char) : Prop := ∀ c ∈ cs.head?, c.isDigit = false

theorem EndsDigits.take (h : EndsDigits cs) (n : Nat) : EndsDigits (cs.take n) := by
  intro c hc
  cases cs <;> cases n <;> simp_all [EndsDigits]

theorem EndsDigits.takeWhile (h : EndsDigits cs) : cs.takeWhile Char.isDigit = [] := by
  cases cs with
  | nil => rfl
  | cons c cs => exact List.takeWhile_cons_of_neg (by simp [h c rfl])

theorem EndsDigits.dropWhile (h : EndsDigits cs) : cs.dropWhile Char.isDigit = cs := by
  cases cs with
  | nil => rfl
  | cons c cs => exact List.dropWhile_cons_of_neg (by simp [h c rfl])

/-- A number takes the digits it has room for, and no more of them if its room is used up or none
follow. -/
theorem leadingDigits_append {width : Option Nat} {ds : List Char}
    (hds : ∀ c ∈ ds, c.isDigit = true) (hroom : ∀ w ∈ width, ds.length ≤ w)
    (hend : width = some ds.length ∨ EndsDigits rest) : leadingDigits width (ds ++ rest) = ds := by
  cases width with
  | none =>
    have hrest : EndsDigits rest := hend.resolve_left nofun
    rw [leadingDigits, List.takeWhile_append_of_pos hds, hrest.takeWhile, List.append_nil]
  | some w =>
    have hrest : EndsDigits (rest.take (w - ds.length)) := by
      obtain hw | hrest := hend
      · rw [Option.some.inj hw, Nat.sub_self]
        exact nofun
      · exact hrest.take _
    rw [leadingDigits, List.take_append, List.take_of_length_le (hroom w rfl),
      List.takeWhile_append_of_pos hds, hrest.takeWhile, List.append_nil]

theorem readNumber_append {width : Option Nat} {ds : List Char} (hds : IsRun ds)
    (hroom : ∀ w ∈ width, ds.length ≤ w) (hend : width = some ds.length ∨ EndsDigits rest) :
    readNumber width (ds ++ rest) = .ok (Nat.ofDigitChars 10 ds 0, rest) := by
  rw [readNumber, leadingDigits_append hds.isDigit hroom hend, if_neg (by simp [hds.ne_nil]),
    if_neg (by simp [hds.ne_nil]), List.drop_left]

/-- A number of a fixed width ends by itself. -/
theorem readNumber_padded {width n : Nat} (hwidth : 0 < width) (hn : n < 10 ^ width) :
    readNumber (some width) (padded width n ++ rest) = .ok (n, rest) := by
  have hlength := Number.length_padded hwidth hn
  rw [readNumber_append (Number.isRun_padded width n), Number.ofDigitChars_padded]
  · rintro _ ⟨⟩
    exact Nat.le_of_eq hlength
  · exact .inl (congrArg some hlength.symm)

theorem trimLeft_cons {c : Char} (hc : Text.isBlank c = false) (cs : List Char) :
    Text.trimLeft (c :: cs) = c :: cs :=
  List.dropWhile_cons_of_neg (by simp [hc])

theorem trimLeft_run {ds : List Char} (hds : IsRun ds) (rest : List Char) :
    Text.trimLeft (ds ++ rest) = ds ++ rest := by
  obtain ⟨c, cs, rfl⟩ := List.exists_cons_of_ne_nil hds.ne_nil
  have hc : c.isDigit = true := hds.isDigit c List.mem_cons_self
  rw [List.cons_append, trimLeft_cons (Text.not_isBlank_of_isDigit hc)]

namespace IsYear

variable {year : Int}

/-- A year that begins with a digit has four of them. -/
theorem of_isDigit (h : IsYear year cs) (hdigit : ∀ c ∈ cs.head?, c.isDigit = true) :
    IsRun cs ∧ cs.length = 4 ∧ (Nat.ofDigitChars 10 cs 0 : Int) = year := by
  cases h with
  | plain hds hlength => exact ⟨hds, hlength, rfl⟩
  | plus _ | minus _ => cases hdigit _ rfl

/-- A year ends before whatever is no digit. -/
theorem readYear_append (h : IsYear year cs) (hrest : EndsDigits rest) :
    readYear (cs ++ rest) = .ok (year, rest) := by
  cases h with
  | plain hds hlength =>
    have hread : readNumber (some 4) (cs ++ rest) = .ok (Nat.ofDigitChars 10 cs 0, rest) :=
      readNumber_append hds (by rintro _ ⟨⟩; exact Nat.le_of_eq hlength) (.inr hrest)
    obtain ⟨c, ds, rfl⟩ := List.exists_cons_of_ne_nil hds.ne_nil
    have hc : c.isDigit = true := hds.isDigit c List.mem_cons_self
    rw [List.cons_append] at hread ⊢
    unfold readYear
    split
    · next heq =>
      obtain ⟨rfl, -⟩ := List.cons.inj heq
      cases hc
    · next heq =>
      obtain ⟨rfl, -⟩ := List.cons.inj heq
      cases hc
    · rw [hread]
      rfl
  | plus hds | minus hds =>
    rw [List.cons_append, readYear, readNumber_append hds (by simp) (.inr hrest)]
    rfl

theorem trimLeft_append (h : IsYear year cs) (rest : List Char) :
    Text.trimLeft (cs ++ rest) = cs ++ rest := by
  cases h with
  | plain hds _ => exact trimLeft_run hds rest
  | plus _ | minus _ => exact trimLeft_cons (by decide) _

end IsYear

theorem readFraction_append {ds : List Char} (hds : IsRun ds) (hlength : ds.length ≤ 9)
    (hrest : EndsDigits rest) :
    readFraction (ds ++ rest)
      = .ok (Nat.ofDigitChars 10 ds 0 * 10 ^ (9 - ds.length), rest) := by
  have hroom : ∀ w ∈ some 9, ds.length ≤ w := by
    rintro _ ⟨⟩
    exact hlength
  rw [readFraction, readNumber_append hds hroom (.inr hrest),
    leadingDigits_append hds.isDigit hroom (.inr hrest)]
  simp only [bind, Except.bind, pure, Except.pure, hrest.dropWhile, Nat.pow_eq]

/-! ### Formats -/

/-- Numbers of two digits in their range are read back. -/
theorem readNumber_within {low high n : Nat} (hn : low ≤ n ∧ n ≤ high) (hhigh : high < 100)
    (set : Nat → Readings) :
    (do
      let (k, rest) ← readNumber (some 2) (Text.trimLeft (padded 2 n ++ rest))
      pure (set (← within low high k), rest)) = Except.ok (set n, rest) := by
  rw [trimLeft_run (Number.isRun_padded 2 n), readNumber_padded (by decide) (by omega)]
  simp only [bind, Except.bind, within, hn.1, hn.2, decide_true, Bool.and_self, if_true, pure,
    Except.pure]

namespace Part

variable {p q : Part} {m : Moment} {r : Readings}

/-- The readings after a part of a moment. -/
def fill (m : Moment) (r : Readings) : Part → Readings
  | year => { r with year := m.date.year }
  | month => { r with month := m.date.month }
  | day => { r with day := m.date.day }
  | hour => { r with hour := m.time.hour }
  | minute => { r with minute := m.time.minute }
  | second => { r with second := m.time.second + m.time.nano / billion }
  | fraction => { r with nano := m.time.nano % billion }
  | literal _ | blank => r

/-- The nanoseconds were not read, or are those of the moment. So a fraction may be left out. -/
def AgreesOnNano (m : Moment) (r : Readings) : Prop := r.nano = 0 ∨ r.nano = m.time.nano % billion

theorem AgreesOnNano.fill (h : AgreesOnNano m r) (p : Part) : AgreesOnNano m (p.fill m r) := by
  cases p with
  | fraction => exact .inr rfl
  | _ => exact h

theorem read_fraction (hcs : fraction.Spells m cs) (hr : AgreesOnNano m r)
    (hrest : ∀ c ∈ rest.head?, c.isDigit = false ∧ c ≠ '.') :
    fraction.read r (cs ++ rest) = .ok (fraction.fill m r, rest) := by
  have hends : EndsDigits rest := fun c hc => (hrest c hc).1
  change IsFraction (m.time.nano % billion) cs at hcs
  rw [AgreesOnNano] at hr
  rw [fill]
  generalize m.time.nano % billion = nano at hcs hr
  cases hcs with
  | none =>
    have hzero : { r with nano := 0 } = r := by rw [← hr.elim id id]
    rw [List.nil_append, read, hzero]
    · rfl
    · rintro cs rfl
      exact absurd rfl (hrest '.' rfl).2
  | point hds hlength =>
    rw [List.cons_append, read, readFraction_append hds hlength hends]
    rfl

/-- Whether a part is read no further than to a character. -/
def endsBefore (c : Char) : Part → Bool
  | year => !c.isDigit
  | fraction => !c.isDigit && c != '.'
  | blank => !Text.isBlank c
  | month | day | hour | minute | second | literal _ => true

/-- A part is read back if what follows ends it. -/
theorem read_spells (hcs : p.Spells m cs) (hr : AgreesOnNano m r)
    (hrest : ∀ c ∈ rest.head?, p.endsBefore c = true) :
    p.read r (cs ++ rest) = .ok (p.fill m r, rest) := by
  cases p with
  | year =>
    have hyear : IsYear m.date.year cs := hcs
    have hends : EndsDigits rest := fun c hc => by simpa [endsBefore] using hrest c hc
    have hrange := m.date.year_mem
    have hbits : -2147483648 ≤ m.date.year ∧ m.date.year ≤ 2147483647 := by
      simp only [minYear, maxYear] at hrange
      omega
    rw [read, hyear.trimLeft_append, hyear.readYear_append hends]
    simp only [bind, Except.bind, hbits.1, hbits.2, decide_true, Bool.and_self, if_true]
    rfl
  | month =>
    obtain rfl : cs = padded 2 m.date.month := hcs
    exact readNumber_within m.date.month_mem (by decide) fun k => { r with month := k }
  | day =>
    obtain rfl : cs = padded 2 m.date.day := hcs
    have hday := m.date.day_mem
    exact readNumber_within ⟨hday.1, Nat.le_trans hday.2 (daysIn_le _ _)⟩ (by decide)
      fun k => { r with day := k }
  | hour =>
    obtain rfl : cs = padded 2 m.time.hour := hcs
    exact readNumber_within ⟨Nat.zero_le _, Nat.le_of_lt_succ m.time.hour_lt⟩ (by decide)
      fun k => { r with hour := k }
  | minute =>
    obtain rfl : cs = padded 2 m.time.minute := hcs
    exact readNumber_within ⟨Nat.zero_le _, Nat.le_of_lt_succ m.time.minute_lt⟩ (by decide)
      fun k => { r with minute := k }
  | second =>
    obtain rfl : cs = padded 2 (m.time.second + m.time.nano / billion) := hcs
    exact readNumber_within ⟨Nat.zero_le _, m.time.shownSecond_le⟩ (by decide)
      fun k => { r with second := k }
  | fraction => exact read_fraction hcs hr fun c hc => by simpa [endsBefore] using hrest c hc
  | literal c =>
    obtain rfl : cs = [c] := hcs
    rw [List.singleton_append, read, if_pos rfl]
    rfl
  | blank =>
    obtain rfl : cs = [' '] := hcs
    have htrim : Text.trimLeft rest = rest := by
      cases rest with
      | nil => rfl
      | cons c rest => exact trimLeft_cons (by simpa [endsBefore] using hrest c rfl) rest
    rw [List.singleton_append, read, Text.trimLeft, List.dropWhile_cons_of_pos (by decide)]
    exact congrArg (fun cs => Except.ok (r, cs)) htrim

/-- Whether a part ends by itself: a number of two digits or a character. -/
def isFixed : Part → Bool
  | year | fraction | blank => false
  | month | day | hour | minute | second | literal _ => true

/-- Whether a part is read no further than to the next one. -/
def endsAt (p : Part) : Part → Bool
  | literal c => p.endsBefore c
  | blank => p.endsBefore ' '
  | month | day | hour | minute | second => p.endsBefore '0'
  | year | fraction => p.isFixed

theorem endsBefore_of_isFixed (h : p.isFixed = true) (c : Char) : p.endsBefore c = true := by
  cases p <;> first | rfl | cases h

theorem endsBefore_of_isDigit (h : p.endsBefore '0' = true) {c : Char} (hc : c.isDigit = true) :
    p.endsBefore c = true := by
  cases p with
  | year | fraction => cases h
  | blank => simp [endsBefore, Text.not_isBlank_of_isDigit hc]
  | _ => rfl

theorem endsBefore_of_padded (h : p.endsBefore '0' = true) (width n : Nat) :
    ∀ c ∈ (padded width n ++ rest).head?, p.endsBefore c = true := by
  have hrun := Number.isRun_padded width n
  obtain ⟨d, cs, hcs⟩ := List.exists_cons_of_ne_nil hrun.ne_nil
  rw [hcs]
  rintro _ ⟨⟩
  exact endsBefore_of_isDigit h (hrun.isDigit d (by simp [hcs]))

/-- The next part ends a part, whatever its text begins with. -/
theorem endsBefore_of_endsAt (h : p.endsAt q = true) (hcs : q.Spells m cs) (rest : List Char) :
    ∀ c ∈ (cs ++ rest).head?, p.endsBefore c = true := by
  cases q with
  | literal d =>
    obtain rfl : cs = [d] := hcs
    rintro _ ⟨⟩
    exact h
  | blank =>
    obtain rfl : cs = [' '] := hcs
    rintro _ ⟨⟩
    exact h
  | year | fraction => exact fun c _ => endsBefore_of_isFixed h c
  | month | day | hour | minute | second =>
    obtain rfl : cs = padded 2 _ := hcs
    exact endsBefore_of_padded h _ _

end Part

/-- A text is read by a format if the next part ends each part and what follows ends the last
one. -/
theorem readParts_spells {format : List Part} {m : Moment} {r : Readings}
    (hcs : Spells m format cs) (hformat : format.IsChain fun p q => p.endsAt q = true)
    (hrest : ∀ p ∈ format.getLast?, ∀ c ∈ rest.head?, p.endsBefore c = true)
    (hr : Part.AgreesOnNano m r) :
    readParts r (cs ++ rest) format = .ok (format.foldl (Part.fill m) r, rest) := by
  induction hcs generalizing r with
  | nil => rfl
  | @cons p ps as bs hp hps ih =>
    have hends : ∀ c ∈ (bs ++ rest).head?, p.endsBefore c = true := by
      cases hps with
      | nil => exact hrest p rfl
      | cons hq _ =>
        rw [List.append_assoc]
        exact Part.endsBefore_of_endsAt (List.isChain_cons_cons.1 hformat).1 hq _
    have hlast : ∀ q ∈ ps.getLast?, ∀ c ∈ rest.head?, q.endsBefore c = true := by
      intro q hq
      cases ps with
      | nil => cases hq
      | cons _ _ => exact hrest q (by rwa [List.getLast?_cons_cons])
    rw [List.append_assoc, readParts, Part.read_spells hp hr hends]
    exact ih hformat.tail hlast (hr.fill p)

theorem readParts_append (r : Readings) (cs : List Char) (ps qs : List Part) :
    readParts r cs (ps ++ qs) = readParts r cs ps >>= fun p => readParts p.1 p.2 qs := by
  induction ps generalizing r cs with
  | nil => rfl
  | cons p ps ih =>
    rw [List.cons_append, readParts, readParts]
    cases p.read r cs with
    | error e => rfl
    | ok after => exact ih after.1 after.2

theorem readAll_spells {format : List Part} {m : Moment} (hcs : Spells m format cs)
    (hformat : format.IsChain fun p q => p.endsAt q = true) :
    readAll format cs = .ok (format.foldl (Part.fill m) {}) := by
  have hnothing : ∀ p ∈ format.getLast?, ∀ c ∈ ([] : List Char).head?, p.endsBefore c = true :=
    fun _ _ => nofun
  have hread := readParts_spells hcs hformat hnothing (r := {}) (.inl rfl)
  rw [List.append_nil] at hread
  rw [readAll, hread]
  rfl

theorem of?_date (d : Date) : Date.of? d.year d.month d.day = some d := by
  rw [Date.of?, dif_pos d.year_mem, dif_pos d.month_mem, dif_pos d.day_mem]

/-- A leap second is written as the 60th second, and read as one. -/
theorem of?_time (t : TimeOfDay) :
    TimeOfDay.of? t.hour t.minute (t.second + t.nano / billion) (t.nano % billion) = some t := by
  have hsecond := t.second_lt
  have hparts : (if t.second + t.nano / billion = 60 then (59, t.nano % billion + billion)
      else (t.second + t.nano / billion, t.nano % billion)) = (t.second, t.nano) := by
    by_cases hleap : billion ≤ t.nano
    · have hquot : t.nano / billion = 1 :=
        Nat.div_eq_of_lt_le (by rwa [Nat.one_mul]) t.nano_lt
      have hrest : t.nano % billion + billion = t.nano := by
        have hsum := Nat.mod_add_div t.nano billion
        rwa [hquot, Nat.mul_one] at hsum
      rw [hquot, t.leap hleap, if_pos rfl, hrest]
    · have hnano : t.nano < billion := Nat.lt_of_not_le hleap
      rw [Nat.div_eq_of_lt hnano, Nat.mod_eq_of_lt hnano, Nat.add_zero,
        if_neg (Nat.ne_of_lt hsecond)]
  rw [TimeOfDay.of?, hparts]
  dsimp only
  rw [dif_pos t.hour_lt, dif_pos t.minute_lt, dif_pos hsecond, dif_pos t.nano_lt, dif_pos t.leap]

/-- The readings of a date and a time. -/
def readingsOf (m : Moment) : Readings where
  year := m.date.year
  month := m.date.month
  day := m.date.day
  hour := m.time.hour
  minute := m.time.minute
  second := m.time.second + m.time.nano / billion
  nano := m.time.nano % billion

theorem moment_readingsOf (m : Moment) : (readingsOf m).moment = .ok m := by
  rw [Readings.moment, Readings.date, readingsOf]
  simp only [of?_date, of?_time]
  rfl

namespace IsMomentFormat

variable {format : List Part}

theorem isChain (h : IsMomentFormat format) : format.IsChain fun p q => p.endsAt q = true := by
  obtain rfl | rfl := h <;> decide

theorem foldl_fill (h : IsMomentFormat format) (m : Moment) :
    format.foldl (Part.fill m) {} = readingsOf m := by
  obtain rfl | rfl := h <;> rfl

theorem getLast?_eq (h : IsMomentFormat format) : format.getLast? = some .fraction := by
  obtain rfl | rfl := h <;> rfl

end IsMomentFormat

/-- Dates are read back, also those of years with a sign. -/
theorem readDate_spells {m : Moment} (hcs : Spells m dateFormat cs) :
    readDate dateFormat cs = .ok m.date := by
  have hdate : Readings.date (dateFormat.foldl (Part.fill m) {}) = .ok m.date := by
    rw [Readings.date]
    simp only [dateFormat, List.foldl_cons, List.foldl_nil, Part.fill, of?_date]
  rw [readDate, readAll_spells hcs (by decide)]
  exact hdate

/-- Moments are read back, also those of years with a sign and of leap seconds. -/
theorem readMoment_spells {format : List Part} {m : Moment} (hformat : IsMomentFormat format)
    (hcs : Spells m format cs) : readMoment format cs = .ok m := by
  rw [readMoment, readAll_spells hcs hformat.isChain, hformat.foldl_fill]
  exact moment_readingsOf m

theorem readMoment_tooLong {format : List Part} {m : Moment} {c : Char}
    (hformat : IsMomentFormat format) (hcs : Spells m format cs) (hdigit : c.isDigit = false)
    (hpoint : c ≠ '.') : readMoment format (cs ++ c :: rest) = .error .tooLong := by
  have hends : ∀ p ∈ format.getLast?, ∀ d ∈ (c :: rest).head?, p.endsBefore d = true := by
    rw [hformat.getLast?_eq]
    rintro _ ⟨⟩ _ ⟨⟩
    simp [Part.endsBefore, hdigit, hpoint]
  rw [readMoment, readAll, readParts_spells hcs hformat.isChain hends (.inl rfl)]
  rfl

theorem readMoment_invalid {m : Moment} {c : Char} (hcs : Spells m dateFormat cs)
    (hdigit : c.isDigit = false) (hblank : Text.isBlank c = false) :
    readMoment spacedFormat (cs ++ c :: rest) = .error .invalid := by
  have hnumber : readNumber (some 2) (c :: rest) = .error .invalid := by
    rw [readNumber, leadingDigits, List.take_succ_cons,
      List.takeWhile_cons_of_neg (by simp [hdigit])]
    rfl
  have htime : ∀ r, readParts r (c :: rest) (.blank :: timeFormat) = .error .invalid := by
    intro r
    rw [readParts, Part.read, trimLeft_cons hblank, timeFormat]
    simp only [pure, Except.pure, bind, Except.bind]
    rw [readParts, Part.read, trimLeft_cons hblank, hnumber]
    rfl
  rw [readMoment, readAll, spacedFormat, List.append_assoc, readParts_append,
    readParts_spells hcs (by decide) (by rintro _ ⟨⟩ _ _; rfl) (.inl rfl)]
  exact congrArg (fun p => (p >>= _) >>= _) (htime _)

/-! ### Instants

Each step of the reader stands together with the rest of the reading that it is bound to. -/

section
variable {α : Type}

theorem bind_readExactly? {width : Nat} {ds : List Char} (hds : IsRun ds)
    (hlength : ds.length = width) (rest : List Char) (f : Nat × List Char → Option α) :
    (readExactly? width (ds ++ rest)).bind f = f (Nat.ofDigitChars 10 ds 0, rest) := by
  subst hlength
  rw [readExactly?, if_pos (by rw [List.length_append]; omega), List.take_left, List.drop_left,
    hds.readDigits?, Option.map_some, Option.bind_some]

theorem bind_readExactly?_padded {n : Nat} (hn : n < 10 ^ 2) (rest : List Char)
    (f : Nat × List Char → Option α) :
    (readExactly? 2 (padded 2 n ++ rest)).bind f = f (n, rest) := by
  rw [bind_readExactly? (Number.isRun_padded 2 n) (Number.length_padded (by decide) hn),
    Number.ofDigitChars_padded]

theorem bind_readChar? (c : Char) (rest : List Char) (f : List Char → Option α) :
    (readChar? c (c :: rest)).bind f = f rest := by
  rw [readChar?, if_pos rfl, Option.bind_some]

theorem bind_separator (rest : List Char) (f : List Char → Option α) :
    (readChar? 'T' ('T' :: rest) <|> readChar? 't' ('T' :: rest) <|>
      readChar? ' ' ('T' :: rest)).bind f = f rest :=
  rfl

end

/-- A time with the offset zero is that of universal time. -/
theorem behind?_zero (m : Moment) : m.behind? 0 = some m := by
  have hhour := m.time.hour_lt
  have hminute := m.time.minute_lt
  have hdate : ¬ (m.time.hour * 60 + m.time.minute : Int) - 0 < 0 ∧
      ¬ 1440 ≤ (m.time.hour * 60 + m.time.minute : Int) - 0 := by omega
  have htime : m.time.addMinutes (1440 - (0 : Int).fmod 1440).toNat = m.time := by
    have htotal : (m.time.hour * 60 + m.time.minute + 1440) / 60 % 24 = m.time.hour ∧
        (m.time.hour * 60 + m.time.minute + 1440) % 60 = m.time.minute := by omega
    simp [TimeOfDay.addMinutes, htotal.1, htotal.2]
  simp only [Moment.behind?, if_neg hdate.1, if_neg hdate.2, htime, Option.bind_eq_bind,
    Option.bind_some, Option.pure_def]

theorem readOffset?_zero : readOffset? zeroOffset = some (0, []) := by
  decide

/-- The texts of an instant without its offset: the fields, one after the other. -/
theorem exists_fields {m : Moment} (h : Spells m joinedFormat cs) :
    ∃ year fraction, IsYear m.date.year year ∧ IsFraction (m.time.nano % billion) fraction ∧
      cs = year ++ '-' :: (padded 2 m.date.month ++ '-' :: (padded 2 m.date.day
        ++ 'T' :: (padded 2 m.time.hour ++ ':' :: (padded 2 m.time.minute
          ++ ':' :: (padded 2 (m.time.second + m.time.nano / billion) ++ fraction))))) := by
  simp only [joinedFormat, dateFormat, timeFormat, List.cons_append, List.nil_append,
    spells_cons_iff, Part.Spells, Part.write] at h
  obtain ⟨year, _, rfl, hyear, _, _, rfl, rfl, _, _, rfl, rfl, _, _, rfl, rfl, _, _, rfl, rfl,
    _, _, rfl, rfl, _, _, rfl, rfl, _, _, rfl, rfl, _, _, rfl, rfl, _, _, rfl, rfl, _, _, rfl, rfl,
    fraction, _, rfl, hfraction, ⟨⟩⟩ := h
  exact ⟨year, fraction, hyear, hfraction, by simp⟩

theorem readInstant?_spells {m : Moment} (hcs : Spells m joinedFormat cs)
    (hdigit : ∀ c ∈ cs.head?, c.isDigit = true) : readInstant? (cs ++ zeroOffset) = some m := by
  obtain ⟨year, fraction, hyear, hfraction, rfl⟩ := exists_fields hcs
  obtain ⟨hrun, hlength, hvalue⟩ := hyear.of_isDigit fun c hc => hdigit c (by
    rw [List.head?_append, hc]
    rfl)
  obtain ⟨hmonth, hday, hhour, hminute, hsecond⟩ := m.two_digits
  simp only [List.append_assoc, List.cons_append]
  rw [readInstant?]
  -- each step leaves the rest of the text to the next one
  refine (bind_readExactly? hrun hlength _ _).trans <| (bind_readChar? _ _ _).trans <|
    (bind_readExactly?_padded hmonth _ _).trans <| (bind_readChar? _ _ _).trans <|
    (bind_readExactly?_padded hday _ _).trans <| (bind_separator _ _).trans <|
    (bind_readExactly?_padded hhour _ _).trans <| (bind_readChar? _ _ _).trans <|
    (bind_readExactly?_padded hminute _ _).trans <| (bind_readChar? _ _ _).trans <|
    (bind_readExactly?_padded hsecond _ _).trans ?_
  have htime := of?_time m.time
  generalize m.time.nano % billion = nano at hfraction htime
  have hdate : Date.of? (Nat.ofDigitChars 10 year 0) m.date.month m.date.day = some m.date := by
    rw [hvalue, of?_date]
  have hends : EndsDigits zeroOffset := by
    rintro _ ⟨⟩
    rfl
  have hfinish : ((readOffset? zeroOffset).bind fun p =>
      if p.2.isEmpty = true then
        (Date.of? (Nat.ofDigitChars 10 year 0) m.date.month m.date.day).bind fun date =>
          (TimeOfDay.of? m.time.hour m.time.minute (m.time.second + m.time.nano / billion)
            nano).bind fun time => (Moment.mk date time).behind? p.1
      else none) = some m := by
    rw [readOffset?_zero, hdate, htime]
    exact behind?_zero m
  cases hfraction with
  | none => exact hfinish
  | point hds hlength =>
    simp only [List.cons_append, readFraction_append hds hlength hends, Except.toOption]
    exact hfinish

/-! ### What every instant has -/

theorem exists_of_readExactly? {width n : Nat} (h : readExactly? width cs = some (n, rest)) :
    ∃ ds, cs = ds ++ rest ∧ ds.length = width ∧ IsRun ds := by
  unfold readExactly? at h
  split at h
  · next hwidth =>
    obtain ⟨k, hk, hpair⟩ := Option.map_eq_some_iff.1 h
    obtain ⟨rfl, rfl⟩ := Prod.mk.inj hpair
    exact ⟨cs.take width, (List.take_append_drop width cs).symm, List.length_take_of_le hwidth,
      (Number.readDigits?_eq_some_iff.1 hk).1⟩
  · cases h

theorem suffix_of_readExactly? {width n : Nat} (h : readExactly? width cs = some (n, rest)) :
    rest <:+ cs := by
  obtain ⟨ds, rfl, -, -⟩ := exists_of_readExactly? h
  exact List.suffix_append ds rest

theorem eq_of_readChar? {c : Char} (h : readChar? c cs = some rest) : cs = c :: rest := by
  unfold readChar? at h
  split at h
  · cases h
  · next d tail =>
    obtain ⟨rfl, htail⟩ := Option.ite_none_right_eq_some.1 h
    rw [Option.some.inj htail]

theorem suffix_of_readChar? {c : Char} (h : readChar? c cs = some rest) : rest <:+ cs :=
  eq_of_readChar? h ▸ List.suffix_cons c rest

theorem suffix_of_readFraction {nano : Nat} (h : (readFraction cs).toOption = some (nano, rest)) :
    rest <:+ cs := by
  unfold readFraction readNumber at h
  split at h
  · cases h
  dsimp only at h
  split at h
  · cases h
  obtain ⟨-, rfl⟩ := Prod.mk.inj (Option.some.inj h)
  exact (List.dropWhile_suffix _).trans (List.drop_suffix _ _)

theorem exists_of_readOffset? {minutes : Int} (h : readOffset? cs = some (minutes, rest)) :
    ∃ offset, cs = offset ++ rest ∧ IsOffset offset := by
  unfold readOffset? at h
  split at h
  · cases h
  next c tail =>
  split at h
  · next hzulu =>
    obtain ⟨-, rfl⟩ := Prod.mk.inj (Option.some.inj h)
    exact ⟨[c], rfl, .zulu (by simpa using hzulu)⟩
  split at h
  · next hsign =>
    simp only [Option.bind_eq_bind, Option.bind_eq_some_iff, Prod.exists] at h
    obtain ⟨_, _, hhours, _, hcolon, _, _, hminutes, h⟩ := h
    obtain ⟨hours, rfl, hlength, -⟩ := exists_of_readExactly? hhours
    obtain rfl := eq_of_readChar? hcolon
    obtain ⟨minutes, rfl, hlength', -⟩ := exists_of_readExactly? hminutes
    obtain ⟨-, h⟩ := Option.ite_none_right_eq_some.1 h
    obtain ⟨-, rfl⟩ := Prod.mk.inj (Option.some.inj h)
    refine ⟨c :: (hours ++ ':' :: minutes), by simp, .hours ?_ hlength hlength'⟩
    simpa [or_assoc] using hsign
  · cases h

/-- Nothing is left of a text that is read up to its offset. -/
theorem isOffset_of_bind {f : Int × List Char → Option Moment} {m : Moment}
    (h : ((readOffset? cs).bind fun p => if p.2.isEmpty = true then f p else none) = some m) :
    IsOffset cs := by
  obtain ⟨⟨minutes, rest⟩, hread, hdone⟩ := Option.bind_eq_some_iff.1 h
  obtain ⟨offset, rfl, hoffset⟩ := exists_of_readOffset? hread
  obtain ⟨hempty, -⟩ := Option.ite_none_right_eq_some.1 hdone
  obtain rfl : rest = [] := List.isEmpty_iff.1 hempty
  rwa [List.append_nil]

/-- An instant begins with a year of four digits and ends in an offset. -/
theorem exists_of_readInstant? {m : Moment} (h : readInstant? cs = some m) :
    (∃ year, year <+: cs ∧ IsRun year ∧ year.length = 4) ∧
    ∃ offset, offset <:+ cs ∧ IsOffset offset := by
  unfold readInstant? at h
  obtain ⟨⟨_, afterYear⟩, hyear, h⟩ := Option.bind_eq_some_iff.1 h
  obtain ⟨_, hdash, h⟩ := Option.bind_eq_some_iff.1 h
  obtain ⟨⟨_, _⟩, hmonth, h⟩ := Option.bind_eq_some_iff.1 h
  obtain ⟨_, hdash', h⟩ := Option.bind_eq_some_iff.1 h
  obtain ⟨⟨_, afterDay⟩, hday, h⟩ := Option.bind_eq_some_iff.1 h
  obtain ⟨afterSeparator, hseparator, h⟩ := Option.bind_eq_some_iff.1 h
  obtain ⟨⟨_, _⟩, hhour, h⟩ := Option.bind_eq_some_iff.1 h
  obtain ⟨_, hcolon, h⟩ := Option.bind_eq_some_iff.1 h
  obtain ⟨⟨_, _⟩, hminute, h⟩ := Option.bind_eq_some_iff.1 h
  obtain ⟨_, hcolon', h⟩ := Option.bind_eq_some_iff.1 h
  obtain ⟨⟨_, afterSecond⟩, hsecond, h⟩ := Option.bind_eq_some_iff.1 h
  have hseparator : afterSeparator <:+ afterDay := by
    simp only [Option.orElse_eq_orElse, Option.orElse_eq_or, Option.or_eq_some_iff] at hseparator
    obtain h | ⟨-, h | ⟨-, h⟩⟩ := hseparator <;> exact suffix_of_readChar? h
  -- what is left after each step ends the text, down to the offset
  have hdate : afterDay <:+ cs :=
    (suffix_of_readExactly? hday).trans <| (suffix_of_readChar? hdash').trans <|
      (suffix_of_readExactly? hmonth).trans <| (suffix_of_readChar? hdash).trans <|
      suffix_of_readExactly? hyear
  have htime : afterSecond <:+ afterSeparator :=
    (suffix_of_readExactly? hsecond).trans <| (suffix_of_readChar? hcolon').trans <|
      (suffix_of_readExactly? hminute).trans <| (suffix_of_readChar? hcolon).trans <|
      suffix_of_readExactly? hhour
  have hrest : afterSecond <:+ cs := htime.trans (hseparator.trans hdate)
  obtain ⟨year, htext, hlength, hrun⟩ := exists_of_readExactly? hyear
  refine ⟨⟨year, htext ▸ List.prefix_append year _, hrun, hlength⟩, ?_⟩
  dsimp only at h
  split at h
  · next rest =>
    obtain ⟨⟨nano, afterFraction⟩, hfraction, h⟩ := Option.bind_eq_some_iff.1 h
    have hpoint : rest <:+ cs := (List.suffix_cons '.' rest).trans hrest
    exact ⟨afterFraction, (suffix_of_readFraction hfraction).trans hpoint, isOffset_of_bind h⟩
  · exact ⟨afterSecond, hrest, isOffset_of_bind h⟩

/-- **The library that columns use does what is documented.** -/
theorem documented_library : library.Documented where
  writeDate_eq _ := rfl
  writeMoment_eq _ := rfl
  writeInstant_eq _ := rfl
  readDate_of_spells hcs := by
    simp only [library, String.toList_ofList, readDate_spells hcs]
  readMoment_of_spells hformat hcs := by
    simp only [library, String.toList_ofList, readMoment_spells hformat hcs]
  readMoment_tooLong hformat hcs hdigit hpoint := by
    simp only [library, String.toList_ofList, readMoment_tooLong hformat hcs hdigit hpoint]
  readMoment_invalid hcs hdigit hblank := by
    simp only [library, String.toList_ofList, readMoment_invalid hcs hdigit hblank]
  readInstant?_of_spells hcs hdigit := by
    simp only [library, String.toList_ofList, readInstant?_spells hcs hdigit]
  year_of_readInstant? h := (exists_of_readInstant? h).1
  offset_of_readInstant? h := (exists_of_readInstant? h).2

end EntityGraph.Time
