import EntityGraph.Number.Decimal
import Mathlib.Algebra.Group.Nat.Defs
import Mathlib.Data.List.Basic
import Mathlib.Data.List.Induction

/-!
# Numerals

An integer that is written can be read back. It is read from digits with an optional sign and from
nothing else (`readInt?_eq_some_iff`); of these texts one is what the integer is written as: the one
without a plus sign and without superfluous zeros (`decimal_eq_iff`).
-/

namespace EntityGraph.Number

/-- What starts with a digit has no sign. -/
theorem readInt?_of_isDigit {ds : List Char} (hne : ds ≠ []) (h : ∀ c ∈ ds, c.isDigit = true)
    (signed : Bool) : readInt? signed ds = (readDigits? ds).map Int.ofNat := by
  obtain ⟨c, cs, rfl⟩ := List.exists_cons_of_ne_nil hne
  have hdigit : c.isDigit = true := h c List.mem_cons_self
  have hplus : c ≠ '+' := by
    rintro rfl
    cases hdigit
  have hminus : c ≠ '-' := by
    rintro rfl
    cases hdigit
  rw [readInt?]
  · simpa using hplus
  · simpa using hminus

/-! ### Texts that stand for an integer -/

/-- A run of digits, at least one. -/
structure IsRun (ds : List Char) : Prop where
  ne_nil : ds ≠ []
  isDigit : ∀ c ∈ ds, c.isDigit = true

/-- The texts that stand for an integer: digits, after a plus sign or, where negative integers are
allowed, a minus sign. -/
inductive IsNumeral (signed : Bool) : List Char → Int → Prop
  | plain {ds : List Char} : IsRun ds → IsNumeral signed ds (Nat.ofDigitChars 10 ds 0)
  | plus {ds : List Char} : IsRun ds → IsNumeral signed ('+' :: ds) (Nat.ofDigitChars 10 ds 0)
  | minus {ds : List Char} : signed = true → IsRun ds →
    IsNumeral signed ('-' :: ds) (-(Nat.ofDigitChars 10 ds 0 : Nat))

/-- A numeral stays one where a minus sign is allowed. -/
theorem IsNumeral.of_signed {signed : Bool} {cs : List Char} {n : Int}
    (h : IsNumeral signed cs n) : IsNumeral true cs n := by
  cases h with
  | plain hrun => exact .plain hrun
  | plus hrun => exact .plus hrun
  | minus _ hrun => exact .minus rfl hrun

theorem readDigits?_eq_some_iff {ds : List Char} {n : Nat} :
    readDigits? ds = some n ↔ IsRun ds ∧ Nat.ofDigitChars 10 ds 0 = n := by
  have hrun : (!ds.isEmpty && ds.all Char.isDigit) = true ↔ IsRun ds := by
    simp only [Bool.and_eq_true, Bool.not_eq_true', List.isEmpty_eq_false_iff, List.all_eq_true]
    exact ⟨fun h => ⟨h.1, h.2⟩, fun h => ⟨h.ne_nil, h.isDigit⟩⟩
  rw [readDigits?, ← hrun, Option.ite_none_right_eq_some, Option.some.injEq]

theorem IsRun.readDigits? {ds : List Char} (h : IsRun ds) :
    readDigits? ds = some (Nat.ofDigitChars 10 ds 0) :=
  readDigits?_eq_some_iff.2 ⟨h, rfl⟩

/-- An integer is read from its numerals and from nothing else. -/
theorem readInt?_eq_some_iff {signed : Bool} {cs : List Char} {n : Int} :
    readInt? signed cs = some n ↔ IsNumeral signed cs n := by
  constructor
  · intro h
    unfold readInt? at h
    split at h
    · obtain ⟨k, hk, rfl⟩ := Option.map_eq_some_iff.1 h
      obtain ⟨hrun, rfl⟩ := readDigits?_eq_some_iff.1 hk
      exact .plus hrun
    · split at h
      · next hsigned =>
        obtain ⟨k, hk, rfl⟩ := Option.map_eq_some_iff.1 h
        obtain ⟨hrun, rfl⟩ := readDigits?_eq_some_iff.1 hk
        exact .minus hsigned hrun
      · cases h
    · obtain ⟨k, hk, rfl⟩ := Option.map_eq_some_iff.1 h
      obtain ⟨hrun, rfl⟩ := readDigits?_eq_some_iff.1 hk
      exact .plain hrun
  · intro h
    cases h with
    | plain hrun =>
      rw [readInt?_of_isDigit hrun.ne_nil hrun.isDigit, hrun.readDigits?]
      rfl
    | plus hrun =>
      rw [readInt?, hrun.readDigits?]
      rfl
    | minus hsigned hrun =>
      rw [readInt?, if_pos hsigned, hrun.readDigits?]
      rfl

/-- An integer is written as one of its numerals. -/
theorem isNumeral_decimal {signed : Bool} {n : Int} (h : signed = true ∨ 0 ≤ n) :
    IsNumeral signed (decimal n) n := by
  have hdigits : ∀ k, IsRun (digits k) ∧ Nat.ofDigitChars 10 (digits k) 0 = k := fun k =>
    readDigits?_eq_some_iff.1 (readDigits?_digits k)
  cases n with
  | ofNat k =>
    have hplain := @IsNumeral.plain signed _ (hdigits k).1
    rwa [(hdigits k).2] at hplain
  | negSucc k =>
    have hsigned : signed = true := h.resolve_right (by omega)
    have hminus := IsNumeral.minus hsigned (hdigits (k + 1)).1
    rwa [(hdigits (k + 1)).2] at hminus

theorem readInt?_decimal (n : Int) : readInt? true (decimal n) = some n :=
  readInt?_eq_some_iff.2 (isNumeral_decimal (.inl rfl))

theorem decimal_injective {m n : Int} (h : decimal m = decimal n) : m = n := by
  have hread := congrArg (readInt? true) h
  rw [readInt?_decimal, readInt?_decimal] at hread
  exact Option.some.inj hread

/-! ### Numerals of a fixed width -/

theorem isRun_padded (width n : Nat) : IsRun (padded width n) where
  ne_nil := List.append_ne_nil_of_right_ne_nil _ (digits_ne_nil n)
  isDigit c hc := by
    obtain hc | hc := List.mem_append.1 hc
    · rw [List.eq_of_mem_replicate hc]
      rfl
    · exact isDigit_of_mem_digits hc

theorem ofDigitChars_padded (width n : Nat) : Nat.ofDigitChars 10 (padded width n) 0 = n := by
  rw [padded, Nat.ofDigitChars_append, Nat.ofDigitChars_replicate_zero, Nat.mul_zero]
  exact Nat.ofDigitChars_toDigits (by decide) (by decide)

/-- A number of at most so many digits is written in just so many. -/
theorem length_padded {width n : Nat} (hwidth : 0 < width) (hn : n < 10 ^ width) :
    (padded width n).length = width := by
  have hle : (digits n).length ≤ width := (Nat.length_toDigits_le_iff (by decide) hwidth).2 hn
  rw [padded, List.length_append, List.length_replicate, Nat.sub_add_cancel hle]

/-! ### Canonical numerals -/

/-- Digits of which the first is no zero, unless it is the only one. -/
structure IsPlain (ds : List Char) : Prop where
  ne_nil : ds ≠ []
  isDigit : ∀ c ∈ ds, c.isDigit = true
  zero : ds.head? = some '0' → ds = ['0']

/-- A plain numeral, which has a minus sign in front if it is negative. -/
inductive IsCanonical : List Char → Prop
  | plain {ds : List Char} : IsPlain ds → IsCanonical ds
  | negative {ds : List Char} : IsPlain ds → ds ≠ ['0'] → IsCanonical ('-' :: ds)

theorem digits_eq_if (n : Nat) :
    digits n = if n < 10 then [n.digitChar] else digits (n / 10) ++ [(n % 10).digitChar] :=
  Nat.toDigits_eq_if (by decide)

theorem digits_injective {m n : Nat} (h : digits m = digits n) : m = n := by
  have hread := congrArg readDigits? h
  rw [readDigits?_digits, readDigits?_digits] at hread
  exact Option.some.inj hread

theorem isPlain_digits (n : Nat) : IsPlain (digits n) where
  ne_nil := digits_ne_nil n
  isDigit _ := isDigit_of_mem_digits
  zero := by
    induction n using Nat.strongRecOn with
    | ind n ih =>
      rw [digits_eq_if]
      split
      · intro h
        rw [List.head?_cons] at h
        rw [Option.some.inj h]
      · next hn =>
        intro h
        rw [List.head?_append_of_ne_nil _ (digits_ne_nil _)] at h
        have hzero : digits (n / 10) = digits 0 := ih (n / 10) (by omega) h
        have := digits_injective hzero
        omega

/-- A digit is written as it was read. -/
theorem digitChar_sub {c : Char} (h : c.isDigit = true) :
    c.toNat - '0'.toNat < 10 ∧ (c.toNat - '0'.toNat).digitChar = c := by
  have hall : ∀ k < 10, (Nat.digitChar k) = Char.ofNat (48 + k) := by decide
  have hzero : '0'.toNat = 48 := rfl
  simp only [Char.isDigit, Bool.and_eq_true, decide_eq_true_eq] at h
  have hlow : 48 ≤ c.toNat := h.1
  have hhigh : c.toNat ≤ 57 := h.2
  rw [hzero]
  refine ⟨by omega, ?_⟩
  rw [hall _ (by omega), Nat.add_sub_cancel' hlow, Char.ofNat_toNat]

/-- Plain digits are those that the number is written with. -/
theorem IsPlain.digits_ofDigitChars {ds : List Char} (h : IsPlain ds) :
    digits (Nat.ofDigitChars 10 ds 0) = ds := by
  induction ds using List.reverseRecOn with
  | nil => exact absurd rfl h.ne_nil
  | append_singleton ds c ih =>
    obtain ⟨hlt, hchar⟩ := digitChar_sub (h.isDigit c (by simp))
    rw [Nat.ofDigitChars_append, Nat.ofDigitChars_cons, Nat.ofDigitChars_nil]
    by_cases hds : ds = []
    · subst hds
      rw [Nat.ofDigitChars_nil, Nat.mul_zero, Nat.zero_add, digits_eq_if, if_pos hlt, hchar]
      rfl
    · have hhead : (ds ++ [c]).head? = ds.head? := List.head?_append_of_ne_nil ds hds
      have hnozero : ds.head? ≠ some '0' := fun hzero => by
        have heq := congrArg List.length (h.zero (hhead.trans hzero))
        exact hds (by simpa using heq)
      have hplain : IsPlain ds :=
        ⟨hds, fun d hd => h.isDigit d (by simp [hd]), fun hzero => absurd hzero hnozero⟩
      have hpos : Nat.ofDigitChars 10 ds 0 ≠ 0 := fun hzero => by
        rw [← ih hplain, hzero] at hnozero
        exact hnozero rfl
      have hge : ¬10 * Nat.ofDigitChars 10 ds 0 + (c.toNat - '0'.toNat) < 10 := by omega
      have hdiv : (10 * Nat.ofDigitChars 10 ds 0 + (c.toNat - '0'.toNat)) / 10
          = Nat.ofDigitChars 10 ds 0 := by omega
      have hmod : (10 * Nat.ofDigitChars 10 ds 0 + (c.toNat - '0'.toNat)) % 10
          = c.toNat - '0'.toNat := by omega
      rw [digits_eq_if, if_neg hge, hdiv, hmod, ih hplain, hchar]

theorem IsPlain.readDigits? {ds : List Char} (h : IsPlain ds) :
    readDigits? ds = some (Nat.ofDigitChars 10 ds 0) :=
  IsRun.readDigits? ⟨h.ne_nil, h.isDigit⟩

theorem isCanonical_decimal (n : Int) : IsCanonical (decimal n) := by
  cases n with
  | ofNat n => exact .plain (isPlain_digits n)
  | negSucc n =>
    refine .negative (isPlain_digits (n + 1)) fun h => ?_
    have hzero : digits (n + 1) = digits 0 := h
    cases digits_injective hzero

/-- A numeral that is read as an integer is what it is written as just if it is canonical. -/
theorem decimal_eq_iff {cs : List Char} {n : Int} (h : readInt? true cs = some n) :
    decimal n = cs ↔ IsCanonical cs := by
  refine ⟨fun hcs => hcs ▸ isCanonical_decimal n, fun hcs => ?_⟩
  cases hcs with
  | plain hds =>
    rw [readInt?_of_isDigit hds.ne_nil hds.isDigit, hds.readDigits?] at h
    obtain rfl := Option.some.inj h
    exact hds.digits_ofDigitChars
  | @negative ds hds hne =>
    rw [readInt?, if_pos rfl, hds.readDigits?] at h
    obtain rfl := Option.some.inj h
    have hdigits := hds.digits_ofDigitChars
    cases hn : Nat.ofDigitChars 10 ds 0 with
    | zero =>
      rw [hn] at hdigits
      exact absurd hdigits.symm hne
    | succ k =>
      rw [hn] at hdigits
      exact congrArg (List.cons '-') hdigits

end EntityGraph.Number
