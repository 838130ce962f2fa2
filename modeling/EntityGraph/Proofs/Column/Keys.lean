import EntityGraph.Proofs.Column.Agreement

/-!
# Keys and the values bound for them

A key is compared by its text, and a value is bound in a form of its own. The two forms say the
same: the raw key of what is bound for a value has the text of the value's own key
(`ColumnType.exists_ofValue_toSql`).

The texts tell values apart. Integers of all widths have the same text just if they are the same
number, values of one column just if they are equal, and bytes that spell a text have the text that
they spell (`ColumnType.encode_toKey_injective`).
-/

namespace EntityGraph

open Column (IntType Uuid)
open Number (decimal)
open Sql (Value)

/-! ### Integers -/

theorem Number.decimal_ne_nil (n : Int) : decimal n ≠ [] := by
  cases n with
  | ofNat n => exact digits_ne_nil n
  | negSucc n => simp [decimal]

theorem Key.encode_signed_injective {m n : Int}
    (h : (Key.signed m).encode = (Key.signed n).encode) : m = n :=
  Number.decimal_injective (String.ofList_injective h)

/-- The raw key of an integer has the text of the integer, and is zero just if the integer is. -/
theorem Key.exists_ofValue_ofInt (n : Int) :
    ∃ key, Key.ofValue (.ofInt n) = .ok key ∧ key.encode = (Key.signed n).encode ∧
      (key.isZero = true ↔ n = 0) := by
  unfold Value.ofInt
  split
  · next hrange =>
    have hint := Value.toInt_ofInt hrange
    exact ⟨_, rfl, by rw [hint], by simp [isZero, hint]⟩
  · next hrange =>
    refine ⟨_, rfl, rfl, ?_⟩
    have hne : n ≠ 0 := by
      rintro rfl
      exact hrange (by decide)
    simp [isZero, hne, Number.decimal_ne_nil]

theorem Column.Uuid.text_injective {u v : Uuid} (h : Uuid.text u = Uuid.text v) : u = v := by
  have hread := congrArg (fun s : String => Uuid.read s.toList) h
  simp only [Uuid.read_text] at hread
  exact Except.ok.inj hread

namespace ColumnType

variable {t : ColumnType}

def isOptional : ColumnType → Bool
  | optional _ => true
  | _ => false

/-! ### The two forms of a value -/

theorem exists_toKey (ht : t.keyClass? ≠ none) (x : t.Carrier) : ∃ key, t.toKey x = .ok key := by
  induction t with
  | int t => exact ⟨_, rfl⟩
  | text => exact ⟨_, rfl⟩
  | bytes => exact ⟨_, rfl⟩
  | byteArray n => exact ⟨_, rfl⟩
  | uuid => exact ⟨_, rfl⟩
  | optional t ih =>
    cases x with
    | none => exact ⟨_, rfl⟩
    | some x => exact ih ht x
  | bool | single | double | instant | moment | date => exact absurd rfl ht

/-- **What is bound for a value makes the key of the value**, up to the form. Where no value can be
missing, it is no zero unless the value is one. -/
theorem exists_ofValue_toSql {x : t.Carrier} {key : Key} (h : t.toKey x = .ok key) :
    ∃ raw, Key.ofValue (t.toSql x) = .ok raw ∧ raw.encode = key.encode ∧
      (t.isOptional = false → t.isZero x = false → raw.isZero = false) := by
  induction t with
  | int t =>
    obtain rfl := Except.ok.inj h
    obtain ⟨raw, hraw, hencode, hzero⟩ := Key.exists_ofValue_ofInt x.val
    refine ⟨raw, hraw, by rw [hencode, IntType.encode_toKey], fun _ hx => ?_⟩
    have hne : x.val ≠ 0 := of_decide_eq_false hx
    exact Bool.eq_false_iff.2 fun hraw => hne (hzero.1 hraw)
  | text =>
    obtain rfl := Except.ok.inj h
    exact ⟨_, rfl, rfl, fun _ hx => hx⟩
  | bytes =>
    obtain rfl := Except.ok.inj h
    exact ⟨_, rfl, rfl, fun _ hx => hx⟩
  | byteArray n =>
    obtain rfl := Except.ok.inj h
    refine ⟨_, rfl, rfl, fun _ hx => ?_⟩
    cases hval : x.val with
    | nil => simp [isZero, hval] at hx
    | cons b bytes => rfl
  | uuid =>
    obtain rfl := Except.ok.inj h
    refine ⟨_, rfl, rfl, fun _ _ => ?_⟩
    have hlength := Uuid.length_text x
    cases hempty : (Uuid.text x).isEmpty with
    | false => exact hempty
    | true =>
      rw [String.isEmpty_iff.1 hempty] at hlength
      cases hlength
  | optional t ih =>
    cases x with
    | none =>
      obtain rfl := Except.ok.inj h
      exact ⟨_, rfl, rfl, nofun⟩
    | some x =>
      obtain ⟨raw, hraw, hencode, -⟩ := ih h
      exact ⟨raw, hraw, hencode, nofun⟩
  | bool | single | double | instant | moment | date => cases h

/-! ### Different values -/

/-- Bytes of the value spell a text. -/
def IsUtf8 : (t : ColumnType) → t.Carrier → Prop
  | bytes, b => ∃ s, b = Text.Utf8.encode s
  | byteArray _, b => ∃ s, b.val = Text.Utf8.encode s
  | optional t, o => ∀ x ∈ o, t.IsUtf8 x
  | _, _ => True

theorem encode_toKey_of_isPlain (ht : t.isPlain = true) (hkey : t.keyClass? ≠ none)
    {x y : t.Carrier} (hx : t.IsUtf8 x) (hy : t.IsUtf8 y) :
    ∃ k l, t.toKey x = .ok k ∧ t.toKey y = .ok l ∧ (k.encode = l.encode ↔ x = y) := by
  cases t with
  | int t =>
    refine ⟨_, _, rfl, rfl, fun h => ?_, fun h => by rw [h]⟩
    rw [IntType.encode_toKey, IntType.encode_toKey] at h
    exact Subtype.ext (Key.encode_signed_injective h)
  | text => exact ⟨_, _, rfl, rfl, Iff.rfl⟩
  | bytes =>
    obtain ⟨s, rfl⟩ := hx
    obtain ⟨s', rfl⟩ := hy
    refine ⟨_, _, rfl, rfl, fun h => ?_, fun h => by rw [h]⟩
    rw [Key.encode, Key.encode, Text.Utf8.decodeLossy_encode, Text.Utf8.decodeLossy_encode] at h
    rw [h]
  | byteArray n =>
    obtain ⟨s, hs⟩ := hx
    obtain ⟨s', hs'⟩ := hy
    refine ⟨_, _, rfl, rfl, fun h => ?_, fun h => by rw [h]⟩
    rw [Key.encode, Key.encode, hs, hs', Text.Utf8.decodeLossy_encode,
      Text.Utf8.decodeLossy_encode] at h
    exact Subtype.ext (by rw [hs, hs', h])
  | uuid =>
    exact ⟨_, _, rfl, rfl, fun h => Uuid.text_injective h, fun h => by rw [h]⟩
  | bool => exact absurd rfl hkey
  | single | double | instant | moment | date | optional => cases ht

/-- A value that is missing is the zero of its type, so the others are values of a plain type. -/
theorem encode_toKey_of_isExact (ht : t.isExact = true) (hkey : t.keyClass? ≠ none)
    {x y : t.Carrier} (hx : t.isZero x = false) (hy : t.isZero y = false) (hxs : t.IsUtf8 x)
    (hys : t.IsUtf8 y) :
    ∃ k l, t.toKey x = .ok k ∧ t.toKey y = .ok l ∧ (k.encode = l.encode ↔ x = y) := by
  cases t with
  | optional t =>
    cases x with
    | none => cases hx
    | some x =>
      cases y with
      | none => cases hy
      | some y =>
        obtain ⟨k, l, hk, hl, hsame⟩ :=
          encode_toKey_of_isPlain (t := t) ht hkey (hxs x rfl) (hys y rfl)
        exact ⟨k, l, hk, hl, hsame.trans (Option.some_inj).symm⟩
  | _ => exact encode_toKey_of_isPlain (by exact ht) hkey hxs hys

/-- **Keys are canonical and tell values apart.** Integers of two widths have the same text just if
they are the same number; values of one column, of which neither is the zero of its type, just if
they are equal. Bytes have to spell texts for that, and have the text that they spell. -/
theorem encode_toKey_injective :
    (∀ (t u : IntType) (m : t.Carrier) (n : u.Carrier), ∃ k l,
      (int t).toKey m = .ok k ∧ (int u).toKey n = .ok l ∧
        (k.encode = l.encode ↔ m.val = n.val)) ∧
    (∀ t : ColumnType, t.isExact = true → t.keyClass? ≠ none → ∀ x y : t.Carrier,
      t.isZero x = false → t.isZero y = false → t.IsUtf8 x → t.IsUtf8 y → ∃ k l,
        t.toKey x = .ok k ∧ t.toKey y = .ok l ∧ (k.encode = l.encode ↔ x = y)) ∧
    ∀ s : String, ∃ k, text.toKey s = .ok k ∧
      (∃ l, bytes.toKey (Text.Utf8.encode s) = .ok l ∧ l.encode = k.encode) ∧
      ∀ (n : Nat) (b : (byteArray n).Carrier), b.val = Text.Utf8.encode s →
        ∃ l, (byteArray n).toKey b = .ok l ∧ l.encode = k.encode := by
  refine ⟨fun t u m n => ⟨_, _, rfl, rfl, ?_⟩, fun t ht hkey x y => encode_toKey_of_isExact ht hkey,
    fun s => ⟨_, rfl, ⟨_, rfl, Text.Utf8.decodeLossy_encode s⟩, fun n b hb => ⟨_, rfl, ?_⟩⟩⟩
  · rw [IntType.encode_toKey, IntType.encode_toKey]
    exact ⟨Key.encode_signed_injective, fun h => by rw [h]⟩
  · rw [hb]
    exact Text.Utf8.decodeLossy_encode s

/-- Five is one key in eight bits and in 128, and two texts stored as bytes are two keys. -/
theorem encode_toKey_injective_bytes :
    (∃ k l, (int .i8).toKey ⟨5, by decide⟩ = .ok k ∧ (int .u128).toKey ⟨5, by decide⟩ = .ok l ∧
      k.encode = l.encode) ∧
    ∃ k l, (optional bytes).toKey (some [0xC3, 0xA9]) = .ok k ∧
      (optional bytes).toKey (some [0x65]) = .ok l ∧ k.encode ≠ l.encode := by
  obtain ⟨hint, hcolumn, -⟩ := encode_toKey_injective
  constructor
  · obtain ⟨k, l, hk, hl, hsame⟩ := hint .i8 .u128 ⟨5, by decide⟩ ⟨5, by decide⟩
    exact ⟨k, l, hk, hl, hsame.2 rfl⟩
  · have haccent : (optional bytes).IsUtf8 (some [0xC3, 0xA9]) := by
      rintro _ ⟨⟩
      exact ⟨"é", by decide⟩
    have hplain : (optional bytes).IsUtf8 (some [0x65]) := by
      rintro _ ⟨⟩
      exact ⟨"e", by decide⟩
    obtain ⟨k, l, hk, hl, hsame⟩ := hcolumn (optional bytes) rfl nofun _ _ rfl rfl haccent hplain
    exact ⟨k, l, hk, hl, fun h => absurd (hsame.1 h) (by decide)⟩

end ColumnType

end EntityGraph
