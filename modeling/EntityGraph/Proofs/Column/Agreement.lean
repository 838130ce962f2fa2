import EntityGraph.Proofs.Column.Lossless
import EntityGraph.Proofs.Text.Utf8

/-!
# Keys of one stored value

The two sides of a relation read stored values into columns of their own types and compare the
texts of the keys; a pivot table is not read into columns at all. What a column makes of a value
depends on the class of its type only: integers are written as numerals, texts and bytes as they
stand, UUIDs in their canonical form (`ColumnType.writes_of_fromSql`). So two columns agree on every
value if they are of one class, and on integers; of other texts they agree on those that are
canonical for both (`ColumnType.encode_eq_iff`).
-/

namespace EntityGraph

open Column (IntType ByteArrayOf Uuid)
open Number (decimal readInt?)
open Sql (Value)

/-- What a column makes of its values as keys. -/
inductive KeyClass where
  | integer
  | text
  | ident
  deriving DecidableEq, Repr

/-- The class of the types that can join rows. -/
def ColumnType.keyClass? : ColumnType → Option KeyClass
  | int _ => some .integer
  | text | bytes | byteArray _ => some .text
  | uuid => some .ident
  | optional t => t.keyClass?
  | bool | single | double | instant | moment | date => none

namespace KeyClass

/-- Texts that a column of the class leaves as they are. -/
def Canonical : KeyClass → String → Prop
  | integer, s => Number.IsCanonical s.toList
  | text, _ => True
  | ident, s => Column.Uuid.IsCanonical s.toList

/-- What columns of two classes must meet in a value to make the same key of it. -/
def Agree (a b : KeyClass) (v : Value) : Prop :=
  a = b ∨ match v with
    | .null | .int _ => True
    | .text s => a.Canonical s ∧ b.Canonical s
    | .bool _ | .float _ | .blob _ => False

/-- The text of the key that a column of a class makes of a stored value. -/
inductive Writes : KeyClass → Value → String → Prop
  | integer_of_int (n : Int64) : Writes .integer (.int n) (String.ofList (decimal n.toInt))
  | integer_of_bool (b : Bool) :
    Writes .integer (.bool b) (String.ofList (decimal (if b then 1 else 0)))
  | integer_of_text {s : String} {n : Int} : readInt? true s.toList = some n →
    Writes .integer (.text s) (String.ofList (decimal n))
  | text_of_int (n : Int64) : Writes .text (.int n) (String.ofList (decimal n.toInt))
  | text_of_float (x : Number.Double) : Writes .text (.float x) x.text
  | text_of_text (s : String) : Writes .text (.text s) s
  | text_of_blob (b : List UInt8) : Writes .text (.blob b) (Text.Utf8.decodeLossy b)
  | ident_of_text {s : String} {u : Uuid} : Column.Uuid.read s.toList = .ok u →
    Writes .ident (.text s) (Column.Uuid.text u)
  | ident_of_blob (u : Uuid) : Writes .ident (.blob u.val) (Column.Uuid.text u)

end KeyClass

/-! ### The key of a column -/

theorem Column.IntType.encode_toKey (t : IntType) (n : t.Carrier) :
    (if t.signed then Key.signed n.val else Key.unsigned n.val.toNat).encode
      = (Key.signed n.val).encode := by
  cases hsigned : t.signed with
  | true => rfl
  | false =>
    have hn : 0 ≤ n.val := (t.signed_or_nonneg n).resolve_left (by simp [hsigned])
    rw [if_neg (by decide), Key.encode, Key.encode, Int.toNat_of_nonneg hn]

namespace ColumnType

/-- An integer is written as a numeral, whatever its width and sign and however it was stored. -/
theorem writes_of_readInt {t : IntType} {v : Value} {x : t.Carrier} (h : readInt t v = .ok x) :
    KeyClass.integer.Writes v (Key.signed x.val).encode := by
  have hstands := readInt_eq_ok_iff.1 h
  rw [Key.encode]
  cases v with
  | int n =>
    have hn : n.toInt = x.val := hstands
    exact hn ▸ .integer_of_int n
  | bool b =>
    have hb : (if b then 1 else 0) = x.val := hstands
    exact hb ▸ .integer_of_bool b
  | text s =>
    exact .integer_of_text (Number.readInt?_eq_some_iff.2 (Number.IsNumeral.of_signed hstands))
  | null => exact hstands.elim
  | float y => exact hstands.elim
  | blob b => exact hstands.elim

theorem writes_of_readText {v : Value} {s : String} (h : readText v = .ok s) :
    KeyClass.text.Writes v s := by
  cases v with
  | text s' =>
    obtain rfl := Except.ok.inj h
    exact .text_of_text _
  | int n =>
    obtain rfl := Except.ok.inj h
    exact .text_of_int n
  | float x =>
    obtain rfl := Except.ok.inj h
    exact .text_of_float x
  | blob b =>
    rw [readText] at h
    cases hdecode : Text.Utf8.decode b with
    | error e => simp [hdecode, Except.mapError] at h
    | ok s' =>
      obtain rfl : s' = s := by simpa [hdecode, Except.mapError] using h
      rw [← Text.Utf8.decodeLossy_of_decode hdecode]
      exact .text_of_blob b
  | null => cases h
  | bool b => cases h

theorem writes_of_readBytes {v : Value} {b : List UInt8} (h : readBytes v = .ok b) :
    KeyClass.text.Writes v (Key.bytes b).encode := by
  cases v with
  | blob b' =>
    obtain rfl := Except.ok.inj h
    exact .text_of_blob _
  | text s =>
    obtain rfl := Except.ok.inj h
    rw [Key.encode, Text.Utf8.decodeLossy_encode]
    exact .text_of_text s
  | null => cases h
  | bool b => cases h
  | int n => cases h
  | float x => cases h

/-- The key of a value that was read is written as the class of the column says. -/
theorem writes_of_fromSql {t : ColumnType} {a : KeyClass} (ha : t.keyClass? = some a) {v : Value}
    (hv : v ≠ .null) {x : t.Carrier} (hx : t.fromSql v = .ok x) :
    ∃ key, t.toKey x = .ok key ∧ a.Writes v key.encode := by
  induction t with
  | int t =>
    obtain rfl := Option.some.inj ha
    refine ⟨_, rfl, ?_⟩
    rw [IntType.encode_toKey]
    exact writes_of_readInt hx
  | text =>
    obtain rfl := Option.some.inj ha
    exact ⟨_, rfl, writes_of_readText hx⟩
  | bytes =>
    obtain rfl := Option.some.inj ha
    exact ⟨_, rfl, writes_of_readBytes hx⟩
  | byteArray n =>
    obtain rfl := Option.some.inj ha
    refine ⟨_, rfl, ?_⟩
    cases hread : readBytes v with
    | error e => simp [fromSql, hread, bind, Except.bind] at hx
    | ok b =>
      have hb : x.val = b := by
        simp only [fromSql, hread, bind, Except.bind] at hx
        split at hx
        · next x' hx' => exact Except.ok.inj hx ▸ Column.val_of_ofList? hx'
        · cases hx
      rw [hb]
      exact writes_of_readBytes hread
  | uuid =>
    obtain rfl := Option.some.inj ha
    refine ⟨_, rfl, ?_⟩
    cases v with
    | text s =>
      cases hread : Column.Uuid.read s.toList with
      | error e => simp [fromSql, hread, Except.mapError] at hx
      | ok u =>
        obtain rfl : u = x := by simpa [fromSql, hread, Except.mapError] using hx
        exact .ident_of_text hread
    | blob b =>
      have hb : x.val = b := by
        simp only [fromSql, Column.Uuid.ofBytes] at hx
        split at hx
        · next x' hx' =>
          obtain rfl : x' = x := by simpa [Except.mapError] using hx
          exact Column.val_of_ofList? hx'
        · cases hx
      rw [← hb]
      exact .ident_of_blob x
    | null => cases hx
    | int n => cases hx
    | bool b => cases hx
    | float y => cases hx
  | optional t ih =>
    have hread : (t.fromSql v).map some = .ok x := by
      cases v with
      | null => exact absurd rfl hv
      | _ => exact hx
    cases hsome : t.fromSql v with
    | error e => simp [hsome, Except.map] at hread
    | ok y =>
      obtain rfl : some y = x := by simpa [hsome, Except.map] using hread
      exact ih ha hsome
  | bool => cases ha
  | single => cases ha
  | double => cases ha
  | instant => cases ha
  | moment => cases ha
  | date => cases ha

/-- NULL makes no key. -/
theorem toKey_of_fromSql_null {t : ColumnType} {x : t.Carrier} (hx : t.fromSql .null = .ok x) :
    t.toKey x = .ok .null := by
  cases t with
  | optional t =>
    obtain rfl := Except.ok.inj hx
    rfl
  | _ => cases hx

end ColumnType

/-- A value of a pivot row is written as a column of texts would write it. -/
theorem Key.writes_of_ofValue {v : Value} (hv : v ≠ .null) {key : Key}
    (h : Key.ofValue v = .ok key) : KeyClass.text.Writes v key.encode := by
  cases v with
  | null => exact absurd rfl hv
  | int n =>
    obtain rfl := Except.ok.inj h
    exact .text_of_int n
  | text s =>
    obtain rfl := Except.ok.inj h
    exact .text_of_text s
  | blob b =>
    obtain rfl := Except.ok.inj h
    exact .text_of_blob b
  | bool b => cases h
  | float x => cases h

/-! ### What two classes agree on -/

/-- A canonical numeral has no hyphen after its first character, a canonical UUID has one. -/
theorem Number.IsCanonical.hyphen_notMem_tail {cs : List Char} (h : Number.IsCanonical cs) :
    '-' ∉ cs.tail := by
  have hdigits : ∀ {ds : List Char}, Number.IsPlain ds → '-' ∉ ds := fun hds hmem =>
    absurd (hds.isDigit '-' hmem) (by decide)
  cases h with
  | plain hds => exact fun hmem => hdigits hds (List.mem_of_mem_tail hmem)
  | negative hds => exact hdigits hds

theorem Column.Uuid.IsCanonical.hyphen_mem_tail {cs : List Char} (h : IsCanonical cs) :
    '-' ∈ cs.tail := by
  obtain ⟨pieces, hlength, -, rfl⟩ := h
  match pieces, hlength with
  | (c :: p) :: q :: pieces, _ =>
    rw [List.intercalate_cons_cons]
    simp
  | [_ :: _], hlength => simp [groups] at hlength

theorem Column.Uuid.length_text (u : Uuid) : (text u).toList.length = hyphenatedLength := by
  obtain ⟨pieces, hlength, -, htext⟩ := isCanonical_text u
  rw [htext, (length_intercalate hlength).2]

namespace KeyClass

variable {a b : KeyClass} {v : Value} {s t : String}

/-- A class makes one key of a value. -/
theorem Writes.unique (hs : a.Writes v s) (ht : a.Writes v t) : s = t := by
  cases hs with
  | integer_of_text hn =>
    cases ht with
    | integer_of_text hm => rw [Option.some.inj (hn.symm.trans hm)]
  | ident_of_text hu =>
    cases ht with
    | ident_of_text hw => rw [Except.ok.inj (hu.symm.trans hw)]
  | ident_of_blob u =>
    generalize hblob : u.val = b at ht
    cases ht with
    | ident_of_blob w => rw [Subtype.ext hblob]
  | _ =>
    cases ht
    rfl

/-- A text is left as it is just if it is canonical. -/
theorem Writes.eq_iff_canonical {w : String} (h : a.Writes (.text w) s) :
    s = w ↔ a.Canonical w := by
  cases h with
  | integer_of_text hn =>
    rw [← String.toList_inj, String.toList_ofList, Number.decimal_eq_iff hn, Canonical]
  | text_of_text => simp [Canonical]
  | ident_of_text hu => rw [← String.toList_inj, Column.Uuid.text_eq_iff hu, Canonical]

/-- Integers and UUIDs have no key in common. -/
theorem Writes.ne_of_integer_ident (hs : integer.Writes v s) (ht : ident.Writes v t) : s ≠ t := by
  cases hs with
  | @integer_of_text w n hn =>
    cases ht with
    | @ident_of_text _ u hu =>
      intro hst
      have hnumeral := Number.isCanonical_decimal n
      rw [← String.toList_ofList (l := decimal n), hst] at hnumeral
      exact hnumeral.hyphen_notMem_tail (Column.Uuid.isCanonical_text u).hyphen_mem_tail
  | integer_of_int n => cases ht
  | integer_of_bool b => cases ht

/-- Sixteen bytes that are read as they stand are no UUID, which has more characters. -/
theorem Writes.ne_of_text_ident {bytes : List UInt8} (hs : text.Writes (.blob bytes) s)
    (ht : ident.Writes (.blob bytes) t) : s ≠ t := by
  cases ht with
  | ident_of_blob u =>
    cases hs with
    | text_of_blob =>
      intro hst
      have hle := Text.Utf8.length_decodeLossy_le u.val
      rw [hst, Column.Uuid.length_text, u.property] at hle
      exact absurd hle (by decide)

/-- Two classes make the same key of a value just if they agree on it. -/
theorem Writes.eq_iff_agree (hs : a.Writes v s) (ht : b.Writes v t) : s = t ↔ a.Agree b v := by
  by_cases hab : a = b
  · subst hab
    exact iff_of_true (hs.unique ht) (.inl rfl)
  rw [Agree.eq_def, or_iff_right hab]
  cases v with
  | null => cases hs
  | int n =>
    refine iff_of_true ?_ trivial
    cases hs <;> cases ht <;> rfl
  | text w =>
    dsimp only
    rw [← hs.eq_iff_canonical, ← ht.eq_iff_canonical]
    refine ⟨fun hst => ?_, fun ⟨hsw, htw⟩ => hsw.trans htw.symm⟩
    cases a with
    | text =>
      cases hs
      exact ⟨rfl, hst.symm⟩
    | integer =>
      cases b with
      | integer => exact absurd rfl hab
      | text =>
        cases ht
        exact ⟨hst, rfl⟩
      | ident => exact absurd hst (hs.ne_of_integer_ident ht)
    | ident =>
      cases b with
      | integer => exact absurd hst.symm (ht.ne_of_integer_ident hs)
      | text =>
        cases ht
        exact ⟨hst, rfl⟩
      | ident => exact absurd rfl hab
  | blob bytes =>
    refine iff_of_false ?_ id
    cases a with
    | integer => cases hs
    | text =>
      cases b with
      | integer => cases ht
      | text => exact absurd rfl hab
      | ident => exact hs.ne_of_text_ident ht
    | ident =>
      cases b with
      | integer => cases ht
      | text => exact (ht.ne_of_text_ident hs).symm
      | ident => exact absurd rfl hab
  | bool x =>
    cases hs
    cases ht
    exact absurd rfl hab
  | float x =>
    cases hs
    cases ht
    exact absurd rfl hab

end KeyClass

namespace ColumnType

/-- **The keys of one stored value.** Two columns that can join rows make the same key of a stored
value just if their classes agree on it. A pivot row makes the key that a column of texts would
make, so it matches a column just if the class of the column agrees with that of texts. -/
theorem encode_eq_iff {t u : ColumnType} {a b : KeyClass} (ht : t.keyClass? = some a)
    (hu : u.keyClass? = some b) {v : Value} {x : t.Carrier} {y : u.Carrier}
    (hx : t.fromSql v = .ok x) (hy : u.fromSql v = .ok y) :
    ∃ k l, t.toKey x = .ok k ∧ u.toKey y = .ok l ∧ (k.encode = l.encode ↔ a.Agree b v) ∧
      ∀ raw, Key.ofValue v = .ok raw → (k.encode = raw.encode ↔ a.Agree .text v) := by
  by_cases hv : v = .null
  · subst hv
    refine ⟨.null, .null, toKey_of_fromSql_null hx, toKey_of_fromSql_null hy, ?_,
      fun raw hraw => ?_⟩
    · exact iff_of_true rfl (.inr trivial)
    · obtain rfl := Except.ok.inj hraw
      exact iff_of_true rfl (.inr trivial)
  · obtain ⟨k, hk, hkey⟩ := writes_of_fromSql ht hv hx
    obtain ⟨l, hl, hkey'⟩ := writes_of_fromSql hu hv hy
    exact ⟨k, l, hk, hl, hkey.eq_iff_agree hkey', fun raw hraw =>
      hkey.eq_iff_agree (Key.writes_of_ofValue hv hraw)⟩

/-- A numeral joins an integer with a text. -/
theorem encode_eq_iff_numeral : ∃ k l, (int .i64).toKey ⟨-42, by decide⟩ = .ok k ∧
    (optional text).toKey (some "-42") = .ok l ∧ k.encode = l.encode := by
  obtain ⟨k, l, hk, hl, heq, -⟩ := encode_eq_iff (t := int .i64) (u := optional text) rfl rfl
    (v := .text "-42") (x := ⟨-42, by decide⟩) (y := some "-42") (by decide) rfl
  have hcanonical : KeyClass.integer.Canonical "-42" := by
    rw [KeyClass.Canonical, show "-42".toList = decimal (-42) by decide]
    exact Number.isCanonical_decimal (-42)
  exact ⟨k, l, hk, hl, heq.2 (.inr ⟨hcanonical, trivial⟩)⟩

/-- A UUID that a pivot row spells in upper case is another key than the UUID of the column that
reads the same text. -/
theorem encode_ne_of_upper_case :
    ∃ x k raw, uuid.fromSql (.text "F47AC10B-58CC-4372-A567-0E02B2C3D479") = .ok x ∧
      uuid.isZero x = false ∧ uuid.toKey x = .ok k ∧
      Key.ofValue (.text "F47AC10B-58CC-4372-A567-0E02B2C3D479") = .ok raw ∧
      k.encode = "f47ac10b-58cc-4372-a567-0e02b2c3d479" ∧ k.encode ≠ raw.encode :=
  ⟨⟨[0xF4, 0x7A, 0xC1, 0x0B, 0x58, 0xCC, 0x43, 0x72, 0xA5, 0x67, 0x0E, 0x02, 0xB2, 0xC3, 0xD4,
    0x79], by decide⟩, _, _, by decide +kernel, by decide, rfl, rfl, by decide +kernel,
    by decide +kernel⟩

end ColumnType

end EntityGraph
