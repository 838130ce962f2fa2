import EntityGraph.Column.Uuid
import Mathlib.Algebra.GroupWithZero.Nat
import Mathlib.Data.List.Basic

/-!
# The canonical text of a UUID

A UUID is read back from the text it is written as (`read_text`). Of the texts that are read as a
UUID, this is the one of five groups of lower-case digits with hyphens between them
(`text_eq_iff`).
-/

namespace EntityGraph.Column

theorem val_of_ofList? {n : Nat} {bytes : List UInt8} {b : ByteArrayOf n}
    (h : ByteArrayOf.ofList? n bytes = some b) : b.val = bytes := by
  unfold ByteArrayOf.ofList? at h
  split at h
  · exact (congrArg Subtype.val (Option.some.inj h)).symm
  · cases h

theorem ofList?_val {n : Nat} (b : ByteArrayOf n) : ByteArrayOf.ofList? n b.val = some b :=
  dif_pos b.property

namespace Uuid

/-! ### Digits -/

def isLowerHex (c : Char) : Bool := c.isDigit || ('a' ≤ c && c ≤ 'f')

theorem isLowerHex_hexDigit : ∀ n < 16, isLowerHex (hexDigit n) = true := by decide

theorem hexValue?_hexDigit : ∀ n < 16, hexValue? (hexDigit n) = some n := by decide

theorem exists_hexDigit {c : Char} (h : isLowerHex c = true) : ∃ n < 16, c = hexDigit n := by
  have hc : Char.ofNat c.toNat = c := Char.ofNat_toNat c
  simp only [isLowerHex, Char.isDigit, Bool.or_eq_true, Bool.and_eq_true, decide_eq_true_eq] at h
  obtain ⟨hlow, hhigh⟩ | ⟨hlow, hhigh⟩ := h
  · have hlow' : 48 ≤ c.toNat := hlow
    have hhigh' : c.toNat ≤ 57 := hhigh
    refine ⟨c.toNat - 48, by omega, ?_⟩
    rw [hexDigit, if_pos (by omega), Nat.add_sub_cancel' hlow', hc]
  · have hlow' : 97 ≤ c.toNat := hlow
    have hhigh' : c.toNat ≤ 102 := hhigh
    refine ⟨c.toNat - 87, by omega, ?_⟩
    rw [hexDigit, if_neg (by omega), Nat.add_sub_cancel' (by omega), hc]

theorem length_flatMap_digits (digit : Nat → Char) (bytes : List UInt8) :
    (bytes.flatMap fun b => [digit (b.toNat / 16), digit (b.toNat % 16)]).length
      = 2 * bytes.length := by
  induction bytes with
  | nil => rfl
  | cons b bytes ih =>
    rw [List.flatMap_cons, List.length_append, ih, List.length_cons]
    simp
    omega

theorem length_flatMap_writeByte (bytes : List UInt8) :
    (bytes.flatMap writeByte).length = 2 * bytes.length := length_flatMap_digits hexDigit bytes

theorem isLowerHex_of_mem_writeByte {b : UInt8} {c : Char} (h : c ∈ writeByte b) :
    isLowerHex c = true := by
  have hb := b.toNat_lt
  obtain rfl | rfl : c = hexDigit (b.toNat / 16) ∨ c = hexDigit (b.toNat % 16) := by
    simpa [writeByte] using h
  · exact isLowerHex_hexDigit _ (by omega)
  · exact isLowerHex_hexDigit _ (by omega)

/-- Bytes are read back from their digits, which may be of either case. -/
theorem readBytes?_flatMap_digits {digit : Nat → Char}
    (hdigit : ∀ n < 16, hexValue? (digit n) = some n) (bytes : List UInt8) :
    readBytes? (bytes.flatMap fun b => [digit (b.toNat / 16), digit (b.toNat % 16)])
      = some bytes := by
  induction bytes with
  | nil => rfl
  | cons b bytes ih =>
    have hb := b.toNat_lt
    have hbyte : UInt8.ofNat (b.toNat / 16 * 16 + b.toNat % 16) = b := by
      rw [Nat.div_add_mod', UInt8.ofNat_toNat]
    rw [List.flatMap_cons, List.cons_append, List.singleton_append, readBytes?,
      hdigit _ (by omega), hdigit _ (by omega), ih]
    simp only [Option.bind_eq_bind, Option.bind_some, Option.pure_def, hbyte]

theorem readBytes?_flatMap_writeByte (bytes : List UInt8) :
    readBytes? (bytes.flatMap writeByte) = some bytes :=
  readBytes?_flatMap_digits hexValue?_hexDigit bytes

/-- Lower-case digits are written as they were read. -/
theorem flatMap_writeByte_of_readBytes? {cs : List Char} {bytes : List UInt8}
    (hcs : ∀ c ∈ cs, isLowerHex c = true) (h : readBytes? cs = some bytes) :
    bytes.flatMap writeByte = cs := by
  induction cs using readBytes?.induct generalizing bytes with
  | case1 =>
    obtain rfl : [] = bytes := Option.some.inj h
    rfl
  | case2 c => cases h
  | case3 c d rest ih =>
    obtain ⟨m, hm, rfl⟩ := exists_hexDigit (hcs c (by simp))
    obtain ⟨n, hn, rfl⟩ := exists_hexDigit (hcs d (by simp))
    rw [readBytes?, hexValue?_hexDigit m hm, hexValue?_hexDigit n hn] at h
    cases hrest : readBytes? rest with
    | none => simp [hrest] at h
    | some bytes' =>
      obtain rfl : UInt8.ofNat (m * 16 + n) :: bytes' = bytes := by simpa [hrest] using h
      have hbyte : (UInt8.ofNat (m * 16 + n)).toNat = m * 16 + n :=
        UInt8.toNat_ofNat_of_lt' (show m * 16 + n < 256 by omega)
      rw [List.flatMap_cons, ih (fun c hc => hcs c (by simp [hc])) hrest, writeByte, hbyte]
      have hhigh : (m * 16 + n) / 16 = m := by omega
      have hlow : (m * 16 + n) % 16 = n := by omega
      rw [hhigh, hlow]
      rfl

/-! ### Groups -/

theorem groupsOf_eq_splitOn (cs : List Char) : hyphenated?.groupsOf cs = cs.splitOn '-' := by
  induction cs with
  | nil => rfl
  | cons c cs ih =>
    rw [hyphenated?.groupsOf, ih, List.splitOn_cons_eq_if_modifyHead]
    cases hpieces : cs.splitOn '-' with
    | nil => exact absurd hpieces (List.splitOn_ne_nil _ _)
    | cons piece rest => by_cases hc : c = '-' <;> simp [hc]

theorem flatten_cutGroups {ns : List Nat} {cs : List Char} (h : cs.length = ns.sum) :
    (cutGroups ns cs).flatten = cs := by
  induction ns generalizing cs with
  | nil => simpa [cutGroups, eq_comm] using h
  | cons n ns ih =>
    rw [List.sum_cons] at h
    rw [cutGroups, List.flatten_cons, ih (by rw [List.length_drop]; omega), List.take_append_drop]

theorem map_length_cutGroups {ns : List Nat} {cs : List Char} (h : cs.length = ns.sum) :
    (cutGroups ns cs).map List.length = ns := by
  induction ns generalizing cs with
  | nil => rfl
  | cons n ns ih =>
    rw [List.sum_cons] at h
    rw [cutGroups, List.map_cons, ih (by rw [List.length_drop]; omega), List.length_take,
      Nat.min_eq_left (by omega)]

theorem cutGroups_flatten (pieces : List (List Char)) :
    cutGroups (pieces.map List.length) pieces.flatten = pieces := by
  induction pieces with
  | nil => rfl
  | cons piece pieces ih =>
    rw [List.map_cons, List.flatten_cons, cutGroups, List.take_left', List.drop_left', ih] <;> rfl

/-! ### Canonical texts -/

/-- Five groups of lower-case hexadecimal digits with hyphens between them. -/
def IsCanonical (cs : List Char) : Prop :=
  ∃ pieces : List (List Char), pieces.map List.length = groups ∧
    (∀ c ∈ pieces.flatten, isLowerHex c = true) ∧ cs = ['-'].intercalate pieces

/-- The text of a UUID is made of the digits of its bytes. -/
theorem exists_pieces_text (u : Uuid) : ∃ pieces : List (List Char),
    pieces.map List.length = groups ∧ pieces.flatten = u.val.flatMap writeByte ∧
      (text u).toList = ['-'].intercalate pieces := by
  have hlength : (u.val.flatMap writeByte).length = groups.sum := by
    rw [length_flatMap_writeByte, u.property]
    rfl
  exact ⟨_, map_length_cutGroups hlength, flatten_cutGroups hlength, String.toList_ofList⟩

theorem isLowerHex_of_mem_flatMap {bytes : List UInt8} :
    ∀ c ∈ bytes.flatMap writeByte, isLowerHex c = true := by
  intro c hc
  obtain ⟨b, -, hc⟩ := List.mem_flatMap.1 hc
  exact isLowerHex_of_mem_writeByte hc

theorem isCanonical_text (u : Uuid) : IsCanonical (text u).toList := by
  obtain ⟨pieces, hlength, hflatten, htext⟩ := exists_pieces_text u
  exact ⟨pieces, hlength, hflatten ▸ isLowerHex_of_mem_flatMap, htext⟩

/-- The groups of a canonical text have 32 digits, and it is made of them and four hyphens. -/
theorem length_intercalate {pieces : List (List Char)} (h : pieces.map List.length = groups) :
    pieces.flatten.length = 32 ∧ (['-'].intercalate pieces).length = hyphenatedLength := by
  obtain ⟨p₀, p₁, p₂, p₃, p₄, rfl⟩ : ∃ p₀ p₁ p₂ p₃ p₄, pieces = [p₀, p₁, p₂, p₃, p₄] := by
    have hlength : pieces.length = 5 := by rw [← List.length_map, h, groups]; rfl
    match pieces, hlength with
    | [p₀, p₁, p₂, p₃, p₄], _ => exact ⟨p₀, p₁, p₂, p₃, p₄, rfl⟩
  simp only [List.map_cons, List.map_nil, groups, List.cons.injEq, and_true] at h
  simp [List.intercalate_cons_cons, hyphenatedLength]
  omega

theorem mem_intercalate {pieces : List (List Char)} {c : Char} (h : c ∈ ['-'].intercalate pieces) :
    c = '-' ∨ c ∈ pieces.flatten := by
  induction pieces with
  | nil => simp [List.intercalate] at h
  | cons piece pieces ih =>
    cases pieces with
    | nil => exact .inr (by simpa [List.intercalate] using h)
    | cons next pieces =>
      rw [List.intercalate_cons_cons, List.mem_append, List.mem_append, List.mem_singleton] at h
      rw [List.flatten_cons, List.mem_append]
      obtain (h | h) | h := h
      · exact .inr (.inl h)
      · exact .inl h
      · exact (ih h).imp_right .inr

theorem byteLength_eq_length {cs : List Char} (h : ∀ c ∈ cs, c.utf8Size = 1) :
    byteLength cs = cs.length := by
  induction cs with
  | nil => rfl
  | cons c cs ih =>
    have htail := ih fun d hd => h d (List.mem_cons_of_mem _ hd)
    rw [byteLength] at htail ⊢
    rw [List.map_cons, List.foldr_cons, htail, h c List.mem_cons_self, List.length_cons,
      Nat.add_comm]

theorem byteLength_of_isCanonical {cs : List Char} (h : IsCanonical cs) :
    byteLength cs = hyphenatedLength := by
  obtain ⟨pieces, hlength, hdigits, rfl⟩ := h
  rw [byteLength_eq_length fun c hc => ?_, (length_intercalate hlength).2]
  obtain rfl | hc := mem_intercalate hc
  · decide
  · obtain ⟨n, hn, rfl⟩ := exists_hexDigit (hdigits c hc)
    have hall : ∀ n < 16, (hexDigit n).utf8Size = 1 := by decide
    exact hall n hn

/-- Five groups of lower-case digits are read as the bytes that the digits make. -/
theorem read_intercalate {pieces : List (List Char)} (hlength : pieces.map List.length = groups)
    (hdigits : ∀ c ∈ pieces.flatten, isLowerHex c = true) :
    read (['-'].intercalate pieces)
      = match (readBytes? pieces.flatten).bind (ByteArrayOf.ofList? 16) with
        | some u => .ok u
        | none => .error (fault (['-'].intercalate pieces)) := by
  have hbytes := byteLength_of_isCanonical ⟨pieces, hlength, hdigits, rfl⟩
  have hgroups : hyphenated?.groupsOf (['-'].intercalate pieces) = pieces := by
    rw [groupsOf_eq_splitOn, List.splitOn_intercalate]
    · intro piece hpiece hhyphen
      have hlower := hdigits '-' (List.mem_flatten.2 ⟨piece, hpiece, hhyphen⟩)
      exact absurd hlower (by decide)
    · rintro rfl
      cases hlength
  have hread : hyphenated? (['-'].intercalate pieces) = readBytes? pieces.flatten := by
    rw [hyphenated?, hgroups, if_pos hlength]
  rw [read, hbytes, if_neg (by decide), body, if_pos hbytes]
  dsimp only
  rewrite [hread]
  rfl

/-- A text that is read as a UUID is the text it is written as just if it is canonical. -/
theorem text_eq_iff {cs : List Char} {u : Uuid} (h : read cs = .ok u) :
    (text u).toList = cs ↔ IsCanonical cs := by
  refine ⟨fun htext => htext ▸ isCanonical_text u, fun hcs => ?_⟩
  obtain ⟨pieces, hlength, hdigits, rfl⟩ := hcs
  rw [read_intercalate hlength hdigits] at h
  cases hdecoded : readBytes? pieces.flatten with
  | none => simp [hdecoded] at h
  | some bytes =>
    rw [hdecoded, Option.bind_some] at h
    have hu : u.val = bytes := by
      split at h
      · next u' hu' => exact Except.ok.inj h ▸ val_of_ofList? hu'
      · cases h
    rw [text, String.toList_ofList, hu, flatMap_writeByte_of_readBytes? hdigits hdecoded,
      ← hlength, cutGroups_flatten]

/-- A UUID is read back from its text. -/
theorem read_text (u : Uuid) : read (text u).toList = .ok u := by
  obtain ⟨pieces, hlength, hflatten, htext⟩ := exists_pieces_text u
  rw [htext, read_intercalate hlength (hflatten ▸ isLowerHex_of_mem_flatMap), hflatten,
    readBytes?_flatMap_writeByte, Option.bind_some, ofList?_val]

end Uuid

end EntityGraph.Column
