import EntityGraph.Proofs.Column.Uuid
import EntityGraph.Sql.Value

/-!
# Literals read back

Literals of texts and of bytes stand between quotes, where SQL takes a quote that is written twice
for one quote and any other for the end. The literal of a text is the one spelling of the text by
this rule, so that no quote in it ends the literal early (`readLiteral_eq_text_iff`). The literal of
bytes has two upper-case digits for each of them and is read back too (`readLiteral_blob`). Hence
literals tell texts and bytes apart (`literal_closed`).
-/

namespace EntityGraph.Sql

open Column.Uuid (hexValue? readBytes? length_flatMap_digits readBytes?_flatMap_digits)

/-! ### Quoted texts -/

/-- What is quoted, read behind the opening quote, and what follows the closing one. Two quotes in a
row stand for one, and any other quote closes. -/
def readQuoted : List Char → Option (List Char × List Char)
  | [] => none
  | c :: cs =>
    if c = '\'' then
      match cs with
      | '\'' :: rest => (readQuoted rest).map (Prod.map ('\'' :: ·) id)
      | _ => some ([], cs)
    else (readQuoted cs).map (Prod.map (c :: ·) id)

theorem readQuoted_doubled (rest : List Char) :
    readQuoted ('\'' :: '\'' :: rest) = (readQuoted rest).map (Prod.map ('\'' :: ·) id) := by
  rw [readQuoted, if_pos rfl]

theorem readQuoted_closing {rest : List Char} (hrest : rest.head? ≠ some '\'') :
    readQuoted ('\'' :: rest) = some ([], rest) := by
  rw [readQuoted.eq_def]
  dsimp only
  rw [if_pos rfl]
  split
  · exact absurd rfl hrest
  · rfl

theorem readQuoted_cons {c : Char} (hc : c ≠ '\'') (cs : List Char) :
    readQuoted (c :: cs) = (readQuoted cs).map (Prod.map (c :: ·) id) := by
  rw [readQuoted.eq_def]
  exact if_neg hc

theorem readQuoted_doubleQuotes (s : List Char) {rest : List Char}
    (hrest : rest.head? ≠ some '\'') :
    readQuoted (doubleQuotes s ++ '\'' :: rest) = some (s, rest) := by
  induction s with
  | nil => exact readQuoted_closing hrest
  | cons c s ih =>
    rw [doubleQuotes]
    by_cases hc : c = '\''
    · rw [if_pos hc, List.cons_append, List.cons_append, readQuoted_doubled, ih, hc]
      rfl
    · rw [if_neg hc, List.cons_append, readQuoted_cons hc, ih]
      rfl

theorem eq_of_readQuoted {cs s rest : List Char} (h : readQuoted cs = some (s, rest)) :
    cs = doubleQuotes s ++ '\'' :: rest ∧ rest.head? ≠ some '\'' := by
  fun_induction readQuoted cs generalizing s with
  | case1 => cases h
  | case2 cs ih =>
    obtain ⟨⟨s', rest'⟩, hread, hsame⟩ := Option.map_eq_some_iff.1 h
    obtain ⟨rfl, rfl⟩ := Prod.mk.inj hsame
    obtain ⟨rfl, hrest⟩ := ih hread
    exact ⟨by simp [doubleQuotes], hrest⟩
  | case3 cs hcs =>
    obtain ⟨rfl, rfl⟩ := Prod.mk.inj (Option.some.inj h)
    refine ⟨rfl, fun hhead => ?_⟩
    obtain ⟨tail, rfl⟩ := List.head?_eq_some_iff.1 hhead
    exact hcs tail rfl
  | case4 c cs hc ih =>
    obtain ⟨⟨s', rest'⟩, hread, hsame⟩ := Option.map_eq_some_iff.1 h
    obtain ⟨rfl, rfl⟩ := Prod.mk.inj hsame
    obtain ⟨rfl, hrest⟩ := ih hread
    exact ⟨by simp [doubleQuotes, hc], hrest⟩

/-- **A text is read just from its doubled quotes**, closed by a quote that no other follows. -/
theorem readQuoted_eq_some_iff {cs s rest : List Char} :
    readQuoted cs = some (s, rest) ↔
      cs = doubleQuotes s ++ '\'' :: rest ∧ rest.head? ≠ some '\'' := by
  refine ⟨eq_of_readQuoted, ?_⟩
  rintro ⟨rfl, hrest⟩
  exact readQuoted_doubleQuotes s hrest

theorem doubleQuotes_of_not_mem {cs : List Char} (h : '\'' ∉ cs) : doubleQuotes cs = cs := by
  induction cs with
  | nil => rfl
  | cons c cs ih =>
    rw [List.mem_cons, not_or] at h
    rw [doubleQuotes, if_neg (Ne.symm h.1), ih h.2]

/-! ### Digits of bytes -/

def isUpperHex (c : Char) : Bool := c.isDigit || ('A' ≤ c && c ≤ 'F')

theorem isUpperHex_upperHexDigit : ∀ n < 16, isUpperHex (upperHexDigit n) = true := by decide

theorem hexValue?_upperHexDigit : ∀ n < 16, hexValue? (upperHexDigit n) = some n := by decide

theorem isUpperHex_of_mem_digits {bytes : List UInt8} {c : Char}
    (h : c ∈ bytes.flatMap upperHex) : isUpperHex c = true := by
  obtain ⟨b, -, hc⟩ := List.mem_flatMap.1 h
  have hb := b.toNat_lt
  obtain rfl | rfl : c = upperHexDigit (b.toNat / 16) ∨ c = upperHexDigit (b.toNat % 16) := by
    simpa [upperHex] using hc
  · exact isUpperHex_upperHexDigit _ (by omega)
  · exact isUpperHex_upperHexDigit _ (by omega)

/-! ### Literals -/

/-- The text or the bytes of the literal at the beginning, and what follows it. -/
def readLiteral : List Char → Option (Value × List Char)
  | '\'' :: cs => (readQuoted cs).map fun p => (.text (String.ofList p.1), p.2)
  | 'X' :: '\'' :: cs => do
    let (digits, rest) ← readQuoted cs
    let bytes ← readBytes? digits
    pure (.blob bytes, rest)
  | _ => none

namespace Value

def isQuoted : Value → Bool
  | text _ | blob _ => true
  | _ => false

theorem literal_text (s : String) :
    (text s).literal.toList = '\'' :: doubleQuotes s.toList ++ ['\''] := String.toList_ofList

theorem literal_blob (bytes : List UInt8) :
    (blob bytes).literal.toList = 'X' :: '\'' :: bytes.flatMap upperHex ++ ['\''] :=
  String.toList_ofList

end Value

open Value (text blob)

/-- The literal of a text is what is read as the text. -/
theorem readLiteral_eq_text_iff {cs rest : List Char} {s : String} :
    readLiteral cs = some (text s, rest) ↔
      cs = (text s).literal.toList ++ rest ∧ rest.head? ≠ some '\'' := by
  rw [Value.literal_text]
  constructor
  · intro h
    unfold readLiteral at h
    split at h
    · next cs =>
      obtain ⟨⟨s', rest'⟩, hread, hsame⟩ := Option.map_eq_some_iff.1 h
      obtain ⟨hs, rfl⟩ := Prod.mk.inj hsame
      obtain rfl := Value.text.inj hs
      obtain ⟨rfl, hrest⟩ := eq_of_readQuoted hread
      exact ⟨by simp, hrest⟩
    · next cs => simp [Option.bind_eq_some_iff] at h
    · cases h
  · rintro ⟨rfl, hrest⟩
    simp [readLiteral, readQuoted_doubleQuotes _ hrest]

theorem readLiteral_blob (bytes : List UInt8) {rest : List Char}
    (hrest : rest.head? ≠ some '\'') :
    readLiteral ((blob bytes).literal.toList ++ rest) = some (blob bytes, rest) := by
  have hquote : '\'' ∉ bytes.flatMap upperHex := fun hmem =>
    absurd (isUpperHex_of_mem_digits hmem) (by decide)
  have hread : readQuoted (bytes.flatMap upperHex ++ '\'' :: rest)
      = some (bytes.flatMap upperHex, rest) := by
    rw [readQuoted_eq_some_iff, doubleQuotes_of_not_mem hquote]
    exact ⟨rfl, hrest⟩
  have hbytes : readBytes? (bytes.flatMap upperHex) = some bytes :=
    readBytes?_flatMap_digits hexValue?_upperHexDigit bytes
  simp [Value.literal_blob, readLiteral, hread, hbytes]

/-- The literal of a text or of bytes is read back, with anything but a quote behind it. -/
theorem readLiteral_literal {v : Value} (hv : v.isQuoted = true) {rest : List Char}
    (hrest : rest.head? ≠ some '\'') :
    readLiteral (v.literal.toList ++ rest) = some (v, rest) := by
  cases v with
  | text s => exact readLiteral_eq_text_iff.2 ⟨rfl, hrest⟩
  | blob bytes => exact readLiteral_blob bytes hrest
  | null | bool | int | float => cases hv

/-- **Literals are closed and can be read back.** The literal of a text begins with a quote, and the
quote that closes it is its last character; the text has no other literal. The literal of bytes
holds two upper-case digits for each. Literals of different texts or bytes are different. -/
theorem literal_closed :
    (∀ s : String, ∃ body, (text s).literal.toList = '\'' :: body ∧
      readQuoted body = some (s.toList, [])) ∧
    (∀ (s : String) (cs rest : List Char), readLiteral cs = some (text s, rest) ↔
      cs = (text s).literal.toList ++ rest ∧ rest.head? ≠ some '\'') ∧
    (∀ bytes : List UInt8,
      (∃ digits, (blob bytes).literal.toList = 'X' :: '\'' :: digits ++ ['\''] ∧
        digits.length = 2 * bytes.length ∧ (∀ c ∈ digits, isUpperHex c = true) ∧
        readBytes? digits = some bytes) ∧
      ∀ rest, rest.head? ≠ some '\'' →
        readLiteral ((blob bytes).literal.toList ++ rest) = some (blob bytes, rest)) ∧
    ∀ v w : Value, v.isQuoted = true → w.isQuoted = true → v.literal = w.literal → v = w := by
  refine ⟨fun s => ⟨_, Value.literal_text s, readQuoted_doubleQuotes _ nofun⟩,
    fun s cs rest => readLiteral_eq_text_iff, fun bytes => ⟨⟨_, Value.literal_blob bytes,
      length_flatMap_digits upperHexDigit bytes, fun c => isUpperHex_of_mem_digits,
      readBytes?_flatMap_digits hexValue?_upperHexDigit bytes⟩,
      fun rest => readLiteral_blob bytes⟩, ?_⟩
  intro v w hv hw hsame
  have hread : readLiteral (v.literal.toList ++ []) = some (v, []) := readLiteral_literal hv nofun
  have hread' : readLiteral (w.literal.toList ++ []) = some (w, []) :=
    readLiteral_literal hw nofun
  rw [hsame, hread'] at hread
  exact (congrArg Prod.fst (Option.some.inj hread)).symm

/-- A text full of quotes before an operator, and a text that is spelled as bytes are. -/
theorem literal_closed_hostile :
    readLiteral ((text "''; DROP TABLE users; --'").literal.toList ++ " = name".toList)
        = some (text "''; DROP TABLE users; --'", " = name".toList) ∧
      readLiteral ((blob [0x4F, 0xAB]).literal.toList ++ ")".toList)
        = some (blob [0x4F, 0xAB], ")".toList) ∧
      (text "X'4FAB'").literal ≠ (blob [0x4F, 0xAB]).literal := by
  obtain ⟨-, htext, hblob, hinjective⟩ := literal_closed
  exact ⟨(htext _ _ _).2 ⟨rfl, by decide⟩, (hblob _).2 _ (by decide),
    fun hsame => by cases hinjective _ _ rfl rfl hsame⟩

end EntityGraph.Sql
