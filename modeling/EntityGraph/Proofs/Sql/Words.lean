import EntityGraph.Proofs.Text.Pattern
import EntityGraph.Sql.Identifier

/-!
# Words of a text

A keyword is forbidden where it stands as a word: between characters that are no part of a word. The
pattern for keywords looks for edges of words and for letters in any case (`found_keywordPattern`);
cutting the text into its maximal words gives the same (`any_isForbidden_iff`).
-/

namespace EntityGraph.Sql

/-- A word stands in a text as a whole: no letter, digit or underscore is next to it. -/
def StandsIn (word cs : List Char) : Prop :=
  ∃ before after, cs = before ++ word ++ after ∧
    (∀ c ∈ before.getLast?, isWordPart c = false) ∧ (∀ c ∈ after.head?, isWordPart c = false)

/-- The maximal words of a text, with empty ones between neighbouring separators. -/
def identifierWords : List Char → List (List Char)
  | [] => [[]]
  | c :: cs =>
    match identifierWords cs with
    | [] => [[]]
    | word :: rest => if isWordPart c then (c :: word) :: rest else [] :: word :: rest

/-- Whether a word is a forbidden keyword in any letter case. -/
def isForbidden (word : List Char) : Bool :=
  forbiddenKeywords.any fun k => k.toList = word.map Char.toUpper

theorem occursIn_eq_true {part cs : List Char} :
    Text.occursIn part cs = true ↔ part <:+: cs := by
  induction cs with
  | nil => simp [Text.occursIn]
  | cons c cs ih => simp [Text.occursIn, List.infix_cons_iff, ih]

/-! ### Cutting a text into words -/

theorem identifierWords_ne_nil (cs : List Char) : identifierWords cs ≠ [] := by
  cases cs with
  | nil => simp [identifierWords]
  | cons c cs =>
    rw [identifierWords]
    split
    · simp
    · split <;> simp

theorem identifierWords_cons_of_not_isWordPart {c : Char} (hc : isWordPart c = false)
    (cs : List Char) : identifierWords (c :: cs) = [] :: identifierWords cs := by
  rw [identifierWords]
  split
  · next hnil => exact absurd hnil (identifierWords_ne_nil cs)
  · next word rest hwords => simp [hc, hwords]

/-- No word reaches over a character that is no part of a word. -/
theorem identifierWords_append_cons {c : Char} (hc : isWordPart c = false) (as bs : List Char) :
    identifierWords (as ++ c :: bs) = identifierWords as ++ identifierWords bs := by
  induction as with
  | nil => simp [identifierWords_cons_of_not_isWordPart hc, identifierWords]
  | cons a as ih =>
    rw [List.cons_append, identifierWords, ih, identifierWords]
    cases hwords : identifierWords as with
    | nil => exact absurd hwords (identifierWords_ne_nil as)
    | cons word rest => by_cases ha : isWordPart a = true <;> simp [ha]

theorem identifierWords_of_isWordPart {word : List Char} (h : ∀ c ∈ word, isWordPart c = true) :
    identifierWords word = [word] := by
  induction word with
  | nil => rfl
  | cons c word ih =>
    rw [identifierWords, ih fun c hc => h c (List.mem_cons_of_mem _ hc)]
    simp [h c (by simp)]

/-- A word that stands in a text is one of its words. -/
theorem mem_identifierWords {word cs : List Char} (h : ∀ c ∈ word, isWordPart c = true)
    (hstands : StandsIn word cs) : word ∈ identifierWords cs := by
  obtain ⟨before, after, rfl, hbefore, hafter⟩ := hstands
  have hfront : word ∈ identifierWords (word ++ after) := by
    cases after with
    | nil => simp [identifierWords_of_isWordPart h]
    | cons c after =>
      rw [identifierWords_append_cons (hafter c rfl), identifierWords_of_isWordPart h]
      simp
  rw [List.append_assoc]
  obtain rfl | ⟨front, c, rfl⟩ := List.eq_nil_or_concat before
  · exact hfront
  · have hc : isWordPart c = false := hbefore c (by simp)
    rw [List.concat_eq_append, List.append_assoc, List.singleton_append,
      identifierWords_append_cons hc]
    exact List.mem_append_right _ hfront

theorem isWordPart_of_toUpper {c : Char} (h : isWordPart c.toUpper = true) :
    isWordPart c = true := by
  unfold Char.toUpper at h
  split at h
  · next hlower =>
    have hlow : c.isLower = true :=
      Bool.and_eq_true_iff.2 ⟨decide_eq_true hlower.1, decide_eq_true hlower.2⟩
    have halpha : c.isAlpha = true := Bool.or_eq_true_iff.2 (.inr hlow)
    simp [isWordPart, Char.isAlphanum, halpha]
  · exact h

theorem isWordPart_of_keyword :
    ∀ keyword ∈ forbiddenKeywords, ∀ c ∈ keyword.toList, isWordPart c = true := by
  have hall : (forbiddenKeywords.all fun keyword => keyword.toList.all isWordPart) = true := by
    decide
  simpa only [List.all_eq_true] using hall

/-- The first piece stands at the front of the text, and the others after a separator. -/
theorem pieces_of_identifierWords {first cs : List Char} {rest : List (List Char)}
    (h : identifierWords cs = first :: rest) :
    (∃ after, cs = first ++ after ∧ ∀ c ∈ after.head?, isWordPart c = false) ∧
      ∀ word ∈ rest, ∃ before d after, cs = before ++ d :: (word ++ after) ∧
        isWordPart d = false ∧ ∀ c ∈ after.head?, isWordPart c = false := by
  induction cs generalizing first rest with
  | nil =>
    obtain ⟨rfl, rfl⟩ : [] = first ∧ [] = rest := by simpa [identifierWords] using h
    exact ⟨⟨[], rfl, by simp⟩, by simp⟩
  | cons c cs ih =>
    cases hwords : identifierWords cs with
    | nil => exact absurd hwords (identifierWords_ne_nil cs)
    | cons word words =>
      obtain ⟨⟨after, hcs, hafter⟩, hrest⟩ := ih hwords
      have hlater : ∀ w ∈ words, ∃ before d after, c :: cs = before ++ d :: (w ++ after) ∧
          isWordPart d = false ∧ ∀ c ∈ after.head?, isWordPart c = false := by
        intro w hw
        obtain ⟨before, d, after, hcs, hd, hafter⟩ := hrest w hw
        exact ⟨c :: before, d, after, by simp [hcs], hd, hafter⟩
      rw [identifierWords, hwords] at h
      by_cases hc : isWordPart c = true
      · obtain ⟨rfl, rfl⟩ : c :: word = first ∧ words = rest := by simpa [hc] using h
        exact ⟨⟨after, by simp [hcs], hafter⟩, hlater⟩
      · rw [Bool.not_eq_true] at hc
        obtain ⟨rfl, rfl⟩ : [] = first ∧ word :: words = rest := by simpa [hc] using h
        refine ⟨⟨c :: cs, rfl, by simpa using hc⟩, List.forall_mem_cons.2 ⟨?_, hlater⟩⟩
        exact ⟨[], c, after, by simp [hcs], hc, hafter⟩

/-- Every piece into which a text is cut stands in it. -/
theorem standsIn_of_mem_identifierWords {word cs : List Char} (h : word ∈ identifierWords cs) :
    StandsIn word cs := by
  cases hwords : identifierWords cs with
  | nil => exact absurd hwords (identifierWords_ne_nil cs)
  | cons first rest =>
    obtain ⟨⟨after, hcs, hafter⟩, hrest⟩ := pieces_of_identifierWords hwords
    rw [hwords] at h
    rcases List.mem_cons.1 h with rfl | hword
    · exact ⟨[], after, hcs, by simp, hafter⟩
    · obtain ⟨before, d, after, hcs, hd, hafter⟩ := hrest word hword
      exact ⟨before ++ [d], after, by simp [hcs], by simpa using hd, hafter⟩

theorem isWordPart_of_isForbidden {word : List Char} (h : isForbidden word = true) :
    ∀ c ∈ word, isWordPart c = true := by
  obtain ⟨keyword, hkeyword, heq⟩ := List.any_eq_true.1 h
  intro c hc
  have hupper : c.toUpper ∈ keyword.toList := of_decide_eq_true heq ▸ List.mem_map_of_mem hc
  exact isWordPart_of_toUpper (isWordPart_of_keyword keyword hkeyword _ hupper)

theorem any_isForbidden_iff {cs : List Char} :
    (identifierWords cs).any isForbidden = true ↔
      ∃ word, StandsIn word cs ∧ isForbidden word = true := by
  rw [List.any_eq_true]
  refine exists_congr fun word => and_congr_left fun h => ?_
  exact ⟨standsIn_of_mem_identifierWords, mem_identifierWords (isWordPart_of_isForbidden h)⟩

/-! ### What the patterns find -/

open Text (Pattern)

theorem found_allowedPattern {cs : List Char} :
    allowedPattern.found cs = true ↔ cs ≠ [] ∧ ∀ c ∈ cs, isAllowed c = true := by
  rw [Pattern.found_iff]
  simp only [allowedPattern, Pattern.Matches]
  constructor
  · rintro ⟨_, _, _, rfl, left, right, rfl, ⟨rfl, rfl⟩, part, _, rfl, hpart, rfl, rfl⟩
    simpa using hpart
  · intro h
    exact ⟨[], cs, [], by simp, [], cs, rfl, ⟨rfl, rfl⟩, cs, [], by simp, h, rfl, rfl⟩

theorem isEdge_before {before word after : List Char} (hne : word ≠ [])
    (h : ∀ c ∈ word, isWordPart c = true) :
    Pattern.isEdge isWordPart before.getLast? (word ++ after).head? = true ↔
      ∀ c ∈ before.getLast?, isWordPart c = false := by
  obtain ⟨c, word, rfl⟩ := List.exists_cons_of_ne_nil hne
  have hc : isWordPart c = true := h c (by simp)
  cases before.getLast? <;> simp [Pattern.isEdge, hc]

theorem isEdge_after {before word after : List Char} (hne : word ≠ [])
    (h : ∀ c ∈ word, isWordPart c = true) :
    Pattern.isEdge isWordPart (before ++ word).getLast? after.head? = true ↔
      ∀ c ∈ after.head?, isWordPart c = false := by
  have hlast : isWordPart (word.getLast hne) = true := h _ (List.getLast_mem hne)
  rw [List.getLast?_append_of_ne_nil _ hne, List.getLast?_eq_some_getLast hne]
  cases after.head? <;> simp [Pattern.isEdge, hlast]

/-- Allowed characters are the same letter in any case just if their capitals are the same. -/
theorem isLetter_iff {k c : Char} (hk : k.toUpper = k) (hc : isAllowed c = true) :
    Pattern.isLetter k c = true ↔ k = c.toUpper := by
  have hkelvin : c ≠ '\u212A' := by
    rintro rfl
    exact absurd hc (by decide)
  have hlong : c ≠ '\u017F' := by
    rintro rfl
    exact absurd hc (by decide)
  simp [Pattern.isLetter, hkelvin, hlong, hk, eq_comm]

theorem toUpper_of_keyword :
    ∀ keyword ∈ forbiddenKeywords, ∀ c ∈ keyword.toList, c.toUpper = c := by
  have hall : (forbiddenKeywords.all fun keyword =>
      keyword.toList.all fun c => c.toUpper = c) = true := by
    decide
  simpa only [List.all_eq_true, decide_eq_true_eq] using hall

theorem forall₂_isLetter_iff {ks word : List Char} (hks : ∀ k ∈ ks, k.toUpper = k)
    (hword : ∀ c ∈ word, isAllowed c = true) :
    List.Forall₂ (fun k c => Pattern.isLetter k c = true) ks word ↔
      ks = word.map Char.toUpper := by
  induction ks generalizing word with
  | nil => cases word <;> simp
  | cons k ks ih =>
    cases word with
    | nil => simp
    | cons c word =>
      obtain ⟨hk, hks⟩ := List.forall_mem_cons.1 hks
      obtain ⟨hc, hword⟩ := List.forall_mem_cons.1 hword
      rw [List.forall₂_cons, isLetter_iff hk hc, ih hks hword, List.map_cons, List.cons.injEq]

/-- Allowed characters spell a keyword in any case just if they are a forbidden word. -/
theorem matches_keywords {word before after : List Char} (h : ∀ c ∈ word, isAllowed c = true) :
    (Pattern.oneOf (forbiddenKeywords.map fun k => .word k.toList)).Matches before word after ↔
      isForbidden word = true := by
  simp only [Pattern.matches_oneOf, List.mem_map, exists_exists_and_eq_and, Pattern.matches_word,
    isForbidden, List.any_eq_true, decide_eq_true_eq]
  exact exists_congr fun k => and_congr_right fun hk =>
    forall₂_isLetter_iff (toUpper_of_keyword k hk) h

theorem ne_nil_of_isForbidden {word : List Char} (h : isForbidden word = true) : word ≠ [] := by
  rintro rfl
  exact absurd h (by decide)

/-- The pattern for keywords finds the forbidden words that stand in a name. -/
theorem found_keywordPattern {cs : List Char} (h : ∀ c ∈ cs, isAllowed c = true) :
    keywordPattern.found cs = true ↔ ∃ word, StandsIn word cs ∧ isForbidden word = true := by
  rw [Pattern.found_iff]
  simp only [keywordPattern, Pattern.Matches]
  constructor
  · rintro ⟨before, _, after, rfl, _, _, rfl, ⟨rfl, hfront⟩, word, _, rfl, hword, rfl, hback⟩
    simp only [List.nil_append, List.append_nil] at h hfront hword hback
    have hforbidden : isForbidden word = true :=
      (matches_keywords fun c hc => h c (by simp [hc])).1 hword
    have hne := ne_nil_of_isForbidden hforbidden
    have hparts := isWordPart_of_isForbidden hforbidden
    exact ⟨word, ⟨before, after, by simp, (isEdge_before hne hparts).1 hfront,
      (isEdge_after hne hparts).1 hback⟩, hforbidden⟩
  · rintro ⟨word, ⟨before, after, rfl, hfront, hback⟩, hforbidden⟩
    have hne := ne_nil_of_isForbidden hforbidden
    have hparts := isWordPart_of_isForbidden hforbidden
    refine ⟨before, word, after, by simp, [], word, rfl,
      ⟨rfl, (isEdge_before hne hparts).2 hfront⟩, word, [], by simp, ?_, rfl, ?_⟩
    · exact (matches_keywords fun c hc => h c (by simp [hc])).2 hforbidden
    · rw [List.append_nil]
      exact (isEdge_after hne hparts).2 hback

/-- That one keyword starts another is no obstacle, and keywords within longer words are not
found. -/
example : keywordPattern.found "x,Execute(y)".toList = true ∧
    keywordPattern.found "executed".toList = false := by
  decide

end EntityGraph.Sql
