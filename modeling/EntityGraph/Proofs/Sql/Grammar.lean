import EntityGraph.Proofs.Sql.Identifier
import EntityGraph.Proofs.Sql.Words
import Mathlib.Data.List.DropRight

/-!
# The grammar of names

What names are accepted, said without patterns (`IsName`), and which rules the others break
(`Breaks`). The check reports the first rule that is broken, and accepted names stay accepted when
they are joined: separators are no part of words, so every word of the whole is a word of one of the
names (`checkIdentifier_decides`).
-/

namespace EntityGraph.Sql

/-- The letters and digits of ASCII, and the underscore. -/
def IsWordChar (c : Char) : Prop :=
  ('A' ≤ c ∧ c ≤ 'Z') ∨ ('a' ≤ c ∧ c ≤ 'z') ∨ ('0' ≤ c ∧ c ≤ '9') ∨ c = '_'

/-- What a name may be made of. -/
def IsNameChar (c : Char) : Prop :=
  IsWordChar c ∨ c ∈ ['.', '*', '(', ')', ','] ∨ Text.isBlank c = true

/-- A run of letters, digits and underscores in a text that cannot be made longer. -/
structure IsWordOf (cs word : List Char) : Prop where
  ne_nil : word ≠ []
  chars : ∀ c ∈ word, IsWordChar c
  maximal : ∃ before after, cs = before ++ word ++ after ∧
    (∀ c ∈ before.getLast?, ¬IsWordChar c) ∧ ∀ c ∈ after.head?, ¬IsWordChar c

/-- A forbidden keyword is a word of the text, in any letter case. -/
def HasKeyword (cs : List Char) : Prop :=
  ∃ word, IsWordOf cs word ∧ ∃ keyword ∈ forbiddenKeywords, word.map Char.toUpper = keyword.toList

/-- What accepted names look like. -/
structure IsName (cs : List Char) : Prop where
  visible : ∃ c ∈ cs, Text.isBlank c = false
  chars : ∀ c ∈ cs, IsNameChar c
  no_keyword : ¬HasKeyword cs

/-- What each of the rules forbids. -/
def Breaks (cs : List Char) : IdentifierFault → Prop
  | .empty => ∀ c ∈ cs, Text.isBlank c = true
  | .quotes => ∃ c ∈ cs, c ∈ ['\'', '"', '`']
  | .terminator => ';' ∈ cs
  | .comment => ∃ part ∈ ["--", "/*", "*/"], part.toList <:+: cs
  | .characters => ∃ c ∈ cs, ¬IsNameChar c
  | .keyword => HasKeyword cs

/-- The order of the rules. -/
def IdentifierFault.rank : IdentifierFault → Nat
  | .empty => 0
  | .quotes => 1
  | .terminator => 2
  | .comment => 3
  | .characters => 4
  | .keyword => 5

/-- The first `n` rules are kept. -/
def KeepsRules (cs : List Char) (n : Nat) : Prop :=
  ∀ fault : IdentifierFault, fault.rank < n → ¬Breaks cs fault

/-- The rule is broken, and none that comes before it. -/
structure BreaksFirst (cs : List Char) (fault : IdentifierFault) : Prop where
  broken : Breaks cs fault
  first : KeepsRules cs fault.rank

variable {cs : List Char} {fault fault' : IdentifierFault}

theorem IdentifierFault.eq_of_rank_eq (h : fault.rank = fault'.rank) : fault = fault' := by
  cases fault <;> cases fault' <;> first | rfl | cases h

theorem KeepsRules.next (h : KeepsRules cs fault.rank) (hfault : ¬Breaks cs fault) :
    KeepsRules cs (fault.rank + 1) := by
  intro other hlt
  rcases Nat.lt_or_eq_of_le (Nat.le_of_lt_succ hlt) with hlt | heq
  · exact h other hlt
  · rwa [IdentifierFault.eq_of_rank_eq heq]

theorem BreaksFirst.unique (h : BreaksFirst cs fault) (h' : BreaksFirst cs fault') :
    fault = fault' := by
  rcases Nat.lt_trichotomy fault.rank fault'.rank with hlt | heq | hlt
  · exact absurd h.broken (h'.first fault hlt)
  · exact IdentifierFault.eq_of_rank_eq heq
  · exact absurd h'.broken (h.first fault' hlt)

/-! ### The rules one by one -/

theorem isWordPart_iff {c : Char} : isWordPart c = true ↔ IsWordChar c := by
  have halpha : c.isAlpha = (c.isUpper || c.isLower) := rfl
  have hupper : c.isUpper = decide ('A' ≤ c ∧ c ≤ 'Z') := rfl
  have hlower : c.isLower = (decide ('a' ≤ c) && decide (c ≤ 'z')) := rfl
  have hdigit : c.isDigit = (decide ('0' ≤ c) && decide (c ≤ '9')) := rfl
  simp only [isWordPart, IsWordChar, Char.isAlphanum, halpha, hupper, hlower, hdigit,
    Bool.or_eq_true, Bool.and_eq_true, decide_eq_true_eq, or_assoc]

theorem isAllowed_iff {c : Char} : isAllowed c = true ↔ IsNameChar c := by
  simp only [isAllowed, isPunctuation, IsNameChar, Bool.or_eq_true, isWordPart_iff,
    decide_eq_true_eq, List.mem_cons, List.not_mem_nil, or_false, or_assoc]

/-- Trimming leaves nothing of blanks. -/
theorem isEmpty_trim_iff :
    (Text.trim cs).isEmpty = true ↔ Breaks cs .empty := by
  have htrim : Text.trim cs = (cs.dropWhile Text.isBlank).rdropWhile Text.isBlank := rfl
  rw [htrim, List.isEmpty_iff, List.rdropWhile_eq_nil_iff, Breaks]
  constructor
  · intro h
    cases hcs : cs.dropWhile Text.isBlank with
    | nil => exact List.dropWhile_eq_nil_iff.1 hcs
    | cons c rest =>
      have hc : ¬Text.isBlank c = true := by
        simpa [hcs] using List.head?_dropWhile_not Text.isBlank cs
      exact absurd (h c (by simp [hcs])) hc
  · exact fun h c hc => h c ((List.dropWhile_sublist _).mem hc)

theorem any_isQuote_iff : cs.any isQuote = true ↔ Breaks cs .quotes := by
  simp [Breaks, isQuote, or_assoc]

theorem any_terminator_iff :
    cs.any (· = ';') = true ↔ Breaks cs .terminator := by
  simp [Breaks]

theorem hasComment_iff : hasComment cs = true ↔ Breaks cs .comment := by
  simp [Breaks, hasComment, occursIn_eq_true, or_assoc]

theorem found_allowedPattern_iff (h : ¬Breaks cs .empty) :
    allowedPattern.found cs = true ↔ ¬Breaks cs .characters := by
  have hne : cs ≠ [] := by
    rintro rfl
    exact h fun c hc => by simp at hc
  simp [found_allowedPattern, hne, Breaks, isAllowed_iff]

/-- The keywords of a text are the forbidden words that stand in it. -/
theorem hasKeyword_iff :
    HasKeyword cs ↔ ∃ word, StandsIn word cs ∧ isForbidden word = true := by
  have hseparator : ∀ c : Char, ¬IsWordChar c ↔ isWordPart c = false := fun c => by
    rw [← isWordPart_iff, Bool.not_eq_true]
  refine exists_congr fun word => ?_
  constructor
  · rintro ⟨⟨-, -, before, after, hcs, hbefore, hafter⟩, keyword, hkeyword, heq⟩
    refine ⟨⟨before, after, hcs, fun c hc => (hseparator c).1 (hbefore c hc),
      fun c hc => (hseparator c).1 (hafter c hc)⟩, ?_⟩
    exact List.any_eq_true.2 ⟨keyword, hkeyword, by simp [heq]⟩
  · rintro ⟨⟨before, after, hcs, hbefore, hafter⟩, hforbidden⟩
    obtain ⟨keyword, hkeyword, heq⟩ := List.any_eq_true.1 hforbidden
    refine ⟨⟨ne_nil_of_isForbidden hforbidden, ?_, before, after, hcs,
      fun c hc => (hseparator c).2 (hbefore c hc), fun c hc => (hseparator c).2 (hafter c hc)⟩,
      keyword, hkeyword, (of_decide_eq_true heq).symm⟩
    exact fun c hc => isWordPart_iff.1 (isWordPart_of_isForbidden hforbidden c hc)

theorem found_keywordPattern_iff (h : ¬Breaks cs .characters) :
    keywordPattern.found cs = true ↔ Breaks cs .keyword := by
  rw [found_keywordPattern, Breaks, hasKeyword_iff]
  simpa [Breaks, ← isAllowed_iff] using h

/-! ### The first broken rule -/

/-- The check goes through the rules in their order. -/
theorem identifierFault?_spec (cs : List Char) :
    match identifierFault? cs with
    | some fault => BreaksFirst cs fault
    | none => ∀ fault, ¬Breaks cs fault := by
  have h₀ : KeepsRules cs 0 := fun fault h => absurd h (Nat.not_lt_zero _)
  unfold identifierFault?
  split_ifs with hempty hquotes hterminator hcomment hcharacters hkeyword
  all_goals rw [isEmpty_trim_iff] at hempty
  · exact ⟨hempty, h₀⟩
  all_goals
    have h₁ : KeepsRules cs 1 := KeepsRules.next h₀ hempty
    rw [any_isQuote_iff] at hquotes
  · exact ⟨hquotes, h₁⟩
  all_goals
    have h₂ : KeepsRules cs 2 := KeepsRules.next h₁ hquotes
    rw [any_terminator_iff] at hterminator
  · exact ⟨hterminator, h₂⟩
  all_goals
    have h₃ : KeepsRules cs 3 := KeepsRules.next h₂ hterminator
    rw [hasComment_iff] at hcomment
  · exact ⟨hcomment, h₃⟩
  all_goals
    have h₄ : KeepsRules cs 4 := KeepsRules.next h₃ hcomment
    rw [Bool.not_eq_true', ← Bool.not_eq_true, found_allowedPattern_iff hempty,
      not_not] at hcharacters
  · exact ⟨hcharacters, h₄⟩
  all_goals
    have h₅ : KeepsRules cs 5 := KeepsRules.next h₄ hcharacters
    rw [found_keywordPattern_iff hcharacters] at hkeyword
  · exact ⟨hkeyword, h₅⟩
  · have h₆ : KeepsRules cs 6 := KeepsRules.next h₅ hkeyword
    exact fun fault => h₆ fault (by cases fault <;> decide)

theorem identifierFault?_eq_some :
    identifierFault? cs = some fault ↔ BreaksFirst cs fault := by
  have hspec := identifierFault?_spec cs
  cases hfault : identifierFault? cs with
  | none =>
    rw [hfault] at hspec
    simpa using fun h : BreaksFirst cs fault => hspec fault h.broken
  | some found =>
    rw [hfault] at hspec
    rw [Option.some.injEq]
    exact ⟨fun h => h ▸ hspec, hspec.unique⟩

/-- A name that breaks no rule is one of the grammar: quotes, terminators and signs of comments are
no characters of names. -/
theorem forall_not_breaks_iff : (∀ fault, ¬Breaks cs fault) ↔ IsName cs := by
  constructor
  · intro h
    exact ⟨by simpa [Breaks] using h .empty, by simpa [Breaks] using h .characters, h .keyword⟩
  · intro h
    have hother : ∀ c ∈ ['\'', '"', '`', ';', '-', '/'], c ∉ cs := by
      intro c hc hmem
      have hnone : (['\'', '"', '`', ';', '-', '/'].all (!isAllowed ·)) = true := by decide
      have hallowed := isAllowed_iff.2 (h.chars c hmem)
      simpa [hallowed] using List.all_eq_true.1 hnone c hc
    rintro (_ | _)
    · intro hempty
      obtain ⟨c, hc, hvisible⟩ := h.visible
      simp [hempty c hc] at hvisible
    · rintro ⟨c, hc, hquote⟩
      exact hother c (by simp at hquote ⊢; tauto) hc
    · exact hother ';' (by simp)
    · rintro ⟨part, hpart, hoccurs⟩
      simp only [List.mem_cons, List.not_mem_nil, or_false] at hpart
      rcases hpart with rfl | rfl | rfl
      · exact hother '-' (by simp) (hoccurs.subset (by decide))
      · exact hother '/' (by simp) (hoccurs.subset (by decide))
      · exact hother '/' (by simp) (hoccurs.subset (by decide))
    · rintro ⟨c, hc, hname⟩
      exact hname (h.chars c hc)
    · exact h.no_keyword

theorem identifierFault?_eq_none : identifierFault? cs = none ↔ IsName cs := by
  rw [← forall_not_breaks_iff]
  have hspec := identifierFault?_spec cs
  cases hfault : identifierFault? cs with
  | none => simpa [hfault] using hspec
  | some fault =>
    rw [hfault] at hspec
    simpa using ⟨fault, hspec.broken⟩

theorem isName_iff_accepted {name : String} : IsName name.toList ↔ Accepted name := by
  rw [accepted_iff, identifierFault?_eq_none]

/-! ### Joined names -/

theorem hasKeyword_iff_any :
    HasKeyword cs ↔ (identifierWords cs).any isForbidden = true :=
  hasKeyword_iff.trans any_isForbidden_iff.symm

/-- Separators make up no words. -/
theorem any_isForbidden_separated {sep : List Char} (hsep : ∀ c ∈ sep, isWordPart c = false)
    (cs : List Char) :
    (identifierWords (sep ++ cs)).any isForbidden = (identifierWords cs).any isForbidden := by
  induction sep with
  | nil => rfl
  | cons c sep ih =>
    obtain ⟨hc, hsep⟩ := List.forall_mem_cons.1 hsep
    rw [List.cons_append, identifierWords_cons_of_not_isWordPart hc, List.any_cons, ih hsep]
    rfl

/-- A keyword of the whole is a keyword of one of the parts. -/
theorem hasKeyword_append {as sep bs : List Char} (hne : sep ≠ [])
    (hsep : ∀ c ∈ sep, isWordPart c = false) :
    HasKeyword (as ++ sep ++ bs) ↔ HasKeyword as ∨ HasKeyword bs := by
  obtain ⟨c, sep, rfl⟩ := List.exists_cons_of_ne_nil hne
  obtain ⟨hc, hsep⟩ := List.forall_mem_cons.1 hsep
  simp only [hasKeyword_iff_any]
  rw [List.append_assoc, List.cons_append, identifierWords_append_cons hc, List.any_append,
    any_isForbidden_separated hsep, Bool.or_eq_true]

/-- What may stand between names: characters of names that are no part of words. -/
structure IsSeparator (sep : List Char) : Prop where
  ne_nil : sep ≠ []
  chars : ∀ c ∈ sep, isAllowed c = true ∧ isWordPart c = false

theorem isSeparator_iff {sep : List Char} :
    IsSeparator sep ↔ sep ≠ [] ∧ sep.all (fun c => isAllowed c && !isWordPart c) = true := by
  simp only [List.all_eq_true, Bool.and_eq_true, Bool.not_eq_true']
  exact ⟨fun h => ⟨h.1, h.2⟩, fun h => ⟨h.1, h.2⟩⟩

instance (sep : List Char) : Decidable (IsSeparator sep) :=
  decidable_of_iff _ isSeparator_iff.symm

theorem IsName.append {as sep bs : List Char} (ha : IsName as) (hsep : IsSeparator sep)
    (hb : IsName bs) : IsName (as ++ sep ++ bs) where
  visible := by
    obtain ⟨c, hc, hvisible⟩ := ha.visible
    exact ⟨c, by simp [hc], hvisible⟩
  chars := by
    intro c hc
    rcases List.mem_append.1 hc with hc | hc
    · rcases List.mem_append.1 hc with hc | hc
      · exact ha.chars c hc
      · exact isAllowed_iff.1 (hsep.chars c hc).1
    · exact hb.chars c hc
  no_keyword := by
    rw [hasKeyword_append hsep.ne_nil fun c hc => (hsep.chars c hc).2, not_or]
    exact ⟨ha.no_keyword, hb.no_keyword⟩

theorem accepted_intercalate {sep : String} (hsep : IsSeparator sep.toList) {name : String}
    {names : List String} (h : ∀ n ∈ name :: names, Accepted n) :
    Accepted (sep.intercalate (name :: names)) := by
  induction names generalizing name with
  | nil => simpa using h name (by simp)
  | cons next names ih =>
    obtain ⟨hname, hnames⟩ := List.forall_mem_cons.1 h
    have hjoined := (isName_iff_accepted.2 hname).append hsep (isName_iff_accepted.2 (ih hnames))
    rw [← isName_iff_accepted, String.intercalate_cons_cons]
    simpa using hjoined

/-! ### The check -/

/-- **The check accepts the names of the grammar**, and reports of any other text the first rule it
breaks. Accepted names joined by commas, spaces or dots are accepted. -/
theorem checkIdentifier_decides :
    (∀ name : String, (checkIdentifier name = .ok () ↔ IsName name.toList) ∧
      ∀ why, checkIdentifier name = .error why ↔
        why.identifier = name ∧ BreaksFirst name.toList why.fault) ∧
    ∀ sep ∈ [", ", " ", "."], ∀ names : List String, names ≠ [] →
      (∀ name ∈ names, checkIdentifier name = .ok ()) →
      checkIdentifier (sep.intercalate names) = .ok () := by
  refine ⟨fun name => ⟨isName_iff_accepted.symm, fun why => ?_⟩, fun sep hsep names hne h => ?_⟩
  · rw [← identifierFault?_eq_some, checkIdentifier]
    obtain ⟨identifier, fault⟩ := why
    cases identifierFault? name.toList with
    | none => simp
    | some found => simp [eq_comm]
  · obtain ⟨name, names, rfl⟩ := List.exists_cons_of_ne_nil hne
    have hall : ∀ sep ∈ [", ", " ", "."], IsSeparator sep.toList := by decide
    exact accepted_intercalate (hall sep hsep) h

/-- Columns whose names hold keywords within words, in one list. -/
theorem checkIdentifier_decides_columns :
    (∀ name ∈ ["updated_at", "COUNT(*)", "posts.executed"], checkIdentifier name = .ok ()) ∧
      checkIdentifier (", ".intercalate ["updated_at", "COUNT(*)", "posts.executed"]) = .ok () := by
  have hnames : ∀ name ∈ ["updated_at", "COUNT(*)", "posts.executed"],
      checkIdentifier name = .ok () := by
    decide +kernel
  exact ⟨hnames, checkIdentifier_decides.2 ", " (by simp) _ (by simp) hnames⟩

end EntityGraph.Sql
