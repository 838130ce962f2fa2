import EntityGraph.Proofs.Sql.Truth
import Mathlib.Data.List.Infix

/-!
# Substring filters

The filters for parts of a text paste the part that is looked for into a pattern, where `%` and `_`
keep their meaning. So they look for what the part stands for as a pattern; this is the part itself,
in any letter case, just if it holds neither of the two (`filter_like`).
-/

namespace EntityGraph.Sql

/-- Whether a text matches a pattern: `%` stands for any characters, `_` for any one character, and
all others for themselves in any case of ASCII. No character escapes another. -/
def matchesLike : (pattern text : List Char) → Bool
  | [], text => text.isEmpty
  | p :: pattern, text =>
    if p = '%' then text.tails.any (matchesLike pattern)
    else
      match text with
      | [] => false
      | c :: text => (p = '_' || p.toLower = c.toLower) && matchesLike pattern text

/-- A text without the difference of upper and lower case in ASCII. -/
def folded (cs : List Char) : List Char := cs.map Char.toLower

/-- The dialect matches texts in the way of SQL. -/
def Dialect.MatchesTexts (d : Dialect) : Prop :=
  ∀ text pattern : String,
    d.isLike (.text text) (.text pattern) = matchesLike pattern.toList text.toList

/-- Where a part is looked for. -/
inductive Anchor where
  | anywhere
  | front
  | back
  deriving DecidableEq, Repr

namespace Anchor

/-- The filter that looks for a part there. -/
def filter : Anchor → (field part : String) → Filter
  | anywhere => Filter.contains
  | front => Filter.startsWith
  | back => Filter.endsWith

/-- The part stands there in a text. -/
def Holds : Anchor → (part text : List Char) → Prop
  | anywhere, part, text => part <:+: text
  | front, part, text => part <+: text
  | back, part, text => part <:+ text

instance : (a : Anchor) → (part text : List Char) → Decidable (a.Holds part text)
  | anywhere, part, text => inferInstanceAs (Decidable (part <:+: text))
  | front, part, text => inferInstanceAs (Decidable (part <+: text))
  | back, part, text => inferInstanceAs (Decidable (part <:+ text))

end Anchor

/-! ### Patterns -/

theorem matchesLike_nil {text : List Char} : matchesLike [] text = true ↔ text = [] := by
  simp [matchesLike]

/-- `%` takes any front of the text. -/
theorem matchesLike_many {pattern text : List Char} :
    matchesLike ('%' :: pattern) text = true ↔
      ∃ front back, text = front ++ back ∧ matchesLike pattern back = true := by
  simp only [matchesLike, if_true, List.any_eq_true, List.mem_tails]
  constructor
  · rintro ⟨back, ⟨front, rfl⟩, hback⟩
    exact ⟨front, back, rfl, hback⟩
  · rintro ⟨front, back, rfl, hback⟩
    exact ⟨back, ⟨front, rfl⟩, hback⟩

/-- Any other character takes one character. -/
theorem matchesLike_one {p : Char} (hp : p ≠ '%') {pattern text : List Char} :
    matchesLike (p :: pattern) text = true ↔ ∃ c rest, text = c :: rest ∧
      (p = '_' ∨ p.toLower = c.toLower) ∧ matchesLike pattern rest = true := by
  cases text with
  | nil => simp [matchesLike, hp]
  | cons c rest => simp [matchesLike, hp]

/-- A pattern that is put together from two matches what is put together from their matches. -/
theorem matchesLike_append {p q text : List Char} :
    matchesLike (p ++ q) text = true ↔
      ∃ front back, text = front ++ back ∧ matchesLike p front = true ∧
        matchesLike q back = true := by
  induction p generalizing text with
  | nil => simp [matchesLike_nil]
  | cons c p ih =>
    rw [List.cons_append]
    by_cases hc : c = '%'
    · subst hc
      simp only [matchesLike_many, ih]
      constructor
      · rintro ⟨taken, _, rfl, front, back, rfl, hp, hq⟩
        exact ⟨taken ++ front, back, by simp, ⟨taken, front, rfl, hp⟩, hq⟩
      · rintro ⟨_, back, rfl, ⟨taken, front, rfl, hp⟩, hq⟩
        exact ⟨taken, front ++ back, by simp, front, back, rfl, hp, hq⟩
    · simp only [matchesLike_one hc, ih]
      constructor
      · rintro ⟨d, _, rfl, hd, front, back, rfl, hp, hq⟩
        exact ⟨d :: front, back, rfl, ⟨d, front, rfl, hd, hp⟩, hq⟩
      · rintro ⟨_, back, rfl, ⟨d, front, rfl, hd, hp⟩, hq⟩
        exact ⟨d, front ++ back, rfl, hd, front, back, rfl, hp, hq⟩

theorem matchesLike_any (text : List Char) : matchesLike ['%'] text = true :=
  matchesLike_many.2 ⟨text, [], by simp, rfl⟩

/-- A pattern matches itself in any case: each wildcard may stand for itself. -/
theorem matchesLike_of_folded {pattern text : List Char} (h : folded text = folded pattern) :
    matchesLike pattern text = true := by
  induction pattern generalizing text with
  | nil => simpa [matchesLike_nil, folded] using h
  | cons p pattern ih =>
    obtain ⟨c, rest, rfl, hc, hrest⟩ := List.map_eq_cons_iff.1 h
    by_cases hp : p = '%'
    · subst hp
      exact matchesLike_many.2 ⟨[c], rest, rfl, ih hrest⟩
    · exact (matchesLike_one hp).2 ⟨c, rest, rfl, .inr hc.symm, ih hrest⟩

/-- Without wildcards it matches nothing else. -/
theorem folded_of_matchesLike {pattern text : List Char} (hmany : '%' ∉ pattern)
    (hone : '_' ∉ pattern) (h : matchesLike pattern text = true) :
    folded text = folded pattern := by
  induction pattern generalizing text with
  | nil => rw [matchesLike_nil.1 h]
  | cons p pattern ih =>
    obtain ⟨hp, hmany⟩ := List.ne_and_not_mem_of_not_mem_cons hmany
    obtain ⟨hp', hone⟩ := List.ne_and_not_mem_of_not_mem_cons hone
    obtain ⟨c, rest, rfl, hc, hrest⟩ := (matchesLike_one hp.symm).1 h
    have hfold : p.toLower = c.toLower := hc.resolve_left hp'.symm
    simp only [folded, List.map_cons, hfold, List.cons.injEq, true_and]
    exact ih hmany hone hrest

/-! ### Texts without wildcards -/

/-- A text that matches a pattern and holds none of its wildcards. -/
def unlike (pattern : List Char) : List Char :=
  (pattern.filter (· ≠ '%')).map fun c => if c = '_' then 'x' else c

theorem matchesLike_unlike (pattern : List Char) :
    matchesLike pattern (unlike pattern) = true := by
  induction pattern with
  | nil => rfl
  | cons p pattern ih =>
    by_cases hp : p = '%'
    · subst hp
      exact matchesLike_many.2 ⟨[], unlike pattern, by simp [unlike], ih⟩
    · refine (matchesLike_one hp).2 ⟨if p = '_' then 'x' else p, unlike pattern, ?_, ?_, ih⟩
      · simp [unlike, hp]
      · by_cases hone : p = '_'
        · exact .inl hone
        · exact .inr (by rw [if_neg hone])

/-- Only letters are folded. -/
theorem eq_of_toLower_eq {c w : Char} (hw : w = '%' ∨ w = '_') (h : c.toLower = w) : c = w := by
  unfold Char.toLower at h
  split at h
  · next hupper =>
    have hlow : 65 ≤ c.val.toNat := hupper.1
    have hhigh : c.val.toNat ≤ 90 := hupper.2
    have hval : (c.val.toNat + 32) % 4294967296 = w.val.toNat := by
      rw [← h]
      exact (UInt32.toNat_add c.val 32).symm
    rcases hw with rfl | rfl
    · have hcode : ('%' : Char).val.toNat = 37 := rfl
      omega
    · have hcode : ('_' : Char).val.toNat = 95 := rfl
      omega
  · exact h

theorem notMem_folded_unlike {w : Char} (hw : w = '%' ∨ w = '_') (pattern : List Char) :
    w ∉ folded (unlike pattern) := by
  intro hmem
  obtain ⟨c, hc, hfold⟩ := List.mem_map.1 hmem
  obtain rfl := eq_of_toLower_eq hw hfold
  obtain ⟨p, hp, heq⟩ := List.mem_map.1 hc
  have hmany : p ≠ '%' := by simpa using (List.mem_filter.1 hp).2
  split at heq
  · subst heq
    simp at hw
  · next hone =>
    subst heq
    exact hw.elim hmany hone

/-! ### Filters -/

namespace Anchor

variable {a : Anchor} {part text : List Char}

/-- What may stand around a part that is looked for there. -/
def Allows : Anchor → (before after : List Char) → Prop
  | anywhere, _, _ => True
  | front, before, _ => before = []
  | back, _, after => after = []

theorem holds_iff :
    a.Holds part text ↔
      ∃ before after, text = before ++ (part ++ after) ∧ a.Allows before after := by
  cases a with
  | anywhere => simp [Holds, Allows, List.IsInfix, eq_comm]
  | front =>
    constructor
    · rintro ⟨after, rfl⟩
      exact ⟨[], after, rfl, rfl⟩
    · rintro ⟨_, after, rfl, rfl⟩
      exact ⟨after, rfl⟩
  | back =>
    constructor
    · rintro ⟨before, rfl⟩
      exact ⟨before, [], by simp, rfl⟩
    · rintro ⟨before, _, rfl, rfl⟩
      exact ⟨before, by simp⟩

theorem Holds.subset (h : a.Holds part text) : part ⊆ text := by
  obtain ⟨before, after, rfl, -⟩ := holds_iff.1 h
  simp

theorem holds_refl (a : Anchor) (text : List Char) : a.Holds text text :=
  holds_iff.2 ⟨[], [], by simp, by cases a <;> trivial⟩

theorem allows_folded {before after : List Char} :
    a.Allows (folded before) (folded after) ↔ a.Allows before after := by
  cases a <;> simp [Allows, folded]

/-- A part is found in any case just if it is found in one. -/
theorem holds_folded_iff :
    a.Holds (folded part) (folded text) ↔
      ∃ found, a.Holds found text ∧ folded found = folded part := by
  simp only [holds_iff]
  constructor
  · rintro ⟨_, _, htext, hallows⟩
    obtain ⟨before, rest, rfl, rfl, hrest⟩ := List.map_eq_append_iff.1 htext
    obtain ⟨found, after, rfl, hfound, rfl⟩ := List.map_eq_append_iff.1 hrest
    exact ⟨found, ⟨before, after, rfl, allows_folded.1 hallows⟩, hfound⟩
  · rintro ⟨found, ⟨before, after, rfl, hallows⟩, hfound⟩
    refine ⟨folded before, folded after, ?_, allows_folded.2 hallows⟩
    rw [← hfound]
    simp [folded]

/-- The filter is a pattern that matches where the part does as a pattern. -/
theorem exists_pattern (a : Anchor) (field part : String) : ∃ pattern : String,
    a.filter field part = .like field pattern ∧ ∀ text, matchesLike pattern.toList text = true ↔
      ∃ found, a.Holds found text ∧ matchesLike part.toList found = true := by
  have hfront : ∀ text, matchesLike (part.toList ++ ['%']) text = true ↔
      ∃ found after, text = found ++ after ∧ matchesLike part.toList found = true := by
    simp [matchesLike_append, matchesLike_any]
  cases a with
  | anywhere =>
    refine ⟨"%" ++ part ++ "%", rfl, fun text => ?_⟩
    have hpattern : ("%" ++ part ++ "%").toList = '%' :: (part.toList ++ ['%']) := by simp
    rw [hpattern, matchesLike_many]
    constructor
    · rintro ⟨before, _, rfl, hrest⟩
      obtain ⟨found, after, rfl, hfound⟩ := (hfront _).1 hrest
      exact ⟨found, holds_iff.2 ⟨before, after, rfl, trivial⟩, hfound⟩
    · rintro ⟨found, hholds, hfound⟩
      obtain ⟨before, after, rfl, -⟩ := holds_iff.1 hholds
      exact ⟨before, found ++ after, rfl, (hfront _).2 ⟨found, after, rfl, hfound⟩⟩
  | front =>
    refine ⟨part ++ "%", rfl, fun text => ?_⟩
    have hpattern : (part ++ "%").toList = part.toList ++ ['%'] := by simp
    rw [hpattern, hfront]
    constructor
    · rintro ⟨found, after, rfl, hfound⟩
      exact ⟨found, ⟨after, rfl⟩, hfound⟩
    · rintro ⟨found, ⟨after, rfl⟩, hfound⟩
      exact ⟨found, after, rfl, hfound⟩
  | back =>
    refine ⟨"%" ++ part, rfl, fun text => ?_⟩
    have hpattern : ("%" ++ part).toList = '%' :: part.toList := by simp
    rw [hpattern, matchesLike_many]
    constructor
    · rintro ⟨before, found, rfl, hfound⟩
      exact ⟨found, ⟨before, rfl⟩, hfound⟩
    · rintro ⟨found, ⟨before, rfl⟩, hfound⟩
      exact ⟨before, found, rfl, hfound⟩

/-- **A substring filter looks for what the part stands for as a pattern.** It binds one pattern. A
text matches just if what stands at the place in question matches the part, so it matches wherever
the part itself stands there in any case; and it matches nowhere else just if the part holds no
wildcard. -/
theorem filter_like (a : Anchor) (field part : String) : ∃ pattern : String,
    (a.filter field part).params = [.text pattern] ∧
    (∀ text, matchesLike pattern.toList text = true ↔
      ∃ found, a.Holds found text ∧ matchesLike part.toList found = true) ∧
    (∀ text, a.Holds (folded part.toList) (folded text) →
      matchesLike pattern.toList text = true) ∧
    ((∀ text, matchesLike pattern.toList text = true ↔
        a.Holds (folded part.toList) (folded text)) ↔ '%' ∉ part.toList ∧ '_' ∉ part.toList) ∧
    ∀ (d : Dialect) (row : Columns) (text : String), d.MatchesTexts → row field = .text text →
      ((a.filter field part).truth d row = .holds ↔
        matchesLike pattern.toList text.toList = true) := by
  obtain ⟨pattern, hfilter, hpattern⟩ := a.exists_pattern field part
  have hfinds : ∀ text, a.Holds (folded part.toList) (folded text) →
      matchesLike pattern.toList text = true := by
    intro text hholds
    obtain ⟨found, hfound, hfold⟩ := holds_folded_iff.1 hholds
    exact (hpattern text).2 ⟨found, hfound, matchesLike_of_folded hfold⟩
  refine ⟨pattern, by simp [hfilter, Filter.params], hpattern, hfinds, ⟨fun h => ?_, ?_⟩, ?_⟩
  · have hmatches : matchesLike pattern.toList (unlike part.toList) = true :=
      (hpattern _).2 ⟨_, a.holds_refl _, matchesLike_unlike _⟩
    have hsubset := ((h _).1 hmatches).subset
    have hnone : ∀ w, w = '%' ∨ w = '_' → w ∉ part.toList := by
      intro w hw hmem
      have hfold : w.toLower = w := by rcases hw with rfl | rfl <;> rfl
      have hfolded : w ∈ folded part.toList := List.mem_map.2 ⟨w, hmem, hfold⟩
      exact notMem_folded_unlike hw part.toList (hsubset hfolded)
    exact ⟨hnone '%' (.inl rfl), hnone '_' (.inr rfl)⟩
  · rintro ⟨hmany, hone⟩ text
    refine ⟨fun hmatches => ?_, hfinds text⟩
    obtain ⟨found, hfound, hmatch⟩ := (hpattern text).1 hmatches
    exact holds_folded_iff.2 ⟨found, hfound, folded_of_matchesLike hmany hone hmatch⟩
  · intro d row text hd hrow
    rw [hfilter, Filter.truth, hrow, Dialect.like, hd]
    cases matchesLike pattern.toList text.toList <;> simp [Value.isNull, Truth.ofBool]

end Anchor

/-- Integers are compared as numbers, and texts are matched as in SQL. -/
def Dialect.matching : Dialect :=
  { Dialect.simple with
    isLike := fun
      | .text text, .text pattern => matchesLike pattern.toList text.toList
      | _, _ => false }

namespace Anchor

theorem filter_like_contains :
    let row : Columns := fun _ => .text "Joanne"
    (Filter.contains "name" "ANN").truth Dialect.matching row = .holds ∧
      (Filter.startsWith "name" "ANN").truth Dialect.matching row ≠ .holds := by
  intro row
  obtain ⟨_, -, -, hfinds, -, htruth⟩ := filter_like .anywhere "name" "ANN"
  obtain ⟨_, -, -, -, hexact, htruth'⟩ := filter_like .front "name" "ANN"
  have hmatches : Dialect.matching.MatchesTexts := fun _ _ => rfl
  refine ⟨(htruth _ row "Joanne" hmatches rfl).2 (hfinds _ (by decide)), fun h => ?_⟩
  have hmatch := (htruth' _ row "Joanne" hmatches rfl).1 h
  exact absurd ((hexact.2 (by decide) _).1 hmatch) (by decide)

/-- A part that ends with a percent sign is found where the sign does not stand. -/
theorem filter_like_percent :
    (Filter.contains "name" "100%").params = [.text "%100%%"] ∧
      matchesLike "%100%%".toList "1000".toList = true ∧
      ¬folded "100%".toList <:+: folded "1000".toList := by
  decide

end Anchor

end EntityGraph.Sql
