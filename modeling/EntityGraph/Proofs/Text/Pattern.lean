import EntityGraph.Text.Pattern
import Mathlib.Data.List.Forall2

/-!
# What patterns match

A pattern matches a part of a text between what stands before it and what stands after it
(`Pattern.Matches`). The search for a pattern visits one place after the other and collects where
the pattern leads from there; it finds the pattern just if a part of the text is matched
(`found_iff`).
-/

namespace EntityGraph.Text.Pattern

/-- The pattern matches the part between `before` and `after`. -/
def Matches : Pattern → (before part after : List Char) → Prop
  | start, before, part, _ => part = [] ∧ before = []
  | stop, _, part, after => part = [] ∧ after = []
  | edge isPart, before, part, after =>
    part = [] ∧ isEdge isPart before.getLast? after.head? = true
  | empty, _, part, _ => part = []
  | one accepts, _, part, _ => ∃ c, part = [c] ∧ accepts c = true
  | many accepts, _, part, _ => part ≠ [] ∧ ∀ c ∈ part, accepts c = true
  | seq first second, before, part, after => ∃ left right, part = left ++ right ∧
      first.Matches before left (right ++ after) ∧ second.Matches (before ++ left) right after
  | either first second, before, part, after =>
    first.Matches before part after ∨ second.Matches before part after

/-! ### Where a pattern leads -/

theorem mem_ite_singleton {b : Bool} {place here : Place} :
    place ∈ (if b then [here] else []) ↔ b = true ∧ place = here := by
  cases b <;> simp

/-- An empty part leads nowhere else. -/
theorem exists_empty_part {P : Prop} {before cs : List Char} {place : Place} :
    (∃ part : List Char, (part = [] ∧ P) ∧ cs = part ++ place.after ∧
        place.before = part.reverse ++ before) ↔ P ∧ place = ⟨before, cs⟩ := by
  obtain ⟨before', after'⟩ := place
  constructor
  · rintro ⟨_, ⟨rfl, hP⟩, hcs, hbefore⟩
    exact ⟨hP, by simpa using ⟨hbefore, hcs.symm⟩⟩
  · rintro ⟨hP, heq⟩
    obtain ⟨rfl, rfl⟩ := Place.mk.inj heq
    exact ⟨[], ⟨rfl, hP⟩, rfl, rfl⟩

theorem mem_oneEnds {accepts : Char → Bool} {before cs : List Char} {place : Place} :
    place ∈ oneEnds accepts before cs ↔
      ∃ c, accepts c = true ∧ cs = c :: place.after ∧ place.before = c :: before := by
  cases cs with
  | nil => simp [oneEnds]
  | cons c cs =>
    obtain ⟨before', after'⟩ := place
    rw [oneEnds]
    by_cases hc : accepts c = true
    · rw [if_pos hc]
      simp only [List.mem_singleton, Place.mk.injEq, List.cons.injEq]
      exact ⟨fun ⟨hb, ha⟩ => ⟨c, hc, ⟨rfl, ha.symm⟩, hb⟩, by
        rintro ⟨_, -, ⟨rfl, ha⟩, hb⟩
        exact ⟨hb, ha.symm⟩⟩
    · rw [if_neg hc]
      simp only [List.not_mem_nil, List.cons.injEq, false_iff]
      rintro ⟨_, hc', ⟨rfl, -⟩, -⟩
      exact hc hc'

theorem mem_manyEnds {accepts : Char → Bool} {before cs : List Char} {place : Place} :
    place ∈ manyEnds accepts before cs ↔
      ∃ part, (part ≠ [] ∧ ∀ c ∈ part, accepts c = true) ∧ cs = part ++ place.after ∧
        place.before = part.reverse ++ before := by
  induction cs generalizing before with
  | nil =>
    simp only [manyEnds, List.not_mem_nil, false_iff]
    rintro ⟨part, ⟨hne, -⟩, happend, -⟩
    exact hne (List.append_eq_nil_iff.1 happend.symm).1
  | cons c cs ih =>
    rw [manyEnds]
    constructor
    · intro hmem
      split at hmem
      · next hc =>
        rcases List.mem_cons.1 hmem with rfl | hmem
        · exact ⟨[c], ⟨by simp, by simpa using hc⟩, rfl, rfl⟩
        · obtain ⟨part, ⟨-, hall⟩, hcs, hbefore⟩ := ih.1 hmem
          exact ⟨c :: part, ⟨by simp, List.forall_mem_cons.2 ⟨hc, hall⟩⟩, by simp [hcs],
            by simp [hbefore]⟩
      · simp at hmem
    · rintro ⟨part, ⟨hne, hall⟩, hcs, hbefore⟩
      obtain ⟨d, part, rfl⟩ := List.exists_cons_of_ne_nil hne
      obtain ⟨rfl, hrest⟩ : c = d ∧ cs = part ++ place.after := by simpa using hcs
      obtain ⟨hc, hall⟩ := List.forall_mem_cons.1 hall
      rw [if_pos hc, List.mem_cons]
      rcases part with _ | ⟨e, part⟩
      · left
        obtain ⟨before', after'⟩ := place
        simp_all
      · right
        exact ih.2 ⟨e :: part, ⟨by simp, hall⟩, hrest, by simpa using hbefore⟩

/-- A pattern leads to the places that come after a part it matches. -/
theorem mem_ends {p : Pattern} {before cs : List Char} {place : Place} :
    place ∈ p.ends ⟨before, cs⟩ ↔
      ∃ part, p.Matches before.reverse part place.after ∧ cs = part ++ place.after ∧
        place.before = part.reverse ++ before := by
  induction p generalizing before cs place with
  | start =>
    simp only [Matches, exists_empty_part]
    rw [ends, mem_ite_singleton, List.isEmpty_iff, List.reverse_eq_nil_iff]
  | stop =>
    simp only [Matches, exists_empty_part]
    rw [ends, mem_ite_singleton, List.isEmpty_iff]
    exact and_congr_left fun (h : place = ⟨before, cs⟩) => by rw [h]
  | edge isPart =>
    simp only [Matches, exists_empty_part, List.getLast?_reverse]
    rw [ends, mem_ite_singleton]
    exact and_congr_left fun (h : place = ⟨before, cs⟩) => by rw [h]
  | empty =>
    have hpart : _ ↔ True ∧ place = ⟨before, cs⟩ := exists_empty_part
    simpa only [ends, List.mem_singleton, Matches, and_true, true_and] using hpart.symm
  | one accepts => 
    simp only [ends, mem_oneEnds, Matches]
    constructor
    · rintro ⟨c, hc, hcs, hbefore⟩
      exact ⟨[c], ⟨c, rfl, hc⟩, hcs, hbefore⟩
    · rintro ⟨_, ⟨c, rfl, hc⟩, hcs, hbefore⟩
      exact ⟨c, hc, hcs, hbefore⟩
  | many accepts => exact mem_manyEnds
  | seq first second ihf ihs =>
    simp only [ends, List.mem_flatMap, Matches]
    constructor
    · rintro ⟨⟨middle, rest⟩, hfirst, hsecond⟩
      obtain ⟨left, hleft, hcs, hmiddle⟩ := ihf.1 hfirst
      obtain ⟨right, hright, hrest, hbefore⟩ := ihs.1 hsecond
      simp only at hcs hmiddle
      subst hcs hmiddle hrest
      exact ⟨left ++ right, ⟨left, right, rfl, hleft, by simpa using hright⟩, by simp,
        by simpa using hbefore⟩
    · rintro ⟨_, ⟨left, right, rfl, hleft, hright⟩, hcs, hbefore⟩
      exact ⟨⟨left.reverse ++ before, right ++ place.after⟩,
        ihf.2 ⟨left, hleft, by simpa using hcs, rfl⟩,
        ihs.2 ⟨right, by simpa using hright, rfl, by simpa using hbefore⟩⟩
  | either first second ihf ihs =>
    simp only [ends, List.mem_append, ihf, ihs, Matches, or_and_right, exists_or]

/-! ### Looking for a pattern -/

theorem leads_iff {p : Pattern} {before cs : List Char} :
    (!(p.ends ⟨before, cs⟩).isEmpty) = true ↔
      ∃ part after, cs = part ++ after ∧ p.Matches before.reverse part after := by
  rw [Bool.not_eq_true', List.isEmpty_eq_false_iff_exists_mem]
  constructor
  · rintro ⟨place, hplace⟩
    obtain ⟨part, hmatches, hcs, -⟩ := mem_ends.1 hplace
    exact ⟨part, place.after, hcs, hmatches⟩
  · rintro ⟨part, after, hcs, hmatches⟩
    exact ⟨⟨part.reverse ++ before, after⟩, mem_ends.2 ⟨part, hmatches, hcs, rfl⟩⟩

theorem foundFrom_iff {p : Pattern} {before cs : List Char} :
    p.foundFrom before cs = true ↔ ∃ passed part after, cs = passed ++ (part ++ after) ∧
      p.Matches (before.reverse ++ passed) part after := by
  induction cs generalizing before with
  | nil =>
    rw [foundFrom, leads_iff]
    constructor
    · rintro ⟨part, after, hcs, hmatches⟩
      exact ⟨[], part, after, hcs, by simpa using hmatches⟩
    · rintro ⟨passed, part, after, hcs, hmatches⟩
      obtain ⟨rfl, hrest⟩ := List.append_eq_nil_iff.1 hcs.symm
      exact ⟨part, after, hrest.symm, by simpa using hmatches⟩
  | cons c cs ih =>
    rw [foundFrom, Bool.or_eq_true, leads_iff, ih]
    constructor
    · rintro (⟨part, after, hcs, hmatches⟩ | ⟨passed, part, after, rfl, hmatches⟩)
      · exact ⟨[], part, after, hcs, by simpa using hmatches⟩
      · exact ⟨c :: passed, part, after, rfl, by simpa using hmatches⟩
    · rintro ⟨passed, part, after, hcs, hmatches⟩
      rcases passed with _ | ⟨d, passed⟩
      · exact .inl ⟨part, after, hcs, by simpa using hmatches⟩
      · obtain ⟨rfl, hrest⟩ := List.cons.inj hcs
        exact .inr ⟨passed, part, after, hrest, by simpa using hmatches⟩

/-- A pattern is found just if a part of the text is matched. -/
theorem found_iff {p : Pattern} {cs : List Char} :
    p.found cs = true ↔ ∃ before part after, cs = before ++ (part ++ after) ∧
      p.Matches before part after :=
  foundFrom_iff

/-! ### Words -/

theorem matches_word {word before part after : List Char} :
    (Pattern.word word).Matches before part after ↔
      List.Forall₂ (fun k c => isLetter k c = true) word part := by
  induction word generalizing before part with
  | nil => simp [Pattern.word, Matches]
  | cons k word ih =>
    simp only [Pattern.word, Matches, ih, List.forall₂_cons_left_iff]
    constructor
    · rintro ⟨_, right, rfl, ⟨c, rfl, hc⟩, hright⟩
      exact ⟨c, right, hc, hright, rfl⟩
    · rintro ⟨c, right, hc, hright, rfl⟩
      exact ⟨[c], right, rfl, ⟨c, rfl, hc⟩, hright⟩

theorem matches_oneOf {ps : List Pattern} {before part after : List Char} :
    (oneOf ps).Matches before part after ↔ ∃ p ∈ ps, p.Matches before part after := by
  induction ps with
  | nil => simp [oneOf, Matches]
  | cons p ps ih => simp [oneOf, Matches, ih]

end EntityGraph.Text.Pattern
