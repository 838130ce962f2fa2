import Mathlib.Data.List.Induction
import Mathlib.Data.List.Nodup

/-!
# Lists

Registers, batches and siblings are lists to which one element after the other is added, with its
repetitions or without; indexes are lists of keys with what is held under them.
-/

namespace EntityGraph

theorem getElem?_concat_eq_some {α : Type} {l : List α} {a b : α} {i : Nat} :
    (l ++ [a])[i]? = some b ↔ l[i]? = some b ∨ i = l.length ∧ a = b := by
  rcases Nat.lt_trichotomy i l.length with h | h | h
  · simp [List.getElem?_append_left h, Nat.ne_of_lt h]
  · subst h
    simp
  · rw [List.getElem?_eq_none (by simpa using Nat.succ_le_of_lt h),
      List.getElem?_eq_none (Nat.le_of_lt h)]
    simp [Nat.ne_of_gt h]

theorem min?_concat (limits : List Nat) (limit : Nat) :
    (limits ++ [limit]).min? = some (limits.min?.elim limit (min · limit)) := by
  cases limits with
  | nil => rfl
  | cons d limits =>
    simp only [List.cons_append, List.min?_cons', List.foldl_append, List.foldl_cons,
      List.foldl_nil, Option.elim_some]

theorem eraseDups_concat {α : Type} [DecidableEq α] (l : List α) (a : α) :
    (l ++ [a]).eraseDups = if a ∈ l then l.eraseDups else l.eraseDups ++ [a] := by
  rw [List.eraseDups_append, List.removeAll]
  by_cases ha : a ∈ l <;> simp [ha, List.eraseDups_cons]

theorem nodup_eraseDups {α : Type} [DecidableEq α] (l : List α) : l.eraseDups.Nodup := by
  induction l using List.reverseRecOn with
  | nil => simp
  | append_singleton l a ih =>
    rw [eraseDups_concat]
    split
    · exact ih
    · next hnew =>
      rw [← List.concat_eq_append]
      exact ih.concat fun hmem => hnew (List.mem_eraseDups.1 hmem)

/-- In a table of distinct keys a key has the value it stands with. -/
theorem lookup_of_mem {κ α : Type} [DecidableEq κ] {l : List (κ × α)} (hl : (l.map Prod.fst).Nodup)
    {k : κ} {a : α} (h : (k, a) ∈ l) : l.lookup k = some a := by
  obtain ⟨before, after, rfl⟩ := List.append_of_mem h
  rw [List.map_append, List.map_cons, List.nodup_middle] at hl
  refine List.lookup_eq_some_iff.2 ⟨before, after, rfl, fun p hp => ?_⟩
  rw [bne_iff_ne]
  rintro rfl
  exact (List.nodup_cons.1 hl).1 (List.mem_append_left _ (List.mem_map.2 ⟨p, hp, rfl⟩))

/-- In a table that holds one value under each key, however often, it does not matter in which order
it was filled. -/
theorem lookup_eq_of_perm {κ α : Type} [BEq κ] [LawfulBEq κ] {l l' : List (κ × α)}
    (h : l'.Perm l) (hl : ∀ p ∈ l, ∀ q ∈ l, p.1 = q.1 → p.2 = q.2) (k : κ) :
    l'.lookup k = l.lookup k := by
  have hmem : ∀ {l : List (κ × α)} {a}, l.lookup k = some a → (k, a) ∈ l := by
    intro l a hlookup
    obtain ⟨before, after, rfl, -⟩ := List.lookup_eq_some_iff.1 hlookup
    simp
  cases hk : l.lookup k with
  | none =>
    rw [List.lookup_eq_none_iff] at hk ⊢
    exact fun p hp => hk p (h.mem_iff.1 hp)
  | some a =>
    cases hk' : l'.lookup k with
    | none =>
      have hne := List.lookup_eq_none_iff.1 hk' (k, a) (h.mem_iff.2 (hmem hk))
      simp at hne
    | some a' => exact congrArg some (hl _ (h.mem_iff.1 (hmem hk')) _ (hmem hk) rfl)

theorem lookup_eq_none {κ α : Type} [DecidableEq κ] {l : List (κ × α)} {k : κ}
    (h : ∀ p ∈ l, p.1 ≠ k) : l.lookup k = none :=
  List.lookup_eq_none_iff.2 fun p hp => bne_iff_ne.2 (h p hp).symm

end EntityGraph
