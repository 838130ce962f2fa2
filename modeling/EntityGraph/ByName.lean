/-!
# Tables by name

Values under names, in alphabetical order of the names. Every name stands once, so a table is
determined by what it holds under each name.
-/

namespace EntityGraph

/-- The entries with the value of one name replaced, or added at its place. -/
def upsert {α : Type} (name : String) (f : Option α → α) :
    List (String × α) → List (String × α)
  | [] => [(name, f none)]
  | (k, v) :: rest =>
    if name < k then (name, f none) :: (k, v) :: rest
    else if name = k then (name, f (some v)) :: rest
    else (k, v) :: upsert name f rest

theorem mem_upsert {α : Type} {name : String} {f : Option α → α} {l : List (String × α)}
    {p : String × α} (h : p ∈ upsert name f l) : p.1 = name ∨ p ∈ l := by
  induction l with
  | nil => simp [upsert] at h; simp [h]
  | cons q rest ih =>
    obtain ⟨k, v⟩ := q
    simp only [upsert] at h
    split at h
    · grind
    · split at h <;> grind

theorem pairwise_upsert {α : Type} {name : String} {f : Option α → α} {l : List (String × α)}
    (h : l.Pairwise fun a b => a.1 < b.1) : (upsert name f l).Pairwise fun a b => a.1 < b.1 := by
  induction l with
  | nil => simp [upsert]
  | cons q rest ih =>
    obtain ⟨k, v⟩ := q
    obtain ⟨hk, hrest⟩ := List.pairwise_cons.1 h
    simp only [upsert]
    split
    · next hlt =>
      refine List.pairwise_cons.2 ⟨fun p hp => ?_, h⟩
      rcases List.mem_cons.1 hp with rfl | hp
      · exact hlt
      · exact String.lt_trans hlt (hk p hp)
    · next hlt =>
      split
      · next heq =>
        subst heq
        exact List.pairwise_cons.2 ⟨hk, hrest⟩
      · next hne =>
        refine List.pairwise_cons.2 ⟨fun p hp => ?_, ih hrest⟩
        rcases mem_upsert hp with hp | hp
        · have hle := String.not_lt.1 hlt
          rw [hp]
          exact Std.lt_of_le_of_ne hle fun h => hne h.symm
        · exact hk p hp

structure ByName (α : Type) where
  entries : List (String × α) := []
  ordered : entries.Pairwise fun a b => a.1 < b.1 := by simp

namespace ByName

variable {α : Type}

def empty : ByName α := {}

def get? (t : ByName α) (name : String) : Option α := t.entries.lookup name

def contains (t : ByName α) (name : String) : Bool := (t.get? name).isSome

/-- Changes the value of a name, which may have none yet. -/
def update (t : ByName α) (name : String) (f : Option α → α) : ByName α :=
  ⟨upsert name f t.entries, pairwise_upsert t.ordered⟩

/-- Puts a value under a name in place of any other. -/
def insert (t : ByName α) (name : String) (value : α) : ByName α := t.update name fun _ => value

def names (t : ByName α) : List String := t.entries.map Prod.fst

def size (t : ByName α) : Nat := t.entries.length

def isEmpty (t : ByName α) : Bool := t.entries.isEmpty

/-! ## Laws -/

theorem lookup_upsert (name : String) (f : Option α → α) (l : List (String × α))
    (h : l.Pairwise fun a b => a.1 < b.1) (other : String) :
    (upsert name f l).lookup other =
      if other = name then some (f (l.lookup name)) else l.lookup other := by
  induction l with
  | nil => grind [upsert]
  | cons q rest ih =>
    obtain ⟨k, v⟩ := q
    obtain ⟨hk, hrest⟩ := List.pairwise_cons.1 h
    simp only [upsert]
    split
    · next hlt =>
      have hnone : ((k, v) :: rest).lookup name = none := by
        rw [List.lookup_eq_none_iff]
        rintro p hp
        rw [bne_iff_ne]
        rintro rfl
        rcases List.mem_cons.1 hp with rfl | hp
        · exact String.lt_irrefl _ hlt
        · exact String.lt_asymm hlt (hk p hp)
      grind
    · split <;> grind

@[simp] theorem get?_update (t : ByName α) (name : String) (f : Option α → α) (other : String) :
    (t.update name f).get? other = if other = name then some (f (t.get? name)) else t.get? other :=
  lookup_upsert name f t.entries t.ordered other

@[simp] theorem get?_insert (t : ByName α) (name : String) (value : α) (other : String) :
    (t.insert name value).get? other = if other = name then some value else t.get? other :=
  t.get?_update name _ other

theorem get?_of_mem {t : ByName α} {p : String × α} (h : p ∈ t.entries) :
    t.get? p.1 = some p.2 := by
  obtain ⟨entries, hordered⟩ := t
  unfold get?
  induction entries with
  | nil => cases h
  | cons q rest ih =>
    obtain ⟨hq, hrest⟩ := List.pairwise_cons.1 hordered
    rw [List.lookup_cons]
    rcases List.mem_cons.1 h with rfl | h
    · rw [beq_self_eq_true]
    · have hne : p.1 ≠ q.1 := fun heq => String.lt_irrefl q.1 (heq ▸ hq p h)
      rw [beq_eq_false_iff_ne.2 hne]
      exact ih hrest h

@[simp] theorem get?_empty (name : String) : (empty : ByName α).get? name = none := rfl

end ByName

end EntityGraph
