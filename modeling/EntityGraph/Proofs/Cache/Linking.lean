import EntityGraph.Cache.Shard
import Mathlib.Data.List.Nodup

/-!
# The links of a shard

The slots of a shard form a doubly linked list: `Threaded` says that the links, the head and the
tail follow a list of entries with the numbers of their slots. Taking an entry out and putting one
in front do to the links what they do to the list (`Threaded.unlink`, `Threaded.pushFront`), at
either end and in between.
-/

namespace EntityGraph.Cache

variable {κ ν : Type}

/-! ### Entries in order -/

/-- The numbers of the slots of some entries. -/
def numbers (order : List (Nat × κ × ν)) : List Nat := order.map Prod.fst

/-- The first slot of some entries, or else the one that comes after them. -/
def firstOr (order : List (Nat × κ × ν)) (next : Option Nat) : Option Nat :=
  (numbers order).head?.or next

/-- The last slot of some entries, or else the one that comes before them. -/
def lastOr (previous : Option Nat) (order : List (Nat × κ × ν)) : Option Nat :=
  (numbers order).getLast?.or previous

/-- Entries stand in their slots and are linked in order, between a newer and an older slot. -/
def Linked (slot? : Nat → Option (Slot κ ν)) :
    Option Nat → List (Nat × κ × ν) → Option Nat → Prop
  | _, [], _ => True
  | newer, (i, k, v) :: rest, older =>
    slot? i = some ⟨k, v, newer, firstOr rest older⟩ ∧ Linked slot? (some i) rest older

section
variable {f g : Nat → Option (Slot κ ν)} {newer older : Option Nat} {a b : List (Nat × κ × ν)}

@[simp] theorem numbers_nil : numbers ([] : List (Nat × κ × ν)) = [] := rfl

@[simp] theorem numbers_cons (x : Nat × κ × ν) (l : List (Nat × κ × ν)) :
    numbers (x :: l) = x.1 :: numbers l := rfl

@[simp] theorem numbers_append (a b : List (Nat × κ × ν)) :
    numbers (a ++ b) = numbers a ++ numbers b := List.map_append

@[simp] theorem firstOr_nil (next : Option Nat) : firstOr ([] : List (Nat × κ × ν)) next = next :=
  rfl

@[simp] theorem firstOr_cons (x : Nat × κ × ν) (l : List (Nat × κ × ν)) (next : Option Nat) :
    firstOr (x :: l) next = some x.1 := rfl

@[simp] theorem lastOr_nil (previous : Option Nat) :
    lastOr previous ([] : List (Nat × κ × ν)) = previous := rfl

theorem firstOr_append (a b : List (Nat × κ × ν)) (next : Option Nat) :
    firstOr (a ++ b) next = firstOr a (firstOr b next) := by
  cases a <;> rfl

theorem lastOr_cons (previous : Option Nat) (x : Nat × κ × ν) (l : List (Nat × κ × ν)) :
    lastOr previous (x :: l) = lastOr (some x.1) l := by
  rw [lastOr, lastOr, numbers_cons, List.getLast?_cons]
  cases (numbers l).getLast? <;> rfl

theorem linked_append : Linked f newer (a ++ b) older ↔
    Linked f newer a (firstOr b older) ∧ Linked f (lastOr newer a) b older := by
  induction a generalizing newer with
  | nil => simp [Linked]
  | cons x a ih =>
    obtain ⟨i, k, v⟩ := x
    rw [List.cons_append, Linked, Linked, ih, firstOr_append, lastOr_cons, and_assoc]

theorem Linked.congr (h : Linked f newer a older) (hfg : ∀ i ∈ numbers a, g i = f i) :
    Linked g newer a older := by
  induction a generalizing newer with
  | nil => trivial
  | cons x a ih =>
    obtain ⟨i, k, v⟩ := x
    obtain ⟨hi, ha⟩ := List.forall_mem_cons.1 hfg
    exact ⟨hi.trans h.1, ih h.2 ha⟩

/-- Linked entries stand in their slots. -/
theorem Linked.exists_slot (h : Linked f newer a older) {i : Nat} (hi : i ∈ numbers a) :
    ∃ e, f i = some e := by
  induction a generalizing newer with
  | nil => cases hi
  | cons x a ih =>
    obtain ⟨j, k, v⟩ := x
    rcases List.mem_cons.1 hi with rfl | hi
    · exact ⟨_, h.1⟩
    · exact ih h.2 hi

end

namespace Shard

/-! ### Changing links -/

variable {s : Shard κ ν} {newer older : Option Nat} {a b order : List (Nat × κ × ν)}

theorem slot?_relink (s : Shard κ ν) (i : Nat) (f : Slot κ ν → Slot κ ν) (j : Nat) :
    (s.relink i f).slot? j = if j = i then (s.slot? j).map f else s.slot? j := by
  rw [slot?, slot?, relink, List.getElem?_modify]
  by_cases h : j = i
  · subst h
    rcases s.slots[j]? with _ | _ | e <;> simp
  · rcases s.slots[j]? with _ | _ | e <;> simp [h, Ne.symm h]

theorem slot?_setOlder (s : Shard κ ν) (p o : Option Nat) (j : Nat) :
    (s.setOlder p o).slot? j =
      if p = some j then (s.slot? j).map fun e => { e with older := o } else s.slot? j := by
  cases p with
  | none => rfl
  | some i =>
    rw [setOlder, slot?_relink]
    simp only [Option.some.injEq, eq_comm]

theorem slot?_setNewer (s : Shard κ ν) (p n : Option Nat) (j : Nat) :
    (s.setNewer p n).slot? j =
      if p = some j then (s.slot? j).map fun e => { e with newer := n } else s.slot? j := by
  cases p with
  | none => rfl
  | some i =>
    rw [setNewer, slot?_relink]
    simp only [Option.some.injEq, eq_comm]

@[simp] theorem head_relink (s : Shard κ ν) (i : Nat) (f : Slot κ ν → Slot κ ν) :
    (s.relink i f).head = s.head := rfl

@[simp] theorem tail_relink (s : Shard κ ν) (i : Nat) (f : Slot κ ν → Slot κ ν) :
    (s.relink i f).tail = s.tail := rfl

theorem head_setOlder (s : Shard κ ν) (p o : Option Nat) :
    (s.setOlder p o).head = if p = none then o else s.head := by
  cases p <;> rfl

@[simp] theorem tail_setOlder (s : Shard κ ν) (p o : Option Nat) :
    (s.setOlder p o).tail = s.tail := by
  cases p <;> rfl

@[simp] theorem head_setNewer (s : Shard κ ν) (p n : Option Nat) :
    (s.setNewer p n).head = s.head := by
  cases p <;> rfl

theorem tail_setNewer (s : Shard κ ν) (p n : Option Nat) :
    (s.setNewer p n).tail = if p = none then n else s.tail := by
  cases p <;> rfl

/-- The links that follow a list of entries, where the slots are told apart. -/
structure Threaded (s : Shard κ ν) (order : List (Nat × κ × ν)) : Prop where
  linked : Linked s.slot? none order none
  nodup : (numbers order).Nodup
  head_eq : s.head = (numbers order).head?
  tail_eq : s.tail = (numbers order).getLast?

/-- Linked entries may be followed by another slot if their last link is changed. -/
theorem linked_setOlder (h : Linked s.slot? newer a older) (ha : (numbers a).Nodup)
    (o : Option Nat) : Linked (s.setOlder (numbers a).getLast? o).slot? newer a o := by
  have hall : ∀ p, p = (numbers a).getLast? → Linked (s.setOlder p o).slot? newer a o := by
    intro p hp
    induction a generalizing newer with
    | nil => trivial
    | cons x rest ih =>
      obtain ⟨i, k, v⟩ := x
      obtain ⟨hi, hrest⟩ := List.nodup_cons.1 ha
      rw [Linked, slot?_setOlder, h.1]
      cases rest with
      | nil =>
        rw [hp, if_pos (by rfl)]
        exact ⟨rfl, trivial⟩
      | cons y rest =>
        have hp' : p = (numbers (y :: rest)).getLast? := by
          rw [hp]
          exact List.getLast?_cons_cons
        -- the last slot is another one
        have hne : p ≠ some i := fun heq =>
          hi (List.mem_of_getLast? (hp'.symm.trans heq))
        rw [if_neg hne]
        exact ⟨rfl, ih h.2 hrest hp'⟩
  exact hall _ rfl

/-- Linked entries may come after another slot if their first link is changed. -/
theorem linked_setNewer (h : Linked s.slot? newer a older) (ha : (numbers a).Nodup)
    (n : Option Nat) : Linked (s.setNewer (numbers a).head? n).slot? n a older := by
  cases a with
  | nil => trivial
  | cons x rest =>
    obtain ⟨i, k, v⟩ := x
    obtain ⟨hi, -⟩ := List.nodup_cons.1 ha
    refine ⟨?_, h.2.congr fun j hj => ?_⟩
    · rw [slot?_setNewer, if_pos (by rfl), h.1]
      rfl
    · have hne : (numbers ((i, k, v) :: rest)).head? ≠ some j := by
        rintro ⟨⟩
        exact hi hj
      rw [slot?_setNewer, if_neg hne]

theorem linked_setOlder_of_ne (h : Linked s.slot? newer a older) {p : Option Nat}
    (hp : ∀ i ∈ numbers a, p ≠ some i) (o : Option Nat) :
    Linked (s.setOlder p o).slot? newer a older :=
  h.congr fun j hj => by rw [slot?_setOlder, if_neg (hp j hj)]

theorem linked_setNewer_of_ne (h : Linked s.slot? newer a older) {p : Option Nat}
    (hp : ∀ i ∈ numbers a, p ≠ some i) (n : Option Nat) :
    Linked (s.setNewer p n).slot? newer a older :=
  h.congr fun j hj => by rw [slot?_setNewer, if_neg (hp j hj)]

/-! ### Taking out -/

theorem Threaded.slot?_eq {i : Nat} {k : κ} {v : ν} (h : Threaded s (a ++ (i, k, v) :: b)) :
    s.slot? i = some ⟨k, v, (numbers a).getLast?, (numbers b).head?⟩ := by
  have hlinked := (linked_append.1 h.linked).2.1
  rwa [lastOr, firstOr, Option.or_none, Option.or_none] at hlinked

/-- **An entry that is taken out of the order is taken out of the list.** -/
theorem Threaded.unlink {i : Nat} {k : κ} {v : ν} (h : Threaded s (a ++ (i, k, v) :: b)) :
    Threaded (s.unlink i) (a ++ b) := by
  have hslot := h.slot?_eq
  obtain ⟨ha, hi, hb⟩ := linked_append.1 h.linked
  have hnodup := h.nodup
  rw [numbers_append, numbers_cons, List.nodup_append'] at hnodup
  obtain ⟨hna, hnb, hdisjoint⟩ := hnodup
  obtain ⟨hib, hnb⟩ := List.nodup_cons.1 hnb
  have hunlink : s.unlink i
      = (s.setOlder (numbers a).getLast? (numbers b).head?).setNewer (numbers b).head?
          (numbers a).getLast? := by
    rw [Shard.unlink, hslot]
  have hfirst : ∀ j ∈ numbers a, (numbers b).head? ≠ some j := fun j hj heq =>
    hdisjoint hj (List.mem_cons_of_mem _ (List.mem_of_head? heq))
  have hlast : ∀ j ∈ numbers b, (numbers a).getLast? ≠ some j := fun j hj heq =>
    hdisjoint (List.mem_of_getLast? heq) (List.mem_cons_of_mem _ hj)
  rw [hunlink]
  refine ⟨linked_append.2 ⟨?_, ?_⟩, ?_, ?_, ?_⟩
  · rw [firstOr, Option.or_none]
    exact linked_setNewer_of_ne (linked_setOlder ha hna _) hfirst _
  · rw [lastOr, Option.or_none]
    exact linked_setNewer (linked_setOlder_of_ne hb hlast _) hnb _
  · rw [numbers_append, List.nodup_append']
    exact ⟨hna, hnb, fun j hj hj' => hdisjoint hj (List.mem_cons_of_mem _ hj')⟩
  · rw [head_setNewer, head_setOlder, h.head_eq]
    cases a with
    | nil => rw [if_pos (by rfl), List.nil_append]
    | cons x a => rw [if_neg (by simp [List.getLast?_cons]), List.cons_append, List.cons_append,
        numbers_cons, numbers_cons, List.head?_cons, List.head?_cons]
  · rw [tail_setNewer, tail_setOlder, h.tail_eq]
    cases b with
    | nil => rw [numbers_nil, List.head?_nil, if_pos rfl, List.append_nil]
    | cons y b => simp [List.getLast?_append, List.getLast?_cons]

/-- An entry that is taken out of the order stays in its slot. -/
theorem Threaded.slot?_unlink {i : Nat} {k : κ} {v : ν}
    (h : Threaded s (a ++ (i, k, v) :: b)) : (s.unlink i).slot? i = s.slot? i := by
  have hnodup := h.nodup
  rw [numbers_append, numbers_cons, List.nodup_append'] at hnodup
  obtain ⟨-, hnb, hdisjoint⟩ := hnodup
  have hlast : (numbers a).getLast? ≠ some i := fun heq =>
    hdisjoint (List.mem_of_getLast? heq) List.mem_cons_self
  have hfirst : (numbers b).head? ≠ some i := fun heq =>
    (List.nodup_cons.1 hnb).1 (List.mem_of_head? heq)
  rw [Shard.unlink, h.slot?_eq]
  dsimp only
  rw [slot?_setNewer, if_neg hfirst, slot?_setOlder, if_neg hlast, h.slot?_eq]

/-! ### Putting in front -/

/-- **An entry that is put in front of the order is put in front of the list.** -/
theorem Threaded.pushFront {i : Nat} {e : Slot κ ν} (h : Threaded s order)
    (hi : i ∉ numbers order) (he : s.slot? i = some e) :
    Threaded (s.pushFront i) ((i, e.key, e.value) :: order) := by
  have hhead : ∀ p, s.head = some p → p ∈ numbers order := fun p hp =>
    List.mem_of_head? (h.head_eq ▸ hp)
  have hslot : (s.pushFront i).slot? = ((s.relink i fun e =>
      { e with newer := none, older := s.head }).setNewer s.head (some i)).slot? := rfl
  refine ⟨⟨?_, ?_⟩, List.nodup_cons.2 ⟨hi, h.nodup⟩, rfl, ?_⟩
  · have hne : s.head ≠ some i := fun heq => hi (hhead i heq)
    rw [hslot, slot?_setNewer, if_neg hne, slot?_relink, if_pos rfl, he, h.head_eq, firstOr,
      Option.or_none]
    rfl
  · have hrelinked : Linked (s.relink i fun e => { e with newer := none, older := s.head }).slot?
        none order none := h.linked.congr fun j hj => by
      have hne : j ≠ i := fun heq => hi (heq ▸ hj)
      rw [slot?_relink, if_neg hne]
    have hnewer := linked_setNewer hrelinked h.nodup (some i)
    rwa [← h.head_eq] at hnewer
  · have htail : (s.pushFront i).tail = ((s.relink i fun e =>
        { e with newer := none, older := s.head }).setNewer s.head (some i)).tail := rfl
    rw [htail, tail_setNewer, tail_relink, h.head_eq, h.tail_eq]
    cases order with
    | nil => rfl
    | cons x order => simp [List.getLast?_cons]

/-- **The entry that is used last comes first.** -/
theorem Threaded.touch {i : Nat} {k : κ} {v : ν} (h : Threaded s (a ++ (i, k, v) :: b)) :
    Threaded (s.touch i) ((i, k, v) :: (a ++ b)) := by
  have hnodup := h.nodup
  rw [numbers_append, numbers_cons, List.nodup_middle, ← numbers_append] at hnodup
  unfold Shard.touch
  split
  · next hhead =>
    cases a with
    | nil => exact h
    | cons x a =>
      -- the head is another slot
      rw [h.head_eq] at hhead
      obtain rfl : x.1 = i := Option.some.inj hhead
      exact absurd (by simp) (List.nodup_cons.1 hnodup).1
  · have hslot := h.slot?_unlink.trans h.slot?_eq
    exact h.unlink.pushFront (List.nodup_cons.1 hnodup).1 hslot

/-! ### Other slots -/

/-- A new value changes the links in nothing. -/
theorem Threaded.relink_value {i : Nat} {k : κ} {v : ν} (h : Threaded s (a ++ (i, k, v) :: b))
    (v' : ν) : Threaded (s.relink i fun e => { e with value := v' }) (a ++ (i, k, v') :: b) := by
  have hnumbers : numbers (a ++ (i, k, v') :: b) = numbers (a ++ (i, k, v) :: b) := by simp
  have hnodup := h.nodup
  rw [numbers_append, numbers_cons, List.nodup_middle] at hnodup
  have hne : ∀ j ∈ numbers a ++ numbers b, j ≠ i := fun j hj heq =>
    (List.nodup_cons.1 hnodup).1 (heq ▸ hj)
  obtain ⟨ha, hi, hb⟩ := linked_append.1 h.linked
  refine ⟨linked_append.2 ⟨?_, ?_, ?_⟩, ?_, ?_, ?_⟩
  · exact ha.congr fun j hj => by
      rw [slot?_relink, if_neg (hne j (List.mem_append_left _ hj))]
  · rw [slot?_relink, if_pos rfl, hi]
    rfl
  · exact hb.congr fun j hj => by
      rw [slot?_relink, if_neg (hne j (List.mem_append_right _ hj))]
  · rw [hnumbers]
    exact h.nodup
  · rw [hnumbers]
    exact h.head_eq
  · rw [hnumbers]
    exact h.tail_eq

/-- Links do not depend on slots that are not linked, nor on what else a shard keeps. -/
theorem Threaded.congr (h : Threaded s order) {t : Shard κ ν}
    (hslots : ∀ i ∈ numbers order, t.slot? i = s.slot? i) (hhead : t.head = s.head)
    (htail : t.tail = s.tail) : Threaded t order :=
  ⟨h.linked.congr hslots, h.nodup, hhead.trans h.head_eq, htail.trans h.tail_eq⟩

theorem lt_of_slot? {i : Nat} {e : Slot κ ν} (h : s.slot? i = some e) : i < s.slots.length := by
  by_contra hge
  rw [slot?, List.getElem?_eq_none (Nat.not_lt.1 hge)] at h
  cases h

/-- A slot that is filled or vacated. -/
theorem slot?_of_set {t : Shard κ ν} {i : Nat} {content : Option (Slot κ ν)}
    (ht : t.slots = s.slots.set i content) (hi : i < s.slots.length) (j : Nat) :
    t.slot? j = if j = i then content else s.slot? j := by
  rw [slot?, slot?, ht]
  by_cases h : j = i
  · subst h
    simp [hi]
  · rw [List.getElem?_set_ne (Ne.symm h), if_neg h]

/-- A slot that is added. -/
theorem slot?_of_append {t : Shard κ ν} {e : Slot κ ν} (ht : t.slots = s.slots ++ [some e])
    (j : Nat) : t.slot? j = if j = s.slots.length then some e else s.slot? j := by
  rw [slot?, slot?, ht]
  rcases Nat.lt_trichotomy j s.slots.length with h | rfl | h
  · rw [List.getElem?_append_left h, if_neg (Nat.ne_of_lt h)]
  · simp
  · have hlength : (s.slots ++ [some e]).length ≤ j := by
      rw [List.length_append]
      exact h
    rw [if_neg (Nat.ne_of_gt h), List.getElem?_eq_none hlength,
      List.getElem?_eq_none (Nat.le_of_lt h)]

/-- Two shards differ in their links and values only: what is vacant stays vacant. -/
structure Relinks (s t : Shard κ ν) : Prop where
  index_eq : t.index = s.index
  free_eq : t.free = s.free
  capacity_eq : t.capacity = s.capacity
  length_eq : t.slots.length = s.slots.length
  vacant : ∀ i, s.slot? i = none → t.slot? i = none

theorem Relinks.refl (s : Shard κ ν) : Relinks s s := ⟨rfl, rfl, rfl, rfl, fun _ h => h⟩

theorem Relinks.trans {s t u : Shard κ ν} (h : Relinks s t) (h' : Relinks t u) : Relinks s u :=
  ⟨h'.index_eq.trans h.index_eq, h'.free_eq.trans h.free_eq, h'.capacity_eq.trans h.capacity_eq,
    h'.length_eq.trans h.length_eq, fun i hi => h'.vacant i (h.vacant i hi)⟩

theorem relinks_relink (s : Shard κ ν) (i : Nat) (f : Slot κ ν → Slot κ ν) :
    Relinks s (s.relink i f) :=
  ⟨rfl, rfl, rfl, List.length_modify .., fun j hj => by
    rw [slot?_relink, hj, Option.map_none, ite_self]⟩

theorem relinks_setOlder (s : Shard κ ν) (p o : Option Nat) : Relinks s (s.setOlder p o) := by
  cases p with
  | none => exact ⟨rfl, rfl, rfl, rfl, fun _ h => h⟩
  | some i => exact relinks_relink s i _

theorem relinks_setNewer (s : Shard κ ν) (p n : Option Nat) : Relinks s (s.setNewer p n) := by
  cases p with
  | none => exact ⟨rfl, rfl, rfl, rfl, fun _ h => h⟩
  | some i => exact relinks_relink s i _

theorem relinks_unlink (s : Shard κ ν) (i : Nat) : Relinks s (s.unlink i) := by
  unfold Shard.unlink
  split
  · exact .refl s
  · exact (relinks_setOlder s _ _).trans (relinks_setNewer _ _ _)

theorem relinks_pushFront (s : Shard κ ν) (i : Nat) : Relinks s (s.pushFront i) :=
  ((relinks_relink s i _).trans (relinks_setNewer _ _ _)).trans
    ⟨rfl, rfl, rfl, rfl, fun _ h => h⟩

theorem relinks_touch (s : Shard κ ν) (i : Nat) : Relinks s (s.touch i) := by
  unfold Shard.touch
  split
  · exact .refl s
  · exact (relinks_unlink s i).trans (relinks_pushFront _ i)

end Shard

end EntityGraph.Cache
