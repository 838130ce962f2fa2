import EntityGraph.Proofs.Cache.Recency
import Mathlib.Data.List.Induction
import Mathlib.Data.List.Perm.Basic

/-!
# The slab of a shard

Every slot of a shard is linked or free, once and never both, and a bounded shard makes no more
slots than its bound (`Packed`). Every operation keeps this (`Packed.apply`), since a new entry
takes a free slot before it makes one, and an evicted entry leaves its slot to the free list. For
the links, the index and the free list it means that they are in order (`Tidy`), which is said in
terms of slots, without the list of entries that they represent.
-/

namespace EntityGraph.Cache

variable {κ ν : Type}

/-! ### Following links -/

/-- The slots that are met from a slot on, along links up to the end. -/
inductive Follows (link? : Nat → Option (Option Nat)) : Option Nat → List Nat → Prop
  | done : Follows link? none []
  | step {i : Nat} {next : Option Nat} {rest : List Nat} (h : link? i = some next)
      (hrest : Follows link? next rest) : Follows link? (some i) (i :: rest)

section
variable {f : Nat → Option (Slot κ ν)} {newer older : Option Nat} {l : List (Nat × κ × ν)}

/-- Towards older entries the slots are met in order. -/
theorem Linked.follows_older (h : Linked f newer l none) :
    Follows (fun i => (f i).map Slot.older) (firstOr l none) (numbers l) := by
  induction l generalizing newer with
  | nil => exact .done
  | cons x rest ih =>
    obtain ⟨i, k, v⟩ := x
    refine .step ?_ (ih h.2)
    rw [h.1]
    rfl

/-- Towards newer entries the slots are met in the opposite order. -/
theorem Linked.follows_newer (h : Linked f none l older) :
    Follows (fun i => (f i).map Slot.newer) (lastOr none l) (numbers l).reverse := by
  induction l using List.reverseRecOn generalizing older with
  | nil => exact .done
  | append_singleton rest x ih =>
    obtain ⟨i, k, v⟩ := x
    obtain ⟨hrest, hi, -⟩ := linked_append.1 h
    have hlast : lastOr none (rest ++ [(i, k, v)]) = some i := by simp [lastOr]
    rw [hlast, numbers_append, List.reverse_append]
    refine .step ?_ (ih hrest)
    rw [hi]
    rfl

end

namespace Shard

variable {bound i : Nat} {s t : Shard κ ν} {order a b : List (Nat × κ × ν)} {k : κ} {v : ν}

/-! ### Linked and free slots -/

/-- A shard of a bound that holds some entries in order has no slot but theirs and the free ones,
and no more slots than the bound. -/
structure Packed (bound : Nat) (s : Shard κ ν) (order : List (Nat × κ × ν)) : Prop extends
    Represents s order where
  capacity_eq : s.capacity = bound
  tiles : (numbers order ++ s.free).Perm (List.range s.slots.length)
  slots_le : 0 < bound → s.slots.length ≤ bound

theorem packed_nil (bound : Nat) : Packed bound ({ capacity := bound } : Shard κ ν) [] where
  toRepresents := represents_nil bound
  capacity_eq := rfl
  tiles := .nil
  slots_le _ := Nat.zero_le _

/-- New links over the same slots. -/
theorem Packed.relinked {order' : List (Nat × κ × ν)} (h : Packed bound s order)
    (hlinks : Relinks s t) (hr : Represents t order')
    (hperm : (numbers order').Perm (numbers order)) : Packed bound t order' where
  toRepresents := hr
  capacity_eq := hlinks.capacity_eq.trans h.capacity_eq
  tiles := by
    rw [hlinks.free_eq, hlinks.length_eq]
    exact (hperm.append_right _).trans h.tiles
  slots_le := by
    rw [hlinks.length_eq]
    exact h.slots_le

theorem Packed.touch (h : Packed bound s (a ++ (i, k, v) :: b)) :
    Packed bound (s.touch i) ((i, k, v) :: (a ++ b)) :=
  h.relinked (relinks_touch s i) h.toRepresents.touch (List.perm_middle.symm.map _)

theorem Packed.relink_value (h : Packed bound s (a ++ (i, k, v) :: b)) (v' : ν) :
    Packed bound (s.relink i fun e => { e with value := v' }) (a ++ (i, k, v') :: b) :=
  h.relinked (relinks_relink s i _) (h.toRepresents.relink_value v') (by simp)

/-- Every slot is linked or free. -/
theorem Packed.length_eq (h : Packed bound s order) :
    order.length + s.free.length = s.slots.length := by
  have hlength := h.tiles.length_eq
  rwa [List.length_append, numbers, List.length_map, List.length_range] at hlength

/-- **A new entry uses a free slot if there is one.** -/
theorem Packed.place (h : Packed bound s order) (hk : ∀ x ∈ order, x.2.1 ≠ k)
    (hroom : 0 < bound → order.length < bound) (v : ν) :
    ∃ i, Packed bound (s.place k v) ((i, k, v) :: order) := by
  obtain ⟨i, hr⟩ := h.toRepresents.place hk v
  refine ⟨i, hr, (capacity_place s k v).trans h.capacity_eq, ?_, fun hbound => ?_⟩
  · have hhead : (s.place k v).head = some i := hr.head_eq
    have htiles := h.tiles
    unfold Shard.place at hhead ⊢
    split at hhead
    · next j free hfree =>
      have hlinks := relinks_pushFront { s with
        slots := s.slots.set j (some ⟨k, v, none, none⟩)
        free := free
        index := (k, j) :: s.index } j
      obtain rfl : j = i := Option.some.inj hhead
      dsimp only
      rw [hlinks.free_eq, hlinks.length_eq, List.length_set]
      rw [hfree] at htiles
      exact List.perm_middle.symm.trans htiles
    · next hfree =>
      have hlinks := relinks_pushFront { s with
        slots := s.slots ++ [some ⟨k, v, none, none⟩]
        index := (k, s.slots.length) :: s.index } s.slots.length
      obtain rfl : s.slots.length = i := Option.some.inj hhead
      rw [hlinks.free_eq, hlinks.length_eq, List.length_append, List.length_singleton,
        List.range_succ]
      exact (htiles.cons _).trans (List.perm_append_singleton _ _).symm
  · have hlength := h.length_eq
    unfold Shard.place
    split
    · rw [(relinks_pushFront _ _).length_eq, List.length_set]
      exact h.slots_le hbound
    · next hfree =>
      rw [(relinks_pushFront _ _).length_eq, List.length_append, List.length_singleton]
      rw [hfree, List.length_nil] at hlength
      exact hlength ▸ hroom hbound

section
variable [DecidableEq κ]

/-- **The slot of the entry that is evicted becomes free.** -/
theorem Packed.evict (h : Packed bound s (order ++ [(i, k, v)])) :
    Packed bound s.evict.1 order := by
  have hlinks := relinks_unlink s i
  refine ⟨h.toRepresents.evict, (capacity_evict s).trans h.capacity_eq, ?_, ?_⟩
  · have htiles := h.tiles
    rw [numbers_append, List.append_assoc] at htiles
    rw [h.toRepresents.evict_eq, List.length_set, hlinks.length_eq]
    exact htiles
  · rw [h.toRepresents.evict_eq, List.length_set, hlinks.length_eq]
    exact h.slots_le

/-- The entry that is given up is the last one. -/
theorem Packed.exists_evict (h : Packed bound s order) : Packed bound s.evict.1 order.dropLast := by
  rcases List.eq_nil_or_concat' order with rfl | ⟨kept, ⟨i, k, v⟩, rfl⟩
  · have hevict : s.evict.1 = s := by
      rw [Shard.evict, h.tail_eq]
      rfl
    rw [hevict]
    exact h
  · rw [List.dropLast_concat]
    exact h.evict

theorem Packed.insert (h : Packed bound s order) (hk : ∀ x ∈ order, x.2.1 ≠ k) (v : ν) :
    ∃ order', Packed bound (s.insert k v).1 order' := by
  have hsize := h.size_eq
  unfold Shard.insert
  rw [h.capacity_eq, hsize]
  split
  · next hfull =>
    have hroom : order.dropLast.length < bound := by
      have hlength := h.length_eq
      have hle := h.slots_le hfull.1
      rw [List.length_dropLast]
      omega
    obtain ⟨i, hplaced⟩ :=
      h.exists_evict.place (fun x hx => hk x (List.dropLast_subset _ hx)) (fun _ => hroom) v
    exact ⟨_, hplaced⟩
  · next hfull =>
    obtain ⟨i, hplaced⟩ :=
      h.place hk (fun hbound => Nat.lt_of_not_le fun hle => hfull ⟨hbound, hle⟩) v
    exact ⟨_, hplaced⟩

/-! ### Operations -/

/-- A key that is looked up in vain is not held. -/
theorem Represents.get_eq_none (h : Represents s order) (hk : ∀ x ∈ order, x.2.1 ≠ k) :
    s.get k = (none, s) := by
  rw [Shard.get, h.find?_eq_none hk]

theorem Represents.get_eq_some (h : Represents s (a ++ (i, k, v) :: b)) :
    s.get k = (some v, s.touch i) := by
  rw [Shard.get, h.find?_eq]

theorem Represents.contains_eq_false (h : Represents s order) (hk : ∀ x ∈ order, x.2.1 ≠ k) :
    s.contains k = false := by
  rw [contains, h.lookup_index_eq_none hk]
  rfl

theorem Represents.contains_eq_true (h : Represents s (a ++ (i, k, v) :: b)) :
    s.contains k = true := by
  rw [contains, h.lookup_index]
  rfl

end

/-- What a cache does to a shard at once. A key is added only where it is not held. -/
inductive Op (κ ν : Type)
  | get (k : κ)
  | store (k : κ) (v : ν)
  | set (k : κ) (v : ν)
  | getOrInsert (k : κ) (v : ν)
  | evict
  | clear

section
variable [DecidableEq κ]

/-- The value of a key, or else a new value, which is added. -/
def getOrInsert (s : Shard κ ν) (k : κ) (v : ν) : Shard κ ν :=
  match s.get k with
  | (some _, t) => t
  | (none, t) => (t.insert k v).1

def Op.apply (s : Shard κ ν) : Op κ ν → Shard κ ν
  | .get k => (s.get k).2
  | .store k v => (s.store k v).1
  | .set k v => (s.set k v).1
  | .getOrInsert k v => s.getOrInsert k v
  | .evict => s.evict.1
  | .clear => s.clear

/-- The shard that some operations leave, one after the other. -/
def after (capacity : Nat) (ops : List (Op κ ν)) : Shard κ ν :=
  ops.foldl Op.apply { capacity := capacity }

theorem Packed.exists_get (h : Packed bound s order) (k : κ) :
    ∃ order', Packed bound (s.get k).2 order' := by
  rcases held_or_absent order k with ⟨a, i, v, b, rfl⟩ | hk
  · rw [h.get_eq_some]
    exact ⟨_, h.touch⟩
  · rw [h.get_eq_none hk]
    exact ⟨_, h⟩

theorem Packed.exists_store (h : Packed bound s order) (k : κ) (v : ν) :
    ∃ order', Packed bound (s.store k v).1 order' := by
  rcases held_or_absent order k with ⟨a, i, v', b, rfl⟩ | hk
  · rw [Shard.store, h.contains_eq_true, if_pos rfl]
    exact ⟨_, h⟩
  · rw [Shard.store, h.contains_eq_false hk, if_neg Bool.false_ne_true]
    exact h.insert hk v

theorem Packed.exists_set (h : Packed bound s order) (k : κ) (v : ν) :
    ∃ order', Packed bound (s.set k v).1 order' := by
  rcases held_or_absent order k with ⟨a, i, v', b, rfl⟩ | hk
  · rw [Shard.set, h.find?_eq]
    exact ⟨_, (h.relink_value v).touch⟩
  · rw [Shard.set, h.find?_eq_none hk]
    exact h.insert hk v

theorem Packed.exists_getOrInsert (h : Packed bound s order) (k : κ) (v : ν) :
    ∃ order', Packed bound (s.getOrInsert k v) order' := by
  rcases held_or_absent order k with ⟨a, i, v', b, rfl⟩ | hk
  · rw [getOrInsert, h.get_eq_some]
    exact ⟨_, h.touch⟩
  · rw [getOrInsert, h.get_eq_none hk]
    exact h.insert hk v

/-- **Every operation leaves a packed shard packed.** -/
theorem Packed.apply (h : Packed bound s order) (op : Op κ ν) :
    ∃ order', Packed bound (op.apply s) order' := by
  cases op with
  | get k => exact h.exists_get k
  | store k v => exact h.exists_store k v
  | set k v => exact h.exists_set k v
  | getOrInsert k v => exact h.exists_getOrInsert k v
  | evict => exact ⟨_, h.exists_evict⟩
  | clear =>
    rw [Op.apply, Shard.clear, h.capacity_eq]
    exact ⟨_, packed_nil bound⟩

/-- **So does every run of operations.** -/
theorem Packed.applyAll (h : Packed bound s order) (ops : List (Op κ ν)) :
    ∃ order', Packed bound (ops.foldl Op.apply s) order' := by
  induction ops generalizing s order with
  | nil => exact ⟨_, h⟩
  | cons op ops ih =>
    obtain ⟨order', h'⟩ := h.apply op
    exact ih h'

theorem packed_after (capacity : Nat) (ops : List (Op κ ν)) :
    ∃ order, Packed capacity (after capacity ops) order :=
  (packed_nil capacity).applyAll ops

end

/-! ### Links, index and free list -/

/-- The slots of a shard in the order of last use. Links towards older and towards newer entries
meet them from either end, the index leads from each key to its slot, and all other slots are
free and vacant. -/
structure Tidy [DecidableEq κ] (s : Shard κ ν) (order : List Nat) : Prop where
  nodup : order.Nodup
  older : Follows (fun i => (s.slot? i).map Slot.older) s.head order
  newer : Follows (fun i => (s.slot? i).map Slot.newer) s.tail order.reverse
  tail_eq : s.tail = order.getLast?
  mem_iff : ∀ i, i ∈ order ↔ (s.slot? i).isSome
  lookup_iff : ∀ k i, s.index.lookup k = some i ↔ ∃ e, s.slot? i = some e ∧ e.key = k
  keys_nodup : (s.index.map Prod.fst).Nodup
  length_eq : s.index.length = order.length
  tiles : (order ++ s.free).Perm (List.range s.slots.length)
  vacant : ∀ i ∈ s.free, s.slot? i = none

theorem Packed.mem_numbers_iff (h : Packed bound s order) (i : Nat) :
    i ∈ numbers order ↔ (s.slot? i).isSome := by
  refine ⟨fun hi => Option.isSome_iff_exists.2 (h.linked.exists_slot hi), fun hi => ?_⟩
  obtain ⟨e, he⟩ := Option.isSome_iff_exists.1 hi
  have hmem := h.tiles.mem_iff.2 (List.mem_range.2 (lt_of_slot? he))
  rcases List.mem_append.1 hmem with hlinked | hfree
  · exact hlinked
  · rw [(h.free_vacant i hfree).2] at he
    cases he

section
variable [DecidableEq κ]

/-- The index leads to the slot that holds the key. -/
theorem Packed.lookup_iff (h : Packed bound s order) (k : κ) (i : Nat) :
    s.index.lookup k = some i ↔ ∃ e, s.slot? i = some e ∧ e.key = k := by
  constructor
  · intro hlookup
    rcases held_or_absent order k with ⟨a, j, v, b, rfl⟩ | hk
    · rw [h.lookup_index] at hlookup
      obtain rfl := Option.some.inj hlookup
      exact ⟨_, h.slot?_eq, rfl⟩
    · rw [h.lookup_index_eq_none hk] at hlookup
      cases hlookup
  · rintro ⟨e, he, rfl⟩
    have hi := (h.mem_numbers_iff i).2 (Option.isSome_iff_exists.2 ⟨e, he⟩)
    obtain ⟨⟨j, k, v⟩, hx, rfl⟩ := List.mem_map.1 hi
    obtain ⟨a, b, rfl⟩ := List.append_of_mem hx
    rw [h.slot?_eq] at he
    cases he
    exact h.lookup_index

/-- A packed shard is tidy. -/
theorem Packed.tidy (h : Packed bound s order) : Tidy s (numbers order) where
  nodup := h.nodup
  older := by
    have hfirst : s.head = firstOr order none := by rw [h.head_eq, firstOr, Option.or_none]
    rw [hfirst]
    exact h.linked.follows_older
  newer := by
    have hlast : s.tail = lastOr none order := by rw [h.tail_eq, lastOr, Option.or_none]
    rw [hlast]
    exact h.linked.follows_newer
  tail_eq := h.tail_eq
  mem_iff := h.mem_numbers_iff
  lookup_iff := h.lookup_iff
  keys_nodup := (h.index_perm.map Prod.fst).nodup_iff.2 h.fst_nodup
  length_eq := by rw [h.index_perm.length_eq, List.length_map, numbers, List.length_map]
  tiles := h.tiles
  vacant i hi := (h.free_vacant i hi).2

end

end Shard

end EntityGraph.Cache
