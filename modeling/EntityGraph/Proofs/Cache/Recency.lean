import EntityGraph.Proofs.Cache.Linking
import EntityGraph.Proofs.Lists

/-!
# Shards as recency lists

What a shard does is what a list of keys and values does that is kept in the order of last use: a
key that is looked up or set moves to the front, a new key is put in front, and a full list first
gives up its last entry (`Recency`). `Refines` says that a shard holds such a list, in linked slots
with an index; every operation of a shard is that of its list (`Refines.get`, `Refines.set`,
`Refines.store`, `Refines.insert`).
-/

namespace EntityGraph.Cache

variable {κ ν : Type}

/-! ### Lists in the order of last use -/

namespace Recency

variable [DecidableEq κ]

/-- The entries of all other keys. -/
def without (k : κ) (l : List (κ × ν)) : List (κ × ν) := l.filter fun p => p.1 ≠ k

/-- The value of a key, which becomes the most recently used one. -/
def get (l : List (κ × ν)) (k : κ) : Option ν × List (κ × ν) :=
  match l.lookup k with
  | some v => (some v, (k, v) :: without k l)
  | none => (none, l)

/-- Adds a key that is not held; a full list gives up its least recently used key for it. -/
def insert (bound : Nat) (l : List (κ × ν)) (k : κ) (v : ν) : List (κ × ν) :=
  (k, v) :: if 0 < bound ∧ bound ≤ l.length then l.dropLast else l

/-- Replaces the value of a key, which becomes the most recently used one; or adds the key. -/
def set (bound : Nat) (l : List (κ × ν)) (k : κ) (v : ν) : List (κ × ν) :=
  if (l.lookup k).isSome then (k, v) :: without k l else insert bound l k v

/-- Adds a key unless it is held. -/
def store (bound : Nat) (l : List (κ × ν)) (k : κ) (v : ν) : List (κ × ν) :=
  if (l.lookup k).isSome then l else insert bound l k v

theorem get_fst (l : List (κ × ν)) (k : κ) : (get l k).1 = l.lookup k := by
  rw [get]
  cases l.lookup k <;> rfl

theorem lookup_get (l : List (κ × ν)) (k : κ) : (get l k).2.lookup k = l.lookup k := by
  rw [get]
  cases h : l.lookup k with
  | none => exact h
  | some v => exact List.lookup_cons_self

end Recency

namespace Shard

/-! ### Shards that hold a list -/

/-- A shard holds some entries in order: its slots are linked in this order, its index leads to the
slots by their distinct keys, and its free slots are distinct and vacant. -/
structure Represents (s : Shard κ ν) (order : List (Nat × κ × ν)) : Prop extends
    Threaded s order where
  keys_nodup : (order.map fun x => x.2.1).Nodup
  index_perm : s.index.Perm (order.map fun x => (x.2.1, x.1))
  free_vacant : ∀ i ∈ s.free, i < s.slots.length ∧ s.slot? i = none
  free_nodup : s.free.Nodup

variable {s t : Shard κ ν} {order order' a b : List (Nat × κ × ν)} {i : Nat} {k : κ} {v : ν}

theorem Represents.fst_nodup (h : Represents s order) :
    ((order.map fun x => (x.2.1, x.1)).map Prod.fst).Nodup := by
  rw [List.map_map]
  exact h.keys_nodup

/-- New links over the same entries. -/
theorem Represents.relinked (h : Represents s order) (hlinks : Relinks s t)
    (hthreaded : Threaded t order')
    (hperm : (order'.map fun x => (x.2.1, x.1)).Perm (order.map fun x => (x.2.1, x.1))) :
    Represents t order' := by
  refine ⟨hthreaded, ?_, ?_, fun j hj => ?_, ?_⟩
  · have hkeys := (hperm.map Prod.fst).nodup_iff.2 h.fst_nodup
    rwa [List.map_map] at hkeys
  · rw [hlinks.index_eq]
    exact h.index_perm.trans hperm.symm
  · rw [hlinks.free_eq] at hj
    rw [hlinks.length_eq]
    exact ⟨(h.free_vacant j hj).1, hlinks.vacant j (h.free_vacant j hj).2⟩
  · rw [hlinks.free_eq]
    exact h.free_nodup

theorem Represents.size_eq (h : Represents s order) : s.size = order.length := by
  rw [size, h.index_perm.length_eq, List.length_map]

theorem Represents.touch (h : Represents s (a ++ (i, k, v) :: b)) :
    Represents (s.touch i) ((i, k, v) :: (a ++ b)) :=
  h.relinked (relinks_touch s i) h.toThreaded.touch (List.perm_middle.symm.map _)

theorem Represents.relink_value (h : Represents s (a ++ (i, k, v) :: b)) (v' : ν) :
    Represents (s.relink i fun e => { e with value := v' }) (a ++ (i, k, v') :: b) :=
  h.relinked (relinks_relink s i _) (h.toThreaded.relink_value v') (by simp)

section
variable [DecidableEq κ]

/-! ### Looking up -/

theorem Represents.lookup_index (h : Represents s (a ++ (i, k, v) :: b)) :
    s.index.lookup k = some i := by
  have hmem : (k, i) ∈ s.index := h.index_perm.mem_iff.2 (by simp)
  exact lookup_of_mem ((h.index_perm.map Prod.fst).nodup_iff.2 h.fst_nodup) hmem

theorem Represents.lookup_index_eq_none (h : Represents s order)
    (hk : ∀ x ∈ order, x.2.1 ≠ k) : s.index.lookup k = none := by
  refine lookup_eq_none fun p hp => ?_
  obtain ⟨x, hx, rfl⟩ := List.mem_map.1 (h.index_perm.mem_iff.1 hp)
  exact hk x hx

theorem Represents.find?_eq (h : Represents s (a ++ (i, k, v) :: b)) :
    s.find? k = some (i, ⟨k, v, (numbers a).getLast?, (numbers b).head?⟩) := by
  simp [find?, h.lookup_index, h.toThreaded.slot?_eq]

theorem Represents.find?_eq_none (h : Represents s order) (hk : ∀ x ∈ order, x.2.1 ≠ k) :
    s.find? k = none := by
  simp [find?, h.lookup_index_eq_none hk]

theorem Represents.lookup_entries (h : Represents s (a ++ (i, k, v) :: b)) :
    ((a ++ (i, k, v) :: b).map Prod.snd).lookup k = some v := by
  refine lookup_of_mem ?_ (by simp)
  rw [List.map_map]
  exact h.keys_nodup

theorem Represents.without_entries (h : Represents s (a ++ (i, k, v) :: b)) :
    Recency.without k ((a ++ (i, k, v) :: b).map Prod.snd) = (a ++ b).map Prod.snd := by
  have hkeys := h.keys_nodup
  rw [List.map_append, List.map_cons, List.nodup_middle, ← List.map_append] at hkeys
  have hother : ∀ p ∈ (a ++ b).map Prod.snd, p.1 ≠ k := by
    rintro p hp rfl
    obtain ⟨x, hx, rfl⟩ := List.mem_map.1 hp
    exact (List.nodup_cons.1 hkeys).1 (List.mem_map.2 ⟨x, hx, rfl⟩)
  rw [List.map_append] at hother
  rw [Recency.without, List.map_append, List.map_cons, List.filter_append,
    List.filter_cons_of_neg (by simp), ← List.filter_append, List.map_append, List.filter_eq_self]
  simpa using hother

omit [DecidableEq κ] in
/-- A key is held in some slot or in none. -/
theorem held_or_absent (order : List (Nat × κ × ν)) (k : κ) :
    (∃ a i v b, order = a ++ (i, k, v) :: b) ∨ ∀ x ∈ order, x.2.1 ≠ k := by
  by_cases h : ∃ x ∈ order, x.2.1 = k
  · obtain ⟨⟨i, k', v⟩, hx, rfl⟩ := h
    obtain ⟨a, b, rfl⟩ := List.append_of_mem hx
    exact .inl ⟨a, i, v, b, rfl⟩
  · exact .inr fun x hx hk => h ⟨x, hx, hk⟩

theorem lookup_entries_eq_none (hk : ∀ x ∈ order, x.2.1 ≠ k) :
    (order.map Prod.snd).lookup k = none := by
  refine lookup_eq_none fun p hp => ?_
  obtain ⟨x, hx, rfl⟩ := List.mem_map.1 hp
  exact hk x hx

/-! ### Making room -/

/-- The last entry leaves the links and the index, and its slot becomes free. -/
theorem Represents.evict_eq (h : Represents s (order ++ [(i, k, v)])) :
    s.evict.1 = { s.unlink i with
      index := s.index.filter fun p => p.1 ≠ k
      slots := (s.unlink i).slots.set i none
      free := i :: s.free } := by
  have htail : s.tail = some i := by
    rw [h.tail_eq]
    simp
  have hslot := h.toThreaded.slot?_unlink.trans h.toThreaded.slot?_eq
  have hlinks := relinks_unlink s i
  rw [Shard.evict, htail]
  dsimp only
  rw [hslot, hlinks.index_eq, hlinks.free_eq]

theorem Represents.slot?_evict (h : Represents s (order ++ [(i, k, v)])) (j : Nat) :
    s.evict.1.slot? j = if j = i then none else (s.unlink i).slot? j := by
  rw [h.evict_eq]
  exact slot?_of_set rfl (lt_of_slot? (h.toThreaded.slot?_unlink.trans h.toThreaded.slot?_eq)) j

/-- The index without a key leads to all other entries. -/
theorem filter_index (hk : k ∉ order.map fun x => x.2.1)
    (hindex : s.index.Perm ((order ++ [(i, k, v)]).map fun x => (x.2.1, x.1))) :
    (s.index.filter fun p => p.1 ≠ k).Perm (order.map fun x => (x.2.1, x.1)) := by
  refine (hindex.filter _).trans (List.Perm.of_eq ?_)
  rw [List.map_append, List.filter_append, List.filter_eq_self.2]
  · simp
  · intro p hp
    obtain ⟨x, hx, rfl⟩ := List.mem_map.1 hp
    rw [decide_eq_true_eq]
    rintro rfl
    exact hk (List.mem_map.2 ⟨x, hx, rfl⟩)

/-- **The entry that is evicted is the one used least recently.** -/
theorem Represents.evict (h : Represents s (order ++ [(i, k, v)])) :
    Represents s.evict.1 order := by
  have hlinks := relinks_unlink s i
  have hnodup := h.nodup
  rw [numbers_append, List.nodup_append'] at hnodup
  obtain ⟨-, -, hdisjoint⟩ := hnodup
  have hkeys := h.keys_nodup
  rw [List.map_append, List.nodup_append'] at hkeys
  obtain ⟨hkeys, -, hother⟩ := hkeys
  have hi : i < s.slots.length := lt_of_slot? h.toThreaded.slot?_eq
  refine ⟨?_, hkeys, ?_, fun j hj => ?_, ?_⟩
  · have hunlinked : Threaded (s.unlink i) (order ++ []) := h.toThreaded.unlink
    rw [List.append_nil] at hunlinked
    refine hunlinked.congr (fun j hj => ?_) (by rw [h.evict_eq]) (by rw [h.evict_eq])
    have hne : j ≠ i := by
      rintro rfl
      exact hdisjoint hj (by simp)
    rw [h.slot?_evict, if_neg hne]
  · rw [h.evict_eq]
    exact filter_index (fun hk => hother hk (by simp)) h.index_perm
  · rw [h.slot?_evict, h.evict_eq, List.length_set, hlinks.length_eq]
    rw [h.evict_eq] at hj
    rcases List.mem_cons.1 hj with rfl | hj
    · exact ⟨hi, if_pos rfl⟩
    · obtain ⟨hlt, hvacant⟩ := h.free_vacant j hj
      exact ⟨hlt, by rw [hlinks.vacant j hvacant, ite_self]⟩
  · rw [h.evict_eq]
    refine List.nodup_cons.2 ⟨fun hi => ?_, h.free_nodup⟩
    have hvacant := (h.free_vacant i hi).2
    rw [h.toThreaded.slot?_eq] at hvacant
    cases hvacant

end

/-! ### Putting in -/

/-- An entry that is put into a slot that no entry holds. -/
theorem Represents.pushFront (h : Represents s order) (hi : i ∉ numbers order)
    (hk : ∀ x ∈ order, x.2.1 ≠ k) (hslot : t.slot? i = some ⟨k, v, none, none⟩)
    (hslots : ∀ j ∈ numbers order, t.slot? j = s.slot? j) (hhead : t.head = s.head)
    (htail : t.tail = s.tail) (hindex : t.index = (k, i) :: s.index)
    (hfree : ∀ j ∈ t.free, j < t.slots.length ∧ t.slot? j = none) (hnodup : t.free.Nodup) :
    Represents (t.pushFront i) ((i, k, v) :: order) := by
  have hlinks := relinks_pushFront t i
  refine ⟨(h.toThreaded.congr hslots hhead htail).pushFront hi hslot, ?_, ?_, fun j hj => ?_, ?_⟩
  · refine List.nodup_cons.2 ⟨fun hmem => ?_, h.keys_nodup⟩
    obtain ⟨x, hx, hkey⟩ := List.mem_map.1 hmem
    exact hk x hx hkey
  · rw [hlinks.index_eq, hindex]
    exact h.index_perm.cons _
  · rw [hlinks.free_eq] at hj
    rw [hlinks.length_eq]
    exact ⟨(hfree j hj).1, hlinks.vacant j (hfree j hj).2⟩
  · rw [hlinks.free_eq]
    exact hnodup

theorem Represents.place (h : Represents s order) (hk : ∀ x ∈ order, x.2.1 ≠ k) (v : ν) :
    ∃ i, Represents (s.place k v) ((i, k, v) :: order) := by
  unfold Shard.place
  split
  · next i free hfree =>
    obtain ⟨hlt, hvacant⟩ := h.free_vacant i (by simp [hfree])
    have hnodup := h.free_nodup
    rw [hfree, List.nodup_cons] at hnodup
    have hi : i ∉ numbers order := fun hmem => by
      obtain ⟨e, he⟩ := h.linked.exists_slot hmem
      rw [he] at hvacant
      cases hvacant
    have hset := slot?_of_set (t := { s with
      slots := s.slots.set i (some ⟨k, v, none, none⟩), free := free, index := (k, i) :: s.index })
      rfl hlt
    refine ⟨i, h.pushFront hi hk ?_ (fun j hj => ?_) rfl rfl rfl (fun j hj => ⟨?_, ?_⟩) hnodup.2⟩
    · rw [hset, if_pos rfl]
    · have hne : j ≠ i := fun heq => hi (heq ▸ hj)
      rw [hset, if_neg hne]
    · rw [List.length_set]
      exact (h.free_vacant j (by simp [hfree, hj])).1
    · have hne : j ≠ i := fun heq => hnodup.1 (heq ▸ hj)
      rw [hset, if_neg hne]
      exact (h.free_vacant j (by simp [hfree, hj])).2
  · next hfree =>
    have hi : s.slots.length ∉ numbers order := fun hmem => by
      obtain ⟨e, he⟩ := h.linked.exists_slot hmem
      exact absurd (lt_of_slot? he) (Nat.lt_irrefl _)
    have happend := slot?_of_append (t := { s with
      slots := s.slots ++ [some ⟨k, v, none, none⟩], index := (k, s.slots.length) :: s.index }) rfl
    refine ⟨s.slots.length, h.pushFront hi hk ?_ (fun j hj => ?_) rfl rfl rfl (fun j hj => ?_) ?_⟩
    · rw [happend, if_pos rfl]
    · have hne : j ≠ s.slots.length := fun heq => hi (heq ▸ hj)
      rw [happend, if_neg hne]
    · rw [hfree] at hj
      cases hj
    · exact h.free_nodup

/-! ### Operations -/

/-- A shard of a bound holds a list in the order of last use. -/
structure Refines (bound : Nat) (s : Shard κ ν) (l : List (κ × ν)) : Prop where
  capacity_eq : s.capacity = bound
  length_le : 0 < bound → l.length ≤ bound
  represents : ∃ order, s.Represents order ∧ order.map Prod.snd = l

section
variable {bound : Nat} {l : List (κ × ν)}

theorem represents_nil (bound : Nat) : Represents ({ capacity := bound } : Shard κ ν) [] where
  linked := trivial
  nodup := .nil
  head_eq := rfl
  tail_eq := rfl
  keys_nodup := .nil
  index_perm := .nil
  free_vacant _ hi := by cases hi
  free_nodup := .nil

theorem refines_empty (bound : Nat) : Refines bound ({ capacity := bound } : Shard κ ν) [] where
  capacity_eq := rfl
  length_le _ := Nat.zero_le _
  represents := ⟨[], represents_nil bound, rfl⟩

theorem Refines.clear (h : Refines bound s l) : Refines bound s.clear [] := by
  rw [Shard.clear, h.capacity_eq]
  exact refines_empty bound

theorem Refines.size_eq (h : Refines bound s l) : s.size = l.length := by
  obtain ⟨order, hr, rfl⟩ := h.represents
  rw [hr.size_eq, List.length_map]

/-- The same entries in another order, or with another value. -/
theorem Refines.reordered (h : Refines bound s (order.map Prod.snd)) (ht : t.Represents order')
    (hcapacity : t.capacity = s.capacity) (hlength : order'.length = order.length) :
    Refines bound t (order'.map Prod.snd) where
  capacity_eq := hcapacity.trans h.capacity_eq
  length_le hbound := by
    have hle := h.length_le hbound
    rwa [List.length_map, ← hlength, ← List.length_map (f := Prod.snd)] at hle
  represents := ⟨order', ht, rfl⟩

variable [DecidableEq κ]

theorem Refines.contains_eq (h : Refines bound s l) (k : κ) :
    s.contains k = (l.lookup k).isSome := by
  obtain ⟨order, hr, rfl⟩ := h.represents
  rcases held_or_absent order k with ⟨a, i, v, b, rfl⟩ | hk
  · rw [contains, hr.lookup_index, hr.lookup_entries]
    rfl
  · rw [contains, hr.lookup_index_eq_none hk, lookup_entries_eq_none hk]
    rfl

/-- **Looking a key up is looking it up in the list.** -/
theorem Refines.get (h : Refines bound s l) (k : κ) :
    (s.get k).1 = (Recency.get l k).1 ∧ Refines bound (s.get k).2 (Recency.get l k).2 := by
  obtain ⟨order, hr, rfl⟩ := h.represents
  rcases held_or_absent order k with ⟨a, i, v, b, rfl⟩ | hk
  · rw [Shard.get, hr.find?_eq, Recency.get, hr.lookup_entries, hr.without_entries]
    exact ⟨rfl, h.reordered hr.touch (relinks_touch s i).capacity_eq (by simp; omega)⟩
  · rw [Shard.get, hr.find?_eq_none hk, Recency.get, lookup_entries_eq_none hk]
    exact ⟨rfl, h⟩

theorem capacity_evict (s : Shard κ ν) : s.evict.1.capacity = s.capacity := by
  unfold Shard.evict
  split
  · rfl
  · next i _ => exact (relinks_unlink s i).capacity_eq

omit [DecidableEq κ] in
theorem capacity_place (s : Shard κ ν) (k : κ) (v : ν) :
    (s.place k v).capacity = s.capacity := by
  unfold Shard.place
  split <;> exact (relinks_pushFront _ _).capacity_eq

/-- **Adding a key is adding it to the list**, which is full when the shard is. -/
theorem Refines.insert (h : Refines bound s l) {k : κ} (hk : l.lookup k = none) (v : ν) :
    Refines bound (s.insert k v).1 (Recency.insert bound l k v) := by
  have hsize := h.size_eq
  obtain ⟨order, hr, rfl⟩ := h.represents
  have habsent : ∀ x ∈ order, x.2.1 ≠ k := by
    rintro x hx rfl
    obtain ⟨a, b, rfl⟩ := List.append_of_mem hx
    rw [hr.lookup_entries] at hk
    cases hk
  unfold Shard.insert Recency.insert
  rw [h.capacity_eq, hsize]
  split
  · next hfull =>
    rcases List.eq_nil_or_concat' order with rfl | ⟨kept, ⟨i, k', v'⟩, rfl⟩
    · exact absurd hfull.1 (by simpa using hfull.2)
    · obtain ⟨j, hplaced⟩ := hr.evict.place (fun x hx => habsent x (List.mem_append_left _ hx)) v
      refine ⟨?_, fun hbound => ?_, _, hplaced, ?_⟩
      · rw [capacity_place, capacity_evict, h.capacity_eq]
      · simpa using h.length_le hbound
      · simp
  · next hroom =>
    obtain ⟨j, hplaced⟩ := hr.place habsent v
    refine ⟨?_, fun hbound => ?_, _, hplaced, rfl⟩
    · rw [capacity_place, h.capacity_eq]
    · exact Nat.lt_of_not_le fun hle => hroom ⟨hbound, hle⟩

/-- **Setting a key is setting it in the list.** -/
theorem Refines.set (h : Refines bound s l) (k : κ) (v : ν) :
    Refines bound (s.set k v).1 (Recency.set bound l k v) := by
  obtain ⟨order, hr, rfl⟩ := h.represents
  rcases held_or_absent order k with ⟨a, i, v', b, rfl⟩ | hk
  · have hset : (s.set k v).1 = (s.relink i fun e => { e with value := v }).touch i := by
      rw [Shard.set, hr.find?_eq]
    rw [hset, Recency.set, hr.lookup_entries, if_pos Option.isSome_some, hr.without_entries]
    exact h.reordered (hr.relink_value v).touch
      ((relinks_relink s i _).trans (relinks_touch _ i)).capacity_eq (by simp; omega)
  · have hset : (s.set k v).1 = (s.insert k v).1 := by
      rw [Shard.set, hr.find?_eq_none hk]
    rw [hset, Recency.set, lookup_entries_eq_none hk, if_neg (by simp)]
    exact h.insert (lookup_entries_eq_none hk) v

/-- **Storing a key is storing it in the list.** -/
theorem Refines.store (h : Refines bound s l) (k : κ) (v : ν) :
    Refines bound (s.store k v).1 (Recency.store bound l k v) := by
  rw [Shard.store, Recency.store, h.contains_eq]
  split
  · exact h
  · next habsent => exact h.insert (Option.not_isSome_iff_eq_none.1 habsent) v

end

end Shard

end EntityGraph.Cache
