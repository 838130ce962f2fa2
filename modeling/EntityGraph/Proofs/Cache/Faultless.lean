import EntityGraph.Proofs.Cache.Refinement
import EntityGraph.Proofs.Cache.Slab

/-!
# Shards without faults

An access to a slot fails if there is no such slot or if it is vacant. `Checked` has the operations
of a shard with all the accesses that they make, each of which may fail. On a packed shard none
does, and the answers and the shards are the same (`Checked.apply_eq`). So a shard that is used from
the start on never meets a fault and stays tidy (`tidy_after`). The shards of a cache are used in
this way, whatever a program does with the cache (`Sharded.isUsed_of_mem_trace`).
-/

namespace EntityGraph.Cache

variable {κ ν : Type}

/-- Why a slot cannot be read. -/
inductive Fault
  | outOfBounds (slot : Nat)
  | vacant (slot : Nat)
  deriving DecidableEq, Repr

namespace Shard

/-! ### Operations that check what they read -/

namespace Checked

/-- The entry of a slot. -/
def entry (s : Shard κ ν) (i : Nat) : Except Fault (Slot κ ν) :=
  match s.slots[i]? with
  | none => .error (.outOfBounds i)
  | some none => .error (.vacant i)
  | some (some e) => .ok e

/-- Changes the entry of a slot. -/
def modify (s : Shard κ ν) (i : Nat) (f : Slot κ ν → Slot κ ν) : Except Fault (Shard κ ν) := do
  let _ ← entry s i
  return s.relink i f

/-- Fills or vacates a slot; answers what it held. -/
def replace (s : Shard κ ν) (i : Nat) (content : Option (Slot κ ν)) :
    Except Fault (Option (Slot κ ν) × Shard κ ν) :=
  match s.slots[i]? with
  | none => .error (.outOfBounds i)
  | some held => .ok (held, { s with slots := s.slots.set i content })

def setOlder (s : Shard κ ν) (i older : Option Nat) : Except Fault (Shard κ ν) :=
  match i with
  | some i => modify s i fun e => { e with older := older }
  | none => .ok { s with head := older }

def setNewer (s : Shard κ ν) (i newer : Option Nat) : Except Fault (Shard κ ν) :=
  match i with
  | some i => modify s i fun e => { e with newer := newer }
  | none => .ok { s with tail := newer }

def unlink (s : Shard κ ν) (i : Nat) : Except Fault (Shard κ ν) := do
  let e ← entry s i
  let s ← setOlder s e.newer e.older
  setNewer s e.older e.newer

def pushFront (s : Shard κ ν) (i : Nat) : Except Fault (Shard κ ν) := do
  let linked ← modify s i fun e => { e with newer := none, older := s.head }
  let linked ← setNewer linked s.head (some i)
  return { linked with head := some i }

def touch (s : Shard κ ν) (i : Nat) : Except Fault (Shard κ ν) :=
  if s.head = some i then .ok s else do
    let s ← unlink s i
    pushFront s i

section
variable [DecidableEq κ]

def get (s : Shard κ ν) (k : κ) : Except Fault (Option ν × Shard κ ν) :=
  match s.index.lookup k with
  | none => .ok (none, s)
  | some i => do
    let s ← touch s i
    let e ← entry s i
    return (some e.value, s)

def evict (s : Shard κ ν) : Except Fault (Shard κ ν × Option Nat) :=
  match s.tail with
  | none => .ok (s, none)
  | some i => do
    let rest ← unlink s i
    let (held, rest) ← replace rest i none
    let index :=
      match held with
      | some e => rest.index.filter fun p => p.1 ≠ e.key
      | none => rest.index
    return ({ rest with index := index, free := i :: rest.free }, some i)

def place (s : Shard κ ν) (k : κ) (v : ν) : Except Fault (Shard κ ν) :=
  let entry : Slot κ ν := ⟨k, v, none, none⟩
  match s.free with
  | i :: free => do
    let (_, s) ← replace s i (some entry)
    pushFront { s with free := free, index := (k, i) :: s.index } i
  | [] =>
    pushFront
      { s with slots := s.slots ++ [some entry], index := (k, s.slots.length) :: s.index }
      s.slots.length

def insert (s : Shard κ ν) (k : κ) (v : ν) : Except Fault (Shard κ ν × Option Nat) := do
  let room ← if 0 < s.capacity ∧ s.capacity ≤ s.size then evict s else .ok (s, none)
  let s ← place room.1 k v
  return (s, room.2)

def set (s : Shard κ ν) (k : κ) (v : ν) : Except Fault (Shard κ ν × Option Nat) :=
  match s.index.lookup k with
  | some i => do
    let s ← modify s i fun e => { e with value := v }
    let s ← touch s i
    return (s, none)
  | none => insert s k v

def store (s : Shard κ ν) (k : κ) (v : ν) : Except Fault (Shard κ ν × Option Nat) :=
  if s.contains k then .ok (s, none) else insert s k v

def getOrInsert (s : Shard κ ν) (k : κ) (v : ν) : Except Fault (Shard κ ν) := do
  match ← get s k with
  | (some _, s) => return s
  | (none, s) => do
    let s ← insert s k v
    return s.1

def apply (s : Shard κ ν) : Op κ ν → Except Fault (Shard κ ν)
  | .get k => do
    let s ← get s k
    return s.2
  | .store k v => do
    let s ← store s k v
    return s.1
  | .set k v => do
    let s ← set s k v
    return s.1
  | .getOrInsert k v => getOrInsert s k v
  | .evict => do
    let s ← evict s
    return s.1
  | .clear => .ok s.clear

/-- The shard that some operations leave, one after the other, unless an access fails. -/
def after (capacity : Nat) (ops : List (Op κ ν)) : Except Fault (Shard κ ν) :=
  ops.foldlM apply { capacity := capacity }

end

end Checked

/-! ### Slots that are held -/

variable {bound i : Nat} {s t : Shard κ ν} {order a b : List (Nat × κ × ν)} {k : κ} {v : ν}

@[simp] theorem isSome_relink (s : Shard κ ν) (i : Nat) (f : Slot κ ν → Slot κ ν) (j : Nat) :
    ((s.relink i f).slot? j).isSome = (s.slot? j).isSome := by
  rw [slot?_relink]
  split
  · rw [Option.isSome_map]
  · rfl

@[simp] theorem isSome_setOlder (s : Shard κ ν) (p o : Option Nat) (j : Nat) :
    ((s.setOlder p o).slot? j).isSome = (s.slot? j).isSome := by
  cases p with
  | none => rfl
  | some i => exact isSome_relink s i _ j

theorem Threaded.isSome_slot? (h : Threaded s order) (hi : i ∈ numbers order) :
    (s.slot? i).isSome :=
  Option.isSome_iff_exists.2 (h.linked.exists_slot hi)

namespace Checked

theorem entry_eq {e : Slot κ ν} (h : s.slot? i = some e) : entry s i = .ok e := by
  rw [entry, Option.join_eq_some_iff.1 h]

theorem modify_eq (h : (s.slot? i).isSome) (f : Slot κ ν → Slot κ ν) :
    modify s i f = .ok (s.relink i f) := by
  obtain ⟨e, he⟩ := Option.isSome_iff_exists.1 h
  rw [modify, entry_eq he]
  rfl

theorem replace_eq (hi : i < s.slots.length) (content : Option (Slot κ ν)) :
    replace s i content = .ok (s.slot? i, { s with slots := s.slots.set i content }) := by
  rw [replace, slot?, List.getElem?_eq_getElem hi]
  rfl

theorem setOlder_eq {p : Option Nat} (h : ∀ i, p = some i → (s.slot? i).isSome)
    (o : Option Nat) : setOlder s p o = .ok (s.setOlder p o) := by
  cases p with
  | none => rfl
  | some i => exact modify_eq (h i rfl) _

theorem setNewer_eq {p : Option Nat} (h : ∀ i, p = some i → (s.slot? i).isSome)
    (n : Option Nat) : setNewer s p n = .ok (s.setNewer p n) := by
  cases p with
  | none => rfl
  | some i => exact modify_eq (h i rfl) _

/-! ### Links -/

/-- An entry and both of its neighbours are held. -/
theorem unlink_eq (h : Threaded s (a ++ (i, k, v) :: b)) : unlink s i = .ok (s.unlink i) := by
  have hnewer : ∀ j, (numbers a).getLast? = some j → (s.slot? j).isSome := fun j hj =>
    h.isSome_slot? (by simp [List.mem_of_getLast? hj])
  have holder : ∀ j, (numbers b).head? = some j →
      ((s.setOlder (numbers a).getLast? (numbers b).head?).slot? j).isSome := fun j hj => by
    rw [isSome_setOlder]
    exact h.isSome_slot? (by simp [List.mem_of_head? hj])
  rw [unlink, entry_eq h.slot?_eq, Shard.unlink, h.slot?_eq]
  refine Eq.trans ?_ (setNewer_eq holder _)
  dsimp only [bind, Except.bind]
  rw [setOlder_eq hnewer]

/-- The entry that is put in front is held, and so is the first one. -/
theorem pushFront_eq (h : Threaded s order) (hi : (s.slot? i).isSome) :
    pushFront s i = .ok (s.pushFront i) := by
  have hhead : ∀ j, s.head = some j →
      ((s.relink i fun e => { e with newer := none, older := s.head }).slot? j).isSome :=
    fun j hj => by
      rw [isSome_relink]
      exact h.isSome_slot? (List.mem_of_head? (h.head_eq ▸ hj))
  rw [pushFront, modify_eq hi]
  dsimp only [bind, Except.bind]
  rw [setNewer_eq hhead]
  rfl

theorem touch_eq (h : Threaded s (a ++ (i, k, v) :: b)) : touch s i = .ok (s.touch i) := by
  rw [touch, Shard.touch]
  split
  · rfl
  · have hslot := h.slot?_unlink.trans h.slot?_eq
    rw [unlink_eq h]
    exact pushFront_eq h.unlink (Option.isSome_iff_exists.2 ⟨_, hslot⟩)

/-! ### Operations -/

/-- The slot of a new entry is a free one, which is there, or is made. -/
theorem place_eq (h : Represents s order) (k : κ) (v : ν) :
    place s k v = .ok (s.place k v) := by
  rw [place, Shard.place]
  cases hfree : s.free with
  | cons i free =>
    obtain ⟨hlt, hvacant⟩ := h.free_vacant i (by simp [hfree])
    have hset := slot?_of_set (t := { s with
      slots := s.slots.set i (some ⟨k, v, none, none⟩), free := free, index := (k, i) :: s.index })
      rfl hlt
    dsimp only
    rw [replace_eq hlt]
    refine pushFront_eq (h.toThreaded.congr (fun j hj => ?_) rfl rfl) ?_
    · have hne : j ≠ i := by
        rintro rfl
        have hheld := h.isSome_slot? hj
        rw [hvacant] at hheld
        cases hheld
      rw [hset, if_neg hne]
    · rw [hset, if_pos rfl]
      rfl
  | nil =>
    refine pushFront_eq (h.toThreaded.congr (fun j hj => ?_) rfl rfl) ?_
    · obtain ⟨e, he⟩ := h.linked.exists_slot hj
      exact (slot?_of_append rfl j).trans (if_neg (Nat.ne_of_lt (lt_of_slot? he)))
    · rw [slot?_of_append rfl, if_pos rfl]
      rfl

section
variable [DecidableEq κ]

theorem get_eq (h : Represents s order) (k : κ) : get s k = .ok (s.get k) := by
  rcases held_or_absent order k with ⟨a, i, v, b, rfl⟩ | hk
  · have hslot : (s.touch i).slot? i = _ := h.toThreaded.touch.slot?_eq (a := [])
    rw [get, h.lookup_index, h.get_eq_some]
    dsimp only
    rw [touch_eq h.toThreaded]
    dsimp only [bind, Except.bind]
    rw [entry_eq hslot]
    rfl
  · rw [get, h.lookup_index_eq_none hk, h.get_eq_none hk]

theorem evict_eq (h : Represents s order) : evict s = .ok s.evict := by
  rcases List.eq_nil_or_concat' order with rfl | ⟨kept, ⟨i, k, v⟩, rfl⟩
  · rw [evict, Shard.evict, h.tail_eq]
    rfl
  · have htail : s.tail = some i := by
      rw [h.tail_eq]
      simp
    have hslot := h.toThreaded.slot?_unlink.trans h.toThreaded.slot?_eq
    rw [evict, Shard.evict, htail]
    dsimp only
    rw [unlink_eq h.toThreaded]
    dsimp only [bind, Except.bind]
    rw [replace_eq (lt_of_slot? hslot), hslot]
    rfl

theorem insert_eq (h : Packed bound s order) (k : κ) (v : ν) :
    insert s k v = .ok (s.insert k v) := by
  unfold insert Shard.insert
  split
  · rw [evict_eq h.toRepresents]
    dsimp only [bind, Except.bind]
    rw [place_eq h.exists_evict.toRepresents]
    rfl
  · dsimp only [bind, Except.bind]
    rw [place_eq h.toRepresents]
    rfl

theorem store_eq (h : Packed bound s order) (k : κ) (v : ν) :
    store s k v = .ok (s.store k v) := by
  unfold store Shard.store
  split
  · rfl
  · exact insert_eq h k v

theorem set_eq (h : Packed bound s order) (k : κ) (v : ν) : set s k v = .ok (s.set k v) := by
  rcases held_or_absent order k with ⟨a, i, v', b, rfl⟩ | hk
  · rw [set, h.lookup_index, Shard.set, h.find?_eq]
    dsimp only
    rw [modify_eq (h.isSome_slot? (by simp))]
    dsimp only [bind, Except.bind]
    rw [touch_eq (h.relink_value v).toThreaded]
    rfl
  · rw [set, h.lookup_index_eq_none hk, Shard.set, h.find?_eq_none hk]
    exact insert_eq h k v

theorem getOrInsert_eq (h : Packed bound s order) (k : κ) (v : ν) :
    getOrInsert s k v = .ok (s.getOrInsert k v) := by
  rw [getOrInsert, get_eq h.toRepresents, Shard.getOrInsert]
  dsimp only [bind, Except.bind]
  rcases held_or_absent order k with ⟨a, i, v', b, rfl⟩ | hk
  · rw [h.get_eq_some]
    rfl
  · rw [h.get_eq_none hk]
    dsimp only
    rw [insert_eq h]
    rfl

/-- **No operation on a packed shard meets a fault.** -/
theorem apply_eq (h : Packed bound s order) (op : Op κ ν) : apply s op = .ok (op.apply s) := by
  cases op with
  | get k =>
    rw [apply, get_eq h.toRepresents]
    rfl
  | store k v =>
    rw [apply, store_eq h]
    rfl
  | set k v =>
    rw [apply, set_eq h]
    rfl
  | getOrInsert k v => exact getOrInsert_eq h k v
  | evict =>
    rw [apply, evict_eq h.toRepresents]
    rfl
  | clear => rfl

theorem applyAll_eq (h : Packed bound s order) (ops : List (Op κ ν)) :
    ops.foldlM apply s = .ok (ops.foldl Op.apply s) := by
  induction ops generalizing s order with
  | nil => rfl
  | cons op ops ih =>
    obtain ⟨order', h'⟩ := h.apply op
    rw [List.foldlM_cons, apply_eq h]
    exact ih h'

theorem after_eq (capacity : Nat) (ops : List (Op κ ν)) :
    after capacity ops = .ok (Shard.after capacity ops) :=
  applyAll_eq (packed_nil capacity) ops

end

end Checked

section
variable [DecidableEq κ]

/-- **The slab of a shard, whatever is done to it.** The links meet each held slot once, from the
head to the tail and back; the index leads from each key to the slot that holds it; a slot is linked
or free, once and never both; and free slots are vacant. So no access to a slot ever fails, and a
bounded shard never makes more slots than its bound. -/
theorem tidy_after (capacity : Nat) (ops : List (Op κ ν)) :
    (∃ order, Tidy (after capacity ops) order) ∧
    Checked.after capacity ops = .ok (after capacity ops) ∧
    (0 < capacity → (after capacity ops).slots.length ≤ capacity) := by
  obtain ⟨order, h⟩ := packed_after capacity ops
  exact ⟨⟨_, h.tidy⟩, Checked.after_eq capacity ops, h.slots_le⟩

end

/-- Evicts for room and without need, and uses the slots again. -/
def reusing : List (Op Nat Nat) :=
  [.store 1 10, .set 2 20, .get 1, .getOrInsert 3 30, .set 1 11, .evict, .store 4 40]

theorem tidy_after_reusing :
    (after 2 reusing).index = [(4, 1), (1, 0)] ∧ 0 < 2 ∧ (∃ order, Tidy (after 2 reusing) order) ∧
    Checked.after 2 reusing = .ok (after 2 reusing) ∧ (after 2 reusing).slots.length ≤ 2 := by
  obtain ⟨htidy, hchecked, hle⟩ := tidy_after 2 reusing
  exact ⟨by decide, by decide, htidy, hchecked, hle (by decide)⟩

end Shard

/-! ### Shards of a cache -/

namespace Sharded

/-- Every shard is what some operations leave of a new one. -/
def IsUsed [DecidableEq κ] (bound : Nat) (c : Sharded κ ν) : Prop :=
  ∀ s ∈ c.shards, ∃ ops, s = Shard.after bound ops

section
variable [DecidableEq κ] {bound : Nat} {c : Sharded κ ν} {k : κ}

theorem isUsed_empty (hash : κ → Nat) (capacity shards : Nat) :
    (empty hash capacity shards : Sharded κ ν).IsUsed (shareOf capacity (max 1 shards)) :=
  fun _ hs => ⟨[], List.eq_of_mem_replicate hs⟩

theorem IsUsed.set_shards (h : c.IsUsed bound) {s : Shard κ ν} {i : Nat} {evicted : List Nat}
    (hs : ∃ ops, s = Shard.after bound ops) :
    IsUsed bound { c with shards := c.shards.set i s, evicted := evicted } := by
  intro t ht
  rcases List.mem_or_eq_of_mem_set ht with ht | rfl
  · exact h t ht
  · exact hs

/-- One more operation on a shard. -/
theorem IsUsed.onShard {β : Type} (h : c.IsUsed bound) (k : κ) (default : β)
    {act : Shard κ ν → β × Shard κ ν × Option Nat} (op : Shard.Op κ ν)
    (hop : ∀ s, c.shards[c.shardOf k]? = some s → (act s).2.1 = op.apply s) :
    (c.onShard k default act).2.IsUsed bound := by
  unfold Sharded.onShard
  split
  · exact h
  · next s hs =>
    obtain ⟨ops, rfl⟩ := h s (List.mem_of_getElem? hs)
    refine h.set_shards ⟨ops ++ [op], ?_⟩
    rw [hop _ hs, Shard.after, Shard.after, List.foldl_concat]

theorem IsUsed.load (h : c.IsUsed bound) (k : κ) : (c.load k).2.IsUsed bound :=
  h.onShard k none (.get k) fun _ _ => rfl

/-- A key that is looked up in vain leaves its shard as it is. -/
theorem get_of_load_eq_none (hk : (c.load k).1 = none) {s : Shard κ ν}
    (hs : c.shards[c.shardOf k]? = some s) : s.get k = (none, s) := by
  have hget : (s.get k).1 = none := by
    rwa [Sharded.load, Sharded.onShard, hs] at hk
  unfold Shard.get at hget ⊢
  split at hget
  · cases hget
  · rfl

theorem load_eq_of_load_eq_none (hk : (c.load k).1 = none) : (c.load k).2 = c := by
  rw [Sharded.load, Sharded.onShard]
  split
  · rfl
  · next s hs =>
    obtain ⟨hlt, rfl⟩ := List.getElem?_eq_some_iff.1 hs
    rw [get_of_load_eq_none hk hs]
    simp

/-- A key that was looked up in vain is added. -/
theorem IsUsed.insert (h : c.IsUsed bound) (hk : (c.load k).1 = none) (v : ν) :
    ((c.load k).2.onShard k () fun s => ((), s.insert k v)).2.IsUsed bound := by
  rw [load_eq_of_load_eq_none hk]
  refine h.onShard k () (.getOrInsert k v) fun s hs => ?_
  rw [Shard.Op.apply, Shard.getOrInsert, get_of_load_eq_none hk hs]

theorem IsUsed.getOrInsertWith (h : c.IsUsed bound) (k : κ)
    {init init' : Sharded κ ν → ν × Sharded κ ν}
    (hinit : ∀ {c d}, c = d ∧ c.IsUsed bound →
      Agree (fun c d => c = d ∧ c.IsUsed bound) (init c) (init' d)) :
    Agree (fun c d => c = d ∧ c.IsUsed bound) (c.getOrInsertWith k init)
      (c.getOrInsertWith k init') := by
  have hload := h.load k
  unfold Sharded.getOrInsertWith
  rcases hc : c.load k with ⟨_ | v, c'⟩
  · rw [hc] at hload
    obtain ⟨hvalue, hcache, hmade⟩ := hinit ⟨rfl, hload⟩
    have hagain := hmade.load k
    have hinsert := hmade.insert (k := k) (v := (init c').1)
    dsimp only
    rw [← hvalue, ← hcache]
    rcases hd : (init c').2.load k with ⟨_ | held, d⟩
    · rw [hd] at hinsert
      exact ⟨rfl, rfl, hinsert rfl⟩
    · rw [hd] at hagain
      exact ⟨rfl, rfl, hagain⟩
  · rw [hc] at hload
    exact ⟨rfl, rfl, hload⟩

/-- A program only ever does to shards what may be done to them at once. -/
theorem similar_isUsed (bound : Nat) :
    Similar (operations : Operations (Sharded κ ν) κ ν) operations
      fun c d => c = d ∧ c.IsUsed bound where
  load := by
    rintro c _ ⟨rfl, h⟩ k
    exact ⟨rfl, rfl, h.load k⟩
  store := by
    rintro c _ ⟨rfl, h⟩ k v
    exact ⟨rfl, h.onShard k () (.store k v) fun _ _ => rfl⟩
  set := by
    rintro c _ ⟨rfl, h⟩ k v
    exact ⟨rfl, h.onShard k () (.set k v) fun _ _ => rfl⟩
  getOrInsertWith := by
    rintro c _ ⟨rfl, h⟩ k init init' hinit
    exact h.getOrInsertWith k hinit
  clear := by
    rintro c _ ⟨rfl, h⟩
    refine ⟨rfl, fun s hs => ?_⟩
    obtain ⟨t, ht, rfl⟩ := List.mem_map.1 hs
    obtain ⟨ops, rfl⟩ := h t ht
    refine ⟨ops ++ [.clear], ?_⟩
    rw [Shard.after, Shard.after, List.foldl_concat]
    rfl
  size := by
    rintro c _ ⟨rfl, -⟩
    rfl
  shardSizes := by
    rintro c _ ⟨rfl, -⟩
    rfl

/-- **Every shard of every cache on the way of a program is what some operations leave of a new
one**, so it is tidy and none of its accesses fails. -/
theorem isUsed_of_mem_trace (hash : κ → Nat) (capacity shards : Nat) {α : Type}
    (p : Program κ ν α) {x : Option ν × Sharded κ ν}
    (hx : x ∈ p.trace operations (empty hash capacity shards)) :
    x.2.IsUsed (shareOf capacity (max 1 shards)) := by
  obtain ⟨_, -, h⟩ := (similar_isUsed _).exists_of_mem_trace p
    ⟨rfl, isUsed_empty hash capacity shards⟩ hx
  exact h

end

end Sharded

end EntityGraph.Cache
