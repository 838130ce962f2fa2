/-!
# A bounded recency list in a slab

Entries live in numbered slots, linked from the most to the least recently used; an index finds the
slot of a key, and freed slots are used again, the last one first. A full shard gives up its least
recently used entry before it takes a new one.

The links say nothing about the entries themselves, so whatever holds of every stored pair goes on
holding under all operations that store only such pairs (`Holds`).
-/

namespace EntityGraph.Cache

/-- An entry and its neighbours in order of use. -/
structure Slot (κ ν : Type) where
  key : κ
  value : ν
  /-- The entry used next after this one. -/
  newer : Option Nat
  /-- The entry used last before this one. -/
  older : Option Nat
  deriving Repr

structure Shard (κ ν : Type) where
  index : List (κ × Nat) := []
  slots : List (Option (Slot κ ν)) := []
  free : List Nat := []
  /-- The most recently used entry. -/
  head : Option Nat := none
  /-- The least recently used entry. -/
  tail : Option Nat := none
  /-- The most entries held at once; zero means no bound. -/
  capacity : Nat
  deriving Repr

namespace Shard

variable {κ ν : Type}

def slot? (s : Shard κ ν) (i : Nat) : Option (Slot κ ν) := (s.slots[i]?).join

def size (s : Shard κ ν) : Nat := s.index.length

/-! ## Links -/

def relink (s : Shard κ ν) (i : Nat) (f : Slot κ ν → Slot κ ν) : Shard κ ν :=
  { s with slots := s.slots.modify i (Option.map f) }

/-- Points the newer side of an entry's gap past it. -/
def setOlder (s : Shard κ ν) (i : Option Nat) (older : Option Nat) : Shard κ ν :=
  match i with
  | some i => s.relink i fun e => { e with older := older }
  | none => { s with head := older }

/-- Points the older side of an entry's gap past it. -/
def setNewer (s : Shard κ ν) (i : Option Nat) (newer : Option Nat) : Shard κ ν :=
  match i with
  | some i => s.relink i fun e => { e with newer := newer }
  | none => { s with tail := newer }

/-- Takes an entry out of the order of use. -/
def unlink (s : Shard κ ν) (i : Nat) : Shard κ ν :=
  match s.slot? i with
  | none => s
  | some e => (s.setOlder e.newer e.older).setNewer e.older e.newer

/-- Puts an unlinked entry first in the order of use. -/
def pushFront (s : Shard κ ν) (i : Nat) : Shard κ ν :=
  let linked := s.relink i fun e => { e with newer := none, older := s.head }
  { linked.setNewer s.head (some i) with head := some i }

/-- Makes an entry the most recently used one. -/
def touch (s : Shard κ ν) (i : Nat) : Shard κ ν :=
  if s.head = some i then s else (s.unlink i).pushFront i

/-! ## Operations -/

section

variable [DecidableEq κ]

/-- The entry of a key with its slot. -/
def find? (s : Shard κ ν) (k : κ) : Option (Nat × Slot κ ν) := do
  let i ← s.index.lookup k
  let e ← s.slot? i
  if e.key = k then some (i, e) else none

def contains (s : Shard κ ν) (k : κ) : Bool := (s.index.lookup k).isSome

/-- Looks a key up and makes its entry the most recently used one. -/
def get (s : Shard κ ν) (k : κ) : Option ν × Shard κ ν :=
  match s.find? k with
  | some (i, e) => (some e.value, s.touch i)
  | none => (none, s)

/-- Drops the least recently used entry; answers its slot. -/
def evict (s : Shard κ ν) : Shard κ ν × Option Nat :=
  match s.tail with
  | none => (s, none)
  | some i =>
    let rest := s.unlink i
    let index :=
      match rest.slot? i with
      | some e => rest.index.filter fun p => p.1 ≠ e.key
      | none => rest.index
    ({ rest with index := index, slots := rest.slots.set i none, free := i :: rest.free }, some i)

/-- Stores an entry in a free slot, or in a new one, as the most recently used. -/
def place (s : Shard κ ν) (k : κ) (v : ν) : Shard κ ν :=
  let entry : Slot κ ν := ⟨k, v, none, none⟩
  match s.free with
  | i :: free =>
    { s with slots := s.slots.set i (some entry), free := free, index := (k, i) :: s.index }
      |>.pushFront i
  | [] =>
    { s with slots := s.slots ++ [some entry], index := (k, s.slots.length) :: s.index }
      |>.pushFront s.slots.length

/-- Adds a key that is not held, after making room for it; answers the slot that was evicted. -/
def insert (s : Shard κ ν) (k : κ) (v : ν) : Shard κ ν × Option Nat :=
  let room := if 0 < s.capacity ∧ s.capacity ≤ s.size then s.evict else (s, none)
  (room.1.place k v, room.2)

/-- Replaces the value of a key and makes it the most recently used one; or adds the key. -/
def set (s : Shard κ ν) (k : κ) (v : ν) : Shard κ ν × Option Nat :=
  match s.find? k with
  | some (i, _) => ((s.relink i fun e => { e with value := v }).touch i, none)
  | none => s.insert k v

/-- Adds a key unless it is held. -/
def store (s : Shard κ ν) (k : κ) (v : ν) : Shard κ ν × Option Nat :=
  if s.contains k then (s, none) else s.insert k v

def clear (s : Shard κ ν) : Shard κ ν := { capacity := s.capacity }

end

/-! ## What holds of every entry -/

/-- Every stored pair satisfies `P`. -/
def Holds (P : κ → ν → Prop) (s : Shard κ ν) : Prop :=
  ∀ e, some e ∈ s.slots → P e.key e.value

variable {P : κ → ν → Prop}

theorem holds_of_slots {s t : Shard κ ν} (h : Holds P s) (ht : t.slots = s.slots) : Holds P t := by
  intro e he
  exact h e (ht ▸ he)

theorem holds_empty (capacity : Nat) : Holds P ({ capacity := capacity } : Shard κ ν) := by
  intro e he
  simp at he

theorem mem_of_slot? {s : Shard κ ν} {i : Nat} {e : Slot κ ν} (h : s.slot? i = some e) :
    some e ∈ s.slots := by
  simp only [slot?, Option.join_eq_some_iff] at h
  exact List.mem_of_getElem? h

/-- Changing a slot in place keeps what holds if the change does. -/
theorem holds_relink {s : Shard κ ν} (h : Holds P s) (i : Nat) (f : Slot κ ν → Slot κ ν)
    (hf : ∀ e, P e.key e.value → P (f e).key (f e).value) : Holds P (s.relink i f) := by
  intro e he
  obtain ⟨j, hj, hje⟩ := List.getElem_of_mem he
  simp only [relink, List.getElem_modify] at hje
  split at hje
  · obtain ⟨e', he', rfl⟩ := Option.map_eq_some_iff.1 hje
    exact hf e' (h e' (he' ▸ List.getElem_mem _))
  · exact h e (hje ▸ List.getElem_mem _)

theorem holds_setOlder {s : Shard κ ν} (h : Holds P s) (i o : Option Nat) :
    Holds P (s.setOlder i o) := by
  cases i with
  | none => exact holds_of_slots h rfl
  | some i => exact holds_relink h i _ fun _ he => he

theorem holds_setNewer {s : Shard κ ν} (h : Holds P s) (i o : Option Nat) :
    Holds P (s.setNewer i o) := by
  cases i with
  | none => exact holds_of_slots h rfl
  | some i => exact holds_relink h i _ fun _ he => he

theorem holds_unlink {s : Shard κ ν} (h : Holds P s) (i : Nat) : Holds P (s.unlink i) := by
  unfold unlink
  split
  · exact h
  · exact holds_setNewer (holds_setOlder h _ _) _ _

theorem holds_pushFront {s : Shard κ ν} (h : Holds P s) (i : Nat) : Holds P (s.pushFront i) := by
  have hl := holds_relink h i (fun e => { e with newer := none, older := s.head }) fun _ he => he
  exact holds_of_slots (holds_setNewer hl s.head (some i)) rfl

theorem holds_touch {s : Shard κ ν} (h : Holds P s) (i : Nat) : Holds P (s.touch i) := by
  unfold touch
  split
  · exact h
  · exact holds_pushFront (holds_unlink h i) i

section

variable [DecidableEq κ]

theorem find?_some {s : Shard κ ν} {k : κ} {i : Nat} {e : Slot κ ν} (h : s.find? k = some (i, e)) :
    s.slot? i = some e ∧ e.key = k := by
  simp only [find?, Option.bind_eq_bind, Option.bind_eq_some_iff] at h
  obtain ⟨j, -, e', hs, hk⟩ := h
  split at hk
  · next hkey =>
    simp only [Option.some.injEq, Prod.mk.injEq] at hk
    obtain ⟨rfl, rfl⟩ := hk
    exact ⟨hs, hkey⟩
  · simp at hk

/-- A value that is found satisfies what holds of every entry. -/
theorem get_some {s : Shard κ ν} (h : Holds P s) {k : κ} {v : ν} (hv : (s.get k).1 = some v) :
    P k v := by
  unfold get at hv
  split at hv
  · next i e he =>
    obtain ⟨hs, rfl⟩ := find?_some he
    simp only [Option.some.injEq] at hv
    subst hv
    exact h e (mem_of_slot? hs)
  · simp at hv

theorem holds_get {s : Shard κ ν} (h : Holds P s) (k : κ) : Holds P (s.get k).2 := by
  unfold get
  split
  · exact holds_touch h _
  · exact h

theorem holds_evict {s : Shard κ ν} (h : Holds P s) : Holds P s.evict.1 := by
  unfold evict
  split
  · exact h
  · next i _ =>
    intro e he
    have hu := holds_unlink h i
    rcases List.mem_or_eq_of_mem_set he with hmem | heq
    · exact hu e hmem
    · simp at heq

omit [DecidableEq κ] in
theorem holds_place {s : Shard κ ν} (h : Holds P s) {k : κ} {v : ν} (hp : P k v) :
    Holds P (s.place k v) := by
  unfold place
  split
  · refine holds_pushFront ?_ _
    intro e he
    rcases List.mem_or_eq_of_mem_set he with hmem | heq
    · exact h e hmem
    · simp only [Option.some.injEq] at heq
      subst heq
      exact hp
  · refine holds_pushFront ?_ _
    intro e he
    rcases List.mem_append.1 he with hmem | hmem
    · exact h e hmem
    · simp only [List.mem_singleton, Option.some.injEq] at hmem
      subst hmem
      exact hp

theorem holds_insert {s : Shard κ ν} (h : Holds P s) {k : κ} {v : ν} (hp : P k v) :
    Holds P (s.insert k v).1 := by
  unfold insert
  refine holds_place ?_ hp
  split
  · exact holds_evict h
  · exact h

theorem holds_store {s : Shard κ ν} (h : Holds P s) {k : κ} {v : ν} (hp : P k v) :
    Holds P (s.store k v).1 := by
  unfold store
  split
  · exact h
  · exact holds_insert h hp

end

end Shard

end EntityGraph.Cache
