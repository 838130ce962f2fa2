import EntityGraph.Cache.Shard

/-!
# Sharded caches

A bounded cache split into shards, each with its own recency list and its share of the capacity.
The hash of a key picks its shard, so an operation touches one shard only. Slots that gave up their
entry are noted until they are taken.
-/

namespace EntityGraph.Cache

structure Sharded (κ ν : Type) where
  hash : κ → Nat
  shards : List (Shard κ ν)
  /-- Slots evicted since they were last taken, in order. -/
  evicted : List Nat := []

namespace Sharded

variable {κ ν : Type}

/-- The share of one shard: at least one entry, or no bound at all. -/
def shareOf (capacity shards : Nat) : Nat := if capacity = 0 then 0 else max 1 (capacity / shards)

/-- A cache of `capacity` entries over `shards` shards, at least one. -/
def empty (hash : κ → Nat) (capacity shards : Nat) : Sharded κ ν :=
  let count := max 1 shards
  { hash := hash, shards := List.replicate count { capacity := shareOf capacity count } }

/-- The number of the shard that a key belongs to. -/
def shardOf (c : Sharded κ ν) (k : κ) : Nat := c.hash k % c.shards.length

/-- Runs an operation on the shard of a key. -/
def onShard {α : Type} (c : Sharded κ ν) (k : κ) (default : α)
    (op : Shard κ ν → α × Shard κ ν × Option Nat) : α × Sharded κ ν :=
  match c.shards[c.shardOf k]? with
  | none => (default, c)
  | some s =>
    let result := op s
    (result.1,
      { c with
        shards := c.shards.set (c.shardOf k) result.2.1
        evicted := c.evicted ++ result.2.2.toList })

section

variable [DecidableEq κ]

/-- The value of a key, which becomes the most recently used of its shard. -/
def load (c : Sharded κ ν) (k : κ) : Option ν × Sharded κ ν :=
  c.onShard k none fun s => ((s.get k).1, (s.get k).2, none)

/-- Adds a key unless it is held. -/
def store (c : Sharded κ ν) (k : κ) (v : ν) : Sharded κ ν :=
  (c.onShard k () fun s => ((), s.store k v)).2

/-- Adds a key or replaces its value. -/
def set (c : Sharded κ ν) (k : κ) (v : ν) : Sharded κ ν :=
  (c.onShard k () fun s => ((), s.set k v)).2

/-- The value of a key, or else a computed value, which is stored. The computation may use the
cache itself; a value that it stored under the key wins. -/
def getOrInsertWith (c : Sharded κ ν) (k : κ) (init : Sharded κ ν → ν × Sharded κ ν) :
    ν × Sharded κ ν :=
  match c.load k with
  | (some v, c) => (v, c)
  | (none, c) =>
    let made := init c
    match made.2.load k with
    | (some held, c) => (held, c)
    | (none, c) => (made.1, (c.onShard k () fun s => ((), s.insert k made.1)).2)

end

def clear (c : Sharded κ ν) : Sharded κ ν := { c with shards := c.shards.map Shard.clear }

/-! ## Sizes -/

def shardSizes (c : Sharded κ ν) : List Nat := c.shards.map Shard.size

def size (c : Sharded κ ν) : Nat := c.shardSizes.foldr (· + ·) 0

def isEmpty (c : Sharded κ ν) : Bool := c.size = 0

def shardCount (c : Sharded κ ν) : Nat := c.shards.length

/-- Takes the noted evictions. -/
def takeEvicted (c : Sharded κ ν) : List Nat × Sharded κ ν := (c.evicted, { c with evicted := [] })

/-- The cache as it is shown for diagnosis. -/
def diagnostic (c : Sharded κ ν) : String :=
  "ShardedLru \x7b shards: " ++ toString c.shardCount ++ ", .. \x7d"

/-! ## What holds of every entry -/

def Holds (P : κ → ν → Prop) (c : Sharded κ ν) : Prop := ∀ s ∈ c.shards, s.Holds P

variable {P : κ → ν → Prop}

theorem holds_empty (hash : κ → Nat) (capacity shards : Nat) :
    Holds P (empty hash capacity shards) := by
  intro s hs
  rw [List.eq_of_mem_replicate hs]
  exact Shard.holds_empty _

theorem holds_clear {c : Sharded κ ν} : Holds P c.clear := by
  intro s hs
  obtain ⟨t, -, rfl⟩ := List.mem_map.1 hs
  exact Shard.holds_empty _

theorem holds_onShard {α : Type} {c : Sharded κ ν} (h : Holds P c) (k : κ) (default : α)
    {op : Shard κ ν → α × Shard κ ν × Option Nat}
    (hop : ∀ s, s.Holds P → (op s).2.1.Holds P) : Holds P (c.onShard k default op).2 := by
  unfold onShard
  split
  · exact h
  · next s hs =>
    intro t ht
    rcases List.mem_or_eq_of_mem_set ht with hmem | rfl
    · exact h t hmem
    · exact hop s (h s (List.mem_of_getElem? hs))

section

variable [DecidableEq κ]

theorem load_some {c : Sharded κ ν} (h : Holds P c) {k : κ} {v : ν} (hv : (c.load k).1 = some v) :
    P k v := by
  unfold load onShard at hv
  split at hv
  · simp at hv
  · next s hs => exact Shard.get_some (h s (List.mem_of_getElem? hs)) hv

theorem holds_load {c : Sharded κ ν} (h : Holds P c) (k : κ) : Holds P (c.load k).2 :=
  holds_onShard h k none fun _ hs => Shard.holds_get hs k

theorem holds_store {c : Sharded κ ν} (h : Holds P c) {k : κ} {v : ν} (hp : P k v) :
    Holds P (c.store k v) :=
  holds_onShard h k () fun _ hs => Shard.holds_store hs hp

/-- The answer of a computed entry, held or new, satisfies what holds of every entry. -/
theorem holds_getOrInsertWith {c : Sharded κ ν} (h : Holds P c) (k : κ)
    {init : Sharded κ ν → ν × Sharded κ ν}
    (hi : ∀ d, Holds P d → P k (init d).1 ∧ Holds P (init d).2) :
    P k (c.getOrInsertWith k init).1 ∧ Holds P (c.getOrInsertWith k init).2 := by
  unfold getOrInsertWith
  have h1 := holds_load h k
  split
  · next v c' hl => exact ⟨load_some h (by rw [hl]), by rw [hl] at h1; exact h1⟩
  · next c' hl =>
    rw [hl] at h1
    obtain ⟨hv, hd⟩ := hi c' h1
    have h2 := holds_load hd k
    dsimp only
    split
    · next held c'' hm => exact ⟨load_some hd (by rw [hm]), by rw [hm] at h2; exact h2⟩
    · next c'' hm =>
      rw [hm] at h2
      exact ⟨hv, holds_onShard h2 k () fun _ hs => Shard.holds_insert hs hv⟩

end

end Sharded

end EntityGraph.Cache
