import EntityGraph.Cache.Sharded

/-!
# Remembered functions

A cache in front of a function. Every entry is a value of the function, so an answer from the cache
is the answer of the function whatever was stored, evicted or cleared before.
-/

namespace EntityGraph.Cache

structure Memo {κ ν : Type} (f : κ → ν) where
  cache : Sharded κ ν
  sound : cache.Holds fun k v => v = f k

namespace Memo

variable {κ ν : Type} {f : κ → ν}

def empty (f : κ → ν) (hash : κ → Nat) (capacity shards : Nat) : Memo f :=
  ⟨.empty hash capacity shards, Sharded.holds_empty hash capacity shards⟩

def clear (m : Memo f) : Memo f := ⟨m.cache.clear, Sharded.holds_clear⟩

/-- Takes the noted evictions. -/
def takeEvicted (m : Memo f) : List Nat × Memo f :=
  (m.cache.evicted, ⟨m.cache.takeEvicted.2, m.sound⟩)

variable [DecidableEq κ]

/-- The remembered value of a key. -/
def find? (m : Memo f) (k : κ) : Option ν × Memo f :=
  ((m.cache.load k).1, ⟨(m.cache.load k).2, Sharded.holds_load m.sound k⟩)

/-- Remembers the value of a key unless the key is held. -/
def remember (m : Memo f) (k : κ) (v : ν) (h : v = f k) : Memo f :=
  ⟨m.cache.store k v, Sharded.holds_store m.sound h⟩

theorem find?_some (m : Memo f) {k : κ} {v : ν} (h : (m.find? k).1 = some v) : v = f k :=
  Sharded.load_some m.sound h

theorem sound_get (m : Memo f) (k : κ) :
    (m.cache.getOrInsertWith k fun c => (f k, c)).1 = f k
      ∧ (m.cache.getOrInsertWith k fun c => (f k, c)).2.Holds fun k v => v = f k :=
  Sharded.holds_getOrInsertWith m.sound k fun _ hd => ⟨rfl, hd⟩

/-- The value of a key, remembered or else computed and remembered. -/
def get (m : Memo f) (k : κ) : ν × Memo f :=
  ((m.cache.getOrInsertWith k fun c => (f k, c)).1,
    ⟨(m.cache.getOrInsertWith k fun c => (f k, c)).2, (m.sound_get k).2⟩)

@[simp] theorem get_fst (m : Memo f) (k : κ) : (m.get k).1 = f k := (m.sound_get k).1

end Memo

end EntityGraph.Cache
