import EntityGraph.Cache.Sharded
import EntityGraph.Proofs.Cache.Programs
import EntityGraph.Proofs.Cache.Recency
import Mathlib

/-!
# Sharded caches as recency lists

Over every program a sharded cache is seen to do what one list for each shard does that is kept in
the order of last use (`sharded_observed_as_lists`): they answer alike and have the same sizes after
every step. So no shard outgrows its share of the capacity, a computed entry is held afterwards, and
an operation on a key leaves all shards but its own as they are.
-/

namespace EntityGraph.Cache

variable {κ ν : Type}

/-! ### One list for each shard -/

/-- How keys are spread over lists, and the most entries of each list; zero means no bound. -/
structure Layout (κ : Type) where
  hash : κ → Nat
  count : Nat
  bound : Nat
  count_pos : 0 < count

/-- The lists by their numbers, each in the order of last use. -/
abbrev Lists (κ ν : Type) := Nat → List (κ × ν)

namespace Layout

/-- Some entries spread over some shards, at least one of each. -/
def ofCapacity (hash : κ → Nat) (capacity shards : Nat) : Layout κ where
  hash := hash
  count := max 1 shards
  bound := if capacity = 0 then 0 else max 1 (capacity / max 1 shards)
  count_pos := Nat.le_max_left 1 shards

/-- The number of the list that a key belongs to. -/
def listOf (g : Layout κ) (k : κ) : Nat := g.hash k % g.count

section
variable [DecidableEq κ]

def load (g : Layout κ) (r : Lists κ ν) (k : κ) : Option ν × Lists κ ν :=
  ((Recency.get (r (g.listOf k)) k).1,
    Function.update r (g.listOf k) (Recency.get (r (g.listOf k)) k).2)

def store (g : Layout κ) (r : Lists κ ν) (k : κ) (v : ν) : Lists κ ν :=
  Function.update r (g.listOf k) (Recency.store g.bound (r (g.listOf k)) k v)

def set (g : Layout κ) (r : Lists κ ν) (k : κ) (v : ν) : Lists κ ν :=
  Function.update r (g.listOf k) (Recency.set g.bound (r (g.listOf k)) k v)

def insert (g : Layout κ) (r : Lists κ ν) (k : κ) (v : ν) : Lists κ ν :=
  Function.update r (g.listOf k) (Recency.insert g.bound (r (g.listOf k)) k v)

/-- The value that is held, at first or after the computation; or else the computed one, which is
added. -/
def getOrInsertWith (g : Layout κ) (r : Lists κ ν) (k : κ) (init : Lists κ ν → ν × Lists κ ν) :
    ν × Lists κ ν :=
  match g.load r k with
  | (some v, r) => (v, r)
  | (none, r) =>
    let made := init r
    match g.load made.2 k with
    | (some held, r) => (held, r)
    | (none, r) => (made.1, g.insert r k made.1)

def shardSizes (g : Layout κ) (r : Lists κ ν) : List Nat :=
  (List.range g.count).map fun i => (r i).length

def operations (g : Layout κ) : Operations (Lists κ ν) κ ν where
  load := g.load
  store := g.store
  set := g.set
  getOrInsertWith := g.getOrInsertWith
  clear _ _ := []
  size r := (g.shardSizes r).sum
  shardSizes := g.shardSizes

theorem load_fst (g : Layout κ) (r : Lists κ ν) (k : κ) :
    (g.load r k).1 = (r (g.listOf k)).lookup k :=
  Recency.get_fst _ _

/-- A key that is looked up again has the same value. -/
theorem load_load (g : Layout κ) (r : Lists κ ν) (k : κ) :
    (g.load (g.load r k).2 k).1 = (g.load r k).1 := by
  have hlist : (g.load r k).2 (g.listOf k) = (Recency.get (r (g.listOf k)) k).2 :=
    Function.update_self _ _ _
  rw [load_fst, load_fst, hlist, Recency.lookup_get]

theorem load_insert (g : Layout κ) (r : Lists κ ν) (k : κ) (v : ν) :
    (g.load (g.insert r k v) k).1 = some v := by
  rw [load_fst, insert, Function.update_self, Recency.insert, List.lookup_cons_self]

/-- A computed entry is held. -/
theorem load_getOrInsertWith (g : Layout κ) (r : Lists κ ν) (k : κ)
    (init : Lists κ ν → ν × Lists κ ν) :
    (g.load (g.getOrInsertWith r k init).2 k).1 = some (g.getOrInsertWith r k init).1 := by
  unfold getOrInsertWith
  split
  · next v r' hload =>
    have hagain := g.load_load r k
    rwa [hload] at hagain
  · next r' hload =>
    dsimp only
    split
    · next v r'' hheld =>
      have hagain := g.load_load (init r').2 k
      rwa [hheld] at hagain
    · exact g.load_insert _ _ _

end

end Layout

/-! ### Caches that hold the lists -/

namespace Sharded

/-- The operations of a sharded cache. -/
def operations [DecidableEq κ] : Operations (Sharded κ ν) κ ν where
  load := load
  store := store
  set := set
  getOrInsertWith := getOrInsertWith
  clear := clear
  size := size
  shardSizes := shardSizes

/-- Every shard of a cache holds its list. -/
structure Refines (g : Layout κ) (c : Sharded κ ν) (r : Lists κ ν) : Prop where
  hash_eq : c.hash = g.hash
  count_eq : c.shards.length = g.count
  shard_refines : ∀ {i : Nat} {s : Shard κ ν}, c.shards[i]? = some s → s.Refines g.bound (r i)

section
variable {g : Layout κ} {c : Sharded κ ν} {r : Lists κ ν}

theorem Refines.shardOf_eq (h : c.Refines g r) (k : κ) : c.shardOf k = g.listOf k := by
  rw [shardOf, h.hash_eq, h.count_eq, Layout.listOf]

theorem refines_empty (hash : κ → Nat) (capacity shards : Nat) :
    (empty hash capacity shards : Sharded κ ν).Refines
      (Layout.ofCapacity hash capacity shards) fun _ => [] where
  hash_eq := rfl
  count_eq := List.length_replicate
  shard_refines hs := by
    obtain rfl := List.eq_of_mem_replicate (List.mem_of_getElem? hs)
    exact Shard.refines_empty _

theorem Refines.clear (h : c.Refines g r) : c.clear.Refines g fun _ => [] where
  hash_eq := h.hash_eq
  count_eq := by rw [Sharded.clear, List.length_map, h.count_eq]
  shard_refines hs := by
    rw [Sharded.clear, List.getElem?_map, Option.map_eq_some_iff] at hs
    obtain ⟨s, hs, rfl⟩ := hs
    exact (h.shard_refines hs).clear

theorem Refines.shardSizes_eq (h : c.Refines g r) : c.shardSizes = g.shardSizes r := by
  refine List.ext_getElem (by simp [shardSizes, Layout.shardSizes, h.count_eq]) fun i hi _ => ?_
  rw [shardSizes, List.length_map] at hi
  simp [shardSizes, Layout.shardSizes, (h.shard_refines (List.getElem?_eq_getElem hi)).size_eq]

theorem Refines.size_eq (h : c.Refines g r) : c.size = (g.shardSizes r).sum := by
  rw [size, h.shardSizes_eq, List.sum]

theorem Refines.shardSizes_le (h : c.Refines g r) (hbound : 0 < g.bound) {n : Nat}
    (hn : n ∈ c.shardSizes) : n ≤ g.bound := by
  obtain ⟨s, hs, rfl⟩ := List.mem_map.1 hn
  obtain ⟨i, hi⟩ := List.mem_iff_getElem?.1 hs
  rw [(h.shard_refines hi).size_eq]
  exact (h.shard_refines hi).length_le hbound

/-- An operation that does to the shard of a key what is done to its list. -/
theorem Refines.onShard {α : Type} (h : c.Refines g r) (k : κ) (default : α)
    {op : Shard κ ν → α × Shard κ ν × Option Nat} {a : α} {l : List (κ × ν)}
    (hop : ∀ {s : Shard κ ν}, s.Refines g.bound (r (g.listOf k)) →
      (op s).1 = a ∧ (op s).2.1.Refines g.bound l) :
    Agree (Refines g) (c.onShard k default op) (a, Function.update r (g.listOf k) l) := by
  have hlt : g.listOf k < c.shards.length := h.count_eq ▸ Nat.mod_lt _ g.count_pos
  have hs := List.getElem?_eq_getElem hlt
  obtain ⟨hanswer, hrefines⟩ := hop (h.shard_refines hs)
  rw [Sharded.onShard, h.shardOf_eq, hs]
  refine ⟨hanswer, h.hash_eq, by rw [List.length_set, h.count_eq], fun {i t} ht => ?_⟩
  show t.Refines g.bound (Function.update r (g.listOf k) l i)
  by_cases hi : i = g.listOf k
  · subst hi
    rw [List.getElem?_set_self hlt, Option.some.injEq] at ht
    subst ht
    rwa [Function.update_self]
  · rw [List.getElem?_set_ne (Ne.symm hi)] at ht
    rw [Function.update_of_ne hi]
    exact h.shard_refines ht

theorem Refines.update (h : c.Refines g r) (k : κ) {op : Shard κ ν → Shard κ ν × Option Nat}
    {l : List (κ × ν)} (hop : ∀ {s : Shard κ ν}, s.Refines g.bound (r (g.listOf k)) →
      (op s).1.Refines g.bound l) :
    (c.onShard k () fun s => ((), op s)).2.Refines g (Function.update r (g.listOf k) l) :=
  have hstep : Agree (Refines g) (c.onShard k () fun s => ((), op s))
    ((), Function.update r (g.listOf k) l) := h.onShard k () fun hs => ⟨rfl, hop hs⟩
  hstep.2

/-- Operations on the shard of a key leave the others alone. -/
theorem shards_onShard {α : Type} (c : Sharded κ ν) {k : κ} (default : α)
    (op : Shard κ ν → α × Shard κ ν × Option Nat) {j : Nat} (hj : j ≠ c.shardOf k) :
    (c.onShard k default op).2.shards[j]? = c.shards[j]? := by
  unfold Sharded.onShard
  split
  · rfl
  · exact List.getElem?_set_ne hj.symm

variable [DecidableEq κ]

theorem Refines.load (h : c.Refines g r) (k : κ) :
    Agree (Refines g) (c.load k) (g.load r k) :=
  h.onShard k none fun hs => hs.get k

theorem Refines.store (h : c.Refines g r) (k : κ) (v : ν) :
    (c.store k v).Refines g (g.store r k v) :=
  h.update k fun hs => hs.store k v

theorem Refines.set (h : c.Refines g r) (k : κ) (v : ν) :
    (c.set k v).Refines g (g.set r k v) :=
  h.update k fun hs => hs.set k v

theorem Refines.insert (h : c.Refines g r) {k : κ} (hk : (g.load r k).1 = none) (v : ν) :
    (c.onShard k () fun s => ((), s.insert k v)).2.Refines g (g.insert r k v) :=
  h.update k fun hs => hs.insert (g.load_fst r k ▸ hk) v

/-- Computed entries agree if the computations do. -/
theorem Refines.getOrInsertWith (h : c.Refines g r) (k : κ)
    {init : Sharded κ ν → ν × Sharded κ ν} {init' : Lists κ ν → ν × Lists κ ν}
    (hinit : ∀ {c r}, c.Refines g r → Agree (Refines g) (init c) (init' r)) :
    Agree (Refines g) (c.getOrInsertWith k init) (g.getOrInsertWith r k init') := by
  have hload := h.load k
  unfold Sharded.getOrInsertWith Layout.getOrInsertWith
  rcases hc : c.load k with ⟨v, c'⟩
  rcases hr : g.load r k with ⟨v', r'⟩
  rw [hc, hr] at hload
  obtain ⟨rfl : v = v', hloaded : c'.Refines g r'⟩ := hload
  cases v with
  | some v => exact ⟨rfl, hloaded⟩
  | none =>
    -- the key is looked up again, as the computation may have stored it
    obtain ⟨hvalue, hmade⟩ := hinit hloaded
    have hload := hmade.load k
    have hagain := g.load_load (init' r').2 k
    dsimp only
    rcases hc : (init c').2.load k with ⟨w, c''⟩
    rcases hr : g.load (init' r').2 k with ⟨w', r''⟩
    rw [hc, hr] at hload
    rw [hr] at hagain
    obtain ⟨rfl : w = w', hloaded : c''.Refines g r''⟩ := hload
    cases w with
    | some held => exact ⟨rfl, hloaded⟩
    | none => exact ⟨hvalue, hvalue ▸ hloaded.insert hagain _⟩

/-- **A sharded cache cannot be told from its lists.** -/
theorem similar_lists (g : Layout κ) :
    Similar (operations : Operations (Sharded κ ν) κ ν) g.operations (Refines g) where
  load h k := h.load k
  store h k v := h.store k v
  set h k v := h.set k v
  getOrInsertWith h k _ _ hinit := h.getOrInsertWith k hinit
  clear h := h.clear
  size h := h.size_eq
  shardSizes h := h.shardSizes_eq

/-! ### Single shards -/

/-- The cache when a computed entry is about to be held: as the computation leaves it, which does
not run for a key that is held already. -/
def computed (c : Sharded κ ν) (k : κ) (init : Sharded κ ν → ν × Sharded κ ν) : Sharded κ ν :=
  if (c.load k).1.isSome then c else (init (c.load k).2).2

theorem Refines.shards_getOrInsertWith (h : c.Refines g r) {k : κ}
    {init : Sharded κ ν → ν × Sharded κ ν} {init' : Lists κ ν → ν × Lists κ ν}
    (hinit : ∀ {c r}, c.Refines g r → Agree (Refines g) (init c) (init' r)) {j : Nat}
    (hj : j ≠ g.listOf k) :
    (c.getOrInsertWith k init).2.shards[j]? = (c.computed k init).shards[j]? := by
  have hother : ∀ {c : Sharded κ ν} {r : Lists κ ν}, c.Refines g r → j ≠ c.shardOf k :=
    fun h => by rwa [h.shardOf_eq]
  have hload : (c.load k).2.shards[j]? = c.shards[j]? := shards_onShard c none _ (hother h)
  have hloaded := (h.load k).2
  unfold Sharded.getOrInsertWith computed
  rcases hc : c.load k with ⟨_ | v, c'⟩
  · rw [hc] at hloaded
    obtain ⟨-, hmade⟩ := hinit hloaded
    have hagain : ((init c').2.load k).2.shards[j]? = (init c').2.shards[j]? :=
      shards_onShard _ none _ (hother hmade)
    have hheld := (hmade.load k).2
    dsimp only
    rcases hd : (init c').2.load k with ⟨_ | w, d⟩
    · rw [hd] at hagain hheld
      exact (shards_onShard d () _ (hother hheld)).trans hagain
    · rw [hd] at hagain
      exact hagain
  · rw [hc] at hload
    exact hload

/-- A computed entry is held afterwards. -/
theorem Refines.load_getOrInsertWith (h : c.Refines g r) (k : κ)
    {init : Sharded κ ν → ν × Sharded κ ν} {init' : Lists κ ν → ν × Lists κ ν}
    (hinit : ∀ {c r}, c.Refines g r → Agree (Refines g) (init c) (init' r)) :
    ((c.getOrInsertWith k init).2.load k).1 = some (c.getOrInsertWith k init).1 := by
  obtain ⟨hvalue, hmade⟩ := h.getOrInsertWith k hinit
  rw [(hmade.load k).1, hvalue, g.load_getOrInsertWith]

end

end Sharded

/-! ### What is seen -/

theorem Layout.bound_ofCapacity (hash : κ → Nat) {capacity : Nat} (shards : Nat)
    (h : 0 < capacity) :
    0 < (ofCapacity hash capacity shards).bound ∧
      (ofCapacity hash capacity shards).bound ≤
        (capacity + max 1 shards - 1) / max 1 shards := by
  have hpos : 0 < max 1 shards := Nat.le_max_left 1 shards
  have hbound : (ofCapacity hash capacity shards).bound = max 1 (capacity / max 1 shards) :=
    if_neg (Nat.ne_of_gt h)
  rw [hbound]
  refine ⟨Nat.le_max_left _ _, Nat.max_le.2 ⟨?_, Nat.div_le_div_right (by omega)⟩⟩
  exact (Nat.le_div_iff_mul_le hpos).2 (by omega)

open Sharded in
/-- **A sharded cache is seen to keep one list for each shard in the order of last use.** Whatever
a program does with it, the result is that of the lists, and so are all answers and sizes on the
way. So no shard ever holds more than its share of the capacity, rounded up; a computed entry is
held afterwards; and operations on a key leave the shards of other keys alone, except for what the
computation of an entry does to them. -/
theorem sharded_observed_as_lists [DecidableEq κ] (hash : κ → Nat) (capacity shards : Nat)
    {α : Type} (p : Program κ ν α) :
    let start : Sharded κ ν := Sharded.empty hash capacity shards
    let g := Layout.ofCapacity hash capacity shards
    let reached := (p.run operations start).2
    (p.run operations start).1 = (p.run g.operations fun _ => []).1 ∧
    p.observations operations start = p.observations g.operations (fun _ => []) ∧
    (0 < capacity → ∀ seen ∈ p.observations operations start, ∀ n ∈ seen.2.2,
      n ≤ (capacity + max 1 shards - 1) / max 1 shards) ∧
    (∀ k (init : Program κ ν ν),
      let made := reached.getOrInsertWith k (init.run operations)
      (made.2.load k).1 = some made.1) ∧
    ∀ k, ∀ j ≠ hash k % max 1 shards,
      (reached.load k).2.shards[j]? = reached.shards[j]? ∧
      (∀ v, (reached.store k v).shards[j]? = reached.shards[j]?) ∧
      (∀ v, (reached.set k v).shards[j]? = reached.shards[j]?) ∧
      ∀ init : Program κ ν ν,
        (reached.getOrInsertWith k (init.run operations)).2.shards[j]? =
          (reached.computed k (init.run operations)).shards[j]? := by
  intro start g reached
  have hstart : start.Refines g fun _ => [] := refines_empty hash capacity shards
  have hsimilar := similar_lists (ν := ν) g
  obtain ⟨hresult, hreached⟩ := hsimilar.run p hstart
  refine ⟨hresult, hsimilar.observations_eq p hstart, fun hcapacity seen hseen n hn => ?_,
    fun k init => hreached.load_getOrInsertWith k (hsimilar.run init), fun k j hj => ?_⟩
  · obtain ⟨hpos, hle⟩ := Layout.bound_ofCapacity hash shards hcapacity
    obtain ⟨x, hx, rfl⟩ := List.mem_map.1 hseen
    obtain ⟨r, hr⟩ := hsimilar.exists_of_mem_trace p hstart hx
    exact Nat.le_trans (hr.shardSizes_le hpos hn) hle
  · have hother : j ≠ reached.shardOf k := by
      rw [hreached.shardOf_eq]
      exact hj
    exact ⟨shards_onShard _ _ _ hother, fun v => shards_onShard _ _ _ hother,
      fun v => shards_onShard _ _ _ hother,
      fun init => hreached.shards_getOrInsertWith (hsimilar.run init) hj⟩

/-- Fills a shard beyond its share, and asks for an entry whose computation stores another value
under its key. -/
def overfilling : Program Nat Nat (Nat × Option Nat) :=
  .store 0 10 <| .store 2 20 <| .load 0 fun _ => .store 4 40 <|
    .getOrInsertWith 1 (.store 1 11 <| .done 12) fun made => .load 2 fun left => .done (made, left)

theorem sharded_observed_as_lists_overfilling :
    let start : Sharded Nat Nat := Sharded.empty id 4 2
    (overfilling.run Sharded.operations start).1 = (11, none) ∧
    overfilling.observations Sharded.operations start =
      [(none, 1, [1, 0]), (none, 2, [2, 0]), (some 10, 2, [2, 0]), (none, 2, [2, 0]),
        (none, 3, [2, 1]), (some 11, 3, [2, 1]), (none, 3, [2, 1])] ∧
    0 < 4 ∧ ∀ seen ∈ overfilling.observations Sharded.operations start, ∀ n ∈ seen.2.2, n ≤ 2 := by
  obtain ⟨hresult, hobserved, hle, -⟩ := sharded_observed_as_lists id 4 2 overfilling
  exact ⟨hresult.trans rfl, hobserved.trans rfl, by decide, hle (by decide)⟩

end EntityGraph.Cache
