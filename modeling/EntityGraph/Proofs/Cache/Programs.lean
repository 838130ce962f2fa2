import Mathlib.Data.List.Forall2

/-!
# Programs over a cache

A program uses a cache step by step and may choose a step by what the earlier ones answered; the
computation that it hands to `getOrInsertWith` is a program again. Two caches are `Similar` if their
operations answer alike and keep a relation between them; then a program cannot tell them apart, by
its result (`Similar.run`) or by anything seen on the way (`Similar.observations_eq`).
-/

namespace EntityGraph.Cache

variable {κ ν α C D : Type}

/-- What can be done with a cache of type `C`, and what its sizes are. -/
structure Operations (C κ ν : Type) where
  load : C → κ → Option ν × C
  store : C → κ → ν → C
  set : C → κ → ν → C
  getOrInsertWith : C → κ → (C → ν × C) → ν × C
  clear : C → C
  size : C → Nat
  shardSizes : C → List Nat

/-- A finite use of a cache, with a result. -/
inductive Program (κ ν : Type) : Type → Type 1
  | done {α : Type} (a : α) : Program κ ν α
  | load {α : Type} (k : κ) (next : Option ν → Program κ ν α) : Program κ ν α
  | store {α : Type} (k : κ) (v : ν) (next : Program κ ν α) : Program κ ν α
  | set {α : Type} (k : κ) (v : ν) (next : Program κ ν α) : Program κ ν α
  | getOrInsertWith {α : Type} (k : κ) (init : Program κ ν ν) (next : ν → Program κ ν α) :
      Program κ ν α
  | clear {α : Type} (next : Program κ ν α) : Program κ ν α

namespace Program

/-- The result of a program and the cache that it leaves. -/
def run (ops : Operations C κ ν) : {α : Type} → Program κ ν α → C → α × C
  | _, .done a, c => (a, c)
  | _, .load k next, c => (next (ops.load c k).1).run ops (ops.load c k).2
  | _, .store k v next, c => next.run ops (ops.store c k v)
  | _, .set k v next, c => next.run ops (ops.set c k v)
  | _, .getOrInsertWith k init next, c =>
    let made := ops.getOrInsertWith c k (init.run ops)
    (next made.1).run ops made.2
  | _, .clear next, c => next.run ops (ops.clear c)

/-- The answer of every step, if it has one, and the cache after it. The steps of a computed entry
come before the step that asked for it; there are none if the key is held. -/
def trace (ops : Operations C κ ν) : {α : Type} → Program κ ν α → C → List (Option ν × C)
  | _, .done _, _ => []
  | _, .load k next, c => ops.load c k :: (next (ops.load c k).1).trace ops (ops.load c k).2
  | _, .store k v next, c => (none, ops.store c k v) :: next.trace ops (ops.store c k v)
  | _, .set k v next, c => (none, ops.set c k v) :: next.trace ops (ops.set c k v)
  | _, .getOrInsertWith k init next, c =>
    let made := ops.getOrInsertWith c k (init.run ops)
    (if (ops.load c k).1.isSome then [] else init.trace ops (ops.load c k).2) ++
      (some made.1, made.2) :: (next made.1).trace ops made.2
  | _, .clear next, c => (none, ops.clear c) :: next.trace ops (ops.clear c)

/-- What is seen of a cache after every step: the answer, the size and the sizes of the shards. -/
def observations (ops : Operations C κ ν) (p : Program κ ν α) (c : C) :
    List (Option ν × Nat × List Nat) :=
  (p.trace ops c).map fun x => (x.1, ops.size x.2, ops.shardSizes x.2)

end Program

/-- The same answer and related caches. -/
def Agree (R : C → D → Prop) (x : α × C) (y : α × D) : Prop := x.1 = y.1 ∧ R x.2 y.2

/-- Operations on related caches agree. -/
structure Similar (ops : Operations C κ ν) (ops' : Operations D κ ν) (R : C → D → Prop) :
    Prop where
  load : ∀ {c d}, R c d → ∀ k, Agree R (ops.load c k) (ops'.load d k)
  store : ∀ {c d}, R c d → ∀ k v, R (ops.store c k v) (ops'.store d k v)
  set : ∀ {c d}, R c d → ∀ k v, R (ops.set c k v) (ops'.set d k v)
  getOrInsertWith : ∀ {c d}, R c d → ∀ k {f : C → ν × C} {g : D → ν × D},
    (∀ {c d}, R c d → Agree R (f c) (g d)) →
      Agree R (ops.getOrInsertWith c k f) (ops'.getOrInsertWith d k g)
  clear : ∀ {c d}, R c d → R (ops.clear c) (ops'.clear d)
  size : ∀ {c d}, R c d → ops.size c = ops'.size d
  shardSizes : ∀ {c d}, R c d → ops.shardSizes c = ops'.shardSizes d

namespace Similar

variable {ops : Operations C κ ν} {ops' : Operations D κ ν} {R : C → D → Prop}

/-- **Runs on similar caches agree.** -/
theorem run (h : Similar ops ops' R) (p : Program κ ν α) {c : C} {d : D} (hR : R c d) :
    Agree R (p.run ops c) (p.run ops' d) := by
  induction p generalizing c d with
  | done a => exact ⟨rfl, hR⟩
  | load k next ih =>
    obtain ⟨hanswer, hR⟩ := h.load hR k
    rw [Program.run, Program.run, hanswer]
    exact ih _ hR
  | store k v next ih => exact ih (h.store hR k v)
  | set k v next ih => exact ih (h.set hR k v)
  | getOrInsertWith k init next ihInit ih =>
    obtain ⟨hanswer, hR⟩ := h.getOrInsertWith hR k ihInit
    rw [Program.run, Program.run]
    rw [hanswer]
    exact ih _ hR
  | clear next ih => exact ih (h.clear hR)

/-- **Step by step, runs on similar caches agree.** -/
theorem trace (h : Similar ops ops' R) (p : Program κ ν α) {c : C} {d : D} (hR : R c d) :
    List.Forall₂ (Agree R) (p.trace ops c) (p.trace ops' d) := by
  induction p generalizing c d with
  | done a => exact .nil
  | load k next ih =>
    have hstep := h.load hR k
    rw [Program.trace, Program.trace, ← hstep.1]
    exact .cons hstep (ih _ hstep.2)
  | store k v next ih => exact .cons ⟨rfl, h.store hR k v⟩ (ih (h.store hR k v))
  | set k v next ih => exact .cons ⟨rfl, h.set hR k v⟩ (ih (h.set hR k v))
  | getOrInsertWith k init next ihInit ih =>
    have hload := h.load hR k
    have hmade := h.getOrInsertWith hR k (h.run init)
    rw [Program.trace, Program.trace]
    rw [← hload.1, ← hmade.1]
    refine List.rel_append ?_ (.cons ⟨rfl, hmade.2⟩ (ih _ hmade.2))
    split
    · exact .nil
    · exact ihInit hload.2
  | clear next ih => exact .cons ⟨rfl, h.clear hR⟩ (ih (h.clear hR))

/-- Nothing seen on the way tells similar caches apart. -/
theorem observations_eq (h : Similar ops ops' R) (p : Program κ ν α) {c : C} {d : D}
    (hR : R c d) : p.observations ops c = p.observations ops' d := by
  rw [Program.observations, Program.observations, ← List.forall₂_eq_eq_eq,
    List.forall₂_map_left_iff, List.forall₂_map_right_iff]
  refine (h.trace p hR).imp fun x y hxy => ?_
  rw [hxy.1, h.size hxy.2, h.shardSizes hxy.2]

/-- Every cache on the way is related to one. -/
theorem exists_of_mem_trace (h : Similar ops ops' R) (p : Program κ ν α) {c : C} {d : D}
    (hR : R c d) {x : Option ν × C} (hx : x ∈ p.trace ops c) : ∃ d', R x.2 d' := by
  have hall := h.trace p hR
  generalize p.trace ops c = seen, p.trace ops' d = seen' at hx hall
  induction hall with
  | nil => cases hx
  | cons hxy _ ih =>
    rcases List.mem_cons.1 hx with rfl | hx
    · exact ⟨_, hxy.2⟩
    · exact ih hx

end Similar

end EntityGraph.Cache
