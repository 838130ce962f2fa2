import EntityGraph.Context.Basic

/-!
# Histories of contexts

A sequence of operations on numbered contexts. Context 0 is a background context; deriving a
context gives it the next number.
-/

namespace EntityGraph

inductive ContextOp where
  | background
  | clone (c : Nat)
  | withTimeout (c ms : Nat)
  | withDeadline (c limit : Nat)
  | deadline (c : Nat)
  | isCancelled (c : Nat)
  | cancel (c : Nat)
  | advance (ms : Nat)
  /-- Runs a job of `ms` milliseconds. -/
  | run (c ms : Nat)
  /-- Runs a job while another context is cancelled after a pause, and waits for both. -/
  | runCancelling (c ms other pause : Nat)
  deriving DecidableEq, Repr

inductive ContextAnswer where
  | none
  | number (n : Nat)
  | flag (b : Bool)
  | finished
  | interrupted (i : Interruption)
  deriving DecidableEq, Repr

structure ContextHistory where
  clock : Clock := { families := 1 }
  contexts : List Context := [⟨0, .none⟩]
  deriving DecidableEq, Repr

namespace ContextHistory

/-- Adds a context; the answer is its number. -/
def add (h : ContextHistory) (c : Context) : ContextAnswer × ContextHistory :=
  (.number h.contexts.length, { h with contexts := h.contexts ++ [c] })

def answer : Option Interruption → ContextAnswer
  | some i => .interrupted i
  | Option.none => .finished

/-- One operation. An operation on a context that does not exist does nothing. -/
def step (h : ContextHistory) (op : ContextOp) : ContextAnswer × ContextHistory :=
  let on (c : Nat) (f : Context → ContextAnswer × ContextHistory) :=
    match h.contexts[c]? with
    | some x => f x
    | Option.none => (.none, h)
  match op with
  | .background =>
    let (c, clock) := h.clock.background
    add { h with clock := clock } c
  | .clone c => on c h.add
  | .withTimeout c ms => on c fun x => h.add (h.clock.withTimeout x ms)
  | .withDeadline c limit => on c fun x => h.add (x.withDeadline limit)
  | .deadline c =>
    on c fun x =>
      match x.deadline with
      | some d => (.number d, h)
      | Option.none => (.none, h)
  | .isCancelled c => on c fun x => (.flag (h.clock.isCancelled x), h)
  | .cancel c => on c fun x => (.none, { h with clock := h.clock.cancel x })
  | .advance ms => (.none, { h with clock := h.clock.advance ms })
  | .run c ms =>
    on c fun x =>
      let ending := h.clock.outcome x ms []
      (answer ending.interruption, { h with clock := { h.clock with now := ending.time } })
  | .runCancelling c ms other pause =>
    on c fun x => on other fun y =>
      let ending := h.clock.outcome x ms [⟨h.clock.now + pause, y.family⟩]
      let clock := h.clock.cancel y
      (answer ending.interruption,
        { h with clock := { clock with now := max ending.time (h.clock.now + pause) } })

/-- The answers of a sequence of operations, each with the time after it. -/
def run (h : ContextHistory) : List ContextOp → List (ContextAnswer × Nat)
  | [] => []
  | op :: ops => ((h.step op).1, (h.step op).2.clock.now) :: run (h.step op).2 ops

end ContextHistory

end EntityGraph
