import EntityGraph.World

/-!
# Playback databases

A database that plays back prepared replies, one for each statement, under the current context. A
reply takes its time; a context that is cancelled or expires in the meantime makes the statement
fail. Statements beyond the prepared replies get no rows.
-/

namespace EntityGraph

open Sql (Statement Record)

structure Reply where
  outcome : Except Failure (List Record) := .ok []
  /-- The time it takes to answer, in milliseconds. -/
  delay : Nat := 0
  /-- Whether the context is cancelled once the rows are returned. -/
  thenCancel : Bool := false

structure Playback where
  replies : List Reply := []
  clock : Clock := { families := 1 }
  context : Context := ⟨0, none⟩

namespace Playback

/-- Plays back a reply. -/
def play (p : Playback) (r : Reply) : Except Failure (List Record) × Playback :=
  let ending := p.clock.outcome p.context r.delay []
  let clock := { p.clock with now := ending.time }
  match ending.interruption with
  | some i => (.error (.interrupted i), { p with clock := clock })
  | none =>
    match r.outcome with
    | .error why => (.error why, { p with clock := clock })
    | .ok rows =>
      (.ok rows, { p with clock := if r.thenCancel then clock.cancel p.context else clock })

def database : Database Playback where
  answer _ p := { p with replies := p.replies.tail }.play (p.replies.head?.getD {})

/-! ## The current context -/

def cancel (p : Playback) : Playback := { p with clock := p.clock.cancel p.context }

/-- Goes on under a context with a deadline `ms` milliseconds from now at the latest. -/
def withTimeout (p : Playback) (ms : Nat) : Playback :=
  { p with context := p.clock.withTimeout p.context ms }

/-- Goes on under a new context. -/
def fresh (p : Playback) : Playback :=
  { p with context := p.clock.background.1, clock := p.clock.background.2 }

end Playback

end EntityGraph
