/-!
# Contexts

A context carries a cancellation signal and an optional deadline into every statement. All contexts
derived from one background context form a family and share its signal; deadlines only ever get
tighter. Time is counted in milliseconds.

A job under a context is watched while it runs: whoever waits for it sleeps until something wakes
him, and then asks the signal first, the deadline second and the job last.
-/

namespace EntityGraph

structure Context where
  family : Nat
  deadline : Option Nat := none
  deriving DecidableEq, Repr

/-- Why a job did not run to its end. -/
inductive Interruption where
  | cancelled
  | expired
  deriving DecidableEq, Repr

namespace Context

/-- The context with a deadline no later than `limit`. -/
def withDeadline (c : Context) (limit : Nat) : Context :=
  match c.deadline with
  | some current => { c with deadline := some (min current limit) }
  | none => { c with deadline := some limit }

end Context

/-- A cancellation that is going to happen. -/
structure Cancellation where
  time : Nat
  family : Nat
  deriving DecidableEq, Repr

/-- What running a job comes to. -/
structure Ending where
  /-- Why the job did not run to its end, if it did not. -/
  interruption : Option Interruption
  /-- When this is known. -/
  time : Nat
  /-- Whether the job was started at all. -/
  started : Bool
  deriving DecidableEq, Repr

/-- The time, and which families exist and were cancelled. -/
structure Clock where
  now : Nat := 0
  families : Nat := 0
  cancelled : List Nat := []
  deriving DecidableEq, Repr

namespace Clock

/-- A context of a new family, without a deadline. -/
def background (k : Clock) : Context × Clock :=
  (⟨k.families, none⟩, { k with families := k.families + 1 })

def isCancelled (k : Clock) (c : Context) : Bool := k.cancelled.contains c.family

/-- Cancels the family of a context. -/
def cancel (k : Clock) (c : Context) : Clock := { k with cancelled := c.family :: k.cancelled }

def advance (k : Clock) (ms : Nat) : Clock := { k with now := k.now + ms }

def withTimeout (k : Clock) (c : Context) (ms : Nat) : Context := c.withDeadline (k.now + ms)

/-! ## Running jobs -/

/-- What speaks against a job under a context: a cancellation, or else the deadline. -/
def interruption? (k : Clock) (c : Context) : Option Interruption :=
  if k.isCancelled c then some .cancelled
  else if c.deadline.any (· ≤ k.now) then some .expired
  else none

/-- The cancellations of this moment take place. -/
def deliver (k : Clock) (schedule : List Cancellation) : Clock :=
  { k with
    cancelled := (schedule.filter (·.time = k.now)).map Cancellation.family ++ k.cancelled }

/-- Whether the context of a job wakes whoever waits for the job: at a cancellation of its family,
and at its deadline. -/
def wakes (k : Clock) (c : Context) (schedule : List Cancellation) : Bool :=
  schedule.any (fun x => x.time = k.now && x.family = c.family) || c.deadline = some k.now

/-- Watches a job that takes `left` more milliseconds, while the cancellations of a schedule take
place. The job goes on as long as nothing speaks against it. After it was started one asks only when
its context wakes one, and at its end. -/
def watch (c : Context) (schedule : List Cancellation) :
    (left : Nat) → (started : Bool) → Clock → Ending
  | 0, started, k =>
    let k := k.deliver schedule
    match k.interruption? c with
    | some i => ⟨some i, k.now, started⟩
    | none => ⟨none, k.now, true⟩
  | left + 1, started, k =>
    let k := k.deliver schedule
    match if started && !k.wakes c schedule then none else k.interruption? c with
    | some i => ⟨some i, k.now, started⟩
    | none => watch c schedule left true (k.advance 1)

/-- Runs a job of `ms` milliseconds under a context, given the cancellations to come. A job that
something speaks against from the first is not started. -/
def outcome (k : Clock) (c : Context) (ms : Nat) (schedule : List Cancellation) : Ending :=
  match k.interruption? c with
  | some i => ⟨some i, k.now, false⟩
  | none => watch c schedule ms false k

end Clock

end EntityGraph
