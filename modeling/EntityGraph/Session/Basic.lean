import EntityGraph.Query.Diagnostic
import EntityGraph.Session.Playback

/-!
# Sessions

A database handle in use: the world, and the batch of entities that was queried last. A session
takes one command after another; a command that loads relations works on the current batch, which
keeps what was loaded before a failure.
-/

namespace EntityGraph

open Sql (Value Record Statement)

/-! ## Commands and answers -/

/-- How a query is finished. -/
inductive QueryEnd where
  | execute
  | first
  | get
  | count
  | any

/-- A query by the conventions of its type. -/
inductive Shortcut where
  | get (key : Value)
  | getOrNone (key : Value)
  | count
  | any
  | first
  | last
  /-- Shows what the shortcuts start from. -/
  | diagnostic

inductive Command where
  | query (q : Query) (finish : QueryEnd)
  | shortcut (type : String) (s : Shortcut)
  | diagnostic (q : Query)
  | load (paths : List String)
  | loadOne (index : Nat) (paths : List String)
  | loadOwners (path : String) (types : OwnerTypes)
  | preload (eager : Eager)
  | rows (text : String) (args : List Value)
  | cancel
  | timeout (ms : Nat)
  | fresh
  | schema (type : String)
  | resolve (type name : String)
  | snakeCase (s : String)
  | clearCaches
  | size

inductive Answer where
  | done
  | flag (b : Bool)
  | count (n : Int64)
  /-- The size of the batch that replaced the current one. -/
  | batch (size : Nat)
  | noBatch
  | noEntity
  | text (s : String)
  | maybeText (s : Option String)
  | diagnostics (query database : String)
  | records (rs : List Record)
  | schema (s : Schema)
  | size (n : Nat) (isEmpty : Bool) (diagnostic : String)

/-- Whether a command concerns the current batch. -/
def Command.showsBatch : Command → Bool
  | query _ _ | shortcut _ _ | load _ | loadOne _ _ | loadOwners _ _ | preload _ => true
  | _ => false

/-! ## Sessions -/

/-- Entities of one type. -/
structure TypedBatch where
  type : String
  entities : List Entity

structure Session (reg : Registry) where
  world : World reg Playback
  batch : Option TypedBatch := none

namespace Session

variable {reg : Registry}

def start (reg : Registry) (config : CatalogConfig) : Session reg :=
  ⟨{ catalog := .empty reg config, state := {} }, none⟩

/-- Does work that leaves the batch alone. -/
def perform {α : Type} (s : Session reg) (work : Run reg Playback α) (answer : α → Answer) :
    Except Error Answer × Session reg :=
  match work.run s.world with
  | (.ok a, world) => (.ok (answer a), { s with world := world })
  | (.error why, world) => (.error why, { s with world := world })

/-- Does work that yields a new batch; if it fails the batch stays. -/
def replace (s : Session reg) (type : String) (work : Run reg Playback (List Entity)) :
    Except Error Answer × Session reg :=
  match work.run s.world with
  | (.ok es, world) => (.ok (.batch es.length), ⟨world, some ⟨type, es⟩⟩)
  | (.error why, world) => (.error why, { s with world := world })

/-- Does work on the entities of the current batch. -/
def work (s : Session reg)
    (f : String → List Entity → StateM (World reg Playback) Loaded) :
    Except Error Answer × Session reg :=
  match s.batch with
  | none => (.ok .noBatch, s)
  | some b =>
    let (loaded, world) := (f b.type b.entities).run s.world
    (loaded.outcome.map fun _ => .done, ⟨world, some { b with entities := loaded.entities }⟩)

/-- Does work on one entity of a batch. -/
def onOne (index : Nat) (f : List Entity → StateM (World reg Playback) Loaded)
    (batch : List Entity) : StateM (World reg Playback) Loaded := do
  let loaded ← f (batch[index]?.toList)
  match loaded.entities with
  | e :: _ => pure { loaded with entities := batch.set index e }
  | [] => pure { loaded with entities := batch }

def runQuery (s : Session reg) (q : Query) :
    QueryEnd → Except Error Answer × Session reg
  | .execute => s.replace q.type (q.execute Playback.database)
  | .first => s.replace q.type (Option.toList <$> q.first Playback.database)
  | .get => s.replace q.type ((fun e => [e]) <$> q.get Playback.database)
  | .count => s.perform (q.count Playback.database) .count
  | .any => s.perform (q.any Playback.database) .flag

def runShortcut (s : Session reg) (type : String) :
    Shortcut → Except Error Answer × Session reg
  | .get key =>
    s.replace type do
      let q ← Query.byKey type key
      pure [← q.get Playback.database]
  | .getOrNone key =>
    s.replace type do
      let q ← Query.byKey type key
      pure (← q.first Playback.database).toList
  | .count => s.runQuery { type := type } .count
  | .any => s.runQuery { type := type } .any
  | .first => s.runQuery { type := type } .first
  | .last =>
    s.replace type do
      let q ← Query.latest type
      pure (← q.first Playback.database).toList
  | .diagnostic => (.ok (.text "Manager"), s)

/-- The handle as it is shown for diagnosis. -/
def diagnostic (s : Session reg) : String :=
  "Db \x7b catalog: " ++ s.world.catalog.diagnostic ++ ", .. \x7d"

def onContext (s : Session reg) (f : Playback → Playback) : Session reg :=
  { s with world := { s.world with state := f s.world.state } }

def run (s : Session reg) : Command → Except Error Answer × Session reg
  | .query q finish => s.runQuery q finish
  | .shortcut type shortcut => s.runShortcut type shortcut
  | .diagnostic q => (.ok (.diagnostics q.diagnostic s.diagnostic), s)
  | .load paths => s.work (loadPaths Playback.database paths)
  | .loadOne index paths =>
    match s.batch with
    | none => (.ok .noBatch, s)
    | some b =>
      if index < b.entities.length then
        s.work fun type => onOne index (loadPaths Playback.database paths type)
      else (.ok .noEntity, s)
  | .loadOwners path types => s.work (EntityGraph.loadOwners Playback.database path types)
  | .preload eager => s.work (EntityGraph.preload Playback.database eager)
  | .rows text args => s.perform (Query.rows Playback.database text args) .records
  | .cancel => (.ok (.flag true), s.onContext Playback.cancel)
  | .timeout ms => (.ok .done, s.onContext (·.withTimeout ms))
  | .fresh => (.ok .done, s.onContext Playback.fresh)
  | .schema type => s.perform (Run.schema type) fun found => .schema found.val
  | .resolve type name => s.perform (Run.resolve type name) .maybeText
  | .snakeCase text => s.perform (Run.snakeCase text) .text
  | .clearCaches =>
    s.perform (Run.onCatalog fun c => ((), c.clearCaches)) fun _ => .done
  | .size =>
    let c := s.world.catalog
    (.ok (.size c.size (c.size = 0) c.diagnostic), s)

/-! ## Steps -/

/-- What a command leads to. -/
structure Report where
  answer : Except Error Answer
  issued : List Statement
  events : List Event
  batch : Option TypedBatch

/-- Runs a command while its statements are answered by the given replies. -/
def step (s : Session reg) (command : Command) (replies : List Reply) : Report × Session reg :=
  let world :=
    { s.world with state := { s.world.state with replies := replies }, events := [], issued := [] }
  let (answer, s) := { s with world := world }.run command
  (⟨answer, s.world.issued, s.world.events, s.batch⟩, s)

def steps (s : Session reg) : List (Command × List Reply) → List Report
  | [] => []
  | (command, replies) :: rest =>
    let (report, s) := s.step command replies
    report :: steps s rest

end Session

end EntityGraph
