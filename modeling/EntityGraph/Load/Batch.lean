import EntityGraph.Load.Stage

/-!
# Loading batches

A planned request is carried out level by level on a whole batch. Each level is committed before
the relations below it are loaded onto the entities it assigned. An error ends the load; levels
committed before it keep what they hold.
-/

namespace EntityGraph

/-- A batch after work on it, with the error that ended the work early. -/
structure Loaded where
  entities : List Entity
  failure : Option Error := none

/-- The entities, unless the work failed. -/
def Loaded.outcome (l : Loaded) : Except Error (List Entity) :=
  match l.failure with
  | some why => .error why
  | none => .ok l.entities

variable {reg : Registry} {σ : Type}

/-- Work on a batch as a run, which forgets the batch if the work fails. -/
def Run.ofLoaded (work : StateM (World reg σ) Loaded) : Run reg σ (List Entity) :=
  ExceptT.mk (Loaded.outcome <$> work)

namespace Plan

mutual

/-- Loads a relation, and all that is requested below it. -/
def loadNode (db : Database σ) (plan : Plan) :
    PathNode → String → List Entity → StateM (World reg σ) Loaded
  | ⟨name, path, columns, children⟩, type, parents => do
    let descend (target : String) (es : List Entity) : Run reg σ (List Entity) :=
      Run.ofLoaded (loadNodes db plan children target es)
    match ← (plan.stage db descend ⟨name, path, columns, children⟩ type parents).run with
    | .error why => pure ⟨parents, some why⟩
    | .ok (info, .owners owners) =>
      pure ⟨(Staged.owners owners).commit info.position parents, none⟩
    | .ok (info, .rows kind target rows) =>
      let parents := (Staged.rows kind target rows).commit info.position parents
      let below ← loadNodes db plan children target (gather info.position parents)
      pure ⟨scatter info.position parents below.entities, below.failure⟩

/-- Loads relations in order up to the first that fails. -/
def loadNodes (db : Database σ) (plan : Plan) :
    List PathNode → String → List Entity → StateM (World reg σ) Loaded
  | [], _, batch => pure ⟨batch, none⟩
  | node :: rest, type, batch => do
    if batch.isEmpty then pure ⟨batch, none⟩
    else
      let done ← loadNode db plan node type batch
      match done.failure with
      | some _ => pure done
      | none => loadNodes db plan rest type done.entities

end

/-- Carries out a plan on a batch of a type. -/
def load (db : Database σ) (plan : Plan) (type : String) (batch : List Entity) :
    StateM (World reg σ) Loaded :=
  loadNodes db plan plan.nodes type batch

end Plan

/-! ## Loading on request -/

/-- Loads all that a request asks for onto a batch of a type. Nothing is done for an empty batch or
an empty request; otherwise the whole request is planned before the first statement. -/
def preload (db : Database σ) (eager : Eager) (type : String) (batch : List Entity) :
    StateM (World reg σ) Loaded := do
  if batch.isEmpty || eager.isEmpty then pure ⟨batch, none⟩
  else
    match ← (Plan.make eager type).run with
    | .error why => pure ⟨batch, some why⟩
    | .ok plan => plan.load db type batch

/-- Loads relation paths onto a batch. -/
def loadPaths (db : Database σ) (paths : List String) (type : String) (batch : List Entity) :
    StateM (World reg σ) Loaded :=
  preload db (({} : Eager).withPaths paths) type batch

/-- Loads one relation path, with the owner types that its discriminators stand for. -/
def loadOwners (db : Database σ) (path : String) (types : OwnerTypes) (type : String)
    (batch : List Entity) : StateM (World reg σ) Loaded :=
  preload db (({} : Eager).withOwners path types) type batch

end EntityGraph
