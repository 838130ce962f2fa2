import EntityGraph.Catalog
import EntityGraph.Event

/-!
# Runs

Work on a database. Besides its result a run changes the world: the catalog learns schemas and
names, events are reported, statements are issued and the database moves on. A run ends with a value
or with an error, and what it changed stays changed either way. Nothing fixes the order in which a
hash map is walked, so a world holds any orders at all for the maps that will be walked.
-/

namespace EntityGraph

open Sql (Statement Record Purpose)

/-- A database with states `σ`: it answers a statement with rows or reports a failure. -/
structure Database (σ : Type) where
  answer : Statement → σ → Except Failure (List Record) × σ

/-- A way to walk a map: which of its values come first is left open. -/
structure Walk where
  order : List String → List String
  perm : ∀ values, (order values).Perm values

structure World (reg : Registry) (σ : Type) where
  catalog : Catalog reg
  state : σ
  events : List Event := []
  /-- The statements issued so far, in order, those that failed among them. -/
  issued : List Statement := []
  /-- How the maps that are walked from now on will be walked, each in a way of its own. -/
  walks : Nat → Walk := fun _ => ⟨id, .refl⟩

/-- Work that may end with an error. -/
abbrev Run (reg : Registry) (σ : Type) : Type → Type := ExceptT Error (StateM (World reg σ))

namespace Run

variable {reg : Registry} {σ : Type}

/-- Reports an event. -/
def emit (e : Event) : Run reg σ Unit := modify fun w => { w with events := w.events ++ [e] }

/-- Works on the catalog and reports what its caches evict. -/
def onCatalog {α : Type} (f : Catalog reg → α × Catalog reg) : Run reg σ α :=
  modifyGet fun w =>
    let done := f w.catalog
    let drained := done.2.takeEvicted
    (done.1, { w with catalog := drained.2, events := w.events ++ drained.1.map Event.evicted })

/-- The values of a map, as they come when the map is walked next. -/
def walk (values : List String) : Run reg σ (List String) :=
  modifyGet fun w => ((w.walks 0).order values, { w with walks := fun n => w.walks (n + 1) })

/-! ## Names -/

def checkName (name : String) : Run reg σ Unit :=
  MonadExcept.ofExcept ((Sql.checkIdentifier name).mapError Error.identifier)

def checkNames (names : List String) : Run reg σ Unit :=
  MonadExcept.ofExcept ((Sql.checkIdentifiers names).mapError Error.identifier)

def snakeCase (s : String) : Run reg σ String := onCatalog (·.snakeCase s)

/-! ## Schemas -/

/-- The schema of a type, which is built when it is first asked for. -/
def schema (type : String) : Run reg σ { s : Schema // reg.schema type = .ok s } := do
  match (← get).catalog.known? type with
  | some s => pure s
  | none =>
    (reg.get type).embeds.forM fun p => emit (.flattened p.1 p.2)
    if h : (reg.get type).columns.isEmpty = false then
      let s ← onCatalog (·.build type h)
      emit (.builtMetadata type s.val.table s.val.columns.length s.val.relationNames.length)
      emit (.registered type)
      pure s
    else throw (.noColumns type)

/-- The column of a type that a name stands for. -/
def resolve (type name : String) : Run reg σ (Option String) := do
  match ← onCatalog (·.remembered type name) with
  | some found => pure found
  | none =>
    let s ← schema type
    onCatalog (·.resolve type name s.val s.property)

/-- The column that a name stands for, or else the name itself. -/
def resolveOrKeep (type name : String) : Run reg σ String := do
  pure ((← resolve type name).getD name)

/-! ## Statements -/

/-- Issues a statement. -/
def issue (db : Database σ) (purpose : Purpose) (s : Statement) : Run reg σ (List Record) := do
  emit (.executing purpose.text s.text s.args.length)
  let answer ← modifyGet fun w =>
    let answered := db.answer s w.state
    (answered.1, { w with state := answered.2, issued := w.issued ++ [s] })
  MonadExcept.ofExcept (answer.mapError (Error.query purpose s))

end Run

end EntityGraph
