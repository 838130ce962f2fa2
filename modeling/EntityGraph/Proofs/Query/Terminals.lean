import EntityGraph.Proofs.Run
import EntityGraph.Proofs.Sql.Engine
import EntityGraph.Query.Basic

/-!
# Ways to run a query

All matching entities, the first, the only one, how many there are and whether there is any: each
of these issues a statement of its own. `terminals_agree` compares what they come to over a database
that answers selects as an engine does.
-/

namespace EntityGraph

open Run
open Sql (Accepted Engine IsClosed Output Record Scope Selection Value limited lexemes)

variable {reg : Registry} {σ ρ : Type}

/-- The entity of a row, or a fresh one if the row cannot be read. -/
def Schema.entityOf (s : Schema) (r : Record) : Entity := (s.scan r).toOption.getD s.fresh

theorem Schema.scanAll_eq_ok {s : Schema} {rs : List Record}
    (h : ∀ r ∈ rs, ∃ e, s.scan r = .ok e) : s.scanAll rs = .ok (rs.map s.entityOf) := by
  refine mapM_eq_ok_of_forall₂ (List.forall₂_map_right_iff.2 (List.forall₂_same.2 fun r hr => ?_))
  obtain ⟨e, he⟩ := h r hr
  rw [Schema.entityOf, he]
  rfl

namespace Query

/-! ### Variants of a query -/

/-- The query without its limit. -/
def unlimited (q : Query) : Query := { q with scope := { q.scope with limit := .none } }

/-- The query for every row that satisfies the conditions, equal ones included. -/
def unabridged (q : Query) : Query :=
  { q with scope := { q.scope with limit := .none, offset := .none, distinct := false } }

/-- The columns that are selected. -/
def targets (reg : Registry) (q : Query) (s : Schema) : List String :=
  match q.columns with
  | .none => s.columnNames
  | some columns => columns.map fun name => (reg.resolve (q.type, name)).getD name

/-- The query is one that the database answers row by row, with rows that can be read: it loads no
relations, its names are accepted and open no clause, and it selects no aggregate. -/
structure IsAnswered (reg : Registry) (E : Engine ρ) (db : Database σ) (q : Query) (s : Schema) :
    Prop where
  runs : E.Runs db
  schema_eq : reg.schema q.type = .ok s
  eager_eq : q.eager.paths = []
  given : ∀ columns ∈ q.columns, ∀ name ∈ columns, Accepted name
  table : Accepted s.table ∧ IsClosed s.table
  names : ∀ name ∈ q.scope.names, Accepted name ∧ IsClosed name
  targets : ∀ column ∈ q.targets reg s, Accepted column ∧ IsClosed column
  rows : ∃ project,
    E.output (lexemes (Scope.listText (q.targets reg s))) q.scope.orderLexemes = .each project ∧
      ∀ row ∈ E.rows (lexemes s.table), ∃ e, s.scan (project row) = .ok e

section
variable {E : Engine ρ} {db : Database σ} {q : Query} {s : Schema}

/-- Neither paging nor DISTINCT matters for that. -/
theorem IsAnswered.rescope (h : q.IsAnswered reg E db s) (limit offset : Option Int)
    (distinct : Bool) :
    IsAnswered reg E db { q with scope := { q.scope with limit, offset, distinct } } s :=
  ⟨h.runs, h.schema_eq, h.eager_eq, h.given, h.table, h.names, h.targets, h.rows⟩

/-! ### What is executed -/

theorem gives_selected (hs : reg.schema q.type = .ok s)
    (hgiven : ∀ columns ∈ q.columns, ∀ name ∈ columns, Accepted name) :
    Gives (q.selected s : Run reg σ (List String)) (.ok (q.targets reg s)) := by
  unfold selected Query.targets
  cases hcolumns : q.columns with
  | none => exact Gives.pure _
  | some columns =>
    exact (gives_checkNames (hgiven columns hcolumns)).bind
      (Gives.mapM fun name _ => gives_resolveOrKeep hs name)

/-- Without relations to load there is nothing to plan. -/
theorem gives_make (hs : reg.schema q.type = .ok s) (heager : q.eager.paths = []) :
    Gives (Plan.make q.eager q.type : Run reg σ Plan) (.ok ⟨q.eager, [], []⟩) := by
  rw [Plan.make, heager]
  refine Gives.bind (Gives.pure []) ((gives_schema hs).bind ?_)
  rw [Plan.prepareNodes]
  exact (Gives.pure []).bind (Gives.pure _)

/-- A query yields the entities of the rows that its statement is answered with. -/
theorem gives_execute (h : q.IsAnswered reg E db s) {records : List Record}
    (hanswer : ∀ state,
      (db.answer (.select s.table (q.targets reg s) q.scope) state).1 = .ok records)
    (hscan : ∀ r ∈ records, ∃ e, s.scan r = .ok e) :
    Gives (q.execute db : Run reg σ (List Entity)) (.ok (records.map s.entityOf)) := by
  refine (gives_schema h.schema_eq).bind ?_
  refine (gives_checkName h.table.1).bind ?_
  refine (gives_checkNames fun name hname => (h.names name hname).1).bind ?_
  refine (gives_selected h.schema_eq h.given).bind ?_
  refine (gives_make h.schema_eq h.eager_eq).bind ?_
  refine (Gives.of_ensures (ensures_issue_of hanswer .select)).bind ?_
  refine Gives.bind (a := records.map s.entityOf) ?_ fun w => ?_
  · rw [Schema.scanAll_eq_ok hscan]
    exact gives_ofExcept _
  · rw [run_ofLoaded, Plan.load, Plan.loadNodes]
    rfl

/-- The records of all rows that satisfy the conditions. -/
def records (E : Engine ρ) (reg : Registry) (q : Query) (s : Schema) : List Record :=
  E.records (q.scope.selection s.table (q.targets reg s)) q.scope.params

/-- The entities that the query is for as far as it is not limited. -/
def all (E : Engine ρ) (reg : Registry) (q : Query) (s : Schema) : List Entity :=
  ((q.records E reg s).drop (q.scope.offset.getD 0).toNat).map s.entityOf

/-- The statement of a query is answered with its records, but for paging. -/
theorem IsAnswered.answer_eq (h : q.IsAnswered reg E db s) (state : σ) :
    (db.answer (.select s.table (q.targets reg s) q.scope) state).1 =
      .ok (limited q.scope.limit ((q.records E reg s).drop (q.scope.offset.getD 0).toNat)) := by
  have hread := Scope.read_selectText h.names h.table h.targets
  rw [h.runs (.select s.table (q.targets reg s) q.scope) _ hread state, Engine.answer]
  exact congrArg Except.ok (Scope.pageOf_page _ _)

theorem IsAnswered.scan_eq_ok (h : q.IsAnswered reg E db s) {r : Record}
    (hr : r ∈ q.records E reg s) : ∃ e, s.scan r = .ok e := by
  obtain ⟨project, houtput, hscan⟩ := h.rows
  obtain ⟨row, hrow, rfl⟩ := Engine.exists_of_mem_records houtput hr
  exact hscan row hrow

/-- **What a query comes to**: all that it is for, up to its limit. -/
theorem IsAnswered.gives (h : q.IsAnswered reg E db s) :
    Gives (q.execute db : Run reg σ (List Entity))
      (.ok (limited q.scope.limit (q.all E reg s))) := by
  rw [all, Sql.limited_map]
  refine gives_execute h h.answer_eq fun r hr => h.scan_eq_ok ?_
  exact List.mem_of_mem_drop ((Sql.limited_sublist _ _).subset hr)

/-- The number of rows that satisfy the conditions. -/
theorem IsAnswered.length_unabridged (h : q.IsAnswered reg E db s) :
    (q.unabridged.all E reg s).length =
      (E.matching (q.scope.selection s.table (q.targets reg s)) q.scope.params).length := by
  obtain ⟨project, houtput, -⟩ := h.rows
  have hrecords : q.unabridged.records E reg s =
      (E.output (lexemes (Scope.listText (q.targets reg s))) q.scope.orderLexemes).records
        (E.ordered (q.scope.selection s.table (q.targets reg s)) q.scope.params) := rfl
  have hall : q.unabridged.all E reg s = (q.unabridged.records E reg s).map s.entityOf := rfl
  rw [hall, hrecords, houtput, Output.records, List.length_map, List.length_map,
    Engine.length_ordered]

theorem IsAnswered.length_unabridged_lt (h : q.IsAnswered reg E db s) :
    (q.unabridged.all E reg s).length < 2 ^ 63 := by
  rw [h.length_unabridged]
  exact Engine.length_matching_lt

/-- **What a count comes to**: how many entities there are without DISTINCT and without paging. -/
theorem IsAnswered.gives_count (h : q.IsAnswered reg E db s) :
    Gives (q.count db : Run reg σ Int64)
      (.ok (Int64.ofNat (q.unabridged.all E reg s).length)) := by
  have hanswer : ∀ state, (db.answer (.count s.table q.scope) state).1 =
      .ok [⟨[("COUNT(*)", .int (Int64.ofNat (q.unabridged.all E reg s).length))]⟩] := by
    intro state
    have hread := Scope.read_countText h.names h.table
    rw [h.runs (.count s.table q.scope) _ hread state, Engine.answer_countSelection,
      h.length_unabridged]
    rfl
  refine (gives_schema h.schema_eq).bind ?_
  refine (gives_checkName h.table.1).bind ?_
  refine (gives_checkNames fun name hname => (h.names name hname).1).bind ?_
  exact (Gives.of_ensures (ensures_issue_of hanswer .count)).bind (Gives.pure _)

theorem IsAnswered.gives_any (h : q.IsAnswered reg E db s) :
    Gives (q.any db : Run reg σ Bool) (.ok !(q.unabridged.all E reg s).isEmpty) := by
  have hlt := h.length_unabridged_lt
  have hiff : (0 < Int64.ofNat (q.unabridged.all E reg s).length) ↔
      0 < (q.unabridged.all E reg s).length :=
    Int64.ofNat_lt_iff_lt (a := 0) (by decide) hlt
  have hlength : ∀ es : List Entity, decide (0 < es.length) = !es.isEmpty := by
    intro es
    cases es <;> simp
  rw [← hlength, ← decide_eq_decide.2 hiff]
  exact h.gives_count.bind (Gives.pure _)

/-! ### Choosing among entities -/

/-- The entity if there is just one. -/
def sole : List Entity → Except Error Entity
  | [] => .error .notFound
  | [e] => .ok e
  | _ => .error .multiple

theorem sole_limited {limit : Option Int} (h₀ : limit ≠ some 0) (h₁ : limit ≠ some 1)
    (es : List Entity) : sole (limited limit es) = sole es := by
  cases limit with
  | none => rfl
  | some n =>
    rw [Sql.limited, Sql.atMost]
    split
    · rfl
    · obtain ⟨k, hk⟩ : ∃ k, n.toNat = k + 2 := by
        have hzero : n ≠ 0 := fun heq => h₀ (congrArg some heq)
        have hone : n ≠ 1 := fun heq => h₁ (congrArg some heq)
        exact ⟨n.toNat - 2, by omega⟩
      rw [hk]
      cases es with
      | nil => rfl
      | cons e es => cases es <;> rfl

theorem IsAnswered.gives_first (h : q.IsAnswered reg E db s) :
    Gives (q.first db : Run reg σ (Option Entity)) (.ok (q.all E reg s).head?) := by
  have hone : (some 1 : Option Int) ≠ some 0 := by decide
  rw [← Sql.head?_limited hone]
  exact (h.rescope (some 1) q.scope.offset q.scope.distinct).gives.map

theorem IsAnswered.gives_get (h : q.IsAnswered reg E db s) :
    Gives (q.get db : Run reg σ Entity) (sole (q.all E reg s)) := by
  have h₀ : (some 2 : Option Int) ≠ some 0 := by decide
  have h₁ : (some 2 : Option Int) ≠ some 1 := by decide
  rw [← sole_limited h₀ h₁]
  have htwo : Gives ((q.limit 2).execute db : Run reg σ (List Entity))
      (.ok (limited (some 2) (q.all E reg s))) :=
    (h.rescope (some 2) q.scope.offset q.scope.distinct).gives
  refine htwo.bind ?_
  rcases limited (some 2) (q.all E reg s) with _ | ⟨e, _ | ⟨e', es⟩⟩
  · exact Gives.throw _
  · exact Gives.pure _
  · exact Gives.throw _

/-- Without paging, DISTINCT may take entities away but never all of them. -/
theorem isEmpty_all_unabridged (hoffset : q.scope.offset = Option.none) :
    (q.unabridged.all E reg s).isEmpty = (q.all E reg s).isEmpty := by
  have hrecords : q.records E reg s = if q.scope.distinct
      then Sql.merge E.same (q.unabridged.records E reg s) else q.unabridged.records E reg s := rfl
  have hall : q.unabridged.all E reg s = (q.unabridged.records E reg s).map s.entityOf := rfl
  have hfound : q.all E reg s = (q.records E reg s).map s.entityOf := by rw [all, hoffset]; rfl
  rw [hall, hfound, hrecords, List.isEmpty_map, List.isEmpty_map]
  split
  · rw [Bool.eq_iff_iff, List.isEmpty_iff, List.isEmpty_iff, Sql.merge_eq_nil]
  · rfl

theorem unabridged_eq (hlimit : q.scope.limit = Option.none)
    (hoffset : q.scope.offset = Option.none) (hdistinct : q.scope.distinct = false) :
    q.unabridged = q := by
  obtain ⟨type, ⟨filters, excludes, order, limit, offset, distinct⟩, columns, eager⟩ := q
  obtain rfl : limit = Option.none := hlimit
  obtain rfl : offset = Option.none := hoffset
  obtain rfl : distinct = false := hdistinct
  rfl

/-- **The ways to run a query agree**, except that the first and the only entity are looked for
without its limit, and that a count knows neither paging nor DISTINCT. -/
theorem terminals_agree (h : q.IsAnswered reg E db s) :
    ∃ found all every : List Entity, ∃ n : Int64,
      Gives (q.execute db : Run reg σ (List Entity)) (.ok found) ∧
      Gives (q.unlimited.execute db : Run reg σ (List Entity)) (.ok all) ∧
      Gives (q.unabridged.execute db : Run reg σ (List Entity)) (.ok every) ∧
      found = limited q.scope.limit all ∧
      (Gives (q.first db : Run reg σ (Option Entity)) (.ok all.head?) ∧
        (q.scope.limit ≠ some 0 → all.head? = found.head?)) ∧
      (Gives (q.get db : Run reg σ Entity) (sole all) ∧
        (q.scope.limit ≠ some 0 → q.scope.limit ≠ some 1 → sole all = sole found)) ∧
      (Gives (q.count db : Run reg σ Int64) (.ok n) ∧ n.toInt = every.length) ∧
      Gives (q.any db : Run reg σ Bool) (.ok !every.isEmpty) ∧
      (q.scope.limit = Option.none → q.scope.offset = Option.none →
        every.isEmpty = found.isEmpty ∧ (q.scope.distinct = false → every = found)) := by
  refine ⟨_, _, _, _, h.gives, (h.rescope .none q.scope.offset q.scope.distinct).gives,
    (h.rescope .none .none false).gives, rfl,
    ⟨h.gives_first, fun hlimit => (Sql.head?_limited hlimit _).symm⟩,
    ⟨h.gives_get, fun h₀ h₁ => (sole_limited h₀ h₁ _).symm⟩,
    ⟨h.gives_count, Int64.toInt_ofNat_of_lt h.length_unabridged_lt⟩, h.gives_any,
    fun hlimit hoffset => ⟨?_, fun hdistinct => ?_⟩⟩
  · rw [hlimit]
    exact isEmpty_all_unabridged hoffset
  · show limited Option.none (q.unabridged.all E reg s) = _
    rw [unabridged_eq hlimit hoffset hdistinct, hlimit]

end

/-! Three notes, two of which have the same text. -/

def noteRegistry : Registry :=
  ⟨[{ type := "Note", table := some "notes", members :=
        [.column "id" (.int .i64) (some "id") true false,
          .column "body" .text (some "body") false false] },
    { type := "Top", table := some "notes LIMIT 1", members :=
        [.column "id" (.int .i64) (some "id") true false] }]⟩

def noteTable : List Record :=
  [⟨[("id", .int 1), ("body", .text "a")]⟩, ⟨[("id", .int 2), ("body", .text "a")]⟩,
    ⟨[("id", .int 3), ("body", .text "b")]⟩]

def noteEngine : Engine Record := .ofTable "notes" noteTable (by decide)

def noteWorld : World noteRegistry Unit where
  catalog := .empty _ {}
  state := ()

def noteSchema : Schema := Schema.build (noteRegistry.get "Note")

/-- All notes but the latest, the latest first. -/
def noteQuery : Query where
  type := "Note"
  scope :=
    { filters := [.compare "id" .gt (.int 0)], excludes := [.isNull "body"],
      order := [⟨"id", true⟩], limit := some 5, offset := some 1, distinct := true }

theorem isAnswered_noteQuery :
    IsAnswered noteRegistry noteEngine noteEngine.database noteQuery noteSchema where
  runs := Engine.runs_database _
  schema_eq := rfl
  eager_eq := rfl
  given := by simp [noteQuery]
  table := by decide +kernel
  names := by decide +kernel
  targets := by decide +kernel
  rows := by
    refine ⟨_, Engine.output_ofTable _ (by decide +kernel) _, fun row hrow => ?_⟩
    have htable : noteSchema.table = "notes" := by decide +kernel
    rw [htable, noteEngine, Engine.rows_ofTable] at hrow
    have hall : ∀ row ∈ noteTable, (noteSchema.scan (Engine.projected
        (lexemes (Scope.listText (noteQuery.targets noteRegistry noteSchema))) row)).isOk := by
      decide +kernel
    have hok := hall row hrow
    revert hok
    cases noteSchema.scan _ with
    | ok e => exact fun _ => ⟨e, rfl⟩
    | error why => exact fun hok => nomatch hok

/-- How many entities a query yields. -/
def noteLength (q : Query) : Option Nat :=
  ((q.execute noteEngine.database).run noteWorld).1.toOption.map List.length

def noteCount (q : Query) : Option Int64 := ((q.count noteEngine.database).run noteWorld).1.toOption

theorem terminals_agree_noteQuery :
    IsAnswered noteRegistry noteEngine noteEngine.database noteQuery noteSchema ∧
    ∃ found all every : List Entity, ∃ n : Int64,
      Gives (noteQuery.execute noteEngine.database : Run noteRegistry Unit _) (.ok found) ∧
      Gives (noteQuery.first noteEngine.database : Run noteRegistry Unit _) (.ok all.head?) ∧
      Gives (noteQuery.get noteEngine.database : Run noteRegistry Unit _) (sole all) ∧
      Gives (noteQuery.count noteEngine.database : Run noteRegistry Unit _) (.ok n) ∧
      all.head? = found.head? ∧ sole all = sole found ∧ n.toInt = every.length ∧
      found.length = 2 ∧ n = 3 := by
  obtain ⟨found, all, every, n, hfound, -, -, -, ⟨hfirst, hhead⟩, ⟨hget, hsole⟩, ⟨hcount, hn⟩, -⟩ :=
    terminals_agree isAnswered_noteQuery
  have hlength : noteLength noteQuery = some found.length := by
    rw [noteLength, hfound noteWorld]
    rfl
  have htotal : noteCount noteQuery = some n := by
    rw [noteCount, hcount noteWorld]
    rfl
  refine ⟨isAnswered_noteQuery, found, all, every, n, hfound, hfirst, hget, hcount,
    hhead (by decide), hsole (by decide) (by decide), hn, ?_, ?_⟩
  · have htwo : noteLength noteQuery = some 2 := by decide +kernel
    exact Option.some.inj (hlength.symm.trans htwo)
  · have hthree : noteCount noteQuery = some 3 := by decide +kernel
    exact Option.some.inj (htotal.symm.trans hthree)

/-- The first and the only entity are looked for without the limit, and a count knows neither
DISTINCT nor aggregates nor a clause in a name. -/
theorem terminals_differ :
    noteEngine.Runs noteEngine.database ∧
    (noteLength { type := "Note", scope := { limit := some 0 } } = some 0 ∧
      ((first noteEngine.database { type := "Note", scope := { limit := some 0 } }).run
        noteWorld).1.toOption.map Option.isSome = some true ∧
      ((get noteEngine.database { type := "Note", scope := { limit := some 0 } }).run
        noteWorld).1.map (fun _ => ()) = .error .multiple) ∧
    (noteLength { type := "Note", scope := { limit := some 1 } } = some 1 ∧
      ((get noteEngine.database { type := "Note", scope := { limit := some 1 } }).run
        noteWorld).1.map (fun _ => ()) = .error .multiple) ∧
    (noteLength { type := "Note", scope := { distinct := true }, columns := some ["body"] } =
        some 2 ∧
      noteCount { type := "Note", scope := { distinct := true }, columns := some ["body"] } =
        some 3) ∧
    (Accepted "COUNT(*)" ∧ noteLength { type := "Note", columns := some ["COUNT(*)"] } = some 1 ∧
      noteCount { type := "Note", columns := some ["COUNT(*)"] } = some 3) ∧
    (Accepted "notes LIMIT 1" ∧ noteLength { type := "Top" } = some 1 ∧
      noteCount { type := "Top" } = some 3) :=
  ⟨Engine.runs_database _, by decide +kernel⟩

end Query

end EntityGraph
