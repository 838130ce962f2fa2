import EntityGraph.Proofs.Load.Carrying

/-!
# Names that reach a database

Whatever is requested, every statement is built from names that were checked, with one exception: a
mapped column may be selected without a check (`Request.names_issued`). So all names that reach the
database are accepted if those of the mapped columns are, and a type that can be queried and maps a
column under a rejected name sends it with its plainest query.
-/

namespace EntityGraph

open Run
open Sql (Accepted Statement)

variable {reg : Registry} {σ : Type}

/-- The names that stand in the text of a statement. -/
def Sql.Statement.names : Statement → List String
  | .select table columns scope => table :: (columns ++ scope.names)
  | .count table scope => table :: scope.names
  | .raw _ _ => []

/-- A rejected name in a statement that was checked is that of a selected column. -/
theorem Guarded.mem_names {st : Statement} (h : Guarded reg st) {name : String}
    (hname : name ∈ st.names) :
    Accepted name ∨ reg.Maps name ∧
      ∃ table columns scope, st = .select table columns scope ∧ name ∈ columns := by
  cases st with
  | select table columns scope =>
    obtain ⟨htable, hscope, hcolumns⟩ := h
    rcases List.mem_cons.1 hname with rfl | hname
    · exact .inl htable
    rcases List.mem_append.1 hname with hcolumn | hname
    · exact (hcolumns name hcolumn).imp_right fun hmaps => ⟨hmaps, _, _, _, rfl, hcolumn⟩
    · exact .inl (hscope name hname)
  | count table scope =>
    obtain ⟨htable, hscope⟩ := h
    rcases List.mem_cons.1 hname with rfl | hname
    · exact .inl htable
    · exact .inl (hscope name hname)
  | raw text args => exact h.elim

/-! ### Statements of a query -/

namespace Query

variable {db : Database σ} {q : Query}

theorem ensures_selected {P : Statement → Prop} {s : Schema} (hs : reg.schema q.type = .ok s) :
    Ensures (q.selected s : Run reg σ (List String)) P (fun _ => True) fun columns =>
      ∀ column ∈ columns, Accepted column ∨ reg.Maps column := by
  unfold selected
  cases q.columns with
  | none => exact Ensures.pure fun column h => .inr ⟨q.type, s, hs, h⟩
  | some columns =>
    refine ((ensures_checkNames columns).weaken fun _ _ => trivial).bind fun _ hnames => ?_
    exact (Plan.ensures_resolveAll hs columns).imp fun resolved h column hcolumn =>
      (h column hcolumn).imp_left (hnames column)

/-- A query issues checked statements only. -/
theorem ensures_execute (db : Database σ) (q : Query) :
    Ensures (q.execute db : Run reg σ (List Entity)) (Guarded reg) (fun _ => True)
      fun _ => True := by
  refine ((ensures_schema q.type).weaken fun _ _ => trivial).bind fun s _ => ?_
  refine ((ensures_checkName _).weaken fun _ _ => trivial).bind fun _ htable => ?_
  refine ((ensures_checkNames _).weaken fun _ _ => trivial).bind fun _ hnames => ?_
  refine (ensures_selected s.property).bind fun columns hcolumns => ?_
  refine ((Plan.finds_make q.eager q.type).silent).bind fun plan hplan => ?_
  refine ((ensures_issue db _ _).mono ?_ (fun _ _ => trivial) fun _ => id).bind fun records _ => ?_
  · rintro _ rfl
    exact ⟨htable, hnames, hcolumns⟩
  refine ((ensures_ofExcept (s.val.late_scanAll records)).weaken fun _ _ => trivial).bind
    fun entities _ => ?_
  refine ensures_ofLoaded ((hplan.yields db entities).mono (fun _ => id) fun l _ => ?_)
  cases l.outcome <;> trivial

theorem ensures_count (db : Database σ) (q : Query) :
    Ensures (q.count db : Run reg σ Int64) (Guarded reg) (fun _ => True) fun _ => True := by
  refine ((ensures_schema q.type).weaken fun _ _ => trivial).bind fun s _ => ?_
  refine ((ensures_checkName _).weaken fun _ _ => trivial).bind fun _ htable => ?_
  refine ((ensures_checkNames _).weaken fun _ _ => trivial).bind fun _ hnames => ?_
  refine ((ensures_issue db _ _).mono ?_ (fun _ _ => trivial) fun _ => id).bind fun records _ => ?_
  · rintro _ rfl
    exact ⟨htable, hnames⟩
  cases countIn records with
  | none => exact Ensures.throw trivial
  | some n => exact Ensures.pure trivial

/-- The plainest query of a type begins with a select of all its columns. -/
theorem begins_execute {type : String} {s : Schema} (hs : reg.schema type = .ok s)
    (htable : Accepted s.table) (db : Database σ) :
    Begins (execute db { type := type } : Run reg σ (List Entity))
      (.select s.table s.columnNames {}) := by
  refine Begins.after (ensures_schema_of hs) fun s' hs' => ?_
  subst hs'
  refine Begins.after (ensures_checkName_of htable) fun _ _ => ?_
  refine Begins.after (ensures_checkNames_of (by simp [Sql.Scope.names])) fun _ _ => ?_
  refine Begins.after (Q := (· = s'.val.columnNames)) (Ensures.pure rfl) fun columns hcolumns => ?_
  refine Begins.after (Q := (·.nodes = [])) ?_ fun plan hplan => ?_
  · refine Ensures.bind (Q := (· = [])) (Ensures.pure rfl) fun nodes hnodes => ?_
    refine (ensures_schema_of hs).bind fun _ _ => ?_
    rw [hnodes, Plan.prepareNodes]
    exact (Ensures.pure trivial (Q := fun _ => True)).bind fun _ _ => Ensures.pure rfl
  rw [hcolumns]
  refine (begins_issue db .select _).bind (P := fun _ => True) (E := fun _ => True)
    (R := fun _ => True) fun records => ?_
  refine ((ensures_ofExcept (s'.val.late_scanAll records)).weaken fun _ _ => trivial).bind
    fun entities _ => ensures_ofLoaded ?_
  rw [Plan.load, hplan, Plan.loadNodes]
  exact Yields.pure trivial

end Query

/-! ### Requests -/

/-- What may be requested of a database. -/
inductive Request where
  | execute (q : Query)
  | count (q : Query)
  | preload (eager : Eager) (type : String) (batch : List Entity)
  | load (paths : List String) (type : String) (batch : List Entity)
  | loadOwners (path : String) (types : OwnerTypes) (type : String) (batch : List Entity)

namespace Request

/-- The world after a request. -/
def after (db : Database σ) (w : World reg σ) : Request → World reg σ
  | execute q => ((q.execute db).run w).2
  | count q => ((q.count db).run w).2
  | preload eager type batch => (EntityGraph.preload db eager type batch w).2
  | load paths type batch => (loadPaths db paths type batch w).2
  | loadOwners path types type batch => (EntityGraph.loadOwners db path types type batch w).2

/-- The statements of a request, in order. -/
def statements (db : Database σ) (w : World reg σ) (r : Request) : List Statement :=
  (r.after db w).issued.drop w.issued.length

theorem preload_yields (db : Database σ) (eager : Eager) (type : String) (batch : List Entity) :
    Yields (EntityGraph.preload db eager type batch : StateM (World reg σ) Loaded) (Guarded reg)
      fun _ => True := by
  unfold EntityGraph.preload
  split
  · exact Yields.pure trivial
  · have hmake : Ensures (Plan.make eager type : Run reg σ Plan) (Guarded reg) (fun _ => True)
        (Plan.Suits reg σ eager type) := (Plan.finds_make eager type).silent
    refine Yields.bind hmake fun r hr => ?_
    cases r with
    | error why => exact Yields.pure trivial
    | ok plan => exact (Plan.Suits.yields hr db batch).mono (fun _ => id) fun _ _ => trivial

theorem guarded_of_mem (db : Database σ) (w : World reg σ) (r : Request) {st : Statement}
    (h : st ∈ r.statements db w) : Guarded reg st := by
  have hpreload : ∀ eager type batch, ∃ issued,
      (EntityGraph.preload db eager type batch w).2.issued = w.issued ++ issued ∧
        ∀ st ∈ issued, Guarded reg st := by
    intro eager type batch
    obtain ⟨issued, hissued, -, hguarded, -⟩ := preload_yields db eager type batch w
    exact ⟨issued, hissued, hguarded⟩
  have hyields : ∃ issued, (r.after db w).issued = w.issued ++ issued ∧
      ∀ st ∈ issued, Guarded reg st := by
    cases r with
    | execute q =>
      obtain ⟨issued, hissued, -, hguarded, -⟩ := q.ensures_execute db w
      exact ⟨issued, hissued, hguarded⟩
    | count q =>
      obtain ⟨issued, hissued, -, hguarded, -⟩ := q.ensures_count db w
      exact ⟨issued, hissued, hguarded⟩
    | preload eager type batch => exact hpreload eager type batch
    | load paths type batch => exact hpreload _ type batch
    | loadOwners path types type batch => exact hpreload _ type batch
  obtain ⟨issued, hissued, hguarded⟩ := hyields
  rw [statements, hissued, List.drop_left] at h
  exact hguarded st h

/-- The plainest query of a type sends the names of all its columns. -/
theorem mem_statements_execute {type : String} {s : Schema} (hs : reg.schema type = .ok s)
    (htable : Accepted s.table) (db : Database σ) (w : World reg σ) :
    .select s.table s.columnNames {} ∈ statements db w (execute { type := type }) := by
  obtain ⟨rest, hrest⟩ := Query.begins_execute hs htable db w
  rw [statements, after, hrest, List.drop_left]
  exact List.mem_cons_self

/-- **Every name that reaches the database was accepted, or is that of a mapped column in a select
list.** The plainest query of a type sends the names of its columns as they are; so, as far as the
types have accepted tables, all names are accepted just if those of the mapped columns are. -/
theorem names_issued (db : Database σ) (w : World reg σ) :
    (∀ (r : Request), ∀ st ∈ r.statements db w, (∀ text args, st ≠ .raw text args) ∧
      ∀ name ∈ st.names, Accepted name ∨ reg.Maps name ∧
        ∃ table columns scope, st = .select table columns scope ∧ name ∈ columns) ∧
    (∀ type s, reg.schema type = .ok s → Accepted s.table → ∀ column ∈ s.columnNames,
      ∃ st ∈ statements db w (execute { type := type }), column ∈ st.names) ∧
    ((∀ type s, reg.schema type = .ok s → Accepted s.table) →
      ((∀ (r : Request), ∀ st ∈ r.statements db w, ∀ name ∈ st.names, Accepted name) ↔
        ∀ column, reg.Maps column → Accepted column)) := by
  have hnames : ∀ (r : Request), ∀ st ∈ r.statements db w, ∀ name ∈ st.names, Accepted name ∨
      reg.Maps name ∧ ∃ table columns scope, st = .select table columns scope ∧ name ∈ columns :=
    fun r st hst name hname => (guarded_of_mem db w r hst).mem_names hname
  have hsent : ∀ type s, reg.schema type = .ok s → Accepted s.table → ∀ column ∈ s.columnNames,
      ∃ st ∈ statements db w (execute { type := type }), column ∈ st.names :=
    fun type s hs htable column hcolumn => ⟨_, mem_statements_execute hs htable db w,
      List.mem_cons_of_mem _ (List.mem_append_left _ hcolumn)⟩
  refine ⟨fun r st hst => ⟨?_, hnames r st hst⟩, hsent, fun htables => ⟨?_, ?_⟩⟩
  · rintro text args rfl
    exact guarded_of_mem db w r hst
  · rintro haccepted column ⟨type, s, hs, hcolumn⟩
    obtain ⟨st, hst, hname⟩ := hsent type s hs (htables type s hs) column hcolumn
    exact haccepted _ st hst column hname
  · intro hmapped r st hst name hname
    exact (hnames r st hst name hname).elim id fun h => hmapped name h.1

/-! A type with a column under a name that is rejected. -/

def shelfRegistry : Registry :=
  ⟨[{ type := "Book", table := some "books", members :=
        [.column "id" (.int .i64) (some "id") true false,
          .column "title" .text (some "x; DROP TABLE t") false false] }]⟩

def shelfDatabase : Database Unit where
  answer _ _ := (.ok [], ())

def shelfWorld : World shelfRegistry Unit where
  catalog := .empty _ {}
  state := ()

theorem names_issued_shelf :
    (∀ type s, shelfRegistry.schema type = .ok s → Accepted s.table) ∧
      ¬ ∀ (r : Request), ∀ st ∈ r.statements shelfDatabase shelfWorld, ∀ name ∈ st.names,
        Accepted name := by
  have hbook : ∀ type s, shelfRegistry.schema type = .ok s → type = "Book" := by
    intro type s hs
    by_contra hne
    have hget : shelfRegistry.get type = { type := type } := by
      simp [Registry.get, shelfRegistry, Ne.symm hne]
    rw [Registry.schema, hget] at hs
    cases hs
  have htables : ∀ type s, shelfRegistry.schema type = .ok s → Accepted s.table := by
    intro type s hs
    obtain rfl := hbook type s hs
    cases hs
    decide +kernel
  refine ⟨htables, fun haccepted => ?_⟩
  have hmapped := ((names_issued shelfDatabase shelfWorld).2.2 htables).1 haccepted
  have hmaps : shelfRegistry.Maps "x; DROP TABLE t" :=
    ⟨"Book", _, rfl, by decide +kernel⟩
  exact absurd (hmapped _ hmaps) (by decide +kernel)

/-- A query of all books sends a second command along with the select. -/
theorem names_issued_not_accepted :
    statements shelfDatabase shelfWorld (execute { type := "Book" })
        = [.select "books" ["id", "x; DROP TABLE t"] {}] ∧
      ¬ Accepted "x; DROP TABLE t" := by
  decide +kernel

end Request

end EntityGraph
