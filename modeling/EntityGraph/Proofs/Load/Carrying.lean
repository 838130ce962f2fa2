import EntityGraph.Proofs.Load.Keeping
import EntityGraph.Proofs.Load.Late
import EntityGraph.Proofs.Load.Planning

/-!
# What carrying out a plan can do

A load follows a plan that covers its forest (`loadNodes_yields`). Every statement that it issues
has been checked: tables and the names in conditions and orders are accepted, and a selected column
is accepted or a mapped column of some type (`Guarded`). A load ends early with a failure of the
database, a key or a row, or else because of a name that planning does not look at (`Stray`): the
column on which a descriptor joins the related rows, or the table and the key column of an owner.
-/

namespace EntityGraph

open Run
open Sql (Accepted Statement)

variable {reg : Registry} {σ : Type}

/-! ### Statements and errors -/

/-- The column is mapped on some type. -/
def Registry.Maps (reg : Registry) (column : String) : Prop :=
  ∃ type s, reg.schema type = .ok s ∧ column ∈ s.columnNames

/-- All names of a statement are accepted, but for selected columns that are mapped. -/
def Guarded (reg : Registry) : Statement → Prop
  | .select table columns scope =>
    Accepted table ∧ (∀ name ∈ scope.names, Accepted name) ∧
      ∀ column ∈ columns, Accepted column ∨ reg.Maps column
  | .count table scope => Accepted table ∧ ∀ name ∈ scope.names, Accepted name
  | .raw _ _ => False

theorem not_isRejection {names : List String} (h : ∀ name ∈ names, Accepted name) (e : Error) :
    ¬ IsRejection names e := by
  rintro ⟨name, hname, why, hwhy, -⟩
  have hok : Sql.checkIdentifier name = .ok () := h name hname
  rw [hok] at hwhy
  cases hwhy

/-- The column of an owner type that the parents refer to. -/
def OwnerJoin.column? (j : OwnerJoin) (s : Schema) : Option ColumnInfo :=
  match j.ownerKey with
  | none => s.column? s.primaryKey
  | some key => (s.resolve key).bind s.column?

theorem OwnerJoin.column?_column {j : OwnerJoin} {s : Schema} {c : ColumnInfo}
    (h : j.column? s = some c) : s.column? c.column = some c := by
  unfold column? at h
  split at h
  · exact Schema.column?_column h
  · obtain ⟨name, -, hname⟩ := Option.bind_eq_some_iff.1 h
    exact Schema.column?_column hname

/-- The rows that a level holds are of one of the types. -/
def Staged.IsOf (types : List String) : Staged → Prop
  | .rows _ target _ => target ∈ types
  | .owners _ => True

namespace Plan

/-- An error that a load can end with at a path although the descriptor was planned. -/
def Stray (reg : Registry) (eager : Eager) (path : String) : Descriptor → Error → Prop
  | .hasOne j, e | .hasMany j, e | .belongsTo j, e | .morphOne j, e | .morphMany j, e =>
    ∃ values, IsRejection (eager.constrain path (joinScope j values)).names e
  | .belongsToMany j, e =>
    ∃ values, IsRejection (eager.constrain path (among j.relatedKey values)).names e
  | .morphTo j, e =>
    ∃ discriminator type s, j.types.get? discriminator = some type ∧ reg.schema type = .ok s ∧
      (IsRejection [s.table] e ∨
        (j.column? s = none ∧ ∃ name column, e = .misconfigured name s.type (.notMapped column)) ∨
        ∃ c values, j.column? s = some c ∧
          IsRejection (eager.constrain path (among c.column values)).names e)

/-- How a load may fail. -/
def Fails (reg : Registry) (plan : Plan) (e : Error) : Prop :=
  e.isLate = true ∨ ∃ p ∈ plan.descriptors, Stray reg plan.eager p.1.2 p.2 e

variable {db : Database σ} {plan : Plan} {node : PathNode} {type : String}
  {parents : List Entity}

/-! ### Statements of a level -/

/-- Names resolved on a type are mapped columns, or the names themselves. -/
theorem ensures_resolveAll {P : Statement → Prop} {E : Error → Prop} {s : Schema}
    (hs : reg.schema type = .ok s) (names : List String) :
    Ensures (names.mapM (resolveOrKeep type) : Run reg σ (List String)) P E fun columns =>
      ∀ column ∈ columns, column ∈ names ∨ reg.Maps column := by
  have hmap : Ensures (names.mapM (resolveOrKeep type) : Run reg σ (List String)) P E
      fun columns => List.Forall₂ (fun name column => column ∈ names ∨ reg.Maps column) names
        columns := by
    refine ensures_mapM fun name hname => ?_
    refine (ensures_resolveOrKeep type name).mono (fun _ => id)
      (fun _ h => absurd hs (h.2 s)) fun r hr => ?_
    subst hr
    rw [Catalog.resolve_of_schema hs]
    cases hresolve : s.resolve name with
    | none => exact .inl hname
    | some column =>
      obtain ⟨c, hc, rfl⟩ := Schema.mem_of_resolve hresolve
      exact .inr ⟨type, s, hs, List.mem_map_of_mem hc⟩
  refine hmap.imp fun columns hall column hcolumn => ?_
  obtain ⟨i, hi, rfl⟩ := List.getElem_of_mem hcolumn
  exact hall.get (hall.length_eq ▸ hi) hi

theorem ensures_projection {P : Statement → Prop} {E : Error → Prop} {s : Schema}
    (hs : reg.schema type = .ok s) (node : PathNode) :
    Ensures (projection node s : Run reg σ (List String)) P E fun columns =>
      ∀ column ∈ columns, (∃ names ∈ node.columns, column ∈ names) ∨ reg.Maps column := by
  unfold projection
  cases node.columns with
  | none => exact Ensures.pure fun column h => .inr ⟨type, s, hs, h⟩
  | some names =>
    rw [Registry.type_eq hs]
    exact (ensures_resolveAll hs names).imp fun columns h column hcolumn =>
      (h column hcolumn).imp_left fun hname => ⟨names, rfl, hname⟩

theorem ensures_select {s : Schema} (hs : reg.schema type = .ok s)
    (hcolumns : ∀ columns ∈ node.columns, ∀ name ∈ columns, Accepted name) (table : String)
    (scope : Sql.Scope) :
    Ensures (plan.select db node type table scope : Run reg σ (List Entity)) (Guarded reg)
      (fun e => e.isLate = true ∨ IsRejection (plan.eager.constrain node.path scope).names e ∨
        IsRejection [table] e) fun _ => True := by
  refine ((ensures_checkNames _).weaken fun _ h => .inr (.inl h)).bind fun _ hnames => ?_
  refine (ensures_schema_of hs).bind fun s' hs' => ?_
  subst hs'
  refine (ensures_projection hs node).bind fun columns hselected => ?_
  refine ((ensures_checkName table).weaken fun _ h => .inr (.inr h)).bind fun _ htable => ?_
  refine Ensures.bind ((ensures_issue db _ _).mono ?_ ?_ fun _ => id) fun records _ => ?_
  · rintro _ rfl
    exact ⟨htable, hnames, fun column h => (hselected column h).imp_left
      fun ⟨names, hgiven, hname⟩ => hcolumns names hgiven column hname⟩
  · rintro _ ⟨failure, rfl⟩
    exact .inl rfl
  · exact (ensures_ofExcept (s'.val.late_scanAll records)).weaken fun _ => .inl

/-- The rows of a level, fetched from a table that was accepted. -/
theorem ensures_select_of_accepted {s : Schema} (hs : reg.schema type = .ok s)
    (hcolumns : ∀ columns ∈ node.columns, ∀ name ∈ columns, Accepted name) {table : String}
    (htable : Accepted table) (scope : Sql.Scope) :
    Ensures (plan.select db node type table scope : Run reg σ (List Entity)) (Guarded reg)
      (fun e => e.isLate = true ∨ IsRejection (plan.eager.constrain node.path scope).names e)
      fun _ => True := by
  refine (ensures_select hs hcolumns table scope).weaken fun e he => ?_
  rcases he with hlate | hscope | hreject
  · exact .inl hlate
  · exact .inr hscope
  · exact absurd hreject (not_isRejection (by simpa using htable) e)

theorem ensures_mapped {P : Statement → Prop} {E : Error → Prop} {s : Schema} {column : String}
    (h : (s.column? column).isSome = true) :
    Ensures (mapped s node column : Run reg σ ColumnInfo) P E (s.column? column = some ·) := by
  obtain ⟨c, hc⟩ := Option.isSome_iff_exists.1 h
  rw [mapped, hc]
  exact Ensures.pure rfl

theorem ensures_correlate {P : Statement → Prop} (index : KeyIndex) (s : Schema)
    (column : String) (rows : List Entity) :
    Ensures (correlate index s column rows : Run reg σ _) P (fun e => e.isLate = true)
      fun _ => True := by
  unfold correlate
  split
  · exact ensures_ofExcept (index.late_correlate _ rows)
  · exact Ensures.pure trivial

theorem ensures_stageKeyed {s target : Schema} {kind : RelationKind} {j : Join}
    (htarget : reg.schema j.target = .ok target)
    (hcolumns : ∀ columns ∈ node.columns, ∀ name ∈ columns, Accepted name)
    (htable : Accepted j.table) (hparent : (s.column? j.parentColumn).isSome = true) :
    Ensures (plan.stageKeyed db node kind j s parents : Run reg σ _) (Guarded reg)
      (fun e => e.isLate = true ∨ ∃ values,
        IsRejection (plan.eager.constrain node.path (joinScope j values)).names e)
      fun _ => True := by
  refine (ensures_mapped hparent).bind fun column _ => ?_
  refine ((ensures_ofExcept (KeyIndex.late_ofBatch column parents)).weaken fun _ => .inl).bind
    fun index _ => ?_
  split
  · exact (ensures_emit _).bind fun _ _ => Ensures.pure trivial
  · refine ((ensures_select_of_accepted htarget hcolumns htable _).weaken fun _ h =>
      h.imp_right fun h => ⟨index.values, h⟩).bind fun rows _ => ?_
    refine (ensures_schema_of htarget).bind fun _ _ => ?_
    refine ((ensures_correlate index _ j.childColumn rows).weaken fun _ => .inl).bind
      fun staged _ => ?_
    exact (ensures_emit _).bind fun _ _ => Ensures.pure trivial

theorem ensures_selectPivot {j : PivotJoin} {values : List Sql.Value}
    (hpivot : ∀ name ∈ [j.pivotTable, j.foreignPivotKey, j.relatedPivotKey], Accepted name) :
    Ensures (selectPivot db j values : Run reg σ _) (Guarded reg) (fun e => e.isLate = true)
      fun _ => True := by
  simp only [List.forall_mem_cons] at hpivot
  obtain ⟨htable, hforeign, hrelated, -⟩ := hpivot
  refine (ensures_checkName_of htable).bind fun _ _ => ?_
  refine (ensures_issue db _ _).mono ?_ ?_ fun _ => id
  · rintro _ rfl
    refine ⟨htable, ?_, ?_⟩
    · simpa [among, Sql.Scope.names, Sql.Scope.filter, Sql.Filter.fields] using hforeign
    · simp [hforeign, hrelated]
  · rintro _ ⟨failure, rfl⟩
    rfl

theorem ensures_stagePivot {s target : Schema} {j : PivotJoin}
    (htarget : reg.schema j.target = .ok target)
    (hcolumns : ∀ columns ∈ node.columns, ∀ name ∈ columns, Accepted name)
    (htable : Accepted j.table) (hparent : (s.column? j.parentKey).isSome = true)
    (hpivot : ∀ name ∈ [j.pivotTable, j.foreignPivotKey, j.relatedPivotKey], Accepted name) :
    Ensures (plan.stagePivot db node j s parents : Run reg σ _) (Guarded reg)
      (fun e => e.isLate = true ∨ ∃ values,
        IsRejection (plan.eager.constrain node.path (among j.relatedKey values)).names e)
      fun _ => True := by
  refine (ensures_mapped hparent).bind fun column _ => ?_
  refine ((ensures_ofExcept (KeyIndex.late_ofBatch column parents)).weaken fun _ => .inl).bind
    fun index _ => ?_
  split
  · exact (ensures_emit _).bind fun _ _ => Ensures.pure trivial
  · refine ((ensures_selectPivot hpivot).weaken fun _ => .inl).bind fun pivotRows _ => ?_
    refine ((ensures_ofExcept (j.late_links index pivotRows)).weaken fun _ => .inl).bind
      fun links _ => ?_
    split
    · exact (ensures_emit _).bind fun _ _ => Ensures.pure trivial
    · refine ((ensures_select_of_accepted htarget hcolumns htable _).weaken fun _ h =>
        h.imp_right fun h => ⟨links.values, h⟩).bind fun rows _ => ?_
      refine (ensures_schema_of htarget).bind fun _ _ => ?_
      refine ((ensures_correlate links _ j.relatedKey rows).weaken fun _ => .inl).bind
        fun staged _ => ?_
      exact (ensures_emit _).bind fun _ _ => Ensures.pure trivial

/-! ### Owners -/

theorem ensures_ownerColumn {P : Statement → Prop} {s : Schema} (j : OwnerJoin)
    (hs : reg.schema type = .ok s) :
    Ensures (ownerColumn node j s : Run reg σ ColumnInfo) P
      (fun e => j.column? s = none ∧ ∃ name column,
        e = .misconfigured name s.type (.notMapped column)) fun c => j.column? s = some c := by
  unfold ownerColumn OwnerJoin.column?
  cases hownerKey : j.ownerKey with
  | none =>
    dsimp only
    unfold mapped
    cases hc : s.column? s.primaryKey with
    | some c => exact Ensures.pure rfl
    | none => exact Ensures.throw ⟨rfl, _, _, rfl⟩
  | some key =>
    dsimp only
    have hself : reg.schema s.type = .ok s := by
      rw [Registry.type_eq hs]
      exact hs
    refine ((ensures_resolve s.type key).weaken fun e h => absurd hself (h.2 s)).bind fun r hr => ?_
    rw [Catalog.resolve_of_schema hself] at hr
    subst hr
    cases hresolve : s.resolve key with
    | none => exact Ensures.throw ⟨rfl, _, _, rfl⟩
    | some column =>
      obtain ⟨c, hc⟩ := Option.isSome_iff_exists.1 (Registry.isSome_column? hself
        ((Catalog.resolve_of_schema hself key).trans hresolve))
      exact (ensures_mapped (by rw [hc]; rfl)).imp fun c hc => hc

/-- How loading the owners of one type may fail, apart from what is below them. -/
def OwnerFails (reg : Registry) (eager : Eager) (path : String) (j : OwnerJoin) (e : Error) :
    Prop :=
  e.isLate = true ∨ Stray reg eager path (.morphTo j) e

theorem ensures_stageOwners {E : Error → Prop} {j : OwnerJoin}
    {descend : String → List Entity → Run reg σ (List Entity)}
    (hE : ∀ e, OwnerFails reg plan.eager node.path j e → E e)
    (hcolumns : ∀ columns ∈ node.columns, ∀ name ∈ columns, Accepted name)
    (htypes : ∀ type ∈ j.types.entries.map Prod.snd, ∃ s, reg.schema type = .ok s)
    (hdescend : ∀ type ∈ j.types.entries.map Prod.snd, ∀ es,
      Ensures (descend type es) (Guarded reg) E fun _ => True)
    (discriminator : String) (index : KeyIndex) :
    Ensures (plan.stageOwners db descend node j discriminator index) (Guarded reg) E
      fun _ => True := by
  unfold stageOwners
  split
  · exact (ensures_emit _).bind fun _ _ => Ensures.pure trivial
  · next type hget =>
    have hmem : type ∈ j.types.entries.map Prod.snd :=
      List.mem_map_of_mem (Catalog.mem_of_lookup hget)
    obtain ⟨s, hs⟩ := htypes type hmem
    refine (ensures_schema_of hs).bind fun s' hs' => ?_
    subst hs'
    refine ((ensures_ownerColumn j hs).weaken fun e h =>
      hE e (.inr ⟨_, type, s'.val, hget, hs, .inr (.inl h)⟩)).bind fun column hcolumn => ?_
    refine ((ensures_select hs hcolumns _ _).weaken fun e h => hE e ?_).bind fun rows _ => ?_
    · rcases h with hlate | hscope | htable
      · exact .inl hlate
      · exact .inr ⟨_, type, s'.val, hget, hs, .inr (.inr ⟨column, index.values, hcolumn, hscope⟩)⟩
      · exact .inr ⟨_, type, s'.val, hget, hs, .inl htable⟩
    refine (hdescend type hmem rows).bind fun owners _ => ?_
    refine ((ensures_ofExcept (index.late_correlate column owners)).weaken fun e h =>
      hE e (.inl h)).bind fun staged _ => ?_
    exact (ensures_emit _).bind fun _ _ => Ensures.pure trivial

theorem ensures_stageGroups {E : Error → Prop} {j : OwnerJoin}
    {descend : String → List Entity → Run reg σ (List Entity)}
    (howners : ∀ discriminator index,
      Ensures (plan.stageOwners db descend node j discriminator index) (Guarded reg) E
        fun _ => True)
    (groups : List (String × KeyIndex)) :
    Ensures (plan.stageGroups db descend node j groups) (Guarded reg) E fun _ => True := by
  induction groups with
  | nil => exact Ensures.pure trivial
  | cons group rest ih =>
    obtain ⟨discriminator, index⟩ := group
    refine (howners discriminator index).bind fun staged _ => ?_
    exact ih.bind fun others _ => Ensures.pure trivial

/-! ### A whole load -/

/-- The level of a relation by a key. -/
theorem ensures_stageRows {E : Error → Prop} {s : Schema} {kind : RelationKind} {j : Join}
    (info : RelationInfo) (htarget : ∃ target, reg.schema j.target = .ok target)
    (hcolumns : ∀ columns ∈ node.columns, ∀ name ∈ columns, Accepted name)
    (hchecked : Accepted j.table ∧ (s.column? j.parentColumn).isSome = true)
    (hE : ∀ e, (e.isLate = true ∨ ∃ values,
      IsRejection (plan.eager.constrain node.path (joinScope j values)).names e) → E e) :
    Ensures (do
        let staged ← plan.stageKeyed db node kind j s parents
        pure (info, Staged.rows kind j.target staged) : Run reg σ (RelationInfo × Staged))
      (Guarded reg) E fun r => r.2.IsOf [j.target] := by
  obtain ⟨target, htarget⟩ := htarget
  refine ((ensures_stageKeyed htarget hcolumns hchecked.1 hchecked.2).weaken hE).bind fun _ _ => ?_
  exact Ensures.pure (List.mem_singleton_self j.target)

/-- The level of a node that was planned. -/
theorem ensures_stage {E : Error → Prop} (node : PathNode) {d : Descriptor}
    {descend : String → List Entity → Run reg σ (List Entity)}
    (hlookup : plan.descriptor? type node = some d)
    (hprepared : Prepared reg plan.eager type node d)
    (hE : ∀ e, e.isLate = true ∨ Stray reg plan.eager node.path d e → E e)
    (htargets : ∀ target ∈ targets d, ∃ s, reg.schema target = .ok s)
    (hdescend : ∀ target ∈ targets d, ∀ es,
      Ensures (descend target es) (Guarded reg) E fun _ => True) (parents : List Entity) :
    Ensures (plan.stage db descend node type parents) (Guarded reg) E fun r =>
      r.2.IsOf (targets d) := by
  obtain ⟨s, info, hs, hrelation, hchecked⟩ := hprepared.exists_relation
  have hcolumns := hprepared.columns
  refine (ensures_schema_of hs).bind fun s' hs' => ?_
  subst hs'
  rw [hrelation]
  refine (Ensures.pure trivial (Q := fun _ => True)).bind fun info' _ => ?_
  rw [hlookup]
  cases d with
  | hasOne j =>
    exact ensures_stageRows info' (htargets j.target (by simp [targets])) hcolumns hchecked hE
  | hasMany j =>
    exact ensures_stageRows info' (htargets j.target (by simp [targets])) hcolumns hchecked hE
  | belongsTo j =>
    exact ensures_stageRows info' (htargets j.target (by simp [targets])) hcolumns hchecked hE
  | morphOne j =>
    exact ensures_stageRows info' (htargets j.target (by simp [targets])) hcolumns hchecked hE
  | morphMany j =>
    exact ensures_stageRows info' (htargets j.target (by simp [targets])) hcolumns hchecked hE
  | belongsToMany j =>
    obtain ⟨target, htarget⟩ := htargets j.target (by simp [targets])
    obtain ⟨htable, hparent, hpivot⟩ := hchecked
    refine ((ensures_stagePivot htarget hcolumns htable hparent hpivot).weaken hE).bind
      fun _ _ => ?_
    exact Ensures.pure (List.mem_singleton_self j.target)
  | morphTo j =>
    obtain ⟨htype, hid, -⟩ := hchecked
    refine (ensures_mapped htype).bind fun typeColumn _ => ?_
    refine (ensures_mapped hid).bind fun idColumn _ => ?_
    refine ((ensures_ofExcept (OwnerJoin.late_groups typeColumn idColumn parents)).weaken
      fun e h => hE e (.inl h)).bind fun groups _ => ?_
    refine (ensures_stageGroups (fun discriminator index => ?_) groups.entries).bind
      fun _ _ => Ensures.pure trivial
    exact ensures_stageOwners hE hcolumns htargets hdescend discriminator index

/-- A load fails as the plan allows, or not at all. -/
def Loads (reg : Registry) (plan : Plan) (l : Loaded) : Prop :=
  ∀ why ∈ l.failure, Fails reg plan why

theorem ends_outcome {l : Loaded} (h : Loads reg plan l) :
    Ends (Fails reg plan) (fun _ => True) l.outcome := by
  obtain ⟨es, _ | why⟩ := l
  · trivial
  · exact h why rfl

theorem loadNodes_yields_of {nodes : List PathNode}
    (hnodes : ∀ node ∈ nodes, ∀ type, CoversNode reg plan.eager plan.descriptors node type →
      ∀ batch, Yields (plan.loadNode db node type batch : StateM (World reg σ) Loaded)
        (Guarded reg) (Loads reg plan))
    (hcovers : CoversNodes reg plan.eager plan.descriptors nodes type) (batch : List Entity) :
    Yields (plan.loadNodes db nodes type batch : StateM (World reg σ) Loaded) (Guarded reg)
      (Loads reg plan) := by
  induction nodes generalizing batch with
  | nil =>
    rw [loadNodes]
    exact Yields.pure (by simp [Loads])
  | cons node rest ih =>
    rw [CoversNodes] at hcovers
    rw [loadNodes]
    split
    · exact Yields.pure (by simp [Loads])
    · refine (hnodes node (by simp) type hcovers.1 batch).bind fun done hdone => ?_
      split
      · exact Yields.pure hdone
      · exact ih (fun node h => hnodes node (List.mem_cons_of_mem _ h)) hcovers.2 _

/-- A node that was planned is loaded with checked statements. -/
theorem loadNode_yields (node : PathNode) (type : String)
    (hcovers : CoversNode reg plan.eager plan.descriptors node type) (batch : List Entity) :
    Yields (plan.loadNode db node type batch : StateM (World reg σ) Loaded) (Guarded reg)
      (Loads reg plan) := by
  induction node using PathNode.induct generalizing type batch with
  | mk name path columns children ih =>
    have hbelow : ∀ target, CoversNodes reg plan.eager plan.descriptors children target →
        ∀ es, Yields (plan.loadNodes db children target es : StateM (World reg σ) Loaded)
          (Guarded reg) (Loads reg plan) := fun target h es => loadNodes_yields_of ih h es
    rw [CoversNode] at hcovers
    obtain ⟨d, hlookup, hprepared, htargets⟩ := hcovers
    have hstray : ∀ e, e.isLate = true ∨ Stray reg plan.eager path d e → Fails reg plan e :=
      fun e h => h.imp_right fun h => ⟨_, Catalog.mem_of_lookup hlookup, h⟩
    rw [loadNode_eq]
    have hdescend : ∀ target ∈ targets d, ∀ es, Ensures
        (plan.below db ⟨name, path, columns, children⟩ target es : Run reg σ (List Entity))
        (Guarded reg) (Fails reg plan) fun _ => True := fun target h es =>
      ensures_ofLoaded ((hbelow target (htargets target h).2 es).mono (fun _ => id)
        fun _ => ends_outcome)
    refine Yields.bind (ensures_stage ⟨name, path, columns, children⟩ hlookup hprepared
      hstray (fun target h => (htargets target h).1) hdescend batch) fun r hr => ?_
    rcases r with why | ⟨info, ⟨kind, target, rows⟩ | owners⟩
    · exact Yields.pure fun e he => Option.some.inj he ▸ hr
    · refine (hbelow target (htargets target hr).2 _).bind fun below hfailure => ?_
      exact Yields.pure hfailure
    · exact Yields.pure (by simp [Loads])

/-- **A load issues checked statements only**, and ends early for a late error or a stray name. -/
theorem loadNodes_yields {nodes : List PathNode} {type : String}
    (hcovers : CoversNodes reg plan.eager plan.descriptors nodes type) (batch : List Entity) :
    Yields (plan.loadNodes db nodes type batch : StateM (World reg σ) Loaded) (Guarded reg)
      (Loads reg plan) :=
  loadNodes_yields_of (fun node _ => loadNode_yields node) hcovers batch

theorem Suits.yields {eager : Eager} (h : Suits reg σ eager type plan) (db : Database σ)
    (batch : List Entity) :
    Yields (plan.load db type batch : StateM (World reg σ) Loaded) (Guarded reg)
      (Loads reg plan) := by
  have hcovers := h.covers
  rw [← h.eager_eq] at hcovers
  exact loadNodes_yields hcovers batch

end Plan

end EntityGraph
