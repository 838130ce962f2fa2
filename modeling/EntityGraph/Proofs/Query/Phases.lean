import EntityGraph.Proofs.Query.Names
import EntityGraph.Proofs.Sql.Changes

/-!
# Planning before loading

A request is planned as a whole before its first statement, and what fails in planning leaves the
database and the entities as they were. Planning looks at most of what a load can stumble on. It
does not look at the columns on which related rows are joined, and for a relation to owners not at
the table and the key column of the owner types: a descriptor for which these are in order is
settled. Requests whose descriptors are settled fail late or before the first statement; a level of
a descriptor that is not settled fails at its fetch, however many statements were issued for the
levels before it (`preload_phases`).
-/

namespace EntityGraph

open Run
open Sql (Accepted Scope Statement)

variable {reg : Registry} {σ : Type}

/-! ### Constraints that are changes -/

namespace Eager

/-- Every constraint is a list of changes to the scope. -/
def IsScripted (e : Eager) : Prop :=
  ∀ path f, e.constraints.get? path = some f → ∃ changes, f = fun s : Scope => s.applyAll changes

theorem constraints_withPath (e : Eager) (path : String) :
    (e.withPath path).constraints = e.constraints := by
  unfold withPath
  split <;> rfl

theorem IsScripted.apply {e : Eager} (h : e.IsScripted) (op : EagerOp) :
    (op.apply e).IsScripted := by
  cases op with
  | paths paths => exact h
  | constraint path changes =>
    intro path' f hf
    rw [EagerOp.apply, withConstraint] at hf
    simp only [ByName.get?_insert] at hf
    split at hf
    · exact ⟨changes, (Option.some.inj hf).symm⟩
    · exact h path' f hf
  | owners path types =>
    intro path' f hf
    rw [EagerOp.apply, withOwners] at hf
    simp only [constraints_withPath] at hf
    exact h path' f hf

theorem isScripted_applyAll (ops : List EagerOp) : (({} : Eager).applyAll ops).IsScripted := by
  have hall : ∀ e : Eager, e.IsScripted → (e.applyAll ops).IsScripted := by
    induction ops with
    | nil => exact fun e h => h
    | cons op ops ih => exact fun e h => ih _ (h.apply op)
  refine hall {} fun path f hf => ?_
  cases hf

variable {e : Eager}

theorem IsScripted.constrain_eq (h : e.IsScripted) (path : String) :
    ∃ changes, ∀ s, e.constrain path s = s.applyAll changes := by
  unfold constrain
  cases hf : e.constraints.get? path with
  | none => exact ⟨[], fun s => rfl⟩
  | some f =>
    obtain ⟨changes, rfl⟩ := h path f hf
    exact ⟨changes, fun s => rfl⟩

/-- What a scope compares with does not matter for the names in it. -/
theorem IsScripted.names_eq (h : e.IsScripted) (path : String) {s s' : Scope}
    (hs : s.SameNames s') : (e.constrain path s).names = (e.constrain path s').names := by
  obtain ⟨changes, hchanges⟩ := h.constrain_eq path
  rw [hchanges, hchanges]
  exact (hs.applyAll changes).names_eq

/-- A constraint that brings along accepted names only does so for every scope. -/
theorem IsScripted.accepted (h : e.IsScripted) {path : String}
    (hplanned : ∀ name ∈ (e.constrain path {}).names, Accepted name) {s : Scope}
    (hs : ∀ name ∈ s.names, Accepted name) :
    ∀ name ∈ (e.constrain path s).names, Accepted name := by
  obtain ⟨changes, hchanges⟩ := h.constrain_eq path
  intro name hname
  rw [hchanges] at hname hplanned
  rcases Scope.mem_names_applyAll hname with hs' | hadded
  · exact hs name hs'
  · exact hplanned name hadded

end Eager

namespace Plan

theorem sameNames_among (column : String) (values values' : List Sql.Value) :
    (among column values).SameNames (among column values') := ⟨rfl, rfl, rfl⟩

theorem sameNames_joinScope (j : Join) (values values' : List Sql.Value) :
    (joinScope j values).SameNames (joinScope j values') := by
  unfold joinScope
  cases j.discriminator with
  | none => exact sameNames_among ..
  | some p => exact ⟨rfl, rfl, rfl⟩

/-! ### Settled descriptors -/

/-- The names with which a level fetches its rows are accepted, where `f` is the constraint of the
path, and owner types have accepted tables and the column that parents refer to. -/
def Settled (reg : Registry) (f : Scope → Scope) : Descriptor → Prop
  | .hasOne j | .hasMany j | .belongsTo j | .morphOne j | .morphMany j =>
    ∀ name ∈ (f (joinScope j [])).names, Accepted name
  | .belongsToMany j => ∀ name ∈ (f (among j.relatedKey [])).names, Accepted name
  | .morphTo j => ∀ discriminator type s, j.types.get? discriminator = some type →
    reg.schema type = .ok s → Accepted s.table ∧ ∃ c, j.column? s = some c ∧
      ∀ name ∈ (f (among c.column [])).names, Accepted name

instance (reg : Registry) (f : Scope → Scope) (d : Descriptor) : Decidable (Settled reg f d) :=
  match d with
  | .hasOne j | .hasMany j | .belongsTo j | .morphOne j | .morphMany j =>
    inferInstanceAs (Decidable (∀ name ∈ (f (joinScope j [])).names, Accepted name))
  | .belongsToMany j =>
    inferInstanceAs (Decidable (∀ name ∈ (f (among j.relatedKey [])).names, Accepted name))
  | .morphTo j =>
    decidable_of_iff (∀ p ∈ j.types.entries, ∀ s ∈ (reg.schema p.2).toOption, Accepted s.table ∧
        ∃ c ∈ j.column? s, ∀ name ∈ (f (among c.column [])).names, Accepted name) <| by
      refine ⟨fun h discriminator type s hget hs => ?_, fun h p hp s hs => ?_⟩
      · exact h _ (Catalog.mem_of_lookup hget) s (by rw [hs]; rfl)
      · refine h p.1 p.2 s (ByName.get?_of_mem hp) ?_
        cases hschema : reg.schema p.2 with
        | error why =>
          rw [hschema] at hs
          cases hs
        | ok s' =>
          rw [hschema] at hs
          cases hs
          rfl

variable {eager : Eager} {plan : Plan} {path type : String} {node : PathNode} {d : Descriptor}

/-- A descriptor with accepted join columns is settled under every constraint that was planned. -/
theorem Settled.constrained (hscripted : eager.IsScripted)
    (hplanned : ∀ name ∈ (eager.constrain path {}).names, Accepted name)
    (h : Settled reg id d) : Settled reg (eager.constrain path) d := by
  cases d with
  | morphTo j =>
    intro discriminator type s hget hs
    obtain ⟨htable, c, hc, hnames⟩ := h discriminator type s hget hs
    exact ⟨htable, c, hc, hscripted.accepted hplanned hnames⟩
  | _ => exact hscripted.accepted hplanned h

/-- Nothing that planning has passed over keeps a settled descriptor from being loaded. -/
theorem Settled.not_stray (hscripted : eager.IsScripted)
    (h : Settled reg (eager.constrain path) d) (e : Error) : ¬ Stray reg eager path d e := by
  have hkeyed : ∀ j : Join,
      (∀ name ∈ (eager.constrain path (joinScope j [])).names, Accepted name) →
      ¬ ∃ values, IsRejection (eager.constrain path (joinScope j values)).names e := by
    rintro j hj ⟨values, hreject⟩
    rw [hscripted.names_eq path (sameNames_joinScope j values [])] at hreject
    exact not_isRejection hj e hreject
  have hamong : ∀ column : String,
      (∀ name ∈ (eager.constrain path (among column [])).names, Accepted name) →
      ¬ ∃ values, IsRejection (eager.constrain path (among column values)).names e := by
    rintro column hcolumn ⟨values, hreject⟩
    rw [hscripted.names_eq path (sameNames_among column values [])] at hreject
    exact not_isRejection hcolumn e hreject
  cases d with
  | belongsToMany j => exact hamong j.relatedKey h
  | morphTo j =>
    rintro ⟨discriminator, type, s, hget, hs, hcases⟩
    obtain ⟨htable, c, hc, hnames⟩ := h discriminator type s hget hs
    rcases hcases with hreject | ⟨hnone, -⟩ | ⟨c', values, hc', hreject⟩
    · exact not_isRejection (by simpa using htable) e hreject
    · rw [hc] at hnone
      cases hnone
    · obtain rfl : c = c' := Option.some.inj (hc.symm.trans hc')
      exact hamong c.column hnames ⟨values, hreject⟩
  | hasOne j => exact hkeyed j h
  | hasMany j => exact hkeyed j h
  | belongsTo j => exact hkeyed j h
  | morphOne j => exact hkeyed j h
  | morphMany j => exact hkeyed j h

/-! ### Levels of descriptors that are not settled -/

/-- A run always ends with an error about a name or a relation, and issues nothing. -/
abbrev Refuses {α : Type} (x : Run reg σ α) : Prop :=
  Ensures x (fun _ => False) (fun e => e.isEarly = true) fun _ => False

theorem Refuses.eq_error {α : Type} {x : Run reg σ α} (h : Refuses x) (w : World reg σ) :
    ∃ why w₁, x.run w = (.error why, w₁) ∧ why.isEarly = true ∧ Untouched w w₁ := by
  have huntouched := h.quiet.untouched w
  obtain ⟨-, -, -, -, hends⟩ := h w
  rcases hrun : x.run w with ⟨why | a, w₁⟩
  · rw [hrun] at hends huntouched
    exact ⟨why, w₁, rfl, hends, huntouched⟩
  · rw [hrun] at hends
    exact hends.elim

theorem isEarly_of_isRejection {names : List String} {e : Error} (h : IsRejection names e) :
    e.isEarly = true := by
  obtain ⟨-, -, -, -, rfl⟩ := h
  rfl

theorem refuses_select {db : Database σ} {scope : Scope}
    (h : ¬ ∀ name ∈ (plan.eager.constrain node.path scope).names, Accepted name)
    (type table : String) :
    Refuses (plan.select db node type table scope : Run reg σ (List Entity)) :=
  ((ensures_checkNames _).weaken fun _ => isEarly_of_isRejection).bind fun _ hnames =>
    absurd hnames h

theorem refuses_select_table {db : Database σ} {s : Schema} (hs : reg.schema type = .ok s)
    {table : String} (h : ¬ Accepted table) (scope : Scope) :
    Refuses (plan.select db node type table scope : Run reg σ (List Entity)) := by
  refine ((ensures_checkNames _).weaken fun _ => isEarly_of_isRejection).bind fun _ _ => ?_
  refine (ensures_schema_of hs).bind fun s' _ => ?_
  refine (ensures_projection s'.property node).bind fun _ _ => ?_
  exact ((ensures_checkName table).weaken fun _ => isEarly_of_isRejection).bind fun _ htable =>
    absurd htable h

/-- A level that is not settled fails when it comes to fetch its rows: at once if they are fetched
by the keys of the parents, after the statement for the pivot rows if these link the parents to any
row, and for owners as soon as it comes to a type that is not in order. -/
def Breaks (reg : Registry) (σ : Type) (plan : Plan) (node : PathNode) : Descriptor → Prop
  | .hasOne j | .hasMany j | .belongsTo j | .morphOne j | .morphMany j =>
    ∀ (db : Database σ) kind s parents column index, s.column? j.parentColumn = some column →
      KeyIndex.ofBatch column parents = .ok index → index.isEmpty = false →
      Refuses (plan.stageKeyed db node kind j s parents : Run reg σ _)
  | .belongsToMany j =>
    ∀ (db : Database σ) s parents column index (w w₁ : World reg σ) rows links,
      s.column? j.parentKey = some column →
      KeyIndex.ofBatch column parents = .ok index → index.isEmpty = false →
      (selectPivot db j index.values).run w = (.ok rows, w₁) →
      j.links index rows = .ok links → links.isEmpty = false →
      ∃ why w₂, (plan.stagePivot db node j s parents).run w = (.error why, w₂) ∧
        why.isEarly = true ∧ Untouched w₁ w₂
  | .morphTo j =>
    ∃ discriminator type, j.types.get? discriminator = some type ∧
      ∀ (db : Database σ) descend index,
        Refuses (plan.stageOwners db descend node j discriminator index : Run reg σ _)

theorem refuses_stageKeyed {j : Join}
    (h : ¬ ∀ name ∈ (plan.eager.constrain node.path (joinScope j [])).names, Accepted name)
    (hscripted : plan.eager.IsScripted) {db : Database σ} {kind : RelationKind} {s : Schema}
    {parents : List Entity} {column : ColumnInfo} {index : KeyIndex}
    (hcolumn : s.column? j.parentColumn = some column)
    (hindex : KeyIndex.ofBatch column parents = .ok index) (hkeys : index.isEmpty = false) :
    Refuses (plan.stageKeyed db node kind j s parents : Run reg σ _) := by
  rw [hscripted.names_eq node.path (sameNames_joinScope j [] index.values)] at h
  refine Ensures.bind (Q := (· = column)) ?_ fun c hc => ?_
  · rw [mapped, hcolumn]
    exact Ensures.pure rfl
  refine Ensures.bind (Q := (· = index)) ?_ fun i hi => ?_
  · rw [hc, hindex]
    exact Ensures.pure rfl
  rw [hi, hkeys]
  exact (refuses_select h _ _).bind fun _ => False.elim

theorem breaks_stagePivot {j : PivotJoin}
    (h : ¬ ∀ name ∈ (plan.eager.constrain node.path (among j.relatedKey [])).names, Accepted name)
    (hscripted : plan.eager.IsScripted) {db : Database σ} {s : Schema} {parents : List Entity}
    {column : ColumnInfo} {index links : KeyIndex} {w w₁ : World reg σ} {rows : List Sql.Record}
    (hcolumn : s.column? j.parentKey = some column)
    (hindex : KeyIndex.ofBatch column parents = .ok index) (hkeys : index.isEmpty = false)
    (hrows : (selectPivot db j index.values).run w = (.ok rows, w₁))
    (hlinks : j.links index rows = .ok links) (hlinked : links.isEmpty = false) :
    ∃ why w₂, (plan.stagePivot db node j s parents).run w = (.error why, w₂) ∧
      why.isEarly = true ∧ Untouched w₁ w₂ := by
  rw [hscripted.names_eq node.path (sameNames_among j.relatedKey [] links.values)] at h
  have hmapped : (mapped s node j.parentKey : Run reg σ ColumnInfo).run w = (.ok column, w) := by
    rw [mapped, hcolumn]
    rfl
  have hof : (MonadExcept.ofExcept (KeyIndex.ofBatch column parents) :
      Run reg σ KeyIndex).run w = (.ok index, w) := by rw [run_ofExcept, hindex]
  have hlink : (MonadExcept.ofExcept (j.links index rows) : Run reg σ KeyIndex).run w₁
      = (.ok links, w₁) := by rw [run_ofExcept, hlinks]
  rw [stagePivot, run_bind_of_ok hmapped, run_bind_of_ok hof, hkeys, if_neg Bool.false_ne_true,
    run_bind_of_ok hrows, run_bind_of_ok hlink, hlinked, if_neg Bool.false_ne_true]
  exact Refuses.eq_error ((refuses_select h _ _).bind fun _ => False.elim) w₁

theorem breaks_stageOwners {j : OwnerJoin} (hscripted : plan.eager.IsScripted)
    (h : ¬ Settled reg (plan.eager.constrain node.path) (.morphTo j)) :
    Breaks reg σ plan node (.morphTo j) := by
  simp only [Settled, not_forall] at h
  obtain ⟨discriminator, type, s, hget, hs, hfault⟩ := h
  refine ⟨discriminator, type, hget, fun db descend index => ?_⟩
  unfold stageOwners
  rw [hget]
  refine (ensures_schema_of hs).bind fun s' hs' => ?_
  subst hs'
  refine ((ensures_ownerColumn j hs).weaken ?_).bind fun c hc => ?_
  · rintro _ ⟨-, name, column, rfl⟩
    rfl
  by_cases htable : Accepted s'.val.table
  · have hnames : ¬ ∀ name ∈ (plan.eager.constrain node.path (among c.column [])).names,
        Accepted name := fun hall => hfault ⟨htable, c, hc, hall⟩
    rw [hscripted.names_eq node.path (sameNames_among c.column [] index.values)] at hnames
    exact (refuses_select hnames _ _).bind fun _ => False.elim
  · exact (refuses_select_table hs htable _).bind fun _ => False.elim

/-- The level of a descriptor that is not settled never gets its rows. -/
theorem breaks_of_not_settled (hscripted : plan.eager.IsScripted)
    (h : ¬ Settled reg (plan.eager.constrain node.path) d) : Breaks reg σ plan node d := by
  cases d with
  | belongsToMany j =>
    intro db s parents column index w w₁ rows links
    exact breaks_stagePivot h hscripted
  | morphTo j => exact breaks_stageOwners hscripted h
  | _ =>
    intro db kind s parents column index
    exact refuses_stageKeyed h hscripted

end Plan

/-! ### Before and after the first statement -/

/-- If the run fails, it fails late or leaves the database alone. -/
def Phased {α : Type} (x : Run reg σ α) : Prop :=
  ∀ w why w₁, x.run w = (.error why, w₁) → why.isLate = true ∨ Untouched w w₁

namespace Phased

variable {α β : Type} {x : Run reg σ α} {f : α → Run reg σ β}

theorem of_ensures {P : Statement → Prop} {Q : α → Prop}
    (h : Ensures x P (fun e => e.isLate = true) Q) : Phased x := by
  intro w why w₁ hrun
  obtain ⟨-, -, -, -, hends⟩ := h w
  rw [hrun] at hends
  exact .inl hends

theorem after {Q : α → Prop} (hx : Finds x Q) (hf : ∀ a, Q a → Phased (f a)) :
    Phased (x >>= f) := by
  intro w why w₁ hrun
  have huntouched := hx.quiet.untouched w
  obtain ⟨-, -, -, -, hends⟩ := hx w
  rw [run_bind] at hrun
  rcases h : x.run w with ⟨e | a, w₂⟩
  · rw [h] at hrun huntouched
    cases hrun
    exact .inr huntouched
  · rw [h] at hrun huntouched hends
    exact (hf a hends w₂ why w₁ hrun).imp_right huntouched.trans

end Phased

/-- All that a request for a type has planned is settled. -/
def Eager.IsSettled (reg : Registry) (σ : Type) (e : Eager) (type : String) : Prop :=
  ∀ (w w₁ : World reg σ) plan, (Plan.make e type).run w = (.ok plan, w₁) →
    ∀ p ∈ plan.descriptors, Plan.Settled reg (e.constrain p.1.2) p.2

/-- Whether planning a request succeeds and all that it has planned is settled. -/
def Eager.checkSettled (e : Eager) (type : String) (w : World reg σ) : Bool :=
  match ((Plan.make e type).run w).1 with
  | .ok plan => decide (∀ p ∈ plan.descriptors, Plan.Settled reg (e.constrain p.1.2) p.2)
  | .error _ => false

/-- It is enough to plan a request once. -/
theorem Eager.isSettled_of_check {e : Eager} {type : String} {w : World reg σ}
    (h : e.checkSettled type w = true) : e.IsSettled reg σ type := by
  intro w₁ w₂ plan hplan
  unfold checkSettled at h
  rcases hrun : (Plan.make e type).run w with ⟨why | plan', w₃⟩
  · rw [hrun] at h
    cases h
  · rw [hrun] at h
    have hplan' : Plan.Plans reg σ e type plan' := ⟨w, w₃, hrun⟩
    have hsettled := of_decide_eq_true h
    exact fun p hp => hsettled p ((hplan'.same ⟨w₁, w₂, hplan⟩).perm.mem_iff.1 hp)

/-- The descriptor that planning a request yields for a node. -/
def Eager.planned? (e : Eager) (type : String) (w : World reg σ) (type' : String)
    (node : PathNode) : Option Descriptor :=
  match ((Plan.make e type).run w).1 with
  | .ok plan => plan.descriptor? type' node
  | .error _ => none

theorem Eager.planned?_eq_some {e : Eager} {type type' : String} {w : World reg σ}
    {node : PathNode} {d : Descriptor} (h : e.planned? type w type' node = some d) :
    ∃ plan w₁, (Plan.make e type).run w = (.ok plan, w₁) ∧
      plan.descriptor? type' node = some d := by
  unfold planned? at h
  rcases hrun : (Plan.make e type).run w with ⟨why | plan, w₁⟩
  · rw [hrun] at h
    cases h
  · rw [hrun] at h
    exact ⟨plan, w₁, rfl, h⟩

section

variable {eager : Eager} {type : String} {plan : Plan}

theorem Plan.Suits.yields_late (hplan : Plan.Suits reg σ eager type plan)
    (hscripted : eager.IsScripted)
    (hsettled : ∀ p ∈ plan.descriptors, Plan.Settled reg (eager.constrain p.1.2) p.2)
    (db : Database σ) (batch : List Entity) :
    Yields (plan.load db type batch : StateM (World reg σ) Loaded) (fun _ => True)
      fun l => ∀ why ∈ l.failure, why.isLate = true := by
  refine (hplan.yields db batch).mono (fun _ _ => trivial) fun l hl why hwhy => ?_
  rcases hl why hwhy with hlate | ⟨p, hp, hstray⟩
  · exact hlate
  · rw [hplan.eager_eq] at hstray
    exact absurd hstray ((hsettled p hp).not_stray hscripted why)

/-- A settled request that fails early has left entities and database alone. -/
theorem preload_late_or_untouched (hscripted : eager.IsScripted)
    (hsettled : eager.IsSettled reg σ type) (db : Database σ) (w : World reg σ)
    (batch : List Entity) {why : Error}
    (hwhy : (preload db eager type batch w).1.failure = some why) :
    why.isLate = true ∨ (preload db eager type batch w).1.entities = batch ∧
      Untouched w (preload db eager type batch w).2 := by
  by_cases hnothing : (batch.isEmpty || eager.isEmpty) = true
  · unfold preload at hwhy
    rw [if_pos hnothing] at hwhy
    cases hwhy
  simp only [Bool.or_eq_true, not_or, Bool.not_eq_true, List.isEmpty_eq_false_iff] at hnothing
  obtain ⟨hbatch, heager⟩ := hnothing
  have hmake : Finds (Plan.make eager type : Run reg σ Plan) (Plan.Suits reg σ eager type) :=
    Plan.finds_make eager type
  rcases hrun : (Plan.make eager type).run w with ⟨e | plan, w₁⟩
  · have huntouched := hmake.quiet.untouched w
    rw [hrun] at huntouched
    rw [preload_of_error hrun db hbatch heager]
    exact .inr ⟨rfl, huntouched⟩
  · rw [preload_of_ok hrun db hbatch heager] at hwhy
    obtain ⟨-, -, -, -, hlate⟩ := (hmake.of_ok hrun).yields_late hscripted
      (hsettled w w₁ plan hrun) db batch w₁
    exact .inl (hlate why hwhy)

theorem Query.phased_execute {q : Query} (hscripted : q.eager.IsScripted)
    (hsettled : q.eager.IsSettled reg σ q.type) (db : Database σ) :
    Phased (q.execute db : Run reg σ (List Entity)) := by
  refine .after (ensures_schema q.type).finds fun s _ => ?_
  refine .after (ensures_checkName _).finds fun _ _ => ?_
  refine .after (ensures_checkNames _).finds fun _ _ => ?_
  refine .after (q.ensures_selected s.property).finds fun columns _ => ?_
  refine .after (Plan.finds_make q.eager q.type).reached fun plan hplan => ?_
  obtain ⟨hsuits, w, w₁, hmake⟩ := hplan
  refine .of_ensures (P := fun _ => True) (Q := fun _ => True) ?_
  refine ((ensures_issue db _ _).mono (fun _ _ => trivial) ?_ fun _ => id).bind fun records _ => ?_
  · rintro _ ⟨failure, rfl⟩
    rfl
  refine (ensures_ofExcept (s.val.late_scanAll records)).bind fun entities _ => ensures_ofLoaded ?_
  refine (hsuits.yields_late hscripted (hsettled w w₁ plan hmake) db entities).mono
    (fun _ => id) fun l hl => ?_
  obtain ⟨es, _ | why⟩ := l
  · trivial
  · exact hl why rfl

end

/-- **A request is planned before it is carried out.** What fails in planning has issued nothing and
has changed no entity. If the descriptors are settled, no load and no query fails early once a
statement was issued; they are settled if their join columns are accepted. The level of a descriptor
that is not settled fails early whenever it comes to fetch its rows. -/
theorem preload_phases (ops : List EagerOp) (type : String) :
    let eager := ({} : Eager).applyAll ops
    (∀ (db : Database σ) (w w₁ : World reg σ) why, (Plan.make eager type).run w = (.error why, w₁) →
      Untouched w w₁ ∧ ∀ batch, batch ≠ [] → eager.isEmpty = false →
        preload db eager type batch w = (⟨batch, some why⟩, w₁)) ∧
    (eager.IsSettled reg σ type → ∀ (db : Database σ) (w : World reg σ),
      (∀ batch why, (preload db eager type batch w).1.failure = some why →
        why.isLate = true ∨ (preload db eager type batch w).1.entities = batch ∧
          Untouched w (preload db eager type batch w).2) ∧
      ∀ (q : Query) why w₁, q.type = type → q.eager = eager →
        (q.execute db).run w = (.error why, w₁) → why.isLate = true ∨ Untouched w w₁) ∧
    ∀ (w w₁ : World reg σ) plan, (Plan.make eager type).run w = (.ok plan, w₁) →
      ∀ type' node d, plan.descriptor? type' node = some d →
        (Plan.Settled reg id d → Plan.Settled reg (eager.constrain node.path) d) ∧
        (¬ Plan.Settled reg (eager.constrain node.path) d → Plan.Breaks reg σ plan node d) := by
  intro eager
  have hscripted : eager.IsScripted := Eager.isScripted_applyAll ops
  clear_value eager
  have hmake : Finds (Plan.make eager type : Run reg σ Plan) (Plan.Suits reg σ eager type) :=
    Plan.finds_make eager type
  refine ⟨fun db w w₁ why h => ?_, fun hsettled db w => ?_, fun w w₁ plan h type' node d hd => ?_⟩
  · have huntouched := hmake.quiet.untouched w
    rw [h] at huntouched
    exact ⟨huntouched, fun batch => preload_of_error h db⟩
  · refine ⟨fun batch why => preload_late_or_untouched hscripted hsettled db w batch, ?_⟩
    rintro q why w₁ rfl hq
    rw [← hq] at hscripted hsettled
    exact Query.phased_execute hscripted hsettled db w why w₁
  · have hsuits := hmake.of_ok h
    obtain ⟨node', hpath, hprepared⟩ := hsuits.exists_prepared hd
    rw [← hpath]
    refine ⟨fun h => h.constrained hscripted hprepared.constraint, fun h => ?_⟩
    rw [hpath, ← hsuits.eager_eq] at h
    exact Plan.breaks_of_not_settled (hsuits.eager_eq ▸ hscripted) h

/-! Comments on posts and tags, where tags have no key. -/

def commentRegistry : Registry :=
  ⟨[{ type := "Comment", table := some "comments", members :=
        [.column "id" (.int .i32) (some "id") true false,
          .column "subject_type" .text (some "subject_type") false false,
          .column "subject_id" (.int .i32) (some "subject_id") false false,
          .relation "subject" (.morphTo "subject")
            { name := some "Subject", targets := [("Post", some "post"), ("Tag", some "tag")] }] },
    { type := "Post", table := some "posts", members :=
        [.column "id" (.int .i32) (some "id") true false] },
    { type := "Tag", table := some "tags", members :=
        [.column "name" .text (some "name") false false] }]⟩

def commentDatabase : Database Unit where
  answer _ _ := (.ok [⟨[("id", .int 1)]⟩], ())

def commentWorld : World commentRegistry Unit where
  catalog := .empty _ {}
  state := ()

def comment (id : Int) (subject : String) (subjectId : Int) : Entity :=
  ⟨"Comment", [.cell ⟨.int .i32, Column.IntType.ofInt .i32 id⟩, .cell ⟨.text, subject⟩,
    .cell ⟨.int .i32, Column.IntType.ofInt .i32 subjectId⟩, .owner none]⟩

def twoComments : List Entity := [comment 1 "post" 1, comment 2 "tag" 5]

def subjectNode : PathNode := ⟨"Subject", "Subject", none, []⟩

/-- A request for the subjects of comments, of these types. -/
def subjectsOf (types : List (String × String)) : List EagerOp :=
  [.owners "Subject" (OwnerTypes.ofList types)]

theorem preload_phases_comments :
    (∃ why, (preload commentDatabase (({} : Eager).applyAll [.paths ["Author"]]) "Comment"
      twoComments commentWorld).1 = ⟨twoComments, some why⟩) ∧
    (∀ (db : Database Unit) why,
      let done := preload db (({} : Eager).applyAll (subjectsOf [("post", "Post")])) "Comment"
        twoComments commentWorld
      done.1.failure = some why → why.isLate = true ∨
        done.1.entities = twoComments ∧ Untouched commentWorld done.2) ∧
    ∃ plan d, plan.descriptor? "Comment" subjectNode = some d ∧
      Plan.Breaks commentRegistry Unit plan subjectNode d := by
  refine ⟨?_, fun db why => ?_, ?_⟩
  · have hfails : ((Plan.make (({} : Eager).applyAll [.paths ["Author"]]) "Comment").run
        commentWorld).1.isOk = false := by decide +kernel
    rcases h : (Plan.make (({} : Eager).applyAll [.paths ["Author"]]) "Comment").run
      commentWorld with ⟨why | plan, w₁⟩
    · have hphases := (preload_phases [.paths ["Author"]] "Comment").1 commentDatabase
        commentWorld w₁ why h
      exact ⟨why, congrArg Prod.fst (hphases.2 twoComments (by simp [twoComments]) rfl)⟩
    · rw [h] at hfails
      cases hfails
  · have hcheck : (({} : Eager).applyAll (subjectsOf [("post", "Post")])).checkSettled "Comment"
        commentWorld = true := by decide +kernel
    exact ((preload_phases (subjectsOf [("post", "Post")]) "Comment").2.1
      (Eager.isSettled_of_check hcheck) db commentWorld).1 twoComments why
  · have hplanned : ∃ d ∈ (({} : Eager).applyAll (subjectsOf [("post", "Post"),
        ("tag", "Tag")])).planned? "Comment" commentWorld "Comment" subjectNode,
        ¬ Plan.Settled commentRegistry ((({} : Eager).applyAll (subjectsOf [("post", "Post"),
          ("tag", "Tag")])).constrain "Subject") d := by decide +kernel
    obtain ⟨d, hd, hunsettled⟩ := hplanned
    obtain ⟨plan, w₁, hplan, hlookup⟩ := Eager.planned?_eq_some hd
    exact ⟨plan, d, hlookup, ((preload_phases (subjectsOf [("post", "Post"), ("tag", "Tag")])
      "Comment").2.2 commentWorld w₁ plan hplan "Comment" subjectNode d hlookup).2 hunsettled⟩

/-- The posts are fetched before it turns out that tags cannot be referred to. -/
theorem preload_misconfigured_late :
    let done := preload commentDatabase (({} : Eager).applyAll [.paths ["Subject"]]) "Comment"
      twoComments commentWorld
    done.1.failure = some (.misconfigured "Subject" "Tag" (.notMapped "id")) ∧
      done.2.issued = [.select "posts" ["id"]
        { filters := [.inList "id" [.int 1]] }] := by
  decide +kernel

end EntityGraph
