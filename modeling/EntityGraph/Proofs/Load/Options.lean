import EntityGraph.Proofs.Load.Atomic
import EntityGraph.Proofs.Load.Spelling
import EntityGraph.Proofs.Load.Spending

/-!
# Options by path

A constraint and owner types are given under the text of a path, and the load looks them up under
the path of a node, which is spelled out. An option whose text spells its path out is heeded by the
node that the text leads to; the last one given counts. An option under any other text, one with
blanks or with columns, is heeded by no node, although its path is loaded (`options_heeded`,
`constraint_dropped`).
-/

namespace EntityGraph

open Sql (Scope Statement)

/-! ### Building a request -/

/-- One call that adds to a request. -/
inductive EagerCall where
  | paths (paths : List String)
  | constraint (path : String) (f : Scope → Scope)
  | owners (path : String) (types : OwnerTypes)

namespace EagerCall

def apply (e : Eager) : EagerCall → Eager
  | paths requested => e.withPaths requested
  | constraint path f => e.withConstraint path f
  | owners path types => e.withOwners path types

/-- The text that an option is given under. -/
def text? : EagerCall → Option String
  | paths _ => none
  | constraint path _ | owners path _ => some path

def constraintAt? (path : String) : EagerCall → Option (Scope → Scope)
  | constraint text f => if path = text then some f else none
  | _ => none

def ownersAt? (path : String) : EagerCall → Option OwnerTypes
  | owners text types => if path = text then some types else none
  | _ => none

end EagerCall

/-- The request that some calls build. -/
def Eager.ofCalls (calls : List EagerCall) : Eager := calls.foldl EagerCall.apply {}

/-- An addition to a request as a call. -/
def EagerOp.call : EagerOp → EagerCall
  | .paths requested => .paths requested
  | .constraint path changes => .constraint path fun s => s.applyAll changes
  | .owners path types => .owners path types

theorem applyAll_eq_ofCalls (ops : List EagerOp) :
    ({} : Eager).applyAll ops = Eager.ofCalls (ops.map EagerOp.call) := by
  have happly : ∀ (e : Eager) (op : EagerOp), op.apply e = op.call.apply e := by
    intro e op
    cases op <;> rfl
  rw [Eager.applyAll, Eager.ofCalls, List.foldl_map]
  exact congrArg (fun step => ops.foldl step {}) (funext fun e => funext fun op => happly e op)

/-- Loading a path with owner types is loading with one option. -/
theorem loadOwners_eq {reg : Registry} {σ : Type} (db : Database σ) (path : String)
    (types : OwnerTypes) (type : String) (batch : List Entity) :
    (loadOwners db path types type batch : StateM (World reg σ) Loaded)
      = preload db (Eager.ofCalls [.owners path types]) type batch := rfl

/-- The constraint that was last given under a text. -/
def lastConstraint? (calls : List EagerCall) (path : String) : Option (Scope → Scope) :=
  calls.reverse.findSome? (·.constraintAt? path)

/-- The owner types that were last given under a text. -/
def lastOwners? (calls : List EagerCall) (path : String) : Option OwnerTypes :=
  calls.reverse.findSome? (·.ownersAt? path)

/-- The texts that options were given under. -/
def optionTexts (calls : List EagerCall) : List String := calls.filterMap (·.text?)

namespace Eager

variable {calls : List EagerCall} {path : String}

theorem ofCalls_concat (calls : List EagerCall) (call : EagerCall) :
    ofCalls (calls ++ [call]) = call.apply (ofCalls calls) := by
  rw [ofCalls, List.foldl_append]
  rfl

theorem owners_withPath (e : Eager) (path : String) :
    (e.withPath path).owners = e.owners := by
  unfold withPath
  split <;> rfl

/-- A constraint is found under the very text it was given under. -/
theorem get?_constraints_ofCalls (calls : List EagerCall) (path : String) :
    (ofCalls calls).constraints.get? path = lastConstraint? calls path := by
  induction calls using List.reverseRecOn with
  | nil => rfl
  | append_singleton calls call ih =>
    rw [ofCalls_concat, lastConstraint?, List.reverse_concat, List.findSome?_cons,
      ← lastConstraint?, ← ih]
    cases call with
    | constraint text f =>
      rw [EagerCall.apply, withConstraint, ByName.get?_insert, EagerCall.constraintAt?]
      by_cases h : path = text <;> simp [h]
    | paths requested => rfl
    | owners text types =>
      rw [EagerCall.apply, withOwners, constraints_withPath]
      rfl

/-- Owner types are found under the very text they were given under. -/
theorem get?_owners_ofCalls (calls : List EagerCall) (path : String) :
    (ofCalls calls).owners.get? path = lastOwners? calls path := by
  induction calls using List.reverseRecOn with
  | nil => rfl
  | append_singleton calls call ih =>
    rw [ofCalls_concat, lastOwners?, List.reverse_concat, List.findSome?_cons, ← lastOwners?, ← ih]
    cases call with
    | owners text types =>
      rw [EagerCall.apply, withOwners, ByName.get?_insert, EagerCall.ownersAt?]
      by_cases h : path = text <;> simp [h]
    | paths requested => rfl
    | constraint text f =>
      rw [EagerCall.apply, withConstraint, owners_withPath]
      rfl

theorem constrain_ofCalls (calls : List EagerCall) (path : String) (s : Scope) :
    (ofCalls calls).constrain path s = (lastConstraint? calls path).getD id s := by
  rw [constrain, get?_constraints_ofCalls]
  cases lastConstraint? calls path <;> rfl

/-! ### What an option requests -/

theorem requests_withPaths {e : Eager} (h : e.requests path = true) (paths : List String) :
    (e.withPaths paths).requests path = true := by
  unfold requests at h ⊢
  rw [withPaths, List.any_append, h, Bool.true_or]

theorem requests_withPath {e : Eager} (h : e.requests path = true) (text : String) :
    (e.withPath text).requests path = true := by
  unfold withPath
  split
  · exact h
  · exact requests_withPaths h [text]

theorem requests_withPath_self (e : Eager) (path : String) :
    (e.withPath path).requests path = true := by
  unfold withPath
  split
  · next h => exact h
  · simp [requests, withPaths]

theorem requests_apply {e : Eager} (h : e.requests path = true) (call : EagerCall) :
    (call.apply e).requests path = true := by
  cases call with
  | paths paths => exact requests_withPaths h paths
  | constraint text f => exact requests_withPath h text
  | owners text types => exact requests_withPath h text

/-- The path of an option is requested, with or without columns. -/
theorem requests_ofCalls (h : path ∈ optionTexts calls) :
    (ofCalls calls).requests path = true := by
  induction calls using List.reverseRecOn with
  | nil => cases h
  | append_singleton calls call ih =>
    rw [ofCalls_concat]
    rw [optionTexts, List.filterMap_append, List.mem_append] at h
    rcases h with h | h
    · exact requests_apply (ih h) call
    · cases call with
      | paths paths => cases h
      | constraint text f =>
        obtain rfl := List.mem_singleton.1 h
        exact requests_withPath_self _ _
      | owners text types =>
        obtain rfl := List.mem_singleton.1 h
        exact requests_withPath_self _ _

/-- **The text of an option leads to a node.** -/
theorem exists_nodeAt?_of_option (h : path ∈ optionTexts calls) {nodes : List PathNode}
    (hnodes : parsePaths (ofCalls calls).paths = .ok nodes) :
    ∃ r node, PathRequest.read path = .ok r ∧ nodeAt? r.names nodes = some node := by
  obtain ⟨text, htext, hmatch⟩ := List.any_eq_true.1 (requests_ofCalls h)
  obtain ⟨r, hread⟩ := exists_read_of_parsePaths hnodes htext
  have hpath : ∃ r', PathRequest.read path = .ok r' ∧ r'.names = r.names := by
    simp only [Bool.or_eq_true, decide_eq_true_eq] at hmatch
    rcases hmatch with hpath | rfl
    · exact read_pathOf hread hpath
    · exact ⟨r, hread, rfl⟩
  obtain ⟨r', hread', hsame⟩ := hpath
  have hroute : r'.names ∈ routesOf nodes := by
    rw [mem_routes_parsePaths hnodes, hsame]
    exact ⟨(isName_of_read hread).1, text, htext, r, hread, List.prefix_refl _⟩
  have hsome := (isSome_nodeAt? (nodup_routes_parsePaths hnodes)).2 hroute
  obtain ⟨node, hnode⟩ := Option.isSome_iff_exists.1 hsome
  exact ⟨r', node, hread', hnode⟩

end Eager

/-- A text that spells its path out: the names that it is read as, joined by points. -/
def IsSpelledOut (path : String) : Prop :=
  ∃ r, PathRequest.read path = .ok r ∧ joinedPath r.names = path

/-- A node of a forest has a path that is spelled out. -/
theorem isSpelledOut_of_nodeAt? {texts : List String} {nodes : List PathNode}
    (h : parsePaths texts = .ok nodes) {names : List String} {node : PathNode}
    (hnode : nodeAt? names nodes = some node) : IsSpelledOut node.path := by
  have hroute : names ∈ routesOf nodes := by
    rw [← isSome_nodeAt? (nodup_routes_parsePaths h), hnode]
    rfl
  obtain ⟨hne, text, -, r, hread, hstart⟩ := (mem_routes_parsePaths h).1 hroute
  have hnames : ∀ name ∈ names, IsName name := fun name hname =>
    (isName_of_read hread).2 name (hstart.subset hname)
  rw [path_nodeAt?_parsePaths h hnode]
  exact ⟨_, read_joinedPath hne hnames, rfl⟩

/-! ### What a level makes of its options -/

/-- The statements that fetch a level under a change to the scopes of its rows: selects of the
related rows by their keys, and the select of the pivot rows, which no option changes. -/
inductive Descriptor.Fetches (reg : Registry) (f : Scope → Scope) : Descriptor → Statement → Prop
  | keyed {d : Descriptor} {j : Join} (h : d.join? = some j) (columns : List String)
    (values : List Sql.Value) :
    Fetches reg f d (.select j.table columns (f (Plan.joinScope j values)))
  | linked {j : PivotJoin} (columns : List String) (values : List Sql.Value) :
    Fetches reg f (.belongsToMany j)
      (.select j.table columns (f (Plan.among j.relatedKey values)))
  | pivot {j : PivotJoin} (values : List Sql.Value) :
    Fetches reg f (.belongsToMany j) (j.statement values)
  | owners {j : OwnerJoin} {discriminator type : String} {s : Schema}
    (htype : j.types.get? discriminator = some type) (hs : reg.schema type = .ok s)
    (columns : List String) (column : String) (values : List Sql.Value) :
    Fetches reg f (.morphTo j) (.select s.table columns (f (Plan.among column values)))

namespace Run

variable {reg : Registry} {σ α β : Type} {P : Statement → Prop}

/-- A run issues only statements that satisfy `P`. -/
abbrev Issues (x : Run reg σ α) (P : Statement → Prop) : Prop :=
  Ensures x P (fun _ => True) fun _ => True

theorem Quiet.issues_bind {x : Run reg σ α} {f : α → Run reg σ β} (h : Quiet x)
    (hf : ∀ a, Issues (f a) P) : Issues (x >>= f) P :=
  Ensures.bind h.silent fun a _ => hf a

end Run

namespace Plan

open Run

variable {reg : Registry} {σ : Type} {db : Database σ} {plan : Plan} {node : PathNode}
  {type : String} {parents : List Entity} {P : Statement → Prop} {f : Scope → Scope}
  {descend : String → List Entity → Run reg σ (List Entity)}

theorem issues_select (hf : ∀ s, plan.eager.constrain node.path s = f s) (table : String)
    (scope : Scope) (hP : ∀ columns, P (.select table columns (f scope))) :
    Issues (plan.select db node type table scope : Run reg σ (List Entity)) P := by
  refine (ensures_checkNames _).quiet.issues_bind fun _ => ?_
  refine (ensures_schema type).quiet.issues_bind fun s => ?_
  refine (quiet_projection node s).issues_bind fun columns => ?_
  refine (ensures_checkName table).quiet.issues_bind fun _ => ?_
  refine Ensures.bind ((ensures_issue db _ _).mono ?_ (fun _ _ => trivial) fun _ => id)
    fun records _ => (quiet_ofExcept _).silent
  rintro _ rfl
  rw [hf]
  exact hP columns

theorem issues_stageKeyed (hf : ∀ s, plan.eager.constrain node.path s = f s)
    (kind : RelationKind) {j : Join} (s : Schema)
    (hP : ∀ columns values, P (.select j.table columns (f (joinScope j values)))) :
    Issues (plan.stageKeyed db node kind j s parents : Run reg σ _) P := by
  refine (quiet_mapped s node _).issues_bind fun column => ?_
  refine (quiet_ofExcept _).issues_bind fun index => ?_
  split
  · exact (quiet_emit _).issues_bind fun _ => Ensures.pure trivial
  · refine Ensures.bind (issues_select hf _ _ fun columns => hP columns _) fun rows _ => ?_
    refine (ensures_schema j.target).quiet.issues_bind fun target => ?_
    refine (quiet_correlate index target _ rows).issues_bind fun staged => ?_
    exact (quiet_emit _).issues_bind fun _ => Ensures.pure trivial

theorem issues_stagePivot (hf : ∀ s, plan.eager.constrain node.path s = f s) {j : PivotJoin}
    (s : Schema) (hpivot : ∀ values, P (j.statement values))
    (hP : ∀ columns values, P (.select j.table columns (f (among j.relatedKey values)))) :
    Issues (plan.stagePivot db node j s parents : Run reg σ _) P := by
  refine (quiet_mapped s node _).issues_bind fun column => ?_
  refine (quiet_ofExcept _).issues_bind fun index => ?_
  split
  · exact (quiet_emit _).issues_bind fun _ => Ensures.pure trivial
  · have hselect : Issues (selectPivot db j index.values : Run reg σ (List Sql.Record)) P := by
      refine (ensures_checkName j.pivotTable).quiet.issues_bind fun _ => ?_
      refine (ensures_issue db _ _).mono ?_ (fun _ _ => trivial) fun _ => id
      rintro _ rfl
      exact hpivot _
    refine Ensures.bind hselect fun pivotRows _ => ?_
    refine (quiet_ofExcept _).issues_bind fun links => ?_
    split
    · exact (quiet_emit _).issues_bind fun _ => Ensures.pure trivial
    · refine Ensures.bind (issues_select hf _ _ fun columns => hP columns _) fun rows _ => ?_
      refine (ensures_schema j.target).quiet.issues_bind fun target => ?_
      refine (quiet_correlate links target _ rows).issues_bind fun staged => ?_
      exact (quiet_emit _).issues_bind fun _ => Ensures.pure trivial

theorem issues_stageOwners (hf : ∀ s, plan.eager.constrain node.path s = f s) {j : OwnerJoin}
    (hP : ∀ d type s columns column values, j.types.get? d = some type →
      reg.schema type = .ok s → P (.select s.table columns (f (among column values))))
    (hdescend : ∀ type es, Issues (descend type es) P) (d : String) (index : KeyIndex) :
    Issues (plan.stageOwners db descend node j d index) P := by
  unfold stageOwners
  cases htype : j.types.get? d with
  | none => exact (quiet_emit _).issues_bind fun _ => Ensures.pure trivial
  | some type =>
    dsimp only
    refine (ensures_schema type).quiet.issues_bind fun s => ?_
    have hown : Ensures (ownerColumn node j s : Run reg σ ColumnInfo) (fun _ => False) _ _ :=
      ensures_ownerColumn j s.property
    refine hown.quiet.issues_bind fun column => ?_
    refine Ensures.bind (issues_select hf _ _ fun columns =>
      hP d type s.val columns _ _ htype s.property) fun rows _ => ?_
    refine Ensures.bind (hdescend type rows) fun owners _ => ?_
    refine (quiet_ofExcept _).issues_bind fun staged => ?_
    exact (quiet_emit _).issues_bind fun _ => Ensures.pure trivial

theorem issues_stageGroups (hf : ∀ s, plan.eager.constrain node.path s = f s) {j : OwnerJoin}
    (hP : ∀ d type s columns column values, j.types.get? d = some type →
      reg.schema type = .ok s → P (.select s.table columns (f (among column values))))
    (hdescend : ∀ type es, Issues (descend type es) P) (groups : List (String × KeyIndex)) :
    Issues (plan.stageGroups db descend node j groups) P := by
  induction groups with
  | nil => exact Ensures.pure trivial
  | cons group rest ih =>
    obtain ⟨d, index⟩ := group
    refine Ensures.bind (issues_stageOwners hf hP hdescend d index) fun staged _ => ?_
    exact Ensures.bind ih fun others _ => Ensures.pure trivial

/-- **A level issues its own statements under its constraint**, and besides what is issued below its
owners. -/
theorem issues_stage (hf : ∀ s, plan.eager.constrain node.path s = f s) {d : Descriptor}
    (hd : plan.descriptor? type node = some d) (hdescend : ∀ type es, Issues (descend type es) P)
    (parents : List Entity) :
    Issues (plan.stage db descend node type parents) fun s => d.Fetches reg f s ∨ P s := by
  have hrelation : ∀ s : Schema, Quiet (MonadExcept.ofExcept (relation s node) :
    Run reg σ RelationInfo) := fun s => quiet_ofExcept _
  cases d with
  | belongsToMany j =>
    rw [stage_of_pivot hd]
    refine (ensures_schema type).quiet.issues_bind fun s => (hrelation s).issues_bind fun info => ?_
    refine Ensures.bind (issues_stagePivot hf s (fun values => .inl (.pivot values))
      fun columns values => .inl (.linked columns values)) fun staged _ => ?_
    exact Ensures.pure trivial
  | morphTo j =>
    rw [stage_of_owners hd]
    refine (ensures_schema type).quiet.issues_bind fun s => (hrelation s).issues_bind fun info => ?_
    refine (quiet_mapped s node _).issues_bind fun typeColumn => ?_
    refine (quiet_mapped s node _).issues_bind fun idColumn => ?_
    refine (quiet_ofExcept _).issues_bind fun groups => ?_
    have howners : Issues (plan.stageGroups db descend node j groups.entries)
        fun s => (Descriptor.morphTo j).Fetches reg f s ∨ P s :=
      issues_stageGroups hf (fun d type s columns column values htype hs =>
          .inl (.owners htype hs columns column values))
        (fun type es => (hdescend type es).mono (fun _ => .inr) (fun _ => id) fun _ => id) _
    exact Ensures.bind howners fun staged _ => Ensures.pure trivial
  | hasOne j | hasMany j | belongsTo j | morphOne j | morphMany j =>
    rw [stage_of_join hd rfl]
    refine (ensures_schema type).quiet.issues_bind fun s => (hrelation s).issues_bind fun info => ?_
    refine Ensures.bind (issues_stageKeyed hf _ s fun columns values =>
      .inl (.keyed rfl columns values)) fun staged _ => ?_
    exact Ensures.pure trivial

/-! ### Given owner types -/

/-- Owner types that are given replace those that are declared. -/
theorem types_of_describe {info : RelationInfo} {parent : Schema} {given : OwnerTypes}
    {j : OwnerJoin} {w w' : World reg σ}
    (h : (info.describe parent (some given) : Run reg σ Descriptor).run w
      = (.ok (.morphTo j), w')) : j.types = given := by
  unfold RelationInfo.describe at h
  split at h
  case h_7 morph _ =>
    rw [map_eq_pure_bind] at h
    obtain ⟨j', w₁, h, hj⟩ := bind_eq_ok h
    cases hj
    unfold RelationInfo.describeOwners at h
    obtain ⟨typeColumn, w₂, -, h⟩ := bind_eq_ok h
    obtain ⟨idColumn, w₃, -, h⟩ := bind_eq_ok h
    obtain ⟨-, w₄, -, h⟩ := bind_eq_ok h
    obtain ⟨types, w₅, htypes, h⟩ := bind_eq_ok h
    obtain ⟨-, w₆, -, h⟩ := bind_eq_ok h
    cases h
    cases htypes
    rfl
  all_goals
    rw [map_eq_pure_bind] at h
    obtain ⟨d, w₁, -, hd⟩ := bind_eq_ok h
    cases hd

/-- A node heeds a constraint, the change `f` to the scopes of its rows, and owner types if some are
given: every statement of its level is under the constraint, and the types replace those that are
declared. -/
structure Heeds (reg : Registry) (σ : Type) (plan : Plan) (node : PathNode) (f : Scope → Scope)
    (types : Option OwnerTypes) : Prop where
  fetches : ∀ (db : Database σ) (descend : String → List Entity → Run reg σ (List Entity)) type d P
    parents, plan.descriptor? type node = some d → (∀ type es, Issues (descend type es) P) →
    Issues (plan.stage db descend node type parents) fun s => d.Fetches reg f s ∨ P s
  types_eq : ∀ type j given, plan.descriptor? type node = some (.morphTo j) →
    types = some given → j.types = given

variable {calls : List EagerCall}

/-- **A node heeds the options under its path.** -/
theorem heeds_of_plans (hplan : Plans reg σ (Eager.ofCalls calls) type plan) (node : PathNode) :
    plan.Heeds reg σ node ((lastConstraint? calls node.path).getD id)
      (lastOwners? calls node.path) := by
  have heager := hplan.suits.eager_eq
  refine ⟨fun db descend type d P parents hd hdescend => ?_, fun type j given hd hgiven => ?_⟩
  · refine issues_stage (fun s => ?_) hd hdescend parents
    rw [heager, Eager.constrain_ofCalls]
  · obtain ⟨node', hpath, -, w, w', hdescribe⟩ :=
      hplan.suits.consistent _ (Catalog.mem_of_lookup hd)
    obtain ⟨s, w₁, -, hdescribe⟩ := bind_eq_ok hdescribe
    obtain ⟨info, w₂, -, hdescribe⟩ := bind_eq_ok hdescribe
    obtain ⟨d, w₃, hfound, hdescribe⟩ := bind_eq_ok hdescribe
    obtain ⟨-, w₄, -, hdescribe⟩ := bind_eq_ok hdescribe
    obtain ⟨-, w₅, -, hdescribe⟩ := bind_eq_ok hdescribe
    cases hdescribe
    rw [hpath, Eager.get?_owners_ofCalls, hgiven] at hfound
    exact types_of_describe hfound

end Plan

open Plan Run

/-- **Which options a load heeds.** Every node heeds the constraint and the owner types that were
last given under the text that spells its path out. The text of an option always leads to a node.
If it spells its path out, the node heeds what was last given under it; if not, it is the path of
no node, and the option is dropped. -/
theorem options_heeded {reg : Registry} {σ : Type} {calls : List EagerCall} {type : String}
    {plan : Plan} (hplan : Plans reg σ (Eager.ofCalls calls) type plan) :
    (∀ names node, nodeAt? names plan.nodes = some node → node.path = joinedPath names ∧
      plan.Heeds reg σ node ((lastConstraint? calls node.path).getD id)
        (lastOwners? calls node.path)) ∧
    ∀ text ∈ optionTexts calls, ∃ r node, PathRequest.read text = .ok r ∧
      nodeAt? r.names plan.nodes = some node ∧
      (IsSpelledOut text → plan.Heeds reg σ node ((lastConstraint? calls text).getD id)
        (lastOwners? calls text)) ∧
      (¬ IsSpelledOut text → ∀ names node', nodeAt? names plan.nodes = some node' →
        node'.path ≠ text) := by
  have hnodes := hplan.parsePaths_eq
  refine ⟨fun names node hnode => ⟨path_nodeAt?_parsePaths hnodes hnode,
    heeds_of_plans hplan node⟩, fun text htext => ?_⟩
  obtain ⟨r, node, hread, hnode⟩ := Eager.exists_nodeAt?_of_option htext hnodes
  refine ⟨r, node, hread, hnode, fun hspelled => ?_, fun hspelled names node' hnode' hpath => ?_⟩
  · obtain ⟨r', hread', hjoined⟩ := hspelled
    obtain rfl : r = r' := Except.ok.inj (hread.symm.trans hread')
    have hpath : node.path = text := (path_nodeAt?_parsePaths hnodes hnode).trans hjoined
    rw [← hpath]
    exact heeds_of_plans hplan node
  · exact hspelled (hpath ▸ isSpelledOut_of_nodeAt? hnodes hnode')

/-- The posts are requested with columns before they are limited. -/
theorem options_heeded_library :
    let limited (s : Scope) : Scope := { s with limit := some 1 }
    let calls : List EagerCall := [.paths ["Posts:id,author_id"], .constraint "Posts" limited]
    ∃ plan node, Plans libraryRegistry Unit (Eager.ofCalls calls) "Author" plan ∧
      nodeAt? ["Posts"] plan.nodes = some node ∧
      plan.Heeds libraryRegistry Unit node limited none := by
  intro limited calls
  let w : World libraryRegistry Unit := { catalog := .empty _ {}, state := () }
  have hcheck : ((Plan.make (Eager.ofCalls calls) "Author").run w).1.isOk = true := by
    decide +kernel
  rcases hrun : (Plan.make (Eager.ofCalls calls) "Author").run w with ⟨why | plan, w₁⟩
  · rw [hrun] at hcheck
    cases hcheck
  · have hplan : Plans libraryRegistry Unit (Eager.ofCalls calls) "Author" plan := ⟨w, w₁, hrun⟩
    have hread : PathRequest.read "Posts" = .ok ⟨["Posts"], none⟩ := by decide +kernel
    obtain ⟨r, node, hread', hnode, hheeds, -⟩ :=
      (options_heeded hplan).2 "Posts" (by simp [calls, optionTexts, EagerCall.text?])
    obtain rfl := Except.ok.inj (hread.symm.trans hread')
    exact ⟨plan, node, hplan, hnode, hheeds ⟨_, hread, by decide +kernel⟩⟩

/-- A limit on the notes of an author is heeded under the path itself. With blanks around the path
the notes are loaded, but not limited. -/
theorem constraint_dropped :
    let w : World libraryRegistry Unit := { catalog := .empty _ {}, state := () }
    let limited (s : Scope) : Scope := { s with limit := some 1 }
    let notes (text : String) := preload libraryDatabase
      (Eager.ofCalls [.constraint text limited]) "Author" [noteAuthor] w
    let keys : Scope := { filters := [.inList "author_id" [.int 1]] }
    (notes "Notes").2.issued = [.select "notes" ["author_id"] (limited keys)] ∧
      (notes " Notes ").1.failure = none ∧
      (notes " Notes ").2.issued = [.select "notes" ["author_id"] keys] := by
  decide +kernel

end EntityGraph
