import EntityGraph.Proofs.Load.Forest
import EntityGraph.Proofs.Load.Linked
import EntityGraph.Proofs.Load.Owned
import EntityGraph.Proofs.Query.Phases
import Mathlib

/-!
# How many statements a load takes

A level takes one statement for the whole batch of its parents, two if it goes through a pivot table
and one for each discriminator if its owners are of several types. So the number of statements that
a load takes is bounded by what its forest, the kinds of its relations and the owner types add up to
(`nodesCost`), however many entities and rows there are (`preload_bounded`).
-/

namespace EntityGraph

open Sql (Statement Record Purpose)

variable {reg : Registry} {σ α β : Type}

namespace Run

/-! ### Spending -/

/-- Work issues at most `n` statements. -/
def Spends (work : StateM (World reg σ) α) (n : Nat) : Prop :=
  ∀ w, ∃ issued, (work w).2.issued = w.issued ++ issued ∧ issued.length ≤ n

/-- A run issues at most `n` statements. -/
abbrev Costs (x : Run reg σ α) (n : Nat) : Prop := Spends x.run n

section
variable {x : Run reg σ α} {f : α → Run reg σ β} {m n : Nat}

theorem Spends.pure {a : α} : Spends (Pure.pure a : StateM (World reg σ) α) n :=
  fun _ => ⟨[], (List.append_nil _).symm, Nat.zero_le n⟩

theorem Spends.bind {work : StateM (World reg σ) α} {next : α → StateM (World reg σ) β}
    (h : Spends work m) (hnext : ∀ a, Spends (next a) n) : Spends (work >>= next) (m + n) := by
  intro w
  obtain ⟨first, hfirst, hm⟩ := h w
  obtain ⟨second, hsecond, hn⟩ := hnext (work w).1 (work w).2
  refine ⟨first ++ second, ?_, ?_⟩
  · show (next (work w).1 (work w).2).2.issued = _
    rw [hsecond, hfirst, List.append_assoc]
  · rw [List.length_append]
    omega

theorem Spends.mono {work : StateM (World reg σ) α} (h : Spends work m) (hle : m ≤ n) :
    Spends work n := by
  intro w
  obtain ⟨issued, hissued, hm⟩ := h w
  exact ⟨issued, hissued, hm.trans hle⟩

theorem Costs.pure {a : α} : Costs (Pure.pure a : Run reg σ α) n := Spends.pure

theorem Costs.throw {e : Error} : Costs (MonadExcept.throw e : Run reg σ α) n := Spends.pure

theorem Costs.bind (h : Costs x m) (hf : ∀ a, Costs (f a) n) : Costs (x >>= f) (m + n) := by
  have hbind : (x >>= f).run = x.run >>= ExceptT.bindCont f := rfl
  rw [Costs, hbind]
  refine Spends.bind h fun r => ?_
  cases r with
  | error e => exact Spends.pure
  | ok a => exact hf a

theorem Quiet.costs (h : Quiet x) : Costs x 0 := by
  intro w
  exact ⟨[], ((h.untouched w).issued_eq).trans (List.append_nil _).symm, le_rfl⟩

/-- What issues nothing costs nothing in front of other work. -/
theorem Quiet.costs_bind (h : Quiet x) (hf : ∀ a, Costs (f a) n) : Costs (x >>= f) n :=
  (h.costs.bind hf).mono (Nat.zero_add n).le

/-- What issues nothing costs nothing after other work. -/
theorem Costs.bind_quiet (h : Costs x n) (hf : ∀ a, Quiet (f a)) : Costs (x >>= f) n :=
  (h.bind fun a => (hf a).costs).mono (Nat.add_zero n).le

theorem quiet_ofExcept (y : Except Error α) : Quiet (MonadExcept.ofExcept y : Run reg σ α) :=
  ensures_ofExcept (by cases y <;> trivial)

theorem finds_ofExcept (y : Except Error α) :
    Finds (MonadExcept.ofExcept y : Run reg σ α) (y = .ok ·) := by
  cases y with
  | error e => exact Ensures.throw trivial
  | ok a => exact Ensures.pure rfl

theorem costs_issue (db : Database σ) (purpose : Purpose) (s : Statement) :
    Costs (issue db purpose s : Run reg σ (List Record)) 1 := by
  refine (quiet_emit _).costs_bind fun _ => ?_
  have hanswer : Costs
      (modifyGet fun w =>
        ((db.answer s w.state).1,
          { w with state := (db.answer s w.state).2, issued := w.issued ++ [s] }) :
        Run reg σ (Except Failure (List Record))) 1 := fun _ => ⟨[s], rfl, le_rfl⟩
  exact hanswer.bind_quiet fun answer => quiet_ofExcept _

theorem Costs.issued (h : Costs x n) {w w' : World reg σ} {r : Except Error α}
    (hrun : x.run w = (r, w')) : ∃ issued, w'.issued = w.issued ++ issued ∧ issued.length ≤ n := by
  have hcost := h w
  rwa [hrun] at hcost

theorem costs_ofLoaded {work : StateM (World reg σ) Loaded} (h : Spends work n) :
    Costs (ofLoaded work) n := by
  have hmap : (ofLoaded work).run = work >>= fun l => Pure.pure l.outcome := rfl
  rw [Costs, hmap]
  exact (h.bind fun _ => Spends.pure).mono (Nat.add_zero n).le

end

end Run

/-! ### What a forest costs -/

namespace Plan

open Run

/-- The most statements that a level takes, given what is spent below the owners of each type. -/
def stageCost (below : String → Nat) : Descriptor → Nat
  | .hasOne _ | .hasMany _ | .belongsTo _ | .morphOne _ | .morphMany _ => 1
  | .belongsToMany _ => 2
  | .morphTo j => (j.types.entries.map fun p => 1 + below p.2).sum

/-- The most statements that a relation takes, given what is spent below the rows of each type. -/
def levelCost (below : String → Nat) : Descriptor → Nat
  | .hasOne j | .hasMany j | .belongsTo j | .morphOne j | .morphMany j => 1 + below j.target
  | .belongsToMany j => 2 + below j.target
  | .morphTo j => (j.types.entries.map fun p => 1 + below p.2).sum

theorem levelCost_eq (below : String → Nat) (d : Descriptor) :
    levelCost below d = stageCost below d + (d.rowType?.map below).getD 0 := by
  cases d <;> rfl

mutual

/-- The most statements that a node takes on a type, with all that is below it. -/
def nodeCost (plan : Plan) : PathNode → String → Nat
  | ⟨name, path, columns, children⟩, type =>
    match plan.descriptor? type ⟨name, path, columns, children⟩ with
    | some d => levelCost (nodesCost plan children) d
    | none => 0

/-- The most statements that the nodes take on a type. -/
def nodesCost (plan : Plan) : List PathNode → String → Nat
  | [], _ => 0
  | node :: rest, type => nodeCost plan node type + nodesCost plan rest type

end

variable {db : Database σ} {plan : Plan} {node : PathNode} {type : String}
  {parents : List Entity} {below : String → Nat}
  {descend : String → List Entity → Run reg σ (List Entity)}

theorem nodeCost_eq (plan : Plan) (node : PathNode) (type : String) :
    plan.nodeCost node type
      = ((plan.descriptor? type node).map (levelCost (plan.nodesCost node.children))).getD 0 := by
  obtain ⟨name, path, columns, children⟩ := node
  rw [nodeCost]
  cases plan.descriptor? type ⟨name, path, columns, children⟩ <;> rfl

theorem nodesCost_congr_of {plan' : Plan} {nodes : List PathNode}
    (hnodes : ∀ node ∈ nodes, plan'.nodeCost node = plan.nodeCost node) :
    plan'.nodesCost nodes = plan.nodesCost nodes := by
  funext type
  induction nodes with
  | nil => rw [nodesCost, nodesCost]
  | cons node rest ih =>
    rw [nodesCost, nodesCost, hnodes node (by simp),
      ih fun node h => hnodes node (List.mem_cons_of_mem _ h)]

/-- Plans with the same descriptors cost the same. -/
theorem nodesCost_congr {plan' : Plan} (h : plan'.descriptor? = plan.descriptor?)
    (nodes : List PathNode) : plan'.nodesCost nodes = plan.nodesCost nodes := by
  have hnode : ∀ node, plan'.nodeCost node = plan.nodeCost node := by
    intro node
    induction node using PathNode.induct with
    | mk name path columns children ih =>
      funext type
      rw [nodeCost_eq, nodeCost_eq, h, nodesCost_congr_of ih]
  exact nodesCost_congr_of fun node _ => hnode node

/-! ### Levels -/

theorem costs_select (db : Database σ) (plan : Plan) (node : PathNode) (type table : String)
    (scope : Sql.Scope) :
    Costs (plan.select db node type table scope : Run reg σ (List Entity)) 1 := by
  refine (ensures_checkNames _).quiet.costs_bind fun _ => ?_
  refine (ensures_schema type).quiet.costs_bind fun s => ?_
  refine (quiet_projection node s).costs_bind fun columns => ?_
  refine (ensures_checkName table).quiet.costs_bind fun _ => ?_
  exact (costs_issue db _ _).bind_quiet fun records => quiet_ofExcept _

theorem quiet_correlate (index : KeyIndex) (s : Schema) (column : String) (rows : List Entity) :
    Quiet (correlate index s column rows : Run reg σ (List (Nat × Entity))) := by
  unfold correlate
  cases s.column? column with
  | some c => exact quiet_ofExcept _
  | none => exact Ensures.pure trivial

theorem costs_stageKeyed (db : Database σ) (plan : Plan) (node : PathNode) (kind : RelationKind)
    (j : Join) (s : Schema) (parents : List Entity) :
    Costs (plan.stageKeyed db node kind j s parents : Run reg σ _) 1 := by
  refine (quiet_mapped s node _).costs_bind fun column => ?_
  refine (quiet_ofExcept _).costs_bind fun index => ?_
  split
  · exact (quiet_emit _).costs_bind fun _ => Costs.pure
  · refine (costs_select db plan node _ _ _).bind_quiet fun rows => ?_
    refine (ensures_schema j.target).quiet.bind fun target _ => ?_
    refine (quiet_correlate index target _ rows).bind fun staged _ => ?_
    exact (quiet_emit _).bind fun _ _ => Ensures.pure trivial

theorem costs_stagePivot (db : Database σ) (plan : Plan) (node : PathNode) (j : PivotJoin)
    (s : Schema) (parents : List Entity) :
    Costs (plan.stagePivot db node j s parents : Run reg σ _) 2 := by
  refine (quiet_mapped s node _).costs_bind fun column => ?_
  refine (quiet_ofExcept _).costs_bind fun index => ?_
  split
  · exact (quiet_emit _).costs_bind fun _ => Costs.pure
  · have hpivot : Costs (selectPivot db j index.values : Run reg σ (List Record)) 1 :=
      (ensures_checkName j.pivotTable).quiet.costs_bind fun _ => costs_issue db _ _
    refine hpivot.bind (n := 1) fun pivotRows => ?_
    refine (quiet_ofExcept _).costs_bind fun links => ?_
    split
    · exact (quiet_emit _).costs_bind fun _ => Costs.pure
    · refine (costs_select db plan node _ _ _).bind_quiet fun rows => ?_
      refine (ensures_schema j.target).quiet.bind fun target _ => ?_
      refine (quiet_correlate links target _ rows).bind fun staged _ => ?_
      exact (quiet_emit _).bind fun _ _ => Ensures.pure trivial

/-- What is spent on the owners of a discriminator: nothing if it is not mapped. -/
def ownersCost (below : String → Nat) (types : OwnerTypes) (discriminator : String) : Nat :=
  ((types.get? discriminator).map fun type => 1 + below type).getD 0

theorem costs_stageOwners (hdescend : ∀ type es, Costs (descend type es) (below type))
    (j : OwnerJoin) (d : String) (index : KeyIndex) :
    Costs (plan.stageOwners db descend node j d index) (ownersCost below j.types d) := by
  unfold stageOwners ownersCost
  cases htype : j.types.get? d with
  | none => exact (quiet_emit _).costs_bind fun _ => Costs.pure
  | some type =>
    dsimp only
    refine (ensures_schema type).quiet.costs_bind fun s => ?_
    have hown : Ensures (ownerColumn node j s : Run reg σ ColumnInfo) (fun _ => False) _ _ :=
      ensures_ownerColumn j s.property
    refine hown.quiet.costs_bind fun column => ?_
    refine (costs_select db plan node _ _ _).bind fun rows => ?_
    refine (hdescend type rows).bind_quiet fun owners => ?_
    refine (quiet_ofExcept _).bind fun staged _ => ?_
    exact (quiet_emit _).bind fun _ _ => Ensures.pure trivial

theorem costs_stageGroups (hdescend : ∀ type es, Costs (descend type es) (below type))
    (j : OwnerJoin) (groups : List (String × KeyIndex)) :
    Costs (plan.stageGroups db descend node j groups)
      (groups.map fun g => ownersCost below j.types g.1).sum := by
  induction groups with
  | nil => exact Costs.pure
  | cons group rest ih =>
    obtain ⟨d, index⟩ := group
    refine (costs_stageOwners hdescend j d index).bind fun staged => ?_
    exact ih.bind_quiet fun others => Ensures.pure trivial

/-- What is summed up over distinct names is at most the sum over all entries: each name that has an
entry has one of its own. -/
theorem sum_lookup_le {α : Type} (f : α → Nat) (entries : List (String × α)) {names : List String}
    (hnames : names.Nodup) : (names.map fun name => ((entries.lookup name).map f).getD 0).sum
      ≤ (entries.map fun p => f p.2).sum := by
  induction entries generalizing names with
  | nil => simp
  | cons entry rest ih =>
    obtain ⟨k, a⟩ := entry
    have hother : ∀ others : List String, k ∉ others →
        (others.map fun name => ((List.lookup name ((k, a) :: rest)).map f).getD 0)
          = others.map fun name => ((rest.lookup name).map f).getD 0 := by
      intro others hk
      refine List.map_congr_left fun name hname => ?_
      have hne : name ≠ k := by
        rintro rfl
        exact hk hname
      rw [List.lookup_cons, beq_eq_false_iff_ne.2 hne]
    rw [List.map_cons, List.sum_cons]
    by_cases hk : k ∈ names
    · rw [((List.perm_cons_erase hk).map _).sum_eq, List.map_cons, List.sum_cons,
        List.lookup_cons_self, hother _ hnames.not_mem_erase]
      exact Nat.add_le_add_left (ih (hnames.erase k)) _
    · rw [hother names hk]
      exact (ih hnames).trans (Nat.le_add_left _ _)

/-- **A level takes no more statements than its kind allows.** -/
theorem costs_stage {d : Descriptor} (hd : plan.descriptor? type node = some d)
    (hdescend : ∀ type es, Costs (descend type es) (below type)) (parents : List Entity) :
    Costs (plan.stage db descend node type parents) (stageCost below d) := by
  have hrelation : ∀ s : Schema, Quiet (MonadExcept.ofExcept (relation s node) :
    Run reg σ RelationInfo) := fun s => quiet_ofExcept _
  cases d with
  | belongsToMany j =>
    rw [stage_of_pivot hd]
    refine (ensures_schema type).quiet.costs_bind fun s => (hrelation s).costs_bind fun info => ?_
    exact (costs_stagePivot db plan node j s parents).bind_quiet fun _ => Ensures.pure trivial
  | morphTo j =>
    rw [stage_of_owners hd]
    refine (ensures_schema type).quiet.costs_bind fun s => (hrelation s).costs_bind fun info => ?_
    refine (quiet_mapped s node _).costs_bind fun typeColumn => ?_
    refine (quiet_mapped s node _).costs_bind fun idColumn => ?_
    refine (quiet_ofExcept _).costs_bind fun groups => ?_
    refine Costs.bind_quiet ?_ fun _ => Ensures.pure trivial
    refine (costs_stageGroups hdescend j groups.entries).mono ?_
    have hdistinct : (groups.entries.map Prod.fst).Nodup :=
      (List.pairwise_map.2 groups.ordered).imp fun h => String.ne_of_lt h
    have hle := sum_lookup_le (fun type => 1 + below type) j.types.entries hdistinct
    rwa [List.map_map] at hle
  | hasOne j | hasMany j | belongsTo j | morphOne j | morphMany j =>
    rw [stage_of_join hd rfl]
    refine (ensures_schema type).quiet.costs_bind fun s => (hrelation s).costs_bind fun info => ?_
    exact (costs_stageKeyed db plan node _ _ s parents).bind_quiet fun _ => Ensures.pure trivial

/-- What a level takes is what its descriptor allows; without one it fails at once. -/
theorem costs_stage_descriptor (hdescend : ∀ type es, Costs (descend type es) (below type))
    (parents : List Entity) :
    Costs (plan.stage db descend node type parents)
      (((plan.descriptor? type node).map (stageCost below)).getD 0) := by
  cases hd : plan.descriptor? type node with
  | some d => exact costs_stage hd hdescend parents
  | none =>
    rw [stage]
    refine (ensures_schema type).quiet.costs_bind fun s => ?_
    refine (quiet_ofExcept _).costs_bind fun info => ?_
    rw [hd]
    exact Costs.throw

/-! ### Whole loads -/

theorem spends_loadNodes_of {nodes : List PathNode}
    (hnodes : ∀ node ∈ nodes, ∀ type batch,
      Spends (plan.loadNode db node type batch : StateM (World reg σ) Loaded)
        (plan.nodeCost node type)) (type : String) (batch : List Entity) :
    Spends (plan.loadNodes db nodes type batch : StateM (World reg σ) Loaded)
      (plan.nodesCost nodes type) := by
  induction nodes generalizing batch with
  | nil =>
    rw [loadNodes]
    exact Spends.pure
  | cons node rest ih =>
    rw [loadNodes, nodesCost]
    split
    · exact Spends.pure
    · refine (hnodes node (by simp) type batch).bind fun done => ?_
      split
      · exact Spends.pure
      · exact ih (fun node h => hnodes node (List.mem_cons_of_mem _ h)) _

/-- **A node takes no more statements than it may cost.** -/
theorem spends_loadNode (db : Database σ) (plan : Plan) (node : PathNode) (type : String)
    (batch : List Entity) :
    Spends (plan.loadNode db node type batch : StateM (World reg σ) Loaded)
      (plan.nodeCost node type) := by
  induction node using PathNode.induct generalizing type batch with
  | mk name path columns children ih =>
    let node : PathNode := ⟨name, path, columns, children⟩
    have hbelow : ∀ target es, Spends
        (plan.loadNodes db children target es : StateM (World reg σ) Loaded)
        (plan.nodesCost children target) := spends_loadNodes_of ih
    have hstage : Costs (plan.stage db (plan.below db node) node type batch : Run reg σ _)
        (((plan.descriptor? type node).map (stageCost (plan.nodesCost children))).getD 0) :=
      costs_stage_descriptor (fun target es => costs_ofLoaded (hbelow target es)) batch
    have hle : ((plan.descriptor? type node).map (stageCost (plan.nodesCost children))).getD 0
        ≤ plan.nodeCost node type := by
      rw [nodeCost_eq]
      cases plan.descriptor? type node with
      | none => exact le_rfl
      | some d => exact (Nat.le_add_right _ _).trans (levelCost_eq _ d).ge
    intro w
    rcases hrun : (plan.stage db (plan.below db node) node type batch).run w with
      ⟨why | ⟨info, ⟨kind, target, rows⟩ | owners⟩, w₁⟩
    · rw [loadNode_error hrun]
      exact Costs.issued (Spends.mono hstage hle) hrun
    · obtain ⟨issued, hissued, hlength⟩ := hstage.issued hrun
      obtain ⟨later, hlater, hlength'⟩ := hbelow target (gather info.position
        ((Staged.rows kind target rows).commit info.position batch)) w₁
      obtain ⟨d, hd, htarget⟩ := rowType_of_stage hrun
      rw [loadNode_rows hrun]
      refine ⟨issued ++ later, ?_, ?_⟩
      · dsimp only
        rw [hlater, hissued, List.append_assoc]
      · rw [nodeCost_eq, hd, Option.map_some, Option.getD_some, levelCost_eq, htarget,
          List.length_append]
        rw [hd] at hlength
        exact Nat.add_le_add hlength hlength'
    · rw [loadNode_owners hrun]
      exact Costs.issued (Spends.mono hstage hle) hrun

/-- **Nodes take no more statements than they may cost**, whatever the batch. -/
theorem spends_loadNodes (db : Database σ) (plan : Plan) (nodes : List PathNode) (type : String)
    (batch : List Entity) :
    Spends (plan.loadNodes db nodes type batch : StateM (World reg σ) Loaded)
      (plan.nodesCost nodes type) :=
  spends_loadNodes_of (fun node _ => spends_loadNode db plan node) type batch

/-! ### Parents without keys -/

/-- A parent has no key for a relation: the column that joins it holds none, or its discriminator is
empty. -/
def Keyless (s : Schema) : Descriptor → Entity → Prop
  | .hasOne j, p | .hasMany j, p | .belongsTo j, p | .morphOne j, p | .morphMany j, p =>
    s.keyText? j.parentColumn p = none
  | .belongsToMany j, p => s.keyText? j.parentKey p = none
  | .morphTo j, p =>
    s.keyText? j.idColumn p = none ∨
      (s.column? j.typeColumn).bind (OwnerJoin.discriminatorOf · p) = none

/-- Nothing is staged for any parent. -/
def IsBlank (staged : Staged) : Prop :=
  staged = .owners [] ∨ ∃ kind target, staged = .rows kind target []

theorem finds_mapped (s : Schema) (node : PathNode) (column : String) :
    Finds (mapped s node column : Run reg σ ColumnInfo) (s.column? column = some ·) := by
  unfold mapped
  cases s.column? column with
  | some c => exact Ensures.pure rfl
  | none => exact Ensures.throw trivial

theorem isEmpty_of_keyless {s : Schema} {name : String} {column : ColumnInfo} {index : KeyIndex}
    (hcolumn : s.column? name = some column) (hindex : KeyIndex.ofBatch column parents = .ok index)
    (h : ∀ p ∈ parents, s.keyText? name p = none) : index.isEmpty = true := by
  refine (KeyIndex.isEmpty_ofBatch hindex).2 fun p hp => ?_
  have hkey := h p hp
  rwa [Schema.keyText?, hcolumn, Option.bind_some] at hkey

theorem finds_stageKeyed_of_keyless {kind : RelationKind} {j : Join} {s : Schema}
    (h : ∀ p ∈ parents, s.keyText? j.parentColumn p = none) :
    Finds (plan.stageKeyed db node kind j s parents : Run reg σ _) (· = []) := by
  refine (finds_mapped s node _).bind fun column hcolumn => ?_
  refine (finds_ofExcept _).bind fun index hindex => ?_
  rw [if_pos (isEmpty_of_keyless hcolumn hindex h)]
  exact (quiet_emit _).bind fun _ _ => Ensures.pure rfl

theorem finds_stagePivot_of_keyless {j : PivotJoin} {s : Schema}
    (h : ∀ p ∈ parents, s.keyText? j.parentKey p = none) :
    Finds (plan.stagePivot db node j s parents : Run reg σ _) (· = []) := by
  refine (finds_mapped s node _).bind fun column hcolumn => ?_
  refine (finds_ofExcept _).bind fun index hindex => ?_
  rw [if_pos (isEmpty_of_keyless hcolumn hindex h)]
  exact (quiet_emit _).bind fun _ _ => Ensures.pure rfl

theorem entries_eq_nil_of_keyless {typeColumn idColumn : ColumnInfo} {groups : ByName KeyIndex}
    (hgroups : OwnerJoin.groups typeColumn idColumn parents = .ok groups)
    (h : ∀ p ∈ parents, p.keyText? idColumn = none ∨
      OwnerJoin.discriminatorOf typeColumn p = none) : groups.entries = [] := by
  rw [← List.map_eq_nil_iff (f := Prod.fst), List.eq_nil_iff_forall_not_mem]
  intro d hd
  obtain ⟨p, hp, hdiscriminator, hkey⟩ := ((present_of_groups hgroups).mem_iff d).1 hd
  rcases h p hp with hnone | hnone
  · exact hkey hnone
  · rw [hnone] at hdiscriminator
    cases hdiscriminator

/-- **A level issues nothing for parents without keys**, and then there is nothing to assign. -/
theorem finds_stage_of_keyless {s : Schema} {d : Descriptor} (hs : reg.schema type = .ok s)
    (hd : plan.descriptor? type node = some d) (h : ∀ p ∈ parents, Keyless s d p) :
    Finds (plan.stage db descend node type parents) fun r => IsBlank r.2 := by
  cases d with
  | belongsToMany j =>
    rw [stage_of_pivot hd]
    refine (ensures_schema_of hs).bind fun s' hs' => (quiet_ofExcept _).bind fun info _ => ?_
    subst hs'
    refine (finds_stagePivot_of_keyless h).bind fun staged hstaged => ?_
    exact Ensures.pure (.inr ⟨_, _, by rw [hstaged]⟩)
  | morphTo j =>
    rw [stage_of_owners hd]
    refine (ensures_schema_of hs).bind fun s' hs' => (quiet_ofExcept _).bind fun info _ => ?_
    subst hs'
    refine (finds_mapped _ node _).bind fun typeColumn htype => ?_
    refine (finds_mapped _ node _).bind fun idColumn hid => ?_
    refine (finds_ofExcept _).bind fun groups hgroups => ?_
    have hnone := entries_eq_nil_of_keyless hgroups fun p hp => by
      simpa [Keyless, Schema.keyText?, htype, hid] using h p hp
    rw [hnone]
    exact Ensures.pure (.inl rfl)
  | hasOne j | hasMany j | belongsTo j | morphOne j | morphMany j =>
    rw [stage_of_join hd rfl]
    refine (ensures_schema_of hs).bind fun s' hs' => (quiet_ofExcept _).bind fun info _ => ?_
    subst hs'
    refine (finds_stageKeyed_of_keyless h).bind fun staged hstaged => ?_
    exact Ensures.pure (.inr ⟨_, _, by rw [hstaged]⟩)

/-- **A node whose parents have no keys issues nothing**, nor does anything below it. -/
theorem loadNode_of_keyless {s : Schema} {d : Descriptor} (hs : reg.schema type = .ok s)
    (hd : plan.descriptor? type node = some d) (h : ∀ p ∈ parents, Keyless s d p)
    (w : World reg σ) : (plan.loadNode db node type parents w).2.issued = w.issued := by
  have hfinds : Finds (plan.stage db (plan.below db node) node type parents : Run reg σ _) _ :=
    finds_stage_of_keyless hs hd h
  have hstill := (hfinds.quiet.untouched w).issued_eq
  rcases hrun : (plan.stage db (plan.below db node) node type parents).run w with
    ⟨why | ⟨info, staged⟩, w₁⟩
  · rw [hrun] at hstill
    rw [loadNode_error hrun]
    exact hstill
  · rw [hrun] at hstill
    obtain rfl | ⟨kind, target, rfl⟩ : IsBlank staged := hfinds.of_ok hrun
    · rw [loadNode_owners hrun]
      exact hstill
    · rw [loadNode_rows hrun]
      simp only [gather_commit_nil, loadNodes_nil_batch]
      exact hstill

/-! ### Requests -/

variable {eager : Eager}

theorem spends_preload (db : Database σ) {n : Nat}
    (hn : ∀ plan, Plans reg σ eager type plan → plan.nodesCost plan.nodes type ≤ n)
    (batch : List Entity) :
    Spends (preload db eager type batch : StateM (World reg σ) Loaded) n := by
  intro w
  by_cases hidle : batch = [] ∨ eager.isEmpty = true
  · rw [preload_of_idle hidle]
    exact ⟨[], (List.append_nil _).symm, Nat.zero_le n⟩
  · obtain ⟨hbatch, heager⟩ := not_or.1 hidle
    rw [Bool.not_eq_true] at heager
    have hstill := ((finds_make eager type).quiet.untouched w).issued_eq
    rcases hrun : (make eager type : Run reg σ Plan).run w with ⟨why | plan, w₁⟩
    · rw [hrun] at hstill
      rw [preload_of_error hrun db hbatch heager]
      exact ⟨[], hstill.trans (List.append_nil _).symm, Nat.zero_le n⟩
    · rw [hrun] at hstill
      obtain ⟨issued, hissued, hlength⟩ := spends_loadNodes db plan plan.nodes type batch w₁
      rw [preload_of_ok hrun db hbatch heager, ← hstill]
      exact ⟨issued, hissued, hlength.trans (hn plan ⟨w, w₁, hrun⟩)⟩

end Plan

open Plan Run

/-- **The statements of a load are bounded before it starts.** A request that cannot be planned
issues none. Otherwise its plan alone says how many a load issues at most, whatever the database
answers and however large the batch. An empty batch and parents without keys take none. The forest
of the plan has one node for every beginning of a request, so that what begins alike is loaded
once. -/
theorem preload_bounded (reg : Registry) (σ : Type) (eager : Eager) (type : String) :
    ((¬ ∃ plan, Plans reg σ eager type plan) → ∀ (db : Database σ) batch (w : World reg σ),
      (preload db eager type batch w).2.issued = w.issued) ∧
    ∀ plan, Plans reg σ eager type plan →
      (∀ (db : Database σ) batch (w : World reg σ), ∃ issued,
        (preload db eager type batch w).2.issued = w.issued ++ issued ∧
          issued.length ≤ plan.nodesCost plan.nodes type) ∧
      (∀ (db : Database σ) nodes type' (w : World reg σ),
        plan.loadNodes db nodes type' [] w = (⟨[], none⟩, w)) ∧
      (∀ (db : Database σ) node type' s d parents (w : World reg σ), reg.schema type' = .ok s →
        plan.descriptor? type' node = some d → (∀ p ∈ parents, Keyless s d p) →
        (plan.loadNode db node type' parents w).2.issued = w.issued) ∧
      (routesOf plan.nodes).Nodup ∧
      ∀ route, route ∈ routesOf plan.nodes ↔ route ≠ [] ∧
        ∃ text ∈ eager.paths, ∃ r, PathRequest.read text = .ok r ∧ route <+: r.names := by
  refine ⟨fun hnone db batch w => ?_, fun plan hplan => ⟨fun db batch => ?_, ?_, ?_, ?_, ?_⟩⟩
  · have hzero : Spends (preload db eager type batch : StateM (World reg σ) Loaded) 0 :=
      spends_preload db (fun plan hplan => absurd ⟨plan, hplan⟩ hnone) batch
    obtain ⟨issued, hissued, hlength⟩ := hzero w
    rw [hissued, List.eq_nil_of_length_eq_zero (Nat.le_zero.1 hlength), List.append_nil]
  · refine spends_preload db (fun plan' hplan' => ?_) batch
    have hsame := hplan.same hplan'
    rw [hsame.nodes_eq, nodesCost_congr (hsame.descriptor?_eq hplan.suits)]
  · exact fun db nodes type' w => loadNodes_nil_batch nodes type' w
  · exact fun db node type' s d parents w hs hd h => loadNode_of_keyless hs hd h w
  · exact nodup_routes_parsePaths hplan.parsePaths_eq
  · exact fun route => mem_routes_parsePaths hplan.parsePaths_eq

/-! The books of a shelf, with their tags, and with their owners, who are persons or clubs. -/

def shelfRegistry : Registry :=
  ⟨[{ type := "Shelf", table := some "shelves", members :=
        [.column "id" (.int .i64) (some "id") true false,
          .relation "books" (.hasMany "Book") { name := some "Books" }] },
    { type := "Book", table := some "books", members :=
        [.column "id" (.int .i64) (some "id") true false,
          .column "shelf_id" (.int .i64) (some "shelf_id") false false,
          .column "owner_type" .text (some "owner_type") false false,
          .column "owner_id" (.int .i64) (some "owner_id") false false,
          .relation "tags" (.belongsToMany "Tag") { name := some "Tags" },
          .relation "owner" (.morphTo "owner")
            { name := some "Owner",
              targets := [("Person", some "person"), ("Club", some "club")] }] },
    { type := "Tag", table := some "tags", members :=
        [.column "id" (.int .i64) (some "id") true false] },
    { type := "Person", table := some "persons", members :=
        [.column "id" (.int .i64) (some "id") true false] },
    { type := "Club", table := some "clubs", members :=
        [.column "id" (.int .i64) (some "id") true false] }]⟩

def shelfRequest : Eager :=
  ({} : Eager).withPaths ["Books.Tags", "Books.Owner", "Books"]

/-- The books take one statement, their tags two, and their owners one for each type. -/
theorem preload_bounded_shelf :
    ∃ plan, Plans shelfRegistry Unit shelfRequest "Shelf" plan ∧
      (∀ (db : Database Unit) batch (w : World shelfRegistry Unit), ∃ issued,
        (preload db shelfRequest "Shelf" batch w).2.issued = w.issued ++ issued ∧
          issued.length ≤ 5) ∧
      routesOf plan.nodes = [["Books"], ["Books", "Tags"], ["Books", "Owner"]] ∧
      (routesOf plan.nodes).Nodup := by
  let w : World shelfRegistry Unit := { catalog := .empty _ {}, state := () }
  have hcheck : (match (Plan.make shelfRequest "Shelf").run w with
    | (.ok plan, _) => decide (plan.nodesCost plan.nodes "Shelf" = 5) &&
        decide (routesOf plan.nodes = [["Books"], ["Books", "Tags"], ["Books", "Owner"]])
    | _ => false) = true := by decide +kernel
  split at hcheck
  · next plan w₁ hrun =>
    simp only [Bool.and_eq_true, decide_eq_true_eq] at hcheck
    have hplan : Plans shelfRegistry Unit shelfRequest "Shelf" plan := ⟨w, w₁, hrun⟩
    obtain ⟨hspends, -, -, hnodup, -⟩ :=
      (preload_bounded shelfRegistry Unit shelfRequest "Shelf").2 plan hplan
    exact ⟨plan, hplan, fun db batch w => hcheck.1 ▸ hspends db batch w, hcheck.2, hnodup⟩
  · cases hcheck

end EntityGraph
