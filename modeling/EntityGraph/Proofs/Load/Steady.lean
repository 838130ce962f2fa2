import EntityGraph.Proofs.Load.Levels
import EntityGraph.Proofs.Load.Linked
import EntityGraph.Proofs.Load.Owned

/-!
# Loads come to the same again

Over a database without a memory a load comes to the same whatever the catalog has seen before: it
issues the same statements and succeeds with the same entities, or fails with the same error
(`firm_preload`). A load that may fail is a run with the steps of `ofLoaded_loadNode` and
`ofLoaded_loadNodes_cons`.
-/

namespace EntityGraph

namespace Plan

open Run

variable {reg : Registry} {σ : Type} {db : Database σ}

/-! ### The statements of a level -/

theorem firm_mapped (s : Schema) (node : PathNode) (column : String) :
    Firm (mapped s node column : Run reg σ ColumnInfo) := by
  unfold mapped
  cases s.column? column with
  | some c => exact Firm.pure c
  | none => exact Firm.throw _

theorem firm_projection (node : PathNode) {s : Schema} (hs : reg.schema s.type = .ok s) :
    Firm (projection node s : Run reg σ (List String)) := by
  unfold projection
  cases node.columns with
  | none => exact Firm.pure _
  | some columns => exact firm_mapM (firm_resolveOrKeep hs) columns

theorem firm_correlate (index : KeyIndex) (s : Schema) (column : String) (rows : List Entity) :
    Firm (correlate index s column rows : Run reg σ (List (Nat × Entity))) := by
  unfold correlate
  cases s.column? column with
  | some c => exact firm_ofExcept _
  | none => exact Firm.pure []

theorem firm_select (hdb : db.IsStateless) (plan : Plan) (node : PathNode) (type table : String)
    (scope : Sql.Scope) : Firm (plan.select db node type table scope : Run reg σ _) := by
  refine (firm_checkNames _).bind fun _ => (firm_schema type).bind fun s => ?_
  have hself : reg.schema s.val.type = .ok s.val := by
    rw [Registry.type_eq s.property]
    exact s.property
  exact (firm_projection node hself).bind fun columns => (firm_checkName table).bind fun _ =>
    (firm_issue hdb _ _).bind fun _ => firm_ofExcept _

theorem firm_stageKeyed (hdb : db.IsStateless) (plan : Plan) (node : PathNode)
    (kind : RelationKind) (j : Join) (s : Schema) (parents : List Entity) :
    Firm (plan.stageKeyed db node kind j s parents : Run reg σ _) := by
  refine (firm_mapped s node _).bind fun column => (firm_ofExcept _).bind fun index => ?_
  split
  · exact (firm_emit _).bind fun _ => Firm.pure []
  · exact (firm_select hdb plan node _ _ _).bind fun _ => (firm_schema _).bind fun _ =>
      (firm_correlate index _ _ _).bind fun _ => (firm_emit _).bind fun _ => Firm.pure _

theorem firm_selectPivot (hdb : db.IsStateless) (j : PivotJoin) (values : List Sql.Value) :
    Firm (selectPivot db j values : Run reg σ (List Sql.Record)) :=
  (firm_checkName _).bind fun _ => firm_issue hdb _ _

theorem firm_stagePivot (hdb : db.IsStateless) (plan : Plan) (node : PathNode) (j : PivotJoin)
    (s : Schema) (parents : List Entity) :
    Firm (plan.stagePivot db node j s parents : Run reg σ _) := by
  refine (firm_mapped s node _).bind fun column => (firm_ofExcept _).bind fun index => ?_
  split
  · exact (firm_emit _).bind fun _ => Firm.pure []
  · refine (firm_selectPivot hdb j _).bind fun rows => (firm_ofExcept _).bind fun links => ?_
    split
    · exact (firm_emit _).bind fun _ => Firm.pure []
    · exact (firm_select hdb plan node _ _ _).bind fun _ => (firm_schema _).bind fun _ =>
        (firm_correlate links _ _ _).bind fun _ => (firm_emit _).bind fun _ => Firm.pure _

/-! ### Owners -/

theorem firm_ownerColumn (node : PathNode) (j : OwnerJoin) {type : String} {s : Schema}
    (hs : reg.schema type = .ok s) : Firm (ownerColumn node j s : Run reg σ ColumnInfo) := by
  have hself : reg.schema s.type = .ok s := by rwa [Registry.type_eq hs]
  unfold ownerColumn
  cases j.ownerKey with
  | none => exact firm_mapped s node _
  | some key =>
    refine (firm_resolve hself key).bind fun column => ?_
    cases column with
    | none => exact Firm.throw _
    | some column => exact firm_mapped s node column

section
variable {descend : String → List Entity → Run reg σ (List Entity)}

theorem firm_stageOwners (hdb : db.IsStateless) (hdescend : ∀ type es, Firm (descend type es))
    (plan : Plan) (node : PathNode) (j : OwnerJoin) (discriminator : String) (index : KeyIndex) :
    Firm (plan.stageOwners db descend node j discriminator index) := by
  unfold stageOwners
  cases j.types.get? discriminator with
  | none => exact (firm_emit _).bind fun _ => Firm.pure []
  | some type =>
    refine (firm_schema type).bind fun s => ?_
    refine (firm_ownerColumn node j s.property).bind fun column => ?_
    exact (firm_select hdb plan node _ _ _).bind fun rows => (hdescend type rows).bind fun _ =>
      (firm_ofExcept _).bind fun _ => (firm_emit _).bind fun _ => Firm.pure _

theorem firm_stageGroups (hdb : db.IsStateless) (hdescend : ∀ type es, Firm (descend type es))
    (plan : Plan) (node : PathNode) (j : OwnerJoin) (groups : List (String × KeyIndex)) :
    Firm (plan.stageGroups db descend node j groups) := by
  induction groups with
  | nil => exact Firm.pure []
  | cons group rest ih =>
    exact (firm_stageOwners hdb hdescend plan node j group.1 group.2).bind fun _ =>
      ih.bind fun _ => Firm.pure _

/-! ### Any relation -/

theorem firm_stage (hdb : db.IsStateless) (hdescend : ∀ type es, Firm (descend type es))
    (plan : Plan) (node : PathNode) (type : String) (parents : List Entity) :
    Firm (plan.stage db descend node type parents) := by
  refine (firm_schema type).bind fun s => (firm_ofExcept _).bind fun info => ?_
  split
  · exact Firm.throw _
  · exact (firm_stagePivot hdb plan node _ s parents).bind fun _ => Firm.pure _
  · refine (firm_mapped _ node _).bind fun _ => (firm_mapped _ node _).bind fun _ => ?_
    exact (firm_ofExcept _).bind fun _ =>
      (firm_stageGroups hdb hdescend plan node _ _).bind fun _ => Firm.pure _
  all_goals exact (firm_stageKeyed hdb plan node _ _ s parents).bind fun _ => Firm.pure _

end

/-! ### Loads as runs -/

/-- Commits a staged level and loads what is requested below it. -/
def settle (db : Database σ) (plan : Plan) (node : PathNode) (parents : List Entity) :
    RelationInfo × Staged → Run reg σ (List Entity)
  | (info, .owners owners) => pure ((Staged.owners owners).commit info.position parents)
  | (info, .rows kind target rows) => do
    let committed := (Staged.rows kind target rows).commit info.position parents
    let children ← plan.below db node target (gather info.position committed)
    pure (scatter info.position committed children)

theorem ofLoaded_loadNode (db : Database σ) (plan : Plan) (node : PathNode) (type : String)
    (parents : List Entity) :
    (Run.ofLoaded (plan.loadNode db node type parents) : Run reg σ (List Entity))
      = plan.stage db (plan.below db node) node type parents >>= plan.settle db node parents := by
  refine ExceptT.ext (funext fun w => ?_)
  rcases hstage : (plan.stage db (plan.below db node) node type parents).run w with
    ⟨why | ⟨info, ⟨kind, target, rows⟩ | owners⟩, w₁⟩
  · rw [run_bind_of_error hstage, run_ofLoaded_of_failure (loadNode_error hstage)]
  · rw [run_bind_of_ok hstage, run_ofLoaded, loadNode_rows hstage, settle, run_bind]
    dsimp only
    rcases hbelow : plan.loadNodes db node.children target
      (gather info.position ((Staged.rows kind target rows).commit info.position parents)) w₁
      with ⟨⟨children, _ | why⟩, w₂⟩
    · rw [run_ofLoaded_of_ok hbelow]
      rfl
    · rw [run_ofLoaded_of_failure hbelow]
      rfl
  · rw [run_bind_of_ok hstage, run_ofLoaded_of_ok (loadNode_owners hstage)]
    rfl

theorem ofLoaded_loadNodes_nil (db : Database σ) (plan : Plan) (type : String)
    (batch : List Entity) :
    (Run.ofLoaded (plan.loadNodes db [] type batch) : Run reg σ (List Entity)) = pure batch := by
  rw [loadNodes]
  rfl

theorem ofLoaded_loadNodes_nil_batch (db : Database σ) (plan : Plan) (nodes : List PathNode)
    (type : String) :
    (Run.ofLoaded (plan.loadNodes db nodes type []) : Run reg σ (List Entity)) = pure [] :=
  ExceptT.ext (funext fun w => run_ofLoaded_of_ok (loadNodes_nil_batch nodes type w))

theorem ofLoaded_loadNodes_cons (db : Database σ) (plan : Plan) (node : PathNode)
    (rest : List PathNode) (type : String) {batch : List Entity} (hbatch : batch ≠ []) :
    (Run.ofLoaded (plan.loadNodes db (node :: rest) type batch) : Run reg σ (List Entity))
      = Run.ofLoaded (plan.loadNode db node type batch) >>= fun es =>
        Run.ofLoaded (plan.loadNodes db rest type es) := by
  refine ExceptT.ext (funext fun w => ?_)
  rw [run_ofLoaded, loadNodes_cons, if_neg (by simpa using hbatch)]
  rcases hnode : plan.loadNode db node type batch w with ⟨⟨es, _ | why⟩, w₁⟩
  · rw [run_bind_of_ok (run_ofLoaded_of_ok hnode)]
    rfl
  · rw [run_bind_of_error (run_ofLoaded_of_failure hnode)]
    rfl

/-! ### Loads are firm -/

theorem firm_loadNodes_of {plan : Plan} {nodes : List PathNode}
    (hnodes : ∀ node ∈ nodes, ∀ type parents,
      Firm (Run.ofLoaded (plan.loadNode db node type parents) : Run reg σ (List Entity)))
    (type : String) (batch : List Entity) :
    Firm (Run.ofLoaded (plan.loadNodes db nodes type batch) : Run reg σ (List Entity)) := by
  induction nodes generalizing batch with
  | nil =>
    rw [ofLoaded_loadNodes_nil]
    exact Firm.pure batch
  | cons node rest ih =>
    cases hbatch : batch with
    | nil =>
      rw [ofLoaded_loadNodes_nil_batch]
      exact Firm.pure []
    | cons e es =>
      rw [ofLoaded_loadNodes_cons db plan node rest type (List.cons_ne_nil e es)]
      exact (hnodes node (by simp) type _).bind
        (ih fun node h => hnodes node (List.mem_cons_of_mem _ h))

/-- A node is loaded the same way again, with all that is below it. -/
theorem firm_loadNode (hdb : db.IsStateless) (plan : Plan) (node : PathNode) (type : String)
    (parents : List Entity) :
    Firm (Run.ofLoaded (plan.loadNode db node type parents) : Run reg σ (List Entity)) := by
  induction node using PathNode.induct generalizing type parents with
  | mk name path columns children ih =>
    have hbelow := fun type es => firm_loadNodes_of ih type es
    rw [ofLoaded_loadNode]
    refine (firm_stage hdb hbelow plan _ type parents).bind fun staged => ?_
    match staged with
    | (info, .owners owners) => exact Firm.pure _
    | (info, .rows kind target rows) => exact (hbelow target _).bind fun _ => Firm.pure _

theorem firm_loadNodes (hdb : db.IsStateless) (plan : Plan) (nodes : List PathNode)
    (type : String) (batch : List Entity) :
    Firm (Run.ofLoaded (plan.loadNodes db nodes type batch) : Run reg σ (List Entity)) :=
  firm_loadNodes_of (fun node _ => firm_loadNode hdb plan node) type batch

end Plan

open Run

variable {reg : Registry} {σ : Type} {db : Database σ}

theorem ofLoaded_preload (db : Database σ) {eager : Eager} (type : String) {batch : List Entity}
    (hbatch : batch ≠ []) (heager : eager.isEmpty = false) :
    (Run.ofLoaded (preload db eager type batch) : Run reg σ (List Entity))
      = Plan.make eager type >>= fun plan =>
        Run.ofLoaded (plan.loadNodes db plan.nodes type batch) := by
  refine ExceptT.ext (funext fun w => ?_)
  rcases hmake : (Plan.make eager type).run w with ⟨why | plan, w₁⟩
  · rw [run_bind_of_error hmake,
      run_ofLoaded_of_failure (preload_of_error hmake db hbatch heager)]
  · rw [run_bind_of_ok hmake, run_ofLoaded, preload_of_ok hmake db hbatch heager]
    rfl

end EntityGraph
