import EntityGraph.Proofs.Load.Atomic
import EntityGraph.Proofs.Load.Linked

/-!
# What a failure leaves above it

When a load fails below a relation whose rows were fetched, the parents hold these rows: they hold
what they would hold if the load had stopped at the relation, up to what was loaded below. This is
so for relations that assign their rows before anything below them is loaded. A relation to owners
assigns at its end, so a failure below owners leaves the relation as it was
(`loadNodes_retains`, `loadPaths_drops_owner`).
-/

namespace EntityGraph

open Sql (Statement)

/-- A node without the nodes below it. -/
def PathNode.alone (node : PathNode) : PathNode := { node with children := [] }

/-- A relation holds the same entities, which may have relations loaded; nothing else changed. -/
def Retains (target : Schema) (slot : Nat) (e e' : Entity) : Prop :=
  List.Forall₂ target.Keeps (e.children slot) (e'.children slot) ∧
    e' = e.setChildren slot (e'.children slot)

namespace Plan

open Run

variable {reg : Registry} {σ : Type} {db : Database σ} {plan : Plan} {nodes : List PathNode}
  {node : PathNode} {type type' : String} {batch parents es : List Entity}
  {w w₁ w₂ : World reg σ} {back : List Entity → List Entity} {slots : Option (List Nat)}
  {info : RelationInfo} {why : Error}

/-- A relation that assigns its rows first fetches them without regard to what is below. -/
theorem stage_alone (h : ∀ j, plan.descriptor? type node ≠ some (.morphTo j))
    (descend descend' : String → List Entity → Run reg σ (List Entity)) :
    plan.stage db descend node.alone type parents = plan.stage db descend' node type parents := by
  have halone : plan.descriptor? type node.alone = plan.descriptor? type node := rfl
  unfold stage
  rw [halone]
  cases hd : plan.descriptor? type node with
  | none => rfl
  | some d =>
    cases d with
    | morphTo j => exact absurd hd (h j)
    | _ => rfl

/-- Rows can be staged only if their type has a schema. -/
theorem schema_of_stage {descend : String → List Entity → Run reg σ (List Entity)}
    {kind : RelationKind} {target : String} {rows : List (Nat × Entity)}
    (h : (plan.stage db descend node type parents).run w = (.ok (info, .rows kind target rows), w₁))
    (hrows : rows ≠ []) : ∃ t, reg.schema target = .ok t := by
  obtain ⟨d, hd, htarget⟩ := rowType_of_stage h
  cases d with
  | morphTo j => cases htarget
  | belongsToMany j =>
    rw [stage_of_pivot hd] at h
    obtain ⟨s, w₂, -, h⟩ := bind_eq_ok h
    obtain ⟨info', w₃, -, h⟩ := bind_eq_ok h
    obtain ⟨staged, w₄, hstaged, h⟩ := bind_eq_ok h
    cases h
    obtain ⟨_, _, -, -, ⟨-, hnil, -⟩ | ⟨-, _, _, _, -, -, -, hcases⟩⟩ := stagePivot_eq_ok hstaged
    · exact absurd hnil hrows
    · obtain ⟨-, hnil, -⟩ | ⟨-, t, _, hselected, -⟩ := hcases
      · exact absurd hnil hrows
      · exact ⟨t, hselected.schema_eq⟩
  | hasOne j | hasMany j | belongsTo j | morphOne j | morphMany j =>
    rw [stage_of_join hd rfl] at h
    obtain ⟨s, w₂, -, h⟩ := bind_eq_ok h
    obtain ⟨info', w₃, -, h⟩ := bind_eq_ok h
    obtain ⟨staged, w₄, hstaged, h⟩ := bind_eq_ok h
    cases h
    obtain ⟨_, _, -, -, ⟨-, hnil, -⟩ | ⟨-, t, _, hfetched, -⟩⟩ := stageKeyed_eq_ok hstaged
    · exact absurd hnil hrows
    · exact ⟨t, hfetched.schema_eq⟩

/-- What is put back after work below is the entities that were assigned. -/
theorem forall₂_retains {target : Schema} {slot : Nat} {cs : List Entity}
    (h : List.Forall₂ target.Keeps (gather slot es) cs) :
    List.Forall₂ (Retains target slot) es (scatter slot es cs) := by
  refine (forall₂_scatter h).imp fun e e' he => ?_
  obtain ⟨cs, hcs, rfl⟩ := he
  rw [Retains, Row.children_setChildren hcs.length_eq.symm]
  exact ⟨hcs, rfl⟩

/-- A failed relation to owners has assigned nothing. -/
theorem loadNode_failed_owners {j : OwnerJoin}
    (hd : plan.descriptor? type node = some (.morphTo j))
    (hfail : plan.loadNode db node type parents w = (⟨es, some why⟩, w₁)) : es = parents := by
  rcases hstage : (plan.stage db (plan.below db node) node type parents).run w with
    ⟨why' | ⟨info, ⟨kind, target, rows⟩ | owners⟩, w₂⟩
  · rw [loadNode_error hstage] at hfail
    cases hfail
    rfl
  · obtain ⟨d, hd', htarget⟩ := rowType_of_stage hstage
    rw [hd] at hd'
    cases hd'
    cases htarget
  · rw [loadNode_owners hstage] at hfail
    cases hfail

/-- **A relation that assigns its rows first keeps them when something below it fails.** Either its
own rows could not be had, and then it fails by itself in the same way and has assigned nothing; or
by itself it is loaded, and the parents hold what they hold then. -/
theorem loadNode_failed_rows (hd : ∀ j, plan.descriptor? type node ≠ some (.morphTo j))
    (hfail : plan.loadNode db node type parents w = (⟨es, some why⟩, w₁)) :
    (plan.loadNode db node.alone type parents w = (⟨parents, some why⟩, w₁) ∧ es = parents) ∨
      ∃ es₀ w₀ s info target, plan.loadNode db node.alone type parents w = (⟨es₀, none⟩, w₀) ∧
        reg.schema type = .ok s ∧ relation s node = .ok info ∧
        List.Forall₂ (Retains target info.position) es₀ es := by
  rcases hstage : (plan.stage db (plan.below db node) node type parents).run w with
    ⟨why' | ⟨info, staged⟩, w₂⟩
  · have halone := hstage
    rw [← stage_alone hd (plan.below db node.alone)] at halone
    rw [loadNode_error hstage] at hfail
    cases hfail
    exact .inl ⟨loadNode_error halone, rfl⟩
  · have halone := hstage
    rw [← stage_alone hd (plan.below db node.alone)] at halone
    obtain ⟨s, hs, hrelation⟩ := relation_of_stage hstage
    cases staged with
    | owners owners =>
      rw [loadNode_owners hstage] at hfail
      cases hfail
    | rows kind target rows =>
      rw [loadNode_rows hstage] at hfail
      dsimp only at hfail
      have hrows : rows ≠ [] := by
        rintro rfl
        rw [gather_commit_nil, loadNodes_nil_batch] at hfail
        cases hfail
      obtain ⟨t, ht⟩ := schema_of_stage hstage hrows
      have hkeeps := loadNodes_keeps db plan ht node.children
        (gather info.position ((Staged.rows kind target rows).commit info.position parents)) w₂
      obtain ⟨rfl, -⟩ := Loaded.mk.inj (Prod.mk.inj hfail).1
      exact .inr ⟨_, w₂, s, info, t, loadNode_leaf rfl halone, hs, hrelation,
        forall₂_retains hkeeps⟩

/-- **What a failure leaves of the relations above it.** Loading nodes comes to a node, and fails
there or below. What the node leaves of its parents is put back and found where the parents are
held. If the node leads to owners, its parents are as they were. Otherwise they hold what they hold
if the load stops at the node, and they are as they were only if it fails there as well. -/
theorem loadNodes_retains
    (h : Starts db plan nodes type batch w node type' parents w₁ back slots)
    (hfail : plan.loadNode db node type' parents w₁ = (⟨es, some why⟩, w₂)) :
    plan.loadNodes db nodes type batch w = (⟨back es, some why⟩, w₂) ∧
      (∀ held ∈ slots, gatherAll held (back es) = es) ∧
      (∀ j, plan.descriptor? type' node = some (.morphTo j) → es = parents) ∧
      ((∀ j, plan.descriptor? type' node ≠ some (.morphTo j)) →
        (plan.loadNode db node.alone type' parents w₁ = (⟨parents, some why⟩, w₂) ∧
          es = parents) ∨
        ∃ es₀ w₀ s info target,
          plan.loadNode db node.alone type' parents w₁ = (⟨es₀, none⟩, w₀) ∧
          reg.schema type' = .ok s ∧ relation s node = .ok info ∧
          List.Forall₂ (Retains target info.position) es₀ es) := by
  have hlength := length_loadNode db plan node type' parents w₁
  rw [hfail] at hlength
  exact ⟨h.loadNodes_of_failed hfail, h.gatherAll_back hlength,
    fun j hd => loadNode_failed_owners hd hfail, fun hd => loadNode_failed_rows hd hfail⟩

/-- The posts of an author stay when their comments fail. -/
theorem loadNodes_retains_library :
    let w : World libraryRegistry Unit := { catalog := .empty _ {}, state := () }
    ∃ es why w₂ es₀ w₀ target, ∃ info : RelationInfo,
      libraryPlan.loadNodes libraryDatabase libraryPlan.nodes "Author" [noteAuthor] w
        = (⟨es, some why⟩, w₂) ∧
      libraryPlan.loadNode libraryDatabase postsNode.alone "Author" [noteAuthor] w
        = (⟨es₀, none⟩, w₀) ∧
      List.Forall₂ (Retains target info.position) es₀ es := by
  intro w
  have hfails : (libraryPlan.loadNode libraryDatabase postsNode "Author" [noteAuthor]
      w).1.failure.isSome = true := by decide +kernel
  have halone : (libraryPlan.loadNode libraryDatabase postsNode.alone "Author" [noteAuthor]
      w).1.failure.isSome = false := by decide +kernel
  have howners : ∀ j, libraryPlan.descriptor? "Author" postsNode ≠ some (.morphTo j) := by
    intro j hj
    cases hj
  have hstarts : Starts libraryDatabase libraryPlan libraryPlan.nodes "Author" [noteAuthor] w
      postsNode "Author" [noteAuthor] w id (some []) := .here (by simp)
  rcases hload : libraryPlan.loadNode libraryDatabase postsNode "Author" [noteAuthor] w with
    ⟨⟨es, _ | why⟩, w₂⟩
  · rw [hload] at hfails
    cases hfails
  · obtain ⟨hnodes, -, -, hrows⟩ := loadNodes_retains hstarts hload
    obtain ⟨hsame, -⟩ | ⟨es₀, w₀, s, info, target, hstop, -, -, hretains⟩ := hrows howners
    · rw [hsame] at halone
      cases halone
    · exact ⟨es, why, w₂, es₀, w₀, target, info, hnodes, hstop, hretains⟩

end Plan

/-! A comment on a post. The post is found, but its author is not. -/

def replyRegistry : Registry :=
  ⟨[{ type := "Comment", table := some "comments", members :=
        [.column "id" (.int .i32) (some "id") true false,
          .column "subject_type" .text (some "subject_type") false false,
          .column "subject_id" (.int .i32) (some "subject_id") false false,
          .relation "subject" (.morphTo "subject")
            { name := some "Subject", targets := [("Post", some "post")] }] },
    { type := "Post", table := some "posts", members :=
        [.column "id" (.int .i32) (some "id") true false,
          .column "author_id" (.int .i32) (some "author_id") false false,
          .relation "author" (.belongsTo "Author") { name := some "Author" }] },
    { type := "Author", table := some "authors", members :=
        [.column "id" (.int .i32) (some "id") true false] }]⟩

def replyDatabase : Database Unit where
  answer s _ :=
    match s with
    | .select table _ _ =>
      if table = "authors" then (.error .poolClosed, ())
      else (.ok [⟨[("id", .int 5), ("author_id", .int 9)]⟩], ())
    | _ => (.ok [], ())

def reply : Entity :=
  ⟨"Comment", [.cell ⟨.int .i32, Column.IntType.ofInt .i32 1⟩, .cell ⟨.text, "post"⟩,
    .cell ⟨.int .i32, Column.IntType.ofInt .i32 5⟩, .owner none]⟩

/-- The discriminators of the owners that a relation holds. -/
def ownersAt (slot : Nat) (es : List Entity) : List (Option String) :=
  es.map fun e => match e.item? slot with
    | some (.owner (some (d, _))) => some d
    | _ => none

/-- The post of the comment is fetched and read in either load, and is lost where its author
fails. -/
theorem loadPaths_drops_owner :
    let w : World replyRegistry Unit := { catalog := .empty _ {}, state := () }
    let posts : Statement :=
      .select "posts" ["id", "author_id"] { filters := [.inList "id" [.int 5]] }
    let authors : Statement := .select "authors" ["id"] { filters := [.inList "id" [.int 9]] }
    let stopped := loadPaths replyDatabase ["Subject"] "Comment" [reply] w
    let failed := loadPaths replyDatabase ["Subject.Author"] "Comment" [reply] w
    stopped.1.failure = none ∧ stopped.2.issued = [posts] ∧
      ownersAt 3 stopped.1.entities = [some "post"] ∧
      failed.1.failure = some (.query .relation authors .poolClosed) ∧
      failed.2.issued = [posts, authors] ∧ ownersAt 3 failed.1.entities = [none] := by
  decide +kernel

end EntityGraph
