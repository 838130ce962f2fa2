import EntityGraph.Proofs.Load.Owned
import EntityGraph.Proofs.Load.Paths

/-!
# Where a load fails

A load comes to its nodes one after the other, each with a batch of parents: the batch of the
request, or the entities that a level above has just assigned or found (`Starts`). If the work of a
node fails, the load ends there and then, and every parent of the node is put back as it was when
the node was started (`loadNodes_atomic`). There is no other way for a load to fail
(`exists_starts_of_failed`).
-/

namespace EntityGraph

namespace Plan

open Run

variable {reg : Registry} {σ : Type}

/-! ### The nodes that a load comes to -/

/-- Looking up owners comes to load what is requested below the rows of a type. -/
inductive Descends (db : Database σ) (plan : Plan) (node : PathNode) (j : OwnerJoin) :
    List (String × KeyIndex) → World reg σ → String → List Entity → World reg σ → Prop
  | first {d type : String} {index : KeyIndex} {rest : List (String × KeyIndex)}
    {w w₁ w₂ w₃ : World reg σ} {s : { s : Schema // reg.schema type = .ok s }} {column : ColumnInfo}
    {rows : List Entity} (htype : j.types.get? d = some type)
    (hschema : (schema type).run w = (.ok s, w₁))
    (hcolumn : (ownerColumn node j s).run w₁ = (.ok column, w₂))
    (hrows : (plan.select db node type s.val.table (among column.column index.values)).run w₂
      = (.ok rows, w₃)) : Descends db plan node j ((d, index) :: rest) w type rows w₃
  | later {d type : String} {index : KeyIndex} {rest : List (String × KeyIndex)}
    {w w₁ w₂ : World reg σ} {staged : List (Nat × (String × Entity))} {rows : List Entity}
    (hfirst : (plan.stageOwners db (plan.below db node) node j d index).run w = (.ok staged, w₁))
    (h : Descends db plan node j rest w₁ type rows w₂) :
    Descends db plan node j ((d, index) :: rest) w type rows w₂

/-- The entities below a batch that are held by the relations at some slots, level by level. -/
def gatherAll : List Nat → List Entity → List Entity
  | [], es => es
  | slot :: slots, es => gatherAll slots (gather slot es)

/-- Loading nodes onto a batch comes to a node with some parents. The parents are put back into the
batch by `back`. There they are held at `slots`, unless they are below owners. -/
inductive Starts (db : Database σ) (plan : Plan) : List PathNode → String → List Entity →
    World reg σ → PathNode → String → List Entity → World reg σ →
    (List Entity → List Entity) → Option (List Nat) → Prop
  | here {node : PathNode} {rest : List PathNode} {type : String} {batch : List Entity}
    {w : World reg σ} (hbatch : batch ≠ []) :
    Starts db plan (node :: rest) type batch w node type batch w id (some [])
  /-- The nodes before it were loaded. -/
  | next {first node : PathNode} {rest : List PathNode} {type type' : String}
    {batch done parents : List Entity} {w w₁ w₂ : World reg σ} {back : List Entity → List Entity}
    {slots : Option (List Nat)} (hbatch : batch ≠ [])
    (hfirst : plan.loadNode db first type batch w = (⟨done, none⟩, w₁))
    (h : Starts db plan rest type done w₁ node type' parents w₂ back slots) :
    Starts db plan (first :: rest) type batch w node type' parents w₂ back slots
  /-- It is requested below a node that has assigned its rows. -/
  | under {above node : PathNode} {rest : List PathNode} {type type' target : String}
    {batch parents : List Entity} {w w₁ w₂ : World reg σ} {back : List Entity → List Entity}
    {slots : Option (List Nat)} {info : RelationInfo} {kind : RelationKind}
    {rows : List (Nat × Entity)} (hbatch : batch ≠ [])
    (hstage : (plan.stage db (plan.below db above) above type batch).run w
      = (.ok (info, .rows kind target rows), w₁))
    (h : Starts db plan above.children target
      (gather info.position ((Staged.rows kind target rows).commit info.position batch)) w₁ node
      type' parents w₂ back slots) :
    Starts db plan (above :: rest) type batch w node type' parents w₂
      (fun es =>
        scatter info.position ((Staged.rows kind target rows).commit info.position batch) (back es))
      (slots.map (info.position :: ·))
  /-- It is requested below owners, which no parent holds yet. -/
  | owners {above node : PathNode} {rest : List PathNode} {type type' target : String}
    {batch rows parents : List Entity} {w w₁ w₂ w₃ : World reg σ}
    {back : List Entity → List Entity} {slots : Option (List Nat)} {info : RelationInfo}
    {j : OwnerJoin} {s : { s : Schema // reg.schema type = .ok s }}
    {typeColumn idColumn : ColumnInfo} {groups : ByName KeyIndex} (hbatch : batch ≠ [])
    (hd : plan.descriptor? type above = some (.morphTo j))
    (hschema : (schema type).run w = (.ok s, w₁)) (hinfo : relation s above = .ok info)
    (htype : s.val.column? j.typeColumn = some typeColumn)
    (hid : s.val.column? j.idColumn = some idColumn)
    (hgroups : OwnerJoin.groups typeColumn idColumn batch = .ok groups)
    (hrows : Descends db plan above j groups.entries w₁ target rows w₂)
    (h : Starts db plan above.children target rows w₂ node type' parents w₃ back slots) :
    Starts db plan (above :: rest) type batch w node type' parents w₃ (fun _ => batch) none

variable {db : Database σ} {plan : Plan} {nodes : List PathNode} {node : PathNode}
  {type type' : String} {batch parents : List Entity} {w w₁ w₂ : World reg σ}
  {back : List Entity → List Entity} {slots : Option (List Nat)}

/-! ### Where the parents stand -/

theorem length_loadNode (db : Database σ) (plan : Plan) (node : PathNode) (type : String)
    (batch : List Entity) (w : World reg σ) :
    (plan.loadNode db node type batch w).1.entities.length = batch.length := by
  rcases hstage : (plan.stage db (plan.below db node) node type batch).run w with
    ⟨why | ⟨info, staged⟩, w₁⟩
  · rw [loadNode_error hstage]
  · cases staged with
    | owners owners => simp [loadNode_owners hstage, Staged.commit]
    | rows kind target rows => simp [loadNode_rows hstage, Staged.commit]

theorem Starts.length_back
    (h : Starts db plan nodes type batch w node type' parents w₁ back slots) {es : List Entity}
    (hes : es.length = parents.length) : (back es).length = batch.length := by
  induction h with
  | here => exact hes
  | @next first _ _ type _ batch _ _ w _ _ _ _ _ hfirst _ ih =>
    have hlength := length_loadNode db plan first type batch w
    rw [hfirst] at hlength
    exact (ih hes).trans hlength
  | under => simp [Staged.commit]
  | owners => rfl

/-- What is put back for the parents of a node is found where they were held. -/
theorem Starts.gatherAll_back
    (h : Starts db plan nodes type batch w node type' parents w₁ back slots) {es : List Entity}
    (hes : es.length = parents.length) : ∀ held ∈ slots, gatherAll held (back es) = es := by
  induction h with
  | here =>
    rintro held ⟨⟩
    rfl
  | next _ _ _ ih => exact ih hes
  | under _ _ h ih =>
    intro held hheld
    obtain ⟨below, hbelow, rfl⟩ := Option.map_eq_some_iff.1 hheld
    rw [gatherAll, gather_scatter (h.length_back hes)]
    exact ih hes below hbelow
  | owners => rintro held ⟨⟩

/-! ### Failing -/

/-- What fails below owners fails the lookup of the owners. -/
theorem Descends.run_stageGroups {j : OwnerJoin} {groups : List (String × KeyIndex)}
    {target : String} {rows es : List Entity} {why : Error}
    (h : Descends db plan node j groups w target rows w₁)
    (hbelow : plan.loadNodes db node.children target rows w₁ = (⟨es, some why⟩, w₂)) :
    (plan.stageGroups db (plan.below db node) node j groups).run w = (.error why, w₂) := by
  induction h with
  | first htype hschema hcolumn hrows =>
    rw [stageGroups]
    refine run_bind_of_error ?_
    unfold stageOwners
    rw [htype]
    dsimp only
    rw [run_bind_of_ok hschema, run_bind_of_ok hcolumn, run_bind_of_ok hrows]
    exact run_bind_of_error (run_ofLoaded_of_failure hbelow)
  | later hfirst _ ih =>
    rw [stageGroups, run_bind_of_ok hfirst]
    exact run_bind_of_error (ih hbelow)

theorem loadNodes_of_failed (hbatch : batch ≠ []) {rest : List PathNode} {es : List Entity}
    {why : Error} (h : plan.loadNode db node type batch w = (⟨es, some why⟩, w₁)) :
    plan.loadNodes db (node :: rest) type batch w = (⟨es, some why⟩, w₁) := by
  rw [loadNodes_cons, if_neg (by simpa using hbatch), h]

/-- **A node that fails ends the load.** What it leaves of its parents is put back. -/
theorem Starts.loadNodes_of_failed {es : List Entity} {why : Error}
    (h : Starts db plan nodes type batch w node type' parents w₁ back slots)
    (hfail : plan.loadNode db node type' parents w₁ = (⟨es, some why⟩, w₂)) :
    plan.loadNodes db nodes type batch w = (⟨back es, some why⟩, w₂) := by
  induction h with
  | here hbatch => exact Plan.loadNodes_of_failed hbatch hfail
  | next hbatch hfirst _ ih =>
    rw [loadNodes_cons, if_neg (by simpa using hbatch), hfirst]
    exact ih hfail
  | under hbatch hstage _ ih =>
    refine Plan.loadNodes_of_failed hbatch ?_
    rw [loadNode_rows hstage]
    simp only [ih hfail]
  | owners hbatch hd hschema hinfo htype hid hgroups hrows _ ih =>
    refine Plan.loadNodes_of_failed hbatch (loadNode_error ?_)
    rw [stage_of_owners hd, run_bind_of_ok hschema, hinfo, run_bind_of_ok (run_ofExcept _ _),
      run_bind_of_ok (run_mapped htype _), run_bind_of_ok (run_mapped hid _), hgroups,
      run_bind_of_ok (run_ofExcept _ _)]
    exact run_bind_of_error (hrows.run_stageGroups (ih hfail))

theorem Starts.loadNodes_eq {why : Error}
    (h : Starts db plan nodes type batch w node type' parents w₁ back slots)
    (hfail : (plan.stage db (plan.below db node) node type' parents).run w₁ = (.error why, w₂)) :
    plan.loadNodes db nodes type batch w = (⟨back parents, some why⟩, w₂) :=
  h.loadNodes_of_failed (loadNode_error hfail)

/-- **The level at which a load fails is as it was before.** The load ends with the error of the
node that failed and in the world in which it failed, so nothing that follows is started. All
parents of the node are put back as they were, and no column of the batch has changed. -/
theorem loadNodes_atomic {why : Error}
    (h : Starts db plan nodes type batch w node type' parents w₁ back slots)
    (hfail : (plan.stage db (plan.below db node) node type' parents).run w₁ = (.error why, w₂)) :
    plan.loadNodes db nodes type batch w = (⟨back parents, some why⟩, w₂) ∧
      (∀ held ∈ slots, gatherAll held (back parents) = parents) ∧
      ∀ s, reg.schema type = .ok s → List.Forall₂ (fun e e' =>
        e'.type = e.type ∧ ∀ c ∈ s.columns, e'.cell? c.path = e.cell? c.path) batch
          (back parents) := by
  have hload := h.loadNodes_eq hfail
  refine ⟨hload, h.gatherAll_back rfl, fun s hs => ?_⟩
  have hkeeps := loadNodes_keeps db plan hs nodes batch w
  rw [hload] at hkeeps
  exact hkeeps.imp fun e e' h => ⟨h.type_eq, fun c hc => h.cell?_eq hs hc⟩

/-! The posts of an author, their comments, and notes that were loaded before. The comments fail. -/

def libraryRegistry : Registry :=
  ⟨[{ type := "Author", table := some "authors", members :=
        [.column "id" (.int .i64) (some "id") true false,
          .relation "posts" (.hasMany "Post") { name := some "Posts" },
          .relation "notes" (.hasMany "Note") { name := some "Notes" }] },
    { type := "Post", table := some "posts", members :=
        [.column "id" (.int .i64) (some "id") true false,
          .column "author_id" (.int .i64) (some "author_id") false false,
          .relation "comments" (.hasMany "Comment") { name := some "Comments" }] },
    { type := "Comment", table := some "comments", members :=
        [.column "id" (.int .i64) (some "id") true false,
          .column "post_id" (.int .i64) (some "post_id") false false] },
    { type := "Note", table := some "notes", members :=
        [.column "author_id" (.int .i64) (some "author_id") true false] }]⟩

def libraryDatabase : Database Unit where
  answer s _ :=
    match s with
    | .select table _ _ =>
      if table = "comments" then (.error .poolClosed, ())
      else (.ok [⟨[("id", .int 3), ("author_id", .int 1)]⟩], ())
    | _ => (.ok [], ())

def commentsNode : PathNode := ⟨"Comments", "Posts.Comments", none, []⟩

def postsNode : PathNode := ⟨"Posts", "Posts", none, [commentsNode]⟩

def libraryPlan : Plan where
  eager := {}
  nodes := [postsNode, ⟨"Notes", "Notes", none, []⟩]
  descriptors :=
    [(("Author", "Posts"), .hasMany ⟨"Post", "posts", "id", "author_id", none⟩),
      (("Post", "Posts.Comments"), .hasMany ⟨"Comment", "comments", "id", "post_id", none⟩),
      (("Author", "Notes"), .hasMany ⟨"Note", "notes", "id", "author_id", none⟩)]

/-- An author without posts and with a note. -/
def noteAuthor : Entity :=
  let id : Item := .cell ⟨.int .i64, Column.IntType.ofInt .i64 1⟩
  ⟨"Author", [id, .many [], .many [⟨"Note", [id]⟩]]⟩

theorem loadNodes_atomic_library :
    let w : World libraryRegistry Unit := { catalog := .empty _ {}, state := () }
    ∃ parents back slot why w₁ w₂, Starts libraryDatabase libraryPlan libraryPlan.nodes "Author"
        [noteAuthor] w commentsNode "Post" parents w₁ back (some [slot]) ∧
      libraryPlan.loadNodes libraryDatabase libraryPlan.nodes "Author" [noteAuthor] w
        = (⟨back parents, some why⟩, w₂) ∧
      gather slot (back parents) = parents ∧
      ∀ s, libraryRegistry.schema "Author" = .ok s → List.Forall₂ (fun e e' =>
        e'.type = e.type ∧ ∀ c ∈ s.columns, e'.cell? c.path = e.cell? c.path) [noteAuthor]
          (back parents) := by
  intro w
  let comments (es : List Entity) : Run libraryRegistry Unit (RelationInfo × Staged) :=
    libraryPlan.stage libraryDatabase (libraryPlan.below libraryDatabase commentsNode) commentsNode
      "Post" es
  have hcheck : (match (libraryPlan.stage libraryDatabase
      (libraryPlan.below libraryDatabase postsNode) postsNode "Author" [noteAuthor]).run w with
    | (.ok (info, .rows kind target rows), w₁) =>
      let es := gather info.position
        ((Staged.rows kind target rows).commit info.position [noteAuthor])
      decide (target = "Post") && !es.isEmpty && !((comments es).run w₁).1.isOk
    | _ => false) = true := by decide +kernel
  split at hcheck
  · next info kind target rows w₁ hstage =>
    simp only [Bool.and_eq_true, decide_eq_true_eq, Bool.not_eq_true'] at hcheck
    obtain ⟨⟨rfl, hne⟩, hfails⟩ := hcheck
    rcases hcomments : (comments (gather info.position
      ((Staged.rows kind "Post" rows).commit info.position [noteAuthor]))).run w₁ with
      ⟨why | staged, w₂⟩
    · have hhere : Starts libraryDatabase libraryPlan postsNode.children "Post" _ w₁ commentsNode
          "Post" _ w₁ id (some []) := .here (by simpa using hne)
      have hstarts : Starts libraryDatabase libraryPlan libraryPlan.nodes "Author" [noteAuthor] w
          commentsNode "Post" _ w₁ _ (some [info.position]) := .under (by simp) hstage hhere
      obtain ⟨hload, hheld, hcolumns⟩ := loadNodes_atomic hstarts hcomments
      exact ⟨_, _, info.position, why, w₁, w₂, hstarts, hload, hheld _ rfl, hcolumns⟩
    · rw [hcomments] at hfails
      cases hfails
  · cases hcheck

theorem exists_starts_of {nodes : List PathNode}
    (hnodes : ∀ node ∈ nodes, ∀ type batch (w : World reg σ) es why w₂ rest, batch ≠ [] →
      plan.loadNode db node type batch w = (⟨es, some why⟩, w₂) →
      ∃ node' type' parents w₁ back slots,
        Starts db plan (node :: rest) type batch w node' type' parents w₁ back slots ∧
        (plan.stage db (plan.below db node') node' type' parents).run w₁ = (.error why, w₂))
    {es : List Entity} {why : Error}
    (h : plan.loadNodes db nodes type batch w = (⟨es, some why⟩, w₂)) :
    ∃ node' type' parents w₁ back slots,
      Starts db plan nodes type batch w node' type' parents w₁ back slots ∧
      (plan.stage db (plan.below db node') node' type' parents).run w₁ = (.error why, w₂) := by
  induction nodes generalizing batch w with
  | nil =>
    rw [loadNodes] at h
    cases h
  | cons node rest ih =>
    rw [loadNodes_cons] at h
    split at h
    · cases h
    · next hbatch =>
      have hne : batch ≠ [] := by simpa using hbatch
      rcases hload : plan.loadNode db node type batch w with ⟨⟨done, _ | why'⟩, w₃⟩
      · rw [hload] at h
        obtain ⟨node', type', parents, w₁, back, slots, hstarts, hfail⟩ :=
          ih (fun node hnode => hnodes node (List.mem_cons_of_mem _ hnode)) h
        exact ⟨node', type', parents, w₁, back, slots, .next hne hload hstarts, hfail⟩
      · rw [hload] at h
        cases h
        exact hnodes node (by simp) type batch w _ _ _ rest hne hload

theorem exists_starts_of_loadNode (node : PathNode) (type : String) (batch : List Entity)
    (w : World reg σ) (es : List Entity) (why : Error) (w₂ : World reg σ) (rest : List PathNode)
    (hbatch : batch ≠ []) (h : plan.loadNode db node type batch w = (⟨es, some why⟩, w₂)) :
    ∃ node' type' parents w₁ back slots,
      Starts db plan (node :: rest) type batch w node' type' parents w₁ back slots ∧
      (plan.stage db (plan.below db node') node' type' parents).run w₁ = (.error why, w₂) := by
  induction node using PathNode.induct generalizing type batch w es why w₂ rest with
  | mk name path columns children ih =>
    rcases hstage : (plan.stage db (plan.below db ⟨name, path, columns, children⟩)
      ⟨name, path, columns, children⟩ type batch).run w with ⟨why' | ⟨info, staged⟩, w₁⟩
    · rw [loadNode_error hstage] at h
      cases h
      exact ⟨_, type, batch, w, id, _, .here hbatch, hstage⟩
    cases staged with
    | owners owners =>
      rw [loadNode_owners hstage] at h
      cases h
    | rows kind target rows =>
      rw [loadNode_rows hstage] at h
      dsimp only at h
      rcases hdone : plan.loadNodes db children target (gather info.position
        ((Staged.rows kind target rows).commit info.position batch)) w₁ with ⟨⟨done, _ | why'⟩, w₃⟩
      · rw [hdone] at h
        cases h
      · rw [hdone] at h
        cases h
        obtain ⟨node', type', parents, w₄, back, slots, hstarts, hfail⟩ := exists_starts_of ih hdone
        exact ⟨node', type', parents, w₄, _, _, .under hbatch hstage hstarts, hfail⟩

/-- **A load fails at a node that it came to**, and nowhere else. -/
theorem exists_starts_of_failed {es : List Entity} {why : Error}
    (h : plan.loadNodes db nodes type batch w = (⟨es, some why⟩, w₂)) :
    ∃ node type' parents w₁ back slots,
      Starts db plan nodes type batch w node type' parents w₁ back slots ∧
      (plan.stage db (plan.below db node) node type' parents).run w₁ = (.error why, w₂) :=
  exists_starts_of (fun node _ => exists_starts_of_loadNode node) h

end Plan

end EntityGraph
