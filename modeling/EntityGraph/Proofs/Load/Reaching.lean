import EntityGraph.Proofs.Load.Atomic
import EntityGraph.Proofs.Load.Carrying
import EntityGraph.Proofs.Load.Linked

/-!
# What a load reaches

A load goes from the type that was planned to the types of the rows that it finds, and a plan covers
them all (`Starts.covered`). So a load never comes to a node without its relation or its descriptor,
whatever the database answers, and the descriptor is the one that describes the relation there. A
node that is reached on several ways has one descriptor (`Consistent.eq_of_fst_eq`). The positions
that a level assigns to are those of parents that are there (`within_stage`).
-/

namespace EntityGraph

open Run

variable {reg : Registry} {σ : Type}

/-! ### Positions -/

/-- The positions that rows or owners are staged for. -/
def Staged.positions : Staged → List Nat
  | .rows _ _ staged => staged.map Prod.fst
  | .owners staged => staged.map Prod.fst

namespace KeyIndex

/-- Under every key there are positions below a bound, each once. -/
structure Within (i : KeyIndex) (bound : Nat) : Prop where
  nodup : ∀ key, (i.positions key).Nodup
  lt : ∀ key, ∀ n ∈ i.positions key, n < bound

variable {i : KeyIndex} {bound : Nat}

theorem within_ofBatch {column : ColumnInfo} {batch : List Entity}
    (h : ofBatch column batch = .ok i) : i.Within batch.length where
  nodup key := by
    rw [positions_ofBatch h]
    exact nodup_keyed column batch key
  lt key n hn := by
    rw [positions_ofBatch h, mem_keyed] at hn
    obtain ⟨e, he, -⟩ := hn
    exact (List.getElem?_eq_some_iff.1 he).1

/-- Rows are matched with indexed positions only. -/
theorem Within.correlate (h : i.Within bound) {column : ColumnInfo} {rows : List Entity}
    {staged : List (Nat × Entity)} (hstaged : i.correlate column rows = .ok staged) :
    ∀ p ∈ staged, p.1 < bound := by
  intro p hp
  obtain ⟨-, key, -, hn⟩ := (mem_correlate h.nodup hstaged).1 hp
  exact h.lt key p.1 hn

/-- Rows of a type that lacks the column are matched with none. -/
theorem Within.correlates (h : i.Within bound) {c : Option ColumnInfo} {rows : List Entity}
    {staged : List (Nat × Entity)}
    (hstaged : match c with
      | some c => i.correlate c rows = .ok staged
      | none => staged = []) : ∀ p ∈ staged, p.1 < bound := by
  cases c with
  | some c => exact h.correlate hstaged
  | none =>
    obtain rfl : staged = [] := hstaged
    simp

end KeyIndex

/-- Pivot rows link to positions of parents. -/
theorem PivotJoin.within_links {j : PivotJoin} {parents links : KeyIndex}
    {rows : List Sql.Record} {bound : Nat} (hparents : parents.Within bound)
    (h : j.links parents rows = .ok links) : links.Within bound where
  nodup := (links_of_links h).nodup
  lt key n hn := by
    obtain ⟨-, -, l, -, -, hposition⟩ := ((links_of_links h).mem_positions key n).1 hn
    exact hparents.lt l.owner n hposition

theorem OwnerJoin.within_groups {type id : ColumnInfo} {parents : List Entity}
    {groups : ByName KeyIndex} (h : OwnerJoin.groups type id parents = .ok groups) :
    ∀ g ∈ groups.entries, g.2.Within parents.length := by
  intro g hg
  have hgroup := (groups_of_groups h).group g.1
  rw [indexOf, ByName.get?_of_mem hg, Option.getD_some] at hgroup
  refine ⟨hgroup.nodup, fun key n hn => ?_⟩
  obtain ⟨p, hp, -⟩ := (hgroup.mem_positions key n).1 hn
  exact (List.getElem?_eq_some_iff.1 hp).1

namespace Plan

variable {db : Database σ} {plan : Plan} {node : PathNode} {type : String} {parents : List Entity}
  {w w₁ : World reg σ}

theorem within_stageKeyed {kind : RelationKind} {j : Join} {s : Schema}
    {staged : List (Nat × Entity)}
    (h : (plan.stageKeyed db node kind j s parents).run w = (.ok staged, w₁)) :
    ∀ p ∈ staged, p.1 < parents.length := by
  obtain ⟨column, index, -, hindex, ⟨-, rfl, -⟩ | ⟨-, target, rows, -, hstaged⟩⟩ :=
    stageKeyed_eq_ok h
  · simp
  · exact (KeyIndex.within_ofBatch hindex).correlates hstaged

theorem within_stagePivot {j : PivotJoin} {s : Schema} {staged : List (Nat × Entity)}
    (h : (plan.stagePivot db node j s parents).run w = (.ok staged, w₁)) :
    ∀ p ∈ staged, p.1 < parents.length := by
  obtain ⟨column, index, -, hindex, ⟨-, rfl, -⟩ | ⟨-, pivots, links, w₂, -, -, hlinks,
    ⟨-, rfl, -⟩ | ⟨-, target, rows, -, hstaged⟩⟩⟩ := stagePivot_eq_ok h
  · simp
  · simp
  · exact (PivotJoin.within_links (KeyIndex.within_ofBatch hindex) hlinks).correlates hstaged

theorem within_stageGroups {j : OwnerJoin} {groups : List (String × KeyIndex)} {bound : Nat}
    (hgroups : ∀ g ∈ groups, g.2.Within bound) {staged : List (Nat × (String × Entity))}
    (h : (plan.stageGroups db (plan.below db node) node j groups).run w = (.ok staged, w₁)) :
    ∀ p ∈ staged, p.1 < bound := by
  induction groups generalizing w staged with
  | nil =>
    rw [stageGroups] at h
    obtain ⟨rfl, -⟩ := pure_eq_ok h
    simp
  | cons g groups ih =>
    obtain ⟨d, index⟩ := g
    obtain ⟨hindex, hgroups⟩ := List.forall_mem_cons.1 hgroups
    rw [stageGroups] at h
    obtain ⟨first, w₂, hfirst, h⟩ := bind_eq_ok h
    obtain ⟨others, w₃, hothers, h⟩ := bind_eq_ok h
    obtain ⟨rfl, rfl⟩ := pure_eq_ok h
    refine List.forall_mem_append.2 ⟨?_, ih hgroups hothers⟩
    obtain ⟨-, rfl, -⟩ | ⟨_, owners, correlated, -, -, -, -, hcorrelated, rfl⟩ :=
      stageOwners_eq_ok hfirst
    · simp
    · intro p hp
      obtain ⟨q, hq, rfl⟩ := List.mem_map.1 hp
      exact hindex.correlate hcorrelated q hq

/-- **A level is staged for positions of its parents.** -/
theorem within_stage {info : RelationInfo} {staged : Staged}
    (h : (plan.stage db (plan.below db node) node type parents).run w = (.ok (info, staged), w₁)) :
    ∀ n ∈ staged.positions, n < parents.length := by
  rw [stage] at h
  obtain ⟨s, w₂, -, h⟩ := bind_eq_ok h
  obtain ⟨info', w₃, -, h⟩ := bind_eq_ok h
  split at h
  · cases h
  · obtain ⟨rows, w₄, hrows, h⟩ := bind_eq_ok h
    cases h
    exact List.forall_mem_map.2 (within_stagePivot hrows)
  · obtain ⟨typeColumn, w₄, -, h⟩ := bind_eq_ok h
    obtain ⟨idColumn, w₅, -, h⟩ := bind_eq_ok h
    obtain ⟨groups, w₆, hgroups, h⟩ := bind_eq_ok h
    obtain ⟨owners, w₇, howners, h⟩ := bind_eq_ok h
    cases h
    have hwithin := OwnerJoin.within_groups (ofExcept_eq_ok hgroups).1
    exact List.forall_mem_map.2 (within_stageGroups hwithin howners)
  all_goals
    obtain ⟨rows, w₄, hrows, h⟩ := bind_eq_ok h
    cases h
    exact List.forall_mem_map.2 (within_stageKeyed hrows)

/-! ### Descriptors -/

variable {eager : Eager} {nodes : List PathNode} {type' : String} {batch : List Entity}
  {back : List Entity → List Entity} {slots : Option (List Nat)}

theorem kind_eq_of_describe {info : RelationInfo} {s : Schema} {owners : Option OwnerTypes}
    {d : Descriptor} (h : (info.describe s owners : Run reg σ Descriptor).run w = (.ok d, w₁)) :
    d.kind = info.shape.kind := by
  unfold RelationInfo.describe at h
  cases hshape : info.shape
  all_goals
    simp only [hshape, map_eq_pure_bind] at h
    obtain ⟨j, w₂, -, h⟩ := bind_eq_ok h
    obtain ⟨rfl, -⟩ := pure_eq_ok h
    rfl

/-- A described node has a relation, and the descriptor is that of the relation. -/
theorem Describes.exists_relation {d : Descriptor} (h : Describes reg σ eager type node d) :
    ∃ s info, reg.schema type = .ok s ∧ relation s node = .ok info ∧ d.kind = info.shape.kind ∧
      ∃ w w' : World reg σ,
        (info.describe s (eager.owners.get? node.path)).run w = (.ok d, w') := by
  obtain ⟨w, w', h⟩ := h
  rw [describe] at h
  obtain ⟨s, w₂, -, h⟩ := bind_eq_ok h
  obtain ⟨info, w₃, hinfo, h⟩ := bind_eq_ok h
  obtain ⟨found, w₄, hd, h⟩ := bind_eq_ok h
  obtain ⟨-, w₅, -, h⟩ := bind_eq_ok h
  obtain ⟨-, w₆, -, h⟩ := bind_eq_ok h
  obtain ⟨rfl, -⟩ := pure_eq_ok h
  exact ⟨s, info, s.property, (ofExcept_eq_ok hinfo).1, kind_eq_of_describe hd, w₃, w₄, hd⟩

/-! ### Nodes that are reached -/

/-- The rows of a relation are of a type that was planned. -/
theorem mem_targets_of_rowType? {d : Descriptor} {target : String} (h : d.rowType? = some target) :
    target ∈ targets d := by
  cases d <;> cases h <;> simp [targets]

/-- Owners are looked up among the types of their relation. -/
theorem Descends.mem_types {j : OwnerJoin} {groups : List (String × KeyIndex)} {target : String}
    {rows : List Entity} (h : Descends db plan node j groups w target rows w₁) :
    target ∈ j.types.entries.map Prod.snd := by
  induction h with
  | first htype => exact List.mem_map_of_mem (f := Prod.snd) (Catalog.mem_of_lookup htype)
  | later _ _ ih => exact ih

/-- **A load stays where the plan has been**: on the types that were planned, at nodes below those
that were planned. -/
theorem Starts.covered (h : Starts db plan nodes type batch w node type' parents w₁ back slots)
    (hcovers : CoversNodes reg eager plan.descriptors nodes type) (hnamed : AreNamed nodes) :
    CoversNode reg eager plan.descriptors node type' ∧ node.IsNamed := by
  induction h with
  | here =>
    rw [CoversNodes] at hcovers
    rw [AreNamed] at hnamed
    exact ⟨hcovers.1, hnamed.1⟩
  | next _ _ _ ih =>
    rw [CoversNodes] at hcovers
    rw [AreNamed] at hnamed
    exact ih hcovers.2 hnamed.2
  | under _ hstage _ ih =>
    rw [CoversNodes, coversNode_iff] at hcovers
    rw [AreNamed, PathNode.isNamed_iff] at hnamed
    obtain ⟨⟨d, hlookup, -, htargets⟩, -⟩ := hcovers
    obtain ⟨d', hd', hrow⟩ := rowType_of_stage hstage
    obtain rfl : d = d' := Option.some.inj (hlookup.symm.trans hd')
    exact ih (htargets _ (mem_targets_of_rowType? hrow)).2 hnamed.1.2
  | owners _ hd _ _ _ _ _ hrows _ ih =>
    rw [CoversNodes, coversNode_iff] at hcovers
    rw [AreNamed, PathNode.isNamed_iff] at hnamed
    obtain ⟨⟨d, hlookup, -, htargets⟩, -⟩ := hcovers
    obtain rfl := Option.some.inj (hlookup.symm.trans hd)
    exact ih (htargets _ hrows.mem_types).2 hnamed.1.2

theorem Stray.ne_unknownRelation {path : String} {d : Descriptor} {e : Error}
    (h : Stray reg eager path d e) (name type : String) : e ≠ .unknownRelation name type := by
  have hrejection : ∀ names, IsRejection names e → e ≠ .unknownRelation name type := by
    rintro names ⟨-, -, why, -, rfl⟩
    simp
  cases d with
  | morphTo j =>
    obtain ⟨_, _, s, -, -, htable | ⟨-, _, _, rfl⟩ | ⟨_, values, -, hscope⟩⟩ := h
    · exact hrejection _ htable
    · simp
    · exact hrejection _ hscope
  | _ =>
    obtain ⟨values, hscope⟩ := h
    exact hrejection _ hscope

theorem Fails.ne_unknownRelation {e : Error} (h : Fails reg plan e) (name type : String) :
    e ≠ .unknownRelation name type := by
  rcases h with hlate | ⟨p, -, hstray⟩
  · rintro rfl
    cases hlate
  · exact hstray.ne_unknownRelation name type

/-- A load of a plan does not fail for want of a relation or a descriptor. -/
theorem Suits.failure_ne_unknownRelation (h : Suits reg σ eager type plan) (db : Database σ)
    (batch : List Entity) (w : World reg σ) (name type' : String) :
    (plan.load db type batch w).1.failure ≠ some (.unknownRelation name type') := by
  obtain ⟨-, -, -, -, hloads⟩ := h.yields db batch w
  intro hfailure
  exact (hloads _ hfailure).ne_unknownRelation name type' rfl

/-- A node finds its relation on a type, and the descriptor in the plan is that of the relation. -/
def Locates (reg : Registry) (σ : Type) (plan : Plan) (type : String) (node : PathNode) : Prop :=
  ∃ s info d, reg.schema type = .ok s ∧ relation s node = .ok info ∧
    plan.descriptor? type node = some d ∧ d.kind = info.shape.kind ∧
    ∃ w w' : World reg σ,
      (info.describe s (plan.eager.owners.get? node.path)).run w = (.ok d, w')

theorem Suits.locates (h : Suits reg σ eager type plan)
    (hcovers : CoversNode reg eager plan.descriptors node type') (hnamed : node.IsNamed) :
    Locates reg σ plan type' node := by
  obtain ⟨d, hlookup, -, -⟩ := coversNode_iff.1 hcovers
  obtain ⟨node', hpath : node'.path = node.path, hname, hdescribes⟩ :=
    h.consistent _ (Catalog.mem_of_lookup hlookup)
  obtain ⟨s, info, hs, hinfo, hkind, hdescribe⟩ := hdescribes.exists_relation
  -- the node that was described may be another one, but asks for the same relation
  have hsame : node'.name = node.name := by
    rw [← hname, hpath, (PathNode.isNamed_iff.1 hnamed).1]
  rw [relation, hsame, ← relation] at hinfo
  rw [hpath, ← h.eager_eq] at hdescribe
  exact ⟨s, info, d, hs, hinfo, hlookup, hkind, hdescribe⟩

/-- **A load that was planned never loses its way.** Whatever the database answers, every node that
it comes to finds its relation and its descriptor on the type of its parents; so no load fails for
want of one. All descriptors that were found for one type and path, on whatever ways it is reached,
are the same. And all positions that a level is staged for are those of parents. -/
theorem load_finds_descriptors (h : Plans reg σ eager type plan) (db : Database σ) :
    (∀ batch (w : World reg σ) node type' parents w₁ back slots,
      Starts db plan plan.nodes type batch w node type' parents w₁ back slots →
      Locates reg σ plan type' node) ∧
    (∀ batch (w : World reg σ) name type',
      (plan.load db type batch w).1.failure ≠ some (.unknownRelation name type')) ∧
    (∀ p ∈ plan.descriptors, ∀ q ∈ plan.descriptors, p.1 = q.1 → p.2 = q.2) ∧
    ∀ node type' parents (w w₁ : World reg σ) info staged,
      (plan.stage db (plan.below db node) node type' parents).run w = (.ok (info, staged), w₁) →
      ∀ n ∈ staged.positions, n < parents.length := by
  have hsuits := h.suits
  have hnamed : AreNamed plan.nodes := areNamed_parsePaths h.parsePaths_eq
  refine ⟨fun batch w node type' parents w₁ back slots hstarts => ?_,
    hsuits.failure_ne_unknownRelation db, fun p hp q hq => hsuits.consistent.eq_of_fst_eq hp hq,
    fun node type' parents w w₁ info staged hstage => within_stage hstage⟩
  obtain ⟨hcovers, hnode⟩ := hstarts.covered hsuits.covers hnamed
  exact hsuits.locates hcovers hnode

/-! The authors of the subjects of comments: two discriminators stand for posts, and authors are
reached through posts and through videos. -/

def subjectRegistry : Registry :=
  ⟨[{ type := "Comment", table := some "comments", members :=
        [.column "subject_type" .text (some "subject_type") false false,
          .column "subject_id" .text (some "subject_id") false false,
          .relation "subject" (.morphTo "subject")
            { name := some "Subject", targets := [("Post", some "article"), ("Post", some "post"),
              ("Video", some "video")] }] },
    { type := "Post", table := some "posts", members :=
        [.column "id" .text (some "id") true false,
          .column "author_id" .text (some "author_id") false false,
          .relation "author" (.belongsTo "Author") { name := some "Author" }] },
    { type := "Video", table := some "videos", members :=
        [.column "id" .text (some "id") true false,
          .column "author_id" .text (some "author_id") false false,
          .relation "author" (.belongsTo "Author") { name := some "Author" }] },
    { type := "Author", table := some "authors", members :=
        [.column "id" .text (some "id") true false] }]⟩

/-- Every row has every id that was asked for, and the author of that id. -/
def subjectDatabase : Database Unit where
  answer _ _ := (.ok [⟨[("id", .text "a"), ("author_id", .text "a")]⟩], ())

def subjectRequest : Eager := ({} : Eager).withPaths ["Subject.Author"]

def authorNode : PathNode := ⟨"Author", "Subject.Author", none, []⟩

def fourComments : List Entity :=
  ["post", "video", "page", "article"].map fun kind =>
    ⟨"Comment", [.cell ⟨.text, kind⟩, .cell ⟨.text, "a"⟩, .owner none]⟩

theorem load_finds_descriptors_subjects :
    let w : World subjectRegistry Unit := { catalog := .empty _ {}, state := () }
    let done := preload subjectDatabase subjectRequest "Comment" fourComments w
    done.1.failure = none ∧
    done.2.issued.map (fun s => match s with
      | .select table _ _ => table
      | _ => "") = ["posts", "authors", "posts", "authors", "videos", "authors"] ∧
    ∃ plan, Plans subjectRegistry Unit subjectRequest "Comment" plan ∧
      (∀ type ∈ ["Post", "Video"], (plan.descriptor? type authorNode).isSome = true) ∧
      (∀ p ∈ plan.descriptors, ∀ q ∈ plan.descriptors, p.1 = q.1 → p.2 = q.2) ∧
      ∃ node, Locates subjectRegistry Unit plan "Comment" node := by
  intro w done
  refine ⟨by decide +kernel, by decide +kernel, ?_⟩
  have hcheck : (match (make subjectRequest "Comment" : Run subjectRegistry Unit Plan).run w with
    | (.ok plan, _) => !plan.nodes.isEmpty &&
      ["Post", "Video"].all fun type => (plan.descriptor? type authorNode).isSome
    | _ => false) = true := by decide +kernel
  split at hcheck
  · next plan w₁ hplan =>
    have hplans : Plans subjectRegistry Unit subjectRequest "Comment" plan := ⟨w, w₁, hplan⟩
    obtain ⟨hlocates, -, hunique, -⟩ := load_finds_descriptors hplans subjectDatabase
    rw [Bool.and_eq_true, List.all_eq_true] at hcheck
    refine ⟨plan, hplans, hcheck.2, hunique, ?_⟩
    cases hnodes : plan.nodes with
    | nil =>
      rw [hnodes] at hcheck
      cases hcheck.1
    | cons node rest =>
      refine ⟨node, hlocates fourComments w node "Comment" fourComments w id (some []) ?_⟩
      rw [hnodes]
      exact .here (by simp [fourComments])
  · cases hcheck

end Plan

end EntityGraph
