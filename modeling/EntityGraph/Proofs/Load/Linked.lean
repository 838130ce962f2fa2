import EntityGraph.Proofs.Load.Indexing
import EntityGraph.Proofs.Load.Keyed

/-!
# What pivot relations hold

A relation through a pivot table takes two statements for a whole batch: one for the pivot rows of
the parents, one for the rows that these link to. Every parent then holds the rows that some pivot
row links to its key, once each and in the order of the answer (`loadNode_pivot`). How often and in
which order the pivot rows repeat a link does not matter, and rows that link nothing are passed
over. Parents without keys take no statement, and without links there is no second one.
-/

namespace EntityGraph

open Sql (Statement Record)

variable {reg : Registry} {σ : Type}

/-! ### What is to be held -/

/-- The keys that a batch holds in a column of its type, with their values. -/
def Schema.keyPairs (s : Schema) (column : String) (batch : List Entity) :
    List (String × Sql.Value) :=
  match s.column? column with
  | some c => EntityGraph.keyPairs c batch
  | none => []

namespace PivotJoin

/-- A pivot row links a key of the parents to a key of the related rows. -/
def IsLink (j : PivotJoin) (owner target : String) (r : Record) : Prop :=
  ∃ l, j.linkOf? r = some l ∧ l.owner = owner ∧ l.target = target

instance (j : PivotJoin) (owner target : String) (r : Record) :
    Decidable (j.IsLink owner target r) :=
  decidable_of_iff ((j.linkOf? r).any fun l => l.owner = owner ∧ l.target = target) <| by
    simp [IsLink, Option.any_eq_true]

/-- The statement for the pivot rows of parents with some keys. -/
def statement (j : PivotJoin) (values : List Sql.Value) : Statement :=
  .select j.pivotTable [j.foreignPivotKey, j.relatedPivotKey] (Plan.among j.foreignPivotKey values)

/-- The related keys that pivot rows link to parents, with their values. -/
def linked (j : PivotJoin) (s : Schema) (parents : List Entity) (pivots : List Record) :
    List (String × Sql.Value) :=
  pivots.filterMap fun r => (j.linkOf? r).bind fun l =>
    if ∃ p ∈ parents, s.keyText? j.parentKey p = some l.owner then some (l.target, l.value)
    else none

/-- The rows that pivot rows link to a parent. -/
def rowsOf (j : PivotJoin) (s target : Schema) (pivots : List Record) (rows : List Entity)
    (parent : Entity) : List Entity :=
  rows.filter fun row =>
    match s.keyText? j.parentKey parent, target.keyText? j.relatedKey row with
    | some owner, some key => ∃ r ∈ pivots, j.IsLink owner key r
    | _, _ => False

end PivotJoin

/-! ### Staging -/

namespace Plan

open Run

variable {db : Database σ} {plan : Plan} {node : PathNode} {type : String}
  {parents : List Entity} {w w₁ : World reg σ} {info : RelationInfo}

theorem selectPivot_eq_ok {j : PivotJoin} {values : List Sql.Value} {pivots : List Record}
    (h : (selectPivot db j values : Run reg σ _).run w = (.ok pivots, w₁)) :
    Sql.Accepted j.pivotTable ∧ Answered db (j.statement values) w w₁ pivots := by
  have hcheck : Ensures (checkName j.pivotTable : Run reg σ Unit) (fun _ => False) _ _ :=
    ensures_checkName j.pivotTable
  obtain ⟨u, w₂, hchecked, hname, h⟩ := hcheck.quiet.bind_eq_ok h
  exact ⟨hcheck.of_ok hchecked, (issue_eq_ok h).after hname⟩

/-- A pivot relation that was staged found no key, or found no link, or matched the rows that it
found to its links. -/
theorem stagePivot_eq_ok {j : PivotJoin} {s : Schema} {staged : List (Nat × Entity)}
    (h : (plan.stagePivot db node j s parents).run w = (.ok staged, w₁)) :
    ∃ column index, s.column? j.parentKey = some column ∧
      KeyIndex.ofBatch column parents = .ok index ∧
      ((index.isEmpty = true ∧ staged = [] ∧ Untouched w w₁) ∨
        index.isEmpty = false ∧ ∃ pivots links w₂, Sql.Accepted j.pivotTable ∧
          Answered db (j.statement index.values) w w₂ pivots ∧ j.links index pivots = .ok links ∧
          ((links.isEmpty = true ∧ staged = [] ∧ Untouched w₂ w₁) ∨
            links.isEmpty = false ∧ ∃ target rows,
              Selected db plan node j.target j.table (among j.relatedKey links.values) w₂ w₁ target
                rows ∧
              match target.column? j.relatedKey with
              | some c => links.correlate c rows = .ok staged
              | none => staged = [])) := by
  rw [stagePivot] at h
  obtain ⟨column, w₂, hcolumn, hw₂, h⟩ := (quiet_mapped s node _).bind_eq_ok h
  obtain ⟨index, w₃, hindex, h⟩ := bind_eq_ok h
  obtain ⟨hbatch, rfl⟩ := ofExcept_eq_ok hindex
  refine ⟨column, index, mapped_eq_ok hcolumn, hbatch, ?_⟩
  split at h
  · next hempty =>
    obtain ⟨-, w₄, -, hevent, h⟩ := (quiet_emit _).bind_eq_ok h
    obtain ⟨rfl, rfl⟩ := pure_eq_ok h
    exact .inl ⟨hempty, rfl, hw₂.trans hevent⟩
  next hempty =>
  refine .inr ⟨by simpa using hempty, ?_⟩
  obtain ⟨pivots, w₄, hpivots, h⟩ := bind_eq_ok h
  obtain ⟨links, w₅, hrun, h⟩ := bind_eq_ok h
  obtain ⟨hlinks, rfl⟩ := ofExcept_eq_ok hrun
  obtain ⟨haccepted, hanswered⟩ := selectPivot_eq_ok hpivots
  refine ⟨pivots, links, w₄, haccepted, hanswered.after hw₂, hlinks, ?_⟩
  split at h
  · next hnone =>
    obtain ⟨-, w₅, -, hevent, h⟩ := (quiet_emit _).bind_eq_ok h
    obtain ⟨rfl, rfl⟩ := pure_eq_ok h
    exact .inl ⟨hnone, rfl, hevent⟩
  · next hsome =>
    obtain ⟨rows, w₅, hselect, h⟩ := bind_eq_ok h
    obtain ⟨target, w₆, -, hschema, h⟩ := (ensures_schema j.target).quiet.bind_eq_ok h
    obtain ⟨staged', w₇, hcorrelate, h⟩ := bind_eq_ok h
    obtain ⟨-, w₈, -, hevent, h⟩ := (quiet_emit _).bind_eq_ok h
    obtain ⟨rfl, rfl⟩ := pure_eq_ok h
    obtain ⟨s', hselected⟩ := select_eq_ok hselect
    obtain rfl : target.val = s' :=
      Except.ok.inj (target.property.symm.trans hselected.schema_eq)
    obtain ⟨rfl, hstaged⟩ := correlate_eq_ok hcorrelate
    exact .inr ⟨by simpa using hsome, target, rows, hselected.before (hschema.trans hevent),
      hstaged⟩

/-! ### Links -/

section
variable {j : PivotJoin} {s target : Schema} {column : ColumnInfo} {index links : KeyIndex}
variable {pivots : List Record}

theorem mem_positions_of_column (hcolumn : s.column? j.parentKey = some column)
    (hindex : KeyIndex.ofBatch column parents = .ok index) {key : String} {i : Nat} :
    i ∈ index.positions key ↔
      ∃ p, parents[i]? = some p ∧ s.keyText? j.parentKey p = some key := by
  rw [KeyIndex.positions_ofBatch hindex, KeyIndex.mem_keyed]
  simp [Schema.keyText?, hcolumn]

/-- The pairs that are linked through an index are those that are linked to a parent. -/
theorem linkedPairs_eq (hcolumn : s.column? j.parentKey = some column)
    (hindex : KeyIndex.ofBatch column parents = .ok index) (pivots : List Record) :
    j.linkedPairs index pivots = j.linked s parents pivots := by
  have hheld : ∀ key, (index.positions key).isEmpty = true ↔
      ¬ ∃ p ∈ parents, s.keyText? j.parentKey p = some key := by
    intro key
    rw [List.isEmpty_iff, List.eq_nil_iff_forall_not_mem]
    simp only [mem_positions_of_column hcolumn hindex, List.mem_iff_getElem?]
    grind
  refine List.filterMap_congr fun r _ => ?_
  cases j.linkOf? r with
  | none => rfl
  | some l =>
    by_cases h : ∃ p ∈ parents, s.keyText? j.parentKey p = some l.owner <;> simp [hheld, h]

/-- **What is staged for a parent is the rows that are linked to it.** -/
theorem atPosition_linked {rows : List Entity} {staged : List (Nat × Entity)}
    (hcolumn : s.column? j.parentKey = some column)
    (hindex : KeyIndex.ofBatch column parents = .ok index)
    (hlinks : j.links index pivots = .ok links)
    (hstaged : match target.column? j.relatedKey with
      | some c => links.correlate c rows = .ok staged
      | none => staged = []) {i : Nat} {p : Entity} (hp : parents[i]? = some p) :
    Staged.atPosition staged i = j.rowsOf s target pivots rows p := by
  obtain ⟨-, hmem, hnodup⟩ := PivotJoin.links_of_links hlinks
  rw [PivotJoin.rowsOf]
  cases hc : target.column? j.relatedKey with
  | none =>
    rw [hc] at hstaged
    subst hstaged
    refine (List.filter_eq_nil_iff.2 fun row _ => ?_).symm
    simp [Schema.keyText?, hc]
  | some c =>
    rw [hc] at hstaged
    rw [KeyIndex.atPosition_correlate hnodup hstaged]
    refine List.filter_congr fun row _ => ?_
    have hrow : target.keyText? j.relatedKey row = row.keyText? c := by
      rw [Schema.keyText?, hc, Option.bind_some]
    rw [KeyIndex.leadsTo, hrow]
    cases row.keyText? c with
    | none => cases s.keyText? j.parentKey p <;> simp
    | some key =>
      cases hkey : s.keyText? j.parentKey p with
      | none => simp [hmem, mem_positions_of_column hcolumn hindex, hp, hkey]
      | some owner =>
        simp [hmem, mem_positions_of_column hcolumn hindex, hp, hkey, PivotJoin.IsLink]
        grind

end

/-! ### The level -/

theorem stage_of_pivot {j : PivotJoin} (hd : plan.descriptor? type node = some (.belongsToMany j))
    (descend : String → List Entity → Run reg σ (List Entity)) (parents : List Entity) :
    plan.stage db descend node type parents = (do
      let s ← schema type
      let info ← MonadExcept.ofExcept (relation s.val node)
      let staged ← plan.stagePivot db node j s parents
      pure (info, .rows .belongsToMany j.target staged)) := by
  rw [stage, hd]

/-- **What a pivot relation holds when its own statements and its matching succeeded.** -/
theorem loadNode_pivot {s : Schema} {j : PivotJoin} {staged : Staged}
    (hs : reg.schema type = .ok s) (hd : plan.descriptor? type node = some (.belongsToMany j))
    (hfits : ∀ p ∈ parents, s.Fits p)
    (hstage : (plan.stage db (plan.below db node) node type parents).run w
      = (.ok (info, staged), w₁)) :
    let emptied := parents.map fun p => p.setItem info.position (.many [])
    ((∀ p ∈ parents, s.keyText? j.parentKey p = none) →
      Untouched w w₁ ∧ plan.loadNode db node type parents w = (⟨emptied, none⟩, w₁)) ∧
    ((∃ p ∈ parents, s.keyText? j.parentKey p ≠ none) →
      ∃ pivots w₂,
        Answered db (j.statement (firstValues (s.keyPairs j.parentKey parents))) w w₂ pivots ∧
        (j.linked s parents pivots = [] →
          Untouched w₂ w₁ ∧ plan.loadNode db node type parents w = (⟨emptied, none⟩, w₁)) ∧
        (j.linked s parents pivots ≠ [] →
          ∃ target rows,
            Selected db plan node j.target j.table
              (among j.relatedKey (firstValues (j.linked s parents pivots))) w₂ w₁ target rows ∧
            List.Forall₂ (fun p p' => ∃ item, p' = p.setItem info.position item ∧
                p'.item? info.position = some item ∧
                Item.Rel target.Keeps (.many (j.rowsOf s target pivots rows p)) item ∧
                (node.children = [] → item = .many (j.rowsOf s target pivots rows p)))
              parents (plan.loadNode db node type parents w).1.entities)) := by
  intro emptied
  have hposition : ∀ p ∈ parents, info.position < p.items.length := by
    obtain ⟨s', hs', hrelation⟩ := relation_of_stage hstage
    obtain rfl : s = s' := Except.ok.inj (hs.symm.trans hs')
    intro p hp
    rw [hfits p hp]
    exact Registry.position_lt hs (mem_relations_of_relation hrelation)
  have hpivot := hstage
  rw [stage_of_pivot hd] at hpivot
  obtain ⟨s', w₂, -, hw₂, hpivot⟩ := (ensures_schema type).quiet.bind_eq_ok hpivot
  obtain rfl : s = s' := Except.ok.inj (hs.symm.trans s'.property)
  obtain ⟨info', w₃, hrelation, hpivot⟩ := bind_eq_ok hpivot
  obtain ⟨-, rfl⟩ := ofExcept_eq_ok hrelation
  obtain ⟨rows, w₄, hpivot, hpure⟩ := bind_eq_ok hpivot
  cases hpure
  obtain ⟨column, index, hcolumn, hindex, hcases⟩ := stagePivot_eq_ok hpivot
  have hholds := KeyIndex.holds_ofBatch hindex
  have hempty : index.isEmpty = true ↔ ∀ p ∈ parents, s'.val.keyText? j.parentKey p = none := by
    rw [KeyIndex.isEmpty_ofBatch hindex]
    simp [Schema.keyText?, hcolumn]
  constructor
  · intro hnone
    obtain ⟨-, rfl, hstill⟩ | ⟨hfull, -⟩ := hcases
    · exact ⟨hw₂.trans hstill, loadNode_nothing hposition hstage⟩
    · rw [hempty.2 hnone] at hfull
      cases hfull
  · rintro ⟨p, hp, hkey⟩
    obtain ⟨hnone, -⟩ | ⟨-, pivots, links, w₅, -, hanswered, hlinks, hlinked⟩ := hcases
    · exact absurd (hempty.1 hnone p hp) hkey
    have hvalues : index.values = firstValues (s'.val.keyPairs j.parentKey parents) := by
      rw [hholds.values_eq, Schema.keyPairs, hcolumn]
    have hlink := (PivotJoin.links_of_links hlinks).holds
    rw [linkedPairs_eq hcolumn hindex] at hlink
    rw [hvalues] at hanswered
    refine ⟨pivots, w₅, hanswered.after hw₂, fun hnone => ?_, fun hsome => ?_⟩
    · obtain ⟨-, rfl, hstill⟩ | ⟨hfull, -⟩ := hlinked
      · exact ⟨hstill, loadNode_nothing hposition hstage⟩
      · rw [hlink.isEmpty_eq.2 hnone] at hfull
        cases hfull
    · obtain ⟨hnone, -⟩ | ⟨-, target, rows, hselected, hstaged⟩ := hlinked
      · exact absurd (hlink.isEmpty_eq.1 hnone) hsome
      · rw [hlink.values_eq] at hselected
        refine ⟨target, rows, hselected, ?_⟩
        exact loadNode_content hposition hstage
          (fun i p hp => atPosition_linked hcolumn hindex hlinks hstaged hp) hselected.schema_eq

/-! Four posts, two of them with one key and one without, and their tags. One pivot row is repeated,
one belongs to no post, one holds a zero key and one lacks a column. -/

def tagsOfPosts : PivotJoin :=
  { target := "Tag", table := "tags", pivotTable := "post_tags", foreignPivotKey := "post_id",
    relatedPivotKey := "tag_id", parentKey := "id", relatedKey := "id" }

def tagRegistry : Registry :=
  ⟨[{ type := "Post", table := some "posts", members :=
        [.column "id" (.int .i64) (some "id") true false,
          .relation "tags" (.belongsToMany "Tag") { name := some "Tags" }] },
    { type := "Tag", table := some "tags", members :=
        [.column "id" (.int .i64) (some "id") true false] }]⟩

def tagLinks : List Record :=
  [⟨[("post_id", .int 2), ("tag_id", .int 5)]⟩, ⟨[("post_id", .int 1), ("tag_id", .int 5)]⟩,
    ⟨[("post_id", .int 2), ("tag_id", .int 5)]⟩, ⟨[("post_id", .int 9), ("tag_id", .int 7)]⟩,
    ⟨[("post_id", .int 1), ("tag_id", .int 0)]⟩, ⟨[("post_id", .int 1)]⟩,
    ⟨[("post_id", .int 1), ("tag_id", .int 6)]⟩]

def tagDatabase : Database Unit where
  answer s _ :=
    match s with
    | .select table _ _ =>
      if table = "post_tags" then (.ok tagLinks, ())
      else (.ok [⟨[("id", .int 6)]⟩, ⟨[("id", .int 7)]⟩, ⟨[("id", .int 5)]⟩], ())
    | _ => (.ok [], ())

def tagPlan : Plan where
  eager := {}
  nodes := [⟨"Tags", "Tags", none, []⟩]
  descriptors := [(("Post", "Tags"), .belongsToMany tagsOfPosts)]

def post (id : Int) : Entity :=
  ⟨"Post", [.cell ⟨.int .i64, Column.IntType.ofInt .i64 id⟩, .many []]⟩

def fourPosts : List Entity := [post 1, post 2, post 0, post 2]

theorem loadNode_pivot_tags :
    let w : World tagRegistry Unit := { catalog := .empty _ {}, state := () }
    let node : PathNode := ⟨"Tags", "Tags", none, []⟩
    ∃ s w₁ w₂ target rows position, tagRegistry.schema "Post" = .ok s ∧
      Answered tagDatabase (tagsOfPosts.statement [.int 1, .int 2]) w w₂ tagLinks ∧
      Selected tagDatabase tagPlan node "Tag" "tags" (among "id" [.int 5, .int 6]) w₂ w₁ target
        rows ∧
      List.Forall₂ (fun (p p' : Entity) => p'.item? position
          = some (.many (tagsOfPosts.rowsOf s target tagLinks rows p)))
        fourPosts (tagPlan.loadNode tagDatabase node "Post" fourPosts w).1.entities := by
  intro w node
  obtain ⟨s, hs⟩ : ∃ s, tagRegistry.schema "Post" = .ok s := ⟨_, rfl⟩
  have hfits : ∀ p ∈ fourPosts, s.Fits p := by
    cases hs
    decide
  have hkey : ∃ p ∈ fourPosts, s.keyText? "id" p ≠ none := by
    cases hs
    exact ⟨post 1, by simp [fourPosts], by decide +kernel⟩
  have hvalues : firstValues (s.keyPairs "id" fourPosts) = [.int 1, .int 2] := by
    cases hs
    decide +kernel
  have hlinked : tagsOfPosts.linked s fourPosts tagLinks
      = [("5", .int 5), ("5", .int 5), ("5", .int 5), ("6", .int 6)] := by
    cases hs
    decide +kernel
  have hok : ((tagPlan.stage tagDatabase (tagPlan.below tagDatabase node) node "Post"
    fourPosts).run w).1.isOk = true := by decide +kernel
  rcases hstage : (tagPlan.stage tagDatabase (tagPlan.below tagDatabase node) node "Post"
    fourPosts).run w with ⟨why | ⟨info, staged⟩, w₁⟩
  · rw [hstage] at hok
    cases hok
  obtain ⟨pivots, w₂, hanswered, -, hsome⟩ :=
    (loadNode_pivot (j := tagsOfPosts) hs rfl hfits hstage).2 hkey
  obtain rfl : tagLinks = pivots := Except.ok.inj hanswered.answer_eq
  obtain ⟨target, rows, hselected, hall⟩ := hsome (by simp [hlinked])
  have hasked : firstValues (tagsOfPosts.linked s fourPosts tagLinks) = [.int 5, .int 6] := by
    rw [hlinked]
    decide
  rw [show tagsOfPosts.parentKey = "id" from rfl, hvalues] at hanswered
  rw [hasked] at hselected
  refine ⟨s, w₁, w₂, target, rows, info.position, hs, hanswered, hselected,
    hall.imp fun p p' hp => ?_⟩
  obtain ⟨item, -, hitem, -, hcontent⟩ := hp
  rw [hitem, hcontent rfl]

end Plan

end EntityGraph
