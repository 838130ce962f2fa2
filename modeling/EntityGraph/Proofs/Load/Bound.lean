import EntityGraph.Proofs.Load.Zeros

/-!
# Pivot rows that store what was bound

A pivot relation asks for the values that are bound for the keys of its parents. A pivot row that
stores one of them makes a raw key with the text of the parents' key, so what it links is matched
with all parents that hold the key, except that the zero of the representation is passed over
(`stage_groups_bound`). Parents have such keys only in a column that may miss values.
-/

namespace EntityGraph

open Run
open Sql (Record Value)

variable {reg : Registry} {σ : Type}

theorem Schema.exists_of_keyPairs {s : Schema} {column key : String} {v : Value}
    {batch : List Entity} (h : (key, v) ∈ s.keyPairs column batch) :
    ∃ c e, s.column? column = some c ∧ e ∈ batch ∧ e.keyPair? c = some (key, v) := by
  rw [keyPairs] at h
  cases hc : s.column? column with
  | none => simp [hc] at h
  | some c =>
    rw [hc] at h
    obtain ⟨e, he, hpair⟩ := List.mem_filterMap.1 h
    exact ⟨c, e, rfl, he, hpair⟩

/-- What is bound for the key of a parent makes a raw key with the same text, which is no zero if
the parents' column misses no values. -/
theorem Schema.exists_ofValue_of_keyPairs {s : Schema} {column key : String} {v : Value}
    {batch : List Entity} (hbatch : ∀ e ∈ batch, s.Typed e)
    (h : (key, v) ∈ s.keyPairs column batch) :
    ∃ raw, Key.ofValue v = .ok raw ∧ raw.encode = key ∧
      (s.isOptional column = false → raw.isZero = false) := by
  obtain ⟨c, e, hc, he, hpair⟩ := exists_of_keyPairs h
  obtain ⟨cell, k, hcell, hzero, hkey, rfl, rfl⟩ := Row.cell_of_keyPair? hpair
  obtain ⟨x, htyped⟩ := hbatch e he c (mem_of_column? hc)
  obtain rfl := Option.some.inj (hcell.symm.trans htyped)
  obtain ⟨raw, hraw, hencode, hnonzero⟩ := ColumnType.exists_ofValue_toSql hkey
  refine ⟨raw, hraw, hencode, fun hplain => hnonzero ?_ hzero⟩
  rwa [isOptional, hc] at hplain

namespace Plan

variable {db : Database σ} {plan : Plan} {node : PathNode} {type : String}
  {parents : List Entity} {w w₁ : World reg σ} {info : RelationInfo}

/-- What becomes of the pivot rows that store what was bound for a key of the parents. Such a row
makes the key again. If it is no zero, the rows with the related key are asked for and matched with
all parents that hold the key; otherwise the pivot row links nothing. -/
def GroupsBound (db : Database σ) (plan : Plan) (node : PathNode) (j : PivotJoin) (s : Schema)
    (parents : List Entity) (w w₁ : World reg σ) (staged : List (Nat × Entity)) : Prop :=
  (∃ p ∈ parents, s.keyText? j.parentKey p ≠ none) →
    ∃ pivots w₂,
      Answered db (j.statement (firstValues (s.keyPairs j.parentKey parents))) w w₂ pivots ∧
      ∀ key v, (key, v) ∈ s.keyPairs j.parentKey parents →
        ∃ raw, Key.ofValue v = .ok raw ∧ raw.encode = key ∧
          (s.isOptional j.parentKey = false → raw.isZero = false) ∧
          ∀ r ∈ pivots, ∀ related k, r.get? j.foreignPivotKey = some v →
            r.get? j.relatedPivotKey = some related → Key.ofValue related = .ok k →
            k.isZero = false →
            (raw.isZero = true → j.linkOf? r = none) ∧
            (raw.isZero = false → ∃ target rows,
              (k.encode, related) ∈ j.linked s parents pivots ∧
              Selected db plan node j.target j.table
                (among j.relatedKey (firstValues (j.linked s parents pivots))) w₂ w₁ target rows ∧
              ∀ row ∈ rows, target.keyText? j.relatedKey row = some k.encode →
                ∀ i p, parents[i]? = some p → s.keyText? j.parentKey p = some key →
                  (i, row) ∈ staged)

theorem GroupsBound.after {j : PivotJoin} {s : Schema} {staged : List (Nat × Entity)}
    {w' : World reg σ} (h : GroupsBound db plan node j s parents w' w₁ staged)
    (hw : Untouched w w') : GroupsBound db plan node j s parents w w₁ staged := by
  intro hsome
  obtain ⟨pivots, w₂, hanswered, hrest⟩ := h hsome
  exact ⟨pivots, w₂, hanswered.after hw, hrest⟩

theorem groups_bound {j : PivotJoin} {s : Schema} {staged : List (Nat × Entity)}
    (hparents : ∀ p ∈ parents, s.Typed p)
    (h : (plan.stagePivot db node j s parents).run w = (.ok staged, w₁)) :
    GroupsBound db plan node j s parents w w₁ staged := by
  intro hsome
  obtain ⟨column, index, hcolumn, hindex, hcases⟩ := stagePivot_eq_ok h
  obtain ⟨hnone, -⟩ | ⟨-, pivots, links, w₂, -, hanswered, hlinks, hlinked⟩ := hcases
  · exact absurd hsome (exists_keyText?_of_isEmpty hcolumn hindex hnone)
  have hvalues : index.values = firstValues (s.keyPairs j.parentKey parents) := by
    rw [(KeyIndex.holds_ofBatch hindex).values_eq, Schema.keyPairs, hcolumn]
  have hlink := PivotJoin.links_of_links hlinks
  have hasked := hlink.holds
  rw [linkedPairs_eq hcolumn hindex] at hasked
  refine ⟨pivots, w₂, hvalues ▸ hanswered, fun key v hbound => ?_⟩
  obtain ⟨raw, hraw, rfl, hplain⟩ := Schema.exists_ofValue_of_keyPairs hparents hbound
  refine ⟨raw, hraw, rfl, hplain, fun r hr related k howner htarget hk hkzero => ?_⟩
  have hlinkOf := PivotJoin.linkOf?_eq howner hraw htarget hk
  constructor
  · intro hzero
    rw [hlinkOf, hzero]
    rfl
  intro hzero
  rw [hzero, hkzero] at hlinkOf
  have hpair : (k.encode, related) ∈ j.linked s parents pivots := by
    obtain ⟨c, p, hc, hp, hkeyPair⟩ := Schema.exists_of_keyPairs hbound
    have hheld : ∃ p ∈ parents, s.keyText? j.parentKey p = some raw.encode := by
      refine ⟨p, hp, ?_⟩
      rw [Schema.keyText?, hc, Option.bind_some, ← Row.fst_keyPair?, hkeyPair]
      rfl
    refine List.mem_filterMap.2 ⟨r, hr, ?_⟩
    rw [hlinkOf]
    exact if_pos hheld
  obtain ⟨hnone, -⟩ | ⟨-, target, rows, hselected, hstaged⟩ := hlinked
  · rw [hasked.isEmpty_eq.1 hnone] at hpair
    cases hpair
  rw [hasked.values_eq] at hselected
  refine ⟨target, rows, hpair, hselected, fun row hrow hrowKey i p hp hpKey => ?_⟩
  cases hc : target.column? j.relatedKey with
  | none => simp [Schema.keyText?, hc] at hrowKey
  | some c =>
    rw [hc] at hstaged
    rw [Schema.keyText?, hc, Option.bind_some] at hrowKey
    refine (KeyIndex.mem_correlate hlink.nodup hstaged).2 ⟨hrow, k.encode, hrowKey, ?_⟩
    refine (hlink.mem_positions _ _).2 ⟨r, hr, _, hlinkOf, rfl, ?_⟩
    exact (mem_positions_of_column hcolumn hindex).2 ⟨p, hp, hpKey⟩

/-- **What is bound for a key finds its parents again.** The raw key of what is bound for a value
has the text of the value's own key, for every type that has keys. So a pivot row that stores what
was bound for parents is matched with them, unless it stores the zero of its representation. -/
theorem stage_groups_bound {descend : String → List Entity → Run reg σ (List Entity)} {s : Schema}
    {j : PivotJoin} {kind : RelationKind} {target : String} {staged : List (Nat × Entity)} :
    (∀ t : ColumnType, t.keyClass? ≠ none → ∀ x : t.Carrier, ∃ raw key,
      Key.ofValue (t.toSql x) = .ok raw ∧ t.toKey x = .ok key ∧ raw.encode = key.encode) ∧
    (reg.schema type = .ok s → plan.descriptor? type node = some (.belongsToMany j) →
      (∀ p ∈ parents, s.Typed p) →
      (plan.stage db descend node type parents).run w = (.ok (info, .rows kind target staged), w₁) →
      GroupsBound db plan node j s parents w w₁ staged) := by
  constructor
  · intro t ht x
    obtain ⟨key, hkey⟩ := ColumnType.exists_toKey ht x
    obtain ⟨raw, hraw, hencode, -⟩ := ColumnType.exists_ofValue_toSql hkey
    exact ⟨raw, key, hraw, hkey, hencode⟩
  · intro hs hd hparents hstage
    rw [stage_of_pivot hd] at hstage
    obtain ⟨s', w₂, -, hw₂, hstage⟩ := (ensures_schema type).quiet.bind_eq_ok hstage
    obtain rfl : s = s' := Except.ok.inj (hs.symm.trans s'.property)
    obtain ⟨info', w₃, hrelation, hstage⟩ := bind_eq_ok hstage
    obtain ⟨-, rfl⟩ := ofExcept_eq_ok hrelation
    obtain ⟨rows, w₄, hrows, hpure⟩ := bind_eq_ok hstage
    cases hpure
    exact (groups_bound hparents hrows).after hw₂

/-- The posts with the key 2 are matched with the tags that a pivot row stores for the 2 that was
bound for them; what is bound for the greatest number of 64 bits makes its key again. -/
theorem stage_groups_bound_tags :
    let w : World tagRegistry Unit := { catalog := .empty _ {}, state := () }
    let node : PathNode := ⟨"Tags", "Tags", none, []⟩
    (∃ raw key, Key.ofValue (.text "18446744073709551615") = .ok raw ∧
      (ColumnType.int .u64).toKey ⟨18446744073709551615, by decide⟩ = .ok key ∧
      raw.encode = key.encode) ∧
    ∃ s w₁ staged, tagRegistry.schema "Post" = .ok s ∧
      ("2", .int 2) ∈ s.keyPairs "id" fourPosts ∧
      GroupsBound tagDatabase tagPlan node tagsOfPosts s fourPosts w w₁ staged := by
  intro w node
  obtain ⟨s, hs⟩ : ∃ s, tagRegistry.schema "Post" = .ok s := ⟨_, rfl⟩
  have hparents : ∀ p ∈ fourPosts, s.Typed p := by
    intro p hp
    refine Schema.typed_of_types ?_
    cases hs
    revert p
    decide
  have hpair : ("2", .int 2) ∈ s.keyPairs "id" fourPosts := by
    cases hs
    decide +kernel
  have hok : (match (tagPlan.stage tagDatabase (tagPlan.below tagDatabase node) node "Post"
      fourPosts).run w with
    | (.ok (_, .rows ..), _) => true
    | _ => false) = true := by decide +kernel
  split at hok
  · next info kind target staged w₁ hstage =>
    obtain ⟨hforms, hgroups⟩ := @stage_groups_bound _ _ tagDatabase tagPlan node "Post" fourPosts w
      w₁ info (tagPlan.below tagDatabase node) s tagsOfPosts kind target staged
    refine ⟨?_, s, w₁, staged, hs, hpair, hgroups hs rfl hparents hstage⟩
    exact hforms (.int .u64) nofun ⟨18446744073709551615, by decide⟩
  · cases hok

/-! A post with the key zero in an optional column, which a pivot row stores as it was bound. -/

def zeroTagRegistry : Registry :=
  ⟨[{ type := "Post", table := some "posts", members :=
        [.column "id" (.optional (.int .i64)) (some "id") true false,
          .relation "tags" (.belongsToMany "Tag") { name := some "Tags" }] },
    { type := "Tag", table := some "tags", members :=
        [.column "id" (.int .i64) (some "id") true false] }]⟩

def zeroTagDatabase : Database Unit where
  answer s _ :=
    match s with
    | .select table _ _ =>
      if table = "post_tag" then (.ok [⟨[("post_id", .int 0), ("tag_id", .int 3)]⟩], ())
      else (.ok [⟨[("id", .int 3)]⟩], ())
    | _ => (.ok [], ())

def zeroPost : Entity :=
  ⟨"Post", [.cell ⟨.optional (.int .i64), some (Column.IntType.zero .i64)⟩, .many []]⟩

/-- **A pivot row with what was bound is passed over**: zero is bound for the key of the post, and
the pivot row stores it, but the tag is never asked for and the post is left without tags. -/
theorem loadPaths_drops_bound_zero :
    let w : World zeroTagRegistry Unit := { catalog := .empty _ {}, state := () }
    let loaded := loadPaths zeroTagDatabase ["Tags"] "Post" [zeroPost] w
    loaded.1.failure = none ∧
      loaded.2.issued = [.select "post_tag" ["post_id", "tag_id"] (among "post_id" [.int 0])] ∧
      loaded.1.entities.map (fun e => (e.children 1).length) = [0] := by
  decide +kernel

end Plan

end EntityGraph
