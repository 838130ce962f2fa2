import EntityGraph.Proofs.Run

/-!
# Late errors

What is done with rows in memory, once a statement has been answered, fails for a key or for a row
and for no other reason. Together with the failures of the database itself these are the late
errors: none of them can be known before statements are issued.
-/

namespace EntityGraph

open Run (Ends)

/-- The error lies with the database, a key or a row, and not with a name or a relation. -/
def Error.isLate : Error → Bool
  | query _ _ _ | key _ | decode _ _ => true
  | _ => false

/-- The error lies with a name, a path or a relation. -/
def Error.isEarly : Error → Bool
  | unknownRelation _ _ | identifier _ | misconfigured _ _ _ | path _ => true
  | _ => false

/-- If the computation fails, it fails late. -/
def Late {α : Type} (y : Except Error α) : Prop := Ends (fun e => e.isLate = true) (fun _ => True) y

variable {α β : Type}

namespace Late

theorem ok (a : α) : Late (.ok a) := trivial

theorem bind {y : Except Error α} {f : α → Except Error β} (hy : Late y) (hf : ∀ a, Late (f a)) :
    Late (y >>= f) := by
  cases y with
  | error e => exact hy
  | ok a => exact hf a

theorem mapM {f : α → Except Error β} (hf : ∀ a, Late (f a)) (as : List α) :
    Late (as.mapM f) := by
  induction as with
  | nil => exact ok _
  | cons a as ih =>
    rw [List.mapM_cons]
    exact (hf a).bind fun b => ih.bind fun bs => ok (b :: bs)

theorem foldlM {f : β → α → Except Error β} (hf : ∀ b a, Late (f b a)) (as : List α) (b : β) :
    Late (as.foldlM f b) := by
  induction as generalizing b with
  | nil => exact ok b
  | cons a as ih =>
    rw [List.foldlM_cons]
    exact (hf b a).bind ih

end Late

/-! ### Rows -/

theorem Schema.late_readColumns (s : Schema) (e : Entity) (columns : List (String × Sql.Value)) :
    Late (s.readColumns e columns) := by
  induction columns generalizing e with
  | nil => exact .ok e
  | cons p columns ih =>
    obtain ⟨name, v⟩ := p
    refine Late.bind ?_ ih
    unfold readColumn
    split
    · exact .ok e
    · split
      · exact .ok _
      · rfl

theorem Schema.late_scanAll (s : Schema) (records : List Sql.Record) : Late (s.scanAll records) :=
  Late.mapM (f := s.scan) (fun r => s.late_readColumns s.fresh r.columns) records

/-! ### Keys -/

theorem Row.late_joinKey? (e : Entity) (column : ColumnInfo) : Late (e.joinKey? column) := by
  unfold joinKey?
  split
  · exact .ok _
  · split
    · exact .ok _
    · split
      · exact .ok _
      · rfl

namespace KeyIndex

theorem late_addAll (column : ColumnInfo) (start : Nat) (batch : List Entity) (i : KeyIndex) :
    Late (addAll column start batch i) := by
  fun_induction addAll column start batch i with
  | case1 start i => exact .ok i
  | case2 start e rest i hkey ih => exact ih
  | case3 start e rest i key value hkey ih => exact ih
  | case4 start e rest i why hkey =>
    have hlate := e.late_joinKey? column
    rwa [hkey] at hlate

theorem late_ofBatch (column : ColumnInfo) (batch : List Entity) : Late (ofBatch column batch) :=
  late_addAll column 0 batch {}

theorem late_matching (i : KeyIndex) (column : ColumnInfo) (e : Entity) :
    Late (i.matching column e) := by
  have hlate := e.late_joinKey? column
  unfold matching
  split
  · exact .ok _
  · exact .ok _
  · next why hkey => rwa [hkey] at hlate

theorem late_correlate (i : KeyIndex) (column : ColumnInfo) (rows : List Entity) :
    Late (i.correlate column rows) := by
  induction rows with
  | nil => exact .ok []
  | cons row rows ih => exact (i.late_matching column row).bind fun _ => ih.bind fun _ => .ok _

end KeyIndex

theorem PivotJoin.late_links (j : PivotJoin) (parents : KeyIndex) (rows : List Sql.Record) :
    Late (j.links parents rows) := by
  refine Late.foldlM (f := j.link parents) (fun links r => ?_) rows {}
  unfold link
  have hkey : ∀ v, Late ((Key.ofValue v).mapError Error.key) := by
    intro v
    cases Key.ofValue v with
    | error why => rfl
    | ok key => exact .ok key
  split
  · next owner target _ _ =>
    refine (hkey owner).bind fun ownerKey => (hkey target).bind fun targetKey => ?_
    split <;> exact .ok _
  · exact .ok links

theorem OwnerJoin.late_groups (type id : ColumnInfo) (parents : List Entity) :
    Late (groups type id parents) := by
  have hadd : ∀ start found, Late (addParents type id start parents found) := by
    intro start found
    fun_induction addParents type id start parents found with
    | case1 start found => exact .ok found
    | case2 start e rest found htype ih => exact ih
    | case3 start e rest found discriminator htype hkey ih => exact ih
    | case4 start e rest found discriminator htype key value hkey ih => exact ih
    | case5 start e rest found discriminator htype why hkey =>
      have hlate := e.late_joinKey? id
      rwa [hkey] at hlate
  exact hadd 0 .empty

end EntityGraph
