import EntityGraph.Load.Level
import Mathlib.Data.List.Nodup

/-!
# Matching rows to parents

An index holds, under every key, the positions that were inserted with it, in order
(`positions_insert`). For a whole batch these are the positions of the entities with that key
(`positions_ofBatch`), so what is staged for one position is the rows with the key of the entity
there, in the order of the rows (`atPosition_correlate`).
-/

namespace EntityGraph

/-- The encoded key that an entity holds in a column, none if it holds the zero of the column. -/
def Row.keyText? (e : Entity) (column : ColumnInfo) : Option String := do
  let cell ← e.cell? column.path
  if cell.isZero then none else
  let key ← cell.toKey.toOption
  pure key.encode

theorem Row.keyText?_eq {e : Entity} {column : ColumnInfo} {key : Option (String × Sql.Value)}
    (h : e.joinKey? column = .ok key) : e.keyText? column = key.map Prod.fst := by
  unfold joinKey? at h
  unfold keyText?
  cases hcell : e.cell? column.path with
  | none =>
    rw [hcell] at h
    cases h
    rfl
  | some c =>
    simp only [hcell] at h
    by_cases hzero : c.isZero = true
    · rw [if_pos hzero] at h
      cases h
      simp [hzero]
    · rw [if_neg hzero] at h
      cases hkey : c.toKey with
      | error why => simp [hkey] at h
      | ok key =>
        rw [hkey] at h
        cases h
        simp [hzero, hkey, Except.toOption]

namespace KeyIndex

/-! ### Inserting -/

/-- The positions under a key, none for a key that is not held. -/
def positions (i : KeyIndex) (key : String) : List Nat := (i.get? key).getD []

theorem join?_eq_none {key : String} {position : Nat} {groups : List (String × List Nat)}
    (h : join? key position groups = none) : groups.lookup key = none := by
  induction groups with
  | nil => rfl
  | cons g groups ih =>
    obtain ⟨k, ps⟩ := g
    rw [join?] at h
    by_cases hk : k = key
    · simp [hk] at h
    · rw [if_neg hk, Option.map_eq_none_iff] at h
      rw [List.lookup_cons, beq_eq_false_iff_ne.2 (Ne.symm hk)]
      exact ih h

theorem join?_eq_some {key : String} {position : Nat} {groups joined : List (String × List Nat)}
    (h : join? key position groups = some joined) (k : String) :
    (joined.lookup k).getD []
      = (groups.lookup k).getD [] ++ if k = key then [position] else [] := by
  induction groups generalizing joined with
  | nil => simp [join?] at h
  | cons g groups ih =>
    obtain ⟨k', ps⟩ := g
    rw [join?] at h
    by_cases hk : k' = key
    · rw [if_pos hk, Option.some_inj] at h
      subst h hk
      rw [List.lookup_cons, List.lookup_cons]
      by_cases hkk : k = k'
      · simp [hkk]
      · simp [hkk, beq_eq_false_iff_ne.2 hkk]
    · rw [if_neg hk, Option.map_eq_some_iff] at h
      obtain ⟨rest, hrest, rfl⟩ := h
      rw [List.lookup_cons, List.lookup_cons]
      by_cases hkk : k = k'
      · subst hkk
        simp [hk]
      · rw [beq_eq_false_iff_ne.2 hkk]
        exact ih hrest

@[simp] theorem positions_empty (k : String) : ({} : KeyIndex).positions k = [] := rfl

/-- An insertion adds its position at the end of its group, and to no other group. -/
theorem positions_insert (i : KeyIndex) (key : String) (value : Sql.Value) (position : Nat)
    (k : String) :
    (i.insert key value position).positions k
      = i.positions k ++ if k = key then [position] else [] := by
  rw [insert]
  cases h : join? key position i.groups with
  | some joined => exact join?_eq_some h k
  | none =>
    have hnone := join?_eq_none h
    simp only [positions, get?, List.lookup_append, List.lookup_cons, List.lookup_nil]
    by_cases hk : k = key
    · simp [hk, hnone]
    · simp [hk, beq_eq_false_iff_ne.2 hk]

theorem isEmpty_insert (i : KeyIndex) (key : String) (value : Sql.Value) (position : Nat)
    (h : i.isEmpty = true → i.groups = []) :
    (i.insert key value position).isEmpty = false := by
  rw [insert]
  cases hjoin : join? key position i.groups with
  | some joined =>
    cases hempty : i.isEmpty with
    | true =>
      rw [h hempty] at hjoin
      simp [join?] at hjoin
    | false => exact hempty
  | none => simp [isEmpty]

/-! ### Batches -/

/-- The positions of the entities with a key, the first one at a position. -/
def keyed (column : ColumnInfo) (start : Nat) (batch : List Entity) (k : String) : List Nat :=
  ((batch.zipIdx start).filter fun p => p.1.keyText? column = some k).map Prod.snd

theorem keyed_cons (column : ColumnInfo) (start : Nat) (e : Entity) (batch : List Entity)
    (k : String) :
    keyed column start (e :: batch) k
      = (if e.keyText? column = some k then [start] else [])
        ++ keyed column (start + 1) batch k := by
  rw [keyed, List.zipIdx_cons, List.filter_cons]
  by_cases h : e.keyText? column = some k <;> simp [h, keyed]

theorem positions_addAll {column : ColumnInfo} {start : Nat} {batch : List Entity}
    {i i' : KeyIndex} (h : addAll column start batch i = .ok i') (k : String) :
    i'.positions k = i.positions k ++ keyed column start batch k := by
  fun_induction addAll column start batch i with
  | case1 start i =>
    cases h
    simp [keyed]
  | case2 start e rest i hkey ih =>
    rw [ih h, keyed_cons, Row.keyText?_eq hkey]
    simp
  | case3 start e rest i key value hkey ih =>
    rw [ih h, keyed_cons, Row.keyText?_eq hkey, positions_insert]
    simp [eq_comm]
  | case4 start e rest i why hkey => simp at h

/-- **The positions under a key are those of the entities with the key, in order.** -/
theorem positions_ofBatch {column : ColumnInfo} {batch : List Entity} {i : KeyIndex}
    (h : ofBatch column batch = .ok i) (k : String) : i.positions k = keyed column 0 batch k := by
  simpa using positions_addAll h k

theorem mem_keyed {column : ColumnInfo} {batch : List Entity} {k : String} {position : Nat} :
    position ∈ keyed column 0 batch k ↔
      ∃ e, batch[position]? = some e ∧ e.keyText? column = some k := by
  simp [keyed, List.mem_zipIdx_iff_getElem?]

theorem nodup_keyed (column : ColumnInfo) (batch : List Entity) (k : String) :
    (keyed column 0 batch k).Nodup := by
  refine List.Nodup.sublist (List.filter_sublist.map Prod.snd) ?_
  rw [List.zipIdx_map_snd]
  exact List.nodup_range'

theorem isEmpty_addAll {column : ColumnInfo} {start : Nat} {batch : List Entity}
    {i i' : KeyIndex} (h : addAll column start batch i = .ok i')
    (hi : i.isEmpty = true → i.groups = []) :
    i'.isEmpty = (i.isEmpty && batch.all fun e => (e.keyText? column).isNone) := by
  fun_induction addAll column start batch i with
  | case1 start i =>
    cases h
    simp
  | case2 start e rest i hkey ih =>
    rw [ih h hi, List.all_cons, Row.keyText?_eq hkey]
    simp
  | case3 start e rest i key value hkey ih =>
    have hinsert := isEmpty_insert i key value start hi
    rw [ih h (by simp [hinsert]), List.all_cons, Row.keyText?_eq hkey, hinsert]
    simp
  | case4 start e rest i why hkey => simp at h

/-- An index is empty just if no entity of the batch has a key. -/
theorem isEmpty_ofBatch {column : ColumnInfo} {batch : List Entity} {i : KeyIndex}
    (h : ofBatch column batch = .ok i) :
    i.isEmpty = true ↔ ∀ e ∈ batch, e.keyText? column = none := by
  rw [isEmpty_addAll h fun _ => rfl]
  simp [isEmpty]

/-! ### Rows -/

theorem matching_eq {i : KeyIndex} {column : ColumnInfo} {e : Entity} {ps : List Nat}
    (h : i.matching column e = .ok ps) :
    ps = (e.keyText? column).elim [] i.positions := by
  rw [matching] at h
  cases hkey : e.joinKey? column with
  | error why => simp [hkey] at h
  | ok key =>
    rw [Row.keyText?_eq hkey]
    cases key with
    | none =>
      rw [hkey] at h
      cases h
      rfl
    | some pair =>
      rw [hkey] at h
      cases h
      rfl

theorem atPosition_append {α : Type} (xs ys : List (Nat × α)) (position : Nat) :
    Staged.atPosition (xs ++ ys) position
      = Staged.atPosition xs position ++ Staged.atPosition ys position := by
  simp [Staged.atPosition]

/-- A row that is paired with positions once each is staged once for every one of them. -/
theorem atPosition_pairs {α : Type} {ps : List Nat} (h : ps.Nodup) (a : α) (position : Nat) :
    Staged.atPosition (ps.map (·, a)) position = if position ∈ ps then [a] else [] := by
  have hpairs : Staged.atPosition (ps.map (·, a)) position
      = (ps.filter (· = position)).map fun _ => a := by
    simp [Staged.atPosition, List.filter_map, Function.comp_def]
  rw [hpairs, List.filter_eq, List.map_replicate]
  by_cases hmem : position ∈ ps
  · rw [List.count_eq_one_of_mem h hmem, if_pos hmem]
    rfl
  · rw [List.count_eq_zero_of_not_mem hmem, if_neg hmem]
    rfl

/-- Whether the key of a row is held with a position. -/
def leadsTo (i : KeyIndex) (column : ColumnInfo) (position : Nat) (row : Entity) : Bool :=
  (row.keyText? column).any fun key => (i.positions key).contains position

theorem atPosition_matching {i : KeyIndex} (hi : ∀ key, (i.positions key).Nodup)
    {column : ColumnInfo} {row : Entity} {ps : List Nat} (h : i.matching column row = .ok ps)
    (position : Nat) :
    Staged.atPosition (ps.map (·, row)) position
      = if i.leadsTo column position row then [row] else [] := by
  rw [matching_eq h, leadsTo]
  cases row.keyText? column with
  | none => simp [Staged.atPosition]
  | some key => simp [atPosition_pairs (hi key) row position]

/-- **What is staged for a position is the rows that lead to it, in their order.** -/
theorem atPosition_correlate {i : KeyIndex} (hi : ∀ key, (i.positions key).Nodup)
    {column : ColumnInfo} {rows : List Entity} {staged : List (Nat × Entity)}
    (h : i.correlate column rows = .ok staged) (position : Nat) :
    Staged.atPosition staged position = rows.filter (i.leadsTo column position) := by
  induction rows generalizing staged with
  | nil =>
    cases h
    rfl
  | cons row rows ih =>
    rw [correlate] at h
    cases hmatch : i.matching column row with
    | error why => simp [hmatch, bind, Except.bind] at h
    | ok ps =>
      cases hrest : i.correlate column rows with
      | error why => simp [hmatch, hrest, bind, Except.bind] at h
      | ok others =>
        simp only [hmatch, hrest, bind, Except.bind, pure, Except.pure, Except.ok.injEq] at h
        subst h
        rw [atPosition_append, atPosition_matching hi hmatch, ih hrest, List.filter_cons]
        split <;> rfl

/-- A row is matched with the positions that are indexed under its key. -/
theorem mem_correlate {index : KeyIndex} (hnodup : ∀ key, (index.positions key).Nodup)
    {c : ColumnInfo} {rows : List Entity} {staged : List (Nat × Entity)}
    (h : index.correlate c rows = .ok staged) {i : Nat} {row : Entity} :
    (i, row) ∈ staged ↔
      row ∈ rows ∧ ∃ key, row.keyText? c = some key ∧ i ∈ index.positions key := by
  have hmem : (i, row) ∈ staged ↔ row ∈ Staged.atPosition staged i := by
    simp [Staged.atPosition]
  rw [hmem, atPosition_correlate hnodup h, List.mem_filter, leadsTo]
  simp [Option.any_eq_true]

/-! ### Success -/

/-- A batch is indexed just if every entity has a key or none. -/
theorem exists_addAll_iff {column : ColumnInfo} {start : Nat} {batch : List Entity}
    {i : KeyIndex} : (∃ i', addAll column start batch i = .ok i') ↔
      ∀ e ∈ batch, ∃ key, e.joinKey? column = .ok key := by
  fun_induction addAll column start batch i with
  | case1 start i => simp
  | case2 start e rest i hkey ih => simp [ih, hkey]
  | case3 start e rest i key value hkey ih => simp [ih, hkey]
  | case4 start e rest i why hkey => simp [hkey]

theorem exists_ofBatch_iff {column : ColumnInfo} {batch : List Entity} :
    (∃ i, ofBatch column batch = .ok i) ↔ ∀ e ∈ batch, ∃ key, e.joinKey? column = .ok key :=
  exists_addAll_iff

/-- Rows are matched just if every one of them has a key or none. -/
theorem exists_correlate_iff (index : KeyIndex) {column : ColumnInfo} {rows : List Entity} :
    (∃ staged, index.correlate column rows = .ok staged) ↔
      ∀ e ∈ rows, ∃ key, e.joinKey? column = .ok key := by
  induction rows with
  | nil => simp [correlate]
  | cons e rows ih =>
    rw [List.forall_mem_cons, ← ih, correlate, matching]
    cases hkey : e.joinKey? column with
    | error why => simp [bind, Except.bind]
    | ok key =>
      cases key <;> cases index.correlate column rows <;>
        simp [bind, Except.bind, pure, Except.pure]

end KeyIndex

end EntityGraph
