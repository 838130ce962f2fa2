import EntityGraph.Proofs.Load.Carrying
import EntityGraph.Proofs.Load.Indexing
import EntityGraph.Proofs.Load.Keyed

/-!
# What relations to owners of several types hold

The parents are grouped by the discriminator that they hold, and every group whose discriminator is
mapped takes one statement, in ascending order of the discriminators (`FoundAll`). A parent then
holds the first row that was answered for its discriminator and has the key that the parent refers
to, or nothing (`loadNode_morphTo`). What the relation held before does not matter, and a
discriminator that is not mapped is passed over.
-/

namespace EntityGraph

open Sql (Statement Record)

variable {reg : Registry} {σ : Type}

/-! ### What is to be held -/

/-- What was answered for a discriminator. -/
structure Owners where
  discriminator : String
  schema : Schema
  /-- The column that the parents refer to. -/
  column : ColumnInfo
  statement : Statement
  rows : List Entity

namespace Owners

/-- The first row with the key that a parent refers to. -/
def rowFor? (g : Owners) (idColumn : ColumnInfo) (parent : Entity) : Option Entity :=
  (parent.keyText? idColumn).bind fun key =>
    g.rows.find? fun row => row.keyText? g.column = some key

/-- The row that a parent refers to by its discriminator and its key. -/
def refer? (typeColumn idColumn : ColumnInfo) (found : List Owners) (parent : Entity) :
    Option (Owners × Entity) := do
  let discriminator ← OwnerJoin.discriminatorOf typeColumn parent
  let g ← found.find? (·.discriminator = discriminator)
  let row ← g.rowFor? idColumn parent
  pure (g, row)

/-- A row stands under its discriminator, with the relations that were loaded below it. -/
structure IsOwner (types : OwnerTypes) (children : List PathNode) (r : Owners × Entity)
    (value : String × Entity) : Prop where
  discriminator_eq : value.1 = r.1.discriminator
  type_eq : types.get? value.1 = some value.2.type
  keeps : r.1.schema.Keeps r.2 value.2
  eq_row : children = [] → value.2 = r.2

section
variable {typeColumn idColumn : ColumnInfo} {g : Owners} {p : Entity}

theorem refer?_of_find? {found : List Owners} {discriminator : String}
    (h : OwnerJoin.discriminatorOf typeColumn p = some discriminator)
    (hg : found.find? (·.discriminator = discriminator) = some g) :
    refer? typeColumn idColumn found p = (g.rowFor? idColumn p).map (g, ·) := by
  simp only [refer?, h, hg, Option.bind_eq_bind, Option.bind_some]
  cases g.rowFor? idColumn p <;> rfl

theorem refer?_cons_of_eq (found : List Owners)
    (h : OwnerJoin.discriminatorOf typeColumn p = some g.discriminator) :
    refer? typeColumn idColumn (g :: found) p = (g.rowFor? idColumn p).map (g, ·) :=
  refer?_of_find? h (by simp)

theorem refer?_cons_of_ne (found : List Owners)
    (h : OwnerJoin.discriminatorOf typeColumn p ≠ some g.discriminator) :
    refer? typeColumn idColumn (g :: found) p = refer? typeColumn idColumn found p := by
  unfold refer?
  cases hd : OwnerJoin.discriminatorOf typeColumn p with
  | none => rfl
  | some d =>
    have hne : g.discriminator ≠ d := fun heq => h (by rw [hd, heq])
    simp [hne]

theorem refer?_eq_none {found : List Owners}
    (h : OwnerJoin.discriminatorOf typeColumn p = some g.discriminator)
    (hfound : ∀ g' ∈ found, g'.discriminator ≠ g.discriminator) :
    refer? typeColumn idColumn found p = none := by
  have hnone : found.find? (·.discriminator = g.discriminator) = none := by
    simpa [List.find?_eq_none] using hfound
  simp [refer?, h, hnone]

end

theorem eq_none_of_rel {types : OwnerTypes} {children : List PathNode}
    {owner : Option (String × Entity)} (h : Option.Rel (IsOwner types children) none owner) :
    owner = none := by
  cases h
  rfl

/-- Without levels below, the owners are the rows that were found. -/
theorem eq_of_rel {types : OwnerTypes} {refer : Option (Owners × Entity)}
    {owner : Option (String × Entity)} (h : Option.Rel (IsOwner types []) refer owner) :
    owner = refer.map fun r => (r.1.discriminator, r.2) := by
  cases h with
  | none => rfl
  | some h => exact congrArg some (Prod.ext h.discriminator_eq (h.eq_row rfl))

end Owners

theorem forall₂_find? {α β : Type} {R : α → β → Prop} {p : α → Bool} {q : β → Bool}
    (hpq : ∀ a b, R a b → q b = p a) {as : List α} {bs : List β} (h : List.Forall₂ R as bs) :
    Option.Rel R (as.find? p) (bs.find? q) := by
  induction h with
  | nil => exact .none
  | @cons a b as bs hab _ ih =>
    rw [List.find?_cons, List.find?_cons, hpq a b hab]
    cases p a with
    | true => exact .some hab
    | false => exact ih

theorem rel_map {α β γ δ : Type} {R : α → β → Prop} {S : γ → δ → Prop} {f : α → γ} {g : β → δ}
    (hS : ∀ a b, R a b → S (f a) (g b)) {a : Option α} {b : Option β} (h : Option.Rel R a b) :
    Option.Rel S (a.map f) (b.map g) := by
  cases h with
  | none => exact .none
  | some h => exact .some (hS _ _ h)

/-! ### One discriminator -/

namespace Plan

open Run

variable {db : Database σ} {plan : Plan} {node : PathNode} {type : String} {j : OwnerJoin}
  {parents : List Entity} {w w₁ w₂ : World reg σ} {info : RelationInfo}
  {typeColumn idColumn : ColumnInfo}

/-- One statement for the owners of a discriminator was answered, and what is below the owners was
loaded. -/
structure FoundOwners (db : Database σ) (plan : Plan) (node : PathNode) (j : OwnerJoin)
    (values : List Sql.Value) (w w₁ : World reg σ) (g : Owners) (owners : List Entity) :
    Prop where
  type_eq : j.types.get? g.discriminator = some g.schema.type
  schema_eq : reg.schema g.schema.type = .ok g.schema
  column_eq : j.column? g.schema = some g.column
  names_accepted : ∀ name ∈ (plan.eager.constrain node.path (among g.column.column values)).names,
    Sql.Accepted name
  table_accepted : Sql.Accepted g.schema.table
  statement_eq : ∃ columns, (node.columns = none → columns = g.schema.columnNames) ∧
    g.statement = .select g.schema.table columns
      (plan.eager.constrain node.path (among g.column.column values))
  answered : ∃ records w₂, Answered db g.statement w w₂ records ∧
    g.schema.scanAll records = .ok g.rows ∧
    plan.loadNodes db node.children g.schema.type g.rows w₂ = (⟨owners, none⟩, w₁)

theorem FoundOwners.after {values : List Sql.Value} {g : Owners} {owners : List Entity}
    (h : FoundOwners db plan node j values w₁ w₂ g owners) (hw : Untouched w w₁) :
    FoundOwners db plan node j values w w₂ g owners := by
  obtain ⟨records, w₃, hanswered, hrest⟩ := h.answered
  exact { h with answered := ⟨records, w₃, hanswered.after hw, hrest⟩ }

theorem FoundOwners.column?_eq {values : List Sql.Value} {g : Owners} {owners : List Entity}
    (h : FoundOwners db plan node j values w w₁ g owners) :
    g.schema.column? g.column.column = some g.column :=
  OwnerJoin.column?_column h.column_eq

/-- The owners are the rows, up to what was loaded below them. -/
theorem FoundOwners.forall₂ {values : List Sql.Value} {g : Owners} {owners : List Entity}
    (h : FoundOwners db plan node j values w w₁ g owners) :
    List.Forall₂ (fun row owner => row.type = g.schema.type ∧ g.schema.Keeps row owner ∧
      (node.children = [] → owner = row)) g.rows owners := by
  obtain ⟨records, w₂, -, hscan, hbelow⟩ := h.answered
  have hkeeps := loadNodes_below db plan h.schema_eq node.children g.rows w₂
  rw [hbelow] at hkeeps
  exact (List.forall₂_and_left _ _).2 ⟨Schema.type_of_scanAll hscan, hkeeps⟩

/-- A group that was staged has a discriminator that is not mapped, or its owners were found. -/
theorem stageOwners_eq_ok {d : String} {index : KeyIndex} {staged : List (Nat × (String × Entity))}
    (h : (plan.stageOwners db (plan.below db node) node j d index).run w = (.ok staged, w₁)) :
    (j.types.get? d = none ∧ staged = [] ∧ Untouched w w₁) ∨
      ∃ g owners correlated w₂, g.discriminator = d ∧
        FoundOwners db plan node j index.values w w₂ g owners ∧ Untouched w₂ w₁ ∧
        index.correlate g.column owners = .ok correlated ∧
        staged = correlated.map fun p => (p.1, d, p.2) := by
  unfold stageOwners at h
  split at h
  · next hnone =>
    obtain ⟨-, w₂, -, hevent, h⟩ := (quiet_emit _).bind_eq_ok h
    obtain ⟨rfl, rfl⟩ := pure_eq_ok h
    exact .inl ⟨hnone, rfl, hevent⟩
  · next type hsome =>
    obtain ⟨⟨s, hs⟩, w₂, -, hschema, h⟩ := (ensures_schema type).quiet.bind_eq_ok h
    have hown : Ensures (ownerColumn node j s : Run reg σ ColumnInfo) (fun _ => False) _ _ :=
      ensures_ownerColumn j hs
    obtain ⟨column, w₃, hcolumn, hresolved, h⟩ := hown.quiet.bind_eq_ok h
    obtain ⟨rows, w₄, hselect, h⟩ := bind_eq_ok h
    obtain ⟨owners, w₅, hbelow, h⟩ := bind_eq_ok h
    obtain ⟨correlated, w₆, hcorrelate, h⟩ := bind_eq_ok h
    obtain ⟨hcorrelated, rfl⟩ := ofExcept_eq_ok hcorrelate
    obtain ⟨-, w₇, -, hevent, h⟩ := (quiet_emit _).bind_eq_ok h
    obtain ⟨rfl, rfl⟩ := pure_eq_ok h
    obtain ⟨s', hs', hnames, htable, columns, records, hcolumns, hanswered, hscan⟩ :=
      select_eq_ok hselect
    obtain rfl : s = s' := Except.ok.inj (hs.symm.trans hs')
    obtain rfl : s.type = type := Registry.type_eq hs
    let statement := Statement.select s.table columns
      (plan.eager.constrain node.path (among column.column index.values))
    refine .inr ⟨⟨d, s, column, statement, rows⟩, owners, correlated, w₅, rfl, ?_, hevent,
      hcorrelated, rfl⟩
    exact ⟨hsome, hs, hown.of_ok hcolumn, hnames, htable, ⟨columns, hcolumns, rfl⟩, records, w₄,
      hanswered.after (hschema.trans hresolved), hscan, ofLoaded_eq_ok hbelow⟩

/-- A discriminator that is not mapped does not fail. -/
theorem stageOwners_unmapped {d : String} (hd : j.types.get? d = none)
    (descend : String → List Entity → Run reg σ (List Entity)) (index : KeyIndex) :
    Ensures (plan.stageOwners db descend node j d index) (fun _ => False) (fun _ => False)
      (· = []) := by
  unfold stageOwners
  rw [hd]
  exact (ensures_emit _).bind fun _ _ => Ensures.pure rfl

theorem leadsTo_group {d : String} {index : KeyIndex}
    (hindex : OwnerJoin.Group typeColumn idColumn parents d index) {i : Nat} {p : Entity}
    (hp : parents[i]? = some p) (column : ColumnInfo) (row : Entity) :
    index.leadsTo column i row = true ↔ OwnerJoin.discriminatorOf typeColumn p = some d ∧
      ∃ key, p.keyText? idColumn = some key ∧ row.keyText? column = some key := by
  rw [KeyIndex.leadsTo]
  cases hkey : row.keyText? column with
  | none => simp
  | some key => simp [hindex.mem_positions, hp]

theorem atPosition_map {α β : Type} (f : α → β) (staged : List (Nat × α)) (i : Nat) :
    Staged.atPosition (staged.map fun p => (p.1, f p.2)) i
      = (Staged.atPosition staged i).map f := by
  simp [Staged.atPosition, List.filter_map, Function.comp_def]

/-- What is staged for a parent of a group, if anything, comes first for the first row that the
parent refers to. -/
theorem head?_staged {index : KeyIndex} {g : Owners} {owners : List Entity}
    {correlated : List (Nat × Entity)}
    (hindex : OwnerJoin.Group typeColumn idColumn parents g.discriminator index)
    (hfinds : FoundOwners db plan node j index.values w w₁ g owners)
    (hcorrelated : index.correlate g.column owners = .ok correlated) {i : Nat} {p : Entity}
    (hp : parents[i]? = some p) :
    Option.Rel (Owners.IsOwner j.types node.children)
      (if OwnerJoin.discriminatorOf typeColumn p = some g.discriminator then
        (g.rowFor? idColumn p).map (g, ·) else none)
      (Staged.atPosition (correlated.map fun p => (p.1, g.discriminator, p.2)) i).head? := by
  rw [atPosition_map, List.head?_map, KeyIndex.atPosition_correlate hindex.nodup hcorrelated,
    List.head?_filter]
  have hleads := leadsTo_group hindex hp g.column
  by_cases hd : OwnerJoin.discriminatorOf typeColumn p = some g.discriminator
  · rw [if_pos hd, Owners.rowFor?]
    cases hkey : p.keyText? idColumn with
    | none =>
      have hnone : owners.find? (index.leadsTo g.column i) = none := by
        rw [List.find?_eq_none]
        simp [hleads, hkey]
      rw [hnone]
      exact .none
    | some key =>
      rw [Option.bind_some]
      refine rel_map (fun row owner h => ⟨rfl, ?_, h.2.1, h.2.2⟩)
        (forall₂_find? (fun row owner h => ?_) hfinds.forall₂)
      · have hcell := h.2.1.cell?_eq hfinds.schema_eq (Schema.mem_of_column? hfinds.column?_eq)
        have hsame : owner.keyText? g.column = row.keyText? g.column := by
          rw [Row.keyText?, hcell, Row.keyText?]
        rw [Bool.eq_iff_iff, hleads]
        simp [hd, hkey, hsame]
      · show j.types.get? g.discriminator = some owner.type
        rw [hfinds.type_eq, h.2.1.type_eq, h.1]
  · have hnone : owners.find? (index.leadsTo g.column i) = none := by
      rw [List.find?_eq_none]
      simp [hleads, hd]
    rw [if_neg hd, hnone]
    exact .none

/-! ### All discriminators -/

/-- The mapped ones among some discriminators were looked up one after the other, and no others. -/
inductive FoundAll (db : Database σ) (plan : Plan) (node : PathNode) (j : OwnerJoin)
    (values : String → List Sql.Value) :
    List String → World reg σ → World reg σ → List Owners → Prop
  | done {w w₁ : World reg σ} (h : Untouched w w₁) : FoundAll db plan node j values [] w w₁ []
  | unmapped {d : String} {ds : List String} {w w₁ : World reg σ} {found : List Owners}
    (hd : j.types.get? d = none) (rest : FoundAll db plan node j values ds w w₁ found) :
    FoundAll db plan node j values (d :: ds) w w₁ found
  | mapped {ds : List String} {w w₁ w₂ : World reg σ} {g : Owners} {owners : List Entity}
    {found : List Owners}
    (first : FoundOwners db plan node j (values g.discriminator) w w₁ g owners)
    (rest : FoundAll db plan node j values ds w₁ w₂ found) :
    FoundAll db plan node j values (g.discriminator :: ds) w w₂ (g :: found)

section
variable {values : String → List Sql.Value} {ds : List String} {found : List Owners}

theorem FoundAll.after (h : FoundAll db plan node j values ds w₁ w₂ found) (hw : Untouched w w₁) :
    FoundAll db plan node j values ds w w₂ found := by
  induction h generalizing w with
  | done h => exact .done (hw.trans h)
  | unmapped hd _ ih => exact .unmapped hd (ih hw)
  | mapped first rest _ => exact .mapped (first.after hw) rest

theorem FoundAll.discriminators (h : FoundAll db plan node j values ds w w₁ found) :
    found.map Owners.discriminator = ds.filter fun d => (j.types.get? d).isSome := by
  induction h with
  | done => rfl
  | unmapped hd _ ih => simp [hd, ih]
  | mapped first _ ih => simp [first.type_eq, ih]

theorem FoundAll.discriminator_mem (h : FoundAll db plan node j values ds w w₁ found) {g : Owners}
    (hg : g ∈ found) : g.discriminator ∈ ds := by
  have hmem : g.discriminator ∈ found.map Owners.discriminator := List.mem_map_of_mem hg
  rw [h.discriminators] at hmem
  exact List.mem_of_mem_filter hmem

theorem FoundAll.of_mem (h : FoundAll db plan node j values ds w w₁ found) {g : Owners}
    (hg : g ∈ found) : ∃ owners w w₁, FoundOwners db plan node j (values g.discriminator)
      (w : World reg σ) w₁ g owners := by
  induction h with
  | done => cases hg
  | unmapped _ _ ih => exact ih hg
  | mapped first _ ih =>
    rcases List.mem_cons.1 hg with rfl | hg
    · exact ⟨_, _, _, first⟩
    · exact ih hg

theorem FoundAll.find?_eq_none (h : FoundAll db plan node j values ds w w₁ found)
    {discriminator : String} (hd : j.types.get? discriminator = none) :
    found.find? (·.discriminator = discriminator) = none := by
  rw [List.find?_eq_none]
  intro g hg
  obtain ⟨owners, w, w₁, hfinds⟩ := h.of_mem hg
  have htype := hfinds.type_eq
  simp only [decide_eq_true_eq]
  rintro rfl
  rw [hd] at htype
  cases htype

theorem FoundAll.find?_eq_some (h : FoundAll db plan node j values ds w w₁ found)
    {discriminator : String} (hmem : discriminator ∈ ds) (hd : j.types.get? discriminator ≠ none) :
    ∃ g owners w w₁, found.find? (·.discriminator = discriminator) = some g ∧
      g.discriminator = discriminator ∧
      FoundOwners db plan node j (values g.discriminator) (w : World reg σ) w₁ g owners := by
  have hfound : discriminator ∈ found.map Owners.discriminator := by
    rw [h.discriminators, List.mem_filter]
    exact ⟨hmem, Option.isSome_iff_ne_none.2 hd⟩
  obtain ⟨g, hg, hsame⟩ := List.mem_map.1 hfound
  cases hfind : found.find? (·.discriminator = discriminator) with
  | none =>
    rw [List.find?_eq_none] at hfind
    exact absurd hsame (by simpa using hfind g hg)
  | some g =>
    obtain ⟨owners, w, w₁, hfinds⟩ := h.of_mem (List.mem_of_find?_eq_some hfind)
    exact ⟨g, owners, w, w₁, rfl, by simpa using List.find?_some hfind, hfinds⟩

/-- If nothing is requested below the owners, there is one statement for each discriminator. -/
theorem FoundAll.issued_eq (h : FoundAll db plan node j values ds w w₁ found)
    (hleaf : node.children = []) : w₁.issued = w.issued ++ found.map Owners.statement := by
  induction h with
  | done h => simp [h.issued_eq]
  | unmapped _ _ ih => exact ih
  | mapped first _ ih =>
    obtain ⟨records, w₃, hanswered, -, hbelow⟩ := first.answered
    rw [hleaf, loadNodes] at hbelow
    obtain rfl := congrArg Prod.snd hbelow
    rw [ih, List.map_cons]
    show w₃.issued ++ _ = _
    rw [hanswered.issued_eq, List.append_assoc, List.singleton_append]

/-- One more group in front. -/
theorem FoundAll.cons {d : String} {index : KeyIndex} {staged : List (Nat × (String × Entity))}
    (hfirst : (plan.stageOwners db (plan.below db node) node j d index).run w = (.ok staged, w₁))
    (hvalues : index.values = values d) (h : FoundAll db plan node j values ds w₁ w₂ found) :
    ∃ found, FoundAll db plan node j values (d :: ds) w w₂ found := by
  obtain ⟨hnone, -, hstill⟩ | ⟨g, owners, correlated, w₃, rfl, hfinds, hstill, -, -⟩ :=
    stageOwners_eq_ok hfirst
  · exact ⟨found, .unmapped hnone (h.after hstill)⟩
  · rw [hvalues] at hfinds
    exact ⟨g :: found, .mapped hfinds (h.after hstill)⟩

end

/-- The discriminators that parents with a key hold, in ascending order. -/
structure Present (typeColumn idColumn : ColumnInfo) (parents : List Entity)
    (discriminators : List String) : Prop where
  ordered : discriminators.Pairwise (· < ·)
  mem_iff : ∀ d, d ∈ discriminators ↔ ∃ p ∈ parents,
    OwnerJoin.discriminatorOf typeColumn p = some d ∧ p.keyText? idColumn ≠ none

theorem present_of_groups {groups : ByName KeyIndex}
    (h : OwnerJoin.groups typeColumn idColumn parents = .ok groups) :
    Present typeColumn idColumn parents (groups.entries.map Prod.fst) := by
  refine ⟨List.pairwise_map.2 groups.ordered, fun d => ?_⟩
  have hname : d ∈ groups.entries.map Prod.fst ↔ (groups.get? d).isSome = true := by
    rw [Option.isSome_iff_exists]
    constructor
    · intro hd
      obtain ⟨entry, hentry, rfl⟩ := List.mem_map.1 hd
      exact ⟨entry.2, ByName.get?_of_mem hentry⟩
    · rintro ⟨index, hindex⟩
      exact List.mem_map_of_mem (f := Prod.fst) (Catalog.mem_of_lookup hindex)
  rw [hname, (OwnerJoin.groups_of_groups h).isSome_get? d]
  refine exists_congr fun p => and_congr_right fun _ => ?_
  rw [OwnerJoin.pairAs?, ← Row.fst_keyPair?]
  by_cases hd : OwnerJoin.discriminatorOf typeColumn p = some d <;> simp [hd]

/-- Parents can be grouped unless the key of one of them has no encoding. -/
theorem groups_eq_error {why : Error}
    (h : OwnerJoin.groups typeColumn idColumn parents = .error why) :
    ∃ p ∈ parents, p.joinKey? idColumn = .error why := by
  have hadd : ∀ (start : Nat) (parents : List Entity) (groups : ByName KeyIndex),
      OwnerJoin.addParents typeColumn idColumn start parents groups = .error why →
      ∃ p ∈ parents, p.joinKey? idColumn = .error why := by
    intro start parents groups hadd
    fun_induction OwnerJoin.addParents typeColumn idColumn start parents groups with
    | case1 => cases hadd
    | case2 start e rest groups hd ih =>
      obtain ⟨p, hp, hkey⟩ := ih hadd
      exact ⟨p, List.mem_cons_of_mem _ hp, hkey⟩
    | case3 start e rest groups d hd hkey ih =>
      obtain ⟨p, hp, hkey⟩ := ih hadd
      exact ⟨p, List.mem_cons_of_mem _ hp, hkey⟩
    | case4 start e rest groups d hd key value hkey ih =>
      obtain ⟨p, hp, hkey⟩ := ih hadd
      exact ⟨p, List.mem_cons_of_mem _ hp, hkey⟩
    | case5 start e rest groups d hd why' hkey =>
      cases hadd
      exact ⟨e, by simp, hkey⟩
  exact hadd 0 parents .empty h

/-- Groups of parents by ascending discriminators. -/
structure Grouping (typeColumn idColumn : ColumnInfo) (parents : List Entity)
    (groups : List (String × KeyIndex)) : Prop where
  ordered : groups.Pairwise fun a b => a.1 < b.1
  group : ∀ g ∈ groups, OwnerJoin.Group typeColumn idColumn parents g.1 g.2

theorem grouping_of_groups {groups : ByName KeyIndex}
    (h : OwnerJoin.groups typeColumn idColumn parents = .ok groups) :
    Grouping typeColumn idColumn parents groups.entries := by
  refine ⟨groups.ordered, fun g hg => ?_⟩
  have hgroup := (OwnerJoin.groups_of_groups h).group g.1
  rwa [OwnerJoin.indexOf, ByName.get?_of_mem hg] at hgroup

/-- The values to ask for, for the parents with a discriminator. -/
abbrev referred (typeColumn idColumn : ColumnInfo) (parents : List Entity) (d : String) :
    List Sql.Value :=
  firstValues (parents.filterMap (OwnerJoin.pairAs? typeColumn idColumn d))

/-- **What is staged first for a parent is the row that it refers to.** -/
theorem stageGroups_eq_ok {groups : List (String × KeyIndex)}
    (hgroups : Grouping typeColumn idColumn parents groups)
    {staged : List (Nat × (String × Entity))}
    (h : (plan.stageGroups db (plan.below db node) node j groups).run w = (.ok staged, w₁)) :
    ∃ found, FoundAll db plan node j (referred typeColumn idColumn parents)
        (groups.map Prod.fst) w w₁ found ∧
      ∀ i p, parents[i]? = some p → Option.Rel (Owners.IsOwner j.types node.children)
        (Owners.refer? typeColumn idColumn found p) (Staged.atPosition staged i).head? := by
  induction groups generalizing w staged with
  | nil =>
    rw [stageGroups] at h
    obtain ⟨rfl, rfl⟩ := pure_eq_ok h
    refine ⟨[], .done ⟨rfl, rfl⟩, fun i p _ => ?_⟩
    have hnone : Owners.refer? typeColumn idColumn [] p = none := by
      simp [Owners.refer?]
    rw [hnone]
    exact .none
  | cons group groups ih =>
    obtain ⟨d, index⟩ := group
    obtain ⟨hlater, hordered⟩ := List.pairwise_cons.1 hgroups.ordered
    obtain ⟨hgroup, hrest⟩ := List.forall_mem_cons.1 hgroups.group
    rw [stageGroups] at h
    obtain ⟨first, w₂, hfirst, h⟩ := bind_eq_ok h
    obtain ⟨others, w₃, hothers, h⟩ := bind_eq_ok h
    obtain ⟨rfl, rfl⟩ := pure_eq_ok h
    obtain ⟨found, hfound, hrefer⟩ := ih ⟨hordered, hrest⟩ hothers
    obtain ⟨hnone, rfl, hstill⟩ | ⟨g, owners, correlated, w₄, rfl, hfinds, hstill, hcorrelated,
      rfl⟩ := stageOwners_eq_ok hfirst
    · exact ⟨found, .unmapped hnone (hfound.after hstill), hrefer⟩
    have hvalues : index.values = referred typeColumn idColumn parents g.discriminator :=
      hgroup.holds.values_eq
    refine ⟨g :: found, .mapped (hvalues ▸ hfinds) (hfound.after hstill), fun i p hp => ?_⟩
    have hhead := head?_staged hgroup hfinds hcorrelated hp
    have htail := hrefer i p hp
    rw [KeyIndex.atPosition_append, List.head?_append]
    by_cases hd : OwnerJoin.discriminatorOf typeColumn p = some g.discriminator
    · have hnothing : Owners.refer? typeColumn idColumn found p = none := by
        refine Owners.refer?_eq_none hd fun g' hg' => ?_
        -- the discriminators of later groups are greater
        obtain ⟨later, hmem, hsame⟩ := List.mem_map.1 (hfound.discriminator_mem hg')
        rw [← hsame]
        exact (String.ne_of_lt (hlater later hmem)).symm
      rw [hnothing] at htail
      rw [if_pos hd] at hhead
      rwa [Owners.refer?_cons_of_eq found hd, Owners.eq_none_of_rel htail, Option.or_none]
    · rw [if_neg hd] at hhead
      rwa [Owners.refer?_cons_of_ne found hd, Owners.eq_none_of_rel hhead, Option.none_or]

/-- If groups are not all staged, it is a mapped discriminator that failed. -/
theorem stageGroups_eq_error {groups : List (String × KeyIndex)} {why : Error}
    (hgroups : Grouping typeColumn idColumn parents groups)
    (h : (plan.stageGroups db (plan.below db node) node j groups).run w = (.error why, w₁)) :
    ∃ before d index after found target w₂, groups.map Prod.fst = before ++ d :: after ∧
      j.types.get? d = some target ∧
      FoundAll db plan node j (referred typeColumn idColumn parents) before w w₂ found ∧
      (plan.stageOwners db (plan.below db node) node j d index).run w₂ = (.error why, w₁) := by
  induction groups generalizing w with
  | nil => cases h
  | cons group groups ih =>
    obtain ⟨d, index⟩ := group
    obtain ⟨hgroup, hrest⟩ := List.forall_mem_cons.1 hgroups.group
    rw [stageGroups] at h
    rcases bind_eq_error h with hfirst | ⟨first, w₂, hfirst, h⟩
    · cases htarget : j.types.get? d with
      | none =>
        have hskips : Ensures (plan.stageOwners db (plan.below db node) node j d index :
          Run reg σ _) (fun _ => False) (fun _ => False) (· = []) :=
            stageOwners_unmapped htarget _ index
        obtain ⟨staged, w₂, hok, -⟩ := hskips.exists_ok w
        rw [hok] at hfirst
        cases hfirst
      | some target =>
        exact ⟨[], d, index, groups.map Prod.fst, [], target, w, rfl, htarget,
          .done ⟨rfl, rfl⟩, hfirst⟩
    · rcases bind_eq_error h with hothers | ⟨others, w₃, -, h⟩
      · obtain ⟨before, d', index', after, found, target, w₃, heq, htarget, hfound, hfailed⟩ :=
          ih ⟨(List.pairwise_cons.1 hgroups.ordered).2, hrest⟩ hothers
        obtain ⟨found, hall⟩ := hfound.cons hfirst hgroup.holds.values_eq
        exact ⟨d :: before, d', index', after, found, target, w₃, by rw [List.map_cons, heq]; rfl,
          htarget, hall, hfailed⟩
      · cases h

/-! ### The level -/

theorem stage_of_owners (hd : plan.descriptor? type node = some (.morphTo j))
    (descend : String → List Entity → Run reg σ (List Entity)) (parents : List Entity) :
    plan.stage db descend node type parents = (do
      let s ← schema type
      let info ← MonadExcept.ofExcept (relation s.val node)
      let typeColumn ← mapped s node j.typeColumn
      let idColumn ← mapped s node j.idColumn
      let groups ← MonadExcept.ofExcept (OwnerJoin.groups typeColumn idColumn parents)
      let staged ← plan.stageGroups db descend node j groups.entries
      pure (info, .owners staged)) := by
  rw [stage, hd]

/-- A level that was staged has grouped the parents and looked up the owners. -/
theorem stage_eq_ok_of_owners {s : Schema} (hs : reg.schema type = .ok s)
    (hd : plan.descriptor? type node = some (.morphTo j))
    {descend : String → List Entity → Run reg σ (List Entity)} {staged : Staged}
    (h : (plan.stage db descend node type parents).run w = (.ok (info, staged), w₁)) :
    ∃ typeColumn idColumn groups owners w₂, relation s node = .ok info ∧
      s.column? j.typeColumn = some typeColumn ∧ s.column? j.idColumn = some idColumn ∧
      OwnerJoin.groups typeColumn idColumn parents = .ok groups ∧ Untouched w w₂ ∧
      (plan.stageGroups db descend node j groups.entries).run w₂ = (.ok owners, w₁) ∧
      staged = .owners owners := by
  rw [stage_of_owners hd] at h
  obtain ⟨⟨s', hs'⟩, w₂, -, hw₂, h⟩ := (ensures_schema type).quiet.bind_eq_ok h
  obtain rfl : s = s' := Except.ok.inj (hs.symm.trans hs')
  obtain ⟨info', w₃, hrelation, h⟩ := bind_eq_ok h
  obtain ⟨hinfo, rfl⟩ := ofExcept_eq_ok hrelation
  obtain ⟨typeColumn, w₄, htype, hw₄, h⟩ := (quiet_mapped s node _).bind_eq_ok h
  obtain ⟨idColumn, w₅, hid, hw₅, h⟩ := (quiet_mapped s node _).bind_eq_ok h
  obtain ⟨groups, w₆, hrun, h⟩ := bind_eq_ok h
  obtain ⟨hgroups, rfl⟩ := ofExcept_eq_ok hrun
  obtain ⟨owners, w₇, howners, hpure⟩ := bind_eq_ok h
  cases hpure
  exact ⟨typeColumn, idColumn, groups, owners, w₅, hinfo, mapped_eq_ok htype, mapped_eq_ok hid,
    hgroups, (hw₂.trans hw₄).trans hw₅, howners, rfl⟩

theorem run_mapped {s : Schema} {column : String} {c : ColumnInfo} (h : s.column? column = some c)
    (w : World reg σ) : (mapped s node column : Run reg σ ColumnInfo).run w = (.ok c, w) := by
  rw [mapped, h]
  rfl

/-- A level that is not staged fails before the owners are looked up, or among them. -/
theorem stage_eq_error_of_owners {s : Schema} (hs : reg.schema type = .ok s)
    (hd : plan.descriptor? type node = some (.morphTo j)) (hinfo : relation s node = .ok info)
    (htype : s.column? j.typeColumn = some typeColumn) (hid : s.column? j.idColumn = some idColumn)
    {descend : String → List Entity → Run reg σ (List Entity)} {why : Error}
    (h : (plan.stage db descend node type parents).run w = (.error why, w₁)) :
    OwnerJoin.groups typeColumn idColumn parents = .error why ∨
      ∃ groups w₂, OwnerJoin.groups typeColumn idColumn parents = .ok groups ∧ Untouched w w₂ ∧
        (plan.stageGroups db descend node j groups.entries).run w₂ = (.error why, w₁) := by
  rw [stage_of_owners hd] at h
  obtain ⟨⟨s', hs'⟩, w₂, hrun, heq⟩ :=
    (ensures_schema_of (P := fun _ => False) (E := fun _ => False) (σ := σ) hs).exists_ok w
  obtain rfl : s = s' := heq
  have hw₂ := (ensures_schema (P := fun _ => False) (σ := σ) type).quiet.untouched w
  rw [hrun] at hw₂
  rw [run_bind_of_ok hrun] at h
  dsimp only at h
  rw [hinfo, run_bind_of_ok (run_ofExcept _ _), run_bind_of_ok (run_mapped htype _),
    run_bind_of_ok (run_mapped hid _)] at h
  rcases bind_eq_error h with hgroups | ⟨groups, w₃, hgroups, h⟩
  · rw [run_ofExcept] at hgroups
    exact .inl (Prod.mk.inj hgroups).1
  · obtain ⟨hok, rfl⟩ := ofExcept_eq_ok hgroups
    rcases bind_eq_error h with howners | ⟨staged, w₄, -, hpure⟩
    · exact .inr ⟨groups, w₂, hok, hw₂, howners⟩
    · cases hpure

/-- **What a relation to owners of several types holds.** A load of the level that succeeds looks up
the mapped ones among the discriminators that the parents hold, and every parent holds the first row
that it refers to, or nothing. A load that fails has found a key without an encoding, or fails on a
mapped discriminator after those before it were looked up. -/
theorem loadNode_morphTo {s : Schema} (hs : reg.schema type = .ok s)
    (hd : plan.descriptor? type node = some (.morphTo j)) (hfits : ∀ p ∈ parents, s.Fits p) :
    (∀ es w₁, plan.loadNode db node type parents w = (⟨es, none⟩, w₁) →
      ∃ info typeColumn idColumn discriminators found, relation s node = .ok info ∧
        s.column? j.typeColumn = some typeColumn ∧ s.column? j.idColumn = some idColumn ∧
        Present typeColumn idColumn parents discriminators ∧
        FoundAll db plan node j (referred typeColumn idColumn parents) discriminators w w₁ found ∧
        found.map Owners.discriminator
          = discriminators.filter (fun d => (j.types.get? d).isSome) ∧
        (node.children = [] → w₁.issued = w.issued ++ found.map Owners.statement) ∧
        List.Forall₂ (fun p p' => ∃ owner, p' = p.setItem info.position (.owner owner) ∧
            p'.item? info.position = some (.owner owner) ∧
            Option.Rel (Owners.IsOwner j.types node.children)
              (Owners.refer? typeColumn idColumn found p) owner)
          parents es) ∧
    ∀ info typeColumn idColumn es why w₁, relation s node = .ok info →
      s.column? j.typeColumn = some typeColumn → s.column? j.idColumn = some idColumn →
      plan.loadNode db node type parents w = (⟨es, some why⟩, w₁) →
      (∃ p ∈ parents, p.joinKey? idColumn = .error why) ∨
        ∃ discriminators before d after index found target w₂,
          Present typeColumn idColumn parents discriminators ∧
          discriminators = before ++ d :: after ∧ j.types.get? d = some target ∧
          FoundAll db plan node j (referred typeColumn idColumn parents) before w w₂ found ∧
          (plan.stageOwners db (plan.below db node) node j d index).run w₂ = (.error why, w₁) := by
  constructor
  · intro es w₁ hload
    rcases hstage : (plan.stage db (plan.below db node) node type parents).run w with
      ⟨why | ⟨info, staged⟩, w₂⟩
    · rw [loadNode_error hstage] at hload
      cases hload
    obtain ⟨typeColumn, idColumn, groups, owners, w₃, hinfo, htype, hid, hgroups, hw₃, howners,
      rfl⟩ := stage_eq_ok_of_owners hs hd hstage
    rw [loadNode_owners hstage] at hload
    cases hload
    obtain ⟨found, hfound, hrefer⟩ := stageGroups_eq_ok (grouping_of_groups hgroups) howners
    have hall := hfound.after hw₃
    refine ⟨info, typeColumn, idColumn, _, found, hinfo, htype, hid, present_of_groups hgroups,
      hall, hall.discriminators, hall.issued_eq, ?_⟩
    refine forall₂_commit _ _ _ fun i p hp => ?_
    have hlt : info.position < p.items.length := by
      rw [hfits p (List.mem_of_getElem? hp)]
      exact Registry.position_lt hs (mem_relations_of_relation hinfo)
    exact ⟨_, rfl, Row.item?_setItem hlt _, hrefer i p hp⟩
  · intro info typeColumn idColumn es why w₁ hinfo htype hid hload
    rcases hstage : (plan.stage db (plan.below db node) node type parents).run w with
      ⟨why' | ⟨info', staged⟩, w₂⟩
    · rw [loadNode_error hstage] at hload
      cases hload
      obtain hgroups | ⟨groups, w₃, hgroups, hw₃, howners⟩ :=
        stage_eq_error_of_owners hs hd hinfo htype hid hstage
      · exact .inl (groups_eq_error hgroups)
      · obtain ⟨before, d, index, after, found, target, w₄, heq, htarget, hfound, hfailed⟩ :=
          stageGroups_eq_error (grouping_of_groups hgroups) howners
        exact .inr ⟨_, before, d, after, index, found, target, w₄, present_of_groups hgroups, heq,
          htarget, hfound.after hw₃, hfailed⟩
    · obtain ⟨-, -, -, owners, -, -, -, -, -, -, -, rfl⟩ := stage_eq_ok_of_owners hs hd hstage
      rw [loadNode_owners hstage] at hload
      cases hload

/-! Bookmarks of posts and videos: two types with equal ids, a discriminator that is not mapped, an
empty one, an id of zero and one without a row. -/

def bookmarkRegistry : Registry :=
  ⟨[{ type := "Bookmark", table := some "bookmarks", members :=
        [.column "kind" .text (some "kind") false false,
          .column "target" (.int .i64) (some "target") true false,
          .relation "marked" (.morphTo "marked") { name := some "Marked" }] },
    { type := "Post", table := some "posts", members :=
        [.column "id" (.int .i64) (some "id") true false,
          .column "title" .text (some "title") false false] },
    { type := "Video", table := some "videos", members :=
        [.column "id" (.int .i32) (some "id") true false] }]⟩

def markedOwners : OwnerJoin :=
  { typeColumn := "kind", idColumn := "target", ownerKey := none,
    types := .ofList [("video", "Video"), ("post", "Post")] }

def bookmarkPlan : Plan where
  eager := {}
  nodes := [⟨"Marked", "Marked", none, []⟩]
  descriptors := [(("Bookmark", "Marked"), .morphTo markedOwners)]

/-- Two posts have one id. The videos can be made to fail. -/
def bookmarkDatabase (videos : Except Failure (List Record)) : Database Unit where
  answer s _ :=
    match s with
    | .select table _ _ =>
      if table = "posts" then
        (.ok [⟨[("id", .int 1), ("title", .text "first")]⟩,
          ⟨[("id", .int 1), ("title", .text "second")]⟩], ())
      else (videos, ())
    | _ => (.ok [], ())

def bookmark (kind : String) (target : Int) : Entity :=
  ⟨"Bookmark", [.cell ⟨.text, kind⟩, .cell ⟨.int .i64, Column.IntType.ofInt .i64 target⟩,
    .owner none]⟩

def sixBookmarks : List Entity :=
  [bookmark "video" 1, bookmark "post" 1, bookmark "page" 1, bookmark "" 1, bookmark "post" 0,
    bookmark "video" 2]

theorem loadNode_morphTo_bookmarks :
    let w : World bookmarkRegistry Unit := { catalog := .empty _ {}, state := () }
    let node : PathNode := ⟨"Marked", "Marked", none, []⟩
    let answering := bookmarkDatabase (.ok [⟨[("id", .int 1)]⟩])
    let failing := bookmarkDatabase (.error .poolClosed)
    (∃ es w₁ found typeColumn idColumn position,
      bookmarkPlan.loadNode answering node "Bookmark" sixBookmarks w = (⟨es, none⟩, w₁) ∧
      w₁.issued = found.map Owners.statement ∧
      List.Forall₂ (fun (p p' : Entity) => ∃ owner, p'.item? position = some (.owner owner) ∧
        Option.Rel (Owners.IsOwner markedOwners.types [])
          (Owners.refer? typeColumn idColumn found p) owner) sixBookmarks es) ∧
    ∃ (why : Error) (d target : String) (index : KeyIndex) (w₁ w₂ : World bookmarkRegistry Unit),
      markedOwners.types.get? d = some target ∧
      (bookmarkPlan.loadNode failing node "Bookmark" sixBookmarks w).1.failure = some why ∧
      (bookmarkPlan.stageOwners failing (bookmarkPlan.below failing node) node markedOwners d
        index).run w₂ = (.error why, w₁) := by
  intro w node answering failing
  obtain ⟨s, hs⟩ : ∃ s, bookmarkRegistry.schema "Bookmark" = .ok s := ⟨_, rfl⟩
  have hfits : ∀ p ∈ sixBookmarks, s.Fits p := by
    cases hs
    decide
  constructor
  · have hok : (bookmarkPlan.loadNode answering node "Bookmark" sixBookmarks w).1.failure.isNone
        = true := by decide +kernel
    rcases hload : bookmarkPlan.loadNode answering node "Bookmark" sixBookmarks w with
      ⟨⟨es, _ | why⟩, w₁⟩
    · obtain ⟨info, typeColumn, idColumn, discriminators, found, -, -, -, -, -, -, hissued, hall⟩ :=
        (loadNode_morphTo (j := markedOwners) hs rfl hfits).1 es w₁ hload
      exact ⟨es, w₁, found, typeColumn, idColumn, info.position, rfl, hissued rfl,
        hall.imp fun p p' ⟨owner, _, hitem, hrel⟩ => ⟨owner, hitem, hrel⟩⟩
    · rw [hload] at hok
      cases hok
  · have hfails : (bookmarkPlan.loadNode failing node "Bookmark" sixBookmarks w).1.failure.isSome
        = true := by decide +kernel
    rcases hload : bookmarkPlan.loadNode failing node "Bookmark" sixBookmarks w with
      ⟨⟨es, _ | why⟩, w₁⟩
    · rw [hload] at hfails
      cases hfails
    obtain ⟨info, hinfo⟩ : ∃ info, relation s node = .ok info := by
      cases hs
      exact ⟨_, rfl⟩
    obtain ⟨typeColumn, htype⟩ : ∃ c, s.column? "kind" = some c := by
      cases hs
      exact ⟨_, rfl⟩
    obtain ⟨idColumn, hid⟩ : ∃ c, s.column? "target" = some c := by
      cases hs
      exact ⟨_, rfl⟩
    have hkeys : ∀ p ∈ sixBookmarks, (p.joinKey? idColumn).isOk = true := by
      cases hs
      cases hid
      decide +kernel
    obtain ⟨p, hp, hkey⟩ | ⟨_, _, d, _, index, _, target, w₂, -, -, htarget, -, hfailed⟩ :=
      (loadNode_morphTo (j := markedOwners) hs rfl hfits).2 info typeColumn idColumn es why w₁
        hinfo htype hid hload
    · have hok := hkeys p hp
      rw [hkey] at hok
      cases hok
    · exact ⟨why, d, target, index, w₁, w₂, htarget, rfl, hfailed⟩

end Plan

end EntityGraph
