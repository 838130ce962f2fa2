import EntityGraph.Proofs.Load.Carrying
import EntityGraph.Proofs.Load.Indexing
import EntityGraph.Proofs.Load.Keyed
import EntityGraph.Proofs.Load.Owned
import EntityGraph.Proofs.Relation.Describing

/-!
# Relations seen from both ends

A relation may be declared on both of the types that it connects. Where neither declaration replaces
a conventional name, the two descriptors name the same columns from opposite ends, although each of
them takes its names from a parent of its own (`describe_inverse`). Rows are then matched in one
direction just as they are in the other: the parents of one side are indexed and the rows of the
other side looked up, but a pair matches if both hold the same key (`mem_matched`).
-/

namespace EntityGraph

open Run

variable {reg : Registry} {σ : Type}

/-! ### Pairs that match -/

/-- Rows and the positions of the parents that they match, by one column on each side. -/
def matched (parentColumn childColumn : ColumnInfo) (parents rows : List Entity) :
    Except Error (List (Nat × Entity)) := do
  let index ← KeyIndex.ofBatch parentColumn parents
  index.correlate childColumn rows

/-- Owners and the positions of the parents that hold a discriminator and match them. -/
def OwnerJoin.matched (type id owner : ColumnInfo) (discriminator : String)
    (parents owners : List Entity) : Except Error (List (Nat × Entity)) := do
  let groups ← OwnerJoin.groups type id parents
  (OwnerJoin.indexOf groups discriminator).correlate owner owners

section
variable {db : Database σ} {plan : Plan} {node : PathNode} {w w₁ : World reg σ} {s t : Schema}

/-- A relation on key columns stages the pairs that match, among the rows that it fetches. -/
theorem matched_of_stageKeyed {kind : RelationKind} {j : Join} {parents : List Entity}
    {staged : List (Nat × Entity)} {c c' : ColumnInfo}
    (h : (plan.stageKeyed db node kind j s parents).run w = (.ok staged, w₁))
    (ht : reg.schema j.target = .ok t) (hc : s.column? j.parentColumn = some c)
    (hc' : t.column? j.childColumn = some c') :
    ∃ rows, matched c c' parents rows = .ok staged ∧
      (rows = [] ∨ ∃ values, Plan.Fetched db plan node j values w w₁ t rows) := by
  obtain ⟨column, index, hcolumn, hindex, hcases⟩ := Plan.stageKeyed_eq_ok h
  obtain rfl : c = column := Option.some.inj (hc.symm.trans hcolumn)
  obtain ⟨-, rfl, -⟩ | ⟨-, target, rows, hfetched, hstaged⟩ := hcases
  · exact ⟨[], by rw [matched, hindex]; rfl, .inl rfl⟩
  · obtain rfl : t = target := Except.ok.inj (ht.symm.trans hfetched.schema_eq)
    rw [hc'] at hstaged
    exact ⟨rows, by rw [matched, hindex]; exact hstaged, .inr ⟨_, hfetched⟩⟩

/-- A relation to owners stages the pairs that match, among the owners that it finds for a
discriminator that is mapped. -/
theorem OwnerJoin.matched_of_stageOwners {j : OwnerJoin} {d : String} {type id c : ColumnInfo}
    {parents : List Entity} {groups : ByName KeyIndex} {staged : List (Nat × (String × Entity))}
    (hgroups : OwnerJoin.groups type id parents = .ok groups)
    (h : (plan.stageOwners db (plan.below db node) node j d (indexOf groups d)).run w =
      (.ok staged, w₁))
    (hd : j.types.get? d = some s.type) (hs : reg.schema s.type = .ok s)
    (hc : j.column? s = some c) :
    ∃ g owners pairs w₂, OwnerJoin.matched type id c d parents owners = .ok pairs ∧
      staged = (pairs.map fun p => (p.1, d, p.2)) ∧
      Plan.FoundOwners db plan node j (indexOf groups d).values w w₂ g owners := by
  obtain ⟨hnone, -, -⟩ | ⟨g, owners, pairs, w₂, rfl, hfound, -, hpairs, rfl⟩ :=
    Plan.stageOwners_eq_ok h
  · rw [hd] at hnone
    cases hnone
  · have htype : g.schema.type = s.type := Option.some.inj (hfound.type_eq.symm.trans hd)
    have hschema : g.schema = s := by
      have hg := hfound.schema_eq
      rw [htype, hs] at hg
      exact (Except.ok.inj hg).symm
    have hcolumn : g.column = c := by
      have hg := hfound.column_eq
      rw [hschema, hc] at hg
      exact (Option.some.inj hg).symm
    rw [hcolumn] at hpairs
    exact ⟨g, owners, pairs, w₂, by rw [OwnerJoin.matched, hgroups]; exact hpairs, rfl, hfound⟩

end

section
variable {c c' type : ColumnInfo} {as bs : List Entity} {staged : List (Nat × Entity)}

/-- A row matches a parent if both hold the same key. -/
theorem mem_matched (h : matched c c' as bs = .ok staged) {i : Nat} {b : Entity} :
    (i, b) ∈ staged ↔
      b ∈ bs ∧ ∃ a key, as[i]? = some a ∧ a.keyText? c = some key ∧ b.keyText? c' = some key := by
  rw [matched] at h
  cases hindex : KeyIndex.ofBatch c as with
  | error why => simp [hindex, bind, Except.bind] at h
  | ok index =>
    rw [hindex] at h
    have hnodup : ∀ key, (index.positions key).Nodup := fun key => by
      rw [KeyIndex.positions_ofBatch hindex]
      exact KeyIndex.nodup_keyed c as key
    rw [KeyIndex.mem_correlate hnodup h]
    simp only [KeyIndex.positions_ofBatch hindex, KeyIndex.mem_keyed]
    refine and_congr_right fun _ => ⟨?_, ?_⟩
    · rintro ⟨key, hb, a, ha, hkey⟩
      exact ⟨a, key, ha, hkey, hb⟩
    · rintro ⟨a, key, ha, hkey, hb⟩
      exact ⟨key, hb, a, ha, hkey⟩

/-- An owner matches a parent if the parent holds the discriminator and both hold the same key. -/
theorem OwnerJoin.mem_matched {d : String} (h : OwnerJoin.matched type c c' d as bs = .ok staged)
    {i : Nat} {b : Entity} :
    (i, b) ∈ staged ↔ b ∈ bs ∧ ∃ a key, as[i]? = some a ∧ discriminatorOf type a = some d ∧
      a.keyText? c = some key ∧ b.keyText? c' = some key := by
  rw [OwnerJoin.matched] at h
  cases hgroups : OwnerJoin.groups type c as with
  | error why => simp [hgroups, bind, Except.bind] at h
  | ok groups =>
    rw [hgroups] at h
    have hgroup := (groups_of_groups hgroups).group d
    rw [KeyIndex.mem_correlate hgroup.nodup h]
    simp only [hgroup.mem_positions]
    refine and_congr_right fun _ => ⟨?_, ?_⟩
    · rintro ⟨key, hb, a, ha, hd, hkey⟩
      exact ⟨a, key, ha, hd, hkey, hb⟩
    · rintro ⟨a, key, ha, hd, hkey, hb⟩
      exact ⟨key, hb, a, ha, hd, hkey⟩

/-- Rows are matched just if the entities of both sides have keys or none. -/
theorem exists_matched_iff : (∃ staged, matched c c' as bs = .ok staged) ↔
    (∀ a ∈ as, ∃ key, a.joinKey? c = .ok key) ∧ ∀ b ∈ bs, ∃ key, b.joinKey? c' = .ok key := by
  rw [← KeyIndex.exists_ofBatch_iff, matched]
  cases hindex : KeyIndex.ofBatch c as with
  | error why => simp [bind, Except.bind]
  | ok index =>
    rw [← KeyIndex.exists_correlate_iff index]
    simp [bind, Except.bind]

theorem OwnerJoin.exists_addParents {start : Nat} {groups : ByName KeyIndex}
    (h : ∀ a ∈ as, ∃ key, a.joinKey? c = .ok key) :
    ∃ groups', addParents type c start as groups = .ok groups' := by
  fun_induction addParents type c start as groups with
  | case1 start groups => exact ⟨groups, rfl⟩
  | case2 start e rest groups hd ih => exact ih fun a ha => h a (List.mem_cons_of_mem _ ha)
  | case3 start e rest groups d hd hkey ih => exact ih fun a ha => h a (List.mem_cons_of_mem _ ha)
  | case4 start e rest groups d hd key value hkey ih =>
    exact ih fun a ha => h a (List.mem_cons_of_mem _ ha)
  | case5 start e rest groups d hd why hkey =>
    obtain ⟨key, hok⟩ := h e List.mem_cons_self
    rw [hkey] at hok
    cases hok

/-- **The pairs that match are the same from both ends.** -/
theorem matched_inverse (h : matched c c' as bs = .ok staged) :
    ∃ staged', matched c' c bs as = .ok staged' ∧ ∀ i k a b, as[i]? = some a → bs[k]? = some b →
      ((i, b) ∈ staged ↔ (k, a) ∈ staged') := by
  obtain ⟨has, hbs⟩ := exists_matched_iff.1 ⟨staged, h⟩
  obtain ⟨staged', h'⟩ := exists_matched_iff.2 ⟨hbs, has⟩
  refine ⟨staged', h', fun i k a b ha hb => ?_⟩
  rw [mem_matched h, mem_matched h']
  simp [ha, hb, List.mem_of_getElem? ha, List.mem_of_getElem? hb, and_comm]

/-- **Rows that hold a discriminator match the owners that they match from the other end.** -/
theorem OwnerJoin.matched_inverse (h : EntityGraph.matched c c' as bs = .ok staged)
    (type : ColumnInfo) (d : String) :
    ∃ staged', OwnerJoin.matched type c' c d bs as = .ok staged' ∧
      ∀ i k a b, as[i]? = some a → bs[k]? = some b → discriminatorOf type b = some d →
        ((i, b) ∈ staged ↔ (k, a) ∈ staged') := by
  obtain ⟨has, hbs⟩ := exists_matched_iff.1 ⟨staged, h⟩
  obtain ⟨groups, hgroups⟩ : ∃ groups, OwnerJoin.groups type c' bs = .ok groups :=
    exists_addParents hbs
  obtain ⟨staged', hstaged⟩ :=
    (KeyIndex.exists_correlate_iff (indexOf groups d)).2 has
  have h' : OwnerJoin.matched type c' c d bs as = .ok staged' := by
    rw [OwnerJoin.matched, hgroups]
    exact hstaged
  refine ⟨staged', h', fun i k a b ha hb hd => ?_⟩
  rw [EntityGraph.mem_matched h, OwnerJoin.mem_matched h']
  simp [ha, hb, hd, List.mem_of_getElem? ha, List.mem_of_getElem? hb, and_comm]

end

/-! ### Descriptors from both ends -/

/-- Joins on one column of each side name the same columns, and match the same pairs. -/
structure Join.Inverse (s t : Schema) (j j' : Join) : Prop where
  parentColumn_eq : j'.parentColumn = j.childColumn
  childColumn_eq : j'.childColumn = j.parentColumn
  matched : ∃ c c', s.column? j.parentColumn = some c ∧ t.column? j.childColumn = some c' ∧
    ∀ as bs staged, matched c c' as bs = .ok staged → ∃ staged', matched c' c bs as = .ok staged' ∧
      ∀ i k a b, as[i]? = some a → bs[k]? = some b → ((i, b) ∈ staged ↔ (k, a) ∈ staged')

/-- Joins through a pivot table name the same table, and exchange the keys of the two sides. -/
structure PivotJoin.Inverse (j j' : PivotJoin) : Prop where
  pivotTable_eq : j'.pivotTable = j.pivotTable
  foreignPivotKey_eq : j'.foreignPivotKey = j.relatedPivotKey
  relatedPivotKey_eq : j'.relatedPivotKey = j.foreignPivotKey
  parentKey_eq : j'.parentKey = j.relatedKey
  relatedKey_eq : j'.relatedKey = j.parentKey

/-- Rows name their owner's type and id in the columns in which the owner looks for them, and match
the owner as one of the type that the discriminator stands for. -/
structure Join.InverseOwner (s t : Schema) (j : Join) (j' : OwnerJoin) : Prop where
  discriminator_eq : j.discriminator = some (j'.typeColumn, s.morphAlias)
  idColumn_eq : j'.idColumn = j.childColumn
  type_eq : j'.types.get? s.morphAlias = some s.type
  matched : ∃ type c c', t.column? j'.typeColumn = some type ∧ t.column? j.childColumn = some c' ∧
    s.column? j.parentColumn = some c ∧ j'.column? s = some c ∧
    ∀ as bs staged, EntityGraph.matched c c' as bs = .ok staged →
      ∃ staged', OwnerJoin.matched type c' c s.morphAlias bs as = .ok staged' ∧
        ∀ i k a b, as[i]? = some a → bs[k]? = some b →
          OwnerJoin.discriminatorOf type b = some s.morphAlias →
            ((i, b) ∈ staged ↔ (k, a) ∈ staged')

/-- Descriptors of relations on two types describe one relation from its two ends. -/
inductive Descriptor.Inverse (s t : Schema) : Descriptor → Descriptor → Prop
  | hasOne {j j' : Join} : j.Inverse s t j' → Inverse s t (.hasOne j) (.belongsTo j')
  | hasMany {j j' : Join} : j.Inverse s t j' → Inverse s t (.hasMany j) (.belongsTo j')
  | belongsToMany {j j' : PivotJoin} : j.Inverse j' →
    Inverse s t (.belongsToMany j) (.belongsToMany j')
  | morphOne {j : Join} {j' : OwnerJoin} : j.InverseOwner s t j' →
    Inverse s t (.morphOne j) (.morphTo j')
  | morphMany {j : Join} {j' : OwnerJoin} : j.InverseOwner s t j' →
    Inverse s t (.morphMany j) (.morphTo j')

namespace RelationInfo

/-! ### Declarations from both ends -/

/-- No name is given in place of a conventional one. -/
structure IsConventional (info : RelationInfo) : Prop where
  foreignKey : info.options.foreignKey = none
  ownerKey : info.options.ownerKey = none
  pivot : info.options.pivot = none
  pivotKeys : info.options.pivotKeys = none
  relatedKey : info.options.relatedKey = none
  morphColumns : info.options.morphColumns = none

/-- A relation to owners has the type among its targets, and declares no other type under its alias
after it. The primary key of the type is one of its mapped columns. -/
structure Targets (reg : Registry) (info : RelationInfo) (s : Schema) : Prop where
  target : ∃ before after, info.options.targets = before ++ (s.type, none) :: after ∧
    ∀ t ∈ after, t.1 ≠ s.type → discriminator? reg t ≠ some s.morphAlias
  primaryKey : (s.column? s.primaryKey).isSome = true

/-- A relation on the type `s` and one on the type `t` that leads back. -/
inductive Opposite (reg : Registry) (s t : Schema) (info info' : RelationInfo) : Prop
  | hasOne : info.shape = .hasOne t.type → info'.shape = .belongsTo s.type →
    Opposite reg s t info info'
  | hasMany : info.shape = .hasMany t.type → info'.shape = .belongsTo s.type →
    Opposite reg s t info info'
  | belongsToMany : info.shape = .belongsToMany t.type → info'.shape = .belongsToMany s.type →
    Opposite reg s t info info'
  | morphOne {morph : String} : info.shape = .morphOne t.type morph →
    info'.shape = .morphTo morph → info'.Targets reg s → Opposite reg s t info info'
  | morphMany {morph : String} : info.shape = .morphMany t.type morph →
    info'.shape = .morphTo morph → info'.Targets reg s → Opposite reg s t info info'

theorem pivotTableName_comm (left right : String) :
    pivotTableName left right = pivotTableName right left := by
  unfold pivotTableName
  by_cases h : right < left
  · rw [if_pos h, if_neg (String.lt_asymm h)]
  · by_cases h' : left < right
    · rw [if_neg h, if_pos h']
    · rw [String.le_antisymm (String.not_lt.1 h') (String.not_lt.1 h)]

end RelationInfo

/-- What is found and then wrapped. -/
theorem Run.Ensures.exists_of_map {α β : Type} {x : Run reg σ α} {Q : α → Prop} {g : α → β} {b : β}
    {w w' : World reg σ} (h : Finds x Q) (hrun : (g <$> x).run w = (.ok b, w')) :
    ∃ a, b = g a ∧ Q a := by
  have hmap : Finds (g <$> x) fun b => ∃ a, b = g a ∧ Q a :=
    Ensures.map (h.imp fun a ha => ⟨a, rfl, ha⟩)
  exact hmap.of_ok hrun

namespace RelationInfo

variable {info info' : RelationInfo} {s t : Schema} {w w₁ w₂ w₃ : World reg σ}

theorem IsConventional.parentKey_eq (h : info.IsConventional) (s : Schema) :
    info.parentKey s = s.primaryKey := by
  rw [parentKey, h.ownerKey, Option.getD_none]

theorem IsConventional.morphColumns_eq (h : info.IsConventional) (morph : String) :
    info.morphColumns morph = (morph ++ "_type", morph ++ "_id") := by
  rw [RelationInfo.morphColumns, h.morphColumns, Option.getD_none]

theorem has_inverse (hs : reg.schema s.type = .ok s) (ht : reg.schema t.type = .ok t)
    (hinfo : info.IsConventional) (hinfo' : info'.IsConventional) {β β' : Type} {g : Join → β}
    {g' : Join → β'} {d : β} {d' : β'}
    (hd : (g <$> info.describeHas s t.type).run w = (.ok d, w₁))
    (hd' : (g' <$> info'.describeBelongsTo t s.type).run w₂ = (.ok d', w₃)) :
    ∃ j j', d = g j ∧ d' = g' j' ∧ j.Inverse s t j' := by
  obtain ⟨j, rfl, -, hforeign, howner⟩ := (finds_describeHas info t.type).exists_of_map hd
  obtain ⟨j', rfl, -, hforeign', s', hs', howner'⟩ :=
    (finds_describeBelongsTo info' s.type).exists_of_map hd'
  obtain rfl : s = s' := Except.ok.inj (hs.symm.trans hs')
  rw [hinfo.foreignKey, Option.getD_none] at hforeign
  rw [hinfo'.foreignKey, Option.getD_none] at hforeign'
  rw [hinfo.parentKey_eq] at howner
  rw [hinfo'.ownerKey, Option.getD_none] at howner'
  obtain ⟨c, hc⟩ := Option.isSome_iff_exists.1 (Registry.isSome_column? hs howner)
  obtain ⟨c', hc'⟩ := Option.isSome_iff_exists.1 (Registry.isSome_column? ht hforeign)
  exact ⟨j, j', rfl, rfl,
    { parentColumn_eq := Option.some.inj (hforeign'.symm.trans hforeign)
      childColumn_eq := Option.some.inj (howner'.symm.trans howner)
      matched := ⟨c, c', hc, hc', fun _ _ _ h => matched_inverse h⟩ }⟩

theorem pivot_inverse (hs : reg.schema s.type = .ok s) (ht : reg.schema t.type = .ok t)
    (hinfo : info.IsConventional) (hinfo' : info'.IsConventional) {β : Type} {g : PivotJoin → β}
    {d d' : β} (hd : (g <$> info.describePivot s t.type).run w = (.ok d, w₁))
    (hd' : (g <$> info'.describePivot t s.type).run w₂ = (.ok d', w₃)) :
    ∃ j j', d = g j ∧ d' = g j' ∧ j.Inverse j' := by
  obtain ⟨j, rfl, -, hpivot, hkeys, -, hparent, t', ht', hrelated⟩ :=
    (finds_describePivot info t.type).exists_of_map hd
  obtain ⟨j', rfl, -, hpivot', hkeys', -, hparent', s', hs', hrelated'⟩ :=
    (finds_describePivot info' s.type).exists_of_map hd'
  obtain rfl : s = s' := Except.ok.inj (hs.symm.trans hs')
  obtain rfl : t = t' := Except.ok.inj (ht.symm.trans ht')
  rw [hinfo.pivot, Option.getD_none] at hpivot
  rw [hinfo'.pivot, Option.getD_none] at hpivot'
  rw [hinfo.pivotKeys, Option.getD_none, Prod.mk.injEq] at hkeys
  rw [hinfo'.pivotKeys, Option.getD_none, Prod.mk.injEq] at hkeys'
  rw [hinfo.parentKey_eq] at hparent
  rw [hinfo'.parentKey_eq] at hparent'
  rw [hinfo.relatedKey, Option.getD_none] at hrelated
  rw [hinfo'.relatedKey, Option.getD_none] at hrelated'
  exact ⟨j, j', rfl, rfl,
    { pivotTable_eq := by rw [hpivot, hpivot', pivotTableName_comm]
      foreignPivotKey_eq := hkeys'.1.trans hkeys.2.symm
      relatedPivotKey_eq := hkeys'.2.trans hkeys.1.symm
      parentKey_eq := Option.some.inj (hparent'.symm.trans hrelated)
      relatedKey_eq := Option.some.inj (hrelated'.symm.trans hparent) }⟩

/-- The last target under the alias of the type is the type itself. -/
theorem Targets.find?_eq (h : info.Targets reg s) (hs : reg.schema s.type = .ok s) :
    (info.options.targets.reverse.find? fun t => discriminator? reg t = some s.morphAlias).map
      Prod.fst = some s.type := by
  obtain ⟨before, after, htargets, hafter⟩ := h.target
  have halias : discriminator? reg (s.type, none) = some s.morphAlias := by
    simp [discriminator?, hs, Except.toOption]
  rw [htargets, List.reverse_append, List.reverse_cons, List.append_assoc, List.find?_append]
  cases hfound : after.reverse.find? fun t => discriminator? reg t = some s.morphAlias with
  | none => simp [halias]
  | some t =>
    have hmem : t ∈ after := List.mem_reverse.1 (List.mem_of_find?_eq_some hfound)
    have htype : t.1 = s.type := by
      by_contra hne
      exact hafter t hmem hne (by simpa using List.find?_some hfound)
    rw [Option.some_or, Option.map_some, htype]

theorem morph_inverse (hs : reg.schema s.type = .ok s) (ht : reg.schema t.type = .ok t)
    (hinfo : info.IsConventional) (hinfo' : info'.IsConventional) (htargets : info'.Targets reg s)
    {morph : String} {β β' : Type} {g : Join → β} {g' : OwnerJoin → β'} {d : β} {d' : β'}
    (hd : (g <$> info.describeMorph s t.type morph).run w = (.ok d, w₁))
    (hd' : (g' <$> info'.describeOwners t morph none).run w₂ = (.ok d', w₃)) :
    ∃ j j', d = g j ∧ d' = g' j' ∧ j.InverseOwner s t j' := by
  obtain ⟨j, rfl, -, ⟨typeColumn, hdiscriminator, htype⟩, hid, howner⟩ :=
    (finds_describeMorph info t.type morph).exists_of_map hd
  obtain ⟨j', rfl, htype', hid', hkey', -, hdeclared⟩ :=
    (finds_describeOwners info' morph none).exists_of_map hd'
  rw [hinfo.morphColumns_eq] at htype hid
  rw [hinfo'.morphColumns_eq] at htype' hid'
  rw [hinfo.parentKey_eq] at howner
  have htypes := (hdeclared rfl s.morphAlias).trans (htargets.find?_eq hs)
  obtain ⟨type, hcolumn⟩ := Option.isSome_iff_exists.1 (Registry.isSome_column? ht htype')
  obtain ⟨c', hc'⟩ := Option.isSome_iff_exists.1 (Registry.isSome_column? ht hid)
  -- the primary key is the name of a column, so it stands for that column
  obtain ⟨c, hc⟩ := Option.isSome_iff_exists.1 htargets.primaryKey
  have hparent : j.parentColumn = s.primaryKey := by
    rw [Catalog.resolve_of_schema hs, Schema.resolve_of_isSome htargets.primaryKey] at howner
    exact (Option.some.inj howner).symm
  have howns : j'.column? s = some c := by
    rw [OwnerJoin.column?, hkey', hinfo'.ownerKey]
    exact hc
  exact ⟨j, j', rfl, rfl,
    { discriminator_eq := by rw [hdiscriminator, Option.some.inj (htype.symm.trans htype')]
      idColumn_eq := Option.some.inj (hid'.symm.trans hid)
      type_eq := htypes
      matched := ⟨type, c, c', hcolumn, hc', hparent ▸ hc, howns, fun _ _ _ h =>
        OwnerJoin.matched_inverse h type s.morphAlias⟩ }⟩

/-- **Relations that are declared by convention on both types are inverse to each other.** Their
descriptors name the same columns from opposite ends, a morph-to relation maps the alias of the
owner's type to that type, and the pairs that match are the same from both ends. Owner types with
one alias are an exception: it stands for the one that is declared last
(`not_inverse_of_shared_alias`). -/
theorem describe_inverse (hs : reg.schema s.type = .ok s) (ht : reg.schema t.type = .ok t)
    (hinfo : info.IsConventional) (hinfo' : info'.IsConventional)
    (hopposite : Opposite reg s t info info') {d d' : Descriptor}
    (hd : (info.describe s none).run w = (.ok d, w₁))
    (hd' : (info'.describe t none).run w₂ = (.ok d', w₃)) : d.Inverse s t d' := by
  cases hopposite with
  | hasOne hshape hshape' =>
    rw [describe, hshape] at hd
    rw [describe, hshape'] at hd'
    obtain ⟨j, j', rfl, rfl, h⟩ := has_inverse hs ht hinfo hinfo' hd hd'
    exact .hasOne h
  | hasMany hshape hshape' =>
    rw [describe, hshape] at hd
    rw [describe, hshape'] at hd'
    obtain ⟨j, j', rfl, rfl, h⟩ := has_inverse hs ht hinfo hinfo' hd hd'
    exact .hasMany h
  | belongsToMany hshape hshape' =>
    rw [describe, hshape] at hd
    rw [describe, hshape'] at hd'
    obtain ⟨j, j', rfl, rfl, h⟩ := pivot_inverse hs ht hinfo hinfo' hd hd'
    exact .belongsToMany h
  | morphOne hshape hshape' htargets =>
    rw [describe, hshape] at hd
    rw [describe, hshape'] at hd'
    obtain ⟨j, j', rfl, rfl, h⟩ := morph_inverse hs ht hinfo hinfo' htargets hd hd'
    exact .morphOne h
  | morphMany hshape hshape' htargets =>
    rw [describe, hshape] at hd
    rw [describe, hshape'] at hd'
    obtain ⟨j, j', rfl, rfl, h⟩ := morph_inverse hs ht hinfo hinfo' htargets hd hd'
    exact .morphMany h

/-! Authors, posts and tags, and comments on posts and videos. -/

def blogRegistry : Registry :=
  ⟨[{ type := "Author", table := some "authors", members :=
        [.column "id" (.int .i64) (some "id") true false,
          .relation "posts" (.hasMany "Post") { name := some "Posts" }] },
    { type := "Post", table := some "posts", members :=
        [.column "id" (.int .i64) (some "id") true false,
          .column "author_id" (.int .i64) (some "author_id") false false,
          .relation "author" (.belongsTo "Author") { name := some "Author" },
          .relation "tags" (.belongsToMany "Tag") { name := some "Tags" },
          .relation "comments" (.morphMany "Comment" "subject") { name := some "Comments" }] },
    { type := "Tag", table := some "tags", members :=
        [.column "id" (.int .i64) (some "id") true false,
          .relation "posts" (.belongsToMany "Post") { name := some "Posts" }] },
    { type := "Video", table := some "videos", members :=
        [.column "id" (.int .i64) (some "id") true false] },
    { type := "Comment", table := some "comments", members :=
        [.column "subject_type" .text (some "subject_type") false false,
          .column "subject_id" (.int .i32) (some "subject_id") false false,
          .relation "subject" (.morphTo "subject")
            { name := some "Subject", targets := [("Post", none), ("Video", none)] }] }]⟩

/-- Two relations resolve, and are described as inverse to each other. -/
def InverseAt (reg : Registry) (type name type' name' : String) : Prop :=
  ∃ s t info info' d d', ∃ w w₁ w₂ w₃ : World reg Unit, reg.schema type = .ok s ∧
    reg.schema type' = .ok t ∧ s.relation? name = some info ∧ t.relation? name' = some info' ∧
    (info.describe s none).run w = (.ok d, w₁) ∧ (info'.describe t none).run w₂ = (.ok d', w₃) ∧
    d.Inverse s t d'

theorem describe_inverse_blog :
    InverseAt blogRegistry "Author" "Posts" "Post" "Author" ∧
      InverseAt blogRegistry "Post" "Tags" "Tag" "Posts" ∧
      InverseAt blogRegistry "Post" "Comments" "Comment" "Subject" := by
  let w : World blogRegistry Unit := { catalog := .empty _ {}, state := () }
  have hpair : ∀ {type name type' name' s t info info'}, blogRegistry.schema type = .ok s →
      blogRegistry.schema type' = .ok t → s.relation? name = some info →
      t.relation? name' = some info' → s.type = type → t.type = type' → info.IsConventional →
      info'.IsConventional → Opposite blogRegistry s t info info' →
      ((info.describe s none).run w).1.isOk = true →
      ((info'.describe t none).run w).1.isOk = true →
      InverseAt blogRegistry type name type' name' := by
    intro type name type' name' s t info info' hs ht hinfo hinfo' htype htype' hconventional
      hconventional' hopposite hok hok'
    rcases hd : (info.describe s none).run w with ⟨why | d, w₁⟩
    · rw [hd] at hok
      cases hok
    rcases hd' : (info'.describe t none).run w with ⟨why | d', w₂⟩
    · rw [hd'] at hok'
      cases hok'
    exact ⟨s, t, info, info', d, d', w, w₁, w, w₂, hs, ht, hinfo, hinfo', hd, hd',
      describe_inverse (htype ▸ hs) (htype' ▸ ht) hconventional hconventional' hopposite hd hd'⟩
  have hplain : ∀ {info : RelationInfo}, info.options = { name := info.options.name } →
      info.IsConventional := fun h => by
    constructor <;> rw [h]
  refine ⟨?_, ?_, ?_⟩
  · exact hpair rfl rfl rfl rfl rfl rfl (hplain rfl) (hplain rfl) (.hasMany rfl rfl)
      (by decide +kernel) (by decide +kernel)
  · exact hpair rfl rfl rfl rfl rfl rfl (hplain rfl) (hplain rfl) (.belongsToMany rfl rfl)
      (by decide +kernel) (by decide +kernel)
  · refine hpair rfl rfl rfl rfl rfl rfl (hplain rfl) ⟨rfl, rfl, rfl, rfl, rfl, rfl⟩
      (.morphMany rfl rfl ⟨⟨[], [("Video", none)], rfl, ?_⟩, ?_⟩) ?_ ?_ <;> decide +kernel

/-- Posts and videos in one table, and so with one alias. -/
def mediaRegistry : Registry :=
  ⟨[{ type := "Post", table := some "media", members :=
        [.column "id" (.int .i64) (some "id") true false,
          .relation "comments" (.morphMany "Comment" "subject") { name := some "Comments" }] },
    { type := "Video", table := some "media", members :=
        [.column "id" (.int .i64) (some "id") true false] },
    { type := "Comment", table := some "comments", members :=
        [.column "subject_type" .text (some "subject_type") false false,
          .column "subject_id" (.int .i64) (some "subject_id") false false,
          .relation "subject" (.morphTo "subject")
            { name := some "Subject", targets := [("Post", none), ("Video", none)] }] }]⟩

/-- The comments of a post lead back to a video: both targets have the alias `media`, and the later
one replaces the earlier one. -/
theorem not_inverse_of_shared_alias :
    ∃ s t info info' d d', ∃ w w₁ w₂ w₃ : World mediaRegistry Unit,
      mediaRegistry.schema "Post" = .ok s ∧ mediaRegistry.schema "Comment" = .ok t ∧
      s.relation? "Comments" = some info ∧ t.relation? "Subject" = some info' ∧
      info.shape = .morphMany "Comment" "subject" ∧ info'.shape = .morphTo "subject" ∧
      info.IsConventional ∧ info'.IsConventional ∧ ("Post", none) ∈ info'.options.targets ∧
      (s.column? s.primaryKey).isSome = true ∧ (info.describe s none).run w = (.ok d, w₁) ∧
      (info'.describe t none).run w₂ = (.ok d', w₃) ∧ ¬ d.Inverse s t d' := by
  let w : World mediaRegistry Unit := { catalog := .empty _ {}, state := () }
  obtain ⟨s, hs⟩ : ∃ s, mediaRegistry.schema "Post" = .ok s := ⟨_, rfl⟩
  obtain ⟨t, ht⟩ : ∃ t, mediaRegistry.schema "Comment" = .ok t := ⟨_, rfl⟩
  obtain ⟨info, hinfo⟩ : ∃ info, s.relation? "Comments" = some info := by
    cases hs
    exact ⟨_, rfl⟩
  obtain ⟨info', hinfo'⟩ : ∃ info', t.relation? "Subject" = some info' := by
    cases ht
    exact ⟨_, rfl⟩
  have hok : ((info.describe s none).run w).1.isOk = true := by
    cases hs
    cases hinfo
    decide +kernel
  have hvideo : (match ((info'.describe t none).run w).1 with
      | .ok (.morphTo j) => j.types.get? s.morphAlias
      | _ => none) = some "Video" := by
    cases hs
    cases ht
    cases hinfo'
    decide +kernel
  have hpost : s.type = "Post" := by
    cases hs
    rfl
  rcases hd : (info.describe s none).run w with ⟨why | d, w₁⟩
  · rw [hd] at hok
    cases hok
  rcases hd' : (info'.describe t none).run w with ⟨why | d', w₂⟩
  · rw [hd'] at hvideo
    cases hvideo
  refine ⟨s, t, info, info', d, d', w, w₁, w, w₂, hs, ht, hinfo, hinfo', ?_, ?_, ?_, ?_, ?_, ?_, hd,
    hd', fun h => ?_⟩
  · cases hs
    cases hinfo
    rfl
  · cases ht
    cases hinfo'
    rfl
  · cases hs
    cases hinfo
    exact ⟨rfl, rfl, rfl, rfl, rfl, rfl⟩
  · cases ht
    cases hinfo'
    exact ⟨rfl, rfl, rfl, rfl, rfl, rfl⟩
  · cases ht
    cases hinfo'
    exact List.mem_cons_self
  · cases hs
    decide +kernel
  · rw [hd'] at hvideo
    cases h with
    | hasOne h | hasMany h | belongsToMany h => cases hvideo
    | morphOne h | morphMany h =>
      have htype : some s.type = some "Video" := h.type_eq.symm.trans hvideo
      rw [hpost] at htype
      simp at htype

end RelationInfo

end EntityGraph
