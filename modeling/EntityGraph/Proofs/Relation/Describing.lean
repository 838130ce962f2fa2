import EntityGraph.Proofs.Run
import EntityGraph.Proofs.Schema.Columns
import EntityGraph.Relation.Describe

/-!
# What describing a relation establishes

A descriptor holds accepted tables, and columns that its type really has (`finds_describe`). It
depends on the registry, the relation and the owner types that the caller gave, but not on what the
catalog has seen before or on how owner types are walked (`steady_describe`).
-/

namespace EntityGraph

open Run
open Sql (Accepted)

variable {reg : Registry} {σ : Type}

/-! ### Schemas and their columns -/

theorem Registry.type_eq {type : String} {s : Schema} (hs : reg.schema type = .ok s) :
    s.type = type := by
  unfold Registry.schema at hs
  split at hs
  · cases hs
  · cases hs
    show (reg.get type).type = type
    rw [Registry.get]
    cases hfind : reg.registrations.find? (·.type = type) with
    | none => rfl
    | some r => simpa using List.find?_some hfind

theorem Schema.isSome_column? {s : Schema} {c : ColumnInfo} (hc : c ∈ s.columns) :
    (s.column? c.column).isSome = true := by
  rw [Schema.column?, List.find?_isSome]
  exact ⟨c, by simpa using hc, by simp⟩

/-- A name stands for a mapped column. -/
theorem Schema.mem_of_resolve {s : Schema} {name column : String}
    (h : s.resolve name = some column) : ∃ c ∈ s.columns, c.column = column := by
  unfold Schema.resolve at h
  split at h
  · next c hnamed =>
    obtain rfl := Option.some.inj h
    refine ⟨c, ?_, rfl⟩
    rw [Schema.named?, Option.orElse_eq_orElse, Option.orElse_eq_or,
      Option.or_eq_some_iff] at hnamed
    rcases hnamed with hcolumn | ⟨-, hfield⟩
    · exact Schema.mem_of_column? hcolumn
    · exact List.mem_reverse.1 (List.mem_of_find?_eq_some hfield)
  · obtain ⟨c, hcolumn, hname⟩ := Option.map_eq_some_iff.1 h
    exact ⟨c, Schema.mem_of_column? hcolumn, hname⟩

/-- The name of a column stands for that column. -/
theorem Schema.resolve_of_isSome {s : Schema} {name : String}
    (h : (s.column? name).isSome = true) : s.resolve name = some name := by
  obtain ⟨c, hc⟩ := Option.isSome_iff_exists.1 h
  have hname : c.column = name := by simpa using List.find?_some hc
  have hnamed : s.named? name = some c := by
    rw [Schema.named?, hc]
    rfl
  rw [Schema.resolve, hnamed]
  exact congrArg some hname

theorem Registry.isSome_column? {type name column : String} {s : Schema}
    (hs : reg.schema type = .ok s) (h : reg.resolve (type, name) = some column) :
    (s.column? column).isSome = true := by
  rw [Catalog.resolve_of_schema hs] at h
  obtain ⟨c, hc, rfl⟩ := Schema.mem_of_resolve h
  exact Schema.isSome_column? hc

theorem Registry.exists_schema_of_resolve {type name column : String}
    (h : reg.resolve (type, name) = some column) : ∃ s, reg.schema type = .ok s := by
  cases hs : reg.schema type with
  | ok s => exact ⟨s, rfl⟩
  | error why => simp [Registry.resolve, hs] at h

/-! ### Descriptors -/

/-- What planning has checked of a descriptor for a type: the tables and pivot columns are accepted,
and the columns of the parents are mapped. -/
def Descriptor.Checked (reg : Registry) (s : Schema) : Descriptor → Prop
  | .hasOne j | .hasMany j | .belongsTo j | .morphOne j | .morphMany j =>
    Accepted j.table ∧ (s.column? j.parentColumn).isSome = true
  | .belongsToMany j =>
    Accepted j.table ∧ (s.column? j.parentKey).isSome = true ∧
      ∀ name ∈ [j.pivotTable, j.foreignPivotKey, j.relatedPivotKey], Accepted name
  | .morphTo j =>
    (s.column? j.typeColumn).isSome = true ∧ (s.column? j.idColumn).isSome = true ∧
      ∀ key ∈ j.ownerKey, ∀ type ∈ j.types.entries.map Prod.snd,
        (reg.resolve (type, key)).isSome = true

namespace RelationInfo

variable (info : RelationInfo) (parent : Schema) (target morph : String)

theorem finds_mappedColumn (type name : String) :
    Finds (info.mappedColumn parent type name : Run reg σ String)
      fun column => reg.resolve (type, name) = some column := by
  refine (ensures_checkName name).finds.bind fun _ _ => ?_
  refine (ensures_resolve type name).finds.bind fun r hr => ?_
  cases r with
  | some column => exact Ensures.pure hr.symm
  | none => exact Ensures.throw trivial

theorem finds_related :
    Finds (info.related target : Run reg σ (Schema × String)) fun r =>
      reg.schema target = .ok r.1 ∧ Accepted r.2 := by
  refine (ensures_schema target).finds.bind fun s _ => ?_
  refine (ensures_checkName _).finds.bind fun _ htable => ?_
  exact Ensures.pure ⟨s.property, htable⟩

theorem finds_keyName (type : String) :
    Finds (keyName type : Run reg σ String) (· = Text.snakeCase type ++ "_id") := by
  refine (ensures_snakeCase type).bind fun name hname => ?_
  exact Ensures.pure (by rw [hname])

variable {parent}

theorem finds_describeHas :
    Finds (info.describeHas parent target : Run reg σ Join) fun j =>
      Accepted j.table ∧
        reg.resolve (target, info.options.foreignKey.getD (Text.snakeCase parent.type ++ "_id"))
          = some j.childColumn ∧
        reg.resolve (parent.type, info.parentKey parent) = some j.parentColumn := by
  refine (finds_related info target).bind fun r hr => ?_
  refine (finds_keyName parent.type).bind fun conventional hconventional => ?_
  refine (finds_mappedColumn info parent target _).bind fun foreignKey hforeign => ?_
  refine (finds_mappedColumn info parent parent.type _).bind fun ownerKey howner => ?_
  exact Ensures.pure ⟨hr.2, hconventional ▸ hforeign, howner⟩

theorem finds_describeBelongsTo :
    Finds (info.describeBelongsTo parent target : Run reg σ Join) fun j =>
      Accepted j.table ∧
        reg.resolve (parent.type, info.options.foreignKey.getD (Text.snakeCase target ++ "_id"))
          = some j.parentColumn ∧
        ∃ s, reg.schema target = .ok s ∧
          reg.resolve (target, info.options.ownerKey.getD s.primaryKey) = some j.childColumn := by
  refine (finds_related info target).bind fun r hr => ?_
  refine (finds_keyName target).bind fun conventional hconventional => ?_
  refine (finds_mappedColumn info parent parent.type _).bind fun foreignKey hforeign => ?_
  refine (finds_mappedColumn info parent target _).bind fun ownerKey howner => ?_
  exact Ensures.pure ⟨hr.2, hconventional ▸ hforeign, r.1, hr.1, howner⟩

theorem finds_describePivot :
    Finds (info.describePivot parent target : Run reg σ PivotJoin) fun j =>
      Accepted j.table ∧
        j.pivotTable = info.options.pivot.getD
          (pivotTableName (Text.snakeCase parent.type) (Text.snakeCase target)) ∧
        (j.foreignPivotKey, j.relatedPivotKey) = info.options.pivotKeys.getD
          (Text.snakeCase parent.type ++ "_id", Text.snakeCase target ++ "_id") ∧
        (∀ name ∈ [j.pivotTable, j.foreignPivotKey, j.relatedPivotKey], Accepted name) ∧
        reg.resolve (parent.type, info.parentKey parent) = some j.parentKey ∧
        ∃ s, reg.schema target = .ok s ∧
          reg.resolve (target, info.options.relatedKey.getD s.primaryKey) = some j.relatedKey := by
  refine (finds_related info target).bind fun r hr => ?_
  refine (ensures_snakeCase parent.type).bind fun left hleft => ?_
  refine (ensures_snakeCase target).bind fun right hright => ?_
  refine (ensures_checkName _).finds.bind fun _ hpivot => ?_
  refine (ensures_checkName _).finds.bind fun _ hforeign => ?_
  refine (ensures_checkName _).finds.bind fun _ hrelated => ?_
  refine (finds_mappedColumn info parent parent.type _).bind fun parentColumn hparent => ?_
  refine (finds_mappedColumn info parent target _).bind fun relatedColumn hcolumn => ?_
  subst hleft hright
  exact Ensures.pure ⟨hr.2, rfl, rfl, by simp [hpivot, hforeign, hrelated], hparent, r.1, hr.1,
    hcolumn⟩

theorem finds_describeMorph :
    Finds (info.describeMorph parent target morph : Run reg σ Join) fun j =>
      Accepted j.table ∧
        (∃ typeColumn, j.discriminator = some (typeColumn, parent.morphAlias) ∧
          reg.resolve (target, (info.morphColumns morph).1) = some typeColumn) ∧
        reg.resolve (target, (info.morphColumns morph).2) = some j.childColumn ∧
        reg.resolve (parent.type, info.parentKey parent) = some j.parentColumn := by
  refine (finds_related info target).bind fun r hr => ?_
  refine (finds_mappedColumn info parent target _).bind fun typeColumn htype => ?_
  refine (finds_mappedColumn info parent target _).bind fun idColumn hid => ?_
  refine (finds_mappedColumn info parent parent.type _).bind fun ownerKey howner => ?_
  exact Ensures.pure ⟨hr.2, ⟨typeColumn, rfl, htype⟩, hid, howner⟩

theorem finds_checkOwners (key : String) (types : List String) :
    Finds (info.checkOwners parent key types : Run reg σ Unit) fun _ =>
      ∀ type ∈ types, (reg.resolve (type, key)).isSome = true := by
  induction types with
  | nil => exact Ensures.pure (by simp)
  | cons type rest ih =>
    refine (ensures_resolve type key).finds.bind fun r hr => ?_
    cases r with
    | none => exact Ensures.throw trivial
    | some column =>
      refine ih.imp fun _ hrest => ?_
      exact List.forall_mem_cons.2 ⟨by rw [← hr]; rfl, hrest⟩

/-- However the owner types are walked, all of them are checked. -/
theorem finds_walkOwners (key : String) (types : OwnerTypes) :
    Finds (info.walkOwners parent key types : Run reg σ Unit) fun _ =>
      ∀ type ∈ types.entries.map Prod.snd, (reg.resolve (type, key)).isSome = true := by
  refine (ensures_walk _).bind fun order hperm => ?_
  refine (finds_checkOwners info key order).imp fun _ h type htype => ?_
  exact h type (hperm.mem_iff.2 htype)

/-- The discriminator of a declared owner type. -/
def discriminator? (reg : Registry) (target : String × Option String) : Option String :=
  target.2 <|> (reg.schema target.1).toOption.map Schema.morphAlias

/-- The last one of several that is found, or what stands in for it. -/
theorem elim_find?_cons {α β : Type} (p : α → Bool) (a : α) (l : List α) (b : β) (f : α → β) :
    ((a :: l).reverse.find? p).elim b f
      = (l.reverse.find? p).elim (if p a then f a else b) f := by
  rw [List.reverse_cons, List.find?_append]
  cases l.reverse.find? p with
  | some found => rfl
  | none => cases h : p a <;> simp [h]

/-- A discriminator stands for the type that was declared last under it. -/
theorem finds_declaredOwners (targets : List (String × Option String)) (types : OwnerTypes) :
    Finds (declaredOwners targets types : Run reg σ OwnerTypes) fun declared =>
      ∀ d, declared.get? d = (targets.reverse.find? fun t => discriminator? reg t = some d).elim
        (types.get? d) fun t => some t.1 := by
  fun_induction declaredOwners targets types with
  | case1 types => exact Ensures.pure fun d => rfl
  | case2 type discriminator rest types ih =>
    refine ih.imp fun declared h d => ?_
    rw [h d, elim_find?_cons, ByName.get?_insert]
    simp [discriminator?, eq_comm]
  | case3 type rest types ih =>
    refine (ensures_schema type).finds.bind fun s _ => ?_
    refine (ih s).imp fun declared h d => ?_
    rw [h d, elim_find?_cons, ByName.get?_insert]
    simp [discriminator?, s.property, Except.toOption, eq_comm]

theorem finds_describeOwners (given : Option OwnerTypes) :
    Finds (info.describeOwners parent morph given : Run reg σ OwnerJoin) fun j =>
      reg.resolve (parent.type, (info.morphColumns morph).1) = some j.typeColumn ∧
        reg.resolve (parent.type, (info.morphColumns morph).2) = some j.idColumn ∧
        j.ownerKey = info.options.ownerKey ∧
        (∀ key ∈ j.ownerKey, ∀ type ∈ j.types.entries.map Prod.snd,
          (reg.resolve (type, key)).isSome = true) ∧
        (given = none → ∀ d, j.types.get? d = (info.options.targets.reverse.find? fun t =>
          discriminator? reg t = some d).map Prod.fst) := by
  refine (finds_mappedColumn info parent parent.type _).bind fun typeColumn htype => ?_
  refine (finds_mappedColumn info parent parent.type _).bind fun idColumn hid => ?_
  have hkey : Quiet (info.options.ownerKey.forM checkName : Run reg σ Unit) := by
    cases info.options.ownerKey with
    | none => exact Ensures.pure trivial
    | some key => exact (ensures_checkName key).quiet
  have howners : ∀ types : OwnerTypes, Finds (info.options.ownerKey.forM fun key =>
      info.walkOwners parent key types : Run reg σ Unit) fun _ =>
      ∀ key ∈ info.options.ownerKey, ∀ type ∈ types.entries.map Prod.snd,
        (reg.resolve (type, key)).isSome = true := by
    intro types
    cases info.options.ownerKey with
    | none => exact Ensures.pure (by simp)
    | some key =>
      refine (finds_walkOwners info key types).imp fun _ h => ?_
      simpa using h
  refine hkey.bind fun _ _ => ?_
  cases given with
  | some types =>
    refine (Ensures.pure trivial : Quiet (pure types)).bind fun types _ => ?_
    exact (howners types).bind fun _ hall => Ensures.pure ⟨htype, hid, rfl, hall, by simp⟩
  | none =>
    refine (finds_declaredOwners _ _).bind fun types htypes => ?_
    exact (howners types).bind fun _ hall => Ensures.pure ⟨htype, hid, rfl, hall, fun _ d => by
      rw [htypes d]
      cases List.find? _ _ <;> rfl⟩

/-- **A descriptor holds accepted tables and mapped columns.** -/
theorem finds_describe (hs : reg.schema parent.type = .ok parent) (owners : Option OwnerTypes) :
    Finds (info.describe parent owners : Run reg σ Descriptor) (Descriptor.Checked reg parent) := by
  have hmapped : ∀ {name column}, reg.resolve (parent.type, name) = some column →
      (parent.column? column).isSome = true := Registry.isSome_column? hs
  unfold describe
  cases info.shape with
  | hasOne target =>
    exact Ensures.map <| (finds_describeHas info target).imp fun j h => ⟨h.1, hmapped h.2.2⟩
  | hasMany target =>
    exact Ensures.map <| (finds_describeHas info target).imp fun j h => ⟨h.1, hmapped h.2.2⟩
  | belongsTo target =>
    exact Ensures.map <| (finds_describeBelongsTo info target).imp fun j h =>
      ⟨h.1, hmapped h.2.1⟩
  | belongsToMany target =>
    exact Ensures.map <| (finds_describePivot info target).imp
      fun j ⟨htable, _, _, hnames, hkey, _⟩ => ⟨htable, hmapped hkey, hnames⟩
  | morphOne target morph =>
    exact Ensures.map <| (finds_describeMorph info target morph).imp fun j h =>
      ⟨h.1, hmapped h.2.2.2⟩
  | morphMany target morph =>
    exact Ensures.map <| (finds_describeMorph info target morph).imp fun j h =>
      ⟨h.1, hmapped h.2.2.2⟩
  | morphTo morph =>
    exact Ensures.map <| (finds_describeOwners info morph owners).imp fun j h =>
      ⟨hmapped h.1, hmapped h.2.1, h.2.2.2.1⟩

/-! ### Descriptors in two worlds -/

section
variable {view : View reg σ} (hview : view.Sound)
include hview

theorem agrees_mappedColumn (type name : String) :
    Agrees view (info.mappedColumn parent type name : Run reg σ String) :=
  (hview.checkName name).bind fun _ =>
    hview.resolve type name ⟨_, rfl⟩ fun column => Agrees.pure column

theorem agrees_related : Agrees view (info.related target : Run reg σ (Schema × String)) :=
  (hview.schema target).bind fun _ => (hview.checkName _).bind fun _ => Agrees.pure _

theorem agrees_keyName (type : String) : Agrees view (keyName type : Run reg σ String) :=
  (hview.snakeCase type).bind fun _ => Agrees.pure _

theorem agrees_describeHas : Agrees view (info.describeHas parent target : Run reg σ Join) :=
  (agrees_related info target hview).bind fun _ => (agrees_keyName hview _).bind fun _ =>
    (agrees_mappedColumn info hview _ _).bind fun _ =>
      (agrees_mappedColumn info hview _ _).bind fun _ => Agrees.pure _

theorem agrees_describeBelongsTo :
    Agrees view (info.describeBelongsTo parent target : Run reg σ Join) :=
  (agrees_related info target hview).bind fun _ => (agrees_keyName hview _).bind fun _ =>
    (agrees_mappedColumn info hview _ _).bind fun _ =>
      (agrees_mappedColumn info hview _ _).bind fun _ => Agrees.pure _

theorem agrees_describePivot :
    Agrees view (info.describePivot parent target : Run reg σ PivotJoin) :=
  (agrees_related info target hview).bind fun _ => (hview.snakeCase _).bind fun _ =>
    (hview.snakeCase _).bind fun _ => (hview.checkName _).bind fun _ =>
      (hview.checkName _).bind fun _ => (hview.checkName _).bind fun _ =>
        (agrees_mappedColumn info hview _ _).bind fun _ =>
          (agrees_mappedColumn info hview _ _).bind fun _ => Agrees.pure _

theorem agrees_describeMorph :
    Agrees view (info.describeMorph parent target morph : Run reg σ Join) :=
  (agrees_related info target hview).bind fun _ =>
    (agrees_mappedColumn info hview _ _).bind fun _ =>
      (agrees_mappedColumn info hview _ _).bind fun _ =>
        (agrees_mappedColumn info hview _ _).bind fun _ => Agrees.pure _

theorem agrees_declaredOwners (targets : List (String × Option String)) (types : OwnerTypes) :
    Agrees view (declaredOwners targets types : Run reg σ OwnerTypes) := by
  fun_induction declaredOwners targets types with
  | case1 types => exact Agrees.pure types
  | case2 type discriminator rest types ih => exact ih
  | case3 type rest types ih => exact (hview.schema type).bind ih

theorem agrees_describeOwners
    (howners : ∀ key types, Agrees view (info.walkOwners parent key types : Run reg σ Unit))
    (given : Option OwnerTypes) :
    Agrees view (info.describeOwners parent morph given : Run reg σ OwnerJoin) := by
  have hkey : Agrees view (info.options.ownerKey.forM checkName : Run reg σ Unit) := by
    cases info.options.ownerKey with
    | none => exact Agrees.pure ()
    | some key => exact hview.checkName key
  have hwalk : ∀ types : OwnerTypes, Agrees view (info.options.ownerKey.forM fun key =>
      info.walkOwners parent key types : Run reg σ Unit) := by
    intro types
    cases info.options.ownerKey with
    | none => exact Agrees.pure ()
    | some key => exact howners key types
  refine (agrees_mappedColumn info hview _ _).bind fun _ => ?_
  refine (agrees_mappedColumn info hview _ _).bind fun _ => hkey.bind fun _ => ?_
  cases given with
  | some types =>
    exact (Agrees.pure types).bind fun types => (hwalk types).bind fun _ => Agrees.pure _
  | none =>
    exact (agrees_declaredOwners hview _ _).bind fun types =>
      (hwalk types).bind fun _ => Agrees.pure _

/-- **A relation is described alike in two worlds** in which its owner types are walked alike. -/
theorem agrees_describe
    (howners : ∀ key types, Agrees view (info.walkOwners parent key types : Run reg σ Unit))
    (owners : Option OwnerTypes) :
    Agrees view (info.describe parent owners : Run reg σ Descriptor) := by
  unfold describe
  cases info.shape with
  | hasOne target => exact (agrees_describeHas info target hview).map
  | hasMany target => exact (agrees_describeHas info target hview).map
  | belongsTo target => exact (agrees_describeBelongsTo info target hview).map
  | belongsToMany target => exact (agrees_describePivot info target hview).map
  | morphOne target morph => exact (agrees_describeMorph info target morph hview).map
  | morphMany target morph => exact (agrees_describeMorph info target morph hview).map
  | morphTo morph => exact (agrees_describeOwners info morph hview howners owners).map

end

/-- Owner types that all have the column are checked without fail. -/
theorem ensures_checkOwners_of {key : String} {types : List String}
    (h : ∀ type ∈ types, (reg.resolve (type, key)).isSome = true) :
    Ensures (info.checkOwners parent key types : Run reg σ Unit) (fun _ => False)
      (fun _ => False) fun _ => True := by
  induction types with
  | nil => exact Ensures.pure trivial
  | cons type rest ih =>
    obtain ⟨htype, hrest⟩ := List.forall_mem_cons.1 h
    obtain ⟨column, hcolumn⟩ := Option.isSome_iff_exists.1 htype
    obtain ⟨s, hs⟩ := Registry.exists_schema_of_resolve hcolumn
    refine ((ensures_resolve type key).weaken fun _ he => he.2 s hs).bind fun r hr => ?_
    rw [hr, hcolumn]
    exact ih hrest

/-- Which owner type is found to lack the column depends on the walk, but not whether one does. -/
theorem steady_walkOwners (key : String) (types : OwnerTypes) :
    Steady (info.walkOwners parent key types : Run reg σ Unit) := by
  by_cases h : ∀ type ∈ types.entries.map Prod.snd, (reg.resolve (type, key)).isSome = true
  · refine .of_ensures (P := fun _ => False) (a := ()) ((ensures_walk _).bind fun order hperm => ?_)
    refine (ensures_checkOwners_of info fun type htype => ?_).imp fun _ _ => rfl
    exact h type (hperm.mem_iff.1 htype)
  · exact .of_fails ((finds_walkOwners info key types).imp fun _ hall => h hall)

/-- **A relation has at most one descriptor**, whatever the catalog has seen before and however
owner types are walked. -/
theorem steady_describe (owners : Option OwnerTypes) :
    Steady (info.describe parent owners : Run reg σ Descriptor) :=
  agrees_describe info sound_any (steady_walkOwners info) owners

end RelationInfo

end EntityGraph
