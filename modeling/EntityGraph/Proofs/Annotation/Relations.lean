import EntityGraph.Annotation.Calls
import EntityGraph.Proofs.Annotation.Items

/-!
# What an annotation says about a relation

An annotation as a relation names one kind and any options. It can be read just if its items are
well formed (`RelationDraft.read_eq_ok_iff`), and the relation fits together just if the options
suit the kind (`RelationDraft.finish_eq_ok_iff`).
-/

namespace EntityGraph

open Annotation

namespace RelationDraft

/-! ### Reading -/

/-- The options that have a text. -/
def textOptions : List String :=
  ["name", "foreign_key", "owner_key", "table", "pivot", "foreign_pivot_key", "related_pivot_key",
    "related_key", "morph", "morph_type", "morph_id"]

/-- An owner type, maybe with its discriminator. -/
def IsTarget (a : Annotation) : Prop := a.isAlone = true ∨ a.text?.isSome

/-- A kind, an option with its text, or a list of owner types. -/
def IsItem (a : Annotation) : Prop :=
  ((relationKind? a.name).isSome ∧ a.isAlone = true) ∨
    (a.name ∈ textOptions ∧ a.text?.isSome) ∨
    (a.name = "targets" ∧ a.listed ≠ [] ∧ ∀ target ∈ a.listed, IsTarget target)

/-- The kinds that items name. -/
def kindsOf (items : List Annotation) : List RelationKind :=
  items.filterMap fun a => relationKind? a.name

/-- The owner types of all lists of them. -/
def targetsOf (items : List Annotation) : List (String × Option String) :=
  (itemsOf "targets" items).map fun target => (target.name, target.text?)

/-- What items say about a relation. -/
def ofItems (items : List Annotation) : RelationDraft :=
  { kind := (kindsOf items).head?
    morph := lastText "morph" items
    foreignPivotKey := lastText "foreign_pivot_key" items
    relatedPivotKey := lastText "related_pivot_key" items
    morphType := lastText "morph_type" items
    morphId := lastText "morph_id" items
    options :=
      { name := lastText "name" items
        foreignKey := lastText "foreign_key" items
        ownerKey := lastText "owner_key" items
        table := lastText "table" items
        pivot := lastText "pivot" items
        relatedKey := lastText "related_key" items
        targets := targetsOf items } }

/-- What a draft says together with what items say after it. -/
def followed (d : RelationDraft) (items : List Annotation) : RelationDraft :=
  { kind := d.kind.or (kindsOf items).head?
    morph := (lastText "morph" items).or d.morph
    foreignPivotKey := (lastText "foreign_pivot_key" items).or d.foreignPivotKey
    relatedPivotKey := (lastText "related_pivot_key" items).or d.relatedPivotKey
    morphType := (lastText "morph_type" items).or d.morphType
    morphId := (lastText "morph_id" items).or d.morphId
    options :=
      { d.options with
        name := (lastText "name" items).or d.options.name
        foreignKey := (lastText "foreign_key" items).or d.options.foreignKey
        ownerKey := (lastText "owner_key" items).or d.options.ownerKey
        table := (lastText "table" items).or d.options.table
        pivot := (lastText "pivot" items).or d.options.pivot
        relatedKey := (lastText "related_key" items).or d.options.relatedKey
        targets := d.options.targets ++ targetsOf items } }

theorem followed_nil (d : RelationDraft) : d.followed [] = d := by
  simp [followed, kindsOf, targetsOf, itemsOf]

theorem kindsOf_cons (a : Annotation) (items : List Annotation) :
    kindsOf (a :: items) = kindsOf [a] ++ kindsOf items := by
  rw [kindsOf, List.filterMap_cons]
  cases h : relationKind? a.name <;> simp [kindsOf, h]

theorem targetsOf_cons (a : Annotation) (items : List Annotation) :
    targetsOf (a :: items) = targetsOf [a] ++ targetsOf items := by
  by_cases hname : a.name = "targets" <;> simp [targetsOf, itemsOf, hname]

theorem followed_cons (d : RelationDraft) (a : Annotation) (items : List Annotation) :
    d.followed (a :: items) = (d.followed [a]).followed items := by
  simp only [followed, lastText_cons _ a items, kindsOf_cons a items, targetsOf_cons a items,
    List.head?_append, Option.or_assoc, List.append_assoc]

theorem addTarget_eq_ok_iff (targets : List (String × Option String)) (a : Annotation)
    (atEnd : Bool) (targets' : List (String × Option String)) :
    addTarget targets a atEnd = .ok targets' ↔
      IsTarget a ∧ targets' = targets ++ [(a.name, a.text?)] := by
  rw [addTarget, except_map_eq_ok_iff]
  simp [optionalText_eq_ok_iff, IsTarget, and_assoc]

/-- No option is named like a kind. -/
theorem relationKind?_option : ∀ name ∈ "targets" :: textOptions, relationKind? name = none := by
  decide

theorem followed_of_notMem {d : RelationDraft} {a : Annotation} (h : a.name ∉ textOptions) :
    d.followed [a] =
      { d with
        kind := d.kind.or (kindsOf [a]).head?
        options := { d.options with targets := d.options.targets ++ targetsOf [a] } } := by
  have htext : ∀ name ∈ textOptions, lastText name [a] = none := by
    intro name hname
    rw [lastText_singleton, if_neg]
    rintro rfl
    exact h hname
  simp only [textOptions, List.forall_mem_cons] at htext
  simp [followed, htext, -lastText_singleton]

theorem addKind_eq_ok_iff {d d' : RelationDraft} {a : Annotation} {kind : RelationKind}
    (hkind : relationKind? a.name = some kind) :
    d.addKind a kind = .ok d' ↔ IsItem a ∧ d.kind = none ∧ d' = d.followed [a] := by
  have hother : a.name ∉ "targets" :: textOptions := by
    intro hname
    simp [relationKind?_option a.name hname] at hkind
  obtain ⟨htargets, htext⟩ := not_or.1 (mt List.mem_cons.2 hother)
  have hitem : IsItem a ↔ a.isAlone = true := by simp [IsItem, hkind, htext, htargets]
  rw [addKind, hitem, followed_of_notMem htext]
  cases d.kind with
  | some other => simp
  | none =>
    simp [except_map_eq_ok_iff, alone_eq_ok_iff, kindsOf, hkind, targetsOf, itemsOf, htargets]

theorem foldl_target (items : List Annotation) (targets : List (String × Option String)) :
    items.foldl (fun targets a => targets ++ [(a.name, a.text?)]) targets
      = targets ++ items.map fun a => (a.name, a.text?) := by
  induction items generalizing targets with
  | nil => simp
  | cons a items ih => simp [ih]

theorem addOption_eq_ok_iff {d d' : RelationDraft} {a : Annotation} {atEnd : Bool}
    (hkind : relationKind? a.name = none) :
    d.addOption a atEnd = .ok d' ↔ IsItem a ∧ d' = d.followed [a] := by
  have hkinds : kindsOf [a] = [] := by simp [kindsOf, hkind]
  unfold addOption
  split
  case h_12 hname =>
    have htext : a.name ∉ textOptions := by simp [textOptions, hname]
    have htargets : targetsOf [a] = a.listed.map fun target => (target.name, target.text?) := by
      simp [targetsOf, itemsOf, hname]
    have hitem : IsItem a ↔ a.listed ≠ [] ∧ ∀ target ∈ a.listed, IsTarget target := by
      simp [IsItem, relationKind?, textOptions, hname]
    rw [hitem, followed_of_notMem htext, htargets, hkinds, except_bind_eq_ok_iff, listed]
    simp only [nestedItems_eq_ok_iff, except_bind_eq_ok_iff,
      Annotation.readItems_eq_ok_iff addTarget_eq_ok_iff, foldl_target]
    cases a.list? with
    | none => simp
    | some items => simp [pure, Except.pure, and_assoc, eq_comm]
  case h_13 => simp_all [IsItem, textOptions]
  -- every other option has a text
  all_goals
    simp_all [except_map_eq_ok_iff, textValue_eq_ok_iff, IsItem, followed, targetsOf, itemsOf,
      textOptions]
    cases a.text? <;> simp

theorem add_eq_ok_iff (d : RelationDraft) (a : Annotation) (atEnd : Bool) (d' : RelationDraft) :
    d.add a atEnd = .ok d' ↔
      IsItem a ∧ (d.kind.toList ++ kindsOf [a]).length ≤ 1 ∧ d' = d.followed [a] := by
  rw [add]
  cases hkind : relationKind? a.name with
  | some kind =>
    simp only [addKind_eq_ok_iff hkind]
    cases d.kind <;> simp [kindsOf, hkind]
  | none =>
    simp only [addOption_eq_ok_iff hkind]
    cases d.kind <;> simp [kindsOf, hkind]

theorem toList_kind_followed {d : RelationDraft} {a : Annotation}
    (h : (d.kind.toList ++ kindsOf [a]).length ≤ 1) :
    (d.followed [a]).kind.toList = d.kind.toList ++ kindsOf [a] := by
  have hkinds : kindsOf [a] = (relationKind? a.name).toList := by
    cases hkind : relationKind? a.name <;> simp [kindsOf, hkind]
  rw [followed]
  rw [hkinds] at h ⊢
  cases hd : d.kind with
  | none => cases relationKind? a.name <;> rfl
  | some kind => cases hkind : relationKind? a.name <;> simp [hd, hkind] at h ⊢

/-- **Items are read just if they are well formed** and name no second kind. -/
theorem readItems_eq_ok_iff {items : List Annotation} {d d' : RelationDraft} :
    readItems add items d = .ok d' ↔
      (∀ a ∈ items, IsItem a) ∧ (d.kind.toList ++ kindsOf items).length ≤ 1
        ∧ d' = d.followed items := by
  induction items generalizing d with
  | nil =>
    rw [followed_nil]
    cases d.kind <;> simp [readItems, kindsOf, eq_comm]
  | cons a rest ih =>
    rw [readItems, except_bind_eq_ok_iff, List.forall_mem_cons, followed_cons, kindsOf_cons,
      ← List.append_assoc]
    constructor
    · rintro ⟨mid, hmid, hrest⟩
      obtain ⟨ha, hkind, rfl⟩ := (add_eq_ok_iff ..).1 hmid
      obtain ⟨hitems, hone, rfl⟩ := ih.1 hrest
      rw [toList_kind_followed hkind] at hone
      exact ⟨⟨ha, hitems⟩, hone, rfl⟩
    · rintro ⟨⟨ha, hitems⟩, hone, rfl⟩
      have hkind : (d.kind.toList ++ kindsOf [a]).length ≤ 1 :=
        Nat.le_trans (by simp) hone
      refine ⟨d.followed [a], (add_eq_ok_iff ..).2 ⟨ha, hkind, rfl⟩, ih.2 ⟨hitems, ?_, rfl⟩⟩
      rwa [toList_kind_followed hkind]

/-- An annotation that a draft can be read from. -/
def IsReadable (a : Annotation) : Prop := ListOf IsItem a ∧ (kindsOf a.listed).length ≤ 1

theorem read_eq_ok_iff {a : Annotation} {d : RelationDraft} :
    read a = .ok d ↔ IsReadable a ∧ d = ofItems a.listed := by
  have hfollowed : ∀ items, ({} : RelationDraft).followed items = ofItems items := by
    simp [followed, ofItems]
  rw [IsReadable, ListOf]
  cases hargument : a.argument with
  | none => simp [read, list?, hargument]
  | text | literal => simp [read, list?, hargument, Annotation.items, bind, Except.bind]
  | list items =>
    simp only [read, hargument, Annotation.items, bind, Except.bind, readItems_eq_ok_iff, list?,
      listed, hfollowed]
    simp [and_assoc]

/-! ### Fitting together -/

/-- The kind that is named. -/
def theKind (d : RelationDraft) : RelationKind := d.kind.getD .hasOne

/-- The relation of a field that holds a type. -/
def shapeOf (d : RelationDraft) (field type : String) : RelationShape :=
  match d.theKind with
  | .hasOne => .hasOne type
  | .hasMany => .hasMany type
  | .belongsTo => .belongsTo type
  | .belongsToMany => .belongsToMany type
  | .morphOne => .morphOne type (d.morph.getD "")
  | .morphMany => .morphMany type (d.morph.getD "")
  | .morphTo => .morphTo (d.morph.getD field)

/-- Two names, if both are given. -/
def pair (first second : Option String) : Option (String × String) :=
  match first, second with
  | some a, some b => some (a, b)
  | _, _ => none

def optionsOf (d : RelationDraft) : RelationOptions :=
  { d.options with
    pivotKeys := pair d.foreignPivotKey d.relatedPivotKey
    morphColumns := pair d.morphType d.morphId }

/-- There is a kind, and the options suit it. -/
structure Fits (d : RelationDraft) : Prop where
  kind : d.kind.isSome
  /-- The rows that name their owner are found by the name of the columns for it. -/
  named : d.theKind = .morphOne ∨ d.theKind = .morphMany → d.morph.isSome
  /-- No other relation has such columns. -/
  plain : isMorph d.theKind = false → d.morph = none ∧ d.morphType = none
  /-- Owner types are listed by the rows that name their owner. -/
  targets : d.theKind ≠ .morphTo → d.options.targets = []
  pivotKeys : d.foreignPivotKey.isSome = d.relatedPivotKey.isSome
  morphColumns : d.morphType.isSome = d.morphId.isSome

theorem both_eq_ok_iff {first second : Option String} {why : AnnotationError}
    {p : Option (String × String)} :
    both first second why = .ok p ↔ first.isSome = second.isSome ∧ p = pair first second := by
  cases first <;> cases second <;> simp [both, pair, eq_comm]

theorem shape_eq_ok_iff {d : RelationDraft} {field type : String} {shape : RelationShape} :
    d.shape field type = .ok shape ↔
      d.kind.isSome ∧ (d.theKind = .morphOne ∨ d.theKind = .morphMany → d.morph.isSome)
        ∧ shape = d.shapeOf field type := by
  rw [RelationDraft.shape, shapeOf, theKind]
  cases d.kind with
  | none => simp
  | some kind =>
    cases kind with
    | morphOne | morphMany => cases d.morph <;> simp [@eq_comm _ shape]
    | _ => simp [@eq_comm _ shape]

theorem kind_shapeOf (d : RelationDraft) (field type : String) :
    (d.shapeOf field type).kind = d.theKind := by
  rw [shapeOf]
  cases d.theKind <;> rfl

/-- **The relation fits together just if its options suit its kind.** -/
theorem finish_eq_ok_iff {d : RelationDraft} {field type : String}
    {r : RelationShape × RelationOptions} :
    d.finish field type = .ok r ↔ d.Fits ∧ r = (d.shapeOf field type, d.optionsOf) := by
  rw [finish, except_bind_eq_ok_iff]
  simp only [shape_eq_ok_iff, except_guard_eq_ok_iff, except_bind_eq_ok_iff, both_eq_ok_iff]
  constructor
  · rintro ⟨_, ⟨hkind, hnamed, rfl⟩, hplain, htargets, _, ⟨hpivot, rfl⟩, _, ⟨hmorph, rfl⟩, h⟩
    rw [kind_shapeOf] at hplain htargets
    refine ⟨⟨hkind, hnamed, fun hkind => ?_, fun hkind => ?_, hpivot, hmorph⟩, ?_⟩
    · simpa [hkind] using hplain
    · simpa [hkind] using htargets
    · exact (Except.ok.inj h).symm
  · rintro ⟨hfits, rfl⟩
    refine ⟨_, ⟨hfits.kind, hfits.named, rfl⟩, ?_, ?_, _, ⟨hfits.pivotKeys, rfl⟩, _,
      ⟨hfits.morphColumns, rfl⟩, rfl⟩
    · rw [kind_shapeOf]
      cases hmorph : isMorph d.theKind with
      | true => simp
      | false => simp [hfits.plain hmorph]
    · rw [kind_shapeOf]
      by_cases hto : d.theKind = .morphTo
      · simp [hto]
      · simp [hfits.targets hto]

/-! ### The calls for a relation -/

/-- The call that declares a relation of a kind. -/
def method : RelationKind → String
  | .hasOne => "has_one"
  | .hasMany => "has_many"
  | .belongsTo => "belongs_to"
  | .belongsToMany => "many_to_many"
  | .morphOne => "morph_one"
  | .morphMany => "morph_many"
  | .morphTo => "morph_to"

/-- What the call is told besides the field: the name of the owner's columns, by default that of the
field. -/
def morphArgument (d : RelationDraft) (field : String) : List String :=
  match d.theKind with
  | .morphOne | .morphMany => d.morph.toList
  | .morphTo => [d.morph.getD field]
  | .hasOne | .hasMany | .belongsTo | .belongsToMany => []

/-- The declaring call and a call for each option that is given. -/
def statement (d : RelationDraft) (field : String) : List Call :=
  ⟨method d.theKind, field :: d.morphArgument field⟩ ::
    (optionCall "named" d.options.name ++ optionCall "foreign_key" d.options.foreignKey
      ++ optionCall "owner_key" d.options.ownerKey ++ optionCall "table" d.options.table
      ++ optionCall "pivot" d.options.pivot
      ++ pairCall "pivot_keys" (pair d.foreignPivotKey d.relatedPivotKey)
      ++ optionCall "related_key" d.options.relatedKey
      ++ pairCall "morph_columns" (pair d.morphType d.morphId)
      ++ d.options.targets.map fun target =>
        ⟨if target.2.isSome then "target_as" else "target", target.1 :: target.2.toList⟩)

theorem calls_relation {d : RelationDraft} (hd : d.Fits) (field type : String) :
    (.relation field (d.shapeOf field type) d.optionsOf : MemberDecl String).calls
      = d.statement field := by
  have hcall : (d.shapeOf field type).call field
      = ⟨method d.theKind, field :: d.morphArgument field⟩ := by
    rw [shapeOf, morphArgument]
    cases hkind : d.theKind with
    | morphOne | morphMany =>
      obtain ⟨morph, hmorph⟩ := Option.isSome_iff_exists.1 (hd.named (by simp [hkind]))
      simp [RelationShape.call, method, hmorph]
    | _ => rfl
  rw [MemberDecl.calls, RelationOptions.calls, hcall, statement]
  refine congrArg (List.cons _) (congrArg (List.append _) (List.map_congr_left fun target _ => ?_))
  obtain ⟨type, _ | discriminator⟩ := target <;> rfl

end RelationDraft

end EntityGraph
