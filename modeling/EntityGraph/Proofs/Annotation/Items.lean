import EntityGraph.Annotation.Options

/-!
# What annotations say

Annotations are read item by item into a record. Reading succeeds just if every item is well formed,
and then the record holds what the items say all together: for each name, the text of the last item
of that name (`lastText`), whichever annotation the item stands in (`itemsOf`).
-/

namespace EntityGraph

theorem except_map_eq_ok_iff {ε α β : Type} {x : Except ε α} {f : α → β} {b : β} :
    x.map f = .ok b ↔ ∃ a, x = .ok a ∧ b = f a := by
  cases x with
  | error e => simp [Except.map]
  | ok a => simp [Except.map, eq_comm]

theorem except_bind_eq_ok_iff {ε α β : Type} {x : Except ε α} {f : α → Except ε β} {b : β} :
    (x >>= f) = .ok b ↔ ∃ a, x = .ok a ∧ f a = .ok b := by
  cases x with
  | error e => simp [bind, Except.bind]
  | ok a => simp [bind, Except.bind]

theorem except_guard_eq_ok_iff {ε α : Type} {c : Prop} [Decidable c] {why : ε}
    {f : PUnit → Except ε α} {x : Except ε α} {a : α} :
    (if c then throw why >>= f else x) = .ok a ↔ ¬ c ∧ x = .ok a := by
  split <;> simp_all [throw, throwThe, MonadExceptOf.throw, bind, Except.bind]

namespace Annotation

/-! ### Arguments -/

def isAlone (a : Annotation) : Bool :=
  match a.argument with
  | .none => true
  | .text _ | .literal | .list _ => false

def text? (a : Annotation) : Option String :=
  match a.argument with
  | .text s => some s
  | .none | .literal | .list _ => none

def list? (a : Annotation) : Option (List Annotation) :=
  match a.argument with
  | .list items => some items
  | .none | .text _ | .literal => none

/-- The items in parentheses, none where there are no parentheses. -/
def listed (a : Annotation) : List Annotation := a.list?.getD []

variable {a : Annotation}

theorem alone_eq_ok_iff {u : Unit} : a.alone = .ok u ↔ a.isAlone = true := by
  rw [alone, isAlone]
  cases a.argument <;> simp

theorem textValue_eq_ok_iff {s : String} : a.textValue = .ok s ↔ a.text? = some s := by
  rw [textValue, text?]
  cases a.argument <;> simp

theorem optionalText_eq_ok_iff {o : Option String} :
    a.optionalText = .ok o ↔ (a.isAlone = true ∨ a.text?.isSome) ∧ o = a.text? := by
  rw [optionalText, isAlone, text?]
  cases a.argument <;> simp [eq_comm]

theorem items_eq_ok_iff {items : List Annotation} :
    a.items = .ok items ↔ a.list? = some items := by
  unfold Annotation.items list?
  cases a.argument <;> simp

theorem nestedItems_eq_ok_iff {items : List Annotation} {atEnd : Bool} :
    a.nestedItems atEnd = .ok items ↔ a.list? = some items ∧ items ≠ [] := by
  rw [nestedItems, list?]
  cases a.argument with
  | list listed => cases listed <;> simp +contextual [eq_comm]
  | none | text | literal => simp

/-! ### Items by name -/

/-- The text of the last item of that name that has one. -/
def lastText (name : String) (items : List Annotation) : Option String :=
  items.reverse.findSome? fun a => if a.name = name then a.text? else none

@[simp] theorem lastText_nil (name : String) : lastText name [] = none := rfl

@[simp] theorem lastText_singleton (name : String) (a : Annotation) :
    lastText name [a] = if a.name = name then a.text? else none := by
  simp [lastText]

theorem lastText_cons (name : String) (a : Annotation) (items : List Annotation) :
    lastText name (a :: items) = (lastText name items).or (lastText name [a]) := by
  rw [lastText, List.reverse_cons, List.findSome?_append]
  rfl

/-- The items of all annotations of that name. -/
def itemsOf (name : String) (annotations : List Annotation) : List Annotation :=
  (annotations.filter (·.name = name)).flatMap listed

theorem itemsOf_cons_of_eq {name : String} {rest : List Annotation} (h : a.name = name) :
    itemsOf name (a :: rest) = a.listed ++ itemsOf name rest := by
  simp [itemsOf, h]

theorem itemsOf_cons_of_ne {name : String} {rest : List Annotation} (h : a.name ≠ name) :
    itemsOf name (a :: rest) = itemsOf name rest := by
  simp [itemsOf, h]

/-! ### Reading -/

section

variable {σ : Type} {Ok : Annotation → Prop} {next : σ → Annotation → σ}

/-- Items that are taken one by one are taken all together. -/
theorem readItems_eq_ok_iff {step : σ → Annotation → Bool → Except AnnotationError σ}
    (hstep : ∀ s a atEnd s', step s a atEnd = .ok s' ↔ Ok a ∧ s' = next s a)
    {items : List Annotation} {s s' : σ} :
    readItems step items s = .ok s' ↔ (∀ a ∈ items, Ok a) ∧ s' = items.foldl next s := by
  induction items generalizing s with
  | nil => simp [readItems, eq_comm]
  | cons a rest ih =>
    rw [readItems, except_bind_eq_ok_iff, List.forall_mem_cons, List.foldl_cons, and_assoc]
    constructor
    · rintro ⟨mid, hmid, hrest⟩
      obtain ⟨ha, rfl⟩ := (hstep s a _ mid).1 hmid
      exact ⟨ha, ih.1 hrest⟩
    · rintro ⟨ha, hrest⟩
      exact ⟨next s a, (hstep s a _ _).2 ⟨ha, rfl⟩, ih.2 hrest⟩

/-- The annotation is a list of items that are all well formed. -/
def ListOf (Ok : Annotation → Prop) (a : Annotation) : Prop :=
  a.list?.isSome ∧ ∀ item ∈ a.listed, Ok item

theorem readItems_items_eq_ok_iff {τ : Type}
    {step : σ → Annotation → Bool → Except AnnotationError σ}
    (hstep : ∀ s a atEnd s', step s a atEnd = .ok s' ↔ Ok a ∧ s' = next s a)
    {rest : σ → Except AnnotationError τ} {s : σ} {t : τ} :
    (a.items >>= fun items => readItems step items s >>= rest) = .ok t ↔
      ListOf Ok a ∧ rest (a.listed.foldl next s) = .ok t := by
  rw [except_bind_eq_ok_iff, ListOf, listed]
  simp only [except_bind_eq_ok_iff, items_eq_ok_iff, readItems_eq_ok_iff hstep]
  cases a.list? with
  | none => simp
  | some items =>
    constructor
    · rintro ⟨_, hlist, _, ⟨hitems, rfl⟩, h⟩
      cases hlist
      exact ⟨⟨rfl, hitems⟩, h⟩
    · rintro ⟨⟨-, hitems⟩, h⟩
      exact ⟨items, rfl, _, ⟨hitems, rfl⟩, h⟩

/-- A reader that looks at the annotations of one name takes the items of all of them together. -/
theorem readNamed_eq_ok_iff (read : List Annotation → σ → Except AnnotationError σ) (name : String)
    (Good : Annotation → Prop) (hnil : ∀ s, read [] s = .ok s)
    (hother : ∀ a rest s, a.name ≠ name → read (a :: rest) s = read rest s)
    (hread : ∀ a rest s s', a.name = name →
      (read (a :: rest) s = .ok s' ↔ Good a ∧ read rest (a.listed.foldl next s) = .ok s'))
    {annotations : List Annotation} {s s' : σ} :
    read annotations s = .ok s' ↔
      (∀ a ∈ annotations, a.name = name → Good a)
        ∧ s' = (itemsOf name annotations).foldl next s := by
  induction annotations generalizing s with
  | nil => simp [hnil, itemsOf, eq_comm]
  | cons a rest ih =>
    rw [List.forall_mem_cons]
    by_cases hname : a.name = name
    · rw [hread a rest s s' hname, ih, itemsOf_cons_of_eq hname, List.foldl_append]
      simp only [hname, true_imp_iff, and_assoc]
    · rw [hother a rest s hname, ih, itemsOf_cons_of_ne hname]
      simp only [hname, false_imp_iff, true_and]

end

end Annotation

open Annotation

/-! ### Types -/

namespace TypeOptions

/-- A name of the type with its text. -/
def IsItem (a : Annotation) : Prop :=
  a.name ∈ ["table", "primary_key", "morph_alias"] ∧ a.text?.isSome

def ofItems (items : List Annotation) : TypeOptions :=
  { table := lastText "table" items
    primaryKey := lastText "primary_key" items
    morphAlias := lastText "morph_alias" items }

/-- What has been said together with what items say after it. -/
def followed (o : TypeOptions) (items : List Annotation) : TypeOptions :=
  { table := (lastText "table" items).or o.table
    primaryKey := (lastText "primary_key" items).or o.primaryKey
    morphAlias := (lastText "morph_alias" items).or o.morphAlias }

theorem foldl_followed (items : List Annotation) (o : TypeOptions) :
    items.foldl (fun o a => o.followed [a]) o = o.followed items := by
  induction items generalizing o with
  | nil => rfl
  | cons a items ih =>
    rw [List.foldl_cons, ih]
    simp only [followed, lastText_cons _ a items, Option.or_assoc]

theorem add_eq_ok_iff (o : TypeOptions) (a : Annotation) (atEnd : Bool) (o' : TypeOptions) :
    o.add a atEnd = .ok o' ↔ IsItem a ∧ o' = o.followed [a] := by
  unfold TypeOptions.add
  split <;> simp_all [except_map_eq_ok_iff, textValue_eq_ok_iff, IsItem, followed]
  all_goals cases a.text? <;> simp

theorem read_eq_ok_iff {annotations : List Annotation} {o : TypeOptions} :
    TypeOptions.read annotations {} = .ok o ↔
      (∀ a ∈ annotations, a.name = "entity" → ListOf IsItem a)
        ∧ o = ofItems (itemsOf "entity" annotations) := by
  have hsaid : ofItems (itemsOf "entity" annotations)
      = (itemsOf "entity" annotations).foldl (fun o a => o.followed [a]) {} := by
    rw [foldl_followed]
    simp [followed, ofItems]
  rw [hsaid]
  refine readNamed_eq_ok_iff TypeOptions.read "entity" (ListOf IsItem) (fun _ => rfl) ?_ ?_
  · intro a rest o hname
    rw [TypeOptions.read, if_neg hname]
  · intro a rest o o' hname
    rw [TypeOptions.read, if_pos hname]
    exact readItems_items_eq_ok_iff add_eq_ok_iff

end TypeOptions

/-! ### Columns -/

namespace ColumnOptions

/-- A name with its text, or a mark that stands alone. -/
def IsItem (a : Annotation) : Prop :=
  (a.name ∈ ["primary_key", "auto", "skip"] ∧ a.isAlone = true) ∨ (a.name = "name" ∧ a.text?.isSome)

/-- Whether an item marks the column so. -/
def marked (mark : String) (items : List Annotation) : Bool := items.any (·.name = mark)

def ofItems (items : List Annotation) : ColumnOptions :=
  { name := lastText "name" items
    primaryKey := marked "primary_key" items
    auto := marked "auto" items
    skip := marked "skip" items }

def followed (o : ColumnOptions) (items : List Annotation) : ColumnOptions :=
  { name := (lastText "name" items).or o.name
    primaryKey := o.primaryKey || marked "primary_key" items
    auto := o.auto || marked "auto" items
    skip := o.skip || marked "skip" items }

theorem marked_cons (mark : String) (a : Annotation) (items : List Annotation) :
    marked mark (a :: items) = (marked mark [a] || marked mark items) := by
  simp [marked]

theorem foldl_followed (items : List Annotation) (o : ColumnOptions) :
    items.foldl (fun o a => o.followed [a]) o = o.followed items := by
  induction items generalizing o with
  | nil => simp [followed, marked]
  | cons a items ih =>
    rw [List.foldl_cons, ih]
    simp only [followed, lastText_cons _ a items, marked_cons _ a items, Option.or_assoc,
      Bool.or_assoc]

theorem add_eq_ok_iff (o : ColumnOptions) (a : Annotation) (atEnd : Bool) (o' : ColumnOptions) :
    o.add a atEnd = .ok o' ↔ IsItem a ∧ o' = o.followed [a] := by
  unfold ColumnOptions.add
  split <;> simp_all [except_map_eq_ok_iff, textValue_eq_ok_iff, alone_eq_ok_iff, IsItem,
    followed, marked]
  all_goals cases a.text? <;> simp

theorem read_eq_ok_iff {annotations : List Annotation} {o : ColumnOptions} :
    ColumnOptions.read annotations {} = .ok o ↔
      (∀ a ∈ annotations, a.name = "column" → a.isAlone = true ∨ ListOf IsItem a)
        ∧ o = ofItems (itemsOf "column" annotations) := by
  have hsaid : ofItems (itemsOf "column" annotations)
      = (itemsOf "column" annotations).foldl (fun o a => o.followed [a]) {} := by
    rw [foldl_followed]
    simp [followed, ofItems]
  rw [hsaid]
  refine readNamed_eq_ok_iff ColumnOptions.read "column"
    (fun a => a.isAlone = true ∨ ListOf IsItem a) (fun _ => rfl) ?_ ?_
  · intro a rest o hname
    have hbare : a ≠ ⟨"column", .none⟩ := fun h => hname (h ▸ rfl)
    rw [ColumnOptions.read, if_neg hname]
    exact hbare
  · rintro ⟨_, argument⟩ rest o o' rfl
    cases argument with
    | none => simp [ColumnOptions.read, isAlone, listed, list?]
    | text | literal =>
      simp [ColumnOptions.read, isAlone, ListOf, list?, Annotation.items, bind, Except.bind]
    | list items =>
      rw [ColumnOptions.read, if_pos rfl, readItems_items_eq_ok_iff add_eq_ok_iff]
      · simp [isAlone]
      · simp

end ColumnOptions

end EntityGraph
