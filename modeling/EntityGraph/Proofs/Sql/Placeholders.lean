import EntityGraph.Proofs.Sql.Safety
import EntityGraph.Sql.Statement
import Mathlib

/-!
# Placeholders and values line up

The text of a statement and its values are gathered apart from each other, through the same trees.
To fill in a text is to put literals for its placeholders, one by one from the left (`fillIn`). A
text without placeholders takes no values, and filled texts stay filled when they are put together
(`Fills.append`); so every filter, filled in with its own values, is the filter with its values
written inline (`Filter.fills`), and with it the texts of a select and of a count
(`texts_fill_inline`).
-/

namespace EntityGraph.Sql

/-! ### Filling in -/

/-- A text with literals for its placeholders, one by one from the left. A placeholder within a
literal is not read again, and one that no literal is left for stays. -/
def fill : List Char → List (List Char) → List Char
  | c :: cs, literal :: literals =>
    if c = '?' then literal ++ fill cs literals else c :: fill cs (literal :: literals)
  | cs, _ => cs

@[simp] theorem fill_nil_left (literals : List (List Char)) : fill [] literals = [] := rfl

@[simp] theorem fill_nil_right (cs : List Char) : fill cs [] = cs := by cases cs <;> rfl

@[simp] theorem fill_mark (cs literal : List Char) (literals : List (List Char)) :
    fill ('?' :: cs) (literal :: literals) = literal ++ fill cs literals := rfl

theorem fill_cons_of_ne {c : Char} (hc : c ≠ '?') (cs : List Char)
    (literals : List (List Char)) : fill (c :: cs) literals = c :: fill cs literals := by
  cases literals with
  | nil => simp
  | cons literal literals => rw [fill, if_neg hc]

/-- A text that takes just the first literals leaves the others to the text after it. -/
theorem fill_append {cs : List Char} {literals : List (List Char)}
    (h : cs.count '?' = literals.length) (ds : List Char) (more : List (List Char)) :
    fill (cs ++ ds) (literals ++ more) = fill cs literals ++ fill ds more := by
  induction cs generalizing literals with
  | nil =>
    obtain rfl : literals = [] := List.eq_nil_of_length_eq_zero h.symm
    rfl
  | cons c cs ih =>
    by_cases hc : c = '?'
    · subst hc
      rw [List.count_cons_self] at h
      cases literals with
      | nil => cases h
      | cons literal literals =>
        rw [List.cons_append, List.cons_append, fill_mark, fill_mark, ih (by simpa using h),
          List.append_assoc]
    · rw [List.count_cons_of_ne hc] at h
      rw [List.cons_append, fill_cons_of_ne hc, fill_cons_of_ne hc, ih h, List.cons_append]

/-- A text with the literals of values for its placeholders, one by one from the left. -/
def fillIn (text : String) (values : List Value) : String :=
  String.ofList (fill text.toList (values.map (·.literal.toList)))

/-- No placeholder stands in a name or text. -/
def Unmarked (text : String) : Prop := '?' ∉ text.toList

instance (text : String) : Decidable (Unmarked text) :=
  inferInstanceAs (Decidable ('?' ∉ text.toList))

/-- A text that has a placeholder for every value, and that reads `filled` with the values put
in. -/
structure Fills (text : String) (values : List Value) (filled : String) : Prop where
  count_eq : text.toList.count '?' = values.length
  fillIn_eq : fillIn text values = filled

namespace Fills

variable {s t filled rest : String} {vs ws : List Value}

theorem of_unmarked (h : Unmarked s) : Fills s [] s :=
  ⟨List.count_eq_zero.2 h, by simp [fillIn]⟩

theorem mark (v : Value) : Fills "?" [v] v.literal := ⟨rfl, by simp [fillIn]⟩

/-- **Texts that are filled in one by one are filled in together.** -/
theorem append (hs : Fills s vs filled) (ht : Fills t ws rest) :
    Fills (s ++ t) (vs ++ ws) (filled ++ rest) := by
  constructor
  · rw [String.toList_append, List.count_append, hs.count_eq, ht.count_eq, List.length_append]
  · rw [← hs.fillIn_eq, ← ht.fillIn_eq, fillIn, String.toList_append, List.map_append,
      fill_append (by simpa using hs.count_eq), String.ofList_append]
    rfl

theorem append_unmarked (hs : Fills s vs filled) (ht : Unmarked t) :
    Fills (s ++ t) vs (filled ++ t) := by
  simpa using hs.append (of_unmarked ht)

/-- A text between two others that take no values. -/
theorem between {opening closing : String} (ho : Unmarked opening) (hs : Fills s vs filled)
    (hc : Unmarked closing) :
    Fills (opening ++ s ++ closing) vs (opening ++ filled ++ closing) :=
  ((of_unmarked ho).append hs).append_unmarked hc

/-- Two bracketed texts with a connective between them. -/
theorem connected {middle : String} (hs : Fills s vs filled) (hm : Unmarked middle)
    (ht : Fills t ws rest) :
    Fills ("(" ++ s ++ middle ++ t ++ ")") (vs ++ ws)
      ("(" ++ filled ++ middle ++ rest ++ ")") :=
  ((hs.between (by decide) hm).append ht).append_unmarked (by decide)

/-- Texts with a separator between them that takes no values. -/
theorem intercalate {sep : String} (hsep : Unmarked sep) {α : Type} {text inlined : α → String}
    {values : α → List Value} {l : List α}
    (h : ∀ a ∈ l, Fills (text a) (values a) (inlined a)) :
    Fills (sep.intercalate (l.map text)) (l.flatMap values)
      (sep.intercalate (l.map inlined)) := by
  induction l with
  | nil => exact of_unmarked (by decide : Unmarked "")
  | cons a l ih =>
    have ha := h a (by simp)
    cases l with
    | nil => simpa using ha
    | cons b l =>
      have hall := (ha.append (of_unmarked hsep)).append
        (ih fun b hb => h b (List.mem_cons_of_mem _ hb))
      simpa [String.intercalate_cons_cons] using hall

end Fills

/-! ### Names -/

theorem unmarked_append {s t : String} (hs : Unmarked s) (ht : Unmarked t) : Unmarked (s ++ t) := by
  rw [Unmarked, String.toList_append, List.mem_append, not_or]
  exact ⟨hs, ht⟩

theorem unmarked_intercalate {sep : String} (hsep : Unmarked sep) {texts : List String}
    (h : ∀ text ∈ texts, Unmarked text) : Unmarked (sep.intercalate texts) := by
  have hfills := Fills.intercalate hsep fun text htext => Fills.of_unmarked (h text htext)
  have hcount := hfills.count_eq
  rw [List.map_id', List.length_flatMap] at hcount
  exact List.count_eq_zero.1 (by simpa using hcount)

theorem Spells.unmarked {text : String} (h : Spells text 0) : Unmarked text :=
  List.count_eq_zero.1 h.count_eq

/-! ### Filters -/

namespace Filter

/-- The names that stand in the text: a condition on an empty list is written without its name. -/
def shownNames : Filter → List String
  | compare field _ _ => [field]
  | isNull field => [field]
  | isNotNull field => [field]
  | inList field values => if values.isEmpty then [] else [field]
  | notInList field values => if values.isEmpty then [] else [field]
  | like field _ => [field]
  | between field _ _ => [field]
  | and left right => left.shownNames ++ right.shownNames
  | or left right => left.shownNames ++ right.shownNames
  | not inner => inner.shownNames
  | nothing => []

/-- The condition with every value written by `write`. -/
def written (write : Value → String) : Filter → String
  | compare field op value => field ++ " " ++ op.symbol ++ " " ++ write value
  | isNull field => field ++ " IS NULL"
  | isNotNull field => field ++ " IS NOT NULL"
  | inList field values =>
    if values.isEmpty then "1 = 0"
    else field ++ " IN (" ++ ", ".intercalate (values.map write) ++ ")"
  | notInList field values =>
    if values.isEmpty then "1 = 1"
    else field ++ " NOT IN (" ++ ", ".intercalate (values.map write) ++ ")"
  | like field pattern => field ++ " LIKE " ++ write (.text pattern)
  | between field low high => field ++ " BETWEEN " ++ write low ++ " AND " ++ write high
  | and left right => "(" ++ left.written write ++ ") AND (" ++ right.written write ++ ")"
  | or left right => "(" ++ left.written write ++ ") OR (" ++ right.written write ++ ")"
  | not inner => "NOT (" ++ inner.written write ++ ")"
  | nothing => "1 = 0"

/-- The text of a filter is the filter with every value written as a placeholder. -/
theorem text_eq_written (f : Filter) : f.text = f.written fun _ => "?" := by
  induction f with
  | compare field op v => simp [text, written, String.append_assoc]
  | inList field values => cases values <;> simp [text, written, placeholders]
  | notInList field values => cases values <;> simp [text, written, placeholders]
  | like field pattern => simp [text, written, String.append_assoc]
  | between field low high => simp [text, written, String.append_assoc]
  | and left right ihl ihr => rw [text, written, ihl, ihr]
  | or left right ihl ihr => rw [text, written, ihl, ihr]
  | not inner ih => rw [text, written, ih]
  | _ => rfl

theorem mem_fields_of_shownNames {f : Filter} {name : String} (h : name ∈ f.shownNames) :
    name ∈ f.fields := by
  induction f with
  | inList field values =>
    cases values with
    | nil => cases h
    | cons v vs => exact h
  | notInList field values =>
    cases values with
    | nil => cases h
    | cons v vs => exact h
  | and left right ihl ihr => exact List.mem_append.2 ((List.mem_append.1 h).imp ihl ihr)
  | or left right ihl ihr => exact List.mem_append.2 ((List.mem_append.1 h).imp ihl ihr)
  | not inner ih => exact ih h
  | _ => exact h

theorem unmarked_symbol (op : Comparison) : Unmarked op.symbol := by cases op <;> decide

/-- A list of placeholders is filled in with the list of the values. -/
theorem fills_list (values : List Value) :
    Fills (", ".intercalate (values.map fun _ => "?")) values
      (", ".intercalate (values.map Value.literal)) := by
  have hlist := Fills.intercalate (by decide : Unmarked ", ") fun v (_ : v ∈ values) =>
    Fills.mark v
  simpa using hlist

/-- **A filter that is filled in with its own values is the filter with its values inline.** -/
theorem fills {f : Filter} (h : ∀ name ∈ f.shownNames, Unmarked name) :
    Fills f.text f.params (f.written Value.literal) := by
  -- both texts are written alike now, so they are put together from the same pieces
  rw [text_eq_written]
  induction f with
  | compare field op v =>
    have hname : Unmarked (field ++ " ") := unmarked_append (h field (by simp [shownNames]))
      (by decide)
    have hfront := unmarked_append (unmarked_append hname (unmarked_symbol op))
      (by decide : Unmarked " ")
    exact (Fills.of_unmarked hfront).append (.mark v)
  | isNull field =>
    exact .of_unmarked (unmarked_append (h field (by simp [shownNames])) (by decide))
  | isNotNull field =>
    exact .of_unmarked (unmarked_append (h field (by simp [shownNames])) (by decide))
  | inList field values =>
    cases values with
    | nil => exact .of_unmarked (by decide : Unmarked "1 = 0")
    | cons v vs =>
      exact (fills_list (v :: vs)).between
        (unmarked_append (h field (by simp [shownNames])) (by decide)) (by decide)
  | notInList field values =>
    cases values with
    | nil => exact .of_unmarked (by decide : Unmarked "1 = 1")
    | cons v vs =>
      exact (fills_list (v :: vs)).between
        (unmarked_append (h field (by simp [shownNames])) (by decide)) (by decide)
  | like field pattern =>
    have hfront : Unmarked (field ++ " LIKE ") :=
      unmarked_append (h field (by simp [shownNames])) (by decide)
    exact (Fills.of_unmarked hfront).append (.mark (.text pattern))
  | between field low high =>
    have hfront : Unmarked (field ++ " BETWEEN ") :=
      unmarked_append (h field (by simp [shownNames])) (by decide)
    have hlow := (Fills.mark low).between hfront (by decide : Unmarked " AND ")
    exact hlow.append (.mark high)
  | and left right ihl ihr =>
    have hl := ihl fun name hn => h name (List.mem_append_left _ hn)
    have hr := ihr fun name hn => h name (List.mem_append_right _ hn)
    exact hl.connected (by decide : Unmarked ") AND (") hr
  | or left right ihl ihr =>
    have hl := ihl fun name hn => h name (List.mem_append_left _ hn)
    have hr := ihr fun name hn => h name (List.mem_append_right _ hn)
    exact hl.connected (by decide : Unmarked ") OR (") hr
  | not inner ih =>
    exact (ih h).between (by decide : Unmarked "NOT (") (by decide : Unmarked ")")
  | nothing => exact .of_unmarked (by decide : Unmarked "1 = 0")

end Filter

/-! ### Statements -/

namespace Scope

/-- The names that stand in the text of a select. -/
def shownNames (s : Scope) (table : String) (columns : List String) : List String :=
  columns ++ table :: s.conditionFilters.flatMap Filter.shownNames ++ s.order.map OrderBy.column

/-- The conditions with every value inline: every filter, and the negation of every exclude. -/
def inlineWhere (s : Scope) : String :=
  if s.conditionFilters.isEmpty then ""
  else " WHERE " ++ " AND ".intercalate (s.conditionFilters.map (·.written Value.literal))

/-- What a select says ahead of its conditions. -/
def selectHead (s : Scope) (table : String) (columns : List String) : String :=
  "SELECT " ++ (if s.distinct then "DISTINCT " else "")
    ++ (if columns.isEmpty then "*" else ", ".intercalate columns) ++ " FROM " ++ table

/-- What a select says after its conditions. -/
def selectTail (s : Scope) : String := s.orderText ++ s.pageText

/-- What a count says ahead of its conditions. -/
def countHead (table : String) : String := "SELECT COUNT(*) FROM " ++ table

theorem selectText_eq (s : Scope) (table : String) (columns : List String) :
    s.selectText table columns = s.selectHead table columns ++ s.whereText ++ s.selectTail := by
  simp [selectText, selectHead, selectTail, String.append_assoc]

variable {s : Scope} {table : String} {columns : List String}

/-- The conditions of a scope, filled in with its values. -/
theorem fills_where (h : ∀ f ∈ s.conditionFilters, ∀ name ∈ f.shownNames, Unmarked name) :
    Fills s.whereText s.params s.inlineWhere := by
  have hcondition : ∀ f ∈ s.conditionFilters, Fills f.text f.params (f.written Value.literal) :=
    fun f hf => Filter.fills (h f hf)
  have hlist := Fills.intercalate (by decide : Unmarked " AND ") hcondition
  rw [whereText, inlineWhere, conditions_eq, params_eq, List.isEmpty_map]
  cases hfs : s.conditionFilters with
  | nil => exact .of_unmarked (by decide : Unmarked "")
  | cons f fs =>
    rw [hfs] at hlist
    exact (Fills.of_unmarked (by decide : Unmarked " WHERE ")).append hlist

theorem unmarked_selectHead (htable : Unmarked table)
    (hcolumns : ∀ column ∈ columns, Unmarked column) : Unmarked (s.selectHead table columns) := by
  have hfront : Unmarked ("SELECT " ++ (if s.distinct then "DISTINCT " else "")) := by
    cases s.distinct <;> decide
  have hselected : Unmarked (if columns.isEmpty then "*" else ", ".intercalate columns) := by
    split
    · decide
    · exact unmarked_intercalate (by decide) hcolumns
  exact unmarked_append (unmarked_append (unmarked_append hfront hselected) (by decide)) htable

theorem unmarked_order (h : ∀ o ∈ s.order, Unmarked o.column) : Unmarked s.orderText := by
  have hpart : ∀ text ∈ s.order.map OrderBy.text, Unmarked text := by
    intro text htext
    obtain ⟨o, ho, rfl⟩ := List.mem_map.1 htext
    refine unmarked_append (h o ho) ?_
    cases o.descending <;> decide
  rw [orderText]
  split
  · decide
  · exact unmarked_append (by decide) (unmarked_intercalate (by decide) hpart)

/-- The whitelist lets no placeholder into the names of a statement. -/
theorem unmarked_shownNames (hs : s.check = .ok ()) (htable : Accepted table)
    (hcolumns : ∀ column ∈ columns, Accepted column) :
    ∀ name ∈ s.shownNames table columns, Unmarked name := by
  have hnames := names_of_check hs
  intro name hname
  refine (spells_name ?_).unmarked
  simp only [shownNames, List.mem_append, List.mem_cons, List.mem_flatMap] at hname
  obtain (hname | rfl | ⟨f, hf, hname⟩) | hname := hname
  · exact hcolumns name hname
  · exact htable
  · exact hnames name (mem_names_of_conditionFilters hf (Filter.mem_fields_of_shownNames hname))
  · exact hnames name (List.mem_append_right _ hname)

/-- **Placeholders and values line up.** A select and a count over names without placeholders, which
the whitelist lets through alone, have as many placeholders as values, and are the text with the
values written inline once the values are put in from the left. The conditions of both are the same
text, with the same values. -/
theorem texts_fill_inline (s : Scope) (table : String) (columns : List String) :
    (s.check = .ok () → checkIdentifiers (table :: columns) = .ok () →
      ∀ name ∈ s.shownNames table columns, Unmarked name) ∧
    ((∀ name ∈ s.shownNames table columns, Unmarked name) →
      Fills (Statement.select table columns s).text (Statement.select table columns s).args
          (s.selectHead table columns ++ s.inlineWhere ++ s.selectTail) ∧
        Fills (Statement.count table s).text (Statement.count table s).args
          (countHead table ++ s.inlineWhere)) ∧
    (∃ clause, (Statement.count table s).text = countHead table ++ clause ∧
      (Statement.select table columns s).text
        = s.selectHead table columns ++ clause ++ s.selectTail) ∧
    (Statement.select table columns s).args = (Statement.count table s).args := by
  refine ⟨fun hs hnames => ?_, fun h => ?_, ⟨s.whereText, rfl, s.selectText_eq table columns⟩, rfl⟩
  · have hnames := checkIdentifiers_eq_ok.1 hnames
    exact unmarked_shownNames hs (hnames table (by simp))
      fun column hcolumn => hnames column (List.mem_cons_of_mem _ hcolumn)
  · simp only [shownNames, List.forall_mem_append, List.forall_mem_cons, List.forall_mem_flatMap,
      List.forall_mem_map] at h
    obtain ⟨⟨hcolumns, htable, hconditions⟩, horder⟩ := h
    have hwhere := fills_where hconditions
    constructor
    · have hhead : Unmarked (s.selectHead table columns) := unmarked_selectHead htable hcolumns
      have htail : Unmarked s.selectTail :=
        unmarked_append (unmarked_order horder) s.spells_page.unmarked
      rw [Statement.text, selectText_eq]
      exact hwhere.between hhead htail
    · exact (Fills.of_unmarked (unmarked_append (by decide) htable)).append hwhere

/-- Open questions of a few readers, whose filters hold placeholders as values. -/
def questionScope : Scope :=
  { filters :=
      [.or (.like "title" "%?%") (.not (.between "stars" (.int 2) (.int 4))),
        .inList "author" [.text "who?", .null], .notInList "tag" []]
    excludes := [.compare "state" .eq (.text "it's done")]
    order := [⟨"title", false⟩]
    limit := some 3 }

/-- The values go to their own places, and the placeholders that they hold are left alone. -/
theorem texts_fill_inline_question :
    (∀ name ∈ questionScope.shownNames "posts" ["id"], Unmarked name) ∧
    Fills (Statement.count "posts" questionScope).text (Statement.count "posts" questionScope).args
      ("SELECT COUNT(*) FROM posts WHERE (title LIKE '%?%') OR (NOT (stars BETWEEN 2 AND 4)) " ++
        "AND author IN ('who?', NULL) AND 1 = 1 AND NOT (state = 'it''s done')") := by
  have hnames : ∀ name ∈ questionScope.shownNames "posts" ["id"], Unmarked name := by decide
  have hinline : countHead "posts" ++ questionScope.inlineWhere
      = "SELECT COUNT(*) FROM posts WHERE (title LIKE '%?%') OR (NOT (stars BETWEEN 2 AND 4)) " ++
        "AND author IN ('who?', NULL) AND 1 = 1 AND NOT (state = 'it''s done')" := by
    decide +kernel
  exact ⟨hnames, hinline ▸ ((texts_fill_inline questionScope "posts" ["id"]).2.1 hnames).2⟩

end Scope

end EntityGraph.Sql
