import EntityGraph.Proofs.Sql.Reading
import EntityGraph.Proofs.Sql.Safety

/-!
# Reading selects

How a database takes the text of a select apart: `Selection.read` cuts the text into lexemes and
these into clauses, each of which reaches up to the next word that opens one. What stands inside of
a clause is left as it is, except for the numbers of a LIMIT clause. Nothing here knows how scopes
are written.

The texts of a scope over names in which no clause is opened are read as its clauses
(`Scope.read_selectText`, `Scope.read_countText`).
-/

namespace EntityGraph.Sql

/-! ### Lexemes -/

/-- A word, an operator, or a character that belongs to neither. -/
abbrev Lexeme : Type := List Char

/-- The lexemes of a text; blanks only keep them apart. -/
def lexemes (text : String) : List Lexeme :=
  (text.toList.splitBy joins).filter fun l => !l.all Text.isBlank

/-- Whether a lexeme is a word in any letter case. -/
def spells (word : String) (l : Lexeme) : Bool := l.map Char.toUpper = word.toList

/-- The reserved words that open a clause or end a select. -/
def clauseWords : List String :=
  ["SELECT", "DISTINCT", "FROM", "WHERE", "GROUP", "HAVING", "ORDER", "LIMIT", "UNION",
    "INTERSECT", "EXCEPT"]

def opensClause (l : Lexeme) : Bool := clauseWords.any (spells · l)

/-- A text without quotes, comments and terminators, so that its lexemes mean what they spell. -/
def isReadable (cs : List Char) : Bool :=
  cs.all (fun c => !isQuote c && c != ';') && !hasComment cs

/-! ### Clauses -/

/-- How many rows are wanted at most, a negative number standing for all, and how many are left
out before them. -/
abbrev Page : Type := Int × Option Int

/-- The clauses of a select. -/
structure Selection where
  distinct : Bool
  /-- What is asked for of each row. -/
  list : List Lexeme
  source : List Lexeme
  condition : Option (List Lexeme)
  order : Option (List Lexeme)
  page : Option Page
  deriving DecidableEq, Repr

/-- What a clause that opens with the word holds, and what follows it. -/
def takeClause (word : String) : List Lexeme → Option (List Lexeme × List Lexeme)
  | [] => none
  | l :: ls =>
    if spells word l then some (ls.takeWhile (!opensClause ·), ls.dropWhile (!opensClause ·))
    else none

/-- What a clause holds that may be left out, and what follows it. -/
def takeOptional (word : String) (ls : List Lexeme) : Option (List Lexeme) × List Lexeme :=
  match takeClause word ls with
  | some (content, rest) => (some content, rest)
  | none => (none, ls)

/-- An integer with an optional minus sign, and what follows it. -/
def readNumeral : List Lexeme → Option (Int × List Lexeme)
  | ['-'] :: ds :: ls => (Number.readDigits? ds).map fun n => (-Int.ofNat n, ls)
  | ds :: ls => (Number.readDigits? ds).map fun n => (Int.ofNat n, ls)
  | [] => none

/-- The numbers behind LIMIT; nothing may follow them. -/
def readPage (ls : List Lexeme) : Option Page :=
  match readNumeral ls with
  | some (n, []) => some (n, none)
  | some (n, l :: ls) =>
    match spells "OFFSET" l, readNumeral ls with
    | true, some (m, []) => some (n, some m)
    | _, _ => none
  | none => none

/-- The end of a select. -/
def readEnd : List Lexeme → Option (Option Page)
  | [] => some none
  | l :: ls => if spells "LIMIT" l then (readPage ls).map some else none

/-- The sort keys behind ORDER, which BY comes before. -/
def readOrder : Option (List Lexeme) → Option (Option (List Lexeme))
  | none => some none
  | some [] => none
  | some (l :: ls) => if spells "BY" l then some (some ls) else none

/-- Either SELECT has a list behind it, or DISTINCT has. -/
def readList (list : List Lexeme) : Option (List Lexeme) → Option (Bool × List Lexeme)
  | none => some (false, list)
  | some unique => if list.isEmpty then some (true, unique) else none

namespace Selection

/-- The clauses, in the only order in which they may stand. -/
def ofLexemes (ls : List Lexeme) : Option Selection := do
  let (list, ls) ← takeClause "SELECT" ls
  let (unique, ls) := takeOptional "DISTINCT" ls
  let (source, ls) ← takeClause "FROM" ls
  let (condition, ls) := takeOptional "WHERE" ls
  let (order, ls) := takeOptional "ORDER" ls
  let (distinct, list) ← readList list unique
  let order ← readOrder order
  let page ← readEnd ls
  pure { distinct, list, source, condition, order, page }

/-- Reads the text of a statement. -/
def read (text : String) : Option Selection :=
  if isReadable text.toList then ofLexemes (lexemes text) else none

example : read "select distinct a, COUNT(b) From t where x = ? ORDER BY a LIMIT -1 OFFSET 2" =
    some { distinct := true, list := lexemes "a, COUNT(b)", source := lexemes "t"
           condition := some (lexemes "x = ?"), order := some (lexemes "a"),
           page := some (-1, some 2) } := by
  decide +kernel

end Selection

/-! ### Spelling clauses -/

/-- A clause that may be left out. -/
def spellClause (word : String) : Option (List Lexeme) → List Lexeme
  | none => []
  | some content => word.toList :: content

def spellNumeral : Int → List Lexeme
  | .ofNat n => [Number.digits n]
  | .negSucc n => [['-'], Number.digits (n + 1)]

def spellPage : Page → List Lexeme
  | (n, none) => spellNumeral n
  | (n, some m) => spellNumeral n ++ "OFFSET".toList :: spellNumeral m

/-- The lexemes open no clause. -/
def Closed (ls : List Lexeme) : Prop := ∀ l ∈ ls, opensClause l = false

/-- The lexemes start with one of some words, if there are any. -/
def StartsWith (words : List String) (ls : List Lexeme) : Prop :=
  ∀ l ∈ ls.head?, ∃ word ∈ words, l = word.toList

theorem startsWith_clause {words : List String} {rest : List Lexeme} (h : StartsWith words rest)
    (word : String) (content : Option (List Lexeme)) :
    StartsWith (word :: words) (spellClause word content ++ rest) := by
  cases content with
  | none => exact fun l hl => (h l hl).imp fun _ hw => ⟨List.mem_cons_of_mem _ hw.1, hw.2⟩
  | some content =>
    intro l hl
    rw [spellClause, List.cons_append, List.head?_cons] at hl
    exact ⟨word, List.mem_cons_self, (Option.some.inj hl).symm⟩

/-- A clause reaches up to the word that opens the next one. -/
theorem takeClause_append {words : List String} {content rest : List Lexeme} (word : String)
    (hself : spells word word.toList = true) (hcontent : Closed content)
    (hrest : StartsWith words rest) (hwords : ∀ w ∈ words, opensClause w.toList = true) :
    takeClause word (word.toList :: content ++ rest) = some (content, rest) := by
  have hinside : ∀ l ∈ content, (!opensClause l) = true := fun l hl => by rw [hcontent l hl]; rfl
  have hstop : rest.takeWhile (!opensClause ·) = [] ∧ rest.dropWhile (!opensClause ·) = rest := by
    cases rest with
    | nil => exact ⟨rfl, rfl⟩
    | cons l rest =>
      obtain ⟨w, hw, rfl⟩ := hrest l rfl
      simp [hwords w hw]
  rw [List.cons_append, takeClause, if_pos hself, List.takeWhile_append_of_pos hinside,
    List.dropWhile_append_of_pos hinside, hstop.1, hstop.2, List.append_nil]

theorem takeOptional_clause {words : List String} {content : Option (List Lexeme)}
    {rest : List Lexeme} (word : String) (hself : spells word word.toList = true)
    (hcontent : ∀ c ∈ content, Closed c) (hrest : StartsWith words rest)
    (hwords : ∀ w ∈ words, opensClause w.toList = true ∧ spells word w.toList = false) :
    takeOptional word (spellClause word content ++ rest) = (content, rest) := by
  cases content with
  | some content =>
    rw [takeOptional, spellClause, takeClause_append word hself (hcontent content rfl) hrest
      fun w hw => (hwords w hw).1]
  | none =>
    cases rest with
    | nil => rfl
    | cons l rest =>
      obtain ⟨w, hw, rfl⟩ := hrest l rfl
      simp [takeOptional, takeClause, spellClause, (hwords w hw).2]

/-! ### Reading numbers -/

theorem digits_ne_sign (n : Nat) : Number.digits n ≠ ['-'] := by
  intro heq
  have hdigit := Number.isDigit_of_mem_digits (n := n) (c := '-') (by rw [heq]; simp)
  cases hdigit

theorem readNumeral_spell (n : Int) (rest : List Lexeme) :
    readNumeral (spellNumeral n ++ rest) = some (n, rest) := by
  cases n with
  | ofNat n =>
    rw [spellNumeral, List.singleton_append, readNumeral, Number.readDigits?_digits]
    · rfl
    · exact fun _ _ heq => absurd heq (digits_ne_sign n)
  | negSucc n =>
    rw [spellNumeral, List.cons_append, List.singleton_append, readNumeral,
      Number.readDigits?_digits]
    rfl

theorem readPage_spell (p : Page) : readPage (spellPage p) = some p := by
  obtain ⟨n, m⟩ := p
  cases m with
  | none =>
    have hread := readNumeral_spell n []
    rw [List.append_nil] at hread
    rw [readPage, spellPage, hread]
  | some m =>
    have hread := readNumeral_spell m []
    rw [List.append_nil] at hread
    have hoffset : spells "OFFSET" "OFFSET".toList = true := by decide
    rw [readPage, spellPage, readNumeral_spell]
    simp only [hread, hoffset]

namespace Selection

/-! The lexemes of a select, clause by clause from the last to the first. -/

def spellEnd (c : Selection) : List Lexeme := spellClause "LIMIT" (c.page.map spellPage)

def spellFromOrder (c : Selection) : List Lexeme :=
  spellClause "ORDER" (c.order.map ("BY".toList :: ·)) ++ c.spellEnd

def spellFromWhere (c : Selection) : List Lexeme :=
  spellClause "WHERE" c.condition ++ c.spellFromOrder

def spellFrom (c : Selection) : List Lexeme := "FROM".toList :: c.source ++ c.spellFromWhere

def spell (c : Selection) : List Lexeme :=
  "SELECT".toList :: (if c.distinct then "DISTINCT".toList :: c.list else c.list) ++ c.spellFrom

/-- No clause is opened inside of another one. -/
structure IsClosed (c : Selection) : Prop where
  list : Closed c.list
  source : Closed c.source
  condition : ∀ ls ∈ c.condition, Closed ls
  order : ∀ ls ∈ c.order, Closed ls

section
variable {c : Selection}

theorem startsWith_spellEnd : StartsWith ["LIMIT"] c.spellEnd := by
  have hnil : StartsWith [] [] := by simp [StartsWith]
  have hstarts := startsWith_clause hnil "LIMIT" (c.page.map spellPage)
  rwa [List.append_nil] at hstarts

theorem startsWith_spellFromOrder : StartsWith ["ORDER", "LIMIT"] c.spellFromOrder :=
  startsWith_clause startsWith_spellEnd _ _

theorem startsWith_spellFromWhere : StartsWith ["WHERE", "ORDER", "LIMIT"] c.spellFromWhere :=
  startsWith_clause startsWith_spellFromOrder _ _

theorem startsWith_spellFrom : StartsWith ["FROM"] c.spellFrom := by simp [StartsWith, spellFrom]

theorem readEnd_spellEnd (c : Selection) : readEnd c.spellEnd = some c.page := by
  rw [spellEnd]
  cases c.page with
  | none => rfl
  | some p =>
    have hlimit : spells "LIMIT" "LIMIT".toList = true := by decide
    rw [Option.map_some, spellClause, readEnd, if_pos hlimit, readPage_spell]
    rfl

theorem readOrder_by (order : Option (List Lexeme)) :
    readOrder (order.map ("BY".toList :: ·)) = some order := by
  cases order with
  | none => rfl
  | some keys => simp [readOrder, spells]

theorem takeOptional_order (h : c.IsClosed) :
    takeOptional "ORDER" c.spellFromOrder = (c.order.map ("BY".toList :: ·), c.spellEnd) := by
  refine takeOptional_clause "ORDER" (by decide) ?_ startsWith_spellEnd (by decide)
  intro ls hls
  obtain ⟨keys, hkeys, rfl⟩ := Option.map_eq_some_iff.1 hls
  exact List.forall_mem_cons.2 ⟨by decide, h.order keys hkeys⟩

theorem takeOptional_where (h : c.IsClosed) :
    takeOptional "WHERE" c.spellFromWhere = (c.condition, c.spellFromOrder) :=
  takeOptional_clause "WHERE" (by decide) h.condition startsWith_spellFromOrder (by decide)

theorem takeClause_from (h : c.IsClosed) :
    takeClause "FROM" c.spellFrom = some (c.source, c.spellFromWhere) :=
  takeClause_append "FROM" (by decide) h.source startsWith_spellFromWhere (by decide)

/-- What follows SELECT is a list, or nothing if DISTINCT has it. -/
theorem takeClause_select (h : c.IsClosed) : takeClause "SELECT" c.spell =
    some (if c.distinct then [] else c.list,
      spellClause "DISTINCT" (if c.distinct then some c.list else none) ++ c.spellFrom) := by
  rw [spell]
  cases c.distinct with
  | false =>
    exact takeClause_append "SELECT" (by decide) h.list startsWith_spellFrom (by decide)
  | true =>
    have hnil : Closed [] := by simp [Closed]
    exact takeClause_append "SELECT" (by decide) hnil
      (startsWith_clause startsWith_spellFrom "DISTINCT" (some c.list)) (by decide)

theorem takeOptional_distinct (h : c.IsClosed) :
    takeOptional "DISTINCT"
        (spellClause "DISTINCT" (if c.distinct then some c.list else none) ++ c.spellFrom) =
      (if c.distinct then some c.list else none, c.spellFrom) := by
  refine takeOptional_clause "DISTINCT" (by decide) ?_ startsWith_spellFrom (by decide)
  cases c.distinct <;> simp [h.list]

/-- **What is spelled clause by clause is read clause by clause.** -/
theorem ofLexemes_spell (h : c.IsClosed) : ofLexemes c.spell = some c := by
  have hlist : readList (if c.distinct then [] else c.list)
      (if c.distinct then some c.list else none) = some (c.distinct, c.list) := by
    cases c.distinct <;> rfl
  rw [ofLexemes, takeClause_select h]
  simp only [Option.bind_eq_bind, Option.bind_some, takeOptional_distinct h, takeClause_from h,
    takeOptional_where h, takeOptional_order h, hlist, readOrder_by, readEnd_spellEnd]
  rfl

end

end Selection

/-! ### Lexemes of a text -/

/-- No lexeme reaches over a gap. -/
theorem lexemes_append {s t : String} (h : endsApart s = true ∨ startsApart t = true) :
    lexemes (s ++ t) = lexemes s ++ lexemes t := by
  rw [lexemes, splitBy_joins_append h, List.filter_append, lexemes, lexemes]

theorem lexemes_digits (n : Nat) :
    lexemes (String.ofList (Number.digits n)) = [Number.digits n] := by
  have hne := Number.digits_ne_nil n
  have hall : ∀ c ∈ Number.digits n, isNamePart c = true := by
    intro c hc
    simp [isNamePart, isWordPart, Char.isAlphanum, Number.isDigit_of_mem_digits hc]
  obtain ⟨c, cs, hcs⟩ := List.exists_cons_of_ne_nil hne
  have hc : c.isDigit = true := Number.isDigit_of_mem_digits (n := n) (by simp [hcs])
  have hblank : (Number.digits n).all Text.isBlank = false := by
    simp [hcs, Text.not_isBlank_of_isDigit hc]
  rw [lexemes, String.toList_ofList, splitBy_joins_word hne hall]
  simp [hblank]

theorem lexemes_integerText (n : Int) : lexemes (Scope.integerText n) = spellNumeral n := by
  cases n with
  | ofNat n => exact lexemes_digits n
  | negSucc n =>
    have htext : Scope.integerText (.negSucc n)
        = "-" ++ String.ofList (Number.digits (n + 1)) := by
      rw [Scope.integerText, Number.decimal, ← String.toList_inj]
      simp
    rw [htext, lexemes_append (.inl (by decide)), lexemes_digits]
    rfl

theorem startsApart_of_space {s : String} (h : startsWithSpace s = true) :
    startsApart s = true := by
  rw [startsWithSpace, Option.all_eq_true] at h
  refine (Option.all_eq_true _ _).2 fun c hc => ?_
  obtain rfl : c = ' ' := of_decide_eq_true (h c hc)
  decide

/-- A harmless text means what its lexemes spell. -/
theorem Spells.isReadable {text : String} {marks : Nat} (h : Spells text marks) :
    isReadable text.toList = true := by
  have hnone : ∀ part ∈ ["--", "/*", "*/"], Text.occursIn part.toList text.toList = false := by
    intro part hpart
    rw [← Bool.not_eq_true, occursIn_eq_true]
    exact h.harmless.no_sequence part (List.mem_append_right ["'", "\"", "`", ";"] hpart)
  have hcomment : hasComment text.toList = false := by
    rw [hasComment, Bool.or_eq_false_iff, Bool.or_eq_false_iff]
    exact ⟨⟨hnone "--" (by simp), hnone "/*" (by simp)⟩, hnone "*/" (by simp)⟩
  rw [Sql.isReadable, hcomment, Bool.not_false, Bool.and_true, List.all_eq_true]
  intro c hc
  obtain ⟨hquote, hterminator, -⟩ := h.chars c hc
  simp [hquote, hterminator]

/-! ### Texts that open no clause -/

/-- No word of a text opens a clause. -/
def IsClosed (text : String) : Prop := Closed (lexemes text)

instance (text : String) : Decidable (IsClosed text) :=
  inferInstanceAs (Decidable (∀ l ∈ lexemes text, opensClause l = false))

theorem IsClosed.append {s t : String} (hs : IsClosed s) (ht : IsClosed t)
    (h : endsApart s = true ∨ startsApart t = true) : IsClosed (s ++ t) := by
  rw [IsClosed, lexemes_append h]
  exact fun l hl => (List.mem_append.1 hl).elim (hs l) (ht l)

/-- A text between two others that are apart from it. -/
theorem IsClosed.between {opening text closing : String} (ho : IsClosed opening)
    (ht : IsClosed text) (hc : IsClosed closing) (hends : endsApart opening = true)
    (hstarts : startsApart closing = true) : IsClosed (opening ++ text ++ closing) :=
  (ho.append ht (.inl hends)).append hc (.inr hstarts)

/-- Texts with a separator between them that is apart on both sides. -/
theorem IsClosed.intercalate {sep : String} (hsep : IsClosed sep) (hstarts : startsApart sep = true)
    (hends : endsApart sep = true) (hne : sep.toList ≠ []) {texts : List String}
    (h : ∀ text ∈ texts, IsClosed text) : IsClosed (sep.intercalate texts) := by
  induction texts with
  | nil => exact (by decide : IsClosed "")
  | cons text texts ih =>
    have htext := h text (by simp)
    cases texts with
    | nil => simpa using htext
    | cons next texts =>
      have hfront := htext.append hsep (.inr hstarts)
      have hall := hfront.append (ih fun s hs => h s (List.mem_cons_of_mem _ hs))
        (.inl (endsApart_append text hends hne))
      simpa [String.intercalate_cons_cons] using hall

theorem isClosed_placeholders (vs : List Value) : IsClosed (placeholders vs) := by
  refine IsClosed.intercalate (by decide) (by decide) (by decide) (by decide) fun text htext => ?_
  obtain ⟨v, -, rfl⟩ := List.mem_map.1 htext
  decide

/-- **The text of a filter opens a clause only where one of its names does.** -/
theorem isClosed_text {f : Filter} (h : ∀ name ∈ f.fields, IsClosed name) : IsClosed f.text := by
  induction f with
  | compare field op v =>
    have hfront : IsClosed (field ++ " ") :=
      (h field (by simp [Filter.fields])).append (by decide) (.inr (by decide))
    have hsymbol : IsClosed op.symbol := by cases op <;> decide
    exact hfront.between hsymbol (by decide) (endsApart_append field (by decide) (by decide))
      (by decide)
  | isNull field =>
    exact (h field (by simp [Filter.fields])).append (by decide) (.inr (by decide))
  | isNotNull field =>
    exact (h field (by simp [Filter.fields])).append (by decide) (.inr (by decide))
  | inList field vs =>
    cases vs with
    | nil => exact (by decide : IsClosed "1 = 0")
    | cons v vs =>
      have hfront : IsClosed (field ++ " IN (") :=
        (h field (by simp [Filter.fields])).append (by decide) (.inr (by decide))
      exact hfront.between (isClosed_placeholders _) (by decide)
        (endsApart_append field (by decide) (by decide)) (by decide)
  | notInList field vs =>
    cases vs with
    | nil => exact (by decide : IsClosed "1 = 1")
    | cons v vs =>
      have hfront : IsClosed (field ++ " NOT IN (") :=
        (h field (by simp [Filter.fields])).append (by decide) (.inr (by decide))
      exact hfront.between (isClosed_placeholders _) (by decide)
        (endsApart_append field (by decide) (by decide)) (by decide)
  | like field pattern =>
    exact (h field (by simp [Filter.fields])).append (by decide) (.inr (by decide))
  | between field low high =>
    exact (h field (by simp [Filter.fields])).append (by decide) (.inr (by decide))
  | and left right ihl ihr =>
    have hl := ihl fun name hn => h name (by simp [Filter.fields, hn])
    have hr := ihr fun name hn => h name (by simp [Filter.fields, hn])
    have hfront := (by decide : IsClosed "(").between hl (by decide : IsClosed ") AND (")
      (by decide) (by decide)
    exact hfront.between hr (by decide) (endsApart_append _ (by decide) (by decide)) (by decide)
  | or left right ihl ihr =>
    have hl := ihl fun name hn => h name (by simp [Filter.fields, hn])
    have hr := ihr fun name hn => h name (by simp [Filter.fields, hn])
    have hfront := (by decide : IsClosed "(").between hl (by decide : IsClosed ") OR (")
      (by decide) (by decide)
    exact hfront.between hr (by decide) (endsApart_append _ (by decide) (by decide)) (by decide)
  | not inner ih =>
    exact (by decide : IsClosed "NOT (").between (ih h) (by decide) (by decide) (by decide)
  | nothing => exact (by decide : IsClosed "1 = 0")

/-! ### Clauses of a scope -/

namespace Scope

/-- The select list of a statement. -/
def listText (columns : List String) : String :=
  if columns.isEmpty then "*" else ", ".intercalate columns

def conditionLexemes (s : Scope) : Option (List Lexeme) :=
  if s.conditions.isEmpty then none else some (lexemes (" AND ".intercalate s.conditions))

def orderLexemes (s : Scope) : Option (List Lexeme) :=
  if s.order.isEmpty then none else some (lexemes (", ".intercalate (s.order.map OrderBy.text)))

/-- An offset without a limit stands behind the limit that means none. -/
def page (s : Scope) : Option Page :=
  match s.limit, s.offset with
  | none, none => none
  | none, some m => some (-1, some m)
  | some n, m => some (n, m)

/-- The clauses of a select. -/
def selection (s : Scope) (table : String) (columns : List String) : Selection where
  distinct := s.distinct
  list := lexemes (listText columns)
  source := lexemes table
  condition := s.conditionLexemes
  order := s.orderLexemes
  page := s.page

/-- The clauses of a count: the rows are neither ordered nor left out. -/
def countSelection (s : Scope) (table : String) : Selection where
  distinct := false
  list := lexemes "COUNT(*)"
  source := lexemes table
  condition := s.conditionLexemes
  order := none
  page := none

theorem lexemes_whereText (s : Scope) :
    lexemes s.whereText = spellClause "WHERE" s.conditionLexemes := by
  rw [whereText, conditionLexemes]
  split
  · rfl
  · rw [lexemes_append (.inl (by decide))]
    rfl

theorem lexemes_orderText (s : Scope) :
    lexemes s.orderText = spellClause "ORDER" (s.orderLexemes.map ("BY".toList :: ·)) := by
  rw [orderText, orderLexemes]
  split
  · rfl
  · rw [lexemes_append (.inl (by decide))]
    rfl

theorem lexemes_pageText (s : Scope) :
    lexemes s.pageText = spellClause "LIMIT" (s.page.map spellPage) := by
  have hlimit : lexemes " LIMIT " = ["LIMIT".toList] := by decide +kernel
  have hoffset : lexemes " OFFSET " = ["OFFSET".toList] := by decide +kernel
  have hall : lexemes " LIMIT -1 OFFSET " =
      "LIMIT".toList :: spellNumeral (-1) ++ ["OFFSET".toList] := by decide +kernel
  rw [pageText, page]
  cases s.limit with
  | none =>
    cases s.offset with
    | none => rfl
    | some m =>
      simp only [lexemes_append (s := " LIMIT -1 OFFSET ") (.inl (by decide)), hall,
        lexemes_integerText]
      simp [spellClause, spellPage]
  | some n =>
    cases s.offset with
    | none =>
      simp only [lexemes_append (s := " LIMIT ") (.inl (by decide)), hlimit, lexemes_integerText]
      rfl
    | some m =>
      have hends := endsApart_append (" LIMIT " ++ integerText n) (t := " OFFSET ") (by decide)
        (by decide)
      simp only [lexemes_append (.inl hends), lexemes_append (t := " OFFSET ") (.inr (by decide)),
        lexemes_append (s := " LIMIT ") (.inl (by decide)), hlimit, hoffset, lexemes_integerText]
      simp [spellClause, spellPage]

theorem lexemes_selectText (s : Scope) (table : String) (columns : List String) :
    lexemes (s.selectText table columns) = (s.selection table columns).spell := by
  have htext : s.selectText table columns =
      "SELECT " ++ (if s.distinct then "DISTINCT " else "") ++ listText columns ++ " FROM " ++
        table ++ s.whereText ++ s.orderText ++ s.pageText := rfl
  have hhead : lexemes ("SELECT " ++ (if s.distinct then "DISTINCT " else "")) =
        "SELECT".toList :: (if s.distinct then ["DISTINCT".toList] else []) ∧
      endsApart ("SELECT " ++ (if s.distinct then "DISTINCT " else "")) = true := by
    cases s.distinct <;> decide +kernel
  have hfrom : lexemes " FROM " = ["FROM".toList] := by decide +kernel
  rw [htext, lexemes_append (.inr (startsApart_of_space s.startsWithSpace_page)),
    lexemes_append (.inr (startsApart_of_space s.startsWithSpace_order)),
    lexemes_append (.inr (startsApart_of_space s.startsWithSpace_where)),
    lexemes_append (.inl (endsApart_append _ (by decide) (by decide))),
    lexemes_append (t := " FROM ") (.inr (by decide)), lexemes_append (.inl hhead.2), hhead.1,
    hfrom, lexemes_whereText, lexemes_orderText, lexemes_pageText, Selection.spell,
    Selection.spellFrom, Selection.spellFromWhere, Selection.spellFromOrder, Selection.spellEnd]
  cases hdistinct : s.distinct <;> simp [selection, hdistinct]

theorem lexemes_countText (s : Scope) (table : String) :
    lexemes (s.countText table) = (s.countSelection table).spell := by
  have hhead : lexemes "SELECT COUNT(*) FROM " =
      "SELECT".toList :: lexemes "COUNT(*)" ++ ["FROM".toList] := by decide +kernel
  rw [countText_eq, lexemes_append (.inr (startsApart_of_space s.startsWithSpace_where)),
    lexemes_append (.inl (by decide)), hhead, lexemes_whereText, Selection.spell,
    Selection.spellFrom, Selection.spellFromWhere, Selection.spellFromOrder, Selection.spellEnd]
  simp [countSelection, spellClause]

/-! ### Reading the texts of a scope -/

theorem closed_conditionLexemes {s : Scope} (h : ∀ name ∈ s.names, IsClosed name) :
    ∀ ls ∈ s.conditionLexemes, Closed ls := by
  intro ls hls
  rw [conditionLexemes, conditions_eq] at hls
  split at hls
  · simp at hls
  · obtain rfl := Option.some.inj hls
    refine IsClosed.intercalate (by decide) (by decide) (by decide) (by decide) fun text htext => ?_
    obtain ⟨f, hf, rfl⟩ := List.mem_map.1 htext
    exact isClosed_text fun name hname => h name (mem_names_of_conditionFilters hf hname)

theorem closed_orderLexemes {s : Scope} (h : ∀ name ∈ s.names, IsClosed name) :
    ∀ ls ∈ s.orderLexemes, Closed ls := by
  intro ls hls
  rw [orderLexemes] at hls
  split at hls
  · simp at hls
  · obtain rfl := Option.some.inj hls
    refine IsClosed.intercalate (by decide) (by decide) (by decide) (by decide) fun text htext => ?_
    obtain ⟨o, ho, rfl⟩ := List.mem_map.1 htext
    have hcolumn := h o.column (List.mem_append_right _ (List.mem_map_of_mem ho))
    rw [OrderBy.text]
    refine hcolumn.append ?_ (.inr ?_) <;> split <;> decide

theorem isClosed_listText {columns : List String} (h : ∀ column ∈ columns, IsClosed column) :
    IsClosed (listText columns) := by
  rw [listText]
  split
  · decide
  · exact IsClosed.intercalate (by decide) (by decide) (by decide) (by decide) h

variable {s : Scope} {table : String}

/-- **The text of a select is read as the clauses of its scope**, whatever the values. -/
theorem read_selectText (hs : ∀ name ∈ s.names, Accepted name ∧ IsClosed name)
    (htable : Accepted table ∧ IsClosed table) {columns : List String}
    (hcolumns : ∀ column ∈ columns, Accepted column ∧ IsClosed column) :
    Selection.read (s.selectText table columns) = some (s.selection table columns) := by
  have hspells := spells_select (fun name hname => (hs name hname).1) htable.1
    fun column hcolumn => (hcolumns column hcolumn).1
  have hnames : ∀ name ∈ s.names, IsClosed name := fun name hname => (hs name hname).2
  have hclosed : (s.selection table columns).IsClosed :=
    ⟨isClosed_listText fun column hcolumn => (hcolumns column hcolumn).2, htable.2,
      closed_conditionLexemes hnames, closed_orderLexemes hnames⟩
  rw [Selection.read, if_pos hspells.isReadable, lexemes_selectText,
    Selection.ofLexemes_spell hclosed]

theorem read_countText (hs : ∀ name ∈ s.names, Accepted name ∧ IsClosed name)
    (htable : Accepted table ∧ IsClosed table) :
    Selection.read (s.countText table) = some (s.countSelection table) := by
  have hspells := spells_count (fun name hname => (hs name hname).1) htable.1
  have hclosed : (s.countSelection table).IsClosed :=
    ⟨(by decide : IsClosed "COUNT(*)"), htable.2,
      closed_conditionLexemes fun name hname => (hs name hname).2, by simp [countSelection]⟩
  rw [Selection.read, if_pos hspells.isReadable, lexemes_countText,
    Selection.ofLexemes_spell hclosed]

end Scope

end EntityGraph.Sql
