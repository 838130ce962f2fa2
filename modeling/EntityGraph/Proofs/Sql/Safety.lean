import EntityGraph.Proofs.Sql.Identifier
import EntityGraph.Proofs.Sql.Truth
import EntityGraph.Proofs.Sql.Words
import Mathlib

/-!
# What the text of a statement may hold

Names are checked one by one, but a database reads the text they are assembled into. The pieces of a
text meet at gaps: blanks, brackets and commas, which are no part of a word and no sign
(`Spells.append`). So every word of the text is a word of one piece, and no two signs meet. With
that the texts of a checked scope over checked names are harmless, and hold a placeholder for every
value and nothing else of the values (`texts_harmless`).
-/

namespace EntityGraph.Sql

/-! ### Harmless texts -/

/-- A text that cannot leave the place it is meant for: it quotes nothing, ends no statement, opens
and closes no comment, and no forbidden keyword stands in it in any letter case. -/
structure Harmless (text : String) : Prop where
  no_sequence : ∀ part ∈ ["'", "\"", "`", ";", "--", "/*", "*/"],
    ¬ part.toList <:+: text.toList
  no_keyword : ∀ word, StandsIn word text.toList →
    ∀ keyword ∈ forbiddenKeywords, word.map Char.toUpper ≠ keyword.toList

/-! ### Pieces that meet at gaps -/

/-- A character that ends words and is no sign. -/
def isGap (c : Char) : Bool := !isWordPart c && c ≠ '-'

theorem isWordPart_of_isGap {c : Char} (h : isGap c = true) : isWordPart c = false := by
  simp only [isGap, Bool.and_eq_true, Bool.not_eq_true'] at h
  exact h.1

theorem ne_sign_of_isGap {c : Char} (h : isGap c = true) : c ≠ '-' := by
  simp only [isGap, Bool.and_eq_true, decide_eq_true_eq] at h
  exact h.2

/-- The text starts with a gap unless it is empty. -/
def startsWithGap (text : String) : Bool := text.toList.head?.all isGap

/-- The text starts with a space unless it is empty. -/
def startsWithSpace (text : String) : Bool := text.toList.head?.all (· = ' ')

theorem startsWithSpace_append {s : String} (h : startsWithSpace s = true) (hne : s.toList ≠ [])
    (t : String) : startsWithSpace (s ++ t) = true := by
  rw [startsWithSpace, String.toList_append, List.head?_append_of_ne_nil _ hne]
  exact h

theorem startsWithGap_of_space {s : String} (h : startsWithSpace s = true) :
    startsWithGap s = true := by
  rw [startsWithSpace, Option.all_eq_true] at h
  refine (Option.all_eq_true _ _).2 fun c hc => ?_
  obtain rfl : c = ' ' := of_decide_eq_true (h c hc)
  decide

def endsWithGap (text : String) : Bool := text.toList.getLast?.any isGap

theorem endsWithGap_append (s : String) {t : String} (h : endsWithGap t = true) :
    endsWithGap (s ++ t) = true := by
  have hne : t.toList ≠ [] := by
    intro hnil
    rw [endsWithGap, hnil] at h
    cases h
  rw [endsWithGap, String.toList_append, List.getLast?_append_of_ne_nil _ hne]
  exact h

/-- A text of harmless characters and words with no two signs in a row, and with a number of
placeholders. -/
structure Spells (text : String) (marks : Nat) : Prop where
  chars : ∀ c ∈ text.toList, isQuote c = false ∧ c ≠ ';' ∧ c ≠ '/'
  signs : text.toList.IsChain fun c d => ¬ (c = '-' ∧ d = '-')
  words : ∀ word ∈ identifierWords text.toList, isForbidden word = false
  count_eq : text.toList.count '?' = marks

theorem spells_iff {text : String} {marks : Nat} :
    Spells text marks ↔
      text.toList.all (fun c => !isQuote c && c != ';' && c != '/') = true ∧
        (text.toList.IsChain fun c d => ¬ (c = '-' ∧ d = '-')) ∧
        (identifierWords text.toList).all (fun word => !isForbidden word) = true ∧
        text.toList.count '?' = marks := by
  simp only [List.all_eq_true, Bool.and_eq_true, Bool.not_eq_true', bne_iff_ne, and_assoc]
  exact ⟨fun h => ⟨h.1, h.2, h.3, h.4⟩, fun h => ⟨h.1, h.2.1, h.2.2.1, h.2.2.2⟩⟩

instance (text : String) (marks : Nat) : Decidable (Spells text marks) :=
  decidable_of_iff _ spells_iff.symm

/-- Every word of a text that is cut at a gap is a word of one of its parts. -/
theorem mem_identifierWords_append {as bs word : List Char}
    (h : as.getLast?.any isGap = true ∨ bs.head?.all isGap = true)
    (hword : word ∈ identifierWords (as ++ bs)) :
    word ∈ identifierWords as ∨ word ∈ identifierWords bs := by
  rcases h with h | h
  · obtain ⟨c, hc, hgap⟩ := (Option.any_eq_true ..).1 h
    obtain ⟨front, rfl⟩ := List.getLast?_eq_some_iff.1 hc
    have hpart := isWordPart_of_isGap hgap
    rw [List.append_assoc, List.singleton_append, identifierWords_append_cons hpart,
      List.mem_append] at hword
    refine hword.imp_left fun hfront => ?_
    rw [identifierWords_append_cons hpart]
    exact List.mem_append_left _ hfront
  · cases bs with
    | nil => exact .inl (List.append_nil as ▸ hword)
    | cons c rest =>
      have hpart : isWordPart c = false := isWordPart_of_isGap h
      rw [identifierWords_append_cons hpart, List.mem_append] at hword
      refine hword.imp_right fun hrest => ?_
      rw [identifierWords_cons_of_not_isWordPart hpart]
      exact List.mem_cons_of_mem _ hrest

/-- **Texts that meet at a gap are harmless together.** -/
theorem Spells.append {s t : String} {m n : Nat} (hs : Spells s m) (ht : Spells t n)
    (h : endsWithGap s = true ∨ startsWithGap t = true) : Spells (s ++ t) (m + n) := by
  refine ⟨fun c hc => ?_, ?_, fun word hword => ?_, ?_⟩
  · rw [String.toList_append] at hc
    exact (List.mem_append.1 hc).elim (hs.chars c) (ht.chars c)
  · rw [String.toList_append, List.isChain_append]
    refine ⟨hs.signs, ht.signs, fun c hc d hd hsigns => ?_⟩
    rcases h with h | h
    · rw [endsWithGap, Option.mem_def.1 hc] at h
      exact ne_sign_of_isGap h hsigns.1
    · rw [startsWithGap, Option.mem_def.1 hd] at h
      exact ne_sign_of_isGap h hsigns.2
  · rw [String.toList_append] at hword
    exact (mem_identifierWords_append h hword).elim (hs.words word) (ht.words word)
  · rw [String.toList_append, List.count_append, hs.count_eq, ht.count_eq]

/-- A text between two others that have a gap on its side. -/
theorem Spells.between {opening text closing : String} {k m n : Nat} (ho : Spells opening k)
    (ht : Spells text m) (hc : Spells closing n) (hends : endsWithGap opening = true)
    (hstarts : startsWithGap closing = true) : Spells (opening ++ text ++ closing) (k + m + n) :=
  (ho.append ht (.inl hends)).append hc (.inr hstarts)

/-- Texts with a separator between them that is a gap on both sides. -/
theorem Spells.intercalate {sep : String} (hsep : Spells sep 0) (hstarts : startsWithGap sep = true)
    (hends : endsWithGap sep = true) {α : Type} {text : α → String} {marks : α → Nat} {l : List α}
    (h : ∀ a ∈ l, Spells (text a) (marks a)) :
    Spells (sep.intercalate (l.map text)) (l.map marks).sum := by
  induction l with
  | nil => exact (by decide : Spells "" 0)
  | cons a l ih =>
    have ha := h a (by simp)
    cases l with
    | nil => simpa using ha
    | cons b l =>
      have hfront := ha.append hsep (.inr hstarts)
      have hall := hfront.append (ih fun b hb => h b (List.mem_cons_of_mem _ hb))
        (.inl (endsWithGap_append (text a) hends))
      simpa [String.intercalate_cons_cons] using hall

/-- A text that is spelled so is harmless. -/
theorem Spells.harmless {text : String} {marks : Nat} (h : Spells text marks) :
    Harmless text := by
  have hchar : ∀ c, (isQuote c = true ∨ c = ';' ∨ c = '/') → c ∉ text.toList := by
    intro c hc hmem
    obtain ⟨hquote, hterminator, hslash⟩ := h.chars c hmem
    rcases hc with hc | hc | hc
    · rw [hquote] at hc
      cases hc
    · exact hterminator hc
    · exact hslash hc
  have hsigns : ¬ ['-', '-'] <:+: text.toList := by
    intro hoccurs
    have hchain := h.signs.infix hoccurs
    simp at hchain
  constructor
  · intro part hpart hoccurs
    simp only [List.mem_cons, List.not_mem_nil, or_false] at hpart
    rcases hpart with rfl | rfl | rfl | rfl | rfl | rfl | rfl
    · exact hchar '\'' (.inl rfl) (hoccurs.subset (by decide))
    · exact hchar '"' (.inl rfl) (hoccurs.subset (by decide))
    · exact hchar '`' (.inl rfl) (hoccurs.subset (by decide))
    · exact hchar ';' (.inr (.inl rfl)) (hoccurs.subset (by decide))
    · exact hsigns hoccurs
    · exact hchar '/' (.inr (.inr rfl)) (hoccurs.subset (by decide))
    · exact hchar '/' (.inr (.inr rfl)) (hoccurs.subset (by decide))
  · intro word hstands keyword hkeyword heq
    have hforbidden : isForbidden word = true :=
      List.any_eq_true.2 ⟨keyword, hkeyword, by simp [heq]⟩
    have hmem := mem_identifierWords (isWordPart_of_isForbidden hforbidden) hstands
    rw [h.words word hmem] at hforbidden
    cases hforbidden

/-! ### Names and numbers -/

theorem isAllowed_of_accepted {name : String} (h : Accepted name) :
    ∀ c ∈ name.toList, isAllowed c = true := by
  rw [accepted_iff] at h
  unfold identifierFault? at h
  split_ifs at h with _ _ _ _ hall
  rw [Bool.not_eq_true', Bool.not_eq_false] at hall
  exact (found_allowedPattern.1 hall).2

/-- Allowed characters are harmless as long as they make up no forbidden keyword. -/
theorem spells_of_isAllowed {text : String} (hall : ∀ c ∈ text.toList, isAllowed c = true)
    (hwords : ∀ word ∈ identifierWords text.toList, isForbidden word = false) :
    Spells text 0 := by
  have hnone : ∀ c, isAllowed c = false → c ∉ text.toList := by
    intro c hc hmem
    rw [hall c hmem] at hc
    cases hc
  refine ⟨fun c hc => ⟨?_, ?_, ?_⟩, ?_, hwords, ?_⟩
  · rw [← Bool.not_eq_true]
    intro hquote
    simp only [isQuote, Bool.or_eq_true, decide_eq_true_eq] at hquote
    obtain (rfl | rfl) | rfl := hquote <;> exact hnone _ (by decide) hc
  · rintro rfl
    exact hnone _ (by decide) hc
  · rintro rfl
    exact hnone _ (by decide) hc
  · refine List.Pairwise.isChain (List.pairwise_of_forall_mem_list fun c hc d hd hsigns => ?_)
    rw [hsigns.1] at hc
    exact hnone _ (by decide) hc
  · rw [List.count_eq_zero]
    exact hnone _ (by decide)

theorem spells_name {name : String} (h : Accepted name) : Spells name 0 := by
  have hall := isAllowed_of_accepted h
  refine spells_of_isAllowed hall fun word hword => ?_
  rw [accepted_iff] at h
  unfold identifierFault? at h
  split_ifs at h with _ _ _ _ _ hkeyword
  rw [← Bool.not_eq_true]
  intro hforbidden
  have hstands := standsIn_of_mem_identifierWords hword
  exact hkeyword ((found_keywordPattern hall).2 ⟨word, hstands, hforbidden⟩)

theorem not_isDigit_of_keyword :
    ∀ keyword ∈ forbiddenKeywords, ∃ c ∈ keyword.toList, c.isDigit = false := by
  have hall : (forbiddenKeywords.all fun keyword => keyword.toList.any (!·.isDigit)) = true := by
    decide
  simpa only [List.all_eq_true, List.any_eq_true, Bool.not_eq_true'] using hall

theorem isDigit_toUpper {c : Char} (h : c.isDigit = true) : c.toUpper.isDigit = true := by
  unfold Char.toUpper
  split
  · next hlower =>
    simp only [Char.isDigit, Bool.and_eq_true, decide_eq_true_eq] at h
    exact absurd (UInt32.le_trans hlower.1 h.2) (by decide)
  · exact h

theorem spells_digits (n : Nat) : Spells (String.ofList (Number.digits n)) 0 := by
  have hparts : ∀ c ∈ Number.digits n, isWordPart c = true := by
    intro c hc
    simp [isWordPart, Char.isAlphanum, Number.isDigit_of_mem_digits hc]
  refine spells_of_isAllowed (fun c hc => ?_) fun word hword => ?_
  · rw [String.toList_ofList] at hc
    simp [isAllowed, hparts c hc]
  · rw [String.toList_ofList, identifierWords_of_isWordPart hparts, List.mem_singleton] at hword
    subst hword
    rw [isForbidden, List.any_eq_false]
    intro keyword hkeyword heq
    obtain ⟨c, hc, hdigit⟩ := not_isDigit_of_keyword keyword hkeyword
    rw [of_decide_eq_true heq] at hc
    obtain ⟨d, hd, rfl⟩ := List.mem_map.1 hc
    rw [isDigit_toUpper (Number.isDigit_of_mem_digits hd)] at hdigit
    cases hdigit

/-- A minus sign in front of a digit. -/
theorem Spells.negative {text : String} {marks : Nat} (h : Spells text marks)
    (hhead : ∀ c ∈ text.toList.head?, c ≠ '-') : Spells ("-" ++ text) marks := by
  have hlist : ("-" ++ text).toList = '-' :: text.toList := by simp
  refine ⟨?_, ?_, ?_, ?_⟩ <;> rw [hlist]
  · exact List.forall_mem_cons.2 ⟨by decide, h.chars⟩
  · exact List.isChain_cons.2 ⟨fun c hc hsigns => hhead c hc hsigns.2, h.signs⟩
  · rw [identifierWords_cons_of_not_isWordPart (by decide)]
    exact List.forall_mem_cons.2 ⟨by decide, h.words⟩
  · rw [List.count_cons_of_ne (by decide), h.count_eq]

theorem spells_integer (n : Int) : Spells (Scope.integerText n) 0 := by
  cases n with
  | ofNat n => exact spells_digits n
  | negSucc n =>
    have htext : Scope.integerText (.negSucc n)
        = "-" ++ String.ofList (Number.digits (n + 1)) := by
      rw [Scope.integerText, Number.decimal, ← String.toList_inj]
      simp
    rw [htext]
    refine (spells_digits (n + 1)).negative ?_
    rintro c hc rfl
    rw [String.toList_ofList] at hc
    have hdigit := Number.isDigit_of_mem_digits (List.mem_of_mem_head? hc)
    cases hdigit

/-! ### Filters -/

theorem spells_placeholders (v : Value) (vs : List Value) :
    Spells (placeholders (v :: vs)) (v :: vs).length := by
  have hmarks : ∀ a ∈ v :: vs, Spells "?" 1 := fun _ _ => by decide
  have hlist := Spells.intercalate (by decide : Spells ", " 0) (by decide) (by decide) hmarks
  simpa [placeholders, Nat.add_comm] using hlist

/-- A name with a text after it that starts with a gap. -/
theorem Spells.afterName {name rest : String} {marks : Nat} (hrest : Spells rest marks)
    (h : Accepted name) (hstarts : startsWithGap rest = true) : Spells (name ++ rest) marks := by
  have hboth := (spells_name h).append hrest (.inr hstarts)
  rwa [Nat.zero_add] at hboth

/-- Two bracketed texts with a connective between them. -/
theorem Spells.connected {left middle right : String} {m n : Nat} (hl : Spells left m)
    (hm : Spells middle 0) (hr : Spells right n) (hstarts : startsWithGap middle = true)
    (hends : endsWithGap middle = true) :
    Spells ("(" ++ left ++ middle ++ right ++ ")") (m + n) := by
  have hfront := (by decide : Spells "(" 0).between hl hm (by decide) hstarts
  have hboth := hfront.between hr (by decide : Spells ")" 0) (endsWithGap_append _ hends)
    (by decide)
  simpa using hboth

/-- **The text of a filter over accepted names is harmless**, with a placeholder for every value. -/
theorem spells_filter {f : Filter} (h : ∀ name ∈ f.fields, Accepted name) :
    Spells f.text f.params.length := by
  induction f with
  | compare field op v =>
    have hfront : Spells (field ++ " ") 0 :=
      Spells.afterName (by decide) (h field (by simp [Filter.fields])) (by decide)
    have hsymbol : Spells op.symbol 0 := by cases op <;> decide
    exact hfront.between hsymbol (by decide : Spells " ?" 1) (endsWithGap_append field (by decide))
      (by decide)
  | isNull field =>
    exact Spells.afterName (by decide : Spells " IS NULL" 0) (h field (by simp [Filter.fields]))
      (by decide)
  | isNotNull field =>
    exact Spells.afterName (by decide : Spells " IS NOT NULL" 0)
      (h field (by simp [Filter.fields])) (by decide)
  | inList field vs =>
    cases vs with
    | nil => exact (by decide : Spells "1 = 0" 0)
    | cons v vs =>
      have hfront : Spells (field ++ " IN (") 0 :=
        Spells.afterName (by decide) (h field (by simp [Filter.fields])) (by decide)
      have hlist := hfront.between (spells_placeholders v vs) (by decide : Spells ")" 0)
        (endsWithGap_append field (by decide)) (by decide)
      simpa [Filter.text, Filter.params] using hlist
  | notInList field vs =>
    cases vs with
    | nil => exact (by decide : Spells "1 = 1" 0)
    | cons v vs =>
      have hfront : Spells (field ++ " NOT IN (") 0 :=
        Spells.afterName (by decide) (h field (by simp [Filter.fields])) (by decide)
      have hlist := hfront.between (spells_placeholders v vs) (by decide : Spells ")" 0)
        (endsWithGap_append field (by decide)) (by decide)
      simpa [Filter.text, Filter.params] using hlist
  | like field pattern =>
    exact Spells.afterName (by decide : Spells " LIKE ?" 1) (h field (by simp [Filter.fields]))
      (by decide)
  | between field low high =>
    exact Spells.afterName (by decide : Spells " BETWEEN ? AND ?" 2)
      (h field (by simp [Filter.fields])) (by decide)
  | and left right ihl ihr =>
    have hl := ihl fun name hn => h name (by simp [Filter.fields, hn])
    have hr := ihr fun name hn => h name (by simp [Filter.fields, hn])
    rw [Filter.text, Filter.params, List.length_append]
    exact hl.connected (by decide : Spells ") AND (" 0) hr (by decide) (by decide)
  | or left right ihl ihr =>
    have hl := ihl fun name hn => h name (by simp [Filter.fields, hn])
    have hr := ihr fun name hn => h name (by simp [Filter.fields, hn])
    rw [Filter.text, Filter.params, List.length_append]
    exact hl.connected (by decide : Spells ") OR (" 0) hr (by decide) (by decide)
  | not inner ih =>
    have hinner := (by decide : Spells "NOT (" 0).between
      (ih fun name hn => h name (by simpa [Filter.fields] using hn)) (by decide : Spells ")" 0)
      (by decide) (by decide)
    simpa [Filter.text, Filter.params] using hinner
  | nothing => exact (by decide : Spells "1 = 0" 0)

namespace Scope

variable {s : Scope}

theorem names_of_check (h : s.check = .ok ()) : ∀ name ∈ s.names, Accepted name :=
  checkIdentifiers_eq_ok.1 h

/-- The fields of a condition are names of the scope. -/
theorem mem_names_of_conditionFilters {f : Filter} (hf : f ∈ s.conditionFilters) {name : String}
    (hname : name ∈ f.fields) : name ∈ s.names := by
  refine List.mem_append_left _ ?_
  rcases List.mem_append.1 hf with hf | hf
  · exact List.mem_flatMap.2 ⟨f, List.mem_append_left _ hf, hname⟩
  · obtain ⟨inner, hinner, rfl⟩ := List.mem_map.1 hf
    exact List.mem_flatMap.2 ⟨inner, List.mem_append_right _ hinner, hname⟩

theorem spells_where (h : ∀ name ∈ s.names, Accepted name) :
    Spells s.whereText s.params.length := by
  have hcondition : ∀ f ∈ s.conditionFilters, Spells f.text f.params.length := fun f hf =>
    spells_filter fun name hname => h name (mem_names_of_conditionFilters hf hname)
  rw [whereText, conditions_eq, params_eq, List.length_flatMap]
  cases hfs : s.conditionFilters with
  | nil => exact (by decide : Spells "" 0)
  | cons f fs =>
    rw [hfs] at hcondition
    have hlist := Spells.intercalate (by decide : Spells " AND " 0) (by decide) (by decide)
      hcondition
    have hboth := (by decide : Spells " WHERE " 0).append hlist (.inl (by decide))
    rwa [Nat.zero_add] at hboth

theorem spells_order (h : ∀ name ∈ s.names, Accepted name) : Spells s.orderText 0 := by
  have hpart : ∀ o ∈ s.order, Spells o.text 0 := by
    intro o ho
    have hcolumn : Accepted o.column := h _ (List.mem_append_right _ (List.mem_map_of_mem ho))
    rw [OrderBy.text]
    split
    · exact Spells.afterName (by decide) hcolumn (by decide)
    · exact Spells.afterName (by decide) hcolumn (by decide)
  rw [orderText]
  split
  · decide
  · have hlist := Spells.intercalate (by decide : Spells ", " 0) (by decide) (by decide) hpart
    have hboth := (by decide : Spells " ORDER BY " 0).append hlist (.inl (by decide))
    simpa using hboth

theorem spells_page (s : Scope) : Spells s.pageText 0 := by
  rw [pageText]
  split
  · decide
  · next n _ _ =>
    exact (by decide : Spells " LIMIT " 0).append (spells_integer n) (.inl (by decide))
  · next m _ _ =>
    exact (by decide : Spells " LIMIT -1 OFFSET " 0).append (spells_integer m) (.inl (by decide))
  · next n m _ _ =>
    have hlimit := (by decide : Spells " LIMIT " 0).between (spells_integer n)
      (by decide : Spells " OFFSET " 0) (by decide) (by decide)
    exact hlimit.append (spells_integer m) (.inl (endsWithGap_append _ (by decide)))

/-! Clauses that may be left out have a space in front. -/

theorem startsWithSpace_where (s : Scope) : startsWithSpace s.whereText = true := by
  rw [whereText]
  split
  · rfl
  · exact startsWithSpace_append (by decide) (by decide) _

theorem startsWithSpace_order (s : Scope) : startsWithSpace s.orderText = true := by
  rw [orderText]
  split
  · rfl
  · exact startsWithSpace_append (by decide) (by decide) _

theorem startsWithSpace_page (s : Scope) : startsWithSpace s.pageText = true := by
  rw [pageText]
  split
  · rfl
  · exact startsWithSpace_append (by decide) (by decide) _
  · exact startsWithSpace_append (by decide) (by decide) _
  · rw [String.append_assoc, String.append_assoc]
    exact startsWithSpace_append (by decide) (by decide) _

/-- **The text of a select is harmless**, with a placeholder for every value. -/
theorem spells_select (h : ∀ name ∈ s.names, Accepted name) {table : String}
    (htable : Accepted table) {columns : List String}
    (hcolumns : ∀ column ∈ columns, Accepted column) :
    Spells (s.selectText table columns) s.params.length := by
  have hhead : Spells ("SELECT " ++ (if s.distinct then "DISTINCT " else "")) 0 ∧
      endsWithGap ("SELECT " ++ (if s.distinct then "DISTINCT " else "")) = true := by
    cases s.distinct <;> decide
  have hselected : Spells (if columns.isEmpty then "*" else ", ".intercalate columns) 0 := by
    split
    · decide
    · have hlist := Spells.intercalate (by decide : Spells ", " 0) (by decide) (by decide)
        fun column hcolumn => spells_name (hcolumns column hcolumn)
      simpa using hlist
  have hfrom := hhead.1.between hselected (by decide : Spells " FROM " 0) hhead.2 (by decide)
  have hnamed := hfrom.append (spells_name htable) (.inl (endsWithGap_append _ (by decide)))
  have hwhere := hnamed.append (spells_where h)
    (.inr (startsWithGap_of_space s.startsWithSpace_where))
  have hordered := hwhere.append (spells_order h)
    (.inr (startsWithGap_of_space s.startsWithSpace_order))
  have htext := hordered.append s.spells_page
    (.inr (startsWithGap_of_space s.startsWithSpace_page))
  simpa [selectText] using htext

theorem countText_eq (s : Scope) (table : String) :
    s.countText table = "SELECT COUNT(*) FROM " ++ table ++ s.whereText := rfl

/-- **The text of a count is harmless**, with a placeholder for every value. -/
theorem spells_count (h : ∀ name ∈ s.names, Accepted name) {table : String}
    (htable : Accepted table) : Spells (s.countText table) s.params.length := by
  have hhead : Spells "SELECT COUNT(*) FROM " 0 := by decide
  have htext := (hhead.append (spells_name htable) (.inl (by decide))).append (spells_where h)
    (.inr (startsWithGap_of_space s.startsWithSpace_where))
  rwa [← countText_eq, Nat.zero_add] at htext

end Scope

/-! ### Values stay beside the text -/

/-- A filter with all values and patterns taken out of it. -/
def Filter.erased : Filter → Filter
  | .compare field op _ => .compare field op .null
  | .isNull field => .isNull field
  | .isNotNull field => .isNotNull field
  | .inList field values => .inList field (values.map fun _ => .null)
  | .notInList field values => .notInList field (values.map fun _ => .null)
  | .like field _ => .like field ""
  | .between field _ _ => .between field .null .null
  | .and left right => .and left.erased right.erased
  | .or left right => .or left.erased right.erased
  | .not inner => .not inner.erased
  | .nothing => .nothing

/-- A scope with all values taken out of its filters. -/
def Scope.erased (s : Scope) : Scope :=
  { s with filters := s.filters.map Filter.erased, excludes := s.excludes.map Filter.erased }

@[simp] theorem Filter.text_erased (f : Filter) : f.erased.text = f.text := by
  induction f with
  | inList field values => cases values <;> simp [erased, text, placeholders]
  | notInList field values => cases values <;> simp [erased, text, placeholders]
  | and left right ihl ihr => rw [erased, text, text, ihl, ihr]
  | or left right ihl ihr => rw [erased, text, text, ihl, ihr]
  | not inner ih => rw [erased, text, text, ih]
  | _ => rfl

namespace Scope

theorem whereText_erased (s : Scope) : s.erased.whereText = s.whereText := by
  have hconditions : s.erased.conditions = s.conditions := by
    simp [conditions, erased, Function.comp_def]
  rw [whereText, whereText, hconditions]

theorem selectText_erased (s : Scope) (table : String) (columns : List String) :
    s.erased.selectText table columns = s.selectText table columns := by
  rw [selectText, whereText_erased]
  rfl

theorem countText_erased (s : Scope) (table : String) :
    s.erased.countText table = s.countText table := by
  rw [countText_eq, countText_eq, whereText_erased]

/-- **The texts of a checked scope over checked names are harmless**, and hold nothing of its
values: a placeholder stands for each of them, and a scope with other values in its filters has the
same texts. -/
theorem texts_harmless {s : Scope} (hs : s.check = .ok ()) {table : String}
    (htable : checkIdentifier table = .ok ()) {columns : List String}
    (hcolumns : ∀ column ∈ columns, checkIdentifier column = .ok ()) :
    (Harmless (s.selectText table columns) ∧ Harmless (s.countText table)) ∧
    ((s.selectText table columns).toList.count '?' = s.params.length ∧
      (s.countText table).toList.count '?' = s.params.length) ∧
    ∀ other : Scope, other.erased = s.erased →
      other.selectText table columns = s.selectText table columns ∧
        other.countText table = s.countText table := by
  have hnames := names_of_check hs
  have hselect := spells_select hnames htable hcolumns
  have hcount := spells_count hnames htable
  refine ⟨⟨hselect.harmless, hcount.harmless⟩, ⟨hselect.count_eq, hcount.count_eq⟩, ?_⟩
  intro other hother
  constructor
  · rw [← selectText_erased, hother, selectText_erased]
  · rw [← countText_erased, hother, countText_erased]

/-- Changed posts, whose filters hold hostile values. -/
def hostileScope : Scope :=
  { filters :=
      [.or (.compare "posts.updated_at" .gte (.int 5))
        (.inList "id" [.int 1, .text "1); DROP TABLE posts; --"])]
    excludes := [.like "title" "%*/ UNION%"]
    order := [⟨"COUNT(id)", true⟩]
    limit := some (-5)
    offset := some (-3)
    distinct := true }

/-- The values of the hostile scope are not seen in its text, and its negative limits are no
comment. -/
theorem texts_harmless_hostile :
    hostileScope.check = .ok () ∧
    (∀ name ∈ ["posts", "id", "title"], checkIdentifier name = .ok ()) ∧
    (Harmless (hostileScope.selectText "posts" ["id", "title"]) ∧
      Harmless (hostileScope.countText "posts")) ∧
    hostileScope.selectText "posts" ["id", "title"] =
      "SELECT DISTINCT id, title FROM posts WHERE (posts.updated_at >= ?) OR (id IN (?, ?)) " ++
        "AND NOT (title LIKE ?) ORDER BY COUNT(id) DESC LIMIT -5 OFFSET -3" ∧
    hostileScope.params.length = 4 := by
  have hcheck : hostileScope.check = .ok () := checkIdentifiers_eq_ok.2 (by decide +kernel)
  have hnames : ∀ name ∈ ["posts", "id", "title"], Accepted name := by decide +kernel
  have hharmless := texts_harmless hcheck (hnames "posts" (by simp))
    fun column hcolumn => hnames column (List.mem_cons_of_mem _ hcolumn)
  exact ⟨hcheck, hnames, hharmless.1, by decide +kernel, by decide⟩

end Scope

end EntityGraph.Sql
