import EntityGraph.Proofs.Sql.Condition

/-!
# How filters are read

Every filter over plain column names is read back: its text with its values yields the tokens
`Filter.tokens` (`scans_text`), and these are read as the condition `Filter.condition`, which has
the truth of the filter (`truth_condition`).

A filter whose outermost connective is OR is no operand of AND. What the grammar reads is therefore
stated for clauses: pieces between two connectives, each read by itself whatever follows
(`Clause.Reads`). A list of lists of clauses stands for clauses joined by AND, and these joined by
OR; `Filter.prepend` puts the clauses of a filter in front of such a list, and every clause it adds
is read (`allRead_prepend`).
-/

namespace EntityGraph.Sql

/-! ### Scanning -/

/-- A text with its values yields tokens. -/
def Scans (text : String) (values : List Value) (ts : List Token) : Prop :=
  bindValues (tokens text.toList) values = some ts

def isSeparator (c : Char) : Bool := !isNamePart c && !isOperatorPart c

theorem joins_separator_left {c : Char} (h : isSeparator c = true) (d : Char) :
    joins c d = false := by
  simp only [isSeparator, Bool.and_eq_true, Bool.not_eq_true'] at h
  simp [joins, h.1, h.2]

theorem joins_separator_right (c : Char) {d : Char} (h : isSeparator d = true) :
    joins c d = false := by
  simp only [isSeparator, Bool.and_eq_true, Bool.not_eq_true'] at h
  simp [joins, h.1, h.2]

def startsApart (s : String) : Bool := s.toList.head?.all isSeparator

def endsApart (s : String) : Bool := s.toList.getLast?.all isSeparator

theorem endsApart_append (s : String) {t : String} (h : endsApart t = true)
    (hne : t.toList ≠ []) : endsApart (s ++ t) = true := by
  rw [endsApart, String.toList_append, List.getLast?_append_of_ne_nil _ hne]
  exact h

theorem bindValues_append {ts us : List Token} {vs ws : List Value} {bound bound' : List Token}
    (h : bindValues ts vs = some bound) (h' : bindValues us ws = some bound') :
    bindValues (ts ++ us) (vs ++ ws) = some (bound ++ bound') := by
  fun_induction bindValues ts vs generalizing bound with
  | case1 =>
    obtain rfl := Option.some.inj h
    exact h'
  | case2 => simp at h
  | case3 => simp at h
  | case4 ts v vs ih =>
    obtain ⟨rest, hrest, rfl⟩ := Option.map_eq_some_iff.1 h
    simp [bindValues, ih hrest]
  | case5 t ts vs hne hne' ih =>
    obtain ⟨rest, hrest, rfl⟩ := Option.map_eq_some_iff.1 h
    have hcons : ∀ zs, bindValues (t :: (ts ++ us)) zs
        = (bindValues (ts ++ us) zs).map (t :: ·) := by
      intro zs
      cases t <;> first | rfl | (cases vs <;> simp_all)
    rw [List.cons_append, hcons, ih hrest]
    rfl

/-- No run of characters reaches over a separator. -/
theorem splitBy_joins_append {s t : String} (h : endsApart s = true ∨ startsApart t = true) :
    (s ++ t).toList.splitBy joins = s.toList.splitBy joins ++ t.toList.splitBy joins := by
  have hjoin : ∀ x ∈ s.toList.getLast?, ∀ y ∈ t.toList.head?, joins x y = false := by
    intro x hx y hy
    rcases h with h | h
    · exact joins_separator_left (Option.all_eq_true _ _ |>.1 h x hx) y
    · exact joins_separator_right x (Option.all_eq_true _ _ |>.1 h y hy)
  rw [String.toList_append, List.splitBy_append hjoin]

theorem Scans.append {s t : String} {vs ws : List Value} {ts us : List Token}
    (hs : Scans s vs ts) (ht : Scans t ws us) (h : endsApart s = true ∨ startsApart t = true) :
    Scans (s ++ t) (vs ++ ws) (ts ++ us) := by
  rw [Scans, tokens, splitBy_joins_append h, List.flatMap_append]
  exact bindValues_append hs ht

/-- A word is one run of characters. -/
theorem splitBy_joins_word {cs : List Char} (hne : cs ≠ [])
    (hall : ∀ c ∈ cs, isNamePart c = true) : cs.splitBy joins = [cs] := by
  refine List.splitBy_of_isChain hne (List.Pairwise.isChain ?_)
  refine List.pairwise_of_forall_mem_list fun x hx y hy => ?_
  simp [joins, hall x hx, hall y hy]

theorem scans_name {name : String} (h : isPlainName name = true) :
    Scans name [] [.name name] := by
  simp only [isPlainName, Bool.and_eq_true, List.all_eq_true, Option.isNone_iff_eq_none] at h
  obtain ⟨⟨hall, hhead⟩, hword⟩ := h
  obtain ⟨c, cs, hcs⟩ : ∃ c cs, name.toList = c :: cs := by
    cases hl : name.toList with
    | nil => simp [hl] at hhead
    | cons c cs => exact ⟨c, cs, rfl⟩
  have hc : isNamePart c = true := hall c (by simp [hcs])
  have hne : name.toList ≠ [] := by simp [hcs]
  rw [Scans, tokens, splitBy_joins_word hne hall]
  have hof : Token.ofWord name.toList = .name name := by
    rw [Token.ofWord, hword]
    simp [hhead]
  rw [hcs] at hof ⊢
  simp [Token.ofRun, hc, hof, bindValues]

/-! ### The tokens of a filter -/

/-- Values with commas in front. -/
def moreValues (vs : List Value) : List Token := vs.flatMap fun v => [.comma, .value v]

def bracketed (ts : List Token) : List Token := .openParen :: ts ++ [.closeParen]

def Filter.tokens : Filter → List Token
  | compare field op v => [.name field, .comparison op, .value v]
  | isNull field => [.name field, .keyword .is, .keyword .null]
  | isNotNull field => [.name field, .keyword .is, .keyword .not, .keyword .null]
  | inList _ [] => [.value (.int 1), .comparison .eq, .value (.int 0)]
  | inList field (v :: vs) => .name field :: .keyword .in :: bracketed (.value v :: moreValues vs)
  | notInList _ [] => [.value (.int 1), .comparison .eq, .value (.int 1)]
  | notInList field (v :: vs) =>
    .name field :: .keyword .not :: .keyword .in :: bracketed (.value v :: moreValues vs)
  | like field pattern => [.name field, .keyword .like, .value (.text pattern)]
  | between field low high =>
    [.name field, .keyword .between, .value low, .keyword .and, .value high]
  | and left right => bracketed left.tokens ++ .keyword .and :: bracketed right.tokens
  | or left right => bracketed left.tokens ++ .keyword .or :: bracketed right.tokens
  | not inner => .keyword .not :: bracketed inner.tokens
  | nothing => [.value (.int 1), .comparison .eq, .value (.int 0)]

/-- A text between an opening that ends in a bracket and a closing that starts with one. -/
theorem Scans.bracket {opening text closing : String} {vs ws : List Value}
    (before : List Token) {ts after : List Token}
    (hopen : Scans opening vs (before ++ [.openParen])) (htext : Scans text ws ts)
    (hclose : Scans closing [] (.closeParen :: after))
    (hends : endsApart opening = true) (hstarts : startsApart closing = true) :
    Scans (opening ++ text ++ closing) (vs ++ ws) (before ++ bracketed ts ++ after) := by
  have h := (hopen.append htext (.inl hends)).append hclose (.inr hstarts)
  simpa [bracketed] using h

theorem scans_placeholders (v : Value) (vs : List Value) :
    Scans (placeholders (v :: vs)) (v :: vs) (.value v :: moreValues vs) := by
  have hone : ∀ v : Value, Scans "?" [v] [.value v] := fun _ => rfl
  induction vs generalizing v with
  | nil =>
    rw [placeholders, List.map_singleton, String.intercalate_singleton]
    exact hone v
  | cons w ws ih =>
    have hcomma : Scans ", " [] [.comma] := rfl
    have hfront : Scans ("?" ++ ", ") [v] [.value v, .comma] :=
      (hone v).append hcomma (.inr (by decide))
    have htext : placeholders (v :: w :: ws) = "?" ++ ", " ++ placeholders (w :: ws) := by
      simp [placeholders]
    rw [htext]
    exact hfront.append (ih w) (.inl (by decide))

theorem scans_closing : Scans ")" [] [.closeParen] := rfl

theorem Scans.afterName {field rest : String} {vs : List Value} {ts : List Token}
    (h : isPlainName field = true) (hrest : Scans rest vs ts) (hstarts : startsApart rest = true) :
    Scans (field ++ rest) vs (.name field :: ts) :=
  (scans_name h).append hrest (.inr hstarts)

/-- **The text of a filter over plain names scans to the tokens of the filter.** -/
theorem scans_text {f : Filter} (h : ∀ name ∈ f.fields, isPlainName name = true) :
    Scans f.text f.params f.tokens := by
  induction f with
  | compare field op v =>
    have hblank : Scans " " [] [] := rfl
    have hsymbol : Scans op.symbol [] [.comparison op] := by cases op <;> exact rfl
    have hvalue : Scans " ?" [v] [.value v] := rfl
    have hfront := hblank.afterName (h field (by simp [Filter.fields])) (by decide)
    have hends := endsApart_append field (t := " ") (by decide) (by decide)
    exact (hfront.append hsymbol (.inl hends)).append hvalue (.inr (by decide))
  | isNull field =>
    have hrest : Scans " IS NULL" [] [.keyword .is, .keyword .null] := rfl
    exact hrest.afterName (h field (by simp [Filter.fields])) (by decide)
  | isNotNull field =>
    have hrest : Scans " IS NOT NULL" [] [.keyword .is, .keyword .not, .keyword .null] := rfl
    exact hrest.afterName (h field (by simp [Filter.fields])) (by decide)
  | inList field vs =>
    cases vs with
    | nil =>
      rw [Filter.text, Filter.params, Filter.tokens]
      exact rfl
    | cons v vs =>
      have hopen : Scans " IN (" [] [.keyword .in, .openParen] := rfl
      have hfront := hopen.afterName (h field (by simp [Filter.fields])) (by decide)
      have hends := endsApart_append field (t := " IN (") (by decide) (by decide)
      have hlist := Scans.bracket [.name field, .keyword .in] hfront
        (scans_placeholders v vs) scans_closing hends (by decide)
      simpa [Filter.text, Filter.params, Filter.tokens] using hlist
  | notInList field vs =>
    cases vs with
    | nil =>
      rw [Filter.text, Filter.params, Filter.tokens]
      exact rfl
    | cons v vs =>
      have hopen : Scans " NOT IN (" [] [.keyword .not, .keyword .in, .openParen] := rfl
      have hfront := hopen.afterName (h field (by simp [Filter.fields])) (by decide)
      have hends := endsApart_append field (t := " NOT IN (") (by decide) (by decide)
      have hlist := Scans.bracket [.name field, .keyword .not, .keyword .in] hfront
        (scans_placeholders v vs) scans_closing hends (by decide)
      simpa [Filter.text, Filter.params, Filter.tokens] using hlist
  | like field pattern =>
    have hrest : Scans " LIKE ?" [.text pattern] [.keyword .like, .value (.text pattern)] := rfl
    exact hrest.afterName (h field (by simp [Filter.fields])) (by decide)
  | between field low high =>
    have hrest : Scans " BETWEEN ? AND ?" [low, high]
        [.keyword .between, .value low, .keyword .and, .value high] := rfl
    exact hrest.afterName (h field (by simp [Filter.fields])) (by decide)
  | and left right ihl ihr =>
    have hopen : Scans "(" [] ([] ++ [.openParen]) := rfl
    have hmiddle : Scans ") AND (" [] [.closeParen, .keyword .and, .openParen] := rfl
    have hl := ihl fun name hn => h name (by simp [Filter.fields, hn])
    have hr := ihr fun name hn => h name (by simp [Filter.fields, hn])
    have hfront := hopen.bracket [] hl hmiddle (by decide) (by decide)
    have hends := endsApart_append ("(" ++ left.text) (t := ") AND (") (by decide) (by decide)
    have hboth := Scans.bracket (bracketed left.tokens ++ [.keyword .and])
      (by simpa using hfront) hr scans_closing hends (by decide)
    simpa [Filter.text, Filter.params, Filter.tokens] using hboth
  | or left right ihl ihr =>
    have hopen : Scans "(" [] ([] ++ [.openParen]) := rfl
    have hmiddle : Scans ") OR (" [] [.closeParen, .keyword .or, .openParen] := rfl
    have hl := ihl fun name hn => h name (by simp [Filter.fields, hn])
    have hr := ihr fun name hn => h name (by simp [Filter.fields, hn])
    have hfront := hopen.bracket [] hl hmiddle (by decide) (by decide)
    have hends := endsApart_append ("(" ++ left.text) (t := ") OR (") (by decide) (by decide)
    have hboth := Scans.bracket (bracketed left.tokens ++ [.keyword .or])
      (by simpa using hfront) hr scans_closing hends (by decide)
    simpa [Filter.text, Filter.params, Filter.tokens] using hboth
  | not inner ih =>
    have hopen : Scans "NOT (" [] ([.keyword .not] ++ [.openParen]) := rfl
    have hinner := hopen.bracket [.keyword .not] (ih h) scans_closing (by decide) (by decide)
    simpa [Filter.text, Filter.params, Filter.tokens] using hinner
  | nothing => exact rfl

/-! ### Rules of the grammar -/

section
variable {n : Nat} {ts us rest : List Token} {c d : Condition}

theorem disjunction?_or (h : conjunction? n ts = some (c, .keyword .or :: us))
    (h' : disjunction? n us = some (d, rest)) :
    disjunction? (n + 1) ts = some (.or c d, rest) := by
  simp [disjunction?, h, h']

theorem disjunction?_of_conjunction? (h : conjunction? n ts = some (c, rest))
    (hrest : rest.head? ≠ some (.keyword .or)) : disjunction? (n + 1) ts = some (c, rest) := by
  rw [disjunction?, h]
  cases rest with
  | nil => rfl
  | cons t rest =>
    dsimp only [bind, Option.bind]
    split
    · simp_all
    · rfl

theorem conjunction?_and (h : negation? n ts = some (c, .keyword .and :: us))
    (h' : conjunction? n us = some (d, rest)) :
    conjunction? (n + 1) ts = some (.and c d, rest) := by
  simp [conjunction?, h, h']

theorem conjunction?_of_negation? (h : negation? n ts = some (c, rest))
    (hrest : rest.head? ≠ some (.keyword .and)) : conjunction? (n + 1) ts = some (c, rest) := by
  rw [conjunction?, h]
  cases rest with
  | nil => rfl
  | cons t rest =>
    dsimp only [bind, Option.bind]
    split
    · simp_all
    · rfl

theorem negation?_not (h : negation? n ts = some (c, rest)) :
    negation? (n + 1) (.keyword .not :: ts) = some (.not c, rest) := by
  simp [negation?, h]

theorem negation?_bracketed
    (h : disjunction? n (ts ++ .closeParen :: rest) = some (c, .closeParen :: rest)) :
    negation? (n + 1) (bracketed ts ++ rest) = some (c, rest) := by
  simp [negation?, bracketed, h]

end

/-! ### Operands and connectives -/

/-- A conjunction, grouped to the right. -/
def Condition.allOf : List Condition → Condition
  | [] => .compare (.value (.int 1)) .eq (.value (.int 1))
  | [c] => c
  | c :: d :: cs => .and c (allOf (d :: cs))

/-- A disjunction, grouped to the right. -/
def Condition.anyOf : List Condition → Condition
  | [] => .compare (.value (.int 1)) .eq (.value (.int 0))
  | [c] => c
  | c :: d :: cs => .or c (anyOf (d :: cs))

/-- What a connective may stand beside: tokens with the condition that they are read as. -/
abbrev Clause : Type := List Token × Condition

/-- The tokens are read as the condition, whatever follows. -/
def Clause.Reads (c : Clause) : Prop :=
  ∀ n rest, 3 * c.1.length ≤ n + 2 → negation? n (c.1 ++ rest) = some (c.2, rest)

/-- Clauses with AND between them. -/
def spellAnd (cs : List Clause) : List Token := [.keyword .and].intercalate (cs.map Prod.fst)

/-- Conjunctions of clauses with OR between them. -/
def spellOr (gs : List (List Clause)) : List Token := [.keyword .or].intercalate (gs.map spellAnd)

/-- What conjunctions of clauses with OR between them are read as. -/
def readOr (gs : List (List Clause)) : Condition :=
  .anyOf (gs.map fun g => .allOf (g.map Prod.snd))

theorem Clause.Reads.length_pos {c : Clause} (h : c.Reads) : 0 < c.1.length := by
  rcases Nat.eq_zero_or_pos c.1.length with h0 | hpos
  · have := h 0 [] (by omega)
    simp [negation?] at this
  · exact hpos

theorem spellAnd_cons_cons (c d : Clause) (cs : List Clause) :
    spellAnd (c :: d :: cs) = c.1 ++ .keyword .and :: spellAnd (d :: cs) := by
  simp [spellAnd]

theorem spellOr_cons_cons (g g' : List Clause) (gs : List (List Clause)) :
    spellOr (g :: g' :: gs) = spellAnd g ++ .keyword .or :: spellOr (g' :: gs) := by
  simp [spellOr]

theorem conjunction?_spellAnd (c : Clause) (cs : List Clause) (h : ∀ x ∈ c :: cs, x.Reads)
    {n : Nat} (rest : List Token) (hn : 3 * (spellAnd (c :: cs)).length ≤ n + 1)
    (hrest : rest.head? ≠ some (.keyword .and)) :
    conjunction? n (spellAnd (c :: cs) ++ rest) = some (.allOf ((c :: cs).map Prod.snd), rest) := by
  have hc := h c (by simp)
  have hpos := hc.length_pos
  induction cs generalizing c n with
  | nil =>
    have hone : spellAnd [c] = c.1 := by simp [spellAnd]
    rw [hone] at hn ⊢
    obtain ⟨n, rfl⟩ : ∃ k, n = k + 1 := ⟨n - 1, by omega⟩
    exact conjunction?_of_negation? (hc n rest (by omega)) hrest
  | cons d ds ih =>
    have hd := h d (by simp)
    rw [spellAnd_cons_cons] at hn ⊢
    rw [List.length_append, List.length_cons] at hn
    obtain ⟨n, rfl⟩ : ∃ k, n = k + 1 := ⟨n - 1, by omega⟩
    have hfirst := hc n (.keyword .and :: (spellAnd (d :: ds) ++ rest)) (by omega)
    have hmore := ih d (fun x hx => h x (List.mem_cons_of_mem _ hx)) (n := n) (by omega) hd
      hd.length_pos
    rw [List.append_assoc, List.cons_append]
    exact conjunction?_and hfirst hmore

theorem spellAnd_length_pos {g : List Clause} (hne : g ≠ []) (h : ∀ c ∈ g, c.Reads) :
    0 < (spellAnd g).length := by
  obtain ⟨c, cs, rfl⟩ := List.exists_cons_of_ne_nil hne
  have hpos := (h c (by simp)).length_pos
  cases cs with
  | nil => simpa [spellAnd] using hpos
  | cons d ds =>
    rw [spellAnd_cons_cons, List.length_append]
    omega

theorem disjunction?_spellOr (g : List Clause) (gs : List (List Clause))
    (hne : ∀ x ∈ g :: gs, x ≠ []) (h : ∀ x ∈ g :: gs, ∀ c ∈ x, c.Reads)
    {n : Nat} (rest : List Token) (hn : 3 * (spellOr (g :: gs)).length ≤ n)
    (hand : rest.head? ≠ some (.keyword .and)) (hor : rest.head? ≠ some (.keyword .or)) :
    disjunction? n (spellOr (g :: gs) ++ rest) = some (readOr (g :: gs), rest) := by
  induction gs generalizing g n with
  | nil =>
    obtain ⟨c, cs, rfl⟩ := List.exists_cons_of_ne_nil (hne g (by simp))
    have hpos := spellAnd_length_pos (hne (c :: cs) (by simp)) (h (c :: cs) (by simp))
    have hone : spellOr [c :: cs] = spellAnd (c :: cs) := by simp [spellOr]
    rw [hone] at hn ⊢
    obtain ⟨n, rfl⟩ : ∃ k, n = k + 1 := ⟨n - 1, by omega⟩
    exact disjunction?_of_conjunction?
      (conjunction?_spellAnd c cs (h _ (by simp)) rest (by omega) hand) hor
  | cons g' gs ih =>
    obtain ⟨c, cs, rfl⟩ := List.exists_cons_of_ne_nil (hne g (by simp))
    have hpos := spellAnd_length_pos (hne (c :: cs) (by simp)) (h (c :: cs) (by simp))
    rw [spellOr_cons_cons] at hn ⊢
    rw [List.length_append, List.length_cons] at hn
    obtain ⟨n, rfl⟩ : ∃ k, n = k + 1 := ⟨n - 1, by omega⟩
    have hfirst := conjunction?_spellAnd c cs (h _ (by simp)) (n := n)
      (.keyword .or :: (spellOr (g' :: gs) ++ rest)) (by omega) (by simp)
    have hmore := ih g' (fun x hx => hne x (List.mem_cons_of_mem _ hx))
      (fun x hx => h x (List.mem_cons_of_mem _ hx)) (n := n) (by omega)
    rw [List.append_assoc, List.cons_append]
    exact disjunction?_or hfirst hmore

/-! ### The condition of a filter -/

def Filter.condition : Filter → Condition
  | compare field op v => .compare (.column field) op (.value v)
  | isNull field => .isNull (.column field)
  | isNotNull field => .not (.isNull (.column field))
  | inList _ [] => .compare (.value (.int 1)) .eq (.value (.int 0))
  | inList field (v :: vs) => .among (.column field) ((v :: vs).map .value)
  | notInList _ [] => .compare (.value (.int 1)) .eq (.value (.int 1))
  | notInList field (v :: vs) => .not (.among (.column field) ((v :: vs).map .value))
  | like field pattern => .like (.column field) (.value (.text pattern))
  | between field low high => .between (.column field) (.value low) (.value high)
  | and left right => .and left.condition right.condition
  | or left right => .or left.condition right.condition
  | not inner => .not inner.condition
  | nothing => .compare (.value (.int 1)) .eq (.value (.int 0))

/-- **The condition read for a filter has the truth of the filter.** -/
theorem truth_condition (d : Dialect) (row : Columns) (f : Filter) :
    f.condition.truth d row = f.truth d row := by
  induction f with
  | inList field vs =>
    cases vs with
    | nil => simp [Filter.condition, Filter.truth, Condition.truth, Operand.eval, Dialect.among,
        Dialect.compare_int, Comparison.onInts, Truth.ofBool]
    | cons v vs => simp [Filter.condition, Filter.truth, Condition.truth, Operand.eval,
        Function.comp_def]
  | notInList field vs =>
    cases vs with
    | nil => simp [Filter.condition, Filter.truth, Condition.truth, Operand.eval, Dialect.among,
        Dialect.compare_int, Comparison.onInts, Truth.ofBool, Truth.not]
    | cons v vs => simp [Filter.condition, Filter.truth, Condition.truth, Operand.eval,
        Function.comp_def]
  | nothing =>
    simp [Filter.condition, Filter.truth, Condition.truth, Operand.eval, Dialect.compare_int,
      Comparison.onInts, Truth.ofBool]
  | and left right ihl ihr => simp [Filter.condition, Filter.truth, Condition.truth, ihl, ihr]
  | or left right ihl ihr => simp [Filter.condition, Filter.truth, Condition.truth, ihl, ihr]
  | not inner ih => simp [Filter.condition, Filter.truth, Condition.truth, ih]
  | _ => rfl

theorem operands?_moreValues (v : Value) (vs : List Value) (rest : List Token) :
    operands? (.value v :: moreValues vs ++ .closeParen :: rest)
      = some ((v :: vs).map .value, rest) := by
  induction vs generalizing v with
  | nil => rfl
  | cons w ws ih =>
    have h := ih w
    simp only [moreValues, List.flatMap_cons, List.cons_append, List.nil_append] at h ⊢
    simp [operands?, operand?, h]

/-! ### Conditions joined by AND

A filter whose outermost connective is AND or OR contributes its two operands. An operand joins the
conjunction that follows it, unless an OR stands between. -/

/-- Puts an element in front of the first list. -/
def extend {α : Type} (x : α) : List (List α) → List (List α)
  | [] => [[x]]
  | g :: gs => (x :: g) :: gs

def Filter.operand (f : Filter) : Clause := (bracketed f.tokens, f.condition)

/-- The clauses of a filter in front of the clauses that it is joined to by AND. -/
def Filter.prepend : Filter → List (List Clause) → List (List Clause)
  | and left right, gs => extend left.operand (extend right.operand gs)
  | or left right, gs => [left.operand] :: extend right.operand gs
  | f, gs => extend (f.tokens, f.condition) gs

/-- No conjunction is empty. -/
def Full (gs : List (List Clause)) : Prop := gs ≠ [] ∧ ∀ g ∈ gs, g ≠ []

theorem full_extend (c : Clause) {gs : List (List Clause)} (h : Full gs ∨ gs = [[]]) :
    Full (extend c gs) := by
  rcases h with ⟨hne, hall⟩ | rfl
  · obtain ⟨g, gs, rfl⟩ := List.exists_cons_of_ne_nil hne
    refine ⟨by simp [extend], fun x hx => ?_⟩
    rcases List.mem_cons.1 hx with rfl | hx
    · simp
    · exact hall x (List.mem_cons_of_mem _ hx)
  · simp [Full, extend]

theorem full_prepend (f : Filter) {gs : List (List Clause)} (h : Full gs ∨ gs = [[]]) :
    Full (f.prepend gs) := by
  cases f with
  | and left right => exact full_extend _ (.inl (full_extend _ h))
  | or left right =>
    obtain ⟨hne, hall⟩ := full_extend right.operand h
    refine ⟨by simp [Filter.prepend], fun x hx => ?_⟩
    rcases List.mem_cons.1 hx with rfl | hx
    · simp
    · exact hall x hx
  | _ => exact full_extend _ h

theorem spellOr_extend (c : Clause) {gs : List (List Clause)} (h : Full gs) :
    spellOr (extend c gs) = c.1 ++ .keyword .and :: spellOr gs := by
  obtain ⟨hne, hall⟩ := h
  obtain ⟨g, gs, rfl⟩ := List.exists_cons_of_ne_nil hne
  obtain ⟨d, ds, rfl⟩ := List.exists_cons_of_ne_nil (hall g (by simp))
  cases gs with
  | nil => simp [extend, spellOr, spellAnd_cons_cons]
  | cons g' gs => simp [extend, spellOr_cons_cons, spellAnd_cons_cons]

theorem spellOr_prepend (f : Filter) {gs : List (List Clause)} (h : Full gs) :
    spellOr (f.prepend gs) = f.tokens ++ .keyword .and :: spellOr gs := by
  cases f with
  | and left right =>
    rw [Filter.prepend, spellOr_extend _ (full_extend _ (.inl h)), spellOr_extend _ h]
    simp [Filter.operand, Filter.tokens]
  | or left right =>
    obtain ⟨g, gs', hg⟩ := List.exists_cons_of_ne_nil (full_extend right.operand (.inl h)).1
    rw [Filter.prepend, hg, spellOr_cons_cons, ← hg, spellOr_extend _ h]
    simp [Filter.operand, Filter.tokens, spellAnd]
  | _ => exact spellOr_extend _ h

theorem spellOr_prepend_nil (f : Filter) : spellOr (f.prepend [[]]) = f.tokens := by
  cases f with
  | and left right =>
    simp [Filter.prepend, extend, spellOr, spellAnd, Filter.operand, Filter.tokens]
  | or left right =>
    simp [Filter.prepend, extend, spellOr, spellAnd, Filter.operand, Filter.tokens]
  | _ => simp [Filter.prepend, extend, spellOr, spellAnd]

theorem readOr_prepend_nil (f : Filter) : readOr (f.prepend [[]]) = f.condition := by
  cases f <;> rfl

def AllRead (gs : List (List Clause)) : Prop := ∀ g ∈ gs, ∀ c ∈ g, c.Reads

theorem allRead_extend {c : Clause} {gs : List (List Clause)} (hc : c.Reads) (h : AllRead gs) :
    AllRead (extend c gs) := by
  intro x hx d hd
  cases gs with
  | nil =>
    rw [List.mem_singleton.1 hx] at hd
    rwa [List.mem_singleton.1 hd]
  | cons g gs =>
    rcases List.mem_cons.1 hx with rfl | hx
    · rcases List.mem_cons.1 hd with rfl | hd
      · exact hc
      · exact h g (by simp) d hd
    · exact h x (List.mem_cons_of_mem _ hx) d hd

theorem allRead_nil : AllRead [[]] := by simp [AllRead]

/-- What is read for clauses, given that nothing more of a condition follows. -/
theorem disjunction?_of_allRead {gs : List (List Clause)} (hfull : Full gs) (h : AllRead gs)
    {n : Nat} (rest : List Token) (hn : 3 * (spellOr gs).length ≤ n)
    (hand : rest.head? ≠ some (.keyword .and)) (hor : rest.head? ≠ some (.keyword .or)) :
    disjunction? n (spellOr gs ++ rest) = some (readOr gs, rest) := by
  obtain ⟨g, gs, rfl⟩ := List.exists_cons_of_ne_nil hfull.1
  exact disjunction?_spellOr g gs hfull.2 h rest hn hand hor

theorem reads_operand {f : Filter} (h : AllRead (f.prepend [[]])) : f.operand.Reads := by
  intro n rest hn
  rw [Filter.operand, bracketed, List.length_append, List.length_cons] at hn
  simp only [List.length_cons, List.length_nil] at hn
  obtain ⟨n, rfl⟩ : ∃ k, n = k + 1 := ⟨n - 1, by omega⟩
  refine negation?_bracketed ?_
  have hread := disjunction?_of_allRead (full_prepend f (.inr rfl)) h (n := n)
    (.closeParen :: rest) (by rw [spellOr_prepend_nil]; omega) (by simp) (by simp)
  rwa [spellOr_prepend_nil, readOr_prepend_nil] at hread

/-- A predicate is read by itself. -/
theorem reads_of_predicate? {ts : List Token} {c : Condition}
    (hlen : 0 < ts.length)
    (h : ∀ n rest, negation? (n + 1) (ts ++ rest) = some (c, rest)) :
    Clause.Reads (ts, c) := by
  intro n rest hn
  simp only at hn
  obtain ⟨n, rfl⟩ : ∃ k, n = k + 1 := ⟨n - 1, by omega⟩
  exact h n rest

/-- **Every clause of a filter is read as its condition.** -/
theorem allRead_prepend (f : Filter) {gs : List (List Clause)} (h : AllRead gs) :
    AllRead (f.prepend gs) := by
  induction f generalizing gs with
  | and left right ihl ihr =>
    have hl := reads_operand (ihl allRead_nil)
    have hr := reads_operand (ihr allRead_nil)
    exact allRead_extend hl (allRead_extend hr h)
  | or left right ihl ihr =>
    have hl := reads_operand (ihl allRead_nil)
    have hr := reads_operand (ihr allRead_nil)
    intro x hx c hc
    rcases List.mem_cons.1 hx with rfl | hx
    · rwa [List.mem_singleton.1 hc]
    · exact allRead_extend hr h x hx c hc
  | not inner ih =>
    refine allRead_extend (fun n rest hn => ?_) h
    have hi := reads_operand (ih allRead_nil)
    simp only [Filter.tokens, List.length_cons] at hn
    obtain ⟨n, rfl⟩ : ∃ k, n = k + 1 := ⟨n - 1, by omega⟩
    exact negation?_not (hi n rest (by simp only [Filter.operand]; omega))
  | inList field vs =>
    refine allRead_extend ?_ h
    cases vs with
    | nil =>
      rw [Filter.tokens, Filter.condition]
      refine reads_of_predicate? (by simp) fun n rest => ?_
      simp [negation?, predicate?, operand?]
    | cons v vs =>
      rw [Filter.tokens, Filter.condition]
      refine reads_of_predicate? (by simp) fun n rest => ?_
      have hlist := operands?_moreValues v vs rest
      simp only [bracketed, List.cons_append, List.append_assoc, List.nil_append] at hlist ⊢
      simp [negation?, predicate?, operand?, hlist]
  | notInList field vs =>
    refine allRead_extend ?_ h
    cases vs with
    | nil =>
      rw [Filter.tokens, Filter.condition]
      refine reads_of_predicate? (by simp) fun n rest => ?_
      simp [negation?, predicate?, operand?]
    | cons v vs =>
      rw [Filter.tokens, Filter.condition]
      refine reads_of_predicate? (by simp) fun n rest => ?_
      have hlist := operands?_moreValues v vs rest
      simp only [bracketed, List.cons_append, List.append_assoc, List.nil_append] at hlist ⊢
      simp [negation?, predicate?, operand?, hlist]
  | _ =>
    refine allRead_extend (reads_of_predicate? (by simp [Filter.tokens]) fun n rest => ?_) h
    simp [Filter.tokens, Filter.condition, negation?, predicate?, operand?]

end EntityGraph.Sql
