import EntityGraph.Proofs.Sql.Reading

/-!
# What a WHERE clause means

The conditions of a scope are written one after the other with AND between them, and without
brackets around them. A condition whose outermost connective is OR therefore falls apart: its left
operand ends one conjunction and its right operand starts the next. `alternatives` lists the
conjunctions that result, and `whereText_truth` says

* that the clause accepts a row just if one of them holds (for every scope and row);
* that this is the conjunction of all filters and negated excludes as long as no filter is an OR
  next to another condition (`isConjunctive`), and that for scopes of any other form it is not;
* that a further filter can only make a scope stricter unless the filter is such an OR.
-/

namespace EntityGraph.Sql

/-! ### Reading the clause -/

/-- The clauses of conditions joined by AND. -/
def clausesOf (fs : List Filter) : List (List Clause) := fs.foldr Filter.prepend [[]]

theorem full_clausesOf (f : Filter) (fs : List Filter) : Full (clausesOf (f :: fs)) := by
  induction fs generalizing f with
  | nil => exact full_prepend f (.inr rfl)
  | cons g fs ih => exact full_prepend f (.inl (ih g))

theorem allRead_clausesOf (fs : List Filter) : AllRead (clausesOf fs) := by
  induction fs with
  | nil => exact allRead_nil
  | cons f fs ih => exact allRead_prepend f ih

theorem scans_conditions (f : Filter) (fs : List Filter)
    (h : ∀ name ∈ (f :: fs).flatMap Filter.fields, isPlainName name = true) :
    Scans (" AND ".intercalate ((f :: fs).map Filter.text)) ((f :: fs).flatMap Filter.params)
      (spellOr (clausesOf (f :: fs))) := by
  have hf := scans_text fun name hn => h name (List.mem_flatMap.2 ⟨f, by simp, hn⟩)
  induction fs generalizing f with
  | nil =>
    have htokens : spellOr (clausesOf [f]) = f.tokens := spellOr_prepend_nil f
    simpa [htokens] using hf
  | cons g fs ih =>
    have hand : Scans " AND " [] [.keyword .and] := rfl
    have hg := scans_text fun name hn => h name (List.mem_flatMap.2 ⟨g, by simp, hn⟩)
    have hrest := ih g (fun name hn => h name (List.mem_append_right _ hn)) hg
    have hfront := hf.append hand (.inr (by decide))
    have hends := endsApart_append f.text (t := " AND ") (by decide) (by decide)
    have hall := hfront.append hrest (.inl hends)
    have htokens : spellOr (clausesOf (f :: g :: fs))
        = f.tokens ++ .keyword .and :: spellOr (clausesOf (g :: fs)) :=
      spellOr_prepend f (full_clausesOf g fs)
    simpa [htokens, String.intercalate_cons_cons] using hall

/-- What is read for the conditions of a scope. -/
def clauseOf (fs : List Filter) : Option Condition :=
  if fs.isEmpty then none else some (readOr (clausesOf fs))

/-- **Reading a WHERE clause succeeds, with the clauses of all conditions joined by AND.** -/
theorem readWhere_whereText (s : Scope)
    (h : ∀ name ∈ s.conditionFilters.flatMap Filter.fields, isPlainName name = true) :
    readWhere s.whereText s.params = some (clauseOf s.conditionFilters) := by
  rw [Scope.params_eq, Scope.whereText, Scope.conditions_eq]
  cases hfs : s.conditionFilters with
  | nil => rfl
  | cons f fs =>
    rw [hfs] at h
    have hwhere : Scans " WHERE " [] [.keyword .where] := rfl
    have hscan : bindValues _ _ = _ := hwhere.append (scans_conditions f fs h) (.inl (by decide))
    have hread := disjunction?_of_allRead (full_clausesOf f fs) (allRead_clausesOf (f :: fs)) []
      (Nat.le_refl _) (by simp) (by simp)
    rw [List.append_nil] at hread
    rw [List.map_cons, List.isEmpty_cons, if_neg (by simp), readWhere, ← List.map_cons]
    rw [List.nil_append] at hscan
    rw [hscan]
    show some <$> condition? (spellOr (clausesOf (f :: fs))) = _
    rw [condition?, hread]
    rfl

/-! ### The truth of what is read -/

/-- The truth of each conjunction. -/
def weigh {α : Type} (v : α → Truth) (gs : List (List α)) : List Truth :=
  gs.map fun g => .all (g.map v)

/-- Adds a condition to the first conjunction. -/
def meet (t : Truth) : List Truth → List Truth
  | [] => [t]
  | u :: us => t.and u :: us

theorem weigh_extend {α : Type} (v : α → Truth) (x : α) (gs : List (List α)) :
    weigh v (extend x gs) = meet (v x) (weigh v gs) := by
  cases gs with
  | nil => simp [weigh, extend, meet]
  | cons g gs => rfl

theorem weigh_cons {α : Type} (v : α → Truth) (g : List α) (gs : List (List α)) :
    weigh v (g :: gs) = .all (g.map v) :: weigh v gs := rfl

theorem meet_and (t u : Truth) (us : List Truth) : meet (t.and u) us = meet t (meet u us) := by
  cases us with
  | nil => rfl
  | cons v us => simp [meet, Truth.and_assoc]

theorem truth_allOf (d : Dialect) (row : Columns) (cs : List Condition) :
    (Condition.allOf cs).truth d row = .all (cs.map (·.truth d row)) := by
  fun_induction Condition.allOf cs with
  | case1 => simp [Condition.truth, Operand.eval, Dialect.compare_int, Comparison.onInts,
      Truth.ofBool]
  | case2 c => simp
  | case3 c e cs ih => simp [Condition.truth, ih]

theorem truth_anyOf (d : Dialect) (row : Columns) (cs : List Condition) :
    (Condition.anyOf cs).truth d row = .any (cs.map (·.truth d row)) := by
  fun_induction Condition.anyOf cs with
  | case1 => simp [Condition.truth, Operand.eval, Dialect.compare_int, Comparison.onInts,
      Truth.ofBool]
  | case2 c => simp
  | case3 c e cs ih => simp [Condition.truth, ih]

theorem truth_readOr (d : Dialect) (row : Columns) (gs : List (List Clause)) :
    (readOr gs).truth d row = .any (weigh (fun c => c.2.truth d row) gs) := by
  simp [readOr, truth_anyOf, weigh, truth_allOf, Function.comp_def]

/-- The conjunctions that conditions joined by AND without brackets fall into. -/
def alternatives : List Filter → List (List Filter)
  | [] => [[]]
  | .or left right :: fs => [left] :: extend right (alternatives fs)
  | f :: fs => extend f (alternatives fs)

theorem weigh_clausesOf (d : Dialect) (row : Columns) (fs : List Filter) :
    weigh (fun c => c.2.truth d row) (clausesOf fs)
      = weigh (·.truth d row) (alternatives fs) := by
  induction fs with
  | nil => rfl
  | cons f fs ih =>
    show weigh _ (f.prepend (clausesOf fs)) = _
    cases f with
    | and left right =>
      rw [Filter.prepend, weigh_extend, weigh_extend, ih, alternatives, weigh_extend]
      · simp [Filter.operand, truth_condition, Filter.truth, meet_and]
      · simp
    | or left right =>
      rw [Filter.prepend, weigh_cons, weigh_extend, ih, alternatives, weigh_cons, weigh_extend]
      simp [Filter.operand, truth_condition]
    | _ =>
      rw [Filter.prepend, weigh_extend, ih, truth_condition, alternatives, weigh_extend]
      all_goals simp

namespace Scope

/-- The truth of the WHERE clause on a row, none if the clause cannot be read. -/
def textTruth (d : Dialect) (row : Columns) (s : Scope) : Option Truth :=
  (readWhere s.whereText s.params).map (clauseTruth d row)

/-- Whether one of the alternatives holds. -/
def alternativesTruth (d : Dialect) (row : Columns) (s : Scope) : Truth :=
  .any (weigh (·.truth d row) (alternatives s.conditionFilters))

/-- All names that the conditions hold are plain. -/
def isPlain (s : Scope) : Bool := (s.conditionFilters.flatMap Filter.fields).all isPlainName

theorem textTruth_eq (d : Dialect) (row : Columns) {s : Scope} (h : s.isPlain = true) :
    s.textTruth d row = some (s.alternativesTruth d row) := by
  rw [textTruth, readWhere_whereText s (List.all_eq_true.1 h), Option.map_some, alternativesTruth,
    clauseOf]
  cases s.conditionFilters with
  | nil => rfl
  | cons f fs =>
    rw [← weigh_clausesOf, ← truth_readOr]
    rfl

end Scope

/-! ### Scopes that are read as a conjunction -/

def Filter.isOr : Filter → Bool
  | or _ _ => true
  | _ => false

theorem alternatives_cons {f : Filter} (h : f.isOr = false) (fs : List Filter) :
    alternatives (f :: fs) = extend f (alternatives fs) := by
  cases f with
  | or left right => simp [Filter.isOr] at h
  | _ => rfl

theorem alternatives_of_no_or {fs : List Filter} (h : ∀ f ∈ fs, f.isOr = false) :
    alternatives fs = [fs] := by
  induction fs with
  | nil => rfl
  | cons f fs ih =>
    rw [alternatives_cons (h f (by simp)), ih fun g hg => h g (List.mem_cons_of_mem _ hg)]
    rfl

/-- Conditions before an OR join its left operand. -/
theorem alternatives_append_or {fs : List Filter} (h : ∀ f ∈ fs, f.isOr = false)
    (left right : Filter) (gs : List Filter) :
    alternatives (fs ++ .or left right :: gs)
      = (fs ++ [left]) :: extend right (alternatives gs) := by
  induction fs with
  | nil => rfl
  | cons f fs ih =>
    rw [List.cons_append, alternatives_cons (h f (by simp)),
      ih fun g hg => h g (List.mem_cons_of_mem _ hg)]
    rfl

namespace Scope

/-- No filter is an OR next to another condition. -/
def isConjunctive (s : Scope) : Bool :=
  s.conditionFilters.length ≤ 1 || !s.filters.any Filter.isOr

theorem alternativesTruth_eq (d : Dialect) (row : Columns) {s : Scope}
    (h : s.isConjunctive = true) : s.alternativesTruth d row = s.truth d row := by
  simp only [isConjunctive, Bool.or_eq_true, decide_eq_true_eq, Bool.not_eq_true',
    List.any_eq_false] at h
  rw [alternativesTruth, truth]
  rcases h with hlen | hor
  · rcases hfs : s.conditionFilters with _ | ⟨f, _ | ⟨g, fs⟩⟩
    · rfl
    · cases f with
      | or left right => simp [alternatives, extend, weigh, Filter.truth]
      | _ => simp [alternatives, extend, weigh]
    · rw [hfs] at hlen
      simp at hlen
  · have hall : ∀ f ∈ s.conditionFilters, f.isOr = false := by
      intro f hf
      rcases List.mem_append.1 hf with hf | hf
      · simpa using hor f hf
      · obtain ⟨g, -, rfl⟩ := List.mem_map.1 hf
        rfl
    rw [alternatives_of_no_or hall]
    simp [weigh]

/-! ### Every other form has a scope that is read wrongly -/

/-- Filters of two scopes are OR at the same places, and there are as many excludes. -/
def SameForm (s t : Scope) : Prop :=
  s.filters.map Filter.isOr = t.filters.map Filter.isOr ∧ s.excludes.length = t.excludes.length

end Scope

/-- A filter that accepts every row or none, with an OR outermost if there is to be one. -/
def Filter.constant (hasOr accepts : Bool) : Filter :=
  let f := if accepts then notInList "a" [] else nothing
  if hasOr then or f f else f

@[simp] theorem isOr_constant (hasOr accepts : Bool) :
    (Filter.constant hasOr accepts).isOr = hasOr := by
  cases hasOr <;> cases accepts <;> rfl

@[simp] theorem truth_constant (d : Dialect) (row : Columns) (hasOr accepts : Bool) :
    (Filter.constant hasOr accepts).truth d row = .ofBool accepts := by
  cases hasOr <;> cases accepts <;> rfl

theorem isPlainName_constant {hasOr accepts : Bool} {name : String}
    (h : name ∈ (Filter.constant hasOr accepts).fields) : isPlainName name = true := by
  have hname : name = "a" := by
    cases hasOr <;> cases accepts <;> simp_all [Filter.constant, Filter.fields]
  rw [hname]
  decide

namespace Scope

/-- A scope of a given form: its conditions accept every row up to the one OR and none after it, or
the other way round if nothing comes after it. -/
def misread (before after : List Filter) (excludes : List Filter) : Scope :=
  let accepts := !(after.isEmpty && excludes.isEmpty)
  { filters := before.map (fun f => .constant f.isOr accepts)
      ++ .constant true true :: after.map fun f => .constant f.isOr false
    excludes := excludes.map fun _ => .constant false true }

theorem isPlain_misread (before after excludes : List Filter) :
    (misread before after excludes).isPlain = true := by
  rw [isPlain, List.all_eq_true]
  intro name h
  simp only [misread, conditionFilters, List.flatMap_append, List.flatMap_map, List.flatMap_cons,
    List.mem_append, List.mem_flatMap, Filter.fields] at h
  rcases h with (⟨f, -, h⟩ | h | ⟨f, -, h⟩) | ⟨f, -, h⟩ <;> exact isPlainName_constant h

theorem textTruth_misread (d : Dialect) (row : Columns) {before : List Filter}
    (hbefore : ∀ f ∈ before, f.isOr = false) (after excludes : List Filter) :
    (misread before after excludes).textTruth d row = some .holds := by
  rw [textTruth_eq d row (isPlain_misread before after excludes), alternativesTruth]
  simp only [misread, conditionFilters, List.append_assoc, List.cons_append]
  have hno : ∀ accepts, ∀ f ∈ before.map (fun f => Filter.constant f.isOr accepts),
      f.isOr = false := by
    intro accepts f hf
    obtain ⟨g, hg, rfl⟩ := List.mem_map.1 hf
    simpa using hbefore g hg
  rw [show Filter.constant true true
    = .or (.constant false true) (.constant false true) from rfl,
    alternatives_append_or (hno _), weigh_cons, Truth.any_cons, Option.some_inj,
    Truth.or_eq_holds]
  by_cases hlast : (after.isEmpty && excludes.isEmpty) = true
  · -- the right operand of the OR stands alone
    right
    simp only [Bool.and_eq_true, List.isEmpty_iff] at hlast
    obtain ⟨rfl, rfl⟩ := hlast
    simp [alternatives, extend, weigh, Truth.ofBool]
  · -- everything up to the left operand holds
    left
    rw [Truth.all_eq_holds]
    intro t ht
    simp only [Bool.not_eq_true] at hlast
    simp only [hlast, Bool.not_false, List.map_append, List.map_map, List.mem_append,
      List.mem_map, Function.comp_apply, truth_constant, List.map_cons, List.map_nil,
      List.mem_singleton] at ht
    rcases ht with ⟨f, -, rfl⟩ | rfl <;> rfl

theorem truth_misread (d : Dialect) (row : Columns) (before after excludes : List Filter)
    (h : before ≠ [] ∨ after ≠ [] ∨ excludes ≠ []) :
    (misread before after excludes).truth d row = .fails := by
  rw [truth, Truth.all_eq_fails]
  simp only [misread, conditionFilters, List.map_append, List.map_cons, List.map_map,
    List.mem_append, List.mem_cons, List.mem_map, Function.comp_apply, truth_constant,
    Filter.truth]
  by_cases hlast : (after.isEmpty && excludes.isEmpty) = true
  · simp only [Bool.and_eq_true, List.isEmpty_iff] at hlast
    obtain ⟨f, hf⟩ := List.exists_mem_of_ne_nil _ (h.resolve_right (by simp [hlast]))
    exact .inl (.inl ⟨f, hf, by simp [hlast, Truth.ofBool]⟩)
  · simp only [Bool.and_eq_true, List.isEmpty_iff, not_and_or] at hlast
    rcases hlast with hafter | hexcludes
    · obtain ⟨f, hf⟩ := List.exists_mem_of_ne_nil _ hafter
      exact .inl (.inr (.inr ⟨f, hf, rfl⟩))
    · obtain ⟨f, hf⟩ := List.exists_mem_of_ne_nil _ hexcludes
      exact .inr ⟨f, hf, rfl⟩

theorem exists_misread {s : Scope} (h : s.isConjunctive = false) :
    ∃ t : Scope, t.SameForm s ∧ t.isPlain = true ∧
      ∀ d row, t.textTruth d row = some .holds ∧ t.truth d row = .fails := by
  simp only [isConjunctive, Bool.or_eq_false_iff, decide_eq_false_iff_not, not_le,
    Bool.not_eq_false', List.any_eq_true] at h
  obtain ⟨hlen, hor⟩ := h
  obtain ⟨f, hfind⟩ := Option.isSome_iff_exists.1 (List.find?_isSome.2 hor)
  obtain ⟨hf, before, after, hfilters, hbefore⟩ := List.find?_eq_some_iff_append.1 hfind
  refine ⟨misread before after s.excludes, ?_, isPlain_misread .., fun d row =>
    ⟨textTruth_misread d row (by simpa using hbefore) after s.excludes,
      truth_misread d row before after s.excludes ?_⟩⟩
  · simp [SameForm, misread, hfilters, hf, Function.comp_def]
  · by_contra hnone
    simp only [not_or, not_not] at hnone
    obtain ⟨rfl, rfl, hexcludes⟩ := hnone
    simp [conditionFilters, hfilters, hexcludes] at hlen

/-- The form of a scope decides whether it is read as a conjunction. -/
theorem isConjunctive_congr {s t : Scope} (h : s.SameForm t) :
    s.isConjunctive = t.isConjunctive := by
  obtain ⟨hor, hlen⟩ := h
  have hfilters : s.filters.length = t.filters.length := by
    simpa using congrArg List.length hor
  have hany : s.filters.any Filter.isOr = t.filters.any Filter.isOr := by
    simpa using congrArg (fun bs => bs.any id) hor
  simp only [isConjunctive, conditionFilters, List.length_append, List.length_map, hfilters, hlen,
    hany]

end Scope

/-! ### Adding a filter -/

/-- Conjunctions that accept at most what others accept. -/
abbrev Stricter : List Truth → List Truth → Prop :=
  List.Forall₂ fun t u => t = .holds → u = .holds

theorem Stricter.refl (ts : List Truth) : Stricter ts ts :=
  List.forall₂_same.2 fun _ _ => id

theorem Stricter.meet {t u : Truth} (htu : t = .holds → u = .holds) {ts us : List Truth}
    (h : Stricter ts us) : Stricter (meet t ts) (meet u us) := by
  cases h with
  | nil => exact .cons htu .nil
  | cons hhead htail =>
    refine .cons (fun hand => ?_) htail
    rw [Truth.and_eq_holds] at hand ⊢
    exact ⟨htu hand.1, hhead hand.2⟩

theorem stricter_meet (t : Truth) {us : List Truth} (h : us ≠ []) : Stricter (meet t us) us := by
  cases us with
  | nil => exact absurd rfl h
  | cons u us => exact .cons (fun hand => (Truth.and_eq_holds.1 hand).2) (Stricter.refl us)

theorem Stricter.any {ts us : List Truth} (h : Stricter ts us) (hts : .any ts = Truth.holds) :
    .any us = Truth.holds := by
  induction h with
  | nil => exact hts
  | cons hhead _ ih =>
    rw [Truth.any_cons, Truth.or_eq_holds] at hts ⊢
    exact hts.imp hhead ih

theorem alternatives_ne_nil (fs : List Filter) : alternatives fs ≠ [] := by
  fun_cases alternatives fs with
  | case1 => simp
  | case2 => simp
  | case3 f fs =>
    cases alternatives fs <;> simp [extend]

/-- A filter that is not an OR joins one conjunction, wherever it is added. -/
theorem stricter_alternatives (d : Dialect) (row : Columns) {f : Filter} (hf : f.isOr = false)
    (fs gs : List Filter) :
    Stricter (weigh (·.truth d row) (alternatives (fs ++ f :: gs)))
      (weigh (·.truth d row) (alternatives (fs ++ gs))) := by
  induction fs with
  | nil =>
    rw [List.nil_append, List.nil_append, alternatives_cons hf, weigh_extend]
    exact stricter_meet _ (by simpa [weigh] using alternatives_ne_nil gs)
  | cons g fs ih =>
    cases g with
    | or left right =>
      simp only [List.cons_append, alternatives, weigh_cons, weigh_extend]
      exact .cons id (ih.meet id)
    | _ =>
      simp only [List.cons_append, alternatives, weigh_extend]
      exact ih.meet id

namespace Scope

theorem alternativesTruth_filter (d : Dialect) (row : Columns) {s : Scope} {f : Filter}
    (hf : f.isOr = false ∨ s.conditionFilters = [])
    (h : (s.filter f).alternativesTruth d row = .holds) : s.alternativesTruth d row = .holds := by
  rcases hf with hf | hempty
  · have heq : (s.filter f).conditionFilters = s.filters ++ f :: s.excludes.map .not := by
      simp [filter, conditionFilters]
    rw [alternativesTruth, heq] at h
    exact (stricter_alternatives d row hf s.filters _).any h
  · rw [alternativesTruth, hempty]
    rfl

theorem alternativesTruth_exclude (d : Dialect) (row : Columns) {s : Scope} {f : Filter}
    (h : (s.exclude f).alternativesTruth d row = .holds) : s.alternativesTruth d row = .holds := by
  have heq : (s.exclude f).conditionFilters = s.conditionFilters ++ [.not f] := by
    simp [exclude, conditionFilters]
  rw [alternativesTruth, heq] at h
  have hstricter := stricter_alternatives d row (f := .not f) rfl s.conditionFilters []
  rw [List.append_nil] at hstricter
  exact hstricter.any h

/-- **What a WHERE clause means.** -/
theorem whereText_truth (s : Scope) (hplain : s.isPlain = true) :
    (∀ d row, s.textTruth d row = some (s.alternativesTruth d row)) ∧
    ((∀ t : Scope, t.SameForm s → t.isPlain = true →
        ∀ d row, t.textTruth d row = some (t.truth d row)) ↔ s.isConjunctive = true) ∧
    (∀ f, (s.filter f).isPlain = true → (f.isOr = false ∨ s.conditionFilters = []) →
      ∀ d row, (s.filter f).textTruth d row = some .holds → s.textTruth d row = some .holds) ∧
    (∀ f, (s.exclude f).isPlain = true →
      ∀ d row, (s.exclude f).textTruth d row = some .holds → s.textTruth d row = some .holds) := by
  refine ⟨fun d row => textTruth_eq d row hplain, ⟨fun h => ?_, fun h t hform ht d row => ?_⟩,
    fun f hfplain hf d row h => ?_, fun f hfplain d row h => ?_⟩
  · by_contra hnot
    obtain ⟨t, hform, ht, hread⟩ := exists_misread (by simpa using hnot)
    obtain ⟨hholds, hfails⟩ := hread .simple fun _ => .null
    have heq := h t hform ht .simple fun _ => .null
    rw [hholds, hfails] at heq
    simp at heq
  · rw [textTruth_eq d row ht, alternativesTruth_eq d row ((isConjunctive_congr hform).trans h)]
  · rw [textTruth_eq d row hfplain, Option.some_inj] at h
    rw [textTruth_eq d row hplain, alternativesTruth_filter d row hf h]
  · rw [textTruth_eq d row hfplain, Option.some_inj] at h
    rw [textTruth_eq d row hplain, alternativesTruth_exclude d row h]

/-- A nested OR and excluded ones do not matter. -/
theorem whereText_truth_nested :
    let s : Scope :=
      { filters := [.between "age" (.int 18) (.int 65),
          .and (.or (.isNull "name") (.like "name" "A%")) (.inList "city" [.text "Oslo"])]
        excludes := [.or (.compare "score" .lt (.int 3)) .nothing] }
    s.isPlain = true ∧ ∀ d row, s.textTruth d row = some (s.truth d row) := by
  intro s
  have hplain : s.isPlain = true := by decide +kernel
  exact ⟨hplain, ((whereText_truth s hplain).2.1.2 (by decide +kernel)) s ⟨rfl, rfl⟩ hplain⟩

/-- An OR that is added to a filter lets in a row the filter alone rejects. -/
theorem whereText_not_conjunction :
    let narrow : Scope := { filters := [.compare "c" .eq (.int 1)] }
    let wide := narrow.filter (.or (.compare "a" .eq (.int 1)) (.compare "b" .eq (.int 1)))
    let row : Columns := fun name => if name = "b" then .int 1 else .int 0
    wide.isPlain = true ∧ wide.textTruth .simple row = some .holds ∧
      wide.truth .simple row = .fails ∧ narrow.textTruth .simple row = some .fails := by
  decide +kernel

end Scope

end EntityGraph.Sql
