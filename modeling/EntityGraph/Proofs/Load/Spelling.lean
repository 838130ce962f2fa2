import EntityGraph.Proofs.Load.Forest
import Mathlib.Data.List.DropRight

/-!
# Spellings of a path

A path may be written with blanks around it and around its names, and with columns behind it. Such
texts are read as the same names (`read_pathOf`). Only one of them spells the path out: the names
joined by points, which is read as these names again (`read_joinedPath`).
-/

namespace EntityGraph

namespace Text

variable {cs : List Char} {sep : Char}

/-! ### Trimming -/

theorem trimLeft_blank_append {blanks : List Char} (h : ∀ c ∈ blanks, isBlank c = true)
    (cs : List Char) : trimLeft (blanks ++ cs) = trimLeft cs := by
  rw [trimLeft, List.dropWhile_append, List.dropWhile_eq_nil_iff.2 h]
  rfl

theorem trimRight_append_blank {blanks : List Char} (h : ∀ c ∈ blanks, isBlank c = true)
    (cs : List Char) : trimRight (cs ++ blanks) = trimRight cs := by
  have hblank : ∀ c ∈ blanks.reverse, isBlank c = true := by simpa using h
  have hreverse := trimLeft_blank_append hblank cs.reverse
  rw [trimRight, List.reverse_append]
  exact congrArg List.reverse hreverse

theorem trim_blank_append {blanks : List Char} (h : ∀ c ∈ blanks, isBlank c = true)
    (cs : List Char) : trim (blanks ++ cs) = trim cs := by
  rw [trim, trim, trimLeft_blank_append h]

theorem trim_append_blank {blanks : List Char} (h : ∀ c ∈ blanks, isBlank c = true)
    (cs : List Char) : trim (cs ++ blanks) = trim cs := by
  rw [trim, trim, trimLeft, trimLeft, List.dropWhile_append]
  split
  · next hnil => rw [List.isEmpty_iff.1 hnil, List.dropWhile_eq_nil_iff.2 h]
  · exact trimRight_append_blank h _

/-- Nothing is trimmed off at a side that a character bounds that is not blank. -/
theorem trimLeft_append_cons {c : Char} (hc : isBlank c = false) (before after : List Char) :
    trimLeft (before ++ c :: after) = trimLeft before ++ c :: after := by
  rw [trimLeft, List.dropWhile_append]
  split
  · next hnil =>
    rw [trimLeft, List.isEmpty_iff.1 hnil, List.dropWhile_cons_of_neg (by simp [hc]),
      List.nil_append]
  · rfl

theorem trimRight_append_cons {c : Char} (hc : isBlank c = false) (before after : List Char) :
    trimRight (before ++ c :: after) = before ++ c :: trimRight after := by
  have hreverse : (before ++ c :: after).reverse = after.reverse ++ c :: before.reverse := by simp
  have hleft := trimLeft_append_cons hc after.reverse before.reverse
  rw [trimRight, hreverse]
  refine (congrArg List.reverse hleft).trans ?_
  simp [trimRight, trimLeft]

theorem trim_append_cons {c : Char} (hc : isBlank c = false) (before after : List Char) :
    trim (before ++ c :: after) = trimLeft before ++ c :: trimRight after := by
  rw [trim, trimLeft_append_cons hc, trimRight_append_cons hc]

theorem exists_trimRight (cs : List Char) :
    ∃ after, cs = trimRight cs ++ after ∧ ∀ c ∈ after, isBlank c = true := by
  refine ⟨(cs.reverse.takeWhile isBlank).reverse, ?_, fun c hc => ?_⟩
  · rw [trimRight, ← List.reverse_append, List.takeWhile_append_dropWhile, List.reverse_reverse]
  · exact List.mem_takeWhile_imp (List.mem_reverse.1 hc)

/-- A text is what trimming leaves of it with blanks at both ends. -/
theorem exists_trim (cs : List Char) : ∃ before after, cs = before ++ trim cs ++ after ∧
    (∀ c ∈ before, isBlank c = true) ∧ ∀ c ∈ after, isBlank c = true := by
  obtain ⟨after, hright, hafter⟩ := exists_trimRight (trimLeft cs)
  refine ⟨cs.takeWhile isBlank, after, ?_, fun c => List.mem_takeWhile_imp, hafter⟩
  rw [List.append_assoc, trim, ← hright, trimLeft, List.takeWhile_append_dropWhile]

theorem trim_trimLeft (cs : List Char) : trim (trimLeft cs) = trim cs := by
  rw [trim, trim, trimLeft, trimLeft, List.dropWhile_idempotent]

theorem trim_trimRight (cs : List Char) : trim (trimRight cs) = trim cs := by
  obtain ⟨after, hright, hafter⟩ := exists_trimRight cs
  conv_rhs => rw [hright, trim_append_blank hafter]

theorem trim_trim (cs : List Char) : trim (trim cs) = trim cs := by
  rw [trim, trim]
  cases hleft : trimLeft cs with
  | nil => rfl
  | cons c rest =>
    have hc : isBlank c = false := by
      have hhead := List.head?_dropWhile_not isBlank cs
      rw [trimLeft] at hleft
      simpa [hleft] using hhead
    have hright : trimRight (trimRight rest) = trimRight rest := List.rdropWhile_idempotent ..
    have hcons : ∀ rest, trimRight (c :: rest) = c :: trimRight rest :=
      trimRight_append_cons hc []
    rw [hcons, trimLeft, List.dropWhile_cons_of_neg (by simp [hc]), hcons, hright]

/-! ### Splitting -/

theorem splitOn_of_not_mem (h : sep ∉ cs) : splitOn sep cs = [cs] := by
  induction cs with
  | nil => rfl
  | cons c cs ih =>
    obtain ⟨hc, hcs⟩ := not_or.1 (List.mem_cons.not.1 h)
    rw [splitOn, if_neg (Ne.symm hc), ih hcs]

theorem splitOn_append_cons (h : sep ∉ cs) (rest : List Char) :
    splitOn sep (cs ++ sep :: rest) = cs :: splitOn sep rest := by
  induction cs with
  | nil => simp [splitOn]
  | cons c cs ih =>
    obtain ⟨hc, hcs⟩ := not_or.1 (List.mem_cons.not.1 h)
    rw [List.cons_append, splitOn, if_neg (Ne.symm hc), ih hcs]

/-- What stands in front of a text without separators stands in front of its first piece. -/
theorem splitOn_append_left {before : List Char} (h : sep ∉ before) (cs : List Char) :
    ∃ piece pieces, splitOn sep cs = piece :: pieces ∧
      splitOn sep (before ++ cs) = (before ++ piece) :: pieces := by
  induction before with
  | nil =>
    cases hsplit : splitOn sep cs with
    | nil => exact absurd hsplit (splitOn_ne_nil sep cs)
    | cons piece pieces => exact ⟨piece, pieces, rfl, hsplit⟩
  | cons c before ih =>
    obtain ⟨hc, hbefore⟩ := not_or.1 (List.mem_cons.not.1 h)
    obtain ⟨piece, pieces, hsplit, hmore⟩ := ih hbefore
    refine ⟨piece, pieces, hsplit, ?_⟩
    rw [List.cons_append, splitOn, if_neg (Ne.symm hc), hmore]
    rfl

/-- What stands behind a text without separators stands behind its last piece. -/
theorem splitOn_append_right {after : List Char} (h : sep ∉ after) (cs : List Char) :
    ∃ pieces piece, splitOn sep cs = pieces ++ [piece] ∧
      splitOn sep (cs ++ after) = pieces ++ [piece ++ after] := by
  induction cs with
  | nil => exact ⟨[], [], rfl, splitOn_of_not_mem h⟩
  | cons c cs ih =>
    obtain ⟨pieces, piece, hsplit, hmore⟩ := ih
    rw [List.cons_append, splitOn, splitOn, hsplit, hmore]
    by_cases hc : c = sep
    · exact ⟨[] :: pieces, piece, by simp [hc], by simp [hc]⟩
    · cases pieces with
      | nil => exact ⟨[], c :: piece, by simp [hc], by simp [hc]⟩
      | cons first pieces => exact ⟨(c :: first) :: pieces, piece, by simp [hc], by simp [hc]⟩

/-- **Blanks at the ends of a text do not count** where its pieces are trimmed. -/
theorem map_trim_splitOn_trim (hsep : isBlank sep = false) (cs : List Char) :
    (splitOn sep (trim cs)).map trim = (splitOn sep cs).map trim := by
  have hnot : ∀ blanks : List Char, (∀ c ∈ blanks, isBlank c = true) → sep ∉ blanks := by
    intro blanks hblanks hmem
    rw [hblanks sep hmem] at hsep
    cases hsep
  obtain ⟨before, after, hcs, hbefore, hafter⟩ := exists_trim cs
  obtain ⟨piece, pieces, hleft, hleft'⟩ := splitOn_append_left (hnot before hbefore) (trim cs)
  obtain ⟨pieces', piece', hright, hright'⟩ :=
    splitOn_append_right (hnot after hafter) (before ++ trim cs)
  conv_rhs => rw [hcs, hright', List.map_append, List.map_singleton, trim_append_blank hafter]
  rw [hleft, List.map_cons, ← trim_blank_append hbefore piece, ← List.map_cons, ← hleft', hright,
    List.map_append, List.map_singleton]

theorem mem_of_mem_splitOn {piece : List Char} (h : piece ∈ splitOn sep cs) {c : Char}
    (hc : c ∈ piece) : c ∈ cs := by
  induction cs generalizing piece with
  | nil =>
    obtain rfl := List.mem_singleton.1 h
    exact hc
  | cons first cs ih =>
    obtain ⟨next, pieces, hsplit⟩ := List.exists_cons_of_ne_nil (splitOn_ne_nil sep cs)
    rw [splitOn, hsplit] at h
    split at h
    · rcases List.mem_cons.1 h with rfl | h
      · cases hc
      · exact List.mem_cons_of_mem _ (ih (hsplit ▸ h) hc)
    · rcases List.mem_cons.1 h with rfl | h
      · refine (List.mem_cons.1 hc).elim (fun heq => heq ▸ List.mem_cons_self) fun hc => ?_
        exact List.mem_cons_of_mem _ (ih (by simp [hsplit]) hc)
      · exact List.mem_cons_of_mem _ (ih (by simp [hsplit, h]) hc)

/-- Pieces that are joined are the pieces of the whole. -/
theorem splitOn_append_flatMap {first : List Char} {rest : List (List Char)} (hfirst : sep ∉ first)
    (hrest : ∀ piece ∈ rest, sep ∉ piece) :
    splitOn sep (first ++ rest.flatMap (sep :: ·)) = first :: rest := by
  induction rest generalizing first with
  | nil => simpa using splitOn_of_not_mem hfirst
  | cons next rest ih =>
    obtain ⟨hnext, hrest⟩ := List.forall_mem_cons.1 hrest
    rw [List.flatMap_cons, List.cons_append, splitOn_append_cons hfirst, ih hnext hrest]

/-! ### Cutting -/

theorem cutAt_eq_none (h : sep ∉ cs) : cutAt sep cs = none := by
  induction cs with
  | nil => rfl
  | cons c cs ih =>
    obtain ⟨hc, hcs⟩ := not_or.1 (List.mem_cons.not.1 h)
    rw [cutAt, if_neg (Ne.symm hc), ih hcs, Option.map_none]

theorem cutAt_append_cons (h : sep ∉ cs) (rest : List Char) :
    cutAt sep (cs ++ sep :: rest) = some (cs, rest) := by
  induction cs with
  | nil => simp [cutAt]
  | cons c cs ih =>
    obtain ⟨hc, hcs⟩ := not_or.1 (List.mem_cons.not.1 h)
    rw [List.cons_append, cutAt, if_neg (Ne.symm hc), ih hcs, Option.map_some]

theorem eq_of_cutAt_eq_some {before after : List Char} (h : cutAt sep cs = some (before, after)) :
    cs = before ++ sep :: after ∧ sep ∉ before := by
  have hmem : sep ∈ cs := by
    by_contra hnot
    rw [cutAt_eq_none hnot] at h
    cases h
  obtain ⟨before', after', rfl, hbefore⟩ := List.eq_append_cons_of_mem hmem
  rw [cutAt_append_cons hbefore] at h
  cases h
  exact ⟨rfl, hbefore⟩

end Text

/-! ### Reading -/

theorem pieces?_trim {sep : Char} (hsep : Text.isBlank sep = false) (cs : List Char) :
    pieces? sep (Text.trim cs) = pieces? sep cs := by
  rw [pieces?, pieces?, Text.map_trim_splitOn_trim hsep]

/-- A name that a request may hold: without separators and without blanks at its ends. -/
structure IsName (name : String) : Prop where
  ne_nil : name.toList ≠ []
  trim_eq : Text.trim name.toList = name.toList
  no_point : '.' ∉ name.toList
  no_colon : ':' ∉ name.toList

theorem isName_of_pieces? {cs : List Char} {names : List String} (hcs : ':' ∉ cs)
    (h : pieces? '.' cs = some names) : names ≠ [] ∧ ∀ name ∈ names, IsName name := by
  unfold pieces? at h
  dsimp only at h
  split at h
  · cases h
  · next hfull =>
    cases h
    refine ⟨by simp [Text.splitOn_ne_nil], fun name hname => ?_⟩
    obtain ⟨piece, hpiece, rfl⟩ := List.mem_map.1 hname
    obtain ⟨segment, hsegment, rfl⟩ := List.mem_map.1 hpiece
    constructor
    · rw [String.toList_ofList]
      intro hnil
      exact hfull (List.any_eq_true.2 ⟨_, List.mem_map_of_mem hsegment, List.isEmpty_iff.2 hnil⟩)
    · rw [String.toList_ofList, Text.trim_trim]
    · rw [String.toList_ofList]
      exact fun hmem => Text.not_mem_of_mem_splitOn hsegment (Text.mem_of_mem_trim hmem)
    · rw [String.toList_ofList]
      exact fun hmem => hcs (Text.mem_of_mem_splitOn hsegment (Text.mem_of_mem_trim hmem))

theorem read_eq_ok_iff {text : String} {r : PathRequest} :
    PathRequest.read text = .ok r ↔ PathRequest.ofChars? (Text.trim text.toList) = some r := by
  unfold PathRequest.read
  dsimp only
  split <;> simp_all

/-- What is read from a text without columns. -/
theorem ofChars?_of_no_colon {cs : List Char} (h : ':' ∉ cs) :
    PathRequest.ofChars? (Text.trim cs) = (pieces? '.' cs).map fun names => ⟨names, none⟩ := by
  have hnone : Text.cutAt ':' (Text.trim cs) = none :=
    Text.cutAt_eq_none fun hmem => h (Text.mem_of_mem_trim hmem)
  rw [PathRequest.ofChars?, hnone, pieces?_trim (by decide)]

/-- What is read from a text with columns. -/
theorem ofChars?_of_colon {before : List Char} (h : ':' ∉ before) (after : List Char) :
    PathRequest.ofChars? (Text.trim (before ++ ':' :: after)) = (do
      let columns ← pieces? ',' after
      let names ← pieces? '.' before
      pure ⟨names, some columns⟩) := by
  have hleft : ':' ∉ Text.trimLeft before := fun hmem =>
    h ((List.dropWhile_sublist Text.isBlank).mem hmem)
  have hnames : pieces? '.' (Text.trimLeft before) = pieces? '.' before := by
    rw [← pieces?_trim (by decide), Text.trim_trimLeft, pieces?_trim (by decide)]
  have hcolumns : pieces? ',' (Text.trimRight after) = pieces? ',' after := by
    rw [← pieces?_trim (by decide), Text.trim_trimRight, pieces?_trim (by decide)]
  rw [Text.trim_append_cons (by decide), PathRequest.ofChars?, Text.cutAt_append_cons hleft]
  dsimp only
  rw [hnames, hcolumns]

theorem isName_of_read {text : String} {r : PathRequest} (h : PathRequest.read text = .ok r) :
    r.names ≠ [] ∧ ∀ name ∈ r.names, IsName name := by
  rw [read_eq_ok_iff] at h
  by_cases hcolon : ':' ∈ text.toList
  · obtain ⟨before, after, htext, hbefore⟩ := List.eq_append_cons_of_mem hcolon
    rw [htext, ofChars?_of_colon hbefore] at h
    simp only [Option.bind_eq_bind, Option.bind_eq_some_iff] at h
    obtain ⟨columns, -, names, hnames, hr⟩ := h
    cases hr
    exact isName_of_pieces? hbefore hnames
  · rw [ofChars?_of_no_colon hcolon] at h
    obtain ⟨names, hnames, rfl⟩ := Option.map_eq_some_iff.1 h
    exact isName_of_pieces? hcolon hnames

/-- **A request without its columns is read as the same names.** -/
theorem read_pathOf {text path : String} {r : PathRequest} (h : PathRequest.read text = .ok r)
    (hpath : Eager.pathOf text = path.toList) :
    ∃ r', PathRequest.read path = .ok r' ∧ r'.names = r.names := by
  unfold Eager.pathOf at hpath
  cases hcut : Text.cutAt ':' text.toList with
  | none =>
    rw [hcut] at hpath
    obtain rfl : text = path := String.toList_inj.1 hpath
    exact ⟨r, h, rfl⟩
  | some p =>
    obtain ⟨before, after⟩ := p
    rw [hcut] at hpath
    dsimp only at hpath
    subst hpath
    obtain ⟨htext, hbefore⟩ := Text.eq_of_cutAt_eq_some hcut
    rw [read_eq_ok_iff, htext, ofChars?_of_colon hbefore] at h
    simp only [Option.bind_eq_bind, Option.bind_eq_some_iff] at h
    obtain ⟨columns, -, names, hnames, hr⟩ := h
    cases hr
    refine ⟨⟨names, none⟩, ?_, rfl⟩
    rw [read_eq_ok_iff, ofChars?_of_no_colon hbefore, hnames, Option.map_some]

/-! ### Spelling out -/

theorem toList_foldl_childPath (names : List String) {above : String}
    (habove : above.toList ≠ []) :
    (names.foldl childPath above).toList
      = above.toList ++ (names.map String.toList).flatMap ('.' :: ·) := by
  induction names generalizing above with
  | nil => simp
  | cons name names ih =>
    have hpath : (childPath above name).toList = above.toList ++ '.' :: name.toList := by
      rw [childPath, if_neg (by simpa using habove)]
      simp
    rw [List.foldl_cons, ih (by simp [hpath]), hpath]
    simp

/-- **The names joined by points are read as these names.** -/
theorem read_joinedPath {names : List String} (hne : names ≠ [])
    (hnames : ∀ name ∈ names, IsName name) :
    PathRequest.read (joinedPath names) = .ok ⟨names, none⟩ := by
  obtain ⟨first, rest, rfl⟩ := List.exists_cons_of_ne_nil hne
  obtain ⟨hfirst, hrest⟩ := List.forall_mem_cons.1 hnames
  have hpath : (joinedPath (first :: rest)).toList
      = first.toList ++ (rest.map String.toList).flatMap ('.' :: ·) := by
    rw [joinedPath, List.foldl_cons, childPath, if_pos (by rfl),
      toList_foldl_childPath rest hfirst.ne_nil]
  have hcolon : ':' ∉ (joinedPath (first :: rest)).toList := by
    rw [hpath]
    simp only [List.mem_append, List.mem_flatMap, List.mem_map, List.mem_cons]
    rintro (h | ⟨_, ⟨name, hname, rfl⟩, h | h⟩)
    · exact hfirst.no_colon h
    · cases h
    · exact (hrest name hname).no_colon h
  have hsplit : Text.splitOn '.' (joinedPath (first :: rest)).toList
      = (first :: rest).map String.toList := by
    rw [hpath, List.map_cons]
    refine Text.splitOn_append_flatMap hfirst.no_point fun piece hpiece => ?_
    obtain ⟨name, hname, rfl⟩ := List.mem_map.1 hpiece
    exact (hrest name hname).no_point
  have htrim : ((first :: rest).map String.toList).map Text.trim
      = (first :: rest).map String.toList := by
    rw [List.map_map]
    exact List.map_congr_left fun name hname => (hnames name hname).trim_eq
  have hfull : ((first :: rest).map String.toList).any List.isEmpty = false := by
    simp only [List.any_eq_false, List.mem_map]
    rintro _ ⟨name, hname, rfl⟩
    simpa using (hnames name hname).ne_nil
  rw [read_eq_ok_iff, ofChars?_of_no_colon hcolon, pieces?, hsplit, htrim, hfull]
  simp [List.map_map, Function.comp_def]

end EntityGraph
