import EntityGraph.Sql.Scope

/-!
# Names under changes

A change to a scope adds names or drops names, but it does not look at the values of conditions. So
scopes that differ in values only still name the same fields after any changes
(`SameNames.applyAll`), and the names of a changed scope are those it had and those that the changes
alone bring along (`mem_names_applyAll`).
-/

namespace EntityGraph.Sql.Scope

/-- Two scopes name the same fields in their conditions and orders. -/
structure SameNames (s s' : Scope) : Prop where
  filters : s.filters.map Filter.fields = s'.filters.map Filter.fields
  excludes : s.excludes.map Filter.fields = s'.excludes.map Filter.fields
  order : s.order = s'.order

theorem SameNames.refl (s : Scope) : s.SameNames s := ⟨rfl, rfl, rfl⟩

theorem SameNames.apply {s s' : Scope} (h : s.SameNames s') (op : ScopeOp) :
    (op.apply s).SameNames (op.apply s') := by
  obtain ⟨hfilters, hexcludes, horder⟩ := h
  cases op with
  | filter f => exact ⟨by simp [ScopeOp.apply, filter, hfilters], hexcludes, horder⟩
  | exclude f => exact ⟨hfilters, by simp [ScopeOp.apply, exclude, hexcludes], horder⟩
  | orderBy spec => exact ⟨hfilters, hexcludes, by simp [ScopeOp.apply, orderBy, horder]⟩
  | reorder specs => exact ⟨hfilters, hexcludes, rfl⟩
  | limit n => exact ⟨hfilters, hexcludes, horder⟩
  | offset n => exact ⟨hfilters, hexcludes, horder⟩
  | distinct => exact ⟨hfilters, hexcludes, horder⟩
  | reset => exact .refl {}

theorem SameNames.applyAll {s s' : Scope} (h : s.SameNames s') (ops : List ScopeOp) :
    (s.applyAll ops).SameNames (s'.applyAll ops) := by
  induction ops generalizing s s' with
  | nil => exact h
  | cons op ops ih => exact ih (h.apply op)

theorem SameNames.names_eq {s s' : Scope} (h : s.SameNames s') : s.names = s'.names := by
  have hconditions : (s.filters ++ s.excludes).flatMap Filter.fields
      = (s'.filters ++ s'.excludes).flatMap Filter.fields := by
    rw [List.flatMap_def, List.flatMap_def, List.map_append, List.map_append, h.filters, h.excludes]
  rw [names, names, hconditions, h.order]

/-- A scope names some fields, and apart from these no more than another scope. -/
structure NamesWithin (fields : List String) (s s' : Scope) : Prop where
  conditions : ∀ f ∈ s.filters ++ s.excludes, f ∈ s'.filters ++ s'.excludes ∨
    ∀ name ∈ f.fields, name ∈ fields
  order : ∀ o ∈ s.order, o ∈ s'.order ∨ o.column ∈ fields

theorem NamesWithin.apply {fields : List String} {s s' : Scope} (h : NamesWithin fields s s')
    (op : ScopeOp) : NamesWithin fields (op.apply s) (op.apply s') := by
  obtain ⟨hconditions, horder⟩ := h
  cases op with
  | filter f => exact ⟨by simp only [ScopeOp.apply, filter]; grind, horder⟩
  | exclude f => exact ⟨by simp only [ScopeOp.apply, exclude]; grind, horder⟩
  | orderBy spec => exact ⟨hconditions, by simp only [ScopeOp.apply, orderBy]; grind⟩
  | reorder specs => exact ⟨hconditions, fun o ho => .inl ho⟩
  | limit n => exact ⟨hconditions, horder⟩
  | offset n => exact ⟨hconditions, horder⟩
  | distinct => exact ⟨hconditions, horder⟩
  | reset => exact ⟨fun f hf => .inl hf, fun o ho => .inl ho⟩

theorem NamesWithin.applyAll {fields : List String} {s s' : Scope} (h : NamesWithin fields s s')
    (ops : List ScopeOp) : NamesWithin fields (s.applyAll ops) (s'.applyAll ops) := by
  induction ops generalizing s s' with
  | nil => exact h
  | cons op ops ih => exact ih (h.apply op)

theorem NamesWithin.mem_names {fields : List String} {s s' : Scope} (h : NamesWithin fields s s')
    {name : String} (hname : name ∈ s.names) : name ∈ fields ∨ name ∈ s'.names := by
  rcases List.mem_append.1 hname with hcondition | horder
  · obtain ⟨f, hf, hfield⟩ := List.mem_flatMap.1 hcondition
    rcases h.conditions f hf with hf' | hfields
    · exact .inr (List.mem_append_left _ (List.mem_flatMap.2 ⟨f, hf', hfield⟩))
    · exact .inl (hfields name hfield)
  · obtain ⟨o, ho, rfl⟩ := List.mem_map.1 horder
    rcases h.order o ho with ho' | hfield
    · exact .inr (List.mem_append_right _ (List.mem_map_of_mem ho'))
    · exact .inl hfield

/-- **Changes bring along the same names to every scope.** -/
theorem mem_names_applyAll {s : Scope} {ops : List ScopeOp} {name : String}
    (h : name ∈ (s.applyAll ops).names) :
    name ∈ s.names ∨ name ∈ (({} : Scope).applyAll ops).names := by
  have hwithin : NamesWithin s.names s {} := by
    refine ⟨fun f hf => .inr fun field hfield => ?_, fun o ho => .inr ?_⟩
    · exact List.mem_append_left _ (List.mem_flatMap.2 ⟨f, hf, hfield⟩)
    · exact List.mem_append_right _ (List.mem_map_of_mem ho)
  exact (hwithin.applyAll ops).mem_names h

end EntityGraph.Sql.Scope
