import EntityGraph.Sql.Identifier

/-!
# Accepted names

A name is accepted if no rule of the whitelist rejects it; a list of names passes the check just if
every name in it is accepted.
-/

namespace EntityGraph.Sql

/-- The name passes the check of identifiers. -/
def Accepted (name : String) : Prop := checkIdentifier name = .ok ()

theorem accepted_iff {name : String} : Accepted name ↔ identifierFault? name.toList = none := by
  rw [Accepted, checkIdentifier]
  cases identifierFault? name.toList <;> simp

instance (name : String) : Decidable (Accepted name) := decidable_of_iff _ accepted_iff.symm

theorem checkIdentifiers_eq_ok {names : List String} :
    checkIdentifiers names = .ok () ↔ ∀ name ∈ names, Accepted name := by
  induction names with
  | nil => simp [checkIdentifiers]
  | cons name names ih =>
    rw [List.forall_mem_cons, ← ih, Accepted, checkIdentifiers]
    cases checkIdentifier name with
    | error why => simp [bind, Except.bind]
    | ok u => exact ⟨fun h => ⟨rfl, h⟩, fun h => h.2⟩

theorem checkIdentifiers_eq_error {names : List String} {why : IdentifierError}
    (h : checkIdentifiers names = .error why) :
    ∃ name ∈ names, checkIdentifier name = .error why := by
  induction names with
  | nil => simp [checkIdentifiers] at h
  | cons name names ih =>
    rw [checkIdentifiers] at h
    cases hname : checkIdentifier name with
    | error why' =>
      rw [hname] at h
      exact ⟨name, by simp, hname.trans h⟩
    | ok u =>
      rw [hname] at h
      obtain ⟨n, hn, hfault⟩ := ih h
      exact ⟨n, List.mem_cons_of_mem _ hn, hfault⟩

end EntityGraph.Sql
