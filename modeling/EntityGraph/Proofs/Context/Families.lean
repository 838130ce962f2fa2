import EntityGraph.Context.History
import EntityGraph.Proofs.Lists

/-!
# Families of contexts

A ledger records what was asked for in a history: where every context comes from (a background
context, or an existing one and the limit put on its deadline), and which contexts were cancelled.
It knows nothing of families, signals and deadlines. A history keeps in step with its ledger
(`Ledger.Tells`), so the ledger alone decides which contexts are cancelled and what their deadlines
are (`lineage_governs`).
-/

namespace EntityGraph

/-- Where a context comes from. -/
inductive Origin where
  | background
  | derived (parent : Nat) (limit : Option Nat)
  deriving DecidableEq, Repr

/-- The origins of the contexts of a history, by number, and the contexts that were cancelled. -/
structure Ledger where
  origins : List Origin := [.background]
  cancelled : List Nat := []
  deriving DecidableEq, Repr

namespace Ledger

/-- Enters a context that is derived from an existing one. -/
def derive (l : Ledger) (parent : Nat) (limit : Option Nat) : Ledger :=
  if parent < l.origins.length then { l with origins := l.origins ++ [.derived parent limit] }
  else l

def cancel (l : Ledger) (c : Nat) : Ledger :=
  if c < l.origins.length then { l with cancelled := c :: l.cancelled } else l

/-- Enters an operation that is asked for at the time `now`. -/
def note (l : Ledger) (now : Nat) : ContextOp → Ledger
  | .background => { l with origins := l.origins ++ [.background] }
  | .clone c => l.derive c none
  | .withTimeout c ms => l.derive c (some (now + ms))
  | .withDeadline c limit => l.derive c (some limit)
  | .cancel c => l.cancel c
  | .runCancelling c _ other _ => if c < l.origins.length then l.cancel other else l
  | .deadline _ | .isCancelled _ | .advance _ | .run .. => l

/-- Context `c` is derived, in any number of steps, from the background context `r`, and these are
the limits put on its deadline on the way. -/
inductive Lineage (l : Ledger) (r : Nat) : Nat → List Nat → Prop
  | root : l.origins[r]? = some .background → Lineage l r r []
  | derived {p c : Nat} {limits : List Nat} {limit : Option Nat} : Lineage l r p limits →
      l.origins[c]? = some (.derived p limit) → Lineage l r c (limits ++ limit.toList)

variable {l : Ledger}

/-- A context has one background context and one list of limits. -/
theorem Lineage.unique {r r' c : Nat} {limits limits' : List Nat} (h : l.Lineage r c limits)
    (h' : l.Lineage r' c limits') : r' = r ∧ limits' = limits := by
  induction h generalizing r' limits' with
  | root hroot =>
    cases h' with
    | root => exact ⟨rfl, rfl⟩
    | derived _ hderived => simp [hroot] at hderived
  | derived _ hderived ih =>
    cases h' with
    | root hroot => simp [hroot] at hderived
    | derived hline hderived' =>
      obtain ⟨rfl, rfl⟩ : _ ∧ _ := by simpa using hderived.symm.trans hderived'
      obtain ⟨rfl, rfl⟩ := ih hline
      exact ⟨rfl, rfl⟩

end Ledger

namespace ContextHistory

/-- The history after further operations. -/
def after (h : ContextHistory) (ops : List ContextOp) : ContextHistory :=
  ops.foldl (fun h op => (h.step op).2) h

/-- The ledger of further operations, each at the time the history is at. -/
def ledger (h : ContextHistory) (l : Ledger) : List ContextOp → Ledger
  | [] => l
  | op :: ops => (h.step op).2.ledger (l.note h.clock.now op) ops

@[simp] theorem after_nil (h : ContextHistory) : h.after [] = h := rfl

@[simp] theorem after_cons (h : ContextHistory) (op : ContextOp) (ops : List ContextOp) :
    h.after (op :: ops) = (h.step op).2.after ops := rfl

end ContextHistory

/-! ### Limits on deadlines -/

namespace Context

/-- A context derived with a limit on its deadline, or as a clone. -/
def limited (x : Context) : Option Nat → Context
  | none => x
  | some limit => x.withDeadline limit

@[simp] theorem family_limited (x : Context) (limit : Option Nat) :
    (x.limited limit).family = x.family := by
  cases limit with
  | none => rfl
  | some limit =>
    simp only [limited, withDeadline]
    split <;> rfl

theorem deadline_limited {x : Context} {limits : List Nat} (hx : x.deadline = limits.min?)
    (limit : Option Nat) : (x.limited limit).deadline = (limits ++ limit.toList).min? := by
  cases limit with
  | none => simpa [limited] using hx
  | some limit =>
    rw [Option.toList_some, min?_concat, ← hx, limited, withDeadline]
    cases hd : x.deadline <;> simp

/-- A derived context expires no later than its parent. -/
theorem deadline_limited_le {x : Context} {d : Nat} (hx : x.deadline = some d)
    (limit : Option Nat) : ∃ e, (x.limited limit).deadline = some e ∧ e ≤ d := by
  cases limit with
  | none => exact ⟨d, hx, Nat.le_refl d⟩
  | some limit => exact ⟨min d limit, by simp [limited, withDeadline, hx], Nat.min_le_left ..⟩

end Context

/-! ### What a ledger tells of a history -/

/-- The history keeps in step with the ledger: background contexts have families of their own and
no deadline, derived ones are limited from their parents, and the cancelled families are those of
the contexts that were cancelled. -/
structure Ledger.Tells (l : Ledger) (h : ContextHistory) : Prop where
  length_eq : l.origins.length = h.contexts.length
  known : ∀ {c : Nat} {x : Context}, h.contexts[c]? = some x → x.family < h.clock.families
  unlimited : ∀ {r : Nat} {x : Context}, l.origins[r]? = some .background →
    h.contexts[r]? = some x → x.deadline = none
  apart : ∀ {r r' : Nat} {x x' : Context}, l.origins[r]? = some .background →
    l.origins[r']? = some .background → h.contexts[r]? = some x → h.contexts[r']? = some x' →
    x.family = x'.family → r = r'
  limited : ∀ {c p : Nat} {limit : Option Nat}, l.origins[c]? = some (.derived p limit) →
    p < c ∧ ∃ y, h.contexts[p]? = some y ∧ h.contexts[c]? = some (y.limited limit)
  existing : ∀ {c : Nat}, c ∈ l.cancelled → ∃ x, h.contexts[c]? = some x
  cancelled : ∀ {family : Nat}, family ∈ h.clock.cancelled ↔
    ∃ c ∈ l.cancelled, ∃ x, h.contexts[c]? = some x ∧ x.family = family

namespace Ledger

variable {l : Ledger} {h : ContextHistory}

theorem tells_start : ({} : Ledger).Tells {} where
  length_eq := rfl
  known := by
    intro c x hx
    obtain ⟨rfl, rfl⟩ : c = 0 ∧ x = ⟨0, none⟩ := by
      simpa [List.getElem?_singleton, eq_comm] using hx
    exact Nat.one_pos
  unlimited := by
    intro r x _ hx
    obtain ⟨rfl, rfl⟩ : r = 0 ∧ x = ⟨0, none⟩ := by
      simpa [List.getElem?_singleton, eq_comm] using hx
    rfl
  apart := by
    intro r r' x x' hr hr' _ _ _
    simp [List.getElem?_singleton] at hr hr'
    omega
  limited := by simp [List.getElem?_singleton]
  existing := by simp
  cancelled := by simp

theorem Tells.lt_iff (ht : l.Tells h) {c : Nat} :
    c < l.origins.length ↔ ∃ x, h.contexts[c]? = some x := by
  rw [ht.length_eq]
  exact ⟨fun hc => ⟨_, List.getElem?_eq_getElem hc⟩,
    fun ⟨_, hx⟩ => (List.getElem?_eq_some_iff.1 hx).1⟩

/-- A ledger says nothing about the time. -/
theorem Tells.at (ht : l.Tells h) (now : Nat) :
    l.Tells { h with clock := { h.clock with now := now } } :=
  { ht with }

/-- What stands at a number after a context was entered stood there before, or is the new one. -/
theorem Tells.entered (ht : l.Tells h) {origin o : Origin} {x x' : Context} {c : Nat}
    (ho : (l.origins ++ [origin])[c]? = some o) (hx : (h.contexts ++ [x])[c]? = some x') :
    l.origins[c]? = some o ∧ h.contexts[c]? = some x' ∨
      c = h.contexts.length ∧ o = origin ∧ x' = x := by
  have hlength := ht.length_eq
  obtain ho | ⟨hc, rfl⟩ := getElem?_concat_eq_some.1 ho <;>
    obtain hx | ⟨hc', rfl⟩ := getElem?_concat_eq_some.1 hx
  · exact .inl ⟨ho, hx⟩
  · exact absurd (List.getElem?_eq_some_iff.1 ho).1 (by omega)
  · exact absurd (List.getElem?_eq_some_iff.1 hx).1 (by omega)
  · exact .inr ⟨hc', rfl, rfl⟩

/-- A context is entered. A background context brings a family that is new; a derived one is
limited from its parent. -/
theorem Tells.enter (ht : l.Tells h) {origin : Origin} {x : Context} {families : Nat}
    (hfamilies : h.clock.families ≤ families) (hknown : x.family < families)
    (hnew : origin = .background → x.deadline = none ∧ h.clock.families ≤ x.family)
    (hlimited : ∀ p limit, origin = .derived p limit →
      ∃ y, h.contexts[p]? = some y ∧ x = y.limited limit) :
    Tells { l with origins := l.origins ++ [origin] }
      ⟨{ h.clock with families := families }, h.contexts ++ [x]⟩ where
  length_eq := by simp [ht.length_eq]
  known := by
    intro c x' hx'
    obtain hx' | ⟨-, rfl⟩ := getElem?_concat_eq_some.1 hx'
    · exact Nat.lt_of_lt_of_le (ht.known hx') hfamilies
    · exact hknown
  unlimited := by
    intro r x' hr hx'
    obtain ⟨hr, hx'⟩ | ⟨-, horigin, rfl⟩ := ht.entered hr hx'
    · exact ht.unlimited hr hx'
    · exact (hnew horigin.symm).1
  apart := by
    intro r r' x₁ x₂ hr hr' hx₁ hx₂ heq
    obtain ⟨hold, hy₁⟩ | ⟨hlast, horigin, rfl⟩ := ht.entered hr hx₁ <;>
      obtain ⟨hold', hy₂⟩ | ⟨hlast', horigin', rfl⟩ := ht.entered hr' hx₂
    · exact ht.apart hold hold' hy₁ hy₂ heq
    · have hlt := ht.known hy₁
      have hle := (hnew horigin'.symm).2
      omega
    · have hlt := ht.known hy₂
      have hle := (hnew horigin.symm).2
      omega
    · rw [hlast, hlast']
  limited := by
    intro c p limit hc
    obtain hc | ⟨rfl, horigin⟩ := getElem?_concat_eq_some.1 hc
    · obtain ⟨hlt, y, hy, hlim⟩ := ht.limited hc
      exact ⟨hlt, y, getElem?_concat_eq_some.2 (.inl hy), getElem?_concat_eq_some.2 (.inl hlim)⟩
    · obtain ⟨y, hy, rfl⟩ := hlimited p limit horigin
      exact ⟨ht.lt_iff.2 ⟨y, hy⟩, y, getElem?_concat_eq_some.2 (.inl hy),
        getElem?_concat_eq_some.2 (.inr ⟨ht.length_eq, rfl⟩)⟩
  existing hc :=
    (ht.existing hc).imp fun _ hx' => getElem?_concat_eq_some.2 (.inl hx')
  cancelled := by
    refine ht.cancelled.trans (exists_congr fun c => and_congr_right fun hc => ?_)
    obtain ⟨y, hy⟩ := ht.existing hc
    simp [hy, List.getElem?_append_left (List.getElem?_eq_some_iff.1 hy).1]

/-- A derived context stays in the family of its parent; from a missing one nothing is derived. -/
theorem Tells.derive (ht : l.Tells h) {p : Nat} {limit : Option Nat} {h' : ContextHistory}
    (hnone : h.contexts[p]? = none → h' = h)
    (hsome : ∀ y, h.contexts[p]? = some y → h' = (h.add (y.limited limit)).2) :
    (l.derive p limit).Tells h' := by
  cases hp : h.contexts[p]? with
  | none =>
    rwa [hnone hp, Ledger.derive, if_neg fun hlt => by simpa [hp] using ht.lt_iff.1 hlt]
  | some y =>
    rw [hsome y hp, Ledger.derive, if_pos (ht.lt_iff.2 ⟨y, hp⟩)]
    refine ht.enter (Nat.le_refl _) (by simpa using ht.known hp) (fun h => by simp at h) ?_
    rintro _ _ ⟨⟩
    exact ⟨y, hp, rfl⟩

/-- Cancelling a context cancels its family; cancelling a missing one does nothing. -/
theorem Tells.cancel (ht : l.Tells h) {c : Nat} {h' : ContextHistory}
    (hnone : h.contexts[c]? = none → h' = h)
    (hsome : ∀ x, h.contexts[c]? = some x → h' = { h with clock := h.clock.cancel x }) :
    (l.cancel c).Tells h' := by
  cases hc : h.contexts[c]? with
  | none =>
    rwa [hnone hc, Ledger.cancel, if_neg fun hlt => by simpa [hc] using ht.lt_iff.1 hlt]
  | some x =>
    rw [hsome x hc, Ledger.cancel, if_pos (ht.lt_iff.2 ⟨x, hc⟩)]
    refine { ht with existing := ?_, cancelled := ?_ }
    · intro c' hc'
      obtain rfl | hc' := List.mem_cons.1 hc'
      · exact ⟨x, hc⟩
      · exact ht.existing hc'
    · intro family
      simp [Clock.cancel, ht.cancelled, hc, eq_comm]

/-- One operation keeps the ledger in step. -/
theorem Tells.step (ht : l.Tells h) (op : ContextOp) :
    (l.note h.clock.now op).Tells (h.step op).2 := by
  cases op with
  | background =>
    exact ht.enter (Nat.le_succ _) (Nat.lt_succ_self _) (fun _ => ⟨rfl, Nat.le_refl _⟩)
      (fun _ _ h => by simp at h)
  | clone p =>
    refine ht.derive (fun hp => ?_) fun y hp => ?_ <;>
      simp [ContextHistory.step, hp, Context.limited]
  | withTimeout p ms =>
    refine ht.derive (fun hp => ?_) fun y hp => ?_ <;>
      simp [ContextHistory.step, hp, Context.limited, Clock.withTimeout]
  | withDeadline p limit =>
    refine ht.derive (fun hp => ?_) fun y hp => ?_ <;>
      simp [ContextHistory.step, hp, Context.limited]
  | cancel c =>
    refine ht.cancel (fun hc => ?_) fun x hc => ?_ <;> simp [ContextHistory.step, hc]
  | advance ms => exact ht.at _
  | deadline c =>
    cases hc : h.contexts[c]? with
    | none => simpa [note, ContextHistory.step, hc] using ht
    | some x => cases hd : x.deadline <;> simpa [note, ContextHistory.step, hc, hd] using ht
  | isCancelled c => cases hc : h.contexts[c]? <;> simpa [note, ContextHistory.step, hc] using ht
  | run c ms =>
    cases hc : h.contexts[c]? with
    | none => simpa [note, ContextHistory.step, hc] using ht
    | some x => simpa [note, ContextHistory.step, hc] using ht.at _
  | runCancelling c ms other pause =>
    cases hc : h.contexts[c]? with
    | none =>
      have hlt : ¬c < l.origins.length := fun hlt => by simpa [hc] using ht.lt_iff.1 hlt
      simpa [note, hlt, ContextHistory.step, hc] using ht
    | some x =>
      rw [note, if_pos (ht.lt_iff.2 ⟨x, hc⟩)]
      cases ho : h.contexts[other]? with
      | none =>
        refine ht.cancel (fun _ => ?_) fun y hy => by simp [ho] at hy
        simp [ContextHistory.step, hc, ho]
      | some y =>
        have hcancel : (l.cancel other).Tells { h with clock := h.clock.cancel y } :=
          ht.cancel (fun hy => by simp [ho] at hy) fun y' hy => by
            rw [Option.some.inj (ho.symm.trans hy)]
        simpa [ContextHistory.step, hc, ho] using hcancel.at _

/-- So do the operations of a whole history. -/
theorem Tells.after (ht : l.Tells h) (ops : List ContextOp) :
    (h.ledger l ops).Tells (h.after ops) := by
  induction ops generalizing l h with
  | nil => exact ht
  | cons op ops ih => exact ih (ht.step op)

/-! ### Lineages -/

/-- A context has the family of its background context, and the least of its limits as deadline. -/
theorem Tells.lineage (ht : l.Tells h) {r c : Nat} {limits : List Nat}
    (hl : l.Lineage r c limits) :
    ∃ y x, l.origins[r]? = some .background ∧ h.contexts[r]? = some y ∧
      h.contexts[c]? = some x ∧ x.family = y.family ∧ x.deadline = limits.min? := by
  induction hl with
  | root hr =>
    obtain ⟨y, hy⟩ := ht.lt_iff.1 (List.getElem?_eq_some_iff.1 hr).1
    exact ⟨y, y, hr, hy, hy, rfl, ht.unlimited hr hy⟩
  | @derived p c limits limit _ hc ih =>
    obtain ⟨y, x, hr, hy, hp, hfamily, hdeadline⟩ := ih
    obtain ⟨-, x', hp', hx⟩ := ht.limited hc
    obtain rfl : x = x' := Option.some.inj (hp.symm.trans hp')
    exact ⟨y, x.limited limit, hr, hy, hx, by simpa using hfamily,
      Context.deadline_limited hdeadline limit⟩

theorem Tells.exists_lineage (ht : l.Tells h) (c : Nat) (hc : c < l.origins.length) :
    ∃ r limits, l.Lineage r c limits := by
  induction c using Nat.strongRecOn with
  | ind c ih =>
    cases ho : l.origins[c] with
    | background => exact ⟨c, [], .root (List.getElem?_eq_some_iff.2 ⟨hc, ho⟩)⟩
    | derived p limit =>
      have horigin := List.getElem?_eq_some_iff.2 ⟨hc, ho⟩
      obtain ⟨hlt, y, hy, -⟩ := ht.limited horigin
      obtain ⟨r, limits, hl⟩ := ih p hlt (ht.lt_iff.2 ⟨y, hy⟩)
      exact ⟨r, limits ++ limit.toList, .derived hl horigin⟩

/-- A context is cancelled if one that is derived from the same background context was. -/
theorem Tells.isCancelled_iff (ht : l.Tells h) {r c : Nat} {limits : List Nat} {x : Context}
    (hl : l.Lineage r c limits) (hx : h.contexts[c]? = some x) :
    h.clock.isCancelled x = true ↔ ∃ c' ∈ l.cancelled, ∃ limits', l.Lineage r c' limits' := by
  obtain ⟨y, x₁, hr, hy, hx₁, hfamily, -⟩ := ht.lineage hl
  obtain rfl : x = x₁ := Option.some.inj (hx.symm.trans hx₁)
  rw [Clock.isCancelled, List.contains_iff_mem, ht.cancelled, hfamily]
  refine exists_congr fun c' => and_congr_right fun hc' => ?_
  constructor
  · rintro ⟨x', hx', heq⟩
    obtain ⟨r', limits', hl'⟩ := ht.exists_lineage c' (ht.lt_iff.2 ⟨x', hx'⟩)
    obtain ⟨y', x₂, hr', hy', hx₂, hfamily', -⟩ := ht.lineage hl'
    obtain rfl : x' = x₂ := Option.some.inj (hx'.symm.trans hx₂)
    obtain rfl : r' = r := ht.apart hr' hr hy' hy (hfamily'.symm.trans heq)
    exact ⟨limits', hl'⟩
  · rintro ⟨limits', hl'⟩
    obtain ⟨y', x', -, hy', hx', hfamily', -⟩ := ht.lineage hl'
    obtain rfl : y = y' := Option.some.inj (hy.symm.trans hy')
    exact ⟨x', hx', hfamily'⟩

end Ledger

/-! ### What is never taken back -/

namespace ContextHistory

/-- An operation adds contexts and cancels families; it changes and restores none. -/
theorem step_keeps (h : ContextHistory) (op : ContextOp) :
    h.contexts <+: (h.step op).2.contexts ∧
      h.clock.cancelled ⊆ (h.step op).2.clock.cancelled := by
  cases op <;> simp only [step, add] <;> repeat' split
  all_goals simp [Clock.background, Clock.cancel, Clock.advance]

theorem after_keeps (h : ContextHistory) (ops : List ContextOp) :
    h.contexts <+: (h.after ops).contexts ∧
      h.clock.cancelled ⊆ (h.after ops).clock.cancelled := by
  induction ops generalizing h with
  | nil => exact ⟨List.prefix_refl _, List.Subset.refl _⟩
  | cons op ops ih =>
    obtain ⟨hcontexts, hcancelled⟩ := h.step_keeps op
    obtain ⟨hcontexts', hcancelled'⟩ := ih (h.step op).2
    exact ⟨hcontexts.trans hcontexts', List.Subset.trans hcancelled hcancelled'⟩

/-- **A ledger decides a history.** After any operations, every context has exactly one lineage.
Its deadline is the least limit in the lineage, and it is cancelled exactly if a context from the
same background context was. No derivation loosens a deadline, and further operations neither
change a context nor take its cancellation back. -/
theorem lineage_governs (ops later : List ContextOp) :
    let h := after {} ops
    let l := ledger {} {} ops
    h.contexts.length = l.origins.length ∧
      (∀ (c : Nat) (x : Context), h.contexts[c]? = some x → ∃ r limits, l.Lineage r c limits ∧
        (∀ r' limits', l.Lineage r' c limits' → r' = r ∧ limits' = limits) ∧
        x.deadline = limits.min? ∧
        (h.clock.isCancelled x = true ↔
          ∃ c' ∈ l.cancelled, ∃ limits', l.Lineage r c' limits')) ∧
      (∀ (c p : Nat) (limit : Option Nat), l.origins[c]? = some (.derived p limit) →
        ∃ x y : Context, h.contexts[c]? = some x ∧ h.contexts[p]? = some y ∧
          ∀ d, y.deadline = some d → ∃ e ≤ d, x.deadline = some e) ∧
      ∀ (c : Nat) (x : Context), h.contexts[c]? = some x → (h.after later).contexts[c]? = some x ∧
        (h.clock.isCancelled x = true → (h.after later).clock.isCancelled x = true) := by
  intro h l
  have ht : l.Tells h := Ledger.tells_start.after ops
  refine ⟨ht.length_eq.symm, fun c x hx => ?_, fun c p limit hc => ?_, fun c x hx => ?_⟩
  · obtain ⟨r, limits, hl⟩ := ht.exists_lineage c (ht.lt_iff.2 ⟨x, hx⟩)
    obtain ⟨-, x', -, -, hx', -, hdeadline⟩ := ht.lineage hl
    obtain rfl : x = x' := Option.some.inj (hx.symm.trans hx')
    exact ⟨r, limits, hl, fun _ _ => hl.unique, hdeadline, ht.isCancelled_iff hl hx⟩
  · obtain ⟨-, y, hy, hx⟩ := ht.limited hc
    refine ⟨_, y, hx, hy, fun d hd => ?_⟩
    obtain ⟨e, he, hle⟩ := Context.deadline_limited_le hd limit
    exact ⟨e, hle, he⟩
  · obtain ⟨⟨added, hadded⟩, hcancelled⟩ := h.after_keeps later
    simp only [Clock.isCancelled, List.contains_iff_mem]
    refine ⟨?_, fun hmem => hcancelled hmem⟩
    rw [← hadded, List.getElem?_append_left (List.getElem?_eq_some_iff.1 hx).1, hx]

/-- The limits of a clone, and whom its cancellation reaches. -/
theorem lineage_governs_clone :
    let h := after {} [.withTimeout 0 100, .background, .advance 30, .withDeadline 1 50, .clone 3,
      .cancel 4]
    (∃ r limits, limits.min? = some 50 ∧
        (ledger {} {} [.withTimeout 0 100, .background, .advance 30, .withDeadline 1 50, .clone 3,
          .cancel 4]).Lineage r 4 limits) ∧
      h.clock.isCancelled ⟨0, some 100⟩ = true ∧ h.clock.isCancelled ⟨1, none⟩ = false := by
  obtain ⟨-, hlineage, -, -⟩ := lineage_governs [.withTimeout 0 100, .background, .advance 30,
    .withDeadline 1 50, .clone 3, .cancel 4] []
  obtain ⟨r, limits, hl, -, hdeadline, -⟩ := hlineage 4 ⟨0, some 50⟩ (by decide)
  exact ⟨⟨r, limits, hdeadline.symm, hl⟩, by decide, by decide⟩

end ContextHistory

end EntityGraph
