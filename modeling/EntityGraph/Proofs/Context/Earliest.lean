import EntityGraph.Context.Basic

/-!
# What ends a job

A cancellation of its family, the deadline of its context and its own end are what a job may end
with (`Clock.Due`). Whoever watches the job sleeps from one moment to the next unless something
wakes him; still nothing is missed, and the job ends with what is due first, where a cancellation
comes before the deadline and the deadline before the end (`outcome_earliest`).
-/

namespace EntityGraph

/-- A cancellation comes before a deadline of the same moment, and both before the end. -/
def Interruption.rank : Option Interruption → Nat
  | some .cancelled => 0
  | some .expired => 1
  | none => 2

theorem Interruption.eq_of_rank_eq {i j : Option Interruption} (h : rank i = rank j) : i = j := by
  rcases i with _ | _ | _ <;> rcases j with _ | _ | _ <;> first | rfl | cases h

/-- What comes first, and when. -/
structure Earliest (due : Option Interruption → Nat → Prop) (i : Option Interruption) (t : Nat) :
    Prop where
  is_due : due i t
  first : ∀ j u, due j u → t < u ∨ t = u ∧ Interruption.rank i ≤ Interruption.rank j

theorem Earliest.unique {due : Option Interruption → Nat → Prop} {i j : Option Interruption}
    {t u : Nat} (h : Earliest due i t) (h' : Earliest due j u) : j = i ∧ u = t := by
  have hfirst := h.first j u h'.is_due
  have hfirst' := h'.first i t h.is_due
  exact ⟨Interruption.eq_of_rank_eq (by omega), by omega⟩

namespace Clock

/-- What may end a job of `ms` milliseconds from now on, and when. -/
inductive Due (k : Clock) (c : Context) (ms : Nat) (schedule : List Cancellation) :
    Option Interruption → Nat → Prop
  | cancelled {x : Cancellation} : x ∈ schedule → x.family = c.family → k.now ≤ x.time →
      Due k c ms schedule (some .cancelled) x.time
  | expired {d : Nat} : c.deadline = some d → Due k c ms schedule (some .expired) d
  | finished : Due k c ms schedule none (k.now + ms)

variable {k k' : Clock} {c : Context} {schedule schedule' : List Cancellation} {left : Nat}

@[simp] theorem now_deliver : (k.deliver schedule).now = k.now := rfl

@[simp] theorem now_advance (ms : Nat) : (k.advance ms).now = k.now + ms := rfl

@[simp] theorem isCancelled_advance (ms : Nat) :
    (k.advance ms).isCancelled c = k.isCancelled c := rfl

@[simp] theorem wakes_deliver : (k.deliver schedule).wakes c schedule' = k.wakes c schedule' := rfl

/-! ### One moment -/

/-- Nothing has happened yet that ends the job: its family was not cancelled, and its deadline did
not go by. -/
structure IsOpen (k : Clock) (c : Context) : Prop where
  not_cancelled : k.isCancelled c = false
  le_deadline : ∀ d, c.deadline = some d → k.now ≤ d

/-- The family of the context is cancelled at this moment. -/
def IsCancelledNow (k : Clock) (c : Context) (schedule : List Cancellation) : Prop :=
  ∃ x ∈ schedule, x.family = c.family ∧ x.time = k.now

/-- Neither is the family cancelled at this moment, nor is it the deadline. -/
structure IsStill (k : Clock) (c : Context) (schedule : List Cancellation) : Prop where
  not_cancelled : ¬k.IsCancelledNow c schedule
  lt_deadline : ∀ d, c.deadline = some d → k.now < d

theorem isCancelled_deliver :
    (k.deliver schedule).isCancelled c = true ↔
      k.IsCancelledNow c schedule ∨ k.isCancelled c = true := by
  simp only [isCancelled, deliver, IsCancelledNow, List.contains_iff_mem, List.mem_append,
    List.mem_map, List.mem_filter, decide_eq_true_eq]
  refine or_congr_left (exists_congr fun x => ?_)
  exact ⟨fun ⟨⟨hx, ht⟩, hf⟩ => ⟨hx, hf, ht⟩, fun ⟨hx, hf, ht⟩ => ⟨⟨hx, ht⟩, hf⟩⟩

/-- What is seen at a moment to which the job has come: that it is cancelled, that it is the
deadline, or nothing. -/
theorem IsOpen.seen (h : k.IsOpen c) (schedule : List Cancellation) :
    k.IsCancelledNow c schedule ∧
        (k.deliver schedule).interruption? c = some .cancelled ∨
      ¬k.IsCancelledNow c schedule ∧ c.deadline = some k.now ∧
        (k.deliver schedule).interruption? c = some .expired ∨
      k.IsStill c schedule ∧ (k.deliver schedule).interruption? c = none := by
  by_cases hnow : k.IsCancelledNow c schedule
  · exact .inl ⟨hnow, if_pos (isCancelled_deliver.2 (.inl hnow))⟩
  have hc : ¬(k.deliver schedule).isCancelled c = true := by
    simp [isCancelled_deliver, hnow, h.not_cancelled]
  refine .inr ?_
  rw [interruption?, if_neg hc]
  cases hd : c.deadline with
  | none => exact .inr ⟨⟨hnow, by simp [hd]⟩, rfl⟩
  | some d =>
    have hle := h.le_deadline d hd
    by_cases heq : d = k.now
    · exact .inl ⟨hnow, by rw [heq], by simp [heq]⟩
    · have hlt : k.now < d := by omega
      refine .inr ⟨⟨hnow, by simpa [hd] using hlt⟩, if_neg fun hover => ?_⟩
      exact Nat.not_le.2 hlt (of_decide_eq_true hover)

theorem wakes_iff :
    k.wakes c schedule = true ↔ k.IsCancelledNow c schedule ∨ c.deadline = some k.now := by
  simp only [wakes, IsCancelledNow, Bool.or_eq_true, List.any_eq_true, Bool.and_eq_true,
    decide_eq_true_eq, and_comm (a := _ = k.now)]

/-- If nothing wakes whoever waits for the job, there is nothing to see. -/
theorem IsOpen.seen_of_wakes (h : k.IsOpen c) (hw : k.wakes c schedule = false) :
    (k.deliver schedule).interruption? c = none := by
  obtain ⟨hnow, -⟩ | ⟨-, hd, -⟩ | ⟨-, hnone⟩ := h.seen schedule
  · exact absurd (wakes_iff.2 (.inl hnow)) (by simp [hw])
  · have hwakes : k.wakes c schedule = true := wakes_iff.2 (.inr hd)
    simp [hw] at hwakes
  · exact hnone

/-- A job that came to a still moment comes to the next one. -/
theorem IsOpen.next (h : k.IsOpen c) (hs : k.IsStill c schedule) :
    ((k.deliver schedule).advance 1).IsOpen c where
  not_cancelled := by
    have hc : ¬(k.deliver schedule).isCancelled c = true := by
      simp [isCancelled_deliver, hs.not_cancelled, h.not_cancelled]
    simpa only [isCancelled_advance, Bool.not_eq_true] using hc
  le_deadline := hs.lt_deadline

/-! ### What is due -/

theorem IsOpen.le_due (h : k.IsOpen c) {i : Option Interruption} {t : Nat}
    (hdue : k.Due c left schedule i t) : k.now ≤ t := by
  cases hdue with
  | cancelled _ _ hle => exact hle
  | expired hd => exact h.le_deadline _ hd
  | finished => exact Nat.le_add_right ..

theorem earliest_cancelled (h : k.IsOpen c) (hnow : k.IsCancelledNow c schedule) :
    Earliest (k.Due c left schedule) (some .cancelled) k.now where
  is_due := by
    obtain ⟨x, hx, hf, ht⟩ := hnow
    exact ht ▸ .cancelled hx hf (Nat.le_of_eq ht.symm)
  first j u hdue := by
    have hle := h.le_due hdue
    have hrank : Interruption.rank (some .cancelled) ≤ Interruption.rank j := Nat.zero_le _
    omega

theorem earliest_expired (h : k.IsOpen c) (hnow : ¬k.IsCancelledNow c schedule)
    (hd : c.deadline = some k.now) :
    Earliest (k.Due c left schedule) (some .expired) k.now where
  is_due := .expired hd
  first j u hdue := by
    have hle := h.le_due hdue
    cases hdue with
    | cancelled hx hf =>
      exact .inl (Nat.lt_of_le_of_ne hle fun ht => hnow ⟨_, hx, hf, ht.symm⟩)
    | expired => exact (Nat.lt_or_eq_of_le hle).imp_right fun ht => ⟨ht, Nat.le_refl _⟩
    | finished => exact (Nat.lt_or_eq_of_le hle).imp_right fun ht => ⟨ht, by decide⟩

/-- At its end, a job that nothing speaks against is done. -/
theorem earliest_finished (h : k.IsOpen c) (hs : k.IsStill c schedule) :
    Earliest (k.Due c 0 schedule) none k.now where
  is_due := .finished
  first j u hdue := by
    have hle := h.le_due hdue
    cases hdue with
    | cancelled hx hf =>
      exact .inl (Nat.lt_of_le_of_ne hle fun ht => hs.not_cancelled ⟨_, hx, hf, ht.symm⟩)
    | expired hd => exact .inl (hs.lt_deadline _ hd)
    | finished => exact .inr ⟨rfl, Nat.le_refl _⟩

/-- What is due after a still moment was due before it. -/
theorem IsStill.due_next (hs : k.IsStill c schedule) {i : Option Interruption} {t : Nat} :
    ((k.deliver schedule).advance 1).Due c left schedule i t ↔
      k.Due c (left + 1) schedule i t := by
  have hend : ((k.deliver schedule).advance 1).now + left = k.now + (left + 1) := by
    simp only [now_advance, now_deliver]
    omega
  constructor
  · intro hdue
    cases hdue with
    | cancelled hx hf hle => exact .cancelled hx hf (Nat.le_of_succ_le hle)
    | expired hd => exact .expired hd
    | finished => exact hend ▸ .finished
  · intro hdue
    cases hdue with
    | cancelled hx hf hle =>
      refine .cancelled hx hf (Nat.lt_of_le_of_ne hle fun ht => ?_)
      exact hs.not_cancelled ⟨_, hx, hf, ht.symm⟩
    | expired hd => exact .expired hd
    | finished => exact hend ▸ .finished

theorem IsStill.earliest_next (hs : k.IsStill c schedule) {i : Option Interruption} {t : Nat}
    (h : Earliest (((k.deliver schedule).advance 1).Due c left schedule) i t) :
    Earliest (k.Due c (left + 1) schedule) i t where
  is_due := hs.due_next.1 h.is_due
  first j u hdue := h.first j u (hs.due_next.2 hdue)

/-! ### Watching -/

/-- Nothing is missed by looking only when something wakes one. -/
theorem IsOpen.watch_succ (h : k.IsOpen c) (started : Bool) :
    watch c schedule (left + 1) started k =
      match (k.deliver schedule).interruption? c with
      | some i => ⟨some i, k.now, started⟩
      | none => watch c schedule left true ((k.deliver schedule).advance 1) := by
  rw [watch]
  by_cases hasleep : (started && !(k.deliver schedule).wakes c schedule) = true
  · have hw : k.wakes c schedule = false := by simp_all
    simp only [if_pos hasleep, h.seen_of_wakes hw]
  · rw [if_neg hasleep]
    rfl

/-- A job ends with what is due first. The induction is on the milliseconds that are left. -/
theorem watch_earliest (h : k.IsOpen c) (started : Bool) :
    Earliest (k.Due c left schedule) (watch c schedule left started k).interruption
      (watch c schedule left started k).time := by
  induction left generalizing k started with
  | zero =>
    rw [watch]
    obtain ⟨hnow, hseen⟩ | ⟨hnow, hd, hseen⟩ | ⟨hs, hseen⟩ := h.seen schedule <;>
      simp only [hseen]
    · exact earliest_cancelled h hnow
    · exact earliest_expired h hnow hd
    · exact earliest_finished h hs
  | succ left ih =>
    rw [h.watch_succ]
    obtain ⟨hnow, hseen⟩ | ⟨hnow, hd, hseen⟩ | ⟨hs, hseen⟩ := h.seen schedule <;>
      simp only [hseen]
    · exact earliest_cancelled h hnow
    · exact earliest_expired h hnow hd
    · exact hs.earliest_next (ih (h.next hs) true)

theorem started_watch : (watch c schedule left true k).started = true := by
  induction left generalizing k with
  | zero =>
    rw [watch]
    split <;> rfl
  | succ left ih =>
    rw [watch]
    split
    · rfl
    · exact ih

/-- A job whose deadline is to come is started unless it is cancelled at its first moment. -/
theorem started_watch_or (h : k.IsOpen c) (hd : c.deadline ≠ some k.now) :
    (watch c schedule left false k).started = true ∨
      watch c schedule left false k = ⟨some .cancelled, k.now, false⟩ := by
  obtain ⟨-, hseen⟩ | ⟨-, hnow, -⟩ | ⟨-, hseen⟩ := h.seen schedule
  · cases left with
    | zero => exact .inr (by simp [watch, hseen])
    | succ => exact .inr (by simp [h.watch_succ, hseen])
  · exact absurd hnow hd
  · cases left with
    | zero => exact .inl (by simp [watch, hseen])
    | succ => exact .inl (by simpa [h.watch_succ, hseen] using started_watch)

/-! ### Other families -/

/-- Two clocks and their schedules differ in other families only. -/
structure AgreesOn (c : Context) (k k' : Clock) (schedule schedule' : List Cancellation) :
    Prop where
  now_eq : k'.now = k.now
  isCancelled_eq : k'.isCancelled c = k.isCancelled c
  mem_iff : ∀ x : Cancellation, x.family = c.family → (x ∈ schedule' ↔ x ∈ schedule)

namespace AgreesOn

variable (h : AgreesOn c k k' schedule schedule')
include h

theorem interruption?_eq : k'.interruption? c = k.interruption? c := by
  simp only [interruption?, h.now_eq, h.isCancelled_eq]

theorem isCancelledNow_iff : k'.IsCancelledNow c schedule' ↔ k.IsCancelledNow c schedule := by
  simp only [IsCancelledNow, h.now_eq]
  exact exists_congr fun x =>
    ⟨fun ⟨hx, hf, ht⟩ => ⟨(h.mem_iff x hf).1 hx, hf, ht⟩,
      fun ⟨hx, hf, ht⟩ => ⟨(h.mem_iff x hf).2 hx, hf, ht⟩⟩

theorem wakes_eq : k'.wakes c schedule' = k.wakes c schedule := by
  rw [Bool.eq_iff_iff, wakes_iff, wakes_iff, h.isCancelledNow_iff, h.now_eq]

theorem deliver : AgreesOn c (k.deliver schedule) (k'.deliver schedule') schedule schedule' where
  now_eq := h.now_eq
  isCancelled_eq := by
    rw [Bool.eq_iff_iff, isCancelled_deliver, isCancelled_deliver, h.isCancelledNow_iff,
      h.isCancelled_eq]
  mem_iff := h.mem_iff

theorem advance (ms : Nat) :
    AgreesOn c (k.advance ms) (k'.advance ms) schedule schedule' where
  now_eq := congrArg (· + ms) h.now_eq
  isCancelled_eq := h.isCancelled_eq
  mem_iff := h.mem_iff

/-- Other families have no part in how a job ends. -/
theorem watch_eq (started : Bool) :
    watch c schedule' left started k' = watch c schedule left started k := by
  induction left generalizing k k' started with
  | zero => simp only [watch, h.deliver.interruption?_eq, h.deliver.now_eq]
  | succ left ih =>
    simp only [watch, h.deliver.wakes_eq, h.deliver.interruption?_eq, h.deliver.now_eq,
      ih (h.deliver.advance 1)]

theorem outcome_eq (ms : Nat) : k'.outcome c ms schedule' = k.outcome c ms schedule := by
  simp only [outcome, h.interruption?_eq, h.now_eq, h.watch_eq]

end AgreesOn

/-! ### A whole run -/

theorem isOpen_of_lt (hc : k.isCancelled c = false) (hd : ∀ d, c.deadline = some d → k.now < d) :
    k.IsOpen c ∧ c.deadline ≠ some k.now :=
  ⟨⟨hc, fun d h => Nat.le_of_lt (hd d h)⟩, fun h => Nat.lt_irrefl _ (hd _ h)⟩

theorem outcome_eq_watch (hc : k.isCancelled c = false)
    (hd : ∀ d, c.deadline = some d → k.now < d) (ms : Nat) :
    k.outcome c ms schedule = watch c schedule ms false k := by
  have hnone : k.interruption? c = none := by
    cases h : c.deadline with
    | none => simp [interruption?, hc, h]
    | some d => simpa [interruption?, hc, h] using hd d h
  rw [outcome, hnone]

/-- **A job ends with what is due first.** Under a context whose family was cancelled a job is not
started, and comes to a cancellation at once; nor is it started after the deadline. Otherwise it
ends, at that very moment, with the first of a cancellation of its family, the deadline and its own
end, where those of one moment come in this order; it is started, unless it is cancelled at the
moment it is to start. Other families have no part in this, neither those that were cancelled nor
those that are going to be. -/
theorem outcome_earliest (k : Clock) (c : Context) (ms : Nat) (schedule : List Cancellation) :
    (k.isCancelled c = true → k.outcome c ms schedule = ⟨some .cancelled, k.now, false⟩) ∧
      (k.isCancelled c = false → (∃ d ≤ k.now, c.deadline = some d) →
        k.outcome c ms schedule = ⟨some .expired, k.now, false⟩) ∧
      (k.isCancelled c = false → (∀ d, c.deadline = some d → k.now < d) →
        (∀ i t, Earliest (k.Due c ms schedule) i t ↔
            i = (k.outcome c ms schedule).interruption ∧ t = (k.outcome c ms schedule).time) ∧
          ((k.outcome c ms schedule).started = true ∨
            k.outcome c ms schedule = ⟨some .cancelled, k.now, false⟩)) ∧
      ∀ k' schedule', AgreesOn c k k' schedule schedule' →
        k'.outcome c ms schedule' = k.outcome c ms schedule := by
  refine ⟨fun hc => ?_, fun hc ⟨d, hle, hd⟩ => ?_, fun hc hlt => ?_,
    fun k' schedule' h => h.outcome_eq ms⟩
  · simp [outcome, interruption?, hc]
  · simp [outcome, interruption?, hc, hd, hle]
  · obtain ⟨hopen, hne⟩ := isOpen_of_lt hc hlt
    rw [outcome_eq_watch hc hlt]
    have hfirst : Earliest (k.Due c ms schedule) _ _ := watch_earliest hopen false
    refine ⟨fun i t => ⟨hfirst.unique, ?_⟩, started_watch_or hopen hne⟩
    rintro ⟨rfl, rfl⟩
    exact hfirst

/-- The job, its deadline and a cancellation of its family are due together, after another family
was cancelled and before yet another is. -/
theorem outcome_earliest_together :
    let k : Clock := ⟨5, 3, [1]⟩
    let schedule : List Cancellation := [⟨7, 2⟩, ⟨15, 0⟩]
    k.outcome ⟨1, some 5⟩ 10 schedule = ⟨some .cancelled, 5, false⟩ ∧
      k.outcome ⟨0, some 5⟩ 10 schedule = ⟨some .expired, 5, false⟩ ∧
      Earliest (k.Due ⟨0, some 15⟩ 10 schedule) (some .cancelled) 15 ∧
      k.outcome ⟨0, some 15⟩ 10 schedule = ⟨some .cancelled, 15, true⟩ ∧
      (⟨5, 1, []⟩ : Clock).outcome ⟨0, some 15⟩ 10 [⟨15, 0⟩] = ⟨some .cancelled, 15, true⟩ := by
  intro k schedule
  obtain ⟨hcancelled, -, -, -⟩ := outcome_earliest k ⟨1, some 5⟩ 10 schedule
  obtain ⟨-, hexpired, -, -⟩ := outcome_earliest k ⟨0, some 5⟩ 10 schedule
  obtain ⟨-, -, hopen, hothers⟩ := outcome_earliest k ⟨0, some 15⟩ 10 schedule
  obtain ⟨hfirst, -⟩ := hopen (by decide) (by simp [k])
  refine ⟨hcancelled (by decide), hexpired (by decide) ⟨5, by decide, rfl⟩,
    (hfirst _ _).2 ⟨by decide, by decide⟩, by decide, ?_⟩
  have hagrees : AgreesOn ⟨0, some 15⟩ k ⟨5, 1, []⟩ schedule [⟨15, 0⟩] :=
    ⟨rfl, by decide, fun x (hx : x.family = 0) => by
      have hne : x ≠ ⟨7, 2⟩ := fun h => by simp [h] at hx
      simp [schedule, hne]⟩
  rw [hothers _ _ hagrees]
  decide

end Clock

end EntityGraph
