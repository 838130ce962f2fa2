import EntityGraph.Load.Batch
import EntityGraph.Proofs.Sql.Identifier
import Mathlib.Data.List.Forall2

/-!
# What runs do

Two ways to reason about a run. `bind_eq_ok` takes a run that succeeded apart into its steps.
`Ensures` says of a run, whatever world it starts in, which statements it may issue, which errors it
may end with and what its value satisfies; a run that issues nothing leaves the database alone.
There is one rule for each way to build a run and one lemma for each primitive. More judgements say
that a run issues a statement for certain (`Begins`), that what it comes to does not depend on the
world it starts in (`Firm`), and that it comes to the same in two worlds (`Agrees`).
-/

namespace EntityGraph

open Sql (Statement Record Purpose)

variable {reg : Registry} {σ α β : Type}

/-- A list that is mapped without error is mapped element by element. -/
theorem forall₂_of_mapM_eq_ok {ε : Type} {f : α → Except ε β} {as : List α} {bs : List β}
    (h : as.mapM f = .ok bs) : List.Forall₂ (fun a b => f a = .ok b) as bs := by
  induction as generalizing bs with
  | nil =>
    cases h
    exact .nil
  | cons a as ih =>
    rw [List.mapM_cons] at h
    cases hhead : f a with
    | error e => simp [hhead, bind, Except.bind] at h
    | ok b =>
      cases htail : as.mapM f with
      | error e => simp [hhead, htail, bind, Except.bind] at h
      | ok rest =>
        simp only [hhead, htail, bind, Except.bind, pure, Except.pure, Except.ok.injEq] at h
        subst h
        exact .cons hhead (ih htail)

theorem mapM_eq_ok_of_forall₂ {ε : Type} {f : α → Except ε β} {as : List α} {bs : List β}
    (h : List.Forall₂ (fun a b => f a = .ok b) as bs) : as.mapM f = .ok bs := by
  induction h with
  | nil => rfl
  | cons hhead _ ih =>
    rw [List.mapM_cons, hhead, ih]
    rfl

theorem exists_of_mapM_eq_ok {ε : Type} {f : α → Except ε β} {as : List α} {bs : List β}
    (h : as.mapM f = .ok bs) {b : β} (hb : b ∈ bs) : ∃ a ∈ as, f a = .ok b := by
  have hall := forall₂_of_mapM_eq_ok h
  obtain ⟨i, hi, rfl⟩ := List.getElem_of_mem hb
  have hlt : i < as.length := hall.length_eq ▸ hi
  exact ⟨as[i], List.getElem_mem hlt, hall.get hlt hi⟩

/-- The answer to a statement does not depend on what the database was asked before. -/
def Database.IsStateless (db : Database σ) : Prop :=
  ∀ s before before', (db.answer s before).1 = (db.answer s before').1

/-- What a catalog resolves anew is resolved as the schema says. -/
theorem Catalog.fst_resolve (c : Catalog reg) {type : String} {s : Schema}
    (hs : reg.schema type = .ok s) (name : String) :
    (c.resolve type name s hs).1 = s.resolve name := by
  rw [Catalog.resolve, Schema.resolve]
  split
  · next hsome => simp [hsome]
  · next hnone => simp [hnone]

namespace Run

/-! ### Steps of a run -/

variable {x : Run reg σ α} {f : α → Run reg σ β} {w w' : World reg σ}

theorem run_bind (x : Run reg σ α) (f : α → Run reg σ β) (w : World reg σ) :
    (x >>= f).run w = match x.run w with
      | (.ok a, w₁) => (f a).run w₁
      | (.error e, w₁) => (.error e, w₁) := by
  show ExceptT.bindCont f (x.run w).1 (x.run w).2 = _
  rcases x.run w with ⟨e | a, w₁⟩ <;> rfl

theorem run_ofExcept (y : Except Error α) (w : World reg σ) :
    (MonadExcept.ofExcept y : Run reg σ α).run w = (y, w) := by
  cases y <;> rfl

/-- A run that succeeds has steps that succeed. -/
theorem bind_eq_ok {b : β} (h : (x >>= f).run w = (.ok b, w')) :
    ∃ a w₁, x.run w = (.ok a, w₁) ∧ (f a).run w₁ = (.ok b, w') := by
  rw [run_bind] at h
  rcases hx : x.run w with ⟨e | a, w₁⟩
  · rw [hx] at h
    cases h
  · rw [hx] at h
    exact ⟨a, w₁, rfl, h⟩

/-- A run that fails does so in its first step or after it. -/
theorem bind_eq_error {e : Error} (h : (x >>= f).run w = (.error e, w')) :
    x.run w = (.error e, w') ∨
      ∃ a w₁, x.run w = (.ok a, w₁) ∧ (f a).run w₁ = (.error e, w') := by
  rw [run_bind] at h
  rcases hx : x.run w with ⟨e' | a, w₁⟩
  · rw [hx] at h
    cases h
    exact .inl rfl
  · rw [hx] at h
    exact .inr ⟨a, w₁, rfl, h⟩

theorem run_bind_of_ok {a : α} (h : x.run w = (.ok a, w')) :
    (x >>= f).run w = (f a).run w' := by
  rw [run_bind, h]

theorem run_bind_of_error {e : Error} (h : x.run w = (.error e, w')) :
    (x >>= f).run w = (.error e, w') := by
  rw [run_bind, h]

theorem pure_eq_ok {a b : α} (h : (pure a : Run reg σ α).run w = (.ok b, w')) :
    a = b ∧ w = w' := by
  cases h
  exact ⟨rfl, rfl⟩

theorem ofExcept_eq_ok {y : Except Error α} {a : α}
    (h : (MonadExcept.ofExcept y : Run reg σ α).run w = (.ok a, w')) : y = .ok a ∧ w = w' := by
  rw [run_ofExcept] at h
  exact Prod.mk.inj h

theorem run_ofLoaded (work : StateM (World reg σ) Loaded) (w : World reg σ) :
    (ofLoaded work).run w = ((work w).1.outcome, (work w).2) := rfl

theorem ofLoaded_eq_ok {work : StateM (World reg σ) Loaded} {es : List Entity}
    (h : (ofLoaded work).run w = (.ok es, w')) : work w = (⟨es, none⟩, w') := by
  rw [run_ofLoaded] at h
  rcases hwork : work w with ⟨⟨entities, _ | why⟩, w₁⟩
  · rw [hwork] at h
    cases h
    rfl
  · rw [hwork] at h
    cases h

theorem run_ofLoaded_of_ok {work : StateM (World reg σ) Loaded} {es : List Entity}
    (h : work w = (⟨es, none⟩, w')) : (ofLoaded work).run w = (.ok es, w') := by
  rw [run_ofLoaded, h]
  rfl

theorem run_ofLoaded_of_failure {work : StateM (World reg σ) Loaded} {es : List Entity}
    {why : Error} (h : work w = (⟨es, some why⟩, w')) :
    (ofLoaded work).run w = (.error why, w') := by
  rw [run_ofLoaded, h]
  rfl

/-! ### What a run ensures -/

/-- Work issues only statements that satisfy `P`, and yields a value that satisfies `Q`. If it
issues none, the database stays as it is. -/
def Yields (work : StateM (World reg σ) α) (P : Statement → Prop) (Q : α → Prop) : Prop :=
  ∀ w, ∃ issued, (work w).2.issued = w.issued ++ issued ∧
    (issued = [] → (work w).2.state = w.state) ∧ (∀ s ∈ issued, P s) ∧ Q (work w).1

/-- How a run may end: with an error that satisfies `E` or a value that satisfies `Q`. -/
def Ends (E : Error → Prop) (Q : α → Prop) : Except Error α → Prop
  | .error e => E e
  | .ok a => Q a

/-- A run issues only statements that satisfy `P`, and ends with an error that satisfies `E` or a
value that satisfies `Q`. -/
def Ensures (x : Run reg σ α) (P : Statement → Prop) (E : Error → Prop) (Q : α → Prop) : Prop :=
  Yields x.run P (Ends E Q)

/-- A run issues no statement, and its value satisfies `Q` if it has one. -/
abbrev Finds (x : Run reg σ α) (Q : α → Prop) : Prop :=
  Ensures x (fun _ => False) (fun _ => True) Q

/-- A run issues no statement. -/
abbrev Quiet (x : Run reg σ α) : Prop := Finds x fun _ => True

section
variable {P P' : Statement → Prop} {E E' : Error → Prop} {Q Q' : α → Prop} {R : β → Prop}
variable {work : StateM (World reg σ) α}

theorem Yields.pure {a : α} (h : Q a) :
    Yields (Pure.pure a : StateM (World reg σ) α) P Q :=
  fun _ => ⟨[], (List.append_nil _).symm, fun _ => rfl, by simp, h⟩

theorem Yields.bind {next : α → StateM (World reg σ) β} (h : Yields work P Q)
    (hnext : ∀ a, Q a → Yields (next a) P R) : Yields (work >>= next) P R := by
  intro w
  obtain ⟨first, hfirst, hstill, hP, hQ⟩ := h w
  obtain ⟨second, hsecond, hstill', hP', hR⟩ := hnext _ hQ (work w).2
  refine ⟨first ++ second, ?_, fun hnil => ?_, fun s hs => ?_, hR⟩
  · show (next (work w).1 (work w).2).2.issued = _
    rw [hsecond, hfirst, List.append_assoc]
  · obtain ⟨rfl, rfl⟩ := List.append_eq_nil_iff.1 hnil
    exact (hstill' rfl).trans (hstill rfl)
  · exact (List.mem_append.1 hs).elim (hP s) (hP' s)

theorem Yields.mono (h : Yields work P Q) (hP : ∀ s, P s → P' s) (hQ : ∀ a, Q a → Q' a) :
    Yields work P' Q' := by
  intro w
  obtain ⟨issued, hissued, hstill, hall, hq⟩ := h w
  exact ⟨issued, hissued, hstill, fun s hs => hP s (hall s hs), hQ _ hq⟩

theorem Ensures.pure {a : α} (h : Q a) : Ensures (Pure.pure a : Run reg σ α) P E Q :=
  Yields.pure h

theorem Ensures.throw {e : Error} (h : E e) :
    Ensures (MonadExcept.throw e : Run reg σ α) P E Q :=
  Yields.pure h

theorem Ensures.bind (h : Ensures x P E Q) (hf : ∀ a, Q a → Ensures (f a) P E R) :
    Ensures (x >>= f) P E R := by
  have hbind : (x >>= f).run = x.run >>= ExceptT.bindCont f := rfl
  rw [Ensures, hbind]
  refine Yields.bind h fun r hr => ?_
  cases r with
  | error e => exact Yields.pure hr
  | ok a => exact hf a hr

theorem Ensures.map {g : α → β} (h : Ensures x P E fun a => R (g a)) :
    Ensures (g <$> x) P E R := by
  rw [map_eq_pure_bind]
  exact h.bind fun _ => Ensures.pure

theorem Ensures.mono (h : Ensures x P E Q) (hP : ∀ s, P s → P' s) (hE : ∀ e, E e → E' e)
    (hQ : ∀ a, Q a → Q' a) : Ensures x P' E' Q' := by
  refine Yields.mono h hP fun r hr => ?_
  cases r with
  | error e => exact hE e hr
  | ok a => exact hQ a hr

/-- A run may be said to end with more errors than it does. -/
theorem Ensures.weaken (h : Ensures x P E Q) (hE : ∀ e, E e → E' e) : Ensures x P E' Q :=
  h.mono (fun _ => id) hE fun _ => id

/-- A run may be said to yield more values than it does. -/
theorem Ensures.imp (h : Ensures x P E Q) (hQ : ∀ a, Q a → Q' a) : Ensures x P E Q' :=
  h.mono (fun _ => id) (fun _ => id) hQ

theorem Ensures.finds (h : Ensures x (fun _ => False) E Q) : Finds x Q :=
  h.mono (fun _ => id) (fun _ _ => trivial) fun _ => id

theorem Ensures.quiet (h : Ensures x (fun _ => False) E Q) : Quiet x :=
  h.mono (fun _ => id) (fun _ _ => trivial) fun _ _ => trivial

/-- What issues nothing may stand among work that issues statements. -/
theorem Ensures.silent (h : Ensures x (fun _ => False) E Q) : Ensures x P E Q :=
  h.mono (fun _ => False.elim) (fun _ => id) fun _ => id

/-- The database stands where it stood before, and no statement was issued in between. -/
structure Untouched (w w' : World reg σ) : Prop where
  issued_eq : w'.issued = w.issued
  state_eq : w'.state = w.state

theorem Untouched.trans {w w' w'' : World reg σ} (h : Untouched w w') (h' : Untouched w' w'') :
    Untouched w w'' :=
  ⟨h'.issued_eq.trans h.issued_eq, h'.state_eq.trans h.state_eq⟩

theorem Quiet.untouched (h : Quiet x) (w : World reg σ) : Untouched w (x.run w).2 := by
  obtain ⟨issued, hissued, hstill, hnone, -⟩ := h w
  cases issued with
  | nil => exact ⟨hissued.trans (List.append_nil _), hstill rfl⟩
  | cons s rest => exact (hnone s (by simp)).elim

theorem Quiet.bind_eq_ok {b : β} (hx : Quiet x) (h : (x >>= f).run w = (.ok b, w')) :
    ∃ a w₁, x.run w = (.ok a, w₁) ∧ Untouched w w₁ ∧ (f a).run w₁ = (.ok b, w') := by
  obtain ⟨a, w₁, ha, hf⟩ := Run.bind_eq_ok h
  have huntouched := hx.untouched w
  rw [ha] at huntouched
  exact ⟨a, w₁, ha, huntouched, hf⟩

theorem Ensures.of_ok (h : Ensures x P E Q) {a : α} (hx : x.run w = (.ok a, w')) : Q a := by
  obtain ⟨-, -, -, -, hends⟩ := h w
  rw [hx] at hends
  exact hends

/-- A run that may not fail ends with a value. -/
theorem Ensures.exists_ok (h : Ensures x P (fun _ => False) Q) (w : World reg σ) :
    ∃ a w', x.run w = (.ok a, w') ∧ Q a := by
  obtain ⟨-, -, -, -, hends⟩ := h w
  rcases hx : x.run w with ⟨e | a, w'⟩
  · rw [hx] at hends
    exact hends.elim
  · rw [hx] at hends
    exact ⟨a, w', rfl, hends⟩

/-- The value of a run is the value of the run in some world. -/
theorem Ensures.reached (h : Ensures x P E Q) :
    Ensures x P E fun a => Q a ∧ ∃ w w', x.run w = (.ok a, w') := by
  intro w
  obtain ⟨issued, hissued, hstill, hP, hends⟩ := h w
  refine ⟨issued, hissued, hstill, hP, ?_⟩
  rcases hx : x.run w with ⟨e | a, w'⟩
  · rw [hx] at hends
    exact hends
  · rw [hx] at hends
    exact ⟨hends, w, w', hx⟩

/-! ### Primitives -/

theorem ensures_ofExcept {y : Except Error α} (h : Ends E Q y) :
    Ensures (MonadExcept.ofExcept y : Run reg σ α) P E Q := by
  cases y with
  | error e => exact Ensures.throw h
  | ok a => exact Ensures.pure h

theorem ensures_ofExcept_of {y : Except Error α} {a : α} (h : y = .ok a) :
    Ensures (MonadExcept.ofExcept y : Run reg σ α) P E (· = a) :=
  ensures_ofExcept (by rw [h]; rfl)

theorem ensures_emit (e : Event) : Ensures (emit e : Run reg σ Unit) P E fun _ => True :=
  fun _ => ⟨[], (List.append_nil _).symm, fun _ => rfl, by simp, trivial⟩

theorem quiet_emit (e : Event) : Quiet (emit e : Run reg σ Unit) := ensures_emit e

theorem ensures_onCatalog {g : Catalog reg → α × Catalog reg} (h : ∀ c, Q (g c).1) :
    Ensures (onCatalog g : Run reg σ α) P E Q :=
  fun w => ⟨[], (List.append_nil _).symm, fun _ => rfl, by simp, h w.catalog⟩

theorem ensures_mapM {g : α → Run reg σ β} {R : α → β → Prop} {l : List α}
    (h : ∀ a ∈ l, Ensures (g a) P E (R a)) :
    Ensures (l.mapM g) P E fun bs => List.Forall₂ R l bs := by
  induction l with
  | nil => exact Ensures.pure .nil
  | cons a l ih =>
    rw [List.mapM_cons]
    refine (h a (by simp)).bind fun b hb => ?_
    refine (ih fun a ha => h a (List.mem_cons_of_mem _ ha)).bind fun bs hbs => ?_
    exact Ensures.pure (.cons hb hbs)

theorem ensures_forM {l : List α} {g : α → Run reg σ PUnit}
    (h : ∀ a ∈ l, Ensures (g a) P E fun _ => True) : Ensures (l.forM g) P E fun _ => True := by
  induction l with
  | nil => exact Ensures.pure trivial
  | cons a l ih =>
    exact (h a (by simp)).bind fun _ _ => ih fun a ha => h a (List.mem_cons_of_mem _ ha)

/-- The error of a name that is rejected. -/
def IsRejection (names : List String) (e : Error) : Prop :=
  ∃ name ∈ names, ∃ why, Sql.checkIdentifier name = .error why ∧ e = .identifier why

theorem ensures_checkNames (names : List String) :
    Ensures (checkNames names : Run reg σ Unit) P (IsRejection names)
      fun _ => ∀ name ∈ names, Sql.Accepted name := by
  refine ensures_ofExcept ?_
  cases h : Sql.checkIdentifiers names with
  | error why =>
    obtain ⟨name, hname, hwhy⟩ := Sql.checkIdentifiers_eq_error h
    exact ⟨name, hname, why, hwhy, rfl⟩
  | ok _ => exact Sql.checkIdentifiers_eq_ok.1 h

/-- Names that are accepted are checked without fail. -/
theorem ensures_checkNames_of {names : List String} (h : ∀ name ∈ names, Sql.Accepted name) :
    Ensures (checkNames names : Run reg σ Unit) P E fun _ => True := by
  refine (ensures_checkNames names).mono (fun _ => id) (fun e he => ?_) fun _ _ => trivial
  obtain ⟨name, hname, why, hwhy, -⟩ := he
  rw [h name hname] at hwhy
  cases hwhy

theorem ensures_checkName (name : String) :
    Ensures (checkName name : Run reg σ Unit) P (IsRejection [name]) fun _ =>
      Sql.Accepted name := by
  refine ensures_ofExcept ?_
  cases h : Sql.checkIdentifier name with
  | error why => exact ⟨name, by simp, why, h, rfl⟩
  | ok _ => exact h

theorem ensures_checkName_of {name : String} (h : Sql.Accepted name) :
    Ensures (checkName name : Run reg σ Unit) P E fun _ => True := by
  rw [checkName, h]
  exact Ensures.pure trivial

theorem ensures_snakeCase (s : String) :
    Ensures (snakeCase s : Run reg σ String) P E (· = Text.snakeCase s) :=
  ensures_onCatalog fun c => c.snakeCase_fst s

/-- A walk comes to every value of a map, in some order. -/
theorem ensures_walk (values : List String) :
    Ensures (walk values : Run reg σ (List String)) P E fun order => order.Perm values :=
  fun w => ⟨[], (List.append_nil _).symm, fun _ => rfl, by simp, (w.walks 0).perm values⟩

/-- The error of a type without columns. -/
def HasNoSchema (reg : Registry) (type : String) (e : Error) : Prop :=
  e = .noColumns type ∧ ∀ s, reg.schema type ≠ .ok s

theorem ensures_schema (type : String) :
    Ensures (schema type : Run reg σ _) P (HasNoSchema reg type) fun _ => True := by
  have hget : Ensures (get : Run reg σ (World reg σ)) P (HasNoSchema reg type) fun _ => True :=
    fun _ => ⟨[], (List.append_nil _).symm, fun _ => rfl, by simp, trivial⟩
  refine hget.bind fun w _ => ?_
  cases w.catalog.known? type with
  | some s => exact Ensures.pure trivial
  | none =>
    refine (ensures_forM fun p _ => ensures_emit _).bind fun _ _ => ?_
    by_cases h : (reg.get type).columns.isEmpty = false
    · rw [dif_pos h]
      refine (ensures_onCatalog (Q := fun _ => True) fun _ => trivial).bind fun s _ => ?_
      refine (ensures_emit _).bind fun _ _ => (ensures_emit _).bind fun _ _ => ?_
      exact Ensures.pure trivial
    · rw [dif_neg h]
      refine Ensures.throw ⟨rfl, fun s hs => ?_⟩
      rw [Bool.not_eq_false] at h
      simp [Registry.schema, h] at hs

/-- The schema of a type that has one is found without fail. -/
theorem ensures_schema_of {type : String} {s : Schema} (hs : reg.schema type = .ok s) :
    Ensures (schema type : Run reg σ _) P E fun s' => s = s'.val :=
  (ensures_schema type).mono (fun _ => id) (fun _ h => absurd hs (h.2 s)) fun s' _ =>
    Except.ok.inj (hs.symm.trans s'.property)

theorem ensures_resolve (type name : String) :
    Ensures (resolve type name : Run reg σ _) P (HasNoSchema reg type)
      (· = reg.resolve (type, name)) := by
  refine (ensures_onCatalog (Q := fun r => ∀ c, r = some c → c = reg.resolve (type, name))
    fun c found hfound => c.columns.find?_some hfound).bind fun r hr => ?_
  cases r with
  | some found => exact Ensures.pure (hr found rfl)
  | none =>
    refine (ensures_schema type).bind fun s _ => ?_
    refine ensures_onCatalog fun c => ?_
    rw [Catalog.resolve_of_schema s.property, Catalog.fst_resolve]

theorem ensures_resolveOrKeep (type name : String) :
    Ensures (resolveOrKeep type name : Run reg σ _) P (HasNoSchema reg type)
      (· = (reg.resolve (type, name)).getD name) := by
  refine (ensures_resolve type name).bind fun r hr => ?_
  exact Ensures.pure (by rw [hr])

theorem ensures_issue (db : Database σ) (purpose : Purpose) (s : Statement) :
    Ensures (issue db purpose s : Run reg σ (List Record)) (· = s)
      (fun e => ∃ failure, e = .query purpose s failure) fun _ => True := by
  refine (ensures_emit _).bind fun _ _ => ?_
  have hanswer : Ensures
      (modifyGet fun w =>
        ((db.answer s w.state).1,
          { w with state := (db.answer s w.state).2, issued := w.issued ++ [s] }) :
        Run reg σ (Except Failure (List Record)))
      (· = s) (fun e => ∃ failure, e = .query purpose s failure) fun _ => True :=
    fun _ => ⟨[s], rfl, by simp, by simp, trivial⟩
  refine hanswer.bind fun answer _ => ?_
  refine ensures_ofExcept ?_
  cases answer with
  | error failure => exact ⟨failure, rfl⟩
  | ok _ => trivial

/-- A statement that is always answered with the same rows. -/
theorem ensures_issue_of {db : Database σ} {s : Statement} {records : List Record}
    (h : ∀ state, (db.answer s state).1 = .ok records) (purpose : Purpose) :
    Ensures (issue db purpose s : Run reg σ (List Record)) (· = s) E (· = records) := by
  refine (ensures_emit _).bind fun _ _ => ?_
  have hanswer : Ensures
      (modifyGet fun w =>
        ((db.answer s w.state).1,
          { w with state := (db.answer s w.state).2, issued := w.issued ++ [s] }) :
        Run reg σ (Except Failure (List Record)))
      (· = s) E (· = .ok records) :=
    fun w => ⟨[s], rfl, by simp, by simp, h w.state⟩
  refine hanswer.bind fun answer heq => ?_
  subst heq
  exact ensures_ofExcept rfl

/-- A statement was issued and the database answered it with these rows. -/
structure Answered (db : Database σ) (s : Statement) (w w' : World reg σ) (records : List Record) :
    Prop where
  issued_eq : w'.issued = w.issued ++ [s]
  state_eq : w'.state = (db.answer s w.state).2
  answer_eq : (db.answer s w.state).1 = .ok records

theorem Answered.after {db : Database σ} {s : Statement} {w w₁ w₂ : World reg σ}
    {records : List Record} (h : Answered db s w₁ w₂ records) (hw : Untouched w w₁) :
    Answered db s w w₂ records :=
  ⟨hw.issued_eq ▸ h.issued_eq, hw.state_eq ▸ h.state_eq, hw.state_eq ▸ h.answer_eq⟩

theorem Answered.before {db : Database σ} {s : Statement} {w w₁ w₂ : World reg σ}
    {records : List Record} (h : Answered db s w w₁ records) (hw : Untouched w₁ w₂) :
    Answered db s w w₂ records :=
  ⟨hw.issued_eq.trans h.issued_eq, hw.state_eq.trans h.state_eq, h.answer_eq⟩

/-- An answered statement is issued, and its answer is the database's. -/
theorem issue_eq_ok {db : Database σ} {purpose : Purpose} {s : Statement} {records : List Record}
    (h : (issue db purpose s : Run reg σ (List Record)).run w = (.ok records, w')) :
    Answered db s w w' records := by
  obtain ⟨u, w₁, hemit, h⟩ := bind_eq_ok h
  obtain ⟨answer, w₂, hanswer, h⟩ := bind_eq_ok h
  obtain ⟨hrecords, rfl⟩ := ofExcept_eq_ok h
  obtain rfl := congrArg Prod.snd hemit
  obtain rfl := congrArg Prod.snd hanswer
  have hok : (db.answer s w.state).1 = answer := Except.ok.inj (congrArg Prod.fst hanswer)
  refine ⟨rfl, rfl, ?_⟩
  rw [hok]
  cases answer with
  | error failure => simp [Except.mapError] at hrecords
  | ok rs => simpa [Except.mapError] using hrecords

theorem ensures_ofLoaded {work : StateM (World reg σ) Loaded} {Q : List Entity → Prop}
    (h : Yields work P fun l => Ends E Q l.outcome) : Ensures (ofLoaded work) P E Q := by
  have hmap : (ofLoaded work).run = work >>= fun l => Pure.pure l.outcome := rfl
  rw [Ensures, hmap]
  exact h.bind fun l hl => Yields.pure hl

end

/-! ### Runs that issue a statement for certain -/

/-- A run issues a statement, and none before it. -/
def Begins (x : Run reg σ α) (s : Statement) : Prop :=
  ∀ w, ∃ rest, (x.run w).2.issued = w.issued ++ s :: rest

theorem begins_issue (db : Database σ) (purpose : Purpose) (s : Statement) :
    Begins (issue db purpose s : Run reg σ (List Record)) s := by
  intro w
  obtain ⟨w₁, hemit, hissued⟩ : ∃ w₁, (emit (.executing purpose.text s.text s.args.length) :
      Run reg σ Unit).run w = (.ok (), w₁) ∧ w₁.issued = w.issued := ⟨_, rfl, rfl⟩
  refine ⟨[], ?_⟩
  rw [issue, run_bind, hemit, ← hissued]
  show (Prod.snd ((_ >>= _ : Run reg σ (List Record)).run w₁)).issued = _
  rw [run_bind]
  exact congrArg World.issued (congrArg Prod.snd (run_ofExcept _ _))

/-- What is done before a statement neither fails nor issues anything. -/
theorem Begins.after {Q : α → Prop} {s : Statement}
    (hx : Ensures x (fun _ => False) (fun _ => False) Q) (hf : ∀ a, Q a → Begins (f a) s) :
    Begins (x >>= f) s := by
  intro w
  obtain ⟨issued, hissued, -, hnone, hends⟩ := hx w
  obtain rfl : issued = [] := List.eq_nil_iff_forall_not_mem.2 hnone
  rw [List.append_nil] at hissued
  rw [run_bind, ← hissued]
  rcases hrun : x.run w with ⟨e | a, w₁⟩
  · rw [hrun] at hends
    exact hends.elim
  · rw [hrun] at hends
    exact hf a hends w₁

/-- What is done after a statement does not take it back. -/
theorem Begins.bind {P : Statement → Prop} {E : Error → Prop} {R : β → Prop} {s : Statement}
    (hx : Begins x s) (hf : ∀ a, Ensures (f a) P E R) : Begins (x >>= f) s := by
  intro w
  obtain ⟨rest, hrest⟩ := hx w
  rw [run_bind]
  rcases hrun : x.run w with ⟨e | a, w₁⟩
  · rw [hrun] at hrest
    exact ⟨rest, hrest⟩
  · rw [hrun] at hrest
    obtain ⟨issued, hissued, -⟩ := hf a w₁
    refine ⟨rest ++ issued, ?_⟩
    dsimp only
    rw [hissued, hrest, List.append_assoc, List.cons_append]

/-! ### Runs between two states of the database -/

/-- A run takes the database from one state to another by some statements and yields a value,
whatever the catalog knows. -/
def Takes (x : Run reg σ α) (st : σ) (issued : List Statement) (st' : σ) (a : α) : Prop :=
  ∀ w, w.state = st →
    ∃ w₁, x.run w = (.ok a, w₁) ∧ w₁.issued = w.issued ++ issued ∧ w₁.state = st'

theorem Takes.pure (st : σ) (a : α) : Takes (Pure.pure a : Run reg σ α) st [] st a :=
  fun w hw => ⟨w, rfl, (List.append_nil _).symm, hw⟩

section
variable {st st₁ st₂ : σ} {issued issued' : List Statement} {a : α} {b : β}

theorem Takes.bind (hx : Takes x st issued st₁ a) (hf : Takes (f a) st₁ issued' st₂ b) :
    Takes (x >>= f) st (issued ++ issued') st₂ b := by
  intro w hw
  obtain ⟨w₁, hx, hissued, hst₁⟩ := hx w hw
  obtain ⟨w₂, hf, hissued', hst₂⟩ := hf w₁ hst₁
  refine ⟨w₂, ?_, ?_, hst₂⟩
  · rw [run_bind_of_ok hx, hf]
  · rw [hissued', hissued, List.append_assoc]

/-- What is done first neither fails nor issues anything. -/
theorem Takes.after {Q : α → Prop} (hx : Ensures x (fun _ => False) (fun _ => False) Q)
    (hf : ∀ a, Q a → Takes (f a) st issued st₁ b) : Takes (x >>= f) st issued st₁ b := by
  intro w hw
  obtain ⟨a, w₁, hrun, ha⟩ := hx.exists_ok w
  have hstill := hx.quiet.untouched w
  rw [hrun] at hstill
  obtain ⟨w₂, hf, hissued, hst₁⟩ := hf a ha w₁ (hstill.state_eq.trans hw)
  refine ⟨w₂, ?_, ?_, hst₁⟩
  · rw [run_bind_of_ok hrun, hf]
  · rw [hissued, hstill.issued_eq]

/-- What is done last neither fails nor issues anything. -/
theorem Takes.before (hx : Takes x st issued st₁ a)
    (hf : Ensures (f a) (fun _ => False) (fun _ => False) (· = b)) :
    Takes (x >>= f) st issued st₁ b := by
  intro w hw
  obtain ⟨w₁, hx, hissued, hst₁⟩ := hx w hw
  obtain ⟨_, w₂, hrun, rfl⟩ := hf.exists_ok w₁
  have hstill := hf.quiet.untouched w₁
  rw [hrun] at hstill
  refine ⟨w₂, ?_, hstill.issued_eq.trans hissued, hstill.state_eq.trans hst₁⟩
  rw [run_bind_of_ok hx, hrun]

theorem takes_issue {db : Database σ} {s : Statement} {records : List Record}
    (h : db.answer s st = (.ok records, st₁)) (purpose : Purpose) :
    Takes (issue db purpose s : Run reg σ (List Record)) st [s] st₁ records := by
  refine Takes.after (ensures_emit _) fun _ _ => ?_
  have hread : Ends (fun _ => False) (· = records)
      ((Except.ok records : Except Failure (List Record)).mapError (Error.query purpose s)) := rfl
  refine Takes.before (fun w hw => ?_) (ensures_ofExcept hread)
  subst hw
  refine ⟨{ w with state := st₁, issued := w.issued ++ [s] }, ?_, rfl, rfl⟩
  show (Except.ok (db.answer s w.state).1,
    { w with state := (db.answer s w.state).2, issued := w.issued ++ [s] }) = _
  rw [h]

end

/-! ### Runs that always come to the same -/

/-- A run comes to the same in every world: it always ends with one and the same value or error, and
it always issues the same statements. -/
def Firm (x : Run reg σ α) : Prop :=
  ∃ (r : Except Error α) (issued : List Statement), ∀ w,
    (x.run w).1 = r ∧ (x.run w).2.issued = w.issued ++ issued

theorem Firm.of_ensures {a : α} (h : Ensures x (fun _ => False) (fun _ => False) (· = a)) :
    Firm x := by
  refine ⟨.ok a, [], fun w => ⟨?_, ?_⟩⟩
  · obtain ⟨b, w₁, hrun, rfl⟩ := h.exists_ok w
    rw [hrun]
  · rw [(h.quiet.untouched w).issued_eq, List.append_nil]

/-- A run that always fails with one error before it issues anything. -/
theorem Firm.of_fails {e : Error}
    (h : Ensures x (fun _ => False) (· = e) fun _ => False) : Firm x := by
  refine ⟨.error e, [], fun w => ⟨?_, ?_⟩⟩
  · obtain ⟨-, -, -, -, hends⟩ := h w
    rcases hrun : x.run w with ⟨e' | a, w₁⟩
    · rw [hrun] at hends
      exact congrArg Except.error hends
    · exact (h.of_ok hrun).elim
  · rw [(h.quiet.untouched w).issued_eq, List.append_nil]

theorem Firm.pure (a : α) : Firm (Pure.pure a : Run reg σ α) := .of_ensures (Ensures.pure rfl)

theorem Firm.throw (e : Error) : Firm (MonadExcept.throw e : Run reg σ α) :=
  .of_fails (Ensures.throw rfl)

theorem Firm.bind (hx : Firm x) (hf : ∀ a, Firm (f a)) : Firm (x >>= f) := by
  obtain ⟨r, issued, hx⟩ := hx
  cases r with
  | error e =>
    refine ⟨.error e, issued, fun w => ?_⟩
    obtain ⟨herror, hissued⟩ := hx w
    rw [run_bind_of_error (Prod.ext herror rfl)]
    exact ⟨rfl, hissued⟩
  | ok a =>
    obtain ⟨r', issued', hf⟩ := hf a
    refine ⟨r', issued ++ issued', fun w => ?_⟩
    obtain ⟨hok, hissued⟩ := hx w
    rw [run_bind_of_ok (Prod.ext hok rfl), ← List.append_assoc, ← hissued]
    exact hf _

/-- What is done first neither fails nor issues anything, and its value does not matter. -/
theorem Firm.after {Q : α → Prop} {y : Run reg σ β}
    (hx : Ensures x (fun _ => False) (fun _ => False) Q) (hf : ∀ a, Q a → f a = y) (hy : Firm y) :
    Firm (x >>= f) := by
  obtain ⟨r, issued, hy⟩ := hy
  refine ⟨r, issued, fun w => ?_⟩
  obtain ⟨a, w₁, hrun, ha⟩ := hx.exists_ok w
  have hstill := (hx.quiet.untouched w).issued_eq
  rw [hrun] at hstill
  rw [run_bind_of_ok hrun, hf a ha, ← hstill]
  exact hy w₁

/-- A firm run that succeeds once succeeds in any world. -/
theorem Firm.run_ok (h : Firm x) {w w₁ : World reg σ} {a : α} (hx : x.run w = (.ok a, w₁)) :
    ∃ issued, w₁.issued = w.issued ++ issued ∧
      ∀ v, ∃ v₁, x.run v = (.ok a, v₁) ∧ v₁.issued = v.issued ++ issued := by
  obtain ⟨r, issued, h⟩ := h
  obtain ⟨hr, hissued⟩ := h w
  rw [hx] at hr hissued
  subst hr
  exact ⟨issued, hissued, fun v => ⟨(x.run v).2, Prod.ext (h v).1 rfl, (h v).2⟩⟩

theorem firm_ofExcept (y : Except Error α) : Firm (MonadExcept.ofExcept y : Run reg σ α) := by
  cases y with
  | error e => exact Firm.throw e
  | ok a => exact Firm.pure a

theorem firm_emit (e : Event) : Firm (emit e : Run reg σ Unit) :=
  .of_ensures (a := ()) ((ensures_emit e).imp fun _ _ => rfl)

theorem firm_mapM {g : α → Run reg σ β} (hg : ∀ a, Firm (g a)) (l : List α) :
    Firm (l.mapM g) := by
  induction l with
  | nil => exact Firm.pure []
  | cons a l ih =>
    rw [List.mapM_cons]
    exact (hg a).bind fun _ => ih.bind fun _ => Firm.pure _

theorem firm_checkName (name : String) : Firm (checkName name : Run reg σ Unit) :=
  firm_ofExcept _

theorem firm_checkNames (names : List String) : Firm (checkNames names : Run reg σ Unit) :=
  firm_ofExcept _

theorem firm_snakeCase (s : String) : Firm (snakeCase s : Run reg σ String) :=
  .of_ensures (ensures_snakeCase s)

theorem firm_schema (type : String) : Firm (schema type : Run reg σ _) := by
  by_cases h : ∃ s, reg.schema type = .ok s
  · obtain ⟨s, hs⟩ := h
    refine .of_ensures (a := ⟨s, hs⟩) ((ensures_schema_of hs).imp fun s' heq => ?_)
    subst heq
    rfl
  · exact .of_fails (e := .noColumns type) ((ensures_schema type).mono (fun _ => id)
      (fun _ he => he.1) fun s' _ => h ⟨s'.val, s'.property⟩)

theorem firm_resolve {type : String} {s : Schema} (hs : reg.schema type = .ok s) (name : String) :
    Firm (resolve type name : Run reg σ _) :=
  .of_ensures ((ensures_resolve type name).weaken fun _ h => h.2 s hs)

theorem firm_resolveOrKeep {type : String} {s : Schema} (hs : reg.schema type = .ok s)
    (name : String) : Firm (resolveOrKeep type name : Run reg σ String) :=
  (firm_resolve hs name).bind fun _ => Firm.pure _

/-- A database that answers a statement always alike. -/
theorem firm_issue {db : Database σ} (hdb : db.IsStateless) (purpose : Purpose) (s : Statement) :
    Firm (issue db purpose s : Run reg σ (List Record)) := by
  have hanswer : Firm
      (modifyGet fun w =>
        ((db.answer s w.state).1,
          { w with state := (db.answer s w.state).2, issued := w.issued ++ [s] }) :
        Run reg σ (Except Failure (List Record))) := by
    by_cases hσ : Nonempty σ
    · obtain ⟨before⟩ := hσ
      exact ⟨.ok (db.answer s before).1, [s], fun w => ⟨congrArg Except.ok (hdb s _ _), rfl⟩⟩
    · exact ⟨.ok (.ok []), [], fun w => (hσ ⟨w.state⟩).elim⟩
  exact (firm_emit _).bind fun _ => hanswer.bind fun _ => firm_ofExcept _

/-! ### Runs in two worlds -/

/-- How a run in one world is compared with the run in another: which worlds are taken together, and
which errors count as one. -/
structure View (reg : Registry) (σ : Type) where
  worlds : World reg σ → World reg σ → Prop
  errors : Error → Error → Prop

/-- Two runs end with one value, or with errors that count as one. -/
def EndAlike (errors : Error → Error → Prop) : Except Error α → Except Error α → Prop
  | .ok a, .ok b => a = b
  | .error e, .error e' => errors e e'
  | .ok _, .error _ | .error _, .ok _ => False

/-- From worlds that are taken together a run ends alike, in worlds that are again taken
together. -/
def Agrees (view : View reg σ) (x : Run reg σ α) : Prop :=
  ∀ w v, view.worlds w v → EndAlike view.errors (x.run w).1 (x.run v).1 ∧
    view.worlds (x.run w).2 (x.run v).2

/-- A view under which the primitives of planning agree. A type without a schema lacks every column,
whether or not the catalog remembers that it does. -/
structure View.Sound (view : View reg σ) : Prop where
  refl : ∀ e, view.errors e e
  schema : ∀ type, Agrees view (Run.schema type : Run reg σ _)
  snakeCase : ∀ s, Agrees view (Run.snakeCase s : Run reg σ String)
  resolve : ∀ type name {β : Type} {f : Option String → Run reg σ β},
    (∃ e, f none = MonadExcept.throw e) → (∀ column, Agrees view (f (some column))) →
    Agrees view (Run.resolve type name >>= f)

section
variable {view : View reg σ}

theorem Agrees.pure (a : α) : Agrees view (Pure.pure a : Run reg σ α) := fun _ _ h => ⟨rfl, h⟩

theorem Agrees.bind (hx : Agrees view x) (hf : ∀ a, Agrees view (f a)) :
    Agrees view (x >>= f) := by
  intro w v h
  obtain ⟨hends, hworlds⟩ := hx w v h
  rw [run_bind, run_bind]
  rcases hw : x.run w with ⟨e | a, w₁⟩ <;> rcases hv : x.run v with ⟨e' | b, v₁⟩ <;>
    rw [hw, hv] at hends hworlds
  · exact ⟨hends, hworlds⟩
  · exact hends.elim
  · exact hends.elim
  · obtain rfl : a = b := hends
    exact hf a _ _ hworlds

theorem Agrees.map {g : α → β} (hx : Agrees view x) : Agrees view (g <$> x) := by
  rw [map_eq_pure_bind]
  exact hx.bind fun _ => Agrees.pure _

variable (hview : view.Sound)
include hview

theorem View.Sound.throw (e : Error) : Agrees view (MonadExcept.throw e : Run reg σ α) :=
  fun _ _ h => ⟨hview.refl e, h⟩

theorem View.Sound.ofExcept (y : Except Error α) :
    Agrees view (MonadExcept.ofExcept y : Run reg σ α) := by
  cases y with
  | error e => exact hview.throw e
  | ok a => exact Agrees.pure a

theorem View.Sound.checkName (name : String) :
    Agrees view (Run.checkName name : Run reg σ Unit) :=
  hview.ofExcept _

theorem View.Sound.checkNames (names : List String) :
    Agrees view (Run.checkNames names : Run reg σ Unit) :=
  hview.ofExcept _

end

/-- A run yields one and the same value in every world, or it fails in every world. The error may
differ: it may name what came first on a walk. -/
abbrev Steady (x : Run reg σ α) : Prop := Agrees ⟨fun _ _ => True, fun _ _ => True⟩ x

theorem Firm.steady (h : Firm x) : Steady x := by
  obtain ⟨r, _, h⟩ := h
  intro w v _
  rw [(h w).1, (h v).1]
  cases r <;> exact ⟨by trivial, trivial⟩

/-- A run that always fails. -/
theorem Steady.of_fails {P : Statement → Prop} {E : Error → Prop}
    (h : Ensures x P E fun _ => False) : Steady x := by
  intro w v _
  rcases hw : x.run w with ⟨e | a, w₁⟩
  · rcases hv : x.run v with ⟨e' | b, v₁⟩
    · exact ⟨trivial, trivial⟩
    · exact (h.of_ok hv).elim
  · exact (h.of_ok hw).elim

/-- A run that never fails. -/
theorem Steady.of_ensures {P : Statement → Prop} {a : α}
    (h : Ensures x P (fun _ => False) (· = a)) : Steady x := by
  intro w v _
  obtain ⟨b, w₁, hw, rfl⟩ := h.exists_ok w
  obtain ⟨c, v₁, hv, rfl⟩ := h.exists_ok v
  rw [hw, hv]
  exact ⟨rfl, trivial⟩

/-- Two worlds in which a steady run succeeds see the same value. -/
theorem Steady.eq {w₁ w₁' w₂ w₂' : World reg σ} {a b : α} (h : Steady x)
    (ha : x.run w₁ = (.ok a, w₁')) (hb : x.run w₂ = (.ok b, w₂')) : a = b := by
  have hends := (h w₁ w₂ trivial).1
  rw [ha, hb] at hends
  exact hends

/-- A run that is steady and issues nothing succeeds everywhere if it succeeds once. -/
theorem Steady.ensures {x : Run reg σ α} (h : Steady x) (hquiet : Quiet x)
    {w w₁ : World reg σ} {a : α} (hx : x.run w = (.ok a, w₁)) :
    Ensures x (fun _ => False) (fun _ => False) (· = a) := by
  intro v
  obtain ⟨issued, hissued, hstill, hnone, -⟩ := hquiet v
  refine ⟨issued, hissued, hstill, hnone, ?_⟩
  have hends := (h w v trivial).1
  rw [hx] at hends
  rcases hrun : x.run v with ⟨why | b, v₁⟩
  · rw [hrun] at hends
    exact hends.elim
  · rw [hrun] at hends
    exact Eq.symm hends

theorem Steady.resolve_bind (type name : String) {f : Option String → Run reg σ β}
    (hnone : ∃ e, f none = MonadExcept.throw e) (hsome : ∀ column, Steady (f (some column))) :
    Steady (resolve type name >>= f) := by
  obtain ⟨e, hnone⟩ := hnone
  cases hs : reg.schema type with
  | ok s =>
    refine (firm_resolve hs name).steady.bind fun r => ?_
    cases r with
    | none => exact hnone ▸ (Firm.throw e).steady
    | some column => exact hsome column
  | error why =>
    have hresolve : reg.resolve (type, name) = none := by simp [Registry.resolve, hs]
    refine .of_fails (E := fun _ => True) ((ensures_resolve type name).finds.bind fun r hr => ?_)
    rw [hr, hresolve, hnone]
    exact Ensures.throw trivial

/-- The worlds may be any two, as long as it does not matter which error there is. -/
theorem sound_any : View.Sound (⟨fun _ _ => True, fun _ _ => True⟩ : View reg σ) where
  refl _ := trivial
  schema type := (firm_schema type).steady
  snakeCase s := (firm_snakeCase s).steady
  resolve type name _ _ := Steady.resolve_bind type name

/-! ### Runs that end in a known way -/

/-- A run ends in every world with this error or this value. -/
def Gives (x : Run reg σ α) (r : Except Error α) : Prop := ∀ w, (x.run w).1 = r

theorem Gives.of_ensures {P : Statement → Prop} {a : α}
    (h : Ensures x P (fun _ => False) (· = a)) : Gives x (.ok a) := by
  intro w
  obtain ⟨b, w₁, hrun, rfl⟩ := h.exists_ok w
  rw [hrun]

theorem Gives.pure (a : α) : Gives (Pure.pure a : Run reg σ α) (.ok a) := fun _ => rfl

theorem Gives.throw (e : Error) : Gives (MonadExcept.throw e : Run reg σ α) (.error e) :=
  fun _ => rfl

theorem Gives.bind {a : α} {r : Except Error β} (hx : Gives x (.ok a)) (hf : Gives (f a) r) :
    Gives (x >>= f) r := by
  intro w
  have hok := hx w
  rw [run_bind]
  rcases hrun : x.run w with ⟨e | b, w₁⟩
  · rw [hrun] at hok
    cases hok
  · rw [hrun] at hok
    cases hok
    exact hf w₁

theorem Gives.map {a : α} {g : α → β} (hx : Gives x (.ok a)) : Gives (g <$> x) (.ok (g a)) := by
  rw [map_eq_pure_bind]
  exact hx.bind (Gives.pure _)

theorem Gives.mapM {g : α → Run reg σ β} {h : α → β} {l : List α}
    (hg : ∀ a ∈ l, Gives (g a) (.ok (h a))) : Gives (l.mapM g) (.ok (l.map h)) := by
  induction l with
  | nil => exact Gives.pure []
  | cons a l ih =>
    rw [List.mapM_cons]
    refine (hg a (by simp)).bind ?_
    exact (ih fun a ha => hg a (List.mem_cons_of_mem _ ha)).bind (Gives.pure _)

theorem gives_ofExcept (y : Except Error α) :
    Gives (MonadExcept.ofExcept y : Run reg σ α) y :=
  fun w => congrArg Prod.fst (run_ofExcept y w)

theorem gives_checkName {name : String} (h : Sql.Accepted name) :
    Gives (checkName name : Run reg σ Unit) (.ok ()) := by
  rw [checkName, h]
  exact gives_ofExcept _

theorem gives_checkNames {names : List String} (h : ∀ name ∈ names, Sql.Accepted name) :
    Gives (checkNames names : Run reg σ Unit) (.ok ()) := by
  rw [checkNames, Sql.checkIdentifiers_eq_ok.2 h]
  exact gives_ofExcept _

theorem gives_schema {type : String} {s : Schema} (hs : reg.schema type = .ok s) :
    Gives (schema type : Run reg σ _) (.ok ⟨s, hs⟩) :=
  .of_ensures (P := fun _ => False)
    ((ensures_schema_of hs).imp fun _ heq => Subtype.ext heq.symm)

theorem gives_resolveOrKeep {type : String} {s : Schema} (hs : reg.schema type = .ok s)
    (name : String) :
    Gives (resolveOrKeep type name : Run reg σ String)
      (.ok ((reg.resolve (type, name)).getD name)) :=
  .of_ensures (P := fun _ => False)
    ((ensures_resolveOrKeep type name).weaken fun _ h => h.2 s hs)

end Run

end EntityGraph
