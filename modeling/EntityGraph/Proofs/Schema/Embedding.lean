import EntityGraph.Proofs.Schema.Flattening

/-!
# Registrations of declared types

A registration holds embedded entities in full, as deep as there are declarations. Where no type
embeds itself, that is deep enough: an embedded entity has the members of its own registration
(`register_eq`).
-/

namespace EntityGraph

namespace Declaration

/-- No declared type embeds itself, through other types either. -/
def Founded (ds : List (Declaration ColumnType)) : Prop :=
  ∃ rank : String → Nat, ∀ d ∈ ds, ∀ field type,
    MemberDecl.embed field type ∈ d.members → rank type < rank d.type

variable {ds : List (Declaration ColumnType)}

/-- The members of a declared type, none if it is not declared. -/
def membersOf (ds : List (Declaration ColumnType)) (type : String) :
    List (MemberDecl ColumnType) :=
  (find? ds type).map members |>.getD []

/-- The members of an embedded type to a depth. -/
def inner (ds : List (Declaration ColumnType)) : (depth : Nat) → (type : String) → List Member
  | 0, _ => []
  | depth + 1, type => unfold ds depth (membersOf ds type)

end Declaration

/-- A declared member, with the members that an embedded type has. -/
def MemberDecl.full (inner : String → List Member) : MemberDecl ColumnType → Member
  | .column field type name primaryKey auto => .column field type name primaryKey auto
  | .embed field type => .embed field type (inner type)
  | .relation field shape options => .relation field shape options

namespace Declaration

theorem unfold_eq_map (ds : List (Declaration ColumnType)) (depth : Nat)
    (ms : List (MemberDecl ColumnType)) :
    unfold ds depth ms = ms.map (MemberDecl.full (inner ds depth)) := by
  induction ms with
  | nil => rw [unfold]; rfl
  | cons m ms ih =>
    rw [List.map_cons, ← ih]
    cases m with
    | column | relation => rw [unfold]; rfl
    | embed field type => cases depth <;> (rw [unfold]; rfl)

/-- The registration of a declaration, with the members that embedded types have. -/
def full (inner : String → List Member) (d : Declaration ColumnType) : Registration :=
  { type := d.type
    table := d.table
    primaryKey := d.primaryKey
    morphAlias := d.morphAlias
    members := d.members.map (MemberDecl.full inner) }

theorem register_eq_full (ds : List (Declaration ColumnType)) (d : Declaration ColumnType) :
    register ds d = d.full (inner ds ds.length) := by
  rw [register, unfold_eq_map]
  rfl

theorem ofDeclarations_eq_full (ds : List (Declaration ColumnType)) :
    Registry.ofDeclarations ds = ⟨ds.map (full (inner ds ds.length))⟩ := by
  rw [Registry.ofDeclarations, funext (register_eq_full ds)]

theorem mem_membersOf {type : String} {m : MemberDecl ColumnType} (h : m ∈ membersOf ds type) :
    ∃ d ∈ ds, d.type = type ∧ m ∈ d.members := by
  cases hfind : find? ds type with
  | none => simp [membersOf, hfind] at h
  | some d =>
    rw [membersOf, hfind] at h
    exact ⟨d, List.mem_of_find?_eq_some hfind, by simpa using List.find?_some hfind, h⟩

theorem inner_of_undeclared {type : String} (h : ∀ d ∈ ds, d.type ≠ type) (depth : Nat) :
    inner ds depth type = [] := by
  have hfind : find? ds type = none := by
    rw [find?, List.find?_eq_none]
    simpa using h
  cases depth with
  | zero => rfl
  | succ depth => rw [inner, unfold_eq_map, membersOf, hfind]; rfl

/-! ### Ranks -/

section

variable {rank : String → Nat}

/-- The number of declared types below a rank. -/
def below (ds : List (Declaration ColumnType)) (rank : String → Nat) (r : Nat) : Nat :=
  (ds.filter fun d => rank d.type < r).length

theorem below_lt_below {d : Declaration ColumnType} (hd : d ∈ ds) {r : Nat}
    (hlt : rank d.type < r) : below ds rank (rank d.type) < below ds rank r := by
  have hfilter : (ds.filter fun e => rank e.type < rank d.type)
      = (ds.filter fun e => rank e.type < r).filter fun e => rank e.type < rank d.type := by
    rw [List.filter_filter]
    refine List.filter_congr fun e _ => ?_
    rw [Bool.eq_iff_iff]
    simp only [decide_eq_true_eq, Bool.and_eq_true]
    omega
  rw [below, hfilter, below, List.length_filter_lt_length_iff_exists]
  exact ⟨d, List.mem_filter.2 ⟨hd, by simpa using hlt⟩, by simp⟩

theorem below_lt_length {d : Declaration ColumnType} (hd : d ∈ ds) :
    below ds rank (rank d.type) < ds.length := by
  rw [below, List.length_filter_lt_length_iff_exists]
  exact ⟨d, hd, by simp⟩

/-- Deeper than the declared types of smaller rank there is nothing more to unfold. -/
theorem inner_eq_inner
    (hrank : ∀ d ∈ ds, ∀ field type, MemberDecl.embed field type ∈ d.members →
      rank type < rank d.type) {type : String} {depth depth' : Nat}
    (hdepth : below ds rank (rank type) < depth) (hdepth' : below ds rank (rank type) < depth') :
    inner ds depth type = inner ds depth' type := by
  induction depth generalizing type depth' with
  | zero => omega
  | succ depth ih =>
    obtain _ | depth' := depth'
    · omega
    rw [inner, inner, unfold_eq_map, unfold_eq_map]
    refine List.map_congr_left fun m hm => ?_
    cases m with
    | column | relation => rfl
    | embed field embedded =>
      obtain ⟨d, hd, rfl, hmember⟩ := mem_membersOf hm
      have hlt := hrank d hd field embedded hmember
      rw [MemberDecl.full, MemberDecl.full]
      by_cases hdeclared : ∃ e ∈ ds, e.type = embedded
      · obtain ⟨e, he, rfl⟩ := hdeclared
        have hbelow := below_lt_below he hlt
        have hinner : inner ds depth e.type = inner ds depth' e.type := ih (by omega) (by omega)
        rw [hinner]
      · have hnone : ∀ e ∈ ds, e.type ≠ embedded := by simpa using hdeclared
        rw [inner_of_undeclared hnone, inner_of_undeclared hnone]

end

/-! ### In full -/

theorem get_ofDeclarations (ds : List (Declaration ColumnType)) (type : String) :
    (Registry.ofDeclarations ds).get type
      = ((find? ds type).map (register ds)).getD { type := type } := by
  rw [Registry.get, Registry.ofDeclarations, List.find?_map]
  rfl

theorem members_get (ds : List (Declaration ColumnType)) (type : String) :
    ((Registry.ofDeclarations ds).get type).members = inner ds (ds.length + 1) type := by
  rw [get_ofDeclarations, inner, membersOf]
  cases find? ds type with
  | none => simp [unfold]
  | some d => rfl

theorem inner_eq_get (hds : Founded ds) (type : String) :
    inner ds ds.length type = ((Registry.ofDeclarations ds).get type).members := by
  obtain ⟨rank, hrank⟩ := hds
  rw [members_get]
  by_cases hdeclared : ∃ d ∈ ds, d.type = type
  · obtain ⟨d, hd, rfl⟩ := hdeclared
    have hbelow : below ds rank (rank d.type) < ds.length := below_lt_length hd
    exact inner_eq_inner hrank hbelow (by omega)
  · have hnone : ∀ d ∈ ds, d.type ≠ type := by simpa using hdeclared
    rw [inner_of_undeclared hnone, inner_of_undeclared hnone]

/-- **An embedded entity has the members of its own registration.** -/
theorem register_eq (hds : Founded ds) (d : Declaration ColumnType) :
    register ds d = d.full fun type => ((Registry.ofDeclarations ds).get type).members := by
  rw [register_eq_full, ← funext (inner_eq_get hds)]

end Declaration

end EntityGraph
