import EntityGraph.Proofs.Schema.Columns

/-!
# Flattened entities

A type declares its members one after the other, and each takes the next position (`Builder.add`);
an embedded entity is built on its own, and its columns are put behind its position. So the columns
of a type are those met when its members are walked depth first (`build_flattens`): the place of a
column is the way to it, ways are met in lexicographic order, and no way to a column or a relation
goes on behind another one.
-/

namespace EntityGraph

namespace Registration

/-! ### Member by member -/

/-- What has been declared, and the position of the next member. -/
structure Builder where
  columns : List ColumnDecl := []
  relations : List RelationDecl := []
  next : Nat := 0

namespace Builder

mutual

/-- Declares a member. An embedded entity is built from the start, and only its columns are taken
over. -/
def add (b : Builder) : Member → Builder
  | .column field type name primaryKey auto =>
    { b with
      columns := b.columns ++ [⟨field, type, name, primaryKey, auto, [b.next]⟩]
      next := b.next + 1 }
  | .embed _ _ members =>
    { b with
      columns := b.columns ++ (addAll {} members).columns.map (ColumnDecl.inside b.next)
      next := b.next + 1 }
  | .relation field shape options =>
    { b with
      relations := b.relations ++ [⟨field, shape, options, b.next⟩]
      next := b.next + 1 }

def addAll (b : Builder) : List Member → Builder
  | [] => b
  | m :: ms => addAll (b.add m) ms

end

variable {b : Builder}

theorem add_eq (b : Builder) (m : Member) :
    b.add m = ⟨b.columns ++ m.columns b.next, b.relations ++ m.relations b.next, b.next + 1⟩ := by
  have hlist : ∀ (ms : List Member) (b : Builder),
      (∀ m ∈ ms, ∀ b : Builder, b.add m
        = ⟨b.columns ++ m.columns b.next, b.relations ++ m.relations b.next, b.next + 1⟩) →
      (b.addAll ms).columns = b.columns ++ memberColumns b.next ms := by
    intro ms
    induction ms with
    | nil => simp [addAll, memberColumns]
    | cons m ms ih =>
      intro b hms
      obtain ⟨hm, hms⟩ := List.forall_mem_cons.1 hms
      rw [addAll, ih _ hms, hm, memberColumns, List.append_assoc]
  induction m using Member.induct generalizing b with
  | column => simp [add, Member.columns, Member.relations]
  | embed field type members ih =>
    rw [add, hlist members _ ih]
    simp [Member.columns, Member.relations]
  | relation => simp [add, Member.columns, Member.relations]

/-- What is declared by a list of members: each takes one position. -/
theorem addAll_eq (b : Builder) (ms : List Member) :
    b.addAll ms = ⟨b.columns ++ memberColumns b.next ms, b.relations ++ memberRelations b.next ms,
      b.next + ms.length⟩ := by
  induction ms generalizing b with
  | nil => simp [addAll, memberColumns, memberRelations]
  | cons m ms ih =>
    rw [addAll, ih, add_eq, memberColumns, memberRelations_cons]
    simp only [List.append_assoc, List.length_cons, Builder.mk.injEq, true_and]
    omega

end Builder

end Registration

/-! ### Walking the members -/

/-- A column apart from its place. -/
structure Leaf where
  field : String
  column : String
  auto : Bool
  type : ColumnType
  deriving DecidableEq, Repr

def ColumnInfo.leaf (c : ColumnInfo) : Leaf := ⟨c.field, c.column, c.auto, c.type⟩

def ColumnDecl.leaf (d : ColumnDecl) : Leaf := ⟨d.field, d.columnName, d.auto, d.type⟩

namespace Member

/-- The column that a member is, under its conventional name if it has none of its own. -/
def leaf? : Member → Option Leaf
  | .column field type name _ auto => some ⟨field, name.getD (Text.snakeCase field), auto, type⟩
  | .embed _ _ _ | .relation _ _ _ => none

mutual

/-- The columns met on a walk, depth first. -/
def leaves : Member → List Leaf
  | .column field type name _ auto => [⟨field, name.getD (Text.snakeCase field), auto, type⟩]
  | .embed _ _ members => leavesOf members
  | .relation _ _ _ => []

def leavesOf : List Member → List Leaf
  | [] => []
  | m :: ms => m.leaves ++ leavesOf ms

end

/-- The member at the end of a way into embedded entities. -/
def at? : List Nat → Member → Option Member
  | [], m => some m
  | i :: rest, .embed _ _ members => members[i]?.bind (at? rest)
  | _ :: _, .column _ _ _ _ _ | _ :: _, .relation _ _ _ => none

theorem at?_append (way rest : List Nat) (m : Member) :
    m.at? (way ++ rest) = (m.at? way).bind (at? rest) := by
  induction way generalizing m with
  | nil => rfl
  | cons i way ih =>
    cases m with
    | embed field type members =>
      rw [List.cons_append, at?, at?]
      cases members[i]? with
      | none => rfl
      | some m => exact ih m
    | column | relation => rfl

/-- A member that no way leads into. -/
def isClosed : Member → Bool
  | .embed _ _ _ => false
  | .column _ _ _ _ _ | .relation _ _ _ => true

theorem eq_nil_of_at? {m n : Member} (hm : m.isClosed = true) {way : List Nat}
    (h : m.at? way = some n) : way = [] := by
  cases way with
  | nil => rfl
  | cons i way =>
    cases m with
    | embed => cases hm
    | column | relation => cases h

theorem isClosed_of_leaf? {m : Member} {l : Leaf} (h : m.leaf? = some l) : m.isClosed = true := by
  cases m with
  | embed => cases h
  | column | relation => rfl

theorem map_leaf_columns (m : Member) (position : Nat) :
    (m.columns position).map ColumnDecl.leaf = m.leaves := by
  have hlist : ∀ (ms : List Member) (start : Nat),
      (∀ m ∈ ms, ∀ position, (m.columns position).map ColumnDecl.leaf = m.leaves) →
      (memberColumns start ms).map ColumnDecl.leaf = leavesOf ms := by
    intro ms
    induction ms with
    | nil => exact fun _ _ => rfl
    | cons m ms ih =>
      intro start hms
      obtain ⟨hm, hms⟩ := List.forall_mem_cons.1 hms
      rw [memberColumns, List.map_append, hm, ih _ hms, leavesOf]
  induction m using Member.induct generalizing position with
  | column => rfl
  | embed field type members ih =>
    rw [columns, List.map_map, leaves, ← hlist members 0 ih]
    rfl
  | relation => rfl

/-- A column stands at the end of the way that is its place. -/
theorem at?_of_mem_columns {m : Member} {position : Nat} {c : ColumnDecl}
    (hc : c ∈ m.columns position) :
    ∃ way, c.path = position :: way ∧ (m.at? way).bind leaf? = some c.leaf := by
  induction m using Member.induct generalizing position c with
  | column field type name primaryKey auto =>
    obtain rfl := List.mem_singleton.1 (by simpa [columns] using hc)
    exact ⟨[], rfl, rfl⟩
  | embed field type members ih =>
    rw [columns, List.mem_map] at hc
    obtain ⟨inner, hinner, rfl⟩ := hc
    obtain ⟨i, m, hm, hcolumn⟩ := mem_memberColumns.1 hinner
    obtain ⟨way, hpath, hleaf⟩ := ih m (List.mem_of_getElem? hm) hcolumn
    refine ⟨inner.path, rfl, ?_⟩
    rw [hpath, Nat.zero_add, at?, hm]
    exact hleaf
  | relation => simp [columns] at hc

/-- Every column that a way leads to has a place. -/
theorem exists_mem_columns {m : Member} {way : List Nat} {l : Leaf}
    (h : (m.at? way).bind leaf? = some l) (position : Nat) :
    ∃ c ∈ m.columns position, c.path = position :: way ∧ c.leaf = l := by
  induction m using Member.induct generalizing position way with
  | column field type name primaryKey auto =>
    cases way with
    | nil => exact ⟨_, List.mem_singleton_self _, rfl, Option.some.inj h⟩
    | cons i way => cases h
  | embed field type members ih =>
    cases way with
    | nil => cases h
    | cons i way =>
      rw [at?] at h
      cases hm : members[i]? with
      | none => simp [hm] at h
      | some m =>
        rw [hm] at h
        obtain ⟨c, hc, hpath, hleaf⟩ := ih m (List.mem_of_getElem? hm) h i
        refine ⟨c.inside position, ?_, congrArg (List.cons position) hpath, hleaf⟩
        rw [columns]
        refine List.mem_map_of_mem (mem_memberColumns.2 ⟨i, m, hm, ?_⟩)
        rwa [Nat.zero_add]
  | relation => cases way <;> cases h

end Member

namespace Registration

variable {r : Registration}

/-- The member at the end of a way from the type. -/
def member? (r : Registration) : List Nat → Option Member
  | [] => none
  | i :: way => r.members[i]?.bind (Member.at? way)

theorem mem_columns {c : ColumnDecl} :
    c ∈ r.columns ↔ ∃ (i : Nat) (m : Member), r.members[i]? = some m ∧ c ∈ m.columns i := by
  simp [columns, mem_memberColumns]

theorem mem_relations {d : RelationDecl} :
    d ∈ r.relations ↔ r.members[d.position]? = some (.relation d.field d.shape d.options) := by
  simp [relations, mem_memberRelations]

/-- **The place of a column is the way to it**, and every column that a way leads to is there. -/
theorem exists_column_iff {way : List Nat} {l : Leaf} :
    (∃ c ∈ r.columns, c.path = way ∧ c.leaf = l) ↔
      (r.member? way).bind Member.leaf? = some l := by
  constructor
  · rintro ⟨c, hc, rfl, rfl⟩
    obtain ⟨i, m, hm, hcolumn⟩ := mem_columns.1 hc
    obtain ⟨way, hpath, hleaf⟩ := Member.at?_of_mem_columns hcolumn
    rw [hpath, member?, hm]
    exact hleaf
  · intro h
    cases way with
    | nil => cases h
    | cons i way =>
      rw [member?] at h
      cases hm : r.members[i]? with
      | none => simp [hm] at h
      | some m =>
        rw [hm] at h
        obtain ⟨c, hc, hpath, hleaf⟩ := Member.exists_mem_columns h i
        exact ⟨c, mem_columns.2 ⟨i, m, hm, hc⟩, hpath, hleaf⟩

theorem map_leaf_columns (r : Registration) :
    r.columns.map ColumnDecl.leaf = Member.leavesOf r.members := by
  have hembed := (Member.embed "" "" r.members).map_leaf_columns 0
  rw [Member.columns, List.map_map] at hembed
  exact hembed

theorem relation_at {d : RelationDecl} (hd : d ∈ r.relations) :
    r.member? [d.position] = some (.relation d.field d.shape d.options) := by
  rw [member?, mem_relations.1 hd]
  rfl

/-- No way to another member leads past a member without members. -/
theorem eq_of_leads {way way' : List Nat} {m n : Member} (hm : r.member? way = some m)
    (hclosed : m.isClosed = true) (hn : r.member? way' = some n) (hleads : way <+: way') :
    way = way' := by
  obtain ⟨rest, rfl⟩ := hleads
  cases way with
  | nil => cases hm
  | cons i way =>
    rw [List.cons_append, member?] at hn
    rw [member?] at hm
    obtain ⟨top, htop, hm⟩ := Option.bind_eq_some_iff.1 hm
    rw [htop, Option.bind_some, Member.at?_append, hm] at hn
    rw [Member.eq_nil_of_at? hclosed hn, List.append_nil]

/-! ### Places -/

/-- The places of columns and relations. -/
def places (r : Registration) : List (List Nat) :=
  r.columns.map ColumnDecl.path ++ r.relations.map fun d => [d.position]

theorem exists_closed_of_mem_places {way : List Nat} (h : way ∈ r.places) :
    ∃ m, r.member? way = some m ∧ m.isClosed = true := by
  rcases List.mem_append.1 h with h | h
  · obtain ⟨c, hc, rfl⟩ := List.mem_map.1 h
    obtain ⟨m, hm, hleaf⟩ :=
      Option.bind_eq_some_iff.1 (exists_column_iff.1 ⟨c, hc, rfl, rfl⟩)
    exact ⟨m, hm, Member.isClosed_of_leaf? hleaf⟩
  · obtain ⟨d, hd, rfl⟩ := List.mem_map.1 h
    exact ⟨_, relation_at hd, rfl⟩

theorem pairwise_position_lt (start : Nat) (ms : List Member) :
    (memberRelations start ms).Pairwise fun d d' => d.position < d'.position := by
  induction ms generalizing start with
  | nil => exact .nil
  | cons m ms ih =>
    rw [memberRelations_cons, List.pairwise_append]
    refine ⟨?_, ih _, fun d hd d' hd' => ?_⟩
    · cases m <;> simp [Member.relations]
    · obtain ⟨-, hposition⟩ := Member.mem_relations.1 hd
      obtain ⟨i, -, hposition'⟩ := mem_memberRelations.1 hd'
      omega

theorem nodup_places (r : Registration) : r.places.Nodup := by
  rw [places, List.nodup_append]
  refine ⟨?_, ?_, ?_⟩
  · rw [List.Nodup, List.pairwise_map]
    refine r.pairwise_path_lt.imp ?_
    rintro c c' hlt hsame
    exact List.lt_irrefl _ (hsame ▸ hlt)
  · rw [List.Nodup, List.pairwise_map]
    refine (pairwise_position_lt 0 r.members).imp ?_
    rintro d d' hlt hsame
    exact Nat.ne_of_lt hlt (List.cons.inj hsame).1
  · rintro _ hcolumn _ hrelation rfl
    obtain ⟨c, hc, rfl⟩ := List.mem_map.1 hcolumn
    obtain ⟨d, hd, hsame⟩ := List.mem_map.1 hrelation
    obtain ⟨i, rest, hpath, hne⟩ := r.head_path_ne_position hc hd
    rw [hpath, List.cons.injEq] at hsame
    exact hne hsame.1.symm

/-- **No place is another one or leads to it.** -/
theorem pairwise_places (r : Registration) :
    r.places.Pairwise fun way way' => ¬ way <+: way' ∧ ¬ way' <+: way := by
  refine List.Pairwise.imp_of_mem ?_ r.nodup_places
  intro way way' hway hway' hne
  obtain ⟨m, hm, hclosed⟩ := exists_closed_of_mem_places hway
  obtain ⟨m', hm', hclosed'⟩ := exists_closed_of_mem_places hway'
  exact ⟨fun hleads => hne (eq_of_leads hm hclosed hm' hleads),
    fun hleads => hne (eq_of_leads hm' hclosed' hm hleads).symm⟩

/-- The columns behind a position are those of the member there. -/
theorem filter_memberColumns (start : Nat) (ms : List Member) (i : Nat) :
    (memberColumns start ms).filter (fun c => c.path.head? = some (start + i))
      = ms[i]?.elim [] (Member.columns (start + i)) := by
  induction ms generalizing start i with
  | nil => simp [memberColumns]
  | cons m ms ih =>
    have hhead : ∀ c ∈ m.columns start, c.path.head? = some start := by
      intro c hc
      obtain ⟨way, hpath, -⟩ := Member.at?_of_mem_columns hc
      rw [hpath, List.head?_cons]
    have hlater : ∀ c ∈ memberColumns (start + 1) ms, c.path.head? ≠ some start := by
      intro c hc
      obtain ⟨j, m', -, hcolumn⟩ := mem_memberColumns.1 hc
      obtain ⟨way, hpath, -⟩ := Member.at?_of_mem_columns hcolumn
      rw [hpath, List.head?_cons, Ne, Option.some.injEq]
      omega
    rw [memberColumns, List.filter_append]
    cases i with
    | zero =>
      rw [List.filter_eq_self.2 (by simpa using hhead),
        List.filter_eq_nil_iff.2 (by simpa using hlater), List.append_nil]
      rfl
    | succ i =>
      have hfirst :
          (m.columns start).filter (fun c => c.path.head? = some (start + (i + 1))) = [] := by
        rw [List.filter_eq_nil_iff]
        intro c hc
        rw [hhead c hc]
        simp
      have hnext : start + (i + 1) = start + 1 + i := by omega
      rw [hfirst, List.nil_append, hnext, ih]
      rfl

theorem filter_columns (r : Registration) (i : Nat) :
    r.columns.filter (fun c => c.path.head? = some i)
      = r.members[i]?.elim [] (Member.columns i) := by
  rw [columns]
  simpa only [Nat.zero_add] using filter_memberColumns 0 r.members i

end Registration

theorem memberColumns_eq_flatMap (start : Nat) (ms : List Member) :
    memberColumns start ms = (ms.zipIdx start).flatMap fun p => p.1.columns p.2 := by
  induction ms generalizing start with
  | nil => rfl
  | cons m ms ih => rw [memberColumns, ih, List.zipIdx_cons, List.flatMap_cons]

theorem memberRelations_eq_flatMap (start : Nat) (ms : List Member) :
    memberRelations start ms = (ms.zipIdx start).flatMap fun p => p.1.relations p.2 := by
  induction ms generalizing start with
  | nil => rfl
  | cons m ms ih => rw [memberRelations_cons, ih, List.zipIdx_cons, List.flatMap_cons]

/-! ### Schemas -/

namespace Schema

theorem map_path_build (r : Registration) :
    (build r).columns.map ColumnInfo.path = r.columns.map ColumnDecl.path := by
  rw [columns_build, List.map_map]
  rfl

theorem map_leaf_build (r : Registration) :
    (build r).columns.map (fun c => (c.path, c.leaf))
      = r.columns.map fun d => (d.path, d.leaf) := by
  rw [columns_build, List.map_map]
  rfl

theorem filter_build (r : Registration) (i : Nat) :
    ((build r).columns.filter (fun c => c.path.head? = some i)).map (fun c => (c.path, c.leaf))
      = (r.members[i]?.elim [] (Member.columns i)).map fun d => (d.path, d.leaf) := by
  rw [← Registration.filter_columns, columns_build, List.filter_map, List.map_map]
  rfl

theorem relations_build (r : Registration) :
    (build r).relations = r.relations.map RelationDecl.info := rfl

/-- What a schema is made of: its columns and relations, and where they are, as the members of the
type tell. -/
structure Flattens (s : Schema) (r : Registration) : Prop where
  /-- The columns are met on a walk through the members, depth first. -/
  leaves : s.columns.map ColumnInfo.leaf = Member.leavesOf r.members
  /-- The place of a column is the way to it. -/
  ways : ∀ (way : List Nat) (l : Leaf),
    (∃ c ∈ s.columns, c.path = way ∧ c.leaf = l) ↔ (r.member? way).bind Member.leaf? = some l
  ordered : (s.columns.map ColumnInfo.path).Pairwise (· < ·)
  apart : (s.columns.map ColumnInfo.path ++ s.relations.map fun info => [info.position]).Pairwise
    fun way way' => way ≠ way' ∧ ¬ way <+: way' ∧ ¬ way' <+: way
  /-- The columns of an embedded entity follow its position as in a schema of their own. -/
  embedded : ∀ (e : Registration) (i : Nat) (field type : String),
    r.members[i]? = some (.embed field type e.members) →
    (s.columns.filter (fun c => c.path.head? = some i)).map (fun c => (c.path, c.leaf))
      = (build e).columns.map fun c => (i :: c.path, c.leaf)
  /-- The relations are those of the type itself. -/
  relations : ∀ info, info ∈ s.relations ↔ ∃ (i : Nat) (field : String) (shape : RelationShape)
    (options : RelationOptions), r.members[i]? = some (.relation field shape options) ∧
      info = RelationDecl.info ⟨field, shape, options, i⟩

/-- **Flattening keeps the identity of fields.** Members are given one position each, whatever they
are, and the columns and relations of the schema are those of the members at their places. -/
theorem build_flattens (r : Registration) :
    Registration.Builder.addAll {} r.members = ⟨r.columns, r.relations, r.members.length⟩ ∧
      (build r).Flattens r := by
  refine ⟨?_, ?_, fun way l => ?_, ?_, ?_, fun e i field type he => ?_, fun info => ?_⟩
  · rw [Registration.Builder.addAll_eq]
    simp [Registration.columns, Registration.relations]
  · rw [← r.map_leaf_columns, columns_build, List.map_map]
    rfl
  · rw [← Registration.exists_column_iff, columns_build]
    constructor
    · rintro ⟨c, hc, hpath, hleaf⟩
      obtain ⟨d, hd, rfl⟩ := List.mem_map.1 hc
      exact ⟨d, hd, hpath, hleaf⟩
    · rintro ⟨d, hd, hpath, hleaf⟩
      exact ⟨_, List.mem_map_of_mem hd, hpath, hleaf⟩
  · rw [map_path_build, List.pairwise_map]
    exact r.pairwise_path_lt
  · rw [map_path_build, relations_build, List.map_map]
    exact r.nodup_places.and r.pairwise_places
  · rw [filter_build, he, Option.elim_some, Member.columns, List.map_map, columns_build,
      List.map_map]
    rfl
  · rw [relations_build, List.mem_map]
    constructor
    · rintro ⟨d, hd, rfl⟩
      exact ⟨d.position, d.field, d.shape, d.options, Registration.mem_relations.1 hd, rfl⟩
    · rintro ⟨i, field, shape, options, hmember, rfl⟩
      exact ⟨_, Registration.mem_relations.2 hmember, rfl⟩

/-- A relation takes a position, inside an embedded entity too. -/
example :
    (build
      { type := "Book"
        members :=
          [.column "id" .text none true false,
            .embed "origin" "Origin" [.column "city" .text none false false,
              .relation "country" (.belongsTo "Country") {}, .column "year" .text none false false],
            .relation "author" (.belongsTo "Author") {},
            .column "title" .text none false false] }).columns.map ColumnInfo.path
      = [[0], [1, 0], [1, 2], [3]] := by
  decide +kernel

end Schema

end EntityGraph
