import EntityGraph.Annotation.Types
import EntityGraph.Proofs.Annotation.Relations
import EntityGraph.Proofs.Schema.Embedding

/-!
# Annotated structures as registrations

A structure is accepted just if its annotations are well formed and one of its fields brings columns
(`AnnotatedStruct.declaration_eq_ok_iff`). Its declaration is then one call for each field that is
not skipped, in order, and the place of such a field in the schema is its place among them.
-/

namespace EntityGraph

open Annotation

/-! ### Fields -/

/-- What its annotations make of a field, with all that they say. -/
inductive FieldRole where
  | relation (said : RelationDraft)
  | embedded
  | column (said : ColumnOptions)

namespace AnnotatedField

/-- The first annotation as a relation counts, then any as an embedded entity, then those as a
column. -/
def role (f : AnnotatedField) : FieldRole :=
  match f.annotations.find? (·.name = "relation") with
  | some a => .relation (.ofItems a.listed)
  | none =>
    if f.annotations.any (·.name = "embed") then .embedded
    else .column (.ofItems (itemsOf "column" f.annotations))

def isSkipped (f : AnnotatedField) : Bool :=
  match f.role with
  | .column said => said.skip
  | .relation _ | .embedded => false

def hasColumns (f : AnnotatedField) : Bool :=
  match f.role with
  | .column said => !said.skip
  | .embedded => true
  | .relation _ => false

/-- The annotations that count are well formed, and what is said about a relation fits together. -/
def WellFormed (f : AnnotatedField) : Prop :=
  match f.annotations.find? (·.name = "relation") with
  | some a => RelationDraft.IsReadable a ∧ (RelationDraft.ofItems a.listed).Fits
  | none =>
    (∃ a ∈ f.annotations, a.name = "embed") ∨
      ∀ a ∈ f.annotations, a.name = "column" → a.isAlone = true ∨ ListOf ColumnOptions.IsItem a

/-- The member that a field becomes if it is not skipped. -/
def toMember (f : AnnotatedField) : MemberDecl String :=
  match f.role with
  | .relation said => .relation f.name (said.shapeOf f.name f.type) said.optionsOf
  | .embedded => .embed f.name f.type
  | .column said => .column f.name f.type said.name said.primaryKey said.auto

variable {f : AnnotatedField}

theorem member_eq_ok_iff {m : Option (MemberDecl String)} :
    f.member = .ok m ↔ f.WellFormed ∧ m = if f.isSkipped then none else some f.toMember := by
  rw [member, WellFormed, isSkipped, toMember, role]
  cases f.annotations.find? (·.name = "relation") with
  | some a =>
    simp only [except_bind_eq_ok_iff, RelationDraft.read_eq_ok_iff, RelationDraft.finish_eq_ok_iff]
    constructor
    · rintro ⟨_, ⟨ha, rfl⟩, _, ⟨hfits, rfl⟩, h⟩
      exact ⟨⟨ha, hfits⟩, (Except.ok.inj h).symm⟩
    · rintro ⟨⟨ha, hfits⟩, rfl⟩
      exact ⟨_, ⟨ha, rfl⟩, _, ⟨hfits, rfl⟩, rfl⟩
  | none =>
    have hembed : (∃ a ∈ f.annotations, a.name = "embed") ↔
        f.annotations.any (·.name = "embed") = true := by simp
    rw [hembed]
    cases f.annotations.any (·.name = "embed") with
    | true => simp [pure, Except.pure, @eq_comm _ m]
    | false =>
      simp only [Bool.false_eq_true, if_false, false_or, except_bind_eq_ok_iff,
        ColumnOptions.read_eq_ok_iff]
      constructor
      · rintro ⟨_, ⟨hcolumns, rfl⟩, h⟩
        refine ⟨hcolumns, ?_⟩
        split at h
        · next hskip => rw [if_pos hskip, Except.ok.inj h]
        · next hskip => rw [if_neg hskip, Except.ok.inj h]
      · rintro ⟨hcolumns, rfl⟩
        refine ⟨_, ⟨hcolumns, rfl⟩, ?_⟩
        split <;> rfl

/-- The call that declares a field. -/
def statement (f : AnnotatedField) : List Call :=
  match f.role with
  | .relation said => said.statement f.name
  | .embedded => [⟨"embed", [f.name]⟩]
  | .column said =>
    ⟨"column", [f.name]⟩ :: (optionCall "name" said.name
      ++ (if said.primaryKey then [⟨"primary_key", []⟩] else [])
      ++ (if said.auto then [⟨"auto", []⟩] else []))

theorem WellFormed.fits (hf : f.WellFormed) {said : RelationDraft}
    (hrole : f.role = .relation said) : said.Fits := by
  rw [role] at hrole
  rw [WellFormed] at hf
  split at hrole
  · next a ha =>
    rw [ha] at hf
    cases hrole
    exact hf.2
  · split at hrole <;> cases hrole

theorem calls_toMember (hf : f.WellFormed) : f.toMember.calls = f.statement := by
  rw [toMember, statement]
  cases hrole : f.role with
  | relation said => exact RelationDraft.calls_relation (hf.fits hrole) f.name f.type
  | embedded | column => rfl

theorem bringsColumns_toMember (f : AnnotatedField) (hskipped : f.isSkipped = false) :
    f.toMember.bringsColumns = f.hasColumns := by
  rw [isSkipped] at hskipped
  rw [toMember, hasColumns]
  cases hrole : f.role with
  | relation | embedded => rfl
  | column said =>
    rw [hrole] at hskipped
    simp [MemberDecl.bringsColumns, hskipped]

theorem hasColumns_of_isSkipped (hskipped : f.isSkipped = true) : f.hasColumns = false := by
  rw [isSkipped] at hskipped
  rw [hasColumns]
  cases hrole : f.role with
  | relation => rfl
  | embedded => simp [hrole] at hskipped
  | column said => simpa [hrole] using hskipped

/-! ### Places -/

section

variable (reg : Registry) (t : TypeNames)

/-- The columns of a field that is at a position, each with its path. -/
def columnsAt (position : Nat) (f : AnnotatedField) : List (List Nat × Leaf) :=
  match f.role with
  | .relation _ => []
  | .embedded =>
    (Schema.build (reg.get (t.entity f.type))).columns.map fun c => (position :: c.path, c.leaf)
  | .column said =>
    [([position], ⟨f.name, said.name.getD (Text.snakeCase f.name), said.auto, t.column f.type⟩)]

/-- The relation that a field at a position is. -/
def relationAt (position : Nat) (f : AnnotatedField) : Option RelationInfo :=
  match f.role with
  | .relation said =>
    some (RelationDecl.info
      ⟨f.name, (said.shapeOf f.name f.type).resolve t, said.optionsOf.resolve t, position⟩)
  | .embedded | .column _ => none

/-- The member that a field becomes, with embedded entities in full. -/
def registered (f : AnnotatedField) : Member :=
  (f.toMember.resolve t).full fun type => (reg.get type).members

theorem columns_registered (f : AnnotatedField) (position : Nat) :
    ((f.registered reg t).columns position).map (fun d => (d.path, d.leaf))
      = f.columnsAt reg t position := by
  rw [registered, toMember, columnsAt]
  cases f.role with
  | relation | column => rfl
  | embedded =>
    rw [Schema.columns_build]
    simp only [MemberDecl.resolve, MemberDecl.full, Member.columns, List.map_map]
    rfl

theorem relations_registered (f : AnnotatedField) (position : Nat) :
    ((f.registered reg t).relations position).map RelationDecl.info
      = (f.relationAt t position).toList := by
  rw [registered, toMember, relationAt]
  cases f.role <;> rfl

end

end AnnotatedField

/-! ### Structures -/

namespace AnnotatedStruct

/-- The fields of a structure whose fields have names. -/
def fields (s : AnnotatedStruct) : List AnnotatedField :=
  match s.form with
  | .named fields => fields
  | .tuple | .unit | .enumeration | .union => []

/-- The fields that are not skipped. -/
def mapped (s : AnnotatedStruct) : List AnnotatedField := s.fields.filter (!·.isSkipped)

structure WellFormed (s : AnnotatedStruct) : Prop where
  named : ∃ fields, s.form = .named fields
  annotations : ∀ a ∈ s.annotations, a.name = "entity" → ListOf TypeOptions.IsItem a
  fields : ∀ f ∈ s.fields, f.WellFormed
  columns : ∃ f ∈ s.fields, f.hasColumns = true

/-- What is said about the type itself. -/
def said (s : AnnotatedStruct) : TypeOptions := .ofItems (itemsOf "entity" s.annotations)

def described (s : AnnotatedStruct) : Declaration String :=
  { type := s.name
    table := s.said.table
    primaryKey := s.said.primaryKey
    morphAlias := s.said.morphAlias
    members := s.mapped.map AnnotatedField.toMember }

theorem members_eq_ok_iff {fields : List AnnotatedField} {ms : List (MemberDecl String)} :
    members fields = .ok ms ↔
      (∀ f ∈ fields, f.WellFormed)
        ∧ ms = (fields.filter (!·.isSkipped)).map AnnotatedField.toMember := by
  induction fields generalizing ms with
  | nil => simp [members, eq_comm]
  | cons f rest ih =>
    simp only [members, except_bind_eq_ok_iff, AnnotatedField.member_eq_ok_iff, ih,
      List.forall_mem_cons]
    have hmembers : ((f :: rest).filter (!·.isSkipped)).map AnnotatedField.toMember
        = (if f.isSkipped then none else some f.toMember).toList
          ++ (rest.filter (!·.isSkipped)).map AnnotatedField.toMember := by
      cases h : f.isSkipped <;> simp [h]
    rw [hmembers]
    constructor
    · rintro ⟨_, ⟨hf, rfl⟩, _, ⟨hrest, rfl⟩, h⟩
      exact ⟨⟨hf, hrest⟩, (Except.ok.inj h).symm⟩
    · rintro ⟨⟨hf, hrest⟩, rfl⟩
      exact ⟨_, ⟨hf, rfl⟩, _, ⟨hrest, rfl⟩, rfl⟩

theorem any_bringsColumns (fields : List AnnotatedField) :
    ((fields.filter (!·.isSkipped)).map AnnotatedField.toMember).any MemberDecl.bringsColumns
      = fields.any AnnotatedField.hasColumns := by
  rw [List.any_map, List.any_filter]
  congr 1
  funext f
  cases hskipped : f.isSkipped with
  | true => simp [AnnotatedField.hasColumns_of_isSkipped hskipped]
  | false => simp [f.bringsColumns_toMember hskipped]

/-- **A structure is accepted just if it is well formed**, and then its declaration has a member for
each field that is not skipped. -/
theorem declaration_eq_ok_iff {s : AnnotatedStruct} {d : Declaration String} :
    s.declaration = .ok d ↔ s.WellFormed ∧ d = s.described := by
  rw [declaration]
  simp only [except_bind_eq_ok_iff, TypeOptions.read_eq_ok_iff]
  cases hform : s.form with
  | tuple | unit | enumeration | union =>
    have hnamed : ¬ s.WellFormed := by
      rintro ⟨⟨fields, hfields⟩, -⟩
      rw [hform] at hfields
      cases hfields
    simp [hnamed, throw, throwThe, MonadExceptOf.throw]
  | named fields =>
    have hfields : s.fields = fields := by rw [AnnotatedStruct.fields, hform]
    simp only [except_bind_eq_ok_iff, members_eq_ok_iff]
    constructor
    · rintro ⟨_, ⟨hannotations, rfl⟩, _, ⟨hwell, rfl⟩, h⟩
      rw [any_bringsColumns] at h
      split at h
      · next hcolumns =>
        rw [described, mapped, hfields, ← Except.ok.inj h]
        exact ⟨⟨⟨fields, hform⟩, hannotations, hfields ▸ hwell,
          hfields ▸ by simpa using hcolumns⟩, rfl⟩
      · cases h
    · rintro ⟨hs, rfl⟩
      refine ⟨_, ⟨hs.annotations, rfl⟩, _, ⟨hfields ▸ hs.fields, rfl⟩, ?_⟩
      rw [any_bringsColumns, if_pos, described, mapped, hfields]
      · rfl
      · simpa [hfields] using hs.columns

/-- The calls for the names of the type that are given. -/
def overrides (s : AnnotatedStruct) : List (List Call) :=
  ["table", "primary_key", "morph_alias"].filterMap fun name =>
    (lastText name (itemsOf "entity" s.annotations)).map fun text => [⟨name, [text]⟩]

theorem filter_optionCalls (given : String → Option String) (names : List String) :
    (names.map fun name => optionCall name (given name)).filter (!·.isEmpty)
      = names.filterMap fun name => (given name).map fun text => [⟨name, [text]⟩] := by
  induction names with
  | nil => rfl
  | cons name names ih =>
    rw [List.map_cons, List.filterMap_cons, ← ih]
    cases given name <;> rfl

theorem calls_described {s : AnnotatedStruct} (hs : s.WellFormed) :
    s.described.calls = s.overrides ++ s.mapped.map AnnotatedField.statement := by
  have hmembers : s.mapped.map (MemberDecl.calls ∘ AnnotatedField.toMember)
      = s.mapped.map AnnotatedField.statement :=
    List.map_congr_left fun f hf =>
      AnnotatedField.calls_toMember (hs.fields f (List.mem_of_mem_filter hf))
  rw [← hmembers, overrides, ← filter_optionCalls, ← List.map_map]
  rfl

/-! ### The schema -/

/-- What the fields are in a schema. -/
structure Registers (reg : Registry) (t : TypeNames) (fields : List AnnotatedField)
    (schema : Schema) : Prop where
  /-- The columns are those of the fields in turn. -/
  columns : schema.columns.map (fun c => (c.path, c.leaf))
    = fields.zipIdx.flatMap fun p => p.1.columnsAt reg t p.2
  /-- The columns behind a position are those of the field there. -/
  behind : ∀ (k : Nat) (f : AnnotatedField), fields[k]? = some f →
    (schema.columns.filter fun c => c.path.head? = some k).map (fun c => (c.path, c.leaf))
      = f.columnsAt reg t k
  /-- The relations are those of the fields in turn. -/
  relations : schema.relations = fields.zipIdx.filterMap fun p => p.1.relationAt t p.2

variable {s : AnnotatedStruct} {t : TypeNames} {ds : List (Declaration ColumnType)}

theorem registers_of_members {r : Registration} {reg : Registry} {fields : List AnnotatedField}
    (h : r.members = fields.map (AnnotatedField.registered reg t)) :
    Registers reg t fields (Schema.build r) where
  columns := by
    rw [Schema.map_leaf_build, Registration.columns, h, memberColumns_eq_flatMap,
      List.map_flatMap, List.zipIdx_map, List.flatMap_map]
    exact List.flatMap_congr fun p _ => p.1.columns_registered reg t p.2
  behind k f hf := by
    rw [Schema.filter_build, h, List.getElem?_map, hf]
    exact f.columns_registered reg t k
  relations := by
    rw [Schema.relations_build, Registration.relations, h, memberRelations_eq_flatMap,
      List.map_flatMap, List.zipIdx_map, List.flatMap_map, List.filterMap_eq_flatMap_toList]
    exact List.flatMap_congr fun p _ => p.1.relations_registered reg t p.2

theorem members_described (hds : Declaration.Founded ds) :
    (Declaration.register ds (s.described.resolve t)).members
      = s.mapped.map (AnnotatedField.registered (Registry.ofDeclarations ds) t) := by
  rw [Declaration.register_eq hds]
  simp only [Declaration.full, Declaration.resolve, described, List.map_map]
  rfl

/-- **Fields are registered faithfully.** A structure is accepted just if it is well formed. Then it
is declared by the calls for its own names and one call for each field that is not skipped, and in
the schema that field has its place among them. -/
theorem declaration_registers (s : AnnotatedStruct) :
    ((∃ d, s.declaration = .ok d) ↔ s.WellFormed) ∧
      ∀ d, s.declaration = .ok d →
        d.type = s.name ∧ d.calls = s.overrides ++ s.mapped.map AnnotatedField.statement ∧
          ∀ (t : TypeNames) (ds : List (Declaration ColumnType)), Declaration.Founded ds →
            Registers (Registry.ofDeclarations ds) t s.mapped
              (Schema.build (Declaration.register ds (d.resolve t))) := by
  refine ⟨?_, fun d hd => ?_⟩
  · simp [declaration_eq_ok_iff]
  · obtain ⟨hs, rfl⟩ := declaration_eq_ok_iff.1 hd
    exact ⟨rfl, calls_described hs, fun t ds hds => registers_of_members (members_described hds)⟩

/-- An article with a relation, a field that is skipped and an embedded entity. -/
def article : AnnotatedStruct :=
  { name := "Article"
    annotations := [⟨"entity", .list [⟨"table", .text "articles"⟩]⟩]
    form := .named
      [⟨"id", "i64", [⟨"column", .list [⟨"primary_key", .none⟩]⟩]⟩,
        ⟨"author", "Author", [⟨"relation", .list [⟨"belongs_to", .none⟩]⟩]⟩,
        ⟨"draft", "bool", [⟨"column", .list [⟨"skip", .none⟩]⟩]⟩,
        ⟨"origin", "Origin", [⟨"embed", .none⟩]⟩,
        ⟨"title", "String", [⟨"column", .list [⟨"name", .text "headline"⟩]⟩]⟩] }

def articleDeclaration : Declaration String :=
  { type := "Article"
    table := some "articles"
    members :=
      [.column "id" "i64" none true false, .relation "author" (.belongsTo "Author") {},
        .embed "origin" "Origin", .column "title" "String" (some "headline") false false] }

def origin : Declaration ColumnType :=
  { type := "Origin"
    members := [.column "city" .text none false false, .column "year" .text none false false] }

/-- Every column is a text. -/
def texts : TypeNames := { column := fun _ => .text, entity := id }

theorem declaration_registers_article :
    article.declaration = .ok articleDeclaration ∧
      Declaration.Founded [origin, articleDeclaration.resolve texts] ∧
      articleDeclaration.calls =
        [[⟨"table", ["articles"]⟩], [⟨"column", ["id"]⟩, ⟨"primary_key", []⟩],
          [⟨"belongs_to", ["author"]⟩], [⟨"embed", ["origin"]⟩],
          [⟨"column", ["title"]⟩, ⟨"name", ["headline"]⟩]] ∧
      (Schema.build (Declaration.register [origin, articleDeclaration.resolve texts]
        (articleDeclaration.resolve texts))).columns.map (fun c => (c.path, c.leaf)) =
        [([0], ⟨"id", "id", false, .text⟩), ([2, 0], ⟨"city", "city", false, .text⟩),
          ([2, 1], ⟨"year", "year", false, .text⟩),
          ([3], ⟨"title", "headline", false, .text⟩)] := by
  have hdeclared : article.declaration = .ok articleDeclaration := rfl
  have hfounded : Declaration.Founded [origin, articleDeclaration.resolve texts] := by
    refine ⟨fun type => if type = "Article" then 1 else 0, ?_⟩
    simp [origin, articleDeclaration, Declaration.resolve, MemberDecl.resolve, texts]
  obtain ⟨-, hcalls, hregisters⟩ := (declaration_registers article).2 _ hdeclared
  refine ⟨hdeclared, hfounded, hcalls.trans (by decide +kernel),
    (hregisters texts _ hfounded).columns.trans ?_⟩
  rw [Declaration.ofDeclarations_eq_full]
  decide +kernel

end AnnotatedStruct

end EntityGraph
