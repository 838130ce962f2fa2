import EntityGraph.Proofs.Annotation.Registering

/-!
# Names of fields

The catalog knows a field of an annotated structure under its name as it is written, and takes the
conventional names of columns and relations from there (`Registers.knownAs_iff`). A name that is
also a keyword is written with a prefix, and the prefix becomes part of all these names: the catalog
does not know such a field under its own name (`fields_known`).
-/

namespace EntityGraph

open Annotation

/-- The name that is written, apart from the prefix that keeps it from being a keyword. -/
def identifierName (written : String) : String :=
  match written.toList with
  | 'r' :: '#' :: name => String.ofList name
  | _ => written

def isRaw (written : String) : Bool := ['r', '#'].isPrefixOf written.toList

theorem identifierName_eq_iff {written : String} :
    identifierName written = written ↔ isRaw written = false := by
  rw [identifierName, isRaw]
  split
  · next name h =>
    have hlonger : name ≠ 'r' :: '#' :: name := by
      intro hsame
      have hlength := congrArg List.length hsame
      simp only [List.length_cons] at hlength
      omega
    rw [← String.toList_inj, String.toList_ofList, h]
    simpa using hlonger
  · next h =>
    simp only [true_iff, Bool.eq_false_iff, ne_eq, List.isPrefixOf_iff_prefix]
    rintro ⟨name, hname⟩
    exact h name hname.symm

/-- Where at most one element is looked for, it does not matter from where it is looked for. -/
theorem find?_reverse_eq_some_iff {α : Type} {p : α → Bool} {l : List α} {a : α}
    (hunique : ∀ a ∈ l, ∀ b ∈ l, p a = true → p b = true → a = b) :
    l.reverse.find? p = some a ↔ a ∈ l ∧ p a = true := by
  constructor
  · intro h
    exact ⟨List.mem_reverse.1 (List.mem_of_find?_eq_some h), List.find?_some h⟩
  · rintro ⟨ha, hp⟩
    cases hfind : l.reverse.find? p with
    | none =>
      rw [List.find?_eq_none] at hfind
      exact absurd hp (hfind a (List.mem_reverse.2 ha))
    | some b =>
      have hb := List.mem_reverse.1 (List.mem_of_find?_eq_some hfind)
      rw [hunique b hb a ha (List.find?_some hfind) hp]

/-- The catalog knows the field at a position under a name, and the conventional names come from it:
of its column, or of its relation and of the columns of the owner. -/
def AnnotatedField.KnownAs (f : AnnotatedField) (schema : Schema) (position : Nat)
    (name : String) : Prop :=
  match f.role with
  | .column said => ∃ c, schema.field? name = some c ∧ c.path = [position] ∧
      (said.name = none → c.column = Text.snakeCase name)
  | .relation said => ∃ info, schema.relationField? name = some info ∧ info.position = position ∧
      (said.options.name = none → info.name = Text.upperCamelCase name) ∧
      (said.theKind = .morphTo → said.morph = none → info.shape = .morphTo name)
  | .embedded => False

theorem AnnotatedField.exists_column {f : AnnotatedField} (hcolumns : f.hasColumns = true)
    (hplain : f.role ≠ .embedded) : ∃ said, f.role = .column said ∧ said.skip = false := by
  rw [hasColumns] at hcolumns
  cases hrole : f.role with
  | embedded => exact absurd hrole hplain
  | relation said => simp [hrole] at hcolumns
  | column said => exact ⟨said, rfl, by simpa [hrole] using hcolumns⟩

namespace AnnotatedStruct

namespace Registers

variable {reg : Registry} {t : TypeNames} {fields : List AnnotatedField} {schema : Schema}

/-- Without embedded entities every column is a field. -/
theorem exists_of_mem_columns (h : Registers reg t fields schema)
    (hplain : ∀ f ∈ fields, f.role ≠ .embedded) {c : ColumnInfo} (hc : c ∈ schema.columns) :
    ∃ (k : Nat) (f : AnnotatedField) (said : ColumnOptions),
      fields[k]? = some f ∧ f.role = .column said ∧ c.path = [k] ∧ c.field = f.name ∧
        c.column = said.name.getD (Text.snakeCase f.name) := by
  have hmem : (c.path, c.leaf) ∈ schema.columns.map fun c => (c.path, c.leaf) :=
    List.mem_map_of_mem hc
  rw [h.columns, List.mem_flatMap] at hmem
  obtain ⟨⟨f, k⟩, hf, hmem⟩ := hmem
  rw [List.mem_zipIdx_iff_getElem?] at hf
  rw [AnnotatedField.columnsAt] at hmem
  cases hrole : f.role with
  | relation said => simp [hrole] at hmem
  | embedded => exact absurd hrole (hplain f (List.mem_of_getElem? hf))
  | column said =>
    simp only [hrole, List.mem_singleton, Prod.mk.injEq, ColumnInfo.leaf, Leaf.mk.injEq] at hmem
    exact ⟨k, f, said, hf, hrole, hmem.1, hmem.2.1, hmem.2.2.1⟩

theorem exists_unique_column (h : Registers reg t fields schema) {k : Nat} {f : AnnotatedField}
    (hf : fields[k]? = some f) {said : ColumnOptions} (hrole : f.role = .column said) :
    ∃ c ∈ schema.columns, c.path = [k] ∧ ∀ c' ∈ schema.columns, c'.path = [k] → c' = c := by
  have hbehind := h.behind k f hf
  rw [AnnotatedField.columnsAt, hrole] at hbehind
  obtain ⟨c, hc, hleaf⟩ := List.map_eq_singleton_iff.1 hbehind
  have hmem : ∀ c', c' ∈ schema.columns ∧ c'.path.head? = some k ↔ c' = c := by
    intro c'
    rw [← @List.mem_singleton _ c' c, ← hc, List.mem_filter, decide_eq_true_eq]
  refine ⟨c, ((hmem c).2 rfl).1, (Prod.mk.inj hleaf).1, fun c' hc' hpath => ?_⟩
  exact (hmem c').1 ⟨hc', by rw [hpath, List.head?_cons]⟩

theorem mem_relations_iff (h : Registers reg t fields schema) {info : RelationInfo} :
    info ∈ schema.relations ↔
      ∃ (k : Nat) (f : AnnotatedField) (said : RelationDraft),
        fields[k]? = some f ∧ f.role = .relation said ∧
          info = RelationDecl.info ⟨f.name, (said.shapeOf f.name f.type).resolve t,
            said.optionsOf.resolve t, k⟩ := by
  have hrelation : ∀ (k : Nat) (f : AnnotatedField), f.relationAt t k = some info ↔
      ∃ said, f.role = .relation said ∧ info = RelationDecl.info ⟨f.name,
        (said.shapeOf f.name f.type).resolve t, said.optionsOf.resolve t, k⟩ := by
    intro k f
    rw [AnnotatedField.relationAt]
    cases f.role <;> simp [eq_comm]
  rw [h.relations]
  simp only [List.mem_filterMap, Prod.exists, List.mem_zipIdx_iff_getElem?, hrelation]
  constructor
  · rintro ⟨f, k, hf, said, hrole, rfl⟩
    exact ⟨k, f, said, hf, hrole, rfl⟩
  · rintro ⟨k, f, said, hf, hrole, rfl⟩
    exact ⟨f, k, hf, said, hrole, rfl⟩

section

variable (hnames : (fields.map AnnotatedField.name).Nodup)
include hnames

theorem eq_of_name_eq {k k' : Nat} {f f' : AnnotatedField} (hf : fields[k]? = some f)
    (hf' : fields[k']? = some f') (hname : f.name = f'.name) : k = k' := by
  refine (List.getElem?_inj ?_ hnames).1 ?_
  · rw [List.length_map]
    exact (List.getElem?_eq_some_iff.1 hf).1
  · rw [List.getElem?_map, List.getElem?_map, hf, hf', Option.map_some, hname, Option.map_some]

theorem field?_eq_some_iff (h : Registers reg t fields schema)
    (hplain : ∀ f ∈ fields, f.role ≠ .embedded) {name : String} {c : ColumnInfo} :
    schema.field? name = some c ↔ c ∈ schema.columns ∧ c.field = name := by
  rw [Schema.field?, find?_reverse_eq_some_iff, decide_eq_true_eq]
  intro a ha b hb hname hname'
  obtain ⟨k, f, said, hf, hrole, hpath, hfield, -⟩ := h.exists_of_mem_columns hplain ha
  obtain ⟨k', f', -, hf', -, hpath', hfield', -⟩ := h.exists_of_mem_columns hplain hb
  have hsame : f.name = f'.name := by
    rw [← hfield, ← hfield', of_decide_eq_true hname, of_decide_eq_true hname']
  obtain rfl := eq_of_name_eq hnames hf hf' hsame
  obtain ⟨c, -, -, hunique⟩ := h.exists_unique_column hf hrole
  rw [hunique a ha hpath, hunique b hb hpath']

theorem relationField?_eq_some_iff (h : Registers reg t fields schema) {name : String}
    {info : RelationInfo} :
    schema.relationField? name = some info ↔ info ∈ schema.relations ∧ info.field = name := by
  rw [Schema.relationField?, find?_reverse_eq_some_iff, decide_eq_true_eq]
  intro a ha b hb hname hname'
  obtain ⟨k, f, said, hf, hrole, rfl⟩ := h.mem_relations_iff.1 ha
  obtain ⟨k', f', said', hf', hrole', rfl⟩ := h.mem_relations_iff.1 hb
  have hsame : f.name = f'.name :=
    (of_decide_eq_true hname).trans (of_decide_eq_true hname').symm
  obtain rfl := eq_of_name_eq hnames hf hf' hsame
  obtain rfl : f = f' := Option.some.inj (hf.symm.trans hf')
  rw [hrole, FieldRole.relation.injEq] at hrole'
  rw [hrole']

/-- **A field is known under its name as it is written, and under no other one.** -/
theorem knownAs_iff (h : Registers reg t fields schema)
    (hplain : ∀ f ∈ fields, f.role ≠ .embedded) {k : Nat} {f : AnnotatedField}
    (hf : fields[k]? = some f) {name : String} :
    f.KnownAs schema k name ↔ name = f.name := by
  rw [AnnotatedField.KnownAs]
  cases hrole : f.role with
  | embedded => exact absurd hrole (hplain f (List.mem_of_getElem? hf))
  | column said =>
    simp only [h.field?_eq_some_iff hnames hplain]
    constructor
    · rintro ⟨c, ⟨hc, rfl⟩, hpath, -⟩
      obtain ⟨k', f', -, hf', -, hpath', hfield, -⟩ := h.exists_of_mem_columns hplain hc
      obtain rfl : k = k' := by simpa [hpath] using hpath'
      obtain rfl : f = f' := Option.some.inj (hf.symm.trans hf')
      exact hfield
    · rintro rfl
      obtain ⟨c, hc, hpath, -⟩ := h.exists_unique_column hf hrole
      obtain ⟨k', f', said', hf', hrole', hpath', hfield, hcolumn⟩ :=
        h.exists_of_mem_columns hplain hc
      obtain rfl : k = k' := by simpa [hpath] using hpath'
      obtain rfl : f = f' := Option.some.inj (hf.symm.trans hf')
      rw [hrole, FieldRole.column.injEq] at hrole'
      refine ⟨c, ⟨hc, hfield⟩, hpath, fun hnone => ?_⟩
      rw [hcolumn, ← hrole', hnone, Option.getD_none]
  | relation said =>
    simp only [h.relationField?_eq_some_iff hnames]
    constructor
    · rintro ⟨info, ⟨hinfo, rfl⟩, hposition, -⟩
      obtain ⟨k', f', said', hf', hrole', rfl⟩ := h.mem_relations_iff.1 hinfo
      obtain rfl : k' = k := hposition
      obtain rfl : f = f' := Option.some.inj (hf.symm.trans hf')
      rfl
    · rintro rfl
      refine ⟨_, ⟨h.mem_relations_iff.2 ⟨k, f, said, hf, hrole, rfl⟩, rfl⟩, rfl, fun hnone => ?_,
        fun hkind hmorph => ?_⟩
      · simp [RelationDecl.info, RelationOptions.resolve, RelationDraft.optionsOf, hnone]
      · simp [RelationDecl.info, RelationDraft.shapeOf, RelationShape.resolve, hkind, hmorph]

end

end Registers

variable {s : AnnotatedStruct} {t : TypeNames} {ds : List (Declaration ColumnType)}

/-- Without embedded entities the other declarations do not matter. -/
theorem members_described_of_plain (hplain : ∀ f ∈ s.fields, f.role ≠ .embedded) (reg : Registry) :
    (Declaration.register ds (s.described.resolve t)).members
      = s.mapped.map (AnnotatedField.registered reg t) := by
  simp only [Declaration.register_eq_full, Declaration.full, Declaration.resolve, described,
    List.map_map]
  refine List.map_congr_left fun f hf => ?_
  have hrole := hplain f (List.mem_of_mem_filter hf)
  simp only [Function.comp_apply, AnnotatedField.registered, AnnotatedField.toMember]
  cases hf : f.role with
  | embedded => exact absurd hf hrole
  | relation | column => rfl

/-- The schema of a structure without embedded entities. -/
theorem exists_schema (hs : s.WellFormed) (hplain : ∀ f ∈ s.fields, f.role ≠ .embedded)
    (hfind : Declaration.find? ds s.name = some (s.described.resolve t)) :
    ∃ schema, (Registry.ofDeclarations ds).schema s.name = .ok schema ∧
      Registers (Registry.ofDeclarations ds) t s.mapped schema := by
  have hget : (Registry.ofDeclarations ds).get s.name
      = Declaration.register ds (s.described.resolve t) := by
    rw [Declaration.get_ofDeclarations, hfind]
    rfl
  have hregisters : Registers (Registry.ofDeclarations ds) t s.mapped
      (Schema.build (Declaration.register ds (s.described.resolve t))) :=
    registers_of_members (members_described_of_plain hplain _)
  obtain ⟨f, hf, hcolumns⟩ := hs.columns
  obtain ⟨said, hrole, hskip⟩ := AnnotatedField.exists_column hcolumns (hplain f hf)
  have hmapped : f ∈ s.mapped :=
    List.mem_filter.2 ⟨hf, by rw [AnnotatedField.isSkipped, hrole]; simpa using hskip⟩
  obtain ⟨k, hk⟩ := List.getElem?_of_mem hmapped
  obtain ⟨c, hc, -⟩ := hregisters.exists_unique_column hk hrole
  rw [Registry.schema, hget, if_neg]
  · exact ⟨_, rfl, hregisters⟩
  · intro hempty
    rw [Schema.columns_build, List.isEmpty_iff.1 hempty] at hc
    cases hc

/-- **Fields are known under their names as they are written**, and so under their own names just if
these are written without a prefix. -/
theorem fields_known {d : Declaration String} (hd : s.declaration = .ok d)
    (hplain : ∀ f ∈ s.fields, f.role ≠ .embedded)
    (hnames : (s.fields.map AnnotatedField.name).Nodup)
    (hfind : Declaration.find? ds s.name = some (d.resolve t)) :
    ∃ schema, (Registry.ofDeclarations ds).schema s.name = .ok schema ∧
      ∀ (k : Nat) (f : AnnotatedField), s.mapped[k]? = some f →
        (∀ name, f.KnownAs schema k name ↔ name = f.name) ∧
          (f.KnownAs schema k (identifierName f.name) ↔ isRaw f.name = false) := by
  obtain ⟨hs, rfl⟩ := declaration_eq_ok_iff.1 hd
  obtain ⟨schema, hschema, hregisters⟩ := exists_schema hs hplain hfind
  refine ⟨schema, hschema, fun k f hf => ?_⟩
  have hknown : ∀ name, f.KnownAs schema k name ↔ name = f.name := fun name =>
    hregisters.knownAs_iff (hnames.sublist (List.filter_sublist.map _))
      (fun f hf => hplain f (List.mem_of_mem_filter hf)) hf
  exact ⟨hknown, (hknown _).trans identifierName_eq_iff⟩

/-- A book with a field that is named like a keyword. -/
def book : AnnotatedStruct :=
  { name := "Book"
    annotations := []
    form := .named
      [⟨"id", "i64", [⟨"column", .list [⟨"primary_key", .none⟩]⟩]⟩, ⟨"r#type", "String", []⟩,
        ⟨"shelf", "Morphed", [⟨"relation", .list [⟨"morph_to", .none⟩]⟩]⟩] }

def bookDeclaration : Declaration String :=
  { type := "Book"
    members :=
      [.column "id" "i64" none true false, .column "r#type" "String" none false false,
        .relation "shelf" (.morphTo "shelf") {}] }

theorem fields_known_book :
    book.declaration = .ok bookDeclaration ∧
      book.mapped.map (fun f => (f.name, isRaw f.name))
        = [("id", false), ("r#type", true), ("shelf", false)] ∧
      ∃ schema,
        (Registry.ofDeclarations [bookDeclaration.resolve texts]).schema "Book" = .ok schema ∧
          ∀ (k : Nat) (f : AnnotatedField), book.mapped[k]? = some f →
            (∀ name, f.KnownAs schema k name ↔ name = f.name) ∧
              (f.KnownAs schema k (identifierName f.name) ↔ isRaw f.name = false) := by
  have hdeclared : book.declaration = .ok bookDeclaration := rfl
  have hplain : ∀ f ∈ book.fields, f.role ≠ .embedded := by
    intro f hf hrole
    simp only [AnnotatedStruct.fields, book, List.mem_cons, List.not_mem_nil, or_false] at hf
    rcases hf with rfl | rfl | rfl <;> cases hrole
  exact ⟨hdeclared, by decide +kernel, fields_known hdeclared hplain (by decide) rfl⟩

/-- The catalog does not know the field under its own name, and its column has another name too. -/
theorem field_type_unknown :
    book.declaration = .ok bookDeclaration ∧ identifierName "r#type" = "type" ∧
      ∃ schema,
        (Registry.ofDeclarations [bookDeclaration.resolve texts]).schema "Book" = .ok schema ∧
          schema.field? "type" = none ∧
          (schema.field? "r#type").map (fun c => (c.path, c.column)) = some ([1], "r_type") := by
  rw [Declaration.ofDeclarations_eq_full]
  refine ⟨rfl, by decide +kernel, _, if_neg (by decide +kernel), ?_, ?_⟩
  · decide +kernel
  · decide +kernel

end AnnotatedStruct

end EntityGraph
