import EntityGraph.Proofs.Column.Lossless
import EntityGraph.Proofs.Schema.Columns

/-!
# Rows and back

An entity makes a row: its columns with the values bound for them. Read again, the row gives back
every field that is the last one with its column name, and leaves the default in every other field,
since values are read into fields by the names of their columns (`scan_rowOf`). So nothing is lost
where column names differ, and something is lost where an embedded entity has a column name of the
entity around it.
-/

namespace EntityGraph

/-- Every value of the type is read back from the value that is bound for it. -/
def ColumnType.RoundTrips (t : ColumnType) : Prop := ∀ x : t.Carrier, t.fromSql (t.toSql x) = .ok x

theorem ColumnType.roundTrips_of_isExact {t : ColumnType} (ht : t.isExact = true) : t.RoundTrips :=
  fun x => (fromSql_toSql_of_isExact ht x).1

/-- The value that is bound for a column, NULL if the entity has no such column. -/
def Row.boundValue (e : Entity) (c : ColumnInfo) : Sql.Value :=
  (e.cell? c.path).elim .null Cell.toSql

namespace Schema

/-- The row that an entity makes. -/
def rowOf (s : Schema) (e : Entity) : Sql.Record :=
  ⟨s.columns.map fun c => (c.column, e.boundValue c)⟩

/-- The value that is bound for a column can be read into the column that its name leads to. -/
def Readable (s : Schema) (e : Entity) (c : ColumnInfo) : Prop :=
  ∀ d, s.column? c.column = some d → ∃ x, d.type.fromSql (e.boundValue c) = .ok x

/-- The row of an entity gives back all its columns. -/
def Restores (s : Schema) (e : Entity) : Prop :=
  ∃ e', s.scan (s.rowOf e) = .ok e' ∧ ∀ c ∈ s.columns, e'.cell? c.path = e.cell? c.path

variable {reg : Registry} {type : String} {s : Schema} {e e' : Entity}

/-! ### Which values are read -/

theorem readColumns_append_eq_ok {before after : List (String × Sql.Value)} :
    s.readColumns e (before ++ after) = .ok e' ↔
      ∃ middle, s.readColumns e before = .ok middle ∧ s.readColumns middle after = .ok e' := by
  induction before generalizing e with
  | nil => simp [readColumns]
  | cons p before ih =>
    simp only [List.cons_append, readColumns_cons_eq_ok, ih]
    constructor
    · rintro ⟨next, hnext, middle, hbefore, hafter⟩
      exact ⟨middle, ⟨next, hnext, hbefore⟩, hafter⟩
    · rintro ⟨middle, ⟨next, hnext, hbefore⟩, hafter⟩
      exact ⟨next, hnext, middle, hbefore, hafter⟩

/-- Whether a value can be read does not depend on what was read before. -/
theorem exists_readColumn_iff {name : String} {v : Sql.Value} :
    (∃ e', s.readColumn e name v = .ok e') ↔
      ∀ c, s.column? name = some c → ∃ x, c.type.fromSql v = .ok x := by
  unfold readColumn
  cases hc : s.column? name with
  | none => simp
  | some c => cases hread : c.type.fromSql v <;> simp [Cell.read, hread, Except.map]

theorem exists_readColumns_iff {columns : List (String × Sql.Value)} :
    (∃ e', s.readColumns e columns = .ok e') ↔
      ∀ p ∈ columns, ∀ c, s.column? p.1 = some c → ∃ x, c.type.fromSql p.2 = .ok x := by
  induction columns generalizing e with
  | nil => simp [readColumns]
  | cons p columns ih =>
    rw [List.forall_mem_cons, ← exists_readColumn_iff (e := e)]
    simp only [readColumns_cons_eq_ok]
    constructor
    · rintro ⟨e', next, hnext, h⟩
      exact ⟨⟨next, hnext⟩, ih.1 ⟨e', h⟩⟩
    · rintro ⟨⟨next, hnext⟩, h⟩
      obtain ⟨e', he'⟩ := (ih (e := next)).2 h
      exact ⟨e', next, hnext, he'⟩

/-- Values whose columns are not mapped are left out. -/
theorem readColumns_filter (s : Schema) (e : Entity) (columns : List (String × Sql.Value)) :
    s.readColumns e (columns.filter fun p => (s.column? p.1).isSome) = s.readColumns e columns := by
  induction columns generalizing e with
  | nil => rfl
  | cons p columns ih =>
    rw [List.filter_cons]
    split
    · rw [readColumns, readColumns]
      cases s.readColumn e p.1 p.2 with
      | error why => rfl
      | ok next => exact ih next
    · next hnone =>
      rw [Bool.not_eq_true, Option.isSome_eq_false_iff, Option.isNone_iff_eq_none] at hnone
      have hkept : s.readColumn e p.1 p.2 = .ok e := by
        unfold readColumn
        rw [hnone]
      rw [readColumns, hkept]
      exact ih e

/-! ### Where they are read to -/

theorem cell?_readColumns_of_ne (hs : reg.schema type = .ok s)
    {columns : List (String × Sql.Value)} (he : s.Typed e)
    (h : s.readColumns e columns = .ok e') {c : ColumnInfo} (hc : c ∈ s.columns)
    (hne : ∀ p ∈ columns, s.column? p.1 ≠ some c) : e'.cell? c.path = e.cell? c.path := by
  induction columns generalizing e with
  | nil =>
    cases h
    rfl
  | cons p columns ih =>
    obtain ⟨hp, hne⟩ := List.forall_mem_cons.1 hne
    obtain ⟨next, hnext, h⟩ := readColumns_cons_eq_ok.1 h
    obtain ⟨htyped, -, hother⟩ := typed_readColumn hs he hnext
    exact (ih htyped h hne).trans (hother c hc hp)

/-- A column holds the last value of its name. -/
theorem cell?_readColumns_last (hs : reg.schema type = .ok s)
    {before after : List (String × Sql.Value)} {name : String} {v : Sql.Value} (he : s.Typed e)
    (h : s.readColumns e (before ++ (name, v) :: after) = .ok e') {c : ColumnInfo}
    (hc : s.column? name = some c) (hlast : ∀ p ∈ after, p.1 ≠ name) :
    ∃ x, c.type.fromSql v = .ok x ∧ e'.cell? c.path = some ⟨c.type, x⟩ := by
  obtain ⟨middle, hbefore, h⟩ := readColumns_append_eq_ok.1 h
  obtain ⟨next, hnext, h⟩ := readColumns_cons_eq_ok.1 h
  obtain ⟨htyped, hread, -⟩ := typed_readColumn hs (typed_readColumns hs he hbefore) hnext
  obtain ⟨x, hx, hcell⟩ := hread c hc
  -- no later value goes to the column
  refine ⟨x, hx, (cell?_readColumns_of_ne hs htyped h (mem_of_column? hc) ?_).trans hcell⟩
  intro p hp hpc
  exact hlast p hp ((column_of_column? hpc).symm.trans (column_of_column? hc))

/-! ### The row of an entity -/

theorem boundValue_eq {c : ColumnInfo} {x : c.type.Carrier}
    (hcell : e.cell? c.path = some ⟨c.type, x⟩) : e.boundValue c = c.type.toSql x := by
  rw [Row.boundValue, hcell]
  rfl

/-- The column of a name is the last one with that name. -/
theorem exists_of_column? {name : String} {c : ColumnInfo} (hc : s.column? name = some c) :
    ∃ before after, s.columns = before ++ c :: after ∧ ∀ d ∈ after, d.column ≠ name := by
  obtain ⟨-, after, before, hcolumns, hafter⟩ := List.find?_eq_some_iff_append.1 hc
  refine ⟨before.reverse, after.reverse, ?_, fun d hd => ?_⟩
  · rw [← List.reverse_inj, hcolumns]
    simp
  · simpa using hafter d (List.mem_reverse.1 hd)

/-- Where all names differ, every column is the column of its name. -/
theorem column?_of_nodup (h : s.columnNames.Nodup) {c : ColumnInfo} (hc : c ∈ s.columns) :
    s.column? c.column = some c := by
  cases hd : s.column? c.column with
  | none =>
    have hnone := List.find?_eq_none.1 hd c (List.mem_reverse.2 hc)
    simp at hnone
  | some d =>
    exact congrArg some (List.inj_on_of_nodup_map h (mem_of_column? hd) hc (column_of_column? hd))

/-- What the fields of an entity are after its row was read. -/
theorem cell?_scan_rowOf (hs : reg.schema type = .ok s)
    (htypes : ∀ c ∈ s.columns, c.type.RoundTrips) (he : s.Typed e)
    (h : s.scan (s.rowOf e) = .ok e') {c : ColumnInfo} (hc : c ∈ s.columns) :
    e'.cell? c.path
      = if s.column? c.column = some c then e.cell? c.path else some (Cell.default c.type) := by
  split
  · next hlast =>
    obtain ⟨before, after, hcolumns, hafter⟩ := exists_of_column? hlast
    obtain ⟨x, hx⟩ := he c hc
    rw [scan, rowOf, hcolumns, List.map_append, List.map_cons, boundValue_eq hx] at h
    obtain ⟨y, hy, hcell⟩ :=
      cell?_readColumns_last hs (typed_fresh hs) h hlast (by simpa using hafter)
    rw [htypes c hc x] at hy
    rw [hcell, hx, Except.ok.inj hy]
  · next hlast =>
    refine (cell?_readColumns_of_ne hs (typed_fresh hs) h hc fun p _ hpc => ?_).trans
      (cell?_fresh hs hc)
    rw [column_of_column? hpc] at hlast
    exact hlast hpc

theorem exists_scan_rowOf_iff :
    (∃ e', s.scan (s.rowOf e) = .ok e') ↔ ∀ c ∈ s.columns, s.Readable e c :=
  exists_readColumns_iff.trans List.forall_mem_map

/-- An entity is restored just if every field that shares its column name with a later one has its
default, and its value can be read into the last one. -/
theorem restores_iff (hs : reg.schema type = .ok s)
    (htypes : ∀ c ∈ s.columns, c.type.RoundTrips) (he : s.Typed e) :
    s.Restores e ↔ ∀ c ∈ s.columns, s.column? c.column = some c ∨
      e.cell? c.path = some (Cell.default c.type) ∧ s.Readable e c := by
  constructor
  · rintro ⟨e', hscan, hsame⟩ c hc
    by_cases hlast : s.column? c.column = some c
    · exact .inl hlast
    · have hcell := cell?_scan_rowOf hs htypes he hscan hc
      rw [if_neg hlast, hsame c hc] at hcell
      exact .inr ⟨hcell, exists_scan_rowOf_iff.1 ⟨e', hscan⟩ c hc⟩
  · intro hfields
    obtain ⟨e', hscan⟩ : ∃ e', s.scan (s.rowOf e) = .ok e' := by
      refine exists_scan_rowOf_iff.2 fun c hc d hd => ?_
      obtain hlast | ⟨-, hread⟩ := hfields c hc
      · obtain rfl := Option.some.inj (hlast.symm.trans hd)
        obtain ⟨x, hx⟩ := he c hc
        exact ⟨x, boundValue_eq hx ▸ htypes c hc x⟩
      · exact hread d hd
    refine ⟨e', hscan, fun c hc => ?_⟩
    rw [cell?_scan_rowOf hs htypes he hscan hc]
    split
    · rfl
    · next hlast => exact ((hfields c hc).resolve_left hlast).1.symm

/-- **Rows and back.** Where all column names differ, the row of an entity gives back every field.
In general it can be read just if every value can be read into the last column of its name; then a
field is given back if it is the last one with its column name, and has its default otherwise. So an
entity is restored just if its other fields have their defaults and their values can be read. Of any
row, columns that are not mapped are left out, and fields without a column in it keep their
defaults. -/
theorem scan_rowOf (hs : reg.schema type = .ok s)
    (htypes : ∀ c ∈ s.columns, c.type.RoundTrips) :
    (∀ e, s.Typed e →
      (s.columnNames.Nodup → s.Restores e) ∧
      ((∃ e', s.scan (s.rowOf e) = .ok e') ↔ ∀ c ∈ s.columns, s.Readable e c) ∧
      (∀ e', s.scan (s.rowOf e) = .ok e' → ∀ c ∈ s.columns, e'.cell? c.path
        = if s.column? c.column = some c then e.cell? c.path else some (Cell.default c.type)) ∧
      (s.Restores e ↔ ∀ c ∈ s.columns, s.column? c.column = some c ∨
        e.cell? c.path = some (Cell.default c.type) ∧ s.Readable e c)) ∧
    ∀ r : Sql.Record,
      s.scan ⟨r.columns.filter fun p => (s.column? p.1).isSome⟩ = s.scan r ∧
      ∀ e', s.scan r = .ok e' → ∀ c ∈ s.columns, c.column ∉ r.columns.map Prod.fst →
        e'.cell? c.path = some (Cell.default c.type) := by
  constructor
  · intro e he
    refine ⟨fun hnames => ?_, exists_scan_rowOf_iff, fun e' hscan c hc => ?_,
      restores_iff hs htypes he⟩
    · exact (restores_iff hs htypes he).2 fun c hc => .inl (column?_of_nodup hnames hc)
    · exact cell?_scan_rowOf hs htypes he hscan hc
  · intro r
    refine ⟨readColumns_filter s s.fresh r.columns, fun e' hscan c hc hmem => ?_⟩
    refine (cell?_readColumns_of_ne hs (typed_fresh hs) hscan hc fun p hp hpc => ?_).trans
      (cell?_fresh hs hc)
    exact hmem (column_of_column? hpc ▸ List.mem_map_of_mem hp)

/-- Items on shelves with an embedded record of changes, whose columns all have other names. -/
def itemRegistry : Registry :=
  ⟨[{ type := "Item", table := some "items", members :=
        [.column "code" .text (some "code") true false,
          .embed "audit" "Audit"
            [.column "created_by" .uuid (some "created_by") false false,
              .relation "changes" (.hasMany "Change") {},
              .column "created_at" (.int .u64) (some "created_ts") false false],
          .column "shelf_id" (.optional (.int .i8)) (some "shelf_id") false false] }]⟩

def shelvedItem : Entity :=
  ⟨"Item", [.cell ⟨.text, "QA76"⟩,
    .embedded [.cell ⟨.uuid, Column.Uuid.nil⟩, .many [],
      .cell ⟨.int .u64, Column.IntType.ofInt .u64 18446744073709551615⟩],
    .cell ⟨.optional (.int .i8), some (Column.IntType.ofInt .i8 (-3))⟩]⟩

theorem scan_rowOf_item : ∃ s, itemRegistry.schema "Item" = .ok s ∧
    s.columnNames = ["code", "created_by", "created_ts", "shelf_id"] ∧ s.Typed shelvedItem ∧
    s.Restores shelvedItem := by
  obtain ⟨s, hs⟩ : ∃ s, itemRegistry.schema "Item" = .ok s := ⟨_, rfl⟩
  have hnames : s.columnNames = ["code", "created_by", "created_ts", "shelf_id"] := by
    cases hs
    rfl
  have hexact : ∀ c ∈ s.columns, c.type.isExact = true := by
    cases hs
    decide +kernel
  have hcells : ∀ c ∈ s.columns, (shelvedItem.cell? c.path).map Cell.type = some c.type := by
    cases hs
    decide +kernel
  have htyped := typed_of_types hcells
  have hrow := (scan_rowOf hs fun c hc => ColumnType.roundTrips_of_isExact (hexact c hc)).1
  exact ⟨s, hs, hnames, htyped, (hrow shelvedItem htyped).1 (by rw [hnames]; decide)⟩

/-- Books with an embedded author, both with a column `id`. -/
def bookRegistry : Registry :=
  ⟨[{ type := "Book", table := some "books", members :=
        [.column "id" (.int .i64) none true false,
          .embed "author" "Author"
            [.column "id" (.int .i64) none true false, .column "name" .text none false false]] }]⟩

def bookOf (id author : Int) : Entity :=
  ⟨"Book", [.cell ⟨.int .i64, Column.IntType.ofInt .i64 id⟩,
    .embedded [.cell ⟨.int .i64, Column.IntType.ofInt .i64 author⟩, .cell ⟨.text, "x"⟩]]⟩

/-- The row of a book has the keys of the book and of its author under one name. Read again, the
book has lost its key. -/
theorem scan_rowOf_shared_name : ∃ s, bookRegistry.schema "Book" = .ok s ∧
    (∀ c ∈ s.columns, c.type.RoundTrips) ∧ s.Typed (bookOf 1 7) ∧
    s.rowOf (bookOf 1 7) = ⟨[("id", .int 1), ("id", .int 7), ("name", .text "x")]⟩ ∧
    s.scan (s.rowOf (bookOf 1 7)) = .ok (bookOf 0 7) ∧ ¬ s.Restores (bookOf 1 7) := by
  obtain ⟨s, hs⟩ : ∃ s, bookRegistry.schema "Book" = .ok s := ⟨_, rfl⟩
  have hexact : ∀ c ∈ s.columns, c.type.isExact = true := by
    cases hs
    decide +kernel
  have hcells : ∀ c ∈ s.columns, ((bookOf 1 7).cell? c.path).map Cell.type = some c.type := by
    cases hs
    decide +kernel
  have hrow : s.rowOf (bookOf 1 7) = ⟨[("id", .int 1), ("id", .int 7), ("name", .text "x")]⟩ := by
    cases hs
    decide +kernel
  have hscan : s.scan (s.rowOf (bookOf 1 7)) = .ok (bookOf 0 7) := by
    rw [hrow]
    cases hs
    rfl
  refine ⟨s, hs, fun c hc => ColumnType.roundTrips_of_isExact (hexact c hc),
    typed_of_types hcells, hrow, hscan, ?_⟩
  have hkey : ∃ c ∈ s.columns, c.path = [0] := by
    cases hs
    exact ⟨_, List.mem_cons_self, rfl⟩
  obtain ⟨c, hc, hpath⟩ := hkey
  rintro ⟨e', he', hsame⟩
  obtain rfl := Except.ok.inj (hscan.symm.trans he')
  have hcell := congrArg (Option.map Cell.toSql) (hsame c hc)
  rw [hpath] at hcell
  exact absurd hcell (by decide)

end Schema

end EntityGraph
