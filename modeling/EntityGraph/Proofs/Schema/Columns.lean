import EntityGraph.Entity
import Mathlib.Data.List.Nodup

/-!
# Where columns are

Every column of a type has a place of its own in the entities of the type, inside embedded entities
too, and relations have other places (`head_path_ne_position`). An entity that is read from a row
has a cell of the declared type at each of these places (`typed_scan`), and the cell of a column
holds what was read for the column last (`cell?_scan`).
-/

namespace EntityGraph

/-- An integer of a type, zero in place of one that is out of range. -/
def Column.IntType.ofInt (t : Column.IntType) (n : Int) : t.Carrier := (t.ofInt? n).getD t.zero

/-! ### Members -/

/-- Induction over members, with the members of an embedded entity at hand. -/
theorem Member.induct {motive : Member → Prop}
    (column : ∀ field type name primaryKey auto,
      motive (.column field type name primaryKey auto))
    (embed : ∀ field type members, (∀ m ∈ members, motive m) →
      motive (.embed field type members))
    (relation : ∀ field shape options, motive (.relation field shape options)) (m : Member) :
    motive m := by
  refine Member.rec (motive_1 := motive) (motive_2 := fun ms => ∀ m ∈ ms, motive m)
    column (fun field type members h => embed field type members h) relation ?_ ?_ m
  · simp
  · intro m ms hm hms
    exact List.forall_mem_cons.2 ⟨hm, hms⟩

theorem mem_memberColumns {start : Nat} {ms : List Member} {c : ColumnDecl} :
    c ∈ memberColumns start ms ↔
      ∃ (i : Nat) (m : Member), ms[i]? = some m ∧ c ∈ m.columns (start + i) := by
  induction ms generalizing start with
  | nil => simp [memberColumns]
  | cons m ms ih =>
    rw [memberColumns, List.mem_append, ih]
    constructor
    · rintro (hc | ⟨i, m', hm', hc⟩)
      · exact ⟨0, m, rfl, hc⟩
      · exact ⟨i + 1, m', hm', by rwa [Nat.add_assoc, Nat.add_comm 1] at hc⟩
    · rintro ⟨_ | i, m', hm', hc⟩
      · cases hm'
        exact .inl hc
      · exact .inr ⟨i, m', hm', by rwa [Nat.add_assoc, Nat.add_comm 1]⟩

/-- The relation that a member declares. -/
def Member.relations (position : Nat) : Member → List RelationDecl
  | .relation field shape options => [⟨field, shape, options, position⟩]
  | .column _ _ _ _ _ | .embed _ _ _ => []

theorem memberRelations_cons (start : Nat) (m : Member) (ms : List Member) :
    memberRelations start (m :: ms) = m.relations start ++ memberRelations (start + 1) ms := by
  cases m <;> rfl

theorem Member.mem_relations {m : Member} {position : Nat} {r : RelationDecl} :
    r ∈ m.relations position ↔
      m = .relation r.field r.shape r.options ∧ r.position = position := by
  obtain ⟨field, shape, options, place⟩ := r
  cases m with
  | relation => simp [Member.relations, eq_comm, and_assoc]
  | column | embed => simp [Member.relations]

theorem mem_memberRelations {start : Nat} {ms : List Member} {r : RelationDecl} :
    r ∈ memberRelations start ms ↔
      ∃ i, ms[i]? = some (.relation r.field r.shape r.options) ∧ r.position = start + i := by
  induction ms generalizing start with
  | nil => simp [memberRelations]
  | cons m ms ih =>
    rw [memberRelations_cons, List.mem_append, ih, Member.mem_relations]
    constructor
    · rintro (⟨rfl, hposition⟩ | ⟨i, hi, hposition⟩)
      · exact ⟨0, rfl, hposition⟩
      · exact ⟨i + 1, hi, by omega⟩
    · rintro ⟨_ | i, hi, hposition⟩
      · exact .inl ⟨Option.some.inj hi, hposition⟩
      · exact .inr ⟨i, hi, by omega⟩

/-- The cell in an item, reached by the rest of a path. -/
def Item.cellIn? (rest : List Nat) : Item → Option Cell
  | .cell c => if rest.isEmpty then some c else none
  | .embedded inner => cellAt? rest inner
  | _ => none

theorem cellAt?_cons (i : Nat) (rest : List Nat) (items : List Item) :
    cellAt? (i :: rest) items = items[i]?.bind (Item.cellIn? rest) := by
  rw [cellAt?]
  rcases items[i]? with _ | ⟨c | inner | one | many | owner⟩ <;> rfl

theorem getElem?_memberDefaults (ms : List Member) (i : Nat) :
    (memberDefaults ms)[i]? = ms[i]?.map Member.default := by
  induction ms generalizing i with
  | nil => simp [memberDefaults]
  | cons m ms ih =>
    cases i with
    | zero => simp [memberDefaults]
    | succ i => simpa [memberDefaults] using ih i

/-- The columns of a member lie in the item of the member. -/
theorem Member.cellIn?_default (m : Member) {position : Nat} {c : ColumnDecl}
    (h : c ∈ m.columns position) :
    ∃ rest, c.path = position :: rest ∧ m.default.cellIn? rest = some (Cell.default c.type) := by
  induction m using Member.induct generalizing position c with
  | column field type name primaryKey auto =>
    obtain rfl := List.mem_singleton.1 (by simpa [Member.columns] using h)
    exact ⟨[], rfl, by simp [Member.default, Item.cellIn?]⟩
  | embed field type members ih =>
    rw [Member.columns, List.mem_map] at h
    obtain ⟨inner, hinner, rfl⟩ := h
    obtain ⟨i, m, hm, hcolumn⟩ := mem_memberColumns.1 hinner
    obtain ⟨rest, hpath, hcell⟩ := ih m (List.mem_of_getElem? hm) hcolumn
    refine ⟨inner.path, rfl, ?_⟩
    rw [Nat.zero_add] at hpath
    rw [Member.default, Item.cellIn?, hpath, cellAt?_cons, getElem?_memberDefaults, hm]
    exact hcell
  | relation field shape options => simp [Member.columns] at h

/-- The columns of a member stand in the order of their places. -/
theorem Member.pairwise_path_lt (m : Member) (position : Nat) :
    (m.columns position).Pairwise fun c c' => c.path < c'.path := by
  have hlist : ∀ (ms : List Member) (start : Nat),
      (∀ m ∈ ms, ∀ position, (m.columns position).Pairwise fun c c' => c.path < c'.path) →
      (memberColumns start ms).Pairwise fun c c' => c.path < c'.path := by
    intro ms
    induction ms with
    | nil => exact fun _ _ => .nil
    | cons m ms ih =>
      intro start hms
      rw [memberColumns, List.pairwise_append]
      refine ⟨hms m (by simp) start, ih _ fun m hm => hms m (by simp [hm]), ?_⟩
      intro c hc c' hc'
      -- the columns of later members start with a later index
      obtain ⟨rest, hfirst, -⟩ := m.cellIn?_default hc
      obtain ⟨i, m', -, hlater⟩ := mem_memberColumns.1 hc'
      obtain ⟨rest', hsecond, -⟩ := m'.cellIn?_default hlater
      rw [hfirst, hsecond]
      exact List.Lex.rel (by omega)
  induction m using Member.induct generalizing position with
  | column field type name primaryKey auto => exact List.pairwise_singleton _ _
  | embed field type members ih =>
    rw [Member.columns, List.pairwise_map]
    exact (hlist members 0 ih).imp fun h => List.Lex.cons h
  | relation field shape options => exact .nil

theorem Registration.pairwise_path_lt (r : Registration) :
    r.columns.Pairwise fun c c' => c.path < c'.path := by
  have hembed := (Member.embed "" "" r.members).pairwise_path_lt 0
  rw [Member.columns, List.pairwise_map] at hembed
  exact hembed.imp fun h => List.cons_lt_cons_self.1 h

/-- A column never lies where a relation does. -/
theorem Registration.head_path_ne_position (r : Registration) {c : ColumnDecl}
    (hc : c ∈ r.columns) {d : RelationDecl} (hd : d ∈ r.relations) :
    ∃ i rest, c.path = i :: rest ∧ i ≠ d.position := by
  obtain ⟨i, m, hm, hcolumn⟩ := mem_memberColumns.1 hc
  obtain ⟨j, hj, hposition⟩ := mem_memberRelations.1 hd
  obtain ⟨rest, hpath, -⟩ := m.cellIn?_default hcolumn
  refine ⟨_, rest, hpath, ?_⟩
  rintro hsame
  obtain rfl : i = j := by omega
  rw [hj] at hm
  cases hm
  simp [Member.columns] at hcolumn

/-! ### Columns of a type -/

/-- The name of a column in its table. -/
def ColumnDecl.columnName (d : ColumnDecl) : String := d.name.getD (Text.snakeCase d.field)

/-- The columns of a schema are those of its registration, at their places. -/
theorem Schema.columns_build (r : Registration) :
    (Schema.build r).columns = r.columns.map fun d =>
      ⟨d.field, d.columnName, d.path, d.columnName = (Schema.build r).primaryKey, d.auto,
        d.type⟩ := by
  have hname : columnWith (fun s => (pure (Text.snakeCase s) : Id String))
      = fun d => pure d.columnName := by
    funext d
    rw [columnWith, ColumnDecl.columnName]
    cases d.name <;> rfl
  have hnames : Id.run (r.columns.mapM (columnWith fun s => pure (Text.snakeCase s)))
      = r.columns.map ColumnDecl.columnName := by
    rw [hname, List.mapM_pure]
    rfl
  calc (Schema.build r).columns
    _ = (r.columns.zip (Id.run (r.columns.mapM
          (columnWith fun s => pure (Text.snakeCase s))))).map fun p =>
        ⟨p.1.field, p.2, p.1.path, p.2 = (Schema.build r).primaryKey, p.1.auto, p.1.type⟩ := rfl
    _ = _ := by rw [hnames, ← List.map_prod_left_eq_zip, List.map_map]; rfl

theorem Schema.mem_of_column? {s : Schema} {name : String} {c : ColumnInfo}
    (h : s.column? name = some c) : c ∈ s.columns :=
  List.mem_reverse.1 (List.mem_of_find?_eq_some h)

theorem Schema.column_of_column? {s : Schema} {name : String} {c : ColumnInfo}
    (h : s.column? name = some c) : c.column = name := by
  simpa using List.find?_some h

theorem Schema.column?_column {s : Schema} {name : String} {c : ColumnInfo}
    (h : s.column? name = some c) : s.column? c.column = some c := by
  rwa [column_of_column? h]

variable {reg : Registry} {type : String} {s : Schema}

theorem Registry.eq_build (hs : reg.schema type = .ok s) : s = Schema.build (reg.get type) := by
  unfold Registry.schema at hs
  split at hs
  · cases hs
  · cases hs
    rfl

theorem Registry.exists_decl (hs : reg.schema type = .ok s) {c : ColumnInfo}
    (hc : c ∈ s.columns) : ∃ d ∈ (reg.get type).columns, d.path = c.path ∧ d.type = c.type := by
  obtain rfl := Registry.eq_build hs
  rw [Schema.columns_build, List.mem_map] at hc
  obtain ⟨d, hd, rfl⟩ := hc
  exact ⟨d, hd, rfl, rfl⟩

/-- A column of a type never lies where a relation of the type does. -/
theorem Registry.head_path_ne_position (hs : reg.schema type = .ok s) {c : ColumnInfo}
    (hc : c ∈ s.columns) :
    ∃ i rest, c.path = i :: rest ∧ ∀ info ∈ s.relations, info.position ≠ i := by
  obtain ⟨d, hd, hpath, -⟩ := Registry.exists_decl hs hc
  obtain ⟨i, m, -, hcolumn⟩ := mem_memberColumns.1 hd
  obtain ⟨rest, hhead, -⟩ := m.cellIn?_default hcolumn
  refine ⟨_, rest, hpath.symm.trans hhead, fun info hinfo hsame => ?_⟩
  obtain rfl := Registry.eq_build hs
  obtain ⟨r, hr, rfl⟩ := List.mem_map.1 (show info ∈ (reg.get type).relations.map _ from hinfo)
  obtain ⟨j, rest', hhead', hne⟩ := (reg.get type).head_path_ne_position hd hr
  rw [hhead, List.cons.injEq] at hhead'
  exact hne (hhead'.1.symm.trans hsame.symm)

/-- Different columns of a type have different places. -/
theorem Registry.eq_of_path_eq (hs : reg.schema type = .ok s) {c c' : ColumnInfo}
    (hc : c ∈ s.columns) (hc' : c' ∈ s.columns) (hpath : c.path = c'.path) : c = c' := by
  obtain rfl := Registry.eq_build hs
  have hnodup : ((Schema.build (reg.get type)).columns.map ColumnInfo.path).Nodup := by
    rw [Schema.columns_build, List.map_map, List.Nodup, List.pairwise_map]
    refine (reg.get type).pairwise_path_lt.imp ?_
    rintro d d' hlt (hsame : d.path = d'.path)
    exact List.lt_irrefl _ (hsame ▸ hlt)
  exact List.inj_on_of_nodup_map hnodup hc hc' hpath

/-! ### Cells -/

/-- A cell that is replaced is found anew, and all others are as they were. -/
theorem cellAt?_setCellAt {path : List Nat} {items : List Item}
    (h : (cellAt? path items).isSome = true) (c : Cell) (other : List Nat) :
    cellAt? other (setCellAt c path items)
      = if other = path then some c else cellAt? other items := by
  induction path generalizing items other with
  | nil => simp [cellAt?] at h
  | cons i rest ih =>
    cases other with
    | nil => simp [cellAt?]
    | cons j rest' =>
      rw [cellAt?_cons] at h
      rw [cellAt?_cons, cellAt?_cons, setCellAt]
      obtain ⟨item, hitem⟩ : ∃ item, items[i]? = some item :=
        Option.isSome_iff_exists.1 (Option.isSome_of_isSome_bind h)
      obtain ⟨hlt, hget⟩ := List.getElem?_eq_some_iff.1 hitem
      rw [hitem] at h ⊢
      by_cases hj : j = i
      · subst hj
        cases item with
        | cell c' =>
          obtain rfl : rest = [] := by simpa [Item.cellIn?] using h
          cases rest' <;> simp [Item.cellIn?, hlt, hget]
        | embedded inner => simpa [Item.cellIn?, hlt, hget] using ih h rest'
        | one | many | owner => simp [Item.cellIn?] at h
      · cases item with
        | cell | embedded => simp [hj, List.getElem?_set_ne (Ne.symm hj)]
        | one | many | owner => simp [hj]

namespace Schema

/-- The entity has a cell of the declared type for every column of the type. -/
def Typed (s : Schema) (e : Entity) : Prop :=
  ∀ c ∈ s.columns, ∃ v, e.cell? c.path = some ⟨c.type, v⟩

theorem typed_of_types {e : Entity}
    (h : ∀ c ∈ s.columns, (e.cell? c.path).map Cell.type = some c.type) : s.Typed e := by
  intro c hc
  obtain ⟨⟨type, value⟩, hcell, htype⟩ := Option.map_eq_some_iff.1 (h c hc)
  dsimp only at htype
  subst htype
  exact ⟨value, hcell⟩

/-- A fresh entity has the default in every column. -/
theorem cell?_fresh (hs : reg.schema type = .ok s) {c : ColumnInfo} (hc : c ∈ s.columns) :
    s.fresh.cell? c.path = some (Cell.default c.type) := by
  obtain ⟨d, hd, hpath, htype⟩ := Registry.exists_decl hs hc
  obtain ⟨i, m, hm, hcolumn⟩ := mem_memberColumns.1 hd
  obtain ⟨rest, hhead, hcell⟩ := m.cellIn?_default hcolumn
  obtain rfl := Registry.eq_build hs
  rw [← htype, ← hpath, hhead, Row.cell?, fresh, cellAt?_cons, getElem?_memberDefaults,
    Nat.zero_add]
  have hmembers : (Schema.build (reg.get type)).members = (reg.get type).members := rfl
  rw [hmembers, hm]
  exact hcell

theorem typed_fresh (hs : reg.schema type = .ok s) : s.Typed s.fresh :=
  fun c hc => ⟨c.type.default, cell?_fresh hs hc⟩

/-- A value is read into the column of its name, and the cells of other columns stay as they are,
also of those that have the same name. -/
theorem typed_readColumn (hs : reg.schema type = .ok s) {e e' : Entity} (he : s.Typed e)
    {name : String} {v : Sql.Value} (h : s.readColumn e name v = .ok e') :
    s.Typed e' ∧
      (∀ c, s.column? name = some c →
        ∃ x, c.type.fromSql v = .ok x ∧ e'.cell? c.path = some ⟨c.type, x⟩) ∧
      ∀ c ∈ s.columns, s.column? name ≠ some c → e'.cell? c.path = e.cell? c.path := by
  unfold readColumn at h
  cases hc : s.column? name with
  | none =>
    rw [hc] at h
    cases h
    exact ⟨he, by simp, fun _ _ _ => rfl⟩
  | some c =>
    have hmem := mem_of_column? hc
    obtain ⟨old, hold⟩ := he c hmem
    simp only [hc, Cell.read] at h
    cases hread : c.type.fromSql v with
    | error why => simp [hread, Except.map] at h
    | ok x =>
      simp only [hread, Except.map, Except.ok.injEq] at h
      subst h
      have hcell : ∀ c' : ColumnInfo, (e.setCell c.path ⟨c.type, x⟩).cell? c'.path
          = if c'.path = c.path then some ⟨c.type, x⟩ else e.cell? c'.path := fun c' =>
        cellAt?_setCellAt (by rw [← Row.cell?, hold]; rfl) _ _
      refine ⟨fun c' hc' => ?_, fun c' hc' => ?_, fun c' hc' hne => ?_⟩
      · rw [hcell]
        by_cases hpath : c'.path = c.path
        · obtain rfl := Registry.eq_of_path_eq hs hc' hmem hpath
          exact ⟨x, if_pos rfl⟩
        · rw [if_neg hpath]
          exact he c' hc'
      · cases hc'
        exact ⟨x, hread, by rw [hcell, if_pos rfl]⟩
      · rw [hcell, if_neg]
        intro hpath
        exact hne (congrArg some (Registry.eq_of_path_eq hs hc' hmem hpath).symm)

theorem readColumns_cons_eq_ok {p : String × Sql.Value} {columns : List (String × Sql.Value)}
    {e e' : Entity} : s.readColumns e (p :: columns) = .ok e' ↔
      ∃ next, s.readColumn e p.1 p.2 = .ok next ∧ s.readColumns next columns = .ok e' := by
  rw [readColumns]
  cases s.readColumn e p.1 p.2 <;> simp [bind, Except.bind]

/-- What is kept when one value is read is kept when a row is read. -/
theorem readColumns_induct {motive : Entity → Prop}
    (step : ∀ {e e' name v}, s.readColumn e name v = .ok e' → motive e → motive e')
    {columns : List (String × Sql.Value)} {e e' : Entity} (h : s.readColumns e columns = .ok e')
    (he : motive e) : motive e' := by
  induction columns generalizing e with
  | nil =>
    cases h
    exact he
  | cons p columns ih =>
    obtain ⟨next, hnext, h⟩ := readColumns_cons_eq_ok.1 h
    exact ih h (step hnext he)

/-- A value that is read is set in one cell, or left out. -/
theorem eq_or_setCell_of_readColumn {e e' : Entity} {name : String} {v : Sql.Value}
    (h : s.readColumn e name v = .ok e') :
    e' = e ∨ ∃ (c : ColumnInfo) (cell : Cell), e' = e.setCell c.path cell := by
  unfold readColumn at h
  split at h
  · exact .inl (Except.ok.inj h).symm
  · next c _ =>
    split at h
    · next cell _ => exact .inr ⟨c, cell, (Except.ok.inj h).symm⟩
    · cases h

theorem typed_readColumns (hs : reg.schema type = .ok s) {columns : List (String × Sql.Value)}
    {e e' : Entity} (he : s.Typed e) (h : s.readColumns e columns = .ok e') : s.Typed e' :=
  readColumns_induct (fun hread he => (typed_readColumn hs he hread).1) h he

/-- **An entity that is read from a row has a cell of the declared type for every column.** -/
theorem typed_scan (hs : reg.schema type = .ok s) {r : Sql.Record} {e : Entity}
    (h : s.scan r = .ok e) : s.Typed e :=
  typed_readColumns hs (typed_fresh hs) h

/-- A column whose only value in a row is `v` holds what is read from `v`. -/
theorem cell?_readColumns (hs : reg.schema type = .ok s) {columns : List (String × Sql.Value)}
    {e e' : Entity} (he : s.Typed e) (h : s.readColumns e columns = .ok e') {name : String}
    {c : ColumnInfo} (hc : s.column? name = some c) {v : Sql.Value}
    (honly : ∀ p ∈ columns, p.1 = name → p.2 = v)
    (hread : name ∈ columns.map Prod.fst ∨
      ∃ x, c.type.fromSql v = .ok x ∧ e.cell? c.path = some ⟨c.type, x⟩) :
    ∃ x, c.type.fromSql v = .ok x ∧ e'.cell? c.path = some ⟨c.type, x⟩ := by
  induction columns generalizing e with
  | nil =>
    cases h
    exact hread.resolve_left (by simp)
  | cons p columns ih =>
    obtain ⟨name', v'⟩ := p
    obtain ⟨next, hnext, h⟩ := readColumns_cons_eq_ok.1 h
    obtain ⟨htyped, hsame, hother⟩ := typed_readColumn hs he hnext
    refine ih htyped h (fun p hp => honly p (List.mem_cons_of_mem _ hp)) ?_
    by_cases hname : name' = name
    · subst hname
      obtain rfl := honly (name', v') (by simp) rfl
      exact .inr (hsame c hc)
    · rcases hread with hmem | ⟨x, hx, hcell⟩
      · exact .inl (by simpa [Ne.symm hname] using hmem)
      · refine .inr ⟨x, hx, (hother c (mem_of_column? hc) fun hc' => hname ?_).trans hcell⟩
        exact (column_of_column? hc').symm.trans (column_of_column? hc)

/-- **A column holds what is read from its value in the row.** -/
theorem cell?_scan (hs : reg.schema type = .ok s) {r : Sql.Record} {e : Entity}
    (h : s.scan r = .ok e) {name : String} {c : ColumnInfo} (hc : s.column? name = some c)
    {v : Sql.Value} (honly : ∀ p ∈ r.columns, p.1 = name → p.2 = v)
    (hmem : name ∈ r.columns.map Prod.fst) :
    ∃ x, c.type.fromSql v = .ok x ∧ e.cell? c.path = some ⟨c.type, x⟩ :=
  cell?_readColumns hs (typed_fresh hs) h hc honly (.inl hmem)

end Schema

end EntityGraph
