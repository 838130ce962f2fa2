import EntityGraph.Proofs.Sql.Selection
import EntityGraph.World

/-!
# Answering selects

What a database whose tables stand still answers to a select. The rows of the source that satisfy
the condition are put in order and turned into records; equal records are merged if they are to be
distinct; then some are left out at the front, and no more than the limit are kept. An aggregate,
such as the number of rows, makes one record of all of them.

What single clauses mean is left open (`Engine`): which tables there are, which conditions hold of a
row, how rows are ordered and what an expression makes of them.
-/

namespace EntityGraph.Sql

variable {ρ : Type}

/-! ### Paging -/

/-- The first elements; a negative number asks for all. -/
def atMost {α : Type} (n : Int) (l : List α) : List α := if n < 0 then l else l.take n.toNat

/-- The elements up to a limit, if there is one. -/
def limited {α : Type} : Option Int → List α → List α
  | none, l => l
  | some n, l => atMost n l

/-- The elements of a page. A negative offset leaves out none. -/
def pageOf {α : Type} : Option Page → List α → List α
  | none, l => l
  | some (n, offset), l => atMost n (l.drop (offset.getD 0).toNat)

section
variable {α β : Type}

theorem limited_map (f : α → β) (limit : Option Int) (l : List α) :
    limited limit (l.map f) = (limited limit l).map f := by
  cases limit with
  | none => rfl
  | some n =>
    rw [limited, limited, atMost, atMost]
    split
    · rfl
    · exact List.map_take.symm

theorem limited_sublist (limit : Option Int) (l : List α) : (limited limit l).Sublist l := by
  cases limit with
  | none => exact List.Sublist.refl l
  | some n =>
    rw [limited, atMost]
    split
    · exact List.Sublist.refl l
    · exact List.take_sublist _ l

theorem head?_limited {limit : Option Int} (h : limit ≠ some 0) (l : List α) :
    (limited limit l).head? = l.head? := by
  cases limit with
  | none => rfl
  | some n =>
    rw [limited, atMost]
    split
    · rfl
    · next hneg =>
      have hpos : n.toNat ≠ 0 := by
        have hzero : n ≠ 0 := fun heq => h (congrArg some heq)
        omega
      simp [List.head?_take, hpos]

/-- A scope pages as it says: first its offset, then its limit. -/
theorem Scope.pageOf_page (s : Scope) (l : List α) :
    pageOf s.page l = limited s.limit (l.drop (s.offset.getD 0).toNat) := by
  rw [Scope.page]
  cases s.limit <;> cases s.offset <;> rfl

end

/-! ### Equal records -/

/-- The records without those that are the same as an earlier one. -/
def merge (same : Record → Record → Bool) : List Record → List Record
  | [] => []
  | r :: rs => r :: (merge same rs).filter fun other => !same r other

theorem merge_sublist (same : Record → Record → Bool) (rs : List Record) :
    (merge same rs).Sublist rs := by
  induction rs with
  | nil => exact .slnil
  | cons r rs ih => exact (List.filter_sublist.trans ih).cons_cons r

theorem merge_eq_nil {same : Record → Record → Bool} {rs : List Record} :
    merge same rs = [] ↔ rs = [] := by
  cases rs <;> simp [merge]

/-! ### Engines -/

/-- What a select list makes of rows. -/
inductive Output (ρ : Type) where
  /-- A record of each. -/
  | each (project : ρ → Record)
  /-- One record of all. -/
  | whole (aggregate : List ρ → Record)

def Output.records : Output ρ → List ρ → List Record
  | each project, rows => rows.map project
  | whole aggregate, rows => [aggregate rows]

/-- The meaning of clauses for rows of some kind. -/
structure Engine (ρ : Type) where
  rows : (source : List Lexeme) → List ρ
  holds : (condition : List Lexeme) → (args : List Value) → ρ → Bool
  sort : (keys : List Lexeme) → List ρ → List ρ
  /-- An aggregate among the sort keys makes one record of all rows as well. -/
  output : (list : List Lexeme) → (keys : Option (List Lexeme)) → Output ρ
  /-- Whether DISTINCT merges two records. -/
  same : Record → Record → Bool
  perm_sort : ∀ keys l, (sort keys l).Perm l
  output_count : output (lexemes "COUNT(*)") none =
    .whole fun rows => ⟨[("COUNT(*)", .int (Int64.ofNat rows.length))]⟩
  length_rows_lt : ∀ source, (rows source).length < 2 ^ 63

namespace Engine

/-- The rows that satisfy the condition. -/
def matching (E : Engine ρ) (c : Selection) (args : List Value) : List ρ :=
  (E.rows c.source).filter fun row => c.condition.all (E.holds · args row)

def ordered (E : Engine ρ) (c : Selection) (args : List Value) : List ρ :=
  match c.order with
  | none => E.matching c args
  | some keys => E.sort keys (E.matching c args)

/-- The records before any is left out. -/
def records (E : Engine ρ) (c : Selection) (args : List Value) : List Record :=
  let records := (E.output c.list c.order).records (E.ordered c args)
  if c.distinct then merge E.same records else records

def answer (E : Engine ρ) (c : Selection) (args : List Value) : List Record :=
  pageOf c.page (E.records c args)

/-- The database answers every statement that can be read, always alike. -/
def Runs {σ : Type} (E : Engine ρ) (db : Database σ) : Prop :=
  ∀ st c, Selection.read st.text = some c →
    ∀ state, (db.answer st state).1 = .ok (E.answer c st.args)

/-- The database that knows nothing else. -/
def database (E : Engine ρ) : Database Unit where
  answer st _ :=
    match Selection.read st.text with
    | some c => (.ok (E.answer c st.args), ())
    | none => (.error (.database .other "syntax error"), ())

theorem runs_database (E : Engine ρ) : E.Runs E.database := by
  intro st c hread state
  simp only [database, hread]

variable {E : Engine ρ} {c : Selection} {args : List Value}

theorem mem_rows_of_mem_ordered {row : ρ} (h : row ∈ E.ordered c args) :
    row ∈ E.rows c.source := by
  have hmatching : row ∈ E.matching c args := by
    rw [ordered] at h
    split at h
    · exact h
    · exact (E.perm_sort _ _).mem_iff.1 h
  exact List.mem_of_mem_filter hmatching

theorem length_ordered : (E.ordered c args).length = (E.matching c args).length := by
  rw [ordered]
  split
  · rfl
  · exact (E.perm_sort _ _).length_eq

theorem length_matching_lt : (E.matching c args).length < 2 ^ 63 :=
  (List.length_filter_le _ _).trans_lt (E.length_rows_lt c.source)

/-- A count is answered with the number of rows that satisfy the condition. -/
theorem answer_countSelection (E : Engine ρ) (s : Scope) (table : String) (args : List Value) :
    E.answer (s.countSelection table) args =
      [⟨[("COUNT(*)",
        .int (Int64.ofNat (E.matching (s.countSelection table) args).length))]⟩] := by
  have houtput : E.output (s.countSelection table).list (s.countSelection table).order = _ :=
    E.output_count
  rw [answer, records, houtput]
  rfl

/-- Every record is that of a row, unless they are aggregated. -/
theorem exists_of_mem_records {project : ρ → Record} (h : E.output c.list c.order = .each project)
    {r : Record} (hr : r ∈ E.records c args) : ∃ row ∈ E.rows c.source, project row = r := by
  have hmap : r ∈ (E.ordered c args).map project := by
    rw [records, h] at hr
    split at hr
    · exact (merge_sublist _ _).subset hr
    · exact hr
  obtain ⟨row, hrow, heq⟩ := List.mem_map.1 hmap
  exact ⟨row, mem_rows_of_mem_ordered hrow, heq⟩

/-! ### One table -/

/-- The value of a column as a number to sort by. -/
def sortKey (column : Lexeme) (row : Record) : Int64 :=
  ((row.get? (String.ofList column)).bind Value.asInt).getD 0

/-- The columns of a row that a select list names, apart by commas. -/
def projected (list : List Lexeme) (row : Record) : Record :=
  ⟨(list.filter (· ≠ [','])).map fun column =>
    (String.ofList column, (row.get? (String.ofList column)).getD .null)⟩

/-- An engine with a single table. It sorts by at most one column of integers and knows no aggregate
but the number of rows. -/
def ofTable (name : String) (table : List Record) (h : table.length < 2 ^ 63) : Engine Record where
  rows source := if source = lexemes name then table else []
  holds condition args row :=
    match (bindValues (condition.flatMap Token.ofRun) args).bind condition? with
    | some c => c.truth .simple (fun column => (row.get? column).getD .null) = .holds
    | none => false
  sort keys rows :=
    match keys with
    | [column, direction] =>
      if spells "DESC" direction then rows.insertionSort (sortKey column · ≥ sortKey column ·)
      else rows.insertionSort (sortKey column · ≤ sortKey column ·)
    | _ => rows
  output list _ :=
    if list = lexemes "COUNT(*)" then
      .whole fun rows => ⟨[("COUNT(*)", .int (Int64.ofNat rows.length))]⟩
    else .each (projected list)
  same r r' := r = r'
  perm_sort keys rows := by
    split
    · split <;> exact List.perm_insertionSort _ _
    · exact List.Perm.refl rows
  output_count := if_pos rfl
  length_rows_lt source := by
    split
    · exact h
    · decide

theorem rows_ofTable (name : String) (table : List Record) (h : table.length < 2 ^ 63) :
    (ofTable name table h).rows (lexemes name) = table := if_pos rfl

theorem output_ofTable {name : String} {table : List Record} (h : table.length < 2 ^ 63)
    {list : List Lexeme} (hlist : list ≠ lexemes "COUNT(*)") (keys : Option (List Lexeme)) :
    (ofTable name table h).output list keys = .each (projected list) := if_neg hlist

end Engine

end EntityGraph.Sql
