import EntityGraph.Load.Stage
import EntityGraph.Proofs.Column.Keys
import EntityGraph.Proofs.Load.Indexing
import EntityGraph.Proofs.Schema.Columns
import EntityGraph.Proofs.Sql.Truth

/-!
# Integer keys

An integer has one text as a key and one form as an SQL value, whatever the width and the sign of
its column, and different integers have different ones. So rows can be matched by the texts of their
keys in memory just as a database matches them by values (`mem_firstValues`, `truth_among`).
-/

namespace EntityGraph

open Column (IntType)
open Sql (Value)

/-! ### Integers as values -/

namespace Sql.Value

theorem ofInt_injective {m n : Int} (h : Value.ofInt m = Value.ofInt n) : m = n := by
  unfold ofInt at h
  split at h <;> split at h
  · next hm hn =>
    have hsame := congrArg Int64.toInt (Value.int.inj h)
    rwa [toInt_ofInt hm, toInt_ofInt hn] at hsame
  · cases h
  · cases h
  · exact Number.decimal_injective (String.ofList_injective (Value.text.inj h))

theorem isNull_ofInt (n : Int) : (Value.ofInt n).isNull = false := by
  unfold ofInt
  split <;> rfl

/-- What is stored where integers are expected: NULL, or an integer as it is bound. -/
def IsStoredInt (v : Value) : Prop := v = .null ∨ ∃ n, v = .ofInt n

end Sql.Value

/-- A stored integer makes a key, which has the text of the integer unless it is zero. -/
theorem Key.exists_ofValue {v : Sql.Value} (h : v.IsStoredInt) :
    ∃ key, Key.ofValue v = .ok key ∧ (key.isZero = false → ∃ n, v = .ofInt n) ∧
      ∀ n, v = .ofInt n → key.encode = (Key.signed n).encode := by
  obtain rfl | ⟨n, rfl⟩ := h
  · refine ⟨.null, rfl, fun h => (by cases h), fun n h => ?_⟩
    have hfalse := Value.isNull_ofInt n
    rw [← h] at hfalse
    cases hfalse
  · obtain ⟨key, hkey, hencode, -⟩ := Key.exists_ofValue_ofInt n
    refine ⟨key, hkey, fun _ => ⟨n, rfl⟩, fun m hm => ?_⟩
    rw [← Value.ofInt_injective hm]
    exact hencode

/-! ### Integer columns -/

/-- Columns of integers of any width, which may be missing. -/
inductive ColumnType.IsInteger : ColumnType → Prop
  | int (t : IntType) : IsInteger (.int t)
  | optional (t : IntType) : IsInteger (.optional (.int t))

/-- The integer that a column holds. -/
def ColumnType.integer? : (t : ColumnType) → t.Carrier → Option Int
  | .int _, n => some n.val
  | .optional (.int _), some n => some n.val
  | _, _ => none

theorem ColumnType.val_of_readInt {t : IntType} {n : Int} {x : t.Carrier}
    (h : readInt t (.ofInt n) = .ok x) : x.val = n :=
  (readInt_eq_ok_iff.1 h).of_signed.unique (Value.standsFor_ofInt (.inl rfl))

/-- An integer is read back as it was bound. -/
theorem ColumnType.IsInteger.integer?_of_fromSql {t : ColumnType} (ht : t.IsInteger) {n : Int}
    {x : t.Carrier} (h : t.fromSql (.ofInt n) = .ok x) : t.integer? x = some n := by
  cases ht with
  | int t => rw [integer?, val_of_readInt h]
  | optional t =>
    have hsome : ColumnType.fromSql (.optional (.int t)) (.ofInt n)
        = (readInt t (.ofInt n)).map some := by
      have hnull := Value.isNull_ofInt n
      unfold fromSql
      cases hv : Value.ofInt n with
      | null =>
        rw [hv] at hnull
        cases hnull
      | _ => rfl
    rw [hsome] at h
    cases hread : readInt t (.ofInt n) with
    | error why =>
      rw [hread] at h
      cases h
    | ok y =>
      rw [hread] at h
      cases h
      rw [integer?, val_of_readInt hread]

/-- The key of an integer column is none, or the text of its integer with the value itself. -/
theorem Row.joinKey?_of_isInteger {e : Entity} {c : ColumnInfo} (hc : c.type.IsInteger)
    {x : c.type.Carrier} (hcell : e.cell? c.path = some ⟨c.type, x⟩) :
    e.joinKey? c = .ok none ∨ ∃ n, c.type.integer? x = some n ∧
      e.joinKey? c = .ok (some ((Key.signed n).encode, .ofInt n)) := by
  obtain ⟨field, column, path, primaryKey, auto, type⟩ := c
  rw [joinKey?, hcell]
  cases hc with
  | int t =>
    by_cases hzero : (Cell.mk (.int t) x).isZero = true
    · exact .inl (if_pos hzero)
    · refine .inr ⟨x.val, rfl, ?_⟩
      simp only [if_neg hzero, Cell.toKey, ColumnType.toKey, IntType.encode_toKey]
      rfl
  | optional t =>
    cases x with
    | none => exact .inl rfl
    | some n =>
      refine .inr ⟨n.val, rfl, ?_⟩
      simp only [Cell.isZero, ColumnType.isZero, Option.isNone_some, Cell.toKey, ColumnType.toKey,
        IntType.encode_toKey]
      rfl

/-! ### Integers to ask for -/

/-- Keys and values of integers. -/
def AreIntegers (pairs : List (String × Value)) : Prop :=
  ∀ p ∈ pairs, ∃ n, p = ((Key.signed n).encode, .ofInt n)

/-- An integer is asked for if its text is among the keys. -/
theorem AreIntegers.mem_firstValues {pairs : List (String × Value)} (h : AreIntegers pairs)
    (n : Int) : .ofInt n ∈ firstValues pairs ↔ (Key.signed n).encode ∈ pairs.map Prod.fst := by
  constructor
  · intro hmem
    obtain ⟨p, hp, hvalue⟩ := List.mem_map.1 hmem
    obtain ⟨m, rfl⟩ := h p (firsts_subset pairs hp)
    obtain rfl := Value.ofInt_injective hvalue
    exact List.mem_map_of_mem (firsts_subset pairs hp)
  · intro hmem
    obtain ⟨p, hp, hkey⟩ := List.mem_map.1 (mem_keys_firsts.2 hmem)
    obtain ⟨m, rfl⟩ := h p (firsts_subset pairs hp)
    obtain rfl := Key.encode_signed_injective hkey
    exact List.mem_map_of_mem hp

theorem AreIntegers.ofInt_of_mem_firstValues {pairs : List (String × Value)} (h : AreIntegers pairs)
    {v : Value} (hv : v ∈ firstValues pairs) : ∃ n, v = .ofInt n := by
  obtain ⟨p, hp, rfl⟩ := List.mem_map.1 hv
  obtain ⟨n, rfl⟩ := h p (firsts_subset pairs hp)
  exact ⟨n, rfl⟩

/-- A database that compares integers as what they are, in whichever form they are bound. -/
def Sql.Dialect.IsExact (d : Sql.Dialect) : Prop :=
  ∀ m n : Int, d.holds .eq (.ofInt m) (.ofInt n) = decide (m = n)

theorem Sql.Dialect.isExact_simple : Sql.Dialect.simple.IsExact := by
  intro m n
  have hsame : Sql.Dialect.simple.holds .eq (.ofInt m) (.ofInt n)
      = decide (Value.ofInt m = Value.ofInt n) := by
    unfold simple
    dsimp only
    split
    · next a b hm hn => simp [hm, hn, Comparison.onInts]
    all_goals simp_all
  rw [hsame]
  exact decide_eq_decide.2 ⟨Value.ofInt_injective, congrArg _⟩

/-- A row holds an integer that is asked for. -/
theorem Plan.truth_among {d : Sql.Dialect} (hd : d.IsExact) {pairs : List (String × Value)}
    (hpairs : AreIntegers pairs) {row : Sql.Columns} {column : String}
    (hrow : (row column).IsStoredInt) :
    (Plan.among column (firstValues pairs)).truth d row = .holds ↔
      ∃ n, row column = .ofInt n ∧ (Key.signed n).encode ∈ pairs.map Prod.fst := by
  have hamong : (Plan.among column (firstValues pairs)).truth d row = .holds ↔
      ∃ v ∈ firstValues pairs, d.compare .eq (row column) v = .holds := by
    show Sql.Truth.all [d.among (row column) (firstValues pairs)] = .holds ↔ _
    rw [Sql.Truth.all_eq_holds, Sql.Dialect.among]
    simp [Sql.Truth.any_eq_holds]
  rw [hamong]
  obtain hnull | ⟨n, hn⟩ := hrow
  · constructor
    · rintro ⟨v, -, hv⟩
      simp [Sql.Dialect.compare, hnull, Value.isNull] at hv
    · rintro ⟨n, hn, -⟩
      have hfalse := Value.isNull_ofInt n
      rw [← hn, hnull] at hfalse
      cases hfalse
  · have hcompare : ∀ m, d.compare .eq (.ofInt n) (.ofInt m) = .holds ↔ n = m := by
      intro m
      rw [Sql.Dialect.compare, Value.isNull_ofInt, Value.isNull_ofInt, hd n m]
      by_cases h : n = m <;> simp [h, Sql.Truth.ofBool]
    rw [hn]
    constructor
    · rintro ⟨v, hv, hholds⟩
      obtain ⟨m, rfl⟩ := hpairs.ofInt_of_mem_firstValues hv
      obtain rfl := (hcompare m).1 hholds
      exact ⟨n, rfl, (hpairs.mem_firstValues n).1 hv⟩
    · rintro ⟨m, hm, hkey⟩
      obtain rfl := Value.ofInt_injective hm
      exact ⟨_, (hpairs.mem_firstValues n).2 hkey, (hcompare n).2 rfl⟩

end EntityGraph
