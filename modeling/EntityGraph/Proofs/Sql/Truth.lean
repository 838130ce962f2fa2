import EntityGraph.Sql.Scope

/-!
# The truth of a filter on a row

Three-valued logic: a comparison with NULL is unknown, AND is the minimum, OR the maximum and NOT
the reversal of the order fails, unknown, holds. `Filter.truth` and `Scope.truth` say what a filter
tree and a scope mean, without any text; a row is accepted if the truth is `holds`.

How a database compares two values that are not NULL is left open (`Dialect`), up to the comparison
of integers.
-/

namespace EntityGraph.Sql

inductive Truth where
  | fails
  | unknown
  | holds
  deriving DecidableEq, Repr

namespace Truth

def ofBool : Bool → Truth
  | true => holds
  | false => fails

def and : Truth → Truth → Truth
  | fails, _ => fails
  | _, fails => fails
  | holds, t => t
  | unknown, _ => unknown

def or : Truth → Truth → Truth
  | holds, _ => holds
  | _, holds => holds
  | fails, t => t
  | unknown, _ => unknown

def not : Truth → Truth
  | fails => holds
  | unknown => unknown
  | holds => fails

/-- The conjunction of a list. -/
def all : List Truth → Truth := List.foldr and holds

/-- The disjunction of a list. -/
def any : List Truth → Truth := List.foldr or fails

/-! ### Laws -/

@[simp] theorem and_holds (t : Truth) : and t holds = t := by cases t <;> rfl

@[simp] theorem or_fails (t : Truth) : or t fails = t := by cases t <;> rfl

theorem and_assoc (a b c : Truth) : and (and a b) c = and a (and b c) := by
  cases a <;> cases b <;> cases c <;> rfl

theorem and_eq_holds {a b : Truth} : and a b = holds ↔ a = holds ∧ b = holds := by
  cases a <;> cases b <;> decide

theorem and_eq_fails {a b : Truth} : and a b = fails ↔ a = fails ∨ b = fails := by
  cases a <;> cases b <;> decide

theorem or_eq_holds {a b : Truth} : or a b = holds ↔ a = holds ∨ b = holds := by
  cases a <;> cases b <;> decide

@[simp] theorem all_nil : all [] = holds := rfl

@[simp] theorem all_cons (t : Truth) (ts : List Truth) : all (t :: ts) = and t (all ts) := rfl

@[simp] theorem any_nil : any [] = fails := rfl

@[simp] theorem any_cons (t : Truth) (ts : List Truth) : any (t :: ts) = or t (any ts) := rfl

theorem all_eq_holds {ts : List Truth} : all ts = holds ↔ ∀ t ∈ ts, t = holds := by
  induction ts with
  | nil => simp
  | cons t ts ih => simp [and_eq_holds, ih]

theorem any_eq_holds {ts : List Truth} : any ts = holds ↔ holds ∈ ts := by
  induction ts with
  | nil => simp
  | cons t ts ih =>
    rw [any_cons, or_eq_holds, ih, List.mem_cons, eq_comm]

theorem all_eq_fails {ts : List Truth} : all ts = fails ↔ fails ∈ ts := by
  induction ts with
  | nil => simp
  | cons t ts ih =>
    rw [all_cons, and_eq_fails, ih, List.mem_cons, eq_comm]

end Truth

/-! ### Comparing values -/

/-- The comparison of two integers. -/
def Comparison.onInts : Comparison → Int64 → Int64 → Bool
  | eq, a, b => a = b
  | ne, a, b => a ≠ b
  | gt, a, b => b < a
  | gte, a, b => b ≤ a
  | lt, a, b => a < b
  | lte, a, b => a ≤ b

/-- How a database compares values that are not NULL. -/
structure Dialect where
  holds : Comparison → Value → Value → Bool
  /-- Whether a value matches a pattern. -/
  isLike : Value → Value → Bool
  holds_int : ∀ op a b, holds op (.int a) (.int b) = op.onInts a b

namespace Dialect

/-- Integers are compared as numbers, and other values only for being the same. -/
def simple : Dialect where
  holds
    | op, .int a, .int b => op.onInts a b
    | .eq, v, w => v = w
    | .ne, v, w => v ≠ w
    | _, _, _ => false
  isLike v pattern := v = pattern
  holds_int _ _ _ := rfl

def compare (d : Dialect) (op : Comparison) (v w : Value) : Truth :=
  if v.isNull || w.isNull then .unknown else .ofBool (d.holds op v w)

def like (d : Dialect) (v pattern : Value) : Truth :=
  if v.isNull || pattern.isNull then .unknown else .ofBool (d.isLike v pattern)

/-- Whether a value is one of a list. -/
def among (d : Dialect) (v : Value) (ws : List Value) : Truth :=
  .any (ws.map (d.compare .eq v))

def between (d : Dialect) (v low high : Value) : Truth :=
  (d.compare .gte v low).and (d.compare .lte v high)

theorem compare_int (d : Dialect) (op : Comparison) (a b : Int64) :
    d.compare op (.int a) (.int b) = .ofBool (op.onInts a b) := by
  simp [compare, Value.isNull, d.holds_int]

end Dialect

/-! ### Filters and scopes -/

/-- A row by its columns. -/
abbrev Columns : Type := String → Value

def Filter.truth (d : Dialect) (row : Columns) : Filter → Truth
  | compare field op value => d.compare op (row field) value
  | isNull field => .ofBool (row field).isNull
  | isNotNull field => .not (.ofBool (row field).isNull)
  | inList field values => d.among (row field) values
  | notInList field values => .not (d.among (row field) values)
  | like field pattern => d.like (row field) (.text pattern)
  | between field low high => d.between (row field) low high
  | and left right => .and (left.truth d row) (right.truth d row)
  | or left right => .or (left.truth d row) (right.truth d row)
  | not inner => .not (inner.truth d row)
  | nothing => .fails

namespace Scope

/-- What a row must satisfy: every filter, and the negation of every exclude. -/
def conditionFilters (s : Scope) : List Filter := s.filters ++ s.excludes.map .not

/-- The conjunction of all filters and all negated excludes. -/
def truth (d : Dialect) (row : Columns) (s : Scope) : Truth :=
  .all (s.conditionFilters.map (·.truth d row))

theorem conditions_eq (s : Scope) : s.conditions = s.conditionFilters.map Filter.text := by
  simp [conditions, conditionFilters, Filter.text]

theorem params_eq (s : Scope) : s.params = s.conditionFilters.flatMap Filter.params := by
  simp [params, conditionFilters, List.flatMap_append, List.flatMap_map, Filter.params]

end Scope

end EntityGraph.Sql
