import EntityGraph.Sql.Value

/-!
# Key indexes

Positions grouped by the encoded key found there. The first value of every group is kept, in the
order of first insertion, for the list of values that a statement asks for.
-/

namespace EntityGraph

structure KeyIndex where
  groups : List (String × List Nat) := []
  values : List Sql.Value := []
  deriving DecidableEq, Repr

namespace KeyIndex

/-- Adds a position to its group; none if there is no such group. -/
def join? (key : String) (position : Nat) :
    List (String × List Nat) → Option (List (String × List Nat))
  | [] => none
  | (k, positions) :: rest =>
    if k = key then some ((k, positions ++ [position]) :: rest)
    else (join? key position rest).map ((k, positions) :: ·)

/-- Adds a position under a key. -/
def insert (i : KeyIndex) (key : String) (value : Sql.Value) (position : Nat) : KeyIndex :=
  match join? key position i.groups with
  | some groups => { i with groups := groups }
  | none => ⟨i.groups ++ [(key, [position])], i.values ++ [value]⟩

/-- The positions under a key. -/
def get? (i : KeyIndex) (key : String) : Option (List Nat) := i.groups.lookup key

def isEmpty (i : KeyIndex) : Bool := i.values.isEmpty

/-- The number of positions inserted. -/
def size (i : KeyIndex) : Nat := (i.groups.map (·.2.length)).foldr (· + ·) 0

end KeyIndex

end EntityGraph
