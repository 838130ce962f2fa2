import EntityGraph.Session.Basic

/-!
# Constant rows

A statement that selects nothing but the values bound to it, row by row. A database answers it with
the same rows, each value as it comes back from storage.
-/

namespace EntityGraph

open Sql (Value Record)

/-- The name of the column at a position. -/
def constantColumn (position : Nat) : String := "c" ++ toString position

def constantRow (row : List Value) : String :=
  "SELECT " ++ ", ".intercalate (row.mapIdx fun i _ => "? AS " ++ constantColumn i)

def constantText (rows : List (List Value)) : String :=
  " UNION ALL ".intercalate (rows.map constantRow)

def constantRecords (rows : List (List Value)) : List Record :=
  rows.map fun row => ⟨row.mapIdx fun i v => (constantColumn i, v.stored)⟩

/-- Selects constant rows under the current context of a session. -/
def Session.selectConstants {reg : Registry} (s : Session reg) (rows : List (List Value)) :
    Report :=
  (s.step (.rows (constantText rows) rows.flatten) [{ outcome := .ok (constantRecords rows) }]).1

end EntityGraph
