import EntityGraph.Text.Quoted

/-!
# Structured values on one line

How a structured value is shown for diagnosis: a name with its parts in braces, items in brackets,
entries with their keys, and a part that may be missing.
-/

namespace EntityGraph.Text

/-- A name and its named parts. -/
def shownParts (name : String) (parts : List (String × String)) : String :=
  name ++ " \x7b " ++ ", ".intercalate (parts.map fun p => p.1 ++ ": " ++ p.2) ++ " \x7d"

def shownList (items : List String) : String := "[" ++ ", ".intercalate items ++ "]"

/-- Values under quoted keys. -/
def shownEntries (entries : List (String × String)) : String :=
  "\x7b" ++ ", ".intercalate (entries.map fun p => quoted p.1 ++ ": " ++ p.2) ++ "\x7d"

def shownOption : Option String → String
  | some s => "Some(" ++ s ++ ")"
  | none => "None"

end EntityGraph.Text
