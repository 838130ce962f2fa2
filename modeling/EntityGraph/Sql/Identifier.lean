import EntityGraph.Text.Blank
import EntityGraph.Text.Pattern

/-!
# Identifiers

Names of tables and columns cannot be bound to placeholders, so each one is checked before it
becomes part of a statement. A name holds a visible character, only letters, digits, `_`, `.`, `*`,
blanks, parentheses and commas, and no forbidden keyword as a whole word.
-/

namespace EntityGraph.Sql

/-- The rule that a name breaks. -/
inductive IdentifierFault where
  | empty
  | quotes
  | terminator
  | comment
  | characters
  | keyword
  deriving DecidableEq, Repr

def IdentifierFault.reason : IdentifierFault → String
  | .empty => "identifier is empty"
  | .quotes => "quotes are not allowed"
  | .terminator => "statement terminators are not allowed"
  | .comment => "comment sequences are not allowed"
  | .characters =>
    "only letters, digits, `_`, `.`, `*`, spaces, parentheses and commas are allowed"
  | .keyword => "SQL keywords are not allowed"

/-- A rejected name. -/
structure IdentifierError where
  identifier : String
  fault : IdentifierFault
  deriving DecidableEq, Repr

def IdentifierError.message (e : IdentifierError) : String :=
  "invalid identifier `" ++ e.identifier ++ "`: " ++ e.fault.reason

/-! ## The rules -/

def isQuote (c : Char) : Bool := c = '\'' || c = '"' || c = '`'

def isPunctuation (c : Char) : Bool := c = '.' || c = '*' || c = '(' || c = ')' || c = ','

/-- Letters, digits and the underscore make up words. -/
def isWordPart (c : Char) : Bool := c.isAlphanum || c = '_'

def isAllowed (c : Char) : Bool := isWordPart c || isPunctuation c || Text.isBlank c

def hasComment (cs : List Char) : Bool :=
  Text.occursIn ['-', '-'] cs || Text.occursIn ['/', '*'] cs || Text.occursIn ['*', '/'] cs

def forbiddenKeywords : List String :=
  ["DROP", "DELETE", "INSERT", "UPDATE", "ALTER", "TRUNCATE", "CREATE", "EXEC", "EXECUTE", "UNION",
    "GRANT", "REVOKE", "ATTACH", "DETACH", "PRAGMA"]

/-- Allowed characters only. -/
def allowedPattern : Text.Pattern := .seq .start (.seq (.many isAllowed) .stop)

/-- A keyword as a whole word. The pattern is looked for in names of allowed characters only, and
of these no others than letters, digits and the underscore make up words. -/
def keywordPattern : Text.Pattern :=
  .seq (.edge isWordPart)
    (.seq (.oneOf (forbiddenKeywords.map fun k => .word k.toList)) (.edge isWordPart))

/-- The first rule that a name breaks. -/
def identifierFault? (cs : List Char) : Option IdentifierFault :=
  if (Text.trim cs).isEmpty then some .empty
  else if cs.any isQuote then some .quotes
  else if cs.any (· = ';') then some .terminator
  else if hasComment cs then some .comment
  else if !allowedPattern.found cs then some .characters
  else if keywordPattern.found cs then some .keyword
  else none

/-! ## Checking -/

def checkIdentifier (name : String) : Except IdentifierError Unit :=
  match identifierFault? name.toList with
  | some fault => .error ⟨name, fault⟩
  | none => .ok ()

/-- Checks names in order up to the first that is rejected. -/
def checkIdentifiers : List String → Except IdentifierError Unit
  | [] => .ok ()
  | name :: rest => do
    checkIdentifier name
    checkIdentifiers rest

end EntityGraph.Sql
