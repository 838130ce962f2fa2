/-!
# Patterns

The part of the language of regular expressions in which the checks of names are written. A pattern
is looked for in a text; only whether it is found matters, so all places are kept to which it leads
from a given one.
-/

namespace EntityGraph.Text

/-- A place in a text: the characters before it, the nearest first, and those after it. -/
structure Place where
  before : List Char
  after : List Char
  deriving DecidableEq, Repr

inductive Pattern where
  /-- The start of the text. -/
  | start
  /-- The end of the text. -/
  | stop
  /-- Where a word made up of such characters starts or ends. -/
  | edge (isPart : Char → Bool)
  | empty
  /-- One character of a class. -/
  | one (accepts : Char → Bool)
  /-- One or more characters of a class. -/
  | many (accepts : Char → Bool)
  | seq (first second : Pattern)
  | either (first second : Pattern)

namespace Pattern

/-- Whether a word starts or ends between two neighbours. -/
def isEdge (isPart : Char → Bool) (before after : Option Char) : Bool :=
  before.any isPart != after.any isPart

def oneEnds (accepts : Char → Bool) (before : List Char) : List Char → List Place
  | [] => []
  | c :: after => if accepts c then [⟨c :: before, after⟩] else []

def manyEnds (accepts : Char → Bool) (before : List Char) : List Char → List Place
  | [] => []
  | c :: after =>
    if accepts c then ⟨c :: before, after⟩ :: manyEnds accepts (c :: before) after else []

/-- The places to which a pattern leads from a place. -/
def ends : Pattern → Place → List Place
  | start, place => if place.before.isEmpty then [place] else []
  | stop, place => if place.after.isEmpty then [place] else []
  | edge isPart, place =>
    if isEdge isPart place.before.head? place.after.head? then [place] else []
  | empty, place => [place]
  | one accepts, place => oneEnds accepts place.before place.after
  | many accepts, place => manyEnds accepts place.before place.after
  | seq first second, place => (first.ends place).flatMap second.ends
  | either first second, place => first.ends place ++ second.ends place

/-- Whether a pattern is found at a place or further on. -/
def foundFrom (p : Pattern) (before : List Char) : List Char → Bool
  | [] => !(p.ends ⟨before, []⟩).isEmpty
  | c :: after => !(p.ends ⟨before, c :: after⟩).isEmpty || p.foundFrom (c :: before) after

/-- Whether a pattern is found in a text. -/
def found (p : Pattern) (cs : List Char) : Bool := p.foundFrom [] cs

/-! ## Words -/

/-- Whether a character is a letter of ASCII in any case. The Kelvin sign and the long s fold to
letters of ASCII too. -/
def isLetter (letter c : Char) : Bool :=
  c.toUpper = letter.toUpper || (letter.toUpper = 'K' && c = '\u212A')
    || (letter.toUpper = 'S' && c = '\u017F')

/-- A word of ASCII in any case. -/
def word : List Char → Pattern
  | [] => empty
  | c :: cs => seq (one (isLetter c)) (word cs)

/-- One of several patterns. -/
def oneOf : List Pattern → Pattern
  | [] => one fun _ => false
  | p :: ps => either p (oneOf ps)

end Pattern

end EntityGraph.Text
