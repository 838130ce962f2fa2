import EntityGraph.Text.Letter

/-!
# Word casing

Names are cut into words and joined again in snake_case or UpperCamelCase. Words break at every
character that is no letter or digit, between a lower-case and an upper-case letter, and before the
last capital of a run of capitals that a lower-case letter follows. Characters without case break
nothing and carry on the case of what precedes them.
-/

namespace EntityGraph.Text

/-- The case of the last cased character of the current word. -/
inductive WordCase where
  | uncased
  | lower
  | upper
  deriving DecidableEq, Repr

/-- The case after one more character. -/
def WordCase.next (w : WordCase) (c : Char) : WordCase :=
  if isLowerCase c then .lower else if isUpperCase c then .upper else w

/-! ## Cutting into words -/

/-- Runs of letters and digits. -/
def wordRunsOf : List Char → List (List Char)
  | [] => [[]]
  | c :: cs =>
    match wordRunsOf cs with
    | [] => if isWordChar c then [[c]] else [[], []]
    | piece :: pieces => if isWordChar c then (c :: piece) :: pieces else [] :: piece :: pieces

/-- Cuts one run at its case boundaries; `word` holds the current word backwards. -/
def breakCases (word : List Char) (w : WordCase) : List Char → List (List Char)
  | [] => []
  | [c] => [(c :: word).reverse]
  | c :: next :: rest =>
    if w.next c = .lower && isUpperCase next then
      (c :: word).reverse :: breakCases [] .uncased (next :: rest)
    else if w = .upper && isUpperCase c && isLowerCase next then
      word.reverse :: breakCases [c] .uncased (next :: rest)
    else breakCases (c :: word) (w.next c) (next :: rest)

/-- The words of a name, in order. -/
def words (cs : List Char) : List (List Char) :=
  (wordRunsOf cs).flatMap (breakCases [] .uncased)

/-! ## Joining words -/

/-- A word in lower case; a capital sigma at its end takes its final form. -/
def lowerWord : List Char → List Char
  | [] => []
  | [c] => if c = 'Σ' then ['ς'] else lowerCase c
  | c :: cs => lowerCase c ++ lowerWord cs

/-- A word with a capital at its head and the rest in lower case. -/
def capitalWord : List Char → List Char
  | [] => []
  | c :: cs => upperCase c ++ lowerWord cs

/-- The words in lower case, joined by underscores. -/
def snakeCase (name : String) : String :=
  String.ofList (['_'].intercalate ((words name.toList).map lowerWord))

/-- The capitalised words, joined without a separator. -/
def upperCamelCase (name : String) : String :=
  String.ofList ((words name.toList).flatMap capitalWord)

end EntityGraph.Text
