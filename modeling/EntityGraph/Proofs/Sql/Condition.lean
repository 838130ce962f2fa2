import EntityGraph.Proofs.Sql.Truth
import Mathlib.Data.List.SplitBy

/-!
# Reading conditions

How a database reads the text of a WHERE clause. The text is cut into tokens, the values are put in
the place of the placeholders from left to right, and the tokens are read by the usual grammar:

* NOT binds tighter than AND, and AND tighter than OR;
* `x BETWEEN y AND z` is one predicate, its AND no connective;
* brackets group.

`readWhere` is the whole reader and `Condition.truth` the meaning of what it reads. Nothing here
knows how filters are written.
-/

namespace EntityGraph.Sql

/-! ### Tokens -/

inductive Keyword where
  | and
  | or
  | not
  | is
  | null
  | in
  | like
  | between
  | where
  deriving DecidableEq, Repr

def keywords : List (String × Keyword) :=
  [("AND", .and), ("OR", .or), ("NOT", .not), ("IS", .is), ("NULL", .null), ("IN", .in),
    ("LIKE", .like), ("BETWEEN", .between), ("WHERE", .where)]

def operators : List (String × Comparison) :=
  [("=", .eq), ("!=", .ne), (">", .gt), (">=", .gte), ("<", .lt), ("<=", .lte)]

inductive Token where
  | keyword (k : Keyword)
  | name (s : String)
  | value (v : Value)
  | placeholder
  | comparison (op : Comparison)
  | openParen
  | closeParen
  | comma
  /-- What no condition can hold. -/
  | other (chars : List Char)
  deriving DecidableEq, Repr

/-- Letters, digits, underscores and points make up words. -/
def isNamePart (c : Char) : Bool := isWordPart c || c = '.'

def isOperatorPart (c : Char) : Bool := c = '=' || c = '!' || c = '<' || c = '>'

/-- Whether two neighbours belong to one token. -/
def joins (c d : Char) : Bool :=
  isNamePart c && isNamePart d || isOperatorPart c && isOperatorPart d

/-- The keyword that a word spells in any letter case. -/
def keyword? (word : List Char) : Option Keyword :=
  keywords.lookup (String.ofList (word.map Char.toUpper))

/-- A letter or an underscore starts a name. -/
def isNameStart (c : Char) : Bool := c.isAlpha || c = '_'

/-- A word is a keyword, a name, or an integer that fits 64 bits. -/
def Token.ofWord (word : List Char) : Token :=
  match keyword? word with
  | some k => .keyword k
  | none =>
    if word.head?.any isNameStart then .name (String.ofList word)
    else
      match Number.readDigits? word with
      | some n => if n < Nat.pow 2 63 then .value (.int (Int64.ofNat n)) else .other word
      | none => .other word

/-- Whether a name stands for itself in a condition: it is a word, and no keyword. -/
def isPlainName (name : String) : Bool :=
  name.toList.all isNamePart && name.toList.head?.any isNameStart
    && (keyword? name.toList).isNone

def Token.ofOperator (chars : List Char) : Token :=
  match operators.lookup (String.ofList chars) with
  | some op => .comparison op
  | none => .other chars

/-- The token of characters that belong together; none for blanks. -/
def Token.ofRun : List Char → List Token
  | [] => []
  | c :: cs =>
    if isNamePart c then [.ofWord (c :: cs)]
    else if isOperatorPart c then [.ofOperator (c :: cs)]
    else if Text.isBlank c then []
    else if c = '(' then [.openParen]
    else if c = ')' then [.closeParen]
    else if c = ',' then [.comma]
    else if c = '?' then [.placeholder]
    else [.other (c :: cs)]

def tokens (cs : List Char) : List Token := (cs.splitBy joins).flatMap Token.ofRun

/-- Puts the values in the place of the placeholders; there must be as many of one as of the
other. -/
def bindValues : List Token → List Value → Option (List Token)
  | [], [] => some []
  | [], _ :: _ => none
  | .placeholder :: _, [] => none
  | .placeholder :: ts, v :: vs => (bindValues ts vs).map (.value v :: ·)
  | t :: ts, vs => (bindValues ts vs).map (t :: ·)

/-! ### Conditions -/

inductive Operand where
  | column (name : String)
  | value (v : Value)
  deriving DecidableEq, Repr

inductive Condition where
  | compare (left : Operand) (op : Comparison) (right : Operand)
  | isNull (x : Operand)
  | among (x : Operand) (ys : List Operand)
  | like (x pattern : Operand)
  | between (x low high : Operand)
  | and (left right : Condition)
  | or (left right : Condition)
  | not (inner : Condition)
  deriving DecidableEq, Repr

def Operand.eval (row : Columns) : Operand → Value
  | column name => row name
  | value v => v

def Condition.truth (d : Dialect) (row : Columns) : Condition → Truth
  | compare x op y => d.compare op (x.eval row) (y.eval row)
  | isNull x => .ofBool (x.eval row).isNull
  | among x ys => d.among (x.eval row) (ys.map (Operand.eval row))
  | like x pattern => d.like (x.eval row) (pattern.eval row)
  | between x low high => d.between (x.eval row) (low.eval row) (high.eval row)
  | and left right => .and (left.truth d row) (right.truth d row)
  | or left right => .or (left.truth d row) (right.truth d row)
  | not inner => .not (inner.truth d row)

/-! ### Grammar -/

def operand? : Token → Option Operand
  | .name s => some (.column s)
  | .value v => some (.value v)
  | _ => none

/-- The operands up to the closing bracket, and what follows it. -/
def operands? : List Token → Option (List Operand × List Token)
  | y :: .closeParen :: rest => do
    let y ← operand? y
    pure ([y], rest)
  | y :: .comma :: rest => do
    let y ← operand? y
    let (ys, rest) ← operands? rest
    pure (y :: ys, rest)
  | _ => none

/-- A predicate without connectives, and what follows it. -/
def predicate? : List Token → Option (Condition × List Token)
  | x :: .comparison op :: y :: rest => do
    let x ← operand? x
    let y ← operand? y
    pure (.compare x op y, rest)
  | x :: .keyword .is :: .keyword .null :: rest => do
    let x ← operand? x
    pure (.isNull x, rest)
  | x :: .keyword .is :: .keyword .not :: .keyword .null :: rest => do
    let x ← operand? x
    pure (.not (.isNull x), rest)
  | x :: .keyword .in :: .openParen :: rest => do
    let x ← operand? x
    let (ys, rest) ← operands? rest
    pure (.among x ys, rest)
  | x :: .keyword .not :: .keyword .in :: .openParen :: rest => do
    let x ← operand? x
    let (ys, rest) ← operands? rest
    pure (.not (.among x ys), rest)
  | x :: .keyword .like :: y :: rest => do
    let x ← operand? x
    let y ← operand? y
    pure (.like x y, rest)
  | x :: .keyword .between :: y :: .keyword .and :: z :: rest => do
    let x ← operand? x
    let y ← operand? y
    let z ← operand? z
    pure (.between x y z, rest)
  | _ => none

mutual

/-- Conjunctions joined by OR. The number bounds the depth of the descent. -/
def disjunction? : Nat → List Token → Option (Condition × List Token)
  | 0, _ => none
  | n + 1, ts => do
    match ← conjunction? n ts with
    | (left, .keyword .or :: rest) =>
      let (right, rest) ← disjunction? n rest
      pure (.or left right, rest)
    | done => pure done

/-- Negations joined by AND. -/
def conjunction? : Nat → List Token → Option (Condition × List Token)
  | 0, _ => none
  | n + 1, ts => do
    match ← negation? n ts with
    | (left, .keyword .and :: rest) =>
      let (right, rest) ← conjunction? n rest
      pure (.and left right, rest)
    | done => pure done

/-- A predicate or a bracketed condition, with any number of NOTs in front. -/
def negation? : Nat → List Token → Option (Condition × List Token)
  | 0, _ => none
  | n + 1, .keyword .not :: ts => do
    let (inner, rest) ← negation? n ts
    pure (.not inner, rest)
  | n + 1, .openParen :: ts => do
    match ← disjunction? n ts with
    | (inner, .closeParen :: rest) => pure (inner, rest)
    | _ => none
  | _ + 1, ts => predicate? ts

end

/-- The condition that the tokens spell from first to last. No text descends deeper than three times
the number of its tokens. -/
def condition? (ts : List Token) : Option Condition :=
  match disjunction? (3 * ts.length) ts with
  | some (c, []) => some c
  | _ => none

/-- Reads a WHERE clause and the values of its placeholders. The outcome is none if it cannot be
read; a text without tokens is a clause without condition. -/
def readWhere (text : String) (values : List Value) : Option (Option Condition) := do
  match ← bindValues (tokens text.toList) values with
  | [] => pure none
  | .keyword .where :: ts => some <$> condition? ts
  | _ => none

/-- Whether a row is accepted by what was read. -/
def clauseTruth (d : Dialect) (row : Columns) : Option Condition → Truth
  | some c => c.truth d row
  | none => .holds

example : readWhere " WHERE a = ? OR NOT b IS NULL AND c BETWEEN ? AND ?" [.int 1, .int 2, .int 3]
    = some (some (.or (.compare (.column "a") .eq (.value (.int 1)))
        (.and (.not (.isNull (.column "b")))
          (.between (.column "c") (.value (.int 2)) (.value (.int 3)))))) := by
  decide +kernel

end EntityGraph.Sql
