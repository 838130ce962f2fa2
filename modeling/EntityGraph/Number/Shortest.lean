import EntityGraph.Number.Binary
import EntityGraph.Number.Decimal

/-!
# Shortest decimals

The shortest decimal that reads back as a given double. For one digit, two digits, … the two
neighbours of the number on that decimal grid are tried; the first grid with a neighbour that rounds
to the number wins, of two such neighbours the nearer, and the upper one of two equally near.
Two notations are built on it: plain positional text and diagnostic text.
-/

namespace EntityGraph.Number

/-- `digits * 10 ^ exponent`. -/
structure ShortDecimal where
  digits : Nat
  exponent : Int
  deriving DecidableEq, Repr

/-- A number `at / den` with the bounds `low / den` and `high / den` of what rounds to it. -/
structure Neighbourhood where
  low : Nat
  value : Nat
  high : Nat
  den : Nat
  /-- Whether the bounds themselves round to the number. -/
  closed : Bool
  deriving Repr

namespace Neighbourhood

/-- The reals that round to a finite double other than zero. -/
def ofMagnitude (magnitude : Nat) : Neighbourhood :=
  let p := BinaryFormat.double.parts magnitude
  -- Below a power of two the numbers lie twice as dense.
  let below := if p.1 = Nat.pow 2 52 && Nat.pow 2 53 ≤ magnitude then 1 else 2
  let q := p.2 - 2
  let scale := Nat.pow 2 q.toNat
  { low := (4 * p.1 - below) * scale
    value := 4 * p.1 * scale
    high := (4 * p.1 + 2) * scale
    den := Nat.pow 2 (-q).toNat
    closed := p.1 % 2 = 0 }

def contains (n : Neighbourhood) (num den : Nat) : Bool :=
  if n.closed then n.low * den ≤ num * n.den && num * n.den ≤ n.high * den
  else n.low * den < num * n.den && num * n.den < n.high * den

/-- The point of the grid `10 ^ exponent` to write for the number, if a neighbour on it will do. -/
def onGrid (n : Neighbourhood) (exponent : Int) : Option Nat :=
  let up := Nat.pow 10 (-exponent).toNat
  let unit := n.den * Nat.pow 10 exponent.toNat
  let num := n.value * up
  let lower := num / unit
  let fits (k : Nat) := n.contains (k * Nat.pow 10 exponent.toNat) up
  match fits lower, fits (lower + 1) with
  | true, true => some (if 2 * num < (2 * lower + 1) * unit then lower else lower + 1)
  | true, false => some lower
  | false, true => some (lower + 1)
  | false, false => none

/-- How many digits stand before the point; for a number below one, minus the zeros after it. -/
def pointPlace (n : Neighbourhood) : Int :=
  if n.den ≤ n.value then (digits (n.value / n.den)).length
  else 1 - ((digits (n.den / n.value)).length : Int)

/-- Tries ever finer grids. -/
def search (n : Neighbourhood) (place : Int) (tried : Nat) : Nat → ShortDecimal
  | 0 => ⟨n.value / n.den, 0⟩
  | fuel + 1 =>
    let exponent := place - (tried + 1)
    match n.onGrid exponent with
    | some k => ⟨k, exponent⟩
    | none => search n place (tried + 1) fuel

end Neighbourhood

/-- The shortest decimal of a finite double other than zero, without its sign; seventeen digits
always suffice. -/
def Double.shortest (x : Double) : ShortDecimal :=
  let n := Neighbourhood.ofMagnitude x.magnitude
  n.search n.pointPlace 0 17

/-! ## Notations -/

namespace ShortDecimal

/-- The digits without zeros at their end, and the place of the point from their start. -/
def significant (d : ShortDecimal) : List Char × Int :=
  let ds := Number.digits d.digits
  ((ds.reverse.dropWhile (· = '0')).reverse, ds.length + d.exponent)

/-- Positional text; `point` forces one decimal. -/
def positional (point : Bool) (d : ShortDecimal) : List Char :=
  let (ds, place) := d.significant
  if place ≤ 0 then '0' :: '.' :: (List.replicate (-place).toNat '0' ++ ds)
  else if ds.length ≤ place.toNat then
    ds ++ List.replicate (place.toNat - ds.length) '0' ++ (if point then ['.', '0'] else [])
  else ds.take place.toNat ++ '.' :: ds.drop place.toNat

/-- Text with one digit before the point and a power of ten. -/
def scientific (d : ShortDecimal) : List Char :=
  let (ds, place) := d.significant
  let rest := ds.drop 1
  ds.take 1 ++ (if rest.isEmpty then [] else '.' :: rest) ++ 'e' :: decimal (place - 1)

end ShortDecimal

namespace Double

/-- The sign, and a text for what is no finite number other than zero. -/
def special (zero : List Char) (x : Double) : Option (List Char) :=
  if x.isNaN then some ['N', 'a', 'N']
  else if x.isInfinite then some ['i', 'n', 'f']
  else if x.isZero then some zero
  else none

def signed (x : Double) (text : List Char) : List Char :=
  if x.isNegative && !x.isNaN then '-' :: text else text

/-- Positional text of the shortest decimal: no exponent, and no point in a whole number. -/
def text (x : Double) : String :=
  String.ofList <| x.signed <|
    match x.special ['0'] with
    | some t => t
    | none => x.shortest.positional false

/-- Diagnostic text: at least one decimal, and an exponent outside `1e-4 ≤ x < 1e16`. -/
def diagnostic (x : Double) : String :=
  String.ofList <| x.signed <|
    match x.special ['0', '.', '0'] with
    | some t => t
    | none =>
      let d := x.shortest
      let place := d.significant.2
      if -4 < place && place ≤ 16 then d.positional true else d.scientific

end Double

end EntityGraph.Number
