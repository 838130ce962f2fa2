/-!
# Binary floating point

Doubles and singles by their bits. A finite number is a whole significand times a power of two;
rounding takes such a product to the nearest number of a format, a tie to the even one.
-/

namespace EntityGraph.Number

/-- A double-precision number by its bits. -/
structure Double where
  bits : UInt64
  deriving DecidableEq, Repr

/-- A single-precision number by its bits. -/
structure Single where
  bits : UInt32
  deriving DecidableEq, Repr

/-- A binary format: the bits of the fraction and of the exponent field. -/
structure BinaryFormat where
  fractionBits : Nat
  exponentBits : Nat
  deriving DecidableEq, Repr

namespace BinaryFormat

def double : BinaryFormat := ⟨52, 11⟩

def single : BinaryFormat := ⟨23, 8⟩

/-- The exponent of the last place of the smallest numbers. -/
def minExponent (f : BinaryFormat) : Int := 2 - Int.pow 2 (f.exponentBits - 1) - f.fractionBits

/-- The bits of infinity; all bits above are no number. -/
def infinity (f : BinaryFormat) : Nat := (Nat.pow 2 f.exponentBits - 1) * Nat.pow 2 f.fractionBits

/-- Significand and exponent of finite bits without sign. -/
def parts (f : BinaryFormat) (magnitude : Nat) : Nat × Int :=
  let field := magnitude / Nat.pow 2 f.fractionBits
  let fraction := magnitude % Nat.pow 2 f.fractionBits
  if field = 0 then (fraction, f.minExponent)
  else (Nat.pow 2 f.fractionBits + fraction, f.minExponent + (field - 1))

/-- The quotient by `2 ^ shift`, to nearest, a tie to the even neighbour. -/
def roundShift (n shift : Nat) : Nat :=
  let q := n / Nat.pow 2 shift
  let r := n % Nat.pow 2 shift
  if 2 * r < Nat.pow 2 shift then q
  else if 2 * r = Nat.pow 2 shift then q + q % 2
  else q + 1

/-- The bits without sign of the number nearest to `m * 2 ^ q`. -/
def round (f : BinaryFormat) (m : Nat) (q : Int) : Nat :=
  if m = 0 then 0
  else
    let last := max (q + (Nat.log2 m - f.fractionBits)) f.minExponent
    let significand :=
      if last ≤ q then m * Nat.pow 2 (q - last).toNat else roundShift m (last - q).toNat
    min ((last - f.minExponent).toNat * Nat.pow 2 f.fractionBits + significand) f.infinity

end BinaryFormat

/-! ## Doubles -/

namespace Double

def isNegative (x : Double) : Bool := Nat.pow 2 63 ≤ x.bits.toNat

/-- The bits without the sign. -/
def magnitude (x : Double) : Nat := x.bits.toNat % Nat.pow 2 63

def isNaN (x : Double) : Bool := BinaryFormat.double.infinity < x.magnitude

def isInfinite (x : Double) : Bool := x.magnitude = BinaryFormat.double.infinity

/-- Both zeros. -/
def isZero (x : Double) : Bool := x.magnitude = 0

def ofParts (negative : Bool) (magnitude : Nat) : Double :=
  ⟨UInt64.ofNat (magnitude + if negative then Nat.pow 2 63 else 0)⟩

/-- The double nearest to an integer. -/
def ofInt (n : Int) : Double :=
  ofParts (n < 0) (BinaryFormat.double.round n.natAbs 0)

def nan : Double := ⟨0x7FF8000000000000⟩

end Double

/-! ## Singles -/

namespace Single

def isNegative (x : Single) : Bool := Nat.pow 2 31 ≤ x.bits.toNat

def magnitude (x : Single) : Nat := x.bits.toNat % Nat.pow 2 31

def isNaN (x : Single) : Bool := BinaryFormat.single.infinity < x.magnitude

def isInfinite (x : Single) : Bool := x.magnitude = BinaryFormat.single.infinity

def isZero (x : Single) : Bool := x.magnitude = 0

def ofParts (negative : Bool) (magnitude : Nat) : Single :=
  ⟨UInt32.ofNat (magnitude + if negative then Nat.pow 2 31 else 0)⟩

def nan : Single := ⟨0x7FC00000⟩

/-- The same number as a double; every single is one. -/
def widen (x : Single) : Double :=
  if x.isNaN then Double.nan
  else if x.isInfinite then Double.ofParts x.isNegative BinaryFormat.double.infinity
  else
    let p := BinaryFormat.single.parts x.magnitude
    Double.ofParts x.isNegative (BinaryFormat.double.round p.1 p.2)

end Single

/-- The single nearest to a double. -/
def Double.narrow (x : Double) : Single :=
  if x.isNaN then Single.nan
  else if x.isInfinite then Single.ofParts x.isNegative BinaryFormat.single.infinity
  else
    let p := BinaryFormat.double.parts x.magnitude
    Single.ofParts x.isNegative (BinaryFormat.single.round p.1 p.2)

end EntityGraph.Number
