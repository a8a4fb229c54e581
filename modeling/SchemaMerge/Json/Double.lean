/-!
Binary64 numbers as exact integers. A finite double is a whole number of units of `2 ^ -1074`, so
every comparison and every rounding below is arithmetic on naturals.
-/

namespace SchemaMerge

/-- A finite double: the significand, shifted left, counts units of `2 ^ -1074`. -/
structure Double.Finite where
  negative : Bool
  significand : Nat
  shift : Nat
  significand_lt : significand < Nat.pow 2 53
  shift_le : shift ≤ 2045
  normal : Nat.pow 2 52 ≤ significand ∨ shift = 0
  deriving DecidableEq, Repr

inductive Double where
  | finite (value : Double.Finite)
  | infinity (negative : Bool)
  | nan
  deriving DecidableEq, Repr

namespace Double

def unitsPerOne : Nat := Nat.pow 2 1074

def Finite.magnitude (x : Finite) : Nat := x.significand * Nat.pow 2 x.shift

def Finite.units (x : Finite) : Int :=
  if x.negative then -(x.magnitude : Int) else x.magnitude

def Finite.isIntegral (x : Finite) : Bool := x.magnitude % unitsPerOne = 0

def Finite.truncate (x : Finite) : Int :=
  if x.negative then -((x.magnitude / unitsPerOne : Nat) : Int) else (x.magnitude / unitsPerOne : Nat)

/-- The quotient rounded to the nearest natural number; a half goes to the even one. -/
def roundQuotient (numerator denominator : Nat) : Nat :=
  let quotient := numerator / denominator
  let twice := 2 * (numerator % denominator)
  if twice < denominator ∨ (twice = denominator ∧ quotient % 2 = 0) then quotient else quotient + 1

def ofParts (negative : Bool) (significand shift : Nat) : Double :=
  if fits : significand < Nat.pow 2 53 ∧ shift ≤ 2045 ∧ (Nat.pow 2 52 ≤ significand ∨ shift = 0) then
    .finite ⟨negative, significand, shift, fits.1, fits.2.1, fits.2.2⟩
  else .infinity negative

/-- The double nearest to a quotient, a half going to the even significand. What lies past the
largest finite double becomes an infinity. -/
def nearest (negative : Bool) (numerator denominator : Nat) : Double :=
  let units := numerator * unitsPerOne
  let shift := (units / denominator).log2 - 52
  let significand := roundQuotient units (denominator * Nat.pow 2 shift)
  if significand = Nat.pow 2 53 then ofParts negative (Nat.pow 2 52) (shift + 1)
  else ofParts negative significand shift

def isIntegral : Double → Bool
  | .finite x => x.isIntegral
  | _ => false

def isFinite : Double → Bool
  | .finite _ => true
  | _ => false

end Double

end SchemaMerge
