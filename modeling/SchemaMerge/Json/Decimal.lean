import SchemaMerge.Json.Double

namespace SchemaMerge

/-- The value `digits * 10 ^ exponent`. -/
structure Decimal where
  digits : Nat
  exponent : Int
  deriving DecidableEq, Repr

namespace Decimal

def numerator (d : Decimal) : Nat := d.digits * Nat.pow 10 d.exponent.toNat

def denominator (d : Decimal) : Nat := Nat.pow 10 (-d.exponent).toNat

/-- The nearest double. Exponents far outside the range of doubles are settled without forming the
power of ten: the value is at least one unit of the last place, and less than ten to the power of
the number of its binary digits. -/
def toDouble (negative : Bool) (d : Decimal) : Double :=
  if d.digits = 0 then Double.ofParts negative 0 0
  else if 310 < d.exponent then .infinity negative
  else if d.exponent + d.digits.log2 + 1 < -330 then Double.ofParts negative 0 0
  else Double.nearest negative d.numerator d.denominator

def strip : Nat → Decimal → Decimal
  | 0, d => d
  | fuel + 1, d =>
    if d.digits ≠ 0 ∧ d.digits % 10 = 0 then strip fuel ⟨d.digits / 10, d.exponent + 1⟩ else d

def stripped (d : Decimal) : Decimal := d.strip d.digits.log2

end Decimal

namespace Double.Finite

def leadingExponent (x : Finite) : Int :=
  let whole := x.magnitude / unitsPerOne
  if whole = 0 then
    match (List.range 324).find? (fun k => unitsPerOne ≤ x.magnitude * Nat.pow 10 (k + 1)) with
    | some k => -((k : Int) + 1)
    | none => 0
  else ((Nat.toDigits 10 whole).length : Int) - 1

def readsBack (x : Finite) (d : Decimal) : Bool := d.toDouble x.negative = .finite x

/-- The neighbour of the value on the grid `10 ^ exponent` that reads back to it: of two such
neighbours the nearer, and of two equally near ones the even one. -/
def onGrid? (x : Finite) (exponent : Int) : Option Decimal :=
  let top := x.magnitude * Nat.pow 10 (-exponent).toNat
  let bottom := unitsPerOne * Nat.pow 10 exponent.toNat
  let below : Decimal := ⟨top / bottom, exponent⟩
  let above : Decimal := ⟨top / bottom + 1, exponent⟩
  let twice := 2 * (top % bottom)
  let belowFirst := twice < bottom ∨ (twice = bottom ∧ below.digits % 2 = 0)
  match x.readsBack below, x.readsBack above with
  | true, true => some (if belowFirst then below else above)
  | true, false => some below
  | false, true => some above
  | false, false => none

def exactly (x : Finite) : Decimal := ⟨x.magnitude * Nat.pow 5 1074, -1074⟩

/-- The fewest digits that read back to the value. -/
def shortest (x : Finite) : Decimal :=
  let leading := x.leadingExponent
  let grids := (List.range 17).map (fun (n : Nat) => leading - (n : Int))
  ((grids.findSome? x.onGrid?).getD x.exactly).stripped

def exponentText (exponent : Int) : List Char :=
  let digits := Nat.toDigits 10 exponent.natAbs
  let padded := if digits.length < 2 then '0' :: digits else digits
  (if exponent < 0 then '-' else '+') :: padded

/-- Positional with at least one place after the point while the leading exponent is from `-4` to
`15`, and otherwise one digit before the point and an exponent. -/
def layout (digits : List Char) (leading : Int) : List Char :=
  if -4 ≤ leading ∧ leading < 16 then
    if leading < 0 then
      '0' :: '.' :: List.replicate (-leading - 1).toNat '0' ++ digits
    else
      let whole := leading.toNat + 1
      if digits.length ≤ whole then
        digits ++ List.replicate (whole - digits.length) '0' ++ ['.', '0']
      else digits.take whole ++ '.' :: digits.drop whole
  else
    match digits with
    | [] => []
    | [digit] => digit :: 'e' :: exponentText leading
    | digit :: rest => digit :: '.' :: rest ++ 'e' :: exponentText leading

def text (x : Finite) : List Char :=
  let sign := if x.negative then ['-'] else []
  if x.significand = 0 then sign ++ ['0', '.', '0']
  else
    let d := x.shortest
    let digits := Nat.toDigits 10 d.digits
    sign ++ layout digits (d.exponent + digits.length - 1)

end Double.Finite

end SchemaMerge
