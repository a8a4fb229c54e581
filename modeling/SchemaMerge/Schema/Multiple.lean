import SchemaMerge.Schema.Basic

/-! Combining `multipleOf`: the least common multiple, of doubles read as the decimals they print. -/

namespace SchemaMerge

/-- The rational that the shortest decimal of a number writes. Infinities and NaN write none. -/
def Number.decimalValue? : Number → Option Rat
  | .int value => some value
  | .float (.finite value) =>
    let decimal := value.shortest
    some (mkRat (if value.negative then -(decimal.numerator : Int) else decimal.numerator)
      decimal.denominator)
  | .float _ => none

namespace Schema

def isMultiple (first second : Rat) : Bool := (first / second).den = 1

def commonMultiple (first second : Rat) : Rat :=
  mkRat (first.num.natAbs.lcm second.num.natAbs) (first.den.gcd second.den)

def positive : Json → Except Failure Number
  | .number value =>
    if (Number.int 0).lt value then .ok value else .error (.notPositive (.number value))
  | value => .error (.notPositive value)

def decimalValue (value : Number) : Except Failure Rat :=
  match value.decimalValue? with
  | some rational => .ok rational
  | none => .error .infiniteMultiple

/-- An integer if the rational is one, and otherwise the nearest double. -/
def numberOf (value : Rat) : Number :=
  if value.den = 1 then .int value.num
  else .float (.nearest (value.num < 0) value.num.natAbs value.den)

def multipleOf (first second : Json) : Except Failure Json := do
  let number ← positive first
  let other ← positive second
  let x ← decimalValue number
  let y ← decimalValue other
  if isMultiple x y then .ok first
  else if isMultiple y x then .ok second
  else .ok (.number (numberOf (commonMultiple x y)))

end Schema

end SchemaMerge
