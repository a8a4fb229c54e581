import SchemaMerge.Proofs.Json.Shortest
import SchemaMerge.Proofs.Keyword.Multiple

namespace SchemaMerge

open Double (unitsPerOne)

namespace Number

variable {number other : Number} {value : Rat}

theorem zero_position? : (Number.int 0).position? = some (0, 0) := by
  rw [position?, zero_mul]

theorem float_pos_iff {x : Double.Finite} :
    (Number.int 0).lt (.float (.finite x)) = true ↔ x.negative = false ∧ x.significand ≠ 0 := by
  have power : 0 < Nat.pow 2 x.shift := Nat.pow_pos (by decide)
  rw [lt_iff zero_position? rfl, Double.Finite.units, Double.Finite.magnitude]
  cases x.negative with
  | true =>
      simp only [if_true, Bool.true_eq_false, false_and, iff_false]
      omega
  | false =>
      simp only [Bool.false_eq_true, if_false, true_and]
      rw [Int.natCast_pos, Nat.mul_pos_iff_of_pos_right power, Nat.pos_iff_ne_zero]

/-- What a positive number writes is more than half a unit, and has few digits if it is no integer. -/
theorem decimalValue?_bounds (positive : (Number.int 0).lt number = true)
    (decimal : number.decimalValue? = some value) :
    value.den < 2 * (value.num.natAbs * unitsPerOne) ∧
      (value.den ≠ 1 → value.num.natAbs ≤ 10 ^ 17) := by
  cases number with
  | int integer =>
      obtain rfl := Option.some.inj decimal
      have above := int_lt_iff.mp positive
      have units := Double.unitsPerOne_pos
      refine ⟨?_, fun fraction => absurd (Rat.den_intCast integer) fraction⟩
      have one : 1 ≤ integer.natAbs * unitsPerOne := Nat.mul_pos (by omega) units
      rw [Rat.den_intCast, Rat.num_intCast]
      omega
  | float double =>
      cases double with
      | finite x =>
          have nonzero := (float_pos_iff.mp positive).2
          exact ⟨Double.lt_of_nearest value.den_pos (nearest_decimalValue? nonzero decimal) nonzero,
            numerator_le decimal⟩
      | infinity negative => exact absurd decimal (by simp [decimalValue?])
      | nan => exact absurd decimal (by simp [decimalValue?])

def writesWhole (number : Number) : Bool :=
  match number.decimalValue? with
  | some written => written.den ≠ 1 || number.value? = some written
  | none => true

theorem value?_of_writesWhole (writes : number.writesWhole = true)
    (decimal : number.decimalValue? = some value) (integer : value.den = 1) :
    number.value? = some value := by
  rw [writesWhole, decimal] at writes
  simpa [integer] using writes

theorem exists_float_of_fraction (decimal : number.decimalValue? = some value)
    (fraction : value.den ≠ 1) : ∃ x, number = .float (.finite x) := by
  cases number with
  | int integer =>
      obtain rfl := Option.some.inj decimal
      exact absurd (Rat.den_intCast integer) fraction
  | float double =>
      cases double with
      | finite x => exact ⟨x, rfl⟩
      | infinity negative => exact absurd decimal (by simp [decimalValue?])
      | nan => exact absurd decimal (by simp [decimalValue?])

theorem value?_eq_of_decimalValue? (positive : (Number.int 0).lt number = true)
    (positive' : (Number.int 0).lt other = true) (decimal : number.decimalValue? = some value)
    (decimal' : other.decimalValue? = some value) (writes : number.writesWhole = true)
    (writes' : other.writesWhole = true) : number.value? = other.value? := by
  by_cases integer : value.den = 1
  · rw [value?_of_writesWhole writes decimal integer, value?_of_writesWhole writes' decimal' integer]
  · obtain ⟨x, rfl⟩ := exists_float_of_fraction decimal integer
    obtain ⟨y, rfl⟩ := exists_float_of_fraction decimal' integer
    obtain ⟨sign, nonzero⟩ := float_pos_iff.mp positive
    obtain ⟨sign', nonzero'⟩ := float_pos_iff.mp positive'
    have rounded := nearest_decimalValue? nonzero decimal
    rw [sign, ← sign', nearest_decimalValue? nonzero' decimal'] at rounded
    rw [rounded]

end Number

namespace Schema

variable {first second : Rat}

theorem commonMultiple_of_den_eq_one (integer : first.den = 1 ∨ second.den = 1) :
    (commonMultiple first second).den = 1 := by
  rw [(commonMultiple_terms first second).2]
  rcases integer with integer | integer <;> simp [integer]

theorem numberOf_commonMultiple_pos {number other : Number}
    (positive : (Number.int 0).lt number = true) (positive' : (Number.int 0).lt other = true)
    (decimal : number.decimalValue? = some first) (decimal' : other.decimalValue? = some second) :
    (Number.int 0).lt (numberOf (commonMultiple first second)) = true ∧
      (Json.number (numberOf (commonMultiple first second))).isFinite = true := by
  obtain ⟨least, few⟩ := Number.decimalValue?_bounds positive decimal
  obtain ⟨least', few'⟩ := Number.decimalValue?_bounds positive' decimal'
  have above : 0 < first.num.natAbs := Nat.pos_of_ne_zero fun zero => by simp [zero] at least
  have above' : 0 < second.num.natAbs := Nat.pos_of_ne_zero fun zero => by simp [zero] at least'
  have common := Nat.lcm_pos above above'
  have divisor : 0 < first.den.gcd second.den := Nat.gcd_pos_of_pos_left _ first.den_pos
  have greater : 0 < (commonMultiple first second).num :=
    Rat.num_pos.mpr (Rat.mkRat_pos (Int.natCast_pos.mpr common) divisor.ne')
  unfold numberOf
  split
  · exact ⟨Number.int_lt_iff.mpr greater, rfl⟩
  · next fraction =>
    have fractions : first.den ≠ 1 ∧ second.den ≠ 1 := by
      rw [← not_or]
      exact fun integer => fraction (commonMultiple_of_den_eq_one integer)
    have sign : decide ((commonMultiple first second).num < 0) = false := by simpa using greater.le
    -- the numerators of what doubles write have at most 17 digits, if they are no integers
    have most : first.num.natAbs.lcm second.num.natAbs < 2 ^ 128 := by
      have bounded : first.num.natAbs.lcm second.num.natAbs ≤ 10 ^ 17 * 10 ^ 17 :=
        (Nat.lcm_le_mul above above').trans (Nat.mul_le_mul (few fractions.1) (few' fractions.2))
      exact bounded.trans_lt (by decide)
    have enough : first.den.gcd second.den <
        2 * (first.num.natAbs.lcm second.num.natAbs * unitsPerOne) := by
      have up := Nat.mul_le_mul_right unitsPerOne
        (Nat.le_of_dvd common (Nat.dvd_lcm_left first.num.natAbs second.num.natAbs))
      have down := Nat.gcd_le_left second.den first.den_pos
      omega
    obtain ⟨x, rounded, negative, nonzero⟩ := Double.nearest_eq_finite false enough most (by decide)
    rw [sign, commonMultiple, Double.nearest_mkRat _ _ divisor, rounded]
    exact ⟨Number.float_pos_iff.mpr ⟨negative, nonzero⟩, rfl⟩

end Schema

end SchemaMerge
