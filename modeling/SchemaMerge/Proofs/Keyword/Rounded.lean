import SchemaMerge.Proofs.Json.Digits
import SchemaMerge.Proofs.Keyword.LeastMultiple

/-!
Rounding the least common multiple of two divisors. What is returned is a multiple of both just
where nothing was lost, that is where a double writes the least common multiple itself: the next
multiple of both is twice as far away, and no value is rounded that far. So it is for a least common
multiple of at most fifteen digits in the normal range, but not in general.
-/

namespace SchemaMerge

open Double (unitsPerOne)

namespace Number

variable {x : Double.Finite} {number : Number} {value smaller : Rat}

theorem one_lt_units (positive : (Number.int 0).lt number = true)
    (decimal : number.decimalValue? = some value) : 1 < 2 * (value * unitsPerOne) := by
  have above := decimalValue?_pos positive decimal
  have least := (decimalValue?_bounds positive decimal).1
  have bottom : (0 : Rat) < value.den := by exact_mod_cast value.den_pos
  generalize unitsPerOne = units at least ⊢
  have least : (value.den : Rat) < 2 * (value.num.natAbs * units) := by exact_mod_cast least
  rw [Double.natAbs_num above.le] at least
  apply lt_of_mul_lt_mul_right _ bottom.le
  linarith

def zeroDouble : Double.Finite :=
  { leastDouble with significand := 0, significand_lt := by decide, normal := Or.inr rfl }

theorem shortest_zeroDouble : zeroDouble.shortest = ⟨0, 0⟩ := by decide +kernel

theorem eq_zeroDouble (sign : x.negative = false) (none : x.significand = 0) : x = zeroDouble := by
  obtain ⟨negative, significand, shift, _, _, normal⟩ := x
  simp only at sign none
  subst sign none
  obtain rfl := normal.resolve_left (by decide)
  rfl

theorem pos_of_decimalValue? (decimal : number.decimalValue? = some value) (above : 0 < value) :
    (Number.int 0).lt number = true := by
  cases number with
  | int integer =>
      obtain rfl := Option.some.inj decimal
      exact int_lt_iff.mpr (by exact_mod_cast above)
  | float double =>
      cases double with
      | finite x =>
          obtain rfl := Option.some.inj decimal
          have sign : x.negative = false := by
            by_contra negative
            rw [Bool.not_eq_false] at negative
            rw [if_pos negative, ← Rat.neg_mkRat] at above
            have below : 0 ≤ mkRat x.shortest.numerator x.shortest.denominator :=
              Rat.mkRat_nonneg (Int.natCast_nonneg _) _
            linarith
          refine float_pos_iff.mpr ⟨sign, ?_⟩
          intro none
          obtain rfl := eq_zeroDouble sign none
          rw [if_neg (by decide), shortest_zeroDouble] at above
          exact absurd above (by decide +kernel)
      | infinity negative => exact absurd decimal (by simp [decimalValue?])
      | nan => exact absurd decimal (by simp [decimalValue?])

theorem nearest_ne_of_half (positive : (Number.int 0).lt (.float (.finite x)) = true)
    (decimal : (Number.float (.finite x)).decimalValue? = some value) (above : 1 < smaller * unitsPerOne)
    (twice : 2 * smaller ≤ value) : Double.nearest false smaller.num.natAbs smaller.den ≠ .finite x := by
  intro rounded
  have nonzero := (float_pos_iff.mp positive).2
  have rounds := nearest_decimalValue? nonzero decimal
  obtain ⟨near, -⟩ := Double.nearest_num_near (Double.nonneg_of_units (by linarith)) rounded
  obtain ⟨-, near'⟩ := Double.nearest_num_near (decimalValue?_pos positive decimal).le rounds
  have grows := mul_le_mul_of_nonneg_right twice Double.units_pos.le
  have place : (0 : Rat) < 2 ^ x.shift := by positivity
  rw [x.cast_magnitude] at near near'
  have few : 2 * x.significand ≤ 3 := by
    have scaled : (2 * x.significand : Rat) * 2 ^ x.shift ≤ 3 * 2 ^ x.shift := by linarith
    exact_mod_cast le_of_mul_le_mul_right scaled place
  -- the significand is one, and half a place does not reach past the least double
  have least : x.shift = 0 := by
    have normal := x.normal
    rw [Nat.pow_eq] at normal
    omega
  have one : x.significand = 1 := by omega
  rw [one, least, Nat.cast_one, pow_zero, mul_one] at near near'
  linarith

theorem decimalValue?_of_short {d : Decimal} (positive : (Number.int 0).lt (.float (.finite x)) = true)
    (normal : 2 ^ 52 ≤ d.value * unitsPerOne) (few : d.digits < 10 ^ 15)
    (rounded : Double.nearest false d.value.num.natAbs d.value.den = .finite x) :
    (Number.float (.finite x)).decimalValue? = some d.value := by
  obtain ⟨sign, nonzero⟩ := float_pos_iff.mp positive
  have reads : x.readsBack d = true := by
    rw [Double.Finite.readsBack_iff nonzero, sign, rounded]
  rw [decimalValue?_eq sign, Double.Finite.value_shortest (Double.normal_of_nearest normal rounded) few reads]

/-- In the normal range, what is written is off by no more than one in `2 ^ 51`. -/
theorem written_near (positive : (Number.int 0).lt (.float (.finite x)) = true)
    (decimal : (Number.float (.finite x)).decimalValue? = some value)
    (normal : 2 ^ 52 ≤ smaller * unitsPerOne)
    (rounded : Double.nearest false smaller.num.natAbs smaller.den = .finite x) :
    |value - smaller| * 2 ^ 51 ≤ smaller := by
  have rounds := nearest_decimalValue? (float_pos_iff.mp positive).2 decimal
  have units := Double.units_pos
  obtain ⟨above, below⟩ := Double.nearest_num_near (Double.nonneg_of_units (by linarith)) rounded
  obtain ⟨above', below'⟩ := Double.nearest_num_near (decimalValue?_pos positive decimal).le rounds
  have least := Double.Finite.place_le_magnitude (Double.normal_of_nearest normal rounded)
  have place : (0 : Rat) < 2 ^ x.shift := by positivity
  have apart : |value - smaller| * unitsPerOne ≤ 2 ^ x.shift := by
    rw [← abs_of_pos units, ← abs_mul, abs_le]
    constructor
    · linarith
    · linarith
  apply le_of_mul_le_mul_right _ units
  linarith

end Number

namespace Schema

variable {number other : Number} {value x y : Rat}

structure RoundsMultiple (rounded : Double.Finite) (written x y : Rat) : Prop where
  nearest : Double.nearest false (leastMultiple x y).num.natAbs (leastMultiple x y).den = .finite rounded
  writes : (Number.float (.finite rounded)).decimalValue? = some written
  common : IsTimes written x ∧ IsTimes written y ↔ written = leastMultiple x y
  exact : written = leastMultiple x y ↔ ∃ number : Number, number.decimalValue? = some (leastMultiple x y)
  short : ∀ d : Decimal, d.value = leastMultiple x y → d.digits < 10 ^ 15 →
    1 ≤ leastMultiple x y * 2 ^ 1022 → written = leastMultiple x y
  near : 1 ≤ leastMultiple x y * 2 ^ 1022 → |written - leastMultiple x y| * 2 ^ 51 ≤ leastMultiple x y

theorem units_of_normal {value : Rat} (normal : 1 ≤ value * 2 ^ 1022) : 2 ^ 52 ≤ value * unitsPerOne := by
  obtain ⟨places, is⟩ : ∃ places, places = 1022 := ⟨_, rfl⟩
  have power : unitsPerOne = 2 ^ places * 2 ^ 52 := by
    rw [is]
    decide +kernel
  rw [← is] at normal
  rw [power]
  push_cast
  rw [← mul_assoc]
  exact le_mul_of_one_le_left (by positivity) normal

theorem decimalValue?_of_written {rounded : Double.Finite} (decimal : number.decimalValue? = some value)
    (fraction : value.den ≠ 1) (above : 0 < value)
    (nearest : Double.nearest false value.num.natAbs value.den = .finite rounded) :
    (Number.float (.finite rounded)).decimalValue? = some value := by
  obtain ⟨x, rfl⟩ := Number.exists_float_of_fraction decimal fraction
  obtain ⟨sign, nonzero⟩ := Number.float_pos_iff.mp (Number.pos_of_decimalValue? decimal above)
  have rounds := Number.nearest_decimalValue? nonzero decimal
  rw [sign, nearest] at rounds
  rw [Double.finite.inj rounds, decimal]

section rounded

variable (positive : (Number.int 0).lt number = true) (positive' : (Number.int 0).lt other = true)
  (decimal : number.decimalValue? = some x) (decimal' : other.decimalValue? = some y)

include positive positive' decimal decimal'

theorem multipleOf_eq_common (differ : ¬IsTimes x y) (differ' : ¬IsTimes y x) :
    multipleOf (.number number) (.number other) = .ok (.number (numberOf (leastMultiple x y))) := by
  have first : ¬isMultiple x y = true :=
    fun multiple => differ ((isTimes_iff (Number.decimalValue?_pos positive' decimal')).mpr multiple)
  have second : ¬isMultiple y x = true :=
    fun multiple => differ' ((isTimes_iff (Number.decimalValue?_pos positive decimal)).mpr multiple)
  have read : decimalValue number = .ok x := by rw [decimalValue, decimal]
  have read' : decimalValue other = .ok y := by rw [decimalValue, decimal']
  refine bind_eq_ok.mpr ⟨number, if_pos positive, bind_eq_ok.mpr ⟨other, if_pos positive', ?_⟩⟩
  refine bind_eq_ok.mpr ⟨x, read, bind_eq_ok.mpr ⟨y, read', ?_⟩⟩
  rw [if_neg first, if_neg second, commonMultiple_eq]

theorem nearest_leastMultiple (fraction : (leastMultiple x y).den ≠ 1) :
    ∃ rounded, Double.nearest false (leastMultiple x y).num.natAbs (leastMultiple x y).den = .finite rounded ∧
      (Number.int 0).lt (.float (.finite rounded)) = true := by
  have common := leastMultiple_pos (Number.decimalValue?_pos positive decimal)
    (Number.decimalValue?_pos positive' decimal')
  have made := numberOf_commonMultiple_pos positive positive' decimal decimal'
  rw [commonMultiple_eq, numberOf_fraction fraction common] at made
  generalize Double.nearest false (leastMultiple x y).num.natAbs (leastMultiple x y).den = double at made ⊢
  obtain ⟨above, finite⟩ := made
  cases double with
  | finite rounded => exact ⟨rounded, rfl, above⟩
  | infinity negative => simp [Json.isFinite, Json.nonFinite?, Double.isFinite] at finite
  | nan => simp [Json.isFinite, Json.nonFinite?, Double.isFinite] at finite

theorem one_lt_leastMultiple (differ : ¬IsTimes x y) : 1 < leastMultiple x y * unitsPerOne := by
  have above := Number.decimalValue?_pos positive decimal
  have above' := Number.decimalValue?_pos positive' decimal'
  have common := leastMultiple_pos above above'
  obtain ⟨times, times'⟩ := (isTimes_leastMultiple above above' _).mp (isTimes_self _)
  have twice := two_mul_le above common times (fun same => differ (same ▸ times'))
  calc
    1 < 2 * (x * unitsPerOne) := Number.one_lt_units positive decimal
    _ = 2 * x * unitsPerOne := (mul_assoc _ _ _).symm
    _ ≤ leastMultiple x y * unitsPerOne := mul_le_mul_of_nonneg_right twice Double.units_pos.le

/-- What is written is a common multiple only if it is the least one: the next is twice as much. -/
theorem eq_leastMultiple_of_common {rounded : Double.Finite} {written : Rat} (differ : ¬IsTimes x y)
    (nearest : Double.nearest false (leastMultiple x y).num.natAbs (leastMultiple x y).den = .finite rounded)
    (above : (Number.int 0).lt (.float (.finite rounded)) = true)
    (writes : (Number.float (.finite rounded)).decimalValue? = some written)
    (common : IsTimes written x ∧ IsTimes written y) : written = leastMultiple x y := by
  have fraction := Number.decimalValue?_pos positive decimal
  have fraction' := Number.decimalValue?_pos positive' decimal'
  by_contra apart
  have twice := two_mul_le (leastMultiple_pos fraction fraction') (Number.decimalValue?_pos above writes)
    ((isTimes_leastMultiple fraction fraction' written).mpr common) apart
  exact Number.nearest_ne_of_half above writes
    (one_lt_leastMultiple positive positive' decimal decimal' differ) twice nearest

/-- What two divisors are combined to if neither is a multiple of the other. -/
theorem multipleOf_roundsMultiple (differ : ¬IsTimes x y) (differ' : ¬IsTimes y x)
    (fraction : (leastMultiple x y).den ≠ 1) : ∃ rounded written,
      multipleOf (.number number) (.number other) = .ok (.number (.float (.finite rounded))) ∧
        RoundsMultiple rounded written x y := by
  have divisor := Number.decimalValue?_pos positive decimal
  have divisor' := Number.decimalValue?_pos positive' decimal'
  have common := leastMultiple_pos divisor divisor'
  obtain ⟨rounded, nearest, above⟩ := nearest_leastMultiple positive positive' decimal decimal' fraction
  obtain ⟨written, writes⟩ : ∃ written, (Number.float (.finite rounded)).decimalValue? = some written :=
    ⟨_, rfl⟩
  refine ⟨rounded, written, ?_, ?_⟩
  · rw [multipleOf_eq_common positive positive' decimal decimal' differ differ',
      numberOf_fraction fraction common, nearest]
  · exact {
      nearest := nearest
      writes := writes
      common := by
        constructor
        · exact eq_leastMultiple_of_common positive positive' decimal decimal' differ nearest above writes
        · rintro rfl
          exact (isTimes_leastMultiple divisor divisor' _).mp (isTimes_self _)
      exact := by
        constructor
        · rintro rfl
          exact ⟨_, writes⟩
        · rintro ⟨number, read⟩
          exact Option.some.inj (writes.symm.trans (decimalValue?_of_written read fraction common nearest))
      short := by
        intro d is few normal
        rw [← is] at nearest normal ⊢
        exact Option.some.inj (writes.symm.trans
          (Number.decimalValue?_of_short above (units_of_normal normal) few nearest))
      near := fun normal => Number.written_near above writes (units_of_normal normal) nearest }

end rounded

theorem tenth_and_quarter_round : (Number.int 0).lt tenth = true ∧ (Number.int 0).lt quarter = true ∧
    tenth.decimalValue? = some (1 / 10) ∧ quarter.decimalValue? = some (1 / 4) ∧
    ¬IsTimes (1 / 10) (1 / 4) ∧ ¬IsTimes (1 / 4) (1 / 10) ∧ leastMultiple (1 / 10) (1 / 4) = 1 / 2 ∧
    ∃ rounded, multipleOf (.number tenth) (.number quarter) = .ok (.number (.float (.finite rounded))) ∧
      RoundsMultiple rounded (1 / 2) (1 / 10) (1 / 4) := by
  have positive : (Number.int 0).lt tenth = true := by decide +kernel
  have positive' : (Number.int 0).lt quarter = true := by decide +kernel
  have decimal : tenth.decimalValue? = some (1 / 10) := by decide +kernel
  have decimal' : quarter.decimalValue? = some (1 / 4) := by decide +kernel
  have differ : ¬IsTimes (1 / 10) (1 / 4) := by
    rw [isTimes_iff (by norm_num)]
    decide +kernel
  have differ' : ¬IsTimes (1 / 4) (1 / 10) := by
    rw [isTimes_iff (by norm_num)]
    decide +kernel
  have half : leastMultiple (1 / 10) (1 / 4) = 1 / 2 := by decide +kernel
  obtain ⟨rounded, written, made, rounds⟩ := multipleOf_roundsMultiple positive positive' decimal decimal'
    differ differ' (by rw [half]; decide +kernel)
  have exact : written = 1 / 2 := by
    rw [← half]
    refine rounds.short ⟨5, -1⟩ ?_ (by decide) ?_
    · rw [half, Decimal.value]
      norm_num
    · rw [half]
      decide +kernel
  rw [exact] at rounds
  exact ⟨positive, positive', decimal, decimal', differ, differ', half, rounded, made, rounds⟩

/-- `0.6` and `0.7000000000000001`, whose least common multiple `4200000000000000.6` has 17 digits. -/
def sixTenths : Number :=
  .float (.finite ⟨false, 5404319552844595, 1021, by decide, by decide, by decide⟩)

def sevenTenths : Number :=
  .float (.finite ⟨false, 6305039478318695, 1021, by decide, by decide, by decide⟩)

/-- The double next to it is written as `4200000000000000.5`. -/
theorem sixTenths_and_sevenTenths_lose : (Number.int 0).lt sixTenths = true ∧
    (Number.int 0).lt sevenTenths = true ∧ sixTenths.decimalValue? = some (3 / 5) ∧
    sevenTenths.decimalValue? = some (7000000000000001 / 10000000000000000) ∧
    ¬IsTimes (3 / 5) (7000000000000001 / 10000000000000000) ∧
    ¬IsTimes (7000000000000001 / 10000000000000000) (3 / 5) ∧
    leastMultiple (3 / 5) (7000000000000001 / 10000000000000000) = 21000000000000003 / 5 ∧
    ∃ result, multipleOf (.number sixTenths) (.number sevenTenths) = .ok (.number result) ∧
      result.decimalValue? = some (8400000000000001 / 2) ∧ ¬IsTimes (8400000000000001 / 2) (3 / 5) ∧
      ¬IsTimes (8400000000000001 / 2) (7000000000000001 / 10000000000000000) := by
  simp only [isTimes_iff (show (0 : Rat) < 3 / 5 by norm_num),
    isTimes_iff (show (0 : Rat) < 7000000000000001 / 10000000000000000 by norm_num)]
  refine ⟨by decide +kernel, by decide +kernel, by decide +kernel, by decide +kernel, by decide +kernel,
    by decide +kernel, by decide +kernel,
    .float (.finite ⟨false, 8400000000000001, 1073, by decide, by decide, by decide⟩), ?_⟩
  decide +kernel

end Schema

end SchemaMerge
