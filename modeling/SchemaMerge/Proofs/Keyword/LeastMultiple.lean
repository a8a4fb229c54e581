import SchemaMerge.Proofs.Failing.Keyword
import SchemaMerge.Proofs.Symmetry.Keyword

/-!
Combining two divisors to their least common multiple, which is exact wherever it is not rounded.
Where neither divisor is a multiple of the other, their least common multiple is at least twice each
of them, and no such value is rounded to one of the two again. So the result tells which of the ways
it was made.
-/

namespace SchemaMerge

namespace Number

variable {x : Double.Finite} {number : Number} {value larger : Rat}

def leastDouble : Double.Finite := ⟨false, 1, 0, by decide, by decide, Or.inr rfl⟩

theorem shortest_leastDouble : leastDouble.shortest = ⟨5, -324⟩ := by decide +kernel

theorem decimalValue?_leastDouble
    (decimal : (Number.float (.finite leastDouble)).decimalValue? = some value) :
    3 < 4 * (value * Double.unitsPerOne) := by
  have units : 3 * leastDouble.shortest.denominator <
      4 * (leastDouble.shortest.numerator * Double.unitsPerOne) := by
    rw [shortest_leastDouble]
    decide +kernel
  have bottom : (0 : Rat) < leastDouble.shortest.denominator := by
    exact_mod_cast leastDouble.shortest.denominator_pos
  have units : (3 * leastDouble.shortest.denominator : Rat) <
      4 * (leastDouble.shortest.numerator * Double.unitsPerOne) := by exact_mod_cast units
  have exact : value * leastDouble.shortest.denominator = leastDouble.shortest.numerator := by
    rw [← Option.some.inj decimal, if_neg (by decide), Rat.mkRat_eq_div, div_mul_cancel₀ _ bottom.ne',
      Int.cast_natCast]
  rw [← exact] at units
  apply lt_of_mul_lt_mul_right _ bottom.le
  linarith

/-- Twice a positive number, or more, is rounded to another one. -/
theorem nearest_ne_of_double (positive : (Number.int 0).lt (.float (.finite x)) = true)
    (decimal : (Number.float (.finite x)).decimalValue? = some value) (twice : 2 * value ≤ larger) :
    Double.nearest false larger.num.natAbs larger.den ≠ .finite x := by
  intro rounded
  obtain ⟨sign, nonzero⟩ := float_pos_iff.mp positive
  have above := decimalValue?_pos positive decimal
  have rounds := nearest_decimalValue? nonzero decimal
  obtain ⟨near, -⟩ := Double.nearest_num_near above.le rounds
  obtain ⟨-, near'⟩ := Double.nearest_num_near (by linarith) rounded
  have grows := mul_le_mul_of_nonneg_right twice Double.units_pos.le
  have magnitude := x.cast_magnitude
  have few : 2 * x.significand ≤ 3 := by
    have place : (0 : Rat) < 2 ^ x.shift := by positivity
    have scaled : (2 * x.significand : Rat) * 2 ^ x.shift ≤ 3 * 2 ^ x.shift := by
      rw [magnitude] at near near'
      linarith
    exact_mod_cast le_of_mul_le_mul_right scaled place
  -- half a place is enough for a factor of two at the least double alone
  have least : x = leastDouble := by
    have normal := x.normal
    rw [Nat.pow_eq] at normal
    obtain ⟨negative, significand, shift, _, _, _⟩ := x
    simp only at sign nonzero few normal
    rw [leastDouble, Double.Finite.mk.injEq]
    exact ⟨sign, by omega, by omega⟩
  subst least
  have written := decimalValue?_leastDouble decimal
  have one : (leastDouble.magnitude : Rat) = 1 := by
    rw [magnitude]
    simp [leastDouble]
  rw [one] at near'
  simp only [leastDouble, pow_zero] at near'
  linarith

end Number

namespace Schema

def IsTimes (multiple value : Rat) : Prop := ∃ times : Int, multiple = times * value

def leastMultiple (first second : Rat) : Rat :=
  (first.num.natAbs.lcm second.num.natAbs : Nat) / (first.den.gcd second.den : Nat)

variable {number other : Number} {value larger x y : Rat}

theorem commonMultiple_eq (first second : Rat) :
    commonMultiple first second = leastMultiple first second := by
  rw [commonMultiple, Rat.mkRat_eq_div, Int.cast_natCast, leastMultiple]

theorem isTimes_iff (positive : 0 < value) : IsTimes larger value ↔ isMultiple larger value = true :=
  (isMultiple_iff positive.ne').symm

/-- The least common multiple stands for both fractions: what is a multiple of both is one of it. -/
theorem isTimes_leastMultiple (positive : 0 < x) (positive' : 0 < y) (multiple : Rat) :
    IsTimes multiple (leastMultiple x y) ↔ IsTimes multiple x ∧ IsTimes multiple y := by
  have common := commonMultiple_pos positive positive'
  have both := isMultiple_commonMultiple positive positive' multiple
  rw [commonMultiple_eq] at common both
  rw [isTimes_iff common, isTimes_iff positive, isTimes_iff positive', both, Bool.and_eq_true]

theorem leastMultiple_pos (positive : 0 < x) (positive' : 0 < y) : 0 < leastMultiple x y := by
  rw [← commonMultiple_eq]
  exact commonMultiple_pos positive positive'

theorem leastMultiple_comm (first second : Rat) :
    leastMultiple first second = leastMultiple second first := by
  rw [← commonMultiple_eq, ← commonMultiple_eq, commonMultiple_comm]

theorem isTimes_self (value : Rat) : IsTimes value value := ⟨1, by rw [Int.cast_one, one_mul]⟩

theorem leastMultiple_of_isTimes (positive : 0 < x) (positive' : 0 < y) (times : IsTimes x y) :
    leastMultiple x y = x := by
  have common := leastMultiple_pos positive positive'
  have least := (isTimes_leastMultiple positive positive' x).mpr ⟨isTimes_self x, times⟩
  have multiple := ((isTimes_leastMultiple positive positive' _).mp (isTimes_self _)).1
  exact isMultiple_antisymm common positive ((isTimes_iff positive).mp multiple)
    ((isTimes_iff common).mp least)

theorem two_mul_le (positive : 0 < value) (above : 0 < larger) (times : IsTimes larger value)
    (differ : larger ≠ value) : 2 * value ≤ larger := by
  obtain ⟨count, is⟩ := times
  have more : 1 < count := by
    have least : (0 : Rat) < count := pos_of_mul_pos_left (is ▸ above) positive.le
    have nonzero : 0 < count := by exact_mod_cast least
    have notOne : count ≠ 1 := by
      rintro rfl
      exact differ (by rw [is, Int.cast_one, one_mul])
    omega
  rw [is]
  exact mul_le_mul_of_nonneg_right (by exact_mod_cast more) positive.le

theorem numberOf_fraction (fraction : larger.den ≠ 1) (above : 0 < larger) :
    numberOf larger = .float (.nearest false larger.num.natAbs larger.den) := by
  have sign : decide (larger.num < 0) = false := by simpa using (Rat.num_pos.mpr above).le
  rw [numberOf, if_neg fraction, sign]

theorem numberOf_ne (positive : (Number.int 0).lt number = true)
    (decimal : number.decimalValue? = some value) (above : 0 < larger) (times : IsTimes larger value)
    (differ : larger ≠ value) : numberOf larger ≠ number := by
  have least := Number.decimalValue?_pos positive decimal
  unfold numberOf
  split
  · next integer =>
    rintro rfl
    have exact := Option.some.inj decimal
    rw [(Rat.den_eq_one_iff larger).mp integer] at exact
    exact differ exact
  · next fraction =>
    have twice := two_mul_le least above times differ
    have sign : decide (larger.num < 0) = false := by
      simpa using (Rat.num_pos.mpr above).le
    intro same
    cases number with
    | int integer => exact absurd same (by simp)
    | float double =>
        cases double with
        | finite x =>
            rw [sign] at same
            exact Number.nearest_ne_of_double positive decimal twice (Number.float.inj same)
        | infinity negative => exact absurd decimal (by simp [Number.decimalValue?])
        | nan => exact absurd decimal (by simp [Number.decimalValue?])

/-- What two divisors that write two fractions are combined to: the first or the second if it is a
multiple of the other, and else their least common multiple, rounded only if it is no integer. -/
structure CombinesDivisors (number other result : Number) (x y : Rat) : Prop where
  finite : (Json.number result).isFinite = true
  generates : ∀ multiple, IsTimes multiple (leastMultiple x y) ↔ IsTimes multiple x ∧ IsTimes multiple y
  first : result = number ↔ IsTimes x y
  second : ¬IsTimes x y → (result = other ↔ IsTimes y x)
  integer : ¬IsTimes x y → ¬IsTimes y x → (leastMultiple x y).den = 1 →
    result = .int (leastMultiple x y).num
  rounded : ¬IsTimes x y → ¬IsTimes y x → (leastMultiple x y).den ≠ 1 →
    result = .float (.nearest false (leastMultiple x y).num.natAbs (leastMultiple x y).den)
  unrounded : IsTimes x y ∨ IsTimes y x ∨ (leastMultiple x y).den = 1 →
    result.decimalValue? = some (leastMultiple x y)
  whole : x.den = 1 ∨ y.den = 1 → result.decimalValue? = some (leastMultiple x y)

theorem decimalValue?_of_finite (finite : (Json.number number).isFinite = true) :
    ∃ value, number.decimalValue? = some value := by
  cases number with
  | int integer => exact ⟨_, rfl⟩
  | float double =>
      cases double with
      | finite x => exact ⟨_, rfl⟩
      | infinity negative => simp [Json.isFinite, Json.nonFinite?, Double.isFinite] at finite
      | nan => simp [Json.isFinite, Json.nonFinite?, Double.isFinite] at finite

theorem decimalValue?_int {value : Rat} (integer : value.den = 1) :
    (Number.int value.num).decimalValue? = some value :=
  congrArg some ((Rat.den_eq_one_iff value).mp integer)

section combined

variable (positive : (Number.int 0).lt number = true) (positive' : (Number.int 0).lt other = true)
  (decimal : number.decimalValue? = some x) (decimal' : other.decimalValue? = some y)

include positive positive' decimal decimal'

theorem combinesDivisors_first (finite : (Json.number number).isFinite = true) (times : IsTimes x y) :
    CombinesDivisors number other number x y := by
  have above := Number.decimalValue?_pos positive decimal
  have above' := Number.decimalValue?_pos positive' decimal'
  have least := leastMultiple_of_isTimes above above' times
  have exact : number.decimalValue? = some (leastMultiple x y) := by rw [least, decimal]
  exact {
    finite := finite
    generates := isTimes_leastMultiple above above'
    first := ⟨fun _ => times, fun _ => rfl⟩
    second := fun differ => absurd times differ
    integer := fun differ => absurd times differ
    rounded := fun differ => absurd times differ
    unrounded := fun _ => exact
    whole := fun _ => exact }

theorem combinesDivisors_second (finite : (Json.number other).isFinite = true) (differ : ¬IsTimes x y)
    (times : IsTimes y x) : CombinesDivisors number other other x y := by
  have above := Number.decimalValue?_pos positive decimal
  have above' := Number.decimalValue?_pos positive' decimal'
  have least := leastMultiple_of_isTimes above' above times
  have exact : other.decimalValue? = some (leastMultiple x y) := by
    rw [leastMultiple_comm, least, decimal']
  have distinct : other ≠ number := by
    rintro rfl
    obtain rfl := Option.some.inj (decimal.symm.trans decimal')
    exact differ times
  exact {
    finite := finite
    generates := isTimes_leastMultiple above above'
    first := ⟨fun same => absurd same distinct, fun is => absurd is differ⟩
    second := fun _ => ⟨fun _ => times, fun _ => rfl⟩
    integer := fun _ differ' => absurd times differ'
    rounded := fun _ differ' => absurd times differ'
    unrounded := fun _ => exact
    whole := fun _ => exact }

theorem combinesDivisors_common (differ : ¬IsTimes x y) (differ' : ¬IsTimes y x) :
    CombinesDivisors number other (numberOf (leastMultiple x y)) x y := by
  have above := Number.decimalValue?_pos positive decimal
  have above' := Number.decimalValue?_pos positive' decimal'
  have common := leastMultiple_pos above above'
  have generates := isTimes_leastMultiple above above'
  obtain ⟨times, times'⟩ := (generates _).mp (isTimes_self _)
  have finite := (numberOf_commonMultiple_pos positive positive' decimal decimal').2
  have whole : x.den = 1 ∨ y.den = 1 → (commonMultiple x y).den = 1 := commonMultiple_of_den_eq_one
  rw [commonMultiple_eq] at finite whole
  have integer (integer : (leastMultiple x y).den = 1) :
      numberOf (leastMultiple x y) = .int (leastMultiple x y).num := if_pos integer
  have exact (integral : (leastMultiple x y).den = 1) :
      (numberOf (leastMultiple x y)).decimalValue? = some (leastMultiple x y) := by
    rw [integer integral, decimalValue?_int integral]
  have notFirst : numberOf (leastMultiple x y) ≠ number := by
    apply numberOf_ne positive decimal common times
    intro same
    exact differ (same ▸ times')
  have notSecond : numberOf (leastMultiple x y) ≠ other := by
    apply numberOf_ne positive' decimal' common times'
    intro same
    exact differ' (same ▸ times)
  exact {
    finite := finite
    generates := generates
    first := ⟨fun same => absurd same notFirst, fun is => absurd is differ⟩
    second := fun _ => ⟨fun same => absurd same notSecond, fun is => absurd is differ'⟩
    integer := fun _ _ => integer
    rounded := fun _ _ fraction => numberOf_fraction fraction common
    unrounded := fun cases => exact ((cases.resolve_left differ).resolve_left differ')
    whole := fun wholes => exact (whole wholes) }

end combined

theorem multipleOf_combinesDivisors (positive : (Number.int 0).lt number = true)
    (positive' : (Number.int 0).lt other = true) (finite : (Json.number number).isFinite = true)
    (finite' : (Json.number other).isFinite = true) :
    ∃ x y result, number.decimalValue? = some x ∧ other.decimalValue? = some y ∧
      multipleOf (.number number) (.number other) = .ok (.number result) ∧
      CombinesDivisors number other result x y := by
  obtain ⟨x, decimal⟩ := decimalValue?_of_finite finite
  obtain ⟨y, decimal'⟩ := decimalValue?_of_finite finite'
  have byFirst : IsTimes y x ↔ isMultiple y x = true :=
    isTimes_iff (Number.decimalValue?_pos positive decimal)
  have bySecond : IsTimes x y ↔ isMultiple x y = true :=
    isTimes_iff (Number.decimalValue?_pos positive' decimal')
  cases made : multipleOf (.number number) (.number other) with
  | error failure =>
      rcases (multipleOf_eq_error made).2 with notDivisor | notDivisor
      · exact absurd ⟨number, x, rfl, positive, decimal⟩ notDivisor
      · exact absurd ⟨other, y, rfl, positive', decimal'⟩ notDivisor
  | ok combined =>
      obtain ⟨_, _, _, _, ⟨⟩, ⟨⟩, -, -, read, read', rfl⟩ := multipleOf_eq_ite made
      obtain rfl := Option.some.inj (decimal.symm.trans read)
      obtain rfl := Option.some.inj (decimal'.symm.trans read')
      -- the first divisor is kept before the second, and both before a new one is made
      by_cases first : isMultiple x y = true
      · rw [if_pos first]
        exact ⟨x, y, number, decimal, decimal', rfl,
          combinesDivisors_first positive positive' decimal decimal' finite (bySecond.mpr first)⟩
      · have differ : ¬IsTimes x y := fun times => first (bySecond.mp times)
        rw [if_neg first]
        by_cases second : isMultiple y x = true
        · rw [if_pos second]
          exact ⟨x, y, other, decimal, decimal', rfl, combinesDivisors_second positive positive'
            decimal decimal' finite' differ (byFirst.mpr second)⟩
        · have differ' : ¬IsTimes y x := fun times => second (byFirst.mp times)
          rw [if_neg second, commonMultiple_eq]
          exact ⟨x, y, _, decimal, decimal', rfl,
            combinesDivisors_common positive positive' decimal decimal' differ differ'⟩

/-- `0.1`, which is no binary fraction, and `0.25`. -/
def tenth : Number := .float (.finite ⟨false, 7205759403792794, 1018, by decide, by decide, by decide⟩)

def quarter : Number := .float (.finite ⟨false, Nat.pow 2 52, 1020, by decide, by decide, by decide⟩)

theorem tenth_and_quarter_combine : (Number.int 0).lt tenth = true ∧ (Number.int 0).lt quarter = true ∧
    (Json.number tenth).isFinite = true ∧ (Json.number quarter).isFinite = true ∧
    ∃ result, multipleOf (.number tenth) (.number quarter) = .ok (.number result) ∧
      CombinesDivisors tenth quarter result (1 / 10) (1 / 4) := by
  have positive : (Number.int 0).lt tenth = true := by decide +kernel
  have positive' : (Number.int 0).lt quarter = true := by decide +kernel
  have decimal : tenth.decimalValue? = some (1 / 10) := by decide +kernel
  have decimal' : quarter.decimalValue? = some (1 / 4) := by decide +kernel
  obtain ⟨x, y, result, read, read', made, combines⟩ :=
    multipleOf_combinesDivisors positive positive' rfl rfl
  obtain rfl := Option.some.inj (decimal.symm.trans read)
  obtain rfl := Option.some.inj (decimal'.symm.trans read')
  exact ⟨positive, positive', rfl, rfl, result, made, combines⟩

end Schema

end SchemaMerge
