import SchemaMerge.Proofs.Json.Rounding

namespace SchemaMerge

namespace Decimal

def Reduces (long short : Decimal) : Prop :=
  ∃ factor, 0 < factor ∧ long.numerator = short.numerator * factor ∧
    long.denominator = short.denominator * factor

theorem reduces_step {digits : Nat} {exponent : Int} (trailing : digits % 10 = 0) :
    Reduces ⟨digits, exponent⟩ ⟨digits / 10, exponent + 1⟩ := by
  have whole : digits / 10 * 10 = digits := Nat.div_mul_cancel (Nat.dvd_of_mod_eq_zero trailing)
  simp only [Reduces, numerator, denominator, Nat.pow_eq]
  by_cases fraction : exponent < 0
  · refine ⟨10, by decide, ?_, ?_⟩
    · rw [show (exponent + 1).toNat = 0 by omega, show exponent.toNat = 0 by omega]
      omega
    · rw [show (-exponent).toNat = (-(exponent + 1)).toNat + 1 by omega, Nat.pow_succ]
  · refine ⟨1, by decide, ?_, ?_⟩
    · rw [show (exponent + 1).toNat = exponent.toNat + 1 by omega, Nat.pow_succ, Nat.mul_comm _ 10,
        ← Nat.mul_assoc, whole, Nat.mul_one]
    · rw [show (-exponent).toNat = 0 by omega, show (-(exponent + 1)).toNat = 0 by omega]

theorem Reduces.refl (d : Decimal) : Reduces d d :=
  ⟨1, by decide, (Nat.mul_one _).symm, (Nat.mul_one _).symm⟩

theorem Reduces.trans {long middle short : Decimal} (reduces : Reduces long middle)
    (reduces' : Reduces middle short) : Reduces long short := by
  obtain ⟨factor, positive, top, bottom⟩ := reduces
  obtain ⟨factor', positive', top', bottom'⟩ := reduces'
  exact ⟨factor' * factor, Nat.mul_pos positive' positive, by rw [top, top', Nat.mul_assoc],
    by rw [bottom, bottom', Nat.mul_assoc]⟩

theorem reduces_strip (fuel : Nat) (d : Decimal) : Reduces d (d.strip fuel) := by
  induction fuel generalizing d with
  | zero => exact .refl d
  | succ fuel ih =>
      rw [strip]
      split
      · next trailing => exact (reduces_step trailing.2).trans (ih _)
      · exact .refl d

theorem denominator_pos (d : Decimal) : 0 < d.denominator := Nat.pow_pos (by decide)

theorem nearest_of_toDouble {negative : Bool} {d : Decimal} {x : Double.Finite}
    (read : d.toDouble negative = .finite x) (nonzero : x.significand ≠ 0) :
    Double.nearest negative d.numerator d.denominator = .finite x := by
  have notZero : Double.ofParts negative 0 0 ≠ .finite x := by
    rw [Double.ofParts, dif_pos (by decide)]
    rintro ⟨rfl⟩
    exact nonzero rfl
  unfold toDouble at read
  split at read
  · exact absurd read notZero
  · split at read
    · exact absurd read (by simp)
    · split at read
      · exact absurd read notZero
      · exact read

theorem digits_pos {d : Decimal} (least : d.denominator < 2 * (d.numerator * Double.unitsPerOne)) :
    0 < d.digits := by
  rw [Nat.pos_iff_ne_zero]
  intro none
  rw [numerator, none, Nat.zero_mul, Nat.zero_mul] at least
  exact Nat.not_lt_zero _ least

theorem exponent_le {d : Decimal} (positive : 0 < d.digits)
    (most : d.numerator < d.denominator * 2 ^ 1024) : d.exponent ≤ 310 := by
  by_contra large
  have bound : 2 ^ 1024 ≤ 10 ^ d.exponent.toNat := by
    calc
      2 ^ 1024 ≤ 10 ^ 311 := by decide +kernel
      _ ≤ 10 ^ d.exponent.toNat := Nat.pow_le_pow_right (by decide) (by omega)
  have whole : d.denominator = 1 := by
    rw [denominator, show (-d.exponent).toNat = 0 by omega]
  rw [whole, Nat.one_mul, numerator] at most
  have product := Nat.mul_le_mul positive bound
  rw [Nat.pow_eq] at most
  omega

theorem le_exponent_add_log2 {d : Decimal}
    (least : d.denominator < 2 * (d.numerator * Double.unitsPerOne)) :
    -330 ≤ d.exponent + d.digits.log2 + 1 := by
  by_contra small
  obtain ⟨places, is⟩ : ∃ places, places = 331 := ⟨_, rfl⟩
  have unit : 2 * Double.unitsPerOne ≤ 10 ^ places := by
    rw [is]
    decide +kernel
  have digits : d.digits * 10 ^ places ≤ 10 ^ (-d.exponent).toNat := by
    calc
      d.digits * 10 ^ places ≤ 10 ^ (d.digits.log2 + 1) * 10 ^ places := by
        refine Nat.mul_le_mul_right _ (Nat.lt_log2_self.le.trans ?_)
        exact Nat.pow_le_pow_left (by decide) _
      _ = 10 ^ (d.digits.log2 + 1 + places) := (Nat.pow_add 10 _ _).symm
      _ ≤ 10 ^ (-d.exponent).toNat := Nat.pow_le_pow_right (by decide) (by omega)
  have whole : d.numerator = d.digits := by
    rw [numerator, show d.exponent.toNat = 0 by omega]
    exact Nat.mul_one _
  rw [whole, denominator, Nat.pow_eq] at least
  have product := Nat.mul_le_mul_left d.digits unit
  rw [Nat.mul_left_comm] at product
  omega

theorem toDouble_of_nearest {d : Decimal} {x : Double.Finite} (nonzero : x.significand ≠ 0)
    (rounded : Double.nearest x.negative d.numerator d.denominator = .finite x) :
    d.toDouble x.negative = .finite x := by
  have least := Double.lt_of_nearest d.denominator_pos rounded nonzero
  have positive := digits_pos least
  have notLarge := exponent_le positive (Double.nearest_lt d.denominator_pos rounded)
  have notSmall := le_exponent_add_log2 least
  -- so neither shortcut for exponents out of range is taken
  rw [toDouble, if_neg positive.ne', if_neg notLarge.not_gt, if_neg notSmall.not_gt, rounded]

end Decimal

namespace Double.Finite

variable {x : Finite}

/-- A neighbour on a grid stands on it, reads back to the value and is at most one step above it. -/
theorem onGrid?_eq_some {exponent : Int} {d : Decimal} (found : x.onGrid? exponent = some d) :
    d.exponent = exponent ∧ x.readsBack d = true ∧
      d.digits ≤ x.magnitude * 10 ^ (-exponent).toNat / (unitsPerOne * 10 ^ exponent.toNat) + 1 := by
  unfold onGrid? at found
  dsimp only at found
  split at found
  · next readsBelow readsAbove =>
    split at found
    · obtain rfl := Option.some.inj found
      exact ⟨rfl, readsBelow, Nat.le_succ _⟩
    · obtain rfl := Option.some.inj found
      exact ⟨rfl, readsAbove, Nat.le_refl _⟩
  · next readsBelow _ =>
    obtain rfl := Option.some.inj found
    exact ⟨rfl, readsBelow, Nat.le_succ _⟩
  · next _ readsAbove =>
    obtain rfl := Option.some.inj found
    exact ⟨rfl, readsAbove, Nat.le_refl _⟩
  · exact absurd found (by simp)

/-- The decimal before trailing zeros are taken off: a neighbour on one of 17 grids that reads back,
or the value itself. -/
theorem exists_candidate (x : Finite) : ∃ d : Decimal, x.shortest = d.stripped ∧
    (d = x.exactly ∨ ∃ place : Nat, place ≤ 16 ∧ d.exponent = x.leadingExponent - place ∧
      x.readsBack d = true ∧
      d.digits ≤ x.magnitude * 10 ^ (-d.exponent).toNat / (unitsPerOne * 10 ^ d.exponent.toNat) + 1) := by
  refine ⟨_, rfl, ?_⟩
  cases found : ((List.range 17).map fun (n : Nat) => x.leadingExponent - (n : Int)).findSome? x.onGrid? with
  | none => exact Or.inl rfl
  | some d =>
      obtain ⟨exponent, listed, onGrid⟩ := List.exists_of_findSome?_eq_some found
      obtain ⟨place, inside, rfl⟩ := List.mem_map.mp listed
      obtain ⟨stands, reads, near⟩ := onGrid?_eq_some onGrid
      rw [← stands] at near
      exact Or.inr ⟨place, by simpa [Nat.lt_succ_iff] using inside, stands, reads, near⟩

theorem exactly_ratio (x : Finite) : ∃ factor, 0 < factor ∧
    x.exactly.numerator = x.magnitude * factor ∧ x.exactly.denominator = unitsPerOne * factor := by
  have fives (places : Nat) : 0 < Nat.pow 5 places ∧
      Nat.pow 10 places = Nat.pow 2 places * Nat.pow 5 places :=
    ⟨Nat.pow_pos (by decide), Nat.mul_pow 2 5 places⟩
  obtain ⟨positive, power⟩ := fives (-x.exactly.exponent).toNat
  exact ⟨_, positive, Nat.mul_one _, power⟩

theorem nearest_shortest (nonzero : x.significand ≠ 0) :
    nearest x.negative x.shortest.numerator x.shortest.denominator = .finite x := by
  obtain ⟨d, is, source⟩ := exists_candidate x
  obtain ⟨factor, positive, top, bottom⟩ := d.reduces_strip d.digits.log2
  rw [is, Decimal.stripped, ← nearest_mul x.negative positive, ← top, ← bottom]
  rcases source with rfl | ⟨place, -, -, reads, -⟩
  · obtain ⟨factor, positive, top, bottom⟩ := exactly_ratio x
    rw [top, bottom, nearest_mul x.negative positive, nearest_magnitude]
  · exact Decimal.nearest_of_toDouble (of_decide_eq_true reads) nonzero

theorem magnitude_lt (x : Finite) :
    x.magnitude * 10 ^ (-(x.leadingExponent + 1)).toNat <
      unitsPerOne * 10 ^ (x.leadingExponent + 1).toNat := by
  unfold leadingExponent
  dsimp only
  split
  · next none =>
    have small : x.magnitude < unitsPerOne := by
      obtain empty | small := Nat.div_eq_zero_iff.mp none
      · exact absurd empty unitsPerOne_pos.ne'
      · exact small
    split
    · next place found =>
      obtain ⟨-, -, earlier⟩ := List.find?_range_eq_some.mp found
      rw [show (-(-((place : Int) + 1) + 1)).toNat = place by omega,
        show (-((place : Int) + 1) + 1).toNat = 0 by omega, Nat.pow_zero, Nat.mul_one]
      cases place with
      | zero => rwa [Nat.pow_zero, Nat.mul_one]
      | succ before => simpa using earlier before (Nat.lt_succ_self before)
    · exact Nat.mul_lt_mul_of_lt_of_le small (by decide) (by decide)
  · next whole =>
    have digits : (Nat.toDigits 10 (x.magnitude / unitsPerOne)).length ≠ 0 := by
      simp [Nat.toDigits_ne_nil]
    have bounded := (Nat.length_toDigits_le_iff (by decide) (Nat.pos_of_ne_zero digits)).mp (Nat.le_refl _)
    rw [Nat.div_lt_iff_lt_mul unitsPerOne_pos] at bounded
    rw [show ((Nat.toDigits 10 (x.magnitude / unitsPerOne)).length : Int) - 1 + 1 =
        (Nat.toDigits 10 (x.magnitude / unitsPerOne)).length by omega, Int.toNat_natCast,
      show (-((Nat.toDigits 10 (x.magnitude / unitsPerOne)).length : Int)).toNat = 0 by omega,
      Nat.pow_zero, Nat.mul_one, Nat.mul_comm unitsPerOne]
    exact bounded

/-- A shortest decimal that is no integer has at most 17 digits before it is reduced. -/
theorem digits_le {d : Decimal} {place : Nat} (few : place ≤ 16)
    (grid : d.exponent = x.leadingExponent - place) (fraction : d.exponent < 0)
    (near : d.digits ≤
      x.magnitude * 10 ^ (-d.exponent).toNat / (unitsPerOne * 10 ^ d.exponent.toNat) + 1) :
    d.digits ≤ 10 ^ 17 := by
  have leading := x.magnitude_lt
  obtain ⟨exponent, is⟩ : ∃ exponent, x.leadingExponent + 1 = exponent := ⟨_, rfl⟩
  rw [is] at leading
  have below : x.magnitude * 10 ^ (-d.exponent).toNat < unitsPerOne * 10 ^ 17 := by
    have places : (-d.exponent).toNat + exponent.toNat = place + 1 + (-exponent).toNat := by omega
    have scaled : x.magnitude * 10 ^ (-d.exponent).toNat * 10 ^ exponent.toNat <
        unitsPerOne * 10 ^ (place + 1) * 10 ^ exponent.toNat := by
      calc
        x.magnitude * 10 ^ (-d.exponent).toNat * 10 ^ exponent.toNat
          = x.magnitude * 10 ^ (-exponent).toNat * 10 ^ (place + 1) := by
            rw [Nat.mul_assoc, ← Nat.pow_add, places, Nat.pow_add, Nat.mul_comm (10 ^ (place + 1)),
              ← Nat.mul_assoc]
        _ < unitsPerOne * 10 ^ exponent.toNat * 10 ^ (place + 1) :=
            Nat.mul_lt_mul_of_pos_right leading (by positivity)
        _ = unitsPerOne * 10 ^ (place + 1) * 10 ^ exponent.toNat := Nat.mul_right_comm _ _ _
    refine Nat.lt_of_lt_of_le (Nat.lt_of_mul_lt_mul_right scaled) (Nat.mul_le_mul_left _ ?_)
    exact Nat.pow_le_pow_right (by decide) (by omega)
  have whole : unitsPerOne * 10 ^ d.exponent.toNat = unitsPerOne := by
    rw [show d.exponent.toNat = 0 by omega, pow_zero, Nat.mul_one]
  rw [whole] at near
  have small := Nat.div_lt_of_lt_mul below
  omega

end Double.Finite

theorem mkRat_num_le (numerator denominator : Nat) :
    (mkRat numerator denominator).num.natAbs ≤ numerator := by
  rcases Nat.eq_zero_or_pos denominator with rfl | positive
  · simp
  · obtain ⟨quotient, is⟩ : ∃ quotient, mkRat numerator denominator = quotient := ⟨_, rfl⟩
    obtain ⟨factor, nonzero, top, -⟩ := Rat.mkRat_num_den positive.ne' is
    rw [is, ← Int.natAbs_natCast numerator, top, Int.natAbs_mul, Int.natAbs_natCast]
    exact Nat.le_mul_of_pos_right _ (Nat.pos_of_ne_zero nonzero)

theorem mkRat_shifted_num_le {significand shift places : Nat}
    (fraction : (mkRat (significand * Nat.pow 2 shift : Nat) (Nat.pow 2 places)).den ≠ 1) :
    (mkRat (significand * Nat.pow 2 shift : Nat) (Nat.pow 2 places)).num.natAbs ≤ significand := by
  simp only [Nat.pow_eq] at fraction ⊢
  rcases Nat.le_total places shift with whole | part
  · obtain ⟨more, rfl⟩ := Nat.exists_eq_add_of_le' whole
    refine absurd ?_ fraction
    rw [Nat.pow_add, ← Nat.mul_assoc, mkRat_of_scaled (by positivity) (Int.natCast_mul _ _),
      Rat.den_intCast]
  · obtain ⟨more, rfl⟩ := Nat.exists_eq_add_of_le' part
    rw [Nat.pow_add, Int.natCast_mul, Rat.mkRat_mul_right (by positivity)]
    exact mkRat_num_le _ _

theorem Decimal.Reduces.mkRat_eq {long short : Decimal} (reduces : Reduces long short) :
    mkRat short.numerator short.denominator = mkRat long.numerator long.denominator := by
  obtain ⟨factor, positive, top, bottom⟩ := reduces
  rw [top, bottom, Int.natCast_mul, Rat.mkRat_mul_right positive.ne']

namespace Number

variable {x : Double.Finite} {value : Rat}

theorem decimalValue?_abs (decimal : (Number.float (.finite x)).decimalValue? = some value) :
    value.num.natAbs = (mkRat x.shortest.numerator x.shortest.denominator).num.natAbs ∧
      value.den = (mkRat x.shortest.numerator x.shortest.denominator).den := by
  obtain rfl := Option.some.inj decimal
  split
  · rw [← Rat.neg_mkRat]
    exact ⟨Int.natAbs_neg _, rfl⟩
  · exact ⟨rfl, rfl⟩

theorem nearest_decimalValue? (nonzero : x.significand ≠ 0)
    (decimal : (Number.float (.finite x)).decimalValue? = some value) :
    Double.nearest x.negative value.num.natAbs value.den = .finite x := by
  obtain ⟨top, bottom⟩ := decimalValue?_abs decimal
  rw [top, bottom, Double.nearest_mkRat _ _ x.shortest.denominator_pos,
    Double.Finite.nearest_shortest nonzero]

theorem numerator_le (decimal : (Number.float (.finite x)).decimalValue? = some value)
    (fraction : value.den ≠ 1) : value.num.natAbs ≤ 10 ^ 17 := by
  obtain ⟨top, bottom⟩ := decimalValue?_abs decimal
  rw [bottom] at fraction
  rw [top]
  obtain ⟨d, is, source⟩ := x.exists_candidate
  rw [is, Decimal.stripped, (d.reduces_strip d.digits.log2).mkRat_eq] at fraction ⊢
  rcases source with rfl | ⟨place, few, grid, -, near⟩
  · obtain ⟨factor, positive, top, bottom⟩ := x.exactly_ratio
    rw [top, bottom, Int.natCast_mul, Rat.mkRat_mul_right positive.ne'] at fraction ⊢
    rw [Double.Finite.magnitude, Double.unitsPerOne] at fraction ⊢
    exact (mkRat_shifted_num_le fraction).trans (x.significand_lt.le.trans (by decide))
  · have negative : d.exponent < 0 := by
      by_contra whole
      refine fraction ?_
      rw [Decimal.denominator, show (-d.exponent).toNat = 0 by omega]
      exact (Rat.den_eq_one_iff _).mpr (by simp [Rat.mkRat_one])
    refine (mkRat_num_le _ _).trans ?_
    rw [Decimal.numerator, show d.exponent.toNat = 0 by omega]
    exact (Nat.mul_one _).le.trans (Double.Finite.digits_le few grid negative near)

end Number

end SchemaMerge
