import SchemaMerge.Json.Decimal
import SchemaMerge.Proofs.Validity.Leaf

namespace SchemaMerge

namespace Double

theorem roundQuotient_mul {numerator denominator factor : Nat} (positive : 0 < factor) :
    roundQuotient (numerator * factor) (denominator * factor) =
      roundQuotient numerator denominator := by
  have twice : 2 * (numerator * factor % (denominator * factor)) =
      2 * (numerator % denominator) * factor := by
    rw [Nat.mul_mod_mul_right, Nat.mul_assoc]
  unfold roundQuotient
  simp only [twice, Nat.mul_div_mul_right _ _ positive, Nat.mul_lt_mul_right positive,
    Nat.mul_left_inj positive.ne']

/-- Only the quotient counts, and not how it is written. -/
theorem nearest_mul (negative : Bool) {numerator denominator factor : Nat}
    (positive : 0 < factor) :
    nearest negative (numerator * factor) (denominator * factor) =
      nearest negative numerator denominator := by
  have units : numerator * factor * unitsPerOne = numerator * unitsPerOne * factor :=
    Nat.mul_right_comm _ _ _
  have place (shift : Nat) : denominator * factor * Nat.pow 2 shift =
      denominator * Nat.pow 2 shift * factor := Nat.mul_right_comm _ _ _
  simp only [nearest, units, place, Nat.mul_div_mul_right _ _ positive,
    roundQuotient_mul positive]

theorem nearest_mkRat (negative : Bool) (numerator : Nat) {denominator : Nat}
    (positive : 0 < denominator) :
    nearest negative (mkRat numerator denominator).num.natAbs (mkRat numerator denominator).den =
      nearest negative numerator denominator := by
  obtain ⟨quotient, is⟩ : ∃ quotient, mkRat numerator denominator = quotient := ⟨_, rfl⟩
  obtain ⟨factor, nonzero, top, rfl⟩ := Rat.mkRat_num_den positive.ne' is
  have natural : numerator = quotient.num.natAbs * factor := by
    rw [← Int.natAbs_natCast numerator, top, Int.natAbs_mul, Int.natAbs_natCast]
  rw [is, natural, nearest_mul negative (Nat.pos_of_ne_zero nonzero)]

theorem ofParts_eq (x : Finite) : ofParts x.negative x.significand x.shift = .finite x := by
  rw [ofParts, dif_pos ⟨x.significand_lt, x.shift_le, x.normal⟩]

theorem log2_magnitude (x : Finite) : x.magnitude.log2 - 52 = x.shift := by
  have below := x.significand_lt
  have normal := x.normal
  simp only [Finite.magnitude, Nat.pow_eq] at below normal ⊢
  rcases normal with normal | plain
  · have positive : 0 < x.significand * 2 ^ x.shift := by positivity
    have exact : (x.significand * 2 ^ x.shift).log2 = 52 + x.shift := by
      rw [Nat.log2_eq_iff positive.ne', Nat.add_right_comm, Nat.pow_add, Nat.pow_add]
      exact ⟨Nat.mul_le_mul_right _ normal, Nat.mul_lt_mul_of_pos_right below (by positivity)⟩
    omega
  · rw [plain, Nat.pow_zero, Nat.mul_one]
    by_cases zero : x.significand = 0
    · rw [zero]
      rfl
    · have small := (Nat.log2_lt zero).mpr below
      omega

theorem nearest_magnitude (x : Finite) :
    nearest x.negative x.magnitude unitsPerOne = .finite x := by
  have whole : x.magnitude * unitsPerOne / unitsPerOne = x.magnitude :=
    Nat.mul_div_cancel _ unitsPerOne_pos
  have exact : roundQuotient (x.magnitude * unitsPerOne) (unitsPerOne * Nat.pow 2 x.shift) =
      x.significand := by
    have positive : 0 < Nat.pow 2 x.shift := Nat.pow_pos (by decide)
    rw [Nat.mul_comm unitsPerOne, roundQuotient_mul unitsPerOne_pos, roundQuotient, Finite.magnitude,
      Nat.mul_mod_left, Nat.mul_div_cancel _ positive]
    exact if_pos (Or.inl positive)
  have below := x.significand_lt
  simp only [nearest, whole, log2_magnitude, exact]
  rw [if_neg below.ne, ofParts_eq]

theorem lt_of_nearest {negative : Bool} {numerator denominator : Nat} {x : Finite}
    (positive : 0 < denominator) (rounded : nearest negative numerator denominator = .finite x)
    (nonzero : x.significand ≠ 0) : denominator < 2 * (numerator * unitsPerOne) := by
  by_contra small
  rw [Nat.not_lt] at small
  have none : numerator * unitsPerOne / denominator = 0 := Nat.div_eq_of_lt (by omega)
  have zero : roundQuotient (numerator * unitsPerOne) (denominator * Nat.pow 2 0) = 0 := by
    have place : denominator * Nat.pow 2 0 = denominator := Nat.mul_one _
    have twice : 2 * (numerator * unitsPerOne % denominator) ≤ denominator := by
      rwa [Nat.mod_eq_of_lt (by omega)]
    rw [place, roundQuotient, none]
    exact if_pos (by omega)
  simp only [nearest, none, Nat.log2_zero, Nat.zero_sub, zero] at rounded
  rw [if_neg (by decide), ofParts, dif_pos (by decide)] at rounded
  obtain rfl := Double.finite.inj rounded
  exact nonzero rfl

/-- What rounds to a finite double is less than the power of two past the largest. -/
theorem nearest_lt {negative : Bool} {numerator denominator : Nat} {x : Finite}
    (positive : 0 < denominator) (rounded : nearest negative numerator denominator = .finite x) :
    numerator < denominator * 2 ^ 1024 := by
  by_contra large
  rw [Nat.not_lt] at large
  obtain ⟨bits, is⟩ : ∃ bits, bits = 1024 := ⟨_, rfl⟩
  rw [← is] at large
  have power : 2 ^ (bits + 1074) = 2 ^ bits * unitsPerOne := by
    unfold unitsPerOne
    generalize 1074 = places
    exact Nat.pow_add 2 bits places
  have units : 2 ^ (bits + 1074) ≤ numerator * unitsPerOne / denominator := by
    rw [Nat.le_div_iff_mul_le positive]
    calc
      2 ^ (bits + 1074) * denominator = denominator * 2 ^ bits * unitsPerOne := by
        rw [power, Nat.mul_comm, ← Nat.mul_assoc]
      _ ≤ numerator * unitsPerOne := Nat.mul_le_mul_right _ large
  have shifted : bits + 1074 ≤ (numerator * unitsPerOne / denominator).log2 :=
    (Nat.le_log2 (Nat.ne_of_gt (Nat.lt_of_lt_of_le (Nat.two_pow_pos _) units))).mpr units
  simp only [nearest] at rounded
  split at rounded
  · rw [ofParts, dif_neg (by omega)] at rounded
    cases rounded
  · rw [ofParts, dif_neg (by omega)] at rounded
    cases rounded

theorem roundQuotient_bounds (numerator denominator : Nat) :
    numerator / denominator ≤ roundQuotient numerator denominator ∧
      roundQuotient numerator denominator ≤ numerator / denominator + 1 := by
  unfold roundQuotient
  dsimp only
  split <;> omega

theorem roundQuotient_pos {numerator denominator : Nat} (least : denominator < 2 * numerator) :
    0 < roundQuotient numerator denominator := by
  unfold roundQuotient
  dsimp only
  split
  · next down =>
    by_contra none
    obtain empty | small := Nat.div_eq_zero_iff.mp (Nat.eq_zero_of_not_pos none)
    · rw [empty, Nat.mod_zero] at down
      omega
    · rw [Nat.mod_eq_of_lt small] at down
      omega
  · exact Nat.succ_pos _

theorem shift_bounds (whole : Nat) :
    whole / 2 ^ (whole.log2 - 52) < 2 ^ 53 ∧
      (2 ^ 52 ≤ whole / 2 ^ (whole.log2 - 52) ∨ whole.log2 - 52 = 0) := by
  have positive : 0 < 2 ^ (whole.log2 - 52) := by positivity
  constructor
  · rw [Nat.div_lt_iff_lt_mul positive, ← Nat.pow_add]
    exact Nat.lt_of_lt_of_le Nat.lt_log2_self (Nat.pow_le_pow_right (by decide) (by omega))
  · by_cases small : whole.log2 ≤ 52
    · exact Or.inr (by omega)
    · refine Or.inl ((Nat.le_div_iff_mul_le positive).mpr ?_)
      have nonzero : whole ≠ 0 := by
        rintro rfl
        exact small (by decide)
      rw [← Nat.pow_add, show 52 + (whole.log2 - 52) = whole.log2 by omega]
      exact Nat.log2_self_le nonzero

theorem ofParts_eq_finite (negative : Bool) {significand shift : Nat} (nonzero : significand ≠ 0)
    (below : significand < 2 ^ 53) (range : shift ≤ 2045) (normal : 2 ^ 52 ≤ significand ∨ shift = 0) :
    ∃ x : Finite, ofParts negative significand shift = .finite x ∧ x.negative = negative ∧
      x.significand ≠ 0 :=
  ⟨⟨negative, significand, shift, below, range, normal⟩, dif_pos ⟨below, range, normal⟩, rfl, nonzero⟩

theorem scaled_lt {numerator bits : Nat} (most : numerator < 2 ^ bits) :
    numerator * unitsPerOne < 2 ^ (bits + 1074) := by
  rw [Nat.pow_add, unitsPerOne, Nat.pow_eq]
  exact Nat.mul_lt_mul_of_pos_right most (Nat.two_pow_pos _)

theorem nearest_eq_finite (negative : Bool) {numerator denominator bits : Nat}
    (least : denominator < 2 * (numerator * unitsPerOne)) (most : numerator < 2 ^ bits)
    (range : bits ≤ 1023) :
    ∃ x : Finite, nearest negative numerator denominator = .finite x ∧ x.negative = negative ∧
      x.significand ≠ 0 := by
  have scaled := scaled_lt most
  obtain ⟨units, product⟩ : ∃ units, numerator * unitsPerOne = units := ⟨_, rfl⟩
  rw [product] at least scaled
  have range : (units / denominator).log2 - 52 ≤ 2044 := by
    by_cases zero : units / denominator = 0
    · simp [zero]
    · have small := (Nat.log2_lt zero).mpr (Nat.lt_of_le_of_lt (Nat.div_le_self _ _) scaled)
      omega
  obtain ⟨below, normal⟩ := shift_bounds (units / denominator)
  simp only [nearest, product, Nat.pow_eq]
  obtain ⟨shift, shifted⟩ : ∃ shift, (units / denominator).log2 - 52 = shift := ⟨_, rfl⟩
  rw [shifted] at range below normal ⊢
  obtain ⟨lower, upper⟩ := roundQuotient_bounds units (denominator * 2 ^ shift)
  rw [← Nat.div_div_eq_div_mul] at lower upper
  have nonzero : roundQuotient units (denominator * 2 ^ shift) ≠ 0 := by
    rcases normal with normal | plain
    · exact (Nat.lt_of_lt_of_le (by positivity) (normal.trans lower)).ne'
    · rw [plain, Nat.pow_zero, Nat.mul_one]
      exact (roundQuotient_pos least).ne'
  split
  · exact ofParts_eq_finite negative (by positivity) (by decide) (by omega) (Or.inl (Nat.le_refl _))
  · next notFull =>
    refine ofParts_eq_finite negative nonzero ?_ (by omega) (normal.imp_left fun normal => normal.trans lower)
    exact Nat.lt_of_le_of_ne (upper.trans below) notFull

theorem roundQuotient_near (numerator : Nat) {denominator : Nat} (positive : 0 < denominator) :
    2 * (roundQuotient numerator denominator * denominator) ≤ 2 * numerator + denominator ∧
      2 * numerator ≤ 2 * (roundQuotient numerator denominator * denominator) + denominator := by
  have split := Nat.div_add_mod' numerator denominator
  have small := Nat.mod_lt numerator positive
  unfold roundQuotient
  dsimp only
  split
  · omega
  · rw [Nat.succ_mul (numerator / denominator)]
    omega

theorem ofParts_eq_ok {negative : Bool} {significand shift : Nat} {x : Finite}
    (made : ofParts negative significand shift = .finite x) :
    x.significand = significand ∧ x.shift = shift := by
  unfold ofParts at made
  split at made
  · obtain rfl := Double.finite.inj made
    exact ⟨rfl, rfl⟩
  · exact absurd made (by simp)

/-- A double is at most half a unit of its last place from what is rounded to it. -/
theorem nearest_near {negative : Bool} {numerator denominator : Nat} {x : Finite}
    (positive : 0 < denominator) (rounded : nearest negative numerator denominator = .finite x) :
    2 * (x.magnitude * denominator) ≤ 2 * (numerator * unitsPerOne) + denominator * 2 ^ x.shift ∧
      2 * (numerator * unitsPerOne) ≤ 2 * (x.magnitude * denominator) + denominator * 2 ^ x.shift := by
  simp only [nearest, Nat.pow_eq] at rounded
  generalize (numerator * unitsPerOne / denominator).log2 - 52 = shift at rounded
  have place : 0 < denominator * 2 ^ shift := Nat.mul_pos positive (Nat.two_pow_pos _)
  have near := roundQuotient_near (numerator * unitsPerOne) place
  generalize roundQuotient (numerator * unitsPerOne) (denominator * 2 ^ shift) = significand at rounded near
  have product : significand * (denominator * 2 ^ shift) = significand * 2 ^ shift * denominator := by ring
  rw [product, Nat.mul_comm denominator] at near
  rw [Nat.mul_comm denominator, Finite.magnitude, Nat.pow_eq]
  split at rounded
  · next full =>
    -- the significand is the next power of two, and one digit is shifted out
    obtain ⟨significands, shifts⟩ := ofParts_eq_ok rounded
    have shifted : 2 ^ 52 * 2 ^ (shift + 1) = significand * 2 ^ shift := by
      rw [full, ← Nat.pow_add, ← Nat.pow_add, Nat.add_comm shift, ← Nat.add_assoc]
    have wider : 2 ^ shift * denominator ≤ 2 ^ (shift + 1) * denominator :=
      Nat.mul_le_mul_right _ (Nat.pow_le_pow_right (by decide) (Nat.le_succ _))
    rw [significands, shifts, shifted]
    omega
  · obtain ⟨significands, shifts⟩ := ofParts_eq_ok rounded
    rwa [significands, shifts]

theorem Finite.cast_magnitude (x : Finite) : (x.magnitude : Rat) = x.significand * 2 ^ x.shift := by
  rw [Finite.magnitude, Nat.pow_eq]
  push_cast
  rfl

theorem units_pos : (0 : Rat) < unitsPerOne := by exact_mod_cast unitsPerOne_pos

theorem nonneg_of_units {value : Rat} (units : 0 ≤ value * unitsPerOne) : 0 ≤ value :=
  nonneg_of_mul_nonneg_left units units_pos

theorem natAbs_num {value : Rat} (nonnegative : 0 ≤ value) :
    (value.num.natAbs : Rat) = value * value.den := by
  rw [Rat.mul_den_eq_num, Nat.cast_natAbs, abs_of_nonneg (Rat.num_nonneg.mpr nonnegative)]

theorem nearest_num_near {negative : Bool} {value : Rat} {x : Finite} (nonnegative : 0 ≤ value)
    (rounded : nearest negative value.num.natAbs value.den = .finite x) :
    2 * (x.magnitude : Rat) ≤ 2 * (value * unitsPerOne) + 2 ^ x.shift ∧
      2 * (value * unitsPerOne) ≤ 2 * (x.magnitude : Rat) + 2 ^ x.shift := by
  obtain ⟨above, below⟩ := nearest_near value.den_pos rounded
  have positive : (0 : Rat) < value.den := by exact_mod_cast value.den_pos
  generalize unitsPerOne = units at above below ⊢
  have above : (2 * (x.magnitude * value.den) : Rat) ≤
      2 * (value.num.natAbs * units) + value.den * 2 ^ x.shift := by exact_mod_cast above
  have below : (2 * (value.num.natAbs * units) : Rat) ≤
      2 * (x.magnitude * value.den) + value.den * 2 ^ x.shift := by exact_mod_cast below
  rw [natAbs_num nonnegative] at above below
  constructor
  · apply le_of_mul_le_mul_right _ positive
    linarith
  · apply le_of_mul_le_mul_right _ positive
    linarith

end Double

end SchemaMerge
