import SchemaMerge.Proofs.Json.Shortest

/-!
Decimals of few digits. The doubles are closer together than the decimals of fifteen digits, so such
a decimal is the shortest one of the double that it is rounded to, unless that is below the normal
range.
-/

namespace SchemaMerge

open Double (unitsPerOne)

def Decimal.value (d : Decimal) : Rat := d.digits * 10 ^ d.exponent

theorem ten_zpow (exponent : Int) :
    (10 : Rat) ^ exponent * 10 ^ (-exponent).toNat = 10 ^ exponent.toNat := by
  rw [← zpow_natCast, ← zpow_natCast, ← zpow_add₀ (by norm_num)]
  congr 1
  omega

theorem ten_zpow_add (exponent : Int) (places : Nat) :
    (10 : Rat) ^ (exponent + places) = 10 ^ places * 10 ^ exponent := by
  rw [zpow_add₀ (by norm_num), zpow_natCast, mul_comm]

theorem lt_scaled_iff (count units : Nat) (exponent : Int) :
    count * 10 ^ (-exponent).toNat < units * 10 ^ exponent.toNat ↔
      (count : Rat) < units * 10 ^ exponent := by
  have positive : (0 : Rat) < 10 ^ (-exponent).toNat := by positivity
  rw [← mul_lt_mul_iff_left₀ positive, mul_assoc, ten_zpow]
  exact_mod_cast Iff.rfl

theorem scaled_le_iff (count units : Nat) (exponent : Int) :
    units * 10 ^ exponent.toNat ≤ count * 10 ^ (-exponent).toNat ↔
      units * (10 : Rat) ^ exponent ≤ count := by
  rw [← not_lt, lt_scaled_iff, not_lt]

namespace Decimal

theorem mkRat_eq_value (d : Decimal) : mkRat d.numerator d.denominator = d.value := by
  have positive : (0 : Rat) < 10 ^ (-d.exponent).toNat := by positivity
  rw [Rat.mkRat_eq_div, value, numerator, denominator, Nat.pow_eq, Nat.pow_eq]
  push_cast
  rw [← ten_zpow d.exponent, ← mul_assoc, mul_div_cancel_right₀ _ positive.ne']

theorem value_nonneg (d : Decimal) : 0 ≤ d.value := by
  unfold value
  positivity

theorem value_stripped (d : Decimal) : d.stripped.value = d.value := by
  rw [← mkRat_eq_value, ← mkRat_eq_value]
  exact (d.reduces_strip d.digits.log2).mkRat_eq

theorem exists_digits {d : Decimal} {exponent : Int} (finer : exponent ≤ d.exponent) :
    ∃ digits : Nat, d.value = (⟨digits, exponent⟩ : Decimal).value := by
  refine ⟨d.digits * 10 ^ (d.exponent - exponent).toNat, ?_⟩
  have places : exponent + (d.exponent - exponent).toNat = d.exponent := by omega
  rw [value, value, ← places, ten_zpow_add]
  push_cast
  rw [places]
  ring

/-- Two decimals with one power of ten are the same if they are less than one step apart. -/
theorem value_eq_of_near {digits digits' : Nat} {exponent : Int}
    (near : |(⟨digits, exponent⟩ : Decimal).value - (⟨digits', exponent⟩ : Decimal).value| < 10 ^ exponent) :
    digits = digits' := by
  have step : (0 : Rat) < 10 ^ exponent := by positivity
  rw [value, value, ← sub_mul, abs_mul, abs_of_pos step] at near
  have near : |(digits : Rat) - digits'| < 1 := by
    apply lt_of_mul_lt_mul_right _ step.le
    rwa [one_mul]
  have near : |(digits : Int) - digits'| < 1 := by exact_mod_cast near
  rw [Int.abs_lt_one_iff] at near
  omega

end Decimal

namespace Double.Finite

variable {x : Finite} {d : Decimal}

theorem nearest_value (negative : Bool) (d : Decimal) :
    nearest negative d.value.num.natAbs d.value.den = nearest negative d.numerator d.denominator := by
  rw [← d.mkRat_eq_value, nearest_mkRat _ _ d.denominator_pos]

theorem readsBack_iff (nonzero : x.significand ≠ 0) :
    x.readsBack d = true ↔ nearest x.negative d.value.num.natAbs d.value.den = .finite x := by
  rw [nearest_value, readsBack, decide_eq_true_iff]
  constructor
  · intro read
    exact Decimal.nearest_of_toDouble read nonzero
  · intro rounded
    exact Decimal.toDouble_of_nearest nonzero rounded

theorem readsBack_congr {d' : Decimal} (nonzero : x.significand ≠ 0) (same : d.value = d'.value)
    (reads : x.readsBack d = true) : x.readsBack d' = true := by
  rw [readsBack_iff nonzero] at reads ⊢
  rwa [← same]

theorem near_of_readsBack (nonzero : x.significand ≠ 0) (reads : x.readsBack d = true) :
    |d.value * unitsPerOne - x.magnitude| ≤ 2 ^ x.shift / 2 := by
  obtain ⟨above, below⟩ := nearest_num_near d.value_nonneg ((readsBack_iff nonzero).mp reads)
  rw [abs_le]
  constructor
  · linarith
  · linarith

theorem magnitude_pos (nonzero : x.significand ≠ 0) : 0 < x.magnitude :=
  Nat.mul_pos (Nat.pos_of_ne_zero nonzero) (Nat.pow_pos (by decide))

theorem le_magnitude (nonzero : x.significand ≠ 0) :
    unitsPerOne * 10 ^ x.leadingExponent.toNat ≤ x.magnitude * 10 ^ (-x.leadingExponent).toNat := by
  have positive := magnitude_pos nonzero
  unfold leadingExponent
  dsimp only
  split
  · split
    · next place found =>
      have reached := List.find?_some found
      rw [decide_eq_true_iff, Nat.pow_eq] at reached
      rw [show (-((place : Int) + 1)).toNat = 0 by omega,
        show (-(-((place : Int) + 1))).toNat = place + 1 by omega, Nat.pow_zero, Nat.mul_one]
      exact reached
    · next missing =>
      -- the least double is more than ten to the power of -324
      obtain ⟨places, is⟩ : ∃ places, places = 323 := ⟨_, rfl⟩
      have least : unitsPerOne ≤ 10 ^ (places + 1) := by
        rw [is]
        decide +kernel
      have reached := List.find?_eq_none.mp missing places (List.mem_range.mpr (by omega))
      rw [decide_eq_true_iff, Nat.pow_eq] at reached
      exact absurd (least.trans (Nat.le_mul_of_pos_left _ positive)) reached
  · next whole =>
    obtain ⟨length, is⟩ : ∃ length, (Nat.toDigits 10 (x.magnitude / unitsPerOne)).length = length + 1 :=
      Nat.exists_eq_succ_of_ne_zero (by simp [Nat.toDigits_ne_nil])
    have digits : 10 ^ length ≤ x.magnitude / unitsPerOne := by
      rcases Nat.eq_zero_or_pos length with rfl | more
      · exact Nat.pos_of_ne_zero whole
      · by_contra small
        have fits := (Nat.length_toDigits_le_iff (by decide) more).mpr (Nat.not_le.mp small)
        omega
    rw [is, show (((length + 1 : Nat) : Int) - 1).toNat = length by omega,
      show (-(((length + 1 : Nat) : Int) - 1)).toNat = 0 by omega, Nat.pow_zero, Nat.mul_one]
    calc
      unitsPerOne * 10 ^ length ≤ unitsPerOne * (x.magnitude / unitsPerOne) :=
        Nat.mul_le_mul_left _ digits
      _ ≤ x.magnitude := Nat.mul_div_le _ _

theorem place_le_magnitude (normal : 2 ^ 52 ≤ x.significand) :
    (2 : Rat) ^ 52 * 2 ^ x.shift ≤ x.magnitude := by
  rw [x.cast_magnitude]
  exact mul_le_mul_of_nonneg_right (by exact_mod_cast normal) (by positivity)

/-- In the normal range, the place of the last binary digit is less than that of the 15th decimal one. -/
theorem place_lt_step (normal : 2 ^ 52 ≤ x.significand) :
    (2 : Rat) ^ x.shift < unitsPerOne * 10 ^ (x.leadingExponent - 14) := by
  have leading := (lt_scaled_iff _ _ _).mp x.magnitude_lt
  have least := place_le_magnitude normal
  have place : (0 : Rat) < 2 ^ x.shift := by positivity
  rw [show x.leadingExponent + 1 = x.leadingExponent - 14 + (15 : Nat) by omega, ten_zpow_add] at leading
  generalize (unitsPerOne : Rat) = units at leading ⊢
  linarith

theorem le_exponent (normal : 2 ^ 52 ≤ x.significand) (few : d.digits < 10 ^ 15)
    (near : |d.value * unitsPerOne - x.magnitude| ≤ 2 ^ x.shift / 2) :
    x.leadingExponent - 14 ≤ d.exponent := by
  by_contra beyond
  obtain ⟨places, is⟩ : ∃ places : Nat, x.leadingExponent = d.exponent + (15 + places : Nat) :=
    ⟨(x.leadingExponent - d.exponent - 15).toNat, by omega⟩
  have nonzero : x.significand ≠ 0 := by omega
  have leading := (scaled_le_iff _ _ _).mp (le_magnitude nonzero)
  have least := place_le_magnitude normal
  have reaches := (abs_le.mp near).1
  rw [is, ten_zpow_add] at leading
  rw [Decimal.value, mul_assoc] at reaches
  obtain ⟨step, scaled⟩ : ∃ step, (10 : Rat) ^ d.exponent * unitsPerOne = step := ⟨_, rfl⟩
  have positive : 0 < step := by
    rw [← scaled]
    exact mul_pos (by positivity) units_pos
  have wide : 10 ^ 15 * step ≤ x.magnitude := by
    calc
      10 ^ 15 * step ≤ 10 ^ (15 + places) * step := by
        gcongr
        · norm_num
        · omega
      _ = unitsPerOne * (10 ^ (15 + places) * 10 ^ d.exponent) := by
        rw [← scaled]
        ring
      _ ≤ x.magnitude := leading
  have short : d.digits * step ≤ (10 ^ 15 - 1) * step := by
    gcongr
    rw [le_sub_iff_add_le]
    exact_mod_cast few
  rw [scaled] at reaches
  -- a step of the decimal is at most half a place, and the value has more than `10 ^ 15` places
  linarith

theorem onGrid?_ne_none {digits : Nat} {exponent : Int}
    (nonzero : x.significand ≠ 0) (coarse : (2 : Rat) ^ x.shift < unitsPerOne * 10 ^ exponent)
    (reads : x.readsBack ⟨digits, exponent⟩ = true) : x.onGrid? exponent ≠ none := by
  intro missing
  unfold onGrid? at missing
  dsimp only [Nat.pow_eq] at missing
  have neighbour : digits = x.magnitude * 10 ^ (-exponent).toNat / (unitsPerOne * 10 ^ exponent.toNat) ∨
      digits = x.magnitude * 10 ^ (-exponent).toNat / (unitsPerOne * 10 ^ exponent.toNat) + 1 := by
    have bottom : 0 < unitsPerOne * 10 ^ exponent.toNat := Nat.mul_pos unitsPerOne_pos (by positivity)
    have lower := Nat.mul_div_le (x.magnitude * 10 ^ (-exponent).toNat) (unitsPerOne * 10 ^ exponent.toNat)
    have upper := Nat.lt_mul_div_succ (x.magnitude * 10 ^ (-exponent).toNat) bottom
    generalize x.magnitude * 10 ^ (-exponent).toNat / (unitsPerOne * 10 ^ exponent.toNat) = quotient
      at lower upper ⊢
    rw [Nat.mul_right_comm, scaled_le_iff] at lower
    rw [Nat.mul_right_comm, lt_scaled_iff] at upper
    obtain ⟨above, below⟩ := abs_le.mp (near_of_readsBack nonzero reads)
    rw [Decimal.value] at above below
    generalize unitsPerOne = units at coarse lower upper above below
    push_cast at lower upper
    have place : (0 : Rat) < 2 ^ x.shift := by positivity
    have positive : (0 : Rat) ≤ units * 10 ^ exponent := by positivity
    have most : digits < quotient + 2 := by
      have scaled : (digits : Rat) * (units * 10 ^ exponent) < (quotient + 2) * (units * 10 ^ exponent) := by
        linarith
      exact_mod_cast lt_of_mul_lt_mul_right scaled positive
    have least : quotient < digits + 1 := by
      have scaled : (quotient : Rat) * (units * 10 ^ exponent) < (digits + 1) * (units * 10 ^ exponent) := by
        linarith
      exact_mod_cast lt_of_mul_lt_mul_right scaled positive
    omega
  split at missing
  · split at missing <;> cases missing
  · cases missing
  · cases missing
  · next notBelow notAbove =>
    rcases neighbour with rfl | rfl
    · exact absurd (reads.symm.trans notBelow) (by decide)
    · exact absurd (reads.symm.trans notAbove) (by decide)

theorem shortest_before (place : Nat) (inside : place < 17)
    (found : x.onGrid? (x.leadingExponent - place) ≠ none) :
    ∃ candidate, ∃ coarser : Nat, coarser ≤ place ∧
      x.onGrid? (x.leadingExponent - coarser) = some candidate ∧ x.shortest = candidate.stripped := by
  obtain ⟨candidate, searched⟩ : ∃ candidate,
      (List.range 17).findSome? (x.onGrid? ∘ fun (n : Nat) => x.leadingExponent - n) = some candidate := by
    rw [← Option.ne_none_iff_exists']
    intro missing
    exact found (List.findSome?_eq_none_iff.mp missing place (List.mem_range.mpr inside))
  refine ⟨candidate, ?_⟩
  obtain ⟨before, coarser, after, listed, onGrid, none⟩ := List.findSome?_eq_some_iff.mp searched
  refine ⟨coarser, ?_, onGrid, ?_⟩
  · have ordered := List.pairwise_lt_range (n := 17)
    have member := List.mem_range.mpr inside
    rw [listed] at ordered member
    rcases List.mem_append.mp member with earlier | later
    · exact absurd (none place earlier) found
    · rcases List.mem_cons.mp later with rfl | later
      · exact Nat.le_refl _
      · exact ((List.pairwise_cons.mp (List.pairwise_append.mp ordered).2.1).1 place later).le
  · unfold shortest
    dsimp only
    rw [List.findSome?_map, searched, Option.getD_some]

/-- In the normal range, a decimal of at most fifteen digits is the shortest one of what it reads back
to: the places are too close together for two decimals that read back on the grid of fifteen digits. -/
theorem value_shortest (normal : 2 ^ 52 ≤ x.significand) (few : d.digits < 10 ^ 15)
    (reads : x.readsBack d = true) : x.shortest.value = d.value := by
  have nonzero : x.significand ≠ 0 := by omega
  have coarse := place_lt_step normal
  have near := near_of_readsBack nonzero reads
  obtain ⟨digits, is⟩ := Decimal.exists_digits (le_exponent normal few near)
  have onGrid := onGrid?_ne_none nonzero coarse (readsBack_congr nonzero is reads)
  obtain ⟨candidate, coarser, before, found, shortest⟩ := shortest_before 14 (by decide) onGrid
  obtain ⟨stands, reads', -⟩ := onGrid?_eq_some found
  have near' := near_of_readsBack nonzero reads'
  have finer : x.leadingExponent - 14 ≤ candidate.exponent := by omega
  obtain ⟨digits', is'⟩ := Decimal.exists_digits finer
  have apart : |(⟨digits', x.leadingExponent - 14⟩ : Decimal).value -
      (⟨digits, x.leadingExponent - 14⟩ : Decimal).value| < 10 ^ (x.leadingExponent - 14) := by
    obtain ⟨above, below⟩ := abs_le.mp near
    obtain ⟨above', below'⟩ := abs_le.mp near'
    rw [← is, ← is', abs_lt]
    constructor
    · apply lt_of_mul_lt_mul_right _ units_pos.le
      linarith
    · apply lt_of_mul_lt_mul_right _ units_pos.le
      linarith
  rw [shortest, Decimal.value_stripped, is, is', Decimal.value_eq_of_near apart]

end Double.Finite

theorem Double.normal_of_nearest {negative : Bool} {value : Rat} {x : Finite}
    (normal : 2 ^ 52 ≤ value * unitsPerOne)
    (rounded : nearest negative value.num.natAbs value.den = .finite x) : 2 ^ 52 ≤ x.significand := by
  obtain ⟨-, below⟩ := nearest_num_near (nonneg_of_units (by linarith)) rounded
  rcases x.normal with full | least
  · exact full
  · rw [x.cast_magnitude, least, pow_zero, mul_one] at below
    have more : 2 ^ 53 < 2 * x.significand + 2 := by
      have scaled : (2 : Rat) ^ 53 < 2 * x.significand + 2 := by linarith
      exact_mod_cast scaled
    omega

theorem Number.decimalValue?_eq {x : Double.Finite} (sign : x.negative = false) :
    (Number.float (.finite x)).decimalValue? = some x.shortest.value := by
  rw [← Decimal.mkRat_eq_value, decimalValue?, sign]
  rfl

end SchemaMerge
