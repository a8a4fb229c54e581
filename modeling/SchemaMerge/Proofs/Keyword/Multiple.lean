import SchemaMerge.Proofs.Keyword.Number
import SchemaMerge.Proofs.Validity.WellFormed

namespace SchemaMerge

namespace Number

theorem value?_pos {number : Number} {exact : Rat} (positive : (Number.int 0).lt number = true)
    (value : number.value? = some exact) : 0 < exact := by
  have zero : (Number.int 0).position? = some (0, 0) := by
    rw [position?, zero_mul]
  cases number with
  | int integer =>
      obtain rfl := Option.some.inj value
      have scaled := (lt_iff (y := integer * Double.unitsPerOne) zero rfl).mp positive
      have units : (0 : Int) < Double.unitsPerOne := by exact_mod_cast Double.unitsPerOne_pos
      exact_mod_cast (mul_pos_iff_of_pos_right units).mp scaled
  | float double =>
      cases double with
      | finite double =>
          obtain rfl := Option.some.inj value
          have units := (lt_iff (y := double.units) zero rfl).mp positive
          exact Rat.mkRat_pos units Double.unitsPerOne_pos.ne'
      | infinity negative => simp [value?] at value
      | nan => simp [value?] at value

theorem isWhole_iff {number : Number} :
    number.isWhole = true ↔ ∃ whole : Rat,
      number.value? = some whole ∧ number.decimalValue? = some whole ∧ whole.den = 1 := by
  unfold isWhole
  split
  · next exact written value decimal =>
    rw [Bool.and_eq_true, decide_eq_true_iff, decide_eq_true_iff]
    constructor
    · rintro ⟨rfl, integer⟩
      exact ⟨exact, value, decimal, integer⟩
    · rintro ⟨whole, value', decimal', integer⟩
      obtain rfl := Option.some.inj (value.symm.trans value')
      obtain rfl := Option.some.inj (decimal.symm.trans decimal')
      exact ⟨rfl, integer⟩
  · next missing =>
    constructor
    · intro wrong
      exact absurd wrong (by simp)
    · rintro ⟨whole, value, decimal, -⟩
      exact absurd decimal (missing whole whole value)

end Number

namespace Schema

theorem isMultiple_iff {first second : Rat} (nonzero : second ≠ 0) :
    isMultiple first second = true ↔ ∃ times : Int, first = times * second := by
  rw [isMultiple, decide_eq_true_iff, Rat.den_eq_one_iff]
  constructor
  · intro whole
    exact ⟨(first / second).num, by rw [whole, div_mul_cancel₀ _ nonzero]⟩
  · rintro ⟨times, rfl⟩
    rw [mul_div_cancel_right₀ _ nonzero, Rat.num_intCast]

theorem isMultiple_trans {first second third : Rat} (nonzero : second ≠ 0) (nonzero' : third ≠ 0)
    (multiple : isMultiple first second = true) (multiple' : isMultiple second third = true) :
    isMultiple first third = true := by
  obtain ⟨times, rfl⟩ := (isMultiple_iff nonzero).mp multiple
  obtain ⟨times', is⟩ := (isMultiple_iff nonzero').mp multiple'
  exact (isMultiple_iff nonzero').mpr ⟨times * times', by rw [is]; push_cast; ring⟩

theorem commonMultiple_natCast (first second : Nat) :
    commonMultiple first second = (first.lcm second : Nat) := by
  simp [commonMultiple, Rat.mkRat_one]

section fractions

variable {first second : Rat}

/-- In lowest terms, the numerator of a multiple is a multiple, and its denominator divides. -/
theorem isMultiple_iff_dvd (positive : 0 < second) : isMultiple first second = true ↔
    second.num.natAbs ∣ first.num.natAbs ∧ first.den ∣ second.den := by
  rw [isMultiple_iff positive.ne']
  constructor
  · rintro ⟨times, is⟩
    have crossed : first.num * second.den = times * second.num * first.den := by
      have exact : (first.num : Rat) * second.den = times * second.num * first.den := by
        rw [← Rat.mul_den_eq_num first, ← Rat.mul_den_eq_num second, is]
        ring
      exact_mod_cast exact
    have natural : first.num.natAbs * second.den = times.natAbs * second.num.natAbs * first.den := by
      simpa [Int.natAbs_mul] using congrArg Int.natAbs crossed
    constructor
    · apply second.reduced.dvd_of_dvd_mul_right
      exact ⟨times.natAbs * first.den, by rw [natural]; ring⟩
    · apply first.reduced.symm.dvd_of_dvd_mul_left
      exact ⟨times.natAbs * second.num.natAbs, by rw [natural]; ring⟩
  · rintro ⟨top, factor, bottom⟩
    obtain ⟨quotient, top⟩ := Int.natAbs_dvd_natAbs.mp top
    refine ⟨quotient * factor, ?_⟩
    have nonzero : (first.den : Rat) ≠ 0 := by exact_mod_cast first.den_nz
    have nonzero' : (second.den : Rat) ≠ 0 := by exact_mod_cast second.den_nz
    have numerator : (first.num : Rat) = second.num * quotient := by exact_mod_cast top
    have denominator : (second.den : Rat) = first.den * factor := by exact_mod_cast bottom
    apply mul_right_cancel₀ nonzero'
    calc first * second.den = first * first.den * factor := by rw [denominator]; ring
      _ = second.num * quotient * factor := by rw [Rat.mul_den_eq_num, numerator]
      _ = ((quotient * factor : Int) : Rat) * second * second.den := by
        rw [← Rat.mul_den_eq_num second]
        push_cast
        ring

theorem num_natAbs_pos (positive : 0 < first) : 0 < first.num.natAbs :=
  Int.natAbs_pos.mpr (Rat.num_pos.mpr positive).ne'

theorem commonMultiple_pos (positive : 0 < first) (positive' : 0 < second) :
    0 < commonMultiple first second := by
  have common := Nat.lcm_pos (num_natAbs_pos positive) (num_natAbs_pos positive')
  exact Rat.mkRat_pos (Int.natCast_pos.mpr common) (Nat.gcd_pos_of_pos_left _ first.den_pos).ne'

theorem commonMultiple_terms (first second : Rat) :
    (commonMultiple first second).num.natAbs = first.num.natAbs.lcm second.num.natAbs ∧
      (commonMultiple first second).den = first.den.gcd second.den := by
  obtain ⟨top, isTop⟩ : ∃ top, first.num.natAbs.lcm second.num.natAbs = top := ⟨_, rfl⟩
  obtain ⟨bottom, isBottom⟩ : ∃ bottom, first.den.gcd second.den = bottom := ⟨_, rfl⟩
  have divisor : (0 : Int) < bottom := by
    rw [← isBottom, Int.natCast_pos]
    exact Nat.gcd_pos_of_pos_left _ first.den_pos
  have coprime : (top : Int).natAbs.Coprime (bottom : Int).natAbs := by
    rw [Int.natAbs_natCast, Int.natAbs_natCast, ← isTop, ← isBottom]
    apply Nat.Coprime.coprime_dvd_left (Nat.lcm_dvd_mul _ _)
    apply Nat.Coprime.mul_left
    · exact first.reduced.coprime_dvd_right (Nat.gcd_dvd_left _ _)
    · exact second.reduced.coprime_dvd_right (Nat.gcd_dvd_right _ _)
  have quotient : commonMultiple first second = (top : Int) / (bottom : Int) := by
    rw [commonMultiple, isTop, isBottom, Rat.mkRat_eq_div, Int.cast_natCast, Int.cast_natCast]
  rw [isTop, isBottom, quotient]
  constructor
  · rw [Rat.num_div_eq_of_coprime divisor coprime, Int.natAbs_natCast]
  · exact_mod_cast Rat.den_div_eq_of_coprime divisor coprime

theorem isMultiple_commonMultiple (positive : 0 < first) (positive' : 0 < second) (number : Rat) :
    isMultiple number (commonMultiple first second) =
      (isMultiple number first && isMultiple number second) := by
  obtain ⟨top, bottom⟩ := commonMultiple_terms first second
  rw [Bool.eq_iff_iff, Bool.and_eq_true, isMultiple_iff_dvd (commonMultiple_pos positive positive'), isMultiple_iff_dvd positive,
    isMultiple_iff_dvd positive', top, bottom, Nat.lcm_dvd_iff, Nat.dvd_gcd_iff]
  tauto

end fractions

theorem natCast_of_whole {whole : Rat} (integer : whole.den = 1) (positive : 0 < whole) :
    ∃ natural : Nat, 0 < natural ∧ whole = natural := by
  have exact := (Rat.den_eq_one_iff whole).mp integer
  have above : 0 < whole.num := Rat.num_pos.mpr positive
  have natural : ((whole.num.toNat : Nat) : Int) = whole.num := Int.toNat_of_nonneg above.le
  refine ⟨whole.num.toNat, by omega, ?_⟩
  calc
    whole = (whole.num : Rat) := exact.symm
    _ = ((whole.num.toNat : Nat) : Int) := by rw [natural]
    _ = (whole.num.toNat : Nat) := by norm_cast

theorem numberOf_natCast (natural : Nat) : numberOf natural = .int natural := by
  simp [numberOf]

variable {first second combined : Json}

theorem positive_eq_ok {value : Json} {number : Number} (made : positive value = .ok number) :
    value = .number number ∧ (Number.int 0).lt number = true := by
  unfold positive at made
  split at made
  · next other =>
    split at made
    · next above =>
      obtain rfl := Except.ok.inj made
      exact ⟨rfl, above⟩
    · exact absurd made (by simp)
  · exact absurd made (by simp)

theorem decimalValue_eq_ok {number : Number} {rational : Rat}
    (made : decimalValue number = .ok rational) : number.decimalValue? = some rational := by
  unfold decimalValue at made
  split at made
  · next value found => rw [found, Except.ok.inj made]
  · exact absurd made (by simp)

theorem multipleOf_eq_ite (made : multipleOf first second = .ok combined) :
    ∃ divisor divisor' x y, first = .number divisor ∧ second = .number divisor' ∧
      (Number.int 0).lt divisor = true ∧ (Number.int 0).lt divisor' = true ∧
      divisor.decimalValue? = some x ∧ divisor'.decimalValue? = some y ∧
      combined = if isMultiple x y then first else if isMultiple y x then second
        else .number (numberOf (commonMultiple x y)) := by
  obtain ⟨divisor, read, made⟩ := bind_eq_ok.mp made
  obtain ⟨divisor', read', made⟩ := bind_eq_ok.mp made
  obtain ⟨x, decimal, made⟩ := bind_eq_ok.mp made
  obtain ⟨y, decimal', made⟩ := bind_eq_ok.mp made
  obtain ⟨is, above⟩ := positive_eq_ok read
  obtain ⟨is', above'⟩ := positive_eq_ok read'
  refine ⟨divisor, divisor', x, y, is, is', above, above', decimalValue_eq_ok decimal,
    decimalValue_eq_ok decimal', ?_⟩
  split at made
  · next multiple => rw [if_pos multiple, Except.ok.inj made]
  · next notMultiple =>
    rw [if_neg notMultiple]
    split at made
    · next multiple => rw [if_pos multiple, Except.ok.inj made]
    · next notMultiple' => rw [if_neg notMultiple', Except.ok.inj made]

theorem multipleOf_eq_ok (made : multipleOf first second = .ok combined) :
    ∃ divisor divisor' x y, first = .number divisor ∧ second = .number divisor' ∧
      (Number.int 0).lt divisor = true ∧ (Number.int 0).lt divisor' = true ∧
      divisor.decimalValue? = some x ∧ divisor'.decimalValue? = some y ∧
      ((isMultiple x y = true ∧ combined = first) ∨ (isMultiple y x = true ∧ combined = second) ∨
        combined = .number (numberOf (commonMultiple x y))) := by
  obtain ⟨divisor, divisor', x, y, is, is', above, above', decimal, decimal', chosen⟩ :=
    multipleOf_eq_ite made
  refine ⟨divisor, divisor', x, y, is, is', above, above', decimal, decimal', ?_⟩
  split at chosen
  · next multiple => exact Or.inl ⟨multiple, chosen⟩
  · split at chosen
    · next multiple => exact Or.inr (Or.inl ⟨multiple, chosen⟩)
    · exact Or.inr (Or.inr chosen)

def holdsWhole : Json → Bool
  | .number number => number.isWhole
  | _ => false

theorem multipleOf_asksBoth (made : multipleOf first second = .ok combined)
    (whole : holdsWhole first = true) (whole' : holdsWhole second = true) :
    holdsWhole combined = true ∧ AsksBoth Leaf.multipleOf first second combined := by
  obtain ⟨divisor, divisor', x, y, rfl, rfl, above, above', decimal, decimal', cases⟩ :=
    multipleOf_eq_ok made
  obtain ⟨x', value, written, integer⟩ := Number.isWhole_iff.mp whole
  obtain ⟨y', value', written', integer'⟩ := Number.isWhole_iff.mp whole'
  obtain rfl := Option.some.inj (decimal.symm.trans written)
  obtain rfl := Option.some.inj (decimal'.symm.trans written')
  obtain ⟨n, positive, rfl⟩ := natCast_of_whole integer (Number.value?_pos above value)
  obtain ⟨m, positive', rfl⟩ := natCast_of_whole integer' (Number.value?_pos above' value')
  have nonzero : (n : Rat) ≠ 0 := by exact_mod_cast positive.ne'
  have nonzero' : (m : Rat) ≠ 0 := by exact_mod_cast positive'.ne'
  -- a value that is no number satisfies every divisor, and one that is not finite satisfies none
  have reads : ∀ {common : Number} {q : Rat}, common.value? = some q →
      (∀ number, isMultiple number q = (isMultiple number n && isMultiple number m)) →
      AsksBoth Leaf.multipleOf (.number divisor) (.number divisor') (.number common) := by
    intro common q is both other
    cases other with
    | number number =>
        simp only [Leaf.multipleOf, is, value, value']
        cases number.value? with
        | none => rfl
        | some exact => exact both exact
    | _ => rfl
  rcases cases with ⟨multiple, rfl⟩ | ⟨multiple, rfl⟩ | rfl
  · refine ⟨whole, reads value fun number => and_eq_left_of_imp fun times => ?_⟩
    exact isMultiple_trans nonzero nonzero' times multiple
  · refine ⟨whole', reads value' fun number => and_eq_right_of_imp fun times => ?_⟩
    exact isMultiple_trans nonzero' nonzero times multiple
  · rw [commonMultiple_natCast, numberOf_natCast]
    have common : (Number.int (n.lcm m : Nat)).value? = some ((n.lcm m : Nat) : Rat) := by
      simp [Number.value?]
    have written : (Number.int (n.lcm m : Nat)).decimalValue? = some ((n.lcm m : Nat) : Rat) := by
      simp [Number.decimalValue?]
    refine ⟨Number.isWhole_iff.mpr ⟨_, common, written, Rat.den_natCast _⟩,
      reads common fun number => ?_⟩
    rw [← commonMultiple_natCast]
    exact isMultiple_commonMultiple (Nat.cast_pos.mpr positive) (Nat.cast_pos.mpr positive') number

end Schema

end SchemaMerge
