import SchemaMerge.Proofs.Outcome
import SchemaMerge.Proofs.Validity.Leaf
import SchemaMerge.Schema.Keyword

namespace SchemaMerge

namespace Number

theorem position?_of_finite {number : Number} (finite : (Json.number number).isFinite = true) :
    ∃ units, number.position? = some (0, units) := by
  cases number with
  | int value => exact ⟨_, rfl⟩
  | float value =>
      cases value with
      | finite value => exact ⟨_, rfl⟩
      | infinity negative => simp [Json.isFinite, Json.nonFinite?, Double.isFinite] at finite
      | nan => simp [Json.isFinite, Json.nonFinite?, Double.isFinite] at finite

variable {first second : Number}

theorem lt_iff {x y : Int} (place : first.position? = some (0, x))
    (place' : second.position? = some (0, y)) : first.lt second = true ↔ x < y := by
  simp [lt, place, place']

theorem le_iff {x y : Int} (place : first.position? = some (0, x))
    (place' : second.position? = some (0, y)) : first.le second = true ↔ x ≤ y := by
  simp [le, place, place']

theorem int_lt_iff {x y : Int} : (Number.int x).lt (.int y) = true ↔ x < y := by
  rw [lt_iff rfl rfl]
  exact mul_lt_mul_iff_of_pos_right (Int.natCast_pos.mpr Double.unitsPerOne_pos)

theorem int_le_iff {x y : Int} : (Number.int x).le (.int y) = true ↔ x ≤ y := by
  rw [le_iff rfl rfl]
  exact mul_le_mul_iff_of_pos_right (Int.natCast_pos.mpr Double.unitsPerOne_pos)

theorem le_total (finite : (Json.number first).isFinite = true)
    (finite' : (Json.number second).isFinite = true) :
    second.lt first = !(first.le second) := by
  obtain ⟨x, place⟩ := position?_of_finite finite
  obtain ⟨y, place'⟩ := position?_of_finite finite'
  rw [Bool.eq_iff_iff, lt_iff place' place, Bool.not_eq_true', ← Bool.not_eq_true,
    le_iff place place', not_le]

theorem least_cases (finite : (Json.number first).isFinite = true)
    (finite' : (Json.number second).isFinite = true) :
    (first.least second = first ∧ first.le second = true) ∨
      (first.least second = second ∧ second.lt first = true) := by
  unfold least
  split
  · next less => exact Or.inr ⟨rfl, less⟩
  · next notLess =>
    rw [le_total finite finite'] at notLess
    exact Or.inl ⟨rfl, by simpa using notLess⟩

theorem greatest_cases (finite : (Json.number first).isFinite = true)
    (finite' : (Json.number second).isFinite = true) :
    (first.greatest second = first ∧ second.le first = true) ∨
      (first.greatest second = second ∧ first.lt second = true) := by
  unfold greatest
  split
  · next less => exact Or.inr ⟨rfl, less⟩
  · next notLess =>
    rw [le_total finite' finite] at notLess
    exact Or.inl ⟨rfl, by simpa using notLess⟩

theorem le_of_lt (less : first.lt second = true) : first.le second = true := by
  unfold lt at less
  unfold le
  split at less
  · next x y place place' =>
    simp only [decide_eq_true_eq] at less ⊢
    omega
  · exact absurd less (by simp)

theorem chain {third : Number} (less : first.le second = true) :
    (second.le third = true → first.le third = true) ∧
      (second.lt third = true → first.lt third = true) ∧
      (third.le first = true → third.le second = true) ∧
      (third.lt first = true → third.lt second = true) := by
  unfold le at less
  split at less
  · next x y place place' =>
    simp only [lt, le, place, place', decide_eq_true_eq] at less ⊢
    cases third.position? with
    | none => simp
    | some z =>
        simp only [decide_eq_true_eq]
        omega
  · exact absurd less (by simp)

end Number

namespace Schema

/-- An argument asks exactly what two others ask together. -/
def AsksBoth (reads : Json → Json → Bool) (first second combined : Json) : Prop :=
  ∀ value, reads combined value = (reads first value && reads second value)

theorem and_eq_left_of_imp {first second : Bool} (step : first = true → second = true) :
    first = (first && second) := (Bool.and_eq_left_iff_imp.mpr step).symm

theorem and_eq_right_of_imp {first second : Bool} (step : second = true → first = true) :
    second = (first && second) := (Bool.and_eq_right_iff_imp.mpr step).symm

namespace Keyword

open Leaf (limit atMost below atLeast above)

theorem asksBoth_limit (size? : Json → Option Number) {admits : Number → Number → Bool}
    {first second tighter : Number}
    (cases : (tighter = first ∧ ∀ size, admits first size = true → admits second size = true) ∨
      (tighter = second ∧ ∀ size, admits second size = true → admits first size = true)) :
    AsksBoth (limit size? admits) (.number first) (.number second) (.number tighter) := by
  intro value
  unfold limit
  cases size? value with
  | none => rfl
  | some size =>
      rcases cases with ⟨rfl, step⟩ | ⟨rfl, step⟩
      · exact and_eq_left_of_imp (step size)
      · exact and_eq_right_of_imp (step size)

variable {first second combined : Json}

theorem bound_eq_ok {side : Side} {value : Json} {number : Number}
    (made : Keyword.bound side value = .ok number) : value = .number number := by
  cases value <;> simp_all [Keyword.bound]

theorem upperBound_eq_ok (made : upperBound first second = .ok combined) :
    ∃ x y, first = .number x ∧ second = .number y ∧ combined = .number (x.least y) := by
  obtain ⟨x, read, made⟩ := bind_eq_ok.mp made
  obtain ⟨y, read', made⟩ := bind_eq_ok.mp made
  exact ⟨x, y, bound_eq_ok read, bound_eq_ok read', (pure_eq_ok.mp made).symm⟩

theorem lowerBound_eq_ok (made : lowerBound first second = .ok combined) :
    ∃ x y, first = .number x ∧ second = .number y ∧ combined = .number (x.greatest y) := by
  obtain ⟨x, read, made⟩ := bind_eq_ok.mp made
  obtain ⟨y, read', made⟩ := bind_eq_ok.mp made
  exact ⟨x, y, bound_eq_ok read, bound_eq_ok read', (pure_eq_ok.mp made).symm⟩

theorem upperBound_asksBoth (made : upperBound first second = .ok combined)
    (finite : first.isFinite = true) (finite' : second.isFinite = true)
    (size? : Json → Option Number) :
    AsksBoth (limit size? atMost) first second combined ∧
      AsksBoth (limit size? below) first second combined := by
  obtain ⟨x, y, rfl, rfl, rfl⟩ := upperBound_eq_ok made
  rcases Number.least_cases finite finite' with ⟨is, less⟩ | ⟨is, less⟩
  · have chain := fun size => @Number.chain _ _ size less
    exact ⟨asksBoth_limit size? (Or.inl ⟨is, fun size => (chain size).2.2.1⟩),
      asksBoth_limit size? (Or.inl ⟨is, fun size => (chain size).2.2.2⟩)⟩
  · have chain := fun size => @Number.chain _ _ size (Number.le_of_lt less)
    exact ⟨asksBoth_limit size? (Or.inr ⟨is, fun size => (chain size).2.2.1⟩),
      asksBoth_limit size? (Or.inr ⟨is, fun size => (chain size).2.2.2⟩)⟩

theorem lowerBound_asksBoth (made : lowerBound first second = .ok combined)
    (finite : first.isFinite = true) (finite' : second.isFinite = true)
    (size? : Json → Option Number) :
    AsksBoth (limit size? atLeast) first second combined ∧
      AsksBoth (limit size? above) first second combined := by
  obtain ⟨x, y, rfl, rfl, rfl⟩ := lowerBound_eq_ok made
  rcases Number.greatest_cases finite finite' with ⟨is, less⟩ | ⟨is, less⟩
  · have chain := fun size => @Number.chain _ _ size less
    exact ⟨asksBoth_limit size? (Or.inl ⟨is, fun size => (chain size).1⟩),
      asksBoth_limit size? (Or.inl ⟨is, fun size => (chain size).2.1⟩)⟩
  · have chain := fun size => @Number.chain _ _ size (Number.le_of_lt less)
    exact ⟨asksBoth_limit size? (Or.inr ⟨is, fun size => (chain size).1⟩),
      asksBoth_limit size? (Or.inr ⟨is, fun size => (chain size).2.1⟩)⟩

end Keyword

end Schema

end SchemaMerge
