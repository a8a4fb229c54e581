import Mathlib.Data.List.Forall2
import SchemaMerge.Schema.Basic

namespace SchemaMerge

instance decidableEqOutcome {ε α : Type} [DecidableEq ε] [DecidableEq α] : DecidableEq (Except ε α)
  | .ok value, .ok result => decidable_of_iff (value = result) (by simp)
  | .error failure, .error other => decidable_of_iff (failure = other) (by simp)
  | .ok _, .error _ => isFalse (by simp)
  | .error _, .ok _ => isFalse (by simp)

variable {ε α β : Type}

theorem bind_eq_ok {action : Except ε α} {next : α → Except ε β} {result : β} :
    (action >>= next) = .ok result ↔ ∃ value, action = .ok value ∧ next value = .ok result := by
  cases action with
  | error failure => simp [bind, Except.bind]
  | ok value => simp [bind, Except.bind]

@[simp] theorem pure_eq_ok {value result : α} :
    (pure value : Except ε α) = .ok result ↔ value = result := by
  simp [pure, Except.pure]

@[simp] theorem throw_eq_ok {failure : ε} {result : α} :
    (throw failure : Except ε α) = .ok result ↔ False := by
  simp [throw, throwThe, MonadExceptOf.throw]

theorem bind_eq_error {action : Except ε α} {next : α → Except ε β} {failure : ε} :
    (action >>= next) = .error failure ↔
      action = .error failure ∨ ∃ value, action = .ok value ∧ next value = .error failure := by
  cases action with
  | error reason => simp [bind, Except.bind]
  | ok value => simp [bind, Except.bind]

@[simp] theorem pure_eq_error {value : α} {failure : ε} :
    (pure value : Except ε α) = .error failure ↔ False := by
  simp [pure, Except.pure]

@[simp] theorem throw_eq_error {reason failure : ε} :
    (throw reason : Except ε α) = .error failure ↔ reason = failure := by
  simp [throw, throwThe, MonadExceptOf.throw]

theorem finitely_eq_ok {action : Except Double α} {result : α} :
    Schema.finitely action = .ok result ↔ action = .ok result := by
  cases action <;> simp [Schema.finitely, Except.mapError]

theorem finitely_eq_error {action : Except Double α} {failure : Failure} :
    Schema.finitely action = .error failure ↔
      ∃ double, action = .error double ∧ failure = .notFinite double := by
  cases action <;> simp [Schema.finitely, Except.mapError, eq_comm]

theorem asArray_eq_ok {keyword : String} {value : Json} {items : List Json} :
    Schema.asArray keyword value = .ok items ↔ value = .array items := by
  cases value <;> simp [Schema.asArray]

theorem asArray_eq_error {keyword : String} {value : Json} {failure : Failure} :
    Schema.asArray keyword value = .error failure ↔
      (∀ items, value ≠ .array items) ∧ failure = .notArray keyword none value := by
  cases value <;> simp [Schema.asArray, eq_comm]

theorem asArray_bind {keyword : String} {items : List Json} {next : List Json → Except Failure β} :
    (Schema.asArray keyword (.array items) >>= next) = next items := rfl

theorem mapM_eq_ok {action : α → Except ε β} {items : List α} {results : List β}
    (made : items.mapM action = .ok results) :
    List.Forall₂ (fun item result => action item = .ok result) items results := by
  induction items generalizing results with
  | nil =>
      rw [List.mapM_nil, pure_eq_ok] at made
      subst made
      exact .nil
  | cons item rest ih =>
      rw [List.mapM_cons] at made
      obtain ⟨first, done, made⟩ := bind_eq_ok.mp made
      obtain ⟨others, doneRest, made⟩ := bind_eq_ok.mp made
      rw [pure_eq_ok] at made
      subst made
      exact .cons done (ih doneRest)

theorem exists_of_mem_right {relation : α → β → Prop} {items : List α} {others : List β}
    (related : List.Forall₂ relation items others) {other : β} (inside : other ∈ others) :
    ∃ item ∈ items, relation item other := by
  induction related with
  | nil => exact absurd inside (by simp)
  | cons head _ ih =>
      rcases List.mem_cons.mp inside with rfl | inside
      · exact ⟨_, by simp, head⟩
      · obtain ⟨item, listed, holds⟩ := ih inside
        exact ⟨item, List.mem_cons_of_mem _ listed, holds⟩

theorem mapM_eq_error {action : α → Except ε β} {items : List α} {failure : ε}
    (failed : items.mapM action = .error failure) : ∃ item ∈ items, action item = .error failure := by
  induction items with
  | nil => exact absurd failed (by simp)
  | cons item rest ih =>
      rw [List.mapM_cons] at failed
      rcases bind_eq_error.mp failed with failed | ⟨first, -, failed⟩
      · exact ⟨item, by simp, failed⟩
      · rcases bind_eq_error.mp failed with failed | ⟨others, -, failed⟩
        · obtain ⟨other, inside, failed⟩ := ih failed
          exact ⟨other, List.mem_cons_of_mem _ inside, failed⟩
        · exact absurd failed (by simp)

theorem foldlM_keeps (holds : β → Prop) {step : β → α → Except ε β} {items : List α}
    {start result : β} (made : items.foldlM step start = .ok result)
    (kept : ∀ item ∈ items, ∀ {reached next}, step reached item = .ok next → holds reached → holds next)
    (begins : holds start) : holds result := by
  induction items generalizing start with
  | nil =>
      obtain rfl := pure_eq_ok.mp made
      exact begins
  | cons item rest ih =>
      rw [List.foldlM_cons] at made
      obtain ⟨next, done, made⟩ := bind_eq_ok.mp made
      obtain ⟨head, tail⟩ := List.forall_mem_cons.mp kept
      exact ih made tail (head done begins)

/-- A fold fails at one item, after it went through those before it. -/
theorem foldlM_eq_error {step : β → α → Except ε β} {items : List α} {start : β} {failure : ε}
    (failed : items.foldlM step start = .error failure) :
    ∃ before item rest reached, items = before ++ item :: rest ∧
      before.foldlM step start = .ok reached ∧ step reached item = .error failure := by
  induction items generalizing start with
  | nil => exact absurd failed (by simp)
  | cons item rest ih =>
      rw [List.foldlM_cons] at failed
      rcases bind_eq_error.mp failed with failed | ⟨next, done, failed⟩
      · exact ⟨[], item, rest, start, rfl, rfl, failed⟩
      · obtain ⟨before, other, after, reached, rfl, reaches, failed⟩ := ih failed
        refine ⟨item :: before, other, after, reached, rfl, ?_, failed⟩
        rw [List.foldlM_cons]
        exact bind_eq_ok.mpr ⟨next, done, reaches⟩

end SchemaMerge
