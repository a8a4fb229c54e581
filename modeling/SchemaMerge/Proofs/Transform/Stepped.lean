import SchemaMerge.Proofs.Outcome
import SchemaMerge.Proofs.Transform.Visited

namespace SchemaMerge.OpenApi

open Schema

variable {members : Members} {result : Json} {keyword : String}

theorem allOf_yields {onlySingle : Bool} (made : Yields (Step.allOf onlySingle members) result) :
    (result = .object members ∧ ∀ schemas, members.get? "allOf" = some (.array schemas) →
      onlySingle = true ∧ 2 ≤ schemas.length) ∨
    (members.get? "allOf" = some (.array []) ∧ result = .object (members.erase "allOf")) ∨
    ∃ schemas, members.get? "allOf" = some (.array schemas) ∧
      meetAll "allOf" members schemas = .ok result := by
  unfold Step.allOf at made
  split at made
  · next absent =>
    refine Or.inl ⟨(yields_pure made).symm, fun schemas found => ?_⟩
    exact absurd (absent.symm.trans found) (by simp)
  · next found =>
    obtain ⟨_, _, made⟩ := yields_bind made
    exact Or.inr (Or.inl ⟨found, (yields_pure made).symm⟩)
  · next schemas _ found =>
    split at made
    · next several =>
      simp only [Bool.and_eq_true, decide_eq_true_eq] at several
      refine Or.inl ⟨(yields_pure made).symm, fun items found' => ?_⟩
      obtain rfl := Json.array.inj (Option.some.inj (found.symm.trans found'))
      exact several
    · exact Or.inr (Or.inr ⟨schemas, found, yields_ofResult made⟩)
  · next value _ other found =>
    obtain ⟨_, _, made⟩ := yields_bind made
    refine Or.inl ⟨(yields_pure made).symm, fun items found' => ?_⟩
    exact absurd (Option.some.inj (found.symm.trans found')) (other items)

theorem alternatives_yields (made : Yields (Step.alternatives keyword members) result) :
    (result = .object members ∧ ∀ schemas, members.get? keyword = some (.array schemas) →
      schemas = []) ∨
    ∃ single, members.get? keyword = some (.array [single]) ∧
      meetAll keyword members [single] = .ok result := by
  unfold Step.alternatives at made
  split at made
  · next absent =>
    refine Or.inl ⟨(yields_pure made).symm, fun schemas found => ?_⟩
    exact absurd (absent.symm.trans found) (by simp)
  · next empty =>
    obtain ⟨_, _, made⟩ := yields_bind made
    refine Or.inl ⟨(yields_pure made).symm, fun schemas found => ?_⟩
    exact (Json.array.inj (Option.some.inj (empty.symm.trans found))).symm
  · next single found => exact Or.inr ⟨single, found, yields_ofResult made⟩
  · exact (not_yields_throw made).elim
  · next value _ _ other found =>
    obtain ⟨_, _, made⟩ := yields_bind made
    refine Or.inl ⟨(yields_pure made).symm, fun items found' => ?_⟩
    exact absurd (Option.some.inj (found.symm.trans found')) (other items)

theorem applyCombinator_yields {combinator : Combinator}
    (made : Yields (applyCombinator combinator members) result) :
    result = .object members ∨ combinator.merge members = .ok result := by
  unfold applyCombinator at made
  split at made
  · dsimp only at made
    split at made
    · obtain ⟨_, _, made⟩ := yields_bind made
      exact Or.inl (yields_pure made).symm
    · exact Or.inl (yields_pure made).symm
  · split at made
    · exact Or.inl (yields_pure made).symm
    · unfold tryMerge at made
      split at made
      · next merged done =>
        rw [← yields_pure made]
        exact Or.inr done
      · split at made
        · obtain ⟨_, _, made⟩ := yields_bind made
          exact Or.inl (yields_pure made).symm
        · exact (not_yields_throw made).elim
  · exact Or.inl (yields_pure made).symm

theorem applyCombinators_keeps (holds : Json → Prop) {combinators : List Combinator}
    (kept : ∀ combinator ∈ combinators, ∀ {members result}, combinator.merge members = .ok result →
      holds (.object members) → holds result)
    {schema result : Json} (made : Yields (applyCombinators combinators schema) result)
    (own : holds schema) : holds result := by
  induction combinators generalizing schema with
  | nil => rwa [← yields_pure made]
  | cons combinator rest ih =>
      obtain ⟨head, tail⟩ := List.forall_mem_cons.mp kept
      cases schema with
      | object members =>
          obtain ⟨middle, done, made⟩ := yields_bind made
          refine ih tail made ?_
          rcases applyCombinator_yields done with rfl | merged
          · exact own
          · exact head merged own
      | _ => rwa [← yields_pure made]

/-- What a list of schemas is merged by, if it is merged at all. -/
theorem merge_eq_ok {skipAllOf skipAnyOf skipOneOf : Skip} {combinator : Combinator}
    (inside : combinator ∈ combinators skipAllOf skipAnyOf skipOneOf)
    (made : combinator.merge members = .ok result) :
    result = .object members ∨ ∃ schemas, members.get? combinator.keyword = some (.array schemas) ∧
      meetAll combinator.keyword members schemas = .ok result ∧
      (combinator.keyword = "allOf" ∨ ∃ single, schemas = [single]) := by
  have single {keyword : String} {failure : Failure}
      (made : mergeSingle keyword failure members = .ok result) :
      result = .object members ∨ ∃ single, members.get? keyword = some (.array [single]) ∧
        meetAll keyword members [single] = .ok result := by
    unfold mergeSingle at made
    split at made
    · next single found => exact Or.inr ⟨single, found, made⟩
    · cases made
    · exact Or.inl (Except.ok.inj made).symm
  simp only [combinators, List.mem_cons, List.not_mem_nil, or_false] at inside
  rcases inside with rfl | rfl | rfl
  · change mergeAllOf members = .ok result at made
    unfold mergeAllOf at made
    split at made
    · next found => exact Or.inr ⟨_, found, made, Or.inl rfl⟩
    · exact Or.inl (Except.ok.inj made).symm
  · exact (single made).imp id fun ⟨schema, found, made⟩ => ⟨_, found, made, Or.inr ⟨schema, rfl⟩⟩
  · exact (single made).imp id fun ⟨schema, found, made⟩ => ⟨_, found, made, Or.inr ⟨schema, rfl⟩⟩

theorem subschemas_keeps (holds : Json → Prop) {skipAllOf skipAnyOf skipOneOf : Skip}
    (met : ∀ {keyword : String} {members : Members} {schemas : List Json} {result : Json},
      keyword ∈ ["allOf", "anyOf", "oneOf"] → members.get? keyword = some (.array schemas) →
      (keyword = "allOf" ∨ ∃ single, schemas = [single]) → meetAll keyword members schemas = .ok result →
      holds (.object members) → holds result)
    (made : Yields (Step.subschemas skipAllOf skipAnyOf skipOneOf members) result)
    (own : holds (.object members)) : holds result := by
  refine applyCombinators_keeps holds (fun combinator inside {members result} merged own => ?_) made own
  rcases merge_eq_ok inside merged with rfl | ⟨schemas, found, merged, single⟩
  · exact own
  · refine met ?_ found single merged own
    simp only [combinators, List.mem_cons, List.not_mem_nil, or_false] at inside
    rcases inside with rfl | rfl | rfl <;> simp

end SchemaMerge.OpenApi
