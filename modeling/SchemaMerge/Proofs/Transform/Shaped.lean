import SchemaMerge.Proofs.Meet.Exact
import SchemaMerge.Proofs.Transform.Stepped

namespace SchemaMerge.OpenApi

open Schema

theorem isSchema_of_meet {first second met : Json} (made : meet defaultDepth first second = .ok met) :
    isSchema met = true := by
  obtain ⟨⟨shaped, shaped'⟩, how⟩ := meetWithin_succ_eq_ok made
  cases how with
  | rejects => rfl
  | left => exact shaped
  | right => exact shaped'
  | same => exact shaped
  | merged => rfl

theorem isSchema_of_meetAll {keyword : String} {schema : Members} {schemas : List Json} {met : Json}
    (made : meetAll keyword schema schemas = .ok met) : isSchema met = true := by
  refine foldlM_keeps (isSchema · = true) made ?_ rfl
  intro schema _ reached next done _
  exact isSchema_of_meet done

def Shapes (step : Step) : Prop :=
  ∀ {schema result}, Yields (step schema) result → isSchema result = true

variable {step : Step} {place : Place}

theorem shapes_allOf (onlySingle : Bool) : Shapes (Step.allOf onlySingle) := by
  intro schema result made
  rcases allOf_yields made with ⟨rfl, -⟩ | ⟨-, rfl⟩ | ⟨schemas, -, made⟩
  · rfl
  · rfl
  · exact isSchema_of_meetAll made

theorem shapes_alternatives (keyword : String) : Shapes (Step.alternatives keyword) := by
  intro schema result made
  rcases alternatives_yields made with ⟨rfl, -⟩ | ⟨single, -, made⟩
  · rfl
  · exact isSchema_of_meetAll made

/-- A list that a walk yields is what a list of the same length became. -/
theorem visit_array (shapes : Shapes step) {value : Json} {results : List Json}
    (made : Yields (visit step place value) (.array results)) :
    ∃ items, value = .array items ∧ items.length = results.length := by
  cases value with
  | array items =>
      refine ⟨items, rfl, ?_⟩
      rw [visit] at made
      split at made
      · obtain ⟨visited, ran, made⟩ := yields_bind made
        rw [← Json.array.inj (yields_pure made)]
        exact (visitItems_yields ran).length_eq
      · rw [Json.array.inj (pass_yields made)]
  | object members =>
      cases holds : place.kind? with
      | some kind =>
          obtain ⟨visited, -, made⟩ := visit_object_yields holds made
          unfold finish at made
          split at made
          · exact absurd (shapes made) (by simp [isSchema])
          · cases yields_pure made
      | none =>
          rw [visit, holds] at made
          obtain ⟨entries, -, made⟩ := yields_bind made
          cases yields_pure made
  | _ => cases visit_pass (by simp) (by simp) made

theorem get?_visited_array (shapes : Shapes step) {kind : Kind} {members visited : Members}
    (ran : Yields (visitedFields step kind members) visited) {name : String} {results : List Json}
    (found : visited.get? name = some (.array results)) :
    ∃ items, members.get? name = some (.array items) ∧ items.length = results.length := by
  rcases get?_visitedFields ran name with ⟨-, kept⟩ | ⟨argument, inner, value, is, -, ran, is'⟩
  · exact ⟨results, kept.symm.trans found, rfl⟩
  · obtain rfl := Option.some.inj (is'.symm.trans found)
    obtain ⟨items, rfl, same⟩ := visit_array shapes ran
    exact ⟨items, is, same⟩

end SchemaMerge.OpenApi
