import SchemaMerge.Proofs.Meet.Unrepeated
import SchemaMerge.Proofs.Transform.Merging
import SchemaMerge.Proofs.Transform.Position

namespace SchemaMerge.OpenApi

open Schema

variable {step : Step}

def Unrepeats (step : Step) : Prop :=
  ∀ {members result}, (Json.object members).noRepeats = true → Yields (step members) result →
    result.noRepeats = true

theorem noRepeats_erase {members : Members} (clean : (Json.object members).noRepeats = true)
    (keyword : String) : (Json.object (members.erase keyword)).noRepeats = true := by
  obtain ⟨distinct, each⟩ := Json.noRepeats_object.mp clean
  exact Json.noRepeats_object.mpr ⟨Members.distinct_erase distinct keyword,
    fun member inside => each member (List.mem_of_mem_filter inside)⟩

theorem meetAll_noRepeats {keyword : String} {members : Members} {schemas : List Json} {result : Json}
    (made : meetAll keyword members schemas = .ok result)
    (clean : (Json.object members).noRepeats = true)
    (found : members.get? keyword = some (.array schemas)) : result.noRepeats = true := by
  have each := (Json.noRepeats_object.mp clean).2
  have listed := Json.noRepeats_array.mp (each _ (Members.mem_of_get? found))
  refine foldlM_keeps (·.noRepeats = true) made ?_ (noRepeats_erase clean keyword)
  intro schema inside reached next done own
  exact noRepeats_meetWithin _ done own (listed schema inside)

theorem unrepeats_allOf (onlySingle : Bool) : Unrepeats (Step.allOf onlySingle) := by
  intro members result clean made
  rcases allOf_yields made with ⟨rfl, -⟩ | ⟨-, rfl⟩ | ⟨schemas, found, made⟩
  · exact clean
  · exact noRepeats_erase clean "allOf"
  · exact meetAll_noRepeats made clean found

theorem unrepeats_alternatives (keyword : String) : Unrepeats (Step.alternatives keyword) := by
  intro members result clean made
  rcases alternatives_yields made with ⟨rfl, -⟩ | ⟨single, found, made⟩
  · exact clean
  · exact meetAll_noRepeats made clean found

theorem unrepeats_of_isMerging (merging : IsMerging step) : Unrepeats step := by
  cases merging with
  | allOf onlySingle => exact unrepeats_allOf onlySingle
  | anyOf => exact unrepeats_alternatives "anyOf"
  | oneOf => exact unrepeats_alternatives "oneOf"
  | subschemas skipAllOf skipAnyOf skipOneOf =>
      intro members result clean made
      exact subschemas_keeps (·.noRepeats = true)
        (fun _ found _ merged own => meetAll_noRepeats merged own found) made clean

theorem noRepeats_visitedEntries {place : Place} {entries results : Members}
    (visited : List.Forall₂ (Visits step place) entries results)
    (clean : (Json.object entries).noRepeats = true)
    (inside : ∀ entry ∈ entries, ∀ inner, place.entry? entry.1 entry.2 = some inner →
      ∀ {result}, Yields (visit step inner entry.2) result → result.noRepeats = true) :
    (Json.object results).noRepeats = true := by
  obtain ⟨distinct, each⟩ := Json.noRepeats_object.mp clean
  have names : results.map Prod.fst = entries.map Prod.fst := by
    clear inside each distinct clean
    induction visited with
    | nil => rfl
    | cons head _ ih => rw [List.map_cons, List.map_cons, head.name, ih]
  refine Json.noRepeats_object.mpr ⟨by rwa [Members.Distinct, names], fun result own => ?_⟩
  obtain ⟨entry, present, ran⟩ := exists_of_mem_right visited own
  cases stands : place.entry? entry.1 entry.2 with
  | none =>
      rw [ran.skipped stands]
      exact each entry present
  | some inner => exact inside entry present inner stands (ran.visited stands)

theorem noRepeats_visitedFields {kind : Kind} {members visited : Members}
    (ran : Yields (visitedFields step kind members) visited)
    (clean : (Json.object members).noRepeats = true)
    (inside : ∀ member ∈ members, ∀ inner, kind.field? member.1 = some inner →
      ∀ {result}, Yields (visit step inner member.2) result → result.noRepeats = true) :
    (Json.object visited).noRepeats = true := by
  obtain ⟨distinct, each⟩ := Json.noRepeats_object.mp clean
  have distinctVisited := distinct_runFields ran distinct
  refine Json.noRepeats_object.mpr ⟨distinctVisited, fun member own => ?_⟩
  have found := Members.get?_of_mem distinctVisited own
  rcases get?_visitedFields ran member.1 with ⟨-, kept⟩ | ⟨argument, inner, value, is, field, ran, is'⟩
  · exact each _ (Members.mem_of_get? (kept ▸ found))
  · obtain rfl := Option.some.inj (found.symm.trans is')
    exact inside _ (Members.mem_of_get? is) inner field ran

theorem visit_noRepeats (unrepeats : Unrepeats step) (value : Json) {place : Place} : ∀ {result},
    value.noRepeats = true → Yields (visit step place value) result → result.noRepeats = true := by
  induction place, value using walk_induction with
  | @fields place kind members holds ih =>
      intro result clean made
      have each := (Json.noRepeats_object.mp clean).2
      obtain ⟨visited, ran, stepped⟩ := visit_object_yields holds made
      have cleanVisited := noRepeats_visitedFields ran clean fun member present inner field =>
        ih member present inner field (each member present)
      unfold finish at stepped
      split at stepped
      · exact unrepeats cleanVisited stepped
      · rwa [← yields_pure stepped]
  | @entries place entries plain ih =>
      intro result clean made
      have each := (Json.noRepeats_object.mp clean).2
      rw [visit, plain] at made
      obtain ⟨results, ran, made⟩ := yields_bind made
      rw [← yields_pure made]
      exact noRepeats_visitedEntries (visitEntries_yields ran) clean fun entry present inner stands =>
        ih entry present inner stands (each entry present)
  | @items place items ih =>
      intro result clean made
      have each := Json.noRepeats_array.mp clean
      rw [visit] at made
      split at made
      · next inner member =>
        obtain ⟨results, ran, made⟩ := yields_bind made
        rw [← yields_pure made]
        refine Json.noRepeats_array.mpr fun result own => ?_
        obtain ⟨item, present, visited⟩ := exists_of_mem_right (visitItems_yields ran) own
        exact ih inner member item present (each item present) visited
      · rwa [pass_yields made]
  | leaf plain single =>
      intro result clean made
      rwa [visit_pass plain single made]

end SchemaMerge.OpenApi
