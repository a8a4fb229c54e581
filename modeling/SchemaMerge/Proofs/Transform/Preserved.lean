import SchemaMerge.Proofs.Meet.Exact
import SchemaMerge.Proofs.Transform.Rewritten
import SchemaMerge.Proofs.Transform.Visited

/-!
The passes that merge the schemas under `allOf`, `anyOf` and `oneOf` keep what a schema accepts. Each
step keeps it for one schema, and a walk applies the step to every schema, from the inside out.
-/

namespace SchemaMerge.OpenApi

open Schema

variable {reading : Reading} {banned : List String} {step : Step}

def Preserves (reading : Reading) (banned : List String) (step : Step) : Prop :=
  ∀ {members result}, WellFormed reading.deep banned (.object members) → Yields (step members) result →
    Equivalent reading banned (.object members) result

/-- Where the fields of a schema hold schemas, as far as these are read. -/
def standsFor (place : Place) (shape : Shape) : Bool :=
  match place, shape with
  | .branch _, .schema => true
  | .branch true, .schemas => true
  | .branches, .entries => true
  | _, _ => false

theorem standsFor_of_field? {keyword : String} {place : Place}
    (field : Kind.schema.field? keyword = some place) :
    unread.contains keyword = true ∨ standsFor place (shape true keyword) = true := by
  have every : ∀ entry ∈ Kind.schema.fields,
      unread.contains entry.1 = true ∨ standsFor entry.2 (shape true entry.1) = true := by decide
  exact every (keyword, place) (mem_of_field? field)

theorem forall₂_imp_of_mem {α β : Type} {first second : α → β → Prop} {items : List α}
    {others : List β} (related : List.Forall₂ first items others)
    (step : ∀ item ∈ items, ∀ other, first item other → second item other) :
    List.Forall₂ second items others := by
  induction related with
  | nil => exact .nil
  | cons head _ ih =>
      exact .cons (step _ (by simp) _ head)
        (ih fun item inside => step item (List.mem_cons_of_mem _ inside))

theorem field_rewritten (deep : reading.deep = true) {keyword : String} {place : Place}
    {argument value : Json} (field : Kind.schema.field? keyword = some place)
    (formed : IsArgument reading.deep banned keyword argument)
    (made : Yields (visit step place argument) value)
    (within : ∀ {place schema result}, sizeOf schema ≤ sizeOf argument → place.kind? = some .schema →
      WellFormed reading.deep banned schema → Yields (visit step place schema) result →
      Equivalent reading banned schema result) :
    IsRewritten reading banned (shape reading.deep keyword) argument value := by
  have read : unread.contains keyword = false := by
    have permitted := formed.permitted
    rw [permits, deep, Bool.true_and, Bool.and_eq_true, Bool.not_eq_true'] at permitted
    exact (Bool.not_eq_true' _).mp permitted.2
  have stands : standsFor place (shape reading.deep keyword) = true := by
    rw [deep]
    exact (standsFor_of_field? field).resolve_left (by rw [read]; simp)
  have holds := formed.holds
  generalize shape reading.deep keyword = inner at stands holds
  cases inner with
  | leaf =>
      -- a walk visits no argument that is read without its schemas
      cases place <;> simp [standsFor] at stands
  | schema =>
      have schema : place.kind? = some .schema := by
        cases place <;> simp_all [standsFor, Place.kind?]
      exact within (Nat.le_refl _) schema holds made
  | schemas =>
      obtain ⟨schemas, rfl, formedAll⟩ := holds
      obtain rfl : place = .branch true := by
        unfold standsFor at stands
        split at stands <;> simp_all
      rw [visit] at made
      obtain ⟨results, ran, made⟩ := yields_bind made
      rw [← yields_pure made]
      refine ⟨schemas, results, rfl, rfl, forall₂_imp_of_mem (visitItems_yields ran) ?_⟩
      intro schema inside result visited
      exact within (Json.sizeOf_item inside).le rfl (formedAll schema inside) visited
  | entries =>
      obtain ⟨entries, rfl, formedAll⟩ := holds
      obtain rfl : place = .branches := by
        unfold standsFor at stands
        split at stands <;> simp_all
      rw [visit] at made
      obtain ⟨results, ran, made⟩ := yields_bind made
      rw [← yields_pure made]
      refine ⟨entries, results, rfl, rfl, forall₂_imp_of_mem (visitEntries_yields ran) ?_⟩
      intro entry inside result visited
      refine ⟨visited.name, fun null => ?_, fun set => ?_⟩
      · rw [visited.skipped (by simp [Place.entry?, null]), null]
      · have ran : Yields (visit step (.one .schema) entry.2) result.2 :=
          visited.visited (by simp [Place.entry?, set])
        exact within (Json.sizeOf_member inside).le rfl ((formedAll entry inside).resolve_left set) ran

theorem visit_preserves (deep : reading.deep = true) (preserves : Preserves reading banned step)
    (schema : Json) : ∀ {place result}, place.kind? = some .schema →
      WellFormed reading.deep banned schema → Yields (visit step place schema) result →
      Equivalent reading banned schema result := by
  induction schema using Json.induction_on_size with
  | _ schema ih =>
      intro place result holds formed made
      have shaped := isSchema_of_wellFormed formed
      cases schema with
      | bool answer =>
          rw [visit_pass (by simp) (by simp) made]
          exact equivalent_refl formed
      | object members =>
          obtain ⟨distinct, every⟩ := wellFormed_object.mp formed
          obtain ⟨visited, ran, stepped⟩ := visit_object_yields holds made
          have distinctVisited := distinct_runFields ran distinct
          have rewritten : AreRewritten reading banned members visited := by
            intro keyword
            rcases get?_visitedFields ran keyword with ⟨unread, kept⟩ | ⟨argument, inner, value, is, field, ran, is'⟩
            · rw [kept]
              cases is : Members.get? members keyword with
              | none => exact .none
              | some argument => exact .some ((every is).imp (⟨·, rfl⟩) fun formed =>
                  ⟨formed, isRewritten_refl formed⟩)
            · rw [is, is']
              refine .some ((every is).imp (fun absent => ⟨absent, ?_⟩) fun formed => ⟨formed, ?_⟩)
              · have null : argument = .null := by
                  simp only [isAbsent, Bool.and_eq_true, decide_eq_true_eq] at absent
                  exact absent.1
                subst null
                exact visit_pass (by simp) (by simp) ran
              · refine field_rewritten deep field formed ran fun {_ schema _} less => ?_
                have smaller := Json.sizeOf_member (Members.mem_of_get? is)
                exact ih schema (Nat.lt_of_le_of_lt less smaller)
          -- the step meets a schema whose parts have changed already, and which accepts the same
          have inner := equivalent_of_rewritten distinct distinctVisited rewritten
          exact inner.trans (preserves inner.formed stepped)
      | _ => exact absurd shaped (by simp [isSchema])

end SchemaMerge.OpenApi
