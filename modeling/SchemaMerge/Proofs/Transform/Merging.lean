import SchemaMerge.Proofs.Transform.Preserved
import SchemaMerge.Proofs.Transform.Stepped

namespace SchemaMerge.OpenApi

open Schema

variable {reading : Reading} {banned : List String}

theorem erase_schemas {members : Members} {keyword : String}
    (place : shape reading.deep keyword = .schemas)
    (formed : WellFormed reading.deep banned (.object members)) :
    WellFormed reading.deep banned (.object (members.erase keyword)) ∧ ∀ value,
      accepts reading (.object members) value =
        (accepts reading (.object (members.erase keyword)) value &&
          asked reading keyword (members.get? keyword) value) := by
  obtain ⟨distinct, every⟩ := wellFormed_object.mp formed
  have other : keyword ≠ "properties" ∧ keyword ≠ "patternProperties" ∧
      keyword ≠ "additionalProperties" := by
    refine ⟨?_, ?_, ?_⟩ <;> rintro rfl <;> cases place
  have covered : covers (members.erase keyword) = covers members := by
    funext name
    unfold covers isNamed isMatched
    rw [Members.get?_erase, Members.get?_erase, if_neg other.1.symm, if_neg other.2.1.symm]
  constructor
  · exact wellFormed_object.mpr ⟨Members.distinct_erase distinct keyword,
      fun found => every (Members.get?_of_erase found)⟩
  · intro value
    have same (key : String) (argument : Json) :
        satisfies reading (members.erase keyword) key argument value =
          satisfies reading members key argument value := by
      unfold satisfies
      rw [covered]
    rw [Bool.eq_iff_iff, Bool.and_eq_true, accepts_object_iff reading distinct,
      accepts_object_iff reading (Members.distinct_erase distinct keyword), asked, Option.all_eq_true]
    simp only [same, satisfies_siblings reading other.2.2 [] members]
    constructor
    · intro satisfied
      exact ⟨fun key argument found => satisfied key argument (Members.get?_of_erase found),
        fun argument found => satisfied keyword argument found⟩
    · rintro ⟨rest, own⟩ key argument found
      by_cases asked : key = keyword
      · subst asked
        exact own argument found
      · exact rest key argument (by rwa [Members.get?_erase, if_neg asked])

theorem meetAll_equivalent (plain : IsExact banned) {members : Members} {keyword : String}
    {schemas : List Json} {result : Json} (place : shape reading.deep keyword = .schemas)
    (formed : WellFormed reading.deep banned (.object members))
    (found : members.get? keyword = some (.array schemas))
    (asksAll : ∀ value, asked reading keyword (some (.array schemas)) value =
      schemas.all (accepts reading · value))
    (made : meetAll keyword members schemas = .ok result) :
    Equivalent reading banned (.object members) result := by
  obtain ⟨formedRest, splits⟩ := erase_schemas place formed
  have formedAll : ∀ schema ∈ schemas, WellFormed reading.deep banned schema := by
    have argument := ((wellFormed_object.mp formed).2 found).resolve_left (by simp [isAbsent])
    have holds := argument.holds
    rw [place] at holds
    obtain ⟨_, is, formedAll⟩ := holds
    rwa [Json.array.inj is]
  obtain ⟨-, formedResult, meet⟩ := foldlM_meets (sound_meetWithin reading (Or.inr plain) _) made
    formedRest fun schema inside => Or.inr (formedAll schema inside)
  refine ⟨formedResult, funext fun value => ?_⟩
  rw [splits, found, asksAll, meet.eq_and plain]

theorem allOf_asks (schemas : List Json) (value : Json) :
    asked reading "allOf" (some (.array schemas)) value = schemas.all (accepts reading · value) := by
  rw [asked, Option.all_some, satisfies_allOf]

theorem anyOf_asks (single : Json) (value : Json) :
    asked reading "anyOf" (some (.array [single])) value = [single].all (accepts reading · value) := by
  rw [asked, Option.all_some, satisfies_anyOf]
  simp

theorem oneOf_asks (single : Json) (value : Json) :
    asked reading "oneOf" (some (.array [single])) value = [single].all (accepts reading · value) := by
  rw [asked, Option.all_some, satisfies_oneOf]
  simp only [List.map_cons, List.map_nil, count_single]
  simp

theorem preserves_allOf (plain : IsExact banned) (onlySingle : Bool) :
    Preserves reading banned (Step.allOf onlySingle) := by
  intro members result formed made
  have place : shape reading.deep "allOf" = .schemas := rfl
  rcases allOf_yields made with ⟨rfl, -⟩ | ⟨found, rfl⟩ | ⟨schemas, found, made⟩
  · exact equivalent_refl formed
  · obtain ⟨formedRest, splits⟩ := erase_schemas place formed
    refine ⟨formedRest, funext fun value => ?_⟩
    rw [splits, found, allOf_asks]
    simp
  · exact meetAll_equivalent plain place formed found (allOf_asks schemas) made

theorem preserves_alternatives (plain : IsExact banned) {keyword : String}
    (place : shape reading.deep keyword = .schemas)
    (asks : ∀ single value, asked reading keyword (some (.array [single])) value =
      [single].all (accepts reading · value)) :
    Preserves reading banned (Step.alternatives keyword) := by
  intro members result formed made
  rcases alternatives_yields made with ⟨rfl, -⟩ | ⟨single, found, made⟩
  · exact equivalent_refl formed
  · exact meetAll_equivalent plain place formed found (asks single) made

theorem preserves_subschemas (plain : IsExact banned) (skipAllOf skipAnyOf skipOneOf : Skip) :
    Preserves reading banned (Step.subschemas skipAllOf skipAnyOf skipOneOf) := by
  intro members result formed made
  refine subschemas_keeps (Equivalent reading banned (.object members)) ?_ made (equivalent_refl formed)
  intro keyword reached schemas result listed found single made own
  refine own.trans (meetAll_equivalent plain ?_ own.formed found ?_ made)
  · simp only [List.mem_cons, List.not_mem_nil, or_false] at listed
    rcases listed with rfl | rfl | rfl <;> rfl
  · simp only [List.mem_cons, List.not_mem_nil, or_false] at listed
    rcases single with rfl | ⟨single, rfl⟩
    · exact allOf_asks schemas
    · rcases listed with rfl | rfl | rfl
      · exact allOf_asks _
      · exact anyOf_asks single
      · exact oneOf_asks single

inductive IsMerging : Step → Prop
  | allOf (onlySingle : Bool) : IsMerging (Step.allOf onlySingle)
  | anyOf : IsMerging (Step.alternatives "anyOf")
  | oneOf : IsMerging (Step.alternatives "oneOf")
  | subschemas (skipAllOf skipAnyOf skipOneOf : Skip) :
      IsMerging (Step.subschemas skipAllOf skipAnyOf skipOneOf)

theorem preserves_of_isMerging (plain : IsExact banned) {step : Step} (merging : IsMerging step) :
    Preserves reading banned step := by
  cases merging with
  | allOf onlySingle => exact preserves_allOf plain onlySingle
  | anyOf => exact preserves_alternatives plain rfl anyOf_asks
  | oneOf => exact preserves_alternatives plain rfl oneOf_asks
  | subschemas skipAllOf skipAnyOf skipOneOf =>
      exact preserves_subschemas plain skipAllOf skipAnyOf skipOneOf

/-- A pass that merges schemas yields a schema that accepts the same values, if patterns are not used
together with additional properties. -/
theorem visit_accepts_iff (reading : Reading) (deep : reading.deep = true)
    (plain : "patternProperties" ∈ banned ∨ "additionalProperties" ∈ banned) {step : Step}
    (merging : IsMerging step) {schema result : Json} (formed : WellFormed true banned schema)
    (made : (visit step (.one .schema) schema).outcome.1 = .ok result) (value : Json) :
    accepts reading result value = true ↔ accepts reading schema value = true := by
  rw [← deep] at formed
  rw [(visit_preserves deep (preserves_of_isMerging plain merging) schema rfl formed
    (yields_of_outcome made)).same]

def nested : Json :=
  .object [("allOf", .array [.object [("type", .string "object")],
      .object [("required", .array [.string "id"])]]),
    ("not", .object [("anyOf", .array [.object
      [("properties", .object [("id", .object [("type", .string "null")])])]])]),
    ("items", .object [("oneOf", .array [.object [("minimum", .number (.int 1))]])])]

def flattened : Json :=
  .object [("not", .object [("properties", .object [("id", .object [("type", .string "null")])])]),
    ("items", .object [("minimum", .number (.int 1))]), ("type", .string "object"),
    ("required", .array [.string "id"])]

theorem nested_is_flattened :
    WellFormed true ["patternProperties"] nested ∧
      (visit (Step.subschemas (fun _ => false) (fun _ => false) (fun _ => false)) (.one .schema)
        nested).outcome.1 = .ok flattened ∧
      (accepts (.plain true) flattened (.object [("id", .string "a")]) = true ↔
        accepts (.plain true) nested (.object [("id", .string "a")]) = true) := by
  have formed : WellFormed true ["patternProperties"] nested := ⟨by decide, by decide⟩
  have made : (visit (Step.subschemas (fun _ => false) (fun _ => false) (fun _ => false))
      (.one .schema) nested).outcome.1 = .ok flattened := by decide +kernel
  exact ⟨formed, made, visit_accepts_iff (.plain true) rfl (Or.inl (by decide))
    (.subschemas _ _ _) formed made _⟩

end SchemaMerge.OpenApi
