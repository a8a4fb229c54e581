import SchemaMerge.Proofs.Meet.Lasting
import SchemaMerge.Proofs.Transform.Shaped
import SchemaMerge.Proofs.Transform.Stable

/-!
The lists of schemas that remain under a keyword after a pass. Where two schemas meet in which only
such lists remain, their meet is such a schema, however deep the lists are; so a step that merges
the lists under the keyword brings a schema into normal form.
-/

namespace SchemaMerge.OpenApi

open Schema

/-- The lists under a keyword of a schema are of the kind that may remain. -/
def Remains (keyword : String) (final : List Json → Prop) (schema : Members) : Prop :=
  ∀ items, (keyword, .array items) ∈ schema → final items

/-- The kind of list that may remain is kept where two such lists are combined. -/
structure IsFinal (keyword : String) (final : List Json → Prop) : Prop where
  combinator : keyword ∈ combinatorKeywords
  combined : ∀ {recur : Meeting} {schemas others mets : List Json},
    combine recur keyword (.array schemas) (.array others) = .ok (.array mets) →
      final schemas → final others → final mets

variable {keyword : String} {final : List Json → Prop} {law : Members → Prop}

def IsWithin (law : Members → Prop) (name : String) (argument : Json) : Prop :=
  ∀ inner, Kind.schema.field? name = some inner → Everywhere law inner argument

def IsOwn (keyword : String) (final : List Json → Prop) (name : String) (argument : Json) : Prop :=
  name = keyword → ∀ items, argument = .array items → final items

theorem everywhere_schema_object {members : Members} :
    Everywhere law (.one .schema) (.object members) ↔ law members ∧ Obeys (IsWithin law) members := by
  rw [everywhere_object rfl]
  exact and_congr_left fun _ => forall_prop_of_true rfl

theorem Remains.subset {schema part : Members} (remains : Remains keyword final schema)
    (inside : part ⊆ schema) : Remains keyword final part :=
  fun items present => remains items (inside present)

theorem remains_iff {members : Members} :
    Remains keyword final members ↔ Obeys (IsOwn keyword final) members := by
  constructor
  · intro remains member present same items is
    exact remains items (by rw [← same, ← is]; exact present)
  · intro obeys items present
    exact obeys _ present rfl items rfl

theorem field?_of_rule? {name : String} (ruled : (rule? name).isSome = true)
    (other : name ∉ combinatorKeywords) : Kind.schema.field? name = none := by
  unfold rule? at ruled
  split at ruled
  · exact absurd (by decide) other
  all_goals first | rfl | exact absurd ruled (by simp)

section meeting

variable {recur : Meeting}

theorem combine_within (closed : Closes recur (Everywhere law (.one .schema))) {name : String}
    {first second met : Json} (made : combine recur name first second = .ok met)
    (within : IsWithin law name first) (within' : IsWithin law name second) :
    IsWithin law name met := by
  intro inner field
  by_cases combinator : name ∈ combinatorKeywords
  · obtain ⟨schemas, others, mets, rfl, rfl, rfl, every⟩ := combine_lists closed combinator made
    have listed : Kind.schema.field? name = some (.branch true) := by
      rcases mem_combinatorKeywords.mp combinator with rfl | rfl | rfl <;> rfl
    obtain rfl := Option.some.inj (listed.symm.trans field)
    have inside := everywhere_array.mp (within _ field) _ rfl
    have inside' := everywhere_array.mp (within' _ field) _ rfl
    refine everywhere_array.mpr ?_
    intro inner member
    obtain rfl := Option.some.inj member
    exact every inside inside'
  · rcases (combine_cases made).resolve_left combinator with ⟨single, done⟩ | ruled
    · have place : inner = .branch false := by
        rcases single with rfl | rfl <;> exact (Option.some.inj field).symm
      subst place
      have own := everywhere_single.mp (within _ field)
      have own' := everywhere_single.mp (within' _ field)
      exact everywhere_single.mpr (closed done own own')
    · exact absurd (field.symm.trans (field?_of_rule? ruled combinator)) (by simp)

theorem lasts_within (closed : Closes recur (Everywhere law (.one .schema))) :
    Lasts recur (Everywhere law (.one .schema)) (IsWithin law) := by
  have apart {name : String} (plain : Kind.schema.field? name = none) (argument : Json) :
      IsWithin law name argument := by
    intro inner field
    exact absurd (plain.symm.trans field) (by simp)
  constructor
  · exact closed
  · exact combine_within closed
  · intro name named place
    have field : Kind.schema.field? name = some .branches := by
      simp only [isEntries, Bool.or_eq_true, decide_eq_true_eq] at place
      rcases place with rfl | rfl <;> rfl
    rw [← everywhere_branches]
    constructor
    · intro within
      exact within _ field
    · intro every inner field'
      obtain rfl := Option.some.inj (field.symm.trans field')
      exact every
  · intro schema within
    exact everywhere_single.mp (within _ rfl)
  · intro name other argument bound _ _
    rcases mem_boundKeywords.mp bound with rfl | rfl | rfl | rfl <;> exact apart rfl argument
  · intro name bound
    rcases mem_boundKeywords.mp bound with rfl | rfl | rfl | rfl <;> exact apart rfl _
  · exact apart rfl _

theorem combine_own (lasting : IsFinal keyword final) {name : String} {first second met : Json}
    (made : combine recur name first second = .ok met) (own : IsOwn keyword final name first)
    (own' : IsOwn keyword final name second) : IsOwn keyword final name met := by
  rintro rfl items rfl
  have closed : Closes recur fun _ => True := fun _ _ _ => trivial
  obtain ⟨schemas, others, mets, rfl, rfl, is, -⟩ := combine_lists @closed lasting.combinator made
  obtain rfl := Json.array.inj is
  exact lasting.combined made (own rfl _ rfl) (own' rfl _ rfl)

theorem lasts_own (lasting : IsFinal keyword final) :
    Lasts recur (fun _ => True) (IsOwn keyword final) := by
  have apart {name : String} (other : name ∉ combinatorKeywords) (argument : Json) :
      IsOwn keyword final name argument := by
    rintro rfl
    exact absurd lasting.combinator other
  constructor
  · intro _ _ _ _ _ _
    trivial
  · exact combine_own lasting
  · intro name named _
    refine iff_of_true ?_ fun _ _ => trivial
    intro _ items wrong
    cases wrong
  · intro _ _
    trivial
  · intro name other argument bound _ _
    rcases mem_boundKeywords.mp bound with rfl | rfl | rfl | rfl <;> exact apart (by decide) argument
  · intro name bound
    rcases mem_boundKeywords.mp bound with rfl | rfl | rfl | rfl <;> exact apart (by decide) _
  · exact apart (by decide) _

/-- Where only lists of a kind remain in two objects, so they do in the merged one, however the schemas
inside them meet. -/
theorem remains_meetObjects (lasting : IsFinal keyword final) {first second out : Members}
    (made : meetObjects recur first second = .ok out) (remains : Remains keyword final first)
    (remains' : Remains keyword final second) : Remains keyword final out := by
  rw [remains_iff] at remains remains' ⊢
  exact obeys_meetObjects (lasts_own lasting) made remains remains'

end meeting

theorem present_subset (keywords : Members) : presentKeywords (.object keywords) ⊆ keywords :=
  List.filter_sublist.subset

theorem everywhere_meetWithin (lasting : IsFinal keyword final) (levels : Nat) :
    Closes (meetWithin levels) (Everywhere (Remains keyword final) (.one .schema)) := by
  induction levels with
  | zero =>
      intro first second met made
      obtain ⟨_, _, wrong⟩ := bind_eq_ok.mp made
      exact absurd wrong (by simp)
  | succ levels ih =>
      intro first second met made
      refine meetWith_keeps made (everywhere_of_leaf (by simp) (by simp)) id ?_
      intro keywords others out merged every every'
      obtain ⟨own, within⟩ := everywhere_schema_object.mp every
      obtain ⟨own', within'⟩ := everywhere_schema_object.mp every'
      refine everywhere_schema_object.mpr ⟨?_, ?_⟩
      · exact remains_meetObjects lasting merged (own.subset (present_subset _))
          (own'.subset (present_subset _))
      · exact obeys_meetObjects (lasts_within ih) merged (within.subset (present_subset _))
          (within'.subset (present_subset _))

theorem isFinal_allOf (onlySingle : Bool) :
    IsFinal "allOf" fun schemas => onlySingle = true ∧ 2 ≤ schemas.length := by
  constructor
  · decide
  · intro recur schemas others mets made settled _
    obtain ⟨added, is, -⟩ := allOf_eq_ok made
    obtain rfl := Json.array.inj is
    obtain ⟨single, several⟩ := settled
    refine ⟨single, ?_⟩
    rw [List.length_append]
    omega

def alternativeKeywords : List String := ["anyOf", "oneOf"]

variable {onlySingle : Bool}

theorem isFinal_alternatives (alternative : keyword ∈ alternativeKeywords) :
    IsFinal keyword (· = []) := by
  constructor
  · simp only [alternativeKeywords, List.mem_cons, List.not_mem_nil, or_false] at alternative
    rcases alternative with rfl | rfl <;> decide
  · intro recur schemas others mets made settled settled'
    subst settled settled'
    simp only [alternativeKeywords, List.mem_cons, List.not_mem_nil, or_false] at alternative
    rcases alternative with rfl | rfl <;> exact (Json.array.inj (Except.ok.inj made)).symm

theorem field?_of_isFinal (lasting : IsFinal keyword final) :
    Kind.schema.field? keyword = some (.branch true) := by
  rcases mem_combinatorKeywords.mp lasting.combinator with rfl | rfl | rfl <;> rfl

section stepping

variable {step : Step} {visited members : Members} {schemas : List Json} {result : Json}

structure IsNormal (keyword : String) (final : List Json → Prop) (schema : Json) : Prop where
  shaped : isSchema schema = true
  every : Everywhere (Remains keyword final) (.one .schema) schema

theorem isNormal_object (within : Obeys (IsWithin (Remains keyword final)) members)
    (own : ∀ items, (keyword, .array items) ∈ members → final items) :
    IsNormal keyword final (.object members) :=
  ⟨rfl, everywhere_schema_object.mpr ⟨own, within⟩⟩

theorem isNormal_of_get? (distinct : visited.Distinct)
    (within : Obeys (IsWithin (Remains keyword final)) visited)
    (own : ∀ items, visited.get? keyword = some (.array items) → final items) :
    IsNormal keyword final (.object visited) :=
  isNormal_object within fun items present => own items (Members.get?_of_mem distinct present)

theorem isNormal_erase (within : Obeys (IsWithin (Remains keyword final)) visited) :
    IsNormal keyword final (.object (visited.erase keyword)) := by
  refine isNormal_object (within.erase keyword) ?_
  intro items present
  have other := (List.mem_filter.mp present).2
  simp at other

theorem isNormal_meetAll (lasting : IsFinal keyword final)
    (within : Obeys (IsWithin (Remains keyword final)) visited)
    (found : visited.get? keyword = some (.array schemas))
    (made : meetAll keyword visited schemas = .ok result) : IsNormal keyword final result := by
  have settled := everywhere_array.mp (within.get? found _ (field?_of_isFinal lasting)) _ rfl
  refine ⟨isSchema_of_meetAll made, foldlM_keeps _ made ?_ (isNormal_erase within).every⟩
  intro schema inside reached next done every
  exact everywhere_meetWithin lasting _ done every (settled schema inside)

def Settles (keyword : String) (final : List Json → Prop) (step : Step) : Prop :=
  ∀ {visited result}, visited.Distinct → Obeys (IsWithin (Remains keyword final)) visited →
    Yields (step visited) result → IsNormal keyword final result

theorem settles_allOf (onlySingle : Bool) :
    Settles "allOf" (fun schemas => onlySingle = true ∧ 2 ≤ schemas.length) (Step.allOf onlySingle) := by
  intro visited result distinct within made
  rcases allOf_yields made with ⟨rfl, several⟩ | ⟨-, rfl⟩ | ⟨schemas, found, made⟩
  · exact isNormal_of_get? distinct within several
  · exact isNormal_erase within
  · exact isNormal_meetAll (isFinal_allOf onlySingle) within found made

theorem settles_alternatives (alternative : keyword ∈ alternativeKeywords) :
    Settles keyword (· = []) (Step.alternatives keyword) := by
  intro visited result distinct within made
  rcases alternatives_yields made with ⟨rfl, empty⟩ | ⟨single, found, made⟩
  · exact isNormal_of_get? distinct within empty
  · exact isNormal_meetAll (isFinal_alternatives alternative) within found made

end stepping

end SchemaMerge.OpenApi
