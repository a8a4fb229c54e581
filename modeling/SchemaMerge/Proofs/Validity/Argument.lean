import SchemaMerge.Proofs.Outcome
import SchemaMerge.Proofs.Validity.Congruence

namespace SchemaMerge.Schema

variable {deep : Bool} {banned : List String}

def HoldsSchemas (deep : Bool) (banned : List String) (shape : Shape) (argument : Json) : Prop :=
  match shape with
  | .leaf => True
  | .schema => WellFormed deep banned argument
  | .schemas => ∃ schemas, argument = .array schemas ∧ ∀ schema ∈ schemas, WellFormed deep banned schema
  | .entries => ∃ entries, argument = .object entries ∧
      ∀ entry ∈ entries, entry.2 = .null ∨ WellFormed deep banned entry.2

/-- An argument that a keyword of a well-formed schema may have. -/
structure IsArgument (deep : Bool) (banned : List String) (keyword : String) (argument : Json) :
    Prop where
  present : isAbsent keyword argument = false
  noRepeats : argument.noRepeats = true
  permitted : permits deep banned keyword = true
  suitable : suits keyword argument = true
  holds : HoldsSchemas deep banned (shape deep keyword) argument

structure AreArguments (deep : Bool) (banned : List String) (keywords : Members) : Prop where
  distinct : keywords.Distinct
  argument : ∀ {keyword argument}, keywords.get? keyword = some argument →
    IsArgument deep banned keyword argument

variable {law : String → Json → Bool}

theorem everySchema_iff {schemas : List Json} :
    everySchema deep law schemas = true ↔ ∀ schema ∈ schemas, everywhere deep law schema = true := by
  induction schemas with
  | nil => simp [everySchema]
  | cons schema rest ih => simp [everySchema, ih]

theorem everyEntry_iff {entries : Members} :
    everyEntry deep law entries = true ↔
      ∀ entry ∈ entries, entry.2 = .null ∨ everywhere deep law entry.2 = true := by
  induction entries with
  | nil => simp [everyEntry]
  | cons entry rest ih => simp [everyEntry, ih]

/-- Whether the schemas of an argument stand where the keyword has them, and obey a law. -/
def obeys (deep : Bool) (law : String → Json → Bool) (shape : Shape) (argument : Json) : Bool :=
  match shape, argument with
  | .leaf, _ => true
  | .schema, schema => everywhere deep law schema
  | .schemas, .array schemas => everySchema deep law schemas
  | .entries, .object entries => everyEntry deep law entries
  | _, _ => false

theorem everywhere_object {keywords : Members} :
    everywhere deep law (.object keywords) = true ↔ ∀ member ∈ keywords,
      isAbsent member.1 member.2 = true ∨
        law member.1 member.2 = true ∧ obeys deep law (shape deep member.1) member.2 = true := by
  rw [everywhere]
  induction keywords with
  | nil => simp [everyKeyword]
  | cons member rest ih =>
      obtain ⟨keyword, argument⟩ := member
      rw [everyKeyword.eq_def, List.forall_mem_cons, ← ih, Bool.and_eq_true, Bool.or_eq_true,
        Bool.and_eq_true]
      rfl

variable {law' : String → Json → Bool}

theorem obeys_imp {place : Shape} {argument : Json}
    (each : ∀ schema, sizeOf schema ≤ sizeOf argument → everywhere deep law schema = true →
      everywhere deep law' schema = true)
    (obeyed : obeys deep law place argument = true) : obeys deep law' place argument = true := by
  cases place with
  | leaf => rfl
  | schema => exact each argument le_rfl obeyed
  | schemas =>
      cases argument with
      | array schemas =>
          apply everySchema_iff.mpr
          intro schema inside
          exact each schema (Json.sizeOf_item inside).le (everySchema_iff.mp obeyed schema inside)
      | _ => exact absurd obeyed (by simp [obeys])
  | entries =>
      cases argument with
      | object entries =>
          apply everyEntry_iff.mpr
          intro entry inside
          apply (everyEntry_iff.mp obeyed entry inside).imp_right
          exact each entry.2 (Json.sizeOf_member inside).le
      | _ => exact absurd obeyed (by simp [obeys])

theorem everywhere_imp
    (implies : ∀ {keyword argument}, law keyword argument = true → law' keyword argument = true)
    (schema : Json) (lawful : everywhere deep law schema = true) : everywhere deep law' schema = true := by
  induction schema using Json.induction_on_size with
  | _ schema ih =>
      cases schema with
      | bool _ => rfl
      | object keywords =>
          apply everywhere_object.mpr
          intro member inside
          apply (everywhere_object.mp lawful member inside).imp_right
          rintro ⟨obeyed, held⟩
          have below := Json.sizeOf_member inside
          exact ⟨implies obeyed, obeys_imp (fun smaller bound => ih smaller (by omega)) held⟩
      | _ => exact absurd lawful (by simp [everywhere])

theorem permits_of_fewer {fewer : List String} {keyword : String} (subset : fewer ⊆ banned)
    (permitted : permits deep banned keyword = true) : permits deep fewer keyword = true := by
  simp only [permits, Bool.and_eq_true, Bool.not_eq_true', List.contains_eq_mem,
    decide_eq_false_iff_not] at permitted ⊢
  exact ⟨fun inside => permitted.1 (subset inside), permitted.2⟩

theorem WellFormed.of_fewer {fewer : List String} {schema : Json} (formed : WellFormed deep banned schema)
    (subset : fewer ⊆ banned) : WellFormed deep fewer schema := by
  refine ⟨formed.noRepeats, everywhere_imp (fun {keyword argument} obeyed => ?_) schema formed.lawful⟩
  rw [isLawful, Bool.and_eq_true] at obeyed ⊢
  exact obeyed.imp_left (permits_of_fewer subset)

theorem holdsSchemas_iff {place : Shape} {argument : Json} (clean : argument.noRepeats = true) :
    HoldsSchemas deep banned place argument ↔
      obeys deep (isLawful deep banned) place argument = true := by
  cases place with
  | leaf => simp [HoldsSchemas, obeys]
  | schema => exact ⟨fun formed => formed.lawful, fun lawful => ⟨clean, lawful⟩⟩
  | schemas =>
      cases argument with
      | array schemas =>
          have clean := Json.noRepeats_array.mp clean
          simp only [HoldsSchemas, obeys, everySchema_iff, Json.array.injEq, exists_eq_left']
          exact ⟨fun formed schema inside => (formed schema inside).lawful,
            fun lawful schema inside => ⟨clean schema inside, lawful schema inside⟩⟩
      | _ => simp [HoldsSchemas, obeys]
  | entries =>
      cases argument with
      | object entries =>
          have clean := (Json.noRepeats_object.mp clean).2
          simp only [HoldsSchemas, obeys, everyEntry_iff, Json.object.injEq, exists_eq_left']
          exact ⟨fun formed entry inside => (formed entry inside).imp_right WellFormed.lawful,
            fun lawful entry inside =>
              (lawful entry inside).imp_right (fun lawful => ⟨clean entry inside, lawful⟩)⟩
      | _ => simp [HoldsSchemas, obeys]

theorem IsArgument.of_fewer {fewer : List String} {keyword : String} {argument : Json}
    (is : IsArgument deep banned keyword argument) (subset : fewer ⊆ banned) :
    IsArgument deep fewer keyword argument := by
  obtain ⟨present, clean, permitted, suitable, holds⟩ := is
  refine ⟨present, clean, permits_of_fewer subset permitted, suitable, ?_⟩
  unfold HoldsSchemas at holds ⊢
  split at holds
  · trivial
  · exact holds.of_fewer subset
  · obtain ⟨schemas, rfl, formed⟩ := holds
    exact ⟨schemas, rfl, fun schema inside => (formed schema inside).of_fewer subset⟩
  · obtain ⟨entries, rfl, formed⟩ := holds
    exact ⟨entries, rfl, fun entry inside =>
      (formed entry inside).imp_right fun formed => formed.of_fewer subset⟩

theorem wellFormed_object {keywords : Members} :
    WellFormed deep banned (.object keywords) ↔ keywords.Distinct ∧ ∀ {keyword argument},
      keywords.get? keyword = some argument →
        isAbsent keyword argument = true ∨ IsArgument deep banned keyword argument := by
  constructor
  · intro formed
    obtain ⟨distinct, clean⟩ := Json.noRepeats_object.mp formed.noRepeats
    refine ⟨distinct, fun {keyword argument} found => ?_⟩
    have inside := Members.mem_of_get? found
    have clean := clean _ inside
    by_cases absent : isAbsent keyword argument = true
    · exact Or.inl absent
    · obtain ⟨lawful, obeyed⟩ := (everywhere_object.mp formed.lawful _ inside).resolve_left absent
      obtain ⟨permitted, suitable⟩ := Bool.and_eq_true_iff.mp lawful
      exact Or.inr ⟨Bool.eq_false_of_not_eq_true absent, clean, permitted, suitable,
        (holdsSchemas_iff clean).mpr obeyed⟩
  · rintro ⟨distinct, every⟩
    refine ⟨Json.noRepeats_object.mpr ⟨distinct, fun member inside => ?_⟩,
      everywhere_object.mpr fun member inside => ?_⟩
    · rcases every (Members.get?_of_mem distinct inside) with absent | argument
      · simp only [isAbsent, Bool.and_eq_true, decide_eq_true_eq] at absent
        rw [absent.1]
        rfl
      · exact argument.noRepeats
    · refine (every (Members.get?_of_mem distinct inside)).imp_right fun argument => ?_
      obtain ⟨present, clean, permitted, suitable, holds⟩ := argument
      exact ⟨by rw [isLawful, permitted, suitable]; rfl, (holdsSchemas_iff clean).mp holds⟩

theorem wellFormed_of_arguments {keywords : Members} (formed : AreArguments deep banned keywords) :
    WellFormed deep banned (.object keywords) :=
  wellFormed_object.mpr ⟨formed.distinct, fun found => Or.inr (formed.argument found)⟩

theorem get?_presentKeywords {keywords : Members} (distinct : keywords.Distinct) {keyword : String}
    {argument : Json} :
    (presentKeywords (.object keywords)).get? keyword = some argument ↔
      keywords.get? keyword = some argument ∧ isAbsent keyword argument = false := by
  rw [presentKeywords, Members.get?_filter distinct, Option.filter_eq_some_iff]
  simp [isAbsent, imp_iff_or_not, or_comm]

theorem arguments_of_wellFormed {keywords : Members}
    (formed : WellFormed deep banned (.object keywords)) :
    AreArguments deep banned (presentKeywords (.object keywords)) := by
  obtain ⟨distinct, every⟩ := wellFormed_object.mp formed
  refine ⟨Members.distinct_sublist distinct List.filter_sublist, fun {keyword argument} found => ?_⟩
  obtain ⟨found, present⟩ := (get?_presentKeywords distinct).mp found
  exact (every found).resolve_left (by simp [present])

end SchemaMerge.Schema
