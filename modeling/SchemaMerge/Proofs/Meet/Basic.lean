import SchemaMerge.Proofs.Keyword.Rule
import SchemaMerge.Schema.Alternatives

/-!
What the meet of two schemas owes them: it accepts nothing that one of them rejects, and where it is
exact it accepts everything that both accept.
-/

namespace SchemaMerge.Schema

structure IsMeet (exact : Prop) (first second met : Json → Bool) : Prop where
  narrow : ∀ {value}, met value = true → first value = true ∧ second value = true
  full : exact → ∀ {value}, first value = true → second value = true → met value = true

namespace IsMeet

variable {exact : Prop} {first second met : Json → Bool}

theorem of_both (both : ∀ value, met value = (first value && second value)) :
    IsMeet exact first second met := by
  constructor
  · intro value accepted
    rwa [both, Bool.and_eq_true] at accepted
  · intro _ value accepted accepted'
    rw [both, accepted, accepted']
    rfl

theorem of_left (step : ∀ value, first value = true → second value = true) :
    IsMeet exact first second first :=
  of_both fun value => and_eq_left_of_imp (step value)

theorem of_right (step : ∀ value, second value = true → first value = true) :
    IsMeet exact first second second :=
  of_both fun value => and_eq_right_of_imp (step value)

theorem swap (meet : IsMeet exact first second met) : IsMeet exact second first met :=
  ⟨fun accepted => (meet.narrow accepted).symm,
    fun exactly _ accepted accepted' => meet.full exactly accepted' accepted⟩

theorem eq_and (meet : IsMeet exact first second met) (exactly : exact) (value : Json) :
    met value = (first value && second value) := by
  rw [Bool.eq_iff_iff, Bool.and_eq_true]
  exact ⟨meet.narrow, fun both => meet.full exactly both.1 both.2⟩

end IsMeet

/-- Without patterns, or without additional properties, the members of an object are merged exactly. -/
def IsExact (banned : List String) : Prop :=
  "patternProperties" ∈ banned ∨ "additionalProperties" ∈ banned

/-- A way to meet schemas that gives well-formed schemas, and meets their readings. -/
structure Sound (reading : Reading) (banned : List String) (recur : Meeting) : Prop where
  shapes : ∀ {first second met}, recur first second = .ok met →
    isSchema first = true ∧ isSchema second = true
  formed : ∀ {first second met}, recur first second = .ok met →
    WellFormed reading.deep banned first → WellFormed reading.deep banned second →
    WellFormed reading.deep banned met
  meets : ∀ {first second met}, recur first second = .ok met →
    WellFormed reading.deep banned first → WellFormed reading.deep banned second →
    IsMeet (IsExact banned) (accepts reading first) (accepts reading second) (accepts reading met)

theorem foldlM_meets {reading : Reading} {banned : List String} {recur : Meeting}
    (sound : Sound reading banned recur) {schemas : List Json} {entry met : Json}
    (made : schemas.foldlM recur entry = .ok met)
    (formed : WellFormed reading.deep banned entry)
    (formedAll : ∀ schema ∈ schemas, schema = .null ∨ WellFormed reading.deep banned schema) :
    (∀ schema ∈ schemas, schema ≠ .null) ∧ WellFormed reading.deep banned met ∧
      IsMeet (IsExact banned) (accepts reading entry)
        (fun value => schemas.all (accepts reading · value)) (accepts reading met) := by
  induction schemas generalizing entry with
  | nil =>
      obtain rfl := pure_eq_ok.mp made
      exact ⟨by simp, formed, .of_left (by simp)⟩
  | cons schema rest ih =>
      rw [List.foldlM_cons] at made
      obtain ⟨middle, done, made⟩ := bind_eq_ok.mp made
      obtain ⟨formedHead, formedRest⟩ := List.forall_mem_cons.mp formedAll
      have set : schema ≠ .null := by
        rintro rfl
        exact absurd (sound.shapes done).2 (by simp [isSchema])
      have formedHead := formedHead.resolve_left set
      have head := sound.meets done formed formedHead
      obtain ⟨setRest, formedMet, tail⟩ := ih made (sound.formed done formed formedHead) formedRest
      refine ⟨List.forall_mem_cons.mpr ⟨set, setRest⟩, formedMet, ?_, ?_⟩
      · intro value accepted
        obtain ⟨acceptedMiddle, acceptedRest⟩ := tail.narrow accepted
        obtain ⟨acceptedEntry, acceptedHead⟩ := head.narrow acceptedMiddle
        exact ⟨acceptedEntry, by rw [List.all_cons, acceptedHead, acceptedRest]; rfl⟩
      · intro exactly value acceptedEntry acceptedAll
        rw [List.all_cons, Bool.and_eq_true] at acceptedAll
        exact tail.full exactly (head.full exactly acceptedEntry acceptedAll.1) acceptedAll.2

theorem applicator_shape (reading : Reading) (keyword : String) :
    (reading.applicator keyword).shape = shape reading.deep keyword := by
  unfold Reading.applicator
  split
  case' h_25 =>
    split
    case' isTrue listed =>
      simp only [annotations, List.contains_eq_mem, List.mem_cons, List.not_mem_nil, or_false,
        decide_eq_true_eq] at listed
      rcases listed with rfl | rfl | rfl | rfl | rfl | rfl | rfl | rfl
    case' isFalse =>
      split
      case' isTrue deep =>
        rw [deep]
        unfold Reading.inner
        split
      case' isFalse shallow =>
        rw [Bool.eq_false_of_not_eq_true shallow]
  all_goals
    first
    | rfl
    | unfold shape
      split <;> first | rfl | contradiction

theorem leaf_of_shape {reading : Reading} {keyword : String}
    (place : shape reading.deep keyword = .leaf) :
    ∃ reads, reading.applicator keyword = .leaf reads := by
  rw [← applicator_shape] at place
  cases role : reading.applicator keyword with
  | leaf reads => exact ⟨reads, rfl⟩
  | _ => simp [role, Applicator.shape] at place

theorem satisfies_leaf {reading : Reading} {keyword : String} {reads : Json → Json → Bool}
    (role : reading.applicator keyword = .leaf reads) {argument : Json}
    (present : isAbsent keyword argument = false) (siblings : Members) (value : Json) :
    satisfies reading siblings keyword argument value = reads argument value := by
  simp [satisfies, role, present]

theorem satisfies_schema {reading : Reading} {keyword : String}
    {reads : (String → Bool) → (Json → Bool) → Json → Bool}
    (role : reading.applicator keyword = .schema reads) {schema : Json}
    (present : isAbsent keyword schema = false) (siblings : Members) (value : Json) :
    satisfies reading siblings keyword schema value =
      reads (covers siblings) (accepts reading schema) value := by
  simp [satisfies, role, present]

theorem satisfies_schemas {reading : Reading} {keyword : String} {reads : List Bool → Bool}
    (role : reading.applicator keyword = .schemas reads) {schemas : List Json} (siblings : Members)
    (value : Json) :
    satisfies reading siblings keyword (.array schemas) value =
      reads (schemas.map (fun schema => accepts reading schema value)) := by
  simp [satisfies, role, isAbsent]

/-- Only `additionalProperties` is read together with the keywords beside it. -/
theorem satisfies_siblings (reading : Reading) {keyword : String}
    (other : keyword ≠ "additionalProperties") (siblings siblings' : Members) (argument : Json) :
    satisfies reading siblings keyword argument = satisfies reading siblings' keyword argument := by
  have alone : ∀ reads, reading.applicator keyword = .schema reads →
      ∀ covered covered', reads covered = reads covered' := by
    intro reads role
    unfold Reading.applicator at role
    split at role
    case h_23 => exact absurd rfl other
    case' h_25 =>
      split at role
      case' isFalse =>
        split at role
        case' isTrue =>
          unfold Reading.inner at role
          split at role
    all_goals cases role <;> exact fun _ _ => rfl
  funext value
  unfold satisfies
  cases role : reading.applicator keyword with
  | schema reads => simp only [alone reads role (covers siblings) (covers siblings')]
  | _ => cases argument <;> rfl

theorem isArgument_array {deep : Bool} {banned : List String} {keyword : String}
    (place : shape deep keyword = .schemas) (permitted : permits deep banned keyword = true)
    {schemas : List Json} (formed : ∀ schema ∈ schemas, WellFormed deep banned schema) :
    IsArgument deep banned keyword (.array schemas) := by
  refine ⟨by simp [isAbsent], Json.noRepeats_array.mpr fun schema inside =>
    (formed schema inside).noRepeats, permitted, ?_, by rw [place]; exact ⟨schemas, rfl, formed⟩⟩
  unfold suits
  split <;> first | rfl | cases place

theorem isSchema_of_wellFormed {deep : Bool} {banned : List String} {schema : Json}
    (formed : WellFormed deep banned schema) : isSchema schema = true := by
  have lawful := formed.lawful
  cases schema <;> simp_all [everywhere, isSchema]

theorem isArgument_schema {deep : Bool} {banned : List String} {keyword : String}
    (place : shape deep keyword = .schema) (permitted : permits deep banned keyword = true)
    {schema : Json} (formed : WellFormed deep banned schema) :
    IsArgument deep banned keyword schema := by
  have shaped := isSchema_of_wellFormed formed
  refine ⟨?_, formed.noRepeats, permitted, ?_, by rw [place]; exact formed⟩
  · cases schema <;> simp_all [isAbsent, isSchema]
  · unfold suits
    split <;> first | rfl | cases place

structure Combines (reading : Reading) (banned : List String) (keyword : String)
    (first second met : Json) : Prop where
  argument : IsArgument reading.deep banned keyword met
  meets : ∀ siblings, IsMeet (IsExact banned) (satisfies reading siblings keyword first)
    (satisfies reading siblings keyword second) (satisfies reading siblings keyword met)

theorem rule?_shape {keyword : String} {rule : Rule} (found : rule? keyword = some rule)
    (other : keyword ≠ "allOf") (deep : Bool) : shape deep keyword = .leaf := by
  unfold rule? at found
  split at found
  case h_1 => exact absurd rfl other
  case h_27 => exact absurd found (by simp)
  all_goals rfl

end SchemaMerge.Schema
