import SchemaMerge.Proofs.Keyword.DependentRequired
import SchemaMerge.Proofs.Keyword.Multiple
import SchemaMerge.Proofs.Validity.Argument

namespace SchemaMerge.Schema

open Keyword Leaf

variable {deep : Bool} {banned : List String} {keyword : String} {first second met : Json}
  {combined : Json → Json → Except Failure Json}

theorem holdsWhole_of_suits {argument : Json} (suitable : suits "multipleOf" argument = true) :
    holdsWhole argument = true := by
  cases argument <;> simp_all [suits, holdsWhole]

theorem suits_of_holdsWhole {argument : Json} (whole : holdsWhole argument = true) :
    suits "multipleOf" argument = true := by
  cases argument <;> simp_all [suits, holdsWhole]

theorem ne_pattern_of_suits {argument : Json} (suitable : suits keyword argument = true) :
    keyword ≠ "pattern" := by
  rintro rfl
  simp [suits] at suitable

theorem rule_asksBoth (reading : Reading) {reads : Json → Json → Bool}
    (found : rule? keyword = some (.combine combined))
    (role : reading.applicator keyword = .leaf reads) (made : combined first second = .ok met)
    (usable : keyword ≠ "pattern")
    (whole : keyword = "multipleOf" → holdsWhole first = true ∧ holdsWhole second = true)
    (clean : first.noRepeats = true) (clean' : second.noRepeats = true)
    (finite : first.isFinite = true) (finite' : second.isFinite = true) :
    AsksBoth reads first second met := by
  have annotation : AsksBoth (fun _ _ => true) first second met := fun _ => rfl
  unfold rule? at found
  split at found <;> cases found
  all_goals
    first
    | exact absurd rfl usable
    | cases role <;>
      first
      | exact annotation
      | exact absurd made (by simp [Keyword.const])
      | exact (upperBound_asksBoth made finite finite' _).1
      | exact (upperBound_asksBoth made finite finite' _).2
      | exact (lowerBound_asksBoth made finite finite' _).1
      | exact (lowerBound_asksBoth made finite finite' _).2
      | exact dependentRequired_asksBoth made clean clean'
      | exact enum_asksBoth made
      | exact (multipleOf_asksBoth made (whole rfl).1 (whole rfl).2).2
      | exact either_asksBoth made
      | exact required_asksBoth made
      | exact type_asksBoth made

structure IsClean (value : Json) : Prop where
  set : value ≠ .null
  noRepeats : value.noRepeats = true

theorem unionUnique_isClean {values others union : List Json}
    (made : unionUnique values others = .ok union)
    (clean : ∀ value ∈ values, value.noRepeats = true)
    (clean' : ∀ value ∈ others, value.noRepeats = true) : IsClean (.array union) :=
  ⟨by simp, Json.noRepeats_array.mpr fun value inside =>
    (List.mem_append.mp (mem_union made inside)).elim (clean value) (clean' value)⟩

theorem union_isClean {name : String} (made : (do
      let values ← asArray name first
      let others ← asArray name second
      return Json.array (← unionUnique values others)) = .ok met)
    (clean : first.noRepeats = true) (clean' : second.noRepeats = true) : IsClean met := by
  obtain ⟨values, others, union, rfl, rfl, rfl, joined⟩ := union_eq_ok made
  exact unionUnique_isClean joined (Json.noRepeats_array.mp clean) (Json.noRepeats_array.mp clean')

theorem dependentEntries_noRepeats {start merged entries out : Members}
    (made : Keyword.dependentEntries start merged entries = .ok out)
    (cleanStart : ∀ member ∈ start, member.2.noRepeats = true)
    (clean : ∀ member ∈ merged, member.2.noRepeats = true)
    (cleanEntries : ∀ member ∈ entries, member.2.noRepeats = true) :
    ∀ member ∈ out, member.2.noRepeats = true := by
  induction entries generalizing merged with
  | nil =>
      obtain rfl := pure_eq_ok.mp made
      exact clean
  | cons entry rest ih =>
      obtain ⟨key, names⟩ := entry
      obtain ⟨cleanNames, cleanRest⟩ := List.forall_mem_cons.mp cleanEntries
      by_cases null : names = .null
      · subst null
        exact ih made clean cleanRest
      · obtain ⟨others, joined, rfl, joins, made⟩ := dependentEntries_cons_ok null made
        refine ih made (fun member inside => ?_) cleanRest
        rcases Members.mem_set inside with rfl | inside
        · rcases joins with ⟨-, rfl⟩ | ⟨names, found, union⟩
          · exact cleanNames
          · have known := Members.mem_of_get? (Members.present?_eq_some_iff.mp found).1
            exact (unionUnique_isClean union (Json.noRepeats_array.mp (cleanStart _ known))
              (Json.noRepeats_array.mp cleanNames)).noRepeats
        · exact clean member inside

theorem dependentRequired_isClean (made : Keyword.dependentRequired first second = .ok met)
    (clean : first.noRepeats = true) (clean' : second.noRepeats = true) : IsClean met := by
  obtain ⟨entries, others, out, rfl, rfl, merged, rfl⟩ := dependentRequired_eq_ok made
  obtain ⟨distinct, clean⟩ := Json.noRepeats_object.mp clean
  have clean' := (Json.noRepeats_object.mp clean').2
  exact ⟨by simp, Json.noRepeats_object.mpr ⟨dependentEntries_distinct merged distinct,
    dependentEntries_noRepeats merged clean clean clean'⟩⟩

theorem enum_isClean (made : Keyword.enum first second = .ok met) (clean : first.noRepeats = true) :
    IsClean met := by
  obtain ⟨values, others, rfl, rfl, -, -, rfl⟩ := enum_eq_ok made
  exact ⟨by simp, Json.noRepeats_array.mpr fun value inside =>
    Json.noRepeats_array.mp clean value (List.mem_of_mem_filter inside)⟩

theorem type_isClean (made : Keyword.type first second = .ok met) : IsClean met := by
  obtain ⟨names, others, common, -, -, -, -, ⟨name, -, rfl⟩ | ⟨-, rfl⟩⟩ := type_cases made
  · exact ⟨by simp, rfl⟩
  · refine ⟨by simp, Json.noRepeats_array.mpr fun value inside => ?_⟩
    obtain ⟨name, -, rfl⟩ := List.mem_map.mp inside
    rfl

theorem description_isClean (made : Keyword.description first second = .ok met) : IsClean met := by
  unfold Keyword.description at made
  split at made
  · obtain rfl := pure_eq_ok.mp made
    exact ⟨by simp, rfl⟩
  · exact absurd made (by simp)

theorem either_isClean (made : Keyword.either first second = .ok met) : IsClean met := by
  unfold Keyword.either at made
  split at made
  · obtain rfl := pure_eq_ok.mp made
    exact ⟨by simp, rfl⟩
  · exact absurd made (by simp)

theorem number_isClean (number : Number) : IsClean (.number number) := ⟨by simp, rfl⟩

theorem number_suits (usable : keyword ≠ "pattern") (other : keyword ≠ "multipleOf")
    (number : Number) : suits keyword (.number number) = true := by
  unfold suits
  split <;> simp_all

theorem upperBound_isClean (made : upperBound first second = .ok met) : IsClean met := by
  obtain ⟨x, y, -, -, rfl⟩ := upperBound_eq_ok made
  exact number_isClean _

theorem lowerBound_isClean (made : lowerBound first second = .ok met) : IsClean met := by
  obtain ⟨x, y, -, -, rfl⟩ := lowerBound_eq_ok made
  exact number_isClean _

theorem multipleOf_isClean (made : multipleOf first second = .ok met) : IsClean met := by
  obtain ⟨x, y, _, _, rfl, rfl, -, -, -, -, ⟨-, rfl⟩ | ⟨-, rfl⟩ | rfl⟩ := multipleOf_eq_ok made
  all_goals exact number_isClean _

theorem pattern_isClean (made : Keyword.pattern first second = .ok met) : IsClean met := by
  unfold Keyword.pattern at made
  split at made
  · obtain rfl := pure_eq_ok.mp made
    exact ⟨by simp, rfl⟩
  · exact absurd made (by simp)

theorem rule_isClean (found : rule? keyword = some (.combine combined))
    (made : combined first second = .ok met) (clean : first.noRepeats = true)
    (clean' : second.noRepeats = true) : IsClean met := by
  unfold rule? at found
  split at found <;> cases found
  all_goals
    first
    | exact absurd made (by simp [Keyword.const])
    | exact upperBound_isClean made
    | exact lowerBound_isClean made
    | exact multipleOf_isClean made
    | exact description_isClean made
    | exact either_isClean made
    | exact type_isClean made
    | exact pattern_isClean made
    | exact enum_isClean made clean
    | exact dependentRequired_isClean made clean clean'
    | exact union_isClean made clean clean'

theorem rule_suits (found : rule? keyword = some (.combine combined))
    (made : combined first second = .ok met) (suitable : suits keyword first = true)
    (suitable' : suits keyword second = true) : suits keyword met = true := by
  have usable := ne_pattern_of_suits suitable
  have upper (made : upperBound first second = .ok met) (other : keyword ≠ "multipleOf") :
      suits keyword met = true := by
    obtain ⟨x, y, -, -, rfl⟩ := upperBound_eq_ok made
    exact number_suits usable other _
  have lower (made : lowerBound first second = .ok met) (other : keyword ≠ "multipleOf") :
      suits keyword met = true := by
    obtain ⟨x, y, -, -, rfl⟩ := lowerBound_eq_ok made
    exact number_suits usable other _
  unfold rule? at found
  split at found <;> cases found
  case h_19 =>
    exact suits_of_holdsWhole (multipleOf_asksBoth made (holdsWhole_of_suits suitable)
      (holdsWhole_of_suits suitable')).1
  all_goals
    first
    | exact absurd rfl usable
    | exact upper made (by decide)
    | exact lower made (by decide)
    | simp [suits]

/-- A combined argument is one that its keyword allows. -/
theorem rule_isArgument (found : rule? keyword = some (.combine combined))
    (place : shape deep keyword = .leaf) (made : combined first second = .ok met)
    (argument : IsArgument deep banned keyword first)
    (argument' : IsArgument deep banned keyword second) : IsArgument deep banned keyword met := by
  obtain ⟨set, clean⟩ := rule_isClean found made argument.noRepeats argument'.noRepeats
  refine ⟨by simp [isAbsent, set], clean, argument.permitted,
    rule_suits found made argument.suitable argument'.suitable, ?_⟩
  rw [place]
  trivial

end SchemaMerge.Schema
