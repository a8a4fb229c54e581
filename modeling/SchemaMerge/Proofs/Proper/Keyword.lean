import SchemaMerge.Proofs.Failing.Keyword
import SchemaMerge.Proofs.Keyword.Fraction
import SchemaMerge.Proofs.Proper.Basic

namespace SchemaMerge.Schema

open Form Keyword

def properKinds : List Failure.Kind := [.empty, .unsupported, .depth]

variable {keyword : String} {first second met : Json} {failure : Failure}

theorem isNumber_iff {value : Json} : value.isNumber = true ↔ IsNumber value := by
  cases value <;> simp [Json.isNumber, IsNumber]

theorem isArray_iff {value : Json} : isArray value = true ↔ IsArray value := by
  cases value <;> simp [isArray, IsArray]

theorem isString_iff {value : Json} : isString value = true ↔ ∃ text, value = .string text := by
  cases value <;> simp [isString]

theorem isBool_iff {value : Json} : value.isBool = true ↔ ∃ answer, value = .bool answer := by
  cases value <;> simp [Json.isBool]

theorem isNames_iff {value : Json} :
    isNames value = true ↔ ∃ names : List String, value = .array (names.map .string) ∧ names.Nodup := by
  have injective : Function.Injective Json.string := fun _ _ same => Json.string.inj same
  constructor
  · intro formed
    cases value with
    | array items =>
        simp only [isNames, Bool.and_eq_true, List.all_eq_true, isString_iff, decide_eq_true_eq] at formed
        obtain ⟨names, rfl⟩ := exists_names formed.1
        exact ⟨names, rfl, (List.nodup_map_iff injective).mp formed.2⟩
    | _ => exact absurd formed (by simp [isNames])
  · rintro ⟨names, rfl, distinct⟩
    simp [isNames, isString, List.nodup_map_iff injective, distinct]

theorem isPlain_names (names : List String) : IsPlain (.array (names.map .string)) := by
  refine isPlain_array.mpr fun item inside => ?_
  obtain ⟨name, -, rfl⟩ := List.mem_map.mp inside
  exact ⟨rfl, rfl⟩

theorem unseen_nodup {seen values added : List Json} (made : Json.unseen seen values = .ok added) :
    (added.map Json.arranged).Nodup ∧ ∀ value ∈ added, value.arranged ∉ seen := by
  induction values generalizing seen added with
  | nil =>
      obtain rfl := Except.ok.inj made
      simp
  | cons value rest ih =>
      obtain ⟨form, formed, made⟩ := bind_eq_ok.mp made
      obtain ⟨-, rfl⟩ := Json.canonical_eq_ok.mp formed
      split at made
      · exact ih made
      · next new =>
        obtain ⟨others, madeRest, made⟩ := bind_eq_ok.mp made
        obtain rfl := Except.ok.inj made
        obtain ⟨distinct, fresh⟩ := ih madeRest
        refine ⟨?_, List.forall_mem_cons.mpr ⟨by simpa using new, fun other inside old => ?_⟩⟩
        · rw [List.map_cons, List.nodup_cons]
          refine ⟨fun again => ?_, distinct⟩
          obtain ⟨other, inside, same⟩ := List.mem_map.mp again
          exact fresh other inside (by simp [same])
        · exact fresh other inside (List.mem_cons_of_mem _ old)

section union

variable {values others union : List Json}

theorem union_ne_nil (made : unionUnique values others = .ok union) (nonempty : values ≠ []) :
    union ≠ [] := by
  obtain ⟨added, rfl, -, -⟩ := Json.unionUnique_eq_ok (unionUnique_eq_ok made)
  exact fun none => nonempty (List.append_eq_nil_iff.mp none).1

theorem isPlain_union (made : unionUnique values others = .ok union) (plain : IsPlain (.array values))
    (plain' : IsPlain (.array others)) : IsPlain (.array union) :=
  isPlain_array.mpr fun value inside => (List.mem_append.mp (mem_union made inside)).elim
    (isPlain_array.mp plain value) (isPlain_array.mp plain' value)

theorem union_nodup (made : unionUnique values others = .ok union)
    (distinct : (values.map Json.arranged).Nodup) : (union.map Json.arranged).Nodup := by
  obtain ⟨seen, listed, made⟩ := bind_eq_ok.mp (unionUnique_eq_ok made)
  obtain ⟨added, new, made⟩ := bind_eq_ok.mp made
  obtain rfl := Except.ok.inj made
  obtain ⟨-, rfl⟩ := Json.canonicalItems_eq_ok listed
  obtain ⟨distinctAdded, fresh⟩ := unseen_nodup new
  rw [List.map_append]
  refine List.Nodup.append distinct distinctAdded fun form old again => ?_
  obtain ⟨other, inside, rfl⟩ := List.mem_map.mp again
  exact fresh other inside old

theorem isNames_union (made : unionUnique values others = .ok union)
    (named : isNames (.array values) = true) (named' : isNames (.array others) = true) :
    isNames (.array union) = true := by
  obtain ⟨names, ⟨⟩, distinct⟩ := isNames_iff.mp named
  obtain ⟨names', ⟨⟩, -⟩ := isNames_iff.mp named'
  have form : Json.arranged ∘ Json.string = Json.string := rfl
  have distinctUnion := union_nodup made (by
    rw [List.map_map, form]
    exact distinct.map fun _ _ same => Json.string.inj same)
  have strings : ∀ item ∈ union, isString item = true := by
    intro item inside
    rcases List.mem_append.mp (mem_union made inside) with inside | inside <;>
      obtain ⟨name, -, rfl⟩ := List.mem_map.mp inside <;> rfl
  rw [isNames, Bool.and_eq_true, decide_eq_true_eq, List.all_eq_true]
  exact ⟨strings, distinctUnion.of_map⟩

end union

theorem argument_of_fits (place : nesting keyword = .leaf) (plain : IsPlain met)
    (formed : fits keyword met = true) : ProperArgument keyword met :=
  ⟨plain, by rwa [HoldsProper, place]⟩

theorem upperBound_eq_or (made : upperBound first second = .ok met) : met = first ∨ met = second := by
  obtain ⟨x, y, rfl, rfl, rfl⟩ := upperBound_eq_ok made
  unfold Number.least
  split <;> simp

theorem lowerBound_eq_or (made : lowerBound first second = .ok met) : met = first ∨ met = second := by
  obtain ⟨x, y, rfl, rfl, rfl⟩ := lowerBound_eq_ok made
  unfold Number.greatest
  split <;> simp

theorem eraseDups_nodup (names : List String) : names.eraseDups.Nodup := by
  induction size : names.length using Nat.strong_induction_on generalizing names with
  | _ bound ih =>
      subst size
      cases names with
      | nil => simp
      | cons name rest =>
          rw [List.eraseDups_cons, List.nodup_cons]
          refine ⟨fun again => ?_, ih _ (Nat.lt_succ_of_le (List.length_filter_le _ _)) _ rfl⟩
          obtain ⟨-, other⟩ := List.mem_filter.mp (List.mem_eraseDups.mp again)
          simp at other

theorem isType_iff {value : Json} : isType value = true ↔
    (∃ name ∈ basicTypes, value = .string name) ∨ ∃ names : List String, value = .array (names.map .string) ∧
      names ≠ [] ∧ names.Nodup ∧ ∀ name ∈ names, name ∈ basicTypes := by
  have injective : Function.Injective Json.string := fun _ _ same => Json.string.inj same
  constructor
  · intro formed
    cases value with
    | array items =>
        simp only [isType, Bool.and_eq_true, List.all_eq_true, decide_eq_true_eq] at formed
        obtain ⟨⟨nonempty, named⟩, distinct⟩ := formed
        have strings : ∀ item ∈ items, ∃ name, item = .string name := by
          intro item inside
          have known := named item inside
          cases item <;> simp_all [isTypeName]
        obtain ⟨names, rfl⟩ := exists_names strings
        refine Or.inr ⟨names, rfl, ?_, (List.nodup_map_iff injective).mp distinct, fun name inside => ?_⟩
        · rintro rfl
          exact absurd nonempty (by simp)
        · simpa [isTypeName] using named _ (List.mem_map_of_mem inside)
    | string name => exact Or.inl ⟨name, by simpa [isType, isTypeName] using formed, rfl⟩
    | _ => exact absurd formed (by simp [isType, isTypeName])
  · rintro (⟨name, known, rfl⟩ | ⟨names, rfl, nonempty, distinct, known⟩)
    · simpa [isType, isTypeName] using known
    · simpa [isType, isTypeName, List.nodup_map_iff injective, nonempty, distinct] using known

theorem typeNames_proper {value : Json} {names : List String} (formed : isType value = true)
    (read : typeNames value = .ok names) : ∀ name ∈ names, name ∈ basicTypes := by
  rcases isType_iff.mp formed with ⟨name, known, rfl⟩ | ⟨names', rfl, -, -, known⟩
  · have one := typeNamesOf_eq_ok read
    intro other inside
    have listed : Json.string other ∈ names.map Json.string := List.mem_map_of_mem inside
    rw [← one, List.mem_singleton] at listed
    rwa [Json.string.inj listed]
  · have same := List.map_injective_iff.mpr (fun _ _ same => Json.string.inj same) (typeNamesOf_eq_ok read)
    rwa [← same]

theorem commonType?_known {others : List String} {name common : String} (known : name ∈ basicTypes)
    (found : commonType? others name = some common) : common ∈ basicTypes := by
  unfold commonType? at found
  split at found
  · rwa [← Option.some.inj found]
  · split at found
    · rw [← Option.some.inj found]
      decide
    · split at found
      · rw [← Option.some.inj found]
        decide
      · cases found

theorem type_isType (made : Keyword.type first second = .ok met) (formed : isType first = true) :
    isType met = true := by
  obtain ⟨names, others, common, read, -, is, nonempty, written⟩ := type_cases made
  have known : ∀ name ∈ common, name ∈ basicTypes := by
    intro shared inside
    rw [is] at inside
    obtain ⟨name, listed, found⟩ := List.mem_filterMap.mp (List.mem_eraseDups.mp inside)
    exact commonType?_known (typeNames_proper formed read name listed) found
  have distinct : common.Nodup := is ▸ eraseDups_nodup (names.filterMap (commonType? others))
  rcases written with ⟨name, rfl, rfl⟩ | ⟨-, rfl⟩
  · exact isType_iff.mpr (Or.inl ⟨name, known name (by simp), rfl⟩)
  · exact isType_iff.mpr (Or.inr ⟨common, rfl, nonempty, distinct, known⟩)

theorem dependentEntries_names {start merged entries out : Members}
    (made : dependentEntries start merged entries = .ok out)
    (namedStart : ∀ entry ∈ start, isNames entry.2 = true)
    (named : ∀ entry ∈ merged, isNames entry.2 = true)
    (namedEntries : ∀ entry ∈ entries, isNames entry.2 = true) :
    ∀ entry ∈ out, isNames entry.2 = true := by
  induction entries generalizing merged with
  | nil =>
      obtain rfl := pure_eq_ok.mp made
      exact named
  | cons entry rest ih =>
      obtain ⟨key, names⟩ := entry
      obtain ⟨namedNames, namedRest⟩ := List.forall_mem_cons.mp namedEntries
      have set : names ≠ .null := by
        rintro rfl
        exact absurd namedNames (by simp [isNames])
      obtain ⟨others, joined, rfl, joins, made⟩ := dependentEntries_cons_ok set made
      refine ih made (fun entry inside => ?_) namedRest
      rcases Members.mem_set inside with rfl | inside
      · rcases joins with ⟨-, rfl⟩ | ⟨names, found, union⟩
        · exact namedNames
        · have known := Members.mem_of_get? (Members.present?_eq_some_iff.mp found).1
          exact isNames_union union (namedStart _ known) namedNames
      · exact named entry inside

theorem isEntriesOfNames_iff {value : Json} : isEntriesOfNames value = true ↔
    ∃ entries, value = .object entries ∧ ∀ entry ∈ entries, isNames entry.2 = true := by
  cases value <;> simp [isEntriesOfNames]

theorem isPlain_of_isNames {value : Json} (formed : isNames value = true) : IsPlain value := by
  obtain ⟨names, rfl, -⟩ := isNames_iff.mp formed
  exact isPlain_names names

theorem dependentRequired_proper (made : dependentRequired first second = .ok met)
    (plain : IsPlain first) (formed : isEntriesOfNames first = true)
    (formed' : isEntriesOfNames second = true) : IsPlain met ∧ isEntriesOfNames met = true := by
  obtain ⟨entries, others, out, rfl, rfl, merged, rfl⟩ := dependentRequired_eq_ok made
  obtain ⟨_, ⟨⟩, named⟩ := isEntriesOfNames_iff.mp formed
  obtain ⟨_, ⟨⟩, named'⟩ := isEntriesOfNames_iff.mp formed'
  have namedOut := dependentEntries_names merged named named named'
  exact ⟨isPlain_object.mpr ⟨dependentEntries_distinct merged (isPlain_object.mp plain).1,
      fun entry inside => isPlain_of_isNames (namedOut entry inside)⟩,
    isEntriesOfNames_iff.mpr ⟨out, rfl, namedOut⟩⟩

theorem multipleOf_proper (made : multipleOf first second = .ok met)
    (plain : IsPlain first) (plain' : IsPlain second) : IsPlain met ∧ isPositive met = true := by
  obtain ⟨divisor, divisor', x, y, rfl, rfl, above, above', decimal, decimal',
    ⟨-, rfl⟩ | ⟨-, rfl⟩ | rfl⟩ := multipleOf_eq_ok made
  · exact ⟨plain, above⟩
  · exact ⟨plain', above'⟩
  · obtain ⟨positive, finite⟩ := numberOf_commonMultiple_pos above above' decimal decimal'
    exact ⟨⟨rfl, finite⟩, positive⟩

theorem enum_proper (made : Keyword.enum first second = .ok met) (plain : IsPlain first) :
    IsPlain met ∧ isArray met = true := by
  obtain ⟨values, others, rfl, rfl, -, -, rfl⟩ := enum_eq_ok made
  exact ⟨isPlain_array.mpr fun value inside =>
    isPlain_array.mp plain value (List.mem_of_mem_filter inside), rfl⟩

theorem isPlain_of_isType {value : Json} (formed : isType value = true) : IsPlain value := by
  rcases isType_iff.mp formed with ⟨name, -, rfl⟩ | ⟨names, rfl, -⟩
  · exact ⟨rfl, rfl⟩
  · exact isPlain_names names

theorem description_proper (made : description first second = .ok met) :
    IsPlain met ∧ isString met = true := by
  unfold description at made
  split at made
  · obtain rfl := pure_eq_ok.mp made
    exact ⟨⟨rfl, rfl⟩, rfl⟩
  · exact absurd made (by simp)

theorem either_proper (made : either first second = .ok met) : IsPlain met ∧ met.isBool = true := by
  unfold either at made
  split at made
  · obtain rfl := pure_eq_ok.mp made
    exact ⟨⟨rfl, rfl⟩, rfl⟩
  · exact absurd made (by simp)

theorem required_proper (made : required first second = .ok met) (formed : isNames first = true)
    (formed' : isNames second = true) : IsPlain met ∧ isNames met = true := by
  obtain ⟨values, others, union, rfl, rfl, rfl, joined⟩ := union_eq_ok made
  have named := isNames_union joined formed formed'
  exact ⟨isPlain_of_isNames named, named⟩

theorem examples_proper (made : examples first second = .ok met) (plain : IsPlain first)
    (plain' : IsPlain second) : IsPlain met ∧ isArray met = true := by
  obtain ⟨values, others, union, rfl, rfl, rfl, joined⟩ := union_eq_ok made
  exact ⟨isPlain_union joined plain plain', rfl⟩

theorem allOf_proper (made : allOf first second = .ok met) (plain : IsPlain first)
    (plain' : IsPlain second) (formed : isSchemas first = true) (formed' : isSchemas second = true) :
    IsPlain met ∧ isSchemas met = true := by
  obtain ⟨values, others, union, rfl, rfl, rfl, joined⟩ := union_eq_ok made
  simp only [isSchemas, Bool.and_eq_true, Bool.not_eq_true', List.isEmpty_eq_false_iff,
    List.all_eq_true] at formed formed' ⊢
  exact ⟨isPlain_union joined plain plain', union_ne_nil joined formed.1, fun schema inside =>
    (List.mem_append.mp (mem_union joined inside)).elim (formed.2 schema) (formed'.2 schema)⟩

theorem rule_proper {combined : Json → Json → Except Failure Json}
    (found : rule? keyword = some (.combine combined)) (made : combined first second = .ok met)
    (formed : ProperArgument keyword first) (formed' : ProperArgument keyword second) :
    ProperArgument keyword met := by
  have either_side (is : met = first ∨ met = second) : ProperArgument keyword met := by
    rcases is with rfl | rfl
    · exact formed
    · exact formed'
  have build (place : nesting keyword = .leaf) (result : IsPlain met ∧ fits keyword met = true) :
      ProperArgument keyword met := argument_of_fits place result.1 result.2
  obtain ⟨plain, holds⟩ := formed
  obtain ⟨plain', holds'⟩ := formed'
  unfold rule? at found
  split at found <;> cases found
  all_goals
    first
    | exact either_side (upperBound_eq_or made)
    | exact either_side (lowerBound_eq_or made)
    | exact build rfl (allOf_proper made plain plain' holds holds')
    | exact build rfl (dependentRequired_proper made plain holds holds')
    | exact build rfl (description_proper made)
    | exact build rfl (enum_proper made plain)
    | exact build rfl (examples_proper made plain plain')
    | exact build rfl (multipleOf_proper made plain plain')
    | exact build rfl (either_proper made)
    | exact build rfl (required_proper made holds holds')
    | exact build rfl ⟨isPlain_of_isType (type_isType made holds), type_isType made holds⟩
    | exact absurd made (by simp [Keyword.const])
    | exact absurd holds Bool.false_ne_true

theorem isNumber_of_isSize {value : Json} (formed : isSize value = true) : IsNumber value := by
  cases value <;> simp_all [isSize, IsNumber]

theorem isArray_of_isNames {value : Json} (formed : isNames value = true) : IsArray value := by
  obtain ⟨names, rfl, -⟩ := isNames_iff.mp formed
  exact ⟨_, rfl⟩

theorem isArray_of_isSchemas {value : Json} (formed : isSchemas value = true) : IsArray value := by
  cases value <;> simp_all [isSchemas, IsArray]

theorem isTypeNames_of_isType {value : Json} (formed : isType value = true) : IsTypeNames value := by
  rcases isType_iff.mp formed with ⟨name, -, rfl⟩ | ⟨names, rfl, -⟩
  · exact Or.inl ⟨name, rfl⟩
  · exact Or.inr ⟨names, rfl⟩

theorem isDivisor_of_isPositive {value : Json} (plain : IsPlain value) (formed : isPositive value = true) :
    IsDivisor value := by
  have finite := plain.finite
  cases value with
  | number number =>
      cases number with
      | int integer => exact ⟨_, _, rfl, formed, rfl⟩
      | float double =>
          cases double with
          | finite x => exact ⟨_, _, rfl, formed, rfl⟩
          | infinity negative => exact absurd finite (by simp [Json.isFinite, Json.nonFinite?, Double.isFinite])
          | nan => exact absurd finite (by simp [Json.isFinite, Json.nonFinite?, Double.isFinite])
  | _ => exact absurd formed (by simp [isPositive])

section failure

variable (plain : IsPlain first) (plain' : IsPlain second)
include plain plain'

theorem union_kind {name : String} (failed : (do
      let values ← asArray name first
      let others ← asArray name second
      return Json.array (← unionUnique values others)) = .error failure)
    (listed : IsArray first) (listed' : IsArray second) : failure.kind ∈ properKinds := by
  obtain ⟨-, other | other | infinite | infinite⟩ := union_eq_error failed
  · exact absurd listed other
  · exact absurd listed' other
  · exact absurd plain.finite (by simp [infinite])
  · exact absurd plain'.finite (by simp [infinite])

theorem enum_kind (failed : Keyword.enum first second = .error failure)
    (listed : isArray first = true) (listed' : isArray second = true) :
    failure.kind ∈ properKinds := by
  rcases enum_eq_error failed with ⟨-, other | other | infinite | infinite⟩ | kind | ⟨rfl, -⟩
  · exact absurd (isArray_iff.mp listed) other
  · exact absurd (isArray_iff.mp listed') other
  · exact absurd plain.finite (by simp [infinite])
  · exact absurd plain'.finite (by simp [infinite])
  · simp [kind, properKinds]
  · simp [properKinds, Failure.kind]

theorem dependentRequired_kind (failed : dependentRequired first second = .error failure)
    (formed : isEntriesOfNames first = true) (formed' : isEntriesOfNames second = true) :
    failure.kind ∈ properKinds := by
  obtain ⟨entries, rfl, named⟩ := isEntriesOfNames_iff.mp formed
  obtain ⟨entries', rfl, named'⟩ := isEntriesOfNames_iff.mp formed'
  obtain ⟨-, why⟩ := dependentRequired_eq_error failed
  rcases why entries entries' rfl rfl with other | other | infinite | infinite
  · exact absurd (fun entry inside => Or.inr (isArray_of_isNames (named entry inside))) other
  · exact absurd (fun entry inside => Or.inr (isArray_of_isNames (named' entry inside))) other
  · exact absurd plain.finite (by simp [infinite])
  · exact absurd plain'.finite (by simp [infinite])

theorem multipleOf_kind (failed : multipleOf first second = .error failure)
    (formed : isPositive first = true) (formed' : isPositive second = true) :
    failure.kind ∈ properKinds := by
  rcases (multipleOf_eq_error failed).2 with other | other
  · exact absurd (isDivisor_of_isPositive plain formed) other
  · exact absurd (isDivisor_of_isPositive plain' formed') other

omit plain plain'

theorem upperBound_kind (failed : upperBound first second = .error failure)
    (formed : IsNumber first) (formed' : IsNumber second) : failure.kind ∈ properKinds :=
  absurd (upperBound_eq_error failed).2 (not_or.mpr ⟨not_not.mpr formed, not_not.mpr formed'⟩)

theorem lowerBound_kind (failed : lowerBound first second = .error failure)
    (formed : IsNumber first) (formed' : IsNumber second) : failure.kind ∈ properKinds :=
  absurd (lowerBound_eq_error failed).2 (not_or.mpr ⟨not_not.mpr formed, not_not.mpr formed'⟩)

theorem description_kind (failed : description first second = .error failure)
    (formed : isString first = true) (formed' : isString second = true) :
    failure.kind ∈ properKinds := by
  obtain ⟨text, rfl⟩ := isString_iff.mp formed
  obtain ⟨other, rfl⟩ := isString_iff.mp formed'
  exact absurd rfl ((description_eq_error failed).2 text other rfl)

theorem either_kind (failed : either first second = .error failure)
    (formed : first.isBool = true) (formed' : second.isBool = true) : failure.kind ∈ properKinds := by
  obtain ⟨answer, rfl⟩ := isBool_iff.mp formed
  obtain ⟨other, rfl⟩ := isBool_iff.mp formed'
  exact absurd rfl ((either_eq_error failed).2 answer other rfl)

theorem type_kind (failed : Keyword.type first second = .error failure)
    (formed : isType first = true) (formed' : isType second = true) : failure.kind ∈ properKinds := by
  rcases type_eq_error failed with ⟨-, other | other⟩ | ⟨rfl, -⟩
  · exact absurd (isTypeNames_of_isType formed) other
  · exact absurd (isTypeNames_of_isType formed') other
  · simp [properKinds, Failure.kind]

end failure

/-- A rule does not fail for the form of arguments that its keyword may have. -/
theorem rule_kind {combined : Json → Json → Except Failure Json}
    (found : rule? keyword = some (.combine combined)) (failed : combined first second = .error failure)
    (formed : ProperArgument keyword first) (formed' : ProperArgument keyword second) :
    failure.kind ∈ properKinds := by
  obtain ⟨plain, holds⟩ := formed
  obtain ⟨plain', holds'⟩ := formed'
  unfold rule? at found
  split at found <;> cases found
  case h_2 =>
    obtain rfl := throw_eq_error.mp failed
    simp [properKinds, Failure.kind]
  all_goals
    first
    | exact upperBound_kind failed (isNumber_iff.mp holds) (isNumber_iff.mp holds')
    | exact upperBound_kind failed (isNumber_of_isSize holds) (isNumber_of_isSize holds')
    | exact lowerBound_kind failed (isNumber_iff.mp holds) (isNumber_iff.mp holds')
    | exact lowerBound_kind failed (isNumber_of_isSize holds) (isNumber_of_isSize holds')
    | exact description_kind failed holds holds'
    | exact either_kind failed holds holds'
    | exact type_kind failed holds holds'
    | exact multipleOf_kind plain plain' failed holds holds'
    | exact dependentRequired_kind plain plain' failed holds holds'
    | exact enum_kind plain plain' failed holds holds'
    | exact union_kind plain plain' failed (isArray_of_isNames holds) (isArray_of_isNames holds')
    | exact union_kind plain plain' failed (isArray_of_isSchemas holds) (isArray_of_isSchemas holds')
    | exact union_kind plain plain' failed (isArray_iff.mp holds) (isArray_iff.mp holds')
    | exact absurd holds Bool.false_ne_true

end SchemaMerge.Schema
