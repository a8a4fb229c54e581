import SchemaMerge.Proofs.Validity.Leaf

namespace SchemaMerge.Schema

open Json (isEqual membersOf)

theorem Reading.leaf_respectful (reading : Reading) {keyword : String} {reads : Json → Json → Bool}
    (role : reading.applicator keyword = .leaf reads) : Respectful reads := by
  have holds : ∀ keyword, Respectful (reading.holds keyword) :=
    fun keyword first second value same _ _ => reading.respects keyword first second value same
  have constant : Respectful (fun _ _ => true) := fun _ _ _ _ _ _ => rfl
  unfold Reading.applicator at role
  split at role
  case' h_25 =>
    split at role
    case' isFalse =>
      split at role
      case' isTrue =>
        unfold Reading.inner at role
        split at role
  all_goals cases role <;>
    first
    | exact Leaf.type_respectful
    | exact Leaf.enum_respectful
    | exact Leaf.const_respectful
    | exact Leaf.limit_respectful _ (fun _ _ size => Leaf.atMost_congr size)
    | exact Leaf.limit_respectful _ (fun _ _ size => Leaf.atLeast_congr size)
    | exact Leaf.limit_respectful _ (fun _ _ size => Leaf.below_congr size)
    | exact Leaf.limit_respectful _ (fun _ _ size => Leaf.above_congr size)
    | exact Leaf.multipleOf_respectful
    | exact Leaf.uniqueItems_respectful
    | exact Leaf.required_respectful
    | exact Leaf.dependentRequired_respectful
    | exact constant
    | exact holds keyword

def satisfies (reading : Reading) (siblings : Members) (keyword : String) (argument value : Json) :
    Bool :=
  isAbsent keyword argument ||
    match reading.applicator keyword, argument with
    | .leaf reads, argument => reads argument value
    | .schema reads, schema => reads (covers siblings) (accepts reading schema) value
    | .schemas reads, .array schemas => reads (schemas.map (fun schema => accepts reading schema value))
    | .entries reads, .object entries =>
      entries.all (fun entry => entry.2 = .null || reads entry.1 (accepts reading entry.2) value)
    | _, _ => true

theorem answers_eq_map (reading : Reading) (schemas : List Json) (value : Json) :
    answers reading schemas value = schemas.map (fun schema => accepts reading schema value) := by
  induction schemas with
  | nil => rfl
  | cons schema rest ih => simp only [answers, ih, List.map_cons]

theorem acceptsEntries_eq_all (reading : Reading) (reads : String → (Json → Bool) → Json → Bool)
    (entries : Members) (value : Json) :
    acceptsEntries reading reads entries value =
      entries.all (fun entry => entry.2 = .null || reads entry.1 (accepts reading entry.2) value) := by
  induction entries with
  | nil => rfl
  | cons entry rest ih => simp only [acceptsEntries, ih, List.all_cons]

theorem accepts_object (reading : Reading) (keywords : Members) (value : Json) :
    accepts reading (.object keywords) value =
      keywords.all (fun entry => satisfies reading keywords entry.1 entry.2 value) := by
  suffices every : ∀ part : Members, acceptsKeywords reading keywords part value =
      part.all (fun entry => satisfies reading keywords entry.1 entry.2 value) from every keywords
  intro part
  induction part with
  | nil => rfl
  | cons entry rest ih =>
      obtain ⟨keyword, argument⟩ := entry
      rw [List.all_cons, ← ih, acceptsKeywords]
      split <;> simp only [satisfies, *, answers_eq_map, acceptsEntries_eq_all]

theorem accepts_object_iff (reading : Reading) {keywords : Members} (distinct : keywords.Distinct)
    (value : Json) :
    accepts reading (.object keywords) value = true ↔ ∀ keyword argument,
      keywords.get? keyword = some argument →
        satisfies reading keywords keyword argument value = true := by
  rw [accepts_object, all_entries_iff distinct]

theorem null_congr {first second : Json} (same : isEqual first second = true) :
    decide (first = .null) = decide (second = .null) := by
  rw [Bool.eq_iff_iff, decide_eq_true_iff, decide_eq_true_iff]
  constructor
  · rintro rfl
    exact Json.isEqual_null same
  · rintro rfl
    exact Json.isEqual_null (Json.isEqual_symm same)

/-- The arguments of two objects are equal under each key. -/
def Alike (keywords others : Members) : Prop :=
  ∀ key, Option.Rel (fun first second => isEqual first second = true)
    (keywords.get? key) (others.get? key)

theorem Alike.none_or_some {keywords others : Members} (alike : Alike keywords others)
    (key : String) :
    (keywords.get? key = none ∧ others.get? key = none) ∨
      ∃ first second, keywords.get? key = some first ∧ others.get? key = some second ∧
        isEqual first second = true := by
  have related := alike key
  generalize keywords.get? key = first at related
  generalize others.get? key = second at related
  cases related with
  | none => exact Or.inl ⟨rfl, rfl⟩
  | some same => exact Or.inr ⟨_, _, rfl, rfl, same⟩

theorem object_or_not {first second : Json} (same : isEqual first second = true)
    (clean : first.noRepeats = true) (clean' : second.noRepeats = true) :
    (∃ entries others : Members, first = .object entries ∧ second = .object others ∧
        Alike entries others) ∨
      ((∀ entries, first ≠ .object entries) ∧ ∀ others, second ≠ .object others) := by
  by_cases isObject : ∃ entries, first = .object entries
  · obtain ⟨entries, rfl⟩ := isObject
    obtain ⟨others, rfl, alike⟩ := Json.isEqual_object (Json.noRepeats_object.mp clean).1 same
    exact Or.inl ⟨entries, others, rfl, rfl, alike (Json.noRepeats_object.mp clean').1⟩
  · refine Or.inr ⟨fun entries is => isObject ⟨entries, is⟩, ?_⟩
    rintro others rfl
    obtain ⟨entries, is, -⟩ := Json.isEqual_object (Json.noRepeats_object.mp clean').1
      (Json.isEqual_symm same)
    exact isObject ⟨entries, is⟩

theorem present?_alike {entries others : Members} (alike : Alike entries others) (name : String) :
    Option.Rel (fun first second => isEqual first second = true) (entries.present? name)
      (others.present? name) := by
  rcases alike.none_or_some name with ⟨found, found'⟩ | ⟨first, second, found, found', same⟩
  · rw [Members.present?, Members.present?, found, found']
    exact .none
  · have null := null_congr same
    rw [decide_eq_decide] at null
    by_cases unset : first = .null
    · rw [Members.present?, Members.present?, found, found', unset, null.mp unset]
      exact .none
    · rw [Members.present?_eq_some_iff.mpr ⟨found, unset⟩,
        Members.present?_eq_some_iff.mpr ⟨found', fun unset' => unset (null.mpr unset')⟩]
      exact .some same

theorem present?_congr {entries others : Members} (alike : Alike entries others) (name : String) :
    (entries.present? name).isSome = (others.present? name).isSome := by
  have related := present?_alike alike name
  generalize entries.present? name = first at related
  generalize others.present? name = second at related
  cases related <;> rfl

variable {siblings others : Members}

theorem isNamed_congr (alike : Alike siblings others)
    (clean : (Json.object siblings).noRepeats = true)
    (clean' : (Json.object others).noRepeats = true) (name : String) :
    isNamed siblings name = isNamed others name := by
  unfold isNamed
  rcases alike.none_or_some "properties" with
    ⟨found, found'⟩ | ⟨first, second, found, found', same⟩
  · rw [found, found']
  · have tidy := (Json.noRepeats_object.mp clean).2 _ (Members.mem_of_get? found)
    have tidy' := (Json.noRepeats_object.mp clean').2 _ (Members.mem_of_get? found')
    rw [found, found']
    rcases object_or_not same tidy tidy' with ⟨entries, entries', rfl, rfl, alike⟩ | ⟨other, other'⟩
    · exact present?_congr alike name
    · cases first <;> cases second <;> simp_all

theorem isMatched_congr (alike : Alike siblings others)
    (clean : (Json.object siblings).noRepeats = true)
    (clean' : (Json.object others).noRepeats = true) (name : String) :
    isMatched siblings name = isMatched others name := by
  unfold isMatched
  rcases alike.none_or_some "patternProperties" with
    ⟨found, found'⟩ | ⟨first, second, found, found', same⟩
  · rw [found, found']
  · have tidy := (Json.noRepeats_object.mp clean).2 _ (Members.mem_of_get? found)
    have tidy' := (Json.noRepeats_object.mp clean').2 _ (Members.mem_of_get? found')
    rw [found, found']
    rcases object_or_not same tidy tidy' with ⟨entries, entries', rfl, rfl, alike⟩ | ⟨other, other'⟩
    · have distinct := (Json.noRepeats_object.mp tidy).1
      have distinct' := (Json.noRepeats_object.mp tidy').1
      simp only [List.any_eq_not_all_not]
      congr 1
      apply all_entries_congr distinct distinct'
      intro pattern
      refine rel_imp (fun argument other same => ?_) (alike pattern)
      have null := null_congr same
      simp only [decide_eq_decide] at null
      simp [null]
    · cases first <;> cases second <;> simp_all

theorem covers_congr (alike : Alike siblings others)
    (clean : (Json.object siblings).noRepeats = true)
    (clean' : (Json.object others).noRepeats = true) : covers siblings = covers others := by
  funext name
  simp only [covers, isNamed_congr alike clean clean', isMatched_congr alike clean clean']

theorem map_of_related {items others : List Json} {answer answer' : Json → Bool}
    (related : List.Forall₂ (fun item other => isEqual item other = true) items others)
    (agree : ∀ item ∈ items, ∀ other ∈ others, isEqual item other = true →
      answer item = answer' other) : items.map answer = others.map answer' := by
  induction related with
  | nil => rfl
  | cons same _ ih =>
      rw [List.map_cons, List.map_cons, agree _ (by simp) _ (by simp) same,
        ih (fun item present other present' => agree item (List.mem_cons_of_mem _ present) other
          (List.mem_cons_of_mem _ present'))]

theorem satisfies_congr (reading : Reading) {first second : Json}
    (same : isEqual first second = true) (clean : first.noRepeats = true)
    (clean' : second.noRepeats = true) (covered : covers siblings = covers others)
    (within : ∀ schema schema', sizeOf schema ≤ sizeOf first → isEqual schema schema' = true →
      schema.noRepeats = true → schema'.noRepeats = true →
      accepts reading schema = accepts reading schema')
    (keyword : String) (value : Json) :
    satisfies reading siblings keyword first value =
      satisfies reading others keyword second value := by
  have absent : isAbsent keyword first = isAbsent keyword second := by
    simp only [isAbsent, null_congr same]
  unfold satisfies
  rw [absent]
  congr 1
  cases role : reading.applicator keyword with
  | leaf reads => exact reading.leaf_respectful role first second value same clean clean'
  | schema reads =>
      simp only
      rw [covered, within first second (Nat.le_refl _) same clean clean']
  | schemas reads =>
      cases first with
      | array schemas =>
          obtain ⟨schemas', rfl, related⟩ := Json.isEqual_array same
          rw [Json.noRepeats_array] at clean clean'
          refine congrArg reads (map_of_related related fun schema present schema' present' same => ?_)
          rw [within schema schema' (Json.sizeOf_item present).le same (clean _ present)
            (clean' _ present')]
      | _ =>
          cases second with
          | array schemas => exact absurd rfl (Leaf.not_array_congr same (by simp) schemas)
          | _ => rfl
  | entries reads =>
      rcases object_or_not same clean clean' with
        ⟨entries, entries', rfl, rfl, alike⟩ | ⟨other, other'⟩
      · have tidy := Json.noRepeats_object.mp clean
        have tidy' := Json.noRepeats_object.mp clean'
        apply all_entries_congr tidy.1 tidy'.1
        intro name
        rcases alike.none_or_some name with ⟨found, found'⟩ | ⟨schema, schema', found, found', same⟩
        · rw [found, found']
          exact .none
        · rw [found, found']
          have present := Members.mem_of_get? found
          have present' := Members.mem_of_get? found'
          refine .some ?_
          rw [within schema schema' (Json.sizeOf_member present).le same (tidy.2 _ present)
            (tidy'.2 _ present'), null_congr same]
      · cases first <;> cases second <;> simp_all

theorem accepts_alike (reading : Reading) {keywords others : Members} (alike : Alike keywords others)
    (clean : (Json.object keywords).noRepeats = true) (clean' : (Json.object others).noRepeats = true)
    (within : ∀ schema schema', sizeOf schema < sizeOf (Json.object keywords) →
      isEqual schema schema' = true → schema.noRepeats = true → schema'.noRepeats = true →
      accepts reading schema = accepts reading schema') :
    accepts reading (.object keywords) = accepts reading (.object others) := by
  have tidy := Json.noRepeats_object.mp clean
  have tidy' := Json.noRepeats_object.mp clean'
  funext value
  rw [accepts_object, accepts_object]
  apply all_entries_congr tidy.1 tidy'.1
  intro keyword
  rcases alike.none_or_some keyword with ⟨found, found'⟩ | ⟨argument, argument', found, found', same⟩
  · rw [found, found']
    exact .none
  · rw [found, found']
    have present := Members.mem_of_get? found
    refine .some (satisfies_congr reading same (tidy.2 _ present)
      (tidy'.2 _ (Members.mem_of_get? found')) (covers_congr alike clean clean') ?_ _ _)
    intro schema schema' less
    exact within schema schema' (Nat.lt_of_le_of_lt less (Json.sizeOf_member present))

/-- Equal schemas accept the same values. -/
theorem accepts_congr (reading : Reading) {first second : Json}
    (same : isEqual first second = true) (clean : first.noRepeats = true)
    (clean' : second.noRepeats = true) : accepts reading first = accepts reading second := by
  induction first using Json.induction_on_size generalizing second with
  | _ first ih =>
      cases first with
      | bool answer => rw [Json.isEqual_bool same]
      | object keywords =>
          obtain ⟨others, rfl, alike⟩ :=
            Json.isEqual_object (Json.noRepeats_object.mp clean).1 same
          exact accepts_alike reading (alike (Json.noRepeats_object.mp clean').1) clean clean'
            fun schema schema' less same clean clean' => ih schema less same clean clean'
      | _ =>
          cases second with
          | bool answer => exact absurd (Json.isEqual_bool (Json.isEqual_symm same)) (by simp)
          | object others =>
              obtain ⟨keywords, wrong, -⟩ :=
                Json.isEqual_object (Json.noRepeats_object.mp clean').1 (Json.isEqual_symm same)
              exact absurd wrong (by simp)
          | _ => rfl

def restrict (keep : String → Bool) : Json → Json
  | .object keywords => .object (Members.restrict keep keywords)
  | schema => schema

theorem noRepeats_restrict {keywords : Members}
    (clean : (Json.object keywords).noRepeats = true) (keep : String → Bool) :
    (Json.object (keywords.restrict keep)).noRepeats = true := by
  obtain ⟨distinct, clean⟩ := Json.noRepeats_object.mp clean
  exact Json.noRepeats_object.mpr ⟨Members.distinct_restrict distinct keep,
    fun member inside => clean member (List.mem_of_mem_filter inside)⟩

theorem restrict_congr (reading : Reading) {first second : Json} (same : Json.isEqual first second = true)
    (clean : first.noRepeats = true) (clean' : second.noRepeats = true) (keep : String → Bool) :
    accepts reading (restrict keep first) = accepts reading (restrict keep second) := by
  rcases object_or_not same clean clean' with ⟨keywords, others, rfl, rfl, alike⟩ | ⟨plain, plain'⟩
  · refine accepts_alike reading (fun key => ?_) (noRepeats_restrict clean keep)
      (noRepeats_restrict clean' keep)
      fun _ _ _ same clean clean' => accepts_congr reading same clean clean'
    rw [Members.get?_restrict, Members.get?_restrict]
    split
    · exact alike key
    · exact .none
  · have whole {schema : Json} (plain : ∀ keywords, schema ≠ .object keywords) :
        restrict keep schema = schema := by
      cases schema with
      | object keywords => exact absurd rfl (plain keywords)
      | _ => rfl
    rw [whole plain, whole plain', accepts_congr reading same clean clean']

end SchemaMerge.Schema
