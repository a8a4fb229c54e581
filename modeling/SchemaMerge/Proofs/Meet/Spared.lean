import SchemaMerge.Proofs.Meet.Crossing
import SchemaMerge.Proofs.Meet.Named

/-!
The meet of two schemas that may use patterns together with additional properties, while the schemas
inside of them do without one of the two. It accepts what both accept, unless a pattern that only one
side has occurs in the name of a member which the additional properties of the other side reject.
-/

namespace SchemaMerge.Schema

open Json (isEqual membersOf)
open PropertySpace (Spares)

def holdsWithin (deep : Bool) (banned : List String) : Json → Bool
  | .object keywords => keywords.all fun member =>
      isAbsent member.1 member.2 || obeys deep (isLawful deep banned) (shape deep member.1) member.2
  | _ => true

/-- A well-formed schema that may use a keyword itself, but not inside of it. -/
structure IsShallow (deep : Bool) (inner : String) (schema : Json) : Prop where
  formed : WellFormed deep [] schema
  inside : holdsWithin deep [inner] schema = true

instance (deep : Bool) (inner : String) (schema : Json) : Decidable (IsShallow deep inner schema) :=
  decidable_of_iff (WellFormed deep [] schema ∧ holdsWithin deep [inner] schema = true)
    ⟨fun both => ⟨both.1, both.2⟩, fun shallow => ⟨shallow.formed, shallow.inside⟩⟩

def SparesMembers (reading : Reading) (first second value : Json) : Prop :=
  ∀ member ∈ membersOf value,
    Spares reading (spaceOf (membersOf first)) (spaceOf (membersOf second)) member.1 member.2 ∧
      Spares reading (spaceOf (membersOf second)) (spaceOf (membersOf first)) member.1 member.2

structure AreShallow (deep : Bool) (inner : String) (keywords : Members) : Prop where
  formed : AreArguments deep [] keywords
  holds : ∀ {keyword argument}, keywords.get? keyword = some argument →
    HoldsSchemas deep [inner] (shape deep keyword) argument

variable {reading : Reading} {deep : Bool} {inner keyword : String} {recur : Meeting}
  {keywords first second properties patterns merged out : Members} {space other : PropertySpace}

theorem permits_ordinary (plain : inner = "patternProperties" ∨ inner = "additionalProperties")
    (ordinary : IsOrdinary keyword) (permitted : permits deep [] keyword = true) :
    permits deep [inner] keyword = true := by
  have other : keyword ≠ inner := by
    rcases plain with rfl | rfl
    · rintro rfl
      exact absurd ordinary.1 (by decide)
    · exact ordinary.2
  simpa [permits, other] using permitted

namespace AreShallow

theorem of_schema (shallow : IsShallow deep inner (.object keywords)) :
    AreShallow deep inner (presentKeywords (.object keywords)) := by
  have formed := arguments_of_wellFormed shallow.formed
  have distinct := (Json.noRepeats_object.mp shallow.formed.noRepeats).1
  refine ⟨formed, fun {keyword argument} found => ?_⟩
  obtain ⟨is, present⟩ := (get?_presentKeywords distinct).mp found
  have held := List.all_eq_true.mp shallow.inside _ (Members.mem_of_get? is)
  rw [present, Bool.false_or] at held
  exact (holdsSchemas_iff (formed.argument found).noRepeats).mpr held

theorem ordinary (shallow : AreShallow deep inner keywords)
    (plain : inner = "patternProperties" ∨ inner = "additionalProperties")
    (ordinary : IsOrdinary keyword) {argument : Json} (found : keywords.get? keyword = some argument) :
    IsArgument deep [inner] keyword argument := by
  obtain ⟨present, clean, permitted, suitable, -⟩ := shallow.formed.argument found
  exact ⟨present, clean, permits_ordinary plain ordinary permitted, suitable, shallow.holds found⟩

theorem isFormed (shallow : AreShallow deep inner keywords) (describes : Describes keywords space) :
    space.IsFormed deep [inner] := by
  have clean {keyword : String} {argument : Json} (found : keywords.get? keyword = some argument) :
      argument.noRepeats = true := (shallow.formed.argument found).noRepeats
  obtain ⟨distinct, named⟩ := describes.properties.schemas_formed clean shallow.holds
  obtain ⟨distinct', matched⟩ := describes.patterns.schemas_formed clean shallow.holds
  exact ⟨distinct, distinct', named, matched,
    fun found => shallow.holds (describes.additional.trans found)⟩

end AreShallow

theorem Describes.spaceOf (formed : AreArguments deep [] keywords) (describes : Describes keywords space) :
    spaceOf keywords = space := by
  have entries_eq {keyword : String} {named : Members} (ordinary : nullableKeywords.contains keyword = false)
      (has : HasEntries keywords keyword named) : entriesUnder keywords keyword = named := by
    rw [entriesUnder, formed.present? ordinary]
    rcases has with ⟨missing, rfl⟩ | found
    · rw [missing]
    · rw [found]
  rw [Schema.spaceOf, entries_eq (by decide) describes.properties, entries_eq (by decide) describes.patterns,
    formed.present? (by decide), describes.additional]

theorem spaceOf_present (distinct : keywords.Distinct) :
    spaceOf (presentKeywords (.object keywords)) = spaceOf keywords := by
  have present (keyword : String) (ordinary : nullableKeywords.contains keyword = false) :
      (presentKeywords (.object keywords)).present? keyword = keywords.present? keyword := by
    apply Option.ext
    intro argument
    rw [Members.present?_eq_some_iff, get?_present distinct ordinary, Members.present?_eq_some_iff]
    tauto
  rw [spaceOf, spaceOf, entriesUnder, entriesUnder, present "properties" (by decide),
    present "patternProperties" (by decide), present "additionalProperties" (by decide)]
  rfl

theorem alike_entriesUnder (alike : Alike first second) (clean : (Json.object first).noRepeats = true)
    (clean' : (Json.object second).noRepeats = true) (keyword : String) :
    Alike (entriesUnder first keyword) (entriesUnder second keyword) := by
  have tidy {keywords : Members} {argument : Json} (clean : (Json.object keywords).noRepeats = true)
      (found : keywords.present? keyword = some argument) : argument.noRepeats = true :=
    (Json.noRepeats_object.mp clean).2 _ (Members.mem_of_get? (Members.present?_eq_some_iff.mp found).1)
  have nothing : Alike [] [] := fun _ => .none
  have related := present?_alike alike keyword
  unfold entriesUnder
  cases own : first.present? keyword with
  | none =>
      rw [own] at related
      cases own' : second.present? keyword with
      | none => exact nothing
      | some other => rw [own'] at related; cases related
  | some argument =>
      rw [own] at related
      cases own' : second.present? keyword with
      | none => rw [own'] at related; cases related
      | some other =>
          rw [own'] at related
          cases related with
          | some same =>
              rcases object_or_not same (tidy clean own) (tidy clean' own') with
                ⟨entries, others, rfl, rfl, alike⟩ | ⟨plain, plain'⟩
              · exact alike
              · cases argument <;> cases other <;> first | exact nothing | simp at plain plain'

/-- Equal schemas have the same patterns, so that no pattern is on one side only. -/
theorem spares_of_isEqual (same : isEqual (.object first) (.object second) = true)
    (clean : (Json.object first).noRepeats = true) (clean' : (Json.object second).noRepeats = true)
    (name : String) (value : Json) : Spares reading (spaceOf first) (spaceOf second) name value := by
  obtain ⟨others, is, alike⟩ := Json.isEqual_object (Json.noRepeats_object.mp clean).1 same
  obtain rfl := Json.object.inj is
  have alike := alike_entriesUnder (alike (Json.noRepeats_object.mp clean').1) clean clean'
    "patternProperties"
  intro pattern schema found missing
  have kept : ((spaceOf first).patterns.present? pattern).isSome =
      ((spaceOf second).patterns.present? pattern).isSome := present?_congr alike pattern
  rw [found, missing] at kept
  cases kept

theorem exact_of_plain (plain : inner = "patternProperties" ∨ inner = "additionalProperties") :
    IsExact [inner] := by
  rcases plain with rfl | rfl
  · exact Or.inl (by simp)
  · exact Or.inr (by simp)

structure IsShallowMerge (reading : Reading) (inner : String) (recur : Meeting)
    (first second : Members) (space other : PropertySpace) (properties patterns merged : Members) :
    Prop where
  shallow : AreShallow reading.deep inner first
  shallow' : AreShallow reading.deep inner second
  finite : AreFinite first
  finite' : AreFinite second
  describes : Describes first space
  describes' : Describes second other
  named : space.Merges reading [inner] other properties
  matched : space.ofPatterns.Merges reading [inner] other.ofPatterns patterns
  joined : Joined recur first second properties patterns merged

namespace IsShallowMerge

variable (merge : IsShallowMerge reading inner recur first second space other properties patterns merged)
  (sound : Sound reading [inner] recur)
  (plain : inner = "patternProperties" ∨ inner = "additionalProperties")

include merge sound plain

theorem ordinary (ordinary : IsOrdinary keyword) :
    (∀ {argument}, merged.get? keyword = some argument →
        IsArgument reading.deep [inner] keyword argument) ∧
      ∀ value, asked reading keyword (merged.get? keyword) value =
        (asked reading keyword (first.get? keyword) value &&
          asked reading keyword (second.get? keyword) value) := by
  have exactly := exact_of_plain plain
  obtain ⟨formed, meet⟩ := merge.joined.ordinary sound (Or.inr exactly) ordinary
    (fun found => ⟨merge.shallow.ordinary plain ordinary found, merge.finite found⟩)
    (fun found => ⟨merge.shallow'.ordinary plain ordinary found, merge.finite' found⟩)
  exact ⟨formed, meet.eq_and exactly⟩

theorem additional :
    (∀ {schema}, merged.get? "additionalProperties" = some schema →
        WellFormed reading.deep [inner] schema) ∧
      ∀ value, PropertySpace.asks reading (merged.get? "additionalProperties") value =
        (PropertySpace.asks reading space.additional value &&
          PropertySpace.asks reading other.additional value) := by
  have joins : Joins? recur "additionalProperties" _ _ _ :=
    merge.joined.joins (by decide) (by decide)
  rw [merge.describes.additional, merge.describes'.additional] at joins
  obtain ⟨formed, meet⟩ := joins_asks sound joins (merge.shallow.isFormed merge.describes).additional
    (merge.shallow'.isFormed merge.describes').additional
  exact ⟨formed, meet.eq_and (exact_of_plain plain)⟩

theorem arguments : AreArguments reading.deep [] merged := by
  have permitted {keyword : String} (known : keyword ∉ unread) :
      permits reading.deep [] keyword = true := by simp [permits, known]
  refine ⟨merge.joined.distinct, fun {keyword argument} found => ?_⟩
  cases merge.joined.comesFrom found with
  | properties =>
      exact isArgument_entries rfl (permitted (by decide)) merge.named.distinct
        fun is => (merge.named.formed is).of_fewer (by simp)
  | patterns =>
      exact isArgument_entries rfl (permitted (by decide)) merge.matched.distinct
        fun is => (merge.matched.formed is).of_fewer (by simp)
  | sides ordinary =>
      by_cases additional : keyword = "additionalProperties"
      · subst additional
        have formed := (merge.additional sound plain).1 found
        exact isArgument_schema rfl (permitted (by decide)) (formed.of_fewer (by simp))
      · have formed := (merge.ordinary sound plain ⟨ordinary, additional⟩).1 found
        exact formed.of_fewer (by simp)

theorem admits_iff (name : String) (value : Json) :
    (PropertySpace.mk properties patterns (merged.get? "additionalProperties")).Admits reading name value ↔
      (space.Admits reading name value ∧ other.Admits reading name value) ∧
        Spares reading space other name value ∧ Spares reading other space name value := by
  have rest (value : Json) : PropertySpace.asks reading (merged.get? "additionalProperties") value = true ↔
      PropertySpace.asks reading space.additional value = true ∧
        PropertySpace.asks reading other.additional value = true := by
    rw [(merge.additional sound plain).2, Bool.and_eq_true]
  constructor
  · intro admitted
    have left := PropertySpace.admits_of_merges merge.named merge.matched
      (fun value asked => ((rest value).mp asked).1) admitted
    have right := PropertySpace.admits_of_merges merge.named.swap merge.matched.swap
      (fun value asked => ((rest value).mp asked).2) admitted
    exact ⟨⟨left, right⟩, PropertySpace.spares_of_merges merge.matched admitted,
      PropertySpace.spares_of_merges merge.matched.swap admitted⟩
  · rintro ⟨⟨admitted, admitted'⟩, spared, spared'⟩
    exact PropertySpace.admits_of_spares (exact_of_plain plain) merge.named merge.matched
      (fun value asked asked' => (rest value).mpr ⟨asked, asked'⟩) admitted admitted' spared spared'

theorem accepts_merged_iff (value : Json) :
    accepts reading (.object merged) value = true ↔
      (accepts reading (.object first) value = true ∧ accepts reading (.object second) value = true) ∧
        ∀ member ∈ membersOf value, Spares reading space other member.1 member.2 ∧
          Spares reading other space member.1 member.2 := by
  have formed := merge.arguments sound plain
  have describes := merge.joined.describes
  rw [accepts_iff reading formed.distinct describes (describes.isSpace formed),
    accepts_iff reading merge.shallow.formed.distinct merge.describes
      (merge.describes.isSpace merge.shallow.formed),
    accepts_iff reading merge.shallow'.formed.distinct merge.describes'
      (merge.describes'.isSpace merge.shallow'.formed)]
  have each {keyword : String} (ordinary : IsOrdinary keyword) :=
    (merge.ordinary sound plain ordinary).2 value
  constructor
  · rintro ⟨asked, admitted⟩
    simp only [merge.admits_iff sound plain] at admitted
    have both (keyword : String) (ordinary : IsOrdinary keyword) :
        Schema.asked reading keyword (first.get? keyword) value = true ∧
          Schema.asked reading keyword (second.get? keyword) value = true := by
      have answer := asked keyword ordinary
      rwa [each ordinary, Bool.and_eq_true] at answer
    refine ⟨⟨⟨fun keyword ordinary => (both keyword ordinary).1, ?_⟩,
      fun keyword ordinary => (both keyword ordinary).2, ?_⟩, ?_⟩
    · exact fun member inside => (admitted member inside).1.1
    · exact fun member inside => (admitted member inside).1.2
    · exact fun member inside => (admitted member inside).2
  · rintro ⟨⟨⟨asked, admitted⟩, asked', admitted'⟩, spared⟩
    refine ⟨fun keyword ordinary => ?_, fun member inside => ?_⟩
    · rw [each ordinary, asked keyword ordinary, asked' keyword ordinary]
      rfl
    · exact (merge.admits_iff sound plain member.1 member.2).mpr
        ⟨⟨admitted member inside, admitted' member inside⟩, spared member inside⟩

end IsShallowMerge

theorem meetObjects_accepts_iff (sound : Sound reading [inner] recur)
    (plain : inner = "patternProperties" ∨ inner = "additionalProperties")
    (shallow : AreShallow reading.deep inner first) (shallow' : AreShallow reading.deep inner second)
    (finite : AreFinite first) (finite' : AreFinite second)
    (made : meetObjects recur first second = .ok out) (value : Json) :
    accepts reading (.object out) value = true ↔
      (accepts reading (.object first) value = true ∧ accepts reading (.object second) value = true) ∧
        ∀ member ∈ membersOf value,
          Spares reading (spaceOf first) (spaceOf second) member.1 member.2 ∧
            Spares reading (spaceOf second) (spaceOf first) member.1 member.2 := by
  obtain ⟨space, other, properties, patterns, merged, bounded, ⟨describes, describes'⟩, named, matched,
    joined, upper, lower⟩ := stages_of_meetObjects shallow.formed shallow'.formed made
  have formed := shallow.isFormed describes
  have formed' := shallow'.isFormed describes'
  have merge : IsShallowMerge reading inner recur first second space other properties patterns merged :=
    ⟨shallow, shallow', finite, finite', describes, describes',
      PropertySpace.meetNamed_merges sound formed formed' named,
      PropertySpace.meetNamed_merges sound formed.ofPatterns formed'.ofPatterns matched, joined⟩
  obtain ⟨-, -, same⟩ := accepts_reduced (merge.arguments sound plain) joined.describes
    (fun bound found => joined.bound_finite finite finite' bound found) upper lower
  rw [same, describes.spaceOf shallow.formed, describes'.spaceOf shallow'.formed]
  exact merge.accepts_merged_iff sound plain value

namespace SparesMembers

variable {schema schema' : Json}

theorem symm {value : Json} (spared : SparesMembers reading schema schema' value) :
    SparesMembers reading schema' schema value := fun member inside => (spared member inside).symm

theorem of_empty (empty : spaceOf (membersOf schema') = ⟨[], [], none⟩) (value : Json) :
    SparesMembers reading schema schema' value := by
  intro member _
  rw [empty]
  exact ⟨fun _ _ _ _ _ => rfl, fun _ _ found => absurd found (by simp [Members.present?])⟩

theorem of_isAccept (accept : isAccept schema' = true) (value : Json) :
    SparesMembers reading schema schema' value := by
  apply of_empty
  cases schema' with
  | object keywords =>
      obtain rfl : keywords = [] := by simpa [isAccept] using accept
      rfl
  | _ => rfl

theorem of_isEqual (same : isEqual schema schema' = true) (clean : schema.noRepeats = true)
    (clean' : schema'.noRepeats = true) (value : Json) : SparesMembers reading schema schema' value := by
  rcases object_or_not same clean clean' with ⟨keywords, others, rfl, rfl, -⟩ | ⟨-, plain⟩
  · exact fun member _ => ⟨spares_of_isEqual same clean clean' member.1 member.2,
      spares_of_isEqual (Json.isEqual_symm same) clean' clean member.1 member.2⟩
  · apply of_empty
    cases schema' with
    | object others => exact absurd rfl (plain others)
    | _ => rfl

end SparesMembers

/-- Two schemas meet in one that accepts what both accept, unless a pattern of one side does not spare a
member that the additional properties of the other side reject. -/
theorem meet_accepts_iff_spares (reading : Reading) (depth : Int)
    (plain : inner = "patternProperties" ∨ inner = "additionalProperties") {schema schema' met : Json}
    (shallow : IsShallow reading.deep inner schema) (shallow' : IsShallow reading.deep inner schema')
    (made : meet depth schema schema' = .ok met) (value : Json) :
    accepts reading met value = true ↔
      (accepts reading schema value = true ∧ accepts reading schema' value = true) ∧
        SparesMembers reading schema schema' value := by
  rw [meet, levelsOf_of_meet made] at made
  cases (meetWithin_succ_eq_ok made).2 with
  | rejects reject =>
      have rejected : accepts reading schema value = false ∨ accepts reading schema' value = false :=
        reject.imp (not_accepts_of_isReject · value) (not_accepts_of_isReject · value)
      rw [not_accepts_of_isReject rfl value]
      rcases rejected with rejected | rejected <;> simp [rejected]
  | left accept => simp [accepts_of_isAccept accept value, SparesMembers.of_isAccept accept value]
  | right accept =>
      simp [accepts_of_isAccept accept value, (SparesMembers.of_isAccept accept value).symm]
  | same compared =>
      have same := Json.isEqual_of_equal (finitely_eq_ok.mp compared)
      have clean := shallow.formed.noRepeats
      have clean' := shallow'.formed.noRepeats
      simp [accepts_congr reading same clean clean', SparesMembers.of_isEqual same clean clean' value]
  | merged _ _ differ merged =>
      obtain ⟨finite, finite', -⟩ := Json.equal_eq_ok.mp (finitely_eq_ok.mp differ)
      have distinct := (Json.noRepeats_object.mp shallow.formed.noRepeats).1
      have distinct' := (Json.noRepeats_object.mp shallow'.formed.noRepeats).1
      have accepted := meetObjects_accepts_iff
        (sound_meetWithin reading (Or.inr (exact_of_plain plain)) (levelsOf (depth - 1))) plain
        (AreShallow.of_schema shallow) (AreShallow.of_schema shallow')
        (present_finite shallow.formed finite) (present_finite shallow'.formed finite') merged value
      rwa [accepts_present distinct, accepts_present distinct', spaceOf_present distinct,
        spaceOf_present distinct'] at accepted

end SchemaMerge.Schema
