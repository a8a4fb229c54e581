import SchemaMerge.Proofs.Meet.Keywords
import SchemaMerge.Proofs.Meet.Properties

namespace SchemaMerge.Schema

open Json (membersOf)

variable {reading : Reading} {deep : Bool} {banned : List String} {keywords : Members}

def HasEntries (keywords : Members) (keyword : String) (entries : Members) : Prop :=
  (keywords.get? keyword = none ∧ entries = []) ∨ keywords.get? keyword = some (.object entries)

/-- The space that an object of keywords describes. -/
structure Describes (keywords : Members) (space : PropertySpace) : Prop where
  properties : HasEntries keywords "properties" space.properties
  patterns : HasEntries keywords "patternProperties" space.patterns
  additional : keywords.get? "additionalProperties" = space.additional

theorem present?_eq_get? {keyword : String} (ordinary : nullableKeywords.contains keyword = false)
    (present : ∀ {argument}, keywords.get? keyword = some argument → isAbsent keyword argument = false) :
    keywords.present? keyword = keywords.get? keyword := by
  cases found : keywords.get? keyword with
  | none => rw [Members.present?, found]
  | some argument =>
      refine Members.present?_eq_some_iff.mpr ⟨found, ?_⟩
      rintro rfl
      have stays := present found
      rw [isAbsent, ordinary] at stays
      simp at stays

theorem AreArguments.present? (formed : AreArguments deep banned keywords) {keyword : String}
    (ordinary : nullableKeywords.contains keyword = false) :
    keywords.present? keyword = keywords.get? keyword :=
  present?_eq_get? ordinary fun found => (formed.argument found).present

theorem entries_eq_ok (formed : AreArguments deep banned keywords) {keyword : String} {named : Members}
    (ordinary : nullableKeywords.contains keyword = false)
    (made : entries keyword keywords = .ok named) : HasEntries keywords keyword named := by
  rw [entries, formed.present? ordinary] at made
  split at made
  · next missing => exact Or.inl ⟨missing, (Except.ok.inj made).symm⟩
  · next found => exact Or.inr (by rw [found, Except.ok.inj made])
  · exact absurd made (by simp)

theorem additionalProperties_eq_ok (formed : AreArguments deep banned keywords)
    {additional : Option Json} (made : additionalProperties keywords = .ok additional) :
    keywords.get? "additionalProperties" = additional := by
  rw [additionalProperties, formed.present? (by decide)] at made
  split at made
  · next missing => rw [missing, Except.ok.inj made]
  · next schema found =>
    rw [found]
    unfold checkShape at made
    split at made
    · exact Except.ok.inj made
    · exact absurd made (by simp [Except.map])

theorem describes_of_ofSchema (formed : AreArguments deep banned keywords) {space : PropertySpace}
    (made : PropertySpace.ofSchema keywords = .ok space) : Describes keywords space := by
  obtain ⟨properties, read, made⟩ := bind_eq_ok.mp made
  obtain ⟨patterns, read', made⟩ := bind_eq_ok.mp made
  obtain ⟨additional, read'', built⟩ := bind_eq_ok.mp made
  obtain rfl := pure_eq_ok.mp built
  exact ⟨entries_eq_ok formed (by decide) read, entries_eq_ok formed (by decide) read',
    additionalProperties_eq_ok formed read''⟩

theorem isArgument_entries {keyword : String} {named : Members}
    (place : shape deep keyword = .entries) (permitted : permits deep banned keyword = true)
    (distinct : named.Distinct)
    (formed : ∀ {name schema}, named.present? name = some schema → WellFormed deep banned schema) :
    IsArgument deep banned keyword (.object named) := by
  have every : ∀ entry ∈ named, entry.2 = .null ∨ WellFormed deep banned entry.2 := by
    intro entry inside
    by_cases null : entry.2 = .null
    · exact Or.inl null
    · exact Or.inr (formed (Members.present?_eq_some_iff.mpr ⟨Members.get?_of_mem distinct inside, null⟩))
  refine ⟨by simp [isAbsent], Json.noRepeats_object.mpr ⟨distinct, fun entry inside => ?_⟩, permitted,
    ?_, by rw [place]; exact ⟨named, rfl, every⟩⟩
  · rcases every entry inside with null | formed
    · rw [null]
      rfl
    · exact formed.noRepeats
  · unfold suits
    split <;> first | rfl | cases place

theorem HasEntries.schemas_formed {keyword : String} {named : Members}
    (has : HasEntries keywords keyword named)
    (clean : ∀ {argument}, keywords.get? keyword = some argument → argument.noRepeats = true)
    (holds : ∀ {argument}, keywords.get? keyword = some argument →
      HoldsSchemas deep banned .entries argument) :
    named.Distinct ∧ ∀ {name schema}, named.present? name = some schema →
      WellFormed deep banned schema := by
  rcases has with ⟨-, rfl⟩ | found
  · simp [Members.Distinct, Members.present?]
  · obtain ⟨_, is, formedEntries⟩ := holds found
    obtain rfl := Json.object.inj is
    refine ⟨(Json.noRepeats_object.mp (clean found)).1, fun {name schema} present => ?_⟩
    obtain ⟨present, set⟩ := Members.present?_eq_some_iff.mp present
    exact (formedEntries _ (Members.mem_of_get? present)).resolve_left set

theorem HasEntries.formed (formed : AreArguments deep banned keywords) {keyword : String}
    {named : Members} (place : shape deep keyword = .entries)
    (has : HasEntries keywords keyword named) :
    named.Distinct ∧ ∀ {name schema}, named.present? name = some schema →
      WellFormed deep banned schema :=
  has.schemas_formed (fun found => (formed.argument found).noRepeats)
    fun found => place ▸ (formed.argument found).holds

theorem get?_of_banned (formed : AreArguments deep banned keywords) {keyword : String}
    (unusable : keyword ∈ banned) : keywords.get? keyword = none := by
  rw [Option.eq_none_iff_forall_ne_some]
  intro argument found
  have permitted := (formed.argument found).permitted
  simp [permits, unusable] at permitted

theorem Describes.isSpace (formed : AreArguments deep banned keywords) {space : PropertySpace}
    (describes : Describes keywords space) : space.IsSpace deep banned := by
  obtain ⟨distinct, formedNamed⟩ := describes.properties.formed formed rfl
  obtain ⟨distinct', formedPatterns⟩ := describes.patterns.formed formed rfl
  refine ⟨distinct, distinct', formedNamed, formedPatterns, fun {schema} found => ?_, ?_, ?_⟩
  · exact (formed.argument (describes.additional.trans found)).holds
  · intro unusable pattern
    rcases describes.patterns with ⟨-, none⟩ | found
    · rw [none]
      rfl
    · exact absurd (found.symm.trans (get?_of_banned formed unusable)) (by simp)
  · intro unusable
    rw [← describes.additional, get?_of_banned formed unusable]

theorem Describes.covers_iff {space : PropertySpace} (describes : Describes keywords space)
    (distinct : space.patterns.Distinct) (name : String) :
    covers keywords name = true ↔ space.Covers name := by
  rw [covers, Bool.or_eq_true]
  refine or_congr ?_ ?_
  · unfold isNamed
    rcases describes.properties with ⟨missing, none⟩ | found
    · rw [missing, none]
      simp [Members.present?]
    · rw [found]
      exact Option.isSome_iff_exists
  · unfold isMatched
    rcases describes.patterns with ⟨missing, none⟩ | found
    · rw [missing, none]
      simp [Members.present?]
    · rw [found]
      simp only [List.any_eq_true, Bool.and_eq_true, decide_eq_true_eq,
        Members.present?_eq_some_iff, Members.get?_eq_some_iff distinct]
      constructor
      · rintro ⟨⟨pattern, schema⟩, inside, set, matched⟩
        exact ⟨pattern, schema, ⟨inside, set⟩, matched⟩
      · rintro ⟨pattern, schema, ⟨inside, set⟩, matched⟩
        exact ⟨(pattern, schema), inside, set, matched⟩

theorem satisfies_entries {reads : String → (Json → Bool) → Json → Bool} {keyword : String}
    (role : reading.applicator keyword = .entries reads) {entries : Members}
    (distinct : entries.Distinct) (siblings : Members) (value : Json) :
    satisfies reading siblings keyword (.object entries) value = true ↔
      ∀ name schema, entries.present? name = some schema →
        reads name (accepts reading schema) value = true := by
  have all : satisfies reading siblings keyword (.object entries) value = entries.all fun entry =>
      entry.2 = .null || reads entry.1 (accepts reading entry.2) value := by
    simp [satisfies, role, isAbsent]
  rw [all, all_entries_iff distinct]
  refine forall₂_congr fun name schema => ?_
  rw [Members.present?_eq_some_iff, Bool.or_eq_true, decide_eq_true_iff, and_imp]
  exact forall_congr' fun _ => or_iff_not_imp_left

theorem entries_satisfied_iff (reading : Reading)
    {reads : String → (Json → Bool) → Json → Bool} {keyword : String}
    (role : reading.applicator keyword = .entries reads) {named : Members}
    (has : HasEntries keywords keyword named) (distinct : named.Distinct) (value : Json) :
    (∀ argument, keywords.get? keyword = some argument →
        satisfies reading keywords keyword argument value = true) ↔
      ∀ name schema, named.present? name = some schema →
        reads name (accepts reading schema) value = true := by
  rcases has with ⟨missing, rfl⟩ | found
  · simp [missing, Members.present?]
  · simp only [found, Option.some.injEq, forall_eq']
    exact satisfies_entries role distinct keywords value

def asked (reading : Reading) (keyword : String) (argument : Option Json) (value : Json) : Bool :=
  argument.all fun argument => satisfies reading [] keyword argument value

def IsOrdinary (keyword : String) : Prop :=
  isEntries keyword = false ∧ keyword ≠ "additionalProperties"

theorem isAbsent_of_wellFormed {schema : Json} (formed : WellFormed deep banned schema)
    (keyword : String) : isAbsent keyword schema = false := by
  simp [isAbsent, PropertySpace.ne_null_of_wellFormed formed]

/-- What `additionalProperties` asks of a value, beside the other keywords of its space. -/
theorem additional_satisfied_iff (reading : Reading) {space : PropertySpace}
    (describes : Describes keywords space) (formed : space.IsSpace deep banned) (value : Json) :
    (∀ argument, keywords.get? "additionalProperties" = some argument →
        satisfies reading keywords "additionalProperties" argument value = true) ↔
      ∀ member ∈ membersOf value, ¬space.Covers member.1 →
        PropertySpace.asks reading space.additional member.2 = true := by
  rw [describes.additional]
  cases found : space.additional with
  | none => simp [PropertySpace.asks]
  | some schema =>
      have present := isAbsent_of_wellFormed (formed.additional found) "additionalProperties"
      simp only [Option.some.injEq, forall_eq', PropertySpace.asks, Option.all_some]
      rw [satisfies_schema rfl present, List.all_eq_true]
      refine forall₂_congr fun member _ => ?_
      rw [Bool.or_eq_true, describes.covers_iff formed.distinctPatterns, or_iff_not_imp_left]

theorem accepts_iff (reading : Reading) (distinct : keywords.Distinct) {space : PropertySpace}
    (describes : Describes keywords space) (formed : space.IsSpace deep banned) (value : Json) :
    accepts reading (.object keywords) value = true ↔
      (∀ keyword, IsOrdinary keyword → asked reading keyword (keywords.get? keyword) value = true) ∧
        ∀ member ∈ membersOf value, space.Admits reading member.1 member.2 := by
  have properties := entries_satisfied_iff reading rfl describes.properties formed.distinct value
  have patterns := entries_satisfied_iff reading rfl describes.patterns formed.distinctPatterns value
  have additional := additional_satisfied_iff reading describes formed value
  simp only [List.all_eq_true, Bool.or_eq_true, decide_eq_true_eq, Bool.not_eq_true'] at properties patterns
  rw [accepts_object_iff reading distinct]
  constructor
  · intro satisfied
    refine ⟨fun keyword ordinary => ?_, fun member inside => ⟨?_, ?_, ?_⟩⟩
    · rw [asked, Option.all_eq_true]
      intro argument found
      rw [satisfies_siblings reading ordinary.2 [] keywords]
      exact satisfied keyword argument found
    · intro schema found
      exact (properties.mp (satisfied "properties") _ _ found member inside).resolve_left (by simp)
    · intro pattern schema found matched
      exact (patterns.mp (satisfied "patternProperties") _ _ found member inside).resolve_left
        (by simp [matched])
    · exact additional.mp (satisfied "additionalProperties") member inside
  · rintro ⟨ordinary, admitted⟩ keyword argument found
    by_cases special : keyword = "properties" ∨ keyword = "patternProperties" ∨
      keyword = "additionalProperties"
    · rcases special with rfl | rfl | rfl
      · refine properties.mpr (fun name schema is member inside => ?_) argument found
        refine or_iff_not_imp_left.mpr fun same => (admitted member inside).named ?_
        rwa [not_not.mp same]
      · refine patterns.mpr (fun pattern schema is member inside => ?_) argument found
        exact or_iff_not_imp_left.mpr fun matched =>
          (admitted member inside).matched is (by simpa using matched)
      · exact additional.mpr (fun member inside => (admitted member inside).additional) argument found
    · simp only [not_or] at special
      have answer := ordinary keyword ⟨by simp [isEntries, special.1, special.2.1], special.2.2⟩
      rw [found, asked, Option.all_some, satisfies_siblings reading special.2.2 [] keywords] at answer
      exact answer

end SchemaMerge.Schema
