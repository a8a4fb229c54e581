import SchemaMerge.Proofs.Meet.Objects

namespace SchemaMerge.Schema

open Json (membersOf)

variable {reading : Reading} {deep : Bool} {banned : List String} {recur : Meeting}
  {first second properties patterns merged out : Members} {space other : PropertySpace}

theorem numericBounds_of_arguments {keywords : Members} (formed : AreArguments deep banned keywords) :
    numericBounds keywords = keywords := by
  have plain (pair : BoundPair) (named : pair.exclusive = "exclusiveMaximum" ∨
      pair.exclusive = "exclusiveMinimum") : pair.toNumeric keywords = keywords := by
    unfold BoundPair.toNumeric
    split
    · next found _ =>
      have suitable := (formed.argument found).suitable
      rcases named with is | is <;> simp [is, suits] at suitable
    · next found _ =>
      have suitable := (formed.argument found).suitable
      rcases named with is | is <;> simp [is, suits] at suitable
    · rfl
  rw [numericBounds, plain .upper (Or.inl rfl), plain .lower (Or.inr rfl)]

theorem eitherBoolean_of_arguments (formed : AreArguments deep banned first)
    (formed' : AreArguments deep banned second) (pair : BoundPair)
    (named : pair.exclusive = "exclusiveMaximum" ∨ pair.exclusive = "exclusiveMinimum") :
    eitherBoolean pair first second = false := by
  have plain {keywords : Members} (formed : AreArguments deep banned keywords) :
      pair.isBoolean keywords = false := by
    unfold BoundPair.isBoolean
    cases found : keywords.get? pair.exclusive with
    | none => rfl
    | some argument =>
        have suitable := (formed.argument found).suitable
        cases argument <;> first | rfl | rcases named with is | is <;> simp [is, suits] at suitable
  rw [eitherBoolean, plain formed, plain formed']
  rfl

def AreFinite (keywords : Members) : Prop :=
  ∀ {keyword argument}, keywords.get? keyword = some argument → argument.isFinite = true

theorem areFinite_of_object {keywords : Members} (finite : (Json.object keywords).isFinite = true) :
    AreFinite keywords :=
  fun found => (Json.isFinite_object keywords).mp finite _ (Members.mem_of_get? found)

theorem permits_of_entries {keyword name : String} {keywords entries : Members} {entry : Json}
    (formed : AreArguments deep banned keywords) (has : HasEntries keywords keyword entries)
    (found : entries.present? name = some entry) : permits deep banned keyword = true := by
  rcases has with ⟨-, rfl⟩ | is
  · exact absurd found (by simp [Members.present?])
  · exact (formed.argument is).permitted

theorem exists_present {named : Members} (distinct : named.Distinct)
    (set : ∀ {name}, named.get? name ≠ some .null) (nonempty : named.isEmpty = false) :
    ∃ name entry, named.present? name = some entry := by
  cases named with
  | nil => exact absurd nonempty (by simp)
  | cons member rest =>
      have found := Members.get?_of_mem distinct (List.mem_cons_self (a := member))
      refine ⟨member.1, member.2, Members.present?_eq_some_iff.mpr ⟨found, fun null => ?_⟩⟩
      exact set (found.trans (by rw [null]))

/-- Two objects of arguments and what they are merged to, but for the bounds. -/
structure IsMerge (reading : Reading) (banned : List String) (recur : Meeting)
    (first second : Members) (space other : PropertySpace) (properties patterns merged : Members) :
    Prop where
  formed : AreArguments reading.deep banned first
  formed' : AreArguments reading.deep banned second
  finite : AreFinite first
  finite' : AreFinite second
  describes : Describes first space
  describes' : Describes second other
  named : space.Merges reading banned other properties
  matched : space.ofPatterns.Merges reading banned other.ofPatterns patterns
  joined : Joined recur first second properties patterns merged

theorem Joined.deprecated_left (joined : Joined recur first second properties patterns merged)
    {argument : Json} (found : merged.get? "deprecated" = some argument) :
    first.get? "deprecated" = some argument := by
  rw [joined.deprecated] at found
  split at found
  · next both =>
    obtain rfl := Option.some.inj found
    simp only [isDeprecated, Bool.and_eq_true, decide_eq_true_eq] at both
    exact both.1
  · exact absurd found (by simp)

theorem Joined.ordinary (joined : Joined recur first second properties patterns merged)
    (sound : Sound reading banned recur) (countable : "oneOf" ∈ banned ∨ IsExact banned)
    {keyword : String} (ordinary : IsOrdinary keyword)
    (formed : ∀ {argument}, first.get? keyword = some argument →
      IsArgument reading.deep banned keyword argument ∧ argument.isFinite = true)
    (formed' : ∀ {argument}, second.get? keyword = some argument →
      IsArgument reading.deep banned keyword argument ∧ argument.isFinite = true) :
    (∀ {argument}, merged.get? keyword = some argument →
        IsArgument reading.deep banned keyword argument) ∧
      IsMeet (IsExact banned) (asked reading keyword (first.get? keyword))
        (asked reading keyword (second.get? keyword)) (asked reading keyword (merged.get? keyword)) := by
  by_cases deprecated : keyword = "deprecated"
  · subst deprecated
    have accepted : ∀ argument value, asked reading "deprecated" argument value = true := by
      intro argument value
      cases argument with
      | none => rfl
      | some argument => simp [asked, satisfies, Reading.applicator, annotations]
    refine ⟨fun found => (formed (joined.deprecated_left found)).1, ?_⟩
    exact .of_both fun value => by rw [accepted, accepted, accepted]; rfl
  · exact joins_combines sound countable ordinary (joined.joins ordinary.1 deprecated) formed formed'

/-- A merged object describes the merged entries, beside its additional properties. -/
theorem Joined.describes (joined : Joined recur first second properties patterns merged) :
    Describes merged ⟨properties, patterns, merged.get? "additionalProperties"⟩ := by
  refine ⟨?_, ?_, rfl⟩
  · rw [HasEntries, joined.properties]
    split
    · next empty => exact Or.inl ⟨rfl, List.isEmpty_iff.mp empty⟩
    · exact Or.inr rfl
  · rw [HasEntries, joined.patterns]
    split
    · next empty => exact Or.inl ⟨rfl, List.isEmpty_iff.mp empty⟩
    · exact Or.inr rfl

namespace IsMerge

theorem joins_known {keyword : String} {left right result : Option Json} {argument : Json}
    (joins : Joins? recur keyword left right result) (found : result = some argument) :
    (∃ argument, left = some argument) ∨ ∃ argument, right = some argument := by
  subst found
  cases joins with
  | right argument => exact Or.inr ⟨argument, rfl⟩
  | _ => exact Or.inl ⟨_, rfl⟩

theorem entries_isArgument {keyword : String} {entries entries' named : Members}
    (formed : AreArguments reading.deep banned first) (formed' : AreArguments reading.deep banned second)
    (place : shape reading.deep keyword = .entries)
    (has : HasEntries first keyword entries) (has' : HasEntries second keyword entries')
    (merges : PropertySpace.Merges reading banned space other named)
    (own : space.properties = entries) (own' : other.properties = entries')
    (nonempty : named.isEmpty = false) : IsArgument reading.deep banned keyword (.object named) := by
  obtain ⟨name, met, found⟩ := exists_present merges.distinct merges.set nonempty
  refine isArgument_entries place ?_ merges.distinct merges.formed
  rcases merges.known found with ⟨entry, known⟩ | ⟨entry, known⟩
  · exact permits_of_entries formed has (own ▸ known)
  · exact permits_of_entries formed' has' (own' ▸ known)

variable (merge : IsMerge reading banned recur first second space other properties patterns merged)
include merge

theorem ordinary (sound : Sound reading banned recur) (countable : "oneOf" ∈ banned ∨ IsExact banned)
    {keyword : String} (ordinary : IsOrdinary keyword) :
    (∀ {argument}, merged.get? keyword = some argument →
        IsArgument reading.deep banned keyword argument) ∧
      IsMeet (IsExact banned) (asked reading keyword (first.get? keyword))
        (asked reading keyword (second.get? keyword)) (asked reading keyword (merged.get? keyword)) :=
  merge.joined.ordinary sound countable ordinary
    (fun found => ⟨merge.formed.argument found, merge.finite found⟩)
    fun found => ⟨merge.formed'.argument found, merge.finite' found⟩

theorem additional (sound : Sound reading banned recur) :
    (∀ {schema}, merged.get? "additionalProperties" = some schema →
        WellFormed reading.deep banned schema) ∧
      IsMeet (IsExact banned) (PropertySpace.asks reading space.additional)
        (PropertySpace.asks reading other.additional)
        (PropertySpace.asks reading (merged.get? "additionalProperties")) := by
  have joins : Joins? recur "additionalProperties" _ _ _ :=
    merge.joined.joins (by decide) (by decide)
  rw [← merge.describes.additional, ← merge.describes'.additional]
  exact joins_asks sound joins (fun found => (merge.formed.argument found).holds)
    (fun found => (merge.formed'.argument found).holds)

theorem arguments (sound : Sound reading banned recur)
    (countable : "oneOf" ∈ banned ∨ IsExact banned) : AreArguments reading.deep banned merged := by
  refine ⟨merge.joined.distinct, fun {keyword argument} found => ?_⟩
  cases merge.joined.comesFrom found with
  | properties nonempty =>
      exact entries_isArgument merge.formed merge.formed' rfl merge.describes.properties
        merge.describes'.properties merge.named rfl rfl nonempty
  | patterns nonempty =>
      exact entries_isArgument merge.formed merge.formed' rfl merge.describes.patterns
        merge.describes'.patterns merge.matched rfl rfl nonempty
  | sides ordinary =>
      by_cases additional : keyword = "additionalProperties"
      · subst additional
        have joins : Joins? recur "additionalProperties" _ _ _ :=
          merge.joined.joins (by decide) (by decide)
        refine isArgument_schema rfl ?_ ((merge.additional sound).1 found)
        rcases joins_known joins found with ⟨schema, known⟩ | ⟨schema, known⟩
        · exact (merge.formed.argument known).permitted
        · exact (merge.formed'.argument known).permitted
      · exact (merge.ordinary sound countable ⟨ordinary, additional⟩).1 found

theorem meets (sound : Sound reading banned recur) (countable : "oneOf" ∈ banned ∨ IsExact banned) :
    IsMeet (IsExact banned) (accepts reading (.object first)) (accepts reading (.object second))
      (accepts reading (.object merged)) := by
  have formed := merge.describes.isSpace merge.formed
  have formed' := merge.describes'.isSpace merge.formed'
  have formedMerged := merge.joined.describes.isSpace (merge.arguments sound countable)
  have reads := accepts_iff reading merge.formed.distinct merge.describes formed
  have reads' := accepts_iff reading merge.formed'.distinct merge.describes' formed'
  have readsMerged := accepts_iff reading merge.joined.distinct merge.joined.describes formedMerged
  have keyword {keyword : String} (ordinary : IsOrdinary keyword) :=
    (merge.ordinary sound countable ordinary).2
  have additional := (merge.additional sound).2
  constructor
  · intro value accepted
    obtain ⟨asked, admitted⟩ := (readsMerged value).mp accepted
    constructor
    · refine (reads value).mpr ⟨fun key is => ((keyword is).narrow (asked key is)).1,
        fun member inside => ?_⟩
      exact PropertySpace.admits_of_merges merge.named merge.matched
        (fun _ accepted => (additional.narrow accepted).1) (admitted member inside)
    · refine (reads' value).mpr ⟨fun key is => ((keyword is).narrow (asked key is)).2,
        fun member inside => ?_⟩
      exact PropertySpace.admits_of_merges merge.named.swap merge.matched.swap
        (fun _ accepted => (additional.narrow accepted).2) (admitted member inside)
  · intro exactly value accepted accepted'
    obtain ⟨asked, admitted⟩ := (reads value).mp accepted
    obtain ⟨asked', admitted'⟩ := (reads' value).mp accepted'
    refine (readsMerged value).mpr ⟨fun key is =>
      (keyword is).full exactly (asked key is) (asked' key is), fun member inside => ?_⟩
    exact PropertySpace.merges_of_admits exactly formed formed' merge.named merge.matched
      (fun _ => additional.full exactly) (admitted member inside) (admitted' member inside)

end IsMerge

theorem arguments_erase {keywords : Members} (formed : AreArguments deep banned keywords)
    (key : String) : AreArguments deep banned (keywords.erase key) := by
  exact ⟨Members.distinct_erase formed.distinct key,
    fun found => formed.argument (Members.get?_of_erase found)⟩

theorem describes_erase {keywords : Members} (describes : Describes keywords space) {key : String}
    (ordinary : IsOrdinary key) : Describes (keywords.erase key) space := by
  obtain ⟨named, other⟩ := ordinary
  simp only [isEntries, Bool.or_eq_false_iff, decide_eq_false_iff_not] at named
  obtain ⟨properties, patterns, additional⟩ := describes
  constructor
  · rwa [HasEntries, Members.get?_erase, if_neg (Ne.symm named.1)]
  · rwa [HasEntries, Members.get?_erase, if_neg (Ne.symm named.2)]
  · rwa [Members.get?_erase, if_neg (Ne.symm other)]

namespace BoundPair

variable {pair : BoundPair} {strict loose : Number → Number → Bool}

theorem accepts_erase {keywords : Members} (formed : AreArguments reading.deep banned keywords)
    (describes : Describes keywords space)
    (ordinary : ∀ {key}, key = pair.exclusive ∨ key = pair.inclusive → IsOrdinary key) {key : String}
    (bound : key = pair.exclusive ∨ key = pair.inclusive) {value : Json}
    (same : admitsPair reading pair (keywords.erase key) value = admitsPair reading pair keywords value) :
    accepts reading (.object (keywords.erase key)) value = accepts reading (.object keywords) value := by
  have formedSpace := describes.isSpace formed
  rw [Bool.eq_iff_iff, accepts_iff reading formed.distinct describes formedSpace,
    accepts_iff reading (Members.distinct_erase formed.distinct key)
      (describes_erase describes (ordinary bound)) formedSpace]
  have pairs (keywords : Members) : admitsPair reading pair keywords value = true ↔
      ∀ keyword, keyword = pair.exclusive ∨ keyword = pair.inclusive →
        asked reading keyword (keywords.get? keyword) value = true := by
    simp [admitsPair, or_imp, forall_and]
  have both := ((pairs (keywords.erase key)).symm.trans (by rw [same])).trans (pairs keywords)
  have kept {keyword : String} (free : ¬(keyword = pair.exclusive ∨ keyword = pair.inclusive)) :
      (keywords.erase key).get? keyword = keywords.get? keyword := by
    rw [Members.get?_erase, if_neg]
    rintro rfl
    exact free bound
  refine and_congr_left fun _ => ⟨fun asked keyword is => ?_, fun asked keyword is => ?_⟩
  · by_cases free : keyword = pair.exclusive ∨ keyword = pair.inclusive
    · exact both.mp (fun keyword bound => asked keyword (ordinary bound)) keyword free
    · rw [← kept free]
      exact asked keyword is
  · by_cases free : keyword = pair.exclusive ∨ keyword = pair.inclusive
    · exact both.mpr (fun keyword bound => asked keyword (ordinary bound)) keyword free
    · rw [kept free]
      exact asked keyword is

theorem reconcile_keeps {keywords : Members} (reads : Reads reading pair strict loose)
    (differ : pair.exclusive ≠ pair.inclusive)
    (ordinary : ∀ {key}, key = pair.exclusive ∨ key = pair.inclusive →
      IsOrdinary key ∧ nullableKeywords.contains key = false)
    (formed : AreArguments reading.deep banned keywords) (describes : Describes keywords space)
    (finite : ∀ {key argument}, key = pair.exclusive ∨ key = pair.inclusive →
      keywords.get? key = some argument → argument.isFinite = true)
    (made : pair.reconcile false keywords = .ok out) :
    ∃ key, (key = pair.exclusive ∨ key = pair.inclusive) ∧ out = keywords.erase key ∧
      accepts reading (.object out) = accepts reading (.object keywords) := by
  obtain ⟨cases, same⟩ := reconcile_reads reads differ made
    (fun _ bound => formed.present? (ordinary bound).2) finite
  rcases cases with rfl | rfl
  · exact ⟨_, Or.inl rfl, rfl, funext fun value =>
      accepts_erase formed describes (fun bound => (ordinary bound).1) (Or.inl rfl) (same value)⟩
  · exact ⟨_, Or.inr rfl, rfl, funext fun value =>
      accepts_erase formed describes (fun bound => (ordinary bound).1) (Or.inr rfl) (same value)⟩

end BoundPair

def boundKeywords : List String := ["exclusiveMaximum", "maximum", "exclusiveMinimum", "minimum"]

theorem mem_boundKeywords {keyword : String} : keyword ∈ boundKeywords ↔
    keyword = "exclusiveMaximum" ∨ keyword = "maximum" ∨ keyword = "exclusiveMinimum" ∨
      keyword = "minimum" := by
  simp [boundKeywords]

theorem bound_ne_reworked {keyword : String} (bound : keyword ∈ boundKeywords) :
    isEntries keyword = false ∧ keyword ≠ "deprecated" := by
  rcases mem_boundKeywords.mp bound with rfl | rfl | rfl | rfl <;> exact ⟨by decide, by decide⟩

def BoundPair.IsNumeric (pair : BoundPair) : Prop :=
  pair.exclusive ∈ boundKeywords ∧ pair.inclusive ∈ boundKeywords

theorem exists_pick {keyword : String} (bound : keyword ∈ boundKeywords) :
    ∃ pick : Number → Number → Number, (pick = Number.least ∨ pick = Number.greatest) ∧
      ∀ {recur : Meeting} {argument argument' met : Json},
        combine recur keyword argument argument' = .ok met →
        ∃ x y, argument = .number x ∧ argument' = .number y ∧ met = .number (pick x y) := by
  rcases mem_boundKeywords.mp bound with rfl | rfl | rfl | rfl
  · exact ⟨_, Or.inl rfl, fun made => Keyword.upperBound_eq_ok made⟩
  · exact ⟨_, Or.inl rfl, fun made => Keyword.upperBound_eq_ok made⟩
  · exact ⟨_, Or.inr rfl, fun made => Keyword.lowerBound_eq_ok made⟩
  · exact ⟨_, Or.inr rfl, fun made => Keyword.lowerBound_eq_ok made⟩

theorem combine_bound_finite {keyword : String} (bound : keyword ∈ boundKeywords)
    {argument argument' met : Json} (made : combine recur keyword argument argument' = .ok met)
    (finite : argument.isFinite = true) (finite' : argument'.isFinite = true) :
    met.isFinite = true := by
  obtain ⟨pick, cases, picks⟩ := exists_pick bound
  obtain ⟨x, y, rfl, rfl, rfl⟩ := picks made
  rcases cases with rfl | rfl
  · unfold Number.least
    split <;> assumption
  · unfold Number.greatest
    split <;> assumption

theorem joins_bound_finite {keyword : String} (bound : keyword ∈ boundKeywords)
    {left right result : Option Json} (joins : Joins? recur keyword left right result)
    (finite : ∀ {argument}, left = some argument → argument.isFinite = true)
    (finite' : ∀ {argument}, right = some argument → argument.isFinite = true) {argument : Json}
    (found : result = some argument) : argument.isFinite = true := by
  cases joins with
  | neither => exact absurd found (by simp)
  | left => exact finite found
  | right => exact finite' found
  | same => exact finite found
  | combined _ made =>
      obtain rfl := Option.some.inj found
      exact combine_bound_finite bound made (finite rfl) (finite' rfl)

theorem stages_of_meetObjects (formed : AreArguments deep banned first)
    (formed' : AreArguments deep banned second) (made : meetObjects recur first second = .ok out) :
    ∃ space other properties patterns merged bounded,
      (Describes first space ∧ Describes second other) ∧
        space.meetNamed recur other = .ok properties ∧
        space.ofPatterns.meetNamed recur other.ofPatterns = .ok patterns ∧
        Joined recur first second properties patterns merged ∧
        BoundPair.upper.reconcile false merged = .ok bounded ∧
        BoundPair.lower.reconcile false bounded = .ok out := by
  have plain := numericBounds_of_arguments formed
  have plain' := numericBounds_of_arguments formed'
  obtain ⟨space, other, properties, patterns, merged, bounded, read, read', named, matched, joined,
    upper, lower⟩ := meetObjects_eq_ok made (plain.symm ▸ formed.distinct) (plain'.symm ▸ formed'.distinct)
  rw [plain] at read
  rw [plain'] at read'
  rw [plain, plain'] at joined
  rw [eitherBoolean_of_arguments formed formed' _ (Or.inl rfl)] at upper
  rw [eitherBoolean_of_arguments formed formed' _ (Or.inr rfl)] at lower
  exact ⟨space, other, properties, patterns, merged, bounded,
    ⟨describes_of_ofSchema formed read, describes_of_ofSchema formed' read'⟩, named, matched, joined,
    upper, lower⟩

theorem isMerge_of_meetObjects (sound : Sound reading banned recur)
    (formed : AreArguments reading.deep banned first) (formed' : AreArguments reading.deep banned second)
    (finite : AreFinite first) (finite' : AreFinite second)
    (made : meetObjects recur first second = .ok out) :
    ∃ space other properties patterns merged bounded,
      IsMerge reading banned recur first second space other properties patterns merged ∧
        BoundPair.upper.reconcile false merged = .ok bounded ∧
        BoundPair.lower.reconcile false bounded = .ok out := by
  obtain ⟨space, other, properties, patterns, merged, bounded, ⟨describes, describes'⟩, named, matched,
    joined, upper, lower⟩ := stages_of_meetObjects formed formed' made
  have formedSpace := (describes.isSpace formed).isFormed
  have formedSpace' := (describes'.isSpace formed').isFormed
  exact ⟨space, other, properties, patterns, merged, bounded,
    ⟨formed, formed', finite, finite', describes, describes',
      PropertySpace.meetNamed_merges sound formedSpace formedSpace' named,
      PropertySpace.meetNamed_merges sound formedSpace.ofPatterns formedSpace'.ofPatterns matched, joined⟩,
    upper, lower⟩

theorem Joined.bound_finite (joined : Joined recur first second properties patterns merged)
    (finite : AreFinite first) (finite' : AreFinite second) {key : String} (bound : key ∈ boundKeywords)
    {argument : Json} (found : merged.get? key = some argument) : argument.isFinite = true := by
  have ordinary := bound_ne_reworked bound
  exact joins_bound_finite bound (joined.joins ordinary.1 ordinary.2) finite finite' found

theorem accepts_reduced {bounded : Members} (formed : AreArguments reading.deep banned merged)
    (describes : Describes merged space)
    (finite : ∀ {key argument}, key ∈ boundKeywords → merged.get? key = some argument →
      argument.isFinite = true)
    (upper : BoundPair.upper.reconcile false merged = .ok bounded)
    (lower : BoundPair.lower.reconcile false bounded = .ok out) :
    (∃ key ∈ boundKeywords, ∃ key' ∈ boundKeywords, out = (merged.erase key).erase key') ∧
      AreArguments reading.deep banned out ∧
      accepts reading (.object out) = accepts reading (.object merged) := by
  obtain ⟨key, isUpper, rfl, sameUpper⟩ := BoundPair.reconcile_keeps (BoundPair.upper_reads reading)
    (by decide) (by rintro key (rfl | rfl) <;> exact ⟨⟨by decide, by decide⟩, by decide⟩) formed
    describes (fun bound => finite (by rcases bound with rfl | rfl <;> decide)) upper
  have ordinary : IsOrdinary key ∧ key ∈ boundKeywords := by
    rcases isUpper with rfl | rfl <;> exact ⟨⟨by decide, by decide⟩, by decide⟩
  have formedBounded := arguments_erase formed key
  have finiteBounded {key' : String} {argument : Json} (bound : key' ∈ boundKeywords)
      (found : (merged.erase key).get? key' = some argument) : argument.isFinite = true :=
    finite bound (Members.get?_of_erase found)
  obtain ⟨key', isLower, rfl, sameLower⟩ := BoundPair.reconcile_keeps (BoundPair.lower_reads reading)
    (by decide) (by rintro key (rfl | rfl) <;> exact ⟨⟨by decide, by decide⟩, by decide⟩) formedBounded
    (describes_erase describes ordinary.1)
    (fun bound => finiteBounded (by rcases bound with rfl | rfl <;> decide)) lower
  exact ⟨⟨key, ordinary.2, key', by rcases isLower with rfl | rfl <;> decide, rfl⟩,
    arguments_erase formedBounded key', sameLower.trans sameUpper⟩

namespace IsMerge

variable {bounded : Members}
  (merge : IsMerge reading banned recur first second space other properties patterns merged)

include merge

theorem reduced (sound : Sound reading banned recur) (countable : "oneOf" ∈ banned ∨ IsExact banned)
    (upper : BoundPair.upper.reconcile false merged = .ok bounded)
    (lower : BoundPair.lower.reconcile false bounded = .ok out) :
    (∃ key ∈ boundKeywords, ∃ key' ∈ boundKeywords, out = (merged.erase key).erase key') ∧
      AreArguments reading.deep banned out ∧
      accepts reading (.object out) = accepts reading (.object merged) :=
  accepts_reduced (merge.arguments sound countable) merge.joined.describes
    (fun bound found => merge.joined.bound_finite merge.finite merge.finite' bound found) upper lower

end IsMerge

theorem meetObjects_meets (sound : Sound reading banned recur)
    (countable : "oneOf" ∈ banned ∨ IsExact banned) (formed : AreArguments reading.deep banned first)
    (formed' : AreArguments reading.deep banned second) (finite : AreFinite first)
    (finite' : AreFinite second) (made : meetObjects recur first second = .ok out) :
    AreArguments reading.deep banned out ∧
      IsMeet (IsExact banned) (accepts reading (.object first)) (accepts reading (.object second))
        (accepts reading (.object out)) := by
  obtain ⟨_, _, _, _, _, _, merge, upper, lower⟩ :=
    isMerge_of_meetObjects sound formed formed' finite finite' made
  obtain ⟨-, formedOut, same⟩ := merge.reduced sound countable upper lower
  rw [same]
  exact ⟨formedOut, merge.meets sound countable⟩

end SchemaMerge.Schema
