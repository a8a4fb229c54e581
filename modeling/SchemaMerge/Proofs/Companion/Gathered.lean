import SchemaMerge.Proofs.Companion.Needed
import SchemaMerge.Proofs.Meet.Restricted

namespace SchemaMerge.Schema

open Json (isEqual membersOf)

/-- A schema has the companions of two others, which are equal where both have one, and evaluates the
names that either of them evaluates. -/
structure Gathers (first second met : Json) : Prop where
  companion : ∀ keyword ∈ companions,
    argument? met keyword = (argument? first keyword).or (argument? second keyword)
  agree : ∀ keyword ∈ companions, ∀ argument ∈ argument? first keyword,
    ∀ other ∈ argument? second keyword, isEqual argument other = true
  evaluated : ∀ name, isEvaluated met name = (isEvaluated first name || isEvaluated second name)

variable {reading : Reading} {banned : List String} {recur : Meeting} {first second met : Json}

theorem argument?_object (keywords : Members) (keyword : String) :
    argument? (.object keywords) keyword = keywords.present? keyword := rfl

theorem isEvaluated_object (keywords : Members) (name : String) :
    isEvaluated (.object keywords) name =
      ((argument? (.object keywords) "additionalProperties").isSome || covers keywords name) := rfl

theorem argument?_of_empty {schema : Json} (empty : membersOf schema = []) (keyword : String) :
    argument? schema keyword = none := by
  rw [argument?, empty]
  rfl

theorem isEvaluated_of_empty {schema : Json} (empty : membersOf schema = []) (name : String) :
    isEvaluated schema name = false := by
  rw [isEvaluated, argument?_of_empty empty, empty]
  rfl

theorem membersOf_of_isAccept {schema : Json} (accept : isAccept schema = true) :
    membersOf schema = [] := by
  cases schema with
  | object keywords =>
      obtain rfl : keywords = [] := by simpa [isAccept] using accept
      rfl
  | _ => rfl

theorem membersOf_of_isReject {schema : Json} (reject : isReject schema = true) :
    membersOf schema = [] := by
  cases schema with
  | object keywords => simp [isReject] at reject
  | _ => rfl

theorem gathers_left (empty : membersOf second = []) : Gathers first second first := by
  refine ⟨fun keyword _ => ?_, fun keyword _ argument _ other found => ?_, fun name => ?_⟩
  · rw [argument?_of_empty empty, Option.or_none]
  · rw [argument?_of_empty empty] at found
    exact absurd found (by simp)
  · rw [isEvaluated_of_empty empty, Bool.or_false]

theorem gathers_right (empty : membersOf first = []) : Gathers first second second := by
  refine ⟨fun keyword _ => ?_, fun keyword _ argument found => ?_, fun name => ?_⟩
  · rw [argument?_of_empty empty, Option.none_or]
  · rw [argument?_of_empty empty] at found
    exact absurd found (by simp)
  · rw [isEvaluated_of_empty empty, Bool.false_or]

theorem gathers_same (same : isEqual first second = true) (clean : first.noRepeats = true)
    (clean' : second.noRepeats = true) : Gathers first second first := by
  rcases object_or_not same clean clean' with ⟨keywords, others, rfl, rfl, alike⟩ | ⟨-, plain⟩
  · have related := present?_alike alike
    refine ⟨fun keyword _ => ?_, fun keyword _ argument found other found' => ?_, fun name => ?_⟩
    · have related := related keyword
      unfold argument? membersOf
      generalize keywords.present? keyword = first at related
      generalize others.present? keyword = second at related
      cases related <;> rfl
    · have related := related keyword
      rw [Option.mem_def] at found found'
      unfold argument? membersOf at found found'
      rw [found, found'] at related
      cases related
      assumption
    · have evaluated : isEvaluated (.object keywords) name = isEvaluated (.object others) name := by
        unfold isEvaluated argument? membersOf
        rw [present?_congr alike, covers_congr alike clean clean']
      rw [← evaluated, Bool.or_self]
  · refine gathers_left ?_
    cases second with
    | object others => exact absurd rfl (plain others)
    | _ => rfl

theorem combine_companion {keyword : String} (companion : keyword ∈ companions) {argument other : Json} :
    combine recur keyword argument other ≠ .ok met := by
  intro made
  have unruled : (rule? keyword).isNone = true :=
    (by decide : ∀ keyword ∈ companions, (rule? keyword).isNone = true) keyword companion
  unfold combine at made
  split at made
  · exact absurd companion (by decide)
  · exact absurd companion (by decide)
  · exact absurd companion (by decide)
  · exact absurd companion (by decide)
  · split at made
    · next found => simp [found] at unruled
    · next found => simp [found] at unruled
    · exact absurd made (by simp)

theorem joins_companion {keyword : String} (companion : keyword ∈ companions)
    {left right result : Option Json} (joins : Joins? recur keyword left right result) :
    result = left.or right ∧
      ∀ argument ∈ left, ∀ other ∈ right, isEqual argument other = true := by
  cases joins with
  | neither => simp
  | left argument => simp
  | right argument => simp
  | same compared => simpa using Json.isEqual_of_equal (finitely_eq_ok.mp compared)
  | combined _ made => exact absurd made (combine_companion companion)

theorem joins_isSome {keyword : String} {left right result : Option Json}
    (joins : Joins? recur keyword left right result) :
    result.isSome = (left.isSome || right.isSome) := by
  cases joins <;> rfl

section Merge

variable {left right properties patterns merged out : Members} {space other : PropertySpace}

theorem gathers_of_merge
    (merge : IsMerge reading banned recur left right space other properties patterns merged)
    {key key' : String} (bound : key ∈ boundKeywords) (bound' : key' ∈ boundKeywords)
    (formed : AreArguments reading.deep banned ((merged.erase key).erase key')) :
    Gathers (.object left) (.object right) (.object ((merged.erase key).erase key')) := by
  have kept {keyword : String} (free : keyword ∉ boundKeywords) :
      ((merged.erase key).erase key').get? keyword = merged.get? keyword := by
    rw [Members.get?_erase, if_neg (by rintro rfl; exact free bound'), Members.get?_erase,
      if_neg (by rintro rfl; exact free bound)]
  have argument {keywords : Members} (formed : AreArguments reading.deep banned keywords)
      {keyword : String} (ordinary : nullableKeywords.contains keyword = false) :
      argument? (.object keywords) keyword = keywords.get? keyword := formed.present? ordinary
  have plain : ∀ keyword ∈ companions, isEntries keyword = false ∧ keyword ≠ "deprecated" ∧
      keyword ∉ boundKeywords ∧ nullableKeywords.contains keyword = false := by decide
  have joined {keyword : String} (companion : keyword ∈ companions) :
      argument? (.object ((merged.erase key).erase key')) keyword =
          (argument? (.object left) keyword).or (argument? (.object right) keyword) ∧
        ∀ argument ∈ argument? (.object left) keyword, ∀ other ∈ argument? (.object right) keyword,
          isEqual argument other = true := by
    obtain ⟨ordinary, other, free, set⟩ := plain keyword companion
    rw [argument formed set, argument merge.formed set, argument merge.formed' set, kept free]
    exact joins_companion companion (merge.joined.joins ordinary other)
  refine ⟨fun keyword companion => (joined companion).1, fun keyword companion => (joined companion).2,
    fun name => ?_⟩
  have additional : (argument? (.object ((merged.erase key).erase key')) "additionalProperties").isSome =
      ((argument? (.object left) "additionalProperties").isSome ||
        (argument? (.object right) "additionalProperties").isSome) := by
    rw [argument formed (by decide), argument merge.formed (by decide),
      argument merge.formed' (by decide), kept (by decide)]
    exact joins_isSome (merge.joined.joins (by decide) (by decide))
  have ordinary {key : String} (bound : key ∈ boundKeywords) : IsOrdinary key :=
    (by decide : ∀ key ∈ boundKeywords, isEntries key = false ∧ key ≠ "additionalProperties") key bound
  have describes := describes_erase (describes_erase merge.joined.describes (ordinary bound))
    (ordinary bound')
  have covered : covers ((merged.erase key).erase key') name = (covers left name || covers right name) := by
    rw [Bool.eq_iff_iff, Bool.or_eq_true, describes.covers_iff (describes.isSpace formed).distinctPatterns,
      merge.describes.covers_iff (merge.describes.isSpace merge.formed).distinctPatterns,
      merge.describes'.covers_iff (merge.describes'.isSpace merge.formed').distinctPatterns]
    exact ⟨PropertySpace.covers_or_of_merges merge.named merge.matched, fun either => either.elim
      (PropertySpace.covers_of_merges merge.named merge.matched)
      (PropertySpace.covers_of_merges merge.named.swap merge.matched.swap)⟩
  rw [isEvaluated_object, isEvaluated_object, isEvaluated_object, additional, covered]
  ac_rfl

end Merge

theorem argument?_present {keywords : Members} (distinct : keywords.Distinct) {keyword : String}
    (ordinary : nullableKeywords.contains keyword = false) :
    argument? (.object (presentKeywords (.object keywords))) keyword =
      argument? (.object keywords) keyword := by
  apply Option.ext
  intro argument
  rw [argument?_object, argument?_object, Members.present?_eq_some_iff,
    get?_present distinct ordinary, Members.present?_eq_some_iff]
  simp

theorem isEvaluated_present {keywords : Members} (distinct : keywords.Distinct) (name : String) :
    isEvaluated (.object (presentKeywords (.object keywords))) name =
      isEvaluated (.object keywords) name := by
  rw [isEvaluated_object, isEvaluated_object, argument?_present distinct (by decide),
    covers_present distinct]

theorem gathers_of_present {keywords others : Members} (distinct : keywords.Distinct)
    (distinct' : others.Distinct)
    (gathers : Gathers (.object (presentKeywords (.object keywords)))
      (.object (presentKeywords (.object others))) met) :
    Gathers (.object keywords) (.object others) met := by
  have plain : ∀ keyword ∈ companions, nullableKeywords.contains keyword = false := by decide
  refine ⟨fun keyword companion => ?_, fun keyword companion => ?_, fun name => ?_⟩
  · have joined := gathers.companion keyword companion
    rwa [argument?_present distinct (plain keyword companion),
      argument?_present distinct' (plain keyword companion)] at joined
  · have agree := gathers.agree keyword companion
    rwa [argument?_present distinct (plain keyword companion),
      argument?_present distinct' (plain keyword companion)] at agree
  · rw [gathers.evaluated, isEvaluated_present distinct, isEvaluated_present distinct']

theorem gathers_of_meet (countable : "oneOf" ∈ banned ∨ IsExact banned) (levels : Nat)
    (formed : WellFormed reading.deep banned first) (formed' : WellFormed reading.deep banned second)
    (made : meetWithin levels first second = .ok met) :
    ((isReject first = true ∨ isReject second = true) ∧ met = .bool false) ∨
      Gathers first second met ∧ ((membersOf first = [] ∨ membersOf second = []) ∨
        first.isFinite = true ∧ second.isFinite = true) := by
  cases levels with
  | zero =>
      obtain ⟨_, _, wrong⟩ := bind_eq_ok.mp made
      exact absurd wrong (by simp)
  | succ levels =>
      cases (meetWithin_succ_eq_ok made).2 with
      | rejects reject => exact Or.inl ⟨reject, rfl⟩
      | left accept =>
          have empty := membersOf_of_isAccept accept
          exact Or.inr ⟨gathers_left empty, Or.inl (Or.inr empty)⟩
      | right accept =>
          have empty := membersOf_of_isAccept accept
          exact Or.inr ⟨gathers_right empty, Or.inl (Or.inl empty)⟩
      | same compared =>
          obtain ⟨finite, finite', -⟩ := Json.equal_eq_ok.mp (finitely_eq_ok.mp compared)
          have same := Json.isEqual_of_equal (finitely_eq_ok.mp compared)
          exact Or.inr ⟨gathers_same same formed.noRepeats formed'.noRepeats, Or.inr ⟨finite, finite'⟩⟩
      | merged _ _ differ merged =>
          obtain ⟨finite, finite', -⟩ := Json.equal_eq_ok.mp (finitely_eq_ok.mp differ)
          have sound := sound_meetWithin reading countable levels
          obtain ⟨_, _, _, _, _, _, merge, upper, lower⟩ := isMerge_of_meetObjects sound
            (arguments_of_wellFormed formed) (arguments_of_wellFormed formed')
            (present_finite formed finite) (present_finite formed' finite') merged
          obtain ⟨⟨key, bound, key', bound', rfl⟩, formedOut, -⟩ :=
            merge.reduced sound countable upper lower
          have gathers := gathers_of_merge merge bound bound' formedOut
          exact Or.inr ⟨gathers_of_present (Json.noRepeats_object.mp formed.noRepeats).1
            (Json.noRepeats_object.mp formed'.noRepeats).1 gathers, Or.inr ⟨finite, finite'⟩⟩

end SchemaMerge.Schema
