import SchemaMerge.Proofs.Meet.Exact

namespace SchemaMerge.Schema

/-- Keywords that are not merged one by one. -/
def linkedKeywords : List String :=
  ["properties", "patternProperties", "additionalProperties", "deprecated"] ++ boundKeywords

variable {reading : Reading} {deep : Bool} {banned : List String} {recur : Meeting}
  {keep : String → Bool} {keywords first second properties patterns merged out : Members}
  {space other : PropertySpace}

theorem arguments_restrict (formed : AreArguments deep banned keywords) (keep : String → Bool) :
    AreArguments deep banned (keywords.restrict keep) := by
  refine ⟨Members.distinct_restrict formed.distinct keep, fun {keyword argument} found => ?_⟩
  rw [Members.get?_restrict] at found
  split at found
  · exact formed.argument found
  · exact absurd found (by simp)

theorem areFinite_restrict (finite : AreFinite keywords) (keep : String → Bool) :
    AreFinite (keywords.restrict keep) := by
  intro keyword argument found
  rw [Members.get?_restrict] at found
  split at found
  · exact finite found
  · exact absurd found (by simp)

theorem present_restrict (keep : String → Bool) (keywords : Members) :
    (presentKeywords (.object keywords)).restrict keep =
      presentKeywords (.object (keywords.restrict keep)) := by
  unfold presentKeywords Members.restrict
  dsimp only
  rw [List.filter_filter, List.filter_filter]
  exact List.filter_congr fun member _ => Bool.and_comm _ _

section Kept

variable (kept : ∀ key ∈ linkedKeywords, keep key = true)

include kept

theorem get?_linked {key : String} (linked : key ∈ linkedKeywords) (keywords : Members) :
    (keywords.restrict keep).get? key = keywords.get? key := by
  rw [Members.get?_restrict, if_pos (kept key linked)]

theorem describes_restrict (describes : Describes keywords space) :
    Describes (keywords.restrict keep) space := by
  obtain ⟨named, matched, additional⟩ := describes
  constructor
  · rwa [HasEntries, get?_linked kept (by decide)]
  · rwa [HasEntries, get?_linked kept (by decide)]
  · rwa [get?_linked kept (by decide)]

theorem joined_restrict (joined : Joined recur first second properties patterns merged) :
    Joined recur (first.restrict keep) (second.restrict keep) properties patterns
      (merged.restrict keep) := by
  have deprecated (keywords : Members) : isDeprecated (keywords.restrict keep) = isDeprecated keywords := by
    rw [isDeprecated, isDeprecated, get?_linked kept (by decide)]
  refine ⟨Members.distinct_restrict joined.distinct keep, ?_, ?_, ?_, fun {key} ordinary other => ?_⟩
  · rw [get?_linked kept (by decide), joined.properties]
  · rw [get?_linked kept (by decide), joined.patterns]
  · rw [get?_linked kept (by decide), joined.deprecated, deprecated, deprecated]
  · rw [Members.get?_restrict, Members.get?_restrict, Members.get?_restrict]
    split
    · exact joined.joins ordinary other
    · exact .neither

theorem IsMerge.restrict
    (merge : IsMerge reading banned recur first second space other properties patterns merged) :
    IsMerge reading banned recur (first.restrict keep) (second.restrict keep) space other properties
      patterns (merged.restrict keep) :=
  ⟨arguments_restrict merge.formed keep, arguments_restrict merge.formed' keep,
    areFinite_restrict merge.finite keep, areFinite_restrict merge.finite' keep,
    describes_restrict kept merge.describes, describes_restrict kept merge.describes', merge.named,
    merge.matched, joined_restrict kept merge.joined⟩

theorem reconcile_restrict {pair : BoundPair} (exclusive : pair.exclusive ∈ linkedKeywords)
    (inclusive : pair.inclusive ∈ linkedKeywords) (made : pair.reconcile false keywords = .ok out) :
    pair.reconcile false (keywords.restrict keep) = .ok (out.restrict keep) := by
  have found {key : String} (linked : key ∈ linkedKeywords) :
      (keywords.restrict keep).present? key = keywords.present? key := by
    rw [Members.present?, Members.present?, get?_linked kept linked]
  obtain ⟨limit, read, made⟩ := bind_eq_ok.mp made
  obtain ⟨bound, read', made⟩ := bind_eq_ok.mp made
  rw [BoundPair.reconcile, found exclusive, found inclusive]
  refine bind_eq_ok.mpr ⟨limit, read, bind_eq_ok.mpr ⟨bound, read', ?_⟩⟩
  cases limit with
  | none =>
      rw [← pure_eq_ok.mp made, Members.erase_restrict]
      rfl
  | some limit =>
      dsimp only at made ⊢
      split at made
      · next loose =>
        rw [if_pos loose, ← pure_eq_ok.mp made, Members.erase_restrict]
        rfl
      · next tight =>
        rw [if_neg tight, if_neg (by simp)]
        rw [if_neg (by simp)] at made
        rw [← pure_eq_ok.mp made, Members.erase_restrict]
        rfl

theorem meetObjects_restrict (sound : Sound reading banned recur)
    (countable : "oneOf" ∈ banned ∨ IsExact banned) (formed : AreArguments reading.deep banned first)
    (formed' : AreArguments reading.deep banned second) (finite : AreFinite first)
    (finite' : AreFinite second) (made : meetObjects recur first second = .ok out) :
    IsMeet (IsExact banned) (accepts reading (.object (first.restrict keep)))
      (accepts reading (.object (second.restrict keep)))
      (accepts reading (.object (out.restrict keep))) := by
  obtain ⟨_, _, _, _, _, _, merge, upper, lower⟩ :=
    isMerge_of_meetObjects sound formed formed' finite finite' made
  have merge := merge.restrict kept
  obtain ⟨-, -, same⟩ := merge.reduced sound countable
    (reconcile_restrict kept (by decide) (by decide) upper)
    (reconcile_restrict kept (by decide) (by decide) lower)
  rw [same]
  exact merge.meets sound countable

variable {schema schema' met : Json}

theorem meet_restrict (countable : "oneOf" ∈ banned ∨ IsExact banned) (levels : Nat)
    (formed : WellFormed reading.deep banned schema) (formed' : WellFormed reading.deep banned schema')
    (made : meetWithin levels schema schema' = .ok met) :
    IsMeet (IsExact banned) (accepts reading (restrict keep schema))
      (accepts reading (restrict keep schema')) (accepts reading (restrict keep met)) := by
  -- only an object has keywords to leave out
  have reject {schema : Json} (reject : isReject schema = true) (value : Json) :
      accepts reading (Schema.restrict keep schema) value = false := by
    cases schema with
    | object keywords => simp [isReject] at reject
    | _ => exact not_accepts_of_isReject reject value
  have accept {schema : Json} (accept : isAccept schema = true) (value : Json) :
      accepts reading (Schema.restrict keep schema) value = true := by
    cases schema with
    | object keywords =>
        obtain rfl : keywords = [] := by simpa [isAccept] using accept
        exact accepts_of_isAccept rfl value
    | _ => exact accepts_of_isAccept accept value
  cases levels with
  | zero =>
      obtain ⟨_, _, wrong⟩ := bind_eq_ok.mp made
      exact absurd wrong (by simp)
  | succ levels =>
      refine meetWithin_meets (fun schema => accepts reading (Schema.restrict keep schema)) made reject
        accept (fun same => ?_) ?_
      · exact restrict_congr reading same formed.noRepeats formed'.noRepeats keep
      · rintro keywords others out rfl rfl finite finite' merged
        have meet := meetObjects_restrict kept (sound_meetWithin reading countable levels) countable
          (arguments_of_wellFormed formed) (arguments_of_wellFormed formed')
          (present_finite formed finite) (present_finite formed' finite') merged
        rw [present_restrict, present_restrict,
          accepts_present (Json.noRepeats_object.mp (noRepeats_restrict formed.noRepeats keep)).1,
          accepts_present (Json.noRepeats_object.mp (noRepeats_restrict formed'.noRepeats keep)).1]
          at meet
        exact meet

end Kept

end SchemaMerge.Schema
