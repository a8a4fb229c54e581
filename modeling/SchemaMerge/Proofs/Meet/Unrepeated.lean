import SchemaMerge.Proofs.Meet.Lasting

namespace SchemaMerge.Schema

variable {recur : Meeting} {first second keywords out : Members} {keyword : String}

/-- An argument repeats no key. Of the entries that are merged by name, each value counts by itself. -/
def IsUnrepeated (keyword : String) (argument : Json) : Prop :=
  if isEntries keyword = true then
    ∀ named, argument = .object named → ∀ entry ∈ named, entry.2.noRepeats = true
  else argument.noRepeats = true

theorem isUnrepeated_of_noRepeats {argument : Json} (clean : argument.noRepeats = true) :
    IsUnrepeated keyword argument := by
  unfold IsUnrepeated
  split
  · rintro named rfl
    exact (Json.noRepeats_object.mp clean).2
  · exact clean

theorem isUnrepeated_iff {argument : Json} (ordinary : isEntries keyword = false) :
    IsUnrepeated keyword argument ↔ argument.noRepeats = true := by
  rw [IsUnrepeated, if_neg (by simp [ordinary])]

theorem not_isEntries_of_combine {argument argument' met : Json}
    (made : combine recur keyword argument argument' = .ok met) : isEntries keyword = false := by
  rw [Bool.eq_false_iff]
  intro entries
  simp only [isEntries, Bool.or_eq_true, decide_eq_true_eq] at entries
  rcases entries with rfl | rfl
  · cases made
  · cases made

theorem combine_noRepeats (closed : Closes recur (·.noRepeats = true)) {argument argument' met : Json}
    (made : combine recur keyword argument argument' = .ok met) (clean : argument.noRepeats = true)
    (clean' : argument'.noRepeats = true) : met.noRepeats = true := by
  by_cases combinator : keyword ∈ combinatorKeywords
  · obtain ⟨schemas, others, mets, rfl, rfl, rfl, every⟩ := combine_lists closed combinator made
    exact Json.noRepeats_array.mpr (every (Json.noRepeats_array.mp clean) (Json.noRepeats_array.mp clean'))
  · unfold combine at made
    split at made
    · exact closed made clean clean'
    · exact absurd (by decide) combinator
    · exact absurd (by decide) combinator
    · exact closed made clean clean'
    · split at made
      · next found => exact (rule_isClean found made clean clean').noRepeats
      · obtain rfl := Except.ok.inj made
        exact clean
      · cases made

theorem lasts_unrepeated (closed : Closes recur (·.noRepeats = true)) :
    Lasts recur (·.noRepeats = true) IsUnrepeated := by
  have bounded {keyword : String} {argument : Json} (bound : keyword ∈ boundKeywords) :
      IsUnrepeated keyword argument ↔ argument.noRepeats = true :=
    isUnrepeated_iff (bound_ne_reworked bound).1
  constructor
  · exact closed
  · intro keyword argument argument' met made clean clean'
    have ordinary := not_isEntries_of_combine made
    rw [isUnrepeated_iff ordinary] at clean clean' ⊢
    exact combine_noRepeats closed made clean clean'
  · intro keyword named entries
    rw [IsUnrepeated, if_pos entries]
    exact ⟨fun all => all named rfl, by rintro all _ ⟨⟩; exact all⟩
  · exact fun clean => (isUnrepeated_iff rfl).mp clean
  · intro keyword other argument bound bound' clean
    rw [bounded bound'] at clean
    rwa [bounded bound]
  · exact fun bound => (bounded bound).mpr rfl
  · exact (isUnrepeated_iff rfl).mpr rfl

theorem BoundPair.distinct_reconcile {pair : BoundPair} {boolean : Bool}
    (made : pair.reconcile boolean keywords = .ok out) (distinct : keywords.Distinct) : out.Distinct := by
  obtain ⟨_, _, -, -, ⟨rfl, -⟩ | ⟨limit, -, -, rfl⟩⟩ := reconcile_eq_ok made
  · exact Members.distinct_erase distinct _
  · split
    · exact Members.distinct_set (Members.distinct_set distinct _ _) _ _
    · exact Members.distinct_erase distinct _

theorem distinct_entries (clean : (Json.object keywords).noRepeats = true)
    (entries : isEntries keyword = true) {named : Members}
    (read : Schema.entries keyword (numericBounds keywords) = .ok named) : named.Distinct := by
  have other : keyword ∉ boundKeywords := fun bound =>
    absurd ((bound_ne_reworked bound).1.symm.trans entries) (by simp)
  rw [Schema.entries, Members.present?, get?_numericBounds _ other] at read
  split at read
  · obtain rfl := Except.ok.inj read
    exact List.nodup_nil
  · next found =>
    obtain rfl := Except.ok.inj read
    have found := (Members.present?_eq_some_iff.mp found).1
    have clean := (Json.noRepeats_object.mp clean).2 _ (Members.mem_of_get? found)
    exact (Json.noRepeats_object.mp clean).1
  · cases read

theorem distinct_entries_of_meetObjects (made : meetObjects recur first second = .ok out)
    (clean : (Json.object first).noRepeats = true) (clean' : (Json.object second).noRepeats = true)
    (entries : isEntries keyword = true) {argument : Json} (found : out.get? keyword = some argument) :
    ∃ named : Members, argument = .object named ∧ named.Distinct := by
  obtain ⟨space, other, properties, patterns, merged, bounded, read, read', named, matched, joined,
    upper, lower⟩ := meetObjects_eq_ok made (distinct_numericBounds (Json.noRepeats_object.mp clean).1)
      (distinct_numericBounds (Json.noRepeats_object.mp clean').1)
  obtain ⟨ofProperties, ofPatterns⟩ := ofSchema_eq_ok read
  obtain ⟨ofProperties', ofPatterns'⟩ := ofSchema_eq_ok read'
  have kept : out.get? keyword = merged.get? keyword := by
    simp only [isEntries, Bool.or_eq_true, decide_eq_true_eq] at entries
    rcases entries with rfl | rfl <;>
      rw [BoundPair.get?_reconcile lower (by decide) (by decide),
        BoundPair.get?_reconcile upper (by decide) (by decide)]
  rw [kept] at found
  cases joined.comesFrom found with
  | properties =>
      have found := PropertySpace.get?_meetNamed named (distinct_entries clean rfl ofProperties)
        (distinct_entries clean' rfl ofProperties')
      exact ⟨_, rfl, found.1⟩
  | patterns =>
      have found := PropertySpace.get?_meetNamed matched (distinct_entries clean rfl ofPatterns)
        (distinct_entries clean' rfl ofPatterns')
      exact ⟨_, rfl, found.1⟩
  | sides ordinary => cases ordinary.symm.trans entries

theorem noRepeats_meetObjects (closed : Closes recur (·.noRepeats = true))
    (made : meetObjects recur first second = .ok out) (clean : (Json.object first).noRepeats = true)
    (clean' : (Json.object second).noRepeats = true) : (Json.object out).noRepeats = true := by
  obtain ⟨distinct, each⟩ := Json.noRepeats_object.mp clean
  obtain ⟨distinct', each'⟩ := Json.noRepeats_object.mp clean'
  obtain ⟨_, _, _, _, merged, bounded, -, -, -, -, joined, upper, lower⟩ :=
    meetObjects_eq_ok made (distinct_numericBounds distinct) (distinct_numericBounds distinct')
  have distinctOut : out.Distinct :=
    BoundPair.distinct_reconcile lower (BoundPair.distinct_reconcile upper joined.distinct)
  have obeys : Obeys IsUnrepeated out := obeys_meetObjects (lasts_unrepeated closed) made
    (fun member inside => isUnrepeated_of_noRepeats (each member inside))
    (fun member inside => isUnrepeated_of_noRepeats (each' member inside))
  refine Json.noRepeats_object.mpr ⟨distinctOut, fun member inside => ?_⟩
  have own := obeys member inside
  cases entries : isEntries member.1 with
  | false => exact (isUnrepeated_iff entries).mp own
  | true =>
      obtain ⟨named, is, distinct⟩ := distinct_entries_of_meetObjects made clean clean' entries
        (Members.get?_of_mem distinctOut inside)
      rw [IsUnrepeated, if_pos entries] at own
      rw [is]
      exact Json.noRepeats_object.mpr ⟨distinct, own named is⟩

theorem noRepeats_present (clean : (Json.object keywords).noRepeats = true) :
    (Json.object (presentKeywords (.object keywords))).noRepeats = true := by
  obtain ⟨distinct, each⟩ := Json.noRepeats_object.mp clean
  have part : (presentKeywords (.object keywords)).Sublist keywords := List.filter_sublist
  exact Json.noRepeats_object.mpr ⟨Members.distinct_sublist distinct part,
    fun member inside => each member (part.subset inside)⟩

theorem noRepeats_meetWithin (levels : Nat) : Closes (meetWithin levels) (·.noRepeats = true) := by
  induction levels with
  | zero =>
      intro first second met made
      obtain ⟨_, _, wrong⟩ := bind_eq_ok.mp made
      cases wrong
  | succ levels ih =>
      intro first second met made
      refine @meetWith_keeps _ _ _ _ (·.noRepeats = true) (·.noRepeats = true) made rfl id ?_
      intro keywords others out merged clean clean'
      exact noRepeats_meetObjects ih merged (noRepeats_present clean) (noRepeats_present clean')

end SchemaMerge.Schema
