import SchemaMerge.Proofs.Meet.Lasting
import SchemaMerge.Proofs.Proper.Keyword

/-!
Proper schemas meet in a proper schema, or fail for another reason than their form. The meet of the
schemas inside gives both: what it returns is met again where several patterns fit one name.
-/

namespace SchemaMerge.Schema

open Form

/-- A way to meet proper schemas that gives proper schemas, or fails for another reason than their
form. -/
structure Closed (recur : Meeting) : Prop where
  proper : ∀ {first second met}, recur first second = .ok met → Proper first → Proper second → Proper met
  kind : ∀ {first second failure}, recur first second = .error failure → Proper first →
    Proper second → failure.kind ∈ properKinds

variable {recur : Meeting} {keyword : String} {first second met : Json} {failure : Failure}

namespace PropertySpace

variable {space other : PropertySpace}

structure IsProper (space : PropertySpace) : Prop where
  distinct : space.properties.Distinct
  distinctPatterns : space.patterns.Distinct
  named : ∀ entry ∈ space.properties, Proper entry.2
  matched : ∀ entry ∈ space.patterns, isPattern entry.1 = true ∧ Proper entry.2
  additional : ∀ {schema}, space.additional = some schema → Proper schema

theorem IsProper.ofPatterns (proper : space.IsProper) : space.ofPatterns.IsProper :=
  ⟨proper.distinctPatterns, by simp [PropertySpace.ofPatterns, Members.Distinct],
    fun entry inside => (proper.matched entry inside).2, by simp [PropertySpace.ofPatterns],
    proper.additional⟩

theorem IsProper.holds (proper : space.IsProper) : space.Holds Proper :=
  ⟨proper.named, fun entry inside => (proper.matched entry inside).2, proper.additional⟩

theorem meetNamed_proper (closed : Closed recur) (proper : space.IsProper) (proper' : other.IsProper)
    {named : Members} (made : meetNamed recur space other = .ok named) :
    named.Distinct ∧ ∀ entry ∈ named, Proper entry.2 ∧
      ∃ schema, (entry.1, schema) ∈ space.properties ++ other.properties := by
  obtain ⟨distinct, found⟩ := get?_meetNamed made proper.distinct proper'.distinct
  refine ⟨distinct, fun entry inside => ⟨?_, ?_⟩⟩
  · exact meetNamed_holds closed.proper proper.holds proper'.holds made entry inside
  · have is := Members.get?_of_mem distinct inside
    have known {entries : Members} {schema : Json}
        (own : entries.present? entry.1 = some schema) : (entry.1, schema) ∈ entries :=
      Members.mem_of_get? (Members.present?_eq_some_iff.mp own).1
    cases found entry.1 with
    | first own => exact ⟨_, List.mem_append_left _ (known own)⟩
    | second _ own => exact ⟨_, List.mem_append_right _ (known own)⟩
    | neither _ _ is' => cases is.symm.trans is'

theorem meetNamed_kind (closed : Closed recur) (proper : space.IsProper) (proper' : other.IsProper)
    (failed : meetNamed recur space other = .error failure) : failure.kind ∈ properKinds := by
  cases meetNamed_fails closed.proper proper.holds proper'.holds failed with
  | pattern inside failed =>
      obtain ⟨_, uncompiled⟩ := (applies_eq_error failed).2
      have compiles := ((List.mem_append.mp inside).elim (proper.matched _) (proper'.matched _)).1
      exact absurd compiles (by simp [isPattern, uncompiled])
  | schemas own own' failed => exact closed.kind failed own own'

end PropertySpace

theorem isPlain_of_properSchemas {schemas : List Json} (proper : ∀ schema ∈ schemas, Proper schema) :
    IsPlain (.array schemas) := isPlain_array.mpr fun schema inside => (proper schema inside).plain

theorem distribute_proper (closed : Closed recur) {schemas others mets : List Json}
    (made : distribute recur keyword schemas others = .ok mets)
    (nonempty : schemas ≠ []) (nonempty' : others ≠ []) (proper : ∀ schema ∈ schemas, Proper schema)
    (proper' : ∀ schema ∈ others, Proper schema) : mets ≠ [] ∧ ∀ met ∈ mets, Proper met := by
  obtain ⟨single, alternatives, sides, related⟩ := distribute_eq_ok made
  have all : alternatives ≠ [] ∧ Proper single ∧ ∀ schema ∈ alternatives, Proper schema := by
    rcases sides with ⟨rfl, rfl⟩ | ⟨rfl, rfl⟩
    · exact ⟨nonempty', proper single (by simp), proper'⟩
    · exact ⟨nonempty, proper' single (by simp), proper⟩
  obtain ⟨some, properSingle, properAll⟩ := all
  clear made nonempty nonempty' proper proper' sides
  refine ⟨?_, ?_⟩
  · rintro rfl
    cases related
    exact some rfl
  · clear some
    induction related with
    | nil => simp
    | cons done _ ih =>
        obtain ⟨properHead, properRest⟩ := List.forall_mem_cons.mp properAll
        exact List.forall_mem_cons.mpr ⟨closed.proper done properHead properSingle, ih properRest⟩

theorem distribute_kind (closed : Closed recur) {schemas others : List Json}
    (failed : distribute recur keyword schemas others = .error failure)
    (proper : ∀ schema ∈ schemas, Proper schema) (proper' : ∀ schema ∈ others, Proper schema) :
    failure.kind ∈ properKinds := by
  rcases distribute_eq_error failed with
    rfl | ⟨schema, other, failed, ⟨inside, inside'⟩ | ⟨inside, inside'⟩⟩
  · simp [properKinds, Failure.kind]
  · exact closed.kind failed (proper schema inside) (proper' other inside')
  · exact closed.kind failed (proper' schema inside) (proper other inside')

theorem equal_ne_error (plain : IsPlain first) (plain' : IsPlain second) :
    equal first second ≠ .error failure := by
  intro failed
  rcases (equal_eq_error failed).2 with infinite | infinite
  · exact absurd plain.finite (by simp [infinite])
  · exact absurd plain'.finite (by simp [infinite])

def AreAlternatives (value : Json) : Prop :=
  ∃ schemas, value = .array schemas ∧ schemas ≠ [] ∧ ∀ schema ∈ schemas, Proper schema

theorem anyOf_proper (closed : Closed recur) (made : anyOf recur first second = .ok met)
    (formed : AreAlternatives first) (formed' : AreAlternatives second) : AreAlternatives met := by
  obtain ⟨schemas, rfl, nonempty, proper⟩ := formed
  obtain ⟨others, rfl, nonempty', proper'⟩ := formed'
  rcases anyOf_eq_ok made with ⟨-, rfl⟩ | ⟨-, rfl⟩ | ⟨mets, distributed, rfl⟩
  · exact ⟨schemas, rfl, nonempty, proper⟩
  · exact ⟨others, rfl, nonempty', proper'⟩
  · exact ⟨mets, rfl, distribute_proper closed distributed nonempty nonempty' proper proper'⟩

theorem oneOf_proper (closed : Closed recur) (made : oneOf recur first second = .ok met)
    (formed : AreAlternatives first) (formed' : AreAlternatives second) : AreAlternatives met := by
  obtain ⟨schemas, rfl, nonempty, proper⟩ := formed
  obtain ⟨others, rfl, nonempty', proper'⟩ := formed'
  rcases oneOf_eq_ok made with ⟨-, rfl⟩ | ⟨mets, distributed, rfl⟩
  · exact ⟨schemas, rfl, nonempty, proper⟩
  · exact ⟨mets, rfl, distribute_proper closed distributed nonempty nonempty' proper proper'⟩

theorem anyOf_kind (closed : Closed recur) (failed : anyOf recur first second = .error failure)
    (formed : AreAlternatives first) (formed' : AreAlternatives second) :
    failure.kind ∈ properKinds := by
  obtain ⟨schemas, rfl, -, proper⟩ := formed
  obtain ⟨others, rfl, -, proper'⟩ := formed'
  rcases anyOf_eq_error failed with
    ⟨schema, other, unequal, ⟨inside, inside'⟩ | ⟨inside, inside'⟩⟩ | distributed
  · exact absurd unequal (equal_ne_error (proper schema inside).plain (proper' other inside').plain)
  · exact absurd unequal (equal_ne_error (proper' schema inside).plain (proper other inside').plain)
  · exact distribute_kind closed distributed proper proper'

theorem oneOf_kind (closed : Closed recur) (failed : oneOf recur first second = .error failure)
    (formed : AreAlternatives first) (formed' : AreAlternatives second) :
    failure.kind ∈ properKinds := by
  obtain ⟨schemas, rfl, -, proper⟩ := formed
  obtain ⟨others, rfl, -, proper'⟩ := formed'
  rcases oneOf_eq_error failed with uncompared | distributed
  · obtain ⟨-, schema, inside, infinite⟩ := isPermutation_eq_error uncompared
    have finite := ((List.mem_append.mp inside).elim (proper schema) (proper' schema)).plain.finite
    exact absurd finite (by simp [infinite])
  · exact distribute_kind closed distributed proper proper'

theorem argument_of_alternatives (place : nesting keyword = .schemas) (formed : AreAlternatives met) :
    ProperArgument keyword met := by
  refine ⟨?_, by rw [HoldsProper, place]; exact formed⟩
  obtain ⟨schemas, rfl, -, proper⟩ := formed
  exact isPlain_of_properSchemas proper

theorem argument_of_schema (place : nesting keyword = .schema) (formed : Proper met) :
    ProperArgument keyword met := ⟨formed.plain, by rw [HoldsProper, place]; exact formed⟩

theorem combine_proper (closed : Closed recur) (made : combine recur keyword first second = .ok met)
    (formed : ProperArgument keyword first) (formed' : ProperArgument keyword second) :
    ProperArgument keyword met := by
  unfold combine at made
  split at made
  · exact argument_of_schema rfl (closed.proper made formed.holds formed'.holds)
  · exact argument_of_alternatives rfl (anyOf_proper closed made formed.holds formed'.holds)
  · exact argument_of_alternatives rfl (oneOf_proper closed made formed.holds formed'.holds)
  · exact argument_of_schema rfl (closed.proper made formed.holds formed'.holds)
  · split at made
    · next combined found => exact rule_proper found made formed formed'
    · obtain rfl := Except.ok.inj made
      exact formed
    · exact absurd made (by simp)

theorem combine_kind (closed : Closed recur) (failed : combine recur keyword first second = .error failure)
    (formed : ProperArgument keyword first) (formed' : ProperArgument keyword second) :
    failure.kind ∈ properKinds := by
  unfold combine at failed
  split at failed
  · exact closed.kind failed formed.holds formed'.holds
  · exact anyOf_kind closed failed formed.holds formed'.holds
  · exact oneOf_kind closed failed formed.holds formed'.holds
  · exact closed.kind failed formed.holds formed'.holds
  · split at failed
    · next combined found => exact rule_kind found failed formed formed'
    · exact absurd failed (by simp)
    · obtain rfl := Except.error.inj failed
      simp [properKinds, Failure.kind]

theorem joins_proper (closed : Closed recur) {left right : Option Json}
    (joins : Joins? recur keyword left right (some met))
    (formed : ∀ {argument}, left = some argument → ProperArgument keyword argument)
    (formed' : ∀ {argument}, right = some argument → ProperArgument keyword argument) :
    ProperArgument keyword met := by
  cases joins with
  | left argument => exact formed rfl
  | right argument => exact formed' rfl
  | same compared => exact formed rfl
  | combined _ made => exact combine_proper closed made (formed rfl) (formed' rfl)

section objects

variable {keywords others out merged : Members}

namespace BoundPair

variable {pair : BoundPair}

theorem isBoolean_of_proper (numeric : pair.IsNumeric) (formed : AreProper keywords) :
    pair.isBoolean keywords = false := by
  unfold isBoolean
  cases found : keywords.get? pair.exclusive with
  | none => rfl
  | some argument =>
      obtain ⟨number, rfl⟩ := isNumber_iff.mp (isNumber_of_bound numeric.1 (formed.argument found))
      rfl

theorem toNumeric_of_proper (numeric : pair.IsNumeric) (formed : AreProper keywords) :
    pair.toNumeric keywords = keywords := by
  have plain := isBoolean_of_proper numeric formed
  unfold toNumeric
  split
  · next found _ => simp [isBoolean, found, Json.isBool] at plain
  · next found _ => simp [isBoolean, found, Json.isBool] at plain
  · rfl

theorem reconcile_eq_erase (made : pair.reconcile false keywords = .ok out) :
    ∃ key, out = keywords.erase key := by
  obtain ⟨_, _, -, -, ⟨rfl, -⟩ | ⟨limit, -, -, rfl⟩⟩ := reconcile_eq_ok made
  · exact ⟨_, rfl⟩
  · exact ⟨_, rfl⟩

theorem reconcile_proper (formed : AreProper keywords)
    (made : pair.reconcile false keywords = .ok out) : AreProper out := by
  obtain ⟨key, rfl⟩ := reconcile_eq_erase made
  exact ⟨Members.distinct_erase formed.distinct key,
    fun found => formed.argument (Members.get?_of_erase found)⟩

theorem reconcile_ne_error (numeric : pair.IsNumeric)
    (numbers : ∀ {keyword argument}, keyword ∈ boundKeywords → keywords.get? keyword = some argument →
      argument.isNumber = true) : pair.reconcile false keywords ≠ .error failure := by
  intro failed
  obtain ⟨-, keyword, value, bound, found, other⟩ := reconcile_eq_error failed
  refine other (isNumber_iff.mp (numbers ?_ (Members.present?_eq_some_iff.mp found).1))
  rcases bound with rfl | rfl
  · exact numeric.1
  · exact numeric.2

end BoundPair

theorem numericBounds_of_proper (formed : AreProper keywords) : numericBounds keywords = keywords := by
  have upper : BoundPair.upper.toNumeric keywords = keywords :=
    BoundPair.toNumeric_of_proper ⟨by decide, by decide⟩ formed
  rw [numericBounds, upper]
  exact BoundPair.toNumeric_of_proper ⟨by decide, by decide⟩ formed

theorem eitherBoolean_of_proper {pair : BoundPair} (numeric : pair.IsNumeric)
    (formed : AreProper keywords) (formed' : AreProper others) :
    eitherBoolean pair keywords others = false := by
  rw [eitherBoolean, BoundPair.isBoolean_of_proper numeric formed,
    BoundPair.isBoolean_of_proper numeric formed', Bool.or_false]

theorem entries_of_proper (formed : AreProper keywords) (place : nesting keyword = .entries)
    (ordinary : nullableKeywords.contains keyword = false) {named : Members}
    (read : entries keyword keywords = .ok named) :
    named.Distinct ∧ areNamed keyword named = true ∧ ∀ entry ∈ named, Proper entry.2 := by
  rw [entries, formed.present? ordinary] at read
  split at read
  · obtain rfl := Except.ok.inj read
    exact ⟨by simp [Members.Distinct], by simp [areNamed], by simp⟩
  · next found =>
    obtain rfl := Except.ok.inj read
    have argument := formed.argument found
    have holds := argument.holds
    rw [HoldsProper, place] at holds
    obtain ⟨_, ⟨⟩, named, proper⟩ := holds
    exact ⟨(isPlain_object.mp argument.plain).1, named, proper⟩
  · exact absurd read (by simp)

theorem space_of_proper (formed : AreProper keywords) {space : PropertySpace}
    (made : PropertySpace.ofSchema keywords = .ok space) : space.IsProper := by
  obtain ⟨properties, read, made⟩ := bind_eq_ok.mp made
  obtain ⟨patterns, read', made⟩ := bind_eq_ok.mp made
  obtain ⟨additional, read'', built⟩ := bind_eq_ok.mp made
  obtain rfl := pure_eq_ok.mp built
  obtain ⟨distinct, -, proper⟩ := entries_of_proper formed rfl (by decide) read
  obtain ⟨distinct', compile, proper'⟩ := entries_of_proper formed rfl (by decide) read'
  refine ⟨distinct, distinct', proper, fun entry inside => ⟨?_, proper' entry inside⟩,
    fun {schema} found => ?_⟩
  · simp only [areNamed, ne_eq, not_true, decide_false, Bool.false_or, List.all_eq_true] at compile
    exact compile entry inside
  · obtain rfl : additional = some schema := found
    rw [additionalProperties, formed.present? (by decide)] at read''
    split at read''
    · exact absurd read'' (by simp)
    · next found =>
      unfold checkShape at read''
      split at read''
      · obtain rfl := Option.some.inj (Except.ok.inj read'')
        exact (formed.argument found).holds
      · exact absurd read'' (by simp [Except.map])

theorem argument_of_entries {named : Members} (place : nesting keyword = .entries)
    (distinct : named.Distinct) (patterns : areNamed keyword named = true)
    (proper : ∀ entry ∈ named, Proper entry.2) : ProperArgument keyword (.object named) :=
  ⟨isPlain_object.mpr ⟨distinct, fun entry inside => (proper entry inside).plain⟩,
    by rw [HoldsProper, place]; exact ⟨named, rfl, patterns, proper⟩⟩

variable {space other : PropertySpace} {properties patterns : Members}

theorem joined_argument (closed : Closed recur) (formed : AreProper keywords)
    (formed' : AreProper others) (joined : Joined recur keywords others properties patterns merged)
    (ordinary : isEntries keyword = false) {argument : Json}
    (found : merged.get? keyword = some argument) : ProperArgument keyword argument := by
  by_cases deprecated : keyword = "deprecated"
  · subst deprecated
    rw [joined.deprecated] at found
    split at found
    · obtain rfl := Option.some.inj found
      exact argument_of_fits rfl ⟨rfl, rfl⟩ rfl
    · exact absurd found (by simp)
  · have joins := joined.joins ordinary deprecated
    rw [found] at joins
    exact joins_proper closed joins formed.argument formed'.argument

theorem joined_proper (closed : Closed recur) (formed : AreProper keywords) (formed' : AreProper others)
    (read : PropertySpace.ofSchema keywords = .ok space)
    (read' : PropertySpace.ofSchema others = .ok other)
    (named : space.meetNamed recur other = .ok properties)
    (matched : space.ofPatterns.meetNamed recur other.ofPatterns = .ok patterns)
    (joined : Joined recur keywords others properties patterns merged) : AreProper merged := by
  have proper := space_of_proper formed read
  have proper' := space_of_proper formed' read'
  refine ⟨joined.distinct, fun {keyword argument} found => ?_⟩
  cases joined.comesFrom found with
  | properties =>
      obtain ⟨distinct, each⟩ := PropertySpace.meetNamed_proper closed proper proper' named
      exact argument_of_entries rfl distinct rfl fun entry inside => (each entry inside).1
  | patterns =>
      obtain ⟨distinct, each⟩ :=
        PropertySpace.meetNamed_proper closed proper.ofPatterns proper'.ofPatterns matched
      refine argument_of_entries rfl distinct ?_ fun entry inside => (each entry inside).1
      simp only [areNamed, ne_eq, not_true, decide_false, Bool.false_or, List.all_eq_true]
      intro entry inside
      obtain ⟨-, schema, known⟩ := each entry inside
      exact ((List.mem_append.mp known).elim (proper.matched _) (proper'.matched _)).1
  | sides ordinary => exact joined_argument closed formed formed' joined ordinary found

theorem meetObjects_proper (closed : Closed recur) (formed : AreProper keywords)
    (formed' : AreProper others) (made : meetObjects recur keywords others = .ok out) :
    AreProper out := by
  have same := numericBounds_of_proper formed
  have same' := numericBounds_of_proper formed'
  obtain ⟨space, other, properties, patterns, merged, bounded, read, read', named, matched, joined, upper,
    lower⟩ := meetObjects_eq_ok made (by rw [same]; exact formed.distinct)
      (by rw [same']; exact formed'.distinct)
  rw [same] at read joined
  rw [same'] at read' joined
  rw [eitherBoolean_of_proper ⟨by decide, by decide⟩ formed formed'] at upper lower
  have properMerged := joined_proper closed formed formed' read read' named matched joined
  exact BoundPair.reconcile_proper (BoundPair.reconcile_proper properMerged upper) lower

theorem ofSchema_ne_error (formed : AreProper keywords) :
    PropertySpace.ofSchema keywords ≠ .error failure := by
  intro failed
  rcases (ofSchema_eq_error failed).2 with ⟨keyword, value, named, found, other⟩ | ⟨value, found, other⟩
  · have holds := (formed.argument (Members.present?_eq_some_iff.mp found).1).holds
    have place : nesting keyword = .entries := by
      simp only [isEntries, Bool.or_eq_true, decide_eq_true_eq] at named
      rcases named with rfl | rfl <;> rfl
    rw [HoldsProper, place] at holds
    obtain ⟨entries, is, -⟩ := holds
    exact absurd is (other entries)
  · have argument := formed.argument (Members.present?_eq_some_iff.mp found).1
    exact absurd (isSchema_of_proper argument.holds) (by simp [other])

theorem meetKeywords_kind (closed : Closed recur) (formed : AreProper keywords)
    (formed' : AreProper others)
    (failed : meetKeywords recur (started keywords properties patterns) others = .error failure) :
    failure.kind ∈ properKinds := by
  obtain ⟨keyword, present, argument, ordinary, conflict, found⟩ := meetKeywords_eq_error failed
  obtain ⟨known, known'⟩ := found formed'.distinct
  have apart : keyword ≠ "properties" ∧ keyword ≠ "patternProperties" := by
    simpa [isEntries] using ordinary
  rw [started, get?_withEntries, if_neg apart.2, get?_withEntries, if_neg apart.1] at known
  have proper := formed.argument known
  have proper' := formed'.argument known'
  rcases conflict with unequal | ⟨-, failed⟩
  · exact absurd unequal (equal_ne_error proper.plain proper'.plain)
  · exact combine_kind closed failed proper proper'

theorem reconcileBoth_ne_error (closed : Closed recur) (formed : AreProper keywords)
    (formed' : AreProper others)
    (joined : Joined recur keywords others properties patterns merged) :
    (do
      let bounded ← BoundPair.upper.reconcile false merged
      BoundPair.lower.reconcile false bounded) ≠ .error failure := by
  have numbers {keyword : String} {argument : Json} (bound : keyword ∈ boundKeywords)
      (found : merged.get? keyword = some argument) : argument.isNumber = true := by
    have ordinary : isEntries keyword = false :=
      (by decide : ∀ keyword ∈ boundKeywords, isEntries keyword = false) keyword bound
    exact isNumber_of_bound bound (joined_argument closed formed formed' joined ordinary found)
  intro failed
  rcases bind_eq_error.mp failed with failed | ⟨bounded, upper, failed⟩
  · exact BoundPair.reconcile_ne_error ⟨by decide, by decide⟩ numbers failed
  · obtain ⟨key, rfl⟩ := BoundPair.reconcile_eq_erase upper
    refine BoundPair.reconcile_ne_error ⟨by decide, by decide⟩ (fun bound found => ?_) failed
    rw [Members.get?_erase] at found
    split at found
    · exact absurd found (by simp)
    · exact numbers bound found

theorem meetObjects_kind (closed : Closed recur) (formed : AreProper keywords)
    (formed' : AreProper others) (failed : meetObjects recur keywords others = .error failure) :
    failure.kind ∈ properKinds := by
  have same := numericBounds_of_proper formed
  have same' := numericBounds_of_proper formed'
  cases meetObjects_eq_error failed with
  | space side unread =>
      rcases side with rfl | rfl
      · exact absurd (same ▸ unread) (ofSchema_ne_error formed)
      · exact absurd (same' ▸ unread) (ofSchema_ne_error formed')
  | named read read' failed =>
      have proper := space_of_proper formed (same ▸ read)
      have proper' := space_of_proper formed' (same' ▸ read')
      rcases failed with failed | failed
      · exact PropertySpace.meetNamed_kind closed proper proper' failed
      · exact PropertySpace.meetNamed_kind closed proper.ofPatterns proper'.ofPatterns failed
  | keywords failed =>
      rw [same, same'] at failed
      exact meetKeywords_kind closed formed formed' failed
  | bounds made failed =>
      rw [eitherBoolean_of_proper ⟨by decide, by decide⟩ formed formed',
        eitherBoolean_of_proper ⟨by decide, by decide⟩ formed formed', same, same'] at failed
      rw [same, same'] at made
      have joined := joined_of_meetKeywords made formed.distinct formed'.distinct
      exact absurd failed (reconcileBoth_ne_error closed formed formed' joined)

end objects

theorem meetWithin_kind {levels : Nat}
    (closed : ∀ below, levels = below + 1 → Closed (meetWithin below))
    (failed : meetWithin levels first second = .error failure) (proper : Proper first)
    (proper' : Proper second) : failure.kind ∈ properKinds := by
  cases meetWithin_eq_error failed with
  | shapes failed =>
      rcases (checkShapes_eq_error failed).2 with other | other
      · exact absurd (isSchema_of_proper proper) (by simp [other])
      · exact absurd (isSchema_of_proper proper') (by simp [other])
  | depth => decide
  | unequal unequal => exact absurd unequal (equal_ne_error proper.plain proper'.plain)
  | objects _ failed =>
      have formed := proper_object.mp proper
      have formed' := proper_object.mp proper'
      rw [formed.presentKeywords_eq, formed'.presentKeywords_eq] at failed
      exact meetObjects_kind (closed _ rfl) formed formed' failed

theorem closed_meetWithin (levels : Nat) : Closed (meetWithin levels) := by
  induction levels with
  | zero =>
      refine ⟨fun made _ _ => ?_, meetWithin_kind (by simp)⟩
      obtain ⟨_, _, wrong⟩ := bind_eq_ok.mp made
      exact absurd wrong (by simp)
  | succ levels ih =>
      have below : ∀ below, levels + 1 = below + 1 → Closed (meetWithin below) := by
        rintro _ ⟨⟩
        exact ih
      refine ⟨fun made proper proper' => ?_, meetWithin_kind below⟩
      cases (meetWithin_succ_eq_ok made).2 with
      | rejects => exact ⟨⟨rfl, rfl⟩, rfl⟩
      | left => exact proper
      | right => exact proper'
      | same => exact proper
      | merged _ _ _ merged =>
          have formed := proper_object.mp proper
          have formed' := proper_object.mp proper'
          rw [formed.presentKeywords_eq, formed'.presentKeywords_eq] at merged
          exact proper_object.mpr (meetObjects_proper ih formed formed' merged)

/-- Two proper schemas meet in a proper schema, or they have no value in common as far as one keyword
tells, or the meet is not supported, or they nest too deeply. -/
theorem meet_proper (depth : Int) (proper : Proper first) (proper' : Proper second) :
    (∃ met, meet depth first second = .ok met ∧ Proper met) ∨
      ∃ failure, meet depth first second = .error failure ∧
        (failure.kind = .empty ∨ failure.kind = .unsupported ∨ failure.kind = .depth) := by
  have closed := closed_meetWithin (levelsOf depth)
  cases met : meet depth first second with
  | ok schema => exact Or.inl ⟨schema, rfl, closed.proper met proper proper'⟩
  | error failure =>
      have kind := closed.kind met proper proper'
      simp only [properKinds, List.mem_cons, List.not_mem_nil, or_false] at kind
      exact Or.inr ⟨failure, rfl, kind⟩

def tenths (digits : Nat) : Json := .number (.float (Decimal.toDouble false ⟨digits, -1⟩))

def stepped : Json :=
  .object [("properties", .object [("ab", .object [("multipleOf", tenths 4)])])]

def steppedByPattern : Json :=
  .object [("patternProperties", .object
    [("^a", .object [("multipleOf", tenths 6)]), ("b$", .object [("minimum", .number (.int 2))])])]

def steppedBoth : Json :=
  .object [("properties", .object
      [("ab", .object [("multipleOf", tenths 12), ("minimum", .number (.int 2))])]),
    ("patternProperties", .object
      [("^a", .object [("multipleOf", tenths 6)]), ("b$", .object [("minimum", .number (.int 2))])])]

theorem stepped_meets_steppedByPattern :
    Proper stepped ∧ Proper steppedByPattern ∧
      meet defaultDepth stepped steppedByPattern = .ok steppedBoth ∧
      ((∃ met, meet defaultDepth stepped steppedByPattern = .ok met ∧ Proper met) ∨
        ∃ failure, meet defaultDepth stepped steppedByPattern = .error failure ∧
          (failure.kind = .empty ∨ failure.kind = .unsupported ∨ failure.kind = .depth)) := by
  have proper : Proper stepped := ⟨⟨by decide +kernel, by decide +kernel⟩, by decide +kernel⟩
  have proper' : Proper steppedByPattern := ⟨⟨by decide +kernel, by decide +kernel⟩, by decide +kernel⟩
  exact ⟨proper, proper', by decide +kernel, meet_proper defaultDepth proper proper'⟩

end SchemaMerge.Schema
