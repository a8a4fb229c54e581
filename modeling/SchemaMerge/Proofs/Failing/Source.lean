import SchemaMerge.Proofs.Meet.Exact

/-!
Where the failure of a meet comes from: one comparison, one rule, one pattern, or the meet of two
schemas inside.
-/

namespace SchemaMerge

namespace Json

theorem canonical_eq_error {value : Json} {double : Double} (failed : canonical value = .error double) :
    value.isFinite = false := by
  rw [← isFinite_arranged]
  unfold canonical at failed
  split at failed
  · next found => simp [isFinite, found]
  · exact absurd failed (by simp)

theorem canonicalItems_eq_error {items : List Json} {double : Double}
    (failed : canonicalItems items = .error double) : ∃ item ∈ items, item.isFinite = false := by
  induction items with
  | nil => exact absurd failed (by simp [canonicalItems])
  | cons item rest ih =>
      rcases bind_eq_error.mp failed with failed | ⟨form, -, failed⟩
      · exact ⟨item, by simp, canonical_eq_error failed⟩
      · rcases bind_eq_error.mp failed with failed | ⟨others, -, failed⟩
        · obtain ⟨other, inside, infinite⟩ := ih failed
          exact ⟨other, List.mem_cons_of_mem _ inside, infinite⟩
        · exact absurd failed (by simp)

theorem equal_eq_error {first second : Json} {double : Double}
    (failed : first.equal second = .error double) :
    first.isFinite = false ∨ second.isFinite = false := by
  rcases bind_eq_error.mp failed with failed | ⟨form, -, failed⟩
  · exact Or.inl (canonical_eq_error failed)
  · rcases bind_eq_error.mp failed with failed | ⟨other, -, failed⟩
    · exact Or.inr (canonical_eq_error failed)
    · exact absurd failed (by simp)

theorem unseen_eq_error {seen values : List Json} {double : Double}
    (failed : unseen seen values = .error double) : ∃ value ∈ values, value.isFinite = false := by
  induction values generalizing seen with
  | nil => exact absurd failed (by simp [unseen])
  | cons value rest ih =>
      have later {seen : List Json} (failed : unseen seen rest = .error double) :
          ∃ other ∈ value :: rest, other.isFinite = false := by
        obtain ⟨other, inside, infinite⟩ := ih failed
        exact ⟨other, List.mem_cons_of_mem _ inside, infinite⟩
      rcases bind_eq_error.mp failed with failed | ⟨form, -, failed⟩
      · exact ⟨value, by simp, canonical_eq_error failed⟩
      · split at failed
        · exact later failed
        · rcases bind_eq_error.mp failed with failed | ⟨others, -, failed⟩
          · exact later failed
          · exact absurd failed (by simp)

theorem unionUnique_eq_error {first second : List Json} {double : Double}
    (failed : unionUnique first second = .error double) :
    ∃ value ∈ first ++ second, value.isFinite = false := by
  rcases bind_eq_error.mp failed with failed | ⟨seen, -, failed⟩
  · obtain ⟨value, inside, infinite⟩ := canonicalItems_eq_error failed
    exact ⟨value, List.mem_append_left _ inside, infinite⟩
  · rcases bind_eq_error.mp failed with failed | ⟨added, -, failed⟩
    · obtain ⟨value, inside, infinite⟩ := unseen_eq_error failed
      exact ⟨value, List.mem_append_right _ inside, infinite⟩
    · exact absurd failed (by simp)

end Json

namespace Schema

variable {recur : Meeting} {failure : Failure}

theorem equal_eq_error {first second : Json} (failed : equal first second = .error failure) :
    failure.kind = .malformed ∧ (first.isFinite = false ∨ second.isFinite = false) := by
  obtain ⟨double, infinite, rfl⟩ := finitely_eq_error.mp failed
  exact ⟨rfl, Json.equal_eq_error infinite⟩

theorem canonicalItems_eq_error {items : List Json}
    (failed : finitely (Json.canonicalItems items) = .error failure) :
    failure.kind = .malformed ∧ ∃ item ∈ items, item.isFinite = false := by
  obtain ⟨double, infinite, rfl⟩ := finitely_eq_error.mp failed
  exact ⟨rfl, Json.canonicalItems_eq_error infinite⟩

theorem unionUnique_eq_error {first second : List Json}
    (failed : unionUnique first second = .error failure) :
    failure.kind = .malformed ∧ ∃ value ∈ first ++ second, value.isFinite = false := by
  obtain ⟨double, infinite, rfl⟩ := finitely_eq_error.mp failed
  exact ⟨rfl, Json.unionUnique_eq_error infinite⟩

theorem anyM_equal_eq_error {schema : Json} {others : List Json}
    (failed : others.anyM (equal schema) = .error failure) :
    ∃ other ∈ others, equal schema other = .error failure := by
  induction others with
  | nil => exact absurd failed (by simp [List.anyM])
  | cons other rest ih =>
      rw [List.anyM] at failed
      rcases bind_eq_error.mp failed with failed | ⟨answer, -, failed⟩
      · exact ⟨other, by simp, failed⟩
      · cases answer with
        | true => exact absurd failed (by simp)
        | false =>
            obtain ⟨later, inside, failed⟩ := ih failed
            exact ⟨later, List.mem_cons_of_mem _ inside, failed⟩

theorem isSubset_eq_error {schemas others : List Json}
    (failed : isSubset schemas others = .error failure) :
    ∃ schema ∈ schemas, ∃ other ∈ others, equal schema other = .error failure := by
  induction schemas with
  | nil => exact absurd failed (by simp [isSubset, List.allM])
  | cons schema rest ih =>
      rw [isSubset, List.allM] at failed
      rcases bind_eq_error.mp failed with failed | ⟨answer, -, failed⟩
      · obtain ⟨other, inside, failed⟩ := anyM_equal_eq_error failed
        exact ⟨schema, by simp, other, inside, failed⟩
      · cases answer with
        | true =>
            obtain ⟨later, inside, found⟩ := ih failed
            exact ⟨later, List.mem_cons_of_mem _ inside, found⟩
        | false => exact absurd failed (by simp)

theorem isPermutation_eq_error {schemas others : List Json}
    (failed : isPermutation schemas others = .error failure) :
    failure.kind = .malformed ∧ ∃ schema ∈ schemas ++ others, schema.isFinite = false := by
  rcases bind_eq_error.mp failed with failed | ⟨forms, -, failed⟩
  · obtain ⟨kind, schema, inside, infinite⟩ := canonicalItems_eq_error failed
    exact ⟨kind, schema, List.mem_append_left _ inside, infinite⟩
  · rcases bind_eq_error.mp failed with failed | ⟨forms', -, failed⟩
    · obtain ⟨kind, schema, inside, infinite⟩ := canonicalItems_eq_error failed
      exact ⟨kind, schema, List.mem_append_right _ inside, infinite⟩
    · exact absurd failed (by simp)

theorem distribute_eq_error {keyword : String} {schemas others : List Json}
    (failed : distribute recur keyword schemas others = .error failure) :
    failure = .unsupported keyword (.array schemas) (.array others) none ∨
      ∃ schema other, recur schema other = .error failure ∧
        (schema ∈ schemas ∧ other ∈ others ∨ schema ∈ others ∧ other ∈ schemas) := by
  unfold distribute at failed
  split at failed
  · next single =>
    obtain ⟨schema, inside, failed⟩ := mapM_eq_error failed
    exact Or.inr ⟨schema, single, failed, Or.inr ⟨inside, by simp⟩⟩
  · next single _ =>
    obtain ⟨schema, inside, failed⟩ := mapM_eq_error failed
    exact Or.inr ⟨schema, single, failed, Or.inl ⟨inside, by simp⟩⟩
  · exact Or.inl (throw_eq_error.mp failed).symm

theorem anyOf_eq_error {schemas others : List Json}
    (failed : anyOf recur (.array schemas) (.array others) = .error failure) :
    (∃ schema other, equal schema other = .error failure ∧
        (schema ∈ schemas ∧ other ∈ others ∨ schema ∈ others ∧ other ∈ schemas)) ∨
      distribute recur "anyOf" schemas others = .error failure := by
  have distributed {answer : Bool} {whole : Json} (failed : (do
      if answer = true then return whole
      return .array (← distribute recur "anyOf" schemas others)) = .error failure) :
      distribute recur "anyOf" schemas others = .error failure := by
    cases answer with
    | true => exact absurd failed (by simp)
    | false =>
        rcases bind_eq_error.mp failed with failed | ⟨mets, -, failed⟩
        · exact failed
        · exact absurd failed (by simp)
  rw [anyOf, asArray_bind, asArray_bind] at failed
  dsimp only at failed
  split at failed
  · rcases bind_eq_error.mp failed with failed | ⟨answer, -, failed⟩
    · obtain ⟨schema, inside, other, inside', failed⟩ := isSubset_eq_error failed
      exact Or.inl ⟨schema, other, failed, Or.inl ⟨inside, inside'⟩⟩
    · exact Or.inr (distributed failed)
  · rcases bind_eq_error.mp failed with failed | ⟨answer, -, failed⟩
    · obtain ⟨schema, inside, other, inside', failed⟩ := isSubset_eq_error failed
      exact Or.inl ⟨schema, other, failed, Or.inr ⟨inside, inside'⟩⟩
    · exact Or.inr (distributed failed)

theorem oneOf_eq_error {schemas others : List Json}
    (failed : oneOf recur (.array schemas) (.array others) = .error failure) :
    isPermutation schemas others = .error failure ∨
      distribute recur "oneOf" schemas others = .error failure := by
  rw [oneOf, asArray_bind, asArray_bind] at failed
  rcases bind_eq_error.mp failed with failed | ⟨answer, -, failed⟩
  · exact Or.inl failed
  · cases answer with
    | true => exact absurd failed (by simp)
    | false =>
        rcases bind_eq_error.mp failed with failed | ⟨mets, -, failed⟩
        · exact Or.inr failed
        · exact absurd failed (by simp)

theorem applies_eq_error {pattern name : String} (failed : applies pattern name = .error failure) :
    (failure.kind = .malformed ∨ failure.kind = .infinite) ∧
      ∃ fault, Pattern.ofText pattern.toList = .error fault := by
  unfold applies at failed
  split at failed
  · exact absurd failed (by simp)
  · next fault uncompiled =>
    obtain rfl := Except.error.inj failed
    refine ⟨?_, fault, uncompiled⟩
    split
    · exact Or.inr rfl
    · exact Or.inl rfl

theorem matching_eq_error {name : String} {patterns : Members}
    (failed : matching name patterns = .error failure) :
    ∃ entry ∈ patterns, applies entry.1 name = .error failure := by
  induction patterns with
  | nil => exact absurd failed (by simp [matching])
  | cons entry rest ih =>
      rcases bind_eq_error.mp failed with failed | ⟨found, -, failed⟩
      · exact ⟨entry, by simp, failed⟩
      · rcases bind_eq_error.mp failed with failed | ⟨others, -, failed⟩
        · obtain ⟨later, inside, failed⟩ := ih failed
          exact ⟨later, List.mem_cons_of_mem _ inside, failed⟩
        · exact absurd failed (by simp)

namespace PropertySpace

variable {space first second : PropertySpace}

inductive EntryFails (recur : Meeting) (space : PropertySpace) (name : String) (entry : Json)
    (failure : Failure) : Prop
  | named {other : Json} (found : space.properties.present? name = some other)
      (failed : recur entry other = .error failure)
  | pattern {pattern : String} {schema : Json} (inside : (pattern, schema) ∈ space.patterns)
      (failed : applies pattern name = .error failure)
  | additional {other : Json} (found : space.additional = some other)
      (failed : recur entry other = .error failure)
  | matched {schemas : List Json} (found : matching name space.patterns = .ok schemas)
      (failed : schemas.foldlM recur entry = .error failure)

theorem meetEntry_eq_error {name : String} {entry : Json}
    (failed : meetEntry recur space name entry = .error failure) :
    EntryFails recur space name entry failure := by
  unfold meetEntry at failed
  split at failed
  · next other found => exact .named found failed
  · rcases bind_eq_error.mp failed with failed | ⟨schemas, listed, failed⟩
    · obtain ⟨⟨pattern, schema⟩, inside, failed⟩ := matching_eq_error failed
      exact .pattern inside failed
    · split at failed
      · exact absurd failed (by simp)
      · next other found => exact .additional found failed
      · exact .matched listed failed

theorem meetEntries_eq_error {merged entries : Members}
    (failed : meetEntries recur space merged entries = .error failure) :
    ∃ name entry, (name, entry) ∈ entries ∧ entry ≠ .null ∧
      meetEntry recur space name entry = .error failure := by
  induction entries generalizing merged with
  | nil => exact absurd failed (by simp [meetEntries])
  | cons member rest ih =>
      obtain ⟨name, entry⟩ := member
      have later {merged : Members} (failed : meetEntries recur space merged rest = .error failure) :
          ∃ key value, (key, value) ∈ (name, entry) :: rest ∧ value ≠ .null ∧
            meetEntry recur space key value = .error failure := by
        obtain ⟨key, value, inside, found⟩ := ih failed
        exact ⟨key, value, List.mem_cons_of_mem _ inside, found⟩
      by_cases null : entry = .null
      · subst null
        exact later failed
      · rw [meetEntries.eq_3 _ _ _ _ _ _ (fun is => null is)] at failed
        split at failed
        · exact later failed
        · rcases bind_eq_error.mp failed with failed | ⟨met, -, failed⟩
          · exact ⟨name, entry, by simp, null, failed⟩
          · exact later failed

theorem meetNamed_eq_error (failed : meetNamed recur first second = .error failure) :
    (∃ name entry, (name, entry) ∈ first.properties ∧ entry ≠ .null ∧
        EntryFails recur second name entry failure) ∨
      ∃ name entry, (name, entry) ∈ second.properties ∧ entry ≠ .null ∧
        EntryFails recur first name entry failure := by
  rcases bind_eq_error.mp failed with failed | ⟨merged, -, failed⟩
  · obtain ⟨name, entry, inside, set, failed⟩ := meetEntries_eq_error failed
    exact Or.inl ⟨name, entry, inside, set, meetEntry_eq_error failed⟩
  · obtain ⟨name, entry, inside, set, failed⟩ := meetEntries_eq_error failed
    exact Or.inr ⟨name, entry, inside, set, meetEntry_eq_error failed⟩

end PropertySpace

/-- Two arguments of a keyword cannot be compared, or differ and cannot be combined. -/
def Conflicts (recur : Meeting) (keyword : String) (first second : Json) (failure : Failure) : Prop :=
  equal first second = .error failure ∨
    equal first second = .ok false ∧ combine recur keyword first second = .error failure

/-- The keywords fail at one that both sides have; if no keyword is repeated, with the arguments that
stand under it. -/
theorem meetKeywords_eq_error {merged keywords : Members}
    (failed : meetKeywords recur merged keywords = .error failure) :
    ∃ keyword present argument, isEntries keyword = false ∧
      Conflicts recur keyword present argument failure ∧
      (keywords.Distinct → merged.get? keyword = some present ∧ keywords.get? keyword = some argument) := by
  induction keywords generalizing merged with
  | nil => exact absurd failed (by simp [meetKeywords])
  | cons member rest ih =>
      obtain ⟨keyword, argument⟩ := member
      -- a later keyword is another one, and its argument is still the one of the merged object
      have later {next : Members} (failed : meetKeywords recur next rest = .error failure)
          (frame : ∀ key, key ≠ keyword → next.get? key = merged.get? key) :
          ∃ key present value, isEntries key = false ∧ Conflicts recur key present value failure ∧
            (Members.Distinct ((keyword, argument) :: rest) → merged.get? key = some present ∧
              Members.get? ((keyword, argument) :: rest) key = some value) := by
        obtain ⟨key, present, value, ordinary, conflict, found⟩ := ih failed
        refine ⟨key, present, value, ordinary, conflict, fun distinct => ?_⟩
        obtain ⟨fresh, distinctRest⟩ := (Members.distinct_cons _ _).mp distinct
        obtain ⟨known, known'⟩ := found distinctRest
        have other : key ≠ keyword := fresh _ (Members.mem_of_get? known')
        rw [Members.get?_cons, if_neg other, ← frame key other]
        exact ⟨known, known'⟩
      rw [meetKeywords] at failed
      split at failed
      · exact later failed fun _ _ => rfl
      · next ordinary =>
        have found (distinct : Members.Distinct ((keyword, argument) :: rest)) :
            Members.get? ((keyword, argument) :: rest) keyword = some argument :=
          Members.get?_of_mem distinct (by simp)
        split at failed
        · refine later failed fun key other => ?_
          simp [Members.get?_append, Members.get?_cons, other]
        · next present known =>
          rcases bind_eq_error.mp failed with failed | ⟨answer, compared, failed⟩
          · exact ⟨keyword, present, argument, Bool.eq_false_of_not_eq_true ordinary, Or.inl failed,
              fun distinct => ⟨known, found distinct⟩⟩
          · cases answer with
            | true => exact later failed fun _ _ => rfl
            | false =>
                rcases bind_eq_error.mp failed with failed | ⟨met, -, failed⟩
                · exact ⟨keyword, present, argument, Bool.eq_false_of_not_eq_true ordinary,
                    Or.inr ⟨compared, failed⟩, fun distinct => ⟨known, found distinct⟩⟩
                · refine later failed fun key other => ?_
                  rw [Members.get?_set, if_neg other]

def started (first properties patterns : Members) : Members :=
  withEntries "patternProperties" patterns (withEntries "properties" properties first)

inductive ObjectsFail (recur : Meeting) (first second : Members) (failure : Failure) : Prop
  | space {schema : Members} (side : schema = first ∨ schema = second)
      (failed : PropertySpace.ofSchema (numericBounds schema) = .error failure)
  | named {space other : PropertySpace}
      (read : PropertySpace.ofSchema (numericBounds first) = .ok space)
      (read' : PropertySpace.ofSchema (numericBounds second) = .ok other)
      (failed : space.meetNamed recur other = .error failure ∨
        space.ofPatterns.meetNamed recur other.ofPatterns = .error failure)
  | keywords {properties patterns : Members}
      (failed : meetKeywords recur (started (numericBounds first) properties patterns)
        (numericBounds second) = .error failure)
  | bounds {properties patterns merged : Members}
      (made : meetKeywords recur (started (numericBounds first) properties patterns)
        (numericBounds second) = .ok merged)
      (failed : (do
        let bounded ← BoundPair.upper.reconcile (eitherBoolean .upper first second)
          (withDeprecation (numericBounds first) (numericBounds second) merged)
        BoundPair.lower.reconcile (eitherBoolean .lower first second) bounded) = .error failure)

theorem meetObjects_eq_error {first second : Members}
    (failed : meetObjects recur first second = .error failure) :
    ObjectsFail recur first second failure := by
  rcases bind_eq_error.mp failed with failed | ⟨⟨properties, patterns⟩, -, failed⟩
  · rcases bind_eq_error.mp failed with failed | ⟨space, read, failed⟩
    · exact .space (Or.inl rfl) failed
    · rcases bind_eq_error.mp failed with failed | ⟨other, read', failed⟩
      · exact .space (Or.inr rfl) failed
      · rcases bind_eq_error.mp failed with failed | ⟨named, -, failed⟩
        · exact .named read read' (Or.inl failed)
        · rcases bind_eq_error.mp failed with failed | ⟨matched, -, failed⟩
          · exact .named read read' (Or.inr failed)
          · exact absurd failed (by simp)
  · rcases bind_eq_error.mp failed with failed | ⟨merged, made, failed⟩
    · exact .keywords failed
    · exact .bounds made failed

theorem entries_eq_error {keyword : String} {schema : Members}
    (failed : entries keyword schema = .error failure) :
    failure.kind = .malformed ∧ ∃ value, schema.present? keyword = some value ∧
      ∀ named, value ≠ .object named := by
  unfold entries at failed
  split at failed
  · exact absurd failed (by simp)
  · exact absurd failed (by simp)
  · next value other found =>
    obtain rfl := Except.error.inj failed
    exact ⟨rfl, value, found, other⟩

theorem additionalProperties_eq_error {schema : Members}
    (failed : additionalProperties schema = .error failure) :
    failure.kind = .malformed ∧ ∃ value, schema.present? "additionalProperties" = some value ∧
      isSchema value = false := by
  unfold additionalProperties at failed
  split at failed
  · exact absurd failed (by simp)
  · next value found =>
    unfold checkShape at failed
    split at failed
    · exact absurd failed (by simp [Except.map])
    · next noSchema =>
      obtain rfl := Except.error.inj failed
      exact ⟨rfl, value, found, Bool.eq_false_of_not_eq_true noSchema⟩

theorem ofSchema_eq_error {schema : Members} (failed : PropertySpace.ofSchema schema = .error failure) :
    failure.kind = .malformed ∧
      ((∃ keyword value, isEntries keyword = true ∧ schema.present? keyword = some value ∧
          ∀ named, value ≠ .object named) ∨
        ∃ value, schema.present? "additionalProperties" = some value ∧ isSchema value = false) := by
  rcases bind_eq_error.mp failed with failed | ⟨properties, -, failed⟩
  · obtain ⟨kind, value, found, other⟩ := entries_eq_error failed
    exact ⟨kind, Or.inl ⟨_, value, by decide, found, other⟩⟩
  · rcases bind_eq_error.mp failed with failed | ⟨patterns, -, failed⟩
    · obtain ⟨kind, value, found, other⟩ := entries_eq_error failed
      exact ⟨kind, Or.inl ⟨_, value, by decide, found, other⟩⟩
    · rcases bind_eq_error.mp failed with failed | ⟨additional, -, failed⟩
      · exact (additionalProperties_eq_error failed).imp_right Or.inr
      · exact absurd failed (by simp)

def IsNumber (value : Json) : Prop := ∃ number, value = .number number

theorem BoundPair.number?_eq_error {pair : BoundPair} {argument : Option Json}
    (failed : pair.number? argument = .error failure) :
    failure.kind = .malformed ∧ ∃ value, argument = some value ∧ ¬IsNumber value := by
  unfold BoundPair.number? at failed
  split at failed
  · exact absurd failed (by simp)
  · exact absurd failed (by simp)
  · next value other =>
    obtain rfl := Except.error.inj failed
    exact ⟨rfl, value, rfl, fun ⟨number, is⟩ => other number is⟩

theorem BoundPair.reconcile_eq_error {pair : BoundPair} {boolean : Bool} {schema : Members}
    (failed : pair.reconcile boolean schema = .error failure) :
    failure.kind = .malformed ∧ ∃ keyword value, (keyword = pair.exclusive ∨ keyword = pair.inclusive) ∧
      schema.present? keyword = some value ∧ ¬IsNumber value := by
  rcases bind_eq_error.mp failed with failed | ⟨exclusive, -, failed⟩
  · obtain ⟨kind, value, found, other⟩ := number?_eq_error failed
    exact ⟨kind, _, value, Or.inl rfl, found, other⟩
  · rcases bind_eq_error.mp failed with failed | ⟨inclusive, -, failed⟩
    · obtain ⟨kind, value, found, other⟩ := number?_eq_error failed
      exact ⟨kind, _, value, Or.inr rfl, found, other⟩
    · split at failed
      · exact absurd failed (by simp)
      · split at failed
        · exact absurd failed (by simp)
        · split at failed <;> exact absurd failed (by simp)

theorem checkShapes_eq_error {first second : Json}
    (failed : checkShapes first second = .error failure) :
    failure.kind = .malformed ∧ (isSchema first = false ∨ isSchema second = false) := by
  have shape {place : String} {value : Json} (failed : checkShape place value = .error failure) :
      failure.kind = .malformed ∧ isSchema value = false := by
    unfold checkShape at failed
    split at failed
    · exact absurd failed (by simp)
    · next noSchema =>
      obtain rfl := Except.error.inj failed
      exact ⟨rfl, Bool.eq_false_of_not_eq_true noSchema⟩
  rcases bind_eq_error.mp failed with failed | ⟨_, -, failed⟩
  · exact (shape failed).imp_right Or.inl
  · exact (shape failed).imp_right Or.inr

/-- The ways in which two schemas fail to meet within some levels: for their shape, for the depth, as
values that cannot be compared, or as two objects that differ. -/
inductive MeetFails : Nat → Json → Json → Failure → Prop
  | shapes {levels : Nat} {first second : Json} {failure : Failure}
      (failed : checkShapes first second = .error failure) : MeetFails levels first second failure
  | depth {first second : Json} : MeetFails 0 first second .depth
  | unequal {levels : Nat} {first second : Json} {failure : Failure}
      (failed : equal first second = .error failure) : MeetFails levels first second failure
  | objects {levels : Nat} {keywords others : Members} {failure : Failure}
      (differ : equal (.object keywords) (.object others) = .ok false)
      (failed : meetObjects (meetWithin levels) (presentKeywords (.object keywords))
        (presentKeywords (.object others)) = .error failure) :
      MeetFails (levels + 1) (.object keywords) (.object others) failure

theorem meetWithin_eq_error {levels : Nat} {first second : Json}
    (failed : meetWithin levels first second = .error failure) :
    MeetFails levels first second failure := by
  cases levels with
  | zero =>
      rcases bind_eq_error.mp failed with failed | ⟨_, -, failed⟩
      · exact .shapes failed
      · obtain rfl := throw_eq_error.mp failed
        exact .depth
  | succ levels =>
      rcases bind_eq_error.mp failed with failed | ⟨_, shaped, failed⟩
      · exact .shapes failed
      · obtain ⟨_, shape, shape'⟩ := bind_eq_ok.mp shaped
        split at failed
        · exact absurd failed (by simp)
        · next noReject =>
          split at failed
          · exact absurd failed (by simp)
          · next noAccept' =>
            split at failed
            · exact absurd failed (by simp)
            · next noAccept =>
              rcases bind_eq_error.mp failed with failed | ⟨answer, compared, failed⟩
              · exact .unequal failed
              · cases answer with
                | true => exact absurd failed (by simp)
                | false =>
                    simp only [Bool.or_eq_true, not_or, Bool.not_eq_true] at noReject noAccept noAccept'
                    obtain ⟨keywords, rfl⟩ :=
                      exists_object (checkShape_eq_ok shape) noReject.1 noAccept
                    obtain ⟨others, rfl⟩ :=
                      exists_object (checkShape_eq_ok shape') noReject.2 noAccept'
                    rcases bind_eq_error.mp failed with failed | ⟨out, -, failed⟩
                    · exact .objects compared failed
                    · exact absurd failed (by simp)

end Schema

end SchemaMerge
