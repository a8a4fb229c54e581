import SchemaMerge.Proofs.Outcome
import SchemaMerge.Proofs.Json.Members
import SchemaMerge.Schema.Meet

namespace SchemaMerge.Schema

/-- What becomes of a keyword, given its arguments on both sides. -/
inductive Joins? (recur : Meeting) (keyword : String) : Option Json → Option Json → Option Json → Prop
  | neither : Joins? recur keyword none none none
  | left (argument : Json) : Joins? recur keyword (some argument) none (some argument)
  | right (argument : Json) : Joins? recur keyword none (some argument) (some argument)
  | same {first second : Json} (compared : equal first second = .ok true) :
      Joins? recur keyword (some first) (some second) (some first)
  | combined {first second met : Json} (compared : equal first second = .ok false)
      (made : combine recur keyword first second = .ok met) :
      Joins? recur keyword (some first) (some second) (some met)

def isEntries (keyword : String) : Bool :=
  keyword = "properties" || keyword = "patternProperties"

variable {recur : Meeting}

theorem meetKeywords_cons_ok {merged rest out : Members} {keyword : String} {argument : Json}
    (made : meetKeywords recur merged ((keyword, argument) :: rest) = .ok out) :
    (isEntries keyword = true ∧ meetKeywords recur merged rest = .ok out) ∨
      (¬isEntries keyword = true ∧ ∃ met next,
        Joins? recur keyword (merged.get? keyword) (some argument) (some met) ∧
        meetKeywords recur next rest = .ok out ∧ next.get? keyword = some met ∧
        (∀ key, key ≠ keyword → next.get? key = merged.get? key) ∧ (merged.Distinct → next.Distinct)) := by
  rw [meetKeywords] at made
  split at made
  · next entries => exact Or.inl ⟨entries, made⟩
  · next ordinary =>
    refine Or.inr ⟨ordinary, ?_⟩
    split at made
    · next missing =>
      refine ⟨argument, _, by rw [missing]; exact .right argument, made, ?_, ?_, ?_⟩
      · simp [Members.get?_append, missing, Members.get?_cons]
      · intro key other
        simp [Members.get?_append, Members.get?_cons, other]
      · exact fun distinct => Members.distinct_snoc distinct missing argument
    · next present found =>
      obtain ⟨answer, compared, made⟩ := bind_eq_ok.mp made
      split at made
      · next same =>
        subst same
        exact ⟨present, merged, by rw [found]; exact .same compared, made, found, fun _ _ => rfl,
          fun distinct => distinct⟩
      · next differs =>
        obtain rfl := Bool.eq_false_of_not_eq_true differs
        obtain ⟨met, combined, made⟩ := bind_eq_ok.mp made
        refine ⟨met, _, by rw [found]; exact .combined compared combined, made, ?_, ?_, ?_⟩
        · simp [Members.get?_set]
        · intro key other
          simp [Members.get?_set, other]
        · exact fun distinct => Members.distinct_set distinct keyword met

theorem joins?_left (keyword : String) (argument : Option Json) :
    Joins? recur keyword argument none argument := by
  cases argument with
  | none => exact .neither
  | some argument => exact .left argument

theorem get?_meetKeywords {merged keywords out : Members}
    (made : meetKeywords recur merged keywords = .ok out) (distinct : keywords.Distinct)
    (distinctMerged : merged.Distinct) :
    out.Distinct ∧ ∀ key, if isEntries key then out.get? key = merged.get? key
      else Joins? recur key (merged.get? key) (keywords.get? key) (out.get? key) := by
  induction keywords generalizing merged with
  | nil =>
      obtain rfl := pure_eq_ok.mp made
      refine ⟨distinctMerged, fun key => ?_⟩
      split
      · rfl
      · exact joins?_left key _
  | cons member rest ih =>
      obtain ⟨keyword, argument⟩ := member
      obtain ⟨fresh, distinctRest⟩ := (Members.distinct_cons _ _).mp distinct
      have absent : Members.get? rest keyword = none := Members.get?_eq_none_iff.mpr fresh
      rcases meetKeywords_cons_ok made with
        ⟨entries, made⟩ | ⟨ordinary, met, next, joins, made, is, frame, kept⟩
      · obtain ⟨distinctOut, joined⟩ := ih made distinctRest distinctMerged
        refine ⟨distinctOut, fun key => ?_⟩
        have joined := joined key
        rw [Members.get?_cons]
        split at joined
        · next special => rwa [if_pos special]
        · next special =>
          have other : key ≠ keyword := by
            rintro rfl
            exact special entries
          rwa [if_neg special, if_neg other]
      · obtain ⟨distinctOut, joined⟩ := ih made distinctRest (kept distinctMerged)
        refine ⟨distinctOut, fun key => ?_⟩
        have joined := joined key
        rw [Members.get?_cons]
        by_cases asked : key = keyword
        · subst asked
          rw [if_neg ordinary, absent, is] at joined
          rw [if_neg ordinary, if_pos rfl]
          generalize out.get? key = result at joined
          cases joined
          exact joins
        · rwa [if_neg asked, ← frame key asked]

theorem get?_withEntries (keyword : String) (named schema : Members) (key : String) :
    (withEntries keyword named schema).get? key =
      if key = keyword then if named.isEmpty then none else some (.object named)
      else schema.get? key := by
  unfold withEntries
  split
  · rw [Members.get?_erase]
  · rw [Members.get?_set]

theorem distinct_withEntries (keyword : String) (named : Members) {schema : Members}
    (distinct : schema.Distinct) : (withEntries keyword named schema).Distinct := by
  unfold withEntries
  split
  · exact Members.distinct_erase distinct keyword
  · exact Members.distinct_set distinct keyword _

theorem get?_withDeprecation (first second merged : Members) {key : String}
    (other : key ≠ "deprecated") :
    (withDeprecation first second merged).get? key = merged.get? key := by
  unfold withDeprecation
  split
  · rw [Members.get?_set, if_neg other]
  · rw [Members.get?_erase, if_neg other]

theorem distinct_withDeprecation (first second : Members) {merged : Members}
    (distinct : merged.Distinct) : (withDeprecation first second merged).Distinct := by
  unfold withDeprecation
  split
  · exact Members.distinct_set distinct _ _
  · exact Members.distinct_erase distinct _

structure Joined (recur : Meeting) (first second properties patterns merged : Members) : Prop where
  distinct : merged.Distinct
  properties : merged.get? "properties" =
    if properties.isEmpty then none else some (.object properties)
  patterns : merged.get? "patternProperties" =
    if patterns.isEmpty then none else some (.object patterns)
  deprecated : merged.get? "deprecated" =
    if isDeprecated first && isDeprecated second then some (.bool true) else none
  joins : ∀ {key}, isEntries key = false → key ≠ "deprecated" →
    Joins? recur key (first.get? key) (second.get? key) (merged.get? key)

/-- Where an argument of merged keywords comes from: it holds the merged entries, if they are entries, or
is made of the arguments of the two sides. -/
inductive ComesFrom (properties patterns : Members) : String → Json → Prop
  | properties (nonempty : properties.isEmpty = false) :
      ComesFrom properties patterns "properties" (.object properties)
  | patterns (nonempty : patterns.isEmpty = false) :
      ComesFrom properties patterns "patternProperties" (.object patterns)
  | sides {keyword : String} {argument : Json} (ordinary : isEntries keyword = false) :
      ComesFrom properties patterns keyword argument

theorem Joined.comesFrom {first second properties patterns merged : Members} {keyword : String}
    {argument : Json} (joined : Joined recur first second properties patterns merged)
    (found : merged.get? keyword = some argument) : ComesFrom properties patterns keyword argument := by
  by_cases named : keyword = "properties"
  · subst named
    rw [joined.properties, Option.ite_none_left_eq_some] at found
    obtain ⟨nonempty, is⟩ := found
    obtain rfl := Option.some.inj is
    exact .properties (Bool.eq_false_of_not_eq_true nonempty)
  · by_cases matched : keyword = "patternProperties"
    · subst matched
      rw [joined.patterns, Option.ite_none_left_eq_some] at found
      obtain ⟨nonempty, is⟩ := found
      obtain rfl := Option.some.inj is
      exact .patterns (Bool.eq_false_of_not_eq_true nonempty)
    · exact .sides (by simp [isEntries, named, matched])

theorem joined_of_meetKeywords {first second properties patterns merged : Members}
    (made : meetKeywords recur (withEntries "patternProperties" patterns
      (withEntries "properties" properties first)) second = .ok merged)
    (distinct : first.Distinct) (distinct' : second.Distinct) :
    Joined recur first second properties patterns (withDeprecation first second merged) := by
  obtain ⟨distinctMerged, found⟩ := get?_meetKeywords made distinct'
    (distinct_withEntries _ _ (distinct_withEntries _ _ distinct))
  refine ⟨distinct_withDeprecation _ _ distinctMerged, ?_, ?_, ?_, fun {key} ordinary other => ?_⟩
  · have kept := found "properties"
    rw [if_pos (by decide), get?_withEntries, if_neg (by decide), get?_withEntries, if_pos rfl] at kept
    rw [get?_withDeprecation _ _ _ (by decide), kept]
  · have kept := found "patternProperties"
    rw [if_pos (by decide), get?_withEntries, if_pos rfl] at kept
    rw [get?_withDeprecation _ _ _ (by decide), kept]
  · unfold withDeprecation
    split
    · rw [Members.get?_set, if_pos rfl]
    · rw [Members.get?_erase, if_pos rfl]
  · have joined := found key
    have apart : key ≠ "properties" ∧ key ≠ "patternProperties" := by
      simpa [isEntries] using ordinary
    rw [ordinary, if_neg (by simp), get?_withEntries, if_neg apart.2, get?_withEntries,
      if_neg apart.1] at joined
    rwa [get?_withDeprecation _ _ _ other]

theorem meetProperties_eq_ok {first second properties patterns : Members}
    (made : meetProperties recur first second = .ok (properties, patterns)) :
    ∃ space other, PropertySpace.ofSchema first = .ok space ∧ PropertySpace.ofSchema second = .ok other ∧
      space.meetNamed recur other = .ok properties ∧
      space.ofPatterns.meetNamed recur other.ofPatterns = .ok patterns := by
  obtain ⟨space, read, made⟩ := bind_eq_ok.mp made
  obtain ⟨other, read', made⟩ := bind_eq_ok.mp made
  obtain ⟨named, met, made⟩ := bind_eq_ok.mp made
  obtain ⟨matched, met', made⟩ := bind_eq_ok.mp made
  obtain ⟨rfl, rfl⟩ := Prod.mk.inj (pure_eq_ok.mp made)
  exact ⟨space, other, read, read', met, met'⟩

namespace BoundPair

variable {pair : BoundPair} {schema out : Members}

theorem number?_eq_ok {argument : Option Json} {bound : Option Number}
    (made : pair.number? argument = .ok bound) : argument = bound.map Json.number := by
  unfold number? at made
  split at made
  · obtain rfl := Except.ok.inj made
    rfl
  · obtain rfl := Except.ok.inj made
    rfl
  · exact absurd made (by simp)

theorem reconcile_eq_ok {boolean : Bool} (made : pair.reconcile boolean schema = .ok out) :
    ∃ exclusive inclusive : Option Number,
      schema.present? pair.exclusive = exclusive.map Json.number ∧
      schema.present? pair.inclusive = inclusive.map Json.number ∧
      ((out = schema.erase pair.exclusive ∧
          ∀ limit, exclusive = some limit →
            ∃ bound, inclusive = some bound ∧ pair.tight limit bound = false) ∨
        ∃ limit, exclusive = some limit ∧
          (∀ bound, inclusive = some bound → pair.tight limit bound = true) ∧
          out = if boolean then
            (schema.set pair.inclusive (.number limit)).set pair.exclusive (.bool true)
          else schema.erase pair.inclusive) := by
  obtain ⟨exclusive, read, made⟩ := bind_eq_ok.mp made
  obtain ⟨inclusive, read', made⟩ := bind_eq_ok.mp made
  refine ⟨exclusive, inclusive, number?_eq_ok read, number?_eq_ok read', ?_⟩
  cases exclusive with
  | none => exact Or.inl ⟨(pure_eq_ok.mp made).symm, by simp⟩
  | some limit =>
      dsimp only at made
      split at made
      · next loose =>
        refine Or.inl ⟨(pure_eq_ok.mp made).symm, ?_⟩
        rintro _ ⟨⟩
        cases inclusive with
        | none => simp at loose
        | some bound => exact ⟨bound, rfl, by simpa using loose⟩
      · next tight =>
        refine Or.inr ⟨limit, rfl, ?_, ?_⟩
        · rintro bound rfl
          simpa using tight
        · split at made
          · next asked =>
            rw [if_pos asked]
            exact (pure_eq_ok.mp made).symm
          · next plain =>
            rw [if_neg plain]
            exact (pure_eq_ok.mp made).symm

end BoundPair

def eitherBoolean (pair : BoundPair) (first second : Members) : Bool :=
  pair.isBoolean first || pair.isBoolean second

/-- The stages of a merge of two objects: entries by name, then keyword by keyword, then bounds. -/
theorem meetObjects_eq_ok {first second out : Members}
    (made : meetObjects recur first second = .ok out)
    (distinct : (numericBounds first).Distinct) (distinct' : (numericBounds second).Distinct) :
    ∃ space other properties patterns merged bounded,
      PropertySpace.ofSchema (numericBounds first) = .ok space ∧
      PropertySpace.ofSchema (numericBounds second) = .ok other ∧
      space.meetNamed recur other = .ok properties ∧
      space.ofPatterns.meetNamed recur other.ofPatterns = .ok patterns ∧
      Joined recur (numericBounds first) (numericBounds second) properties patterns merged ∧
      BoundPair.upper.reconcile (eitherBoolean .upper first second) merged = .ok bounded ∧
      BoundPair.lower.reconcile (eitherBoolean .lower first second) bounded = .ok out := by
  obtain ⟨⟨properties, patterns⟩, merges, made⟩ := bind_eq_ok.mp made
  obtain ⟨merged, looped, made⟩ := bind_eq_ok.mp made
  obtain ⟨bounded, upper, lower⟩ := bind_eq_ok.mp made
  obtain ⟨space, other, read, read', named, matched⟩ := meetProperties_eq_ok merges
  exact ⟨space, other, properties, patterns, _, bounded, read, read', named, matched,
    joined_of_meetKeywords looped distinct distinct', upper, lower⟩

end SchemaMerge.Schema
