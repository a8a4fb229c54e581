import SchemaMerge.Proofs.Meet.Exact

namespace SchemaMerge.Schema

variable {recur : Meeting} {first second schema out : Members} {keyword : String}

namespace BoundPair

variable (pair : BoundPair)

theorem get?_toNumeric (schema : Members) (other : keyword ≠ pair.exclusive)
    (other' : keyword ≠ pair.inclusive) : (pair.toNumeric schema).get? keyword = schema.get? keyword := by
  unfold toNumeric
  split
  · rw [Members.get?_set, if_neg other, Members.get?_erase, if_neg other']
  · rw [Members.get?_erase, if_neg other]
  · rfl

theorem contains_of_toNumeric (found : (pair.toNumeric schema).contains pair.exclusive = true) :
    schema.contains pair.exclusive = true := by
  rw [Members.contains, Option.isSome_iff_ne_none]
  intro missing
  unfold toNumeric at found
  rw [missing, Members.contains, missing] at found
  exact absurd found (by simp)

theorem distinct_toNumeric (distinct : schema.Distinct) : (pair.toNumeric schema).Distinct := by
  unfold toNumeric
  split
  · exact Members.distinct_set (Members.distinct_erase distinct _) _ _
  · exact Members.distinct_erase distinct _
  · exact distinct

variable {pair} {boolean : Bool}

theorem get?_reconcile (made : pair.reconcile boolean schema = .ok out)
    (other : keyword ≠ pair.exclusive) (other' : keyword ≠ pair.inclusive) :
    out.get? keyword = schema.get? keyword := by
  obtain ⟨_, _, -, -, ⟨rfl, -⟩ | ⟨limit, -, -, rfl⟩⟩ := reconcile_eq_ok made
  · rw [Members.get?_erase, if_neg other]
  · split
    · rw [Members.get?_set, if_neg other, Members.get?_set, if_neg other']
    · rw [Members.get?_erase, if_neg other']

theorem contains_of_reconcile (made : pair.reconcile boolean schema = .ok out)
    (found : out.contains pair.exclusive = true) : schema.contains pair.exclusive = true := by
  obtain ⟨exclusive, _, known, -, ⟨rfl, -⟩ | ⟨limit, rfl, -, -⟩⟩ := reconcile_eq_ok made
  · rw [Members.contains, Members.get?_erase, if_pos rfl] at found
    exact absurd found (by simp)
  · rw [Members.contains, (Members.present?_eq_some_iff.mp known).1, Option.isSome_some]

end BoundPair

theorem get?_numericBounds (schema : Members) (other : keyword ∉ boundKeywords) :
    (numericBounds schema).get? keyword = schema.get? keyword := by
  simp only [mem_boundKeywords, not_or] at other
  obtain ⟨upper, upper', lower, lower'⟩ := other
  rw [numericBounds, BoundPair.get?_toNumeric .lower _ lower lower',
    BoundPair.get?_toNumeric .upper _ upper upper']

theorem distinct_numericBounds (distinct : schema.Distinct) : (numericBounds schema).Distinct :=
  BoundPair.distinct_toNumeric .lower (BoundPair.distinct_toNumeric .upper distinct)

theorem contains_of_numericBounds (found : (numericBounds schema).contains keyword = true)
    (other : keyword ≠ "maximum") (other' : keyword ≠ "minimum") : schema.contains keyword = true := by
  by_cases bound : keyword ∈ boundKeywords
  · rcases mem_boundKeywords.mp bound with rfl | rfl | rfl | rfl
    · rw [Members.contains, numericBounds,
        BoundPair.get?_toNumeric .lower _ (by decide) (by decide)] at found
      exact BoundPair.contains_of_toNumeric .upper found
    · exact absurd rfl other
    · have found := BoundPair.contains_of_toNumeric .lower found
      rwa [Members.contains, BoundPair.get?_toNumeric .upper _ (by decide) (by decide)] at found
    · exact absurd rfl other'
  · rwa [Members.contains, get?_numericBounds _ bound] at found

/-- Keywords whose arguments are merged together with others, or are not kept. -/
def reworkedKeywords : List String := ["properties", "patternProperties", "deprecated"] ++ boundKeywords

def isCombined (keyword : String) : Bool :=
  ["additionalProperties", "anyOf", "oneOf", "propertyNames"].contains keyword || (rule? keyword).isSome

theorem isCombined_of_combine {argument argument' met : Json}
    (made : combine recur keyword argument argument' = .ok met) : isCombined keyword = true := by
  unfold combine at made
  split at made
  · decide
  · decide
  · decide
  · decide
  · split at made
    · next found => simp [isCombined, found]
    · next found => simp [isCombined, found]
    · exact absurd made (by simp)

theorem exists_entry_of_meetNamed {space other : PropertySpace} {named : Members}
    (made : space.meetNamed recur other = .ok named) (nonempty : named.isEmpty = false) :
    space.properties ≠ [] ∨ other.properties ≠ [] := by
  obtain ⟨merged, left, right⟩ := bind_eq_ok.mp made
  by_contra none
  simp only [not_or, not_not] at none
  rw [none.1] at left
  rw [none.2, ← pure_eq_ok.mp left] at right
  rw [← pure_eq_ok.mp right] at nonempty
  exact absurd nonempty (by simp)

theorem contains_of_entries {entries : Members}
    (made : Schema.entries keyword schema = .ok entries) (nonempty : entries ≠ []) :
    schema.contains keyword = true := by
  unfold Schema.entries at made
  split at made
  · exact absurd (Except.ok.inj made).symm nonempty
  · next found => rw [Members.contains, (Members.present?_eq_some_iff.mp found).1, Option.isSome_some]
  · exact absurd made (by simp)

theorem ofSchema_eq_ok {space : PropertySpace} (made : PropertySpace.ofSchema schema = .ok space) :
    Schema.entries "properties" schema = .ok space.properties ∧
      Schema.entries "patternProperties" schema = .ok space.patterns := by
  obtain ⟨properties, read, made⟩ := bind_eq_ok.mp made
  obtain ⟨patterns, read', made⟩ := bind_eq_ok.mp made
  obtain ⟨additional, -, built⟩ := bind_eq_ok.mp made
  obtain rfl := pure_eq_ok.mp built
  exact ⟨read, read'⟩

theorem contains_of_named {space other : PropertySpace} {named entries entries' : Members}
    (made : space.meetNamed recur other = .ok named) (nonempty : named.isEmpty = false)
    (read : Schema.entries keyword first = .ok entries) (read' : Schema.entries keyword second = .ok entries')
    (own : space.properties = entries) (own' : other.properties = entries') :
    first.contains keyword = true ∨ second.contains keyword = true := by
  rcases exists_entry_of_meetNamed made nonempty with some | some
  · exact Or.inl (contains_of_entries read (own ▸ some))
  · exact Or.inr (contains_of_entries read' (own' ▸ some))

theorem contains_of_joined {space other : PropertySpace} {properties patterns merged : Members}
    (joined : Joined recur first second properties patterns merged)
    (read : PropertySpace.ofSchema first = .ok space) (read' : PropertySpace.ofSchema second = .ok other)
    (named : space.meetNamed recur other = .ok properties)
    (matched : space.ofPatterns.meetNamed recur other.ofPatterns = .ok patterns)
    (found : merged.contains keyword = true) :
    first.contains keyword = true ∨ second.contains keyword = true := by
  obtain ⟨readNamed, readMatched⟩ := ofSchema_eq_ok read
  obtain ⟨readNamed', readMatched'⟩ := ofSchema_eq_ok read'
  obtain ⟨argument, is⟩ := Option.isSome_iff_exists.mp found
  cases joined.comesFrom is with
  | properties nonempty => exact contains_of_named named nonempty readNamed readNamed' rfl rfl
  | patterns nonempty => exact contains_of_named matched nonempty readMatched readMatched' rfl rfl
  | sides ordinary =>
      by_cases deprecated : keyword = "deprecated"
      · subst deprecated
        exact Or.inl (by rw [Members.contains, joined.deprecated_left is, Option.isSome_some])
      · have joins := joined.joins ordinary deprecated
        exact (IsMerge.joins_known joins is).imp Option.isSome_iff_exists.mpr
          Option.isSome_iff_exists.mpr

/-- The keywords of two objects that meet, each kept or combined. -/
structure Keeps (recur : Meeting) (first second out : Members) : Prop where
  known : ∀ {keyword}, out.contains keyword = true → keyword ≠ "maximum" → keyword ≠ "minimum" →
    first.contains keyword = true ∨ second.contains keyword = true
  joins : ∀ {keyword}, keyword ∉ reworkedKeywords →
    Joins? recur keyword (first.get? keyword) (second.get? keyword) (out.get? keyword)
  combined : ∀ {keyword argument argument'}, keyword ∉ reworkedKeywords →
    first.get? keyword = some argument → second.get? keyword = some argument' →
    Json.isEqual argument argument' = false → isCombined keyword = true

theorem meetObjects_keeps (made : meetObjects recur first second = .ok out)
    (distinct : first.Distinct) (distinct' : second.Distinct) : Keeps recur first second out := by
  obtain ⟨space, other, properties, patterns, merged, bounded, read, read', named, matched, joined, upper,
    lower⟩ := meetObjects_eq_ok made (distinct_numericBounds distinct) (distinct_numericBounds distinct')
  have kept {keyword : String} (free : keyword ∉ boundKeywords) :
      out.get? keyword = merged.get? keyword := by
    simp only [mem_boundKeywords, not_or] at free
    rw [BoundPair.get?_reconcile lower free.2.2.1 free.2.2.2,
      BoundPair.get?_reconcile upper free.1 free.2.1]
  have joins {keyword : String} (free : keyword ∉ reworkedKeywords) :
      Joins? recur keyword (first.get? keyword) (second.get? keyword) (out.get? keyword) := by
    have apart : keyword ∉ boundKeywords := fun bound => free (List.mem_append_right _ bound)
    have plain : isEntries keyword = false ∧ keyword ≠ "deprecated" := by
      simp only [reworkedKeywords, List.mem_append, List.mem_cons, not_or] at free
      exact ⟨by simp [isEntries, free.1.1, free.1.2.1], free.1.2.2.1⟩
    rw [kept apart, ← get?_numericBounds first apart, ← get?_numericBounds second apart]
    exact joined.joins plain.1 plain.2
  refine ⟨fun {keyword} found other other' => ?_, joins,
    fun {keyword argument argument'} free is is' differ => ?_⟩
  · -- reducing a pair makes no exclusive bound, and touches no other keyword
    have found : merged.contains keyword = true := by
      by_cases bound : keyword ∈ boundKeywords
      · rcases mem_boundKeywords.mp bound with rfl | rfl | rfl | rfl
        · rw [Members.contains, BoundPair.get?_reconcile lower (by decide) (by decide)] at found
          exact BoundPair.contains_of_reconcile upper found
        · exact absurd rfl other
        · have found := BoundPair.contains_of_reconcile lower found
          rwa [Members.contains, BoundPair.get?_reconcile upper (by decide) (by decide)] at found
        · exact absurd rfl other'
      · rwa [Members.contains, kept bound] at found
    exact (contains_of_joined joined read read' named matched found).imp
      (contains_of_numericBounds · other other') (contains_of_numericBounds · other other')
  · have joins := joins free
    rw [is, is'] at joins
    generalize out.get? keyword = result at joins
    cases joins with
    | same compared =>
        exact absurd (differ.symm.trans (Json.isEqual_of_equal (finitely_eq_ok.mp compared))) (by simp)
    | combined _ made => exact isCombined_of_combine made

theorem levelsOf_of_meet {depth : Int} {schema schema' met : Json}
    (made : meet depth schema schema' = .ok met) : levelsOf depth = levelsOf (depth - 1) + 1 := by
  by_cases negative : depth < 0
  · rw [meet, show levelsOf depth = 0 by rw [levelsOf]; omega] at made
    obtain ⟨_, _, wrong⟩ := bind_eq_ok.mp made
    exact absurd wrong (by simp)
  · rw [levelsOf, levelsOf]
    omega

theorem meetObjects_of_meet {depth : Int} {met : Json}
    (made : meet depth (.object first) (.object second) = .ok met) (nonempty : first ≠ [])
    (nonempty' : second ≠ []) (differ : Json.isEqual (.object first) (.object second) = false) :
    ∃ out, met = .object out ∧ meetObjects (meet (depth - 1)) (presentKeywords (.object first))
      (presentKeywords (.object second)) = .ok out := by
  have deeper := levelsOf_of_meet made
  rw [meet, deeper] at made
  cases (meetWithin_succ_eq_ok made).2 with
  | rejects reject => exact absurd reject (by simp [isReject])
  | left accept => exact absurd (List.isEmpty_iff.mp accept) nonempty'
  | right accept => exact absurd (List.isEmpty_iff.mp accept) nonempty
  | same compared =>
      have same := Json.isEqual_of_equal (finitely_eq_ok.mp compared)
      exact absurd (differ.symm.trans same) (by simp)
  | merged _ _ _ merged => exact ⟨_, rfl, merged⟩

/-- Two different objects meet keyword by keyword: the meet has no keyword that neither side has, but
for an inclusive bound; an argument that only one side has stays as it is, of two equal ones the first
stays, and two different ones are combined by the rule of their keyword. Without a rule the meet
fails. -/
theorem meet_keeps_or_combines (depth : Int) (distinct : first.Distinct) (distinct' : second.Distinct)
    (nonempty : first ≠ []) (nonempty' : second ≠ [])
    (differ : Json.isEqual (.object first) (.object second) = false) :
    (∀ met, meet depth (.object first) (.object second) = .ok met → ∃ out, met = .object out ∧
      Keeps (meet (depth - 1)) (presentKeywords (.object first)) (presentKeywords (.object second)) out) ∧
    ∀ keyword argument argument', (presentKeywords (.object first)).get? keyword = some argument →
      (presentKeywords (.object second)).get? keyword = some argument' →
      Json.isEqual argument argument' = false → isEntries keyword = false → isCombined keyword = false →
      ∃ failure, meet depth (.object first) (.object second) = .error failure := by
  have keeps (met : Json) (made : meet depth (.object first) (.object second) = .ok met) :
      ∃ out, met = .object out ∧ Keeps (meet (depth - 1)) (presentKeywords (.object first))
        (presentKeywords (.object second)) out := by
    obtain ⟨out, rfl, merged⟩ := meetObjects_of_meet made nonempty nonempty' differ
    exact ⟨out, rfl, meetObjects_keeps merged (Members.distinct_sublist distinct List.filter_sublist)
      (Members.distinct_sublist distinct' List.filter_sublist)⟩
  refine ⟨keeps, fun keyword argument argument' is is' apart plain unruled => ?_⟩
  cases made : meet depth (.object first) (.object second) with
  | error failure => exact ⟨failure, rfl⟩
  | ok met =>
      obtain ⟨out, -, kept⟩ := keeps met made
      have free : keyword ∉ reworkedKeywords := by
        intro reworked
        simp only [reworkedKeywords, boundKeywords, List.cons_append, List.nil_append, List.mem_cons,
          List.not_mem_nil, or_false] at reworked
        rcases reworked with rfl | rfl | rfl | rfl | rfl | rfl | rfl
        · exact absurd plain (by decide)
        · exact absurd plain (by decide)
        all_goals exact absurd unruled (by decide)
      exact absurd (unruled.symm.trans (kept.combined free is is' apart)) (by simp)

def datedText : Members :=
  [("title", .string "Day"), ("type", .string "string"), ("maxLength", .number (.int 10)),
    ("format", .string "date"), ("pattern", .null), ("default", .null)]

def boundedText : Members :=
  [("type", .array [.string "string", .string "number"]), ("maxLength", .number (.int 12)),
    ("maximum", .number (.int 10)), ("exclusiveMaximum", .bool true), ("default", .null)]

def datedAndBounded : Members :=
  [("title", .string "Day"), ("type", .string "string"), ("maxLength", .number (.int 10)),
    ("format", .string "date"), ("default", .null), ("exclusiveMaximum", .bool true),
    ("maximum", .number (.int 10))]

def timedText : Members := [("type", .string "string"), ("format", .string "time")]

theorem datedText_meets_boundedText :
    datedText.Distinct ∧ boundedText.Distinct ∧ timedText.Distinct ∧
      Json.isEqual (.object datedText) (.object boundedText) = false ∧
      Json.isEqual (.object datedText) (.object timedText) = false ∧
      meet defaultDepth (.object datedText) (.object boundedText) = .ok (.object datedAndBounded) ∧
      (∃ out, Json.object datedAndBounded = .object out ∧
        Keeps (meet (defaultDepth - 1)) (presentKeywords (.object datedText))
          (presentKeywords (.object boundedText)) out) ∧
      ∃ failure, meet defaultDepth (.object datedText) (.object timedText) = .error failure := by
  have distinct : datedText.Distinct := by decide
  have differ : Json.isEqual (.object datedText) (.object boundedText) = false := by decide +kernel
  have differ' : Json.isEqual (.object datedText) (.object timedText) = false := by decide +kernel
  have made : meet defaultDepth (.object datedText) (.object boundedText) =
      .ok (.object datedAndBounded) := by decide +kernel
  have kept := meet_keeps_or_combines defaultDepth distinct (by decide) (by simp [datedText])
    (by simp [boundedText]) differ
  have refused := meet_keeps_or_combines defaultDepth distinct (by decide) (by simp [datedText])
    (by simp [timedText]) differ'
  exact ⟨distinct, by decide, by decide, differ, differ', made, kept.1 _ made,
    refused.2 "format" (.string "date") (.string "time") (by decide) (by decide) (by decide +kernel)
      (by decide) (by decide)⟩

end SchemaMerge.Schema
