import SchemaMerge.Proofs.Failing.Empty
import SchemaMerge.Proofs.Meet.Lasting
import SchemaMerge.Proofs.Proper.Basic

/-!
How deep schemas are nested. Two schemas meet within a depth limit that neither of them exceeds, and
their meet is nested no deeper than the deeper one. Every bound is a common limit for both sides. A
schema inside one side may meet any schema inside the other side, or a schema that is met already,
and all of them are below the same limit.
-/

namespace SchemaMerge.Schema

mutual

/-- How many schemas stand one inside the other below a schema, where schemas meet: none in a boolean
or an object without schemas. Values that are no schemas do not count. -/
def nestingDepth : Json → Nat
  | .object keywords => keywordsDepth keywords
  | _ => 0

def keywordsDepth : List (String × Json) → Nat
  | [] => 0
  | (keyword, argument) :: rest =>
    max
      (match nesting keyword, argument with
        | .schema, schema => if isSchema schema then nestingDepth schema + 1 else 0
        | .schemas, .array schemas => schemasDepth schemas
        | .entries, .object entries => entriesDepth entries
        | _, _ => 0)
      (keywordsDepth rest)

def schemasDepth : List Json → Nat
  | [] => 0
  | schema :: rest => max (if isSchema schema then nestingDepth schema + 1 else 0) (schemasDepth rest)

def entriesDepth : List (String × Json) → Nat
  | [] => 0
  | (_, schema) :: rest =>
    max (if isSchema schema then nestingDepth schema + 1 else 0) (entriesDepth rest)

end

def NestsBelow (limit : Nat) (schema : Json) : Prop :=
  isSchema schema = true → nestingDepth schema < limit

def ArgumentBelow (limit : Nat) (keyword : String) (argument : Json) : Prop :=
  match nesting keyword, argument with
  | .schema, schema => NestsBelow limit schema
  | .schemas, .array schemas => ∀ schema ∈ schemas, NestsBelow limit schema
  | .entries, .object entries => ∀ entry ∈ entries, NestsBelow limit entry.2
  | _, _ => True

variable {limit : Nat} {recur : Meeting} {keyword : String} {first second met : Json}

theorem NestsBelow.mono {limit' : Nat} (below : NestsBelow limit first) (more : limit ≤ limit') :
    NestsBelow limit' first := by
  intro schema
  exact Nat.lt_of_lt_of_le (below schema) more

theorem nestingDepth_le_of_below (below : NestsBelow (limit + 1) first) : nestingDepth first ≤ limit := by
  cases first with
  | object keywords => exact Nat.lt_succ_iff.mp (below rfl)
  | _ => exact Nat.zero_le limit

theorem levels_le_iff (schema : Json) :
    (if isSchema schema then nestingDepth schema + 1 else 0) ≤ limit ↔ NestsBelow limit schema := by
  unfold NestsBelow
  cases isSchema schema with
  | true => simp
  | false => simp

theorem schemasDepth_le_iff (schemas : List Json) :
    schemasDepth schemas ≤ limit ↔ ∀ schema ∈ schemas, NestsBelow limit schema := by
  induction schemas with
  | nil => simp [schemasDepth]
  | cons schema rest ih => rw [schemasDepth, max_le_iff, levels_le_iff, ih, List.forall_mem_cons]

theorem entriesDepth_le_iff (entries : List (String × Json)) :
    entriesDepth entries ≤ limit ↔ ∀ entry ∈ entries, NestsBelow limit entry.2 := by
  induction entries with
  | nil => simp [entriesDepth]
  | cons entry rest ih => rw [entriesDepth, max_le_iff, levels_le_iff, ih, List.forall_mem_cons]

theorem nestingDepth_object_le_iff (keywords : Members) :
    nestingDepth (.object keywords) ≤ limit ↔ Obeys (ArgumentBelow limit) keywords := by
  rw [nestingDepth]
  induction keywords with
  | nil => simp [keywordsDepth, Obeys]
  | cons member rest ih =>
      obtain ⟨keyword, argument⟩ := member
      rw [keywordsDepth.eq_def, max_le_iff, ih, Obeys, Obeys, List.forall_mem_cons]
      apply and_congr_left'
      unfold ArgumentBelow
      cases nesting keyword with
      | leaf => simp
      | schema => exact levels_le_iff argument
      | schemas =>
          cases argument with
          | array schemas => exact schemasDepth_le_iff schemas
          | _ => simp
      | entries =>
          cases argument with
          | object entries => exact entriesDepth_le_iff entries
          | _ => simp

theorem nestsBelow_object_iff (keywords : Members) :
    NestsBelow (limit + 1) (.object keywords) ↔ Obeys (ArgumentBelow limit) keywords := by
  rw [← nestingDepth_object_le_iff, NestsBelow]
  simp [isSchema]

theorem argumentBelow_of_leaf (leaf : nesting keyword = .leaf) (argument : Json) :
    ArgumentBelow limit keyword argument := by
  unfold ArgumentBelow
  rw [leaf]
  trivial

theorem nesting_of_leaf (leaf : keyword ∉ descendingKeywords) : nesting keyword = .leaf := by
  unfold nesting
  split <;> first | rfl | exact absurd (by decide) leaf

theorem combine_below (closed : Closes recur (NestsBelow limit))
    (made : combine recur keyword first second = .ok met) (below : ArgumentBelow limit keyword first)
    (below' : ArgumentBelow limit keyword second) : ArgumentBelow limit keyword met := by
  by_cases descends : keyword ∈ descendingKeywords
  · simp only [descendingKeywords, List.mem_cons, List.not_mem_nil, or_false] at descends
    rcases descends with rfl | rfl | rfl | rfl | rfl | rfl
    · exact absurd made (by simp [combine, rule?])
    · exact absurd made (by simp [combine, rule?])
    · exact closed made below below'
    · exact closed made below below'
    · obtain ⟨schemas, others, mets, rfl, rfl, rfl, every⟩ := combine_lists closed (by decide) made
      exact every below below'
    · obtain ⟨schemas, others, mets, rfl, rfl, rfl, every⟩ := combine_lists closed (by decide) made
      exact every below below'
  · exact argumentBelow_of_leaf (nesting_of_leaf descends) met

theorem lasts_below (closed : Closes recur (NestsBelow limit)) :
    Lasts recur (NestsBelow limit) (ArgumentBelow limit) := by
  have leaf {keyword : String} (bound : keyword ∈ boundKeywords) (argument : Json) :
      ArgumentBelow limit keyword argument :=
    argumentBelow_of_leaf (nesting_of_leaf fun descends => not_bound_of_descends _ descends bound) argument
  constructor
  · exact closed
  · exact combine_below closed
  · intro keyword named entries
    simp only [isEntries, Bool.or_eq_true, decide_eq_true_eq] at entries
    rcases entries with rfl | rfl
    · exact Iff.rfl
    · exact Iff.rfl
  · intro schema below
    exact below
  · intro keyword other argument bound _ _
    exact leaf bound argument
  · intro keyword bound
    exact leaf bound _
  · exact argumentBelow_of_leaf rfl _

theorem nestsBelow_present {keywords : Members} (below : NestsBelow (limit + 1) (.object keywords)) :
    Obeys (ArgumentBelow limit) (presentKeywords (.object keywords)) := by
  apply ((nestsBelow_object_iff keywords).mp below).subset
  exact List.filter_sublist.subset

theorem closes_meetWithin (levels limit : Nat) : Closes (meetWithin levels) (NestsBelow limit) := by
  induction levels generalizing limit with
  | zero =>
      intro first second met made
      obtain ⟨_, _, wrong⟩ := bind_eq_ok.mp made
      exact absurd wrong (by simp)
  | succ levels ih =>
      intro first second met made below below'
      have positive : 0 < limit := Nat.zero_lt_of_lt (below (meetWithin_succ_eq_ok made).1.1)
      obtain ⟨limit, rfl⟩ : ∃ inner, limit = inner + 1 := ⟨limit - 1, by omega⟩
      apply meetWith_keeps made ?_ id ?_ below below'
      · intro _
        exact Nat.succ_pos limit
      · intro keywords others out merged below below'
        have inside := nestsBelow_present below
        have inside' := nestsBelow_present below'
        exact (nestsBelow_object_iff out).mpr
          (obeys_meetObjects (lasts_below (ih limit)) merged inside inside')

/-- A way to meet schemas that goes deep enough for those below a limit. -/
def Suffices (recur : Meeting) (limit : Nat) : Prop :=
  ∀ {first second}, NestsBelow limit first → NestsBelow limit second → recur first second ≠ .error .depth

theorem not_malformed_depth : Failure.kind .depth ≠ .malformed := by decide

theorem rule_ne_depth {combined : Json → Json → Except Failure Json}
    (found : rule? keyword = some (.combine combined)) : combined first second ≠ .error .depth := by
  intro failed
  unfold rule? at found
  split at found <;> cases found
  case h_2 => exact absurd (throw_eq_error.mp failed) (by simp)
  case h_6 =>
    rcases enum_eq_error failed with ⟨malformed, -⟩ | unsupported | ⟨wrong, -⟩
    · exact not_malformed_depth malformed
    · exact absurd unsupported (by decide)
    · exact absurd wrong (by simp)
  all_goals
    first
    | exact not_malformed_depth (upperBound_eq_error failed).1
    | exact not_malformed_depth (lowerBound_eq_error failed).1
    | exact not_malformed_depth (description_eq_error failed).1
    | exact not_malformed_depth (either_eq_error failed).1
    | exact not_malformed_depth (dependentRequired_eq_error failed).1
    | exact not_malformed_depth (pattern_eq_error failed)
    | exact not_malformed_depth (union_eq_error failed).1
    | exact absurd (multipleOf_eq_error failed).1 (by decide)
    | rcases type_eq_error failed with ⟨malformed, -⟩ | ⟨wrong, -⟩
      · exact not_malformed_depth malformed
      · exact absurd wrong (by simp)

theorem distribute_ne_depth (enough : Suffices recur limit) {schemas others : List Json}
    (below : ∀ schema ∈ schemas, NestsBelow limit schema)
    (below' : ∀ schema ∈ others, NestsBelow limit schema) :
    distribute recur keyword schemas others ≠ .error .depth := by
  intro failed
  rcases distribute_eq_error failed with wrong | ⟨schema, other, failed, inside⟩
  · exact absurd wrong (by simp)
  · rcases inside with ⟨inside, inside'⟩ | ⟨inside, inside'⟩
    · exact enough (below schema inside) (below' other inside') failed
    · exact enough (below' schema inside) (below other inside') failed

theorem anyOf_ne_depth (enough : Suffices recur limit) (below : ArgumentBelow limit "anyOf" first)
    (below' : ArgumentBelow limit "anyOf" second) : anyOf recur first second ≠ .error .depth := by
  intro failed
  cases first with
  | array schemas =>
      cases second with
      | array others =>
          rcases anyOf_eq_error failed with ⟨_, _, unequal, -⟩ | undistributed
          · exact not_malformed_depth (equal_eq_error unequal).1
          · exact distribute_ne_depth enough below below' undistributed
      | _ => cases failed
  | _ => cases failed

theorem oneOf_ne_depth (enough : Suffices recur limit) (below : ArgumentBelow limit "oneOf" first)
    (below' : ArgumentBelow limit "oneOf" second) : oneOf recur first second ≠ .error .depth := by
  intro failed
  cases first with
  | array schemas =>
      cases second with
      | array others =>
          rcases oneOf_eq_error failed with uncompared | undistributed
          · exact not_malformed_depth (isPermutation_eq_error uncompared).1
          · exact distribute_ne_depth enough below below' undistributed
      | _ => cases failed
  | _ => cases failed

theorem combine_ne_depth (enough : Suffices recur limit) (below : ArgumentBelow limit keyword first)
    (below' : ArgumentBelow limit keyword second) :
    combine recur keyword first second ≠ .error .depth := by
  unfold combine
  split
  · exact enough below below'
  · exact anyOf_ne_depth enough below below'
  · exact oneOf_ne_depth enough below below'
  · exact enough below below'
  · split
    · next combined found => exact rule_ne_depth found
    · simp
    · simp

namespace PropertySpace

variable {space other : PropertySpace}

theorem meetNamed_ne_depth (closed : Closes recur (NestsBelow limit)) (enough : Suffices recur limit)
    (all : space.Holds (NestsBelow limit)) (all' : other.Holds (NestsBelow limit)) :
    meetNamed recur space other ≠ .error .depth := by
  intro failed
  cases meetNamed_fails closed all all' failed with
  | pattern _ failed => exact absurd (applies_eq_error failed).1 (by decide)
  | schemas below below' failed => exact enough below below' failed

end PropertySpace

/-- The arguments that are merged so far stay below the limit, so no later keyword goes deeper. -/
theorem meetKeywords_ne_depth (closed : Closes recur (NestsBelow limit))
    (enough : Suffices recur limit) {merged keywords : Members}
    (obeys : Obeys (ArgumentBelow limit) merged) (obeys' : Obeys (ArgumentBelow limit) keywords) :
    meetKeywords recur merged keywords ≠ .error .depth := by
  induction keywords generalizing merged with
  | nil => simp [meetKeywords]
  | cons member rest ih =>
      obtain ⟨keyword, argument⟩ := member
      obtain ⟨own, tail⟩ := List.forall_mem_cons.mp obeys'
      intro failed
      rw [meetKeywords] at failed
      split at failed
      · exact ih obeys tail failed
      · split at failed
        · exact ih (obeys.snoc own) tail failed
        · next present found =>
          have below := obeys.get? found
          rcases bind_eq_error.mp failed with unequal | ⟨answer, -, failed⟩
          · exact not_malformed_depth (equal_eq_error unequal).1
          · split at failed
            · exact ih obeys tail failed
            · rcases bind_eq_error.mp failed with failed | ⟨met, made, failed⟩
              · exact combine_ne_depth enough below own failed
              · exact ih (obeys.set (combine_below closed made below own)) tail failed

theorem meetProperties_ne_depth (closed : Closes recur (NestsBelow limit))
    (enough : Suffices recur limit) {keywords others : Members}
    (obeys : Obeys (ArgumentBelow limit) keywords) (obeys' : Obeys (ArgumentBelow limit) others) :
    meetProperties recur keywords others ≠ .error .depth := by
  intro failed
  rcases bind_eq_error.mp failed with failed | ⟨space, read, failed⟩
  · exact not_malformed_depth (ofSchema_eq_error failed).1
  · rcases bind_eq_error.mp failed with failed | ⟨other, read', failed⟩
    · exact not_malformed_depth (ofSchema_eq_error failed).1
    · have all := space_holds (lasts_below closed) obeys read
      have all' := space_holds (lasts_below closed) obeys' read'
      rcases bind_eq_error.mp failed with failed | ⟨named, -, failed⟩
      · exact PropertySpace.meetNamed_ne_depth closed enough all all' failed
      · rcases bind_eq_error.mp failed with failed | ⟨matched, -, failed⟩
        · exact PropertySpace.meetNamed_ne_depth closed enough all.ofPatterns all'.ofPatterns failed
        · exact absurd failed (by simp)

theorem meetObjects_ne_depth (closed : Closes recur (NestsBelow limit))
    (enough : Suffices recur limit) {keywords others : Members}
    (obeys : Obeys (ArgumentBelow limit) keywords) (obeys' : Obeys (ArgumentBelow limit) others) :
    meetObjects recur keywords others ≠ .error .depth := by
  have lasts := lasts_below closed
  have numeric := obeys_numericBounds lasts obeys
  have numeric' := obeys_numericBounds lasts obeys'
  intro failed
  rcases bind_eq_error.mp failed with failed | ⟨⟨properties, patterns⟩, merges, failed⟩
  · exact meetProperties_ne_depth closed enough numeric numeric' failed
  · have started := obeys_started lasts merges numeric numeric'
    rcases bind_eq_error.mp failed with failed | ⟨merged, -, failed⟩
    · exact meetKeywords_ne_depth closed enough started numeric' failed
    · rcases bind_eq_error.mp failed with failed | ⟨bounded, -, failed⟩
      · exact not_malformed_depth (BoundPair.reconcile_eq_error failed).1
      · exact not_malformed_depth (BoundPair.reconcile_eq_error failed).1

theorem suffices_meetWithin (levels : Nat) : Suffices (meetWithin levels) levels := by
  induction levels with
  | zero =>
      -- no schema is below a limit of zero
      intro first second below _ failed
      rcases bind_eq_error.mp failed with malformed | ⟨_, shaped, -⟩
      · exact not_malformed_depth (checkShapes_eq_error malformed).1
      · obtain ⟨_, shape, -⟩ := bind_eq_ok.mp shaped
        exact Nat.not_lt_zero _ (below (checkShape_eq_ok shape))
  | succ levels ih =>
      intro first second below below' failed
      cases meetWithin_eq_error failed with
      | shapes malformed => exact not_malformed_depth (checkShapes_eq_error malformed).1
      | unequal unequal => exact not_malformed_depth (equal_eq_error unequal).1
      | objects _ failed =>
          exact meetObjects_ne_depth (closes_meetWithin levels levels) ih (nestsBelow_present below)
            (nestsBelow_present below') failed

/-- Two schemas meet under every depth limit that neither of them exceeds, and what they meet in is
nested no deeper than the deeper one. -/
theorem meet_nests (depth : Int) (first second : Json) :
    (((max (nestingDepth first) (nestingDepth second) : Nat) : Int) ≤ depth →
        meet depth first second ≠ .error .depth) ∧
      ∀ met, meet depth first second = .ok met →
        nestingDepth met ≤ max (nestingDepth first) (nestingDepth second) := by
  have below : NestsBelow (max (nestingDepth first) (nestingDepth second) + 1) first := by
    intro _
    omega
  have below' : NestsBelow (max (nestingDepth first) (nestingDepth second) + 1) second := by
    intro _
    omega
  constructor
  · intro limited
    have levels : max (nestingDepth first) (nestingDepth second) + 1 ≤ levelsOf depth := by
      unfold levelsOf
      omega
    exact suffices_meetWithin (levelsOf depth) (below.mono levels) (below'.mono levels)
  · intro met made
    exact nestingDepth_le_of_below (closes_meetWithin _ _ made below below')

def sizes (keyword : String) (count : Int) : Json := .object [(keyword, .number (.int count))]

def namedSizes : Json :=
  .object [("properties", .object [("ab", .object [("propertyNames", sizes "minLength" 2)])])]

def patternedSizes : Json :=
  .object [("patternProperties", .object
    [("^a", .object [("propertyNames", sizes "maxLength" 9)]),
      ("b$", .object [("anyOf", .array [sizes "minProperties" 1, .bool true])]), ("c", .null)])]

def namedAndPatternedSizes : Json :=
  .object
    [("properties", .object [("ab", .object
      [("propertyNames", .object
        [("minLength", .number (.int 2)), ("maxLength", .number (.int 9))]),
        ("anyOf", .array [sizes "minProperties" 1, .bool true])])]),
      ("patternProperties", .object
        [("^a", .object [("propertyNames", sizes "maxLength" 9)]),
          ("b$", .object [("anyOf", .array [sizes "minProperties" 1, .bool true])])])]

theorem namedSizes_meets_patternedSizes :
    nestingDepth namedSizes = 2 ∧ nestingDepth patternedSizes = 2 ∧
      ((max (nestingDepth namedSizes) (nestingDepth patternedSizes) : Nat) : Int) ≤ 2 ∧
      meet 2 namedSizes patternedSizes ≠ .error .depth ∧
      meet 1 namedSizes patternedSizes = .error .depth ∧
      meet 2 namedSizes patternedSizes = .ok namedAndPatternedSizes ∧
      nestingDepth namedAndPatternedSizes ≤
        max (nestingDepth namedSizes) (nestingDepth patternedSizes) := by
  have limited : ((max (nestingDepth namedSizes) (nestingDepth patternedSizes) : Nat) : Int) ≤ 2 := by
    decide +kernel
  have made : meet 2 namedSizes patternedSizes = .ok namedAndPatternedSizes := by decide +kernel
  obtain ⟨reaches, nests⟩ := meet_nests 2 namedSizes patternedSizes
  exact ⟨by decide +kernel, by decide +kernel, limited, reaches limited, by decide +kernel, made,
    nests _ made⟩

end SchemaMerge.Schema
