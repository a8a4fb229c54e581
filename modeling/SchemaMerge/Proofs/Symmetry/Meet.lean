import SchemaMerge.Proofs.Symmetry.Object

/-!
Two schemas meet, in either order, in schemas that accept the same values. It does not follow from
what the meets accept: where patterns stand beside additional properties they accept less than both
schemas do, and only the two orders together tell that it is equally less.
-/

namespace SchemaMerge.Schema

variable {reading : Reading} {recur : Meeting} {keyword : String}
  {keywords others first second out out' : Members}

section merged

variable {properties patterns properties' patterns' named named' merged merged' : Members}

/-- Merged entries stand under their keyword, unless there are none. -/
def Stands (keywords : Members) (keyword : String) (named : Members) : Prop :=
  keywords.get? keyword = if named.isEmpty then none else some (.object named)

theorem isNamed_of_stands (stands : Stands keywords "properties" named) (name : String) :
    isNamed keywords name = (named.present? name).isSome := by
  rw [isNamed, stands]
  cases named <;> rfl

theorem isMatched_of_stands (stands : Stands keywords "patternProperties" named) (name : String) :
    isMatched keywords name =
      named.any fun entry => entry.2 ≠ .null && occurs entry.1 name := by
  rw [isMatched, stands]
  cases named <;> rfl

theorem EntriesAlike.isNamed_eq (alike : EntriesAlike reading named named')
    (stands : Stands keywords "properties" named) (stands' : Stands others "properties" named')
    (name : String) : isNamed keywords name = isNamed others name := by
  rw [isNamed_of_stands stands, isNamed_of_stands stands', PropertySpace.present?_eq_filter,
    PropertySpace.present?_eq_filter]
  have related := alike.entry name
  generalize named.get? name = entry at related
  generalize named'.get? name = other at related
  cases related with
  | none => rfl
  | some alike => simp [Option.isSome_filter, alike.null]

theorem EntriesAlike.isMatched_eq (alike : EntriesAlike reading named named')
    (stands : Stands keywords "patternProperties" named)
    (stands' : Stands others "patternProperties" named') (name : String) :
    isMatched keywords name = isMatched others name := by
  rw [isMatched_of_stands stands, isMatched_of_stands stands']
  simp only [List.any_eq_not_all_not]
  congr 1
  apply all_entries_congr alike.distinct alike.distinct'
  intro pattern
  refine rel_imp (fun entry other alike => ?_) (alike.entry pattern)
  simp [alike.null]

theorem EntriesAlike.isEmpty_eq (alike : EntriesAlike reading named named') :
    named.isEmpty = named'.isEmpty := by
  cases named with
  | nil =>
      cases named' with
      | nil => rfl
      | cons member rest =>
          have related := alike.entry member.1
          rw [Members.get?_nil, Members.get?_cons, if_pos rfl] at related
          cases related
  | cons member rest =>
      cases named' with
      | nil =>
          have related := alike.entry member.1
          rw [Members.get?_nil, Members.get?_cons, if_pos rfl] at related
          cases related
      | cons member' rest' => rfl

theorem EntriesAlike.readAlike (alike : EntriesAlike reading named named')
    {reads : String → (Json → Bool) → Json → Bool} (role : reading.applicator keyword = .entries reads)
    (stands : Stands keywords keyword named) (stands' : Stands others keyword named') :
    Option.Rel (ReadAlike reading keyword) (keywords.get? keyword) (others.get? keyword) := by
  rw [stands, stands', alike.isEmpty_eq]
  split
  · exact .none
  · refine .some fun siblings siblings' _ => funext fun value => ?_
    simp only [satisfies, role, isAbsent]
    congr 1
    apply all_entries_congr alike.distinct alike.distinct'
    intro name
    refine rel_imp (fun entry other alike => ?_) (alike.entry name)
    simp [alike.null, alike.same]

theorem askAlike_of_joined (symmetric : Symmetric reading recur) (formed : AreLegible reading.deep first)
    (formed' : AreLegible reading.deep second)
    (joined : Joined recur first second properties patterns merged)
    (joined' : Joined recur second first properties' patterns' merged')
    (named : EntriesAlike reading properties properties')
    (matched : EntriesAlike reading patterns patterns') : AskAlike reading merged merged' := by
  refine ⟨joined.distinct, joined'.distinct, ?_, fun key => ?_, fun key bound => ?_⟩
  · funext name
    rw [covers, covers, named.isNamed_eq joined.properties joined'.properties,
      matched.isMatched_eq joined.patterns joined'.patterns]
  · by_cases special : key = "properties" ∨ key = "patternProperties" ∨ key = "deprecated"
    · rcases special with rfl | rfl | rfl
      · exact named.readAlike rfl joined.properties joined'.properties
      · exact matched.readAlike rfl joined.patterns joined'.patterns
      · rw [joined.deprecated, joined'.deprecated, Bool.and_comm]
        split
        · exact .some (.refl reading _ _)
        · exact .none
    · simp only [not_or] at special
      have ordinary : isEntries key = false := by simp [isEntries, special.1, special.2.1]
      exact joins_readAlike symmetric (joined.joins ordinary special.2.2)
        (joined'.joins ordinary special.2.2) formed.argument formed'.argument
  · have ordinary := bound_ne_reworked bound
    exact joins_place? bound (joined.joins ordinary.1 ordinary.2) (joined'.joins ordinary.1 ordinary.2)

end merged

theorem meetObjects_swap (symmetric : Symmetric reading recur) (formed : AreLegible reading.deep first)
    (formed' : AreLegible reading.deep second) (made : meetObjects recur first second = .ok out)
    (made' : meetObjects recur second first = .ok out') :
    accepts reading (.object out) = accepts reading (.object out') := by
  have legible := numericBounds_legible formed
  have legible' := numericBounds_legible formed'
  obtain ⟨space, other, properties, patterns, merged, bounded, read, read', named, matched, joined, upper,
    lower⟩ := meetObjects_eq_ok made legible.distinct legible'.distinct
  obtain ⟨_, _, properties', patterns', merged', bounded', again', again, named', matched', joined',
    upper', lower'⟩ := meetObjects_eq_ok made' legible'.distinct legible.distinct
  obtain rfl := Except.ok.inj (read.symm.trans again)
  obtain rfl := Except.ok.inj (read'.symm.trans again')
  have spaces := space_legible legible read
  have spaces' := space_legible legible' read'
  have agree := askAlike_of_joined symmetric legible legible' joined joined'
    (PropertySpace.meetNamed_swap symmetric spaces spaces' named named')
    (PropertySpace.meetNamed_swap symmetric spaces.ofPatterns spaces'.ofPatterns matched matched')
  rw [eitherBoolean, Bool.or_comm] at upper' lower'
  have agreeUpper := BoundPair.reconcile_swap ⟨by decide, by decide⟩
    (fun same same' => by simp only [BoundPair.upper, Number.le, same, same']) agree upper upper'
  exact (BoundPair.reconcile_swap ⟨by decide, by decide⟩
    (fun same same' => by simp only [BoundPair.lower, Number.le, same, same'])
    agreeUpper lower lower').accepts_eq

section schemas

variable {first second met other : Json}

def Merge (first second : Json) : Prop :=
  (isReject first = false ∧ isReject second = false) ∧
    (isAccept first = false ∧ isAccept second = false) ∧ equal first second = .ok false

theorem Merge.swap (merge : Merge first second) : Merge second first :=
  ⟨merge.1.symm, merge.2.1.symm, equal_swap merge.2.2⟩

/-- Schemas that do not meet keyword by keyword meet in what both accept. -/
theorem meetWithin_settles (reading : Reading) {levels : Nat} (clean : first.noRepeats = true)
    (clean' : second.noRepeats = true) (made : meetWithin (levels + 1) first second = .ok met) :
    (¬Merge first second ∧ ∀ value,
        accepts reading met value = (accepts reading first value && accepts reading second value)) ∨
      (Merge first second ∧ (isSchema first = true ∧ isSchema second = true) ∧ ∃ out,
        meetObjects (meetWithin levels) (presentKeywords first) (presentKeywords second) = .ok out ∧
          met = .object out) := by
  obtain ⟨shaped, how⟩ := meetWithin_succ_eq_ok made
  cases how with
  | rejects reject =>
      refine Or.inl ⟨fun merge => ?_, fun value => ?_⟩
      · rcases reject with reject | reject
        · exact absurd (merge.1.1.symm.trans reject) (by simp)
        · exact absurd (merge.1.2.symm.trans reject) (by simp)
      · rcases reject with reject | reject
        · rw [not_accepts_of_isReject reject, not_accepts_of_isReject rfl, Bool.false_and]
        · rw [not_accepts_of_isReject reject, not_accepts_of_isReject rfl, Bool.and_false]
  | left accept =>
      refine Or.inl ⟨fun merge => absurd (merge.2.1.2.symm.trans accept) (by simp), fun value => ?_⟩
      rw [accepts_of_isAccept accept, Bool.and_true]
  | right accept =>
      refine Or.inl ⟨fun merge => absurd (merge.2.1.1.symm.trans accept) (by simp), fun value => ?_⟩
      rw [accepts_of_isAccept accept, Bool.true_and]
  | same compared =>
      refine Or.inl ⟨fun merge => absurd (merge.2.2.symm.trans compared) (by simp), fun value => ?_⟩
      have same := Json.isEqual_of_equal (finitely_eq_ok.mp compared)
      rw [← accepts_congr reading same clean clean', Bool.and_self]
  | merged noAccept noAccept' differ merged =>
      exact Or.inr ⟨⟨⟨rfl, rfl⟩, ⟨noAccept, noAccept'⟩, differ⟩, shaped, _, merged, rfl⟩

theorem meetWithin_ne_null {levels : Nat} (made : meetWithin levels first second = .ok met) :
    met ≠ .null := by
  rintro rfl
  cases levels with
  | zero =>
      obtain ⟨_, _, wrong⟩ := bind_eq_ok.mp made
      exact absurd wrong (by simp)
  | succ levels =>
      obtain ⟨⟨shaped, shaped'⟩, how⟩ := meetWithin_succ_eq_ok made
      cases how with
      | left => cases shaped
      | right => cases shaped'
      | same => cases shaped

theorem symmetric_meetWithin (reading : Reading) (levels : Nat) :
    Symmetric reading (meetWithin levels) := by
  induction levels with
  | zero =>
      refine ⟨meetWithin_ne_null, fun made _ _ _ => ?_⟩
      obtain ⟨_, _, wrong⟩ := bind_eq_ok.mp made
      exact absurd wrong (by simp)
  | succ levels ih =>
      refine ⟨meetWithin_ne_null, fun {first second met other} made made' legible legible' => ?_⟩
      have clean := legible.noRepeats
      have clean' := legible'.noRepeats
      -- both orders merge keyword by keyword, or in neither of them is anything lost
      rcases meetWithin_settles reading clean clean' made with
        ⟨settled, both⟩ | ⟨merge, shaped, out, merged, rfl⟩
      · rcases meetWithin_settles reading clean' clean made' with
          ⟨-, both'⟩ | ⟨merge, -⟩
        · funext value
          rw [both, both', Bool.and_comm]
        · exact absurd merge.swap settled
      · rcases meetWithin_settles reading clean' clean made' with
          ⟨settled, -⟩ | ⟨-, -, out', merged', rfl⟩
        · exact absurd merge.swap settled
        · obtain ⟨keywords, rfl⟩ := exists_object shaped.1 merge.1.1 merge.2.1.1
          obtain ⟨others, rfl⟩ := exists_object shaped.2 merge.1.2 merge.2.1.2
          exact meetObjects_swap ih (areLegible_of_legible legible) (areLegible_of_legible legible')
            merged merged'

/-- Two schemas meet, in either order, in schemas that accept the same values. -/
theorem meet_accepts_comm (reading : Reading) (depth : Int) (legible : Legible reading.deep first)
    (legible' : Legible reading.deep second) (made : meet depth first second = .ok met)
    (made' : meet depth second first = .ok other) (value : Json) :
    accepts reading met value = accepts reading other value :=
  congrFun ((symmetric_meetWithin reading (levelsOf depth)).agree made made' legible legible') value

def hundredths (digits : Nat) : Json := .number (.float (Decimal.toDouble false ⟨digits, -2⟩))

def halved : Json :=
  .object [("patternProperties", .object [("^a", .object [("multipleOf", hundredths 50)])]),
    ("additionalProperties", .bool false)]

def quartered : Json :=
  .object [("properties", .object [("ab", .object [("multipleOf", hundredths 75)])]),
    ("patternProperties", .object [("b$", .object [("maximum", .number (.int 9))])]),
    ("oneOf", .array [.object [("required", .array [.string "ab"])],
      .object [("required", .array [.string "ac"])]])]

def halvedAndQuartered : Json :=
  .object [("patternProperties", .object
      [("^a", .object [("multipleOf", hundredths 50)]), ("b$", .bool false)]),
    ("additionalProperties", .bool false),
    ("properties", .object [("ab", .object [("multipleOf", hundredths 150)])]),
    ("oneOf", .array [.object [("required", .array [.string "ab"])],
      .object [("required", .array [.string "ac"])]])]

def quarteredAndHalved : Json :=
  .object [("properties", .object [("ab", .object [("multipleOf", hundredths 150)])]),
    ("patternProperties", .object
      [("b$", .bool false), ("^a", .object [("multipleOf", hundredths 50)])]),
    ("oneOf", .array [.object [("required", .array [.string "ab"])],
      .object [("required", .array [.string "ac"])]]),
    ("additionalProperties", .bool false)]

/-- Both orders lose the same value, which both schemas accept. -/
theorem halved_meets_quartered :
    Legible false halved ∧ Legible false quartered ∧
      meet defaultDepth halved quartered = .ok halvedAndQuartered ∧
      meet defaultDepth quartered halved = .ok quarteredAndHalved ∧
      accepts (.plain false) halved (.object [("ab", .number (.int 3))]) = true ∧
      accepts (.plain false) quartered (.object [("ab", .number (.int 3))]) = true ∧
      accepts (.plain false) halvedAndQuartered (.object [("ab", .number (.int 3))]) = false ∧
      accepts (.plain false) halvedAndQuartered (.object [("ab", .number (.int 3))]) =
        accepts (.plain false) quarteredAndHalved (.object [("ab", .number (.int 3))]) := by
  have legible : Legible false halved := ⟨by decide +kernel, by decide +kernel⟩
  have legible' : Legible false quartered := ⟨by decide +kernel, by decide +kernel⟩
  have made : meet defaultDepth halved quartered = .ok halvedAndQuartered := by decide +kernel
  have made' : meet defaultDepth quartered halved = .ok quarteredAndHalved := by decide +kernel
  exact ⟨legible, legible', made, made', by decide +kernel, by decide +kernel, by decide +kernel,
    meet_accepts_comm (.plain false) defaultDepth legible legible' made made' _⟩

/-- The double nearest to `10 ^ 23`. It is less, and its shortest decimal is `1e23`. -/
def rounded : Json := .number (.float (Decimal.toDouble false ⟨1, 23⟩))

def writtenAndRounded : Json :=
  .object [("properties", .object
    [("a", .object [("multipleOf", .number (.int 100000000000000000000000))]),
      ("b", .object [("multipleOf", rounded)])])]

def roundedAndExact : Json :=
  .object [("properties", .object
    [("a", .object [("multipleOf", rounded)]),
      ("b", .object [("multipleOf", .number (.int 99999999999999991611392))])])]

/-- The double equals the integer with all its digits, and is combined as the integer that its
shortest decimal writes; so each order keeps its own first divisor under both names, and no value
of the double makes the two results the same under both. -/
theorem order_of_rounded_divisors :
    (writtenAndRounded.noRepeats = true ∧ writtenAndRounded.isFinite = true ∧
        everywhere false (fun keyword _ => keyword ≠ "pattern") writtenAndRounded = true) ∧
      (roundedAndExact.noRepeats = true ∧ roundedAndExact.isFinite = true ∧
        everywhere false (fun keyword _ => keyword ≠ "pattern") roundedAndExact = true) ∧
      isLegible "multipleOf" rounded = false ∧
      meet defaultDepth writtenAndRounded roundedAndExact = .ok writtenAndRounded ∧
      meet defaultDepth roundedAndExact writtenAndRounded = .ok roundedAndExact ∧
      accepts (.plain false) writtenAndRounded
        (.object [("a", .number (.int 100000000000000000000000))]) = true ∧
      accepts (.plain false) roundedAndExact
        (.object [("a", .number (.int 100000000000000000000000))]) = false := by
  refine ⟨⟨?_, ?_, ?_⟩, ⟨?_, ?_, ?_⟩, ?_, ?_, ?_, ?_, ?_⟩ <;> decide +kernel

end schemas

end SchemaMerge.Schema
