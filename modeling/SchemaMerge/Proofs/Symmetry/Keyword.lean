import SchemaMerge.Proofs.Keyword.Fraction
import SchemaMerge.Proofs.Meet.Objects

/-!
Two arguments of a keyword, combined in either order. The results may differ as values, and ask the
same of every instance. The order decides only between two arguments that ask the same, which for
`multipleOf` are two numbers with the same shortest decimal.
-/

namespace SchemaMerge

namespace Number

theorem decimalValue?_pos {number : Number} {value : Rat} (positive : (Number.int 0).lt number = true)
    (decimal : number.decimalValue? = some value) : 0 < value := by
  have least := (decimalValue?_bounds positive decimal).1
  have nonzero : value ≠ 0 := fun zero => by
    have numerator : value.num.natAbs = 0 := by rw [zero]; rfl
    simp [numerator] at least
  refine lt_of_le_of_ne ?_ nonzero.symm
  cases number with
  | int integer =>
      obtain rfl := Option.some.inj decimal
      exact_mod_cast (int_lt_iff.mp positive).le
  | float double =>
      cases double with
      | finite x =>
          obtain rfl := Option.some.inj decimal
          rw [(float_pos_iff.mp positive).1, if_neg (by simp)]
          exact Rat.mkRat_nonneg (Int.natCast_nonneg _) _
      | infinity negative => exact absurd decimal (by simp [decimalValue?])
      | nan => exact absurd decimal (by simp [decimalValue?])

end Number

namespace Schema

open Json (isEqual)

variable {reading : Reading} {deep : Bool} {recur : Meeting} {keyword : String}
  {first second met other : Json}

/-- Whether an argument is no pattern, and no divisor whose digits write another integer than it is. -/
def isLegible (keyword : String) (argument : Json) : Bool :=
  match keyword, argument with
  | "pattern", _ => false
  | "multipleOf", .number number => number.writesWhole
  | _, _ => true

structure Legible (deep : Bool) (schema : Json) : Prop where
  noRepeats : schema.noRepeats = true
  legible : everywhere deep isLegible schema = true

structure LegibleArgument (deep : Bool) (keyword : String) (argument : Json) : Prop where
  present : isAbsent keyword argument = false
  noRepeats : argument.noRepeats = true
  legible : isLegible keyword argument = true
  holds : obeys deep isLegible (shape deep keyword) argument = true

structure AreLegible (deep : Bool) (keywords : Members) : Prop where
  distinct : keywords.Distinct
  argument : ∀ {keyword argument}, keywords.get? keyword = some argument →
    LegibleArgument deep keyword argument

theorem areLegible_of_legible {keywords : Members} (formed : Legible deep (.object keywords)) :
    AreLegible deep (presentKeywords (.object keywords)) := by
  obtain ⟨distinct, clean⟩ := Json.noRepeats_object.mp formed.noRepeats
  refine ⟨Members.distinct_sublist distinct List.filter_sublist, fun {keyword argument} found => ?_⟩
  obtain ⟨found, present⟩ := (get?_presentKeywords distinct).mp found
  have inside := Members.mem_of_get? found
  obtain ⟨legible, holds⟩ :=
    (everywhere_object.mp formed.legible _ inside).resolve_left (by simp [present])
  exact ⟨present, clean _ inside, legible, holds⟩

namespace LegibleArgument

variable {argument : Json}

theorem schema (formed : LegibleArgument deep keyword argument) (place : shape deep keyword = .schema) :
    Legible deep argument := by
  have holds := formed.holds
  rw [place] at holds
  exact ⟨formed.noRepeats, holds⟩

theorem schemas (formed : LegibleArgument deep keyword argument)
    (place : shape deep keyword = .schemas) :
    ∃ schemas, argument = .array schemas ∧ ∀ schema ∈ schemas, Legible deep schema := by
  have holds := formed.holds
  have clean := formed.noRepeats
  rw [place] at holds
  cases argument with
  | array schemas =>
      rw [obeys, everySchema_iff] at holds
      rw [Json.noRepeats_array] at clean
      exact ⟨schemas, rfl, fun schema inside => ⟨clean schema inside, holds schema inside⟩⟩
  | _ => exact absurd holds (by simp [obeys])

theorem entries (formed : LegibleArgument deep keyword argument)
    (place : shape deep keyword = .entries) :
    ∃ entries : Members, argument = .object entries ∧ entries.Distinct ∧
      ∀ entry ∈ entries, entry.2 = .null ∨ Legible deep entry.2 := by
  have holds := formed.holds
  have clean := formed.noRepeats
  rw [place] at holds
  cases argument with
  | object entries =>
      rw [obeys, everyEntry_iff] at holds
      rw [Json.noRepeats_object] at clean
      exact ⟨entries, rfl, clean.1, fun entry inside =>
        (holds entry inside).imp_right fun legible => ⟨clean.2 entry inside, legible⟩⟩
  | _ => exact absurd holds (by simp [obeys])

end LegibleArgument

structure Symmetric (reading : Reading) (recur : Meeting) : Prop where
  set : ∀ {first second met}, recur first second = .ok met → met ≠ .null
  agree : ∀ {first second met other}, recur first second = .ok met → recur second first = .ok other →
    Legible reading.deep first → Legible reading.deep second → accepts reading met = accepts reading other

/-- Two arguments of a keyword ask the same, beside keywords that cover the same names. -/
def ReadAlike (reading : Reading) (keyword : String) (first second : Json) : Prop :=
  ∀ siblings others, covers siblings = covers others →
    satisfies reading siblings keyword first = satisfies reading others keyword second

theorem ReadAlike.refl (reading : Reading) (keyword : String) (argument : Json) :
    ReadAlike reading keyword argument argument := by
  intro siblings others covered
  unfold satisfies
  rw [covered]

theorem readAlike_of_isEqual (same : isEqual first second = true) (clean : first.noRepeats = true)
    (clean' : second.noRepeats = true) : ReadAlike reading keyword first second := by
  intro siblings others covered
  funext value
  exact satisfies_congr reading same clean clean' covered
    (fun _ _ _ same clean clean' => accepts_congr reading same clean clean') keyword value

theorem readAlike_leaf {reads : Json → Json → Bool} (role : reading.applicator keyword = .leaf reads)
    (set : met ≠ .null) (set' : other ≠ .null) (same : reads met = reads other) :
    ReadAlike reading keyword met other := by
  intro siblings others _
  funext value
  rw [satisfies_leaf role (by simp [isAbsent, set]), satisfies_leaf role (by simp [isAbsent, set']), same]

theorem readAlike_schema {reads : (String → Bool) → (Json → Bool) → Json → Bool}
    (role : reading.applicator keyword = .schema reads) (set : met ≠ .null) (set' : other ≠ .null)
    (same : accepts reading met = accepts reading other) : ReadAlike reading keyword met other := by
  intro siblings others covered
  funext value
  rw [satisfies_schema role (by simp [isAbsent, set]), satisfies_schema role (by simp [isAbsent, set']),
    covered, same]

theorem equal_swap {answer : Bool} (compared : equal first second = .ok answer) :
    equal second first = .ok answer := by
  obtain ⟨finite, finite', rfl⟩ := Json.equal_eq_ok.mp (finitely_eq_ok.mp compared)
  exact finitely_eq_ok.mpr (Json.equal_eq_ok.mpr ⟨finite', finite, by rw [decide_eq_decide, eq_comm]⟩)

theorem isMultiple_antisymm {x y : Rat} (positive : 0 < x) (positive' : 0 < y)
    (multiple : isMultiple x y = true) (multiple' : isMultiple y x = true) : x = y := by
  obtain ⟨times, is⟩ := (isMultiple_iff positive'.ne').mp multiple
  obtain ⟨times', is'⟩ := (isMultiple_iff positive.ne').mp multiple'
  have above : (0 : Rat) < times := pos_of_mul_pos_left (is ▸ positive) positive'.le
  have both : (times : Rat) * times' = 1 := by
    apply mul_right_cancel₀ positive.ne'
    calc times * times' * x = times * (times' * x) := mul_assoc _ _ _
      _ = times * y := by rw [← is']
      _ = 1 * x := by rw [← is, one_mul]
  have one : times = 1 := by
    have above : 0 < times := by exact_mod_cast above
    have both : times * times' = 1 := by exact_mod_cast both
    exact (Int.eq_one_or_neg_one_of_mul_eq_one both).resolve_right (by omega)
  rw [is, one, Int.cast_one, one_mul]

theorem commonMultiple_comm (x y : Rat) : commonMultiple x y = commonMultiple y x := by
  rw [commonMultiple, commonMultiple, Nat.lcm_comm, Nat.gcd_comm]

theorem multipleOf_swap (made : multipleOf first second = .ok met)
    (made' : multipleOf second first = .ok other) (legible : isLegible "multipleOf" first = true)
    (legible' : isLegible "multipleOf" second = true) : Leaf.multipleOf met = Leaf.multipleOf other := by
  obtain ⟨divisor, divisor', x, y, rfl, rfl, above, above', decimal, decimal', rfl⟩ :=
    multipleOf_eq_ite made
  obtain ⟨_, _, _, _, is, is', -, -, read', read, rfl⟩ := multipleOf_eq_ite made'
  cases is
  cases is'
  obtain rfl := Option.some.inj (decimal.symm.trans read)
  obtain rfl := Option.some.inj (decimal'.symm.trans read')
  by_cases multiple : isMultiple x y = true
  · by_cases multiple' : isMultiple y x = true
    · -- each order keeps its own first divisor, and both write the same
      obtain rfl := isMultiple_antisymm (Number.decimalValue?_pos above decimal)
        (Number.decimalValue?_pos above' decimal') multiple multiple'
      have same := Number.value?_eq_of_decimalValue? above above' decimal decimal' legible legible'
      rw [if_pos multiple, if_pos multiple]
      funext value
      cases value <;> simp only [Leaf.multipleOf, same]
    · rw [if_pos multiple, if_neg multiple', if_pos multiple]
  · by_cases multiple' : isMultiple y x = true
    · rw [if_neg multiple, if_pos multiple', if_pos multiple']
    · rw [if_neg multiple, if_neg multiple', if_neg multiple', if_neg multiple, commonMultiple_comm]

theorem rule_readAlike {combined : Json → Json → Except Failure Json}
    (found : rule? keyword = some (.combine combined)) (list : keyword ≠ "allOf")
    (made : combined first second = .ok met) (made' : combined second first = .ok other)
    (formed : LegibleArgument reading.deep keyword first)
    (formed' : LegibleArgument reading.deep keyword second) (finite : first.isFinite = true)
    (finite' : second.isFinite = true) : ReadAlike reading keyword met other := by
  obtain ⟨reads, role⟩ := leaf_of_shape (rule?_shape found list reading.deep)
  have set := (rule_isClean found made formed.noRepeats formed'.noRepeats).set
  have set' := (rule_isClean found made' formed'.noRepeats formed.noRepeats).set
  refine readAlike_leaf role set set' ?_
  by_cases divisor : keyword = "multipleOf"
  · subst divisor
    cases found
    cases role
    exact multipleOf_swap made made' formed.legible formed'.legible
  · have usable : keyword ≠ "pattern" := by
      rintro rfl
      exact absurd formed.legible (by simp [isLegible])
    have both := rule_asksBoth reading found role made usable (fun is => absurd is divisor)
      formed.noRepeats formed'.noRepeats finite finite'
    have both' := rule_asksBoth reading found role made' usable (fun is => absurd is divisor)
      formed'.noRepeats formed.noRepeats finite' finite
    funext value
    rw [both value, both' value, Bool.and_comm]

section alternatives

variable {schemas others kept mets mets' : List Json}

theorem isSubset_single (schema schema' : Json) :
    isSubset [schema] [schema'] = equal schema schema' := by
  rw [isSubset, List.allM, List.anyM]
  cases equal schema schema' with
  | error failure => rfl
  | ok answer => cases answer <;> rfl

theorem isPermutation_swap {answer answer' : Bool} (compared : isPermutation schemas others = .ok answer)
    (compared' : isPermutation others schemas = .ok answer') : answer = answer' := by
  obtain ⟨forms, listed, compared⟩ := bind_eq_ok.mp compared
  obtain ⟨forms', listed', built⟩ := bind_eq_ok.mp compared
  obtain ⟨_, read', compared'⟩ := bind_eq_ok.mp compared'
  obtain ⟨_, read, built'⟩ := bind_eq_ok.mp compared'
  obtain rfl := Except.ok.inj (listed.symm.trans read)
  obtain rfl := Except.ok.inj (listed'.symm.trans read')
  rw [← pure_eq_ok.mp built, ← pure_eq_ok.mp built', Bool.eq_iff_iff, List.isPerm_iff, List.isPerm_iff]
  exact List.perm_comm

theorem singles_of_distribute (same : schemas.length = others.length)
    (made : distribute recur keyword schemas others = .ok mets) :
    ∃ schema schema', schemas = [schema] ∧ others = [schema'] := by
  obtain ⟨single, alternatives, ⟨rfl, rfl⟩ | ⟨rfl, rfl⟩, -⟩ := distribute_eq_ok made
  · obtain ⟨schema, rfl⟩ := List.length_eq_one_iff.mp same.symm
    exact ⟨single, schema, rfl, rfl⟩
  · obtain ⟨schema, rfl⟩ := List.length_eq_one_iff.mp same
    exact ⟨schema, single, rfl, rfl⟩

theorem distribute_swap (made : distribute recur keyword schemas others = .ok mets)
    (made' : distribute recur keyword others schemas = .ok mets') :
    mets = mets' ∨ ∃ schema schema' met met', schemas = [schema] ∧ others = [schema'] ∧
      recur schema' schema = .ok met ∧ recur schema schema' = .ok met' ∧ mets = [met] ∧
      mets' = [met'] := by
  by_cases same : schemas.length = others.length
  · obtain ⟨schema, schema', rfl, rfl⟩ := singles_of_distribute same made
    have related := mapM_eq_ok made
    have related' := mapM_eq_ok made'
    rw [List.forall₂_cons_left_iff] at related related'
    obtain ⟨met, _, done, ends, rfl⟩ := related
    obtain ⟨met', _, done', ends', rfl⟩ := related'
    cases ends
    cases ends'
    exact Or.inr ⟨schema, schema', met, met', rfl, rfl, done, done', rfl, rfl⟩
  · refine Or.inl (Except.ok.inj (made.symm.trans (Eq.trans ?_ made')))
    obtain ⟨single, _, ⟨rfl, -⟩ | ⟨-, rfl⟩, -⟩ := distribute_eq_ok made
    · rcases others with _ | ⟨schema, _ | ⟨next, rest⟩⟩
      · rfl
      · exact absurd rfl same
      · rfl
    · rcases schemas with _ | ⟨schema, _ | ⟨next, rest⟩⟩
      · rfl
      · exact absurd rfl same
      · rfl

theorem distribute_agree (symmetric : Symmetric reading recur)
    (made : distribute recur keyword schemas others = .ok mets)
    (made' : distribute recur keyword others schemas = .ok mets')
    (legible : ∀ schema ∈ schemas, Legible reading.deep schema)
    (legible' : ∀ schema ∈ others, Legible reading.deep schema) (value : Json) :
    mets.map (accepts reading · value) = mets'.map (accepts reading · value) := by
  rcases distribute_swap made made' with
    rfl | ⟨schema, schema', met, met', rfl, rfl, done, done', rfl, rfl⟩
  · rfl
  · have agree := symmetric.agree done done' (legible' schema' (by simp)) (legible schema (by simp))
    simp only [List.map_cons, List.map_nil, agree]

theorem any_eq_of_map {schemas others : List Json} {value : Json}
    (same : schemas.map (accepts reading · value) = others.map (accepts reading · value)) :
    schemas.any (accepts reading · value) = others.any (accepts reading · value) := by
  have both := congrArg (List.any · id) same
  rwa [List.any_map, List.any_map] at both

def FitAlike (reading : Reading) (first second : Json) : Prop :=
  ∃ schemas others, first = .array schemas ∧ second = .array others ∧
    ∀ value, schemas.any (accepts reading · value) = others.any (accepts reading · value)

/-- Where both orders compare the same lists, they keep the same one or distribute both. -/
theorem fitAlike_of_chooses {covered : Except Failure Bool} (symmetric : Symmetric reading recur)
    (legible : ∀ schema ∈ schemas, Legible reading.deep schema)
    (legible' : ∀ schema ∈ others, Legible reading.deep schema)
    (chosen : Chooses covered kept (distribute recur keyword schemas others) met)
    (chosen' : Chooses covered kept (distribute recur keyword others schemas) other) :
    FitAlike reading met other := by
  rcases chosen with ⟨is, rfl⟩ | ⟨is, mets, made, rfl⟩
  · rcases chosen' with ⟨-, rfl⟩ | ⟨is', -⟩
    · exact ⟨kept, kept, rfl, rfl, fun _ => rfl⟩
    · exact absurd (is.symm.trans is') (by simp)
  · rcases chosen' with ⟨is', -⟩ | ⟨-, mets', made', rfl⟩
    · exact absurd (is.symm.trans is') (by simp)
    · exact ⟨mets, mets', rfl, rfl, fun value =>
        any_eq_of_map (distribute_agree symmetric made made' legible legible' value)⟩

theorem anyOf_swap (symmetric : Symmetric reading recur)
    (made : anyOf recur (.array schemas) (.array others) = .ok met)
    (made' : anyOf recur (.array others) (.array schemas) = .ok other)
    (legible : ∀ schema ∈ schemas, Legible reading.deep schema)
    (legible' : ∀ schema ∈ others, Legible reading.deep schema) : FitAlike reading met other := by
  have chosen := anyOf_chooses made
  have chosen' := anyOf_chooses made'
  have clean := fun schema inside => (legible schema inside).noRepeats
  have clean' := fun schema inside => (legible' schema inside).noRepeats
  rcases Nat.lt_trichotomy schemas.length others.length with less | same | greater
  · rw [if_pos less.le] at chosen
    rw [if_neg less.not_ge] at chosen'
    exact fitAlike_of_chooses symmetric legible legible' chosen chosen'
  · rw [if_pos same.le] at chosen
    rw [if_pos same.ge] at chosen'
    -- lists of one length are compared in both directions; if only one of them is a part of the
    -- other, they are distributed, so both have one member
    have oneWay {schemas others mets : List Json} (same : schemas.length = others.length)
        (part : isSubset schemas others = .ok true) (notPart : isSubset others schemas = .ok false)
        (made : distribute recur "anyOf" others schemas = .ok mets) : False := by
      obtain ⟨schema, schema', rfl, rfl⟩ := singles_of_distribute same.symm made
      rw [isSubset_single] at part notPart
      exact absurd ((equal_swap part).symm.trans notPart) (by simp)
    rcases chosen with ⟨part, rfl⟩ | ⟨notPart, mets, done, rfl⟩
    · rcases chosen' with ⟨part', rfl⟩ | ⟨notPart', mets', done', rfl⟩
      · exact ⟨schemas, others, rfl, rfl, fun value => Bool.eq_iff_iff.mpr
          ⟨any_of_subset (isSubset_eq_ok part) clean clean' value,
            any_of_subset (isSubset_eq_ok part') clean' clean value⟩⟩
      · exact (oneWay same part notPart' done').elim
    · rcases chosen' with ⟨part', rfl⟩ | ⟨notPart', mets', done', rfl⟩
      · exact (oneWay same.symm part' notPart done).elim
      · exact ⟨mets, mets', rfl, rfl, fun value =>
          any_eq_of_map (distribute_agree symmetric done done' legible legible' value)⟩
  · rw [if_neg greater.not_ge] at chosen
    rw [if_pos greater.le] at chosen'
    exact fitAlike_of_chooses symmetric legible legible' chosen chosen'

theorem oneOf_swap (symmetric : Symmetric reading recur)
    (made : oneOf recur (.array schemas) (.array others) = .ok met)
    (made' : oneOf recur (.array others) (.array schemas) = .ok other)
    (legible : ∀ schema ∈ schemas, Legible reading.deep schema)
    (legible' : ∀ schema ∈ others, Legible reading.deep schema) :
    ∃ mets mets', met = .array mets ∧ other = .array mets' ∧ ∀ value,
      (mets.map (accepts reading · value)).count true =
        (mets'.map (accepts reading · value)).count true := by
  rcases oneOf_chooses made with ⟨same, rfl⟩ | ⟨differ, mets, done, rfl⟩
  · rcases oneOf_chooses made' with ⟨same', rfl⟩ | ⟨differ', mets', done', rfl⟩
    · exact ⟨schemas, others, rfl, rfl, count_of_permutation same
        (fun schema inside => (legible schema inside).noRepeats)
        (fun schema inside => (legible' schema inside).noRepeats)⟩
    · exact absurd (isPermutation_swap same differ') (by simp)
  · rcases oneOf_chooses made' with ⟨same', rfl⟩ | ⟨differ', mets', done', rfl⟩
    · exact absurd (isPermutation_swap differ same') (by simp)
    · refine ⟨mets, mets', rfl, rfl, fun value => ?_⟩
      rw [distribute_agree symmetric done done' legible legible' value]

theorem allOf_swap (reading : Reading) (made : Keyword.allOf first second = .ok met)
    (made' : Keyword.allOf second first = .ok other) (clean : first.noRepeats = true)
    (clean' : second.noRepeats = true) :
    ∃ union union', met = .array union ∧ other = .array union' ∧
      ∀ value, union.all (accepts reading · value) = union'.all (accepts reading · value) := by
  obtain ⟨schemas, others, union, rfl, rfl, rfl, joined⟩ := union_eq_ok made
  obtain ⟨_, _, union', ⟨⟩, ⟨⟩, rfl, joined'⟩ := union_eq_ok made'
  rw [Json.noRepeats_array] at clean clean'
  refine ⟨union, union', rfl, rfl, fun value => ?_⟩
  rw [all_union joined clean clean', all_union joined' clean' clean, Bool.and_comm]

end alternatives

theorem readAlike_annotation (role : reading.applicator keyword = .leaf fun _ _ => true) :
    ReadAlike reading keyword met other := by
  intro siblings others _
  funext value
  simp [satisfies, role]

theorem combine_readAlike (symmetric : Symmetric reading recur)
    (made : combine recur keyword first second = .ok met)
    (made' : combine recur keyword second first = .ok other)
    (formed : LegibleArgument reading.deep keyword first)
    (formed' : LegibleArgument reading.deep keyword second) (finite : first.isFinite = true)
    (finite' : second.isFinite = true) : ReadAlike reading keyword met other := by
  have schema {reads : (String → Bool) → (Json → Bool) → Json → Bool}
      (role : reading.applicator keyword = .schema reads) (made : recur first second = .ok met)
      (made' : recur second first = .ok other) : ReadAlike reading keyword met other := by
    have place : shape reading.deep keyword = .schema := by rw [← applicator_shape, role]; rfl
    exact readAlike_schema role (symmetric.set made) (symmetric.set made')
      (symmetric.agree made made' (formed.schema place) (formed'.schema place))
  unfold combine at made
  split at made
  · exact schema rfl made made'
  · obtain ⟨schemas, rfl, legible⟩ := formed.schemas rfl
    obtain ⟨others, rfl, legible'⟩ := formed'.schemas rfl
    obtain ⟨mets, mets', rfl, rfl, same⟩ := anyOf_swap symmetric made made' legible legible'
    intro siblings siblings' _
    simp only [satisfies_anyOf, same]
  · obtain ⟨schemas, rfl, legible⟩ := formed.schemas rfl
    obtain ⟨others, rfl, legible'⟩ := formed'.schemas rfl
    obtain ⟨mets, mets', rfl, rfl, same⟩ := oneOf_swap symmetric made made' legible legible'
    intro siblings siblings' _
    simp only [satisfies_oneOf, same]
  · exact schema rfl made made'
  · next additional any one names =>
    rw [combine.eq_5 _ _ _ _ additional any one names] at made'
    split at made
    · next combined found =>
      rw [found] at made'
      by_cases list : keyword = "allOf"
      · subst list
        cases found
        obtain ⟨union, union', rfl, rfl, same⟩ :=
          allOf_swap reading made made' formed.noRepeats formed'.noRepeats
        intro siblings siblings' _
        simp only [satisfies_allOf, same]
      · exact rule_readAlike found list made made' formed formed' finite finite'
    · next found =>
      have kept : keyword = "deprecated" ∨ keyword = "example" := by
        unfold rule? at found
        split at found <;> simp_all
      rcases kept with rfl | rfl <;> exact readAlike_annotation rfl
    · exact absurd made (by simp)

theorem joins_swap (alike : Json → Json → Prop) (refl : ∀ argument, alike argument argument)
    {left right result result' : Option Json} (joins : Joins? recur keyword left right result)
    (joins' : Joins? recur keyword right left result')
    (same : ∀ {argument argument'}, left = some argument → right = some argument' →
      isEqual argument argument' = true → alike argument argument')
    (combined : ∀ {argument argument' met other}, left = some argument → right = some argument' →
      argument.isFinite = true → argument'.isFinite = true →
      combine recur keyword argument argument' = .ok met →
      combine recur keyword argument' argument = .ok other → alike met other) :
    Option.Rel alike result result' := by
  cases joins with
  | neither =>
      cases joins' with
      | neither => exact .none
  | left argument =>
      cases joins' with
      | right => exact .some (refl argument)
  | right argument =>
      cases joins' with
      | left => exact .some (refl argument)
  | same compared =>
      cases joins' with
      | same compared' =>
          exact .some (same rfl rfl (Json.isEqual_of_equal (finitely_eq_ok.mp compared)))
      | combined compared' => exact absurd ((equal_swap compared).symm.trans compared') (by simp)
  | combined compared made =>
      cases joins' with
      | same compared' => exact absurd ((equal_swap compared).symm.trans compared') (by simp)
      | combined compared' made' =>
          obtain ⟨finite, finite', -⟩ := Json.equal_eq_ok.mp (finitely_eq_ok.mp compared)
          exact .some (combined rfl rfl finite finite' made made')

theorem joins_readAlike (symmetric : Symmetric reading recur) {left right result result' : Option Json}
    (joins : Joins? recur keyword left right result) (joins' : Joins? recur keyword right left result')
    (formed : ∀ {argument}, left = some argument → LegibleArgument reading.deep keyword argument)
    (formed' : ∀ {argument}, right = some argument → LegibleArgument reading.deep keyword argument) :
    Option.Rel (ReadAlike reading keyword) result result' :=
  joins_swap (ReadAlike reading keyword) (.refl reading keyword) joins joins'
    (fun is is' same => readAlike_of_isEqual same (formed is).noRepeats (formed' is').noRepeats)
    fun is is' finite finite' made made' =>
      combine_readAlike symmetric made made' (formed is) (formed' is') finite finite'

end Schema

end SchemaMerge
