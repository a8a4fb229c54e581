import SchemaMerge.Proofs.Meet.Alternatives
import SchemaMerge.Proofs.Meet.Space

namespace SchemaMerge.Schema

open Json (membersOf)

variable {reading : Reading} {banned : List String} {recur : Meeting} {keyword : String}
  {first second met : Json}

theorem combine_combines (sound : Sound reading banned recur)
    (countable : "oneOf" ∈ banned ∨ IsExact banned) (ordinary : IsOrdinary keyword)
    (made : combine recur keyword first second = .ok met)
    (argument : IsArgument reading.deep banned keyword first)
    (argument' : IsArgument reading.deep banned keyword second) (finite : first.isFinite = true)
    (finite' : second.isFinite = true) : Combines reading banned keyword first second met := by
  unfold combine at made
  split at made
  · exact absurd rfl ordinary.2
  · exact anyOf_combines sound made argument argument'
  · rcases countable with unusable | exactly
    · have permitted := argument.permitted
      simp [permits, unusable] at permitted
    · exact oneOf_combines sound exactly made argument argument'
  · exact propertyNames_combines sound made argument argument'
  · split at made
    · next combined found =>
      by_cases all : keyword = "allOf"
      · subst all
        cases found
        exact allOf_combines made argument argument'
      · have place := rule?_shape found all reading.deep
        obtain ⟨reads, role⟩ := leaf_of_shape place
        have result := rule_isArgument found place made argument argument'
        refine ⟨result, fun siblings => .of_both fun value => ?_⟩
        rw [satisfies_leaf role result.present, satisfies_leaf role argument.present,
          satisfies_leaf role argument'.present]
        refine rule_asksBoth reading found role made (ne_pattern_of_suits argument.suitable) ?_
          argument.noRepeats argument'.noRepeats finite finite' value
        rintro rfl
        exact ⟨holdsWhole_of_suits argument.suitable, holdsWhole_of_suits argument'.suitable⟩
    · next found =>
      obtain rfl := Except.ok.inj made
      refine ⟨argument, fun siblings => .of_left fun value _ => ?_⟩
      have kept : keyword = "deprecated" ∨ keyword = "example" := by
        unfold rule? at found
        split at found <;> simp_all
      rcases kept with rfl | rfl <;>
        exact satisfies_leaf rfl argument'.present siblings value
    · exact absurd made (by simp)

theorem asked_congr (same : Json.isEqual first second = true) (clean : first.noRepeats = true)
    (clean' : second.noRepeats = true) (value : Json) :
    asked reading keyword (some first) value = asked reading keyword (some second) value :=
  satisfies_congr reading same clean clean' rfl
    (fun _ _ _ same clean clean' => accepts_congr reading same clean clean') keyword value

theorem joins_combines (sound : Sound reading banned recur)
    (countable : "oneOf" ∈ banned ∨ IsExact banned) (ordinary : IsOrdinary keyword)
    {left right result : Option Json} (joins : Joins? recur keyword left right result)
    (formed : ∀ {argument}, left = some argument →
      IsArgument reading.deep banned keyword argument ∧ argument.isFinite = true)
    (formed' : ∀ {argument}, right = some argument →
      IsArgument reading.deep banned keyword argument ∧ argument.isFinite = true) :
    (∀ {argument}, result = some argument → IsArgument reading.deep banned keyword argument) ∧
      IsMeet (IsExact banned) (asked reading keyword left) (asked reading keyword right)
        (asked reading keyword result) := by
  cases joins with
  | neither => exact ⟨fun wrong => absurd wrong (by simp), .of_left fun _ accepted => accepted⟩
  | left argument => exact ⟨fun is => (formed is).1, .of_left fun _ _ => rfl⟩
  | right argument => exact ⟨fun is => (formed' is).1, .of_right fun _ _ => rfl⟩
  | same compared =>
      refine ⟨fun is => (formed is).1, .of_left fun value accepted => ?_⟩
      have same := Json.isEqual_of_equal (finitely_eq_ok.mp compared)
      rwa [← asked_congr same (formed rfl).1.noRepeats (formed' rfl).1.noRepeats]
  | combined _ made =>
      have combined := combine_combines sound countable ordinary made (formed rfl).1 (formed' rfl).1
        (formed rfl).2 (formed' rfl).2
      refine ⟨fun is => ?_, combined.meets []⟩
      obtain rfl := Option.some.inj is
      exact combined.argument

theorem joins_asks (sound : Sound reading banned recur) {left right result : Option Json}
    (joins : Joins? recur "additionalProperties" left right result)
    (formed : ∀ {schema}, left = some schema → WellFormed reading.deep banned schema)
    (formed' : ∀ {schema}, right = some schema → WellFormed reading.deep banned schema) :
    (∀ {schema}, result = some schema → WellFormed reading.deep banned schema) ∧
      IsMeet (IsExact banned) (PropertySpace.asks reading left) (PropertySpace.asks reading right)
        (PropertySpace.asks reading result) := by
  cases joins with
  | neither => exact ⟨fun wrong => absurd wrong (by simp), .of_left fun _ accepted => accepted⟩
  | left schema => exact ⟨formed, .of_left fun _ _ => rfl⟩
  | right schema => exact ⟨formed', .of_right fun _ _ => rfl⟩
  | same compared =>
      refine ⟨formed, .of_left fun value accepted => ?_⟩
      have same := Json.isEqual_of_equal (finitely_eq_ok.mp compared)
      have agree := accepts_congr reading same (formed rfl).noRepeats (formed' rfl).noRepeats
      simpa [PropertySpace.asks, agree] using accepted
  | combined _ made =>
      refine ⟨fun is => ?_, sound.meets made (formed rfl) (formed' rfl)⟩
      obtain rfl := Option.some.inj is
      exact sound.formed made (formed rfl) (formed' rfl)

namespace BoundPair

/-- How the two bounds of a pair are read, and that the tighter bound of finite numbers admits no
more than the other one. -/
structure Reads (reading : Reading) (pair : BoundPair) (strict loose : Number → Number → Bool) :
    Prop where
  exclusive : reading.applicator pair.exclusive = .leaf (Leaf.limit Json.number? strict)
  inclusive : reading.applicator pair.inclusive = .leaf (Leaf.limit Json.number? loose)
  tighter : ∀ {limit bound size}, pair.tight limit bound = true → strict limit size = true →
    loose bound size = true
  looser : ∀ {limit bound size}, pair.tight limit bound = false →
    (Json.number limit).isFinite = true → (Json.number bound).isFinite = true →
    loose bound size = true → strict limit size = true

theorem upper_reads (reading : Reading) : Reads reading upper Leaf.below Leaf.atMost := by
  refine ⟨rfl, rfl, fun tight less => ?_, fun {limit bound size} loose finite finite' less => ?_⟩
  · exact Number.le_of_lt ((Number.chain tight).2.2.2 less)
  · have greater : bound.lt limit = true :=
      (Number.le_total finite finite').trans (congrArg not loose)
    exact (Number.chain less).2.1 greater

theorem lower_reads (reading : Reading) : Reads reading lower Leaf.above Leaf.atLeast := by
  refine ⟨rfl, rfl, fun tight less => ?_, fun {limit bound size} loose finite finite' less => ?_⟩
  · exact Number.le_of_lt ((Number.chain tight).2.1 less)
  · have greater : limit.lt bound = true :=
      (Number.le_total finite' finite).trans (congrArg not loose)
    exact (Number.chain less).2.2.2 greater

variable {pair : BoundPair} {strict loose : Number → Number → Bool} {schema out : Members}

theorem asked_number {admits : Number → Number → Bool}
    (role : reading.applicator keyword = .leaf (Leaf.limit Json.number? admits)) (bound : Number)
    (value : Json) :
    asked reading keyword (some (.number bound)) value =
      (Json.number? value).all (admits bound) := by
  rw [asked, Option.all_some, satisfies_leaf role (by simp [isAbsent])]
  unfold Leaf.limit
  cases Json.number? value <;> rfl

def admitsPair (reading : Reading) (pair : BoundPair) (schema : Members) (value : Json) : Bool :=
  asked reading pair.exclusive (schema.get? pair.exclusive) value &&
    asked reading pair.inclusive (schema.get? pair.inclusive) value

theorem reconcile_reads (reads : Reads reading pair strict loose)
    (differ : pair.exclusive ≠ pair.inclusive) (made : pair.reconcile false schema = .ok out)
    (set : ∀ keyword, keyword = pair.exclusive ∨ keyword = pair.inclusive →
      schema.present? keyword = schema.get? keyword)
    (finite : ∀ {keyword argument}, keyword = pair.exclusive ∨ keyword = pair.inclusive →
      schema.get? keyword = some argument → argument.isFinite = true) :
    (out = schema.erase pair.exclusive ∨ out = schema.erase pair.inclusive) ∧
      ∀ value, admitsPair reading pair out value = admitsPair reading pair schema value := by
  obtain ⟨exclusive, inclusive, found, found', cases⟩ := reconcile_eq_ok made
  rw [set _ (Or.inl rfl)] at found
  rw [set _ (Or.inr rfl)] at found'
  have nothing : ∀ keyword value, asked reading keyword none value = true := fun _ _ => rfl
  rcases cases with ⟨rfl, weaker⟩ | ⟨limit, rfl, stronger, rfl⟩
  · -- the inclusive bound stays, and admits no more than the exclusive one
    refine ⟨Or.inl rfl, fun value => ?_⟩
    unfold admitsPair
    rw [Members.get?_erase, Members.get?_erase, if_pos rfl, if_neg differ.symm, nothing,
      Bool.true_and]
    refine and_eq_right_of_imp fun admitted => ?_
    cases exclusive with
    | none => rw [found]; rfl
    | some limit =>
        obtain ⟨bound, rfl, notTight⟩ := weaker limit rfl
        rw [found', Option.map_some, asked_number reads.inclusive] at admitted
        rw [found, Option.map_some, asked_number reads.exclusive]
        have finiteLimit := finite (Or.inl rfl) found
        have finiteBound := finite (Or.inr rfl) found'
        cases size : Json.number? value with
        | none => rfl
        | some number =>
            rw [size] at admitted
            exact reads.looser notTight finiteLimit finiteBound admitted
  · refine ⟨Or.inr rfl, fun value => ?_⟩
    unfold admitsPair
    rw [if_neg (by simp), Members.get?_erase, Members.get?_erase, if_neg differ, if_pos rfl, nothing,
      Bool.and_true]
    refine and_eq_left_of_imp fun admitted => ?_
    cases inclusive with
    | none => rw [found']; rfl
    | some bound =>
        rw [found, Option.map_some, asked_number reads.exclusive] at admitted
        rw [found', Option.map_some, asked_number reads.inclusive]
        cases size : Json.number? value with
        | none => rfl
        | some number =>
            rw [size] at admitted
            exact reads.tighter (stronger bound rfl) admitted

end BoundPair

end SchemaMerge.Schema
