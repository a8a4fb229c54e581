import SchemaMerge.Proofs.Failing.Keyword
import SchemaMerge.Proofs.Meet.Lasting

namespace SchemaMerge.Schema

variable {recur : Meeting} {keyword : String} {first second : Json} {failure : Failure}

/-- Two arguments of `const`, `enum` or `type` that no value satisfies together. -/
structure Exclude (keyword : String) (first second : Json) : Prop where
  listed : keyword ∈ ["const", "enum", "type"]
  apart : ∀ reading siblings siblings' value,
    satisfies reading siblings keyword first value = true →
      satisfies reading siblings' keyword second value = false

def IsTruthful (failure : Failure) : Prop :=
  ∀ keyword first second, failure = .empty keyword first second → Exclude keyword first second

theorem isTruthful_of_kind (other : failure.kind ≠ .empty) : IsTruthful failure := by
  rintro keyword first second rfl
  exact absurd rfl other

def IsRefusal (keyword : String) (first second : Json) (failure : Failure) : Prop :=
  failure.kind ≠ .empty ∨ failure = .empty keyword first second ∧ Exclude keyword first second

theorem IsRefusal.isTruthful (refusal : IsRefusal keyword first second failure) : IsTruthful failure := by
  rcases refusal with other | ⟨rfl, exclude⟩
  · exact isTruthful_of_kind other
  · rintro _ _ _ ⟨⟩
    exact exclude

theorem isRefusal_of_malformed (malformed : failure.kind = .malformed) :
    IsRefusal keyword first second failure := Or.inl (by simp [malformed])

theorem isTruthful_of_malformed (malformed : failure.kind = .malformed) : IsTruthful failure :=
  isTruthful_of_kind (by simp [malformed])

theorem exclude_of_leaf {reads : Json → Json → Bool} (listed : keyword ∈ ["const", "enum", "type"])
    (role : ∀ reading : Reading, reading.applicator keyword = .leaf reads)
    (present : isAbsent keyword first = false) (present' : isAbsent keyword second = false)
    (apart : ∀ value, reads first value = true → reads second value = false) :
    Exclude keyword first second := by
  refine ⟨listed, fun reading siblings siblings' value => ?_⟩
  rw [satisfies_leaf (role reading) present, satisfies_leaf (role reading) present']
  exact apart value

theorem const_excludes (differ : equal first second = .ok false) : Exclude "const" first second := by
  refine exclude_of_leaf (by decide) (fun _ => rfl) ?_ ?_ fun value same => ?_
  · simp [isAbsent, nullableKeywords]
  · simp [isAbsent, nullableKeywords]
  · rw [← Bool.not_eq_true]
    intro same'
    obtain ⟨finite, finite', forms⟩ :=
      Json.isEqual_iff.mp (Json.isEqual_trans same (Json.isEqual_symm same'))
    have answer := (Json.equal_eq_ok.mp (finitely_eq_ok.mp differ)).2.2
    rw [forms, decide_eq_true rfl] at answer
    exact absurd answer (by simp)

theorem enum_isRefusal (failed : Keyword.enum first second = .error failure) :
    IsRefusal "enum" first second failure := by
  rcases enum_eq_error failed with ⟨malformed, -⟩ | unsupported | ⟨rfl, ⟨_, rfl⟩, ⟨_, rfl⟩, apart⟩
  · exact isRefusal_of_malformed malformed
  · exact Or.inl (by simp [unsupported])
  · exact Or.inr ⟨rfl, exclude_of_leaf (by decide) (fun _ => rfl) (by simp [isAbsent])
      (by simp [isAbsent]) apart⟩

theorem type_isRefusal (failed : Keyword.type first second = .error failure) :
    IsRefusal "type" first second failure := by
  rcases type_eq_error failed with ⟨malformed, -⟩ | ⟨rfl, set, set', apart⟩
  · exact isRefusal_of_malformed malformed
  · exact Or.inr ⟨rfl, exclude_of_leaf (by decide) (fun _ => rfl) (by simp [isAbsent, set])
      (by simp [isAbsent, set']) apart⟩

theorem rule_isRefusal {combined : Json → Json → Except Failure Json}
    (found : rule? keyword = some (.combine combined)) (differ : equal first second = .ok false)
    (failed : combined first second = .error failure) : IsRefusal keyword first second failure := by
  unfold rule? at found
  split at found <;> cases found
  case h_2 => exact Or.inr ⟨(throw_eq_error.mp failed).symm, const_excludes differ⟩
  all_goals
    first
    | exact enum_isRefusal failed
    | exact type_isRefusal failed
    | exact isRefusal_of_malformed (upperBound_eq_error failed).1
    | exact isRefusal_of_malformed (lowerBound_eq_error failed).1
    | exact isRefusal_of_malformed (description_eq_error failed).1
    | exact isRefusal_of_malformed (either_eq_error failed).1
    | exact isRefusal_of_malformed (dependentRequired_eq_error failed).1
    | exact isRefusal_of_malformed (pattern_eq_error failed)
    | exact Or.inl (by rcases (multipleOf_eq_error failed).1 with kind | kind <;> simp [kind])
    | exact isRefusal_of_malformed (union_eq_error failed).1

def descendingKeywords : List String :=
  ["properties", "patternProperties", "additionalProperties", "propertyNames", "anyOf", "oneOf"]

theorem not_bound_of_descends : ∀ keyword ∈ descendingKeywords, keyword ∉ boundKeywords := by decide

theorem Exclude.not_bound (exclude : Exclude keyword first second) : keyword ∉ boundKeywords :=
  (by decide : ∀ keyword ∈ ["const", "enum", "type"], keyword ∉ boundKeywords) keyword exclude.listed

theorem combine_isRefusal (leaf : keyword ∉ descendingKeywords) (differ : equal first second = .ok false)
    (failed : combine recur keyword first second = .error failure) :
    IsRefusal keyword first second failure := by
  unfold combine at failed
  split at failed
  · exact absurd (by decide) leaf
  · exact absurd (by decide) leaf
  · exact absurd (by decide) leaf
  · exact absurd (by decide) leaf
  · split at failed
    · next combined found => exact rule_isRefusal found differ failed
    · exact absurd failed (by simp)
    · obtain rfl := Except.error.inj failed
      exact Or.inl (by simp [Failure.kind])

/-- A way to meet schemas that fails truthfully. -/
def IsHonest (recur : Meeting) : Prop :=
  ∀ {first second failure}, recur first second = .error failure → IsTruthful failure

theorem distribute_isTruthful (honest : IsHonest recur) {schemas others : List Json}
    (failed : distribute recur keyword schemas others = .error failure) : IsTruthful failure := by
  rcases distribute_eq_error failed with rfl | ⟨schema, other, failed, -⟩
  · exact isTruthful_of_kind (by simp [Failure.kind])
  · exact honest failed

theorem anyOf_isTruthful (honest : IsHonest recur)
    (failed : anyOf recur first second = .error failure) : IsTruthful failure := by
  rcases bind_eq_error.mp failed with unread | ⟨schemas, read, _⟩
  · exact isTruthful_of_malformed (asArray_fails unread).1
  · rcases bind_eq_error.mp ‹_› with unread | ⟨others, read', _⟩
    · exact isTruthful_of_malformed (asArray_fails unread).1
    · obtain rfl := asArray_eq_ok.mp read
      obtain rfl := asArray_eq_ok.mp read'
      rcases anyOf_eq_error failed with ⟨schema, other, unequal, -⟩ | undistributed
      · exact isTruthful_of_malformed (equal_eq_error unequal).1
      · exact distribute_isTruthful honest undistributed

theorem oneOf_isTruthful (honest : IsHonest recur)
    (failed : oneOf recur first second = .error failure) : IsTruthful failure := by
  rcases bind_eq_error.mp failed with unread | ⟨schemas, read, _⟩
  · exact isTruthful_of_malformed (asArray_fails unread).1
  · rcases bind_eq_error.mp ‹_› with unread | ⟨others, read', _⟩
    · exact isTruthful_of_malformed (asArray_fails unread).1
    · obtain rfl := asArray_eq_ok.mp read
      obtain rfl := asArray_eq_ok.mp read'
      rcases oneOf_eq_error failed with uncompared | undistributed
      · exact isTruthful_of_malformed (isPermutation_eq_error uncompared).1
      · exact distribute_isTruthful honest undistributed

theorem conflicts_isTruthful (honest : IsHonest recur) (ordinary : isEntries keyword = false)
    (conflict : Conflicts recur keyword first second failure) : IsTruthful failure := by
  rcases conflict with unequal | ⟨differ, failed⟩
  · exact isTruthful_of_malformed (equal_eq_error unequal).1
  · by_cases descends : keyword ∈ descendingKeywords
    · simp only [descendingKeywords, List.mem_cons, List.not_mem_nil, or_false] at descends
      rcases descends with rfl | rfl | rfl | rfl | rfl | rfl
      · exact absurd ordinary (by decide)
      · exact absurd ordinary (by decide)
      · exact honest failed
      · exact honest failed
      · exact anyOf_isTruthful honest failed
      · exact oneOf_isTruthful honest failed
    · exact (combine_isRefusal descends differ failed).isTruthful

theorem meetNamed_isTruthful (honest : IsHonest recur) {space other : PropertySpace}
    (failed : space.meetNamed recur other = .error failure) : IsTruthful failure := by
  have all (space : PropertySpace) : space.Holds fun _ => True :=
    ⟨fun _ _ => trivial, fun _ _ => trivial, fun _ => trivial⟩
  cases PropertySpace.meetNamed_fails (fun _ _ _ => trivial) (all space) (all other) failed with
  | pattern _ failed =>
      apply isTruthful_of_kind
      rcases (applies_eq_error failed).1 with kind | kind <;> simp [kind]
  | schemas _ _ failed => exact honest failed

theorem meetObjects_isTruthful (honest : IsHonest recur) {keywords others : Members}
    (failed : meetObjects recur keywords others = .error failure) : IsTruthful failure := by
  cases meetObjects_eq_error failed with
  | space _ failed => exact isTruthful_of_malformed (ofSchema_eq_error failed).1
  | named _ _ failed =>
      rcases failed with failed | failed
      · exact meetNamed_isTruthful honest failed
      · exact meetNamed_isTruthful honest failed
  | keywords failed =>
      obtain ⟨_, _, _, ordinary, conflict, -⟩ := meetKeywords_eq_error failed
      exact conflicts_isTruthful honest ordinary conflict
  | bounds _ failed =>
      rcases bind_eq_error.mp failed with failed | ⟨bounded, -, failed⟩
      · exact isTruthful_of_malformed (BoundPair.reconcile_eq_error failed).1
      · exact isTruthful_of_malformed (BoundPair.reconcile_eq_error failed).1

theorem meetWithin_isHonest (levels : Nat) : IsHonest (meetWithin levels) := by
  induction levels with
  | zero =>
      intro first second failure failed
      cases meetWithin_eq_error failed with
      | shapes malformed => exact isTruthful_of_malformed (checkShapes_eq_error malformed).1
      | depth => exact isTruthful_of_kind (by simp [Failure.kind])
      | unequal unequal => exact isTruthful_of_malformed (equal_eq_error unequal).1
  | succ levels ih =>
      intro first second failure failed
      cases meetWithin_eq_error failed with
      | shapes malformed => exact isTruthful_of_malformed (checkShapes_eq_error malformed).1
      | unequal unequal => exact isTruthful_of_malformed (equal_eq_error unequal).1
      | objects _ failed => exact meetObjects_isTruthful ih failed

/-- No schema inside a schema meets one of another schema. -/
def IsFlat (schema : Json) : Prop :=
  ∀ keyword ∈ descendingKeywords, (presentKeywords schema).get? keyword = none

instance (schema : Json) : Decidable (IsFlat schema) :=
  inferInstanceAs (Decidable (∀ keyword ∈ descendingKeywords, (presentKeywords schema).get? keyword = none))

theorem ofSchema_of_flat {schema : Members}
    (flat : ∀ keyword ∈ descendingKeywords, schema.get? keyword = none) :
    PropertySpace.ofSchema schema = .ok ⟨[], [], none⟩ := by
  have absent {keyword : String} (listed : keyword ∈ descendingKeywords) :
      schema.present? keyword = none := by
    rw [Members.present?, flat keyword listed]
  unfold PropertySpace.ofSchema entries additionalProperties
  rw [absent (by decide), absent (by decide), absent (by decide)]
  rfl

theorem meetObjects_empty_of_flat {keywords others : Members} (distinct : keywords.Distinct)
    (distinct' : others.Distinct) (flat : ∀ keyword ∈ descendingKeywords, keywords.get? keyword = none)
    (flat' : ∀ keyword ∈ descendingKeywords, others.get? keyword = none)
    (failed : meetObjects recur keywords others = .error (.empty keyword first second)) :
    keywords.get? keyword = some first ∧ others.get? keyword = some second := by
  have plain {schema : Members} (flat : ∀ keyword ∈ descendingKeywords, schema.get? keyword = none) :
      PropertySpace.ofSchema (numericBounds schema) = .ok ⟨[], [], none⟩ := by
    refine ofSchema_of_flat fun keyword listed => ?_
    rw [get?_numericBounds _ (not_bound_of_descends keyword listed), flat keyword listed]
  cases meetObjects_eq_error failed with
  | space side unread =>
      rcases side with rfl | rfl
      · exact absurd ((plain flat).symm.trans unread) (by simp)
      · exact absurd ((plain flat').symm.trans unread) (by simp)
  | named read read' failed =>
      obtain rfl := Except.ok.inj ((plain flat).symm.trans read)
      obtain rfl := Except.ok.inj ((plain flat').symm.trans read')
      rcases failed with failed | failed
      · exact absurd failed (by simp [PropertySpace.meetNamed, PropertySpace.meetEntries])
      · exact absurd failed (by simp [PropertySpace.meetNamed, PropertySpace.meetEntries,
          PropertySpace.ofPatterns])
  | keywords failed =>
      obtain ⟨key, present, argument, ordinary, conflict, found⟩ := meetKeywords_eq_error failed
      obtain ⟨known, known'⟩ := found (distinct_numericBounds distinct')
      have leaf : key ∉ descendingKeywords := by
        intro descends
        rw [get?_numericBounds _ (not_bound_of_descends key descends), flat' key descends] at known'
        exact absurd known' (by simp)
      rcases conflict with unequal | ⟨differ, failed⟩
      · exact absurd (equal_eq_error unequal).1 (by simp [Failure.kind])
      · rcases combine_isRefusal leaf differ failed with other | ⟨same, exclude⟩
        · exact absurd rfl other
        · obtain ⟨rfl, rfl, rfl⟩ := Failure.empty.inj same
          simp only [isEntries, Bool.or_eq_false_iff, decide_eq_false_iff_not] at ordinary
          rw [started, get?_withEntries, if_neg ordinary.2, get?_withEntries, if_neg ordinary.1,
            get?_numericBounds _ exclude.not_bound] at known
          rw [get?_numericBounds _ exclude.not_bound] at known'
          exact ⟨known, known'⟩
  | bounds _ failed =>
      have malformed : Failure.kind (.empty keyword first second) = .malformed := by
        rcases bind_eq_error.mp failed with failed | ⟨bounded, -, failed⟩
        · exact (BoundPair.reconcile_eq_error failed).1
        · exact (BoundPair.reconcile_eq_error failed).1
      exact absurd malformed (by simp [Failure.kind])

theorem accepts_single (reading : Reading) (argument value : Json) :
    accepts reading (.object [(keyword, argument)]) value =
      satisfies reading [(keyword, argument)] keyword argument value := by
  rw [accepts_object, List.all_cons, List.all_nil, Bool.and_true]

theorem satisfies_of_accepts {reading : Reading} {keywords : Members} (distinct : keywords.Distinct)
    {argument value : Json} (found : (presentKeywords (.object keywords)).get? keyword = some argument)
    (accepted : accepts reading (.object keywords) value = true) :
    satisfies reading keywords keyword argument value = true :=
  (accepts_object_iff reading distinct value).mp accepted _ _
    ((get?_presentKeywords distinct).mp found).1

/-- Two schemas that fail to meet as empty fail in two arguments that no value satisfies together; and
if they meet in their own keywords only, no value satisfies both of them. -/
theorem meet_empty_excludes (depth : Int) {argument argument' : Json}
    (failed : meet depth first second = .error (.empty keyword argument argument')) :
    keyword ∈ ["const", "enum", "type"] ∧
      (∀ reading value, ¬(accepts reading (.object [(keyword, argument)]) value = true ∧
        accepts reading (.object [(keyword, argument')]) value = true)) ∧
      (first.noRepeats = true → second.noRepeats = true → IsFlat first → IsFlat second →
        ∀ reading value, ¬(accepts reading first value = true ∧ accepts reading second value = true)) := by
  have exclude := meetWithin_isHonest (levelsOf depth) failed _ _ _ rfl
  refine ⟨exclude.listed, fun reading value both => ?_, fun clean clean' flat flat' reading value both => ?_⟩
  · rw [accepts_single, accepts_single] at both
    exact absurd both.2 (by simp [exclude.apart reading _ _ value both.1])
  · rw [meet] at failed
    generalize levelsOf depth = levels at failed
    cases meetWithin_eq_error failed with
    | shapes malformed => exact absurd (checkShapes_eq_error malformed).1 (by simp [Failure.kind])
    | unequal unequal => exact absurd (equal_eq_error unequal).1 (by simp [Failure.kind])
    | objects _ failed =>
        have distinct := (Json.noRepeats_object.mp clean).1
        have distinct' := (Json.noRepeats_object.mp clean').1
        obtain ⟨found, found'⟩ := meetObjects_empty_of_flat
          (Members.distinct_sublist distinct List.filter_sublist)
          (Members.distinct_sublist distinct' List.filter_sublist) flat flat' failed
        have satisfied := satisfies_of_accepts distinct found both.1
        have satisfied' := satisfies_of_accepts distinct' found' both.2
        exact absurd satisfied' (by simp [exclude.apart reading _ _ value satisfied])

def oneOrText : Json :=
  .object [("properties", .object
    [("ab", .object [("enum", .array [.number (.int 1), .string "x"])])])]

def listedTwice : Json :=
  .object [("patternProperties", .object
    [("^a", .object [("enum", .array [.number (.float (.nearest false 1 1)), .number (.int 2)])]),
      ("b$", .object [("enum", .array [.number (.int 2)])])])]

def alwaysNull : Json := .object [("title", .string "Nothing"), ("const", .null)]

def alwaysFalse : Json := .object [("const", .bool false), ("properties", .null)]

theorem listedTwice_excludes :
    meet defaultDepth oneOrText listedTwice =
        .error (.empty "enum" (.array [.number (.int 1)]) (.array [.number (.int 2)])) ∧
      (∀ reading value, ¬(
        accepts reading (.object [("enum", .array [.number (.int 1)])]) value = true ∧
          accepts reading (.object [("enum", .array [.number (.int 2)])]) value = true)) ∧
      meet defaultDepth alwaysNull alwaysFalse = .error (.empty "const" .null (.bool false)) ∧
      alwaysNull.noRepeats = true ∧ alwaysFalse.noRepeats = true ∧ IsFlat alwaysNull ∧ IsFlat alwaysFalse ∧
      ∀ reading value,
        ¬(accepts reading alwaysNull value = true ∧ accepts reading alwaysFalse value = true) := by
  have nested : meet defaultDepth oneOrText listedTwice =
      .error (.empty "enum" (.array [.number (.int 1)]) (.array [.number (.int 2)])) := by
    decide +kernel
  have plain : meet defaultDepth alwaysNull alwaysFalse =
      .error (.empty "const" .null (.bool false)) := by decide +kernel
  have flat : IsFlat alwaysNull ∧ IsFlat alwaysFalse := by decide +kernel
  exact ⟨nested, (meet_empty_excludes defaultDepth nested).2.1, plain, by decide, by decide, flat.1, flat.2,
    (meet_empty_excludes defaultDepth plain).2.2 (by decide) (by decide) flat.1 flat.2⟩

end SchemaMerge.Schema
