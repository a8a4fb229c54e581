import SchemaMerge.Proofs.Meet.Merged

namespace SchemaMerge.Schema

variable {reading : Reading} {banned : List String} {first second met : Json}

theorem checkShape_eq_ok {place : String} {value : Json} {done : Unit}
    (made : checkShape place value = .ok done) : isSchema value = true := by
  unfold checkShape at made
  split at made
  · assumption
  · exact absurd made (by simp)

def meetWith (objects : Members → Members → Except Failure Members) : Meeting := fun first second => do
  checkShapes first second
  if isReject first || isReject second then return .bool false
  else if isAccept second then return first
  else if isAccept first then return second
  else if ← equal first second then return first
  else
    let merged ← objects (presentKeywords first) (presentKeywords second)
    return .object merged

theorem meetWithin_succ (levels : Nat) :
    meetWithin (levels + 1) = meetWith (meetObjects (meetWithin levels)) := rfl

theorem exists_object (shaped : isSchema first = true) (noReject : isReject first = false)
    (noAccept : isAccept first = false) : ∃ keywords, first = .object keywords := by
  cases first with
  | bool answer => cases answer <;> simp_all [isReject, isAccept]
  | object keywords => exact ⟨keywords, rfl⟩
  | _ => simp [isSchema] at shaped

/-- The ways in which two schemas meet: one of them rejects everything or accepts everything, they are
equal, or they are two objects that are merged. -/
inductive MeetsBy (objects : Members → Members → Except Failure Members) : Json → Json → Json → Prop
  | rejects {first second : Json} (reject : isReject first = true ∨ isReject second = true) :
      MeetsBy objects first second (.bool false)
  | left {first second : Json} (accept : isAccept second = true) : MeetsBy objects first second first
  | right {first second : Json} (accept : isAccept first = true) : MeetsBy objects first second second
  | same {first second : Json} (compared : equal first second = .ok true) :
      MeetsBy objects first second first
  | merged {keywords others out : Members} (noAccept : isAccept (.object keywords) = false)
      (noAccept' : isAccept (.object others) = false)
      (differ : equal (.object keywords) (.object others) = .ok false)
      (merged : objects (presentKeywords (.object keywords)) (presentKeywords (.object others)) =
        .ok out) : MeetsBy objects (.object keywords) (.object others) (.object out)

theorem meetWith_eq_ok {objects : Members → Members → Except Failure Members}
    (made : meetWith objects first second = .ok met) :
    (isSchema first = true ∧ isSchema second = true) ∧ MeetsBy objects first second met := by
  obtain ⟨_, shaped, made⟩ := bind_eq_ok.mp made
  obtain ⟨_, shape, shape'⟩ := bind_eq_ok.mp shaped
  have shaped := checkShape_eq_ok shape
  have shaped' := checkShape_eq_ok shape'
  refine ⟨⟨shaped, shaped'⟩, ?_⟩
  split at made
  · next reject =>
    obtain rfl := pure_eq_ok.mp made
    exact .rejects (by simpa using reject)
  · next noReject =>
    split at made
    · next accept =>
      obtain rfl := pure_eq_ok.mp made
      exact .left accept
    · next noAccept' =>
      split at made
      · next accept =>
        obtain rfl := pure_eq_ok.mp made
        exact .right accept
      · next noAccept =>
        obtain ⟨answer, compared, made⟩ := bind_eq_ok.mp made
        split at made
        · next same =>
          subst same
          obtain rfl := pure_eq_ok.mp made
          exact .same compared
        · next differs =>
          obtain rfl := Bool.eq_false_of_not_eq_true differs
          obtain ⟨out, merged, made⟩ := bind_eq_ok.mp made
          simp only [Bool.or_eq_true, not_or, Bool.not_eq_true] at noReject noAccept noAccept'
          obtain rfl := pure_eq_ok.mp made
          obtain ⟨keywords, rfl⟩ := exists_object shaped noReject.1 noAccept
          obtain ⟨others, rfl⟩ := exists_object shaped' noReject.2 noAccept'
          exact .merged noAccept noAccept' compared merged

theorem meetWithin_succ_eq_ok {levels : Nat} (made : meetWithin (levels + 1) first second = .ok met) :
    (isSchema first = true ∧ isSchema second = true) ∧
      MeetsBy (meetObjects (meetWithin levels)) first second met :=
  meetWith_eq_ok (meetWithin_succ levels ▸ made)

/-- What holds of the first schema holds of the met one, if it follows from what holds of the second and
is kept where two objects are merged. -/
theorem meetWith_keeps {objects : Members → Members → Except Failure Members} {holds holds' : Json → Prop}
    (made : meetWith objects first second = .ok met) (rejects : holds (.bool false))
    (follows : holds' second → holds second)
    (joined : ∀ {keywords others out},
      objects (presentKeywords (.object keywords)) (presentKeywords (.object others)) = .ok out →
        holds (.object keywords) → holds' (.object others) → holds (.object out))
    (own : holds first) (other : holds' second) : holds met := by
  cases (meetWith_eq_ok made).2 with
  | rejects => exact rejects
  | left => exact own
  | right => exact follows other
  | same => exact own
  | merged _ _ _ merged => exact joined merged own other

theorem not_accepts_of_isReject (reject : isReject first = true) (value : Json) :
    accepts reading first value = false := by
  cases first with
  | bool answer => simpa [isReject, accepts] using reject
  | _ => simp [isReject] at reject

theorem accepts_of_isAccept (accept : isAccept first = true) (value : Json) :
    accepts reading first value = true := by
  cases first with
  | bool answer => simpa [isAccept, accepts] using accept
  | object keywords =>
      obtain rfl : keywords = [] := by simpa [isAccept] using accept
      rw [accepts_object]
      rfl
  | _ => simp [isAccept] at accept

theorem get?_present {keywords : Members} (distinct : keywords.Distinct) {keyword : String}
    (ordinary : nullableKeywords.contains keyword = false) :
    (presentKeywords (.object keywords)).get? keyword = keywords.present? keyword := by
  apply Option.ext
  intro argument
  rw [get?_presentKeywords distinct, Members.present?_eq_some_iff, isAbsent, ordinary]
  simp

theorem covers_present {keywords : Members} (distinct : keywords.Distinct) :
    covers (presentKeywords (.object keywords)) = covers keywords := by
  funext name
  unfold covers isNamed isMatched
  rw [get?_present distinct (by decide), get?_present distinct (by decide), Members.present?,
    Members.present?]
  congr 1
  · cases keywords.get? "properties" with
    | none => rfl
    | some argument => cases argument <;> rfl
  · cases keywords.get? "patternProperties" with
    | none => rfl
    | some argument => cases argument <;> rfl

theorem accepts_present {keywords : Members} (distinct : keywords.Distinct) :
    accepts reading (.object (presentKeywords (.object keywords))) =
      accepts reading (.object keywords) := by
  have distinctPresent := Members.distinct_sublist distinct
    (show (presentKeywords (.object keywords)).Sublist keywords from List.filter_sublist)
  have siblings (keyword : String) (argument value : Json) :
      satisfies reading (presentKeywords (.object keywords)) keyword argument value =
        satisfies reading keywords keyword argument value := by
    unfold satisfies
    rw [covers_present distinct]
  funext value
  rw [Bool.eq_iff_iff, accepts_object_iff reading distinctPresent, accepts_object_iff reading distinct]
  simp only [siblings, get?_presentKeywords distinct]
  constructor
  · intro satisfied keyword argument found
    cases absent : isAbsent keyword argument with
    | true => simp [satisfies, absent]
    | false => exact satisfied keyword argument ⟨found, absent⟩
  · exact fun satisfied keyword argument found => satisfied keyword argument found.1

theorem meetWithin_meets (answer : Json → Json → Bool) {exactly : Prop} {levels : Nat}
    (made : meetWithin (levels + 1) first second = .ok met)
    (rejects : ∀ {schema}, isReject schema = true → ∀ value, answer schema value = false)
    (accepts : ∀ {schema}, isAccept schema = true → ∀ value, answer schema value = true)
    (same : Json.isEqual first second = true → answer first = answer second)
    (objects : ∀ {keywords others out}, first = .object keywords → second = .object others →
      first.isFinite = true → second.isFinite = true →
      meetObjects (meetWithin levels) (presentKeywords first) (presentKeywords second) = .ok out →
        IsMeet exactly (answer first) (answer second) (answer (.object out))) :
    IsMeet exactly (answer first) (answer second) (answer met) := by
  cases (meetWithin_succ_eq_ok made).2 with
  | rejects reject =>
      refine .of_both fun value => ?_
      rcases reject with reject | reject
      · rw [rejects reject, rejects rfl, Bool.false_and]
      · rw [rejects reject, rejects rfl, Bool.and_false]
  | left accept => exact .of_left fun value _ => accepts accept value
  | right accept => exact .of_right fun value _ => accepts accept value
  | same compared =>
      refine .of_left fun value accepted => ?_
      rwa [← same (Json.isEqual_of_equal (finitely_eq_ok.mp compared))]
  | merged _ _ differ merged =>
      obtain ⟨finite, finite', -⟩ := Json.equal_eq_ok.mp (finitely_eq_ok.mp differ)
      exact objects rfl rfl finite finite' merged

theorem present_finite {keywords : Members} (formed : WellFormed reading.deep banned (.object keywords))
    (finite : (Json.object keywords).isFinite = true) :
    AreFinite (presentKeywords (.object keywords)) := by
  intro keyword argument found
  have distinct := (Json.noRepeats_object.mp formed.noRepeats).1
  exact areFinite_of_object finite ((get?_presentKeywords distinct).mp found).1

theorem sound_meetWithin (reading : Reading) (countable : "oneOf" ∈ banned ∨ IsExact banned)
    (levels : Nat) : Sound reading banned (meetWithin levels) := by
  induction levels with
  | zero =>
      have fails {first second met : Json} (made : meetWithin 0 first second = .ok met) : False := by
        obtain ⟨_, _, wrong⟩ := bind_eq_ok.mp made
        exact absurd wrong (by simp)
      exact ⟨fun made => (fails made).elim, fun made => (fails made).elim, fun made => (fails made).elim⟩
  | succ levels ih =>
      have objects {keywords others out : Members}
          (formed : WellFormed reading.deep banned (.object keywords))
          (formed' : WellFormed reading.deep banned (.object others))
          (finite : (Json.object keywords).isFinite = true)
          (finite' : (Json.object others).isFinite = true)
          (merged : meetObjects (meetWithin levels) (presentKeywords (.object keywords))
            (presentKeywords (.object others)) = .ok out) :
          WellFormed reading.deep banned (.object out) ∧ IsMeet (IsExact banned)
            (accepts reading (.object keywords)) (accepts reading (.object others))
            (accepts reading (.object out)) := by
        obtain ⟨formedOut, meet⟩ := meetObjects_meets ih countable (arguments_of_wellFormed formed)
          (arguments_of_wellFormed formed') (present_finite formed finite)
          (present_finite formed' finite') merged
        rw [accepts_present (Json.noRepeats_object.mp formed.noRepeats).1,
          accepts_present (Json.noRepeats_object.mp formed'.noRepeats).1] at meet
        exact ⟨wellFormed_of_arguments formedOut, meet⟩
      refine ⟨fun made => (meetWithin_succ_eq_ok made).1, fun made formed formed' => ?_,
        fun made formed formed' => ?_⟩
      · cases (meetWithin_succ_eq_ok made).2 with
        | rejects => exact ⟨rfl, rfl⟩
        | left => exact formed
        | right => exact formed'
        | same => exact formed
        | merged _ _ differ merged =>
            obtain ⟨finite, finite', -⟩ := Json.equal_eq_ok.mp (finitely_eq_ok.mp differ)
            exact (objects formed formed' finite finite' merged).1
      · refine meetWithin_meets (accepts reading) made not_accepts_of_isReject accepts_of_isAccept ?_ ?_
        · exact fun same => accepts_congr reading same formed.noRepeats formed'.noRepeats
        · rintro keywords others out rfl rfl finite finite' merged
          exact (objects formed formed' finite finite' merged).2

/-- Two schemas meet in one that accepts exactly what both accept, if they do not use patterns
together with additional properties. -/
theorem meet_accepts_iff (reading : Reading) (depth : Int)
    (plain : "patternProperties" ∈ banned ∨ "additionalProperties" ∈ banned)
    (formed : WellFormed reading.deep banned first) (formed' : WellFormed reading.deep banned second)
    (made : meet depth first second = .ok met) (value : Json) :
    accepts reading met value = true ↔
      accepts reading first value = true ∧ accepts reading second value = true := by
  have meet := (sound_meetWithin reading (Or.inr plain) (levelsOf depth)).meets made formed formed'
  exact ⟨meet.narrow, fun both => meet.full plain both.1 both.2⟩

def counted : Json :=
  .object [("type", .string "object"),
    ("properties", .object
      [("count", .object [("type", .string "integer"), ("minimum", .number (.int 1))])]),
    ("additionalProperties", .object [("type", .string "string")])]

def labelled : Json :=
  .object [("required", .array [.string "label"]),
    ("properties", .object [("label", .object [("minLength", .number (.int 2))])]),
    ("additionalProperties", .object [("oneOf", .array [.object [("type", .string "number")],
      .object [("type", .string "string"), ("maxLength", .number (.int 4))]])])]

def countedAndLabelled : Json :=
  .object [("type", .string "object"),
    ("properties", .object
      [("count", .object [("type", .string "integer"), ("minimum", .number (.int 1)),
        ("oneOf", .array [.object [("type", .string "number")],
          .object [("type", .string "string"), ("maxLength", .number (.int 4))]])]),
      ("label", .object [("minLength", .number (.int 2)), ("type", .string "string")])]),
    ("additionalProperties", .object [("type", .string "string"),
      ("oneOf", .array [.object [("type", .string "number")],
        .object [("type", .string "string"), ("maxLength", .number (.int 4))]])]),
    ("required", .array [.string "label"])]

theorem counted_meets_labelled :
    WellFormed false ["patternProperties"] counted ∧ WellFormed false ["patternProperties"] labelled ∧
      meet defaultDepth counted labelled = .ok countedAndLabelled ∧
      accepts (.plain false) countedAndLabelled
        (.object [("count", .number (.int 3)), ("label", .string "ab")]) = true ∧
      (accepts (.plain false) countedAndLabelled
          (.object [("count", .number (.int 3)), ("label", .string "ab")]) = true ↔
        accepts (.plain false) counted
            (.object [("count", .number (.int 3)), ("label", .string "ab")]) = true ∧
          accepts (.plain false) labelled
            (.object [("count", .number (.int 3)), ("label", .string "ab")]) = true) := by
  have formed : WellFormed false ["patternProperties"] counted := ⟨by decide, by decide⟩
  have formed' : WellFormed false ["patternProperties"] labelled := ⟨by decide, by decide⟩
  have made : meet defaultDepth counted labelled = .ok countedAndLabelled := by decide +kernel
  exact ⟨formed, formed', made, by decide +kernel,
    meet_accepts_iff (.plain false) defaultDepth (Or.inl (by decide)) formed formed' made _⟩

/-- Two schemas without `oneOf` meet in one that accepts only what both accept. -/
theorem accepts_of_meet (reading : Reading) (depth : Int) (countless : "oneOf" ∈ banned)
    (formed : WellFormed reading.deep banned first) (formed' : WellFormed reading.deep banned second)
    (made : meet depth first second = .ok met) {value : Json}
    (accepted : accepts reading met value = true) :
    accepts reading first value = true ∧ accepts reading second value = true :=
  ((sound_meetWithin reading (Or.inl countless) (levelsOf depth)).meets made formed formed').narrow
    accepted

def prefixed : Json :=
  .object [("patternProperties", .object [("^a", .object [("type", .string "integer")])]),
    ("additionalProperties", .bool false)]

def suffixed : Json :=
  .object [("properties", .object [("ab", .object [("minimum", .number (.int 2))])]),
    ("patternProperties", .object [("b$", .object [("maximum", .number (.int 9))])])]

def prefixedAndSuffixed : Json :=
  .object [("patternProperties", .object
      [("^a", .object [("type", .string "integer")]), ("b$", .bool false)]),
    ("additionalProperties", .bool false),
    ("properties", .object [("ab", .object [("minimum", .number (.int 2)), ("type", .string "integer")])])]

theorem prefixed_meets_suffixed :
    WellFormed false ["oneOf"] prefixed ∧ WellFormed false ["oneOf"] suffixed ∧
      meet defaultDepth prefixed suffixed = .ok prefixedAndSuffixed ∧
      accepts (.plain false) prefixedAndSuffixed (.object [("ac", .number (.int 3))]) = true ∧
      accepts (.plain false) prefixed (.object [("ac", .number (.int 3))]) = true ∧
      accepts (.plain false) suffixed (.object [("ac", .number (.int 3))]) = true := by
  have formed : WellFormed false ["oneOf"] prefixed := ⟨by decide, by decide⟩
  have formed' : WellFormed false ["oneOf"] suffixed := ⟨by decide, by decide⟩
  have made : meet defaultDepth prefixed suffixed = .ok prefixedAndSuffixed := by decide +kernel
  have accepted :
      accepts (.plain false) prefixedAndSuffixed (.object [("ac", .number (.int 3))]) = true := by
    decide +kernel
  exact ⟨formed, formed', made, accepted,
    accepts_of_meet (.plain false) defaultDepth (by decide) formed formed' made accepted⟩

end SchemaMerge.Schema
