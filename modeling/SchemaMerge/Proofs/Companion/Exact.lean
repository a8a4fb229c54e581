import SchemaMerge.Proofs.Companion.Gathered

/-!
The companions of a meet keep their meaning exactly if each schema spares the other: no modifier
comes to a subject that had none and that it changes, and no name becomes evaluated. The meet of two
schemas that do not spare each other is not refused.
-/

namespace SchemaMerge.Schema

open Json (isEqual membersOf)

variable {reading : Reading} {banned : List String} {sub : Json → Json → Bool}
  {first second met : Json}

theorem argument?_noRepeats {schema argument : Json} {keyword : String}
    (clean : schema.noRepeats = true) (found : argument? schema keyword = some argument) :
    argument.noRepeats = true := by
  cases schema with
  | object keywords =>
      have found := (Members.present?_eq_some_iff.mp found).1
      exact (Json.noRepeats_object.mp clean).2 _ (Members.mem_of_get? found)
  | _ => exact absurd found (by simp [argument?, membersOf, Members.present?])

theorem argument?_isFinite {schema argument : Json} {keyword : String}
    (finite : schema.isFinite = true) (found : argument? schema keyword = some argument) :
    argument.isFinite = true := by
  cases schema with
  | object keywords => exact areFinite_of_object finite (Members.present?_eq_some_iff.mp found).1
  | _ => exact absurd found (by simp [argument?, membersOf, Members.present?])

namespace Pair

theorem mem_companions (pair : Pair) : pair.subject ∈ companions ∧ pair.modifier ∈ companions := by
  cases pair <;> decide

theorem reads_congr (pair : Pair) {argument other : Json} (same : sub argument = sub other)
    (modifier : Option Json) (value : Json) :
    pair.reads sub (some argument) modifier value = pair.reads sub (some other) modifier value := by
  have counts : matchCount? sub argument = matchCount? sub other := by
    unfold matchCount?
    rw [same]
  cases pair with
  | tail => simp only [reads, Option.all_some, same]
  | consequence => cases modifier <;> simp only [reads, readsBoth, same]
  | alternative => cases modifier <;> simp only [reads, readsBoth, same]
  | least => rw [reads, reads, readsDefault, readsDefault, Option.all_some, Option.all_some, counts]
  | most => cases modifier <;> simp only [reads, readsBoth, counts]

end Pair

/-- A name that the meet evaluates shows, if a side does not evaluate it and would refuse it. -/
theorem evaluated_of_meets
    (meets : ∀ sub, Respectful sub → AsksBoth (asksUnevaluated sub) first second met) {name : String}
    (evaluated : isEvaluated met name = true) :
    (∀ argument, argument? first "unevaluatedProperties" = some argument →
        isEvaluated first name = true) ∧
      ∀ argument, argument? second "unevaluatedProperties" = some argument →
        isEvaluated second name = true := by
  have single (schema : Json) : asksUnevaluated (fun _ _ => false) schema (.object [(name, .null)]) =
      (argument? schema "unevaluatedProperties").all fun _ => isEvaluated schema name := by
    simp [asksUnevaluated, membersOf]
  have reads := meets (fun _ _ => false) (fun _ _ _ _ _ _ => rfl) (.object [(name, .null)])
  have accepted : (argument? met "unevaluatedProperties").all (fun _ => isEvaluated met name) = true := by
    simp [evaluated]
  rw [single, single, single, accepted] at reads
  obtain ⟨left, right⟩ := Bool.and_eq_true_iff.mp reads.symm
  exact ⟨fun argument known => by simpa [known] using left,
    fun argument known => by simpa [known] using right⟩

namespace Gathers

variable (gathers : Gathers first second met) (clean : first.noRepeats = true)
  (clean' : second.noRepeats = true)

include gathers clean clean'

theorem sides (pair : Pair) : Sides (argument? first pair.subject) (argument? first pair.modifier)
    (argument? second pair.subject) (argument? second pair.modifier) :=
  ⟨gathers.agree _ pair.mem_companions.1, gathers.agree _ pair.mem_companions.2,
    fun _ found => argument?_noRepeats clean found, fun _ found => argument?_noRepeats clean found,
    fun _ found => argument?_noRepeats clean' found, fun _ found => argument?_noRepeats clean' found⟩

theorem asks (spared : Spared first second) (spared' : Spared second first)
    (respectful : Respectful sub) (pair : Pair) : AsksBoth (pair.asks sub) first second met := by
  intro value
  rw [Pair.asks, gathers.companion _ pair.mem_companions.1, gathers.companion _ pair.mem_companions.2]
  exact pair.reads_or (gathers.sides clean clean' pair) respectful (spared.subjects pair)
    (spared'.subjects pair) value

theorem asksUnevaluated (spared : Spared first second) (spared' : Spared second first)
    (respectful : Respectful sub) : AsksBoth (asksUnevaluated sub) first second met := by
  intro value
  have left {argument : Json} (known : argument? first "unevaluatedProperties" = some argument)
      (name : String) : isEvaluated met name = isEvaluated first name := by
    rw [gathers.evaluated]
    exact Bool.or_eq_left_iff_imp.mpr (spared.names argument known name)
  have right {argument : Json} (known : argument? second "unevaluatedProperties" = some argument)
      (name : String) : isEvaluated met name = isEvaluated second name := by
    rw [gathers.evaluated, Bool.or_comm]
    exact Bool.or_eq_left_iff_imp.mpr (spared'.names argument known name)
  unfold Schema.asksUnevaluated
  rw [gathers.companion _ (by decide)]
  cases known : argument? first "unevaluatedProperties" with
  | none =>
      cases known' : argument? second "unevaluatedProperties" with
      | none => rfl
      | some other => simp [right known']
  | some argument =>
      cases known' : argument? second "unevaluatedProperties" with
      | none => simp [left known]
      | some other =>
          have same : sub argument = sub other :=
            respectful.eq (gathers.agree _ (by decide) argument known other known')
              (argument?_noRepeats clean known) (argument?_noRepeats clean' known')
          have evaluated (name : String) : isEvaluated first name = isEvaluated second name :=
            (left known name).symm.trans (right known' name)
          simp [left known, evaluated, same]

theorem spared (finite : first.isFinite = true) (finite' : second.isFinite = true)
    (meets : CompanionsMeet first second met) : Spared first second ∧ Spared second first := by
  have names {name : String} (evaluated : isEvaluated first name = true ∨ isEvaluated second name = true) :=
    evaluated_of_meets meets.unevaluated
      ((gathers.evaluated name).trans (Bool.or_eq_true_iff.mpr evaluated))
  have joined (pair : Pair) {sub : Json → Json → Bool} (respectful : Respectful sub) (value : Json) :
      pair.reads sub ((argument? first pair.subject).or (argument? second pair.subject))
          ((argument? first pair.modifier).or (argument? second pair.modifier)) value =
        (pair.asks sub first value && pair.asks sub second value) := by
    have reads := meets.asks sub respectful pair value
    rwa [Pair.asks, gathers.companion _ pair.mem_companions.1,
      gathers.companion _ pair.mem_companions.2] at reads
  constructor
  · refine ⟨fun pair subject found modifier found' missing => ?_, fun argument known name evaluated =>
      (names (Or.inr evaluated)).1 argument known⟩
    rw [Option.mem_def] at found found'
    apply Pair.Faithful.spares pair (argument?_isFinite finite found) (argument?_isFinite finite' found')
    intro sub respectful value
    have reads := joined pair respectful value
    rwa [Pair.asks, Pair.asks, found, found', missing, Option.some_or, Option.none_or] at reads
  · refine ⟨fun pair subject found modifier found' missing => ?_, fun argument known name evaluated =>
      (names (Or.inl evaluated)).2 argument known⟩
    rw [Option.mem_def] at found found'
    apply Pair.Faithful.spares pair (argument?_isFinite finite' found) (argument?_isFinite finite found')
    intro sub respectful value
    have reads := joined pair respectful value
    rw [Pair.asks, Pair.asks, found, found', missing, Option.some_or, Bool.and_comm] at reads
    rw [← reads]
    cases shared : argument? first pair.subject with
    | none => rfl
    | some other =>
        have same := (gathers.sides clean clean' pair).sub_subjects respectful shared found
        exact pair.reads_congr same.symm _ _

end Gathers

theorem spared_of_empty (empty : membersOf first = [] ∨ membersOf second = []) :
    Spared first second ∧ Spared second first := by
  have left {first second : Json} (empty : membersOf first = []) : Spared first second := by
    refine ⟨fun pair subject found => ?_, fun argument known => ?_⟩
    · rw [argument?_of_empty empty] at found
      exact absurd found (by simp)
    · rw [argument?_of_empty empty] at known
      exact absurd known (by simp)
  have right {first second : Json} (empty : membersOf second = []) : Spared first second := by
    refine ⟨fun pair subject _ modifier found => ?_, fun _ _ name evaluated => ?_⟩
    · rw [argument?_of_empty empty] at found
      exact absurd found (by simp)
    · rw [isEvaluated_of_empty empty] at evaluated
      exact absurd evaluated (by simp)
  rcases empty with empty | empty
  · exact ⟨left empty, right empty⟩
  · exact ⟨right empty, left empty⟩

/-- Schemas spare each other if no modifier of the one comes to a subject of the other, and none of them
asks anything of unevaluated members. -/
theorem spared_of_apart
    (apart : ∀ pair : Pair, argument? first pair.subject = none ∨ argument? first pair.modifier ≠ none ∨
      argument? second pair.modifier = none)
    (unasked : argument? first "unevaluatedProperties" = none) : Spared first second := by
  refine ⟨fun pair subject found modifier found' missing => ?_, fun argument known => ?_⟩
  · rw [Option.mem_def] at found found'
    rcases apart pair with none | present | none
    · exact absurd (found.symm.trans none) (by simp)
    · exact absurd missing present
    · exact absurd (found'.symm.trans none) (by simp)
  · exact absurd (known.symm.trans unasked) (by simp)

theorem accepts_respectful (reading : Reading) : Respectful (accepts reading) :=
  fun _ _ value same clean clean' => congrFun (accepts_congr reading same clean clean') value

theorem not_acceptsTogether (reading : Reading) (sub : Json → Json → Bool) {schema : Json}
    (reject : isReject schema = true) (value : Json) :
    acceptsTogether reading sub schema value = false := by
  cases schema with
  | bool answer =>
      have refused : accepts reading (withoutCompanions (.bool answer)) value = false :=
        not_accepts_of_isReject reject value
      rw [acceptsTogether, refused, Bool.false_and]
  | _ => simp [isReject] at reject

theorem asksBoth_together
    (ordinary : AsksBoth (fun schema => accepts reading (withoutCompanions schema)) first second met)
    (asks : ∀ pair : Pair, AsksBoth (pair.asks sub) first second met)
    (unevaluated : AsksBoth (asksUnevaluated sub) first second met) :
    AsksBoth (acceptsTogether reading sub) first second met := by
  intro value
  have all : pairs.all (fun pair => pair.asks sub met value) =
      (pairs.all (fun pair => pair.asks sub first value) &&
        pairs.all (fun pair => pair.asks sub second value)) := by
    rw [Bool.eq_iff_iff]
    simp only [asks _ value, List.all_eq_true, Bool.and_eq_true, forall_and]
  have plain : accepts reading (withoutCompanions met) value =
      (accepts reading (withoutCompanions first) value &&
        accepts reading (withoutCompanions second) value) := ordinary value
  rw [acceptsTogether, acceptsTogether, acceptsTogether, all, unevaluated value, plain]
  ac_rfl

/-- If two schemas spare each other, their meet accepts exactly what both accept, with the companions
read together; and only then do the companions of the meet ask what those of both schemas ask. -/
theorem meet_acceptsTogether_iff (reading : Reading) (depth : Int)
    (plain : "patternProperties" ∈ banned ∨ "additionalProperties" ∈ banned)
    (formed : WellFormed reading.deep banned first) (formed' : WellFormed reading.deep banned second)
    (made : meet depth first second = .ok met) :
    (Spared first second ∧ Spared second first → ∀ sub, Respectful sub → ∀ value,
      acceptsTogether reading sub met value = true ↔
        acceptsTogether reading sub first value = true ∧
          acceptsTogether reading sub second value = true) ∧
      (CompanionsMeet first second met → Spared first second ∧ Spared second first) := by
  have clean := formed.noRepeats
  have clean' := formed'.noRepeats
  have kept : ∀ key ∈ linkedKeywords, (!companions.contains key) = true := by decide
  have ordinary := meet_restrict kept (Or.inr plain) (levelsOf depth) formed formed' made
  rcases gathers_of_meet (Or.inr plain) (levelsOf depth) formed formed' made with
    ⟨reject, rfl⟩ | ⟨gathers, sides⟩
  · refine ⟨fun _ sub _ value => ?_, fun _ => spared_of_empty ?_⟩
    · rw [not_acceptsTogether reading sub rfl]
      rcases reject with reject | reject
      · simp [not_acceptsTogether reading sub reject]
      · simp [not_acceptsTogether reading sub reject]
    · exact reject.imp membersOf_of_isReject membersOf_of_isReject
  · refine ⟨fun spared sub respectful value => ?_, fun meets => ?_⟩
    · rw [← Bool.and_eq_true, ← Bool.eq_iff_iff]
      exact asksBoth_together (ordinary.eq_and plain)
        (gathers.asks clean clean' spared.1 spared.2 respectful)
        (gathers.asksUnevaluated clean clean' spared.1 spared.2 respectful) value
    · rcases sides with empty | ⟨finite, finite'⟩
      · exact spared_of_empty empty
      · exact gathers.spared clean clean' finite finite' meets

def numberedTexts : Json :=
  .object [("type", .string "array"), ("prefixItems", .array [.object [("type", .string "integer")]]),
    ("items", .object [("type", .string "string")]), ("if", .object [("minItems", .number (.int 3))]),
    ("then", .object [("uniqueItems", .bool true)])]

def fewIntegers : Json :=
  .object [("contains", .object [("type", .string "integer")]), ("minContains", .number (.int 1)),
    ("maxContains", .number (.int 2)), ("maxItems", .number (.int 4))]

def fewNumberedTexts : Json :=
  .object [("type", .string "array"), ("prefixItems", .array [.object [("type", .string "integer")]]),
    ("items", .object [("type", .string "string")]), ("if", .object [("minItems", .number (.int 3))]),
    ("then", .object [("uniqueItems", .bool true)]),
    ("contains", .object [("type", .string "integer")]), ("minContains", .number (.int 1)),
    ("maxContains", .number (.int 2)), ("maxItems", .number (.int 4))]

theorem numberedTexts_meets_fewIntegers :
    WellFormed false ["patternProperties"] numberedTexts ∧
      WellFormed false ["patternProperties"] fewIntegers ∧
      meet defaultDepth numberedTexts fewIntegers = .ok fewNumberedTexts ∧
      (Spared numberedTexts fewIntegers ∧ Spared fewIntegers numberedTexts) ∧
      acceptsTogether (.plain false) (accepts (.plain false)) numberedTexts
        (.array [.number (.int 7), .string "a", .string "b"]) = true ∧
      acceptsTogether (.plain false) (accepts (.plain false)) fewIntegers
        (.array [.number (.int 7), .string "a", .string "b"]) = true ∧
      acceptsTogether (.plain false) (accepts (.plain false)) fewNumberedTexts
        (.array [.number (.int 7), .string "a", .string "b"]) = true := by
  have formed : WellFormed false ["patternProperties"] numberedTexts := ⟨by decide, by decide⟩
  have formed' : WellFormed false ["patternProperties"] fewIntegers := ⟨by decide, by decide⟩
  have made : meet defaultDepth numberedTexts fewIntegers = .ok fewNumberedTexts := by decide +kernel
  have spared : Spared numberedTexts fewIntegers :=
    spared_of_apart (fun pair => by cases pair <;> decide) (by decide)
  have spared' : Spared fewIntegers numberedTexts :=
    spared_of_apart (fun pair => by cases pair <;> decide) (by decide)
  have accepted : acceptsTogether (.plain false) (accepts (.plain false)) numberedTexts
      (.array [.number (.int 7), .string "a", .string "b"]) = true := by decide +kernel
  have accepted' : acceptsTogether (.plain false) (accepts (.plain false)) fewIntegers
      (.array [.number (.int 7), .string "a", .string "b"]) = true := by decide +kernel
  exact ⟨formed, formed', made, ⟨spared, spared'⟩, accepted, accepted',
    ((meet_acceptsTogether_iff (.plain false) defaultDepth (Or.inl (by decide)) formed formed' made).1
      ⟨spared, spared'⟩ _ (accepts_respectful _) _).mpr ⟨accepted, accepted'⟩⟩

def closed : Json := .object [("unevaluatedProperties", .bool false)]

def texted : Json := .object [("properties", .object [("a", .object [("type", .string "string")])])]

def closedTexted : Json :=
  .object [("unevaluatedProperties", .bool false),
    ("properties", .object [("a", .object [("type", .string "string")])])]

/-- The meet accepts a member that one side refuses, as its name is evaluated by the other side. -/
theorem closed_meets_texted :
    WellFormed false ["patternProperties"] closed ∧ WellFormed false ["patternProperties"] texted ∧
      meet defaultDepth closed texted = .ok closedTexted ∧
      acceptsTogether (.plain false) (accepts (.plain false)) closedTexted
        (.object [("a", .string "x")]) = true ∧
      acceptsTogether (.plain false) (accepts (.plain false)) closed
        (.object [("a", .string "x")]) = false :=
  ⟨⟨by decide, by decide⟩, ⟨by decide, by decide⟩, by decide +kernel, by decide +kernel,
    by decide +kernel⟩

end SchemaMerge.Schema
