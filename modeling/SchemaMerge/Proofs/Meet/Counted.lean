import Mathlib.Data.List.ProdSigma
import SchemaMerge.Proofs.Meet.Spared

/-!
How many schemas of a merged `oneOf` accept a value. A single schema that meets each of several
alternatives leaves an alternative that accepts the value where it was, as long as the patterns of
the two spare the members of the value; an alternative that loses the value is not counted any more,
and then the merged list may accept what one of the two lists rejects.
-/

namespace SchemaMerge.Schema

open Json (membersOf)
open PropertySpace (Spares)

def acceptances (reading : Reading) (schemas : List Json) (value : Json) : Nat :=
  (schemas.map (accepts reading · value)).count true

def IsShared (reading : Reading) (value : Json) (pair : Json × Json) : Prop :=
  (accepts reading pair.1 value = true ∧ accepts reading pair.2 value = true) ∧
    SparesMembers reading pair.1 pair.2 value

/-- A value is lost to two lists if two schemas of them accept it, but do not spare its members. -/
def Loses (reading : Reading) (schemas others : List Json) (value : Json) : Prop :=
  ∃ schema ∈ schemas, ∃ other ∈ others,
    (accepts reading schema value = true ∧ accepts reading other value = true) ∧
      ¬SparesMembers reading schema other value

instance (reading : Reading) (first second : PropertySpace) (name : String) (value : Json) :
    Decidable (Spares reading first second name value) :=
  decidable_of_iff
    (∀ member ∈ first.patterns, ∀ schema ∈ first.patterns.present? member.1,
      second.patterns.present? member.1 = none → occurs member.1 name = true →
        PropertySpace.asks reading second.additional value = true)
    (forall_present?_iff first.patterns fun pattern _ =>
      second.patterns.present? pattern = none → occurs pattern name = true →
        PropertySpace.asks reading second.additional value = true).symm

instance (reading : Reading) (first second value : Json) :
    Decidable (SparesMembers reading first second value) :=
  inferInstanceAs (Decidable (∀ member ∈ membersOf value, _ ∧ _))

instance (reading : Reading) (value : Json) (pair : Json × Json) :
    Decidable (IsShared reading value pair) :=
  inferInstanceAs (Decidable (_ ∧ _))

instance (reading : Reading) (schemas others : List Json) (value : Json) :
    Decidable (Loses reading schemas others value) :=
  inferInstanceAs (Decidable (∃ schema ∈ schemas, ∃ other ∈ others, _ ∧ _))

variable {reading : Reading} {inner : String} {depth : Int} {single value met : Json}
  {alternatives schemas others mets : List Json}

theorem isShared_swap (first second : Json) :
    IsShared reading value (first, second) ↔ IsShared reading value (second, first) := by
  have one_way (first second : Json) (shared : IsShared reading value (first, second)) :
      IsShared reading value (second, first) := ⟨shared.1.symm, shared.2.symm⟩
  exact ⟨one_way first second, one_way second first⟩

theorem acceptances_cons (schema : Json) (schemas : List Json) (value : Json) :
    acceptances reading (schema :: schemas) value =
      acceptances reading schemas value + if accepts reading schema value = true then 1 else 0 := by
  simp [acceptances, List.count_cons]

/-- Of the meets with a single schema, those accept a value whose alternative shares it. -/
theorem acceptances_of_meets (plain : inner = "patternProperties" ∨ inner = "additionalProperties")
    (related : List.Forall₂ (fun schema met => meet depth schema single = .ok met) alternatives mets)
    (shallow : ∀ schema ∈ alternatives, IsShallow reading.deep inner schema)
    (shallow' : IsShallow reading.deep inner single) (value : Json) :
    acceptances reading mets value =
      alternatives.countP fun schema => IsShared reading value (schema, single) := by
  induction related with
  | nil => rfl
  | @cons schema met _ _ made _ ih =>
      obtain ⟨head, tail⟩ := List.forall_mem_cons.mp shallow
      have accepted : accepts reading met value = decide (IsShared reading value (schema, single)) := by
        rw [Bool.eq_iff_iff, decide_eq_true_iff]
        exact meet_accepts_iff_spares reading depth plain head shallow' made value
      rw [acceptances_cons, List.countP_cons, ih tail, accepted]

theorem product_single {α β : Type} (items : List α) (single : β) :
    items ×ˢ [single] = items.map fun item => (item, single) := by
  induction items with
  | nil => rfl
  | cons item rest ih => rw [List.product_cons, ih]; rfl

theorem acceptances_distributed (plain : inner = "patternProperties" ∨ inner = "additionalProperties")
    (shallow : ∀ schema ∈ schemas, IsShallow reading.deep inner schema)
    (shallow' : ∀ other ∈ others, IsShallow reading.deep inner other)
    (made : distribute (meet depth) "oneOf" schemas others = .ok mets) (value : Json) :
    acceptances reading mets value =
      (schemas ×ˢ others).countP fun pair => IsShared reading value pair := by
  obtain ⟨single, alternatives, sides, related⟩ := distribute_eq_ok made
  rcases sides with ⟨rfl, rfl⟩ | ⟨rfl, rfl⟩
  · rw [acceptances_of_meets plain related shallow' (shallow single (by simp)), List.product_cons,
      List.nil_product, List.append_nil, List.countP_map]
    simp only [Function.comp_def, isShared_swap]
  · rw [acceptances_of_meets plain related shallow (shallow' single (by simp)), product_single,
      List.countP_map]
    rfl

theorem countP_product {α β : Type} (items : List α) (others : List β) (left : α → Bool)
    (right : β → Bool) :
    (items ×ˢ others).countP (fun pair => left pair.1 && right pair.2) =
      items.countP left * others.countP right := by
  induction items with
  | nil => simp
  | cons item rest ih =>
      rw [List.product_cons, List.countP_append, List.countP_map, ih, List.countP_cons, Nat.add_mul,
        Nat.add_comm]
      cases accepted : left item <;> simp [Function.comp_def, accepted]

theorem acceptances_eq_countP (schemas : List Json) (value : Json) :
    acceptances reading schemas value = schemas.countP (accepts reading · value) := by
  rw [acceptances, List.count, List.countP_map]
  simp [Function.comp_def]

theorem countP_shared (kept : ¬Loses reading schemas others value) :
    (schemas ×ˢ others).countP (fun pair => IsShared reading value pair) =
      acceptances reading schemas value * acceptances reading others value := by
  rw [acceptances_eq_countP, acceptances_eq_countP, ← countP_product]
  apply List.countP_congr
  rintro ⟨schema, other⟩ inside
  obtain ⟨listed, listed'⟩ := List.mem_product.mp inside
  rw [decide_eq_true_iff, Bool.and_eq_true]
  constructor
  · exact And.left
  · intro both
    by_contra missing
    exact kept ⟨schema, listed, other, listed', both, fun spared => missing ⟨both, spared⟩⟩

/-- Exactly one schema of a merged `oneOf` accepts a value just where exactly one schema of each list
does, if the lists are the same but for their order, or the value is not lost. Of lists that are
distributed, as many schemas accept a value as there are pairs that share it. -/
theorem oneOf_counts (reading : Reading) (depth : Int)
    (plain : inner = "patternProperties" ∨ inner = "additionalProperties")
    (shallow : ∀ schema ∈ schemas, IsShallow reading.deep inner schema)
    (shallow' : ∀ other ∈ others, IsShallow reading.deep inner other)
    (made : oneOf (meet depth) (.array schemas) (.array others) = .ok met) :
    ∃ mets, met = .array mets ∧ ∀ value,
      (isPermutation schemas others = .ok true ∨ ¬Loses reading schemas others value →
        (acceptances reading mets value = 1 ↔
          acceptances reading schemas value = 1 ∧ acceptances reading others value = 1)) ∧
      (isPermutation schemas others = .ok false → acceptances reading mets value =
        (schemas ×ˢ others).countP fun pair => IsShared reading value pair) := by
  rcases oneOf_chooses made with ⟨permutation, rfl⟩ | ⟨differ, mets, distributed, rfl⟩
  · have counts (value : Json) : acceptances reading schemas value = acceptances reading others value :=
      count_of_permutation permutation (fun schema inside => (shallow schema inside).formed.noRepeats)
        (fun schema inside => (shallow' schema inside).formed.noRepeats) value
    -- the list is kept as it is, even where two of its schemas would lose the value
    refine ⟨schemas, rfl, fun value => ⟨fun _ => ?_, fun differ => ?_⟩⟩
    · rw [counts value, and_self]
    · rw [permutation] at differ
      cases differ
  · have counts := acceptances_distributed plain shallow shallow' distributed
    refine ⟨mets, rfl, fun value => ⟨fun kept => ?_, fun _ => counts value⟩⟩
    rcases kept with permutation | kept
    · rw [permutation] at differ
      cases differ
    · rw [counts value, countP_shared kept, mul_eq_one]

def namedIntegers : List Json :=
  [.object [("patternProperties", .object [("^a", .object [("type", .string "integer")])])]]

def limitedSizes : List Json :=
  [.object [("properties", .object [("b", .object [("type", .string "string")])]),
      ("additionalProperties", .object [("minimum", .number (.int 1))])],
    .object [("properties", .object [("ab", .object [("maximum", .number (.int 0))])])]]

def namedIntegerSizes : List Json :=
  [.object [("properties", .object [("b", .object [("type", .string "string")])]),
      ("additionalProperties", .object [("minimum", .number (.int 1))]),
      ("patternProperties", .object
        [("^a", .object [("type", .string "integer"), ("minimum", .number (.int 1))])])],
    .object [("properties", .object
        [("ab", .object [("maximum", .number (.int 0)), ("type", .string "integer")])]),
      ("patternProperties", .object [("^a", .object [("type", .string "integer")])])]]

theorem namedIntegers_meet_limitedSizes :
    ((∀ schema ∈ namedIntegers, IsShallow false "additionalProperties" schema) ∧
        (∀ schema ∈ limitedSizes, IsShallow false "additionalProperties" schema) ∧
      oneOf (meet defaultDepth) (.array namedIntegers) (.array limitedSizes) =
        .ok (.array namedIntegerSizes)) ∧
    (isPermutation namedIntegers limitedSizes = .ok false ∧
      ¬Loses (.plain false) namedIntegers limitedSizes (.object [("ab", .number (.int 3))])) ∧
    (acceptances (.plain false) namedIntegerSizes (.object [("ab", .number (.int 3))]) = 1 ↔
      acceptances (.plain false) namedIntegers (.object [("ab", .number (.int 3))]) = 1 ∧
        acceptances (.plain false) limitedSizes (.object [("ab", .number (.int 3))]) = 1) ∧
    acceptances (.plain false) namedIntegerSizes (.object [("ab", .number (.int 3))]) = 1 := by
  have shallow : ∀ schema ∈ namedIntegers, IsShallow false "additionalProperties" schema := by decide
  have shallow' : ∀ schema ∈ limitedSizes, IsShallow false "additionalProperties" schema := by decide
  have made : oneOf (meet defaultDepth) (.array namedIntegers) (.array limitedSizes) =
      .ok (.array namedIntegerSizes) := by decide +kernel
  have kept : ¬Loses (.plain false) namedIntegers limitedSizes (.object [("ab", .number (.int 3))]) := by
    decide +kernel
  obtain ⟨_, is, counts⟩ :=
    oneOf_counts (.plain false) defaultDepth (Or.inr rfl) shallow shallow' made
  obtain rfl := Json.array.inj is
  exact ⟨⟨shallow, shallow', made⟩, ⟨by decide +kernel, kept⟩, (counts _).1 (Or.inr kept),
    by decide +kernel⟩

def integersAnywhere : List Json :=
  [.object [("patternProperties", .object [("a", .object [("type", .string "integer")])])]]

def closedOrOpen : List Json :=
  [.object [("properties", .object [("a", .object [])]), ("additionalProperties", .bool false)],
    .object [("type", .string "object")]]

def closedOrOpenIntegers : List Json :=
  [.object [("properties", .object [("a", .object [("type", .string "integer")])]),
      ("additionalProperties", .bool false), ("patternProperties", .object [("a", .bool false)])],
    .object [("type", .string "object"),
      ("patternProperties", .object [("a", .object [("type", .string "integer")])])]]

/-- A value that two of the alternatives accept is lost to one of them, and accepted after the merge. -/
theorem closedAlternative_is_lost :
    ((∀ schema ∈ integersAnywhere, IsShallow false "additionalProperties" schema) ∧
        (∀ schema ∈ closedOrOpen, IsShallow false "additionalProperties" schema) ∧
      oneOf (meet defaultDepth) (.array integersAnywhere) (.array closedOrOpen) =
        .ok (.array closedOrOpenIntegers)) ∧
    (acceptances (.plain false) integersAnywhere (.object [("a", .number (.int 1))]) = 1 ∧
      acceptances (.plain false) closedOrOpen (.object [("a", .number (.int 1))]) = 2) ∧
    acceptances (.plain false) closedOrOpenIntegers (.object [("a", .number (.int 1))]) = 1 := by
  refine ⟨⟨?_, ?_, ?_⟩, ⟨?_, ?_⟩, ?_⟩ <;> decide +kernel

end SchemaMerge.Schema
