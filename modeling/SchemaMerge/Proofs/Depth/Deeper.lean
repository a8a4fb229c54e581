import SchemaMerge.Proofs.Outcome
import SchemaMerge.Schema.Meet

namespace SchemaMerge.Schema

/-- An outcome under a limit, and that under a greater one: they are the same, unless the first is that
schemas are nested too deeply. -/
def Extends {α : Type} (outcome deeper : Except Failure α) : Prop :=
  outcome ≠ .error .depth → deeper = outcome

def Deepens (recur deeper : Meeting) : Prop :=
  ∀ first second, Extends (recur first second) (deeper first second)

namespace Extends

variable {α β : Type}

theorem refl (outcome : Except Failure α) : Extends outcome outcome := fun _ => rfl

theorem of_depth (deeper : Except Failure α) : Extends (.error .depth) deeper :=
  fun settled => absurd rfl settled

theorem bind {outcome deeper : Except Failure α} {next next' : α → Except Failure β}
    (head : Extends outcome deeper) (tail : ∀ value, Extends (next value) (next' value)) :
    Extends (outcome >>= next) (deeper >>= next') := by
  intro settled
  have own : outcome ≠ .error .depth := by
    intro failed
    apply settled
    exact bind_eq_error.mpr (Or.inl failed)
  rw [head own]
  cases outcome with
  | error failure => rfl
  | ok value => exact tail value settled

theorem ite {condition : Prop} [Decidable condition] {outcome deeper other other' : Except Failure α}
    (yes : Extends outcome deeper) (no : Extends other other') :
    Extends (if condition then outcome else other) (if condition then deeper else other') := by
  split
  · exact yes
  · exact no

theorem mapM {action action' : α → Except Failure β}
    (each : ∀ item, Extends (action item) (action' item)) (items : List α) :
    Extends (items.mapM action) (items.mapM action') := by
  induction items with
  | nil => exact refl _
  | cons item rest ih =>
      rw [List.mapM_cons, List.mapM_cons]
      apply bind (each item)
      intro first
      apply bind ih
      intro others
      exact refl _

theorem foldlM {step step' : β → α → Except Failure β}
    (each : ∀ reached item, Extends (step reached item) (step' reached item)) (items : List α)
    (start : β) : Extends (items.foldlM step start) (items.foldlM step' start) := by
  induction items generalizing start with
  | nil => exact refl _
  | cons item rest ih =>
      rw [List.foldlM_cons, List.foldlM_cons]
      apply bind (each start item)
      intro next
      exact ih next

end Extends

variable {recur deeper : Meeting} (deepens : Deepens recur deeper)
include deepens

theorem distribute_extends (keyword : String) (first second : List Json) :
    Extends (distribute recur keyword first second) (distribute deeper keyword first second) := by
  unfold distribute
  split
  · next single => exact Extends.mapM (fun schema => deepens schema single) _
  · next single _ => exact Extends.mapM (fun schema => deepens schema single) _
  · exact .refl _

theorem anyOf_extends (first second : Json) :
    Extends (anyOf recur first second) (anyOf deeper first second) := by
  have distributed (schemas others : List Json) (whole : Json) (answer : Bool) :
      Extends (do
        if answer = true then return whole
        return .array (← distribute recur "anyOf" schemas others)) (do
        if answer = true then return whole
        return .array (← distribute deeper "anyOf" schemas others)) := by
    apply Extends.ite (.refl _)
    apply Extends.bind (distribute_extends deepens "anyOf" schemas others)
    intro mets
    exact .refl _
  unfold anyOf
  apply Extends.bind (.refl _)
  intro schemas
  apply Extends.bind (.refl _)
  intro others
  apply Extends.ite
  · exact Extends.bind (.refl _) (distributed schemas others first)
  · exact Extends.bind (.refl _) (distributed schemas others second)

theorem oneOf_extends (first second : Json) :
    Extends (oneOf recur first second) (oneOf deeper first second) := by
  unfold oneOf
  apply Extends.bind (.refl _)
  intro schemas
  apply Extends.bind (.refl _)
  intro others
  apply Extends.bind (.refl _)
  intro answer
  apply Extends.ite (.refl _)
  apply Extends.bind (distribute_extends deepens "oneOf" schemas others)
  intro mets
  exact .refl _

namespace PropertySpace

theorem meetEntry_extends (space : PropertySpace) (name : String) (entry : Json) :
    Extends (meetEntry recur space name entry) (meetEntry deeper space name entry) := by
  unfold meetEntry
  split
  · next other _ => exact deepens entry other
  · apply Extends.bind (.refl _)
    intro schemas
    split
    · exact .refl _
    · next other _ => exact deepens entry other
    · exact Extends.foldlM deepens _ entry

theorem meetEntries_extends (space : PropertySpace) (merged entries : Members) :
    Extends (meetEntries recur space merged entries) (meetEntries deeper space merged entries) := by
  induction entries generalizing merged with
  | nil => exact .refl _
  | cons member rest ih =>
      obtain ⟨name, entry⟩ := member
      by_cases null : entry = .null
      · subst null
        exact ih merged
      · rw [meetEntries.eq_3 _ _ _ _ _ _ (fun is => null is),
          meetEntries.eq_3 _ _ _ _ _ _ (fun is => null is)]
        apply Extends.ite (ih merged)
        apply Extends.bind (meetEntry_extends deepens space name entry)
        intro met
        exact ih _

theorem meetNamed_extends (first second : PropertySpace) :
    Extends (meetNamed recur first second) (meetNamed deeper first second) := by
  unfold meetNamed
  apply Extends.bind (meetEntries_extends deepens second [] first.properties)
  intro merged
  exact meetEntries_extends deepens first merged second.properties

end PropertySpace

theorem meetProperties_extends (first second : Members) :
    Extends (meetProperties recur first second) (meetProperties deeper first second) := by
  unfold meetProperties
  apply Extends.bind (.refl _)
  intro space
  apply Extends.bind (.refl _)
  intro other
  apply Extends.bind (PropertySpace.meetNamed_extends deepens space other)
  intro properties
  apply Extends.bind (PropertySpace.meetNamed_extends deepens space.ofPatterns other.ofPatterns)
  intro patterns
  exact .refl _

theorem combine_extends (keyword : String) (first second : Json) :
    Extends (combine recur keyword first second) (combine deeper keyword first second) := by
  unfold combine
  split
  · exact deepens first second
  · exact anyOf_extends deepens first second
  · exact oneOf_extends deepens first second
  · exact deepens first second
  · exact .refl _

theorem meetKeywords_extends (merged keywords : Members) :
    Extends (meetKeywords recur merged keywords) (meetKeywords deeper merged keywords) := by
  induction keywords generalizing merged with
  | nil => exact .refl _
  | cons member rest ih =>
      obtain ⟨keyword, argument⟩ := member
      rw [meetKeywords, meetKeywords]
      apply Extends.ite (ih merged)
      split
      · exact ih _
      · next present _ =>
        apply Extends.bind (.refl _)
        intro answer
        apply Extends.ite (ih merged)
        apply Extends.bind (combine_extends deepens keyword present argument)
        intro combined
        exact ih _

theorem meetObjects_extends (first second : Members) :
    Extends (meetObjects recur first second) (meetObjects deeper first second) := by
  unfold meetObjects
  apply Extends.bind (meetProperties_extends deepens _ _)
  intro named
  apply Extends.bind (meetKeywords_extends deepens _ _)
  intro merged
  exact .refl _

omit deepens

theorem meetWithin_deepens {levels levels' : Nat} (more : levels ≤ levels') :
    Deepens (meetWithin levels) (meetWithin levels') := by
  induction levels generalizing levels' with
  | zero =>
      intro first second
      rw [meetWithin.eq_1]
      cases shaped : checkShapes first second with
      | ok _ => exact .of_depth _
      | error failure =>
          intro _
          cases levels' with
          | zero => rw [meetWithin.eq_1, shaped]
          | succ below =>
              rw [meetWithin, shaped]
              rfl
  | succ levels ih =>
      intro first second
      obtain ⟨below, rfl⟩ : ∃ below, levels' = below + 1 := ⟨levels' - 1, by omega⟩
      have inner : Deepens (meetWithin levels) (meetWithin below) := ih (by omega)
      rw [meetWithin, meetWithin]
      apply Extends.bind (.refl _)
      intro _
      apply Extends.ite (.refl _)
      apply Extends.ite (.refl _)
      apply Extends.ite (.refl _)
      apply Extends.bind (.refl _)
      intro answer
      apply Extends.ite (.refl _)
      apply Extends.bind (meetObjects_extends inner _ _)
      intro merged
      exact .refl _

/-- Under a greater limit two schemas, two lists of alternatives and the properties of two objects have
the outcome that they have under a limit that is enough for them. -/
theorem meet_deeper {depth depth' : Int} (more : depth ≤ depth') :
    (∀ first second, meet depth first second ≠ .error .depth →
        meet depth' first second = meet depth first second) ∧
      (∀ first second, anyOf (meet depth) first second ≠ .error .depth →
        anyOf (meet depth') first second = anyOf (meet depth) first second) ∧
      (∀ first second, oneOf (meet depth) first second ≠ .error .depth →
        oneOf (meet depth') first second = oneOf (meet depth) first second) ∧
      ∀ first second, meetProperties (meet depth) first second ≠ .error .depth →
        meetProperties (meet depth') first second = meetProperties (meet depth) first second := by
  have levels : levelsOf depth ≤ levelsOf depth' := by
    unfold levelsOf
    omega
  have deepens : Deepens (meet depth) (meet depth') := meetWithin_deepens levels
  exact ⟨deepens, anyOf_extends deepens, oneOf_extends deepens, meetProperties_extends deepens⟩

def limitedId : Members :=
  [("properties", .object [("id", .object [("maximum", .number (.int 9))])]),
    ("oneOf", .array [.object [("required", .array [.string "id"])]])]

def prefixedNumber : Members :=
  [("patternProperties", .object [("^i", .object [("type", .string "number")])]),
    ("oneOf", .array [.object [("minProperties", .number (.int 1))], .bool false])]

def constantId (constant : Json) : Members :=
  [("properties", .object [("id", .object [("const", constant)])])]

def limitedAndPrefixed : Members :=
  [("properties", .object [("id",
      .object [("maximum", .number (.int 9)), ("type", .string "number")])]),
    ("oneOf", .array [.object [("minProperties", .number (.int 1)), ("required", .array [.string "id"])],
      .bool false]),
    ("patternProperties", .object [("^i", .object [("type", .string "number")])])]

theorem limitedId_meets_prefixedNumber :
    meet 0 (.object limitedId) (.object prefixedNumber) = .error .depth ∧
      meet 1 (.object limitedId) (.object prefixedNumber) ≠ .error .depth ∧
      meet defaultDepth (.object limitedId) (.object prefixedNumber) = .ok (.object limitedAndPrefixed) ∧
      meet 1 (.object (constantId .null)) (.object (constantId (.bool false))) ≠ .error .depth ∧
      meet defaultDepth (.object (constantId .null)) (.object (constantId (.bool false))) =
        .error (.empty "const" .null (.bool false)) ∧
      anyOf (meet 1) (.array [.object limitedId, .bool true]) (.array [.bool false]) ≠ .error .depth ∧
      anyOf (meet defaultDepth) (.array [.object limitedId, .bool true]) (.array [.bool false]) =
        .ok (.array [.bool false, .bool false]) ∧
      oneOf (meet 1) (.array [.bool true]) (.array [.object prefixedNumber]) ≠ .error .depth ∧
      oneOf (meet defaultDepth) (.array [.bool true]) (.array [.object prefixedNumber]) =
        .ok (.array [.object prefixedNumber]) ∧
      meetProperties (meet 1) limitedId (constantId .null) ≠ .error .depth ∧
      meetProperties (meet defaultDepth) limitedId (constantId .null) = .ok
        ([("id", .object [("maximum", .number (.int 9)), ("const", .null)])], []) := by
  have more : (1 : Int) ≤ defaultDepth := by decide
  obtain ⟨schemas, anyOfs, oneOfs, properties⟩ := meet_deeper more
  have merges : meet 1 (.object limitedId) (.object prefixedNumber) = .ok (.object limitedAndPrefixed) := by
    decide +kernel
  have fails : meet 1 (.object (constantId .null)) (.object (constantId (.bool false))) =
      .error (.empty "const" .null (.bool false)) := by decide +kernel
  have either : anyOf (meet 1) (.array [.object limitedId, .bool true]) (.array [.bool false]) =
      .ok (.array [.bool false, .bool false]) := by decide +kernel
  have one : oneOf (meet 1) (.array [.bool true]) (.array [.object prefixedNumber]) =
      .ok (.array [.object prefixedNumber]) := by decide +kernel
  have named : meetProperties (meet 1) limitedId (constantId .null) = .ok
      ([("id", .object [("maximum", .number (.int 9)), ("const", .null)])], []) := by decide +kernel
  have settled : meet 1 (.object limitedId) (.object prefixedNumber) ≠ .error .depth := by simp [merges]
  have settled' : meet 1 (.object (constantId .null)) (.object (constantId (.bool false))) ≠
      .error .depth := by simp [fails]
  have settledEither : anyOf (meet 1) (.array [.object limitedId, .bool true])
      (.array [.bool false]) ≠ .error .depth := by simp [either]
  have settledOne : oneOf (meet 1) (.array [.bool true]) (.array [.object prefixedNumber]) ≠
      .error .depth := by simp [one]
  have settledNamed : meetProperties (meet 1) limitedId (constantId .null) ≠ .error .depth := by
    simp [named]
  exact ⟨by decide +kernel, settled, (schemas _ _ settled).trans merges, settled',
    (schemas _ _ settled').trans fails, settledEither, (anyOfs _ _ settledEither).trans either,
    settledOne, (oneOfs _ _ settledOne).trans one, settledNamed, (properties _ _ settledNamed).trans named⟩

end SchemaMerge.Schema
