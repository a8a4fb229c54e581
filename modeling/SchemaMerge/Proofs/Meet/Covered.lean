import SchemaMerge.Proofs.Meet.Alternatives
import SchemaMerge.Schema.Meet

/-!
Lists of alternatives of which one is covered by the other. The lengths decide which list is looked
for in the other, so a part of a list is found if it is not the longer of the two, or if each list
covers the other. A part that is longer, because it repeats members, is refused: the lists differ
and neither is a single schema.
-/

namespace SchemaMerge.Schema

open Json (isEqual)

def Covered (schemas others : List Json) : Prop :=
  ∀ schema ∈ schemas, ∃ other ∈ others, isEqual schema other = true

instance (schemas others : List Json) : Decidable (Covered schemas others) :=
  inferInstanceAs (Decidable (∀ schema ∈ schemas, ∃ other ∈ others, isEqual schema other = true))

/-- The lists are equal but for the order of their members and for repetitions. -/
def SameMembers (schemas others : List Json) : Prop :=
  Covered schemas others ∧ Covered others schemas

def KeepsMembers (outcome : Except Failure Json) (part : List Json) : Prop :=
  ∃ kept, outcome = .ok (.array kept) ∧ SameMembers kept part

variable {recur : Meeting} {keyword : String} {schema : Json} {schemas others : List Json}

theorem SameMembers.refl (finite : ∀ schema ∈ schemas, schema.isFinite = true) :
    SameMembers schemas schemas := by
  have covered : Covered schemas schemas :=
    fun schema inside => ⟨schema, inside, Json.isEqual_refl (finite schema inside)⟩
  exact ⟨covered, covered⟩

theorem covered_single (covered : Covered others [schema]) (nonempty : others ≠ []) :
    Covered [schema] others := by
  obtain ⟨other, inside⟩ := List.exists_mem_of_ne_nil others nonempty
  obtain ⟨single, listed, same⟩ := covered other inside
  rw [List.mem_singleton] at listed
  subst listed
  intro first listed
  rw [List.mem_singleton] at listed
  subst listed
  exact ⟨other, inside, Json.isEqual_symm same⟩

theorem two_le_length {part whole : List Json} (covered : Covered part whole)
    (misses : ¬Covered whole part) (long : whole.length ≤ part.length) : 2 ≤ whole.length := by
  match whole with
  | [] => exact absurd (fun _ inside => absurd inside (by simp)) misses
  | [schema] =>
      have nonempty : part ≠ [] := List.ne_nil_of_length_pos long
      exact absurd (covered_single covered nonempty) misses
  | _ :: _ :: _ => simp

theorem anyM_equal_of_finite (finite : schema.isFinite = true)
    (finite' : ∀ other ∈ others, other.isFinite = true) :
    others.anyM (equal schema) = .ok (others.any (isEqual schema)) := by
  induction others with
  | nil => rfl
  | cons other rest ih =>
      obtain ⟨head, tail⟩ := List.forall_mem_cons.mp finite'
      have compared : equal schema other = .ok (isEqual schema other) :=
        finitely_eq_ok.mpr (Json.equal_of_finite finite head)
      rw [List.anyM, compared, List.any_cons]
      cases isEqual schema other with
      | true => rfl
      | false => exact ih tail

theorem isSubset_of_finite (finite : ∀ schema ∈ schemas, schema.isFinite = true)
    (finite' : ∀ other ∈ others, other.isFinite = true) :
    isSubset schemas others = .ok (decide (Covered schemas others)) := by
  have answer : decide (Covered schemas others) =
      schemas.all fun schema => others.any (isEqual schema) := by
    rw [Bool.eq_iff_iff, decide_eq_true_iff]
    simp [Covered]
  rw [answer]
  clear answer
  induction schemas with
  | nil => rfl
  | cons schema rest ih =>
      obtain ⟨head, tail⟩ := List.forall_mem_cons.mp finite
      rw [isSubset, List.allM, anyM_equal_of_finite head finite', List.all_cons]
      cases others.any (isEqual schema) with
      | true => exact ih tail
      | false => rfl

theorem distribute_refuses (several : 2 ≤ schemas.length) (several' : 2 ≤ others.length) :
    distribute recur keyword schemas others =
      .error (.unsupported keyword (.array schemas) (.array others) none) := by
  match schemas, others with
  | _ :: _ :: _, _ :: _ :: _ => rfl

theorem anyOf_of_finite (finite : ∀ schema ∈ schemas, schema.isFinite = true)
    (finite' : ∀ other ∈ others, other.isFinite = true) :
    anyOf recur (.array schemas) (.array others) =
      if schemas.length ≤ others.length then
        if Covered schemas others then .ok (.array schemas)
        else .array <$> distribute recur "anyOf" schemas others
      else
        if Covered others schemas then .ok (.array others)
        else .array <$> distribute recur "anyOf" schemas others := by
  rw [anyOf, asArray_bind, asArray_bind, isSubset_of_finite finite finite',
    isSubset_of_finite finite' finite]
  split
  · by_cases covered : Covered schemas others
    · simp [covered, pure, Except.pure, bind, Except.bind]
    · simp [covered, map_eq_pure_bind, bind, Except.bind]
  · by_cases covered : Covered others schemas
    · simp [covered, pure, Except.pure, bind, Except.bind]
    · simp [covered, map_eq_pure_bind, bind, Except.bind]

/-- A list that is covered by the other stands for both, unless it is the longer one (the second one,
if the lengths are equal) and does not cover the other in turn; then the lists are refused. -/
theorem anyOf_keeps_part (recur : Meeting) (finite : ∀ schema ∈ schemas, schema.isFinite = true)
    (finite' : ∀ other ∈ others, other.isFinite = true) :
    (Covered schemas others →
      if schemas.length ≤ others.length ∨ Covered others schemas then
        KeepsMembers (anyOf recur (.array schemas) (.array others)) schemas
      else
        anyOf recur (.array schemas) (.array others) =
          .error (.unsupported "anyOf" (.array schemas) (.array others) none)) ∧
    (Covered others schemas →
      if others.length < schemas.length ∨ Covered schemas others then
        KeepsMembers (anyOf recur (.array schemas) (.array others)) others
      else
        anyOf recur (.array schemas) (.array others) =
          .error (.unsupported "anyOf" (.array schemas) (.array others) none)) := by
  rw [anyOf_of_finite finite finite']
  constructor
  · intro covered
    by_cases shorter : schemas.length ≤ others.length
    · rw [if_pos (Or.inl shorter), if_pos shorter, if_pos covered]
      exact ⟨schemas, rfl, .refl finite⟩
    · rw [if_neg shorter]
      by_cases covers : Covered others schemas
      · rw [if_pos (Or.inr covers), if_pos covers]
        exact ⟨others, rfl, covers, covered⟩
      · -- only the second list is looked for in the first, and it is not there
        have several : 2 ≤ others.length := two_le_length covered covers (by omega)
        rw [if_neg (by tauto), if_neg covers, distribute_refuses (by omega) several]
        rfl
  · intro covered
    by_cases shorter : schemas.length ≤ others.length
    · rw [if_pos shorter]
      by_cases covers : Covered schemas others
      · rw [if_pos (Or.inr covers), if_pos covers]
        exact ⟨schemas, rfl, covers, covered⟩
      · -- only the first list is looked for in the second, and it is not there
        have several : 2 ≤ schemas.length := two_le_length covered covers shorter
        rw [if_neg (by simp [shorter, covers]), if_neg covers,
          distribute_refuses several (by omega)]
        rfl
    · rw [if_pos (Or.inl (by omega)), if_neg shorter, if_pos covered]
      exact ⟨others, rfl, .refl finite'⟩

def texts : List Json :=
  [.object [("type", .string "string")], .object [("type", .string "string")]]

def textOrInteger : List Json :=
  [.object [("type", .string "string")], .object [("type", .string "integer")]]

theorem texts_meet_textOrInteger :
    ((∀ schema ∈ texts, schema.isFinite = true) ∧
      (∀ schema ∈ textOrInteger, schema.isFinite = true) ∧ Covered texts textOrInteger) ∧
    KeepsMembers (anyOf (meet defaultDepth) (.array texts) (.array textOrInteger)) texts := by
  have finite : ∀ schema ∈ texts, schema.isFinite = true := by decide
  have finite' : ∀ schema ∈ textOrInteger, schema.isFinite = true := by decide
  have covered : Covered texts textOrInteger := by decide
  have kept := (anyOf_keeps_part (meet defaultDepth) finite finite').1 covered
  rw [if_pos (by decide)] at kept
  exact ⟨⟨finite, finite', covered⟩, kept⟩

/-- In the other order only the integers are looked for among the texts, and the lists are refused. -/
theorem textOrInteger_refuses_texts :
    ((∀ schema ∈ textOrInteger, schema.isFinite = true) ∧
      (∀ schema ∈ texts, schema.isFinite = true) ∧ Covered texts textOrInteger) ∧
    anyOf (meet defaultDepth) (.array textOrInteger) (.array texts) =
      .error (.unsupported "anyOf" (.array textOrInteger) (.array texts) none) :=
  ⟨by decide, rfl⟩

end SchemaMerge.Schema
