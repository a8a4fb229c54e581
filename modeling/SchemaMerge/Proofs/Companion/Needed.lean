import SchemaMerge.Proofs.Companion.Joined

namespace SchemaMerge.Schema

open Json (isEqual itemsOf)

variable {sub : Json → Json → Bool} {rest : Json → Bool} {schema marker : Json} {subject : Json}

/-- Items before the marker that every schema accepts, and the marker in the place of a schema. -/
theorem readsInPlace_marked (before after : List Json)
    (free : ∀ schema ∈ before, sub schema .null = true) :
    readsInPlace sub rest (before ++ schema :: after)
      (List.replicate before.length .null ++ [marker]) = sub schema marker := by
  induction before with
  | nil => cases after <;> simp [readsInPlace]
  | cons head tail ih =>
      obtain ⟨accepted, free⟩ := List.forall_mem_cons.mp free
      rw [List.length_cons, List.replicate_succ, List.cons_append, List.cons_append, readsInPlace,
        accepted, ih free, Bool.true_and]

/-- Schemas equal to the subject refuse the marker, and nothing else is refused. -/
def refuses (subject marker schema value : Json) : Bool := !(isEqual schema subject && value = marker)

theorem refuses_respectful (subject marker : Json) : Respectful (refuses subject marker) := by
  intro first second value same _ _
  rw [refuses, refuses, Json.isEqual_congr same subject]

namespace Number

theorem exists_not_le {bound : Number} (finite : (Json.number bound).isFinite = true) :
    ∃ count : Nat, (Number.int count).le bound = false := by
  obtain ⟨units, place⟩ := Number.position?_of_finite finite
  refine ⟨units.toNat + 1, Bool.eq_false_iff.mpr fun less => ?_⟩
  rw [Number.le_iff rfl place] at less
  have one : (1 : Int) ≤ Double.unitsPerOne := Int.natCast_pos.mpr Double.unitsPerOne_pos
  have more : ((units.toNat + 1 : Nat) : Int) ≤ (units.toNat + 1 : Nat) * Double.unitsPerOne :=
    le_mul_of_one_le_right (by omega) one
  omega

end Number

namespace Pair

variable {modifier : Json} {other : Option Json}

def Faithful (pair : Pair) (subject modifier : Json) (other : Option Json) : Prop :=
  ∀ sub, Respectful sub → ∀ value,
    pair.reads sub (some subject) (some modifier) value =
      (pair.reads sub (some subject) none value && pair.reads sub other (some modifier) value)

theorem tail_spares (finite : subject.isFinite = true) (faithful : tail.Faithful subject modifier other) :
    tail.spares other.isSome subject modifier = true := by
  refine List.all_eq_true.mpr fun schema inside => ?_
  obtain ⟨before, after, split⟩ := List.append_of_mem inside
  -- the marker stands in the place of `schema`, and nothing before it is refused
  have reads := faithful (refuses subject (.bool true)) (refuses_respectful subject _)
    (.array (List.replicate before.length .null ++ [.bool true]))
  have marked : readsInPlace (refuses subject (.bool true)) (refuses subject (.bool true) subject)
      (itemsOf modifier) (List.replicate before.length .null ++ [.bool true]) =
        refuses subject (.bool true) schema (.bool true) := by
    rw [split]
    exact readsInPlace_marked before after fun schema _ => by simp [refuses]
  have refused : (List.replicate before.length Json.null ++ [Json.bool true]).all
      (refuses subject (.bool true) subject) = false := by
    simp [refuses, Json.isEqual_refl finite]
  have answer := marked.symm.trans (reads.trans (congrArg (· && _) refused))
  exact Json.isEqual_symm (by simpa [refuses] using answer)

theorem consequence_spares (finite : subject.isFinite = true)
    (faithful : consequence.Faithful subject modifier other) :
    consequence.spares other.isSome subject modifier = true := by
  cases other with
  | some shared => rfl
  | none =>
      have reads := faithful (fun schema _ => isEqual schema subject)
        (fun _ _ _ same _ _ => Json.isEqual_congr same subject) .null
      have same : isEqual modifier subject = true := by
        simpa [Pair.reads, readsBoth, Json.isEqual_refl finite] using reads
      exact Json.isEqual_symm same

theorem alternative_spares (faithful : alternative.Faithful subject modifier other) :
    alternative.spares other.isSome subject modifier = true := by
  cases other with
  | some shared => rfl
  | none =>
      have reads := faithful (fun _ _ => false) (fun _ _ _ _ _ _ => rfl) .null
      exact absurd reads (by simp [Pair.reads, readsBoth])

theorem least_array (sub : Json → Json → Bool) (subject : Json) (bound : Number) (items : List Json) :
    least.reads sub (some subject) (some (.number bound)) (.array items) =
      Leaf.atLeast bound (.int (items.countP (sub subject))) := rfl

theorem least_default (sub : Json → Json → Bool) (subject : Json) (items : List Json) :
    least.reads sub (some subject) none (.array items) =
      Leaf.atLeast (.int 1) (.int (items.countP (sub subject))) := by
  rw [reads, readsDefault, Option.all_some, Option.getD_none, limit_array]

theorem least_empty (sub : Json → Json → Bool) (subject : Json) :
    least.reads sub (some subject) none (.array []) = false := by
  rw [least_default, List.countP_nil, Bool.eq_false_iff]
  exact fun less => absurd (Number.int_le_iff.mp less) (by decide)

theorem least_spares (finite : modifier.isFinite = true)
    (faithful : least.Faithful subject modifier other) :
    least.spares other.isSome subject modifier = true := by
  have reads := faithful (fun _ _ => true) (fun _ _ _ _ _ _ => rfl)
  -- an empty array tells whether the bound is positive, and a single item whether it is above one
  have empty := reads (.array [])
  rw [least_empty, Bool.false_and] at empty
  cases modifier with
  | number bound =>
      rw [least_array, List.countP_nil] at empty
      have positive : (Number.int 0).lt bound = true := by
        rw [Number.le_total finite rfl]
        exact congrArg not empty
      rw [spares, positive, Bool.true_and]
      cases other with
      | some shared => rfl
      | none =>
          have single := reads (.array [.null])
          rw [least_array, least_default, List.countP_true] at single
          have enough : Leaf.atLeast (.int 1) (.int ([Json.null].length : Nat)) = true :=
            Number.int_le_iff.mpr le_rfl
          rw [enough, Bool.true_and] at single
          exact single
  | _ => exact absurd empty (by simp [Pair.reads, readsDefault, Leaf.limit])

theorem most_spares (finite : modifier.isFinite = true) (faithful : most.Faithful subject modifier other) :
    most.spares other.isSome subject modifier = true := by
  cases other with
  | some shared => rfl
  | none =>
      cases modifier with
      | number bound =>
          obtain ⟨count, more⟩ := Number.exists_not_le finite
          have reads := faithful (fun _ _ => true) (fun _ _ _ _ _ _ => rfl)
            (.array (List.replicate count .null))
          have counted : Leaf.atMost bound
              (.int ((List.replicate count Json.null).countP fun _ => true)) = true := reads
          rw [List.countP_true, List.length_replicate] at counted
          exact absurd (counted.symm.trans more) (by simp)
      | _ => rfl

theorem Faithful.spares (pair : Pair) (finite : subject.isFinite = true)
    (finite' : modifier.isFinite = true) (faithful : pair.Faithful subject modifier other) :
    pair.spares other.isSome subject modifier = true := by
  cases pair with
  | tail => exact tail_spares finite faithful
  | consequence => exact consequence_spares finite faithful
  | alternative => exact alternative_spares faithful
  | least => exact least_spares finite' faithful
  | most => exact most_spares finite' faithful

end Pair

end SchemaMerge.Schema
