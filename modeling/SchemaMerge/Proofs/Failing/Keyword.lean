import SchemaMerge.Proofs.Failing.Source

namespace SchemaMerge.Schema

open Keyword

variable {first second : Json} {failure : Failure}

def IsArray (value : Json) : Prop := ∃ items, value = .array items

theorem bound_eq_error {side : Side} {value : Json} (failed : bound side value = .error failure) :
    failure.kind = .malformed ∧ ¬IsNumber value := by
  unfold bound at failed
  split at failed
  · exact absurd failed (by simp)
  · next other =>
    obtain rfl := throw_eq_error.mp failed
    exact ⟨rfl, fun ⟨number, is⟩ => other number is⟩

theorem bounds_eq_error {side side' : Side} {next : Number → Number → Json} (failed : (do
      let limit ← bound side first
      let other ← bound side' second
      return next limit other) = .error failure) :
    failure.kind = .malformed ∧ (¬IsNumber first ∨ ¬IsNumber second) := by
  rcases bind_eq_error.mp failed with failed | ⟨x, -, failed⟩
  · exact (bound_eq_error failed).imp_right Or.inl
  · rcases bind_eq_error.mp failed with failed | ⟨y, -, failed⟩
    · exact (bound_eq_error failed).imp_right Or.inr
    · exact absurd failed (by simp)

theorem upperBound_eq_error (failed : upperBound first second = .error failure) :
    failure.kind = .malformed ∧ (¬IsNumber first ∨ ¬IsNumber second) := bounds_eq_error failed

theorem lowerBound_eq_error (failed : lowerBound first second = .error failure) :
    failure.kind = .malformed ∧ (¬IsNumber first ∨ ¬IsNumber second) := bounds_eq_error failed

theorem asArray_fails {keyword : String} {value : Json}
    (failed : asArray keyword value = .error failure) : failure.kind = .malformed ∧ ¬IsArray value := by
  obtain ⟨other, rfl⟩ := asArray_eq_error.mp failed
  exact ⟨rfl, fun ⟨items, is⟩ => other items is⟩

theorem not_finite_of_item {items : List Json} {item : Json} (inside : item ∈ items)
    (infinite : item.isFinite = false) : (Json.array items).isFinite = false := by
  rw [← Bool.not_eq_true, Json.isFinite_array]
  exact fun finite => absurd (finite item inside) (by simp [infinite])

theorem union_eq_error {name : String} (failed : (do
      let values ← asArray name first
      let others ← asArray name second
      return Json.array (← unionUnique values others)) = .error failure) :
    failure.kind = .malformed ∧ (¬IsArray first ∨ ¬IsArray second ∨ first.isFinite = false ∨
      second.isFinite = false) := by
  rcases bind_eq_error.mp failed with failed | ⟨values, read, failed⟩
  · exact (asArray_fails failed).imp_right Or.inl
  · rcases bind_eq_error.mp failed with failed | ⟨others, read', failed⟩
    · exact (asArray_fails failed).imp_right fun other => Or.inr (Or.inl other)
    · rcases bind_eq_error.mp failed with unjoined | ⟨union, -, failed⟩
      · obtain rfl := asArray_eq_ok.mp read
        obtain rfl := asArray_eq_ok.mp read'
        obtain ⟨kind, value, inside, infinite⟩ := unionUnique_eq_error unjoined
        refine ⟨kind, Or.inr (Or.inr ?_)⟩
        exact (List.mem_append.mp inside).imp (not_finite_of_item · infinite)
          (not_finite_of_item · infinite)
      · exact absurd failed (by simp)

theorem description_eq_error (failed : description first second = .error failure) :
    failure.kind = .malformed ∧ ∀ text other, first = .string text → second ≠ .string other := by
  unfold description at failed
  split at failed
  · exact absurd failed (by simp)
  · next other =>
    obtain rfl := throw_eq_error.mp failed
    exact ⟨rfl, other⟩

theorem either_eq_error (failed : either first second = .error failure) :
    failure.kind = .malformed ∧ ∀ value other, first = .bool value → second ≠ .bool other := by
  unfold either at failed
  split at failed
  · exact absurd failed (by simp)
  · next other =>
    obtain rfl := throw_eq_error.mp failed
    exact ⟨rfl, other⟩

theorem pattern_eq_error (failed : pattern first second = .error failure) :
    failure.kind = .malformed := by
  unfold pattern at failed
  split at failed
  · exact absurd failed (by simp)
  · obtain rfl := throw_eq_error.mp failed
    rfl

def HoldsLists (entries : Members) : Prop := ∀ entry ∈ entries, entry.2 = .null ∨ IsArray entry.2

theorem asEntries_eq_error {value : Json} (failed : asEntries value = .error failure) :
    failure.kind = .malformed ∧ ∀ entries, value ≠ .object entries := by
  unfold asEntries at failed
  split at failed
  · exact absurd failed (by simp)
  · next other =>
    obtain rfl := throw_eq_error.mp failed
    exact ⟨rfl, other⟩

theorem asNames_eq_error {entry : String} {value : Json}
    (failed : asNames entry value = .error failure) : failure.kind = .malformed ∧ ¬IsArray value := by
  unfold asNames at failed
  split at failed
  · exact absurd failed (by simp)
  · next other =>
    obtain rfl := throw_eq_error.mp failed
    exact ⟨rfl, fun ⟨names, is⟩ => other names is⟩

theorem not_finite_of_member {members : Members} {member : String × Json} (inside : member ∈ members)
    (infinite : member.2.isFinite = false) : (Json.object members).isFinite = false := by
  rw [← Bool.not_eq_true, Json.isFinite_object]
  exact fun finite => absurd (finite member inside) (by simp [infinite])

/-- Why the lists of names in two objects are not joined: one of them is no list, or holds a value that
cannot be compared. -/
def Unjoinable (start entries : Members) : Prop :=
  ¬HoldsLists start ∨ ¬HoldsLists entries ∨ (Json.object start).isFinite = false ∨
    (Json.object entries).isFinite = false

theorem Unjoinable.cons {start rest : Members} (unjoinable : Unjoinable start rest)
    (entry : String × Json) : Unjoinable start (entry :: rest) := by
  rcases unjoinable with lists | lists | infinite | infinite
  · exact Or.inl lists
  · exact Or.inr (Or.inl fun all => lists fun entry inside =>
      all entry (List.mem_cons_of_mem _ inside))
  · exact Or.inr (Or.inr (Or.inl infinite))
  · refine Or.inr (Or.inr (Or.inr ?_))
    rw [← Bool.not_eq_true, Json.isFinite_object] at infinite ⊢
    exact fun finite => infinite fun member inside => finite member (List.mem_cons_of_mem _ inside)

theorem unjoinable_of_union {start entries : Members} {names others : List Json} {name : String}
    (failed : unionUnique names others = .error failure) (known : (name, .array names) ∈ start)
    (own : (name, .array others) ∈ entries) : failure.kind = .malformed ∧ Unjoinable start entries := by
  obtain ⟨kind, item, inside, infinite⟩ := unionUnique_eq_error failed
  refine ⟨kind, Or.inr (Or.inr ?_)⟩
  rcases List.mem_append.mp inside with inside | inside
  · exact Or.inl (not_finite_of_member known (not_finite_of_item inside infinite))
  · exact Or.inr (not_finite_of_member own (not_finite_of_item inside infinite))

theorem dependentEntries_eq_error {start merged entries : Members}
    (failed : dependentEntries start merged entries = .error failure) :
    failure.kind = .malformed ∧ Unjoinable start entries := by
  induction entries generalizing merged with
  | nil => exact absurd failed (by simp [dependentEntries])
  | cons entry rest ih =>
      obtain ⟨name, value⟩ := entry
      have later {merged : Members} (failed : dependentEntries start merged rest = .error failure) :
          failure.kind = .malformed ∧ Unjoinable start ((name, value) :: rest) :=
        (ih failed).imp_right (·.cons _)
      by_cases null : value = .null
      · subst null
        exact later failed
      · rw [dependentEntries.eq_3 _ _ _ _ _ (fun is => null is)] at failed
        rcases bind_eq_error.mp failed with failed | ⟨others, read, failed⟩
        · obtain ⟨kind, list⟩ := asNames_eq_error failed
          exact ⟨kind, Or.inr (Or.inl fun all => (all _ (List.mem_cons_self)).elim null list)⟩
        · have is := asNames_eq_ok read
          dsimp only at failed
          split at failed
          · rcases bind_eq_error.mp failed with wrong | ⟨names, found, failed⟩
            · exact absurd wrong (by simp)
            · obtain rfl := pure_eq_ok.mp found
              exact later failed
          · next known =>
            obtain ⟨known, set⟩ := Members.present?_eq_some_iff.mp known
            have known := Members.mem_of_get? known
            rcases bind_eq_error.mp failed with unread | ⟨names, found, failed⟩
            · obtain ⟨kind, list⟩ := asNames_eq_error unread
              exact ⟨kind, Or.inl fun all => (all _ known).elim set list⟩
            · split at failed
              · exact later failed
              · rcases bind_eq_error.mp failed with unjoined | ⟨joined, -, failed⟩
                · rw [asNames_eq_ok found] at known
                  rw [is]
                  exact unjoinable_of_union unjoined known List.mem_cons_self
                · exact later failed

theorem dependentRequired_eq_error (failed : dependentRequired first second = .error failure) :
    failure.kind = .malformed ∧ ∀ entries others, first = .object entries → second = .object others →
      ¬HoldsLists entries ∨ ¬HoldsLists others ∨ first.isFinite = false ∨ second.isFinite = false := by
  rcases bind_eq_error.mp failed with failed | ⟨entries, read, failed⟩
  · obtain ⟨kind, other⟩ := asEntries_eq_error failed
    exact ⟨kind, fun entries _ is => absurd is (other entries)⟩
  · rcases bind_eq_error.mp failed with failed | ⟨others, read', failed⟩
    · obtain ⟨kind, other⟩ := asEntries_eq_error failed
      exact ⟨kind, fun _ others _ is => absurd is (other others)⟩
    · rcases bind_eq_error.mp failed with unmerged | ⟨out, -, failed⟩
      · obtain rfl := asEntries_eq_ok read
        obtain rfl := asEntries_eq_ok read'
        obtain ⟨kind, why⟩ := dependentEntries_eq_error unmerged
        refine ⟨kind, ?_⟩
        rintro _ _ ⟨⟩ ⟨⟩
        exact why
      · exact absurd failed (by simp)

def IsDivisor (value : Json) : Prop :=
  ∃ number rational, value = .number number ∧ (Number.int 0).lt number = true ∧
    number.decimalValue? = some rational

theorem multipleOf_eq_error (failed : multipleOf first second = .error failure) :
    (failure.kind = .malformed ∨ failure.kind = .infinite) ∧ (¬IsDivisor first ∨ ¬IsDivisor second) := by
  have positive {value : Json} (failed : positive value = .error failure) :
      (failure.kind = .malformed ∨ failure.kind = .infinite) ∧ ¬IsDivisor value := by
    unfold Schema.positive at failed
    split at failed
    · next number =>
      split at failed
      · exact absurd failed (by simp)
      · next low =>
        obtain rfl := Except.error.inj failed
        refine ⟨Or.inl rfl, ?_⟩
        rintro ⟨_, _, ⟨⟩, above, -⟩
        exact low above
    · next other =>
      obtain rfl := Except.error.inj failed
      exact ⟨Or.inl rfl, fun ⟨number, _, is, _⟩ => other number is⟩
  have decimal {value : Json} {number : Number} (read : Schema.positive value = .ok number)
      (failed : decimalValue number = .error failure) :
      (failure.kind = .malformed ∨ failure.kind = .infinite) ∧ ¬IsDivisor value := by
    obtain ⟨rfl, -⟩ := positive_eq_ok read
    unfold decimalValue at failed
    split at failed
    · exact absurd failed (by simp)
    · next missing =>
      obtain rfl := Except.error.inj failed
      refine ⟨Or.inr rfl, ?_⟩
      rintro ⟨_, _, ⟨⟩, -, found⟩
      exact absurd (missing.symm.trans found) (by simp)
  rcases bind_eq_error.mp failed with failed | ⟨number, read, failed⟩
  · exact (positive failed).imp_right Or.inl
  · rcases bind_eq_error.mp failed with failed | ⟨other, read', failed⟩
    · exact (positive failed).imp_right Or.inr
    · rcases bind_eq_error.mp failed with failed | ⟨x, -, failed⟩
      · exact (decimal read failed).imp_right Or.inl
      · rcases bind_eq_error.mp failed with failed | ⟨y, -, failed⟩
        · exact (decimal read' failed).imp_right Or.inr
        · split at failed
          · exact absurd failed (by simp)
          · split at failed <;> exact absurd failed (by simp)

theorem not_enum_of_disjoint {values others : List Json} {value : Json}
    (disjoint : values.filter (fun member => (others.map Json.arranged).contains member.arranged) = [])
    (accepted : Leaf.enum (.array values) value = true) : Leaf.enum (.array others) value = false := by
  rw [← Bool.not_eq_true]
  intro accepted'
  obtain ⟨member, inside, same⟩ := List.any_eq_true.mp accepted
  obtain ⟨other, inside', same'⟩ := List.any_eq_true.mp accepted'
  have form := (Json.isEqual_iff.mp (Json.isEqual_trans same' (Json.isEqual_symm same))).2.2
  have kept : member ∈ values.filter fun member => (others.map Json.arranged).contains member.arranged :=
    List.mem_filter.mpr
      ⟨inside, List.contains_iff_mem.mpr (List.mem_map.mpr ⟨other, inside', form⟩)⟩
  rw [disjoint] at kept
  exact absurd kept (by simp)

/-- Enumerations are not lists of finite values, hold values that are not compared, or have no value
in common. -/
theorem enum_eq_error (failed : Keyword.enum first second = .error failure) :
    (failure.kind = .malformed ∧ (¬IsArray first ∨ ¬IsArray second ∨ first.isFinite = false ∨
        second.isFinite = false)) ∨
      failure.kind = .unsupported ∨
      (failure = .empty "enum" first second ∧ IsArray first ∧ IsArray second ∧
        ∀ value, Leaf.enum first value = true → Leaf.enum second value = false) := by
  rcases bind_eq_error.mp failed with failed | ⟨values, read, failed⟩
  · exact Or.inl ((asArray_fails failed).imp_right Or.inl)
  · rcases bind_eq_error.mp failed with failed | ⟨others, read', failed⟩
    · exact Or.inl ((asArray_fails failed).imp_right fun other => Or.inr (Or.inl other))
    · obtain rfl := asArray_eq_ok.mp read
      obtain rfl := asArray_eq_ok.mp read'
      split at failed
      · rcases bind_eq_error.mp failed with failed | ⟨_, made, _⟩
        · obtain rfl := throw_eq_error.mp failed
          exact Or.inr (Or.inl rfl)
        · exact absurd made (by simp)
      · rcases bind_eq_error.mp failed with failed | ⟨allowed, listed, failed⟩
        · obtain ⟨kind, item, inside, infinite⟩ := canonicalItems_eq_error failed
          exact Or.inl ⟨kind, Or.inr (Or.inr (Or.inr (not_finite_of_item inside infinite)))⟩
        · rcases bind_eq_error.mp failed with failed | ⟨forms, listed', failed⟩
          · obtain ⟨kind, item, inside, infinite⟩ := canonicalItems_eq_error failed
            exact Or.inl ⟨kind, Or.inr (Or.inr (Or.inl (not_finite_of_item inside infinite)))⟩
          · obtain ⟨-, rfl⟩ := Json.canonicalItems_eq_ok (finitely_eq_ok.mp listed)
            obtain ⟨-, rfl⟩ := Json.canonicalItems_eq_ok (finitely_eq_ok.mp listed')
            dsimp only at failed
            rw [filter_zip_map] at failed
            split at failed
            · next none =>
              rcases bind_eq_error.mp failed with failed | ⟨_, made, _⟩
              · obtain rfl := throw_eq_error.mp failed
                exact Or.inr (Or.inr ⟨rfl, ⟨values, rfl⟩, ⟨others, rfl⟩, fun value =>
                  not_enum_of_disjoint (List.isEmpty_iff.mp none)⟩)
              · exact absurd made (by simp)
            · exact absurd failed (by simp)

theorem typeNamesOf_eq_error {whole : Json} {items : List Json}
    (failed : typeNamesOf whole items = .error failure) :
    failure.kind = .malformed ∧ ∃ item ∈ items, ∀ name, item ≠ .string name := by
  induction items with
  | nil => exact absurd failed (by simp [typeNamesOf])
  | cons item rest ih =>
      cases item with
      | string name =>
          rcases bind_eq_error.mp failed with failed | ⟨others, -, failed⟩
          · obtain ⟨kind, item, inside, other⟩ := ih failed
            exact ⟨kind, item, List.mem_cons_of_mem _ inside, other⟩
          · exact absurd failed (by simp)
      | _ =>
          obtain rfl := throw_eq_error.mp failed
          exact ⟨rfl, _, List.mem_cons_self, by simp⟩

def IsTypeNames (value : Json) : Prop :=
  (∃ name, value = .string name) ∨ ∃ names : List String, value = .array (names.map .string)

theorem exists_names {items : List Json} (all : ∀ item ∈ items, ∃ name, item = .string name) :
    ∃ names : List String, items = names.map Json.string := by
  induction items with
  | nil => exact ⟨[], rfl⟩
  | cons item rest ih =>
      obtain ⟨⟨name, rfl⟩, others⟩ := List.forall_mem_cons.mp all
      obtain ⟨names, rfl⟩ := ih others
      exact ⟨name :: names, rfl⟩

theorem typeNames_eq_error {value : Json} (failed : typeNames value = .error failure) :
    failure.kind = .malformed ∧ ¬IsTypeNames value := by
  unfold typeNames at failed
  split at failed
  · next names =>
    obtain ⟨kind, item, inside, other⟩ := typeNamesOf_eq_error failed
    refine ⟨kind, ?_⟩
    rintro (⟨name, is⟩ | ⟨names, ⟨⟩⟩)
    · exact absurd is (by simp)
    · obtain ⟨name, -, rfl⟩ := List.mem_map.mp inside
      exact other name rfl
  · next noArray =>
    obtain ⟨kind, item, inside, other⟩ := typeNamesOf_eq_error failed
    obtain rfl := List.mem_singleton.mp inside
    refine ⟨kind, ?_⟩
    rintro (⟨name, is⟩ | ⟨names, is⟩)
    · exact other name is
    · exact noArray _ is

theorem ne_null_of_typeNames {value : Json} {names : List String}
    (made : typeNames value = .ok names) : value ≠ .null := by
  rintro rfl
  exact absurd made (by simp [typeNames, typeNamesOf])

theorem type_eq_error (failed : Keyword.type first second = .error failure) :
    (failure.kind = .malformed ∧ (¬IsTypeNames first ∨ ¬IsTypeNames second)) ∨
      (failure = .empty "type" first second ∧ first ≠ .null ∧ second ≠ .null ∧
        ∀ value, Leaf.type first value = true → Leaf.type second value = false) := by
  rcases bind_eq_error.mp failed with failed | ⟨names, read, failed⟩
  · exact Or.inl ((typeNames_eq_error failed).imp_right Or.inl)
  · rcases bind_eq_error.mp failed with failed | ⟨others, read', failed⟩
    · exact Or.inl ((typeNames_eq_error failed).imp_right Or.inr)
    · split at failed
      · next none =>
        obtain rfl := throw_eq_error.mp failed
        refine Or.inr ⟨rfl, ne_null_of_typeNames read, ne_null_of_typeNames read',
          fun value accepted => ?_⟩
        rw [← Bool.not_eq_true]
        intro accepted'
        rw [type_of_names read] at accepted
        rw [type_of_names read'] at accepted'
        obtain ⟨name, inside, has⟩ := List.any_eq_true.mp accepted
        obtain ⟨other, inside', has'⟩ := List.any_eq_true.mp accepted'
        obtain ⟨common, found, -⟩ := commonType?_of_has inside' has has'
        have kept := List.mem_eraseDups.mpr (List.mem_filterMap.mpr ⟨name, inside, found⟩)
        rw [none] at kept
        exact absurd kept (by simp)
      · exact absurd failed (by simp)
      · exact absurd failed (by simp)

end SchemaMerge.Schema
