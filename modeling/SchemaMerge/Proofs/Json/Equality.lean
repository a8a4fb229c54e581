import SchemaMerge.Json.Canonical
import SchemaMerge.Proofs.Json.Members

namespace SchemaMerge

theorem insertByKey_perm {α : Type} (entry : String × α) (entries : List (String × α)) :
    (insertByKey entry entries).Perm (entry :: entries) := by
  induction entries with
  | nil => exact List.Perm.refl _
  | cons other rest ih =>
      unfold insertByKey
      split
      · exact List.Perm.refl _
      · exact (ih.cons other).trans (List.Perm.swap entry other rest)

theorem sortByKey_perm {α : Type} (entries : List (String × α)) :
    (sortByKey entries).Perm entries := by
  induction entries with
  | nil => exact List.Perm.refl _
  | cons entry rest ih => exact (insertByKey_perm entry _).trans (ih.cons entry)

namespace Json

theorem sizeOf_item {items : List Json} {item : Json} (present : item ∈ items) :
    sizeOf item < sizeOf (Json.array items) := by
  have bound := List.sizeOf_lt_of_mem present
  simp only [Json.array.sizeOf_spec]
  omega

theorem sizeOf_member {members : Members} {member : String × Json} (present : member ∈ members) :
    sizeOf member.2 < sizeOf (Json.object members) := by
  have bound := List.sizeOf_lt_of_mem present
  obtain ⟨key, value⟩ := member
  simp only [Json.object.sizeOf_spec]
  simp only [Prod.mk.sizeOf_spec] at bound
  omega

theorem induction_on_size {motive : Json → Prop}
    (step : ∀ value, (∀ smaller, sizeOf smaller < sizeOf value → motive smaller) → motive value)
    (value : Json) : motive value := by
  induction size : sizeOf value using Nat.strong_induction_on generalizing value with
  | _ bound ih =>
      subst size
      exact step value (fun smaller less => ih _ less smaller rfl)

/-- Equality as the schemas compare values; what is not finite equals nothing. -/
def isEqual (first second : Json) : Bool :=
  match first.equal second with
  | .ok equal => equal
  | .error _ => false

def isFinite (value : Json) : Bool := (nonFinite? value).isNone

theorem arrangedItems_eq_map (items : List Json) : arrangedItems items = items.map arranged := by
  induction items with
  | nil => rfl
  | cons item rest ih => simp [arrangedItems, ih]

theorem arrangedMembers_eq_map (members : Members) :
    arrangedMembers members = members.map (fun member => (member.1, member.2.arranged)) := by
  induction members with
  | nil => rfl
  | cons member rest ih => simp [arrangedMembers, ih]

theorem isFinite_array (items : List Json) :
    isFinite (.array items) = true ↔ ∀ item ∈ items, item.isFinite = true := by
  simp only [isFinite, nonFinite?, Option.isNone_iff_eq_none]
  induction items with
  | nil => simp [nonFiniteItem?]
  | cons item rest ih => simp [nonFiniteItem?, ih]

theorem isFinite_object (members : Members) :
    isFinite (.object members) = true ↔ ∀ member ∈ members, member.2.isFinite = true := by
  simp only [isFinite, nonFinite?, Option.isNone_iff_eq_none]
  induction members with
  | nil => simp [nonFiniteMember?]
  | cons member rest ih => simp [nonFiniteMember?, ih]

theorem isFinite_arranged (value : Json) : value.arranged.isFinite = value.isFinite := by
  rw [Bool.eq_iff_iff]
  induction value using induction_on_size with
  | _ value ih =>
      cases value with
      | null | bool _ | string _ => simp [arranged]
      | number number =>
          simp only [arranged, Number.arranged]
          split
          · split <;> simp [isFinite, nonFinite?, Double.isFinite]
          · rfl
      | array items =>
          rw [arranged, isFinite_array, isFinite_array, arrangedItems_eq_map, List.forall_mem_map]
          exact forall₂_congr (fun item present => ih item (sizeOf_item present))
      | object members =>
          simp only [arranged, isFinite_object, (sortByKey_perm _).mem_iff, arrangedMembers_eq_map,
            List.forall_mem_map]
          exact forall₂_congr (fun member present => ih member.2 (sizeOf_member present))

theorem canonical_eq_ok {value form : Json} :
    canonical value = .ok form ↔ value.isFinite = true ∧ value.arranged = form := by
  rw [← isFinite_arranged]
  unfold canonical isFinite
  split <;> simp [*]

theorem canonicalItems_eq_ok {items forms : List Json} (made : canonicalItems items = .ok forms) :
    (∀ item ∈ items, item.isFinite = true) ∧ forms = items.map arranged := by
  induction items generalizing forms with
  | nil => simpa [canonicalItems] using made.symm
  | cons item rest ih =>
      simp only [canonicalItems, bind, Except.bind] at made
      split at made
      · exact absurd made (by simp)
      · next form formed =>
        split at made
        · exact absurd made (by simp)
        · next others formedOthers =>
          obtain ⟨finite, rfl⟩ := canonical_eq_ok.mp formed
          obtain ⟨finiteRest, rfl⟩ := ih formedOthers
          simp_all

theorem canonicalItems_of_finite {items : List Json} (finite : ∀ item ∈ items, item.isFinite = true) :
    canonicalItems items = .ok (items.map arranged) := by
  induction items with
  | nil => rfl
  | cons item rest ih =>
      have head : canonical item = .ok item.arranged := canonical_eq_ok.mpr ⟨finite item (by simp), rfl⟩
      have tail := ih fun other inside => finite other (List.mem_cons_of_mem _ inside)
      rw [canonicalItems, head, tail]
      rfl

theorem equal_eq_ok {first second : Json} {answer : Bool} :
    first.equal second = .ok answer ↔
      first.isFinite = true ∧ second.isFinite = true ∧
        answer = decide (first.arranged = second.arranged) := by
  constructor
  · intro compared
    simp only [equal, bind, Except.bind] at compared
    split at compared
    · exact absurd compared (by simp)
    · next form formed =>
      split at compared
      · exact absurd compared (by simp)
      · next other formedOther =>
        obtain ⟨finite, rfl⟩ := canonical_eq_ok.mp formed
        obtain ⟨finite', rfl⟩ := canonical_eq_ok.mp formedOther
        exact ⟨finite, finite', (Except.ok.inj compared).symm⟩
  · rintro ⟨finite, finite', rfl⟩
    simp [equal, canonical_eq_ok.mpr ⟨finite, rfl⟩, canonical_eq_ok.mpr ⟨finite', rfl⟩, bind,
      Except.bind]

theorem isEqual_iff {first second : Json} :
    isEqual first second = true ↔
      first.isFinite = true ∧ second.isFinite = true ∧ first.arranged = second.arranged := by
  unfold isEqual
  split
  · next answer compared =>
    obtain ⟨finite, finite', rfl⟩ := equal_eq_ok.mp compared
    simp [finite, finite']
  · next failure compared =>
    have undefined : ¬(first.isFinite = true ∧ second.isFinite = true) := by
      rintro ⟨finite, finite'⟩
      rw [equal_eq_ok.mpr ⟨finite, finite', rfl⟩] at compared
      cases compared
    simp only [Bool.false_eq_true, false_iff]
    tauto

theorem isEqual_of_equal {first second : Json} (compared : first.equal second = .ok true) :
    isEqual first second = true := by simp [isEqual, compared]

theorem equal_of_finite {first second : Json} (finite : first.isFinite = true)
    (finite' : second.isFinite = true) : first.equal second = .ok (isEqual first second) := by
  have compared := equal_eq_ok.mpr ⟨finite, finite', rfl⟩
  simp [isEqual, compared]

theorem isEqual_refl {value : Json} (finite : value.isFinite = true) :
    isEqual value value = true := isEqual_iff.mpr ⟨finite, finite, rfl⟩

theorem isEqual_symm {first second : Json} (same : isEqual first second = true) :
    isEqual second first = true := by
  obtain ⟨finite, finite', forms⟩ := isEqual_iff.mp same
  exact isEqual_iff.mpr ⟨finite', finite, forms.symm⟩

theorem isEqual_trans {first second third : Json} (same : isEqual first second = true)
    (same' : isEqual second third = true) : isEqual first third = true := by
  obtain ⟨finite, -, forms⟩ := isEqual_iff.mp same
  obtain ⟨-, finite', forms'⟩ := isEqual_iff.mp same'
  exact isEqual_iff.mpr ⟨finite, finite', forms.trans forms'⟩

theorem isEqual_congr {first second : Json} (same : isEqual first second = true) (value : Json) :
    isEqual first value = isEqual second value := by
  rw [Bool.eq_iff_iff]
  exact ⟨isEqual_trans (isEqual_symm same), isEqual_trans same⟩

theorem isEqual_string {text : String} {value : Json} (same : isEqual (.string text) value = true) :
    value = .string text := by
  have forms := (isEqual_iff.mp same).2.2
  cases value <;> simp_all [arranged]

theorem isEqual_bool {truth : Bool} {value : Json} (same : isEqual (.bool truth) value = true) :
    value = .bool truth := by
  have forms := (isEqual_iff.mp same).2.2
  cases value <;> simp_all [arranged]

theorem isEqual_null {value : Json} (same : isEqual .null value = true) : value = .null := by
  have forms := (isEqual_iff.mp same).2.2
  cases value <;> simp_all [arranged]

theorem isEqual_number {number : Number} {value : Json}
    (same : isEqual (.number number) value = true) :
    ∃ other, value = .number other ∧ number.arranged = other.arranged := by
  have forms := (isEqual_iff.mp same).2.2
  cases value <;> simp_all [arranged]

theorem isEqual_array {items : List Json} {value : Json}
    (same : isEqual (.array items) value = true) :
    ∃ others, value = .array others ∧
      List.Forall₂ (fun item other => isEqual item other = true) items others := by
  obtain ⟨finite, finite', forms⟩ := isEqual_iff.mp same
  cases value with
  | array others =>
      refine ⟨others, rfl, ?_⟩
      rw [isFinite_array] at finite finite'
      simp only [arranged, Json.array.injEq, arrangedItems_eq_map] at forms
      have related : List.Forall₂ (fun item other => arranged item = arranged other) items others := by
        rw [← List.forall₂_eq_eq_eq] at forms
        simpa [List.forall₂_map_left_iff, List.forall₂_map_right_iff] using forms
      rw [List.forall₂_iff_get] at related ⊢
      refine ⟨related.1, fun place bound bound' => ?_⟩
      exact isEqual_iff.mpr ⟨finite _ (List.get_mem _ _), finite' _ (List.get_mem _ _),
        related.2 place bound bound'⟩
  | _ => simp [arranged] at forms

theorem get?_arranged {members : Members} (distinct : members.Distinct) (key : String) :
    Members.get? (sortByKey (arrangedMembers members)) key =
      (members.get? key).map Json.arranged := by
  have kept : Members.Distinct (arrangedMembers members) := by
    simpa [Members.Distinct, arrangedMembers_eq_map, Function.comp_def] using distinct
  rw [← Members.get?_perm (sortByKey_perm _).symm kept, arrangedMembers_eq_map]
  clear kept distinct
  induction members with
  | nil => rfl
  | cons member rest ih =>
      rw [List.map_cons, Members.get?_cons, Members.get?_cons, ih]
      split <;> rfl

theorem isEqual_object {members : Members} {value : Json} (distinct : members.Distinct)
    (same : isEqual (.object members) value = true) :
    ∃ others : Members, value = .object others ∧ (others.Distinct → ∀ key,
      Option.Rel (fun first second => isEqual first second = true)
        (members.get? key) (others.get? key)) := by
  obtain ⟨finite, finite', forms⟩ := isEqual_iff.mp same
  cases value with
  | object others =>
      refine ⟨others, rfl, fun distinct' key => ?_⟩
      rw [isFinite_object] at finite finite'
      have found : (members.get? key).map arranged = (Members.get? others key).map arranged := by
        rw [← get?_arranged distinct, ← get?_arranged distinct', Json.object.inj forms]
      cases first : members.get? key with
      | none =>
          rw [first, Option.map_none, eq_comm, Option.map_eq_none_iff] at found
          rw [found]
          exact Option.Rel.none
      | some value =>
          rw [first, Option.map_some, eq_comm, Option.map_eq_some_iff] at found
          obtain ⟨other, second, form⟩ := found
          rw [second]
          exact Option.Rel.some (isEqual_iff.mpr ⟨finite _ (Members.mem_of_get? first),
            finite' _ (Members.mem_of_get? second), form.symm⟩)
  | _ => simp [arranged] at forms

end Json

end SchemaMerge
