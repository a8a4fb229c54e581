import SchemaMerge.Proofs.Validity.WellFormed

namespace SchemaMerge

theorem mkRat_of_scaled {units whole : Int} {unit : Nat} (positive : 0 < unit)
    (exact : units = whole * unit) : mkRat units unit = whole := by
  have scaled : mkRat (whole * (unit : Int)) (1 * unit) = mkRat whole 1 :=
    Rat.mkRat_mul_right positive.ne'
  rw [exact]
  rwa [one_mul, Rat.mkRat_one] at scaled

theorem Double.unitsPerOne_pos : 0 < Double.unitsPerOne := by decide +kernel

namespace Double.Finite

theorem magnitude_eq_of_integral {x : Finite} (whole : x.isIntegral = true) :
    x.magnitude = x.magnitude / unitsPerOne * unitsPerOne := by
  have exact : x.magnitude % unitsPerOne = 0 := by simpa [isIntegral] using whole
  exact (Nat.div_mul_cancel (Nat.dvd_of_mod_eq_zero exact)).symm

theorem units_eq_of_integral {x : Finite} (whole : x.isIntegral = true) :
    x.units = x.truncate * unitsPerOne := by
  have exact := congrArg (Nat.cast (R := Int)) (magnitude_eq_of_integral whole)
  unfold units truncate
  split
  · rw [exact]
    push_cast
    ring
  · rw [exact]
    push_cast
    ring

end Double.Finite

namespace Number

theorem position?_arranged (number : Number) : number.arranged.position? = number.position? := by
  unfold arranged
  split
  · next x =>
    split
    · next whole =>
      exact congrArg (fun units => some (0, units)) (Double.Finite.units_eq_of_integral whole).symm
    · rfl
  · rfl

theorem value?_arranged (number : Number) : number.arranged.value? = number.value? := by
  unfold arranged
  split
  · next x =>
    split
    · next whole =>
      have exact := mkRat_of_scaled Double.unitsPerOne_pos (Double.Finite.units_eq_of_integral whole)
      exact congrArg some exact.symm
    · rfl
  · rfl

theorem lt_congr {first second : Number} (same : first.arranged = second.arranged)
    (number : Number) : first.lt number = second.lt number ∧ number.lt first = number.lt second := by
  have place : first.position? = second.position? := by
    rw [← position?_arranged, same, position?_arranged]
  simp [lt, place]

theorem le_congr {first second : Number} (same : first.arranged = second.arranged)
    (number : Number) : first.le number = second.le number ∧ number.le first = number.le second := by
  have place : first.position? = second.position? := by
    rw [← position?_arranged, same, position?_arranged]
  simp [le, place]

end Number

namespace Json

theorem number_congr {β : Type} (read : Json → β)
    (numeric : ∀ value, read value = value.number?.elim (read .null) fun number => read (.number number))
    (respects : ∀ {number other : Number}, number.arranged = other.arranged →
      read (.number number) = read (.number other))
    {first second : Json} (same : isEqual first second = true) : read first = read second := by
  rw [numeric first, numeric second]
  cases first with
  | number number =>
      obtain ⟨other, rfl, forms⟩ := isEqual_number same
      exact respects forms
  | _ =>
      cases second with
      | number number =>
          obtain ⟨_, wrong, -⟩ := isEqual_number (isEqual_symm same)
          exact absurd wrong (by simp)
      | _ => rfl

theorem noRepeats_array {items : List Json} :
    noRepeats (.array items) = true ↔ ∀ item ∈ items, item.noRepeats = true := by
  simp only [noRepeats]
  induction items with
  | nil => simp [noRepeatsItems]
  | cons item rest ih => simp [noRepeatsItems, ih]

theorem noRepeats_object {members : Members} :
    noRepeats (.object members) = true ↔
      members.Distinct ∧ ∀ member ∈ members, member.2.noRepeats = true := by
  simp only [noRepeats, Bool.and_eq_true, decide_eq_true_eq, and_congr_right_iff]
  intro distinct
  clear distinct
  induction members with
  | nil => simp [noRepeatsMembers]
  | cons member rest ih => simp [noRepeatsMembers, ih]

end Json

namespace Schema

open Json (isEqual membersOf)

/-- A keyword is read from its argument up to equality. -/
def Respectful (reads : Json → Json → Bool) : Prop :=
  ∀ first second value, isEqual first second = true → first.noRepeats = true →
    second.noRepeats = true → reads first value = reads second value

theorem Respectful.eq {reads : Json → Json → Bool} (respectful : Respectful reads) {first second : Json}
    (same : isEqual first second = true) (clean : first.noRepeats = true)
    (clean' : second.noRepeats = true) : reads first = reads second :=
  funext fun value => respectful first second value same clean clean'

namespace Leaf

theorem isNamedType_congr {first second : Json} (same : isEqual first second = true)
    (value : Json) : isNamedType first value = isNamedType second value := by
  cases first with
  | string name => rw [Json.isEqual_string same]
  | _ =>
      cases second with
      | string name => exact absurd (Json.isEqual_string (Json.isEqual_symm same)) (by simp)
      | _ => rfl

theorem any_congr {items others : List Json} {test : Json → Bool}
    (related : List.Forall₂ (fun item other => isEqual item other = true) items others)
    (respects : ∀ item other, isEqual item other = true → test item = test other) :
    items.any test = others.any test := by
  induction related with
  | nil => rfl
  | cons same _ ih => rw [List.any_cons, List.any_cons, respects _ _ same, ih]

theorem all_congr {items others : List Json} {test : Json → Bool}
    (related : List.Forall₂ (fun item other => isEqual item other = true) items others)
    (respects : ∀ item other, isEqual item other = true → test item = test other) :
    items.all test = others.all test := by
  induction related with
  | nil => rfl
  | cons same _ ih => rw [List.all_cons, List.all_cons, respects _ _ same, ih]

theorem not_array_congr {first second : Json} (same : isEqual first second = true)
    (other : ∀ items, first ≠ .array items) (items : List Json) : second ≠ .array items := by
  rintro rfl
  obtain ⟨items', rfl, -⟩ := Json.isEqual_array (Json.isEqual_symm same)
  exact other items' rfl

theorem type_respectful : Respectful type := by
  intro first second value same _ _
  cases first with
  | array names =>
      obtain ⟨others, rfl, related⟩ := Json.isEqual_array same
      exact any_congr related (fun item other same => isNamedType_congr same value)
  | string name => rw [Json.isEqual_string same]
  | _ =>
      cases second with
      | string name => exact absurd (Json.isEqual_string (Json.isEqual_symm same)) (by simp)
      | array names => exact absurd rfl (not_array_congr same (by simp) names)
      | _ => rfl

theorem enum_respectful : Respectful enum := by
  intro first second value same _ _
  cases first with
  | array members =>
      obtain ⟨others, rfl, related⟩ := Json.isEqual_array same
      exact any_congr related (fun item other same => Json.isEqual_congr same value)
  | _ =>
      cases second with
      | array members => exact absurd rfl (not_array_congr same (by simp) members)
      | _ => rfl

theorem const_respectful : Respectful isEqual :=
  fun _ _ value same _ _ => Json.isEqual_congr same value

theorem limit_respectful (size? : Json → Option Number) {admits : Number → Number → Bool}
    (respects : ∀ first second size, first.arranged = second.arranged →
      admits first size = admits second size) : Respectful (limit size? admits) := by
  intro first second value same _ _
  refine Json.number_congr (limit size? admits · value) (fun argument => ?_) ?_ same
  · cases argument <;> rfl
  · intro bound other forms
    cases found : size? value with
    | none => simp [limit, found]
    | some size => simpa [limit, found] using respects bound other size forms

theorem atMost_congr {first second : Number} (size : Number)
    (same : first.arranged = second.arranged) : atMost first size = atMost second size :=
  (Number.le_congr same size).2

theorem below_congr {first second : Number} (size : Number)
    (same : first.arranged = second.arranged) : below first size = below second size :=
  (Number.lt_congr same size).2

theorem atLeast_congr {first second : Number} (size : Number)
    (same : first.arranged = second.arranged) : atLeast first size = atLeast second size :=
  (Number.le_congr same size).1

theorem above_congr {first second : Number} (size : Number)
    (same : first.arranged = second.arranged) : above first size = above second size :=
  (Number.lt_congr same size).1

theorem multipleOf_respectful : Respectful multipleOf := by
  intro first second value same _ _
  refine Json.number_congr (multipleOf · value) (fun argument => ?_) ?_ same
  · cases argument <;> rfl
  · intro divisor other forms
    have exact : divisor.value? = other.value? := by
      rw [← Number.value?_arranged, forms, Number.value?_arranged]
    cases value <;> simp only [multipleOf, exact]

theorem uniqueItems_respectful : Respectful uniqueItems := by
  intro first second value same _ _
  cases first with
  | bool truth => rw [Json.isEqual_bool same]
  | _ =>
      cases second with
      | bool truth => exact absurd (Json.isEqual_bool (Json.isEqual_symm same)) (by simp)
      | _ => rfl

theorem hasMember_congr {first second : Json} (same : isEqual first second = true)
    (members : Members) : hasMember members first = hasMember members second := by
  cases first with
  | string name => rw [Json.isEqual_string same]
  | _ =>
      cases second with
      | string name => exact absurd (Json.isEqual_string (Json.isEqual_symm same)) (by simp)
      | _ => rfl

theorem required_congr {first second : Json} (same : isEqual first second = true) (value : Json) :
    required first value = required second value := by
  cases value with
  | object members =>
      cases first with
      | array names =>
          obtain ⟨others, rfl, related⟩ := Json.isEqual_array same
          exact all_congr related (fun item other same => hasMember_congr same members)
      | _ =>
          cases second with
          | array names => exact absurd rfl (not_array_congr same (by simp) names)
          | _ => rfl
  | _ => cases first <;> cases second <;> rfl

theorem required_respectful : Respectful required :=
  fun _ _ value same _ _ => required_congr same value

end Leaf

theorem all_entries_iff {entries : Members} (distinct : entries.Distinct)
    (test : String × Json → Bool) :
    entries.all test = true ↔
      ∀ name argument, entries.get? name = some argument → test (name, argument) = true := by
  rw [List.all_eq_true]
  constructor
  · intro every name argument found
    exact every _ (Members.mem_of_get? found)
  · intro every entry present
    exact every _ _ (Members.get?_of_mem distinct present)

theorem rel_imp {α β : Type} {first second : α → β → Prop}
    (step : ∀ x y, first x y → second x y) {x : Option α} {y : Option β}
    (related : Option.Rel first x y) : Option.Rel second x y := by
  cases related with
  | none => exact .none
  | some holds => exact .some (step _ _ holds)

theorem rel_swap {α β : Type} {relation : α → β → Prop} {x : Option α} {y : Option β}
    (related : Option.Rel relation x y) : Option.Rel (fun y x => relation x y) y x := by
  cases related with
  | none => exact .none
  | some holds => exact .some holds

theorem all_entries_of_related {entries others : Members} (distinct : entries.Distinct)
    (distinct' : others.Distinct) {test test' : String × Json → Bool}
    (related : ∀ name, Option.Rel (fun argument other => test (name, argument) = true →
      test' (name, other) = true) (entries.get? name) (others.get? name))
    (every : entries.all test = true) : others.all test' = true := by
  rw [all_entries_iff distinct] at every
  rw [all_entries_iff distinct']
  intro name other found'
  have pair := related name
  rw [found'] at pair
  cases found : entries.get? name with
  | none =>
      rw [found] at pair
      cases pair
  | some argument =>
      rw [found] at pair
      cases pair with
      | some step => exact step (every name argument found)

theorem all_entries_congr {entries others : Members} (distinct : entries.Distinct)
    (distinct' : others.Distinct) {test test' : String × Json → Bool}
    (related : ∀ name, Option.Rel (fun argument other => test (name, argument) = test' (name, other))
      (entries.get? name) (others.get? name)) : entries.all test = others.all test' := by
  rw [Bool.eq_iff_iff]
  constructor
  · apply all_entries_of_related distinct distinct'
    exact fun name => rel_imp (fun _ _ same holds => same ▸ holds) (related name)
  · apply all_entries_of_related distinct' distinct
    exact fun name => rel_imp (fun _ _ same holds => same.symm ▸ holds) (rel_swap (related name))

theorem Leaf.dependentRequired_respectful : Respectful Leaf.dependentRequired := by
  intro first second value same clean clean'
  cases first with
  | object entries =>
      have distinct := (Json.noRepeats_object.mp clean).1
      obtain ⟨others, rfl, related⟩ := Json.isEqual_object distinct same
      have distinct' := (Json.noRepeats_object.mp clean').1
      apply all_entries_congr distinct distinct'
      intro name
      refine rel_imp (fun argument other same => ?_) (related distinct' name)
      rw [Leaf.required_congr same]
  | _ =>
      cases second with
      | object entries =>
          obtain ⟨others, wrong, -⟩ :=
            Json.isEqual_object (Json.noRepeats_object.mp clean').1 (Json.isEqual_symm same)
          exact absurd wrong (by simp)
      | _ => rfl

end Schema

end SchemaMerge
