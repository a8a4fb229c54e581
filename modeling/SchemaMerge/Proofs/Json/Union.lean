import SchemaMerge.Proofs.Proper.Keyword

/-!
The union of two lists without repetition. Values are told apart by their canonical forms, so what
is added to the first list depends only on which forms have been seen. From that the union is
associative, with the same representatives in the same order.
-/

namespace SchemaMerge.Json

variable {seen others values first second : List Json} {value : Json}

/-- The values whose form is neither among those seen nor that of a value before. -/
def fresh (seen : List Json) : List Json → List Json
  | [] => []
  | value :: values =>
    if value.arranged ∈ seen then fresh seen values else value :: fresh (value.arranged :: seen) values

def union (first second : List Json) : List Json := first ++ fresh (first.map arranged) second

theorem fresh_of_mem (old : value.arranged ∈ seen) (values : List Json) :
    fresh seen (value :: values) = fresh seen values := if_pos old

theorem fresh_of_not_mem (new : value.arranged ∉ seen) (values : List Json) :
    fresh seen (value :: values) = value :: fresh (value.arranged :: seen) values := if_neg new

theorem unseen_of_finite (finite : ∀ value ∈ values, value.isFinite = true) :
    unseen seen values = .ok (fresh seen values) := by
  induction values generalizing seen with
  | nil => rfl
  | cons value rest ih =>
      obtain ⟨head, tail⟩ := List.forall_mem_cons.mp finite
      have formed : canonical value = .ok value.arranged := canonical_eq_ok.mpr ⟨head, rfl⟩
      rw [unseen, formed]
      dsimp only [bind, Except.bind]
      by_cases old : value.arranged ∈ seen
      · rw [if_pos (by simpa using old), ih tail, fresh_of_mem old]
      · rw [if_neg (by simpa using old), ih tail, fresh_of_not_mem old]

theorem unionUnique_iff {joined : List Json} : unionUnique first second = .ok joined ↔
    (∀ value ∈ first, value.isFinite = true) ∧ (∀ value ∈ second, value.isFinite = true) ∧
      joined = union first second := by
  constructor
  · intro made
    obtain ⟨seen, listed, made⟩ := bind_eq_ok.mp made
    obtain ⟨added, new, made⟩ := bind_eq_ok.mp made
    obtain ⟨finite, rfl⟩ := canonicalItems_eq_ok listed
    have finite' := (unseen_eq_ok new).1
    rw [unseen_of_finite finite'] at new
    obtain rfl := Except.ok.inj new
    exact ⟨finite, finite', (Except.ok.inj made).symm⟩
  · rintro ⟨finite, finite', rfl⟩
    rw [unionUnique, canonicalItems_of_finite finite]
    dsimp only [bind, Except.bind]
    rw [unseen_of_finite finite', union]

theorem fresh_congr (same : ∀ form, form ∈ seen ↔ form ∈ others) (values : List Json) :
    fresh seen values = fresh others values := by
  induction values generalizing seen others with
  | nil => rfl
  | cons value rest ih =>
      by_cases old : value.arranged ∈ seen
      · rw [fresh_of_mem old, fresh_of_mem ((same _).mp old), ih same]
      · have more : ∀ form, form ∈ value.arranged :: seen ↔ form ∈ value.arranged :: others := by
          intro form
          rw [List.mem_cons, List.mem_cons, same]
        rw [fresh_of_not_mem old, fresh_of_not_mem fun seen => old ((same _).mpr seen), ih more]

theorem mem_append_cons_of_mem {old form : Json} (known : old ∈ seen) :
    form ∈ seen ++ old :: others ↔ form ∈ seen ++ others := by
  rw [List.mem_append, List.mem_append, List.mem_cons]
  constructor
  · rintro (before | rfl | after)
    · exact Or.inl before
    · exact Or.inl known
    · exact Or.inr after
  · exact Or.imp_right Or.inr

theorem fresh_append (seen first second : List Json) :
    fresh seen (first ++ second) = fresh seen first ++ fresh (seen ++ first.map arranged) second := by
  induction first generalizing seen with
  | nil => rw [List.map_nil, List.append_nil, List.nil_append]; rfl
  | cons value rest ih =>
      rw [List.cons_append, List.map_cons]
      by_cases old : value.arranged ∈ seen
      · rw [fresh_of_mem old, fresh_of_mem old, ih]
        congr 1
        exact fresh_congr (fun _ => (mem_append_cons_of_mem old).symm) second
      · rw [fresh_of_not_mem old, fresh_of_not_mem old, ih, List.cons_append]
        congr 2
        apply fresh_congr
        intro form
        simp only [List.mem_append, List.mem_cons]
        tauto

/-- What is new after more forms have been seen is among what was new before. -/
theorem fresh_fresh (fewer : ∀ form ∈ others, form ∈ seen) (values : List Json) :
    fresh seen (fresh others values) = fresh seen values := by
  induction values generalizing seen others with
  | nil => rfl
  | cons value rest ih =>
      by_cases known : value.arranged ∈ others
      · rw [fresh_of_mem known, fresh_of_mem (fewer _ known), ih fewer]
      · rw [fresh_of_not_mem known]
        by_cases old : value.arranged ∈ seen
        · rw [fresh_of_mem old, fresh_of_mem old]
          exact ih (List.forall_mem_cons.mpr ⟨old, fewer⟩)
        · rw [fresh_of_not_mem old, fresh_of_not_mem old]
          congr 1
          apply ih
          intro form inside
          rcases List.mem_cons.mp inside with rfl | inside
          · exact List.mem_cons_self
          · exact List.mem_cons_of_mem _ (fewer form inside)

theorem fresh_of_seen (known : ∀ value ∈ values, value.arranged ∈ seen) : fresh seen values = [] := by
  induction values with
  | nil => rfl
  | cons value rest ih =>
      obtain ⟨head, tail⟩ := List.forall_mem_cons.mp known
      rw [fresh_of_mem head, ih tail]

theorem mem_seen_fresh (form : Json) : form ∈ seen ++ (fresh seen values).map arranged ↔
    form ∈ seen ++ values.map arranged := by
  induction values generalizing seen with
  | nil => rfl
  | cons value rest ih =>
      by_cases old : value.arranged ∈ seen
      · rw [fresh_of_mem old, ih, List.map_cons, mem_append_cons_of_mem old]
      · have later := @ih (value.arranged :: seen)
        rw [fresh_of_not_mem old]
        simp only [List.mem_append, List.map_cons, List.mem_cons] at later ⊢
        tauto

theorem union_of_known (known : ∀ value ∈ second, value.arranged ∈ first.map arranged) :
    union first second = first := by
  rw [union, fresh_of_seen known, List.append_nil]

theorem union_self (values : List Json) : union values values = values :=
  union_of_known fun _ inside => List.mem_map_of_mem inside

theorem union_assoc (first second third : List Json) :
    union (union first second) third = union first (union second third) := by
  have seen : fresh ((union first second).map arranged) third =
      fresh (first.map arranged ++ second.map arranged) third := by
    apply fresh_congr
    intro form
    rw [union, List.map_append]
    exact mem_seen_fresh form
  have later : fresh (first.map arranged ++ second.map arranged) (fresh (second.map arranged) third) =
      fresh (first.map arranged ++ second.map arranged) third :=
    fresh_fresh (fun _ inside => List.mem_append_right _ inside) third
  calc
    union (union first second) third
      = first ++ fresh (first.map arranged) second ++
          fresh (first.map arranged ++ second.map arranged) third := by
        rw [union, seen, union]
    _ = first ++ (fresh (first.map arranged) second ++
          fresh (first.map arranged ++ second.map arranged) (fresh (second.map arranged) third)) := by
        rw [later, List.append_assoc]
    _ = union first (union second third) := by
        rw [union, union, fresh_append]

instance : Std.Associative union := ⟨union_assoc⟩

/-- What a list adds to another: each kind of value that the other one lacks, by the first of its kind,
in order. -/
structure AddsNew (first second added : List Json) : Prop where
  part : added.Sublist second
  new : ∀ value ∈ added, ∀ other ∈ first, isEqual value other = false
  distinct : added.Pairwise fun value other => isEqual value other = false
  earliest : ∀ value ∈ added, second.find? (isEqual value) = some value
  covers : ∀ value ∈ second, ∃ other ∈ first ++ added, isEqual value other = true

theorem isEqual_eq_false {other : Json} (differ : value.arranged ≠ other.arranged) :
    isEqual value other = false := by
  rw [Bool.eq_false_iff]
  intro same
  exact differ (isEqual_iff.mp same).2.2

theorem arranged_ne_of_mem_fresh {form : Json} (finite : ∀ other ∈ values, other.isFinite = true)
    (inside : value ∈ fresh seen values) (known : form ∈ seen) : value.arranged ≠ form := by
  rintro rfl
  exact (Schema.unseen_nodup (unseen_of_finite finite)).2 value inside known

theorem find?_of_mem_fresh (finite : ∀ other ∈ values, other.isFinite = true)
    (inside : value ∈ fresh seen values) : values.find? (isEqual value) = some value := by
  induction values generalizing seen with
  | nil => cases inside
  | cons other rest ih =>
      obtain ⟨head, tail⟩ := List.forall_mem_cons.mp finite
      rw [List.find?_cons]
      by_cases old : other.arranged ∈ seen
      · rw [fresh_of_mem old] at inside
        rw [isEqual_eq_false (arranged_ne_of_mem_fresh tail inside old)]
        exact ih tail inside
      · rw [fresh_of_not_mem old] at inside
        rcases List.mem_cons.mp inside with rfl | inside
        · rw [isEqual_refl head]
        · rw [isEqual_eq_false (arranged_ne_of_mem_fresh tail inside List.mem_cons_self)]
          exact ih tail inside

theorem addsNew_fresh (finite : ∀ value ∈ first, value.isFinite = true)
    (finite' : ∀ value ∈ second, value.isFinite = true) :
    AddsNew first second (fresh (first.map arranged) second) := by
  have listed : unseen (first.map arranged) second = .ok (fresh (first.map arranged) second) :=
    unseen_of_finite finite'
  have joined : unionUnique first second = .ok (union first second) :=
    unionUnique_iff.mpr ⟨finite, finite', rfl⟩
  obtain ⟨-, part, -⟩ := unseen_eq_ok listed
  obtain ⟨distinct, new⟩ := Schema.unseen_nodup listed
  obtain ⟨_, -, -, covers⟩ := unionUnique_eq_ok joined
  constructor
  · exact part
  · intro value inside other inside'
    apply isEqual_eq_false
    intro same
    exact new value inside (same ▸ List.mem_map_of_mem inside')
  · exact (List.pairwise_map.mp distinct).imp isEqual_eq_false
  · exact fun value inside => find?_of_mem_fresh finite' inside
  · intro value inside
    obtain ⟨other, listed, same⟩ := covers value inside
    exact ⟨other, listed, isEqual_symm same⟩

theorem finite_union (finite : ∀ value ∈ first, value.isFinite = true)
    (finite' : ∀ value ∈ second, value.isFinite = true) :
    ∀ value ∈ union first second, value.isFinite = true := by
  intro value inside
  rcases List.mem_append.mp inside with inside | inside
  · exact finite value inside
  · exact finite' value ((addsNew_fresh finite finite').part.mem inside)

end SchemaMerge.Json
