import Mathlib.Data.List.Nodup
import Mathlib.Data.List.Perm.Basic
import Mathlib.Data.List.Forall2
import Mathlib.Tactic
import SchemaMerge.Json.Basic

namespace SchemaMerge.Members

def Distinct (members : Members) : Prop := (members.map Prod.fst).Nodup

instance (members : Members) : Decidable members.Distinct :=
  inferInstanceAs (Decidable (members.map Prod.fst).Nodup)

@[simp] theorem get?_nil (key : String) : get? [] key = none := rfl

theorem get?_cons (name key : String) (value : Json) (rest : Members) :
    get? ((name, value) :: rest) key = if key = name then some value else rest.get? key := by
  by_cases same : key = name
  · simp [get?, same]
  · have differs : (key == name) = false := by simpa using same
    simp [get?, List.lookup_cons, same, differs]

theorem distinct_cons (member : String × Json) (rest : Members) :
    Distinct (member :: rest) ↔ (∀ other ∈ rest, other.1 ≠ member.1) ∧ rest.Distinct := by
  simp only [Distinct, List.map_cons, List.nodup_cons, List.mem_map, not_exists, not_and]

theorem mem_of_get? {members : Members} {key : String} {value : Json}
    (found : members.get? key = some value) : (key, value) ∈ members := by
  induction members with
  | nil => simp at found
  | cons member rest ih =>
      obtain ⟨name, other⟩ := member
      rw [get?_cons] at found
      split at found
      · next same =>
        have equal := Option.some.inj found
        simp [same, equal]
      · exact List.mem_cons_of_mem _ (ih found)

theorem get?_eq_none_iff {members : Members} {key : String} :
    members.get? key = none ↔ ∀ member ∈ members, member.1 ≠ key := by
  simp only [get?, List.lookup_eq_none_iff, bne_iff_ne]
  constructor
  · intro absent member present same
    exact absent member present same.symm
  · intro absent member present same
    exact absent member present same.symm

theorem get?_of_mem {members : Members} (distinct : members.Distinct) {key : String} {value : Json}
    (present : (key, value) ∈ members) : members.get? key = some value := by
  induction members with
  | nil => simp at present
  | cons member rest ih =>
      obtain ⟨name, other⟩ := member
      obtain ⟨fresh, distinct⟩ := (distinct_cons _ _).mp distinct
      rw [get?_cons]
      rcases List.mem_cons.mp present with same | present
      · obtain ⟨rfl, rfl⟩ := Prod.mk.inj same
        simp
      · rw [if_neg (fresh _ present), ih distinct present]

theorem get?_eq_some_iff {members : Members} (distinct : members.Distinct) {key : String}
    {value : Json} : members.get? key = some value ↔ (key, value) ∈ members :=
  ⟨mem_of_get?, get?_of_mem distinct⟩

theorem get?_perm {members others : Members} (same : members.Perm others)
    (distinct : members.Distinct) (key : String) : members.get? key = others.get? key := by
  have distinct' : others.Distinct := (same.map Prod.fst).nodup_iff.mp distinct
  apply Option.ext
  intro value
  rw [get?_eq_some_iff distinct, get?_eq_some_iff distinct', same.mem_iff]

theorem get?_append (members others : Members) (key : String) :
    get? (members ++ others) key = (members.get? key).or (others.get? key) := by
  simp only [get?, List.lookup_append]

theorem get?_set (members : Members) (key name : String) (value : Json) :
    (members.set key value).get? name = if name = key then some value else members.get? name := by
  induction members with
  | nil => simp [set, get?_cons]
  | cons member rest ih =>
      obtain ⟨first, old⟩ := member
      by_cases same : first = key
      · subst same
        by_cases asked : name = first <;> simp [set, get?_cons, asked]
      · by_cases asked : name = first
        · subst asked
          simp [set, get?_cons, same]
        · simp [set, get?_cons, same, asked, ih]

def restrict (keep : String → Bool) (members : Members) : Members :=
  members.filter fun member => keep member.1

theorem get?_restrict (keep : String → Bool) (members : Members) (key : String) :
    (members.restrict keep).get? key = if keep key then members.get? key else none := by
  induction members with
  | nil => simp [restrict]
  | cons member rest ih =>
      obtain ⟨name, value⟩ := member
      simp only [restrict] at ih ⊢
      rw [List.filter_cons, get?_cons]
      by_cases kept : keep name = true
      · rw [if_pos kept, get?_cons, ih]
        by_cases same : key = name
        · rw [if_pos same, if_pos same, same, if_pos kept]
        · rw [if_neg same, if_neg same]
      · rw [if_neg kept, ih]
        by_cases same : key = name
        · rw [same, if_neg kept, if_neg kept]
        · rw [if_neg same]

theorem get?_erase (members : Members) (key name : String) :
    (members.erase key).get? name = if name = key then none else members.get? name := by
  rw [show members.erase key = members.restrict (fun name => name ≠ key) from rfl, get?_restrict]
  by_cases same : name = key
  · simp [same]
  · simp [same]

theorem get?_of_erase {members : Members} {key name : String} {value : Json}
    (found : (members.erase key).get? name = some value) : members.get? name = some value := by
  rw [get?_erase] at found
  split at found
  · exact absurd found (by simp)
  · exact found

theorem mem_set {members : Members} {key : String} {value : Json} {member : String × Json}
    (present : member ∈ members.set key value) : member = (key, value) ∨ member ∈ members := by
  induction members with
  | nil => simpa [set] using present
  | cons other rest ih =>
      obtain ⟨first, old⟩ := other
      by_cases same : first = key
      · simp only [set, same, if_true, List.mem_cons] at present
        rcases present with found | found
        · exact Or.inl found
        · exact Or.inr (List.mem_cons_of_mem _ found)
      · simp only [set, same, if_false, List.mem_cons] at present
        rcases present with found | found
        · exact Or.inr (by simp [found])
        · exact (ih found).imp_right (List.mem_cons_of_mem _)

theorem distinct_set {members : Members} (distinct : members.Distinct) (key : String)
    (value : Json) : (members.set key value).Distinct := by
  induction members with
  | nil => simp [set, Distinct]
  | cons member rest ih =>
      obtain ⟨first, old⟩ := member
      obtain ⟨fresh, distinct⟩ := (distinct_cons _ _).mp distinct
      by_cases same : first = key
      · subst same
        simp only [set, if_true]
        exact (distinct_cons _ _).mpr ⟨fresh, distinct⟩
      · simp only [set, same, if_false]
        refine (distinct_cons _ _).mpr ⟨?_, ih distinct⟩
        intro other present
        rcases mem_set present with rfl | present
        · exact Ne.symm same
        · exact fresh other present

theorem distinct_sublist {members others : Members} (distinct : others.Distinct)
    (part : members.Sublist others) : members.Distinct :=
  List.Nodup.sublist (part.map Prod.fst) distinct

theorem distinct_erase {members : Members} (distinct : members.Distinct) (key : String) :
    (members.erase key).Distinct := distinct_sublist distinct List.filter_sublist

theorem distinct_snoc {members : Members} (distinct : members.Distinct) {key : String}
    (fresh : members.get? key = none) (value : Json) : Distinct (members ++ [(key, value)]) := by
  have absent : key ∉ members.map Prod.fst := by
    intro present
    obtain ⟨member, present, same⟩ := List.mem_map.mp present
    exact get?_eq_none_iff.mp fresh member present same
  simp only [Distinct, List.map_append, List.map_cons, List.map_nil]
  exact List.Nodup.append distinct (List.nodup_singleton _)
    (List.disjoint_singleton.mpr absent)

theorem get?_filter {members : Members} (distinct : members.Distinct)
    (keep : String × Json → Bool) (key : String) :
    get? (members.filter keep) key = (members.get? key).filter (fun value => keep (key, value)) := by
  apply Option.ext
  intro value
  rw [Option.filter_eq_some_iff, get?_eq_some_iff distinct,
    get?_eq_some_iff (distinct_sublist distinct List.filter_sublist), List.mem_filter]

theorem distinct_restrict {members : Members} (distinct : members.Distinct) (keep : String → Bool) :
    (members.restrict keep).Distinct := distinct_sublist distinct List.filter_sublist

theorem erase_restrict (keep : String → Bool) (members : Members) (key : String) :
    (members.erase key).restrict keep = (members.restrict keep).erase key := by
  unfold erase restrict
  rw [List.filter_filter, List.filter_filter]
  exact List.filter_congr fun member _ => Bool.and_comm _ _

theorem present?_eq_some_iff {members : Members} {key : String} {value : Json} :
    members.present? key = some value ↔ members.get? key = some value ∧ value ≠ .null := by
  unfold present?
  cases members.get? key with
  | none => simp
  | some found => cases found <;> simp <;> rintro rfl <;> simp

theorem present?_cons (name key : String) (value : Json) (rest : Members) :
    present? ((name, value) :: rest) key =
      if key = name then if value = .null then none else some value else rest.present? key := by
  unfold present?
  rw [get?_cons]
  by_cases same : key = name
  · rw [if_pos same, if_pos same]
    cases value <;> rfl
  · rw [if_neg same, if_neg same]

end SchemaMerge.Members
