import SchemaMerge.Proofs.Keyword.Listed

namespace SchemaMerge.Schema

open Json (membersOf)

variable {first second combined : Json}

theorem asEntries_eq_ok {value : Json} {entries : Members}
    (made : Keyword.asEntries value = .ok entries) : value = .object entries := by
  cases value <;> simp_all [Keyword.asEntries]

theorem asNames_eq_ok {entry : String} {value : Json} {names : List Json}
    (made : Keyword.asNames entry value = .ok names) : value = .array names := by
  cases value <;> simp_all [Keyword.asNames]

def asksFor (entries : Members) (name : String) (value : Json) : Bool :=
  (entries.get? name).all fun names => !(membersOf value).contains name || Leaf.required names value

theorem dependentRequired_eq_true {entries : Members} (distinct : entries.Distinct) (value : Json) :
    Leaf.dependentRequired (.object entries) value = true ↔
      ∀ name, asksFor entries name value = true := by
  simp only [Leaf.dependentRequired, all_entries_iff distinct, asksFor, Option.all_eq_true]

theorem asksFor_cons {name : String} {names : Json} {rest : Members}
    (fresh : rest.get? name = none) (key : String) (value : Json) :
    asksFor ((name, names) :: rest) key value =
      ((key != name || !(membersOf value).contains name || Leaf.required names value) &&
        asksFor rest key value) := by
  unfold asksFor
  rw [Members.get?_cons]
  by_cases asked : key = name
  · subst asked
    simp [fresh]
  · simp [asked]

theorem asksFor_set {name : String} {names : Json} {entries : Members} (key : String)
    (value : Json) :
    asksFor (entries.set name names) key value =
      if key = name then !(membersOf value).contains name || Leaf.required names value
      else asksFor entries key value := by
  unfold asksFor
  rw [Members.get?_set]
  by_cases asked : key = name
  · simp [asked]
  · simp [asked]

/-- A list joins the names under one key; where the first side names nothing, it is the second's. -/
def Joins (first : Members) (name : String) (others joined : List Json) : Prop :=
  ((first.present? name = none ∨ first.present? name = some (.array [])) ∧ joined = others) ∨
    ∃ names, first.present? name = some (.array names) ∧ unionUnique names others = .ok joined

theorem dependentEntries_cons_ok {first merged rest out : Members} {name : String} {value : Json}
    (set : value ≠ .null)
    (made : Keyword.dependentEntries first merged ((name, value) :: rest) = .ok out) :
    ∃ others joined, value = .array others ∧ Joins first name others joined ∧
      Keyword.dependentEntries first (merged.set name (.array joined)) rest = .ok out := by
  rw [Keyword.dependentEntries.eq_3 _ _ _ _ _ (fun null => set null)] at made
  obtain ⟨others, read, made⟩ := bind_eq_ok.mp made
  have is := asNames_eq_ok read
  dsimp only at made
  split at made
  · next missing =>
    obtain ⟨joined, built, made⟩ := bind_eq_ok.mp made
    obtain rfl := pure_eq_ok.mp built
    exact ⟨others, others, is, Or.inl ⟨Or.inl missing, rfl⟩, made⟩
  · next found =>
    obtain ⟨names, read', made⟩ := bind_eq_ok.mp made
    rw [asNames_eq_ok read'] at found
    split at made
    · next empty =>
      rw [List.isEmpty_iff.mp empty] at found
      exact ⟨others, others, is, Or.inl ⟨Or.inr found, rfl⟩, made⟩
    · obtain ⟨joined, union, made⟩ := bind_eq_ok.mp made
      exact ⟨others, joined, is, Or.inr ⟨names, found, union⟩, made⟩

theorem required_joined {first : Members} {name : String} {others joined : List Json}
    (joins : Joins first name others joined) (value : Json) :
    Leaf.required (.array joined) value =
      ((first.get? name).all (fun names => Leaf.required names value) &&
        Leaf.required (.array others) value) := by
  rcases joins with ⟨empty, rfl⟩ | ⟨names, found, union⟩
  · suffices nothing : (first.get? name).all (fun names => Leaf.required names value) = true by
      rw [nothing, Bool.true_and]
    rcases empty with missing | empty
    · unfold Members.present? at missing
      split at missing
      · next null => simp [null, Leaf.required]
      · simp [missing]
    · rw [(Members.present?_eq_some_iff.mp empty).1]
      cases value <;> rfl
  · rw [(Members.present?_eq_some_iff.mp found).1, Option.all_some, required_union union]

theorem dependentEntries_asks {first merged entries out : Members}
    (made : Keyword.dependentEntries first merged entries = .ok out) (distinct : entries.Distinct)
    (untouched : ∀ entry ∈ entries, merged.get? entry.1 = first.get? entry.1) (name : String)
    (value : Json) :
    asksFor out name value = (asksFor merged name value && asksFor entries name value) := by
  induction entries generalizing merged with
  | nil =>
      obtain rfl := pure_eq_ok.mp made
      simp [asksFor]
  | cons entry rest ih =>
      obtain ⟨key, names⟩ := entry
      obtain ⟨fresh, distinctRest⟩ := (Members.distinct_cons _ _).mp distinct
      have same := untouched (key, names) (by simp)
      have remaining : ∀ entry ∈ rest, merged.get? entry.1 = first.get? entry.1 :=
        fun entry present => untouched entry (List.mem_cons_of_mem _ present)
      rw [asksFor_cons (Members.get?_eq_none_iff.mpr fresh)]
      by_cases null : names = .null
      · subst null
        rw [ih made distinctRest remaining]
        simp [Leaf.required]
      · obtain ⟨others, joined, rfl, joins, made⟩ := dependentEntries_cons_ok null made
        have kept : ∀ entry ∈ rest,
            (merged.set key (.array joined)).get? entry.1 = first.get? entry.1 := by
          intro entry present
          rw [Members.get?_set, if_neg (fresh entry present), remaining entry present]
        rw [ih made distinctRest kept, asksFor_set]
        split
        · next asked =>
          subst asked
          rw [required_joined joins]
          unfold asksFor
          rw [same]
          cases first.get? name <;> cases (membersOf value).contains name <;> simp [Bool.and_assoc]
        · next other => rw [bne_iff_ne.mpr other, Bool.true_or, Bool.true_or, Bool.true_and]

theorem dependentEntries_distinct {first merged entries out : Members}
    (made : Keyword.dependentEntries first merged entries = .ok out) (distinct : merged.Distinct) :
    out.Distinct := by
  induction entries generalizing merged with
  | nil =>
      obtain rfl := pure_eq_ok.mp made
      exact distinct
  | cons entry rest ih =>
      obtain ⟨key, names⟩ := entry
      by_cases null : names = .null
      · subst null
        exact ih made distinct
      · obtain ⟨others, joined, -, -, made⟩ := dependentEntries_cons_ok null made
        exact ih made (Members.distinct_set distinct _ _)

theorem dependentRequired_eq_ok (made : Keyword.dependentRequired first second = .ok combined) :
    ∃ entries others out, first = .object entries ∧ second = .object others ∧
      Keyword.dependentEntries entries entries others = .ok out ∧ combined = .object out := by
  obtain ⟨entries, read, made⟩ := bind_eq_ok.mp made
  obtain ⟨others, read', made⟩ := bind_eq_ok.mp made
  obtain ⟨out, merged, built⟩ := bind_eq_ok.mp made
  exact ⟨entries, others, out, asEntries_eq_ok read, asEntries_eq_ok read', merged,
    (pure_eq_ok.mp built).symm⟩

theorem dependentRequired_asksBoth (made : Keyword.dependentRequired first second = .ok combined)
    (clean : first.noRepeats = true) (clean' : second.noRepeats = true) :
    AsksBoth Leaf.dependentRequired first second combined := by
  obtain ⟨entries, others, out, rfl, rfl, merged, rfl⟩ := dependentRequired_eq_ok made
  have distinct := (Json.noRepeats_object.mp clean).1
  have distinct' := (Json.noRepeats_object.mp clean').1
  intro value
  rw [Bool.eq_iff_iff, Bool.and_eq_true,
    dependentRequired_eq_true (dependentEntries_distinct merged distinct),
    dependentRequired_eq_true distinct, dependentRequired_eq_true distinct', ← forall_and]
  refine forall_congr' fun name => ?_
  rw [dependentEntries_asks merged distinct' (fun _ _ => rfl), Bool.and_eq_true]

end SchemaMerge.Schema
