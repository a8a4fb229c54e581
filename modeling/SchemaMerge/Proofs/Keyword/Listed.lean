import SchemaMerge.Proofs.Keyword.Number

namespace SchemaMerge

namespace Json

theorem unseen_eq_ok {seen values added : List Json} (made : unseen seen values = .ok added) :
    (∀ value ∈ values, value.isFinite = true) ∧ added.Sublist values ∧
      ∀ value ∈ values, value.arranged ∈ seen ∨ ∃ other ∈ added, other.arranged = value.arranged := by
  induction values generalizing seen added with
  | nil =>
      obtain rfl := Except.ok.inj made
      simp
  | cons value rest ih =>
      obtain ⟨form, formed, made⟩ := bind_eq_ok.mp made
      obtain ⟨finite, rfl⟩ := canonical_eq_ok.mp formed
      split at made
      · next old =>
        obtain ⟨finiteRest, part, found⟩ := ih made
        refine ⟨by simpa using ⟨finite, finiteRest⟩, part.cons value, ?_⟩
        intro other present
        rcases List.mem_cons.mp present with rfl | present
        · exact Or.inl (by simpa using old)
        · exact found other present
      · obtain ⟨others, madeRest, made⟩ := bind_eq_ok.mp made
        obtain rfl := Except.ok.inj made
        obtain ⟨finiteRest, part, found⟩ := ih madeRest
        refine ⟨by simpa using ⟨finite, finiteRest⟩, part.cons_cons value, ?_⟩
        intro other present
        rcases List.mem_cons.mp present with rfl | present
        · exact Or.inr ⟨other, by simp, rfl⟩
        · rcases found other present with old | ⟨kept, inside, same⟩
          · rcases List.mem_cons.mp old with same | old
            · exact Or.inr ⟨value, by simp, same.symm⟩
            · exact Or.inl old
          · exact Or.inr ⟨kept, List.mem_cons_of_mem _ inside, same⟩

theorem unionUnique_eq_ok {first second union : List Json}
    (made : unionUnique first second = .ok union) :
    ∃ added, union = first ++ added ∧ added.Sublist second ∧
      ∀ value ∈ second, ∃ other ∈ union, isEqual other value = true := by
  obtain ⟨seen, listed, made⟩ := bind_eq_ok.mp made
  obtain ⟨added, new, made⟩ := bind_eq_ok.mp made
  obtain rfl := Except.ok.inj made
  obtain ⟨finite, rfl⟩ := canonicalItems_eq_ok listed
  obtain ⟨finite', part, found⟩ := unseen_eq_ok new
  refine ⟨added, rfl, part, fun value present => ?_⟩
  rcases found value present with old | ⟨other, inside, same⟩
  · obtain ⟨other, inside, same⟩ := List.mem_map.mp old
    exact ⟨other, by simp [inside], isEqual_iff.mpr ⟨finite _ inside, finite' _ present, same⟩⟩
  · exact ⟨other, by simp [inside],
      isEqual_iff.mpr ⟨finite' _ (part.mem inside), finite' _ present, same⟩⟩

theorem all_unionUnique {first second union : List Json} {test : Json → Bool}
    (made : unionUnique first second = .ok union)
    (respects : ∀ value ∈ first ++ second, ∀ other ∈ second, isEqual value other = true →
      test value = test other) :
    union.all test = (first.all test && second.all test) := by
  obtain ⟨added, rfl, part, found⟩ := unionUnique_eq_ok made
  rw [List.all_append, Bool.eq_iff_iff, Bool.and_eq_true, Bool.and_eq_true, List.all_eq_true,
    List.all_eq_true, List.all_eq_true]
  constructor
  · rintro ⟨every, everyAdded⟩
    refine ⟨every, fun value present => ?_⟩
    obtain ⟨other, inside, same⟩ := found value present
    have known : other ∈ first ++ second := by
      rcases List.mem_append.mp inside with inside | inside
      · exact List.mem_append_left _ inside
      · exact List.mem_append_right _ (part.mem inside)
    rw [← respects other known value present same]
    rcases List.mem_append.mp inside with inside | inside
    · exact every other inside
    · exact everyAdded other inside
  · rintro ⟨every, everySecond⟩
    exact ⟨every, fun value inside => everySecond value (part.mem inside)⟩

end Json

namespace Schema

open Json (isEqual membersOf)

theorem unionUnique_eq_ok {first second union : List Json}
    (made : unionUnique first second = .ok union) : Json.unionUnique first second = .ok union :=
  finitely_eq_ok.mp made

theorem required_union {names others union : List Json}
    (made : unionUnique names others = .ok union) (value : Json) :
    Leaf.required (.array union) value =
      (Leaf.required (.array names) value && Leaf.required (.array others) value) := by
  cases value with
  | object members =>
      exact Json.all_unionUnique (unionUnique_eq_ok made)
        (fun name _ other _ same => Leaf.hasMember_congr same members)
  | _ => rfl

theorem mem_union {values others union : List Json} (made : unionUnique values others = .ok union)
    {value : Json} (inside : value ∈ union) : value ∈ values ++ others := by
  obtain ⟨added, rfl, part, -⟩ := Json.unionUnique_eq_ok (unionUnique_eq_ok made)
  exact (part.append_left values).mem inside

variable {first second combined : Json}

theorem union_eq_ok {name : String} (made : (do
      let values ← asArray name first
      let others ← asArray name second
      return Json.array (← unionUnique values others)) = .ok combined) :
    ∃ values others union, first = .array values ∧ second = .array others ∧ combined = .array union ∧
      unionUnique values others = .ok union := by
  obtain ⟨values, read, made⟩ := bind_eq_ok.mp made
  obtain ⟨others, read', made⟩ := bind_eq_ok.mp made
  obtain ⟨union, joined, built⟩ := bind_eq_ok.mp made
  exact ⟨values, others, union, asArray_eq_ok.mp read, asArray_eq_ok.mp read',
    (pure_eq_ok.mp built).symm, joined⟩

theorem required_asksBoth (made : Keyword.required first second = .ok combined) :
    AsksBoth Leaf.required first second combined := by
  obtain ⟨names, others, union, rfl, rfl, rfl, joined⟩ := union_eq_ok made
  exact required_union joined

theorem either_asksBoth (made : Keyword.either first second = .ok combined) :
    AsksBoth Leaf.uniqueItems first second combined := by
  unfold Keyword.either at made
  split at made
  · next truth other =>
    obtain rfl := pure_eq_ok.mp made
    intro value
    cases truth <;> cases other <;> simp [Leaf.uniqueItems]
  · exact absurd made (by simp)

theorem filter_zip_map {values : List Json} (allowed : List Json) :
    ((values.zip (values.map Json.arranged)).filter (fun entry => allowed.contains entry.2)).map
      (·.1) = values.filter (fun value => allowed.contains value.arranged) := by
  induction values with
  | nil => rfl
  | cons value rest ih =>
      rw [List.map_cons, List.zip_cons_cons, List.filter_cons, List.filter_cons]
      split
      · rw [List.map_cons, ih]
      · rw [ih]

theorem enum_eq_ok (made : Keyword.enum first second = .ok combined) :
    ∃ values others, first = .array values ∧ second = .array others ∧
      (∀ value ∈ values, value.isFinite = true) ∧ (∀ value ∈ others, value.isFinite = true) ∧
      combined = .array
        (values.filter (fun value => (others.map Json.arranged).contains value.arranged)) := by
  obtain ⟨values, read, made⟩ := bind_eq_ok.mp made
  obtain ⟨others, read', made⟩ := bind_eq_ok.mp made
  refine ⟨values, others, asArray_eq_ok.mp read, asArray_eq_ok.mp read', ?_⟩
  split at made
  · obtain ⟨_, wrong, _⟩ := bind_eq_ok.mp made
    exact absurd wrong (by simp)
  · obtain ⟨allowed, listed, made⟩ := bind_eq_ok.mp made
    obtain ⟨forms, listed', made⟩ := bind_eq_ok.mp made
    obtain ⟨finite', rfl⟩ := Json.canonicalItems_eq_ok (finitely_eq_ok.mp listed)
    obtain ⟨finite, rfl⟩ := Json.canonicalItems_eq_ok (finitely_eq_ok.mp listed')
    rw [← filter_zip_map]
    dsimp only at made
    split at made
    · obtain ⟨_, wrong, _⟩ := bind_eq_ok.mp made
      exact absurd wrong (by simp)
    · exact ⟨finite, finite', (pure_eq_ok.mp made).symm⟩

theorem enum_asksBoth (made : Keyword.enum first second = .ok combined) :
    AsksBoth Leaf.enum first second combined := by
  obtain ⟨values, others, rfl, rfl, finite, finite', rfl⟩ := enum_eq_ok made
  intro value
  simp only [Leaf.enum]
  rw [Bool.eq_iff_iff, Bool.and_eq_true, List.any_eq_true, List.any_eq_true, List.any_eq_true]
  constructor
  · rintro ⟨member, inside, same⟩
    obtain ⟨inside, allowed⟩ := List.mem_filter.mp inside
    obtain ⟨other, inside', form⟩ := List.mem_map.mp (List.contains_iff_mem.mp allowed)
    have agree : isEqual other member = true :=
      Json.isEqual_iff.mpr ⟨finite' _ inside', finite _ inside, form⟩
    exact ⟨⟨member, inside, same⟩, other, inside', Json.isEqual_trans agree same⟩
  · rintro ⟨⟨member, inside, same⟩, other, inside', same'⟩
    have form := (Json.isEqual_iff.mp (Json.isEqual_trans same' (Json.isEqual_symm same))).2.2
    refine ⟨member, List.mem_filter.mpr ⟨inside, ?_⟩, same⟩
    exact List.contains_iff_mem.mpr (List.mem_map.mpr ⟨other, inside', form⟩)

theorem typeNamesOf_eq_ok {whole : Json} {items : List Json} {names : List String}
    (made : Keyword.typeNamesOf whole items = .ok names) : items = names.map Json.string := by
  induction items generalizing names with
  | nil =>
      obtain rfl := pure_eq_ok.mp made
      rfl
  | cons item rest ih =>
      cases item with
      | string name =>
          obtain ⟨others, read, made⟩ := bind_eq_ok.mp made
          obtain rfl := pure_eq_ok.mp made
          rw [ih read, List.map_cons]
      | _ => exact absurd made (by simp [Keyword.typeNamesOf])

theorem type_of_names {argument : Json} {names : List String}
    (made : Keyword.typeNames argument = .ok names) (value : Json) :
    Leaf.type argument value = names.any (fun name => Leaf.hasType name value) := by
  cases argument with
  | array items =>
      obtain rfl := typeNamesOf_eq_ok made
      simp [Leaf.type, List.any_map, Function.comp_def, Leaf.isNamedType]
  | string name =>
      have one := typeNamesOf_eq_ok made
      cases names with
      | nil => simp at one
      | cons first rest =>
          simp only [List.map_cons, List.cons.injEq, Json.string.injEq, List.nil_eq,
            List.map_eq_nil_iff] at one
          obtain ⟨rfl, rfl⟩ := one
          simp [Leaf.type]
  | _ => exact absurd made (by simp [Keyword.typeNames, Keyword.typeNamesOf])

/-- Two types of one value are the same, or one of them is that of the integers among the numbers. -/
theorem hasType_unique {first second : String} {value : Json}
    (has : Leaf.hasType first value = true) (has' : Leaf.hasType second value = true) :
    first = second ∨ (first = "integer" ∧ second = "number") ∨
      (first = "number" ∧ second = "integer") := by
  unfold Leaf.hasType at has has'
  split at has <;> split at has' <;> simp_all

theorem commonType?_has {others : List String} {name common : String} {value : Json}
    (found : Keyword.commonType? others name = some common)
    (has : Leaf.hasType common value = true) :
    Leaf.hasType name value = true ∧ ∃ other ∈ others, Leaf.hasType other value = true := by
  have number : Leaf.hasType "integer" value = true → Leaf.hasType "number" value = true := by
    cases value <;> simp [Leaf.hasType]
  unfold Keyword.commonType? at found
  split at found
  · next inside =>
    obtain rfl := Option.some.inj found
    exact ⟨has, name, by simpa using inside, has⟩
  · split at found
    · next cases =>
      obtain rfl := Option.some.inj found
      simp only [Bool.and_eq_true, decide_eq_true_eq] at cases
      obtain ⟨rfl, inside⟩ := cases
      exact ⟨has, "number", by simpa using inside, number has⟩
    · split at found
      · next cases =>
        obtain rfl := Option.some.inj found
        simp only [Bool.and_eq_true, decide_eq_true_eq] at cases
        obtain ⟨rfl, inside⟩ := cases
        exact ⟨number has, "integer", by simpa using inside, has⟩
      · exact absurd found (by simp)

theorem commonType?_of_has {others : List String} {name other : String} {value : Json}
    (inside : other ∈ others) (has : Leaf.hasType name value = true)
    (has' : Leaf.hasType other value = true) :
    ∃ common, Keyword.commonType? others name = some common ∧
      Leaf.hasType common value = true := by
  by_cases listed : others.contains name = true
  · exact ⟨name, by rw [Keyword.commonType?, if_pos listed], has⟩
  · rcases hasType_unique has has' with rfl | ⟨rfl, rfl⟩ | ⟨rfl, rfl⟩
    · exact absurd (by simpa using inside) listed
    · exact ⟨"integer", by simp [Keyword.commonType?, inside], has⟩
    · refine ⟨"integer", ?_, has'⟩
      simp only [List.contains_eq_mem, decide_eq_true_eq] at listed
      simp [Keyword.commonType?, inside, listed]

theorem type_cases (made : Keyword.type first second = .ok combined) :
    ∃ names others common, Keyword.typeNames first = .ok names ∧
      Keyword.typeNames second = .ok others ∧
      common = (names.filterMap (Keyword.commonType? others)).eraseDups ∧ common ≠ [] ∧
      ((∃ name, common = [name] ∧ combined = .string name) ∨
        (common.length ≠ 1 ∧ combined = .array (common.map .string))) := by
  obtain ⟨names, read, made⟩ := bind_eq_ok.mp made
  obtain ⟨others, read', made⟩ := bind_eq_ok.mp made
  refine ⟨names, others, _, read, read', rfl, ?_⟩
  split at made
  · exact absurd made (by simp)
  · next name one =>
    exact ⟨by simp [one], Or.inl ⟨name, one, (pure_eq_ok.mp made).symm⟩⟩
  · next nonempty several =>
    refine ⟨nonempty, Or.inr ⟨fun single => ?_, (pure_eq_ok.mp made).symm⟩⟩
    obtain ⟨name, is⟩ := List.length_eq_one_iff.mp single
    exact several name is

theorem type_asksBoth (made : Keyword.type first second = .ok combined) :
    AsksBoth Leaf.type first second combined := by
  obtain ⟨names, others, common, read, read', is, -, written⟩ := type_cases made
  intro value
  have reads : Leaf.type combined value = common.any (fun name => Leaf.hasType name value) := by
    rcases written with ⟨name, one, rfl⟩ | ⟨-, rfl⟩
    · simp [one, Leaf.type]
    · simp [Leaf.type, List.any_map, Function.comp_def, Leaf.isNamedType]
  rw [reads, is, type_of_names read, type_of_names read', Bool.eq_iff_iff, Bool.and_eq_true,
    List.any_eq_true, List.any_eq_true, List.any_eq_true]
  constructor
  · rintro ⟨common, inside, has⟩
    obtain ⟨name, listed, found⟩ := List.mem_filterMap.mp (List.mem_eraseDups.mp inside)
    have ⟨hasName, hasOther⟩ := commonType?_has found has
    exact ⟨⟨name, listed, hasName⟩, hasOther⟩
  · rintro ⟨⟨name, listed, has⟩, other, listed', has'⟩
    obtain ⟨common, found, hasCommon⟩ := commonType?_of_has listed' has has'
    exact ⟨common, List.mem_eraseDups.mpr (List.mem_filterMap.mpr ⟨name, listed, found⟩), hasCommon⟩

end Schema

end SchemaMerge
