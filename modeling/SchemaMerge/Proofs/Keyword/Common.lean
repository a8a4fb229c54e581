import SchemaMerge.Proofs.Proper.Keyword

namespace SchemaMerge.Schema

open Form (basicTypes)
open Json (isEqual)

variable {first second met : Json}

/-- A basic type, or a list of basic types in any order, each as often as one likes. -/
def AreBasicTypes : Json → Prop
  | .string name => name ∈ basicTypes
  | .array items => ∀ item ∈ items, ∃ name ∈ basicTypes, item = .string name
  | _ => False

def HasBothTypes (first second value : Json) : Prop :=
  Leaf.type first value = true ∧ Leaf.type second value = true

theorem exists_hasType {name : String} (known : name ∈ basicTypes) :
    ∃ value, Leaf.hasType name value = true := by
  simp only [basicTypes, List.mem_cons, List.not_mem_nil, or_false] at known
  rcases known with rfl | rfl | rfl | rfl | rfl | rfl | rfl
  · exact ⟨.null, rfl⟩
  · exact ⟨.bool true, rfl⟩
  · exact ⟨.object [], rfl⟩
  · exact ⟨.array [], rfl⟩
  · exact ⟨.number (.int 0), rfl⟩
  · exact ⟨.string "", rfl⟩
  · exact ⟨.number (.int 0), rfl⟩

theorem typeNamesOf_map_string (whole : Json) (names : List String) :
    Keyword.typeNamesOf whole (names.map .string) = .ok names := by
  induction names with
  | nil => rfl
  | cons name rest ih =>
      rw [List.map_cons, Keyword.typeNamesOf, ih]
      rfl

theorem typeNames_of_areBasic {value : Json} (basic : AreBasicTypes value) :
    ∃ names, Keyword.typeNames value = .ok names ∧ ∀ name ∈ names, name ∈ basicTypes := by
  cases value with
  | string name => exact ⟨[name], rfl, List.forall_mem_singleton.mpr basic⟩
  | array items =>
      have strings : ∀ item ∈ items, ∃ name, item = .string name := by
        intro item inside
        obtain ⟨name, -, is⟩ := basic item inside
        exact ⟨name, is⟩
      obtain ⟨names, rfl⟩ := exists_names strings
      refine ⟨names, typeNamesOf_map_string _ names, ?_⟩
      intro name inside
      obtain ⟨other, known, same⟩ := basic (.string name) (List.mem_map_of_mem inside)
      rwa [Json.string.inj same]
  | _ => exact basic.elim

theorem type_eq_ok (made : Keyword.type first second = .ok met) :
    ∃ names others, Keyword.typeNames first = .ok names ∧ Keyword.typeNames second = .ok others ∧
      ∃ common, common = (names.filterMap (Keyword.commonType? others)).eraseDups ∧ common ≠ [] ∧
        Keyword.typeNames met = .ok common ∧ ((∃ name, met = .string name) ↔ common.length = 1) := by
  obtain ⟨names, others, common, read, read', is, nonempty, written⟩ := type_cases made
  refine ⟨names, others, read, read', common, is, nonempty, ?_⟩
  rcases written with ⟨name, rfl, rfl⟩ | ⟨several, rfl⟩
  · exact ⟨rfl, by simp⟩
  · exact ⟨typeNamesOf_map_string _ _, by simp [several]⟩

theorem exists_hasBothTypes (basic : AreBasicTypes first) (made : Keyword.type first second = .ok met) :
    ∃ value, HasBothTypes first second value := by
  obtain ⟨names, others, read, -, common, is, nonempty, named, -⟩ := type_eq_ok made
  obtain ⟨name, inside⟩ := List.exists_mem_of_ne_nil common nonempty
  have known : name ∈ basicTypes := by
    rw [is] at inside
    obtain ⟨own, listed, found⟩ := List.mem_filterMap.mp (List.mem_eraseDups.mp inside)
    obtain ⟨names', read', basicNames⟩ := typeNames_of_areBasic basic
    cases read.symm.trans read'
    exact commonType?_known (basicNames own listed) found
  obtain ⟨value, has⟩ := exists_hasType known
  have both := calc
    (Leaf.type first value && Leaf.type second value) = Leaf.type met value :=
        (type_asksBoth made value).symm
    _ = common.any (fun name => Leaf.hasType name value) := type_of_names named value
    _ = true := List.any_eq_true.mpr ⟨name, inside, has⟩
  exact ⟨value, Bool.and_eq_true_iff.mp both⟩

theorem isTypeNames_of_areBasic {value : Json} (basic : AreBasicTypes value) : IsTypeNames value := by
  obtain ⟨names, read, -⟩ := typeNames_of_areBasic basic
  cases value with
  | string name => exact Or.inl ⟨name, rfl⟩
  | array items => exact Or.inr ⟨names, congrArg Json.array (typeNamesOf_eq_ok read)⟩
  | _ => exact basic.elim

/-- Basic types meet, unless no value has a type of both. -/
theorem type_ok_or_empty (basic : AreBasicTypes first) (basic' : AreBasicTypes second) :
    (∃ met, Keyword.type first second = .ok met) ∨
      (Keyword.type first second = .error (.empty "type" first second) ∧
        ∀ value, ¬HasBothTypes first second value) := by
  cases outcome : Keyword.type first second with
  | ok met => exact Or.inl ⟨met, rfl⟩
  | error failure =>
      apply Or.inr
      rcases type_eq_error outcome with ⟨-, wrong | wrong⟩ | ⟨rfl, -, -, apart⟩
      · exact absurd (isTypeNames_of_areBasic basic) wrong
      · exact absurd (isTypeNames_of_areBasic basic') wrong
      · refine ⟨rfl, ?_⟩
        rintro value ⟨has, has'⟩
        rw [apart value has] at has'
        cases has'

theorem contains_arranged {others : List Json} (finite : ∀ other ∈ others, other.isFinite = true)
    {value : Json} (finiteValue : value.isFinite = true) :
    (others.map Json.arranged).contains value.arranged = others.any (isEqual value) := by
  rw [Bool.eq_iff_iff, List.contains_iff_mem, List.mem_map, List.any_eq_true]
  constructor
  · rintro ⟨other, inside, same⟩
    exact ⟨other, inside, Json.isEqual_iff.mpr ⟨finiteValue, finite other inside, same.symm⟩⟩
  · rintro ⟨other, inside, same⟩
    exact ⟨other, inside, (Json.isEqual_iff.mp same).2.2.symm⟩

/-- The members of a list that are equal to a member of another, in order and as often as they stand. -/
def commonMembers (values others : List Json) : List Json :=
  values.filter fun value => others.any (isEqual value)

theorem commonMembers_eq_nil {values others : List Json} :
    commonMembers values others = [] ↔
      ∀ value ∈ values, ∀ other ∈ others, isEqual value other = false := by
  simp [commonMembers, List.filter_eq_nil_iff]

theorem enum_eq {values others : List Json} (finite : ∀ value ∈ values, value.isFinite = true)
    (finite' : ∀ other ∈ others, other.isFinite = true) :
    Keyword.enum (.array values) (.array others) =
      if ∃ value ∈ values ++ others, value.isPrimitive = false then
        .error (.unsupported "enum" (.array values) (.array others) (some .compoundMembers))
      else if ∀ value ∈ values, ∀ other ∈ others, isEqual value other = false then
        .error (.empty "enum" (.array values) (.array others))
      else .ok (.array (commonMembers values others)) := by
  have common : ((values.zip (values.map Json.arranged)).filter
      (fun entry => (others.map Json.arranged).contains entry.2)).map (·.1) =
        commonMembers values others := by
    rw [filter_zip_map]
    exact List.filter_congr fun value inside => contains_arranged finite' (finite value inside)
  have allowed : finitely (Json.canonicalItems others) = .ok (others.map Json.arranged) :=
    finitely_eq_ok.mpr (Json.canonicalItems_of_finite finite')
  have forms : finitely (Json.canonicalItems values) = .ok (values.map Json.arranged) :=
    finitely_eq_ok.mpr (Json.canonicalItems_of_finite finite)
  rw [Keyword.enum, asArray_bind, asArray_bind]
  by_cases compound : ∃ value ∈ values ++ others, value.isPrimitive = false
  · have listed : (values ++ others).all Json.isPrimitive = false :=
      List.all_eq_false.mpr (by simpa only [Bool.not_eq_true] using compound)
    rw [if_pos compound, listed]
    rfl
  · have plain : (values ++ others).all Json.isPrimitive = true :=
      List.all_eq_true.mpr (by simpa only [not_exists, not_and, Bool.not_eq_false] using compound)
    rw [if_neg compound, plain, if_neg (by simp), allowed, forms]
    dsimp only [bind, Except.bind]
    rw [common]
    simp only [List.isEmpty_iff, commonMembers_eq_nil]
    split
    · rfl
    · rfl

/-- Basic types fail to meet exactly where no value has a type of both, and otherwise meet in different
names, a single one standing by itself, which are the types of just the values that have a type of both.
Enumerations of finite values meet in their common members, are refused where they list an array or an
object, and fail to meet where they have nothing in common. -/
theorem type_and_enum_keep_common {values others : List Json} (basic : AreBasicTypes first)
    (basic' : AreBasicTypes second) (finite : ∀ value ∈ values, value.isFinite = true)
    (finite' : ∀ other ∈ others, other.isFinite = true) :
    ((Keyword.type first second = .error (.empty "type" first second) ↔
        ∀ value, ¬HasBothTypes first second value) ∧
      ((∃ value, HasBothTypes first second value) →
        ∃ met names, Keyword.type first second = .ok met ∧ Keyword.typeNames met = .ok names ∧
          names.Nodup ∧ ((∃ name, met = .string name) ↔ names.length = 1) ∧
          ∀ value, Leaf.type met value = true ↔ HasBothTypes first second value)) ∧
      Keyword.enum (.array values) (.array others) =
        if ∃ value ∈ values ++ others, value.isPrimitive = false then
          .error (.unsupported "enum" (.array values) (.array others) (some .compoundMembers))
        else if ∀ value ∈ values, ∀ other ∈ others, isEqual value other = false then
          .error (.empty "enum" (.array values) (.array others))
        else .ok (.array (commonMembers values others)) := by
  refine ⟨?_, enum_eq finite finite'⟩
  rcases type_ok_or_empty basic basic' with ⟨met, made⟩ | ⟨failed, apart⟩
  · have shared := exists_hasBothTypes basic made
    constructor
    · rw [made]
      constructor
      · intro wrong
        cases wrong
      · intro apart
        obtain ⟨value, both⟩ := shared
        exact absurd both (apart value)
    · intro _
      obtain ⟨_, _, -, -, names, is, -, named, single⟩ := type_eq_ok made
      refine ⟨met, names, made, named, ?_, single, ?_⟩
      · rw [is]
        exact eraseDups_nodup _
      · intro value
        rw [type_asksBoth made value, Bool.and_eq_true]
        rfl
  · constructor
    · exact iff_of_true failed apart
    · rintro ⟨value, both⟩
      exact absurd both (apart value)

def numbersAndTexts : Json :=
  .array [.string "number", .string "string", .string "integer", .string "number"]

def integersOrTexts : Json := .array [.string "integer", .string "boolean", .string "string"]

def someScalars : List Json :=
  [.number (.float (.nearest false 1 1)), .bool true, .string "b", .number (.int 1), .null, .string "b"]

theorem numbers_meet_integers :
    (AreBasicTypes numbersAndTexts ∧ AreBasicTypes integersOrTexts ∧
      (∀ value ∈ someScalars, value.isFinite = true) ∧
      ∀ other ∈ [Json.number (.int 1), .string "b"], other.isFinite = true) ∧
    (∀ value, Leaf.type (.array [.string "integer", .string "string"]) value = true ↔
      HasBothTypes numbersAndTexts integersOrTexts value) ∧
    Keyword.enum (.array someScalars) (.array [.number (.int 1), .string "b"]) =
      .ok (.array [.number (.float (.nearest false 1 1)), .string "b", .number (.int 1),
        .string "b"]) := by
  have basic : AreBasicTypes numbersAndTexts := by
    simp [numbersAndTexts, AreBasicTypes, basicTypes]
  have basic' : AreBasicTypes integersOrTexts := by
    simp [integersOrTexts, AreBasicTypes, basicTypes]
  have finite : ∀ value ∈ someScalars, value.isFinite = true := by decide +kernel
  have finite' : ∀ other ∈ [Json.number (.int 1), .string "b"], other.isFinite = true := by decide
  obtain ⟨⟨-, meets⟩, members⟩ := type_and_enum_keep_common basic basic' finite finite'
  obtain ⟨met, -, made, -, -, -, same⟩ := meets ⟨.string "", by decide, by decide⟩
  cases made.symm.trans (show Keyword.type numbersAndTexts integersOrTexts =
    .ok (.array [.string "integer", .string "string"]) by decide)
  exact ⟨⟨basic, basic', finite, finite'⟩, same, members.trans (by decide +kernel)⟩

end SchemaMerge.Schema
