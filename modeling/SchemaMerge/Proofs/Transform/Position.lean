import SchemaMerge.OpenApi.Grammar
import SchemaMerge.Proofs.Json.Equality

/-!
Where a walk through a value comes to. A path leads from a value to a part of it, and the place of
the value says which paths a walk follows. A law holds everywhere if it holds of every object schema
that a walk comes to.
-/

namespace SchemaMerge.OpenApi

inductive Turn where
  | name (name : String)
  | index (index : Nat)
  deriving DecidableEq, Repr

abbrev Path := List Turn

/-- A walk from a place comes, along a path, to a part of a value and the place of that part. -/
inductive Reaches : Place → Json → Path → Place → Json → Prop
  | here (place : Place) (value : Json) : Reaches place value [] place value
  | field {place inner final : Place} {kind : Kind} {members : Members} {name : String}
      {value part : Json} {path : Path} (holds : place.kind? = some kind)
      (present : (name, value) ∈ members) (field : kind.field? name = some inner)
      (rest : Reaches inner value path final part) :
      Reaches place (.object members) (.name name :: path) final part
  | entry {place inner final : Place} {entries : Members} {name : String} {value part : Json}
      {path : Path} (plain : place.kind? = none) (present : (name, value) ∈ entries)
      (stands : place.entry? name value = some inner) (rest : Reaches inner value path final part) :
      Reaches place (.object entries) (.name name :: path) final part
  | item {place inner final : Place} {items : List Json} {index : Nat} {item part : Json}
      {path : Path} (member : place.member? = some inner) (present : items[index]? = some item)
      (rest : Reaches inner item path final part) :
      Reaches place (.array items) (.index index :: path) final part

/-- Induction along a walk: over the fields of an object whose place has a kind, the entries of one whose
place has none, and the items of an array, each in the place in which the walk comes to it. -/
theorem walk_induction {motive : Place → Json → Prop}
    (fields : ∀ {place : Place} {kind : Kind} {members : Members}, place.kind? = some kind →
      (∀ member ∈ members, ∀ inner, kind.field? member.1 = some inner → motive inner member.2) →
      motive place (.object members))
    (entries : ∀ {place : Place} {entries : Members}, place.kind? = none →
      (∀ entry ∈ entries, ∀ inner, place.entry? entry.1 entry.2 = some inner →
        motive inner entry.2) →
      motive place (.object entries))
    (items : ∀ {place : Place} {items : List Json},
      (∀ inner, place.member? = some inner → ∀ item ∈ items, motive inner item) →
      motive place (.array items))
    (leaf : ∀ {place : Place} {value : Json}, (∀ members, value ≠ .object members) →
      (∀ items, value ≠ .array items) → motive place value)
    (place : Place) (value : Json) : motive place value := by
  induction value using Json.induction_on_size generalizing place with
  | _ value ih =>
      cases value with
      | object members =>
          cases holds : place.kind? with
          | some kind =>
              exact fields holds fun member present inner _ =>
                ih member.2 (Json.sizeOf_member present) inner
          | none =>
              exact entries holds fun entry present inner _ =>
                ih entry.2 (Json.sizeOf_member present) inner
      | array list => exact items fun inner _ item present => ih item (Json.sizeOf_item present) inner
      | _ => exact leaf (by simp) (by simp)

def SchemaAt (place : Place) (value : Json) (path : Path) (schema : Members) : Prop :=
  ∃ final, final.kind? = some .schema ∧ Reaches place value path final (.object schema)

/-- A law for the object schemas that a walk comes to. -/
def Everywhere (law : Members → Prop) (place : Place) (value : Json) : Prop :=
  ∀ path schema, SchemaAt place value path schema → law schema

variable {law : Members → Prop} {place : Place}

theorem everywhere_object {kind : Kind} (holds : place.kind? = some kind) {members : Members} :
    Everywhere law place (.object members) ↔ (kind = .schema → law members) ∧
      ∀ member ∈ members, ∀ inner, kind.field? member.1 = some inner →
        Everywhere law inner member.2 := by
  constructor
  · intro every
    constructor
    · intro schema
      exact every [] members ⟨place, schema ▸ holds, .here place _⟩
    · intro member present inner field path schema reached
      obtain ⟨final, shaped, rest⟩ := reached
      exact every (.name member.1 :: path) schema ⟨final, shaped, .field holds present field rest⟩
  · intro every path schema reached
    obtain ⟨own, inside⟩ := every
    obtain ⟨final, shaped, reaches⟩ := reached
    cases reaches with
    | here => exact own (Option.some.inj (holds.symm.trans shaped))
    | field holds' present field rest =>
        obtain rfl := Option.some.inj (holds.symm.trans holds')
        exact inside _ present _ field _ schema ⟨final, shaped, rest⟩
    | entry plain => exact absurd (holds.symm.trans plain) (by simp)

theorem everywhere_entries (plain : place.kind? = none) {entries : Members} :
    Everywhere law place (.object entries) ↔
      ∀ entry ∈ entries, ∀ inner, place.entry? entry.1 entry.2 = some inner →
        Everywhere law inner entry.2 := by
  constructor
  · intro every entry present inner stands path schema reached
    obtain ⟨final, shaped, rest⟩ := reached
    exact every (.name entry.1 :: path) schema ⟨final, shaped, .entry plain present stands rest⟩
  · intro every path schema reached
    obtain ⟨final, shaped, reaches⟩ := reached
    cases reaches with
    | here => exact absurd (plain.symm.trans shaped) (by simp)
    | field holds => exact absurd (plain.symm.trans holds) (by simp)
    | entry _ present stands rest => exact every _ present _ stands _ schema ⟨final, shaped, rest⟩

theorem everywhere_array {items : List Json} :
    Everywhere law place (.array items) ↔
      ∀ inner, place.member? = some inner → ∀ item ∈ items, Everywhere law inner item := by
  constructor
  · intro every inner member item present path schema reached
    obtain ⟨final, shaped, rest⟩ := reached
    obtain ⟨index, found⟩ := List.mem_iff_getElem?.mp present
    exact every (.index index :: path) schema ⟨final, shaped, .item member found rest⟩
  · intro every path schema reached
    obtain ⟨final, shaped, reaches⟩ := reached
    cases reaches with
    | item member present rest =>
        exact every _ member _ (List.mem_of_getElem? present) _ schema ⟨final, shaped, rest⟩

theorem everywhere_of_leaf {value : Json} (plain : ∀ members, value ≠ .object members)
    (single : ∀ items, value ≠ .array items) : Everywhere law place value := by
  intro path schema reached
  obtain ⟨final, -, reaches⟩ := reached
  cases reaches with
  | here => exact absurd rfl (plain _)
  | field => exact absurd rfl (plain _)
  | entry => exact absurd rfl (plain _)
  | item => exact absurd rfl (single _)

theorem everywhere_schema (holds : place.kind? = some .schema) {value : Json}
    (single : ∀ items, value ≠ .array items) :
    Everywhere law place value ↔ Everywhere law (.one .schema) value := by
  cases value with
  | object members => rw [everywhere_object holds, everywhere_object rfl]
  | array items => exact absurd rfl (single items)
  | _ =>
      exact iff_of_true (everywhere_of_leaf (by simp) (by simp))
        (everywhere_of_leaf (by simp) (by simp))

theorem everywhere_single {value : Json} :
    Everywhere law (.branch false) value ↔ Everywhere law (.one .schema) value := by
  cases value with
  | array items =>
      rw [everywhere_array, everywhere_array]
      simp [Place.member?]
  | _ => exact everywhere_schema rfl (by simp)

theorem everywhere_branches {entries : Members} :
    Everywhere law .branches (.object entries) ↔
      ∀ entry ∈ entries, Everywhere law (.one .schema) entry.2 := by
  rw [everywhere_entries rfl]
  refine forall₂_congr fun entry _ => ?_
  by_cases null : entry.2 = .null
  · have leaf : Everywhere law (.one .schema) entry.2 := by
      rw [null]
      exact everywhere_of_leaf (by simp) (by simp)
    exact iff_of_true (fun inner stands => absurd stands (by simp [Place.entry?, null])) leaf
  · simp [Place.entry?, null]

end SchemaMerge.OpenApi
