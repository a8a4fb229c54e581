import SchemaMerge.Proofs.Transform.Stable
import SchemaMerge.Proofs.Validity.Leaf
import SchemaMerge.Proofs.Transform.Standing

namespace SchemaMerge.OpenApi

section annotated

variable (keyword : String) (mark : Json)

mutual

/-- A value with a member set in each object whose path is one of the positions: added at the end, or
replaced where the object has one of its name. -/
def annotated (positions : Path → Bool) : Json → Json
  | .object members =>
    let inside := annotatedMembers positions members
    .object (if positions [] then inside.set keyword mark else inside)
  | .array items => .array (annotatedItems positions 0 items)
  | value => value

def annotatedItems (positions : Path → Bool) (index : Nat) : List Json → List Json
  | [] => []
  | item :: items =>
    annotated (fun path => positions (.index index :: path)) item ::
      annotatedItems positions (index + 1) items

def annotatedMembers (positions : Path → Bool) : List (String × Json) → Members
  | [] => []
  | (name, value) :: rest =>
    (name, annotated (fun path => positions (.name name :: path)) value) ::
      annotatedMembers positions rest

end

variable {positions : Path → Bool}

theorem annotated_leaf {value : Json} (plain : ∀ members, value ≠ .object members)
    (single : ∀ items, value ≠ .array items) : annotated keyword mark positions value = value := by
  cases value with
  | object members => exact absurd rfl (plain members)
  | array items => exact absurd rfl (single items)
  | _ => rw [annotated] <;> simp

theorem annotatedMembers_eq_map (members : Members) :
    annotatedMembers keyword mark positions members = members.map fun member =>
      (member.1, annotated keyword mark (fun path => positions (.name member.1 :: path)) member.2) := by
  induction members with
  | nil => rfl
  | cons member rest ih => rw [annotatedMembers, ih, List.map_cons]

theorem annotatedItems_eq_map {inside : Path → Bool}
    (same : ∀ index path, positions (.index index :: path) = inside path) (index : Nat)
    (items : List Json) :
    annotatedItems keyword mark positions index items = items.map (annotated keyword mark inside) := by
  induction items generalizing index with
  | nil => rfl
  | cons item rest ih =>
      rw [annotatedItems, ih, List.map_cons, funext (same index)]

theorem annotated_nowhere (nowhere : ∀ path, positions path = false) (value : Json) :
    annotated keyword mark positions value = value := by
  induction value using Json.induction_on_size generalizing positions with
  | _ value ih =>
      cases value with
      | object members =>
          have inside : annotatedMembers keyword mark positions members = members := by
            rw [annotatedMembers_eq_map]
            calc
              _ = members.map fun member => member := by
                refine List.map_congr_left fun member present => ?_
                rw [ih member.2 (Json.sizeOf_member present) fun path => nowhere _]
              _ = members := List.map_id' members
          rw [annotated, inside, nowhere, if_neg Bool.false_ne_true]
      | array items =>
          rw [annotated, annotatedItems_eq_map keyword mark fun index path => nowhere _]
          have inside : items.map (annotated keyword mark fun _ => false) = items := by
            calc
              _ = items.map id := by
                refine List.map_congr_left fun item present => ?_
                exact ih item (Json.sizeOf_item present) fun _ => rfl
              _ = items := List.map_id items
          rw [inside]
      | _ => exact annotated_leaf keyword mark (by simp) (by simp)

end annotated

namespace Place

def expectsSchema (place : Place) (path : Path) : Bool := place.kindAlong? path = some .schema

variable {place inner : Place} {turn : Turn}

theorem expectsSchema_of_turn? (turned : place.turn? turn = some inner) (path : Path) :
    place.expectsSchema (turn :: path) = inner.expectsSchema path := by
  rw [expectsSchema, kindAlong?_cons, turned]
  rfl

theorem expectsSchema_of_none (turned : place.turn? turn = none) (path : Path) :
    place.expectsSchema (turn :: path) = false := by
  rw [expectsSchema, kindAlong?_cons, turned]
  simp

theorem turn?_field {kind : Kind} (holds : place.kind? = some kind) (name : String) :
    place.turn? (.name name) = kind.field? name := by
  cases place with
  | one => rw [← Option.some.inj holds, turn?]
  | branch => rw [← Option.some.inj holds, turn?]
  | _ => cases holds

theorem turn?_entry (plain : place.kind? = none) {name : String} {value : Json}
    (skipped : place.entry? name value = none) :
    place.turn? (.name name) = none ∨ value = .null := by
  cases place with
  | one => cases plain
  | branch => cases plain
  | many => exact Or.inl rfl
  | named entry => exact Or.inl skipped
  | branches =>
      simp only [Place.entry?, ite_eq_left_iff, reduceCtorEq, imp_false, not_not] at skipped
      exact Or.inr skipped

theorem turn?_of_entry? {name : String} {value : Json} (stands : place.entry? name value = some inner) :
    place.turn? (.name name) = some inner := by
  cases place with
  | named entry => exact stands
  | branches =>
      simp only [Place.entry?, Option.ite_none_left_eq_some] at stands
      exact stands.2
  | _ => cases stands

end Place

section visiting

variable {keyword : String} {mark : Json} {place : Place}

theorem annotated_of_turn? {inner : Place} {turn : Turn} (turned : place.turn? turn = some inner)
    (value : Json) :
    annotated keyword mark (fun path => place.expectsSchema (turn :: path)) value =
      annotated keyword mark inner.expectsSchema value := by
  rw [funext (Place.expectsSchema_of_turn? turned)]

theorem annotated_of_none {turn : Turn} (turned : place.turn? turn = none) (value : Json) :
    annotated keyword mark (fun path => place.expectsSchema (turn :: path)) value = value :=
  annotated_nowhere keyword mark (Place.expectsSchema_of_none turned) value

/-- A walk that sets a member in every schema sets it where it expects one. -/
def Annotates (keyword : String) (mark : Json) (place : Place) (value : Json) : Prop :=
  Returns (visit (Step.annotate keyword mark) place value)
    (annotated keyword mark place.expectsSchema value)

theorem annotates_fields {kind : Kind} (holds : place.kind? = some kind) {members : Members}
    (distinct : members.Distinct)
    (each : ∀ member ∈ members, ∀ inner, kind.field? member.1 = some inner →
      Annotates keyword mark inner member.2) :
    Annotates keyword mark place (.object members) := by
  have turned := Place.turn?_field holds
  have ran : Returns (visitedFields (Step.annotate keyword mark) kind members)
      (members.map fun member => (member.1, annotated keyword mark
        (fun path => place.expectsSchema (.name member.1 :: path)) member.2)) := by
    apply visitedFields_returns distinct
    · intro member present inner field
      rw [annotated_of_turn? ((turned _).trans field)]
      exact each member present inner field
    · intro member present none
      exact annotated_of_none ((turned _).trans none) member.2
  rw [Annotates, visit, annotated, annotatedMembers_eq_map, holds]
  refine returns_bind ran ?_
  rw [finish, Place.expectsSchema, Place.kindAlong?_nil, holds]
  by_cases schema : kind = .schema
  · rw [if_pos schema, if_pos (by simp [schema])]
    exact returns_pure _
  · rw [if_neg schema, if_neg (by simp [schema])]
    exact returns_pure _

theorem annotates_entries (plain : place.kind? = none) {entries : Members}
    (each : ∀ entry ∈ entries, ∀ inner, place.entry? entry.1 entry.2 = some inner →
      Annotates keyword mark inner entry.2) :
    Annotates keyword mark place (.object entries) := by
  have unset : place.expectsSchema [] = false := by
    rw [Place.expectsSchema, Place.kindAlong?_nil, plain]
    rfl
  rw [Annotates, visit, annotated, annotatedMembers_eq_map, plain, unset, if_neg Bool.false_ne_true]
  refine returns_bind (visitEntries_returns ?_ ?_) (returns_pure _)
  · intro entry present inner stands
    rw [annotated_of_turn? (Place.turn?_of_entry? stands)]
    exact each entry present inner stands
  · intro entry present skipped
    rcases Place.turn?_entry plain skipped with turned | null
    · exact annotated_of_none turned entry.2
    · rw [null]
      exact annotated_leaf keyword mark (by simp) (by simp)

theorem annotates_items (within : place.isInner = true) {items : List Json}
    (each : ∀ inner, place.member? = some inner → ∀ item ∈ items, Annotates keyword mark inner item) :
    Annotates keyword mark place (.array items) := by
  rw [Annotates, visit, annotated]
  cases member : place.member? with
  | some inner =>
      have turned (index : Nat) (path : Path) :
          place.expectsSchema (.index index :: path) = inner.expectsSchema path := by
        apply Place.expectsSchema_of_turn?
        exact member
      rw [annotatedItems_eq_map keyword mark turned]
      exact returns_bind (visitItems_returns (each inner member)) (returns_pure _)
  | none =>
      have nowhere (index : Nat) (path : Path) :
          place.expectsSchema (.index index :: path) = false := by
        apply Place.expectsSchema_of_none
        exact member
      have kept : items.map (annotated keyword mark fun _ => false) = items := by
        rw [List.map_congr_left fun item _ => annotated_nowhere keyword mark (fun _ => rfl) item]
        exact List.map_id' items
      rw [annotatedItems_eq_map keyword mark nowhere, kept]
      exact pass_returns within _

theorem annotates (value : Json) (place : Place) :
    IsWalkable place value → value.noRepeats = true → Annotates keyword mark place value := by
  induction place, value using walk_induction with
  | @fields place kind members holds ih =>
      intro _ clean
      obtain ⟨distinct, cleanAll⟩ := Json.noRepeats_object.mp clean
      apply annotates_fields holds distinct
      intro member present inner field
      exact ih member present inner field (Or.inl (Place.isInner_of_field? field))
        (cleanAll member present)
  | @entries place entries plain ih =>
      intro walkable clean
      obtain ⟨-, cleanAll⟩ := Json.noRepeats_object.mp clean
      apply annotates_entries plain
      intro entry present inner stands
      have within := Place.isInner_of_entry? stands (walkable.isInner_of_plain plain)
      exact ih entry present inner stands (Or.inl within) (cleanAll entry present)
  | @items place items ih =>
      intro walkable clean
      have outer := walkable.isInner (by simp)
      apply annotates_items outer
      intro inner member item present
      exact ih inner member item present (Or.inl (Place.isInner_of_member? member outer))
        (Json.noRepeats_array.mp clean item present)
  | leaf plain single =>
      intro walkable _
      rw [Annotates, visit_of_leaf plain single, annotated_leaf keyword mark plain single]
      exact pass_returns (walkable.isInner plain) _

theorem expectsSchema_document :
    (Place.one .document).expectsSchema = fun path => decide (StandsAt .document path .schema) := by
  funext path
  exact decide_eq_decide.mpr standsAt_iff.symm

/-- A walk through a document that sets a member in every schema ends with the document in which this
member is set in each object at the position of a schema, and in nothing else. -/
theorem visit_annotates_schemas (keyword : String) (mark : Json) {document : Members}
    (clean : (Json.object document).noRepeats = true) :
    (visit (Step.annotate keyword mark) (.one .document) (.object document)).outcome.1 =
      .ok (annotated keyword mark (fun path => StandsAt .document path .schema) (.object document)) := by
  have returns : Annotates keyword mark (.one .document) (.object document) :=
    annotates (.object document) (.one .document) (Or.inr ⟨rfl, _, rfl⟩) clean
  rw [Annotates, expectsSchema_document] at returns
  exact outcome_of_returns returns

def shopDocument : Json :=
  .object [("paths", .object [("/orders", .object [
      ("parameters", .array [.object [("name", .string "id"), ("schema", .bool true)]]),
      ("post", .object [
        ("requestBody", .object [("content", .object [("text/plain", .object [("schema", .object [
          ("items", .array [.object [], .null]), ("not", .array [.object []]),
          ("properties", .object [("x-id", .object []), ("tag", .null)])])])])]),
        ("responses", .object [("200", .object [("headers", .object [("Rate", .object [
          ("schema", .object [("type", .string "integer")])])])]),
          ("x-note", .object [("schema", .object [])])]),
        ("callbacks", .object [("done", .object [("$request.body", .object [("get", .object [
          ("parameters", .array [.object [("schema", .object [])]])])])])])])]),
      ("x-page", .object [("get", .object [("parameters", .array [.object [
        ("schema", .object [])]])])])]),
    ("definitions", .object [("Order", .object [("x-seen", .bool false), ("default", .object [])])])]

def seenShopDocument : Json :=
  .object [("paths", .object [("/orders", .object [
      ("parameters", .array [.object [("name", .string "id"), ("schema", .bool true)]]),
      ("post", .object [
        ("requestBody", .object [("content", .object [("text/plain", .object [("schema", .object [
          ("items", .array [.object [("x-seen", .bool true)], .null]),
          ("not", .array [.object []]),
          ("properties", .object [("x-id", .object [("x-seen", .bool true)]), ("tag", .null)]),
          ("x-seen", .bool true)])])])]),
        ("responses", .object [("200", .object [("headers", .object [("Rate", .object [
          ("schema", .object [("type", .string "integer"), ("x-seen", .bool true)])])])]),
          ("x-note", .object [("schema", .object [])])]),
        ("callbacks", .object [("done", .object [("$request.body", .object [("get", .object [
          ("parameters", .array [.object [("schema", .object [("x-seen", .bool true)])]])])])])])])]),
      ("x-page", .object [("get", .object [("parameters", .array [.object [
        ("schema", .object [])]])])])]),
    ("definitions", .object [("Order", .object [("x-seen", .bool true), ("default", .object [])])])]

theorem shopDocument_is_seen :
    shopDocument.noRepeats = true ∧
      (visit (Step.annotate "x-seen" (.bool true)) (.one .document) shopDocument).outcome.1 =
        .ok seenShopDocument := by
  have clean : shopDocument.noRepeats = true := by decide +kernel
  have seen : annotated "x-seen" (.bool true) (fun path => StandsAt .document path .schema)
      shopDocument = seenShopDocument := by decide +kernel
  refine ⟨clean, ?_⟩
  rw [← seen]
  exact visit_annotates_schemas "x-seen" (.bool true) clean

end visiting

end SchemaMerge.OpenApi
