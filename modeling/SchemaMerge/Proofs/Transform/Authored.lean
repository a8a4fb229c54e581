import SchemaMerge.Proofs.Transform.Annotated

namespace SchemaMerge.OpenApi

def partIn? : Json → Turn → Option Json
  | .object members, .name name => Members.get? members name
  | .array items, .index index => items[index]?
  | _, _ => none

def partAt? (value : Json) (path : Path) : Option Json := path.foldlM partIn? value

section parts

variable {keyword : String} {mark value part : Json} {positions : Path → Bool}

theorem partAt?_nil (value : Json) : partAt? value [] = some value := rfl

theorem partAt?_cons (value : Json) (turn : Turn) (path : Path) :
    partAt? value (turn :: path) = (partIn? value turn).bind (partAt? · path) := rfl

theorem partAt?_append (value : Json) (path rest : Path) :
    partAt? value (path ++ rest) = (partAt? value path).bind (partAt? · rest) :=
  List.foldlM_append

theorem get?_annotatedMembers (members : Members) (name : String) :
    (annotatedMembers keyword mark positions members).get? name =
      (members.get? name).map (annotated keyword mark fun path => positions (.name name :: path)) := by
  induction members with
  | nil => rfl
  | cons member rest ih =>
      obtain ⟨first, value⟩ := member
      rw [annotatedMembers, Members.get?_cons, Members.get?_cons]
      by_cases same : name = first
      · rw [if_pos same, if_pos same, same, Option.map_some]
      · rw [if_neg same, if_neg same, ih]

theorem getElem?_annotatedItems (items : List Json) (start index : Nat) :
    (annotatedItems keyword mark positions start items)[index]? =
      (items[index]?).map
        (annotated keyword mark fun path => positions (.index (start + index) :: path)) := by
  induction items generalizing start index with
  | nil => rfl
  | cons item rest ih =>
      rw [annotatedItems]
      cases index with
      | zero => rfl
      | succ index =>
          rw [List.getElem?_cons_succ, List.getElem?_cons_succ, ih, Nat.add_right_comm]
          rfl

theorem partIn?_annotated {turn : Turn} (found : partIn? value turn = some part)
    (outside : positions [] = false) :
    partIn? (annotated keyword mark positions value) turn =
      some (annotated keyword mark (fun path => positions (turn :: path)) part) := by
  unfold partIn? at found
  split at found
  · rw [annotated, outside, if_neg Bool.false_ne_true, partIn?, get?_annotatedMembers, found,
      Option.map_some]
  · rw [annotated, partIn?, getElem?_annotatedItems, found, Option.map_some, Nat.zero_add]
  · cases found

end parts

namespace Place

def isSchematic : Place → Bool
  | .one kind | .many kind => kind = .schema
  | .named entry => entry.isSchematic
  | .branch _ | .branches => true

variable {place inner : Place} {kind : Kind} {path : Path}

theorem isSchematic_of_kind? (holds : place.kind? = some kind) :
    place.isSchematic = true ↔ kind = .schema := by
  cases place with
  | one => simp [isSchematic, Option.some.inj holds]
  | branch => simp [isSchematic, ← Option.some.inj holds]
  | _ => cases holds

theorem isSchematic_of_turn? {turn : Turn} (turned : place.turn? turn = some inner)
    (schematic : place.isSchematic = true) : inner.isSchematic = true := by
  have fields : ∀ entry ∈ Kind.schema.fields, entry.2.isSchematic = true := by decide
  have named {name : String} (field : Kind.schema.field? name = some inner) :
      inner.isSchematic = true := fields _ (mem_of_field? field)
  cases turn with
  | name name =>
      cases place with
      | one kind =>
          obtain rfl : kind = .schema := by simpa [isSchematic] using schematic
          exact named turned
      | branch => exact named turned
      | named entry =>
          simp only [turn?, Option.ite_none_left_eq_some, Option.some.injEq] at turned
          rw [← turned.2]
          exact schematic
      | branches => rw [← Option.some.inj turned, isSchematic, decide_eq_true rfl]
      | many => cases turned
  | index index =>
      cases place with
      | many kind =>
          rw [← Option.some.inj turned]
          exact schematic
      | branch listed =>
          cases listed with
          | true => rw [← Option.some.inj turned, isSchematic, decide_eq_true rfl]
          | false => cases turned
      | _ => cases turned

theorem isSchematic_of_along? (reached : place.along? path = some inner)
    (schematic : place.isSchematic = true) : inner.isSchematic = true := by
  induction path generalizing place with
  | nil =>
      obtain rfl := Option.some.inj reached
      exact schematic
  | cons turn path ih =>
      obtain ⟨next, turned, reached⟩ := Option.bind_eq_some_iff.mp reached
      exact ih reached (isSchematic_of_turn? turned schematic)

end Place

section reached

variable {keyword : String} {mark value part : Json} {place inner : Place}

theorem partIn?_of_turn? {turn : Turn} (found : partIn? value turn = some part)
    (turned : place.turn? turn = some inner) (other : place.kind? ≠ some .schema) :
    partIn? (annotated keyword mark place.expectsSchema value) turn =
      some (annotated keyword mark inner.expectsSchema part) := by
  have outside : place.expectsSchema [] = false := decide_eq_false other
  rw [partIn?_annotated found outside, annotated_of_turn? turned]

/-- No schema stands on the way to an object of another kind, so that the way leads there as before. -/
theorem partAt?_of_along? {path : Path} {kind : Kind} (found : partAt? value path = some part)
    (reached : place.along? path = some inner) (holds : inner.kind? = some kind)
    (other : kind ≠ .schema) :
    partAt? (annotated keyword mark place.expectsSchema value) path =
      some (annotated keyword mark inner.expectsSchema part) := by
  induction path generalizing place value with
  | nil =>
      obtain rfl := Option.some.inj reached
      obtain rfl := Option.some.inj found
      rfl
  | cons turn path ih =>
      obtain ⟨middle, turned, rest⟩ := Option.bind_eq_some_iff.mp reached
      obtain ⟨between, first, found⟩ := Option.bind_eq_some_iff.mp found
      have unschematic : place.kind? ≠ some .schema := by
        intro schema
        have schematic := Place.isSchematic_of_along? reached
          ((Place.isSchematic_of_kind? schema).mpr rfl)
        exact other ((Place.isSchematic_of_kind? holds).mp schematic)
      rw [partAt?_cons, partIn?_of_turn? first turned unschematic, Option.bind_some]
      exact ih found rest

theorem annotated_schema (keyword : String) (mark : Json) (members : Members) :
    ∃ kept, annotated keyword mark (Place.one .schema).expectsSchema (.object members) =
      .object kept ∧ Members.get? kept keyword = some mark :=
  ⟨_, rfl, (Members.get?_set ..).trans (if_pos rfl)⟩

end reached

/-- The maps of an object whose entries authors name, with the turns from an entry to its schema. -/
def authoredMaps : Kind → List (String × Path)
  | .document => [("definitions", [])]
  | .components => [("schemas", [])]
  | .response => [("headers", [.name "schema"]), ("content", [.name "schema"])]
  | .requestBody | .parameter | .header => [("content", [.name "schema"])]
  | _ => []

section authored

variable {kind : Kind} {field name : String} {turns : Path}

theorem field?_of_authored (authored : (field, turns) ∈ authoredMaps kind) :
    ∃ inner, kind.field? field = some (.named (.one inner)) ∧
      (inner = .schema ∧ turns = [] ∨
        inner ≠ .schema ∧ (Place.one inner).turn? (.name "schema") = some (.one .schema) ∧
          turns = [.name "schema"]) := by
  cases kind with
  | document | components =>
      obtain ⟨rfl, rfl⟩ := by simpa [authoredMaps] using authored
      exact ⟨.schema, rfl, Or.inl ⟨rfl, rfl⟩⟩
  | response =>
      obtain ⟨rfl, rfl⟩ | ⟨rfl, rfl⟩ := by simpa [authoredMaps] using authored
      · exact ⟨.header, rfl, Or.inr ⟨by decide, rfl, rfl⟩⟩
      · exact ⟨.mediaType, rfl, Or.inr ⟨by decide, rfl, rfl⟩⟩
  | requestBody | parameter | header =>
      obtain ⟨rfl, rfl⟩ := by simpa [authoredMaps] using authored
      exact ⟨.mediaType, rfl, Or.inr ⟨by decide, rfl, rfl⟩⟩
  | _ => cases authored

theorem ne_schema_of_authored (authored : (field, turns) ∈ authoredMaps kind) : kind ≠ .schema := by
  rintro rfl
  cases authored

theorem partAt?_entry (keyword : String) (mark : Json) {value entry : Json} {place inner : Place}
    {path : Path} (stands : (Place.one .document).along? path = some place)
    (holds : place.kind? = some kind)
    (mapped : kind.field? field = some (.named inner)) (other : kind ≠ .schema)
    (found : partAt? value (path ++ [Turn.name field, Turn.name name]) = some entry) :
    partAt? (annotated keyword mark (Place.one .document).expectsSchema value)
        (path ++ [Turn.name field, Turn.name name]) =
      some (if isExtension name then entry else annotated keyword mark inner.expectsSchema entry) := by
  obtain ⟨holder, first, found⟩ := Option.bind_eq_some_iff.mp ((partAt?_append ..).symm.trans found)
  obtain ⟨map, second, found⟩ := Option.bind_eq_some_iff.mp found
  obtain ⟨entry', third, last⟩ := Option.bind_eq_some_iff.mp found
  obtain rfl : entry' = entry := Option.some.inj last
  have turned : place.turn? (.name field) = some (.named inner) :=
    (Place.turn?_field holds field).trans mapped
  have unschematic : place.kind? ≠ some .schema := by
    rw [holds]
    exact fun same => other (Option.some.inj same)
  rw [partAt?_append, partAt?_of_along? first stands holds other, Option.bind_some, partAt?_cons,
    partIn?_of_turn? second turned unschematic, Option.bind_some, partAt?_cons,
    partIn?_annotated third rfl, Option.bind_some, partAt?_nil]
  by_cases extension : isExtension name = true
  · have turned : (Place.named inner).turn? (.name name) = none := if_pos extension
    rw [if_pos extension, annotated_of_none turned]
  · have turned : (Place.named inner).turn? (.name name) = some inner := if_neg extension
    rw [if_neg extension, annotated_of_turn? turned]

/-- A walk that sets a member in every schema sets it in the schemas under the names that authors choose,
except those that start with `x-`: such entries stay as they are. -/
theorem visit_annotates_authored (keyword : String) (mark : Json) {document : Members}
    (clean : (Json.object document).noRepeats = true) :
    ∃ result,
      (visit (Step.annotate keyword mark) (.one .document) (.object document)).outcome.1 =
        .ok result ∧
      ∀ path kind field turns, StandsAt .document path kind → (field, turns) ∈ authoredMaps kind →
        ∀ name entry schema,
          partAt? (.object document) (path ++ [Turn.name field, Turn.name name]) = some entry →
          partAt? entry turns = some (.object schema) →
          if isExtension name then
            partAt? result (path ++ [Turn.name field, Turn.name name]) = some entry
          else ∃ kept,
            partAt? result (path ++ [Turn.name field, Turn.name name] ++ turns) = some (.object kept) ∧
              Members.get? kept keyword = some mark := by
  have returns : Annotates keyword mark (.one .document) (.object document) :=
    annotates (.object document) (.one .document) (Or.inr ⟨rfl, _, rfl⟩) clean
  refine ⟨_, outcome_of_returns returns, ?_⟩
  intro path kind field turns stands authored name entry schema found carried
  obtain ⟨place, reached, holds⟩ := Option.bind_eq_some_iff.mp (standsAt_iff.mp stands)
  obtain ⟨inner, mapped, position⟩ := field?_of_authored authored
  have visited := partAt?_entry keyword mark reached holds mapped
    (ne_schema_of_authored authored) found
  by_cases extension : isExtension name = true
  · rw [if_pos extension] at visited ⊢
    exact visited
  · rw [if_neg extension] at visited ⊢
    obtain ⟨kept, set, marked⟩ := annotated_schema keyword mark schema
    refine ⟨kept, ?_, marked⟩
    rw [partAt?_append, visited, Option.bind_some, ← set]
    rcases position with ⟨rfl, rfl⟩ | ⟨other, under, rfl⟩
    · obtain rfl := Option.some.inj carried
      rfl
    · obtain ⟨_, turned, last⟩ := Option.bind_eq_some_iff.mp carried
      obtain rfl := Option.some.inj last
      have unschematic : (Place.one inner).kind? ≠ some .schema := fun same =>
        other (Option.some.inj same)
      rw [partAt?_cons, partIn?_of_turn? turned under unschematic]
      rfl

def limitedDocument : Json :=
  .object [("paths", .object [("/orders", .object [("get", .object [("responses", .object [("200",
    .object [("headers", .object [
      ("rate-limit", .object [("schema", .object [("type", .string "integer")])]),
      ("x-rate-limit", .object [("schema", .object [("type", .string "integer")])])])])])])])])]

def limitedResponse : Path :=
  [.name "paths", .name "/orders", .name "get", .name "responses", .name "200"]

def limitSchema (name : String) : Path :=
  limitedResponse ++ [Turn.name "headers", Turn.name name, Turn.name "schema"]

theorem limitedDocument_is_seen :
    limitedDocument.noRepeats = true ∧
    ∃ result kept,
      (visit (Step.annotate "x-seen" (.bool true)) (.one .document) limitedDocument).outcome.1 =
        .ok result ∧
      partAt? result (limitSchema "rate-limit") = some (.object kept) ∧
      Members.get? kept "x-seen" = some (.bool true) := by
  have clean : limitedDocument.noRepeats = true := by decide +kernel
  obtain ⟨result, returned, seen⟩ := visit_annotates_authored "x-seen" (.bool true) clean
  have stands : StandsAt .document limitedResponse .response := by decide +kernel
  obtain ⟨kept, found, marked⟩ := seen limitedResponse .response "headers" [.name "schema"] stands
    (by decide) "rate-limit" _ [("type", .string "integer")] rfl rfl
  exact ⟨clean, result, kept, returned, found, marked⟩

/-- The header whose name starts with `x-` is left as it is, though it carries a schema. -/
theorem prefixedLimit_is_unseen :
    StandsAt .document limitedResponse .response ∧
    partAt? limitedDocument (limitSchema "x-rate-limit") =
      some (.object [("type", .string "integer")]) ∧
    ∃ result,
      (visit (Step.annotate "x-seen" (.bool true)) (.one .document) limitedDocument).outcome.1 =
        .ok result ∧
      partAt? result (limitSchema "x-rate-limit") =
        some (.object [("type", .string "integer")]) := by
  refine ⟨by decide +kernel, rfl, _, rfl, ?_⟩
  decide +kernel

end authored

end SchemaMerge.OpenApi
