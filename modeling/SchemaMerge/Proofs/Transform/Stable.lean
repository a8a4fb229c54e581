import SchemaMerge.Proofs.Json.Equality
import SchemaMerge.Proofs.Transform.Position
import SchemaMerge.Proofs.Transform.Visited

namespace SchemaMerge.OpenApi

def Returns {α : Type} (action : Noted α) (value : α) : Prop :=
  ∀ log, ∃ rest, action.run.run log = (.ok value, rest)

variable {α β : Type}

theorem returns_pure (value : α) : Returns (pure value : Noted α) value := by
  intro log
  exact ⟨log, rfl⟩

theorem returns_note (notice : Notice) : Returns (Noted.note notice) () := by
  intro log
  exact ⟨log ++ [notice], rfl⟩

theorem returns_bind {action : Noted α} {next : α → Noted β} {value : α} {result : β}
    (first : Returns action value) (second : Returns (next value) result) :
    Returns (action >>= next) result := by
  intro log
  obtain ⟨middle, ended⟩ := first log
  obtain ⟨rest, ended'⟩ := second middle
  refine ⟨rest, ?_⟩
  rw [run_bind, ended]
  exact ended'

theorem outcome_of_returns {action : Noted α} {value : α} (returns : Returns action value) :
    action.outcome.1 = .ok value := by
  obtain ⟨rest, ended⟩ := returns []
  rw [Noted.outcome, ended]

namespace Place

def isInner : Place → Bool
  | .one kind => kind ≠ .document
  | .many kind => kind ≠ .document
  | .named entry => entry.isInner
  | _ => true

theorem isInner_of_field? {kind : Kind} {name : String} {inner : Place}
    (field : kind.field? name = some inner) : inner.isInner = true := by
  have every : ∀ entry ∈ kind.fields, entry.2.isInner = true := by
    cases kind <;> decide
  exact every (name, inner) (mem_of_field? field)

theorem isInner_of_member? {place inner : Place} (member : place.member? = some inner)
    (within : place.isInner = true) : inner.isInner = true := by
  cases place with
  | many kind =>
      obtain rfl := Option.some.inj member
      exact within
  | branch listed =>
      cases listed with
      | true =>
          obtain rfl := Option.some.inj member
          rfl
      | false => cases member
  | _ => cases member

theorem isInner_of_entry? {place inner : Place} {name : String} {value : Json}
    (stands : place.entry? name value = some inner) (within : place.isInner = true) :
    inner.isInner = true := by
  unfold entry? at stands
  split at stands
  · split at stands
    · cases stands
    · obtain rfl := Option.some.inj stands
      exact within
  · split at stands
    · cases stands
    · obtain rfl := Option.some.inj stands
      rfl
  · cases stands

end Place

variable {step : Step} {place : Place} {law : Members → Prop}

theorem set_get? {members : Members} {name : String} {value : Json}
    (found : members.get? name = some value) : members.set name value = members := by
  induction members with
  | nil => simp at found
  | cons member rest ih =>
      obtain ⟨first, old⟩ := member
      rw [Members.get?_cons] at found
      by_cases same : name = first
      · rw [if_pos same] at found
        simp [Members.set, same, Option.some.inj found]
      · rw [if_neg same] at found
        simp [Members.set, Ne.symm same, ih found]

theorem runFields_returns {pending : List (String × Noted Json)} {members : Members}
    (own : ∀ name action, pending.lookup name = some action →
      ∃ value, members.get? name = some value ∧ Returns action value) (names : List String) :
    Returns (runFields pending members names) members := by
  induction names with
  | nil => exact returns_pure members
  | cons name rest ih =>
      rw [runFields]
      cases waiting : pending.lookup name with
      | none => exact ih
      | some action =>
          obtain ⟨value, found, returns⟩ := own name action waiting
          refine returns_bind returns ?_
          rw [set_get? found]
          exact ih

/-- The members of an object, where those whose names are done have been replaced. -/
def replaced (next : String × Json → Json) (done : List String) (members : Members) : Members :=
  members.map fun member => (member.1, if member.1 ∈ done then next member else member.2)

section replaced

variable {next : String × Json → Json} {done : List String} {members : Members} {name : String}

theorem replaced_snoc (same : ∀ member ∈ members, member.1 = name → next member = member.2) :
    replaced next (done ++ [name]) members = replaced next done members := by
  refine List.map_congr_left fun member present => ?_
  by_cases named : member.1 = name
  · rw [same member present named, ite_self, ite_self]
  · simp [named]

theorem set_replaced (distinct : members.Distinct) {value : Json} (present : (name, value) ∈ members) :
    (replaced next done members).set name (next (name, value)) =
      replaced next (done ++ [name]) members := by
  induction members with
  | nil => cases present
  | cons member rest ih =>
      obtain ⟨first, old⟩ := member
      obtain ⟨fresh, distinct⟩ := (Members.distinct_cons _ _).mp distinct
      rw [replaced, replaced, List.map_cons, List.map_cons, ← replaced, ← replaced, Members.set]
      rcases List.mem_cons.mp present with same | present
      · obtain ⟨rfl, rfl⟩ := Prod.mk.inj same
        have others : replaced next (done ++ [name]) rest = replaced next done rest :=
          replaced_snoc fun member present named => absurd named (fresh member present)
        rw [if_pos rfl, others, if_pos (by simp)]
      · have differs : first ≠ name := fun same => fresh _ present same.symm
        rw [if_neg differs, ih distinct present]
        simp [differs]

theorem runFields_replaces {pending : List (String × Noted Json)} (distinct : members.Distinct)
    (own : ∀ name action, pending.lookup name = some action →
      ∃ value, (name, value) ∈ members ∧ Returns action (next (name, value)))
    (others : ∀ member ∈ members, pending.lookup member.1 = none → next member = member.2)
    (names : List String) :
    Returns (runFields pending (replaced next done members) names)
      (replaced next (done ++ names) members) := by
  induction names generalizing done with
  | nil =>
      rw [List.append_nil]
      exact returns_pure _
  | cons name rest ih =>
      have after : done ++ name :: rest = done ++ [name] ++ rest := by simp
      rw [runFields, after]
      cases waiting : pending.lookup name with
      | none =>
          have unchanged : replaced next (done ++ [name]) members = replaced next done members :=
            replaced_snoc fun member present named => others member present (named ▸ waiting)
          rw [← unchanged]
          exact ih
      | some action =>
          obtain ⟨value, present, returns⟩ := own name action waiting
          refine returns_bind returns ?_
          rw [set_replaced distinct present]
          exact ih

/-- The fields of an object become what their visits end with, and all else stays. -/
theorem visitedFields_returns {kind : Kind} (distinct : members.Distinct)
    (each : ∀ member ∈ members, ∀ inner, kind.field? member.1 = some inner →
      Returns (visit step inner member.2) (next member))
    (others : ∀ member ∈ members, kind.field? member.1 = none → next member = member.2) :
    Returns (visitedFields step kind members)
      (members.map fun member => (member.1, next member)) := by
  have start : replaced next [] members = members := by simp [replaced]
  have finish : replaced next ([] ++ kind.fields.map (·.1)) members =
      members.map fun member => (member.1, next member) := by
    refine List.map_congr_left fun member present => ?_
    cases field : kind.field? member.1 with
    | none => rw [others member present field, ite_self]
    | some inner =>
        have listed := List.mem_map_of_mem (f := Prod.fst) (mem_of_field? field)
        rw [List.nil_append, if_pos listed]
  have ran : Returns
      (runFields (visitFields step kind members) (replaced next [] members) (kind.fields.map (·.1)))
      (replaced next ([] ++ kind.fields.map (·.1)) members) := by
    apply runFields_replaces distinct
    · intro name action waiting
      rw [lookup_visitFields, Option.bind_eq_some_iff] at waiting
      obtain ⟨value, found, waiting⟩ := waiting
      obtain ⟨inner, field, rfl⟩ := Option.map_eq_some_iff.mp waiting
      have present := Members.mem_of_get? found
      exact ⟨value, present, each _ present inner field⟩
    · intro member present none
      rw [lookup_visitFields, Members.get?_of_mem distinct present, Option.bind_some,
        Option.map_eq_none_iff] at none
      exact others member present none
  rw [start, finish] at ran
  exact ran

end replaced

theorem visitItems_returns {items : List Json} {next : Json → Json}
    (each : ∀ item ∈ items, Returns (visit step place item) (next item)) :
    Returns (visitItems step place items) (items.map next) := by
  induction items with
  | nil => exact returns_pure []
  | cons item rest ih =>
      obtain ⟨head, tail⟩ := List.forall_mem_cons.mp each
      rw [visitItems]
      exact returns_bind head (returns_bind (ih tail) (returns_pure _))

theorem visitEntries_returns {entries : Members} {next : String × Json → Json}
    (each : ∀ entry ∈ entries, ∀ inner, place.entry? entry.1 entry.2 = some inner →
      Returns (visit step inner entry.2) (next entry))
    (others : ∀ entry ∈ entries, place.entry? entry.1 entry.2 = none → next entry = entry.2) :
    Returns (visitEntries step place entries) (entries.map fun entry => (entry.1, next entry)) := by
  induction entries with
  | nil => exact returns_pure []
  | cons entry rest ih =>
      obtain ⟨name, value⟩ := entry
      obtain ⟨head, tail⟩ := List.forall_mem_cons.mp each
      obtain ⟨other, others⟩ := List.forall_mem_cons.mp others
      rw [visitEntries]
      cases stands : place.entry? name value with
      | none =>
          have first : Returns (pure value : Noted Json) (next (name, value)) := by
            rw [other stands]
            exact returns_pure value
          exact returns_bind first (returns_bind (ih tail others) (returns_pure _))
      | some inner =>
          exact returns_bind (head inner stands) (returns_bind (ih tail others) (returns_pure _))

theorem pass_returns (within : place.isInner = true) (value : Json) :
    Returns (pass place value) value := by
  unfold pass
  split
  · cases within
  · dsimp only
    split
    · exact returns_bind (returns_note _) (returns_pure value)
    · exact returns_pure value
  · exact returns_pure value

/-- What a walk does not refuse: a value inside a document, and an object as the document. -/
def IsWalkable (place : Place) (value : Json) : Prop :=
  place.isInner = true ∨ place = .one .document ∧ ∃ members, value = .object members

namespace IsWalkable

variable {value : Json}

theorem isInner (walkable : IsWalkable place value) (plain : ∀ members, value ≠ .object members) :
    place.isInner = true := by
  rcases walkable with within | ⟨-, members, is⟩
  · exact within
  · exact absurd is (plain members)

theorem isInner_of_plain (walkable : IsWalkable place value) (plain : place.kind? = none) :
    place.isInner = true := by
  rcases walkable with within | ⟨rfl, -⟩
  · exact within
  · cases plain

end IsWalkable

def Leaves (step : Step) (law : Members → Prop) : Prop :=
  ∀ schema, law schema → Returns (step schema) (.object schema)

theorem finish_returns (leaves : Leaves step law) {kind : Kind} {members : Members}
    (obeys : kind = .schema → law members) :
    Returns (finish step kind members) (.object members) := by
  unfold finish
  split
  · next schema => exact leaves members (obeys schema)
  · exact returns_pure _

theorem visit_returns (leaves : Leaves step law) (value : Json) (place : Place) :
    IsWalkable place value → Everywhere law place value → Returns (visit step place value) value := by
  induction place, value using walk_induction with
  | @fields place kind members holds ih =>
      intro _ every
      obtain ⟨own, inside⟩ := (everywhere_object holds).mp every
      rw [visit, holds]
      refine returns_bind (runFields_returns ?_ _) (finish_returns leaves own)
      intro name action waiting
      rw [lookup_visitFields, Option.bind_eq_some_iff] at waiting
      obtain ⟨argument, found, waiting⟩ := waiting
      obtain ⟨inner, field, rfl⟩ := Option.map_eq_some_iff.mp waiting
      have present := Members.mem_of_get? found
      exact ⟨argument, found, ih _ present inner field (Or.inl (Place.isInner_of_field? field))
        (inside _ present inner field)⟩
  | @entries place entries plain ih =>
      intro walkable every
      have inside := (everywhere_entries plain).mp every
      have kept : Returns (visitEntries step place entries)
          (entries.map fun entry => (entry.1, entry.2)) := by
        apply visitEntries_returns
        · intro entry present inner stands
          have within := Place.isInner_of_entry? stands (walkable.isInner_of_plain plain)
          exact ih entry present inner stands (Or.inl within) (inside entry present inner stands)
        · intro entry _ _
          rfl
      rw [List.map_id'] at kept
      rw [visit, plain]
      exact returns_bind kept (returns_pure _)
  | @items place items ih =>
      intro walkable every
      have outer := walkable.isInner (by simp)
      rw [visit]
      split
      · next inner member =>
        have inside := everywhere_array.mp every inner member
        have kept : Returns (visitItems step inner items) (items.map id) := by
          apply visitItems_returns
          intro item present
          exact ih inner member item present (Or.inl (Place.isInner_of_member? member outer))
            (inside item present)
        rw [List.map_id] at kept
        exact returns_bind kept (returns_pure _)
      · exact pass_returns outer _
  | leaf plain single =>
      intro walkable _
      rw [visit_of_leaf plain single]
      exact pass_returns (walkable.isInner plain) _

/-- A walk that keeps every schema ends with the value that it began with, whatever stands in it, for
a document that is an object and for everything inside documents. -/
theorem visit_keep {place : Place} {value : Json}
    (within : place.isInner = true ∨ place = .one .document ∧ ∃ members, value = .object members) :
    (visit Step.keep place value).outcome.1 = .ok value := by
  have leaves : Leaves Step.keep fun _ => True := by
    intro schema _
    exact returns_pure _
  apply outcome_of_returns
  apply visit_returns leaves value place within
  intro path schema _
  trivial

def misshapenDocument : Json :=
  .object [("definitions", .object [("x-Old", .number (.float .nan)), ("Pet", .object [
      ("properties", .array [.null]), ("items", .object [("not", .array [.bool false])]),
      ("$defs", .object [("Id", .null), ("Tag", .number (.int 1))])])]),
    ("components", .array []),
    ("paths", .object [("/pets", .object [("get", .string "pets"), ("parameters", .object [
      ("schema", .object [])]), ("put", .object [("responses", .object [("200", .null)])])])])]

theorem misshapenDocument_stays :
    (∃ members, misshapenDocument = .object members) ∧
      (visit Step.keep (.one .document) misshapenDocument).outcome.1 = .ok misshapenDocument :=
  ⟨⟨_, rfl⟩, visit_keep (Or.inr ⟨rfl, _, rfl⟩)⟩

end SchemaMerge.OpenApi
