import SchemaMerge.Proofs.Json.Equality
import SchemaMerge.Proofs.Transform.Position
import SchemaMerge.Proofs.Transform.Visited

namespace SchemaMerge.OpenApi

/-- A relation between actions that lasts where actions follow one another. -/
structure Chains (related : ∀ {α : Type}, Noted α → Noted α → Prop) : Prop where
  pure : ∀ {α : Type} (value : α), related (pure value) (pure value)
  bind : ∀ {α β : Type} {first second : Noted α} {next next' : α → Noted β}, related first second →
    (∀ value, Yields second value → related (next value) (next' value)) →
    related (first >>= next) (second >>= next')
  pass : ∀ place value, related (pass place value) (pass place value)

variable {related : ∀ {α : Type}, Noted α → Noted α → Prop} {step step' : Step} {place : Place}

theorem runFields_related (chains : Chains related) {pending pending' : List (String × Noted Json)}
    (each : ∀ name, Option.Rel related (pending.lookup name) (pending'.lookup name))
    (names : List String) (members : Members) :
    related (runFields pending members names) (runFields pending' members names) := by
  induction names generalizing members with
  | nil => exact chains.pure members
  | cons name rest ih =>
      have waiting := each name
      rw [runFields, runFields]
      generalize pending.lookup name = action at waiting ⊢
      generalize pending'.lookup name = action' at waiting ⊢
      cases waiting with
      | none => exact ih members
      | some same => exact chains.bind same fun value _ => ih (members.set name value)

theorem visitedFields_related (chains : Chains related) {kind : Kind} {members : Members}
    (each : ∀ member ∈ members, ∀ inner, kind.field? member.1 = some inner →
      related (visit step inner member.2) (visit step' inner member.2)) :
    related (visitedFields step kind members) (visitedFields step' kind members) := by
  apply runFields_related chains
  intro name
  rw [lookup_visitFields, lookup_visitFields]
  cases found : members.get? name with
  | none => exact .none
  | some argument =>
      cases field : kind.field? name with
      | none => exact .none
      | some inner => exact .some (each _ (Members.mem_of_get? found) inner field)

theorem visitItems_related (chains : Chains related) {items : List Json}
    (each : ∀ item ∈ items, related (visit step place item) (visit step' place item)) :
    related (visitItems step place items) (visitItems step' place items) := by
  induction items with
  | nil => exact chains.pure []
  | cons item rest ih =>
      obtain ⟨head, tail⟩ := List.forall_mem_cons.mp each
      rw [visitItems, visitItems]
      apply chains.bind head
      intro first _
      apply chains.bind (ih tail)
      intro others _
      exact chains.pure _

theorem visitEntries_related (chains : Chains related) {entries : Members}
    (each : ∀ entry ∈ entries, ∀ inner, place.entry? entry.1 entry.2 = some inner →
      related (visit step inner entry.2) (visit step' inner entry.2)) :
    related (visitEntries step place entries) (visitEntries step' place entries) := by
  induction entries with
  | nil => exact chains.pure []
  | cons entry rest ih =>
      obtain ⟨name, value⟩ := entry
      obtain ⟨head, tail⟩ := List.forall_mem_cons.mp each
      have others (first : Json) : related
          (do let others ← visitEntries step place rest; return (name, first) :: others)
          (do let others ← visitEntries step' place rest; return (name, first) :: others) := by
        apply chains.bind (ih tail)
        intro others _
        exact chains.pure _
      rw [visitEntries, visitEntries]
      cases stands : place.entry? name value with
      | none => exact chains.bind (chains.pure value) fun first _ => others first
      | some inner => exact chains.bind (head inner stands) fun first _ => others first

/-- Walks whose steps are related on the schemas that obey a law, through a value in which the law
holds everywhere. -/
theorem visit_related (chains : Chains related) (law : Members → Prop)
    (each : ∀ schema, law schema → related (step schema) (step' schema))
    (kept : ∀ {members visited}, law members → Yields (visitedFields step' .schema members) visited →
      law visited)
    (value : Json) {place : Place} : Everywhere law place value →
      related (visit step place value) (visit step' place value) := by
  induction place, value using walk_induction with
  | @fields place kind members holds ih =>
      intro every
      obtain ⟨own, inside⟩ := (everywhere_object holds).mp every
      rw [visit, visit, holds]
      refine chains.bind (visitedFields_related chains fun member present inner field =>
        ih member present inner field (inside member present inner field)) ?_
      intro visited ran
      rw [finish, finish]
      by_cases schema : kind = .schema
      · subst schema
        rw [if_pos rfl, if_pos rfl]
        exact each visited (kept (own rfl) ran)
      · rw [if_neg schema, if_neg schema]
        exact chains.pure _
  | @entries place entries plain ih =>
      intro every
      have inside := (everywhere_entries plain).mp every
      rw [visit, visit, plain]
      refine chains.bind (visitEntries_related chains ?_) fun entries _ => chains.pure _
      intro entry present inner stands
      exact ih entry present inner stands (inside entry present inner stands)
  | @items place items ih =>
      intro every
      rw [visit, visit]
      cases member : place.member? with
      | none => exact chains.pass place _
      | some inner =>
          have inside := everywhere_array.mp every inner member
          refine chains.bind (visitItems_related chains ?_) fun results _ => chains.pure _
          intro item present
          exact ih inner member item present (inside item present)
  | leaf plain single =>
      intro _
      rw [visit_of_leaf plain single, visit_of_leaf plain single]
      exact chains.pass _ _

theorem visit_related_always (chains : Chains related)
    (each : ∀ schema, related (step schema) (step' schema)) (place : Place) (value : Json) :
    related (visit step place value) (visit step' place value) :=
  visit_related chains (fun _ => True) (fun schema _ => each schema) (fun _ _ => trivial) value
    fun _ _ _ => trivial

end SchemaMerge.OpenApi
