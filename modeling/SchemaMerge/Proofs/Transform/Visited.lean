import SchemaMerge.OpenApi.Merge
import SchemaMerge.Proofs.Json.Members

namespace SchemaMerge.OpenApi

def Yields {α : Type} (action : Noted α) (value : α) : Prop :=
  ∃ log rest, action.run.run log = (.ok value, rest)

variable {α β : Type}

theorem yields_of_outcome {action : Noted α} {value : α} (made : action.outcome.1 = .ok value) :
    Yields action value := ⟨[], action.outcome.2, Prod.ext made rfl⟩

theorem yields_pure {value result : α} (made : Yields (pure value : Noted α) result) :
    value = result := by
  obtain ⟨log, rest, run⟩ := made
  exact Except.ok.inj (Prod.mk.inj run).1

theorem run_bind (action : Noted α) (next : α → Noted β) (log : List Notice) :
    (action >>= next).run.run log = match action.run.run log with
      | (.ok value, log) => (next value).run.run log
      | (.error failure, log) => (.error failure, log) := by
  simp only [bind, ExceptT.bind, ExceptT.mk, ExceptT.bindCont, ExceptT.run, StateT.run, StateT.bind]
  cases action log with
  | mk outcome log => cases outcome <;> rfl

theorem yields_bind {action : Noted α} {next : α → Noted β} {result : β}
    (made : Yields (action >>= next) result) :
    ∃ value, Yields action value ∧ Yields (next value) result := by
  obtain ⟨log, rest, run⟩ := made
  rw [run_bind] at run
  cases ended : action.run.run log with
  | mk outcome middle =>
      rw [ended] at run
      cases outcome with
      | error failure => exact absurd (Prod.mk.inj run).1 (by simp)
      | ok value => exact ⟨value, ⟨log, middle, ended⟩, middle, rest, run⟩

theorem not_yields_throw {failure : Failure} {result : α} :
    ¬Yields (throw failure : Noted α) result := by
  rintro ⟨log, rest, run⟩
  exact absurd (Prod.mk.inj run).1 (by simp)

theorem yields_ofResult {action : Except Failure α} {result : α}
    (made : Yields (Noted.ofResult action) result) : action = .ok result := by
  cases action with
  | error failure => exact (not_yields_throw made).elim
  | ok value => rw [yields_pure made]

variable {step : Step} {place : Place}

theorem visit_of_leaf {value : Json} (plain : ∀ members, value ≠ .object members)
    (single : ∀ items, value ≠ .array items) : visit step place value = pass place value := by
  cases value with
  | object members => exact absurd rfl (plain members)
  | array items => exact absurd rfl (single items)
  | _ =>
      rw [visit]
      all_goals simp

theorem pass_yields {value result : Json} (made : Yields (pass place value) result) :
    result = value := by
  unfold pass at made
  split at made
  · exact (not_yields_throw made).elim
  · dsimp only at made
    split at made
    · obtain ⟨_, _, made⟩ := yields_bind made
      exact (yields_pure made).symm
    · exact (yields_pure made).symm
  · exact (yields_pure made).symm

theorem visit_pass {value result : Json} (plain : ∀ members, value ≠ .object members)
    (single : ∀ items, value ≠ .array items) (made : Yields (visit step place value) result) :
    result = value := by
  rw [visit_of_leaf plain single] at made
  exact pass_yields made

theorem visitItems_yields {items results : List Json}
    (made : Yields (visitItems step place items) results) :
    List.Forall₂ (fun item result => Yields (visit step place item) result) items results := by
  induction items generalizing results with
  | nil =>
      rw [visitItems] at made
      rw [← yields_pure made]
      exact .nil
  | cons item rest ih =>
      rw [visitItems] at made
      obtain ⟨first, head, made⟩ := yields_bind made
      obtain ⟨others, tail, made⟩ := yields_bind made
      rw [← yields_pure made]
      exact .cons head (ih tail)

/-- An entry keeps its name, and is visited if it stands for a value of the place. -/
structure Visits (step : Step) (place : Place) (entry result : String × Json) : Prop where
  name : result.1 = entry.1
  skipped : place.entry? entry.1 entry.2 = none → result.2 = entry.2
  visited : ∀ {inner}, place.entry? entry.1 entry.2 = some inner →
    Yields (visit step inner entry.2) result.2

theorem visitEntries_yields {entries results : Members}
    (made : Yields (visitEntries step place entries) results) :
    List.Forall₂ (Visits step place) entries results := by
  induction entries generalizing results with
  | nil =>
      rw [visitEntries] at made
      rw [← yields_pure made]
      exact .nil
  | cons entry rest ih =>
      obtain ⟨name, value⟩ := entry
      rw [visitEntries] at made
      cases stands : place.entry? name value with
      | none =>
          rw [stands] at made
          obtain ⟨first, head, made⟩ := yields_bind made
          obtain ⟨others, tail, made⟩ := yields_bind made
          rw [← yields_pure made]
          refine .cons ⟨rfl, fun _ => (yields_pure head).symm, fun some => ?_⟩ (ih tail)
          exact absurd (stands.symm.trans some) (by simp)
      | some inner =>
          rw [stands] at made
          obtain ⟨first, head, made⟩ := yields_bind made
          obtain ⟨others, tail, made⟩ := yields_bind made
          rw [← yields_pure made]
          refine .cons ⟨rfl, fun none => ?_, fun some => ?_⟩ (ih tail)
          · exact absurd (stands.symm.trans none) (by simp)
          · rwa [← Option.some.inj (stands.symm.trans some)]

theorem lookup_visitFields (kind : Kind) (members : Members) (name : String) :
    (visitFields step kind members).lookup name =
      (members.get? name).bind fun value => (kind.field? name).map fun place => visit step place value := by
  induction members with
  | nil => rfl
  | cons member rest ih =>
      obtain ⟨key, value⟩ := member
      rw [visitFields, Members.get?_cons]
      by_cases same : name = key
      · subst same
        cases field : kind.field? name with
        | some place => simp
        | none => simp [ih, field]
      · have differs : (name == key) = false := by simpa using same
        cases kind.field? key with
        | some place => simp [List.lookup_cons, differs, ih, same]
        | none => simp [ih, same]

theorem distinct_runFields {pending : List (String × Noted Json)} {members results : Members}
    {names : List String} (made : Yields (runFields pending members names) results)
    (distinct : members.Distinct) : results.Distinct := by
  induction names generalizing members with
  | nil =>
      rw [runFields] at made
      rwa [← yields_pure made]
  | cons field rest ih =>
      rw [runFields] at made
      cases waiting : pending.lookup field with
      | none =>
          rw [waiting] at made
          exact ih made distinct
      | some action =>
          rw [waiting] at made
          obtain ⟨value, -, made⟩ := yields_bind made
          exact ih made (Members.distinct_set distinct field value)

/-- A field that is pending takes the value that its visit yields; everything else stays. -/
theorem get?_runFields {pending : List (String × Noted Json)} {members results : Members}
    {names : List String} (made : Yields (runFields pending members names) results) (name : String) :
    ((name ∉ names ∨ pending.lookup name = none) ∧ results.get? name = members.get? name) ∨
      ∃ action value, pending.lookup name = some action ∧ Yields action value ∧
        results.get? name = some value := by
  induction names generalizing members with
  | nil =>
      rw [runFields] at made
      rw [← yields_pure made]
      exact Or.inl ⟨by simp, rfl⟩
  | cons field rest ih =>
      rw [runFields] at made
      cases waiting : pending.lookup field with
      | none =>
          rw [waiting] at made
          rcases ih made with ⟨untouched, kept⟩ | ran
          · by_cases same : name = field
            · exact Or.inl ⟨Or.inr (same ▸ waiting), kept⟩
            · exact Or.inl ⟨untouched.imp_left (by simp [same]), kept⟩
          · exact Or.inr ran
      | some action =>
          rw [waiting] at made
          obtain ⟨value, ran, made⟩ := yields_bind made
          rcases ih made with ⟨untouched, kept⟩ | ranLater
          · rw [Members.get?_set] at kept
            split at kept
            · next same => exact Or.inr ⟨action, value, same ▸ waiting, ran, kept⟩
            · next other => exact Or.inl ⟨untouched.imp_left (by simp [other]), kept⟩
          · exact Or.inr ranLater

theorem mem_of_field? {kind : Kind} {name : String} {place : Place}
    (field : kind.field? name = some place) : (name, place) ∈ kind.fields := by
  obtain ⟨before, after, is, -⟩ := List.lookup_eq_some_iff.mp field
  rw [is]
  simp

def visitedFields (step : Step) (kind : Kind) (members : Members) : Noted Members :=
  runFields (visitFields step kind members) members (kind.fields.map (·.1))

theorem get?_visitedFields {kind : Kind} {members visited : Members}
    (ran : Yields (visitedFields step kind members) visited) (name : String) :
    ((members.get? name = none ∨ kind.field? name = none) ∧
      visited.get? name = members.get? name) ∨
    ∃ argument inner value, members.get? name = some argument ∧ kind.field? name = some inner ∧
      Yields (visit step inner argument) value ∧ visited.get? name = some value := by
  have found := get?_runFields ran name
  rw [lookup_visitFields] at found
  cases is : members.get? name with
  | none =>
      rw [is] at found
      rcases found with ⟨_, kept⟩ | ⟨action, value, waiting, _⟩
      · exact Or.inl ⟨Or.inl rfl, kept⟩
      · simp at waiting
  | some argument =>
      rw [is] at found
      cases field : kind.field? name with
      | none =>
          rw [field] at found
          rcases found with ⟨_, kept⟩ | ⟨action, value, waiting, _⟩
          · exact Or.inl ⟨Or.inr rfl, kept⟩
          · simp at waiting
      | some inner =>
          have listed := List.mem_map_of_mem (f := Prod.fst) (mem_of_field? field)
          rw [field] at found
          rcases found with ⟨untouched, _⟩ | ⟨action, value, waiting, ran, found⟩
          · exact absurd listed (untouched.resolve_right (by simp))
          · simp only [Option.bind_some, Option.map_some, Option.some.injEq] at waiting
            rw [← waiting] at ran
            exact Or.inr ⟨argument, inner, value, rfl, rfl, ran, found⟩

theorem visit_object_yields {kind : Kind} (holds : place.kind? = some kind) {members : Members}
    {result : Json} (made : Yields (visit step place (.object members)) result) :
    ∃ visited, Yields (visitedFields step kind members) visited ∧
      Yields (finish step kind visited) result := by
  rw [visit, holds] at made
  exact yields_bind made

end SchemaMerge.OpenApi
