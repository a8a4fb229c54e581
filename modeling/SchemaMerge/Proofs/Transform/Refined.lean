import SchemaMerge.Proofs.Transform.Related
import SchemaMerge.Proofs.Transform.Shaped
import SchemaMerge.Proofs.Transform.Stable

namespace SchemaMerge.OpenApi

variable {α β : Type}

/-- An action does not fail because schemas do not meet. -/
def Persists (action : Noted α) : Prop :=
  ∀ log failure, (action.run.run log).1 = .error failure → isTolerable failure = false

/-- An action has the same outcome as another, unless that fails because schemas do not meet. -/
def Follows (best strict : Noted α) : Prop :=
  ∀ log log', (∃ failure, (strict.run.run log').1 = .error failure ∧ isTolerable failure = true) ∨
    (best.run.run log).1 = (strict.run.run log').1

theorem persists_pure (value : α) : Persists (pure value : Noted α) := by
  intro log failure failed
  cases failed

theorem persists_note (notice : Notice) : Persists (Noted.note notice) := by
  intro log failure failed
  cases failed

theorem persists_throw {failure : Failure} (real : isTolerable failure = false) :
    Persists (throw failure : Noted α) := by
  intro log other failed
  obtain rfl := Except.error.inj failed
  exact real

theorem persists_of_returns {action : Noted α} {value : α} (returns : Returns action value) :
    Persists action := by
  intro log failure failed
  obtain ⟨rest, ended⟩ := returns log
  rw [ended] at failed
  cases failed

theorem persists_bind {action : Noted α} {next : α → Noted β} (first : Persists action)
    (second : ∀ value, Yields action value → Persists (next value)) : Persists (action >>= next) := by
  intro log failure failed
  rw [run_bind] at failed
  cases ran : action.run.run log with
  | mk outcome middle =>
      rw [ran] at failed
      cases outcome with
      | ok value => exact second value ⟨log, middle, ran⟩ middle failure failed
      | error other =>
          obtain rfl := Except.error.inj failed
          exact first log other (by rw [ran])

theorem follows_pure (value : α) : Follows (pure value : Noted α) (pure value) := by
  intro log log'
  exact Or.inr rfl

theorem follows_bind {best strict : Noted α} {next next' : α → Noted β} (first : Follows best strict)
    (second : ∀ value, Yields strict value → Follows (next value) (next' value)) :
    Follows (best >>= next) (strict >>= next') := by
  intro log log'
  rw [run_bind, run_bind]
  cases ran : best.run.run log with
  | mk outcome middle =>
      cases ran' : strict.run.run log' with
      | mk outcome' middle' =>
          have same := first log log'
          rw [ran, ran'] at same
          cases outcome' with
          | error failure =>
              rcases same with ⟨other, same, tolerable⟩ | same
              · obtain rfl := Except.error.inj same
                exact Or.inl ⟨failure, rfl, tolerable⟩
              · obtain rfl : outcome = .error failure := same
                exact Or.inr rfl
          | ok value =>
              obtain rfl : outcome = .ok value := same.resolve_left (by simp)
              exact second value ⟨log', middle', ran'⟩ middle middle'

theorem follows_of_returns {best strict : Noted α} {value : α} (returns : Returns best value)
    (returns' : Returns strict value) : Follows best strict := by
  intro log log'
  obtain ⟨_, ended⟩ := returns log
  obtain ⟨_, ended'⟩ := returns' log'
  exact Or.inr (by rw [ended, ended'])

theorem follows_left {best strict : Noted α} {next : α → Noted α} (first : Follows best strict)
    (leaves : ∀ value, Returns (next value) value) : Follows (best >>= next) strict := by
  have chained : Follows (best >>= next) (strict >>= pure) :=
    follows_bind first fun value _ => follows_of_returns (leaves value) (returns_pure value)
  rwa [bind_pure] at chained

theorem follows_right {action strict : Noted α} {next : α → Noted α} {value : α}
    (returns : Returns action value) (rest : Follows (next value) strict) :
    Follows (action >>= next) strict := by
  have chained : Follows (action >>= next) (pure value >>= fun _ => strict) := by
    refine follows_bind (follows_of_returns returns (returns_pure value)) ?_
    intro reached same
    rwa [← yields_pure same]
  rwa [pure_bind] at chained

section combinators

variable {combinator : Combinator} {schema : Members}

def always : Skip := fun _ => true

def never : Skip := fun _ => false

theorem tryMerge_follows :
    Follows (tryMerge combinator schema) (Noted.ofResult (combinator.merge schema)) := by
  unfold tryMerge
  cases combinator.merge schema with
  | ok merged => exact follows_pure merged
  | error failure =>
      intro log log'
      by_cases tolerable : isTolerable failure = true
      · exact Or.inl ⟨failure, rfl, tolerable⟩
      · refine Or.inr ?_
        dsimp only
        rw [if_neg tolerable]
        rfl

theorem tryMerge_returns {failure : Failure} (failed : combinator.merge schema = .error failure)
    (tolerable : isTolerable failure = true) : Returns (tryMerge combinator schema) (.object schema) := by
  rw [tryMerge, failed]
  dsimp only
  rw [if_pos tolerable]
  exact returns_bind (returns_note _) (returns_pure _)

theorem applyCombinator_empty (found : schema.get? combinator.keyword = some (.array [])) :
    Returns (applyCombinator combinator schema) (.object schema) := by
  rw [applyCombinator, found]
  dsimp only
  split
  · exact returns_bind (returns_note _) (returns_pure _)
  · exact returns_pure _

theorem applyCombinator_ends : (∃ result, Returns (applyCombinator combinator schema) result) ∨
    ∃ failure, isTolerable failure = false ∧ applyCombinator combinator schema = throw failure := by
  by_cases empty : schema.get? combinator.keyword = some (.array [])
  · exact Or.inl ⟨_, applyCombinator_empty empty⟩
  unfold applyCombinator
  split
  · next found => exact absurd found empty
  · split
    · exact Or.inl ⟨_, returns_pure _⟩
    · cases merge : combinator.merge schema with
      | ok merged =>
          rw [tryMerge, merge]
          exact Or.inl ⟨_, returns_pure merged⟩
      | error failure =>
          by_cases tolerable : isTolerable failure = true
          · exact Or.inl ⟨_, tryMerge_returns merge tolerable⟩
          · rw [tryMerge, merge]
            dsimp only
            rw [if_neg tolerable]
            exact Or.inr ⟨failure, by simpa using tolerable, rfl⟩
  · exact Or.inl ⟨_, returns_pure _⟩

theorem applyCombinator_persists : Persists (applyCombinator combinator schema) := by
  rcases applyCombinator_ends with ⟨result, returns⟩ | ⟨failure, real, fails⟩
  · exact persists_of_returns returns
  · rw [fails]
    exact persists_throw real

theorem applyCombinators_persists (combinators : List Combinator) (schema : Json) :
    Persists (applyCombinators combinators schema) := by
  induction combinators generalizing schema with
  | nil => exact persists_pure schema
  | cons combinator rest ih =>
      cases schema with
      | object members => exact persists_bind applyCombinator_persists fun merged _ => ih merged
      | _ => exact persists_pure _

theorem applyCombinator_returns (skipped : combinator.skip = always) :
    Returns (applyCombinator combinator schema) (.object schema) := by
  by_cases empty : schema.get? combinator.keyword = some (.array [])
  · exact applyCombinator_empty empty
  unfold applyCombinator
  split
  · next found => exact absurd found empty
  · rw [skipped]
    exact returns_pure _
  · exact returns_pure _

theorem applyCombinators_left {combinators : List Combinator}
    (left : ∀ combinator ∈ combinators, Returns (applyCombinator combinator schema) (.object schema)) :
    Returns (applyCombinators combinators (.object schema)) (.object schema) := by
  induction combinators with
  | nil => exact returns_pure _
  | cons combinator rest ih =>
      obtain ⟨head, tail⟩ := List.forall_mem_cons.mp left
      exact returns_bind head (ih tail)

theorem applyCombinators_returns {combinators : List Combinator}
    (skipped : ∀ combinator ∈ combinators, combinator.skip = always) (schema : Json) :
    Returns (applyCombinators combinators schema) schema := by
  cases schema with
  | object members =>
      exact applyCombinators_left fun combinator listed => applyCombinator_returns (skipped combinator listed)
  | _ => cases combinators <;> exact returns_pure _

variable (keyword : String) (failure : Failure)

theorem applyCombinator_follows {schemas : List Json} {strict : Except Failure Json}
    (found : schema.get? combinator.keyword = some (.array schemas)) (filled : schemas ≠ [])
    (tried : combinator.skip = never) (same : combinator.merge schema = strict) :
    Follows (applyCombinator combinator schema) (Noted.ofResult strict) := by
  have applied : applyCombinator combinator schema = tryMerge combinator schema := by
    cases schemas with
    | nil => exact absurd rfl filled
    | cons first others => simp [applyCombinator, found, tried, never]
  rw [applied, ← same]
  exact tryMerge_follows

theorem applyCombinator_other
    (other : ∀ schemas, schema.get? combinator.keyword ≠ some (.array schemas)) :
    Returns (applyCombinator combinator schema) (.object schema) := by
  unfold applyCombinator
  split
  · next found => exact absurd found (other _)
  · next found => exact absurd found (other _)
  · exact returns_pure _

theorem allOf_follows (filled : schema.get? "allOf" ≠ some (.array [])) :
    Follows (applyCombinator ⟨"allOf", never, mergeAllOf⟩ schema) (Step.allOf false schema) := by
  unfold Step.allOf
  split
  · next absent =>
    exact follows_of_returns (applyCombinator_other (by simp [absent])) (returns_pure _)
  · next found => exact absurd found filled
  · next schemas some found =>
    rw [Bool.false_and, if_neg Bool.false_ne_true]
    refine applyCombinator_follows found some rfl ?_
    cases schemas with
    | nil => exact absurd rfl some
    | cons first others => simp only [mergeAllOf, found]
  · next value _ single found =>
    have other : ∀ schemas, schema.get? "allOf" ≠ some (.array schemas) := by
      intro schemas found'
      exact single schemas (Option.some.inj (found.symm.trans found'))
    exact follows_of_returns (applyCombinator_other other)
      (returns_bind (returns_note _) (returns_pure _))

theorem alternatives_follows :
    Follows (applyCombinator ⟨keyword, never, mergeSingle keyword failure⟩ schema)
      (Step.alternatives keyword schema) := by
  unfold Step.alternatives
  split
  · next absent =>
    exact follows_of_returns (applyCombinator_other (by simp [absent])) (returns_pure _)
  · next found =>
    exact follows_of_returns (applyCombinator_empty found)
      (returns_bind (returns_note _) (returns_pure _))
  · next single found =>
    refine applyCombinator_follows found (by simp) rfl ?_
    simp only [mergeSingle, found]
  · intro log log'
    exact Or.inl ⟨.severalAlternatives keyword, rfl, rfl⟩
  · next value _ _ single found =>
    have other : ∀ schemas, schema.get? keyword ≠ some (.array schemas) := by
      intro schemas found'
      exact single schemas (Option.some.inj (found.symm.trans found'))
    exact follows_of_returns (applyCombinator_other other)
      (returns_bind (returns_note _) (returns_pure _))

theorem subschemas_follows_allOf (filled : schema.get? "allOf" ≠ some (.array [])) :
    Follows (Step.subschemas never always always schema) (Step.allOf false schema) := by
  have skipped : ∀ merged, Returns (applyCombinators
      [⟨"anyOf", always, mergeAnyOf⟩, ⟨"oneOf", always, mergeOneOf⟩] merged) merged :=
    applyCombinators_returns (by simp)
  exact follows_left (allOf_follows filled) skipped

theorem subschemas_follows_anyOf :
    Follows (Step.subschemas always never always schema) (Step.alternatives "anyOf" schema) := by
  have first : Returns (applyCombinator ⟨"allOf", always, mergeAllOf⟩ schema) (.object schema) :=
    applyCombinator_returns rfl
  have last : ∀ merged, Returns (applyCombinators [⟨"oneOf", always, mergeOneOf⟩] merged) merged :=
    applyCombinators_returns (by simp)
  refine follows_right first ?_
  exact follows_left (alternatives_follows "anyOf" .unionOfSchemas) last

theorem subschemas_follows_oneOf :
    Follows (Step.subschemas always always never schema) (Step.alternatives "oneOf" schema) := by
  have first : Returns (applyCombinator ⟨"allOf", always, mergeAllOf⟩ schema) (.object schema) :=
    applyCombinator_returns rfl
  have second : Returns (applyCombinator ⟨"anyOf", always, mergeAnyOf⟩ schema) (.object schema) :=
    applyCombinator_returns rfl
  have last : ∀ merged, Returns (applyCombinators [] merged) merged :=
    applyCombinators_returns (by simp)
  refine follows_right first (follows_right second ?_)
  exact follows_left (alternatives_follows "oneOf" .symmetricDifference) last

end combinators

theorem pass_persists (place : Place) (value : Json) : Persists (pass place value) := by
  unfold pass
  split
  · exact persists_throw rfl
  · dsimp only
    split
    · exact persists_bind (persists_note _) fun _ _ => persists_pure _
    · exact persists_pure _
  · exact persists_pure _

theorem bind_congr_of_yields {action : Noted α} {next next' : α → Noted β}
    (same : ∀ value, Yields action value → next value = next' value) :
    action >>= next = action >>= next' := by
  refine ExceptT.ext (StateT.ext fun log => ?_)
  rw [run_bind, run_bind]
  cases ran : action.run.run log with
  | mk outcome middle =>
      cases outcome with
      | ok value =>
          dsimp only
          rw [same value ⟨log, middle, ran⟩]
      | error failure => rfl

theorem chains_persists :
    Chains fun {α} (first second : Noted α) => first = second ∧ Persists first := by
  constructor
  · intro α value
    exact ⟨rfl, persists_pure value⟩
  · intro α β first second next next' started each
    obtain ⟨rfl, persists⟩ := started
    constructor
    · exact bind_congr_of_yields fun value yields => (each value yields).1
    · exact persists_bind persists fun value yields => (each value yields).2
  · intro place value
    exact ⟨rfl, pass_persists place value⟩

theorem visit_persists {step : Step} (persists : ∀ schema, Persists (step schema)) (place : Place)
    (value : Json) : Persists (visit step place value) := by
  have beside : ∀ schema, step schema = step schema ∧ Persists (step schema) := by
    intro schema
    exact ⟨rfl, persists schema⟩
  exact (visit_related_always chains_persists beside place value).2

theorem subschemas_persists (skipAllOf skipAnyOf skipOneOf : Skip) (schema : Members) :
    Persists (Step.subschemas skipAllOf skipAnyOf skipOneOf schema) :=
  applyCombinators_persists _ _

theorem chains_follows : Chains Follows := by
  constructor
  · intro α value
    exact follows_pure value
  · intro α β first second next next' started each
    exact follows_bind started each
  · intro place value
    unfold pass
    split
    · intro log log'
      exact Or.inr rfl
    · dsimp only
      split
      · apply follows_bind (follows_of_returns (returns_note _) (returns_note _))
        intro _ _
        exact follows_pure _
      · exact follows_pure _
    · exact follows_pure _

def tolerableKinds : List Failure.Kind := [.empty, .unsupported, .unavailable]

theorem isTolerable_iff (failure : Failure) :
    isTolerable failure = true ↔ failure.kind ∈ tolerableKinds := by
  unfold isTolerable tolerableKinds
  cases failure.kind <;> simp

def Refines (best strict : Step) (document : Json) : Prop :=
  (∃ failure, (visit strict (.one .document) document).outcome.1 = .error failure ∧
    failure.kind ∈ tolerableKinds) ∨
  (visit best (.one .document) document).outcome.1 = (visit strict (.one .document) document).outcome.1

theorem refines_of_follows {best strict : Step} {document : Json}
    (follows : Follows (visit best (.one .document) document) (visit strict (.one .document) document)) :
    Refines best strict document := by
  rcases follows [] [] with ⟨failure, failed, tolerable⟩ | same
  · exact Or.inl ⟨failure, failed, (isTolerable_iff failure).mp tolerable⟩
  · exact Or.inr same

/-- Visiting the schemas inside a schema leaves no list empty that was not. -/
theorem filled_visited {step : Step} (shapes : Shapes step) {keyword : String}
    {members visited : Members} (filled : members.get? keyword ≠ some (.array []))
    (ran : Yields (visitedFields step .schema members) visited) :
    visited.get? keyword ≠ some (.array []) := by
  intro found
  obtain ⟨items, before, same⟩ := get?_visited_array shapes ran found
  rw [List.length_eq_zero_iff.mp same] at before
  exact filled before

/-- The pass that merges what it can never fails because schemas do not meet. Where it skips all but
one keyword, it has the outcome of the pass that merges the lists under that keyword, unless that
fails for this reason; only empty lists under `allOf` are treated in two ways. -/
theorem subschemas_refines (document : Json) :
    (∀ skipAllOf skipAnyOf skipOneOf failure,
      (visit (Step.subschemas skipAllOf skipAnyOf skipOneOf) (.one .document) document).outcome.1 =
        .error failure → failure.kind ∉ tolerableKinds) ∧
    ((∀ path schema, SchemaAt (.one .document) document path schema → ("allOf", .array []) ∉ schema) →
      Refines (Step.subschemas never always always) (Step.allOf false) document) ∧
    Refines (Step.subschemas always never always) (Step.alternatives "anyOf") document ∧
    Refines (Step.subschemas always always never) (Step.alternatives "oneOf") document := by
  refine ⟨?_, ?_, ?_, ?_⟩
  · intro skipAllOf skipAnyOf skipOneOf failure failed
    have persists := visit_persists (subschemas_persists skipAllOf skipAnyOf skipOneOf)
      (.one .document) document
    rw [← isTolerable_iff, persists [] failure failed]
    exact Bool.false_ne_true
  · intro filled
    apply refines_of_follows
    apply visit_related chains_follows fun schema => schema.get? "allOf" ≠ some (.array [])
    · intro schema filled
      exact subschemas_follows_allOf filled
    · exact filled_visited (shapes_allOf false)
    · intro path schema reached found
      exact filled path schema reached (Members.mem_of_get? found)
  · apply refines_of_follows
    apply visit_related_always chains_follows
    intro schema
    exact subschemas_follows_anyOf
  · apply refines_of_follows
    apply visit_related_always chains_follows
    intro schema
    exact subschemas_follows_oneOf

def keyDocument : Json :=
  .object [("definitions", .object [("Key", .object [
    ("allOf", .array [.object [("minLength", .number (.int 1))]]),
    ("anyOf", .array [.bool true, .bool false])])])]

def mergedKeyDocument : Json :=
  .object [("definitions", .object [("Key", .object [("anyOf", .array [.bool true, .bool false]),
    ("minLength", .number (.int 1))])])]

theorem keyDocument_refines :
    (∀ path schema, SchemaAt (.one .document) keyDocument path schema → ("allOf", .array []) ∉ schema) ∧
      (visit (Step.allOf false) (.one .document) keyDocument).outcome.1 = .ok mergedKeyDocument ∧
      (visit (Step.subschemas never always always) (.one .document) keyDocument).outcome.1 =
        .ok mergedKeyDocument ∧
      (visit (Step.alternatives "anyOf") (.one .document) keyDocument).outcome.1 =
        .error (.severalAlternatives "anyOf") ∧
      (visit (Step.subschemas always never always) (.one .document) keyDocument).outcome.1 =
        .ok keyDocument := by
  have filled : ∀ path schema, SchemaAt (.one .document) keyDocument path schema →
      ("allOf", .array []) ∉ schema := by
    refine (everywhere_object rfl).mpr ⟨by simp, ?_⟩
    intro definitions present inner field
    obtain rfl := List.mem_singleton.mp present
    obtain rfl : inner = .named (.one .schema) := (Option.some.inj field).symm
    refine (everywhere_entries rfl).mpr ?_
    intro key present inner stands
    obtain rfl := List.mem_singleton.mp present
    obtain rfl : inner = .one .schema := (Option.some.inj stands).symm
    refine (everywhere_object rfl).mpr ⟨fun _ => by simp, ?_⟩
    intro keyword present inner field
    simp only [List.mem_cons, List.not_mem_nil, or_false] at present
    rcases present with rfl | rfl <;>
      obtain rfl : inner = .branch true := (Option.some.inj field).symm
    · refine everywhere_array.mpr ?_
      intro inner member item present
      obtain rfl := List.mem_singleton.mp present
      obtain rfl : inner = .one .schema := (Option.some.inj member).symm
      refine (everywhere_object rfl).mpr ⟨fun _ => by simp, ?_⟩
      intro keyword present inner field
      obtain rfl := List.mem_singleton.mp present
      cases field
    · refine everywhere_array.mpr ?_
      intro inner member item present
      simp only [List.mem_cons, List.not_mem_nil, or_false] at present
      rcases present with rfl | rfl <;> exact everywhere_of_leaf (by simp) (by simp)
  have merged : (visit (Step.allOf false) (.one .document) keyDocument).outcome.1 =
      .ok mergedKeyDocument := by decide +kernel
  have refines := (subschemas_refines keyDocument).2.1 filled
  refine ⟨filled, merged, ?_, by decide +kernel, by decide +kernel⟩
  rcases refines with ⟨failure, failed, -⟩ | same
  · rw [merged] at failed
    cases failed
  · rw [same, merged]

end SchemaMerge.OpenApi
