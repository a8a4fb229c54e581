import SchemaMerge.Proofs.Outcome
import SchemaMerge.Proofs.Transform.Normal
import SchemaMerge.Proofs.Transform.Refined

/-!
Merging what can be merged once more. Each list is tried once, and one that cannot be merged is left
alone; a second pass changes nothing, unless a schema has been merged with others while such a list
stood in it.
-/

namespace SchemaMerge.OpenApi

open Schema

/-- A list that cannot be merged into any schema. -/
def isIdle (keyword : String) (schemas : List Json) : Bool :=
  schemas.isEmpty || alternativeKeywords.contains keyword && 2 ≤ schemas.length

/-- No list but idle ones stands under the keywords of a schema that have been tried. -/
def isClear (tried : List String) (schema : Members) : Bool :=
  schema.all fun (keyword, argument) =>
    match argument with
    | .array schemas => !tried.contains keyword || isIdle keyword schemas
    | _ => true

/-- Meets two schemas, but does not merge two objects unless both are clear: the first of lists under
the keywords that have been tried in it, and all others of lists under any. -/
def meetCareful : List String → Nat → Meeting
  | _, 0 => meetWithin 0
  | tried, levels + 1 => meetWith fun first second =>
    if isClear tried first && isClear combinatorKeywords second then
      meetObjects (meetCareful combinatorKeywords levels) first second
    else throw .depth

def mergeCareful (tried : List String) (keyword : String) (schema : Members) : Except Failure Json :=
  match schema.get? keyword with
  | some (.array schemas) =>
    if isClear tried schema then
      schemas.foldlM (meetCareful (tried ++ [keyword]) (levelsOf defaultDepth))
        (.object (schema.erase keyword))
    else throw .depth
  | _ => return .object schema

def applyCareful (tried : List String) (combinator : Combinator) (schema : Members) : Noted Json := do
  let merged ← applyCombinator combinator schema
  if merged = .object schema ∨ mergeCareful tried combinator.keyword schema = .ok merged then
    return merged
  else throw (.unsupported combinator.keyword (.object schema) merged none)

def applyAllCareful : List String → List Combinator → Json → Noted Json
  | tried, combinator :: rest, .object schema => do
    let merged ← applyCareful tried combinator schema
    applyAllCareful (tried ++ [combinator.keyword]) rest merged
  | _, _, schema => return schema

def allCombinators : List Combinator := combinators never never never

/-- Merges what can be merged, but fails if a schema was merged with others while a list was left in it
that had been tried before. -/
def Step.careful : Step := fun schema => applyAllCareful [] allCombinators (.object schema)

section idle

variable {keyword : String} {tried : List String} {recur : Meeting}

theorem isClear_iff {schema : Members} : isClear tried schema = true ↔
    ∀ keyword ∈ tried, Remains keyword (isIdle keyword · = true) schema := by
  rw [isClear, List.all_eq_true]
  constructor
  · intro clear keyword listed items present
    have own := clear _ present
    simpa [listed] using own
  · rintro remains ⟨keyword, argument⟩ present
    cases argument with
    | array items =>
        by_cases listed : keyword ∈ tried
        · simp [remains keyword listed items present]
        · simp [listed]
    | _ => rfl

theorem isClear_erase {schema : Members} (clear : isClear tried schema = true) (keyword : String) :
    isClear (tried ++ [keyword]) (schema.erase keyword) = true := by
  rw [isClear_iff] at clear ⊢
  intro keyword' listed items present
  have same : keyword' ≠ keyword := by simpa using (List.mem_filter.mp present).2
  have before : keyword' ∈ tried := by simpa [same] using listed
  exact clear keyword' before items (List.mem_of_mem_filter present)

theorem not_isIdle_single (schema : Json) : isIdle keyword [schema] = false := by
  simp [isIdle]

theorem not_distribute_idle {schemas others mets : List Json}
    (made : distribute recur keyword schemas others = .ok mets)
    (idle : isIdle keyword schemas = true) (idle' : isIdle keyword others = true) : False := by
  obtain ⟨single, alternatives, ⟨rfl, -⟩ | ⟨-, rfl⟩, -⟩ := distribute_eq_ok made
  · rw [not_isIdle_single] at idle
    cases idle
  · rw [not_isIdle_single] at idle'
    cases idle'

theorem isFinal_idle (combinator : keyword ∈ combinatorKeywords) :
    IsFinal keyword (isIdle keyword · = true) := by
  refine ⟨combinator, ?_⟩
  intro recur schemas others mets made idle idle'
  rcases mem_combinatorKeywords.mp combinator with rfl | rfl | rfl
  · have empty : schemas = [] := by simpa [isIdle, alternativeKeywords] using idle
    have empty' : others = [] := by simpa [isIdle, alternativeKeywords] using idle'
    subst empty empty'
    obtain ⟨added, is, part⟩ := allOf_eq_ok made
    rw [Json.array.inj is, List.sublist_nil.mp part]
    rfl
  · rcases anyOf_eq_ok made with ⟨-, is⟩ | ⟨-, is⟩ | ⟨_, distributed, -⟩
    · rwa [Json.array.inj is]
    · rwa [Json.array.inj is]
    · exact (not_distribute_idle distributed idle idle').elim
  · rcases oneOf_eq_ok made with ⟨-, is⟩ | ⟨_, distributed, -⟩
    · rwa [Json.array.inj is]
    · exact (not_distribute_idle distributed idle idle').elim

theorem isClear_meetObjects (known : tried ⊆ combinatorKeywords) {first second out : Members}
    (made : meetObjects recur first second = .ok out) (clear : isClear tried first = true)
    (clear' : isClear tried second = true) : isClear tried out = true := by
  rw [isClear_iff] at clear clear' ⊢
  intro keyword listed
  exact remains_meetObjects (isFinal_idle (known listed)) made (clear keyword listed)
    (clear' keyword listed)

end idle

section still

variable {tried : List String} {schema : Members} {combinator : Combinator}

def IsKeptBy (combinators : List Combinator) (schema : Members) : Prop :=
  ∀ combinator ∈ combinators, Returns (applyCombinator combinator schema) (.object schema)

abbrev IsStill : Members → Prop := IsKeptBy allCombinators

theorem keyword_of_mem (listed : combinator ∈ allCombinators) :
    combinator.keyword ∈ combinatorKeywords := by
  revert combinator
  decide

theorem mergeSingle_several {keyword : String} {failure : Failure} {schemas : List Json}
    (found : schema.get? keyword = some (.array schemas)) (several : 2 ≤ schemas.length) :
    mergeSingle keyword failure schema = .error failure := by
  match schemas with
  | [] => cases several
  | [_] => simp at several
  | _ :: _ :: _ => simp only [mergeSingle, found]

theorem exists_failure (listed : combinator ∈ allCombinators) {schemas : List Json}
    (found : schema.get? combinator.keyword = some (.array schemas)) (filled : schemas ≠ [])
    (idle : isIdle combinator.keyword schemas = true) :
    ∃ failure, combinator.merge schema = .error failure ∧ isTolerable failure = true := by
  have alternatives : combinator.keyword ∈ alternativeKeywords ∧ 2 ≤ schemas.length := by
    simpa [isIdle, filled] using idle
  obtain ⟨alternative, several⟩ := alternatives
  simp only [allCombinators, combinators, List.mem_cons, List.not_mem_nil, or_false] at listed
  rcases listed with rfl | rfl | rfl
  · exact absurd alternative (by decide)
  · exact ⟨.unionOfSchemas, mergeSingle_several found several, rfl⟩
  · exact ⟨.symmetricDifference, mergeSingle_several found several, rfl⟩

theorem returns_of_remains (listed : combinator ∈ allCombinators)
    (remains : Remains combinator.keyword (isIdle combinator.keyword · = true) schema) :
    Returns (applyCombinator combinator schema) (.object schema) := by
  by_cases empty : schema.get? combinator.keyword = some (.array [])
  · exact applyCombinator_empty empty
  unfold applyCombinator
  split
  · next found => exact absurd found empty
  · next schemas filled found =>
    obtain ⟨failure, failed, tolerable⟩ :=
      exists_failure listed found filled (remains schemas (Members.mem_of_get? found))
    split
    · exact returns_pure _
    · exact tryMerge_returns failed tolerable
  · exact returns_pure _

theorem isStill_of_isClear (clear : isClear combinatorKeywords schema = true) : IsStill schema := by
  intro combinator listed
  exact returns_of_remains listed (isClear_iff.mp clear _ (keyword_of_mem listed))

theorem leaves_subschemas : Leaves (Step.subschemas never never never) IsStill := by
  intro schema still
  exact applyCombinators_left still

end still

section steady

variable {tried : List String} {schema : Members} {first second met : Json} {holds : Members → Prop}

/-- A schema whose parts are still everywhere. If it is an object, something holds of it besides. -/
def IsSteady (holds : Members → Prop) : Json → Prop
  | .object schema => Obeys (IsWithin IsStill) schema ∧ holds schema
  | .bool _ => True
  | _ => False

theorem IsSteady.mono {holds' : Members → Prop} {schema : Json} (steady : IsSteady holds schema)
    (weaker : ∀ members, holds members → holds' members) : IsSteady holds' schema := by
  cases schema with
  | object members => exact ⟨steady.1, weaker members steady.2⟩
  | _ => exact steady

theorem isSteady_iff {schema : Json} : IsSteady IsStill schema ↔
    isSchema schema = true ∧ Everywhere IsStill (.one .schema) schema := by
  cases schema with
  | object members =>
      rw [everywhere_schema_object]
      simp [IsSteady, isSchema, and_comm]
  | bool answer => exact iff_of_true trivial ⟨rfl, everywhere_of_leaf (by simp) (by simp)⟩
  | _ => exact iff_of_false id fun wrong => absurd wrong.1 (by simp [isSchema])

/-- Clear as far as lists have been tried, or left as it is by all combinators. -/
def IsReady (tried : List String) (schema : Members) : Prop :=
  isClear tried schema = true ∨ IsStill schema

theorem isSteady_of_everywhere {schema : Json} (shaped : isSchema schema = true)
    (every : Everywhere IsStill (.one .schema) schema) : IsSteady (IsReady tried) schema :=
  (isSteady_iff.mpr ⟨shaped, every⟩).mono fun _ => Or.inr

section meeting

variable {levels : Nat} (known : tried ⊆ combinatorKeywords)
  (closed : Closes (meetCareful combinatorKeywords levels) (Everywhere IsStill (.one .schema)))

include known closed

theorem isSteady_meetCareful (made : meetCareful tried (levels + 1) first second = .ok met)
    (steady : IsSteady (IsReady tried) first) (every : Everywhere IsStill (.one .schema) second) :
    IsSteady (IsReady tried) met := by
  have shaped' := (meetWith_eq_ok made).1.2
  refine meetWith_keeps made trivial ?_ ?_ steady every
  · exact isSteady_of_everywhere shaped'
  · intro keywords others out merged steady every
    obtain ⟨within, -⟩ := steady
    obtain ⟨-, within'⟩ := everywhere_schema_object.mp every
    split at merged
    · next clear =>
      obtain ⟨clear, clear'⟩ := Bool.and_eq_true_iff.mp clear
      constructor
      · exact obeys_meetObjects (lasts_within closed) merged (within.subset (present_subset _))
          (within'.subset (present_subset _))
      · have clear'' := isClear_iff.mpr fun keyword listed => isClear_iff.mp clear' keyword (known listed)
        exact Or.inl (isClear_meetObjects known merged clear clear'')
    · cases merged

end meeting

theorem closes_meetCareful (levels : Nat) :
    Closes (meetCareful combinatorKeywords levels) (Everywhere IsStill (.one .schema)) := by
  induction levels with
  | zero =>
      intro first second met made
      obtain ⟨_, _, wrong⟩ := bind_eq_ok.mp made
      cases wrong
  | succ levels ih =>
      intro first second met made every every'
      have steady : IsSteady (IsReady combinatorKeywords) first :=
        isSteady_of_everywhere (meetWith_eq_ok made).1.1 every
      have ready := isSteady_meetCareful (List.Subset.refl _) ih made steady every'
      have still := ready.mono fun _ ready => ready.elim isStill_of_isClear id
      exact (isSteady_iff.mp still).2

theorem isSteady_mergeCareful {keyword : String} (listed : keyword ∈ combinatorKeywords)
    (known : tried ⊆ combinatorKeywords) (within : Obeys (IsWithin IsStill) schema)
    (other : met ≠ .object schema) (made : mergeCareful tried keyword schema = .ok met) :
    IsSteady (IsReady (tried ++ [keyword])) met := by
  unfold mergeCareful at made
  split at made
  · next schemas found =>
    split at made
    · next clear =>
      have field : Kind.schema.field? keyword = some (.branch true) :=
        field?_of_isFinal (isFinal_idle listed)
      have inside := everywhere_array.mp (within.get? found _ field) _ rfl
      have known' : tried ++ [keyword] ⊆ combinatorKeywords := by simp [known, listed]
      refine foldlM_keeps _ made ?_ ⟨within.erase keyword, Or.inl (isClear_erase clear keyword)⟩
      intro schema present reached next done steady
      exact isSteady_meetCareful known' (closes_meetCareful _) done steady (inside schema present)
    · cases made
  · exact absurd (pure_eq_ok.mp made).symm other

end steady

section running

variable {schema : Members} {combinator : Combinator} {merged result : Json}

theorem returns_of_yields (made : Yields (applyCombinator combinator schema) result) :
    Returns (applyCombinator combinator schema) result := by
  rcases applyCombinator_ends with ⟨result', returns⟩ | ⟨failure, -, fails⟩
  · rwa [yields_of_returns returns made]
  · rw [fails] at made
    exact (not_yields_throw made).elim

theorem applyCombinator_follows_self :
    Follows (applyCombinator combinator schema) (applyCombinator combinator schema) := by
  rcases applyCombinator_ends with ⟨result, returns⟩ | ⟨failure, -, fails⟩
  · exact follows_of_returns returns returns
  · rw [fails]
    intro log log'
    exact Or.inr rfl

theorem applyCareful_follows (tried : List String) :
    Follows (applyCombinator combinator schema) (applyCareful tried combinator schema) := by
  have checked : Follows (applyCombinator combinator schema >>= pure)
      (applyCareful tried combinator schema) := by
    refine follows_bind applyCombinator_follows_self fun merged _ => ?_
    split
    · exact follows_pure merged
    · intro log log'
      exact Or.inl ⟨_, rfl, rfl⟩
  rwa [bind_pure] at checked

theorem applyAllCareful_follows (tried : List String) (combinators : List Combinator) (schema : Json) :
    Follows (applyCombinators combinators schema) (applyAllCareful tried combinators schema) := by
  induction combinators generalizing tried schema with
  | nil => exact follows_pure schema
  | cons combinator rest ih =>
      cases schema with
      | object members =>
          exact follows_bind (applyCareful_follows tried) fun merged _ => ih _ merged
      | _ => exact follows_pure _

theorem isKeptBy_of_isReady {done : List Combinator} (listed : done ⊆ allCombinators)
    (ready : IsReady (done.map (·.keyword)) schema) : IsKeptBy done schema := by
  intro combinator present
  rcases ready with clear | still
  · have tried := List.mem_map_of_mem (f := Combinator.keyword) present
    exact returns_of_remains (listed present) (isClear_iff.mp clear _ tried)
  · exact still combinator (listed present)

theorem known_of_listed {done : List Combinator} (listed : done ⊆ allCombinators) :
    done.map (·.keyword) ⊆ combinatorKeywords := by
  intro keyword present
  obtain ⟨combinator, inside, rfl⟩ := List.mem_map.mp present
  exact keyword_of_mem (listed inside)

theorem isSteady_applyCareful {done : List Combinator} (listed : done ++ [combinator] ⊆ allCombinators)
    (steady : IsSteady (IsKeptBy done) (.object schema))
    (made : Yields (applyCareful (done.map (·.keyword)) combinator schema) result) :
    IsSteady (IsKeptBy (done ++ [combinator])) result := by
  obtain ⟨within, left⟩ := steady
  obtain ⟨before, last⟩ := List.append_subset.mp listed
  obtain ⟨merged, applied, made⟩ := yields_bind made
  split at made
  · next checked =>
    obtain rfl := yields_pure made
    by_cases same : merged = .object schema
    · subst same
      have leaves := returns_of_yields applied
      refine ⟨within, fun other present => ?_⟩
      rcases List.mem_append.mp present with before | last
      · exact left other before
      · rwa [List.mem_singleton.mp last]
    · have ready := isSteady_mergeCareful (keyword_of_mem (last (by simp))) (known_of_listed before)
        within same (checked.resolve_left same)
      refine ready.mono fun members ready => isKeptBy_of_isReady listed ?_
      rwa [List.map_append]
  · exact (not_yields_throw made).elim

theorem isSteady_applyAllCareful {done rest : List Combinator} (all : done ++ rest = allCombinators)
    {schema : Json} (steady : IsSteady (IsKeptBy done) schema)
    (made : Yields (applyAllCareful (done.map (·.keyword)) rest schema) result) :
    IsSteady IsStill result := by
  induction rest generalizing done schema with
  | nil =>
      rw [List.append_nil] at all
      rw [← yields_pure made]
      rwa [all] at steady
  | cons combinator rest ih =>
      have all' : done ++ [combinator] ++ rest = allCombinators := by simp [all]
      have listed : done ++ [combinator] ⊆ allCombinators := by
        rw [← all']
        exact List.subset_append_left _ _
      cases schema with
      | object members =>
          obtain ⟨merged, applied, made⟩ := yields_bind made
          refine ih all' (isSteady_applyCareful listed steady applied) ?_
          rwa [List.map_append]
      | bool answer =>
          rw [← yields_pure made]
          trivial
      | _ => exact steady.elim

theorem visit_careful (value : Json) : ∀ {place result}, value.noRepeats = true →
    Yields (visit Step.careful place value) result → Everywhere IsStill place result := by
  refine visit_makes ?_ value
  intro visited result _ within made
  have steady : IsSteady (IsKeptBy []) (.object visited) := ⟨within, by simp [IsKeptBy]⟩
  exact isSteady_iff.mp (isSteady_applyAllCareful rfl steady made)

end running

/-- Merging what can be merged gets through a value without merging a schema with others while a list
that has been tried is left in it. -/
def IsSpared (place : Place) (value : Json) : Prop :=
  ∃ result, (visit Step.careful place value).outcome.1 = .ok result

/-- Merging what can be merged once more changes nothing, if no schema was merged with others while a
list that had been tried was left in it: no list is left that the same pass would merge. -/
theorem visit_subschemas_again {place : Place} {value result : Json}
    (within : place.isInner = true ∨ place = .one .document) (clean : value.noRepeats = true)
    (spared : IsSpared place value)
    (made : (visit (Step.subschemas never never never) place value).outcome.1 = .ok result) :
    (visit (Step.subschemas never never never) place result).outcome.1 = .ok result ∧
      ∀ path schema, SchemaAt place result path schema → ∀ combinator ∈ allCombinators,
        (applyCombinator combinator schema).outcome.1 = .ok (.object schema) := by
  obtain ⟨reached, careful⟩ := spared
  have follows : Follows (visit (Step.subschemas never never never) place value)
      (visit Step.careful place value) := by
    refine visit_related_always chains_follows ?_ place value
    intro schema
    exact applyAllCareful_follows [] allCombinators (.object schema)
  -- the careful walk ends, so the other one ends with the same value
  have same : reached = result := by
    rcases follows [] [] with ⟨failure, failed, -⟩ | same
    · exact absurd (careful.symm.trans failed) (by simp)
    · exact Except.ok.inj (careful.symm.trans (same.symm.trans made))
  subst same
  have every := visit_careful value clean (yields_of_outcome careful)
  constructor
  · refine outcome_of_returns (visit_returns leaves_subschemas reached place ?_ every)
    exact within.imp_right fun document =>
      ⟨document, document_yields (document ▸ yields_of_outcome made)⟩
  · intro path schema stands combinator listed
    exact outcome_of_returns (every path schema stands combinator listed)

def sizedSchema : Json :=
  .object [("type", .string "string"), ("allOf", .array [.object [("minLength", .number (.int 1))]]),
    ("oneOf", .array [.object [("type", .string "integer")]]),
    ("properties", .object [("unit", .object [("type", .string "string"),
      ("anyOf", .array [.object [("type", .string "null")]])])])]

def mergedSizedSchema : Json :=
  .object [("type", .string "string"), ("oneOf", .array [.object [("type", .string "integer")]]),
    ("properties", .object [("unit", .object [("type", .string "string"),
      ("anyOf", .array [.object [("type", .string "null")]])])]), ("minLength", .number (.int 1))]

theorem sizedSchema_stays_merged :
    ((Place.one .schema).isInner = true ∧ sizedSchema.noRepeats = true ∧
      IsSpared (.one .schema) sizedSchema) ∧
    (visit (Step.subschemas never never never) (.one .schema) sizedSchema).outcome.1 =
      .ok mergedSizedSchema ∧
    (visit (Step.subschemas never never never) (.one .schema) mergedSizedSchema).outcome.1 =
      .ok mergedSizedSchema := by
  have within : (Place.one .schema).isInner = true := rfl
  have clean : sizedSchema.noRepeats = true := by decide +kernel
  have spared : IsSpared (.one .schema) sizedSchema := ⟨mergedSizedSchema, by decide +kernel⟩
  have made : (visit (Step.subschemas never never never) (.one .schema) sizedSchema).outcome.1 =
      .ok mergedSizedSchema := by decide +kernel
  exact ⟨⟨within, clean, spared⟩, made, (visit_subschemas_again (Or.inl within) clean spared made).1⟩

def closedSchema : Json :=
  .object [("properties", .object [("id", .object [("type", .string "string")])]),
    ("allOf", .array [.object [("properties", .object [("id", .object [("type", .string "integer")])])]]),
    ("anyOf", .array [.object [("properties", .object [("id", .bool false)])]])]

def halfClosedSchema : Json :=
  .object [("properties", .object [("id", .bool false)]),
    ("allOf", .array [.object [("properties", .object [("id", .object [("type", .string "integer")])])]])]

theorem closedSchema_changes_again :
    (visit (Step.subschemas never never never) (.one .schema) closedSchema).outcome.1 =
      .ok halfClosedSchema ∧
    (visit (Step.subschemas never never never) (.one .schema) halfClosedSchema).outcome.1 ≠
      .ok halfClosedSchema := by
  constructor <;> decide +kernel

end SchemaMerge.OpenApi
