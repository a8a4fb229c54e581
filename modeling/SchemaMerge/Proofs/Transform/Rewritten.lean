import SchemaMerge.Proofs.Meet.Space

/-!
Rewriting the schemas inside a schema. If each of them is replaced by a well-formed schema that accepts
the same values, the whole stays well-formed and accepts the same values, also where a schema is
negated or counted.
-/

namespace SchemaMerge.Schema

variable {reading : Reading} {banned : List String}

structure Equivalent (reading : Reading) (banned : List String) (schema result : Json) : Prop where
  formed : WellFormed reading.deep banned result
  same : accepts reading result = accepts reading schema

theorem equivalent_refl {schema : Json} (formed : WellFormed reading.deep banned schema) :
    Equivalent reading banned schema schema := ⟨formed, rfl⟩

theorem Equivalent.trans {schema middle result : Json} (first : Equivalent reading banned schema middle)
    (second : Equivalent reading banned middle result) : Equivalent reading banned schema result :=
  ⟨second.formed, second.same.trans first.same⟩

structure EntryRewritten (reading : Reading) (banned : List String) (entry result : String × Json) :
    Prop where
  name : result.1 = entry.1
  null : entry.2 = .null → result.2 = .null
  schema : entry.2 ≠ .null → Equivalent reading banned entry.2 result.2

/-- The schemas in an argument are rewritten, each in its place. -/
def IsRewritten (reading : Reading) (banned : List String) (place : Shape) (argument result : Json) :
    Prop :=
  match place with
  | .leaf => result = argument
  | .schema => Equivalent reading banned argument result
  | .schemas => ∃ schemas results, argument = .array schemas ∧ result = .array results ∧
      List.Forall₂ (Equivalent reading banned) schemas results
  | .entries => ∃ entries results, argument = .object entries ∧ result = .object results ∧
      List.Forall₂ (EntryRewritten reading banned) entries results

theorem isRewritten_refl {keyword : String} {argument : Json}
    (formed : IsArgument reading.deep banned keyword argument) :
    IsRewritten reading banned (shape reading.deep keyword) argument argument := by
  have holds := formed.holds
  generalize shape reading.deep keyword = place at holds
  cases place with
  | leaf => rfl
  | schema => exact equivalent_refl holds
  | schemas =>
      obtain ⟨schemas, rfl, formedAll⟩ := holds
      exact ⟨schemas, schemas, rfl, rfl,
        List.forall₂_same.mpr fun schema inside => equivalent_refl (formedAll schema inside)⟩
  | entries =>
      obtain ⟨entries, rfl, formedAll⟩ := holds
      refine ⟨entries, entries, rfl, rfl, List.forall₂_same.mpr fun entry inside => ?_⟩
      exact ⟨rfl, id, fun set => equivalent_refl ((formedAll entry inside).resolve_left set)⟩

theorem EntryRewritten.null_iff {entry result : String × Json}
    (rewritten : EntryRewritten reading banned entry result) :
    result.2 = .null ↔ entry.2 = .null := by
  constructor
  · intro null
    by_contra set
    exact PropertySpace.ne_null_of_wellFormed (rewritten.schema set).formed null
  · exact rewritten.null

theorem present?_of_rewritten {entries results : Members}
    (related : List.Forall₂ (EntryRewritten reading banned) entries results) (name : String) :
    (results.present? name).isSome = (entries.present? name).isSome := by
  induction related with
  | nil => rfl
  | @cons entry result _ _ head _ ih =>
      obtain ⟨key, schema⟩ := entry
      obtain ⟨key', schema'⟩ := result
      obtain rfl : key' = key := head.name
      rw [Members.present?_cons, Members.present?_cons]
      split
      · by_cases null : schema = .null
        · rw [if_pos null, if_pos (head.null_iff.mpr null)]
        · rw [if_neg null, if_neg (mt head.null_iff.mp null)]
          rfl
      · exact ih

theorem keys_of_rewritten {entries results : Members}
    (related : List.Forall₂ (EntryRewritten reading banned) entries results) :
    results.map Prod.fst = entries.map Prod.fst := by
  induction related with
  | nil => rfl
  | cons head _ ih => rw [List.map_cons, List.map_cons, head.name, ih]

theorem all_of_rewritten {entries results : Members} (test : String → Json → Bool)
    (related : List.Forall₂ (EntryRewritten reading banned) entries results)
    (agree : ∀ name {schema result}, Equivalent reading banned schema result →
      test name result = test name schema) :
    results.all (fun entry => entry.2 = .null || test entry.1 entry.2) =
      entries.all fun entry => entry.2 = .null || test entry.1 entry.2 := by
  induction related with
  | nil => rfl
  | @cons entry result _ _ head _ ih =>
      rw [List.all_cons, List.all_cons, ih, head.name]
      congr 1
      by_cases null : entry.2 = .null
      · simp [null, head.null null]
      · rw [agree entry.1 (head.schema null)]
        simp [null, mt head.null_iff.mp null]

theorem any_of_rewritten {entries results : Members} (test : String → Bool)
    (related : List.Forall₂ (EntryRewritten reading banned) entries results) :
    results.any (fun entry => entry.2 ≠ .null && test entry.1) =
      entries.any fun entry => entry.2 ≠ .null && test entry.1 := by
  simp only [List.any_eq_not_all_not, ne_eq, decide_not, Bool.not_and, Bool.not_not]
  exact congrArg not (all_of_rewritten (fun name _ => !test name) related fun _ _ _ _ => rfl)

theorem isArgument_of_rewritten {keyword : String} {argument result : Json}
    (formed : IsArgument reading.deep banned keyword argument)
    (rewritten : IsRewritten reading banned (shape reading.deep keyword) argument result) :
    IsArgument reading.deep banned keyword result := by
  cases place : shape reading.deep keyword with
  | leaf =>
      rw [place] at rewritten
      rwa [show result = argument from rewritten]
  | schema =>
      rw [place] at rewritten
      exact isArgument_schema place formed.permitted rewritten.formed
  | schemas =>
      rw [place] at rewritten
      obtain ⟨schemas, results, -, rfl, related⟩ := rewritten
      refine isArgument_array place formed.permitted fun schema inside => ?_
      obtain ⟨_, -, equivalent⟩ := exists_of_mem_right related inside
      exact equivalent.formed
  | entries =>
      rw [place] at rewritten
      obtain ⟨entries, results, rfl, rfl, related⟩ := rewritten
      have distinct := (Json.noRepeats_object.mp formed.noRepeats).1
      rw [Members.Distinct, ← keys_of_rewritten related] at distinct
      refine isArgument_entries place formed.permitted distinct fun {name schema} found => ?_
      obtain ⟨found, set⟩ := Members.present?_eq_some_iff.mp found
      obtain ⟨entry, -, rewritten⟩ := exists_of_mem_right related (Members.mem_of_get? found)
      exact (rewritten.schema (mt rewritten.null set)).formed

theorem answers_of_equivalent {schemas results : List Json}
    (related : List.Forall₂ (Equivalent reading banned) schemas results) (value : Json) :
    results.map (accepts reading · value) = schemas.map (accepts reading · value) := by
  induction related with
  | nil => rfl
  | cons head _ ih => rw [List.map_cons, List.map_cons, ih, head.same]

theorem satisfies_of_rewritten {keyword : String} {argument result : Json}
    (formed : IsArgument reading.deep banned keyword argument)
    (rewritten : IsRewritten reading banned (shape reading.deep keyword) argument result)
    {siblings others : Members} (covered : covers others = covers siblings) (value : Json) :
    satisfies reading others keyword result value = satisfies reading siblings keyword argument value := by
  have formed' := isArgument_of_rewritten formed rewritten
  rw [← applicator_shape] at rewritten
  unfold satisfies
  rw [formed.present, formed'.present, covered]
  congr 1
  cases role : reading.applicator keyword with
  | leaf reads =>
      rw [role] at rewritten
      rw [show result = argument from rewritten]
  | schema reads =>
      rw [role] at rewritten
      simp only [rewritten.same]
  | schemas reads =>
      rw [role] at rewritten
      obtain ⟨schemas, results, rfl, rfl, related⟩ := rewritten
      exact congrArg reads (answers_of_equivalent related value)
  | entries reads =>
      rw [role] at rewritten
      obtain ⟨entries, results, rfl, rfl, related⟩ := rewritten
      exact all_of_rewritten (fun name schema => reads name (accepts reading schema) value) related
        fun name _ _ equivalent => by rw [equivalent.same]

/-- Each keyword of an object is absent and stays as it is, or its argument is rewritten. -/
def KeywordRewritten (reading : Reading) (banned : List String) (keyword : String)
    (argument result : Json) : Prop :=
  (isAbsent keyword argument = true ∧ result = argument) ∨
    (IsArgument reading.deep banned keyword argument ∧
      IsRewritten reading banned (shape reading.deep keyword) argument result)

variable {keywords results : Members}

def AreRewritten (reading : Reading) (banned : List String) (keywords results : Members) : Prop :=
  ∀ keyword, Option.Rel (KeywordRewritten reading banned keyword) (keywords.get? keyword)
    (results.get? keyword)

theorem AreRewritten.none_or_some (rewritten : AreRewritten reading banned keywords results)
    (keyword : String) :
    (keywords.get? keyword = none ∧ results.get? keyword = none) ∨
      ∃ argument result, keywords.get? keyword = some argument ∧ results.get? keyword = some result ∧
        KeywordRewritten reading banned keyword argument result := by
  have related := rewritten keyword
  generalize keywords.get? keyword = argument at related
  generalize results.get? keyword = result at related
  cases related with
  | none => exact Or.inl ⟨rfl, rfl⟩
  | some holds => exact Or.inr ⟨_, _, rfl, rfl, holds⟩

theorem entries_of_rewritten (rewritten : AreRewritten reading banned keywords results)
    (keyword : String) (place : shape reading.deep keyword = .entries) :
    keywords.get? keyword = results.get? keyword ∨
      ∃ entries entries', keywords.get? keyword = some (.object entries) ∧
        results.get? keyword = some (.object entries') ∧
        List.Forall₂ (EntryRewritten reading banned) entries entries' := by
  rcases rewritten.none_or_some keyword with
    ⟨missing, missing'⟩ | ⟨argument, result, found, found', ⟨-, rfl⟩ | ⟨-, inner⟩⟩
  · exact Or.inl (missing.trans missing'.symm)
  · exact Or.inl (found.trans found'.symm)
  · rw [place] at inner
    obtain ⟨entries, entries', rfl, rfl, related⟩ := inner
    exact Or.inr ⟨entries, entries', found, found', related⟩

theorem covers_of_rewritten (rewritten : AreRewritten reading banned keywords results) :
    covers results = covers keywords := by
  funext name
  unfold covers
  congr 1
  · unfold isNamed
    rcases entries_of_rewritten rewritten "properties" rfl with
      same | ⟨entries, entries', found, found', related⟩
    · rw [same]
    · rw [found, found']
      exact present?_of_rewritten related name
  · unfold isMatched
    rcases entries_of_rewritten rewritten "patternProperties" rfl with
      same | ⟨entries, entries', found, found', related⟩
    · rw [same]
    · rw [found, found']
      exact any_of_rewritten (fun pattern => occurs pattern name) related

theorem equivalent_of_rewritten (distinct : keywords.Distinct) (distinct' : results.Distinct)
    (rewritten : AreRewritten reading banned keywords results) :
    Equivalent reading banned (.object keywords) (.object results) := by
  have covered := covers_of_rewritten rewritten
  constructor
  · refine wellFormed_object.mpr ⟨distinct', fun {keyword result} found => ?_⟩
    rcases rewritten.none_or_some keyword with
      ⟨-, missing⟩ | ⟨argument, result', -, found', cases⟩
    · exact absurd (found.symm.trans missing) (by simp)
    · obtain rfl := Option.some.inj (found.symm.trans found')
      rcases cases with ⟨absent, rfl⟩ | ⟨formed, inner⟩
      · exact Or.inl absent
      · exact Or.inr (isArgument_of_rewritten formed inner)
  · funext value
    rw [accepts_object, accepts_object]
    apply all_entries_congr distinct' distinct
    intro keyword
    rcases rewritten.none_or_some keyword with
      ⟨missing, missing'⟩ | ⟨argument, result, found, found', cases⟩
    · rw [missing, missing']
      exact .none
    · rw [found, found']
      refine .some ?_
      rcases cases with ⟨absent, rfl⟩ | ⟨formed, inner⟩
      · simp only [satisfies, absent, Bool.true_or]
      · exact satisfies_of_rewritten formed inner covered value

end SchemaMerge.Schema
