import SchemaMerge.Proofs.Failing.Source
import SchemaMerge.Proofs.Meet.Kept

/-!
Laws that last where schemas meet. A law for the argument of each keyword holds of two merged objects
if it holds of both, provided that it lasts where two arguments are combined and where the entries of
properties and patterns meet.
-/

namespace SchemaMerge.Schema

def Closes (recur : Meeting) (holds : Json → Prop) : Prop :=
  ∀ {first second met}, recur first second = .ok met → holds first → holds second → holds met

/-- What holds of schemas and a law for the arguments of their keywords, both kept by a meeting. -/
structure Lasts (recur : Meeting) (holds : Json → Prop) (law : String → Json → Prop) : Prop where
  met : Closes recur holds
  combined : ∀ {keyword first second met}, combine recur keyword first second = .ok met →
    law keyword first → law keyword second → law keyword met
  entries : ∀ {keyword named}, isEntries keyword = true →
    (law keyword (.object named) ↔ ∀ entry ∈ named, holds entry.2)
  additional : ∀ {schema}, law "additionalProperties" schema → holds schema
  bound : ∀ {keyword other argument}, keyword ∈ boundKeywords → other ∈ boundKeywords →
    law other argument → law keyword argument
  excluded : ∀ {keyword}, keyword ∈ boundKeywords → law keyword (.bool true)
  deprecated : law "deprecated" (.bool true)

def Obeys (law : String → Json → Prop) (keywords : Members) : Prop :=
  ∀ member ∈ keywords, law member.1 member.2

variable {recur : Meeting} {holds : Json → Prop} {law : String → Json → Prop}
  {first second keywords out : Members} {keyword : String}

namespace Obeys

theorem subset (obeys : Obeys law keywords) (part : out ⊆ keywords) : Obeys law out := by
  intro member present
  exact obeys member (part present)

theorem erase (obeys : Obeys law keywords) (keyword : String) : Obeys law (keywords.erase keyword) :=
  obeys.subset List.filter_sublist.subset

theorem set (obeys : Obeys law keywords) {argument : Json} (allowed : law keyword argument) :
    Obeys law (keywords.set keyword argument) := by
  intro member present
  rcases Members.mem_set present with same | old
  · rw [same]
    exact allowed
  · exact obeys member old

theorem snoc (obeys : Obeys law keywords) {argument : Json} (allowed : law keyword argument) :
    Obeys law (keywords ++ [(keyword, argument)]) := by
  intro member present
  rcases List.mem_append.mp present with old | new
  · exact obeys member old
  · rw [List.mem_singleton.mp new]
    exact allowed

theorem get? (obeys : Obeys law keywords) {argument : Json}
    (found : keywords.get? keyword = some argument) : law keyword argument :=
  obeys _ (Members.mem_of_get? found)

theorem present? (obeys : Obeys law keywords) {argument : Json}
    (found : keywords.present? keyword = some argument) : law keyword argument :=
  obeys.get? (Members.present?_eq_some_iff.mp found).1

end Obeys

def combinatorKeywords : List String := ["allOf", "anyOf", "oneOf"]

theorem mem_combinatorKeywords : keyword ∈ combinatorKeywords ↔
    keyword = "allOf" ∨ keyword = "anyOf" ∨ keyword = "oneOf" := by
  simp [combinatorKeywords]

theorem combine_cases {first second met : Json} (made : combine recur keyword first second = .ok met) :
    keyword ∈ combinatorKeywords ∨
      ((keyword = "additionalProperties" ∨ keyword = "propertyNames") ∧
        recur first second = .ok met) ∨
      (rule? keyword).isSome = true := by
  unfold combine at made
  split at made
  · exact Or.inr (Or.inl ⟨Or.inl rfl, made⟩)
  · exact Or.inl (by decide)
  · exact Or.inl (by decide)
  · exact Or.inr (Or.inl ⟨Or.inr rfl, made⟩)
  · split at made
    · next found => exact Or.inr (Or.inr (by simp [found]))
    · next found => exact Or.inr (Or.inr (by simp [found]))
    · exact absurd made (by simp)

theorem distribute_holds (closed : Closes recur holds) {schemas others mets : List Json}
    (made : distribute recur keyword schemas others = .ok mets)
    (all : ∀ schema ∈ schemas, holds schema) (all' : ∀ schema ∈ others, holds schema) :
    ∀ schema ∈ mets, holds schema := by
  obtain ⟨single, alternatives, sides, related⟩ := distribute_eq_ok made
  have both : holds single ∧ ∀ schema ∈ alternatives, holds schema := by
    rcases sides with ⟨rfl, rfl⟩ | ⟨rfl, rfl⟩
    · exact ⟨all single (by simp), all'⟩
    · exact ⟨all' single (by simp), all⟩
  obtain ⟨own, every⟩ := both
  clear made all all' sides
  induction related with
  | nil => simp
  | cons met _ ih =>
      obtain ⟨head, tail⟩ := List.forall_mem_cons.mp every
      exact List.forall_mem_cons.mpr ⟨closed met head own, ih tail⟩

theorem arrays_of_bind {first second met : Json} {next : List Json → List Json → Except Failure Json}
    (made : (do
      let schemas ← asArray keyword first
      let others ← asArray keyword second
      next schemas others) = .ok met) :
    ∃ schemas others, first = .array schemas ∧ second = .array others ∧
      next schemas others = .ok met := by
  obtain ⟨schemas, read, made⟩ := bind_eq_ok.mp made
  obtain ⟨others, read', made⟩ := bind_eq_ok.mp made
  exact ⟨schemas, others, asArray_eq_ok.mp read, asArray_eq_ok.mp read', made⟩

theorem allOf_eq_ok {schemas others : List Json} {met : Json}
    (made : combine recur "allOf" (.array schemas) (.array others) = .ok met) :
    ∃ added, met = .array (schemas ++ added) ∧ added.Sublist others := by
  have joined : (do return Json.array (← unionUnique schemas others)) = Except.ok met := made
  obtain ⟨_, union, built⟩ := bind_eq_ok.mp joined
  obtain ⟨added, rfl, part, -⟩ := Json.unionUnique_eq_ok (unionUnique_eq_ok union)
  exact ⟨added, (pure_eq_ok.mp built).symm, part⟩

/-- The schemas of a combined list are those of both lists, or meets of them. -/
theorem combine_lists (closed : Closes recur holds) (combinator : keyword ∈ combinatorKeywords)
    {first second met : Json} (made : combine recur keyword first second = .ok met) :
    ∃ schemas others mets, first = .array schemas ∧ second = .array others ∧ met = .array mets ∧
      ((∀ schema ∈ schemas, holds schema) → (∀ schema ∈ others, holds schema) →
        ∀ schema ∈ mets, holds schema) := by
  rcases mem_combinatorKeywords.mp combinator with rfl | rfl | rfl
  · obtain ⟨schemas, others, rfl, rfl, -⟩ := arrays_of_bind made
    obtain ⟨added, rfl, part⟩ := allOf_eq_ok made
    refine ⟨schemas, others, _, rfl, rfl, rfl, ?_⟩
    intro all all' schema present
    rcases List.mem_append.mp present with old | new
    · exact all schema old
    · exact all' schema (part.mem new)
  · obtain ⟨schemas, others, rfl, rfl, -⟩ := arrays_of_bind made
    rcases anyOf_eq_ok made with ⟨-, rfl⟩ | ⟨-, rfl⟩ | ⟨mets, done, rfl⟩
    · exact ⟨schemas, others, schemas, rfl, rfl, rfl, fun all _ => all⟩
    · exact ⟨schemas, others, others, rfl, rfl, rfl, fun _ all => all⟩
    · exact ⟨schemas, others, mets, rfl, rfl, rfl, distribute_holds closed done⟩
  · obtain ⟨schemas, others, rfl, rfl, -⟩ := arrays_of_bind made
    rcases oneOf_eq_ok made with ⟨-, rfl⟩ | ⟨mets, done, rfl⟩
    · exact ⟨schemas, others, schemas, rfl, rfl, rfl, fun all _ => all⟩
    · exact ⟨schemas, others, mets, rfl, rfl, rfl, distribute_holds closed done⟩

namespace BoundPair

variable {pair : BoundPair} {boolean : Bool}

theorem obeys_toNumeric (lasts : Lasts recur holds law) (numeric : pair.IsNumeric)
    (obeys : Obeys law keywords) : Obeys law (pair.toNumeric keywords) := by
  unfold toNumeric
  split
  · next limit _ found =>
    exact (obeys.erase _).set (lasts.bound numeric.1 numeric.2 (obeys.get? found))
  · exact obeys.erase _
  · exact obeys

theorem obeys_reconcile (lasts : Lasts recur holds law) (numeric : pair.IsNumeric)
    (made : pair.reconcile boolean keywords = .ok out) (obeys : Obeys law keywords) :
    Obeys law out := by
  obtain ⟨_, _, found, -, ⟨rfl, -⟩ | ⟨limit, rfl, -, rfl⟩⟩ := reconcile_eq_ok made
  · exact obeys.erase _
  · split
    · exact (obeys.set (lasts.bound numeric.2 numeric.1 (obeys.present? found))).set
        (lasts.excluded numeric.1)
    · exact obeys.erase _

end BoundPair

theorem obeys_numericBounds (lasts : Lasts recur holds law) (obeys : Obeys law keywords) :
    Obeys law (numericBounds keywords) :=
  BoundPair.obeys_toNumeric lasts ⟨by decide, by decide⟩
    (BoundPair.obeys_toNumeric lasts ⟨by decide, by decide⟩ obeys)

namespace PropertySpace

variable {space other : PropertySpace}

structure Holds (holds : Json → Prop) (space : PropertySpace) : Prop where
  named : ∀ entry ∈ space.properties, holds entry.2
  matched : ∀ entry ∈ space.patterns, holds entry.2
  additional : ∀ {schema}, space.additional = some schema → holds schema

theorem Holds.ofPatterns (all : space.Holds holds) : space.ofPatterns.Holds holds :=
  ⟨all.matched, by simp [PropertySpace.ofPatterns], all.additional⟩

theorem Holds.present? (all : space.Holds holds) {name : String} {schema : Json}
    (found : space.properties.present? name = some schema) : holds schema :=
  all.named _ (Members.mem_of_get? (Members.present?_eq_some_iff.mp found).1)

theorem Holds.schemasFor (all : space.Holds holds) (name : String) :
    ∀ schema ∈ schemasFor space.patterns name, holds schema := by
  intro schema inside
  obtain ⟨entry, kept, rfl⟩ := List.mem_map.mp inside
  exact all.matched entry (List.mem_of_mem_filter kept)

theorem holds_of_foldlM (closed : Closes recur holds) {schemas : List Json} {entry met : Json}
    (made : schemas.foldlM recur entry = .ok met) (own : holds entry)
    (every : ∀ schema ∈ schemas, holds schema) : holds met := by
  refine foldlM_keeps holds made ?_ own
  intro schema inside reached next done own
  exact closed done own (every schema inside)

theorem meetEntry_holds (closed : Closes recur holds) (all : space.Holds holds) {name : String}
    {entry met : Json} (made : meetEntry recur space name entry = .ok met) (own : holds entry) :
    holds met := by
  rcases meetEntry_eq_ok made with ⟨other, found, made⟩ | ⟨-, rest⟩
  · exact closed made own (all.present? found)
  · cases rest with
    | matched _ made => exact holds_of_foldlM closed made own (all.schemasFor name)
    | additional _ found made => exact closed made own (all.additional found)
    | alone => exact own

/-- Where the failure of two spaces comes from, if all their schemas hold: a pattern, or two schemas
that hold. -/
inductive FailsWithin (recur : Meeting) (holds : Json → Prop) (patterns : Members) (failure : Failure) :
    Prop
  | pattern {entry : String × Json} {name : String} (inside : entry ∈ patterns)
      (failed : applies entry.1 name = .error failure)
  | schemas {schema other : Json} (own : holds schema) (own' : holds other)
      (failed : recur schema other = .error failure)

theorem FailsWithin.mono {patterns more : Members} {failure : Failure}
    (fails : FailsWithin recur holds patterns failure) (part : patterns ⊆ more) :
    FailsWithin recur holds more failure := by
  cases fails with
  | pattern inside failed => exact .pattern (part inside) failed
  | schemas own own' failed => exact .schemas own own' failed

theorem EntryFails.within (closed : Closes recur holds) (all : space.Holds holds) {name : String}
    {entry : Json} {failure : Failure} (fails : EntryFails recur space name entry failure)
    (own : holds entry) : FailsWithin recur holds space.patterns failure := by
  cases fails with
  | named found failed => exact .schemas own (all.present? found) failed
  | pattern inside failed => exact .pattern inside failed
  | additional found failed => exact .schemas own (all.additional found) failed
  | matched listed failed =>
      have every := all.schemasFor name
      rw [Schema.schemasFor, ← matching_eq_ok listed] at every
      -- what is met so far holds again, and fails to meet the next schema
      obtain ⟨before, schema, rest, reached, rfl, reaches, failed⟩ := foldlM_eq_error failed
      have reachedHolds : holds reached :=
        holds_of_foldlM closed reaches own fun schema inside => every schema (by simp [inside])
      exact .schemas reachedHolds (every schema (by simp)) failed

theorem meetNamed_fails (closed : Closes recur holds) (all : space.Holds holds)
    (all' : other.Holds holds) {failure : Failure}
    (failed : meetNamed recur space other = .error failure) :
    FailsWithin recur holds (space.patterns ++ other.patterns) failure := by
  rcases meetNamed_eq_error failed with ⟨_, _, inside, -, fails⟩ | ⟨_, _, inside, -, fails⟩
  · have within := fails.within closed all' (all.named _ inside)
    exact within.mono (List.subset_append_right _ _)
  · have within := fails.within closed all (all'.named _ inside)
    exact within.mono (List.subset_append_left _ _)

theorem meetEntries_holds (closed : Closes recur holds) (all : space.Holds holds)
    {merged entries out : Members} (made : meetEntries recur space merged entries = .ok out)
    (done : ∀ entry ∈ merged, holds entry.2) (own : ∀ entry ∈ entries, holds entry.2) :
    ∀ entry ∈ out, holds entry.2 := by
  induction entries generalizing merged with
  | nil =>
      obtain rfl := pure_eq_ok.mp made
      exact done
  | cons entry rest ih =>
      obtain ⟨name, entry⟩ := entry
      obtain ⟨head, tail⟩ := List.forall_mem_cons.mp own
      by_cases null : entry = .null
      · subst null
        exact ih made done tail
      · rcases meetEntries_cons_ok null made with ⟨-, made⟩ | ⟨-, met, entered, made⟩
        · exact ih made done tail
        · refine ih made ?_ tail
          intro member present
          rcases List.mem_append.mp present with old | new
          · exact done member old
          · rw [List.mem_singleton.mp new]
            exact meetEntry_holds closed all entered head

theorem meetNamed_holds (closed : Closes recur holds) (all : space.Holds holds)
    (all' : other.Holds holds) {named : Members} (made : meetNamed recur space other = .ok named) :
    ∀ entry ∈ named, holds entry.2 := by
  obtain ⟨merged, left, right⟩ := bind_eq_ok.mp made
  have done := meetEntries_holds closed all' left (by simp) all.named
  exact meetEntries_holds closed all right done all'.named

end PropertySpace

theorem entries_hold (lasts : Lasts recur holds law) (obeys : Obeys law keywords)
    (place : isEntries keyword = true) {named : Members}
    (read : entries keyword keywords = .ok named) : ∀ entry ∈ named, holds entry.2 := by
  unfold entries at read
  split at read
  · obtain rfl := Except.ok.inj read
    simp
  · next found =>
    obtain rfl := Except.ok.inj read
    exact (lasts.entries place).mp (obeys.present? found)
  · exact absurd read (by simp)

theorem space_holds (lasts : Lasts recur holds law) (obeys : Obeys law keywords)
    {space : PropertySpace} (made : PropertySpace.ofSchema keywords = .ok space) :
    space.Holds holds := by
  obtain ⟨properties, read, made⟩ := bind_eq_ok.mp made
  obtain ⟨patterns, read', made⟩ := bind_eq_ok.mp made
  obtain ⟨additional, read'', built⟩ := bind_eq_ok.mp made
  obtain rfl := pure_eq_ok.mp built
  constructor
  · exact entries_hold lasts obeys (by decide) read
  · exact entries_hold lasts obeys (by decide) read'
  · intro schema found
    obtain rfl : additional = some schema := found
    unfold additionalProperties at read''
    split at read''
    · exact absurd read'' (by simp)
    · next value found =>
      have kept : value = schema := by
        unfold checkShape at read''
        split at read''
        · exact Option.some.inj (Except.ok.inj read'')
        · exact absurd read'' (by simp [Except.map])
      rw [← kept]
      exact lasts.additional (obeys.present? found)

theorem obeys_withEntries (lasts : Lasts recur holds law) (obeys : Obeys law keywords)
    (place : isEntries keyword = true) {named : Members} (all : ∀ entry ∈ named, holds entry.2) :
    Obeys law (withEntries keyword named keywords) := by
  unfold withEntries
  split
  · exact obeys.erase keyword
  · exact obeys.set ((lasts.entries place).mpr all)

/-- The loop over the second schema's keywords: one step adds a keyword, leaves the merged object as
it is, or combines two arguments. -/
theorem obeys_meetKeywords (lasts : Lasts recur holds law) {merged : Members}
    (made : meetKeywords recur merged keywords = .ok out) (obeys : Obeys law merged)
    (obeys' : Obeys law keywords) : Obeys law out := by
  induction keywords generalizing merged with
  | nil =>
      obtain rfl := pure_eq_ok.mp made
      exact obeys
  | cons member rest ih =>
      obtain ⟨keyword, argument⟩ := member
      obtain ⟨own, tail⟩ := List.forall_mem_cons.mp obeys'
      rw [meetKeywords] at made
      split at made
      · exact ih made obeys tail
      · split at made
        · exact ih made (obeys.snoc own) tail
        · next present found =>
          obtain ⟨answer, -, made⟩ := bind_eq_ok.mp made
          split at made
          · exact ih made obeys tail
          · obtain ⟨met, combined, made⟩ := bind_eq_ok.mp made
            exact ih made (obeys.set (lasts.combined combined (obeys.get? found) own)) tail

theorem obeys_started (lasts : Lasts recur holds law) {properties patterns : Members}
    (made : meetProperties recur first second = .ok (properties, patterns)) (obeys : Obeys law first)
    (obeys' : Obeys law second) :
    Obeys law (withEntries "patternProperties" patterns (withEntries "properties" properties first)) := by
  obtain ⟨space, other, read, read', named, matched⟩ := meetProperties_eq_ok made
  have all := space_holds lasts obeys read
  have all' := space_holds lasts obeys' read'
  have properties := PropertySpace.meetNamed_holds lasts.met all all' named
  have patterns := PropertySpace.meetNamed_holds lasts.met all.ofPatterns all'.ofPatterns matched
  exact obeys_withEntries lasts (obeys_withEntries lasts obeys (by decide) properties) (by decide) patterns

theorem obeys_meetObjects (lasts : Lasts recur holds law)
    (made : meetObjects recur first second = .ok out) (obeys : Obeys law first)
    (obeys' : Obeys law second) : Obeys law out := by
  obtain ⟨⟨properties, patterns⟩, merges, made⟩ := bind_eq_ok.mp made
  obtain ⟨merged, looped, made⟩ := bind_eq_ok.mp made
  obtain ⟨bounded, upper, lower⟩ := bind_eq_ok.mp made
  have numeric := obeys_numericBounds lasts obeys
  have numeric' := obeys_numericBounds lasts obeys'
  have joined := obeys_meetKeywords lasts looped (obeys_started lasts merges numeric numeric') numeric'
  have marked : Obeys law (withDeprecation (numericBounds first) (numericBounds second) merged) := by
    unfold withDeprecation
    split
    · exact joined.set lasts.deprecated
    · exact joined.erase _
  have bounded := BoundPair.obeys_reconcile lasts ⟨by decide, by decide⟩ upper marked
  exact BoundPair.obeys_reconcile lasts ⟨by decide, by decide⟩ lower bounded

end SchemaMerge.Schema
