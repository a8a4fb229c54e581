import SchemaMerge.Proofs.Json.Union
import SchemaMerge.Proofs.Meet.Kept
import SchemaMerge.Proofs.Meet.Unrepeated

/-!
Schemas that are folded in groups. The lists under `allOf`, `examples` and `required` are united, so
the list of the whole is the union of the lists of the items, from the first to the last, whichever
items are combined first.
-/

namespace SchemaMerge

/-- A list that is folded in groups: single items, and pairs of groups that are combined. -/
inductive Grouping (α : Type) where
  | single (item : α)
  | pair (left right : Grouping α)

namespace Grouping

variable {α β ε : Type} {combine : α → α → Except ε α} {holds : α → Prop} {groups : Grouping α}

def items : Grouping α → List α
  | single item => [item]
  | pair left right => left.items ++ right.items

def fold (combine : α → α → Except ε α) : Grouping α → Except ε α
  | single item => .ok item
  | pair left right => do
    let first ← left.fold combine
    let second ← right.fold combine
    combine first second

theorem fold_total
    (step : ∀ {first second}, holds first → holds second →
      ∃ result, combine first second = .ok result ∧ holds result)
    (each : ∀ item ∈ groups.items, holds item) :
    ∃ result, groups.fold combine = .ok result ∧ holds result := by
  induction groups with
  | single item => exact ⟨item, rfl, each item (List.mem_singleton_self item)⟩
  | pair left right ihLeft ihRight =>
      obtain ⟨eachLeft, eachRight⟩ := List.forall_mem_append.mp each
      obtain ⟨first, foldsLeft, own⟩ := ihLeft eachLeft
      obtain ⟨second, foldsRight, other⟩ := ihRight eachRight
      obtain ⟨result, made, keeps⟩ := step own other
      refine ⟨result, ?_, keeps⟩
      rw [fold, foldsLeft, foldsRight]
      exact made

theorem read_fold {read : α → β} {join : β → β → β} {empty : β} [Std.Associative join]
    [Std.LawfulIdentity join empty]
    (step : ∀ {first second result}, combine first second = .ok result → holds first → holds second →
      holds result ∧ read result = join (read first) (read second))
    {result : α} (made : groups.fold combine = .ok result) (each : ∀ item ∈ groups.items, holds item) :
    holds result ∧ read result = (groups.items.map read).foldr join empty := by
  induction groups generalizing result with
  | single item =>
      obtain rfl := Except.ok.inj made
      refine ⟨each item (List.mem_singleton_self item), ?_⟩
      exact (Std.LawfulRightIdentity.right_id (read item)).symm
  | pair left right ihLeft ihRight =>
      obtain ⟨eachLeft, eachRight⟩ := List.forall_mem_append.mp each
      obtain ⟨first, foldsLeft, made⟩ := bind_eq_ok.mp made
      obtain ⟨second, foldsRight, made⟩ := bind_eq_ok.mp made
      obtain ⟨own, is⟩ := ihLeft foldsLeft eachLeft
      obtain ⟨other, is'⟩ := ihRight foldsRight eachRight
      obtain ⟨keeps, joined⟩ := step made own other
      have identity (value : β) : join empty value = value := Std.LawfulLeftIdentity.left_id value
      refine ⟨keeps, ?_⟩
      calc
        read result = join (read first) (read second) := joined
        _ = join ((left.items.map read).foldr join empty) ((right.items.map read).foldr join empty) := by
          rw [is, is']
        _ = (left.items.map read).foldr join (join empty ((right.items.map read).foldr join empty)) :=
          List.foldr_assoc.symm
        _ = ((pair left right).items.map read).foldr join empty := by
          rw [identity, items, List.map_append, List.foldr_append]

end Grouping

namespace Schema

open Json (isEqual union AddsNew)

variable {keyword : String} {depth : Int} {first second met : Json}

def unionKeywords : List String := ["allOf", "examples", "required"]

theorem mem_unionKeywords : keyword ∈ unionKeywords ↔
    keyword = "allOf" ∨ keyword = "examples" ∨ keyword = "required" := by
  simp [unionKeywords]

def IsList (argument : Json) : Prop := ∃ items, argument = .array items

def list? : Json → Option (List Json)
  | .array items => some items
  | _ => none

theorem union_of_isEqual {values others : List Json}
    (same : isEqual (.array values) (.array others) = true) : union values others = values := by
  obtain ⟨_, ⟨⟩, related⟩ := Json.isEqual_array same
  apply Json.union_of_known
  intro other inside
  obtain ⟨value, listed, same⟩ := exists_of_mem_right related inside
  exact (Json.isEqual_iff.mp same).2.2 ▸ List.mem_map_of_mem listed

def Unites (combined : Json → Json → Except Failure Json) : Prop :=
  ∀ values others, combined (.array values) (.array others) = .array <$> unionUnique values others

theorem exists_unionRule (united : keyword ∈ unionKeywords) :
    ∃ combined, rule? keyword = some (.combine combined) ∧ Unites combined ∧
      ∀ recur, combine recur keyword = combined := by
  have array (values others : List Json) : (do return Json.array (← unionUnique values others)) =
      .array <$> unionUnique values others := (map_eq_pure_bind _ _).symm
  rcases mem_unionKeywords.mp united with rfl | rfl | rfl
  · exact ⟨Keyword.allOf, rfl, array, fun _ => rfl⟩
  · exact ⟨Keyword.examples, rfl, array, fun _ => rfl⟩
  · exact ⟨Keyword.required, rfl, array, fun _ => rfl⟩

section arguments

variable {combined : Json → Json → Except Failure Json}

theorem Unites.combined_eq (unites : Unites combined) (made : combined first second = .ok met)
    (list : IsList first) (list' : IsList second) :
    IsList met ∧ list? met = (list? first).merge union (list? second) := by
  obtain ⟨values, rfl⟩ := list
  obtain ⟨others, rfl⟩ := list'
  rw [unites, map_eq_pure_bind] at made
  obtain ⟨joined, unique, built⟩ := bind_eq_ok.mp made
  obtain rfl := pure_eq_ok.mp built
  obtain ⟨-, -, rfl⟩ := Json.unionUnique_iff.mp (unionUnique_eq_ok unique)
  exact ⟨⟨_, rfl⟩, rfl⟩

theorem Unites.exists_combined (unites : Unites combined) (list : IsList first ∧ first.isFinite = true)
    (list' : IsList second ∧ second.isFinite = true) :
    ∃ joined, combined first second = .ok joined ∧ IsList joined ∧ joined.isFinite = true := by
  obtain ⟨⟨values, rfl⟩, finite⟩ := list
  obtain ⟨⟨others, rfl⟩, finite'⟩ := list'
  rw [Json.isFinite_array] at finite finite'
  have unique : unionUnique values others = .ok (union values others) :=
    finitely_eq_ok.mpr (Json.unionUnique_iff.mpr ⟨finite, finite', rfl⟩)
  refine ⟨.array (union values others), by rw [unites, unique]; rfl, ⟨_, rfl⟩, ?_⟩
  exact (Json.isFinite_array _).mpr (Json.finite_union finite finite')

end arguments

structure Lists (keyword : String) (schema : Json) : Prop where
  noRepeats : schema.noRepeats = true
  list : ∀ argument, (presentKeywords schema).get? keyword = some argument → IsList argument

def listed? (keyword : String) (schema : Json) : Option (List Json) :=
  ((presentKeywords schema).get? keyword).bind list?

theorem Lists.get?_eq (lists : Lists keyword first) :
    (presentKeywords first).get? keyword = (listed? keyword first).map .array := by
  unfold listed?
  cases found : (presentKeywords first).get? keyword with
  | none => rfl
  | some argument =>
      obtain ⟨items, rfl⟩ := lists.list argument found
      rfl

theorem Joins?.merge (united : keyword ∈ unionKeywords) {recur : Meeting} {left right joined : Option Json}
    (joins : Joins? recur keyword left right joined) (list : ∀ argument, left = some argument → IsList argument)
    (list' : ∀ argument, right = some argument → IsList argument) :
    (∀ argument, joined = some argument → IsList argument) ∧
      joined.bind list? = (left.bind list?).merge union (right.bind list?) := by
  cases joins with
  | neither => exact ⟨list, rfl⟩
  | left argument =>
      obtain ⟨values, rfl⟩ := list argument rfl
      exact ⟨list, rfl⟩
  | right argument =>
      obtain ⟨values, rfl⟩ := list' argument rfl
      exact ⟨list', rfl⟩
  | @same first second compared =>
      obtain ⟨values, rfl⟩ := list first rfl
      obtain ⟨others, rfl⟩ := list' second rfl
      have same := Json.isEqual_of_equal (finitely_eq_ok.mp compared)
      exact ⟨list, congrArg some (union_of_isEqual same).symm⟩
  | @combined first second met _ made =>
      obtain ⟨combined, -, unites, is⟩ := exists_unionRule united
      rw [is] at made
      obtain ⟨isList, read⟩ := unites.combined_eq made (list first rfl) (list' second rfl)
      refine ⟨?_, read⟩
      rintro _ ⟨⟩
      exact isList

theorem equal_of_isEqual (same : isEqual first second = true) : equal first second = .ok true := by
  obtain ⟨finite, finite', -⟩ := Json.isEqual_iff.mp same
  rw [equal, Json.equal_of_finite finite finite', same]
  rfl

theorem joins?_of_isEqual {recur : Meeting} (ordinary : nullableKeywords.contains keyword = false)
    (shaped : isSchema first = true) (same : isEqual first second = true)
    (clean : first.noRepeats = true) (clean' : second.noRepeats = true) :
    Joins? recur keyword ((presentKeywords first).get? keyword) ((presentKeywords second).get? keyword)
      ((presentKeywords first).get? keyword) := by
  cases first with
  | bool answer =>
      obtain rfl := Json.isEqual_bool same
      exact .neither
  | object keywords =>
      obtain ⟨distinct, -⟩ := Json.noRepeats_object.mp clean
      obtain ⟨others, rfl, related⟩ := Json.isEqual_object distinct same
      obtain ⟨distinct', -⟩ := Json.noRepeats_object.mp clean'
      have related := related distinct' keyword
      rw [get?_present distinct ordinary, get?_present distinct' ordinary]
      cases found : Members.get? keywords keyword with
      | none =>
          rw [found] at related
          generalize found' : others.get? keyword = argument' at related
          cases related
          rw [Members.present?, Members.present?, found, found']
          exact .neither
      | some argument =>
          rw [found] at related
          generalize found' : others.get? keyword = argument' at related
          cases related with
          | @some _ argument' same =>
              by_cases null : argument = .null
              · subst null
                obtain rfl := Json.isEqual_null same
                rw [Members.present?, Members.present?, found, found']
                exact .neither
              · have null' : argument' ≠ .null := by
                  rintro rfl
                  exact null (Json.isEqual_null (Json.isEqual_symm same))
                rw [Members.present?_eq_some_iff.mpr ⟨found, null⟩,
                  Members.present?_eq_some_iff.mpr ⟨found', null'⟩]
                exact .same (equal_of_isEqual same)
  | _ => simp [isSchema] at shaped

theorem listed?_of_isAccept (accept : isAccept first = true) : listed? keyword first = none := by
  cases first with
  | bool answer => rfl
  | object keywords =>
      obtain rfl : keywords = [] := by simpa [isAccept] using accept
      rfl
  | _ => simp [isAccept] at accept

theorem Lists.meet (united : keyword ∈ unionKeywords) (lists : Lists keyword first)
    (lists' : Lists keyword second) (noReject : isReject first = false)
    (noReject' : isReject second = false) (made : Schema.meet depth first second = .ok met) :
    (Lists keyword met ∧ isReject met = false) ∧
      listed? keyword met = (listed? keyword first).merge union (listed? keyword second) := by
  have ordinary : nullableKeywords.contains keyword = false := by
    rcases mem_unionKeywords.mp united with rfl | rfl | rfl <;> rfl
  have free : keyword ∉ reworkedKeywords := by
    rcases mem_unionKeywords.mp united with rfl | rfl | rfl <;> decide
  have clean : met.noRepeats = true := noRepeats_meetWithin _ made lists.noRepeats lists'.noRepeats
  rw [Schema.meet, levelsOf_of_meet made] at made
  obtain ⟨⟨shaped, -⟩, how⟩ := meetWithin_succ_eq_ok made
  cases how with
  | rejects reject => simp [noReject, noReject'] at reject
  | left accept =>
      rw [listed?_of_isAccept accept, Option.merge_none_right]
      exact ⟨⟨lists, noReject⟩, rfl⟩
  | right accept =>
      rw [listed?_of_isAccept accept, Option.merge_none_left]
      exact ⟨⟨lists', noReject'⟩, rfl⟩
  | same compared =>
      have same := Json.isEqual_of_equal (finitely_eq_ok.mp compared)
      have joins : Joins? (Schema.meet depth) keyword _ _ _ :=
        joins?_of_isEqual ordinary shaped same lists.noRepeats lists'.noRepeats
      exact ⟨⟨lists, noReject⟩, (joins.merge united lists.list lists'.list).2⟩
  | @merged _ _ out _ _ _ merged =>
      obtain ⟨distinct, -⟩ := Json.noRepeats_object.mp (noRepeats_present lists.noRepeats)
      obtain ⟨distinct', -⟩ := Json.noRepeats_object.mp (noRepeats_present lists'.noRepeats)
      have joins := (meetObjects_keeps merged distinct distinct').joins free
      obtain ⟨list, read⟩ := joins.merge united lists.list lists'.list
      have present : (presentKeywords (.object out)).get? keyword = out.get? keyword := by
        rw [get?_present (Json.noRepeats_object.mp clean).1 ordinary, Members.present?]
        cases found : out.get? keyword with
        | none => rfl
        | some argument =>
            obtain ⟨items, rfl⟩ := list argument found
            rfl
      exact ⟨⟨⟨clean, by rwa [present]⟩, rfl⟩, by rwa [listed?, present]⟩

theorem not_isReject_of_isAccept (accept : isAccept first = true) : isReject first = false := by
  cases first <;> simp_all [isAccept, isReject]

theorem isReject_of_isEqual (same : isEqual first second = true) : isReject first = isReject second := by
  cases first with
  | bool answer => rw [Json.isEqual_bool same]
  | _ =>
      cases second with
      | bool answer => cases Json.isEqual_bool (Json.isEqual_symm same)
      | _ => rfl

theorem isReject_meet (made : meet depth first second = .ok met) :
    isReject met = (isReject first || isReject second) := by
  rw [meet, levelsOf_of_meet made] at made
  cases (meetWithin_succ_eq_ok made).2 with
  | rejects reject => exact (Bool.or_eq_true_iff.mpr reject).symm
  | left accept => rw [not_isReject_of_isAccept accept, Bool.or_false]
  | right accept => rw [not_isReject_of_isAccept accept, Bool.false_or]
  | same compared =>
      rw [← isReject_of_isEqual (Json.isEqual_of_equal (finitely_eq_ok.mp compared)), Bool.or_self]
  | merged => rfl

theorem isReject_fold {groups : Grouping Json} (made : groups.fold (meet depth) = .ok met) :
    isReject met = groups.items.any isReject := by
  induction groups generalizing met with
  | single schema =>
      obtain rfl := Except.ok.inj made
      exact (Bool.or_false _).symm
  | pair left right ihLeft ihRight =>
      obtain ⟨first, foldsLeft, made⟩ := bind_eq_ok.mp made
      obtain ⟨second, foldsRight, made⟩ := bind_eq_ok.mp made
      rw [isReject_meet made, ihLeft foldsLeft, ihRight foldsRight, Grouping.items, List.any_append]

theorem presentKeywords_of_isReject (reject : isReject first = true) : presentKeywords first = [] := by
  cases first with
  | bool answer => rfl
  | _ => simp [isReject] at reject

/-- The folds of a list of arguments, or of schemas, agree in a keyword, however the list is grouped. -/
structure FoldsAlike (keyword : String) : Prop where
  arguments : ∃ combined, rule? keyword = some (.combine combined) ∧
    ∀ {groups others : Grouping Json}, groups.items = others.items →
      (∀ argument ∈ groups.items, IsList argument ∧ argument.isFinite = true) →
      ∃ result, groups.fold combined = .ok result ∧ others.fold combined = .ok result
  schemas : ∀ {depth depth' : Int} {groups others : Grouping Json} {met met' : Json},
    groups.items = others.items → (∀ schema ∈ groups.items, Lists keyword schema) →
      groups.fold (meet depth) = .ok met → others.fold (meet depth') = .ok met' →
      (presentKeywords met).get? keyword = (presentKeywords met').get? keyword

section folds

variable {groups : Grouping Json}

theorem listed?_fold (united : keyword ∈ unionKeywords) (made : groups.fold (meet depth) = .ok met)
    (each : ∀ schema ∈ groups.items, Lists keyword schema) (noReject : isReject met = false) :
    (presentKeywords met).get? keyword =
      ((groups.items.map (listed? keyword)).foldr (Option.merge union) none).map .array := by
  have kept : ∀ schema ∈ groups.items, Lists keyword schema ∧ isReject schema = false := by
    rw [isReject_fold made, List.any_eq_false] at noReject
    intro schema inside
    exact ⟨each schema inside, Bool.eq_false_of_not_eq_true (noReject schema inside)⟩
  have step {first second met : Json} (made : meet depth first second = .ok met)
      (own : Lists keyword first ∧ isReject first = false)
      (other : Lists keyword second ∧ isReject second = false) :
      (Lists keyword met ∧ isReject met = false) ∧
        listed? keyword met = (listed? keyword first).merge union (listed? keyword second) :=
    own.1.meet united other.1 own.2 other.2 made
  obtain ⟨⟨lists, -⟩, read⟩ := Grouping.read_fold step made kept
  rw [lists.get?_eq, read]

theorem list?_fold {combined : Json → Json → Except Failure Json} (unites : Unites combined)
    (each : ∀ argument ∈ groups.items, IsList argument ∧ argument.isFinite = true) :
    ∃ list, groups.fold combined = .ok (.array list) ∧
      some list = (groups.items.map list?).foldr (Option.merge union) none := by
  obtain ⟨result, made, ⟨list, rfl⟩, -⟩ := Grouping.fold_total unites.exists_combined each
  have lists := fun argument inside => (each argument inside).1
  exact ⟨list, made, (Grouping.read_fold unites.combined_eq made lists).2⟩

end folds

theorem foldsAlike (united : keyword ∈ unionKeywords) : FoldsAlike keyword := by
  constructor
  · obtain ⟨combined, found, unites, -⟩ := exists_unionRule united
    refine ⟨combined, found, ?_⟩
    intro groups others same each
    obtain ⟨list, made, is⟩ := list?_fold unites each
    obtain ⟨list', made', is'⟩ := list?_fold unites (same ▸ each)
    rw [← same, ← is] at is'
    obtain rfl := Option.some.inj is'
    exact ⟨_, made, made'⟩
  · intro depth depth' groups others met met' same each made made'
    have rejects : isReject met' = isReject met := by
      rw [isReject_fold made, isReject_fold made', same]
    cases reject : isReject met with
    | true =>
        rw [presentKeywords_of_isReject reject, presentKeywords_of_isReject (rejects.trans reject)]
    | false =>
        rw [listed?_fold united made each reject,
          listed?_fold united made' (same ▸ each) (rejects.trans reject), same]

/-- Finite lists have a union: the first list and what is new in the second. A list united with itself
stays as it is, and of three lists it does not matter which two are united first; so it does not matter
either how the schemas of a list are grouped when they are folded. -/
theorem unionUnique_regroups {first second third : List Json}
    (finite : ∀ value ∈ first, value.isFinite = true) (finite' : ∀ value ∈ second, value.isFinite = true)
    (finite'' : ∀ value ∈ third, value.isFinite = true) :
    (∃ added, Json.unionUnique first second = .ok (first ++ added) ∧ AddsNew first second added) ∧
      Json.unionUnique first first = .ok first ∧
      (∃ left right whole, Json.unionUnique first second = .ok left ∧
        Json.unionUnique second third = .ok right ∧ Json.unionUnique left third = .ok whole ∧
        Json.unionUnique first right = .ok whole) ∧
      ∀ keyword ∈ unionKeywords, FoldsAlike keyword := by
  have unique {values others : List Json} (finite : ∀ value ∈ values, value.isFinite = true)
      (finite' : ∀ value ∈ others, value.isFinite = true) :
      Json.unionUnique values others = .ok (union values others) :=
    Json.unionUnique_iff.mpr ⟨finite, finite', rfl⟩
  refine ⟨⟨_, unique finite finite', Json.addsNew_fresh finite finite'⟩, ?_, ?_, fun _ => foldsAlike⟩
  · rw [unique finite finite, Json.union_self]
  · refine ⟨union first second, union second third, union (union first second) third,
      unique finite finite', unique finite' finite'', ?_, ?_⟩
    · exact unique (Json.finite_union finite finite') finite''
    · rw [Json.union_assoc]
      exact unique finite (Json.finite_union finite' finite'')

def oneTwice : List Json := [.number (.int 1), .string "b", .number (.float (.nearest false 1 1))]

def oneAndTrue : List Json :=
  [.bool true, .number (.float (.nearest false 2 1)), .number (.float (.nearest false 1 1)),
    .number (.int 2), .array [.number (.int 1)]]

def nullTwice : List Json :=
  [.number (.int 2), .array [.number (.float (.nearest false 1 1))], .null, .string "b", .null]

def newInOneAndTrue : List Json :=
  [.bool true, .number (.float (.nearest false 2 1)), .array [.number (.int 1)]]

def allExamples : List Json := oneTwice ++ newInOneAndTrue ++ [.null]

def exampled (title : String) (examples : List Json) : Json :=
  .object [("title", .string title), ("examples", .array examples)]

def firstTwoFirst : Grouping Json :=
  .pair (.pair (.single (exampled "a" oneTwice)) (.single (exampled "b" oneAndTrue)))
    (.single (exampled "c" nullTwice))

def lastTwoFirst : Grouping Json :=
  .pair (.single (exampled "a" oneTwice))
    (.pair (.single (exampled "b" oneAndTrue)) (.single (exampled "c" nullTwice)))

theorem lists_exampled (title : String) {examples : List Json}
    (clean : (Json.array examples).noRepeats = true) : Lists "examples" (exampled title examples) := by
  constructor
  · refine Json.noRepeats_object.mpr ⟨show ["title", "examples"].Nodup by decide, ?_⟩
    exact List.forall_mem_cons.mpr ⟨rfl, List.forall_mem_singleton.mpr clean⟩
  · rintro argument found
    exact ⟨examples, (Option.some.inj found).symm⟩

theorem oneTwice_regroups :
    ((∀ value ∈ oneTwice, value.isFinite = true) ∧ (∀ value ∈ oneAndTrue, value.isFinite = true) ∧
      ∀ value ∈ nullTwice, value.isFinite = true) ∧
    AddsNew oneTwice oneAndTrue newInOneAndTrue ∧ Json.unionUnique oneTwice oneTwice = .ok oneTwice ∧
    (∃ right, Json.unionUnique oneAndTrue nullTwice = .ok right ∧
      Json.unionUnique (oneTwice ++ newInOneAndTrue) nullTwice = .ok allExamples ∧
      Json.unionUnique oneTwice right = .ok allExamples) ∧
    ∃ title title', title ≠ title' ∧
      firstTwoFirst.fold (meet defaultDepth) = .ok (exampled title allExamples) ∧
      lastTwoFirst.fold (meet defaultDepth) = .ok (exampled title' allExamples) ∧
      (presentKeywords (exampled title allExamples)).get? "examples" =
        (presentKeywords (exampled title' allExamples)).get? "examples" := by
  have finite : ∀ value ∈ oneTwice, value.isFinite = true := by decide +kernel
  have finite' : ∀ value ∈ oneAndTrue, value.isFinite = true := by decide +kernel
  have finite'' : ∀ value ∈ nullTwice, value.isFinite = true := by decide +kernel
  have joined : Json.unionUnique oneTwice oneAndTrue = .ok (oneTwice ++ newInOneAndTrue) := by
    decide +kernel
  have whole : Json.unionUnique (oneTwice ++ newInOneAndTrue) nullTwice = .ok allExamples := by
    decide +kernel
  have made : firstTwoFirst.fold (meet defaultDepth) =
      .ok (exampled "Intersection of (Intersection of a and b) and c" allExamples) := by decide +kernel
  have made' : lastTwoFirst.fold (meet defaultDepth) =
      .ok (exampled "Intersection of a and (Intersection of b and c)" allExamples) := by decide +kernel
  have lists : ∀ schema ∈ firstTwoFirst.items, Lists "examples" schema := by
    intro schema inside
    simp only [firstTwoFirst, Grouping.items, List.cons_append, List.nil_append, List.mem_cons,
      List.not_mem_nil, or_false] at inside
    rcases inside with rfl | rfl | rfl
    · exact lists_exampled "a" (by decide +kernel)
    · exact lists_exampled "b" (by decide +kernel)
    · exact lists_exampled "c" (by decide +kernel)
  obtain ⟨⟨added, adds, new⟩, again, ⟨_, right, _, isLeft, isRight, isWhole, isWhole'⟩, folds⟩ :=
    unionUnique_regroups finite finite' finite''
  obtain rfl := List.append_cancel_left (Except.ok.inj (adds.symm.trans joined))
  obtain rfl := Except.ok.inj (isLeft.symm.trans joined)
  obtain rfl := Except.ok.inj (isWhole.symm.trans whole)
  have items : firstTwoFirst.items = lastTwoFirst.items := rfl
  have same := (folds "examples" (by decide)).schemas items lists made made'
  have differ : "Intersection of (Intersection of a and b) and c" ≠
      "Intersection of a and (Intersection of b and c)" := by decide
  exact ⟨⟨finite, finite', finite''⟩, new, again, ⟨right, isRight, whole, isWhole'⟩, _, _, differ,
    made, made', same⟩

end Schema

end SchemaMerge
