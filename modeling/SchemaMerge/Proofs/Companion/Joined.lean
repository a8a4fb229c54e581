import SchemaMerge.Proofs.Companion.Reading

/-!
Arguments of a subject and its modifier, brought together from two sides: they ask what both sides
ask, if the modifier of each side leaves the subject of the other one alone.
-/

namespace SchemaMerge.Schema

open Json (isEqual itemsOf)

variable {sub : Json → Json → Bool} {rest rest' : Json → Bool} {schemas others items : List Json}

theorem readsInPlace_and (sub : Json → Json → Bool) (rest rest' : Json → Bool)
    (schemas items : List Json) :
    readsInPlace sub (fun item => rest item && rest' item) schemas items =
      (readsInPlace sub rest schemas items && readsInPlace sub rest' schemas items) := by
  induction schemas generalizing items with
  | nil =>
      rw [readsInPlace, readsInPlace, readsInPlace, Bool.eq_iff_iff]
      simp only [List.all_eq_true, Bool.and_eq_true, forall_and]
  | cons schema schemas ih =>
      cases items with
      | nil => rfl
      | cons item items =>
          rw [readsInPlace, readsInPlace, readsInPlace, ih]
          cases sub schema item <;> simp

theorem readsInPlace_congr (rest : Json → Bool) (items : List Json)
    (related : List.Forall₂ (fun schema other => sub schema = sub other) schemas others) :
    readsInPlace sub rest schemas items = readsInPlace sub rest others items := by
  induction related generalizing items with
  | nil => rfl
  | cons same _ ih =>
      cases items with
      | nil => rfl
      | cons item items => rw [readsInPlace, readsInPlace, same, ih]

theorem readsInPlace_alike (items : List Json) (alike : ∀ schema ∈ schemas, sub schema = rest) :
    readsInPlace sub rest schemas items = items.all rest := by
  induction schemas generalizing items with
  | nil => rfl
  | cons schema schemas ih =>
      obtain ⟨same, alike⟩ := List.forall_mem_cons.mp alike
      cases items with
      | nil => rfl
      | cons item items => rw [readsInPlace, same, ih items alike, List.all_cons]

/-- A subject and its modifier on two sides: arguments without repeated keys, equal where both sides
have one. -/
structure Sides (subject modifier subject' modifier' : Option Json) : Prop where
  subjects : ∀ first ∈ subject, ∀ second ∈ subject', isEqual first second = true
  modifiers : ∀ first ∈ modifier, ∀ second ∈ modifier', isEqual first second = true
  clean : ∀ argument ∈ subject, argument.noRepeats = true
  cleanModifier : ∀ argument ∈ modifier, argument.noRepeats = true
  clean' : ∀ argument ∈ subject', argument.noRepeats = true
  cleanModifier' : ∀ argument ∈ modifier', argument.noRepeats = true

variable {subject modifier subject' modifier' : Option Json} {reads : Json → Json → Bool}

namespace Sides

theorem symm (sides : Sides subject modifier subject' modifier') :
    Sides subject' modifier' subject modifier :=
  ⟨fun second found first found' => Json.isEqual_symm (sides.subjects first found' second found),
    fun second found first found' => Json.isEqual_symm (sides.modifiers first found' second found),
    sides.clean', sides.cleanModifier', sides.clean, sides.cleanModifier⟩

variable (sides : Sides subject modifier subject' modifier') (respectful : Respectful sub)

include sides respectful

theorem sub_subjects {first second : Json} (found : first ∈ subject) (found' : second ∈ subject') :
    sub first = sub second :=
  respectful.eq (sides.subjects first found second found') (sides.clean first found)
    (sides.clean' second found')

theorem sub_modifiers {first second : Json} (found : first ∈ modifier) (found' : second ∈ modifier') :
    sub first = sub second :=
  respectful.eq (sides.modifiers first found second found') (sides.cleanModifier first found)
    (sides.cleanModifier' second found')

theorem sub_crossed {first second : Json} (same : isEqual first second = true) (found : first ∈ subject)
    (found' : second ∈ modifier') : sub first = sub second :=
  respectful.eq same (sides.clean first found) (sides.cleanModifier' second found')

end Sides

theorem readsBoth_or
    (same : ∀ first ∈ subject, ∀ second ∈ subject', reads first = reads second)
    (same' : ∀ first ∈ modifier, ∀ second ∈ modifier', ∀ argument,
      reads argument first = reads argument second)
    (free : ∀ first ∈ subject, ∀ second ∈ modifier', modifier = none → subject' = none →
      reads first second = true)
    (free' : ∀ first ∈ subject', ∀ second ∈ modifier, modifier' = none → subject = none →
      reads first second = true) :
    readsBoth reads (subject.or subject') (modifier.or modifier') =
      (readsBoth reads subject modifier && readsBoth reads subject' modifier') := by
  cases subject with
  | none =>
      cases subject' with
      | none => rfl
      | some second =>
          cases modifier with
          | none => simp [readsBoth]
          | some other =>
              cases modifier' with
              | none => simp [readsBoth, free' second rfl other rfl rfl rfl]
              | some other' => simp [readsBoth, same' other rfl other' rfl second]
  | some first =>
      cases subject' with
      | none =>
          cases modifier with
          | none =>
              cases modifier' with
              | none => rfl
              | some other' => simp [readsBoth, free first rfl other' rfl rfl rfl]
          | some other => simp [readsBoth]
      | some second =>
          have alike (modifier : Option Json) :
              readsBoth reads (some second) modifier = readsBoth reads (some first) modifier := by
            cases modifier with
            | none => rfl
            | some other => exact (congrFun (same first rfl second rfl) other).symm
          rw [alike]
          cases modifier with
          | none => simp [readsBoth]
          | some other =>
              cases modifier' with
              | none => simp [readsBoth]
              | some other' => simp [readsBoth, same' other rfl other' rfl first]

theorem readsDefault_or (default : Json)
    (same : ∀ first ∈ subject, ∀ second ∈ subject', reads first = reads second)
    (same' : ∀ first ∈ modifier, ∀ second ∈ modifier', ∀ argument,
      reads argument first = reads argument second)
    (free : ∀ first ∈ subject, ∀ second ∈ modifier', modifier = none →
      (reads first second = true → reads first default = true) ∧
        (subject' = none → reads first default = true → reads first second = true))
    (free' : ∀ first ∈ subject', ∀ second ∈ modifier, modifier' = none →
      (reads first second = true → reads first default = true) ∧
        (subject = none → reads first default = true → reads first second = true)) :
    readsDefault reads default (subject.or subject') (modifier.or modifier') =
      (readsDefault reads default subject modifier && readsDefault reads default subject' modifier') := by
  unfold readsDefault
  cases subject with
  | none =>
      cases subject' with
      | none => rfl
      | some second =>
          cases modifier with
          | none => simp
          | some other =>
              cases modifier' with
              | none =>
                  obtain ⟨more, less⟩ := free' second rfl other rfl rfl
                  simpa using Bool.eq_iff_iff.mpr ⟨more, less rfl⟩
              | some other' => simp [same' other rfl other' rfl second]
  | some first =>
      cases subject' with
      | none =>
          cases modifier with
          | some other => simp
          | none =>
              cases modifier' with
              | none => simp
              | some other' =>
                  obtain ⟨more, less⟩ := free first rfl other' rfl rfl
                  simpa using Bool.eq_iff_iff.mpr ⟨more, less rfl⟩
      | some second =>
          have alike := same first rfl second rfl
          cases modifier with
          | none =>
              cases modifier' with
              | none => simp [alike]
              | some other' =>
                  have more := (free first rfl other' rfl rfl).1
                  simpa [alike] using and_eq_right_of_imp (alike ▸ more)
          | some other =>
              cases modifier' with
              | none =>
                  have more := (free' second rfl other rfl rfl).1
                  simpa [alike] using and_eq_left_of_imp more
              | some other' => simp [alike, same' other rfl other' rfl second]

namespace Pair

theorem clean_items {argument : Json} (clean : argument.noRepeats = true) :
    ∀ item ∈ itemsOf argument, item.noRepeats = true := by
  cases argument with
  | array items => exact Json.noRepeats_array.mp clean
  | _ => simp [itemsOf]

theorem sub_items (respectful : Respectful sub) {first second : Json}
    (same : isEqual first second = true) (clean : first.noRepeats = true)
    (clean' : second.noRepeats = true) :
    List.Forall₂ (fun item other => sub item = sub other) (itemsOf first) (itemsOf second) := by
  by_cases isArray : ∃ items, first = .array items
  · obtain ⟨items, rfl⟩ := isArray
    obtain ⟨others, rfl, related⟩ := Json.isEqual_array same
    rw [List.forall₂_iff_get] at related ⊢
    refine ⟨related.1, fun index bound bound' => ?_⟩
    exact respectful.eq (related.2 index bound bound') (clean_items clean _ (List.getElem_mem bound))
      (clean_items clean' _ (List.getElem_mem bound'))
  · have other := Leaf.not_array_congr same fun items is => isArray ⟨items, is⟩
    have none {argument : Json} (other : ∀ items, argument ≠ .array items) : itemsOf argument = [] := by
      cases argument with
      | array items => exact absurd rfl (other items)
      | _ => rfl
    rw [none other, none fun items is => isArray ⟨items, is⟩]
    exact .nil

theorem readsInPlace_spared {first : Option Json} {second : Json} (rest : Json → Bool)
    (items : List Json)
    (alike : ∀ argument ∈ first, ∀ schema ∈ itemsOf second, sub schema = sub argument) :
    readsInPlace sub (fun item => rest item && first.all (sub · item)) (itemsOf second) items =
      (readsInPlace sub rest (itemsOf second) items && items.all fun item => first.all (sub · item)) := by
  cases first with
  | none => simp
  | some argument =>
      rw [readsInPlace_and]
      exact congrArg _ (readsInPlace_alike items (alike argument rfl))

theorem tail_or (sides : Sides subject modifier subject' modifier') (respectful : Respectful sub)
    (spares : tail.Spares subject modifier subject' modifier')
    (spares' : tail.Spares subject' modifier' subject modifier) (value : Json) :
    tail.reads sub (subject.or subject') (modifier.or modifier') value =
      (tail.reads sub subject modifier value && tail.reads sub subject' modifier' value) := by
  have rests : (fun item => (subject.or subject').all (sub · item)) =
      fun item => subject.all (sub · item) && subject'.all (sub · item) := by
    funext item
    cases subject with
    | none => simp
    | some first =>
        cases subject' with
        | none => simp
        | some second => simp [sides.sub_subjects respectful rfl rfl]
  -- prefixes that come to a subject from the other side read like it
  have alike {first second : Json} (spared : tail.spares subject'.isSome first second = true)
      (clean : first.noRepeats = true) (clean' : second.noRepeats = true) :
      ∀ schema ∈ itemsOf second, sub schema = sub first := by
    intro schema inside
    have same := List.all_eq_true.mp spared schema inside
    exact (respectful.eq same clean (clean_items clean' _ inside)).symm
  simp only [reads, rests]
  cases modifier with
  | none =>
      cases modifier' with
      | none => exact readsInPlace_and sub _ _ [] _
      | some other' =>
          have first := readsInPlace_spared (fun item => subject'.all (sub · item)) (itemsOf value)
            fun argument found => alike (spares argument found other' rfl rfl)
              (sides.clean argument found) (sides.cleanModifier' other' rfl)
          simp only [Bool.and_comm] at first ⊢
          exact first
  | some other =>
      cases modifier' with
      | none =>
          exact readsInPlace_spared (fun item => subject.all (sub · item)) (itemsOf value)
            fun argument found => alike (spares' argument found other rfl rfl)
              (sides.clean' argument found) (sides.cleanModifier other rfl)
      | some other' =>
          have related := sub_items respectful (sides.modifiers other rfl other' rfl)
            (sides.cleanModifier other rfl) (sides.cleanModifier' other' rfl)
          exact (readsInPlace_and sub _ _ _ _).trans
            (congrArg _ (readsInPlace_congr _ (itemsOf value) related))

theorem one_le_of_atLeast {bound : Number} (positive : (Number.int 0).lt bound = true) {count : Nat}
    (enough : Leaf.atLeast bound (.int count) = true) : Leaf.atLeast (.int 1) (.int count) = true := by
  have less := Number.int_lt_iff.mp ((Number.chain enough).2.2.2 positive)
  exact Number.int_le_iff.mpr (by omega)

theorem limit_array (sub : Json → Json → Bool) (schema : Json) (admits : Number → Number → Bool)
    (bound : Number) (items : List Json) :
    Leaf.limit (matchCount? sub schema) admits (.number bound) (.array items) =
      admits bound (.int (items.countP (sub schema))) := rfl

theorem limit_one {schema modifier : Json} {shared : Bool}
    (spared : least.spares shared schema modifier = true) (sub : Json → Json → Bool) (value : Json) :
    (Leaf.limit (matchCount? sub schema) Leaf.atLeast modifier value = true →
        Leaf.limit (matchCount? sub schema) Leaf.atLeast (.number (.int 1)) value = true) ∧
      (shared = false → Leaf.limit (matchCount? sub schema) Leaf.atLeast (.number (.int 1)) value = true →
        Leaf.limit (matchCount? sub schema) Leaf.atLeast modifier value = true) := by
  cases modifier with
  | number bound =>
      rw [spares, Bool.and_eq_true] at spared
      obtain ⟨positive, small⟩ := spared
      cases value with
      | array items =>
          rw [limit_array, limit_array]
          refine ⟨one_le_of_atLeast positive, fun alone enough => ?_⟩
          rw [alone, Bool.false_or] at small
          exact (Number.chain small).1 enough
      | _ => exact ⟨fun _ => rfl, fun _ _ => rfl⟩
  | _ => exact absurd spared (by simp [spares])

theorem sub_counts (sides : Sides subject modifier subject' modifier') (respectful : Respectful sub)
    {first second : Json} (found : first ∈ subject) (found' : second ∈ subject') :
    matchCount? sub first = matchCount? sub second := by
  unfold matchCount?
  rw [sides.sub_subjects respectful found found']

theorem least_or (sides : Sides subject modifier subject' modifier') (respectful : Respectful sub)
    (spares : least.Spares subject modifier subject' modifier')
    (spares' : least.Spares subject' modifier' subject modifier) (value : Json) :
    least.reads sub (subject.or subject') (modifier.or modifier') value =
      (least.reads sub subject modifier value && least.reads sub subject' modifier' value) := by
  rw [reads, reads, reads]
  apply readsDefault_or
  · intro first found second found'
    funext bound
    rw [sub_counts sides respectful found found']
  · intro first found second found' schema
    have respectful := Leaf.limit_respectful (matchCount? sub schema)
      fun _ _ size => Leaf.atLeast_congr size
    exact congrFun (sides.sub_modifiers respectful found found') value
  · intro first found second found' missing
    obtain ⟨more, less⟩ := limit_one (spares first found second found' missing) sub value
    exact ⟨more, fun alone => less (by rw [alone]; rfl)⟩
  · intro first found second found' missing
    obtain ⟨more, less⟩ := limit_one (spares' first found second found' missing) sub value
    exact ⟨more, fun alone => less (by rw [alone]; rfl)⟩

theorem consequence_or (sides : Sides subject modifier subject' modifier') (respectful : Respectful sub)
    (spares : consequence.Spares subject modifier subject' modifier')
    (spares' : consequence.Spares subject' modifier' subject modifier) (value : Json) :
    consequence.reads sub (subject.or subject') (modifier.or modifier') value =
      (consequence.reads sub subject modifier value &&
        consequence.reads sub subject' modifier' value) := by
  have free {first second : Json} (same : sub first = sub second) :
      (!sub first value || sub second value) = true := by
    rw [same]
    exact Bool.not_or_self _
  apply readsBoth_or
  · intro first found second found'
    rw [sides.sub_subjects respectful found found']
  · intro first found second found' argument
    rw [sides.sub_modifiers respectful found found']
  · rintro first found second found' missing rfl
    exact free (sides.sub_crossed respectful (spares first found second found' missing) found found')
  · rintro first found second found' missing rfl
    exact free (sides.symm.sub_crossed respectful (spares' first found second found' missing) found found')

theorem alternative_or (sides : Sides subject modifier subject' modifier') (respectful : Respectful sub)
    (spares : alternative.Spares subject modifier subject' modifier')
    (spares' : alternative.Spares subject' modifier' subject modifier) (value : Json) :
    alternative.reads sub (subject.or subject') (modifier.or modifier') value =
      (alternative.reads sub subject modifier value &&
        alternative.reads sub subject' modifier' value) := by
  apply readsBoth_or
  · intro first found second found'
    rw [sides.sub_subjects respectful found found']
  · intro first found second found' argument
    rw [sides.sub_modifiers respectful found found']
  · rintro first found second found' missing rfl
    exact absurd (spares first found second found' missing) (by simp [Pair.spares])
  · rintro first found second found' missing rfl
    exact absurd (spares' first found second found' missing) (by simp [Pair.spares])

theorem most_or (sides : Sides subject modifier subject' modifier') (respectful : Respectful sub)
    (spares : most.Spares subject modifier subject' modifier')
    (spares' : most.Spares subject' modifier' subject modifier) (value : Json) :
    most.reads sub (subject.or subject') (modifier.or modifier') value =
      (most.reads sub subject modifier value && most.reads sub subject' modifier' value) := by
  have unread {schema bound : Json} (spared : most.spares false schema bound = true) :
      Leaf.limit (matchCount? sub schema) Leaf.atMost bound value = true := by
    cases bound with
    | number bound => exact absurd spared (by simp [Pair.spares, Json.isNumber])
    | _ => rfl
  apply readsBoth_or
  · intro first found second found'
    rw [sub_counts sides respectful found found']
  · intro first found second found' schema
    have respectful := Leaf.limit_respectful (matchCount? sub schema)
      fun _ _ size => Leaf.atMost_congr size
    exact congrFun (sides.sub_modifiers respectful found found') value
  · rintro first found second found' missing rfl
    exact unread (spares first found second found' missing)
  · rintro first found second found' missing rfl
    exact unread (spares' first found second found' missing)

theorem reads_or (pair : Pair) (sides : Sides subject modifier subject' modifier')
    (respectful : Respectful sub) (spares : pair.Spares subject modifier subject' modifier')
    (spares' : pair.Spares subject' modifier' subject modifier) (value : Json) :
    pair.reads sub (subject.or subject') (modifier.or modifier') value =
      (pair.reads sub subject modifier value && pair.reads sub subject' modifier' value) := by
  cases pair with
  | tail => exact tail_or sides respectful spares spares' value
  | consequence => exact consequence_or sides respectful spares spares' value
  | alternative => exact alternative_or sides respectful spares spares' value
  | least => exact least_or sides respectful spares spares' value
  | most => exact most_or sides respectful spares spares' value

end Pair

end SchemaMerge.Schema
