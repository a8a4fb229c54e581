import SchemaMerge.Proofs.Meet.Basic

/-!
Lists of alternatives. A list whose members all occur in the other stands for both; a single
alternative meets each member of the other list, which keeps the number of accepting members where
each of the meets is exact.
-/

namespace SchemaMerge.Schema

open Json (isEqual)

theorem anyM_equal_eq_ok {schema : Json} {others : List Json}
    (found : others.anyM (equal schema) = .ok true) : ∃ other ∈ others, isEqual schema other = true := by
  induction others with
  | nil => exact absurd (pure_eq_ok.mp found) (by simp)
  | cons other rest ih =>
      rw [List.anyM] at found
      obtain ⟨answer, compared, found⟩ := bind_eq_ok.mp found
      cases answer with
      | true => exact ⟨other, by simp, Json.isEqual_of_equal (finitely_eq_ok.mp compared)⟩
      | false =>
          obtain ⟨same, inside, equal⟩ := ih found
          exact ⟨same, List.mem_cons_of_mem _ inside, equal⟩

theorem isSubset_eq_ok {schemas others : List Json} (made : isSubset schemas others = .ok true) :
    ∀ schema ∈ schemas, ∃ other ∈ others, isEqual schema other = true := by
  induction schemas with
  | nil => simp
  | cons schema rest ih =>
      rw [isSubset, List.allM] at made
      obtain ⟨answer, found, made⟩ := bind_eq_ok.mp made
      cases answer with
      | true => exact List.forall_mem_cons.mpr ⟨anyM_equal_eq_ok found, ih made⟩
      | false => exact absurd (pure_eq_ok.mp made) (by simp)

theorem isPermutation_eq_ok {schemas others : List Json}
    (made : isPermutation schemas others = .ok true) :
    (∀ schema ∈ schemas, schema.isFinite = true) ∧ (∀ other ∈ others, other.isFinite = true) ∧
      (schemas.map Json.arranged).Perm (others.map Json.arranged) := by
  obtain ⟨forms, listed, made⟩ := bind_eq_ok.mp made
  obtain ⟨forms', listed', made⟩ := bind_eq_ok.mp made
  obtain ⟨finite, rfl⟩ := Json.canonicalItems_eq_ok (finitely_eq_ok.mp listed)
  obtain ⟨finite', rfl⟩ := Json.canonicalItems_eq_ok (finitely_eq_ok.mp listed')
  exact ⟨finite, finite', List.isPerm_iff.mp (pure_eq_ok.mp made)⟩

theorem answers_perm {schemas others : List Json} {answer : Json → Bool}
    (forms : (schemas.map Json.arranged).Perm (others.map Json.arranged))
    (agree : ∀ schema ∈ schemas ++ others, ∀ other ∈ schemas ++ others,
      schema.arranged = other.arranged → answer schema = answer other) :
    (schemas.map answer).Perm (others.map answer) := by
  -- the answer of a canonical value is that of any schema with this value
  let ofForm := fun form => (schemas ++ others).any fun schema => schema.arranged = form && answer schema
  have factors : ∀ schema ∈ schemas ++ others, answer schema = ofForm schema.arranged := by
    intro schema inside
    rw [Bool.eq_iff_iff, List.any_eq_true]
    constructor
    · intro accepted
      exact ⟨schema, inside, by simp [accepted]⟩
    · rintro ⟨other, inside', both⟩
      simp only [Bool.and_eq_true, decide_eq_true_eq] at both
      rw [agree schema inside other inside' both.1.symm, both.2]
  have mapped := forms.map ofForm
  rw [List.map_map, List.map_map] at mapped
  rwa [List.map_congr_left fun schema inside => factors schema (List.mem_append_left _ inside),
    List.map_congr_left fun schema inside => factors schema (List.mem_append_right _ inside)]

/-- One of the lists is a single schema, which meets each member of the other list. -/
theorem distribute_eq_ok {recur : Meeting} {keyword : String} {schemas others mets : List Json}
    (made : distribute recur keyword schemas others = .ok mets) :
    ∃ single alternatives,
      ((schemas = [single] ∧ others = alternatives) ∨ (schemas = alternatives ∧ others = [single])) ∧
      List.Forall₂ (fun schema met => recur schema single = .ok met) alternatives mets := by
  unfold distribute at made
  split at made
  · next single => exact ⟨single, others, Or.inl ⟨rfl, rfl⟩, mapM_eq_ok made⟩
  · next single _ => exact ⟨single, schemas, Or.inr ⟨rfl, rfl⟩, mapM_eq_ok made⟩
  · exact absurd made (by simp)

variable {reading : Reading} {banned : List String} {recur : Meeting}

def AreMeets (reading : Reading) (exact : Prop) (single : Json) (alternatives mets : List Json) : Prop :=
  List.Forall₂ (fun schema met =>
    IsMeet exact (accepts reading schema) (accepts reading single) (accepts reading met))
    alternatives mets

variable {exact : Prop} {single : Json} {alternatives mets : List Json}

theorem any_isMeet (related : AreMeets reading exact single alternatives mets) :
    IsMeet exact (fun value => alternatives.any (accepts reading · value)) (accepts reading single)
      (fun value => mets.any (accepts reading · value)) := by
  induction related with
  | nil => exact ⟨fun wrong => absurd wrong (by simp), fun _ _ wrong => absurd wrong (by simp)⟩
  | cons meet _ ih =>
      constructor
      · intro value accepted
        simp only [List.any_cons, Bool.or_eq_true] at accepted ⊢
        rcases accepted with accepted | accepted
        · exact (meet.narrow accepted).imp_left Or.inl
        · exact (ih.narrow accepted).imp_left Or.inr
      · intro exactly value accepted accepted'
        simp only [List.any_cons, Bool.or_eq_true] at accepted ⊢
        rcases accepted with accepted | accepted
        · exact Or.inl (meet.full exactly accepted accepted')
        · exact Or.inr (ih.full exactly accepted accepted')

/-- A value that the single schema accepts is accepted by as many members as before, and one that it
rejects by none. -/
theorem count_of_areMeets (related : AreMeets reading exact single alternatives mets)
    (exactly : exact) (value : Json) :
    (mets.map (accepts reading · value)).count true =
      if accepts reading single value = true then
        (alternatives.map (accepts reading · value)).count true
      else 0 := by
  induction related with
  | nil => simp
  | cons meet _ ih =>
      rw [List.map_cons, List.map_cons, List.count_cons, List.count_cons, ih,
        meet.eq_and exactly value]
      split
      · next accepted => rw [accepted, Bool.and_true]
      · next rejected => simp [rejected]

theorem count_single (answer : Bool) : decide ([answer].count true = 1) = answer := by
  cases answer <;> rfl

theorem one_isMeet (related : AreMeets reading exact single alternatives mets) (exactly : exact) :
    IsMeet exact (fun value => (alternatives.map (accepts reading · value)).count true = 1)
      (accepts reading single) (fun value => (mets.map (accepts reading · value)).count true = 1) := by
  apply IsMeet.of_both
  intro value
  rw [count_of_areMeets related exactly]
  cases accepts reading single value <;> simp

theorem Sound.areMeets (sound : Sound reading banned recur)
    (related : List.Forall₂ (fun schema met => recur schema single = .ok met) alternatives mets)
    (formed : ∀ schema ∈ alternatives, WellFormed reading.deep banned schema)
    (formed' : WellFormed reading.deep banned single) :
    (∀ met ∈ mets, WellFormed reading.deep banned met) ∧
      AreMeets reading (IsExact banned) single alternatives mets := by
  induction related with
  | nil => exact ⟨by simp, .nil⟩
  | cons made _ ih =>
      obtain ⟨formedHead, formed⟩ := List.forall_mem_cons.mp formed
      obtain ⟨formedMets, related⟩ := ih formed
      exact ⟨List.forall_mem_cons.mpr ⟨sound.formed made formedHead formed', formedMets⟩,
        .cons (sound.meets made formedHead formed') related⟩

variable {first second met : Json}

theorem any_of_subset {schemas others : List Json}
    (inside : ∀ schema ∈ schemas, ∃ other ∈ others, isEqual schema other = true)
    (clean : ∀ schema ∈ schemas, schema.noRepeats = true)
    (clean' : ∀ other ∈ others, other.noRepeats = true) (value : Json)
    (accepted : schemas.any (accepts reading · value) = true) :
    others.any (accepts reading · value) = true := by
  obtain ⟨schema, listed, accepted⟩ := List.any_eq_true.mp accepted
  obtain ⟨other, listed', same⟩ := inside schema listed
  have agree := accepts_congr reading same (clean schema listed) (clean' other listed')
  exact List.any_eq_true.mpr ⟨other, listed', by rw [← agree, accepted]⟩

theorem satisfies_anyOf (siblings : Members) (schemas : List Json) :
    satisfies reading siblings "anyOf" (.array schemas) =
      fun value => schemas.any (accepts reading · value) := by
  funext value
  rw [satisfies_schemas rfl, List.any_map]
  rfl

theorem satisfies_oneOf (siblings : Members) (schemas : List Json) :
    satisfies reading siblings "oneOf" (.array schemas) =
      fun value => (schemas.map (accepts reading · value)).count true = 1 := by
  funext value
  rw [satisfies_schemas rfl]

theorem satisfies_allOf (siblings : Members) (schemas : List Json) :
    satisfies reading siblings "allOf" (.array schemas) =
      fun value => schemas.all (accepts reading · value) := by
  funext value
  rw [satisfies_schemas rfl, List.all_map]
  rfl

def Chooses (covered : Except Failure Bool) (kept : List Json)
    (distributed : Except Failure (List Json)) (met : Json) : Prop :=
  (covered = .ok true ∧ met = .array kept) ∨
    (covered = .ok false ∧ ∃ mets, distributed = .ok mets ∧ met = .array mets)

theorem chooses_of_bind {covered : Except Failure Bool} {kept : List Json}
    {distributed : Except Failure (List Json)}
    (made : (covered >>= fun answer => if answer = true then pure (.array kept)
      else distributed >>= fun mets => pure (.array mets)) = .ok met) :
    Chooses covered kept distributed met := by
  obtain ⟨answer, compared, made⟩ := bind_eq_ok.mp made
  split at made
  · next kept =>
    subst kept
    exact Or.inl ⟨compared, (pure_eq_ok.mp made).symm⟩
  · next differs =>
    obtain rfl := Bool.eq_false_of_not_eq_true differs
    obtain ⟨mets, distributed, made⟩ := bind_eq_ok.mp made
    exact Or.inr ⟨compared, mets, distributed, (pure_eq_ok.mp made).symm⟩

theorem anyOf_chooses {schemas others : List Json}
    (made : anyOf recur (.array schemas) (.array others) = .ok met) :
    if schemas.length ≤ others.length then
      Chooses (isSubset schemas others) schemas (distribute recur "anyOf" schemas others) met
    else Chooses (isSubset others schemas) others (distribute recur "anyOf" schemas others) met := by
  rw [anyOf, asArray_bind, asArray_bind] at made
  dsimp only at made
  split at made
  · next shorter =>
    rw [if_pos shorter]
    exact chooses_of_bind made
  · next longer =>
    rw [if_neg longer]
    exact chooses_of_bind made

theorem oneOf_chooses {schemas others : List Json}
    (made : oneOf recur (.array schemas) (.array others) = .ok met) :
    Chooses (isPermutation schemas others) schemas (distribute recur "oneOf" schemas others) met := by
  rw [oneOf, asArray_bind, asArray_bind] at made
  exact chooses_of_bind made

theorem anyOf_eq_ok {schemas others : List Json}
    (made : anyOf recur (.array schemas) (.array others) = .ok met) :
    (isSubset schemas others = .ok true ∧ met = .array schemas) ∨
      (isSubset others schemas = .ok true ∧ met = .array others) ∨
      ∃ mets, distribute recur "anyOf" schemas others = .ok mets ∧ met = .array mets := by
  have chosen := anyOf_chooses made
  split at chosen
  · exact chosen.imp_right fun distributed => Or.inr distributed.2
  · exact Or.inr (chosen.imp_right And.right)

theorem oneOf_eq_ok {schemas others : List Json}
    (made : oneOf recur (.array schemas) (.array others) = .ok met) :
    (isPermutation schemas others = .ok true ∧ met = .array schemas) ∨
      ∃ mets, distribute recur "oneOf" schemas others = .ok mets ∧ met = .array mets :=
  (oneOf_chooses made).imp_right And.right

theorem anyOf_combines (sound : Sound reading banned recur)
    (made : anyOf recur first second = .ok met)
    (argument : IsArgument reading.deep banned "anyOf" first)
    (argument' : IsArgument reading.deep banned "anyOf" second) :
    Combines reading banned "anyOf" first second met := by
  obtain ⟨schemas, rfl, formed⟩ := argument.holds
  obtain ⟨others, rfl, formed'⟩ := argument'.holds
  have clean := fun schema inside => (formed schema inside).noRepeats
  have clean' := fun schema inside => (formed' schema inside).noRepeats
  have distributed {mets : List Json} (made : distribute recur "anyOf" schemas others = .ok mets) :
      Combines reading banned "anyOf" (.array schemas) (.array others) (.array mets) := by
    obtain ⟨single, alternatives, sides, related⟩ := distribute_eq_ok made
    rcases sides with ⟨rfl, rfl⟩ | ⟨rfl, rfl⟩
    · obtain ⟨formedMets, related⟩ := sound.areMeets related formed' (formed single (by simp))
      refine ⟨isArgument_array rfl argument.permitted formedMets, fun siblings => ?_⟩
      simp only [satisfies_anyOf]
      simpa using (any_isMeet related).swap
    · obtain ⟨formedMets, related⟩ := sound.areMeets related formed (formed' single (by simp))
      refine ⟨isArgument_array rfl argument.permitted formedMets, fun siblings => ?_⟩
      simp only [satisfies_anyOf]
      simpa using any_isMeet related
  rcases anyOf_eq_ok made with ⟨subset, rfl⟩ | ⟨subset, rfl⟩ | ⟨mets, result, rfl⟩
  · refine ⟨argument, fun siblings => ?_⟩
    simp only [satisfies_anyOf]
    exact .of_left (any_of_subset (isSubset_eq_ok subset) clean clean')
  · refine ⟨argument', fun siblings => ?_⟩
    simp only [satisfies_anyOf]
    exact .of_right (any_of_subset (isSubset_eq_ok subset) clean' clean)
  · exact distributed result

theorem count_of_permutation {schemas others : List Json}
    (permutation : isPermutation schemas others = .ok true)
    (clean : ∀ schema ∈ schemas, schema.noRepeats = true)
    (clean' : ∀ schema ∈ others, schema.noRepeats = true) (value : Json) :
    (schemas.map (accepts reading · value)).count true =
      (others.map (accepts reading · value)).count true := by
  obtain ⟨finite, finite', forms⟩ := isPermutation_eq_ok permutation
  have tidy : ∀ schema ∈ schemas ++ others, schema.isFinite = true ∧ schema.noRepeats = true :=
    List.forall_mem_append.mpr ⟨fun schema inside => ⟨finite schema inside, clean schema inside⟩,
      fun schema inside => ⟨finite' schema inside, clean' schema inside⟩⟩
  refine (answers_perm forms fun schema inside other inside' same => ?_).count_eq true
  obtain ⟨finite, clean⟩ := tidy schema inside
  obtain ⟨finite', clean'⟩ := tidy other inside'
  rw [accepts_congr reading (Json.isEqual_iff.mpr ⟨finite, finite', same⟩) clean clean']

theorem oneOf_combines (sound : Sound reading banned recur) (exactly : IsExact banned)
    (made : oneOf recur first second = .ok met)
    (argument : IsArgument reading.deep banned "oneOf" first)
    (argument' : IsArgument reading.deep banned "oneOf" second) :
    Combines reading banned "oneOf" first second met := by
  obtain ⟨schemas, rfl, formed⟩ := argument.holds
  obtain ⟨others, rfl, formed'⟩ := argument'.holds
  rcases oneOf_eq_ok made with ⟨permutation, rfl⟩ | ⟨mets, distributed, rfl⟩
  · refine ⟨argument, fun siblings => ?_⟩
    have counts (value : Json) : (schemas.map (accepts reading · value)).count true =
        (others.map (accepts reading · value)).count true :=
      count_of_permutation permutation (fun schema inside => (formed schema inside).noRepeats)
        (fun schema inside => (formed' schema inside).noRepeats) value
    simp only [satisfies_oneOf, counts]
    exact .of_left fun _ accepted => accepted
  · obtain ⟨single, alternatives, sides, related⟩ := distribute_eq_ok distributed
    rcases sides with ⟨rfl, rfl⟩ | ⟨rfl, rfl⟩
    · obtain ⟨formedMets, related⟩ := sound.areMeets related formed' (formed single (by simp))
      refine ⟨isArgument_array rfl argument.permitted formedMets, fun siblings => ?_⟩
      simp only [satisfies_oneOf, List.map_cons, List.map_nil, count_single]
      exact (one_isMeet related exactly).swap
    · obtain ⟨formedMets, related⟩ := sound.areMeets related formed (formed' single (by simp))
      refine ⟨isArgument_array rfl argument.permitted formedMets, fun siblings => ?_⟩
      simp only [satisfies_oneOf, List.map_cons, List.map_nil, count_single]
      exact one_isMeet related exactly

theorem all_union {schemas others union : List Json} (joined : unionUnique schemas others = .ok union)
    (clean : ∀ schema ∈ schemas, schema.noRepeats = true)
    (clean' : ∀ schema ∈ others, schema.noRepeats = true) (value : Json) :
    union.all (accepts reading · value) =
      (schemas.all (accepts reading · value) && others.all (accepts reading · value)) := by
  refine Json.all_unionUnique (unionUnique_eq_ok joined) fun schema inside other inside' same => ?_
  rw [accepts_congr reading same ((List.mem_append.mp inside).elim (clean schema) (clean' schema))
    (clean' other inside')]

theorem allOf_combines (made : Keyword.allOf first second = .ok met)
    (argument : IsArgument reading.deep banned "allOf" first)
    (argument' : IsArgument reading.deep banned "allOf" second) :
    Combines reading banned "allOf" first second met := by
  obtain ⟨schemas, rfl, formed⟩ := argument.holds
  obtain ⟨others, rfl, formed'⟩ := argument'.holds
  obtain ⟨_, _, union, ⟨⟩, ⟨⟩, rfl, joined⟩ := union_eq_ok made
  have every : ∀ schema ∈ schemas ++ others, WellFormed reading.deep banned schema :=
    List.forall_mem_append.mpr ⟨formed, formed'⟩
  refine ⟨isArgument_array rfl argument.permitted fun schema inside =>
    every schema (mem_union joined inside), fun siblings => ?_⟩
  simp only [satisfies_allOf]
  exact .of_both (all_union joined (fun schema inside => (formed schema inside).noRepeats)
    fun schema inside => (formed' schema inside).noRepeats)

theorem propertyNames_combines (sound : Sound reading banned recur)
    (made : recur first second = .ok met)
    (argument : IsArgument reading.deep banned "propertyNames" first)
    (argument' : IsArgument reading.deep banned "propertyNames" second) :
    Combines reading banned "propertyNames" first second met := by
  have meet := sound.meets made argument.holds argument'.holds
  have formed := sound.formed made argument.holds argument'.holds
  have result : IsArgument reading.deep banned "propertyNames" met :=
    isArgument_schema rfl argument.permitted formed
  have reads {schema : Json} (argument : IsArgument reading.deep banned "propertyNames" schema)
      (siblings : Members) (value : Json) :
      satisfies reading siblings "propertyNames" schema value = true ↔
        ∀ member ∈ Json.membersOf value, accepts reading schema (.string member.1) = true := by
    rw [satisfies_schema rfl argument.present, List.all_eq_true]
  refine ⟨result, fun siblings => ⟨fun {value} accepted => ?_, fun exactly {value} left right => ?_⟩⟩
  · rw [reads result] at accepted
    rw [reads argument, reads argument']
    exact ⟨fun member inside => (meet.narrow (accepted member inside)).1,
      fun member inside => (meet.narrow (accepted member inside)).2⟩
  · rw [reads argument] at left
    rw [reads argument'] at right
    rw [reads result]
    exact fun member inside => meet.full exactly (left member inside) (right member inside)

end SchemaMerge.Schema
