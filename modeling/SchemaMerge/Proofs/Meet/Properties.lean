import SchemaMerge.Proofs.Meet.Entries

/-!
What the three keywords of a space ask of one member of an object, and that the merged space asks no
less than both spaces. It may ask more where a pattern of one side meets additional properties of the
other side, whose own names the pattern need not have.
-/

namespace SchemaMerge.Schema

open Json (membersOf)

namespace PropertySpace

def asks (reading : Reading) (schema : Option Json) (value : Json) : Bool :=
  schema.all (accepts reading · value)

def Covers (space : PropertySpace) (name : String) : Prop :=
  (∃ schema, space.properties.present? name = some schema) ∨
    ∃ pattern schema, space.patterns.present? pattern = some schema ∧ occurs pattern name = true

/-- A space admits a member of an object. -/
structure Admits (reading : Reading) (space : PropertySpace) (name : String) (value : Json) : Prop where
  named : ∀ {schema}, space.properties.present? name = some schema →
    accepts reading schema value = true
  matched : ∀ {pattern schema}, space.patterns.present? pattern = some schema →
    occurs pattern name = true → accepts reading schema value = true
  additional : ¬space.Covers name → asks reading space.additional value = true

structure IsSpace (deep : Bool) (banned : List String) (space : PropertySpace) : Prop where
  distinct : space.properties.Distinct
  distinctPatterns : space.patterns.Distinct
  named : ∀ {name schema}, space.properties.present? name = some schema →
    WellFormed deep banned schema
  matched : ∀ {pattern schema}, space.patterns.present? pattern = some schema →
    WellFormed deep banned schema
  additional : ∀ {schema}, space.additional = some schema → WellFormed deep banned schema
  noPatterns : "patternProperties" ∈ banned → ∀ pattern, space.patterns.present? pattern = none
  noAdditional : "additionalProperties" ∈ banned → space.additional = none

structure IsFormed (deep : Bool) (banned : List String) (space : PropertySpace) : Prop where
  distinct : space.properties.Distinct
  distinctPatterns : space.patterns.Distinct
  named : ∀ {name schema}, space.properties.present? name = some schema →
    WellFormed deep banned schema
  matched : ∀ {pattern schema}, space.patterns.present? pattern = some schema →
    WellFormed deep banned schema
  additional : ∀ {schema}, space.additional = some schema → WellFormed deep banned schema

variable {reading : Reading} {banned : List String} {recur : Meeting}
  {space first second : PropertySpace}

theorem IsSpace.isFormed {deep : Bool} (formed : IsSpace deep banned space) :
    IsFormed deep banned space :=
  ⟨formed.distinct, formed.distinctPatterns, formed.named, formed.matched, formed.additional⟩

theorem IsFormed.ofPatterns {deep : Bool} (formed : IsFormed deep banned space) :
    IsFormed deep banned space.ofPatterns :=
  ⟨formed.distinctPatterns, by simp [PropertySpace.ofPatterns, Members.Distinct], formed.matched,
    by simp [PropertySpace.ofPatterns, Members.present?], formed.additional⟩

/-- What an entry that has met a space accepts: nothing that the entry rejects, or that the space
rejects by its own entry or by its additional properties, and, where meets are exact, all that the
entry accepts and the space admits. -/
structure EntryMeets (reading : Reading) (exact : Prop) (space : PropertySpace) (name : String)
    (entry met : Json) : Prop where
  own : ∀ {value}, accepts reading met value = true → accepts reading entry value = true
  named : ∀ {value}, accepts reading met value = true →
    asks reading (space.properties.present? name) value = true
  additional : ∀ {value}, accepts reading met value = true → ¬space.Covers name →
    asks reading space.additional value = true
  full : exact → ∀ {value}, accepts reading entry value = true → space.Admits reading name value →
    accepts reading met value = true

theorem mem_schemasFor (distinct : space.patterns.Distinct) (name : String) {schema : Json}
    (set : schema ≠ .null) : schema ∈ schemasFor space.patterns name ↔
      ∃ pattern, space.patterns.present? pattern = some schema ∧ occurs pattern name = true := by
  rw [schemasFor, List.mem_map]
  constructor
  · rintro ⟨⟨pattern, other⟩, inside, rfl⟩
    obtain ⟨inside, matched⟩ := List.mem_filter.mp inside
    exact ⟨pattern, Members.present?_eq_some_iff.mpr ⟨Members.get?_of_mem distinct inside, set⟩, matched⟩
  · rintro ⟨pattern, found, matched⟩
    have inside := Members.mem_of_get? (Members.present?_eq_some_iff.mp found).1
    exact ⟨(pattern, schema), List.mem_filter.mpr ⟨inside, matched⟩, rfl⟩

theorem not_covers (distinct : space.patterns.Distinct) {name : String}
    (missing : space.properties.present? name = none) (empty : schemasFor space.patterns name = []) :
    ¬space.Covers name := by
  rintro (⟨schema, found⟩ | ⟨pattern, schema, found, matched⟩)
  · exact absurd (missing.symm.trans found) (by simp)
  · have set := (Members.present?_eq_some_iff.mp found).2
    have inside := (mem_schemasFor distinct name set).mpr ⟨pattern, found, matched⟩
    exact absurd inside (by simp [empty])

section entries

variable {name : String} {entry met : Json}

theorem meets_named (sound : Sound reading banned recur)
    (formedSpace : IsFormed reading.deep banned space) {other : Json}
    (found : space.properties.present? name = some other) (made : recur entry other = .ok met)
    (formed : WellFormed reading.deep banned entry) :
    WellFormed reading.deep banned met ∧ EntryMeets reading (IsExact banned) space name entry met := by
  have formedOther := formedSpace.named found
  have meet := sound.meets made formed formedOther
  refine ⟨sound.formed made formed formedOther, fun accepted => (meet.narrow accepted).1, ?_, ?_, ?_⟩
  · intro value accepted
    simp [asks, found, (meet.narrow accepted).2]
  · intro value _ uncovered
    exact absurd (Or.inl ⟨other, found⟩) uncovered
  · intro exactly value accepted admitted
    exact meet.full exactly accepted (admitted.named found)

theorem meets_matched (sound : Sound reading banned recur)
    (formedSpace : IsFormed reading.deep banned space)
    (missing : space.properties.present? name = none)
    (nonempty : schemasFor space.patterns name ≠ [])
    (made : (schemasFor space.patterns name).foldlM recur entry = .ok met)
    (formed : WellFormed reading.deep banned entry) :
    WellFormed reading.deep banned met ∧ EntryMeets reading (IsExact banned) space name entry met := by
  have known {schema : Json} (set : schema ≠ .null) :=
    mem_schemasFor formedSpace.distinctPatterns name set
  have formedAll : ∀ schema ∈ schemasFor space.patterns name,
      schema = .null ∨ WellFormed reading.deep banned schema := by
    intro schema inside
    by_cases null : schema = .null
    · exact Or.inl null
    · obtain ⟨pattern, found, -⟩ := (known null).mp inside
      exact Or.inr (formedSpace.matched found)
  obtain ⟨set, formedMet, meet⟩ := foldlM_meets sound made formed formedAll
  refine ⟨formedMet, fun accepted => (meet.narrow accepted).1, fun _ => by simp [asks, missing], ?_, ?_⟩
  · intro value _ missed
    obtain ⟨schema, inside⟩ := List.exists_mem_of_ne_nil _ nonempty
    obtain ⟨pattern, found, matched⟩ := (known (set schema inside)).mp inside
    exact absurd (Or.inr ⟨pattern, schema, found, matched⟩) missed
  · intro exactly value accepted admitted
    refine meet.full exactly accepted (List.all_eq_true.mpr fun schema inside => ?_)
    obtain ⟨pattern, found, matched⟩ := (known (set schema inside)).mp inside
    exact admitted.matched found matched

theorem meets_rest (sound : Sound reading banned recur)
    (formedSpace : IsFormed reading.deep banned space)
    (missing : space.properties.present? name = none)
    (rest : MeetsRest recur (schemasFor space.patterns name) space.additional entry met)
    (formed : WellFormed reading.deep banned entry) :
    WellFormed reading.deep banned met ∧ EntryMeets reading (IsExact banned) space name entry met := by
  cases rest with
  | matched nonempty made => exact meets_matched sound formedSpace missing nonempty made formed
  | additional empty found made =>
      have formedOther := formedSpace.additional found
      have meet := sound.meets made formed formedOther
      refine ⟨sound.formed made formed formedOther, fun accepted => (meet.narrow accepted).1,
        fun _ => by simp [asks, missing], ?_, ?_⟩
      · intro value accepted _
        simp [asks, found, (meet.narrow accepted).2]
      · intro exactly value accepted admitted
        have asked := admitted.additional (not_covers formedSpace.distinctPatterns missing empty)
        exact meet.full exactly accepted (by simpa [asks, found] using asked)
  | alone empty absent =>
      exact ⟨formed, fun accepted => accepted, fun _ => by simp [asks, missing],
        fun _ _ => by simp [asks, absent], fun _ _ accepted _ => accepted⟩

theorem meetEntry_meets (sound : Sound reading banned recur)
    (formedSpace : IsFormed reading.deep banned space)
    (made : meetEntry recur space name entry = .ok met)
    (formed : WellFormed reading.deep banned entry) :
    WellFormed reading.deep banned met ∧ EntryMeets reading (IsExact banned) space name entry met := by
  rcases meetEntry_eq_ok made with ⟨other, found, made⟩ | ⟨missing, rest⟩
  · exact meets_named sound formedSpace found made formed
  · exact meets_rest sound formedSpace missing rest formed

end entries

theorem ne_null_of_wellFormed {deep : Bool} {schema : Json}
    (formed : WellFormed deep banned schema) : schema ≠ .null := by
  rintro rfl
  exact absurd (isSchema_of_wellFormed formed) (by simp [isSchema])

structure Brings (reading : Reading) (first second : PropertySpace) (named : Members) : Prop where
  own : ∀ {name entry}, first.properties.present? name = some entry →
    ∃ met, named.present? name = some met ∧
      ∀ {value}, accepts reading met value = true → accepts reading entry value = true
  additional : ∀ {name entry}, first.properties.present? name = some entry → ¬second.Covers name →
    ∃ met, named.present? name = some met ∧
      ∀ {value}, accepts reading met value = true → asks reading second.additional value = true

structure Merges (reading : Reading) (banned : List String) (first second : PropertySpace)
    (named : Members) : Prop where
  distinct : named.Distinct
  set : ∀ {name}, named.get? name ≠ some .null
  formed : ∀ {name met}, named.present? name = some met → WellFormed reading.deep banned met
  left : Brings reading first second named
  right : Brings reading second first named
  known : ∀ {name met}, named.present? name = some met →
    (∃ entry, first.properties.present? name = some entry) ∨
      ∃ entry, second.properties.present? name = some entry
  full : IsExact banned → ∀ {name met value}, named.present? name = some met →
    first.Admits reading name value → second.Admits reading name value →
    accepts reading met value = true

/-- What is found under a name once the entries of two well-formed sides are merged: a well-formed
schema, which an entry of one side has become by meeting the other side. -/
inductive MergesUnder (reading : Reading) (banned : List String) (first second : PropertySpace)
    (named : Members) (name : String) : Prop
  | first {entry met : Json} (own : first.properties.present? name = some entry)
      (is : named.present? name = some met) (formed : WellFormed reading.deep banned met)
      (meets : EntryMeets reading (IsExact banned) second name entry met)
  | second {entry met : Json} (missing : first.properties.present? name = none)
      (own : second.properties.present? name = some entry)
      (is : named.present? name = some met) (formed : WellFormed reading.deep banned met)
      (meets : EntryMeets reading (IsExact banned) first name entry met)
  | neither (missing : first.properties.present? name = none)
      (missing' : second.properties.present? name = none) (is : named.get? name = none)

section names

variable {named : Members} {name : String} {met : Json}

theorem mergesUnder_of_meetsUnder (sound : Sound reading banned recur)
    (formed : IsFormed reading.deep banned first) (formed' : IsFormed reading.deep banned second)
    (under : MeetsUnder recur first second name (named.get? name)) :
    MergesUnder reading banned first second named name := by
  have present {met : Json} (is : named.get? name = some met)
      (formed : WellFormed reading.deep banned met) : named.present? name = some met :=
    Members.present?_eq_some_iff.mpr ⟨is, ne_null_of_wellFormed formed⟩
  cases under with
  | first own made is =>
      obtain ⟨formedMet, meets⟩ := meetEntry_meets sound formed' made (formed.named own)
      exact .first own (present is formedMet) formedMet meets
  | second missing own made is =>
      obtain ⟨formedMet, meets⟩ := meetEntry_meets sound formed made (formed'.named own)
      exact .second missing own (present is formedMet) formedMet meets
  | neither missing missing' is => exact .neither missing missing' is

namespace MergesUnder

theorem get?_ne_null (under : MergesUnder reading banned first second named name) :
    named.get? name ≠ some .null := by
  intro null
  have absent : named.present? name = none := by rw [Members.present?, null]
  cases under with
  | first _ is => cases absent.symm.trans is
  | second _ _ is => cases absent.symm.trans is
  | neither _ _ is => cases null.symm.trans is

theorem not_present (is : named.get? name = none) : named.present? name ≠ some met := by
  simp [Members.present?, is]

theorem formed (under : MergesUnder reading banned first second named name)
    (found : named.present? name = some met) : WellFormed reading.deep banned met := by
  cases under with
  | first _ is formed => rwa [Option.some.inj (found.symm.trans is)]
  | second _ _ is formed => rwa [Option.some.inj (found.symm.trans is)]
  | neither _ _ is => exact absurd found (not_present is)

theorem known (under : MergesUnder reading banned first second named name)
    (found : named.present? name = some met) :
    (∃ entry, first.properties.present? name = some entry) ∨
      ∃ entry, second.properties.present? name = some entry := by
  cases under with
  | first own => exact Or.inl ⟨_, own⟩
  | second _ own => exact Or.inr ⟨_, own⟩
  | neither _ _ is => exact absurd found (not_present is)

theorem full (under : MergesUnder reading banned first second named name) (exactly : IsExact banned)
    (found : named.present? name = some met) {value : Json}
    (admitted : first.Admits reading name value) (admitted' : second.Admits reading name value) :
    accepts reading met value = true := by
  cases under with
  | first own is _ meets =>
      rw [Option.some.inj (found.symm.trans is)]
      exact meets.full exactly (admitted.named own) admitted'
  | second _ own is _ meets =>
      rw [Option.some.inj (found.symm.trans is)]
      exact meets.full exactly (admitted'.named own) admitted
  | neither _ _ is => exact absurd found (not_present is)

end MergesUnder

theorem brings_first (under : ∀ name, MergesUnder reading banned first second named name) :
    Brings reading first second named := by
  constructor
  · intro name entry own
    cases under name with
    | first own' is _ meets =>
        obtain rfl := Option.some.inj (own.symm.trans own')
        exact ⟨_, is, meets.own⟩
    | second missing => cases own.symm.trans missing
    | neither missing => cases own.symm.trans missing
  · intro name entry own missed
    cases under name with
    | first _ is _ meets => exact ⟨_, is, fun accepted => meets.additional accepted missed⟩
    | second missing => cases own.symm.trans missing
    | neither missing => cases own.symm.trans missing

theorem brings_second (under : ∀ name, MergesUnder reading banned first second named name) :
    Brings reading second first named := by
  constructor
  · intro name entry own
    cases under name with
    | first _ is _ meets =>
        exact ⟨_, is, fun accepted => by simpa [asks, own] using meets.named accepted⟩
    | second _ own' is _ meets =>
        obtain rfl := Option.some.inj (own.symm.trans own')
        exact ⟨_, is, meets.own⟩
    | neither _ missing => cases own.symm.trans missing
  · intro name entry own missed
    cases under name with
    | first own' => exact absurd (Or.inl ⟨_, own'⟩) missed
    | second _ _ is _ meets => exact ⟨_, is, fun accepted => meets.additional accepted missed⟩
    | neither _ missing => cases own.symm.trans missing

end names

theorem meetNamed_merges (sound : Sound reading banned recur)
    (formed : IsFormed reading.deep banned first) (formed' : IsFormed reading.deep banned second)
    {named : Members} (made : meetNamed recur first second = .ok named) :
    Merges reading banned first second named := by
  obtain ⟨distinct, found⟩ := get?_meetNamed made formed.distinct formed'.distinct
  have under (name : String) : MergesUnder reading banned first second named name :=
    mergesUnder_of_meetsUnder sound formed formed' (found name)
  exact ⟨distinct, (under _).get?_ne_null, (under _).formed, brings_first under, brings_second under,
    (under _).known, fun exactly _ _ _ found => (under _).full exactly found⟩

theorem Merges.swap {named : Members} (merges : Merges reading banned first second named) :
    Merges reading banned second first named :=
  ⟨merges.distinct, merges.set, merges.formed, merges.right, merges.left, fun is => (merges.known is).symm,
    fun exactly _ _ _ is admitted admitted' => merges.full exactly is admitted' admitted⟩

theorem covers_ofPatterns {pattern name : String} (matched : occurs pattern name = true)
    (missed : ¬space.Covers name) : ¬space.ofPatterns.Covers pattern := by
  rintro (⟨schema, found⟩ | ⟨other, schema, found, _⟩)
  · exact missed (Or.inr ⟨pattern, schema, found, matched⟩)
  · exact absurd found (by simp [ofPatterns, Members.present?])

variable {properties patterns : Members} {additional : Option Json}

theorem covers_of_merges (merged : Merges reading banned first second properties)
    (mergedPatterns : Merges reading banned first.ofPatterns second.ofPatterns patterns) {name : String}
    (covered : first.Covers name) : (PropertySpace.mk properties patterns additional).Covers name := by
  rcases covered with ⟨schema, found⟩ | ⟨pattern, schema, found, matched⟩
  · obtain ⟨met, is, -⟩ := merged.left.own found
    exact Or.inl ⟨met, is⟩
  · obtain ⟨met, is, -⟩ := mergedPatterns.left.own found
    exact Or.inr ⟨pattern, met, is, matched⟩

theorem covers_or_of_merges (merged : Merges reading banned first second properties)
    (mergedPatterns : Merges reading banned first.ofPatterns second.ofPatterns patterns) {name : String}
    (covered : (PropertySpace.mk properties patterns additional).Covers name) :
    first.Covers name ∨ second.Covers name := by
  rcases covered with ⟨met, is⟩ | ⟨pattern, met, is, matched⟩
  · rcases merged.known is with ⟨entry, found⟩ | ⟨entry, found⟩
    · exact Or.inl (Or.inl ⟨entry, found⟩)
    · exact Or.inr (Or.inl ⟨entry, found⟩)
  · rcases mergedPatterns.known is with ⟨entry, found⟩ | ⟨entry, found⟩
    · exact Or.inl (Or.inr ⟨pattern, entry, found, matched⟩)
    · exact Or.inr (Or.inr ⟨pattern, entry, found, matched⟩)

theorem admits_of_merges (merged : Merges reading banned first second properties)
    (mergedPatterns : Merges reading banned first.ofPatterns second.ofPatterns patterns)
    (narrow : ∀ value, asks reading additional value = true → asks reading first.additional value = true)
    {name : String} {value : Json}
    (admitted : (PropertySpace.mk properties patterns additional).Admits reading name value) :
    first.Admits reading name value := by
  refine ⟨fun {entry} found => ?_, fun {pattern entry} found matched => ?_, fun missed => ?_⟩
  · obtain ⟨met, is, accepted⟩ := merged.left.own found
    exact accepted (admitted.named is)
  · obtain ⟨met, is, accepted⟩ := mergedPatterns.left.own found
    exact accepted (admitted.matched is matched)
  · -- a name that only the other side covers has met the additional properties of this side
    by_cases covered : second.Covers name
    · rcases covered with ⟨entry, found⟩ | ⟨pattern, entry, found, matched⟩
      · obtain ⟨met, is, accepted⟩ := merged.right.additional found missed
        exact accepted (admitted.named is)
      · obtain ⟨met, is, accepted⟩ :=
          mergedPatterns.right.additional found (covers_ofPatterns matched missed)
        exact accepted (admitted.matched is matched)
    · refine narrow value (admitted.additional fun known => ?_)
      exact (covers_or_of_merges merged mergedPatterns known).elim missed covered

/-- A space that admits a name admits it as a pattern that occurs in it, if the additional properties
do not come in between. -/
theorem admits_ofPatterns {pattern name : String} {value : Json}
    (admitted : space.Admits reading name value) (matched : occurs pattern name = true)
    (plain : space.additional = none) : space.ofPatterns.Admits reading pattern value :=
  ⟨fun found => admitted.matched found matched,
    fun found => absurd found (by simp [ofPatterns, Members.present?]),
    fun _ => by simp [ofPatterns, asks, plain]⟩

theorem merges_of_admits (exactly : IsExact banned) (formed : IsSpace reading.deep banned first)
    (formed' : IsSpace reading.deep banned second)
    (merged : Merges reading banned first second properties)
    (mergedPatterns : Merges reading banned first.ofPatterns second.ofPatterns patterns)
    (full : ∀ value, asks reading first.additional value = true →
      asks reading second.additional value = true → asks reading additional value = true)
    {name : String} {value : Json} (admitted : first.Admits reading name value)
    (admitted' : second.Admits reading name value) :
    (PropertySpace.mk properties patterns additional).Admits reading name value := by
  refine ⟨fun {met} is => ?_, fun {pattern met} is matched => ?_, fun missed => ?_⟩
  · exact merged.full exactly is admitted admitted'
  · rcases exactly with banned | banned
    · rcases mergedPatterns.known is with ⟨entry, found⟩ | ⟨entry, found⟩
      · exact absurd (found.symm.trans (formed.noPatterns banned pattern)) (by simp)
      · exact absurd (found.symm.trans (formed'.noPatterns banned pattern)) (by simp)
    · exact mergedPatterns.full (Or.inr banned) is
        (admits_ofPatterns admitted matched (formed.noAdditional banned))
        (admits_ofPatterns admitted' matched (formed'.noAdditional banned))
  · refine full value (admitted.additional fun covered => ?_) (admitted'.additional fun covered => ?_)
    · exact missed (covers_of_merges merged mergedPatterns covered)
    · exact missed (covers_of_merges merged.swap mergedPatterns.swap covered)

end PropertySpace

end SchemaMerge.Schema
