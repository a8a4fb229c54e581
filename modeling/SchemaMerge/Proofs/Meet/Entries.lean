import SchemaMerge.Proofs.Meet.Basic

namespace SchemaMerge.Schema

theorem matching_eq_ok {name : String} {patterns : Members} {schemas : List Json}
    (made : matching name patterns = .ok schemas) :
    schemas = (patterns.filter (fun entry => occurs entry.1 name)).map Prod.snd := by
  induction patterns generalizing schemas with
  | nil => exact (Except.ok.inj made).symm
  | cons entry rest ih =>
      obtain ⟨found, tested, made⟩ := bind_eq_ok.mp made
      obtain ⟨others, matched, made⟩ := bind_eq_ok.mp made
      have answer : occurs entry.1 name = found := by simp [occurs, tested]
      rw [List.filter_cons, answer, ← Except.ok.inj made, ih matched]
      split <;> simp_all

def schemasFor (patterns : Members) (name : String) : List Json :=
  (patterns.filter fun entry => occurs entry.1 name).map Prod.snd

/-- What an entry meets on a side that has no entry of its name: the schemas of the patterns that occur
in the name, one after another; the additional properties if there is no such pattern; and nothing if
these are absent too. -/
inductive MeetsRest (recur : Meeting) (schemas : List Json) (additional : Option Json) (entry : Json) :
    Json → Prop
  | matched {met : Json} (nonempty : schemas ≠ []) (made : schemas.foldlM recur entry = .ok met) :
      MeetsRest recur schemas additional entry met
  | additional {other met : Json} (empty : schemas = []) (found : additional = some other)
      (made : recur entry other = .ok met) : MeetsRest recur schemas additional entry met
  | alone (empty : schemas = []) (missing : additional = none) :
      MeetsRest recur schemas additional entry entry

namespace PropertySpace

variable {recur : Meeting} {space first second : PropertySpace}

theorem meetEntry_eq_ok {name : String} {entry met : Json}
    (made : meetEntry recur space name entry = .ok met) :
    (∃ other, space.properties.present? name = some other ∧ recur entry other = .ok met) ∨
      (space.properties.present? name = none ∧
        MeetsRest recur (schemasFor space.patterns name) space.additional entry met) := by
  unfold meetEntry at made
  split at made
  · next other found => exact Or.inl ⟨other, found, made⟩
  · next missing =>
    apply Or.inr
    refine ⟨missing, ?_⟩
    obtain ⟨schemas, listed, made⟩ := bind_eq_ok.mp made
    rw [schemasFor, ← matching_eq_ok listed]
    split at made
    · next absent =>
      rw [← pure_eq_ok.mp made]
      exact .alone rfl absent
    · next other found => exact .additional rfl found made
    · next alone single =>
      apply MeetsRest.matched _ made
      rintro rfl
      cases found : space.additional with
      | none => exact alone rfl found
      | some other => exact single other rfl found

theorem meetEntries_cons_ok {name : String} {entry : Json} {merged rest out : Members}
    (set : entry ≠ .null)
    (made : meetEntries recur space merged ((name, entry) :: rest) = .ok out) :
    (merged.contains name = true ∧ meetEntries recur space merged rest = .ok out) ∨
      (merged.contains name = false ∧ ∃ met, meetEntry recur space name entry = .ok met ∧
        meetEntries recur space (merged ++ [(name, met)]) rest = .ok out) := by
  rw [meetEntries.eq_3 _ _ _ _ _ _ (fun null => set null)] at made
  split at made
  · next old => exact Or.inl ⟨old, made⟩
  · next new =>
    obtain ⟨met, done, made⟩ := bind_eq_ok.mp made
    exact Or.inr ⟨Bool.eq_false_of_not_eq_true new, met, done, made⟩

def Enters (recur : Meeting) (space : PropertySpace) (entry result : String × Json) : Prop :=
  result.1 = entry.1 ∧ meetEntry recur space entry.1 entry.2 = .ok result.2

theorem meetEntries_eq_ok {merged entries out : Members}
    (made : meetEntries recur space merged entries = .ok out) (distinct : entries.Distinct) :
    ∃ added, out = merged ++ added ∧
      List.Forall₂ (Enters recur space)
        (entries.filter fun entry => entry.2 ≠ .null && !merged.contains entry.1) added := by
  induction entries generalizing merged with
  | nil => exact ⟨[], by simpa using (pure_eq_ok.mp made).symm, .nil⟩
  | cons entry rest ih =>
      obtain ⟨name, entry⟩ := entry
      obtain ⟨fresh, distinctRest⟩ := (Members.distinct_cons _ _).mp distinct
      by_cases null : entry = .null
      · subst null
        simpa using ih made distinctRest
      · rcases meetEntries_cons_ok null made with ⟨old, made⟩ | ⟨new, met, done, made⟩
        · simpa [null, old] using ih made distinctRest
        · obtain ⟨added, rfl, related⟩ := ih made distinctRest
          have apart : rest.filter (fun entry => entry.2 ≠ .null &&
                !(merged ++ [(name, met)]).contains entry.1) =
              rest.filter fun entry => entry.2 ≠ .null && !merged.contains entry.1 := by
            refine List.filter_congr fun other inside => ?_
            have differs := fresh other inside
            simp [Members.contains, Members.get?_append, Members.get?_cons, differs]
          refine ⟨(name, met) :: added, by simp, ?_⟩
          rw [List.filter_cons_of_pos (by simp [null, new]), ← apart]
          exact .cons ⟨rfl, done⟩ related

theorem get?_of_enters {entries results : Members}
    (related : List.Forall₂ (Enters recur space) entries results) (name : String) :
    Option.Rel (fun entry met => meetEntry recur space name entry = .ok met)
      (entries.get? name) (results.get? name) := by
  induction related with
  | nil => exact .none
  | cons head _ ih =>
      obtain ⟨key, done⟩ := head
      rw [Members.get?_cons, Members.get?_cons, key]
      split
      · next same =>
        subst same
        exact .some done
      · exact ih

theorem keys_of_enters {entries results : Members}
    (related : List.Forall₂ (Enters recur space) entries results) :
    results.map Prod.fst = entries.map Prod.fst := by
  induction related with
  | nil => rfl
  | cons head _ ih => rw [List.map_cons, List.map_cons, head.1, ih]

theorem present?_eq_filter (entries : Members) (name : String) :
    entries.present? name = (entries.get? name).filter (fun entry => entry ≠ .null) := by
  unfold Members.present?
  cases entries.get? name with
  | none => rfl
  | some entry => cases entry <;> rfl

/-- The entry that is found under a name after a pass over one side's entries. -/
theorem get?_meetEntries {merged entries out : Members}
    (made : meetEntries recur space merged entries = .ok out) (distinct : entries.Distinct)
    (distinctMerged : merged.Distinct) :
    out.Distinct ∧ ∀ name,
      (merged.get? name = none ∧ Option.Rel (fun entry met => meetEntry recur space name entry = .ok met)
        (entries.present? name) (out.get? name)) ∨
      ((merged.get? name).isSome = true ∧ out.get? name = merged.get? name) := by
  obtain ⟨added, rfl, related⟩ := meetEntries_eq_ok made distinct
  have found := get?_of_enters related
  simp only [Members.get?_filter distinct] at found
  constructor
  · have apart : List.Disjoint (merged.map Prod.fst) (added.map Prod.fst) := by
      rw [keys_of_enters related]
      intro key old new
      obtain ⟨entry, inside, same⟩ := List.mem_map.mp new
      obtain ⟨member, inside', same'⟩ := List.mem_map.mp old
      have known : merged.get? entry.1 = some member.2 :=
        Members.get?_of_mem distinctMerged (by rw [same, ← same']; exact inside')
      simp [Members.contains, known] at inside
    have kept := Members.distinct_sublist distinct
      (List.filter_sublist (p := fun entry => entry.2 ≠ .null && !merged.contains entry.1))
    rw [Members.Distinct, ← keys_of_enters related] at kept
    rw [Members.Distinct, List.map_append]
    exact List.Nodup.append distinctMerged kept apart
  · intro name
    have found := found name
    rw [Members.get?_append]
    cases old : merged.get? name with
    | none =>
        refine Or.inl ⟨rfl, ?_⟩
        rw [present?_eq_filter]
        simpa [Members.contains, old] using found
    | some value => exact Or.inr ⟨rfl, by simp⟩

/-- What is found under a name once the entries of two sides are merged. The entry of the first side
has met the second side; an entry that only the second side has, has met the first side; and a name that
neither side has stands for nothing. -/
inductive MeetsUnder (recur : Meeting) (first second : PropertySpace) (name : String)
    (result : Option Json) : Prop
  | first {entry met : Json} (own : first.properties.present? name = some entry)
      (made : meetEntry recur second name entry = .ok met) (is : result = some met)
  | second {entry met : Json} (missing : first.properties.present? name = none)
      (own : second.properties.present? name = some entry)
      (made : meetEntry recur first name entry = .ok met) (is : result = some met)
  | neither (missing : first.properties.present? name = none)
      (missing' : second.properties.present? name = none) (is : result = none)

theorem get?_meetNamed {named : Members} (made : meetNamed recur first second = .ok named)
    (distinct : first.properties.Distinct) (distinct' : second.properties.Distinct) :
    named.Distinct ∧ ∀ name, MeetsUnder recur first second name (named.get? name) := by
  obtain ⟨merged, left, right⟩ := bind_eq_ok.mp made
  obtain ⟨distinctMerged, foundLeft⟩ := get?_meetEntries left distinct (by simp [Members.Distinct])
  obtain ⟨distinctNamed, foundRight⟩ := get?_meetEntries right distinct' distinctMerged
  refine ⟨distinctNamed, fun name => ?_⟩
  rcases foundLeft name with ⟨-, related⟩ | ⟨wrong, -⟩
  · generalize own : first.properties.present? name = entry at related
    rcases foundRight name with ⟨new, related'⟩ | ⟨old, kept⟩
    · rw [new] at related
      cases related
      generalize own' : second.properties.present? name = other at related'
      generalize named.get? name = result at related'
      cases related' with
      | none => exact .neither own own' rfl
      | some done => exact .second own own' done rfl
    · rw [kept]
      generalize merged.get? name = result at related old
      cases related with
      | none => exact absurd old (by simp)
      | some done => exact .first own done rfl
  · exact absurd wrong (by simp)

end PropertySpace

end SchemaMerge.Schema
