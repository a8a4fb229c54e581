import SchemaMerge.Proofs.Transform.Settled

namespace SchemaMerge.OpenApi

open Schema

variable {step : Step} {keyword : String} {final : List Json → Prop} {place inner : Place}

theorem entry?_unique {name : String} {value other : Json} {inner' : Place}
    (stands : place.entry? name value = some inner) (stands' : place.entry? name other = some inner') :
    inner = inner' := by
  cases place with
  | named entry =>
      simp only [Place.entry?, Option.ite_none_left_eq_some, Option.some.injEq] at stands stands'
      rw [← stands.2, ← stands'.2]
  | branches =>
      simp only [Place.entry?, Option.ite_none_left_eq_some, Option.some.injEq] at stands stands'
      rw [← stands.2, ← stands'.2]
  | _ => cases stands

theorem Visits.yields {entry result : String × Json} (visits : Visits step place entry result)
    (stands : place.entry? result.1 result.2 = some inner) :
    place.entry? entry.1 entry.2 = some inner ∧ Yields (visit step inner entry.2) result.2 := by
  cases before : place.entry? entry.1 entry.2 with
  | none =>
      rw [visits.name, visits.skipped before] at stands
      exact absurd (before.symm.trans stands) (by simp)
  | some inner' =>
      rw [visits.name] at stands
      obtain rfl := entry?_unique stands before
      exact ⟨rfl, visits.visited before⟩

theorem yields_of_mem_visited {kind : Kind} {members visited : Members} (distinct : visited.Distinct)
    (ran : Yields (visitedFields step kind members) visited) {name : String} {value : Json}
    (present : (name, value) ∈ visited) (field : kind.field? name = some inner) :
    ∃ argument, (name, argument) ∈ members ∧ Yields (visit step inner argument) value := by
  have found := Members.get?_of_mem distinct present
  rcases get?_visitedFields ran name with
    ⟨absent | plain, kept⟩ | ⟨argument, inner', value', is, field', ran, is'⟩
  · rw [kept, absent] at found
    cases found
  · exact absurd (plain.symm.trans field) (by simp)
  · obtain rfl := Option.some.inj (field.symm.trans field')
    obtain rfl := Option.some.inj (found.symm.trans is')
    exact ⟨argument, Members.mem_of_get? is, ran⟩

theorem fields_within {law : Members → Prop} {kind : Kind} {members visited : Members} (distinct : visited.Distinct)
    (ran : Yields (visitedFields step kind members) visited)
    (inside : ∀ member ∈ members, ∀ inner, kind.field? member.1 = some inner →
      ∀ {part}, Yields (visit step inner member.2) part → Everywhere law inner part) :
    ∀ member ∈ visited, ∀ inner, kind.field? member.1 = some inner →
      Everywhere law inner member.2 := by
  intro member present inner field
  obtain ⟨argument, own, ran⟩ := yields_of_mem_visited distinct ran present field
  exact inside _ own inner field ran

/-- A step makes schemas in which a law holds everywhere, out of schemas in whose parts it does. -/
def Makes (step : Step) (law : Members → Prop) : Prop :=
  ∀ {visited result}, visited.Distinct → Obeys (IsWithin law) visited → Yields (step visited) result →
    isSchema result = true ∧ Everywhere law (.one .schema) result

theorem finish_makes {law : Members → Prop} (makes : Makes step law) {kind : Kind}
    (holds : place.kind? = some kind) {visited : Members} {result : Json} (distinct : visited.Distinct)
    (fields : ∀ member ∈ visited, ∀ inner, kind.field? member.1 = some inner →
      Everywhere law inner member.2)
    (made : Yields (finish step kind visited) result) : Everywhere law place result := by
  unfold finish at made
  split at made
  · next schema =>
    subst schema
    obtain ⟨shaped, every⟩ := makes distinct fields made
    refine (everywhere_schema holds ?_).mpr every
    rintro items rfl
    exact absurd shaped (by simp [isSchema])
  · next other =>
    rw [← yields_pure made]
    exact (everywhere_object holds).mpr ⟨fun schema => absurd schema other, fields⟩

theorem visit_makes {law : Members → Prop} (makes : Makes step law) (value : Json) {place : Place} :
    ∀ {result}, value.noRepeats = true → Yields (visit step place value) result →
      Everywhere law place result := by
  induction place, value using walk_induction with
  | @fields place kind members holds ih =>
      intro result clean made
      obtain ⟨distinct, cleanAll⟩ := Json.noRepeats_object.mp clean
      obtain ⟨visited, ran, made⟩ := visit_object_yields holds made
      have distinctVisited := distinct_runFields ran distinct
      have fields := fields_within distinctVisited ran fun member present inner field =>
        ih member present inner field (cleanAll member present)
      exact finish_makes makes holds distinctVisited fields made
  | @entries place entries plain ih =>
      intro result clean made
      obtain ⟨-, cleanAll⟩ := Json.noRepeats_object.mp clean
      rw [visit, plain] at made
      obtain ⟨results, ran, made⟩ := yields_bind made
      rw [← yields_pure made, everywhere_entries plain]
      intro result present inner stands
      obtain ⟨entry, own, visits⟩ := exists_of_mem_right (visitEntries_yields ran) present
      obtain ⟨before, ran⟩ := visits.yields stands
      exact ih entry own inner before (cleanAll entry own) ran
  | @items place items ih =>
      intro result clean made
      rw [visit] at made
      split at made
      · next inner member =>
        obtain ⟨results, ran, made⟩ := yields_bind made
        rw [← yields_pure made, everywhere_array]
        intro inner' member' result present
        obtain rfl := Option.some.inj (member.symm.trans member')
        obtain ⟨item, own, ran⟩ := exists_of_mem_right (visitItems_yields ran) present
        exact ih inner member item own (Json.noRepeats_array.mp clean item own) ran
      · next single =>
        -- a list whose place has no members is passed on unread
        rw [pass_yields made, everywhere_array]
        intro inner member
        exact absurd (single.symm.trans member) (by simp)
  | leaf plain single =>
      intro result clean made
      rw [visit_pass plain single made]
      exact everywhere_of_leaf plain single

theorem visit_settles (settles : Settles keyword final step) (value : Json) :
    ∀ {place result}, value.noRepeats = true → Yields (visit step place value) result →
      Everywhere (Remains keyword final) place result := by
  refine visit_makes ?_ value
  intro visited result distinct within made
  obtain ⟨shaped, every⟩ := settles distinct within made
  exact ⟨shaped, every⟩

theorem document_yields {document result : Json}
    (made : Yields (visit step (.one .document) document) result) :
    ∃ members, result = .object members := by
  cases document with
  | object members =>
      have holds : (Place.one .document).kind? = some .document := rfl
      obtain ⟨visited, -, made⟩ := visit_object_yields holds made
      exact ⟨visited, (yields_pure made).symm⟩
  | _ =>
      rw [visit] at made
      exact (not_yields_throw made).elim
      all_goals simp

theorem visit_again (settles : Settles keyword final step) (leaves : Leaves step (Remains keyword final))
    {document result : Json} (clean : document.noRepeats = true)
    (made : (visit step (.one .document) document).outcome.1 = .ok result) :
    (visit step (.one .document) result).outcome.1 = .ok result := by
  have yields := yields_of_outcome made
  have every := visit_settles settles document clean yields
  have returns := visit_returns leaves result (.one .document)
    (Or.inr ⟨rfl, document_yields yields⟩) every
  exact outcome_of_returns returns

theorem leaves_allOf (onlySingle : Bool) : Leaves (Step.allOf onlySingle)
    (Remains "allOf" fun schemas => onlySingle = true ∧ 2 ≤ schemas.length) := by
  intro schema remains
  unfold Step.allOf
  split
  · exact returns_pure _
  · next found =>
    obtain ⟨-, several⟩ := remains [] (Members.mem_of_get? found)
    cases several
  · next schemas _ found =>
    obtain ⟨single, several⟩ := remains schemas (Members.mem_of_get? found)
    rw [if_pos (by simp only [single, Bool.true_and, decide_eq_true_eq]; omega)]
    exact returns_pure _
  · exact returns_bind (returns_note _) (returns_pure _)

theorem leaves_alternatives : Leaves (Step.alternatives keyword) (Remains keyword (· = [])) := by
  intro schema remains
  unfold Step.alternatives
  split
  · exact returns_pure _
  · exact returns_bind (returns_note _) (returns_pure _)
  · next found =>
    have empty := remains _ (Members.mem_of_get? found)
    cases empty
  · next schemas several _ found =>
    exact absurd (remains schemas (Members.mem_of_get? found)) (by rintro rfl; exact several rfl)
  · exact returns_bind (returns_note _) (returns_pure _)

section keeping

variable {members visited : Members} {part value result : Json} {path : Path}

theorem yields_of_returns {action : Noted Json} (returns : Returns action value)
    (made : Yields action result) : result = value := by
  obtain ⟨log, rest, ran⟩ := made
  obtain ⟨_, ended⟩ := returns log
  exact Except.ok.inj (Prod.mk.inj (ran.symm.trans ended)).1

theorem exists_visited {kind : Kind} (distinct : members.Distinct)
    (ran : Yields (visitedFields step kind members) visited) {name : String}
    (present : (name, value) ∈ members) (field : kind.field? name = some inner) :
    ∃ part, (name, part) ∈ visited ∧ Yields (visit step inner value) part := by
  have found := Members.get?_of_mem distinct present
  rcases get?_visitedFields ran name with
    ⟨absent | plain, -⟩ | ⟨argument, inner', part, is, field', ran, is'⟩
  · exact absurd (absent.symm.trans found) (by simp)
  · exact absurd (plain.symm.trans field) (by simp)
  · obtain rfl := Option.some.inj (field.symm.trans field')
    obtain rfl := Option.some.inj (found.symm.trans is)
    exact ⟨part, Members.mem_of_get? is', ran⟩

theorem remains_visited (shapes : Shapes step) (distinct : members.Distinct)
    (ran : Yields (visitedFields step .schema members) visited)
    (remains : Remains keyword (· = []) members) : Remains keyword (· = []) visited := by
  intro results present
  have found := Members.get?_of_mem (distinct_runFields ran distinct) present
  obtain ⟨items, before, same⟩ := get?_visited_array shapes ran found
  obtain rfl : items = [] := remains items (Members.mem_of_get? before)
  exact List.length_eq_zero_iff.mp same.symm

theorem schema_yields (holds : place.kind? = some .schema) (distinct : members.Distinct)
    (remains : Remains keyword (· = []) members)
    (made : Yields (visit (Step.alternatives keyword) place (.object members)) result) :
    ∃ visited, Yields (visitedFields (Step.alternatives keyword) .schema members) visited ∧
      result = .object visited := by
  obtain ⟨visited, ran, made⟩ := visit_object_yields holds made
  have remains' := remains_visited (shapes_alternatives keyword) distinct ran remains
  exact ⟨visited, ran, yields_of_returns (leaves_alternatives visited remains') made⟩

/-- The schemas that a path leads through have only empty lists under the keyword. -/
def Spares (keyword : String) (place : Place) (value : Json) (path : Path) : Prop :=
  ∀ before after schema, before ++ after = path → after ≠ [] → SchemaAt place value before schema →
    Remains keyword (· = []) schema

namespace Spares

variable {name : String} {index : Nat} {entries : Members} {items : List Json}

theorem field {kind : Kind} (spares : Spares keyword place (.object members) (.name name :: path))
    (holds : place.kind? = some kind) (present : (name, value) ∈ members)
    (field : kind.field? name = some inner) : Spares keyword inner value path := by
  intro before after schema is rest reached
  obtain ⟨final, shaped, reaches⟩ := reached
  exact spares (.name name :: before) after schema (by rw [← is]; rfl) rest
    ⟨final, shaped, .field holds present field reaches⟩

theorem entry (spares : Spares keyword place (.object entries) (.name name :: path))
    (plain : place.kind? = none) (present : (name, value) ∈ entries)
    (stands : place.entry? name value = some inner) : Spares keyword inner value path := by
  intro before after schema is rest reached
  obtain ⟨final, shaped, reaches⟩ := reached
  exact spares (.name name :: before) after schema (by rw [← is]; rfl) rest
    ⟨final, shaped, .entry plain present stands reaches⟩

theorem item (spares : Spares keyword place (.array items) (.index index :: path))
    (member : place.member? = some inner) (present : items[index]? = some value) :
    Spares keyword inner value path := by
  intro before after schema is rest reached
  obtain ⟨final, shaped, reaches⟩ := reached
  exact spares (.index index :: before) after schema (by rw [← is]; rfl) rest
    ⟨final, shaped, .item member present reaches⟩

end Spares

theorem entry?_of_reaches {name : String} (stands : place.entry? name value = some inner)
    {final : Place} {kept : Members} (reaches : Reaches inner part path final (.object kept)) :
    place.entry? name part = some inner := by
  have some : part ≠ .null := by
    rintro rfl
    cases reaches
  cases place with
  | named entry => exact stands
  | branches =>
      simp only [Place.entry?, Option.ite_none_left_eq_some] at stands ⊢
      exact ⟨some, stands.2⟩
  | _ => cases stands

theorem exists_getElem? {α β : Type} {relation : α → β → Prop} {items : List α} {others : List β}
    (related : List.Forall₂ relation items others) {index : Nat} {item : α}
    (present : items[index]? = some item) :
    ∃ other, others[index]? = some other ∧ relation item other := by
  induction related generalizing index with
  | nil => cases present
  | cons head _ ih =>
      cases index with
      | zero =>
          obtain rfl := Option.some.inj present
          exact ⟨_, rfl, head⟩
      | succ index => exact ih present

theorem schema_keeps_empty (alternative : keyword ∈ alternativeKeywords)
    (shaped : place.kind? = some .schema) (distinct : members.Distinct)
    (empty : (keyword, .array []) ∈ members)
    (made : Yields (visit (Step.alternatives keyword) place (.object members)) result) :
    ∃ kept, result = .object kept ∧ (keyword, .array []) ∈ kept := by
  have remains : Remains keyword (· = []) members := by
    intro items present
    have found := (Members.get?_of_mem distinct empty).symm.trans
      (Members.get?_of_mem distinct present)
    exact (Json.array.inj (Option.some.inj found)).symm
  obtain ⟨visited, ran, rfl⟩ := schema_yields shaped distinct remains made
  have listed := field?_of_isFinal (isFinal_alternatives alternative)
  obtain ⟨argument, present, ran⟩ := exists_visited distinct ran empty listed
  refine ⟨visited, rfl, ?_⟩
  rw [visit] at ran
  obtain ⟨results, ran, made⟩ := yields_bind ran
  rw [visitItems] at ran
  rw [← yields_pure made, ← yields_pure ran] at present
  exact present

theorem spared_yields {kind : Kind} {name : String}
    (spares : Spares keyword place (.object members) (.name name :: path))
    (holds : place.kind? = some kind) (distinct : members.Distinct)
    (made : Yields (visit (Step.alternatives keyword) place (.object members)) result) :
    ∃ visited, Yields (visitedFields (Step.alternatives keyword) kind members) visited ∧
      result = .object visited := by
  by_cases schema : kind = .schema
  · subst schema
    refine schema_yields holds distinct ?_ made
    exact spares [] (.name name :: path) members rfl (by simp) ⟨place, holds, .here place _⟩
  · obtain ⟨visited, ran, made⟩ := visit_object_yields holds made
    rw [finish, if_neg schema] at made
    exact ⟨visited, ran, (yields_pure made).symm⟩

theorem visit_keeps_empty (alternative : keyword ∈ alternativeKeywords) {final : Place}
    (reaches : Reaches place value path final part) (is : part = .object members)
    (shaped : final.kind? = some .schema) (empty : (keyword, .array []) ∈ members)
    (spares : Spares keyword place value path) :
    ∀ {result}, value.noRepeats = true → Yields (visit (Step.alternatives keyword) place value) result →
      ∃ kept, Reaches place result path final (.object kept) ∧ (keyword, .array []) ∈ kept := by
  induction reaches with
  | here place value =>
      intro result clean made
      subst is
      obtain ⟨distinct, -⟩ := Json.noRepeats_object.mp clean
      obtain ⟨kept, rfl, empty⟩ := schema_keeps_empty alternative shaped distinct empty made
      exact ⟨kept, .here place _, empty⟩
  | @field place inner final kind others name argument part path holds present field _ ih =>
      intro result clean made
      obtain ⟨distinct, cleanAll⟩ := Json.noRepeats_object.mp clean
      obtain ⟨visited, ran, rfl⟩ := spared_yields spares holds distinct made
      obtain ⟨part', present', ran⟩ := exists_visited distinct ran present field
      obtain ⟨kept, reaches, empty⟩ := ih is shaped (spares.field holds present field)
        (cleanAll _ present) ran
      exact ⟨kept, .field holds present' field reaches, empty⟩
  | @entry place inner final entries name argument part path plain present stands _ ih =>
      intro result clean made
      obtain ⟨distinct, cleanAll⟩ := Json.noRepeats_object.mp clean
      rw [visit, plain] at made
      obtain ⟨results, ran, made⟩ := yields_bind made
      obtain ⟨result', present', visits⟩ := exists_of_mem_right (visitEntries_yields ran).flip present
      obtain ⟨kept, reaches, empty⟩ := ih is shaped (spares.entry plain present stands)
        (cleanAll _ present) (visits.visited stands)
      rw [← yields_pure made]
      obtain ⟨name', part'⟩ := result'
      obtain rfl : name' = name := visits.name
      exact ⟨kept, .entry plain present' (entry?_of_reaches stands reaches) reaches, empty⟩
  | @item place inner final items index item part path member present _ ih =>
      intro result clean made
      rw [visit, member] at made
      obtain ⟨results, ran, made⟩ := yields_bind made
      obtain ⟨result', present', ran⟩ := exists_getElem? (visitItems_yields ran) present
      obtain ⟨kept, reaches, empty⟩ := ih is shaped (spares.item member present)
        (Json.noRepeats_array.mp clean _ (List.mem_of_getElem? present)) ran
      rw [← yields_pure made]
      exact ⟨kept, .item member present' reaches, empty⟩

end keeping

/-- Once `allOf` has been merged, no list is left under it, or only lists of several schemas if these
are not to be merged, and merging a document once more changes nothing. -/
theorem visit_allOf_normal (onlySingle : Bool) {value : Json} (clean : value.noRepeats = true) :
    (∀ result, (visit (Step.allOf onlySingle) (.one .schema) value).outcome.1 = .ok result →
      ∀ path schema schemas, SchemaAt (.one .schema) result path schema →
        ("allOf", .array schemas) ∈ schema → onlySingle = true ∧ 2 ≤ schemas.length) ∧
    (∀ result, (visit (Step.allOf onlySingle) (.one .document) value).outcome.1 = .ok result →
      (visit (Step.allOf onlySingle) (.one .document) result).outcome.1 = .ok result) := by
  constructor
  · intro result made path schema schemas reached present
    have every := visit_settles (settles_allOf onlySingle) value clean (yields_of_outcome made)
    exact every path schema reached schemas present
  · intro result made
    exact visit_again (settles_allOf onlySingle) (leaves_allOf onlySingle) clean made

def petDocument : Json :=
  .object [("components", .object [("schemas", .object [("Pet", .object [("allOf", .array [
    .object [("properties", .object [("id",
      .object [("allOf", .array [.object [("type", .string "string")]])])])],
    .object [("properties", .object [("id", .object [("minLength", .number (.int 1))])])]])])])])]

def mergedPetDocument : Json :=
  .object [("components", .object [("schemas", .object [("Pet", .object [("properties", .object [("id",
    .object [("type", .string "string"), ("minLength", .number (.int 1))])])])])])]

theorem petDocument_merges :
    petDocument.noRepeats = true ∧
      (visit (Step.allOf false) (.one .document) petDocument).outcome.1 = .ok mergedPetDocument ∧
      (visit (Step.allOf false) (.one .document) mergedPetDocument).outcome.1 = .ok mergedPetDocument := by
  have clean : petDocument.noRepeats = true := by decide
  have made : (visit (Step.allOf false) (.one .document) petDocument).outcome.1 =
      .ok mergedPetDocument := by decide +kernel
  exact ⟨clean, made, (visit_allOf_normal false clean).2 _ made⟩

/-- Once single alternatives have been merged, only empty lists are left under their keyword, and
merging a document once more changes nothing. An empty list stays in its place, if the schemas on the
way to it hold no alternatives. -/
theorem visit_alternatives_normal (alternative : keyword ∈ alternativeKeywords) {value : Json}
    (clean : value.noRepeats = true) :
    (∀ result, (visit (Step.alternatives keyword) (.one .schema) value).outcome.1 = .ok result →
      ∀ path schema schemas, SchemaAt (.one .schema) result path schema →
        (keyword, .array schemas) ∈ schema → schemas = []) ∧
    (∀ result, (visit (Step.alternatives keyword) (.one .document) value).outcome.1 = .ok result →
      (visit (Step.alternatives keyword) (.one .document) result).outcome.1 = .ok result) ∧
    ∀ result, (visit (Step.alternatives keyword) (.one .schema) value).outcome.1 = .ok result →
      ∀ path schema, SchemaAt (.one .schema) value path schema → (keyword, .array []) ∈ schema →
        Spares keyword (.one .schema) value path →
        ∃ kept, SchemaAt (.one .schema) result path kept ∧ (keyword, .array []) ∈ kept := by
  refine ⟨?_, ?_, ?_⟩
  · intro result made path schema schemas reached present
    have every := visit_settles (settles_alternatives alternative) value clean (yields_of_outcome made)
    exact every path schema reached schemas present
  · intro result made
    exact visit_again (settles_alternatives alternative) leaves_alternatives clean made
  · intro result made path schema reached empty spares
    obtain ⟨final, shaped, reaches⟩ := reached
    obtain ⟨kept, reaches, empty⟩ :=
      visit_keeps_empty alternative reaches rfl shaped empty spares clean (yields_of_outcome made)
    exact ⟨kept, ⟨final, shaped, reaches⟩, empty⟩

def tagSchema : Json :=
  .object [("items", .object [("anyOf", .array [.object [("type", .string "string")]])]),
    ("not", .object [("anyOf", .array [])])]

def mergedTagSchema : Json :=
  .object [("items", .object [("type", .string "string")]), ("not", .object [("anyOf", .array [])])]

theorem tagSchema_keeps_empty :
    ("anyOf" ∈ alternativeKeywords ∧ tagSchema.noRepeats = true) ∧
      (visit (Step.alternatives "anyOf") (.one .schema) tagSchema).outcome.1 = .ok mergedTagSchema ∧
      ∃ kept, SchemaAt (.one .schema) mergedTagSchema [.name "not"] kept ∧
        ("anyOf", .array []) ∈ kept := by
  have alternative : "anyOf" ∈ alternativeKeywords := by decide
  have clean : tagSchema.noRepeats = true := by decide
  have made : (visit (Step.alternatives "anyOf") (.one .schema) tagSchema).outcome.1 =
      .ok mergedTagSchema := by decide +kernel
  have reached : SchemaAt (.one .schema) tagSchema [.name "not"] [("anyOf", .array [])] :=
    ⟨.branch false, rfl, .field rfl (by simp) rfl (.here _ _)⟩
  have spares : Spares "anyOf" (.one .schema) tagSchema [.name "not"] := by
    intro before after schema is rest passed
    obtain ⟨final, -, reaches⟩ := passed
    cases before with
    | cons turn turns =>
        obtain ⟨-, none⟩ := List.cons.inj is
        exact absurd (List.append_eq_nil_iff.mp none).2 rest
    | nil =>
        cases reaches
        intro items present
        simp at present
  exact ⟨⟨alternative, clean⟩, made,
    (visit_alternatives_normal alternative clean).2.2 _ made _ _ reached (by simp) spares⟩

end SchemaMerge.OpenApi
