import SchemaMerge.Proofs.Validity.WellFormed
import SchemaMerge.Proofs.Meet.Kept

namespace SchemaMerge.Schema

namespace Form

def isString : Json → Bool
  | .string _ => true
  | _ => false

def isArray : Json → Bool
  | .array _ => true
  | _ => false

def basicTypes : List String :=
  ["null", "boolean", "object", "array", "number", "string", "integer"]

def isTypeName : Json → Bool
  | .string name => basicTypes.contains name
  | _ => false

def isType : Json → Bool
  | .array names => !names.isEmpty && names.all isTypeName && decide names.Nodup
  | name => isTypeName name

def isNames : Json → Bool
  | .array names => names.all isString && decide names.Nodup
  | _ => false

def isEntriesOfNames : Json → Bool
  | .object entries => entries.all fun entry => isNames entry.2
  | _ => false

def isPositive : Json → Bool
  | .number number => (Number.int 0).lt number
  | _ => false

def isSize : Json → Bool
  | .number number => number.isIntegral && (Number.int 0).le number
  | _ => false

def isSchemas : Json → Bool
  | .array schemas => !schemas.isEmpty && schemas.all isSchema
  | _ => false

def isPattern (pattern : String) : Bool :=
  match Pattern.ofText pattern.toList with
  | .ok _ => true
  | .error _ => false

end Form

open Form

def fits (keyword : String) (argument : Json) : Bool :=
  match keyword with
  | "type" => isType argument
  | "required" => isNames argument
  | "dependentRequired" => isEntriesOfNames argument
  | "maximum" | "minimum" | "exclusiveMaximum" | "exclusiveMinimum" => argument.isNumber
  | "maxLength" | "minLength" | "maxItems" | "minItems" | "maxProperties" | "minProperties" =>
    isSize argument
  | "multipleOf" => isPositive argument
  | "allOf" => isSchemas argument
  | "enum" | "examples" => isArray argument
  | "title" | "description" => isString argument
  | "readOnly" | "writeOnly" | "uniqueItems" | "deprecated" => argument.isBool
  | "const" | "default" | "example" => true
  | "pattern" => false
  | _ => argument ≠ .null

/-- The keywords under which schemas are to be proper themselves. -/
def nesting (keyword : String) : Shape :=
  match keyword with
  | "anyOf" | "oneOf" => .schemas
  | "properties" | "patternProperties" => .entries
  | "additionalProperties" | "propertyNames" => .schema
  | _ => .leaf

/-- The names of entries are free, but for those that are patterns. -/
def areNamed (keyword : String) (entries : Members) : Bool :=
  keyword ≠ "patternProperties" || entries.all fun entry => isPattern entry.1

mutual

def isProper : Json → Bool
  | .bool _ => true
  | .object keywords => properKeywords keywords
  | _ => false

def properKeywords : List (String × Json) → Bool
  | [] => true
  | (keyword, argument) :: rest =>
    (match nesting keyword, argument with
      | .leaf, argument => fits keyword argument
      | .schema, schema => isProper schema
      | .schemas, .array schemas => !schemas.isEmpty && properSchemas schemas
      | .entries, .object entries => areNamed keyword entries && properEntries entries
      | _, _ => false) &&
      properKeywords rest

def properSchemas : List Json → Bool
  | [] => true
  | schema :: schemas => isProper schema && properSchemas schemas

def properEntries : List (String × Json) → Bool
  | [] => true
  | (_, schema) :: rest => isProper schema && properEntries rest

end

structure IsPlain (value : Json) : Prop where
  noRepeats : value.noRepeats = true
  finite : value.isFinite = true

structure Proper (schema : Json) : Prop where
  plain : IsPlain schema
  proper : isProper schema = true

/-- What an argument of a proper schema holds. -/
def HoldsProper (keyword : String) (argument : Json) : Prop :=
  match nesting keyword with
  | .leaf => fits keyword argument = true
  | .schema => Proper argument
  | .schemas => ∃ schemas, argument = .array schemas ∧ schemas ≠ [] ∧ ∀ schema ∈ schemas, Proper schema
  | .entries => ∃ entries, argument = .object entries ∧ areNamed keyword entries = true ∧
      ∀ entry ∈ entries, Proper entry.2

/-- An argument that a keyword of a proper schema may have. -/
structure ProperArgument (keyword : String) (argument : Json) : Prop where
  plain : IsPlain argument
  holds : HoldsProper keyword argument

structure AreProper (keywords : Members) : Prop where
  distinct : keywords.Distinct
  argument : ∀ {keyword argument}, keywords.get? keyword = some argument →
    ProperArgument keyword argument

theorem isPlain_array {items : List Json} :
    IsPlain (.array items) ↔ ∀ item ∈ items, IsPlain item := by
  constructor
  · rintro ⟨clean, finite⟩ item inside
    exact ⟨Json.noRepeats_array.mp clean item inside, (Json.isFinite_array items).mp finite item inside⟩
  · intro every
    exact ⟨Json.noRepeats_array.mpr fun item inside => (every item inside).noRepeats,
      (Json.isFinite_array items).mpr fun item inside => (every item inside).finite⟩

theorem isPlain_object {members : Members} :
    IsPlain (.object members) ↔ members.Distinct ∧ ∀ member ∈ members, IsPlain member.2 := by
  constructor
  · rintro ⟨clean, finite⟩
    obtain ⟨distinct, clean⟩ := Json.noRepeats_object.mp clean
    exact ⟨distinct, fun member inside => ⟨clean member inside,
      (Json.isFinite_object members).mp finite member inside⟩⟩
  · rintro ⟨distinct, every⟩
    exact ⟨Json.noRepeats_object.mpr ⟨distinct, fun member inside => (every member inside).noRepeats⟩,
      (Json.isFinite_object members).mpr fun member inside => (every member inside).finite⟩

theorem properSchemas_iff {schemas : List Json} :
    properSchemas schemas = true ↔ ∀ schema ∈ schemas, isProper schema = true := by
  induction schemas with
  | nil => simp [properSchemas]
  | cons schema rest ih => simp [properSchemas, ih]

theorem properEntries_iff {entries : Members} :
    properEntries entries = true ↔ ∀ entry ∈ entries, isProper entry.2 = true := by
  induction entries with
  | nil => simp [properEntries]
  | cons entry rest ih => simp [properEntries, ih]

def nestsProper (keyword : String) (argument : Json) : Bool :=
  match nesting keyword, argument with
  | .leaf, argument => fits keyword argument
  | .schema, schema => isProper schema
  | .schemas, .array schemas => !schemas.isEmpty && properSchemas schemas
  | .entries, .object entries => areNamed keyword entries && properEntries entries
  | _, _ => false

theorem isProper_object {keywords : Members} :
    isProper (.object keywords) = true ↔
      ∀ member ∈ keywords, nestsProper member.1 member.2 = true := by
  rw [isProper]
  induction keywords with
  | nil => simp [properKeywords]
  | cons member rest ih =>
      obtain ⟨keyword, argument⟩ := member
      rw [properKeywords.eq_def, List.forall_mem_cons, ← ih, Bool.and_eq_true]
      rfl

theorem holdsProper_iff {keyword : String} {argument : Json} (plain : IsPlain argument) :
    HoldsProper keyword argument ↔ nestsProper keyword argument = true := by
  unfold HoldsProper nestsProper
  cases nesting keyword with
  | leaf => rfl
  | schema => exact ⟨fun formed => formed.proper, fun proper => ⟨plain, proper⟩⟩
  | schemas =>
      cases argument with
      | array schemas =>
          have plain := isPlain_array.mp plain
          simp only [Json.array.injEq, exists_eq_left', Bool.and_eq_true, Bool.not_eq_true',
            List.isEmpty_eq_false_iff, properSchemas_iff]
          exact and_congr_right fun _ => forall₂_congr fun schema inside =>
            ⟨fun formed => formed.proper, fun proper => ⟨plain schema inside, proper⟩⟩
      | _ => simp
  | entries =>
      cases argument with
      | object entries =>
          have plain := (isPlain_object.mp plain).2
          simp only [Json.object.injEq, exists_eq_left', Bool.and_eq_true, properEntries_iff]
          exact and_congr_right fun _ => forall₂_congr fun entry inside =>
            ⟨fun formed => formed.proper, fun proper => ⟨plain entry inside, proper⟩⟩
      | _ => simp

theorem proper_object {keywords : Members} : Proper (.object keywords) ↔ AreProper keywords := by
  constructor
  · rintro ⟨plain, proper⟩
    obtain ⟨distinct, plain⟩ := isPlain_object.mp plain
    refine ⟨distinct, fun {keyword argument} found => ?_⟩
    have inside := Members.mem_of_get? found
    exact ⟨plain _ inside, (holdsProper_iff (plain _ inside)).mpr (isProper_object.mp proper _ inside)⟩
  · rintro ⟨distinct, argument⟩
    have each {member : String × Json} (inside : member ∈ keywords) :=
      argument (Members.get?_of_mem distinct inside)
    exact ⟨isPlain_object.mpr ⟨distinct, fun member inside => (each inside).plain⟩,
      isProper_object.mpr fun member inside => (holdsProper_iff (each inside).plain).mp (each inside).holds⟩

theorem isSchema_of_proper {schema : Json} (formed : Proper schema) : isSchema schema = true := by
  have proper := formed.proper
  cases schema <;> simp_all [isProper, isSchema]

theorem ProperArgument.present {keyword : String} {argument : Json}
    (formed : ProperArgument keyword argument) : isAbsent keyword argument = false := by
  by_cases null : argument = .null
  · subst null
    have holds := (holdsProper_iff formed.plain).mp formed.holds
    suffices listed : nullableKeywords.contains keyword = true by
      rw [isAbsent, listed, Bool.not_true, Bool.and_false]
    unfold nestsProper at holds
    split at holds
    · unfold fits at holds
      split at holds <;> first | rfl | cases holds
    · exact absurd holds (by simp [isProper])
    · cases ‹Json.null = _›
    · cases ‹Json.null = _›
    · exact absurd holds (by simp)
  · simp [isAbsent, null]

variable {keywords : Members}

theorem AreProper.presentKeywords_eq (formed : AreProper keywords) :
    presentKeywords (.object keywords) = keywords := by
  refine List.filter_eq_self.mpr fun member inside => ?_
  have present := (formed.argument (Members.get?_of_mem formed.distinct inside)).present
  simpa [isAbsent, imp_iff_not_or] using present

theorem AreProper.present? (formed : AreProper keywords) {keyword : String}
    (ordinary : nullableKeywords.contains keyword = false) :
    keywords.present? keyword = keywords.get? keyword :=
  present?_eq_get? ordinary fun found => (formed.argument found).present

theorem isNumber_of_bound {keyword : String} {argument : Json} (bound : keyword ∈ boundKeywords)
    (formed : ProperArgument keyword argument) : argument.isNumber = true := by
  have holds := formed.holds
  rcases mem_boundKeywords.mp bound with rfl | rfl | rfl | rfl <;> exact holds

end SchemaMerge.Schema
