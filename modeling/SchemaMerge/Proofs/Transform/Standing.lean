import SchemaMerge.Proofs.Transform.Visited
import SchemaMerge.Proofs.Transform.Position

/-!
Which objects stand where in a document, as far as the names and indices on the way to them tell.
The ways from one object to the next are listed one by one, and a walk follows these and no others.
-/

namespace SchemaMerge.OpenApi

def carriers : List Kind := [.requestBody, .response, .parameter, .header]

/-- An object of the second kind stands in an object of the first, a few turns away from it. Among the
entries of a map those of an extension, whose names start with `x-`, stand for nothing. -/
inductive Leads : Kind → Path → Kind → Prop
  | components : Leads .document [.name "components"] .components
  | path {field name : String} (known : field ∈ ["paths", "webhooks"])
      (ordinary : isExtension name = false) :
      Leads .document [.name field, .name name] .pathItem
  | shared {field name : String} {kind : Kind}
      (known : (field, kind) ∈ [("definitions", Kind.schema), ("parameters", .parameter),
        ("responses", .response)])
      (ordinary : isExtension name = false) : Leads .document [.name field, .name name] kind
  | component {field name : String} {kind : Kind}
      (known : (field, kind) ∈ [("schemas", Kind.schema), ("parameters", .parameter),
        ("responses", .response), ("requestBodies", .requestBody), ("headers", .header),
        ("pathItems", .pathItem)])
      (ordinary : isExtension name = false) : Leads .components [.name field, .name name] kind
  | callback {kind : Kind} {name expression : String} (known : kind ∈ [Kind.components, .operation])
      (ordinary : isExtension name = false) (ordinary' : isExtension expression = false) :
      Leads kind [.name "callbacks", .name name, .name expression] .pathItem
  | parameter {kind : Kind} {index : Nat} (known : kind ∈ [Kind.pathItem, .operation]) :
      Leads kind [.name "parameters", .index index] .parameter
  | operation {method : String} (known : method ∈ methods) :
      Leads .pathItem [.name method] .operation
  | requestBody : Leads .operation [.name "requestBody"] .requestBody
  | response {status : String} (ordinary : isExtension status = false) :
      Leads .operation [.name "responses", .name status] .response
  | header {name : String} (ordinary : isExtension name = false) :
      Leads .response [.name "headers", .name name] .header
  | media {kind : Kind} {name : String} (known : kind ∈ carriers)
      (ordinary : isExtension name = false) : Leads kind [.name "content", .name name] .mediaType
  | schema {kind : Kind} (known : kind ∈ .mediaType :: carriers) :
      Leads kind [.name "schema"] .schema
  | inner {keyword : String} (known : keyword ∈ listedKeywords ++ singleKeywords) :
      Leads .schema [.name keyword] .schema
  | listed {keyword : String} {index : Nat} (known : keyword ∈ listedKeywords) :
      Leads .schema [.name keyword, .index index] .schema
  | named {keyword name : String} (known : keyword ∈ entriesKeywords) :
      Leads .schema [.name keyword, .name name] .schema

inductive StandsAt : Kind → Path → Kind → Prop
  | here (kind : Kind) : StandsAt kind [] kind
  | onward {kind middle final : Kind} {turns path : Path} (leads : Leads kind turns middle)
      (rest : StandsAt middle path final) : StandsAt kind (turns ++ path) final

namespace Place

def turn? (place : Place) : Turn → Option Place
  | .name name =>
    match place with
    | .one kind => kind.field? name
    | .branch _ => Kind.schema.field? name
    | .named entry => if isExtension name then none else some entry
    | .branches => some (.one .schema)
    | .many _ => none
  | .index _ => place.member?

def along? (place : Place) (path : Path) : Option Place := path.foldlM turn? place

theorem along?_cons (place : Place) (turn : Turn) (path : Path) :
    place.along? (turn :: path) = (place.turn? turn).bind (·.along? path) := rfl

/-- The kind of object that a walk expects at the end of a path. -/
def kindAlong? (place : Place) (path : Path) : Option Kind := (place.along? path).bind kind?

theorem kindAlong?_nil (place : Place) : place.kindAlong? [] = place.kind? := rfl

theorem kindAlong?_cons (place : Place) (turn : Turn) (path : Path) :
    place.kindAlong? (turn :: path) = (place.turn? turn).bind (·.kindAlong? path) := by
  rw [kindAlong?, along?_cons]
  cases place.turn? turn <;> rfl

/-- An object of a kind stands in a place, some turns away from what the place holds. -/
inductive Holds : Place → Path → Kind → Prop
  | one (kind : Kind) : Holds (.one kind) [] kind
  | many (kind : Kind) (index : Nat) : Holds (.many kind) [.index index] kind
  | named {entry : Place} {name : String} {turns : Path} {kind : Kind}
      (ordinary : isExtension name = false) (rest : Holds entry turns kind) :
      Holds (.named entry) (.name name :: turns) kind
  | branch (listed : Bool) : Holds (.branch listed) [] .schema
  | listed (index : Nat) : Holds (.branch true) [.index index] .schema
  | branches (name : String) : Holds .branches [.name name] .schema

theorem kindAlong?_of_holds {place : Place} {turns path : Path} {middle final : Kind}
    (holds : place.Holds turns middle) (stands : (one middle).kindAlong? path = some final) :
    place.kindAlong? (turns ++ path) = some final := by
  induction holds with
  | one => exact stands
  | many => exact stands
  | named ordinary _ ih =>
      rw [List.cons_append, kindAlong?_cons, turn?, if_neg (by simp [ordinary])]
      exact ih stands
  | branch =>
      cases path with
      | nil => exact stands
      | cons turn path =>
          cases turn with
          | name => exact stands
          | index => cases stands
  | listed => exact stands
  | branches => exact stands

theorem exists_holds {place : Place} {path : Path} {final : Kind}
    (stands : place.kindAlong? path = some final) :
    ∃ turns rest middle, path = turns ++ rest ∧ place.Holds turns middle ∧
      (one middle).kindAlong? rest = some final := by
  induction place generalizing path with
  | one kind => exact ⟨[], path, kind, rfl, .one kind, stands⟩
  | many kind =>
      match path with
      | [] => cases stands
      | .name _ :: _ => cases stands
      | .index index :: path => exact ⟨[.index index], path, kind, rfl, .many kind index, stands⟩
  | named entry ih =>
      match path with
      | [] => cases stands
      | .index _ :: _ => cases stands
      | .name name :: path =>
          rw [kindAlong?_cons, turn?] at stands
          by_cases extension : isExtension name = true
          · rw [if_pos extension] at stands
            cases stands
          · rw [if_neg extension] at stands
            obtain ⟨turns, rest, middle, rfl, holds, stands⟩ := ih stands
            have ordinary : isExtension name = false := by simpa using extension
            exact ⟨.name name :: turns, rest, middle, rfl, .named ordinary holds, stands⟩
  | branch listed =>
      match path with
      | [] => exact ⟨[], [], .schema, rfl, .branch listed, stands⟩
      | .name name :: path =>
          exact ⟨[], .name name :: path, .schema, rfl, .branch listed, stands⟩
      | .index index :: path =>
          cases listed with
          | true => exact ⟨[.index index], path, .schema, rfl, .listed index, stands⟩
          | false => cases stands
  | branches =>
      match path with
      | [] => cases stands
      | .index _ :: _ => cases stands
      | .name name :: path => exact ⟨[.name name], path, .schema, rfl, .branches name, stands⟩

end Place

/-- Whatever stands in a place stands in an object that has the place under a name. -/
def LeadsBy (kind : Kind) (name : String) (place : Place) : Prop :=
  ∀ turns final, place.Holds turns final → Leads kind (.name name :: turns) final

namespace LeadsBy

variable {kind final : Kind} {name : String}

theorem one (leads : Leads kind [.name name] final) : LeadsBy kind name (.one final) := by
  intro turns other holds
  cases holds
  exact leads

theorem many (leads : ∀ index, Leads kind [.name name, .index index] final) :
    LeadsBy kind name (.many final) := by
  intro turns other holds
  cases holds
  exact leads _

theorem map (leads : ∀ entry, isExtension entry = false → Leads kind [.name name, .name entry] final) :
    LeadsBy kind name (.named (.one final)) := by
  intro turns other holds
  cases holds with
  | named ordinary rest =>
      cases rest
      exact leads _ ordinary

theorem callbacks (known : kind ∈ [.components, .operation]) :
    LeadsBy kind "callbacks" (.named (.named (.one .pathItem))) := by
  intro turns other holds
  cases holds with
  | named ordinary rest =>
      cases rest with
      | named ordinary' rest =>
          cases rest
          exact .callback known ordinary ordinary'

theorem listed (known : name ∈ listedKeywords) : LeadsBy .schema name (.branch true) := by
  intro turns other holds
  cases holds with
  | branch => exact .inner (List.mem_append_left _ known)
  | listed => exact .listed known

theorem single (known : name ∈ singleKeywords) : LeadsBy .schema name (.branch false) := by
  intro turns other holds
  cases holds
  exact .inner (List.mem_append_right _ known)

theorem entries (known : name ∈ entriesKeywords) : LeadsBy .schema name .branches := by
  intro turns other holds
  cases holds
  exact .named known

theorem schema (known : kind ∈ .mediaType :: carriers) : LeadsBy kind "schema" (.one .schema) :=
  one (.schema known)

theorem content (known : kind ∈ carriers) : LeadsBy kind "content" (.named (.one .mediaType)) :=
  map fun _ => .media known

theorem places {names : List String} {place : Place} (each : ∀ name ∈ names, LeadsBy kind name place) :
    ∀ field ∈ places names place, LeadsBy kind field.1 field.2 :=
  List.forall_mem_map.mpr each

end LeadsBy

theorem leadsBy_fields (kind : Kind) : ∀ field ∈ kind.fields, LeadsBy kind field.1 field.2 := by
  cases kind with
  | document =>
      simp only [Kind.fields, List.forall_mem_cons]
      exact ⟨.one .components, .map fun _ => .path (by decide), .map fun _ => .path (by decide),
        .map fun _ => .shared (by decide), .map fun _ => .shared (by decide),
        .map fun _ => .shared (by decide), List.forall_mem_nil _⟩
  | components =>
      simp only [Kind.fields, List.forall_mem_cons]
      exact ⟨.map fun _ => .component (by decide), .map fun _ => .component (by decide),
        .map fun _ => .component (by decide), .map fun _ => .component (by decide),
        .map fun _ => .component (by decide), .callbacks (by decide),
        .map fun _ => .component (by decide), List.forall_mem_nil _⟩
  | pathItem =>
      exact List.forall_mem_cons.mpr
        ⟨.many fun _ => .parameter (by decide), .places fun _ known => .one (.operation known)⟩
  | operation =>
      simp only [Kind.fields, List.forall_mem_cons]
      exact ⟨.many fun _ => .parameter (by decide), .one .requestBody, .map fun _ => .response,
        .callbacks (by decide), List.forall_mem_nil _⟩
  | requestBody | parameter | header =>
      simp only [Kind.fields, List.forall_mem_cons]
      exact ⟨.schema (by decide), .content (by decide), List.forall_mem_nil _⟩
  | response =>
      simp only [Kind.fields, List.forall_mem_cons]
      exact ⟨.schema (by decide), .content (by decide), .map fun _ => .header, List.forall_mem_nil _⟩
  | mediaType => exact List.forall_mem_singleton.mpr (.schema (by decide))
  | schema =>
      simp only [Kind.fields, List.forall_mem_append]
      exact ⟨⟨.places fun _ => .listed, .places fun _ => .single⟩, .places fun _ => .entries⟩

theorem leads_of_field? {kind final : Kind} {name : String} {place : Place} {turns : Path}
    (field : kind.field? name = some place) (holds : place.Holds turns final) :
    Leads kind (.name name :: turns) final :=
  leadsBy_fields kind (name, place) (mem_of_field? field) turns final holds

theorem field?_of_listed {keyword : String} (known : keyword ∈ listedKeywords) :
    Kind.schema.field? keyword = some (.branch true) := by
  revert keyword
  decide

theorem field?_of_single {keyword : String} (known : keyword ∈ singleKeywords) :
    Kind.schema.field? keyword = some (.branch false) := by
  revert keyword
  decide

theorem field?_of_entries {keyword : String} (known : keyword ∈ entriesKeywords) :
    Kind.schema.field? keyword = some .branches := by
  revert keyword
  decide

theorem exists_field_of_leads {kind final : Kind} {turns : Path} (leads : Leads kind turns final) :
    ∃ name place rest, turns = .name name :: rest ∧ kind.field? name = some place ∧
      place.Holds rest final := by
  cases leads with
  | components => exact ⟨_, _, _, rfl, rfl, .one _⟩
  | path known ordinary =>
      simp only [List.mem_cons, List.not_mem_nil, or_false] at known
      rcases known with rfl | rfl <;> exact ⟨_, _, _, rfl, rfl, .named ordinary (.one _)⟩
  | shared known ordinary =>
      simp only [List.mem_cons, Prod.mk.injEq, List.not_mem_nil, or_false] at known
      rcases known with ⟨rfl, rfl⟩ | ⟨rfl, rfl⟩ | ⟨rfl, rfl⟩ <;>
        exact ⟨_, _, _, rfl, rfl, .named ordinary (.one _)⟩
  | component known ordinary =>
      simp only [List.mem_cons, Prod.mk.injEq, List.not_mem_nil, or_false] at known
      rcases known with ⟨rfl, rfl⟩ | ⟨rfl, rfl⟩ | ⟨rfl, rfl⟩ | ⟨rfl, rfl⟩ | ⟨rfl, rfl⟩ | ⟨rfl, rfl⟩ <;>
        exact ⟨_, _, _, rfl, rfl, .named ordinary (.one _)⟩
  | callback known ordinary ordinary' =>
      simp only [List.mem_cons, List.not_mem_nil, or_false] at known
      rcases known with rfl | rfl <;>
        exact ⟨_, _, _, rfl, rfl, .named ordinary (.named ordinary' (.one _))⟩
  | parameter known =>
      simp only [List.mem_cons, List.not_mem_nil, or_false] at known
      rcases known with rfl | rfl <;> exact ⟨_, _, _, rfl, rfl, .many _ _⟩
  | operation known =>
      simp only [methods, List.mem_cons, List.not_mem_nil, or_false] at known
      rcases known with rfl | rfl | rfl | rfl | rfl | rfl | rfl | rfl <;>
        exact ⟨_, _, _, rfl, rfl, .one _⟩
  | requestBody => exact ⟨_, _, _, rfl, rfl, .one _⟩
  | response ordinary => exact ⟨_, _, _, rfl, rfl, .named ordinary (.one _)⟩
  | header ordinary => exact ⟨_, _, _, rfl, rfl, .named ordinary (.one _)⟩
  | media known ordinary =>
      simp only [carriers, List.mem_cons, List.not_mem_nil, or_false] at known
      rcases known with rfl | rfl | rfl | rfl <;>
        exact ⟨_, _, _, rfl, rfl, .named ordinary (.one _)⟩
  | schema known =>
      simp only [carriers, List.mem_cons, List.not_mem_nil, or_false] at known
      rcases known with rfl | rfl | rfl | rfl | rfl <;> exact ⟨_, _, _, rfl, rfl, .one _⟩
  | inner known =>
      rcases List.mem_append.mp known with known | known
      · exact ⟨_, _, _, rfl, field?_of_listed known, .branch true⟩
      · exact ⟨_, _, _, rfl, field?_of_single known, .branch false⟩
  | listed known => exact ⟨_, _, _, rfl, field?_of_listed known, .listed _⟩
  | named known => exact ⟨_, _, _, rfl, field?_of_entries known, .branches _⟩

theorem standsAt_iff {kind final : Kind} {path : Path} :
    StandsAt kind path final ↔ (Place.one kind).kindAlong? path = some final := by
  constructor
  · intro stands
    induction stands with
    | here => rfl
    | onward leads _ ih =>
        obtain ⟨name, place, turns, rfl, field, holds⟩ := exists_field_of_leads leads
        rw [List.cons_append, Place.kindAlong?_cons, Place.turn?, field]
        exact Place.kindAlong?_of_holds holds ih
  · intro stands
    induction length : path.length using Nat.strong_induction_on generalizing kind path with
    | _ turnCount ih =>
        match path with
        | [] =>
            obtain rfl := Option.some.inj stands
            exact .here kind
        | .index _ :: _ => cases stands
        | .name name :: path =>
            rw [Place.kindAlong?_cons] at stands
            obtain ⟨place, field, stands⟩ := Option.bind_eq_some_iff.mp stands
            obtain ⟨turns, rest, middle, rfl, holds, stands⟩ := Place.exists_holds stands
            have shorter : rest.length < turnCount := by
              simp only [← length, List.length_cons, List.length_append]
              omega
            exact .onward (leads_of_field? field holds) (ih _ shorter stands rfl)

instance {kind final : Kind} : DecidablePred (StandsAt kind · final) :=
  fun _ => decidable_of_iff _ standsAt_iff.symm

end SchemaMerge.OpenApi
