import SchemaMerge.Schema.Basic

namespace SchemaMerge.Schema

/-- A library of validators, one for each draft. A validator accepts a schema or finds it at fault. -/
structure Validators (δ : Type) where
  /-- The validator for the draft that a schema names, or for the newest one. -/
  named : Json → δ
  draft7 : δ
  draft4 : δ
  accepts : δ → Json → Bool

inductive Rejection where
  | notSchema (failure : Failure)
  | noDraft

def Rejection.message : Rejection → String
  | .notSchema failure => failure.message
  | .noDraft => "no draft of JSON Schema accepts it"

namespace Validators

variable {δ : Type}

def fitting? (validators : Validators δ) (schema : Json) : Option δ :=
  [validators.named schema, validators.draft7, validators.draft4].find?
    (fun validator => validators.accepts validator schema)

def check (validators : Validators δ) (schema : Json) : Except Rejection δ := do
  (checkShape "schema" schema).mapError .notSchema
  match validators.fitting? schema with
  | some validator => return validator
  | none => throw .noDraft

end Validators

end SchemaMerge.Schema
