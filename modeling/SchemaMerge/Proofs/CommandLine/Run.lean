import SchemaMerge.CommandLine.Options
import SchemaMerge.Draft.Fit
import SchemaMerge.Proofs.Json.Paired
import SchemaMerge.Proofs.Transform.Unrepeated

namespace SchemaMerge.CommandLine

open OpenApi Schema

variable {δ : Type} {validators : Validators δ} {options : Options}

def IsAccepted (validators : Validators δ) (document : Json) : Prop :=
  ∀ named ∈ namedSchemas document, ∃ validator, validators.check named.2 = .ok validator

theorem firstInvalid_eq_none {named : Members} :
    firstInvalid validators named = none ↔
      ∀ entry ∈ named, ∃ validator, validators.check entry.2 = .ok validator := by
  induction named with
  | nil => simp [firstInvalid]
  | cons entry rest ih =>
      obtain ⟨name, schema⟩ := entry
      rw [firstInvalid, List.forall_mem_cons]
      cases checked : validators.check schema with
      | ok validator => simp [ih]
      | error rejection => simp

namespace Report

variable {report : Report}

/-- All of a document is written, to the target or else to standard output, as a text that is read to
it. -/
structure Writes (report : Report) (target : Option String) (document : Json) : Prop where
  exits : report.exitCode = 0
  output : report.output = target
  faithful : ∃ text, Json.parse text = .ok document ∧
    (report.standardOutput, report.fileText?) = if target.isSome then ("", some text) else (text, none)

structure Fails (report : Report) : Prop where
  exits : report.exitCode = 1
  silent : report.standardOutput = ""
  unwritten : report.fileText? = none

theorem writes_written (notices : List Notice) (target : Option String) {document : Json}
    (clean : document.noRepeats = true) :
    (Report.mk notices (.written document) target).Writes target document where
  exits := rfl
  output := rfl
  faithful := by
    refine ⟨document.text .indented ++ "\n",
      Json.parse_text_append Layout.isPlain_indented clean (by decide), ?_⟩
    cases target <;> rfl

theorem fails_failed (notices : List Notice) (failure : Failure) (target : Option String) :
    (Report.mk notices (.failed failure) target).Fails := by
  constructor <;> cases target <;> rfl

theorem fails_invalid (notices : List Notice) (name : String) (rejection : Rejection)
    (target : Option String) : (Report.mk notices (.invalid name rejection) target).Fails := by
  constructor <;> cases target <;> rfl

end Report

/-- What a run makes of the outcome of a walk: all of the merged document, where the check finds
nothing in it, or nothing at all. -/
inductive Concludes (validators : Validators δ) (options : Options) :
    Except Failure Json → Except Fault Report → Prop
  | written {merged : Json} {report : Report}
      (accepted : options.check = true → IsAccepted validators merged)
      (writes : report.Writes options.output merged) : Concludes validators options (.ok merged) (.ok report)
  | rejected {merged : Json} {report : Report} (check : options.check = true)
      (refused : ¬IsAccepted validators merged) (fails : report.Fails) :
      Concludes validators options (.ok merged) (.ok report)
  | failed {failure : Failure} {report : Report} (expected : isExpected failure = true)
      (fails : report.Fails) : Concludes validators options (.error failure) (.ok report)
  | broken {failure : Failure} (unexpected : isExpected failure = false) :
      Concludes validators options (.error failure) (.error (.malformed failure))

theorem concludes_checked (notices : List Notice) {merged : Json} (clean : merged.noRepeats = true) :
    Concludes validators options (.ok merged)
      (.ok ⟨notices, options.checked validators merged, options.output⟩) := by
  unfold Options.checked
  split
  · next name rejection found =>
      split at found
      · next check =>
          refine .rejected check (fun accepted => ?_) (Report.fails_invalid ..)
          rw [firstInvalid_eq_none.mpr accepted] at found
          cases found
      · cases found
  · next found =>
      refine .written (fun check => ?_) (Report.writes_written _ _ clean)
      rw [if_pos check] at found
      exact firstInvalid_eq_none.mp found

theorem isMerging_step (options : Options) : IsMerging options.step := by
  unfold Options.step
  split
  · exact .allOf _
  · exact .anyOf
  · exact .oneOf
  · exact .subschemas _ _ _

theorem concludes_merge (validators : Validators δ) (options : Options) {document : Json}
    (clean : document.noRepeats = true) :
    Concludes validators options (visit options.step (.one .document) document).outcome.1
      (options.merge validators document) := by
  unfold Options.merge
  cases ended : (visit options.step (.one .document) document).outcome with
  | mk result notices =>
      cases result with
      | error failure =>
          dsimp only
          split
          · next expected => exact .failed expected (Report.fails_failed ..)
          · next unexpected => exact .broken (Bool.eq_false_iff.mpr unexpected)
      | ok merged =>
          have made := yields_of_outcome (congrArg Prod.fst ended)
          exact concludes_checked _ (visit_noRepeats (unrepeats_of_isMerging (isMerging_step _)) _ clean made)

theorem parseDocument_of_parse {text : String} {document : Json}
    (parsed : Json.parse text = .ok document) : parseDocument text = .ok document := by
  unfold parseDocument
  rw [Json.not_blank_of_parse parsed, parsed]
  rfl

theorem parseDocument_cause {text : String} {fault : ReadFault} (paired : Json.IsPaired text)
    (failed : parseDocument text = .error (.notJson fault)) : fault.cause ≠ .loneSurrogate := by
  unfold parseDocument at failed
  split at failed
  · cases failed
  · cases parsed : Json.parse text with
    | ok document =>
        rw [parsed] at failed
        cases failed
    | error stopped =>
        rw [parsed] at failed
        cases failed
        exact Json.parse_cause paired parsed

theorem merge_ne_notJson {document : Json} {fault : ReadFault} :
    options.merge validators document ≠ .error (.notJson fault) := by
  intro failed
  unfold Options.merge at failed
  dsimp only at failed
  split at failed
  · cases failed
  · split at failed <;> cases failed

/-- A run with any options and any validators concludes what the walk through the document yields. No
text is refused for a surrogate in it that does not stand alone. -/
theorem run_faithful (validators : Validators δ) (options : Options) {input : Option String}
    {text : String} (found : documentText options.document input = .ok text)
    (paired : Json.IsPaired text) :
    (∀ members, Json.parse text = .ok (.object members) →
      Concludes validators options (visit options.step (.one .document) (.object members)).outcome.1
        (options.run validators input)) ∧
      ∀ fault, options.run validators input = .error (.notJson fault) → fault.cause ≠ .loneSurrogate := by
  have reads : options.run validators input = parseDocument text >>= options.merge validators := by
    rw [Options.run, found]
    rfl
  rw [reads]
  constructor
  · intro members parsed
    rw [parseDocument_of_parse parsed]
    exact concludes_merge validators options (Json.noRepeats_of_parse parsed)
  · intro fault failed
    rcases bind_eq_error.mp failed with failed | ⟨document, -, failed⟩
    · exact parseDocument_cause paired failed
    · exact absurd failed merge_ne_notJson

def mergeToFile : Options := { mode := .allOf, check := true, output := "merged.json" }

def rangedDocument : String :=
  "\x7b\"components\": \x7b\"schemas\": \x7b\"Count \\ud83d\\ude00\": \x7b\"allOf\": [\r\n" ++
    "\x7b\"minimum\": 0\x7d, \x7b\"maximum\": 9\x7d]\x7d\x7d\x7d\x7d"

def listedRange : Members :=
  [("components", .object [("schemas", .object [("Count 😀", .object [("allOf", .array
    [.object [("minimum", .number (.int 0))], .object [("maximum", .number (.int 9))]])])])])]

def mergedRange : Json :=
  .object [("components", .object [("schemas", .object [("Count 😀",
    .object [("minimum", .number (.int 0)), ("maximum", .number (.int 9))])])])]

theorem rangedDocument_is_written :
    documentText mergeToFile.document (some rangedDocument) = .ok rangedDocument ∧
      Json.IsPaired rangedDocument ∧ Json.parse rangedDocument = .ok (.object listedRange) ∧
      Concludes Draft.validators mergeToFile (.ok mergedRange)
        (mergeToFile.run Draft.validators (some rangedDocument)) := by
  have found : documentText mergeToFile.document (some rangedDocument) = .ok rangedDocument := rfl
  have paired : Json.IsPaired rangedDocument := by
    unfold Json.IsPaired
    decide +kernel
  have parsed : Json.parse rangedDocument = .ok (.object listedRange) := by decide +kernel
  have ended : (visit mergeToFile.step (.one .document) (.object listedRange)).outcome.1 =
      .ok mergedRange := by decide +kernel
  refine ⟨found, paired, parsed, ?_⟩
  rw [← ended]
  exact (run_faithful Draft.validators mergeToFile found paired).1 _ parsed

end SchemaMerge.CommandLine
