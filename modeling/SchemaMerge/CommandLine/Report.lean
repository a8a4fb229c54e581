import SchemaMerge.Json.Writer
import SchemaMerge.OpenApi.Notice
import SchemaMerge.Schema.Check

namespace SchemaMerge.CommandLine

inductive Ending where
  | version
  | written (document : Json)
  | failed (failure : Failure)
  | invalid (name : String) (rejection : Schema.Rejection)

structure Report where
  notices : List OpenApi.Notice
  ending : Ending
  output : Option String

def version : String := "0.1.0"

namespace Report

def noticeLine (notice : OpenApi.Notice) : String :=
  s!"{notice.level.name}:{notice.channel}:{notice.message}\n"

def invalidOpening (name : String) : String := s!"error: schema {Text.quoted name} is invalid: "

def noticeText (report : Report) : String := String.join (report.notices.map noticeLine)

def complaint : Ending → String
  | .version | .written _ => ""
  | .failed failure => s!"error: {failure.message}\n"
  | .invalid name rejection => s!"{invalidOpening name}{rejection.message}\n"

def standardError (report : Report) : String := report.noticeText ++ complaint report.ending

def exitCode (report : Report) : Nat :=
  match report.ending with
  | .version | .written _ => 0
  | .failed _ | .invalid _ _ => 1

def written? : Ending → Option String
  | .written document => some (document.text .indented ++ "\n")
  | _ => none

def standardOutput (report : Report) : String :=
  match report.ending with
  | .version => version ++ "\n"
  | ending => if report.output.isSome then "" else (written? ending).getD ""

def fileText? (report : Report) : Option String :=
  if report.output.isSome then written? report.ending else none

end Report

end SchemaMerge.CommandLine
