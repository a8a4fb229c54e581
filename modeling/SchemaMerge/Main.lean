import SchemaMerge.CommandLine.Run

namespace SchemaMerge.CommandLine

partial def readAll (stream : IO.FS.Stream) (lines : List String) : IO String := do
  let line ← stream.getLine
  if line.isEmpty then return String.join lines.reverse else readAll stream (line :: lines)

def readInput : IO String := do readAll (← IO.getStdin) []

def hasTerminal : IO Bool := do (← IO.getStdin).isTty

def readFile? (path : String) : IO (Option String) := do
  match ← (IO.FS.readFile path).toBaseIO with
  | .ok text => return some text
  | .error _ => return none

/-- Reads only what the arguments ask for. -/
def surroundings (list : List String) : IO Surroundings := do
  match Arguments.read list with
  | .error _ => return ⟨none, fun _ => none⟩
  | .ok arguments =>
    if arguments.version then return ⟨none, fun _ => none⟩
    match arguments.source with
    | .unnamed =>
      if ← hasTerminal then return ⟨none, fun _ => none⟩
      return ⟨some (← readInput), fun _ => none⟩
    | .standardInput => return ⟨some (← readInput), fun _ => none⟩
    | .file path =>
      let text ← readFile? path
      return ⟨none, fun _ => text⟩

def execute (list : List String) : IO UInt32 := do
  match run (← surroundings list) list with
  | .error fault =>
    IO.eprintln s!"error: {fault.message}"
    return fault.exitCode.toUInt32
  | .ok report =>
    IO.eprint report.standardError
    IO.print report.standardOutput
    if let (some path, some text) := (report.output, report.fileText?) then
      IO.FS.writeFile path text
    return report.exitCode.toUInt32

end SchemaMerge.CommandLine

def main (list : List String) : IO UInt32 := SchemaMerge.CommandLine.execute list
