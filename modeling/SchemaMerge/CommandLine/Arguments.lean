import SchemaMerge.CommandLine.Fault

namespace SchemaMerge.CommandLine

structure Arguments where
  merge : Option String
  onlySingle : Bool
  skipAllOf : Bool
  skipAnyOf : Bool
  skipOneOf : Bool
  check : Bool
  verbose : Bool
  version : Bool
  document : Option String
  output : Option String
  others : List String
  deriving DecidableEq, Repr

namespace Arguments

def none : Arguments :=
  ⟨.none, false, false, false, false, false, false, false, .none, .none, []⟩

def flag? : String → Option (Arguments → Arguments)
  | "--only-single" => some ({ · with onlySingle := true })
  | "--no-only-single" => some ({ · with onlySingle := false })
  | "--skip-all-of" => some ({ · with skipAllOf := true })
  | "--no-skip-all-of" => some ({ · with skipAllOf := false })
  | "--skip-any-of" => some ({ · with skipAnyOf := true })
  | "--no-skip-any-of" => some ({ · with skipAnyOf := false })
  | "--skip-one-of" => some ({ · with skipOneOf := true })
  | "--no-skip-one-of" => some ({ · with skipOneOf := false })
  | "--check" => some ({ · with check := true })
  | "--no-check" => some ({ · with check := false })
  | "--verbose" => some ({ · with verbose := true })
  | "--version" => some ({ · with version := true })
  | "--no-version" => some ({ · with version := false })
  | _ => .none

def valued? : String → Option (String → Arguments → Arguments)
  | "--merge" => some (fun value arguments => { arguments with merge := value })
  | "--document" => some (fun value arguments => { arguments with document := value })
  | "--output" => some (fun value arguments => { arguments with output := value })
  | _ => .none

def letter? : Char → Option (Arguments → Arguments)
  | 'v' => some ({ · with verbose := true })
  | _ => .none

def addOthers (more : List String) (arguments : Arguments) : Arguments :=
  { arguments with others := arguments.others ++ more }

def readLetters (arguments : Arguments) : List Char → Except UsageFault Arguments
  | [] => return arguments
  | letter :: letters =>
    match letter? letter with
    | some set => readLetters (set arguments) letters
    | .none => throw (.unknownOption (String.ofList ['-', letter]))

def splitValue (argument : String) : String × Option String :=
  (String.ofList (argument.toList.takeWhile (· ≠ '=')),
    match argument.toList.dropWhile (· ≠ '=') with
    | [] => .none
    | _ :: value => some (String.ofList value))

def isOption : List Char → Bool
  | '-' :: _ :: _ => true
  | _ => false

/-- A value that follows an option is taken even if it looks like one; after `--` there are none. -/
def readFrom (arguments : Arguments) : List String → Except UsageFault Arguments
  | [] => return arguments
  | argument :: rest =>
    if argument = "--" then return arguments.addOthers rest
    else if !isOption argument.toList then readFrom (arguments.addOthers [argument]) rest
    else
      let (name, attached) := splitValue argument
      match valued? name with
      | some set =>
        match attached with
        | some value => readFrom (set value arguments) rest
        | .none =>
          match rest with
          | value :: others => readFrom (set value arguments) others
          | [] => throw (.missingValue name)
      | .none =>
        match flag? name, attached with
        | some set, .none => readFrom (set arguments) rest
        | some _, some _ => throw (.unwantedValue name)
        | .none, _ =>
          if ['-', '-'].isPrefixOf argument.toList then throw (.unknownOption name)
          else do
            let read ← readLetters arguments (argument.toList.drop 1)
            readFrom read rest

def read : List String → Except UsageFault Arguments := readFrom none

end Arguments

end SchemaMerge.CommandLine
