import AdventureVm.Command

/-! What the user wrote on the command line. -/

namespace AdventureVm

/-- The options and words of a command line. -/
structure Arguments where
  /-- The settings of the machine. -/
  config : Config := {}
  /-- The selector to send. -/
  selector : String := "play"
  /-- The words that belong to no option, the last one first. -/
  words : List String := []
deriving Repr, Inhabited

namespace Arguments

/-- Reads a number that an option needs. -/
def number (option value : String) : Except String Nat :=
  match decimal? value.toList with
  | some number => .ok number
  | none => .error s!"invalid value '{value}' for '{option}'"

/-- Reads options and words one after the other. -/
def parse (arguments : Arguments) : List String → Except String Arguments
  | [] => .ok arguments
  | "--trace" :: rest => parse { arguments with config.traceInstructions := true } rest
  | "--continue-on-invalid-selector" :: rest =>
    parse { arguments with config.continueOnInvalidSelector := true } rest
  | "--format" :: value :: rest => do
    let version ← Version.ofText? value
    parse { arguments with config.version := version } rest
  | "--selector" :: value :: rest => parse { arguments with selector := value } rest
  | "--max-depth" :: value :: rest => do
    let depth ← number "--max-depth" value
    parse { arguments with config.maxCallDepth := depth } rest
  | "--gc-interval" :: value :: rest => do
    let interval ← number "--gc-interval" value
    parse { arguments with config.gcInterval := interval } rest
  | word :: rest =>
    if word.startsWith "--" then .error s!"unexpected argument '{word}'"
    else parse { arguments with words := word :: arguments.words } rest

/-- An option and its value, which may be written as one word with an equals sign. -/
def separate (word : String) : List String :=
  let (name, value) := word.toList.span (· != '=')
  match word.startsWith "--", value with
  | true, _ :: value => [String.ofList name, String.ofList value]
  | _, _ => [word]

/-- Reads a command line. -/
def ofWords (words : List String) : Except String Arguments :=
  ({} : Arguments).parse (words.flatMap separate)

/-- The wish that a command line expresses, and the directory it is about. -/
def command (arguments : Arguments) : Except String (Command × String) :=
  match arguments.words.reverse with
  | ["run", directory] => .ok (.run arguments.config arguments.selector, directory)
  | ["disasm", directory, text] =>
    match parseWord? text with
    | some number => .ok (.disasm arguments.config.version number, directory)
    | none => .error s!"invalid script number '{text}'"
  | _ => .error "expected: run DIRECTORY, or disasm DIRECTORY NUMBER"

end Arguments

end AdventureVm
