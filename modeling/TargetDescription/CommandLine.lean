import TargetDescription.Catalog.SharedSettings
import TargetDescription.Catalog.Statistics
import TargetDescription.Setting.Report

/-!
# The layout inspector

The command that builds a settings group in a fresh catalog and shows its layout and the statistics
of the catalog.

* `CommandLine.parse` reads the arguments into a `CommandLine.Request`.
* `CommandLine.run` is the whole command: arguments to exit code and texts.
-/

namespace TargetDescription.CommandLine

/-- What the arguments ask to inspect. -/
structure Options where
  group : Option String := none
  defaults : Bool := false
  verbose : Bool := false
  deriving DecidableEq

/-- What the arguments ask for. -/
inductive Request
  /-- The layout of a group. -/
  | inspect (options : Options)
  /-- Help or the version. -/
  | information
  /-- Nothing that the command knows. -/
  | misuse
  deriving DecidableEq

/-- Reads the letters of a cluster of short flags. `some` is the end of the reading. -/
def parseShort (options : Options) : List Char → Options × Option Request
  | [] => (options, none)
  | letter :: rest =>
    if letter = 'v' then
      if options.verbose then (options, some .misuse)
      else parseShort { options with verbose := true } rest
    else if letter = 'h' ∨ letter = 'V' then (options, some .information)
    else (options, some .misuse)

/-- Can the argument be the value of the option before it? A dash starts another option, unless it
stands alone. -/
def isValue (arg : String) : Bool :=
  match arg.toList with
  | '-' :: _ :: _ => false
  | _ => true

/-- Gives the group its name, once. -/
def setGroup (options : Options) (name : String) : Option Options :=
  match options.group with
  | some _ => none
  | none => some { options with group := some name }

/-- The value of an option that is written into the same argument. -/
def attachedValue? (option arg : String) : Option String :=
  let start := (option ++ "=").toList
  if start.isPrefixOf arg.toList then some (String.ofList (arg.toList.drop start.length)) else none

/-- Reads the arguments from left to right, up to the first that decides the request. -/
def parse (options : Options) : List String → Request
  | [] => .inspect options
  | arg :: rest =>
    if arg = "--" then
      if rest.isEmpty then .inspect options else .misuse
    else if arg = "--help" ∨ arg = "--version" then .information
    else if arg = "--defaults" then
      if options.defaults then .misuse else parse { options with defaults := true } rest
    else if arg = "--verbose" then
      if options.verbose then .misuse else parse { options with verbose := true } rest
    else if arg = "--group" then
      match rest with
      | [] => .misuse
      | name :: rest =>
        if isValue name then
          match setGroup options name with
          | some options => parse options rest
          | none => .misuse
        else .misuse
    else
      match attachedValue? "--group" arg with
      | some name =>
        match setGroup options name with
        | some options => parse options rest
        | none => .misuse
      | none =>
        match arg.toList with
        | '-' :: '-' :: _ => .misuse
        | '-' :: letter :: letters =>
          match parseShort options (letter :: letters) with
          | (options, none) => parse options rest
          | (_, some request) => request
        | _ => .misuse

/-- What the command leaves: exit code, output and messages. -/
structure Result where
  exitCode : Nat
  output : String := ""
  messages : String := ""
  deriving DecidableEq

/-- The arguments that the command knows. -/
def usage : String :=
  "usage: [--group NAME] [--defaults] [-v | --verbose] [-h | --help] [-V | --version]\n"

/-- The default bytes as a line. -/
def defaultsLine (group : SettingGroup) : String :=
  "Default bytes: ["
    ++ ", ".intercalate (group.defaultBytes.map fun byte => "0x" ++ Text.hexByte byte.toNat) ++ "]\n"

/-- Builds the group and shows its layout, its default bytes if asked for, and the statistics. -/
def inspect (options : Options) : Result :=
  let name := options.group.getD SharedSettings.groupName
  if name = SharedSettings.groupName then
    let (catalogStamp, stamps) := Stamp.Source.take {}
    let built := SharedSettings.declare (Catalog.empty catalogStamp) stamps.take.1
    match built.result with
    | .error error =>
      { exitCode := 1, messages := "Error [" ++ error.category ++ "]: " ++ error.message ++ "\n" }
    | .ok group =>
      { exitCode := 0
        output := group.report ++ (if options.defaults then defaultsLine group else "") ++ "\n"
          ++ built.state.statistics.report }
  else
    { exitCode := 1, messages := "Error: unknown settings group '" ++ name ++ "'\n" }

/-- Runs the command. -/
def run (args : List String) : Result :=
  match parse {} args with
  | .inspect options => inspect options
  | .information => { exitCode := 0, messages := usage }
  | .misuse => { exitCode := 2, messages := usage }

end TargetDescription.CommandLine
