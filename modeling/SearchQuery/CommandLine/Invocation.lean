import SearchQuery.CommandLine.Arguments
import SearchQuery.CommandLine.Runner
import SearchQuery.Text.Alphanumeric

/-!
# Invocations

What the program does with its arguments. The options before the command name are read first, then
the name; then the settings are loaded; only then are the arguments of the command read.
-/

namespace SearchQuery
namespace CommandLine

def programName : Text := "phrase-query"

def queryName : Text := "QUERY"

/-- The variable of the environment that names the settings path. -/
def configVariable : Text := "PHRASE_QUERY_CONFIG"

def configFlag : Text := "--config"
def backendFlag : Text := "--backend"

def defaultConfig : Text := Settings.defaultPath.toText

/-- What both commands say at the end of their help. -/
def signRemark : Text := "Queries starting with \x27+\x27 or \x27-\x27 must come after \x27--\x27."

def parseSummary : Text := "Parse QUERY and log its clauses grouped by role."
def compileSummary : Text := "Compile QUERY into a backend query and print it as JSON."

def programSpec : CommandSpec where
  path := programName
  usage := "[OPTIONS] COMMAND [ARGS]..."
  summary := "PhraseQuery: parse search queries into required/optional/excluded clauses."
  options :=
    [⟨configFlag, some "FILE", "Path to YAML config file.  [default: " ++ defaultConfig ++ "]"⟩]
  commands := [(compileAction, compileSummary), (parseAction, parseSummary)]
  remark := none

def parseSpec : CommandSpec where
  path := programName ++ " " ++ parseAction
  usage := "[OPTIONS] " ++ queryName
  summary := parseSummary
  options := []
  commands := []
  remark := some signRemark

def compileSpec : CommandSpec where
  path := programName ++ " " ++ compileAction
  usage := "[OPTIONS] " ++ queryName
  summary := compileSummary
  options :=
    [⟨backendFlag, some ("[" ++ Text.joinWith "|" BackendKind.names ++ "]"),
      "Backend to compile for. Defaults to backend.name from config."⟩]
  commands := []
  remark := some signRemark

inductive CommandName where
  | parse
  | compile
  deriving DecidableEq, Repr

namespace CommandName

def named? (t : Text) : Option CommandName :=
  if t = parseAction then some .parse else if t = compileAction then some .compile else none

def spec : CommandName → CommandSpec
  | .parse => parseSpec
  | .compile => compileSpec

end CommandName

inductive UsageError where
  | arguments (error : ArgumentError)
  | configIsADirectory (path : Text)
  | missingCommand
  | unknownCommand (name : Text)
  | unknownBackend (name : Text)
  | missingQuery
  | extraArguments (arguments : List Text)
  deriving DecidableEq, Repr

namespace UsageError

def message : UsageError → Text
  | .arguments (.unknownOption name similar) =>
    "No such option: " ++ name ++
      match similar with
      | [] => []
      | [flag] => " Did you mean " ++ flag ++ "?"
      | flags => " (Possible options: " ++ Text.joinWith ", " flags ++ ")"
  | .arguments (.missingValue flag) => "Option " ++ flag.quoted ++ " requires an argument."
  | .arguments (.unwantedValue flag) => "Option " ++ flag.quoted ++ " does not take a value."
  | .configIsADirectory path =>
    "Invalid value for " ++ configFlag.quoted ++ ": File " ++ path.quoted ++ " is a directory."
  | .missingCommand => "Missing command."
  | .unknownCommand name => "No such command " ++ name.quoted ++ "."
  | .unknownBackend name =>
    "Invalid value for " ++ backendFlag.quoted ++ ": " ++ name.quoted ++ " is not one of " ++
      Text.joinWith ", " (BackendKind.names.map Text.quoted) ++ "."
  | .missingQuery => "Missing argument " ++ queryName.quoted ++ "."
  | .extraArguments [one] => "Got unexpected extra argument (" ++ one ++ ")"
  | .extraArguments more =>
    "Got unexpected extra arguments (" ++ Text.joinWith " " more ++ ")"

def showsUsage : UsageError → Bool
  | .arguments (.missingValue _) | .arguments (.unwantedValue _) => false
  | _ => true

def report (c : CommandSpec) (e : UsageError) : Text :=
  (if e.showsUsage then
    c.usageLine ++ "Try \x27" ++ c.path ++ " " ++ helpOption.flag ++ "\x27 for help.\n\n"
  else []) ++ "Error: " ++ e.message ++ "\n"

end UsageError

/-- How the program ends: with an exit code, or because its settings or its log cannot be set up. -/
inductive Ending where
  | exit (code : Nat)
  | withoutSettings (error : LoadError)
  | withoutLog (error : Log.ConfigureError)

structure Outcome where
  ending : Ending
  output : Text
  errors : Text
  files : FileTree

namespace Outcome

def ofHelp (files : FileTree) (c : CommandSpec) : Outcome := ⟨.exit 0, c.help, [], files⟩

def ofUsageError (files : FileTree) (c : CommandSpec) (e : UsageError) : Outcome :=
  ⟨.exit 2, [], e.report c, files⟩

def ofLoadError (files : FileTree) (e : LoadError) : Outcome :=
  ⟨.withoutSettings e, [], [], files⟩

def ofCompleted : Except Log.ConfigureError Completed × FileTree → Outcome
  | (.error e, files) => ⟨.withoutLog e, [], [], files⟩
  | (.ok c, files) =>
    if c.aborted then ⟨.exit 1, c.printed, c.logged ++ "Aborted!\n", files⟩
    else ⟨.exit 0, c.printed, c.logged, files⟩

end Outcome

/-! ## Stages -/

/-- The first stage: the text of the settings path, the command and its own arguments. An early end
is help, a usage error of the program itself, or a settings path that cannot be a path. -/
inductive Opening where
  | help
  | misuse (error : UsageError)
  | failed (error : FileError)
  | command (config : Text) (name : CommandName) (arguments : List Text)

/-- The settings path: from the option, else from the environment, else the default one. -/
def configText (a : Arguments) (environment : Option Text) : Text :=
  match a.valueOf? configFlag with
  | some t => t
  | none => (environment.filter fun t => !t.isEmpty).getD defaultConfig

/-- The settings path, if the arguments can be read so far. -/
def settingsPath? (environment : Option Text) (arguments : List Text) : Option FilePath :=
  match Arguments.split programSpec.allOptions true arguments with
  | .ok a => some (FilePath.ofText (configText a environment))
  | .error _ => none

/-- Whether a name starts like an option, so that a misspelt option may be meant. -/
def startsLikeOption (name : Text) : Bool := name.head?.any fun c => !Text.isAlphanumeric c

/-- Reads the arguments up to the name of the command. -/
def openingOf (files : FileTree) (environment : Option Text) (arguments : List Text) : Opening :=
  if arguments.isEmpty then .help
  else
    match Arguments.split programSpec.allOptions true arguments with
    | .error e => .misuse (.arguments e)
    | .ok a =>
      if a.wantsHelp then .help
      else
        let config := configText a environment
        match files.find (FilePath.ofText config), config.isEmpty, a.rest with
        | .unspeakable, _, _ => .failed .nullCharacter
        | .directory _, false, _ => .misuse (.configIsADirectory config)
        | _, _, [] => .misuse .missingCommand
        | _, _, name :: rest =>
          match CommandName.named? name with
          | some command => .command config command rest
          | none =>
            if startsLikeOption name then .help else .misuse (.unknownCommand name)

/-- The backend that an option names, in any case. -/
def backendNamed? (t : Text) : Option Text :=
  BackendKind.names.find? fun name => name.fold = t.fold

/-- The query text and the backend that the arguments of a command name. -/
def queryOf (a : Arguments) : Except UsageError (Text × Option Text) := do
  let backend ←
    match a.valueOf? backendFlag with
    | none => pure none
    | some t =>
      match backendNamed? t with
      | some name => pure (some name)
      | none => throw (.unknownBackend t)
  match a.rest with
  | [] => throw .missingQuery
  | [query] => return (query, backend)
  | _ :: extra => throw (.extraArguments extra)

def runCommand (clock : Log.Clock) (settings : Settings) (files : FileTree) (name : CommandName)
    (arguments : List Text) : Outcome :=
  match Arguments.split name.spec.allOptions false arguments with
  | .error e => .ofUsageError files name.spec (.arguments e)
  | .ok a =>
    if a.wantsHelp then .ofHelp files name.spec
    else
      match queryOf a with
      | .error e => .ofUsageError files name.spec e
      | .ok (query, backend) =>
        .ofCompleted <|
          match name with
          | .parse => runParse clock settings files query
          | .compile => runCompile clock settings files query backend

/-- Runs the program. `environment` is the settings path that the environment names. -/
def run (clock : Log.Clock) (files : FileTree) (environment : Option Text) (arguments : List Text) :
    Outcome :=
  match openingOf files environment arguments with
  | .help => .ofHelp files programSpec
  | .misuse e => .ofUsageError files programSpec e
  | .failed e => .ofLoadError files (.file e)
  | .command config name rest =>
    match Settings.loadAlone files (FilePath.ofText config) with
    | .error e => .ofLoadError files e
    | .ok settings => runCommand clock settings files name rest

end CommandLine
end SearchQuery
