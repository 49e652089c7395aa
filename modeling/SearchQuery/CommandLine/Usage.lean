import SearchQuery.Text.Basic

/-!
# Help

What a command says about itself: its usage line, a summary, the options, the commands below it and
a closing remark. Options and commands are set in two columns; a long entry of the first column
has a line of its own, and the second column is broken between words.
-/

namespace SearchQuery
namespace CommandLine

/-- An option. It takes a value if it names one. -/
structure OptionSpec where
  flag : Text
  valueName : Option Text
  help : Text

/-- A command and what it says about itself. -/
structure CommandSpec where
  path : Text
  usage : Text
  summary : Text
  options : List OptionSpec
  commands : List (Text × Text)
  remark : Option Text

/-- The option that every command has. -/
def helpOption : OptionSpec := ⟨"--help", none, "Show this message and exit."⟩

namespace OptionSpec

def takesValue (o : OptionSpec) : Bool := o.valueName.isSome

/-- The entry of an option in the first column. -/
def entry (o : OptionSpec) : Text :=
  match o.valueName with
  | some name => o.flag ++ " " ++ name
  | none => o.flag

end OptionSpec

/-- The columns that help texts use, and the widest first column before entries are set apart. -/
def columns : Nat := 78
def widestEntry : Nat := 30

/-- Words as lines of at most `width` characters, as far as single words allow. -/
def wrapFrom (width : Nat) (current : Text) : List Text → List Text
  | [] => [current]
  | word :: rest =>
    if current.length + 1 + word.length ≤ width then
      wrapFrom width (current ++ " " ++ word) rest
    else current :: wrapFrom width word rest

def wrap (width : Nat) (t : Text) : List Text :=
  match Text.splitAtChar ' ' t with
  | [] => []
  | word :: rest => wrapFrom width word rest

def spaces (n : Nat) : Text := List.replicate n ' '

/-- Entries with their descriptions in two columns, indented by two spaces. -/
def twoColumns (rows : List (Text × Text)) : Text :=
  let widest := (rows.map fun row => row.1.length).foldl max 0
  let first := min widest widestEntry + 2
  rows.flatMap fun (entry, description) =>
    let gap :=
      if entry.length + 2 ≤ first then spaces (first - entry.length)
      else '\n' :: spaces (first + 2)
    "  " ++ entry ++ gap ++
      Text.joinWith ('\n' :: spaces (first + 2)) (wrap (columns - first - 2) description) ++ ['\n']

namespace CommandSpec

/-- All options, with the one for help at the end. -/
def allOptions (c : CommandSpec) : List OptionSpec := c.options ++ [helpOption]

def usageLine (c : CommandSpec) : Text := "Usage: " ++ c.path ++ " " ++ c.usage ++ "\n"

def commandsHelp (c : CommandSpec) : Text :=
  if c.commands.isEmpty then [] else "\nCommands:\n".toList ++ twoColumns c.commands

def remarkHelp (c : CommandSpec) : Text :=
  match c.remark with
  | some remark => "\n  " ++ remark ++ "\n"
  | none => []

def help (c : CommandSpec) : Text :=
  c.usageLine ++ "\n  " ++ c.summary ++ "\n\nOptions:\n" ++
    twoColumns (c.allOptions.map fun o => (o.entry, o.help)) ++ c.commandsHelp ++ c.remarkHelp

end CommandSpec
end CommandLine
end SearchQuery
