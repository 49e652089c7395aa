import SearchQuery.CommandLine.Usage
import SearchQuery.Text.Similarity

/-!
# Arguments

Splitting the arguments of a command into options and the rest. A value follows its option as the
next argument or after an equals sign. Two hyphens end the options.
-/

namespace SearchQuery
namespace CommandLine

inductive ArgumentError where
  | unknownOption (name : Text) (similar : List Text)
  | missingValue (flag : Text)
  | unwantedValue (flag : Text)
  deriving DecidableEq, Repr

/-- Options in the order in which they were given, with their values, and all other arguments. -/
structure Arguments where
  options : List (Text × Option Text)
  rest : List Text
  deriving DecidableEq, Repr

namespace Arguments

/-- The value of an option; of several the last. -/
def valueOf? (a : Arguments) (flag : Text) : Option Text :=
  (a.options.reverse.lookup flag).join

def wantsHelp (a : Arguments) : Bool := a.options.any fun o => o.1 = helpOption.flag

def isOption (t : Text) : Bool := t.head? = some '-' && 1 < t.length

/-- An argument as the name of an option and the value after an equals sign. -/
def splitValue (t : Text) : Text × Option Text :=
  match t.dropWhile (· != '=') with
  | [] => (t, none)
  | _ :: value => (t.takeWhile (· != '='), some value)

/-- The options that are written like a name that is none of them, in alphabetical order. -/
def similarTo (specs : List OptionSpec) (name : Text) : List Text :=
  ((specs.map OptionSpec.flag).filter fun flag => Text.isSimilar flag name).mergeSort
    fun a b => String.ofList a ≤ String.ofList b

/-- The name that is reported for an unknown option: after one hyphen, the first letter only. -/
def unknown (specs : List OptionSpec) (t name : Text) : ArgumentError :=
  if "--".toList.isPrefixOf t then .unknownOption name (similarTo specs name)
  else .unknownOption (t.take 2) []

/-- Splits arguments. If `leading` is set, the first argument that is no option ends the options. -/
def split (specs : List OptionSpec) (leading : Bool) :
    List Text → Except ArgumentError Arguments
  | [] => .ok ⟨[], []⟩
  | t :: rest =>
    if t = "--" then .ok ⟨[], rest⟩
    else if isOption t then
      let (name, value) := splitValue t
      match specs.find? fun o => o.flag = name with
      | none => .error (unknown specs t name)
      | some o =>
        if o.takesValue then
          match value, rest with
          | some v, rest => add (name, some v) (split specs leading rest)
          | none, v :: rest => add (name, some v) (split specs leading rest)
          | none, [] => .error (.missingValue name)
        else if value.isSome then .error (.unwantedValue name)
        else add (name, none) (split specs leading rest)
    else if leading then .ok ⟨[], t :: rest⟩
    else (split specs leading rest).map fun a => { a with rest := t :: a.rest }
where
  add (option : Text × Option Text) (r : Except ArgumentError Arguments) :
      Except ArgumentError Arguments :=
    r.map fun a => { a with options := option :: a.options }

end Arguments
end CommandLine
end SearchQuery
