import SearchQuery.Json.Printer
import SearchQuery.Log.Logger
import SearchQuery.Query.Command
import SearchQuery.Settings.Source

/-!
# Running a command

A command runs under settings: it first sets up the log, then reads the query text. A text that is
rejected is logged as an error and ends the command early; only a complete result is printed.
-/

namespace SearchQuery
namespace CommandLine

/-- What a command shows: whether it ended early, what it printed, and what the console showed of
its log. -/
structure Completed where
  aborted : Bool
  printed : Text
  logged : Text

def setupFor (s : LogSettings) (action : Text) : Log.Setup :=
  ⟨s.level, some action, s.toFile, s.directory⟩

/-- The records of a computation; a failure adds one that reports it. -/
def recordsOf {α : Type} (failure : Text) (run : Log.Logged Text α) : List Log.Record :=
  match run.result with
  | .ok _ => run.records
  | .error message => run.records ++ [⟨Log.Level.error, failure ++ ": " ++ message⟩]

/-- Records with their moments. The first moment is that of the set-up of the log. -/
def stamped (clock : Log.Clock) (records : List Log.Record) : List (Log.Stamp × Log.Record) :=
  records.mapIdx fun n r => (clock (n + 1), r)

/-- Runs a computation under a log; `print` is what is printed of its result. The files are those
that are there afterwards, also if the log cannot be set up. -/
def runLogged {α : Type} (clock : Log.Clock) (settings : Settings) (files : FileTree)
    (action failure : Text) (print : α → Text) (run : Log.Logged Text α) :
    Except Log.ConfigureError Completed × FileTree :=
  match Log.Station.configure (clock 0) (setupFor settings.log action) (.initial files) with
  | (.error e, station) => (.error e, station.files)
  | (.ok (), station) =>
    let (logged, station) := station.emitAll (stamped clock (recordsOf failure run))
    match run.result with
    | .ok a => (.ok ⟨false, print a, logged⟩, station.files)
    | .error _ => (.ok ⟨true, [], logged⟩, station.files)

/-- A computation with the messages of its errors. -/
def withMessages {ε α : Type} (message : ε → Text) (run : Log.Logged ε α) : Log.Logged Text α :=
  ⟨run.records, run.result.mapError message⟩

def parseAction : Text := "parse"
def compileAction : Text := "compile"

def runParse (clock : Log.Clock) (settings : Settings) (files : FileTree) (text : Text) :
    Except Log.ConfigureError Completed × FileTree :=
  runLogged clock settings files parseAction "Parse failed" (fun _ => [])
    (withMessages QueryError.message (Command.parse text))

def runCompile (clock : Log.Clock) (settings : Settings) (files : FileTree) (text : Text)
    (backendName : Option Text) : Except Log.ConfigureError Completed × FileTree :=
  runLogged clock settings files compileAction "Compile failed"
    (fun body => Json.render body ++ ['\n'])
    (match settings.createBackend backendName with
      | .error e => ⟨[], .error e.message⟩
      | .ok backend => withMessages QueryError.message (Command.compile text backend))

end CommandLine
end SearchQuery
