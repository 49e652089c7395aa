import SearchQuery.Files.Tree
import SearchQuery.Log.Line
import SearchQuery.Text.Case
import SearchQuery.Text.Utf8

/-!
# Loggers

A logger has a level of its own and handlers with further levels. A record is handled if it is at
or above the level of the logger, and written by every handler whose level it reaches. A logger
without a level takes the level of its surroundings. Configuring a logger replaces all handlers:
one writes to the console, and one to a file if that is asked for.
-/

namespace SearchQuery
namespace Log

inductive Sink where
  | console
  | file (place : FilePath)
  deriving DecidableEq, Repr

structure Handler where
  sink : Sink
  level : Level
  deriving DecidableEq, Repr

structure Logger where
  level : Level
  handlers : List Handler
  propagates : Bool
  deriving DecidableEq, Repr

namespace Logger

def initial : Logger := ⟨Level.unset, [], true⟩

def surroundingLevel : Level := Level.warning

/-- The level below which records are not handled at all. -/
def threshold (l : Logger) : Level := if l.level = Level.unset then surroundingLevel else l.level

/-- Whether a record is handled. Records without a severity never are. -/
def handles (l : Logger) (r : Record) : Bool :=
  decide (0 < r.level) && decide (l.threshold ≤ r.level)

end Logger

inductive ConfigureError where
  | file (error : FileError)
  | levelIsAText (text : Text)
  | levelIsATable (shown : Text)
  deriving DecidableEq, Repr

namespace ConfigureError

def message : ConfigureError → Text
  | .file error => error.message
  | .levelIsAText text => "Unknown level: " ++ text.quoted
  | .levelIsATable shown => "Level not an integer or a valid string: " ++ shown

end ConfigureError

def usualLayout : Text := "%(levelname)s:%(name)s:%(message)s"

/-- The table of layouts by the character that marks their places, as messages show it. -/
def layoutTable : Text :=
  "\x7b\x27%\x27: (<class \x27logging.PercentStyle\x27>, " ++ usualLayout.quoted ++
    "), \x27\x7b\x27: (<class \x27logging.StrFormatStyle\x27>, " ++
    Text.quoted "\x7blevelname\x7d:\x7bname\x7d:\x7bmessage\x7d" ++
    "), \x27$\x27: (<class \x27logging.StringTemplateStyle\x27>, " ++
    Text.quoted "$\x7blevelname\x7d:$\x7bname\x7d:$\x7bmessage\x7d" ++ ")\x7d"

/-- The levels that can be named, in upper case. -/
def Level.known : List (Text × Level) :=
  [("DEBUG", Level.debug), ("INFO", Level.info), ("WARN", Level.warning),
    ("WARNING", Level.warning), ("ERROR", Level.error), ("CRITICAL", Level.critical),
    ("FATAL", Level.critical), ("NOTSET", Level.unset)]

/-- The level with a name in upper case; `INFO` if no level has it. Two names stand for the layout
of lines and name no level. -/
def Level.named (name : Text) : Except ConfigureError Level :=
  if name = "BASIC_FORMAT" then .error (.levelIsAText usualLayout)
  else if name = "_STYLES" then .error (.levelIsATable layoutTable)
  else .ok ((Level.known.lookup name).getD Level.info)

structure Setup where
  level : Text
  action : Option Text
  toFile : Bool
  directory : Text

namespace Setup

def default : Setup := ⟨"INFO", none, false, "log"⟩

/-- The level that is asked for, in any case; an empty name asks for the usual one. -/
def resolvedLevel (s : Setup) : Except ConfigureError Level :=
  Level.named (if s.level.isEmpty then "INFO" else s.level.upper)

/-- The action whose records go to a file, if any do. -/
def fileAction? (s : Setup) : Option Text :=
  if s.toFile then s.action.filter fun a => !a.isEmpty else none

def actionDirectory (s : Setup) (action : Text) : FilePath :=
  (FilePath.ofText (if s.directory.isEmpty then "log" else s.directory)).join
    (FilePath.ofText action)

def file (s : Setup) (stamp : Stamp) (action : Text) : FilePath :=
  (s.actionDirectory action).join (FilePath.ofText (action ++ "_" ++ stamp.digits ++ ".log"))

end Setup

/-- A logger at work, with the files it writes to. Stamps are put in front of every line and into
the names of files. -/
structure Station where
  logger : Logger
  files : FileTree

namespace Station

def initial (files : FileTree) : Station := ⟨.initial, files⟩

/-- The log file of an action, made with its directory if it is not there. The directory stays also
if the file cannot be opened. -/
def openFile (stamp : Stamp) (s : Setup) (action : Text) (files : FileTree) :
    Except FileError FilePath × FileTree :=
  match files.makeDirectory (s.actionDirectory action) with
  | (.ok _, made) => made.openFile (s.file stamp action)
  | (.error e, made) => (.error e, made)

/-- Configures the logger anew. A call that fails leaves the logger as it was. -/
def configure (stamp : Stamp) (s : Setup) (st : Station) : Except ConfigureError Unit × Station :=
  match s.resolvedLevel with
  | .error e => (.error e, st)
  | .ok level =>
    let console : Handler := ⟨.console, level⟩
    match s.fileAction? with
    | none => (.ok (), ⟨⟨min Level.debug level, [console], false⟩, st.files⟩)
    | some action =>
      match openFile stamp s action st.files with
      | (.error e, files) => (.error (.file e), ⟨st.logger, files⟩)
      | (.ok place, files) =>
        let file : Handler := ⟨.file place, Level.debug⟩
        (.ok (), ⟨⟨min Level.debug level, [console, file], false⟩, files⟩)

/-- What the console shows of a record. A logger without handlers shows the bare message. -/
def consoleText (stamp : Stamp) (l : Logger) (r : Record) : Text :=
  if !l.handles r then []
  else if l.handlers.isEmpty then r.message ++ ['\n']
  else
    l.handlers.flatMap fun h =>
      if h.sink = .console ∧ h.level ≤ r.level then r.line stamp else []

def writeFiles (stamp : Stamp) (l : Logger) (files : FileTree) (r : Record) : FileTree :=
  if !l.handles r then files
  else
    l.handlers.foldl
      (fun files h =>
        match h.sink with
        | .file place =>
          if h.level ≤ r.level then files.append place (r.line stamp).toUtf8 else files
        | .console => files) files

/-- Emits a record: the text that the console shows, and the station afterwards. -/
def emit (stamp : Stamp) (st : Station) (r : Record) : Text × Station :=
  (consoleText stamp st.logger r, { st with files := writeFiles stamp st.logger st.files r })

inductive Event where
  | configure (s : Setup)
  | emit (r : Record)

/-- One event: what the console shows of it, or why the call fails, and the station afterwards. -/
def step (stamp : Stamp) (st : Station) : Event → Except ConfigureError Text × Station
  | .configure s =>
    let (result, st) := configure stamp s st
    (result.map fun _ => [], st)
  | .emit r =>
    let (shown, st) := st.emit stamp r
    (.ok shown, st)

/-- Events one after the other, each at its moment. -/
def run (st : Station) : List (Stamp × Event) → List (Except ConfigureError Text) × Station
  | [] => ([], st)
  | (stamp, event) :: rest =>
    let (reply, st) := st.step stamp event
    let (replies, st) := run st rest
    (reply :: replies, st)

theorem run_cons (st : Station) (stamp : Stamp) (event : Event) (rest : List (Stamp × Event)) :
    st.run ((stamp, event) :: rest) =
      ((st.step stamp event).1 :: ((st.step stamp event).2.run rest).1,
        ((st.step stamp event).2.run rest).2) := rfl

def emitted (records : List (Stamp × Record)) : List (Stamp × Event) :=
  records.map fun e => (e.1, .emit e.2)

/-- Emits records one after the other: all that the console shows, and the station afterwards. -/
def emitAll (st : Station) (records : List (Stamp × Record)) : Text × Station :=
  let (replies, after) := st.run (emitted records)
  (replies.flatMap fun reply => reply.toOption.getD [], after)

end Station
end Log
end SearchQuery
