import SearchQuery.Log.Clock
import SearchQuery.Log.Record

/-!
# Lines of the log

A record is written as one line: a stamp, the severity in four letters between brackets, and the
message.
-/

namespace SearchQuery
namespace Log

/-- The severity in four letters; a severity without a name of its own shows the start of the name
it is given. -/
def abbreviation (level : Level) (name : Text) : Text :=
  if level = Level.debug then "DEBG"
  else if level = Level.info then "INFO"
  else if level = Level.warning then "WARN"
  else if level = Level.error ∨ level = Level.critical then "ERRO"
  else name.take 4

/-- A line without its end; `shown` is the text of its stamp. -/
def line (shown : Text) (level : Level) (name message : Text) : Text :=
  shown ++ " [" ++ abbreviation level name ++ "] " ++ message

/-- The line of a record, with its end. -/
def Record.line (stamp : Stamp) (r : Record) : Text :=
  Log.line stamp.shown r.level r.level.name r.message ++ ['\n']

end Log
end SearchQuery
