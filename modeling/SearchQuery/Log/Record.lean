import SearchQuery.Text.Basic

/-!
# Log records

A record is a message with a severity. Five severities have names of their own besides `0`, which
stands for no severity; any other number is named by its digits.
-/

namespace SearchQuery
namespace Log

/-- A severity, the greater the more severe. -/
abbrev Level := Int

namespace Level

def unset : Level := 0
def debug : Level := 10
def info : Level := 20
def warning : Level := 30
def error : Level := 40
def critical : Level := 50

def name (level : Level) : Text :=
  if level = critical then "CRITICAL"
  else if level = error then "ERROR"
  else if level = warning then "WARNING"
  else if level = info then "INFO"
  else if level = debug then "DEBUG"
  else if level = unset then "NOTSET"
  else "Level " ++ Text.ofInt level

end Level

structure Record where
  level : Level
  message : Text
  deriving DecidableEq, Repr

end Log
end SearchQuery
