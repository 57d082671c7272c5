/-!
# Log entries

What the program notes while it works, apart from its results. An entry has a level, the
name of the part that made it, and a text. Entries below a chosen level are not kept.
-/

namespace InfraReview

/-- How important an entry is. -/
inductive LogLevel where
  | debug
  | info
  | warning
  | error
  deriving DecidableEq, Repr

/-- The name of a level. -/
def LogLevel.name : LogLevel → String
  | .debug => "DEBUG"
  | .info => "INFO"
  | .warning => "WARNING"
  | .error => "ERROR"

/-- All levels. -/
def LogLevel.all : List LogLevel := [.debug, .info, .warning, .error]

/-- The level with a name. -/
def LogLevel.ofName? (name : String) : Option LogLevel := all.find? (·.name == name)

/-- A more important level has a higher rank. -/
def LogLevel.rank : LogLevel → Nat
  | .debug => 10
  | .info => 20
  | .warning => 30
  | .error => 40

/-- One entry of the log. -/
structure LogEntry where
  level : LogLevel
  source : String
  text : String
  deriving DecidableEq, Repr

namespace LogEntry

/-- An entry as one line. -/
def line (entry : LogEntry) : String :=
  entry.level.name ++ " " ++ entry.source ++ ": " ++ entry.text

/-- The entries from a level up, in order. -/
def fromLevel (threshold : LogLevel) (entries : List LogEntry) : List LogEntry :=
  entries.filter fun entry => threshold.rank ≤ entry.level.rank

end LogEntry

end InfraReview
