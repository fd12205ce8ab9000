/-! # Log lines

What an operation reports is part of its result: a list of lines, in order.

* **`LogLine`** — a level, a message and the model that it is about, if it names one.
* **`LogLine.text l`** — the line as it is shown. -/

namespace Audience

/-- How important a line is. -/
inductive LogLevel where
  | debug
  | info
  | warn
  deriving DecidableEq, Repr

/-- One reported event. -/
structure LogLine where
  level : LogLevel
  message : String
  model : Option String
  deriving DecidableEq, Repr

/-- The name of a level. -/
def LogLevel.name : LogLevel → String
  | .debug => "DEBUG"
  | .info => "INFO"
  | .warn => "WARN"

/-- The line as it is shown. -/
def LogLine.text (l : LogLine) : String :=
  l.level.name ++ " " ++ l.message ++ (l.model.map (fun m => " [" ++ m ++ "]")).getD ""

end Audience
