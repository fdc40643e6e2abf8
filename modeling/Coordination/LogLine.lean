/-!
# Log lines

A diagnostic line has a level, a fixed message and named fields, in the order in which they were given.
-/

namespace Coordination

inductive Level where
  | debug
  | info
  | warn
  | error
  deriving DecidableEq, Repr

def Level.name : Level → String
  | .debug => "DEBUG"
  | .info => "INFO"
  | .warn => "WARN"
  | .error => "ERROR"

structure LogLine where
  level : Level
  message : String
  fields : List (String × String)
  deriving DecidableEq, Repr

/-- The line as text, fields set apart by bars. -/
def LogLine.render (l : LogLine) : String :=
  l.level.name ++ " " ++ l.message ++ String.join (l.fields.map fun f => "|" ++ f.1 ++ "=" ++ f.2)

end Coordination
