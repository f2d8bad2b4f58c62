/-!
# Log records

A record is a text with a level.  A threshold lets pass the records of its own level
and of those that weigh more; without a threshold none pass.
-/

namespace FormUpload.Log

/-- How much a record weighs, the heaviest first. -/
inductive Level where
  | error
  | warn
  | info
  | debug
  | trace
deriving DecidableEq, Repr

/-- The place of a level, counted from the heaviest. -/
def Level.rank : Level → Nat
  | .error => 1
  | .warn => 2
  | .info => 3
  | .debug => 4
  | .trace => 5

/-- The name of a level. -/
def Level.name : Level → String
  | .error => "ERROR"
  | .warn => "WARN"
  | .info => "INFO"
  | .debug => "DEBUG"
  | .trace => "TRACE"

/-- A log record. -/
structure Record where
  level : Level
  text : String
deriving DecidableEq, Repr

/-- A record of level `debug`. -/
def Record.debug (text : String) : Record := ⟨.debug, text⟩

/-- The lightest level that passes, if any does. -/
abbrev Threshold := Option Level

/-- Whether records of a level pass. -/
def Threshold.admits (t : Threshold) (l : Level) : Bool :=
  match t with
  | none => false
  | some limit => l.rank ≤ limit.rank

end FormUpload.Log
