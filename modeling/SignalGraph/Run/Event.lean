import SignalGraph.Value.Json.Printer

/-!
Events of a run, and the two logs that record them: one line of text and one line of JSON for each.
-/

namespace SignalGraph

inductive Level where
  | info
  | warning
  | error
deriving Repr, DecidableEq

def Level.name : Level → String
  | .info => "INFO"
  | .warning => "WARNING"
  | .error => "ERROR"

structure Event where
  level : Level
  name : String
  message : String
  details : Fields := []

/-- The line of the text log, which leaves out the details. -/
def Event.line (event : Event) (time : String) : String :=
  s!"{time} [{event.level.name}] {event.name} {event.message}\n"

def Event.record (event : Event) (time : String) : Value :=
  .object [("timestamp", .text time), ("level", .text event.level.name),
    ("event", .text event.name),
    ("payload", .object (("message", .text event.message) :: event.details))]

/-- Values as lines of JSON. -/
def jsonLines (values : List Value) : String :=
  String.join (values.map fun v => Json.compact v ++ "\n")

end SignalGraph
