import SignalGraph.Graph.Tick

/-!
What a session shows after a tick: how many ticks there were, the numbers at all outlets, and what
the sinks put out.
-/

namespace SignalGraph

/-- What a sink puts out. -/
inductive SinkState where
  | beep (beep : Beep)
  | color (red green blue : Float)
  | screen (lit : Nat)

def Body.sinkState? : Body → Option SinkState
  | .beep b => some (.beep b)
  | .color red green blue => some (.color red green blue)
  | .screen s => some (.screen s.litCount)
  | _ => none

/-- The state of each sink, by the ids of the nodes. -/
def Circuit.sinks (c : Circuit) : List (Int × SinkState) :=
  c.nodes.foldl (fun sinks node =>
    match node.body.sinkState? with
    | some state => putEntry node.idNumber state sinks
    | none => sinks) []

structure Status where
  tick : Nat
  signals : List (Int × List Float)
  sinks : List (Int × SinkState)

def Circuit.status (c : Circuit) : Status :=
  { tick := c.graph.tickCount, signals := c.signals, sinks := c.sinks }

def SinkState.toValue : SinkState → Value
  | .beep b =>
      .object [("should_play", .bool b.shouldPlay), ("pitch", .float b.pitch),
        ("volume", .float b.volume), ("sound", b.sound)]
  | .color red green blue => .object [("color", .list [.float red, .float green, .float blue])]
  | .screen lit => .object [("drawn", .int lit)]

/-- Entries by id as an object whose names are the ids. -/
def objectById {α : Type} (f : α → Value) (entries : List (Int × α)) : Value :=
  .object (entries.map fun (id, a) => (Text.ofInt id, f a))

def signalsValue (signals : List (Int × List Float)) : Value :=
  objectById (fun xs => .list (xs.map .float)) signals

def sinksValue (sinks : List (Int × SinkState)) : Value := objectById SinkState.toValue sinks

def Status.toValue (status : Status) : Value :=
  .object [("type", .text "TICK"), ("tick", .int status.tick),
    ("outputs", signalsValue status.signals), ("sinks", sinksValue status.sinks)]

end SignalGraph
