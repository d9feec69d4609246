import SignalGraph.Session.Status

/-!
Traces. A run writes one line of JSON about each of its ticks. It is much the same as what a session
shows after a tick, but it is put together on its own, with the ids as texts from the start.
-/

namespace SignalGraph

/-- The numbers at the outlets of the nodes that have outlets. -/
def Circuit.tracedSignals (c : Circuit) : List (String × List Float) :=
  c.nodes.foldl (fun signals node =>
    if node.outlets.isEmpty then signals
    else putEntry (Text.ofInt node.idNumber) node.outlets signals) []

/-- The state of each sink. -/
def Circuit.tracedSinks (c : Circuit) : List (String × SinkState) :=
  c.nodes.foldl (fun sinks node =>
    match node.body.sinkState? with
    | some state => putEntry (Text.ofInt node.idNumber) state sinks
    | none => sinks) []

/-- What a trace tells about the tick that has just been made. -/
def Circuit.trace (c : Circuit) : Value :=
  .object [("tick", .int c.graph.tickCount),
    ("outputs", .object (c.tracedSignals.map fun (id, xs) => (id, .list (xs.map .float)))),
    ("sinks", .object (c.tracedSinks.map fun (id, state) => (id, state.toValue)))]

end SignalGraph
