import SignalGraph.Run.Event
import SignalGraph.Run.Trace
import SignalGraph.Session.Basic
import SignalGraph.Settings

/-!
Runs. A run opens a script or a saved graph in a session of its own, ticks it as often as its
settings say, and keeps a record: what happened, what every tick showed, and the graph at the end.
The record of a run that fails ends where it failed.
-/

namespace SignalGraph

inductive RunFault where
  | seed (fault : Random.SeedFault)
  | script (fault : Script.Fault)
  | step (fault : StepFault)
  | save (fault : SaveFault)

def RunFault.message : RunFault → String
  | .seed fault => fault.message
  | .script fault => fault.message
  | .step fault => fault.message
  | .save fault => fault.message

structure RunRecord where
  events : List Event := []
  trace : List Value := []
  saved : Option String := none
  fault : Option RunFault := none

/-- What ticks of one length have led to so far. -/
structure Drive where
  session : Session
  trace : Array Value := #[]
  fault : Option StepFault := none

/-- Ticks a session up to `count` times, until a tick fails; keeps a trace of every complete tick if
`traced`. -/
def Drive.run (drive : Drive) (dt : Float) (traced : Bool) : Nat → Drive
  | 0 => drive
  | count + 1 =>
      match drive.session.tick dt none with
      | (session, none) =>
          let trace :=
            if traced then drive.trace.push session.circuit.trace else drive.trace
          Drive.run { drive with session, trace } dt traced count
      | (session, some fault) => { drive with session, fault := some fault }

/-- Loads a saved graph or compiles a script, and tells what happened. -/
def Session.start (s : Session) (path text : String) :
    Session × List Event × Option Script.Fault :=
  if isArchive text then
    let s := s.load text
    (s, [{ level := .info, name := "graph_loaded", message := path
           details := [("nodes", .int s.nodeCount)] }], none)
  else
    let (s, result) := s.compile text
    let warnings : List Event := result.warnings.map fun warning =>
      { level := .warning, name := "compile_warning", message := warning.message }
    let outcome : Event :=
      match result.fault with
      | some fault => { level := .error, name := "compile_failed", message := fault.message }
      | none =>
          { level := .info, name := "compiled", message := path
            details := [("nodes", .int s.nodeCount), ("symbols", symbolsValue result.symbols)] }
    (s, warnings ++ [outcome], result.fault)

def Settings.mode (settings : Settings) : CompileMode :=
  if settings.atomicCompile then .atomic else .partialGates

def Settings.finished (settings : Settings) : Event :=
  { level := .info, name := "run_finished"
    message := s!"{settings.ticks} ticks at dt={Decimal.plain settings.dt}"
    details := [("ticks", .int settings.ticks)] }

/-- The record of a run in a session that nothing has happened in yet. -/
def Session.record (s : Session) (settings : Settings) (path text : String) : RunRecord :=
  match s.start path text with
  | (_, events, some fault) => { events, fault := some (.script fault) }
  | (s, events, none) =>
      let drive := Drive.run { session := s } settings.dt settings.trace settings.ticks
      let trace := drive.trace.toList
      match drive.fault with
      | some fault => { events, trace, fault := some (.step fault) }
      | none =>
          let events := events ++ [settings.finished]
          match drive.session.save with
          | .ok saved => { events, trace, saved := some saved }
          | .error fault => { events, trace, fault := some (.save fault) }

/-- The record of a run. Settings without a seed take `entropy` for one. -/
def Settings.run (settings : Settings) (entropy : Nat) (path text : String) : RunRecord :=
  match settings.seed.elim (.ok entropy) Random.seedOfInt with
  | .ok seed => (Session.ofSeed seed settings.mode).record settings path text
  | .error fault => { fault := some (.seed fault) }

/-- The folder of a run's files, named for the time of the run and its source. -/
def Settings.runFolder (settings : Settings) (stamp : String) (source : Path) : Path :=
  settings.runsRoot.append s!"{stamp}_{source.stem}"

/-- The files of a record, by their names. The logs and the trace are there as soon as they have a
line, and the graph is there if the run came to its end. -/
def RunRecord.files (record : RunRecord) (settings : Settings) (time : String) :
    List (String × String) :=
  let logs :=
    [("events.log", String.join (record.events.map fun event => event.line time)),
      ("events.jsonl", jsonLines (record.events.map fun event => event.record time)),
      ("trace.jsonl", jsonLines record.trace)]
  [("config.yaml", settings.yaml)] ++ logs.filter (fun log => log.2 ≠ "") ++
    (record.saved.map fun saved => ("graph.toy", saved)).toList

end SignalGraph
