import SignalGraph.Script.Assembly

/-!
Scripts compiled. A compilation holds the gates of all that could be read, whether or not the script
was refused; whoever asked for it decides what to keep of a script that was.
-/

namespace SignalGraph.Script

/-- What a script is assembled to, and why it is refused if it is. -/
structure Compilation extends assembly : Assembly where
  fault : Option Fault

def compileTokens (script : List Token) : Compilation :=
  let (reading, fault) := read script
  { (reading.emit.run {}).2 with fault }

def compile (source : String) : Compilation := compileTokens (tokens source)

end SignalGraph.Script
