import SignalGraph.Script.Token

/-!
Why a script is refused. Every cause but one comes from a token, whose place is then known.
-/

namespace SignalGraph.Script

inductive Cause where
  | endOfScript
  | expected (wanted : String) (found : Option String)
  | unmatchedBrace
  | unclosedBlock
  | sinkName (found : String)
  | variableName (found : String)
  | argumentEnd (found : String)
  | malformedNumber (text : String)
  | unexpected (text : String)
  | nesting
deriving Repr, DecidableEq

def Cause.message : Cause → String
  | .endOfScript => "unexpected end of script"
  | .expected wanted none => s!"expected '{wanted}', found end of script"
  | .expected wanted (some found) => s!"expected '{wanted}', found '{found}'"
  | .unmatchedBrace => "unmatched '\x7d'"
  | .unclosedBlock => "block is missing its closing '\x7d'"
  | .sinkName found => s!"expected a sink name after 'new', found '{found}'"
  | .variableName found => s!"expected a variable name, found '{found}'"
  | .argumentEnd found => s!"expected ',' or ')' in argument list, found '{found}'"
  | .malformedNumber text => s!"invalid number '{text}'"
  | .unexpected text => s!"unexpected '{text}' in expression"
  | .nesting => "script is nested too deeply"

structure Fault where
  cause : Cause
  place : Option Place
deriving Repr, DecidableEq

def Fault.message (fault : Fault) : String :=
  fault.cause.message ++
    match fault.place with
    | some place => s!" at line {place.line}, column {place.column}"
    | none => " at end of script"

end SignalGraph.Script
