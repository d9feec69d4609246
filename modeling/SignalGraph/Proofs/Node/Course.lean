import SignalGraph.Node.Step

/-!
The ticks of one node. What a node meets in a tick are the numbers at its inlets and what all nodes
share, and a course says what it meets in every tick. The first tick has the number one; number zero
stands for the time before. What is connected to the node may change from tick to tick.
-/

namespace SignalGraph

/-- What a node meets in a tick. -/
structure Meeting where
  around : Surroundings
  id : Int
  inputs : Inputs
  generator : Random.Generator

def Body.meet (body : Body) (meeting : Meeting) : Effect :=
  body.step meeting.around meeting.id meeting.inputs meeting.generator

/-- What a node meets in every tick. -/
abbrev Course := Nat → Meeting

/-- A body after some ticks. -/
def Body.after (start : Body) (course : Course) : Nat → Body
  | 0 => start
  | n + 1 => ((start.after course n).meet (course (n + 1))).body

theorem Body.after_succ (start : Body) (course : Course) (n : Nat) :
    start.after course (n + 1) = ((start.after course n).meet (course (n + 1))).body := rfl

section Triggers

variable (course : Course) (slot t : Nat)

/-- The number at an inlet in a tick. -/
def Course.level : Float := (course t).inputs.level slot

/-- An inlet is high in a tick. Before the first tick all inlets are low. -/
def Course.isHigh : Bool := 0 < t && SignalGraph.isHigh (course.level slot t)

/-- An inlet that was low in the tick before becomes high. -/
def Course.rises : Bool := course.isHigh slot t && !course.isHigh slot (t - 1)

theorem Course.isHigh_zero : course.isHigh slot 0 = false := rfl

theorem Course.isHigh_succ :
    course.isHigh slot (t + 1) = SignalGraph.isHigh ((course (t + 1)).inputs.level slot) := rfl

theorem Course.rises_succ :
    course.rises slot (t + 1) = (course.isHigh slot (t + 1) && !course.isHigh slot t) := rfl

end Triggers

/-- A course with some numbers at the inlets, tick after tick, in idle surroundings. -/
def Course.ofReadings (readings : List (List Float)) : Course := fun t =>
  { around := { dt := 0.0, controls := .idle }
    id := 0
    inputs := (readings.getD (t - 1) []).map some
    generator := { state := 0, increment := 1 } }

end SignalGraph
