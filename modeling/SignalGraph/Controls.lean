import SignalGraph.Form.Check
import SignalGraph.Text.Lower

/-!
The controls that the surroundings of a graph report for one tick: pointer, viewport, buttons and
keys. Buttons go by node ids, and keys by names in any case.
-/

namespace SignalGraph

structure Controls where
  pointerX : Float := 0.0
  pointerY : Float := 0.0
  viewportWidth : Float := 0.0
  viewportHeight : Float := 0.0
  buttons : List (Int × Bool) := []
  keys : List String := []

/-- Nothing touched. -/
def Controls.idle : Controls := {}

def Controls.buttonDown (controls : Controls) (id : Int) : Bool :=
  (controls.buttons.lookup id).getD false

def Controls.keyDown (controls : Controls) (key : String) : Bool :=
  controls.keys.any fun down => Text.lower down.toList = Text.lower key.toList

/-- Checks the buttons one by one. A key that is no number is an issue of the key, besides those of
its value; of keys that write one number the last one counts. -/
def Controls.checkButtons : Fields → Form.Checked (List (Int × Bool)) :=
  go []
where
  go (checked : List (Int × Bool)) : Fields → Form.Checked (List (Int × Bool))
    | [] => .ok checked
    | (name, v) :: rest =>
        let key := Form.Checked.within (.field name)
          (Form.Checked.within (.field "[key]") (Form.int (.text name)))
        let value := Form.Checked.within (.field name) (Form.bool v)
        match Form.Checked.both key value with
        | .ok (id, down) => go (putEntry id down checked) rest
        | .error issues =>
            match go checked rest with
            | .ok _ => .error issues
            | .error more => .error (issues ++ more)

def Controls.fields : List String :=
  ["pointer_x", "pointer_y", "viewport_width", "viewport_height", "buttons", "keys"]

/-- The controls that loosely typed data describes. -/
def Controls.check : Value → Form.Checked Controls :=
  Form.model "HostInput" Controls.fields fun fields =>
    let size (v : Value) : Form.Checked Float := do Form.notNegative (← Form.float v)
    let buttons (v : Value) : Form.Checked (List (Int × Bool)) := do
      Controls.checkButtons (← Form.object v)
    .apply (.apply (.apply (.apply (.apply (.map Controls.mk
      (Form.optional "pointer_x" Form.float 0.0 fields))
      (Form.optional "pointer_y" Form.float 0.0 fields))
      (Form.optional "viewport_width" size 0.0 fields))
      (Form.optional "viewport_height" size 0.0 fields))
      (Form.optional "buttons" buttons [] fields))
      (Form.optional "keys" (fun v => (Form.setOf Form.text v).map List.eraseDups) [] fields)

end SignalGraph
