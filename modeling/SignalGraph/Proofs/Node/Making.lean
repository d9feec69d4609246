import SignalGraph.Node.Data
import SignalGraph.Proofs.Outcome

/-!
New bodies. A kind takes at most one parameter, so that a new body is told by its kind and by what
the kind makes of the parameter. A request gives the parameter by its name, and a saved text holds
it as a text.
-/

namespace SignalGraph

variable {kind : Kind} {param : Option Value} {body : Body}

/-- The new bodies of a kind with a parameter that may be left out. -/
inductive Body.Made (param : Option Value) : Kind → Body → Prop where
  | constant (value : Float) : Made param .constant (.constant value)
  | math (op : MathOp) : Made param .math (.math op)
  | logic (op : LogicOp) : Made param .logic (.logic op)
  | timer (elapsed : Float) : Made param .timer (.timer elapsed)
  | counter (value : Float) : Made param .counter (.counter value false false)
  | button (toggle : Bool) : Made param .button (.button toggle false false)
  | key : Made param .key (.key (param.getD (.text "Space")))
  | beep : Made param .beep (.beep { sound := param.getD (.text "Beep") })
  | script : Made param .script (.script (param.getD (.text "")))
  | bare {kind : Kind} (none : kind.param? = none) : Made param kind (.initial kind)

theorem Body.made_of_ofParam (made : Body.ofParam kind param = .ok body) :
    Made param kind body := by
  cases kind
  case constant | math | logic | timer | counter =>
    obtain ⟨_, -, made⟩ := bind_eq_ok.mp made
    cases pure_eq_ok.mp made
    constructor
  case button | key | beep | script =>
    cases made
    constructor
  all_goals
    cases made
    exact .bare rfl

theorem Body.made_of_createNamed {name : Value} {params : Fields}
    (made : Body.createNamed name params = .ok body) :
    ∃ kind, Kind.ofValue name = .ok kind ∧
      Made (params.lookup (kind.param?.getD "")) kind body := by
  simp only [Body.createNamed] at made
  split at made
  · cases made
  · obtain ⟨kind, named, made⟩ := bind_eq_ok.mp made
    obtain ⟨-, -, made⟩ := bind_eq_ok.mp made
    exact ⟨kind, named, made_of_ofParam made⟩

/-- All that a saved text brings in is text. -/
theorem Body.made_of_ofData {data : String} (made : Body.ofData kind data = .ok body) :
    ∃ param, Made param kind body ∧ ∀ v, param = some v → ∃ s, v = .text s := by
  simp only [Body.ofData] at made
  split at made
  · exact ⟨none, made_of_ofParam (mapError_eq_ok.mp made), nofun⟩
  · split at made
    · obtain ⟨toggle, -, made⟩ := bind_eq_ok.mp made
      cases pure_eq_ok.mp made
      exact ⟨none, .button toggle, nofun⟩
    · obtain ⟨text, -, made⟩ := bind_eq_ok.mp made
      cases pure_eq_ok.mp made
      exact ⟨some (.text text), .script, fun v given => ⟨text, (Option.some.inj given).symm⟩⟩
    · cases made
      exact ⟨none, .timer 0.0, nofun⟩
    · refine ⟨_, made_of_ofParam (mapError_eq_ok.mp made), fun v given => ?_⟩
      split at given
      · exact ⟨data, (Option.some.inj given).symm⟩
      · cases given

theorem Body.Made.kind_eq (made : Made param kind body) : body.kind = kind := by
  cases made with
  | bare => cases kind <;> rfl
  | _ => rfl

end SignalGraph
