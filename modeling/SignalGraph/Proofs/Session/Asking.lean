import SignalGraph.Proofs.Outcome
import SignalGraph.Session.Request

/-!
What messages ask for. A request comes from a message that names its type, and that holds what the
request needs.
-/

namespace SignalGraph

section Requests

/-- The type of the messages that ask for such a request. -/
def Request.typeName : Request → String
  | .compile _ => "COMPILE"
  | .tick .. => "TICK"
  | .load _ => "LOAD"
  | .save => "SAVE"
  | .spawn .. => "SPAWN"
  | .remove _ => "REMOVE"
  | .connect .. => "CONNECT"

/-- Whether the length of a tick is a number, and the controls that come with it are valid, if there
are any. -/
def tickInOrder (message : Fields) : Bool :=
  ((message.lookup "dt").getD (.float 0.0)).toFloat.isOk &&
    match (message.lookup "host").getD .null with
    | .null => true
    | v => (Controls.check v).isOk

variable {message : Fields}

/-- A tick is asked for exactly when it is in order. -/
theorem Request.tickOf_isOk (message : Fields) :
    (Request.tickOf message).isOk = tickInOrder message := by
  simp only [Request.tickOf, tickInOrder]
  generalize ((message.lookup "dt").getD (.float 0.0)).toFloat = dt
  generalize (message.lookup "host").getD .null = host
  cases host with
  | null => cases dt <;> rfl
  | _ =>
      dsimp only
      generalize Controls.check _ = controls
      cases dt <;> cases controls <;> rfl

theorem Request.tickOf_eq_ok {request : Request} (h : Request.tickOf message = .ok request) :
    ∃ dt controls, request = .tick dt controls := by
  simp only [Request.tickOf] at h
  split at h
  all_goals
    obtain ⟨controls, -, h⟩ := bind_eq_ok.mp h
    obtain ⟨dt, -, h⟩ := bind_eq_ok.mp h
    exact ⟨dt, controls, (pure_eq_ok.mp h).symm⟩

theorem Request.spawnOf_eq_ok {request : Request} (h : Request.spawnOf message = .ok request) :
    ∃ kind x y params, request = .spawn kind x y params ∧
      (message.lookup "params").getD (.object []) = .object params := by
  obtain ⟨kind, -, h⟩ := bind_eq_ok.mp h
  obtain ⟨x, -, h⟩ := bind_eq_ok.mp h
  obtain ⟨y, -, h⟩ := bind_eq_ok.mp h
  split at h
  case h_1 params given =>
    obtain ⟨-, -, h⟩ := bind_eq_ok.mp h
    exact ⟨kind, x, y, params, (pure_eq_ok.mp h).symm, given⟩
  case h_2 => cases h

theorem Request.connectOf_eq_ok {request : Request} (h : Request.connectOf message = .ok request) :
    ∃ source outletSlot target inletSlot,
      request = .connect source outletSlot target inletSlot := by
  simp only [Request.connectOf] at h
  iterate 6 obtain ⟨_, -, h⟩ := bind_eq_ok.mp h
  exact ⟨_, _, _, _, (pure_eq_ok.mp h).symm⟩

/-- A request comes from a message of its type. -/
theorem Request.ofMessage_type {request : Request} (h : Request.ofMessage message = .ok request) :
    message.lookup "type" = some (.text request.typeName) := by
  have named : (message.lookup "type").getD .null = .text request.typeName →
      message.lookup "type" = some (.text request.typeName) := fun type =>
    (Option.getD_eq_iff.mp type).resolve_right fun nothing => nomatch nothing.2
  apply named
  simp only [Request.ofMessage] at h
  split at h
  case h_1 type | h_3 type | h_4 type =>
    cases h
    exact type
  case h_2 type =>
    obtain ⟨dt, controls, rfl⟩ := Request.tickOf_eq_ok h
    exact type
  case h_5 type =>
    obtain ⟨kind, x, y, params, rfl, -⟩ := Request.spawnOf_eq_ok h
    exact type
  case h_6 type =>
    obtain ⟨_, -, h⟩ := bind_eq_ok.mp h
    obtain ⟨id, -, h⟩ := bind_eq_ok.mp h
    cases pure_eq_ok.mp h
    exact type
  case h_7 type =>
    obtain ⟨source, outletSlot, target, inletSlot, rfl⟩ := Request.connectOf_eq_ok h
    exact type
  case h_8 => cases h

/-- The messages that a tick comes from. -/
theorem Request.ofMessage_tick_iff :
    (∃ dt controls, Request.ofMessage message = .ok (.tick dt controls)) ↔
      (message.lookup "type").getD .null = .text "TICK" ∧ tickInOrder message := by
  have asked : (message.lookup "type").getD .null = .text "TICK" →
      Request.ofMessage message = Request.tickOf message := fun type => by
    simp only [Request.ofMessage, type]
  rw [← Request.tickOf_isOk]
  constructor
  · rintro ⟨dt, controls, h⟩
    have type : (message.lookup "type").getD .null = .text "TICK" := by
      rw [Request.ofMessage_type h]
      rfl
    rw [asked type] at h
    rw [h]
    exact ⟨type, rfl⟩
  · rintro ⟨type, ok⟩
    rw [asked type]
    cases h : Request.tickOf message with
    | error fault =>
        rw [h] at ok
        cases ok
    | ok request =>
        obtain ⟨dt, controls, rfl⟩ := Request.tickOf_eq_ok h
        exact ⟨dt, controls, rfl⟩

end Requests

end SignalGraph
