import SignalGraph.Proofs.Session.Asking
import SignalGraph.Session.Basic

/-!
Requests that are refused. Whatever a message holds, a session that answers it with an error is the
same session as before, except for a tick that has begun: its length and its controls were in order,
and it stays half done. Scripts and saved texts are never refused.
-/

namespace SignalGraph

section Replies

/-- Whether a client is told of an error. -/
def Reply.isError (reply : Reply) : Prop :=
  ∃ fields, reply.toValue = .object fields ∧ fields.lookup "type" = some (.text "ERROR")

/-- Errors are the refusals. -/
theorem Reply.isError_iff {reply : Reply} : reply.isError ↔ ∃ fault, reply = .refused fault := by
  constructor
  · rintro ⟨fields, shown, type⟩
    cases reply with
    | refused fault => exact ⟨fault, rfl⟩
    | _ =>
        injection shown with shown
        rw [← shown] at type
        exact absurd (Option.some.inj type) (by simp)
  · rintro ⟨fault, rfl⟩
    exact ⟨_, rfl, rfl⟩

end Replies

section Sessions

variable {s : Session} {request : Request}

/-- A request that is refused leaves the session as it was, unless it is a tick. -/
theorem Session.perform_refused {fault : SessionFault}
    (untimed : ∀ dt controls, request ≠ .tick dt controls)
    (refused : (s.perform request).2 = .refused fault) : (s.perform request).1 = s := by
  cases request with
  | compile source => cases refused
  | tick dt controls => exact absurd rfl (untimed dt controls)
  | load text => cases refused
  | save =>
      simp only [Session.perform]
      cases s.save <;> rfl
  | spawn kind x y params =>
      simp only [Session.perform] at refused ⊢
      cases spawned : s.spawn kind x y params with
      | error fault => rfl
      | ok made =>
          rw [spawned] at refused
          cases refused
  | remove id =>
      simp only [Session.perform] at refused ⊢
      cases removed : s.remove id with
      | error fault => rfl
      | ok next =>
          rw [removed] at refused
          cases refused
  | connect source outletSlot target inletSlot =>
      simp only [Session.perform] at refused ⊢
      cases connected : s.connect source outletSlot target inletSlot with
      | error fault => rfl
      | ok made =>
          rw [connected] at refused
          cases refused

/-- A tick that begins is counted, also when it fails. -/
theorem Session.perform_tick_count (s : Session) (dt : Float) (controls : Option Controls) :
    (s.perform (.tick dt controls)).1.circuit.graph.tickCount =
      s.circuit.graph.tickCount + 1 := by
  have counted : (s.tick dt controls).1.circuit.graph.tickCount =
      s.circuit.graph.tickCount + 1 := rfl
  simp only [Session.perform]
  cases ticked : s.tick dt controls with
  | mk next fault =>
      rw [ticked] at counted
      cases fault <;> exact counted

/-- A request that is refused leaves the session as it was exactly when it is no tick. -/
theorem Session.perform_refused_iff {fault : SessionFault}
    (refused : (s.perform request).2 = .refused fault) :
    (s.perform request).1 = s ↔ ∀ dt controls, request ≠ .tick dt controls := by
  refine ⟨fun same dt controls => ?_, fun untimed => Session.perform_refused untimed refused⟩
  rintro rfl
  have counted := s.perform_tick_count dt controls
  rw [same] at counted
  exact Nat.ne_of_lt (Nat.lt_succ_self _) counted

theorem Session.respond_of_error {message : Fields} {fault : RequestFault}
    (unasked : Request.ofMessage message = .error fault) :
    s.respond message = (s, .refused (.request fault)) := by
  rw [Session.respond, unasked]

theorem Session.respond_of_ok {message : Fields} (asked : Request.ofMessage message = .ok request) :
    s.respond message = s.perform request := by
  rw [Session.respond, asked]

/-- Scripts and saved texts are never refused. -/
theorem Session.respond_built (s : Session) {message : Fields}
    (built : (message.lookup "type").getD .null = .text "COMPILE" ∨
      (message.lookup "type").getD .null = .text "LOAD") : ¬(s.respond message).2.isError := by
  rw [Reply.isError_iff]
  rintro ⟨fault, refused⟩
  rcases built with type | type
  · have asked : Request.ofMessage message = .ok (.compile (textField message "source")) := by
      simp only [Request.ofMessage, type]
    rw [Session.respond_of_ok asked] at refused
    cases refused
  · have asked : Request.ofMessage message = .ok (.load (textField message "text")) := by
      simp only [Request.ofMessage, type]
    rw [Session.respond_of_ok asked] at refused
    cases refused

/-- Whatever a message holds: a session that answers it with an error is left as it was in all its
parts, but for a tick that is in order; a tick that is not in order is answered with an error; and
scripts and saved texts never are. -/
theorem Session.respond_refused (s : Session) (message : Fields) :
    let type := (message.lookup "type").getD .null
    let next := (s.respond message).1
    let reply := (s.respond message).2
    (reply.isError → (next = s ↔ ¬(type = .text "TICK" ∧ tickInOrder message))) ∧
      (type = .text "TICK" → ¬tickInOrder message → reply.isError) ∧
      (type = .text "COMPILE" ∨ type = .text "LOAD" → ¬reply.isError) := by
  intro type next reply
  have tick : (∃ dt controls, Request.ofMessage message = .ok (.tick dt controls)) ↔
      type = .text "TICK" ∧ tickInOrder message := Request.ofMessage_tick_iff
  refine ⟨fun error => ?_, fun isTick disorder => ?_, s.respond_built⟩
  · rw [← tick]
    cases asked : Request.ofMessage message with
    | error fault =>
        have same : next = s := congrArg Prod.fst (Session.respond_of_error asked)
        exact iff_of_true same fun ⟨_, _, h⟩ => nomatch h
    | ok request =>
        obtain ⟨fault, refused⟩ := Reply.isError_iff.mp error
        simp only [next, reply, Session.respond_of_ok asked] at refused ⊢
        rw [Session.perform_refused_iff refused]
        simp only [Except.ok.injEq, not_exists, ne_eq]
  · cases asked : Request.ofMessage message with
    | error fault =>
        exact Reply.isError_iff.mpr ⟨_, congrArg Prod.snd (Session.respond_of_error asked)⟩
    | ok request =>
        have named : request.typeName = "TICK" := by
          simp only [type, Request.ofMessage_type asked, Option.getD_some] at isTick
          injection isTick
        cases request with
        | tick dt controls => exact absurd (tick.mp ⟨dt, controls, asked⟩).2 disorder
        | _ => exact absurd named (by simp [Request.typeName])

end Sessions

end SignalGraph
