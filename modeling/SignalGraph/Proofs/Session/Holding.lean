import SignalGraph.Proofs.Entries
import SignalGraph.Proofs.Form.Check
import SignalGraph.Proofs.Session.Answering

/-!
Controls that stay in force. A message for a tick may bring a report of the controls; a session
holds on to the last report that came with a tick in order, whether or not the tick completed. So a
tick without a report is answered as if it repeated the one that is held.
-/

namespace SignalGraph

section Reports

/-- Whether a message is meant to be a tick. -/
def isTick (message : Fields) : Bool :=
  match message.lookup "type" with
  | some (.text "TICK") => true
  | _ => false

/-- The report of the controls in a message. Null is none. -/
def reported? (message : Fields) : Option Value :=
  match message.lookup "host" with
  | some .null => none
  | report => report

/-- The report that a tick in order brings. -/
def brought? (message : Fields) : Option Value :=
  if isTick message && tickInOrder message then reported? message else none

/-- The report that is held after some messages, where `held` is the one before them. -/
def heldAfter (held : Value) (messages : List Fields) : Value :=
  (messages.filterMap brought?).getLast?.getD held

/-- A message that repeats a report if it has none of its own. -/
def repeating (held : Value) (message : Fields) : Fields :=
  if (reported? message).isSome then message else putEntry "host" held message

/-- Messages in which each one without a report repeats the one that is held. -/
def allRepeating (held : Value) (messages : List Fields) : List Fields :=
  messages.mapIdx fun i message => repeating (heldAfter held (messages.take i)) message

variable {message : Fields} {held v : Value}

theorem heldAfter_append (held : Value) (earlier later : List Fields) :
    heldAfter held (earlier ++ later) = heldAfter (heldAfter held earlier) later := by
  rw [heldAfter, List.filterMap_append, List.getLast?_append, Option.getD_or]
  rfl

theorem heldAfter_single (held : Value) (message : Fields) :
    heldAfter held [message] = (brought? message).getD held := by
  cases brought : brought? message <;> simp [heldAfter, brought]

theorem allRepeating_cons (held : Value) (message : Fields) (messages : List Fields) :
    allRepeating held (message :: messages) =
      repeating held message :: allRepeating (heldAfter held [message]) messages := by
  rw [allRepeating, List.mapIdx_cons]
  congr 2
  funext i later
  rw [List.take_succ_cons, ← heldAfter_append]
  rfl

theorem reported?_eq_none :
    reported? message = none ↔ (message.lookup "host").getD .null = .null := by
  unfold reported?
  split
  · rename_i null
    simp [null]
  · rename_i other
    cases given : message.lookup "host" with
    | none => simp
    | some v => simpa [given] using other

theorem reported?_eq_some :
    reported? message = some v ↔ message.lookup "host" = some v ∧ v ≠ .null := by
  unfold reported?
  split
  · rename_i null
    simp only [null, reduceCtorEq, Option.some.injEq, false_iff, not_and, not_not]
    exact Eq.symm
  · rename_i other
    refine ⟨fun given => ⟨given, ?_⟩, And.left⟩
    rintro rfl
    exact other given

end Reports

section Ticks

variable {s : Session} {message : Fields} {held v : Value} {dt : Float} {given : Option Controls}

/-- The length of a tick as a message gives it. -/
def lengthOf (message : Fields) : Except RequestFault Float :=
  ((message.lookup "dt").getD (.float 0.0)).toFloat.mapError .number

theorem Request.tickOf_bare (bare : reported? message = none) :
    Request.tickOf message = (lengthOf message).map (Request.tick · none) := by
  rw [reported?_eq_none] at bare
  simp only [Request.tickOf, bare, lengthOf]
  cases ((message.lookup "dt").getD (.float 0.0)).toFloat <;> rfl

theorem Request.tickOf_reported (reported : reported? message = some v) :
    Request.tickOf message = (Controls.check v).mapError RequestFault.controls >>= fun controls =>
      (lengthOf message).map (Request.tick · (some controls)) := by
  obtain ⟨given, there⟩ := reported?_eq_some.mp reported
  simp only [Request.tickOf, given, Option.getD_some, lengthOf]
  cases v with
  | null => exact absurd rfl there
  | _ =>
      cases Controls.check _ with
      | error issues => rfl
      | ok controls => cases ((message.lookup "dt").getD (.float 0.0)).toFloat <;> rfl

theorem Request.ofMessage_of_isTick (timed : isTick message) :
    Request.ofMessage message = Request.tickOf message := by
  have type : (message.lookup "type").getD .null = .text "TICK" := by
    unfold isTick at timed
    split at timed
    · rename_i type
      rw [type]
      rfl
    · cases timed
  simp only [Request.ofMessage, type]

theorem Request.isTick_of_ofMessage (asked : Request.ofMessage message = .ok (.tick dt given)) :
    isTick message := by
  have type : message.lookup "type" = some (.text "TICK") := Request.ofMessage_type asked
  rw [isTick, type]
  rfl

/-- A report is brought by the messages from which a tick with controls comes. -/
theorem brought?_of_ok (asked : Request.ofMessage message = .ok (.tick dt given)) :
    brought? message = reported? message := by
  have timed := Request.isTick_of_ofMessage asked
  have inOrder : tickInOrder message := by
    rw [← Request.tickOf_isOk, ← Request.ofMessage_of_isTick timed, asked]
    rfl
  rw [brought?, timed, inOrder]
  rfl

theorem brought?_of_other (other : ∀ dt given, Request.ofMessage message ≠ .ok (.tick dt given)) :
    brought? message = none := by
  unfold brought?
  split
  · rename_i both
    rw [Bool.and_eq_true] at both
    rw [← Request.tickOf_isOk, ← Request.ofMessage_of_isTick both.1] at both
    cases asked : Request.ofMessage message with
    | error fault =>
        rw [asked] at both
        cases both.2
    | ok request =>
        rw [Request.ofMessage_of_isTick both.1] at asked
        obtain ⟨dt, given, rfl⟩ := Request.tickOf_eq_ok asked
        rw [← Request.ofMessage_of_isTick both.1] at asked
        exact absurd asked (other dt given)
  · rfl

/-- The controls that come with a tick are those that are reported. -/
theorem Request.tick_controls (asked : Request.ofMessage message = .ok (.tick dt given)) :
    match reported? message with
    | none => given = none
    | some v => ∃ controls, Controls.check v = .ok controls ∧ given = some controls := by
  rw [Request.ofMessage_of_isTick (Request.isTick_of_ofMessage asked)] at asked
  cases reported : reported? message with
  | none =>
      rw [Request.tickOf_bare reported] at asked
      cases length : lengthOf message with
      | error fault =>
          rw [length] at asked
          cases asked
      | ok dt =>
          rw [length] at asked
          cases asked
          rfl
  | some v =>
      rw [Request.tickOf_reported reported] at asked
      obtain ⟨controls, valid, asked⟩ := bind_eq_ok.mp asked
      refine ⟨controls, mapError_eq_ok.mp valid, ?_⟩
      cases length : lengthOf message with
      | error fault =>
          rw [length] at asked
          cases asked
      | ok dt =>
          rw [length] at asked
          cases asked
          rfl

/-- A tick leaves its controls in force, whether or not it completes. -/
theorem Session.perform_tick (s : Session) (dt : Float) (given : Option Controls) :
    (s.perform (.tick dt given)).1 = (s.tick dt given).1 := by
  simp only [Session.perform]
  split <;> rename_i ticked <;> rw [ticked]

/-- Only ticks change the controls in force. -/
theorem Session.perform_controls {request : Request}
    (untimed : ∀ dt given, request ≠ .tick dt given) :
    (s.perform request).1.controls = s.controls := by
  cases request with
  | compile source => rfl
  | tick dt given => exact absurd rfl (untimed dt given)
  | load text => rfl
  | save =>
      simp only [Session.perform]
      split <;> rfl
  | spawn kind x y params =>
      simp only [Session.perform, Session.spawn]
      cases Body.createNamed kind params <;> rfl
  | remove id =>
      simp only [Session.perform, Session.remove]
      cases s.circuit.find (.int id) with
      | error fault => rfl
      | ok ref =>
          cases removed : s.circuit.remove ref <;>
            simp [bind, Except.bind, removed, pure, Except.pure]
  | connect source outletSlot target inletSlot =>
      simp only [Session.perform, Session.connect]
      cases s.circuit.find (.int source) with
      | error fault => rfl
      | ok source =>
          cases s.circuit.find (.int target) with
          | error fault => rfl
          | ok target =>
              cases made : s.circuit.connect source outletSlot target inletSlot <;>
                simp [bind, Except.bind, made, pure, Except.pure]

/-- The controls in force are those of the report that is held. -/
theorem Session.respond_held (valid : Controls.check held = .ok s.controls) (message : Fields) :
    Controls.check (heldAfter held [message]) = .ok (s.respond message).1.controls := by
  rw [heldAfter_single]
  by_cases timed : ∃ dt given, Request.ofMessage message = .ok (.tick dt given)
  · obtain ⟨dt, given, asked⟩ := timed
    have controls := Request.tick_controls asked
    rw [brought?_of_ok asked, Session.respond_of_ok asked, Session.perform_tick]
    cases reported : reported? message with
    | none =>
        rw [reported] at controls
        obtain rfl : given = none := controls
        exact valid
    | some v =>
        rw [reported] at controls
        obtain ⟨controls, checked, rfl⟩ := controls
        exact checked
  · simp only [not_exists] at timed
    rw [brought?_of_other timed]
    cases asked : Request.ofMessage message with
    | error fault =>
        rw [Session.respond_of_error asked]
        exact valid
    | ok request =>
        rw [Session.respond_of_ok asked, Session.perform_controls]
        · exact valid
        · rintro dt given rfl
          exact timed dt given asked

theorem Session.after_held (valid : Controls.check held = .ok s.controls) (messages : List Fields) :
    Controls.check (heldAfter held messages) = .ok (s.after messages).controls := by
  induction messages generalizing s held with
  | nil => exact valid
  | cons message messages ih =>
      have next := ih (Session.respond_held valid message)
      rwa [← heldAfter_append] at next

/-- A tick without a report is answered as if it repeated the one that is held. -/
theorem Session.respond_repeating (valid : Controls.check held = .ok s.controls)
    (timed : isTick message) : s.respond (repeating held message) = s.respond message := by
  unfold repeating
  split
  · rfl
  · rename_i bare
    rw [Option.not_isSome_iff_eq_none] at bare
    have there : held ≠ .null := by
      rintro rfl
      cases valid
    have reported : reported? (putEntry "host" held message) = some held :=
      reported?_eq_some.mpr ⟨lookup_putEntry_self _ _ _, there⟩
    have timed' : isTick (putEntry "host" held message) := by
      rw [isTick, lookup_putEntry_ne (by decide)]
      exact timed
    have length : lengthOf (putEntry "host" held message) = lengthOf message := by
      rw [lengthOf, lookup_putEntry_ne (by decide)]
      rfl
    have asked := Request.ofMessage_of_isTick timed
    have asked' := Request.ofMessage_of_isTick timed'
    rw [Request.tickOf_bare bare] at asked
    rw [Request.tickOf_reported reported, valid, length] at asked'
    cases given : lengthOf message with
    | error fault =>
        rw [given] at asked asked'
        rw [Session.respond_of_error asked, Session.respond_of_error asked']
    | ok dt =>
        rw [given] at asked asked'
        rw [Session.respond_of_ok asked, Session.respond_of_ok asked']
        rfl

/-- Ticks are answered as if those without a report repeated the one that is held. -/
theorem Session.replies_repeating (valid : Controls.check held = .ok s.controls)
    {run : List Fields} (timed : ∀ message ∈ run, isTick message) :
    s.replies (allRepeating held run) = s.replies run ∧
      s.after (allRepeating held run) = s.after run := by
  induction run generalizing s held with
  | nil => exact ⟨rfl, rfl⟩
  | cons message run ih =>
      rw [List.forall_mem_cons] at timed
      have first := Session.respond_repeating valid timed.1
      obtain ⟨replies, after⟩ := ih (Session.respond_held valid message) timed.2
      rw [allRepeating_cons]
      constructor
      · rw [Session.replies, first, replies]
        rfl
      · change (s.respond (repeating held message)).1.after _ = _
        rw [first, after]
        rfl

end Ticks

end SignalGraph
