import SignalGraph.Proofs.Session.Refusing
import SignalGraph.Proofs.Session.Shown
import SignalGraph.Proofs.Text.Printed
import SignalGraph.Run.Basic

/-!
Traces and sessions. The trace of a run that completes has one line for each tick, and the line is
what a new session with the same seed shows in its reply when it is told the same text and asked for
as many ticks: the same count, the same numbers at the outlets, and the same sinks.
-/

namespace SignalGraph

section Names

theorem Text.digitsOfNat_injective : Function.Injective Text.digitsOfNat := by
  intro n m same
  rw [← Nat.ofDigitChars_ten_toDigits (n := n), ← Nat.ofDigitChars_ten_toDigits (n := m)]
  exact congrArg (Nat.ofDigitChars 10 · 0) same

/-- Different ids have different texts. -/
theorem Text.ofInt_injective : Function.Injective Text.ofInt := by
  have minus (n m : Nat) : '-' :: Text.digitsOfNat n ≠ Text.digitsOfNat m := by
    intro same
    have digit := Decimal.digitsOfNat_isDigit m '-' (same ▸ List.mem_cons_self)
    exact absurd digit (by decide)
  intro i j same
  cases i <;> cases j <;> have chars := String.ofList_injective same
  · rw [Text.digitsOfNat_injective chars]
  · exact absurd chars.symm (minus _ _)
  · exact absurd chars (minus _ _)
  · obtain ⟨-, digits⟩ := List.cons.inj chars
    rw [Nat.succ.inj (Text.digitsOfNat_injective digits)]

end Names

section Lines

/-- A status as a line of a trace shows it: without the nodes that have no outlets, and with the ids
as texts. -/
def Status.traceLine (status : Status) : Value :=
  let signals := status.signals.filter fun entry => !entry.2.isEmpty
  .object [("tick", .int status.tick), ("outputs", signalsValue signals),
    ("sinks", sinksValue status.sinks)]

variable {c : Circuit}

theorem Circuit.Sound.tracedSignals_eq (h : c.Sound) :
    c.tracedSignals = (c.signals.filter fun entry => !entry.2.isEmpty).map fun entry =>
      (Text.ofInt entry.1, entry.2) := by
  let numbers? (node : Node) : Option (List Float) :=
    if node.outlets.isEmpty then none else some node.outlets
  have traced : c.tracedSignals = c.nodes.filterMap fun node =>
      (numbers? node).map fun xs => (Text.ofInt node.idNumber, xs) := by
    apply foldl_entries Text.ofInt numbers? Text.ofInt_injective h.ids_once
    intro signals node
    simp only [numbers?]
    split <;> rfl
  rw [traced, h.signals_eq]
  induction c.nodes with
  | nil => rfl
  | cons node nodes ih =>
      simp only [numbers?] at ih ⊢
      rw [List.filterMap_cons, ih, List.map_cons, List.filter_cons]
      cases node.outlets with
      | nil => rfl
      | cons x xs => rfl

theorem Circuit.Sound.tracedSinks_eq (h : c.Sound) :
    c.tracedSinks = c.sinks.map fun entry => (Text.ofInt entry.1, entry.2) := by
  have traced : c.tracedSinks = c.nodes.filterMap fun node =>
      node.body.sinkState?.map fun state => (Text.ofInt node.idNumber, state) := by
    apply foldl_entries Text.ofInt _ Text.ofInt_injective h.ids_once
    intro sinks node
    cases node.body.sinkState? <;> rfl
  rw [h.sinks_eq, traced, List.map_filterMap]
  simp only [Option.map_map, Function.comp_def]

/-- What a trace tells about a tick is what a session shows after it. -/
theorem Circuit.Sound.trace_eq (h : c.Sound) : c.trace = c.status.traceLine := by
  rw [Circuit.trace, h.tracedSignals_eq, h.tracedSinks_eq, List.map_map, List.map_map]
  rfl

end Lines

section Ticks

/-- The message that asks for a tick. -/
def tickMessage (dt : Float) : Fields := [("type", .text "TICK"), ("dt", .float dt)]

/-- A session after a number of ticks that it has been asked for. -/
def Session.ticked (s : Session) (dt : Float) (count : Nat) : Session :=
  s.after (List.replicate count (tickMessage dt))

variable (s : Session) (dt : Float)

theorem Session.respond_tickMessage :
    s.respond (tickMessage dt) = s.perform (.tick dt none) := by
  have asked : Request.ofMessage (tickMessage dt) = .ok (.tick dt none) := rfl
  exact Session.respond_of_ok asked

/-- A tick that completes is answered with what the session shows then. -/
theorem Session.respond_of_tick {next : Session} (completes : s.tick dt none = (next, none)) :
    s.respond (tickMessage dt) = (next, .ticked next.circuit.status) := by
  rw [s.respond_tickMessage, Session.perform, completes]

/-- How ticks of a run that complete go on from a session: each is answered with a status, the trace
grows by what it tells, and the session is the one that has been asked for the ticks. -/
theorem Drive.run_records (drive : Drive) (count : Nat)
    (completes : (drive.run dt true count).fault = none) :
    (drive.run dt true count).session = drive.session.ticked dt count ∧
      (drive.run dt true count).trace.toList = drive.trace.toList ++
        (List.range count).map (fun k => (drive.session.ticked dt (k + 1)).circuit.trace) ∧
      ∀ k < count, ((drive.session.ticked dt k).respond (tickMessage dt)).2 =
        .ticked (drive.session.ticked dt (k + 1)).circuit.status := by
  induction count generalizing drive with
  | zero => exact ⟨rfl, (List.append_nil _).symm, fun _ before => absurd before (Nat.not_lt_zero _)⟩
  | succ count ih =>
      simp only [Drive.run] at completes ⊢
      cases ticked : drive.session.tick dt none with
      | mk next fault =>
          rw [ticked] at completes
          cases fault with
          | some fault => cases completes
          | none =>
              have answered := drive.session.respond_of_tick dt ticked
              have later : ∀ k, drive.session.ticked dt (k + 1) = next.ticked dt k := by
                intro k
                have first : drive.session.ticked dt (k + 1) =
                    (drive.session.respond (tickMessage dt)).1.ticked dt k := rfl
                rw [first, answered]
              obtain ⟨session, trace, replies⟩ := ih _ completes
              refine ⟨?_, ?_, ?_⟩
              · rw [later]
                exact session
              · rw [List.range_succ_eq_map, List.map_cons, List.map_map]
                simp only [Function.comp_def, later]
                refine trace.trans ?_
                simp only [↓reduceIte, Array.toList_push, List.append_assoc, List.singleton_append]
                rfl
              · intro k before
                cases k with
                | zero =>
                    rw [later]
                    exact congrArg Prod.snd answered
                | succ k =>
                    rw [later, later]
                    exact replies k (Nat.lt_of_succ_lt_succ before)

end Ticks

section Runs

/-- The message that tells a session the text that a run opens. -/
def openingMessage (text : String) : Fields :=
  if isArchive text then [("type", .text "LOAD"), ("text", .text text)]
  else [("type", .text "COMPILE"), ("source", .text text)]

variable (s : Session)

/-- A run opens a text as a session does that is told it. -/
theorem Session.start_eq_respond (path text : String) :
    (s.start path text).1 = (s.respond (openingMessage text)).1 ∧
      ∀ result, (s.respond (openingMessage text)).2 = .compiled result →
        (s.start path text).2.2 = result.fault := by
  unfold Session.start openingMessage
  split
  · refine ⟨rfl, fun result told => ?_⟩
    cases told
  · refine ⟨rfl, fun result told => ?_⟩
    cases told
    rfl

/-- Opening a text counts no tick. -/
theorem Session.opened_tickCount (text : String) :
    (s.respond (openingMessage text)).1.circuit.graph.tickCount = s.circuit.graph.tickCount := by
  unfold openingMessage
  split
  · have untimed : ∀ dt controls, Request.load text ≠ .tick dt controls := nofun
    have kept : (s.perform (.load text)).1.circuit.graph.tickCount =
        s.circuit.graph.tickCount := (Session.perform_untimed untimed).1
    exact kept
  · have untimed : ∀ dt controls, Request.compile text ≠ .tick dt controls := nofun
    have kept : (s.perform (.compile text)).1.circuit.graph.tickCount =
        s.circuit.graph.tickCount := (Session.perform_untimed untimed).1
    exact kept

theorem Session.ticked_tickCount (dt : Float) (count : Nat) :
    (s.ticked dt count).circuit.graph.tickCount = s.circuit.graph.tickCount + count := by
  induction count generalizing s with
  | zero => rfl
  | succ count ih =>
      have first : s.ticked dt (count + 1) =
          (s.respond (tickMessage dt)).1.ticked dt count := rfl
      rw [first, ih, s.respond_tickMessage, s.perform_tick_count]
      omega

theorem jsonLines_eq_empty_iff {values : List Value} : jsonLines values = "" ↔ values = [] := by
  constructor
  · intro nothing
    have lines := Json.lines_jsonLines values
    rw [nothing] at lines
    exact List.map_eq_nil_iff.mp lines.symm
  · rintro rfl
    rfl

/-- The trace is a file of its own, and there as soon as it has a line. -/
theorem RunRecord.files_trace (record : RunRecord) (settings : Settings) (time : String) :
    (record.files settings time).lookup "trace.jsonl" =
      if record.trace = [] then none else some (jsonLines record.trace) := by
  have saved : (record.saved.map fun saved => ("graph.toy", saved)).toList.lookup "trace.jsonl" =
      none := by
    cases record.saved <;> rfl
  have skip (name text : String) (files : List (String × String))
      (other : ("trace.jsonl" == name) = false) :
      (((name, text) :: files).filter fun log => log.2 ≠ "").lookup "trace.jsonl" =
        (files.filter fun log => log.2 ≠ "").lookup "trace.jsonl" := by
    rw [List.filter_cons]
    split
    · rw [List.lookup_cons, other]
    · rfl
  simp only [RunRecord.files]
  rw [List.lookup_append, List.singleton_append, List.lookup_cons, saved, Option.or_none]
  rw [skip _ _ _ (by decide), skip _ _ _ (by decide), List.filter_cons]
  simp only [ne_eq, jsonLines_eq_empty_iff]
  by_cases empty : record.trace = []
  · simp [empty]
  · simp [empty]

/-- A run whose text opens without a fault shows what its ticks show, and completes only if they
do. -/
theorem Session.record_drive (settings : Settings) {path text : String} {next : Session}
    {events : List Event} (started : s.start path text = (next, events, none)) :
    let drive := Drive.run { session := next } settings.dt settings.trace settings.ticks
    (s.record settings path text).trace = drive.trace.toList ∧
      ((s.record settings path text).fault = none → drive.fault = none) := by
  intro drive
  unfold Session.record
  rw [started]
  simp only
  cases failed : drive.fault with
  | some fault => exact ⟨rfl, fun completes => nomatch completes⟩
  | none => cases drive.session.save <;> exact ⟨rfl, fun _ => rfl⟩

/-- A run that completes has opened its text without a fault and gone through all its ticks. -/
theorem Session.record_traces (settings : Settings) (path text : String)
    (traced : settings.trace) (completes : (s.record settings path text).fault = none) :
    let opened := (s.respond (openingMessage text)).1
    (s.start path text).2.2 = none ∧
      (s.record settings path text).trace = (List.range settings.ticks).map (fun k =>
        (opened.ticked settings.dt (k + 1)).circuit.trace) ∧
      ∀ k < settings.ticks,
        ((opened.ticked settings.dt k).respond (tickMessage settings.dt)).2 =
          .ticked (opened.ticked settings.dt (k + 1)).circuit.status := by
  intro opened
  have start : (s.start path text).1 = opened := (s.start_eq_respond path text).1
  cases started : s.start path text with
  | mk next told =>
      obtain ⟨events, fault⟩ := told
      cases fault with
      | some fault =>
          rw [Session.record, started] at completes
          cases completes
      | none =>
          rw [started] at start
          obtain ⟨trace, well⟩ := s.record_drive settings started
          have driven := well completes
          rw [traced] at trace driven
          obtain ⟨-, traces, replies⟩ := Drive.run_records settings.dt _ _ driven
          rw [← start]
          exact ⟨rfl, trace.trans traces, replies⟩

/-- Opening a text and ticking keep the circuit of a session sound. -/
theorem Session.ticked_sound {s : Session} (h : s.circuit.Sound) (dt : Float) (count : Nat) :
    (s.ticked dt count).circuit.Sound := Session.after_sound h _

/-- The trace of a run that completes, for any text and any settings with a trace. A new session of
the same seed and mode that is told the text opens it, too, and answers each of as many ticks of the
same length with a status; the trace has a line for each of them, and the line is what the status
shows. The lines are those of the trace's file, which is there unless no tick is asked for. -/
theorem Settings.run_traces (settings : Settings) (entropy : Nat) (path text time : String)
    (traced : settings.trace) (completes : (settings.run entropy path text).fault = none) :
    let record := settings.run entropy path text
    ∃ seed, settings.seed.elim (.ok entropy) Random.seedOfInt = .ok seed ∧
      let (opened, reply) :=
        (Session.ofSeed seed settings.mode).respond (openingMessage text)
      (∀ result, reply = .compiled result → result.isOk) ∧
        record.trace.length = settings.ticks ∧
        (∀ k < settings.ticks, ∃ status,
          ((opened.ticked settings.dt k).respond (tickMessage settings.dt)).2 = .ticked status ∧
            status.tick = k + 1 ∧ record.trace[k]? = some status.traceLine) ∧
        (record.files settings time).lookup "trace.jsonl" =
          (if settings.ticks = 0 then none else some (jsonLines record.trace)) ∧
        Text.lines (jsonLines record.trace).toList =
          record.trace.map fun v => (Json.compact v).toList := by
  intro record
  cases seeded : settings.seed.elim (.ok entropy) Random.seedOfInt with
  | error fault =>
      rw [Settings.run, seeded] at completes
      cases completes
  | ok seed =>
      have run : record = (Session.ofSeed seed settings.mode).record settings path text := by
        simp only [record, Settings.run, seeded]
      rw [← show record = settings.run entropy path text from rfl, run] at completes
      obtain ⟨told, trace, replies⟩ := Session.record_traces _ settings path text traced completes
      rw [← run] at trace
      have sound : (Session.ofSeed seed settings.mode).circuit.Sound :=
        Circuit.sound_of_empty rfl rfl
      have opens := ((Session.ofSeed seed settings.mode).start_eq_respond path text).2
      have start := (Session.ofSeed seed settings.mode).opened_tickCount text
      have ready := Session.respond_sound sound (openingMessage text)
      refine ⟨seed, rfl, ?_⟩
      cases opening : (Session.ofSeed seed settings.mode).respond (openingMessage text) with
      | mk opened reply =>
          rw [opening] at trace replies opens start ready
          have length : record.trace.length = settings.ticks := by
            rw [trace, List.length_map, List.length_range]
          refine ⟨?_, length, ?_, ?_, Json.lines_jsonLines record.trace⟩
          · intro result compiled
            rw [CompileResult.isOk, ← opens result compiled, told]
            rfl
          · intro k before
            refine ⟨_, replies k before, ?_, ?_⟩
            · have ticks := opened.ticked_tickCount settings.dt (k + 1)
              rw [start] at ticks
              exact ticks.trans (Nat.zero_add _)
            · have line := (Session.ticked_sound ready settings.dt (k + 1)).trace_eq
              rw [trace, List.getElem?_map, List.getElem?_range before, ← line]
              rfl
          · rw [record.files_trace]
            simp only [← length, List.length_eq_zero_iff]

/-- Two ticks of a script that beeps: the trace has two lines. -/
theorem Settings.run_traces_beep :
    let settings : Settings :=
      { dt := 0.5, ticks := 2, seed := some 7, atomicCompile := true, trace := true
        runsRoot := .ofText "runs" }
    let record := settings.run 0 "beep.tc" "x = 1; beep(x);"
    record.fault = none ∧ record.trace.length = 2 ∧
      (record.files settings "noon").lookup "trace.jsonl" = some (jsonLines record.trace) := by
  intro settings record
  have completes : (settings.run 0 "beep.tc" "x = 1; beep(x);").fault = none := by
    decide +kernel
  obtain ⟨seed, -, -, length, -, file, -⟩ :=
    Settings.run_traces settings 0 "beep.tc" "x = 1; beep(x);" "noon" rfl completes
  exact ⟨completes, length, file⟩

end Runs

end SignalGraph
