import SignalGraph.Proofs.Graph.Sweep
import SignalGraph.Proofs.Session.Holding
import SignalGraph.Proofs.Session.Sharing

/-!
Buttons and the controls that stay in force. A button looks at the controls in the ticks that
evaluate it and remembers whether it was down. So what it shows after some ticks is told by what it
has seen: a toggle changes with every press that follows a release, and any other button shows the
last that it has seen.
-/

namespace SignalGraph

section Presses

/-- How many presses begin in what a button sees, where `wasDown` is what it saw before. -/
def pressesAfter (wasDown : Bool) : List Bool → Nat
  | [] => 0
  | down :: seen => (down && !wasDown).toNat + pressesAfter down seen

/-- Whether a button is pressed when it has seen all this. -/
def pressedAfter (toggle pressed wasDown : Bool) (seen : List Bool) : Bool :=
  if toggle then (pressed.toNat + pressesAfter wasDown seen) % 2 = 1 else seen.getLast?.getD pressed

theorem pressesAfter_concat (wasDown : Bool) (seen : List Bool) (down : Bool) :
    pressesAfter wasDown (seen ++ [down]) =
      pressesAfter wasDown seen + (down && !seen.getLast?.getD wasDown).toNat := by
  induction seen generalizing wasDown with
  | nil => simp [pressesAfter]
  | cons first seen ih =>
      rw [List.cons_append, pressesAfter, pressesAfter, ih, List.getLast?_cons, Nat.add_assoc]
      rfl

/-- What a button makes of the next thing it sees. -/
theorem pressedAfter_concat (toggle pressed wasDown : Bool) (seen : List Bool) (down : Bool) :
    pressedAfter toggle pressed wasDown (seen ++ [down]) =
      if toggle then
        if down && !seen.getLast?.getD wasDown then !pressedAfter toggle pressed wasDown seen
        else pressedAfter toggle pressed wasDown seen
      else down := by
  cases toggle with
  | false => simp [pressedAfter]
  | true =>
      simp only [pressedAfter, ↓reduceIte, pressesAfter_concat]
      cases down && !seen.getLast?.getD wasDown with
      | false => rfl
      | true =>
          simp only [Bool.toNat_true, ↓reduceIte, ← decide_not, decide_eq_decide]
          omega

end Presses

section Ticks

variable {c : Circuit} {dt : Float} {controls : Controls} {ref : Ref}

/-- A button as it is after it has seen something. -/
def Node.pressing (node : Node) (toggle pressed wasDown down : Bool) : Node :=
  let now := if toggle then if down && !wasDown then !pressed else pressed else down
  { node with body := .button toggle now down, outlets := [ofBool now] }

/-- A button as it is after it has seen all this. -/
def Node.pressed (node : Node) (toggle pressed wasDown : Bool) (seen : List Bool) : Node :=
  let now := pressedAfter toggle pressed wasDown seen
  { node with
    body := .button toggle now (seen.getLast?.getD wasDown)
    outlets := if seen = [] then node.outlets else [ofBool now] }

theorem Node.pressed_nil {node : Node} {toggle pressed wasDown : Bool}
    (body : node.body = .button toggle pressed wasDown) :
    node.pressed toggle pressed wasDown [] = node := by
  have now : pressedAfter toggle pressed wasDown [] = pressed := by
    cases toggle <;> cases pressed <;> rfl
  simp only [Node.pressed, now, List.getLast?_nil, Option.getD_none, ← body, ↓reduceIte]

theorem Node.pressed_concat (node : Node) (toggle pressed wasDown : Bool) (seen : List Bool)
    (down : Bool) : node.pressed toggle pressed wasDown (seen ++ [down]) =
      (node.pressed toggle pressed wasDown seen).pressing toggle
        (pressedAfter toggle pressed wasDown seen) (seen.getLast?.getD wasDown) down := by
  simp [Node.pressed, Node.pressing, pressedAfter_concat]

/-- A tick that gets to a button shows it its controls, whether or not the tick completes. Any other
tick leaves it alone. -/
theorem Circuit.Sound.tick_button (h : c.Sound) (dt : Float) (controls : Controls)
    (listed : ref ∈ c.graph.nodes) {toggle pressed wasDown : Bool}
    (body : (c.node ref).body = .button toggle pressed wasDown) :
    (c.tick dt controls).1.node ref =
      if c.evaluates dt controls ref then
        (c.node ref).pressing toggle pressed wasDown (controls.buttonDown (c.node ref).idNumber)
      else c.node ref := by
  split
  · rename_i evaluated
    rw [h.tick_evaluated evaluated]
    simp only [Circuit.effect, body, Body.step, Option.getD_some]
    rfl
  · rename_i missed
    exact Circuit.tick_missed listed (Bool.eq_false_iff.mpr missed)

end Ticks

section Bodies

/-- Whether a body remembers no press. -/
def Body.isRested : Body → Bool
  | .button _ _ wasDown => !wasDown
  | _ => true

variable {body : Body} {kind : Kind}

theorem Body.kind_eq_button :
    body.kind = .button ↔ ∃ toggle pressed wasDown, body = .button toggle pressed wasDown := by
  cases body <;> simp [Body.kind]

theorem Body.Made.isRested {param : Option Value} (made : Body.Made param kind body) :
    body.isRested := by
  cases made with
  | bare => cases kind <;> rfl
  | _ => rfl

theorem Body.isRested_of_gate
    (gate : body.isPure ∨ ∃ sink : Script.Sink, body = sink.body) : body.isRested := by
  rcases gate with pure | ⟨sink, rfl⟩
  · cases body <;> first | rfl | cases pure
  · cases sink <;> rfl

end Bodies

section Changes

/-- Between two ticks the listed nodes are the earlier ones in the same state, and nodes without an
id so far that remember nothing. -/
structure Circuit.Renews (c next : Circuit) : Prop where
  sound : next.Sound
  ids : c.KeepsIds next
  nodes : ∀ ref ∈ next.graph.nodes,
    (ref ∈ c.graph.nodes ∧ (next.node ref).body = (c.node ref).body) ∨
      ((c.node ref).id = none ∧ (next.node ref).body.isRested)

variable {c mid next : Circuit}

theorem Circuit.Renews.refl (sound : c.Sound) : c.Renews c :=
  ⟨sound, .refl c, fun _ listed => .inl ⟨listed, rfl⟩⟩

/-- Other inlets and fewer nodes are no change of state. -/
theorem Circuit.Renews.of_frame (h : c.Renews mid) (sound : next.Sound)
    (nodes : ∀ ref ∈ next.graph.nodes, ref ∈ mid.graph.nodes)
    (frame : ∀ ref, next.node ref = { mid.node ref with inlets := (next.node ref).inlets }) :
    c.Renews next := by
  have body (ref : Ref) : (next.node ref).body = (mid.node ref).body := by rw [frame ref]
  refine ⟨sound, h.ids.trans (.of_same fun ref => by rw [frame ref]), fun ref listed => ?_⟩
  rw [body ref]
  exact h.nodes ref (nodes ref listed)

theorem Circuit.Renews.connect (h : c.Renews mid) {source target : Ref} {outletSlot inletSlot : Int}
    {added : Bool} (made : mid.connect source outletSlot target inletSlot = .ok (next, added)) :
    c.Renews next := by
  obtain ⟨graph, frame⟩ := Circuit.connect_frame made
  refine h.of_frame (h.sound.connect made) ?_ frame
  rw [graph]
  exact fun _ listed => listed

theorem Circuit.Renews.remove (h : c.Renews mid) {ref : Ref} (removed : mid.remove ref = .ok next) :
    c.Renews next := by
  obtain ⟨nodes, frame⟩ := Circuit.remove_frame removed
  refine h.of_frame (h.sound.remove removed) ?_ frame
  rw [nodes]
  exact fun _ listed => List.mem_of_mem_erase listed

/-- Nodes that are not in the pool have no id in it, and had none before. -/
theorem Circuit.Renews.no_id (h : c.Renews mid) {ref : Ref} (outside : mid.pool.nodes.size ≤ ref) :
    (c.node ref).id = none := by
  cases bears : (c.node ref).id with
  | none => rfl
  | some id => exact absurd (Pool.lt_of_id (h.ids ref id bears)) (Nat.not_lt.mpr outside)

theorem Circuit.Renews.insert (h : c.Renews mid) {body : Body} (rested : body.isRested)
    (x y : Int) : c.Renews (mid.insert body x y).1 := by
  refine ⟨h.sound.insert body x y, h.ids.trans (mid.keepsIds_insert body x y),
    fun ref listed => ?_⟩
  rcases List.mem_append.mp listed with old | last
  · rw [mid.insert_other body x y (h.sound.lt_of_mem old)]
    exact h.nodes ref old
  · obtain rfl := List.mem_singleton.mp last
    have made : (mid.insert body x y).1.node mid.pool.nodes.size = _ :=
      (mid.insert_self body x y).2
    refine .inr ⟨h.no_id (Nat.le_refl _), ?_⟩
    rw [made]
    exact rested

theorem Circuit.renews_compile (sound : c.Sound) (mode : CompileMode) (source : String) :
    c.Renews (c.compile mode source).1 := by
  refine ⟨sound.compile mode source, c.keepsIds_compile mode source, ?_⟩
  rcases c.compile_leaves mode source with same | same <;> rw [same]
  · exact fun ref listed => .inl ⟨listed, rfl⟩
  · intro ref listed
    rw [(c.install_installed (Script.compile source).gates).nodes] at listed
    obtain ⟨i, mem, rfl⟩ := List.mem_map.mp listed
    have found := List.getElem?_eq_getElem (List.mem_range.mp mem)
    refine .inr ⟨(Circuit.Renews.refl sound).no_id (Nat.le_add_right _ _), ?_⟩
    rw [c.install_node _ found]
    exact Body.isRested_of_gate ((Script.compile_valid source).wired i _ found).body

theorem Circuit.renews_load (c : Circuit) (text : String) : c.Renews (c.load text) :=
  c.load_induction text
    ⟨Circuit.sound_of_empty rfl rfl, .of_same fun _ => rfl, fun _ listed => nomatch listed⟩
    (fun _ _ _ _ _ _ x y _ made _ _ h => by
      obtain ⟨_, new, -⟩ := Body.made_of_ofData made
      exact h.insert new.isRested x y)
    fun _ _ _ _ _ _ _ made h => h.connect made

theorem Session.perform_renews {s : Session} (sound : s.circuit.Sound) {request : Request}
    (untimed : ∀ dt given, request ≠ .tick dt given) :
    s.circuit.Renews (s.perform request).1.circuit :=
  Session.perform_induction request (.refl sound)
    (fun source _ => Circuit.renews_compile sound s.mode source)
    (fun dt given same => absurd same (untimed dt given))
    (fun text _ => s.circuit.renews_load text)
    (fun _ x y _ _ _ made => by
      obtain ⟨_, -, new⟩ := Body.made_of_createNamed made
      exact (Circuit.Renews.refl sound).insert new.isRested x y)
    (fun _ _ removed => (Circuit.Renews.refl sound).remove removed)
    fun _ _ _ _ _ _ made => (Circuit.Renews.refl sound).connect made

end Changes

section Sessions

/-- What a button sees of the controls in force when a message comes, if a tick evaluates it. -/
def Session.sight? (s : Session) (ref : Ref) (message : Fields) : Option Bool :=
  match Request.ofMessage message with
  | .ok (.tick dt given) =>
      let controls := given.getD s.controls
      if s.circuit.evaluates dt controls ref then
        some (controls.buttonDown (s.circuit.node ref).idNumber)
      else none
  | _ => none

/-- All that a button sees while messages are answered. -/
def Session.sights (s : Session) (ref : Ref) : List Fields → List Bool
  | [] => []
  | message :: messages =>
      (s.sight? ref message).toList ++ (s.respond message).1.sights ref messages

variable {s : Session} {ref : Ref} {message : Fields}

theorem Session.after_concat (s : Session) (messages : List Fields) (message : Fields) :
    s.after (messages ++ [message]) = ((s.after messages).respond message).1 := by
  rw [Session.after, List.foldl_append]
  rfl

theorem Session.sights_concat (s : Session) (ref : Ref) (messages : List Fields)
    (message : Fields) : s.sights ref (messages ++ [message]) =
      s.sights ref messages ++ ((s.after messages).sight? ref message).toList := by
  induction messages generalizing s with
  | nil => simp [Session.sights, Session.after]
  | cons first messages ih =>
      rw [List.cons_append, Session.sights, Session.sights, ih, List.append_assoc]
      rfl

theorem Session.sight?_of_unlisted (unlisted : ref ∉ s.circuit.graph.nodes) :
    s.sight? ref message = none := by
  have never (dt : Float) (controls : Controls) :
      s.circuit.evaluates dt controls ref = false := by
    rw [Circuit.evaluates, Bool.and_eq_false_iff]
    exact .inl (by simpa using unlisted)
  unfold Session.sight?
  split
  · exact if_neg (by rw [never]; exact Bool.false_ne_true)
  · rfl

theorem Session.sight?_of_other
    (other : ∀ dt given, Request.ofMessage message ≠ .ok (.tick dt given)) :
    s.sight? ref message = none := by
  unfold Session.sight?
  split
  · rename_i asked
    exact absurd asked (other _ _)
  · rfl

theorem Session.keepsIds_respond (s : Session) (message : Fields) :
    s.circuit.KeepsIds (s.respond message).1.circuit := by
  cases asked : Request.ofMessage message with
  | error fault =>
      rw [Session.respond_of_error asked]
      exact .refl _
  | ok request =>
      rw [Session.respond_of_ok asked]
      exact s.keepsIds_perform request

theorem Session.keepsIds_after (s : Session) (messages : List Fields) :
    s.circuit.KeepsIds (s.after messages).circuit := by
  induction messages generalizing s with
  | nil => exact .refl _
  | cons message messages ih => exact (s.keepsIds_respond message).trans (ih _)

/-- A node without an id has never been seen in a tick. -/
theorem Session.sights_of_no_id (sound : s.circuit.Sound) {messages : List Fields}
    (fresh : ((s.after messages).circuit.node ref).id = none) : s.sights ref messages = [] := by
  induction messages generalizing s with
  | nil => rfl
  | cons message messages ih =>
      have unlisted : ref ∉ s.circuit.graph.nodes := by
        intro listed
        obtain ⟨id, bears, -⟩ := sound.id_of_mem listed
        have later := s.keepsIds_after (message :: messages) ref id bears
        rw [fresh] at later
        cases later
      rw [Session.sights, Session.sight?_of_unlisted unlisted]
      exact ih (s.respond_sound sound message) fresh

/-- A tick shows a listed button the controls in force, if it evaluates it. -/
theorem Session.respond_button (sound : s.circuit.Sound) (listed : ref ∈ s.circuit.graph.nodes)
    {toggle pressed wasDown : Bool}
    (body : (s.circuit.node ref).body = .button toggle pressed wasDown) {dt : Float}
    {given : Option Controls} (asked : Request.ofMessage message = .ok (.tick dt given)) :
    ref ∈ (s.respond message).1.circuit.graph.nodes ∧
      (s.respond message).1.circuit.node ref =
        match s.sight? ref message with
        | some down => (s.circuit.node ref).pressing toggle pressed wasDown down
        | none => s.circuit.node ref := by
  rw [Session.respond_of_ok asked, Session.perform_tick]
  refine ⟨listed, ?_⟩
  have ticked := sound.tick_button dt (given.getD s.controls) listed body
  rw [Session.sight?, asked]
  dsimp only
  cases evaluated : s.circuit.evaluates dt (given.getD s.controls) ref with
  | true =>
      rw [evaluated] at ticked
      exact ticked
  | false =>
      rw [evaluated] at ticked
      exact ticked

/-- Whatever a message other than a tick asks for, no button that stays sees anything. -/
theorem Session.respond_renews (sound : s.circuit.Sound)
    (untimed : ∀ dt given, Request.ofMessage message ≠ .ok (.tick dt given)) :
    s.circuit.Renews (s.respond message).1.circuit := by
  cases asked : Request.ofMessage message with
  | error fault =>
      rw [Session.respond_of_error asked]
      exact .refl sound
  | ok request =>
      rw [Session.respond_of_ok asked]
      apply Session.perform_renews sound
      rintro dt given rfl
      exact untimed dt given asked

/-- A body that is a button after a tick was one before. -/
theorem Circuit.button_of_tick {c : Circuit} {dt : Float} {controls : Controls}
    {toggle pressed wasDown : Bool}
    (body : ((c.tick dt controls).1.node ref).body = .button toggle pressed wasDown) :
    ∃ toggle pressed wasDown, (c.node ref).body = .button toggle pressed wasDown := by
  have kind := (c.tick_keeps dt controls ref).body.kind
  rw [body] at kind
  exact Body.kind_eq_button.mp kind.symm

/-- After a tick a listed button remembers what it has seen in it, or what it remembered before. -/
theorem Session.remembers_tick (sound : s.circuit.Sound) {dt : Float} {given : Option Controls}
    (asked : Request.ofMessage message = .ok (.tick dt given)) {seen : List Bool}
    (listed : ref ∈ (s.respond message).1.circuit.graph.nodes) {toggle pressed wasDown : Bool}
    (body : ((s.respond message).1.circuit.node ref).body = .button toggle pressed wasDown)
    (remembers : ref ∈ s.circuit.graph.nodes → ∀ toggle pressed wasDown,
      (s.circuit.node ref).body = .button toggle pressed wasDown →
        wasDown = seen.getLast?.getD false) :
    wasDown = (seen ++ (s.sight? ref message).toList).getLast?.getD false := by
  have old : ref ∈ s.circuit.graph.nodes := by
    rw [Session.respond_of_ok asked, Session.perform_tick] at listed
    exact listed
  have stepped := body
  rw [Session.respond_of_ok asked, Session.perform_tick] at stepped
  obtain ⟨_, _, _, before⟩ := Circuit.button_of_tick stepped
  have after := (Session.respond_button sound old before asked).2
  rw [after] at body
  cases sight : s.sight? ref message with
  | none =>
      rw [sight] at body
      rw [Option.toList_none, List.append_nil]
      exact remembers old toggle pressed wasDown body
  | some down =>
      rw [sight] at body
      obtain ⟨-, -, rfl⟩ := Body.button.inj body
      simp

/-- What a listed button remembers is the last that it has seen. -/
theorem Session.after_remembers {start : Session} (sound : start.circuit.Sound)
    (empty : start.circuit.graph.nodes = []) (messages : List Fields) :
    ∀ ref ∈ (start.after messages).circuit.graph.nodes, ∀ toggle pressed wasDown,
      ((start.after messages).circuit.node ref).body = .button toggle pressed wasDown →
      wasDown = (start.sights ref messages).getLast?.getD false := by
  induction messages using List.reverseRecOn with
  | nil =>
      intro ref listed
      change ref ∈ start.circuit.graph.nodes at listed
      rw [empty] at listed
      cases listed
  | append_singleton messages message ih =>
      intro ref listed toggle pressed wasDown body
      have sound' := start.after_sound sound messages
      rw [Session.after_concat] at listed body
      rw [Session.sights_concat]
      by_cases timed : ∃ dt given, Request.ofMessage message = .ok (.tick dt given)
      · obtain ⟨dt, given, asked⟩ := timed
        exact Session.remembers_tick sound' asked listed body (ih ref)
      · simp only [not_exists] at timed
        rw [Session.sight?_of_other timed, Option.toList_none, List.append_nil]
        rcases (Session.respond_renews sound' timed).nodes ref listed with
          ⟨old, same⟩ | ⟨fresh, rested⟩
        · exact ih ref old toggle pressed wasDown (same.symm.trans body)
        · rw [Session.sights_of_no_id sound fresh]
          rw [body] at rested
          simpa [Body.isRested] using rested

/-- After some ticks a listed button is as all that it has seen in them makes it. -/
theorem Session.after_presses (sound : s.circuit.Sound) (listed : ref ∈ s.circuit.graph.nodes)
    {toggle pressed wasDown : Bool}
    (body : (s.circuit.node ref).body = .button toggle pressed wasDown) {run : List Fields}
    (timed : ∀ message ∈ run, isTick message) :
    ref ∈ (s.after run).circuit.graph.nodes ∧
      (s.after run).circuit.node ref =
        (s.circuit.node ref).pressed toggle pressed wasDown (s.sights ref run) := by
  induction run using List.reverseRecOn with
  | nil => exact ⟨listed, (Node.pressed_nil body).symm⟩
  | append_singleton run message ih =>
      rw [List.forall_mem_append, List.forall_mem_singleton] at timed
      obtain ⟨stays, node⟩ := ih timed.1
      rw [Session.after_concat, Session.sights_concat]
      cases asked : Request.ofMessage message with
      | error fault =>
          have unseen : (s.after run).sight? ref message = none :=
            Session.sight?_of_other fun _ _ other => nomatch asked.symm.trans other
          rw [Session.respond_of_error asked, unseen, Option.toList_none, List.append_nil]
          exact ⟨stays, node⟩
      | ok request =>
          rw [Request.ofMessage_of_isTick timed.2] at asked
          obtain ⟨dt, given, rfl⟩ := Request.tickOf_eq_ok asked
          rw [← Request.ofMessage_of_isTick timed.2] at asked
          obtain ⟨listed', node'⟩ := Session.respond_button (s.after_sound sound run) stays
            (congrArg Node.body node) asked
          refine ⟨listed', ?_⟩
          rw [node', node]
          cases (s.after run).sight? ref message with
          | none => rw [Option.toList_none, List.append_nil]
          | some down => exact (Node.pressed_concat ..).symm

/-- A session after any messages, and some ticks. The controls in force are those of the last report
that came with a tick in order, so the ticks are answered as if those without a report repeated the
one that is held. Of a listed button, what it saw last before the ticks is what it remembers. After
the ticks a toggle shows whether it was pressed at first or has seen an odd number of presses, but
not both; any other button shows the last that it has seen; and one that has seen nothing is as it
was. -/
theorem Session.ticks_hold (generator : Random.Generator) (mode : CompileMode)
    (before run : List Fields) (timed : ∀ message ∈ run, isTick message) :
    let start : Session := { circuit := { graph := { generator } }, mode }
    let s := start.after before
    (∀ n, Controls.check (heldAfter (.object []) (before ++ run.take n)) =
      .ok (s.after (run.take n)).controls) ∧
    (∀ held, Controls.check held = .ok s.controls →
      s.replies (allRepeating held run) = s.replies run ∧
        s.after (allRepeating held run) = s.after run) ∧
    ∀ ref ∈ s.circuit.graph.nodes, ∀ toggle pressed wasDown,
      (s.circuit.node ref).body = .button toggle pressed wasDown →
      let seen := s.sights ref run
      let node := (s.after run).circuit.node ref
      wasDown = (start.sights ref before).getLast?.getD false ∧
        (seen = [] → node = s.circuit.node ref) ∧
        ∀ last, seen.getLast? = some last → node.outlets =
          [ofBool (if toggle then (pressed.toNat + pressesAfter wasDown seen) % 2 = 1
            else last)] := by
  intro start s
  have sound : s.circuit.Sound := Session.after_sound (Circuit.sound_of_empty rfl rfl) before
  have idle : Controls.check (.object []) = .ok start.controls := rfl
  refine ⟨fun n => ?_, fun held valid => Session.replies_repeating valid timed, ?_⟩
  · rw [heldAfter_append]
    exact Session.after_held (Session.after_held idle before) (run.take n)
  · intro ref listed toggle pressed wasDown body seen node
    have made : node = (s.circuit.node ref).pressed toggle pressed wasDown seen :=
      (Session.after_presses sound listed body timed).2
    refine ⟨Session.after_remembers (Circuit.sound_of_empty rfl rfl) rfl before ref listed toggle
      pressed wasDown body, fun nothing => ?_, fun last sight => ?_⟩
    · rw [made, nothing, Node.pressed_nil body]
    · have given : seen ≠ [] := by
        rintro nothing
        rw [nothing] at sight
        cases sight
      rw [made, Node.pressed, if_neg given]
      simp only [pressedAfter, sight, Option.getD_some]

/-- A press is reported once and held over a tick without a report. A tick without a length and one
with controls that are none are refused and change nothing, and an empty report ends the press. The
toggle stays pressed, and the other button does not. -/
theorem Session.ticks_hold_released :
    let spawn (toggle : Bool) : Fields :=
      [("type", .text "SPAWN"), ("kind", .text "ButtonNode"),
        ("params", .object [("toggle", .bool toggle)])]
    let tick (fields : Fields) : Fields := ("type", .text "TICK") :: fields
    let down : Value := .object [("buttons", .object [("0", .bool true), ("1", .bool true)])]
    let run := [tick [("host", down)], tick [], tick [("dt", .text "soon"), ("host", .object [])],
      tick [("host", .object [("buttons", .int 3)])], tick [], tick [("host", .object [])]]
    let start : Session := { circuit := { graph := { generator := .ofSeed 0 } }, mode := .atomic }
    let s := start.after [spawn true, spawn false]
    (∀ message ∈ run, isTick message) ∧ s.sights 0 run = [true, true, true, false] ∧
      s.sights 1 run = [true, true, true, false] ∧
      s.replies (allRepeating (.object []) run) = s.replies run ∧
      ((s.after run).circuit.node 0).outlets = [1.0] ∧
      ((s.after run).circuit.node 1).outlets = [0.0] := by
  intro spawn tick down run start s
  have timed : ∀ message ∈ run, isTick message := by decide
  have toggle : s.sights 0 run = [true, true, true, false] := by decide +kernel
  have plain : s.sights 1 run = [true, true, true, false] := by decide +kernel
  obtain ⟨-, repeated, buttons⟩ :=
    Session.ticks_hold (.ofSeed 0) .atomic [spawn true, spawn false] run timed
  have shown (ref : Ref) (listed : ref ∈ s.circuit.graph.nodes) (toggle : Bool)
      (body : (s.circuit.node ref).body = .button toggle false false)
      (sees : s.sights ref run = [true, true, true, false]) :
      ((s.after run).circuit.node ref).outlets =
        [ofBool (if toggle then (0 + pressesAfter false [true, true, true, false]) % 2 = 1
          else false)] := by
    have outlets := (buttons ref listed toggle false false body).2.2 false
    rw [sees] at outlets
    exact outlets rfl
  exact ⟨timed, toggle, plain, (repeated _ rfl).1, shown 0 (by decide +kernel) true rfl toggle,
    shown 1 (by decide +kernel) false rfl plain⟩

end Sessions

end SignalGraph
