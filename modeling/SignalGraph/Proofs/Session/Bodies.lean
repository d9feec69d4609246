import SignalGraph.Proofs.Node.Making
import SignalGraph.Proofs.Session.Asking
import SignalGraph.Proofs.Session.Wiring

/-!
What the bodies of a circuit have in common. A property that every step of a body keeps, and that
all bodies have which scripts, saved texts and requests bring in, holds of every listed node of a
session, whatever messages it has answered. One such property is that keys, sounds and scripts are
texts, as long as all messages give them as texts.
-/

namespace SignalGraph

section Circuits

/-- A property of the bodies of all listed nodes. -/
def Circuit.AllBodies (c : Circuit) (P : Body → Prop) : Prop :=
  ∀ ref ∈ c.graph.nodes, P (c.node ref).body

/-- A property that a body keeps when it steps, and that all bodies have which come from a script or
from a saved text. -/
structure BodyLaw (P : Body → Prop) : Prop where
  step : ∀ around id inputs generator body, P body →
    P (Body.step around id inputs generator body).body
  gate : ∀ body : Body, (body.isPure ∨ ∃ sink : Script.Sink, body = sink.body) → P body
  data : ∀ kind data body, Body.ofData kind data = .ok body → P body

variable {c : Circuit} {P : Body → Prop}

theorem Circuit.AllBodies.of_frame {next : Circuit} (h : c.AllBodies P)
    (nodes : ∀ ref ∈ next.graph.nodes, ref ∈ c.graph.nodes)
    (frame : ∀ ref, (next.node ref).body = (c.node ref).body) : next.AllBodies P :=
  fun ref listed => frame ref ▸ h ref (nodes ref listed)

/-- In a turn a body steps or stays. -/
theorem Turn.step_body (around : Surroundings) (turn : Turn) (ref other : Ref) :
    let after := ((turn.step around ref).1.pool.get other).body
    after = (turn.pool.get other).body ∨ after = (turn.effect around other).body := by
  by_cases same : ref = other
  · subst same
    by_cases inside : ref < turn.pool.nodes.size
    · rw [turn.step_get_self around inside]
      exact .inr rfl
    · have nothing : (turn.step around ref).1.pool = turn.pool :=
        turn.pool.set_of_le _ (Nat.le_of_not_lt inside)
      rw [nothing]
      exact .inl rfl
  · rw [turn.step_get_ne around same]
    exact .inl rfl

theorem Circuit.AllBodies.tick (h : c.AllBodies P)
    (step : ∀ around id inputs generator body, P body →
      P (Body.step around id inputs generator body).body)
    (dt : Float) (controls : Controls) : (c.tick dt controls).1.AllBodies P := by
  apply Turn.run_induction { dt, controls }
    (P := fun turn => ∀ ref ∈ c.graph.nodes, P (turn.pool.get ref).body)
  · intro turn ref before other listed
    rcases turn.step_body { dt, controls } ref other with same | stepped
    · rw [same]
      exact before other listed
    · rw [stepped]
      exact step _ _ _ _ _ (before other listed)
  · exact h

theorem Circuit.AllBodies.insert (h : c.AllBodies P) (sound : c.Sound) {body : Body}
    (new : P body) (x y : Int) : (c.insert body x y).1.AllBodies P := by
  intro ref listed
  rcases sound.insert_frame listed with ⟨old, same⟩ | made
  · rw [same]
    exact h ref old
  · rw [made]
    exact new

theorem Circuit.AllBodies.connect (h : c.AllBodies P) {next : Circuit} {source target : Ref}
    {outletSlot inletSlot : Int} {added : Bool}
    (made : c.connect source outletSlot target inletSlot = .ok (next, added)) :
    next.AllBodies P := by
  obtain ⟨graph, frame⟩ := Circuit.connect_frame made
  refine h.of_frame ?_ fun ref => by rw [frame ref]
  rw [graph]
  exact fun _ listed => listed

theorem Circuit.AllBodies.remove (h : c.AllBodies P) {ref : Ref} {next : Circuit}
    (removed : c.remove ref = .ok next) : next.AllBodies P := by
  obtain ⟨nodes, frame⟩ := Circuit.remove_frame removed
  refine h.of_frame ?_ fun other => by rw [frame other]
  rw [nodes]
  exact fun _ listed => List.mem_of_mem_erase listed

theorem Circuit.AllBodies.compile (h : c.AllBodies P)
    (gate : ∀ body : Body, (body.isPure ∨ ∃ sink : Script.Sink, body = sink.body) → P body)
    (mode : CompileMode) (source : String) : (c.compile mode source).1.AllBodies P := by
  rcases c.compile_leaves mode source with same | same <;> rw [same]
  · exact h
  · intro ref listed
    rw [(c.install_installed (Script.compile source).gates).nodes] at listed
    obtain ⟨i, mem, rfl⟩ := List.mem_map.mp listed
    have found := List.getElem?_eq_getElem (List.mem_range.mp mem)
    rw [c.install_node _ found]
    exact gate _ ((Script.compile_valid source).wired i _ found).body

theorem Circuit.load_allBodies (law : BodyLaw P) (c : Circuit) (text : String) :
    (c.load text).AllBodies P := by
  refine And.right (c.load_induction text (P := fun c => c.Sound ∧ c.AllBodies P)
    ⟨Circuit.sound_of_empty rfl rfl, fun _ listed => nomatch listed⟩ ?_ ?_)
  · rintro c _ _ _ _ body x y - made - - ⟨sound, h⟩
    exact ⟨sound.insert body x y, h.insert sound (law.data _ _ body made) x y⟩
  · rintro c _ _ _ _ next _ made ⟨sound, h⟩
    exact ⟨sound.connect made, h.connect made⟩

end Circuits

section Sessions

variable {s : Session} {P : Body → Prop}

theorem Session.perform_allBodies (law : BodyLaw P) (sound : s.circuit.Sound)
    (h : s.circuit.AllBodies P) (request : Request)
    (created : ∀ kind x y params body, request = .spawn kind x y params →
      Body.createNamed kind params = .ok body → P body) :
    (s.perform request).1.circuit.AllBodies P :=
  Session.perform_induction request h (fun source _ => h.compile law.gate s.mode source)
    (fun dt controls _ => h.tick law.step dt (controls.getD s.controls))
    (fun text _ => s.circuit.load_allBodies law text)
    (fun kind x y params body asked made =>
      h.insert sound (created kind x y params body asked made) x y)
    (fun _ _ removed => h.remove removed) fun _ _ _ _ _ _ made => h.connect made

/-- What all bodies have that come from a script, a saved text or a message, all bodies of a session
have that it holds. -/
theorem Session.after_allBodies (law : BodyLaw P) (sound : s.circuit.Sound)
    (h : s.circuit.AllBodies P) (messages : List Fields)
    (created : ∀ message ∈ messages, ∀ kind x y params body,
      Request.ofMessage message = .ok (.spawn kind x y params) →
      Body.createNamed kind params = .ok body → P body) :
    (s.after messages).circuit.AllBodies P := by
  induction messages generalizing s with
  | nil => exact h
  | cons message messages ih =>
      refine ih (s.respond_sound sound message) ?_ fun other mem =>
        created other (List.mem_cons_of_mem _ mem)
      simp only [Session.respond]
      cases hrequest : Request.ofMessage message with
      | error fault => exact h
      | ok request =>
          refine s.perform_allBodies law sound h request fun kind x y params body same made => ?_
          exact created message List.mem_cons_self kind x y params body
            (hrequest.trans (congrArg _ same)) made

end Sessions

section Texts

def Value.isText : Value → Bool
  | .text _ => true
  | _ => false

def Value.isNumber : Value → Bool
  | .int _ => true
  | .float _ => true
  | _ => false

def Value.isFlag : Value → Bool
  | .bool _ => true
  | _ => false

/-- Whether a value is of the type that a parameter is declared with. -/
def suits (param : String) (v : Value) : Bool :=
  if param ∈ ["value", "elapsed"] then v.isNumber
  else if param = "toggle" then v.isFlag
  else if param ∈ ["op", "key", "sound", "script"] then v.isText
  else true

/-- Whether the parameters of a message that asks for a node are of the types that they are declared
with. Other messages have none. -/
def isDeclared (message : Fields) : Bool :=
  match message.lookup "type", message.lookup "params" with
  | some (.text "SPAWN"), some (.object params) => params.all fun (name, v) => suits name v
  | _, _ => true

/-- Whether the key, the sound or the script of a body is a text, if it has one. -/
def Body.hasTexts : Body → Bool
  | .key v => v.isText
  | .beep b => b.sound.isText
  | .script v => v.isText
  | _ => true

/-- A request for a node comes from a message that says so and holds its parameters. -/
theorem Request.ofMessage_spawn {message : Fields} {kind : Value} {x y : Int} {params : Fields}
    (h : Request.ofMessage message = .ok (.spawn kind x y params)) :
    message.lookup "type" = some (.text "SPAWN") ∧
      (message.lookup "params").getD (.object []) = .object params := by
  have type : message.lookup "type" = some (.text "SPAWN") := Request.ofMessage_type h
  simp only [Request.ofMessage, type, Option.getD_some] at h
  obtain ⟨_, _, _, _, same, given⟩ := Request.spawnOf_eq_ok h
  injection same with _ _ _ same
  rw [given, same]
  exact ⟨type, rfl⟩

/-- A key, a sound and a script are the parameter itself, where one is given. -/
theorem Body.Made.hasTexts {kind : Kind} {param : Option Value} {body : Body}
    (made : Body.Made param kind body)
    (texts : ∀ v, param = some v → kind ∈ [.key, .beep, .script] → v.isText) : body.hasTexts := by
  cases made with
  | key | beep | script =>
      cases param with
      | none => rfl
      | some v => exact texts v rfl (by decide)
  | bare => cases kind <;> rfl
  | _ => rfl

/-- Parameters of the types that they are declared with make bodies with texts. -/
theorem Body.hasTexts_of_createNamed {kind : Value} {params : Fields} {body : Body}
    (declared : params.all fun (name, v) => suits name v)
    (made : Body.createNamed kind params = .ok body) : body.hasTexts := by
  have given : ∀ name v, params.lookup name = some v → suits name v :=
    fun name v found => List.all_eq_true.mp declared (name, v) (mem_of_lookup found)
  obtain ⟨kind, -, made⟩ := Body.made_of_createNamed made
  refine made.hasTexts fun v found named => ?_
  have suited := given _ v found
  simp only [List.mem_cons, List.not_mem_nil, or_false] at named
  rcases named with rfl | rfl | rfl <;> exact suited

theorem Body.hasTexts_of_ofData {kind : Kind} {data : String} {body : Body}
    (made : Body.ofData kind data = .ok body) : body.hasTexts := by
  obtain ⟨param, made, texts⟩ := Body.made_of_ofData made
  refine made.hasTexts fun v given _ => ?_
  obtain ⟨s, rfl⟩ := texts v given
  rfl

theorem Body.hasTexts_law : BodyLaw fun body => body.hasTexts := by
  refine ⟨?_, ?_, fun kind data body => Body.hasTexts_of_ofData⟩
  · intro around id inputs generator body h
    cases body with
    | key v => cases v <;> exact h
    | beep b =>
        simp only [Body.step, Body.hasTexts, Beep.step]
        split <;> exact h
    | _ => exact h
  · rintro body (pure | ⟨sink, rfl⟩)
    · cases body <;> first | rfl | cases pure
    · cases sink <;> rfl

/-- A declared message that asks for a node gives it parameters of the declared types. -/
theorem Request.suits_of_declared {message : Fields} (declared : isDeclared message) {kind : Value}
    {x y : Int} {params : Fields}
    (asked : Request.ofMessage message = .ok (.spawn kind x y params)) :
    params.all fun (name, v) => suits name v := by
  obtain ⟨type, given⟩ := Request.ofMessage_spawn asked
  cases found : message.lookup "params" with
  | none =>
      rw [found] at given
      cases given
      rfl
  | some v =>
      rw [found] at given
      obtain rfl : v = .object params := given
      simpa only [isDeclared, type, found] using declared

/-- Where messages give texts for what is a text, all keys, sounds and scripts of a session are
texts. -/
theorem Session.after_hasTexts {s : Session} (sound : s.circuit.Sound)
    (h : s.circuit.AllBodies fun body => body.hasTexts) (messages : List Fields)
    (declared : ∀ message ∈ messages, isDeclared message) :
    (s.after messages).circuit.AllBodies fun body => body.hasTexts :=
  Session.after_allBodies Body.hasTexts_law sound h messages
    fun _ mem _ _ _ _ _ asked made =>
      Body.hasTexts_of_createNamed (Request.suits_of_declared (declared _ mem) asked) made

end Texts

end SignalGraph
