import SignalGraph.Proofs.Graph.Loaded
import SignalGraph.Proofs.Session.Bodies

/-!
Saving what has been made by hand. In a session that has only made, removed and connected nodes, all
nodes are as they were made. Their text gives them back, but for timers that do not start at zero,
and for keys and sounds that are not words with single blanks between them.
-/

namespace SignalGraph

open Text

section Making

/-- A body as it is made from parameters of the types that they are declared with. -/
structure Body.IsMade (body : Body) : Prop where
  starts : body.restart = body ∨ ∃ elapsed, body = .timer elapsed
  texts : body.hasTexts

/-- A node as it is made, wherever it stands and whatever it reads from. -/
structure Node.IsMade (node : Node) : Prop where
  outlets : node.outlets = node.body.outlets.map fun _ => 0.0
  body : node.body.IsMade

def Circuit.IsMade (c : Circuit) : Prop := ∀ ref ∈ c.graph.nodes, (c.node ref).IsMade

theorem Body.Made.starts {kind : Kind} {param : Option Value} {body : Body}
    (made : Body.Made param kind body) :
    body.restart = body ∨ ∃ elapsed, body = .timer elapsed := by
  cases made with
  | timer elapsed => exact .inr ⟨elapsed, rfl⟩
  | bare => cases kind <;> exact .inl rfl
  | _ => exact .inl rfl

theorem Body.isMade_of_createNamed {kind : Value} {params : Fields} {body : Body}
    (declared : params.all fun (name, v) => suits name v)
    (made : Body.createNamed kind params = .ok body) : body.IsMade := by
  obtain ⟨_, -, new⟩ := Body.made_of_createNamed made
  exact ⟨new.starts, Body.hasTexts_of_createNamed declared made⟩

variable {c : Circuit}

theorem Circuit.IsMade.insert (h : c.IsMade) (sound : c.Sound) {body : Body} (new : body.IsMade)
    (x y : Int) : (c.insert body x y).1.IsMade := by
  intro ref listed
  rcases sound.insert_frame listed with ⟨old, same⟩ | made
  · rw [same]
    exact h ref old
  · rw [made]
    exact ⟨rfl, new⟩

/-- A change of inlets leaves all nodes as they were made. -/
theorem Circuit.IsMade.of_frame {next : Circuit} (h : c.IsMade)
    (nodes : ∀ ref ∈ next.graph.nodes, ref ∈ c.graph.nodes)
    (frame : ∀ ref, next.node ref = { c.node ref with inlets := (next.node ref).inlets }) :
    next.IsMade := by
  intro ref listed
  rw [frame ref]
  exact ⟨(h ref (nodes ref listed)).outlets, (h ref (nodes ref listed)).body⟩

end Making

section Sessions

/-- Whether a message asks to make, remove or connect nodes. -/
def isEdit (message : Fields) : Bool :=
  match message.lookup "type" with
  | some (.text name) => name ∈ ["SPAWN", "REMOVE", "CONNECT"]
  | _ => false

/-- Whether a request makes, removes or connects nodes. -/
def Request.isEdit : Request → Bool
  | .spawn .. => true
  | .remove _ => true
  | .connect .. => true
  | _ => false

theorem Request.isEdit_of_message {message : Fields} (edit : SignalGraph.isEdit message)
    {request : Request} (asked : Request.ofMessage message = .ok request) : request.isEdit := by
  simp only [SignalGraph.isEdit, Request.ofMessage_type asked, decide_eq_true_eq] at edit
  cases request with
  | spawn kind x y params => rfl
  | remove id => rfl
  | connect source outletSlot target inletSlot => rfl
  | _ => exact absurd edit (by simp [Request.typeName])

variable {s : Session}

theorem Session.respond_isMade (sound : s.circuit.Sound) (h : s.circuit.IsMade) {message : Fields}
    (edit : isEdit message) (declared : isDeclared message) :
    (s.respond message).1.circuit.IsMade := by
  simp only [Session.respond]
  cases asked : Request.ofMessage message with
  | error fault => exact h
  | ok request =>
      -- Of the ways to change a circuit, an edit takes the last three only.
      have kept := Request.isEdit_of_message edit asked
      apply Session.perform_induction request h
      case compile =>
        rintro source rfl
        cases kept
      case tick =>
        rintro dt controls rfl
        cases kept
      case load =>
        rintro text rfl
        cases kept
      case insert =>
        rintro kind x y params body rfl made
        exact h.insert sound
          (Body.isMade_of_createNamed (Request.suits_of_declared declared asked) made) x y
      case remove =>
        intro ref next removed
        obtain ⟨nodes, frame⟩ := Circuit.remove_frame removed
        refine h.of_frame (fun other listed => ?_) frame
        rw [nodes] at listed
        exact List.mem_of_mem_erase listed
      case connect =>
        intro _ _ _ _ next _ made
        obtain ⟨graph, frame⟩ := Circuit.connect_frame made
        exact h.of_frame (fun other listed => by rwa [graph] at listed) frame

theorem Session.after_isMade (sound : s.circuit.Sound) (h : s.circuit.IsMade)
    (messages : List Fields) (edits : ∀ message ∈ messages, isEdit message)
    (declared : ∀ message ∈ messages, isDeclared message) :
    (s.after messages).circuit.IsMade := by
  induction messages generalizing s with
  | nil => exact h
  | cons message messages ih =>
      rw [List.forall_mem_cons] at edits declared
      exact ih (s.respond_sound sound message) (s.respond_isMade sound h edits.1 declared.1)
        edits.2 declared.2

end Sessions

section Texts

/-- A layout whose nodes bear their positions as ids. -/
def renumbered (layout : List Node) : List Node :=
  layout.mapIdx fun i node => { node with id := some i }

/-- Whether what a body was made with comes back from its data. -/
def Body.isSaved : Body → Bool
  | .timer elapsed => elapsed = 0.0
  | body => body.isPlain

theorem Body.IsMade.isSaved_iff {body : Body} (h : body.IsMade) :
    body.isSaved ↔ body.isPlain ∧ body.restart = body := by
  rcases h.starts with starts | ⟨elapsed, rfl⟩
  · cases body with
    | timer elapsed =>
        have zero : elapsed = 0.0 := (Body.timer.inj starts).symm
        simp [Body.isSaved, Body.isPlain, Body.restart, zero]
    | _ => exact (and_iff_left starts).symm
  · simp [Body.isSaved, Body.isPlain, Body.restart, eq_comm]

theorem Body.data_isOk {body : Body} (texts : body.hasTexts) : ∃ data, body.data = .ok data := by
  cases body with
  | script v =>
      cases v with
      | text s => exact ⟨_, rfl⟩
      | _ => cases texts
  | _ => exact ⟨_, rfl⟩

theorem savedText_isOk {layout : List Node} (texts : ∀ node ∈ layout, node.body.hasTexts) :
    ∃ text, savedText layout = .ok text := by
  have lines : ∀ p ∈ layout.zipIdx, ∃ line, p.1.line p.2 = .ok line := by
    intro (node, i) entry
    have listed := List.mem_of_getElem? (List.mem_zipIdx_iff_getElem?.mp entry)
    obtain ⟨data, given⟩ := Body.data_isOk (texts node listed)
    simp only [Node.line, given]
    exact ⟨_, rfl⟩
  obtain ⟨nodes, each⟩ := exists_forall₂ lines
  rw [savedText, mapM_eq_ok.mpr each]
  exact ⟨_, rfl⟩

variable {c : Circuit}

theorem Circuit.IsMade.layout (h : c.IsMade) {node : Node} (mem : node ∈ c.layout) :
    node.IsMade := by
  obtain ⟨_, there, rfl⟩ := List.mem_map.mp mem
  obtain ⟨ref, listed, rfl⟩ := List.mem_map.mp there
  exact ⟨(h ref listed).outlets, (h ref listed).body⟩

theorem Node.IsMade.restart_eq {node : Node} (h : node.IsMade)
    (starts : node.body.restart = node.body) (i : Nat) :
    node.restart i = { node with id := some i } := by
  simp only [Node.restart, Node.ofBody, starts, ← h.outlets]

theorem Circuit.IsMade.restarted_layout (h : c.IsMade)
    (saved : ∀ node ∈ c.layout, node.body.isSaved) : restarted c.layout = renumbered c.layout := by
  rw [restarted, renumbered, List.mapIdx_eq_mapIdx_iff]
  intro i inside
  have mem := List.getElem_mem inside
  have made := h.layout mem
  exact made.restart_eq (made.body.isSaved_iff.mp (saved _ mem)).2 i

/-- What has been made is saved. Its text gives it back exactly when every body is given back. -/
theorem Circuit.IsMade.load_save_iff (h : c.IsMade) (sound : c.Sound)
    (legible : Legible c.layout) :
    ∃ text, c.save = .ok text ∧ ∀ d : Circuit,
      (d.load text).layout = renumbered c.layout ↔ ∀ node ∈ c.nodes, node.body.isSaved := by
  obtain ⟨text, written⟩ := savedText_isOk fun node mem => (h.layout mem).body.texts
  have bodies : (∀ node ∈ c.nodes, node.body.isSaved) ↔ ∀ node ∈ c.layout, node.body.isSaved := by
    rw [Circuit.layout, List.forall_mem_map]
    rfl
  refine ⟨text, sound.save_eq.trans written, fun d => ?_⟩
  rw [bodies]
  constructor
  · intro same node mem
    obtain ⟨i, found⟩ := List.mem_iff_getElem?.mp mem
    have there : (d.load text).layout[i]? = some { node with id := some i } := by
      rw [same, renumbered, List.getElem?_mapIdx, found, Option.map_some]
    -- What is loaded is plain and as it starts, and the bodies are those that were saved.
    have loaded := (d.load_isLoaded text).layout there
    exact (h.layout mem).body.isSaved_iff.mpr
      ⟨loaded.plain, (congrArg Node.body loaded.starts).symm⟩
  · intro saved
    have plain : ∀ node ∈ c.layout, node.body.isPlain := fun node mem =>
      ((h.layout mem).body.isSaved_iff.mp (saved node mem)).1
    obtain ⟨text', written', -, -, loads⟩ := load_savedText sound.closed plain legible
    obtain rfl := Except.ok.inj (written.symm.trans written')
    exact (loads d).trans (h.restarted_layout saved)

/-- What messages of the declared types have made, removed and connected in a session that started
empty is saved. The text gives it back, with the ids renumbered, exactly when no timer starts away
from zero, and all keys and sounds are words with single blanks between them, one word at least. -/
theorem Session.load_saved_iff (generator : Random.Generator) (mode : CompileMode)
    (messages : List Fields) (edits : ∀ message ∈ messages, isEdit message)
    (declared : ∀ message ∈ messages, isDeclared message)
    (legible : Legible
      (Session.after { circuit := { graph := { generator } }, mode } messages).circuit.layout) :
    let s := Session.after { circuit := { graph := { generator } }, mode } messages
    ∃ text, s.perform .save = (s, .saved text) ∧ ∀ d : Session,
      (d.load text).circuit.layout = renumbered s.circuit.layout ↔
        ∀ node ∈ s.circuit.nodes, node.body.isSaved := by
  intro s
  have sound : s.circuit.Sound := Session.after_sound (Circuit.sound_of_empty rfl rfl) messages
  have made : s.circuit.IsMade := Session.after_isMade (Circuit.sound_of_empty rfl rfl)
    (by rintro _ ⟨⟩) messages edits declared
  obtain ⟨text, written, loads⟩ := made.load_save_iff sound legible
  refine ⟨text, ?_, fun d => loads d.circuit⟩
  simp only [Session.perform, Session.save, written]

/-- A timer that starts at two and a half does not come back. -/
theorem Session.load_saved_iff_timer :
    let key : Fields := [("type", .text "SPAWN"), ("kind", .text "KeyNode"),
      ("params", .object [("key", .text "Left Shift")])]
    let timer : Fields := [("type", .text "SPAWN"), ("kind", .text "TimerNode"), ("x", .int (-4)),
      ("params", .object [("elapsed", .float 2.5)])]
    let beep : Fields := [("type", .text "SPAWN"), ("kind", .text "BeepOutputNode")]
    let remove : Fields := [("type", .text "REMOVE"), ("node_id", .int 0)]
    let connect : Fields := [("type", .text "CONNECT"), ("source", .int 1), ("target", .int 2)]
    let messages := [key, timer, beep, remove, connect]
    let s := Session.after { circuit := .ofSeed 0, mode := .atomic } messages
    (∀ message ∈ messages, isEdit message) ∧ (∀ message ∈ messages, isDeclared message) ∧
      Legible s.circuit.layout ∧ ∃ text, s.perform .save = (s, .saved text) ∧
        ∀ d : Session, (d.load text).circuit.layout ≠ renumbered s.circuit.layout := by
  intro key timer beep remove connect messages s
  have edits : ∀ message ∈ messages, isEdit message := by decide
  have declared : ∀ message ∈ messages, isDeclared message := by decide
  have count : s.circuit.layout.length = 2 := by decide +kernel
  have places : ∀ node ∈ s.circuit.layout, node.x.natAbs < 10 ∧ node.y.natAbs < 10 := by
    decide +kernel
  have legible : Legible s.circuit.layout := by
    constructor
    · intro i inside
      exact readsBack_digit (by omega)
    · intro node mem
      exact ⟨readsBack_digit (places node mem).1, readsBack_digit (places node mem).2⟩
  have late : ¬ ∀ node ∈ s.circuit.nodes, node.body.isSaved := by decide +kernel
  obtain ⟨text, saved, loads⟩ := load_saved_iff (.ofSeed 0) .atomic messages edits declared legible
  exact ⟨edits, declared, legible, text, saved, fun d same => late ((loads d).mp same)⟩

end Texts

end SignalGraph
