import SignalGraph.Proofs.Graph.Reentry
import SignalGraph.Proofs.Session.Refusing
import SignalGraph.Session.Connection

/-!
Answers to a client. Every message gets one reply, whatever it holds, and it is an error exactly
when the message asks for nothing or for something that fails. The connection goes on for as long as
the client sends messages; the first value of another type ends it without a reply.
-/

namespace SignalGraph

section Messages

/-- The types of messages. -/
def Request.typeNames : List String :=
  ["COMPILE", "TICK", "LOAD", "SAVE", "SPAWN", "REMOVE", "CONNECT"]

/-- A message of no known type asks for nothing. -/
theorem Request.ofMessage_unknown {message : Fields}
    (unknown : ∀ name ∈ Request.typeNames, message.lookup "type" ≠ some (.text name)) :
    Request.ofMessage message =
      .error (.unknownType ((message.lookup "type").getD .null).display) := by
  have other : ∀ name ∈ Request.typeNames, (message.lookup "type").getD .null ≠ .text name := by
    intro name known same
    cases given : message.lookup "type" with
    | none =>
        rw [given] at same
        cases same
    | some type =>
        rw [given, Option.getD_some] at same
        exact unknown name known (given.trans (congrArg some same))
  unfold Request.ofMessage
  split
  case h_8 => rfl
  all_goals
    rename_i type
    exact absurd type (other _ (by decide))

/-- Every reply is an object that names its type. -/
theorem Reply.toValue_object (reply : Reply) :
    ∃ fields type, reply.toValue = .object fields ∧ fields.lookup "type" = some (.text type) := by
  cases reply <;> exact ⟨_, _, rfl, rfl⟩

/-- Whether a value can be a message. -/
def Value.isObject : Value → Bool
  | .object _ => true
  | _ => false

end Messages

section Failures

/-- Whether a request fails. Scripts and saved texts never do, also where nothing can be made of
them. -/
def Session.Fails (s : Session) : Request → Prop
  | .compile _ => False
  | .load _ => False
  | .tick dt controls => (s.tick dt controls).2.isSome
  | .save => ∃ node ∈ s.circuit.nodes, ∃ fault, node.body.data = .error fault
  | .spawn kind _ _ params => ∃ fault, Body.createNamed kind params = .error fault
  | .remove id => ¬∃ node ∈ s.circuit.nodes, node.idNumber = id
  | .connect source outletSlot target inletSlot =>
      ¬((∃ node ∈ s.circuit.nodes, node.idNumber = source ∧
          0 ≤ outletSlot ∧ outletSlot < node.outlets.length) ∧
        ∃ node ∈ s.circuit.nodes, node.idNumber = target ∧
          0 ≤ inletSlot ∧ inletSlot < node.inlets.length)

/-- Whether a message asks for nothing, because its type is unknown or a field is missing or out of
form, or for something that fails. -/
def Session.Refuses (s : Session) (message : Fields) : Prop :=
  match Request.ofMessage message with
  | .error _ => True
  | .ok request => s.Fails request

variable {c : Circuit}

/-- The member that a number finds. -/
theorem Circuit.Sound.find_iff (h : c.Sound) {id : Int} {ref : Ref} :
    c.find (.int id) = .ok ref ↔ ref ∈ c.graph.nodes ∧ (c.node ref).idNumber = id := by
  constructor
  · intro found
    have known : ∃ n : Nat, id = n ∧ (n, ref) ∈ c.graph.index := by
      simp only [Circuit.find, isCompound, Bool.false_eq_true, ↓reduceIte, idOfValue?,
        Option.bind_some] at found
      by_cases natural : 0 ≤ id
      · rw [if_pos natural, Option.bind_some] at found
        cases there : c.graph.index.lookup id.toNat with
        | none => simp [there] at found
        | some other =>
            simp only [there, Except.ok.injEq] at found
            exact ⟨id.toNat, (Int.toNat_of_nonneg natural).symm, found ▸ mem_of_lookup there⟩
      · simp [natural] at found
    obtain ⟨n, rfl, entry⟩ := known
    obtain ⟨listed, bears⟩ := h.mem_index.mp entry
    refine ⟨listed, ?_⟩
    rw [Node.idNumber, bears]
  · rintro ⟨listed, rfl⟩
    exact Circuit.find_of_contains ((h.contains_iff ref).mpr listed)

/-- A text can be made of a sound circuit unless the data of a node cannot be written. -/
theorem Circuit.Sound.save_fails_iff (h : c.Sound) :
    (∃ fault, c.save = .error fault) ↔
      ∃ node ∈ c.nodes, ∃ fault, node.body.data = .error fault := by
  constructor
  · rintro ⟨fault, failed⟩
    rcases bind_eq_error.mp failed with nodes | ⟨lines, -, failed⟩
    · obtain ⟨⟨node, i⟩, mem, line⟩ := exists_of_mapM_eq_error nodes
      have listed : node ∈ c.nodes := (List.mem_zipIdx' mem).2 ▸ List.getElem_mem _
      rcases bind_eq_error.mp line with unwritten | ⟨data, -, line⟩
      · obtain ⟨problem, unwritten, -⟩ := mapError_eq_error.mp unwritten
        exact ⟨node, listed, problem, unwritten⟩
      · cases line
    · rcases bind_eq_error.mp failed with links | ⟨lines, -, failed⟩
      · obtain ⟨link, mem, line⟩ := exists_of_mapM_eq_error links
        obtain ⟨⟨source, hsource⟩, target, htarget⟩ := h.link_positions mem
        simp only [Link.line, SignalGraph.position, hsource, htarget] at line
        cases line
      · cases failed
  · rintro ⟨node, listed, fault, unwritten⟩
    cases saved : c.save with
    | error fault => exact ⟨fault, rfl⟩
    | ok text =>
        obtain ⟨lines, nodes, -⟩ := bind_eq_ok.mp saved
        obtain ⟨i, bound, rfl⟩ := List.getElem_of_mem listed
        obtain ⟨length, each⟩ := List.forall₂_iff_get.mp (mapM_eq_ok.mp nodes)
        have bound' : i < c.nodes.zipIdx.length := by rwa [List.length_zipIdx]
        have written := each i bound' (length ▸ bound')
        simp only [List.get_eq_getElem, List.getElem_zipIdx, Nat.zero_add] at written
        obtain ⟨data, given, -⟩ := bind_eq_ok.mp written
        rw [unwritten] at given
        cases given

variable {s : Session}

theorem Session.remove_fails_iff (h : s.circuit.Sound) (id : Int) :
    (∃ fault, s.remove id = .error fault) ↔ ¬∃ node ∈ s.circuit.nodes, node.idNumber = id := by
  constructor
  · rintro ⟨fault, failed⟩ ⟨node, listed, rfl⟩
    obtain ⟨ref, member, rfl⟩ := List.mem_map.mp listed
    have found := h.find_iff.mpr ⟨member, rfl⟩
    obtain ⟨next, removed⟩ :=
      (s.circuit.remove_isOk_iff ref).mpr ((h.contains_iff ref).mpr member)
    simp only [Session.remove, bind, Except.bind, found, removed] at failed
    cases failed
  · intro absent
    cases removed : s.remove id with
    | error fault => exact ⟨fault, rfl⟩
    | ok next =>
        obtain ⟨ref, found, -⟩ := bind_eq_ok.mp removed
        obtain ⟨listed, bears⟩ := h.find_iff.mp found
        exact absurd ⟨_, List.mem_map_of_mem listed, bears⟩ absent

theorem Session.connect_fails_iff (h : s.circuit.Sound)
    (source outletSlot target inletSlot : Int) :
    (∃ fault, s.connect source outletSlot target inletSlot = .error fault) ↔
      s.Fails (.connect source outletSlot target inletSlot) := by
  constructor
  · rintro ⟨fault, failed⟩
    rintro ⟨⟨node, listed, rfl, outlet⟩, node', listed', rfl, inlet⟩
    obtain ⟨ref, member, rfl⟩ := List.mem_map.mp listed
    obtain ⟨ref', member', rfl⟩ := List.mem_map.mp listed'
    have found := h.find_iff.mpr ⟨member, rfl⟩
    have found' := h.find_iff.mpr ⟨member', rfl⟩
    obtain ⟨made, connected⟩ :=
      (s.circuit.connect_isOk_iff ref ref' outletSlot inletSlot).mpr
        ⟨(h.contains_iff ref).mpr member, (h.contains_iff ref').mpr member', outlet, inlet⟩
    simp only [Session.connect, bind, Except.bind, found, found', connected] at failed
    cases failed
  · intro absent
    cases connected : s.connect source outletSlot target inletSlot with
    | error fault => exact ⟨fault, rfl⟩
    | ok next =>
        obtain ⟨ref, found, connected⟩ := bind_eq_ok.mp connected
        obtain ⟨ref', found', connected⟩ := bind_eq_ok.mp connected
        obtain ⟨made, connected, -⟩ := bind_eq_ok.mp connected
        obtain ⟨-, -, outlet, inlet⟩ :=
          (s.circuit.connect_isOk_iff ref ref' outletSlot inletSlot).mp ⟨made, connected⟩
        obtain ⟨listed, bears⟩ := h.find_iff.mp found
        obtain ⟨listed', bears'⟩ := h.find_iff.mp found'
        exact absurd ⟨⟨_, List.mem_map_of_mem listed, bears, outlet⟩,
          _, List.mem_map_of_mem listed', bears', inlet⟩ absent

/-- A request is answered with an error exactly when it fails. -/
theorem Session.perform_isError_iff (h : s.circuit.Sound) (request : Request) :
    (s.perform request).2.isError ↔ s.Fails request := by
  rw [Reply.isError_iff]
  cases request with
  | compile source => simp [Session.perform, Session.Fails]
  | load text => simp [Session.perform, Session.Fails]
  | tick dt controls =>
      simp only [Session.Fails, Session.perform]
      cases s.tick dt controls with
      | mk next fault => cases fault <;> simp
  | save =>
      rw [Session.Fails, ← h.save_fails_iff, ← Session.save]
      cases saved : s.save <;> simp [Session.perform, saved]
  | spawn kind x y params =>
      simp only [Session.Fails, Session.perform, Session.spawn]
      cases Body.createNamed kind params <;> simp [bind, Except.bind, pure, Except.pure]
  | remove id =>
      rw [Session.Fails, ← Session.remove_fails_iff h]
      cases removed : s.remove id <;> simp [Session.perform, removed]
  | connect source outletSlot target inletSlot =>
      rw [← Session.connect_fails_iff h]
      cases connected : s.connect source outletSlot target inletSlot <;>
        simp [Session.perform, connected]

/-- A message is answered with an error exactly when it asks for nothing or for what fails. -/
theorem Session.respond_isError_iff (h : s.circuit.Sound) (message : Fields) :
    (s.respond message).2.isError ↔ s.Refuses message := by
  unfold Session.Refuses
  cases asked : Request.ofMessage message with
  | error fault =>
      rw [Session.respond_of_error asked, Reply.isError_iff]
      exact iff_of_true ⟨_, rfl⟩ trivial
  | ok request =>
      rw [Session.respond_of_ok asked]
      exact Session.perform_isError_iff h request

end Failures

section Connections

/-- The replies to some messages. -/
def Session.replies (s : Session) : List Fields → List Reply
  | [] => []
  | message :: messages => (s.respond message).2 :: (s.respond message).1.replies messages

theorem Session.replies_length (s : Session) (messages : List Fields) :
    (s.replies messages).length = messages.length := by
  induction messages generalizing s with
  | nil => rfl
  | cons message messages ih => exact congrArg Nat.succ (ih _)

/-- A message is answered by the session that the messages before it have led to. -/
theorem Session.replies_getElem? (s : Session) (earlier : List Fields) (message : Fields)
    (later : List Fields) :
    (s.replies (earlier ++ message :: later))[earlier.length]? =
      some ((s.after earlier).respond message).2 := by
  induction earlier generalizing s with
  | nil => rfl
  | cons first earlier ih =>
      rw [List.cons_append, Session.replies, List.length_cons, List.getElem?_cons_succ]
      exact ih _

/-- Messages are answered one by one, whatever comes behind them. -/
theorem Session.serve_append (s : Session) (messages : List Fields) (values : List Value) :
    s.serve (messages.map .object ++ values) =
      let served := (s.after messages).serve values
      { served with replies := s.replies messages ++ served.replies } := by
  induction messages generalizing s with
  | nil => rfl
  | cons message messages ih =>
      rw [List.map_cons, List.cons_append, Session.serve]
      simp only [Session.receive]
      rw [ih]
      rfl

/-- What a client sends begins with messages. Behind them there is nothing, or a value of another
type. -/
theorem Value.exists_messages (values : List Value) :
    ∃ (messages : List Fields) (rest : List Value),
      values = messages.map .object ++ rest ∧ ∀ v ∈ rest.head?, ¬v.isObject := by
  induction values with
  | nil => exact ⟨[], [], rfl, by simp⟩
  | cons v values ih =>
      cases v with
      | object message =>
          obtain ⟨messages, rest, rfl, other⟩ := ih
          exact ⟨message :: messages, rest, rfl, other⟩
      | _ => exact ⟨[], _, rfl, by simp [Value.isObject]⟩

/-- A value of another type is not answered, and nothing behind it is looked at. -/
theorem Session.serve_other (s : Session) {v : Value} (other : ¬v.isObject) (values : List Value) :
    s.serve (v :: values) = { session := s, fault := some (.notObject v.typeName) } := by
  cases v with
  | object message => exact absurd rfl other
  | _ => rfl

/-- The connection goes on for as long as the client sends messages. -/
theorem Session.serve_eq (s : Session) (values : List Value) :
    (s.serve values).replies.length = (values.takeWhile Value.isObject).length ∧
      (s.serve values).fault =
        (values.find? fun v => !v.isObject).map fun v => .notObject v.typeName := by
  obtain ⟨messages, rest, rfl, other⟩ := Value.exists_messages values
  have all : ∀ v ∈ messages.map Value.object, v.isObject = true := by
    intro v mem
    obtain ⟨message, -, rfl⟩ := List.mem_map.mp mem
    rfl
  have none_other : (messages.map Value.object).find? (fun v => !v.isObject) = none :=
    List.find?_eq_none.mpr fun v mem => by simp [all v mem]
  rw [s.serve_append, List.takeWhile_append_of_pos all, List.find?_append, none_other]
  simp only [List.length_append, s.replies_length, List.length_map, Option.none_or]
  cases rest with
  | nil => exact ⟨rfl, rfl⟩
  | cons v rest =>
      have stops : v.isObject = false := Bool.eq_false_iff.mpr (other v rfl)
      rw [Session.serve_other _ (other v rfl), List.takeWhile_cons, List.find?_cons, stops]
      exact ⟨rfl, rfl⟩

/-- A reply that a client gets is the answer to the message in its place. -/
theorem Session.serve_getElem? (s : Session) (earlier : List Fields) (message : Fields)
    (later : List Value) :
    (s.serve (earlier.map .object ++ .object message :: later)).replies[earlier.length]? =
      some ((s.after earlier).respond message).2 := by
  obtain ⟨messages, rest, rfl, -⟩ := Value.exists_messages later
  have split : earlier.map Value.object ++ .object message :: (messages.map .object ++ rest) =
      (earlier ++ message :: messages).map .object ++ rest := by simp
  have bound : earlier.length < (s.replies (earlier ++ message :: messages)).length := by
    rw [s.replies_length, List.length_append, List.length_cons]
    omega
  rw [split, s.serve_append, List.getElem?_append_left bound]
  exact s.replies_getElem? earlier message messages

/-- Whatever a client sends to a session that started empty: its messages are answered one by one,
up to the first value that is no object, and the connection ends there and nowhere else. Each reply
is an object that names its type, and an error exactly when the message asks for nothing or for
something that fails; a message of an unknown type is told so. -/
theorem Session.serve_answers (seed : Nat) (mode : CompileMode) (past : List Fields)
    (values : List Value) :
    let s := (Session.ofSeed seed mode).after past
    let served := s.serve values
    served.replies.length = (values.takeWhile Value.isObject).length ∧
      served.fault = (values.find? fun v => !v.isObject).map (fun v => .notObject v.typeName) ∧
      ∀ (earlier : List Fields) (message : Fields) (later : List Value),
        values = earlier.map .object ++ .object message :: later →
        ∃ reply, served.replies[earlier.length]? = some reply ∧
          (∃ fields type, reply.toValue = .object fields ∧
            fields.lookup "type" = some (.text type)) ∧
          (reply.isError ↔ (s.after earlier).Refuses message) ∧
          ((∀ name ∈ Request.typeNames, message.lookup "type" ≠ some (.text name)) →
            reply = .refused (.request
              (.unknownType ((message.lookup "type").getD .null).display))) := by
  intro s served
  have sound : s.circuit.Sound := Session.after_sound (Circuit.sound_of_empty rfl rfl) past
  obtain ⟨count, fault⟩ := s.serve_eq values
  refine ⟨count, fault, ?_⟩
  rintro earlier message later rfl
  refine ⟨_, s.serve_getElem? earlier message later, Reply.toValue_object _, ?_, ?_⟩
  · exact Session.respond_isError_iff (Session.after_sound sound earlier) message
  · intro unknown
    rw [Session.respond_of_error (Request.ofMessage_unknown unknown)]

/-- A list ends the connection: the message before it is answered, and the one behind it is not. -/
theorem Session.serve_answers_list :
    let served := (Session.ofSeed 0 .atomic).serve
      [.object [("type", .text "PING")], .list [.int 1], .object [("type", .text "SAVE")]]
    served.replies.length = 1 ∧ served.fault = some (.notObject "list") ∧
      ∃ reply, served.replies[0]? = some reply ∧ reply.isError := by
  obtain ⟨count, fault, each⟩ := Session.serve_answers 0 .atomic []
    [.object [("type", .text "PING")], .list [.int 1], .object [("type", .text "SAVE")]]
  obtain ⟨reply, sent, -, -, told⟩ := each [] [("type", .text "PING")] _ rfl
  have unknown : ∀ name ∈ Request.typeNames,
      [("type", Value.text "PING")].lookup "type" ≠ some (.text name) := by
    simp [Request.typeNames]
  exact ⟨count, fault, reply, sent, Reply.isError_iff.mpr ⟨_, told unknown⟩⟩

end Connections

end SignalGraph
