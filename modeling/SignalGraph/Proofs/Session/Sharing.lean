import SignalGraph.Proofs.Graph.Loaded
import SignalGraph.Proofs.Graph.NodeLines
import SignalGraph.Proofs.Graph.Skipping
import SignalGraph.Proofs.Session.Bodies
import SignalGraph.Proofs.Session.Refusing
import SignalGraph.Session.Shared

/-!
What clients get from a session that they share. Each step under the lock does what the inquiry
does to a session that it has to itself. What is left of it then gives the same answer later, but
for the number of nodes, which is that of the moment at which the answer is finished; this holds
because a node keeps its id for good.
-/

namespace SignalGraph

section Ids

/-- Whether the ids that nodes bear in a circuit are still theirs in another one. -/
def Circuit.KeepsIds (c next : Circuit) : Prop :=
  ∀ ref id, (c.node ref).id = some id → (next.node ref).id = some id

variable {c next last : Circuit}

theorem Circuit.KeepsIds.refl (c : Circuit) : c.KeepsIds c := fun _ _ bears => bears

theorem Circuit.KeepsIds.trans (h : c.KeepsIds next) (h' : next.KeepsIds last) : c.KeepsIds last :=
  fun ref id bears => h' ref id (h ref id bears)

theorem Circuit.KeepsIds.of_same (same : ∀ ref, (next.node ref).id = (c.node ref).id) :
    c.KeepsIds next := fun ref _ bears => (same ref).trans bears

theorem Circuit.keepsIds_insert (c : Circuit) (body : Body) (x y : Int) :
    c.KeepsIds (c.insert body x y).1 := by
  intro ref id bears
  rw [c.insert_other body x y (Pool.lt_of_id bears)]
  exact bears

theorem Circuit.keepsIds_connect {source target : Ref} {outletSlot inletSlot : Int} {added : Bool}
    (made : c.connect source outletSlot target inletSlot = .ok (next, added)) :
    c.KeepsIds next :=
  .of_same fun ref => by rw [(Circuit.connect_frame made).2 ref]

theorem Circuit.keepsIds_install (c : Circuit) (gates : Array Script.Gate) :
    c.KeepsIds (c.install gates) := by
  intro ref id bears
  have inside : ref < c.pool.nodes.size := Pool.lt_of_id bears
  have same : (c.install gates).node ref = c.node ref := by
    simp [Circuit.node, Circuit.install, Pool.get, Array.getElem?_append_left inside]
  rw [same]
  exact bears

theorem Circuit.keepsIds_compile (c : Circuit) (mode : CompileMode) (source : String) :
    c.KeepsIds (c.compile mode source).1 := by
  rcases c.compile_leaves mode source with same | same <;> rw [same]
  · exact .refl c
  · exact c.keepsIds_install _

theorem Circuit.keepsIds_load (c : Circuit) (text : String) : c.KeepsIds (c.load text) :=
  c.load_induction text (.refl c)
    (fun _ _ _ _ _ body x y _ _ _ _ h => h.trans (Circuit.keepsIds_insert _ body x y))
    fun _ _ _ _ _ _ _ made h => h.trans (Circuit.keepsIds_connect made)

theorem Session.keepsIds_perform (s : Session) (request : Request) :
    s.circuit.KeepsIds (s.perform request).1.circuit :=
  Session.perform_induction request (.refl _) (fun source _ => s.circuit.keepsIds_compile _ source)
    (fun dt controls _ => .of_same fun ref => (s.circuit.tick_keeps dt _ ref).id)
    (fun text _ => s.circuit.keepsIds_load text)
    (fun _ x y _ body _ _ => s.circuit.keepsIds_insert body x y)
    (fun _ _ removed => .of_same fun ref => by rw [(Circuit.remove_frame removed).2 ref])
    fun _ _ _ _ _ _ => Circuit.keepsIds_connect

end Ids

section Answers

/-- The number of nodes that an answer tells. -/
def Answer.count? : Answer → Option Nat
  | .reply (.loaded count) => some count
  | .graph _ count => some count
  | _ => none

/-- The same answer with another number of nodes, if it tells one. -/
def Answer.recount (count : Nat) : Answer → Answer
  | .reply (.loaded _) => .reply (.loaded count)
  | .graph text _ => .graph text count
  | answer => answer

theorem Answer.recount_of_none {answer : Answer} (untold : answer.count? = none) (count : Nat) :
    answer.recount count = answer := by
  unfold Answer.recount
  split
  · cases untold
  · cases untold
  · rfl

/-- What is left of an inquiry depends on the session by the number of nodes only. -/
def Remainder.IsLeft (rest : Remainder) (c : Circuit) : Prop :=
  match rest with
  | .done answer => answer.count? = none
  | .loaded => True
  | .spawned ref => ∃ id, (c.node ref).id = some id
  | .saved _ => True

variable (s : Session)

/-- The step of a request under the lock, and what follows if nothing comes between. -/
theorem Session.beginRequest_eq (request : Request) :
    (s.beginRequest request).1 = (s.perform request).1 ∧
      (s.perform request).1.finish (s.beginRequest request).2 = .reply (s.perform request).2 ∧
      (s.beginRequest request).2.IsLeft (s.beginRequest request).1.circuit := by
  cases request with
  | compile source => exact ⟨rfl, rfl, rfl⟩
  | load text => exact ⟨rfl, rfl, trivial⟩
  | tick dt controls =>
      refine ⟨rfl, rfl, ?_⟩
      simp only [Session.beginRequest, Session.perform]
      split <;> rfl
  | save =>
      refine ⟨rfl, rfl, ?_⟩
      simp only [Session.beginRequest, Session.perform]
      split <;> rfl
  | spawn kind x y params =>
      simp only [Session.beginRequest, Session.perform, Session.spawn]
      cases Body.createNamed kind params with
      | error fault => exact ⟨rfl, rfl, rfl⟩
      | ok body => exact ⟨rfl, rfl, _, congrArg Node.id (s.circuit.insert_self body x y).2⟩
  | remove id =>
      refine ⟨rfl, rfl, ?_⟩
      simp only [Session.beginRequest, Session.perform]
      split <;> rfl
  | connect source outletSlot target inletSlot =>
      refine ⟨rfl, rfl, ?_⟩
      simp only [Session.beginRequest, Session.perform]
      split <;> rfl

theorem Session.begin_eq (inquiry : Inquiry) :
    (s.begin inquiry).1 = (s.answer inquiry).1 ∧
      (s.answer inquiry).1.finish (s.begin inquiry).2 = (s.answer inquiry).2 ∧
      (s.begin inquiry).2.IsLeft (s.begin inquiry).1.circuit := by
  cases inquiry with
  | graph =>
      simp only [Session.begin, Session.answer]
      cases s.save with
      | error fault => exact ⟨rfl, rfl, rfl⟩
      | ok text => exact ⟨rfl, rfl, trivial⟩
  | told v =>
      cases v with
      | object message =>
          simp only [Session.begin, Session.answer, Session.receive, Session.respond]
          cases Request.ofMessage message with
          | error fault => exact ⟨rfl, rfl, rfl⟩
          | ok request => exact s.beginRequest_eq request
      | _ => exact ⟨rfl, rfl, rfl⟩

/-- Finished later, an answer is as it would be at once, with the number of nodes there are then. -/
theorem Session.finish_later {inquiry : Inquiry} {later : Session}
    (keeps : (s.answer inquiry).1.circuit.KeepsIds later.circuit) :
    later.finish (s.begin inquiry).2 = (s.answer inquiry).2.recount later.nodeCount := by
  obtain ⟨next, finished, left⟩ := s.begin_eq inquiry
  rw [← finished]
  rw [next] at left
  generalize (s.begin inquiry).2 = rest at left ⊢
  cases rest with
  | done answer => exact (Answer.recount_of_none left _).symm
  | loaded => rfl
  | saved text => rfl
  | spawned ref =>
      obtain ⟨id, bears⟩ := left
      simp only [Session.finish, Answer.recount, Node.idNumber, bears, keeps ref id bears]

end Answers

section Counts

/-- What an inquiry asks the session to do. -/
def Inquiry.request? : Inquiry → Option Request
  | .told (.object message) => (Request.ofMessage message).toOption
  | _ => none

/-- How many nodes a text loads. -/
def loadedCount (text : String) : Nat := (described (recordLines (Text.lines text.toList))).length

/-- The number of nodes that an answer has to tell: of those that the text of the inquiry loads, or
of the lines of nodes in its own text. -/
def Answer.ownCount? (inquiry : Inquiry) : Answer → Option Nat
  | .reply (.loaded _) =>
      match inquiry.request? with
      | some (.load text) => some (loadedCount text)
      | _ => none
  | .graph text _ => some (nodeLines text.toList)
  | _ => none

/-- Whether an answer tells the number of nodes that it has to tell. -/
def Answer.IsOwn (answer : Answer) (inquiry : Inquiry) : Prop :=
  answer.count? = answer.ownCount? inquiry

variable {inquiry : Inquiry}

/-- Two numbers for one answer cannot both be its own. -/
theorem Answer.IsOwn.recount_eq {answer : Answer} (h : answer.IsOwn inquiry) {count : Nat}
    (h' : (answer.recount count).IsOwn inquiry) : answer.recount count = answer := by
  cases answer with
  | graph text own =>
      have same : some count = some own := Eq.trans h' (Eq.symm h)
      rw [Answer.recount, Option.some.inj same]
  | reply reply =>
      cases reply with
      | loaded own =>
          have same : some count = some own := Eq.trans h' (Eq.symm h)
          rw [Answer.recount, Option.some.inj same]
      | _ => rfl
  | _ => rfl

theorem Circuit.load_count (c : Circuit) (text : String) :
    (c.load text).nodes.length = loadedCount text := by
  obtain ⟨-, made, held⟩ :=
    (Loading.holds_nothing c).run (recordLines (Text.lines text.toList))
  have nodes := congrArg List.length held.nodes
  rw [List.length_map, List.length_mapIdx] at nodes
  rw [Circuit.load, c.loadLines_eq]
  exact nodes

variable (s : Session)

theorem Session.nodeCount_eq : s.nodeCount = s.circuit.nodes.length := (List.length_map _).symm

theorem Session.perform_isOwn {request : Request} (asked : inquiry.request? = some request) :
    (Answer.reply (s.perform request).2).IsOwn inquiry := by
  cases request with
  | load text =>
      simp only [Answer.IsOwn, Session.perform, Answer.count?, Answer.ownCount?, asked]
      rw [Session.nodeCount_eq]
      exact congrArg some (s.circuit.load_count text)
  | compile source => rfl
  | _ =>
      simp only [Session.perform]
      split <;> rfl

/-- A client that has the session to itself is told its own number, but for a text in which data
bring lines of nodes in. -/
theorem Session.answer_isOwn_iff (inquiry : Inquiry) :
    (s.answer inquiry).2.IsOwn inquiry ↔
      ∀ text count, (s.answer inquiry).2 = .graph text count →
        ∀ node ∈ s.circuit.nodes, node.body.extraLines = 0 := by
  cases inquiry with
  | graph =>
      simp only [Session.answer]
      cases saved : s.save with
      | error fault => exact iff_of_true rfl fun _ _ wrong => nomatch wrong
      | ok text =>
          have counted : (Answer.graph text s.nodeCount).IsOwn .graph ↔
              nodeLines text.toList = s.circuit.nodes.length := by
            simp only [Answer.IsOwn, Answer.count?, Answer.ownCount?, Option.some.injEq,
              s.nodeCount_eq, eq_comm]
          rw [counted, Circuit.nodeLines_save_iff saved]
          exact ⟨fun none _ _ _ => none, fun none => none _ _ rfl⟩
  | told v =>
      cases v with
      | object message =>
          simp only [Session.answer, Session.receive]
          refine iff_of_true ?_ fun _ _ wrong => nomatch wrong
          cases asked : Request.ofMessage message with
          | error fault =>
              rw [Session.respond_of_error asked]
              rfl
          | ok request =>
              rw [Session.respond_of_ok asked]
              exact s.perform_isOwn (by rw [Inquiry.request?, asked]; rfl)
      | _ => exact iff_of_true rfl fun _ _ wrong => nomatch wrong

theorem Session.answer_session (inquiry : Inquiry) :
    (s.answer inquiry).1 = s ∨ ∃ request, inquiry.request? = some request ∧
      (s.answer inquiry).1 = (s.perform request).1 := by
  cases inquiry with
  | graph =>
      simp only [Session.answer]
      split <;> exact .inl rfl
  | told v =>
      cases v with
      | object message =>
          simp only [Session.answer, Session.receive]
          cases asked : Request.ofMessage message with
          | error fault => exact .inl (by rw [Session.respond_of_error asked])
          | ok request =>
              refine .inr ⟨request, by rw [Inquiry.request?, asked]; rfl, ?_⟩
              rw [Session.respond_of_ok asked]
      | _ => exact .inl rfl

/-- Whether no node that an inquiry asks for brings lines of nodes into a saved text. -/
def Inquiry.AddsNoLines (inquiry : Inquiry) : Prop :=
  ∀ kind x y params body, inquiry.request? = some (.spawn kind x y params) →
    Body.createNamed kind params = .ok body → body.extraLines = 0

theorem Circuit.load_addsNoLines (c : Circuit) (text : String) :
    (c.load text).AllBodies fun body => body.extraLines = 0 := by
  intro ref listed
  obtain ⟨i, found⟩ := List.mem_iff_getElem?.mp listed
  exact Body.extraLines_of_isPlain ((c.load_isLoaded text).node i ref found).plain

theorem Body.gate_addsNoLines (body : Body)
    (gate : body.isPure ∨ ∃ sink : Script.Sink, body = sink.body) : body.extraLines = 0 := by
  apply Body.extraLines_of_isPlain
  rcases gate with pure | ⟨sink, rfl⟩
  · cases body <;> first | rfl | cases pure
  · cases sink with
    | beep => exact (by decide : SignalGraph.isPlain "Beep")
    | _ => rfl

/-- A session whose text has no lines that data bring in. -/
structure Session.Plain (s : Session) : Prop where
  sound : s.circuit.Sound
  bodies : s.circuit.AllBodies fun body => body.extraLines = 0

variable {s}

theorem Session.Plain.perform (h : s.Plain) {request : Request}
    (adds : ∀ kind x y params body, request = .spawn kind x y params →
      Body.createNamed kind params = .ok body → body.extraLines = 0) :
    (s.perform request).1.Plain := by
  refine ⟨s.perform_sound h.sound request, Session.perform_induction
    (P := fun c => c.AllBodies fun body => body.extraLines = 0) request h.bodies ?_ ?_ ?_ ?_ ?_ ?_⟩
  · exact fun source _ => h.bodies.compile Body.gate_addsNoLines s.mode source
  · intro dt controls _
    refine h.bodies.tick (fun around id inputs generator body none => ?_) dt _
    rw [body.step_extraLines around id inputs generator, none]
  · exact fun text _ => s.circuit.load_addsNoLines text
  · exact fun kind x y params body asked made =>
      h.bodies.insert h.sound (adds kind x y params body asked made) x y
  · exact fun _ _ removed => h.bodies.remove removed
  · exact fun _ _ _ _ _ _ made => h.bodies.connect made

theorem Session.Plain.answer (h : s.Plain) (adds : inquiry.AddsNoLines) :
    (s.answer inquiry).1.Plain := by
  rcases s.answer_session inquiry with same | ⟨request, asked, next⟩
  · rwa [same]
  · rw [next]
    exact h.perform fun kind x y params body same => adds kind x y params body (same ▸ asked)

theorem Session.Plain.isOwn (h : s.Plain) (inquiry : Inquiry) :
    (s.answer inquiry).2.IsOwn inquiry := by
  refine (s.answer_isOwn_iff inquiry).mpr fun _ _ _ node listed => ?_
  obtain ⟨ref, member, rfl⟩ := List.mem_map.mp listed
  exact h.bodies ref member

end Counts

section Alone

/-- A session after some inquiries, one at a time. -/
def Session.attend (s : Session) (inquiries : List Inquiry) : Session :=
  inquiries.foldl (fun s inquiry => (s.answer inquiry).1) s

/-- The answers to some inquiries, one at a time. -/
def Session.answers (s : Session) : List Inquiry → List Answer
  | [] => []
  | inquiry :: inquiries => (s.answer inquiry).2 :: (s.answer inquiry).1.answers inquiries

variable (s : Session)

theorem Session.attend_append (earlier later : List Inquiry) :
    s.attend (earlier ++ later) = (s.attend earlier).attend later := List.foldl_append

theorem Session.answers_getElem? (inquiries : List Inquiry) (i : Nat) :
    (s.answers inquiries)[i]? =
      inquiries[i]?.map fun inquiry => ((s.attend (inquiries.take i)).answer inquiry).2 := by
  induction inquiries generalizing s i with
  | nil => rfl
  | cons inquiry inquiries ih =>
      cases i with
      | zero => rfl
      | succ i => exact ih _ i

theorem Session.keepsIds_attend (inquiries : List Inquiry) :
    s.circuit.KeepsIds (s.attend inquiries).circuit := by
  induction inquiries generalizing s with
  | nil => exact .refl _
  | cons inquiry inquiries ih =>
      refine Circuit.KeepsIds.trans ?_ (ih (s.answer inquiry).1)
      rcases s.answer_session inquiry with same | ⟨request, -, next⟩
      · rw [same]
        exact .refl _
      · rw [next]
        exact s.keepsIds_perform request

theorem Session.Plain.attend {s : Session} (h : s.Plain) {inquiries : List Inquiry}
    (adds : ∀ inquiry ∈ inquiries, inquiry.AddsNoLines) : (s.attend inquiries).Plain := by
  induction inquiries generalizing s with
  | nil => exact h
  | cons inquiry inquiries ih =>
      rw [List.forall_mem_cons] at adds
      exact ih (h.answer adds.1) adds.2

end Alone

end SignalGraph
