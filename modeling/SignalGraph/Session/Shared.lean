import SignalGraph.Session.Connection

/-!
A session that clients share. What changes the session, or reads more of it than a number, is one
step under its lock; three kinds of answers are only finished after that step, with a number that is
read from the session as it is by then. Between the two steps other clients may take theirs.
-/

namespace SignalGraph

/-- What a client asks: by a value that it sends, or for the text of the graph. -/
inductive Inquiry where
  | told (v : Value)
  | graph

/-- What a client gets. A value that is no message, and a graph that has no text, make the server
fail. -/
inductive Answer where
  | reply (reply : Reply)
  | graph (text : String) (nodes : Nat)
  | broken (fault : MessageFault)
  | unsaved (fault : SaveFault)

/-- What is left to do for an answer after the step under the lock. -/
inductive Remainder where
  | done (answer : Answer)
  /-- The nodes have to be counted. -/
  | loaded
  /-- The id of the new node has to be read. -/
  | spawned (ref : Ref)
  /-- The nodes have to be counted beside the text. -/
  | saved (text : String)

/-- A client that has the session to itself. -/
def Session.answer (s : Session) : Inquiry → Session × Answer
  | .told v =>
      match s.receive v with
      | .ok (next, reply) => (next, .reply reply)
      | .error fault => (s, .broken fault)
  | .graph =>
      match s.save with
      | .ok text => (s, .graph text s.nodeCount)
      | .error fault => (s, .unsaved fault)

/-- The step of a request under the lock. -/
def Session.beginRequest (s : Session) : Request → Session × Remainder
  | .load text => (s.load text, .loaded)
  | .spawn kind x y params =>
      match Body.createNamed kind params with
      | .ok body =>
          let (circuit, ref) := s.circuit.insert body x y
          ({ s with circuit }, .spawned ref)
      | .error fault => (s, .done (.reply (.refused (.create fault))))
  | request =>
      let (next, reply) := s.perform request
      (next, .done (.reply reply))

/-- The step of an inquiry under the lock. -/
def Session.begin (s : Session) : Inquiry → Session × Remainder
  | .told (.object message) =>
      match Request.ofMessage message with
      | .ok request => s.beginRequest request
      | .error fault => (s, .done (.reply (.refused (.request fault))))
  | .told v => (s, .done (.broken (.notObject v.typeName)))
  | .graph =>
      match s.save with
      | .ok text => (s, .saved text)
      | .error fault => (s, .done (.unsaved fault))

/-- Finishes an answer with what the session is now. -/
def Session.finish (s : Session) : Remainder → Answer
  | .done answer => answer
  | .loaded => .reply (.loaded s.nodeCount)
  | .spawned ref => .reply (.spawned (s.circuit.node ref).idNumber)
  | .saved text => .graph text s.nodeCount

/-- An inquiry that has had its step under the lock, and its answer once that is finished. -/
structure Ticket where
  inquiry : Inquiry
  rest : Remainder
  answer : Option Answer := none

/-- Finishes the answer, unless that has been done before. -/
def Ticket.finish (ticket : Ticket) (s : Session) : Ticket :=
  { ticket with answer := some (ticket.answer.getD (s.finish ticket.rest)) }

/-- A step: of a new inquiry under the lock, or towards the answer of an earlier one. -/
inductive Move where
  | begin (inquiry : Inquiry)
  | finish (number : Nat)

/-- A shared session, with the tickets of all inquiries in the order of their steps under the
lock. -/
structure Service where
  session : Session
  tickets : List Ticket := []

def Service.step (service : Service) : Move → Service
  | .begin inquiry =>
      let (session, rest) := service.session.begin inquiry
      { session, tickets := service.tickets ++ [{ inquiry, rest }] }
  | .finish number =>
      { service with tickets := service.tickets.modify number (·.finish service.session) }

/-- A session after the steps of its clients, in whatever order they come. -/
def Session.share (s : Session) (moves : List Move) : Service :=
  moves.foldl Service.step { session := s }

end SignalGraph
