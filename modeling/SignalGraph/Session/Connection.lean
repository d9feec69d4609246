import SignalGraph.Session.Basic

/-!
Connections. A client sends values one after the other, and each is answered before the next is
taken. A session is told messages only; a value of another type ends the connection it came by, and
the session stays for the other clients.
-/

namespace SignalGraph

/-- Why a value is no message. -/
inductive MessageFault where
  | notObject (typeName : String)

def MessageFault.message : MessageFault → String
  | .notObject typeName => s!"'{typeName}' object has no attribute 'get'"

/-- Answers what a client sends; only an object is a message. -/
def Session.receive (s : Session) : Value → Except MessageFault (Session × Reply)
  | .object message => .ok (s.respond message)
  | v => .error (.notObject v.typeName)

/-- What a connection has come to: the session, the replies in their order, and what has ended it
before the client did. -/
structure Served where
  session : Session
  replies : List Reply := []
  fault : Option MessageFault := none

/-- Serves a client that sends these values and then leaves. -/
def Session.serve (s : Session) : List Value → Served
  | [] => { session := s }
  | v :: values =>
      match s.receive v with
      | .ok (s, reply) =>
          let served := s.serve values
          { served with replies := reply :: served.replies }
      | .error fault => { session := s, fault := some fault }

end SignalGraph
