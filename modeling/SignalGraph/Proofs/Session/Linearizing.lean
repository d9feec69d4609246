import SignalGraph.Proofs.Session.Sharing

/-!
One order for the clients of a shared session. The session itself is what the inquiries make of it
one at a time, in the order of their steps under the lock. So are the answers, but for the numbers
of nodes that are read after these steps. An order that explains all answers exists exactly where
each such number is the answer's own.
-/

namespace SignalGraph

section Runs

/-- The inquiries of a service, in the order of their steps under the lock. -/
def Service.inquiries (service : Service) : List Inquiry := service.tickets.map Ticket.inquiry

theorem Service.inquiries_getElem? {service : Service} {i : Nat} {ticket : Ticket}
    (found : service.tickets[i]? = some ticket) : service.inquiries[i]? = some ticket.inquiry := by
  rw [Service.inquiries, List.getElem?_map, found, Option.map_some]

/-- What the inquiry of a ticket gets one at a time. -/
theorem Session.answers_ticket (start : Session) {service : Service} {i : Nat} {ticket : Ticket}
    (found : service.tickets[i]? = some ticket) :
    (start.answers service.inquiries)[i]? =
      some ((start.attend (service.inquiries.take i)).answer ticket.inquiry).2 := by
  rw [start.answers_getElem?, Service.inquiries_getElem? found, Option.map_some]

theorem Session.share_concat (start : Session) (moves : List Move) (move : Move) :
    start.share (moves ++ [move]) = (start.share moves).step move := by
  rw [Session.share, List.foldl_concat]
  rfl

theorem Service.inquiries_begin (service : Service) (inquiry : Inquiry) :
    (service.step (.begin inquiry)).inquiries = service.inquiries ++ [inquiry] :=
  List.map_append

theorem Service.inquiries_finish (service : Service) (i : Nat) :
    (service.step (.finish i)).inquiries = service.inquiries := by
  refine List.ext_getElem? fun k => ?_
  simp only [Service.inquiries, Service.step, List.getElem?_map, List.getElem?_modify]
  by_cases same : i = k
  · simp only [same, if_true]
    cases service.tickets[k]? <;> rfl
  · simp only [same, if_false, id_map']

/-- Inquiries stay where they are while others come. -/
theorem Session.inquiries_prefix (start : Session) {before moves : List Move}
    (earlier : before <+: moves) :
    (start.share before).inquiries <+: (start.share moves).inquiries := by
  obtain ⟨later, rfl⟩ := earlier
  induction later using List.reverseRecOn with
  | nil => rw [List.append_nil]
  | append_singleton later move ih =>
      rw [← List.append_assoc, start.share_concat]
      cases move with
      | begin inquiry =>
          rw [Service.inquiries_begin]
          exact ih.trans (List.prefix_append _ _)
      | finish i => rwa [Service.inquiries_finish]

/-- Where a ticket comes from: from the step of its inquiry after those before it, and its answer
from a later session. -/
structure Ticket.Traced (ticket : Ticket) (start : Session) (moves : List Move) (i : Nat) :
    Prop where
  rest : ticket.rest =
    ((start.attend ((start.share moves).inquiries.take i)).begin ticket.inquiry).2
  finished : ∀ answer, ticket.answer = some answer → ∃ before, before ++ [.finish i] <+: moves ∧
    i < (start.share before).inquiries.length ∧
    answer = (start.share before).session.finish ticket.rest

/-- A session and tickets that come from steps of clients. -/
structure Session.Traces (start : Session) (moves : List Move) : Prop where
  session : (start.share moves).session = start.attend (start.share moves).inquiries
  ticket : ∀ (i : Nat) (ticket : Ticket), (start.share moves).tickets[i]? = some ticket →
    ticket.Traced start moves i

variable {start : Session} {moves : List Move}

theorem Ticket.Traced.later {ticket : Ticket} {i : Nat} (h : ticket.Traced start moves i)
    (inside : i < (start.share moves).inquiries.length) {next : List Move}
    (later : moves <+: next) : ticket.Traced start next i := by
  have same : (start.share next).inquiries.take i = (start.share moves).inquiries.take i := by
    obtain ⟨more, grown⟩ := start.inquiries_prefix later
    rw [← grown, List.take_append_of_le_length inside.le]
  refine ⟨by rw [same]; exact h.rest, fun answer given => ?_⟩
  obtain ⟨before, earlier, asked, same⟩ := h.finished answer given
  exact ⟨before, earlier.trans later, asked, same⟩

theorem Session.Traces.begin (h : start.Traces moves) (inquiry : Inquiry) :
    start.Traces (moves ++ [.begin inquiry]) := by
  have later : moves <+: moves ++ [.begin inquiry] := List.prefix_append _ _
  have inquiries : (start.share (moves ++ [.begin inquiry])).inquiries =
      (start.share moves).inquiries ++ [inquiry] := by
    rw [start.share_concat, Service.inquiries_begin]
  constructor
  · rw [inquiries, start.attend_append, ← h.session, start.share_concat]
    exact (Session.begin_eq _ inquiry).1
  · intro i ticket found
    rw [start.share_concat, Service.step] at found
    -- an earlier ticket stays as it is; the new one is drawn from the session as it was
    rcases getElem?_concat_eq_some.mp found with early | ⟨last, rfl⟩
    · have inside := (List.getElem?_eq_some_iff.mp early).1
      exact (h.ticket i ticket early).later (by rwa [Service.inquiries, List.length_map]) later
    · refine ⟨?_, fun _ wrong => nomatch wrong⟩
      have last : i = (start.share moves).inquiries.length := by
        rwa [Service.inquiries, List.length_map]
      rw [inquiries, last, List.take_left, ← h.session]

theorem Session.Traces.finish (h : start.Traces moves) (i : Nat) :
    start.Traces (moves ++ [.finish i]) := by
  have later : moves <+: moves ++ [.finish i] := List.prefix_append _ _
  have inquiries : (start.share (moves ++ [.finish i])).inquiries =
      (start.share moves).inquiries := by
    rw [start.share_concat, Service.inquiries_finish]
  constructor
  · rw [inquiries, start.share_concat]
    exact h.session
  · intro k ticket found
    rw [start.share_concat] at found
    simp only [Service.step, List.getElem?_modify] at found
    obtain ⟨old, known, rfl⟩ := Option.map_eq_some_iff.mp found
    have inside : k < (start.share moves).inquiries.length := by
      rw [Service.inquiries, List.length_map]
      exact (List.getElem?_eq_some_iff.mp known).1
    have traced := (h.ticket k old known).later inside later
    split
    · rename_i same
      subst same
      refine ⟨traced.rest, fun answer given => ?_⟩
      -- an answer that was there before is kept
      cases finished : old.answer with
      | some answer' =>
          rw [Ticket.finish, finished, Option.getD_some] at given
          exact traced.finished answer (finished.trans given)
      | none =>
          rw [Ticket.finish, finished, Option.getD_none] at given
          exact ⟨moves, List.prefix_refl _, inside, (Option.some.inj given).symm⟩
    · exact traced

/-- Whatever the clients do, the session is what their inquiries make of it one at a time, and every
ticket comes from the step of its inquiry. -/
theorem Session.traces (start : Session) (moves : List Move) : start.Traces moves := by
  induction moves using List.reverseRecOn with
  | nil => exact ⟨rfl, fun _ _ found => nomatch found⟩
  | append_singleton moves move ih =>
      cases move with
      | begin inquiry => exact ih.begin inquiry
      | finish i => exact ih.finish i

/-- An answer is the one that the inquiry gets one at a time, with the number of nodes at the moment
at which it is finished. -/
theorem Session.share_answer {i : Nat} {ticket : Ticket} {answer : Answer}
    (found : (start.share moves).tickets[i]? = some ticket) (given : ticket.answer = some answer) :
    ∃ before, before ++ [.finish i] <+: moves ∧
      answer = ((start.attend ((start.share moves).inquiries.take i)).answer
        ticket.inquiry).2.recount (start.share before).session.nodeCount := by
  obtain ⟨rest, finished⟩ := (start.traces moves).ticket i ticket found
  obtain ⟨before, earlier, asked, rfl⟩ := finished answer given
  refine ⟨before, earlier, ?_⟩
  have session := (start.traces before).session
  obtain ⟨more, grown⟩ := start.inquiries_prefix ((List.prefix_append _ _).trans earlier)
  have there := Service.inquiries_getElem? found
  rw [rest, session]
  generalize (start.share before).inquiries = known at asked grown ⊢
  rw [← grown] at there ⊢
  rw [List.getElem?_append_left asked] at there
  rw [List.take_append_of_le_length asked.le]
  apply Session.finish_later
  -- what comes after the inquiry keeps the ids
  have split : known = known.take i ++ ticket.inquiry :: known.drop (i + 1) := by
    obtain ⟨inside, same⟩ := List.getElem?_eq_some_iff.mp there
    rw [← same, List.getElem_cons_drop, List.take_append_drop]
  conv => arg 2; rw [split, start.attend_append]
  exact Session.keepsIds_attend _ _

end Runs

section Orders

/-- An order of inquiries that explains what the clients of a service have got: one at a time in
this order, every inquiry that has an answer gets the same one. Those that have none yet may be part
of it. -/
structure Service.Explains (service : Service) (start : Session) (order : List (Ticket × Nat)) :
    Prop where
  once : order.Nodup
  begun : ∀ entry ∈ order, entry ∈ service.tickets.zipIdx
  answered : ∀ entry ∈ service.tickets.zipIdx, entry.1.answer.isSome → entry ∈ order
  same : ∀ (k : Nat) (entry : Ticket × Nat) (answer : Answer), order[k]? = some entry →
    entry.1.answer = some answer →
    (start.answers (order.map fun entry => entry.1.inquiry))[k]? = some answer

/-- Whether a ticket had its answer before another one was drawn. A client may have asked before it
drew its ticket, so real time asks no more of an order than this. -/
def Session.Precedes (start : Session) (moves : List Move) (i k : Nat) : Prop :=
  ∃ before, before <+: moves ∧ (start.share before).tickets.length ≤ k ∧
    ∃ ticket answer, (start.share before).tickets[i]? = some ticket ∧ ticket.answer = some answer

/-- Whether some order explains the answers and agrees with real time. -/
def Session.Linearizable (start : Session) (moves : List Move) : Prop :=
  ∃ order, (start.share moves).Explains start order ∧
    order.Pairwise fun entry later => ¬start.Precedes moves later.2 entry.2

/-- Whether every answer tells the number of nodes that it has to tell. -/
def Service.CountsOwn (service : Service) : Prop :=
  ∀ ticket ∈ service.tickets, ∀ answer, ticket.answer = some answer → answer.IsOwn ticket.inquiry

variable {start : Session} {moves : List Move}

theorem Service.CountsOwn.counts_eq {service : Service} (h : service.CountsOwn) :
    service.tickets.map (fun ticket => ticket.answer.bind Answer.count?) =
      service.tickets.map fun ticket => ticket.answer.bind (Answer.ownCount? ticket.inquiry) := by
  refine List.map_congr_left fun ticket mem => ?_
  cases given : ticket.answer with
  | none => rfl
  | some answer => exact h ticket mem answer given

theorem Session.Precedes.lt {i k : Nat} (h : start.Precedes moves i k) : i < k := by
  obtain ⟨before, -, after, ticket, answer, found, -⟩ := h
  exact (List.getElem?_eq_some_iff.mp found).1.trans_le after

/-- In an order that explains the answers, each answer is one that its inquiry gets from a client's
own session. -/
theorem Service.Explains.countsOwn {service : Service} {order : List (Ticket × Nat)}
    (h : service.Explains start order) (plain : start.Plain)
    (adds : ∀ inquiry ∈ service.inquiries, inquiry.AddsNoLines) : service.CountsOwn := by
  intro ticket mem answer given
  obtain ⟨i, found⟩ := List.mem_iff_getElem?.mp mem
  -- its place in the order, and the session that it finds there
  have entry : (ticket, i) ∈ service.tickets.zipIdx := List.mem_zipIdx_iff_getElem?.mpr found
  obtain ⟨k, placed⟩ := List.mem_iff_getElem?.mp (h.answered _ entry (by rw [given]; rfl))
  have same := h.same k _ answer placed given
  rw [start.answers_getElem?, List.getElem?_map, placed, Option.map_some, Option.map_some] at same
  rw [← Option.some.inj same]
  refine Session.Plain.isOwn (plain.attend fun inquiry earlier => ?_) ticket.inquiry
  obtain ⟨other, among, rfl⟩ := List.mem_map.mp (List.mem_of_mem_take earlier)
  obtain ⟨_, known⟩ := List.mem_zipIdx' (h.begun other among)
  exact adds _ (List.mem_map_of_mem (known ▸ List.getElem_mem _))

/-- Where every answer tells its own number, the order of the steps under the lock explains them. -/
theorem Session.explains_of_countsOwn (plain : start.Plain)
    (adds : ∀ inquiry ∈ (start.share moves).inquiries, inquiry.AddsNoLines)
    (own : (start.share moves).CountsOwn) :
    (start.share moves).Explains start (start.share moves).tickets.zipIdx := by
  refine ⟨?_, fun _ mem => mem, fun _ mem _ => mem, ?_⟩
  · refine List.Nodup.of_map Prod.snd ?_
    rw [List.zipIdx_map_snd]
    exact List.nodup_range' ..
  · intro k entry answer placed given
    rw [List.getElem?_zipIdx, Option.map_eq_some_iff] at placed
    obtain ⟨ticket, found, rfl⟩ := placed
    obtain ⟨before, -, same⟩ := start.share_answer found given
    have order : (start.share moves).tickets.zipIdx.map (fun entry => entry.1.inquiry) =
        (start.share moves).inquiries := map_zipIdx_fst Ticket.inquiry _
    have alone := Session.Plain.isOwn
      (plain.attend fun _ mem => adds _ (List.mem_of_mem_take mem) :
        (start.attend ((start.share moves).inquiries.take k)).Plain) ticket.inquiry
    have told := own ticket (List.mem_of_getElem? found) answer given
    rw [same] at told
    rw [order, start.answers_ticket found, same, alone.recount_eq told]

/-- What clients get from a session that they share, in whatever order their steps come. The session
is what their inquiries make of it one at a time, in the order of their steps under the lock, and
each answer is the one that its inquiry gets in this way, but with the number of nodes at the moment
at which it is finished. One at a time that number is the answer's own, unless data bring lines of
nodes into a text. Where no inquiry adds such data, the answers are linearizable, and some order of
the inquiries explains them at all, exactly if every answer tells its own number. -/
theorem Session.linearizable_iff (seed : Nat) (mode : CompileMode) (moves : List Move) :
    let start := Session.ofSeed seed mode
    let service := start.share moves
    service.session = start.attend service.inquiries ∧
    (∀ (i : Nat) (ticket : Ticket) (answer : Answer), service.tickets[i]? = some ticket →
      ticket.answer = some answer →
      ∃ one before, (start.answers service.inquiries)[i]? = some one ∧
        before ++ [.finish i] <+: moves ∧
        answer = one.recount (start.share before).session.nodeCount ∧
        (one.IsOwn ticket.inquiry ↔ ∀ text count, one = .graph text count →
          ∀ node ∈ (start.attend (service.inquiries.take i)).circuit.nodes,
            node.body.extraLines = 0)) ∧
    ((∀ inquiry ∈ service.inquiries, inquiry.AddsNoLines) →
      (start.Linearizable moves ↔ service.CountsOwn) ∧
      ((∃ order, service.Explains start order) ↔ service.CountsOwn)) := by
  intro start service
  refine ⟨(start.traces moves).session, fun i ticket answer found given => ?_, fun adds => ?_⟩
  · obtain ⟨before, earlier, same⟩ := start.share_answer found given
    refine ⟨_, before, ?_, earlier, same, Session.answer_isOwn_iff _ _⟩
    exact start.answers_ticket found
  · have plain : start.Plain :=
      ⟨Circuit.sound_of_empty rfl rfl, fun _ listed => nomatch listed⟩
    have explains := Session.explains_of_countsOwn plain adds
    refine ⟨⟨fun ⟨_, h, _⟩ => h.countsOwn plain adds, fun own => ⟨_, explains own, ?_⟩⟩,
      fun ⟨_, h⟩ => h.countsOwn plain adds, fun own => ⟨_, explains own⟩⟩
    have numbered : service.tickets.zipIdx.Pairwise fun entry later => entry.2 < later.2 := by
      rw [← List.pairwise_map, List.zipIdx_map_snd]
      exact List.pairwise_lt_range'
    exact numbered.imp fun less precedes => absurd precedes.lt (Nat.lt_asymm less)

/-- A client loads a text with one node and is told that there are two, because another client makes
a node before they are counted. No order of the two explains that. -/
theorem Session.linearizable_iff_loaded :
    let start := Session.ofSeed 0 .atomic
    let load : Inquiry := .told (.object [("type", .text "LOAD"),
      ("text", .text "TOYCON_v1\nNODE 0 RandomNode 0 0\n")])
    let spawn : Inquiry := .told (.object [("type", .text "SPAWN"), ("kind", .text "RandomNode")])
    let service := start.share [.begin load, .begin spawn, .finish 0, .finish 1]
    service.tickets.map (fun ticket => ticket.answer.bind Answer.count?) = [some 2, none] ∧
      ¬∃ order, service.Explains start order := by
  intro start load spawn service
  have told : service.tickets.map (fun ticket => ticket.answer.bind Answer.count?) =
      [some 2, none] := by decide +kernel
  have own : service.tickets.map (fun ticket =>
      ticket.answer.bind (Answer.ownCount? ticket.inquiry)) = [some 1, none] := by decide +kernel
  have adds : ∀ inquiry ∈ service.inquiries, inquiry.AddsNoLines := by
    have inquiries : service.inquiries = [load, spawn] := rfl
    rw [inquiries, List.forall_mem_cons, List.forall_mem_singleton]
    constructor
    · intro kind x y params body asked
      have loads : load.request? = some (.load "TOYCON_v1\nNODE 0 RandomNode 0 0\n") := rfl
      rw [loads] at asked
      cases asked
    · intro kind x y params body asked made
      have spawns : spawn.request? = some (.spawn (.text "RandomNode") 0 0 []) := rfl
      rw [spawns] at asked
      cases asked
      have random : Body.createNamed (.text "RandomNode") [] = .ok .random := rfl
      obtain rfl := Except.ok.inj (random.symm.trans made)
      exact Body.extraLines_of_isPlain rfl
  obtain ⟨-, -, orders⟩ := Session.linearizable_iff 0 .atomic
    [.begin load, .begin spawn, .finish 0, .finish 1]
  refine ⟨told, fun explained => ?_⟩
  have counts : service.CountsOwn := (orders adds).2.mp explained
  have same := counts.counts_eq
  rw [told, own] at same
  exact absurd same (by decide)

end Orders

end SignalGraph
