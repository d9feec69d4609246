import SignalGraph.Proofs.Graph.Latency
import SignalGraph.Proofs.Session.Refusing
import SignalGraph.Session.Connection

/-!
Random numbers over the life of a session. Every number that a random node writes is the next draw
of the one generator that the session has started with, and only such a node draws: scripts, saved
texts, changes of the graph and values that are refused leave the generator alone, and a tick that
fails has drawn for the nodes that have taken their turns.
-/

namespace SignalGraph

section Draws

/-- The next draws of a generator. -/
def Random.Generator.draws (generator : Random.Generator) : Nat → List Float
  | 0 => []
  | count + 1 => generator.draw.1 :: generator.draw.2.draws count

/-- Whether some numbers are the next draws of `first`, and `last` is what it is after them. -/
structure Random.Generator.Yields (first : Random.Generator) (numbers : List Float)
    (last : Random.Generator) : Prop where
  drawn : numbers = first.draws numbers.length
  left : last = first.after numbers.length

variable {first middle last : Random.Generator}

theorem Random.Generator.draws_add (generator : Random.Generator) (count more : Nat) :
    generator.draws (count + more) =
      generator.draws count ++ (generator.after count).draws more := by
  induction count generalizing generator with
  | zero => rw [Nat.zero_add, Random.Generator.draws, Random.Generator.after, List.nil_append]
  | succ count ih =>
      rw [Nat.succ_add, Random.Generator.draws, ih]
      rfl

theorem Random.Generator.Yields.nil (generator : Random.Generator) :
    generator.Yields [] generator := ⟨rfl, rfl⟩

theorem Random.Generator.Yields.append {numbers further : List Float}
    (h : first.Yields numbers middle) (h' : middle.Yields further last) :
    first.Yields (numbers ++ further) last := by
  obtain rfl := h.left
  constructor
  · rw [List.length_append, Random.Generator.draws_add, ← h.drawn, ← h'.drawn]
  · rw [List.length_append, Random.Generator.after_add]
    exact h'.left

end Draws

section Turns

variable (around : Surroundings)

/-- The nodes among some that take their turns: all of them, or those up to the first that fails. -/
def Turn.reached (turn : Turn) : List Ref → List Ref
  | [] => []
  | ref :: refs =>
      match turn.step around ref with
      | (next, none) => ref :: next.reached refs
      | (_, some _) => [ref]

/-- What random nodes write in the turns of some nodes: their outlets as the turns leave them. -/
def Turn.written (turn : Turn) (refs : List Ref) : List Float :=
  let random := (turn.reached around refs).filter fun ref => (turn.pool.get ref).kind = .random
  random.flatMap fun ref => ((turn.run around refs).1.pool.get ref).outlets

/-- One turn writes the next draw if its node is random, and draws nothing otherwise. -/
theorem Turn.step_yields (turn : Turn) (ref : Ref) :
    let next := (turn.step around ref).1
    turn.generator.Yields
      (if (turn.pool.get ref).kind = .random then (next.pool.get ref).outlets else [])
      next.generator := by
  intro next
  have generator := turn.step_generator around ref
  rw [Pool.drawCount_single] at generator
  by_cases random : (turn.pool.get ref).kind = .random
  · rw [if_pos random] at generator ⊢
    have inside : ref < turn.pool.nodes.size := by
      by_contra outside
      rw [turn.pool.get_of_le (Nat.le_of_not_lt outside)] at random
      cases random
    have body : (turn.pool.get ref).body = .random := by
      cases kind : (turn.pool.get ref).body with
      | random => rfl
      | _ => simp [Node.kind, kind, Body.kind] at random
    have outlets : (next.pool.get ref).outlets = [turn.generator.draw.1] := by
      rw [turn.step_get_self around inside, Turn.effect, body]
      rfl
    rw [outlets]
    exact ⟨rfl, generator⟩
  · rw [if_neg random] at generator ⊢
    exact ⟨rfl, generator⟩

/-- What is written in some turns is what the first one writes, and what the others do. -/
theorem Turn.written_cons {turn : Turn} {ref : Ref} {refs : List Ref} (new : ref ∉ refs) :
    turn.written around (ref :: refs) =
      (if (turn.pool.get ref).kind = .random
        then ((turn.step around ref).1.pool.get ref).outlets else []) ++
      match turn.step around ref with
      | (next, none) => next.written around refs
      | (_, some _) => [] := by
  have kinds : ∀ other, ((turn.step around ref).1.pool.get other).kind =
      (turn.pool.get other).kind := fun other => (turn.step_keeps around ref other).body.kind
  simp only [Turn.written, Turn.reached, Turn.run]
  cases hstep : turn.step around ref with
  | mk next fault =>
      rw [hstep] at kinds
      cases fault with
      | none =>
          have stays := next.run_get_of_not_mem around new
          simp only [kinds, List.filter_cons, decide_eq_true_eq]
          split <;> simp [stays]
      | some fault =>
          simp only [List.filter_cons, decide_eq_true_eq]
          split <;> simp

/-- Turns write the next draws, also when they end early. -/
theorem Turn.run_yields {refs : List Ref} (once : refs.Nodup) (turn : Turn) :
    turn.generator.Yields (turn.written around refs) (turn.run around refs).1.generator := by
  induction refs generalizing turn with
  | nil => exact .nil _
  | cons ref refs ih =>
      obtain ⟨new, once⟩ := List.nodup_cons.mp once
      have own := turn.step_yields around ref
      rw [Turn.written_cons around new, Turn.run]
      cases hstep : turn.step around ref with
      | mk next fault =>
          rw [hstep] at own
          cases fault with
          | none => exact own.append (ih once next)
          | some fault => exact own.append (.nil _)

end Turns

section Sessions

/-- What random nodes write in a tick. -/
def Circuit.written (c : Circuit) (dt : Float) (controls : Controls) : List Float :=
  c.start.written { dt, controls } c.graph.nodes

theorem Circuit.Sound.tick_yields {c : Circuit} (h : c.Sound) (dt : Float) (controls : Controls) :
    c.graph.generator.Yields (c.written dt controls) (c.tick dt controls).1.graph.generator :=
  Turn.run_yields { dt, controls } h.nodes_nodup c.start

/-- What random nodes write when a session is told a value. -/
def Session.written (s : Session) : Value → List Float
  | .object message =>
      match Request.ofMessage message with
      | .ok (.tick dt controls) => s.circuit.written dt (controls.getD s.controls)
      | _ => []
  | _ => []

/-- A session after it has been told a value, message or not. -/
def Session.told (s : Session) (v : Value) : Session :=
  match s.receive v with
  | .ok (next, _) => next
  | .error _ => s

variable {s : Session}

theorem Session.told_sound (h : s.circuit.Sound) (v : Value) : (s.told v).circuit.Sound := by
  cases v with
  | object message => exact s.respond_sound h message
  | _ => exact h

/-- A value that a session is told makes the random nodes write the next draws, and draws no
others. -/
theorem Session.told_yields (h : s.circuit.Sound) (v : Value) :
    s.circuit.graph.generator.Yields (s.written v) (s.told v).circuit.graph.generator := by
  cases v with
  | object message =>
      have told : s.told (.object message) = (s.respond message).1 := rfl
      rw [told, Session.written]
      cases asked : Request.ofMessage message with
      | error fault =>
          rw [Session.respond_of_error asked]
          exact .nil _
      | ok request =>
          rw [Session.respond_of_ok asked]
          cases request with
          | tick dt controls =>
              have ticked : (s.perform (.tick dt controls)).1.circuit =
                  (s.circuit.tick dt (controls.getD s.controls)).1 := by
                simp only [Session.perform, Session.tick]
                split <;> rename_i outcome <;> rw [← congrArg Prod.fst outcome]
              rw [ticked]
              exact h.tick_yields dt _
          | _ =>
              rw [(Session.perform_untimed (by simp)).2]
              exact .nil _
  | _ => exact .nil _

/-- A session after it has been told some values. -/
def Session.toldAll (s : Session) (values : List Value) : Session := values.foldl Session.told s

/-- What random nodes write while a session is told some values, in the order of the ticks, and in
each tick in the order of the list. -/
def Session.writtenAll (s : Session) : List Value → List Float
  | [] => []
  | v :: values => s.written v ++ (s.told v).writtenAll values

theorem Session.toldAll_yields (h : s.circuit.Sound) (values : List Value) :
    s.circuit.graph.generator.Yields (s.writtenAll values)
      (s.toldAll values).circuit.graph.generator := by
  induction values generalizing s with
  | nil => exact .nil _
  | cons v values ih => exact (Session.told_yields h v).append (ih (s.told_sound h v))

/-- In a session with a seed, whatever values it is told and in either mode, the random nodes write
the draws of the seed's generator from the first one on, none left out and none twice, and the
generator has been advanced for these draws only. -/
theorem Session.ofSeed_yields (seed : Nat) (mode : CompileMode) (values : List Value) :
    let s := Session.ofSeed seed mode
    let numbers := s.writtenAll values
    numbers = (Random.Generator.ofSeed seed).draws numbers.length ∧
      (s.toldAll values).circuit.graph.generator =
        (Random.Generator.ofSeed seed).after numbers.length := by
  intro s numbers
  have sound : s.circuit.Sound := Circuit.sound_of_empty rfl rfl
  have start : s.circuit.graph.generator = .ofSeed seed := rfl
  obtain ⟨drawn, left⟩ := Session.toldAll_yields sound values
  rw [start] at drawn left
  exact ⟨drawn, left⟩

end Sessions

end SignalGraph
