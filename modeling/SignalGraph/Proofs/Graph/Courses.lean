import SignalGraph.Proofs.Graph.Matching
import SignalGraph.Proofs.Node.Counting
import SignalGraph.Proofs.Node.Latching
import SignalGraph.Proofs.Node.Painting

/-!
The courses of nodes in circuits. A node that is evaluated tick after tick runs through a course, in
which it meets what its inlets read when its turn comes. So counters count, beeps sound and screens
show what has come in, also when their circuits are rewired in between.
-/

namespace SignalGraph

open Decimal

section Courses

/-- What a node of a circuit meets in a tick when its turn comes. -/
def Circuit.meeting (c : Circuit) (tick : Float × Controls) (ref : Ref) : Meeting where
  around := { dt := tick.1, controls := tick.2 }
  id := (c.node ref).idNumber
  inputs := c.pool.readings (c.tick tick.1 tick.2).1.pool (c.before ref) (c.node ref)
  generator := (c.start.run { dt := tick.1, controls := tick.2 } (c.before ref)).1.generator

variable (cs : Nat → Circuit) (history : Nat → Float × Controls) (ref : Ref)

/-- What a node meets when circuits tick one after the other. -/
def courseOf : Course := fun n => (cs (n - 1)).meeting (history (n - 1)) ref

/-- A node that each of some circuits evaluates in a tick. From one tick to the next its circuit may
change, as long as the node keeps its state. -/
structure Evaluated (count : Nat) : Prop where
  sound : ∀ t < count, (cs t).Sound
  evaluates : ∀ t < count, (cs t).evaluates (history t).1 (history t).2 ref
  keeps : ∀ t < count, ((cs (t + 1)).node ref).body =
    (((cs t).tick (history t).1 (history t).2).1.node ref).body

variable {cs history ref} {count : Nat}

theorem Evaluated.tick (h : Evaluated cs history ref count) {t : Nat} (early : t < count) :
    let effect := ((cs t).node ref).body.meet (courseOf cs history ref (t + 1))
    ((cs t).tick (history t).1 (history t).2).1.node ref =
      { (cs t).node ref with
        body := effect.body, outlets := effect.outlets.getD ((cs t).node ref).outlets } :=
  (h.sound t early).tick_evaluated (h.evaluates t early)

/-- The state of a node is that in which its course leaves it. -/
theorem Evaluated.body (h : Evaluated cs history ref count) {n : Nat} (bound : n ≤ count) :
    ((cs n).node ref).body = ((cs 0).node ref).body.after (courseOf cs history ref) n := by
  induction n with
  | zero => rfl
  | succ n ih => rw [h.keeps n bound, h.tick bound, ih (Nat.le_of_lt bound), Body.after_succ]

/-- In a circuit that ticks time after time, and always completes, all nodes are evaluated. -/
theorem Circuit.Sound.evaluated {c : Circuit} (h : c.Sound) (listed : ref ∈ c.graph.nodes)
    {history : List (Float × Controls)} (completes : c.Completes history) :
    Evaluated (fun n => c.ticks (history.take n)) (fun n => history.getD n (0.0, .idle)) ref
      history.length := by
  have next {t : Nat} (early : t < history.length) :
      history.take (t + 1) = history.take t ++ [history.getD t (0.0, .idle)] := by
    rw [List.take_add_one, List.getD_eq_getElem?_getD, List.getElem?_eq_getElem early]
    rfl
  refine ⟨fun t _ => h.ticks _, fun t early => ?_, fun t early => ?_⟩
  · refine Circuit.evaluates_of_completes ?_ ?_
    · rwa [c.ticks_nodes]
    · have front := completes.of_prefix (next early ▸ List.take_prefix (t + 1) history)
      exact front.last
  · rw [next early, c.ticks_concat]

end Courses

section Nodes

variable {cs : Nat → Circuit} {history : Nat → Float × Controls} {ref : Ref} {count n : Nat}

/-- A counter of a circuit counts rises from its last reset on, and shows its count in every tick. -/
theorem Evaluated.counter (h : Evaluated cs history ref count) (bound : n ≤ count) {start : Float}
    {first : Int} (starts : StandsFor start first)
    (made : ((cs 0).node ref).body = .counter start false false)
    (within : ∀ t < n, ((courseOf cs history ref).countAt first t).natAbs < 2 ^ 53) :
    let course := courseOf cs history ref
    ∃ value, StandsFor value (course.countAt first n) ∧
      ((cs n).node ref).body = .counter value (course.isHigh 0 n) (course.isHigh 1 n) ∧
      ∀ t, n = t + 1 →
        (((cs t).tick (history t).1 (history t).2).1.node ref).outlets = [value] := by
  intro course
  obtain ⟨value, stands, body⟩ := Body.exists_counted starts course n within
  rw [← made, ← h.body bound] at body
  refine ⟨value, stands, body, ?_⟩
  rintro t rfl
  obtain ⟨_, -, before⟩ :=
    Body.exists_counted starts course t fun k early => within k (Nat.lt_succ_of_lt early)
  rw [← made, ← h.body (Nat.le_of_lt bound)] at before
  rw [h.keeps t bound, h.tick bound, before] at body
  rw [h.tick bound, before, Body.counter_outlets body]
  rfl

/-- A beep of a circuit sounds in the ticks in which its trigger rises, with the pitch and the volume
of the last of them. -/
theorem Evaluated.beep (h : Evaluated cs history ref count) (bound : n ≤ count) {sound : Value}
    (made : ((cs 0).node ref).body = .beep { sound }) :
    ∃ beep, ((cs n).node ref).body = .beep beep ∧ beep.sound = sound ∧
      beep.Latched (courseOf cs history ref) n ∧ beep.InRange := by
  obtain ⟨beep, body, same, latched⟩ := Body.exists_latched sound (courseOf cs history ref) n
  rw [← made, ← h.body bound] at body
  exact ⟨beep, body, same, latched, latched.inRange⟩

/-- Each cell of a screen of a circuit shows the color of the last tick that painted it, in single
precision, and is black if none did. -/
theorem Evaluated.screen (h : Evaluated cs history ref count) (bound : n ≤ count)
    (made : ((cs 0).node ref).body = .screen .blank) :
    let course := courseOf cs history ref
    ∃ screen, ((cs n).node ref).body = .screen screen ∧ ∀ column row,
      (∃ k, course.Paints column row n k ∧ (∀ t, course.Paints column row n t → t ≤ k) ∧
        (course k).inputs.pixel.Rounds (screen.get column row)) ∨
      (∀ k, ¬course.Paints column row n k) ∧ screen.get column row = .black := by
  intro course
  obtain ⟨screen, body, cells⟩ := Body.exists_painted course n
  rw [← made, ← h.body bound] at body
  refine ⟨screen, body, fun column row => ?_⟩
  rw [cells]
  exact course.pixelAt_painted column row n

end Nodes

end SignalGraph
