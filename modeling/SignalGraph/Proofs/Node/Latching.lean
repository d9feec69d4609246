import SignalGraph.Proofs.Graph.Sinks
import SignalGraph.Proofs.Node.Canonical
import SignalGraph.Proofs.Node.Course

/-!
What a beep holds on to. A beep sounds in the ticks in which its trigger rises, and keeps the pitch
and the volume of the last of them. Whatever numbers come in, both are in their ranges.
-/

namespace SignalGraph

open Decimal

section Ranges

variable {low high : Float}

/-- A clamped number is in its range, even if it was no number. -/
theorem clamp_bounds (ordered : low ≤ high) (x : Float) :
    low ≤ clamp low high x ∧ clamp low high x ≤ high := by
  obtain ⟨hlow, hhigh, -⟩ := le_iff.mp ordered
  have raised : low ≤ if low < x then x else low := by
    split
    · rename_i above
      obtain ⟨-, number, less⟩ := lt_iff.mp above
      exact le_iff.mpr ⟨hlow, number, less.le⟩
    · exact le_iff.mpr ⟨hlow, hlow, le_rfl⟩
  rw [clamp]
  generalize (if low < x then x else low) = y at raised ⊢
  split
  · rename_i below
    obtain ⟨number, -, less⟩ := lt_iff.mp below
    exact ⟨raised, le_iff.mpr ⟨number, hhigh, less.le⟩⟩
  · exact ⟨ordered, le_iff.mpr ⟨hhigh, hhigh, le_rfl⟩⟩

example : clamp (-1.0) 1.0 (0.0 / 0.0) == -1.0 := by decide +kernel

/-- A beep has a pitch from minus one to one and a volume from zero to one. -/
structure Beep.InRange (beep : Beep) : Prop where
  pitch_ge : -1.0 ≤ beep.pitch
  pitch_le : beep.pitch ≤ 1.0
  volume_ge : 0.0 ≤ beep.volume
  volume_le : beep.volume ≤ 1.0

theorem Beep.Tuned.inRange {beep : Beep} {inputs : Inputs} (h : beep.Tuned inputs) :
    beep.InRange := by
  obtain ⟨pitch, volume⟩ := h
  obtain ⟨pitch_ge, pitch_le⟩ := clamp_bounds (by decide +kernel : -1.0 ≤ 1.0) (inputs.level 1)
  have bounds : 0.0 ≤ beep.volume ∧ beep.volume ≤ 1.0 := by
    rw [volume]
    cases inputs.getD 2 none with
    | none => exact ⟨by decide +kernel, by decide +kernel⟩
    | some x => exact clamp_bounds (by decide +kernel) x
  rw [← pitch] at pitch_ge pitch_le
  exact ⟨pitch_ge, pitch_le, bounds.1, bounds.2⟩

end Ranges

section Latches

variable (course : Course) (slot n : Nat)

/-- The last tick up to one in which an inlet rose, zero if there was none. -/
def Course.lastRise : Nat := Nat.findGreatest (fun t => course.rises slot t) n

theorem Course.lastRise_succ :
    course.lastRise slot (n + 1) =
      if course.rises slot (n + 1) then n + 1 else course.lastRise slot n := Nat.findGreatest_succ n

/-- A beep that does not sound keeps its pitch and its volume. -/
theorem Beep.step_of_silent {beep : Beep} {inputs : Inputs}
    (silent : (beep.step inputs).shouldPlay = false) :
    (beep.step inputs).pitch = beep.pitch ∧ (beep.step inputs).volume = beep.volume := by
  rw [Beep.step_shouldPlay] at silent
  simp only [Beep.step, silent]
  exact ⟨rfl, rfl⟩

theorem Beep.step_sound (beep : Beep) (inputs : Inputs) :
    (beep.step inputs).sound = beep.sound := by
  simp only [Beep.step]
  split <;> rfl

/-- What a beep holds after some ticks: whether its trigger rises and is high, and the pitch and the
volume of the last rise. -/
structure Beep.Latched (beep : Beep) : Prop where
  high : beep.wasHigh = course.isHigh 0 n
  plays : beep.shouldPlay = course.rises 0 n
  fresh : course.lastRise 0 n = 0 → beep.pitch = 0.0 ∧ beep.volume = 1.0
  tuned : course.lastRise 0 n ≠ 0 → beep.Tuned (course (course.lastRise 0 n)).inputs

variable {course n}

/-- One tick goes on with what the ticks before it have latched. -/
theorem Beep.Latched.step {beep : Beep} (h : beep.Latched course n) :
    (beep.step (course (n + 1)).inputs).Latched course (n + 1) := by
  have plays : (beep.step (course (n + 1)).inputs).shouldPlay = course.rises 0 (n + 1) := by
    rw [Beep.step_shouldPlay, h.high, course.rises_succ, course.isHigh_succ]
  refine ⟨Beep.step_wasHigh beep _, plays, ?_, ?_⟩ <;> rw [course.lastRise_succ]
  · intro never
    split at never
    · cases never
    · rename_i silent
      obtain ⟨pitch, volume⟩ := Beep.step_of_silent (plays.trans (Bool.eq_false_iff.mpr silent))
      rw [pitch, volume]
      exact h.fresh never
  · intro ever
    split at ever
    · rename_i rises
      rw [if_pos rises]
      exact Beep.step_tuned_of_plays (plays.trans rises)
    · rename_i silent
      obtain ⟨pitch, volume⟩ := Beep.step_of_silent (plays.trans (Bool.eq_false_iff.mpr silent))
      rw [if_neg silent, Beep.Tuned, pitch, volume]
      exact h.tuned ever

theorem Beep.Latched.inRange {beep : Beep} (h : beep.Latched course n) : beep.InRange := by
  by_cases never : course.lastRise 0 n = 0
  · obtain ⟨pitch, volume⟩ := h.fresh never
    constructor <;> first | rw [pitch] | rw [volume]
    all_goals decide +kernel
  · exact (h.tuned never).inRange

theorem Body.exists_latched (sound : Value) (course : Course) (n : Nat) :
    ∃ beep, (Body.beep { sound }).after course n = .beep beep ∧ beep.sound = sound ∧
      beep.Latched course n := by
  induction n with
  | zero => exact ⟨_, rfl, rfl, rfl, rfl, fun _ => ⟨rfl, rfl⟩, fun ever => absurd rfl ever⟩
  | succ n ih =>
      obtain ⟨beep, body, same, latched⟩ := ih
      refine ⟨beep.step (course (n + 1)).inputs, ?_, ?_, latched.step⟩
      · rw [Body.after_succ, body]
        rfl
      · rw [Beep.step_sound, same]

/-- After any number of ticks, whatever its inlets have read and wherever they were connected, a beep
sounds exactly if its trigger has just risen. It has the pitch and the volume of the last rise, or
those it was made with, and they are in their ranges. -/
theorem Body.after_beep (sound : Value) (course : Course) (n : Nat) :
    ∃ beep, (Body.beep { sound }).after course n = .beep beep ∧ beep.sound = sound ∧
      beep.Latched course n ∧ beep.InRange := by
  obtain ⟨beep, body, same, latched⟩ := Body.exists_latched sound course n
  exact ⟨beep, body, same, latched, latched.inRange⟩

end Latches

end SignalGraph
