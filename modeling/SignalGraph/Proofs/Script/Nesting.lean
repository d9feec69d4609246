import SignalGraph.Proofs.Script.Growth

/-!
Nesting. How deep the tokens of a script nest shows when they are read without a limit. Where they
stay within the limit they are read alike with it, so what is said of readings without a limit holds
of scripts as they are compiled.
-/

namespace SignalGraph.Script

/-- How deep a reading gets while it takes some tokens, up to the first that it refuses. -/
def Reading.deepest (r : Reading) : List Token → Nat
  | [] => r.depth
  | t :: ts =>
      match r.shift t with
      | .ok next => max r.depth (next.deepest ts)
      | .error _ => r.depth

/-- How deep the parentheses and blocks of a script nest. -/
def nesting (script : List Token) : Nat := Reading.empty.deepest script

/-- Tokens that can be read and may end a script, however deep they nest. -/
def Reading.Accepts (r : Reading) (ts : List Token) : Prop :=
  ∃ last, ts.foldlM Reading.shift r = .ok last ∧ last.settle.endFault? none = none

section Steps

variable {r next last : Reading} {t : Token} {ts : List Token}

theorem Reading.step_eq_ok :
    r.step t = .ok next ↔ r.shift t = .ok next ∧ next.depth ≤ nestingLimit := by
  rw [Reading.step]
  cases r.shift t with
  | error cause => simp
  | ok shifted =>
      simp only [Except.ok.injEq]
      split
      · rename_i deep
        simp only [reduceCtorEq, false_iff, not_and]
        rintro rfl
        exact Nat.not_le.mpr deep
      · rename_i shallow
        simp only [Except.ok.injEq]
        exact ⟨by rintro rfl; exact ⟨rfl, Nat.not_lt.mp shallow⟩, And.left⟩

theorem Reading.depth_le_deepest (r : Reading) (ts : List Token) : r.depth ≤ r.deepest ts := by
  cases ts with
  | nil => exact Nat.le_refl _
  | cons t ts =>
      rw [Reading.deepest]
      split
      · exact Nat.le_max_left _ _
      · exact Nat.le_refl _

theorem Reading.deepest_of_shift (h : r.shift t = .ok next) (ts : List Token) :
    r.deepest (t :: ts) = max r.depth (next.deepest ts) := by
  simp only [Reading.deepest, h]

/-- Tokens behind others that can be read. -/
theorem Reading.deepest_append (h : ts.foldlM Reading.shift r = .ok last) (more : List Token) :
    r.deepest (ts ++ more) = max (r.deepest ts) (last.deepest more) := by
  induction ts generalizing r with
  | nil =>
      obtain rfl := pure_eq_ok.mp h
      exact (Nat.max_eq_right (Reading.depth_le_deepest r more)).symm
  | cons t ts ih =>
      rw [List.foldlM_cons] at h
      obtain ⟨next, shift, rest⟩ := bind_eq_ok.mp h
      rw [List.cons_append, Reading.deepest_of_shift shift, Reading.deepest_of_shift shift, ih rest,
        Nat.max_assoc]

theorem Reading.foldlM_shift_of_step (h : ts.foldlM Reading.step r = .ok last) :
    ts.foldlM Reading.shift r = .ok last := by
  induction ts generalizing r with
  | nil => exact pure_eq_ok.mpr (pure_eq_ok.mp h)
  | cons t ts ih =>
      rw [List.foldlM_cons] at h ⊢
      obtain ⟨next, step, rest⟩ := bind_eq_ok.mp h
      exact bind_eq_ok.mpr ⟨next, (Reading.step_eq_ok.mp step).1, ih rest⟩

/-- Tokens that stay within the limit are read alike with it. -/
theorem Reading.foldlM_step_of_shift (h : ts.foldlM Reading.shift r = .ok last)
    (shallow : r.deepest ts ≤ nestingLimit) : ts.foldlM Reading.step r = .ok last := by
  induction ts generalizing r with
  | nil => exact pure_eq_ok.mpr (pure_eq_ok.mp h)
  | cons t ts ih =>
      rw [List.foldlM_cons] at h ⊢
      obtain ⟨next, shift, rest⟩ := bind_eq_ok.mp h
      rw [Reading.deepest_of_shift shift, Nat.max_le] at shallow
      have within := Nat.le_trans (next.depth_le_deepest ts) shallow.2
      exact bind_eq_ok.mpr ⟨next, Reading.step_eq_ok.mpr ⟨shift, within⟩, ih rest shallow.2⟩

/-- Tokens that are read with the limit stay within it. -/
theorem Reading.deepest_le_of_step (h : ts.foldlM Reading.step r = .ok last)
    (shallow : r.depth ≤ nestingLimit) : r.deepest ts ≤ nestingLimit := by
  induction ts generalizing r with
  | nil => exact shallow
  | cons t ts ih =>
      rw [List.foldlM_cons] at h
      obtain ⟨next, step, rest⟩ := bind_eq_ok.mp h
      obtain ⟨shift, within⟩ := Reading.step_eq_ok.mp step
      rw [Reading.deepest_of_shift shift]
      exact Nat.max_le.mpr ⟨shallow, ih rest within⟩

/-- A run behind tokens that have been read. -/
theorem Reading.run_append (h : ts.foldlM Reading.step r = .ok last) (more : List Token) :
    r.run (ts ++ more) = last.run more := by
  induction ts generalizing r with
  | nil =>
      obtain rfl := pure_eq_ok.mp h
      rfl
  | cons t ts ih =>
      rw [List.foldlM_cons] at h
      obtain ⟨next, step, rest⟩ := bind_eq_ok.mp h
      rw [List.cons_append, Reading.run, step]
      exact ih rest

end Steps

section Acceptance

/-- Whether a script may end does not depend on where it ends. -/
theorem Reading.endFault?_eq_none {r : Reading} {place : Option Place} (other : Option Place)
    (h : r.endFault? place = none) : r.endFault? other = none := by
  obtain ⟨blocks, body, phase, absBound⟩ := r
  cases phase with
  | expression goal formula =>
      cases value : formula.value? <;> cases goal <;>
        simp [Reading.endFault?, value] at h
  | ready => exact h
  | declared name => rfl
  | word name => rfl
  | _ => cases h

/-- A script is accepted when it can be read, may end, and stays within the limit. -/
theorem read_eq_none_iff {ts : List Token} :
    (read ts).2 = none ↔ Reading.empty.Accepts ts ∧ nesting ts ≤ nestingLimit := by
  have start : Reading.empty.depth ≤ nestingLimit := Nat.zero_le _
  constructor
  · intro accepted
    obtain ⟨before, after, last, rfl, reads, ends⟩ := Reading.run_reads .empty ts
    rw [read] at accepted
    cases after with
    | nil =>
        simp only [ends] at accepted
        rw [List.append_nil]
        exact ⟨⟨last, Reading.foldlM_shift_of_step reads, Reading.endFault?_eq_none none accepted⟩,
          Reading.deepest_le_of_step reads start⟩
    | cons t after =>
        obtain ⟨fault, -, ends⟩ := ends
        simp [ends] at accepted
  · rintro ⟨⟨last, reads, ends⟩, shallow⟩
    have run := Reading.run_append (Reading.foldlM_step_of_shift reads shallow) []
    rw [List.append_nil] at run
    rw [read, run]
    exact Reading.endFault?_eq_none _ ends

end Acceptance

end SignalGraph.Script
