import SignalGraph.Proofs.Decimal.Exact
import SignalGraph.Proofs.Node.Course

/-!
The count of a counter. A counter adds up the rises of its first inlet and takes away those of its
second, from the last tick on in which its third inlet was high. In that tick it is zero, and what
rises then does not count, though it is remembered as high.
-/

namespace SignalGraph

open Decimal

section Rises

variable (course : Course) (slot n : Nat)

/-- The last tick up to one in which an inlet was high, zero if there was none. -/
def Course.lastHigh : Nat := Nat.findGreatest (fun t => course.isHigh slot t) n

/-- How often an inlet rises after one tick and up to another. -/
def Course.risesWithin (first last : Nat) : Nat :=
  ((Finset.Ioc first last).filter fun t => course.rises slot t).card

theorem Course.lastHigh_succ :
    course.lastHigh slot (n + 1) =
      if course.isHigh slot (n + 1) then n + 1 else course.lastHigh slot n := Nat.findGreatest_succ n

theorem Course.lastHigh_le : course.lastHigh slot n ≤ n := Nat.findGreatest_le n

@[simp] theorem Course.risesWithin_self : course.risesWithin slot n n = 0 := by
  rw [risesWithin, Finset.Ioc_self, Finset.filter_empty, Finset.card_empty]

variable {n}

theorem Course.risesWithin_succ {first : Nat} (order : first ≤ n) :
    course.risesWithin slot first (n + 1) =
      course.risesWithin slot first n + (course.rises slot (n + 1)).toNat := by
  rw [risesWithin, risesWithin, Finset.card_filter, Finset.card_filter,
    Finset.sum_Ioc_succ_top order, Bool.toNat, Bool.cond_eq_ite]

end Rises

section Counts

variable (course : Course) (start : Int) (n : Nat)

/-- The count of a counter that starts at some number. -/
def Course.countAt : Int :=
  (if ∃ t ≤ n, course.isHigh 2 t then 0 else start) +
    course.risesWithin 0 (course.lastHigh 2 n) n - course.risesWithin 1 (course.lastHigh 2 n) n

theorem Course.countAt_zero : course.countAt start 0 = start := by
  have low : ¬∃ t ≤ 0, course.isHigh 2 t := by
    rintro ⟨t, before, high⟩
    rw [Nat.le_zero.mp before, course.isHigh_zero] at high
    cases high
  have none : course.lastHigh 2 0 = 0 := Nat.findGreatest_zero
  rw [countAt, if_neg low, none, risesWithin_self, risesWithin_self]
  omega

/-- One tick sets the count to zero, or adds a rise of the first inlet and takes away one of the
second. -/
theorem Course.countAt_succ :
    course.countAt start (n + 1) =
      if course.isHigh 2 (n + 1) then 0
      else course.countAt start n + (course.rises 0 (n + 1)).toNat -
        (course.rises 1 (n + 1)).toNat := by
  by_cases reset : course.isHigh 2 (n + 1) = true
  · have ever : ∃ t ≤ n + 1, course.isHigh 2 t := ⟨n + 1, le_rfl, reset⟩
    rw [countAt, if_pos ever, lastHigh_succ, if_pos reset, if_pos reset, risesWithin_self,
      risesWithin_self]
    rfl
  · have ever : (∃ t ≤ n + 1, course.isHigh 2 t) ↔ ∃ t ≤ n, course.isHigh 2 t := by
      constructor
      · rintro ⟨t, bound, high⟩
        rcases Nat.le_succ_iff.mp bound with before | rfl
        · exact ⟨t, before, high⟩
        · exact absurd high reset
      · rintro ⟨t, bound, high⟩
        exact ⟨t, Nat.le_succ_of_le bound, high⟩
    have order := course.lastHigh_le 2 n
    rw [countAt, countAt, lastHigh_succ, if_neg reset, if_neg reset,
      course.risesWithin_succ 0 order, course.risesWithin_succ 1 order]
    simp only [ever]
    push_cast
    ring

end Counts

section Counters

variable {value : Float} {count : Int}

/-- One step of a counter is exact below `2 ^ 53`. -/
theorem Decimal.StandsFor.countStep (h : StandsFor value count) (within : count.natAbs < 2 ^ 53)
    (incWasHigh decWasHigh inc dec reset : Bool) :
    StandsFor (countStep value incWasHigh decWasHigh inc dec reset)
      ↑(if reset then 0
        else count + (inc && !incWasHigh).toNat - (dec && !decWasHigh).toNat : Int) := by
  cases reset with
  | true => exact_mod_cast standsFor_zero
  | false =>
      -- the rise of the first inlet may reach the bound
      have bound : (count + (inc && !incWasHigh).toNat).natAbs ≤ 2 ^ 53 := by
        have one := Bool.toNat_le (inc && !incWasHigh)
        omega
      have lower : (count + (inc && !incWasHigh).toNat - 1).natAbs ≤ 2 ^ 53 := by
        have one := Bool.toNat_le (inc && !incWasHigh)
        omega
      have raised : StandsFor (if inc && !incWasHigh then value + 1.0 else value)
          ↑(count + (inc && !incWasHigh).toNat : Int) := by
        cases rise : inc && !incWasHigh with
        | true =>
            rw [rise] at bound
            exact h.add_one bound
        | false => simpa using h
      rw [SignalGraph.countStep]
      cases dec && !decWasHigh with
      | true => exact raised.sub_one lower
      | false => simpa using raised

theorem Body.exists_counted {start : Float} {first : Int} (starts : StandsFor start first)
    (course : Course) (n : Nat) (within : ∀ t < n, (course.countAt first t).natAbs < 2 ^ 53) :
    ∃ value, StandsFor value (course.countAt first n) ∧
      (Body.counter start false false).after course n =
        .counter value (course.isHigh 0 n) (course.isHigh 1 n) := by
  induction n with
  | zero =>
      refine ⟨start, ?_, rfl⟩
      rw [course.countAt_zero]
      exact starts
  | succ n ih =>
      obtain ⟨value, stands, body⟩ := ih fun t before => within t (Nat.lt_succ_of_lt before)
      let next := countStep value (course.isHigh 0 n) (course.isHigh 1 n)
        (course.isHigh 0 (n + 1)) (course.isHigh 1 (n + 1)) (course.isHigh 2 (n + 1))
      refine ⟨next, ?_, ?_⟩
      · rw [course.countAt_succ]
        exact stands.countStep (within n n.lt_succ_self) _ _ _ _ _
      · rw [Body.after_succ, body]
        rfl

/-- The outlet of a counter shows the count that its turn leaves. -/
theorem Body.counter_outlets {value next : Float} {inc dec inc' dec' : Bool} {meeting : Meeting}
    (turn : ((Body.counter value inc dec).meet meeting).body = .counter next inc' dec') :
    ((Body.counter value inc dec).meet meeting).outlets = some [next] := by
  obtain ⟨rfl, -, -⟩ := Body.counter.inj turn
  rfl

/-- A counter that starts at a whole number has counted, after any number of ticks, the rises since
the last reset, as long as its counts have stayed below `2 ^ 53`. Its outlet shows the count. -/
theorem Body.after_counter {start : Float} {first : Int} (starts : StandsFor start first)
    (course : Course) (n : Nat) (within : ∀ t < n, (course.countAt first t).natAbs < 2 ^ 53) :
    ∃ value, StandsFor value (course.countAt first n) ∧
      (Body.counter start false false).after course n =
        .counter value (course.isHigh 0 n) (course.isHigh 1 n) ∧
      ∀ t, n = t + 1 →
        (((Body.counter start false false).after course t).meet (course n)).outlets =
          some [value] := by
  obtain ⟨value, stands, body⟩ := Body.exists_counted starts course n within
  refine ⟨value, stands, body, ?_⟩
  rintro t rfl
  obtain ⟨_, -, before⟩ :=
    Body.exists_counted starts course t fun k early => within k (Nat.lt_succ_of_lt early)
  rw [Body.after_succ, before] at body
  rw [before]
  exact Body.counter_outlets body

/-- Both inlets rise together, the second rises, the first rises in the tick of a reset and is held,
falls and rises again. -/
theorem Body.after_counter_reset :
    let course := Course.ofReadings [[1.0, 1.0, 0.0], [1.0, 0.0, 0.0], [0.0, 1.0, 0.0],
      [1.0, 1.0, 1.0], [1.0, 1.0, 0.0], [0.0, 0.0, 0.0], [1.0, 0.0, 0.0]]
    course.countAt (-1) 3 = -2 ∧ course.countAt (-1) 5 = 0 ∧ course.countAt (-1) 7 = 1 ∧
      ∃ value, StandsFor value 1 ∧
        (Body.counter (-1.0) false false).after course 7 = .counter value true false := by
  intro course
  have starts : StandsFor (-1.0) (-1 : Int) := by exact_mod_cast standsFor_neg_one
  have count : course.countAt (-1) 7 = 1 := by decide +kernel
  obtain ⟨value, stands, body, -⟩ := Body.after_counter starts course 7 (by decide +kernel)
  refine ⟨by decide +kernel, by decide +kernel, count, value, ?_, ?_⟩
  · rw [count] at stands
    exact_mod_cast stands
  · rw [body, show course.isHigh 0 7 = true by decide +kernel,
      show course.isHigh 1 7 = false by decide +kernel]

end Counters

end SignalGraph
