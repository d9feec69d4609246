import SignalGraph.Proofs.Script.Formula
import SignalGraph.Proofs.Script.Growth
import SignalGraph.Proofs.Script.Nesting
import SignalGraph.Script.Excerpt

/-!
Expressions on their own. Outside all blocks a script reads an expression as it is read on its own,
up to the token that ends it, and has the same gates for it. An expression that is read to its end
is the one that the grammar derives.
-/

namespace SignalGraph.Script

section Steps

variable {r : Reading} {goal : Goal} {formula next : Formula} {t : Token}

/-- Only before its first token may an expression be missing. -/
theorem Phase.emptyCall?_of_shifted {absBound : Bool}
    (step : formula.step absBound t = .shifted next) :
    (Phase.expression goal next).emptyCall? = none := by
  cases found : (Phase.expression goal next).emptyCall? with
  | none => rfl
  | some callee =>
      obtain ⟨-, rfl⟩ := Phase.expression.inj (Phase.eq_of_emptyCall? found)
      exact absurd step Formula.step_ne_empty

theorem Reading.shift_expression (due : (Phase.expression goal formula).emptyCall? = none) :
    (r.await (.expression goal formula)).shift t =
      (r.await (.expression goal formula)).advance goal formula t := by
  simp only [Reading.shift, Reading.await, due]

theorem Reading.step_refused {cause : Cause}
    (due : (Phase.expression goal formula).emptyCall? = none)
    (step : formula.step r.absBound t = .refused cause) :
    (r.await (.expression goal formula)).step t = .error { cause, place := some t.place } := by
  rw [Reading.step, Reading.shift_expression due, Reading.advance, Reading.await, step]

theorem Reading.step_shifted (outside : r.blocks = [])
    (due : (Phase.expression goal formula).emptyCall? = none)
    (step : formula.step r.absBound t = .shifted next) :
    (r.await (.expression goal formula)).step t =
      if nestingLimit < next.parens.length then .error { cause := .nesting, place := none }
      else .ok (r.await (.expression goal next)) := by
  rw [Reading.step, Reading.shift_expression due, Reading.advance, Reading.await, step]
  simp [Reading.await, Reading.depth, Phase.depth, outside]

end Steps

section Runs

variable {r : Reading} {goal : Goal} {formula : Formula}

/-- Why an excerpt ends before the tokens that are left, when `count` tokens have been read and
`last` is the place of the last of them. -/
inductive Excerpt.Ends (r : Reading) (goal : Goal) (count : Nat) (last : Option Place) :
    Excerpt → List Token → Prop where
  /-- The expression is whole, and what follows does not belong to it. -/
  | whole {formula : Formula} {value : Expr} {rest : List Token}
      (value? : formula.value? = some value)
      (leaves : ∀ t ∈ rest.head?, formula.step r.absBound t = .finished value) :
      Excerpt.Ends r goal count last { formula, value, count, fault := none } rest
  /-- No token is left, and a script may not end here. -/
  | early {formula : Formula} {fault : Fault} (value? : formula.value? = none)
      (ends : (r.await (.expression goal formula)).endFault? last = some fault) :
      Excerpt.Ends r goal count last { formula, value := none, count, fault } []
  /-- A script refuses the next token. -/
  | refused {formula : Formula} {fault : Fault} {t : Token} {rest : List Token}
      (refuses : (r.await (.expression goal formula)).step t = .error fault) :
      Excerpt.Ends r goal count last
        { formula, value := none, fault
          count := if fault.cause.consumes then count + 1 else count } (t :: rest)

/-- The place of the last of some tokens, or the one before them. -/
def lastPlace (last : Option Place) (read : List Token) : Option Place :=
  (read.getLast?.map Token.place).or last

theorem lastPlace_cons (last : Option Place) (t : Token) (read : List Token) :
    lastPlace last (t :: read) = lastPlace (some t.place) read := by
  rw [lastPlace, lastPlace, List.getLast?_cons]
  cases read.getLast? <;> rfl

/-- What is read of an expression on its own is what a script reads of it outside all blocks, and
both end there for the same reason. -/
theorem Formula.run_ends (outside : r.blocks = [])
    (due : (Phase.expression goal formula).emptyCall? = none) (count : Nat) (last : Option Place)
    (ts : List Token) :
    let e := formula.run r.absBound count last ts
    ∃ read rest, ts = read ++ rest ∧
      read.foldlM Reading.step (r.await (.expression goal formula)) =
        .ok (r.await (.expression goal e.formula)) ∧
      Excerpt.Ends r goal (count + read.length) (lastPlace last read) e rest := by
  induction ts generalizing formula count last with
  | nil =>
      refine ⟨[], [], rfl, ?_⟩
      cases whole : formula.value? with
      | some value =>
          simp only [Formula.run, whole]
          exact ⟨rfl, .whole whole fun _ mem => nomatch mem⟩
      | none =>
          simp only [Formula.run, whole]
          exact ⟨rfl, .early whole (by simp only [Reading.endFault?, Reading.await, whole]; rfl)⟩
  | cons t ts ih =>
      cases step : formula.step r.absBound t with
      | finished value =>
          refine ⟨[], t :: ts, rfl, ?_⟩
          simp only [Formula.run, step]
          refine ⟨rfl, .whole (Formula.value?_of_finished step) ?_⟩
          rintro _ ⟨⟩
          exact step
      | refused cause =>
          refine ⟨[], t :: ts, rfl, ?_⟩
          simp only [Formula.run, step]
          exact ⟨rfl, .refused (Reading.step_refused due step)⟩
      | shifted next =>
          have moves := Reading.step_shifted outside due step
          by_cases deep : nestingLimit < next.parens.length
          · rw [if_pos deep] at moves
            refine ⟨[], t :: ts, rfl, ?_⟩
            simp only [Formula.run, step, if_pos deep]
            exact ⟨rfl, .refused moves⟩
          · rw [if_neg deep] at moves
            obtain ⟨read, rest, rfl, reads, ends⟩ :=
              ih (Phase.emptyCall?_of_shifted step) (count + 1) (some t.place)
            refine ⟨t :: read, rest, rfl, ?_⟩
            simp only [Formula.run, step, if_neg deep]
            rw [List.foldlM_cons, moves, List.length_cons, Nat.add_comm read.length 1,
              ← Nat.add_assoc, lastPlace_cons]
            exact ⟨reads, ends⟩

/-- A script goes on behind an expression that is whole, and ends with the fault of one that is
not. -/
theorem Reading.run_excerpt (outside : r.blocks = [])
    (due : (Phase.expression goal formula).emptyCall? = none) (ts : List Token) :
    let e := formula.run r.absBound 0 none ts
    let before := r.await (.expression goal formula)
    let after := r.await (.expression goal e.formula)
    (∀ value, e.value = some value → before.run ts = after.run (ts.drop e.count)) ∧
      ∀ fault, e.fault = some fault → before.run ts = (after.settle, some fault) ∨
        before.run ts = (after.settle, none) ∧
          after.endFault? (ts.getLast?.map Token.place) = some fault := by
  intro e before after
  obtain ⟨read, rest, cut, reads, ends⟩ := Formula.run_ends outside due 0 none ts
  have run : before.run ts = after.run rest := cut ▸ Reading.run_append reads rest
  rw [run]
  clear run reads
  change Excerpt.Ends r goal _ _ e rest at ends
  clear_value e
  cases ends with
  | whole value? leaves =>
      refine ⟨fun _ _ => ?_, fun fault met => nomatch met⟩
      rw [cut, Nat.zero_add, List.drop_left]
  | early value? ends =>
      refine ⟨fun value whole => (nomatch whole), fun fault met => .inr ⟨rfl, ?_⟩⟩
      obtain rfl := Option.some.inj met
      rw [lastPlace, Option.or_none] at ends
      rw [cut, List.append_nil]
      exact ends
  | refused refuses =>
      refine ⟨fun value whole => (nomatch whole), fun fault met => .inl ?_⟩
      obtain rfl := Option.some.inj met
      rw [Reading.run, refuses]

theorem Formula.run_value? {absBound : Bool} {value : Expr} {ts : List Token}
    (whole : (Formula.empty.run absBound 0 none ts).value = some value) :
    (Formula.empty.run absBound 0 none ts).formula.value? = some value := by
  obtain ⟨_, _, -, -, ends⟩ :=
    @Formula.run_ends { Reading.empty with absBound } .condition .empty rfl rfl 0 none ts
  simp only at ends
  generalize Formula.empty.run absBound 0 none ts = e at whole ends ⊢
  cases ends with
  | whole value? leaves =>
      obtain rfl := Option.some.inj whole
      exact value?
  | early value? ends => cases whole
  | refused refuses => cases whole

/-- An expression that is read to its end is derived from the tokens that have been read. -/
theorem Formula.run_completes {absBound : Bool} {value : Expr} {count : Nat} {last : Option Place}
    {ts : List Token} (whole : (formula.run absBound count last ts).value = some value) :
    ∃ read rest, ts = read ++ rest ∧
      (formula.run absBound count last ts).count = count + read.length ∧
      formula.Completes absBound ts value rest := by
  induction ts generalizing formula count last with
  | nil =>
      refine ⟨[], [], rfl, ?_⟩
      cases found : formula.value? with
      | none => simp only [Formula.run, found] at whole; cases whole
      | some value =>
          simp only [Formula.run, found] at whole ⊢
          obtain rfl := Option.some.inj whole
          exact ⟨rfl, Formula.value?_completes found⟩
  | cons t ts ih =>
      cases step : formula.step absBound t with
      | finished value =>
          simp only [Formula.run, step] at whole ⊢
          obtain rfl := Option.some.inj whole
          exact ⟨[], t :: ts, rfl, rfl, Formula.step_finished step⟩
      | refused cause => simp only [Formula.run, step] at whole; cases whole
      | shifted next =>
          simp only [Formula.run, step] at whole ⊢
          split at whole
          · cases whole
          · rename_i shallow
            obtain ⟨read, rest, rfl, count, completes⟩ := ih whole
            refine ⟨t :: read, rest, rfl, ?_, Formula.step_shifted step completes⟩
            rw [if_neg shallow, count, List.length_cons]
            omega

/-- An excerpt that is whole is the longest chain at the start of the tokens. -/
theorem Formula.run_empty_derives {absBound : Bool} {value : Expr} {ts : List Token}
    (whole : (Formula.empty.run absBound 0 none ts).value = some value) :
    ∃ read rest, ts = read ++ rest ∧
      (Formula.empty.run absBound 0 none ts).count = read.length ∧ ChainAt absBound ts value rest := by
  obtain ⟨read, rest, cut, count, completes⟩ := Formula.run_completes whole
  exact ⟨read, rest, cut, by omega, Formula.empty_completes completes⟩

end Runs

section Compilations

/-- An expression compiled on its own has the gates that a script has for what it has read of it. -/
theorem compileExpression_emits (constants : List (String × Float)) (source : String) :
    let e := Formula.empty.run (constants.lookup "abs").isSome 0 none (tokens source)
    (compileExpression constants source).assembly =
      ((do bindConstants constants; Phase.emit none (.expression .condition e.formula)).run {}).2 := by
  simp only [compileExpression, Phase.emit]
  generalize found : Formula.empty.run (constants.lookup "abs").isSome 0 none (tokens source) = e
  cases whole : e.value with
  | none => rfl
  | some value =>
      have value? : e.formula.value? = some value := by
        rw [← found] at whole ⊢
        exact Formula.run_value? whole
      rw [Formula.operands_of_value? value?]
      rfl

end Compilations

end SignalGraph.Script
