import SignalGraph.Proofs.Script.Frame
import SignalGraph.Proofs.Script.Lexeme

/-!
Completions. Whatever has been read of a script, some tokens bring it to an end at which it is
accepted: an operand where one is due, closing parentheses, what the goal of an expression still
wants, and a closing brace for every open block. None of them nests deeper than the one block that a
condition opens.
-/

namespace SignalGraph.Script

section Tokens

/-- A token that is added to a script. Its place plays no part. -/
def Token.added (kind : TokenKind) (text : String) : Token := { text, kind, place := .first }

def Formula.completion (formula : Formula) : List Token :=
  match formula.hand with
  | .wanting _ => .added .number "0" :: formula.parens.map fun _ => .added .mark ")"
  | _ => formula.parens.map fun _ => .added .mark ")"

def Goal.completion : Goal → List Token
  | .condition => [.added .mark ")", .added .mark "\x7b", .added .mark "\x7d"]
  | .argument _ _ => [.added .mark ")"]
  | _ => []

/-- Tokens that bring the current statement to an end. -/
def Phase.completion : Phase → List Token
  | .declaration => [.added .name "x"]
  | .condition => .added .mark "(" :: .added .number "0" :: Goal.condition.completion
  | .opening _ => [.added .mark "\x7b", .added .mark "\x7d"]
  | .creation => [.added .name "x", .added .mark "(", .added .mark ")"]
  | .callee _ => [.added .mark "(", .added .mark ")"]
  | .expression goal formula => formula.completion ++ goal.completion
  | _ => []

def Reading.completion (r : Reading) : List Token :=
  r.phase.completion ++ List.replicate r.blocks.length (.added .mark "\x7d")

/-- The tokens that completions are made of. -/
def completionTokens : List Token :=
  [.added .name "x", .added .number "0", .added .mark "(", .added .mark ")", .added .mark "\x7b",
    .added .mark "\x7d"]

theorem completionTokens_spell : ∀ t ∈ completionTokens, t.kind.Spells t.text.toList := by
  simp only [completionTokens, List.forall_mem_cons]
  exact ⟨⟨rfl, nofun⟩, ⟨rfl, nofun⟩, ⟨rfl, nofun⟩, ⟨rfl, nofun⟩, ⟨rfl, nofun⟩, ⟨rfl, nofun⟩, nofun⟩

theorem Formula.completion_subset (formula : Formula) : formula.completion ⊆ completionTokens := by
  have closings : (formula.parens.map fun _ => Token.added .mark ")") ⊆ completionTokens := by
    intro t mem
    obtain ⟨paren, -, rfl⟩ := List.mem_map.mp mem
    decide
  unfold Formula.completion
  split
  · exact List.cons_subset.mpr ⟨by decide, closings⟩
  · exact closings

theorem Phase.completion_subset (phase : Phase) : phase.completion ⊆ completionTokens := by
  have wanted (goal : Goal) : goal.completion ⊆ completionTokens := by
    cases goal <;> simp only [Goal.completion] <;> decide
  cases phase with
  | expression goal formula =>
      exact List.append_subset.mpr ⟨formula.completion_subset, wanted goal⟩
  | _ =>
      simp only [Phase.completion, Goal.completion]
      decide

theorem Reading.completion_subset (r : Reading) : r.completion ⊆ completionTokens := by
  refine List.append_subset.mpr ⟨r.phase.completion_subset, fun t mem => ?_⟩
  obtain rfl := List.eq_of_mem_replicate mem
  decide

/-- All tokens of a completion can stand in a text. -/
theorem Reading.completion_spells (r : Reading) :
    ∀ t ∈ r.completion, t.kind.Spells t.text.toList :=
  fun t mem => completionTokens_spell t (r.completion_subset mem)

end Tokens

section Reaching

/-- Tokens lead from one reading to another, and nest no deeper than a limit on the way. -/
structure Reading.Reaches (limit : Nat) (r : Reading) (ts : List Token) (last : Reading) :
    Prop where
  reads : ts.foldlM Reading.shift r = .ok last
  shallow : r.deepest ts ≤ limit

variable {limit : Nat} {r next last : Reading} {t : Token} {ts more : List Token}

theorem Reading.Reaches.nil (h : r.depth ≤ limit) : r.Reaches limit [] r := ⟨rfl, h⟩

theorem Reading.Reaches.cons (h : r.depth ≤ limit) (shift : r.shift t = .ok next)
    (rest : next.Reaches limit ts last) : r.Reaches limit (t :: ts) last := by
  refine ⟨?_, ?_⟩
  · rw [List.foldlM_cons]
    exact bind_eq_ok.mpr ⟨next, shift, rest.reads⟩
  · rw [Reading.deepest_of_shift shift]
    exact Nat.max_le.mpr ⟨h, rest.shallow⟩

theorem Reading.Reaches.append (first : r.Reaches limit ts next)
    (second : next.Reaches limit more last) : r.Reaches limit (ts ++ more) last := by
  refine ⟨?_, ?_⟩
  · rw [List.foldlM_append]
    exact bind_eq_ok.mpr ⟨next, first.reads, second.reads⟩
  · rw [Reading.deepest_append first.reads]
    exact Nat.max_le.mpr ⟨first.shallow, second.shallow⟩

end Reaching

section Expressions

variable {limit : Nat} {blocks : List Block} {body : List Stmt} {absBound : Bool} {goal : Goal}

/-- Behind a complete chain, the word `abs` is a name unless a parenthesis follows. -/
theorem Formula.step_of_value {parens : List Paren} {hand : Hand} {value : Expr} {t : Token}
    (h : hand.value? = some value) (plain : t.text ≠ "(") :
    Formula.step absBound { parens, hand } t = Formula.follow parens value t := by
  cases hand with
  | wanting left => cases h
  | word left token =>
      obtain rfl := Option.some.inj h
      exact if_neg plain
  | holding operand =>
      obtain rfl := Option.some.inj h
      rfl

theorem Phase.emptyCall?_of_value {parens : List Paren} {hand : Hand} {value : Expr}
    (h : hand.value? = some value) :
    (Phase.expression goal { parens, hand }).emptyCall? = none := by
  cases found : (Phase.expression goal { parens, hand }).emptyCall? with
  | none => rfl
  | some callee =>
      obtain ⟨-, same⟩ := Phase.expression.inj (Phase.eq_of_emptyCall? found)
      obtain ⟨-, rfl⟩ := Formula.mk.inj same
      cases h

variable (blocks body absBound goal) in
/-- A token behind a complete chain, if it is no opening parenthesis. -/
theorem Reading.shift_of_value {parens : List Paren} {hand : Hand} {value : Expr} {t : Token}
    (h : hand.value? = some value) (plain : t.text ≠ "(") :
    Reading.shift { blocks, body, phase := .expression goal { parens, hand }, absBound } t =
      match Formula.follow parens value t with
      | .shifted formula => .ok { blocks, body, phase := .expression goal formula, absBound }
      | .finished value =>
          Reading.finish { blocks, body, phase := .expression goal { parens, hand }, absBound } goal
            value t
      | .refused cause => .error cause := by
  simp only [Reading.shift, Phase.emptyCall?_of_value h, Reading.advance,
    Formula.step_of_value h plain]
  rfl

/-- A reading of an expression in given blocks. -/
abbrev expressing (blocks : List Block) (body : List Stmt) (absBound : Bool) (goal : Goal)
    (parens : List Paren) (hand : Hand) : Reading :=
  { blocks, body, phase := .expression goal { parens, hand }, absBound }

theorem zero_isNumeral : ∃ value, Decimal.readMagnitude? false "0".toList = some value := by
  cases found : Decimal.readMagnitude? false "0".toList with
  | some value => exact ⟨value, rfl⟩
  | none =>
      have some : (Decimal.readMagnitude? false "0".toList).isSome := by decide +kernel
      rw [found] at some
      cases some

/-- An operand where one is due. -/
theorem exists_operand {parens : List Paren} {left : Left}
    (h : blocks.length + parens.length ≤ limit) :
    ∃ value, (expressing blocks body absBound goal parens (.wanting left)).Reaches limit
      [.added .number "0"] (expressing blocks body absBound goal parens (.holding value)) := by
  obtain ⟨value, numeral⟩ := zero_isNumeral
  refine ⟨left.join (.number value), .cons h ?_ (.nil h)⟩
  have step : Formula.step absBound { parens, hand := .wanting left } (.added .number "0") =
      .shifted { parens, hand := .holding (left.join (.number value)) } := by
    simp only [Formula.step, Formula.operand, Token.added, numeral, ↓reduceIte]
  have advance : Reading.advance (expressing blocks body absBound goal parens (.wanting left)) goal
      { parens, hand := .wanting left } (.added .number "0") =
        .ok (expressing blocks body absBound goal parens
          (.holding (left.join (.number value)))) := by
    simp only [Reading.advance, step]
    rfl
  simp only [Reading.shift]
  split
  · exact advance
  · exact advance

/-- A closing parenthesis for every open one. -/
theorem exists_closed {parens : List Paren} {hand : Hand} {value : Expr}
    (whole : hand.value? = some value) (h : blocks.length + parens.length ≤ limit) :
    ∃ hand' value', hand'.value? = some value' ∧
      (expressing blocks body absBound goal parens hand).Reaches limit
        (parens.map fun _ => .added .mark ")")
        (expressing blocks body absBound goal [] hand') := by
  induction parens generalizing hand value with
  | nil => exact ⟨hand, value, whole, .nil h⟩
  | cons paren outer ih =>
      have shallow : blocks.length + outer.length ≤ limit := by
        rw [List.length_cons] at h
        omega
      have closed : (Hand.holding (paren.close value)).value? = some (paren.close value) := rfl
      obtain ⟨hand', value', whole', rest⟩ := ih closed shallow
      refine ⟨hand', value', whole', .cons h ?_ rest⟩
      rw [Reading.shift_of_value blocks body absBound goal (t := .added .mark ")") whole
        (by decide)]
      rfl

/-- An expression is brought to its end. -/
theorem exists_whole (formula : Formula) (h : blocks.length + formula.parens.length ≤ limit) :
    ∃ hand value, hand.value? = some value ∧
      Reading.Reaches limit { blocks, body, phase := .expression goal formula, absBound }
        formula.completion (expressing blocks body absBound goal [] hand) := by
  obtain ⟨parens, hand⟩ := formula
  cases hand with
  | wanting left =>
      obtain ⟨operand, first⟩ := exists_operand h
      have holding : (Hand.holding operand).value? = some operand := rfl
      obtain ⟨hand', value', whole', rest⟩ := exists_closed holding h
      exact ⟨hand', value', whole', first.append rest⟩
  | word left token => exact exists_closed rfl h
  | holding value => exact exists_closed rfl h

end Expressions

section Statements

/-- The current statement may end. -/
def Reading.Rests (r : Reading) : Prop := r.settle.phase = .ready

variable {limit : Nat} {blocks : List Block} {body : List Stmt} {absBound : Bool}

theorem Reading.settle_blocks (r : Reading) : r.settle.blocks = r.blocks := by
  obtain ⟨blocks, body, phase, absBound⟩ := r
  cases phase with
  | expression goal formula =>
      cases goal <;> cases value : formula.value? <;>
        simp only [Reading.settle, value, Reading.push]
  | _ => rfl

/-- A statement that may end has no open parenthesis. -/
theorem Reading.Rests.depth {r : Reading} (h : r.Rests) : r.depth = r.blocks.length := by
  obtain ⟨blocks, body, phase, absBound⟩ := r
  cases phase with
  | expression goal formula =>
      obtain ⟨parens, hand⟩ := formula
      cases parens with
      | nil => rfl
      | cons paren outer => cases goal <;> cases h
  | _ => rfl

/-- The blocks around a statement have no say in where it may end. -/
theorem Reading.Rests.alone {r : Reading} (h : r.Rests) :
    Reading.Rests { r with blocks := [] } := by
  obtain ⟨blocks, body, phase, absBound⟩ := r
  cases phase with
  | expression goal formula =>
      unfold Reading.Rests Reading.settle at h ⊢
      cases goal <;> cases value : formula.value? <;> simp only [value] at h ⊢ <;>
        first | rfl | cases h
  | _ => exact h

/-- Where no block is open and the statement may end, the script may end. -/
theorem Reading.Rests.ends {r : Reading} (h : r.Rests) (closed : r.blocks = []) :
    r.settle.endFault? none = none := by
  have phase : r.settle.phase = .ready := h
  simp only [Reading.endFault?, phase, r.settle_blocks.trans closed]
  rfl

theorem opening_reaches (condition : Expr) (h : blocks.length + 1 ≤ limit) :
    Reading.Reaches limit { blocks, body, phase := .opening condition, absBound }
      [.added .mark "\x7b", .added .mark "\x7d"]
      { blocks, body := body ++ [.when condition []], phase := .ready, absBound } := by
  have shallow : blocks.length ≤ limit := Nat.le_of_succ_le h
  exact .cons shallow rfl (.cons h rfl (.nil shallow))

/-- What the goal of a whole expression wants. -/
theorem exists_goal (goal : Goal) {hand : Hand} {value : Expr} (whole : hand.value? = some value)
    (h : blocks.length + 1 ≤ limit) :
    ∃ next, (expressing blocks body absBound goal [] hand).Reaches limit goal.completion next ∧
      next.Rests ∧ next.blocks = blocks := by
  have shallow : blocks.length ≤ limit := Nat.le_of_succ_le h
  have formula : Formula.value? { parens := [], hand } = some value := whole
  have closing : Reading.shift (expressing blocks body absBound goal [] hand)
      (.added .mark ")") = _ :=
    Reading.shift_of_value blocks body absBound goal whole (by decide)
  cases goal with
  | declaration name =>
      refine ⟨_, .nil shallow, ?_, rfl⟩
      simp only [Reading.Rests, Reading.settle, formula, Reading.push]
  | assignment name =>
      refine ⟨_, .nil shallow, ?_, rfl⟩
      simp only [Reading.Rests, Reading.settle, formula, Reading.push]
  | condition => exact ⟨_, .cons shallow closing (opening_reaches value h), rfl, rfl⟩
  | argument callee args => exact ⟨_, .cons shallow closing (.nil shallow), rfl, rfl⟩

variable (blocks body absBound) in
/-- The current statement is brought to an end. -/
theorem exists_rest (phase : Phase) (h : blocks.length + phase.depth + 1 ≤ limit) :
    ∃ next, Reading.Reaches limit { blocks, body, phase, absBound } phase.completion next ∧
      next.Rests ∧ next.blocks = blocks := by
  have deep : blocks.length + phase.depth ≤ limit := Nat.le_of_succ_le h
  have shallow : blocks.length ≤ limit := by omega
  have open_shallow : blocks.length + 1 ≤ limit := by omega
  cases phase with
  | ready => exact ⟨_, .nil shallow, rfl, rfl⟩
  | declared name => exact ⟨_, .nil shallow, rfl, rfl⟩
  | word name => exact ⟨_, .nil shallow, rfl, rfl⟩
  | declaration => exact ⟨_, .cons shallow rfl (.nil shallow), rfl, rfl⟩
  | opening condition => exact ⟨_, opening_reaches condition open_shallow, rfl, rfl⟩
  | creation =>
      exact ⟨_, .cons shallow rfl (.cons shallow rfl (.cons shallow rfl (.nil shallow))), rfl, rfl⟩
  | callee name => exact ⟨_, .cons shallow rfl (.cons shallow rfl (.nil shallow)), rfl, rfl⟩
  | condition =>
      obtain ⟨value, operand⟩ : ∃ value, (expressing blocks body absBound .condition []
          (.wanting none)).Reaches limit [.added .number "0"]
            (expressing blocks body absBound .condition [] (.holding value)) :=
        exists_operand shallow
      have holding : (Hand.holding value).value? = some value := rfl
      obtain ⟨next, rest, rests, same⟩ := exists_goal .condition holding open_shallow
      exact ⟨next, .cons shallow rfl (operand.append rest), rests, same⟩
  | expression goal formula =>
      obtain ⟨hand, value, whole, first⟩ := exists_whole formula deep
      obtain ⟨next, rest, rests, same⟩ := exists_goal goal whole open_shallow
      exact ⟨next, first.append rest, rests, same⟩

/-- A closing brace behind a statement that may end closes the innermost block. -/
theorem Reading.Rests.shift_brace {r : Reading} (h : r.Rests) {block : Block} {outer : List Block}
    (found : r.blocks = block :: outer) :
    ∃ next, r.shift (.added .mark "\x7d") = .ok next ∧ next.Rests ∧ next.blocks = outer := by
  obtain ⟨blocks, body, phase, absBound⟩ := r
  subst found
  cases phase with
  | ready => exact ⟨_, rfl, rfl, rfl⟩
  | declared name => exact ⟨_, rfl, rfl, rfl⟩
  | word name => exact ⟨_, rfl, rfl, rfl⟩
  | expression goal formula =>
      obtain ⟨parens, hand⟩ := formula
      cases parens with
      | cons paren outer => cases goal <;> cases h
      | nil =>
          cases value : hand.value? with
          | none =>
              cases goal <;> simp [Reading.Rests, Reading.settle, Formula.value?, value] at h
          | some whole =>
              rw [Reading.shift_of_value _ _ _ _ (t := .added .mark "\x7d") value (by decide)]
              cases goal with
              | declaration name => exact ⟨_, rfl, rfl, rfl⟩
              | assignment name => exact ⟨_, rfl, rfl, rfl⟩
              | condition => cases h
              | argument callee args => cases h
  | _ => cases h

theorem exists_braces (r : Reading) (h : r.Rests) (shallow : r.blocks.length ≤ limit) :
    ∃ last, r.Reaches limit (List.replicate r.blocks.length (.added .mark "\x7d")) last ∧
      last.Rests ∧ last.blocks = [] := by
  have depth := h.depth
  induction found : r.blocks generalizing r with
  | nil =>
      rw [found] at depth
      exact ⟨r, .nil (depth ▸ Nat.zero_le _), h, found⟩
  | cons block outer ih =>
      obtain ⟨next, shift, rests, rfl⟩ := h.shift_brace found
      rw [found, List.length_cons] at shallow
      obtain ⟨last, rest, done⟩ := ih next rests (Nat.le_of_succ_le shallow) rests.depth rfl
      refine ⟨last, .cons ?_ shift rest, done⟩
      rw [depth, found, List.length_cons]
      exact shallow

/-- The completion of a reading is accepted behind it, and nests at most one deeper. -/
theorem Reading.completion_reaches (r : Reading) :
    ∃ last, r.Reaches (r.depth + 1) r.completion last ∧ last.settle.endFault? none = none := by
  obtain ⟨blocks, body, phase, absBound⟩ := r
  obtain ⟨next, first, rests, rfl⟩ :=
    exists_rest blocks body absBound phase (Nat.le_refl (blocks.length + phase.depth + 1))
  have shallow : next.blocks.length ≤ next.blocks.length + phase.depth + 1 := by omega
  obtain ⟨last, second, done, empty⟩ := exists_braces next rests shallow
  exact ⟨last, first.append second, done.ends empty⟩

end Statements

end SignalGraph.Script
