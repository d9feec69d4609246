import SignalGraph.Proofs.Script.Nesting
import SignalGraph.Proofs.Script.Reading

/-!
Blocks and statements that a token does not look at. What a token does to a reading follows from
the statement that is being read; the statements before it are only added to, and of the open blocks
only the innermost one is opened or closed. So the same tokens can be read within other blocks, and
behind other statements.
-/

namespace SignalGraph.Script

section Starts

/-- The phase behind a token that does not close a block where a statement is due. -/
def Token.begins (t : Token) : Phase :=
  match t.start with
  | .declarator => .declaration
  | .condition => .condition
  | .creation => .creation
  | .name => .word t
  | .other => .ready
  | .brace => .ready

theorem Reading.start_of_ne_brace (r : Reading) {t : Token} (h : t.text ≠ "\x7d") :
    r.start t = .ok (r.await t.begins) := by
  unfold Reading.start Token.begins Token.start
  simp only [if_neg h]
  repeat' split
  all_goals simp_all

end Starts

section Acts

/-- What a token does to the open blocks and to the statements of the innermost one. -/
inductive Act where
  | refuse (cause : Cause)
  /-- The reading goes on in the same block, with these statements complete. -/
  | go (done : List Stmt) (phase : Phase)
  | enter (condition : Expr) (brace : Token)
  /-- The innermost block is closed, with these statements complete in it. -/
  | leave (done : List Stmt)

def Act.apply (act : Act) (blocks : List Block) (body : List Stmt) (absBound : Bool) :
    Except Cause Reading :=
  match act with
  | .refuse cause => .error cause
  | .go done phase =>
      .ok { blocks, body := body ++ done, phase, absBound := absBound || bodyBinds "abs" done }
  | .enter condition brace =>
      .ok { blocks := { before := body, condition, brace } :: blocks, body := [], phase := .ready
            absBound }
  | .leave done =>
      match blocks with
      | [] => .error .unmatchedBrace
      | block :: outer =>
          .ok { blocks := outer, body := block.before ++ [.when block.condition (body ++ done)]
                phase := .ready, absBound := absBound || bodyBinds "abs" done }

/-- The act of a token, whatever the open blocks and their statements. -/
structure Act.Of (act : Act) (phase : Phase) (absBound : Bool) (t : Token) : Prop where
  shift : ∀ blocks body,
    Reading.shift { blocks, body, phase, absBound } t = act.apply blocks body absBound
  enters : ∀ condition brace, act = .enter condition brace →
    phase = .opening condition ∧ t.text = "\x7b" ∧ brace = t

/-- What is done alike with all blocks and statements, and opens no block. -/
def Uniform (absBound : Bool) (f : List Block → List Stmt → Except Cause Reading) : Prop :=
  ∃ act : Act, (∀ condition brace, act ≠ .enter condition brace) ∧
    ∀ blocks body, f blocks body = act.apply blocks body absBound

section Ways

variable {absBound : Bool}

theorem Uniform.refuse (cause : Cause) : Uniform absBound fun _ _ => .error cause :=
  ⟨.refuse cause, nofun, fun _ _ => rfl⟩

theorem Uniform.push (done : List Stmt) (phase : Phase) :
    Uniform absBound fun blocks body =>
      .ok { blocks, body := body ++ done, phase, absBound := absBound || bodyBinds "abs" done } :=
  ⟨.go done phase, nofun, fun _ _ => rfl⟩

theorem Uniform.await (phase : Phase) :
    Uniform absBound fun blocks body => .ok { blocks, body, phase, absBound } :=
  ⟨.go [] phase, nofun, fun _ _ => by
    simp only [Act.apply, List.append_nil, bodyBinds, Bool.or_false]⟩

theorem Uniform.call (callee : Token) (args : List Expr) (phase : Phase) :
    Uniform absBound fun blocks body =>
      .ok (Reading.push { blocks, body, phase, absBound } (.call callee args)) :=
  .push [.call callee args] .ready

theorem Uniform.ite {test : Prop} [Decidable test]
    {f g : List Block → List Stmt → Except Cause Reading} (hf : Uniform absBound f)
    (hg : Uniform absBound g) :
    Uniform absBound fun blocks body => if test then f blocks body else g blocks body := by
  split
  · exact hf
  · exact hg

end Ways

variable (phase : Phase) (absBound : Bool) (t : Token)

/-- A token between two statements, the first of which is just complete. -/
theorem uniform_start (done : List Stmt) :
    Uniform absBound fun blocks body =>
      Reading.start
        { blocks, body := body ++ done, phase, absBound := absBound || bodyBinds "abs" done } t := by
  by_cases closes : t.text = "\x7d"
  · refine ⟨.leave done, nofun, fun blocks body => ?_⟩
    simp only [Reading.start, if_pos closes]
    cases blocks <;> rfl
  · simp only [Reading.start_of_ne_brace _ closes]
    exact .push done t.begins

theorem uniform_start_nil :
    Uniform absBound fun blocks body => Reading.start { blocks, body, phase, absBound } t := by
  have started := uniform_start phase absBound t []
  simp only [List.append_nil, bodyBinds, Bool.or_false] at started
  exact started

theorem uniform_finish (goal : Goal) (value : Expr) :
    Uniform absBound fun blocks body =>
      Reading.finish { blocks, body, phase, absBound } goal value t := by
  cases goal with
  | declaration name =>
      have started := uniform_start .ready absBound t [.declare name value]
      simp only [bodyBinds, Stmt.binds, Bool.or_false] at started
      exact started
  | assignment name =>
      have started := uniform_start .ready absBound t [.assign name value]
      simp only [bodyBinds, Stmt.binds, Bool.or_false] at started
      exact started
  | condition => exact .ite (.await _) (.refuse _)
  | argument callee args => exact .ite (.call callee _ phase) (.ite (.await _) (.refuse _))

theorem uniform_advance (goal : Goal) (formula : Formula) :
    Uniform absBound fun blocks body =>
      Reading.advance { blocks, body, phase, absBound } goal formula t := by
  simp only [Reading.advance]
  cases formula.step absBound t with
  | shifted next => exact .await _
  | finished value => exact uniform_finish phase absBound t goal value
  | refused cause => exact .refuse cause

theorem Uniform.exists_act {phase : Phase} {absBound : Bool} {t : Token}
    (h : Uniform absBound fun blocks body => Reading.shift { blocks, body, phase, absBound } t) :
    ∃ act : Act, act.Of phase absBound t := by
  obtain ⟨act, stays, shift⟩ := h
  exact ⟨act, shift, fun condition brace same => absurd same (stays condition brace)⟩

/-- What a token does is the same in all blocks and behind all statements. -/
theorem exists_act : ∃ act : Act, act.Of phase absBound t := by
  have started := uniform_start_nil phase absBound t
  cases phase with
  | ready => exact Uniform.exists_act started
  | declaration => exact Uniform.exists_act (.ite (.await _) (.refuse _))
  | declared name => exact Uniform.exists_act (.ite (.await _) started)
  | condition => exact Uniform.exists_act (.ite (.await _) (.refuse _))
  | opening condition =>
      by_cases opens : t.text = "\x7b"
      · refine ⟨.enter condition t, fun _ _ => if_pos opens, ?_⟩
        rintro _ _ ⟨⟩
        exact ⟨rfl, opens, rfl⟩
      · exact ⟨.refuse _, fun _ _ => if_neg opens, nofun⟩
  | creation => exact Uniform.exists_act (.ite (.await _) (.refuse _))
  | callee name => exact Uniform.exists_act (.ite (.await _) (.refuse _))
  | word name => exact Uniform.exists_act (.ite (.await _) (.ite (.await _) started))
  | expression goal formula =>
      have advanced := uniform_advance (.expression goal formula) absBound t goal formula
      refine Uniform.exists_act ?_
      simp only [Reading.shift]
      cases (Phase.expression goal formula).emptyCall? with
      | none => exact advanced
      | some callee => exact .ite (.call callee [] _) advanced

end Acts

section Blocks

/-- A reading within more blocks, around its own. -/
def Reading.under (r : Reading) (outer : List Block) : Reading :=
  { r with blocks := r.blocks ++ outer }

variable {r next last : Reading} {t : Token} {ts more : List Token}

theorem Reading.shift_under (h : r.shift t = .ok next) (outer : List Block) :
    (r.under outer).shift t = .ok (next.under outer) := by
  obtain ⟨blocks, body, phase, absBound⟩ := r
  obtain ⟨act, does⟩ := exists_act phase absBound t
  rw [does.shift] at h
  rw [Reading.under, does.shift]
  cases act with
  | refuse cause => cases h
  | go done phase =>
      obtain rfl := Except.ok.inj h
      rfl
  | enter condition brace =>
      obtain rfl := Except.ok.inj h
      rfl
  | leave done =>
      cases blocks with
      | nil => cases h
      | cons block blocks =>
          obtain rfl := Except.ok.inj h
          rfl

theorem Reading.foldlM_under (h : ts.foldlM Reading.shift r = .ok last) (outer : List Block) :
    ts.foldlM Reading.shift (r.under outer) = .ok (last.under outer) := by
  induction ts generalizing r with
  | nil =>
      obtain rfl := pure_eq_ok.mp h
      rfl
  | cons t ts ih =>
      rw [List.foldlM_cons] at h ⊢
      obtain ⟨next, shift, rest⟩ := bind_eq_ok.mp h
      exact bind_eq_ok.mpr ⟨next.under outer, Reading.shift_under shift outer, ih rest⟩

/-- The beginning of the inside of a block. -/
def Reading.inside (absBound : Bool) : Reading := { Reading.empty with absBound }

/-- An open block in the tokens that have been read: the tokens before its brace lead up to it, and
the tokens behind the brace can be read on their own up to where the reading stands. -/
structure Opened (ts : List Token) (r : Reading) (block : Block) (outer : List Block)
    (before inside : List Token) (last : Reading) : Prop where
  split : ts = before ++ block.brace :: inside
  brace : block.brace.text = "\x7b"
  reads : before.foldlM Reading.shift .empty = .ok last
  reached : last = { blocks := outer, body := block.before, phase := .opening block.condition
                     absBound := last.absBound }
  within : inside.foldlM Reading.shift (.inside last.absBound) = .ok { r with blocks := [] }

theorem Opened.enter {last : Reading} {condition : Expr} (phase : last.phase = .opening condition)
    (opens : t.text = "\x7b") (reads : ts.foldlM Reading.shift .empty = .ok last) :
    Opened (ts ++ [t])
      { blocks := { before := last.body, condition, brace := t } :: last.blocks, body := []
        phase := .ready, absBound := last.absBound }
      { before := last.body, condition, brace := t } last.blocks ts [] last := by
  refine ⟨rfl, opens, reads, ?_, rfl⟩
  rw [← phase]

/-- A token that stays in the block. -/
theorem Opened.go {block : Block} {outer : List Block} {before inside : List Token}
    (h : Opened ts r block outer before inside last)
    (shift : Reading.shift { r with blocks := [] } t = .ok { next with blocks := [] }) :
    Opened (ts ++ [t]) next block outer before (inside ++ [t]) last := by
  refine ⟨?_, h.brace, h.reads, h.reached, ?_⟩
  · rw [h.split, List.append_assoc, List.cons_append]
  · rw [List.foldlM_append]
    refine bind_eq_ok.mpr ⟨_, h.within, ?_⟩
    rw [List.foldlM_cons]
    exact bind_eq_ok.mpr ⟨_, shift, rfl⟩

/-- A token that closes a block within the block. -/
theorem Opened.leave {block closed : Block} {outer : List Block}
    {before inside before' inside' : List Token} {last' : Reading}
    (h : Opened ts r closed (block :: outer) before inside last)
    (h' : Opened before last block outer before' inside' last')
    (shift : Reading.shift { r with blocks := [closed] } t = .ok { next with blocks := [] }) :
    Opened (ts ++ [t]) next block outer before' (inside' ++ closed.brace :: inside ++ [t]) last' := by
  refine ⟨?_, h'.brace, h'.reads, h'.reached, ?_⟩
  · rw [h.split, h'.split]
    simp only [List.append_assoc, List.cons_append]
  · have opened : Reading.shift { last with blocks := [] } closed.brace =
        .ok ((Reading.inside last.absBound).under [closed]) := by
      rw [h.reached]
      exact if_pos h.brace
    simp only [List.append_assoc, List.cons_append]
    rw [List.foldlM_append]
    refine bind_eq_ok.mpr ⟨_, h'.within, ?_⟩
    rw [List.foldlM_cons]
    refine bind_eq_ok.mpr ⟨_, opened, ?_⟩
    rw [List.foldlM_append]
    refine bind_eq_ok.mpr ⟨_, Reading.foldlM_under h.within [closed], ?_⟩
    rw [List.foldlM_cons]
    exact bind_eq_ok.mpr ⟨_, shift, rfl⟩

/-- Whatever has been read, the innermost open block is found in it. -/
theorem exists_opened {block : Block} {outer : List Block}
    (reads : ts.foldlM Reading.shift .empty = .ok r) (blocks : r.blocks = block :: outer) :
    ∃ before inside last, Opened ts r block outer before inside last := by
  induction size : ts.length using Nat.strongRecOn generalizing ts r block outer with
  | ind n ih =>
      subst size
      rcases List.eq_nil_or_concat ts with rfl | ⟨before, t, rfl⟩
      · obtain rfl := pure_eq_ok.mp reads
        cases blocks
      rw [List.concat_eq_append] at reads ih ⊢
      rw [List.foldlM_append] at reads
      obtain ⟨mid, first, second⟩ := bind_eq_ok.mp reads
      rw [List.foldlM_cons] at second
      obtain ⟨next, shift, same⟩ := bind_eq_ok.mp second
      obtain rfl := pure_eq_ok.mp same
      have shorter : before.length < (before ++ [t]).length := by simp
      obtain ⟨stack, body, phase, absBound⟩ := mid
      obtain ⟨act, does⟩ := exists_act phase absBound t
      rw [does.shift] at shift
      cases act with
      | refuse cause => cases shift
      | go done phase =>
          obtain rfl := Except.ok.inj shift
          obtain ⟨before', inside, last, opened⟩ := ih _ shorter first blocks rfl
          exact ⟨before', inside ++ [t], last, opened.go (does.shift [] body)⟩
      | enter condition brace =>
          obtain rfl := Except.ok.inj shift
          obtain ⟨rfl, rfl⟩ := List.cons.inj blocks
          obtain ⟨rfl, opens, rfl⟩ := does.enters condition brace rfl
          exact ⟨before, [], _, Opened.enter rfl opens first⟩
      | leave done =>
          cases stack with
          | nil => cases shift
          | cons closed stack =>
              obtain rfl := Except.ok.inj shift
              obtain rfl : stack = block :: outer := blocks
              obtain ⟨before', inside, last, opened⟩ := ih _ shorter first rfl rfl
              have shorter' : before'.length < (before ++ [t]).length := by
                have split := congrArg List.length opened.split
                simp only [List.length_append, List.length_cons] at split ⊢
                omega
              have around : last.blocks = block :: outer := by rw [opened.reached]
              obtain ⟨before'', inside', last', opened'⟩ := ih _ shorter' opened.reads around rfl
              exact ⟨before'', _, last', opened.leave opened' (does.shift [closed] body)⟩

end Blocks

section Statements

/-- Blocks with statements in front of those before the outermost one. -/
def leadBlocks (before : List Stmt) : List Block → List Block
  | [] => []
  | [block] => [{ block with before := before ++ block.before }]
  | block :: next :: outer => block :: leadBlocks before (next :: outer)

/-- A reading behind some statements. -/
def Reading.behind (r : Reading) (before : List Stmt) : Reading :=
  match r.blocks with
  | [] => { r with body := before ++ r.body }
  | _ :: _ => { r with blocks := leadBlocks before r.blocks }

variable (r : Reading) (before : List Stmt) (t : Token) (ts : List Token)

theorem length_leadBlocks (blocks : List Block) :
    (leadBlocks before blocks).length = blocks.length := by
  induction blocks using leadBlocks.induct with
  | case1 => rfl
  | case2 block => rfl
  | case3 block next outer ih => exact congrArg (· + 1) ih

theorem Reading.depth_behind : (r.behind before).depth = r.depth := by
  obtain ⟨blocks, body, phase, absBound⟩ := r
  cases blocks with
  | nil => rfl
  | cons block outer =>
      simp only [Reading.depth, Reading.behind, length_leadBlocks]

theorem Act.apply_behind (act : Act) (blocks : List Block) (body : List Stmt) (absBound : Bool) :
    act.apply (leadBlocks before blocks) (if blocks.isEmpty then before ++ body else body) absBound =
      (act.apply blocks body absBound).map (·.behind before) := by
  cases act with
  | refuse cause => rfl
  | go done phase =>
      cases blocks with
      | nil =>
          have assoc := List.append_assoc before body done
          exact congrArg (fun body => Except.ok (Reading.mk [] body phase _)) assoc
      | cons block outer => rfl
  | enter condition brace => cases blocks <;> rfl
  | leave done =>
      match blocks with
      | [] => rfl
      | [block] =>
          have assoc := List.append_assoc before block.before [.when block.condition (body ++ done)]
          exact congrArg (fun body => Except.ok (Reading.mk [] body .ready _)) assoc
      | block :: next :: outer => rfl

/-- Whatever comes before it, a token does the same. -/
theorem Reading.shift_behind :
    (r.behind before).shift t = (r.shift t).map (·.behind before) := by
  obtain ⟨blocks, body, phase, absBound⟩ := r
  obtain ⟨act, does⟩ := exists_act phase absBound t
  rw [does.shift, ← act.apply_behind, ← does.shift]
  cases blocks <;> rfl

theorem Reading.step_behind : (r.behind before).step t = (r.step t).map (·.behind before) := by
  rw [Reading.step, Reading.step, Reading.shift_behind]
  cases r.shift t with
  | error cause => rfl
  | ok next =>
      simp only [Except.map, Reading.depth_behind]
      split <;> rfl

theorem Reading.settle_behind : (r.behind before).settle = r.settle.behind before := by
  obtain ⟨blocks, body, phase, absBound⟩ := r
  cases phase with
  | expression goal formula =>
      cases goal with
      | declaration name =>
          cases value : formula.value? <;> cases blocks <;>
            simp [Reading.behind, Reading.settle, Reading.push, value, List.append_assoc]
      | assignment name =>
          cases value : formula.value? <;> cases blocks <;>
            simp [Reading.behind, Reading.settle, Reading.push, value, List.append_assoc]
      | _ => cases blocks <;> rfl
  | _ => cases blocks <;> rfl

theorem Reading.endFault?_behind (last : Option Place) :
    (r.behind before).endFault? last = r.endFault? last := by
  obtain ⟨blocks, body, phase, absBound⟩ := r
  cases phase with
  | ready =>
      match blocks with
      | [] => rfl
      | [block] => rfl
      | block :: next :: outer => rfl
  | _ => cases blocks <;> rfl

theorem Reading.run_behind :
    (r.behind before).run ts = ((r.run ts).1.behind before, (r.run ts).2) := by
  induction ts generalizing r with
  | nil => exact congrArg (·, none) (r.settle_behind before)
  | cons t ts ih =>
      rw [Reading.run, Reading.run, Reading.step_behind]
      cases r.step t with
      | error fault => exact congrArg (·, some fault) (r.settle_behind before)
      | ok next => exact ih next

end Statements

end SignalGraph.Script
