import SignalGraph.Proofs.Script.Frame
import SignalGraph.Proofs.Script.Lexeme
import SignalGraph.Proofs.Script.Statements

/-!
Scripts that go on behind others. A semicolon or a brace ends a statement, and what comes after it is
read and assembled from the names, gates and warnings that the script before it leaves, however it
comes out itself.
-/

namespace SignalGraph.Script

section Names

variable {α β : Type}

/-- A program that binds no name. -/
def Silent (program : Assemble α) : Prop := ∀ s, (program.run s).2.symbols = s.symbols

/-- A program that binds these names and forgets none. -/
def BindsNames (program : Assemble α) (binds : String → Bool) : Prop :=
  ∀ s name, ((program.run s).2.symbols.lookup name).isSome =
    ((s.symbols.lookup name).isSome || binds name)

theorem Silent.pure (a : α) : Silent (Pure.pure a) := fun _ => rfl

theorem Silent.bind {program : Assemble α} {f : α → Assemble β} (h : Silent program)
    (h' : ∀ a, Silent (f a)) : Silent (program >>= f) :=
  fun s => (h' (program.run s).1 (program.run s).2).trans (h s)

theorem Silent.bindsNames {program : Assemble α} (h : Silent program) :
    BindsNames program fun _ => false := by
  intro s name
  rw [h s, Bool.or_false]

theorem BindsNames.bind {program : Assemble α} {f : α → Assemble β} {first second : String → Bool}
    (h : BindsNames program first) (h' : ∀ a, BindsNames (f a) second) :
    BindsNames (program >>= f) fun name => first name || second name := by
  intro s name
  rw [stateM_run_bind, ← Bool.or_assoc, ← h s name]
  exact h' _ _ name

theorem Silent.bindsNext {program : Assemble α} {f : α → Assemble β} {binds : String → Bool}
    (h : Silent program) (h' : ∀ a, BindsNames (f a) binds) : BindsNames (program >>= f) binds :=
  h.bindsNames.bind h'

theorem emit_silent (body : Body) (sources : List (Option Wire)) : Silent (emit body sources) :=
  fun _ => rfl

theorem warn_silent (warning : Warning) : Silent (warn warning) := fun _ => rfl

theorem readName_silent (token : Token) : Silent (readName token) := by
  intro s
  rw [readName_run]
  cases s.symbols.lookup token.text <;> rfl

theorem Expr.emit_silent (e : Expr) : Silent e.emit := by
  induction e with
  | number value => exact Script.emit_silent _ _
  | name token => exact readName_silent token
  | absolute inner ih => exact ih.bind fun _ => Script.emit_silent _ _
  | binary op left right ihl ihr => exact ihl.bind fun _ => ihr.bind fun _ => Script.emit_silent _ _

theorem emitAll_silent (es : List Expr) : Silent (emitAll es) := by
  induction es with
  | nil => exact .pure []
  | cons e es ih => exact e.emit_silent.bind fun _ => ih.bind fun _ => .pure _

theorem nest_silent (outer : Option Wire) (inner : Wire) : Silent (nest outer inner) := by
  cases outer with
  | none => exact .pure inner
  | some wire => exact emit_silent _ _

theorem trigger_silent (condition : Option Wire) : Silent (trigger condition) := by
  cases condition with
  | none => exact emit_silent _ _
  | some wire => exact .pure wire

theorem Sink.sources_silent (sink : Sink) (condition : Option Wire) (args : List Wire) :
    Silent (sink.sources condition args) := by
  cases sink with
  | beep => exact (trigger_silent condition).bind fun _ => .pure _
  | color => exact .pure _
  | screen =>
      rw [Sink.sources]
      split
      · exact (trigger_silent condition).bind fun _ => .pure _
      · exact .pure _

theorem call_silent (condition : Option Wire) (callee : Token) (args : List Wire) :
    Silent (call condition callee args) := by
  rw [call]
  split
  · rename_i sink _
    refine (sink.sources_silent condition args).bind fun _ => (emit_silent _ _).bind fun _ => ?_
    split
    · exact warn_silent _
    · exact .pure ()
  · exact warn_silent _

theorem bind_bindsNames (name : String) (wire : Wire) :
    BindsNames (bind name wire) fun other => name = other := by
  intro s other
  change ((putEntry name wire s.symbols).lookup other).isSome =
    ((s.symbols.lookup other).isSome || decide (name = other))
  by_cases same : name = other
  · rw [← same, lookup_putEntry_self, decide_eq_true rfl, Bool.or_true]
    rfl
  · rw [lookup_putEntry_ne (Ne.symm same), decide_eq_false same, Bool.or_false]

theorem assign_bindsNames (condition : Option Wire) (name : String) (wire : Wire) :
    BindsNames (assign condition name wire) fun other => name = other := by
  intro s
  rw [assign_run]
  cases condition with
  | none => exact bind_bindsNames name wire s
  | some test =>
      cases s.symbols.lookup name with
      | none => exact bind_bindsNames name wire s
      | some prior =>
          exact ((emit_silent (.math .select) _).bindsNext fun _ => bind_bindsNames name _) s

mutual

/-- Under whatever condition, a statement binds the names that it declares or assigns. -/
theorem Stmt.emit_bindsNames (condition : Option Wire) :
    ∀ stmt : Stmt, BindsNames (stmt.emit condition) fun name => stmt.binds name
  | .declare name value => by
      rw [Stmt.emit]
      exact value.emit_silent.bindsNext fun _ => bind_bindsNames name _
  | .assign name value => by
      rw [Stmt.emit]
      exact value.emit_silent.bindsNext fun _ => assign_bindsNames condition name _
  | .call callee args => by
      rw [Stmt.emit]
      exact (emitAll_silent args).bindsNext fun _ => (call_silent condition callee _).bindsNames
  | .when inner body => by
      rw [Stmt.emit]
      exact inner.emit_silent.bindsNext fun _ =>
        (nest_silent condition _).bindsNext fun effective =>
          emitBody_bindsNames (some effective) body

theorem emitBody_bindsNames (condition : Option Wire) :
    ∀ body : List Stmt, BindsNames (emitBody condition body) fun name => bodyBinds name body
  | [] => by
      rw [emitBody]
      exact (Silent.pure ()).bindsNames
  | stmt :: stmts => by
      rw [emitBody]
      exact (stmt.emit_bindsNames condition).bind fun _ => emitBody_bindsNames condition stmts

end

end Names

section Bindings

theorem bodyBinds_append (name : String) (body more : List Stmt) :
    bodyBinds name (body ++ more) = (bodyBinds name body || bodyBinds name more) := by
  induction body with
  | nil => rfl
  | cons stmt body ih => simp only [List.cons_append, bodyBinds, ih, Bool.or_assoc]

/-- Whether the complete statements of a reading bind a name. -/
def Reading.binds (name : String) (r : Reading) : Bool :=
  r.blocks.any (fun block => bodyBinds name block.before) || bodyBinds name r.body

/-- A reading knows whether `abs` is bound. -/
def Reading.KnowsAbs (r : Reading) : Prop := r.absBound = r.binds "abs"

theorem Reading.KnowsAbs.shift {r next : Reading} {t : Token} (h : r.KnowsAbs)
    (step : r.shift t = .ok next) : next.KnowsAbs := by
  obtain ⟨blocks, body, phase, absBound⟩ := r
  obtain ⟨act, does⟩ := exists_act phase absBound t
  rw [does.shift] at step
  have bound : absBound =
      (blocks.any (fun block => bodyBinds "abs" block.before) || bodyBinds "abs" body) := h
  subst bound
  cases act with
  | refuse cause => cases step
  | go done next =>
      obtain rfl := Except.ok.inj step
      simp only [Reading.KnowsAbs, Reading.binds, bodyBinds_append, Bool.or_assoc]
  | enter condition brace =>
      obtain rfl := Except.ok.inj step
      simp only [Reading.KnowsAbs, Reading.binds, List.any_cons, bodyBinds, Bool.or_false]
      exact Bool.or_comm _ _
  | leave done =>
      cases blocks with
      | nil => cases step
      | cons block outer =>
          obtain rfl := Except.ok.inj step
          simp only [Reading.KnowsAbs, Reading.binds, List.any_cons, bodyBinds_append, bodyBinds,
            Stmt.binds, Bool.or_false, Bool.or_assoc, Bool.or_left_comm]

theorem Reading.KnowsAbs.run {r last : Reading} {ts : List Token} (h : r.KnowsAbs)
    (reads : ts.foldlM Reading.shift r = .ok last) : last.KnowsAbs := by
  induction ts generalizing r with
  | nil =>
      obtain rfl := pure_eq_ok.mp reads
      exact h
  | cons t ts ih =>
      rw [List.foldlM_cons] at reads
      obtain ⟨next, step, rest⟩ := bind_eq_ok.mp reads
      exact ih (h.shift step) rest

end Bindings

section Closings

/-- A token that ends a statement. -/
structure Token.Closes (t : Token) : Prop where
  kind : t.kind = .mark
  text : t.text = ";" ∨ t.text = "\x7d"

/-- A semicolon or a closing brace in a text is a token of its own. -/
theorem Token.closes_of_mem {t : Token} {source : String} (mem : t ∈ tokens source)
    (text : t.text = ";" ∨ t.text = "\x7d") : t.Closes := by
  refine ⟨(Token.spells_of_mem mem).kind_eq ?_, text⟩
  rcases text with text | text <;>
  · rw [text]
    exact ⟨rfl, nofun⟩

theorem Reading.start_closes {r next : Reading} {t : Token} (closes : t.Closes)
    (h : r.start t = .ok next) : next.phase = .ready := by
  have noName : t.isName = false := by simp [Token.isName, closes.kind]
  rcases closes.text with text | text
  · rw [Reading.start_of_ne_brace r (by rw [text]; decide)] at h
    obtain rfl := Except.ok.inj h
    simp [Token.begins, Token.start, text, noName, Reading.await]
  · simp only [Reading.start, text, ↓reduceIte] at h
    split at h
    · cases h
    · obtain rfl := Except.ok.inj h
      rfl

theorem Token.Closes.ne {t : Token} (closes : t.Closes) {text : String}
    (h : text ≠ ";" ∧ text ≠ "\x7d") : t.text ≠ text := by
  rcases closes.text with same | same
  · rw [same]
    exact h.1.symm
  · rw [same]
    exact h.2.symm

/-- What ends a statement is no part of an expression. -/
theorem Formula.step_closes {absBound : Bool} {formula next : Formula} {t : Token}
    (closes : t.Closes) : formula.step absBound t ≠ .shifted next := by
  have noName : t.isName = false := by simp [Token.isName, closes.kind]
  have noOpening : t.text ≠ "(" := closes.ne (by decide)
  have noClosing : t.text ≠ ")" := closes.ne (by decide)
  have noOperator : Operator.ofText? t.text = none := by
    rcases closes.text with same | same <;> rw [same] <;> rfl
  have followed (parens : List Paren) (value : Expr) :
      Formula.follow parens value t ≠ .shifted next := by
    cases parens <;> simp [Formula.follow, noOperator, noClosing]
  obtain ⟨parens, hand⟩ := formula
  cases hand with
  | wanting left => simp [Formula.step, Formula.operand, closes.kind, noOpening, noName]
  | holding value => exact followed parens value
  | word left token =>
      simp only [Formula.step, noOpening, ↓reduceIte]
      exact followed parens _

theorem Reading.finish_closes {r next : Reading} {goal : Goal} {value : Expr} {t : Token}
    (closes : t.Closes) (h : r.finish goal value t = .ok next) : next.phase = .ready := by
  have noClosing : t.text ≠ ")" := closes.ne (by decide)
  have noComma : t.text ≠ "," := closes.ne (by decide)
  cases goal with
  | declaration name => exact Reading.start_closes closes h
  | assignment name => exact Reading.start_closes closes h
  | condition => simp [Reading.finish, noClosing] at h
  | argument callee args => simp [Reading.finish, noClosing, noComma] at h

theorem Reading.advance_closes {r next : Reading} {goal : Goal} {formula : Formula} {t : Token}
    (closes : t.Closes) (h : r.advance goal formula t = .ok next) : next.phase = .ready := by
  rw [Reading.advance] at h
  split at h
  · rename_i shifted step
    exact absurd step (Formula.step_closes closes)
  · exact Reading.finish_closes closes h
  · cases h

/-- Behind a semicolon or a closing brace the next statement is due. -/
theorem Reading.shift_closes {r next : Reading} {t : Token} (closes : t.Closes)
    (h : r.shift t = .ok next) : next.phase = .ready := by
  have noName : t.isName = false := by simp [Token.isName, closes.kind]
  have noOpening : t.text ≠ "(" := closes.ne (by decide)
  have noBrace : t.text ≠ "\x7b" := closes.ne (by decide)
  have noEquals : t.text ≠ "=" := closes.ne (by decide)
  obtain ⟨blocks, body, phase, absBound⟩ := r
  cases phase with
  | ready => exact Reading.start_closes closes h
  | declared name =>
      simp only [Reading.shift, noEquals, ↓reduceIte] at h
      exact Reading.start_closes closes h
  | word name =>
      simp only [Reading.shift, noOpening, noEquals, ↓reduceIte] at h
      exact Reading.start_closes closes h
  | expression goal formula =>
      have noClosing : t.text ≠ ")" := closes.ne (by decide)
      simp only [Reading.shift, noClosing, ↓reduceIte] at h
      split at h <;> exact Reading.advance_closes closes h
  | declaration | creation => simp [Reading.shift, noName] at h
  | condition | callee name => simp [Reading.shift, noOpening] at h
  | opening condition => simp [Reading.shift, noBrace] at h

end Closings

section Emissions

theorem emitBody_append (condition : Option Wire) (body more : List Stmt) (s : Assembly) :
    (emitBody condition (body ++ more)).run s =
      (emitBody condition more).run ((emitBody condition body).run s).2 := by
  induction body generalizing s with
  | nil =>
      rw [List.nil_append, emitBody]
      rfl
  | cons stmt body ih =>
      rw [List.cons_append, emitBody, emitBody]
      exact ih ((stmt.emit condition).run s).2

theorem emitBlocks_lead (before : List Stmt) {blocks : List Block} (given : blocks ≠ [])
    (s : Assembly) :
    (emitBlocks (leadBlocks before blocks)).run s =
      (emitBlocks blocks).run ((emitBody none before).run s).2 := by
  induction blocks using leadBlocks.induct with
  | case1 => exact absurd rfl given
  | case2 block =>
      have whole := emitBody_append none before block.before s
      simp only [leadBlocks, emitBlocks, stateM_run_bind, stateM_run_pure, whole]
  | case3 block next outer ih =>
      rw [leadBlocks, emitBlocks, emitBlocks, stateM_run_bind, stateM_run_bind, ih (by simp)]

/-- What stands behind some statements is assembled from what they leave. -/
theorem Reading.emit_behind (r : Reading) (before : List Stmt) (s : Assembly) :
    (r.behind before).emit.run s = r.emit.run ((emitBody none before).run s).2 := by
  obtain ⟨blocks, body, phase, absBound⟩ := r
  cases blocks with
  | nil =>
      have whole := emitBody_append none before body s
      simp only [Reading.behind, Reading.emit, emitBlocks, stateM_run_bind, stateM_run_pure, whole]
  | cons block outer =>
      simp only [Reading.behind, Reading.emit, stateM_run_bind]
      rw [emitBlocks_lead before (List.cons_ne_nil block outer)]

theorem emitBlocks_bindsNames (blocks : List Block) :
    BindsNames (emitBlocks blocks) fun name =>
      blocks.any fun block => bodyBinds name block.before := by
  induction blocks with
  | nil => exact (Silent.pure none).bindsNames
  | cons block outer ih =>
      have whole : BindsNames (emitBlocks (block :: outer)) fun name =>
          (outer.any fun block => bodyBinds name block.before) ||
            (bodyBinds name block.before || false) :=
        ih.bind fun condition => (emitBody_bindsNames condition block.before).bind fun _ =>
          (block.condition.emit_silent.bind fun _ => (nest_silent condition _).bind fun _ =>
            .pure _).bindsNames
      simp only [Bool.or_false] at whole
      simpa only [List.any_cons, Bool.or_comm] using whole

theorem Phase.emit_silent (phase : Phase) (condition : Option Wire) :
    Silent (phase.emit condition) := by
  cases phase with
  | opening inner => exact inner.emit_silent.bind fun _ => (nest_silent _ _).bind fun _ => .pure ()
  | expression goal formula => exact (emitAll_silent _).bind fun _ => .pure ()
  | _ => exact .pure ()

/-- All that has been read of a script binds the names of its complete statements. -/
theorem Reading.emit_bindsNames (r : Reading) : BindsNames r.emit fun name => r.binds name := by
  have whole : BindsNames r.emit fun name =>
      (r.blocks.any fun block => bodyBinds name block.before) || (bodyBinds name r.body || false) :=
    (emitBlocks_bindsNames r.blocks).bind fun condition =>
      (emitBody_bindsNames condition r.body).bind fun _ =>
        (r.phase.emit_silent condition).bindsNames
  simp only [Bool.or_false] at whole
  exact whole

end Emissions

section Continuing

/-- Reads a script from its beginning, with `abs` bound or not. -/
def readInside (absBound : Bool) (script : List Token) : Reading × Option Fault :=
  match (Reading.inside absBound).run script with
  | (r, some fault) => (r, some fault)
  | (r, none) => (r, r.endFault? (script.getLast?.map (·.place)))

/-- Compiles a script that starts with the gates, the names, the warnings and the cursor of an
assembly. -/
def compileOn (s : Assembly) (script : List Token) : Compilation :=
  let (reading, fault) := readInside (s.symbols.lookup "abs").isSome script
  { (reading.emit.run s).2 with fault }

variable {ts : List Token} {t : Token}

/-- The reading of an accepted script that ends with a semicolon or a brace is complete. -/
theorem exists_complete (accepted : (read ts).2 = none) (final : ts.getLast? = some t)
    (closes : t.Closes) :
    ∃ last, ts.foldlM Reading.step .empty = .ok last ∧ last.Complete := by
  obtain ⟨⟨last, reads, ends⟩, shallow⟩ := read_eq_none_iff.mp accepted
  obtain ⟨before, rfl⟩ := List.getLast?_eq_some_iff.mp final
  have ready : last.phase = .ready := by
    rw [List.foldlM_append] at reads
    obtain ⟨mid, -, rest⟩ := bind_eq_ok.mp reads
    rw [List.foldlM_cons] at rest
    obtain ⟨next, shift, same⟩ := bind_eq_ok.mp rest
    obtain rfl := pure_eq_ok.mp same
    exact Reading.shift_closes closes shift
  refine ⟨last, Reading.foldlM_step_of_shift reads shallow, ?_, ready⟩
  obtain ⟨blocks, body, phase, absBound⟩ := last
  obtain rfl : phase = .ready := ready
  exact Reading.blocks_of_ready ends

/-- What comes behind a complete reading is read as if it came first. -/
theorem read_append {last : Reading} (reads : ts.foldlM Reading.step .empty = .ok last)
    (complete : last.Complete) (more : List Token) :
    read (ts ++ more) =
      ((readInside last.absBound more).1.behind last.body, (readInside last.absBound more).2) := by
  have started : last = (Reading.inside last.absBound).behind last.body := by
    obtain ⟨blocks, body, phase, absBound⟩ := last
    obtain ⟨rfl, rfl⟩ := complete
    exact congrArg (fun body => Reading.mk [] body .ready absBound) (List.append_nil body).symm
  have run : Reading.empty.run (ts ++ more) =
      (((Reading.inside last.absBound).run more).1.behind last.body,
        ((Reading.inside last.absBound).run more).2) := by
    rw [Reading.run_append reads, ← Reading.run_behind, ← started]
  rw [read, readInside, run]
  cases stops : (Reading.inside last.absBound).run more with
  | mk r fault =>
      cases fault with
      | some fault => rfl
      | none =>
          refine Prod.ext rfl ?_
          change (r.behind last.body).endFault? _ = r.endFault? _
          rw [Reading.endFault?_behind]
          cases more with
          | nil =>
              obtain rfl : Reading.inside last.absBound = r := (Prod.mk.inj stops).1
              rfl
          | cons u more => rw [List.getLast?_append_of_ne_nil _ (List.cons_ne_nil u more)]

/-- A script that goes on behind an accepted one is compiled from what that one leaves. -/
theorem compileTokens_append (accepted : (compileTokens ts).fault = none)
    (final : ts.getLast? = some t) (closes : t.Closes) (more : List Token) :
    compileTokens (ts ++ more) = compileOn (compileTokens ts).assembly more := by
  obtain ⟨last, reads, complete⟩ := exists_complete accepted final closes
  have assembly : (compileTokens ts).assembly = ((emitBody none last.body).run {}).2 := by
    have alone := read_append reads complete []
    rw [List.append_nil] at alone
    simp only [compileTokens, alone]
    exact congrArg Prod.snd (Reading.emit_behind (.inside last.absBound) last.body {})
  have bound : ((compileTokens ts).assembly.symbols.lookup "abs").isSome = last.absBound := by
    have start : Reading.empty.KnowsAbs := rfl
    have known : last.absBound = last.binds "abs" :=
      start.run (Reading.foldlM_shift_of_step reads)
    rw [assembly, emitBody_bindsNames none last.body {} "abs", known, Reading.binds,
      complete.blocks]
    rfl
  rw [compileOn, bound, assembly, compileTokens, read_append reads complete more]
  simp only [Reading.emit_behind]

/-- What is compiled on top of an assembly keeps its gates and its names. -/
theorem compileOn_keeps (s : Assembly) (script : List Token) :
    s.gates.toList <+: (compileOn s script).gates.toList ∧
      ∀ name, (s.symbols.lookup name).isSome →
        ((compileOn s script).symbols.lookup name).isSome := by
  let r := (readInside (s.symbols.lookup "abs").isSome script).1
  refine ⟨r.emit_supplies.appends s, fun name bound => ?_⟩
  change ((r.emit.run s).2.symbols.lookup name).isSome
  rw [r.emit_bindsNames s name, bound, Bool.true_or]

end Continuing

end SignalGraph.Script
