import SignalGraph.Proofs.Script.Effects
import SignalGraph.Proofs.Script.Reading
import SignalGraph.Script.Compile

/-!
What the gates of a script do. Statement after statement they follow the meaning of the script, and
all that has been read of a script, complete or not, makes a well-formed assembly.
-/

namespace SignalGraph.Script

section Statements

theorem call_ran {s : Assembly} (valid : s.Valid) {condition : Option Wire}
    {conditions : List Float} (carries : s.Carries condition conditions) (callee : Token)
    {args : List Wire} (live : ∀ wire ∈ args, s.Live wire) :
    let (_, next) := (call condition callee args).run s
    Ran s next s.env
      (match Sink.ofName? callee.text with
      | some sink => [{ sink, conditions, args := args.map s.value }]
      | none => []) := by
  simp only [call]
  cases Sink.ofName? callee.text with
  | some sink => exact callSink_ran sink valid carries live
  | none => exact (warn_reads valid (.unknownSink callee)).ran valid

mutual

/-- The gates of a statement do what the statement means. -/
theorem Stmt.emit_ran {condition : Option Wire} {conditions : List Float} :
    ∀ (stmt : Stmt) {s : Assembly}, s.Valid → s.Carries condition conditions →
      let (_, next) := (stmt.emit condition).run s
      Ran s next (stmt.run conditions s.env) (stmt.calls conditions s.env)
  | .declare name value, s => by
      intro valid _
      have reads := value.emit_reads valid
      cases hrun : value.emit.run s with
      | mk wire mid =>
          simp only [hrun] at reads
          have ran := (reads.ran valid).trans (bind_ran reads.valid name reads.wire_live)
          rw [reads.value, reads.env valid] at ran
          simp only [Stmt.emit, stateM_run_bind, hrun]
          exact ran
  | .assign name value, s => by
      intro valid carries
      have reads := value.emit_reads valid
      cases hrun : value.emit.run s with
      | mk wire mid =>
          simp only [hrun] at reads
          have assigned := assign_ran reads.valid (carries.mono reads.toGrows) name reads.wire_live
          rw [reads.value, reads.env valid] at assigned
          simp only [Stmt.emit, stateM_run_bind, hrun]
          exact (reads.ran valid).trans assigned
  | .call callee args, s => by
      intro valid carries
      have reads := emitAll_reads args valid
      cases hrun : (emitAll args).run s with
      | mk wires mid =>
          simp only [hrun] at reads
          have called := call_ran reads.valid (carries.mono reads.toGrows) callee reads.live
          rw [reads.values, reads.env valid] at called
          simp only [Stmt.emit, stateM_run_bind, hrun]
          exact (reads.ran valid).trans called
  | .when inner body, s => by
      intro valid carries
      have reads := inner.emit_reads valid
      cases hrun : inner.emit.run s with
      | mk wire mid =>
          simp only [hrun] at reads
          have nested := nest_carries reads.valid (carries.mono reads.toGrows) reads.wire_live
          cases hnest : (nest condition wire).run mid with
          | mk effective start =>
              simp only [hnest, reads.value] at nested
              have block := emitBody_ran body nested.1.valid nested.2
              rw [nested.1.env reads.valid, reads.env valid] at block
              have before := (reads.ran valid).trans (nested.1.ran reads.valid)
              simp only [Stmt.emit, stateM_run_bind, hrun, hnest]
              exact before.trans block

theorem emitBody_ran {condition : Option Wire} {conditions : List Float} :
    ∀ (body : List Stmt) {s : Assembly}, s.Valid → s.Carries condition conditions →
      let (_, next) := (emitBody condition body).run s
      Ran s next (runBody conditions s.env body) (bodyCalls conditions s.env body)
  | [], s => by
      intro valid _
      exact (Reads.nil valid).ran valid
  | stmt :: stmts, s => by
      intro valid carries
      have first := stmt.emit_ran valid carries
      cases hrun : (stmt.emit condition).run s with
      | mk _ mid =>
          simp only [hrun] at first
          have rest := emitBody_ran stmts first.valid (carries.mono first.toGrows)
          rw [first.env] at rest
          simp only [emitBody, stateM_run_bind, hrun]
          exact first.trans rest

end

/-- The gates of open blocks are well formed, and the condition in force is on its wire. -/
theorem emitBlocks_grows (blocks : List Block) {s : Assembly} (valid : s.Valid) :
    let (condition, next) := (emitBlocks blocks).run s
    Grows s next ∧ ∃ conditions, next.Carries condition conditions := by
  induction blocks with
  | nil => exact ⟨.refl valid, [], s.carries_none⟩
  | cons block outer ih =>
      cases houter : (emitBlocks outer).run s with
      | mk condition start =>
          simp only [houter] at ih
          obtain ⟨grows, conditions, carries⟩ := ih
          have before := emitBody_ran block.before grows.valid carries
          cases hbefore : (emitBody condition block.before).run start with
          | mk _ mid =>
              simp only [hbefore] at before
              have reads := block.condition.emit_reads before.valid
              cases hread : block.condition.emit.run mid with
              | mk inner late =>
                  simp only [hread] at reads
                  have all := before.toGrows.trans reads.toGrows
                  have nested := nest_carries all.valid (carries.mono all) reads.wire_live
                  cases hnest : (nest condition inner).run late with
                  | mk wire next =>
                      simp only [hnest] at nested
                      have run : (emitBlocks (block :: outer)).run s = (some wire, next) := by
                        simp only [emitBlocks, stateM_run_bind, houter, hbefore, hread,
                          StateT.run_map, hnest]
                        rfl
                      simp only [run]
                      exact ⟨grows.trans (all.trans nested.1.toGrows), _, nested.2⟩

theorem Phase.emit_grows (phase : Phase) {s : Assembly} (valid : s.Valid)
    {condition : Option Wire} {conditions : List Float}
    (carries : s.Carries condition conditions) :
    let (_, next) := (phase.emit condition).run s
    Grows s next := by
  cases phase with
  | opening inner =>
      have reads := inner.emit_reads valid
      cases hrun : inner.emit.run s with
      | mk wire mid =>
          simp only [hrun] at reads
          have nested := nest_carries reads.valid (carries.mono reads.toGrows) reads.wire_live
          simp only [Phase.emit, stateM_run_bind, hrun]
          exact reads.toGrows.trans nested.1.toGrows
  | expression goal formula => exact (emitAll_reads _ valid).toGrows
  | ready => exact .refl valid
  | declaration => exact .refl valid
  | declared name => exact .refl valid
  | condition => exact .refl valid
  | creation => exact .refl valid
  | callee name => exact .refl valid
  | word name => exact .refl valid

/-- All that has been read of a script, complete or not, makes a valid assembly. -/
theorem Reading.emit_valid (r : Reading) :
    let (_, next) := r.emit.run {}
    next.Valid := by
  have blocks := emitBlocks_grows r.blocks Assembly.empty_valid
  cases hblocks : (emitBlocks r.blocks).run {} with
  | mk condition start =>
      simp only [hblocks] at blocks
      obtain ⟨grows, conditions, carries⟩ := blocks
      have body := emitBody_ran r.body grows.valid carries
      cases hbody : (emitBody condition r.body).run start with
      | mk _ mid =>
          simp only [hbody] at body
          have phase := r.phase.emit_grows body.valid (carries.mono body.toGrows)
          simp only [Reading.emit, stateM_run_bind, hblocks, hbody]
          exact phase.valid

end Statements

section Compilations

/-- The gates of any script are well formed, also those of a script that is refused. -/
theorem compile_valid (source : String) : (compile source).assembly.Valid :=
  Reading.emit_valid (read (tokens source)).1

/-- An accepted script is assembled as a whole, under no condition. -/
theorem compile_assembled {source : String} (accepted : (compile source).fault = none) :
    ∃ script, Written (tokens source) script ∧
      (compile source).assembly = ((emitBody none script).run {}).2 := by
  cases hread : read (tokens source) with
  | mk r fault =>
      have assembled : (compile source).assembly = (r.emit.run {}).2 := by
        simp only [compile, compileTokens, hread]
      have clean : fault = none := by
        simpa only [compile, compileTokens, hread] using accepted
      subst clean
      obtain ⟨written, complete⟩ := read_written hread
      refine ⟨r.body, written, ?_⟩
      rw [assembled]
      simp only [Reading.emit, complete.blocks, complete.phase]
      rfl

/-- The gates of an accepted script do what the script means. -/
theorem compile_ran {source : String} (accepted : (compile source).fault = none) :
    ∃ script, Written (tokens source) script ∧
      Ran {} (compile source).assembly (meaning script) (calls script) := by
  obtain ⟨script, written, assembled⟩ := compile_assembled accepted
  refine ⟨script, written, ?_⟩
  rw [assembled]
  exact emitBody_ran script Assembly.empty_valid (Assembly.carries_none {})

end Compilations

end SignalGraph.Script
