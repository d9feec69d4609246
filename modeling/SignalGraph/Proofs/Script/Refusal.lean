import SignalGraph.Proofs.Script.Completion

/-!
Refused scripts. A script is refused as soon as no tokens could complete it any more, and at a token
that stands in its text: the tokens before it can still be completed, and whatever follows it does
not change the fault. Where the whole script can be completed, the fault says what is missing at its
end.
-/

namespace SignalGraph.Script

section Statements

/-- Tokens that can be completed to a script that is accepted. -/
def Completable (ts : List Token) : Prop :=
  ∃ more, (∀ t ∈ more, t.kind.Spells t.text.toList) ∧ (compileTokens (ts ++ more)).fault = none

/-- Causes that say what is missing at the end of a script. -/
def Cause.isEnd : Cause → Bool
  | .endOfScript => true
  | .expected _ found => found.isNone
  | .unclosedBlock => true
  | _ => false

/-- The brace of the innermost block that is not closed: it opens a block where one is due, and
whole statements follow it up to the end. -/
inductive OpensLast (script : List Token) (brace : Token) : Prop where
  | intro {before inside : List Token} {last : Reading} {condition : Expr} {body : List Stmt}
      (split : script = before ++ brace :: inside) (opens : brace.text = "\x7b")
      (reads : before.foldlM Reading.shift .empty = .ok last)
      (due : last.phase = .opening condition) (whole : BodyAt last.absBound inside body [])

/-- The token of a refused script that its fault is found at. -/
inductive RefusedAt (script : List Token) (fault : Fault) (t : Token) : Prop where
  /-- Something is missing behind the last token. -/
  | last (cause : fault.cause.isEnd) (inside : fault.cause ≠ .unclosedBlock)
      (ends : script.getLast? = some t) (open_ended : Completable script)
  /-- A block is not closed. -/
  | brace (cause : fault.cause = .unclosedBlock) (opens : OpensLast script t)
      (open_ended : Completable script)
  /-- The token cannot follow those before it. -/
  | token {before after : List Token} (split : script = before ++ t :: after)
      (open_ended : Completable before)
      (stable : ∀ more, (compileTokens (before ++ t :: more)).fault = some fault)

end Statements

section Readings

variable {r last : Reading} {t : Token} {ts : List Token} {fault : Fault}

theorem compileTokens_fault (ts : List Token) : (compileTokens ts).fault = (read ts).2 := rfl

/-- What a reading accepts meets its demands. -/
theorem Reading.Accepts.leads (h : r.Accepts ts) : ∃ script, r.Leads ts script := by
  obtain ⟨last, reads, ends⟩ := h
  induction ts generalizing r with
  | nil =>
      obtain rfl := pure_eq_ok.mp reads
      exact ⟨_, (Reading.settle_leads ends).1⟩
  | cons t ts ih =>
      rw [List.foldlM_cons] at reads
      obtain ⟨next, shift, rest⟩ := bind_eq_ok.mp reads
      obtain ⟨script, leads⟩ := ih rest
      exact ⟨script, Reading.shift_leads shift leads⟩

/-- A token is refused for a cause of its own, or because it nests too deep. -/
theorem Reading.step_eq_error (h : r.step t = .error fault) :
    fault.place = some t.place ∨ ∃ next, r.shift t = .ok next ∧ nestingLimit < next.depth := by
  rw [Reading.step] at h
  cases shift : r.shift t with
  | error cause =>
      rw [shift] at h
      obtain rfl := Except.error.inj h
      exact .inl rfl
  | ok next =>
      simp only [shift] at h
      split at h
      · rename_i deep
        exact .inr ⟨next, rfl, deep⟩
      · cases h

/-- A fault at the end of a script is found at the brace of an open block or at the last token. -/
theorem Reading.endFault?_eq_some {place : Option Place} (h : r.endFault? place = some fault) :
    (∃ block outer, r.phase = .ready ∧ r.blocks = block :: outer ∧
      fault.cause = .unclosedBlock ∧ fault.place = some block.brace.place) ∨
    fault.place = place ∧ fault.cause.isEnd ∧ fault.cause ≠ .unclosedBlock := by
  obtain ⟨blocks, body, phase, absBound⟩ := r
  cases phase with
  | ready =>
      cases blocks with
      | nil => cases h
      | cons block outer =>
          obtain rfl := Option.some.inj h
          exact .inl ⟨block, outer, rfl, rfl, rfl, rfl⟩
  | declared name => cases h
  | word name => cases h
  | expression goal formula =>
      refine .inr ?_
      obtain ⟨parens, hand⟩ := formula
      simp only [Reading.endFault?] at h
      split at h
      · obtain rfl := Option.some.inj h
        cases hand <;> exact ⟨rfl, rfl, by rintro ⟨⟩⟩
      · obtain rfl := Option.some.inj h
        exact ⟨rfl, rfl, by rintro ⟨⟩⟩
      · obtain rfl := Option.some.inj h
        exact ⟨rfl, rfl, by rintro ⟨⟩⟩
  | _ =>
      obtain rfl := Option.some.inj h
      exact .inr ⟨rfl, rfl, by rintro ⟨⟩⟩

end Readings

section Refusals

variable {last : Reading} {ts : List Token}

theorem nesting_append (reads : ts.foldlM Reading.shift .empty = .ok last) (more : List Token) :
    nesting (ts ++ more) = max (nesting ts) (last.deepest more) :=
  Reading.deepest_append reads more

/-- What has been read within the limit can be completed. -/
theorem completable_of_reads (reads : ts.foldlM Reading.shift .empty = .ok last)
    (shallow : nesting ts < nestingLimit) : Completable ts := by
  obtain ⟨final, reaches, ends⟩ := last.completion_reaches
  have reached : last.depth ≤ nesting ts := by
    have whole := nesting_append reads []
    rw [List.append_nil] at whole
    exact (Nat.le_max_right (nesting ts) (last.deepest [])).trans_eq whole.symm
  have first : Reading.empty.Reaches nestingLimit ts last := ⟨reads, Nat.le_of_lt shallow⟩
  have second : last.Reaches nestingLimit last.completion final :=
    ⟨reaches.reads, reaches.shallow.trans (Nat.succ_le_of_lt (Nat.lt_of_le_of_lt reached shallow))⟩
  have whole := first.append second
  refine ⟨last.completion, last.completion_spells, ?_⟩
  rw [compileTokens_fault, read_eq_none_iff]
  exact ⟨⟨final, whole.reads, ends⟩, whole.shallow⟩

/-- A brace that is missing at the end belongs to the innermost block. -/
theorem opensLast_of_reads {block : Block} {outer : List Block}
    (reads : ts.foldlM Reading.shift .empty = .ok last) (rests : last.Rests)
    (blocks : last.blocks = block :: outer) : OpensLast ts block.brace := by
  obtain ⟨before, inside, mid, opened⟩ := exists_opened reads blocks
  have accepts : (Reading.inside mid.absBound).Accepts inside :=
    ⟨_, opened.within, rests.alone.ends rfl⟩
  obtain ⟨script, body, rest, whole, stops, -⟩ := accepts.leads
  obtain rfl : rest = [] := stops
  have due : mid.phase = .opening block.condition := by rw [opened.reached]
  exact .intro opened.split opened.brace opened.reads due whole

/-- The fault of a script that can be read to its end. -/
theorem refusedAt_of_ends {script : List Token} {fault : Fault}
    (reads : script.foldlM Reading.shift .empty = .ok last) (shallow : nesting script < nestingLimit)
    (ends : last.settle.endFault? (script.getLast?.map (·.place)) = some fault) :
    ∃ t ∈ script, fault.place = some t.place ∧ RefusedAt script fault t := by
  have open_ended := completable_of_reads reads shallow
  obtain ⟨block, outer, rests, blocks, cause, place⟩ | ⟨place, cause, inside⟩ :=
    Reading.endFault?_eq_some ends
  · have opens := opensLast_of_reads reads rests (last.settle_blocks.symm.trans blocks)
    obtain ⟨split, -, -, -, -⟩ := id opens
    exact ⟨block.brace, by simp [split], place, .brace cause opens open_ended⟩
  · cases final : script.getLast? with
    | none =>
        -- nothing is missing in a script without tokens
        obtain rfl := List.getLast?_eq_none_iff.mp final
        obtain rfl := pure_eq_ok.mp reads
        cases ends
    | some t =>
        rw [final] at place
        exact ⟨t, List.mem_of_getLast? final, place, .last cause inside final open_ended⟩

/-- The fault of a token that cannot follow those before it. -/
theorem refusedAt_of_token {before after : List Token} {t : Token} {fault : Fault}
    (reads : before.foldlM Reading.step .empty = .ok last)
    (shallow : nesting (before ++ t :: after) < nestingLimit) (fails : last.step t = .error fault) :
    fault.place = some t.place ∧ RefusedAt (before ++ t :: after) fault t := by
  have shifts := Reading.foldlM_shift_of_step reads
  have deepest := nesting_append shifts (t :: after)
  have within : nesting before < nestingLimit := by
    rw [deepest] at shallow
    exact Nat.lt_of_le_of_lt (Nat.le_max_left _ _) shallow
  refine ⟨?_, .token rfl (completable_of_reads shifts within) fun more => ?_⟩
  · obtain place | ⟨next, shift, deep⟩ := Reading.step_eq_error fails
    · exact place
    · -- a token that nests too deep would have counted
      have reached : next.depth ≤ nesting (before ++ t :: after) := by
        rw [deepest, Reading.deepest_of_shift shift]
        exact (next.depth_le_deepest after).trans
          ((Nat.le_max_right _ _).trans (Nat.le_max_right _ _))
      omega
  · have run := Reading.run_append reads (t :: more)
    rw [Reading.run, fails] at run
    rw [compileTokens_fault, read, run]

/-- Every script that is refused is refused at one of its tokens, whose place the fault names. -/
theorem compile_refuses {source : String} {fault : Fault}
    (failed : (compile source).fault = some fault)
    (shallow : nesting (tokens source) < nestingLimit) :
    ∃ t ∈ tokens source, fault.place = some t.place ∧ t.StandsIn source ∧
      RefusedAt (tokens source) fault t := by
  have refused : read (tokens source) = ((read (tokens source)).1, some fault) :=
    Prod.ext rfl failed
  obtain ⟨before, last, ⟨reads, after, split, fails⟩, -⟩ := read_stops refused
  rw [split] at shallow ⊢
  cases after with
  | nil =>
      rw [split, List.append_nil] at fails
      rw [List.append_nil] at split shallow ⊢
      have shifts := Reading.foldlM_shift_of_step reads
      obtain ⟨t, mem, place, refusal⟩ := refusedAt_of_ends shifts shallow fails
      exact ⟨t, mem, place, Token.standsIn_of_mem (split ▸ mem), refusal⟩
  | cons t after =>
      obtain ⟨place, refusal⟩ := refusedAt_of_token reads shallow fails
      have mem : t ∈ before ++ t :: after := by simp
      exact ⟨t, mem, place, Token.standsIn_of_mem (split ▸ mem), refusal⟩

/-- A block that is not closed, behind another one that is. -/
theorem compile_refuses_unclosed :
    let source := "if (1) \x7b\n  if (x) \x7b y = 2 \x7d\n  z = 3;"
    let fault : Fault :=
      { cause := .unclosedBlock, place := some { offset := 7, line := 1, column := 8 } }
    ∃ t ∈ tokens source, fault.place = some t.place ∧ t.StandsIn source ∧
      RefusedAt (tokens source) fault t :=
  compile_refuses (by decide +kernel) (by decide +kernel)

end Refusals

end SignalGraph.Script
