import SignalGraph.Proofs.Script.Formula
import SignalGraph.Script.Reading

/-!
What a script is read as follows the grammar. The reading holds unfinished statements and open
blocks aside, so for every state it is written down what the state demands of the tokens still to
come. At the end of an accepted script nothing is demanded any more.
-/

namespace SignalGraph.Script

section Demands

/-- What a condition demands after its closing parenthesis: a block, and the statements after it. -/
def BlockFollows (absBound : Bool) (condition : Expr) (ts : List Token) (body : List Stmt)
    (rest : List Token) : Prop :=
  ∃ left right inside after inner more, ts = left :: inside ∧ left.text = "\x7b" ∧
    BodyAt absBound inside inner (right :: after) ∧ right.start = .brace ∧
    body = .when condition inner :: more ∧
    BodyAt (absBound || bodyBinds "abs" inner) after more rest

/-- What a goal demands after its expression. -/
def Goal.Follows (absBound : Bool) (goal : Goal) (value : Expr) (ts : List Token)
    (body : List Stmt) (rest : List Token) : Prop :=
  match goal with
  | .declaration name =>
      ∃ more, body = .declare name value :: more ∧
        BodyAt (absBound || decide (name = "abs")) ts more rest
  | .assignment name =>
      ∃ more, body = .assign name value :: more ∧
        BodyAt (absBound || decide (name = "abs")) ts more rest
  | .condition =>
      ∃ closing mid, ts = closing :: mid ∧ closing.text = ")" ∧
        BlockFollows absBound value mid body rest
  | .argument callee args =>
      ∃ others mid more, ArgsAfter absBound ts others mid ∧
        body = .call callee (args ++ value :: others) :: more ∧ BodyAt absBound mid more rest

/-- An equals sign and an expression, for a declaration or an assignment. -/
def ValueFollows (absBound : Bool) (goal : Goal) (ts : List Token) (body : List Stmt)
    (rest : List Token) : Prop :=
  ∃ equals given value mid, ts = equals :: given ∧ equals.text = "=" ∧
    ChainAt absBound given value mid ∧ goal.Follows absBound value mid body rest

/-- Arguments, and the statements after their call. -/
def ArgsFollow (absBound : Bool) (callee : Token) (ts : List Token) (body : List Stmt)
    (rest : List Token) : Prop :=
  ∃ args mid more, ArgsAt absBound ts args mid ∧ body = .call callee args :: more ∧
    BodyAt absBound mid more rest

def CallFollows (absBound : Bool) (callee : Token) (ts : List Token) (body : List Stmt)
    (rest : List Token) : Prop :=
  ∃ opening inside, ts = opening :: inside ∧ opening.text = "(" ∧
    ArgsFollow absBound callee inside body rest

def DeclaredFollows (absBound : Bool) (name : String) (ts : List Token) (body : List Stmt)
    (rest : List Token) : Prop :=
  ValueFollows absBound (.declaration name) ts body rest ∨
    startsWith "=" ts = false ∧ BodyAt absBound ts body rest

/-- What the reading of a statement demands up to the end of the innermost block. -/
def Phase.Follows (absBound : Bool) (phase : Phase) (ts : List Token) (body : List Stmt)
    (rest : List Token) : Prop :=
  match phase with
  | .ready => BodyAt absBound ts body rest
  | .declaration =>
      ∃ name mid, ts = name :: mid ∧ name.isName ∧ DeclaredFollows absBound name.text mid body rest
  | .declared name => DeclaredFollows absBound name ts body rest
  | .condition =>
      ∃ opening inside tested mid, ts = opening :: inside ∧ opening.text = "(" ∧
        ChainAt absBound inside tested mid ∧
        Goal.Follows absBound .condition tested mid body rest
  | .opening tested => BlockFollows absBound tested ts body rest
  | .creation =>
      ∃ name mid, ts = name :: mid ∧ name.isName ∧ CallFollows absBound name mid body rest
  | .callee name => CallFollows absBound name ts body rest
  | .word name =>
      CallFollows absBound name ts body rest ∨
        ValueFollows absBound (.assignment name.text) ts body rest ∨
        startsWith "(" ts = false ∧ startsWith "=" ts = false ∧ BodyAt absBound ts body rest
  | .expression goal formula =>
      (∃ callee, (Phase.expression goal formula).emptyCall? = some callee ∧
        startsWith ")" ts ∧ ArgsFollow absBound callee ts body rest) ∨
      ((Phase.expression goal formula).emptyCall?.isSome → startsWith ")" ts = false) ∧
        ∃ value mid, formula.Completes absBound ts value mid ∧
          goal.Follows absBound value mid body rest

/-- What open blocks demand after the statements of the innermost one: for each of them a closing
brace and the statements after it, and no token in the end. -/
def BlocksFollow (absBound : Bool) : List Block → List Stmt → List Token → List Stmt → Prop
  | [], body, ts, script => ts = [] ∧ script = body
  | block :: outer, body, ts, script =>
      ∃ right mid more rest, ts = right :: mid ∧ right.start = .brace ∧
        BodyAt absBound mid more rest ∧
        BlocksFollow (absBound || bodyBinds "abs" more) outer
          (block.before ++ .when block.condition body :: more) rest script

/-- The innermost block goes on with some statements, and the blocks around it lead to a script. -/
def Reading.Encloses (r : Reading) (body : List Stmt) (rest : List Token) (script : List Stmt) :
    Prop :=
  BlocksFollow (r.absBound || bodyBinds "abs" body) r.blocks (r.body ++ body) rest script

/-- What a reading demands of the tokens still to come if they are to make it a given script. -/
def Reading.Leads (r : Reading) (ts : List Token) (script : List Stmt) : Prop :=
  ∃ body rest, r.phase.Follows r.absBound ts body rest ∧ r.Encloses body rest script

end Demands

section Steps

variable {absBound : Bool} {ts rest : List Token} {body script : List Stmt}

/-- A statement begun by its first token. -/
theorem Phase.Follows.begun {t : Token} {phase : Phase}
    (h : phase.Follows absBound ts body rest)
    (hphase : match t.start with
      | .brace => False
      | .declarator => phase = .declaration
      | .condition => phase = .condition
      | .creation => phase = .creation
      | .name => phase = .word t
      | .other => phase = .ready) :
    BodyAt absBound (t :: ts) body rest := by
  cases hstart : t.start with
  | brace => simp [hstart] at hphase
  | declarator =>
      simp only [hstart] at hphase
      subst hphase
      obtain ⟨name, mid, rfl, hname, hvalue | ⟨hbare, hbody⟩⟩ := h
      · obtain ⟨equals, given, value, after, rfl, hsign, hchain, more, rfl, hmore⟩ := hvalue
        exact .cons (.declare hstart hname hsign hchain) hmore
      · exact .idle (.declaration hstart hname hbare) hbody
  | condition =>
      simp only [hstart] at hphase
      subst hphase
      obtain ⟨opening, inside, condition, mid, rfl, hopens, hchain, closing, after, rfl, hcloses,
        left, right, block, next, inner, more, rfl, hleft, hinner, hright, rfl, hmore⟩ := h
      exact .cons (.when hstart hopens hchain hcloses hleft hinner hright) hmore
  | creation =>
      simp only [hstart] at hphase
      subst hphase
      obtain ⟨name, mid, rfl, hname, opening, inside, rfl, hopens, args, after, more, hargs, rfl,
        hmore⟩ := h
      exact .cons (.create hstart hname hopens hargs) (by simpa [Stmt.binds] using hmore)
  | name =>
      simp only [hstart] at hphase
      subst hphase
      obtain hcall | hvalue | ⟨hnoCall, hnoValue, hbody⟩ := h
      · obtain ⟨opening, inside, rfl, hopens, args, after, more, hargs, rfl, hmore⟩ := hcall
        exact .cons (.call hstart hopens hargs) (by simpa [Stmt.binds] using hmore)
      · obtain ⟨equals, given, value, after, rfl, hsign, hchain, more, rfl, hmore⟩ := hvalue
        exact .cons (.assign hstart hsign hchain) hmore
      · exact .idle (.name hstart hnoCall hnoValue) hbody
  | other =>
      simp only [hstart] at hphase
      subst hphase
      exact .idle (.other hstart) h

/-- A token where a statement is due meets what was demanded there. -/
theorem Reading.start_leads {r next : Reading} {t : Token} (h : r.start t = .ok next)
    (hnext : next.Leads ts script) :
    ∃ body rest, BodyAt r.absBound (t :: ts) body rest ∧ r.Encloses body rest script := by
  obtain ⟨blocks, before, phase, absBound⟩ := r
  unfold Reading.start at h
  split at h
  · next hbrace =>
    have hstart : t.start = .brace := by simp [Token.start, hbrace]
    cases blocks with
    | nil => cases h
    | cons block outer =>
        cases h
        obtain ⟨more, rest, hmore, houter⟩ := hnext
        refine ⟨[], t :: ts, .stop (by simp [hstart]), t, ts, more, rest, rfl, hstart, ?_, ?_⟩
        · simpa [bodyBinds, Phase.Follows] using hmore
        · simpa [bodyBinds, Reading.Encloses] using houter
  · next hbrace =>
    repeat' split at h
    all_goals
      cases h
      obtain ⟨more, rest, hmore, houter⟩ := hnext
      refine ⟨more, rest, hmore.begun ?_, houter⟩
      simp_all [Token.start, Reading.await]

/-- The first statement of a block and those after it. -/
theorem Reading.encloses_push {r : Reading} {stmt : Stmt}
    (h : (r.push stmt).Encloses body rest script)
    (hbinds : (r.push stmt).absBound = (r.absBound || stmt.binds "abs")) :
    r.Encloses (stmt :: body) rest script := by
  unfold Reading.Encloses at h ⊢
  rw [hbinds] at h
  simpa [Reading.push, bodyBinds, Bool.or_assoc] using h

theorem Reading.push_declare (r : Reading) (name : String) (value : Expr) :
    (r.push (.declare name value)).absBound =
      (r.absBound || (Stmt.declare name value).binds "abs") :=
  rfl

theorem Reading.push_assign (r : Reading) (name : String) (value : Expr) :
    (r.push (.assign name value)).absBound =
      (r.absBound || (Stmt.assign name value).binds "abs") :=
  rfl

theorem Reading.push_call (r : Reading) (callee : Token) (args : List Expr) :
    (r.push (.call callee args)).absBound = (r.absBound || (Stmt.call callee args).binds "abs") :=
  rfl

theorem Reading.push_call_leads {r : Reading} {callee : Token} {args : List Expr}
    (h : (r.push (.call callee args)).Leads ts script) :
    ∃ more rest, BodyAt r.absBound ts more rest ∧
      r.Encloses (.call callee args :: more) rest script := by
  obtain ⟨more, rest, hmore, houter⟩ := h
  refine ⟨more, rest, ?_, encloses_push houter (push_call r callee args)⟩
  simpa [Reading.push, Phase.Follows] using hmore

/-- A token after an expression meets what the expression was read for. -/
theorem Reading.finish_leads {r next : Reading} {goal : Goal} {value : Expr} {t : Token}
    (h : r.finish goal value t = .ok next) (hnext : next.Leads ts script) :
    ∃ body rest, goal.Follows r.absBound value (t :: ts) body rest ∧
      r.Encloses body rest script := by
  cases goal with
  | declaration name =>
      obtain ⟨more, rest, hmore, houter⟩ := Reading.start_leads h hnext
      exact ⟨_, rest, ⟨more, rfl, hmore⟩, encloses_push houter (push_declare r name value)⟩
  | assignment name =>
      obtain ⟨more, rest, hmore, houter⟩ := Reading.start_leads h hnext
      exact ⟨_, rest, ⟨more, rfl, hmore⟩, encloses_push houter (push_assign r name value)⟩
  | condition =>
      simp only [Reading.finish] at h
      split at h
      · next hcloses =>
        cases h
        obtain ⟨more, rest, hblock, houter⟩ := hnext
        exact ⟨more, rest, ⟨t, ts, rfl, hcloses, hblock⟩, houter⟩
      · cases h
  | argument callee args =>
      simp only [Reading.finish] at h
      split at h
      · next hcloses =>
        cases h
        obtain ⟨more, rest, hmore, houter⟩ := push_call_leads hnext
        exact ⟨_, rest, ⟨[], ts, more, .close hcloses, rfl, hmore⟩, houter⟩
      · split at h
        · next hcomma =>
          cases h
          obtain ⟨more, rest, hargument, houter⟩ := hnext
          obtain ⟨callee', hempty, -⟩ | ⟨-, second, mid, hsecond, others, after, tail, hothers, rfl,
            htail⟩ := hargument
          · simp [Phase.emptyCall?] at hempty
          · refine ⟨_, rest, ⟨second :: others, after, tail,
              .more hcomma (Formula.empty_completes hsecond) hothers, ?_, htail⟩, houter⟩
            simp
        · cases h

/-- A token inside an expression. -/
theorem Reading.advance_leads {r next : Reading} {goal : Goal} {formula : Formula} {t : Token}
    (h : r.advance goal formula t = .ok next) (hnext : next.Leads ts script) :
    ∃ body rest, (∃ value mid, formula.Completes r.absBound (t :: ts) value mid ∧
      goal.Follows r.absBound value mid body rest) ∧ r.Encloses body rest script := by
  unfold Reading.advance at h
  split at h
  · next shifted hstep =>
    cases h
    obtain ⟨body, rest, hexpression, houter⟩ := hnext
    obtain ⟨callee, hempty, -⟩ | ⟨-, value, mid, hcompletes, hgoal⟩ := hexpression
    · have hshifted : shifted = .empty := by
        obtain ⟨parens, hand⟩ := shifted
        simp only [Phase.emptyCall?] at hempty
        split at hempty <;> simp_all [Formula.empty]
      exact absurd (hshifted ▸ hstep) Formula.step_ne_empty
    · exact ⟨body, rest, ⟨value, mid, Formula.step_shifted hstep hcompletes, hgoal⟩, houter⟩
  · next value hstep =>
    obtain ⟨body, rest, hgoal, houter⟩ := Reading.finish_leads h hnext
    exact ⟨body, rest, ⟨value, t :: ts, Formula.step_finished hstep, hgoal⟩, houter⟩
  · cases h

/-- An expression that begins behind a parenthesis holds the arguments of a call. -/
theorem Phase.Follows.args {callee : Token}
    (h : (Phase.expression (.argument callee []) .empty).Follows absBound ts body rest) :
    ArgsFollow absBound callee ts body rest := by
  obtain ⟨callee', hempty, -, hargs⟩ |
    ⟨hgiven, first, mid, hfirst, others, after, more, hothers, rfl, hmore⟩ := h
  · obtain rfl : callee = callee' := by simpa [Phase.emptyCall?, Formula.empty] using hempty
    exact hargs
  · have hgiven : startsWith ")" ts = false := hgiven (by simp [Phase.emptyCall?, Formula.empty])
    exact ⟨first :: others, after, more,
      .some hgiven (Formula.empty_completes hfirst) hothers, rfl, hmore⟩

/-- An expression at its beginning, but not the arguments of a call. -/
theorem Phase.Follows.chain {goal : Goal}
    (h : (Phase.expression goal .empty).Follows absBound ts body rest)
    (hgoal : (Phase.expression goal .empty).emptyCall? = none) :
    ∃ value mid, ChainAt absBound ts value mid ∧ goal.Follows absBound value mid body rest := by
  obtain ⟨callee, hempty, -⟩ | ⟨-, value, mid, hvalue, hfollows⟩ := h
  · simp [hgoal] at hempty
  · exact ⟨value, mid, Formula.empty_completes hvalue, hfollows⟩

/-- A token anywhere meets what was demanded before it. -/
theorem Reading.shift_leads {r next : Reading} {t : Token} (h : r.shift t = .ok next)
    (hnext : next.Leads ts script) : r.Leads (t :: ts) script := by
  obtain ⟨blocks, before, phase, absBound⟩ := r
  cases phase with
  | ready => exact Reading.start_leads h hnext
  | declaration =>
      simp only [Reading.shift] at h
      split at h
      · next hname =>
        cases h
        obtain ⟨body, rest, hdeclared, houter⟩ := hnext
        exact ⟨body, rest, ⟨t, ts, rfl, hname, hdeclared⟩, houter⟩
      · cases h
  | declared name =>
      simp only [Reading.shift] at h
      split at h
      · next hsign =>
        cases h
        obtain ⟨body, rest, hexpression, houter⟩ := hnext
        obtain ⟨value, mid, hvalue, hgoal⟩ := Phase.Follows.chain hexpression rfl
        exact ⟨body, rest, .inl ⟨t, ts, value, mid, rfl, hsign, hvalue, hgoal⟩, houter⟩
      · next hsign =>
        obtain ⟨body, rest, hbody, houter⟩ := Reading.start_leads h hnext
        exact ⟨body, rest, .inr ⟨by simpa [startsWith_cons] using hsign, hbody⟩, houter⟩
  | condition =>
      simp only [Reading.shift] at h
      split at h
      · next hopens =>
        cases h
        obtain ⟨body, rest, hexpression, houter⟩ := hnext
        obtain ⟨value, mid, hvalue, hgoal⟩ := Phase.Follows.chain hexpression rfl
        exact ⟨body, rest, ⟨t, ts, value, mid, rfl, hopens, hvalue, hgoal⟩, houter⟩
      · cases h
  | opening condition =>
      simp only [Reading.shift] at h
      split at h
      · next hbrace =>
        cases h
        obtain ⟨inner, rest, hinner, right, after, more, rest', rfl, hright, hmore, houter⟩ := hnext
        refine ⟨.when condition inner :: more, rest',
          ⟨t, right, ts, after, inner, more, rfl, hbrace, hinner, hright, rfl, hmore⟩, ?_⟩
        simpa [Reading.Encloses, bodyBinds, Stmt.binds, Bool.or_assoc] using houter
      · cases h
  | creation =>
      simp only [Reading.shift] at h
      split at h
      · next hname =>
        cases h
        obtain ⟨body, rest, hcall, houter⟩ := hnext
        exact ⟨body, rest, ⟨t, ts, rfl, hname, hcall⟩, houter⟩
      · cases h
  | callee name =>
      simp only [Reading.shift] at h
      split at h
      · next hopens =>
        cases h
        obtain ⟨body, rest, hexpression, houter⟩ := hnext
        exact ⟨body, rest, ⟨t, ts, rfl, hopens, Phase.Follows.args hexpression⟩, houter⟩
      · cases h
  | word name =>
      simp only [Reading.shift] at h
      split at h
      · next hopens =>
        cases h
        obtain ⟨body, rest, hexpression, houter⟩ := hnext
        exact ⟨body, rest, .inl ⟨t, ts, rfl, hopens, Phase.Follows.args hexpression⟩, houter⟩
      · next hopens =>
        split at h
        · next hsign =>
          cases h
          obtain ⟨body, rest, hexpression, houter⟩ := hnext
          obtain ⟨value, mid, hvalue, hgoal⟩ := Phase.Follows.chain hexpression rfl
          exact ⟨body, rest, .inr (.inl ⟨t, ts, value, mid, rfl, hsign, hvalue, hgoal⟩), houter⟩
        · next hsign =>
          obtain ⟨body, rest, hbody, houter⟩ := Reading.start_leads h hnext
          exact ⟨body, rest, .inr (.inr ⟨by simpa [startsWith_cons] using hopens,
            by simpa [startsWith_cons] using hsign, hbody⟩), houter⟩
  | expression goal formula =>
      simp only [Reading.shift] at h
      split at h
      · next callee hempty =>
        split at h
        · next hcloses =>
          cases h
          obtain ⟨more, rest, hmore, houter⟩ := push_call_leads hnext
          refine ⟨_, rest, .inl ⟨callee, hempty, by simp [startsWith_cons, hcloses], [], ts, more,
            .none hcloses, rfl, hmore⟩, houter⟩
        · next hcloses =>
          obtain ⟨body, rest, hvalue, houter⟩ := Reading.advance_leads h hnext
          refine ⟨body, rest, .inr ⟨fun _ => ?_, hvalue⟩, houter⟩
          simpa [startsWith_cons] using hcloses
      · next hempty =>
        obtain ⟨body, rest, hvalue, houter⟩ := Reading.advance_leads h hnext
        exact ⟨body, rest, .inr ⟨by simp [hempty], hvalue⟩, houter⟩

end Steps

section Runs

/-- A reading that is complete: no block is open and no statement unfinished. -/
structure Reading.Complete (r : Reading) : Prop where
  blocks : r.blocks = []
  phase : r.phase = .ready

theorem Reading.blocks_of_ready {blocks : List Block} {body : List Stmt} {absBound : Bool}
    {last : Option Place}
    (h : Reading.endFault? { blocks, body, phase := .ready, absBound } last = none) :
    blocks = [] := by
  cases blocks with
  | nil => rfl
  | cons block outer => simp [Reading.endFault?] at h

/-- Where no block is open, what settles a statement leads to the statements before it and to it. -/
theorem Reading.leads_of_follows (before : List Stmt) {body : List Stmt} {phase : Phase}
    {absBound : Bool} (h : phase.Follows absBound [] body []) :
    Reading.Leads { blocks := [], body := before, phase, absBound } [] (before ++ body) :=
  ⟨body, [], h, rfl, rfl⟩

/-- A reading that may end is complete once it is settled, and demands no more tokens. -/
theorem Reading.settle_leads {r : Reading} {last : Option Place}
    (h : r.settle.endFault? last = none) : r.Leads [] r.settle.body ∧ r.settle.Complete := by
  obtain ⟨blocks, before, phase, absBound⟩ := r
  have stop (bound : Bool) : BodyAt bound [] [] [] := .stop rfl
  cases phase with
  | ready =>
      simp only [Reading.settle] at h ⊢
      obtain rfl := Reading.blocks_of_ready h
      have hphase : Phase.ready.Follows absBound [] [] [] := stop absBound
      exact ⟨by simpa using Reading.leads_of_follows before hphase, ⟨rfl, rfl⟩⟩
  | declared name =>
      simp only [Reading.settle] at h ⊢
      obtain rfl := Reading.blocks_of_ready h
      have hphase : (Phase.declared name).Follows absBound [] [] [] := .inr ⟨rfl, stop absBound⟩
      exact ⟨by simpa using Reading.leads_of_follows before hphase, ⟨rfl, rfl⟩⟩
  | word name =>
      simp only [Reading.settle] at h ⊢
      obtain rfl := Reading.blocks_of_ready h
      have hphase : (Phase.word name).Follows absBound [] [] [] :=
        .inr (.inr ⟨rfl, rfl, stop absBound⟩)
      exact ⟨by simpa using Reading.leads_of_follows before hphase, ⟨rfl, rfl⟩⟩
  | declaration | condition | opening | creation | callee =>
      simp [Reading.settle, Reading.endFault?] at h
  | expression goal formula =>
      cases hvalue : formula.value? with
      | none => cases goal <;> simp [Reading.settle, Reading.endFault?, hvalue] at h
      | some value =>
          have hcompletes : formula.Completes absBound [] value [] :=
            Formula.value?_completes hvalue
          cases goal with
          | declaration name =>
              simp only [Reading.settle, hvalue, Reading.push] at h ⊢
              obtain rfl := Reading.blocks_of_ready h
              exact ⟨Reading.leads_of_follows before (.inr ⟨by simp [Phase.emptyCall?], value, [],
                hcompletes, [], rfl, stop _⟩), ⟨rfl, rfl⟩⟩
          | assignment name =>
              simp only [Reading.settle, hvalue, Reading.push] at h ⊢
              obtain rfl := Reading.blocks_of_ready h
              exact ⟨Reading.leads_of_follows before (.inr ⟨by simp [Phase.emptyCall?], value, [],
                hcompletes, [], rfl, stop _⟩), ⟨rfl, rfl⟩⟩
          | condition | argument => simp [Reading.settle, Reading.endFault?, hvalue] at h

/-- An accepted run meets all demands of the state that it starts from. -/
theorem Reading.run_leads {r final : Reading} {ts : List Token} {last : Option Place}
    (h : r.run ts = (final, none)) (hend : final.endFault? last = none) :
    r.Leads ts final.body ∧ final.Complete := by
  induction ts generalizing r with
  | nil =>
      obtain rfl : r.settle = final := (Prod.mk.inj h).1
      exact Reading.settle_leads hend
  | cons t ts ih =>
      simp only [Reading.run, Reading.step] at h
      split at h
      · next next hstep =>
        split at hstep
        · cases hstep
        · next shifted hshift =>
          split at hstep
          · cases hstep
          · cases hstep
            obtain ⟨hleads, hcomplete⟩ := ih h
            exact ⟨Reading.shift_leads hshift hleads, hcomplete⟩
      · cases (Prod.mk.inj h).2

/-- The statements of an accepted script are those that its tokens write, and none of them is left
unfinished. -/
theorem read_written {ts : List Token} {r : Reading} (h : read ts = (r, none)) :
    Written ts r.body ∧ r.Complete := by
  unfold read at h
  split at h
  · cases (Prod.mk.inj h).2
  · next final hrun =>
    obtain ⟨rfl, hend⟩ := Prod.mk.inj h
    obtain ⟨⟨body, rest, hbody, hrest, hscript⟩, hcomplete⟩ := Reading.run_leads hrun hend
    subst hrest
    rw [hscript]
    exact ⟨hbody, hcomplete⟩

end Runs

theorem written_body {ts : List Token} (accepted : (read ts).2 = none) :
    Written ts (read ts).1.body := by
  cases hread : read ts with
  | mk r fault =>
      rw [hread] at accepted
      subst accepted
      exact (read_written hread).1

end SignalGraph.Script
