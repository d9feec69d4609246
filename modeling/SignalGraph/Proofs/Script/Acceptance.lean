import SignalGraph.Proofs.Script.Completion
import SignalGraph.Proofs.Script.Derivation

/-!
Scripts that derive from the grammar are accepted, and no others. How a reading goes on does not
depend on the values and the statements that it holds. So for every part of a script it is said
which readings accept the tokens of the part: those that accept what is left over behind it, with
whatever value or statement the part adds.
-/

namespace SignalGraph.Script

section Accepted

variable {r next : Reading} {t : Token} {ts : List Token}

theorem Reading.Accepts.cons (shift : r.shift t = .ok next) (h : next.Accepts ts) :
    r.Accepts (t :: ts) := by
  obtain ⟨last, reads, ends⟩ := h
  refine ⟨last, ?_, ends⟩
  rw [List.foldlM_cons]
  exact bind_eq_ok.mpr ⟨next, shift, reads⟩

/-- Readings that go on alike, and may end alike, accept the same. -/
theorem Reading.Accepts.congr {r' : Reading} (h : r'.Accepts ts)
    (shift : ∀ t ∈ ts.head?, r.shift t = r'.shift t)
    (ends : r'.settle.endFault? none = none → r.settle.endFault? none = none) :
    r.Accepts ts := by
  obtain ⟨last, reads, done⟩ := h
  cases ts with
  | nil =>
      obtain rfl := pure_eq_ok.mp reads
      exact ⟨r, rfl, ends done⟩
  | cons t ts =>
      rw [List.foldlM_cons, ← shift t rfl, ← List.foldlM_cons] at reads
      exact ⟨last, reads, done⟩

end Accepted

section Parts

/-- Between two statements, the name `abs` not bound. -/
abbrev resting (blocks : List Block) (body : List Stmt) : Reading :=
  { blocks, body, phase := .ready, absBound := false }

/-- At the beginning of an expression. -/
abbrev beginning (blocks : List Block) (body : List Stmt) (goal : Goal) : Reading :=
  expressing blocks body false goal [] (.wanting none)

/-- Tokens that are accepted where an operand is due. -/
def AtOperand (blocks : List Block) (body : List Stmt) (goal : Goal) (parens : List Paren)
    (ts : List Token) : Prop :=
  ∀ left, (expressing blocks body false goal parens (.wanting left)).Accepts ts

/-- Tokens that are accepted behind a complete chain. -/
def AtOperator (blocks : List Block) (body : List Stmt) (goal : Goal) (parens : List Paren)
    (ts : List Token) : Prop :=
  ∀ value, (expressing blocks body false goal parens (.holding value)).Accepts ts

/-- Tokens that are accepted where a statement is due. -/
def AtStatement (blocks : List Block) (ts : List Token) : Prop :=
  ∀ body, (resting blocks body).Accepts ts

/-- A part is read from some tokens on up to the rest if what accepts the rest behind it accepts
these tokens in front of it. -/
def Part.IsRead (part : Part) (ts rest : List Token) : Prop :=
  match part with
  | .operand => ∀ blocks body goal parens,
      AtOperator blocks body goal parens rest → AtOperand blocks body goal parens ts
  | .operations => ∀ blocks body goal parens,
      AtOperator blocks body goal parens rest → AtOperator blocks body goal parens ts
  | .expression => ∀ blocks body goal parens,
      AtOperator blocks body goal parens rest → AtOperand blocks body goal parens ts
  | .arguments => ∀ blocks body callee closing after, rest = closing :: after →
      closing.text = ")" → AtStatement blocks after →
        (beginning blocks body (.argument callee [])).Accepts ts
  | .furtherArguments => ∀ blocks body callee args closing after, rest = closing :: after →
      closing.text = ")" → AtStatement blocks after →
        AtOperator blocks body (.argument callee args) [] ts
  | .statement => ∀ blocks, AtStatement blocks rest → AtStatement blocks ts
  | .statements => ∀ blocks, AtStatement blocks rest → AtStatement blocks ts

end Parts

section Expressions

variable {blocks : List Block} {body : List Stmt} {goal : Goal} {parens : List Paren}
  {t : Token} {ts : List Token}

/-- A token where an operand is due. A closing parenthesis might end a call. -/
theorem shift_wanting {left : Left} {next : Formula} (unclosed : t.text ≠ ")")
    (step : Formula.operand false parens left t = .shifted next) :
    (expressing blocks body false goal parens (.wanting left)).shift t =
      .ok { blocks, body, phase := .expression goal next, absBound := false } := by
  have advance : Reading.advance (expressing blocks body false goal parens (.wanting left)) goal
      { parens, hand := .wanting left } t =
        .ok { blocks, body, phase := .expression goal next, absBound := false } := by
    simp only [Reading.advance, Formula.step, step]
    rfl
  simp only [Reading.shift, if_neg unclosed]
  split
  · exact advance
  · exact advance

theorem Formula.operand_abs (parens : List Paren) (left : Left) (isName : t.isName)
    (text : t.text = "abs") :
    Formula.operand false parens left t = .shifted { parens, hand := .word left t } := by
  have kind : t.kind = .name := of_decide_eq_true isName
  simp [Formula.operand, text, isName, kind]

/-- The word `abs` is a name where no parenthesis follows. -/
theorem AtOperator.word (h : AtOperator blocks body goal parens ts)
    (plain : startsWith "(" ts = false) (left : Left) (word : Token) :
    (expressing blocks body false goal parens (.word left word)).Accepts ts := by
  refine (h (left.join (.name word))).congr (fun t mem => ?_) fun ends => ?_
  · have bare := ne_of_startsWith plain t mem
    rw [Reading.shift_of_value blocks body false goal rfl bare,
      Reading.shift_of_value blocks body false goal rfl bare]
    cases Formula.follow parens (left.join (.name word)) t with
    | finished value => cases goal <;> rfl
    | shifted next => rfl
    | refused cause => rfl
  · cases goal <;> cases parens <;> exact ends

/-- An expression in parentheses, behind the opening one. -/
theorem AtOperator.closes {paren : Paren} (h : AtOperator blocks body goal parens ts)
    (closes : t.text = ")") : AtOperator blocks body goal (paren :: parens) (t :: ts) := by
  intro value
  refine .cons ?_ (h (paren.close value))
  rw [Reading.shift_of_value blocks body false goal rfl (by rw [closes]; decide)]
  simp [Formula.follow, closes, Operator.ofText?]

theorem AtOperator.operator (h : AtOperand blocks body goal parens ts)
    (operator : (Operator.ofText? t.text).isSome) :
    AtOperator blocks body goal parens (t :: ts) := by
  intro value
  obtain ⟨op, found⟩ := Option.isSome_iff_exists.mp operator
  refine .cons ?_ (h (some (value, op)))
  have bare : t.text ≠ "(" := fun same => by simp [same, Operator.ofText?] at found
  rw [Reading.shift_of_value blocks body false goal rfl bare]
  simp only [Formula.follow, found]

theorem AtOperand.number (h : AtOperator blocks body goal parens ts) (plain : Plain (t :: ts))
    (kind : t.kind = .number) (number : isNumber t.text) :
    AtOperand blocks body goal parens (t :: ts) := by
  intro left
  obtain ⟨value, numeral⟩ := Option.isSome_iff_exists.mp ((plain.isNumber_iff kind).mp number)
  have unclosed : t.text ≠ ")" := by
    intro same
    rw [same] at number
    exact absurd number (by decide)
  refine .cons (shift_wanting unclosed ?_) (h (left.join (.number value)))
  simp only [Formula.operand, if_pos kind, numeral]

theorem AtOperand.group (h : ∀ left,
      AtOperand blocks body goal ({ left, absolute := false } :: parens) ts)
    (plain : Plain (t :: ts)) (opens : t.text = "(") :
    AtOperand blocks body goal parens (t :: ts) := by
  intro left
  have kind : t.kind = .mark := plain.mark (c := '(') (by rw [opens]; rfl) rfl
  refine .cons (shift_wanting (by rw [opens]; decide) ?_) (h left none)
  simp only [Formula.operand, kind, reduceCtorEq, ↓reduceIte, if_pos opens]

theorem AtOperand.absolute {opening : Token} (h : ∀ left,
      AtOperand blocks body goal ({ left, absolute := true } :: parens) ts)
    (plain : Plain (t :: opening :: ts)) (text : t.text = "abs") (opens : opening.text = "(") :
    AtOperand blocks body goal parens (t :: opening :: ts) := by
  intro left
  have operand := Formula.operand_abs parens left (plain.isName_abs text) text
  refine .cons (shift_wanting (by rw [text]; decide) operand) (.cons ?_ (h left none))
  simp [Reading.shift, Phase.emptyCall?, Reading.advance, Formula.step, opens, Reading.await]

theorem AtOperand.name (h : AtOperator blocks body goal parens ts) (plain : Plain (t :: ts))
    (isName : t.isName) (alone : t.text = "abs" → startsWith "(" ts = false) :
    AtOperand blocks body goal parens (t :: ts) := by
  intro left
  have unopened : t.text ≠ "(" := plain.ne_mark isName rfl rfl
  have unclosed : t.text ≠ ")" := plain.ne_mark isName rfl rfl
  have kind : t.kind = .name := of_decide_eq_true isName
  by_cases text : t.text = "abs"
  · have operand := Formula.operand_abs parens left isName text
    exact .cons (shift_wanting unclosed operand) (h.word (alone text) left t)
  · have operand : Formula.operand false parens left t =
        .shifted { parens, hand := .holding (left.join (.name t)) } := by
      simp [Formula.operand, text, unopened, isName, kind]
    exact .cons (shift_wanting unclosed operand) (h (left.join (.name t)))

end Expressions

section Statements

variable {blocks : List Block} {body : List Stmt} {t : Token} {ts : List Token}

/-- A statement that may end, before tokens that do not go on with it. -/
theorem AtStatement.settles {r : Reading} (h : AtStatement blocks ts)
    (settles : r.settle = resting blocks body)
    (shift : ∀ t ∈ ts.head?, r.shift t = (resting blocks body).start t) : r.Accepts ts := by
  refine (h body).congr shift fun ends => ?_
  rw [settles]
  exact ends

/-- A token that begins a statement, or that is passed over. -/
theorem AtStatement.cons {phase : Phase} (start : t.start ≠ .brace) (begins : t.begins = phase)
    (h : ∀ body, Reading.Accepts { blocks, body, phase, absBound := false } ts) :
    AtStatement blocks (t :: ts) := by
  intro body
  subst begins
  have text : t.text ≠ "\x7d" := fun closes => start (Token.start_eq_brace.mpr closes)
  exact .cons (Reading.start_of_ne_brace _ text) (h body)

theorem AtStatement.skip (h : AtStatement blocks (skipSemicolon ts)) (plain : Plain ts) :
    AtStatement blocks ts := by
  cases ts with
  | nil => exact h
  | cons t ts =>
      rw [skipSemicolon] at h
      split at h
      · rename_i semicolon
        have start := plain.semicolon semicolon
        exact .cons (by simp [start]) (by rw [Token.begins, start]) h
      · exact h

/-- A closing brace. -/
theorem AtStatement.brace {block : Block} (h : AtStatement blocks ts) (closes : t.text = "\x7d") :
    AtStatement (block :: blocks) (t :: ts) :=
  fun body => .cons (if_pos closes) (h (block.before ++ [.when block.condition body]))

end Statements

section Goals

variable {blocks : List Block} {body : List Stmt} {goal : Goal} {callee t : Token}
  {args : List Expr} {name : String} {ts : List Token}

/-- A token that does not go on with a whole expression. -/
theorem shift_holding {value : Expr} (ended : (Operator.ofText? t.text).isNone) :
    (expressing blocks body false goal [] (.holding value)).shift t =
      Reading.finish (expressing blocks body false goal [] (.holding value)) goal value t := by
  have none := Option.isNone_iff_eq_none.mp ended
  simp only [Reading.shift, Phase.emptyCall?, Reading.advance, Formula.step, Formula.follow, none]

/-- A goal whose statement is complete with its expression. -/
theorem AtStatement.pushed {stmt : Expr → Stmt} (h : AtStatement blocks ts)
    (ended : ts.head?.all fun t => (Operator.ofText? t.text).isNone)
    (settles : ∀ value, (expressing blocks body false goal [] (.holding value)).settle =
      resting blocks (body ++ [stmt value]))
    (finish : ∀ value t,
      (expressing blocks body false goal [] (.holding value)).finish goal value t =
        (resting blocks (body ++ [stmt value])).start t) :
    AtOperator blocks body goal [] ts := by
  intro value
  refine AtStatement.settles h (settles value) fun t mem => ?_
  rw [Option.mem_def.mp mem] at ended
  rw [shift_holding ended, finish]

theorem AtStatement.declared (h : AtStatement blocks ts) (unbound : name ≠ "abs")
    (ended : ts.head?.all fun t => (Operator.ofText? t.text).isNone) :
    AtOperator blocks body (.declaration name) [] ts := by
  have push (value : Expr) : (resting blocks body).push (.declare name value) =
      resting blocks (body ++ [.declare name value]) := by
    simp [Reading.push, unbound]
  exact AtStatement.pushed h ended push fun value t => congrArg (Reading.start · t) (push value)

theorem AtStatement.assigned (h : AtStatement blocks ts) (unbound : name ≠ "abs")
    (ended : ts.head?.all fun t => (Operator.ofText? t.text).isNone) :
    AtOperator blocks body (.assignment name) [] ts := by
  have push (value : Expr) : (resting blocks body).push (.assign name value) =
      resting blocks (body ++ [.assign name value]) := by
    simp [Reading.push, unbound]
  exact AtStatement.pushed h ended push fun value t => congrArg (Reading.start · t) (push value)

theorem AtStatement.called (h : AtStatement blocks ts) (closes : t.text = ")") :
    AtOperator blocks body (.argument callee args) [] (t :: ts) := by
  intro value
  have none : (Operator.ofText? t.text).isNone := by rw [closes]; rfl
  refine .cons ?_ (h (body ++ [.call callee (args ++ [value])]))
  rw [shift_holding none, Reading.finish, if_pos closes]
  rfl

theorem AtOperand.further
    (h : ∀ args, AtOperand blocks body (.argument callee args) [] ts) (comma : t.text = ",") :
    AtOperator blocks body (.argument callee args) [] (t :: ts) := by
  intro value
  have none : (Operator.ofText? t.text).isNone := by rw [comma]; rfl
  have unclosed : t.text ≠ ")" := by rw [comma]; decide
  refine .cons ?_ (h (args ++ [value]) .none)
  rw [shift_holding none, Reading.finish, if_neg unclosed, if_pos comma]
  rfl

/-- A whole condition and a block. -/
theorem AtStatement.tested {left : Token} (h : ∀ block, AtStatement (block :: blocks) ts)
    (closes : t.text = ")") (leftBrace : left.text = "\x7b") :
    AtOperator blocks body .condition [] (t :: left :: ts) := by
  intro value
  have none : (Operator.ofText? t.text).isNone := by rw [closes]; rfl
  have opening : Reading.Accepts { blocks, body, phase := .opening value, absBound := false }
      (left :: ts) :=
    .cons (if_pos leftBrace) (h { before := body, condition := value, brace := left } [])
  refine .cons ?_ opening
  rw [shift_holding none, Reading.finish, if_pos closes]
  rfl

end Goals

section Words

variable {blocks : List Block} {t name opening : Token} {ts : List Token}

/-- A name that is declared without a value. -/
theorem AtStatement.undefined {name : String} (h : AtStatement blocks ts)
    (bare : startsWith "=" ts = false) (body : List Stmt) :
    Reading.Accepts { blocks, body, phase := .declared name, absBound := false } ts :=
  AtStatement.settles h rfl fun t mem => if_neg (ne_of_startsWith bare t mem)

/-- A name without a value and without arguments. -/
theorem AtStatement.unused (h : AtStatement blocks ts) (noCall : startsWith "(" ts = false)
    (noValue : startsWith "=" ts = false) (body : List Stmt) :
    Reading.Accepts { blocks, body, phase := .word t, absBound := false } ts :=
  AtStatement.settles h rfl fun t mem => (if_neg (ne_of_startsWith noCall t mem)).trans
    (if_neg (ne_of_startsWith noValue t mem))

theorem AtStatement.word (start : t.start = .name)
    (h : ∀ body, Reading.Accepts { blocks, body, phase := .word t, absBound := false } ts) :
    AtStatement blocks (t :: ts) :=
  .cons (by simp [start]) (by rw [Token.begins, start]) h

theorem AtStatement.declaration (start : t.start = .declarator) (isName : name.isName)
    (h : ∀ body, Reading.Accepts
      { blocks, body, phase := .declared name.text, absBound := false } ts) :
    AtStatement blocks (t :: name :: ts) := by
  have begins : t.begins = .declaration := by rw [Token.begins, start]
  exact .cons (by simp [start]) begins fun body => .cons (if_pos isName) (h body)

theorem AtStatement.condition (start : t.start = .condition) (opens : opening.text = "(")
    (h : ∀ body, (beginning blocks body .condition).Accepts ts) :
    AtStatement blocks (t :: opening :: ts) := by
  have begins : t.begins = .condition := by rw [Token.begins, start]
  exact .cons (by simp [start]) begins fun body => .cons (if_pos opens) (h body)

theorem AtStatement.creation (start : t.start = .creation) (isName : name.isName)
    (opens : opening.text = "(")
    (h : ∀ body, (beginning blocks body (.argument name [])).Accepts ts) :
    AtStatement blocks (t :: name :: opening :: ts) := by
  have begins : t.begins = .creation := by rw [Token.begins, start]
  refine .cons (by simp [start]) begins fun body => ?_
  have callee : Reading.Accepts { blocks, body, phase := .callee name, absBound := false }
      (opening :: ts) := .cons (if_pos opens) (h body)
  exact .cons (if_pos isName) callee

end Words

section Grammar

variable {part : Part} {ts rest : List Token}

/-- What accepts the tokens behind a part accepts them behind the tokens of the part. -/
theorem Derives.isRead (h : Derives part ts rest) (plain : Plain ts) : part.IsRead ts rest := by
  induction h with
  | number kind number =>
      intro blocks body goal parens behind
      exact AtOperand.number behind plain kind number
  | group opens inside closes ih =>
      intro blocks body goal parens behind
      refine AtOperand.group (fun left => ?_) plain opens
      exact ih plain.tail blocks body goal _ (AtOperator.closes behind closes)
  | absolute text opens inside closes ih =>
      intro blocks body goal parens behind
      refine AtOperand.absolute (fun left => ?_) plain text opens
      exact ih plain.tail.tail blocks body goal _ (AtOperator.closes behind closes)
  | name isName alone =>
      intro blocks body goal parens behind
      exact AtOperand.name behind plain isName alone
  | noOperation ended => exact fun blocks body goal parens behind => behind
  | operation operator right others first second =>
      intro blocks body goal parens behind
      have later := second (plain.tail.of_suffix right.suffix) blocks body goal parens behind
      exact AtOperator.operator (first plain.tail blocks body goal parens later) operator
  | expression head others first second =>
      intro blocks body goal parens behind
      have later := second (plain.of_suffix head.suffix) blocks body goal parens behind
      exact first plain blocks body goal parens later
  | noArguments =>
      rintro blocks body callee closing after rfl closes behind
      exact .cons (if_pos closes) (behind (body ++ [Stmt.call callee []]))
  | arguments head others first second =>
      rintro blocks body callee closing after rfl closes behind
      have later := second (plain.of_suffix head.suffix) blocks body callee [] closing after rfl
        closes behind
      exact first plain blocks body (.argument callee []) [] later none
  | noFurther =>
      rintro blocks body callee args closing after rfl closes behind
      exact AtStatement.called behind closes
  | further comma next others first second =>
      rintro blocks body callee args closing after rfl closes behind
      refine AtOperand.further (fun args => ?_) comma
      have later := second (plain.tail.of_suffix next.suffix) blocks body callee args closing after
        rfl closes behind
      exact first plain.tail blocks body (.argument callee args) [] later
  | declaration start isName bare after =>
      intro blocks behind
      subst after
      have later := AtStatement.skip behind plain.tail.tail
      exact AtStatement.declaration start isName (AtStatement.undefined later bare)
  | initialized start isName sign value after ih =>
      intro blocks behind
      subst after
      have later := AtStatement.skip behind (plain.tail.tail.tail.of_suffix value.suffix)
      refine AtStatement.declaration start isName fun body => ?_
      refine .cons (if_pos sign) (ih plain.tail.tail.tail blocks body _ [] ?_ none)
      exact AtStatement.declared later (plain.tail.ne_abs sign) (value.ended (.inr rfl))
  | condition start opens tested closes leftBrace inside rightBrace first second =>
      intro blocks behind
      have block := suffix_of_suffix_cons (suffix_of_suffix_cons tested.suffix)
      refine AtStatement.condition start opens fun body => ?_
      refine first plain.tail.tail blocks body .condition [] ?_ none
      refine AtStatement.tested (fun block' => ?_) closes leftBrace
      exact second (plain.tail.tail.of_suffix block) _ (AtStatement.brace behind rightBrace)
  | creation start isName opens inside closes after ih =>
      intro blocks behind
      subst after
      have later := AtStatement.skip behind
        (plain.tail.tail.tail.of_suffix (suffix_of_suffix_cons inside.suffix))
      refine AtStatement.creation start isName opens fun body => ?_
      exact ih plain.tail.tail.tail blocks body _ _ _ rfl closes later
  | call start opens inside closes after ih =>
      intro blocks behind
      subst after
      have later := AtStatement.skip behind
        (plain.tail.tail.of_suffix (suffix_of_suffix_cons inside.suffix))
      refine AtStatement.word start fun body => .cons (if_pos opens) ?_
      exact ih plain.tail.tail blocks body _ _ _ rfl closes later
  | assignment start sign value after ih =>
      intro blocks behind
      subst after
      have later := AtStatement.skip behind (plain.tail.tail.of_suffix value.suffix)
      refine AtStatement.word start fun body => ?_
      refine .cons ((if_neg (by rw [sign]; decide)).trans (if_pos sign)) ?_
      refine ih plain.tail.tail blocks body _ [] ?_ none
      exact AtStatement.assigned later (plain.ne_abs sign) (value.ended (.inr rfl))
  | single start alone =>
      intro blocks behind
      rcases start with start | start
      · obtain ⟨noCall, noValue⟩ := alone (Token.isName_of_name start)
        exact AtStatement.word start (AtStatement.unused behind noCall noValue)
      · exact AtStatement.cons (by simp [start]) (by rw [Token.begins, start]) behind
  | noStatement => exact fun blocks behind => behind
  | statements head others first second =>
      intro blocks behind
      exact first plain blocks (second (plain.of_suffix head.suffix) blocks behind)

/-- Tokens that no name `abs` is bound with are accepted when they derive a script. -/
theorem accepts_iff_derives (plain : Plain ts) (shallow : nesting ts ≤ nestingLimit) :
    (read ts).2 = none ↔ Derives .statements ts [] := by
  constructor
  · intro accepted
    exact (BodyAt.derives rfl plain (written_body accepted)).1
  · intro derives
    have ended : AtStatement [] [] := fun body => ⟨_, rfl, rfl⟩
    exact read_eq_none_iff.mpr ⟨derives.isRead plain [] ended [], shallow⟩

/-- The scripts that compile are those that derive from the grammar. -/
theorem compile_accepts_iff {source : String}
    (free : (tokens source).IsChain fun t u => t.text = "abs" → u.text ≠ "=")
    (shallow : nesting (tokens source) ≤ nestingLimit) :
    (compile source).fault = none ↔ Derives .statements (tokens source) [] := by
  have plain : Plain (tokens source) := ⟨fun t => Token.spells_of_mem, free⟩
  exact accepts_iff_derives plain shallow

/-- A keyword as a variable, and tokens without effect. Another `new` lacks the name of a sink. -/
theorem compile_accepts_keyword :
    let source := "var if = abs(2 + x) ; if (if > 1) \x7b beep(if) abs \x7d ) new screen(1, 2) "
    Derives .statements (tokens source) [] ∧ ¬Derives .statements (tokens (source ++ "new")) [] := by
  refine ⟨?_, fun derives => ?_⟩
  · exact (compile_accepts_iff (by decide +kernel) (by decide +kernel)).mp (by decide +kernel)
  · have accepted := (compile_accepts_iff (by decide +kernel) (by decide +kernel)).mpr derives
    exact absurd accepted (by decide +kernel)

end Grammar

end SignalGraph.Script
