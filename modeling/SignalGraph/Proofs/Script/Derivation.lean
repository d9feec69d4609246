import Mathlib.Data.List.Chain
import SignalGraph.Proofs.Decimal.ReadBack
import SignalGraph.Proofs.Script.Grammar
import SignalGraph.Proofs.Script.Lexeme

/-!
The grammar of scripts as a recognizer: which tokens are a script, whatever trees they are read as.
All rules stand in one relation, indexed by the part of a script that they derive, and an optional
semicolon belongs to the statement before it.
-/

namespace SignalGraph.Script

section Rules

/-- The parts that a script is made of. -/
inductive Part where
  | operand
  /-- Operators, each with its right operand. -/
  | operations
  | expression
  | arguments
  /-- Arguments behind the first one, each with its comma. -/
  | furtherArguments
  | statement
  | statements
deriving Repr, DecidableEq

/-- A number has a digit, and no second point. -/
def isNumber (text : String) : Bool := text.toList.any isDigit && text.toList.count '.' ≤ 1

/-- A semicolon behind a statement is taken with it. -/
def skipSemicolon : List Token → List Token
  | [] => []
  | t :: ts => if t.text = ";" then ts else t :: ts

/-- A part of a script, the tokens that start with it, and those that are left over behind it. What
may follow is taken as long as the next token allows. -/
inductive Derives : Part → List Token → List Token → Prop where
  | number {t : Token} {ts : List Token} (kind : t.kind = .number) (number : isNumber t.text) :
      Derives .operand (t :: ts) ts
  | group {opening closing : Token} {ts rest : List Token} (opens : opening.text = "(")
      (inside : Derives .expression ts (closing :: rest)) (closes : closing.text = ")") :
      Derives .operand (opening :: ts) rest
  | absolute {word opening closing : Token} {ts rest : List Token} (text : word.text = "abs")
      (opens : opening.text = "(") (inside : Derives .expression ts (closing :: rest))
      (closes : closing.text = ")") : Derives .operand (word :: opening :: ts) rest
  | name {t : Token} {ts : List Token} (isName : t.isName)
      (plain : t.text = "abs" → startsWith "(" ts = false) : Derives .operand (t :: ts) ts
  | noOperation {ts : List Token}
      (ended : ts.head?.all fun t => (Operator.ofText? t.text).isNone) : Derives .operations ts ts
  | operation {t : Token} {ts mid rest : List Token} (operator : (Operator.ofText? t.text).isSome)
      (right : Derives .operand ts mid) (others : Derives .operations mid rest) :
      Derives .operations (t :: ts) rest
  | expression {ts mid rest : List Token} (first : Derives .operand ts mid)
      (others : Derives .operations mid rest) : Derives .expression ts rest
  | noArguments {ts : List Token} : Derives .arguments ts ts
  | arguments {ts mid rest : List Token} (first : Derives .expression ts mid)
      (others : Derives .furtherArguments mid rest) : Derives .arguments ts rest
  | noFurther {ts : List Token} : Derives .furtherArguments ts ts
  | further {comma : Token} {ts mid rest : List Token} (text : comma.text = ",")
      (next : Derives .expression ts mid) (others : Derives .furtherArguments mid rest) :
      Derives .furtherArguments (comma :: ts) rest
  | declaration {t name : Token} {ts rest : List Token} (start : t.start = .declarator)
      (isName : name.isName) (bare : startsWith "=" ts = false) (after : skipSemicolon ts = rest) :
      Derives .statement (t :: name :: ts) rest
  | initialized {t name equals : Token} {ts mid rest : List Token} (start : t.start = .declarator)
      (isName : name.isName) (sign : equals.text = "=") (value : Derives .expression ts mid)
      (after : skipSemicolon mid = rest) : Derives .statement (t :: name :: equals :: ts) rest
  | condition {t opening closing left right : Token} {ts mid rest : List Token}
      (start : t.start = .condition) (opens : opening.text = "(")
      (tested : Derives .expression ts (closing :: left :: mid)) (closes : closing.text = ")")
      (leftBrace : left.text = "\x7b") (inside : Derives .statements mid (right :: rest))
      (rightBrace : right.text = "\x7d") : Derives .statement (t :: opening :: ts) rest
  | creation {t name opening closing : Token} {ts mid rest : List Token}
      (start : t.start = .creation) (isName : name.isName) (opens : opening.text = "(")
      (inside : Derives .arguments ts (closing :: mid)) (closes : closing.text = ")")
      (after : skipSemicolon mid = rest) : Derives .statement (t :: name :: opening :: ts) rest
  | call {t opening closing : Token} {ts mid rest : List Token} (start : t.start = .name)
      (opens : opening.text = "(") (inside : Derives .arguments ts (closing :: mid))
      (closes : closing.text = ")") (after : skipSemicolon mid = rest) :
      Derives .statement (t :: opening :: ts) rest
  | assignment {t equals : Token} {ts mid rest : List Token} (start : t.start = .name)
      (sign : equals.text = "=") (value : Derives .expression ts mid)
      (after : skipSemicolon mid = rest) : Derives .statement (t :: equals :: ts) rest
  | single {t : Token} {ts : List Token} (start : t.start = .name ∨ t.start = .other)
      (alone : t.isName → startsWith "(" ts = false ∧ startsWith "=" ts = false) :
      Derives .statement (t :: ts) ts
  | noStatement {ts : List Token} : Derives .statements ts ts
  | statements {ts mid rest : List Token} (first : Derives .statement ts mid)
      (others : Derives .statements mid rest) : Derives .statements ts rest

end Rules

section Suffixes

theorem skipSemicolon_suffix (ts : List Token) : skipSemicolon ts <:+ ts := by
  cases ts with
  | nil => exact List.suffix_refl _
  | cons t ts =>
      rw [skipSemicolon]
      split
      · exact List.suffix_cons t ts
      · exact List.suffix_refl _

theorem suffix_of_cons {t : Token} {ts rest : List Token} (h : rest <:+ ts) : rest <:+ t :: ts :=
  h.trans (List.suffix_cons t ts)

theorem suffix_of_suffix_cons {t : Token} {ts rest : List Token} (h : t :: rest <:+ ts) :
    rest <:+ ts := (List.suffix_cons t rest).trans h

/-- What a derivation leaves over is the end of what it starts with. -/
theorem Derives.suffix {part : Part} {ts rest : List Token} (h : Derives part ts rest) :
    rest <:+ ts := by
  induction h with
  | number | name | single => exact List.suffix_cons _ _
  | noOperation | noArguments | noFurther | noStatement => exact List.suffix_refl _
  | group opens inside closes ih => exact suffix_of_cons (suffix_of_suffix_cons ih)
  | absolute text opens inside closes ih =>
      exact suffix_of_cons (suffix_of_cons (suffix_of_suffix_cons ih))
  | operation operator right others first second => exact suffix_of_cons (second.trans first)
  | expression head others first second => exact second.trans first
  | arguments head others first second => exact second.trans first
  | further text next others first second => exact suffix_of_cons (second.trans first)
  | declaration start isName bare after =>
      exact after ▸ suffix_of_cons (suffix_of_cons (skipSemicolon_suffix _))
  | initialized start isName sign value after ih =>
      subst after
      exact suffix_of_cons (suffix_of_cons (suffix_of_cons ((skipSemicolon_suffix _).trans ih)))
  | condition start opens tested closes leftBrace inside rightBrace first second =>
      have block := suffix_of_suffix_cons (suffix_of_suffix_cons first)
      exact suffix_of_cons (suffix_of_cons ((suffix_of_suffix_cons second).trans block))
  | creation start isName opens inside closes after ih =>
      subst after
      exact suffix_of_cons (suffix_of_cons (suffix_of_cons
        ((skipSemicolon_suffix _).trans (suffix_of_suffix_cons ih))))
  | call start opens inside closes after ih =>
      subst after
      exact suffix_of_cons (suffix_of_cons
        ((skipSemicolon_suffix _).trans (suffix_of_suffix_cons ih)))
  | assignment start sign value after ih =>
      subst after
      exact suffix_of_cons (suffix_of_cons ((skipSemicolon_suffix _).trans ih))
  | statements head others first second => exact second.trans first

/-- Operators behind an expression belong to it. -/
theorem Derives.ended {part : Part} {ts rest : List Token} (h : Derives part ts rest)
    (chain : part = .operations ∨ part = .expression) :
    rest.head?.all fun t => (Operator.ofText? t.text).isNone := by
  induction h with
  | noOperation ended => exact ended
  | operation operator right others _ ih => exact ih (.inl rfl)
  | expression first others _ ih => exact ih (.inl rfl)
  | _ => simp at chain

end Suffixes

section Tokens

/-- Tokens of a text that binds no name `abs`. -/
structure Plain (ts : List Token) : Prop where
  spelled : ∀ t ∈ ts, t.kind.Spells t.text.toList
  free : ts.IsChain fun t u => t.text = "abs" → u.text ≠ "="

variable {t u : Token} {ts rest : List Token}

theorem Plain.of_suffix (h : Plain ts) (suffix : rest <:+ ts) : Plain rest :=
  ⟨fun t mem => h.spelled t (suffix.subset mem), h.free.suffix suffix⟩

theorem Plain.tail (h : Plain (t :: ts)) : Plain ts := h.of_suffix (List.suffix_cons t ts)

theorem Plain.head (h : Plain (t :: ts)) : t.kind.Spells t.text.toList :=
  h.spelled t List.mem_cons_self

/-- What stands before an equals sign is not the name `abs`. -/
theorem Plain.ne_abs (h : Plain (t :: u :: ts)) (sign : u.text = "=") : t.text ≠ "abs" :=
  fun same => (List.isChain_cons_cons.mp h.free).1 same sign

/-- A token with the text of a bracket or a separator is one. -/
theorem Plain.mark (h : Plain (t :: ts)) {c : Char} (text : t.text.toList = [c])
    (mark : isMark c) : t.kind = .mark := by
  refine h.head.kind_eq ?_
  rw [text]
  refine ⟨?_, nofun⟩
  rw [TokenKind.start?, if_pos mark]

/-- A name is no bracket and no separator. -/
theorem Plain.ne_mark (h : Plain (t :: ts)) (isName : t.isName) {text : String} {c : Char}
    (single : text.toList = [c]) (mark : isMark c) : t.text ≠ text := by
  rintro rfl
  have kind := h.mark single mark
  simp [Token.isName, kind] at isName

theorem Plain.isName_abs (h : Plain (t :: ts)) (text : t.text = "abs") : t.isName := by
  have kind : t.kind = .name := by
    have letters : "abs".toList = ['a', 'b', 's'] := rfl
    refine h.head.kind_eq ?_
    rw [text, letters]
    exact ⟨rfl, by simp [TokenKind.continues, isLetter]⟩
  exact decide_eq_true kind

theorem Plain.semicolon (h : Plain (t :: ts)) (text : t.text = ";") : t.start = .other := by
  have kind : t.kind = .mark := h.mark (c := ';') (by rw [text]; rfl) rfl
  simp [Token.start, text, Token.isName, kind]

/-- A number is made of digits and points. -/
theorem Plain.numeral (h : Plain (t :: ts)) (kind : t.kind = .number) :
    ∀ c ∈ t.text.toList, isNumeral c := by
  have spells := h.head
  rw [kind] at spells
  cases word : t.text.toList with
  | nil => exact fun c mem => nomatch mem
  | cons c cs =>
      rw [word] at spells
      have first : isNumeral c := by
        have starts := spells.1
        unfold TokenKind.start? at starts
        repeat' split at starts
        all_goals first
          | assumption
          | cases starts
      exact List.forall_mem_cons.mpr ⟨first, spells.2⟩

/-- The numbers that are read are those of the grammar. -/
theorem Plain.isNumber_iff (h : Plain (t :: ts)) (kind : t.kind = .number) :
    isNumber t.text ↔ (Decimal.readMagnitude? false t.text.toList).isSome := by
  have numeral : ∀ c ∈ t.text.toList, Decimal.isDigit c ∨ c = '.' := by
    intro c mem
    have digit := h.numeral kind c mem
    rw [isNumeral, Bool.or_eq_true, decide_eq_true_eq] at digit
    exact digit
  rw [Decimal.readMagnitude?_isSome_iff false numeral, isNumber, Bool.and_eq_true,
    decide_eq_true_eq]
  rfl

end Tokens

section Expressions

mutual

/-- Tokens that a tree is written with derive its part of a script. -/
theorem TermAt.derives {ts rest : List Token} {e : Expr} (plain : Plain ts) :
    TermAt false ts e rest → Derives .operand ts rest
  | .number kind numeral => .number kind ((plain.isNumber_iff kind).mpr (by rw [numeral]; rfl))
  | .group _ opens inside closes => .group opens (inside.derives plain.tail) closes
  | .absolute _ text _ opens inside closes =>
      .absolute text opens (inside.derives plain.tail.tail) closes
  | .name isName _ alone => .name isName fun text => alone text rfl

theorem ChainAt.derives {ts rest : List Token} {e : Expr} (plain : Plain ts) :
    ChainAt false ts e rest → Derives .expression ts rest
  | .mk head links =>
      have first := head.derives plain
      .expression first (links.derives (plain.of_suffix first.suffix))

theorem LinksAt.derives {left value : Expr} {ts rest : List Token} (plain : Plain ts) :
    LinksAt false left ts value rest → Derives .operations ts rest
  | .done ended => .noOperation ended
  | .link operator operand links =>
      have right := operand.derives plain.tail
      .operation (by rw [operator]; rfl) right (links.derives (plain.tail.of_suffix right.suffix))

end

theorem ArgsAfter.derives {ts rest : List Token} {args : List Expr} (plain : Plain ts)
    (h : ArgsAfter false ts args rest) :
    ∃ closing, closing.text = ")" ∧ Derives .furtherArguments ts (closing :: rest) := by
  induction h with
  | close closes => exact ⟨_, closes, .noFurther⟩
  | more comma first others ih =>
      have next := first.derives plain.tail
      obtain ⟨closing, closes, further⟩ := ih (plain.tail.of_suffix next.suffix)
      exact ⟨closing, closes, .further comma next further⟩

theorem ArgsAt.derives {ts rest : List Token} {args : List Expr} (plain : Plain ts)
    (h : ArgsAt false ts args rest) :
    ∃ closing, closing.text = ")" ∧ Derives .arguments ts (closing :: rest) := by
  cases h with
  | none closes => exact ⟨_, closes, .noArguments⟩
  | some given first others =>
      have head := first.derives plain
      obtain ⟨closing, closes, further⟩ := others.derives (plain.of_suffix head.suffix)
      exact ⟨closing, closes, .arguments head further⟩

end Expressions

section Statements

variable {ts mid rest : List Token}

/-- A semicolon that no statement before it takes is a statement of its own. -/
theorem Derives.skip (plain : Plain ts) (h : Derives .statements ts rest)
    (ended : rest.head?.all fun t => t.start = .brace) :
    Derives .statements (skipSemicolon ts) rest := by
  cases ts with
  | nil => exact h
  | cons t ts =>
      rw [skipSemicolon]
      split
      · rename_i semicolon
        have start := plain.semicolon semicolon
        cases h with
        | noStatement => simp [start] at ended
        | statements first others =>
            cases first with
            | single => exact others
            | declaration start' | initialized start' | condition start' | creation start'
              | call start' | assignment start' => exact nomatch start.symm.trans start'
      · exact h

/-- A statement up to some tokens, or up to those behind a semicolon that these start with. -/
structure StatementAt (ts rest : List Token) : Prop where
  suffix : rest <:+ ts
  derives : Derives .statement ts rest ∨ Derives .statement ts (skipSemicolon rest)

theorem StatementAt.statements (h : StatementAt ts mid) (plain : Plain ts)
    (others : Derives .statements mid rest)
    (ended : rest.head?.all fun t => t.start = .brace) : Derives .statements ts rest := by
  rcases h.derives with first | first
  · exact .statements first others
  · exact .statements first (others.skip (plain.of_suffix h.suffix) ended)

theorem IdleAt.derives (h : IdleAt ts rest) : StatementAt ts rest := by
  cases h with
  | declaration start isName bare =>
      exact ⟨suffix_of_cons (List.suffix_cons _ _), .inr (.declaration start isName bare rfl)⟩
  | name start noCall noValue =>
      exact ⟨List.suffix_cons _ _, .inl (.single (.inl start) fun _ => ⟨noCall, noValue⟩)⟩
  | other start =>
      refine ⟨List.suffix_cons _ _, .inl (.single (.inr start) fun isName => ?_)⟩
      rw [Token.isName_of_other start] at isName
      cases isName

mutual

/-- The tokens of a statement derive it. None of them binds `abs`. -/
theorem StmtAt.derives {absBound : Bool} {ts rest : List Token} {stmt : Stmt}
    (unbound : absBound = false) (plain : Plain ts) :
    StmtAt absBound ts stmt rest → StatementAt ts rest ∧ stmt.binds "abs" = false
  | .declare start isName sign init => by
      have value := (unbound ▸ init).derives plain.tail.tail.tail
      exact ⟨⟨suffix_of_cons (suffix_of_cons (suffix_of_cons value.suffix)),
        .inr (.initialized start isName sign value rfl)⟩, decide_eq_false (plain.tail.ne_abs sign)⟩
  | .assign start sign given => by
      have value := (unbound ▸ given).derives plain.tail.tail
      exact ⟨⟨suffix_of_cons (suffix_of_cons value.suffix),
        .inr (.assignment start sign value rfl)⟩, decide_eq_false (plain.ne_abs sign)⟩
  | .call start opens inside => by
      obtain ⟨closing, closes, arguments⟩ := (unbound ▸ inside).derives plain.tail.tail
      exact ⟨⟨suffix_of_cons (suffix_of_cons (suffix_of_suffix_cons arguments.suffix)),
        .inr (.call start opens arguments closes rfl)⟩, rfl⟩
  | .create start isName opens inside => by
      obtain ⟨closing, closes, arguments⟩ := (unbound ▸ inside).derives plain.tail.tail.tail
      exact ⟨⟨suffix_of_cons (suffix_of_cons (suffix_of_cons
        (suffix_of_suffix_cons arguments.suffix))),
        .inr (.creation start isName opens arguments closes rfl)⟩, rfl⟩
  | .when start opens tested closes leftBrace inside rightBrace => by
      have condition := (unbound ▸ tested).derives plain.tail.tail
      have block := suffix_of_suffix_cons (suffix_of_suffix_cons condition.suffix)
      obtain ⟨statements, -, binds⟩ := inside.derives unbound (plain.tail.tail.of_suffix block)
      have whole := Derives.condition start opens condition closes leftBrace statements
        (Token.start_eq_brace.mp rightBrace)
      exact ⟨⟨whole.suffix, .inl whole⟩, binds⟩

theorem BodyAt.derives {absBound : Bool} {ts rest : List Token} {body : List Stmt}
    (unbound : absBound = false) (plain : Plain ts) :
    BodyAt absBound ts body rest →
      Derives .statements ts rest ∧ (rest.head?.all fun t => t.start = .brace) ∧
        bodyBinds "abs" body = false
  | .stop ended => ⟨.noStatement, ended, rfl⟩
  | .idle skipped others => by
      have first := skipped.derives
      obtain ⟨statements, ended, binds⟩ := others.derives unbound (plain.of_suffix first.suffix)
      exact ⟨first.statements plain statements ended, ended, binds⟩
  | .cons first others => by
      obtain ⟨statement, bound⟩ := first.derives unbound plain
      obtain ⟨statements, ended, binds⟩ :=
        others.derives (by rw [unbound, bound]; rfl) (plain.of_suffix statement.suffix)
      refine ⟨statement.statements plain statements ended, ended, ?_⟩
      rw [bodyBinds, bound, binds]
      rfl

end

end Statements

end SignalGraph.Script
