import SignalGraph.Proofs.Script.Grammar

/-!
The grammar of scripts is unambiguous: tokens determine the tree at their front and where it ends.
A derivation is compared with any other of the same tokens rule by rule, so each rule has an
inversion that says what every derivation with its first tokens looks like.
-/

namespace SignalGraph.Script

section Inversion

variable {absBound : Bool}

theorem TermAt.number_inv {t : Token} {ts rest : List Token} {e : Expr}
    (h : TermAt absBound (t :: ts) e rest) (kind : t.kind = .number) :
    ∃ value, Decimal.readMagnitude? false t.text.toList = some value ∧ e = .number value ∧
      rest = ts := by
  cases h with
  | number kind' numeral => exact ⟨_, numeral, rfl, rfl⟩
  | group kind' => exact absurd kind kind'
  | absolute name' => simp [Token.isName, kind] at name'
  | name name' => simp [Token.isName, kind] at name'

theorem TermAt.group_inv {opening : Token} {ts rest : List Token} {e : Expr}
    (h : TermAt absBound (opening :: ts) e rest) (kind : opening.kind ≠ .number)
    (opens : opening.text = "(") :
    ∃ closing, closing.text = ")" ∧ ChainAt absBound ts e (closing :: rest) := by
  cases h with
  | number kind' => exact absurd kind' kind
  | group kind' opens' inside' closes' => exact ⟨_, closes', inside'⟩
  | absolute name' text' => rw [opens] at text'; exact absurd text' (by decide)
  | name name' text' => exact absurd opens text'

theorem TermAt.absolute_inv {word opening : Token} {ts rest : List Token} {e : Expr}
    (h : TermAt absBound (word :: opening :: ts) e rest) (name : word.isName)
    (text : word.text = "abs") (unbound : absBound = false) (opens : opening.text = "(") :
    ∃ inner closing, e = .absolute inner ∧ closing.text = ")" ∧
      ChainAt absBound ts inner (closing :: rest) := by
  cases h with
  | number kind' => simp [Token.isName, kind'] at name
  | group kind' opens' => rw [opens'] at text; exact absurd text (by decide)
  | absolute name' text' unbound' opens' inside' closes' => exact ⟨_, _, rfl, closes', inside'⟩
  | name name' text' plain' =>
      have hplain := plain' text unbound
      simp [startsWith_cons, opens] at hplain

theorem TermAt.name_inv {t : Token} {ts rest : List Token} {e : Expr}
    (h : TermAt absBound (t :: ts) e rest) (name : t.isName) (text : t.text ≠ "(")
    (plain : t.text = "abs" → absBound = false → startsWith "(" ts = false) :
    e = .name t ∧ rest = ts := by
  cases h with
  | number kind' => simp [Token.isName, kind'] at name
  | group kind' opens' => exact absurd opens' text
  | absolute name' text' unbound' opens' =>
      have hplain := plain text' unbound'
      simp [startsWith_cons, opens'] at hplain
  | name => exact ⟨rfl, rfl⟩

theorem LinksAt.done_inv {left value : Expr} {ts rest : List Token}
    (h : LinksAt absBound left ts value rest)
    (ended : ts.head?.all fun t => (Operator.ofText? t.text).isNone) :
    value = left ∧ rest = ts := by
  cases h with
  | done => exact ⟨rfl, rfl⟩
  | link operator' => simp [operator'] at ended

theorem LinksAt.link_inv {left value : Expr} {t : Token} {op : Operator} {ts rest : List Token}
    (h : LinksAt absBound left (t :: ts) value rest)
    (operator : Operator.ofText? t.text = some op) :
    ∃ right mid, TermAt absBound ts right mid ∧
      LinksAt absBound (.binary op left right) mid value rest := by
  cases h with
  | done ended' => simp [operator] at ended'
  | link operator' operand' links' =>
      obtain rfl := Option.some.inj (operator.symm.trans operator')
      exact ⟨_, _, operand', links'⟩

mutual

theorem TermAt.unique {ts rest rest' : List Token} {e e' : Expr}
    (h : TermAt absBound ts e rest) (h' : TermAt absBound ts e' rest') :
    e = e' ∧ rest = rest' :=
  match h with
  | .number kind numeral => by
      obtain ⟨value, numeral', rfl, rfl⟩ := h'.number_inv kind
      exact ⟨by rw [Option.some.inj (numeral.symm.trans numeral')], rfl⟩
  | .group kind opens inside closes => by
      obtain ⟨closing', -, inside'⟩ := h'.group_inv kind opens
      obtain ⟨he, hrest⟩ := ChainAt.unique inside inside'
      exact ⟨he, (List.cons.inj hrest).2⟩
  | .absolute name text unbound opens inside closes => by
      obtain ⟨inner', closing', rfl, -, inside'⟩ := h'.absolute_inv name text unbound opens
      obtain ⟨he, hrest⟩ := ChainAt.unique inside inside'
      exact ⟨by rw [he], (List.cons.inj hrest).2⟩
  | .name name text plain => by
      obtain ⟨rfl, rfl⟩ := h'.name_inv name text plain
      exact ⟨rfl, rfl⟩
termination_by structural h

theorem ChainAt.unique {ts rest rest' : List Token} {e e' : Expr}
    (h : ChainAt absBound ts e rest) (h' : ChainAt absBound ts e' rest') :
    e = e' ∧ rest = rest' :=
  match h with
  | .mk head links => by
      obtain ⟨head', links'⟩ := h'
      obtain ⟨hfirst, hmid⟩ := TermAt.unique head head'
      exact LinksAt.unique links (by rw [hfirst, hmid]; exact links')
termination_by structural h

theorem LinksAt.unique {ts rest rest' : List Token} {left e e' : Expr}
    (h : LinksAt absBound left ts e rest) (h' : LinksAt absBound left ts e' rest') :
    e = e' ∧ rest = rest' :=
  match h with
  | .done ended => by
      obtain ⟨rfl, rfl⟩ := h'.done_inv ended
      exact ⟨rfl, rfl⟩
  | .link operator operand links => by
      obtain ⟨right', mid', operand', links'⟩ := h'.link_inv operator
      obtain ⟨hright, hmid⟩ := TermAt.unique operand operand'
      exact LinksAt.unique links (by rw [hright, hmid]; exact links')
termination_by structural h

end

theorem ArgsAfter.unique {ts rest rest' : List Token} {args args' : List Expr}
    (h : ArgsAfter absBound ts args rest) (h' : ArgsAfter absBound ts args' rest') :
    args = args' ∧ rest = rest' := by
  induction h generalizing args' with
  | close closes =>
      cases h' with
      | close => exact ⟨rfl, rfl⟩
      | more comma' => rw [closes] at comma'; exact absurd comma' (by decide)
  | more comma first others ih =>
      cases h' with
      | close closes' => rw [comma] at closes'; exact absurd closes' (by decide)
      | more comma' first' others' =>
          obtain ⟨rfl, rfl⟩ := first.unique first'
          obtain ⟨rfl, rfl⟩ := ih others'
          exact ⟨rfl, rfl⟩

theorem ArgsAt.unique {ts rest rest' : List Token} {args args' : List Expr}
    (h : ArgsAt absBound ts args rest) (h' : ArgsAt absBound ts args' rest') :
    args = args' ∧ rest = rest' := by
  cases h with
  | none closes =>
      cases h' with
      | none => exact ⟨rfl, rfl⟩
      | some given' => simp [startsWith_cons, closes] at given'
  | some given first others =>
      cases h' with
      | none closes' => simp [startsWith_cons, closes'] at given
      | some given' first' others' =>
          obtain ⟨rfl, rfl⟩ := first.unique first'
          obtain ⟨rfl, rfl⟩ := others.unique others'
          exact ⟨rfl, rfl⟩

theorem IdleAt.unique {ts rest rest' : List Token} (h : IdleAt ts rest) (h' : IdleAt ts rest') :
    rest = rest' := by
  cases h <;> cases h' <;> simp_all

theorem IdleAt.not_stmt {ts rest rest' : List Token} {stmt : Stmt} (h : IdleAt ts rest) :
    ¬ StmtAt absBound ts stmt rest' := by
  intro h'
  cases h <;> cases h' <;> simp_all [startsWith_cons]

theorem IdleAt.not_ended {ts rest : List Token} (h : IdleAt ts rest) :
    ¬ ts.head?.all fun t => t.start = .brace := by
  cases h <;> simp_all

theorem StmtAt.not_ended {ts rest : List Token} {stmt : Stmt} (h : StmtAt absBound ts stmt rest) :
    ¬ ts.head?.all fun t => t.start = .brace := by
  cases h <;> simp_all

theorem StmtAt.when_inv {t opening : Token} {ts rest : List Token} {stmt : Stmt}
    (h : StmtAt absBound (t :: opening :: ts) stmt rest) (start : t.start = .condition) :
    ∃ condition body closing left right mid, stmt = .when condition body ∧
      ChainAt absBound ts condition (closing :: left :: mid) ∧
      BodyAt absBound mid body (right :: rest) := by
  cases h with
  | when start' opens' tested' closes' leftBrace' inside' rightBrace' =>
      exact ⟨_, _, _, _, _, _, rfl, tested', inside'⟩
  | declare start' | assign start' | call start' | create start' => simp [start] at start'

theorem BodyAt.idle_inv {ts mid rest : List Token} {body : List Stmt}
    (h : BodyAt absBound ts body rest) (skipped : IdleAt ts mid) :
    BodyAt absBound mid body rest := by
  cases h with
  | stop ended' => exact absurd ended' skipped.not_ended
  | idle skipped' others' => exact skipped'.unique skipped ▸ others'
  | cons first' => exact absurd first' skipped.not_stmt

theorem BodyAt.cons_inv {ts mid rest : List Token} {stmt : Stmt} {body : List Stmt}
    (h : BodyAt absBound ts body rest) (first : StmtAt absBound ts stmt mid) :
    ∃ stmt' body' mid', body = stmt' :: body' ∧ StmtAt absBound ts stmt' mid' ∧
      BodyAt (absBound || stmt'.binds "abs") mid' body' rest := by
  cases h with
  | stop ended' => exact absurd ended' first.not_ended
  | idle skipped' => exact absurd first skipped'.not_stmt
  | cons first' others' => exact ⟨_, _, _, rfl, first', others'⟩

end Inversion

mutual

theorem StmtAt.unique {absBound : Bool} {ts rest rest' : List Token} {stmt stmt' : Stmt}
    (h : StmtAt absBound ts stmt rest) (h' : StmtAt absBound ts stmt' rest') :
    stmt = stmt' ∧ rest = rest' :=
  match h with
  | .declare start isName sign init => by
      cases h' with
      | declare start' isName' sign' init' =>
          obtain ⟨rfl, rfl⟩ := init.unique init'
          exact ⟨rfl, rfl⟩
      | assign start' | call start' | create start' | when start' => simp [start] at start'
  | .assign start sign given => by
      cases h' with
      | assign start' sign' given' =>
          obtain ⟨rfl, rfl⟩ := given.unique given'
          exact ⟨rfl, rfl⟩
      | call start' opens' => rw [sign] at opens'; exact absurd opens' (by decide)
      | declare start' | create start' | when start' => simp [start] at start'
  | .call start opens inside => by
      cases h' with
      | call start' opens' inside' =>
          obtain ⟨rfl, rfl⟩ := inside.unique inside'
          exact ⟨rfl, rfl⟩
      | assign start' sign' => rw [opens] at sign'; exact absurd sign' (by decide)
      | declare start' | create start' | when start' => simp [start] at start'
  | .create start isName opens inside => by
      cases h' with
      | create start' isName' opens' inside' =>
          obtain ⟨rfl, rfl⟩ := inside.unique inside'
          exact ⟨rfl, rfl⟩
      | declare start' | assign start' | call start' | when start' => simp [start] at start'
  | .when start opens tested closes leftBrace inside rightBrace => by
      obtain ⟨condition', body', closing', left', right', mid', rfl, tested', inside'⟩ :=
        h'.when_inv start
      obtain ⟨hcondition, hmid⟩ := tested.unique tested'
      have hmid : _ = mid' := (List.cons.inj (List.cons.inj hmid).2).2
      obtain ⟨hbody, hrest⟩ := BodyAt.unique inside (by rw [hmid]; exact inside')
      exact ⟨by rw [hcondition, hbody], (List.cons.inj hrest).2⟩
termination_by structural h

theorem BodyAt.unique {absBound : Bool} {ts rest rest' : List Token} {body body' : List Stmt}
    (h : BodyAt absBound ts body rest) (h' : BodyAt absBound ts body' rest') :
    body = body' ∧ rest = rest' :=
  match h with
  | .stop ended => by
      cases h' with
      | stop => exact ⟨rfl, rfl⟩
      | idle skipped' => exact absurd ended skipped'.not_ended
      | cons first' => exact absurd ended first'.not_ended
  | .idle skipped others => BodyAt.unique others (h'.idle_inv skipped)
  | .cons first others => by
      obtain ⟨stmt', more', mid', rfl, first', others'⟩ := h'.cons_inv first
      obtain ⟨hstmt, hmid⟩ := StmtAt.unique first first'
      obtain ⟨hmore, hrest⟩ := BodyAt.unique others (by rw [hstmt, hmid]; exact others')
      exact ⟨by rw [hstmt, hmore], hrest⟩
termination_by structural h

end

/-- No tokens write two scripts. -/
theorem Written.unique {ts : List Token} {script script' : List Stmt} (h : Written ts script)
    (h' : Written ts script') : script = script' :=
  (BodyAt.unique h h').1

end SignalGraph.Script
