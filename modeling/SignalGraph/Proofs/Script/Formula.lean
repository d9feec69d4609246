import SignalGraph.Proofs.Script.Grammar

/-!
An expression that is being read follows the grammar. For open parentheses and an unfinished chain
it is written down what they demand of the tokens still to come. Whoever meets the demands of the
state after a token has met those of the state before it together with that token.
-/

namespace SignalGraph.Script

variable {absBound : Bool} {ts rest : List Token} {value : Expr}

/-- What open parentheses demand after a complete operand: for each of them the rest of the chain
inside it and a closing parenthesis, and then the rest of the outermost chain. -/
def Closes (absBound : Bool) : List Paren → Expr → List Token → Expr → List Token → Prop
  | [], operand, ts, value, rest => LinksAt absBound operand ts value rest
  | paren :: outer, operand, ts, value, rest =>
      ∃ inner closing mid, LinksAt absBound operand ts inner (closing :: mid) ∧
        closing.text = ")" ∧ Closes absBound outer (paren.close inner) mid value rest

/-- What an unfinished expression demands of the tokens after it. The word `abs` is looked at once
more together with them. -/
def Formula.Completes (absBound : Bool) (formula : Formula) (ts : List Token) (value : Expr)
    (rest : List Token) : Prop :=
  match formula.hand with
  | .wanting left =>
      ∃ operand mid, TermAt absBound ts operand mid ∧
        Closes absBound formula.parens (left.join operand) mid value rest
  | .word left token =>
      token.isName → token.text = "abs" → absBound = false →
        ∃ operand mid, TermAt absBound (token :: ts) operand mid ∧
          Closes absBound formula.parens (left.join operand) mid value rest
  | .holding operand => Closes absBound formula.parens operand ts value rest

theorem Formula.follow_shifted {parens : List Paren} {operand : Expr} {t : Token} {next : Formula}
    (h : Formula.follow parens operand t = .shifted next)
    (hnext : next.Completes absBound ts value rest) :
    Closes absBound parens operand (t :: ts) value rest := by
  unfold Formula.follow at h
  split at h
  · next op hop =>
    cases h
    obtain ⟨right, mid, hright, hcloses⟩ := hnext
    cases parens with
    | nil => exact .link hop hright hcloses
    | cons paren outer =>
        obtain ⟨inner, closing, after, hlinks, htext, houter⟩ := hcloses
        exact ⟨inner, closing, after, .link hop hright hlinks, htext, houter⟩
  · next hop =>
    cases parens with
    | nil => cases h
    | cons paren outer =>
        simp only at h
        split at h
        · next hclose =>
          cases h
          exact ⟨operand, t, ts, .done (by simp [hop]), hclose, hnext⟩
        · cases h

theorem Formula.follow_finished {parens : List Paren} {operand : Expr} {t : Token}
    (h : Formula.follow parens operand t = .finished value) :
    Closes absBound parens operand (t :: ts) value (t :: ts) := by
  unfold Formula.follow at h
  split at h
  · cases h
  · next hop =>
    cases parens with
    | nil =>
        cases h
        exact .done (by simp [hop])
    | cons paren outer =>
        simp only at h
        split at h <;> cases h

theorem Formula.operand_shifted {parens : List Paren} {left : Left} {t : Token} {next : Formula}
    (h : Formula.operand absBound parens left t = .shifted next)
    (hnext : next.Completes absBound ts value rest) :
    ∃ operand mid, TermAt absBound (t :: ts) operand mid ∧
      Closes absBound parens (left.join operand) mid value rest := by
  unfold Formula.operand at h
  split at h
  · next hkind =>
    split at h
    · next number hnumber =>
      cases h
      exact ⟨.number number, ts, .number hkind hnumber, hnext⟩
    · cases h
  · next hkind =>
    split at h
    · next hopens =>
      cases h
      obtain ⟨first, mid, hfirst, inner, closing, after, hlinks, hcloses, houter⟩ := hnext
      exact ⟨inner, after, .group hkind hopens (.mk hfirst hlinks) hcloses, houter⟩
    · next hopens =>
      split at h
      · cases h
      · next hname =>
        have hname : t.isName = true := by simpa using hname
        split at h
        · next habs =>
          cases h
          obtain ⟨htext, hunbound⟩ : t.text = "abs" ∧ absBound = false := by simpa using habs
          exact hnext hname htext hunbound
        · next habs =>
          cases h
          refine ⟨.name t, ts, .name hname hopens ?_, hnext⟩
          intro htext hunbound
          simp [htext, hunbound] at habs

/-- A token that belongs to an expression meets what was demanded before it. -/
theorem Formula.step_shifted {formula next : Formula} {t : Token}
    (h : formula.step absBound t = .shifted next) (hnext : next.Completes absBound ts value rest) :
    formula.Completes absBound (t :: ts) value rest := by
  obtain ⟨parens, hand⟩ := formula
  cases hand with
  | wanting left => exact Formula.operand_shifted h hnext
  | holding operand => exact Formula.follow_shifted h hnext
  | word left token =>
      intro hname htext hunbound
      simp only [Formula.step] at h
      split at h
      · next hopens =>
        cases h
        obtain ⟨first, mid, hfirst, inner, closing, after, hlinks, hcloses, houter⟩ := hnext
        exact ⟨.absolute inner, after,
          .absolute hname htext hunbound hopens (.mk hfirst hlinks) hcloses, houter⟩
      · next hopens =>
        have hplain : startsWith "(" (t :: ts) = false := by simpa [startsWith_cons] using hopens
        exact ⟨.name token, t :: ts, .name hname (by rw [htext]; decide) fun _ _ => hplain,
          Formula.follow_shifted h hnext⟩

/-- A token that ends an expression is left over. -/
theorem Formula.step_finished {formula : Formula} {t : Token}
    (h : formula.step absBound t = .finished value) :
    formula.Completes absBound (t :: ts) value (t :: ts) := by
  obtain ⟨parens, hand⟩ := formula
  cases hand with
  | wanting left =>
      simp only [Formula.step, Formula.operand] at h
      repeat' split at h
      all_goals cases h
  | holding operand => exact Formula.follow_finished h
  | word left token =>
      intro hname htext hunbound
      simp only [Formula.step] at h
      split at h
      · cases h
      · next hopens =>
        have hplain : startsWith "(" (t :: ts) = false := by simpa [startsWith_cons] using hopens
        exact ⟨.name token, t :: ts, .name hname (by rw [htext]; decide) fun _ _ => hplain,
          Formula.follow_finished h⟩

/-- An expression that may end here demands no more tokens. -/
theorem Formula.value?_completes {formula : Formula} (h : formula.value? = some value) :
    formula.Completes absBound [] value [] := by
  obtain ⟨parens, hand⟩ := formula
  simp only [Formula.value?] at h
  split at h
  · next hparens =>
    obtain rfl := List.isEmpty_iff.mp hparens
    cases hand with
    | wanting left => cases h
    | holding operand =>
        cases h
        exact .done (by simp)
    | word left token =>
        cases h
        intro hname htext _
        exact ⟨.name token, [], .name hname (by rw [htext]; decide) fun _ _ => rfl,
          .done (by simp)⟩
  · cases h

/-- Once a token has been read an expression no longer stands at its beginning. -/
theorem Formula.step_ne_empty {formula : Formula} {t : Token} :
    formula.step absBound t ≠ .shifted .empty := by
  intro h
  obtain ⟨parens, hand⟩ := formula
  cases hand <;> simp only [Formula.step, Formula.operand, Formula.follow, Formula.empty] at h <;>
    repeat' split at h
  all_goals simp at h

theorem Formula.empty_completes (h : Formula.empty.Completes absBound ts value rest) :
    ChainAt absBound ts value rest := by
  obtain ⟨first, mid, hfirst, hlinks⟩ := h
  exact .mk hfirst hlinks

end SignalGraph.Script
