import SignalGraph.Proofs.Graph.Built
import SignalGraph.Proofs.Script.Happening
import SignalGraph.Proofs.Script.Spans

/-!
The warnings of a script that is compiled. There is one for each name that is read before it is
bound, for each call of a name that is no sink, and for each call with more arguments than the sink
takes, in the order in which all this happens.
-/

namespace SignalGraph

section Warnings

open Script

/-- The token that a warning is about. -/
def Script.Warning.token? : Warning → Option Token
  | .unbound token => some token
  | .unknownSink token => some token
  | .extraArguments .. => none

/-- A warning names its token, with its line and its column. -/
theorem Script.Warning.message_names {warning : Warning} {token : Token}
    (about : warning.token? = some token) :
    ∃ before behind, warning.message = before ++ token.text ++ behind ++
      s!" (line {token.place.line}, column {token.place.column})" := by
  cases warning with
  | unbound other =>
      obtain rfl := Option.some.inj about
      exact ⟨"'", "' is not bound, reads as 0", rfl⟩
  | unknownSink other =>
      obtain rfl := Option.some.inj about
      exact ⟨"unknown sink '", "', call ignored", rfl⟩
  | extraArguments sink count => cases about

variable {before xs : List Happening} {warning : Warning} {token : Token}

theorem Script.Happening.token_of_warning {happening : Happening}
    (worth : happening.warning? before = some warning) (about : warning.token? = some token) :
    happening.read? = some token ∨ happening.called? = some token := by
  cases happening with
  | read other =>
      simp only [Happening.warning?, Option.ite_none_left_eq_some, Option.some.injEq] at worth
      rw [← worth.2] at about
      exact .inl about
  | bound name => cases worth
  | called callee count =>
      simp only [Happening.warning?] at worth
      split at worth
      · rw [← Option.some.inj worth] at about
        exact .inr about
      · rw [Option.ite_none_right_eq_some] at worth
        rw [← Option.some.inj worth.2] at about
        cases about

/-- The token of a warning is read or called. -/
theorem Script.token_of_warning (warned : warning ∈ warningsAfter before xs)
    (about : warning.token? = some token) :
    token ∈ xs.filterMap Happening.read? ∨ token ∈ xs.filterMap Happening.called? := by
  induction xs generalizing before with
  | nil => cases warned
  | cons x xs ih =>
      simp only [List.mem_filterMap, List.exists_mem_cons_iff] at ih ⊢
      rcases List.mem_append.mp warned with first | later
      · have named := x.token_of_warning (Option.mem_toList.mp first) about
        exact named.imp .inl .inl
      · exact (ih later).imp .inr .inr

/-- A script that is accepted has been warned of just what happens in it: of each name that is read
before it is bound, of each call of a name that is no sink, and of each call with more arguments
than the sink takes, in this order. Warnings of names say where the name stands. So there are none
if and only if all names that are read are bound, and all that are called are sinks that take all
their arguments. -/
theorem Circuit.compile_warns (c : Circuit) (mode : CompileMode) {source : String}
    (accepted : (c.compile mode source).2.fault = none) :
    let warnings := (c.compile mode source).2.warnings
    ∃ script, (∀ other, Written (tokens source) other ↔ other = script) ∧
      warnings = warningsAfter [] (bodyHappenings script) ∧
      ((bodyHappenings script).filterMap Happening.read?).Sublist (tokens source) ∧
      ((bodyHappenings script).filterMap Happening.called?).Sublist (tokens source) ∧
      (∀ warning ∈ warnings, ∀ token, warning.token? = some token →
        token ∈ tokens source ∧ token.IsCut source.toList ∧
          ∃ before behind, warning.message = before ++ token.text ++ behind ++
            s!" (line {token.place.line}, column {token.place.column})") ∧
      (warnings = [] ↔ ∀ early happening late,
        bodyHappenings script = early ++ happening :: late → happening.Clean early) := by
  intro warnings
  have same : (c.compile mode source).2.fault = (Script.compile source).fault ∧
      warnings = (Script.compile source).warnings := c.compile_tells mode source
  obtain ⟨script, written, heard⟩ := Script.compile_heard (same.1.symm.trans accepted)
  have happened : warnings = warningsAfter [] (bodyHappenings script) := same.2.trans heard.warnings
  obtain ⟨reads, calls⟩ := Written.stand written
  refine ⟨script, fun other => ⟨fun h => h.unique written, ?_⟩, happened, reads, calls, ?_, ?_⟩
  · rintro rfl
    exact written
  · intro warning warned token about
    rw [happened] at warned
    have mem : token ∈ tokens source :=
      (Script.token_of_warning warned about).elim (reads.subset ·) (calls.subset ·)
    exact ⟨mem, Token.isCut_of_mem mem, Script.Warning.message_names about⟩
  · rw [happened, warningsAfter_eq_nil]
    simp only [List.nil_append]

/-- A name that is read in its own first assignment, a beep with one argument too many, and a call
of an unknown sink whose argument is not bound either. The word `abs` is not read as a name. -/
theorem Circuit.compile_warns_siren :
    let source := "x = x + 1; if (abs(x)) { y = x; beep(y, 1, 2); } siren(z);"
    let result := ((Circuit.ofSeed 0).compile .atomic source).2
    result.fault = none ∧
      result.warnings.map Warning.message =
        ["'x' is not bound, reads as 0 (line 1, column 5)",
          "Beep Output: 1 extra argument(s) ignored",
          "'z' is not bound, reads as 0 (line 1, column 56)",
          "unknown sink 'siren', call ignored (line 1, column 50)"] ∧
      ∃ script, (∀ other, Written (tokens source) other ↔ other = script) ∧
        result.warnings = warningsAfter [] (bodyHappenings script) ∧
        ¬∀ early happening late, bodyHappenings script = early ++ happening :: late →
          happening.Clean early := by
  intro source result
  have accepted : result.fault = none := by decide +kernel
  have warnedOf : result.warnings ≠ [] := by decide +kernel
  obtain ⟨script, unique, warned, -, -, -, clean⟩ :=
    Circuit.compile_warns (.ofSeed 0) .atomic accepted
  exact ⟨accepted, by decide +kernel, script, unique, warned, fun all => warnedOf (clean.mpr all)⟩

end Warnings

end SignalGraph
