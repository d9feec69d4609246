import SignalGraph.Proofs.Graph.Compiled
import SignalGraph.Proofs.Graph.Modes
import SignalGraph.Proofs.Script.Continued
import SignalGraph.Proofs.Script.Unplaced

/-!
Circuits and the texts of their scripts. How a text is laid out makes no difference to the circuit
that it is compiled into, and a text that goes on behind a whole script adds to the circuit of that
script.
-/

namespace SignalGraph

open Script

section Layouts

/-- Compilations that differ in places only make the same circuit and tell the same of it. -/
theorem Circuit.compile_congr (c : Circuit) (mode : CompileMode) {source other : String}
    (same : (Script.compile source).unplaced = (Script.compile other).unplaced) :
    (c.compile mode source).1 = (c.compile mode other).1 ∧
      (c.compile mode source).2.symbols = (c.compile mode other).2.symbols ∧
      (c.compile mode source).2.fault.map Fault.unplaced =
        (c.compile mode other).2.fault.map Fault.unplaced ∧
      (c.compile mode source).2.warnings.map Warning.unplaced =
        (c.compile mode other).2.warnings.map Warning.unplaced := by
  simp only [Circuit.compile_eq]
  generalize Script.compile source = first at same ⊢
  generalize Script.compile other = second at same ⊢
  obtain ⟨⟨gates, symbols, warnings, cursor⟩, fault⟩ := first
  obtain ⟨⟨gates', symbols', warnings', cursor'⟩, fault'⟩ := second
  obtain ⟨assembled, failed⟩ := Compilation.mk.inj same
  obtain ⟨rfl, rfl, warned, rfl⟩ := Assembly.mk.inj assembled
  cases fault with
  | none =>
      obtain rfl := Option.map_eq_none_iff.mp failed.symm
      exact ⟨rfl, rfl, rfl, warned⟩
  | some found =>
      obtain ⟨found', rfl, -⟩ := Option.map_eq_some_iff.mp failed.symm
      cases mode <;> exact ⟨rfl, rfl, failed, warned⟩

/-- However the words of a text are spaced they spell the same tokens, and texts with the same
tokens make the same circuit, with the same names, and with the same fault and warnings but for the
places that these name. -/
theorem Circuit.compile_respaced :
    (∀ (source : String) (cs : List Char), Spaced (tokens source) cs →
      lexemes (String.ofList cs) = lexemes source) ∧
    ∀ (c : Circuit) (mode : CompileMode) (source other : String),
      lexemes source = lexemes other →
      (c.compile mode source).1 = (c.compile mode other).1 ∧
        (c.compile mode source).2.symbols = (c.compile mode other).2.symbols ∧
        (c.compile mode source).2.fault.map Fault.unplaced =
          (c.compile mode other).2.fault.map Fault.unplaced ∧
        (c.compile mode source).2.warnings.map Warning.unplaced =
          (c.compile mode other).2.warnings.map Warning.unplaced := by
  refine ⟨fun source cs spaced => ?_, fun c mode source other same => ?_⟩
  · have spelled := spaced.lexemes (fun t mem => Token.spells_of_mem mem) .first
    rw [lexemes, tokens, String.toList_ofList]
    exact spelled
  · exact c.compile_congr mode (compile_unplaced_congr same)

/-- A number beside a name, spaced anew over two lines. The name that is not bound is reported at
another place. -/
theorem Circuit.compile_respaced_glued :
    let cs := "1".toList ++ ([' '] ++ ("abc".toList ++ (['\n'] ++ ("=".toList ++ (['\t', ' '] ++
      "y".toList)))))
    Spaced (tokens "1abc=y") cs ∧ lexemes (String.ofList cs) = lexemes "1abc=y" ∧
      ((Circuit.ofSeed 0).compile .atomic (String.ofList cs)).1 =
        ((Circuit.ofSeed 0).compile .atomic "1abc=y").1 := by
  have spaced : Spaced (tokens "1abc=y") _ :=
    .more _ [' '] (by decide) (List.all_eq_true.mp rfl) (.more _ ['\n'] (by decide)
      (List.all_eq_true.mp rfl) (.more _ ['\t', ' '] (by decide) (List.all_eq_true.mp rfl)
        (.last _)))
  have same := Circuit.compile_respaced.1 "1abc=y" _ spaced
  exact ⟨spaced, same, (Circuit.compile_respaced.2 (.ofSeed 0) .atomic _ _ same).1⟩

end Layouts

section Continuing

/-- Texts whose tokens are those of two texts in a row. -/
theorem tokens_append {p : String} {t : Token} (final : (tokens p).getLast? = some t)
    (closes : t.Closes) (q : String) :
    tokens (p ++ q) = tokens p ++ scanFrom none (Place.first.past p.toList) q.toList := by
  rw [tokens, String.toList_append]
  refine scanFrom_append .first (fun u last => ?_) q.toList
  obtain rfl := Option.some.inj (last.symm.trans final)
  exact closes.kind

/-- A text behind an accepted script that ends with a semicolon or a brace is compiled on top of what
the script leaves. Whatever becomes of it, the nodes of the script come first, as they were, and its
names stay bound. -/
theorem Circuit.compile_append (c : Circuit) (p q : String)
    (accepted : (c.compile .partialGates p).2.fault = none)
    (closed : ∃ t, (tokens p).getLast? = some t ∧ (t.text = ";" ∨ t.text = "\x7d")) :
    let before := c.compile .partialGates p
    let whole := c.compile .partialGates (p ++ q)
    let rest := scanFrom none (Place.first.past p.toList) q.toList
    let outcome := compileOn (Script.compile p).assembly rest
    tokens (p ++ q) = tokens p ++ rest ∧ rest.map Token.lexeme = lexemes q ∧
      whole.1 = c.install outcome.gates ∧
      whole.2 = { fault := outcome.fault, symbols := outcome.symbols
                  warnings := outcome.warnings } ∧
      before.1.layout <+: whole.1.layout ∧
      ∀ name, (before.2.symbols.lookup name).isSome → (whole.2.symbols.lookup name).isSome := by
  obtain ⟨t, final, text⟩ := closed
  have closes := Token.closes_of_mem (List.mem_of_getLast? final) text
  obtain ⟨clean, -⟩ := c.compile_accepted .partialGates p accepted
  have split := tokens_append final closes q
  have compiled : Script.compile (p ++ q) = compileOn (Script.compile p).assembly
      (scanFrom none (Place.first.past p.toList) q.toList) := by
    rw [Script.compile, split]
    exact compileTokens_append clean final closes _
  have keeps := compileOn_keeps (Script.compile p).assembly
    (scanFrom none (Place.first.past p.toList) q.toList)
  have same : (scanFrom none (Place.first.past p.toList) q.toList).map Token.lexeme = lexemes q :=
    scanFrom_lexemes (Place.first.past p.toList) .first q.toList
  rw [← compiled] at keeps
  simp only [c.compile_left (.inr rfl), ← compiled]
  refine ⟨split, same, trivial, trivial, ?_, keeps.2⟩
  have first : (c.install (Script.compile p).gates).layout = _ :=
    c.install_layout (compile_valid p).wired
  have whole : (c.install (Script.compile (p ++ q)).gates).layout = _ :=
    c.install_layout (compile_valid (p ++ q)).wired
  rw [first, whole]
  exact layoutOf_prefix keeps.1

/-- A text that binds `abs` and closes a block, and one that reads it and then ends too early. -/
theorem Circuit.compile_append_refused :
    let p := "abs = 2; if (abs) \x7b x = 1; \x7d"
    let q := "y = abs + x; z = (y"
    let c := Circuit.ofSeed 0
    (c.compile .partialGates p).1.layout <+: (c.compile .partialGates (p ++ q)).1.layout ∧
      (c.compile .partialGates (p ++ q)).2.fault.isSome := by
  have closed : ∃ t, (tokens "abs = 2; if (abs) \x7b x = 1; \x7d").getLast? = some t ∧
      (t.text = ";" ∨ t.text = "\x7d") := ⟨_, rfl, by decide⟩
  obtain ⟨-, -, -, -, kept, -⟩ := Circuit.compile_append (.ofSeed 0) _ "y = abs + x; z = (y"
    (by decide +kernel) closed
  exact ⟨kept, by decide +kernel⟩

end Continuing

end SignalGraph
