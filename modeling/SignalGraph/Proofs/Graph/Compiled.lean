import SignalGraph.Proofs.Graph.Installed
import SignalGraph.Proofs.Script.Statements
import SignalGraph.Proofs.Script.Unambiguous

/-!
Compiled scripts in ticks. Whatever the lengths of the ticks and the controls are, and whether
earlier ticks completed or not, a tick that completes shows what the script means at the nodes of
its names.
-/

namespace SignalGraph

open Script

section Runs

/-- Any number of ticks, complete or not. -/
def Circuit.ticks (c : Circuit) (history : List (Float × Controls)) : Circuit :=
  history.foldl (fun c tick => (c.tick tick.1 tick.2).1) c

theorem Circuit.ticks_concat (c : Circuit) (history : List (Float × Controls))
    (tick : Float × Controls) :
    c.ticks (history ++ [tick]) = ((c.ticks history).tick tick.1 tick.2).1 :=
  List.foldl_concat _ _ _ _

/-- Ticks neither enter nor remove nodes. -/
theorem Circuit.ticks_nodes (c : Circuit) (history : List (Float × Controls)) :
    (c.ticks history).graph.nodes = c.graph.nodes := by
  induction history generalizing c with
  | nil => rfl
  | cons tick history ih => exact ih (c.tick tick.1 tick.2).1

/-- The number that an outlet of the node with an id holds. -/
def Circuit.output? (c : Circuit) (id slot : Nat) : Option Float :=
  match c.find (.int id) with
  | .ok ref => (c.node ref).outlets[slot]?
  | .error _ => none

/-- The first outlets of the nodes of some names hold the values of the names, and no other name has
a value. -/
structure Circuit.Shows (c : Circuit) (symbols : List (String × Nat)) (env : Env) : Prop where
  bound : ∀ name id, (name, id) ∈ symbols →
    ∃ value, env name = some value ∧ c.output? id 0 = some value
  unbound : ∀ name, name ∉ symbols.map Prod.fst → env name = none

theorem Circuit.Installed.ticks {c : Circuit} {gates : List Gate} {first : Nat}
    (h : c.Installed gates first) (history : List (Float × Controls)) :
    (c.ticks history).Installed gates first := by
  induction history generalizing c with
  | nil => exact h
  | cons tick history ih => exact ih (h.tick tick.1 tick.2)

/-- A settled circuit shows the values of all names. -/
theorem Circuit.Installed.shows {c : Circuit} {s : Assembly} {first : Nat}
    (h : c.Installed s.gates.toList first) (valid : s.Valid)
    (settled : Settled s.gates.toList first s.gates.toList.length c.pool) :
    c.Shows s.symbols s.env := by
  constructor
  · intro name id mem
    obtain ⟨gate, found, pure⟩ := valid.bound name id mem
    have bound := (List.getElem?_eq_some_iff.mp found).1
    have outlets := settled id gate bound found pure
    refine ⟨s.value id, ?_, ?_⟩
    · simp only [Assembly.env, lookup_of_mem valid.once mem, Option.map_some]
    · simp only [Circuit.output?, h.find bound, Circuit.node, outlets]
      rfl
  · intro name missing
    have none : s.symbols.lookup name = none := by
      cases found : s.symbols.lookup name with
      | none => rfl
      | some id =>
          exact absurd (List.mem_map.mpr ⟨_, mem_of_lookup found, rfl⟩) missing
    simp only [Assembly.env, none, Option.map_none]

end Runs

section Compiling

variable (c : Circuit) (mode : CompileMode) (source : String)

/-- A script that is not refused has its gates installed, in either mode. -/
theorem Circuit.compile_accepted (accepted : (c.compile mode source).2.fault = none) :
    (Script.compile source).fault = none ∧
      c.compile mode source = (c.install (Script.compile source).gates,
        { fault := none, symbols := (Script.compile source).symbols
          warnings := (Script.compile source).warnings }) := by
  have clean := (c.compile_tells mode source).1.symm.trans accepted
  refine ⟨clean, ?_⟩
  rw [c.compile_left (.inl clean), clean]

/-- The circuit of an accepted script has gates that do what the script means. -/
theorem Circuit.compile_installs (accepted : (c.compile mode source).2.fault = none) :
    ∃ script assembly, Written (tokens source) script ∧
      Ran {} assembly (meaning script) (calls script) ∧
      (c.compile mode source).2.symbols = assembly.symbols ∧
      (c.compile mode source).1 = c.install assembly.gates := by
  obtain ⟨clean, compiled⟩ := c.compile_accepted mode source accepted
  obtain ⟨script, written, ran⟩ := compile_ran clean
  rw [compiled]
  exact ⟨script, _, written, ran, rfl, rfl⟩

theorem Circuit.compile_shows (accepted : (c.compile mode source).2.fault = none)
    (history : List (Float × Controls)) (dt : Float) (controls : Controls)
    (completes : (((c.compile mode source).1.ticks history).tick dt controls).2 = none) :
    ∃ script, Written (tokens source) script ∧
      (((c.compile mode source).1.ticks history).tick dt controls).1.Shows
        (c.compile mode source).2.symbols (meaning script) := by
  obtain ⟨script, assembly, written, ran, symbols, compiled⟩ :=
    c.compile_installs mode source accepted
  refine ⟨script, written, ?_⟩
  rw [symbols, ← ran.env]
  rw [compiled] at completes ⊢
  have before := (c.install_installed assembly.gates).ticks history
  have ticked := before.ticked ran.valid.wired dt controls
  exact (before.tick dt controls).shows ran.valid (ticked.settled completes)

/-- After every tick that completes, whatever came before it, each name of an accepted script has at
the first outlet of its node the value that the script means for it. -/
theorem Circuit.compile_shows_meaning (accepted : (c.compile mode source).2.fault = none)
    (history : List (Float × Controls)) (dt : Float) (controls : Controls)
    (completes : (((c.compile mode source).1.ticks history).tick dt controls).2 = none) :
    let compiled := c.compile mode source
    let after := ((compiled.1.ticks history).tick dt controls).1
    ∃ script, (∀ other, Written (tokens source) other ↔ other = script) ∧
      after.Shows compiled.2.symbols (meaning script) := by
  obtain ⟨script, written, shows⟩ := c.compile_shows mode source accepted history dt controls
    completes
  refine ⟨script, fun other => ⟨fun h => h.unique written, ?_⟩, shows⟩
  rintro rfl
  exact written

/-- A bound `abs`, a division by zero, and a name that nested conditions leave as it was. -/
theorem Circuit.compile_shows_meaning_nested :
    let source := "abs = 0 - 3; x = abs / 0; if (abs) { if (x) { x = 7; } y = abs; }"
    let compiled := (Circuit.ofSeed 0).compile .atomic source
    let after := ((compiled.1.ticks [(0.5, .idle)]).tick 0.25 .idle).1
    ∃ script, (∀ other, Written (tokens source) other ↔ other = script) ∧
      after.Shows compiled.2.symbols (meaning script) :=
  Circuit.compile_shows_meaning (.ofSeed 0) .atomic _ (by decide +kernel) [(0.5, .idle)] 0.25
    .idle (by decide +kernel)

/-- Where blocks assign only to names that are bound before them, the names have the values that
ordinary branching gives them. -/
theorem Circuit.compile_shows_branching (accepted : (c.compile mode source).2.fault = none)
    (script : List Stmt) (written : Written (tokens source) script)
    (first : bindsFirst [] script) (history : List (Float × Controls)) (dt : Float)
    (controls : Controls)
    (completes : (((c.compile mode source).1.ticks history).tick dt controls).2 = none) :
    let compiled := c.compile mode source
    let after := ((compiled.1.ticks history).tick dt controls).1
    after.Shows compiled.2.symbols (execBody .empty script) := by
  obtain ⟨other, read, shows⟩ := c.compile_shows mode source accepted history dt controls
    completes
  obtain rfl := written.unique read
  rw [← meaning_eq_execBody script first]
  exact shows

/-- A taken block with a block inside that is not taken. -/
theorem Circuit.compile_shows_branching_nested :
    let source := "x = 2; y = 0; if (x > 1) { x = x + 1; if (y) { x = 9; } y = x; }"
    let compiled := (Circuit.ofSeed 0).compile .atomic source
    let after := ((compiled.1.ticks [(0.5, .idle)]).tick 0.25 .idle).1
    after.Shows compiled.2.symbols (execBody .empty (read (tokens source)).1.body) :=
  Circuit.compile_shows_branching (.ofSeed 0) .atomic _ (by decide +kernel) _
    (written_body (by decide +kernel)) (by decide +kernel) [(0.5, .idle)] 0.25 .idle
    (by decide +kernel)

end Compiling

end SignalGraph
