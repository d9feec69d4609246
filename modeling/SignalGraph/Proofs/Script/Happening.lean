import SignalGraph.Proofs.Script.Reading
import SignalGraph.Proofs.Script.Statements
import SignalGraph.Proofs.Script.Unambiguous

/-!
What happens to names while a script is read from left to right: they are read, bound and called.
A happening is worth a warning or not, as the names that have been bound before it say. The grammar
says where the names stand in the text, and the assembly warns of just these happenings.
-/

namespace SignalGraph.Script

section Happenings

inductive Happening where
  | read (token : Token)
  | bound (name : String)
  | called (callee : Token) (count : Nat)
deriving Repr, DecidableEq

/-- What happens in an expression. The word of an absolute value is not read as a name. -/
def Expr.happenings : Expr → List Happening
  | .number _ => []
  | .name token => [.read token]
  | .absolute inner => inner.happenings
  | .binary _ left right => left.happenings ++ right.happenings

mutual

/-- What happens in a statement. A name is bound when its value has been read, and a sink is called
when its arguments have been. -/
def Stmt.happenings : Stmt → List Happening
  | .declare name value => value.happenings ++ [.bound name]
  | .assign name value => value.happenings ++ [.bound name]
  | .call callee args => args.flatMap Expr.happenings ++ [.called callee args.length]
  | .when condition body => condition.happenings ++ bodyHappenings body

def bodyHappenings : List Stmt → List Happening
  | [] => []
  | stmt :: stmts => stmt.happenings ++ bodyHappenings stmts

end

/-- How many arguments the sink of a name takes. -/
def limitOf? (name : String) : Option Nat :=
  match name with
  | "beep" => some 2
  | "ColorNode" => some 3
  | "screen" => some 7
  | _ => none

/-- The sink of a name as warnings call it. -/
def displayName (name : String) : String :=
  match name with
  | "beep" => "Beep Output"
  | "ColorNode" => "Color Output"
  | "screen" => "Screen"
  | _ => name

/-- The warning that a happening is worth after others. -/
def Happening.warning? (before : List Happening) : Happening → Option Warning
  | .read token => if .bound token.text ∈ before then none else some (.unbound token)
  | .bound _ => none
  | .called callee count =>
      match limitOf? callee.text with
      | none => some (.unknownSink callee)
      | some limit =>
          if limit < count then some (.extraArguments (displayName callee.text) (count - limit))
          else none

/-- The warnings that happenings are worth, one after the other. -/
def warningsAfter (before : List Happening) : List Happening → List Warning
  | [] => []
  | happening :: rest =>
      (happening.warning? before).toList ++ warningsAfter (before ++ [happening]) rest

/-- Nothing is wrong with a happening: a name is read that is bound, or a sink is called that takes
all its arguments. -/
def Happening.Clean (before : List Happening) : Happening → Prop
  | .read token => .bound token.text ∈ before
  | .bound _ => True
  | .called callee count => ∃ limit, limitOf? callee.text = some limit ∧ count ≤ limit

variable {before xs ys : List Happening} {happening : Happening}

theorem warningsAfter_append (before xs ys : List Happening) :
    warningsAfter before (xs ++ ys) =
      warningsAfter before xs ++ warningsAfter (before ++ xs) ys := by
  induction xs generalizing before with
  | nil => simp [warningsAfter]
  | cons x xs ih => simp [warningsAfter, ih]

theorem Happening.warning?_eq_none : happening.warning? before = none ↔ happening.Clean before := by
  cases happening with
  | read token => simp [Happening.warning?, Happening.Clean]
  | bound name => simp [Happening.warning?, Happening.Clean]
  | called callee count =>
      cases limited : limitOf? callee.text with
      | none => simp [Happening.warning?, Happening.Clean, limited]
      | some limit => simp [Happening.warning?, Happening.Clean, limited]

/-- There are no warnings when nothing is wrong at any place. -/
theorem warningsAfter_eq_nil : warningsAfter before xs = [] ↔
    ∀ early happening late, xs = early ++ happening :: late →
      happening.Clean (before ++ early) := by
  induction xs generalizing before with
  | nil => simp [warningsAfter]
  | cons x xs ih =>
      rw [warningsAfter, List.append_eq_nil_iff, Option.toList_eq_nil_iff,
        Happening.warning?_eq_none, ih]
      constructor
      · rintro ⟨first, rest⟩ early happening late split
        cases early with
        | nil =>
            obtain ⟨rfl, -⟩ := List.cons.inj split
            rwa [List.append_nil]
        | cons y early =>
            rw [List.cons_append] at split
            obtain ⟨rfl, behind⟩ := List.cons.inj split
            rw [List.append_cons]
            exact rest early happening late behind
      · intro clean
        refine ⟨by simpa using clean [] x xs rfl, fun early happening late split => ?_⟩
        rw [← List.append_cons]
        exact clean (x :: early) happening late (by rw [split, List.cons_append])

end Happenings

section Places

def Happening.read? : Happening → Option Token
  | .read token => some token
  | _ => none

def Happening.called? : Happening → Option Token
  | .called callee _ => some callee
  | _ => none

/-- The names that are read, and those that are called, stand in their order in front of the rest of
the tokens. -/
def Stand (happenings : List Happening) (ts rest : List Token) : Prop :=
  ∃ used, ts = used ++ rest ∧ (happenings.filterMap Happening.read?).Sublist used ∧
    (happenings.filterMap Happening.called?).Sublist used

variable {xs ys : List Happening} {ts mid rest : List Token}

theorem Stand.refl (ts : List Token) : Stand [] ts ts := ⟨[], rfl, .slnil, .slnil⟩

theorem Stand.append (h : Stand xs ts mid) (h' : Stand ys mid rest) : Stand (xs ++ ys) ts rest := by
  obtain ⟨used, rfl, reads, calls⟩ := h
  obtain ⟨more, rfl, reads', calls'⟩ := h'
  refine ⟨used ++ more, (List.append_assoc ..).symm, ?_, ?_⟩
  · rw [List.filterMap_append]
    exact reads.append reads'
  · rw [List.filterMap_append]
    exact calls.append calls'

/-- Tokens in front may be passed over. -/
theorem Stand.cons (h : Stand xs ts rest) (t : Token) : Stand xs (t :: ts) rest := by
  obtain ⟨used, rfl, reads, calls⟩ := h
  exact ⟨t :: used, rfl, reads.cons t, calls.cons t⟩

/-- Tokens behind may be passed over. -/
theorem Stand.concat {t : Token} (h : Stand xs ts (t :: rest)) : Stand xs ts rest := by
  simpa using h.append ((Stand.refl rest).cons t)

theorem Stand.read (t : Token) (ts : List Token) : Stand [.read t] (t :: ts) ts :=
  ⟨[t], rfl, .refl _, List.nil_sublist _⟩

theorem Stand.bound (h : Stand xs ts rest) (name : String) : Stand (xs ++ [.bound name]) ts rest :=
  h.append ⟨[], rfl, .slnil, .slnil⟩

/-- A callee stands in front of its arguments, in which nothing is called. -/
theorem Stand.called (h : Stand xs ts rest) (silent : xs.filterMap Happening.called? = [])
    (callee : Token) (count : Nat) : Stand (xs ++ [.called callee count]) (callee :: ts) rest := by
  obtain ⟨used, rfl, reads, -⟩ := h
  refine ⟨callee :: used, rfl, ?_, ?_⟩
  · rw [List.filterMap_append, List.filterMap_cons_none rfl, List.filterMap_nil, List.append_nil]
    exact reads.cons callee
  · rw [List.filterMap_append, silent]
    exact (List.nil_sublist used).cons_cons callee

theorem Expr.calls_nothing (e : Expr) : e.happenings.filterMap Happening.called? = [] := by
  induction e with
  | number value => rfl
  | name token => rfl
  | absolute inner ih => exact ih
  | binary op left right ihl ihr =>
      rw [Expr.happenings, List.filterMap_append, ihl, ihr, List.append_nil]

mutual

theorem TermAt.stand {absBound : Bool} {ts rest : List Token} {e : Expr} :
    TermAt absBound ts e rest → Stand e.happenings ts rest
  | .number _ _ => (Stand.refl _).cons _
  | .group _ _ inside _ => inside.stand.concat.cons _
  | .absolute _ _ _ _ inside _ => (inside.stand.concat.cons _).cons _
  | .name _ _ _ => .read _ _

theorem ChainAt.stand {absBound : Bool} {ts rest : List Token} {e : Expr} :
    ChainAt absBound ts e rest → Stand e.happenings ts rest
  | .mk head links => by
      obtain ⟨more, happenings, stand⟩ := links.stand
      rw [happenings]
      exact head.stand.append stand

/-- A chain goes on with what happens in its further operands. -/
theorem LinksAt.stand {absBound : Bool} {ts rest : List Token} {left value : Expr} :
    LinksAt absBound left ts value rest →
      ∃ more, value.happenings = left.happenings ++ more ∧ Stand more ts rest
  | .done _ => ⟨[], (List.append_nil _).symm, .refl _⟩
  | .link _ operand links => by
      obtain ⟨more, happenings, stand⟩ := links.stand
      refine ⟨_, ?_, (operand.stand.append stand).cons _⟩
      rw [happenings, Expr.happenings, List.append_assoc]

end

theorem ArgsAfter.stand {absBound : Bool} {args : List Expr}
    (h : ArgsAfter absBound ts args rest) :
    Stand (args.flatMap Expr.happenings) ts rest := by
  induction h with
  | close closes => exact (Stand.refl _).cons _
  | more comma first others ih => exact (first.stand.append ih).cons _

theorem ArgsAt.stand {absBound : Bool} {args : List Expr} (h : ArgsAt absBound ts args rest) :
    Stand (args.flatMap Expr.happenings) ts rest := by
  cases h with
  | none closes => exact (Stand.refl _).cons _
  | some given first others => exact first.stand.append others.stand

theorem IdleAt.stand (h : IdleAt ts rest) : Stand [] ts rest := by
  cases h with
  | declaration => exact ((Stand.refl _).cons _).cons _
  | name => exact (Stand.refl _).cons _
  | other => exact (Stand.refl _).cons _

/-- A call, in front of the parenthesis that opens its arguments. -/
theorem ArgsAt.stand_called {absBound : Bool} {args : List Expr}
    (h : ArgsAt absBound ts args rest) (callee opening : Token) :
    Stand (Stmt.call callee args).happenings (callee :: opening :: ts) rest := by
  refine (h.stand.cons opening).called ?_ callee args.length
  rw [List.filterMap_flatMap]
  simp [Expr.calls_nothing]

mutual

theorem StmtAt.stand {absBound : Bool} {ts rest : List Token} {stmt : Stmt} :
    StmtAt absBound ts stmt rest → Stand stmt.happenings ts rest
  | .declare _ _ _ init => (((init.stand.bound _).cons _).cons _).cons _
  | .assign _ _ given => ((given.stand.bound _).cons _).cons _
  | .call _ _ inside => inside.stand_called _ _
  | .create _ _ _ inside => (inside.stand_called _ _).cons _
  | .when _ _ tested _ _ inside _ =>
      ((tested.stand.concat.concat.append inside.stand.concat).cons _).cons _

theorem BodyAt.stand {absBound : Bool} {ts rest : List Token} {body : List Stmt} :
    BodyAt absBound ts body rest → Stand (bodyHappenings body) ts rest
  | .stop _ => .refl _
  | .idle skipped others => skipped.stand.append others.stand
  | .cons first others => first.stand.append others.stand

end

/-- Whatever is read or called in a script stands in its text, in this order. -/
theorem Written.stand {script : List Stmt} (written : Written ts script) :
    ((bodyHappenings script).filterMap Happening.read?).Sublist ts ∧
      ((bodyHappenings script).filterMap Happening.called?).Sublist ts := by
  obtain ⟨used, rfl, reads, calls⟩ := BodyAt.stand written
  rw [List.append_nil]
  exact ⟨reads, calls⟩

end Places

section Assemblies

/-- An assembly has warned of these happenings, and has bound the names that they bind. -/
structure Assembly.Heard (s : Assembly) (happenings : List Happening) : Prop where
  warnings : s.warnings = warningsAfter [] happenings
  bound : ∀ name, (s.symbols.lookup name).isSome ↔ .bound name ∈ happenings

/-- A program in which these things happen. -/
def Tells {α : Type} (program : Assemble α) (happenings : List Happening) : Prop :=
  ∀ (s : Assembly) (before : List Happening), s.Heard before →
    (program.run s).2.Heard (before ++ happenings)

variable {α β : Type} {xs ys : List Happening}

/-- Nothing happens in a program that changes neither warnings nor names. -/
theorem Tells.of_same {program : Assemble α}
    (warnings : ∀ s, (program.run s).2.warnings = s.warnings)
    (symbols : ∀ s, (program.run s).2.symbols = s.symbols) : Tells program [] := by
  intro s before heard
  rw [List.append_nil]
  exact ⟨(warnings s).trans heard.warnings, fun name => symbols s ▸ heard.bound name⟩

theorem Tells.pure (a : α) : Tells (Pure.pure a) [] := .of_same (fun _ => rfl) fun _ => rfl

theorem Tells.bind {program : Assemble α} {f : α → Assemble β} (h : Tells program xs)
    (h' : ∀ a, Tells (f a) ys) : Tells (program >>= f) (xs ++ ys) := by
  intro s before heard
  rw [← List.append_assoc]
  exact h' (program.run s).1 (program.run s).2 _ (h s before heard)

theorem Tells.bind_quiet {program : Assemble α} {f : α → Assemble β} (h : Tells program xs)
    (quiet : ∀ a, Tells (f a) []) : Tells (program >>= f) xs := by
  have both := h.bind quiet
  rwa [List.append_nil] at both

theorem emit_tells (body : Body) (sources : List (Option Wire)) : Tells (emit body sources) [] :=
  .of_same (fun _ => rfl) fun _ => rfl

theorem constant_tells (value : Float) : Tells (constant value) [] := emit_tells _ _

/-- A warning that a happening is worth, which binds no name. -/
theorem Assembly.Heard.warn {s : Assembly} {before : List Happening} {happening : Happening}
    {warning : Warning} (heard : s.Heard before)
    (worth : happening.warning? before = some warning) :
    ((warn warning).run s).2.Heard (before ++ [happening]) := by
  refine ⟨?_, fun name => ?_⟩
  · change s.warnings ++ [warning] = _
    rw [heard.warnings, warningsAfter_append]
    simp [warningsAfter, worth]
  · rw [List.mem_append, ← heard.bound]
    have other : .bound name ∉ [happening] := by
      cases happening <;> simp [Happening.warning?] at worth ⊢
    exact (or_iff_left other).symm

/-- A happening that is worth no warning and binds no name. -/
theorem Assembly.Heard.quiet {s : Assembly} {before : List Happening} {happening : Happening}
    (heard : s.Heard before) (clean : happening.Clean before)
    (other : ∀ name, happening ≠ .bound name) : s.Heard (before ++ [happening]) := by
  refine ⟨?_, fun name => ?_⟩
  · rw [heard.warnings, warningsAfter_append]
    simp [warningsAfter, Happening.warning?_eq_none.mpr clean]
  · rw [List.mem_append, ← heard.bound, List.mem_singleton]
    exact (or_iff_left (other name).symm).symm

theorem bind_tells (name : String) (wire : Wire) : Tells (bind name wire) [.bound name] := by
  intro s before heard
  refine ⟨?_, fun other => ?_⟩
  · change s.warnings = _
    rw [heard.warnings, warningsAfter_append]
    simp [warningsAfter, Happening.warning?]
  · change ((putEntry name wire s.symbols).lookup other).isSome ↔ _
    rw [List.mem_append, ← heard.bound]
    by_cases same : other = name
    · simp [same, lookup_putEntry_self]
    · simp [lookup_putEntry_ne same, same]

theorem readName_tells (token : Token) : Tells (readName token) [.read token] := by
  intro s before heard
  have bound := heard.bound token.text
  rw [readName_run]
  cases found : s.symbols.lookup token.text with
  | some wire =>
      rw [found] at bound
      exact heard.quiet (bound.mp rfl) (by simp)
  | none =>
      have unbound : .bound token.text ∉ before := fun mem => by
        rw [found] at bound
        cases bound.mpr mem
      have worth : Happening.warning? before (.read token) = some (.unbound token) :=
        if_neg unbound
      simpa using constant_tells 0.0 _ _ (heard.warn worth)

theorem Expr.emit_tells (e : Expr) : Tells e.emit e.happenings := by
  induction e with
  | number value => exact constant_tells value
  | name token => exact readName_tells token
  | absolute inner ih => exact ih.bind_quiet fun _ => Script.emit_tells _ _
  | binary op left right ihl ihr =>
      exact ihl.bind fun _ => ihr.bind_quiet fun _ => Script.emit_tells _ _

theorem emitAll_tells (es : List Expr) : Tells (emitAll es) (es.flatMap Expr.happenings) := by
  induction es with
  | nil => exact .pure []
  | cons e es ih => exact e.emit_tells.bind fun _ => ih.bind_quiet fun _ => .pure _

theorem emitAll_length (es : List Expr) (s : Assembly) :
    ((emitAll es).run s).1.length = es.length := by
  induction es generalizing s with
  | nil => rfl
  | cons e es ih => exact congrArg Nat.succ (ih _)

theorem nest_tells (outer : Option Wire) (inner : Wire) : Tells (nest outer inner) [] := by
  cases outer with
  | none => exact .pure inner
  | some wire => exact emit_tells _ _

theorem assign_tells (condition : Option Wire) (name : String) (wire : Wire) :
    Tells (assign condition name wire) [.bound name] := by
  intro s before heard
  rw [assign_run]
  cases condition with
  | none => exact bind_tells name wire s before heard
  | some test =>
      cases s.symbols.lookup name with
      | none => exact bind_tells name wire s before heard
      | some prior =>
          exact ((emit_tells _ _).bind fun merged => bind_tells name merged) s before heard

theorem trigger_tells (condition : Option Wire) : Tells (trigger condition) [] := by
  cases condition with
  | none => exact constant_tells 1.0
  | some wire => exact .pure wire

theorem Sink.sources_tells (sink : Sink) (condition : Option Wire) (args : List Wire) :
    Tells (sink.sources condition args) [] := by
  cases sink with
  | beep => exact (trigger_tells condition).bind fun _ => .pure _
  | color => exact .pure _
  | screen =>
      rw [Sink.sources]
      split
      · exact (trigger_tells condition).bind fun _ => .pure _
      · exact .pure _

/-- The sinks are the names that take arguments, and no others. -/
theorem limitOf?_eq (name : String) : limitOf? name = (Sink.ofName? name).map Sink.limit := by
  unfold limitOf? Sink.ofName?
  split
  · rfl
  · rfl
  · rfl
  · simp_all

theorem displayName_eq {name : String} {sink : Sink} (found : Sink.ofName? name = some sink) :
    displayName name = sink.body.name := by
  unfold Sink.ofName? at found
  split at found <;> cases found <;> rfl

theorem call_tells (condition : Option Wire) (callee : Token) (args : List Wire) :
    Tells (call condition callee args) [.called callee args.length] := by
  have limited := limitOf?_eq callee.text
  unfold call
  cases found : Sink.ofName? callee.text with
  | none =>
      intro s before heard
      rw [found] at limited
      exact heard.warn (by simp [Happening.warning?, limited])
  | some sink =>
      rw [found] at limited
      refine (sink.sources_tells condition args).bind fun sources =>
        (emit_tells sink.body sources).bind fun _ => ?_
      intro s before heard
      by_cases extra : sink.limit < args.length
      · rw [if_pos extra]
        exact heard.warn (by simp [Happening.warning?, limited, extra, displayName_eq found])
      · rw [if_neg extra]
        exact heard.quiet ⟨sink.limit, limited, Nat.not_lt.mp extra⟩ (by simp)

mutual

theorem Stmt.emit_tells (condition : Option Wire) :
    ∀ stmt : Stmt, Tells (stmt.emit condition) stmt.happenings
  | .declare name value => value.emit_tells.bind fun wire => bind_tells name wire
  | .assign name value => value.emit_tells.bind fun wire => assign_tells condition name wire
  | .call callee args => by
      intro s before heard
      have called := call_tells condition callee ((emitAll args).run s).1 _ _
        (emitAll_tells args s before heard)
      rw [emitAll_length, List.append_assoc] at called
      exact called
  | .when inner body =>
      inner.emit_tells.bind fun wire =>
        (nest_tells condition wire).bind fun effective => emitBody_tells (some effective) body

theorem emitBody_tells (condition : Option Wire) :
    ∀ body : List Stmt, Tells (emitBody condition body) (bodyHappenings body)
  | [] => .pure ()
  | stmt :: stmts => (stmt.emit_tells condition).bind fun _ => emitBody_tells condition stmts

end

theorem Assembly.heard_nothing : Assembly.Heard {} [] := ⟨rfl, by simp⟩

/-- A script that is accepted is warned of just what happens in it. -/
theorem compile_heard {source : String} (accepted : (compile source).fault = none) :
    ∃ script, Written (tokens source) script ∧
      (compile source).assembly.Heard (bodyHappenings script) := by
  obtain ⟨script, written, assembled⟩ := compile_assembled accepted
  refine ⟨script, written, ?_⟩
  rw [assembled]
  exact emitBody_tells none script {} [] Assembly.heard_nothing

end Assemblies

end SignalGraph.Script
