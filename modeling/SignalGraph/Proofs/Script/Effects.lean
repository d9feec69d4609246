import Mathlib.Data.List.Forall2
import SignalGraph.Proofs.Script.Emission

/-!
What the gates of a statement do. Names that are bound, conditions that are nested and sinks that
are called each leave the assembly as the meaning of the script says: with these values of the
names, and with one more sink for each call.
-/

namespace SignalGraph.Script

section Runs

/-- A sink that has the numbers of a call at its inlets. -/
def Realizes (gates : List Gate) (call : Call) (entry : Gate × Nat) : Prop :=
  gates[entry.2]? = some entry.1 ∧ entry.1.body = call.sink.body ∧
    entry.1.inputs (gateValues gates) = call.inputs

theorem Realizes.mono {gates later : List Gate} {call : Call} {entry : Gate × Nat}
    (h : Realizes gates call entry) (wired : WellWired gates) (grows : gates <+: later) :
    Realizes later call entry := by
  obtain ⟨found, body, inputs⟩ := h
  have bound := (List.getElem?_eq_some_iff.mp found).1
  have fits := (wired _ _ found).mono (List.take_prefix _ _)
  refine ⟨?_, body, ?_⟩
  · obtain ⟨more, rfl⟩ := grows
    rw [List.getElem?_append_left bound, found]
  · rw [fits.inputs_mono grows, inputs]

/-- Statements have been carried out: the names have these values, and new sinks stand for these
calls. -/
structure Ran (s next : Assembly) (env : Env) (calls : List Call) : Prop
    extends Grows s next where
  env : next.env = env
  sinks : ∃ added, next.sinks = s.sinks ++ added ∧
    List.Forall₂ (Realizes next.gates.toList) calls added

theorem Reads.ran {s next : Assembly} {wires : List Wire} {values : List Float}
    (h : Reads s next wires values) (valid : s.Valid) : Ran s next s.env [] :=
  ⟨h.toGrows, h.env valid, [], by rw [h.sinks, List.append_nil], .nil⟩

theorem Ran.trans {s mid next : Assembly} {env later : Env} {calls more : List Call}
    (first : Ran s mid env calls) (second : Ran mid next later more) :
    Ran s next later (calls ++ more) := by
  refine ⟨first.toGrows.trans second.toGrows, second.env, ?_⟩
  obtain ⟨added, hadded, realized⟩ := first.sinks
  obtain ⟨others, hothers, later⟩ := second.sinks
  refine ⟨added ++ others, by rw [hothers, hadded, List.append_assoc], ?_⟩
  exact List.rel_append
    (realized.imp fun _ _ h => h.mono first.valid.wired second.keeps) later

/-- Run from nothing, the sinks are those of the calls. -/
theorem Ran.realized {s : Assembly} {env : Env} {calls : List Call} (ran : Ran {} s env calls) :
    List.Forall₂ (Realizes s.gates.toList) calls (sinksOf s.gates.toList) := by
  obtain ⟨added, sinks, realized⟩ := ran.sinks
  obtain rfl : added = sinksOf s.gates.toList := sinks.symm
  exact realized

end Runs

section Conditions

/-- The condition in force is on a wire, and there is none where no condition is. -/
structure Assembly.Carries (s : Assembly) (condition : Option Wire) (conditions : List Float) :
    Prop where
  live : ∀ wire, condition = some wire → s.Live wire
  value : condition.map s.value = effective conditions

theorem Assembly.carries_none (s : Assembly) : s.Carries none [] := ⟨by simp, rfl⟩

theorem Assembly.Carries.mono {s next : Assembly} {condition : Option Wire}
    {conditions : List Float} (h : s.Carries condition conditions) (grows : Grows s next) :
    next.Carries condition conditions := by
  refine ⟨fun wire same => grows.live (h.live wire same), ?_⟩
  rw [← h.value]
  cases condition with
  | none => rfl
  | some wire => exact congrArg some (grows.value (h.live wire rfl))

/-- The wire of a condition within others carries the condition in force. -/
theorem nest_carries {s : Assembly} (valid : s.Valid) {outer : Option Wire}
    {conditions : List Float} (carries : s.Carries outer conditions) {inner : Wire}
    (live : s.Live inner) :
    let (wire, next) := (nest outer inner).run s
    Reads s next [wire] [next.value wire] ∧
      next.Carries (some wire) (conditions ++ [s.value inner]) := by
  cases outer with
  | none =>
      obtain rfl : conditions = [] := by
        by_contra nonempty
        obtain ⟨value, hvalue⟩ := effective_isSome nonempty
        simpa [hvalue] using carries.value
      refine ⟨.of_live valid (by simpa using live), by simpa using live, rfl⟩
  | some wire =>
      have outerLive := carries.live wire rfl
      have both : ∀ source ∈ [wire, inner], s.Live source := by
        simpa using ⟨outerLive, live⟩
      have reads := (Reads.of_live valid both).emit (.logic .and) rfl rfl
      cases hrun : (emit (.logic .and) [some wire, some inner]).run s with
      | mk result next =>
          simp only [List.map_cons, List.map_nil, hrun] at reads
          simp only [nest, hrun]
          have value := reads.value
          refine ⟨by rwa [value], fun other same => ?_, ?_⟩
          · obtain rfl := Option.some.inj same
            exact reads.wire_live
          · rw [Option.map_some, value, effective_append (carries.value.symm)]
            rfl

end Conditions

section Names

/-- A name is bound to a wire. -/
theorem bind_ran {s : Assembly} (valid : s.Valid) (name : String) {wire : Wire}
    (live : s.Live wire) :
    let (_, next) := (bind name wire).run s
    Ran s next (s.env.set name (s.value wire)) [] := by
  refine ⟨⟨⟨valid.wired, ?_, nodup_putEntry name wire valid.once⟩, List.prefix_refl _⟩, ?_,
    [], (List.append_nil _).symm, .nil⟩
  · intro other source mem
    rcases mem_putEntry mem with same | mem
    · rw [(Prod.mk.inj same).2]
      exact live
    · exact valid.bound other source mem
  · funext other
    show ((putEntry name wire s.symbols).lookup other).map s.value = _
    by_cases same : other = name
    · rw [same, lookup_putEntry_self, Env.set_same]
      rfl
    · rw [lookup_putEntry_ne same, Env.set_other _ _ same]
      rfl

theorem assign_run (s : Assembly) (condition : Option Wire) (name : String) (wire : Wire) :
    (assign condition name wire).run s =
      match condition, s.symbols.lookup name with
      | some test, some prior =>
          let (merged, next) := (emit (.math .select) [some test, some wire, some prior]).run s
          (bind name merged).run next
      | _, _ => (bind name wire).run s := by
  show (match condition, s.symbols.lookup name with
    | some test, some prior => do
        let merged ← emit (.math .select) [some test, some wire, some prior]
        bind name merged
    | _, _ => bind name wire : Assemble Unit).run s = _
  cases condition <;> cases s.symbols.lookup name <;> rfl

/-- Under a condition, a gate selects the new value or the earlier one. -/
theorem assign_ran {s : Assembly} (valid : s.Valid) {condition : Option Wire}
    {conditions : List Float} (carries : s.Carries condition conditions) (name : String)
    {wire : Wire} (live : s.Live wire) :
    let (_, next) := (assign condition name wire).run s
    Ran s next (s.env.set name (merge (effective conditions) (s.env name) (s.value wire))) [] := by
  rw [assign_run, ← carries.value]
  cases condition with
  | none => exact bind_ran valid name live
  | some test =>
      cases found : s.symbols.lookup name with
      | none =>
          have fresh : s.env name = none := by simp [Assembly.env, found]
          simp only [fresh]
          exact bind_ran valid name live
      | some prior =>
          -- only here a gate is made: it selects by the condition
          have priorLive := valid.bound _ _ (mem_of_lookup found)
          have all : ∀ source ∈ [test, wire, prior], s.Live source := by
            simpa using ⟨carries.live test rfl, live, priorLive⟩
          have reads := (Reads.of_live valid all).emit (.math .select) rfl rfl
          have bound : s.env name = some (s.value prior) := by simp [Assembly.env, found]
          cases hrun : (emit (.math .select) [some test, some wire, some prior]).run s with
          | mk merged next =>
              simp only [List.map_cons, List.map_nil, hrun] at reads
              have ran := (reads.ran valid).trans (bind_ran reads.valid name reads.wire_live)
              rw [reads.value, reads.env valid] at ran
              simp only [hrun, bound]
              exact ran

end Names

section Sinks

theorem trigger_reads {s : Assembly} (valid : s.Valid) {condition : Option Wire}
    {conditions : List Float} (carries : s.Carries condition conditions) :
    let (wire, next) := (trigger condition).run s
    Reads s next [wire] [(effective conditions).getD 1.0] := by
  rw [← carries.value]
  cases condition with
  | none => exact constant_reads valid 1.0
  | some wire => exact .of_live valid (by simpa using carries.live wire rfl)

theorem argument_values (value : Wire → Float) (args : List Wire) (slots : Nat) :
    (argument args slots).map (Option.map value) =
      (List.range slots).map fun slot => (args.map value)[slot]? := by
  simp only [argument, List.map_map]
  apply List.map_congr_left
  intro slot _
  simp only [Function.comp_apply, List.getElem?_map]

theorem mem_argument {args : List Wire} {slots : Nat} {wire : Wire}
    (h : some wire ∈ argument args slots) : wire ∈ args := by
  obtain ⟨slot, -, found⟩ := List.mem_map.mp h
  exact List.mem_of_getElem? found

/-- Sources of a gate: their number, that they are live, and what they carry. -/
structure Assembly.Feeds (s : Assembly) (sources : List (Option Wire)) (slots : Nat)
    (inputs : Inputs) : Prop where
  slots : sources.length = slots
  live : ∀ wire, some wire ∈ sources → s.Live wire
  inputs : sources.map (Option.map s.value) = inputs

/-- The inlets of a sink read the trigger and the arguments of its call. -/
theorem Sink.sources_feed (sink : Sink) {s : Assembly} (valid : s.Valid)
    {condition : Option Wire} {conditions : List Float}
    (carries : s.Carries condition conditions) {args : List Wire}
    (live : ∀ wire ∈ args, s.Live wire) :
    let (sources, next) := (sink.sources condition args).run s
    Reads s next [] [] ∧ next.Feeds sources sink.body.inlets.length
      (Call.inputs { sink, conditions, args := args.map s.value }) := by
  have reads := trigger_reads valid carries
  cases hrun : (trigger condition).run s with
  | mk wire next =>
      simp only [hrun] at reads
      have kept : args.map next.value = args.map s.value :=
        List.map_congr_left fun arg mem => reads.toGrows.value (live arg mem)
      have argumentLive : ∀ slots source, some source ∈ argument args slots → next.Live source :=
        fun slots source mem => reads.toGrows.live (live source (mem_argument mem))
      have nothing : Reads s next [] [] :=
        ⟨reads.toGrows, reads.symbols, reads.sinks, by simp, rfl⟩
      cases sink with
      | beep =>
          simp only [Sink.sources, stateM_run_bind, hrun]
          refine ⟨nothing, by simp [argument, Sink.body, Body.inlets], ?_, ?_⟩
          · intro source mem
            rcases List.mem_cons.mp mem with same | mem
            · obtain rfl := Option.some.inj same
              exact reads.wire_live
            · exact argumentLive 2 source mem
          · rw [List.map_cons, argument_values, kept, Option.map_some, reads.value]
            rfl
      | color =>
          refine ⟨.nil valid, by simp [argument, Sink.body, Body.inlets], ?_, ?_⟩
          · exact fun source mem => live source (mem_argument mem)
          · exact argument_values s.value args 3
      | screen =>
          by_cases few : args.length < 6
          · simp only [Sink.sources, few, ↓reduceIte, stateM_run_bind, hrun]
            refine ⟨nothing, by simp [argument, Sink.body, Body.inlets], ?_, ?_⟩
            · intro source mem
              rcases List.mem_or_eq_of_mem_set mem with mem | same
              · exact argumentLive 7 source mem
              · obtain rfl := Option.some.inj same
                exact reads.wire_live
            · rw [List.map_set, argument_values, kept, Option.map_some, reads.value]
              simp only [Call.inputs, List.length_map, few, ↓reduceIte]
              rfl
          · simp only [Sink.sources, few, ↓reduceIte]
            refine ⟨.nil valid, by simp [argument, Sink.body, Body.inlets], ?_, ?_⟩
            · exact fun source mem => live source (mem_argument mem)
            · simp only [Call.inputs, List.length_map, few, ↓reduceIte]
              exact argument_values s.value args 7

/-- The gate of a sink stands for its call. -/
theorem emit_sink_ran (sink : Sink) {s : Assembly} (valid : s.Valid)
    {sources : List (Option Wire)} {call : Call} (same : call.sink = sink)
    (feeds : s.Feeds sources sink.body.inlets.length call.inputs) :
    let (_, next) := (emit sink.body sources).run s
    Ran s next s.env [call] := by
  let gate := s.gate sink.body sources
  have fits : gate.Fits s.gates.toList := ⟨.inr ⟨sink, rfl⟩, feeds.slots, feeds.live⟩
  have grows := emit_grows valid fits
  have gates : (s.gates.push gate).toList = s.gates.toList ++ [gate] := Array.toList_push
  refine ⟨grows, grows.env valid rfl, [(gate, s.gates.toList.length)], ?_, ?_⟩
  · show sinksOf (s.gates.push gate).toList = _
    rw [gates, sinksOf_concat]
    cases sink <;> rfl
  · refine .cons ⟨?_, congrArg Sink.body same.symm, ?_⟩ .nil
    · show (s.gates.push gate).toList[s.gates.toList.length]? = some gate
      rw [gates, List.getElem?_concat_length]
    · show gate.inputs (gateValues (s.gates.push gate).toList) = call.inputs
      rw [gates, fits.inputs_mono (List.prefix_append _ _)]
      exact feeds.inputs

theorem callSink_ran (sink : Sink) {s : Assembly} (valid : s.Valid) {condition : Option Wire}
    {conditions : List Float} (carries : s.Carries condition conditions) {args : List Wire}
    (live : ∀ wire ∈ args, s.Live wire) :
    let (_, next) := (callSink sink condition args).run s
    Ran s next s.env [{ sink, conditions, args := args.map s.value }] := by
  have fed := sink.sources_feed valid carries live
  cases hsources : (sink.sources condition args).run s with
  | mk sources mid =>
      simp only [hsources] at fed
      have placed := emit_sink_ran sink fed.1.valid rfl fed.2
      cases hgate : (emit sink.body sources).run mid with
      | mk wire next =>
          simp only [hgate] at placed
          have ran := (fed.1.ran valid).trans placed
          rw [fed.1.env valid] at ran
          simp only [callSink, stateM_run_bind, hsources, hgate]
          by_cases extra : sink.limit < args.length
          · have warned := warn_reads ran.valid
              (.extraArguments sink.body.name (args.length - sink.limit))
            have all := ran.trans (warned.ran ran.valid)
            rw [ran.env] at all
            simp only [extra, ↓reduceIte]
            exact all
          · simp only [extra, ↓reduceIte]
            exact ran

end Sinks

end SignalGraph.Script
