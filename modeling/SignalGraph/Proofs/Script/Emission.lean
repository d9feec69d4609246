import SignalGraph.Proofs.Entries
import SignalGraph.Proofs.Script.Gates
import SignalGraph.Proofs.Script.Meaning

/-!
What the gates of an expression compute. They are appended to a well-formed assembly, where all
earlier wires keep their values, and the wire that comes back carries the value of the expression.
-/

namespace SignalGraph.Script

section Assemblies

theorem stateM_run_bind {σ α β : Type} (action : StateM σ α) (next : α → StateM σ β) (s : σ) :
    (action >>= next).run s =
      let (a, s) := action.run s
      (next a).run s := rfl

theorem stateM_run_pure {σ α : Type} (a : α) (s : σ) : (pure a : StateM σ α).run s = (a, s) := rfl

def Assembly.Live (s : Assembly) (wire : Wire) : Prop := LiveIn s.gates.toList wire

/-- The value that a wire carries. -/
def Assembly.value (s : Assembly) (wire : Wire) : Float :=
  (gateValues s.gates.toList).getD wire 0.0

/-- The values of the names that are bound to a wire. -/
def Assembly.env (s : Assembly) : Env := fun name => (s.symbols.lookup name).map s.value

def Assembly.sinks (s : Assembly) : List (Gate × Nat) := sinksOf s.gates.toList

structure Assembly.Valid (s : Assembly) : Prop where
  wired : WellWired s.gates.toList
  bound : ∀ name wire, (name, wire) ∈ s.symbols → s.Live wire
  once : (s.symbols.map Prod.fst).Nodup

theorem Assembly.empty_valid : Assembly.Valid {} :=
  ⟨fun _ _ found => by simp at found, fun _ _ mem => by simp at mem, List.nodup_nil⟩

/-- A valid assembly that has come from another one by more gates. -/
structure Grows (s next : Assembly) : Prop where
  valid : next.Valid
  keeps : s.gates.toList <+: next.gates.toList

theorem Grows.refl {s : Assembly} (valid : s.Valid) : Grows s s := ⟨valid, List.prefix_refl _⟩

theorem Grows.trans {s mid next : Assembly} (first : Grows s mid) (second : Grows mid next) :
    Grows s next := ⟨second.valid, first.keeps.trans second.keeps⟩

theorem Grows.live {s next : Assembly} (h : Grows s next) {wire : Wire} (live : s.Live wire) :
    next.Live wire := LiveIn.mono live h.keeps

theorem Grows.value {s next : Assembly} (h : Grows s next) {wire : Wire} (live : s.Live wire) :
    next.value wire = s.value wire := LiveIn.value_mono live h.keeps

/-- Without a new name, the names keep their values. -/
theorem Grows.env {s next : Assembly} (h : Grows s next) (valid : s.Valid)
    (symbols : next.symbols = s.symbols) : next.env = s.env := by
  funext name
  simp only [Assembly.env, symbols]
  cases found : s.symbols.lookup name with
  | none => rfl
  | some wire => exact congrArg some (h.value (valid.bound name wire (mem_of_lookup found)))

end Assemblies

section Expressions

/-- Some wires of a grown assembly carry these values; names and sinks are as they were. -/
structure Reads (s next : Assembly) (wires : List Wire) (values : List Float) : Prop
    extends Grows s next where
  symbols : next.symbols = s.symbols
  sinks : next.sinks = s.sinks
  live : ∀ wire ∈ wires, next.Live wire
  values : wires.map next.value = values

theorem Reads.of_live {s : Assembly} (valid : s.Valid) {wires : List Wire}
    (live : ∀ wire ∈ wires, s.Live wire) : Reads s s wires (wires.map s.value) :=
  ⟨.refl valid, rfl, rfl, live, rfl⟩

theorem Reads.nil {s : Assembly} (valid : s.Valid) : Reads s s [] [] :=
  .of_live valid (by simp)

theorem Reads.env {s next : Assembly} {wires : List Wire} {values : List Float}
    (h : Reads s next wires values) (valid : s.Valid) : next.env = s.env :=
  h.toGrows.env valid h.symbols

theorem Reads.append {s mid next : Assembly} {wires more : List Wire} {values others : List Float}
    (first : Reads s mid wires values) (second : Reads mid next more others) :
    Reads s next (wires ++ more) (values ++ others) where
  toGrows := first.toGrows.trans second.toGrows
  symbols := second.symbols.trans first.symbols
  sinks := second.sinks.trans first.sinks
  live := by
    intro wire mem
    rcases List.mem_append.mp mem with mem | mem
    · exact second.toGrows.live (first.live wire mem)
    · exact second.live wire mem
  values := by
    have kept : wires.map next.value = wires.map mid.value :=
      List.map_congr_left fun wire mem => second.toGrows.value (first.live wire mem)
    rw [List.map_append, kept, first.values, second.values]

/-- The value of the one wire that was read. -/
theorem Reads.value {s next : Assembly} {wire : Wire} {value : Float}
    (h : Reads s next [wire] [value]) : next.value wire = value := by
  have values := h.values
  simpa using values

theorem Reads.wire_live {s next : Assembly} {wire : Wire} {values : List Float}
    (h : Reads s next [wire] values) : next.Live wire := h.live wire List.mem_cons_self

/-- What is emitted next is placed at the cursor. -/
def Assembly.gate (s : Assembly) (body : Body) (sources : List (Option Wire)) : Gate :=
  { body, sources, spot := s.cursor }

theorem emit_gates (s : Assembly) (body : Body) (sources : List (Option Wire)) :
    ((emit body sources).run s).2.gates.toList = s.gates.toList ++ [s.gate body sources] :=
  Array.toList_push

/-- A gate behind a valid assembly that fits it. -/
theorem emit_grows {s : Assembly} (valid : s.Valid) {body : Body} {sources : List (Option Wire)}
    (fits : (s.gate body sources).Fits s.gates.toList) :
    let (_, next) := (emit body sources).run s
    Grows s next := by
  have gates := emit_gates s body sources
  have keeps : s.gates.toList <+: ((emit body sources).run s).2.gates.toList := by
    rw [gates]
    exact List.prefix_append _ _
  refine ⟨⟨?_, ?_, valid.once⟩, keeps⟩
  · show WellWired ((emit body sources).run s).2.gates.toList
    rw [gates]
    exact valid.wired.concat fits
  · intro name wire mem
    exact LiveIn.mono (valid.bound name wire mem) keeps

/-- A gate without state puts out its result on the wires that it reads. -/
theorem Reads.emit {s mid : Assembly} {wires : List Wire} {values : List Float}
    (h : Reads s mid wires values) (body : Body) (pure : body.isPure)
    (slots : wires.length = body.inlets.length) :
    let (wire, next) := (emit body (wires.map some)).run mid
    Reads s next [wire] [body.result (values.map some)] := by
  let gate := mid.gate body (wires.map some)
  have fits : gate.Fits mid.gates.toList := by
    refine ⟨.inl pure, (List.length_map _).trans slots, ?_⟩
    intro wire mem
    obtain ⟨source, source_mem, same⟩ := List.mem_map.mp mem
    obtain rfl : source = wire := Option.some.inj same
    exact h.live source source_mem
  have grows := emit_grows h.valid fits
  have gates : (mid.gates.push gate).toList = mid.gates.toList ++ [gate] := Array.toList_push
  have size : mid.gates.toList.length = mid.gates.size := rfl
  have seen : gate.inputs (gateValues mid.gates.toList) = values.map some := by
    rw [← h.values]
    simp only [Gate.inputs, gate, Assembly.gate, List.map_map]
    rfl
  refine ⟨h.toGrows.trans grows, h.symbols, ?_, ?_, ?_⟩
  · show sinksOf (mid.gates.push gate).toList = s.sinks
    have silent : gate.body.isSink = false := Body.isSink_of_isPure pure
    rw [gates, sinksOf_concat, silent]
    exact (List.append_nil _).trans h.sinks
  · intro wire mem
    obtain rfl := List.mem_singleton.mp mem
    refine ⟨gate, ?_, pure⟩
    show (mid.gates.push gate).toList[mid.gates.size]? = some gate
    rw [gates, ← size, List.getElem?_concat_length]
  · show [(gateValues (mid.gates.push gate).toList).getD mid.gates.size 0.0] = _
    rw [gates, gateValues_concat, ← size, ← gateValues_length,
      List.getD_append_right _ _ _ _ (Nat.le_refl _), Nat.sub_self]
    exact congrArg (fun inputs => [body.result inputs]) seen

theorem constant_reads {s : Assembly} (valid : s.Valid) (value : Float) :
    let (wire, next) := (constant value).run s
    Reads s next [wire] [value] :=
  (Reads.nil valid).emit (.constant value) rfl rfl

theorem warn_reads {s : Assembly} (valid : s.Valid) (warning : Warning) :
    let (_, next) := (warn warning).run s
    Reads s next [] [] :=
  ⟨⟨⟨valid.wired, valid.bound, valid.once⟩, List.prefix_refl _⟩, rfl, rfl, by simp, rfl⟩

theorem readName_run (s : Assembly) (token : Token) :
    (readName token).run s =
      match s.symbols.lookup token.text with
      | some wire => (wire, s)
      | none => (constant 0.0).run ((warn (.unbound token)).run s).2 := by
  show (match s.symbols.lookup token.text with
    | some wire => pure wire
    | none => do
        warn (.unbound token)
        constant 0.0 : Assemble Wire).run s = _
  cases s.symbols.lookup token.text <;> rfl

theorem readName_reads {s : Assembly} (valid : s.Valid) (token : Token) :
    let (wire, next) := (readName token).run s
    Reads s next [wire] [(s.env token.text).getD 0.0] := by
  rw [readName_run]
  simp only [Assembly.env]
  cases found : s.symbols.lookup token.text with
  | some wire =>
      exact .of_live valid (by
        intro other mem
        obtain rfl := List.mem_singleton.mp mem
        exact valid.bound _ _ (mem_of_lookup found))
  | none =>
      have warned := warn_reads valid (.unbound token)
      exact warned.append (constant_reads warned.valid 0.0)

theorem Operator.body_result (op : Operator) (a b : Float) :
    op.body.result [some a, some b] = op.apply a b := by
  cases op <;> rfl

/-- The gates of an expression compute its value. -/
theorem Expr.emit_reads (e : Expr) {s : Assembly} (valid : s.Valid) :
    let (wire, next) := e.emit.run s
    Reads s next [wire] [e.value s.env] := by
  induction e generalizing s with
  | number value => exact constant_reads valid value
  | name token => exact readName_reads valid token
  | absolute inner ih =>
      cases hinner : inner.emit.run s with
      | mk wire mid =>
          have h := ih valid
          simp only [hinner] at h
          simp only [Expr.emit, stateM_run_bind, hinner]
          exact h.emit (.math .abs) rfl rfl
  | binary op left right ihl ihr =>
      cases hleft : left.emit.run s with
      | mk first afterLeft =>
          have hl := ihl valid
          simp only [hleft] at hl
          cases hright : right.emit.run afterLeft with
          | mk second afterRight =>
              -- the left operand has its gates already, and names read as before
              have hr := ihr hl.valid
              simp only [hright, hl.env valid] at hr
              have both := (hl.append hr).emit op.body (by cases op <;> rfl)
                (by cases op <;> rfl)
              simp only [List.map_cons, List.map_nil, List.cons_append, List.nil_append,
                op.body_result] at both
              simp only [Expr.emit, stateM_run_bind, hleft, hright]
              exact both

theorem emitAll_reads (es : List Expr) {s : Assembly} (valid : s.Valid) :
    let (wires, next) := (emitAll es).run s
    Reads s next wires (es.map (Expr.value s.env)) := by
  induction es generalizing s with
  | nil => exact .nil valid
  | cons e es ih =>
      cases hfirst : e.emit.run s with
      | mk wire mid =>
          have first := e.emit_reads valid
          simp only [hfirst] at first
          cases hrest : (emitAll es).run mid with
          | mk wires next =>
              have rest := ih first.valid
              simp only [hrest, first.env valid] at rest
              simp only [emitAll, stateM_run_bind, hfirst, hrest]
              exact first.append rest

end Expressions

end SignalGraph.Script
