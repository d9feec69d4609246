import SignalGraph.Graph.Archive
import SignalGraph.Graph.Compile
import SignalGraph.Graph.Tick
import SignalGraph.Proofs.Graph.Wiring

/-!
Calls upon a graph by a program that holds it, and its nodes. A call that its arguments make
impossible changes nothing, but for two calls that convert their numbers late: a node has taken its
id when its place turns out to be no number, and a tick has been counted when its length does.
-/

namespace SignalGraph

section Calls

/-- What can be asked of a graph. Nodes are made first and entered later, also such nodes that have
been in the graph before. -/
inductive GraphCall where
  | make (body : Body)
  | spawn (ref : Ref) (x y : Value)
  | get (id : Value)
  | connect (source : Ref) (outletSlot : Int) (target : Ref) (inletSlot : Int)
  | remove (ref : Ref)
  | clear
  | tick (dt : Value) (controls : Controls)
  | load (text : String)
  | compile (mode : CompileMode) (source : String)

inductive CallFault where
  | graph (fault : GraphFault)
  | tick (fault : TickFault)

/-- Whether a fault is that of a node whose turn it was, and not that of the call. -/
def CallFault.isOfTurn : CallFault → Bool
  | .tick (.step _) => true
  | _ => false

/-- Carries out a call. -/
def Circuit.call (c : Circuit) : GraphCall → Circuit × Option CallFault
  | .make body => (c.make body, none)
  | .spawn ref x y =>
      let (next, fault) := c.spawn ref x y
      (next, fault.map .graph)
  | .get id =>
      match c.find id with
      | .ok _ => (c, none)
      | .error fault => (c, some (.graph fault))
  | .connect source outletSlot target inletSlot =>
      match c.connect source outletSlot target inletSlot with
      | .ok (next, _) => (next, none)
      | .error fault => (c, some (.graph fault))
  | .remove ref =>
      match c.remove ref with
      | .ok next => (next, none)
      | .error fault => (c, some (.graph fault))
  | .clear => ({ c with graph := c.graph.clear }, none)
  | .tick dt controls =>
      let (next, fault) := c.tickValue dt controls
      (next, fault.map .tick)
  | .load text => (c.load text, none)
  | .compile mode source => ((c.compile mode source).1, none)

/-- The circuit after some calls, whatever became of them. -/
def Circuit.after (c : Circuit) (calls : List GraphCall) : Circuit :=
  calls.foldl (fun c call => (c.call call).1) c

/-- Whether something holds at every call of a run, of the circuit that the call finds. -/
def Circuit.Along (P : Circuit → GraphCall → Prop) (c : Circuit) : List GraphCall → Prop
  | [] => True
  | call :: calls => P c call ∧ (c.call call).1.Along P calls

/-- Whether the node that a call enters is there. -/
def Pool.Has (pool : Pool) : GraphCall → Prop
  | .spawn ref _ _ => ref < pool.nodes.size
  | _ => True

instance (pool : Pool) : DecidablePred pool.Has
  | .spawn ref _ _ => inferInstanceAs (Decidable (ref < pool.nodes.size))
  | .make _ | .get _ | .connect .. | .remove _ | .clear | .tick .. | .load _ | .compile .. =>
      inferInstanceAs (Decidable True)

instance Circuit.decidableAlong (P : Circuit → GraphCall → Prop) [∀ c, DecidablePred (P c)] :
    ∀ (c : Circuit) (calls : List GraphCall), Decidable (c.Along P calls)
  | _, [] => inferInstanceAs (Decidable True)
  | c, call :: calls =>
      have := Circuit.decidableAlong P (c.call call).1 calls
      inferInstanceAs (Decidable (P c call ∧ (c.call call).1.Along P calls))

/-- What speaks against a call: a node that is a member already or is none, a slot that is not
there, or a value that is no number. -/
def Circuit.Forbids (c : Circuit) : GraphCall → Prop
  | .spawn ref x y => c.contains ref ∨ ¬(x.toInt.isOk ∧ y.toInt.isOk)
  | .get id => ¬∃ n, idOfValue? id = some n ∧ (c.graph.index.lookup n).isSome
  | .connect source outletSlot target inletSlot =>
      ¬c.contains source ∨ ¬c.contains target ∨
        ¬(0 ≤ outletSlot ∧ outletSlot < (c.node source).outlets.length) ∨
        ¬(0 ≤ inletSlot ∧ inletSlot < (c.node target).inlets.length)
  | .remove ref => ¬c.contains ref
  | .tick dt _ => ¬dt.toFloat.isOk
  | _ => False

/-- What a call changes before it looks at its numbers. -/
def Circuit.begun (c : Circuit) : GraphCall → Circuit
  | .spawn ref _ _ => if c.contains ref then c else c.claim ref
  | .tick _ _ => c.count
  | _ => c

end Calls

section Refusals

variable (c : Circuit)

/-- Entering a node fails for a member, and for a place that is no number. -/
theorem Circuit.spawn_spec (ref : Ref) (x y : Value) :
    ((c.spawn ref x y).2.isSome ↔ c.contains ref ∨ ¬(x.toInt.isOk ∧ y.toInt.isOk)) ∧
      ((c.spawn ref x y).2.isSome →
        (c.spawn ref x y).1 = if c.contains ref then c else c.claim ref) := by
  unfold Circuit.spawn
  by_cases member : c.contains ref
  · simp [member]
  · cases x.toInt <;> cases y.toInt <;> simp [member, Except.isOk, Except.toBool]

/-- A circuit that has taken note of a call is another one. -/
theorem Circuit.begun_eq_iff (call : GraphCall) :
    c.begun call = c ↔
      (∀ ref x y, call = .spawn ref x y → c.contains ref) ∧
        ∀ dt controls, call ≠ .tick dt controls := by
  have claimed : ∀ ref, c.claim ref ≠ c := by
    intro ref same
    have nextId := congrArg (fun c : Circuit => c.graph.nextId) same
    exact Nat.succ_ne_self _ nextId
  have counted : c.count ≠ c := by
    intro same
    have tickCount := congrArg (fun c : Circuit => c.graph.tickCount) same
    exact Nat.succ_ne_self _ tickCount
  cases call with
  | spawn ref x y =>
      unfold Circuit.begun
      by_cases member : c.contains ref
      · simp [member]
      · simp [member, claimed ref]
  | tick dt controls => simp [Circuit.begun, counted]
  | _ => simp [Circuit.begun]

theorem Circuit.find_isOk_iff (id : Value) :
    (∃ ref, c.find id = .ok ref) ↔
      ∃ n, idOfValue? id = some n ∧ (c.graph.index.lookup n).isSome := by
  unfold Circuit.find
  split
  · rename_i compound
    have nothing : idOfValue? id = none := by
      cases id <;> first | rfl | cases compound
    simp [nothing]
  · cases idOfValue? id with
    | none => simp
    | some n =>
        simp only [Option.bind_some, Option.some.injEq, exists_eq_left']
        cases c.graph.index.lookup n <;> simp

theorem Circuit.connect_isOk_iff (source target : Ref) (outletSlot inletSlot : Int) :
    (∃ made, c.connect source outletSlot target inletSlot = .ok made) ↔
      c.contains source ∧ c.contains target ∧
        (0 ≤ outletSlot ∧ outletSlot < (c.node source).outlets.length) ∧
        (0 ≤ inletSlot ∧ inletSlot < (c.node target).inlets.length) := by
  have slot (n : Int) (count : Nat) :
      (∃ k : Nat, n = k ∧ k < count) ↔ 0 ≤ n ∧ n < count := by
    constructor
    · rintro ⟨k, rfl, bound⟩
      omega
    · rintro ⟨low, high⟩
      exact ⟨n.toNat, by omega, by omega⟩
  simp only [Circuit.connect_eq_ok, ← slot]
  constructor
  · rintro ⟨made, member, member', outlet, inlet, there, there', -⟩
    exact ⟨member, member', ⟨outlet, there⟩, ⟨inlet, there'⟩⟩
  · rintro ⟨member, member', ⟨outlet, there⟩, ⟨inlet, there'⟩⟩
    exact ⟨_, member, member', outlet, inlet, there, there', rfl⟩

theorem Circuit.remove_isOk_iff (ref : Ref) :
    (∃ next, c.remove ref = .ok next) ↔ c.contains ref := by
  simp only [Circuit.remove_eq_ok]
  constructor
  · rintro ⟨next, member, -⟩
    exact member
  · intro member
    exact ⟨_, member, rfl⟩

/-- A call is refused for its arguments exactly when something speaks against it, and then all that
has changed is what the call changes before it looks at its numbers. -/
theorem Circuit.call_spec (call : GraphCall) :
    ((∃ fault, (c.call call).2 = some fault ∧ ¬fault.isOfTurn) ↔ c.Forbids call) ∧
      (c.Forbids call → (c.call call).1 = c.begun call) := by
  cases call with
  | spawn ref x y =>
      obtain ⟨refused, left⟩ := c.spawn_spec ref x y
      simp only [Circuit.Forbids, Circuit.begun]
      rw [← refused]
      refine ⟨?_, left⟩
      simp only [Circuit.call]
      cases (c.spawn ref x y).2 <;> simp [CallFault.isOfTurn]
  | get id =>
      simp only [Circuit.Forbids]
      rw [← c.find_isOk_iff id]
      cases found : c.find id <;> simp [Circuit.call, Circuit.begun, found, CallFault.isOfTurn]
  | connect source outletSlot target inletSlot =>
      have made := c.connect_isOk_iff source target outletSlot inletSlot
      have forbidden : c.Forbids (.connect source outletSlot target inletSlot) ↔
          ¬∃ made, c.connect source outletSlot target inletSlot = .ok made := by
        rw [made]
        simp only [Circuit.Forbids]
        tauto
      rw [forbidden]
      cases tried : c.connect source outletSlot target inletSlot <;>
        simp [Circuit.call, Circuit.begun, tried, CallFault.isOfTurn]
  | remove ref =>
      simp only [Circuit.Forbids]
      rw [← c.remove_isOk_iff ref]
      cases tried : c.remove ref <;> simp [Circuit.call, Circuit.begun, tried, CallFault.isOfTurn]
  | tick dt controls =>
      simp only [Circuit.Forbids, Circuit.begun, Circuit.call, Circuit.tickValue]
      cases dt.toFloat with
      | error fault => simp [CallFault.isOfTurn, Except.isOk, Except.toBool]
      | ok length =>
          simp only [Except.isOk, Except.toBool, not_true, iff_false, false_imp_iff, and_true]
          cases (c.tick length controls).2 <;> simp [CallFault.isOfTurn]
  | _ => simp [Circuit.call, Circuit.Forbids]

/-- A node that may be entered, at a place, is entered. -/
theorem Circuit.spawn_of_allowed {ref : Ref} {x y : Value}
    (allowed : ¬c.Forbids (.spawn ref x y)) :
    ∃ column row, (c.call (.spawn ref x y)).1 = c.enter ref column row := by
  unfold Circuit.Forbids at allowed
  rw [not_or, not_not] at allowed
  obtain ⟨stranger, column, row⟩ := allowed
  cases hx : x.toInt with
  | error fault => simp [hx, Except.isOk, Except.toBool] at column
  | ok x =>
      cases hy : y.toInt with
      | error fault => simp [hy, Except.isOk, Except.toBool] at row
      | ok y =>
          refine ⟨x, y, ?_⟩
          simp only [Circuit.call, Circuit.spawn, stranger, Bool.false_eq_true, ↓reduceIte, hx, hy]
          rfl

variable {c} in
/-- A call leaves a circuit as it is, or changes it in one of ten ways. -/
theorem Circuit.call_induction {P : Circuit → Prop} {call : GraphCall} (keep : P c)
    (make : ∀ body, P (c.make body))
    (claim : ∀ ref, ¬c.contains ref → P (c.claim ref))
    (enter : ∀ ref x y, call = .spawn ref x y → ¬c.Forbids (.spawn ref x y) →
      ∀ column row, P (c.enter ref column row))
    (connect : ∀ source outletSlot target inletSlot next added,
      c.connect source outletSlot target inletSlot = .ok (next, added) → P next)
    (remove : ∀ ref next, c.remove ref = .ok next → P next)
    (clear : call = .clear → P { c with graph := c.graph.clear })
    (count : P c.count)
    (tick : ∀ dt controls, P (c.tick dt controls).1)
    (load : ∀ text, call = .load text → P (c.load text))
    (compile : ∀ mode source, call = .compile mode source → P (c.compile mode source).1) :
    P (c.call call).1 := by
  cases call with
  | make body => exact make body
  | spawn ref x y =>
      by_cases forbidden : c.Forbids (.spawn ref x y)
      · rw [(c.call_spec _).2 forbidden, Circuit.begun]
        split
        · exact keep
        · rename_i stranger
          exact claim ref stranger
      · obtain ⟨column, row, entered⟩ := c.spawn_of_allowed forbidden
        rw [entered]
        exact enter ref x y rfl forbidden column row
  | get id =>
      simp only [Circuit.call]
      split <;> exact keep
  | connect source outletSlot target inletSlot =>
      simp only [Circuit.call]
      split
      · rename_i made
        exact connect _ _ _ _ _ _ made
      · exact keep
  | remove ref =>
      simp only [Circuit.call]
      split
      · rename_i removed
        exact remove _ _ removed
      · exact keep
  | clear => exact clear rfl
  | tick dt controls =>
      simp only [Circuit.call, Circuit.tickValue]
      split
      · exact tick _ controls
      · exact count
  | load text => exact load text rfl
  | compile mode source => exact compile mode source rfl

/-- A call is refused for its arguments exactly when a node is a member that must not be one or is
none that must be one, a slot is not there, or a value is no number. Such a call leaves the graph
and all nodes as they were, unless it enters a stranger or ticks: then the node has taken the next
id, or the tick is counted, and nothing else has changed. -/
theorem Circuit.call_refused (c : Circuit) (call : GraphCall) :
    ((∃ fault, (c.call call).2 = some fault ∧ ¬fault.isOfTurn) ↔ c.Forbids call) ∧
      (c.Forbids call → (c.call call).1 = c.begun call ∧
        ((c.call call).1 = c ↔
          (∀ ref x y, call = .spawn ref x y → c.contains ref) ∧
            ∀ dt controls, call ≠ .tick dt controls)) := by
  obtain ⟨refused, left⟩ := c.call_spec call
  refine ⟨refused, fun forbidden => ⟨left forbidden, ?_⟩⟩
  rw [left forbidden]
  exact c.begun_eq_iff call

/-- A node that is entered at no place is no member, and yet it bears an id. -/
theorem Circuit.call_refused_nowhere :
    let c := (Circuit.ofSeed 0).after [.make (.constant 1.0)]
    let call : GraphCall := .spawn 0 (.text "west") (.int 0)
    c.Forbids call ∧ (c.call call).1 ≠ c ∧ ((c.call call).1.node 0).id = some 0 ∧
      ¬(c.call call).1.contains 0 := by
  intro c call
  have forbidden : c.Forbids call := by
    right
    decide +kernel
  have refused := ((c.call_refused call).2 forbidden).2
  refine ⟨forbidden, fun same => ?_, by decide +kernel, by decide +kernel⟩
  exact absurd ((refused.mp same).1 0 _ _ rfl) (by decide +kernel)

end Refusals

end SignalGraph
