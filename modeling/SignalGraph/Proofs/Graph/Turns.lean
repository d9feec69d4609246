import SignalGraph.Graph.Tick

/-!
What turns leave alone. A turn changes one node of the pool, and of that node only its state and the
numbers at its outlets: its id, its place, its wiring and its slots stay.
-/

namespace SignalGraph

section Pools

variable (pool : Pool)

@[simp] theorem Pool.size_set (ref : Ref) (node : Node) :
    (pool.set ref node).nodes.size = pool.nodes.size := Array.size_setIfInBounds

@[simp] theorem Pool.size_modify (ref : Ref) (f : Node → Node) :
    (pool.modify ref f).nodes.size = pool.nodes.size := pool.size_set ref _

@[simp] theorem Pool.size_add (node : Node) :
    (pool.add node).1.nodes.size = pool.nodes.size + 1 := Array.size_push _

theorem Pool.get_modify_self {ref : Ref} (f : Node → Node) (h : ref < pool.nodes.size) :
    (pool.modify ref f).get ref = f (pool.get ref) := pool.get_set_self ref _ h

theorem Pool.get_modify_ne {ref other : Ref} (f : Node → Node) (h : ref ≠ other) :
    (pool.modify ref f).get other = pool.get other := pool.get_set_ne _ h

theorem Pool.get_of_le {ref : Ref} (h : pool.nodes.size ≤ ref) : pool.get ref = default := by
  simp only [Pool.get, Array.getD_eq_getD_getElem?, Array.getElem?_eq_none h, Option.getD_none]

/-- Where there is no node, nothing is put. -/
theorem Pool.set_of_le {ref : Ref} (node : Node) (h : pool.nodes.size ≤ ref) :
    pool.set ref node = pool := by
  simp only [Pool.set, Array.setIfInBounds, Nat.not_lt.mpr h, ↓reduceDIte]

/-- What a change keeps of every node, the nodes of the pool keep. -/
theorem Pool.modify_keeps {β : Type} (g : Node → β) {f : Node → Node}
    (keeps : ∀ node, g (f node) = g node) (ref other : Ref) :
    g ((pool.modify ref f).get other) = g (pool.get other) := by
  by_cases same : ref = other
  · subst same
    by_cases inside : ref < pool.nodes.size
    · rw [pool.get_modify_self f inside, keeps]
    · rw [Pool.modify, pool.set_of_le _ (Nat.le_of_not_lt inside)]
  · rw [pool.get_modify_ne f same]

theorem Pool.get_add_of_lt (node : Node) {ref : Ref} (h : ref < pool.nodes.size) :
    (pool.add node).1.get ref = pool.get ref := by
  simp only [Pool.get, Pool.add, Array.getD_eq_getD_getElem?, Array.getElem?_push,
    Nat.ne_of_lt h, ↓reduceIte]

end Pools

section Bodies

variable (around : Surroundings) (id : Int) (inputs : Inputs) (generator : Random.Generator)

/-- A step keeps the kind of a body, and with it the names of its slots. -/
structure Body.Keeps (before after : Body) : Prop where
  kind : after.kind = before.kind
  inlets : after.inlets = before.inlets
  outlets : after.outlets = before.outlets

theorem Body.kind_eq_color {body : Body} :
    body.kind = .color ↔ ∃ red green blue, body = .color red green blue := by
  cases body <;> simp [Body.kind]

theorem Body.kind_eq_screen {body : Body} :
    body.kind = .screen ↔ ∃ screen, body = .screen screen := by
  cases body <;> simp [Body.kind]

theorem Body.Keeps.refl (body : Body) : body.Keeps body := ⟨rfl, rfl, rfl⟩

theorem Body.Keeps.trans {first second third : Body} (h : first.Keeps second)
    (h' : second.Keeps third) : first.Keeps third :=
  ⟨h'.kind.trans h.kind, h'.inlets.trans h.inlets, h'.outlets.trans h.outlets⟩

theorem Body.step_keeps (body : Body) :
    body.Keeps (body.step around id inputs generator).body := by
  cases body with
  | key v => cases v <;> exact ⟨rfl, rfl, rfl⟩
  | _ => exact ⟨rfl, rfl, rfl⟩

/-- A step that puts out numbers puts out one for each outlet. -/
theorem Body.step_outlets_length (body : Body) {numbers : List Float}
    (h : (body.step around id inputs generator).outlets = some numbers) :
    numbers.length = body.outlets.length := by
  cases body with
  | key v =>
      cases v with
      | text name =>
          cases h
          rfl
      | _ => cases h
  | _ =>
      cases h
      rfl

end Bodies

section Turns

/-- What a turn leaves of a node. -/
structure Node.Keeps (before after : Node) : Prop where
  id : after.id = before.id
  x : after.x = before.x
  y : after.y = before.y
  inlets : after.inlets = before.inlets
  body : before.body.Keeps after.body
  outlets : before.outlets.length = before.body.outlets.length →
    after.outlets.length = before.outlets.length

theorem Node.Keeps.refl (node : Node) : node.Keeps node :=
  ⟨rfl, rfl, rfl, rfl, .refl _, fun _ => rfl⟩

theorem Node.Keeps.trans {first second third : Node} (h : first.Keeps second)
    (h' : second.Keeps third) : first.Keeps third where
  id := h'.id.trans h.id
  x := h'.x.trans h.x
  y := h'.y.trans h.y
  inlets := h'.inlets.trans h.inlets
  body := h.body.trans h'.body
  outlets := by
    intro full
    have mid := h.outlets full
    rw [← mid]
    apply h'.outlets
    rw [mid, full, h.body.outlets]

variable (around : Surroundings) (turn : Turn)

theorem Turn.step_size (ref : Ref) :
    (turn.step around ref).1.pool.nodes.size = turn.pool.nodes.size :=
  turn.pool.size_set ref _

/-- What a turn of a node amounts to, its inlets as they are now. -/
def Turn.effect (ref : Ref) : Effect :=
  let node := turn.pool.get ref
  node.body.step around node.idNumber (turn.pool.inputs node) turn.generator

theorem Turn.step_fault (ref : Ref) :
    (turn.step around ref).2 = (turn.effect around ref).fault := rfl

theorem Turn.step_get_self {ref : Ref} (inside : ref < turn.pool.nodes.size) :
    (turn.step around ref).1.pool.get ref =
      { turn.pool.get ref with
        body := (turn.effect around ref).body
        outlets := (turn.effect around ref).outlets.getD (turn.pool.get ref).outlets } :=
  turn.pool.get_set_self ref _ inside

theorem Turn.step_get_ne {ref other : Ref} (h : ref ≠ other) :
    (turn.step around ref).1.pool.get other = turn.pool.get other :=
  turn.pool.get_set_ne _ h

theorem Turn.step_keeps (ref other : Ref) :
    (turn.pool.get other).Keeps ((turn.step around ref).1.pool.get other) := by
  by_cases same : ref = other
  · subst same
    by_cases inside : ref < turn.pool.nodes.size
    · rw [turn.step_get_self around inside]
      refine ⟨rfl, rfl, rfl, rfl, Body.step_keeps .., ?_⟩
      intro full
      cases numbers : (turn.effect around ref).outlets with
      | none => rfl
      | some xs =>
          have length := Body.step_outlets_length _ _ _ _ _ numbers
          exact length.trans full.symm
    · have nothing : (turn.step around ref).1.pool = turn.pool :=
        turn.pool.set_of_le _ (Nat.le_of_not_lt inside)
      rw [nothing]
      exact .refl _
  · rw [turn.step_get_ne around same]
    exact .refl _

/-- The turns of some nodes, one after the other: what every turn keeps, all of them keep, also when
they end early. -/
theorem Turn.run_induction {P : Turn → Prop}
    (step : ∀ (turn : Turn) (ref : Ref), P turn → P (turn.step around ref).1) :
    ∀ (refs : List Ref) (turn : Turn), P turn → P (turn.run around refs).1
  | [], _, h => h
  | ref :: refs, turn, h => by
      have next := step turn ref h
      simp only [Turn.run]
      cases hstep : turn.step around ref with
      | mk after fault =>
          rw [hstep] at next
          cases fault with
          | none => exact Turn.run_induction step refs after next
          | some fault => exact next

theorem Turn.run_keeps (refs : List Ref) :
    let next := (turn.run around refs).1
    next.pool.nodes.size = turn.pool.nodes.size ∧
      ∀ ref, (turn.pool.get ref).Keeps (next.pool.get ref) := by
  apply Turn.run_induction around (P := fun next =>
    next.pool.nodes.size = turn.pool.nodes.size ∧
      ∀ ref, (turn.pool.get ref).Keeps (next.pool.get ref))
  · intro next ref h
    exact ⟨(next.step_size around ref).trans h.1,
      fun other => (h.2 other).trans (next.step_keeps around ref other)⟩
  · exact ⟨rfl, fun _ => .refl _⟩

end Turns

section Ticks

variable (c : Circuit) (dt : Float) (controls : Controls)

@[simp] theorem Circuit.tick_nodes : (c.tick dt controls).1.graph.nodes = c.graph.nodes := rfl

@[simp] theorem Circuit.tick_index : (c.tick dt controls).1.graph.index = c.graph.index := rfl

@[simp] theorem Circuit.tick_nextId : (c.tick dt controls).1.graph.nextId = c.graph.nextId := rfl

/-- A tick, complete or not, keeps what turns keep. -/
theorem Circuit.tick_keeps (ref : Ref) : (c.node ref).Keeps ((c.tick dt controls).1.node ref) :=
  (Turn.run_keeps { dt, controls } { pool := c.pool, generator := c.graph.generator }
    c.graph.nodes).2 ref

end Ticks

end SignalGraph
