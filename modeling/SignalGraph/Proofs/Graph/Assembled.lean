import SignalGraph.Graph.Archive
import SignalGraph.Proofs.Graph.Layout

/-!
Circuits of new nodes. Nodes that are entered one after the other into a circuit without any bear
their positions as ids. Each lead between them that is then made for the first time takes the last
place in the inlet that it leads to; one that is there already changes nothing.
-/

namespace SignalGraph

section Inlets

/-- The outlets that some leads bring to an inlet. The nodes have consecutive references. -/
def readsAt (made : List Lead) (first : Nat) (target inletSlot : Nat) : List Outlet :=
  (made.filter fun lead => lead.inletSlot = inletSlot && lead.target = target).map fun lead =>
    { ref := first + lead.source, slot := lead.outletSlot }

variable {made : List Lead} {first : Nat}

/-- A lead to another inlet changes nothing. -/
theorem readsAt_of_ne {lead : Lead} {target inletSlot : Nat}
    (h : lead.target ≠ target ∨ lead.inletSlot ≠ inletSlot) :
    readsAt (made ++ [lead]) first target inletSlot = readsAt made first target inletSlot := by
  have other : ¬ (lead.inletSlot = inletSlot ∧ lead.target = target) := by tauto
  simp [readsAt, List.filter_append, other]

theorem readsAt_concat (made : List Lead) (first : Nat) (lead : Lead) :
    readsAt (made ++ [lead]) first lead.target lead.inletSlot =
      readsAt made first lead.target lead.inletSlot ++
        [{ ref := first + lead.source, slot := lead.outletSlot }] := by
  simp [readsAt, List.filter_append]

/-- An inlet reads from an outlet as soon as the lead between them is made. -/
theorem mem_readsAt {lead : Lead} :
    { ref := first + lead.source, slot := lead.outletSlot } ∈
      readsAt made first lead.target lead.inletSlot ↔ lead ∈ made := by
  simp only [readsAt, List.mem_map, List.mem_filter, Bool.and_eq_true, decide_eq_true_eq]
  constructor
  · rintro ⟨other, ⟨mem, inlet, target⟩, same⟩
    obtain ⟨ref, slot⟩ := Outlet.mk.inj same
    obtain rfl : other = lead := by
      obtain ⟨source, outletSlot, _, _⟩ := other
      obtain rfl : source = lead.source := Nat.add_left_cancel ref
      obtain rfl : outletSlot = lead.outletSlot := slot
      subst inlet target
      rfl
    exact mem
  · intro mem
    exact ⟨lead, ⟨mem, rfl, rfl⟩, rfl⟩

theorem readsAt_eq_nil {target : Nat} (free : ∀ lead ∈ made, lead.target ≠ target)
    (inletSlot : Nat) : readsAt made first target inletSlot = [] := by
  rw [readsAt, List.map_eq_nil_iff, List.filter_eq_nil_iff]
  intro lead mem hit
  simp only [Bool.and_eq_true, decide_eq_true_eq] at hit
  exact free lead mem hit.2

/-- A lead that is new adds its outlet to the inlet that it leads to, and an old one does not. -/
theorem set_readsAt {lead : Lead} {count : Nat} (inlet : lead.inletSlot < count) :
    let inlets := (List.range count).map (readsAt made first lead.target)
    inlets.set lead.inletSlot (addOutlet { ref := first + lead.source, slot := lead.outletSlot }
        (inlets.getD lead.inletSlot [])) =
      (List.range count).map
        (readsAt (if lead ∈ made then made else made ++ [lead]) first lead.target) := by
  intro inlets
  have there : inlets.getD lead.inletSlot [] = readsAt made first lead.target lead.inletSlot := by
    simp [inlets, List.getD_eq_getElem?_getD, inlet]
  by_cases old : lead ∈ made
  · rw [there, addOutlet, if_pos (mem_readsAt.mpr old), if_pos old, ← there, set_getD_self]
  · rw [there, addOutlet, if_neg (mem_readsAt.not.mpr old), if_neg old, ← readsAt_concat]
    refine List.ext_getElem (by simp [inlets]) fun k bound _ => ?_
    rw [List.getElem_set]
    split
    · rename_i same
      subst same
      simp
    · rename_i other
      simp [inlets, readsAt_of_ne (.inr other)]

end Inlets

section Nodes

/-- What has been made of some plans: a node for each, and some leads between them. References count
up from `first`, and ids from zero. -/
structure Circuit.Assembled (c : Circuit) (plans : List Node) (made : List Lead) (first : Nat) :
    Prop where
  size : c.pool.nodes.size = first + plans.length
  nextId : c.graph.nextId = plans.length
  nodes : c.graph.nodes = (List.range plans.length).map (first + ·)
  node : ∀ i plan, plans[i]? = some plan → c.node (first + i) =
    { Node.ofBody plan.body with
      id := some i, x := plan.x, y := plan.y
      inlets := (List.range plan.body.inlets.length).map (readsAt made first i) }
  sound : c.Sound

variable {c : Circuit} {plans : List Node} {made : List Lead} {first : Nat}

theorem Circuit.assembled_clear (c : Circuit) :
    ({ c with graph := c.graph.clear } : Circuit).Assembled [] [] c.pool.nodes.size := by
  refine ⟨rfl, rfl, rfl, ?_, Circuit.sound_of_empty rfl rfl⟩
  rintro _ _ ⟨⟩

theorem Circuit.Assembled.listed (h : c.Assembled plans made first) {i : Nat}
    (bound : i < plans.length) : first + i ∈ c.graph.nodes := by
  rw [h.nodes]
  exact List.mem_map.mpr ⟨i, List.mem_range.mpr bound, rfl⟩

/-- Node after node. No lead goes to a node before it is there. -/
theorem Circuit.Assembled.insert (h : c.Assembled plans made first)
    (joins : ∀ lead ∈ made, lead.Joins plans) (plan : Node) :
    (c.insert plan.body plan.x plan.y).1.Assembled (plans ++ [plan]) made first := by
  obtain ⟨-, new⟩ := c.insert_self plan.body plan.x plan.y
  have size : (c.insert plan.body plan.x plan.y).1.pool.nodes.size = c.pool.nodes.size + 1 := by
    simp [Circuit.insert, Circuit.append, Circuit.claim]
  have length : (plans ++ [plan]).length = plans.length + 1 := List.length_append
  refine ⟨?_, ?_, ?_, ?_, h.sound.insert ..⟩
  · rw [length]
    exact size.trans (congrArg (· + 1) h.size)
  · rw [length]
    exact congrArg (· + 1) h.nextId
  · rw [length, List.range_succ, List.map_append]
    change c.graph.nodes ++ [c.pool.nodes.size] = _
    rw [h.nodes, h.size]
    rfl
  · intro i other found
    rcases getElem?_concat_eq_some.mp found with early | ⟨rfl, rfl⟩
    · have bound := (List.getElem?_eq_some_iff.mp early).1
      have inside : first + i < c.pool.nodes.size := by
        rw [h.size]
        omega
      exact (c.insert_other _ _ _ inside).trans (h.node i other early)
    · have missed : ∀ lead ∈ made, lead.target ≠ plans.length := by
        intro lead mem same
        obtain ⟨_, there, -⟩ := (joins lead mem).target
        exact Nat.lt_irrefl _ (same ▸ (List.getElem?_eq_some_iff.mp there).1)
      have free : (List.range plan.body.inlets.length).map (readsAt made first plans.length) =
          plan.body.inlets.map fun _ => [] := by
        rw [funext (readsAt_eq_nil missed), List.map_const', List.map_const', List.length_range]
      rw [free, ← h.size]
      refine Eq.trans new ?_
      rw [h.nextId]
      rfl

end Nodes

section Leads

variable {c : Circuit} {plans : List Node} {made : List Lead} {first : Nat}

theorem Circuit.Assembled.outlets (h : c.Assembled plans made first) {i : Nat} {plan : Node}
    (found : plans[i]? = some plan) :
    (c.node (first + i)).outlets.length = plan.body.outlets.length := by
  rw [h.node i plan found]
  exact List.length_map _

theorem Circuit.Assembled.inlets (h : c.Assembled plans made first) {i : Nat} {plan : Node}
    (found : plans[i]? = some plan) :
    (c.node (first + i)).inlets.length = plan.body.inlets.length := by
  rw [h.node i plan found, List.length_map, List.length_range]

/-- Connections can be made just where leads join planned nodes. -/
theorem Circuit.Assembled.connect_eq_ok (h : c.Assembled plans made first) {source target : Nat}
    {outletSlot inletSlot : Int} {result : Circuit × Bool} (early : source < plans.length)
    (early' : target < plans.length) :
    c.connect (first + source) outletSlot (first + target) inletSlot = .ok result ↔
      ∃ lead : Lead, lead.source = source ∧ lead.target = target ∧ outletSlot = lead.outletSlot ∧
        inletSlot = lead.inletSlot ∧ lead.Joins plans ∧
        c.wire (first + lead.source) (first + lead.target) lead.outletSlot lead.inletSlot =
          result := by
  have hsource := List.getElem?_eq_getElem early
  have htarget := List.getElem?_eq_getElem early'
  rw [Circuit.connect_eq_ok, h.outlets hsource, h.inlets htarget]
  constructor
  · rintro ⟨-, -, outlet, inlet, ⟨from_outlet, before⟩, ⟨to_inlet, before'⟩, wired⟩
    exact ⟨⟨source, outlet, target, inlet⟩, rfl, rfl, from_outlet, to_inlet,
      ⟨⟨_, hsource, before⟩, ⟨_, htarget, before'⟩⟩, wired⟩
  · rintro ⟨lead, rfl, rfl, from_outlet, to_inlet, ⟨⟨_, found, before⟩, ⟨_, found', before'⟩⟩, wired⟩
    obtain rfl := Option.some.inj (hsource.symm.trans found)
    obtain rfl := Option.some.inj (htarget.symm.trans found')
    exact ⟨(h.sound.contains_iff _).mpr (h.listed early),
      (h.sound.contains_iff _).mpr (h.listed early'), _, _, ⟨from_outlet, before⟩,
      ⟨to_inlet, before'⟩, wired⟩

/-- Lead after lead. -/
theorem Circuit.Assembled.wire (h : c.Assembled plans made first) {lead : Lead}
    (joins : lead.Joins plans) :
    (c.wire (first + lead.source) (first + lead.target) lead.outletSlot
      lead.inletSlot).1.Assembled plans (if lead ∈ made then made else made ++ [lead]) first := by
  obtain ⟨⟨source, hsource, outlet⟩, ⟨target, htarget, inlet⟩⟩ := joins
  have early := (List.getElem?_eq_some_iff.mp hsource).1
  have early' := (List.getElem?_eq_some_iff.mp htarget).1
  have graph := c.wire_graph (first + lead.source) (first + lead.target) lead.outletSlot
    lead.inletSlot
  refine ⟨?_, ?_, ?_, ?_, ?_⟩
  · exact (c.wire_size ..).trans h.size
  · exact (congrArg Graph.nextId graph).trans h.nextId
  · exact (congrArg Graph.nodes graph).trans h.nodes
  · intro i plan found
    have inside : first + lead.target < c.pool.nodes.size := h.sound.lt_of_mem (h.listed early')
    have before := h.node i plan found
    refine (c.wire_node _ _ _ inside (first + i)).trans ?_
    rw [before]
    split
    · rename_i same
      obtain rfl := Nat.add_left_cancel same
      obtain rfl : target = plan := Option.some.inj (htarget.symm.trans found)
      rw [set_readsAt inlet]
    · rename_i other
      have same : readsAt (if lead ∈ made then made else made ++ [lead]) first i =
          readsAt made first i := by
        split
        · rfl
        · exact funext fun k => readsAt_of_ne (.inl fun same => other (by rw [same]))
      rw [same]
  · apply h.sound.wire (h.listed early) (h.listed early')
    rw [h.outlets hsource]
    exact outlet

end Leads

section Layouts

variable {c : Circuit} {plans : List Node} {made : List Lead} {first : Nat}

theorem Circuit.Assembled.nodes_eq (h : c.Assembled plans made first) :
    c.nodes = (List.range plans.length).map fun i => c.node (first + i) := by
  rw [Circuit.nodes, h.nodes, List.map_map]
  rfl

theorem Circuit.Assembled.idxOf (h : c.Assembled plans made first) {i : Nat}
    (bound : i < plans.length) : c.graph.nodes.idxOf (first + i) = i := by
  rw [h.nodes, idxOf_range_map bound]

/-- In a layout the positions take the place of the references. -/
theorem Circuit.Assembled.layout (h : c.Assembled plans made first)
    (joins : ∀ lead ∈ made, lead.Joins plans) :
    c.layout = plans.mapIdx fun i plan =>
      { Node.ofBody plan.body with
        id := some i, x := plan.x, y := plan.y
        inlets := (List.range plan.body.inlets.length).map (readsAt made 0 i) } := by
  rw [Circuit.layout, h.nodes_eq, List.map_map]
  refine map_range_eq_mapIdx fun i plan found => ?_
  have placed (k : Nat) : (readsAt made first i k).map (fun outlet =>
      { outlet with ref := c.graph.nodes.idxOf outlet.ref }) = readsAt made 0 i k := by
    rw [readsAt, readsAt, List.map_map]
    refine List.map_congr_left fun lead mem => ?_
    obtain ⟨source, there, -⟩ := (joins lead (List.mem_of_mem_filter mem)).source
    have early := (List.getElem?_eq_some_iff.mp there).1
    simp only [Function.comp_apply, h.idxOf early, Nat.zero_add]
  rw [Function.comp_apply, h.node i plan found, Node.place]
  simp only [List.map_map, Function.comp_def, placed]

end Layouts

end SignalGraph
