import Mathlib.Data.List.Nodup
import SignalGraph.Proofs.Entries
import SignalGraph.Proofs.Graph.Turns
import SignalGraph.Proofs.Lists

/-!
The wiring of a circuit. A graph lists its nodes by ascending ids below the next one and finds
exactly these nodes by their ids. Wires only lead from outlets of listed nodes to inlets of listed
nodes, and no wire is there twice. Every change of a circuit keeps all of this.
-/

namespace SignalGraph

section Soundness

/-- A node has the slots of its body, and its inlets read from outlets of listed nodes. -/
structure Node.Wired (node : Node) (nodes : List Ref) (pool : Pool) : Prop where
  inlets : node.inlets.length = node.body.inlets.length
  outlets : node.outlets.length = node.body.outlets.length
  sources : ∀ sources ∈ node.inlets, ∀ outlet ∈ sources,
    outlet.ref ∈ nodes ∧ outlet.slot < (pool.get outlet.ref).outlets.length
  once : ∀ sources ∈ node.inlets, sources.Nodup

/-- A circuit whose graph is in order. The index has each listed node by the id that the node bears,
in the order of the list, and nothing else. -/
structure Circuit.Sound (c : Circuit) : Prop where
  index : c.graph.index.map (fun entry => (some entry.1, entry.2)) =
    c.graph.nodes.map fun ref => ((c.node ref).id, ref)
  increasing : (c.graph.index.map Prod.fst).Pairwise (· < ·)
  below : ∀ id ∈ c.graph.index.map Prod.fst, id < c.graph.nextId
  wired : ∀ ref ∈ c.graph.nodes, (c.node ref).Wired c.graph.nodes c.pool

variable {c : Circuit}

theorem Circuit.sound_of_empty (nodes : c.graph.nodes = []) (index : c.graph.index = []) :
    c.Sound := by
  refine ⟨?_, ?_, ?_, ?_⟩ <;> simp [nodes, index]

/-- The index finds a listed node, and the node bears the id. -/
theorem Circuit.Sound.mem_index (h : c.Sound) {id : Nat} {ref : Ref} :
    (id, ref) ∈ c.graph.index ↔ ref ∈ c.graph.nodes ∧ (c.node ref).id = some id := by
  have entries : (some id, ref) ∈ c.graph.index.map (fun entry => (some entry.1, entry.2)) ↔
      (some id, ref) ∈ c.graph.nodes.map fun ref => ((c.node ref).id, ref) := by rw [h.index]
  constructor
  · intro mem
    obtain ⟨other, listed, same⟩ :=
      List.mem_map.mp (entries.mp (List.mem_map.mpr ⟨(id, ref), mem, rfl⟩))
    obtain ⟨hid, rfl⟩ := Prod.mk.inj same
    exact ⟨listed, hid⟩
  · rintro ⟨listed, hid⟩
    obtain ⟨⟨other, target⟩, mem, same⟩ :=
      List.mem_map.mp (entries.mpr (List.mem_map.mpr ⟨ref, listed, by rw [hid]⟩))
    simp only [Prod.mk.injEq, Option.some.injEq] at same
    rwa [← same.1, ← same.2]

theorem Circuit.Sound.keys_nodup (h : c.Sound) : (c.graph.index.map Prod.fst).Nodup :=
  h.increasing.imp fun less => Nat.ne_of_lt less

/-- The ids of the listed nodes are the keys of the index. -/
theorem Circuit.Sound.ids (h : c.Sound) :
    c.graph.nodes.map (fun ref => (c.node ref).id) = (c.graph.index.map Prod.fst).map some := by
  have first := congrArg (List.map Prod.fst) h.index
  simp only [List.map_map] at first ⊢
  exact first.symm

theorem Circuit.Sound.refs (h : c.Sound) : c.graph.index.map Prod.snd = c.graph.nodes := by
  have second := congrArg (List.map Prod.snd) h.index
  simp only [List.map_map] at second
  exact second.trans (List.map_id _)

/-- A listed node bears an id, below the next one. -/
theorem Circuit.Sound.id_of_mem (h : c.Sound) {ref : Ref} (listed : ref ∈ c.graph.nodes) :
    ∃ id, (c.node ref).id = some id ∧ id < c.graph.nextId := by
  rw [← h.refs] at listed
  obtain ⟨⟨id, other⟩, mem, rfl⟩ := List.mem_map.mp listed
  exact ⟨id, (h.mem_index.mp mem).2, h.below id (List.mem_map.mpr ⟨_, mem, rfl⟩)⟩

/-- Only references into the pool have ids. -/
theorem Pool.lt_of_id {pool : Pool} {ref : Ref} {id : Nat} (h : (pool.get ref).id = some id) :
    ref < pool.nodes.size := by
  by_contra outside
  rw [pool.get_of_le (Nat.le_of_not_lt outside)] at h
  cases h

theorem Circuit.Sound.lt_of_mem (h : c.Sound) {ref : Ref} (listed : ref ∈ c.graph.nodes) :
    ref < c.pool.nodes.size := by
  obtain ⟨id, hid, -⟩ := h.id_of_mem listed
  exact Pool.lt_of_id hid

/-- Two listed nodes with one id are the same. -/
theorem Circuit.Sound.eq_of_id (h : c.Sound) {ref other : Ref} (listed : ref ∈ c.graph.nodes)
    (listed' : other ∈ c.graph.nodes) (same : (c.node ref).id = (c.node other).id) :
    ref = other := by
  obtain ⟨id, hid, -⟩ := h.id_of_mem listed
  have first := lookup_of_mem h.keys_nodup (h.mem_index.mpr ⟨listed, hid⟩)
  have second := lookup_of_mem h.keys_nodup (h.mem_index.mpr ⟨listed', same.symm.trans hid⟩)
  exact Option.some.inj (first.symm.trans second)

theorem Circuit.Sound.nodes_nodup (h : c.Sound) : c.graph.nodes.Nodup := by
  have keys : (c.graph.nodes.map fun ref => (c.node ref).id).Nodup := by
    rw [h.ids]
    exact List.Nodup.map (fun _ _ same => Option.some.inj same) h.keys_nodup
  exact List.Nodup.of_map _ keys

/-- Members are nodes of the pool. -/
theorem Circuit.lt_of_contains {ref : Ref} (member : c.contains ref) :
    ref < c.pool.nodes.size := by
  unfold Circuit.contains at member
  split at member
  · rename_i id bears
    exact Pool.lt_of_id bears
  · cases member

/-- Members are the listed nodes. -/
theorem Circuit.Sound.contains_iff (h : c.Sound) (ref : Ref) :
    c.contains ref ↔ ref ∈ c.graph.nodes := by
  constructor
  · intro member
    simp only [Circuit.contains] at member
    split at member
    · exact (h.mem_index.mp (mem_of_lookup (of_decide_eq_true member))).1
    · cases member
  · intro listed
    obtain ⟨id, hid, -⟩ := h.id_of_mem listed
    simp only [Circuit.contains, hid]
    exact decide_eq_true (lookup_of_mem h.keys_nodup (h.mem_index.mpr ⟨listed, hid⟩))

/-- What holds of a node goes on to hold in a larger list, where the outlets are still there. -/
theorem Node.Wired.mono {node : Node} {nodes later : List Ref} {pool next : Pool}
    (h : node.Wired nodes pool) (listed : ∀ ref ∈ nodes, ref ∈ later)
    (outlets : ∀ ref ∈ nodes, (next.get ref).outlets.length = (pool.get ref).outlets.length) :
    node.Wired later next := by
  refine ⟨h.inlets, h.outlets, ?_, h.once⟩
  intro sources mem outlet from_here
  obtain ⟨source, slot⟩ := h.sources sources mem outlet from_here
  exact ⟨listed _ source, by rw [outlets _ source]; exact slot⟩

/-- Ids and places do not matter to the wiring. -/
theorem Node.Wired.relabel {node : Node} {nodes : List Ref} {pool : Pool}
    (h : node.Wired nodes pool) (id : Option Nat) (x y : Int) :
    Node.Wired { node with id, x, y } nodes pool :=
  ⟨h.inlets, h.outlets, h.sources, h.once⟩

theorem Node.Wired.of_keeps {before after : Node} {nodes : List Ref} {pool : Pool}
    (h : before.Wired nodes pool) (keep : before.Keeps after) : after.Wired nodes pool := by
  refine ⟨?_, ?_, ?_, ?_⟩
  · rw [keep.inlets, keep.body.inlets, h.inlets]
  · rw [keep.outlets h.outlets, keep.body.outlets, h.outlets]
  · rw [keep.inlets]
    exact h.sources
  · rw [keep.inlets]
    exact h.once

/-- A change of nodes that leaves the list, and the ids, the wiring and the slots of what is listed.
Ids may be passed over. -/
theorem Circuit.Sound.of_keeps {next : Circuit} (h : c.Sound)
    (nodes : next.graph.nodes = c.graph.nodes) (index : next.graph.index = c.graph.index)
    (nextId : c.graph.nextId ≤ next.graph.nextId)
    (keeps : ∀ ref ∈ c.graph.nodes, (c.node ref).Keeps (next.node ref)) : next.Sound := by
  refine ⟨?_, ?_, ?_, ?_⟩
  · rw [index, nodes, h.index]
    apply List.map_congr_left
    intro ref listed
    rw [(keeps ref listed).id]
  · rw [index]
    exact h.increasing
  · rw [index]
    intro id mem
    exact Nat.lt_of_lt_of_le (h.below id mem) nextId
  · rw [nodes]
    intro ref listed
    have kept := (h.wired ref listed).of_keeps (keeps ref listed)
    exact kept.mono (fun _ mem => mem) fun other mem =>
      (keeps other mem).outlets (h.wired other mem).outlets

/-- A tick keeps a circuit sound, also when it stays half done. -/
theorem Circuit.Sound.tick (h : c.Sound) (dt : Float) (controls : Controls) :
    (c.tick dt controls).1.Sound :=
  h.of_keeps (c.tick_nodes dt controls) (c.tick_index dt controls) (Nat.le_refl _)
    fun ref _ => c.tick_keeps dt controls ref

end Soundness

section Changes

variable {c : Circuit}

/-- A made node has all its slots, and nothing is connected. -/
theorem Node.ofBody_wired (body : Body) (nodes : List Ref) (pool : Pool) :
    (Node.ofBody body).Wired nodes pool := by
  have free : ∀ sources ∈ (Node.ofBody body).inlets, sources = [] := by
    intro sources mem
    obtain ⟨_, -, rfl⟩ := List.mem_map.mp mem
    rfl
  refine ⟨List.length_map _, List.length_map _, ?_, ?_⟩
  · intro sources mem outlet from_here
    rw [free sources mem] at from_here
    cases from_here
  · intro sources mem
    rw [free sources mem]
    exact List.nodup_nil

/-- Enters a node of the pool, under the next id. -/
def Circuit.enter (c : Circuit) (ref : Ref) (x y : Int) : Circuit :=
  (c.claim ref).append ref c.graph.nextId x y

theorem Circuit.enter_self (c : Circuit) {ref : Ref} (inside : ref < c.pool.nodes.size)
    (x y : Int) :
    (c.enter ref x y).node ref = { c.node ref with id := some c.graph.nextId, x, y } := by
  simp only [Circuit.enter, Circuit.append, Circuit.claim, Circuit.node]
  rw [Pool.get_modify_self _ _ (by rwa [Pool.size_modify]), Pool.get_modify_self _ _ inside]

theorem Circuit.enter_other (c : Circuit) {ref other : Ref} (differs : ref ≠ other) (x y : Int) :
    (c.enter ref x y).node other = c.node other := by
  simp only [Circuit.enter, Circuit.append, Circuit.claim, Circuit.node]
  rw [Pool.get_modify_ne _ _ differs, Pool.get_modify_ne _ _ differs]

theorem Circuit.Sound.enter_index (h : c.Sound) (ref : Ref) (x y : Int) :
    (c.enter ref x y).graph.index = c.graph.index ++ [(c.graph.nextId, ref)] :=
  putEntry_of_fresh fun mem => absurd (h.below _ mem) (Nat.lt_irrefl _)

/-- A node that is not listed may be entered if all that it reads from is listed then. -/
theorem Circuit.Sound.enter (h : c.Sound) {ref : Ref} (inside : ref < c.pool.nodes.size)
    (unlisted : ref ∉ c.graph.nodes) (wired : (c.node ref).Wired (c.graph.nodes ++ [ref]) c.pool)
    (x y : Int) : (c.enter ref x y).Sound := by
  have made := c.enter_self inside x y
  have old : ∀ other ∈ c.graph.nodes, (c.enter ref x y).node other = c.node other := by
    intro other listed
    refine c.enter_other (fun same => unlisted ?_) x y
    rwa [same]
  have nodes : (c.enter ref x y).graph.nodes = c.graph.nodes ++ [ref] := rfl
  have index := h.enter_index ref x y
  have nextId : (c.enter ref x y).graph.nextId = c.graph.nextId + 1 := rfl
  refine ⟨?_, ?_, ?_, ?_⟩
  · rw [index, nodes, List.map_append, List.map_append, h.index]
    congr 1
    · exact List.map_congr_left fun other listed => by rw [old other listed]
    · exact congrArg (fun node : Node => [(node.id, ref)]) made.symm
  · rw [index, List.map_append, List.pairwise_append]
    exact ⟨h.increasing, List.pairwise_singleton _ _, fun id mem other last => by
      rw [List.mem_singleton.mp last]
      exact h.below id mem⟩
  · rw [index, nextId, List.map_append]
    intro id mem
    rcases List.mem_append.mp mem with mem | last
    · exact Nat.lt_succ_of_lt (h.below id mem)
    · rw [List.mem_singleton.mp last]
      exact Nat.lt_succ_self _
  · have outlets : ∀ other ∈ c.graph.nodes ++ [ref],
        ((c.enter ref x y).pool.get other).outlets.length = (c.pool.get other).outlets.length := by
      intro other listed
      rcases List.mem_append.mp listed with listed | last
      · exact congrArg (·.outlets.length) (old other listed)
      · rw [List.mem_singleton.mp last]
        exact congrArg (·.outlets.length) made
    rw [nodes]
    intro other listed
    rcases List.mem_append.mp listed with listed | last
    · rw [old other listed]
      exact (h.wired other listed).mono (fun _ mem => List.mem_append_left _ mem)
        fun other mem => outlets other (List.mem_append_left _ mem)
    · rw [List.mem_singleton.mp last, made]
      exact (wired.relabel _ x y).mono (fun _ mem => mem) outlets

/-- Takes a new node into the pool, which no graph lists yet. -/
def Circuit.make (c : Circuit) (body : Body) : Circuit :=
  { c with pool := (c.pool.add (.ofBody body)).1 }

theorem Circuit.make_size (c : Circuit) (body : Body) :
    (c.make body).pool.nodes.size = c.pool.nodes.size + 1 := Pool.size_add ..

theorem Circuit.make_self (c : Circuit) (body : Body) :
    (c.make body).node c.pool.nodes.size = .ofBody body := c.pool.get_add_self _

theorem Circuit.make_other (c : Circuit) (body : Body) {other : Ref}
    (inside : other < c.pool.nodes.size) : (c.make body).node other = c.node other :=
  c.pool.get_add_of_lt _ inside

/-- A pool that takes in one more node leaves the graph in order. -/
theorem Circuit.Sound.make (h : c.Sound) (body : Body) : (c.make body).Sound := by
  refine h.of_keeps rfl rfl (Nat.le_refl _) fun ref listed => ?_
  rw [c.make_other body (h.lt_of_mem listed)]
  exact .refl _

/-- An id that is passed over leaves the graph in order. -/
theorem Circuit.Sound.claim (h : c.Sound) {ref : Ref} (unlisted : ref ∉ c.graph.nodes) :
    (c.claim ref).Sound := by
  refine h.of_keeps rfl rfl (Nat.le_succ _) fun other listed => ?_
  have differs : ref ≠ other := fun same => unlisted (same ▸ listed)
  rw [show (c.claim ref).node other = c.node other from c.pool.get_modify_ne _ differs]
  exact .refl _

/-- The node that `insert` makes. -/
theorem Circuit.insert_self (c : Circuit) (body : Body) (x y : Int) :
    let (next, ref) := c.insert body x y
    ref = c.pool.nodes.size ∧
      next.node ref = { Node.ofBody body with id := some c.graph.nextId, x, y } := by
  refine ⟨rfl, ?_⟩
  have inside : c.pool.nodes.size < (c.make body).pool.nodes.size := by
    rw [c.make_size]
    omega
  have entered := (c.make body).enter_self inside x y
  rwa [c.make_self] at entered

theorem Circuit.insert_other (c : Circuit) (body : Body) (x y : Int) {other : Ref}
    (inside : other < c.pool.nodes.size) :
    (c.insert body x y).1.node other = c.node other := by
  have entered := (c.make body).enter_other (Nat.ne_of_lt inside).symm x y
  exact entered.trans (c.make_other body inside)

/-- An insertion leaves the listed nodes alone and lists one more. -/
theorem Circuit.Sound.insert_frame (h : c.Sound) {body : Body} {x y : Int} {ref : Ref}
    (listed : ref ∈ (c.insert body x y).1.graph.nodes) :
    (ref ∈ c.graph.nodes ∧ (c.insert body x y).1.node ref = c.node ref) ∨
      (c.insert body x y).1.node ref =
        { Node.ofBody body with id := some c.graph.nextId, x, y } := by
  obtain ⟨-, made⟩ := c.insert_self body x y
  rcases List.mem_append.mp listed with old | last
  · exact .inl ⟨old, c.insert_other body x y (h.lt_of_mem old)⟩
  · rw [List.mem_singleton.mp last]
    exact .inr made

/-- A new node takes the next id, at the end of the list. -/
theorem Circuit.Sound.insert (h : c.Sound) (body : Body) (x y : Int) :
    (c.insert body x y).1.Sound := by
  have inside : c.pool.nodes.size < (c.make body).pool.nodes.size := by
    rw [c.make_size]
    omega
  refine (h.make body).enter inside ?_ ?_ x y
  · exact fun listed => absurd (h.lt_of_mem listed) (Nat.lt_irrefl _)
  · rw [c.make_self]
    exact Node.ofBody_wired body _ _

theorem slot?_eq_some {n : Int} {count slot : Nat} :
    slot? n count = some slot ↔ n = slot ∧ slot < count := by
  rw [slot?]
  split
  · rename_i inside
    simp only [Bool.and_eq_true, decide_eq_true_eq] at inside
    rw [Option.some.injEq]
    omega
  · rename_i outside
    simp only [Bool.and_eq_true, decide_eq_true_eq] at outside
    simp only [reduceCtorEq, false_iff]
    omega

/-- A connection that is made leads from an outlet of a member to an inlet of a member, and all such
connections are made. -/
theorem Circuit.connect_eq_ok {source target : Ref} {outletSlot inletSlot : Int}
    {made : Circuit × Bool} :
    c.connect source outletSlot target inletSlot = .ok made ↔
      c.contains source ∧ c.contains target ∧ ∃ outlet inlet : Nat,
        (outletSlot = outlet ∧ outlet < (c.node source).outlets.length) ∧
        (inletSlot = inlet ∧ inlet < (c.node target).inlets.length) ∧
        c.wire source target outlet inlet = made := by
  simp only [Circuit.connect, Circuit.checkMember, ← slot?_eq_some]
  by_cases hsource : c.contains source
  · by_cases htarget : c.contains target
    · simp only [hsource, htarget, ↓reduceIte, true_and]
      cases slot? outletSlot (c.node source).outlets.length with
      | none => simp [bind, Except.bind, throw, throwThe, MonadExceptOf.throw]
      | some outlet =>
          cases slot? inletSlot (c.node target).inlets.length with
          | none => simp [bind, Except.bind, throw, throwThe, MonadExceptOf.throw]
          | some inlet => simp [bind, Except.bind, pure, Except.pure]
    · simp [hsource, htarget, bind, Except.bind]
  · simp [hsource, bind, Except.bind]

/-- Nodes that are connected anew, and otherwise stay. -/
theorem Circuit.Sound.rewire (h : c.Sound) {pool : Pool}
    (same : ∀ ref, pool.get ref = { c.node ref with inlets := (pool.get ref).inlets })
    (wired : ∀ ref ∈ c.graph.nodes, (pool.get ref).Wired c.graph.nodes c.pool) :
    Circuit.Sound { c with pool } := by
  have ids : ∀ ref, (pool.get ref).id = (c.node ref).id := fun ref => by rw [same ref]
  have outlets : ∀ ref, (pool.get ref).outlets = (c.node ref).outlets := fun ref => by
    rw [same ref]
  refine ⟨?_, h.increasing, h.below, ?_⟩
  · show _ = c.graph.nodes.map fun ref => ((pool.get ref).id, ref)
    rw [h.index]
    exact List.map_congr_left fun ref _ => by rw [ids ref]
  · intro ref listed
    exact (wired ref listed).mono (fun _ mem => mem) fun other _ =>
      congrArg List.length (outlets other)

/-- The sources of an inlet with one more, unless it is there. -/
def addOutlet (outlet : Outlet) (sources : List Outlet) : List Outlet :=
  if outlet ∈ sources then sources else sources ++ [outlet]

theorem Circuit.wire_graph (c : Circuit) (source target : Ref) (outletSlot inletSlot : Nat) :
    (c.wire source target outletSlot inletSlot).1.graph = c.graph := by
  simp only [Circuit.wire]
  split <;> rfl

theorem Circuit.wire_size (c : Circuit) (source target : Ref) (outlet inlet : Nat) :
    (c.wire source target outlet inlet).1.pool.nodes.size = c.pool.nodes.size := by
  simp only [Circuit.wire]
  split
  · rfl
  · exact Pool.size_modify ..

/-- A wire changes one inlet. -/
theorem Circuit.wire_node (c : Circuit) (source : Ref) {target : Ref} (outletSlot inletSlot : Nat)
    (inside : target < c.pool.nodes.size) (ref : Ref) :
    (c.wire source target outletSlot inletSlot).1.node ref =
      if ref = target then
        { c.node ref with
          inlets := (c.node ref).inlets.set inletSlot
            (addOutlet ⟨source, outletSlot⟩ ((c.node ref).inlets.getD inletSlot [])) }
      else c.node ref := by
  simp only [Circuit.wire, addOutlet]
  split
  · rename_i old
    split
    · rename_i same
      subst same
      rw [if_pos old, set_getD_self]
    · rfl
  · rename_i new
    split
    · rename_i same
      subst same
      rw [if_neg new]
      exact c.pool.get_modify_self _ inside
    · rename_i differs
      exact c.pool.get_modify_ne _ (Ne.symm differs)

/-- One more outlet that is there may be read from, which an inlet does not take twice. -/
theorem Node.Wired.attach {node : Node} {nodes : List Ref} {pool : Pool}
    (h : node.Wired nodes pool) {outlet : Outlet} (listed : outlet.ref ∈ nodes)
    (slot : outlet.slot < (pool.get outlet.ref).outlets.length) (inletSlot : Nat) :
    Node.Wired { node with
      inlets := node.inlets.set inletSlot (addOutlet outlet (node.inlets.getD inletSlot [])) }
      nodes pool := by
  let sources := node.inlets.getD inletSlot []
  have given : sources ∈ node.inlets ∨ sources = [] := by
    simp only [sources, List.getD_eq_getElem?_getD]
    cases found : node.inlets[inletSlot]? with
    | none => exact .inr rfl
    | some sources => exact .inl (List.mem_of_getElem? found)
  have there : ∀ wire ∈ sources, wire.ref ∈ nodes ∧
      wire.slot < (pool.get wire.ref).outlets.length := by
    rcases given with given | free
    · exact h.sources sources given
    · rw [free]
      exact fun _ mem => nomatch mem
  have nodup : sources.Nodup := by
    rcases given with given | free
    · exact h.once sources given
    · rw [free]
      exact List.nodup_nil
  refine ⟨(List.length_set ..).trans h.inlets, h.outlets, ?_, ?_⟩
  · intro entry mem
    rcases List.mem_or_eq_of_mem_set mem with mem | rfl
    · exact h.sources entry mem
    · intro wire from_here
      unfold addOutlet at from_here
      split at from_here
      · exact there wire from_here
      · rcases List.mem_append.mp from_here with from_here | last
        · exact there wire from_here
        · rw [List.mem_singleton.mp last]
          exact ⟨listed, slot⟩
  · intro entry mem
    rcases List.mem_or_eq_of_mem_set mem with mem | rfl
    · exact h.once entry mem
    · unfold addOutlet
      split
      · exact nodup
      · rename_i new
        rw [← List.concat_eq_append]
        exact nodup.concat new

/-- A wire between listed nodes, where an inlet does not take one outlet twice. -/
theorem Circuit.Sound.wire (h : c.Sound) {source target : Ref} {outletSlot inletSlot : Nat}
    (listed : source ∈ c.graph.nodes) (listed' : target ∈ c.graph.nodes)
    (outlet : outletSlot < (c.node source).outlets.length) :
    (c.wire source target outletSlot inletSlot).1.Sound := by
  have wired := c.wire_node source outletSlot inletSlot (h.lt_of_mem listed')
  have same : (c.wire source target outletSlot inletSlot).1 =
      { c with pool := (c.wire source target outletSlot inletSlot).1.pool } := by
    have graph := c.wire_graph source target outletSlot inletSlot
    cases made : (c.wire source target outletSlot inletSlot).1
    rw [made] at graph
    rw [← graph]
  rw [same]
  refine h.rewire (fun ref => ?_) (fun ref mem => ?_)
  · rw [show Pool.get _ ref = _ from wired ref]
    split <;> rfl
  · rw [show Pool.get _ ref = _ from wired ref]
    split
    · exact (h.wired ref mem).attach listed outlet inletSlot
    · exact h.wired ref mem

/-- A connection that is made keeps a circuit sound. -/
theorem Circuit.Sound.connect (h : c.Sound) {next : Circuit} {source target : Ref}
    {outletSlot inletSlot : Int} {added : Bool}
    (made : c.connect source outletSlot target inletSlot = .ok (next, added)) : next.Sound := by
  obtain ⟨member, member', outlet, inlet, ⟨-, before⟩, -, wired⟩ :=
    Circuit.connect_eq_ok.mp made
  have listed := (h.contains_iff source).mp member
  have listed' := (h.contains_iff target).mp member'
  obtain rfl : (c.wire source target outlet inlet).1 = next := congrArg Prod.fst wired
  exact h.wire listed listed' before

theorem Circuit.connect_graph {next : Circuit} {source target : Ref} {outletSlot inletSlot : Int}
    {added : Bool} (made : c.connect source outletSlot target inletSlot = .ok (next, added)) :
    next.graph = c.graph := by
  obtain ⟨-, -, outlet, inlet, -, -, wired⟩ := Circuit.connect_eq_ok.mp made
  obtain rfl : (c.wire source target outlet inlet).1 = next := congrArg Prod.fst wired
  exact c.wire_graph source target outlet inlet

/-- A connection changes nothing but inlets. -/
theorem Circuit.connect_frame {next : Circuit} {source target : Ref}
    {outletSlot inletSlot : Int} {added : Bool}
    (made : c.connect source outletSlot target inletSlot = .ok (next, added)) :
    next.graph = c.graph ∧
      ∀ ref, next.node ref = { c.node ref with inlets := (next.node ref).inlets } := by
  obtain ⟨-, member, outlet, inlet, -, -, wired⟩ := Circuit.connect_eq_ok.mp made
  have inside := Circuit.lt_of_contains member
  refine ⟨Circuit.connect_graph made, fun ref => ?_⟩
  obtain rfl : (c.wire source target outlet inlet).1 = next := congrArg Prod.fst wired
  rw [c.wire_node source outlet inlet inside ref]
  split <;> rfl

/-- Scrubbing takes note of ids only, and changes none. -/
theorem Pool.dropSources_congr {pool next : Pool}
    (ids : ∀ ref, (next.get ref).id = (pool.get ref).id) (id : Int) :
    next.dropSources id = pool.dropSources id := by
  have numbers : ∀ ref, (next.get ref).idNumber = (pool.get ref).idNumber := fun ref => by
    simp only [Node.idNumber, ids]
  funext sources
  exact List.filter_congr fun outlet _ => by rw [numbers]

theorem Pool.scrub_get (pool : Pool) (id : Int) (ref other : Ref) :
    (pool.scrub id ref).get other =
      if other = ref then
        { pool.get other with inlets := (pool.get other).inlets.map (pool.dropSources id) }
      else pool.get other := by
  split
  · rename_i same
    subst same
    by_cases inside : other < pool.nodes.size
    · exact pool.get_modify_self _ inside
    · have outside := Nat.le_of_not_lt inside
      rw [Pool.scrub, Pool.modify, pool.set_of_le _ outside, pool.get_of_le outside]
      rfl
  · rename_i differs
    exact pool.get_modify_ne _ (Ne.symm differs)

/-- Some nodes lose the sources that bear an id; all others stay. -/
theorem Pool.scrub_all_get (id : Int) (refs : List Ref) (nodup : refs.Nodup) (pool : Pool)
    (ref : Ref) :
    (refs.foldl (fun pool other => pool.scrub id other) pool).get ref =
      if ref ∈ refs then
        { pool.get ref with inlets := (pool.get ref).inlets.map (pool.dropSources id) }
      else pool.get ref := by
  induction refs generalizing pool with
  | nil => simp
  | cons first refs ih =>
      rw [List.nodup_cons] at nodup
      have ids : ∀ other, ((pool.scrub id first).get other).id = (pool.get other).id := by
        intro other
        rw [pool.scrub_get]
        split <;> rfl
      rw [List.foldl_cons, ih nodup.2, Pool.dropSources_congr ids, pool.scrub_get]
      by_cases same : ref = first
      · subst same
        simp [nodup.1]
      · simp [same]

/-- Scrubbing changes nothing but inlets. -/
theorem Pool.scrub_all_frame (id : Int) (refs : List Ref) (pool : Pool) (other : Ref) :
    let next := refs.foldl (fun pool ref => pool.scrub id ref) pool
    next.get other = { pool.get other with inlets := (next.get other).inlets } := by
  induction refs generalizing pool with
  | nil => rfl
  | cons ref refs ih =>
      refine (ih (pool.scrub id ref)).trans ?_
      rw [pool.scrub_get]
      split <;> rfl

/-- Members can be removed. The wires that lead from them are scrubbed, as far as the nodes that
stay read from them. -/
theorem Circuit.remove_eq_ok {ref : Ref} {next : Circuit} :
    c.remove ref = .ok next ↔ c.contains ref ∧
      { c with
        pool := (c.graph.nodes.erase ref).foldl
          (fun pool other => pool.scrub (c.node ref).idNumber other) c.pool
        graph := { c.graph with
          nodes := c.graph.nodes.erase ref
          index := c.graph.index.filter fun entry => (entry.1 : Int) ≠ (c.node ref).idNumber } } =
        next := by
  unfold Circuit.remove Circuit.checkMember
  by_cases member : c.contains ref
  · simp [member, bind, Except.bind, pure, Except.pure]
  · simp [member, bind, Except.bind]

/-- Removing a member takes it off the list, and changes nothing but inlets in the nodes. -/
theorem Circuit.remove_frame {ref : Ref} {next : Circuit} (removed : c.remove ref = .ok next) :
    next.graph.nodes = c.graph.nodes.erase ref ∧
      ∀ other, next.node other = { c.node other with inlets := (next.node other).inlets } := by
  obtain ⟨-, rfl⟩ := Circuit.remove_eq_ok.mp removed
  exact ⟨rfl, Pool.scrub_all_frame _ _ _⟩

theorem Node.Wired.scrub {node : Node} {nodes : List Ref} {pool : Pool}
    (h : node.Wired nodes pool) (id : Int) :
    Node.Wired { node with inlets := node.inlets.map (pool.dropSources id) } nodes pool := by
  refine ⟨(List.length_map _).trans h.inlets, h.outlets, ?_, ?_⟩
  · intro sources there outlet from_here
    obtain ⟨all, given, rfl⟩ := List.mem_map.mp there
    exact h.sources all given outlet (List.mem_of_mem_filter from_here)
  · intro sources there
    obtain ⟨all, given, rfl⟩ := List.mem_map.mp there
    exact (h.once all given).filter _

/-- Nodes that lose sources go on to read from listed nodes only. -/
theorem Circuit.Sound.scrub (h : c.Sound) (id : Int) {refs : List Ref} (nodup : refs.Nodup) :
    Circuit.Sound { c with pool := refs.foldl (fun pool other => pool.scrub id other) c.pool } := by
  have scrubbed := c.pool.scrub_all_get id refs nodup
  refine h.rewire ?_ ?_
  · intro ref
    rw [scrubbed ref]
    split <;> rfl
  · intro ref listed
    rw [scrubbed ref]
    split
    · exact (h.wired ref listed).scrub id
    · exact h.wired ref listed

/-- A listed node from which no other listed node reads may go. -/
theorem Circuit.Sound.drop (h : c.Sound) {ref : Ref} {id : Nat} (hid : (c.node ref).id = some id)
    (listed : ref ∈ c.graph.nodes)
    (unread : ∀ other ∈ c.graph.nodes.erase ref, ∀ sources ∈ (c.node other).inlets,
      ∀ outlet ∈ sources, outlet.ref ≠ ref) :
    Circuit.Sound { c with graph := { c.graph with
      nodes := c.graph.nodes.erase ref
      index := c.graph.index.filter fun entry => entry.1 ≠ id } } := by
  let stays (entry : Option Nat × Ref) : Bool := entry.1 ≠ some id
  have nodes : c.graph.nodes.erase ref =
      c.graph.nodes.filter (stays ∘ fun other => ((c.node other).id, other)) := by
    rw [h.nodes_nodup.erase_eq_filter]
    apply List.filter_congr
    intro other mem
    have same : other = ref ↔ (c.node other).id = some id := by
      constructor
      · rintro rfl
        exact hid
      · exact fun same => h.eq_of_id mem listed (same.trans hid.symm)
    by_cases gone : other = ref
    · simp [stays, gone, hid]
    · simp [stays, gone, same.not.mp gone]
  have index : (c.graph.index.filter fun entry => entry.1 ≠ id) =
      c.graph.index.filter (stays ∘ fun entry => (some entry.1, entry.2)) := by
    apply List.filter_congr
    intro entry _
    simp [stays]
  refine ⟨?_, ?_, ?_, ?_⟩
  · show (c.graph.index.filter _).map _ = (c.graph.nodes.erase ref).map _
    rw [index, nodes, ← List.filter_map, h.index, List.filter_map]
    rfl
  · exact h.increasing.sublist ((List.filter_sublist).map _)
  · intro other mem
    exact h.below other ((List.filter_sublist.map _).subset mem)
  · intro other mem
    have wired := h.wired other (List.mem_of_mem_erase mem)
    refine ⟨wired.inlets, wired.outlets, ?_, wired.once⟩
    intro sources given outlet from_here
    obtain ⟨source, slot⟩ := wired.sources sources given outlet from_here
    exact ⟨(List.mem_erase_of_ne (unread other mem sources given outlet from_here)).mpr source,
      slot⟩

/-- A removed node leaves nothing behind in the others. -/
theorem Circuit.Sound.remove (h : c.Sound) {ref : Ref} {next : Circuit}
    (removed : c.remove ref = .ok next) : next.Sound := by
  obtain ⟨member, result⟩ := Circuit.remove_eq_ok.mp removed
  have listed := (h.contains_iff ref).mp member
  obtain ⟨id, hid, -⟩ := h.id_of_mem listed
  have number : (c.node ref).idNumber = id := by simp only [Node.idNumber, hid]
  let others := c.graph.nodes.erase ref
  let pool := others.foldl (fun pool other => pool.scrub id other) c.pool
  have scrubbed := c.pool.scrub_all_get id others (h.nodes_nodup.erase ref)
  have kept : (c.graph.index.filter fun entry => (entry.1 : Int) ≠ (id : Int)) =
      c.graph.index.filter fun entry => entry.1 ≠ id := by
    apply List.filter_congr
    intro entry _
    simp only [ne_eq, Int.natCast_inj]
  -- the wires are scrubbed first, while all nodes are still listed
  have scrubbedSound : Circuit.Sound { c with pool } := h.scrub id (h.nodes_nodup.erase ref)
  have sameId : (pool.get ref).id = some id := by
    rw [show pool.get ref = _ from scrubbed ref]
    split <;> exact hid
  rw [number, kept] at result
  rw [← result]
  refine scrubbedSound.drop sameId listed ?_
  intro other mem sources there outlet from_here reads
  rw [show Circuit.node { c with pool } other = _ from scrubbed other,
    if_pos (show other ∈ others from mem)] at there
  obtain ⟨all, given, rfl⟩ := List.mem_map.mp there
  have stays := List.of_mem_filter from_here
  rw [reads, show c.pool.get ref = c.node ref from rfl, number] at stays
  simp at stays

end Changes

end SignalGraph
