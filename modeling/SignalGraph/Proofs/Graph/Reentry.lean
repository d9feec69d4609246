import SignalGraph.Proofs.Graph.Calls
import SignalGraph.Proofs.Session.Wiring

/-!
Nodes that come back. A node that leaves a graph, alone or with all others, keeps its inlets, and
may be entered again when the nodes that it reads from are gone. So a graph holds together as long
as every node that enters it reads from members and from itself, and no longer.
-/

namespace SignalGraph

section Members

/-- A circuit that holds together. Its members read from outlets of members, its connections name
the two members that they join, and its text knows the position of every node. -/
structure Circuit.Intact (c : Circuit) : Prop where
  sources : ∀ ref, c.contains ref → ∀ sources ∈ (c.node ref).inlets, ∀ outlet ∈ sources,
    c.contains outlet.ref ∧ outlet.slot < (c.node outlet.ref).outlets.length
  links : ∀ link ∈ c.links, ∃ source target, c.contains source ∧ c.contains target ∧
    c.find (.int link.source) = .ok source ∧ c.find (.int link.target) = .ok target ∧
      ∃ sources, (c.node target).inlets[link.inletSlot]? = some sources ∧
        { ref := source, slot := link.outletSlot } ∈ sources
  saves : ∀ id, c.save ≠ .error (.noPosition id)

/-- A node that a call enters must read from members, or from itself. -/
def Circuit.Welcomes (c : Circuit) : GraphCall → Prop
  | .spawn ref x y => ¬c.Forbids (.spawn ref x y) →
      ∀ sources ∈ (c.node ref).inlets, ∀ outlet ∈ sources,
        c.contains outlet.ref ∨ outlet.ref = ref
  | _ => True

variable {c : Circuit}

/-- A member is found by the id that it bears. -/
theorem Circuit.find_of_contains {ref : Ref} (member : c.contains ref) :
    c.find (.int (c.node ref).idNumber) = .ok ref := by
  unfold Circuit.contains at member
  split at member
  · rename_i id bears
    rw [Node.idNumber, bears]
    exact Circuit.find_of_lookup (of_decide_eq_true member)
  · cases member

theorem Circuit.Sound.intact (h : c.Sound) : c.Intact := by
  refine ⟨?_, ?_, h.save⟩
  · intro ref member sources given outlet from_here
    have listed := (h.contains_iff ref).mp member
    obtain ⟨source, slot⟩ := (h.wired ref listed).sources sources given outlet from_here
    exact ⟨(h.contains_iff _).mpr source, slot⟩
  · intro link mem
    obtain ⟨source, listed, target, listed', hsource, htarget, -, reads⟩ := h.joins mem
    have member := (h.contains_iff source).mpr listed
    have member' := (h.contains_iff target).mpr listed'
    refine ⟨source, target, member, member', ?_, ?_, reads⟩
    · rw [hsource]
      exact Circuit.find_of_contains member
    · rw [htarget]
      exact Circuit.find_of_contains member'

end Members

section Pools

variable {pool : Pool}

/-- Every node has the slots of its body and reads from outlets that there are, as a node must that
may be entered into a graph. -/
def Pool.Formed (pool : Pool) : Prop :=
  ∀ ref < pool.nodes.size, (pool.get ref).Wired (List.range pool.nodes.size) pool

/-- Nodes may be changed where they stand, as long as they stay wired and keep their outlets. -/
theorem Pool.formed_of_wired {next : Pool} (size : next.nodes.size = pool.nodes.size)
    (wired : ∀ ref < pool.nodes.size, (next.get ref).Wired (List.range pool.nodes.size) pool ∧
      (next.get ref).outlets.length = (pool.get ref).outlets.length) : next.Formed := by
  unfold Pool.Formed
  rw [size]
  intro ref inside
  exact (wired ref inside).1.mono (fun _ mem => mem) fun other mem =>
    (wired other (List.mem_range.mp mem)).2

/-- Nodes may be added behind those that there are. -/
theorem Pool.Formed.extend (h : pool.Formed) {next : Pool}
    (size : pool.nodes.size ≤ next.nodes.size)
    (old : ∀ ref < pool.nodes.size, next.get ref = pool.get ref)
    (new : ∀ ref < next.nodes.size, pool.nodes.size ≤ ref →
      (next.get ref).Wired (List.range next.nodes.size) next) : next.Formed := by
  intro ref inside
  rcases Nat.lt_or_ge ref pool.nodes.size with early | late
  · rw [old ref early]
    apply (h ref early).mono
    · intro other mem
      rw [List.mem_range] at mem ⊢
      omega
    · intro other mem
      rw [old other (List.mem_range.mp mem)]
  · exact new ref inside late

theorem Pool.Formed.add (h : pool.Formed) (body : Body) :
    (pool.add (.ofBody body)).1.Formed := by
  apply h.extend
  · rw [Pool.size_add]
    omega
  · exact fun ref early => pool.get_add_of_lt _ early
  · intro ref inside late
    rw [Pool.size_add] at inside
    obtain rfl : ref = pool.nodes.size := by omega
    rw [show (pool.add (.ofBody body)).1.get pool.nodes.size = _ from pool.get_add_self _]
    exact Node.ofBody_wired body _ _

/-- A change of one node that leaves its wiring alone. -/
theorem Pool.Formed.modify (h : pool.Formed) (ref : Ref) {f : Node → Node}
    (wired : ∀ node nodes, node.Wired nodes pool → (f node).Wired nodes pool)
    (outlets : ∀ node, (f node).outlets = node.outlets) : (pool.modify ref f).Formed := by
  apply Pool.formed_of_wired (Pool.size_modify ..)
  intro other inside
  by_cases same : ref = other
  · subst same
    rw [pool.get_modify_self f inside, outlets]
    exact ⟨wired _ _ (h ref inside), rfl⟩
  · rw [pool.get_modify_ne f same]
    exact ⟨h other inside, rfl⟩

theorem Pool.scrub_all_size (id : Int) (refs : List Ref) (pool : Pool) :
    (refs.foldl (fun pool other => pool.scrub id other) pool).nodes.size = pool.nodes.size := by
  induction refs generalizing pool with
  | nil => rfl
  | cons ref refs ih =>
      rw [List.foldl_cons, ih]
      exact Pool.size_modify ..

end Pools

section Steps

/-- A circuit whose graph is in order and of whose nodes any may be entered, as far as its own slots
go. -/
structure Circuit.Orderly (c : Circuit) : Prop where
  sound : c.Sound
  formed : c.pool.Formed

variable {c : Circuit}

theorem Circuit.Orderly.clear (h : c.Orderly) :
    Circuit.Orderly { c with graph := c.graph.clear } :=
  ⟨Circuit.sound_of_empty rfl rfl, h.formed⟩

theorem Circuit.Orderly.make (h : c.Orderly) (body : Body) : (c.make body).Orderly :=
  ⟨h.sound.make body, h.formed.add body⟩

theorem Circuit.Orderly.claim (h : c.Orderly) {ref : Ref} (unlisted : ref ∉ c.graph.nodes) :
    (c.claim ref).Orderly := by
  refine ⟨h.sound.claim unlisted, ?_⟩
  apply h.formed.modify
  · exact fun node _ wired => wired.relabel _ node.x node.y
  · exact fun _ => rfl

/-- An unlisted node is entered in order when it reads from listed nodes, and from itself. -/
theorem Circuit.Orderly.enter (h : c.Orderly) {ref : Ref} (inside : ref < c.pool.nodes.size)
    (unlisted : ref ∉ c.graph.nodes)
    (reads : ∀ sources ∈ (c.node ref).inlets, ∀ outlet ∈ sources,
      outlet.ref ∈ c.graph.nodes ++ [ref]) (x y : Int) : (c.enter ref x y).Orderly := by
  have wired := h.formed ref inside
  constructor
  · apply h.sound.enter inside unlisted
    refine ⟨wired.inlets, wired.outlets, ?_, wired.once⟩
    intro sources given outlet from_here
    exact ⟨reads sources given outlet from_here, (wired.sources sources given outlet from_here).2⟩
  · have claimed := (h.claim unlisted).formed
    apply claimed.modify
    · exact fun node _ wired => wired.relabel node.id x y
    · exact fun _ => rfl

theorem Circuit.Orderly.insert (h : c.Orderly) (body : Body) (x y : Int) :
    (c.insert body x y).1.Orderly := by
  have inside : c.pool.nodes.size < (c.make body).pool.nodes.size := by
    rw [c.make_size]
    omega
  refine (h.make body).enter inside ?_ ?_ x y
  · exact fun listed => absurd (h.sound.lt_of_mem listed) (Nat.lt_irrefl _)
  · have free := (Node.ofBody_wired body [] c.pool).sources
    rw [c.make_self]
    intro sources given outlet from_here
    exact absurd (free sources given outlet from_here).1 List.not_mem_nil

theorem Circuit.Orderly.connect (h : c.Orderly) {next : Circuit} {source target : Ref}
    {outletSlot inletSlot : Int} {added : Bool}
    (made : c.connect source outletSlot target inletSlot = .ok (next, added)) : next.Orderly := by
  refine ⟨h.sound.connect made, ?_⟩
  obtain ⟨member, member', outlet, inlet, ⟨-, before⟩, -, wired⟩ := Circuit.connect_eq_ok.mp made
  have inside := h.sound.lt_of_mem ((h.sound.contains_iff source).mp member)
  have inside' := h.sound.lt_of_mem ((h.sound.contains_iff target).mp member')
  obtain rfl : (c.wire source target outlet inlet).1 = next := congrArg Prod.fst wired
  apply Pool.formed_of_wired (c.wire_size source target outlet inlet)
  intro ref there
  rw [show Pool.get _ ref = _ from c.wire_node source outlet inlet inside' ref]
  split
  · exact ⟨(h.formed ref there).attach (List.mem_range.mpr inside) before inlet, rfl⟩
  · exact ⟨h.formed ref there, rfl⟩

theorem Circuit.Orderly.remove (h : c.Orderly) {ref : Ref} {next : Circuit}
    (removed : c.remove ref = .ok next) : next.Orderly := by
  refine ⟨h.sound.remove removed, ?_⟩
  obtain ⟨-, rfl⟩ := Circuit.remove_eq_ok.mp removed
  apply Pool.formed_of_wired (Pool.scrub_all_size ..)
  intro other inside
  rw [Pool.scrub_all_get _ _ (h.sound.nodes_nodup.erase ref)]
  split
  · exact ⟨(h.formed other inside).scrub _, rfl⟩
  · exact ⟨h.formed other inside, rfl⟩

theorem Circuit.Orderly.tick (h : c.Orderly) (dt : Float) (controls : Controls) :
    (c.tick dt controls).1.Orderly := by
  refine ⟨h.sound.tick dt controls, ?_⟩
  obtain ⟨size, keeps⟩ := Turn.run_keeps { dt, controls }
    { pool := c.pool, generator := c.graph.generator } c.graph.nodes
  apply Pool.formed_of_wired size
  intro ref inside
  have wired := h.formed ref inside
  exact ⟨wired.of_keeps (keeps ref), (keeps ref).outlets wired.outlets⟩

theorem Circuit.Orderly.load (h : c.Orderly) (text : String) : (c.load text).Orderly :=
  c.load_induction text h.clear (fun _ _ _ _ _ body x y _ _ _ _ h => h.insert body x y)
    fun _ _ _ _ _ _ _ made h => h.connect made

/-- The nodes of a script stand behind those that there were, and read from each other only. -/
theorem Circuit.Orderly.install (h : c.Orderly) {gates : Array Script.Gate}
    (wired : Script.WellWired gates.toList) : (c.install gates).Orderly := by
  have sound := c.install_sound wired
  have size : (c.install gates).pool.nodes.size = c.pool.nodes.size + gates.size := by
    simp only [Circuit.install, Array.size_append, Array.size_mapIdx]
  refine ⟨sound, ?_⟩
  apply h.formed.extend
  · omega
  · intro ref early
    simp only [Circuit.install, Pool.get, Array.getD_eq_getD_getElem?,
      Array.getElem?_append_left early]
  · intro ref inside late
    have listed : ref ∈ (c.install gates).graph.nodes := by
      apply List.mem_map.mpr
      refine ⟨ref - c.pool.nodes.size, List.mem_range.mpr ?_, ?_⟩ <;> omega
    exact (sound.wired ref listed).mono
      (fun _ mem => List.mem_range.mpr (sound.lt_of_mem mem)) fun _ _ => rfl

theorem Circuit.Orderly.compile (h : c.Orderly) (mode : CompileMode) (source : String) :
    (c.compile mode source).1.Orderly := by
  have wired := (Script.compile_valid source).wired
  rcases c.compile_leaves mode source with same | same <;> rw [same]
  · exact h
  · exact h.install wired

/-- An entered node is a member then. -/
theorem Circuit.contains_enter {ref : Ref} (inside : ref < c.pool.nodes.size) (x y : Int) :
    (c.enter ref x y).contains ref := by
  have found : (c.enter ref x y).graph.index.lookup c.graph.nextId = some ref :=
    lookup_putEntry_self _ _ _
  unfold Circuit.contains
  rw [c.enter_self inside x y]
  exact decide_eq_true found

/-- Nothing else becomes a member, whatever the entered node reads from. -/
theorem Circuit.Sound.contains_of_enter (h : c.Sound) {ref other : Ref} {x y : Int}
    (member : (c.enter ref x y).contains other) : c.contains other ∨ other = ref := by
  by_cases same : ref = other
  · exact .inr same.symm
  · left
    unfold Circuit.contains at member
    rw [c.enter_other same x y, h.enter_index] at member
    rw [h.contains_iff]
    split at member
    · have found := mem_of_lookup (of_decide_eq_true member)
      rcases List.mem_append.mp found with old | last
      · exact (h.mem_index.mp old).1
      · obtain ⟨-, rfl⟩ := Prod.mk.inj (List.mem_singleton.mp last)
        exact absurd rfl same
    · cases member

/-- Every call leaves a circuit in order that welcomes the node that it may enter. -/
theorem Circuit.Orderly.call (h : c.Orderly) {call : GraphCall} (given : c.pool.Has call)
    (welcome : c.Welcomes call) : (c.call call).1.Orderly := by
  apply Circuit.call_induction
  case keep => exact h
  case make => exact h.make
  case claim =>
    intro ref stranger
    rw [h.sound.contains_iff] at stranger
    exact h.claim stranger
  case enter =>
    rintro ref x y rfl allowed column row
    have stranger : ref ∉ c.graph.nodes :=
      fun listed => allowed (.inl ((h.sound.contains_iff ref).mpr listed))
    refine h.enter given stranger (fun sources there outlet from_here => ?_) column row
    rcases welcome allowed sources there outlet from_here with member | self
    · exact List.mem_append_left _ ((h.sound.contains_iff _).mp member)
    · exact List.mem_append_right _ (List.mem_singleton.mpr self)
  case connect => exact fun _ _ _ _ _ _ made => h.connect made
  case remove => exact fun _ _ removed => h.remove removed
  case clear => exact fun _ => h.clear
  case count =>
    have sound : c.count.Sound := h.sound.of_keeps rfl rfl (Nat.le_refl _) fun _ _ => .refl _
    exact ⟨sound, h.formed⟩
  case tick => exact h.tick
  case load => exact fun text _ => h.load text
  case compile => exact fun mode source _ => h.compile mode source

/-- A call that leaves a circuit intact has welcomed the node that it may have entered. -/
theorem Circuit.Orderly.welcomes (h : c.Orderly) {call : GraphCall} (given : c.pool.Has call)
    (intact : (c.call call).1.Intact) : c.Welcomes call := by
  cases call with
  | spawn ref x y =>
      intro allowed sources there outlet from_here
      obtain ⟨column, row, entered⟩ := c.spawn_of_allowed allowed
      rw [entered] at intact
      have reads : sources ∈ ((c.enter ref column row).node ref).inlets := by
        rw [c.enter_self given]
        exact there
      have member := c.contains_enter given column row
      exact h.sound.contains_of_enter (intact.sources ref member sources reads outlet from_here).1
  | _ => trivial

theorem Circuit.Orderly.intact_iff (h : c.Orderly) {call : GraphCall} (given : c.pool.Has call) :
    (c.call call).1.Intact ↔ c.Welcomes call := by
  constructor
  · exact h.welcomes given
  · exact fun welcome => (h.call given welcome).sound.intact

end Steps

section Runs

/-- A run keeps a circuit intact as long as it enters only nodes that are welcome. -/
theorem Circuit.Orderly.along_intact_iff (calls : List GraphCall) {c : Circuit} (h : c.Orderly)
    (given : c.Along (fun c => c.pool.Has) calls) :
    c.Along (fun c call => (c.call call).1.Intact) calls ↔ c.Along Circuit.Welcomes calls := by
  -- on the calls; either side lets the next circuit be in order
  induction calls generalizing c with
  | nil => exact Iff.rfl
  | cons call calls ih =>
      obtain ⟨there, later⟩ := given
      unfold Circuit.Along
      rw [h.intact_iff there]
      constructor
      · rintro ⟨welcome, rest⟩
        exact ⟨welcome, (ih (h.call there welcome) later).mp rest⟩
      · rintro ⟨welcome, rest⟩
        exact ⟨welcome, (ih (h.call there welcome) later).mpr rest⟩

/-- A graph that starts empty, over any nodes that have the slots of their kinds, also such nodes
that have been in other graphs, holds together after each of some calls exactly when every node that
they enter reads from members and from itself only. -/
theorem Circuit.calls_intact_iff {pool : Pool} (formed : pool.Formed)
    (generator : Random.Generator) (calls : List GraphCall) :
    let start : Circuit := { pool, graph := { generator } }
    start.Along (fun c => c.pool.Has) calls →
      (start.Along (fun c call => (c.call call).1.Intact) calls ↔
        start.Along Circuit.Welcomes calls) := by
  intro start given
  have orderly : start.Orderly := ⟨Circuit.sound_of_empty rfl rfl, formed⟩
  exact orderly.along_intact_iff calls given

/-- A node is removed, then the node that it reads from, and then it is entered again. -/
theorem Circuit.calls_intact_removed :
    let start : Circuit := { pool := {}, graph := { generator := .ofSeed 0 } }
    let before : List GraphCall := [.make (.constant 1.0), .make (.math .add),
      .spawn 0 (.int 0) (.int 0), .spawn 1 (.int 0) (.int 0), .connect 0 0 1 0, .remove 1,
      .remove 0]
    let calls := before ++ [.spawn 1 (.int 0) (.int 0)]
    Pool.Formed {} ∧ start.Along (fun c => c.pool.Has) calls ∧
      start.Along (fun c call => (c.call call).1.Intact) before ∧
      ¬start.Along (fun c call => (c.call call).1.Intact) calls := by
  intro start before calls
  have formed : Pool.Formed {} := fun ref inside => absurd inside (Nat.not_lt_zero ref)
  have there : start.Along (fun c => c.pool.Has) before := by decide +kernel
  have given : start.Along (fun c => c.pool.Has) calls := by decide +kernel
  refine ⟨formed, given, ?_, ?_⟩
  · rw [Circuit.calls_intact_iff formed _ before there]
    exact ⟨trivial, trivial, fun _ => by decide +kernel, fun _ => by decide +kernel, trivial,
      trivial, trivial, trivial⟩
  · rw [Circuit.calls_intact_iff formed _ calls given]
    rintro ⟨-, -, -, -, -, -, -, welcome, -⟩
    have reads := welcome ?_ [{ ref := 0, slot := 0 }] ?_ { ref := 0, slot := 0 } ?_
    · exact absurd reads (by decide +kernel)
    · rintro (member | nowhere)
      · exact absurd member (by decide +kernel)
      · exact nowhere (by decide +kernel)
    · decide +kernel
    · decide +kernel

end Runs

end SignalGraph
