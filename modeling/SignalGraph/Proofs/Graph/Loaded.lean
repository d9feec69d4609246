import SignalGraph.Proofs.Graph.Saved

/-!
Loaded circuits. Whatever a text says, the nodes of the circuit that is loaded from it bear their
positions as ids, are as they start, and have plain texts. So loading such a circuit's own text
gives the circuit once more.
-/

namespace SignalGraph

open Text

section Loading

/-- A node as it is loaded at a position. -/
structure Node.IsLoaded (node : Node) (i : Nat) : Prop where
  starts : node = node.restart i
  plain : node.body.isPlain
  x : ReadsBack node.x
  y : ReadsBack node.y

/-- A circuit whose nodes have been loaded, as many as there were ids. -/
structure Circuit.IsLoaded (c : Circuit) : Prop where
  nextId : c.graph.nextId = c.graph.nodes.length
  node : ∀ (i : Nat) (ref : Ref), c.graph.nodes[i]? = some ref → (c.node ref).IsLoaded i

theorem Node.IsLoaded.rewire {node : Node} {i : Nat} (h : node.IsLoaded i)
    (inlets : List (List Outlet)) : Node.IsLoaded { node with inlets } i := by
  refine ⟨?_, h.plain, h.x, h.y⟩
  conv => lhs; rw [h.starts]
  rfl

theorem readsBack_of_readWord {word : List Char} {n : Int} (h : readWord word = .ok n) :
    ReadsBack n :=
  Decimal.readInt_ofInt (Decimal.natAbs_lt_of_readInt (mapError_eq_ok.mp h))

variable {c : Circuit}

theorem Circuit.IsLoaded.insert (h : c.IsLoaded) (sound : c.Sound) {body : Body} {x y : Int}
    (plain : body.isPlain) (starts : body.restart = body) (hx : ReadsBack x) (hy : ReadsBack y) :
    (c.insert body x y).1.IsLoaded := by
  obtain ⟨-, made⟩ := c.insert_self body x y
  have nodes : (c.insert body x y).1.graph.nodes = c.graph.nodes ++ [c.pool.nodes.size] := rfl
  refine ⟨?_, fun i ref found => ?_⟩
  · rw [nodes, List.length_append, ← h.nextId]
    rfl
  · rw [nodes] at found
    rcases getElem?_concat_eq_some.mp found with early | ⟨rfl, rfl⟩
    · rw [c.insert_other body x y (sound.lt_of_mem (List.mem_of_getElem? early))]
      exact h.node i ref early
    · rw [show (c.insert body x y).1.node c.pool.nodes.size = _ from made, h.nextId]
      refine ⟨?_, plain, hx, hy⟩
      simp only [Node.restart, Node.ofBody, starts]

theorem Circuit.IsLoaded.connect (h : c.IsLoaded) {next : Circuit} {source target : Ref}
    {outletSlot inletSlot : Int} {added : Bool}
    (made : c.connect source outletSlot target inletSlot = .ok (next, added)) :
    next.IsLoaded := by
  obtain ⟨graph, frame⟩ := Circuit.connect_frame made
  refine ⟨by rw [graph]; exact h.nextId, fun i ref found => ?_⟩
  rw [graph] at found
  rw [frame ref]
  exact (h.node i ref found).rewire _

theorem Circuit.load_isLoaded (c : Circuit) (text : String) : (c.load text).IsLoaded := by
  refine And.right (c.load_induction text (P := fun c => c.Sound ∧ c.IsLoaded)
    ⟨Circuit.sound_of_empty rfl rfl, rfl, fun _ _ found => nomatch found⟩ ?_ ?_)
  · rintro c _ data _ _ body x y solid made hx hy ⟨sound, h⟩
    obtain ⟨-, plain, starts⟩ := Body.ofData_stored solid made
    exact ⟨sound.insert body x y, h.insert sound plain starts (readsBack_of_readWord hx)
      (readsBack_of_readWord hy)⟩
  · rintro c _ _ _ _ next _ made ⟨sound, h⟩
    exact ⟨sound.connect made, h.connect made⟩

end Loading

section Saving

variable {c : Circuit}

theorem Circuit.IsLoaded.layout (h : c.IsLoaded) {i : Nat} {node : Node}
    (found : c.layout[i]? = some node) : node.IsLoaded i := by
  rw [c.layout_getElem?, Option.map_eq_some_iff] at found
  obtain ⟨ref, listed, rfl⟩ := found
  exact (h.node i ref listed).rewire _

theorem Circuit.IsLoaded.restarted_layout (h : c.IsLoaded) : restarted c.layout = c.layout := by
  refine List.ext_getElem? fun i => ?_
  rw [restarted, List.getElem?_mapIdx]
  cases found : c.layout[i]? with
  | none => rfl
  | some node => exact congrArg some (h.layout found).starts.symm

/-- So few nodes that all their positions are read back. -/
theorem Circuit.IsLoaded.legible (h : c.IsLoaded)
    (few : c.graph.nodes.length ≤ 10 ^ Decimal.intDigitLimit) : Legible c.layout := by
  refine ⟨fun i bound => ?_, fun node mem => ?_⟩
  · rw [c.layout_length] at bound
    exact Decimal.readInt_ofInt (bound.trans_le few)
  · obtain ⟨i, found⟩ := List.mem_iff_getElem?.mp mem
    exact ⟨(h.layout found).x, (h.layout found).y⟩

theorem Circuit.IsLoaded.plain (h : c.IsLoaded) : ∀ node ∈ c.layout, node.body.isPlain := by
  intro node mem
  obtain ⟨i, found⟩ := List.mem_iff_getElem?.mp mem
  exact (h.layout found).plain

/-- Whatever a text says, the circuit that is loaded from it has a text of its own, which every
circuit loads as the same nodes with the same wiring, and saves as the same text. -/
theorem Circuit.load_save (c : Circuit) (text : String)
    (few : (c.load text).graph.nodes.length ≤ 10 ^ Decimal.intDigitLimit) :
    ∃ saved, (c.load text).save = .ok saved ∧ ∀ d : Circuit,
      (d.load saved).layout = (c.load text).layout ∧ (d.load saved).save = .ok saved := by
  have sound := c.load_sound text
  have loaded := c.load_isLoaded text
  obtain ⟨saved, written, -, -, loads⟩ :=
    load_savedText sound.closed loaded.plain (loaded.legible few)
  refine ⟨saved, sound.save_eq.trans written, fun d => ?_⟩
  have same := (loads d).trans loaded.restarted_layout
  exact ⟨same, by rw [(d.load_sound saved).save_eq, same, written]⟩

/-- Ids that are out of order and stand twice, numbers that are written in odd ways, a connection
too early and one that stands twice. -/
theorem Circuit.load_save_shuffled :
    let text := "\n".intercalate
      ["TOYCON_v1 ", "CONN 7 0 3 0", "NODE 7 ConstantNode 0 +5 1e0", "NODE 3 MathNode 1_0 -2 Add",
        "NODE 7 KeyNode 00 0 Left  Shift", "CONN 7 0 3 0", "CONN 7 0 3 0", "NODE 4 ToyNode 0 0"]
    let c := (Circuit.ofSeed 0).load text
    c.graph.nodes.length ≤ 10 ^ Decimal.intDigitLimit ∧
      c.links = [{ source := 2, outletSlot := 0, target := 1, inletSlot := 0 }] ∧
      ∃ saved, c.save = .ok saved ∧ ∀ d : Circuit,
        (d.load saved).layout = c.layout ∧ (d.load saved).save = .ok saved := by
  exact ⟨by decide +kernel, by decide +kernel,
    Circuit.load_save (.ofSeed 0) _ (by decide +kernel)⟩

end Saving

end SignalGraph
