import SignalGraph.Proofs.Graph.Alike
import SignalGraph.Proofs.Graph.Columns
import SignalGraph.Proofs.Graph.Document
import SignalGraph.Proofs.Graph.Loaded

/-!
Copies of compiled scripts. The gates of a script stand like loaded nodes. So a compiled circuit,
the circuit that is loaded from its text, and the circuit that is built from its document have one
layout, and no ticks tell them apart.
-/

namespace SignalGraph

open Script

section Copies

variable {c : Circuit}

/-- A circuit of loaded nodes has a text and a document, and what is made of either is like it. -/
theorem Circuit.IsLoaded.copies (h : c.IsLoaded) (sound : c.Sound)
    (few : c.graph.nodes.length ≤ 10 ^ Decimal.intDigitLimit)
    (calm : ∀ node ∈ c.layout, node.kind ≠ .random) :
    ∃ text doc, c.save = .ok text ∧ c.toDocument = .ok doc ∧ isArchive text ∧
      (∃ records, Text.lines text.toList = archiveHeader.toList :: records) ∧
      ∀ d : Circuit, c.TicksLike (d.load text) ∧ ∃ built, doc.build d = .ok built ∧
        c.TicksLike built := by
  obtain ⟨text, written, archive, header, loads⟩ :=
    load_savedText sound.closed h.plain (h.legible few)
  refine ⟨text, document c.layout, sound.save_eq.trans written, sound.toDocument_eq, archive,
    header, fun d => ?_⟩
  obtain ⟨built, builds, buildsSound, layout⟩ := build_document sound.closed d
  have loaded : c.Alike (d.load text) :=
    ⟨((loads d).trans h.restarted_layout).symm, sound, d.load_sound text, calm⟩
  have rebuilt : c.Alike built :=
    ⟨(layout.trans h.restarted_layout).symm, sound, buildsSound, calm⟩
  exact ⟨loaded.ticksLike, built, builds, rebuilt.ticksLike⟩

end Copies

section Compiling

theorem Script.Gate.Fits.stored {gate : Gate} {before : List Gate} (h : gate.Fits before) :
    gate.body.isPlain ∧ gate.body.restart = gate.body ∧ gate.body.kind ≠ .random := by
  rcases h.body with pure | ⟨sink, start⟩
  · cases body : gate.body with
    | constant value => exact ⟨rfl, rfl, nofun⟩
    | math op => exact ⟨rfl, rfl, nofun⟩
    | logic op => exact ⟨rfl, rfl, nofun⟩
    | _ =>
        rw [body] at pure
        cases pure
  · rw [start]
    cases sink <;> exact ⟨by decide, rfl, nofun⟩

/-- The spots of gates have at most two digits more than their positions. -/
theorem natAbs_spot_lt {i digits : Nat} (h : i < 10 ^ digits) (least : 2 ≤ digits) :
    (Spot.after i).x.natAbs < 10 ^ (digits + 2) ∧ (Spot.after i).y.natAbs < 10 ^ (digits + 2) := by
  have hundred : 10 ^ 2 ≤ 10 ^ digits := Nat.pow_le_pow_right (by decide) least
  simp only [Nat.pow_add, Spot.after_eq]
  generalize 10 ^ digits = most at h hundred
  omega

theorem readsBack_spot {i : Nat} (h : i < 10 ^ (Decimal.intDigitLimit - 2)) :
    ReadsBack (Spot.after i).x ∧ ReadsBack (Spot.after i).y := by
  obtain ⟨x, y⟩ := natAbs_spot_lt h (by decide)
  rw [show Decimal.intDigitLimit - 2 + 2 = Decimal.intDigitLimit from rfl] at x y
  exact ⟨Decimal.readInt_ofInt x, Decimal.readInt_ofInt y⟩

/-- The gates of a script stand like loaded nodes. -/
theorem Circuit.install_isLoaded (c : Circuit) {s : Assembly} (wired : WellWired s.gates.toList)
    (laid : s.Laid) (few : s.gates.size ≤ 10 ^ (Decimal.intDigitLimit - 2)) :
    (c.install s.gates).IsLoaded := by
  have nodes := (c.install_installed s.gates).nodes
  refine ⟨(c.install_length s.gates).symm, fun i ref found => ?_⟩
  · obtain ⟨inside, there⟩ := List.getElem?_eq_some_iff.mp found
    have bound : i < s.gates.toList.length := by
      rwa [nodes, List.length_map, List.length_range] at inside
    have at_i := List.getElem?_eq_getElem bound
    obtain rfl : c.pool.nodes.size + i = ref := by
      simpa only [nodes, List.getElem_map, List.getElem_range] using there
    obtain ⟨plain, starts, -⟩ := (wired i _ at_i).stored
    obtain ⟨x, y⟩ := readsBack_spot (bound.trans_le few)
    rw [← laid.spots i _ at_i] at x y
    rw [c.install_node s.gates at_i]
    refine ⟨?_, plain, x, y⟩
    simp only [Gate.node, Node.restart, Node.ofBody, starts]

/-- A compiled script, the circuit that is loaded from its text and the circuit that is built from
its document are told apart by no ticks, and the text counts as a saved graph, with the header that
loading asks for. -/
theorem Circuit.compile_copies (c : Circuit) (mode : CompileMode) (source : String)
    (accepted : (c.compile mode source).2.fault = none)
    (few : (c.compile mode source).1.graph.nodes.length ≤ 10 ^ (Decimal.intDigitLimit - 2)) :
    let compiled := (c.compile mode source).1
    ∃ text doc, compiled.save = .ok text ∧ compiled.toDocument = .ok doc ∧ isArchive text ∧
      (∃ records, Text.lines text.toList = archiveHeader.toList :: records) ∧
      ∀ d : Circuit, compiled.TicksLike (d.load text) ∧ ∃ built, doc.build d = .ok built ∧
        compiled.TicksLike built := by
  intro compiled
  have wired := (compile_valid source).wired
  have laid := compile_laid source
  have installed : compiled = c.install (Script.compile source).gates :=
    congrArg Prod.fst (c.compile_accepted mode source accepted).2
  rw [show (c.compile mode source).1 = _ from installed] at few
  rw [installed]
  generalize (Script.compile source).assembly = assembly at wired laid few ⊢
  have hosted := c.install_installed assembly.gates
  have length := c.install_length assembly.gates
  rw [length] at few
  refine (c.install_isLoaded wired laid few).copies (c.install_sound wired) ?_ ?_
  · rw [length]
    exact few.trans (Nat.pow_le_pow_right (by decide) (by decide))
  · intro node mem
    obtain ⟨_, there, rfl⟩ := List.mem_map.mp mem
    obtain ⟨ref, listed, rfl⟩ := List.mem_map.mp there
    rw [hosted.nodes] at listed
    obtain ⟨i, bound, rfl⟩ := List.mem_map.mp listed
    have found := List.getElem?_eq_getElem (List.mem_range.mp bound)
    show ((c.install assembly.gates).node (c.pool.nodes.size + i)).body.kind ≠ .random
    rw [c.install_node assembly.gates found]
    exact (wired i _ found).stored.2.2

/-- A script with a condition, a beep and a screen. -/
theorem Circuit.compile_copies_gated :
    let source := "x = 0.5; if (x > 0.25) { x = x * 2; beep(x); } screen(x, 1 / 3);"
    let compiled := ((Circuit.ofSeed 0).compile .atomic source).1
    ((Circuit.ofSeed 0).compile .atomic source).2.fault = none ∧
      compiled.graph.nodes.length ≤ 10 ^ (Decimal.intDigitLimit - 2) ∧
      ∃ text doc, compiled.save = .ok text ∧ compiled.toDocument = .ok doc ∧ isArchive text ∧
        (∃ records, Text.lines text.toList = archiveHeader.toList :: records) ∧
        ∀ d : Circuit, compiled.TicksLike (d.load text) ∧ ∃ built, doc.build d = .ok built ∧
          compiled.TicksLike built := by
  intro source compiled
  have accepted : ((Circuit.ofSeed 0).compile .atomic source).2.fault = none := by decide +kernel
  have few : compiled.graph.nodes.length ≤ 10 ^ (Decimal.intDigitLimit - 2) := by decide +kernel
  exact ⟨accepted, few, Circuit.compile_copies (.ofSeed 0) .atomic source accepted few⟩

end Compiling

end SignalGraph
