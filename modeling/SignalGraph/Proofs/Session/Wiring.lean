import SignalGraph.Graph.Document
import SignalGraph.Proofs.Graph.Installed
import SignalGraph.Proofs.Graph.Reading
import SignalGraph.Proofs.Graph.Wiring
import SignalGraph.Proofs.Outcome
import SignalGraph.Proofs.Script.Statements
import SignalGraph.Proofs.Text.Words
import SignalGraph.Session.Basic

/-!
The wiring of a session. Whatever messages a session has answered, refused ones and failed ticks
among them, its circuit is in order. So the texts and documents of its graph always find the
positions of the nodes that they name.
-/

namespace SignalGraph

section Sources

variable {c : Circuit}

/-- Each inlet of an installed gate reads from nothing, or from the outlet of an earlier gate. -/
theorem Circuit.install_wired (c : Circuit) {gates : Array Script.Gate}
    (wired : Script.WellWired gates.toList) {i : Nat} {gate : Script.Gate}
    (found : gates.toList[i]? = some gate) :
    (gate.node c.pool.nodes.size i).Wired (c.install gates).graph.nodes (c.install gates).pool := by
  have fits := wired i gate found
  refine ⟨(List.length_map _).trans fits.slots, List.length_map _, ?_, ?_⟩
  · intro sources there outlet from_here
    obtain ⟨source, given, rfl⟩ := List.mem_map.mp there
    cases source with
    | none => cases from_here
    | some wire =>
        obtain rfl := List.mem_singleton.mp from_here
        obtain ⟨reader, earlier, pure⟩ :=
          (fits.live wire given).mono (List.take_prefix i gates.toList)
        have before := (List.getElem?_eq_some_iff.mp earlier).1
        rw [(c.install_installed gates).nodes]
        refine ⟨List.mem_map.mpr ⟨wire, List.mem_range.mpr before, rfl⟩, ?_⟩
        show 0 < ((c.install gates).node (c.pool.nodes.size + wire)).outlets.length
        rw [c.install_node gates earlier]
        exact Script.Gate.node_outlets pure _ _
  · intro sources there
    obtain ⟨source, given, rfl⟩ := List.mem_map.mp there
    cases source with
    | none => exact List.nodup_nil
    | some wire => exact List.nodup_singleton _

/-- The gates of a script, all of it or a part, make a sound circuit. -/
theorem Circuit.install_sound (c : Circuit) {gates : Array Script.Gate}
    (wired : Script.WellWired gates.toList) : (c.install gates).Sound := by
  have installed := c.install_installed gates
  refine ⟨?_, ?_, ?_, ?_⟩
  · rw [installed.index, installed.nodes, List.map_map, List.map_map]
    apply List.map_congr_left
    intro i mem
    have found := List.getElem?_eq_getElem (List.mem_range.mp mem)
    simp only [Function.comp_apply, c.install_node gates found]
    rfl
  · rw [installed.index, List.map_map]
    exact (List.map_id _).symm ▸ List.pairwise_lt_range
  · rw [installed.index, List.map_map]
    intro id mem
    obtain ⟨i, listed, rfl⟩ := List.mem_map.mp mem
    exact List.mem_range.mp listed
  · intro ref listed
    obtain ⟨i, mem, rfl⟩ := List.mem_map.mp (installed.nodes ▸ listed)
    have found := List.getElem?_eq_getElem (List.mem_range.mp mem)
    rw [c.install_node gates found]
    exact c.install_wired wired found

/-- The wires of gates pass all checks: a graph would accept each of them as a connection, and has it
already. -/
theorem Circuit.install_connected (c : Circuit) {gates : Array Script.Gate}
    (wired : Script.WellWired gates.toList) {i slot : Nat} {gate : Script.Gate}
    {wire : Script.Wire} (found : gates.toList[i]? = some gate)
    (reads : gate.sources[slot]? = some (some wire)) :
    (c.install gates).connect (c.pool.nodes.size + wire) 0 (c.pool.nodes.size + i) slot =
      .ok (c.install gates, false) := by
  have sound := c.install_sound wired
  have fits := wired i gate found
  have listed {k : Nat} {other : Script.Gate} (there : gates.toList[k]? = some other) :
      c.pool.nodes.size + k ∈ (c.install gates).graph.nodes := by
    rw [(c.install_installed gates).nodes]
    have inside := (List.getElem?_eq_some_iff.mp there).1
    exact List.mem_map.mpr ⟨k, List.mem_range.mpr inside, rfl⟩
  obtain ⟨reader, earlier, pure⟩ :=
    (fits.live wire (List.mem_of_getElem? reads)).mono (List.take_prefix i gates.toList)
  refine Circuit.connect_eq_ok.mpr ⟨(sound.contains_iff _).mpr (listed earlier),
    (sound.contains_iff _).mpr (listed found), 0, slot, ⟨rfl, ?_⟩, ⟨rfl, ?_⟩, ?_⟩
  · rw [c.install_node gates earlier]
    exact Script.Gate.node_outlets pure _ _
  · rw [c.install_node gates found, Script.Gate.node, List.length_map]
    exact (List.getElem?_eq_some_iff.mp reads).1
  · have sources : (gate.node c.pool.nodes.size i).inlets.getD slot [] =
        [{ ref := c.pool.nodes.size + wire, slot := 0 }] := by
      simp [Script.Gate.node, outletsOf, List.getD_eq_getElem?_getD, reads]
    rw [Circuit.wire, c.install_node gates found, sources]
    exact if_pos List.mem_cons_self

/-- A script leaves the circuit alone or replaces its nodes. -/
theorem Circuit.Sound.compile (h : c.Sound) (mode : CompileMode) (source : String) :
    (c.compile mode source).1.Sound := by
  have wired := (Script.compile_valid source).wired
  rcases c.compile_leaves mode source with same | same <;> rw [same]
  · exact h
  · exact c.install_sound wired

theorem Circuit.load_sound (c : Circuit) (text : String) : (c.load text).Sound :=
  c.load_induction text (Circuit.sound_of_empty rfl rfl)
    (fun _ _ _ _ _ body x y _ _ _ _ h => h.insert body x y)
    fun _ _ _ _ _ _ _ made h => h.connect made

end Sources

section Positions

variable {c : Circuit}

theorem Circuit.Sound.ids_increasing (h : c.Sound) :
    (c.nodes.map Node.idNumber).Pairwise (· < ·) := by
  have numbers : c.nodes.map Node.idNumber =
      (c.graph.index.map Prod.fst).map fun id : Nat => (id : Int) := by
    rw [Circuit.nodes, ← h.refs]
    simp only [List.map_map]
    apply List.map_congr_left
    rintro ⟨id, ref⟩ mem
    simp only [Function.comp_apply, Node.idNumber, (h.mem_index.mp mem).2]
  rw [numbers, List.pairwise_map]
  exact h.increasing.imp fun less => Int.ofNat_lt.mpr less

theorem Circuit.Sound.ids_below (h : c.Sound) {node : Node} (mem : node ∈ c.nodes) :
    ∃ id, node.id = some id ∧ id < c.graph.nextId := by
  obtain ⟨ref, listed, rfl⟩ := List.mem_map.mp mem
  exact h.id_of_mem listed

/-- A connection leads from an outlet of a listed node to the inlet of a listed node that reads from
it, and names both by the ids that they bear. -/
def Circuit.Joins (c : Circuit) (link : Link) : Prop :=
  ∃ source ∈ c.graph.nodes, ∃ target ∈ c.graph.nodes,
    link.source = (c.node source).idNumber ∧ link.target = (c.node target).idNumber ∧
      link.outletSlot < (c.node source).outlets.length ∧
        ∃ sources, (c.node target).inlets[link.inletSlot]? = some sources ∧
          { ref := source, slot := link.outletSlot } ∈ sources

theorem Circuit.Sound.joins (h : c.Sound) {link : Link} (mem : link ∈ c.links) :
    c.Joins link := by
  obtain ⟨node, reader, mem⟩ := List.mem_flatMap.mp mem
  obtain ⟨target, listed, rfl⟩ := List.mem_map.mp reader
  obtain ⟨⟨sources, inletSlot⟩, entry, mem⟩ := List.mem_flatMap.mp mem
  obtain ⟨outlet, from_here, rfl⟩ := List.mem_map.mp mem
  have found := List.mem_zipIdx_iff_getElem?.mp entry
  have given := List.mem_of_getElem? found
  obtain ⟨source, slot⟩ := (h.wired target listed).sources sources given outlet from_here
  exact ⟨outlet.ref, source, target, listed, rfl, rfl, slot, sources, found, from_here⟩

/-- The ids of the nodes have positions. -/
theorem Circuit.position_of_mem {node : Node} (mem : node ∈ c.nodes) :
    ∃ i, c.positions.lookup node.idNumber = some i := by
  have entered : ∀ (entries : List (Node × Nat)) (table : List (Int × Nat)),
      (table.lookup node.idNumber).isSome ∨ node ∈ entries.map Prod.fst →
      ((entries.foldl (fun table entry => putEntry entry.1.idNumber entry.2 table) table).lookup
        node.idNumber).isSome := by
    intro entries
    induction entries with
    | nil =>
        intro table known
        rcases known with known | mem
        · exact known
        · cases mem
    | cons entry entries ih =>
        intro table known
        apply ih
        by_cases same : node.idNumber = entry.1.idNumber
        · rw [same, lookup_putEntry_self]
          exact .inl rfl
        · rw [lookup_putEntry_ne same]
          rcases known with known | mem
          · exact .inl known
          · rcases List.mem_cons.mp mem with first | mem
            · exact absurd (congrArg Node.idNumber first) same
            · exact .inr mem
  have all := entered c.nodes.zipIdx [] (.inr (by rwa [List.zipIdx_map_fst]))
  exact Option.isSome_iff_exists.mp all

/-- Both ends of a connection have positions. -/
theorem Circuit.Sound.link_positions (h : c.Sound) {link : Link} (mem : link ∈ c.links) :
    (∃ i, c.positions.lookup link.source = some i) ∧
      ∃ i, c.positions.lookup link.target = some i := by
  obtain ⟨source, listed, target, listed', hsource, htarget, -⟩ := h.joins mem
  rw [hsource, htarget]
  exact ⟨c.position_of_mem (List.mem_map.mpr ⟨source, listed, rfl⟩),
    c.position_of_mem (List.mem_map.mpr ⟨target, listed', rfl⟩)⟩

/-- Saving a sound circuit finds the positions of all ids. -/
theorem Circuit.Sound.save (h : c.Sound) (id : Int) : c.save ≠ .error (.noPosition id) := by
  intro failed
  simp only [Circuit.save, bind, Except.bind] at failed
  split at failed
  · rename_i fault nodes
    obtain ⟨⟨node, i⟩, -, line⟩ := exists_of_mapM_eq_error nodes
    obtain rfl := Except.error.inj failed
    simp only [Node.line, bind, Except.bind] at line
    cases data : node.body.data with
    | error fault =>
        rw [data] at line
        cases line
    | ok data' =>
        rw [data] at line
        cases line
  · split at failed
    · rename_i fault links
      obtain ⟨link, mem, line⟩ := exists_of_mapM_eq_error links
      obtain ⟨⟨source, hsource⟩, target, htarget⟩ := h.link_positions mem
      simp only [Link.line, position, hsource, htarget] at line
      cases line
    · cases failed

/-- The entries of a sound circuit find the positions of all ids. -/
theorem Circuit.Sound.entries (h : c.Sound) (id : Int) : c.entries ≠ .error (.noPosition id) := by
  intro failed
  simp only [Circuit.entries, bind, Except.bind] at failed
  split at failed
  · rename_i fault nodes
    obtain ⟨node, mem, entry⟩ := exists_of_mapM_eq_error nodes
    obtain ⟨i, hi⟩ := c.position_of_mem mem
    rw [hi] at entry
    cases entry
  · split at failed
    · rename_i fault links
      obtain ⟨link, mem, entry⟩ := exists_of_mapM_eq_error links
      obtain ⟨⟨source, hsource⟩, target, htarget⟩ := h.link_positions mem
      rw [hsource, htarget] at entry
      cases entry
    · cases failed

theorem Circuit.Sound.toDocument (h : c.Sound) (id : Int) :
    c.toDocument ≠ .error (.noPosition id) := by
  intro failed
  cases hentries : c.entries with
  | error fault =>
      simp only [Circuit.toDocument, bind, Except.bind, hentries] at failed
      obtain rfl := Except.error.inj failed
      exact h.entries id hentries
  | ok d =>
      simp only [Circuit.toDocument, bind, Except.bind, hentries] at failed
      cases valid : d.validate with
      | error fault =>
          rw [valid] at failed
          cases failed
      | ok d' =>
          rw [valid] at failed
          cases failed

end Positions

section Sessions

/-- A session after some messages. -/
def Session.after (s : Session) (messages : List Fields) : Session :=
  messages.foldl (fun s message => (s.respond message).1) s

variable {s : Session}

/-- A request leaves the circuit as it is, or changes it in one of six ways. -/
theorem Session.perform_induction {P : Circuit → Prop} (request : Request) (keep : P s.circuit)
    (compile : ∀ source, request = .compile source → P (s.circuit.compile s.mode source).1)
    (tick : ∀ dt controls, request = .tick dt controls →
      P (s.circuit.tick dt (controls.getD s.controls)).1)
    (load : ∀ text, request = .load text → P (s.circuit.load text))
    (insert : ∀ kind x y params body, request = .spawn kind x y params →
      Body.createNamed kind params = .ok body → P (s.circuit.insert body x y).1)
    (remove : ∀ ref next, s.circuit.remove ref = .ok next → P next)
    (connect : ∀ source outletSlot target inletSlot next added,
      s.circuit.connect source outletSlot target inletSlot = .ok (next, added) → P next) :
    P (s.perform request).1.circuit := by
  cases request with
  | compile source => exact compile source rfl
  | tick dt controls =>
      have ticked := tick dt controls rfl
      simp only [Session.perform]
      split <;> rename_i result <;> rw [← congrArg Prod.fst result] <;> exact ticked
  | load text => exact load text rfl
  | save =>
      simp only [Session.perform]
      split <;> exact keep
  | spawn kind x y params =>
      simp only [Session.perform, Session.spawn]
      cases made : Body.createNamed kind params with
      | error fault => exact keep
      | ok body => exact insert kind x y params body rfl made
  | remove id =>
      simp only [Session.perform, Session.remove]
      cases s.circuit.find (.int id) with
      | error fault => exact keep
      | ok ref =>
          cases removed : s.circuit.remove ref with
          | error fault =>
              simp only [bind, Except.bind, removed]
              exact keep
          | ok next =>
              simp only [bind, Except.bind, removed]
              exact remove ref next removed
  | connect source outletSlot target inletSlot =>
      simp only [Session.perform, Session.connect]
      cases s.circuit.find (.int source) with
      | error fault => exact keep
      | ok source =>
          cases s.circuit.find (.int target) with
          | error fault => exact keep
          | ok target =>
              cases made : s.circuit.connect source outletSlot target inletSlot with
              | error fault =>
                  simp only [bind, Except.bind, made]
                  exact keep
              | ok result =>
                  simp only [bind, Except.bind, made]
                  exact connect _ _ _ _ _ _ made

/-- A script that replaces the nodes neither counts ticks nor draws random numbers. -/
theorem Circuit.install_untimed (c : Circuit) (gates : Array Script.Gate) :
    (c.install gates).graph.tickCount = c.graph.tickCount ∧
      (c.install gates).graph.generator = c.graph.generator := ⟨rfl, rfl⟩

/-- Only ticks are counted, and only they draw random numbers. -/
theorem Session.perform_untimed {request : Request}
    (untimed : ∀ dt controls, request ≠ .tick dt controls) :
    let graph := (s.perform request).1.circuit.graph
    graph.tickCount = s.circuit.graph.tickCount ∧
      graph.generator = s.circuit.graph.generator := by
  let P (c : Circuit) : Prop := c.graph.tickCount = s.circuit.graph.tickCount ∧
    c.graph.generator = s.circuit.graph.generator
  have connect : ∀ (c : Circuit) source outletSlot target inletSlot next added,
      c.connect source outletSlot target inletSlot = .ok (next, added) → P c → P next := by
    intro c _ _ _ _ next _ made same
    have graph := Circuit.connect_graph made
    exact ⟨(congrArg Graph.tickCount graph).trans same.1,
      (congrArg Graph.generator graph).trans same.2⟩
  refine Session.perform_induction (P := P) request ⟨rfl, rfl⟩ ?_ ?_ ?_ ?_ ?_ ?_
  · intro source _
    rcases s.circuit.compile_leaves s.mode source with same | same <;> rw [same]
    · exact ⟨rfl, rfl⟩
    · exact s.circuit.install_untimed _
  · exact fun dt controls same => absurd same (untimed dt controls)
  · intro text _
    exact s.circuit.load_induction text ⟨rfl, rfl⟩ (fun _ _ _ _ _ _ _ _ _ _ _ _ same => same)
      connect
  · exact fun _ _ _ _ _ _ _ => ⟨rfl, rfl⟩
  · intro ref next removed
    obtain ⟨-, rfl⟩ := Circuit.remove_eq_ok.mp removed
    exact ⟨rfl, rfl⟩
  · exact fun _ _ _ _ next _ made => connect s.circuit _ _ _ _ next _ made ⟨rfl, rfl⟩

/-- Whatever is asked for, the circuit stays sound. -/
theorem Session.perform_sound (h : s.circuit.Sound) (request : Request) :
    (s.perform request).1.circuit.Sound :=
  Session.perform_induction request h (fun source _ => h.compile s.mode source)
    (fun dt controls _ => h.tick dt (controls.getD s.controls))
    (fun text _ => s.circuit.load_sound text)
    (fun _ x y _ body _ _ => h.insert body x y) (fun _ _ removed => h.remove removed)
    fun _ _ _ _ _ _ made => h.connect made

/-- A message that is refused leaves the circuit as it was. -/
theorem Session.respond_sound (h : s.circuit.Sound) (message : Fields) :
    (s.respond message).1.circuit.Sound := by
  simp only [Session.respond]
  cases Request.ofMessage message with
  | error fault => exact h
  | ok request => exact s.perform_sound h request

theorem Session.after_sound (h : s.circuit.Sound) (messages : List Fields) :
    (s.after messages).circuit.Sound := by
  induction messages generalizing s with
  | nil => exact h
  | cons message messages ih => exact ih (s.respond_sound h message)

/-- In every session that started empty, whatever messages it has answered and in either mode, the
ids of the nodes ascend below the next one, the index has exactly the listed nodes, every source of
an inlet is an outlet of a listed node and stands there once, and every id that a saved text or a
document looks up has its position. -/
theorem Session.after_wired (generator : Random.Generator) (mode : CompileMode)
    (messages : List Fields) :
    let c := (Session.after { circuit := { graph := { generator } }, mode } messages).circuit
    c.Sound ∧ (c.nodes.map Node.idNumber).Pairwise (· < ·) ∧
      (∀ node ∈ c.nodes, ∃ id, node.id = some id ∧ id < c.graph.nextId) ∧
      (∀ link ∈ c.links, c.Joins link) ∧ (∀ id, c.save ≠ .error (.noPosition id)) ∧
      ∀ id, c.toDocument ≠ .error (.noPosition id) := by
  intro c
  have sound : c.Sound := Session.after_sound (Circuit.sound_of_empty rfl rfl) messages
  exact ⟨sound, sound.ids_increasing, fun _ mem => sound.ids_below mem,
    fun _ mem => sound.joins mem, sound.save, sound.toDocument⟩

end Sessions

end SignalGraph
