import SignalGraph.Proofs.Graph.Assembled
import SignalGraph.Proofs.Graph.Reading

/-!
What lines describe. A record adds a node, or a connection between nodes that have been described
before it, or nothing; one that meets a fault adds nothing, and the fault is passed over. So lines
are read to their end, and what is read is what the lines describe.
-/

namespace SignalGraph

section Positions

/-- An id stands at a position, and not behind it. -/
structure Latest (ids : List Int) (id : Int) (i : Nat) : Prop where
  there : ids[i]? = some id
  last : ∀ k, i < k → ids[k]? ≠ some id

variable {ids : List Int} {id : Int} {i k : Nat}

theorem Latest.inside (h : Latest ids id i) : i < ids.length :=
  (List.getElem?_eq_some_iff.mp h.there).1

theorem Latest.unique (h : Latest ids id i) (h' : Latest ids id k) : i = k := by
  rcases Nat.lt_trichotomy i k with before | same | behind
  · exact absurd h'.there (h.last k before)
  · exact same
  · exact absurd h.there (h'.last i behind)

/-- One more id is the latest one of its kind, and changes nothing for the others. -/
theorem latest_concat (new : Int) :
    Latest (ids ++ [new]) id i ↔ if id = new then i = ids.length else Latest ids id i := by
  split
  · rename_i same
    subst same
    have at_end : (ids ++ [id])[ids.length]? = some id := List.getElem?_concat_length
    constructor
    · intro h
      have inside := h.inside
      rw [List.length_append, List.length_singleton] at inside
      by_contra other
      exact h.last ids.length (by omega) at_end
    · rintro rfl
      refine ⟨at_end, fun k behind there => ?_⟩
      have inside := (List.getElem?_eq_some_iff.mp there).1
      rw [List.length_append, List.length_singleton] at inside
      omega
  · rename_i other
    have kept (k : Nat) : (ids ++ [new])[k]? = some id ↔ ids[k]? = some id := by
      rw [getElem?_concat_eq_some]
      exact or_iff_left fun last => other last.2.symm
    constructor
    · intro h
      exact ⟨(kept i).mp h.there, fun k behind there => h.last k behind ((kept k).mpr there)⟩
    · intro h
      exact ⟨(kept i).mpr h.there, fun k behind there => h.last k behind ((kept k).mp there)⟩

end Positions

section Lines

/-- The id and the node that a record describes, unless it describes a connection. -/
def Record.entry? : Record → Option (Int × Node)
  | .node id body x y => some (id, { Node.ofBody body with x, y })
  | .link _ _ _ _ => none

/-- The nodes that some lines describe, with the ids that the lines give them. -/
def described (lines : List (List Char)) : List (Int × Node) :=
  lines.filterMap fun line => (Record.ofLine? line).bind Record.entry?

/-- A record asks for a connection between outlets and inlets of nodes that have been described.
Where an id has been given more than once, it is that of the node described last. -/
structure Record.Connects (record : Record) (entries : List (Int × Node)) (lead : Lead) : Prop where
  ends : ∃ source target, record = .link source lead.outletSlot target lead.inletSlot ∧
    Latest (entries.map Prod.fst) source lead.source ∧
    Latest (entries.map Prod.fst) target lead.target
  joins : lead.Joins (entries.map Prod.snd)

theorem Record.Connects.unique {record : Record} {entries : List (Int × Node)} {lead other : Lead}
    (h : record.Connects entries lead) (h' : record.Connects entries other) : lead = other := by
  obtain ⟨⟨source, target, rfl, from_here, to_here⟩, -⟩ := h
  obtain ⟨⟨source', target', same, from_there, to_there⟩, -⟩ := h'
  obtain ⟨rfl, outletSlot, rfl, inletSlot⟩ := Record.link.inj same
  obtain ⟨_, _, _, _⟩ := lead
  obtain ⟨_, _, _, _⟩ := other
  rw [Lead.mk.injEq]
  exact ⟨from_here.unique from_there, Int.natCast_inj.mp outletSlot, to_here.unique to_there,
    Int.natCast_inj.mp inletSlot⟩

theorem Record.Connects.entry? {record : Record} {entries : List (Int × Node)} {lead : Lead}
    (h : record.Connects entries lead) : record.entry? = none := by
  obtain ⟨⟨_, _, rfl, -⟩, -⟩ := h
  rfl

theorem Lead.Joins.append {lead : Lead} {plans : List Node} (h : lead.Joins plans)
    (more : List Node) : lead.Joins (plans ++ more) := by
  have kept {i : Nat} {node : Node} (there : plans[i]? = some node) :
      (plans ++ more)[i]? = some node := by
    rwa [List.getElem?_append_left (List.getElem?_eq_some_iff.mp there).1]
  obtain ⟨⟨source, from_here, outlet⟩, target, to_here, inlet⟩ := h
  exact ⟨⟨source, kept from_here, outlet⟩, target, kept to_here, inlet⟩

end Lines

section Steps

/-- What has been loaded: a node for each entry, leads between them, and the latest node of each
id. -/
structure Loading.Holds (l : Loading) (entries : List (Int × Node)) (made : List Lead)
    (first : Nat) : Prop where
  assembled : l.circuit.Assembled (entries.map Prod.snd) made first
  joins : ∀ lead ∈ made, lead.Joins (entries.map Prod.snd)
  table : ∀ id ref, l.table.lookup id = some ref ↔
    ∃ i, Latest (entries.map Prod.fst) id i ∧ first + i = ref

variable {l : Loading} {entries : List (Int × Node)} {made : List Lead} {first : Nat}

theorem Loading.holds_nothing (c : Circuit) :
    Loading.Holds { circuit := { c with graph := c.graph.clear } } [] [] c.pool.nodes.size := by
  refine ⟨c.assembled_clear, fun _ mem => (nomatch mem), fun id ref => ?_⟩
  constructor
  · rintro ⟨⟩
  · rintro ⟨_, ⟨there, -⟩, -⟩
    cases there

theorem Loading.Holds.take_node (h : l.Holds entries made first) (id : Int) (body : Body)
    (x y : Int) :
    (l.take (.node id body x y)).Holds (entries ++ [(id, { Node.ofBody body with x, y })]) made
      first := by
  rw [l.take_node]
  refine ⟨?_, ?_, fun other ref => ?_⟩
  · rw [List.map_append]
    exact h.assembled.insert h.joins { Node.ofBody body with x, y }
  · intro lead mem
    rw [List.map_append]
    exact (h.joins lead mem).append _
  · have new : (l.circuit.insert body x y).2 = l.circuit.pool.nodes.size := rfl
    simp only [new, List.map_append, List.map_singleton, latest_concat]
    by_cases same : other = id
    · subst same
      simp only [lookup_putEntry_self, if_pos, exists_eq_left, h.assembled.size, List.length_map,
        Option.some.injEq]
    · simp only [lookup_putEntry_ne same, if_neg same]
      exact h.table other ref

theorem Loading.Holds.take_wired (h : l.Holds entries made first) {lead : Lead}
    (joins : lead.Joins (entries.map Prod.snd)) (new : lead ∉ made) :
    Loading.Holds { l with
      circuit := (l.circuit.wire (first + lead.source) (first + lead.target) lead.outletSlot
        lead.inletSlot).1 } entries (made ++ [lead]) first := by
  have wired := h.assembled.wire joins
  rw [if_neg new] at wired
  refine ⟨wired, fun other mem => ?_, h.table⟩
  rcases List.mem_append.mp mem with old | last
  · exact h.joins other old
  · obtain rfl := List.mem_singleton.mp last
    exact joins

/-- A lead that has been made is not made again. -/
theorem Loading.Holds.wire_made (h : l.Holds entries made first) {lead : Lead} (old : lead ∈ made) :
    l.circuit.wire (first + lead.source) (first + lead.target) lead.outletSlot lead.inletSlot =
      (l.circuit, false) := by
  obtain ⟨target, there, inlet⟩ := (h.joins lead old).target
  have reads : (l.circuit.node (first + lead.target)).inlets.getD lead.inletSlot [] =
      readsAt made first lead.target lead.inletSlot := by
    rw [h.assembled.node _ _ there]
    simp [List.getD_eq_getElem?_getD, inlet]
  simp only [Circuit.wire, reads]
  exact if_pos (mem_readsAt.mpr old)

/-- Between members only slots can be wrong. -/
theorem Circuit.connect_faultClass {c : Circuit} {source target : Ref} {outletSlot inletSlot : Int}
    {fault : GraphFault} (member : c.contains source) (member' : c.contains target)
    (failed : c.connect source outletSlot target inletSlot = .error fault) :
    fault.faultClass = .index := by
  simp only [Circuit.connect, Circuit.checkMember, member, member', if_true, bind, Except.bind]
    at failed
  split at failed
  · split at failed
    · cases failed
    · cases failed
      rfl
  · cases failed
    rfl

/-- What a record can do: add a node, add a connection, or nothing. -/
inductive Loading.Effect (entries : List (Int × Node)) (made : List Lead) (first : Nat)
    (l : Loading) (record : Record) : Loading → Prop where
  | node {entry : Int × Node} {next : Loading} (new : record.entry? = some entry)
      (holds : next.Holds (entries ++ [entry]) made first) :
      Loading.Effect entries made first l record next
  | link {lead : Lead} {next : Loading} (asks : record.Connects entries lead) (new : lead ∉ made)
      (holds : next.Holds entries (made ++ [lead]) first) :
      Loading.Effect entries made first l record next
  | nothing (no_node : record.entry? = none)
      (no_link : ∀ lead, record.Connects entries lead → lead ∈ made) :
      Loading.Effect entries made first l record l

/-- A record that asks for a connection names both ends and both slots. -/
theorem Loading.Holds.lookup_of_connects (h : l.Holds entries made first) {lead : Lead}
    {source outletSlot target inletSlot : Int}
    (asks : (Record.link source outletSlot target inletSlot).Connects entries lead) :
    outletSlot = lead.outletSlot ∧ inletSlot = lead.inletSlot ∧
      l.table.lookup source = some (first + lead.source) ∧
      l.table.lookup target = some (first + lead.target) := by
  obtain ⟨⟨_, _, same, from_here, to_here⟩, -⟩ := asks
  obtain ⟨rfl, outlet, rfl, inlet⟩ := Record.link.inj same
  exact ⟨outlet, inlet, (h.table _ _).mpr ⟨_, from_here, rfl⟩, (h.table _ _).mpr ⟨_, to_here, rfl⟩⟩

/-- An attempt at a record has one of these effects. One that meets a fault has none, and the fault
is passed over. -/
structure Loading.Attempts (entries : List (Int × Node)) (made : List Lead) (first : Nat)
    (l : Loading) (record : Record) : Prop where
  effect : Loading.Effect entries made first l record (l.take record)
  skipped : ∀ fault, (l.attempt record).2 = some fault → fault.isSkipped ∧ l.take record = l

theorem Loading.attempts_of_fault {record : Record} (fault : LineFault)
    (no_node : record.entry? = none) (unasked : ∀ lead, ¬record.Connects entries lead)
    (attempted : l.attempt record = (l, some fault)) (skipped : fault.isSkipped) :
    Loading.Attempts entries made first l record := by
  have taken : l.take record = l := congrArg Prod.fst attempted
  refine ⟨?_, fun other met => ?_⟩
  · rw [taken]
    exact .nothing no_node fun lead asks => absurd asks (unasked lead)
  · rw [attempted] at met
    obtain rfl := Option.some.inj met
    exact ⟨skipped, taken⟩

/-- A connection whose ends are found is made if its slots are there. -/
theorem Loading.Holds.attempts_found (h : l.Holds entries made first)
    {source outletSlot target inletSlot : Int} {i k : Nat}
    (at_source : Latest (entries.map Prod.fst) source i)
    (at_target : Latest (entries.map Prod.fst) target k) :
    Loading.Attempts entries made first l (.link source outletSlot target inletSlot) := by
  have from_here := (h.table source _).mpr ⟨i, at_source, rfl⟩
  have to_here := (h.table target _).mpr ⟨k, at_target, rfl⟩
  have early : i < (entries.map Prod.snd).length := by
    simpa only [List.length_map] using at_source.inside
  have early' : k < (entries.map Prod.snd).length := by
    simpa only [List.length_map] using at_target.inside
  cases connected : l.circuit.connect (first + i) outletSlot (first + k) inletSlot with
  | error fault =>
      refine Loading.attempts_of_fault (.graph fault) rfl (fun lead asks => ?_)
        (by simp only [Loading.attempt, from_here, to_here, connected]) ?_
      · obtain ⟨outlet, inlet, found, found'⟩ := h.lookup_of_connects asks
        have made_it := (h.assembled.connect_eq_ok early early').mpr
          ⟨lead, Nat.add_left_cancel (Option.some.inj (found.symm.trans from_here)),
            Nat.add_left_cancel (Option.some.inj (found'.symm.trans to_here)), outlet, inlet,
            asks.joins, rfl⟩
        cases connected.symm.trans made_it
      · have member := h.assembled.sound.contains_iff
        have wrong := Circuit.connect_faultClass ((member _).mpr (h.assembled.listed early))
          ((member _).mpr (h.assembled.listed early')) connected
        simp [LineFault.isSkipped, LineFault.faultClass?, wrong, FaultClass.isSkipped]
  | ok result =>
      obtain ⟨lead, rfl, rfl, rfl, rfl, joins, wired⟩ :=
        (h.assembled.connect_eq_ok early early').mp connected
      have asks : (Record.link source lead.outletSlot target lead.inletSlot).Connects entries lead :=
        ⟨⟨source, target, rfl, at_source, at_target⟩, joins⟩
      have attempted : l.attempt (.link source lead.outletSlot target lead.inletSlot) =
          ({ l with circuit := result.1 }, none) := by
        simp only [Loading.attempt, from_here, to_here, connected]
      refine ⟨?_, fun fault met => ?_⟩
      · rw [Loading.take, attempted, ← wired]
        by_cases old : lead ∈ made
        · rw [h.wire_made old]
          exact .nothing rfl fun other asks' => asks.unique asks' ▸ old
        · exact .link asks old (h.take_wired joins old)
      · rw [attempted] at met
        cases met

theorem Loading.Holds.attempts (h : l.Holds entries made first) (record : Record) :
    Loading.Attempts entries made first l record := by
  cases record with
  | node id body x y =>
      refine ⟨.node rfl (h.take_node id body x y), fun fault met => ?_⟩
      rw [l.attempt_node] at met
      cases met
  | link source outletSlot target inletSlot =>
      cases from_here : l.table.lookup source with
      | none =>
          refine Loading.attempts_of_fault (.unknownEnd source target) rfl (fun lead asks => ?_)
            (by simp only [Loading.attempt, from_here]) rfl
          cases from_here.symm.trans (h.lookup_of_connects asks).2.2.1
      | some ref =>
          cases to_here : l.table.lookup target with
          | none =>
              refine Loading.attempts_of_fault (.unknownEnd source target) rfl
                (fun lead asks => ?_)
                (by simp only [Loading.attempt, from_here, to_here]) rfl
              cases to_here.symm.trans (h.lookup_of_connects asks).2.2.2
          | some ref' =>
              obtain ⟨i, at_source, -⟩ := (h.table _ _).mp from_here
              obtain ⟨k, at_target, -⟩ := (h.table _ _).mp to_here
              exact h.attempts_found at_source at_target

end Steps

section Runs

variable {l : Loading} {entries : List (Int × Node)} {made : List Lead} {first : Nat}

theorem described_append (lines more : List (List Char)) :
    described (lines ++ more) = described lines ++ described more :=
  List.filterMap_append

theorem described_singleton (line : List Char) :
    described [line] = ((Record.ofLine? line).bind Record.entry?).toList := by
  unfold described
  cases found : (Record.ofLine? line).bind Record.entry? <;> simp [found]

/-- A line that meets a fault has changed nothing, and is passed over. -/
theorem Loading.Holds.attemptLine_fault (h : l.Holds entries made first) {line : List Char}
    {fault : LineFault} (met : (l.attemptLine line).2 = some fault) :
    fault.isSkipped ∧ l.takeLine line = l := by
  cases read : Record.read line with
  | ok record =>
      rw [Loading.attemptLine, read] at met
      rw [l.takeLine_of_read read]
      exact (h.attempts record).skipped fault met
  | error first =>
      rw [Loading.attemptLine, read] at met
      obtain rfl := Option.some.inj met
      exact ⟨Record.read_skips line first read, l.takeLine_of_error read⟩

theorem Loading.Holds.takeLine (h : l.Holds entries made first) (line : List Char) :
    ∃ made, (l.takeLine line).Holds (entries ++ described [line]) made first := by
  rw [described_singleton]
  cases read : Record.read line with
  | error fault =>
      rw [l.takeLine_of_error read, Record.ofLine?_of_error read, Option.bind_none,
        Option.toList_none, List.append_nil]
      exact ⟨made, h⟩
  | ok record =>
      rw [l.takeLine_of_read read, Record.ofLine?_of_read read, Option.bind_some]
      have effect := (h.attempts record).effect
      generalize l.take record = next at effect
      cases effect with
      | node new holds =>
          rw [new]
          exact ⟨made, holds⟩
      | link asks new holds =>
          rw [asks.entry?, Option.toList_none, List.append_nil]
          exact ⟨_, holds⟩
      | nothing no_node no_link =>
          rw [no_node, Option.toList_none, List.append_nil]
          exact ⟨made, h⟩

/-- Line after line. -/
theorem Loading.Holds.run (h : l.Holds entries made first) (lines : List (List Char)) :
    l.attemptLines lines = (lines.foldl Loading.takeLine l, none) ∧
      ∃ made, (lines.foldl Loading.takeLine l).Holds (entries ++ described lines) made first := by
  induction lines generalizing l entries made with
  | nil => exact ⟨rfl, made, by rwa [described, List.filterMap_nil, List.append_nil]⟩
  | cons line lines ih =>
      obtain ⟨_, next⟩ := h.takeLine line
      obtain ⟨reads, made, last⟩ := ih next
      rw [List.append_assoc, ← described_append] at last
      refine ⟨?_, made, last⟩
      rw [List.foldl_cons, ← reads, Loading.takeLine, Loading.attemptLines]
      split
      · rename_i after fault met
        have skipped := (h.attemptLine_fault (congrArg Prod.snd met)).1
        rw [if_pos skipped, met]
      · rename_i after met
        rw [met]

/-- Whether a line is the header of a saved graph. -/
def isHeader (line : List Char) : Bool :=
  String.ofList (Text.strip Text.isBlank line) = archiveHeader

/-- The lines behind the header. Without a header none of them counts. -/
def recordLines (lines : List (List Char)) : List (List Char) :=
  match lines with
  | header :: records => if isHeader header then records else []
  | [] => []

def Loading.start (c : Circuit) : Loading := { circuit := { c with graph := c.graph.clear } }

theorem Circuit.readLines_eq (c : Circuit) (lines : List (List Char)) :
    c.readLines lines =
      (((Loading.start c).attemptLines (recordLines lines)).1.circuit,
        ((Loading.start c).attemptLines (recordLines lines)).2) := by
  cases lines with
  | nil => rfl
  | cons header records =>
      simp only [Circuit.readLines, recordLines, isHeader, decide_eq_true_eq]
      split <;> rfl

/-- All lines behind the header are taken in. -/
theorem Circuit.loadLines_eq (c : Circuit) (lines : List (List Char)) :
    c.loadLines lines = ((recordLines lines).foldl Loading.takeLine (Loading.start c)).circuit := by
  obtain ⟨reads, -⟩ := (Loading.holds_nothing c).run (recordLines lines)
  rw [Circuit.loadLines, c.readLines_eq, Loading.start, reads]

end Runs

end SignalGraph
