import SignalGraph.Graph.Document
import SignalGraph.Proofs.Form.Check
import SignalGraph.Proofs.Graph.Assembled
import SignalGraph.Proofs.Node.Making

/-!
Accepted documents. The check of a document counts slots and collects what is wrong; building it
makes nodes and connections and stops at the first fault. Both are compared with one plan: a node
for each entry, and for each connection a lead between planned nodes.
-/

namespace SignalGraph

section Plans

/-- What an entry says of a node: its kind, its place, and what its parameters make of it. -/
structure NodeEntry.Describes (entry : NodeEntry) (node : Node) : Prop where
  kind : node.kind = entry.kind
  x : node.x = entry.x
  y : node.y = entry.y
  params : entry.body = .ok node.body

theorem NodeEntry.body_kind {entry : NodeEntry} {body : Body} (made : entry.body = .ok body) :
    body.kind = entry.kind := by
  obtain ⟨kind, named, made⟩ := Body.made_of_createNamed made
  rw [Kind.ofValue, Kind.ofName?_name] at named
  rw [made.kind_eq, Except.ok.inj named]

theorem NodeEntry.describes_made {entry : NodeEntry} {body : Body} (made : entry.body = .ok body) :
    entry.Describes { Node.ofBody body with x := entry.x, y := entry.y } :=
  ⟨NodeEntry.body_kind made, rfl, rfl, made⟩

/-- The ids of the entries in order. -/
def Document.ids (d : Document) : List Int := d.nodes.map NodeEntry.id

/-- The lead that a connection asks for, between the positions of the ids. -/
def LinkEntry.lead (ids : List Int) (link : LinkEntry) : Lead where
  source := ids.idxOf link.source
  outletSlot := link.outletSlot.toNat
  target := ids.idxOf link.target
  inletSlot := link.inletSlot.toNat

/-- A node for each entry, and a lead between them for each connection. -/
structure Document.Planned (d : Document) (plans : List Node) : Prop where
  nodes : List.Forall₂ NodeEntry.Describes d.nodes plans
  links : ∀ link ∈ d.links, (link.lead d.ids).Joins plans

/-- Slots as they pass the check of their fields. -/
structure LinkEntry.Unsigned (link : LinkEntry) : Prop where
  outletSlot : 0 ≤ link.outletSlot
  inletSlot : 0 ≤ link.inletSlot

theorem LinkEntry.check_unsigned {v : Value} {link : LinkEntry} (accepted : check v = .ok link) :
    link.Unsigned := by
  have slot {v : Value} {n : Int} (h : (do Form.atLeast 0 (← Form.int v)) = Except.ok n) :
      0 ≤ n := by
    obtain ⟨_, -, h⟩ := bind_eq_ok.mp h
    exact Form.atLeast_ok h
  obtain ⟨fields, -, checked⟩ := Form.model_ok accepted
  obtain ⟨_, inletSlot, upToTarget, inlet, rfl⟩ := Form.apply_eq_ok.mp checked
  obtain ⟨_, target, upToOutlet, -, rfl⟩ := Form.apply_eq_ok.mp upToTarget
  obtain ⟨_, outletSlot, upToSource, outlet, rfl⟩ := Form.apply_eq_ok.mp upToOutlet
  obtain ⟨source, -, rfl⟩ := Form.map_eq_ok.mp upToSource
  obtain ⟨_, -, outlet⟩ := Form.required_eq_ok.mp outlet
  obtain ⟨_, -, inlet⟩ := Form.required_eq_ok.mp inlet
  exact ⟨slot outlet, slot inlet⟩

theorem Document.checkFields_unsigned {v : Value} {d : Document}
    (accepted : checkFields v = .ok d) : ∀ link ∈ d.links, link.Unsigned := by
  obtain ⟨fields, -, checked⟩ := Form.model_ok accepted
  obtain ⟨_, links, upToNodes, hlinks, rfl⟩ := Form.apply_eq_ok.mp checked
  obtain ⟨_, nodes, upToVersion, -, rfl⟩ := Form.apply_eq_ok.mp upToNodes
  obtain ⟨_, -, rfl⟩ := Form.map_eq_ok.mp upToVersion
  intro link mem
  rcases Form.optional_ok hlinks with rfl | ⟨_, hlinks⟩
  · cases mem
  · obtain ⟨_, hlink⟩ := Form.listOf_ok hlinks link mem
    exact LinkEntry.check_unsigned hlink

end Plans

section Checks

variable {d : Document}

theorem Document.duplicates_eq_nil : d.duplicates = [] ↔ d.ids.Nodup := by
  have sorted (ids : List Int) : ids.mergeSort (fun a b => decide (a ≤ b)) = [] ↔ ids = [] := by
    rw [← List.length_eq_zero_iff, List.length_mergeSort, List.length_eq_zero_iff]
  have erased (ids : List Int) : ids.eraseDups = [] ↔ ids = [] := by
    simp only [List.eq_nil_iff_forall_not_mem, List.mem_eraseDups]
  change (((d.ids.filter fun id => 1 < d.ids.count id).eraseDups).mergeSort _) = [] ↔ _
  rw [sorted, erased, List.filter_eq_nil_iff, List.nodup_iff_count_le_one]
  simp only [decide_eq_true_eq, Nat.not_lt]
  constructor
  · intro once id
    by_cases mem : id ∈ d.ids
    · exact once id mem
    · rw [List.count_eq_zero_of_not_mem mem]
      exact Nat.zero_le 1
  · intro once id _
    exact once id

/-- The check of the nodes has nothing to report when each of them can be made. -/
theorem checkNodes_eq_ok {table filled : List (Int × SlotCounts)} {entries : List NodeEntry} :
    checkNodes table entries = .ok (filled, []) ↔
      ∃ plans, List.Forall₂ NodeEntry.Describes entries plans ∧
        ((entries.map NodeEntry.id).zip plans).foldl
          (fun table p => putEntry p.1 p.2.body.slotCounts table) table = filled := by
  induction entries generalizing table with
  | nil => simp [checkNodes]
  | cons entry entries ih =>
      simp only [List.forall₂_cons_left_iff]
      rw [checkNodes]
      cases made : entry.body with
      | ok body =>
          simp only [ih]
          constructor
          · rintro ⟨plans, planned, filled⟩
            exact ⟨_, ⟨_, plans, NodeEntry.describes_made made, planned, rfl⟩, filled⟩
          · rintro ⟨_, ⟨plan, plans, described, planned, rfl⟩, filled⟩
            obtain rfl := Except.ok.inj (made.symm.trans described.params)
            exact ⟨plans, planned, filled⟩
      | error fault =>
          constructor
          · intro checked
            have reported {issue : DocumentIssue}
                (rest : Except DocumentFault (List (Int × SlotCounts) × List DocumentIssue)) :
                rest.map (fun p => (p.1, issue :: p.2)) ≠ .ok (filled, []) := by
              cases rest <;> simp [Except.map]
            simp only at checked
            split at checked
            · contradiction
            · cases checked
            · exact absurd checked (reported _)
          · rintro ⟨_, ⟨plan, _, described, -⟩, -⟩
            cases made.symm.trans described.params

theorem LinkEntry.issues_eq_nil {link : LinkEntry} {table : List (Int × SlotCounts)} {i : Nat} :
    link.issues table i = [] ↔
      (∃ source, table.lookup link.source = some source ∧ link.outletSlot < source.outlets) ∧
        ∃ target, table.lookup link.target = some target ∧ link.inletSlot < target.inlets := by
  rw [issues]
  cases table.lookup link.source with
  | none => simp
  | some source =>
      cases table.lookup link.target with
      | none => simp
      | some target => simp

/-- The check of a connection looks for the lead that it asks for. -/
theorem LinkEntry.issues_eq_nil_iff_joins {link : LinkEntry} (unsigned : link.Unsigned)
    {ids : List Int} {plans : List Node} (same : ids.length = plans.length) {i : Nat} :
    link.issues (ids.zip (plans.map (·.body.slotCounts))) i = [] ↔ (link.lead ids).Joins plans := by
  have outlet := Int.toNat_of_nonneg unsigned.outletSlot
  have inlet := Int.toNat_of_nonneg unsigned.inletSlot
  rw [issues_eq_nil, lookup_zip (by rw [same, List.length_map]),
    lookup_zip (by rw [same, List.length_map])]
  simp only [List.getElem?_map, Option.map_eq_some_iff, exists_exists_and_eq_and, Body.slotCounts]
  rw [← outlet, ← inlet]
  simp only [Int.ofNat_lt]
  exact ⟨fun ⟨source, target⟩ => ⟨source, target⟩, fun joins => ⟨joins.source, joins.target⟩⟩

/-- The slots of planned nodes, each under its own id. -/
theorem slots_entered {ids : List Int} {plans : List Node} (once : ids.Nodup)
    (same : ids.length = plans.length) :
    (ids.zip plans).foldl (fun table p => putEntry p.1 p.2.body.slotCounts table) [] =
      ids.zip (plans.map (·.body.slotCounts)) := by
  rw [foldl_putEntry (fun p : Int × Node => (p.1, p.2.body.slotCounts)) (ids.zip plans),
    List.zip_map_right]
  · rfl
  · rw [List.nil_append, List.map_map]
    change ((ids.zip plans).map Prod.fst).Nodup
    rwa [List.map_fst_zip (Nat.le_of_eq same)]

/-- The connections have no issues when all their leads join planned nodes. -/
theorem link_issues_eq_nil {links : List LinkEntry} (unsigned : ∀ link ∈ links, link.Unsigned)
    {ids : List Int} {plans : List Node} (same : ids.length = plans.length) :
    (links.zipIdx.flatMap fun p => p.1.issues (ids.zip (plans.map (·.body.slotCounts))) p.2) = [] ↔
      ∀ link ∈ links, (link.lead ids).Joins plans := by
  rw [List.flatMap_eq_nil_iff]
  constructor
  · intro none link mem
    obtain ⟨i, found⟩ := List.mem_iff_getElem?.mp mem
    have issues := none (link, i) (List.mem_zipIdx_iff_getElem?.mpr found)
    exact (LinkEntry.issues_eq_nil_iff_joins (unsigned link mem) same).mp issues
  · intro joins p entry
    have mem := List.mem_of_getElem? (List.mem_zipIdx_iff_getElem?.mp entry)
    exact (LinkEntry.issues_eq_nil_iff_joins (unsigned _ mem) same).mpr (joins _ mem)

/-- A document has no issues when its ids are distinct and there is a plan for it. -/
theorem Document.issues_eq_nil (unsigned : ∀ link ∈ d.links, link.Unsigned) :
    d.issues = .ok [] ↔ d.ids.Nodup ∧ ∃ plans, d.Planned plans := by
  rw [issues, bind_eq_ok]
  constructor
  · rintro ⟨⟨table, params⟩, checked, none⟩
    obtain ⟨front, quiet⟩ := List.append_eq_nil_iff.mp (pure_eq_ok.mp none)
    obtain ⟨distinct, rfl⟩ := List.append_eq_nil_iff.mp front
    have once : d.ids.Nodup := by
      rw [← duplicates_eq_nil, ← List.isEmpty_iff]
      by_contra found
      rw [if_neg found] at distinct
      cases distinct
    obtain ⟨plans, planned, rfl⟩ := checkNodes_eq_ok.mp checked
    have length : d.ids.length = plans.length := (List.length_map _).trans planned.length_eq
    rw [← ids, slots_entered once length] at quiet
    exact ⟨once, plans, planned, (link_issues_eq_nil unsigned length).mp quiet⟩
  · rintro ⟨once, plans, planned, joins⟩
    have length : d.ids.length = plans.length := (List.length_map _).trans planned.length_eq
    have filled := checkNodes_eq_ok.mpr ⟨plans, planned, slots_entered once length⟩
    refine ⟨_, filled, pure_eq_ok.mpr ?_⟩
    rw [duplicates_eq_nil.mpr once]
    exact (link_issues_eq_nil unsigned length).mpr joins

theorem Document.validate_eq_ok (unsigned : ∀ link ∈ d.links, link.Unsigned)
    {accepted : Document} :
    d.validate = .ok accepted ↔ d = accepted ∧ d.ids.Nodup ∧ ∃ plans, d.Planned plans := by
  rw [validate, bind_eq_ok, ← issues_eq_nil unsigned]
  constructor
  · rintro ⟨found, issues, rest⟩
    split at rest
    · rename_i none
      rw [List.isEmpty_iff.mp none] at issues
      exact ⟨pure_eq_ok.mp rest, issues⟩
    · cases rest
  · rintro ⟨rfl, issues⟩
    exact ⟨[], issues, rfl⟩

end Checks

section Building

/-- Enters a planned node under the id of its entry. -/
def Loading.enter (l : Loading) (entry : Int × Node) : Loading :=
  let (circuit, ref) := l.circuit.insert entry.2.body entry.2.x entry.2.y
  { circuit, table := putEntry entry.1 ref l.table }

/-- The nodes of a document are entered when each of them can be made. -/
theorem buildNodes_eq_ok {l entered : Loading} {entries : List NodeEntry} :
    buildNodes l entries = .ok entered ↔
      ∃ plans, List.Forall₂ NodeEntry.Describes entries plans ∧
        ((entries.map NodeEntry.id).zip plans).foldl Loading.enter l = entered := by
  induction entries generalizing l with
  | nil => simp [buildNodes]
  | cons entry entries ih =>
      simp only [List.forall₂_cons_left_iff]
      rw [buildNodes, bind_eq_ok]
      simp only [mapError_eq_ok, ih]
      constructor
      · rintro ⟨body, made, plans, planned, entered⟩
        exact ⟨_, ⟨_, plans, NodeEntry.describes_made made, planned, rfl⟩, entered⟩
      · rintro ⟨_, ⟨plan, plans, described, planned, rfl⟩, entered⟩
        refine ⟨plan.body, described.params, plans, planned, ?_⟩
        rw [← described.x, ← described.y]
        exact entered

/-- Nodes that are entered under distinct ids are found by these ids. -/
theorem entered (c : Circuit) {entries : List (Int × Node)} (once : (entries.map Prod.fst).Nodup) :
    let l := entries.foldl Loading.enter { circuit := { c with graph := c.graph.clear } }
    l.circuit.Assembled (entries.map Prod.snd) [] c.pool.nodes.size ∧
      l.table = (entries.map Prod.fst).zip
        ((List.range entries.length).map (c.pool.nodes.size + ·)) := by
  -- The last entry takes the position that the others leave free.
  induction entries using List.reverseRecOn with
  | nil => exact ⟨c.assembled_clear, rfl⟩
  | append_singleton entries entry ih =>
      rw [List.map_append, List.nodup_append] at once
      obtain ⟨assembled, table⟩ := ih once.1
      have fresh : entry.1 ∉ entries.map Prod.fst := fun mem =>
        once.2.2 _ mem _ (List.mem_singleton_self _) rfl
      have length : (entries.map Prod.fst).length =
          ((List.range entries.length).map (c.pool.nodes.size + ·)).length := by simp
      simp only [List.foldl_append, List.foldl_cons, List.foldl_nil]
      refine ⟨?_, ?_⟩
      · rw [List.map_append]
        exact assembled.insert (fun _ mem => nomatch mem) entry.2
      · change putEntry entry.1 _ _ = _
        rw [table, putEntry_of_fresh (by rwa [List.map_fst_zip (Nat.le_of_eq length)]),
          List.map_append, List.length_append, List.length_singleton, List.range_succ,
          List.map_append, List.zip_append length]
        congr
        exact assembled.size.trans (by rw [List.length_map])

variable {l built : Loading} {ids : List Int} {plans : List Node} {made : List Lead} {first : Nat}

/-- A connection is made between the nodes that are found by its ids. -/
theorem buildLinks_cons_eq_ok {link : LinkEntry} {rest : List LinkEntry} :
    buildLinks l (link :: rest) = .ok built ↔
      ∃ source target made, l.table.lookup link.source = some source ∧
        l.table.lookup link.target = some target ∧
        l.circuit.connect source link.outletSlot target link.inletSlot = .ok made ∧
        buildLinks { l with circuit := made.1 } rest = .ok built := by
  rw [buildLinks]
  cases l.table.lookup link.source with
  | none => simp [throw, throwThe, MonadExceptOf.throw]
  | some source =>
      cases l.table.lookup link.target with
      | none => simp [throw, throwThe, MonadExceptOf.throw]
      | some target =>
          simp only [bind_eq_ok, mapError_eq_ok, Option.some.injEq, exists_and_left,
            exists_eq_left']

/-- An id is found where it stands among the ids of the planned nodes. -/
theorem lookup_entered (same : ids.length = plans.length) {id : Int} {ref : Ref} :
    (ids.zip ((List.range plans.length).map (first + ·))).lookup id = some ref ↔
      ids.idxOf id < plans.length ∧ first + ids.idxOf id = ref := by
  rw [lookup_zip (by simp [same]), List.getElem?_map, Option.map_eq_some_iff]
  constructor
  · rintro ⟨i, found, rfl⟩
    obtain ⟨bound, rfl⟩ := List.getElem?_eq_some_iff.mp found
    rw [List.getElem_range]
    exact ⟨by rwa [List.length_range] at bound, rfl⟩
  · rintro ⟨bound, rfl⟩
    exact ⟨_, List.getElem?_range bound, rfl⟩

/-- A connection can be made just when its lead joins planned nodes. -/
theorem buildLinks_cons (h : l.circuit.Assembled plans made first)
    (table : l.table = ids.zip ((List.range plans.length).map (first + ·)))
    (same : ids.length = plans.length) {link : LinkEntry} (unsigned : link.Unsigned)
    (rest : List LinkEntry) :
    let lead := link.lead ids
    let wired := (l.circuit.wire (first + lead.source) (first + lead.target) lead.outletSlot
      lead.inletSlot).1
    buildLinks l (link :: rest) = .ok built ↔
      lead.Joins plans ∧ buildLinks { l with circuit := wired } rest = .ok built := by
  intro lead wired
  have early {i : Nat} {node : Node} (there : plans[i]? = some node) : i < plans.length :=
    (List.getElem?_eq_some_iff.mp there).1
  rw [buildLinks_cons_eq_ok, table]
  simp only [lookup_entered same]
  constructor
  · rintro ⟨_, _, _, ⟨early_source, rfl⟩, ⟨early_target, rfl⟩, connected, rest⟩
    obtain ⟨other, source, target, outlet, inlet, joins, rfl⟩ :=
      (h.connect_eq_ok early_source early_target).mp connected
    obtain rfl : lead = other := by
      cases other
      simp only [lead, LinkEntry.lead, outlet, inlet, Int.toNat_natCast, ← source, ← target]
    exact ⟨joins, table ▸ rest⟩
  · rintro ⟨joins, rest⟩
    obtain ⟨_, source, -⟩ := joins.source
    obtain ⟨_, target, -⟩ := joins.target
    have connected := (h.connect_eq_ok (early source) (early target)).mpr
      ⟨lead, rfl, rfl, (Int.toNat_of_nonneg unsigned.outletSlot).symm,
        (Int.toNat_of_nonneg unsigned.inletSlot).symm, joins, rfl⟩
    exact ⟨_, _, _, ⟨early source, rfl⟩, ⟨early target, rfl⟩, connected, table ▸ rest⟩

/-- The connections of a document are made when all their leads join planned nodes. Of equal ones
the first counts. -/
theorem buildLinks_ok {links : List LinkEntry} {done : List Lead}
    (h : l.circuit.Assembled plans done.eraseDups first)
    (table : l.table = ids.zip ((List.range plans.length).map (first + ·)))
    (same : ids.length = plans.length) (unsigned : ∀ link ∈ links, link.Unsigned) :
    ((∃ built, buildLinks l links = .ok built) ↔ ∀ link ∈ links, (link.lead ids).Joins plans) ∧
      ∀ built, buildLinks l links = .ok built → built.circuit.Assembled plans
        (done ++ links.map (LinkEntry.lead ids)).eraseDups first := by
  induction links generalizing l done with
  | nil =>
      refine ⟨by simp [buildLinks], fun built made => ?_⟩
      obtain rfl := Except.ok.inj made
      rwa [List.map_nil, List.append_nil]
  | cons link links ih =>
      rw [List.forall_mem_cons] at unsigned
      have step (built : Loading) : buildLinks l (link :: links) = .ok built ↔ _ :=
        buildLinks_cons h table same unsigned.1 links
      simp only [step, exists_and_left, List.forall_mem_cons]
      by_cases joins : (link.lead ids).Joins plans
      · have wired := h.wire joins
        rw [← eraseDups_concat] at wired
        obtain ⟨rest, assembled⟩ := ih (l := { l with circuit := _ }) wired table unsigned.2
        refine ⟨and_congr_right fun _ => rest, fun built made => ?_⟩
        rw [List.map_cons, List.append_cons]
        exact assembled built made.2
      · exact ⟨by simp [joins], fun _ made => absurd made.1 joins⟩

variable {d : Document}

/-- The connections of a document are made between the nodes entered for a plan. -/
theorem buildLinks_entered (c : Circuit) (once : d.ids.Nodup)
    (unsigned : ∀ link ∈ d.links, link.Unsigned) (same : d.ids.length = plans.length) :
    let l := (d.ids.zip plans).foldl Loading.enter { circuit := { c with graph := c.graph.clear } }
    ((∃ built, buildLinks l d.links = .ok built) ↔
      ∀ link ∈ d.links, (link.lead d.ids).Joins plans) ∧
    ∀ built, buildLinks l d.links = .ok built → built.circuit.Assembled plans
      (d.links.map (LinkEntry.lead d.ids)).eraseDups c.pool.nodes.size := by
  intro l
  have ids := List.map_fst_zip (Nat.le_of_eq same)
  have nodes := List.map_snd_zip (Nat.le_of_eq same.symm)
  obtain ⟨assembled, table⟩ := entered c (ids ▸ once)
  rw [nodes] at assembled
  rw [ids, List.length_zip, same, Nat.min_self] at table
  have start : l.circuit.Assembled plans ([] : List Lead).eraseDups c.pool.nodes.size := assembled
  exact buildLinks_ok start table same unsigned

/-- A document whose ids are distinct can be built just when there is a plan for it. -/
theorem Document.build_ok (c : Circuit) (once : d.ids.Nodup)
    (unsigned : ∀ link ∈ d.links, link.Unsigned) :
    ((∃ built, d.build c = .ok built) ↔ ∃ plans, d.Planned plans) ∧
      ∀ built, d.build c = .ok built → ∃ plans, d.Planned plans ∧
        built.Assembled plans (d.links.map (LinkEntry.lead d.ids)).eraseDups
          c.pool.nodes.size := by
  have plan_of {built : Circuit} (built_ok : d.build c = .ok built) : ∃ plans, d.Planned plans ∧
      built.Assembled plans (d.links.map (LinkEntry.lead d.ids)).eraseDups c.pool.nodes.size := by
    obtain ⟨l, nodes, rest⟩ := bind_eq_ok.mp built_ok
    obtain ⟨plans, planned, rfl⟩ := buildNodes_eq_ok.mp nodes
    have length : d.ids.length = plans.length := (List.length_map _).trans planned.length_eq
    obtain ⟨l, links, rest⟩ := bind_eq_ok.mp rest
    obtain rfl := pure_eq_ok.mp rest
    obtain ⟨joins, assembled⟩ := buildLinks_entered c once unsigned length
    exact ⟨plans, ⟨planned, joins.mp ⟨l, links⟩⟩, assembled l links⟩
  refine ⟨⟨?_, ?_⟩, fun _ => plan_of⟩
  · rintro ⟨built, built_ok⟩
    obtain ⟨plans, planned, -⟩ := plan_of built_ok
    exact ⟨plans, planned⟩
  · rintro ⟨plans, planned⟩
    have length : d.ids.length = plans.length :=
      (List.length_map _).trans planned.nodes.length_eq
    obtain ⟨l, links⟩ := (buildLinks_entered c once unsigned length).1.mpr planned.links
    refine ⟨l.circuit, bind_eq_ok.mpr ⟨_, buildNodes_eq_ok.mpr ⟨plans, planned.nodes, rfl⟩, ?_⟩⟩
    exact bind_eq_ok.mpr ⟨l, links, rfl⟩

end Building

section Connections

/-- The connection between the nodes at the ends of a lead, if ids are positions. -/
def Lead.link (lead : Lead) : Link where
  source := lead.source
  outletSlot := lead.outletSlot
  target := lead.target
  inletSlot := lead.inletSlot

theorem Lead.link_injective : Lead.link.Injective := by
  rintro ⟨source, outletSlot, target, inletSlot⟩ ⟨source', outletSlot', target', inletSlot'⟩ same
  simp only [Lead.link, Link.mk.injEq, Int.natCast_inj] at same
  obtain ⟨rfl, rfl, rfl, rfl⟩ := same
  rfl

/-- Whether a connection leads to an inlet. -/
def Link.leadsTo (target inletSlot : Nat) (link : Link) : Bool :=
  link.target = target && link.inletSlot = inletSlot

variable {c : Circuit} {plans : List Node} {made : List Lead} {first : Nat}

/-- The connections of an assembled circuit are its leads. -/
theorem Circuit.Assembled.links (h : c.Assembled plans made first) :
    c.links = (leads c.layout).map Lead.link := by
  have named {ref : Ref} (mem : ref ∈ c.graph.nodes) :
      (c.node ref).idNumber = (c.graph.nodes.idxOf ref : Nat) := by
    rw [h.nodes, List.mem_map] at mem
    obtain ⟨i, bound, rfl⟩ := mem
    have inside := List.mem_range.mp bound
    rw [h.idxOf inside, h.node i _ (List.getElem?_eq_getElem inside)]
    rfl
  rw [← h.sound.links_map_lead, List.map_map]
  refine (List.map_id _).symm.trans (List.map_congr_left fun link mem => ?_)
  obtain ⟨source, listed, target, listed', hsource, htarget, -⟩ := h.sound.joins mem
  have from_position := h.sound.position listed
  have to_position := h.sound.position listed'
  rw [← hsource] at from_position
  rw [← htarget] at to_position
  simp only [id, Function.comp_apply, Lead.link, Circuit.lead, from_position, to_position,
    Option.getD_some]
  rw [← named listed, ← named listed', ← hsource, ← htarget]

/-- Leads between nodes that are there do not lead to one that is not. -/
theorem filter_leads_eq_nil {plans : List Node} {xs : List Lead} {target inletSlot : Nat}
    (missing : plans[target]? = none)
    (there : ∀ lead ∈ xs, ∃ node, plans[lead.target]? = some node) :
    xs.filter (fun lead => lead.inletSlot = inletSlot && lead.target = target) = [] := by
  rw [List.filter_eq_nil_iff]
  intro lead mem hit
  simp only [Bool.and_eq_true, decide_eq_true_eq] at hit
  obtain ⟨_, node⟩ := there lead mem
  rw [hit.2, missing] at node
  cases node

/-- An inlet is led to by the leads that were made to it, in the order in which they were made. -/
theorem Circuit.Assembled.leads_to (h : c.Assembled plans made first)
    (joins : ∀ lead ∈ made, lead.Joins plans) (target inletSlot : Nat) :
    (leads c.layout).filter (fun lead => lead.inletSlot = inletSlot && lead.target = target) =
      made.filter fun lead => lead.inletSlot = inletSlot && lead.target = target := by
  have layout := h.layout joins
  cases found : plans[target]? with
  | none =>
      rw [filter_leads_eq_nil found, filter_leads_eq_nil found]
      · intro lead mem
        obtain ⟨node, there, -⟩ := (joins lead mem).target
        exact ⟨node, there⟩
      · intro lead mem
        obtain ⟨node, there, -⟩ := (h.sound.closed.joins mem).target
        rw [layout, List.getElem?_mapIdx, Option.map_eq_some_iff] at there
        obtain ⟨plan, there, -⟩ := there
        exact ⟨plan, there⟩
  | some plan =>
      rw [filter_leads (by rw [layout, List.getElem?_mapIdx, found]; rfl)]
      rcases Nat.lt_or_ge inletSlot plan.body.inlets.length with inside | outside
      · rw [List.getD_eq_getElem?_getD, List.getElem?_map, List.getElem?_range inside,
          Option.map_some, Option.getD_some, readsAt, List.map_map]
        refine (List.map_congr_left fun lead mem => ?_).trans (List.map_id _)
        have hit := List.of_mem_filter mem
        simp only [Bool.and_eq_true, decide_eq_true_eq] at hit
        simp only [Function.comp_apply, Nat.zero_add, ← hit.1, ← hit.2]
        rfl
      · rw [List.getD_eq_default _ _ (by rwa [List.length_map, List.length_range]), List.map_nil]
        refine (List.filter_eq_nil_iff.mpr fun lead mem hit => ?_).symm
        simp only [Bool.and_eq_true, decide_eq_true_eq] at hit
        obtain ⟨node, there, slot⟩ := (joins lead mem).target
        rw [hit.2, found] at there
        obtain rfl := Option.some.inj there
        omega

theorem Circuit.Assembled.links_to (h : c.Assembled plans made first)
    (joins : ∀ lead ∈ made, lead.Joins plans) (target inletSlot : Nat) :
    c.links.filter (Link.leadsTo target inletSlot) =
      (made.map Lead.link).filter (Link.leadsTo target inletSlot) := by
  have key : Link.leadsTo target inletSlot ∘ Lead.link =
      fun lead => lead.inletSlot = inletSlot && lead.target = target := by
    funext lead
    simp only [Function.comp_apply, Link.leadsTo, Lead.link, Int.natCast_inj]
    exact Bool.and_comm ..
  rw [h.links, List.filter_map, List.filter_map, key, h.leads_to joins]

/-- The connections are the leads that were made, in another order. -/
theorem Circuit.Assembled.links_perm (h : c.Assembled plans made first)
    (joins : ∀ lead ∈ made, lead.Joins plans) : c.links.Perm (made.map Lead.link) := by
  apply perm_of_filters (p := fun inlet : Nat × Nat => Link.leadsTo inlet.1 inlet.2)
  · intro link mem
    rw [h.links, List.mem_map, List.mem_map] at mem
    rcases mem with ⟨lead, -, rfl⟩ | ⟨lead, -, rfl⟩ <;>
      exact ⟨(lead.target, lead.inletSlot), by simp [Link.leadsTo, Lead.link]⟩
  · exact fun inlet => h.links_to joins inlet.1 inlet.2

end Connections

section Documents

/-- The connection that an entry asks for. The nodes bear the positions of their entries as ids. -/
def Document.connection (d : Document) (link : LinkEntry) : Link where
  source := d.ids.idxOf link.source
  outletSlot := link.outletSlot.toNat
  target := d.ids.idxOf link.target
  inletSlot := link.inletSlot.toNat

theorem Document.connections_eq (d : Document) : (d.links.map d.connection).eraseDups =
    (d.links.map (LinkEntry.lead d.ids)).eraseDups.map Lead.link := by
  rw [← eraseDups_map Lead.link_injective, List.map_map]
  rfl

/-- A circuit with a node for each entry of a document, in order, and with the connections of the
document, each of them once. The connections to one inlet stand in the order of the document. -/
structure Document.Describes (d : Document) (c : Circuit) : Prop where
  nodes : List.Forall₂ NodeEntry.Describes d.nodes c.nodes
  ids : c.nodes.map Node.id = (List.range d.nodes.length).map some
  links : ∀ link, link ∈ c.links ↔ ∃ entry ∈ d.links, d.connection entry = link
  once : c.links.Nodup
  order : ∀ target inletSlot, c.links.filter (Link.leadsTo target inletSlot) =
    (d.links.map d.connection).eraseDups.filter (Link.leadsTo target inletSlot)

variable {d : Document} {c : Circuit} {plans : List Node} {first : Nat}

theorem Document.Planned.joins (planned : d.Planned plans) :
    ∀ lead ∈ (d.links.map (LinkEntry.lead d.ids)).eraseDups, lead.Joins plans := by
  intro lead mem
  rw [List.mem_eraseDups, List.mem_map] at mem
  obtain ⟨link, listed, rfl⟩ := mem
  exact planned.links link listed

/-- The connections to one inlet stand in the order in which the document has them. -/
theorem Circuit.Assembled.order
    (h : c.Assembled plans (d.links.map (LinkEntry.lead d.ids)).eraseDups first)
    (planned : d.Planned plans) (target inletSlot : Nat) :
    c.links.filter (Link.leadsTo target inletSlot) =
      (d.links.map d.connection).eraseDups.filter (Link.leadsTo target inletSlot) := by
  rw [d.connections_eq]
  exact h.links_to planned.joins target inletSlot

theorem Circuit.Assembled.describes
    (h : c.Assembled plans (d.links.map (LinkEntry.lead d.ids)).eraseDups first)
    (planned : d.Planned plans) : d.Describes c := by
  have length := planned.nodes.length_eq
  have perm : c.links.Perm (d.links.map d.connection).eraseDups := by
    rw [d.connections_eq]
    exact h.links_perm planned.joins
  refine ⟨?_, ?_, fun link => ?_, ?_, h.order planned⟩
  · refine List.forall₂_iff_get.mpr ⟨?_, fun i bound _ => ?_⟩
    · rw [h.nodes_eq, List.length_map, List.length_range, length]
    · have bound' : i < plans.length := length ▸ bound
      have described := (List.forall₂_iff_get.mp planned.nodes).2 i bound bound'
      simp only [List.get_eq_getElem] at described
      have made := h.node i _ (List.getElem?_eq_getElem bound')
      simp only [List.get_eq_getElem, h.nodes_eq, List.getElem_map, List.getElem_range, made]
      exact ⟨described.kind, described.x, described.y, described.params⟩
  · rw [h.nodes_eq, List.map_map, length]
    refine List.map_congr_left fun i mem => ?_
    have bound := List.mem_range.mp mem
    simp only [Function.comp_apply, h.node i _ (List.getElem?_eq_getElem bound)]
  · rw [perm.mem_iff, List.mem_eraseDups, List.mem_map]
  · exact perm.nodup_iff.mpr (nodup_eraseDups _)

/-- Data whose fields are valid is accepted as a document just when its ids are distinct and it can
be built, in place of any circuit; and then the circuit that is built is what the document
describes. -/
theorem Document.accepted_iff_built (c : Circuit) {v : Value} {d : Document}
    (fields : Document.checkFields v = .ok d) :
    ((∃ accepted, Document.ofValue v = .ok accepted) ↔
      d.ids.Nodup ∧ ∃ built, d.build c = .ok built) ∧
    ∀ accepted, Document.ofValue v = .ok accepted →
      accepted = d ∧ ∃ built, d.build c = .ok built ∧ d.Describes built := by
  have unsigned := Document.checkFields_unsigned fields
  have checked (accepted : Document) : Document.ofValue v = .ok accepted ↔
      d = accepted ∧ d.ids.Nodup ∧ ∃ plans, d.Planned plans := by
    rw [← Document.validate_eq_ok unsigned, Document.ofValue, fields]
    rfl
  simp only [checked]
  refine ⟨?_, ?_⟩
  · constructor
    · rintro ⟨_, -, once, plans⟩
      exact ⟨once, (Document.build_ok c once unsigned).1.mpr plans⟩
    · rintro ⟨once, built⟩
      exact ⟨d, rfl, once, (Document.build_ok c once unsigned).1.mp built⟩
  · rintro _ ⟨rfl, once, plans⟩
    obtain ⟨builds, assembled⟩ := Document.build_ok c once unsigned
    obtain ⟨built, done⟩ := builds.mpr plans
    obtain ⟨plans, planned, made⟩ := assembled built done
    exact ⟨rfl, built, done, made.describes planned⟩

/-- Ids out of order, a number for an integer, parameters that are left out, an inlet that two
outlets feed, and a connection that stands twice. -/
theorem Document.accepted_iff_built_shared :
    let node (id : Value) (kind : String) (params : Fields) : Value :=
      .object [("id", id), ("kind", .text kind), ("params", .object params)]
    let link (source target slot : Int) : Value :=
      .object [("source", .int source), ("source_slot", .int 0), ("target", .int target),
        ("target_slot", .int slot)]
    let v : Value := .object
      [("nodes", .list [node (.int 7) "ConstantNode" [("value", .text "2.5")],
          node (.bool true) "MathNode" [("op", .text "Abs")], node (.int 4) "TimerNode" []]),
        ("connections", .list [link 4 1 0, link 7 1 0, link 4 1 0])]
    let d : Document :=
      { nodes :=
          [{ id := 7, kind := .constant, x := 0, y := 0, params := [("value", .text "2.5")] },
            { id := 1, kind := .math, x := 0, y := 0, params := [("op", .text "Abs")] },
            { id := 4, kind := .timer, x := 0, y := 0, params := [] }]
        links := [⟨4, 0, 1, 0⟩, ⟨7, 0, 1, 0⟩, ⟨4, 0, 1, 0⟩] }
    Document.checkFields v = .ok d ∧ (∃ accepted, Document.ofValue v = .ok accepted) ∧
      ((∃ accepted, Document.ofValue v = .ok accepted) ↔
        d.ids.Nodup ∧ ∃ built, d.build (.ofSeed 0) = .ok built) ∧
      ∀ accepted, Document.ofValue v = .ok accepted →
        accepted = d ∧ ∃ built, d.build (.ofSeed 0) = .ok built ∧ d.Describes built := by
  intro node link v d
  have accepted : (Document.ofValue v).toOption.isSome := by decide +kernel
  obtain ⟨document, found⟩ := Option.isSome_iff_exists.mp accepted
  exact ⟨rfl, ⟨document, toOption_eq_some.mp found⟩,
    Document.accepted_iff_built (.ofSeed 0) rfl⟩

end Documents

end SignalGraph
