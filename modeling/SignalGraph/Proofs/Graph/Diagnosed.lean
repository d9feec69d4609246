import SignalGraph.Proofs.Entries
import SignalGraph.Proofs.Graph.Accepted
import SignalGraph.Proofs.Graph.Reported

/-!
What the issues of a document blame. Ids that stand more than once are reported together, and each
entry that cannot be made on its own. The ends of a connection are looked up among the entries that
can be made, so an end is also called missing where its entry is there and is refused itself.
-/

namespace SignalGraph

section Issues

/-- The ids that an issue calls ambiguous. -/
def DocumentIssue.duplicates? : DocumentIssue → Option (List Int)
  | .duplicates ids => some ids
  | _ => none

/-- The entry that an issue calls faulty, and its fault. -/
def DocumentIssue.params? : DocumentIssue → Option (NodeEntry × CreateFault)
  | .params entry fault => some (entry, fault)
  | _ => none

/-- Why an entry cannot be made. -/
def NodeEntry.fault? (entry : NodeEntry) : Option CreateFault :=
  match entry.body with
  | .ok _ => none
  | .error fault => some fault

/-- An entry with the id can be made. -/
def Document.Offers (d : Document) (id : Int) : Prop :=
  ∃ entry ∈ d.nodes, entry.id = id ∧ entry.fault? = none

theorem Document.Offers.mem_ids {d : Document} {id : Int} (offers : d.Offers id) : id ∈ d.ids := by
  obtain ⟨entry, mem, rfl, -⟩ := offers
  exact List.mem_map_of_mem mem

end Issues

section Checks

variable {d : Document} {table filled : List (Int × SlotCounts)} {link : LinkEntry}

/-- The ids in a report ascend, and are those that stand more than once. -/
theorem Document.duplicates_ascend :
    d.duplicates.Pairwise (· < ·) ∧ ∀ id, id ∈ d.duplicates ↔ 1 < d.ids.count id := by
  have order (a b : Int) : (decide (a ≤ b) || decide (b ≤ a)) = true := by
    simp only [Bool.or_eq_true, decide_eq_true_eq]
    exact Int.le_total a b
  have sorted := List.pairwise_mergeSort (fun a b c : Int => by simpa using Int.le_trans) order
    (d.ids.filter fun id => 1 < d.ids.count id).eraseDups
  have once := (List.mergeSort_perm (d.ids.filter fun id => 1 < d.ids.count id).eraseDups
    fun a b => decide (a ≤ b)).nodup_iff.mpr (nodup_eraseDups _)
  refine ⟨?_, fun id => ?_⟩
  · refine (sorted.and once).imp fun {a b} both => ?_
    exact lt_of_le_of_ne (of_decide_eq_true both.1) both.2
  · change id ∈ List.mergeSort _ _ ↔ _
    rw [List.mem_mergeSort, List.mem_eraseDups, List.mem_filter, decide_eq_true_eq]
    exact ⟨And.right, fun twice => ⟨List.count_pos_iff.mp (Nat.zero_lt_of_lt twice), twice⟩⟩

/-- The check of the nodes reports each entry that cannot be made, and enters the others. -/
theorem checkNodes_reports {entries : List NodeEntry} {found : List DocumentIssue}
    (checked : checkNodes table entries = .ok (filled, found)) :
    (found = entries.filterMap fun entry => entry.fault?.map (DocumentIssue.params entry)) ∧
    ∀ id, (filled.lookup id).isSome ↔
      (table.lookup id).isSome ∨ ∃ entry ∈ entries, entry.id = id ∧ entry.fault? = none := by
  induction entries generalizing table found with
  | nil =>
      obtain ⟨rfl, rfl⟩ := Prod.mk.inj (Except.ok.inj checked)
      simp
  | cons entry entries ih =>
      rw [checkNodes] at checked
      cases made : entry.body with
      | ok body =>
          have sound : entry.fault? = none := by rw [NodeEntry.fault?, made]
          simp only [made] at checked
          obtain ⟨reported, entered⟩ := ih checked
          refine ⟨by rw [List.filterMap_cons, sound]; exact reported, fun id => ?_⟩
          rw [entered, List.exists_mem_cons_iff]
          by_cases same : id = entry.id
          · subst same
            simp [lookup_putEntry_self, sound]
          · simp [lookup_putEntry_ne same, Ne.symm same]
      | error fault =>
          have faulty : entry.fault? = some fault := by rw [NodeEntry.fault?, made]
          have rest : ∃ later, checkNodes table entries = .ok (filled, later) ∧
              found = .params entry fault :: later := by
            split at checked
            · rename_i good
              rw [good] at made
              cases made
            · cases checked
            · rename_i other _ refused
              cases remaining : checkNodes table entries with
              | error => simp [remaining, Except.map] at checked
              | ok result =>
                  simp only [remaining, Except.map, Except.ok.injEq, Prod.mk.injEq] at checked
                  obtain rfl := Except.error.inj (refused.symm.trans made)
                  exact ⟨result.2, by rw [← checked.1], checked.2.symm⟩
          obtain ⟨later, remaining, rfl⟩ := rest
          obtain ⟨reported, entered⟩ := ih remaining
          refine ⟨by rw [List.filterMap_cons, faulty, Option.map_some, ← reported], fun id => ?_⟩
          rw [entered, List.exists_mem_cons_iff]
          simp [faulty]

/-- The source of a connection is called missing when nothing is entered for it. -/
theorem LinkEntry.noSource_mem_issues {i j : Nat} {other : LinkEntry} :
    .noSource j other ∈ link.issues table i ↔
      j = i ∧ other = link ∧ (table.lookup link.source).isSome = false := by
  unfold LinkEntry.issues
  cases table.lookup link.source <;> cases table.lookup link.target <;> simp

/-- The target of a connection is only looked at where there is a source. -/
theorem LinkEntry.noTarget_mem_issues {i j : Nat} {other : LinkEntry} :
    .noTarget j other ∈ link.issues table i ↔
      j = i ∧ other = link ∧ (table.lookup link.source).isSome = true ∧
        (table.lookup link.target).isSome = false := by
  unfold LinkEntry.issues
  cases table.lookup link.source <;> cases table.lookup link.target <;> simp

/-- Connections have no issues of other kinds. -/
theorem LinkEntry.issues_ends {i : Nat} {issue : DocumentIssue}
    (found : issue ∈ link.issues table i) : issue.duplicates? = none ∧ issue.params? = none := by
  unfold LinkEntry.issues at found
  split at found
  · rw [List.mem_singleton.mp found]
    exact ⟨rfl, rfl⟩
  · rw [List.mem_singleton.mp found]
    exact ⟨rfl, rfl⟩
  · rcases List.mem_append.mp found with found | found <;> split at found <;> simp_all
      [DocumentIssue.duplicates?, DocumentIssue.params?]

end Checks

section Documents

variable {d : Document} {found : List DocumentIssue}

/-- What the issues of a document say of its entries and its connections. -/
structure Document.Diagnosed (d : Document) (found : List DocumentIssue) : Prop where
  /-- The ids that stand more than once are reported together. -/
  duplicates : ∃ ids : List Int, ids.Pairwise (· < ·) ∧ (∀ id, id ∈ ids ↔ 1 < d.ids.count id) ∧
    found.filterMap DocumentIssue.duplicates? = if ids = [] then [] else [ids]
  /-- Each entry that cannot be made is reported once. -/
  params : found.filterMap DocumentIssue.params? =
    d.nodes.filterMap fun entry => entry.fault?.map (entry, ·)
  noSource : ∀ i link, .noSource i link ∈ found ↔ d.links[i]? = some link ∧ ¬d.Offers link.source
  noTarget : ∀ i link, .noTarget i link ∈ found ↔
    d.links[i]? = some link ∧ d.Offers link.source ∧ ¬d.Offers link.target

/-- The issue of the ids, if some stand more than once. -/
def Document.idIssues (d : Document) : List DocumentIssue :=
  if d.duplicates.isEmpty then [] else [.duplicates d.duplicates]

/-- The issues of the entries that cannot be made. -/
def Document.entryIssues (d : Document) : List DocumentIssue :=
  d.nodes.filterMap fun entry => entry.fault?.map (DocumentIssue.params entry)

/-- The issues of the connections, where `table` has the slots of the nodes that can be made. -/
def Document.linkIssues (d : Document) (table : List (Int × SlotCounts)) : List DocumentIssue :=
  d.links.zipIdx.flatMap fun (link, i) => link.issues table i

theorem Document.mem_linkIssues {table : List (Int × SlotCounts)} {issue : DocumentIssue} :
    issue ∈ d.linkIssues table ↔
      ∃ link i, d.links[i]? = some link ∧ issue ∈ LinkEntry.issues link table i := by
  simp only [Document.linkIssues, List.mem_flatMap, List.mem_zipIdx_iff_getElem?, Prod.exists]

theorem Document.issues_eq_ok (reported : d.issues = .ok found) :
    ∃ table, (∀ id, (table.lookup id).isSome ↔ d.Offers id) ∧
      found = d.idIssues ++ d.entryIssues ++ d.linkIssues table := by
  obtain ⟨⟨table, params⟩, checked, rest⟩ := bind_eq_ok.mp reported
  obtain ⟨rfl, entered⟩ := checkNodes_reports checked
  refine ⟨table, fun id => ?_, (pure_eq_ok.mp rest).symm⟩
  rw [entered, List.lookup_nil, Option.isSome_none]
  exact or_iff_right Bool.false_ne_true

theorem Document.idIssues_kind {issue : DocumentIssue} (mem : issue ∈ d.idIssues) :
    issue = .duplicates d.duplicates := by
  unfold Document.idIssues at mem
  split at mem
  · cases mem
  · exact List.mem_singleton.mp mem

theorem Document.entryIssues_kind {issue : DocumentIssue} (mem : issue ∈ d.entryIssues) :
    ∃ entry fault, issue = .params entry fault := by
  obtain ⟨entry, -, faulty⟩ := List.mem_filterMap.mp mem
  obtain ⟨fault, -, rfl⟩ := Option.map_eq_some_iff.mp faulty
  exact ⟨entry, fault, rfl⟩

theorem Document.linkIssues_kind {table : List (Int × SlotCounts)} {issue : DocumentIssue}
    (mem : issue ∈ d.linkIssues table) : issue.duplicates? = none ∧ issue.params? = none := by
  obtain ⟨link, i, -, mem⟩ := Document.mem_linkIssues.mp mem
  exact LinkEntry.issues_ends mem

/-- Whatever speaks of a connection is among the issues of the connections. -/
theorem Document.mem_issues_of_link {table : List (Int × SlotCounts)} {issue : DocumentIssue}
    (other : issue.duplicates? = none ∧ issue.params? = none) :
    issue ∈ d.idIssues ++ d.entryIssues ++ d.linkIssues table ↔ issue ∈ d.linkIssues table := by
  rw [List.mem_append, List.mem_append]
  apply or_iff_right
  rintro (ids | entries)
  · rw [Document.idIssues_kind ids] at other
    cases other.1
  · obtain ⟨entry, fault, rfl⟩ := Document.entryIssues_kind entries
    cases other.2

theorem Document.issues_duplicates (d : Document) (table : List (Int × SlotCounts)) :
    (d.idIssues ++ d.entryIssues ++ d.linkIssues table).filterMap DocumentIssue.duplicates? =
      if d.duplicates = [] then [] else [d.duplicates] := by
  have entries : d.entryIssues.filterMap DocumentIssue.duplicates? = [] := by
    rw [List.filterMap_eq_nil_iff]
    intro issue mem
    obtain ⟨entry, fault, rfl⟩ := Document.entryIssues_kind mem
    rfl
  have links : (d.linkIssues table).filterMap DocumentIssue.duplicates? = [] := by
    rw [List.filterMap_eq_nil_iff]
    exact fun issue mem => (Document.linkIssues_kind mem).1
  rw [List.filterMap_append, List.filterMap_append, entries, links, List.append_nil,
    List.append_nil, Document.idIssues]
  cases d.duplicates with
  | nil => rfl
  | cons id ids => rfl

theorem Document.issues_params (d : Document) (table : List (Int × SlotCounts)) :
    (d.idIssues ++ d.entryIssues ++ d.linkIssues table).filterMap DocumentIssue.params? =
      d.nodes.filterMap fun entry => entry.fault?.map (entry, ·) := by
  have ids : d.idIssues.filterMap DocumentIssue.params? = [] := by
    rw [List.filterMap_eq_nil_iff]
    intro issue mem
    rw [Document.idIssues_kind mem]
    rfl
  have links : (d.linkIssues table).filterMap DocumentIssue.params? = [] := by
    rw [List.filterMap_eq_nil_iff]
    exact fun issue mem => (Document.linkIssues_kind mem).2
  rw [List.filterMap_append, List.filterMap_append, ids, links, List.append_nil, List.nil_append,
    Document.entryIssues, List.filterMap_filterMap]
  congr 1
  funext entry
  cases entry.fault? with
  | none => rfl
  | some fault => rfl

theorem Document.issues_diagnosed (reported : d.issues = .ok found) : d.Diagnosed found := by
  obtain ⟨table, offers, rfl⟩ := Document.issues_eq_ok reported
  obtain ⟨ascend, repeated⟩ := Document.duplicates_ascend (d := d)
  refine ⟨⟨d.duplicates, ascend, repeated, d.issues_duplicates table⟩, d.issues_params table,
    fun i link => ?_, fun i link => ?_⟩
  · rw [Document.mem_issues_of_link ⟨rfl, rfl⟩, Document.mem_linkIssues, ← offers]
    simp only [LinkEntry.noSource_mem_issues, Bool.not_eq_true]
    constructor
    · rintro ⟨_, _, found, rfl, rfl, missing⟩
      exact ⟨found, missing⟩
    · rintro ⟨found, missing⟩
      exact ⟨link, i, found, rfl, rfl, missing⟩
  · rw [Document.mem_issues_of_link ⟨rfl, rfl⟩, Document.mem_linkIssues, ← offers, ← offers]
    simp only [LinkEntry.noTarget_mem_issues, Bool.not_eq_true]
    constructor
    · rintro ⟨_, _, found, rfl, rfl, given, missing⟩
      exact ⟨found, given, missing⟩
    · rintro ⟨found, given, missing⟩
      exact ⟨link, i, found, rfl, rfl, given, missing⟩

/-- An end is only called missing where no entry bears its id, unless a connection leads to an entry
that cannot be made itself. -/
theorem Document.Diagnosed.missing_iff (h : d.Diagnosed found) :
    (∀ i link, (.noSource i link ∈ found → link.source ∉ d.ids) ∧
      (.noTarget i link ∈ found → link.target ∉ d.ids)) ↔
    ∀ link ∈ d.links, (link.source ∈ d.ids → d.Offers link.source) ∧
      (d.Offers link.source → link.target ∈ d.ids → d.Offers link.target) := by
  constructor
  · intro missing link mem
    obtain ⟨i, there⟩ := List.mem_iff_getElem?.mp mem
    refine ⟨fun known => ?_, fun source known => ?_⟩
    · by_contra unmade
      exact (missing i link).1 ((h.noSource i link).mpr ⟨there, unmade⟩) known
    · by_contra unmade
      exact (missing i link).2 ((h.noTarget i link).mpr ⟨there, source, unmade⟩) known
  · intro made i link
    refine ⟨fun reported known => ?_, fun reported known => ?_⟩
    · obtain ⟨there, unmade⟩ := (h.noSource i link).mp reported
      exact unmade ((made link (List.mem_of_getElem? there)).1 known)
    · obtain ⟨there, source, unmade⟩ := (h.noTarget i link).mp reported
      exact unmade ((made link (List.mem_of_getElem? there)).2 source known)

/-- The one problem that tells the issues of a whole document. -/
def DocumentIssue.summary (found : List DocumentIssue) : Form.Issue :=
  { path := [], problem := .refused ("; ".intercalate (found.map DocumentIssue.message)) }

/-- A document that is refused although its fields are valid has one problem, whose text lists all
its issues: the ids that stand more than once, the entries that cannot be made, and the connections
whose ends are not offered. These ends have no entry if and only if all connections lead to entries
that can be made, as far as there are any. -/
theorem Document.ofValue_blames {v : Value} {d : Document} {problems : List Form.Issue}
    (valid : Document.checkFields v = .ok d)
    (refused : Document.ofValue v = .error (.issues problems)) :
    ∃ found, d.issues = .ok found ∧ found ≠ [] ∧
      problems = [DocumentIssue.summary found] ∧
      d.Diagnosed found ∧
      ((∀ i link, (.noSource i link ∈ found → link.source ∉ d.ids) ∧
          (.noTarget i link ∈ found → link.target ∉ d.ids)) ↔
        ∀ link ∈ d.links, (link.source ∈ d.ids → d.Offers link.source) ∧
          (d.Offers link.source → link.target ∈ d.ids → d.Offers link.target)) := by
  rw [Document.ofValue, valid] at refused
  have checked : d.validate = .error (.issues problems) := refused
  rw [Document.validate, bind_eq_error] at checked
  obtain stopped | ⟨found, reported, checked⟩ := checked
  · cases (Document.issues_eq_error.mp stopped).1
  · have diagnosed := Document.issues_diagnosed reported
    refine ⟨found, reported, ?_, ?_, diagnosed, diagnosed.missing_iff⟩
    · rintro rfl
      cases checked
    · split at checked
      · cases checked
      · exact (DocumentFault.issues.inj (Except.error.inj checked)).symm

/-- One id for two entries, an entry that cannot be made, and two connections: one that comes from
it, and one that comes from nowhere. Both sources are called missing. -/
theorem Document.ofValue_blames_unmade :
    let node (id : Int) (kind : String) (params : Fields) : Value :=
      .object [("id", .int id), ("kind", .text kind), ("params", .object params)]
    let link (source target : Int) : Value :=
      .object [("source", .int source), ("source_slot", .int 0), ("target", .int target),
        ("target_slot", .int 0)]
    let v : Value := .object
      [("nodes", .list [node 0 "MathNode" [("op", .text "Pow")],
          node 1 "MathNode" [("op", .text "Abs")], node 1 "TimerNode" []]),
        ("connections", .list [link 0 1, link 5 1])]
    let d : Document :=
      { nodes :=
          [{ id := 0, kind := .math, x := 0, y := 0, params := [("op", .text "Pow")] },
            { id := 1, kind := .math, x := 0, y := 0, params := [("op", .text "Abs")] },
            { id := 1, kind := .timer, x := 0, y := 0, params := [] }]
        links := [⟨0, 0, 1, 0⟩, ⟨5, 0, 1, 0⟩] }
    Document.checkFields v = .ok d ∧
      ∃ problems found, Document.ofValue v = .error (.issues problems) ∧ d.issues = .ok found ∧
        problems = [DocumentIssue.summary found] ∧
        d.Diagnosed found ∧ .noSource 0 ⟨0, 0, 1, 0⟩ ∈ found ∧ .noSource 1 ⟨5, 0, 1, 0⟩ ∈ found ∧
        ¬∀ i link, (.noSource i link ∈ found → link.source ∉ d.ids) ∧
          (.noTarget i link ∈ found → link.target ∉ d.ids) := by
  intro node link v d
  have valid : Document.checkFields v = .ok d := rfl
  have unmade : ¬d.Offers 0 := by
    rintro ⟨entry, mem, id, made⟩
    fin_cases mem <;> revert id made <;> decide +kernel
  have absent : ¬d.Offers 5 := fun offers => absurd offers.mem_ids (by decide)
  have repeated : ¬d.ids.Nodup := by decide
  have small : ∀ entry ∈ d.nodes, entry.kind.takesNumber → entry.params.isEmpty := by decide
  have stays : ∃ problems, Document.ofValue v = .error (.issues problems) := by
    refine ((Document.ofValue_reports v).mpr ?_).resolve_left ?_
    · rintro other valid' entry mem ⟨takes, -, name, n, -, given, -⟩
      obtain rfl := Except.ok.inj (valid.symm.trans valid')
      rw [List.isEmpty_iff.mp (small entry mem takes)] at given
      cases given
    · rintro ⟨accepted, made⟩
      rw [Document.ofValue, valid] at made
      exact repeated ((Document.validate_eq_ok (Document.checkFields_unsigned valid)).mp made).2.1
  obtain ⟨problems, refused⟩ := stays
  obtain ⟨found, reported, -, text, diagnosed, fair⟩ := Document.ofValue_blames valid refused
  refine ⟨valid, problems, found, refused, reported, text, diagnosed,
    (diagnosed.noSource _ _).mpr ⟨rfl, unmade⟩, (diagnosed.noSource _ _).mpr ⟨rfl, absent⟩, ?_⟩
  rw [fair]
  exact fun all => unmade ((all ⟨0, 0, 1, 0⟩ (by decide)).1 (by decide))

end Documents

end SignalGraph
