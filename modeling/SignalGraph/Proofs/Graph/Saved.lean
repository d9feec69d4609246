import SignalGraph.Proofs.Graph.Rebuilt

/-!
Circuits through saved texts. The text of a sound circuit depends on its layout only. If its keys
and sounds are plain, each line of the text is read as the record that it was written for.
-/

namespace SignalGraph

open Text

section Integers

/-- An integer that is read back from its text. -/
def ReadsBack (n : Int) : Prop := Decimal.readInt (Text.ofInt n) = .ok n

theorem isWord_ofInt (n : Int) : IsWord (Text.ofInt n).toList := by
  refine ⟨?_, fun c mem => ?_⟩
  · cases n with
    | ofNat n =>
        rw [Text.ofInt, String.toList_ofList]
        exact Nat.toDigits_ne_nil
    | negSucc n =>
        rw [Text.ofInt, String.toList_ofList]
        exact List.cons_ne_nil _ _
  · exact Decimal.numeralChars_solid c (Decimal.ofInt_clean n c mem)

theorem readWord_ofInt {n : Int} (h : ReadsBack n) :
    readWord (Text.ofInt n).toList = .ok n := by
  rw [readWord, String.ofList_toList, h]
  rfl

theorem numberAt_ofInt {words : List (List Char)} {i : Nat} {n : Int}
    (found : words[i]? = some (Text.ofInt n).toList) (h : ReadsBack n) :
    numberAt words i = .ok n := by
  have word : wordAt words i = .ok (Text.ofInt n).toList := by
    rw [wordAt, found, Option.elim_some]
  exact bind_eq_ok.mpr ⟨_, word, readWord_ofInt h⟩

theorem readKind_name (kind : Kind) : readKind kind.name.toList = .ok kind := by
  rw [readKind, Kind.ofValue, String.ofList_toList, Kind.ofName?_name]
  rfl

theorem readsBack_digit {n : Int} (h : n.natAbs < 10) : ReadsBack n := by
  refine Decimal.readInt_ofInt (Nat.lt_of_lt_of_le h ?_)
  exact Nat.le_self_pow (by decide) 10

theorem toList_ofInt (n : Nat) : (Text.ofInt n).toList = Nat.toDigits 10 n :=
  String.toList_ofList

theorem toString_text (s : String) : toString s = s := rfl

end Integers

section Lines

theorem words_tagged {tag : List Char} {ws : List (List Char)} (word : IsWord tag)
    (solid : ∀ word ∈ ws, IsWord word) : words (tag ++ spaced ws) = tag :: ws := by
  rw [← words_blank]
  exact words_spaced (List.forall_mem_cons.mpr ⟨word, solid⟩)

def Lead.line (lead : Lead) : String :=
  s!"CONN {lead.source} {lead.outletSlot} {lead.target} {lead.inletSlot}"

def Lead.lineWords (lead : Lead) : List (List Char) :=
  [lead.source, lead.outletSlot, lead.target, lead.inletSlot].map fun n : Nat =>
    (Text.ofInt n).toList

theorem Lead.toList_line (lead : Lead) :
    lead.line.toList = "CONN".toList ++ spaced lead.lineWords := by
  simp [Lead.line, Lead.lineWords, spaced, toList_ofInt, toString_text]

theorem Lead.isWord (lead : Lead) : ∀ word ∈ lead.lineWords, IsWord word := by
  intro word mem
  obtain ⟨n, -, rfl⟩ := List.mem_map.mp mem
  exact isWord_ofInt n

/-- A line that is read as a record, and no more than one line. -/
structure Writes (line : List Char) (record : Record) : Prop where
  reads : Record.read line = .ok record
  solid : ∀ c ∈ line, isLineEnd c = false

theorem isLineEnd_tagged {tag : List Char} {ws : List (List Char)} (word : IsWord tag)
    (solid : ∀ word ∈ ws, IsWord word) : ∀ c ∈ tag ++ spaced ws, isLineEnd c = false := by
  have inside {word : List Char} (h : IsWord word) : ∀ c ∈ word, isLineEnd c = false := by
    intro c mem
    rw [← Bool.not_eq_true]
    intro ends
    exact absurd (isBlank_of_isLineEnd ends) (by rw [h.solid c mem]; exact Bool.false_ne_true)
  intro c mem
  rcases List.mem_append.mp mem with mem | mem
  · exact inside word c mem
  · obtain ⟨next, there, mem⟩ := List.mem_flatMap.mp mem
    rcases List.mem_cons.mp mem with rfl | mem
    · decide
    · exact inside (solid next there) c mem

theorem Lead.writes_line {lead : Lead} (source : ReadsBack lead.source)
    (outletSlot : ReadsBack lead.outletSlot) (target : ReadsBack lead.target)
    (inletSlot : ReadsBack lead.inletSlot) : Writes lead.line.toList lead.record := by
  have tag : IsWord "CONN".toList := isWord_of_all (by decide)
  have words : words lead.line.toList = "CONN".toList :: lead.lineWords := by
    rw [lead.toList_line]
    exact words_tagged tag lead.isWord
  refine ⟨?_, by rw [lead.toList_line]; exact isLineEnd_tagged tag lead.isWord⟩
  simp only [Record.read, Record.readLink, words, Lead.lineWords, List.map_cons, List.map_nil,
    String.ofList_toList, List.take, List.mapM_cons, List.mapM_nil, readWord_ofInt, source,
    outletSlot, target, inletSlot]
  rfl

/-- The words of a node's line behind its tag, with those that are its data. -/
def Node.lineWords (node : Node) (i : Nat) (data : List (List Char)) : List (List Char) :=
  (Text.ofInt i).toList :: node.kind.name.toList :: (Text.ofInt node.x).toList ::
    (Text.ofInt node.y).toList :: data

theorem Node.line_given {node : Node} {data : List (List Char)} (given : node.body.Given data)
    (i : Nat) :
    ∃ line, node.line i = .ok line ∧
      line.toList = "NODE".toList ++ spaced (node.lineWords i data) := by
  obtain ⟨solid, text, -⟩ := given
  simp only [Node.line, text, Except.mapError, bind, Except.bind, pure, Except.pure, Value.truth,
    isEmpty_joinWords solid]
  refine ⟨_, rfl, ?_⟩
  rw [Value.display]
  cases data with
  | nil => simp [Node.lineWords, spaced, toList_ofInt, toString_text]
  | cons word data =>
      simp [Node.lineWords, spaced, toList_ofInt, toString_text, joinWords_cons]

theorem Node.writes_line {node : Node} (plain : node.body.isPlain) {i : Nat}
    (position : ReadsBack i) (x : ReadsBack node.x) (y : ReadsBack node.y) :
    ∃ line, node.line i = .ok line ∧ Writes line.toList (node.record i) := by
  obtain ⟨data, given⟩ := Body.exists_given plain
  obtain ⟨line, written, text⟩ := Node.line_given given i
  obtain ⟨solid, -, made⟩ := given
  have tag : IsWord "NODE".toList := isWord_of_all (by decide)
  have all : ∀ word ∈ node.lineWords i data, IsWord word := by
    simp only [Node.lineWords, List.forall_mem_cons]
    exact ⟨isWord_ofInt i, node.kind.isWord_name, isWord_ofInt _, isWord_ofInt _, solid⟩
  have words : words line.toList = "NODE".toList :: node.lineWords i data := by
    rw [text]
    exact words_tagged tag all
  refine ⟨line, written, ?_, by rw [text]; exact isLineEnd_tagged tag all⟩
  have read : Record.readNode (node.lineWords i data) = .ok (node.record i) := by
    rw [Record.readNode, numberAt_ofInt rfl position, numberAt_ofInt rfl x, numberAt_ofInt rfl y]
    simp only [wordAt, Node.lineWords, List.getElem?_cons_succ, List.getElem?_cons_zero,
      Option.elim_some, List.drop_succ_cons, List.drop_zero, bind, Except.bind, readKind_name]
    rw [show node.kind = node.body.kind from rfl, made]
    rfl
  simp only [Record.read, words, String.ofList_toList, read]

end Lines

section Texts

/-- The text of a layout. -/
def savedText (layout : List Node) : Except SaveFault String := do
  let nodes ← layout.zipIdx.mapM fun p => p.1.line p.2
  return "\n".intercalate (archiveHeader :: nodes ++ (leads layout).map Lead.line) ++ "\n"

variable {c : Circuit} {layout : List Node}

theorem Circuit.Sound.save_eq (h : c.Sound) : c.save = savedText c.layout := by
  have nodes : c.nodes.zipIdx.mapM (fun p => p.1.line p.2) =
      c.layout.zipIdx.mapM (fun p => p.1.line p.2) := by
    rw [Circuit.layout, List.zipIdx_map, List.mapM_map]
    rfl
  have links : c.links.mapM (fun link => link.line c.positions) =
      .ok ((leads c.layout).map Lead.line) := by
    rw [← h.links_map_lead, List.map_map]
    refine mapM_eq_map fun link mem => ?_
    obtain ⟨source, target⟩ := h.lookup_lead mem
    simp only [Link.line, SignalGraph.position, source, target]
    rfl
  simp only [Circuit.save, savedText, nodes, links]
  rfl

theorem toList_intercalate_lines (line : String) (ls : List String) :
    ("\n".intercalate (line :: ls) ++ "\n").toList =
      ((line :: ls).map String.toList).flatMap (· ++ ['\n']) := by
  rw [String.toList_append, String.toList_intercalate]
  induction ls generalizing line with
  | nil => simp
  | cons next ls ih =>
      rw [List.map_cons, List.map_cons, List.intercalate_cons_cons]
      have rest := ih next
      rw [List.map_cons] at rest
      simp only [List.append_assoc, rest, List.flatMap_cons]
      rfl

theorem foldl_takeLine {ls : List String} {records : List Record}
    (h : List.Forall₂ (fun line record => Writes line.toList record) ls records) (l : Loading) :
    (ls.map String.toList).foldl Loading.takeLine l = records.foldl Loading.take l := by
  induction h generalizing l with
  | nil => rfl
  | cons first _ ih =>
      rw [List.map_cons, List.foldl_cons, List.foldl_cons, ← ih, l.takeLine_of_read first.reads]

theorem solid_of_writes {ls : List String} {records : List Record}
    (h : List.Forall₂ (fun line record => Writes line.toList record) ls records) :
    ∀ line ∈ ls, ∀ c ∈ line.toList, isLineEnd c = false := by
  induction h with
  | nil => exact List.forall_mem_nil _
  | cons first _ ih => exact List.forall_mem_cons.mpr ⟨first.solid, ih⟩

/-- A layout whose numbers are all read back: the positions of the nodes, and their places. -/
structure Legible (layout : List Node) : Prop where
  positions : ∀ i : Nat, i < layout.length → ReadsBack i
  places : ∀ node ∈ layout, ReadsBack node.x ∧ ReadsBack node.y

theorem Body.slots_lt (body : Body) : body.inlets.length < 10 ∧ body.outlets.length < 10 := by
  cases body with
  | math op => cases op <;> decide
  | logic op => cases op <;> decide
  | _ => simp [Body.inlets, Body.outlets]

theorem Closed.writes_leads (closed : Closed layout) (legible : Legible layout) :
    List.Forall₂ (fun line record => Writes line.toList record)
      ((leads layout).map Lead.line) ((leads layout).map Lead.record) := by
  rw [List.forall₂_map_left_iff, List.forall₂_map_right_iff, List.forall₂_same]
  intro lead mem
  obtain ⟨⟨source, hsource, outlet⟩, ⟨target, htarget, inlet⟩⟩ := closed.joins mem
  have position {i : Nat} {node : Node} (found : layout[i]? = some node) : ReadsBack i :=
    legible.positions i (List.getElem?_eq_some_iff.mp found).1
  exact lead.writes_line (position hsource) (readsBack_digit (outlet.trans source.body.slots_lt.2))
    (position htarget) (readsBack_digit (inlet.trans target.body.slots_lt.1))

/-- The records of a layout make a circuit with this layout, of which all nodes start anew. -/
theorem layout_foldl_records (closed : Closed layout) (c : Circuit) :
    ((records layout).foldl Loading.take
      { circuit := { c with graph := c.graph.clear } }).circuit.layout = restarted layout := by
  obtain ⟨circuit, taken, -, done⟩ :=
    Rebuilt.attach_all closed (leads layout) [] _ rfl (rebuilt_nodes c layout)
  rw [records, List.foldl_append, taken]
  exact done.layout_eq closed

/-- A layout whose texts are plain has a text, and every circuit that loads it has the layout, with
all nodes as they start. -/
theorem load_savedText (closed : Closed layout) (plain : ∀ node ∈ layout, node.body.isPlain)
    (legible : Legible layout) :
    ∃ text, savedText layout = .ok text ∧ isArchive text ∧
      (∃ records, Text.lines text.toList = archiveHeader.toList :: records) ∧
      ∀ c : Circuit, (c.load text).layout = restarted layout := by
  have written : ∀ p ∈ layout.zipIdx, ∃ line, p.1.line p.2 = .ok line ∧
      Writes line.toList (p.1.record p.2) := by
    intro (node, i) entry
    have found := List.mem_zipIdx_iff_getElem?.mp entry
    have mem := List.mem_of_getElem? found
    obtain ⟨x, y⟩ := legible.places node mem
    exact node.writes_line (plain node mem)
      (legible.positions i (List.getElem?_eq_some_iff.mp found).1) x y
  obtain ⟨nodes, each⟩ := exists_forall₂ written
  -- All nodes come before all leads, in the text as in the records.
  have lines : List.Forall₂ (fun line record => Writes line.toList record)
      (nodes ++ (leads layout).map Lead.line) (records layout) := by
    refine List.rel_append ?_ (closed.writes_leads legible)
    exact List.forall₂_map_right_iff.mpr (each.imp fun _ _ h => h.2).flip
  have all : layout.zipIdx.mapM (fun p => p.1.line p.2) = .ok nodes :=
    mapM_eq_ok.mpr (each.imp fun _ _ h => h.1)
  let text := "\n".intercalate (archiveHeader :: nodes ++ (leads layout).map Lead.line) ++ "\n"
  have chars : text.toList = ((archiveHeader :: (nodes ++ (leads layout).map Lead.line)).map
      String.toList).flatMap (· ++ ['\n']) := toList_intercalate_lines ..
  have solid : ∀ line ∈ (archiveHeader :: (nodes ++ (leads layout).map Lead.line)).map
      String.toList, ∀ c ∈ line, isLineEnd c = false := by
    rw [List.forall_mem_map, List.forall_mem_cons]
    exact ⟨List.all_iff_forall_prop.mp (by decide), solid_of_writes lines⟩
  have cut : Text.lines text.toList = archiveHeader.toList ::
      (nodes ++ (leads layout).map Lead.line).map String.toList := by
    rw [chars, lines_flatMap solid, List.map_cons]
  refine ⟨text, ?_, ?_, ⟨_, cut⟩, fun c => ?_⟩
  · rw [savedText, all]
    rfl
  · rw [isArchive, chars, List.map_cons, List.flatMap_cons, List.append_assoc]
    exact List.isPrefixOf_iff_prefix.mpr (List.prefix_append ..)
  · have header : isHeader archiveHeader.toList := by decide
    rw [Circuit.load, cut, c.loadLines_eq, recordLines, if_pos header, foldl_takeLine lines]
    exact layout_foldl_records closed c

end Texts

end SignalGraph
