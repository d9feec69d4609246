import SignalGraph.Proofs.Graph.Saved

/-!
The lines of nodes in a saved text. Each node has one, and data that goes over a line end can bring
in more of them. So the text tells how many nodes there are as long as no data does so.
-/

namespace SignalGraph

open Text

section Lines

/-- Whether a line has the tag of one of a node. -/
def hasNodeTag (line : List Char) : Bool := (words line).head? = some "NODE".toList

/-- How many lines of a text are lines of nodes. -/
def nodeLines (text : List Char) : Nat := (lines text).countP hasNodeTag

/-- What stands before the first line end of a text belongs to its first line. -/
theorem lines_append_of_none {line : List Char} (solid : ∀ c ∈ line, isLineEnd c = false)
    (given : line ≠ []) (cs : List Char) :
    ∃ first, lines (line ++ cs) = (line ++ first) :: (lines cs).tail := by
  induction line with
  | nil => exact absurd rfl given
  | cons c line ih =>
      rw [List.forall_mem_cons] at solid
      rw [List.cons_append, lines_cons_of_not_end (by simp [solid.1])]
      cases line with
      | nil =>
          rw [List.nil_append]
          cases lines cs with
          | nil => exact ⟨[], rfl⟩
          | cons first rest => exact ⟨first, rfl⟩
      | cons d line =>
          obtain ⟨first, split⟩ := ih solid.2 (List.cons_ne_nil d line)
          rw [split]
          exact ⟨first, rfl⟩

/-- A line end that is no carriage return before a line feed. -/
theorem lines_cons_of_alone {c : Char} {cs : List Char} (ends : isLineEnd c)
    (alone : ∀ rest, c = '\r' → cs = '\n' :: rest → False) : lines (c :: cs) = [] :: lines cs := by
  rw [lines]
  · exact if_pos ends
  · exact alone

/-- A line feed ends a line, unless it belongs to a carriage return before it: then no line, not
even an empty one, lies between what stands before it and what follows. -/
theorem lines_append_feed (cs more : List Char) :
    ∃ gap, (gap = [] ∨ gap = [[]]) ∧
      lines (cs ++ '\n' :: more) = lines cs ++ gap ++ lines more := by
  induction cs using lines.induct with
  | case1 => exact ⟨[[]], .inr rfl, rfl⟩
  | case2 cs ih =>
      obtain ⟨gap, small, split⟩ := ih
      refine ⟨gap, small, ?_⟩
      rw [List.cons_append, List.cons_append, lines, split, lines]
      rfl
  | case3 c cs alone ends ih =>
      rw [lines_cons_of_alone ends alone]
      by_cases feeds : c = '\r' ∧ cs = []
      · obtain ⟨rfl, rfl⟩ := feeds
        exact ⟨[], .inl rfl, rfl⟩
      · obtain ⟨gap, small, split⟩ := ih
        refine ⟨gap, small, ?_⟩
        rw [List.cons_append, lines_cons_of_alone ends, split]
        · rfl
        · intro rest same feed
          cases cs with
          | nil => exact feeds ⟨same, rfl⟩
          | cons d cs => exact alone cs same (by rw [(List.cons.inj feed).1])
  | case4 c cs alone goes_on ih =>
      obtain ⟨gap, small, split⟩ := ih
      rw [List.cons_append, lines_cons_of_not_end goes_on, lines_cons_of_not_end goes_on]
      cases cs with
      | nil => exact ⟨[], .inl rfl, rfl⟩
      | cons d cs =>
          refine ⟨gap, small, ?_⟩
          have first := lines_head? (List.cons_ne_nil d cs)
          rw [split]
          generalize lines (d :: cs) = ls at first ⊢
          cases ls with
          | nil => cases first
          | cons line rest => rfl

theorem nodeLines_append_feed (cs more : List Char) :
    nodeLines (cs ++ '\n' :: more) = nodeLines cs + nodeLines more := by
  obtain ⟨gap, small, split⟩ := lines_append_feed cs more
  have none : gap.countP hasNodeTag = 0 := by rcases small with rfl | rfl <;> rfl
  rw [nodeLines, split, List.countP_append, List.countP_append, none]
  rfl

/-- Texts that each end in a line feed have the lines of nodes that they have apart. -/
theorem nodeLines_flatMap (texts : List (List Char)) :
    nodeLines (texts.flatMap (· ++ ['\n'])) = (texts.map nodeLines).sum := by
  induction texts with
  | nil => rfl
  | cons text texts ih =>
      rw [List.flatMap_cons, List.append_assoc, List.singleton_append, nodeLines_append_feed, ih,
        List.map_cons, List.sum_cons]

/-- A text without line ends is one line. -/
theorem nodeLines_of_none {line : List Char} (solid : ∀ c ∈ line, isLineEnd c = false) :
    nodeLines line = if hasNodeTag line then 1 else 0 := by
  have ended := nodeLines_append_feed line []
  rw [nodeLines, lines_append solid, lines, List.countP_singleton] at ended
  exact ended.symm

theorem tail_lines_of_none {line : List Char} (solid : ∀ c ∈ line, isLineEnd c = false) :
    (lines line).tail = [] := by
  cases line with
  | nil => rfl
  | cons c line =>
      obtain ⟨first, split⟩ := lines_append_of_none solid (List.cons_ne_nil c line) []
      rw [List.append_nil] at split
      rw [split]
      rfl

/-- A line is one of a node if its tag says so. -/
theorem hasNodeTag_append {tag : List Char} (word : IsWord tag) {rest : List Char}
    (ends : rest.head?.all isBlank) : hasNodeTag (tag ++ rest) = decide (tag = "NODE".toList) := by
  rw [hasNodeTag, words_append word ends, List.head?_cons]
  simp only [Option.some.injEq]

variable {tag : List Char} {ws : List (List Char)}

theorem nodeLines_tagged (word : IsWord tag) (solid : ∀ word ∈ ws, IsWord word) :
    nodeLines (tag ++ spaced ws) = if tag = "NODE".toList then 1 else 0 := by
  have ends : (spaced ws).head?.all isBlank := by cases ws <;> rfl
  rw [nodeLines_of_none (isLineEnd_tagged word solid), hasNodeTag_append word ends]
  simp only [decide_eq_true_eq]

/-- Where text of any kind follows the words of a line, what it has behind its first line end counts
on its own. -/
theorem nodeLines_tagged_append (word : IsWord tag) (solid : ∀ word ∈ ws, IsWord word)
    (cs : List Char) :
    nodeLines (tag ++ spaced ws ++ ' ' :: cs) =
      (if tag = "NODE".toList then 1 else 0) + (lines cs).tail.countP hasNodeTag := by
  have started : ∀ c ∈ tag ++ spaced ws ++ [' '], isLineEnd c = false := by
    rw [List.forall_mem_append, List.forall_mem_singleton]
    exact ⟨isLineEnd_tagged word solid, by decide⟩
  obtain ⟨first, split⟩ := lines_append_of_none started (by simp) cs
  have ends : (spaced ws ++ ([' '] ++ first)).head?.all isBlank := by cases ws <;> rfl
  rw [List.append_cons, nodeLines, split, List.countP_cons, List.append_assoc, List.append_assoc,
    hasNodeTag_append word ends, Nat.add_comm]
  simp only [decide_eq_true_eq]

end Lines

section Bodies

/-- How many lines of nodes the data of a body bring in: those that follow a line end. -/
def Body.extraLines (body : Body) : Nat :=
  match body.data with
  | .ok data => if data.truth then (lines data.display.toList).tail.countP hasNodeTag else 0
  | .error _ => 0

variable {body : Body}

/-- Data that are words bring no lines in. -/
theorem Body.extraLines_of_isPlain (plain : body.isPlain) : body.extraLines = 0 := by
  obtain ⟨ws, solid, data, -⟩ := Body.exists_given plain
  have display : (Value.text (joinWords ws)).display = joinWords ws := rfl
  simp only [Body.extraLines, data, display]
  cases ws with
  | nil => rfl
  | cons word ws =>
      rw [List.forall_mem_cons] at solid
      rw [joinWords_cons, tail_lines_of_none (isLineEnd_tagged solid.1 solid.2)]
      exact ite_self 0

/-- Only keys and sounds are written as they are. -/
theorem Body.extraLines_of_kind (no_key : body.kind ≠ .key) (no_beep : body.kind ≠ .beep) :
    body.extraLines = 0 := by
  cases body with
  | key v => exact absurd rfl no_key
  | beep b => exact absurd rfl no_beep
  | script v =>
      cases v with
      | text s => exact Body.extraLines_of_isPlain rfl
      | _ => rfl
  | _ => exact Body.extraLines_of_isPlain rfl

/-- A body brings in as many lines after a step as before it. -/
theorem Body.step_extraLines (around : Surroundings) (id : Int) (inputs : Inputs)
    (generator : Random.Generator) (body : Body) :
    (Body.step around id inputs generator body).body.extraLines = body.extraLines := by
  cases body with
  | key v => cases v <;> rfl
  | beep b =>
      simp only [Body.step, Beep.step]
      split <;> rfl
  | _ =>
      rw [Body.extraLines_of_kind, Body.extraLines_of_kind]
      all_goals
        intro same
        cases same

end Bodies

section Texts

/-- The line of a node is one line of a node, with those that its data bring in. -/
theorem Node.nodeLines_line {node : Node} {i : Nat} {line : String} (h : node.line i = .ok line) :
    nodeLines line.toList = 1 + node.body.extraLines := by
  obtain ⟨data, written, h⟩ := bind_eq_ok.mp h
  have tag : IsWord "NODE".toList := isWord_of_all (by decide)
  have solid : ∀ word ∈ node.lineWords i [], IsWord word := by
    simp only [Node.lineWords, List.forall_mem_cons]
    exact ⟨isWord_ofInt i, node.kind.isWord_name, isWord_ofInt _, isWord_ofInt _,
      List.forall_mem_nil _⟩
  simp only [Body.extraLines, mapError_eq_ok.mp written]
  obtain rfl := pure_eq_ok.mp h
  split
  · have counted := nodeLines_tagged_append tag solid data.display.toList
    rw [if_pos rfl] at counted
    refine Eq.trans (congrArg nodeLines ?_) counted
    simp [Node.lineWords, spaced, toList_ofInt, toString_text]
  · have counted := nodeLines_tagged tag solid
    rw [if_pos rfl] at counted
    refine Eq.trans (congrArg nodeLines ?_) counted
    simp [Node.lineWords, spaced, toList_ofInt, toString_text]

/-- The line of a connection is none of a node. -/
theorem Link.nodeLines_line {link : Link} {positions : List (Int × Nat)} {line : String}
    (h : link.line positions = .ok line) : nodeLines line.toList = 0 := by
  obtain ⟨source, -, h⟩ := bind_eq_ok.mp h
  obtain ⟨target, -, h⟩ := bind_eq_ok.mp h
  obtain rfl := pure_eq_ok.mp h
  let lead : Lead := { source, outletSlot := link.outletSlot, target, inletSlot := link.inletSlot }
  have tag : IsWord "CONN".toList := isWord_of_all (by decide)
  show nodeLines lead.line.toList = 0
  rw [lead.toList_line, nodeLines_tagged tag lead.isWord]
  decide

/-- A text has a line for each node, and those that data bring in. -/
theorem Circuit.nodeLines_save {c : Circuit} {text : String} (h : c.save = .ok text) :
    nodeLines text.toList =
      c.nodes.length + (c.nodes.map fun node => node.body.extraLines).sum := by
  obtain ⟨nodes, hnodes, h⟩ := bind_eq_ok.mp h
  obtain ⟨links, hlinks, h⟩ := bind_eq_ok.mp h
  obtain rfl := pure_eq_ok.mp h
  have header : nodeLines archiveHeader.toList = 0 := by decide
  have of_nodes : nodes.map (fun line => nodeLines line.toList) =
      c.nodes.map fun node => 1 + node.body.extraLines := by
    rw [← map_zipIdx_fst fun node : Node => 1 + node.body.extraLines]
    exact mapM_map_eq hnodes fun _ _ => Node.nodeLines_line
  have of_links : links.map (fun line => nodeLines line.toList) = c.links.map fun _ => 0 :=
    mapM_map_eq hlinks fun _ _ => Link.nodeLines_line
  rw [List.cons_append, toList_intercalate_lines, nodeLines_flatMap, List.map_map, List.map_cons,
    List.map_append]
  simp only [Function.comp_def, header, of_nodes, of_links, List.sum_cons, List.sum_append,
    List.sum_map_add, List.map_const', List.sum_replicate, smul_eq_mul, mul_one, mul_zero, zero_add,
    add_zero]

/-- The lines of nodes tell how many nodes there are exactly where no data bring lines in. -/
theorem Circuit.nodeLines_save_iff {c : Circuit} {text : String} (h : c.save = .ok text) :
    nodeLines text.toList = c.nodes.length ↔ ∀ node ∈ c.nodes, node.body.extraLines = 0 := by
  rw [c.nodeLines_save h, Nat.add_eq_left, List.sum_eq_zero_iff, List.forall_mem_map]

end Texts

end SignalGraph
