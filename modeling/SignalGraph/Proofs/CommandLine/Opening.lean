import Mathlib.Data.List.TakeWhile
import SignalGraph.CommandLine.Perform
import SignalGraph.Proofs.Graph.Described
import SignalGraph.Proofs.Text.Words

/-!
Which texts are opened as saved graphs. Runs and commands look for the header at the first character
that is not blank, and take any text for a graph that goes on with it. The reader wants the header
to be all of the first line. Between the two are the texts that are taken for graphs and then read
as nothing.
-/

namespace SignalGraph

section Headers

/-- Whether the first line is the header, blanks apart, so that the lines after it are read. -/
def hasHeader (text : String) : Bool :=
  (Text.lines text.toList).head?.any fun line =>
    String.ofList (Text.strip Text.isBlank line) = archiveHeader

/-- Whether no line ends before the first character that is not blank, and only blanks follow on its
line behind as many characters as the header has. -/
def headerAlone (text : String) : Bool :=
  let indent := text.toList.takeWhile Text.isBlank
  let rest := (text.toList.dropWhile Text.isBlank).drop archiveHeader.length
  indent.all (fun c => !Text.isLineEnd c) &&
    (rest.takeWhile fun c => !Text.isLineEnd c).all Text.isBlank

theorem archiveHeader_solid : ∀ c ∈ archiveHeader.toList, Text.isBlank c = false :=
  (Text.isWord_of_all (by decide)).solid

theorem archiveHeader_goes_on : ∀ c ∈ archiveHeader.toList, !Text.isLineEnd c := by
  intro c mem
  rw [Bool.not_eq_true']
  refine Bool.eq_false_iff.mpr fun ends => ?_
  exact Bool.false_ne_true ((archiveHeader_solid c mem).symm.trans (Text.isBlank_of_isLineEnd ends))

variable {text : String}

theorem isArchive_iff :
    isArchive text ↔ ∃ rest, text.toList.dropWhile Text.isBlank = archiveHeader.toList ++ rest := by
  rw [isArchive, List.isPrefixOf_iff_prefix]
  exact exists_congr fun _ => eq_comm

/-- What the first line has to be. -/
theorem hasHeader_iff_line :
    hasHeader text ↔ ∃ tail,
      (text.toList.takeWhile fun c => !Text.isLineEnd c).dropWhile Text.isBlank =
        archiveHeader.toList ++ tail ∧ ∀ c ∈ tail, Text.isBlank c := by
  rw [← Text.strip_eq_iff archiveHeader_solid, hasHeader]
  by_cases empty : text.toList = []
  · rw [empty]
    decide
  · rw [Text.lines_head? empty, Option.any_some, decide_eq_true_eq]
    constructor
    · intro same
      rw [← same, String.toList_ofList]
    · intro same
      rw [same, String.ofList_toList]

/-- Blanks before the header are all the blanks at the beginning. -/
theorem takeWhile_indent {indent : List Char} (blanks : ∀ c ∈ indent, Text.isBlank c)
    (rest : List Char) :
    (indent ++ (archiveHeader.toList ++ rest)).takeWhile Text.isBlank = indent ∧
      (indent ++ (archiveHeader.toList ++ rest)).dropWhile Text.isBlank =
        archiveHeader.toList ++ rest := by
  rw [List.takeWhile_append_of_pos blanks, List.dropWhile_append_of_pos blanks]
  exact ⟨List.append_nil indent, rfl⟩

/-- What `headerAlone` says of a text with the header behind some blanks. -/
theorem headerAlone_iff {indent rest : List Char} (blanks : ∀ c ∈ indent, Text.isBlank c)
    (split : text.toList = indent ++ (archiveHeader.toList ++ rest)) :
    headerAlone text ↔ (∀ c ∈ indent, !Text.isLineEnd c) ∧
      ∀ c ∈ rest.takeWhile (fun c => !Text.isLineEnd c), Text.isBlank c := by
  obtain ⟨front, behind⟩ := takeWhile_indent blanks rest
  have length : archiveHeader.length = archiveHeader.toList.length := rfl
  rw [headerAlone, split, front, behind, length, List.drop_left, Bool.and_eq_true, List.all_eq_true,
    List.all_eq_true]

/-- A text is read as a saved graph exactly when it is taken for one and its header is alone on the
first line. -/
theorem hasHeader_iff : hasHeader text ↔ isArchive text ∧ headerAlone text := by
  rw [hasHeader_iff_line, isArchive_iff]
  constructor
  · rintro ⟨tail, line, blanks⟩
    let first := text.toList.takeWhile fun c => !Text.isLineEnd c
    let more := text.toList.dropWhile fun c => !Text.isLineEnd c
    let indent := first.takeWhile Text.isBlank
    have whole : text.toList = first ++ more := List.takeWhile_append_dropWhile.symm
    have parts : first = indent ++ (archiveHeader.toList ++ tail) := by
      rw [← line]
      exact List.takeWhile_append_dropWhile.symm
    have goes_on : ∀ c ∈ first, !Text.isLineEnd c := fun _ => List.mem_takeWhile_imp
    -- the first line is over where `more` begins
    have ended : more.takeWhile (fun c => !Text.isLineEnd c) = [] := by
      have again : (first ++ more).takeWhile (fun c => !Text.isLineEnd c) =
          first ++ more.takeWhile fun c => !Text.isLineEnd c :=
        List.takeWhile_append_of_pos goes_on
      rw [← whole] at again
      exact List.append_right_eq_self.mp again.symm
    have split : text.toList = indent ++ (archiveHeader.toList ++ (tail ++ more)) := by
      rw [whole, parts]
      simp only [List.append_assoc]
    have indented : ∀ c ∈ indent, Text.isBlank c := fun _ => List.mem_takeWhile_imp
    refine ⟨⟨tail ++ more, ?_⟩, (headerAlone_iff indented split).mpr ⟨?_, ?_⟩⟩
    · rw [split]
      exact (takeWhile_indent indented _).2
    · intro c mem
      exact goes_on c (parts ▸ List.mem_append_left _ mem)
    · have inside : ∀ c ∈ tail, !Text.isLineEnd c := fun c mem =>
        goes_on c (parts ▸ List.mem_append_right _ (List.mem_append_right _ mem))
      rw [List.takeWhile_append_of_pos inside, ended, List.append_nil]
      exact blanks
  · rintro ⟨⟨rest, behind⟩, alone⟩
    let indent := text.toList.takeWhile Text.isBlank
    have split : text.toList = indent ++ (archiveHeader.toList ++ rest) := by
      rw [← behind]
      exact List.takeWhile_append_dropWhile.symm
    have indented : ∀ c ∈ indent, Text.isBlank c := fun _ => List.mem_takeWhile_imp
    obtain ⟨inside, blanks⟩ := (headerAlone_iff indented split).mp alone
    refine ⟨_, ?_, blanks⟩
    rw [split, List.takeWhile_append_of_pos inside,
      List.takeWhile_append_of_pos archiveHeader_goes_on]
    exact (takeWhile_indent indented _).2

end Headers

section Loading

def Record.isNode : Record → Bool
  | .node .. => true
  | .link .. => false

/-- Whether a line of a saved graph is that of a node. -/
def isNodeLine (line : List Char) : Bool := (Record.ofLine? line).any Record.isNode

/-- A record adds a node if it is a node's, and none otherwise. -/
theorem Loading.take_length (l : Loading) (record : Record) :
    (l.take record).circuit.graph.nodes.length =
      l.circuit.graph.nodes.length + if record.isNode then 1 else 0 := by
  cases record with
  | node id body x y =>
      rw [l.take_node]
      exact List.length_append
  | link source outletSlot target inletSlot =>
      rcases l.take_link source outletSlot target inletSlot with same | ⟨_, _, _, _, made, taken⟩
      · rw [same]
        rfl
      · rw [taken, Circuit.connect_graph made]
        rfl

theorem Loading.takeLine_length (l : Loading) (line : List Char) :
    (l.takeLine line).circuit.graph.nodes.length =
      l.circuit.graph.nodes.length + if isNodeLine line then 1 else 0 := by
  rw [isNodeLine]
  cases read : Record.read line with
  | error fault =>
      rw [l.takeLine_of_error read, Record.ofLine?_of_error read]
      rfl
  | ok record =>
      rw [l.takeLine_of_read read, Record.ofLine?_of_read read]
      exact l.take_length record

theorem Loading.foldl_length (lines : List (List Char)) (l : Loading) :
    (lines.foldl Loading.takeLine l).circuit.graph.nodes.length =
      l.circuit.graph.nodes.length + lines.countP isNodeLine := by
  induction lines generalizing l with
  | nil => rfl
  | cons line lines ih =>
      rw [List.foldl_cons, ih, l.takeLine_length, List.countP_cons]
      omega

theorem Circuit.load_eq (c : Circuit) (text : String) :
    let cleared : Circuit := { c with graph := c.graph.clear }
    c.load text =
      if hasHeader text then
        ((Text.lines text.toList).tail.foldl Loading.takeLine { circuit := cleared }).circuit
      else cleared := by
  rw [Circuit.load, c.loadLines_eq, hasHeader]
  cases Text.lines text.toList with
  | nil => rfl
  | cons header records =>
      simp only [recordLines, isHeader, List.head?_cons, Option.any_some, decide_eq_true_eq,
        List.tail_cons]
      split <;> rfl

/-- A text that has the header gives a node for each line of a node. -/
theorem Circuit.load_length (c : Circuit) {text : String} (h : hasHeader text) :
    (c.load text).graph.nodes.length = (Text.lines text.toList).tail.countP isNodeLine := by
  rw [c.load_eq, if_pos h, Loading.foldl_length]
  exact Nat.zero_add _

/-- Without the header, what was there is forgotten and nothing takes its place. -/
theorem Circuit.load_of_no_header (c : Circuit) {text : String} (h : ¬hasHeader text) :
    c.load text = { c with graph := c.graph.clear } := by
  rw [c.load_eq, if_neg h]

end Loading

section Opening

/-- A run says that it has loaded a graph exactly when it takes the text for one. -/
theorem Session.start_tells (s : Session) (path text : String) :
    (∃ event ∈ (s.start path text).2.1, event.name = "graph_loaded") ↔ isArchive text := by
  rw [Session.start]
  split
  · rename_i archive
    exact iff_of_true ⟨_, List.mem_singleton.mpr rfl, rfl⟩ archive
  · rename_i script
    refine iff_of_false ?_ script
    rintro ⟨event, mem, name⟩
    rcases List.mem_append.mp mem with warning | outcome
    · obtain ⟨_, -, rfl⟩ := List.mem_map.mp warning
      simp at name
    · rw [List.mem_singleton.mp outcome] at name
      split at name <;> simp at name

theorem Session.start_opens (s : Session) (path text : String) :
    (s.start path text).1 = if isArchive text then s.load text else (s.compile text).1 := by
  rw [Session.start]
  split <;> rfl

namespace CommandLine

/-- Warnings do not end a command. -/
theorem warn_each {α : Type} (f : α → String) (as : List α) (report : Report) :
    ∃ warned, (forIn as PUnit.unit fun a _ => do
        warn (f a)
        pure (ForInStep.yield PUnit.unit) : Action PUnit).run.run report =
      (.ok PUnit.unit, warned) := by
  induction as generalizing report with
  | nil => exact ⟨report, rfl⟩
  | cons a as ih =>
      rw [List.forIn_cons]
      exact ih { report with errors := report.errors ++ f a ++ "\n" }

/-- An action that has gone well hands on to the next. -/
theorem run_bind_of_ok {α β : Type} {action : Action α} {next : α → Action β}
    {report after : Report} {a : α} (ran : action.run.run report = (.ok a, after)) :
    (action >>= next).run.run report = (next a).run.run after := by
  rw [ExceptT.run_bind, StateT.run_bind, ran]
  rfl

theorem expect_ok {α ε : Type} (kind : ε → CommandFault) (a : α) (report : Report) :
    (expect kind (.ok a)).run.run report = (.ok a, report) := rfl

variable {place : Place} {path : Path} {seed : Option Int} {n : Nat}

/-- A file that is taken for a saved graph is loaded, without a word. -/
theorem loadCircuit_archive (seeded : seed.elim (.ok place.entropy) Random.seedOfInt = .ok n)
    (archive : isArchive (place.folder.text path)) (report : Report) :
    (loadCircuit place path seed).run.run report =
      (.ok ((Circuit.ofSeed n).load (place.folder.text path)), report) := by
  rw [loadCircuit, seeded, run_bind_of_ok (expect_ok _ n report), if_pos archive]
  rfl

/-- Any other file is compiled. -/
theorem loadCircuit_script (seeded : seed.elim (.ok place.entropy) Random.seedOfInt = .ok n)
    (script : ¬isArchive (place.folder.text path)) (report : Report) :
    let compiled := (Circuit.ofSeed n).compile .atomic (place.folder.text path)
    ((loadCircuit place path seed).run.run report).1 =
      match compiled.2.fault with
      | some fault => .error (.script path fault)
      | none => .ok compiled.1 := by
  intro compiled
  rw [loadCircuit, seeded, run_bind_of_ok (expect_ok _ n report), if_neg script]
  cases split : (Circuit.ofSeed n).compile .atomic (place.folder.text path) with
  | mk circuit result =>
      obtain ⟨warned, warns⟩ := warn_each
        (fun warning : Script.Warning => "warning: " ++ warning.message) result.warnings report
      simp only [compiled, split]
      rw [run_bind_of_ok warns]
      cases result.fault <;> rfl

end CommandLine

open CommandLine

/-- Every text is read as a saved graph exactly when it is taken for one and its header is alone on
the first line. So read it gives a node for each line of a node, and else it leaves an empty graph.
Runs and commands load what is taken for a saved graph, without any complaint, and compile
everything else. -/
theorem opens_text (text : String) :
    (hasHeader text ↔ isArchive text ∧ headerAlone text) ∧
      (∀ c : Circuit,
        (hasHeader text → (c.load text).graph.nodes.length =
          (Text.lines text.toList).tail.countP isNodeLine) ∧
        (¬hasHeader text → c.load text = { c with graph := c.graph.clear })) ∧
      (∀ (s : Session) (path : String),
        (s.start path text).1 = (if isArchive text then s.load text else (s.compile text).1) ∧
          ((∃ event ∈ (s.start path text).2.1, event.name = "graph_loaded") ↔ isArchive text)) ∧
      ∀ (place : Place) (path : Path) (seed : Option Int) (n : Nat) (report : Report),
        place.folder.text path = text →
        seed.elim (.ok place.entropy) Random.seedOfInt = .ok n →
        let c := Circuit.ofSeed n
        let opened := (loadCircuit place path seed).run.run report
        (isArchive text → opened = (.ok (c.load text), report)) ∧
          (¬isArchive text → opened.1 = match (c.compile .atomic text).2.fault with
            | some fault => .error (.script path fault)
            | none => .ok (c.compile .atomic text).1) := by
  refine ⟨hasHeader_iff, fun c => ⟨c.load_length, c.load_of_no_header⟩,
    fun s path => ⟨s.start_opens path text, s.start_tells path text⟩, ?_⟩
  rintro place path seed n report rfl seeded
  exact ⟨fun archive => loadCircuit_archive seeded archive report,
    fun script => loadCircuit_script seeded script report⟩

/-- A script that begins with a longer name than the header, and a saved graph behind an empty line:
both are taken for saved graphs and leave a run with no node. -/
theorem opens_text_misread :
    let script := "TOYCON_v1_speed = 2;"
    let saved := "\nTOYCON_v1\nNODE 0 ConstantNode 0 0 1.0\n"
    let s := Session.ofSeed 0 .atomic
    (s.compile script).2.isOk ∧ (s.compile script).1.nodeCount = 1 ∧
      ∀ text ∈ [script, saved], isArchive text ∧ ¬hasHeader text ∧
        (s.start "" text).1.nodeCount = 0 ∧ (s.start "" text).2.2 = none := by
  intro script saved s
  refine ⟨by decide +kernel, by decide +kernel, fun text mem => ?_⟩
  have taken : isArchive text := by
    revert text
    decide +kernel
  have crowded : ¬headerAlone text := by
    revert text
    decide +kernel
  obtain ⟨header, loaded, started, -⟩ := opens_text text
  have unread : ¬hasHeader text := fun read => crowded (header.mp read).2
  refine ⟨taken, unread, ?_, ?_⟩
  · rw [(started s "").1, if_pos taken, Session.load, (loaded s.circuit).2 unread]
    rfl
  · rw [Session.start, if_pos taken]

end Opening

end SignalGraph
