import SignalGraph.Graph.Reading
import SignalGraph.Proofs.Outcome
import SignalGraph.Proofs.Text.Words

/-!
Lines of saved graphs. What a node's line has been read from, what a record leaves, and that nothing
is wrong with a line but what is passed over.
-/

namespace SignalGraph

section Faults

/-- Where data is a text, nothing but its value can be wrong. -/
theorem Body.ofParam_text_faultClass {kind : Kind} {text : String} {fault : CreateFault}
    (failed : Body.ofParam kind (some (.text text)) = .error fault) : fault.faultClass = .value := by
  have number {fault : CreateFault} (wrong : numberParam (some (.text text)) = .error fault) :
      fault.faultClass = .value := by
    obtain ⟨_, unread, rfl⟩ := mapError_eq_error.mp wrong
    simp only [Value.toFloat] at unread
    cases read : Decimal.readFloat? text <;> rw [read] at unread <;> cases unread
    rfl
  have settled {body : Body} {fault : CreateFault} (wrong : Except.ok body = .error fault) :
      fault.faultClass = .value := by
    cases wrong
  have bound {α : Type} {x : Except CreateFault α} {f : α → Body}
      (wrong : (do return f (← x)) = .error fault) : x = .error fault := by
    rcases bind_eq_error.mp wrong with first | ⟨_, -, last⟩
    · exact first
    · cases last
  cases kind with
  | constant => exact number (bound failed)
  | timer => exact number (bound failed)
  | counter => exact number (bound failed)
  | math =>
      have wrong : MathOp.ofValue (.text text) = .error fault := bound failed
      simp only [MathOp.ofValue] at wrong
      cases named : MathOp.ofName? text <;> rw [named] at wrong <;> cases wrong
      rfl
  | logic =>
      have wrong : LogicOp.ofValue (.text text) = .error fault := bound failed
      simp only [LogicOp.ofValue] at wrong
      cases named : LogicOp.ofName? text <;> rw [named] at wrong <;> cases wrong
      rfl
  | _ => exact settled failed

theorem Body.ofParam_faultClass {kind : Kind} {fault : DataFault} {param : Option Value}
    (given : ∀ value ∈ param, ∃ text, value = .text text)
    (failed : (Body.ofParam kind param).mapError .create = .error fault) :
    fault.faultClass = .value := by
  obtain ⟨_, wrong, rfl⟩ := mapError_eq_error.mp failed
  cases param with
  | none =>
      rw [Body.ofParam_none] at wrong
      cases wrong
  | some value =>
      obtain ⟨text, rfl⟩ := given value rfl
      exact Body.ofParam_text_faultClass wrong

theorem readScript_faultClass {data : String} {fault : DataFault}
    (failed : readScript data = .error fault) : fault.faultClass = .value := by
  unfold readScript at failed
  split at failed
  · cases failed
    rfl
  · rcases bind_eq_error.mp failed with wrong | ⟨_, -, failed⟩
    · obtain ⟨_, -, rfl⟩ := mapError_eq_error.mp wrong
      rfl
    · rcases bind_eq_error.mp failed with wrong | ⟨_, -, failed⟩
      · obtain ⟨_, -, rfl⟩ := mapError_eq_error.mp wrong
        rfl
      · cases failed

theorem readToggle_faultClass {data : String} {fault : DataFault}
    (failed : readToggle data = .error fault) : fault.faultClass = .value := by
  simp only [readToggle] at failed
  split at failed
  · cases failed
  · split at failed
    · cases failed
    · cases failed
      rfl

theorem Body.ofData_faultClass {kind : Kind} {data : String} {fault : DataFault}
    (failed : Body.ofData kind data = .error fault) : fault.faultClass = .value := by
  unfold Body.ofData at failed
  split at failed
  · exact Body.ofParam_faultClass (by rintro _ ⟨⟩) failed
  · split at failed
    · rcases bind_eq_error.mp failed with wrong | ⟨_, -, made⟩
      · exact readToggle_faultClass wrong
      · cases made
    · rcases bind_eq_error.mp failed with wrong | ⟨_, -, made⟩
      · exact readScript_faultClass wrong
      · cases made
    · cases failed
    · refine Body.ofParam_faultClass (fun value mem => ?_) failed
      split at mem
      · exact ⟨data, (Option.mem_some.mp mem).symm⟩
      · cases mem

end Faults

section Records

/-- A step of reading a line that fails in no other way than with a fault that is passed over. -/
def Skips {α : Type} (x : Except LineFault α) : Prop :=
  ∀ fault, x = .error fault → fault.isSkipped

variable {α β : Type}

theorem Skips.ok (a : α) : Skips (.ok a : Except LineFault α) := fun _ wrong => nomatch wrong

theorem Skips.bind {x : Except LineFault α} {f : α → Except LineFault β} (first : Skips x)
    (next : ∀ a, Skips (f a)) : Skips (x >>= f) := by
  intro fault failed
  rcases bind_eq_error.mp failed with wrong | ⟨a, -, wrong⟩
  · exact first fault wrong
  · exact next a fault wrong

theorem Skips.mapError {ε : Type} {x : Except ε α} {f : ε → LineFault}
    (skipped : ∀ fault, x = .error fault → (f fault).isSkipped) : Skips (x.mapError f) := by
  intro _ failed
  obtain ⟨fault, wrong, rfl⟩ := mapError_eq_error.mp failed
  exact skipped fault wrong

theorem Skips.mapM {f : β → Except LineFault α} (each : ∀ b, Skips (f b)) (bs : List β) :
    Skips (bs.mapM f) := by
  induction bs with
  | nil => exact Skips.ok []
  | cons b bs ih =>
      rw [List.mapM_cons]
      exact (each b).bind fun a => ih.bind fun as => Skips.ok (a :: as)

theorem readWord_skips (word : List Char) : Skips (readWord word) :=
  Skips.mapError fun _ _ => rfl

theorem wordAt_skips (words : List (List Char)) (i : Nat) : Skips (wordAt words i) := by
  unfold wordAt
  cases words[i]? with
  | none =>
      rintro _ ⟨⟩
      rfl
  | some word => exact Skips.ok word

theorem numberAt_skips (words : List (List Char)) (i : Nat) : Skips (numberAt words i) :=
  (wordAt_skips words i).bind readWord_skips

theorem readKind_skips (name : List Char) : Skips (readKind name) := by
  refine Skips.mapError fun fault unknown => ?_
  simp only [Kind.ofValue] at unknown
  cases named : Kind.ofName? (String.ofList name) <;> rw [named] at unknown <;> cases unknown
  rfl

theorem Body.ofData_skips (kind : Kind) (data : String) :
    Skips ((Body.ofData kind data).mapError .data) := by
  refine Skips.mapError fun fault failed => ?_
  simp [LineFault.isSkipped, LineFault.faultClass?, Body.ofData_faultClass failed,
    FaultClass.isSkipped]

theorem Record.readNode_skips (words : List (List Char)) : Skips (Record.readNode words) :=
  (numberAt_skips words 0).bind fun _ => (wordAt_skips words 1).bind fun _ =>
    (readKind_skips _).bind fun _ => (numberAt_skips words 2).bind fun _ =>
      (numberAt_skips words 3).bind fun _ => (Body.ofData_skips _ _).bind fun _ => Skips.ok _

/-- Whatever is wrong with a line, its fault is passed over. -/
theorem Record.read_skips (line : List Char) : Skips (Record.read line) := by
  unfold Record.read
  split
  · split
    · exact Record.readNode_skips _
    · refine (Skips.mapM readWord_skips _).bind fun numbers => ?_
      split
      · exact Skips.ok _
      · rintro _ ⟨⟩
        rfl
    · rintro _ ⟨⟩
      rfl
  · rintro _ ⟨⟩
    rfl

end Records

section Nodes

/-- What the record of a node has been read from: words that are its data, and two numbers. -/
theorem Record.read_node {line : List Char} {id : Int} {body : Body} {x y : Int}
    (h : Record.read line = .ok (.node id body x y)) :
    ∃ kind data column row, (∀ word ∈ data, Text.IsWord word) ∧
      Body.ofData kind (joinWords data) = .ok body ∧ readWord column = .ok x ∧
        readWord row = .ok y := by
  have number {words : List (List Char)} {i : Nat} {n : Int} (h : numberAt words i = .ok n) :
      ∃ word, readWord word = .ok n := by
    obtain ⟨word, -, reads⟩ := bind_eq_ok.mp h
    exact ⟨word, reads⟩
  unfold Record.read at h
  split at h
  · rename_i tag words cut
    split at h
    · obtain ⟨_, -, h⟩ := bind_eq_ok.mp h
      obtain ⟨_, -, h⟩ := bind_eq_ok.mp h
      obtain ⟨kind, -, h⟩ := bind_eq_ok.mp h
      obtain ⟨_, column, h⟩ := bind_eq_ok.mp h
      obtain ⟨_, row, h⟩ := bind_eq_ok.mp h
      obtain ⟨_, made, h⟩ := bind_eq_ok.mp h
      cases h
      obtain ⟨column, hx⟩ := number column
      obtain ⟨row, hy⟩ := number row
      refine ⟨kind, words.drop 4, column, row, fun word mem => ?_, mapError_eq_ok.mp made, hx, hy⟩
      have inside : word ∈ Text.words line := by
        rw [cut]
        exact List.mem_cons_of_mem _ (List.mem_of_mem_drop mem)
      exact Text.isWord_of_mem_words inside
    · obtain ⟨numbers, -, h⟩ := bind_eq_ok.mp h
      split at h <;> cases h
    · cases h
  · cases h

end Nodes

section Steps

theorem Record.ofLine?_of_read {line : List Char} {record : Record}
    (read : Record.read line = .ok record) : Record.ofLine? line = some record :=
  toOption_eq_some.mpr read

theorem Record.ofLine?_of_error {line : List Char} {fault : LineFault}
    (failed : Record.read line = .error fault) : Record.ofLine? line = none := by
  rw [Record.ofLine?, failed]
  rfl

/-- A new node has no id yet, so to enter it at a place of numbers is never refused, and no id is
taken in vain. -/
theorem Circuit.spawn_new (c : Circuit) (body : Body) (x y : Int) :
    let (pool, ref) := c.pool.add (.ofBody body)
    ({ c with pool } : Circuit).spawn ref (.int x) (.int y) = ((c.insert body x y).1, none) := by
  let grown : Circuit := { c with pool := (c.pool.add (.ofBody body)).1 }
  have fresh : (grown.node c.pool.nodes.size).id = none :=
    congrArg Node.id (c.pool.get_add_self (.ofBody body))
  have stranger : ¬grown.contains c.pool.nodes.size := by
    rw [Circuit.contains, fresh]
    exact Bool.false_ne_true
  exact if_neg stranger

variable (l : Loading)

theorem Loading.attempt_node (id : Int) (body : Body) (x y : Int) :
    l.attempt (.node id body x y) =
      ({ circuit := (l.circuit.insert body x y).1
         table := putEntry id (l.circuit.insert body x y).2 l.table }, none) := by
  have entered := l.circuit.spawn_new body x y
  simp only [Loading.attempt] at entered ⊢
  rw [entered]
  rfl

/-- A node is entered, and kept by its id. -/
theorem Loading.take_node (id : Int) (body : Body) (x y : Int) :
    l.take (.node id body x y) =
      { circuit := (l.circuit.insert body x y).1
        table := putEntry id (l.circuit.insert body x y).2 l.table } :=
  congrArg Prod.fst (l.attempt_node id body x y)

/-- A connection is made, or everything stays as it is. -/
theorem Loading.take_link (source outletSlot target inletSlot : Int) :
    l.take (.link source outletSlot target inletSlot) = l ∨
      ∃ ref ref' next added, l.circuit.connect ref outletSlot ref' inletSlot = .ok (next, added) ∧
        l.take (.link source outletSlot target inletSlot) = { l with circuit := next } := by
  simp only [Loading.take, Loading.attempt]
  split
  · split
    · rename_i made
      exact .inr ⟨_, _, _, _, made, rfl⟩
    · exact .inl rfl
  · exact .inl rfl

theorem Loading.takeLine_of_read {line : List Char} {record : Record}
    (read : Record.read line = .ok record) : l.takeLine line = l.take record := by
  rw [Loading.takeLine, Loading.attemptLine, read]
  rfl

theorem Loading.takeLine_of_error {line : List Char} {fault : LineFault}
    (failed : Record.read line = .error fault) : l.takeLine line = l := by
  rw [Loading.takeLine, Loading.attemptLine, failed]

end Steps

section Lines

/-- What every line keeps is kept up to the line at which the reading ends. -/
theorem Loading.attemptLines_induction {P : Loading → Prop}
    (step : ∀ (l : Loading) line, P l → P (l.takeLine line)) (lines : List (List Char))
    (l : Loading) (h : P l) : P (l.attemptLines lines).1 := by
  induction lines generalizing l with
  | nil => exact h
  | cons line lines ih =>
      have next := step l line h
      rw [Loading.takeLine] at next
      rw [Loading.attemptLines]
      split
      · rename_i met
        rw [met] at next
        split
        · exact ih _ next
        · exact next
      · rename_i met
        rw [met] at next
        exact ih _ next

/-- A circuit is loaded by entering nodes and connecting them, after it has lost those it had. -/
theorem Circuit.load_induction {P : Circuit → Prop} (c : Circuit) (text : String)
    (cleared : P { c with graph := c.graph.clear })
    (insert : ∀ (c : Circuit) kind data column row body x y, (∀ word ∈ data, Text.IsWord word) →
      Body.ofData kind (joinWords data) = .ok body → readWord column = .ok x →
        readWord row = .ok y → P c → P (c.insert body x y).1)
    (connect : ∀ (c : Circuit) source outletSlot target inletSlot next added,
      c.connect source outletSlot target inletSlot = .ok (next, added) → P c → P next) :
    P (c.load text) := by
  have step (l : Loading) (line : List Char) (h : P l.circuit) : P (l.takeLine line).circuit := by
    cases read : Record.read line with
    | error fault => rwa [l.takeLine_of_error read]
    | ok record =>
        rw [l.takeLine_of_read read]
        cases record with
        | node id body x y =>
            obtain ⟨kind, data, column, row, solid, made, hx, hy⟩ := Record.read_node read
            rw [l.take_node]
            exact insert _ kind data column row body x y solid made hx hy h
        | link source outletSlot target inletSlot =>
            rcases l.take_link source outletSlot target inletSlot with
              same | ⟨_, _, _, _, made, taken⟩
            · rwa [same]
            · rw [taken]
              exact connect _ _ _ _ _ _ _ made h
  rw [Circuit.load, Circuit.loadLines]
  unfold Circuit.readLines
  split
  · split
    · exact Loading.attemptLines_induction (P := fun l => P l.circuit) step _ _ cleared
    · exact cleared
  · exact cleared

end Lines

end SignalGraph
