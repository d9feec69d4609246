import SignalGraph.Proofs.Graph.Calls
import SignalGraph.Proofs.Graph.Loaded

/-!
The ids that a graph gives. They only ever go up, also when nodes are removed, until all nodes are
dropped or replaced at once: then they count up from zero again. So no two nodes of a graph have had
one id between two such calls.
-/

namespace SignalGraph

section Statements

/-- A node of the graph, and the id that it bears. -/
def Circuit.Bears (c : Circuit) (ref : Ref) (id : Nat) : Prop :=
  ref ∈ c.graph.nodes ∧ (c.node ref).id = some id

instance (c : Circuit) (ref : Ref) (id : Nat) : Decidable (c.Bears ref id) :=
  inferInstanceAs (Decidable (_ ∧ _))

/-- Whether a call drops or replaces all nodes. A script does this unless it is refused as a
whole. -/
def GraphCall.startsOver : GraphCall → Bool
  | .clear => true
  | .load _ => true
  | .compile mode source => mode = .partialGates || (Script.compile source).fault.isNone
  | _ => false

/-- Whether every node that a call of a run adds to the graph bears another id than all nodes that
have been in the graph before, from the start of the run on. -/
def Circuit.NumbersAnew (c : Circuit) (calls : List GraphCall) : Prop :=
  ∀ earlier call later, calls = earlier ++ call :: later →
    ∀ ref id, ((c.after earlier).call call).1.Bears ref id →
      ref ∉ (c.after earlier).graph.nodes →
      ∀ past, past <+: earlier → ∀ other, ¬(c.after past).Bears other id

/-- A circuit whose nodes bear their positions as ids, and which goes on to count from there. -/
structure Circuit.CountsUp (c : Circuit) : Prop where
  ids : c.graph.nodes.map (fun ref => (c.node ref).id) =
    (List.range c.graph.nodes.length).map some
  nextId : c.graph.nextId = c.graph.nodes.length

end Statements

section Steps

variable {c next : Circuit}

/-- All ids that the nodes of a graph bear have been given already. -/
def Circuit.Numbered (c : Circuit) : Prop := ∀ ref id, c.Bears ref id → id < c.graph.nextId

/-- A later state of a graph, where each node bears the id that it bore, or one that has been given
in between. -/
structure Circuit.Follows (next c : Circuit) : Prop where
  nextId : c.graph.nextId ≤ next.graph.nextId
  ids : ∀ ref id, next.Bears ref id →
    c.Bears ref id ∨ (c.graph.nextId ≤ id ∧ id < next.graph.nextId)

theorem Circuit.Follows.refl (c : Circuit) : c.Follows c := ⟨Nat.le_refl _, fun _ _ => .inl⟩

theorem Circuit.Follows.trans {last : Circuit} (h' : last.Follows next) (h : next.Follows c) :
    last.Follows c := by
  refine ⟨Nat.le_trans h.nextId h'.nextId, fun ref id bears => ?_⟩
  have first := h.nextId
  have second := h'.nextId
  rcases h'.ids ref id bears with bore | between
  · rcases h.ids ref id bore with bore | between
    · exact .inl bore
    · right
      omega
  · right
    omega

theorem Circuit.Numbered.of_follows (h : c.Numbered) (follows : next.Follows c) :
    next.Numbered := by
  intro ref id bears
  have later := follows.nextId
  rcases follows.ids ref id bears with bore | between
  · have given := h ref id bore
    omega
  · exact between.2

/-- Nodes that keep their ids, some of which may leave the graph. -/
theorem Circuit.Follows.of_ids (nextId : next.graph.nextId = c.graph.nextId)
    (nodes : ∀ ref ∈ next.graph.nodes, ref ∈ c.graph.nodes)
    (ids : ∀ ref, (next.node ref).id = (c.node ref).id) : next.Follows c := by
  refine ⟨Nat.le_of_eq nextId.symm, ?_⟩
  rintro ref id ⟨listed, bears⟩
  rw [ids] at bears
  exact .inl ⟨nodes ref listed, bears⟩

theorem Pool.add_id (pool : Pool) (body : Body) (ref : Ref) :
    ((pool.add (.ofBody body)).1.get ref).id = (pool.get ref).id := by
  rcases Nat.lt_or_ge ref pool.nodes.size with old | new
  · rw [pool.get_add_of_lt _ old]
  · rw [pool.get_of_le new]
    rcases Nat.eq_or_lt_of_le new with rfl | outside
    · rw [show (pool.add (.ofBody body)).1.get pool.nodes.size = _ from pool.get_add_self _]
      rfl
    · rw [Pool.get_of_le]
      rw [Pool.size_add]
      exact outside

/-- The id that a graph gives next goes to one node only. -/
theorem Circuit.claim_id {ref other : Ref} {id : Nat}
    (bears : ((c.claim ref).node other).id = some id) :
    if other = ref then id = c.graph.nextId else (c.node other).id = some id := by
  have inside : other < c.pool.nodes.size := by
    have there := Pool.lt_of_id bears
    rwa [show (c.claim ref).pool.nodes.size = _ from Pool.size_modify ..] at there
  split
  · rename_i same
    subst same
    rw [show (c.claim other).node other = _ from c.pool.get_modify_self _ inside] at bears
    exact (Option.some.inj bears).symm
  · rename_i differs
    rwa [show (c.claim ref).node other = _ from
      c.pool.get_modify_ne _ (Ne.symm differs)] at bears

theorem Circuit.claim_follows (c : Circuit) (ref : Ref) : (c.claim ref).Follows c := by
  have later : (c.claim ref).graph.nextId = c.graph.nextId + 1 := rfl
  refine ⟨by omega, ?_⟩
  rintro other id ⟨listed, bears⟩
  have given := Circuit.claim_id bears
  split at given
  · right
    omega
  · exact .inl ⟨listed, given⟩

theorem Circuit.enter_follows (c : Circuit) (ref : Ref) (x y : Int) :
    (c.enter ref x y).Follows c := by
  have placed : ∀ other, ((c.enter ref x y).node other).id = ((c.claim ref).node other).id :=
    (c.claim ref).pool.modify_keeps Node.id (f := fun node => { node with x, y }) (fun _ => rfl) ref
  have later : (c.enter ref x y).graph.nextId = c.graph.nextId + 1 := rfl
  refine ⟨by omega, ?_⟩
  rintro other id ⟨listed, bears⟩
  rw [placed] at bears
  have given := Circuit.claim_id bears
  split at given
  · right
    omega
  · rename_i differs
    rcases List.mem_append.mp listed with old | new
    · exact .inl ⟨old, given⟩
    · exact absurd (List.mem_singleton.mp new) differs

/-- A call that does not start over only gives ids that have not been given yet. -/
theorem Circuit.call_follows {call : GraphCall} (goes_on : ¬call.startsOver) :
    (c.call call).1.Follows c := by
  apply Circuit.call_induction (P := fun next => next.Follows c)
  case keep => exact .refl c
  case make => exact fun body => .of_ids rfl (fun _ listed => listed) (c.pool.add_id body)
  case claim => exact fun ref _ => c.claim_follows ref
  case enter => exact fun ref _ _ _ _ x y => c.enter_follows ref x y
  case connect =>
    intro _ _ _ _ next _ made
    obtain ⟨graph, frame⟩ := Circuit.connect_frame made
    apply Circuit.Follows.of_ids
    · rw [graph]
    · rw [graph]
      exact fun _ listed => listed
    · exact fun ref => by rw [frame ref]
  case remove =>
    intro ref next removed
    obtain ⟨nodes, frame⟩ := Circuit.remove_frame removed
    apply Circuit.Follows.of_ids
    · obtain ⟨-, rfl⟩ := Circuit.remove_eq_ok.mp removed
      rfl
    · rw [nodes]
      exact fun _ => List.mem_of_mem_erase
    · exact fun other => by rw [frame other]
  case clear =>
    rintro rfl
    exact absurd rfl goes_on
  case count => exact .of_ids rfl (fun _ listed => listed) fun _ => rfl
  case tick =>
    intro dt controls
    exact .of_ids (c.tick_nextId dt controls) (fun _ listed => listed)
      fun ref => (c.tick_keeps dt controls ref).id
  case load =>
    rintro text rfl
    exact absurd rfl goes_on
  case compile =>
    rintro mode source rfl
    -- only a script that is refused as a whole does not start over
    simp only [GraphCall.startsOver, Bool.or_eq_true, decide_eq_true_eq, not_or] at goes_on
    obtain ⟨atomic, refused⟩ := goes_on
    cases mode with
    | partialGates => exact absurd rfl atomic
    | atomic =>
        cases faulty : (Script.compile source).fault with
        | none => simp [faulty] at refused
        | some fault =>
            simp only [c.compile_refused faulty]
            exact .refl c

theorem Circuit.IsLoaded.countsUp (h : c.IsLoaded) : c.CountsUp := by
  refine ⟨List.ext_getElem? fun i => ?_, h.nextId⟩
  rw [List.getElem?_map, List.getElem?_map]
  rcases Nat.lt_or_ge i c.graph.nodes.length with inside | outside
  · rw [List.getElem?_range inside, List.getElem?_eq_getElem inside]
    have node := (h.node i _ (List.getElem?_eq_getElem inside)).starts
    rw [Option.map_some, Option.map_some, node]
    rfl
  · rw [List.getElem?_eq_none outside, List.getElem?_eq_none (by rwa [List.length_range])]
    rfl

theorem Circuit.install_countsUp (c : Circuit) (gates : Array Script.Gate) :
    (c.install gates).CountsUp := by
  have installed := c.install_installed gates
  refine ⟨?_, (c.install_length gates).symm⟩
  rw [c.install_length, ← Array.length_toList, installed.nodes, List.map_map]
  refine List.map_congr_left fun i mem => ?_
  have found := List.getElem?_eq_getElem (List.mem_range.mp mem)
  exact (installed.hosts.hosted i _ found).id

/-- A call that starts over counts ids up from zero. -/
theorem Circuit.call_countsUp (c : Circuit) {call : GraphCall} (restarts : call.startsOver) :
    (c.call call).1.CountsUp := by
  cases call with
  | clear => exact ⟨rfl, rfl⟩
  | load text => exact (c.load_isLoaded text).countsUp
  | compile mode source =>
      have left : (Script.compile source).fault = none ∨ mode = .partialGates := by
        simpa [GraphCall.startsOver, or_comm] using restarts
      have installs : (c.call (.compile mode source)).1 =
          c.install (Script.compile source).gates := congrArg Prod.fst (c.compile_left left)
      rw [installs]
      exact c.install_countsUp _
  | _ => cases restarts

theorem Circuit.CountsUp.numbered (h : c.CountsUp) : c.Numbered := by
  rintro ref id ⟨listed, bears⟩
  have mem : some id ∈ c.graph.nodes.map fun ref => (c.node ref).id :=
    List.mem_map.mpr ⟨ref, listed, bears⟩
  rw [h.ids] at mem
  obtain ⟨i, inside, same⟩ := List.mem_map.mp mem
  rw [h.nextId, ← Option.some.inj same]
  exact List.mem_range.mp inside

theorem Circuit.Numbered.call (h : c.Numbered) (call : GraphCall) : (c.call call).1.Numbered := by
  by_cases restarts : call.startsOver
  · exact (c.call_countsUp restarts).numbered
  · exact h.of_follows (Circuit.call_follows restarts)

end Steps

section Runs

variable {c : Circuit}

theorem Circuit.after_append (c : Circuit) (front back : List GraphCall) :
    c.after (front ++ back) = (c.after front).after back := List.foldl_append

theorem Circuit.Numbered.after (h : c.Numbered) (calls : List GraphCall) :
    (c.after calls).Numbered := by
  induction calls generalizing c with
  | nil => exact h
  | cons call calls ih => exact ih (h.call call)

/-- A run that does not start over only gives ids that had not been given before it. -/
theorem Circuit.after_follows {calls : List GraphCall}
    (goes_on : ∀ call ∈ calls, ¬call.startsOver) : (c.after calls).Follows c := by
  induction calls generalizing c with
  | nil => exact .refl c
  | cons call calls ih =>
      rw [List.forall_mem_cons] at goes_on
      exact (ih goes_on.2).trans (Circuit.call_follows goes_on.1)

/-- As long as nothing starts over, a node that is added bears an id that no node has borne. -/
theorem Circuit.Numbered.numbersAnew (h : c.Numbered) {calls : List GraphCall}
    (goes_on : ∀ call ∈ calls, ¬call.startsOver) : c.NumbersAnew calls := by
  rintro earlier call later rfl ref id bears added past ⟨between, rfl⟩ other bore
  rw [List.forall_mem_append, List.forall_mem_append, List.forall_mem_cons] at goes_on
  obtain ⟨⟨-, during⟩, now, -⟩ := goes_on
  have given := h.after past other id bore
  have later := (Circuit.after_follows (c := c.after past) during).nextId
  rw [← c.after_append] at later
  rcases (Circuit.call_follows now).ids ref id bears with old | new
  · exact absurd old.1 added
  · omega

/-- A node that is added to a graph bears another id than every node that has been in this graph
since its nodes were last dropped or replaced all at once, and then ids count up from zero. -/
theorem Circuit.calls_number_anew (pool : Pool) (generator : Random.Generator)
    (earlier since : List GraphCall) (goes_on : ∀ call ∈ since, ¬call.startsOver) :
    let start : Circuit := { pool, graph := { generator } }
    (start.after earlier).NumbersAnew since ∧
      ∀ call, call.startsOver → (((start.after earlier).after since).call call).1.CountsUp := by
  intro start
  have empty : start.Numbered := fun _ _ bears => absurd bears.1 List.not_mem_nil
  exact ⟨(empty.after earlier).numbersAnew goes_on, fun _ => Circuit.call_countsUp _⟩

/-- A removed node's id is not given again, to no node. -/
theorem Circuit.calls_number_anew_removed :
    let since : List GraphCall := [.make (.constant 1.0), .spawn 0 (.int 0) (.int 0), .remove 0,
      .spawn 0 (.int 0) (.int 0)]
    let start : Circuit := { pool := {}, graph := { generator := .ofSeed 0 } }
    (∀ call ∈ since, ¬call.startsOver) ∧ start.NumbersAnew since ∧
      (start.after since).Bears 0 1 := by
  intro since start
  have goes_on : ∀ call ∈ since, ¬call.startsOver := by decide +kernel
  exact ⟨goes_on, (Circuit.calls_number_anew {} (.ofSeed 0) [] since goes_on).1, by decide +kernel⟩

/-- A graph gives its first id once more after each of the calls that start over. -/
theorem Circuit.calls_number_anew_restarted :
    let start := Circuit.ofSeed 0
    let enter (ref : Ref) : GraphCall := .spawn ref (.int 0) (.int 0)
    let run (restart : GraphCall) : List GraphCall :=
      [.make (.constant 1.0), enter 0, restart, .make (.constant 2.0), enter 1]
    ¬start.NumbersAnew (run .clear) ∧ ¬start.NumbersAnew (run (.load "")) ∧
      ¬start.NumbersAnew (run (.compile .atomic "")) ∧
      ¬start.NumbersAnew (run (.compile .partialGates "")) := by
  intro start enter run
  let before (restart : GraphCall) : List GraphCall :=
    [.make (.constant 1.0), enter 0, restart, .make (.constant 2.0)]
  have again : ∀ restart, 1 ∉ (start.after (before restart)).graph.nodes →
      (start.after (run restart)).Bears 1 0 → ¬start.NumbersAnew (run restart) := by
    intro restart stranger bears anew
    refine anew (before restart) (enter 1) [] rfl 1 0 bears stranger
      [.make (.constant 1.0), enter 0] ⟨_, rfl⟩ 0 ?_
    decide +kernel
  refine ⟨again _ ?_ ?_, again _ ?_ ?_, again _ ?_ ?_, again _ ?_ ?_⟩ <;> decide +kernel

end Runs

end SignalGraph
