import SignalGraph.Value.Yaml.Fault

/-!
Items that one step of reading hands to the next. What was handed over before a fault counts: a
fault that a later step finds there is found first.
-/

namespace SignalGraph.Yaml

/-- Items in order, up to their end or up to a fault. -/
inductive Feed (α : Type) where
  | done
  | broken (fault : Fault)
  | item (a : α) (rest : Feed α)
deriving Inhabited

/-- The items before the end or the fault. -/
def Feed.toList {α : Type} : Feed α → List α
  | .done => []
  | .broken _ => []
  | .item a rest => a :: rest.toList

/-- The state after all items, or the first fault: of a step, or of the items. -/
def Feed.foldlM {α σ : Type} (step : σ → α → Except Fault σ) (s : σ) : Feed α → Except Fault σ
  | .done => .ok s
  | .broken fault => .error fault
  | .item a rest => do rest.foldlM step (← step s a)

end SignalGraph.Yaml
