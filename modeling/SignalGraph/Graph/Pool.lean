import SignalGraph.Node.Basic

/-!
The pool that nodes live in. A node keeps its reference for good, also when it leaves its graph or
enters another one, so that wires always find the node that they come from.
-/

namespace SignalGraph

structure Pool where
  nodes : Array Node := #[]
deriving Inhabited

def Pool.get (pool : Pool) (ref : Ref) : Node := pool.nodes.getD ref default

def Pool.set (pool : Pool) (ref : Ref) (node : Node) : Pool :=
  { nodes := pool.nodes.setIfInBounds ref node }

def Pool.modify (pool : Pool) (ref : Ref) (f : Node → Node) : Pool :=
  pool.set ref (f (pool.get ref))

/-- Takes in a node and gives it a reference. -/
def Pool.add (pool : Pool) (node : Node) : Pool × Ref :=
  ({ nodes := pool.nodes.push node }, pool.nodes.size)

/-- The number that an outlet holds. -/
def Pool.signal (pool : Pool) (outlet : Outlet) : Float :=
  (pool.get outlet.ref).outlets.getD outlet.slot 0.0

theorem Pool.get_set_self (pool : Pool) (ref : Ref) (node : Node) (h : ref < pool.nodes.size) :
    (pool.set ref node).get ref = node := by
  simp [Pool.get, Pool.set, h]

theorem Pool.get_set_ne (pool : Pool) {ref other : Ref} (node : Node) (h : ref ≠ other) :
    (pool.set ref node).get other = pool.get other := by
  simp [Pool.get, Pool.set, Array.getElem?_setIfInBounds_ne h]

theorem Pool.get_add_self (pool : Pool) (node : Node) :
    (pool.add node).1.get (pool.add node).2 = node := by
  simp [Pool.get, Pool.add]

end SignalGraph
