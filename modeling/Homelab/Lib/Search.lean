import Mathlib.Algebra.BigOperators.Group.List.Basic
import Mathlib.Algebra.GroupWithZero.Nat
import Mathlib.Algebra.Order.BigOperators.Group.List

/-!
# Searching a graph with a stack

The loop that looks for one vertex: pop a vertex, stop when it is the target, skip it when it was
seen, otherwise push its successors. `stackSearch` runs it for a number of rounds; every vertex is
expanded once, so `searchFuel` rounds are enough.
-/

namespace Homelab.Lib

variable {α : Type*} [DecidableEq α]

/-- The loop, the top of the stack first; `next` lists the successors of a vertex. -/
def stackSearch (next : α → List α) (target : α) : Nat → List α → List α → Bool
  | 0, _, _ => false
  | _ + 1, [], _ => false
  | fuel + 1, v :: pending, visited =>
    if v = target then true
    else if v ∈ visited then stackSearch next target fuel pending visited
    else stackSearch next target fuel ((next v).reverse ++ pending) (v :: visited)

/-- Rounds the loop can still take: one for each vertex on the stack, and one for each successor
that a vertex not yet expanded will push. -/
def searchFuel (next : α → List α) (vertices pending visited : List α) : Nat :=
  pending.length + ((vertices.filter (· ∉ visited)).map fun v => (next v).length).sum

end Homelab.Lib
