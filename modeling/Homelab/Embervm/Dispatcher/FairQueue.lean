import Mathlib.Data.Finset.Card
import Homelab.Lib.Total

/-!
# The fair queue of a workload

The per-workload queue inside `Embervm.Dispatcher`: round-robin over principals, first in first out
within a principal. A queue of the source (`:queue`) is a list whose head is its front.

* `fqEnqueue` and `fqTake` are the two operations. A take walks at most one rotation and passes
  over the principals at their share or in the blocked set.
* `fqDepth_fqTake`: a take that returns a task removes exactly one, and one that returns none
  removes none. Sources without a file name are in `dispatcher.ex`.
-/

namespace Homelab.Embervm

open Homelab.Lib

/-- Source: "fair queue (per workload)" -/
structure FairQueue where
  /-- The principals in round-robin order. -/
  rotation : List String
  /-- The principals in the rotation. -/
  members : Finset String
  /-- The task ids of each principal. -/
  fifos : Table String (List String)

namespace FairQueue

/-- Source: `new_fq/0` -/
def newFq : FairQueue := ⟨[], ∅, ∅⟩

variable (fq : FairQueue) (pr : String)

/-- The tasks of a principal, the next one first. -/
def fifo : List String :=
  (fq.fifos.lookup pr).getD []

/-- Source: `fq_enqueue/3` -/
def fqEnqueue (taskId : String) : FairQueue :=
  let fifos := fq.fifos.insert pr (fq.fifo pr ++ [taskId])
  if pr ∈ fq.members then { fq with fifos := fifos }
  else ⟨fq.rotation ++ [pr], insert pr fq.members, fifos⟩

/-- Source: `fq_empty_q?/1` -/
def fqEmptyQ? : Bool := fq.members.card == 0

/-- Source: `fq_depth/1` -/
def fqDepth : Nat := fq.fifos.total List.length

/-- The principal leaves the rotation and its empty queue is dropped. -/
def retire (rot : List String) : FairQueue :=
  ⟨rot, fq.members.erase pr, fq.fifos.erase pr⟩

section Take

variable (wl : String) (share : Nat) (inflightPr : Table (String × String) Nat)
  (blocked : Finset String)

/-- The walk of a take: at most `remaining` principals are looked at.
Source: `fq_take/6` -/
def fqTakeLoop : Nat → FairQueue → Option (String × String) × FairQueue
  | 0, fq => (none, fq)
  | remaining + 1, fq =>
    match fq.rotation with
    | [] => (none, fq)
    | pr :: rot =>
      if share ≤ (inflightPr.lookup (wl, pr)).getD 0 ∨ pr ∈ blocked then
        fqTakeLoop remaining { fq with rotation := rot ++ [pr] }
      else
        match fq.fifo pr with
        | [] => fqTakeLoop remaining (fq.retire pr rot)
        | taskId :: fifo2 =>
          if fifo2 = [] then (some (taskId, pr), fq.retire pr rot)
          else
            (some (taskId, pr),
              { fq with rotation := rot ++ [pr], fifos := fq.fifos.insert pr fifo2 })

/-- The next task and its principal, if any principal can be served, and the queue after.
Source: `fq_take/5` -/
def fqTake (fq : FairQueue) : Option (String × String) × FairQueue :=
  fqTakeLoop wl share inflightPr blocked fq.members.card fq

variable {wl share inflightPr blocked}

/-- The depth at a principal: its own tasks and those of the others. -/
lemma fqDepth_eq (fq : FairQueue) (pr : String) :
    fq.fqDepth = (fq.fifo pr).length + Table.total (fq.fifos.erase pr) List.length := by
  unfold fqDepth fifo
  rw [Table.total_eq_add_erase _ _ pr]
  rcases fq.fifos.lookup pr with _ | q <;> rfl

/-- What a take removes. -/
lemma fqDepth_fqTakeLoop (remaining : Nat) (fq : FairQueue) :
    (fqTakeLoop wl share inflightPr blocked remaining fq).2.fqDepth
      + (fqTakeLoop wl share inflightPr blocked remaining fq).1.toList.length = fq.fqDepth := by
  -- the walk either passes over a principal, which keeps every queue, or ends at one
  induction remaining generalizing fq with
  | zero => rfl
  | succ remaining ih =>
    unfold fqTakeLoop
    rcases fq.rotation with _ | ⟨pr, rot⟩
    · rfl
    · dsimp only
      have hsplit := fq.fqDepth_eq pr
      split
      · exact ih { fq with rotation := rot ++ [pr] }
      · rcases hfifo : fq.fifo pr with _ | ⟨taskId, fifo2⟩
        · rw [hfifo, List.length_nil, Nat.zero_add] at hsplit
          rw [hsplit]
          exact ih (fq.retire pr rot)
        · rw [hfifo, List.length_cons] at hsplit
          dsimp only
          split
          · next hnil =>
            subst hnil
            change Table.total (fq.fifos.erase pr) List.length + 1 = _
            rw [hsplit, List.length_nil]
            omega
          · change Table.total (fq.fifos.insert pr fifo2) List.length + 1 = _
            rw [Table.total_insert, hsplit]
            omega

/-- **A take removes the task it returns and no other.** -/
theorem fqDepth_fqTake (fq : FairQueue) : (fqTake wl share inflightPr blocked fq).2.fqDepth
      + (fqTake wl share inflightPr blocked fq).1.toList.length = fq.fqDepth :=
  fqDepth_fqTakeLoop fq.members.card fq

end Take

end FairQueue

end Homelab.Embervm
