import Homelab.Lib.Raises
import Homelab.Lib.Table

/-!
# The dependency gate

`dependency_gate.py`: one tick reads the open pull requests and the merge queue, checks what it
found on each head, and publishes one check run for each head. It is a program over its reads, its
posts, the clock and the audit ledger, whose answers are arbitrary.

* A field of a JSON answer that is missing, or of a type its use refuses, is `none`; its use raises.
  All that matters of an exception is whether `FAILURES` holds it, and the name of its type.
* What `evaluate` does for a dependency pull request once its identity is settled (receipts,
  advisories, CI) is one operation, `evidence`: its answer approves, or raises.
* `note` is no effect of the source. It marks where a candidate is appended to `targets` and where
  `check` writes its conclusion into `results`.
-/

namespace Homelab.Factory.DependencyGate

open Homelab.Lib

/-! ## Exceptions -/

/-- What a tick raises. -/
inductive Exn where
  /-- One of `FAILURES`, by the name of its type. -/
  | failure (type : String)
  | other
  deriving DecidableEq, Repr

/-- Functions that read no answers raise only what `FAILURES` holds: the name of its type is
enough. -/
abbrev Fallible (α : Type) := Except String α

def keyError : String := "KeyError"

def valueError : String := "ValueError"

/-- A subscript raises on what is missing. -/
def field {α : Type} : Option α → Fallible α
  | some a => .ok a
  | none => .error keyError

/-- `if not ok: raise ValueError` -/
def require (ok : Bool) : Fallible Unit := if ok then .ok () else .error valueError

/-! ## Answers -/

structure User where
  id : Option Int
  type : Option String
  login : Option String
  /-- All other fields. -/
  rest : String
  deriving DecidableEq, Repr

/-- A pull request, as read alone or as a row of the listing. -/
structure Pull where
  number : Option Int
  state : Option String
  draft : Option Bool
  headSha : Option String
  headRef : Option String
  headRepo : Option String
  baseSha : Option String
  baseRef : Option String
  baseRepo : Option String
  user : Option User
  labels : List (Option String)
  assigned : Bool
  deriving DecidableEq, Repr

/-- An entry of the merge queue, as `GitHub.queue` lets it through. -/
structure Entry where
  id : String
  number : Int
  headRefOid : String
  baseOid : String
  headOid : String
  deriving DecidableEq, Repr

structure Approval where
  receiptId : Int
  taskId : String
  /-- `evidence["head_sha"]` and `evidence["author_id"]` -/
  headSha : Option String
  authorId : Option Int
  deriving DecidableEq, Repr

/-- The conclusion of a check run. -/
inductive Conclusion where
  | success
  | failure
  deriving DecidableEq, Repr

def Conclusion.text : Conclusion → String
  | .success => "success"
  | .failure => "failure"

/-- A check run as GitHub lists it. -/
structure CheckRun where
  id : Option Int
  name : Option String
  headSha : Option String
  appId : Option Int
  status : Option String
  conclusion : Option (Option String)
  deriving DecidableEq, Repr

/-- The check runs of a head. -/
structure Inventory where
  totalCount : Option Int
  checkRuns : Option (List CheckRun)
  deriving DecidableEq, Repr

/-! ## Operations -/

/-- A pull request to check, alone or at the end of a prefix of the queue. -/
structure Candidate where
  pull : Pull
  queued : Option (List Entry)
  deriving DecidableEq, Repr

inductive Action where
  | approvalInvalidated (receiptId : Int) (taskId : String) (number : Int)
  | refused (head error : String)
  | published (head : String) (conclusion : Conclusion) (checkId : Int)
  | skipped (reason error : String)
  deriving DecidableEq, Repr

inductive Note where
  | found (head : String) (candidate : Candidate)
  | concluded (head : String) (candidate : Candidate) (conclusion : Conclusion)
  deriving DecidableEq, Repr

/-- Reads, posts, the clock, audits and notes. -/
inductive Op where
  /-- A page of the listing of open pull requests. -/
  | page (n : Nat)
  | queue
  | pull (number : Int)
  | evidence (pull : Pull) (entry : Option Entry)
  | inventory (head : String)
  | clock
  | post (head : String) (conclusion : Conclusion) (reason : String)
  | audit (action : Action)
  | note (n : Note)
  deriving DecidableEq, Repr

/-- What an operation is answered. -/
abbrev Ans : Op → Type
  | .page _ => Except Exn (List Pull)
  | .queue => Except Exn (List Entry)
  | .pull _ => Except Exn Pull
  | .evidence _ _ => Except Exn Approval
  | .inventory _ => Except Exn Inventory
  | .clock => Int
  -- the `id` of the answer
  | .post _ _ _ => Except Exn (Option Int)
  | .audit _ => Except Exn Unit
  | .note _ => Unit

/-- A part of the tick, which may raise. -/
abbrev Gate (α : Type) := ExceptT Exn (Proc Ans) α

namespace Gate

def ask {α : Type} (p : Proc Ans (Except Exn α)) : Gate α := ExceptT.mk p

def page (n : Nat) : Gate (List Pull) := ask (Proc.perform (Op.page n))

def queue : Gate (List Entry) := ask (Proc.perform Op.queue)

def pull (number : Int) : Gate Pull := ask (Proc.perform (Op.pull number))

def evidence (p : Pull) (entry : Option Entry) : Gate Approval :=
  ask (Proc.perform (Op.evidence p entry))

def inventory (head : String) : Gate Inventory := ask (Proc.perform (Op.inventory head))

/-- `time.monotonic()` -/
def clock : Gate Int := ExceptT.lift (Proc.perform Op.clock)

/-- `_github_post` to `check-runs` -/
def post (head : String) (conclusion : Conclusion) (reason : String) : Gate (Option Int) :=
  ask (Proc.perform (Op.post head conclusion reason))

def audit (action : Action) : Gate Unit := ask (Proc.perform (Op.audit action))

def note (n : Note) : Gate Unit := ExceptT.lift (Proc.perform (Op.note n))

def given {α : Type} : Fallible α → Gate α
  | .ok a => pure a
  | .error type => throw (.failure type)

/-- `try: … except FAILURES` -/
def onFailure {α : Type} (x : Gate α) (handle : String → Gate α) : Gate α :=
  tryCatch x fun
    | .failure type => handle type
    | .other => throw .other

end Gate

open Gate

/-! ## Identity of a pull request -/

/-- What is read from `policy`. -/
structure Policy where
  repo : String
  baseBranch : String
  /-- `intake.dependency_pr_author_ids`, if that is a list. -/
  authorIds : Option (List Int)
  excludeLabels : List String
  deriving DecidableEq, Repr

structure Config where
  enabled : Bool
  token : Option String
  /-- `FACTORY_DEPENDENCY_GATE_APP_ID`, if it is a number. -/
  appId : Option Int
  /-- `str.lower` -/
  lower : String → String

def checkName : String := "factory/dependency-evidence"

def maxEvaluationSeconds : Int := 60

/-- `SHA.fullmatch` -/
def isSha (s : String) : Bool :=
  s.toList.length == 40 &&
    s.toList.all fun c => ('0' ≤ c && c ≤ '9') || ('a' ≤ c && c ≤ 'f')

/-- `[A-Za-z0-9_.-]+/[A-Za-z0-9_.-]+` -/
def isRepo (s : String) : Bool :=
  let part := fun cs : List Char => cs != [] &&
    cs.all fun c => c.isAlphanum || c == '_' || c == '.' || c == '-'
  part (s.toList.takeWhile (· ≠ '/')) && part ((s.toList.dropWhile (· ≠ '/')).drop 1)

section

variable (cfg : Config) (policy : Policy)

def dependency (pull : Pull) : Fallible Bool := do
  let user ← field pull.user
  let id ← field user.id
  require (decide (0 < id))
  let type ← field user.type
  require (type == "User" || type == "Bot")
  let login ← field user.login
  require (login != "")
  match policy.authorIds with
  | none => throw valueError
  | some ids =>
    require (ids.all fun value => decide (0 < value))
    if ids.contains id || type == "Bot" then pure true
    else
      let ref ← field pull.headRef
      let name := (cfg.lower ref).toList
      pure ("renovate/".toList.isPrefixOf name || "dependabot/".toList.isPrefixOf name)

def validatePull (pull : Pull) (number : Int) (head : String) : Fallible Unit := do
  require ((← field pull.number) == number)
  require ((← field pull.state) == "open")
  require ((← field pull.draft) == false)
  require ((← field pull.headSha) == head)
  require (isSha head)
  require ((← field pull.baseRef) == policy.baseBranch)
  require (cfg.lower (← field pull.baseRepo) == cfg.lower policy.repo)
  require (cfg.lower (← field pull.headRepo) == cfg.lower policy.repo)

def holdWords : List String :=
  ["hold", "blocked", "needs-human", "do-not-merge", "manual", "agent-skip"]

/-- Source: `dependency_prs.py`, `ownership_held` -/
def ownershipHeld (pull : Pull) : Fallible Bool := do
  let excluded := policy.excludeLabels.map cfg.lower
  let labels ← pull.labels.mapM field
  let labels := labels.map cfg.lower
  pure (pull.assigned || labels.any (fun l => excluded.contains l || l == "human") ||
    labels.any fun l => holdWords.any fun w => l.toList.tails.any w.toList.isPrefixOf)

/-- Source: `evaluate` -/
def evaluate (pull : Pull) (entry : Option Entry) : Gate (String × Option Approval) := do
  let head ← given (field pull.headSha)
  let number ← given (field pull.number)
  given (validatePull cfg policy pull number head)
  if ← given (dependency cfg policy pull) then
    let approved ← evidence pull entry
    pure ("independent safe assessments match fresh dependency evidence", some approved)
  else pure ("non-dependency PR", none)

/-! ## Publication -/

/-- Audits never block: their failures are dropped. -/
def safeAudit (action : Action) : Gate Unit := onFailure (audit action) fun _ => pure ()

/-- One row of the inventory, in a form `already_published` goes on with. -/
def CheckRun.wellFormed (row : CheckRun) (head : String) : Bool :=
  row.id.any (fun id => decide (0 < id)) && row.name == some checkName &&
    row.headSha == some head &&
    row.appId.any (fun id => decide (0 < id)) &&
    row.status.any (fun s => ["queued", "in_progress", "completed"].contains s) &&
    row.conclusion.any fun c => c.all fun c =>
      ["success", "failure", "neutral", "cancelled", "skipped", "timed_out", "action_required",
        "stale"].contains c

/-- `max(owned, key=lambda row: row["id"], default=None)` -/
def latest : List CheckRun → Option CheckRun
  | [] => none
  | row :: rows =>
    match latest rows with
    | none => some row
    | some best => if best.id.getD 0 ≤ row.id.getD 0 then some row else some best

/-- Whether a complete inventory has a check run of this app with that conclusion as its latest. -/
def Inventory.latestIs (body : Inventory) (appId : Int) (head : String) (conclusion : Conclusion) :
    Bool :=
  match body.checkRuns with
  | none => false
  | some rows =>
    body.totalCount == some (rows.length : Int) && decide (rows.length ≤ 100) &&
      rows.all (·.wellFormed head) && decide ((rows.map (·.id)).Nodup) &&
      (latest (rows.filter fun row => row.appId == some appId)).any fun row =>
        row.status == some "completed" && row.conclusion == some (some conclusion.text)

/-- The latest check run of the head has this conclusion. -/
def alreadyPublished (head : String) (conclusion : Conclusion) : Gate Bool :=
  match cfg.appId with
  | none => pure false
  | some appId =>
    onFailure
      (do
        let body ← inventory head
        pure (body.latestIs appId head conclusion))
      fun _ => pure false

/-- The post itself, once nothing makes it superfluous. -/
def postCheck (head : String) (conclusion : Conclusion) (reason : String) : Gate Unit := do
  let id ← post head conclusion reason
  match id with
  | none => throw (.failure valueError)
  | some id =>
    if id ≤ 0 then throw (.failure valueError)
    else safeAudit (.published head conclusion id)

/-- Whether a success comes too late for its deadline. -/
def late : Conclusion → Option Int → Gate Bool
  | .success, some deadline => do
    let now ← clock
    pure (decide (deadline ≤ now))
  | _, _ => pure false

/-- Posts a check run, unless it is there already. -/
def publish (head : String) (conclusion : Conclusion) (reason : String) (deadline : Option Int) :
    Gate Unit := do
  let previousMatches ← alreadyPublished cfg head conclusion
  if ← late conclusion deadline then
    postCheck head .failure "dependency evidence collection exceeded freshness bound"
  else if previousMatches then pure ()
  else postCheck head conclusion reason

/-! ## One candidate -/

/-- Source: `_approved_head_moved` -/
def approvedHeadMoved (latest : Pull) (approved : Approval) : Bool :=
  match latest.headSha, approved.headSha with
  | some sha, some sha' =>
    sha != sha' ||
      match latest.user.bind User.id, approved.authorId with
      | some id, some id' => id != id'
      | _, _ => false
  | _, _ => false

/-- The identity of the pull request, when it is looked at for the last time. -/
def validateAgain (pull latest : Pull) : Fallible Unit := do
  let number ← field pull.number
  let head ← field pull.headSha
  validatePull cfg policy latest number head

/-- Its author and base are as they were. -/
def unmoved (pull latest : Pull) : Fallible Unit := do
  let user ← field latest.user
  let user' ← field pull.user
  require (user == user')
  let base ← field latest.baseSha
  let base' ← field pull.baseSha
  require (base == base')

/-- The last look at the pull request, and whether a hold was seen. -/
def settle (pull latest : Pull) (approved : Option Approval) : Bool × Fallible Unit :=
  match validateAgain cfg policy pull latest with
  | .error e => (false, .error e)
  | .ok () =>
    match approved with
    | none => (false, unmoved pull latest)
    | some _ =>
      match ownershipHeld cfg policy latest with
      | .error e => (false, .error e)
      | .ok true => (true, .error valueError)
      | .ok false => (false, unmoved pull latest)

/-- The queue read again: it still starts with the entries. -/
def rereadQueue : Option (List Entry) → Gate Unit
  | none => pure ()
  | some entries => do
    let now ← queue
    given (require (now.take entries.length == entries))

/-- What follows from the last look: a positively observed change invalidates the approval. -/
def settled (number : Int) (latest : Pull) (approved : Option Approval) (held : Bool) :
    Fallible Unit → Gate Unit
  | .ok () => pure ()
  | .error type =>
    match approved with
    | none => throw (.failure type)
    | some approval =>
      if held || approvedHeadMoved latest approval then do
        safeAudit (.approvalInvalidated approval.receiptId approval.taskId number)
        throw (.failure type)
      else throw (.failure type)

variable (c : Candidate)

/-- The final rereads: the queue, then the pull request. -/
def revalidate (approved : Option Approval) : Gate Unit := do
  rereadQueue c.queued
  let number ← given (field c.pull.number)
  let latest ← pull number
  settled number latest approved (settle cfg policy c.pull latest approved).1
    (settle cfg policy c.pull latest approved).2

/-- A group of several entries: none may be a dependency pull request. -/
def checkMembers : List Entry → Gate Unit
  | [] => pure ()
  | entry :: entries => do
    let member ← pull entry.number
    given (validatePull cfg policy member entry.number entry.headRefOid)
    given (do require (!(← dependency cfg policy member)))
    checkMembers entries

/-- The checks proper, of a group or of one pull request. -/
def examine : Gate (String × Option Approval) :=
  match c.queued with
  | some (first :: second :: rest) => do
    checkMembers cfg policy (first :: second :: rest)
    pure ("non-dependency merge group", none)
  | some [entry] => evaluate cfg policy c.pull (some entry)
  | _ => evaluate cfg policy c.pull none

/-- What `check` tries: the reason of a success, or it raises. -/
def assess : Gate String := do
  let (reason, approved) ← examine cfg policy c
  revalidate cfg policy c approved
  pure reason

/-- The head a candidate is checked for. -/
def Candidate.head : Fallible String :=
  match c.queued.bind List.getLast? with
  | some entry => .ok entry.headOid
  | none => field c.pull.headSha

/-- The conclusion on each head, and why. -/
abbrev Results := Table String (Conclusion × String)

/-- `results[head] = (conclusion, reason)`, failure dominating. -/
def record (results : Results) (head : String) (conclusion : Conclusion)
    (reason : String) : Results :=
  if (results.lookup head).isNone ∨ conclusion = .failure then
    results.insert head (conclusion, reason)
  else results

/-- Source: `check`, with `results`. -/
def check (results : Results) : Gate Results := do
  let head ← given c.head
  let (conclusion, reason) ←
    onFailure
      (do
        let reason ← assess cfg policy c
        pure (Conclusion.success, reason))
      fun type => do
        safeAudit (.refused head type)
        pure (.failure, "dependency evidence unavailable, changed or unapproved")
  note (.concluded head c conclusion)
  pure (record results head conclusion reason)

/-! ## The tick -/

/-- `targets`, in the order its keys were first set. -/
abbrev Targets := List (String × List Candidate)

/-- `targets.setdefault(head, []).append(candidate)` -/
def addTarget (head : String) (c : Candidate) : Targets → Targets
  | [] => [(head, [c])]
  | (head', cs) :: targets =>
    if head' = head then (head', cs ++ [c]) :: targets
    else (head', cs) :: addTarget head c targets

/-- Source: `dependency_prs.py`, `_pages`; `MAX_ROWS // 100` pages are left to read at first. -/
def pages (rows : List Pull) (n : Nat) : (left : Nat) → Gate (List Pull)
  | 0 => throw (.failure valueError)
  | left + 1 => do
    let batch ← page n
    if batch.length < 100 then pure (rows ++ batch)
    else pages (rows ++ batch) (n + 1) left

def readPulls : List Pull → Targets → Gate Targets
  | [], targets => pure targets
  | listed :: rows, targets => do
    let number ← given (field listed.number)
    let found ← pull number
    let head ← given (field found.headSha)
    note (.found head ⟨found, none⟩)
    readPulls rows (addTarget head ⟨found, none⟩ targets)

/-- The entries before and after the one at hand. -/
def readQueue : (before after : List Entry) → Targets → Gate Targets
  | _, [], targets => pure targets
  | before, entry :: after, targets => do
    let found ← pull entry.number
    let c : Candidate := ⟨found, some (before ++ [entry])⟩
    note (.found entry.headOid c)
    readQueue (before ++ [entry]) after (addTarget entry.headOid c targets)

def checkAll : List Candidate → Results → Gate Results
  | [], results => pure results
  | c :: cs, results => do
    let results ← check cfg policy c results
    checkAll cs results

def publishTarget (head : String) (candidates : List Candidate) : Gate Unit := do
  let started ← clock
  let results ← checkAll cfg policy candidates ∅
  let (conclusion, reason) ← given (field (results.lookup head))
  publish cfg head conclusion reason (some (started + maxEvaluationSeconds))

/-- All targets are tried; the first failure is kept. -/
def publishTargets : Targets → Option String → Gate (Option String)
  | [], failed => pure failed
  | (head, candidates) :: targets, failed => do
    let raised ← onFailure
      (do
        publishTarget cfg policy head candidates
        pure none)
      fun type => do
        safeAudit (.skipped "failure_publication_unavailable" type)
        pure (some type)
    publishTargets targets (failed.or raised)

/-- A failure is published on the head, if that goes. -/
def revoke (head : Option String) : Gate Unit :=
  onFailure
    (do
      let head ← given (field head)
      publish cfg head .failure "gate discovery unavailable" none)
    fun type => safeAudit (.skipped "failure_publication_unavailable" type)

def revokeAll : List (Option String) → Gate Unit
  | [] => pure ()
  | head :: heads => do
    revoke cfg head
    revokeAll heads

/-- What `tick` returns. -/
inductive TickResult where
  | disabled
  | tokenMissing
  | checked (pulls queueEntries : Nat)
  | refused
  deriving DecidableEq, Repr

/-- What discovery found, or what it knew when it failed (`locals()`). -/
inductive Discovery where
  | complete (rows : List Pull) (entries : List Entry) (targets : Targets)
  | lost (rows : List Pull) (entries : List Entry) (type : String)
  deriving DecidableEq, Repr

/-- `x`, and on a failure what was known before it. -/
def orLost (x : Gate Discovery) (rows : List Pull) (entries : List Entry) : Gate Discovery :=
  onFailure x fun type => pure (.lost rows entries type)

/-- Reads the listing, the queue and each pull request. -/
def discover : Gate Discovery :=
  orLost
    (do
      given (require (isRepo policy.repo))
      let rows ← pages [] 1 5
      orLost
        (do
          let entries ← queue
          orLost
            (do
              let targets ← readPulls rows []
              let targets ← readQueue [] entries targets
              pure (.complete rows entries targets))
            rows entries)
        rows [])
    [] []

/-- The handler of the tick: every head it knows of is revoked. -/
def refuse (rows : List Pull) (entries : List Entry) (type : String) : Gate TickResult := do
  safeAudit (.skipped "github_or_evidence_unavailable" type)
  revokeAll cfg (rows.map (·.headSha) ++ entries.map fun e => some e.headOid)
  pure .refused

/-- The tick after discovery. -/
def conclude : Discovery → Gate TickResult
  | .lost rows entries type => refuse cfg rows entries type
  | .complete rows entries targets => do
    let failed ← publishTargets cfg policy targets none
    match failed with
    | none => pure (.checked rows.length entries.length)
    | some type => refuse cfg rows entries type

/-- Source: `tick` -/
def tick : Gate TickResult :=
  if !cfg.enabled then pure .disabled
  else if cfg.token.getD "" == "" then pure .tokenMissing
  else do
    let found ← discover policy
    conclude cfg policy found

end

end Homelab.Factory.DependencyGate
