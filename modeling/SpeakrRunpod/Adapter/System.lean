import Mathlib.Data.Finset.Option
import SpeakrRunpod.Adapter.Idle
import SpeakrRunpod.Core.Cooperative

/-!
# One adapter process and RunPod

The semantics of the adapter's operations: what they do to the pod store, the manager's lock and
the idle controller, and what RunPod does with the calls it is sent.  A run interleaves any number
of requests and timer tasks at the points where they wait.

RunPod's side is the set of pods that run.  A deploy that has been sent may create its pod at any
moment before the reply, and a pod may go away at any moment, which is also how a mutation takes
effect whose caller was cancelled.  A `Policy` restricts the replies; the assumptions of a
statement about RunPod are its policy.

* `World` — the state, with the ghost fields that statements about runs refer to.
* `World.exec`, `World.issue`, `World.answer?` — the operations.
* `system` — the runtime.
-/

namespace SpeakrRunpod

open Coop

inductive TaskId
  | request (n : ℕ)
  | idle (n : ℕ)
  deriving DecidableEq

def TaskId.isIdle : TaskId → Bool
  | .idle _ => true
  | .request _ => false

/-- What statements about whole runs refer to. -/
inductive Event
  /-- a deploy was sent while these pods were alive -/
  | deploySent (alive : Finset String)
  | deployed (podId : String)
  | terminateFailed (podId : String) (store : ActivePodStore) (file : StateFile)
  | dropped (podId : String)
  | replaced (old new : String)
  deriving DecidableEq

structure World where
  /-- what the next calls of `time()` return -/
  readings : ℕ → ℚ
  store : ActivePodStore
  file : StateFile
  /-- the holder of the manager's lock -/
  lock : Option TaskId
  controller : Controller
  /-- the requests between `request_started` and `request_finished` -/
  inFlight : Finset TaskId
  /-- the tasks that are executing `release_idle_pod` -/
  releasing : Finset TaskId
  /-- the pods that run and whose deploy has been answered -/
  live : Finset String
  /-- a deploy has been sent and not been answered -/
  deploying : Bool
  /-- the pod that this deploy has created -/
  pending : Option String
  /-- the pods whose address `ensure_ready` has returned, until they end or are reported missing -/
  served : Finset String
  /-- newest first -/
  log : List Event

namespace World

/-- `load_active_pod_id()`. -/
def load (w : World) : Except Exn String := w.store.load w.file

/-- Every pod that runs. -/
def alive (w : World) : Finset String := w.live ∪ w.pending.toFinset

def openState (w : World) (p : String) : World :=
  { w with store := (w.store.openState w.file p).1, file := (w.store.openState w.file p).2 }

def writeState (w : World) (p : String) : World :=
  { w with file := w.store.writeState w.file p }

/-- `self._active_pod_store.clear(pod_id)`. -/
def clear (w : World) (p : String) : World :=
  { w with store := (w.store.clear w.file (some p)).1, file := (w.store.clear w.file (some p)).2 }

/-- `request_started()` of the request `i`. -/
def requestStarted (w : World) (i : TaskId) : World :=
  { w with
    controller := (w.controller.requestStarted w.load).2
    inFlight := insert i w.inFlight }

/-- `request_finished()` of the request `i`. -/
def requestFinished (w : World) (i : TaskId) : World :=
  { w with
    controller := (w.controller.requestFinished w.load).2
    inFlight := w.inFlight.erase i }

def noted (w : World) (i : TaskId) : Note → World
  | .ready p _ => { w with served := if p ∈ w.live then insert p w.served else w.served }
  | .dropped p => { w with log := .dropped p :: w.log }
  | .replaced p q => { w with log := .replaced p q :: w.log }
  | .releaseEntered => { w with releasing := insert i w.releasing }
  | .releaseLeft => { w with releasing := w.releasing.erase i }

/-- The synchronous operations. -/
def exec (i : TaskId) : (o : Op) → World → Option (o.Res × World)
  | .requestStarted, w => some ((w.controller.requestStarted w.load).1, w.requestStarted i)
  | .requestFinished, w => some ((w.controller.requestFinished w.load).1, w.requestFinished i)
  | .activeRequests, w => some (w.controller.activeRequests, w)
  | .time, w => some (w.readings 0, { w with readings := fun n => w.readings (n + 1) })
  | .load, w => some (w.load, w)
  | .openState p, w => some ((), w.openState p)
  | .writeState p, w => some ((), w.writeState p)
  | .clear p, w => some ((), w.clear p)
  -- an `asyncio.Lock` that is free is taken without waiting
  | .acquireLock, w => if w.lock = none then some (.ok (), { w with lock := some i }) else none
  | .releaseLock, w => some ((), { w with lock := none })
  | .note n, w => some ((), w.noted i n)
  | _, _ => none

/-- A deploy is sent. -/
def deploySent (w : World) : World :=
  { w with deploying := true, log := .deploySent w.alive :: w.log }

/-- What sending a request does. -/
def issue (_ : TaskId) : Op → World → World
  | .graphql (.podFindAndDeployOnDemand _), w => w.deploySent
  | _, w => w

/-- RunPod has reported the pod missing. -/
def reportedMissing (w : World) (p : String) : World := { w with served := w.served.erase p }

/-- The pod is gone. -/
def gone (w : World) (p : String) : World :=
  { w with
    live := w.live.erase p
    served := w.served.erase p
    pending := w.pending.filter (· ≠ p) }

/-- The deploy that was sent has been answered: what it created counts as live. -/
def deployAnswered (w : World) : World :=
  { w with live := w.alive, pending := none, deploying := false }

/-- It was answered with the id `q`. -/
def deployed (w : World) (q : String) : World :=
  { w.deployAnswered with log := .deployed q :: w.log }

/-- A `podTerminate` has failed. -/
def terminateFailed (w : World) (p : String) : World :=
  { w with log := .terminateFailed p w.store w.file :: w.log }

/-- The answer to `podTerminate`. -/
def terminateAnswered (w : World) (p : String) : Except Exn Json → World
  | .ok _ => w.gone p
  | .error e =>
      if e.isNotFound then w.reportedMissing p
      else w.terminateFailed p

/-- What the answer to a GraphQL call tells. -/
def graphqlAnswered (w : World) : GraphqlCall → Except Exn HttpAnswer → World
  | .pod p, r =>
      match podOutcome p r with
      | .ok _ => w
      | .error e => if e.isNotFound then w.reportedMissing p else w
  | .podTerminate p, r => w.terminateAnswered p ((GraphqlCall.podTerminate p).outcome r)
  | .podFindAndDeployOnDemand input, r =>
      match deployOutcome input r with
      | .ok q => w.deployed q
      | .error _ => w.deployAnswered
  | .podResume _ _, _ => w
  | .podStop _, _ => w

lemma graphqlAnswered_deploy_ok (w : World) {input : DeployInput} {r : Except Exn HttpAnswer}
    {q : String} (h : deployOutcome input r = .ok q) :
    w.graphqlAnswered (.podFindAndDeployOnDemand input) r = w.deployed q := by
  rw [graphqlAnswered, h]

lemma graphqlAnswered_deploy_error (w : World) {input : DeployInput} {r : Except Exn HttpAnswer}
    {e : Exn} (h : deployOutcome input r = .error e) :
    w.graphqlAnswered (.podFindAndDeployOnDemand input) r = w.deployAnswered := by
  rw [graphqlAnswered, h]

/-- A status query changes nothing, unless it reports the pod missing. -/
lemma graphqlAnswered_pod (w : World) (p : String) (r : Except Exn HttpAnswer) :
    w.graphqlAnswered (.pod p) r = w ∨ w.graphqlAnswered (.pod p) r = w.reportedMissing p := by
  rw [graphqlAnswered]
  split
  · exact .inl rfl
  · split_ifs
    · exact .inr rfl
    · exact .inl rfl

/-- The effect of an answer on a task that has not been cancelled. -/
def effect (i : TaskId) : (o : Op) → o.Res → World → Option World
  | .arrive, _, w => some w
  | .firstStep, _, w =>
      match i with
      | .idle n => if n < w.controller.created then some w else none
      | .request _ => none
  | .acquireLock, .ok (), w => if w.lock = none then some { w with lock := some i } else none
  | .acquireLock, .error _, w => some w
  | .graphql call, r, w => some (w.graphqlAnswered call r)
  | .sleep _, _, w => some w
  | .acquireDeployLock, _, w => some w
  | .releaseDeployLock, _, w => some w
  | .health _, _, w => some w
  | .podLogs _, _, w => some w
  | .forward _, _, w => some w
  | _, _, _ => none

end World

/-- The task has been cancelled and not been resumed since. -/
def Controller.cancels (c : Controller) : TaskId → Bool
  | .idle n => n ∈ c.cancelling
  | .request _ => false

def raisesCancelled {α : Type} : Except Exn α → Bool
  | .error .cancelledError => true
  | _ => false

lemma raisesCancelled_iff {α : Type} {r : Except Exn α} :
    raisesCancelled r = true ↔ r = .error .cancelledError := by
  rcases r with e | a
  · cases e <;> simp [raisesCancelled]
  · simp [raisesCancelled]

/-- The answer is a `CancelledError`. -/
def Op.isCancelled : (o : Op) → o.Res → Bool
  | .firstStep, r => raisesCancelled r
  | .sleep _, r => raisesCancelled r
  | .acquireLock, r => raisesCancelled r
  | .acquireDeployLock, r => raisesCancelled r
  | .releaseDeployLock, r => raisesCancelled r
  | .graphql _, r => raisesCancelled r
  | .health _, r => raisesCancelled r
  | .podLogs _, r => raisesCancelled r
  | .forward _, r => raisesCancelled r
  | _, _ => false

namespace World

/-- A cancelled task has been resumed. -/
def delivered (w : World) : TaskId → World
  | .idle n => { w with controller := w.controller.delivered n }
  | .request _ => w

/-- The answer `r` to a waiting task.  A timer task sees a `CancelledError` exactly when it has been
cancelled. -/
def answer? (i : TaskId) (o : Op) (r : o.Res) (w : World) : Option World :=
  if w.controller.cancels i then
    if o.isCancelled r then some (w.delivered i) else none
  else
    match i with
    | .idle _ => if o.isCancelled r then none else w.effect i o r
    | .request _ => w.effect i o r

/-- A task has ended. -/
def exit (w : World) : TaskId → World
  | .idle n => { w with controller := w.controller.finish n }
  | .request _ => w

/-- The state in which the process starts: the pod store may hold anything, in memory and in the
file, that its configuration lets it hold, and any pods may be running. -/
structure Boots (cfg : AdapterConfig) (w : World) : Prop where
  configured : w.store.configuredPodId = cfg.runpodPodId
  memory : cfg.runpodPodId ≠ "" → w.store.activePodId = cfg.runpodPodId
  path : w.store.path = cfg.runpodActivePodIdPath
  lock : w.lock = none
  controller : w.controller = .new
  inFlight : w.inFlight = ∅
  releasing : w.releasing = ∅
  deploying : w.deploying = false
  pending : w.pending = none
  served : w.served = ∅
  log : w.log = []

/-- The process started on the state file `file` while the pods `live` run. -/
def boot (cfg : AdapterConfig) (file : StateFile) (live : Finset String) : World where
  readings := fun _ => 0
  store := .new cfg.runpodPodId cfg.runpodActivePodIdPath
  file := file
  lock := none
  controller := .new
  inFlight := ∅
  releasing := ∅
  live := live
  deploying := false
  pending := none
  served := ∅
  log := []

lemma boots_boot (cfg : AdapterConfig) (file : StateFile) (live : Finset String) :
    (boot cfg file live).Boots cfg :=
  ⟨rfl, fun _ => rfl, rfl, rfl, rfl, rfl, rfl, rfl, rfl, rfl, rfl⟩

/-- A process in template mode that finds the running pod `old` on record. -/
def bootRecorded : World := boot .template ⟨.text "old", none, false⟩ {"old"}

/-- What happens without the adapter. -/
inductive Env : World → World → Prop
  | clock (w : World) (readings : ℕ → ℚ) : Env w { w with readings }
  | gone (w : World) (p : String) : Env w (w.gone p)
  | creates (w : World) (p : String) (h : w.deploying) (h' : w.pending = none) :
      Env w { w with pending := some p }

end World

/-- Which answers there are. -/
abbrev Policy := TaskId → (o : Op) → o.Res → World → Prop

/-- The adapter process against a RunPod that answers by the policy. -/
def system (policy : Policy) : Runtime adapterInterface TaskId World where
  exec := World.exec
  issue := World.issue
  answer i o r w w' := policy i o r w ∧ w.answer? i o r = some w'
  exit i w := w.exit i
  env := World.Env

/-- The answer `r`, where the policy allows it. -/
def World.reply? (policy : Policy) [∀ i o r w, Decidable (policy i o r w)] (i : TaskId) (o : Op)
    (r : o.Res) (w : World) : Option World :=
  if policy i o r w then w.answer? i o r else none

lemma World.reply?_answer {policy : Policy} [∀ i o r w, Decidable (policy i o r w)] {i : TaskId}
    {o : Op} {r : o.Res} {w w' : World} (h : World.reply? policy i o r w = some w') :
    (system policy).answer i o r w w' := by
  rw [World.reply?] at h
  split_ifs at h with hp
  exact ⟨hp, h⟩

/-- The answer of a server that fails. -/
def serverError : Except Exn HttpAnswer :=
  .ok { status := 500, text := "", json := .error (.valueError ""), errorsText := "" }

/-- An answer of RunPod that carries a document. -/
def jsonAnswer (payload : Json) : Except Exn HttpAnswer :=
  .ok { status := 200, text := "", json := .ok payload, errorsText := "" }

end SpeakrRunpod
