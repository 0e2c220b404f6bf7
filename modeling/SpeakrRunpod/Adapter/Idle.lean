import Mathlib.Data.Finset.Basic
import SpeakrRunpod.Adapter.PodState
import SpeakrRunpod.Adapter.Runpod

/-!
# The idle timer and the request handler

`adapter/idle.py` and the `/asr` handler of `app.py`.  The controller counts the requests in
flight and owns one timer task, which it cancels when a request starts and replaces when one ends.

Timer tasks are numbered in the order of their creation.  `asyncio` gives a cancelled task a
`CancelledError` at its next resumption, whatever it waits for: `cancelling` are the tasks that
have this to come.

* `Controller.requestStarted`, `Controller.requestFinished` — the two methods.
* `releaseAfterIdleDelay` — the timer task; `idleTask` is the task together with its first step,
  before which it can be cancelled as well.
* `asr` — the handler.
-/

namespace SpeakrRunpod

open Coop

/-- `IdleReleaseController`, with what `asyncio` keeps about its tasks. -/
structure Controller where
  activeRequests : ℤ
  idleStopTask : Option ℕ
  /-- how many timer tasks have been created -/
  created : ℕ
  /-- the tasks that have been cancelled and not been resumed since -/
  cancelling : Finset ℕ
  /-- the tasks that have ended -/
  done : Finset ℕ
  deriving DecidableEq

namespace Controller

/-- `IdleReleaseController(config, runpod)`. -/
def new : Controller where
  activeRequests := 0
  idleStopTask := none
  created := 0
  cancelling := ∅
  done := ∅

/-- `self._idle_stop_task and not self._idle_stop_task.done()`: the timer that is still there. -/
def pending (c : Controller) : Option ℕ :=
  c.idleStopTask.filter fun n => n ∉ c.done

/-- `self._idle_stop_task.cancel()`, where there is a timer to cancel. -/
def cancelPending (c : Controller) : Controller :=
  match c.pending with
  | some n => { c with cancelling := insert n c.cancelling }
  | none => c

/-- `request_started`.  The label for the log line, which reads the active pod id, is only formed
when a timer is cancelled. -/
def requestStarted (c : Controller) (label : Except Exn String) : Except Exn Unit × Controller :=
  let c' := { c with activeRequests := c.activeRequests + 1 }
  (if c'.pending.isSome then label.map fun _ => () else .ok (), c'.cancelPending)

/-- `_schedule_idle_release`, once the label has been formed. -/
def createTimer (c : Controller) : Controller :=
  { c with idleStopTask := some c.created, created := c.created + 1 }

/-- `request_finished`.  No timer is created when forming the label raises. -/
def requestFinished (c : Controller) (label : Except Exn String) : Except Exn Unit × Controller :=
  let c' := { c with activeRequests := c.activeRequests - 1 }.cancelPending
  match label with
  | .ok _ => (.ok (), c'.createTimer)
  | .error e => (.error e, c')

/-- A task that was cancelled has been resumed. -/
def delivered (c : Controller) (n : ℕ) : Controller :=
  { c with cancelling := c.cancelling.erase n }

/-- A task has ended. -/
def finish (c : Controller) (n : ℕ) : Controller :=
  { c with done := insert n c.done, cancelling := c.cancelling.erase n }

end Controller

namespace Controller

variable (c : Controller) (label : Except Exn String)

@[simp] lemma cancelPending_activeRequests :
    c.cancelPending.activeRequests = c.activeRequests := by
  unfold cancelPending
  split <;> rfl

@[simp] lemma cancelPending_idleStopTask : c.cancelPending.idleStopTask = c.idleStopTask := by
  unfold cancelPending
  split <;> rfl

@[simp] lemma cancelPending_created : c.cancelPending.created = c.created := by
  unfold cancelPending
  split <;> rfl

@[simp] lemma cancelPending_done : c.cancelPending.done = c.done := by
  unfold cancelPending
  split <;> rfl

lemma mem_cancelPending {n : ℕ} :
    n ∈ c.cancelPending.cancelling ↔ n ∈ c.cancelling ∨ c.pending = some n := by
  unfold cancelPending
  cases c.pending with
  | none => simp
  | some m => simp [or_comm, eq_comm]

lemma pending_eq_some {n : ℕ} : c.pending = some n ↔ c.idleStopTask = some n ∧ n ∉ c.done := by
  simp [pending, Option.filter_eq_some_iff]

@[simp] lemma requestStarted_activeRequests :
    (c.requestStarted label).2.activeRequests = c.activeRequests + 1 := by
  simp [requestStarted]

@[simp] lemma requestFinished_activeRequests :
    (c.requestFinished label).2.activeRequests = c.activeRequests - 1 := by
  cases label <;> simp [requestFinished, createTimer]

end Controller

/-! ## The timer task -/

variable (cfg : AdapterConfig)

/-- `if delay > 0: await asyncio.sleep(delay)`. -/
def idleDelay : Adapter Unit :=
  if 0 < cfg.runpodIdleStopSeconds then Adapter.sleep cfg.runpodIdleStopSeconds else pure ()

/-- The `try` of `_release_after_idle_delay`.  Both log lines read the active pod id for their
label. -/
def releaseIfQuiet : Adapter Unit := do
  idleDelay cfg
  let active ← Adapter.activeRequests
  let _ ← Adapter.load
  if active ≠ 0 then pure ()
  else do
    Adapter.note .releaseEntered
    Async.tryFinally (releaseIdlePod cfg) (Adapter.note .releaseLeft)

/-- `_release_after_idle_delay`. -/
def releaseAfterIdleDelay : Adapter Unit := do
  match ← Async.attempt (releaseIfQuiet cfg) with
  | .ok () => pure ()
  | .error e => if e = .cancelledError then pure () else throw e

def idleTask : Adapter Unit := do
  Adapter.firstStep
  releaseAfterIdleDelay cfg

/-! ## The request handler -/

/-- The `except` clauses of `asr`. -/
def errorReply : Exn → Except Exn Reply
  | .configurationError m => .ok ⟨500, m, none⟩
  | .runPodTimeoutError m => .ok ⟨504, m, none⟩
  | .temporaryRunPodError m | .runPodNotFoundError m | .requestError .connectError m
  | .requestError .remoteProtocolError m => .ok ⟨503, m, some cfg.runpodRetryAfterSeconds⟩
  | .requestError .connectTimeout _ | .requestError .readTimeout _
  | .requestError .writeTimeout _ | .requestError .poolTimeout _ =>
      .ok ⟨504, "RunPod transcription timed out", none⟩
  | .badUpstreamResponseError m => .ok ⟨502, m, none⟩
  | e => .error e

/-- The `try` of `asr`. -/
def answerRequest (rounds : ℕ) : Adapter Reply := do
  match ← Async.attempt (do let url ← ensureReady cfg rounds; Adapter.forward url) with
  | .ok reply => pure reply
  | .error e => Async.ofExcept (errorReply cfg e)

/-- `asr`, from the moment the body has been spooled. -/
def asr (rounds : ℕ) : Adapter Reply := do
  Adapter.arrive
  Adapter.requestStarted
  Async.tryFinally (answerRequest cfg rounds) Adapter.requestFinished

end SpeakrRunpod
