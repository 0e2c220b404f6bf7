import SpeakrRunpod.Adapter.RunpodClient

/-!
# The pod manager

`adapter/runpod.py`: `RunPodManager`, with `drain_cloud_pod_logs`, which it calls.  The two loops
are given a bound on their rounds (see `Prog.loop`); what is said of every bound is said of the
loops.  Variables that only feed log lines are left out.

* `deployFromTemplateWithRetry` — the deploy loop, the only place a pod is bought.
* `replacePod` — the deploy loop where it replaces a pod that was terminated or found missing.
* `getOrDeployPod`, `handlePodWithoutMapping`, `waitUntilReady` — the three steps of
  `ensureReady`, which run under the manager's lock.
* `terminate` — the mutation, then the store's `clear` whatever became of it.
* `releaseIdlePod` — the release at the end of an idle period, which takes no lock.
-/

namespace SpeakrRunpod

open Coop

variable (cfg : AdapterConfig)

/-! ## Deploying -/

/-- `async with self._deploy_lock(): …`. -/
def withDeployLock {α : Type} (body : Adapter α) : Adapter α := do
  Adapter.acquireDeployLock
  Async.tryFinally body Adapter.releaseDeployLock

/-- The body of the deploy lock: look once more, then buy a pod and record it. -/
def deployUnderLock : Adapter String := do
  let existing ← Adapter.load
  if existing ≠ "" then pure existing
  else do
    let podId ← deployFromTemplate cfg
    Adapter.store podId
    pure podId

/-- `except (httpx.HTTPError, RunPodTimeoutError, ConfigurationError): raise`, and what
`except Exception` does not catch. -/
def deployReraises : Exn → Bool
  | .runPodTimeoutError _ | .configurationError _ => true
  | e => e.isHttpError || !e.isException

/-- One round of the deploy loop; the state is `last_error`. -/
def deployRound (deadline : ℚ) (lastError : String) : Adapter (String ⊕ String) := do
  let now ← Adapter.time
  if now < deadline then do
    let existing ← Adapter.load
    if existing ≠ "" then pure (.inr existing)
    else do
      match ← Async.attempt (withDeployLock (deployUnderLock cfg)) with
      | .ok podId => pure (.inr podId)
      | .error e =>
          if deployReraises e then throw e
          else do
            Adapter.sleep cfg.runpodPollIntervalSeconds
            pure (.inl e.text)
  else throw (.runPodTimeoutError ("Timed out while deploying RunPod pod: " ++ lastError))

/-- `_deploy_from_template_with_retry`. -/
def deployFromTemplateWithRetry (rounds : ℕ) (deadline : ℚ) : Adapter String :=
  Async.loop (deployRound cfg deadline) rounds "RunPod deploy did not complete"

/-! ## Terminating -/

/-- The body of `_terminate`'s `try`: a pod that is already gone counts as terminated. -/
def terminateOrGone (podId : String) : Adapter Unit := do
  match ← Async.attempt (terminatePod cfg podId) with
  | .ok () => pure ()
  | .error e => if e.isNotFound then pure () else throw e

/-- `_terminate`. -/
def terminate (podId : String) : Adapter Unit :=
  Async.tryFinally (terminateOrGone cfg podId) (Adapter.clear podId)

/-! ## Getting a pod ready -/

def configured : Adapter Bool := do
  let podId ← Adapter.load
  pure (cfg.runpodApiKey ≠ "" ∧ (podId ≠ "" ∨ cfg.runpodTemplateId ≠ "") ∧
    cfg.adapterWhisperxToken ≠ "" : Bool)

/-- `_deploy_from_template_with_retry`, called for a replacement of the pod `podId`. -/
def replacePod (rounds : ℕ) (deadline : ℚ) (podId : String) : Adapter String := do
  Adapter.note (.dropped podId)
  let newId ← deployFromTemplateWithRetry cfg rounds deadline
  Adapter.note (.replaced podId newId)
  pure newId

/-- `_get_or_deploy_pod`, after the first `get_pod` has reported the pod missing. -/
def replaceMissingPod (rounds : ℕ) (deadline : ℚ) (podId message : String) :
    Adapter (String × Pod × Bool) := do
  Adapter.clear podId
  if cfg.templateModeEnabled then do
    let newId ← replacePod cfg rounds deadline podId
    let pod ← getPod cfg newId
    pure (newId, pod, true)
  else throw (.runPodNotFoundError message)

/-- `_get_or_deploy_pod`, once a pod id is known. -/
def inspectPod (rounds : ℕ) (deadline : ℚ) (podId : String) (justDeployed : Bool) :
    Adapter (String × Pod × Bool) := do
  match ← Async.attempt (getPod cfg podId) with
  | .ok pod => pure (podId, pod, justDeployed)
  | .error (.runPodNotFoundError m) => replaceMissingPod cfg rounds deadline podId m
  | .error e => throw e

/-- `_get_or_deploy_pod`. -/
def getOrDeployPod (rounds : ℕ) (deadline : ℚ) : Adapter (String × Pod × Bool) := do
  let podId ← Adapter.load
  if podId ≠ "" then inspectPod cfg rounds deadline podId false
  else do
    let newId ← deployFromTemplateWithRetry cfg rounds deadline
    inspectPod cfg rounds deadline newId true

/-- `_handle_pod_without_mapping`. -/
def handlePodWithoutMapping (rounds : ℕ) (deadline : ℚ) (podId : String) (pod : Pod)
    (justDeployed : Bool) : Adapter String :=
  if cfg.templateModeEnabled && !justDeployed && !podIsExpectedRunning pod then do
    terminate cfg podId
    replacePod cfg rounds deadline podId
  else if cfg.templateModeEnabled then pure podId
  else do
    startPod cfg podId
    pure podId

/-- The variables of the poll loop. -/
structure WaitState where
  podId : String
  lastError : String
  stuckInitSince : Option ℚ
  progressPrev : Option (List Json)

/-- The poll loop's variables after the pod has been replaced. -/
def WaitState.replaced (podId lastError : String) : WaitState where
  podId := podId
  lastError := lastError
  stuckInitSince := none
  progressPrev := none

/-- The stuck-init timer after the comparison with the fingerprint of the previous poll. -/
def timerAfterProgress (s : WaitState) (pod : Pod) : Option ℚ :=
  match s.progressPrev with
  | none => s.stuckInitSince
  | some prev =>
      if Json.pyEqItems (startupProgressFingerprint pod) prev then s.stuckInitSince else none

/-- The pod has a machine and no runtime, and the watchdog is on. -/
def stuckInit (pod : Pod) : Bool :=
  cfg.templateModeEnabled && 0 < cfg.runpodStuckInitTimeoutSeconds &&
    (Json.get pod "machineId").truthy && !(Json.get pod "runtime").truthy

inductive Watchdog
  | fire
  | timer (stuckInitSince : Option ℚ)
  deriving DecidableEq

/-- What the watchdog does at a poll. -/
def watchdog (s : WaitState) (pod : Pod) (now : ℚ) : Watchdog :=
  if stuckInit cfg pod then
    match timerAfterProgress s pod with
    | none => .timer (some now)
    | some since =>
        if (cfg.runpodStuckInitTimeoutSeconds : ℚ) < now - since then .fire
        else .timer (some since)
  else .timer none

def oldImageError : Exn :=
  .temporaryRunPodError
    "RunPod pod has an old wrapper image; replace it with the matching template image"

/-- The poll has found the pod missing. -/
def pollMissing (rounds : ℕ) (deadline : ℚ) (podId message : String) : Adapter WaitState := do
  Adapter.clear podId
  if cfg.templateModeEnabled then do
    let newId ← replacePod cfg rounds deadline podId
    pure (.replaced newId "Replacement RunPod pod has not reported status yet")
  else throw (.runPodNotFoundError message)

/-- The watchdog has fired. -/
def pollStuck (rounds : ℕ) (deadline : ℚ) (podId : String) : Adapter WaitState := do
  terminate cfg podId
  let newId ← replacePod cfg rounds deadline podId
  pure (.replaced newId "Redeployed after stuck initialization")

/-- The rest of a poll: look for the address and probe it. -/
def pollAddress (s : WaitState) (pod : Pod) : Adapter (WaitState ⊕ String) := do
  match ← Async.ofExcept (extractTcpMapping pod cfg.runpodWrapperPort) with
  | none => do
      let _ ← Adapter.time
      pure (.inl { s with lastError := "RunPod has not assigned a public TCP mapping yet" })
  | some mapping => do
      let (healthy, detail) ← wrapperHealthyDetail (mappingUrl mapping)
      if healthy then do
        Adapter.note (.ready s.podId (mappingUrl mapping))
        pure (.inr (mappingUrl mapping))
      else if detail = "protocol_incompatible" then throw oldImageError
      else
        pure (.inl { s with
          lastError := s!"Wrapper is not healthy at {mappingUrl mapping} ({detail})" })

/-- A poll that has a snapshot of the pod. -/
def pollPod (rounds : ℕ) (deadline : ℚ) (s : WaitState) (pod : Pod) :
    Adapter (WaitState ⊕ String) := do
  let now ← Adapter.time
  match watchdog cfg s pod now with
  | .fire => do
      let s' ← pollStuck cfg rounds deadline s.podId
      pure (.inl s')
  | .timer stuckInitSince =>
      pollAddress cfg
        { s with stuckInitSince, progressPrev := some (startupProgressFingerprint pod) } pod

/-- One round of the poll loop. -/
def waitRound (rounds : ℕ) (deadline : ℚ) (s : WaitState) : Adapter (WaitState ⊕ String) := do
  let now ← Adapter.time
  if now < deadline then do
    Adapter.sleep cfg.runpodPollIntervalSeconds
    match ← Async.attempt (getPod cfg s.podId) with
    | .ok pod => pollPod cfg rounds deadline s pod
    | .error (.runPodNotFoundError m) => do
        let s' ← pollMissing cfg rounds deadline s.podId m
        pure (.inl s')
    | .error e => throw e
  else throw (.runPodTimeoutError s.lastError)

/-- `_wait_until_ready`. -/
def waitUntilReady (rounds : ℕ) (deadline : ℚ) (podId : String) : Adapter String :=
  Async.loop (waitRound cfg rounds deadline) rounds (.replaced podId "Pod is not ready")

/-- `ensure_ready`, once a pod object is at hand. -/
def readyFromPod (rounds : ℕ) (deadline : ℚ) (podId : String) (pod : Pod)
    (justDeployed : Bool) : Adapter String := do
  match ← Async.ofExcept (extractTcpMapping pod cfg.runpodWrapperPort) with
  | none => do
      let podId' ← handlePodWithoutMapping cfg rounds deadline podId pod justDeployed
      waitUntilReady cfg rounds deadline podId'
  | some mapping => do
      let (healthy, detail) ← wrapperHealthyDetail (mappingUrl mapping)
      if healthy then do
        Adapter.note (.ready podId (mappingUrl mapping))
        pure (mappingUrl mapping)
      else if detail = "protocol_incompatible" then throw oldImageError
      else waitUntilReady cfg rounds deadline podId

/-- The part of `ensure_ready` under the manager's lock. -/
def readyUnderLock (rounds : ℕ) (deadline : ℚ) : Adapter String := do
  let (podId, pod, justDeployed) ← getOrDeployPod cfg rounds deadline
  readyFromPod cfg rounds deadline podId pod justDeployed

/-- `async with self._lock: …`. -/
def withLock {α : Type} (body : Adapter α) : Adapter α := do
  Adapter.acquireLock
  Async.tryFinally body Adapter.releaseLock

def ensureReady (rounds : ℕ) : Adapter String := do
  let isConfigured ← configured cfg
  if isConfigured then do
    let now ← Adapter.time
    withLock (readyUnderLock cfg rounds (now + cfg.runpodReadinessTimeoutSeconds))
  else
    throw (.configurationError ("RunPod adapter is not configured; set RUNPOD_API_KEY, " ++
      "ADAPTER_WHISPERX_TOKEN, and either RUNPOD_POD_ID or RUNPOD_TEMPLATE_ID"))

/-! ## Releasing -/

/-- `except Exception`: anything but a cancellation is swallowed. -/
def catchException (body : Adapter Unit) : Adapter Unit := do
  match ← Async.attempt body with
  | .ok () => pure ()
  | .error e => if e.isException then pure () else throw e

/-- `drain_cloud_pod_logs`, up to what it emits. -/
def drainCloudPodLogs (podId : String) : Adapter Bool :=
  if cfg.adapterWhisperxToken = "" then pure false
  else do
    match ← Async.attempt (getPod cfg podId) with
    | .error e => if e.isException then pure false else throw e
    | .ok pod =>
        match ← Async.ofExcept (extractTcpMapping pod cfg.runpodWrapperPort) with
        | none => pure false
        | some mapping =>
            match ← Async.attempt (Adapter.podLogs (mappingUrl mapping)) with
            | .error e => if e.isException then pure false else throw e
            | .ok () => pure true

/-- The `try` of `release_idle_pod`. -/
def releasePod (podId : String) : Adapter Unit :=
  if cfg.idleAction = "terminate" then do
    catchException (do let _ ← drainCloudPodLogs cfg podId)
    terminate cfg podId
  else if cfg.idleAction ≠ "stop" then
    throw (.configurationError "RUNPOD_IDLE_ACTION must be either 'stop' or 'terminate'")
  else stopPod cfg podId

def releaseIdlePod : Adapter Unit := do
  let podId ← Adapter.load
  if cfg.runpodApiKey = "" then pure ()
  else if podId = "" then pure ()
  else catchException (releasePod cfg podId)

end SpeakrRunpod
