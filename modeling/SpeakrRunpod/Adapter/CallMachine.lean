import SpeakrRunpod.Adapter.Runpod

/-!
# A call of `ensure_ready` as a state machine

Where a call can be between two of its operations, and where each answer takes it.  The loops have
no bound here: a call goes on as long as it is answered.

* `Work`, `Stage` — the places, under the manager's lock and outside it, with the variables that are
  still needed.
* `Work.Moves`, `Moves` — every transition.
* `work_total`, `moves_total` — there is one for every answer.
-/

namespace SpeakrRunpod

open Coop

/-! ## The stages -/

/-- Why a pod is replaced: the first query has reported it missing, it was found inactive, a poll has
reported it missing, or the watchdog has fired. -/
inductive Reason
  | inspected
  | inactive
  | missing
  | stuck
  deriving DecidableEq

/-- What a pod id is looked for for; `alone` where the deploy loop is looked at by itself. -/
inductive Purpose
  | alone
  | first
  | replace (reason : Reason) (old : String)
  deriving DecidableEq

/-- The stages under the manager's lock, each named by the operation that comes next. -/
inductive Work
  | look
  | deployTime (purpose : Purpose) (lastError : String)
  | deployLook (purpose : Purpose)
  | deployLock (purpose : Purpose)
  | lockedLook (purpose : Purpose)
  | buy (purpose : Purpose)
  | openFile (purpose : Purpose) (podId : String)
  | writeFile (purpose : Purpose) (podId : String)
  | deployUnlock (purpose : Purpose) (outcome : Except Exn String)
  | backOff (purpose : Purpose) (e : Exn)
  | adopt (reason : Reason) (old podId : String)
  | inspect (podId : String) (justDeployed : Bool)
  | reinspect (podId : String)
  | clearMissing (reason : Reason) (old message : String)
  | drop (reason : Reason) (old : String)
  | terminate (reason : Reason) (old : String)
  | clearTerminated (reason : Reason) (old : String) (outcome : Except Exn Unit)
  | resume (podId : String)
  | probe (podId : String) (mapping : String × PyInt)
  | pollTime (s : WaitState)
  | pollSleep (s : WaitState)
  | pollQuery (s : WaitState)
  | pollNow (s : WaitState) (pod : Pod)
  | pollLate (s : WaitState)
  | pollProbe (s : WaitState) (mapping : String × PyInt)
  | announce (podId url : String)
  | leave (outcome : Except Exn String)

inductive Stage
  | configure
  | start
  | lock (deadline : ℚ)
  | under (deadline : ℚ) (work : Work)
  | ended (outcome : Except Exn String)

variable (cfg : AdapterConfig)

/-- The operation that comes next; `none` where the lock is left. -/
def Work.asks : Work → Option Op
  | .look | .deployLook _ | .lockedLook _ => some .load
  | .deployTime _ _ | .pollTime _ | .pollNow _ _ | .pollLate _ => some .time
  | .deployLock _ => some .acquireDeployLock
  | .buy _ => some (.graphql (.podFindAndDeployOnDemand (deployInput cfg)))
  | .openFile _ podId => some (.openState podId)
  | .writeFile _ podId => some (.writeState podId)
  | .deployUnlock _ _ => some .releaseDeployLock
  | .backOff _ _ | .pollSleep _ => some (.sleep cfg.runpodPollIntervalSeconds)
  | .adopt _ old podId => some (.note (.replaced old podId))
  | .inspect podId _ | .reinspect podId => some (.graphql (.pod podId))
  | .clearMissing _ old _ | .clearTerminated _ old _ => some (.clear old)
  | .drop _ old => some (.note (.dropped old))
  | .terminate _ old => some (.graphql (.podTerminate old))
  | .resume podId => some (.graphql (.podResume podId cfg.runpodGpuCount))
  | .probe _ mapping | .pollProbe _ mapping => some (.health (mappingUrl mapping ++ "/health"))
  | .pollQuery s => some (.graphql (.pod s.podId))
  | .announce podId url => some (.note (.ready podId url))
  | .leave _ => none

def Stage.asks : Stage → Option Op
  | .configure => some .load
  | .start => some .time
  | .lock _ => some .acquireLock
  | .under _ work => some ((work.asks cfg).getD .releaseLock)
  | .ended _ => none

/-! ## Where an answer leads -/

def notConfigured : Exn :=
  .configurationError ("RunPod adapter is not configured; set RUNPOD_API_KEY, " ++
    "ADAPTER_WHISPERX_TOKEN, and either RUNPOD_POD_ID or RUNPOD_TEMPLATE_ID")

/-- Whether the configuration is complete, given the id on record. -/
def isConfigured (podId : String) : Bool :=
  cfg.runpodApiKey ≠ "" ∧ (podId ≠ "" ∨ cfg.runpodTemplateId ≠ "") ∧ cfg.adapterWhisperxToken ≠ ""

/-- What `deploy_from_template` raises before it sends anything. -/
def deployRefusal : Option Exn :=
  if cfg.runpodTemplateId = "" then
    some (.configurationError "RUNPOD_TEMPLATE_ID is not configured")
  else if cfg.runpodGpuTypeIds = [] then
    some (.configurationError "RUNPOD_GPU_TYPE_IDS is not configured")
  else if cfg.runpodApiKey = "" then
    some (.configurationError "RUNPOD_API_KEY is not configured")
  else none

/-- What the `try` of `_terminate` comes to. -/
def terminateOutcome (old : String) (r : Except Exn HttpAnswer) : Except Exn Unit :=
  match (GraphqlCall.podTerminate old).outcome r with
  | .ok _ => .ok ()
  | .error e => if e.isNotFound then .ok () else .error e

/-- What `wrapper_healthy_detail` makes of the answer to a probe. -/
def probeVerdict : Except Exn HealthAnswer → Except Exn (Bool × String)
  | .ok answer => .ok (healthVerdict answer)
  | .error e => if e.isHttpError then .ok (false, s!"{e.httpName}: {e.text}") else .error e

/-- The pod is replaced instead of being waited for. -/
def replacesInactive (pod : Pod) (justDeployed : Bool) : Bool :=
  cfg.templateModeEnabled && !justDeployed && !podIsExpectedRunning pod

/-- A pod id is looked for. -/
abbrev Work.deploy (purpose : Purpose) : Work := .deployTime purpose "RunPod deploy did not complete"

/-- The purpose of the deploy loop. -/
def Work.purpose : Work → Option Purpose
  | .deployTime pu _ | .deployLook pu | .deployLock pu | .lockedLook pu | .buy pu | .openFile pu _
  | .writeFile pu _ | .deployUnlock pu _ | .backOff pu _ => some pu
  | _ => none

/-- A pod id has been obtained. -/
def Work.obtained : Purpose → String → Work
  | .alone, podId => .leave (.ok podId)
  | .first, podId => .inspect podId true
  | .replace reason old, podId => .adopt reason old podId

/-- The poll loop begins. -/
abbrev Work.wait (podId : String) : Work := .pollTime (.replaced podId "Pod is not ready")

/-- The variables after the watchdog has let the pod be. -/
def WaitState.watched (s : WaitState) (pod : Pod) (stuckInitSince : Option ℚ) : WaitState :=
  { s with stuckInitSince, progressPrev := some (startupProgressFingerprint pod) }

def WaitState.failed (s : WaitState) (lastError : String) : WaitState := { s with lastError }

/-! ## The transitions -/

/-- Where the first pod object leads. -/
inductive Work.FromPod (p : String) (pod : Pod) (justDeployed : Bool) : Work → Prop
  | unreadable {e : Exn} (h : extractTcpMapping pod cfg.runpodWrapperPort = .error e) :
      Work.FromPod p pod justDeployed (.leave (.error e))
  | mapped {mapping : String × PyInt}
      (h : extractTcpMapping pod cfg.runpodWrapperPort = .ok (some mapping)) :
      Work.FromPod p pod justDeployed (.probe p mapping)
  | inactive (h : extractTcpMapping pod cfg.runpodWrapperPort = .ok none)
      (hreplaces : replacesInactive cfg pod justDeployed) :
      Work.FromPod p pod justDeployed (.terminate .inactive p)
  | active (h : extractTcpMapping pod cfg.runpodWrapperPort = .ok none)
      (hreplaces : ¬ replacesInactive cfg pod justDeployed) (htemplate : cfg.templateModeEnabled) :
      Work.FromPod p pod justDeployed (.wait p)
  | stopped (h : extractTcpMapping pod cfg.runpodWrapperPort = .ok none)
      (htemplate : ¬ cfg.templateModeEnabled) :
      Work.FromPod p pod justDeployed (.resume p)

/-- Where the verdict on a probe leads; `wait` is where an unhealthy wrapper is waited for. -/
inductive Work.Probed (p url : String) (wait : String → Work) :
    Except Exn (Bool × String) → Work → Prop
  | raises (e : Exn) : Work.Probed p url wait (.error e) (.leave (.error e))
  | healthy (detail : String) : Work.Probed p url wait (.ok (true, detail)) (.announce p url)
  | incompatible :
      Work.Probed p url wait (.ok (false, "protocol_incompatible")) (.leave (.error oldImageError))
  | unhealthy {detail : String} (h : detail ≠ "protocol_incompatible") :
      Work.Probed p url wait (.ok (false, detail)) (wait detail)

lemma Work.Probed.leads {p url : String} {wait : String → Work}
    {verdict : Except Exn (Bool × String)} {work : Work} (h : Work.Probed p url wait verdict work) :
    (∃ e, work = .leave (.error e)) ∨ work = .announce p url ∨ ∃ detail, work = wait detail := by
  cases h with
  | raises e => exact .inl ⟨e, rfl⟩
  | healthy detail => exact .inr (.inl rfl)
  | incompatible => exact .inl ⟨_, rfl⟩
  | unhealthy _ => exact .inr (.inr ⟨_, rfl⟩)

/-- The transitions under the lock, for every answer. -/
inductive Work.Moves (deadline : ℚ) : Work → Prog.Exchange adapterInterface → Work → Prop
  -- `_get_or_deploy_pod`
  | lookFound {p : String} (h : p ≠ "") :
      Work.Moves deadline .look ⟨.load, Except.ok p⟩ (.inspect p false)
  | lookEmpty : Work.Moves deadline .look ⟨.load, Except.ok ""⟩ (.deploy .first)
  | lookRaises (e : Exn) : Work.Moves deadline .look ⟨.load, Except.error e⟩ (.leave (.error e))
  -- `_deploy_from_template_with_retry`
  | deployInTime {pu : Purpose} {m : String} {now : ℚ} (h : now < deadline) :
      Work.Moves deadline (.deployTime pu m) ⟨.time, now⟩ (.deployLook pu)
  | deployLate {pu : Purpose} {m : String} {now : ℚ} (h : ¬ now < deadline) :
      Work.Moves deadline (.deployTime pu m) ⟨.time, now⟩
        (.leave (.error (.runPodTimeoutError ("Timed out while deploying RunPod pod: " ++ m))))
  | deployLookAlone {p : String} (h : p ≠ "") :
      Work.Moves deadline (.deployLook .alone) ⟨.load, Except.ok p⟩ (.leave (.ok p))
  | deployLookFirst {p : String} (h : p ≠ "") :
      Work.Moves deadline (.deployLook .first) ⟨.load, Except.ok p⟩ (.inspect p true)
  | deployLookAdopts {reason : Reason} {old p : String} (h : p ≠ "") :
      Work.Moves deadline (.deployLook (.replace reason old)) ⟨.load, Except.ok p⟩
        (.adopt reason old p)
  | deployLookEmpty {pu : Purpose} :
      Work.Moves deadline (.deployLook pu) ⟨.load, Except.ok ""⟩ (.deployLock pu)
  | deployLookRaises {pu : Purpose} (e : Exn) :
      Work.Moves deadline (.deployLook pu) ⟨.load, Except.error e⟩ (.leave (.error e))
  | deployLocked {pu : Purpose} :
      Work.Moves deadline (.deployLock pu) ⟨.acquireDeployLock, Except.ok ()⟩ (.lockedLook pu)
  | deployLockLeft {pu : Purpose} {e : Exn} (h : deployReraises e) :
      Work.Moves deadline (.deployLock pu) ⟨.acquireDeployLock, Except.error e⟩ (.leave (.error e))
  | deployLockRetried {pu : Purpose} {e : Exn} (h : ¬ deployReraises e) :
      Work.Moves deadline (.deployLock pu) ⟨.acquireDeployLock, Except.error e⟩ (.backOff pu e)
  | lockedFound {pu : Purpose} {p : String} (h : p ≠ "") :
      Work.Moves deadline (.lockedLook pu) ⟨.load, Except.ok p⟩ (.deployUnlock pu (.ok p))
  | lockedRefused {pu : Purpose} {e : Exn} (h : deployRefusal cfg = some e) :
      Work.Moves deadline (.lockedLook pu) ⟨.load, Except.ok ""⟩ (.deployUnlock pu (.error e))
  | lockedEmpty {pu : Purpose} (h : deployRefusal cfg = none) :
      Work.Moves deadline (.lockedLook pu) ⟨.load, Except.ok ""⟩ (.buy pu)
  | lockedRaises {pu : Purpose} (e : Exn) :
      Work.Moves deadline (.lockedLook pu) ⟨.load, Except.error e⟩ (.deployUnlock pu (.error e))
  | bought {pu : Purpose} {r : Except Exn HttpAnswer} {p : String}
      (h : deployOutcome (deployInput cfg) r = .ok p) :
      Work.Moves deadline (.buy pu) ⟨.graphql (.podFindAndDeployOnDemand (deployInput cfg)), r⟩
        (.openFile pu p)
  | notBought {pu : Purpose} {r : Except Exn HttpAnswer} {e : Exn}
      (h : deployOutcome (deployInput cfg) r = .error e) :
      Work.Moves deadline (.buy pu) ⟨.graphql (.podFindAndDeployOnDemand (deployInput cfg)), r⟩
        (.deployUnlock pu (.error e))
  | opened {pu : Purpose} {p : String} :
      Work.Moves deadline (.openFile pu p) ⟨.openState p, ()⟩ (.writeFile pu p)
  | written {pu : Purpose} {p : String} :
      Work.Moves deadline (.writeFile pu p) ⟨.writeState p, ()⟩ (.deployUnlock pu (.ok p))
  | unlockedAlone {p : String} :
      Work.Moves deadline (.deployUnlock .alone (.ok p)) ⟨.releaseDeployLock, Except.ok ()⟩
        (.leave (.ok p))
  | unlockedFirst {p : String} :
      Work.Moves deadline (.deployUnlock .first (.ok p)) ⟨.releaseDeployLock, Except.ok ()⟩
        (.inspect p true)
  | unlockedAdopts {reason : Reason} {old p : String} :
      Work.Moves deadline (.deployUnlock (.replace reason old) (.ok p))
        ⟨.releaseDeployLock, Except.ok ()⟩ (.adopt reason old p)
  | unlockedLeft {pu : Purpose} {e : Exn} (h : deployReraises e) :
      Work.Moves deadline (.deployUnlock pu (.error e)) ⟨.releaseDeployLock, Except.ok ()⟩
        (.leave (.error e))
  | unlockedRetried {pu : Purpose} {e : Exn} (h : ¬ deployReraises e) :
      Work.Moves deadline (.deployUnlock pu (.error e)) ⟨.releaseDeployLock, Except.ok ()⟩
        (.backOff pu e)
  | unlockLeft {pu : Purpose} {outcome : Except Exn String} {e : Exn} (h : deployReraises e) :
      Work.Moves deadline (.deployUnlock pu outcome) ⟨.releaseDeployLock, Except.error e⟩
        (.leave (.error e))
  | unlockRetried {pu : Purpose} {outcome : Except Exn String} {e : Exn}
      (h : ¬ deployReraises e) :
      Work.Moves deadline (.deployUnlock pu outcome) ⟨.releaseDeployLock, Except.error e⟩
        (.backOff pu e)
  | backedOff {pu : Purpose} {e : Exn} :
      Work.Moves deadline (.backOff pu e) ⟨.sleep cfg.runpodPollIntervalSeconds, Except.ok ()⟩
        (.deployTime pu e.text)
  | backOffRaises {pu : Purpose} {e : Exn} (e' : Exn) :
      Work.Moves deadline (.backOff pu e) ⟨.sleep cfg.runpodPollIntervalSeconds, Except.error e'⟩
        (.leave (.error e'))
  -- the id of a replacement
  | adoptInspected {old p : String} :
      Work.Moves deadline (.adopt .inspected old p) ⟨.note (.replaced old p), ()⟩ (.reinspect p)
  | adoptInactive {old p : String} :
      Work.Moves deadline (.adopt .inactive old p) ⟨.note (.replaced old p), ()⟩ (.wait p)
  | adoptMissing {old p : String} :
      Work.Moves deadline (.adopt .missing old p) ⟨.note (.replaced old p), ()⟩
        (.pollTime (.replaced p "Replacement RunPod pod has not reported status yet"))
  | adoptStuck {old p : String} :
      Work.Moves deadline (.adopt .stuck old p) ⟨.note (.replaced old p), ()⟩
        (.pollTime (.replaced p "Redeployed after stuck initialization"))
  -- the first `get_pod`, and the second one
  | inspectMissing {p m : String} {b : Bool} {r : Except Exn HttpAnswer}
      (h : podOutcome p r = .error (.runPodNotFoundError m)) :
      Work.Moves deadline (.inspect p b) ⟨.graphql (.pod p), r⟩ (.clearMissing .inspected p m)
  | inspectRaises {p : String} {b : Bool} {r : Except Exn HttpAnswer} {e : Exn}
      (h : podOutcome p r = .error e) (he : ¬ e.isNotFound) :
      Work.Moves deadline (.inspect p b) ⟨.graphql (.pod p), r⟩ (.leave (.error e))
  | inspected {p : String} {b : Bool} {r : Except Exn HttpAnswer} {pod : Pod} {work : Work}
      (h : podOutcome p r = .ok pod) (hwork : Work.FromPod cfg p pod b work) :
      Work.Moves deadline (.inspect p b) ⟨.graphql (.pod p), r⟩ work
  | reinspectRaises {p : String} {r : Except Exn HttpAnswer} {e : Exn}
      (h : podOutcome p r = .error e) :
      Work.Moves deadline (.reinspect p) ⟨.graphql (.pod p), r⟩ (.leave (.error e))
  | reinspected {p : String} {r : Except Exn HttpAnswer} {pod : Pod} {work : Work}
      (h : podOutcome p r = .ok pod) (hwork : Work.FromPod cfg p pod true work) :
      Work.Moves deadline (.reinspect p) ⟨.graphql (.pod p), r⟩ work
  -- a pod that is gone
  | clearedMissing {reason : Reason} {old m : String} (h : cfg.templateModeEnabled) :
      Work.Moves deadline (.clearMissing reason old m) ⟨.clear old, ()⟩ (.drop reason old)
  | clearedFixed {reason : Reason} {old m : String} (h : ¬ cfg.templateModeEnabled) :
      Work.Moves deadline (.clearMissing reason old m) ⟨.clear old, ()⟩
        (.leave (.error (.runPodNotFoundError m)))
  | terminated {reason : Reason} {old : String} {r : Except Exn HttpAnswer} :
      Work.Moves deadline (.terminate reason old) ⟨.graphql (.podTerminate old), r⟩
        (.clearTerminated reason old (terminateOutcome old r))
  | clearedTerminated {reason : Reason} {old : String} :
      Work.Moves deadline (.clearTerminated reason old (.ok ())) ⟨.clear old, ()⟩
        (.drop reason old)
  | clearedRaises {reason : Reason} {old : String} (e : Exn) :
      Work.Moves deadline (.clearTerminated reason old (.error e)) ⟨.clear old, ()⟩
        (.leave (.error e))
  | dropped {reason : Reason} {old : String} :
      Work.Moves deadline (.drop reason old) ⟨.note (.dropped old), ()⟩
        (.deploy (.replace reason old))
  -- a pod that is stopped
  | resumed {p : String} {r : Except Exn HttpAnswer} {payload : Json}
      (h : (GraphqlCall.podResume p cfg.runpodGpuCount).outcome r = .ok payload) :
      Work.Moves deadline (.resume p) ⟨.graphql (.podResume p cfg.runpodGpuCount), r⟩ (.wait p)
  | resumeRaises {p : String} {r : Except Exn HttpAnswer} {e : Exn}
      (h : (GraphqlCall.podResume p cfg.runpodGpuCount).outcome r = .error e) :
      Work.Moves deadline (.resume p) ⟨.graphql (.podResume p cfg.runpodGpuCount), r⟩
        (.leave (.error e))
  -- the first probe
  | probed {p : String} {mapping : String × PyInt} {r : Except Exn HealthAnswer} {work : Work}
      (h : Work.Probed p (mappingUrl mapping) (fun _ => .wait p) (probeVerdict r) work) :
      Work.Moves deadline (.probe p mapping) ⟨.health (mappingUrl mapping ++ "/health"), r⟩ work
  -- `_wait_until_ready`
  | pollInTime {s : WaitState} {now : ℚ} (h : now < deadline) :
      Work.Moves deadline (.pollTime s) ⟨.time, now⟩ (.pollSleep s)
  | pollTooLate {s : WaitState} {now : ℚ} (h : ¬ now < deadline) :
      Work.Moves deadline (.pollTime s) ⟨.time, now⟩
        (.leave (.error (.runPodTimeoutError s.lastError)))
  | pollSlept {s : WaitState} :
      Work.Moves deadline (.pollSleep s) ⟨.sleep cfg.runpodPollIntervalSeconds, Except.ok ()⟩
        (.pollQuery s)
  | pollSleepRaises {s : WaitState} (e : Exn) :
      Work.Moves deadline (.pollSleep s) ⟨.sleep cfg.runpodPollIntervalSeconds, Except.error e⟩
        (.leave (.error e))
  | polled {s : WaitState} {r : Except Exn HttpAnswer} {pod : Pod}
      (h : podOutcome s.podId r = .ok pod) :
      Work.Moves deadline (.pollQuery s) ⟨.graphql (.pod s.podId), r⟩ (.pollNow s pod)
  | pollMissing {s : WaitState} {r : Except Exn HttpAnswer} {m : String}
      (h : podOutcome s.podId r = .error (.runPodNotFoundError m)) :
      Work.Moves deadline (.pollQuery s) ⟨.graphql (.pod s.podId), r⟩
        (.clearMissing .missing s.podId m)
  | pollRaises {s : WaitState} {r : Except Exn HttpAnswer} {e : Exn}
      (h : podOutcome s.podId r = .error e) (he : ¬ e.isNotFound) :
      Work.Moves deadline (.pollQuery s) ⟨.graphql (.pod s.podId), r⟩ (.leave (.error e))
  | pollFires {s : WaitState} {pod : Pod} {now : ℚ} (h : watchdog cfg s pod now = .fire) :
      Work.Moves deadline (.pollNow s pod) ⟨.time, now⟩ (.terminate .stuck s.podId)
  | pollUnreadable {s : WaitState} {pod : Pod} {now : ℚ} {since : Option ℚ} {e : Exn}
      (h : watchdog cfg s pod now = .timer since)
      (hmapping : extractTcpMapping pod cfg.runpodWrapperPort = .error e) :
      Work.Moves deadline (.pollNow s pod) ⟨.time, now⟩ (.leave (.error e))
  | pollUnmapped {s : WaitState} {pod : Pod} {now : ℚ} {since : Option ℚ}
      (h : watchdog cfg s pod now = .timer since)
      (hmapping : extractTcpMapping pod cfg.runpodWrapperPort = .ok none) :
      Work.Moves deadline (.pollNow s pod) ⟨.time, now⟩ (.pollLate (s.watched pod since))
  | pollMapped {s : WaitState} {pod : Pod} {now : ℚ} {since : Option ℚ}
      {mapping : String × PyInt} (h : watchdog cfg s pod now = .timer since)
      (hmapping : extractTcpMapping pod cfg.runpodWrapperPort = .ok (some mapping)) :
      Work.Moves deadline (.pollNow s pod) ⟨.time, now⟩ (.pollProbe (s.watched pod since) mapping)
  | pollWaits {s : WaitState} (now : ℚ) :
      Work.Moves deadline (.pollLate s) ⟨.time, now⟩
        (.pollTime (s.failed "RunPod has not assigned a public TCP mapping yet"))
  | pollProbed {s : WaitState} {mapping : String × PyInt} {r : Except Exn HealthAnswer}
      {work : Work}
      (h : Work.Probed s.podId (mappingUrl mapping) (fun detail => .pollTime
        (s.failed s!"Wrapper is not healthy at {mappingUrl mapping} ({detail})")) (probeVerdict r)
        work) :
      Work.Moves deadline (.pollProbe s mapping) ⟨.health (mappingUrl mapping ++ "/health"), r⟩
        work
  | announced {p url : String} :
      Work.Moves deadline (.announce p url) ⟨.note (.ready p url), ()⟩ (.leave (.ok url))

/-- The transitions of a call. -/
inductive Moves : Stage → Prog.Exchange adapterInterface → Stage → Prop
  | configured {p : String} (h : isConfigured cfg p) :
      Moves .configure ⟨.load, Except.ok p⟩ .start
  | unconfigured {p : String} (h : ¬ isConfigured cfg p) :
      Moves .configure ⟨.load, Except.ok p⟩ (.ended (.error notConfigured))
  | configureRaises (e : Exn) : Moves .configure ⟨.load, Except.error e⟩ (.ended (.error e))
  | started (now : ℚ) :
      Moves .start ⟨.time, now⟩ (.lock (now + cfg.runpodReadinessTimeoutSeconds))
  | locked (deadline : ℚ) :
      Moves (.lock deadline) ⟨.acquireLock, Except.ok ()⟩ (.under deadline .look)
  | lockRaises (deadline : ℚ) (e : Exn) :
      Moves (.lock deadline) ⟨.acquireLock, Except.error e⟩ (.ended (.error e))
  | under {deadline : ℚ} {work work' : Work} {x : Prog.Exchange adapterInterface}
      (h : Work.Moves cfg deadline work x work') :
      Moves (.under deadline work) x (.under deadline work')
  | left (deadline : ℚ) (outcome : Except Exn String) :
      Moves (.under deadline (.leave outcome)) ⟨.releaseLock, ()⟩ (.ended outcome)

lemma fromPod_total (p : String) (pod : Pod) (b : Bool) : ∃ work, Work.FromPod cfg p pod b work := by
  rcases hmapping : extractTcpMapping pod cfg.runpodWrapperPort with e | _ | mapping
  · exact ⟨_, .unreadable hmapping⟩
  · by_cases hreplaces : replacesInactive cfg pod b
    · exact ⟨_, .inactive hmapping hreplaces⟩
    · by_cases htemplate : cfg.templateModeEnabled
      · exact ⟨_, .active hmapping hreplaces htemplate⟩
      · exact ⟨_, .stopped hmapping htemplate⟩
  · exact ⟨_, .mapped hmapping⟩

lemma probed_total (p url : String) (wait : String → Work) (verdict : Except Exn (Bool × String)) :
    ∃ work, Work.Probed p url wait verdict work := by
  rcases verdict with e | ⟨_ | _, detail⟩
  · exact ⟨_, .raises e⟩
  · by_cases hdetail : detail = "protocol_incompatible"
    · obtain rfl := hdetail
      exact ⟨_, .incompatible⟩
    · exact ⟨_, .unhealthy hdetail⟩
  · exact ⟨_, .healthy detail⟩

lemma asks_eq_none {work : Work} (h : work.asks cfg = none) : ∃ outcome, work = .leave outcome := by
  cases work with
  | leave outcome => exact ⟨outcome, rfl⟩
  | _ => cases h

/-- Under the lock, the machine has a transition for every answer. -/
theorem work_total (deadline : ℚ) (work : Work) (o : Op) (h : work.asks cfg = some o) (r : o.Res) :
    ∃ work', Work.Moves cfg deadline work ⟨o, r⟩ work' := by
  cases work with
  | leave outcome => cases h
  | look =>
      cases h
      rcases (r : Except Exn String) with e | p
      · exact ⟨_, .lookRaises e⟩
      · by_cases hp : p = ""
        · obtain rfl := hp
          exact ⟨_, .lookEmpty⟩
        · exact ⟨_, .lookFound hp⟩
  | deployTime pu m =>
      cases h
      by_cases hnow : @LT.lt ℚ _ r deadline
      · exact ⟨_, .deployInTime hnow⟩
      · exact ⟨_, .deployLate hnow⟩
  | deployLook pu =>
      cases h
      rcases (r : Except Exn String) with e | p
      · exact ⟨_, .deployLookRaises e⟩
      · by_cases hp : p = ""
        · obtain rfl := hp
          exact ⟨_, .deployLookEmpty⟩
        · cases pu with
          | alone => exact ⟨_, .deployLookAlone hp⟩
          | first => exact ⟨_, .deployLookFirst hp⟩
          | replace reason old => exact ⟨_, .deployLookAdopts hp⟩
  | deployLock pu =>
      cases h
      rcases (r : Except Exn Unit) with e | ⟨⟩
      · by_cases he : deployReraises e
        · exact ⟨_, .deployLockLeft he⟩
        · exact ⟨_, .deployLockRetried he⟩
      · exact ⟨_, .deployLocked⟩
  | lockedLook pu =>
      cases h
      rcases (r : Except Exn String) with e | p
      · exact ⟨_, .lockedRaises e⟩
      · by_cases hp : p = ""
        · obtain rfl := hp
          cases hrefusal : deployRefusal cfg with
          | none => exact ⟨_, .lockedEmpty hrefusal⟩
          | some e => exact ⟨_, .lockedRefused hrefusal⟩
        · exact ⟨_, .lockedFound hp⟩
  | buy pu =>
      cases h
      rcases hr : deployOutcome (deployInput cfg) r with e | p
      · exact ⟨_, .notBought hr⟩
      · exact ⟨_, .bought hr⟩
  | openFile pu p =>
      cases h
      exact ⟨_, .opened⟩
  | writeFile pu p =>
      cases h
      exact ⟨_, .written⟩
  | deployUnlock pu outcome =>
      cases h
      rcases (r : Except Exn Unit) with e | ⟨⟩
      · by_cases he : deployReraises e
        · exact ⟨_, .unlockLeft he⟩
        · exact ⟨_, .unlockRetried he⟩
      · rcases outcome with e | p
        · by_cases he : deployReraises e
          · exact ⟨_, .unlockedLeft he⟩
          · exact ⟨_, .unlockedRetried he⟩
        · cases pu with
          | alone => exact ⟨_, .unlockedAlone⟩
          | first => exact ⟨_, .unlockedFirst⟩
          | replace reason old => exact ⟨_, .unlockedAdopts⟩
  | backOff pu e =>
      cases h
      rcases (r : Except Exn Unit) with e' | ⟨⟩
      · exact ⟨_, .backOffRaises e'⟩
      · exact ⟨_, .backedOff⟩
  | adopt reason old p =>
      cases h
      cases reason with
      | inspected => exact ⟨_, .adoptInspected⟩
      | inactive => exact ⟨_, .adoptInactive⟩
      | missing => exact ⟨_, .adoptMissing⟩
      | stuck => exact ⟨_, .adoptStuck⟩
  | inspect p b =>
      cases h
      rcases hr : podOutcome p r with e | pod
      · by_cases he : e.isNotFound
        · cases e with
          | runPodNotFoundError m => exact ⟨_, .inspectMissing hr⟩
          | _ => exact absurd he Bool.false_ne_true
        · exact ⟨_, .inspectRaises hr he⟩
      · obtain ⟨work, hwork⟩ := fromPod_total cfg p pod b
        exact ⟨work, .inspected hr hwork⟩
  | reinspect p =>
      cases h
      rcases hr : podOutcome p r with e | pod
      · exact ⟨_, .reinspectRaises hr⟩
      · obtain ⟨work, hwork⟩ := fromPod_total cfg p pod true
        exact ⟨work, .reinspected hr hwork⟩
  | clearMissing reason old m =>
      cases h
      by_cases htemplate : cfg.templateModeEnabled
      · exact ⟨_, .clearedMissing htemplate⟩
      · exact ⟨_, .clearedFixed htemplate⟩
  | drop reason old =>
      cases h
      exact ⟨_, .dropped⟩
  | terminate reason old =>
      cases h
      exact ⟨_, .terminated⟩
  | clearTerminated reason old outcome =>
      cases h
      rcases outcome with e | ⟨⟩
      · exact ⟨_, .clearedRaises e⟩
      · exact ⟨_, .clearedTerminated⟩
  | resume p =>
      cases h
      rcases hr : (GraphqlCall.podResume p cfg.runpodGpuCount).outcome r with e | payload
      · exact ⟨_, .resumeRaises hr⟩
      · exact ⟨_, .resumed hr⟩
  | probe p mapping =>
      cases h
      obtain ⟨work, hwork⟩ := probed_total p (mappingUrl mapping) (fun _ => .wait p)
        (probeVerdict r)
      exact ⟨work, .probed hwork⟩
  | pollTime s =>
      cases h
      by_cases hnow : @LT.lt ℚ _ r deadline
      · exact ⟨_, .pollInTime hnow⟩
      · exact ⟨_, .pollTooLate hnow⟩
  | pollSleep s =>
      cases h
      rcases (r : Except Exn Unit) with e | ⟨⟩
      · exact ⟨_, .pollSleepRaises e⟩
      · exact ⟨_, .pollSlept⟩
  | pollQuery s =>
      cases h
      rcases hr : podOutcome s.podId r with e | pod
      · by_cases he : e.isNotFound
        · cases e with
          | runPodNotFoundError m => exact ⟨_, .pollMissing hr⟩
          | _ => exact absurd he Bool.false_ne_true
        · exact ⟨_, .pollRaises hr he⟩
      · exact ⟨_, .polled hr⟩
  | pollNow s pod =>
      cases h
      cases hwatchdog : watchdog cfg s pod r with
      | fire => exact ⟨_, .pollFires hwatchdog⟩
      | timer since =>
          rcases hmapping : extractTcpMapping pod cfg.runpodWrapperPort with e | _ | mapping
          · exact ⟨_, .pollUnreadable hwatchdog hmapping⟩
          · exact ⟨_, .pollUnmapped hwatchdog hmapping⟩
          · exact ⟨_, .pollMapped hwatchdog hmapping⟩
  | pollLate s =>
      cases h
      exact ⟨_, .pollWaits r⟩
  | pollProbe s mapping =>
      cases h
      obtain ⟨work, hwork⟩ := probed_total s.podId (mappingUrl mapping) (fun detail => .pollTime
        (s.failed s!"Wrapper is not healthy at {mappingUrl mapping} ({detail})")) (probeVerdict r)
      exact ⟨work, .pollProbed hwork⟩
  | announce p url =>
      cases h
      exact ⟨_, .announced⟩

/-- The machine has a transition for every answer. -/
theorem moves_total (stage : Stage) (o : Op) (h : stage.asks cfg = some o) (r : o.Res) :
    ∃ stage', Moves cfg stage ⟨o, r⟩ stage' := by
  cases stage with
  | configure =>
      cases h
      rcases (r : Except Exn String) with e | p
      · exact ⟨_, .configureRaises e⟩
      · by_cases hp : isConfigured cfg p
        · exact ⟨_, .configured hp⟩
        · exact ⟨_, .unconfigured hp⟩
  | start =>
      cases h
      exact ⟨_, .started r⟩
  | lock deadline =>
      cases h
      rcases (r : Except Exn Unit) with e | ⟨⟩
      · exact ⟨_, .lockRaises deadline e⟩
      · exact ⟨_, .locked deadline⟩
  | under deadline work =>
      rcases hasks : work.asks cfg with _ | o'
      · rw [Stage.asks, hasks] at h
        cases h
        obtain ⟨outcome, rfl⟩ := asks_eq_none cfg hasks
        exact ⟨_, .left deadline outcome⟩
      · rw [Stage.asks, hasks] at h
        cases h
        obtain ⟨work', hmoves⟩ := work_total cfg deadline work _ hasks r
        exact ⟨_, .under hmoves⟩
  | ended outcome => cases h

end SpeakrRunpod
