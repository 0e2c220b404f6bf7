import Mathlib.Algebra.Order.Ring.Rat
import SpeakrRunpod.Adapter.Idle
import SpeakrRunpod.Core.Monitor

/-!
# No capacity

A call of `/asr` that finds no pod and cannot buy one before its deadline.  The loop folds every
failed attempt into the text of one `RunPodTimeoutError`, and the class of the failure is lost.

* `FailedAttempt` — an attempt that RunPod refuses.
* `CapacityCall` — such a call: any number of attempts, at any times, then the deadline.
* `runs_capacityCall` — the call asks for these exchanges, and its answer is a 504.
* `no_capacity_times_out` — so the answer is never the 503 with `Retry-After`.
-/

namespace SpeakrRunpod

open Coop

/-- A deploy attempt that begins before the deadline and fails with a `TemporaryRunPodError`. -/
structure FailedAttempt (cfg : AdapterConfig) (deadline : ℚ) where
  now : ℚ
  answer : Except Exn HttpAnswer
  message : String
  inTime : now < deadline
  refused : deployOutcome (deployInput cfg) answer = .error (.temporaryRunPodError message)

/-- The exchanges of an attempt: no pod is active, and the locks and the sleep are undisturbed. -/
def FailedAttempt.exchanges {cfg : AdapterConfig} {deadline : ℚ} (a : FailedAttempt cfg deadline) :
    List (Prog.Exchange adapterInterface) :=
  [⟨.time, a.now⟩, ⟨.load, Except.ok ""⟩, ⟨.acquireDeployLock, Except.ok ()⟩,
    ⟨.load, Except.ok ""⟩,
    ⟨.graphql (.podFindAndDeployOnDemand (deployInput cfg)), a.answer⟩,
    ⟨.releaseDeployLock, Except.ok ()⟩, ⟨.sleep cfg.runpodPollIntervalSeconds, Except.ok ()⟩]

/-- A call of `/asr` on a configured adapter in template mode, with no active pod: every attempt
fails, until the clock shows the readiness deadline. -/
structure CapacityCall (cfg : AdapterConfig) where
  started : ℚ
  attempts : List (FailedAttempt cfg (started + cfg.runpodReadinessTimeoutSeconds))
  gaveUp : ℚ
  key : cfg.runpodApiKey ≠ ""
  token : cfg.adapterWhisperxToken ≠ ""
  templateMode : cfg.templateModeEnabled
  gpuTypes : cfg.runpodGpuTypeIds ≠ []
  attempted : attempts ≠ []
  late : started + cfg.runpodReadinessTimeoutSeconds ≤ gaveUp

namespace CapacityCall

variable {cfg : AdapterConfig} (c : CapacityCall cfg)

def deadline : ℚ := c.started + cfg.runpodReadinessTimeoutSeconds

/-- The exchanges of the whole call. -/
def exchanges : List (Prog.Exchange adapterInterface) :=
  [⟨.arrive, ()⟩, ⟨.requestStarted, Except.ok ()⟩, ⟨.load, Except.ok ""⟩, ⟨.time, c.started⟩,
    ⟨.acquireLock, Except.ok ()⟩, ⟨.load, Except.ok ""⟩] ++
  (c.attempts.flatMap FailedAttempt.exchanges ++ [⟨.time, c.gaveUp⟩]) ++
  [⟨.releaseLock, ()⟩, ⟨.requestFinished, Except.ok ()⟩]

/-- What the loop remembers of its attempts. -/
def lastError : String :=
  (c.attempts.getLast c.attempted).message

/-- The answer to the call. -/
def timedOut : Reply := ⟨504, "Timed out while deploying RunPod pod: " ++ c.lastError, none⟩

/-- The answer that is documented for a lack of capacity. -/
def Unavailable (answer : Except Exn Reply) : Prop :=
  ∃ body seconds, answer = .ok ⟨503, body, some seconds⟩

end CapacityCall

/-! ## Runs of the client -/

section Client

variable {cfg : AdapterConfig}

/-- A call is posted, and its outcome is that of the answer. -/
lemma runs_graphql (hkey : cfg.runpodApiKey ≠ "") (call : GraphqlCall) (r : Except Exn HttpAnswer) :
    (graphql cfg call).run.Runs [⟨.graphql call, r⟩] (call.outcome r) := by
  rw [graphql, requireApiKey, if_neg hkey]
  refine Prog.Runs.op (I := adapterInterface) (o := .graphql call) r ?_
  cases r with
  | error e => exact .ret _
  | ok answer => exact Async.runs_ofExcept (graphqlResult call.dataKey answer)

/-- The mutation is sent, and the outcome is that of the answer. -/
lemma runs_deployFromTemplate (hkey : cfg.runpodApiKey ≠ "") (htemplate : cfg.runpodTemplateId ≠ "")
    (hgpus : cfg.runpodGpuTypeIds ≠ []) (r : Except Exn HttpAnswer) :
    (deployFromTemplate cfg).run.Runs
      [⟨.graphql (.podFindAndDeployOnDemand (deployInput cfg)), r⟩]
      (deployOutcome (deployInput cfg) r) := by
  have hcall := runs_graphql hkey (.podFindAndDeployOnDemand (deployInput cfg)) r
  rw [deployFromTemplate, if_neg htemplate, if_neg hgpus, deployOutcome]
  cases houtcome : (GraphqlCall.podFindAndDeployOnDemand (deployInput cfg)).outcome r with
  | error e =>
      rw [houtcome] at hcall
      exact Async.runs_bind_error hcall
  | ok payload =>
      rw [houtcome] at hcall
      exact Async.runs_bind_ok hcall (Async.runs_ofExcept (extractCreatedPodId payload))

end Client

/-! ## The deploy loop -/

section Loop

variable {cfg : AdapterConfig} {deadline : ℚ}

/-- An attempt under the lock. -/
lemma runs_attempt (hkey : cfg.runpodApiKey ≠ "") (htemplate : cfg.runpodTemplateId ≠ "")
    (hgpus : cfg.runpodGpuTypeIds ≠ []) (a : FailedAttempt cfg deadline) :
    (withDeployLock (deployUnderLock cfg)).run.Runs
      [⟨.acquireDeployLock, Except.ok ()⟩, ⟨.load, Except.ok ""⟩,
        ⟨.graphql (.podFindAndDeployOnDemand (deployInput cfg)), a.answer⟩,
        ⟨.releaseDeployLock, Except.ok ()⟩]
      (.error (.temporaryRunPodError a.message)) := by
  have hdeploy := runs_deployFromTemplate hkey htemplate hgpus a.answer
  rw [a.refused] at hdeploy
  have hlocked : (deployUnderLock cfg).run.Runs [⟨.load, Except.ok ""⟩,
      ⟨.graphql (.podFindAndDeployOnDemand (deployInput cfg)), a.answer⟩]
      (.error (.temporaryRunPodError a.message)) :=
    (Async.runs_answer rfl rfl).mpr (Async.runs_bind_error hdeploy)
  have hrelease : Adapter.releaseDeployLock.run.Runs [⟨.releaseDeployLock, Except.ok ()⟩] (.ok ()) :=
    .op _ (.ret _)
  exact (Async.runs_answer rfl rfl).mpr (Async.runs_tryFinally hlocked hrelease)

/-- A round of the loop keeps the text of the failure. -/
lemma runs_deployRound (hkey : cfg.runpodApiKey ≠ "") (htemplate : cfg.runpodTemplateId ≠ "")
    (hgpus : cfg.runpodGpuTypeIds ≠ []) (lastError : String) (a : FailedAttempt cfg deadline) :
    (deployRound cfg deadline lastError).run.Runs a.exchanges (.ok (.inl a.message)) := by
  have hattempt := Async.runs_attempt (runs_attempt hkey htemplate hgpus a)
  refine (Async.runs_answer rfl rfl).mpr ?_
  rw [if_pos a.inTime]
  refine (Async.runs_answer rfl rfl).mpr ?_
  rw [if_neg (not_not.mpr rfl)]
  refine Async.runs_bind_ok hattempt ?_
  exact (Async.runs_answer rfl rfl).mpr (.ret _)

/-- The loop gives up: the last failure is left as a text. -/
lemma runs_giveUp {now : ℚ} (hlate : deadline ≤ now) (rounds : ℕ) (lastError : String) :
    (Async.loop (deployRound cfg deadline) (rounds + 1) lastError).run.Runs [⟨.time, now⟩]
      (.error (.runPodTimeoutError ("Timed out while deploying RunPod pod: " ++ lastError))) := by
  have hround : (deployRound cfg deadline lastError).run.Runs [⟨.time, now⟩]
      (.error (.runPodTimeoutError ("Timed out while deploying RunPod pod: " ++ lastError))) := by
    refine (Async.runs_answer rfl rfl).mpr ?_
    rw [if_neg hlate.not_gt]
    exact .ret _
  rw [Async.loop_succ]
  exact Async.runs_bind_error hround

/-- What the loop remembers of its attempts is the last failure. -/
lemma foldl_message (attempts : List (FailedAttempt cfg deadline)) (h : attempts ≠ [])
    (lastError : String) :
    attempts.foldl (fun _ a => a.message) lastError = (attempts.getLast h).message := by
  obtain ⟨before, a, rfl⟩ := List.eq_nil_or_concat' attempts |>.resolve_left h
  rw [List.foldl_append, List.getLast_append_singleton]
  rfl

/-- **The loop**, by induction on the attempts that are left. -/
lemma runs_deployLoop (hkey : cfg.runpodApiKey ≠ "") (htemplate : cfg.runpodTemplateId ≠ "")
    (hgpus : cfg.runpodGpuTypeIds ≠ []) {now : ℚ} (hlate : deadline ≤ now) :
    ∀ (attempts : List (FailedAttempt cfg deadline)) (rounds : ℕ) (lastError : String),
      attempts.length < rounds →
        (Async.loop (deployRound cfg deadline) rounds lastError).run.Runs
          (attempts.flatMap FailedAttempt.exchanges ++ [⟨.time, now⟩])
          (.error (.runPodTimeoutError ("Timed out while deploying RunPod pod: " ++
            attempts.foldl (fun _ a => a.message) lastError))) := by
  intro attempts
  induction attempts with
  | nil =>
      intro rounds lastError hrounds
      obtain ⟨n, rfl⟩ := Nat.exists_eq_add_one.mpr hrounds
      exact runs_giveUp hlate n lastError
  | cons a attempts ih =>
      intro rounds lastError hrounds
      obtain ⟨n, rfl⟩ := Nat.exists_eq_add_one.mpr (Nat.zero_lt_of_lt hrounds)
      have hrest := ih n a.message (Nat.lt_of_succ_lt_succ hrounds)
      rw [Async.loop_succ, List.flatMap_cons, List.append_assoc, List.foldl_cons]
      exact Async.runs_bind_ok (runs_deployRound hkey htemplate hgpus lastError a) hrest

end Loop

/-! ## The call -/

namespace CapacityCall

variable {cfg : AdapterConfig} (c : CapacityCall cfg)

/-- What is raised when the loop gives up. -/
def gaveUpError : Exn :=
  .runPodTimeoutError ("Timed out while deploying RunPod pod: " ++ c.lastError)

include c in
/-- The adapter is configured, though no pod is active. -/
lemma runs_configured : (configured cfg).run.Runs [⟨.load, Except.ok ""⟩] (.ok true) := by
  have htemplate : cfg.runpodTemplateId ≠ "" := of_decide_eq_true c.templateMode
  have hconfigured : decide (cfg.runpodApiKey ≠ "" ∧ ("" ≠ "" ∨ cfg.runpodTemplateId ≠ "") ∧
      cfg.adapterWhisperxToken ≠ "") = true := decide_eq_true ⟨c.key, .inr htemplate, c.token⟩
  refine (Async.runs_answer rfl rfl).mpr ?_
  rw [hconfigured]
  exact .ret _

/-- The manager finds no pod, and buys none. -/
lemma runs_getOrDeployPod {rounds : ℕ} (hrounds : c.attempts.length < rounds) :
    (getOrDeployPod cfg rounds c.deadline).run.Runs
      (⟨.load, Except.ok ""⟩ :: (c.attempts.flatMap FailedAttempt.exchanges ++ [⟨.time, c.gaveUp⟩]))
      (.error c.gaveUpError) := by
  have htemplate : cfg.runpodTemplateId ≠ "" := of_decide_eq_true c.templateMode
  have hloop := runs_deployLoop c.key htemplate c.gpuTypes c.late c.attempts rounds
    "RunPod deploy did not complete" hrounds
  rw [foldl_message c.attempts c.attempted] at hloop
  refine (Async.runs_answer rfl rfl).mpr ?_
  rw [if_neg (not_not.mpr rfl)]
  exact Async.runs_bind_error hloop

/-- `ensure_ready` raises the timeout. -/
lemma runs_ensureReady {rounds : ℕ} (hrounds : c.attempts.length < rounds) :
    (ensureReady cfg rounds).run.Runs
      ([⟨.load, Except.ok ""⟩] ++ ⟨.time, c.started⟩ :: ⟨.acquireLock, Except.ok ()⟩ ::
        (⟨.load, Except.ok ""⟩ :: (c.attempts.flatMap FailedAttempt.exchanges ++
          [⟨.time, c.gaveUp⟩]) ++ [⟨.releaseLock, ()⟩]))
      (.error c.gaveUpError) := by
  have hready : (readyUnderLock cfg rounds c.deadline).run.Runs _ (.error c.gaveUpError) :=
    Async.runs_bind_error (c.runs_getOrDeployPod hrounds)
  have hrelease : Adapter.releaseLock.run.Runs [⟨.releaseLock, ()⟩] (.ok ()) := .op _ (.ret _)
  refine Async.runs_bind_ok c.runs_configured ?_
  rw [if_pos rfl]
  refine (Async.runs_answer rfl rfl).mpr ((Async.runs_answer rfl rfl).mpr ?_)
  exact Async.runs_tryFinally hready hrelease

/-- **The run of the call.** -/
lemma runs_call {rounds : ℕ} (hrounds : c.attempts.length < rounds) :
    (asr cfg rounds).run.Runs c.exchanges (.ok c.timedOut) := by
  have htry := Async.runs_attempt (Async.runs_bind_error (f := Adapter.forward)
    (c.runs_ensureReady hrounds))
  have hanswer : (answerRequest cfg rounds).run.Runs _ (.ok c.timedOut) :=
    Async.runs_bind_ok htry (Async.runs_ofExcept (errorReply cfg c.gaveUpError))
  have hfinished : Adapter.requestFinished.run.Runs [⟨.requestFinished, Except.ok ()⟩] (.ok ()) :=
    .op _ (.ret _)
  have hbody := Async.runs_tryFinally hanswer hfinished
  have hrun : (asr cfg rounds).run.Runs (⟨.arrive, ()⟩ :: ⟨.requestStarted, Except.ok ()⟩ :: _)
      (.ok c.timedOut) := (Async.runs_answer rfl rfl).mpr ((Async.runs_answer rfl rfl).mpr hbody)
  simpa only [exchanges, List.append_assoc, List.nil_append, List.cons_append, List.append_nil]
    using hrun

end CapacityCall

/-- **Never a 503.**  Whatever the attempts, their number and their times, a call that finds no
capacity is answered, and its answer is a 504 without `Retry-After`. -/
theorem no_capacity_times_out {cfg : AdapterConfig} (c : CapacityCall cfg) {rounds : ℕ}
    (hrounds : c.attempts.length < rounds) (answer : Except Exn Reply) :
    ((asr cfg rounds).run.Runs c.exchanges answer ↔ answer = .ok c.timedOut) ∧
      ((asr cfg rounds).run.Runs c.exchanges answer → ¬ CapacityCall.Unavailable answer) := by
  have hrun := c.runs_call hrounds
  refine ⟨⟨fun h => h.unique hrun, fun h => h ▸ hrun⟩, ?_⟩
  rintro h ⟨body, seconds, hanswer⟩
  cases hanswer.symm.trans (h.unique hrun)

/-- RunPod has no GPU to offer. -/
def noGpuAnswer : HttpAnswer where
  status := 200
  text := "\x7b\"errors\":[\x7b\"message\":\"no available GPU\"\x7d]\x7d"
  json := .ok (.obj [("errors", .arr [.obj [("message", .str "no available GPU")]])])
  errorsText := "[\x7b'message': 'no available GPU'\x7d]"

/-- An attempt that is answered so. -/
def noGpuAttempt (now : ℚ) (h : now < 0 + (600 : ℤ)) : FailedAttempt .template (0 + (600 : ℤ)) where
  now := now
  answer := .ok noGpuAnswer
  message := "RunPod GraphQL returned 200: " ++ noGpuAnswer.text
  inTime := h
  refused := by decide

/-- A call whose two attempts are answered so. -/
def noGpuCall : CapacityCall .template where
  started := 0
  attempts := [noGpuAttempt 0 (by decide +kernel), noGpuAttempt 5 (by decide +kernel)]
  gaveUp := 601
  key := by decide
  token := by decide
  templateMode := by decide
  gpuTypes := by decide
  attempted := List.cons_ne_nil _ _
  late := show (0 : ℚ) + (600 : ℤ) ≤ 601 by decide +kernel

theorem no_capacity_times_out_two_attempts :
    ((asr .template 3).run.Runs noGpuCall.exchanges (.ok noGpuCall.timedOut) ↔
        (.ok noGpuCall.timedOut : Except Exn Reply) = .ok noGpuCall.timedOut) ∧
      ((asr .template 3).run.Runs noGpuCall.exchanges (.ok noGpuCall.timedOut) →
        ¬ CapacityCall.Unavailable (.ok noGpuCall.timedOut)) :=
  no_capacity_times_out noGpuCall (show 2 < 3 by decide) (.ok noGpuCall.timedOut)

/-- **A lack of capacity is not reported as one.** -/
theorem no_capacity_is_not_a_503 : ¬ ∀ answer,
    (asr .template 3).run.Runs noGpuCall.exchanges answer → CapacityCall.Unavailable answer := by
  intro h
  obtain ⟨body, seconds, hanswer⟩ := h _ (noGpuCall.runs_call (by decide))
  cases hanswer

end SpeakrRunpod
