import SpeakrRunpod.Adapter.CallMachine
import SpeakrRunpod.Adapter.ReadyBudget

/-!
# A pod that comes up is waited for

`ensure_ready` gives up at its deadline, and in template mode it replaces a pod whose start makes no
progress.  Neither happens to a pod that comes up soon enough: the call returns an address.

* `ComingUp`, `Serves` — RunPod and the wrapper of one pod, which are up from some time on, and how
  long each step takes.
* `ComingUp.latest` — when the last poll begins, at the latest.
* `ready_in_time` — the call returns an address, soon after the pod is up.
-/

namespace SpeakrRunpod

open Coop

/-- The pod on record and its wrapper are up at `up`.  No step of the call takes longer than
`slack`, beyond the seconds that it sleeps. -/
structure ComingUp where
  podId : String
  podId_ne : podId ≠ ""
  url : String
  up : ℚ
  slack : ℚ
  slack_nonneg : 0 ≤ slack

/-- What a query of the pod reports at `t`: a pod, with the address of the wrapper once it is up; in
template mode a pod without an address is one that is starting. -/
structure ComingUp.Reports (s : ComingUp) (cfg : AdapterConfig) (t : ℚ) (pod : Pod)
    (mapping : Option (String × PyInt)) : Prop where
  reads : extractTcpMapping pod cfg.runpodWrapperPort = .ok mapping
  upAddress : s.up ≤ t → mapping.map mappingUrl = some s.url
  starting : mapping = none → cfg.templateModeEnabled → podIsExpectedRunning pod

/-- **How the world answers a call**, from `t` to `t'`: the pod is on record, the locks are free,
RunPod reports the pod and accepts a resume, and a probe is not refused; a probe of the wrapper that
is up finds it healthy. -/
def Serves (s : ComingUp) (cfg : AdapterConfig) (t : ℚ) (x : Prog.Exchange adapterInterface)
    (t' : ℚ) : Prop :=
  t ≤ t' ∧ match x with
    | ⟨.sleep seconds, r⟩ =>
        (r : Except Exn Unit) = .ok () ∧ t + seconds ≤ t' ∧ t' ≤ t + seconds + s.slack
    | ⟨.time, now⟩ => t' ≤ t + s.slack ∧ now = t'
    | ⟨.load, r⟩ => t' ≤ t + s.slack ∧ (r : Except Exn String) = .ok s.podId
    | ⟨.acquireLock, r⟩ => t' ≤ t + s.slack ∧ (r : Except Exn Unit) = .ok ()
    | ⟨.graphql (.pod podId), r⟩ => t' ≤ t + s.slack ∧
        (podId = s.podId → ∃ pod mapping, podOutcome podId r = .ok pod ∧
          s.Reports cfg t pod mapping)
    | ⟨.graphql (.podResume podId n), r⟩ => t' ≤ t + s.slack ∧
        ∃ payload, (GraphqlCall.podResume podId n).outcome r = .ok payload
    | ⟨.health url, r⟩ => t' ≤ t + s.slack ∧ ∃ healthy detail,
        probeVerdict r = .ok (healthy, detail) ∧ detail ≠ "protocol_incompatible" ∧
          (s.up ≤ t → url = s.url ++ "/health" → healthy = true)
    | _ => t' ≤ t + s.slack

namespace ComingUp

variable (s : ComingUp) (cfg : AdapterConfig)

/-- When the last poll begins, at the latest, in a call that was made at `start`. -/
def latest (start : ℚ) : ℚ := max (s.up + 3 * s.slack) (start + 6 * s.slack)

/-- **The pod comes up in time** for a call that is made at `start`: the last poll begins before the
deadline, and ends before the watchdog can fire. -/
structure InTime (start : ℚ) : Prop where
  deadline : s.latest start + s.slack < start + cfg.runpodReadinessTimeoutSeconds
  watchdog : cfg.templateModeEnabled → 0 < cfg.runpodStuckInitTimeoutSeconds →
    s.latest start + cfg.runpodPollIntervalSeconds + 4 * s.slack ≤
      start + cfg.runpodStuckInitTimeoutSeconds

/-- When the call has returned. -/
def returned (start : ℚ) : ℚ :=
  s.latest start + cfg.runpodPollIntervalSeconds + 7 * s.slack

/-- **At the head of the poll loop**, after `k` polls. -/
structure Waiting (start : ℚ) (k : ℕ) (st : WaitState) (t : ℚ) : Prop where
  podId : st.podId = s.podId
  since : ∀ since, st.stuckInitSince = some since → start ≤ since
  paced : start + k * cfg.runpodPollIntervalSeconds ≤ t
  soon : t ≤ s.latest start

end ComingUp

section Call

variable {s : ComingUp} {cfg : AdapterConfig} {start deadline t : ℚ} {k rounds : ℕ}

/-- What a call comes to. -/
def ComingUp.Returned (s : ComingUp) (cfg : AdapterConfig) (start : ℚ) (r : Except Exn String)
    (t : ℚ) : Prop := (∃ url, r = .ok url) ∧ t ≤ s.returned cfg start

/-- A query of the pod. -/
lemma getPod_serves (hkey : cfg.runpodApiKey ≠ "") {Q : Pod → ℚ → Prop} {E : Exn → ℚ → Prop}
    (h : ∀ pod mapping t', t ≤ t' → t' ≤ t + s.slack → s.Reports cfg t pod mapping → Q pod t') :
    Async.Ends (Serves s cfg) (getPod cfg s.podId) Q E t := by
  refine Async.ends_of_obeys (halts_getPod _)
    (obeys_getPod hkey trivial ?_)
  rintro r t' ⟨hle, hslack, hreports⟩
  obtain ⟨pod, mapping, hpod, hmapping⟩ := hreports rfl
  rw [hpod]
  exact h pod mapping t' hle hslack hmapping

/-- A probe. -/
lemma probe_serves {url : String} {Q : Bool × String → ℚ → Prop} {E : Exn → ℚ → Prop}
    (h : ∀ healthy detail t', t ≤ t' → t' ≤ t + s.slack → detail ≠ "protocol_incompatible" →
      (s.up ≤ t → url = s.url → healthy = true) → Q (healthy, detail) t') :
    Async.Ends (Serves s cfg) (wrapperHealthyDetail url) Q E t := by
  refine Async.ends_of_obeys (halts_wrapperHealthyDetail _)
    (obeys_wrapperHealthyDetail trivial ?_)
  rintro r t' ⟨hle, hslack, healthy, detail, hverdict, hdetail, hup⟩
  have hpost := h healthy detail t' hle hslack hdetail fun hs hurl => hup hs (by rw [hurl])
  cases r with
  | ok answer =>
      have heq : healthVerdict answer = (healthy, detail) := Except.ok.inj hverdict
      show Q (healthVerdict answer) t'
      rwa [heq]
  | error e =>
      rw [probeVerdict] at hverdict
      dsimp only
      split_ifs at hverdict ⊢
      · rw [Except.ok.inj hverdict]
        exact hpost

/-- The watchdog is quiet as long as less than its time has gone by since the call was made. -/
lemma watchdog_quiet {st : WaitState} {pod : Pod} {now : ℚ}
    (hsince : ∀ since, st.stuckInitSince = some since → start ≤ since) (hstart : start ≤ now)
    (hnow : cfg.templateModeEnabled → 0 < cfg.runpodStuckInitTimeoutSeconds →
      now ≤ start + cfg.runpodStuckInitTimeoutSeconds) :
    ∃ since, watchdog cfg st pod now = .timer since ∧ ∀ x, since = some x → start ≤ x := by
  rw [watchdog]
  split_ifs with hstuck
  · have htimer : ∀ since, timerAfterProgress st pod = some since → start ≤ since := by
      intro since h
      rw [timerAfterProgress] at h
      split at h
      · exact hsince since h
      · split_ifs at h
        exact hsince since h
    simp only [stuckInit, Bool.and_eq_true, decide_eq_true_eq] at hstuck
    cases hprogress : timerAfterProgress st pod with
    | none => exact ⟨some now, rfl, fun x hx => (Option.some.inj hx) ▸ hstart⟩
    | some since =>
        have hquiet : ¬ (cfg.runpodStuckInitTimeoutSeconds : ℚ) < now - since := by
          have hlate := hnow hstuck.1.1.1 hstuck.1.1.2
          have hearly := htimer since hprogress
          exact not_lt.mpr (by linarith only [hlate, hearly])
        refine ⟨some since, if_neg hquiet, fun x hx => ?_⟩
        exact (Option.some.inj hx) ▸ htimer since hprogress
  · exact ⟨none, rfl, fun x hx => nomatch hx⟩

/-- At the head of the poll loop for the first time. -/
lemma first_head (hstart : start ≤ t) (hsoon : t ≤ start + 6 * s.slack) :
    s.Waiting cfg start 0 (.replaced s.podId "Pod is not ready") t where
  podId := rfl
  since := nofun
  paced := by
    rw [Nat.cast_zero, zero_mul, add_zero]
    exact hstart
  soon := le_max_of_le_right hsoon

variable (hkey : cfg.runpodApiKey ≠ "") (hpoll : 0 < cfg.runpodPollIntervalSeconds)
  (hin : s.InTime cfg start) (hdeadline : start + cfg.runpodReadinessTimeoutSeconds ≤ deadline)
include hkey hpoll hin hdeadline

/-- **A poll** finds the pod up, or it is not up yet. -/
lemma waitRound_serves {st : WaitState} (h : s.Waiting cfg start k st t) :
    Async.Ends (Serves s cfg) (waitRound cfg rounds deadline st)
      (Contract.turn (s.Waiting cfg start (k + 1))
        (fun _ t' => t' + s.slack ≤ s.returned cfg start)) (fun _ _ => False) t := by
  have hpoll' : (0 : ℚ) < cfg.runpodPollIntervalSeconds := Int.cast_pos.mpr hpoll
  have hpaced := h.paced
  have hsoon := h.soon
  have hslack := s.slack_nonneg
  have hk : (0 : ℚ) ≤ k * cfg.runpodPollIntervalSeconds :=
    mul_nonneg (Nat.cast_nonneg k) hpoll'.le
  refine Async.ends_bind ?_
  rintro (now : ℚ) t₁ ⟨hle₁, hslack₁, rfl⟩
  have hnow : now < deadline := by
    have hbefore := hin.deadline
    linarith only [hbefore, hdeadline, hslack₁, hsoon]
  show Async.Ends _ (if _ then _ else _) _ _ now
  rw [if_pos hnow]
  refine Async.ends_bind ?_
  rintro (r : Except Exn Unit) t₂ ⟨-, hr, hle₂, hslack₂⟩
  obtain rfl : r = .ok () := hr
  refine Async.ends_bind (Async.ends_attempt ?_)
  rw [h.podId]
  refine getPod_serves hkey fun pod mapping t₃ hle₃ hslack₃ hreports => ?_
  refine Async.ends_bind ?_
  rintro (now' : ℚ) t₄ ⟨hle₄, hslack₄, rfl⟩
  obtain ⟨since, hwatchdog, hsince⟩ : ∃ since, watchdog cfg st pod now' = .timer since ∧
      ∀ x, since = some x → start ≤ x := by
    refine watchdog_quiet h.since (by linarith only [hpaced, hk, hle₁, hle₂, hle₃, hle₄, hpoll'])
      fun htemplate hstuck => ?_
    have hquiet := hin.watchdog htemplate hstuck
    linarith only [hquiet, hsoon, hslack₁, hslack₂, hslack₃, hslack₄]
  -- What goes on is a poll before the pod is up.
  have hagain : ∀ lastError t', now' ≤ t' → t' ≤ now' + s.slack → t₂ < s.up →
      s.Waiting cfg start (k + 1) { st with
        stuckInitSince := since
        progressPrev := some (startupProgressFingerprint pod)
        lastError } t' := by
    intro lastError t' hle hlate hup
    refine ⟨h.podId, hsince, ?_, le_max_of_le_left ?_⟩
    · rw [Nat.cast_add, Nat.cast_one, add_mul, one_mul]
      linarith only [hpaced, hle₁, hle₂, hle₃, hle₄, hle]
    · linarith only [hup, hslack₃, hslack₄, hlate]
  show Contract.outcome _ _ (.ok now') now'
  simp only [Contract.outcome, hwatchdog]
  refine Async.ends_bind (Async.ends_ofExcept ?_)
  rw [hreports.reads]
  cases mapping with
  | none =>
      refine Async.ends_bind ?_
      rintro (now'' : ℚ) t₅ ⟨hle₅, hslack₅, rfl⟩
      refine hagain _ now'' hle₅ hslack₅ (not_le.mp fun hup => ?_)
      cases hreports.upAddress hup
  | some mapping =>
      refine Async.ends_bind (probe_serves fun healthy detail t₅ hle₅ hslack₅ hdetail hup => ?_)
      show Async.Ends _ (if _ then _ else _) _ _ t₅
      split_ifs with hhealthy
      · refine Async.ends_bind ?_
        rintro ⟨⟩ t₆ ⟨-, hslack₆⟩
        show t₆ + s.slack ≤ s.returned cfg start
        rw [ComingUp.returned]
        linarith only [hsoon, hslack₁, hslack₂, hslack₃, hslack₄, hslack₅, hslack₆]
      · refine hagain _ t₅ hle₅ hslack₅ (not_le.mp fun hup₂ => hhealthy ?_)
        refine hup (by linarith only [hup₂, hle₃, hle₄]) ?_
        exact Option.some.inj (hreports.upAddress hup₂)

/-- **The poll loop** comes to the poll that finds the pod up. -/
lemma waitUntilReady_serves (hrounds : cfg.sleepBudget < rounds)
    (h : s.Waiting cfg start 0 (.replaced s.podId "Pod is not ready") t) :
    Async.Ends (Serves s cfg) (waitUntilReady cfg rounds deadline s.podId)
      (fun _ t' => t' + s.slack ≤ s.returned cfg start) (fun _ _ => False) t := by
  refine Async.ends_loop (fun n st t => ∃ k, s.Waiting cfg start k st t ∧ cfg.sleepBudget < k + n)
    ?_ ?_ rounds _ t ⟨0, h, by omega⟩
  · rintro st t ⟨k, h, hlt⟩
    have hpoll' : (0 : ℚ) < cfg.runpodPollIntervalSeconds := Int.cast_pos.mpr hpoll
    have hk : k < cfg.sleepBudget := by
      rw [AdapterConfig.sleepBudget, Nat.lt_ceil, lt_div_iff₀ hpoll']
      have hpaced := h.paced
      have hsoon := h.soon
      have hbefore := hin.deadline
      have hslack := s.slack_nonneg
      linarith only [hpaced, hsoon, hbefore, hslack]
    omega
  · rintro n st t ⟨k, h, hlt⟩
    refine (waitRound_serves hkey hpoll hin hdeadline h).mono ?_ fun _ _ he => he
    rintro (st' | url) t' h'
    · exact ⟨k + 1, h', by omega⟩
    · exact h'

lemma readyFromPod_serves (hrounds : cfg.sleepBudget < rounds) {pod : Pod}
    {mapping : Option (String × PyInt)} {seen : ℚ} (hreports : s.Reports cfg seen pod mapping)
    (hstart : start ≤ t) (hsoon : t ≤ start + 5 * s.slack) :
    Async.Ends (Serves s cfg) (readyFromPod cfg rounds deadline s.podId pod false)
      (fun _ t' => t' + s.slack ≤ s.returned cfg start) (fun _ _ => False) t := by
  have hslack := s.slack_nonneg
  have hwait : ∀ t', t ≤ t' → t' ≤ t + s.slack →
      Async.Ends (Serves s cfg) (waitUntilReady cfg rounds deadline s.podId)
        (fun _ t' => t' + s.slack ≤ s.returned cfg start) (fun _ _ => False) t' :=
    fun t' hle hlate => waitUntilReady_serves hkey hpoll hin hdeadline hrounds
      (first_head (by linarith only [hstart, hle]) (by linarith only [hsoon, hlate]))
  refine Async.ends_bind (Async.ends_ofExcept ?_)
  rw [hreports.reads]
  cases mapping with
  | none =>
      refine Async.ends_bind ?_
      rw [handlePodWithoutMapping]
      by_cases htemplate : cfg.templateModeEnabled
      · have hrunning := hreports.starting rfl htemplate
        rw [if_neg (by simp [hrunning]), if_pos htemplate]
        exact Async.ends_pure (hwait t le_rfl (by linarith only [hslack]))
      · rw [if_neg (by simp [htemplate]), if_neg htemplate]
        refine Async.ends_bind (Async.ends_of_obeys
          (Async.halts_bind (halts_graphql _) fun _ => trivial)
          (obeys_startPod hkey trivial ?_))
        rintro r t₁ ⟨hle₁, hslack₁, payload, hpayload⟩
        rw [hpayload]
        exact Async.ends_pure (hwait t₁ hle₁ hslack₁)
  | some mapping =>
      refine Async.ends_bind (probe_serves fun healthy detail t₁ hle₁ hslack₁ hdetail _ => ?_)
      show Async.Ends _ (if _ then _ else _) _ _ t₁
      split_ifs
      · refine Async.ends_bind ?_
        rintro ⟨⟩ t₂ ⟨-, hslack₂⟩
        show t₂ + s.slack ≤ s.returned cfg start
        have hpoll' : (0 : ℚ) < cfg.runpodPollIntervalSeconds := Int.cast_pos.mpr hpoll
        have hlatest : start + 6 * s.slack ≤ s.latest start := le_max_right _ _
        rw [ComingUp.returned]
        linarith only [hsoon, hslack₁, hslack₂, hpoll', hlatest, hslack]
      · exact hwait t₁ hle₁ hslack₁

lemma readyUnderLock_serves (hrounds : cfg.sleepBudget < rounds) (hstart : start ≤ t)
    (hsoon : t ≤ start + 2 * s.slack) :
    Async.Ends (Serves s cfg) (withLock (readyUnderLock cfg rounds deadline))
      (fun _ t' => t' ≤ s.returned cfg start) (fun _ _ => False) t := by
  refine Async.ends_bind ?_
  rintro (r : Except Exn Unit) t₁ ⟨hle₁, hslack₁, hr⟩
  obtain rfl : r = .ok () := hr
  refine Async.ends_tryFinally (Async.ends_bind (Async.ends_bind ?_))
  rintro (r : Except Exn String) t₂ ⟨hle₂, hslack₂, hr₂⟩
  obtain rfl : r = .ok s.podId := hr₂
  show Async.Ends _ (if s.podId ≠ "" then _ else _) _ _ t₂
  rw [if_pos s.podId_ne]
  refine Async.ends_bind (Async.ends_attempt ?_)
  refine getPod_serves hkey fun pod mapping t₃ hle₃ hslack₃ hreports => ?_
  refine Async.ends_pure ((readyFromPod_serves hkey hpoll hin hdeadline hrounds hreports
    (by linarith only [hstart, hle₁, hle₂, hle₃])
    (by linarith only [hsoon, hslack₁, hslack₂, hslack₃])).mono ?_ fun _ _ he => he.elim)
  rintro url t₄ hreturned _ t₅ ⟨-, hslack₅⟩
  exact hslack₅.trans hreturned

end Call

/-- **A pod that comes up in time is waited for.**  Suppose the pod on record and its wrapper are up
at some time, and no step of a call takes longer than `slack` beyond the seconds that it sleeps.  If
the last poll begins before the deadline, and is over before the watchdog can fire, then the call
returns an address, at most one poll interval and seven slacks after that poll was due: it neither
gives up nor replaces the pod. -/
theorem ready_in_time {s : ComingUp} {cfg : AdapterConfig} {rounds : ℕ} {start : ℚ}
    (hkey : cfg.runpodApiKey ≠ "") (htoken : cfg.adapterWhisperxToken ≠ "")
    (hpoll : 0 < cfg.runpodPollIntervalSeconds) (hrounds : cfg.sleepBudget < rounds)
    (hin : s.InTime cfg start) :
    Async.Ensures (Serves s cfg) (ensureReady cfg rounds) (s.Returned cfg start) start := by
  have hends : Async.Ends (Serves s cfg) (ensureReady cfg rounds)
      (fun _ t => t ≤ s.returned cfg start) (fun _ _ => False) start := by
    refine Async.ends_bind (Async.ends_bind ?_)
    rintro (r : Except Exn String) t₁ ⟨hle₁, hslack₁, hr⟩
    obtain rfl : r = .ok s.podId := hr
    show Async.Ends _ (if _ then _ else _) _ _ t₁
    rw [if_pos (decide_eq_true ⟨hkey, .inl s.podId_ne, htoken⟩)]
    refine Async.ends_bind ?_
    rintro (now : ℚ) t₂ ⟨hle₂, hslack₂, rfl⟩
    exact readyUnderLock_serves hkey hpoll hin (by linarith only [hle₁, hle₂]) hrounds
      (hle₁.trans hle₂) (by linarith only [hslack₁, hslack₂])
  refine Async.Ensures.mono hends ?_
  rintro (e | url) t h
  · exact h.elim
  · exact ⟨⟨url, rfl⟩, h⟩

/-- A pod that takes four minutes, where no step takes longer than two seconds. -/
def ComingUp.slow : ComingUp := ⟨"pod", by decide, "http://1.2.3.4:40000", 240, 2, by norm_num⟩

/-- With the default settings it is waited for. -/
theorem template_ready_in_time :
    Async.Ensures (Serves .slow .template) (ensureReady .template 121)
      (ComingUp.Returned .slow .template 0) 0 := by
  have hbudget : AdapterConfig.template.sleepBudget = 120 := by
    rw [AdapterConfig.sleepBudget]
    norm_num [AdapterConfig.template, AdapterConfig.defaults]
  refine ready_in_time (by decide) (by decide) (by decide) (by rw [hbudget]; decide) ⟨?_, ?_⟩
  · norm_num [ComingUp.slow, ComingUp.latest, AdapterConfig.template, AdapterConfig.defaults]
  · intro _ _
    norm_num [ComingUp.slow, ComingUp.latest, AdapterConfig.template, AdapterConfig.defaults]

end SpeakrRunpod
