import SpeakrRunpod.Adapter.CallRules
import SpeakrRunpod.Core.Ending

/-!
# What a call of `ensure_ready` costs

A call of `ensure_ready` ends, whatever it is answered, if the clock goes on by as much as is slept.
Its loops test the deadline and sleep before they go round again, so the number of sleeps is
bounded, and with it the number of pods that are bought and of requests that are sent.

* `Meter`, `Ticks` — the clock, and the counters of what a call costs.
* `Running` — the accounts in the middle of a call: what has been spent, and what may still be spent
  before the next sleep.
* `ready_within_budget` — a call ends within its budget.
-/

namespace SpeakrRunpod

open Coop

/-! ## The meter -/

/-- The clock, and how many sleeps, deploy mutations and requests there were. -/
structure Meter where
  clock : ℚ
  sleeps : ℕ
  deploys : ℕ
  requests : ℕ

def GraphqlCall.deploys : GraphqlCall → ℕ
  | .podFindAndDeployOnDemand _ => 1
  | _ => 0

/-- What an operation costs. -/
def Meter.charge (w : Meter) : Op → Meter
  | .sleep _ => { w with sleeps := w.sleeps + 1 }
  | .graphql call => { w with deploys := w.deploys + call.deploys, requests := w.requests + 1 }
  | .health _ => { w with requests := w.requests + 1 }
  | _ => w

/-- The clock does not go back.  It is read as it is, and a sleep that is not broken off takes as
long as it was asked to, or longer. -/
def Ticks (w : Meter) (x : Prog.Exchange adapterInterface) (w' : Meter) : Prop :=
  w.clock ≤ w'.clock ∧ w' = { w.charge x.1 with clock := w'.clock } ∧
    match x with
    | ⟨.time, now⟩ => w'.clock = now
    | ⟨.sleep seconds, r⟩ => (r : Except Exn Unit) = .ok () → w.clock + seconds ≤ w'.clock
    | _ => True

section Accounts

variable (cfg : AdapterConfig)

/-- How many sleeps there may be: as often as the poll interval fits into the timeout, rounded up.
-/
def AdapterConfig.sleepBudget : ℕ :=
  ⌈(cfg.runpodReadinessTimeoutSeconds / cfg.runpodPollIntervalSeconds : ℚ)⌉₊

/-- **What a call may have spent**: two pods are bought without a sleep before them, and three
requests are sent that belong to no poll and to no deploy. -/
structure Spent (w : Meter) : Prop where
  sleeps : w.sleeps ≤ cfg.sleepBudget
  deploys : w.deploys ≤ w.sleeps + 2
  requests : w.requests ≤ 2 * w.sleeps + w.deploys + 3

/-- What may still be spent. -/
structure Credit where
  sleeps : ℕ
  deploys : ℕ
  requests : ℕ

/-- **The accounts of a call that was started at `start`**: it has slept `least` times or more, the
clock shows it, and there is some credit. -/
structure Running (start : ℚ) (least : ℕ) (credit : Credit) (w : Meter) : Prop where
  paced : start + w.sleeps * cfg.runpodPollIntervalSeconds ≤ w.clock
  least : least ≤ w.sleeps
  sleeps : w.sleeps + credit.sleeps ≤ cfg.sleepBudget
  deploys : w.deploys + credit.deploys ≤ w.sleeps + 2
  requests : w.requests + credit.requests ≤ 2 * w.sleeps + w.deploys + 3

end Accounts

/-! ### What one operation does to the accounts -/

section Accounts

variable {cfg : AdapterConfig} {start : ℚ} {l a b : ℕ} {c : Credit} {w w' : Meter}

lemma Running.spent (h : Running cfg start l c w) : Spent cfg w where
  sleeps := (Nat.le_add_right _ _).trans h.sleeps
  deploys := (Nat.le_add_right _ _).trans h.deploys
  requests := (Nat.le_add_right _ _).trans h.requests

/-- Credit need not be used. -/
lemma Running.less {l' : ℕ} {c' : Credit} (h : Running cfg start l c w) (hl : l' ≤ l)
    (hs : c'.sleeps ≤ c.sleeps) (hd : c'.deploys ≤ c.deploys) (hr : c'.requests ≤ c.requests) :
    Running cfg start l' c' w where
  paced := h.paced
  least := hl.trans h.least
  sleeps := (Nat.add_le_add_left hs _).trans h.sleeps
  deploys := (Nat.add_le_add_left hd _).trans h.deploys
  requests := (Nat.add_le_add_left hr _).trans h.requests

/-- An operation that is free. -/
lemma Running.free {x : Prog.Exchange adapterInterface} (h : Running cfg start l c w)
    (hx : Ticks w x w') (hfree : w.charge x.1 = w) : Running cfg start l c w' := by
  obtain ⟨hclock, heq, -⟩ := hx
  rw [hfree] at heq
  rw [heq]
  exact ⟨h.paced.trans hclock, h.least, h.sleeps, h.deploys, h.requests⟩

/-- A request. -/
lemma Running.request {x : Prog.Exchange adapterInterface}
    (h : Running cfg start l ⟨c.sleeps, c.deploys, c.requests + 1⟩ w) (hx : Ticks w x w')
    (hcharge : w.charge x.1 = { w with requests := w.requests + 1 }) :
    Running cfg start l c w' := by
  obtain ⟨hclock, heq, -⟩ := hx
  rw [hcharge] at heq
  rw [heq]
  refine ⟨h.paced.trans hclock, h.least, h.sleeps, h.deploys, ?_⟩
  have hrequests := h.requests
  dsimp only at hrequests ⊢
  omega

/-- A deploy mutation. -/
lemma Running.deploy {input : DeployInput} {r : Except Exn HttpAnswer}
    (h : Running cfg start l ⟨c.sleeps, c.deploys + 1, c.requests⟩ w)
    (hx : Ticks w ⟨.graphql (.podFindAndDeployOnDemand input), r⟩ w') :
    Running cfg start l c w' := by
  obtain ⟨hclock, heq, -⟩ := hx
  rw [heq]
  have hdeploys := h.deploys
  have hrequests := h.requests
  dsimp only at hdeploys hrequests
  refine ⟨h.paced.trans hclock, h.least, h.sleeps, ?_, ?_⟩
  · show w.deploys + 1 + c.deploys ≤ w.sleeps + 2
    omega
  · show w.requests + 1 + c.requests ≤ 2 * w.sleeps + (w.deploys + 1) + 3
    omega

/-- **Before the deadline there is credit for a sleep.** -/
lemma Running.test (hpoll : 0 < cfg.runpodPollIntervalSeconds)
    (h : Running cfg start l ⟨0, a, b⟩ w) {now : ℚ} (hx : Ticks w ⟨.time, now⟩ w')
    (hnow : now < start + cfg.runpodReadinessTimeoutSeconds) :
    Running cfg start l ⟨1, a, b⟩ w' := by
  have h' := h.free hx rfl
  have hshows : w'.clock = now := hx.2.2
  have hpoll' : (0 : ℚ) < cfg.runpodPollIntervalSeconds := Int.cast_pos.mpr hpoll
  have hlt : w'.sleeps < cfg.sleepBudget := by
    rw [AdapterConfig.sleepBudget, Nat.lt_ceil, lt_div_iff₀ hpoll']
    have hpaced := h'.paced
    rw [hshows] at hpaced
    linarith only [hpaced, hnow]
  exact ⟨h'.paced, h'.least, hlt, h'.deploys, h'.requests⟩

/-- **A sleep** pays for a pod and for two requests. -/
lemma Running.sleep (h : Running cfg start l ⟨1, a, b⟩ w) {r : Except Exn Unit}
    (hx : Ticks w ⟨.sleep cfg.runpodPollIntervalSeconds, r⟩ w') :
    Contract.outcome (fun _ => Running cfg start (l + 1) ⟨0, a + 1, b + 2⟩) (fun _ => Spent cfg)
      r w' := by
  obtain ⟨hclock, heq, hslept⟩ := hx
  have hleast := h.least
  have hsleeps := h.sleeps
  have hdeploys := h.deploys
  have hrequests := h.requests
  dsimp only at hsleeps hdeploys hrequests
  cases r with
  | error e =>
      rw [heq]
      refine ⟨hsleeps, ?_, ?_⟩
      · show w.deploys ≤ w.sleeps + 1 + 2
        omega
      · show w.requests ≤ 2 * (w.sleeps + 1) + w.deploys + 3
        omega
  | ok _ =>
      have hlater : w.clock + cfg.runpodPollIntervalSeconds ≤ w'.clock := hslept rfl
      rw [heq]
      refine ⟨?_, Nat.succ_le_succ hleast, hsleeps, ?_, ?_⟩
      · show start + ((w.sleeps + 1 : ℕ) : ℚ) * cfg.runpodPollIntervalSeconds ≤ w'.clock
        have hpaced := h.paced
        rw [Nat.cast_add, Nat.cast_one, add_mul, one_mul]
        linarith only [hpaced, hlater]
      · show w.deploys + (a + 1) ≤ w.sleeps + 1 + 2
        omega
      · show w.requests + (b + 2) ≤ 2 * (w.sleeps + 1) + w.deploys + 3
        omega

end Accounts

/-! ## What the parts of a call cost -/

section Parts

variable {cfg : AdapterConfig} {start : ℚ} {l a b rounds : ℕ} {c : Credit} {w : Meter}

/-- What an operation that is free and may raise comes to. -/
lemma free_outcome {o : Op} {α : Type} (h : Running cfg start l c w) (hfree : w.charge o = w)
    (r : o.Res) {w' : Meter} (hx : Ticks w ⟨o, r⟩ w') (out : Except Exn α) :
    Contract.outcome (fun _ => Running cfg start l c) (fun _ => Running cfg start l c) out w' := by
  cases out <;> exact h.free hx hfree

lemma request_outcome {o : Op} {α : Type}
    (h : Running cfg start l ⟨c.sleeps, c.deploys, c.requests + 1⟩ w)
    (hcharge : w.charge o = { w with requests := w.requests + 1 }) (r : o.Res) {w' : Meter}
    (hx : Ticks w ⟨o, r⟩ w') (out : Except Exn α) :
    Contract.outcome (fun _ => Running cfg start l c) (fun _ => Running cfg start l c) out w' := by
  cases out <;> exact h.request hx hcharge

/-! ### Deploying -/

lemma halts_graphql (call : GraphqlCall) : (graphql cfg call).run.Halts := by
  refine Async.halts_bind ?_ fun _ => Async.halts_bind ?_ fun _ => Async.halts_ofExcept _
  · rw [requireApiKey]
    split_ifs <;> trivial
  · exact fun r => trivial

lemma halts_getPod (podId : String) : (getPod cfg podId).run.Halts :=
  Async.halts_bind (halts_graphql _) fun _ => Async.halts_ofExcept _

lemma halts_deployUnderLock : (deployUnderLock cfg).run.Halts := by
  refine Async.halts_bind (fun _ => trivial) fun existing => ?_
  split_ifs
  · trivial
  · refine Async.halts_bind ?_ fun _ => Async.halts_bind (fun _ _ => trivial) fun _ => trivial
    rw [deployFromTemplate]
    split_ifs
    · trivial
    · trivial
    · exact Async.halts_bind (halts_graphql _) fun _ => Async.halts_ofExcept _

lemma halts_withDeployLock : (withDeployLock (deployUnderLock cfg)).run.Halts :=
  Async.halts_bind (fun _ => trivial) fun _ =>
    Async.halts_tryFinally halts_deployUnderLock fun _ => trivial

/-- An attempt to deploy costs one mutation, if any. -/
lemma deployUnderLock_obeys (hkey : cfg.runpodApiKey ≠ "")
    (h : Running cfg start l ⟨c.sleeps, c.deploys + 1, c.requests⟩ w) :
    Async.Obeys Ticks (fun _ _ => True) (deployUnderLock cfg) (fun _ => Running cfg start l c)
      (fun _ => Running cfg start l c) w := by
  have hless : ∀ {w'}, Running cfg start l ⟨c.sleeps, c.deploys + 1, c.requests⟩ w' →
      Running cfg start l c w' :=
    fun h' => h'.less le_rfl le_rfl (Nat.le_succ _) le_rfl
  rw [deployUnderLock]
  refine Async.obeys_bind (Adapter.obeys_load trivial fun r w₁ hx => ?_)
  have h₁ := h.free hx rfl
  cases r with
  | error e => exact hless h₁
  | ok existing =>
      show Async.Obeys _ _ (if _ then _ else _) _ _ w₁
      split_ifs
      · exact Async.obeys_pure (hless h₁)
      · refine Async.obeys_bind ?_
        rw [deployFromTemplate]
        split_ifs
        · exact Async.obeys_throw (hless h₁)
        · exact Async.obeys_throw (hless h₁)
        · refine Async.obeys_bind (obeys_graphql hkey trivial fun r w₂ hx₂ => ?_)
          have h₂ : Running cfg start l c w₂ := h₁.deploy hx₂
          cases (GraphqlCall.podFindAndDeployOnDemand (deployInput cfg)).outcome r with
          | error e => exact h₂
          | ok payload =>
              refine Async.obeys_ofExcept ?_
              cases extractCreatedPodId payload with
              | error e => exact h₂
              | ok podId =>
                  refine Async.obeys_bind (Async.obeys_bind ?_)
                  refine Adapter.obeys_openState trivial fun w₃ hx₃ => ?_
                  refine Adapter.obeys_writeState trivial fun w₄ hx₄ => ?_
                  exact Async.obeys_pure ((h₂.free hx₃ rfl).free hx₄ rfl)

lemma withDeployLock_ends (hkey : cfg.runpodApiKey ≠ "")
    (h : Running cfg start l ⟨c.sleeps, c.deploys + 1, c.requests⟩ w) :
    Async.Ends Ticks (withDeployLock (deployUnderLock cfg)) (fun _ => Running cfg start l c)
      (fun _ => Running cfg start l c) w := by
  refine Async.ends_of_obeys halts_withDeployLock ?_
  refine Async.obeys_bind (Adapter.obeys_acquireDeployLock trivial fun r w₁ hx => ?_)
  have h₁ := h.free hx rfl
  have hrelease : ∀ w₂, Running cfg start l c w₂ →
      Async.Obeys Ticks (fun _ _ => True) Adapter.releaseDeployLock
        (fun _ => Running cfg start l c) (fun _ => Running cfg start l c) w₂ :=
    fun w₂ h₂ => Adapter.obeys_releaseDeployLock trivial fun r w₃ hx₃ =>
      free_outcome (o := .releaseDeployLock) h₂ rfl r hx₃ r
  cases r with
  | error e => exact h₁.less le_rfl le_rfl (Nat.le_succ _) le_rfl
  | ok _ =>
      exact Async.obeys_tryFinally ((deployUnderLock_obeys hkey h₁).mono
        (fun _ w₂ h₂ => hrelease w₂ h₂) fun _ w₂ h₂ => hrelease w₂ h₂)

/-- **The deploy loop** costs one mutation that it does not pay for by a sleep. -/
lemma deployFromTemplateWithRetry_ends (hkey : cfg.runpodApiKey ≠ "")
    (hpoll : 0 < cfg.runpodPollIntervalSeconds) (hrounds : cfg.sleepBudget < l + rounds)
    (h : Running cfg start l ⟨0, a + 1, b⟩ w) :
    Async.Ends Ticks
      (deployFromTemplateWithRetry cfg rounds (start + cfg.runpodReadinessTimeoutSeconds))
      (fun _ => Running cfg start l ⟨0, a, b⟩) (fun _ => Spent cfg) w := by
  refine Async.ends_loop (fun n _ w => ∃ l', l ≤ l' ∧ cfg.sleepBudget < l' + n ∧
    Running cfg start l' ⟨0, a + 1, b⟩ w) ?_ ?_ rounds _ w ⟨l, le_rfl, hrounds, h⟩
  · rintro _ w ⟨l', -, hlt, h⟩
    have hleast := h.least
    have hsleeps := h.sleeps
    dsimp only at hsleeps
    omega
  · rintro n lastError w ⟨l', hl, hlt, h⟩
    rw [deployRound]
    refine Async.ends_bind (fun (now : ℚ) w₁ hx => ?_)
    show Async.Ends _ (if _ then _ else _) _ _ w₁
    split_ifs with hnow
    · refine Async.ends_bind (fun r w₂ hx₂ => ?_)
      have h₂ := (h.test hpoll hx hnow).free hx₂ rfl
      cases (r : Except Exn String) with
      | error e => exact h₂.spent
      | ok existing =>
          show Async.Ends _ (if _ then _ else _) _ _ w₂
          split_ifs
          · exact Async.ends_pure (h₂.less hl (Nat.zero_le _) (Nat.le_succ _) le_rfl)
          · refine Async.ends_bind (Async.ends_attempt ((withDeployLock_ends (c := ⟨1, a, b⟩) hkey
              h₂).mono ?_ ?_))
            · intro podId w₃ h₃
              exact Async.ends_pure (h₃.less hl (Nat.zero_le _) le_rfl le_rfl)
            · intro e w₃ h₃
              show Async.Ends _ (if _ then _ else _) _ _ w₃
              split_ifs
              · exact Async.ends_throw h₃.spent
              · refine Async.ends_bind (fun r w₄ hx₄ => ?_)
                have h₄ := h₃.sleep hx₄
                cases (r : Except Exn Unit) with
                | error e => exact h₄
                | ok _ =>
                    exact ⟨l' + 1, hl.trans (Nat.le_succ _), by omega,
                      Running.less h₄ le_rfl le_rfl le_rfl (Nat.le_add_right _ _)⟩
    · exact Async.ends_throw (h.free hx rfl).spent

/-! ### Polling -/

lemma getPod_ends (hkey : cfg.runpodApiKey ≠ "") {podId : String}
    (h : Running cfg start l ⟨c.sleeps, c.deploys, c.requests + 1⟩ w) :
    Async.Ends Ticks (getPod cfg podId) (fun _ => Running cfg start l c)
      (fun _ => Running cfg start l c) w :=
  Async.ends_of_obeys (halts_getPod _)
    (obeys_getPod hkey trivial fun r _ hx =>
      request_outcome (o := .graphql (.pod podId)) h rfl r hx _)

lemma startPod_ends (hkey : cfg.runpodApiKey ≠ "") {podId : String}
    (h : Running cfg start l ⟨c.sleeps, c.deploys, c.requests + 1⟩ w) :
    Async.Ends Ticks (startPod cfg podId) (fun _ => Running cfg start l c)
      (fun _ => Running cfg start l c) w :=
  Async.ends_of_obeys
    (Async.halts_bind (halts_graphql _) fun _ => trivial)
    (obeys_startPod hkey trivial fun r _ hx =>
      request_outcome (o := .graphql (.podResume podId cfg.runpodGpuCount)) h rfl r hx _)

lemma halts_wrapperHealthyDetail (url : String) : (wrapperHealthyDetail url).run.Halts := by
  refine Async.halts_bind (Async.halts_attempt fun _ => trivial) ?_
  rintro (e | answer)
  · dsimp only
    split_ifs <;> trivial
  · trivial

lemma wrapperHealthyDetail_ends {url : String}
    (h : Running cfg start l ⟨c.sleeps, c.deploys, c.requests + 1⟩ w) :
    Async.Ends Ticks (wrapperHealthyDetail url) (fun _ => Running cfg start l c)
      (fun _ => Running cfg start l c) w := by
  refine Async.ends_of_obeys (halts_wrapperHealthyDetail _)
    (obeys_wrapperHealthyDetail trivial fun r w' hx => ?_)
  have h' := h.request hx rfl
  cases r with
  | ok answer => exact h'
  | error e =>
      dsimp only
      split_ifs <;> exact h'

lemma terminate_ends (hkey : cfg.runpodApiKey ≠ "") {podId : String}
    (h : Running cfg start l ⟨c.sleeps, c.deploys, c.requests + 1⟩ w) :
    Async.Ends Ticks (terminate cfg podId) (fun _ => Running cfg start l c)
      (fun _ => Running cfg start l c) w := by
  have hclear : ∀ w', Running cfg start l c w' → Async.Ends Ticks (Adapter.clear podId)
      (fun _ => Running cfg start l c) (fun _ => Running cfg start l c) w' :=
    fun w' h' _ w'' hx => h'.free hx rfl
  have hpod : Async.Ends Ticks (terminatePod cfg podId) (fun _ => Running cfg start l c)
      (fun _ => Running cfg start l c) w :=
    Async.ends_of_obeys
      (Async.halts_bind (halts_graphql _) fun _ => trivial)
      (obeys_terminatePod hkey trivial fun r _ hx =>
        request_outcome (o := .graphql (.podTerminate podId)) h rfl r hx _)
  refine Async.ends_tryFinally (Async.ends_bind (Async.ends_attempt (hpod.mono ?_ ?_)))
  · exact fun _ w' h' => Async.ends_pure (hclear w' h')
  · intro e w' h'
    show Async.Ends _ (if _ then _ else _) _ _ w'
    split_ifs
    · exact Async.ends_pure (hclear w' h')
    · exact Async.ends_throw (hclear w' h')

variable (hkey : cfg.runpodApiKey ≠ "") (hpoll : 0 < cfg.runpodPollIntervalSeconds)
include hkey hpoll

lemma replacePod_ends (hrounds : cfg.sleepBudget < l + rounds) {podId : String}
    (h : Running cfg start l ⟨0, a + 1, b⟩ w) :
    Async.Ends Ticks (replacePod cfg rounds (start + cfg.runpodReadinessTimeoutSeconds) podId)
      (fun _ => Running cfg start l ⟨0, a, b⟩) (fun _ => Spent cfg) w := by
  refine Async.ends_bind (fun _ w₁ hx₁ => ?_)
  refine Async.ends_bind ((deployFromTemplateWithRetry_ends hkey hpoll hrounds
    (h.free hx₁ rfl)).mono (fun newId w₂ h₂ => ?_) fun _ _ he => he)
  exact Async.ends_bind fun _ w₃ hx₃ => h₂.free hx₃ rfl

/-- A poll of a missing pod. -/
lemma pollMissing_ends (hrounds : cfg.sleepBudget < l + rounds) {podId message : String}
    (h : Running cfg start l ⟨0, a + 1, b⟩ w) :
    Async.Ends Ticks
      (pollMissing cfg rounds (start + cfg.runpodReadinessTimeoutSeconds) podId message)
      (fun _ => Running cfg start l ⟨0, a, b⟩) (fun _ => Spent cfg) w := by
  refine Async.ends_bind (fun _ w₁ hx₁ => ?_)
  have h₁ := h.free hx₁ rfl
  show Async.Ends _ (if _ then _ else _) _ _ w₁
  split_ifs
  · exact Async.ends_bind ((replacePod_ends hkey hpoll hrounds h₁).mono
      (fun _ _ h₂ => Async.ends_pure h₂) fun _ _ he => he)
  · exact Async.ends_throw h₁.spent

/-- A poll at which the watchdog fires. -/
lemma pollStuck_ends (hrounds : cfg.sleepBudget < l + rounds) {podId : String}
    (h : Running cfg start l ⟨0, a + 1, b + 1⟩ w) :
    Async.Ends Ticks (pollStuck cfg rounds (start + cfg.runpodReadinessTimeoutSeconds) podId)
      (fun _ => Running cfg start l ⟨0, a, b⟩) (fun _ => Spent cfg) w := by
  refine Async.ends_bind ((terminate_ends (c := ⟨0, a + 1, b⟩) hkey h).mono (fun _ w₁ h₁ => ?_)
    fun _ _ he => he.spent)
  exact Async.ends_bind ((replacePod_ends hkey hpoll hrounds h₁).mono
    (fun _ _ h₂ => Async.ends_pure h₂) fun _ _ he => he)

omit hkey hpoll in
/-- The rest of a poll. -/
lemma pollAddress_ends {s : WaitState} {pod : Pod} (h : Running cfg start l ⟨0, a, b + 1⟩ w) :
    Async.Ends Ticks (pollAddress cfg s pod) (fun _ => Running cfg start l ⟨0, a, b⟩)
      (fun _ => Spent cfg) w := by
  refine Async.ends_bind (Async.ends_ofExcept ?_)
  cases extractTcpMapping pod cfg.runpodWrapperPort with
  | error e => exact h.spent
  | ok mapping =>
      cases mapping with
      | none =>
          exact Async.ends_bind fun _ w₁ hx₁ =>
            Running.less (h.free hx₁ rfl) le_rfl le_rfl le_rfl (Nat.le_succ _)
      | some mapping =>
          refine Async.ends_bind ((wrapperHealthyDetail_ends (c := ⟨0, a, b⟩) h).mono ?_
            fun _ _ he => he.spent)
          rintro ⟨healthy, detail⟩ w₁ h₁
          show Async.Ends _ (if _ then _ else _) _ _ w₁
          split_ifs
          · exact Async.ends_bind fun _ w₂ hx₂ => h₁.free hx₂ rfl
          · exact Async.ends_throw h₁.spent
          · exact Async.ends_pure h₁

/-- **A poll** is paid for by its sleep. -/
lemma waitRound_ends (hrounds : cfg.sleepBudget < rounds) {s : WaitState}
    (h : Running cfg start l ⟨0, a, b⟩ w) :
    Async.Ends Ticks (waitRound cfg rounds (start + cfg.runpodReadinessTimeoutSeconds) s)
      (fun _ => Running cfg start (l + 1) ⟨0, a, b⟩) (fun _ => Spent cfg) w := by
  have hrounds' : cfg.sleepBudget < l + 1 + rounds := by omega
  refine Async.ends_bind (fun (now : ℚ) w₁ hx₁ => ?_)
  show Async.Ends _ (if _ then _ else _) _ _ w₁
  split_ifs with hnow
  · refine Async.ends_bind (fun (r : Except Exn Unit) w₂ hx₂ => ?_)
    have hslept := (h.test hpoll hx₁ hnow).sleep hx₂
    cases r with
    | error e => exact hslept
    | ok _ =>
        have h₂ : Running cfg start (l + 1) ⟨0, a + 1, b + 2⟩ w₂ := hslept
        refine Async.ends_bind (Async.ends_attempt ((getPod_ends (c := ⟨0, a + 1, b + 1⟩) hkey
          h₂).mono ?_ ?_))
        · intro pod w₃ h₃
          refine Async.ends_bind (fun (now : ℚ) w₄ hx₄ => ?_)
          have h₄ := h₃.free hx₄ rfl
          show Contract.outcome _ _ (.ok now) w₄
          cases hwatchdog : watchdog cfg s pod now with
          | fire =>
              simp only [Contract.outcome, hwatchdog]
              exact Async.ends_bind ((pollStuck_ends hkey hpoll hrounds' h₄).mono
                (fun _ _ h₅ => Async.ends_pure h₅) fun _ _ he => he)
          | timer since =>
              simp only [Contract.outcome, hwatchdog]
              exact (pollAddress_ends h₄).mono (fun _ _ h₅ => Running.less h₅ le_rfl le_rfl
                (Nat.le_succ _) le_rfl) fun _ _ he => he
        · intro e w₃ h₃
          have h₃' : Running cfg start (l + 1) ⟨0, a + 1, b⟩ w₃ :=
            Running.less h₃ le_rfl le_rfl le_rfl (Nat.le_succ _)
          have hraise : ∀ e' : Exn, Async.Ends Ticks (throw e' : Adapter (WaitState ⊕ String))
              (fun _ => Running cfg start (l + 1) ⟨0, a, b⟩) (fun _ => Spent cfg) w₃ :=
            fun e' => Async.ends_throw h₃.spent
          cases e with
          | runPodNotFoundError message =>
              exact Async.ends_bind ((pollMissing_ends hkey hpoll hrounds' h₃').mono
                (fun _ _ h₅ => Async.ends_pure h₅) fun _ _ he => he)
          | _ => exact hraise _
  · exact Async.ends_throw (h.free hx₁ rfl).spent

lemma waitUntilReady_ends (hrounds : cfg.sleepBudget < rounds) {podId : String}
    (h : Running cfg start l ⟨0, a, b⟩ w) :
    Async.Ends Ticks (waitUntilReady cfg rounds (start + cfg.runpodReadinessTimeoutSeconds) podId)
      (fun _ => Spent cfg) (fun _ => Spent cfg) w := by
  refine Async.ends_loop (fun n _ w => ∃ l, cfg.sleepBudget < l + n ∧
    Running cfg start l ⟨0, a, b⟩ w) ?_ ?_ rounds _ w ⟨l, by omega, h⟩
  · rintro _ w ⟨l, hlt, h⟩
    have hleast := h.least
    have hsleeps := h.sleeps
    dsimp only at hsleeps
    omega
  · rintro n s w ⟨l, hlt, h⟩
    refine (waitRound_ends hkey hpoll hrounds h).mono ?_ fun _ _ he => he
    rintro (s' | url) w' h'
    · exact ⟨l + 1, by omega, h'⟩
    · exact h'.spent

/-! ### Getting hold of a pod -/

/-- The credit that is left once a pod object is at hand: if it is not of a pod that was just
deployed, no pod was bought. -/
def afterInspection (justDeployed : Bool) : Credit := ⟨0, if justDeployed then 0 else 2, 1⟩

lemma replaceMissingPod_ends (hrounds : cfg.sleepBudget < l + rounds) {podId message : String}
    (h : Running cfg start l ⟨0, 1, 2⟩ w) :
    Async.Ends Ticks
      (replaceMissingPod cfg rounds (start + cfg.runpodReadinessTimeoutSeconds) podId message)
      (fun got => Running cfg start l (afterInspection got.2.2)) (fun _ => Spent cfg) w := by
  refine Async.ends_bind (fun _ w₁ hx₁ => ?_)
  have h₁ := h.free hx₁ rfl
  show Async.Ends _ (if _ then _ else _) _ _ w₁
  split_ifs
  · refine Async.ends_bind ((replacePod_ends hkey hpoll hrounds h₁).mono (fun newId w₂ h₂ => ?_)
      fun _ _ he => he)
    exact Async.ends_bind ((getPod_ends (c := ⟨0, 0, 1⟩) hkey h₂).mono
      (fun _ _ h₃ => Async.ends_pure h₃) fun _ _ he => he.spent)
  · exact Async.ends_throw h₁.spent

lemma inspectPod_ends (hrounds : cfg.sleepBudget < l + rounds) {podId : String}
    {justDeployed : Bool}
    (h : Running cfg start l ⟨0, if justDeployed then 1 else 2, 3⟩ w) :
    Async.Ends Ticks
      (inspectPod cfg rounds (start + cfg.runpodReadinessTimeoutSeconds) podId justDeployed)
      (fun got => Running cfg start l (afterInspection got.2.2)) (fun _ => Spent cfg) w := by
  refine Async.ends_bind (Async.ends_attempt ((getPod_ends
    (c := ⟨0, if justDeployed then 1 else 2, 2⟩) hkey h).mono ?_ ?_))
  · refine fun pod w₁ h₁ => Async.ends_pure (h₁.less le_rfl le_rfl ?_ (Nat.le_succ _))
    cases justDeployed
    · exact le_rfl
    · exact Nat.zero_le _
  · intro e w₁ h₁
    have hraise : ∀ e' : Exn, Async.Ends Ticks (throw e' : Adapter (String × Pod × Bool))
        (fun got => Running cfg start l (afterInspection got.2.2)) (fun _ => Spent cfg) w₁ :=
      fun e' => Async.ends_throw h₁.spent
    cases e with
    | runPodNotFoundError message =>
        refine replaceMissingPod_ends hkey hpoll hrounds (h₁.less le_rfl le_rfl ?_ le_rfl)
        cases justDeployed
        · exact Nat.le_succ 1
        · exact le_rfl
    | _ => exact hraise _

lemma getOrDeployPod_ends (hrounds : cfg.sleepBudget < l + rounds)
    (h : Running cfg start l ⟨0, 2, 3⟩ w) :
    Async.Ends Ticks (getOrDeployPod cfg rounds (start + cfg.runpodReadinessTimeoutSeconds))
      (fun got => Running cfg start l (afterInspection got.2.2)) (fun _ => Spent cfg) w := by
  refine Async.ends_bind (fun (r : Except Exn String) w₁ hx₁ => ?_)
  have h₁ := h.free hx₁ rfl
  cases r with
  | error e => exact h₁.spent
  | ok podId =>
      show Async.Ends _ (if _ then _ else _) _ _ w₁
      split_ifs
      · exact inspectPod_ends hkey hpoll hrounds h₁
      · exact Async.ends_bind ((deployFromTemplateWithRetry_ends hkey hpoll hrounds h₁).mono
          (fun _ _ h₂ => inspectPod_ends hkey hpoll hrounds h₂) fun _ _ he => he)

lemma handlePodWithoutMapping_ends (hrounds : cfg.sleepBudget < l + rounds) {podId : String}
    {pod : Pod} {justDeployed : Bool} (h : Running cfg start l (afterInspection justDeployed) w) :
    Async.Ends Ticks (handlePodWithoutMapping cfg rounds
        (start + cfg.runpodReadinessTimeoutSeconds) podId pod justDeployed)
      (fun _ => Running cfg start l ⟨0, 0, 0⟩) (fun _ => Spent cfg) w := by
  rw [handlePodWithoutMapping]
  split_ifs with hreplace
  · obtain rfl : justDeployed = false := by
      cases justDeployed with
      | false => rfl
      | true => simp at hreplace
    refine Async.ends_bind ((terminate_ends (c := ⟨0, 2, 0⟩) hkey h).mono (fun _ w₁ h₁ => ?_)
      fun _ _ he => he.spent)
    exact (replacePod_ends hkey hpoll hrounds h₁).mono
      (fun _ _ h₂ => Running.less h₂ le_rfl le_rfl (Nat.zero_le _) le_rfl) fun _ _ he => he
  · exact Async.ends_pure (h.less le_rfl le_rfl (Nat.zero_le _) (Nat.zero_le _))
  · exact Async.ends_bind ((startPod_ends (c := ⟨0, 0, 0⟩) hkey
      (h.less le_rfl le_rfl (Nat.zero_le _) le_rfl)).mono (fun _ _ h₁ => Async.ends_pure h₁)
      fun _ _ he => he.spent)

lemma readyFromPod_ends (hrounds : cfg.sleepBudget < rounds) {podId : String} {pod : Pod}
    {justDeployed : Bool} (h : Running cfg start l (afterInspection justDeployed) w) :
    Async.Ends Ticks (readyFromPod cfg rounds (start + cfg.runpodReadinessTimeoutSeconds) podId
      pod justDeployed) (fun _ => Spent cfg) (fun _ => Spent cfg) w := by
  refine Async.ends_bind (Async.ends_ofExcept ?_)
  cases extractTcpMapping pod cfg.runpodWrapperPort with
  | error e => exact h.spent
  | ok mapping =>
      cases mapping with
      | none =>
          exact Async.ends_bind ((handlePodWithoutMapping_ends hkey hpoll
            (hrounds.trans_le (Nat.le_add_left _ _)) h).mono
              (fun _ _ h₁ => waitUntilReady_ends hkey hpoll hrounds h₁) fun _ _ he => he)
      | some mapping =>
          refine Async.ends_bind ((wrapperHealthyDetail_ends (c := ⟨0, 0, 0⟩)
            (h.less le_rfl le_rfl (Nat.zero_le _) le_rfl)).mono ?_ fun _ _ he => he.spent)
          rintro ⟨healthy, detail⟩ w₁ h₁
          show Async.Ends _ (if _ then _ else _) _ _ w₁
          split_ifs
          · exact Async.ends_bind fun _ w₂ hx₂ => (h₁.free hx₂ rfl).spent
          · exact Async.ends_throw h₁.spent
          · exact waitUntilReady_ends hkey hpoll hrounds h₁

lemma readyUnderLock_ends (hrounds : cfg.sleepBudget < rounds)
    (h : Running cfg start l ⟨0, 2, 3⟩ w) :
    Async.Ends Ticks (withLock
        (readyUnderLock cfg rounds (start + cfg.runpodReadinessTimeoutSeconds)))
      (fun _ => Spent cfg) (fun _ => Spent cfg) w := by
  have hrelease : ∀ w', Spent cfg w' → Async.Ends Ticks Adapter.releaseLock (fun _ => Spent cfg)
      (fun _ => Spent cfg) w' := by
    rintro w' h' _ w'' ⟨-, heq, -⟩
    rw [heq]
    exact ⟨h'.sleeps, h'.deploys, h'.requests⟩
  refine Async.ends_bind (fun (r : Except Exn Unit) w₁ hx₁ => ?_)
  have h₁ := h.free hx₁ rfl
  cases r with
  | error e => exact h₁.spent
  | ok _ =>
      refine Async.ends_tryFinally (Async.ends_bind ((getOrDeployPod_ends hkey hpoll
        (hrounds.trans_le (Nat.le_add_left _ _)) h₁).mono ?_ fun _ => hrelease))
      exact fun got w₂ h₂ => (readyFromPod_ends hkey hpoll hrounds h₂).mono
        (fun _ => hrelease) fun _ => hrelease

end Parts

/-- **A call of `ensure_ready` ends within its budget.**  Let `n` be how often the poll interval,
which is positive, fits into the readiness timeout, rounded up.  Whatever the record, the locks,
RunPod and the wrapper answer, the call returns or raises, and it has slept at most `n` times, sent
at most `n + 2` deploy mutations, and at most `3 * n + 5` requests in all. -/
theorem ready_within_budget {cfg : AdapterConfig} {rounds : ℕ}
    (hpoll : 0 < cfg.runpodPollIntervalSeconds) (hrounds : cfg.sleepBudget < rounds) (t : ℚ) :
    Async.Ensures Ticks (ensureReady cfg rounds)
      (fun _ w => w.sleeps ≤ cfg.sleepBudget ∧ w.deploys ≤ cfg.sleepBudget + 2 ∧
        w.requests ≤ 3 * cfg.sleepBudget + 5) ⟨t, 0, 0, 0⟩ := by
  have hends : Async.Ends Ticks (ensureReady cfg rounds) (fun _ => Spent cfg) (fun _ => Spent cfg)
      ⟨t, 0, 0, 0⟩ := by
    have hnone : ∀ t, Spent cfg ⟨t, 0, 0, 0⟩ :=
      fun _ => ⟨Nat.zero_le _, Nat.zero_le _, Nat.zero_le _⟩
    refine Async.ends_bind (Async.ends_bind (fun (r : Except Exn String) w₁ hx₁ => ?_))
    obtain ⟨t₁, rfl⟩ : ∃ t₁, w₁ = ⟨t₁, 0, 0, 0⟩ := ⟨w₁.clock, hx₁.2.1⟩
    cases r with
    | error e => exact hnone t₁
    | ok podId =>
        show Async.Ends _ (if _ then _ else _) _ _ _
        split_ifs with hconfigured
        · have hkey : cfg.runpodApiKey ≠ "" := (of_decide_eq_true hconfigured).1
          refine Async.ends_bind (fun (now : ℚ) w₂ hx₂ => ?_)
          have hshows : w₂.clock = now := hx₂.2.2
          obtain rfl : w₂ = ⟨now, 0, 0, 0⟩ := by
            rw [hx₂.2.1, hshows]
            rfl
          refine readyUnderLock_ends (l := 0) hkey hpoll hrounds ⟨?_, ?_, ?_, ?_, ?_⟩
          · show now + ((0 : ℕ) : ℚ) * cfg.runpodPollIntervalSeconds ≤ now
            rw [Nat.cast_zero, zero_mul, add_zero]
          · exact Nat.zero_le _
          · exact Nat.zero_le _
          · exact Nat.le_refl 2
          · exact Nat.le_refl 3
        · exact Async.ends_throw (hnone t₁)
  refine Async.Ensures.mono hends ?_
  rintro (e | url) w h <;>
    exact ⟨h.sleeps, h.deploys.trans (Nat.add_le_add_right h.sleeps 2), by
      have hsleeps := h.sleeps
      have hdeploys := h.deploys
      have hrequests := h.requests
      omega⟩

/-- With the default timeouts a call buys 122 pods at the most. -/
theorem template_ready_within_budget :
    Async.Ensures Ticks (ensureReady .template 121)
      (fun _ w => w.sleeps ≤ 120 ∧ w.deploys ≤ 122 ∧ w.requests ≤ 365) ⟨0, 0, 0, 0⟩ := by
  have hbudget : AdapterConfig.template.sleepBudget = 120 := by
    rw [AdapterConfig.sleepBudget]
    norm_num [AdapterConfig.template, AdapterConfig.defaults]
  have h := @ready_within_budget .template 121 (by decide) (by rw [hbudget]; decide) 0
  rw [hbudget] at h
  exact h

end SpeakrRunpod
