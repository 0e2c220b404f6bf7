import SpeakrRunpod.Adapter.CallMachine
import SpeakrRunpod.Adapter.CallRules

/-!
# The program goes through the machine

Every function of the manager takes a call from one place of the machine to another, whatever its
operations are answered.

* `deployFromTemplateWithRetry_within`, `waitUntilReady_within` — the two loops.
* `ensureReady_through` — a whole call.
* `ensureReady_asks`, `ensureReady_runs` — the stage that a run has come to.
-/

namespace SpeakrRunpod

open Coop

variable (cfg : AdapterConfig)

section Walk

variable {cfg} {deadline : ℚ}

/-- Answered in any way, `x` takes the call from `work` to a place in `Q a`, where it returns `a`,
or in `E e`, where it raises `e`. -/
abbrev Within (cfg : AdapterConfig) (deadline : ℚ) {α : Type} (x : Adapter α) (Q : α → Work → Prop)
    (E : Exn → Work → Prop) (work : Work) : Prop :=
  Async.Obeys (Work.Moves cfg deadline) (fun work o => work.asks cfg = some o) x Q E work

/-- What is raised leaves the lock. -/
abbrev Leaves (e : Exn) (work : Work) : Prop := work = .leave (.error e)

/-! ### Deploying -/

lemma deployFromTemplate_refused {e : Exn} (h : deployRefusal cfg = some e) :
    deployFromTemplate cfg = throw e := by
  rw [deployRefusal] at h
  rw [deployFromTemplate]
  split_ifs at h ⊢ with htemplate htypes hkey
  · cases h
    rfl
  · cases h
    rfl
  · cases h
    rw [graphql, requireApiKey, if_pos hkey]
    rfl

lemma deployFromTemplate_within (h : deployRefusal cfg = none) (pu : Purpose) :
    Within cfg deadline (deployFromTemplate cfg) (fun q work => work = .openFile pu q)
      (fun e work => work = .deployUnlock pu (.error e)) (.buy pu) := by
  rw [deployRefusal] at h
  rw [deployFromTemplate]
  split_ifs at h ⊢ with htemplate htypes hkey
  refine Async.obeys_bind (obeys_graphql hkey rfl ?_)
  intro r work hmoves
  have hread : deployOutcome (deployInput cfg) r =
      (GraphqlCall.podFindAndDeployOnDemand (deployInput cfg)).outcome r >>= extractCreatedPodId :=
    rfl
  cases hr : (GraphqlCall.podFindAndDeployOnDemand (deployInput cfg)).outcome r with
  | error e =>
      rw [hr] at hread
      cases hmoves with
      | bought h => exact absurd (hread.symm.trans h) nofun
      | notBought h =>
          obtain rfl := Except.error.inj (hread.symm.trans h)
          rfl
  | ok payload =>
      rw [hr] at hread
      refine Async.obeys_ofExcept ?_
      show Contract.outcome _ _ (extractCreatedPodId payload) work
      replace hread : deployOutcome (deployInput cfg) r = extractCreatedPodId payload := hread
      rw [← hread]
      cases hmoves with
      | bought h =>
          rw [h]
          rfl
      | notBought h =>
          rw [h]
          rfl

lemma store_within (pu : Purpose) (q : String) {E : Exn → Work → Prop} :
    Within cfg deadline (Adapter.store q) (fun _ work => work = .deployUnlock pu (.ok q)) E
      (.openFile pu q) := by
  refine Async.obeys_bind (Adapter.obeys_openState rfl ?_)
  intro work hmoves
  cases hmoves with
  | opened =>
      refine Adapter.obeys_writeState rfl ?_
      intro work hmoves
      cases hmoves with
      | written => rfl

lemma deployUnderLock_within (pu : Purpose) :
    Within cfg deadline (deployUnderLock cfg) (fun q work => work = .deployUnlock pu (.ok q))
      (fun e work => work = .deployUnlock pu (.error e)) (.lockedLook pu) := by
  refine Async.obeys_bind (Adapter.obeys_load rfl ?_)
  intro r work hmoves
  cases hmoves with
  | lockedFound hp =>
      dsimp only [Contract.outcome]
      rw [if_pos hp]
      exact Async.obeys_pure rfl
  | lockedRefused hrefusal =>
      rw [Contract.outcome, if_neg (not_not.mpr rfl), deployFromTemplate_refused hrefusal]
      exact Async.obeys_throw rfl
  | lockedEmpty hrefusal =>
      rw [Contract.outcome, if_neg (not_not.mpr rfl)]
      refine Async.obeys_bind ((deployFromTemplate_within hrefusal pu).mono ?_ fun _ _ h => h)
      rintro q _ rfl
      refine Async.obeys_bind ((store_within pu q).mono ?_ fun _ _ h => h)
      rintro _ _ rfl
      exact Async.obeys_pure rfl
  | lockedRaises e => rfl

/-- The deploy lock is taken and given back. -/
lemma withDeployLock_within (pu : Purpose) :
    Within cfg deadline (withDeployLock (deployUnderLock cfg)) (fun q work => work = .obtained pu q)
      (fun e work => work = if deployReraises e then .leave (.error e) else .backOff pu e)
      (.deployLock pu) := by
  refine Async.obeys_bind (Adapter.obeys_acquireDeployLock rfl ?_)
  intro r work hmoves
  cases hmoves with
  | deployLockLeft he => exact (if_pos he).symm
  | deployLockRetried he => exact (if_neg he).symm
  | deployLocked =>
      refine Async.obeys_tryFinally ((deployUnderLock_within pu).mono ?_ ?_)
      · rintro q _ rfl
        refine Adapter.obeys_releaseDeployLock rfl ?_
        intro r work hmoves
        cases hmoves with
        | unlockedAlone => rfl
        | unlockedFirst => rfl
        | unlockedAdopts => rfl
        | unlockLeft he => exact (if_pos he).symm
        | unlockRetried he => exact (if_neg he).symm
      · rintro e _ rfl
        refine Adapter.obeys_releaseDeployLock rfl ?_
        intro r work hmoves
        cases hmoves with
        | unlockedLeft he => exact (if_pos he).symm
        | unlockedRetried he => exact (if_neg he).symm
        | unlockLeft he => exact (if_pos he).symm
        | unlockRetried he => exact (if_neg he).symm

lemma deployRound_within (pu : Purpose) (lastError : String) :
    Within cfg deadline (deployRound cfg deadline lastError)
      (Contract.turn (fun lastError work => work = .deployTime pu lastError)
        fun q work => work = .obtained pu q)
      Leaves (.deployTime pu lastError) := by
  refine Async.obeys_bind (Adapter.obeys_time rfl ?_)
  intro now work hmoves
  cases hmoves with
  | deployLate hnow =>
      rw [if_neg hnow]
      exact Async.obeys_throw rfl
  | deployInTime hnow =>
      rw [if_pos hnow]
      refine Async.obeys_bind (Adapter.obeys_load rfl ?_)
      intro r work hmoves
      cases hmoves with
      | deployLookAlone hp =>
          rw [Contract.outcome, if_pos hp]
          exact Async.obeys_pure rfl
      | deployLookFirst hp =>
          rw [Contract.outcome, if_pos hp]
          exact Async.obeys_pure rfl
      | deployLookAdopts hp =>
          rw [Contract.outcome, if_pos hp]
          exact Async.obeys_pure rfl
      | deployLookRaises e => rfl
      | deployLookEmpty =>
          rw [Contract.outcome, if_neg (not_not.mpr rfl)]
          refine Async.obeys_bind (Async.obeys_attempt ((withDeployLock_within pu).mono ?_ ?_))
          · rintro q _ rfl
            exact Async.obeys_pure rfl
          · rintro e _ rfl
            show Within cfg deadline (if deployReraises e then throw e else _) _ _ _
            split_ifs with he
            · exact Async.obeys_throw rfl
            · refine Async.obeys_bind (Adapter.obeys_sleep rfl ?_)
              intro r work hmoves
              cases hmoves with
              | backedOff => exact Async.obeys_pure rfl
              | backOffRaises e' => rfl

/-- **The deploy loop.** -/
theorem deployFromTemplateWithRetry_within (rounds : ℕ) (pu : Purpose) :
    Within cfg deadline (deployFromTemplateWithRetry cfg rounds deadline)
      (fun q work => work = .obtained pu q) Leaves (.deploy pu) := by
  refine Async.obeys_loop (fun lastError work => work = .deployTime pu lastError) ?_ rounds _ _ rfl
  rintro lastError _ rfl
  exact deployRound_within pu lastError

/-- The place where the id of a replacement is adopted. -/
def Work.adopted (reason : Reason) (p : String) : Work :=
  match reason with
  | .inspected => .reinspect p
  | .inactive => .wait p
  | .missing => .pollTime (.replaced p "Replacement RunPod pod has not reported status yet")
  | .stuck => .pollTime (.replaced p "Redeployed after stuck initialization")

lemma replacePod_within (rounds : ℕ) (reason : Reason) (old : String) :
    Within cfg deadline (replacePod cfg rounds deadline old)
      (fun q work => work = .adopted reason q) Leaves (.drop reason old) := by
  refine Async.obeys_bind (Adapter.obeys_note rfl ?_)
  intro work hmoves
  cases hmoves with
  | dropped =>
      refine Async.obeys_bind ((deployFromTemplateWithRetry_within rounds _).mono ?_ fun _ _ h => h)
      rintro q _ rfl
      refine Async.obeys_bind (Adapter.obeys_note rfl ?_)
      intro work hmoves
      cases hmoves <;> exact Async.obeys_pure rfl

/-! ### Terminating -/

lemma terminateOrGone_within (hkey : cfg.runpodApiKey ≠ "") (reason : Reason) (old : String) :
    Within cfg deadline (terminateOrGone cfg old)
      (fun _ work => work = .clearTerminated reason old (.ok ()))
      (fun e work => work = .clearTerminated reason old (.error e)) (.terminate reason old) := by
  refine Async.obeys_bind (Async.obeys_attempt (obeys_terminatePod hkey rfl ?_))
  intro r work hmoves
  cases hmoves with
  | terminated =>
      rw [terminateOutcome]
      cases (GraphqlCall.podTerminate old).outcome r with
      | ok payload => exact Async.obeys_pure rfl
      | error e =>
          show Within cfg deadline (if e.isNotFound then pure () else throw e) _ _
            (.clearTerminated reason old (if e.isNotFound then .ok () else .error e))
          split_ifs
          · exact Async.obeys_pure rfl
          · exact Async.obeys_throw rfl

lemma terminate_within (hkey : cfg.runpodApiKey ≠ "") (reason : Reason) (old : String) :
    Within cfg deadline (terminate cfg old) (fun _ work => work = .drop reason old) Leaves
      (.terminate reason old) := by
  refine Async.obeys_tryFinally ((terminateOrGone_within hkey reason old).mono ?_ ?_)
  · rintro _ _ rfl
    refine Adapter.obeys_clear rfl ?_
    intro work hmoves
    cases hmoves with
    | clearedTerminated => rfl
  · rintro e _ rfl
    refine Adapter.obeys_clear rfl ?_
    intro work hmoves
    cases hmoves with
    | clearedRaises e => rfl

/-! ### Inspecting -/

/-- A pod object is at hand. -/
abbrev Found (cfg : AdapterConfig) (found : String × Pod × Bool) (work : Work) : Prop :=
  Work.FromPod cfg found.1 found.2.1 found.2.2 work

lemma replaceMissingPod_within (hkey : cfg.runpodApiKey ≠ "") (rounds : ℕ) (old message : String) :
    Within cfg deadline (replaceMissingPod cfg rounds deadline old message) (Found cfg) Leaves
      (.clearMissing .inspected old message) := by
  refine Async.obeys_bind (Adapter.obeys_clear rfl ?_)
  intro work hmoves
  cases hmoves with
  | clearedFixed htemplate =>
      rw [if_neg htemplate]
      exact Async.obeys_throw rfl
  | clearedMissing htemplate =>
      rw [if_pos htemplate]
      refine Async.obeys_bind ((replacePod_within rounds .inspected old).mono ?_ fun _ _ h => h)
      rintro q _ rfl
      refine Async.obeys_bind (obeys_getPod hkey rfl ?_)
      intro r work hmoves
      cases hmoves with
      | reinspectRaises hr =>
          rw [hr]
          rfl
      | reinspected hr hwork =>
          rw [hr]
          exact Async.obeys_pure hwork

lemma inspectPod_within (hkey : cfg.runpodApiKey ≠ "") (rounds : ℕ) (podId : String)
    (justDeployed : Bool) :
    Within cfg deadline (inspectPod cfg rounds deadline podId justDeployed) (Found cfg) Leaves
      (.inspect podId justDeployed) := by
  refine Async.obeys_bind (Async.obeys_attempt (obeys_getPod hkey rfl ?_))
  intro r work hmoves
  cases hmoves with
  | inspectMissing hr =>
      rw [hr]
      exact replaceMissingPod_within hkey rounds podId _
  | inspectRaises hr he =>
      rw [hr]
      rename_i e
      cases e with
      | runPodNotFoundError m => exact absurd rfl he
      | _ => exact Async.obeys_throw rfl
  | inspected hr hwork =>
      rw [hr]
      exact Async.obeys_pure hwork

lemma getOrDeployPod_within (hkey : cfg.runpodApiKey ≠ "") (rounds : ℕ) :
    Within cfg deadline (getOrDeployPod cfg rounds deadline) (Found cfg) Leaves .look := by
  refine Async.obeys_bind (Adapter.obeys_load rfl ?_)
  intro r work hmoves
  cases hmoves with
  | lookFound hp =>
      rw [Contract.outcome, if_pos hp]
      exact inspectPod_within hkey rounds _ false
  | lookEmpty =>
      rw [Contract.outcome, if_neg (not_not.mpr rfl)]
      refine Async.obeys_bind ((deployFromTemplateWithRetry_within rounds .first).mono ?_
        fun _ _ h => h)
      rintro q _ rfl
      exact inspectPod_within hkey rounds q true
  | lookRaises e => rfl

/-! ### Waiting -/

/-- The verdict on a probe. -/
lemma wrapperHealthyDetail_within {url : String} {wait : String → Work} {work : Work} {p : String}
    (hasks : work.asks cfg = some (.health (url ++ "/health")))
    (h : ∀ (r : Except Exn HealthAnswer) work',
      Work.Moves cfg deadline work ⟨.health (url ++ "/health"), r⟩ work' →
        Work.Probed p url wait (probeVerdict r) work') :
    Within cfg deadline (wrapperHealthyDetail url)
      (fun verdict work => Work.Probed p url wait (.ok verdict) work) Leaves work := by
  refine obeys_wrapperHealthyDetail hasks ?_
  rintro (e | answer) work' hmoves
  · have hprobed := h (.error e) work' hmoves
    dsimp only
    rw [probeVerdict] at hprobed
    split_ifs at hprobed ⊢
    · exact hprobed
    · cases hprobed with
      | raises e => rfl
  · exact h (.ok answer) work' hmoves

lemma announce_within {podId url : String} {E : Exn → Work → Prop} :
    Within cfg deadline (Adapter.note (.ready podId url)) (fun _ work => work = .leave (.ok url)) E
      (.announce podId url) := by
  refine Adapter.obeys_note rfl ?_
  intro work hmoves
  cases hmoves with
  | announced => rfl

/-- The round is over, and the next one begins or the address is returned. -/
abbrev RoundOver : WaitState ⊕ String → Work → Prop :=
  Contract.turn (fun s work => work = .pollTime s) fun url work => work = .leave (.ok url)

lemma pollAddress_within (s : WaitState) (pod : Pod) (work : Work)
    (h : match extractTcpMapping pod cfg.runpodWrapperPort with
      | .error e => Leaves e work
      | .ok none => work = .pollLate s
      | .ok (some mapping) => work = .pollProbe s mapping) :
    Within cfg deadline (pollAddress cfg s pod) RoundOver Leaves work := by
  rw [pollAddress]
  refine Async.obeys_bind (Async.obeys_ofExcept ?_)
  rcases hmapping : extractTcpMapping pod cfg.runpodWrapperPort with e | _ | mapping
  · rw [hmapping] at h
    exact h
  · rw [hmapping] at h
    obtain rfl : work = .pollLate s := h
    refine Async.obeys_bind (Adapter.obeys_time rfl ?_)
    intro now work hmoves
    cases hmoves with
    | pollWaits now => exact Async.obeys_pure rfl
  · rw [hmapping] at h
    obtain rfl : work = .pollProbe s mapping := h
    have hprobe : Within cfg deadline (wrapperHealthyDetail (mappingUrl mapping))
        (fun verdict work => Work.Probed s.podId (mappingUrl mapping) (fun detail => .pollTime
          (s.failed s!"Wrapper is not healthy at {mappingUrl mapping} ({detail})")) (.ok verdict) work)
        Leaves (.pollProbe s mapping) := by
      refine wrapperHealthyDetail_within rfl fun r work hmoves => ?_
      cases hmoves with
      | pollProbed hprobed => exact hprobed
    refine Async.obeys_bind (hprobe.mono ?_ fun _ _ h => h)
    rintro ⟨healthy, detail⟩ work hprobed
    cases hprobed with
    | healthy detail =>
        refine Async.obeys_bind (announce_within.mono ?_ fun _ _ h => h)
        rintro _ _ rfl
        exact Async.obeys_pure rfl
    | incompatible => exact Async.obeys_throw rfl
    | unhealthy hdetail =>
        dsimp only
        rw [if_neg Bool.false_ne_true, if_neg hdetail]
        exact Async.obeys_pure rfl

lemma pollMissing_within (rounds : ℕ) (podId message : String) :
    Within cfg deadline (pollMissing cfg rounds deadline podId message)
      (fun s work => work = .pollTime s) Leaves (.clearMissing .missing podId message) := by
  refine Async.obeys_bind (Adapter.obeys_clear rfl ?_)
  intro work hmoves
  cases hmoves with
  | clearedFixed htemplate =>
      rw [if_neg htemplate]
      exact Async.obeys_throw rfl
  | clearedMissing htemplate =>
      rw [if_pos htemplate]
      refine Async.obeys_bind ((replacePod_within rounds .missing podId).mono ?_ fun _ _ h => h)
      rintro q _ rfl
      exact Async.obeys_pure rfl

lemma pollStuck_within (hkey : cfg.runpodApiKey ≠ "") (rounds : ℕ) (podId : String) :
    Within cfg deadline (pollStuck cfg rounds deadline podId)
      (fun s work => work = .pollTime s) Leaves (.terminate .stuck podId) := by
  refine Async.obeys_bind ((terminate_within hkey .stuck podId).mono ?_ fun _ _ h => h)
  rintro _ _ rfl
  refine Async.obeys_bind ((replacePod_within rounds .stuck podId).mono ?_ fun _ _ h => h)
  rintro q _ rfl
  exact Async.obeys_pure rfl

lemma pollPod_within (hkey : cfg.runpodApiKey ≠ "") (rounds : ℕ) (s : WaitState) (pod : Pod) :
    Within cfg deadline (pollPod cfg rounds deadline s pod) RoundOver Leaves (.pollNow s pod) := by
  refine Async.obeys_bind (Adapter.obeys_time rfl ?_)
  intro now work hmoves
  cases hmoves with
  | pollFires hfires =>
      rw [hfires]
      refine Async.obeys_bind ((pollStuck_within hkey rounds s.podId).mono ?_ fun _ _ h => h)
      rintro s' _ rfl
      exact Async.obeys_pure rfl
  | pollUnreadable htimer hmapping =>
      rw [htimer]
      refine pollAddress_within _ pod _ ?_
      rw [hmapping]
  | pollUnmapped htimer hmapping =>
      rw [htimer]
      refine pollAddress_within _ pod _ ?_
      rw [hmapping]
      rfl
  | pollMapped htimer hmapping =>
      rw [htimer]
      refine pollAddress_within _ pod _ ?_
      rw [hmapping]
      rfl

lemma waitRound_within (hkey : cfg.runpodApiKey ≠ "") (rounds : ℕ) (s : WaitState) :
    Within cfg deadline (waitRound cfg rounds deadline s) RoundOver Leaves (.pollTime s) := by
  refine Async.obeys_bind (Adapter.obeys_time rfl ?_)
  intro now work hmoves
  cases hmoves with
  | pollTooLate hnow =>
      rw [if_neg hnow]
      exact Async.obeys_throw rfl
  | pollInTime hnow =>
      rw [if_pos hnow]
      refine Async.obeys_bind (Adapter.obeys_sleep rfl ?_)
      intro r work hmoves
      cases hmoves with
      | pollSleepRaises e => rfl
      | pollSlept =>
          refine Async.obeys_bind (Async.obeys_attempt (obeys_getPod hkey rfl ?_))
          intro r work hmoves
          cases hmoves with
          | polled hr =>
              rw [hr]
              exact pollPod_within hkey rounds s _
          | pollMissing hr =>
              rw [hr]
              refine Async.obeys_bind ((pollMissing_within rounds s.podId _).mono ?_
                fun _ _ h => h)
              rintro s' _ rfl
              exact Async.obeys_pure rfl
          | pollRaises hr he =>
              rw [hr]
              rename_i e
              cases e with
              | runPodNotFoundError m => exact absurd rfl he
              | _ => exact Async.obeys_throw rfl

/-- **The poll loop.** -/
theorem waitUntilReady_within (hkey : cfg.runpodApiKey ≠ "") (rounds : ℕ) (podId : String) :
    Within cfg deadline (waitUntilReady cfg rounds deadline podId)
      (fun url work => work = .leave (.ok url)) Leaves (.wait podId) := by
  refine Async.obeys_loop (fun s work => work = .pollTime s) ?_ rounds _ _ rfl
  rintro s _ rfl
  exact waitRound_within hkey rounds s

/-! ### The whole call -/

/-- The pod has no address. -/
lemma handlePodWithoutMapping_within (hkey : cfg.runpodApiKey ≠ "") (rounds : ℕ) {podId : String}
    {pod : Pod} {justDeployed : Bool} {work : Work}
    (hmapping : extractTcpMapping pod cfg.runpodWrapperPort = .ok none)
    (hwork : Work.FromPod cfg podId pod justDeployed work) :
    Within cfg deadline (handlePodWithoutMapping cfg rounds deadline podId pod justDeployed)
      (fun q work => work = .wait q) Leaves work := by
  change Within cfg deadline (if replacesInactive cfg pod justDeployed then _ else _) _ _ work
  cases hwork with
  | unreadable h => exact absurd (hmapping.symm.trans h) nofun
  | mapped h => exact absurd (hmapping.symm.trans h) nofun
  | inactive _ hreplaces =>
      rw [if_pos hreplaces]
      refine Async.obeys_bind ((terminate_within hkey .inactive podId).mono ?_ fun _ _ h => h)
      rintro _ _ rfl
      exact replacePod_within rounds .inactive podId
  | active _ hreplaces htemplate =>
      rw [if_neg hreplaces, if_pos htemplate]
      exact Async.obeys_pure rfl
  | stopped _ htemplate =>
      have hstays : ¬ replacesInactive cfg pod justDeployed := by
        simp [replacesInactive, htemplate]
      rw [if_neg hstays, if_neg htemplate]
      refine Async.obeys_bind (obeys_startPod hkey rfl ?_)
      intro r work hmoves
      cases hmoves with
      | resumed hr =>
          rw [hr]
          exact Async.obeys_pure rfl
      | resumeRaises hr =>
          rw [hr]
          rfl

lemma readyFromPod_within (hkey : cfg.runpodApiKey ≠ "") (rounds : ℕ) {podId : String} {pod : Pod}
    {justDeployed : Bool} {work : Work} (hwork : Work.FromPod cfg podId pod justDeployed work) :
    Within cfg deadline (readyFromPod cfg rounds deadline podId pod justDeployed)
      (fun url work => work = .leave (.ok url)) Leaves work := by
  refine Async.obeys_bind (Async.obeys_ofExcept ?_)
  rcases hmapping : extractTcpMapping pod cfg.runpodWrapperPort with e | _ | mapping
  · cases hwork with
    | unreadable h =>
        obtain rfl := Except.error.inj (hmapping.symm.trans h)
        rfl
    | mapped h => exact absurd (hmapping.symm.trans h) nofun
    | inactive h _ => exact absurd (hmapping.symm.trans h) nofun
    | active h _ _ => exact absurd (hmapping.symm.trans h) nofun
    | stopped h _ => exact absurd (hmapping.symm.trans h) nofun
  · refine Async.obeys_bind ((handlePodWithoutMapping_within hkey rounds hmapping hwork).mono ?_
      fun _ _ h => h)
    rintro q _ rfl
    exact waitUntilReady_within hkey rounds q
  · obtain rfl : work = .probe podId mapping := by
      cases hwork with
      | unreadable h => exact absurd (hmapping.symm.trans h) nofun
      | mapped h =>
          obtain rfl := Option.some.inj (Except.ok.inj (hmapping.symm.trans h))
          rfl
      | inactive h _ => exact absurd (hmapping.symm.trans h) nofun
      | active h _ _ => exact absurd (hmapping.symm.trans h) nofun
      | stopped h _ => exact absurd (hmapping.symm.trans h) nofun
    have hprobe : Within cfg deadline (wrapperHealthyDetail (mappingUrl mapping))
        (fun verdict work => Work.Probed podId (mappingUrl mapping) (fun _ => .wait podId)
          (.ok verdict) work)
        Leaves (.probe podId mapping) := by
      refine wrapperHealthyDetail_within rfl fun r work hmoves => ?_
      cases hmoves with
      | probed hprobed => exact hprobed
    refine Async.obeys_bind (hprobe.mono ?_ fun _ _ h => h)
    rintro ⟨healthy, detail⟩ work hprobed
    cases hprobed with
    | healthy detail =>
        refine Async.obeys_bind (announce_within.mono ?_ fun _ _ h => h)
        rintro _ _ rfl
        exact Async.obeys_pure rfl
    | incompatible => exact Async.obeys_throw rfl
    | unhealthy hdetail =>
        dsimp only
        rw [if_neg Bool.false_ne_true, if_neg hdetail]
        exact waitUntilReady_within hkey rounds podId

theorem readyUnderLock_within (hkey : cfg.runpodApiKey ≠ "") (rounds : ℕ) :
    Within cfg deadline (readyUnderLock cfg rounds deadline)
      (fun url work => work = .leave (.ok url)) Leaves .look := by
  refine Async.obeys_bind ((getOrDeployPod_within hkey rounds).mono ?_ fun _ _ h => h)
  rintro ⟨podId, pod, justDeployed⟩ work hwork
  exact readyFromPod_within hkey rounds hwork

end Walk

/-- Every stage of a call asks for the next operation of the program. -/
abbrev Through {α : Type} (x : Adapter α) (Q : α → Stage → Prop) (E : Exn → Stage → Prop)
    (stage : Stage) : Prop :=
  Async.Obeys (Moves cfg) (fun stage o => stage.asks cfg = some o) x Q E stage

/-- What happens under the lock is a part of the call. -/
lemma through_of_within {deadline : ℚ} {α : Type} {x : Adapter α} {Q : α → Work → Prop}
    {E : Exn → Work → Prop} {work : Work} (h : Within cfg deadline x Q E work) :
    Through cfg x (fun a stage => ∃ work, stage = .under deadline work ∧ Q a work)
      (fun e stage => ∃ work, stage = .under deadline work ∧ E e work) (.under deadline work) := by
  refine Async.Obeys.lift (Stage.under deadline) ?_ ?_ h
  · intro work o hasks
    rw [Stage.asks, hasks]
    rfl
  · intro work o r stage' hasks hmoves
    cases hmoves with
    | under hmoves => exact ⟨_, rfl, hmoves⟩
    | left deadline outcome => cases hasks

lemma withLock_through {deadline : ℚ} (hkey : cfg.runpodApiKey ≠ "") (rounds : ℕ) :
    Through cfg (withLock (readyUnderLock cfg rounds deadline))
      (fun url stage => stage = .ended (.ok url)) (fun e stage => stage = .ended (.error e))
      (.lock deadline) := by
  refine Async.obeys_bind (Adapter.obeys_acquireLock rfl ?_)
  intro r stage hmoves
  cases hmoves with
  | lockRaises _ e => rfl
  | locked =>
      refine Async.obeys_tryFinally
        ((through_of_within cfg (readyUnderLock_within hkey rounds)).mono ?_ ?_)
      · rintro url _ ⟨_, rfl, rfl⟩
        refine Adapter.obeys_releaseLock rfl ?_
        intro stage hmoves
        cases hmoves with
        | under hmoves => cases hmoves
        | left deadline outcome => rfl
      · rintro e _ ⟨_, rfl, rfl⟩
        refine Adapter.obeys_releaseLock rfl ?_
        intro stage hmoves
        cases hmoves with
        | under hmoves => cases hmoves
        | left deadline outcome => rfl

/-- **A call of `ensure_ready` goes through the machine.** -/
theorem ensureReady_through (rounds : ℕ) :
    Through cfg (ensureReady cfg rounds) (fun url stage => stage = .ended (.ok url))
      (fun e stage => stage = .ended (.error e)) .configure := by
  refine Async.obeys_bind (Async.obeys_bind (Adapter.obeys_load rfl ?_))
  intro r stage hmoves
  cases hmoves with
  | configureRaises e => rfl
  | @configured podId hconfigured =>
      have hkey : cfg.runpodApiKey ≠ "" := (of_decide_eq_true hconfigured).1
      refine Async.obeys_pure ?_
      show Through cfg (if isConfigured cfg podId then _ else throw notConfigured) _ _ .start
      rw [if_pos hconfigured]
      refine Async.obeys_bind (Adapter.obeys_time rfl ?_)
      intro now stage hmoves
      cases hmoves with
      | started now => exact withLock_through cfg hkey rounds
  | @unconfigured podId hconfigured =>
      refine Async.obeys_pure ?_
      show Through cfg (if isConfigured cfg podId then _ else throw notConfigured) _ _
        (.ended (.error notConfigured))
      rw [if_neg hconfigured]
      exact Async.obeys_throw rfl

/-- The exchanges of a call, with the stage they lead to. -/
abbrev CallRun (tr : List (Prog.Exchange adapterInterface)) (stage : Stage) : Prop :=
  Prog.Transcript (Moves cfg) .configure tr stage

/-- What a call asks for is what its stage asks for. -/
theorem ensureReady_asks {rounds : ℕ} {tr : List (Prog.Exchange adapterInterface)} {o : Op}
    (h : (ensureReady cfg rounds).run.Asks tr o) :
    ∃ stage, CallRun cfg tr stage ∧ stage.asks cfg = some o :=
  Prog.Obeys.exists_asks (moves_total cfg) (ensureReady_through cfg rounds) h

/-- A call that has ended has come to the end of the machine. -/
theorem ensureReady_runs {rounds : ℕ} {tr : List (Prog.Exchange adapterInterface)}
    {r : Except Exn String} (h : (ensureReady cfg rounds).run.Runs tr r) :
    CallRun cfg tr (.ended r) := by
  obtain ⟨stage, htr, hstage⟩ :=
    Prog.Obeys.exists_runs (moves_total cfg) (ensureReady_through cfg rounds) h
  cases r with
  | error e =>
      obtain rfl : stage = .ended (.error e) := hstage
      exact htr
  | ok url =>
      obtain rfl : stage = .ended (.ok url) := hstage
      exact htr

end SpeakrRunpod
