import SpeakrRunpod.Adapter.ManagerLogic

/-!
# Reasoning about the whole process

The handler of `/asr` and the timer task around the functions of `Adapter/ManagerLogic.lean`.  A
`ProcessView` adds the assertions that hold before, between and after them, and
`ProcessView.sound` turns it into an invariant of every state that any number of requests and
timer tasks can reach.
-/

namespace SpeakrRunpod

open Coop

/-- The task of one `/asr` call. -/
def requestTask (cfg : AdapterConfig) (rounds : ℕ) : Adapter Unit := do
  let _ ← asr cfg rounds

/-- The tasks of the process: the requests that will arrive and the timers that will be created. -/
def process (cfg : AdapterConfig) (rounds : ℕ) :
    TaskId → Prog adapterInterface (Except Exn Unit)
  | .request _ => (requestTask cfg rounds).run
  | .idle _ => (idleTask cfg).run

variable {policy : Policy} {C : Contract (system policy)}

structure ProcessView (cfg : AdapterConfig) (C : Contract (system policy)) where
  manager : ∀ n, ManagerView cfg C n
  release : ∀ n, ReleaseView C n
  /-- the request `n` has not started -/
  outside : ℕ → World → Prop
  /-- it has started and does not hold the manager's lock -/
  flying : ℕ → World → Prop
  /-- the timer task `n` does not execute a release -/
  calm : ℕ → World → Prop
  outside_stays : ∀ n, C.Stays (.request n) (outside n)
  flying_stays : ∀ n, C.Stays (.request n) (flying n)
  calm_stays : ∀ n, C.Stays (.idle n) (calm n)
  starts : ∀ {n w}, outside n w → policy (.request n) .arrive () w →
    C.guar (.request n) w (w.requestStarted (.request n)) ∧
      flying n (w.requestStarted (.request n))
  acquires : ∀ {n w}, flying n w → w.lock = none →
    C.guar (.request n) w { w with lock := some (.request n) } ∧
      (manager n).seek none { w with lock := some (.request n) }
  releases : ∀ {n w}, (manager n).leave w →
    C.guar (.request n) w { w with lock := none } ∧ flying n { w with lock := none }
  finishes : ∀ {n w}, flying n w → C.guar (.request n) w (w.requestFinished (.request n)) ∧
    C.inv (w.requestFinished (.request n))
  delivered : ∀ {n w}, calm n w → C.guar (.idle n) w (w.delivered (.idle n)) ∧
    calm n (w.delivered (.idle n))
  enters : ∀ {n w}, calm n w → n ∉ w.controller.cancelling → w.controller.activeRequests = 0 →
    C.guar (.idle n) w (w.noted (.idle n) .releaseEntered) ∧
      (release n).enter (w.noted (.idle n) .releaseEntered)
  leaves : ∀ {n w}, (release n).watch w →
    C.guar (.idle n) w (w.noted (.idle n) .releaseLeft) ∧ calm n (w.noted (.idle n) .releaseLeft)
  exits : ∀ {n w}, calm n w → C.guar (.idle n) w (w.exit (.idle n)) ∧ C.inv (w.exit (.idle n))

namespace ProcessView

variable {cfg : AdapterConfig} (P : ProcessView cfg C)

/-! ## Requests -/

theorem ensureReady_spec {n rounds : ℕ} {w : World} (h : P.flying n w) :
    C.wpE (.request n) (ensureReady cfg rounds) (fun _ => P.flying n) (fun _ => P.flying n) w := by
  rw [ensureReady, C.wpE_bind, configured, C.wpE_bind, wpE_load]
  cases w.load with
  | error e => exact h
  | ok p =>
      show C.wpE _ (if _ then _ else _) _ _ w
      split_ifs with hc
      · have hkey : cfg.runpodApiKey ≠ "" := (of_decide_eq_true hc).1
        rw [C.wpE_bind]
        refine C.wpE_mono (wpE_time (P.flying_stays n) h) (fun now w₁ h₁ => ?_) fun _ _ => id
        exact (P.manager n).withLock_spec hkey (P.flying_stays n) P.acquires P.releases h₁
      · exact h

theorem answerRequest_spec {n rounds : ℕ} {w : World} (h : P.flying n w) :
    C.wpE (.request n) (answerRequest cfg rounds) (fun _ => P.flying n) (fun _ => P.flying n)
      w := by
  have hmap : ∀ e w', P.flying n w' →
      C.wpE (.request n) (Async.ofExcept (errorReply cfg e)) (fun _ => P.flying n)
        (fun _ => P.flying n) w' := by
    intro e w' hw'
    rw [C.wpE_ofExcept]
    cases errorReply cfg e <;> exact hw'
  rw [answerRequest, C.wpE_bind, C.wpE_attempt, C.wpE_bind]
  refine C.wpE_mono (P.ensureReady_spec h) (fun url w₁ h₁ => ?_) fun e w₁ h₁ => hmap e w₁ h₁
  exact C.wpE_mono (wpE_forward (P.flying_stays n) h₁ url) (fun _ _ h₂ => h₂) fun e w₂ h₂ =>
    hmap e w₂ h₂

theorem requestFinished_spec {n : ℕ} {w : World} (h : P.flying n w) :
    C.wpE (.request n) Adapter.requestFinished (fun _ => C.inv) (fun _ => C.inv) w := by
  refine (C.wp_exec rfl).mpr ⟨(P.finishes h).1, ?_⟩
  cases (w.controller.requestFinished w.load).1 <;> exact (P.finishes h).2

theorem requestTask_spec (rounds : ℕ) {n : ℕ} {w : World} (h : P.outside n w) :
    C.wpE (.request n) (requestTask cfg rounds) (fun _ => C.inv) (fun _ => C.inv) w := by
  rw [requestTask, C.wpE_bind, asr, C.wpE_bind]
  refine (C.wp_wait rfl).mpr
    ⟨C.guar_refl _ w, (P.outside_stays n).inv h, fun w₁ r w₂ h₁ h₂ h₃ => ?_⟩
  have hw₁ := (P.outside_stays n).rely h h₁ h₂
  obtain ⟨hp, he⟩ := @answer_request policy _ .arrive _ _ _ h₃
  cases he
  refine ⟨C.guar_refl _ w₁, ?_⟩
  show C.wpE _ (Adapter.requestStarted >>= _) _ _ w₁
  rw [C.wpE_bind]
  refine (C.wp_exec rfl).mpr ⟨(P.starts hw₁ hp).1, ?_⟩
  have hf := (P.starts hw₁ hp).2
  cases (w₁.controller.requestStarted w₁.load).1 with
  | error e => exact (P.flying_stays n).inv hf
  | ok _ =>
      show C.wpE _ (Async.tryFinally _ _) _ _ _
      rw [C.wpE_tryFinally]
      exact C.wpE_mono (P.answerRequest_spec hf)
        (fun _ w₂ h₂ => P.requestFinished_spec h₂) fun _ w₂ h₂ => P.requestFinished_spec h₂

/-- A request that has not arrived is parked. -/
theorem request_parked (rounds : ℕ) {n : ℕ} {w : World} (h : P.outside n w) :
    C.Parked (fun _ _ _ => True) (.request n) (process cfg rounds (.request n)) w := by
  refine C.parked_of_wp (o := .arrive) rfl rfl ?_
  refine C.wp_mono (fun r w' hr => ?_) (P.requestTask_spec rounds h)
  have hinv : C.inv w' := by cases r <;> exact hr
  exact ⟨C.guar_refl _ w', hinv, trivial⟩

/-! ## Timer tasks -/

/-- The timer task has just been resumed, and not by a cancellation. -/
def Awake (n : ℕ) (w : World) : Prop := P.calm n w ∧ n ∉ w.controller.cancelling

/-- A wait of a timer task outside the release.  A task that was cancelled meanwhile does not get
past it. -/
lemma wp_timer_wait {n : ℕ} {o : Op} {w : World} (h : P.calm n w)
    (hexec : World.exec (.idle n) o w = none) (hissue : World.issue (.idle n) o w = w)
    (heffect : ∀ {r w₁ w₂}, World.effect (.idle n) o r w₁ = some w₂ → w₂ = w₁) :
    C.wp (.idle n) (Prog.call (I := adapterInterface) o)
      (fun r w => P.calm n w ∧ (o.isCancelled r = false → n ∉ w.controller.cancelling)) w := by
  refine (C.wp_wait hexec).mpr ?_
  show C.guar _ w (World.issue (.idle n) o w) ∧ C.inv (World.issue (.idle n) o w) ∧ _
  simp only [system, hissue]
  refine ⟨C.guar_refl _ w, (P.calm_stays n).inv h, fun w₁ r w₂ h₁ h₂ h₃ => ?_⟩
  have hw₁ := (P.calm_stays n).rely h h₁ h₂
  rcases @answer_idle policy _ _ _ _ _ h₃ with ⟨-, ⟨-, hr, rfl⟩ | ⟨hn, -, he⟩⟩
  · refine ⟨(P.delivered hw₁).1, (P.delivered hw₁).2, fun hr' => ?_⟩
    rw [hr] at hr'
    cases hr'
  · rw [heffect he]
    exact ⟨C.guar_refl _ w₁, hw₁, fun _ => hn⟩

theorem idleDelay_spec {n : ℕ} {w : World} (h : P.Awake n w) :
    C.wpE (.idle n) (idleDelay cfg) (fun _ => P.Awake n) (fun _ => P.calm n) w := by
  rw [idleDelay]
  split_ifs
  · refine C.wp_mono (fun r w' hr => ?_) (P.wp_timer_wait (o := .sleep _) h.1 rfl rfl ?_)
    · cases r with
      | ok _ => exact ⟨hr.1, hr.2 rfl⟩
      | error _ => exact hr.1
    · intro r w₁ w₂ he
      cases he
      rfl
  · exact h

theorem releaseIfQuiet_spec {n : ℕ} {w : World} (h : P.Awake n w) :
    C.wpE (.idle n) (releaseIfQuiet cfg) (fun _ => P.calm n) (fun _ => P.calm n) w := by
  rw [releaseIfQuiet, C.wpE_bind]
  refine C.wpE_mono (P.idleDelay_spec h) (fun _ w₁ h₁ => ?_) fun _ _ => id
  rw [C.wpE_bind]
  refine (C.wp_exec rfl).mpr ⟨C.guar_refl _ w₁, ?_⟩
  show C.wpE _ (Adapter.load >>= fun _ => _) _ _ w₁
  rw [C.wpE_bind, wpE_load]
  cases w₁.load with
  | error e => exact h₁.1
  | ok label =>
      show C.wpE _ (if w₁.controller.activeRequests ≠ 0 then pure () else _) _ _ w₁
      split_ifs with hactive
      · exact h₁.1
      · rw [not_not] at hactive
        have he := P.enters h₁.1 h₁.2 hactive
        rw [C.wpE_bind, wpE_note]
        refine ⟨he.1, ?_⟩
        rw [C.wpE_tryFinally]
        exact C.wpE_mono ((P.release n).releaseIdlePod_spec he.2)
          (fun _ w₂ h₂ => wpE_note.mpr (P.leaves h₂)) fun _ w₂ h₂ => wpE_note.mpr (P.leaves h₂)

theorem idleTask_spec {n : ℕ} {w : World} (h : P.calm n w) :
    C.wpE (.idle n) (idleTask cfg) (fun _ => P.calm n) (fun _ => P.calm n) w := by
  rw [idleTask, C.wpE_bind]
  refine C.wp_mono (fun r w₁ hr => ?_) (P.wp_timer_wait (o := .firstStep) h rfl rfl ?_)
  · cases r with
    | error e => exact hr.1
    | ok _ =>
        show C.wpE _ (releaseAfterIdleDelay cfg) _ _ w₁
        rw [releaseAfterIdleDelay, C.wpE_bind, C.wpE_attempt]
        refine C.wpE_mono (P.releaseIfQuiet_spec ⟨hr.1, hr.2 rfl⟩) (fun _ _ h₂ => h₂)
          fun e w₂ h₂ => ?_
        show C.wpE _ (if e = .cancelledError then pure () else throw e) _ _ w₂
        split_ifs <;> exact h₂
  · intro r w₁ w₂ he
    simp only [World.effect] at he
    split_ifs at he
    cases he
    rfl

/-- A timer task that has not been created is parked. -/
theorem idle_parked (rounds : ℕ) {n : ℕ} {w : World} (h : P.calm n w) :
    C.Parked (fun _ _ _ => True) (.idle n) (process cfg rounds (.idle n)) w := by
  refine C.parked_of_wp (o := .firstStep) rfl rfl ?_
  refine C.wp_mono (fun r w' hr => ?_) (P.idleTask_spec h)
  have hcalm : P.calm n w' := by cases r <;> exact hr
  exact ⟨(P.exits hcalm).1, (P.exits hcalm).2, trivial⟩

/-- **The invariant holds in every state of every run** of the process, however many requests and
timer tasks there are and however they interleave. -/
theorem sound {rounds : ℕ} {w : World} {s : Pool adapterInterface TaskId World (Except Exn Unit)}
    (hinv : C.inv w) (houtside : ∀ n, P.outside n w) (hcalm : ∀ n, P.calm n w)
    (h : Pool.Reaches (system policy) ⟨w, process cfg rounds⟩ s) : C.inv s.world := by
  refine (C.sound (fun _ _ _ => True) (fun _ _ _ _ _ _ => trivial) hinv ?_ h).1
  intro i
  cases i with
  | request n => exact P.request_parked rounds (houtside n)
  | idle n => exact P.idle_parked rounds (hcalm n)

end ProcessView

end SpeakrRunpod
