import SpeakrRunpod.Adapter.System

/-!
# Reasoning about the pod manager

The functions of `RunPodManager` move between a few assertions only: a replacement is being looked
for, an id has just been obtained, an id is the one in use, the lock may be left.  `ManagerView`
names them and says what each operation that matters does to them; the specification of every
function follows from that once, for whatever the assertions are.  A property of whole runs is then
a `Contract` together with one `ManagerView`.

* `ManagerView` — the assertions of a request that holds the manager's lock.
* `deployFromTemplateWithRetry_spec`, `terminate_spec`, `waitUntilReady_spec`,
  `readyUnderLock_spec` — the functions.
* `ReleaseView`, `releaseIdlePod_spec` — the same for the release by a timer task.
-/

namespace SpeakrRunpod

open Coop

/-! ## The client's methods -/

section Client

variable {ι W : Type} {R : Runtime adapterInterface ι W} {C : Contract R} {cfg : AdapterConfig}
  (hkey : cfg.runpodApiKey ≠ "") {i : ι} {w : W}

include hkey

lemma wpE_graphql {call : GraphqlCall} {Q : Json → W → Prop} {E : Exn → W → Prop} :
    C.wpE i (graphql cfg call) Q E w ↔
      C.wp i (Prog.call (I := adapterInterface) (.graphql call))
        (fun r => Contract.outcome Q E (call.outcome r)) w := by
  rw [graphql, C.wpE_bind, requireApiKey, if_neg hkey, C.wpE_pure, C.wpE_bind]
  refine iff_of_eq (congrArg (fun q => C.wp i _ q w) (funext fun r => funext fun w' => ?_))
  cases r with
  | ok a => exact propext C.wpE_ofExcept
  | error e => rfl

lemma wpE_getPod {p : String} {Q : Pod → W → Prop} {E : Exn → W → Prop} :
    C.wpE i (getPod cfg p) Q E w ↔
      C.wp i (Prog.call (I := adapterInterface) (.graphql (.pod p)))
        (fun r => Contract.outcome Q E (podOutcome p r)) w := by
  rw [getPod, C.wpE_bind, wpE_graphql hkey]
  refine iff_of_eq (congrArg (fun q => C.wp i _ q w) (funext fun r => funext fun w' => ?_))
  unfold podOutcome
  cases (GraphqlCall.pod p).outcome r with
  | ok a => exact propext C.wpE_ofExcept
  | error e => rfl

lemma wpE_terminatePod {p : String} {Q : Unit → W → Prop} {E : Exn → W → Prop} :
    C.wpE i (terminatePod cfg p) Q E w ↔
      C.wp i (Prog.call (I := adapterInterface) (.graphql (.podTerminate p)))
        (fun r => Contract.outcome (fun _ => Q ()) E ((GraphqlCall.podTerminate p).outcome r))
        w := by
  rw [terminatePod, C.wpE_bind, wpE_graphql hkey]
  rfl

omit hkey in
/-- The deploy call; a configuration without API key, template or GPU types makes none. -/
lemma wpE_deployFromTemplate {Q : String → W → Prop} {E : Exn → W → Prop}
    (hE : ∀ m, E (.configurationError m) w)
    (h : C.wp i (Prog.call (I := adapterInterface)
        (.graphql (.podFindAndDeployOnDemand (deployInput cfg))))
      (fun r => Contract.outcome Q E (deployOutcome (deployInput cfg) r)) w) :
    C.wpE i (deployFromTemplate cfg) Q E w := by
  rw [deployFromTemplate]
  split_ifs with h₁ h₂
  · exact hE _
  · exact hE _
  by_cases hkey : cfg.runpodApiKey = ""
  · rw [C.wpE_bind, graphql, C.wpE_bind, requireApiKey, if_pos hkey]
    exact hE _
  · rw [C.wpE_bind, wpE_graphql hkey]
    refine C.wp_mono (fun r w' hr => ?_) h
    unfold deployOutcome at hr
    cases hc : (GraphqlCall.podFindAndDeployOnDemand (deployInput cfg)).outcome r with
    | ok a =>
        rw [hc] at hr
        exact C.wpE_ofExcept.mpr hr
    | error e =>
        rw [hc] at hr
        exact hr

end Client

variable {policy : Policy} {C : Contract (system policy)}

/-! ## Operations that change nothing -/

/-- The waits whose answer leaves the world alone. -/
def Op.Still : Op → Prop
  | .sleep _ | .acquireDeployLock | .releaseDeployLock | .health _ | .podLogs _ | .forward _
  | .arrive | .graphql (.podResume _ _) | .graphql (.podStop _) => True
  | _ => False

lemma effect_still {i : TaskId} {o : Op} (ho : o.Still) {r : o.Res} {w w' : World}
    (h : w.effect i o r = some w') : w' = w := by
  cases o with
  | graphql call =>
      cases call with
      | podResume p g =>
          cases h
          rfl
      | podStop p =>
          cases h
          rfl
      | _ => exact ho.elim
  | sleep | acquireDeployLock | releaseDeployLock | health | podLogs | forward | arrive =>
      cases h
      rfl
  | _ => exact ho.elim

lemma answer_request {n : ℕ} {o : Op} {r : o.Res} {w w' : World}
    (h : (system policy).answer (.request n) o r w w') :
    policy (.request n) o r w ∧ w.effect (.request n) o r = some w' := by
  obtain ⟨hp, ha⟩ := h
  simpa [World.answer?, Controller.cancels, hp] using ha

section Request

variable {n : ℕ} {V : World → Prop} {w : World}

lemma wp_request_still {o : Op} (ho : o.Still) (hV : C.Stays (.request n) V) (h : V w) :
    C.wp (.request n) (Prog.call (I := adapterInterface) o) (fun _ => V) w := by
  refine C.wp_still hV ?_ ?_ (fun ha => effect_still ho (answer_request ha).2) h
  · cases o with
    | sleep | acquireDeployLock | releaseDeployLock | health | podLogs | forward | arrive
    | graphql => rfl
    | _ => exact ho.elim
  · cases o with
    | graphql call =>
        cases call with
        | podFindAndDeployOnDemand => exact ho.elim
        | _ => rfl
    | _ => rfl

lemma wpE_sleep (hV : C.Stays (.request n) V) (h : V w) (t : ℚ) :
    C.wpE (.request n) (Adapter.sleep t) (fun _ => V) (fun _ => V) w :=
  C.wpE_of_wp (wp_request_still (o := .sleep t) trivial hV h)

lemma wpE_acquireDeployLock (hV : C.Stays (.request n) V) (h : V w) :
    C.wpE (.request n) Adapter.acquireDeployLock (fun _ => V) (fun _ => V) w :=
  C.wpE_of_wp (wp_request_still (o := .acquireDeployLock) trivial hV h)

lemma wpE_releaseDeployLock (hV : C.Stays (.request n) V) (h : V w) :
    C.wpE (.request n) Adapter.releaseDeployLock (fun _ => V) (fun _ => V) w :=
  C.wpE_of_wp (wp_request_still (o := .releaseDeployLock) trivial hV h)

lemma wpE_arrive (hV : C.Stays (.request n) V) (h : V w) {E : Exn → World → Prop} :
    C.wpE (.request n) Adapter.arrive (fun _ => V) E w :=
  C.wpE_lift.mpr (wp_request_still (o := .arrive) trivial hV h)

lemma wpE_health (hV : C.Stays (.request n) V) (h : V w) (url : String) :
    C.wpE (.request n) (Adapter.health url) (fun _ => V) (fun _ => V) w :=
  C.wpE_of_wp (wp_request_still (o := .health url) trivial hV h)

lemma wpE_forward (hV : C.Stays (.request n) V) (h : V w) (url : String) :
    C.wpE (.request n) (Adapter.forward url) (fun _ => V) (fun _ => V) w :=
  C.wpE_of_wp (wp_request_still (o := .forward url) trivial hV h)

lemma wpE_post_still {call : GraphqlCall} (hcall : (Op.graphql call).Still)
    (hV : C.Stays (.request n) V) (h : V w) :
    C.wpE (.request n) (Adapter.post call) (fun _ => V) (fun _ => V) w :=
  C.wpE_of_wp (wp_request_still (o := .graphql call) hcall hV h)

/-- Reading the clock: the readings are the environment's to choose. -/
lemma wpE_time (hV : C.Stays (.request n) V) (h : V w) {E : Exn → World → Prop} :
    C.wpE (.request n) Adapter.time (fun _ => V) E w := by
  have henv : (system policy).env w { w with readings := fun k => w.readings (k + 1) } :=
    .clock w _
  exact C.wpE_call rfl (fun j _ => C.env_rely henv (hV.inv h) j) (hV.env C h henv)

end Request

/-- Reading the active pod id. -/
lemma wpE_load {i : TaskId} {Q : String → World → Prop} {E : Exn → World → Prop} {w : World} :
    C.wpE i Adapter.load Q E w ↔ Contract.outcome Q E w.load w :=
  (C.wp_exec rfl).trans (and_iff_right (C.guar_refl i w))

lemma wpE_clear {i : TaskId} {p : String} {Q : Unit → World → Prop} {E : Exn → World → Prop}
    {w : World} :
    C.wpE i (Adapter.clear p) Q E w ↔ C.guar i w (w.clear p) ∧ Q () (w.clear p) :=
  C.wp_exec rfl

lemma wpE_note {i : TaskId} {m : Note} {Q : Unit → World → Prop} {E : Exn → World → Prop}
    {w : World} :
    C.wpE i (Adapter.note m) Q E w ↔ C.guar i w (w.noted i m) ∧ Q () (w.noted i m) :=
  C.wp_exec rfl

lemma wpE_store {i : TaskId} {p : String} {Q : Unit → World → Prop} {E : Exn → World → Prop}
    {w : World} :
    C.wpE i (Adapter.store p) Q E w ↔ C.guar i w (w.openState p) ∧
      C.guar i (w.openState p) ((w.openState p).writeState p) ∧
      Q () ((w.openState p).writeState p) := by
  rw [Adapter.store, C.wpE_bind]
  exact (C.wp_exec rfl).trans (and_congr_right fun _ => C.wp_exec rfl)

/-! ## GraphQL calls -/

/-- A GraphQL call of a request, at its answer. -/
lemma wp_request_graphql {n : ℕ} {call : GraphqlCall} {Q : Except Exn HttpAnswer → World → Prop}
    {w : World} (hguar : C.guar (.request n) w (World.issue (.request n) (.graphql call) w))
    (hinv : C.inv (World.issue (.request n) (.graphql call) w))
    (hQ : ∀ w₁ r, C.rely (.request n) (World.issue (.request n) (.graphql call) w) w₁ →
      C.inv w₁ → policy (.request n) (.graphql call) r w₁ →
        C.guar (.request n) w₁ (w₁.graphqlAnswered call r) ∧ Q r (w₁.graphqlAnswered call r)) :
    C.wp (.request n) (Prog.call (I := adapterInterface) (.graphql call)) Q w := by
  refine (C.wp_wait rfl).mpr ⟨hguar, hinv, fun w₁ r w₂ h₁ h₂ h₃ => ?_⟩
  obtain ⟨hp, he⟩ := answer_request h₃
  cases he
  exact hQ w₁ r h₁ h₂ hp

/-! ## The assertions of a request that holds the lock -/

/-- Clearing `p` and going on to look for its replacement. -/
structure Droppable (C : Contract (system policy)) (i : TaskId) (leave seek : World → Prop)
    (p : String) (w : World) : Prop where
  before : leave w
  clears : C.guar i w (w.clear p)
  leave : leave (w.clear p)
  notes : C.guar i (w.clear p) ((w.clear p).noted i (.dropped p))
  seek : seek ((w.clear p).noted i (.dropped p))

/-- The assertions that the manager's functions move between, on behalf of request `n`, with what
the operations that matter do to them. -/
structure ManagerView (cfg : AdapterConfig) (C : Contract (system policy)) (n : ℕ) where
  /-- a replacement is being looked for, of the pod named if there was one -/
  seek : Option String → World → Prop
  /-- an id has been obtained -/
  fresh : Option String → String → World → Prop
  /-- the pod of this id is the one in use -/
  held : String → World → Prop
  /-- the lock may be left -/
  leave : World → Prop
  seek_stays : ∀ d, C.Stays (.request n) (seek d)
  fresh_stays : ∀ d q, C.Stays (.request n) (fresh d q)
  held_stays : ∀ p, C.Stays (.request n) (held p)
  leave_stays : C.Stays (.request n) leave
  seek_leave : ∀ {d w}, seek d w → leave w
  held_leave : ∀ {p w}, held p w → leave w
  fresh_seek : ∀ {d q w}, fresh d q w → seek d w
  adopt : ∀ {q w}, fresh none q w → held q w
  found : ∀ {d q w}, seek d w → w.load = .ok q → q ≠ "" → fresh d q w
  sends : ∀ {d w}, seek d w → w.load = .ok "" →
    C.guar (.request n) w w.deploySent ∧ C.inv w.deploySent
  deployed : ∀ {d w w₁ r}, seek d w → w.load = .ok "" → C.rely (.request n) w.deploySent w₁ →
    C.inv w₁ →
    policy (.request n) (.graphql (.podFindAndDeployOnDemand (deployInput cfg))) r w₁ →
      let w₂ := w₁.graphqlAnswered (.podFindAndDeployOnDemand (deployInput cfg)) r
      C.guar (.request n) w₁ w₂ ∧
        match deployOutcome (deployInput cfg) r with
        | .error _ => seek d w₂
        | .ok q => C.guar (.request n) w₂ (w₂.openState q) ∧
            C.guar (.request n) (w₂.openState q) ((w₂.openState q).writeState q) ∧
            fresh d q ((w₂.openState q).writeState q)
  replaces : ∀ {p q w}, fresh (some p) q w →
    C.guar (.request n) w (w.noted (.request n) (.replaced p q)) ∧
      held q (w.noted (.request n) (.replaced p q))
  missing : ∀ {p w r e}, held p w → policy (.request n) (.graphql (.pod p)) r w →
    podOutcome p r = .error e → e.isNotFound →
      C.guar (.request n) w (w.reportedMissing p) ∧
        Droppable C (.request n) leave (seek (some p)) p (w.reportedMissing p)
  terminated : ∀ {p w r}, held p w → policy (.request n) (.graphql (.podTerminate p)) r w →
    let x := (GraphqlCall.podTerminate p).outcome r
    let w₂ := w.terminateAnswered p x
    C.guar (.request n) w w₂ ∧
      match x with
      | .ok _ => Droppable C (.request n) leave (seek (some p)) p w₂
      | .error e =>
          if e.isNotFound then Droppable C (.request n) leave (seek (some p)) p w₂
          else C.guar (.request n) w₂ (w₂.clear p) ∧ leave (w₂.clear p)
  serves : ∀ {p url w}, held p w →
    C.guar (.request n) w (w.noted (.request n) (.ready p url)) ∧
      leave (w.noted (.request n) (.ready p url))

namespace ManagerView

variable {cfg : AdapterConfig} {n : ℕ} (V : ManagerView cfg C n)

/-! ## Deploying -/

theorem deployUnderLock_spec {d : Option String} {w : World} (h : V.seek d w) :
    C.wpE (.request n) (deployUnderLock cfg) (V.fresh d) (fun _ => V.seek d) w := by
  rw [deployUnderLock, C.wpE_bind, wpE_load]
  cases hl : w.load with
  | error e => exact h
  | ok x =>
      show C.wpE _ (if x ≠ "" then pure x else _) _ _ w
      split_ifs with hx
      · exact V.found h hl hx
      · rw [not_not] at hx
        subst hx
        rw [C.wpE_bind]
        refine wpE_deployFromTemplate (fun _ => h) ?_
        refine wp_request_graphql (V.sends h hl).1 (V.sends h hl).2 fun w₁ r h₁ h₂ hp => ?_
        have hd := V.deployed h hl h₁ h₂ hp
        refine ⟨hd.1, ?_⟩
        cases hr : deployOutcome (deployInput cfg) r with
        | error e =>
            simp only [hr] at hd
            exact hd.2
        | ok q =>
            simp only [hr] at hd
            show C.wpE _ (Adapter.store q >>= fun _ => pure q) _ _ _
            rw [C.wpE_bind, wpE_store]
            exact hd.2

/-- What holds under the deploy lock may be kept while it is taken and given back. -/
theorem withDeployLock_spec {d : Option String} {body : Adapter String} {w : World}
    (hbody : ∀ {w}, V.seek d w →
      C.wpE (.request n) body (V.fresh d) (fun _ => V.seek d) w)
    (h : V.seek d w) :
    C.wpE (.request n) (withDeployLock body) (V.fresh d) (fun _ => V.seek d) w := by
  rw [withDeployLock, C.wpE_bind]
  refine C.wpE_mono (wpE_acquireDeployLock (V.seek_stays d) h) (fun _ w₁ h₁ => ?_) fun _ _ => id
  rw [C.wpE_tryFinally]
  refine C.wpE_mono (hbody h₁) (fun q w₂ h₂ => ?_) fun e w₂ h₂ => ?_
  · exact C.wpE_mono (wpE_releaseDeployLock (V.fresh_stays d q) h₂) (fun _ _ => id)
      fun _ _ => V.fresh_seek
  · exact wpE_releaseDeployLock (V.seek_stays d) h₂

theorem deployRound_spec {d : Option String} {deadline : ℚ} {lastError : String} {w : World}
    (h : V.seek d w) :
    C.wpE (.request n) (deployRound cfg deadline lastError)
      (Contract.turn (fun _ => V.seek d) (V.fresh d)) (fun _ => V.seek d) w := by
  rw [deployRound, C.wpE_bind]
  refine C.wpE_mono (wpE_time (V.seek_stays d) h) (fun now w₁ h₁ => ?_) fun _ _ => id
  split_ifs with ht
  · rw [C.wpE_bind, wpE_load]
    cases hl : w₁.load with
    | error e => exact h₁
    | ok x =>
        show C.wpE _ (if x ≠ "" then pure (Sum.inr x) else _) _ _ w₁
        split_ifs with hx
        · exact V.found h₁ hl hx
        · rw [C.wpE_bind, C.wpE_attempt]
          refine C.wpE_mono (V.withDeployLock_spec V.deployUnderLock_spec h₁)
            (fun q w₂ h₂ => h₂) fun e w₂ h₂ => ?_
          show C.wpE _ (if deployReraises e then throw e else _) _ _ w₂
          split_ifs
          · exact h₂
          · rw [C.wpE_bind]
            exact C.wpE_mono (wpE_sleep (V.seek_stays d) h₂ _) (fun _ _ h₃ => h₃) fun _ _ => id
  · exact h₁

theorem deployFromTemplateWithRetry_spec {d : Option String} {rounds : ℕ} {deadline : ℚ}
    {w : World} (h : V.seek d w) :
    C.wpE (.request n) (deployFromTemplateWithRetry cfg rounds deadline)
      (V.fresh d) (fun _ => V.seek d) w :=
  C.wpE_loop (fun _ => V.seek d) (fun _ _ => (V.seek_stays d).inv)
    (fun _ _ => V.deployRound_spec) rounds _ h

/-! ## Replacing a pod -/

theorem replacePod_spec {rounds : ℕ} {deadline : ℚ} {p : String} {w : World}
    (hguar : C.guar (.request n) w (w.noted (.request n) (.dropped p)))
    (h : V.seek (some p) (w.noted (.request n) (.dropped p))) :
    C.wpE (.request n) (replacePod cfg rounds deadline p) V.held (fun _ => V.leave) w := by
  rw [replacePod, C.wpE_bind, wpE_note]
  refine ⟨hguar, ?_⟩
  rw [C.wpE_bind]
  refine C.wpE_mono (V.deployFromTemplateWithRetry_spec h) (fun q w₁ h₁ => ?_)
    fun _ _ => V.seek_leave
  rw [C.wpE_bind, wpE_note]
  exact V.replaces h₁

variable (hkey : cfg.runpodApiKey ≠ "")

include hkey

/-- `_terminate` ends with the id cleared, or raises with the id cleared as well. -/
theorem terminate_spec {p : String} {w : World} (h : V.held p w) :
    C.wpE (.request n) (terminate cfg p)
      (fun _ w' => C.guar (.request n) w' (w'.noted (.request n) (.dropped p)) ∧
        V.seek (some p) (w'.noted (.request n) (.dropped p)))
      (fun _ => V.leave) w := by
  rw [terminate, C.wpE_tryFinally, terminateOrGone, C.wpE_bind, C.wpE_attempt,
    wpE_terminatePod hkey]
  refine wp_request_graphql (C.guar_refl _ w) ((V.held_stays p).inv h) fun w₁ r h₁ h₂ hp => ?_
  have ht := V.terminated ((V.held_stays p).rely h h₁ h₂) hp
  refine ⟨ht.1, ?_⟩
  have ht := ht.2
  simp only [World.graphqlAnswered]
  cases hx : (GraphqlCall.podTerminate p).outcome r with
  | ok _ =>
      simp only [hx] at ht
      exact wpE_clear.mpr ⟨ht.clears, ht.notes, ht.seek⟩
  | error e =>
      simp only [hx] at ht
      show C.wpE _ (if e.isNotFound then pure () else throw e) _ _ _
      split_ifs with he
      · rw [if_pos he] at ht
        exact wpE_clear.mpr ⟨ht.clears, ht.notes, ht.seek⟩
      · rw [if_neg he] at ht
        exact wpE_clear.mpr ht

omit hkey in
/-- What an exception of `get_pod` leaves behind: a pod reported missing can be cleared. -/
def Lost (p : String) (e : Exn) (w : World) : Prop :=
  if e.isNotFound then Droppable C (.request n) V.leave (V.seek (some p)) p w else V.leave w

theorem getPod_spec {p : String} {w : World} (h : V.held p w) :
    C.wpE (.request n) (getPod cfg p) (fun _ => V.held p) (V.Lost p) w := by
  rw [wpE_getPod hkey]
  refine wp_request_graphql (C.guar_refl _ w) ((V.held_stays p).inv h) fun w₁ r h₁ h₂ hp => ?_
  have hheld := (V.held_stays p).rely h h₁ h₂
  simp only [World.graphqlAnswered]
  cases hx : podOutcome p r with
  | ok pod => exact ⟨C.guar_refl _ w₁, hheld⟩
  | error e =>
      simp only [Contract.outcome, Lost]
      split_ifs with he
      · exact V.missing hheld hp hx he
      · exact ⟨C.guar_refl _ w₁, V.held_leave hheld⟩

theorem replaceMissingPod_spec {rounds : ℕ} {deadline : ℚ} {p m : String} {w : World}
    (h : Droppable C (.request n) V.leave (V.seek (some p)) p w) :
    C.wpE (.request n) (replaceMissingPod cfg rounds deadline p m)
      (fun x => V.held x.1) (fun _ => V.leave) w := by
  rw [replaceMissingPod, C.wpE_bind, wpE_clear]
  refine ⟨h.clears, ?_⟩
  split_ifs
  · rw [C.wpE_bind]
    refine C.wpE_mono (V.replacePod_spec h.notes h.seek) (fun q w₁ h₁ => ?_) fun _ _ => id
    rw [C.wpE_bind]
    refine C.wpE_mono (V.getPod_spec hkey h₁) (fun _ _ h₂ => h₂) fun e w₂ h₂ => ?_
    rw [Lost] at h₂
    split_ifs at h₂ with he
    · exact h₂.before
    · exact h₂
  · exact h.leave

theorem inspectPod_spec {rounds : ℕ} {deadline : ℚ} {p : String} {b : Bool} {w : World}
    (h : V.held p w) :
    C.wpE (.request n) (inspectPod cfg rounds deadline p b) (fun x => V.held x.1)
      (fun _ => V.leave) w := by
  rw [inspectPod, C.wpE_bind, C.wpE_attempt]
  refine C.wpE_mono (V.getPod_spec hkey h) (fun _ _ h₁ => h₁) fun e w₁ h₁ => ?_
  rw [Lost] at h₁
  cases e with
  | runPodNotFoundError m => exact V.replaceMissingPod_spec hkey h₁
  | _ => exact h₁

theorem getOrDeployPod_spec {rounds : ℕ} {deadline : ℚ} {w : World} (h : V.seek none w) :
    C.wpE (.request n) (getOrDeployPod cfg rounds deadline) (fun x => V.held x.1)
      (fun _ => V.leave) w := by
  rw [getOrDeployPod, C.wpE_bind, wpE_load]
  cases hl : w.load with
  | error e => exact V.seek_leave h
  | ok p =>
      show C.wpE _ (if p ≠ "" then _ else _) _ _ w
      split_ifs with hp
      · exact V.inspectPod_spec hkey (V.adopt (V.found h hl hp))
      · rw [C.wpE_bind]
        exact C.wpE_mono (V.deployFromTemplateWithRetry_spec h)
          (fun q w₁ h₁ => V.inspectPod_spec hkey (V.adopt h₁)) fun _ _ => V.seek_leave

theorem handlePodWithoutMapping_spec {rounds : ℕ} {deadline : ℚ} {p : String} {pod : Pod}
    {b : Bool} {w : World} (h : V.held p w) :
    C.wpE (.request n) (handlePodWithoutMapping cfg rounds deadline p pod b) V.held
      (fun _ => V.leave) w := by
  rw [handlePodWithoutMapping]
  split_ifs
  · rw [C.wpE_bind]
    exact C.wpE_mono (V.terminate_spec hkey h)
      (fun _ w₁ h₁ => V.replacePod_spec h₁.1 h₁.2) fun _ _ => id
  · exact h
  · rw [C.wpE_bind, startPod, C.wpE_bind, wpE_graphql hkey]
    refine C.wp_mono (fun r w₁ h₁ => ?_)
      (wp_request_still (o := .graphql (.podResume p cfg.runpodGpuCount)) trivial
        (V.held_stays p) h)
    cases (GraphqlCall.podResume p cfg.runpodGpuCount).outcome r with
    | ok _ => exact h₁
    | error _ => exact V.held_leave h₁

/-! ## The poll loop -/

omit hkey in
theorem wrapperHealthyDetail_spec {W : World → Prop} (hW : C.Stays (.request n) W) {url : String}
    {w : World} (h : W w) :
    C.wpE (.request n) (wrapperHealthyDetail url) (fun _ => W) (fun _ => W) w := by
  rw [wrapperHealthyDetail, C.wpE_bind, C.wpE_attempt]
  refine C.wpE_mono (wpE_health hW h _) (fun _ _ h₁ => h₁) fun e w₁ h₁ => ?_
  show C.wpE _ (if e.isHttpError then _ else _) _ _ w₁
  split_ifs <;> exact h₁

omit hkey in
theorem pollMissing_spec {rounds : ℕ} {deadline : ℚ} {p m : String} {w : World}
    (h : Droppable C (.request n) V.leave (V.seek (some p)) p w) :
    C.wpE (.request n) (pollMissing cfg rounds deadline p m) (fun s => V.held s.podId)
      (fun _ => V.leave) w := by
  rw [pollMissing, C.wpE_bind, wpE_clear]
  refine ⟨h.clears, ?_⟩
  split_ifs
  · rw [C.wpE_bind]
    exact C.wpE_mono (V.replacePod_spec h.notes h.seek) (fun _ _ h₁ => h₁) fun _ _ => id
  · exact h.leave

theorem pollStuck_spec {rounds : ℕ} {deadline : ℚ} {p : String} {w : World} (h : V.held p w) :
    C.wpE (.request n) (pollStuck cfg rounds deadline p) (fun s => V.held s.podId)
      (fun _ => V.leave) w := by
  rw [pollStuck, C.wpE_bind]
  refine C.wpE_mono (V.terminate_spec hkey h) (fun _ w₁ h₁ => ?_) fun _ _ => id
  rw [C.wpE_bind]
  exact C.wpE_mono (V.replacePod_spec h₁.1 h₁.2) (fun _ _ h₂ => h₂) fun _ _ => id

omit hkey in
theorem pollAddress_spec {s : WaitState} {pod : Pod} {w : World} (h : V.held s.podId w) :
    C.wpE (.request n) (pollAddress cfg s pod)
      (Contract.turn (fun s => V.held s.podId) fun _ => V.leave) (fun _ => V.leave) w := by
  rw [pollAddress, C.wpE_bind, C.wpE_ofExcept]
  cases extractTcpMapping pod cfg.runpodWrapperPort with
  | error e => exact V.held_leave h
  | ok found =>
      cases found with
      | none =>
          exact C.wpE_bind.mpr (C.wpE_mono (wpE_time (V.held_stays _) h)
            (fun _ _ h₁ => h₁) fun _ _ => id)
      | some mapping =>
          refine C.wpE_bind.mpr (C.wpE_mono (wrapperHealthyDetail_spec (V.held_stays _) h)
            (fun verdict w₁ h₁ => ?_) fun _ _ => V.held_leave)
          obtain ⟨healthy, detail⟩ := verdict
          show C.wpE _ (if healthy then _ else _) _ _ w₁
          split_ifs
          · rw [C.wpE_bind, wpE_note]
            exact V.serves h₁
          · exact V.held_leave h₁
          · exact h₁

theorem waitRound_spec {rounds : ℕ} {deadline : ℚ} {s : WaitState} {w : World}
    (h : V.held s.podId w) :
    C.wpE (.request n) (waitRound cfg rounds deadline s)
      (Contract.turn (fun s => V.held s.podId) fun _ => V.leave) (fun _ => V.leave) w := by
  have hstays := V.held_stays s.podId
  rw [waitRound, C.wpE_bind]
  refine C.wpE_mono (wpE_time hstays h) (fun now w₁ h₁ => ?_) fun _ _ => id
  split_ifs
  · rw [C.wpE_bind]
    refine C.wpE_mono (wpE_sleep hstays h₁ _) (fun _ w₂ h₂ => ?_) fun _ _ => V.held_leave
    rw [C.wpE_bind, C.wpE_attempt]
    refine C.wpE_mono (V.getPod_spec hkey h₂) (fun pod w₃ h₃ => ?_) fun e w₃ h₃ => ?_
    · show C.wpE _ (pollPod cfg rounds deadline s pod) _ _ w₃
      rw [pollPod, C.wpE_bind]
      refine C.wpE_mono (wpE_time hstays h₃) (fun now w₄ h₄ => ?_) fun _ _ => id
      cases watchdog cfg s pod now with
      | fire =>
          exact C.wpE_bind.mpr (C.wpE_mono (V.pollStuck_spec hkey h₄)
            (fun _ _ h₅ => h₅) fun _ _ => id)
      | timer since => exact V.pollAddress_spec h₄
    · rw [Lost] at h₃
      cases e with
      | runPodNotFoundError m =>
          exact C.wpE_bind.mpr (C.wpE_mono (V.pollMissing_spec h₃)
            (fun _ _ h₄ => h₄) fun _ _ => id)
      | _ => exact h₃
  · exact V.held_leave h₁

theorem waitUntilReady_spec {rounds : ℕ} {deadline : ℚ} {p : String} {w : World}
    (h : V.held p w) :
    C.wpE (.request n) (waitUntilReady cfg rounds deadline p) (fun _ => V.leave)
      (fun _ => V.leave) w :=
  C.wpE_loop (fun s : WaitState => V.held s.podId) (fun s _ => (V.held_stays s.podId).inv)
    (fun _ _ => V.waitRound_spec hkey) rounds (WaitState.replaced p "Pod is not ready") h

/-! ## The whole of `ensure_ready` -/

theorem readyFromPod_spec {rounds : ℕ} {deadline : ℚ} {p : String} {pod : Pod} {b : Bool}
    {w : World} (h : V.held p w) :
    C.wpE (.request n) (readyFromPod cfg rounds deadline p pod b) (fun _ => V.leave)
      (fun _ => V.leave) w := by
  rw [readyFromPod, C.wpE_bind, C.wpE_ofExcept]
  cases extractTcpMapping pod cfg.runpodWrapperPort with
  | error e => exact V.held_leave h
  | ok found =>
      cases found with
      | none =>
          exact C.wpE_bind.mpr (C.wpE_mono (V.handlePodWithoutMapping_spec hkey h)
            (fun q w₁ h₁ => V.waitUntilReady_spec hkey h₁) fun _ _ => id)
      | some mapping =>
          refine C.wpE_bind.mpr (C.wpE_mono (wrapperHealthyDetail_spec (V.held_stays _) h)
            (fun verdict w₁ h₁ => ?_) fun _ _ => V.held_leave)
          obtain ⟨healthy, detail⟩ := verdict
          show C.wpE _ (if healthy then _ else _) _ _ w₁
          split_ifs
          · rw [C.wpE_bind, wpE_note]
            exact V.serves h₁
          · exact V.held_leave h₁
          · exact V.waitUntilReady_spec hkey h₁

theorem readyUnderLock_spec {rounds : ℕ} {deadline : ℚ} {w : World} (h : V.seek none w) :
    C.wpE (.request n) (readyUnderLock cfg rounds deadline) (fun _ => V.leave)
      (fun _ => V.leave) w := by
  rw [readyUnderLock, C.wpE_bind]
  exact C.wpE_mono (V.getOrDeployPod_spec hkey h)
    (fun _ w₁ h₁ => V.readyFromPod_spec hkey h₁) fun _ _ => id

omit hkey V in
/-- Taking the manager's lock, at once or after a wait. -/
theorem acquireLock_spec {U V : World → Prop} (hU : C.Stays (.request n) U)
    (hacquire : ∀ {w}, U w → w.lock = none →
      C.guar (.request n) w { w with lock := some (.request n) } ∧
        V { w with lock := some (.request n) })
    {w : World} (h : U w) :
    C.wpE (.request n) Adapter.acquireLock (fun _ => V) (fun _ => U) w := by
  cases hl : w.lock with
  | none =>
      have he : (system policy).exec (.request n) .acquireLock w =
          some (Except.ok (), { w with lock := some (.request n) }) := by
        show World.exec _ .acquireLock w = _
        rw [World.exec, if_pos hl]
        rfl
      exact (C.wp_exec he).mpr (hacquire h hl)
  | some j =>
      refine (C.wp_wait (o := .acquireLock) ?_).mpr
        ⟨C.guar_refl _ w, hU.inv h, fun w₁ r w₂ h₁ h₂ h₃ => ?_⟩
      · show World.exec _ .acquireLock w = _
        rw [World.exec, if_neg (by simp [hl])]
      · obtain ⟨-, he⟩ := @answer_request policy _ .acquireLock _ _ _ h₃
        have hw₁ := hU.rely h h₁ h₂
        cases r with
        | ok _ =>
            rw [World.effect] at he
            split_ifs at he with hfree
            cases he
            exact hacquire hw₁ hfree
        | error e =>
            cases he
            exact ⟨C.guar_refl _ w₁, hw₁⟩

/-- The part of `ensure_ready` under the lock, with what holds before and after it. -/
theorem withLock_spec {U : World → Prop} (hU : C.Stays (.request n) U)
    (hacquire : ∀ {w}, U w → w.lock = none →
      C.guar (.request n) w { w with lock := some (.request n) } ∧
        V.seek none { w with lock := some (.request n) })
    (hrelease : ∀ {w}, V.leave w →
      C.guar (.request n) w { w with lock := none } ∧ U { w with lock := none })
    {rounds : ℕ} {deadline : ℚ} {w : World} (h : U w) :
    C.wpE (.request n) (withLock (readyUnderLock cfg rounds deadline)) (fun _ => U)
      (fun _ => U) w := by
  rw [withLock, C.wpE_bind]
  refine C.wpE_mono (acquireLock_spec hU hacquire h) (fun _ w₁ h₁ => ?_) fun _ _ => id
  rw [C.wpE_tryFinally]
  exact C.wpE_mono (V.readyUnderLock_spec hkey h₁)
    (fun _ w₂ h₂ => (C.wp_exec rfl).mpr (hrelease h₂))
    fun _ w₂ h₂ => (C.wp_exec rfl).mpr (hrelease h₂)

end ManagerView

/-! ## The release by a timer task

A timer task may be cancelled at any of its waits; the wait for the terminate mutation is the one
where that matters, because `_terminate` clears the id on every way out.
-/

lemma answer_idle {n : ℕ} {o : Op} {r : o.Res} {w w' : World}
    (h : (system policy).answer (.idle n) o r w w') :
    policy (.idle n) o r w ∧
      (n ∈ w.controller.cancelling ∧ o.isCancelled r ∧ w' = w.delivered (.idle n) ∨
        n ∉ w.controller.cancelling ∧ o.isCancelled r = false ∧
          w.effect (.idle n) o r = some w') := by
  obtain ⟨hp, ha⟩ := h
  refine ⟨hp, ?_⟩
  change World.answer? (.idle n) o r w = some w' at ha
  rw [World.answer?] at ha
  by_cases hc : n ∈ w.controller.cancelling
  · rw [if_pos (show w.controller.cancels (.idle n) = true from decide_eq_true hc)] at ha
    split_ifs at ha with hr
    exact .inl ⟨hc, hr, (Option.some.inj ha).symm⟩
  · rw [if_neg (show ¬ w.controller.cancels (.idle n) = true by simpa [Controller.cancels])] at ha
    cases hr : o.isCancelled r with
    | true => simp [hr] at ha
    | false => exact .inr ⟨hc, rfl, by simpa [hr] using ha⟩

/-- The assertions of the timer task `n` while it executes `release_idle_pod`. -/
structure ReleaseView (C : Contract (system policy)) (n : ℕ) where
  /-- the release begins -/
  enter : World → Prop
  /-- the release is being executed -/
  watch : World → Prop
  /-- it is about to release this pod -/
  target : String → World → Prop
  watch_stays : C.Stays (.idle n) watch
  target_stays : ∀ p, C.Stays (.idle n) (target p)
  enter_watch : ∀ {w}, enter w → watch w
  target_watch : ∀ {p w}, target p w → watch w
  found : ∀ {p w}, enter w → w.load = .ok p → p ≠ "" → target p w
  delivered : ∀ {p w}, target p w → C.guar (.idle n) w (w.delivered (.idle n)) ∧
    target p (w.delivered (.idle n))
  polled : ∀ {p w r}, target p w → policy (.idle n) (.graphql (.pod p)) r w →
    C.guar (.idle n) w (w.graphqlAnswered (.pod p) r) ∧ target p (w.graphqlAnswered (.pod p) r)
  terminated : ∀ {p w r}, target p w → policy (.idle n) (.graphql (.podTerminate p)) r w →
    raisesCancelled r = false →
      let w₂ := w.graphqlAnswered (.podTerminate p) r
      C.guar (.idle n) w w₂ ∧ C.guar (.idle n) w₂ (w₂.clear p) ∧ watch (w₂.clear p)
  interrupted : ∀ {p w r}, target p w → policy (.idle n) (.graphql (.podTerminate p)) r w →
    raisesCancelled r → n ∈ w.controller.cancelling →
      let w₂ := w.delivered (.idle n)
      C.guar (.idle n) w₂ (w₂.clear p) ∧ watch (w₂.clear p)

namespace ReleaseView

variable {cfg : AdapterConfig} {n : ℕ} (V : ReleaseView C n)

/-- A wait of the release that changes nothing itself. -/
lemma wp_idle_still {p : String} {o : Op} (ho : o.Still) {w : World} (h : V.target p w) :
    C.wp (.idle n) (Prog.call (I := adapterInterface) o) (fun _ => V.target p) w := by
  have hissue : World.issue (.idle n) o w = w := by
    cases o with
    | graphql call =>
        cases call with
        | podFindAndDeployOnDemand => exact ho.elim
        | _ => rfl
    | _ => rfl
  have hexec : World.exec (.idle n) o w = none := by
    cases o with
    | sleep | acquireDeployLock | releaseDeployLock | health | podLogs | forward | arrive
    | graphql => rfl
    | _ => exact ho.elim
  refine (C.wp_wait hexec).mpr ?_
  show C.guar _ w (World.issue (.idle n) o w) ∧ _
  simp only [system, hissue]
  refine ⟨C.guar_refl _ w, (V.target_stays p).inv h, fun w₁ r w₂ h₁ h₂ h₃ => ?_⟩
  have hw₁ := (V.target_stays p).rely h h₁ h₂
  rcases @answer_idle policy _ _ _ _ _ h₃ with ⟨-, ⟨-, -, rfl⟩ | ⟨-, -, he⟩⟩
  · exact V.delivered hw₁
  · rw [effect_still ho he]
    exact ⟨C.guar_refl _ w₁, hw₁⟩

lemma wp_idle_graphql {p : String} {call : GraphqlCall} {Q : Except Exn HttpAnswer → World → Prop}
    {w : World} (h : V.target p w) (hissue : World.issue (.idle n) (.graphql call) w = w)
    (hQ : ∀ w₁ r, V.target p w₁ → policy (.idle n) (.graphql call) r w₁ →
      raisesCancelled r = false →
        C.guar (.idle n) w₁ (w₁.graphqlAnswered call r) ∧ Q r (w₁.graphqlAnswered call r))
    (hcancel : ∀ w₁ r, V.target p w₁ → policy (.idle n) (.graphql call) r w₁ →
      raisesCancelled r → n ∈ w₁.controller.cancelling →
        Q r (w₁.delivered (.idle n))) :
    C.wp (.idle n) (Prog.call (I := adapterInterface) (.graphql call)) Q w := by
  refine (C.wp_wait rfl).mpr ?_
  show C.guar _ w (World.issue (.idle n) (.graphql call) w) ∧ _
  simp only [system, hissue]
  refine ⟨C.guar_refl _ w, (V.target_stays p).inv h, fun w₁ r w₂ h₁ h₂ h₃ => ?_⟩
  have hw₁ := (V.target_stays p).rely h h₁ h₂
  rcases @answer_idle policy _ _ _ _ _ h₃ with ⟨hp, ⟨hn, hr, rfl⟩ | ⟨-, hr, he⟩⟩
  · exact ⟨(V.delivered hw₁).1, hcancel w₁ r hw₁ hp hr hn⟩
  · cases he
    exact hQ w₁ r hw₁ hp hr

theorem getPod_spec (hkey : cfg.runpodApiKey ≠ "") {p : String} {w : World} (h : V.target p w) :
    C.wpE (.idle n) (getPod cfg p) (fun _ => V.target p) (fun _ => V.target p) w := by
  rw [wpE_getPod hkey]
  refine V.wp_idle_graphql h rfl (fun w₁ r h₁ hp _ => ?_) fun w₁ r h₁ hp _ _ => ?_
  · refine ⟨(V.polled h₁ hp).1, ?_⟩
    cases podOutcome p r <;> exact (V.polled h₁ hp).2
  · cases podOutcome p r <;> exact (V.delivered h₁).2

theorem drainCloudPodLogs_spec (hkey : cfg.runpodApiKey ≠ "") {p : String} {w : World}
    (h : V.target p w) :
    C.wpE (.idle n) (drainCloudPodLogs cfg p) (fun _ => V.target p) (fun _ => V.target p) w := by
  rw [drainCloudPodLogs]
  split_ifs
  · exact h
  · rw [C.wpE_bind, C.wpE_attempt]
    refine C.wpE_mono (V.getPod_spec hkey h) (fun pod w₁ h₁ => ?_) fun e w₁ h₁ => ?_
    · show C.wpE _ (Async.ofExcept (extractTcpMapping pod cfg.runpodWrapperPort) >>= _) _ _ w₁
      rw [C.wpE_bind, C.wpE_ofExcept]
      cases extractTcpMapping pod cfg.runpodWrapperPort with
      | error e => exact h₁
      | ok found =>
          cases found with
          | none => exact h₁
          | some mapping =>
              refine C.wpE_bind.mpr (C.wpE_attempt.mpr ?_)
              refine C.wpE_mono (C.wpE_of_wp (V.wp_idle_still
                (o := .podLogs (mappingUrl mapping)) trivial h₁)) (fun _ _ h₂ => h₂)
                fun e w₂ h₂ => ?_
              show C.wpE _ (if e.isException then _ else _) _ _ w₂
              split_ifs <;> exact h₂
    · show C.wpE _ (if e.isException then _ else _) _ _ w₁
      split_ifs <;> exact h₁

theorem catchException_spec {body : Adapter Unit} {W : World → Prop} {w : World}
    (h : C.wpE (.idle n) body (fun _ => W) (fun _ => W) w) :
    C.wpE (.idle n) (catchException body) (fun _ => W) (fun _ => W) w := by
  rw [catchException, C.wpE_bind, C.wpE_attempt]
  refine C.wpE_mono h (fun _ _ h₁ => h₁) fun e w₁ h₁ => ?_
  show C.wpE _ (if e.isException then _ else _) _ _ w₁
  split_ifs <;> exact h₁

theorem terminate_spec (hkey : cfg.runpodApiKey ≠ "") {p : String} {w : World}
    (h : V.target p w) :
    C.wpE (.idle n) (terminate cfg p) (fun _ => V.watch) (fun _ => V.watch) w := by
  rw [terminate, C.wpE_tryFinally, terminateOrGone, C.wpE_bind, C.wpE_attempt,
    wpE_terminatePod hkey]
  refine V.wp_idle_graphql h rfl (fun w₁ r h₁ hp hr => ?_) fun w₁ r h₁ hp hr hn => ?_
  · have ht := V.terminated h₁ hp hr
    refine ⟨ht.1, ?_⟩
    cases hx : (GraphqlCall.podTerminate p).outcome r with
    | ok _ => exact wpE_clear.mpr ht.2
    | error e =>
        show C.wpE _ (if e.isNotFound then pure () else throw e) _ _ _
        split_ifs <;> exact wpE_clear.mpr ht.2
  · have hi := V.interrupted h₁ hp hr hn
    cases hx : (GraphqlCall.podTerminate p).outcome r with
    | ok _ => exact wpE_clear.mpr hi
    | error e =>
        show C.wpE _ (if e.isNotFound then pure () else throw e) _ _ _
        split_ifs <;> exact wpE_clear.mpr hi

theorem releasePod_spec (hkey : cfg.runpodApiKey ≠ "") {p : String} {w : World}
    (h : V.target p w) :
    C.wpE (.idle n) (releasePod cfg p) (fun _ => V.watch) (fun _ => V.watch) w := by
  rw [releasePod]
  split_ifs
  · rw [C.wpE_bind]
    refine C.wpE_mono (catchException_spec (W := V.target p) ?_)
      (fun _ w₁ h₁ => V.terminate_spec hkey h₁) fun _ _ => V.target_watch
    rw [C.wpE_bind]
    exact C.wpE_mono (V.drainCloudPodLogs_spec hkey h) (fun _ _ h₁ => h₁) fun _ _ => id
  · exact V.target_watch h
  · rw [stopPod, C.wpE_bind, wpE_graphql hkey]
    refine C.wp_mono (fun r w₁ h₁ => ?_)
      (V.wp_idle_still (o := .graphql (.podStop p)) trivial h)
    cases (GraphqlCall.podStop p).outcome r <;> exact V.target_watch h₁

theorem releaseIdlePod_spec {w : World} (h : V.enter w) :
    C.wpE (.idle n) (releaseIdlePod cfg) (fun _ => V.watch) (fun _ => V.watch) w := by
  rw [releaseIdlePod, C.wpE_bind, wpE_load]
  cases hl : w.load with
  | error e => exact V.enter_watch h
  | ok p =>
      show C.wpE _ (if cfg.runpodApiKey = "" then pure () else _) _ _ w
      split_ifs with hkey hp
      · exact V.enter_watch h
      · exact V.enter_watch h
      · exact catchException_spec (V.releasePod_spec hkey (V.found h hl hp))

end ReleaseView

end SpeakrRunpod
