import SpeakrRunpod.Adapter.IdleQuiet
import SpeakrRunpod.Adapter.Interruption
import SpeakrRunpod.Adapter.ManagerFailures
import SpeakrRunpod.Adapter.OnePod
import SpeakrRunpod.Adapter.StoreFrame

/-!
# Nothing is billed at rest

What the adapter is for: a pod runs while there is work, and none is left running afterwards.
Requests may start at any moment here, also in the middle of a release, which they cancel; the one
thing that must not happen is that a terminate is cancelled that RunPod never carries out.

* `truthful` — the assumptions about RunPod.
* `Controller.Orderly` — the timer that is alive is the one of the last finish.
* `AtRest.Inv` — the invariant: the pods that run are on record, and while no request is in flight
  and one of them runs, there is a timer that will release it.
* `Keeps` — what a release keeps to as long as it is not cancelled.
* `nothing_billed_at_rest`, `restarts_keep_record` — one life of the process, and any number of
  them.
-/

namespace SpeakrRunpod

open Coop

/-! ## The assumptions -/

/-- What is assumed of an answer: a not-found is true, a terminate succeeds or reports not found,
and it has taken effect when its caller is cancelled; a failed deploy has created nothing; a status
query raises a `CancelledError` only when it is cancelled, and a sleep and the start of a task raise
nothing else. -/
def truthfulReply : (o : Op) → o.Res → World → Prop
  | .graphql (.pod p), r, w =>
      match podOutcome p r with
      | .ok _ => True
      | .error e => (e.isNotFound → p ∉ w.alive) ∧ (e = .cancelledError → raisesCancelled r)
  | .graphql (.podTerminate p), r, w =>
      if raisesCancelled r then p ∉ w.alive
      else
        match (GraphqlCall.podTerminate p).outcome r with
        | .ok _ => True
        | .error e => e.isNotFound ∧ p ∉ w.alive
  | .graphql (.podFindAndDeployOnDemand input), r, w =>
      match deployOutcome input r with
      | .ok p => w.pending = none ∨ w.pending = some p
      | .error _ => w.pending = none
  | .sleep _, r, _ => raisesCancelled r ∨ r = .ok ()
  | .firstStep, r, _ => raisesCancelled r ∨ r = .ok ()
  | _, _, _ => True

/-- Truthful replies, to requests that are not cancelled. -/
def truthful : Policy := fun i o r w => truthfulReply o r w ∧ (o.isCancelled r → i.isIdle)


instance (o : Op) (r : o.Res) (w : World) : Decidable (truthfulReply o r w) := by
  revert r
  apply @Op.casesOn (fun o => (r : o.Res) → Decidable (truthfulReply o r w)) o
  case sleep =>
    intro seconds r
    exact match r with
      | .ok () => isTrue (.inr rfl)
      | .error e => decidable_of_iff (raisesCancelled (.error e : Except Exn Unit) = true)
          (by simp [truthfulReply])
  case firstStep =>
    intro r
    exact match r with
      | .ok () => isTrue (.inr rfl)
      | .error e => decidable_of_iff (raisesCancelled (.error e : Except Exn Unit) = true)
          (by simp [truthfulReply])
  case graphql =>
    intro call
    apply @GraphqlCall.casesOn
      (fun call => (r : (Op.graphql call).Res) → Decidable (truthfulReply (.graphql call) r w)) call
    case pod =>
      intro p r
      dsimp only [truthfulReply]
      exact match podOutcome p r with
        | .ok _ => inferInstance
        | .error _ => inferInstance
    case podTerminate =>
      intro p r
      dsimp only [truthfulReply]
      exact match (GraphqlCall.podTerminate p).outcome r with
        | .ok _ => inferInstance
        | .error _ => inferInstance
    case podFindAndDeployOnDemand =>
      intro input r
      dsimp only [truthfulReply]
      exact match deployOutcome input r with
        | .ok _ => inferInstance
        | .error _ => inferInstance
    all_goals
      intros
      exact instDecidableTrue
  all_goals
    intros
    exact instDecidableTrue
instance (i : TaskId) (o : Op) (r : o.Res) (w : World) : Decidable (truthful i o r w) :=
  inferInstanceAs (Decidable (_ ∧ _))

/-! ## The timers -/

namespace Controller

/-- The numbers in use are those of timers that have been created, and the only timer that may be
alive is the one of the last finish. -/
structure Orderly (c : Controller) : Prop where
  created : ∀ n, n ∈ c.done ∨ n ∈ c.cancelling ∨ c.idleStopTask = some n → n < c.created
  current : ∀ n, c.Alive n → c.idleStopTask = some n

variable {c : Controller} {n m : ℕ}

lemma orderly_new : Orderly .new where
  created n h := by simp [new] at h
  current n h := absurd h.created (Nat.not_lt_zero n)

/-- A timer that is alive is the one that a method of the controller cancels. -/
lemma Orderly.cancels (h : c.Orderly) (hn : c.Alive n) (active : ℤ) :
    n ∈ { c with activeRequests := active }.cancelPending.cancelling :=
  (mem_cancelPending _).mpr (.inr ((pending_eq_some _).mpr ⟨h.current n hn, hn.pending⟩))

/-- No timer survives that. -/
lemma Orderly.not_alive (h : c.Orderly) {active : ℤ} :
    ¬ { c with activeRequests := active }.cancelPending.Alive n := by
  intro hn
  have hcreated : n < c.created := by simpa using hn.created
  have hpending : n ∉ c.done := by simpa using hn.pending
  refine hn.uncancelled (h.cancels ⟨hcreated, hpending, fun hx => hn.uncancelled ?_⟩ active)
  exact (mem_cancelPending _).mpr (.inl hx)

lemma Orderly.cancelPending (h : c.Orderly) (active : ℤ) :
    { c with activeRequests := active }.cancelPending.Orderly where
  created m hm := by
    rw [cancelPending_created]
    rcases hm with hm | hm | hm
    · exact h.created m (.inl (by simpa using hm))
    · rcases (mem_cancelPending _).mp hm with hm | hm
      · exact h.created m (.inr (.inl hm))
      · exact h.created m (.inr (.inr ((pending_eq_some _).mp hm).1))
    · exact h.created m (.inr (.inr (by simpa using hm)))
  current m hm := absurd hm h.not_alive

lemma Orderly.requestStarted (h : c.Orderly) (label : Except Exn String) :
    (c.requestStarted label).2.Orderly := h.cancelPending _

/-- The timer that is alive after a finish is the one that it has created. -/
lemma Orderly.alive_createTimer (h : c.Orderly) (hnone : ∀ m, ¬ c.Alive m) :
    c.createTimer.Alive n ↔ n = c.created := by
  constructor
  · intro hn
    rcases Nat.lt_succ_iff_lt_or_eq.mp (show n < c.created + 1 from hn.created) with hlt | heq
    · exact absurd ⟨hlt, hn.pending, hn.uncancelled⟩ (hnone n)
    · exact heq
  · rintro rfl
    exact ⟨Nat.lt_succ_self _, fun hd => (h.created _ (.inl hd)).ne rfl,
      fun hx => (h.created _ (.inr (.inl hx))).ne rfl⟩

lemma Orderly.createTimer (h : c.Orderly) (hnone : ∀ m, ¬ c.Alive m) : c.createTimer.Orderly where
  created m hm := by
    rcases hm with hm | hm | hm
    · exact (h.created m (.inl hm)).trans (Nat.lt_succ_self _)
    · exact (h.created m (.inr (.inl hm))).trans (Nat.lt_succ_self _)
    · rw [← Option.some.inj hm]
      exact Nat.lt_succ_self _
  current m hm := by
    rw [(h.alive_createTimer hnone).mp hm]
    rfl

/-- A task has ended: the other timers are as they were. -/
lemma alive_finish : (c.finish n).Alive m ↔ c.Alive m ∧ m ≠ n := by
  constructor
  · intro hm
    have hne : m ≠ n := fun he => hm.pending (he ▸ Finset.mem_insert_self n c.done)
    exact ⟨⟨hm.created, fun hd => hm.pending (Finset.mem_insert_of_mem hd),
      fun hx => hm.uncancelled (Finset.mem_erase.mpr ⟨hne, hx⟩)⟩, hne⟩
  · rintro ⟨hm, hne⟩
    exact ⟨hm.created, fun hd => hm.pending (Finset.mem_of_mem_insert_of_ne hd hne),
      fun hx => hm.uncancelled (Finset.mem_of_mem_erase hx)⟩

lemma Orderly.finish (h : c.Orderly) (hn : n < c.created) : (c.finish n).Orderly where
  created m hm := by
    rcases hm with hm | hm | hm
    · rcases Finset.mem_insert.mp hm with rfl | hm
      · exact hn
      · exact h.created m (.inl hm)
    · exact h.created m (.inr (.inl (Finset.mem_of_mem_erase hm)))
    · exact h.created m (.inr (.inr hm))
  current m hm := h.current m (alive_finish.mp hm).1

/-- The controller forgets that a task was cancelled when it is resumed, and so it does when it
ends. -/
lemma delivered_finish : (c.delivered n).finish n = c.finish n := by
  simp [delivered, finish]

end Controller

namespace AtRest

/-! ## The invariant -/

/-- What is in memory is also in the file. -/
def Synced (w : World) : Prop :=
  w.store.activePodId ≠ "" → w.store.path ≠ "" → w.file.content = .text w.store.activePodId

structure Inv (w : World) : Prop where
  template : w.store.configuredPodId = ""
  sound : w.file.Sound
  synced : Synced w
  recorded : ∀ p ∈ w.live, w.load = .ok p ∧ p ≠ ""
  idlePending : w.deploying = false → w.pending = none
  deployHeld : w.deploying → w.lock ≠ none
  owner : ∀ i, w.lock = some i → i ∈ w.inFlight
  count : w.controller.activeRequests = w.inFlight.card
  orderly : w.controller.Orderly
  /-- a pod that runs at rest has a timer -/
  rest : w.inFlight = ∅ → w.controller.created ≠ 0 → w.live = ∅ ∨ ∃ n, w.controller.Alive n
  sentAlone : ∀ alive, .deploySent alive ∈ w.log → alive = ∅

/-- What the holder of the lock may rely on. -/
structure HeldSame (w w' : World) : Prop where
  deploying : w'.deploying = w.deploying
  live : w'.live ⊆ w.live

/-- What the timer task `n` may rely on: as long as it is not cancelled, rest goes on. -/
structure TimerSame (n : ℕ) (w w' : World) : Prop where
  created : w.controller.created ≤ w'.controller.created
  done : n ∈ w'.controller.done → n ∈ w.controller.done
  cancelling : n ∈ w.controller.cancelling → n ∈ w'.controller.cancelling
  quiet : n < w.controller.created → n ∉ w.controller.done → n ∉ w'.controller.cancelling →
    w.inFlight = ∅ → w'.inFlight = ∅ ∧ w'.live ⊆ w.live

/-- What a task may rely on while it waits. -/
structure Rely (i : TaskId) (w w' : World) : Prop where
  inFlight : i ∈ w'.inFlight ↔ i ∈ w.inFlight
  lock : w'.lock = some i ↔ w.lock = some i
  held : w.lock = some i → HeldSame w w'
  settled : ∀ p, Interruption.Settled p w → Interruption.Settled p w'
  timer : ∀ n, i = .idle n → TimerSame n w w'

lemma HeldSame.trans {w₁ w₂ w₃ : World} (h₁ : HeldSame w₁ w₂) (h₂ : HeldSame w₂ w₃) :
    HeldSame w₁ w₃ := ⟨h₂.deploying.trans h₁.deploying, h₂.live.trans h₁.live⟩

lemma TimerSame.trans {n : ℕ} {w₁ w₂ w₃ : World} (h₁ : TimerSame n w₁ w₂)
    (h₂ : TimerSame n w₂ w₃) : TimerSame n w₁ w₃ where
  created := h₁.created.trans h₂.created
  done h := h₁.done (h₂.done h)
  cancelling h := h₂.cancelling (h₁.cancelling h)
  quiet hc hd hx hrest := by
    obtain ⟨hrest', hlive⟩ := h₁.quiet hc hd (fun h => hx (h₂.cancelling h)) hrest
    obtain ⟨hrest'', hlive'⟩ :=
      h₂.quiet (hc.trans_le h₁.created) (fun h => hd (h₁.done h)) hx hrest'
    exact ⟨hrest'', hlive'.trans hlive⟩

lemma Rely.trans {i : TaskId} {w₁ w₂ w₃ : World} (h₁ : Rely i w₁ w₂) (h₂ : Rely i w₂ w₃) :
    Rely i w₁ w₃ where
  inFlight := h₂.inFlight.trans h₁.inFlight
  lock := h₂.lock.trans h₁.lock
  held h := (h₁.held h).trans (h₂.held (h₁.lock.mpr h))
  settled p h := h₂.settled p (h₁.settled p h)
  timer n hn := (h₁.timer n hn).trans (h₂.timer n hn)

/-- A change that leaves the record, the lock, the requests and the timers alone, and starts no pod.
-/
structure Quiet (w w' : World) : Prop where
  store : w'.store = w.store
  file : w'.file = w.file
  lock : w'.lock = w.lock
  inFlight : w'.inFlight = w.inFlight
  controller : w'.controller = w.controller
  deploying : w'.deploying = w.deploying
  live : w'.live ⊆ w.live

lemma Quiet.load {w w' : World} (h : Quiet w w') : w'.load = w.load := by
  rw [World.load, World.load, h.store, h.file]

lemma Quiet.rely {w w' : World} (h : Quiet w w') (i : TaskId) : Rely i w w' where
  inFlight := by rw [h.inFlight]
  lock := by rw [h.lock]
  held _ := ⟨h.deploying, h.live⟩
  settled p hp := by
    rw [Interruption.Settled, h.load, h.store, h.file]
    exact hp
  timer n _ := by
    refine ⟨?_, ?_, ?_, fun _ _ _ hrest => ⟨h.inFlight.trans hrest, h.live⟩⟩ <;> rw [h.controller]
    · exact id
    · exact id

lemma Quiet.inv {w w' : World} (h : Quiet w w') (hw : Inv w)
    (hpending : w'.deploying = false → w'.pending = none)
    (hlog : ∀ alive, .deploySent alive ∈ w'.log → .deploySent alive ∈ w.log) : Inv w' where
  template := h.store ▸ hw.template
  sound := h.file ▸ hw.sound
  synced := by
    rw [Synced, h.store, h.file]
    exact hw.synced
  recorded p hp := by
    rw [h.load]
    exact hw.recorded p (h.live hp)
  idlePending := hpending
  deployHeld hd := by
    rw [h.lock]
    exact hw.deployHeld (h.deploying ▸ hd)
  owner i hi := by
    rw [h.inFlight]
    exact hw.owner i (h.lock ▸ hi)
  count := by rw [h.controller, h.inFlight, hw.count]
  orderly := h.controller ▸ hw.orderly
  rest hrest hcreated := by
    rw [h.controller] at hcreated ⊢
    rcases hw.rest (h.inFlight ▸ hrest) hcreated with hlive | htimer
    · exact .inl (Finset.subset_empty.mp (hlive ▸ h.live))
    · exact .inr htimer
  sentAlone alive ha := hw.sentAlone alive (hlog alive ha)

lemma quiet_gone (w : World) (p : String) : Quiet w (w.gone p) :=
  ⟨rfl, rfl, rfl, rfl, rfl, rfl, Finset.erase_subset p w.live⟩

lemma Inv.gone {w : World} (h : Inv w) (p : String) : Inv (w.gone p) := by
  refine (quiet_gone w p).inv h (fun hd => ?_) fun _ ha => ha
  show w.pending.filter _ = none
  rw [h.idlePending hd]
  rfl

lemma quiet_reportedMissing (w : World) (p : String) : Quiet w (w.reportedMissing p) :=
  ⟨rfl, rfl, rfl, rfl, rfl, rfl, subset_rfl⟩

lemma Inv.reportedMissing {w : World} (h : Inv w) (p : String) : Inv (w.reportedMissing p) :=
  (quiet_reportedMissing w p).inv h h.idlePending fun _ ha => ha

/-- A mark in the log that is no deploy. -/
lemma quiet_noted (w : World) (i : TaskId) (m : Note) : Quiet w (w.noted i m) := by
  cases m <;> exact ⟨rfl, rfl, rfl, rfl, rfl, rfl, subset_rfl⟩

lemma Inv.noted {w : World} (h : Inv w) (i : TaskId) (m : Note) : Inv (w.noted i m) := by
  refine (quiet_noted w i m).inv h ?_ fun alive ha => ?_
  · cases m <;> exact h.idlePending
  · cases m with
    | dropped p => simpa [World.noted] using ha
    | replaced p q => simpa [World.noted] using ha
    | _ => exact ha

lemma env_quiet {w w' : World} (h : World.Env w w') : Quiet w w' := by
  cases h with
  | clock => exact ⟨rfl, rfl, rfl, rfl, rfl, rfl, subset_rfl⟩
  | gone p => exact quiet_gone w p
  | creates => exact ⟨rfl, rfl, rfl, rfl, rfl, rfl, subset_rfl⟩

lemma env_inv {w w' : World} (h : World.Env w w') (hw : Inv w) : Inv w' := by
  cases h with
  | clock => exact (env_quiet (.clock w _)).inv hw hw.idlePending fun _ ha => ha
  | gone p => exact hw.gone p
  | creates p h h' =>
      refine (env_quiet (.creates w p h h')).inv hw (fun hd => ?_) fun _ ha => ha
      rw [show w.deploying = false from hd] at h
      cases h

/-- The contract of the process. -/
def contract : Contract (system truthful) where
  inv := Inv
  rely := Rely
  rely_refl i _ := Quiet.rely ⟨rfl, rfl, rfl, rfl, rfl, rfl, subset_rfl⟩ i
  rely_trans := Rely.trans
  env_inv := env_inv
  env_rely h _ i := (env_quiet h).rely i

lemma Quiet.guar {w w' : World} (h : Quiet w w') (i : TaskId) : contract.guar i w w' :=
  fun j _ => h.rely j

/-! ## Requests -/

section Request

variable {n : ℕ}

/-- A change by the lock's holder to anything but what the other tasks watch. -/
lemma guar_of_holder {w w' : World} (hlock : w.lock = some (.request n))
    (hflying : .request n ∈ w.inFlight) (h₁ : w'.lock = w.lock) (h₂ : w'.inFlight = w.inFlight)
    (h₃ : w'.controller = w.controller)
    (h₄ : ∀ p, Interruption.Settled p w → Interruption.Settled p w') :
    contract.guar (.request n) w w' := by
  intro j hj
  refine ⟨by rw [h₂], by rw [h₁], fun h => ?_, h₄, fun m _ => ?_⟩
  · rw [hlock] at h
    exact absurd (Option.some.inj h).symm hj
  · refine ⟨?_, ?_, ?_, fun _ _ _ hrest => ?_⟩
    · rw [h₃]
    · rw [h₃]
      exact id
    · rw [h₃]
      exact id
    · simp [hrest] at hflying

/-- The request holds the lock and no deploy is under way. -/
structure Holds (n : ℕ) (w : World) : Prop where
  inv : Inv w
  lock : w.lock = some (.request n)
  notDeploying : w.deploying = false

namespace Holds

variable {w w' : World}

lemma inFlight (h : Holds n w) : .request n ∈ w.inFlight := h.inv.owner _ h.lock

lemma rely (h : Holds n w) (hr : Rely (.request n) w w') (hinv : Inv w') : Holds n w' where
  inv := hinv
  lock := hr.lock.mpr h.lock
  notDeploying := (hr.held h.lock).deploying.trans h.notDeploying

lemma guar (h : Holds n w) (h₁ : w'.lock = w.lock) (h₂ : w'.inFlight = w.inFlight)
    (h₃ : w'.controller = w.controller)
    (h₄ : ∀ p, Interruption.Settled p w → Interruption.Settled p w') :
    contract.guar (.request n) w w' := guar_of_holder h.lock h.inFlight h₁ h₂ h₃ h₄

lemma quiet (h : Holds n w) (hq : Quiet w w') (hinv : Inv w') : Holds n w' :=
  ⟨hinv, hq.lock.trans h.lock, hq.deploying.trans h.notDeploying⟩

end Holds

/-- Emptying the memory loses nothing that runs. -/
lemma Inv.clear {w : World} (h : Inv w) {p : String}
    (hlive : ∀ q ∈ w.live, (w.clear p).load = .ok q) : Inv (w.clear p) where
  template := by simpa [World.clear] using h.template
  sound := h.sound.clear _
  synced := by
    rcases Interruption.clear_cases w p with he | he <;> rw [he]
    · exact h.synced
    · exact fun hmem => absurd rfl hmem
  recorded q hq := ⟨hlive q hq, (h.recorded q hq).2⟩
  idlePending := h.idlePending
  deployHeld := h.deployHeld
  owner := h.owner
  count := h.count
  orderly := h.orderly
  rest := h.rest
  sentAlone := h.sentAlone

/-- While nothing is alive the holder may clear. -/
lemma Holds.clear {w : World} (h : Holds n w) (hlive : w.live = ∅) (p : String) :
    Holds n (w.clear p) :=
  ⟨h.inv.clear fun q hq => by simp [hlive] at hq, h.lock, h.notDeploying⟩

/-- The holder uses the pod `p`: no other is alive. -/
def Only (n : ℕ) (p : String) (w : World) : Prop := Holds n w ∧ ∀ q ∈ w.live, q = p

lemma holds_stays : contract.Stays (.request n) (Holds n) :=
  ⟨fun h => h.inv, fun h hr hinv => h.rely hr hinv⟩

lemma only_stays (p : String) : contract.Stays (.request n) (Only n p) :=
  ⟨fun h => h.1.inv, fun h hr hinv =>
    ⟨h.1.rely hr hinv, fun q hq => h.2 q ((hr.held h.1.lock).live hq)⟩⟩

/-- A pod that is the only one and is gone can be cleared and replaced. -/
lemma droppable {p : String} {w : World} (h : Holds n w) (hlive : w.live = ∅) :
    Droppable contract (.request n) (Holds n) (Holds n) p w where
  before := h
  clears := h.guar rfl rfl rfl fun _ hq => Interruption.settled_clear hq p
  leave := h.clear hlive p
  notes := (h.clear hlive p).guar rfl rfl rfl fun _ hq => hq
  seek := (h.clear hlive p).quiet (quiet_noted _ _ _) ((h.clear hlive p).inv.noted _ _)

/-- A deploy is sent while nothing is alive. -/
lemma sends {w : World} (h : Holds n w) (hload : w.load = .ok "") :
    w.live = ∅ ∧ Inv w.deploySent := by
  have hlive : w.live = ∅ := by
    refine Finset.eq_empty_of_forall_notMem fun p hp => ?_
    obtain ⟨hp₁, hp₂⟩ := h.inv.recorded p hp
    rw [hload] at hp₁
    exact hp₂ (Except.ok.inj hp₁).symm
  refine ⟨hlive, { h.inv with
    synced := h.inv.synced
    recorded := h.inv.recorded
    idlePending := fun hd => by cases hd
    deployHeld := fun _ => by rw [show w.deploySent.lock = w.lock from rfl, h.lock]; simp
    sentAlone := fun alive ha => ?_ }⟩
  rcases List.mem_cons.mp ha with ha | ha
  · cases ha
    rw [World.alive, hlive, h.inv.idlePending h.notDeploying]
    rfl
  · exact h.inv.sentAlone alive ha

/-- The reply to the deploy, and the recording of the new id. -/
lemma deployed {input : DeployInput} {w w₁ : World} {r : Except Exn HttpAnswer} (h : Holds n w)
    (hload : w.load = .ok "") (hrely : Rely (.request n) w.deploySent w₁) (hinv : Inv w₁)
    (hp : truthful (.request n) (.graphql (.podFindAndDeployOnDemand input)) r w₁) :
    let w₂ := w₁.graphqlAnswered (.podFindAndDeployOnDemand input) r
    contract.guar (.request n) w₁ w₂ ∧
      match deployOutcome input r with
      | .error _ => Holds n w₂
      | .ok q => contract.guar (.request n) w₂ (w₂.openState q) ∧
          contract.guar (.request n) (w₂.openState q) ((w₂.openState q).writeState q) ∧
          Only n q ((w₂.openState q).writeState q) := by
  have hlock : w₁.lock = some (.request n) := hrely.lock.mpr h.lock
  have hflying : .request n ∈ w₁.inFlight := hinv.owner _ hlock
  have hlive : w₁.live = ∅ :=
    Finset.subset_empty.mp ((sends h hload).1 ▸ (hrely.held h.lock).live)
  have hreply := hp.1
  simp only [truthfulReply] at hreply
  cases hr : deployOutcome input r with
  | error e =>
      simp only [hr] at hreply
      rw [w₁.graphqlAnswered_deploy_error hr]
      have hnone : w₁.deployAnswered.live = ∅ := by
        simp [World.deployAnswered, World.alive, hlive, hreply]
      refine ⟨guar_of_holder hlock hflying rfl rfl rfl fun _ hs => hs, ?_, hlock, rfl⟩
      exact { hinv with
        synced := hinv.synced
        recorded := by simp [hnone]
        idlePending := fun _ => rfl
        deployHeld := fun hd => by cases hd
        rest := fun _ _ => .inl hnone }
  | ok q =>
      simp only [hr] at hreply
      rw [w₁.graphqlAnswered_deploy_ok hr]
      have hq : q ≠ "" := deployOutcome_ne_empty hr
      have honly : ∀ x ∈ w₁.deployAnswered.live, x = q := by
        intro x hx
        rcases hreply with hpend | hpend
        · simp [World.deployAnswered, World.alive, hlive, hpend] at hx
        · simpa [World.deployAnswered, World.alive, hlive, hpend] using hx
      have hmem : ((w₁.deployed q).openState q).store.activePodId = q := by
        simp [World.openState, World.deployed, World.deployAnswered, ActivePodStore.openState,
          hinv.template]
      have hsettled : ∀ w', w'.store.activePodId = q → ∀ p, Interruption.Settled p w' :=
        fun w' hw' => Interruption.settled_of_memory (by rwa [hw'])
      refine ⟨guar_of_holder hlock hflying rfl rfl rfl fun _ hs => hs,
        guar_of_holder hlock hflying rfl rfl rfl fun p _ => hsettled _ hmem p,
        guar_of_holder hlock hflying rfl rfl rfl fun p _ =>
          hsettled (((w₁.deployed q).openState q).writeState q) hmem p,
        ⟨?_, hlock, rfl⟩, honly⟩
      exact { hinv with
        template := by
          simpa [World.openState, World.writeState, World.deployed, World.deployAnswered]
            using hinv.template
        sound := (hinv.sound.openState q).writeState q
        synced := fun _ hpath => by
          have hpath' : w₁.store.path ≠ "" := by
            simpa [World.openState, World.writeState, World.deployed, World.deployAnswered]
              using hpath
          simp [World.openState, World.writeState, World.deployed, World.deployAnswered,
            ActivePodStore.openState, ActivePodStore.writeState, hinv.template, hpath',
            hinv.sound.writes]
        recorded := fun x hx => by
          rw [honly x hx]
          exact ⟨ActivePodStore.store_load hinv.template hq _, hq⟩
        idlePending := fun _ => rfl
        deployHeld := fun hd => by cases hd
        rest := fun hrest _ => by
          have hrest' : w₁.inFlight = ∅ := hrest
          simp [hrest'] at hflying
        sentAlone := fun alive ha => by
          have ha : Event.deploySent alive ∈ Event.deployed q :: w₁.log := ha
          exact hinv.sentAlone alive (by simpa using ha) }

/-- A terminate that ended well has left nothing alive. -/
lemma terminated {p : String} {w : World} {r : Except Exn HttpAnswer} (h : Only n p w)
    (hp : truthful (.request n) (.graphql (.podTerminate p)) r w) :
    let x := (GraphqlCall.podTerminate p).outcome r
    let w₂ := w.terminateAnswered p x
    contract.guar (.request n) w w₂ ∧
      match x with
      | .ok _ => Droppable contract (.request n) (Holds n) (Holds n) p w₂
      | .error e =>
          if e.isNotFound then Droppable contract (.request n) (Holds n) (Holds n) p w₂
          else contract.guar (.request n) w₂ (w₂.clear p) ∧ Holds n (w₂.clear p) := by
  have hreply := hp.1
  simp only [truthfulReply] at hreply
  rw [if_neg fun hc => by cases hp.2 hc] at hreply
  cases hx : (GraphqlCall.podTerminate p).outcome r with
  | ok _ =>
      exact ⟨(quiet_gone w p).guar _, droppable (h.1.quiet (quiet_gone w p) (h.1.inv.gone p))
        (OnePod.live_of_gone h.2)⟩
  | error e =>
      simp only [hx] at hreply
      simp only [World.terminateAnswered, if_pos hreply.1]
      exact ⟨(quiet_reportedMissing w p).guar _,
        droppable (h.1.quiet (quiet_reportedMissing w p) (h.1.inv.reportedMissing p))
          (OnePod.live_of_missing h.2 hreply.2)⟩

/-- The view of a request that holds the lock. -/
def managerView (cfg : AdapterConfig) (n : ℕ) : ManagerView cfg contract n where
  seek _ := Holds n
  fresh _ q := Only n q
  held p := Only n p
  leave := Holds n
  seek_stays _ := holds_stays
  fresh_stays _ := only_stays
  held_stays := only_stays
  leave_stays := holds_stays
  seek_leave := id
  held_leave h := h.1
  fresh_seek h := h.1
  adopt := id
  found {d w q} h hload hq := ⟨h, fun p hp => by
    have hrecorded := (h.inv.recorded p hp).1
    rw [hload] at hrecorded
    exact (Except.ok.inj hrecorded).symm⟩
  sends h hload := ⟨h.guar rfl rfl rfl fun _ hs => hs, (sends h hload).2⟩
  deployed h hload hrely hinv hp := deployed h hload hrely hinv hp
  replaces h := ⟨(quiet_noted _ _ _).guar _,
    h.1.quiet (quiet_noted _ _ _) (h.1.inv.noted _ _), h.2⟩
  missing {p w r e} h hp hr he :=
    have hmissing : p ∉ w.alive := by
      have hreply := hp.1
      simp only [truthfulReply, hr] at hreply
      exact hreply.1 he
    ⟨(quiet_reportedMissing w p).guar _,
      droppable (h.1.quiet (quiet_reportedMissing w p) (h.1.inv.reportedMissing p))
        (OnePod.live_of_missing h.2 hmissing)⟩
  terminated h hp := terminated h hp
  serves h := ⟨(quiet_noted _ _ _).guar _, h.1.quiet (quiet_noted _ _ _) (h.1.inv.noted _ _)⟩

end Request

/-! ## Timer tasks -/

section Timer

variable {n : ℕ} {p : String} {w : World}

/-- A task may end if it was cancelled, or if nothing runs where its release was due. -/
lemma inv_exit (h : Inv w) (hn : n < w.controller.created)
    (hreleased : n ∉ w.controller.cancelling → w.inFlight = ∅ → w.live = ∅) :
    Inv (w.exit (.idle n)) where
  template := h.template
  sound := h.sound
  synced := h.synced
  recorded := h.recorded
  idlePending := h.idlePending
  deployHeld := h.deployHeld
  owner := h.owner
  count := h.count
  orderly := h.orderly.finish hn
  rest hrest hcreated := by
    rcases h.rest hrest hcreated with hlive | ⟨m, hm⟩
    · exact .inl hlive
    · by_cases hmn : m = n
      · subst hmn
        exact .inl (hreleased hm.uncancelled hrest)
      · exact .inr ⟨m, Controller.alive_finish.mpr ⟨hm, hmn⟩⟩
  sentAlone := h.sentAlone

/-- The task may end. -/
def Ending (n : ℕ) (w : World) : Prop := Inv (w.exit (.idle n))

/-- A task that has been cancelled may end. -/
lemma ending_delivered (h : Inv w) (hn : n ∈ w.controller.cancelling) :
    Ending n (w.delivered (.idle n)) := by
  have hexit : (w.delivered (.idle n)).exit (.idle n) = w.exit (.idle n) := by
    rw [World.delivered, World.exit, Controller.delivered_finish]
    rfl
  rw [Ending, hexit]
  exact inv_exit h (h.orderly.created n (.inr (.inl hn))) fun hx => absurd hn hx

/-- A change of what `asyncio` keeps about the task `n`. -/
lemma guar_timer {c : Controller} (hcreated : c.created = w.controller.created)
    (hdone : ∀ m, m ≠ n → m ∈ c.done → m ∈ w.controller.done)
    (hcancelling : ∀ m, m ≠ n → m ∈ w.controller.cancelling → m ∈ c.cancelling) :
    contract.guar (.idle n) w { w with controller := c } := by
  intro j hj
  refine ⟨Iff.rfl, Iff.rfl, fun _ => ⟨rfl, subset_rfl⟩, fun _ hs => hs, fun m hm => ?_⟩
  have hne : m ≠ n := by
    rintro rfl
    exact hj hm
  exact ⟨hcreated.ge, hdone m hne, hcancelling m hne, fun _ _ _ hrest => ⟨hrest, subset_rfl⟩⟩

lemma guar_delivered : contract.guar (.idle n) w (w.delivered (.idle n)) :=
  guar_timer rfl (fun _ _ hd => hd) fun _ hm hx => Finset.mem_erase.mpr ⟨hm, hx⟩

lemma guar_exit : contract.guar (.idle n) w (w.exit (.idle n)) :=
  guar_timer rfl (fun _ hm hd => Finset.mem_of_mem_insert_of_ne hd hm)
    fun _ hm hx => Finset.mem_erase.mpr ⟨hm, hx⟩

lemma guar_clear (i : TaskId) (p : String) : contract.guar i w (w.clear p) :=
  fun _ _ => ⟨Iff.rfl, Iff.rfl, fun _ => ⟨rfl, subset_rfl⟩,
    fun _ hs => Interruption.settled_clear hs p,
    fun _ _ => ⟨le_rfl, id, id, fun _ _ _ hrest => ⟨hrest, subset_rfl⟩⟩⟩

/-- **The rule of a wait of a timer task.** -/
lemma wp_idle {o : Op} {S : World → Prop} {Q : o.Res → World → Prop}
    (hS : contract.Stays (.idle n) S) (hexec : World.exec (.idle n) o w = none)
    (hissue : World.issue (.idle n) o w = w) (h : S w)
    (hcancel : ∀ w₁ r, S w₁ → truthfulReply o r w₁ → o.isCancelled r →
      n ∈ w₁.controller.cancelling → Q r (w₁.delivered (.idle n)))
    (hanswer : ∀ w₁ r w₂, S w₁ → truthfulReply o r w₁ → o.isCancelled r = false →
      n ∉ w₁.controller.cancelling → World.effect (.idle n) o r w₁ = some w₂ →
        contract.guar (.idle n) w₁ w₂ ∧ Q r w₂) :
    contract.wp (.idle n) (Prog.call (I := adapterInterface) o) Q w := by
  refine (contract.wp_wait hexec).mpr ?_
  show contract.guar _ w (World.issue (.idle n) o w) ∧ _
  simp only [system, hissue]
  refine ⟨contract.guar_refl _ w, hS.inv h, fun w₁ r w₂ h₁ h₂ h₃ => ?_⟩
  have hw₁ := hS.rely h h₁ h₂
  rcases @answer_idle truthful _ _ _ _ _ h₃ with ⟨hp, ⟨hn, hr, rfl⟩ | ⟨hn, hr, he⟩⟩
  · exact ⟨guar_delivered, hcancel w₁ r hw₁ hp.1 hr hn⟩
  · exact hanswer w₁ r w₂ hw₁ hp.1 hr hn he

/-- The timer is awake and no request is in flight. -/
structure Resting (n : ℕ) (w : World) : Prop where
  inv : Inv w
  alive : w.controller.Alive n
  rest : w.inFlight = ∅

/-- It is about to release `p`. -/
structure Running (n : ℕ) (p : String) (w : World) : Prop extends Resting n w where
  nonempty : p ≠ ""
  settled : Interruption.Settled p w
  only : ∀ q ∈ w.live, q = p

/-- The same while it waits: it may have been cancelled. -/
structure Releasing (n : ℕ) (p : String) (w : World) : Prop where
  inv : Inv w
  created : n < w.controller.created
  pending : n ∉ w.controller.done
  nonempty : p ≠ ""
  settled : Interruption.Settled p w
  quiet : n ∉ w.controller.cancelling → w.inFlight = ∅ ∧ ∀ q ∈ w.live, q = p

/-- Nothing runs any more. -/
structure Released (n : ℕ) (w : World) : Prop extends Resting n w where
  nothing : w.live = ∅

lemma releasing_stays (n : ℕ) (p : String) : contract.Stays (.idle n) (Releasing n p) :=
  ⟨fun h => h.inv, fun h hr hinv => by
    have ht := hr.timer n rfl
    refine ⟨hinv, h.created.trans_le ht.created, fun hd => h.pending (ht.done hd), h.nonempty,
      hr.settled p h.settled, fun hx => ?_⟩
    obtain ⟨hrest, honly⟩ := h.quiet fun hc => hx (ht.cancelling hc)
    obtain ⟨hrest', hlive⟩ := ht.quiet h.created h.pending hx hrest
    exact ⟨hrest', fun q hq => honly q (hlive hq)⟩⟩

lemma Running.releasing (h : Running n p w) : Releasing n p w :=
  ⟨h.inv, h.alive.created, h.alive.pending, h.nonempty, h.settled, fun _ => ⟨h.rest, h.only⟩⟩

lemma Releasing.running (h : Releasing n p w) (hn : n ∉ w.controller.cancelling) :
    Running n p w where
  inv := h.inv
  alive := ⟨h.created, h.pending, hn⟩
  rest := (h.quiet hn).1
  nonempty := h.nonempty
  settled := h.settled
  only := (h.quiet hn).2

lemma Resting.quiet {w' : World} (h : Resting n w) (hq : Quiet w w') (hinv : Inv w') :
    Resting n w' :=
  ⟨hinv, hq.controller ▸ h.alive, hq.inFlight.trans h.rest⟩

lemma Released.ending (h : Released n w) : Ending n w :=
  inv_exit h.inv h.alive.created fun _ _ => h.nothing

/-- The store can be read. -/
lemma Inv.load_ok (h : Inv w) : ∃ p, w.load = .ok p := by
  rw [World.load, ActivePodStore.load]
  split_ifs
  · exact ⟨_, rfl⟩
  · exact ⟨_, rfl⟩
  · cases hcontent : w.file.content with
    | absent => exact ⟨_, rfl⟩
    | text t => exact ⟨_, rfl⟩
    | unreadable e => exact absurd hcontent (h.sound.reads e)

/-! ### The drain -/

section Keeps

variable {α β : Type} {cfg : AdapterConfig}

/-- What holds where `e` was raised: only a `CancelledError` ends the release. -/
def Raised (n : ℕ) (p : String) (e : Exn) (w : World) : Prop :=
  if e.isException then Running n p w else Ending n w

/-- The release of `p` keeps to what it knows as long as it is not cancelled. -/
def Keeps (n : ℕ) (p : String) (x : Adapter α) : Prop :=
  ∀ w, Running n p w → contract.wpE (.idle n) x (fun _ => Running n p) (Raised n p) w

lemma Running.raised (h : Running n p w) {e : Exn} (he : e.isException) : Raised n p e w := by
  rwa [Raised, if_pos he]

lemma keeps_pure (a : α) : Keeps n p (pure a : Adapter α) := fun _ h => h

lemma keeps_throw {e : Exn} (he : e.isException) : Keeps n p (throw e : Adapter α) :=
  fun _ h => h.raised he

lemma keeps_ofExcept {r : Except Exn α} (hr : Raises (fun e => e.isException) r) :
    Keeps n p (Async.ofExcept r : Adapter α) := by
  cases r with
  | ok a => exact keeps_pure a
  | error e => exact keeps_throw (hr e rfl)

lemma keeps_bind {x : Adapter α} {f : α → Adapter β} (hx : Keeps n p x)
    (hf : ∀ a, Keeps n p (f a)) : Keeps n p (x >>= f) := fun w h =>
  contract.wpE_bind.mpr (contract.wpE_mono (hx w h) (fun a w₁ h₁ => hf a w₁ h₁) fun _ _ h₁ => h₁)

/-- A handler must let a `CancelledError` through. -/
lemma keeps_attempt {x : Adapter α} {f : Except Exn α → Adapter β} (hx : Keeps n p x)
    (hok : ∀ a, Keeps n p (f (.ok a))) (hf : ∀ e, e.isException → Keeps n p (f (.error e)))
    (hcancel : f (.error .cancelledError) = throw .cancelledError) :
    Keeps n p (Async.attempt x >>= f) := fun w h => by
  refine contract.wpE_bind.mpr (contract.wpE_attempt.mpr
    (contract.wpE_mono (hx w h) (fun a w₁ h₁ => hok a w₁ h₁) fun e w₁ h₁ => ?_))
  by_cases he : e.isException
  · rw [Raised, if_pos he] at h₁
    exact hf e he w₁ h₁
  · obtain rfl := IdleQuiet.not_isException.mp (by simpa using he)
    rw [hcancel]
    exact h₁

lemma keeps_getPod (hkey : cfg.runpodApiKey ≠ "") : Keeps n p (getPod cfg p) := fun w h => by
  refine (wpE_getPod hkey).mpr (wp_idle (o := .graphql (.pod p)) (releasing_stays n p) rfl rfl
    h.releasing (fun w₁ r h₁ _ hr hn => ?_) fun w₁ r w₂ h₁ hp hr hn he => ?_)
  · rw [raisesCancelled_iff.mp hr]
    exact ending_delivered h₁.inv hn
  · cases he
    have hrun := h₁.running hn
    have hrun' : contract.guar (.idle n) w₁ (w₁.graphqlAnswered (.pod p) r) ∧
        Running n p (w₁.graphqlAnswered (.pod p) r) := by
      rcases w₁.graphqlAnswered_pod p r with he | he <;> rw [he]
      · exact ⟨contract.guar_refl _ w₁, hrun⟩
      · exact ⟨(quiet_reportedMissing w₁ p).guar _,
          hrun.toResting.quiet (quiet_reportedMissing w₁ p) (hrun.inv.reportedMissing p),
          hrun.nonempty, hrun.settled, hrun.only⟩
    refine ⟨hrun'.1, ?_⟩
    simp only [truthfulReply] at hp
    cases hx : podOutcome p r with
    | ok pod => exact hrun'.2
    | error e =>
        simp only [hx] at hp
        refine hrun'.2.raised ?_
        by_contra hexn
        have hcancelled := hp.2 (IdleQuiet.not_isException.mp (by simpa using hexn))
        rw [show raisesCancelled r = false from hr] at hcancelled
        cases hcancelled

lemma keeps_podLogs (url : String) : Keeps n p (Adapter.podLogs url) := fun w h => by
  refine wp_idle (o := .podLogs url) (releasing_stays n p) rfl rfl h.releasing
    (fun w₁ r h₁ _ hr hn => ?_) fun w₁ r w₂ h₁ _ hr hn he => ?_
  · rw [raisesCancelled_iff.mp hr]
    exact ending_delivered h₁.inv hn
  · cases he
    refine ⟨contract.guar_refl _ w₁, ?_⟩
    cases r with
    | ok _ => exact h₁.running hn
    | error e =>
        refine (h₁.running hn).raised ?_
        by_contra hexn
        obtain rfl := IdleQuiet.not_isException.mp (by simpa using hexn)
        cases hr

lemma keeps_drainCloudPodLogs (hkey : cfg.runpodApiKey ≠ "") :
    Keeps n p (drainCloudPodLogs cfg p) := by
  rw [drainCloudPodLogs]
  split_ifs
  · exact keeps_pure false
  refine keeps_attempt (keeps_getPod hkey) (fun pod => ?_) (fun e he => ?_) rfl
  · refine keeps_bind (keeps_ofExcept (extractTcpMapping_raises (fun _ => rfl) _ _))
      fun mapping => ?_
    cases mapping with
    | none => exact keeps_pure false
    | some mapping =>
        refine keeps_attempt (keeps_podLogs _) (fun _ => keeps_pure true) (fun e he => ?_) rfl
        dsimp only
        rw [if_pos he]
        exact keeps_pure false
  · dsimp only
    rw [if_pos he]
    exact keeps_pure false

end Keeps

/-! ### The release -/

section Release

variable {cfg : AdapterConfig}

/-- What holds where the release was left by an exception. -/
def Cancelled (n : ℕ) (e : Exn) (w : World) : Prop := e = .cancelledError ∧ Ending n w

/-- `except Exception` swallows everything that may be raised but a `CancelledError`. -/
lemma catchException_spec {body : Adapter Unit} (hbody : Keeps n p body) (h : Running n p w) :
    contract.wpE (.idle n) (catchException body) (fun _ => Running n p) (Cancelled n) w := by
  refine contract.wpE_bind.mpr (contract.wpE_attempt.mpr
    (contract.wpE_mono (hbody w h) (fun _ _ h₁ => h₁) fun e w₁ h₁ => ?_))
  show contract.wpE _ (if e.isException then pure () else throw e) _ _ w₁
  rw [Raised] at h₁
  split_ifs at h₁ ⊢ with he
  · exact h₁
  · exact ⟨IdleQuiet.not_isException.mp (by simpa using he), h₁⟩

/-- Clearing the id of a pod that is gone loses nothing that runs. -/
lemma inv_clear_gone (h : Inv w) (hp : p ≠ "") (hsettled : Interruption.Settled p w)
    (hgone : p ∉ w.live) : Inv (w.clear p) := by
  refine h.clear fun q hq => ?_
  obtain ⟨hload, hne⟩ := h.recorded q hq
  exact Interruption.load_clear hp hsettled hload (fun he => hgone (he ▸ hq)) hne

lemma Running.released (h : Running n p w) (hlive : w.live = ∅) : Released n (w.clear p) where
  inv := inv_clear_gone h.inv h.nonempty h.settled (by simp [hlive])
  alive := h.alive
  rest := h.rest
  nothing := hlive

/-- **The terminate of a release** leaves nothing running, or the task ends because it was
cancelled. -/
lemma terminate_spec (hkey : cfg.runpodApiKey ≠ "") (h : Running n p w) :
    contract.wpE (.idle n) (terminate cfg p) (fun _ => Released n) (Cancelled n) w := by
  rw [terminate, contract.wpE_tryFinally, terminateOrGone, contract.wpE_bind, contract.wpE_attempt,
    wpE_terminatePod hkey]
  refine wp_idle (o := .graphql (.podTerminate p)) (releasing_stays n p) rfl rfl h.releasing
    (fun w₁ r h₁ hp hr hn => ?_) fun w₁ r w₂ h₁ hp hr hn he => ?_
  · have hgone : p ∉ w₁.alive := by
      rw [truthfulReply, if_pos (show raisesCancelled r from hr)] at hp
      exact hp
    rw [raisesCancelled_iff.mp hr]
    refine wpE_clear.mpr ⟨guar_clear _ p, rfl, ?_⟩
    refine inv_clear_gone (w := (w₁.delivered (.idle n)).exit (.idle n))
      (ending_delivered h₁.inv hn) h₁.nonempty h₁.settled fun hlive => hgone ?_
    exact Finset.mem_union_left _ hlive
  · cases he
    have hrun := h₁.running hn
    simp only [truthfulReply] at hp
    rw [if_neg (by simp [show raisesCancelled r = false from hr])] at hp
    simp only [World.graphqlAnswered]
    cases hx : (GraphqlCall.podTerminate p).outcome r with
    | ok _ =>
        refine ⟨(quiet_gone w₁ p).guar _, wpE_clear.mpr ⟨guar_clear _ p, ?_⟩⟩
        have hgone : Running n p (w₁.gone p) :=
          ⟨hrun.toResting.quiet (quiet_gone w₁ p) (hrun.inv.gone p), hrun.nonempty, hrun.settled,
            fun q hq => hrun.only q (Finset.mem_of_mem_erase hq)⟩
        exact hgone.released (OnePod.live_of_gone hrun.only)
    | error e =>
        simp only [hx] at hp
        simp only [World.terminateAnswered, if_pos hp.1]
        refine ⟨(quiet_reportedMissing w₁ p).guar _, ?_⟩
        show contract.wpE _ (if e.isNotFound then pure () else throw e) _ _ _
        rw [if_pos hp.1]
        refine wpE_clear.mpr ⟨guar_clear _ p, ?_⟩
        have hmissing : Running n p (w₁.reportedMissing p) :=
          ⟨hrun.toResting.quiet (quiet_reportedMissing w₁ p) (hrun.inv.reportedMissing p),
            hrun.nonempty, hrun.settled, hrun.only⟩
        exact hmissing.released (OnePod.live_of_missing hrun.only hp.2)

/-- **A release that is not cancelled leaves nothing running.** -/
lemma releaseIdlePod_spec (hkey : cfg.runpodApiKey ≠ "") (haction : cfg.idleAction = "terminate")
    (h : Resting n w) :
    contract.wpE (.idle n) (releaseIdlePod cfg) (fun _ => Released n) (Cancelled n) w := by
  rw [releaseIdlePod, contract.wpE_bind, wpE_load]
  obtain ⟨p, hload⟩ := h.inv.load_ok
  rw [hload]
  show contract.wpE _ (if cfg.runpodApiKey = "" then pure () else _) _ _ w
  rw [if_neg hkey]
  split_ifs with hp
  · refine ⟨h, Finset.eq_empty_of_forall_notMem fun q hq => ?_⟩
    obtain ⟨hq, hne⟩ := h.inv.recorded q hq
    rw [hload, hp] at hq
    exact hne (Except.ok.inj hq).symm
  · have hrun : Running n p w := by
      refine ⟨h, hp, fun _ _ q hq => ?_, fun q hq => ?_⟩
      · rw [hload] at hq
        exact .inl (Except.ok.inj hq).symm
      · have hq := (h.inv.recorded q hq).1
        rw [hload] at hq
        exact (Except.ok.inj hq).symm
    have hdrain : Keeps n p (do let _ ← drainCloudPodLogs cfg p : Adapter Unit) :=
      keeps_bind (keeps_drainCloudPodLogs hkey) fun _ => keeps_pure ()
    have hcancelled : ∀ e w', Cancelled n e w' → contract.wpE (.idle n)
        (if e.isException then pure () else throw e : Adapter Unit) (fun _ => Released n)
        (Cancelled n) w' := by
      rintro _ w' ⟨rfl, h'⟩
      exact ⟨rfl, h'⟩
    rw [catchException, contract.wpE_bind, contract.wpE_attempt, releasePod, if_pos haction,
      contract.wpE_bind]
    refine contract.wpE_mono (catchException_spec hdrain hrun) (fun _ w₁ h₁ => ?_) hcancelled
    exact contract.wpE_mono (terminate_spec hkey h₁) (fun _ _ h₂ => h₂) hcancelled

/-! ### The task -/

/-- The timer sleeps. -/
structure Sleeping (n : ℕ) (w : World) : Prop where
  inv : Inv w
  created : n < w.controller.created
  pending : n ∉ w.controller.done

lemma sleeping_stays (n : ℕ) : contract.Stays (.idle n) (Sleeping n) :=
  ⟨fun h => h.inv, fun h hr hinv =>
    have ht := hr.timer n rfl
    ⟨hinv, h.created.trans_le ht.created, fun hd => h.pending (ht.done hd)⟩⟩

/-- The timer is awake. -/
def Awake (n : ℕ) (w : World) : Prop := Inv w ∧ w.controller.Alive n

lemma idleDelay_spec (h : Awake n w) :
    contract.wpE (.idle n) (idleDelay cfg) (fun _ => Awake n) (Cancelled n) w := by
  rw [idleDelay]
  split_ifs
  · refine wp_idle (o := .sleep cfg.runpodIdleStopSeconds) (sleeping_stays n) rfl rfl
      ⟨h.1, h.2.created, h.2.pending⟩ (fun w₁ r h₁ _ hr hn => ?_) fun w₁ r w₂ h₁ hp hr hn he => ?_
    · rw [raisesCancelled_iff.mp hr]
      exact ⟨rfl, ending_delivered h₁.inv hn⟩
    · cases he
      refine ⟨contract.guar_refl _ w₁, ?_⟩
      rcases hp with hp | hp
      · rw [show raisesCancelled r = false from hr] at hp
        cases hp
      · rw [hp]
        exact ⟨h₁.inv, h₁.created, h₁.pending, hn⟩
  · exact h

/-- An awake timer finds a request active, or it releases what is there. -/
lemma releaseIfQuiet_spec (hkey : cfg.runpodApiKey ≠ "") (haction : cfg.idleAction = "terminate")
    (h : Awake n w) :
    contract.wpE (.idle n) (releaseIfQuiet cfg) (fun _ => Ending n) (Cancelled n) w := by
  rw [releaseIfQuiet, contract.wpE_bind]
  refine contract.wpE_mono (idleDelay_spec h) (fun _ w₁ h₁ => ?_) fun _ _ => id
  rw [contract.wpE_bind]
  refine (contract.wp_exec rfl).mpr ⟨contract.guar_refl _ w₁, ?_⟩
  show contract.wpE _ (Adapter.load >>= fun _ => _) _ _ w₁
  rw [contract.wpE_bind, wpE_load]
  obtain ⟨label, hload⟩ := h₁.1.load_ok
  rw [hload]
  show contract.wpE _ (if w₁.controller.activeRequests ≠ 0 then pure () else _) _ _ w₁
  have hcount := h₁.1.count
  split_ifs with hactive
  · refine inv_exit h₁.1 h₁.2.created fun _ hrest => absurd ?_ hactive
    simp [hcount, hrest]
  · rw [not_not, hcount] at hactive
    have hrest : w₁.inFlight = ∅ := Finset.card_eq_zero.mp (by exact_mod_cast hactive)
    rw [contract.wpE_bind, wpE_note]
    refine ⟨(quiet_noted _ _ _).guar _, ?_⟩
    have hresting : Resting n (w₁.noted (.idle n) .releaseEntered) :=
      ⟨h₁.1.noted _ _, h₁.2, hrest⟩
    rw [contract.wpE_tryFinally]
    refine contract.wpE_mono (releaseIdlePod_spec hkey haction hresting) (fun _ w₂ h₂ => ?_) ?_
    · exact wpE_note.mpr ⟨(quiet_noted _ _ _).guar _,
        Inv.noted (w := w₂.exit (.idle n)) h₂.ending (.idle n) .releaseLeft⟩
    · rintro e w₂ ⟨rfl, h₂⟩
      exact wpE_note.mpr ⟨(quiet_noted _ _ _).guar _, rfl,
        Inv.noted (w := w₂.exit (.idle n)) h₂ (.idle n) .releaseLeft⟩

lemma idleTask_spec (hkey : cfg.runpodApiKey ≠ "") (haction : cfg.idleAction = "terminate")
    (h : Inv w) (hdone : n ∉ w.controller.done) :
    contract.wpE (.idle n) (idleTask cfg) (fun _ => Ending n) (Cancelled n) w := by
  have hstays : contract.Stays (.idle n) fun w => Inv w ∧ n ∉ w.controller.done :=
    ⟨fun h => h.1, fun h hr hinv => ⟨hinv, fun hd => h.2 ((hr.timer n rfl).done hd)⟩⟩
  rw [idleTask, contract.wpE_bind]
  refine wp_idle (o := .firstStep) hstays rfl rfl ⟨h, hdone⟩ (fun w₁ r h₁ _ hr hn => ?_)
    fun w₁ r w₂ h₁ hp hr hn he => ?_
  · rw [raisesCancelled_iff.mp hr]
    exact ⟨rfl, ending_delivered h₁.1 hn⟩
  · simp only [World.effect] at he
    split_ifs at he with hcreated
    cases he
    refine ⟨contract.guar_refl _ w₁, ?_⟩
    rcases hp with hp | hp
    · rw [show raisesCancelled r = false from hr] at hp
      cases hp
    · rw [hp]
      show contract.wpE _ (releaseAfterIdleDelay cfg) _ _ w₁
      rw [releaseAfterIdleDelay, contract.wpE_bind, contract.wpE_attempt]
      refine contract.wpE_mono (releaseIfQuiet_spec hkey haction ⟨h₁.1, hcreated, h₁.2, hn⟩)
        (fun _ _ h₂ => h₂) ?_
      rintro e w₂ ⟨rfl, h₂⟩
      exact h₂

end Release

end Timer

/-! ## The process -/

/-- Where the pending timer is cancelled, no timer may rely on rest any longer. -/
lemma timerSame_of_cancels {m : ℕ} {w w' : World} (active : ℤ) (h : w.controller.Orderly)
    (hcreated : w.controller.created ≤ w'.controller.created)
    (hdone : w'.controller.done = w.controller.done)
    (hcancelling : ({ w.controller with activeRequests := active }.cancelPending).cancelling ⊆
      w'.controller.cancelling) : TimerSame m w w' where
  created := hcreated
  done hd := hdone ▸ hd
  cancelling hx := hcancelling ((Controller.mem_cancelPending _).mpr (.inl hx))
  quiet hc hd hx _ := by
    refine absurd (hcancelling (h.cancels ⟨hc, hd, fun hx' => hx ?_⟩ active)) hx
    exact hcancelling ((Controller.mem_cancelPending _).mpr (.inl hx'))

/-- The view of the requests.  No timer is in view; `idleTask_spec` speaks of them. -/
def processView (cfg : AdapterConfig) : ProcessView cfg contract where
  manager n := managerView cfg n
  release _ :=
    { enter := fun _ => False
      watch := fun _ => False
      target := fun _ _ => False
      watch_stays := ⟨False.elim, fun h => h.elim⟩
      target_stays := fun _ => ⟨False.elim, fun h => h.elim⟩
      enter_watch := id
      target_watch := id
      found := fun h => h.elim
      delivered := fun h => h.elim
      polled := fun h => h.elim
      terminated := fun h => h.elim
      interrupted := fun h => h.elim }
  outside n w := Inv w ∧ .request n ∉ w.inFlight
  flying n w := Inv w ∧ .request n ∈ w.inFlight ∧ w.lock ≠ some (.request n)
  calm _ _ := False
  outside_stays n := ⟨fun h => h.1, fun h hr hinv => ⟨hinv, fun hm => h.2 (hr.inFlight.mp hm)⟩⟩
  flying_stays n := ⟨fun h => h.1, fun h hr hinv =>
    ⟨hinv, hr.inFlight.mpr h.2.1, fun hl => h.2.2 (hr.lock.mp hl)⟩⟩
  calm_stays _ := ⟨False.elim, fun h => h.elim⟩
  starts {n w} h _ := by
    refine ⟨fun j hj => ⟨?_, Iff.rfl, fun _ => ⟨rfl, subset_rfl⟩, fun _ hs => hs, fun m _ => ?_⟩,
      ?_, Finset.mem_insert_self _ _, fun hl => h.2 (h.1.owner _ hl)⟩
    · simp [World.requestStarted, hj]
    · refine timerSame_of_cancels (w.controller.activeRequests + 1) h.1.orderly ?_ ?_
        subset_rfl
      · simp [World.requestStarted, Controller.requestStarted]
      · simp [World.requestStarted, Controller.requestStarted]
    · exact { h.1 with
        synced := h.1.synced
        recorded := h.1.recorded
        owner := fun i hi => Finset.mem_insert_of_mem (h.1.owner i hi)
        count := by simp [World.requestStarted, h.1.count, Finset.card_insert_of_notMem h.2]
        orderly := h.1.orderly.requestStarted w.load
        rest := fun hrest => absurd hrest (Finset.insert_ne_empty _ _) }
  acquires {n w} h hl := by
    refine ⟨fun j hj => ⟨Iff.rfl, ?_, fun hj' => ?_, fun _ hs => hs, fun m _ =>
      ⟨le_rfl, id, id, fun _ _ _ hrest => ⟨hrest, subset_rfl⟩⟩⟩, ?_, rfl, ?_⟩
    · simp [hl, Ne.symm hj]
    · simp [hl] at hj'
    · exact { h.1 with
        synced := h.1.synced
        recorded := h.1.recorded
        deployHeld := fun _ => by simp
        owner := fun i hi => by
          cases hi
          exact h.2.1 }
    · by_contra hd
      exact h.1.deployHeld (by simpa using hd) hl
  releases {n w} h := by
    refine ⟨fun j hj => ⟨Iff.rfl, ?_, fun hj' => ?_, fun _ hs => hs, fun m _ =>
      ⟨le_rfl, id, id, fun _ _ _ hrest => ⟨hrest, subset_rfl⟩⟩⟩, ?_, h.inFlight, by simp⟩
    · simp [h.lock, Ne.symm hj]
    · rw [h.lock] at hj'
      exact absurd (Option.some.inj hj').symm hj
    · exact { h.inv with
        synced := h.inv.synced
        recorded := h.inv.recorded
        deployHeld := fun hd => by simp [h.notDeploying] at hd
        owner := fun i hi => by cases hi }
  finishes {n w} h := by
    obtain ⟨label, hload⟩ := h.1.load_ok
    have hcontroller : (w.requestFinished (.request n)).controller =
        ({ w.controller with
          activeRequests := w.controller.activeRequests - 1 }.cancelPending).createTimer := by
      rw [World.requestFinished, hload]
      rfl
    have hnone : ∀ m, ¬ ({ w.controller with
        activeRequests := w.controller.activeRequests - 1 }.cancelPending).Alive m :=
      fun m => h.1.orderly.not_alive
    have horderly := h.1.orderly.cancelPending (w.controller.activeRequests - 1)
    refine ⟨fun j hj =>
      ⟨?_, Iff.rfl, fun _ => ⟨rfl, subset_rfl⟩, fun _ hs => hs, fun m _ => ?_⟩, ?_⟩
    · simp [World.requestFinished, hj]
    · refine timerSame_of_cancels (w.controller.activeRequests - 1) h.1.orderly ?_ ?_ ?_
      · simp [hcontroller, Controller.createTimer]
      · simp [hcontroller, Controller.createTimer]
      · rw [hcontroller]
        exact subset_rfl
    · exact { h.1 with
        synced := h.1.synced
        recorded := h.1.recorded
        owner := fun i hi => Finset.mem_erase.mpr ⟨fun he => h.2.2 (he ▸ hi), h.1.owner i hi⟩
        count := by
          simp only [World.requestFinished, Controller.requestFinished_activeRequests, h.1.count]
          rw [← Finset.card_erase_add_one h.2.1, Nat.cast_add, Nat.cast_one, add_sub_cancel_right]
        orderly := by
          rw [hcontroller]
          exact horderly.createTimer hnone
        rest := fun _ _ => by
          rw [hcontroller]
          exact .inr ⟨_, (horderly.alive_createTimer hnone).mpr rfl⟩ }
  delivered h := h.elim
  enters h := h.elim
  leaves h := h.elim
  exits h := h.elim

end AtRest

/-! ## One life -/

/-- The state in which a process starts: the state file can be used, nothing is in memory yet, and a
pod that runs is the one in the file. -/
structure World.Starts (cfg : AdapterConfig) (w : World) : Prop where
  boots : w.Boots cfg
  sound : w.file.Sound
  memory : w.store.activePodId = ""
  recorded : ∀ p ∈ w.live, w.load = .ok p ∧ p ≠ ""

/-- **What is claimed of a state.**  Whatever runs is on record, or belongs to a deploy under way;
no deploy was sent while a pod was alive; and once a request has ended and none is in flight, no pod
runs unless a timer is alive. -/
structure World.Accounted (w : World) : Prop where
  recorded : ∀ p ∈ w.live, w.load = .ok p
  pending : w.pending ≠ none → w.deploying
  sentAlone : ∀ alive, .deploySent alive ∈ w.log → alive = ∅
  atRest : w.inFlight = ∅ → w.controller.created ≠ 0 → w.alive = ∅ ∨ ∃ n, w.controller.Alive n

namespace AtRest

variable {cfg : AdapterConfig} {rounds : ℕ} {w : World}

lemma inv_starts (hpod : cfg.runpodPodId = "") (h : w.Starts cfg) : Inv w where
  template := h.boots.configured.trans hpod
  sound := h.sound
  synced hmem := absurd h.memory hmem
  recorded := h.recorded
  idlePending _ := h.boots.pending
  deployHeld hd := by simp [h.boots.deploying] at hd
  owner i hi := by simp [h.boots.lock] at hi
  count := by simp [h.boots.controller, h.boots.inFlight, Controller.new]
  orderly := by
    rw [h.boots.controller]
    exact Controller.orderly_new
  rest _ hcreated := by simp [h.boots.controller, Controller.new] at hcreated
  sentAlone alive ha := by simp [h.boots.log] at ha

lemma Inv.accounted (h : Inv w) : w.Accounted where
  recorded p hp := (h.recorded p hp).1
  pending hne := by
    by_contra hd
    exact hne (h.idlePending (by simpa using hd))
  sentAlone := h.sentAlone
  atRest hrest hcreated := by
    have hlock : w.lock = none := by
      cases hl : w.lock with
      | none => rfl
      | some i =>
          have howner := h.owner i hl
          simp [hrest] at howner
    have hdeploying : w.deploying = false := by
      by_contra hd
      exact h.deployHeld (by simpa using hd) hlock
    refine (h.rest hrest hcreated).imp_left fun hlive => ?_
    rw [World.alive, hlive, h.idlePending hdeploying]
    rfl

/-- The invariant holds in every state that the process reaches. -/
theorem inv_reached (hpod : cfg.runpodPodId = "") (hkey : cfg.runpodApiKey ≠ "")
    (haction : cfg.idleAction = "terminate") (hstart : w.Starts cfg)
    {s : Pool adapterInterface TaskId World (Except Exn Unit)}
    (h : Pool.Reaches (system truthful) ⟨w, process cfg rounds⟩ s) : Inv s.world := by
  have hw := inv_starts hpod hstart
  refine (contract.sound (s := ⟨w, process cfg rounds⟩) (fun _ _ _ => True)
    (fun _ _ _ _ _ _ => trivial) hw (fun i => ?_) h).1
  cases i with
  | request n =>
      exact (processView cfg).request_parked rounds ⟨hw, by simp [hstart.boots.inFlight]⟩
  | idle n =>
      refine contract.parked_of_wp (o := .firstStep) rfl rfl (contract.wp_mono (fun r w' hr => ?_)
        (idleTask_spec hkey haction hw (n := n) ?_))
      · have hend : Ending n w' := by
          cases r with
          | ok _ => exact hr
          | error e => exact hr.2
        exact ⟨guar_exit, hend, trivial⟩
      · simp [hstart.boots.controller, Controller.new]

end AtRest

/-- **Nothing is billed at rest.**  In template mode, however requests and releases interleave and
interrupt one another: in every state that the process reaches, a pod that runs is on record, no
deploy was sent beside another pod, and when no request is in flight any more no pod runs, unless a
timer is alive that will release it. -/
theorem nothing_billed_at_rest {cfg : AdapterConfig} (hpod : cfg.runpodPodId = "")
    (hkey : cfg.runpodApiKey ≠ "") (haction : cfg.idleAction = "terminate") (rounds : ℕ) {w : World}
    (hstart : w.Starts cfg) {s : Pool adapterInterface TaskId World (Except Exn Unit)}
    (h : Pool.Reaches (system truthful) ⟨w, process cfg rounds⟩ s) : s.world.Accounted :=
  (AtRest.inv_reached hpod hkey haction hstart h).accounted

namespace AtRest

/-- A request fails, and the timer that it leaves behind releases the pod. -/
def release : List (TaskId × Prog.Exchange adapterInterface) :=
  [(.request 0, ⟨.arrive, ()⟩),
    (.request 0, ⟨.graphql (.pod "old"), serverError⟩),
    (.idle 0, ⟨.firstStep, Except.ok ()⟩),
    (.idle 0, ⟨.sleep 30, Except.ok ()⟩),
    (.idle 0, ⟨.graphql (.pod "old"), serverError⟩),
    (.idle 0, ⟨.graphql (.podTerminate "old"),
      jsonAnswer (.obj [("data", .obj [("podTerminate", .null)])])⟩)]

def releaseRun : Option (Pool adapterInterface TaskId World (Except Exn Unit)) :=
  Pool.play (system truthful) (World.reply? truthful) release ⟨.bootRecorded, process .template 1⟩

theorem releaseRun_isSome : releaseRun.isSome := by decide

/-- The last state of that run. -/
def releasedState : Pool adapterInterface TaskId World (Except Exn Unit) :=
  releaseRun.get releaseRun_isSome

lemma releasedState_reached :
    Pool.Reaches (system truthful) ⟨.bootRecorded, process .template 1⟩ releasedState :=
  Pool.play_reaches World.reply?_answer (Option.some_get _).symm

lemma bootRecorded_starts : World.bootRecorded.Starts .template where
  boots := World.boots_boot _ _ _
  sound := ⟨rfl, rfl, by simp [World.bootRecorded, World.boot]⟩
  memory := rfl
  recorded p hp := by
    rw [Finset.mem_singleton.mp (show p ∈ ({"old"} : Finset String) from hp)]
    decide

end AtRest

theorem nothing_billed_at_rest_released :
    AtRest.releasedState.world.inFlight = ∅ ∧ AtRest.releasedState.world.controller.created = 1 ∧
      AtRest.releasedState.world.controller.done = {0} ∧ AtRest.releasedState.world.Accounted :=
  ⟨by decide, by decide, by decide, nothing_billed_at_rest rfl (by decide) (by decide) 1
    AtRest.bootRecorded_starts AtRest.releasedState_reached⟩

/-! ## Many lives -/

namespace AtRest

/-- The path of the state file is the one that the process was started with. -/
lemma path_frame (policy : Policy) (path : String) :
    (system policy).Frame fun w => w.store.path = path :=
  store_frame policy (P := fun s => s.path = path) (fun s f p hs => by simpa using hs)
    fun s f q hs => by simpa using hs

/-- What is on record while the process runs is on record after it. -/
lemma Inv.starts {cfg : AdapterConfig} {w : World} (h : Inv w) (hpod : cfg.runpodPodId = "")
    (hpath : cfg.runpodActivePodIdPath ≠ "") (hsame : w.store.path = cfg.runpodActivePodIdPath)
    {live : Finset String} (hlive : live ⊆ w.live) (hids : ∀ p ∈ live, readPodId p = p) :
    (World.boot cfg w.file live).Starts cfg where
  boots := World.boots_boot cfg w.file live
  sound := h.sound
  memory := hpod
  recorded p hp := by
    obtain ⟨hload, hne⟩ := h.recorded p (hlive hp)
    refine ⟨?_, hne⟩
    have hcontent : ∃ t, w.file.content = .text t ∧ readPodId t = p := by
      by_cases hmem : w.store.activePodId = ""
      · rw [World.load, ActivePodStore.load, if_neg (not_not.mpr hmem),
          if_neg (by rwa [hsame])] at hload
        cases hfile : w.file.content with
        | absent =>
            rw [hfile] at hload
            exact absurd (Except.ok.inj hload).symm hne
        | text t =>
            rw [hfile] at hload
            exact ⟨t, rfl, Except.ok.inj hload⟩
        | unreadable e => exact absurd hfile (h.sound.reads e)
      · rw [World.load, ActivePodStore.load_memory hmem] at hload
        refine ⟨_, h.synced hmem (by rwa [hsame]), ?_⟩
        rw [Except.ok.inj hload]
        exact hids p hp
    obtain ⟨t, ht, hread⟩ := hcontent
    simp [World.boot, World.load, ActivePodStore.new, ActivePodStore.load, hpod, hpath, ht, hread]

end AtRest

/-- A step of the process, or its end at any wait while no deploy is under way, and its start on the
state file that it leaves behind.  Pods may have gone in between. -/
inductive Lives (cfg : AdapterConfig) (rounds : ℕ) :
    Pool adapterInterface TaskId World (Except Exn Unit) →
      Pool adapterInterface TaskId World (Except Exn Unit) → Prop
  | step {s s' : Pool adapterInterface TaskId World (Except Exn Unit)}
      (h : Pool.Step (system truthful) s s') : Lives cfg rounds s s'
  | restart {s : Pool adapterInterface TaskId World (Except Exn Unit)} {live : Finset String}
      (hdeploying : s.world.deploying = false) (hlive : live ⊆ s.world.live)
      (hids : ∀ p ∈ live, readPodId p = p) :
      Lives cfg rounds s ⟨.boot cfg s.world.file live, process cfg rounds⟩

/-- **A restart forgets no pod.**  The process may be killed and started again any number of times,
at any wait at which no deploy is under way: what is claimed of one life holds of every state of
every one. -/
theorem restarts_keep_record {cfg : AdapterConfig} (hpod : cfg.runpodPodId = "")
    (hkey : cfg.runpodApiKey ≠ "") (haction : cfg.idleAction = "terminate")
    (hpath : cfg.runpodActivePodIdPath ≠ "") (rounds : ℕ) {file : StateFile} {live : Finset String}
    (hstart : (World.boot cfg file live).Starts cfg)
    {s : Pool adapterInterface TaskId World (Except Exn Unit)}
    (h : Relation.ReflTransGen (Lives cfg rounds) ⟨.boot cfg file live, process cfg rounds⟩ s) :
    s.world.Accounted := by
  have hlife : ∃ w : World,
      w.Starts cfg ∧ Pool.Reaches (system truthful) ⟨w, process cfg rounds⟩ s := by
    induction h with
    | refl => exact ⟨_, hstart, .refl⟩
    | tail _ hstep ih =>
        obtain ⟨w, hw, hreach⟩ := ih
        cases hstep with
        | step hstep => exact ⟨w, hw, hreach.tail hstep⟩
        | restart _ hlive hids =>
            refine ⟨_, ?_, .refl⟩
            exact (AtRest.inv_reached hpod hkey haction hw hreach).starts hpod hpath
              ((AtRest.path_frame _ _).reaches hreach hw.boots.path) hlive hids
  obtain ⟨w, hw, hreach⟩ := hlife
  exact (AtRest.inv_reached hpod hkey haction hw hreach).accounted

namespace AtRest

/-- A request asks for the pod. -/
def askingRun : Option (Pool adapterInterface TaskId World (Except Exn Unit)) :=
  Pool.play (system truthful) (World.reply? truthful) (release.take 1)
    ⟨.bootRecorded, process .template 1⟩

theorem askingRun_isSome : askingRun.isSome := by decide

lemma lives_of_reaches {cfg : AdapterConfig} {rounds : ℕ}
    {s s' : Pool adapterInterface TaskId World (Except Exn Unit)}
    (h : Pool.Reaches (system truthful) s s') :
    Relation.ReflTransGen (Lives cfg rounds) s s' :=
  Relation.ReflTransGen.mono (fun _ _ => .step) s s' h

end AtRest

/-- Killed while a request asks for the pod, the process finds it on record, and releases it. -/
theorem restarts_keep_record_released : AtRest.releasedState.world.Accounted := by
  have hasking : Pool.Reaches (system truthful) ⟨.bootRecorded, process .template 1⟩
      (AtRest.askingRun.get AtRest.askingRun_isSome) :=
    Pool.play_reaches World.reply?_answer (Option.some_get _).symm
  have hrestart : Lives .template 1 (AtRest.askingRun.get AtRest.askingRun_isSome)
      ⟨.bootRecorded, process .template 1⟩ := by
    refine @Lives.restart .template 1 _ {"old"} (by decide) (by decide) fun p hp => ?_
    rw [Finset.mem_singleton.mp hp]
    decide
  exact @restarts_keep_record .template rfl (by decide) (by decide) (by decide) 1 _ _
    AtRest.bootRecorded_starts _ ((AtRest.lives_of_reaches hasking).trans
      (.head hrestart (AtRest.lives_of_reaches AtRest.releasedState_reached)))

end SpeakrRunpod
