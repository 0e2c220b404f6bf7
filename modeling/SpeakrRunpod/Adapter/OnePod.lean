import SpeakrRunpod.Adapter.ProcessLogic

/-!
# At most one billed pod

While RunPod is honest and no request starts during a release, every pod that runs is the one
that `load_active_pod_id()` names, and a deploy is sent only when none runs.

* `honest` — the assumptions about RunPod and the callers.
* `OnePod.Inv` — the invariant; the counter of the idle controller ties releases to the absence
  of requests, so that the store changes only in the hands of the lock's holder or of a release.
* `one_billed_pod` — the result.
-/

namespace SpeakrRunpod

open Coop

/-- What is assumed of an answer: a not-found is true, a terminate succeeds or reports not found
unless its caller is cancelled, a failed deploy has created nothing; a request arrives only while
no release is being executed. -/
def honestReply : (o : Op) → o.Res → World → Prop
  | .arrive, _, w => w.releasing = ∅
  | .graphql (.pod p), r, w =>
      match podOutcome p r with
      | .ok _ => True
      | .error e => e.isNotFound → p ∉ w.alive
  | .graphql (.podTerminate p), r, w =>
      raisesCancelled r ∨
        match (GraphqlCall.podTerminate p).outcome r with
        | .ok _ => True
        | .error e => e.isNotFound ∧ p ∉ w.alive
  | .graphql (.podFindAndDeployOnDemand input), r, w =>
      match deployOutcome input r with
      | .ok p => w.pending = none ∨ w.pending = some p
      | .error _ => w.pending = none
  | _, _, _ => True

/-- Honest replies, to requests that are not cancelled. -/
def honest : Policy := fun i o r w => honestReply o r w ∧ (o.isCancelled r → i.isIdle)

instance (o : Op) (r : o.Res) (w : World) : Decidable (honestReply o r w) := by
  revert r
  apply @Op.casesOn (fun o => (r : o.Res) → Decidable (honestReply o r w)) o
  case arrive => exact fun _ => inferInstanceAs (Decidable (w.releasing = ∅))
  case graphql =>
    intro call
    apply @GraphqlCall.casesOn
      (fun call => (r : (Op.graphql call).Res) → Decidable (honestReply (.graphql call) r w)) call
    case pod =>
      intro p r
      dsimp only [honestReply]
      exact match podOutcome p r with
        | .ok _ => inferInstance
        | .error _ => inferInstance
    case podTerminate =>
      intro p r
      dsimp only [honestReply]
      exact match (GraphqlCall.podTerminate p).outcome r with
        | .ok _ => inferInstance
        | .error _ => inferInstance
    case podFindAndDeployOnDemand =>
      intro input r
      dsimp only [honestReply]
      exact match deployOutcome input r with
        | .ok _ => inferInstance
        | .error _ => inferInstance
    all_goals
      intros
      exact instDecidableTrue
  all_goals
    intros
    exact instDecidableTrue

instance (i : TaskId) (o : Op) (r : o.Res) (w : World) : Decidable (honest i o r w) :=
  inferInstanceAs (Decidable (_ ∧ _))

namespace OnePod

/-- The invariant. -/
structure Inv (w : World) : Prop where
  template : w.store.configuredPodId = ""
  sound : w.file.Sound
  recorded : ∀ p ∈ w.live, w.load = .ok p ∧ p ≠ ""
  idlePending : w.deploying = false → w.pending = none
  deployHeld : w.deploying → w.lock ≠ none
  owner : ∀ i, w.lock = some i → i ∈ w.inFlight
  count : w.controller.activeRequests = w.inFlight.card
  quiet : w.releasing ≠ ∅ → w.inFlight = ∅
  uncancelled : ∀ n, .idle n ∈ w.releasing → n ∉ w.controller.cancelling
  sentAlone : ∀ alive, .deploySent alive ∈ w.log → alive = ∅

/-- What the holder of the lock may rely on. -/
structure HeldSame (w w' : World) : Prop where
  store : w'.store = w.store
  file : w'.file = w.file
  deploying : w'.deploying = w.deploying
  live : w'.live ⊆ w.live

/-- What a task may rely on while it waits. -/
structure Rely (i : TaskId) (w w' : World) : Prop where
  inFlight : i ∈ w'.inFlight ↔ i ∈ w.inFlight
  releasing : i ∈ w'.releasing ↔ i ∈ w.releasing
  lock : w'.lock = some i ↔ w.lock = some i
  held : w.lock = some i → HeldSame w w'
  shrinks : i ∈ w.releasing → w'.live ⊆ w.live

lemma HeldSame.refl (w : World) : HeldSame w w := ⟨rfl, rfl, rfl, subset_rfl⟩

lemma HeldSame.trans {w₁ w₂ w₃ : World} (h₁ : HeldSame w₁ w₂) (h₂ : HeldSame w₂ w₃) :
    HeldSame w₁ w₃ where
  store := h₂.store.trans h₁.store
  file := h₂.file.trans h₁.file
  deploying := h₂.deploying.trans h₁.deploying
  live := h₂.live.trans h₁.live

lemma Rely.refl (i : TaskId) (w : World) : Rely i w w :=
  ⟨Iff.rfl, Iff.rfl, Iff.rfl, fun _ => .refl w, fun _ => subset_rfl⟩

lemma Rely.trans {i : TaskId} {w₁ w₂ w₃ : World} (h₁ : Rely i w₁ w₂) (h₂ : Rely i w₂ w₃) :
    Rely i w₁ w₃ where
  inFlight := h₂.inFlight.trans h₁.inFlight
  releasing := h₂.releasing.trans h₁.releasing
  lock := h₂.lock.trans h₁.lock
  held h := (h₁.held h).trans (h₂.held (h₁.lock.mpr h))
  shrinks h := (h₂.shrinks (h₁.releasing.mpr h)).trans (h₁.shrinks h)

lemma env_inv {w w' : World} (h : World.Env w w') (hw : Inv w) : Inv w' := by
  cases h with
  | clock => exact { hw with recorded := hw.recorded }
  | gone p =>
      refine { hw with recorded := fun q hq => ?_, idlePending := fun h => ?_ }
      · exact hw.recorded q (Finset.mem_of_mem_erase hq)
      · show w.pending.filter _ = none
        rw [hw.idlePending h]
        rfl
  | creates p h h' =>
      refine { hw with recorded := hw.recorded, idlePending := fun hd => ?_ }
      rw [show w.deploying = false from hd] at h
      cases h

lemma env_rely {w w' : World} (h : World.Env w w') (i : TaskId) : Rely i w w' := by
  cases h with
  | clock => exact ⟨Iff.rfl, Iff.rfl, Iff.rfl, fun _ => ⟨rfl, rfl, rfl, subset_rfl⟩, fun _ => subset_rfl⟩
  | gone p =>
      exact ⟨Iff.rfl, Iff.rfl, Iff.rfl, fun _ => ⟨rfl, rfl, rfl, Finset.erase_subset p w.live⟩,
        fun _ => Finset.erase_subset p w.live⟩
  | creates => exact ⟨Iff.rfl, Iff.rfl, Iff.rfl, fun _ => ⟨rfl, rfl, rfl, subset_rfl⟩, fun _ => subset_rfl⟩

/-- The contract of the process. -/
def contract : Contract (system honest) where
  inv := Inv
  rely := Rely
  rely_refl := Rely.refl
  rely_trans := Rely.trans
  env_inv := env_inv
  env_rely h _ i := env_rely h i

/-- A pod that RunPod reports missing is none of those alive. -/
lemma live_of_missing {p : String} {w : World} (h : ∀ q ∈ w.live, q = p) (hp : p ∉ w.alive) :
    w.live = ∅ := by
  refine Finset.eq_empty_of_forall_notMem fun q hq => hp ?_
  rw [← h q hq]
  exact Finset.mem_union_left _ hq

/-- When the only pod has gone, none is left. -/
lemma live_of_gone {p : String} {w : World} (h : ∀ q ∈ w.live, q = p) : (w.gone p).live = ∅ := by
  refine Finset.eq_empty_of_forall_notMem fun q hq => ?_
  obtain ⟨hne, hq⟩ := Finset.mem_erase.mp hq
  exact hne (h q hq)

/-! ## Requests -/

section Request

variable {n : ℕ}

/-- A change by the lock's holder to anything but what the other tasks watch. -/
lemma guar_of_holder {w w' : World} (hlock : w.lock = some (.request n)) (hrel : w.releasing = ∅)
    (h₁ : w'.lock = w.lock) (h₂ : w'.inFlight = w.inFlight) (h₃ : w'.releasing = w.releasing) :
    contract.guar (.request n) w w' := by
  intro j hj
  have hnot : w.lock ≠ some j := by
    rw [hlock]
    exact fun h => hj (Option.some.inj h).symm
  refine ⟨by rw [h₂], by rw [h₃], by rw [h₁], fun h => absurd h hnot, fun h => ?_⟩
  simp [hrel] at h

/-- The request holds the lock and no deploy is under way. -/
structure Holds (n : ℕ) (w : World) : Prop where
  inv : Inv w
  lock : w.lock = some (.request n)
  notDeploying : w.deploying = false

namespace Holds

variable {w w' : World}

lemma inFlight (h : Holds n w) : .request n ∈ w.inFlight := h.inv.owner _ h.lock

lemma releasing (h : Holds n w) : w.releasing = ∅ := by
  by_contra hne
  have := h.inFlight
  simp [h.inv.quiet hne] at this

lemma rely (h : Holds n w) (hr : Rely (.request n) w w') (hinv : Inv w') : Holds n w' where
  inv := hinv
  lock := hr.lock.mpr h.lock
  notDeploying := (hr.held h.lock).deploying.trans h.notDeploying

lemma guar (h : Holds n w) (h₁ : w'.lock = w.lock) (h₂ : w'.inFlight = w.inFlight)
    (h₃ : w'.releasing = w.releasing) : contract.guar (.request n) w w' :=
  guar_of_holder h.lock h.releasing h₁ h₂ h₃

/-- While nothing is alive the holder may clear. -/
lemma clear (h : Holds n w) (hlive : w.live = ∅) (p : String) : Holds n (w.clear p) where
  inv := { h.inv with
    template := by simpa [World.clear] using h.inv.template
    sound := h.inv.sound.clear _
    recorded := fun q hq => by simp [World.clear, hlive] at hq }
  lock := h.lock
  notDeploying := h.notDeploying

end Holds

/-- The holder uses the pod `p`: no other is alive. -/
def Only (n : ℕ) (p : String) (w : World) : Prop := Holds n w ∧ ∀ q ∈ w.live, q = p

lemma holds_stays : contract.Stays (.request n) (Holds n) :=
  ⟨fun h => h.inv, fun h hr hinv => h.rely hr hinv⟩

lemma only_stays (p : String) : contract.Stays (.request n) (Only n p) :=
  ⟨fun h => h.1.inv, fun h hr hinv =>
    ⟨h.1.rely hr hinv, fun q hq => h.2 q ((hr.held h.1.lock).live hq)⟩⟩

/-- A pod that is the only one and is gone can be cleared and replaced. -/
lemma droppable {p : String} {w : World} (h : Holds n w) (hlive : w.live = ∅) :
    Droppable contract (.request n) (Holds n) (Holds n) p w where
  before := h
  clears := h.guar rfl rfl rfl
  leave := h.clear hlive p
  notes := (h.clear hlive p).guar rfl rfl rfl
  seek := by
    have hc := h.clear hlive p
    exact ⟨{ hc.inv with sentAlone := by simpa [World.noted] using hc.inv.sentAlone }, hc.lock,
      hc.notDeploying⟩

lemma sends {w : World} (h : Holds n w) (hload : w.load = .ok "") :
    w.live = ∅ ∧ Inv w.deploySent := by
  have hlive : w.live = ∅ := by
    refine Finset.eq_empty_of_forall_notMem fun p hp => ?_
    obtain ⟨hp₁, hp₂⟩ := h.inv.recorded p hp
    rw [hload] at hp₁
    exact hp₂ (Except.ok.inj hp₁).symm
  refine ⟨hlive, { h.inv with
    recorded := h.inv.recorded
    idlePending := fun hd => by cases hd
    deployHeld := fun _ => by rw [show w.deploySent.lock = w.lock from rfl, h.lock]; simp
    sentAlone := fun alive ha => ?_ }⟩
  rcases List.mem_cons.mp ha with ha | ha
  · cases ha
    rw [World.alive, hlive, h.inv.idlePending h.notDeploying]
    rfl
  · exact h.inv.sentAlone alive ha

/-- The reply to the deploy, and the recording of the new id. -/
lemma deployed {input : DeployInput} {w w₁ : World} {r : Except Exn HttpAnswer} (h : Holds n w)
    (hload : w.load = .ok "") (hrely : Rely (.request n) w.deploySent w₁) (hinv : Inv w₁)
    (hp : honest (.request n) (.graphql (.podFindAndDeployOnDemand input)) r w₁) :
    let w₂ := w₁.graphqlAnswered (.podFindAndDeployOnDemand input) r
    contract.guar (.request n) w₁ w₂ ∧
      match deployOutcome input r with
      | .error _ => Holds n w₂
      | .ok q => contract.guar (.request n) w₂ (w₂.openState q) ∧
          contract.guar (.request n) (w₂.openState q) ((w₂.openState q).writeState q) ∧
          Only n q ((w₂.openState q).writeState q) := by
  have hlock : w₁.lock = some (.request n) := hrely.lock.mpr h.lock
  have hlive : w₁.live = ∅ :=
    Finset.subset_empty.mp ((sends h hload).1 ▸ (hrely.held h.lock).live)
  have hrel : w₁.releasing = ∅ := by
    by_contra hne
    have := hinv.owner _ hlock
    simp [hinv.quiet hne] at this
  have hreply := hp.1
  simp only [honestReply] at hreply
  cases hr : deployOutcome input r with
  | error e =>
      simp only [hr] at hreply
      rw [w₁.graphqlAnswered_deploy_error hr]
      refine ⟨guar_of_holder hlock hrel rfl rfl rfl, ?_, hlock, rfl⟩
      exact { hinv with
        recorded := by simp [World.deployAnswered, World.alive, hlive, hreply]
        idlePending := fun _ => rfl
        deployHeld := fun hd => by cases hd }
  | ok q =>
      simp only [hr] at hreply
      rw [w₁.graphqlAnswered_deploy_ok hr]
      have hq : q ≠ "" := deployOutcome_ne_empty hr
      have honly : ∀ x ∈ w₁.deployAnswered.live, x = q := by
        intro x hx
        rcases hreply with hpend | hpend
        · simp [World.deployAnswered, World.alive, hlive, hpend] at hx
        · simpa [World.deployAnswered, World.alive, hlive, hpend] using hx
      refine ⟨guar_of_holder hlock hrel rfl rfl rfl, guar_of_holder hlock hrel rfl rfl rfl,
        guar_of_holder hlock hrel rfl rfl rfl, ⟨?_, hlock, rfl⟩, honly⟩
      exact { hinv with
        template := by
          simpa [World.openState, World.writeState, World.deployed, World.deployAnswered]
            using hinv.template
        sound := (hinv.sound.openState q).writeState q
        recorded := fun x hx => by
          rw [honly x hx]
          exact ⟨ActivePodStore.store_load hinv.template hq _, hq⟩
        idlePending := fun _ => rfl
        deployHeld := fun hd => by cases hd
        sentAlone := fun alive ha => by
          have ha : Event.deploySent alive ∈ Event.deployed q :: w₁.log := ha
          exact hinv.sentAlone alive (by simpa using ha) }

lemma reportedMissing {p : String} {w : World} (h : Holds n w) :
    Holds n (w.reportedMissing p) :=
  ⟨{ h.inv with recorded := h.inv.recorded }, h.lock, h.notDeploying⟩

/-- A terminate that ended well has left nothing alive. -/
lemma terminated {p : String} {w : World} {r : Except Exn HttpAnswer} (h : Only n p w)
    (hp : honest (.request n) (.graphql (.podTerminate p)) r w) :
    let x := (GraphqlCall.podTerminate p).outcome r
    let w₂ := w.terminateAnswered p x
    contract.guar (.request n) w w₂ ∧
      match x with
      | .ok _ => Droppable contract (.request n) (Holds n) (Holds n) p w₂
      | .error e =>
          if e.isNotFound then Droppable contract (.request n) (Holds n) (Holds n) p w₂
          else contract.guar (.request n) w₂ (w₂.clear p) ∧ Holds n (w₂.clear p) := by
  have hreply := hp.1.resolve_left fun hc => by cases hp.2 hc
  cases hx : (GraphqlCall.podTerminate p).outcome r with
  | ok _ =>
      have hlive := live_of_gone h.2
      exact ⟨h.1.guar rfl rfl rfl,
        droppable ⟨env_inv (.gone w p) h.1.inv, h.1.lock, h.1.notDeploying⟩ hlive⟩
  | error e =>
      simp only [hx] at hreply
      have hlive := live_of_missing h.2 hreply.2
      simp only [World.terminateAnswered, if_pos hreply.1]
      exact ⟨h.1.guar rfl rfl rfl, droppable (reportedMissing h.1) hlive⟩

/-- The view of a request that holds the lock. -/
def managerView (cfg : AdapterConfig) (n : ℕ) : ManagerView cfg contract n where
  seek _ := Holds n
  fresh _ q := Only n q
  held p := Only n p
  leave := Holds n
  seek_stays _ := holds_stays
  fresh_stays _ := only_stays
  held_stays := only_stays
  leave_stays := holds_stays
  seek_leave := id
  held_leave h := h.1
  fresh_seek h := h.1
  adopt := id
  found {d w q} h hload hq := ⟨h, fun p hp => by
    have := (h.inv.recorded p hp).1
    rw [hload] at this
    exact (Except.ok.inj this).symm⟩
  sends h hload := ⟨h.guar rfl rfl rfl, (sends h hload).2⟩
  deployed h hload hrely hinv hp := deployed h hload hrely hinv hp
  replaces h := ⟨h.1.guar rfl rfl rfl,
    ⟨{ h.1.inv with sentAlone := by simpa [World.noted] using h.1.inv.sentAlone }, h.1.lock,
      h.1.notDeploying⟩, h.2⟩
  missing h hp hr he :=
    have hlive := live_of_missing h.2 (by simpa [honestReply, hr, he] using hp.1)
    ⟨h.1.guar rfl rfl rfl, droppable (reportedMissing h.1) hlive⟩
  terminated h hp := terminated h hp
  serves h := ⟨h.1.guar rfl rfl rfl, { h.1.inv with recorded := h.1.inv.recorded }, h.1.lock,
    h.1.notDeploying⟩

end Request

/-! ## Releases -/

section Release

variable {n : ℕ}

/-- The timer task executes a release. -/
def Watch (n : ℕ) (w : World) : Prop := Inv w ∧ .idle n ∈ w.releasing

/-- It is about to release `p`, and no other pod is alive. -/
def Target (n : ℕ) (p : String) (w : World) : Prop := Watch n w ∧ ∀ q ∈ w.live, q = p

lemma Watch.inFlight {w : World} (h : Watch n w) : w.inFlight = ∅ :=
  h.1.quiet (Finset.ne_empty_of_mem h.2)

lemma Watch.lock {w : World} (h : Watch n w) : w.lock = none := by
  cases hl : w.lock with
  | none => rfl
  | some j =>
      have := h.1.owner j hl
      simp [h.inFlight] at this

/-- During a release no other task holds the lock, so the store is the release's to change. -/
lemma Watch.guar {w w' : World} (h : Watch n w) (h₁ : w'.lock = w.lock)
    (h₂ : w'.inFlight = w.inFlight) (h₃ : w'.releasing = w.releasing) (h₄ : w'.live ⊆ w.live) :
    contract.guar (.idle n) w w' := by
  intro j _
  refine ⟨by rw [h₂], by rw [h₃], by rw [h₁], fun hl => ?_, fun _ => h₄⟩
  rw [h.lock] at hl
  cases hl

lemma watch_stays : contract.Stays (.idle n) (Watch n) :=
  ⟨fun h => h.1, fun h hr hinv => ⟨hinv, hr.releasing.mpr h.2⟩⟩

lemma target_stays (p : String) : contract.Stays (.idle n) (Target n p) :=
  ⟨fun h => h.1.1, fun h hr hinv => ⟨⟨hinv, hr.releasing.mpr h.1.2⟩, fun q hq =>
    h.2 q (hr.shrinks h.1.2 hq)⟩⟩

lemma delivered_inv {w : World} (h : Inv w) (m : ℕ) : Inv (w.delivered (.idle m)) :=
  { h with
    recorded := h.recorded
    uncancelled := fun k hk hc => h.uncancelled k hk (Finset.mem_of_mem_erase hc) }

/-- With nothing alive the release may clear. -/
lemma Watch.clear {w : World} (h : Watch n w) (hlive : w.live = ∅) (p : String) :
    Watch n (w.clear p) :=
  ⟨{ h.1 with
      template := by simpa [World.clear] using h.1.template
      sound := h.1.sound.clear _
      recorded := fun q hq => by simp [World.clear, hlive] at hq }, h.2⟩

lemma release_terminated {p : String} {w : World} {r : Except Exn HttpAnswer} (h : Target n p w)
    (hp : honest (.idle n) (.graphql (.podTerminate p)) r w) (hr : raisesCancelled r = false) :
    let w₂ := w.graphqlAnswered (.podTerminate p) r
    contract.guar (.idle n) w w₂ ∧ contract.guar (.idle n) w₂ (w₂.clear p) ∧
      Watch n (w₂.clear p) := by
  have hreply := hp.1.resolve_left (by simp [hr])
  simp only [World.graphqlAnswered]
  cases hx : (GraphqlCall.podTerminate p).outcome r with
  | ok _ =>
      have hlive := live_of_gone h.2
      have hw : Watch n (w.gone p) := ⟨env_inv (.gone w p) h.1.1, h.1.2⟩
      exact ⟨h.1.guar rfl rfl rfl (Finset.erase_subset _ _), hw.guar rfl rfl rfl subset_rfl,
        hw.clear hlive p⟩
  | error e =>
      simp only [hx] at hreply
      have hlive := live_of_missing h.2 hreply.2
      have hw : Watch n (w.reportedMissing p) :=
        ⟨{ h.1.1 with recorded := h.1.1.recorded }, h.1.2⟩
      simp only [World.terminateAnswered, if_pos hreply.1]
      exact ⟨h.1.guar rfl rfl rfl subset_rfl, hw.guar rfl rfl rfl subset_rfl, hw.clear hlive p⟩

/-- The view of a release. -/
def releaseView (n : ℕ) : ReleaseView contract n where
  enter := Watch n
  watch := Watch n
  target p := Target n p
  watch_stays := watch_stays
  target_stays := target_stays
  enter_watch := id
  target_watch h := h.1
  found {p w} h hload _ := ⟨h, fun q hq => by
    have := (h.1.recorded q hq).1
    rw [hload] at this
    exact (Except.ok.inj this).symm⟩
  delivered h := ⟨h.1.guar rfl rfl rfl subset_rfl, ⟨delivered_inv h.1.1 n, h.1.2⟩, h.2⟩
  polled {p w r} h _ := by
    rcases w.graphqlAnswered_pod p r with he | he <;> rw [he]
    · exact ⟨contract.guar_refl _ w, h⟩
    · exact ⟨h.1.guar rfl rfl rfl subset_rfl,
        ⟨{ h.1.1 with recorded := h.1.1.recorded }, h.1.2⟩, h.2⟩
  terminated h hp hr := release_terminated h hp hr
  interrupted h _ _ hn := absurd hn (h.1.1.uncancelled _ h.1.2)

end Release

/-! ## The process -/

/-- The view of the process. -/
def processView (cfg : AdapterConfig) : ProcessView cfg contract where
  manager n := managerView cfg n
  release n := releaseView n
  outside n w := Inv w ∧ .request n ∉ w.inFlight
  flying n w := Inv w ∧ .request n ∈ w.inFlight ∧ w.lock ≠ some (.request n)
  calm n w := Inv w ∧ .idle n ∉ w.releasing
  outside_stays n := ⟨fun h => h.1, fun h hr hinv => ⟨hinv, fun hm => h.2 (hr.inFlight.mp hm)⟩⟩
  flying_stays n := ⟨fun h => h.1, fun h hr hinv =>
    ⟨hinv, hr.inFlight.mpr h.2.1, fun hl => h.2.2 (hr.lock.mp hl)⟩⟩
  calm_stays n := ⟨fun h => h.1, fun h hr hinv => ⟨hinv, fun hm => h.2 (hr.releasing.mp hm)⟩⟩
  starts {n w} h hp := by
    refine ⟨fun j hj => ⟨?_, Iff.rfl, Iff.rfl, fun _ => ⟨rfl, rfl, rfl, subset_rfl⟩,
      fun _ => subset_rfl⟩, ?_, Finset.mem_insert_self _ _, fun hl => h.2 (h.1.owner _ hl)⟩
    · simp [World.requestStarted, hj]
    · exact { h.1 with
        recorded := h.1.recorded
        owner := fun i hi => Finset.mem_insert_of_mem (h.1.owner i hi)
        count := by simp [World.requestStarted, h.1.count, Finset.card_insert_of_notMem h.2]
        quiet := fun hne => absurd hp.1 hne
        uncancelled := fun m hm => by simp [World.requestStarted, show w.releasing = ∅ from hp.1] at hm }
  acquires {n w} h hl := by
    have hrel : w.releasing = ∅ := by
      by_contra hne
      simp [h.1.quiet hne] at h
    refine ⟨fun j hj => ⟨Iff.rfl, Iff.rfl, ?_, fun hj' => ?_, fun _ => subset_rfl⟩, ?_, rfl, ?_⟩
    · simp [hl, Ne.symm hj]
    · simp [hl] at hj'
    · exact { h.1 with
        recorded := h.1.recorded
        deployHeld := fun _ => by simp
        owner := fun i hi => by
          cases hi
          exact h.2.1 }
    · by_contra hd
      exact h.1.deployHeld (by simpa using hd) hl
  releases {n w} h := by
    refine ⟨fun j hj => ⟨Iff.rfl, Iff.rfl, ?_, fun hj' => ?_, fun _ => subset_rfl⟩, ?_,
      h.inFlight, by simp⟩
    · simp [h.lock, Ne.symm hj]
    · rw [h.lock] at hj'
      exact absurd (Option.some.inj hj').symm hj
    · exact { h.inv with
        recorded := h.inv.recorded
        deployHeld := fun hd => by simp [h.notDeploying] at hd
        owner := fun i hi => by cases hi }
  finishes {n w} h := by
    have hrel : w.releasing = ∅ := by
      by_contra hne
      simp [h.1.quiet hne] at h
    refine ⟨fun j hj => ⟨?_, Iff.rfl, Iff.rfl, fun _ => ⟨rfl, rfl, rfl, subset_rfl⟩,
      fun _ => subset_rfl⟩, ?_⟩
    · simp [World.requestFinished, hj]
    · exact { h.1 with
        recorded := h.1.recorded
        owner := fun i hi => Finset.mem_erase.mpr
          ⟨fun he => h.2.2 (he ▸ hi), h.1.owner i hi⟩
        count := by
          have hcard := Finset.card_erase_add_one h.2.1
          simp only [World.requestFinished, Controller.requestFinished_activeRequests, h.1.count]
          omega
        quiet := fun hne => absurd hrel hne
        uncancelled := fun m hm => by simp [World.requestFinished, hrel] at hm }
  delivered {n w} h :=
    ⟨fun j _ => ⟨Iff.rfl, Iff.rfl, Iff.rfl, fun _ => ⟨rfl, rfl, rfl, subset_rfl⟩,
      fun _ => subset_rfl⟩, delivered_inv h.1 n, h.2⟩
  enters {n w} h hn ha := by
    have hempty : w.inFlight = ∅ := by
      have := h.1.count
      rw [ha] at this
      exact Finset.card_eq_zero.mp (by omega)
    refine ⟨fun j hj => ⟨Iff.rfl, ?_, Iff.rfl, fun _ => ⟨rfl, rfl, rfl, subset_rfl⟩,
      fun _ => subset_rfl⟩, ?_, Finset.mem_insert_self _ _⟩
    · simp [World.noted, hj]
    · exact { h.1 with
        recorded := h.1.recorded
        quiet := fun _ => hempty
        uncancelled := fun m hm => by
          rcases Finset.mem_insert.mp hm with hm | hm
          · cases hm
            exact hn
          · exact h.1.uncancelled m hm }
  leaves {n w} h := by
    refine ⟨fun j hj => ⟨Iff.rfl, ?_, Iff.rfl, fun _ => ⟨rfl, rfl, rfl, subset_rfl⟩,
      fun _ => subset_rfl⟩, ?_, Finset.notMem_erase _ _⟩
    · simp [World.noted, hj]
    · exact { h.1 with
        recorded := h.1.recorded
        quiet := fun _ => h.inFlight
        uncancelled := fun m hm => h.1.uncancelled m (Finset.mem_of_mem_erase hm) }
  exits {n w} h :=
    ⟨fun j _ => ⟨Iff.rfl, Iff.rfl, Iff.rfl, fun _ => ⟨rfl, rfl, rfl, subset_rfl⟩,
      fun _ => subset_rfl⟩, { h.1 with
        recorded := h.1.recorded
        uncancelled := fun m hm hc => h.1.uncancelled m hm (Finset.mem_of_mem_erase hc) }⟩

lemma inv_boots {cfg : AdapterConfig} {w : World} (hpod : cfg.runpodPodId = "")
    (hboot : w.Boots cfg) (hfile : w.file.Sound) (hlive : ∀ p ∈ w.live, w.load = .ok p ∧ p ≠ "") :
    Inv w where
  template := hboot.configured.trans hpod
  sound := hfile
  recorded := hlive
  idlePending _ := hboot.pending
  deployHeld hd := by simp [hboot.deploying] at hd
  owner i hi := by simp [hboot.lock] at hi
  count := by simp [hboot.controller, hboot.inFlight, Controller.new]
  quiet hne := absurd hboot.releasing hne
  uncancelled m hm := by simp [hboot.releasing] at hm
  sentAlone alive ha := by simp [hboot.log] at ha

end OnePod

/-- **At most one billed pod.**  In every state the process reaches without `RUNPOD_POD_ID`, every
pod that runs is the one `load_active_pod_id()` names, a pod whose deploy has not been answered
belongs to a deploy under way, and no deploy was sent while a pod was alive. -/
theorem one_billed_pod {cfg : AdapterConfig} (hpod : cfg.runpodPodId = "") (rounds : ℕ) {w : World}
    (hboot : w.Boots cfg) (hfile : w.file.Sound) (hlive : ∀ p ∈ w.live, w.load = .ok p ∧ p ≠ "")
    {s : Pool adapterInterface TaskId World (Except Exn Unit)}
    (h : Pool.Reaches (system honest) ⟨w, process cfg rounds⟩ s) :
    (∀ p ∈ s.world.live, s.world.load = .ok p) ∧
      (s.world.pending ≠ none → s.world.deploying) ∧
      ∀ alive, .deploySent alive ∈ s.world.log → alive = ∅ := by
  have hw := OnePod.inv_boots hpod hboot hfile hlive
  have hs : OnePod.Inv s.world := (OnePod.processView cfg).sound hw
    (fun n => ⟨hw, by simp [hboot.inFlight]⟩) (fun n => ⟨hw, by simp [hboot.releasing]⟩) h
  refine ⟨fun p hp => (hs.recorded p hp).1, fun hne => ?_, hs.sentAlone⟩
  by_contra hd
  exact hne (hs.idlePending (by simpa using hd))

namespace OnePod

/-- The recorded pod `old` is found inactive, is terminated, and a deploy is sent. -/
def replacement : List (TaskId × Prog.Exchange adapterInterface) :=
  [(.request 0, ⟨.arrive, ()⟩),
    (.request 0, ⟨.graphql (.pod "old"),
      jsonAnswer (.obj [("data", .obj [("pod", .obj [("id", .str "old")])])])⟩),
    (.request 0, ⟨.graphql (.podTerminate "old"),
      jsonAnswer (.obj [("data", .obj [("podTerminate", .null)])])⟩),
    (.request 0, ⟨.acquireDeployLock, Except.ok ()⟩)]

def replacementRun : Option (Pool adapterInterface TaskId World (Except Exn Unit)) :=
  Pool.play (system honest) (World.reply? honest) replacement
    ⟨.bootRecorded, process .template 1⟩

theorem replacementRun_isSome : replacementRun.isSome := by decide +kernel

/-- The last state of that run: the deploy has been sent. -/
def deploySentState : Pool adapterInterface TaskId World (Except Exn Unit) :=
  replacementRun.get replacementRun_isSome

end OnePod

theorem one_billed_pod_replacement :
    OnePod.deploySentState.world.log = [.deploySent ∅, .dropped "old"] ∧
      ∀ alive, .deploySent alive ∈ OnePod.deploySentState.world.log → alive = ∅ := by
  have hrun : OnePod.replacementRun = some OnePod.deploySentState :=
    (Option.some_get OnePod.replacementRun_isSome).symm
  have hrecorded : ∀ p ∈ ({"old"} : Finset String),
      World.bootRecorded.load = .ok p ∧ p ≠ "" := by
    intro p hp
    rw [Finset.mem_singleton.mp hp]
    decide
  exact ⟨by decide +kernel, (@one_billed_pod .template rfl 1 _ (World.boots_boot _ _ _)
    ⟨rfl, rfl, by simp [World.boot]⟩ hrecorded _
    (Pool.play_reaches World.reply?_answer hrun)).2.2⟩

end SpeakrRunpod
