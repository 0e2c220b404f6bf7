import SpeakrRunpod.Adapter.ProcessLogic

/-!
# A request that interrupts a release

A release takes no lock, and `request_started` cancels it wherever it waits.  When the
`CancelledError` reaches it inside `_terminate`, the `finally` clause clears the store although the
pod may still run, and the request that interrupted it may have read the id before.

* `succeeding` — every mutation succeeds unless its caller is cancelled.
* `interrupted_release_forgets` — a run in which a running pod whose address was returned is no
  longer recorded.
* `Harmless`, `served_pod_recorded` — when the interruption does no damage, and that every run in
  which all interruptions are of this kind keeps the served pods on record.
-/

namespace SpeakrRunpod

open Coop

/-! ## The assumptions -/

/-- A terminate succeeds, or reports a pod that is gone, or its caller is cancelled; requests are
not cancelled. -/
def succeeding : Policy := fun i o r w =>
  (o.isCancelled r → i.isIdle) ∧
    match o, r with
    | .graphql (.podTerminate p), r =>
        raisesCancelled r ∨
          match (GraphqlCall.podTerminate p).outcome r with
          | .ok _ => True
          | .error e => e.isNotFound ∧ p ∉ w.live
    | _, _ => True

instance (i : TaskId) (o : Op) (r : o.Res) (w : World) : Decidable (succeeding i o r w) := by
  revert r
  apply @Op.casesOn (fun o => (r : o.Res) → Decidable (succeeding i o r w)) o
  case graphql =>
    intro call
    apply @GraphqlCall.casesOn
      (fun call => (r : (Op.graphql call).Res) → Decidable (succeeding i (.graphql call) r w)) call
    case podTerminate =>
      intro p r
      dsimp only [succeeding]
      exact match (GraphqlCall.podTerminate p).outcome r with
        | .ok _ => inferInstance
        | .error _ => inferInstance
    all_goals
      intros
      exact inferInstanceAs (Decidable (_ ∧ True))
  all_goals
    intros
    exact inferInstanceAs (Decidable (_ ∧ True))

/-- Clearing `p` does no damage: the memory holds another id, or the pod on record does not run. -/
def Harmless (p : String) (w : World) : Prop :=
  (w.store.activePodId ≠ "" ∧ w.store.activePodId ≠ p) ∨
    match w.load with
    | .ok q => q ∉ w.live
    | .error _ => True

instance (p : String) (w : World) : Decidable (Harmless p w) := by
  dsimp only [Harmless]
  exact match w.load with
    | .ok _ => inferInstance
    | .error _ => inferInstance

/-- The same, where a release is cancelled inside `_terminate` only when that does no damage. -/
def succeedingHarmlessly : Policy := fun i o r w =>
  succeeding i o r w ∧
    match o, r with
    | .graphql (.podTerminate p), r => raisesCancelled r → Harmless p w
    | _, _ => True

instance (i : TaskId) (o : Op) (r : o.Res) (w : World) :
    Decidable (succeedingHarmlessly i o r w) := by
  revert r
  apply @Op.casesOn (fun o => (r : o.Res) → Decidable (succeedingHarmlessly i o r w)) o
  case graphql =>
    intro call
    apply @GraphqlCall.casesOn
      (fun call => (r : (Op.graphql call).Res) →
        Decidable (succeedingHarmlessly i (.graphql call) r w)) call
    case podTerminate =>
      exact fun p r => inferInstanceAs (Decidable (_ ∧ (raisesCancelled r → Harmless p w)))
    all_goals
      intros
      exact inferInstanceAs (Decidable (_ ∧ True))
  all_goals
    intros
    exact inferInstanceAs (Decidable (_ ∧ True))

namespace Interruption

/-! ## The invariant -/

structure Inv (w : World) : Prop where
  template : w.store.configuredPodId = ""
  recorded : ∀ p ∈ w.served, w.load = .ok p ∧ p ≠ ""
  running : w.served ⊆ w.live

/-- Clearing `p` when it is gone leaves every other id on record. -/
def Settled (p : String) (w : World) : Prop :=
  w.store.activePodId = "" → w.file.unlinkFault = false → ∀ q, w.load = .ok q → q = p ∨ q = ""

/-- What the holder of the lock may rely on. -/
structure HeldSame (w w' : World) : Prop where
  served : w'.served ⊆ w.served
  live : w'.live ⊆ w.live
  load : ∀ p, p ≠ "" → p ∈ w'.live → w.load = .ok p → w'.load = .ok p

/-- What a task may rely on while it waits. -/
structure Rely (i : TaskId) (w w' : World) : Prop where
  lock : w'.lock = some i ↔ w.lock = some i
  held : w.lock = some i → HeldSame w w'
  settled : ∀ p, Settled p w → Settled p w'

lemma HeldSame.refl (w : World) : HeldSame w w := ⟨subset_rfl, subset_rfl, fun _ _ _ h => h⟩

lemma HeldSame.trans {w₁ w₂ w₃ : World} (h₁ : HeldSame w₁ w₂) (h₂ : HeldSame w₂ w₃) :
    HeldSame w₁ w₃ where
  served := h₂.served.trans h₁.served
  live := h₂.live.trans h₁.live
  load p hp hlive hload := h₂.load p hp hlive (h₁.load p hp (h₂.live hlive) hload)

lemma Rely.trans {i : TaskId} {w₁ w₂ w₃ : World} (h₁ : Rely i w₁ w₂) (h₂ : Rely i w₂ w₃) :
    Rely i w₁ w₃ where
  lock := h₂.lock.trans h₁.lock
  held h := (h₁.held h).trans (h₂.held (h₁.lock.mpr h))
  settled p h := h₂.settled p (h₁.settled p h)

/-- A change that leaves the store and the lock alone and puts no pod into service. -/
structure Quiet (w w' : World) : Prop where
  store : w'.store = w.store
  file : w'.file = w.file
  lock : w'.lock = w.lock
  served : w'.served ⊆ w.served
  live : w'.live ⊆ w.live

lemma Quiet.load {w w' : World} (h : Quiet w w') : w'.load = w.load := by
  rw [World.load, World.load, h.store, h.file]

lemma Quiet.rely {w w' : World} (h : Quiet w w') (i : TaskId) : Rely i w w' := by
  refine ⟨by rw [h.lock], fun _ => ⟨h.served, h.live, fun p _ _ hp => by rwa [h.load]⟩,
    fun p hp => ?_⟩
  rw [Settled, h.load, h.store, h.file]
  exact hp

section Quiet

variable (w : World) (i : TaskId) (p : String)

lemma quiet_refl : Quiet w w := ⟨rfl, rfl, rfl, subset_rfl, subset_rfl⟩

lemma quiet_gone : Quiet w (w.gone p) :=
  ⟨rfl, rfl, rfl, Finset.erase_subset p w.served, Finset.erase_subset p w.live⟩

lemma quiet_reportedMissing : Quiet w (w.reportedMissing p) :=
  ⟨rfl, rfl, rfl, Finset.erase_subset p w.served, subset_rfl⟩

lemma quiet_requestStarted : Quiet w (w.requestStarted i) :=
  ⟨rfl, rfl, rfl, subset_rfl, subset_rfl⟩

lemma quiet_requestFinished : Quiet w (w.requestFinished i) :=
  ⟨rfl, rfl, rfl, subset_rfl, subset_rfl⟩

lemma quiet_delivered (n : ℕ) : Quiet w (w.delivered (.idle n)) :=
  ⟨rfl, rfl, rfl, subset_rfl, subset_rfl⟩

lemma quiet_exit (n : ℕ) : Quiet w (w.exit (.idle n)) := ⟨rfl, rfl, rfl, subset_rfl, subset_rfl⟩

lemma quiet_releaseEntered : Quiet w (w.noted i .releaseEntered) :=
  ⟨rfl, rfl, rfl, subset_rfl, subset_rfl⟩

lemma quiet_releaseLeft : Quiet w (w.noted i .releaseLeft) :=
  ⟨rfl, rfl, rfl, subset_rfl, subset_rfl⟩

end Quiet

/-- The invariant only looks at the store and the served pods. -/
lemma Inv.same {w w' : World} (h : Inv w) (hstore : w'.store = w.store)
    (hfile : w'.file = w.file) (hserved : w'.served ⊆ w.served)
    (hlive : w'.served ⊆ w'.live) : Inv w' where
  template := hstore ▸ h.template
  recorded p hp := by
    rw [World.load, hstore, hfile]
    exact h.recorded p (hserved hp)
  running := hlive

lemma Inv.gone {w : World} (h : Inv w) (p : String) : Inv (w.gone p) :=
  h.same rfl rfl (Finset.erase_subset p w.served) (Finset.erase_subset_erase p h.running)

lemma env_inv {w w' : World} (h : World.Env w w') (hw : Inv w) : Inv w' := by
  cases h with
  | clock => exact hw.same rfl rfl subset_rfl hw.running
  | gone p => exact hw.gone p
  | creates => exact hw.same rfl rfl subset_rfl hw.running

lemma env_rely {w w' : World} (h : World.Env w w') (i : TaskId) : Rely i w w' := by
  have hq : Quiet w w' := by
    cases h with
    | clock => exact ⟨rfl, rfl, rfl, subset_rfl, subset_rfl⟩
    | gone p => exact quiet_gone w p
    | creates => exact ⟨rfl, rfl, rfl, subset_rfl, subset_rfl⟩
  exact hq.rely i

/-- The contract of the process. -/
def contract : Contract (system succeedingHarmlessly) where
  inv := Inv
  rely := Rely
  rely_refl i w := (quiet_refl w).rely i
  rely_trans := Rely.trans
  env_inv := env_inv
  env_rely h _ i := env_rely h i

/-- A quiet step that leaves the pods alone keeps the invariant. -/
lemma Quiet.inv {w w' : World} (hq : Quiet w w') (h : Inv w) (hlive : w.live ⊆ w'.live) :
    Inv w' :=
  h.same hq.store hq.file hq.served (hq.served.trans (h.running.trans hlive))

lemma Quiet.guar {w w' : World} (h : Quiet w w') (i : TaskId) : contract.guar i w w' :=
  fun j _ => h.rely j

lemma inv_stays (i : TaskId) : contract.Stays i Inv := ⟨id, fun _ _ hinv => hinv⟩

/-! ## What clearing does -/

/-- The world after `clear(q)`, through the store's own case distinction. -/
lemma clear_cases (w : World) (q : String) :
    w.clear q = w ∨ w.clear q =
      { w with store := (w.store.cleared w.file).1, file := (w.store.cleared w.file).2 } := by
  rcases w.store.clear_cases w.file (some q) with h | h
  · exact .inl (by rw [World.clear, h])
  · exact .inr (by rw [World.clear, h])

lemma settled_of_memory {w : World} (h : w.store.activePodId ≠ "") (p : String) : Settled p w :=
  fun hm => absurd hm h

/-- A `clear` that takes effect leaves nothing on record, unless the file cannot be removed. -/
lemma settled_clear {w : World} {p : String} (h : Settled p w) (q : String) :
    Settled p (w.clear q) := by
  rcases clear_cases w q with he | he <;> rw [he]
  · exact h
  · intro _ hf x hx
    have hload : World.load { w with
        store := (w.store.cleared w.file).1, file := (w.store.cleared w.file).2 } = .ok "" :=
      ActivePodStore.cleared_load (by simpa using hf)
    rw [hload] at hx
    exact .inr (Except.ok.inj hx).symm

/-- Clearing the id of a pod that is gone leaves every other id on record. -/
lemma load_clear {w : World} {p q : String} (hp : p ≠ "") (h : Settled p w)
    (hload : w.load = .ok q) (hqp : q ≠ p) (hq : q ≠ "") : (w.clear p).load = .ok q := by
  by_cases hmem : w.store.activePodId = ""
  · cases hf : w.file.unlinkFault with
    | false => exact absurd (h hmem hf q hload) (by simp [hqp, hq])
    | true =>
        rcases clear_cases w p with he | he <;> rw [he]
        · exact hload
        · exact (ActivePodStore.cleared_load_of_fault hf hmem).trans hload
  · have hq' : w.store.activePodId = q := by
      rw [World.load, ActivePodStore.load_memory hmem] at hload
      exact Except.ok.inj hload
    rw [World.clear, ActivePodStore.clear_of_other hmem hp (by rw [hq']; exact hqp.symm)]
    exact hload

/-! ## Requests -/

section Request

variable {n : ℕ}

/-- A change by the lock's holder that keeps the record settled. -/
lemma guar_of_holder {w w' : World} (hlock : w.lock = some (.request n)) (h₁ : w'.lock = w.lock)
    (h₂ : ∀ p, Settled p w → Settled p w') : contract.guar (.request n) w w' := by
  intro j hj
  refine ⟨by rw [h₁], fun h => ?_, h₂⟩
  rw [hlock] at h
  exact absurd (Option.some.inj h).symm hj

/-- The request holds the lock. -/
def Holds (n : ℕ) (w : World) : Prop := Inv w ∧ w.lock = some (.request n)

/-- The pod `p` is the one in use: no other has been served, and it is on record while it runs. -/
structure Uses (n : ℕ) (p : String) (w : World) : Prop where
  holds : Holds n w
  nonempty : p ≠ ""
  served : w.served ⊆ {p}
  load : p ∈ w.live → w.load = .ok p

lemma holds_stays : contract.Stays (.request n) (Holds n) :=
  ⟨fun h => h.1, fun h hr hinv => ⟨hinv, hr.lock.mpr h.2⟩⟩

lemma uses_stays (p : String) : contract.Stays (.request n) (Uses n p) :=
  ⟨fun h => h.holds.1, fun h hr hinv =>
    have held := hr.held h.holds.2
    ⟨⟨hinv, hr.lock.mpr h.holds.2⟩, h.nonempty, held.served.trans h.served,
      fun hp => held.load p h.nonempty hp (h.load (held.live hp))⟩⟩

/-- While no pod is served the holder may clear. -/
lemma clear_of_unserved {w : World} (h : Holds n w) (hserved : w.served = ∅) (p : String) :
    Holds n (w.clear p) := by
  refine ⟨⟨?_, fun q hq => ?_, ?_⟩, h.2⟩
  · simpa [World.clear] using h.1.template
  · simp [World.clear, hserved] at hq
  · simp [World.clear, hserved]

/-- A pod that is out of service can be cleared and replaced. -/
lemma droppable {p : String} {w : World} (h : Holds n w) (hserved : w.served = ∅) :
    Droppable contract (.request n) (Holds n) (Holds n) p w where
  before := h
  clears := guar_of_holder h.2 rfl fun _ hq => settled_clear hq p
  leave := clear_of_unserved h hserved p
  notes := guar_of_holder h.2 rfl fun _ hq => hq
  seek :=
    have hc := clear_of_unserved h hserved p
    ⟨hc.1.same rfl rfl subset_rfl hc.1.running, hc.2⟩

lemma served_of_empty_load {w : World} (h : Inv w) (hload : w.load = .ok "") :
    w.served = ∅ := by
  refine Finset.eq_empty_of_forall_notMem fun p hp => ?_
  obtain ⟨hp₁, hp₂⟩ := h.recorded p hp
  rw [hload] at hp₁
  exact hp₂ (Except.ok.inj hp₁).symm

lemma served_erase {p : String} {w : World} (h : w.served ⊆ {p}) : w.served.erase p = ∅ := by
  refine Finset.eq_empty_of_forall_notMem fun q hq => ?_
  obtain ⟨hne, hq⟩ := Finset.mem_erase.mp hq
  exact hne (Finset.mem_singleton.mp (h hq))

lemma reportedMissing {w : World} (h : Holds n w) (p : String) : Holds n (w.reportedMissing p) :=
  ⟨h.1.same rfl rfl (Finset.erase_subset p w.served)
    ((Finset.erase_subset p w.served).trans h.1.running), h.2⟩

/-- The reply to the deploy, and the recording of the new id. -/
lemma deployed {input : DeployInput} {w w₁ : World} {r : Except Exn HttpAnswer} (h : Holds n w)
    (hload : w.load = .ok "") (hrely : Rely (.request n) w.deploySent w₁) (hinv : Inv w₁) :
    let w₂ := w₁.graphqlAnswered (.podFindAndDeployOnDemand input) r
    contract.guar (.request n) w₁ w₂ ∧
      match deployOutcome input r with
      | .error _ => Holds n w₂
      | .ok q => contract.guar (.request n) w₂ (w₂.openState q) ∧
          contract.guar (.request n) (w₂.openState q) ((w₂.openState q).writeState q) ∧
          Uses n q ((w₂.openState q).writeState q) := by
  have hlock : w₁.lock = some (.request n) := hrely.lock.mpr h.2
  have hserved : w₁.served = ∅ :=
    Finset.subset_empty.mp (served_of_empty_load h.1 hload ▸ (hrely.held h.2).served)
  cases hr : deployOutcome input r with
  | error e =>
      rw [w₁.graphqlAnswered_deploy_error hr]
      exact ⟨guar_of_holder hlock rfl fun _ hp => hp,
        hinv.same rfl rfl subset_rfl (by simp [World.deployAnswered, hserved]), hlock⟩
  | ok q =>
      have hq : q ≠ "" := deployOutcome_ne_empty hr
      rw [w₁.graphqlAnswered_deploy_ok hr]
      have hmem : ((w₁.deployed q).openState q).store.activePodId ≠ "" := by
        simpa [World.openState, World.deployed, World.deployAnswered, ActivePodStore.openState,
          hinv.template] using hq
      have hunserved : (((w₁.deployed q).openState q).writeState q).served = ∅ := hserved
      refine ⟨guar_of_holder hlock rfl fun _ hp => hp, guar_of_holder hlock rfl fun p _ => ?_,
        guar_of_holder hlock rfl fun p _ => ?_, ⟨⟨?_, fun p hp => ?_, ?_⟩, hlock⟩, hq, ?_,
        fun _ => ?_⟩
      · exact settled_of_memory hmem p
      · exact settled_of_memory (w := ((w₁.deployed q).openState q).writeState q) hmem p
      · simpa [World.openState, World.writeState, World.deployed, World.deployAnswered]
          using hinv.template
      · simp [hunserved] at hp
      · simp [hunserved]
      · simp [hunserved]
      · exact ActivePodStore.store_load hinv.template hq _

/-- A terminate that ended well has left no pod served. -/
lemma terminated {p : String} {w : World} {r : Except Exn HttpAnswer} (h : Uses n p w)
    (hp : succeedingHarmlessly (.request n) (.graphql (.podTerminate p)) r w) :
    let x := (GraphqlCall.podTerminate p).outcome r
    let w₂ := w.terminateAnswered p x
    contract.guar (.request n) w w₂ ∧
      match x with
      | .ok _ => Droppable contract (.request n) (Holds n) (Holds n) p w₂
      | .error e =>
          if e.isNotFound then Droppable contract (.request n) (Holds n) (Holds n) p w₂
          else contract.guar (.request n) w₂ (w₂.clear p) ∧ Holds n (w₂.clear p) := by
  have hreply := hp.1.2.resolve_left fun hc => by cases hp.1.1 hc
  cases hx : (GraphqlCall.podTerminate p).outcome r with
  | ok _ =>
      exact ⟨guar_of_holder h.holds.2 rfl fun _ hq => hq,
        droppable ⟨h.holds.1.gone p, h.holds.2⟩ (served_erase h.served)⟩
  | error e =>
      simp only [hx] at hreply
      simp only [World.terminateAnswered, if_pos hreply.1]
      exact ⟨guar_of_holder h.holds.2 rfl fun _ hq => hq,
        droppable (reportedMissing h.holds p) (served_erase h.served)⟩

/-- The view of a request that holds the lock. -/
def managerView (cfg : AdapterConfig) (n : ℕ) : ManagerView cfg contract n where
  seek _ := Holds n
  fresh _ q := Uses n q
  held p := Uses n p
  leave := Holds n
  seek_stays _ := holds_stays
  fresh_stays _ := uses_stays
  held_stays := uses_stays
  leave_stays := holds_stays
  seek_leave := id
  held_leave h := h.holds
  fresh_seek h := h.holds
  adopt := id
  found {d w q} h hload hq := ⟨h, hq, fun p hp => by
    have := (h.1.recorded p hp).1
    rw [hload] at this
    exact Finset.mem_singleton.mpr (Except.ok.inj this).symm, fun _ => hload⟩
  sends h hload := ⟨guar_of_holder h.2 rfl fun _ hq => hq, h.1.same rfl rfl subset_rfl h.1.running⟩
  deployed h hload hrely hinv _ := deployed h hload hrely hinv
  replaces h := ⟨guar_of_holder h.holds.2 rfl fun _ hq => hq,
    ⟨h.holds.1.same rfl rfl subset_rfl h.holds.1.running, h.holds.2⟩, h.nonempty, h.served,
    h.load⟩
  missing h _ _ _ := ⟨guar_of_holder h.holds.2 rfl fun _ hq => hq,
    droppable (reportedMissing h.holds _) (served_erase h.served)⟩
  terminated h hp := terminated h hp
  serves {p url w} h := by
    refine ⟨guar_of_holder h.holds.2 rfl fun _ hq => hq, ?_, h.holds.2⟩
    by_cases hp : p ∈ w.live
    · refine ⟨h.holds.1.template, fun q hq => ?_, ?_⟩
      · rw [World.noted, if_pos hp, Finset.mem_insert] at hq
        rcases hq with rfl | hq
        · exact ⟨h.load hp, h.nonempty⟩
        · exact h.holds.1.recorded q hq
      · rw [World.noted, if_pos hp]
        exact Finset.insert_subset hp h.holds.1.running
    · rw [World.noted, if_neg hp]
      exact h.holds.1

end Request

/-! ## Releases -/

section Release

variable {n : ℕ}

/-- The timer task is about to release `p`. -/
def Target (p : String) (w : World) : Prop := Inv w ∧ p ≠ "" ∧ Settled p w

lemma target_stays (p : String) : contract.Stays (.idle n) (Target p) :=
  ⟨fun h => h.1, fun h hr hinv => ⟨hinv, h.2.1, hr.settled p h.2.2⟩⟩

/-- The release clears `p`: whatever runs and is not `p` stays on record. -/
lemma guar_clear {p : String} {w : World} (hserves : ∀ q, q ≠ "" → q ∈ w.live →
    w.load = .ok q → (w.clear p).load = .ok q) : contract.guar (.idle n) w (w.clear p) :=
  fun _ _ => ⟨Iff.rfl, fun _ => ⟨subset_rfl, subset_rfl, hserves⟩,
    fun _ hq => settled_clear hq p⟩

lemma inv_clear {p : String} {w : World} (h : Inv w) (hserves : ∀ q, q ≠ "" → q ∈ w.live →
    w.load = .ok q → (w.clear p).load = .ok q) : Inv (w.clear p) where
  template := by simpa [World.clear] using h.template
  recorded q hq :=
    have hr := h.recorded q hq
    ⟨hserves q hr.2 (h.running hq) hr.1, hr.2⟩
  running := h.running

/-- Once `p` is gone, clearing it leaves whatever runs on record. -/
lemma serves_of_gone {p : String} {w : World} (h : Target p w) (hgone : p ∉ w.live) :
    ∀ q, q ≠ "" → q ∈ w.live → w.load = .ok q → (w.clear p).load = .ok q := by
  intro q hq hlive hload
  exact load_clear h.2.1 h.2.2 hload (fun he => hgone (he ▸ hlive)) hq

/-- A harmless interruption leaves whatever runs on record. -/
lemma serves_of_harmless {p : String} {w : World} (hp : p ≠ "") (h : Harmless p w) :
    ∀ q, q ≠ "" → q ∈ w.live → w.load = .ok q → (w.clear p).load = .ok q := by
  intro q _ hlive hload
  rcases h with ⟨hmem, hne⟩ | h
  · rw [World.clear, ActivePodStore.clear_of_other hmem hp hne.symm]
    exact hload
  · rw [hload] at h
    exact absurd hlive h

lemma target_reportedMissing {p : String} {w : World} (h : Target p w) (q : String) :
    Target p (w.reportedMissing q) :=
  ⟨h.1.same rfl rfl (Finset.erase_subset q w.served)
    ((Finset.erase_subset q w.served).trans h.1.running), h.2⟩

lemma release_terminated {p : String} {w : World} {r : Except Exn HttpAnswer} (h : Target p w)
    (hp : succeedingHarmlessly (.idle n) (.graphql (.podTerminate p)) r w)
    (hr : raisesCancelled r = false) :
    let w₂ := w.graphqlAnswered (.podTerminate p) r
    contract.guar (.idle n) w w₂ ∧ contract.guar (.idle n) w₂ (w₂.clear p) ∧ Inv (w₂.clear p) := by
  have hreply := hp.1.2.resolve_left (by simp [hr])
  simp only [World.graphqlAnswered]
  cases hx : (GraphqlCall.podTerminate p).outcome r with
  | ok _ =>
      have hserves := serves_of_gone (w := w.gone p) ⟨h.1.gone p, h.2⟩ (Finset.notMem_erase _ _)
      exact ⟨(quiet_gone w p).guar _, guar_clear hserves, inv_clear (h.1.gone p) hserves⟩
  | error e =>
      simp only [hx] at hreply
      simp only [World.terminateAnswered, if_pos hreply.1]
      have hw := target_reportedMissing h p
      have hserves := serves_of_gone hw hreply.2
      exact ⟨(quiet_reportedMissing w p).guar _, guar_clear hserves, inv_clear hw.1 hserves⟩

/-- The view of a release. -/
def releaseView (n : ℕ) : ReleaseView contract n where
  enter := Inv
  watch := Inv
  target p := Target p
  watch_stays := inv_stays _
  target_stays := target_stays
  enter_watch := id
  target_watch h := h.1
  found {p w} h hload hp := ⟨h, hp, fun _ _ q hq => by
    rw [hload] at hq
    exact .inl (Except.ok.inj hq).symm⟩
  delivered h := ⟨(quiet_delivered _ n).guar _, (quiet_delivered _ n).inv h.1 subset_rfl, h.2⟩
  polled {p w r} h _ := by
    rcases w.graphqlAnswered_pod p r with he | he <;> rw [he]
    · exact ⟨contract.guar_refl _ w, h⟩
    · exact ⟨(quiet_reportedMissing w p).guar _, target_reportedMissing h p⟩
  terminated h hp hr := release_terminated h hp hr
  interrupted {p w r} h hp hr _ := by
    have hserves : ∀ q, q ≠ "" → q ∈ w.live → w.load = .ok q → (w.clear p).load = .ok q :=
      serves_of_harmless h.2.1 (hp.2 hr)
    exact ⟨guar_clear (w := w.delivered (.idle n)) hserves,
      inv_clear (w := w.delivered (.idle n)) (h.1.same rfl rfl subset_rfl h.1.running) hserves⟩

end Release

/-! ## The process -/

/-- The view of the process. -/
def processView (cfg : AdapterConfig) : ProcessView cfg contract where
  manager n := managerView cfg n
  release n := releaseView n
  outside n w := Inv w ∧ w.lock ≠ some (.request n)
  flying n w := Inv w ∧ w.lock ≠ some (.request n)
  calm _ := Inv
  outside_stays _ := ⟨fun h => h.1, fun h hr hinv => ⟨hinv, fun hl => h.2 (hr.lock.mp hl)⟩⟩
  flying_stays _ := ⟨fun h => h.1, fun h hr hinv => ⟨hinv, fun hl => h.2 (hr.lock.mp hl)⟩⟩
  calm_stays _ := inv_stays _
  starts {n w} h _ :=
    have hq := quiet_requestStarted w (.request n)
    ⟨hq.guar _, hq.inv h.1 subset_rfl, h.2⟩
  acquires {n w} h hl := by
    refine ⟨fun j hj => ⟨?_, fun hj' => ?_, fun _ hp => hp⟩,
      h.1.same rfl rfl subset_rfl h.1.running, rfl⟩
    · simp [hl, Ne.symm hj]
    · simp [hl] at hj'
  releases {n w} h := by
    refine ⟨fun j hj => ⟨?_, fun hj' => ?_, fun _ hp => hp⟩,
      h.1.same rfl rfl subset_rfl h.1.running, by simp⟩
    · simp [h.2, Ne.symm hj]
    · rw [h.2] at hj'
      exact absurd (Option.some.inj hj').symm hj
  finishes {n w} h :=
    have hq := quiet_requestFinished w (.request n)
    ⟨hq.guar _, hq.inv h.1 subset_rfl⟩
  delivered {n w} h := ⟨(quiet_delivered w n).guar _, (quiet_delivered w n).inv h subset_rfl⟩
  enters {n w} h _ _ :=
    have hq := quiet_releaseEntered w (.idle n)
    ⟨hq.guar _, hq.inv h subset_rfl⟩
  leaves {n w} h :=
    have hq := quiet_releaseLeft w (.idle n)
    ⟨hq.guar _, hq.inv h subset_rfl⟩
  exits {n w} h := ⟨(quiet_exit w n).guar _, (quiet_exit w n).inv h subset_rfl⟩

lemma inv_boots {cfg : AdapterConfig} {w : World} (hpod : cfg.runpodPodId = "")
    (hboot : w.Boots cfg) : Inv w where
  template := hboot.configured.trans hpod
  recorded p hp := by simp [hboot.served] at hp
  running := by simp [hboot.served]

/-! ## The defect -/

/-- A pod object with a public address for the wrapper's port. -/
def reachablePod : Json :=
  .obj [("id", .str "old"), ("runtime", .obj [("ports", .arr [.obj [("ip", .str "10.0.0.1"),
    ("isIpPublic", .bool true), ("privatePort", .int 9000), ("publicPort", .int 40000),
    ("type", .str "tcp")]])])]

def healthy : Except Exn HealthAnswer := .ok ⟨200, some protocolVersion⟩

/-- A first request fails; its timer starts a release, whose log drain fails and whose terminate
is on its way when a second request arrives. -/
def releaseStarts : List (TaskId × Prog.Exchange adapterInterface) :=
  [(.request 0, ⟨.arrive, ()⟩),
    (.request 0, ⟨.graphql (.pod "old"), serverError⟩),
    (.idle 0, ⟨.firstStep, Except.ok ()⟩),
    (.idle 0, ⟨.sleep 30, Except.ok ()⟩),
    (.idle 0, ⟨.graphql (.pod "old"), serverError⟩),
    (.request 1, ⟨.arrive, ()⟩)]

/-- The second request has read the id when the release is cancelled, and finds the pod healthy. -/
def requestFinds : List (TaskId × Prog.Exchange adapterInterface) :=
  [(.idle 0, ⟨.graphql (.podTerminate "old"), Except.error .cancelledError⟩),
    (.request 1, ⟨.graphql (.pod "old"),
      jsonAnswer (.obj [("data", .obj [("pod", reachablePod)])])⟩),
    (.request 1, ⟨.health "http://10.0.0.1:40000/health", healthy⟩)]

def interruptedRun : Option (Pool adapterInterface TaskId World (Except Exn Unit)) :=
  Pool.play (system succeeding) (World.reply? succeeding) (releaseStarts ++ requestFinds)
    ⟨.bootRecorded, process .template 1⟩

theorem interruptedRun_isSome : interruptedRun.isSome := by decide

end Interruption

/-- **An interrupted release forgets a running pod.**  In this run `ensure_ready` returns the
address of the pod `old`, which is neither terminated nor reported missing, and no id is on
record. -/
theorem interrupted_release_forgets :
    ∃ s, Pool.Reaches (system succeeding) ⟨World.bootRecorded, process .template 1⟩ s ∧
      "old" ∈ s.world.served ∧ "old" ∈ s.world.live ∧ s.world.load = .ok "" :=
  ⟨Interruption.interruptedRun.get Interruption.interruptedRun_isSome,
    Pool.play_reaches World.reply?_answer (Option.some_get _).symm, by decide⟩

/-! ## When it does no damage -/

/-- **Served pods stay on record** in every run in which a release is interrupted inside
`_terminate` only harmlessly: as long as a pod whose address was returned runs and is not reported
missing, `load_active_pod_id()` names it. -/
theorem served_pod_recorded {cfg : AdapterConfig} (hpod : cfg.runpodPodId = "") (rounds : ℕ)
    {w : World} (hboot : w.Boots cfg) {s : Pool adapterInterface TaskId World (Except Exn Unit)}
    (h : Pool.Reaches (system succeedingHarmlessly) ⟨w, process cfg rounds⟩ s) :
    ∀ p ∈ s.world.served, s.world.load = .ok p := by
  have hw := Interruption.inv_boots hpod hboot
  have hlock : ∀ i, w.lock ≠ some i := by simp [hboot.lock]
  have hs : Interruption.Inv s.world := (Interruption.processView cfg).sound hw
    (fun n => ⟨hw, hlock _⟩) (fun _ => hw) h
  exact fun p hp => (hs.recorded p hp).1

namespace Interruption

/-- A request finds the recorded pod healthy. -/
def servedRun : Option (Pool adapterInterface TaskId World (Except Exn Unit)) :=
  Pool.play (system succeedingHarmlessly) (World.reply? succeedingHarmlessly)
    ((.request 1, ⟨.arrive, ()⟩) :: requestFinds.tail) ⟨.bootRecorded, process .template 1⟩

theorem servedRun_isSome : servedRun.isSome := by decide

end Interruption

theorem served_pod_recorded_healthy :
    "old" ∈ (Interruption.servedRun.get Interruption.servedRun_isSome).world.served ∧
      ∀ p ∈ (Interruption.servedRun.get Interruption.servedRun_isSome).world.served,
        (Interruption.servedRun.get Interruption.servedRun_isSome).world.load = .ok p :=
  ⟨by decide, @served_pod_recorded .template rfl 1 World.bootRecorded
    (World.boots_boot _ _ _) _ (Pool.play_reaches World.reply?_answer (Option.some_get _).symm)⟩

end SpeakrRunpod
