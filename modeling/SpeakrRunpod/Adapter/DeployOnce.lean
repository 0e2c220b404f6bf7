import SpeakrRunpod.Adapter.ManagerLogic
import SpeakrRunpod.Adapter.SharedRecord

/-!
# One deploy for all processes

Several adapter processes share a state file and, with it, the file lock that `DeployLock` takes.
Each runs the deploy loop any number of times.  Processes are preempted anywhere, so no operation
is synchronous here; `store` is two operations, and between them the file is empty.

* `Fleet` — the memories of the processes, the file, the lock.
* `fleet` — the runtime, for ids of which `Given` holds.
* `deploy_once` — at most one deploy is answered with an id, and every call returns that id, if
  reading the file gives ids back as they were written.
-/

namespace SpeakrRunpod

open Coop

/-- A call of the deploy loop by one of the processes. -/
structure CallId where
  process : ℕ
  number : ℕ
  deriving DecidableEq

structure Fleet extends SharedRecord ℕ where
  /-- the holder of the file lock -/
  lock : Option CallId
  /-- the ids that deploys have been answered with -/
  deployed : List String

namespace Fleet

/-- `load_active_pod_id()` in process `n`. -/
def load (w : Fleet) (n : ℕ) : Except Exn String := w.toSharedRecord.load n

def openState (w : Fleet) (n : ℕ) (p : String) : Fleet :=
  { w with
    stores := Function.update w.stores n ((w.stores n).openState w.file p).1
    file := ((w.stores n).openState w.file p).2 }

def writeState (w : Fleet) (n : ℕ) (p : String) : Fleet :=
  { w with file := (w.stores n).writeState w.file p }

def locked (w : Fleet) (i : CallId) : Fleet := { w with lock := some i }

def unlocked (w : Fleet) : Fleet := { w with lock := none }

/-- A deploy has been answered. -/
def deployAnswered (w : Fleet) : Except Exn String → Fleet
  | .ok q => { w with deployed := q :: w.deployed }
  | .error _ => w

/-- The answers of the operations of the deploy loop, with their effect.  However the release of
the lock ends, the descriptor is closed and the lock is free. -/
def answer? (i : CallId) : (o : Op) → o.Res → Fleet → Option Fleet
  | .time, _, w => some w
  | .sleep _, _, w => some w
  | .load, (r : Except Exn String), w => if r = w.load i.process then some w else none
  | .openState p, _, w => some (w.openState i.process p)
  | .writeState p, _, w => some (w.writeState i.process p)
  | .acquireDeployLock, .ok (), w => if w.lock = none then some (w.locked i) else none
  | .acquireDeployLock, .error _, w => some w
  | .releaseDeployLock, _, w => some w.unlocked
  | .graphql (.podFindAndDeployOnDemand input), r, w => some (w.deployAnswered (deployOutcome input r))
  | _, _, _ => none

/-- The processes start with empty memories, and there is no state file. -/
def start (cfg : ℕ → AdapterConfig) : Fleet where
  stores := fun n => .new (cfg n).runpodPodId (cfg n).runpodActivePodIdPath
  file := ⟨.absent, none, false⟩
  lock := none
  deployed := []

end Fleet

/-- The ids that deploys are answered with satisfy `Given`. -/
def givenIds (Given : String → Prop) : (o : Op) → o.Res → Prop
  | .graphql (.podFindAndDeployOnDemand input), r =>
      match deployOutcome input r with
      | .ok q => Given q
      | .error _ => True
  | _, _ => True

instance (Given : String → Prop) [DecidablePred Given] (o : Op) (r : o.Res) :
    Decidable (givenIds Given o r) := by
  revert r
  apply @Op.casesOn (fun o => (r : o.Res) → Decidable (givenIds Given o r)) o
  case graphql =>
    intro call
    apply @GraphqlCall.casesOn
      (fun call => (r : (Op.graphql call).Res) → Decidable (givenIds Given (.graphql call) r)) call
    case podFindAndDeployOnDemand =>
      intro input r
      dsimp only [givenIds]
      exact match deployOutcome input r with
        | .ok _ => inferInstance
        | .error _ => inferInstance
    all_goals
      intros
      exact instDecidableTrue
  all_goals
    intros
    exact instDecidableTrue

/-- Processes that are preempted anywhere. -/
def fleet (Given : String → Prop) : Runtime adapterInterface CallId Fleet where
  exec _ _ _ := none
  issue _ _ w := w
  answer i o r w w' := givenIds Given o r ∧ w.answer? i o r = some w'
  exit _ w := w
  env _ _ := False

/-- The answer `r`, where it is one of those. -/
def Fleet.reply? (Given : String → Prop) [DecidablePred Given] (i : CallId) (o : Op) (r : o.Res)
    (w : Fleet) : Option Fleet :=
  if givenIds Given o r then w.answer? i o r else none

lemma Fleet.reply?_answer {Given : String → Prop} [DecidablePred Given] {i : CallId} {o : Op}
    {r : o.Res} {w w' : Fleet} (h : Fleet.reply? Given i o r w = some w') :
    (fleet Given).answer i o r w w' := by
  rw [Fleet.reply?] at h
  split_ifs at h with hg
  exact ⟨hg, h⟩

/-- Every process makes any number of calls, with any deadlines. -/
def deployCalls (cfg : ℕ → AdapterConfig) (rounds : ℕ) (deadline : CallId → ℚ) (i : CallId) :
    Prog adapterInterface (Except Exn String) :=
  (deployFromTemplateWithRetry (cfg i.process) rounds (deadline i)).run

/-- Reading the state file gives the id back as it was written: it neither begins nor ends with
white space, nor contains a carriage return. -/
def Recordable (q : String) : Prop := readPodId q = q

instance (q : String) : Decidable (Recordable q) := inferInstanceAs (Decidable (_ = _))

namespace DeployOnce

/-! ## The invariant -/

/-- Where a deploy has been answered, the file names its pod. -/
def Settled (w : Fleet) : Prop := ∀ q ∈ w.deployed, w.file.content = .text q

structure Inv (w : Fleet) : Prop where
  template : ∀ n, (w.stores n).configuredPodId = ""
  path : ∀ n, (w.stores n).path ≠ ""
  writes : w.file.writeFault = none
  once : w.deployed = [] ∨ ∃ q, w.deployed = [q]
  memory : ∀ n, (w.stores n).activePodId ≠ "" → w.deployed = [(w.stores n).activePodId]
  content : w.file.content = .absent ∨ w.file.content = .text "" ∨
    ∃ q, w.deployed = [q] ∧ w.file.content = .text q
  recordable : ∀ q ∈ w.deployed, q ≠ "" ∧ Recordable q
  settled : w.lock = none → Settled w

variable {w w' : Fleet} {i : CallId}

/-- An id that is read, from memory or file, is the one that was deployed. -/
lemma load_deployed (h : Inv w) (n : ℕ) :
    ∃ q, w.load n = .ok q ∧ (q ≠ "" → w.deployed = [q]) := by
  by_cases hmem : (w.stores n).activePodId = ""
  · rcases h.content with hc | hc | ⟨q, hq, hc⟩
    · refine ⟨"", ?_, fun hne => absurd rfl hne⟩
      simp [Fleet.load, SharedRecord.load, ActivePodStore.load, hmem, hc]
    · refine ⟨"", ?_, fun hne => absurd rfl hne⟩
      have hempty : readPodId "" = "" := by decide
      simp [Fleet.load, SharedRecord.load, ActivePodStore.load, hmem, hc, hempty]
    · have hread : readPodId q = q := (h.recordable q (by simp [hq])).2
      refine ⟨q, ?_, fun _ => hq⟩
      simp [Fleet.load, SharedRecord.load, ActivePodStore.load, hmem, hc, hread, h.path n]
  · exact ⟨_, ActivePodStore.load_memory hmem, fun _ => h.memory n hmem⟩

/-- Once the file is settled, nothing is read only if nothing was deployed. -/
lemma deployed_of_load (h : Inv w) (hs : Settled w) {n : ℕ} (hload : w.load n = .ok "") :
    w.deployed = [] := by
  rcases h.once with hnone | ⟨q, hq⟩
  · exact hnone
  have hmem : (w.stores n).activePodId = "" := ActivePodStore.memory_of_load hload
  have hmemq : q ∈ w.deployed := by simp [hq]
  obtain ⟨hne, hread⟩ := h.recordable q hmemq
  have hloadq : w.load n = .ok q := by
    simp only [Fleet.load, SharedRecord.load, ActivePodStore.load, hmem, h.path n, hs q hmemq,
      ne_eq, not_true_eq_false, if_false]
    exact congrArg _ hread
  rw [hloadq] at hload
  exact absurd (Except.ok.inj hload) hne

/-- What call `i` may rely on. -/
structure Rely (i : CallId) (w w' : Fleet) : Prop where
  lock : w'.lock = some i ↔ w.lock = some i
  held : w.lock = some i → w' = w
  deployed : ∀ q, w.deployed = [q] → w'.deployed = [q]

/-- The contract of the calls. -/
def contract : Contract (fleet Recordable) where
  inv := Inv
  rely := Rely
  rely_refl _ _ := ⟨Iff.rfl, fun _ => rfl, fun _ => id⟩
  rely_trans h₁ h₂ := ⟨h₂.lock.trans h₁.lock,
    fun h => (h₂.held (h₁.lock.mpr h)).trans (h₁.held h),
    fun q hq => h₂.deployed q (h₁.deployed q hq)⟩
  env_inv h _ := h.elim
  env_rely h _ _ := h.elim

/-! ## What a call knows -/

/-- The call does not hold the lock. -/
def Outside (i : CallId) (w : Fleet) : Prop := Inv w ∧ w.lock ≠ some i

/-- The call holds the lock, and the file is settled. -/
structure Holds (i : CallId) (w : Fleet) : Prop where
  inv : Inv w
  lock : w.lock = some i
  settled : Settled w

lemma outside_stays : contract.Stays i (Outside i) :=
  ⟨fun h => h.1, fun h hr hinv => ⟨hinv, fun hl => h.2 (hr.lock.mp hl)⟩⟩

lemma returned_stays (q : String) :
    contract.Stays i fun w => Outside i w ∧ w.deployed = [q] :=
  ⟨fun h => h.1.1, fun h hr hinv => ⟨outside_stays.rely h.1 hr hinv, hr.deployed q h.2⟩⟩

/-- Whatever the holder of the lock knows stays true. -/
lemma holder_stays {V : Fleet → Prop} (h : ∀ {w}, V w → Inv w ∧ w.lock = some i) :
    contract.Stays i V :=
  ⟨fun hv => (h hv).1, fun hv hr _ => by rwa [hr.held (h hv).2]⟩

/-- What the holder of the lock may do before a deploy has been answered, or after. -/
lemma guar_of_holder (hl : w.lock = some i) (h : w'.lock = some i ∨ w'.lock = none)
    (hd : ∀ q, w.deployed = [q] → w'.deployed = [q]) : contract.guar i w w' := by
  intro j hj
  have hne : ∀ {x : Option CallId}, x = some i ∨ x = none → x ≠ some j := by
    rintro x (rfl | rfl) hx
    · exact hj (Option.some.inj hx).symm
    · cases hx
  exact ⟨iff_of_false (hne h) (hne (.inl hl)), fun hlj => absurd hlj (hne (.inl hl)), hd⟩

/-! ## Operations -/

section Rules

variable {V : Fleet → Prop} {E : Exn → Fleet → Prop}

lemma answer_some {o : Op} {r : o.Res} (h : (fleet Recordable).answer i o r w w') :
    w.answer? i o r = some w' := h.2

lemma wpE_time (hV : contract.Stays i V) (h : V w) :
    contract.wpE i Adapter.time (fun _ => V) E w := by
  refine contract.wpE_lift.mpr (contract.wp_still (o := .time) hV rfl rfl (fun ha => ?_) h)
  cases answer_some ha
  rfl

lemma wpE_sleep (hV : contract.Stays i V) (h : V w) (t : ℚ) :
    contract.wpE i (Adapter.sleep t) (fun _ => V) (fun _ => V) w := by
  refine contract.wpE_of_wp (contract.wp_still (o := .sleep t) hV rfl rfl (fun ha => ?_) h)
  cases answer_some ha
  rfl

lemma wpE_load (hV : contract.Stays i V) (h : V w) :
    contract.wpE i Adapter.load (fun q w => V w ∧ w.load i.process = .ok q) E w := by
  refine contract.wp_await (o := .load) hV rfl rfl (fun {w₁ r w₂} h₁ ha => ?_) h
  have ha := answer_some ha
  simp only [Fleet.answer?] at ha
  split_ifs at ha with hr
  cases ha
  refine ⟨contract.guar_refl i w₁, ?_⟩
  obtain ⟨q, hq, -⟩ := load_deployed (hV.inv h₁) i.process
  have hr : r = (.ok q : Except Exn String) := hr.trans hq
  rw [hr]
  exact ⟨h₁, hq⟩

lemma wpE_acquireDeployLock (h : Outside i w) :
    contract.wpE i Adapter.acquireDeployLock (fun _ => Holds i) (fun _ => Outside i) w := by
  refine contract.wp_await (o := .acquireDeployLock) outside_stays rfl rfl
    (fun {w₁ r w₂} h₁ ha => ?_) h
  have ha := answer_some ha
  cases r with
  | error e =>
      cases ha
      exact ⟨contract.guar_refl i w₁, h₁⟩
  | ok _ =>
      simp only [Fleet.answer?] at ha
      split_ifs at ha with hfree
      cases ha
      have hlocked : Inv (w₁.locked i) :=
        ⟨h₁.1.template, h₁.1.path, h₁.1.writes, h₁.1.once, h₁.1.memory, h₁.1.content,
          h₁.1.recordable, fun hl => by cases hl⟩
      refine ⟨fun j hj => ⟨?_, fun hl => ?_, fun _ hq => hq⟩,
        ⟨hlocked, rfl, h₁.1.settled hfree⟩⟩
      · simp [Fleet.locked, hfree, Ne.symm hj]
      · rw [hfree] at hl
        cases hl

lemma wpE_releaseDeployLock {U : Fleet → Prop} (hV : ∀ {w}, V w → Holds i w)
    (hU : ∀ {w}, V w → U w.unlocked) (h : V w) :
    contract.wpE i Adapter.releaseDeployLock (fun _ => U) (fun _ => U) w := by
  have hstays : contract.Stays i V := holder_stays fun hv => ⟨(hV hv).inv, (hV hv).lock⟩
  refine contract.wpE_of_wp (contract.wp_await (o := .releaseDeployLock) hstays rfl rfl
    (fun {w₁ r w₂} h₁ ha => ?_) h)
  cases answer_some ha
  exact ⟨guar_of_holder (hV h₁).lock (.inr rfl) fun _ hq => hq, hU h₁⟩

lemma unlocked_outside (h : Holds i w) : Outside i w.unlocked :=
  ⟨⟨h.inv.template, h.inv.path, h.inv.writes, h.inv.once, h.inv.memory, h.inv.content,
    h.inv.recordable, fun _ => h.settled⟩, by simp [Fleet.unlocked]⟩

end Rules

/-! ## Deploying and recording -/

/-- A deploy was answered with `q`, and call `i` holds the lock. -/
structure Deployed (i : CallId) (q : String) (w : Fleet) : Prop where
  inv : Inv w
  lock : w.lock = some i
  deployed : w.deployed = [q]

lemma deployed_stays (q : String) : contract.Stays i (Deployed i q) :=
  holder_stays fun h => ⟨h.inv, h.lock⟩

lemma deployed_of_answer {input : DeployInput} {r : Except Exn HttpAnswer} {q : String}
    (h : Holds i w) (hnone : w.deployed = []) (hr : deployOutcome input r = .ok q)
    (hq : Recordable q) : Deployed i q (w.deployAnswered (.ok q)) where
  inv :=
    { template := h.inv.template
      path := h.inv.path
      writes := h.inv.writes
      once := .inr ⟨q, by rw [Fleet.deployAnswered, hnone]⟩
      memory := fun n hn => by
        have hm := h.inv.memory n hn
        rw [hnone] at hm
        cases hm
      content := by
        rcases h.inv.content with hc | hc | ⟨p, hp, -⟩
        · exact .inl hc
        · exact .inr (.inl hc)
        · rw [hnone] at hp
          cases hp
      recordable := fun p hp => by
        rw [Fleet.deployAnswered, hnone] at hp
        rw [List.mem_singleton.mp hp]
        exact ⟨deployOutcome_ne_empty hr, hq⟩
      settled := fun hl => by
        have hlock : w.lock = none := hl
        rw [h.lock] at hlock
        cases hlock }
  lock := h.lock
  deployed := by rw [Fleet.deployAnswered, hnone]

lemma deployed_openState {q : String} (h : Deployed i q w) :
    Deployed i q (w.openState i.process q) where
  inv :=
    { template := fun n => by
        by_cases hn : n = i.process
        · subst hn
          simp [Fleet.openState, h.inv.template]
        · simp [Fleet.openState, hn, h.inv.template]
      path := fun n => by
        by_cases hn : n = i.process
        · subst hn
          simp [Fleet.openState, h.inv.path]
        · simp [Fleet.openState, hn, h.inv.path]
      writes := by simp [Fleet.openState, h.inv.writes]
      once := h.inv.once
      memory := fun n hmem => by
        by_cases hn : n = i.process
        · subst hn
          have hset : ((w.openState i.process q).stores i.process).activePodId = q := by
            simp [Fleet.openState, ActivePodStore.openState, h.inv.template]
          rw [hset]
          exact h.deployed
        · have hsame : (w.openState i.process q).stores n = w.stores n :=
            Function.update_of_ne hn _ _
          rw [hsame] at hmem ⊢
          exact h.inv.memory n hmem
      content := by
        refine .inr (.inl ?_)
        simp [Fleet.openState, ActivePodStore.openState, h.inv.template, h.inv.path, h.inv.writes]
      recordable := h.inv.recordable
      settled := fun hl => by
        have hlock : w.lock = none := hl
        rw [h.lock] at hlock
        cases hlock }
  lock := h.lock
  deployed := h.deployed

lemma holds_writeState {q : String} (h : Deployed i q w) :
    Holds i (w.writeState i.process q) ∧ (w.writeState i.process q).deployed = [q] := by
  have hcontent : (w.writeState i.process q).file.content = .text q := by
    simp [Fleet.writeState, ActivePodStore.writeState, h.inv.template, h.inv.path, h.inv.writes]
  have hsettled : Settled (w.writeState i.process q) := by
    intro p hp
    have hp : p ∈ w.deployed := hp
    rw [h.deployed] at hp
    rw [List.mem_singleton.mp hp]
    exact hcontent
  refine ⟨⟨⟨h.inv.template, h.inv.path, ?_, h.inv.once, h.inv.memory, ?_, h.inv.recordable,
    fun _ => hsettled⟩, h.lock, hsettled⟩, h.deployed⟩
  · simp [Fleet.writeState, h.inv.writes]
  · exact .inr (.inr ⟨q, h.deployed, hcontent⟩)

variable {cfg : AdapterConfig}

theorem store_spec {q : String} (h : Deployed i q w) :
    contract.wpE i (Adapter.store q) (fun _ w => Holds i w ∧ w.deployed = [q])
      (fun _ => Holds i) w := by
  have hsame : ∀ {w₁ w₂ : Fleet}, Deployed i q w₁ → w₂.lock = w₁.lock →
      w₂.deployed = w₁.deployed → contract.guar i w₁ w₂ := fun h₁ hl hd =>
    guar_of_holder h₁.lock (.inl (hl.trans h₁.lock)) fun p hp => hd.trans hp
  refine contract.wpE_bind.mpr (contract.wpE_lift.mpr ?_)
  refine contract.wp_await (o := .openState q) (deployed_stays q) rfl rfl
    (fun {w₁ r w₂} h₁ ha => ?_) h
  cases answer_some ha
  refine ⟨hsame h₁ rfl rfl, contract.wpE_lift.mpr ?_⟩
  refine contract.wp_await (o := .writeState q) (deployed_stays q) rfl rfl
    (fun {w₃ r w₄} h₃ ha => ?_) (deployed_openState h₁)
  cases answer_some ha
  exact ⟨hsame h₃ rfl rfl, holds_writeState h₃⟩

theorem deployUnderLock_spec (h : Holds i w) :
    contract.wpE i (deployUnderLock cfg) (fun q w => Holds i w ∧ w.deployed = [q])
      (fun _ => Holds i) w := by
  have hstays : contract.Stays i (Holds i) := holder_stays fun hv => ⟨hv.inv, hv.lock⟩
  refine contract.wpE_bind.mpr (contract.wpE_mono (wpE_load (E := fun _ => Holds i) hstays h)
    (fun x w₁ h₁ => ?_) fun _ _ => id)
  obtain ⟨hholds, hload⟩ := h₁
  obtain ⟨q, hq, hdeployed⟩ := load_deployed hholds.inv i.process
  obtain rfl : q = x := Except.ok.inj (hq.symm.trans hload)
  split_ifs with hx
  · exact ⟨hholds, hdeployed hx⟩
  · rw [not_not] at hx
    have hnone : w₁.deployed = [] := deployed_of_load hholds.inv hholds.settled (hx ▸ hload)
    have hwaits : contract.Stays i fun w => Holds i w ∧ w.deployed = [] :=
      holder_stays fun hv => ⟨hv.1.inv, hv.1.lock⟩
    refine contract.wpE_bind.mpr (wpE_deployFromTemplate (fun _ => hholds) ?_)
    refine contract.wp_await hwaits rfl rfl (fun {w₂ r w₃} h₂ ha => ?_) ⟨hholds, hnone⟩
    have hpolicy := ha.1
    cases answer_some ha
    cases hr : deployOutcome (deployInput cfg) r with
    | error e => exact ⟨contract.guar_refl i w₂, h₂.1⟩
    | ok p =>
        simp only [givenIds, hr] at hpolicy
        have hp := deployed_of_answer h₂.1 h₂.2 hr hpolicy
        refine ⟨guar_of_holder h₂.1.lock (.inl h₂.1.lock) fun x hx => ?_,
          contract.wpE_bind.mpr (store_spec hp)⟩
        rw [h₂.2] at hx
        cases hx

/-- The call is outside, and `q` is the id that was deployed. -/
def Returned (i : CallId) (q : String) (w : Fleet) : Prop := Outside i w ∧ w.deployed = [q]

theorem withDeployLock_spec (h : Outside i w) :
    contract.wpE i (withDeployLock (deployUnderLock cfg)) (Returned i) (fun _ => Outside i) w := by
  refine contract.wpE_bind.mpr
    (contract.wpE_mono (wpE_acquireDeployLock h) (fun _ w₁ h₁ => ?_) fun _ _ => id)
  refine contract.wpE_tryFinally.mpr (contract.wpE_mono (deployUnderLock_spec h₁)
    (fun q w₂ h₂ => ?_) fun e w₂ h₂ => ?_)
  · exact contract.wpE_mono (wpE_releaseDeployLock (V := fun w => Holds i w ∧ w.deployed = [q])
      (U := Returned i q) (fun h => h.1) (fun h => ⟨unlocked_outside h.1, h.2⟩) h₂) (fun _ _ => id) fun _ _ h₃ => h₃.1
  · exact wpE_releaseDeployLock id unlocked_outside h₂

theorem deployRound_spec {deadline : ℚ} {lastError : String} (h : Outside i w) :
    contract.wpE i (deployRound cfg deadline lastError)
      (Contract.turn (fun _ => Outside i) (Returned i)) (fun _ => Outside i) w := by
  refine contract.wpE_bind.mpr (contract.wpE_mono (wpE_time (E := fun _ => Outside i)
    outside_stays h) (fun now w₁ h₁ => ?_) fun _ _ => id)
  split_ifs with ht
  · refine contract.wpE_bind.mpr (contract.wpE_mono (wpE_load (E := fun _ => Outside i)
      outside_stays h₁) (fun x w₂ h₂ => ?_) fun _ _ => id)
    obtain ⟨hout, hload⟩ := h₂
    split_ifs with hx
    · obtain ⟨q, hq, hdeployed⟩ := load_deployed hout.1 i.process
      obtain rfl : q = x := Except.ok.inj (hq.symm.trans hload)
      exact ⟨hout, hdeployed hx⟩
    · refine contract.wpE_bind.mpr (contract.wpE_attempt.mpr
        (contract.wpE_mono (withDeployLock_spec hout) (fun _ _ h₃ => h₃) fun e w₃ h₃ => ?_))
      show contract.wpE i (if deployReraises e then throw e else _) _ _ w₃
      split_ifs
      · exact h₃
      · exact contract.wpE_bind.mpr (wpE_sleep outside_stays h₃ _)
  · exact h₁

theorem deployFromTemplateWithRetry_spec {rounds : ℕ} {deadline : ℚ} (h : Outside i w) :
    contract.wpE i (deployFromTemplateWithRetry cfg rounds deadline) (Returned i)
      (fun _ => Outside i) w :=
  contract.wpE_loop (fun _ => Outside i) (fun _ _ => outside_stays.inv)
    (fun _ _ => deployRound_spec) rounds _ h

/-! ## Runs -/

/-- What a returned call guarantees. -/
def Agreed (_ : CallId) (r : Except Exn String) (w : Fleet) : Prop :=
  ∀ q, r = .ok q → w.deployed = [q]

lemma call_parked {rounds : ℕ} {deadline : ℚ} (h : Outside i w) :
    contract.Parked Agreed i (deployFromTemplateWithRetry cfg rounds deadline).run w := by
  have hwp : contract.wpE i (deployFromTemplateWithRetry cfg rounds deadline) (Returned i)
      (fun _ => Outside i) w := deployFromTemplateWithRetry_spec h
  cases rounds with
  | zero => trivial
  | succ n =>
      refine contract.parked_of_wp (o := .time) rfl rfl (contract.wp_mono (fun r w' hr => ?_) hwp)
      cases r with
      | error e => exact ⟨contract.guar_refl i w', hr.1, fun q hq => by cases hq⟩
      | ok q =>
          refine ⟨contract.guar_refl i w', hr.1.1, fun p hp => ?_⟩
          cases hp
          exact hr.2

lemma inv_start {cfg : ℕ → AdapterConfig} (hpod : ∀ n, (cfg n).runpodPodId = "")
    (hpath : ∀ n, (cfg n).runpodActivePodIdPath ≠ "") : Inv (.start cfg) where
  template := hpod
  path := hpath
  writes := rfl
  once := .inl rfl
  memory n h := absurd (hpod n) h
  content := .inl rfl
  recordable q hq := by cases hq
  settled _ q hq := by cases hq

end DeployOnce

/-- **One deploy for all processes.**  In every run, at most one deploy is answered with an id, and
every call that returns, in whatever process, returns that id. -/
theorem deploy_once {cfg : ℕ → AdapterConfig} (hpod : ∀ n, (cfg n).runpodPodId = "")
    {path : String} (hpath : path ≠ "") (hshared : ∀ n, (cfg n).runpodActivePodIdPath = path)
    (rounds : ℕ) (deadline : CallId → ℚ)
    {s : Pool adapterInterface CallId Fleet (Except Exn String)}
    (h : Pool.Reaches (fleet Recordable) ⟨.start cfg, deployCalls cfg rounds deadline⟩ s) :
    s.world.deployed.length ≤ 1 ∧ ∀ i q, s.tasks i = .ret (.ok q) → s.world.deployed = [q] := by
  have hinv := DeployOnce.inv_start hpod fun n => hshared n ▸ hpath
  have hstable : DeployOnce.contract.Stable DeployOnce.Agreed :=
    fun i r w w' hr hrely q hq => hrely.deployed q (hr q hq)
  have hs := DeployOnce.contract.sound
    (s := ⟨.start cfg, deployCalls cfg rounds deadline⟩) _ hstable hinv
    (fun i => DeployOnce.call_parked ⟨hinv, by simp [Fleet.start]⟩) h
  refine ⟨?_, fun i q hi => ?_⟩
  · rcases hs.1.once with hd | ⟨q, hd⟩ <;> simp [hd]
  · have hparked := hs.2 i
    rw [hi] at hparked
    exact hparked q rfl

namespace DeployOnce

/-- Every process in template mode. -/
def templates : ℕ → AdapterConfig := fun _ => .template

/-- The answer to a deploy that has created the pod `q`. -/
def createdAnswer (q : String) : Except Exn HttpAnswer :=
  jsonAnswer (.obj [("data", .obj [("podFindAndDeployOnDemand", .obj [("id", .str q)])])])

/-- A call that reads nothing deploys the pod `q`. -/
def deploys (i : CallId) (q : String) : List (CallId × Prog.Exchange adapterInterface) :=
  [(i, ⟨.time, (0 : ℚ)⟩), (i, ⟨.load, Except.ok ""⟩), (i, ⟨.acquireDeployLock, Except.ok ()⟩),
    (i, ⟨.load, Except.ok ""⟩),
    (i, ⟨.graphql (.podFindAndDeployOnDemand (deployInput .template)), createdAnswer q⟩),
    (i, ⟨.openState q, ()⟩), (i, ⟨.writeState q, ()⟩), (i, ⟨.releaseDeployLock, Except.ok ()⟩)]

/-- One process deploys a pod whose id is a blank, and then another one deploys. -/
def blankIdRun : Option (Pool adapterInterface CallId Fleet (Except Exn String)) :=
  Pool.play (fleet fun _ => True) (Fleet.reply? fun _ => True)
    (deploys ⟨0, 0⟩ " " ++ deploys ⟨1, 0⟩ "pod")
    ⟨.start templates, deployCalls templates 1 fun _ => 1⟩

theorem blankIdRun_isSome : blankIdRun.isSome := by decide

/-- One process deploys a pod, and another one reads its id. -/
def adoptedRun : Option (Pool adapterInterface CallId Fleet (Except Exn String)) :=
  Pool.play (fleet Recordable) (Fleet.reply? Recordable)
    (deploys ⟨0, 0⟩ "pod" ++ [(⟨1, 0⟩, ⟨.time, (0 : ℚ)⟩), (⟨1, 0⟩, ⟨.load, Except.ok "pod"⟩)])
    ⟨.start templates, deployCalls templates 1 fun _ => 1⟩

theorem adoptedRun_isSome : adoptedRun.isSome := by decide

end DeployOnce

open DeployOnce in
/-- An id that consists of white space is recorded and read as no id: two deploys are answered with
an id, and two calls return different ones. -/
theorem blank_id_deployed_twice :
    ∃ s, Pool.Reaches (fleet fun _ => True)
        ⟨.start templates, deployCalls templates 1 fun _ => 1⟩ s ∧
      s.world.deployed = ["pod", " "] ∧ s.tasks ⟨0, 0⟩ = .ret (.ok " ") ∧
      s.tasks ⟨1, 0⟩ = .ret (.ok "pod") := by
  refine ⟨blankIdRun.get blankIdRun_isSome,
    Pool.play_reaches Fleet.reply?_answer (Option.some_get _).symm, by decide, ?_, ?_⟩
  · rfl
  · rfl

open DeployOnce in
theorem deploy_once_adopted :
    (adoptedRun.get adoptedRun_isSome).world.deployed = ["pod"] := by
  have hs := @deploy_once templates (fun _ => rfl) "/tmp/speakr-runpod-active-pod-id" (by decide)
    (fun _ => rfl) 1 (fun _ => 1) _
    (Pool.play_reaches Fleet.reply?_answer (Option.some_get adoptedRun_isSome).symm)
  exact hs.2 ⟨1, 0⟩ "pod" rfl

end SpeakrRunpod
