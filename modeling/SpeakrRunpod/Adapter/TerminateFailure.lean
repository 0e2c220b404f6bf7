import SpeakrRunpod.Adapter.ManagerLogic

/-!
# A terminate that fails

`_terminate` clears the id in a `finally` clause, so a `podTerminate` that fails drops the id of a
pod that may still be billed.

* `Caller` — the three places that call `_terminate`, each run by itself.
* `failed_terminate_forgets` — a release whose terminate fails leaves no id on record.
* `failed_terminate_kept_iff` — the id survives exactly where the state file cannot be removed.
-/

namespace SpeakrRunpod

open Coop

/-- Nothing is cancelled, and every `podTerminate` fails other than by reporting not found. -/
def failing : Policy := fun _ o r _ =>
  o.isCancelled r = false ∧
    match o, r with
    | .graphql (.podTerminate p), r =>
        match (GraphqlCall.podTerminate p).outcome r with
        | .ok _ => False
        | .error e => e.isNotFound = false
    | _, _ => True

instance (i : TaskId) (o : Op) (r : o.Res) (w : World) : Decidable (failing i o r w) := by
  revert r
  apply @Op.casesOn (fun o => (r : o.Res) → Decidable (failing i o r w)) o
  case graphql =>
    intro call
    apply @GraphqlCall.casesOn
      (fun call => (r : (Op.graphql call).Res) → Decidable (failing i (.graphql call) r w)) call
    case podTerminate =>
      intro p r
      dsimp only [failing]
      exact match (GraphqlCall.podTerminate p).outcome r with
        | .ok _ => inferInstance
        | .error _ => inferInstance
    all_goals
      intros
      exact inferInstanceAs (Decidable (_ ∧ True))
  all_goals
    intros
    exact inferInstanceAs (Decidable (_ ∧ True))

/-! ## The callers -/

/-- The callers of `_terminate`, with their further arguments. -/
inductive Caller
  | idleRelease
  | inactiveReplacement (rounds : ℕ) (deadline : ℚ) (pod : Pod)
  | stuckInit (rounds : ℕ) (deadline : ℚ)

namespace Caller

def task : Caller → TaskId
  | .idleRelease => .idle 0
  | .inactiveReplacement _ _ _ => .request 0
  | .stuckInit _ _ => .request 0

/-- The caller, for the pod `podId`. -/
def program (cfg : AdapterConfig) (podId : String) : Caller → Adapter Unit
  | .idleRelease => releaseIdlePod cfg
  | .inactiveReplacement rounds deadline pod => do
      let _ ← handlePodWithoutMapping cfg rounds deadline podId pod false
  | .stuckInit rounds deadline => do
      let _ ← waitUntilReady cfg rounds deadline podId

/-- The caller by itself. -/
def launch (cfg : AdapterConfig) (podId : String) (w : World) (c : Caller) :
    Pool adapterInterface TaskId World (Except Exn Unit) :=
  .launch (system failing) c.task (c.program cfg podId).run (.ok ()) w

end Caller

namespace TerminateFailure

/-! ## The assertions -/

/-- No terminate has failed. -/
def NoneFailed (w : World) : Prop :=
  w.store.configuredPodId = "" ∧ ∀ p st f, .terminateFailed p st f ∉ w.log

/-- The pod on record is `p`, and no terminate has failed. -/
structure Uses (p : String) (w : World) : Prop where
  noneFailed : NoneFailed w
  nonempty : p ≠ ""
  load : w.load = .ok p

/-- Where a terminate failed, the store was cleared of the id it held. -/
def Cleared (w : World) : Prop :=
  ∀ p st f, .terminateFailed p st f ∈ w.log →
    st.configuredPodId = "" ∧ p ≠ "" ∧ st.load f = .ok p ∧ (w.store, w.file) = st.clear f (some p)

lemma NoneFailed.cleared {w : World} (h : NoneFailed w) : Cleared w :=
  fun p st f hf => absurd hf (h.2 p st f)

/-- What the caller may rely on: nobody else uses the store. -/
def Rely (caller i : TaskId) (w w' : World) : Prop :=
  i = caller → w'.store = w.store ∧ w'.file = w.file ∧ w'.log = w.log

lemma env_same {w w' : World} (h : World.Env w w') :
    w'.store = w.store ∧ w'.file = w.file ∧ w'.log = w.log := by
  cases h <;> exact ⟨rfl, rfl, rfl⟩

/-- The contract of a caller that runs by itself. -/
def contract (caller : TaskId) : Contract (system failing) where
  inv := Cleared
  rely := Rely caller
  rely_refl _ _ _ := ⟨rfl, rfl, rfl⟩
  rely_trans h₁ h₂ hi :=
    have h₁ := h₁ hi
    have h₂ := h₂ hi
    ⟨h₂.1.trans h₁.1, h₂.2.1.trans h₁.2.1, h₂.2.2.trans h₁.2.2⟩
  env_inv h hw := by
    obtain ⟨hs, hf, hl⟩ := env_same h
    rw [Cleared, hs, hf, hl]
    exact hw
  env_rely h _ _ _ := env_same h

variable {caller : TaskId}

/-- Nobody else relies on anything. -/
lemma guar (w w' : World) : (contract caller).guar caller w w' := fun _ hj hi => absurd hi hj

lemma noneFailed_stays : (contract caller).Stays caller NoneFailed :=
  ⟨NoneFailed.cleared, fun h hr _ => by
    obtain ⟨hs, -, hl⟩ := hr rfl
    rw [NoneFailed, hs, hl]
    exact h⟩

lemma uses_stays (p : String) : (contract caller).Stays caller (Uses p) :=
  ⟨fun h => h.noneFailed.cleared, fun h hr hinv => by
    obtain ⟨hs, hf, -⟩ := hr rfl
    refine ⟨noneFailed_stays.rely h.noneFailed hr hinv, h.nonempty, ?_⟩
    rw [World.load, hs, hf]
    exact h.load⟩

lemma cleared_stays : (contract caller).Stays caller Cleared := ⟨id, fun _ _ hinv => hinv⟩

/-! ## The views -/

/-- A failed terminate clears the id it was about. -/
lemma cleared_of_failed {p : String} {w : World} (h : Uses p w) :
    Cleared ((w.terminateFailed p).clear p) := by
  intro q st f hf
  rcases List.mem_cons.mp hf with hf | hf
  · cases hf
    exact ⟨h.noneFailed.1, h.nonempty, h.load, rfl⟩
  · exact absurd hf (h.noneFailed.2 q st f)

lemma noneFailed_clear {w : World} (h : NoneFailed w) (p : String) : NoneFailed (w.clear p) :=
  ⟨by simpa [World.clear] using h.1, h.2⟩

lemma noneFailed_deploySent {w : World} (h : NoneFailed w) : NoneFailed w.deploySent :=
  ⟨h.1, by simpa [World.deploySent] using h.2⟩

lemma noneFailed_deployed {w : World} (h : NoneFailed w) (q : String) :
    NoneFailed (w.deployed q) :=
  ⟨h.1, by simpa [World.deployed] using h.2⟩

lemma noneFailed_dropped {w : World} (h : NoneFailed w) (i : TaskId) (p : String) :
    NoneFailed (w.noted i (.dropped p)) :=
  ⟨h.1, by simpa [World.noted] using h.2⟩

lemma noneFailed_replaced {w : World} (h : NoneFailed w) (i : TaskId) (p q : String) :
    NoneFailed (w.noted i (.replaced p q)) :=
  ⟨h.1, by simpa [World.noted] using h.2⟩

/-- The view of a caller that is a request. -/
def managerView (cfg : AdapterConfig) : ManagerView cfg (contract (.request 0)) 0 where
  seek _ := NoneFailed
  fresh _ q := Uses q
  held p := Uses p
  leave := Cleared
  seek_stays _ := noneFailed_stays
  fresh_stays _ := uses_stays
  held_stays := uses_stays
  leave_stays := cleared_stays
  seek_leave := NoneFailed.cleared
  held_leave h := h.noneFailed.cleared
  fresh_seek h := h.noneFailed
  adopt := id
  found h hload hq := ⟨h, hq, hload⟩
  sends h _ := ⟨guar _ _, (noneFailed_deploySent h).cleared⟩
  deployed {d w w₁ r} h _ hrely hinv _ := by
    have hw₁ : NoneFailed w₁ := noneFailed_stays.rely (noneFailed_deploySent h) hrely hinv
    refine ⟨guar _ _, ?_⟩
    cases hr : deployOutcome (deployInput cfg) r with
    | error e =>
        rw [w₁.graphqlAnswered_deploy_error hr]
        exact hw₁
    | ok q =>
        rw [w₁.graphqlAnswered_deploy_ok hr]
        have hd := noneFailed_deployed hw₁ q
        refine ⟨guar _ _, guar _ _, ⟨?_, hd.2⟩, deployOutcome_ne_empty hr, ?_⟩
        · simpa [World.openState, World.writeState] using hd.1
        · exact ActivePodStore.store_load hd.1 (deployOutcome_ne_empty hr) _
  replaces {p q w} h := ⟨guar _ _, noneFailed_replaced h.noneFailed _ p q, h.nonempty,
    h.load⟩
  missing {p w r e} h _ _ _ := by
    have hw : NoneFailed (w.reportedMissing p) := h.noneFailed
    have hc := noneFailed_clear hw p
    exact ⟨guar _ _, hw.cleared, guar _ _, hc.cleared, guar _ _, noneFailed_dropped hc _ p⟩
  terminated {p w r} h hp := by
    refine ⟨guar _ _, ?_⟩
    have hreply := hp.2
    cases hx : (GraphqlCall.podTerminate p).outcome r with
    | ok _ => simp [hx] at hreply
    | error e =>
        simp only [hx] at hreply
        simp only [World.terminateAnswered, hreply]
        exact ⟨guar _ _, cleared_of_failed h⟩
  serves {p url w} h := ⟨guar _ _, h.noneFailed.cleared⟩

/-- The view of a release. -/
def releaseView : ReleaseView (contract (.idle 0)) 0 where
  enter := NoneFailed
  watch := Cleared
  target p := Uses p
  watch_stays := cleared_stays
  target_stays := uses_stays
  enter_watch := NoneFailed.cleared
  target_watch h := h.noneFailed.cleared
  found h hload hp := ⟨h, hp, hload⟩
  delivered h := ⟨guar _ _, h.noneFailed, h.nonempty, h.load⟩
  polled {p w r} h _ := by
    rcases w.graphqlAnswered_pod p r with he | he <;> rw [he]
    · exact ⟨guar _ _, h⟩
    · exact ⟨guar _ _, h.noneFailed, h.nonempty, h.load⟩
  terminated {p w r} h hp _ := by
    refine ⟨guar _ _, guar _ _, ?_⟩
    have hreply := hp.2
    simp only [World.graphqlAnswered]
    cases hx : (GraphqlCall.podTerminate p).outcome r with
    | ok _ => simp [hx] at hreply
    | error e =>
        simp only [hx] at hreply
        simp only [World.terminateAnswered, hreply]
        exact cleared_of_failed h
  interrupted _ hp hr _ := by
    have hnot := hp.1
    simp only [Op.isCancelled, hr] at hnot
    cases hnot

/-- What a failed terminate leaves behind, whoever called it. -/
theorem caller_spec {cfg : AdapterConfig} (hkey : cfg.runpodApiKey ≠ "") {podId : String}
    {w : World} (h : Uses podId w) (c : Caller) :
    (contract c.task).wpE c.task (c.program cfg podId) (fun _ => Cleared) (fun _ => Cleared) w := by
  cases c with
  | idleRelease => exact releaseView.releaseIdlePod_spec h.noneFailed
  | inactiveReplacement rounds deadline pod =>
      refine (contract _).wpE_bind.mpr ((contract _).wpE_mono
        ((managerView cfg).handlePodWithoutMapping_spec hkey h) (fun _ w₁ h₁ => ?_) fun _ _ => id)
      exact h₁.noneFailed.cleared
  | stuckInit rounds deadline =>
      exact (contract _).wpE_bind.mpr ((contract _).wpE_mono
        ((managerView cfg).waitUntilReady_spec hkey h) (fun _ _ h₁ => h₁) fun _ _ => id)

theorem reaches_cleared {cfg : AdapterConfig} (hkey : cfg.runpodApiKey ≠ "") {podId : String}
    {w : World} (h : Uses podId w) {c : Caller}
    {s : Pool adapterInterface TaskId World (Except Exn Unit)}
    (hs : Pool.Reaches (system failing) (c.launch cfg podId w) s) : Cleared s.world := by
  refine (contract c.task).sound_launch ((contract c.task).wp_mono (fun r w' hr => ?_)
    (caller_spec hkey h c)) hs
  have hcleared : Cleared w' := by cases r <;> exact hr
  refine ⟨guar _ _, ?_, trivial⟩
  cases c <;> exact hcleared

/-- The log drain of a release fails, and so does its terminate. -/
def failedRelease : List (TaskId × Prog.Exchange adapterInterface) :=
  [(.idle 0, ⟨.graphql (.pod "old"), serverError⟩),
    (.idle 0, ⟨.graphql (.podTerminate "old"), serverError⟩)]

def failedReleaseRun (f : StateFile) :
    Option (Pool adapterInterface TaskId World (Except Exn Unit)) :=
  Pool.play (system failing) (World.reply? failing) failedRelease
    (Caller.idleRelease.launch .template "old" (.boot .template f {"old"}))

/-- A state file that can be removed. -/
def removable : StateFile := ⟨.text "old", none, false⟩

/-- A state file that cannot be removed. -/
def stuck : StateFile := ⟨.text "old", none, true⟩

theorem removableRun_isSome : (failedReleaseRun removable).isSome := by decide

theorem stuckRun_isSome : (failedReleaseRun stuck).isSome := by decide

end TerminateFailure

open TerminateFailure in
/-- **A failed terminate forgets the pod.**  The release has ended, the pod still runs, and neither
the memory nor the file holds its id. -/
theorem failed_terminate_forgets :
    ∃ s, Pool.Reaches (system failing)
        (Caller.idleRelease.launch .template "old" (.boot .template removable {"old"})) s ∧
      s.tasks (.idle 0) = .ret (.ok ()) ∧ "old" ∈ s.world.live ∧ s.world.load = .ok "" ∧
      s.world.file.content = .absent := by
  refine ⟨(failedReleaseRun removable).get removableRun_isSome,
    Pool.play_reaches World.reply?_answer (Option.some_get _).symm, ?_, by decide⟩
  rfl

/-- **When the id survives.**  Whoever called `_terminate`, once it has failed the id that was on
record still is, in memory or file and in the file where it was, exactly where there is a state
file that holds it and that cannot be removed. -/
theorem failed_terminate_kept_iff {cfg : AdapterConfig} (hkey : cfg.runpodApiKey ≠ "") {w : World}
    (hpod : w.store.configuredPodId = "") {podId : String} (hid : podId ≠ "")
    (hload : w.load = .ok podId) (hlog : w.log = []) (c : Caller)
    {s : Pool adapterInterface TaskId World (Except Exn Unit)}
    (h : Pool.Reaches (system failing) (c.launch cfg podId w) s) {p : String}
    {st : ActivePodStore} {f : StateFile} (hf : .terminateFailed p st f ∈ s.world.log) :
    st.load f = .ok p ∧
      ((s.world.load = .ok p ∧ (f.Holds p → s.world.file.Holds p)) ↔
        st.path ≠ "" ∧ f.unlinkFault ∧ f.Holds p) := by
  have huses : TerminateFailure.Uses podId w := ⟨⟨hpod, by simp [hlog]⟩, hid, hload⟩
  obtain ⟨hconf, hp, hrecord, hnow⟩ :=
    TerminateFailure.reaches_cleared hkey huses h p st f hf
  rw [ActivePodStore.clear_of_load hconf hrecord] at hnow
  have hstore : s.world.store = (st.cleared f).1 := congrArg Prod.fst hnow
  have hfile : s.world.file = (st.cleared f).2 := congrArg Prod.snd hnow
  rw [World.load, hstore, hfile, ActivePodStore.cleared_load_iff hp]
  refine ⟨hrecord, fun hk => hk.1, fun hk => ⟨hk, fun hholds => ?_⟩⟩
  rw [ActivePodStore.cleared, if_pos (.inr hk.2.1)]
  exact hholds

open TerminateFailure in
theorem failed_terminate_kept_stuck :
    ((failedReleaseRun stuck).get stuckRun_isSome).world.load = .ok "old" := by
  have hmem : .terminateFailed "old" (.new "" "/tmp/speakr-runpod-active-pod-id") stuck ∈
      ((failedReleaseRun stuck).get stuckRun_isSome).world.log := by decide
  exact ((@failed_terminate_kept_iff .template (by decide) (.boot .template stuck {"old"}) rfl "old"
    (by decide) (by decide) rfl .idleRelease _
    (Pool.play_reaches World.reply?_answer (Option.some_get _).symm) _ _ _ hmem).2.mpr
      (by decide)).1

end SpeakrRunpod
