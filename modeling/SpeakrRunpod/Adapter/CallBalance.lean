import Mathlib.Data.Finset.Card
import SpeakrRunpod.Adapter.Idle
import SpeakrRunpod.Core.Monitor

/-!
# What the calls leave behind

Any number of overlapping calls of `/asr`: the counter, the idle timer and the spooled bodies.  The
`try` of the handler is one operation here, and comes to whatever `answerRequest` may come to.

* `asrCall` — the handler, with the deletion of the spooled body.
* `Service` — the state; `callSystem` is the runtime in which the calls interleave.
* `Service.startRaises`, `Service.finishRaises`, `Service.unlinkRaises` — the three steps at which
  the bookkeeping itself may raise.
* `Tracked` — the invariant of a run; `tracked_step` is its step lemma.
* `balanced_iff` — once every call has ended, all is balanced exactly if none of these has happened.
-/

namespace SpeakrRunpod

open Coop

/-! ## The handler -/

inductive CallOp
  /-- `spool_request_body` -/
  | spool
  | requestStarted
  /-- the `try` with its `except` clauses -/
  | answer
  | requestFinished
  /-- `body_path.unlink(missing_ok=True)` -/
  | unlink
  deriving DecidableEq

def CallOp.Res : CallOp → Type
  | .spool => Unit
  | .answer => Except Exn Reply
  | .requestStarted | .requestFinished | .unlink => Except Exn Unit

abbrev callInterface : Interface := ⟨CallOp, CallOp.Res⟩

/-- The handler of one call. -/
abbrev Call (α : Type) := Async callInterface Exn α

namespace Call

def spool : Call Unit := Async.call (I := callInterface) .spool
def requestStarted : Call Unit := ExceptT.mk (Prog.call (I := callInterface) .requestStarted)
def answer : Call Reply := ExceptT.mk (Prog.call (I := callInterface) .answer)
def requestFinished : Call Unit := ExceptT.mk (Prog.call (I := callInterface) .requestFinished)
def unlink : Call Unit := ExceptT.mk (Prog.call (I := callInterface) .unlink)

end Call

/-- The `finally` of `asr`. -/
def finishCall : Call Unit := do
  Call.requestFinished
  Call.unlink

/-- `asr`. -/
def asrCall : Call Reply := do
  Call.spool
  Call.requestStarted
  Async.tryFinally Call.answer finishCall

/-! ## The state -/

/-- What the calls share.  The last three fields are the history of the run. -/
structure Service where
  store : ActivePodStore
  file : StateFile
  controller : Controller
  /-- the calls whose spooled body is on disk -/
  bodies : Finset ℕ
  /-- what deleting the body of a call raises -/
  bodyFault : ℕ → Option Exn
  /-- the calls between `request_started` and `request_finished` -/
  running : Finset ℕ
  /-- the calls whose bookkeeping has raised -/
  faults : List ℕ
  /-- the timers that the calls have scheduled when they ended, newest first -/
  endings : List (Option ℕ)

namespace Service

/-- `load_active_pod_id()`. -/
def load (w : Service) : Except Exn String := w.store.load w.file

/-- Forming the label of a log line raises. -/
def labelRaises (w : Service) : Bool :=
  match w.load with
  | .ok _ => false
  | .error _ => true

/-- A timer is pending, and forming the label raises. -/
def startRaises (w : Service) : Bool := w.controller.pending.isSome && w.labelRaises

def finishRaises (w : Service) : Bool := w.labelRaises

def unlinkRaises (w : Service) (i : ℕ) : Bool := (w.bodyFault i).isSome

/-- The call `i` has been found at fault. -/
def blame (w : Service) (i : ℕ) (raises : Bool) : List ℕ := if raises then i :: w.faults else w.faults

/-- The body of the call `i` has been spooled. -/
def spooled (w : Service) (i : ℕ) : Service := { w with bodies := insert i w.bodies }

/-- `request_started()` of the call `i`; a call in which it raises has ended. -/
def requestStarted (w : Service) (i : ℕ) : Except Exn Unit × Service :=
  let done := w.controller.requestStarted w.load
  (done.1, { w with
    controller := done.2
    running := if w.startRaises then w.running else insert i w.running
    faults := w.blame i w.startRaises
    endings := if w.startRaises then none :: w.endings else w.endings })

/-- `request_finished()` of the call `i`. -/
def requestFinished (w : Service) (i : ℕ) : Except Exn Unit × Service :=
  let done := w.controller.requestFinished w.load
  (done.1, { w with
    controller := done.2
    running := w.running.erase i
    faults := w.blame i w.finishRaises
    endings := (if w.finishRaises then none else some w.controller.created) :: w.endings })

/-- `body_path.unlink(missing_ok=True)` of the call `i`. -/
def unlink (w : Service) (i : ℕ) : Except Exn Unit × Service :=
  match w.bodyFault i with
  | some e => (.error e, { w with faults := w.blame i (w.unlinkRaises i) })
  | none => (.ok (), { w with bodies := w.bodies.erase i, faults := w.blame i (w.unlinkRaises i) })

/-- The synchronous operations. -/
def exec (i : ℕ) : (o : CallOp) → Service → Option (o.Res × Service)
  | .requestStarted, w => some (w.requestStarted i)
  | .requestFinished, w => some (w.requestFinished i)
  | .unlink, w => some (w.unlink i)
  | .spool, _ | .answer, _ => none

/-- What the rest of the process does: the pod store and its file change, timer tasks end or are
resumed after a cancellation, and the file system changes its mind. -/
inductive Env : Service → Service → Prop
  | state (w : Service) (store : ActivePodStore) (file : StateFile) :
      Env w { w with store, file }
  | timerEnds (w : Service) (n : ℕ) : Env w { w with controller := w.controller.finish n }
  | timerResumed (w : Service) (n : ℕ) : Env w { w with controller := w.controller.delivered n }
  | disk (w : Service) (bodyFault : ℕ → Option Exn) : Env w { w with bodyFault }

/-- What the waits of the call `i` are answered. -/
def answer (cfg : AdapterConfig) (i : ℕ) : (o : CallOp) → o.Res → Service → Service → Prop
  | .spool, _, w, w' => w' = w.spooled i
  | .answer, r, w, w' => w' = w ∧ ∃ rounds tr, (answerRequest cfg rounds).run.Runs tr r
  | _, _, _, _ => False

/-- The state in which the process starts. -/
def boot (store : ActivePodStore) (file : StateFile) : Service where
  store := store
  file := file
  controller := .new
  bodies := ∅
  bodyFault := fun _ => none
  running := ∅
  faults := []
  endings := []

end Service

/-- The calls of one adapter process. -/
def callSystem (cfg : AdapterConfig) : Runtime callInterface ℕ Service where
  exec := Service.exec
  issue _ _ w := w
  answer := Service.answer cfg
  exit _ w := w
  env := Service.Env

/-- The calls that run together. -/
abbrev Calls := Pool callInterface ℕ Service (Except Exn Reply)

/-- No call has begun. -/
def Calls.boot (store : ActivePodStore) (file : StateFile) : Calls :=
  ⟨.boot store file, fun _ => asrCall.run⟩

/-- Every call that has begun has ended. -/
def Calls.Ended (s : Calls) : Prop := ∀ i, s.tasks i = asrCall.run ∨ ∃ r, s.tasks i = .ret r

/-- **What is asked of the calls when they have ended**: the counter is back at zero, no body is left,
and the last call that ended has scheduled the idle timer. -/
structure Service.Balanced (w : Service) : Prop where
  counter : w.controller.activeRequests = 0
  bodies : w.bodies = ∅
  timer : ∀ t, w.endings.head? = some t → ∃ n, t = some n ∧ w.controller.idleStopTask = some n

/-! ## The two parts of a call -/

/-- The handler, once the body has been spooled. -/
def begunCall : Call Reply := do
  Call.requestStarted
  Async.tryFinally Call.answer finishCall

/-- A call that waits in its `try`. -/
def answering : Prog callInterface (Except Exn Reply) :=
  (Async.tryFinally Call.answer finishCall).run

/-- A call whose `try` has come to `r`. -/
def answeredCall (r : Except Exn Reply) : Prog callInterface (Except Exn Reply) :=
  (Async.tryFinally (ExceptT.mk (.ret r)) finishCall).run

/-- What `request_finished` and the deletion do together. -/
def Service.finished (w : Service) (i : ℕ) : Service :=
  if w.finishRaises then (w.requestFinished i).2 else ((w.requestFinished i).2.unlink i).2

section Parts

variable {cfg : AdapterConfig} {w : Service} {i : ℕ}

lemma labelRaises_iff : w.labelRaises = true ↔ ∃ e, w.load = .error e := by
  rw [Service.labelRaises]
  cases w.load <;> simp

lemma requestStarted_ok (h : w.startRaises = false) : (w.requestStarted i).1 = .ok () := by
  rw [Service.startRaises, Bool.and_eq_false_iff] at h
  show (if w.controller.pending.isSome then w.load.map fun _ => () else .ok ()) = Except.ok ()
  rcases h with h | h
  · rw [if_neg (by rw [h]; exact Bool.false_ne_true)]
  · rw [Service.labelRaises] at h
    cases hload : w.load with
    | ok p => split_ifs <;> rfl
    | error e =>
        rw [hload] at h
        cases h

lemma requestStarted_error (h : w.startRaises = true) : ∃ e, (w.requestStarted i).1 = .error e := by
  rw [Service.startRaises, Bool.and_eq_true, labelRaises_iff] at h
  obtain ⟨hpending, e, hload⟩ := h
  refine ⟨e, ?_⟩
  show (if w.controller.pending.isSome then w.load.map fun _ => () else .ok ()) = Except.error e
  rw [if_pos hpending, hload]
  rfl

lemma requestFinished_ok (h : w.finishRaises = false) : (w.requestFinished i).1 = .ok () := by
  rw [Service.finishRaises, Service.labelRaises] at h
  show (w.controller.requestFinished w.load).1 = _
  cases hload : w.load with
  | ok p => rfl
  | error e =>
      rw [hload] at h
      cases h

lemma requestFinished_error (h : w.finishRaises = true) :
    ∃ e, (w.requestFinished i).1 = .error e := by
  obtain ⟨e, hload⟩ := labelRaises_iff.mp h
  refine ⟨e, ?_⟩
  show (w.controller.requestFinished w.load).1 = _
  rw [hload]
  rfl

/-- The call goes on into its `try`. -/
lemma settle_begun_ok (h : w.startRaises = false) :
    (callSystem cfg).settle i begunCall.run w = (answering, (w.requestStarted i).2) := by
  have hexec : (callSystem cfg).exec i .requestStarted w = some (w.requestStarted i) := rfl
  show (callSystem cfg).settle i (.op .requestStarted _) w = _
  rw [Runtime.settle, hexec]
  dsimp only
  rw [requestStarted_ok h]
  rfl

/-- The call ends before its `try`. -/
lemma settle_begun_error (h : w.startRaises = true) : ∃ r,
    (callSystem cfg).settle i begunCall.run w = (.ret r, (w.requestStarted i).2) := by
  obtain ⟨e, he⟩ := requestStarted_error (i := i) h
  have hexec : (callSystem cfg).exec i .requestStarted w = some (w.requestStarted i) := rfl
  refine ⟨.error e, ?_⟩
  show (callSystem cfg).settle i (.op .requestStarted _) w = _
  rw [Runtime.settle, hexec]
  dsimp only
  rw [he]
  rfl

/-- The `finally`. -/
lemma settle_answered (r : Except Exn Reply) : ∃ r',
    (callSystem cfg).settle i (answeredCall r) w = (.ret r', w.finished i) := by
  have hexec : (callSystem cfg).exec i .requestFinished w = some (w.requestFinished i) := rfl
  rw [Service.finished]
  by_cases h : w.finishRaises
  · obtain ⟨e, he⟩ := requestFinished_error (i := i) h
    refine ⟨.error e, ?_⟩
    rw [if_pos h]
    show (callSystem cfg).settle i (.op .requestFinished _) w = _
    rw [Runtime.settle, hexec]
    dsimp only
    rw [he]
    rfl
  · have hunlink : (callSystem cfg).exec i .unlink (w.requestFinished i).2 =
        some ((w.requestFinished i).2.unlink i) := rfl
    rw [if_neg h]
    have hok := requestFinished_ok (i := i) (Bool.eq_false_iff.mpr h)
    have hsettle : (callSystem cfg).settle i (answeredCall r) w =
        (callSystem cfg).settle i (Async.tryFinally (ExceptT.mk (.ret r)) Call.unlink).run
          (w.requestFinished i).2 := by
      show (callSystem cfg).settle i (.op .requestFinished _) w = _
      rw [Runtime.settle, hexec]
      dsimp only
      rw [hok]
      rfl
    rw [hsettle]
    show ∃ r', (callSystem cfg).settle i (.op .unlink _) _ = _
    rw [Runtime.settle, hunlink]
    dsimp only
    cases ((w.requestFinished i).2.unlink i).1 with
    | ok u => exact ⟨r, rfl⟩
    | error e => exact ⟨.error e, rfl⟩

end Parts

/-! ## The invariant -/

/-- What holds of the state between any two steps.  A call whose bookkeeping has raised leaves its body
behind; while none has, the counter is the number of the running calls. -/
structure Service.Accounted (w : Service) : Prop where
  counter : w.faults = [] → w.controller.activeRequests = w.running.card
  bodies : ∀ i, i ∈ w.bodies ↔ i ∈ w.running ∨ i ∈ w.faults
  timer : w.faults = [] →
    ∀ t, w.endings.head? = some t → ∃ n, t = some n ∧ w.controller.idleStopTask = some n

/-- Where a call is. -/
inductive Phase (w : Service) (i : ℕ) : Prog callInterface (Except Exn Reply) → Prop
  | unborn (hrunning : i ∉ w.running) (hfaults : i ∉ w.faults) : Phase w i asrCall.run
  | answering (hrunning : i ∈ w.running) (hfaults : i ∉ w.faults) : Phase w i answering
  | ended (r : Except Exn Reply) (hrunning : i ∉ w.running) : Phase w i (.ret r)

/-- The invariant of the pool. -/
structure Tracked (s : Calls) : Prop where
  accounted : s.world.Accounted
  phase : ∀ i, Phase s.world i (s.tasks i)

section Invariant

variable {cfg : AdapterConfig} {w w' : Service} {i j : ℕ}

/-- A call is where it was, if what concerns it has not changed. -/
lemma Phase.frame {p : Prog callInterface (Except Exn Reply)} (h : Phase w j p)
    (hrunning : j ∈ w'.running ↔ j ∈ w.running) (hfaults : j ∈ w'.faults ↔ j ∈ w.faults) :
    Phase w' j p := by
  cases h with
  | unborn h₁ h₂ => exact .unborn (mt hrunning.mp h₁) (mt hfaults.mp h₂)
  | answering h₁ h₂ => exact .answering (hrunning.mpr h₁) (mt hfaults.mp h₂)
  | ended r h₁ => exact .ended r (mt hrunning.mp h₁)

lemma blame_eq_nil {raises : Bool} : w.blame i raises = [] ↔ raises = false ∧ w.faults = [] := by
  rw [Service.blame]
  cases raises <;> simp

lemma mem_blame {raises : Bool} : j ∈ w.blame i raises ↔ raises = true ∧ j = i ∨ j ∈ w.faults := by
  rw [Service.blame]
  cases raises <;> simp

/-- A call begins. -/
lemma accounted_begun (h : w.Accounted) (hrunning : i ∉ w.running) :
    ((w.spooled i).requestStarted i).2.Accounted := by
  have hcount : ((w.spooled i).requestStarted i).2.controller.activeRequests =
      w.controller.activeRequests + 1 := Controller.requestStarted_activeRequests _ w.load
  have htask : ((w.spooled i).requestStarted i).2.controller.idleStopTask =
      w.controller.idleStopTask := Controller.cancelPending_idleStopTask _
  refine ⟨fun hfaults => ?_, fun j => ?_, fun hfaults => ?_⟩
  · obtain ⟨hraises, hnone⟩ := blame_eq_nil.mp hfaults
    rw [hcount, h.counter hnone]
    show _ = (((if (w.spooled i).startRaises then w.running else insert i w.running) : Finset ℕ).card : ℤ)
    rw [hraises, if_neg Bool.false_ne_true, Finset.card_insert_of_notMem hrunning]
    rfl
  · show j ∈ insert i w.bodies ↔
      j ∈ (if (w.spooled i).startRaises then w.running else insert i w.running : Finset ℕ) ∨
        j ∈ w.blame i (w.spooled i).startRaises
    rw [Finset.mem_insert, mem_blame, h.bodies]
    cases (w.spooled i).startRaises <;> simp <;> tauto
  · obtain ⟨hraises, hnone⟩ := blame_eq_nil.mp hfaults
    rw [htask]
    show ∀ t, (if (w.spooled i).startRaises then none :: w.endings else w.endings).head? = some t → _
    rw [hraises, if_neg Bool.false_ne_true]
    exact h.timer hnone

/-- Deleting a body changes neither the controller nor the history of the timers. -/
lemma unlink_frame : (w.unlink i).2.controller = w.controller ∧
    (w.unlink i).2.running = w.running ∧ (w.unlink i).2.endings = w.endings := by
  rw [Service.unlink]
  cases w.bodyFault i <;> exact ⟨rfl, rfl, rfl⟩

lemma finished_controller :
    (w.finished i).controller = (w.controller.requestFinished w.load).2 := by
  rw [Service.finished]
  split_ifs
  · rfl
  · exact unlink_frame.1

lemma finished_running : (w.finished i).running = w.running.erase i := by
  rw [Service.finished]
  split_ifs
  · rfl
  · exact unlink_frame.2.1

lemma finished_endings : (w.finished i).endings =
    (if w.finishRaises then none else some w.controller.created) :: w.endings := by
  rw [Service.finished]
  by_cases h : w.finishRaises
  · rw [if_pos h]
    rfl
  · rw [if_neg h, unlink_frame.2.2]
    rfl

/-- The body is left behind exactly by a call that is at fault. -/
lemma finished_bodies : (w.finished i).bodies =
    (if w.finishRaises || w.unlinkRaises i then w.bodies else w.bodies.erase i) ∧
    (w.finished i).faults = w.blame i (w.finishRaises || w.unlinkRaises i) := by
  rw [Service.finished]
  cases hfinish : w.finishRaises with
  | true =>
      refine ⟨rfl, ?_⟩
      show w.blame i w.finishRaises = _
      rw [hfinish]
      rfl
  | false =>
      have hfaults : (w.requestFinished i).2.faults = w.faults := by
        show w.blame i w.finishRaises = _
        rw [hfinish]
        rfl
      rw [if_neg Bool.false_ne_true, Bool.false_or, Service.unlink, Service.unlinkRaises,
        Service.unlinkRaises, Service.blame, hfaults, Service.blame]
      have hfault : (w.requestFinished i).2.bodyFault = w.bodyFault := rfl
      rw [hfault]
      cases w.bodyFault i with
      | none => exact ⟨rfl, rfl⟩
      | some e => exact ⟨rfl, rfl⟩

/-- A call ends. -/
lemma accounted_finished (h : w.Accounted) (hrunning : i ∈ w.running) (hfaults : i ∉ w.faults) :
    (w.finished i).Accounted := by
  obtain ⟨hbodies, hblame⟩ := finished_bodies (w := w) (i := i)
  refine ⟨fun hnone => ?_, fun j => ?_, fun hnone => ?_⟩
  · rw [hblame, blame_eq_nil] at hnone
    rw [finished_controller, Controller.requestFinished_activeRequests, h.counter hnone.2,
      finished_running, Finset.card_erase_of_mem hrunning]
    have hpositive : 0 < w.running.card := Finset.card_pos.mpr ⟨i, hrunning⟩
    omega
  · rw [hbodies, hblame, finished_running, mem_blame, Finset.mem_erase]
    cases w.finishRaises || w.unlinkRaises i with
    | true =>
        rw [if_pos rfl, h.bodies]
        by_cases hj : j = i
        · simp [hj, hrunning]
        · simp [hj]
    | false =>
        rw [if_neg Bool.false_ne_true, Finset.mem_erase, h.bodies]
        by_cases hj : j = i
        · simp [hj, hfaults]
        · simp [hj]
  · rw [hblame, blame_eq_nil, Bool.or_eq_false_iff] at hnone
    obtain ⟨⟨hfinish, -⟩, -⟩ := hnone
    rw [finished_endings, hfinish, if_neg Bool.false_ne_true, finished_controller]
    rintro t ht
    refine ⟨w.controller.created, (Option.some.inj ht).symm, ?_⟩
    rw [Service.finishRaises, Service.labelRaises] at hfinish
    cases hload : w.load with
    | ok p =>
        show some (Controller.cancelPending _).created = _
        rw [Controller.cancelPending_created]
    | error e =>
        rw [hload] at hfinish
        cases hfinish

/-! ### Steps -/

/-- What the rest of the process does is of no account. -/
lemma tracked_env {s : Calls} (h : Tracked s) (henv : Service.Env s.world w') :
    Tracked { s with world := w' } := by
  obtain ⟨⟨hcounter, hbodies, htimer⟩, hphase⟩ := h
  cases henv with
  | state => exact ⟨⟨hcounter, hbodies, htimer⟩, fun i => (hphase i).frame Iff.rfl Iff.rfl⟩
  | timerEnds => exact ⟨⟨hcounter, hbodies, htimer⟩, fun i => (hphase i).frame Iff.rfl Iff.rfl⟩
  | timerResumed => exact ⟨⟨hcounter, hbodies, htimer⟩, fun i => (hphase i).frame Iff.rfl Iff.rfl⟩
  | disk => exact ⟨⟨hcounter, hbodies, htimer⟩, fun i => (hphase i).frame Iff.rfl Iff.rfl⟩

/-- A call is resumed and runs up to its next wait; what concerns the others has not changed. -/
lemma tracked_resume {s : Calls} {p p' : Prog callInterface (Except Exn Reply)} {v : Service}
    (h : Tracked s) (hsettle : (callSystem cfg).settle i p w' = (p', v)) (haccounted : v.Accounted)
    (hphase : Phase v i p') (hrunning : ∀ j, j ≠ i → (j ∈ v.running ↔ j ∈ s.world.running))
    (hfaults : ∀ j, j ≠ i → (j ∈ v.faults ↔ j ∈ s.world.faults)) :
    Tracked (s.resume (callSystem cfg) i p w') := by
  rw [Pool.resume, hsettle]
  refine ⟨haccounted, fun j => ?_⟩
  by_cases hj : j = i
  · subst hj
    show Phase v j (Function.update s.tasks j p' j)
    rwa [Function.update_self]
  · show Phase v j (Function.update s.tasks i p' j)
    rw [Function.update_of_ne hj]
    exact (h.phase j).frame (hrunning j hj) (hfaults j hj)

/-- A call begins: `request_started` returns, or the call is at fault and has ended. -/
lemma tracked_begun {s : Calls} (h : Tracked s) (hrunning : i ∉ s.world.running)
    (hfaults : i ∉ s.world.faults) :
    Tracked (s.resume (callSystem cfg) i begunCall.run (s.world.spooled i)) := by
  have haccounted := accounted_begun h.accounted hrunning
  have hothers : ∀ j, j ≠ i →
      (j ∈ ((s.world.spooled i).requestStarted i).2.faults ↔ j ∈ s.world.faults) := by
    intro j hj
    show j ∈ (s.world.spooled i).blame i (s.world.spooled i).startRaises ↔ _
    rw [mem_blame]
    exact ⟨fun h => h.resolve_left fun h => hj h.2, .inr⟩
  cases hraises : (s.world.spooled i).startRaises with
  | true =>
      obtain ⟨r, hsettle⟩ : ∃ r, (callSystem cfg).settle i begunCall.run (s.world.spooled i) =
          (.ret r, ((s.world.spooled i).requestStarted i).2) := settle_begun_error hraises
      have hsame : ((s.world.spooled i).requestStarted i).2.running = s.world.running :=
        if_pos hraises
      refine tracked_resume h hsettle haccounted (.ended r ?_) (fun j _ => by rw [hsame]) hothers
      rwa [hsame]
  | false =>
      have hinsert : ((s.world.spooled i).requestStarted i).2.running =
          insert i s.world.running := if_neg (by rw [hraises]; exact Bool.false_ne_true)
      refine tracked_resume h (settle_begun_ok hraises) haccounted (.answering ?_ ?_) ?_ hothers
      · rw [hinsert]
        exact Finset.mem_insert_self i _
      · show i ∉ (s.world.spooled i).blame i (s.world.spooled i).startRaises
        rw [hraises]
        exact hfaults
      · intro j hj
        rw [hinsert, Finset.mem_insert]
        exact ⟨fun h => h.resolve_left hj, .inr⟩

/-- A call ends. -/
lemma tracked_finished {s : Calls} (h : Tracked s) (r : Except Exn Reply)
    (hrunning : i ∈ s.world.running) (hfaults : i ∉ s.world.faults) :
    Tracked (s.resume (callSystem cfg) i (answeredCall r) s.world) := by
  obtain ⟨r', hsettle⟩ : ∃ r', (callSystem cfg).settle i (answeredCall r) s.world =
      (.ret r', s.world.finished i) := settle_answered r
  refine tracked_resume h hsettle (accounted_finished h.accounted hrunning hfaults)
    (.ended r' ?_) (fun j hj => ?_) fun j hj => ?_
  · rw [finished_running]
    exact Finset.notMem_erase i _
  · rw [finished_running, Finset.mem_erase]
    exact ⟨fun h => h.2, fun h => ⟨hj, h⟩⟩
  · rw [finished_bodies.2, mem_blame]
    exact ⟨fun h => h.resolve_left fun h => hj h.2, .inr⟩

/-- **The step lemma.** -/
theorem tracked_step {s s' : Calls} (h : Tracked s) (hstep : Pool.Step (callSystem cfg) s s') :
    Tracked s' := by
  cases hstep with
  | env henv => exact tracked_env h henv
  | @task i o k r w hi hanswer =>
      have hphase := h.phase i
      rw [hi] at hphase
      generalize hp : (.op o k : Prog callInterface (Except Exn Reply)) = p at hphase
      cases hphase with
      | unborn hrunning hfaults =>
          cases hp
          obtain rfl : w = s.world.spooled i := hanswer
          exact tracked_begun h hrunning hfaults
      | answering hrunning hfaults =>
          cases hp
          obtain ⟨rfl, -⟩ : w = s.world ∧ _ := hanswer
          exact @tracked_finished cfg i s h r hrunning hfaults
      | ended r hrunning => cases hp

/-- **Every state of every run.** -/
theorem tracked_reaches {store : ActivePodStore} {file : StateFile} {s : Calls}
    (h : Pool.Reaches (callSystem cfg) (Calls.boot store file) s) : Tracked s := by
  induction h with
  | refl =>
      refine ⟨⟨fun _ => rfl, fun i => ?_, fun _ t ht => by cases ht⟩, fun i => ?_⟩
      · exact ⟨fun h => absurd h (Finset.notMem_empty i), fun h => h.elim
          (fun h => absurd h (Finset.notMem_empty i)) fun h => absurd h List.not_mem_nil⟩
      · exact .unborn (Finset.notMem_empty i) List.not_mem_nil
  | tail _ hstep ih => exact tracked_step ih hstep

end Invariant

/-- **When the calls leave nothing behind.**  In every run, once every call that has begun has ended,
the counter, the timer and the bodies are as they should be exactly if no label raised in
`request_started` or `request_finished` and no body refused to be deleted. -/
theorem balanced_iff (cfg : AdapterConfig) (store : ActivePodStore) (file : StateFile) (s : Calls)
    (h : Pool.Reaches (callSystem cfg) (Calls.boot store file) s) (hended : s.Ended) :
    s.world.Balanced ↔ s.world.faults = [] := by
  obtain ⟨⟨hcounter, hbodies, htimer⟩, hphase⟩ := tracked_reaches h
  have hrunning : s.world.running = ∅ := by
    refine Finset.eq_empty_of_forall_notMem fun i hi => ?_
    have hi' := hphase i
    rcases hended i with hp | ⟨r, hp⟩
    · rw [hp] at hi'
      generalize hq : asrCall.run = q at hi'
      cases hi' with
      | unborn hrunning _ => exact hrunning hi
      | answering _ _ => cases hq
      | ended r hrunning => exact hrunning hi
    · rw [hp] at hi'
      generalize hq : (Prog.ret r : Prog callInterface (Except Exn Reply)) = q at hi'
      cases hi' with
      | unborn hrunning _ => exact hrunning hi
      | answering _ _ => cases hq
      | ended r hrunning => exact hrunning hi
  constructor
  · intro hbalanced
    refine List.eq_nil_iff_forall_not_mem.mpr fun i hi => ?_
    have hbody := (hbodies i).mpr (.inr hi)
    rw [hbalanced.bodies] at hbody
    exact Finset.notMem_empty i hbody
  · intro hnone
    refine ⟨?_, ?_, htimer hnone⟩
    · rw [hcounter hnone, hrunning]
      rfl
    · refine Finset.eq_empty_of_forall_notMem fun i hi => ?_
      rcases (hbodies i).mp hi with hi | hi
      · rw [hrunning] at hi
        exact Finset.notMem_empty i hi
      · rw [hnone] at hi
        exact List.not_mem_nil hi

/-! ## A label that cannot be formed -/

/-- A call that was cancelled while it waited for the manager's lock. -/
lemma cancelled_answer :
    ∃ rounds tr, (answerRequest .template rounds).run.Runs tr (.error .cancelledError) :=
  ⟨1, [⟨.load, Except.ok ""⟩, ⟨.time, (0 : ℚ)⟩, ⟨.acquireLock, Except.error .cancelledError⟩],
    Prog.runs_of_follow (by decide)⟩

/-- No pod is active, and the state file is not there. -/
def noPodCalls : Calls := .boot (.new "" "/data/pod-id") ⟨.absent, none, false⟩

/-- The first call waits in its `try`. -/
def firstCalls : Calls :=
  noPodCalls.resume (callSystem .template) 0 begunCall.run (noPodCalls.world.spooled 0)

/-- It has been cancelled, and its timer is pending. -/
def cancelledCalls : Calls :=
  firstCalls.resume (callSystem .template) 0 (answeredCall (.error .cancelledError))
    firstCalls.world

/-- Something else has been written to the state file. -/
def garbledCalls : Calls :=
  { cancelledCalls with
    world := { cancelledCalls.world with
      file := ⟨.unreadable (.unicodeError "invalid start byte"), none, false⟩ } }

/-- A second call has begun, and has ended at once. -/
def strandedCalls : Calls :=
  garbledCalls.resume (callSystem .template) 1 begunCall.run (garbledCalls.world.spooled 1)

lemma stranded_reached : Pool.Reaches (callSystem .template) noPodCalls strandedCalls := by
  have hfirst : Pool.Step (callSystem .template) noPodCalls firstCalls :=
    Pool.Step.task (s := noPodCalls) (o := .spool) (k := fun _ => begunCall.run) 0 () rfl rfl
  have hcancelled : Pool.Step (callSystem .template) firstCalls cancelledCalls :=
    Pool.Step.task (s := firstCalls) (o := .answer) (k := answeredCall) 0 (.error .cancelledError)
      rfl
      ⟨rfl, cancelled_answer⟩
  have hgarbled : Pool.Step (callSystem .template) cancelledCalls garbledCalls :=
    .env (.state _ _ _)
  have hstranded : Pool.Step (callSystem .template) garbledCalls strandedCalls :=
    Pool.Step.task (s := garbledCalls) (o := .spool) (k := fun _ => begunCall.run) 1 () rfl rfl
  exact (((Relation.ReflTransGen.single hfirst).tail hcancelled).tail hgarbled).tail hstranded

lemma stranded_ended : strandedCalls.Ended
  | 0 => .inr ⟨_, rfl⟩
  | 1 => .inr ⟨_, rfl⟩
  | _ + 2 => .inl rfl

/-- In this run a label has raised, and not all is balanced. -/
theorem balanced_iff_stranded :
    strandedCalls.world.Balanced ↔ strandedCalls.world.faults = [] :=
  balanced_iff .template _ _ strandedCalls stranded_reached stranded_ended

/-- **One call that fails early keeps the counter up for good**: both calls have ended, and the counter
is 1. -/
theorem failed_label_strands_counter : ¬ ∀ s : Calls,
    Pool.Reaches (callSystem .template) noPodCalls s → s.Ended → s.world.Balanced := by
  intro h
  have hbalanced := h strandedCalls stranded_reached stranded_ended
  have hcounter : strandedCalls.world.controller.activeRequests = 1 := rfl
  rw [hbalanced.counter] at hcounter
  cases hcounter

end SpeakrRunpod
