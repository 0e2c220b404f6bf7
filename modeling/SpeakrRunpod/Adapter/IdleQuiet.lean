import Mathlib.Algebra.Order.Ring.Rat
import SpeakrRunpod.Adapter.ManagerLogic

/-!
# Idle release after quiet

The timer tasks of `IdleReleaseController` under a clock that advances: requests start and finish
at any moment, and a timer task is resumed whenever `asyncio` may resume it.  The requests
themselves are left out; they only call `request_started` and `request_finished`.

* `IdleWorld`, `idleSystem` — the state, with a log of what happened, and the runtime.
* `EntriesQuiet` — a release is entered only at rest, after the delay, by the timer of the last
  finish.
* `SendsQuiet` — a release sends nothing once a request has started.
* `Covered` — the timer of a last finish that leaves no request is pending or has run its release,
  and it is the only one.
* `idle_release_quiet` — these hold of every state of every run.
-/

namespace SpeakrRunpod

open Coop

inductive IdleEvent
  | started
  /-- a request finished, and the timer was created -/
  | finished (time : ℚ) (timer : ℕ)
  /-- the timer has called `release_idle_pod`, with this many requests active -/
  | entered (timer : ℕ) (time : ℚ) (active : ℤ)
  | left (timer : ℕ)
  | sent (timer : ℕ) (call : GraphqlCall)
  deriving DecidableEq

/-- A start or a finish. -/
def IdleEvent.isRequest : IdleEvent → Bool
  | .started | .finished _ _ => true
  | _ => false

structure IdleWorld where
  controller : Controller
  now : ℚ
  /-- when the sleep of a timer task is over -/
  wakes : ℕ → ℚ
  /-- what `load_active_pod_id()` answers -/
  record : String
  /-- the requests that have started and not finished -/
  openRequests : ℕ
  /-- newest first -/
  log : List IdleEvent

namespace IdleWorld

/-- `request_started()`. -/
def started (w : IdleWorld) : IdleWorld :=
  { w with
    controller := (w.controller.requestStarted (.ok w.record)).2
    openRequests := w.openRequests + 1
    log := .started :: w.log }

/-- `request_finished()`. -/
def finished (w : IdleWorld) : IdleWorld :=
  { w with
    controller := (w.controller.requestFinished (.ok w.record)).2
    openRequests := w.openRequests - 1
    log := .finished w.now w.controller.created :: w.log }

def entered (w : IdleWorld) (n : ℕ) : IdleWorld :=
  { w with log := .entered n w.now w.controller.activeRequests :: w.log }

def left (w : IdleWorld) (n : ℕ) : IdleWorld := { w with log := .left n :: w.log }

def sent (w : IdleWorld) (n : ℕ) (call : GraphqlCall) : IdleWorld :=
  { w with log := .sent n call :: w.log }

/-- The active pod id is cleared. -/
def clear (w : IdleWorld) (p : String) : IdleWorld :=
  { w with record := if w.record = p then "" else w.record }

/-- The `CancelledError` of the task `n` has been raised. -/
def delivered (w : IdleWorld) (n : ℕ) : IdleWorld :=
  { w with controller := w.controller.delivered n }

def exit (w : IdleWorld) (n : ℕ) : IdleWorld := { w with controller := w.controller.finish n }

def exec (n : ℕ) : (o : Op) → IdleWorld → Option (o.Res × IdleWorld)
  | .activeRequests, w => some (w.controller.activeRequests, w)
  | .load, w => some (.ok w.record, w)
  | .clear p, w => some ((), w.clear p)
  | .note .releaseEntered, w => some ((), w.entered n)
  | .note .releaseLeft, w => some ((), w.left n)
  | _, _ => none

def issue (n : ℕ) : Op → IdleWorld → IdleWorld
  | .sleep t, w => { w with wakes := Function.update w.wakes n (w.now + t) }
  | .graphql call, w => w.sent n call
  | _, w => w

/-- The answers to a task that has not been cancelled: it sleeps until its time has come. -/
def effect (n : ℕ) : (o : Op) → o.Res → IdleWorld → Option IdleWorld
  | .firstStep, .ok (), w => if n < w.controller.created then some w else none
  | .sleep _, .ok (), w => if w.wakes n ≤ w.now then some w else none
  | .graphql _, _, w => some w
  | .podLogs _, _, w => some w
  | _, _, _ => none

/-- A cancelled task sees a `CancelledError` at its next resumption. -/
def answer? (n : ℕ) (o : Op) (r : o.Res) (w : IdleWorld) : Option IdleWorld :=
  if n ∈ w.controller.cancelling then
    if o.isCancelled r then some (w.delivered n) else none
  else if o.isCancelled r then none else w.effect n o r

/-- What happens outside the timer tasks. -/
inductive Env : IdleWorld → IdleWorld → Prop
  | clock (w : IdleWorld) {now : ℚ} (h : w.now ≤ now) : Env w { w with now }
  | record (w : IdleWorld) (record : String) : Env w { w with record }
  | started (w : IdleWorld) : Env w w.started
  | finished (w : IdleWorld) (h : 0 < w.openRequests) : Env w w.finished

/-- No request has come in. -/
def start (now : ℚ) (record : String) : IdleWorld where
  controller := .new
  now := now
  wakes := fun _ => now
  record := record
  openRequests := 0
  log := []

end IdleWorld

def idleSystem : Runtime adapterInterface ℕ IdleWorld where
  exec := IdleWorld.exec
  issue := IdleWorld.issue
  answer n o r w w' := w.answer? n o r = some w'
  exit n w := w.exit n
  env := IdleWorld.Env

/-! ## What is claimed of a log and of a state -/

/-- The last start or finish. -/
def lastRequest (log : List IdleEvent) : Option IdleEvent := log.find? IdleEvent.isRequest

/-- A release is entered only by the timer of the last finish, no request has started since, the
delay has passed, and no request is active. -/
def EntriesQuiet (delay : ℚ) : List IdleEvent → Prop
  | [] => True
  | .entered n t active :: log =>
      (active = 0 ∧ ∃ t₀, lastRequest log = some (.finished t₀ n) ∧ t₀ + delay ≤ t) ∧
        EntriesQuiet delay log
  | _ :: log => EntriesQuiet delay log

/-- The timer `n` has entered the release, and no request has started or finished since. -/
def EnteredSince (n : ℕ) (log : List IdleEvent) : Prop :=
  ∃ l₁ l₂ t, log = l₁ ++ .entered n t 0 :: l₂ ∧ ∀ e ∈ l₁, e.isRequest = false

/-- A call is sent only by a release since whose entry no request has started. -/
def SendsQuiet : List IdleEvent → Prop
  | [] => True
  | .sent n _ :: log => EnteredSince n log ∧ SendsQuiet log
  | _ :: log => SendsQuiet log

/-- The timer task `n` has been created, and is neither done nor cancelled. -/
structure Controller.Alive (c : Controller) (n : ℕ) : Prop where
  created : n < c.created
  pending : n ∉ c.done
  uncancelled : n ∉ c.cancelling

/-- The timer `n` is pending or has run its release, it has not been cancelled, and no other timer
is alive. -/
def Covered (w : IdleWorld) (n : ℕ) : Prop :=
  w.controller.idleStopTask = some n ∧ n ∉ w.controller.cancelling ∧
    (n ∉ w.controller.done ∨ .left n ∈ w.log) ∧ ∀ m, w.controller.Alive m → m = n

namespace IdleQuiet

/-! ## The invariant -/

structure Inv (delay : ℚ) (w : IdleWorld) : Prop where
  count : w.controller.activeRequests = w.openRequests
  created : ∀ n, n ∈ w.controller.done ∨ n ∈ w.controller.cancelling ∨
    w.controller.idleStopTask = some n → n < w.controller.created
  alive : ∀ n, w.controller.Alive n → ∃ t, lastRequest w.log = some (.finished t n)
  current : ∀ t n, lastRequest w.log = some (.finished t n) →
    w.controller.idleStopTask = some n ∧ n ∉ w.controller.cancelling ∧ t ≤ w.now ∧
      (w.openRequests = 0 → n ∈ w.controller.done → .left n ∈ w.log)
  entries : EntriesQuiet delay w.log
  sends : SendsQuiet w.log

variable {delay : ℚ} {w w' : IdleWorld} {n : ℕ}

/-- The timer that is alive is the one of the last finish. -/
lemma Inv.idleStopTask (h : Inv delay w) (hn : w.controller.Alive n) :
    w.controller.idleStopTask = some n := by
  obtain ⟨t, ht⟩ := h.alive n hn
  exact (h.current t n ht).1

lemma inv_start (now : ℚ) (record : String) : Inv delay (.start now record) where
  count := rfl
  created m h := by simp [IdleWorld.start, Controller.new] at h
  alive m h := absurd h.created (Nat.not_lt_zero m)
  current t m h := by cases h
  entries := trivial
  sends := trivial

/-! ## Requests -/

/-- The controller after one of its methods has cancelled the pending timer. -/
def cancelled (w : IdleWorld) (active : ℤ) : Controller :=
  { w.controller with activeRequests := active }.cancelPending

lemma mem_cancelled {active : ℤ} : n ∈ (cancelled w active).cancelling ↔
    n ∈ w.controller.cancelling ∨ w.controller.pending = some n :=
  Controller.mem_cancelPending _

/-- No timer survives that. -/
lemma not_alive_cancelled (h : Inv delay w) {active : ℤ} (hcreated : n < w.controller.created)
    (hdone : n ∉ w.controller.done) : n ∈ (cancelled w active).cancelling := by
  rw [mem_cancelled]
  by_cases hn : n ∈ w.controller.cancelling
  · exact .inl hn
  · have hstop := h.idleStopTask ⟨hcreated, hdone, hn⟩
    exact .inr ((Controller.pending_eq_some _).mpr ⟨hstop, hdone⟩)

lemma created_of_cancelled (h : Inv delay w) {active : ℤ}
    (hn : n ∈ (cancelled w active).cancelling) : n < w.controller.created := by
  rcases mem_cancelled.mp hn with hn | hn
  · exact h.created n (.inr (.inl hn))
  · exact h.created n (.inr (.inr ((Controller.pending_eq_some _).mp hn).1))

lemma started_controller (w : IdleWorld) :
    w.started.controller = cancelled w (w.controller.activeRequests + 1) := rfl

lemma finished_controller (w : IdleWorld) : w.finished.controller =
    (cancelled w (w.controller.activeRequests - 1)).createTimer := rfl

lemma inv_started (h : Inv delay w) : Inv delay w.started where
  count := by simp [IdleWorld.started, h.count]
  created m hm := by
    rw [started_controller] at hm ⊢
    rw [cancelled, Controller.cancelPending_created]
    rcases hm with hm | hm | hm
    · exact h.created m (.inl (by simpa [cancelled] using hm))
    · exact created_of_cancelled h hm
    · exact h.created m (.inr (.inr (by simpa [cancelled] using hm)))
  alive m hm := by
    rw [started_controller] at hm
    refine absurd (not_alive_cancelled h ?_ ?_) hm.uncancelled
    · simpa [cancelled] using hm.created
    · simpa [cancelled] using hm.pending
  current t m hm := by cases hm
  entries := h.entries
  sends := h.sends

lemma inv_finished (h : Inv delay w) (hopen : 0 < w.openRequests) : Inv delay w.finished where
  count := by
    have hcast : ((w.openRequests - 1 : ℕ) : ℤ) = w.openRequests - 1 := by omega
    simp [IdleWorld.finished, h.count, hcast]
  created m hm := by
    rw [finished_controller] at hm ⊢
    have hcreated : m ≤ w.controller.created := by
      rcases hm with hm | hm | hm
      · exact (h.created m (.inl (by simpa [cancelled, Controller.createTimer] using hm))).le
      · exact (created_of_cancelled h hm).le
      · simp only [cancelled, Controller.createTimer, Controller.cancelPending_created,
          Option.some.injEq] at hm
        exact hm.ge
    simpa [cancelled, Controller.createTimer] using Nat.lt_succ_of_le hcreated
  alive m hm := by
    rw [finished_controller] at hm
    have hcreated : m < w.controller.created + 1 := by
      simpa [cancelled, Controller.createTimer] using hm.created
    rcases Nat.lt_succ_iff_lt_or_eq.mp hcreated with hlt | rfl
    · refine absurd (not_alive_cancelled h hlt ?_) hm.uncancelled
      simpa [cancelled, Controller.createTimer] using hm.pending
    · exact ⟨w.now, rfl⟩
  current t m hm := by
    obtain ⟨rfl, rfl⟩ : w.now = t ∧ w.controller.created = m := by
      simpa [IdleWorld.finished, lastRequest, IdleEvent.isRequest] using hm
    have hfresh : w.controller.created ∉ w.controller.done :=
      fun hd => absurd (h.created _ (.inl hd)) (lt_irrefl _)
    refine ⟨?_, fun hx => ?_, le_rfl, fun _ hd => ?_⟩
    · simp [finished_controller, cancelled, Controller.createTimer]
    · exact absurd (created_of_cancelled h hx) (lt_irrefl _)
    · refine absurd ?_ hfresh
      simpa [finished_controller, cancelled, Controller.createTimer] using hd
  entries := h.entries
  sends := h.sends

/-! ## Other events -/

lemma lastRequest_cons {e : IdleEvent} (he : e.isRequest = false) (log : List IdleEvent) :
    lastRequest (e :: log) = lastRequest log := by
  simp [lastRequest, he]

/-- What an event that is no request leaves to be shown. -/
lemma Inv.logged (h : Inv delay w) {e : IdleEvent} (he : e.isRequest = false)
    (hentries : EntriesQuiet delay (e :: w.log)) (hsends : SendsQuiet (e :: w.log)) :
    Inv delay { w with log := e :: w.log } where
  count := h.count
  created := h.created
  alive m hm := by
    rw [lastRequest_cons he]
    exact h.alive m hm
  current t m hm := by
    rw [lastRequest_cons he] at hm
    obtain ⟨hstop, hcancelling, ht, hleft⟩ := h.current t m hm
    exact ⟨hstop, hcancelling, ht, fun h₀ hd => List.mem_cons_of_mem e (hleft h₀ hd)⟩
  entries := hentries
  sends := hsends

lemma inv_left (h : Inv delay w) (n : ℕ) : Inv delay (w.left n) :=
  h.logged rfl h.entries h.sends

lemma inv_clear (h : Inv delay w) (p : String) : Inv delay (w.clear p) :=
  ⟨h.count, h.created, h.alive, h.current, h.entries, h.sends⟩

/-- A task may end if it was cancelled, or if its release has been left where it was due. -/
lemma inv_exit (h : Inv delay w) (hn : n < w.controller.created)
    (hleft : n ∉ w.controller.cancelling → w.openRequests = 0 → .left n ∈ w.log) :
    Inv delay (w.exit n) where
  count := h.count
  created m hm := by
    rcases hm with hm | hm | hm
    · rcases Finset.mem_insert.mp hm with rfl | hm
      · exact hn
      · exact h.created m (.inl hm)
    · exact h.created m (.inr (.inl (Finset.mem_of_mem_erase hm)))
    · exact h.created m (.inr (.inr hm))
  alive m hm := by
    have hne : m ≠ n := by
      rintro rfl
      exact hm.pending (Finset.mem_insert_self m _)
    exact h.alive m ⟨hm.created, fun hd => hm.pending (Finset.mem_insert_of_mem hd),
      fun hx => hm.uncancelled (Finset.mem_erase.mpr ⟨hne, hx⟩)⟩
  current t m hm := by
    obtain ⟨hstop, hcancelling, ht, hleft'⟩ := h.current t m hm
    refine ⟨hstop, fun hx => hcancelling (Finset.mem_of_mem_erase hx), ht, fun h₀ hd => ?_⟩
    rcases Finset.mem_insert.mp hd with rfl | hd
    · exact hleft hcancelling h₀
    · exact hleft' h₀ hd
  entries := h.entries
  sends := h.sends

/-- A task that has been cancelled may end. -/
lemma inv_delivered_exit (h : Inv delay w) (hn : n ∈ w.controller.cancelling) :
    Inv delay ((w.delivered n).exit n) := by
  have hexit : (w.delivered n).exit n = w.exit n := by
    simp [IdleWorld.delivered, IdleWorld.exit, Controller.delivered, Controller.finish]
  rw [hexit]
  exact inv_exit h (h.created n (.inr (.inl hn))) fun hx => absurd hn hx

/-! ## The contract -/

/-- What the timer task `n` may rely on while it waits. -/
structure Rely (n : ℕ) (w w' : IdleWorld) : Prop where
  created : w.controller.created ≤ w'.controller.created
  now : w.now ≤ w'.now
  wakes : w'.wakes n = w.wakes n
  done : n ∈ w'.controller.done → n ∈ w.controller.done
  cancelling : n ∈ w.controller.cancelling → n ∈ w'.controller.cancelling
  quiet : n < w.controller.created → n ∉ w.controller.done → n ∉ w'.controller.cancelling →
    ∃ l, w'.log = l ++ w.log ∧ ∀ e ∈ l, e.isRequest = false

/-- A step that logs nothing. -/
lemma Rely.of_log (hcreated : w'.controller.created = w.controller.created)
    (hnow : w.now ≤ w'.now) (hwakes : w'.wakes n = w.wakes n)
    (hdone : n ∈ w'.controller.done → n ∈ w.controller.done)
    (hcancelling : n ∈ w.controller.cancelling → n ∈ w'.controller.cancelling)
    (hlog : w'.log = w.log) : Rely n w w' :=
  ⟨hcreated.ge, hnow, hwakes, hdone, hcancelling, fun _ _ _ => ⟨[], hlog, by simp⟩⟩

lemma Rely.trans {w₁ w₂ w₃ : IdleWorld} (h₁ : Rely n w₁ w₂) (h₂ : Rely n w₂ w₃) :
    Rely n w₁ w₃ where
  created := h₁.created.trans h₂.created
  now := h₁.now.trans h₂.now
  wakes := h₂.wakes.trans h₁.wakes
  done h := h₁.done (h₂.done h)
  cancelling h := h₂.cancelling (h₁.cancelling h)
  quiet hc hd hx := by
    obtain ⟨l₁, hl₁, hq₁⟩ := h₁.quiet hc hd fun h => hx (h₂.cancelling h)
    obtain ⟨l₂, hl₂, hq₂⟩ := h₂.quiet (hc.trans_le h₁.created) (fun h => hd (h₁.done h)) hx
    refine ⟨l₂ ++ l₁, by rw [hl₂, hl₁, List.append_assoc], fun e he => ?_⟩
    rcases List.mem_append.mp he with he | he
    · exact hq₂ e he
    · exact hq₁ e he

lemma env_inv (he : IdleWorld.Env w w') (h : Inv delay w) : Inv delay w' := by
  cases he with
  | clock hnow =>
      refine ⟨h.count, h.created, h.alive, fun t m hm => ?_, h.entries, h.sends⟩
      obtain ⟨hstop, hcancelling, ht, hleft⟩ := h.current t m hm
      exact ⟨hstop, hcancelling, ht.trans hnow, hleft⟩
  | record record => exact ⟨h.count, h.created, h.alive, h.current, h.entries, h.sends⟩
  | started => exact inv_started h
  | finished hopen => exact inv_finished h hopen

lemma env_rely (he : IdleWorld.Env w w') (h : Inv delay w) (n : ℕ) : Rely n w w' := by
  cases he with
  | clock hnow => exact .of_log rfl hnow rfl id id rfl
  | record record => exact .of_log rfl le_rfl rfl id id rfl
  | started =>
      refine ⟨?_, le_rfl, rfl, fun hd => ?_, fun hx => mem_cancelled.mpr (.inl hx),
        fun hc hd hx => ?_⟩
      · simp [started_controller, cancelled]
      · simpa [started_controller, cancelled] using hd
      · exact absurd (not_alive_cancelled h hc hd) hx
  | finished hopen =>
      refine ⟨?_, le_rfl, rfl, fun hd => ?_, fun hx => mem_cancelled.mpr (.inl hx),
        fun hc hd hx => ?_⟩
      · simp [finished_controller, cancelled, Controller.createTimer]
      · simpa [finished_controller, cancelled, Controller.createTimer] using hd
      · exact absurd (not_alive_cancelled h hc hd) hx

/-- The contract of the timer tasks. -/
def contract (delay : ℚ) : Contract idleSystem where
  inv := Inv delay
  rely := Rely
  rely_refl _ _ := .of_log rfl le_rfl rfl id id rfl
  rely_trans := Rely.trans
  env_inv := env_inv
  env_rely := env_rely

lemma guar_logged (n : ℕ) {e : IdleEvent} (he : e.isRequest = false) :
    (contract delay).guar n w { w with log := e :: w.log } :=
  fun _ _ => ⟨le_rfl, le_rfl, rfl, id, id, fun _ _ _ => ⟨[e], rfl, by simpa using he⟩⟩

lemma guar_clear (n : ℕ) (p : String) : (contract delay).guar n w (w.clear p) :=
  fun _ _ => .of_log rfl le_rfl rfl id id rfl

lemma guar_delivered : (contract delay).guar n w (w.delivered n) :=
  fun _ hj => .of_log rfl le_rfl rfl id (fun hx => Finset.mem_erase.mpr ⟨hj, hx⟩) rfl

lemma guar_exit : (contract delay).guar n w (w.exit n) := by
  intro j hj
  refine .of_log rfl le_rfl rfl (fun hd => ?_) (fun hx => Finset.mem_erase.mpr ⟨hj, hx⟩) rfl
  exact Finset.mem_of_mem_insert_of_ne hd hj

/-! ## What a timer task knows -/

/-- The task `n` is executing a release that it entered after quiet. -/
structure Running (delay : ℚ) (n : ℕ) (w : IdleWorld) : Prop where
  inv : Inv delay w
  alive : w.controller.Alive n
  entered : EnteredSince n w.log

/-- The same while it waits: the timer may have been cancelled. -/
structure Releasing (delay : ℚ) (n : ℕ) (w : IdleWorld) : Prop where
  inv : Inv delay w
  created : n < w.controller.created
  pending : n ∉ w.controller.done
  entered : n ∉ w.controller.cancelling → EnteredSince n w.log

/-- The release may be left, and the task may end. -/
def Dying (delay : ℚ) (n : ℕ) (w : IdleWorld) : Prop := Inv delay ((w.left n).exit n)

/-- What holds where `e` was raised: only a `CancelledError` ends the release. -/
def Raised (delay : ℚ) (n : ℕ) (e : Exn) (w : IdleWorld) : Prop :=
  if e.isException then Running delay n w else Dying delay n w

lemma enteredSince_append {log l : List IdleEvent} (h : EnteredSince n log)
    (hl : ∀ e ∈ l, e.isRequest = false) : EnteredSince n (l ++ log) := by
  obtain ⟨l₁, l₂, t, rfl, hq⟩ := h
  refine ⟨l ++ l₁, l₂, t, (List.append_assoc _ _ _).symm, fun e he => ?_⟩
  rcases List.mem_append.mp he with he | he
  · exact hl e he
  · exact hq e he

lemma releasing_stays : (contract delay).Stays n (Releasing delay n) :=
  ⟨fun h => h.inv, fun h hr hinv => by
    refine ⟨hinv, h.created.trans_le hr.created, fun hd => h.pending (hr.done hd), fun hx => ?_⟩
    obtain ⟨l, hl, hq⟩ := hr.quiet h.created h.pending hx
    rw [hl]
    exact enteredSince_append (h.entered fun hc => hx (hr.cancelling hc)) hq⟩

lemma Running.releasing (h : Running delay n w) : Releasing delay n w :=
  ⟨h.inv, h.alive.created, h.alive.pending, fun _ => h.entered⟩

lemma Running.dying (h : Running delay n w) : Dying delay n w :=
  inv_exit (inv_left h.inv n) h.alive.created fun _ _ => List.mem_cons_self

lemma Running.raised (h : Running delay n w) (e : Exn) : Raised delay n e w := by
  unfold Raised
  split_ifs
  · exact h
  · exact h.dying

lemma Running.sent (h : Running delay n w) (call : GraphqlCall) :
    Running delay n (w.sent n call) where
  inv := h.inv.logged rfl h.inv.entries ⟨h.entered, h.inv.sends⟩
  alive := h.alive
  entered := enteredSince_append (l := [.sent n call]) h.entered (by simp [IdleEvent.isRequest])

lemma running_clear (h : Running delay n w) (p : String) : Running delay n (w.clear p) :=
  ⟨inv_clear h.inv p, h.alive, h.entered⟩

lemma raised_clear {e : Exn} (h : Raised delay n e w) (p : String) :
    Raised delay n e (w.clear p) := by
  unfold Raised at h ⊢
  split_ifs at h ⊢
  · exact running_clear h p
  · exact inv_clear h p

lemma not_isException {e : Exn} : e.isException = false ↔ e = .cancelledError := by
  cases e <;> simp [Exn.isException]

lemma answer_cases {o : Op} {r : o.Res} (h : idleSystem.answer n o r w w') :
    n ∈ w.controller.cancelling ∧ o.isCancelled r ∧ w' = w.delivered n ∨
      n ∉ w.controller.cancelling ∧ o.isCancelled r = false ∧ w.effect n o r = some w' := by
  change IdleWorld.answer? n o r w = some w' at h
  rw [IdleWorld.answer?] at h
  split_ifs at h with hx hr hr
  · exact .inl ⟨hx, hr, (Option.some.inj h).symm⟩
  · exact .inr ⟨hx, by simpa using hr, h⟩

/-! ## The release -/

/-- The release keeps to itself: it goes on while it has not been cancelled. -/
def Quiet (delay : ℚ) (n : ℕ) {α : Type} (x : Adapter α) : Prop :=
  ∀ w, Running delay n w →
    (contract delay).wpE n x (fun _ => Running delay n) (Raised delay n) w

section Quiet

variable {α β : Type}

lemma quiet_pure (a : α) : Quiet delay n (pure a : Adapter α) := fun _ h => h

lemma quiet_throw (e : Exn) : Quiet delay n (throw e : Adapter α) := fun _ h => h.raised e

lemma quiet_ofExcept (x : Except Exn α) : Quiet delay n (Async.ofExcept x : Adapter α) := by
  cases x with
  | ok a => exact quiet_pure a
  | error e => exact quiet_throw e

lemma quiet_bind {x : Adapter α} {f : α → Adapter β} (hx : Quiet delay n x)
    (hf : ∀ a, Quiet delay n (f a)) : Quiet delay n (x >>= f) := fun w h =>
  (contract delay).wpE_bind.mpr
    ((contract delay).wpE_mono (hx w h) (fun a w₁ h₁ => hf a w₁ h₁) fun _ _ h₁ => h₁)

/-- A handler must let a `CancelledError` through. -/
lemma quiet_attempt {x : Adapter α} {f : Except Exn α → Adapter β} (hx : Quiet delay n x)
    (hf : ∀ r, r ≠ .error .cancelledError → Quiet delay n (f r))
    (hcancel : f (.error .cancelledError) = throw .cancelledError) :
    Quiet delay n (Async.attempt x >>= f) := fun w h => by
  refine (contract delay).wpE_bind.mpr ((contract delay).wpE_attempt.mpr
    ((contract delay).wpE_mono (hx w h) (fun a w₁ h₁ => hf (.ok a) nofun w₁ h₁)
      fun e w₁ h₁ => ?_))
  by_cases he : e = .cancelledError
  · subst he
    rw [hcancel]
    exact h₁
  · have hexn : e.isException = true := by
      by_contra hx
      exact he (not_isException.mp (by simpa using hx))
    rw [Raised, if_pos hexn] at h₁
    exact hf (.error e) (by simpa using he) w₁ h₁

/-- A wait of the release. -/
lemma wp_release {o : Op} (hexec : idleSystem.exec n o w = none)
    (hissue : Running delay n (idleSystem.issue n o w))
    (hguar : (contract delay).guar n w (idleSystem.issue n o w))
    (heffect : ∀ {r w₁ w₂}, IdleWorld.effect n o r w₁ = some w₂ → w₂ = w₁) :
    (contract delay).wp n (Prog.call (I := adapterInterface) o) (fun r w =>
      (o.isCancelled r → Dying delay n w) ∧ (o.isCancelled r = false → Running delay n w)) w := by
  refine ((contract delay).wp_wait hexec).mpr ⟨hguar, hissue.inv, fun w₁ r w₂ h₁ h₂ h₃ => ?_⟩
  have hw₁ := releasing_stays.rely hissue.releasing h₁ h₂
  rcases answer_cases h₃ with ⟨hx, hr, rfl⟩ | ⟨hx, hr, he⟩
  · refine ⟨guar_delivered, fun _ => ?_, fun hr' => ?_⟩
    · exact inv_left (inv_delivered_exit hw₁.inv hx) n
    · rw [hr] at hr'
      cases hr'
  · obtain rfl := heffect he
    refine ⟨(contract delay).guar_refl n w₂, fun hr' => ?_, fun _ => ?_⟩
    · rw [hr] at hr'
      cases hr'
    · exact ⟨hw₁.inv, ⟨hw₁.created, hw₁.pending, hx⟩, hw₁.entered hx⟩

/-- The wait for a GraphQL call, where its outcome is `f r`. -/
lemma quiet_call {call : GraphqlCall} {f : Except Exn HttpAnswer → Except Exn α}
    (hf : ∀ e, f (.error e) = .error e) (h : Running delay n w) :
    (contract delay).wp n (Prog.call (I := adapterInterface) (.graphql call))
      (fun r => Contract.outcome (fun _ : α => Running delay n) (Raised delay n) (f r)) w := by
  refine (contract delay).wp_mono (fun r w₁ h₁ => ?_)
    (wp_release (o := .graphql call) rfl (h.sent call) (guar_logged n rfl) fun he => by
      cases he
      rfl)
  cases hr : (Op.graphql call).isCancelled r with
  | true =>
      have hdying := h₁.1 hr
      rw [raisesCancelled_iff.mp hr, hf]
      exact hdying
  | false =>
      have hrun := h₁.2 hr
      cases f r with
      | ok a => exact hrun
      | error e => exact hrun.raised e

variable {cfg : AdapterConfig}

lemma quiet_getPod (hkey : cfg.runpodApiKey ≠ "") (p : String) : Quiet delay n (getPod cfg p) :=
  fun _ h => (wpE_getPod hkey).mpr (quiet_call (fun _ => rfl) h)

lemma quiet_terminatePod (hkey : cfg.runpodApiKey ≠ "") (p : String) :
    Quiet delay n (terminatePod cfg p) := fun w h => by
  refine (wpE_terminatePod hkey).mpr ((contract delay).wp_mono (fun r w₁ h₁ => ?_)
    (quiet_call (f := (GraphqlCall.podTerminate p).outcome) (fun _ => rfl) h))
  cases hr : (GraphqlCall.podTerminate p).outcome r <;> rw [hr] at h₁ <;> exact h₁

lemma quiet_stopPod (hkey : cfg.runpodApiKey ≠ "") (p : String) :
    Quiet delay n (stopPod cfg p) :=
  quiet_bind (fun _ h => (wpE_graphql hkey).mpr (quiet_call (fun _ => rfl) h)) quiet_pure

lemma quiet_podLogs (url : String) : Quiet delay n (Adapter.podLogs url) := fun w h => by
  refine (contract delay).wp_mono (fun r w₁ h₁ => ?_)
    (wp_release (o := .podLogs url) rfl h ((contract delay).guar_refl n _) fun he => by
      cases he
      rfl)
  cases hr : (Op.podLogs url).isCancelled r with
  | true =>
      have hdying := h₁.1 hr
      rw [raisesCancelled_iff.mp hr]
      exact hdying
  | false =>
      have hrun := h₁.2 hr
      cases r with
      | ok a => exact hrun
      | error e => exact hrun.raised e

theorem quiet_drainCloudPodLogs (hkey : cfg.runpodApiKey ≠ "") (p : String) :
    Quiet delay n (drainCloudPodLogs cfg p) := by
  rw [drainCloudPodLogs]
  split_ifs
  · exact quiet_pure false
  refine quiet_attempt (quiet_getPod hkey p) (fun r hr => ?_) rfl
  cases r with
  | error e =>
      dsimp only
      split_ifs
      · exact quiet_pure false
      · exact quiet_throw e
  | ok pod =>
      refine quiet_bind (quiet_ofExcept _) fun mapping => ?_
      cases mapping with
      | none => exact quiet_pure false
      | some mapping =>
          refine quiet_attempt (quiet_podLogs _) (fun r _ => ?_) rfl
          cases r with
          | error e =>
              dsimp only
              split_ifs
              · exact quiet_pure false
              · exact quiet_throw e
          | ok _ => exact quiet_pure true

theorem quiet_terminate (hkey : cfg.runpodApiKey ≠ "") (p : String) :
    Quiet delay n (terminate cfg p) := fun w h => by
  have hbody : Quiet delay n (terminateOrGone cfg p) := by
    refine quiet_attempt (quiet_terminatePod hkey p) (fun r _ => ?_) rfl
    cases r with
    | ok _ => exact quiet_pure ()
    | error e =>
        dsimp only
        split_ifs
        · exact quiet_pure ()
        · exact quiet_throw e
  refine (contract delay).wpE_tryFinally.mpr
    ((contract delay).wpE_mono (hbody w h) (fun _ w₁ h₁ => ?_) fun e w₁ h₁ => ?_)
  · exact ((contract delay).wp_exec rfl).mpr ⟨guar_clear n p, running_clear h₁ p⟩
  · exact ((contract delay).wp_exec rfl).mpr ⟨guar_clear n p, raised_clear h₁ p⟩

theorem quiet_catchException {body : Adapter Unit} (h : Quiet delay n body) :
    Quiet delay n (catchException body) := by
  refine quiet_attempt h (fun r _ => ?_) rfl
  cases r with
  | ok _ => exact quiet_pure ()
  | error e =>
      dsimp only
      split_ifs
      · exact quiet_pure ()
      · exact quiet_throw e

theorem quiet_releaseIdlePod : Quiet delay n (releaseIdlePod cfg) := fun w h => by
  refine (contract delay).wpE_bind.mpr
    (((contract delay).wp_exec (o := .load) rfl).mpr ⟨(contract delay).guar_refl n w, ?_⟩)
  show (contract delay).wpE n (if cfg.runpodApiKey = "" then pure () else _) _ _ w
  split_ifs with hkey hp
  · exact h
  · exact h
  refine quiet_catchException ?_ w h
  rw [releasePod]
  split_ifs
  · refine quiet_bind (quiet_catchException ?_) fun _ => quiet_terminate hkey _
    exact quiet_bind (quiet_drainCloudPodLogs hkey _) fun _ => quiet_pure ()
  · exact quiet_throw _
  · exact quiet_stopPod hkey _

end Quiet

/-! ## The timer task -/

/-- The task may end. -/
def Ending (delay : ℚ) (n : ℕ) (w : IdleWorld) : Prop := Inv delay (w.exit n)

/-- The task has not run yet. -/
def Waiting (delay : ℚ) (n : ℕ) (w : IdleWorld) : Prop :=
  Inv delay w ∧ n ∉ w.controller.done

/-- It sleeps, and unless it is cancelled it sleeps out the delay after the last finish. -/
structure Sleeping (delay : ℚ) (n : ℕ) (w : IdleWorld) : Prop where
  inv : Inv delay w
  created : n < w.controller.created
  pending : n ∉ w.controller.done
  sleepsOut : n ∉ w.controller.cancelling →
    ∃ t, lastRequest w.log = some (.finished t n) ∧ t + delay ≤ w.wakes n

/-- It is alive, and the delay has passed since the last finish. -/
structure Awake (delay : ℚ) (n : ℕ) (w : IdleWorld) : Prop where
  inv : Inv delay w
  alive : w.controller.Alive n
  since : ∃ t, lastRequest w.log = some (.finished t n) ∧ t + delay ≤ w.now

lemma waiting_stays : (contract delay).Stays n (Waiting delay n) :=
  ⟨fun h => h.1, fun h hr hinv => ⟨hinv, fun hd => h.2 (hr.done hd)⟩⟩

lemma lastRequest_append {l log : List IdleEvent} (hl : ∀ e ∈ l, e.isRequest = false) :
    lastRequest (l ++ log) = lastRequest log := by
  rw [lastRequest, lastRequest, List.find?_append, List.find?_eq_none.mpr (by simpa using hl)]
  rfl

lemma sleeping_stays : (contract delay).Stays n (Sleeping delay n) :=
  ⟨fun h => h.inv, fun h hr hinv => by
    refine ⟨hinv, h.created.trans_le hr.created, fun hd => h.pending (hr.done hd), fun hx => ?_⟩
    obtain ⟨l, hl, hq⟩ := hr.quiet h.created h.pending hx
    rw [hl, lastRequest_append hq, hr.wakes]
    exact h.sleepsOut fun hc => hx (hr.cancelling hc)⟩

theorem idleDelay_spec {cfg : AdapterConfig} (hdelay : delay = cfg.runpodIdleStopSeconds)
    (h : Inv delay w) (halive : w.controller.Alive n) :
    (contract delay).wpE n (idleDelay cfg) (fun _ => Awake delay n)
      (fun e w => e = .cancelledError ∧ Ending delay n w) w := by
  obtain ⟨t, ht⟩ := h.alive n halive
  have hnow : t ≤ w.now := (h.current t n ht).2.2.1
  rw [idleDelay]
  split_ifs with hpos
  · let w₁ : IdleWorld := { w with wakes := Function.update w.wakes n (w.now + delay) }
    have hsleep : Sleeping delay n w₁ := by
      refine ⟨⟨h.count, h.created, h.alive, h.current, h.entries, h.sends⟩, halive.created,
        halive.pending, fun _ => ⟨t, ht, ?_⟩⟩
      simpa [w₁] using hnow
    have hissue : IdleWorld.issue n (.sleep cfg.runpodIdleStopSeconds) w = w₁ := by
      rw [IdleWorld.issue, ← hdelay]
    refine ((contract delay).wp_wait (o := .sleep cfg.runpodIdleStopSeconds) rfl).mpr ?_
    change (contract delay).guar n w (IdleWorld.issue n (.sleep cfg.runpodIdleStopSeconds) w) ∧
      (contract delay).inv (IdleWorld.issue n (.sleep cfg.runpodIdleStopSeconds) w) ∧
      ∀ w₂ r w₃, (contract delay).rely n
        (IdleWorld.issue n (.sleep cfg.runpodIdleStopSeconds) w) w₂ → _
    rw [hissue]
    refine ⟨fun j hj => .of_log rfl le_rfl (Function.update_of_ne hj _ _) id id rfl, hsleep.inv,
      fun w₂ r w₃ h₁ h₂ h₃ => ?_⟩
    have hw₂ := sleeping_stays.rely hsleep h₁ h₂
    rcases answer_cases h₃ with ⟨hx, hr, rfl⟩ | ⟨hx, hr, he⟩
    · refine ⟨guar_delivered, ?_⟩
      rw [raisesCancelled_iff.mp hr]
      exact ⟨rfl, inv_delivered_exit hw₂.inv hx⟩
    · cases r with
      | error e => cases he
      | ok _ =>
          simp only [IdleWorld.effect] at he
          split_ifs at he with hwake
          cases he
          obtain ⟨t', ht', hle⟩ := hw₂.sleepsOut hx
          exact ⟨(contract delay).guar_refl n _, hw₂.inv, ⟨hw₂.created, hw₂.pending, hx⟩,
            t', ht', hle.trans hwake⟩
  · have hneg : delay ≤ 0 := by
      rw [hdelay]
      exact_mod_cast not_lt.mp hpos
    exact ⟨h, halive, t, ht, (add_le_of_nonpos_right hneg).trans hnow⟩

/-- An awake timer enters the release, or ends because a request is active. -/
theorem releaseIfQuiet_spec {cfg : AdapterConfig} (hdelay : delay = cfg.runpodIdleStopSeconds)
    (h : Inv delay w) (halive : w.controller.Alive n) :
    (contract delay).wpE n (releaseIfQuiet cfg) (fun _ => Ending delay n)
      (fun _ => Ending delay n) w := by
  refine (contract delay).wpE_bind.mpr ((contract delay).wpE_mono
    (idleDelay_spec hdelay h halive) (fun _ w₁ h₁ => ?_) fun _ _ h₁ => h₁.2)
  refine (contract delay).wpE_bind.mpr (((contract delay).wp_exec (o := .activeRequests) rfl).mpr
    ⟨(contract delay).guar_refl n w₁, ?_⟩)
  refine (contract delay).wpE_bind.mpr (((contract delay).wp_exec (o := .load) rfl).mpr
    ⟨(contract delay).guar_refl n w₁, ?_⟩)
  change (contract delay).wpE n (if w₁.controller.activeRequests ≠ 0 then pure () else _) _ _ w₁
  split_ifs with hactive
  · refine inv_exit h₁.inv h₁.alive.created fun _ hopen => absurd ?_ hactive
    rw [h₁.inv.count, hopen]
    rfl
  · rw [not_not] at hactive
    refine (contract delay).wpE_bind.mpr
      (((contract delay).wp_exec (o := .note .releaseEntered) rfl).mpr ⟨guar_logged n rfl, ?_⟩)
    have hrun : Running delay n (w₁.entered n) := by
      refine ⟨h₁.inv.logged rfl ⟨⟨hactive, h₁.since⟩, h₁.inv.entries⟩ h₁.inv.sends, h₁.alive,
        [], w₁.log, w₁.now, ?_, by simp⟩
      rw [IdleWorld.entered, hactive]
      rfl
    refine (contract delay).wpE_tryFinally.mpr ((contract delay).wpE_mono
      (quiet_releaseIdlePod (w₁.entered n) hrun) (fun _ w₂ h₂ => ?_) fun e w₂ h₂ => ?_)
    · exact ((contract delay).wp_exec (o := .note .releaseLeft) rfl).mpr
        ⟨guar_logged n rfl, h₂.dying⟩
    · refine ((contract delay).wp_exec (o := .note .releaseLeft) rfl).mpr ⟨guar_logged n rfl, ?_⟩
      unfold Raised at h₂
      split_ifs at h₂
      · exact h₂.dying
      · exact h₂

theorem idleTask_spec {cfg : AdapterConfig} (hdelay : delay = cfg.runpodIdleStopSeconds)
    (h : Waiting delay n w) :
    (contract delay).wpE n (idleTask cfg) (fun _ => Ending delay n) (fun _ => Ending delay n)
      w := by
  refine (contract delay).wpE_bind.mpr (((contract delay).wp_wait (o := .firstStep) rfl).mpr
    ⟨(contract delay).guar_refl n w, h.1, fun w₁ r w₂ h₁ h₂ h₃ => ?_⟩)
  have hw₁ := waiting_stays.rely h h₁ h₂
  rcases answer_cases h₃ with ⟨hx, hr, rfl⟩ | ⟨hx, hr, he⟩
  · refine ⟨guar_delivered, ?_⟩
    rw [raisesCancelled_iff.mp hr]
    exact inv_delivered_exit hw₁.1 hx
  · cases r with
    | error e => cases he
    | ok _ =>
        simp only [IdleWorld.effect] at he
        split_ifs at he with hcreated
        cases he
        refine ⟨(contract delay).guar_refl n _, ?_⟩
        change (contract delay).wpE n (releaseAfterIdleDelay cfg) _ _ w₁
        refine (contract delay).wpE_bind.mpr ((contract delay).wpE_attempt.mpr
          ((contract delay).wpE_mono (releaseIfQuiet_spec hdelay hw₁.1 ⟨hcreated, hw₁.2, hx⟩)
            (fun _ _ h₄ => h₄) fun e w₄ h₄ => ?_))
        dsimp only
        split_ifs <;> exact h₄

end IdleQuiet

/-- **Idle release after quiet.**  In every state of every run of the timer tasks, whatever
requests start and finish and however the tasks are scheduled: the only timer that may be alive is
`_idle_stop_task`; releases are entered after quiet and send nothing once a request has started;
and when the last request has finished its timer is pending or has run its release. -/
theorem idle_release_quiet (cfg : AdapterConfig) (now : ℚ) (record : String)
    {s : Pool adapterInterface ℕ IdleWorld (Except Exn Unit)}
    (h : Pool.Reaches idleSystem ⟨.start now record, fun _ => (idleTask cfg).run⟩ s) :
    (∀ n, s.world.controller.Alive n → s.world.controller.idleStopTask = some n) ∧
      EntriesQuiet cfg.runpodIdleStopSeconds s.world.log ∧ SendsQuiet s.world.log ∧
      ∀ t n, lastRequest s.world.log = some (.finished t n) →
        s.world.controller.activeRequests = 0 → Covered s.world n := by
  have hstart : IdleQuiet.Inv cfg.runpodIdleStopSeconds (.start now record) :=
    IdleQuiet.inv_start now record
  have hparked : ∀ n, (IdleQuiet.contract cfg.runpodIdleStopSeconds).Parked (fun _ _ _ => True) n
      (idleTask cfg).run (.start now record) := by
    intro n
    refine (IdleQuiet.contract cfg.runpodIdleStopSeconds).parked_of_wp (o := .firstStep) rfl rfl
      (Contract.wp_mono _ (fun r w hr => ?_)
        (IdleQuiet.idleTask_spec rfl ⟨hstart, by simp [IdleWorld.start, Controller.new]⟩))
    have hend : IdleQuiet.Inv cfg.runpodIdleStopSeconds (w.exit n) := by cases r <;> exact hr
    exact ⟨IdleQuiet.guar_exit, hend, trivial⟩
  have hs : IdleQuiet.Inv cfg.runpodIdleStopSeconds s.world :=
    ((IdleQuiet.contract _).sound (s := ⟨.start now record, fun _ => (idleTask cfg).run⟩) _
      (fun _ _ _ _ _ _ => trivial) hstart hparked h).1
  refine ⟨fun n hn => hs.idleStopTask hn, hs.entries, hs.sends, fun t n ht hactive => ?_⟩
  obtain ⟨hstop, hcancelling, -, hleft⟩ := hs.current t n ht
  have hopen : s.world.openRequests = 0 := by
    have hcount := hs.count
    rw [hactive] at hcount
    exact_mod_cast hcount.symm
  refine ⟨hstop, hcancelling, ?_, fun m hm => ?_⟩
  · by_cases hd : n ∈ s.world.controller.done
    · exact .inr (hleft hopen hd)
    · exact .inl hd
  · exact Option.some.inj ((hs.idleStopTask hm).symm.trans hstop)

namespace IdleQuiet

/-- A request has started and finished. -/
def afterFinish : Pool adapterInterface ℕ IdleWorld (Except Exn Unit) :=
  ⟨(IdleWorld.start 0 "old").started.finished, fun _ => (idleTask .template).run⟩

/-- The timer goes to sleep. -/
def sleepingRun : Option (Pool adapterInterface ℕ IdleWorld (Except Exn Unit)) :=
  Pool.play idleSystem IdleWorld.answer? [(0, ⟨.firstStep, Except.ok ()⟩)] afterFinish

theorem sleepingRun_isSome : sleepingRun.isSome := by decide

def asleep : Pool adapterInterface ℕ IdleWorld (Except Exn Unit) :=
  sleepingRun.get sleepingRun_isSome

/-- Half a minute later it wakes up. -/
def enteredRun : Option (Pool adapterInterface ℕ IdleWorld (Except Exn Unit)) :=
  Pool.play idleSystem IdleWorld.answer? [(0, ⟨.sleep 30, Except.ok ()⟩)]
    { asleep with world := { asleep.world with now := 30 } }

theorem enteredRun_isSome : enteredRun.isSome := by decide +kernel

def enteredState : Pool adapterInterface ℕ IdleWorld (Except Exn Unit) :=
  enteredRun.get enteredRun_isSome

lemma enteredState_reached : Pool.Reaches idleSystem
    ⟨.start 0 "old", fun _ => (idleTask .template).run⟩ enteredState := by
  have hsleep : Pool.Reaches idleSystem afterFinish asleep :=
    Pool.play_reaches id (Option.some_get _).symm
  have henter : Pool.Reaches idleSystem { asleep with world := { asleep.world with now := 30 } }
      enteredState := Pool.play_reaches id (Option.some_get _).symm
  have hclock : asleep.world.now ≤ 30 := by decide
  exact .head (.env (.started _)) (.head (.env (.finished _ (by decide)))
    (hsleep.trans (.head (.env (.clock _ hclock)) henter)))

end IdleQuiet

theorem idle_release_quiet_entered :
    IdleQuiet.enteredState.world.log =
        [.sent 0 (.pod "old"), .entered 0 30 0, .finished 0 0, .started] ∧
      EntriesQuiet (AdapterConfig.template.runpodIdleStopSeconds : ℤ)
        IdleQuiet.enteredState.world.log :=
  ⟨by decide +kernel,
    (idle_release_quiet .template 0 "old" IdleQuiet.enteredState_reached).2.1⟩

end SpeakrRunpod
