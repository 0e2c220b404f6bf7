import Mathlib.Data.List.Pairwise
import Mathlib.Algebra.Order.Ring.Rat
import Mathlib.Tactic.Linarith
import SpeakrRunpod.Adapter.CallWalk

/-!
# The stuck-init watchdog

The poll loop keeps a timer, the fingerprint of the last snapshot and the id of the pod.  What they
come to, over a whole run, is a statement about the polls so far.

* `Poll`, `pollHistory` — the polls of a run.
* `Frozen` — a block of polls of one pod that show a machine, no runtime and no progress.
* `frozenSince` — the time of the first poll of the longest such block, from poll to poll.
* `WaitCall.FrozenTooLong` — this block has lasted for longer than the threshold.
* `watchdog_fires_exactly` — the watchdog terminates a pod exactly then.
-/

namespace SpeakrRunpod

open Coop

/-! ## Polls -/

/-- A query that was answered with a snapshot, and the reading of the clock that follows it. -/
structure Poll where
  podId : String
  now : ℚ
  pod : Pod

/-- The polls so far, newest first, and the snapshot for which the clock has not been read. -/
structure PollLog where
  pending : Option (String × Pod)
  history : List Poll

def PollLog.add (l : PollLog) : Prog.Exchange adapterInterface → PollLog
  | ⟨.graphql (.pod p), r⟩ => { l with pending := (podOutcome p r).toOption.map (p, ·) }
  | ⟨.time, now⟩ =>
      match l.pending with
      | some (p, pod) => ⟨none, ⟨p, now, pod⟩ :: l.history⟩
      | none => l
  | _ => l

def pollLog (tr : List (Prog.Exchange adapterInterface)) : PollLog :=
  tr.foldl PollLog.add ⟨none, []⟩

/-- The polls of a run, newest first. -/
def pollHistory (tr : List (Prog.Exchange adapterInterface)) : List Poll := (pollLog tr).history

lemma pollLog_append (tr : List (Prog.Exchange adapterInterface))
    (x : Prog.Exchange adapterInterface) : pollLog (tr ++ [x]) = (pollLog tr).add x := by
  rw [pollLog, List.foldl_append]
  rfl

/-! ## Frozen blocks -/

/-- The snapshot shows a machine and no runtime. -/
def Poll.Warming (x : Poll) : Prop :=
  (Json.get x.pod "machineId").truthy ∧ ¬ (Json.get x.pod "runtime").truthy

instance (x : Poll) : Decidable x.Warming := inferInstanceAs (Decidable (_ ∧ _))

/-- The fingerprint is that of an earlier poll. -/
def Poll.SameProgress (x y : Poll) : Prop :=
  Json.pyEqItems (startupProgressFingerprint x.pod) (startupProgressFingerprint y.pod)

instance (x y : Poll) : Decidable (x.SameProgress y) := inferInstanceAs (Decidable (_ = true))

lemma Poll.SameProgress.trans {x y z : Poll} (hxy : x.SameProgress y) (hyz : y.SameProgress z) :
    x.SameProgress z := Json.pyEqItems_trans hxy hyz

/-- A block of polls of the pod `p`, newest first, that all show a machine and no runtime, with equal
fingerprints. -/
def Frozen (p : String) (block : List Poll) : Prop :=
  (∀ x ∈ block, x.podId = p ∧ x.Warming) ∧ block.Pairwise Poll.SameProgress

/-- `first` is the first poll of the longest frozen block that ends with the last poll. -/
def FrozenFrom (p : String) (history : List Poll) (first : Poll) : Prop :=
  ∃ block before, history = block ++ first :: before ∧ Frozen p (block ++ [first]) ∧
    ∀ y, before.head? = some y → ¬ Frozen p (block ++ [first, y])

/-- The time at which the block that ends with the last poll began, from poll to poll. -/
def frozenSince : List Poll → Option ℚ
  | [] => none
  | [x] => if x.Warming then some x.now else none
  | x :: y :: history =>
      if x.Warming then
        if y.podId = x.podId ∧ x.SameProgress y then
          some ((frozenSince (y :: history)).getD x.now)
        else some x.now
      else none

lemma frozenSince_of_not_warming {x : Poll} {history : List Poll} (h : ¬ x.Warming) :
    frozenSince (x :: history) = none := by
  cases history with
  | nil => rw [frozenSince, if_neg h]
  | cons y history => rw [frozenSince, if_neg h]

lemma warming_of_frozenSince_ne_none {x : Poll} {history : List Poll}
    (h : frozenSince (x :: history) ≠ none) : x.Warming := by
  by_contra hx
  exact h (frozenSince_of_not_warming hx)

lemma frozenSince_isSome {x : Poll} {history : List Poll} (h : x.Warming) :
    ∃ t, frozenSince (x :: history) = some t := by
  cases history with
  | nil => exact ⟨_, by rw [frozenSince, if_pos h]⟩
  | cons y history =>
      rw [frozenSince, if_pos h]
      split_ifs
      · exact ⟨_, rfl⟩
      · exact ⟨_, rfl⟩

lemma Frozen.head {p : String} {x : Poll} {block : List Poll} (h : Frozen p (x :: block)) :
    x.podId = p ∧ x.Warming := h.1 x List.mem_cons_self

lemma Frozen.tail {p : String} {x : Poll} {block : List Poll} (h : Frozen p (x :: block)) :
    Frozen p block :=
  ⟨fun y hy => h.1 y (List.mem_cons_of_mem x hy), (List.pairwise_cons.mp h.2).2⟩

/-- A block grows by a poll that shows the same as its newest one. -/
lemma Frozen.cons {p : String} {x y : Poll} {block : List Poll} (h : Frozen p (y :: block))
    (hp : x.podId = p) (hx : x.Warming) (hxy : x.SameProgress y) : Frozen p (x :: y :: block) := by
  refine ⟨?_, List.pairwise_cons.mpr ⟨?_, h.2⟩⟩
  · rintro z hz
    rcases List.mem_cons.mp hz with rfl | hz
    · exact ⟨hp, hx⟩
    · exact h.1 z hz
  · rintro z hz
    rcases List.mem_cons.mp hz with rfl | hz
    · exact hxy
    · exact hxy.trans ((List.pairwise_cons.mp h.2).1 z hz)

lemma frozen_singleton {x : Poll} (h : x.Warming) : Frozen x.podId [x] := by
  refine ⟨fun y hy => ?_, List.pairwise_singleton _ _⟩
  obtain rfl := List.mem_singleton.mp hy
  exact ⟨rfl, h⟩

/-- A part of a frozen block is frozen. -/
lemma Frozen.of_prefix {p : String} {block rest : List Poll} (h : Frozen p (block ++ rest)) :
    Frozen p block :=
  ⟨fun x hx => h.1 x (List.mem_append_left rest hx), (List.pairwise_append.mp h.2).1⟩

/-- **What the timer stands for**: it is set, to the time of the first poll of the longest frozen
block, if the last poll is in one. -/
theorem frozenFrom_of_frozenSince : ∀ {x : Poll} {history : List Poll} {t : ℚ},
    frozenSince (x :: history) = some t →
      ∃ first, FrozenFrom x.podId (x :: history) first ∧ first.now = t
  | x, [], t, h => by
      have hx : x.Warming := warming_of_frozenSince_ne_none (by rw [h]; exact nofun)
      rw [frozenSince, if_pos hx] at h
      exact ⟨x, ⟨[], [], rfl, frozen_singleton hx, nofun⟩, Option.some.inj h⟩
  | x, y :: history, t, h => by
      have hx : x.Warming := warming_of_frozenSince_ne_none (by rw [h]; exact nofun)
      rw [frozenSince, if_pos hx] at h
      split_ifs at h with hsame
      · obtain ⟨hid, hprogress⟩ := hsame
        cases hy : frozenSince (y :: history) with
        | none =>
            rw [hy] at h
            refine ⟨x, ⟨[], y :: history, rfl, frozen_singleton hx, ?_⟩, Option.some.inj h⟩
            rintro z hz hfrozen
            obtain rfl := Option.some.inj hz
            obtain ⟨t', ht'⟩ := @frozenSince_isSome y history hfrozen.tail.head.2
            rw [hy] at ht'
            cases ht'
        | some t' =>
            rw [hy] at h
            obtain ⟨first, ⟨block, before, hhistory, hfrozen, hmaximal⟩, hfirst⟩ :=
              frozenFrom_of_frozenSince hy
            refine ⟨first, ⟨x :: block, before, by rw [hhistory]; rfl, ?_, ?_⟩,
              hfirst.trans (Option.some.inj h)⟩
            · rw [hid] at hfrozen
              cases block with
              | nil =>
                  obtain ⟨rfl, -⟩ := List.cons.inj hhistory
                  exact hfrozen.cons rfl hx hprogress
              | cons z block =>
                  obtain ⟨rfl, -⟩ := List.cons.inj hhistory
                  exact hfrozen.cons rfl hx hprogress
            · intro z hz hfrozen'
              rw [hid] at hmaximal
              exact hmaximal z hz hfrozen'.tail
      · refine ⟨x, ⟨[], y :: history, rfl, frozen_singleton hx, ?_⟩, Option.some.inj h⟩
        rintro z hz hfrozen
        obtain rfl := Option.some.inj hz
        exact hsame ⟨hfrozen.tail.head.1, (List.pairwise_cons.mp hfrozen.2).1 y List.mem_cons_self⟩

/-- Of two blocks that end with the last poll, the longest one is not the shorter one. -/
lemma frozenFrom_le {p : String} {block block' before before' : List Poll} {first first' : Poll}
    (h : block ++ first :: before = block' ++ first' :: before')
    (hmaximal : ∀ y, before.head? = some y → ¬ Frozen p (block ++ [first, y]))
    (hfrozen' : Frozen p (block' ++ [first'])) : block'.length ≤ block.length := by
  rcases List.append_eq_append_iff.mp h with ⟨rest, rfl, hrest⟩ | ⟨rest, rfl, -⟩
  · cases rest with
    | nil => exact (congrArg List.length (List.append_nil block)).le
    | cons x rest =>
        obtain ⟨rfl, rfl⟩ := List.cons.inj hrest
        cases rest with
        | nil =>
            refine absurd ?_ (hmaximal first' rfl)
            simpa using hfrozen'
        | cons y rest =>
            refine absurd (@Frozen.of_prefix p _ (rest ++ [first']) ?_) (hmaximal y rfl)
            simpa using hfrozen'
  · exact (List.length_append ▸ Nat.le_add_right _ _)

/-- There is at most one such poll. -/
lemma FrozenFrom.unique {p : String} {history : List Poll} {first first' : Poll}
    (h : FrozenFrom p history first) (h' : FrozenFrom p history first') : first = first' := by
  obtain ⟨block, before, rfl, hfrozen, hmaximal⟩ := h
  obtain ⟨block', before', heq, hfrozen', hmaximal'⟩ := h'
  have hlength : block.length = block'.length :=
    le_antisymm (frozenFrom_le heq.symm hmaximal' hfrozen) (frozenFrom_le heq hmaximal hfrozen')
  exact (List.cons.inj (List.append_inj heq hlength).2).1

/-! ## The variables of the loop -/

section Timer

variable (cfg : AdapterConfig)

/-- The watchdog is on. -/
def Armed : Prop := cfg.templateModeEnabled ∧ 0 < cfg.runpodStuckInitTimeoutSeconds

/-- What the variables of the loop say of the polls so far: where the pod has been polled, they hold
the fingerprint of the last poll and the time at which its block began. -/
def Timed (history : List Poll) (s : WaitState) : Prop :=
  match s.progressPrev with
  | none => s.stuckInitSince = none ∧ ∀ x ∈ history, x.podId ≠ s.podId
  | some prev => ∃ x rest, history = x :: rest ∧ x.podId = s.podId ∧
      prev = startupProgressFingerprint x.pod ∧ (Armed cfg → s.stuckInitSince = frozenSince history)

variable {cfg} {s : WaitState} {history : List Poll} {pod : Pod} {now : ℚ}

lemma stuckInit_iff : stuckInit cfg pod ↔ Armed cfg ∧ (⟨s.podId, now, pod⟩ : Poll).Warming := by
  simp only [stuckInit, Armed, Poll.Warming, Bool.and_eq_true, decide_eq_true_iff,
    Bool.not_eq_true', Bool.not_eq_true]
  tauto

/-- The block that ends with a new poll began when the timer was set, or begins now. -/
lemma frozenSince_poll (hs : Timed cfg history s) (harmed : Armed cfg)
    (hwarming : (⟨s.podId, now, pod⟩ : Poll).Warming) :
    frozenSince (⟨s.podId, now, pod⟩ :: history) =
      some ((timerAfterProgress s pod).getD now) := by
  rw [Timed] at hs
  rw [timerAfterProgress]
  cases hprev : s.progressPrev with
  | none =>
      rw [hprev] at hs
      obtain ⟨hsince, hother⟩ := hs
      dsimp only
      rw [hsince]
      cases history with
      | nil => rw [frozenSince, if_pos hwarming]; rfl
      | cons y history =>
          rw [frozenSince, if_pos hwarming, if_neg fun h => hother y List.mem_cons_self h.1]
          rfl
  | some prev =>
      rw [hprev] at hs
      obtain ⟨x, rest, rfl, hid, rfl, hsince⟩ := hs
      dsimp only
      rw [frozenSince, if_pos hwarming]
      by_cases hsame : (⟨s.podId, now, pod⟩ : Poll).SameProgress x
      · rw [if_pos ⟨hid, hsame⟩, if_pos (show Json.pyEqItems _ _ = true from hsame), hsince harmed]
      · rw [if_neg fun h => hsame h.2, if_neg (show ¬ Json.pyEqItems _ _ = true from hsame)]
        rfl

/-- **When the watchdog fires.** -/
lemma watchdog_fire_iff (hs : Timed cfg history s) :
    watchdog cfg s pod now = .fire ↔ Armed cfg ∧
      ∃ t, frozenSince (⟨s.podId, now, pod⟩ :: history) = some t ∧
        (cfg.runpodStuckInitTimeoutSeconds : ℚ) < now - t := by
  rw [watchdog]
  by_cases hstuck : stuckInit cfg pod
  · obtain ⟨harmed, hwarming⟩ := (@stuckInit_iff cfg s pod now).mp hstuck
    rw [if_pos hstuck, frozenSince_poll hs harmed hwarming]
    cases timerAfterProgress s pod with
    | none =>
        refine iff_of_false nofun ?_
        rintro ⟨-, t, ht, hlate⟩
        obtain rfl : now = t := Option.some.inj ht
        have hpositive : (0 : ℚ) < cfg.runpodStuckInitTimeoutSeconds := by exact_mod_cast harmed.2
        linarith only [hlate, hpositive]
    | some since =>
        dsimp only
        split_ifs with hlate
        · exact iff_of_true rfl ⟨harmed, since, rfl, hlate⟩
        · refine iff_of_false nofun ?_
          rintro ⟨-, t, ht, hlate'⟩
          obtain rfl : since = t := Option.some.inj ht
          exact hlate hlate'
  · rw [if_neg hstuck]
    refine iff_of_false nofun ?_
    rintro ⟨harmed, t, ht, -⟩
    exact hstuck (stuckInit_iff.mpr ⟨harmed, warming_of_frozenSince_ne_none (by rw [ht]; exact nofun)⟩)

/-- Where it does not, the variables are kept up to date. -/
lemma timed_watched {since : Option ℚ} (hs : Timed cfg history s)
    (h : watchdog cfg s pod now = .timer since) :
    Timed cfg (⟨s.podId, now, pod⟩ :: history) (s.watched pod since) := by
  refine ⟨⟨s.podId, now, pod⟩, history, rfl, rfl, rfl, fun harmed => ?_⟩
  show since = _
  rw [watchdog] at h
  by_cases hstuck : stuckInit cfg pod
  · obtain ⟨-, hwarming⟩ := (@stuckInit_iff cfg s pod now).mp hstuck
    rw [if_pos hstuck] at h
    rw [frozenSince_poll hs harmed hwarming]
    cases htimer : timerAfterProgress s pod with
    | none =>
        rw [htimer] at h
        exact (Watchdog.timer.inj h).symm
    | some t =>
        rw [htimer] at h
        dsimp only at h
        split_ifs at h
        exact (Watchdog.timer.inj h).symm
  · rw [if_neg hstuck] at h
    rw [← Watchdog.timer.inj h, frozenSince_of_not_warming]
    exact fun hwarming => hstuck (stuckInit_iff.mpr ⟨harmed, hwarming⟩)

end Timer

/-! ## The machine of the loop -/

/-- The ids that a run of the loop works with. -/
def knownIds (podId : String) (tr : List (Prog.Exchange adapterInterface)) : List String :=
  podId :: tr.filterMap fun x => match x with
    | ⟨.note (.replaced _ new), _⟩ => some new
    | _ => none

/-- Every replacement has an id that the run has not worked with before. -/
def FreshIds (podId : String) (tr : List (Prog.Exchange adapterInterface)) : Prop :=
  ∀ tr₁ tr₂ old new, tr = tr₁ ++ ⟨.note (.replaced old new), ()⟩ :: tr₂ → new ∉ knownIds podId tr₁

/-- A pod is replaced by the loop. -/
def Reason.InWait (reason : Reason) : Prop := reason = .missing ∨ reason = .stuck

/-- The places of the poll loop. -/
def Work.InWait : Work → Prop
  | .adopt reason _ _ | .clearMissing reason _ _ | .drop reason _ | .terminate reason _
  | .clearTerminated reason _ _ => reason.InWait
  | .pollTime _ | .pollSleep _ | .pollQuery _ | .pollNow _ _ | .pollLate _ | .pollProbe _ _
  | .announce _ _ | .leave _ => True
  | work => ∃ reason old, work.purpose = some (.replace reason old) ∧ reason.InWait

/-- The variables of the loop. -/
def Work.waits : Work → Option WaitState
  | .pollTime s | .pollSleep s | .pollQuery s | .pollNow s _ | .pollLate s | .pollProbe s _ => some s
  | _ => none

/-- The snapshot that is waiting for the clock to be read. -/
def Work.pending : Work → Option (String × Pod)
  | .pollNow s pod => some (s.podId, pod)
  | _ => none

section Machine

variable {cfg : AdapterConfig} {deadline : ℚ} {podId : String}
  {tr : List (Prog.Exchange adapterInterface)} {work work' : Work}
  {x : Prog.Exchange adapterInterface}

lemma inWait_step (hin : work.InWait) (h : Work.Moves cfg deadline work x work') :
    work'.InWait := by
  cases h with
  | adoptInspected => rcases hin with h | h <;> cases h
  | dropped => exact ⟨_, _, rfl, hin⟩
  | pollFires _ => exact .inr rfl
  | pollMissing _ => exact .inl rfl
  | pollProbed hprobed => rcases hprobed.leads with ⟨e, rfl⟩ | rfl | ⟨detail, rfl⟩ <;> trivial
  | _ =>
      first
      | trivial
      | exact hin
      | obtain ⟨_, _, hpurpose, hreason⟩ := hin
        cases hpurpose <;> exact hreason

/-- How the variables of the loop change. -/
lemma waits_step (hin : work.InWait) (h : Work.Moves cfg deadline work x work') {s' : WaitState}
    (hs' : work'.waits = some s') :
    (∃ s pod now since, work = .pollNow s pod ∧ x = ⟨.time, now⟩ ∧
      watchdog cfg s pod now = .timer since ∧ s' = s.watched pod since) ∨
    (∃ s lastError, work.waits = some s ∧ (∀ pod, work ≠ .pollNow s pod) ∧
      s' = s.failed lastError) ∨
    ∃ old new lastError, x = ⟨.note (.replaced old new), ()⟩ ∧ s' = .replaced new lastError := by
  cases h with
  | pollUnmapped htimer _ => exact .inl ⟨_, _, _, _, rfl, rfl, htimer, (Option.some.inj hs').symm⟩
  | pollMapped htimer _ => exact .inl ⟨_, _, _, _, rfl, rfl, htimer, (Option.some.inj hs').symm⟩
  | pollProbed hprobed =>
      rcases hprobed.leads with ⟨e, rfl⟩ | rfl | ⟨detail, rfl⟩
      · cases hs'
      · cases hs'
      · exact .inr (.inl ⟨_, _, rfl, nofun, (Option.some.inj hs').symm⟩)
  | adoptInactive => exact .inr (.inr ⟨_, _, _, rfl, (Option.some.inj hs').symm⟩)
  | adoptMissing => exact .inr (.inr ⟨_, _, _, rfl, (Option.some.inj hs').symm⟩)
  | adoptStuck => exact .inr (.inr ⟨_, _, _, rfl, (Option.some.inj hs').symm⟩)
  | inspected _ _ => obtain ⟨_, _, hpurpose, -⟩ := hin; cases hpurpose
  | reinspected _ _ => obtain ⟨_, _, hpurpose, -⟩ := hin; cases hpurpose
  | probed _ => obtain ⟨_, _, hpurpose, -⟩ := hin; cases hpurpose
  | resumed _ => obtain ⟨_, _, hpurpose, -⟩ := hin; cases hpurpose
  | _ =>
      first
      | cases hs'
        done
      | exact .inr (.inl ⟨_, _, rfl, nofun, (Option.some.inj hs').symm⟩)

/-- What is known along a run of the loop. -/
structure Watch (cfg : AdapterConfig) (podId : String)
    (tr : List (Prog.Exchange adapterInterface)) (work : Work) : Prop where
  inWait : work.InWait
  pending : (pollLog tr).pending = work.pending
  known : ∀ y ∈ pollHistory tr, y.podId ∈ knownIds podId tr
  waiting : ∀ s, work.waits = some s →
    s.podId ∈ knownIds podId tr ∧ Timed cfg (pollHistory tr) s

lemma mem_knownIds_append {q : String} (h : q ∈ knownIds podId tr) :
    q ∈ knownIds podId (tr ++ [x]) := by
  rw [knownIds, List.filterMap_append, ← List.cons_append]
  exact List.mem_append_left _ h

lemma timed_failed {history : List Poll} {s : WaitState} (h : Timed cfg history s)
    (lastError : String) : Timed cfg history (s.failed lastError) := h

/-- The clock is read where no snapshot is pending. -/
lemma add_time {l : PollLog} {now : ℚ} (h : l.pending = none) : l.add ⟨.time, now⟩ = l := by
  obtain ⟨pending, history⟩ := l
  obtain rfl : pending = none := h
  rfl

/-- The clock is read for the pending snapshot. -/
lemma add_time_pending {l : PollLog} {now : ℚ} {p : String} {pod : Pod}
    (h : l.pending = some (p, pod)) :
    l.add ⟨.time, now⟩ = ⟨none, ⟨p, now, pod⟩ :: l.history⟩ := by
  obtain ⟨pending, history⟩ := l
  obtain rfl : pending = some (p, pod) := h
  rfl

/-- What an exchange is to the polls: the clock is read for a pending snapshot, or no poll is
completed. -/
lemma log_step (hin : work.InWait) (hpending : (pollLog tr).pending = work.pending)
    (h : Work.Moves cfg deadline work x work') :
    (∃ s pod now, work = .pollNow s pod ∧ x = ⟨.time, now⟩ ∧
      pollLog (tr ++ [x]) = ⟨none, ⟨s.podId, now, pod⟩ :: pollHistory tr⟩ ∧ work'.pending = none) ∨
    (pollHistory (tr ++ [x]) = pollHistory tr ∧ (pollLog (tr ++ [x])).pending = work'.pending ∧
      ∀ s pod, work ≠ .pollNow s pod) := by
  rw [pollHistory, pollHistory, pollLog_append]
  generalize pollLog tr = l at hpending
  cases h with
  | pollFires _ => exact .inl ⟨_, _, _, rfl, rfl, add_time_pending hpending, rfl⟩
  | pollUnreadable _ _ => exact .inl ⟨_, _, _, rfl, rfl, add_time_pending hpending, rfl⟩
  | pollUnmapped _ _ => exact .inl ⟨_, _, _, rfl, rfl, add_time_pending hpending, rfl⟩
  | pollMapped _ _ => exact .inl ⟨_, _, _, rfl, rfl, add_time_pending hpending, rfl⟩
  | polled hr =>
      refine .inr ⟨rfl, ?_, nofun⟩
      show (podOutcome _ _).toOption.map _ = _
      rw [hr]
      rfl
  | pollMissing hr =>
      refine .inr ⟨rfl, ?_, nofun⟩
      show (podOutcome _ _).toOption.map _ = _
      rw [hr]
      rfl
  | pollRaises hr _ =>
      refine .inr ⟨rfl, ?_, nofun⟩
      show (podOutcome _ _).toOption.map _ = _
      rw [hr]
      rfl
  | pollProbed hprobed =>
      refine .inr ⟨rfl, hpending.trans ?_, nofun⟩
      rcases hprobed.leads with ⟨e, rfl⟩ | rfl | ⟨detail, rfl⟩ <;> rfl
  | inspectMissing _ => obtain ⟨_, _, hpurpose, -⟩ := hin; cases hpurpose
  | inspectRaises _ _ => obtain ⟨_, _, hpurpose, -⟩ := hin; cases hpurpose
  | inspected _ _ => obtain ⟨_, _, hpurpose, -⟩ := hin; cases hpurpose
  | reinspectRaises _ => obtain ⟨_, _, hpurpose, -⟩ := hin; cases hpurpose
  | reinspected _ _ => obtain ⟨_, _, hpurpose, -⟩ := hin; cases hpurpose
  | probed _ => obtain ⟨_, _, hpurpose, -⟩ := hin; cases hpurpose
  | _ =>
      first
      | exact .inr ⟨rfl, hpending, nofun⟩
      | rw [add_time hpending]
        exact .inr ⟨rfl, hpending, nofun⟩

/-- **One step of the loop.** -/
theorem watch_step (hwatch : Watch cfg podId tr work) (hfresh : FreshIds podId (tr ++ [x]))
    (h : Work.Moves cfg deadline work x work') : Watch cfg podId (tr ++ [x]) work' := by
  rcases log_step hwatch.inWait hwatch.pending h with
    ⟨s, pod, now, rfl, rfl, hlog, hpending'⟩ | ⟨hhistory, hpending', hwork⟩
  · obtain ⟨hid, htimed⟩ := hwatch.waiting s rfl
    have hhistory : pollHistory (tr ++ [⟨.time, now⟩]) = ⟨s.podId, now, pod⟩ :: pollHistory tr :=
      congrArg PollLog.history hlog
    refine ⟨inWait_step hwatch.inWait h, by rw [hlog, hpending'], ?_, ?_⟩
    · rw [hhistory]
      rintro y hy
      rcases List.mem_cons.mp hy with rfl | hy
      · exact mem_knownIds_append hid
      · exact mem_knownIds_append (hwatch.known y hy)
    · rw [hhistory]
      intro s' hs'
      rcases waits_step hwatch.inWait h hs' with ⟨s₁, pod₁, now₁, since, hpoll, hx, htimer, rfl⟩ |
        ⟨s₁, _, hs₁, hne, -⟩ | ⟨_, _, _, hx, -⟩
      · cases hpoll
        cases hx
        exact ⟨mem_knownIds_append hid, timed_watched htimed htimer⟩
      · obtain rfl := Option.some.inj hs₁
        exact absurd rfl (hne pod)
      · cases hx
  · refine ⟨inWait_step hwatch.inWait h, hpending', ?_, ?_⟩
    · rw [hhistory]
      exact fun y hy => mem_knownIds_append (hwatch.known y hy)
    · rw [hhistory]
      intro s' hs'
      rcases waits_step hwatch.inWait h hs' with ⟨s₁, pod₁, _, _, rfl, -⟩ |
        ⟨s₁, lastError, hs₁, -, rfl⟩ | ⟨old, new, lastError, rfl, rfl⟩
      · exact absurd rfl (hwork s₁ pod₁)
      · obtain ⟨hid, htimed⟩ := hwatch.waiting s₁ hs₁
        exact ⟨mem_knownIds_append hid, timed_failed htimed lastError⟩
      · have hnew : new ∉ knownIds podId tr := hfresh tr [] old new rfl
        refine ⟨?_, rfl, fun y hy heq => hnew ?_⟩
        · rw [knownIds, List.filterMap_append]
          simp [WaitState.replaced]
        · rw [← show y.podId = new from heq]
          exact hwatch.known y hy

lemma FreshIds.of_append {tr' : List (Prog.Exchange adapterInterface)}
    (h : FreshIds podId (tr ++ tr')) : FreshIds podId tr := by
  rintro tr₁ tr₂ old new rfl
  exact h tr₁ (tr₂ ++ tr') old new (List.append_assoc _ _ _)

/-- **A run of the loop.** -/
theorem watch_run (hfresh : FreshIds podId tr)
    (h : Prog.Transcript (Work.Moves cfg deadline) (.wait podId) tr work) :
    Watch cfg podId tr work := by
  refine h.invariant (fun tr work => FreshIds podId tr → Watch cfg podId tr work) ?_ ?_ hfresh
  · intro _
    refine ⟨trivial, rfl, nofun, fun s hs => ?_⟩
    obtain rfl := Option.some.inj hs
    exact ⟨List.mem_cons_self, rfl, fun x hx => absurd hx List.not_mem_nil⟩
  · intro tr work x work' hwatch hmoves hfresh
    exact watch_step (hwatch hfresh.of_append) hfresh hmoves

/-- The last exchange before the clock is read for a snapshot is the query. -/
lemma query_last {s : WaitState} {pod : Pod} (hfresh : FreshIds podId tr)
    (h : Prog.Transcript (Work.Moves cfg deadline) (.wait podId) tr (.pollNow s pod)) :
    ∃ tr₀ r, tr = tr₀ ++ [⟨.graphql (.pod s.podId), r⟩] ∧ podOutcome s.podId r = .ok pod := by
  rcases List.eq_nil_or_concat tr with rfl | ⟨tr₀, x, rfl⟩
  · cases h
  · rw [List.concat_eq_append] at h hfresh ⊢
    obtain ⟨work, hbefore, hmoves⟩ := h.last
    cases hmoves with
    | polled hr => exact ⟨tr₀, _, rfl, hr⟩
    | inspected _ hwork => cases hwork
    | reinspected _ hwork => cases hwork
    | probed hprobed => rcases hprobed.leads with ⟨e, h⟩ | h | ⟨detail, h⟩ <;> cases h
    | pollProbed hprobed => rcases hprobed.leads with ⟨e, h⟩ | h | ⟨detail, h⟩ <;> cases h

/-- A pod is about to be terminated because the watchdog has just fired. -/
lemma fired_last {reason : Reason} {q : String} (hfresh : FreshIds podId tr)
    (h : Prog.Transcript (Work.Moves cfg deadline) (.wait podId) tr (.terminate reason q)) :
    ∃ tr₀ s pod now, tr = tr₀ ++ [⟨.time, now⟩] ∧ s.podId = q ∧
      Prog.Transcript (Work.Moves cfg deadline) (.wait podId) tr₀ (.pollNow s pod) ∧
      watchdog cfg s pod now = .fire := by
  rcases List.eq_nil_or_concat tr with rfl | ⟨tr₀, x, rfl⟩
  · cases h
  · rw [List.concat_eq_append] at h hfresh ⊢
    obtain ⟨work, hbefore, hmoves⟩ := h.last
    have hin := (watch_run hfresh.of_append hbefore).inWait
    cases hmoves with
    | pollFires hfire => exact ⟨tr₀, _, _, _, rfl, rfl, hbefore, hfire⟩
    | inspected _ _ => obtain ⟨_, _, hpurpose, -⟩ := hin; cases hpurpose
    | reinspected _ _ => obtain ⟨_, _, hpurpose, -⟩ := hin; cases hpurpose
    | probed hprobed => rcases hprobed.leads with ⟨e, h⟩ | h | ⟨detail, h⟩ <;> cases h
    | pollProbed hprobed => rcases hprobed.leads with ⟨e, h⟩ | h | ⟨detail, h⟩ <;> cases h

end Machine

/-! ## When the watchdog fires -/

/-- **Frozen for too long.**  The run has just polled `q`, the watchdog is on, and the longest frozen
block that ends with this poll began more than the threshold ago. -/
def FrozenTooLong (cfg : AdapterConfig) (tr : List (Prog.Exchange adapterInterface)) (q : String) :
    Prop :=
  ∃ tr₀ r pod now first, tr = tr₀ ++ [⟨.graphql (.pod q), r⟩, ⟨.time, now⟩] ∧
    podOutcome q r = .ok pod ∧ Armed cfg ∧ FrozenFrom q (pollHistory tr) first ∧
    (cfg.runpodStuckInitTimeoutSeconds : ℚ) < now - first.now

section Fires

variable {cfg : AdapterConfig} {deadline : ℚ} {podId q : String}
  {tr : List (Prog.Exchange adapterInterface)}

/-- A snapshot whose clock has been read is the newest poll. -/
lemma pollHistory_poll {r : Except Exn HttpAnswer} {pod : Pod} {now : ℚ}
    (hr : podOutcome q r = .ok pod) :
    pollHistory (tr ++ [⟨.graphql (.pod q), r⟩, ⟨.time, now⟩]) =
      ⟨q, now, pod⟩ :: pollHistory tr := by
  have hpending : (pollLog (tr ++ [⟨.graphql (.pod q), r⟩])).pending = some (q, pod) := by
    rw [pollLog_append]
    show (podOutcome q r).toOption.map _ = _
    rw [hr]
    rfl
  rw [List.append_cons, pollHistory, pollLog_append, add_time_pending hpending]
  show _ :: (pollLog (tr ++ [⟨.graphql (.pod q), r⟩])).history = _
  rw [pollLog_append]
  rfl

/-- A pod that is about to be terminated has been frozen for too long. -/
lemma frozenTooLong_of_terminate {reason : Reason} (hfresh : FreshIds podId tr)
    (h : Prog.Transcript (Work.Moves cfg deadline) (.wait podId) tr (.terminate reason q)) :
    FrozenTooLong cfg tr q := by
  obtain ⟨tr₁, s, pod, now, rfl, rfl, hpoll, hfire⟩ := fired_last hfresh h
  obtain ⟨tr₀, r, rfl, hr⟩ := query_last hfresh.of_append hpoll
  have hhistory : pollHistory (tr₀ ++ [⟨.graphql (.pod s.podId), r⟩] ++ [⟨.time, now⟩]) =
      ⟨s.podId, now, pod⟩ :: pollHistory tr₀ := by
    rw [← List.append_cons]
    exact pollHistory_poll hr
  have htimed := ((watch_run hfresh.of_append hpoll).waiting s rfl).2
  have hbefore : pollHistory (tr₀ ++ [⟨.graphql (.pod s.podId), r⟩]) = pollHistory tr₀ := by
    rw [pollHistory, pollLog_append]
    rfl
  rw [hbefore] at htimed
  obtain ⟨harmed, t, ht, hlate⟩ := (watchdog_fire_iff htimed).mp hfire
  obtain ⟨first, hfirst, rfl⟩ := frozenFrom_of_frozenSince ht
  exact ⟨tr₀, r, pod, now, first, (List.append_cons _ _ _).symm, hr, harmed, by rwa [hhistory], hlate⟩

/-- A pod that has been frozen for too long is about to be terminated. -/
lemma terminate_of_frozenTooLong {work : Work} (hfresh : FreshIds podId tr)
    (h : Prog.Transcript (Work.Moves cfg deadline) (.wait podId) tr work)
    (hfrozen : FrozenTooLong cfg tr q) : work = .terminate .stuck q := by
  obtain ⟨tr₀, r, pod, now, first, rfl, hr, harmed, hfirst, hlate⟩ := hfrozen
  rw [pollHistory_poll hr] at hfirst
  rw [List.append_cons] at h
  obtain ⟨work₁, hquery, hread⟩ := h.last
  obtain ⟨work₀, hbefore, hpolled⟩ := hquery.last
  have hwatch := watch_run hfresh.of_append hbefore
  have hin := hwatch.inWait
  cases hpolled with
  | polled hr' =>
      obtain rfl := Except.ok.inj (hr.symm.trans hr')
      rename_i s
      have htimed := (hwatch.waiting s rfl).2
      -- the block of the newest poll is the one that the timer stands for
      have hwarming : (⟨s.podId, now, pod⟩ : Poll).Warming := by
        obtain ⟨block, before, hhistory, hblock, -⟩ := hfirst
        cases block with
        | nil =>
            obtain ⟨rfl, -⟩ := List.cons.inj hhistory
            exact hblock.head.2
        | cons y block =>
            obtain ⟨rfl, -⟩ := List.cons.inj hhistory
            exact hblock.head.2
      have hfire : watchdog cfg s pod now = .fire := by
        obtain ⟨t, ht⟩ := frozenSince_isSome hwarming
        obtain ⟨first', hfirst', rfl⟩ := frozenFrom_of_frozenSince ht
        obtain rfl := hfirst.unique hfirst'
        exact (watchdog_fire_iff htimed).mpr ⟨harmed, _, ht, hlate⟩
      cases hread with
      | pollFires _ => rfl
      | pollUnreadable htimer _ => exact nomatch hfire.symm.trans htimer
      | pollUnmapped htimer _ => exact nomatch hfire.symm.trans htimer
      | pollMapped htimer _ => exact nomatch hfire.symm.trans htimer
  | pollMissing hr' => exact nomatch hr.symm.trans hr'
  | pollRaises hr' _ => exact nomatch hr.symm.trans hr'
  | inspectMissing _ => obtain ⟨_, _, hpurpose, -⟩ := hin; cases hpurpose
  | inspectRaises _ _ => obtain ⟨_, _, hpurpose, -⟩ := hin; cases hpurpose
  | inspected _ _ => obtain ⟨_, _, hpurpose, -⟩ := hin; cases hpurpose
  | reinspectRaises _ => obtain ⟨_, _, hpurpose, -⟩ := hin; cases hpurpose
  | reinspected _ _ => obtain ⟨_, _, hpurpose, -⟩ := hin; cases hpurpose

/-! ### Two terminations -/

/-- The pod that is polled, or that the watchdog has just condemned. -/
def Work.polled : Work → Option String
  | .pollTime s | .pollSleep s | .pollQuery s | .pollNow s _ | .pollLate s | .pollProbe s _ =>
      some s.podId
  | .terminate _ q => some q
  | _ => none

lemma polled_of_waits {work : Work} {s : WaitState} (h : work.waits = some s) :
    work.polled = some s.podId := by
  cases work <;> cases h <;> rfl

/-- A pod that is polled was polled before, or is a replacement. -/
lemma polled_step {work work' : Work} {x : Prog.Exchange adapterInterface} (hin : work.InWait)
    (h : Work.Moves cfg deadline work x work') (hq : work'.polled = some q) :
    work.polled = some q ∨ ∃ old, x = ⟨.note (.replaced old q), ()⟩ := by
  cases hwaits : work'.waits with
  | some s' =>
      obtain rfl := Option.some.inj ((polled_of_waits hwaits).symm.trans hq)
      rcases waits_step hin h hwaits with ⟨s, pod, now, since, rfl, -, -, rfl⟩ |
        ⟨s, lastError, hs, -, rfl⟩ | ⟨old, new, lastError, rfl, rfl⟩
      · exact .inl rfl
      · have hpolled := polled_of_waits hs
        exact .inl hpolled
      · exact .inr ⟨old, rfl⟩
  | none =>
      cases h with
      | pollFires _ => exact .inl hq
      | inspected _ _ => obtain ⟨_, _, hpurpose, -⟩ := hin; cases hpurpose
      | reinspected _ _ => obtain ⟨_, _, hpurpose, -⟩ := hin; cases hpurpose
      | probed _ => obtain ⟨_, _, hpurpose, -⟩ := hin; cases hpurpose
      | pollProbed hprobed =>
          rcases hprobed.leads with ⟨e, rfl⟩ | rfl | ⟨detail, rfl⟩
          · cases hq
          · cases hq
          · cases hwaits
      | _ =>
          first
          | cases hwaits
            done
          | cases hq

/-- Once no pod is polled, the pods that are polled later are new ones. -/
lemma polled_new {tr' : List (Prog.Exchange adapterInterface)} {work work' : Work}
    (hfresh : FreshIds podId (tr ++ tr')) (hin : work.InWait) (hnone : work.polled = none)
    (h : Prog.Transcript (Work.Moves cfg deadline) work tr' work') (hq : work'.polled = some q) :
    q ∉ knownIds podId tr := by
  have hinv := h.invariant (fun tr' work' => FreshIds podId (tr ++ tr') → work'.InWait ∧
    ∀ q, work'.polled = some q → q ∉ knownIds podId tr) (fun _ => ⟨hin, by simp [hnone]⟩) ?_ hfresh
  · exact hinv.2 q hq
  · intro tr' work₁ x work₂ ih hmoves hfresh
    have hassoc : tr ++ (tr' ++ [x]) = tr ++ tr' ++ [x] := (List.append_assoc _ _ _).symm
    obtain ⟨hin₁, hnew⟩ := ih (by rw [hassoc] at hfresh; exact hfresh.of_append)
    refine ⟨inWait_step hin₁ hmoves, fun q hq => ?_⟩
    rcases polled_step hin₁ hmoves hq with hpolled | ⟨old, rfl⟩
    · exact hnew q hpolled
    · have hq : q ∉ knownIds podId (tr ++ tr') := hfresh (tr ++ tr') [] old q hassoc
      intro hmem
      refine hq ?_
      rw [knownIds, List.filterMap_append, ← List.cons_append]
      exact List.mem_append_left _ hmem

/-- A poll is an old one, or the clock has been read for it since. -/
lemma mem_pollHistory_append {tr' : List (Prog.Exchange adapterInterface)} {y : Poll}
    (h : y ∈ pollHistory (tr ++ tr')) : y ∈ pollHistory tr ∨ ⟨.time, y.now⟩ ∈ tr' := by
  induction tr' using List.reverseRecOn with
  | nil => exact .inl (by rwa [List.append_nil] at h)
  | append_singleton tr' x ih =>
      rw [← List.append_assoc, pollHistory, pollLog_append] at h
      have hold : y ∈ pollHistory (tr ++ tr') →
          y ∈ pollHistory tr ∨ ⟨.time, y.now⟩ ∈ tr' ++ [x] := fun hy =>
        (ih hy).imp_right (List.mem_append_left [x])
      obtain ⟨o, r⟩ := x
      cases o with
      | time =>
          cases hpending : (pollLog (tr ++ tr')).pending with
          | none =>
              rw [@add_time _ r hpending] at h
              exact hold h
          | some snapshot =>
              rw [@add_time_pending _ r snapshot.1 snapshot.2 hpending] at h
              rcases List.mem_cons.mp h with rfl | h
              · exact .inr (List.mem_append_right _ List.mem_cons_self)
              · exact hold h
      | graphql call => cases call <;> exact hold h
      | _ => exact hold h

end Fires

/-! ## Runs of the loop -/

/-- A run of `_wait_until_ready`, up to the next operation or to its end.  The ids of replacements are
new ones, and the clock does not go back. -/
structure WaitCall (cfg : AdapterConfig) (deadline : ℚ) where
  rounds : ℕ
  podId : String
  exchanges : List (Prog.Exchange adapterInterface)
  next : Option Op
  comes : (waitUntilReady cfg rounds deadline podId).run.Comes exchanges next
  configured : cfg.runpodApiKey ≠ ""
  fresh : FreshIds podId exchanges
  nondecreasing : ∀ (i j : ℕ) (now now' : ℚ), i ≤ j → exchanges[i]? = some ⟨.time, now⟩ →
    exchanges[j]? = some ⟨.time, now'⟩ → now ≤ now'

namespace WaitCall

variable {cfg : AdapterConfig} {deadline : ℚ} (c : WaitCall cfg deadline)

/-- A pod is terminated by the exchange with this index, at a poll at the time `now`. -/
def TerminatesAt (i : ℕ) (now : ℚ) : Prop :=
  c.exchanges[i]? = some ⟨.time, now⟩ ∧
    ∃ p r, c.exchanges[i + 1]? = some ⟨.graphql (.podTerminate p), r⟩

/-- Two terminations are more than the threshold apart. -/
def Apart : Prop :=
  ∀ i j now now', i < j → c.TerminatesAt i now → c.TerminatesAt j now' →
    (cfg.runpodStuckInitTimeoutSeconds : ℚ) < now' - now

lemma exists_run : ∃ work,
    Prog.Transcript (Work.Moves cfg deadline) (.wait c.podId) c.exchanges work ∧
      match c.next with
      | some o => work.asks cfg = some o
      | none => ∃ outcome, work = .leave outcome := by
  obtain ⟨rounds, podId, exchanges, next, hcomes, hkey, -, -⟩ := c
  have hwithin := @waitUntilReady_within cfg deadline hkey rounds podId
  cases next with
  | some o => exact hwithin.exists_asks (work_total cfg deadline) hcomes
  | none =>
      obtain ⟨r, hruns⟩ := hcomes
      obtain ⟨work, hrun, hpost⟩ := hwithin.exists_runs (work_total cfg deadline) hruns
      rcases r with e | url
      · exact ⟨work, hrun, _, hpost⟩
      · exact ⟨work, hrun, _, hpost⟩

/-- The next operation terminates `q` exactly if `q` has been frozen for too long. -/
lemma next_terminates_iff (q : String) :
    c.next = some (.graphql (.podTerminate q)) ↔ FrozenTooLong cfg c.exchanges q := by
  obtain ⟨work, hrun, hnext⟩ := c.exists_run
  constructor
  · intro hterminates
    rw [hterminates] at hnext
    obtain ⟨reason, rfl⟩ : ∃ reason, work = .terminate reason q := by
      cases work <;> cases hnext
      exact ⟨_, rfl⟩
    exact frozenTooLong_of_terminate c.fresh hrun
  · intro hfrozen
    obtain rfl := terminate_of_frozenTooLong c.fresh hrun hfrozen
    cases hn : c.next with
    | some o =>
        rw [hn] at hnext
        exact hnext.symm
    | none =>
        rw [hn] at hnext
        obtain ⟨outcome, hleave⟩ := hnext
        cases hleave

lemma fresh_take (n : ℕ) : FreshIds c.podId (c.exchanges.take n) := by
  have hfresh := c.fresh
  rw [← List.take_append_drop n c.exchanges] at hfresh
  exact hfresh.of_append

/-- The run up to a termination: the pod has been frozen for too long. -/
lemma run_before {i : ℕ} {now : ℚ} (h : c.TerminatesAt i now) : ∃ reason q,
    Prog.Transcript (Work.Moves cfg deadline) (.wait c.podId) (c.exchanges.take (i + 1))
      (.terminate reason q) ∧
    ∃ first, FrozenFrom q (pollHistory (c.exchanges.take (i + 1))) first ∧
      (cfg.runpodStuckInitTimeoutSeconds : ℚ) < now - first.now := by
  obtain ⟨work, hrun, -⟩ := c.exists_run
  obtain ⟨hnow, q, r, hq⟩ := h
  obtain ⟨work₁, work₂, hbefore, hmoves, -⟩ := hrun.at_index hq
  cases hmoves with
  | terminated =>
      obtain ⟨tr₀, r, pod, now₁, first, htake, -, -, hfirst, hlate⟩ :=
        frozenTooLong_of_terminate (c.fresh_take (i + 1)) hbefore
      rw [List.take_add_one, hnow, List.append_cons] at htake
      obtain ⟨-, hlast⟩ := List.append_inj' htake rfl
      cases hlast
      exact ⟨_, q, hbefore, first, hfirst, hlate⟩

/-- A pod that is terminated was not polled before the termination that precedes it. -/
lemma polled_after {tr : List (Prog.Exchange adapterInterface)} {reason : Reason} {p q : String}
    {r : Except Exn HttpAnswer} {i : ℕ} {y : Poll} (hfresh : FreshIds c.podId tr)
    (hrun : Prog.Transcript (Work.Moves cfg deadline) (.wait c.podId) tr (.terminate reason q))
    (hi : tr[i]? = some ⟨.graphql (.podTerminate p), r⟩) (hy : y ∈ pollHistory tr)
    (hq : y.podId = q) : ⟨.time, y.now⟩ ∈ tr.drop (i + 1) := by
  obtain ⟨work₁, work₂, hbefore, hmoves, hafter⟩ := hrun.at_index hi
  have htake : tr.take (i + 1) = tr.take i ++ [⟨.graphql (.podTerminate p), r⟩] := by
    rw [List.take_add_one, hi]
    rfl
  have hsplit : tr.take (i + 1) ++ tr.drop (i + 1) = tr := List.take_append_drop (i + 1) tr
  have hold : Prog.Transcript (Work.Moves cfg deadline) (.wait c.podId) (tr.take (i + 1)) work₂ := by
    rw [htake]
    exact hbefore.append (.cons hmoves (.nil _))
  rw [← hsplit] at hfresh hy
  have hwatch := watch_run hfresh.of_append hold
  cases hmoves with
  | terminated =>
      rcases mem_pollHistory_append hy with hy | hy
      · refine absurd ?_ (polled_new hfresh hwatch.inWait rfl hafter rfl)
        rw [← hq]
        exact hwatch.known y hy
      · exact hy

lemma terminations_apart : c.Apart := by
  intro i j now now' hij hi hj
  obtain ⟨reason, q, hrun, first, hfirst, hlate⟩ := c.run_before hj
  obtain ⟨hnow, p, r, hp⟩ := hi
  -- the two terminations are not next to each other
  have hj' : i + 1 < j + 1 := Nat.succ_lt_succ hij
  obtain ⟨block, before, hhistory, hfrozen, -⟩ := hfirst
  have hmem : first ∈ pollHistory (c.exchanges.take (j + 1)) := by
    rw [hhistory]
    exact List.mem_append_right _ List.mem_cons_self
  have hid : first.podId = q := (hfrozen.1 first (List.mem_append_right _ List.mem_cons_self)).1
  have hterminate : (c.exchanges.take (j + 1))[i + 1]? = some ⟨.graphql (.podTerminate p), r⟩ := by
    rw [List.getElem?_take_of_lt hj', hp]
  obtain ⟨k, hk⟩ := List.mem_iff_getElem?.mp
    (c.polled_after (c.fresh_take (j + 1)) hrun hterminate hmem hid)
  rw [List.getElem?_drop, List.getElem?_take] at hk
  split_ifs at hk
  -- the block began after the first termination
  have hle : now ≤ first.now := c.nondecreasing i _ now first.now (by omega) hnow hk
  linarith only [hle, hlate]

end WaitCall

/-- **The watchdog fires exactly on a frozen warmup.**  The next operation of a run of the poll loop
terminates `q` exactly if `q` has just been polled and has been frozen for too long; and any two
terminations are more than the threshold apart. -/
theorem watchdog_fires_exactly {cfg : AdapterConfig} {deadline : ℚ} (c : WaitCall cfg deadline) :
    (∀ q, c.next = some (.graphql (.podTerminate q)) ↔ FrozenTooLong cfg c.exchanges q) ∧ c.Apart :=
  ⟨c.next_terminates_iff, c.terminations_apart⟩

/-- The answer to a status query about a pod on a machine, before its container has started. -/
def warmingAnswer : HttpAnswer where
  status := 200
  text := "\x7b\"data\":\x7b\"pod\":\x7b\"machineId\":\"m\",\"runtime\":null\x7d\x7d\x7d"
  json := .ok (.obj [("data", .obj [("pod", .obj [("machineId", .str "m"), ("runtime", .null)])])])
  errorsText := "None"

/-- A round of the loop that finds a pod so. -/
def warmingRound (now : ℚ) : List (Prog.Exchange adapterInterface) :=
  [⟨.time, now⟩, ⟨.sleep 5, Except.ok ()⟩, ⟨.graphql (.pod "pod"), Except.ok warmingAnswer⟩,
    ⟨.time, now + 5⟩]

/-- A pod that shows no progress for longer than the threshold is terminated. -/
example : (waitUntilReady .template 2 600 "pod").run.Asks
    (warmingRound 0 ++ ⟨.time, (5 : ℚ)⟩ :: warmingRound 305) (.graphql (.podTerminate "pod")) :=
  Prog.asks_of_follow (by decide +kernel)

end SpeakrRunpod
