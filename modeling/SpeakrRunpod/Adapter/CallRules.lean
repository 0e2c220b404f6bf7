import SpeakrRunpod.Adapter.Runpod
import SpeakrRunpod.Core.Monitor

/-!
# The operations of the adapter under a rule

One rule for each operation of `adapterInterface`, for the programs that `Async.Obeys` speaks of.
-/

namespace SpeakrRunpod

open Coop

namespace Adapter

variable {W : Type} {env : W → Prog.Exchange adapterInterface → W → Prop} {rule : W → Op → Prop}
  {E : Exn → W → Prop} {w : W}

lemma obeys_time {Q : ℚ → W → Prop} (hrule : rule w .time)
    (h : ∀ (now : ℚ) w', env w ⟨.time, now⟩ w' → Q now w') : Async.Obeys env rule time Q E w :=
  ⟨hrule, h⟩

lemma obeys_load {Q : String → W → Prop} (hrule : rule w .load)
    (h : ∀ (r : Except Exn String) w', env w ⟨.load, r⟩ w' → Contract.outcome Q E r w') :
    Async.Obeys env rule load Q E w := ⟨hrule, h⟩

lemma obeys_sleep {seconds : ℚ} {Q : Unit → W → Prop} (hrule : rule w (.sleep seconds))
    (h : ∀ (r : Except Exn Unit) w', env w ⟨.sleep seconds, r⟩ w' → Contract.outcome Q E r w') :
    Async.Obeys env rule (sleep seconds) Q E w := ⟨hrule, h⟩

lemma obeys_clear {podId : String} {Q : Unit → W → Prop} (hrule : rule w (.clear podId))
    (h : ∀ w', env w ⟨.clear podId, ()⟩ w' → Q () w') :
    Async.Obeys env rule (clear podId) Q E w := ⟨hrule, fun _ => h⟩

lemma obeys_openState {podId : String} {Q : Unit → W → Prop} (hrule : rule w (.openState podId))
    (h : ∀ w', env w ⟨.openState podId, ()⟩ w' → Q () w') :
    Async.Obeys env rule (openState podId) Q E w := ⟨hrule, fun _ => h⟩

lemma obeys_writeState {podId : String} {Q : Unit → W → Prop} (hrule : rule w (.writeState podId))
    (h : ∀ w', env w ⟨.writeState podId, ()⟩ w' → Q () w') :
    Async.Obeys env rule (writeState podId) Q E w := ⟨hrule, fun _ => h⟩

lemma obeys_acquireLock {Q : Unit → W → Prop} (hrule : rule w .acquireLock)
    (h : ∀ (r : Except Exn Unit) w', env w ⟨.acquireLock, r⟩ w' → Contract.outcome Q E r w') :
    Async.Obeys env rule acquireLock Q E w := ⟨hrule, h⟩

lemma obeys_releaseLock {Q : Unit → W → Prop} (hrule : rule w .releaseLock)
    (h : ∀ w', env w ⟨.releaseLock, ()⟩ w' → Q () w') :
    Async.Obeys env rule releaseLock Q E w := ⟨hrule, fun _ => h⟩

lemma obeys_acquireDeployLock {Q : Unit → W → Prop} (hrule : rule w .acquireDeployLock)
    (h : ∀ (r : Except Exn Unit) w', env w ⟨.acquireDeployLock, r⟩ w' →
      Contract.outcome Q E r w') :
    Async.Obeys env rule acquireDeployLock Q E w := ⟨hrule, h⟩

lemma obeys_releaseDeployLock {Q : Unit → W → Prop} (hrule : rule w .releaseDeployLock)
    (h : ∀ (r : Except Exn Unit) w', env w ⟨.releaseDeployLock, r⟩ w' →
      Contract.outcome Q E r w') :
    Async.Obeys env rule releaseDeployLock Q E w := ⟨hrule, h⟩

lemma obeys_post {call : GraphqlCall} {Q : HttpAnswer → W → Prop} (hrule : rule w (.graphql call))
    (h : ∀ (r : Except Exn HttpAnswer) w', env w ⟨.graphql call, r⟩ w' →
      Contract.outcome Q E r w') :
    Async.Obeys env rule (post call) Q E w := ⟨hrule, h⟩

lemma obeys_health {url : String} {Q : HealthAnswer → W → Prop} (hrule : rule w (.health url))
    (h : ∀ (r : Except Exn HealthAnswer) w', env w ⟨.health url, r⟩ w' →
      Contract.outcome Q E r w') :
    Async.Obeys env rule (health url) Q E w := ⟨hrule, h⟩

lemma obeys_note {n : Note} {Q : Unit → W → Prop} (hrule : rule w (.note n))
    (h : ∀ w', env w ⟨.note n, ()⟩ w' → Q () w') : Async.Obeys env rule (note n) Q E w :=
  ⟨hrule, fun _ => h⟩

end Adapter

/-! ## The client -/

section Client

variable {W : Type} {env : W → Prog.Exchange adapterInterface → W → Prop} {rule : W → Op → Prop}
  {E : Exn → W → Prop} {w : W} {cfg : AdapterConfig}

/-- A call is posted, and its outcome is that of the answer. -/
lemma obeys_graphql (hkey : cfg.runpodApiKey ≠ "") {call : GraphqlCall} {Q : Json → W → Prop}
    (hrule : rule w (.graphql call))
    (h : ∀ (r : Except Exn HttpAnswer) w', env w ⟨.graphql call, r⟩ w' →
      Contract.outcome Q E (call.outcome r) w') :
    Async.Obeys env rule (graphql cfg call) Q E w := by
  rw [graphql, requireApiKey, if_neg hkey]
  refine Async.obeys_bind (Async.obeys_pure (Async.obeys_bind (Adapter.obeys_post hrule ?_)))
  rintro (e | answer) w' hx
  · exact h (.error e) w' hx
  · exact Async.obeys_ofExcept (h (.ok answer) w' hx)

lemma obeys_getPod (hkey : cfg.runpodApiKey ≠ "") {podId : String} {Q : Pod → W → Prop}
    (hrule : rule w (.graphql (.pod podId)))
    (h : ∀ (r : Except Exn HttpAnswer) w', env w ⟨.graphql (.pod podId), r⟩ w' →
      Contract.outcome Q E (podOutcome podId r) w') :
    Async.Obeys env rule (getPod cfg podId) Q E w := by
  refine Async.obeys_bind (obeys_graphql hkey hrule ?_)
  intro r w' hx
  have hpost := h r w' hx
  rw [podOutcome] at hpost
  cases hr : (GraphqlCall.pod podId).outcome r with
  | error e =>
      rw [hr] at hpost
      exact hpost
  | ok payload =>
      rw [hr] at hpost
      exact Async.obeys_ofExcept hpost

lemma obeys_terminatePod (hkey : cfg.runpodApiKey ≠ "") {podId : String} {Q : Unit → W → Prop}
    (hrule : rule w (.graphql (.podTerminate podId)))
    (h : ∀ (r : Except Exn HttpAnswer) w', env w ⟨.graphql (.podTerminate podId), r⟩ w' →
      Contract.outcome (fun _ => Q ()) E ((GraphqlCall.podTerminate podId).outcome r) w') :
    Async.Obeys env rule (terminatePod cfg podId) Q E w :=
  Async.obeys_bind (obeys_graphql hkey hrule h)

lemma obeys_startPod (hkey : cfg.runpodApiKey ≠ "") {podId : String} {Q : Unit → W → Prop}
    (hrule : rule w (.graphql (.podResume podId cfg.runpodGpuCount)))
    (h : ∀ (r : Except Exn HttpAnswer) w',
      env w ⟨.graphql (.podResume podId cfg.runpodGpuCount), r⟩ w' →
        Contract.outcome (fun _ => Q ()) E
          ((GraphqlCall.podResume podId cfg.runpodGpuCount).outcome r) w') :
    Async.Obeys env rule (startPod cfg podId) Q E w :=
  Async.obeys_bind (obeys_graphql hkey hrule h)

/-- The health probe, with what it makes of a failure. -/
lemma obeys_wrapperHealthyDetail {url : String} {Q : Bool × String → W → Prop}
    (hrule : rule w (.health (url ++ "/health")))
    (h : ∀ (r : Except Exn HealthAnswer) w', env w ⟨.health (url ++ "/health"), r⟩ w' →
      match r with
      | .ok answer => Q (healthVerdict answer) w'
      | .error e => if e.isHttpError then Q (false, s!"{e.httpName}: {e.text}") w' else E e w') :
    Async.Obeys env rule (wrapperHealthyDetail url) Q E w := by
  refine Async.obeys_bind (Async.obeys_attempt (Adapter.obeys_health hrule ?_))
  rintro (e | answer) w' hx
  · have hpost := h (.error e) w' hx
    dsimp only at hpost
    show Async.Obeys env rule (if e.isHttpError then _ else _) Q E w'
    split_ifs at hpost ⊢
    · exact Async.obeys_pure hpost
    · exact Async.obeys_throw hpost
  · exact Async.obeys_pure (h (.ok answer) w' hx)

end Client

end SpeakrRunpod
