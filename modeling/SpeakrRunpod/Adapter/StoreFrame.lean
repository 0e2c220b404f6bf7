import SpeakrRunpod.Adapter.System

/-!
# What touches the record

Of all that happens in a process, `store` and `clear` are what changes the pod store: no answer of
RunPod does, and no step of the idle controller.

* `store_frame` — what those two keep is true of the store in every state reached.
-/

namespace SpeakrRunpod

open Coop

lemma store_graphqlAnswered (w : World) (call : GraphqlCall) (r : Except Exn HttpAnswer) :
    (w.graphqlAnswered call r).store = w.store := by
  cases call with
  | pod p => rcases w.graphqlAnswered_pod p r with he | he <;> rw [he]; rfl
  | podTerminate p =>
      simp only [World.graphqlAnswered, World.terminateAnswered]
      split
      · rfl
      · split_ifs <;> rfl
  | podFindAndDeployOnDemand input =>
      simp only [World.graphqlAnswered]
      split <;> rfl
  | _ => rfl

/-- An answer leaves the store alone. -/
lemma store_effect {i : TaskId} {o : Op} {r : o.Res} {w w' : World}
    (h : w.effect i o r = some w') : w'.store = w.store := by
  cases o with
  | graphql call =>
      cases h
      exact store_graphqlAnswered w call r
  | firstStep =>
      cases i with
      | idle n =>
          simp only [World.effect] at h
          split_ifs at h
          cases h
          rfl
      | request n => cases h
  | acquireLock =>
      rcases r with e | ⟨⟩
      · cases h
        rfl
      · rw [World.effect] at h
        split_ifs at h
        cases h
        rfl
  | arrive | sleep | acquireDeployLock | releaseDeployLock | health | podLogs | forward =>
      cases h
      rfl
  | _ => cases h

lemma store_answer {i : TaskId} {o : Op} {r : o.Res} {w w' : World}
    (h : w.answer? i o r = some w') : w'.store = w.store := by
  cases i with
  | idle n =>
      rw [World.answer?] at h
      split_ifs at h
      · cases h
        rfl
      · exact store_effect h
  | request n =>
      rw [World.answer?] at h
      split_ifs at h
      · cases h
        rfl
      · exact store_effect h

/-- **What `store` and `clear` keep, a process keeps.** -/
lemma store_frame (policy : Policy) {P : ActivePodStore → Prop}
    (hopen : ∀ s f p, P s → P (s.openState f p).1) (hclear : ∀ s f q, P s → P (s.clear f q).1) :
    (system policy).Frame fun w => P w.store where
  exec {i o w r w'} h hw := by
    change World.exec i o w = some (r, w') at h
    cases o with
    | openState p =>
        cases h
        exact hopen w.store w.file p hw
    | clear p =>
        cases h
        exact hclear w.store w.file (some p) hw
    | acquireLock =>
        rw [World.exec] at h
        split_ifs at h
        cases h
        exact hw
    | note m =>
        cases h
        cases m <;> exact hw
    | requestStarted | requestFinished | activeRequests | time | load | writeState | releaseLock =>
        cases h
        exact hw
    | _ => cases h
  issue {i o w} hw := by
    cases o with
    | graphql call => cases call <;> exact hw
    | _ => exact hw
  answer h hw := by rwa [store_answer h.2]
  exit {i w} hw := by cases i <;> exact hw
  env h hw := by cases h <;> exact hw

end SpeakrRunpod
