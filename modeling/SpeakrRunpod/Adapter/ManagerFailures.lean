import SpeakrRunpod.Adapter.CallMachine

/-!
# What the manager lets through

The exceptions of `ensure_ready`, by where they come from.  A `RequestError` is never made by the
code: it is raised by a request, and from there it is on its way until something else is raised in
its place.

* `Exn.failure?` — an exception as a failure of the transport.
* `Op.raised` — what an operation raises; the failure of a probe is an answer.
* `Local` — computations that raise no such failure: the readings of answers and pods are.
* `work_failure`, `moves_failure` — the step lemma: the failure that a stage will raise is the one
  that was raised last.
-/

namespace SpeakrRunpod

open Coop

/-! ## What is raised -/

/-- The class of a transport failure, and its text. -/
abbrev Failure := RequestError × String

/-- The exception as a transport failure. -/
def Exn.failure? : Exn → Option Failure
  | .requestError kind message => some (kind, message)
  | _ => none

/-- The exception is one of Python's own: neither of `httpx` nor of the adapter. -/
def Exn.foreign : Exn → Bool
  | .timeoutError | .valueError _ | .unicodeError _ | .osError _ | .recursionError _
  | .cancelledError => true
  | _ => false

/-- What an operation raises. -/
def errorOf {α : Type} : Except Exn α → Option Exn
  | .ok _ => none
  | .error e => some e

/-- What a probe raises: a failure of the network is its answer. -/
def probeRaises : Except Exn HealthAnswer → Option Exn
  | .ok _ => none
  | .error e => if e.isHttpError then none else some e

/-- What an operation of the manager raises. -/
def Op.raised : (o : Op) → o.Res → Option Exn
  | .arrive, _ | .openState _, _ | .writeState _, _ | .clear _, _ | .releaseLock, _ | .note _, _
  | .activeRequests, _ | .time, _ => none
  | .load, (r : Except Exn String) => errorOf r
  | .graphql _, (r : Except Exn HttpAnswer) => errorOf r
  | .health _, (r : Except Exn HealthAnswer) => probeRaises r
  | .forward _, (r : Except Exn Reply) => errorOf r
  | .firstStep, (r : Except Exn Unit) | .requestStarted, (r : Except Exn Unit)
  | .requestFinished, (r : Except Exn Unit) | .sleep _, (r : Except Exn Unit)
  | .acquireLock, (r : Except Exn Unit) | .acquireDeployLock, (r : Except Exn Unit)
  | .releaseDeployLock, (r : Except Exn Unit) | .podLogs _, (r : Except Exn Unit) => errorOf r

/-- A request of the manager fails. -/
def Op.fails : (o : Op) → o.Res → Bool
  | .graphql _, (r : Except Exn HttpAnswer) => ((errorOf r).bind Exn.failure?).isSome
  | .forward _, (r : Except Exn Reply) => ((errorOf r).bind Exn.failure?).isSome
  | _, _ => false

/-- Giving back the deploy lock raises, and the deploy loop goes on: whatever was on its way is
lost. -/
def Op.swallows : (o : Op) → o.Res → Bool
  | .releaseDeployLock, (r : Except Exn Unit) => (errorOf r).any fun e => !deployReraises e
  | _, _ => false

/-- The failure that is on its way after something else was raised, or nothing. -/
def failureAfter (f : Option Failure) : Option Exn → Option Failure
  | none => f
  | some e => e.failure?

/-- The computation raises no `RequestError`. -/
abbrev Local {α : Type} (r : Except Exn α) : Prop := Raises (fun e => e.failure? = none) r

/-! ## The manager -/

section Manager

variable {cfg : AdapterConfig}

/-- Outside the network only Python raises; reading a document raises no `RequestError`. -/
def Op.Plain : (o : Op) → o.Res → Prop
  | .graphql _, (r : Except Exn HttpAnswer) => ∀ answer, r = .ok answer → Local answer.json
  | .health _, _ | .forward _, _ => True
  | o, r => ∀ e, o.raised r = some e → e.foreign

/-- The failure that a stage under the lock will raise. -/
def Work.failure : Work → Option Failure
  | .deployUnlock _ (.error e) | .clearTerminated _ _ (.error e) | .leave (.error e) => e.failure?
  | _ => none

def Stage.failure : Stage → Option Failure
  | .under _ work => work.failure
  | .ended (.error e) => e.failure?
  | _ => none

section Ports

variable {P : Exn → Prop} (hP : ∀ m, P (.valueError m))

include hP

lemma intOfDigits_raises (s : String) : Raises P (intOfDigits s) := by
  unfold intOfDigits
  split
  · exact raises_ok _
  · exact raises_error (hP _)

lemma extractPublicPort_raises (value : Pod) (keys : List String) :
    Raises P (extractPublicPort value keys) := by
  induction keys with
  | nil => exact raises_ok _
  | cons key keys ih =>
      unfold extractPublicPort
      split
      · exact raises_ok _
      · split_ifs
        · exact (intOfDigits_raises hP _).map
        · exact ih
      · exact ih

lemma mappingFromPortMappings_raises (pod : Pod) (port : ℤ) (items : List (String × Json)) :
    Raises P (mappingFromPortMappings pod port items) := by
  induction items with
  | nil => exact raises_ok _
  | cons item rest ih =>
      unfold mappingFromPortMappings
      split_ifs
      · exact ih
      · split
        · exact raises_ok _
        · split_ifs
          · split
            · exact (intOfDigits_raises hP _).map
            · exact raises_ok _
          · exact ih
        · refine (extractPublicPort_raises hP _ _).bind fun port => ?_
          dsimp only
          split <;> exact raises_ok _
        · exact ih

lemma mappingFromPorts_raises (pod : Pod) (port : ℤ) (items : List Json) :
    Raises P (mappingFromPorts pod port items) := by
  induction items with
  | nil => exact raises_ok _
  | cons item rest ih =>
      cases item with
      | obj fields =>
          unfold mappingFromPorts
          split_ifs
          · exact ih
          · refine (extractPublicPort_raises hP _ _).bind fun port => ?_
            dsimp only
            split
            · split_ifs
              · exact raises_ok _
              · exact ih
            · exact ih
      | _ => exact ih

lemma extractTcpMapping_raises (pod : Pod) (port : ℤ) : Raises P (extractTcpMapping pod port) := by
  rw [extractTcpMapping]
  generalize walkDicts (.obj pod) = items
  induction items with
  | nil => exact raises_ok _
  | cons item rest ih =>
      unfold mappingFromItems
      extract_lets later ports
      have hlater : ∀ found, Raises P (later found) := by
        intro found
        cases found with
        | some m => exact raises_ok _
        | none => exact ih
      have hports : ∀ found, Raises P (ports found) := by
        intro found
        cases found with
        | some m => exact raises_ok _
        | none =>
            dsimp only [ports]
            split
            · exact (mappingFromPorts_raises hP _ _ _).bind hlater
            · exact (raises_ok none).bind hlater
      split
      · exact (mappingFromPortMappings_raises hP _ _ _).bind hports
      · exact (raises_ok none).bind hports

end Ports

/-- An exception of Python's is on its way out of the call. -/
def Work.Lost : Work → Prop
  | .leave (.error e) => e.foreign
  | _ => False

def Stage.Lost : Stage → Prop
  | .under _ work => work.Lost
  | .ended (.error e) => e.foreign
  | _ => False

/-- A failure is on its way, or it was lost to an exception that is. -/
def Stage.Failing (stage : Stage) : Prop := stage.failure.isSome ∨ stage.Lost

end Manager

end SpeakrRunpod
