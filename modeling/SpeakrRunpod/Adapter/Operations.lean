import SpeakrRunpod.Adapter.Config
import SpeakrRunpod.Adapter.PodMapping
import SpeakrRunpod.Core.Program

/-!
# What the adapter asks of the world

The interface of the adapter's coroutines.  The operations that wait are the network calls, the
sleeps and the locks; the others — the pod store, the idle controller's counter and timers, the
clock — are ordinary method calls, which run without handing over.

`note` does nothing.  It marks the points of the code that statements about whole runs refer to:
where `ensure_ready` returns an address, where a pod has been terminated or cleared and where the
id of its replacement is adopted, where `release_idle_pod` is entered and left.
-/

namespace SpeakrRunpod

open Coop

/-- The input of `podFindAndDeployOnDemand`; the last two fields are sent only when set. -/
structure DeployInput where
  name : String
  templateId : String
  gpuTypeIdList : List String
  gpuCount : ℤ
  cloudType : String
  supportPublicIp : Bool
  containerDiskInGb : Option ℤ
  networkVolumeId : Option String
  deriving DecidableEq

/-- The GraphQL operations the adapter sends. -/
inductive GraphqlCall
  | pod (podId : String)
  | podResume (podId : String) (gpuCount : ℤ)
  | podStop (podId : String)
  | podTerminate (podId : String)
  | podFindAndDeployOnDemand (input : DeployInput)
  deriving DecidableEq

/-- The member of `data` that carries the result of an operation. -/
def GraphqlCall.dataKey : GraphqlCall → String
  | .pod _ => "pod"
  | .podResume _ _ => "podResume"
  | .podStop _ => "podStop"
  | .podTerminate _ => "podTerminate"
  | .podFindAndDeployOnDemand _ => "podFindAndDeployOnDemand"

/-- An HTTP answer as `httpx` presents it: `response.text`, the document that `response.json()`
returns or what it raises, and the text that the `errors` member of the document prints as. -/
structure HttpAnswer where
  status : ℕ
  text : String
  json : Except Exn Json
  errorsText : String

/-- What the health probe reads of an answer. -/
structure HealthAnswer where
  status : ℕ
  protocolHeader : Option String

/-- What a client of `/asr` gets: a status, the text of the body, and `Retry-After` where it is
set. -/
structure Reply where
  status : ℕ
  body : String
  retryAfter : Option ℤ
  deriving DecidableEq

inductive Note
  | ready (podId url : String)
  | dropped (podId : String)
  | replaced (old new : String)
  | releaseEntered
  | releaseLeft
  deriving DecidableEq

inductive Op
  /-- the next `/asr` body has been spooled -/
  | arrive
  /-- the first step of a timer task -/
  | firstStep
  | requestStarted
  | requestFinished
  | activeRequests
  | time
  | sleep (seconds : ℚ)
  | load
  | openState (podId : String)
  | writeState (podId : String)
  | clear (podId : String)
  | acquireLock
  | releaseLock
  | acquireDeployLock
  | releaseDeployLock
  | graphql (call : GraphqlCall)
  | health (url : String)
  | podLogs (url : String)
  | forward (url : String)
  | note (n : Note)
  deriving DecidableEq

/-- The type of each answer.  What can raise answers with an exception or a value. -/
def Op.Res : Op → Type
  | .arrive | .openState _ | .writeState _ | .clear _ | .releaseLock | .note _ => Unit
  | .activeRequests => ℤ
  | .time => ℚ
  | .load => Except Exn String
  | .graphql _ => Except Exn HttpAnswer
  | .health _ => Except Exn HealthAnswer
  | .forward _ => Except Exn Reply
  | .firstStep | .requestStarted | .requestFinished | .sleep _ | .acquireLock | .acquireDeployLock
  | .releaseDeployLock | .podLogs _ => Except Exn Unit

abbrev adapterInterface : Interface := ⟨Op, Op.Res⟩

/-- A coroutine of the adapter. -/
abbrev Adapter (α : Type) := Async adapterInterface Exn α

namespace Adapter

def arrive : Adapter Unit := Async.call (I := adapterInterface) .arrive
def firstStep : Adapter Unit := ExceptT.mk (Prog.call (I := adapterInterface) .firstStep)
def requestStarted : Adapter Unit :=
  ExceptT.mk (Prog.call (I := adapterInterface) .requestStarted)
def requestFinished : Adapter Unit :=
  ExceptT.mk (Prog.call (I := adapterInterface) .requestFinished)
def activeRequests : Adapter ℤ := Async.call (I := adapterInterface) .activeRequests
def time : Adapter ℚ := Async.call (I := adapterInterface) .time
def sleep (seconds : ℚ) : Adapter Unit :=
  ExceptT.mk (Prog.call (I := adapterInterface) (.sleep seconds))
def load : Adapter String := ExceptT.mk (Prog.call (I := adapterInterface) .load)
def clear (podId : String) : Adapter Unit :=
  Async.call (I := adapterInterface) (.clear podId)
def openState (podId : String) : Adapter Unit :=
  Async.call (I := adapterInterface) (.openState podId)
def writeState (podId : String) : Adapter Unit :=
  Async.call (I := adapterInterface) (.writeState podId)
/-- `ActivePodStore.store`, in its two steps. -/
def store (podId : String) : Adapter Unit := do
  openState podId
  writeState podId
def acquireLock : Adapter Unit := ExceptT.mk (Prog.call (I := adapterInterface) .acquireLock)
def releaseLock : Adapter Unit := Async.call (I := adapterInterface) .releaseLock
def acquireDeployLock : Adapter Unit :=
  ExceptT.mk (Prog.call (I := adapterInterface) .acquireDeployLock)
def releaseDeployLock : Adapter Unit :=
  ExceptT.mk (Prog.call (I := adapterInterface) .releaseDeployLock)
def post (call : GraphqlCall) : Adapter HttpAnswer :=
  ExceptT.mk (Prog.call (I := adapterInterface) (.graphql call))
def health (url : String) : Adapter HealthAnswer :=
  ExceptT.mk (Prog.call (I := adapterInterface) (.health url))
def podLogs (url : String) : Adapter Unit :=
  ExceptT.mk (Prog.call (I := adapterInterface) (.podLogs url))
def forward (url : String) : Adapter Reply :=
  ExceptT.mk (Prog.call (I := adapterInterface) (.forward url))
def note (n : Note) : Adapter Unit := Async.call (I := adapterInterface) (.note n)

end Adapter

end SpeakrRunpod
