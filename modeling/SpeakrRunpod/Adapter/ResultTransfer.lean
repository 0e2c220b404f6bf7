import Mathlib.Algebra.Order.Ring.Rat
import SpeakrRunpod.Adapter.Errors
import SpeakrRunpod.Common.Protocol
import SpeakrRunpod.Core.JsonText
import SpeakrRunpod.Core.Program
import SpeakrRunpod.Core.Sha256

/-!
# Fetching a result in chunks

`adapter/result_transfer.py`.  The network is the interface: a request is answered with everything
that its stream will show, and the code looks at as much of it as it does.

* `readManifest` — `read_manifest`; a `Manifest` carries what has been checked of it.
* `receiveChunk`, `attemptChunk` — one attempt at a chunk, inside and outside its `try`.
* `fetchChunk`, `fetchBody` — the loop over the attempts, the loop over the offsets and the checksum.
* `cleanup`, `fetchResult` — the deletion in the `finally`, and the whole.
-/

namespace SpeakrRunpod

open Coop

/-! ## What the network answers -/

/-- What the event loop ends a wait with. -/
inductive Interruption
  | timeoutError
  | cancelledError
  deriving DecidableEq

/-- What may end the wait for a stream. -/
inductive Fault
  | requestError (kind : RequestError) (message : String)
  | interrupted (i : Interruption)
  deriving DecidableEq

def Interruption.exn : Interruption → Exn
  | .timeoutError => .timeoutError
  | .cancelledError => .cancelledError

def Fault.exn : Fault → Exn
  | .requestError kind message => .requestError kind message
  | .interrupted i => i.exn

/-- A body as `aiter_bytes` yields it; `tail` is what ends the iteration early. -/
structure StreamedBody where
  contentLength : Option String
  parts : List Bytes
  tail : Option Fault

/-- The answer to the request for a chunk; `close` is what leaving the stream raises. -/
structure ChunkAnswer extends StreamedBody where
  status : ℕ
  chunkOffset : Option String
  close : Option Fault

inductive GetReply
  | raised (fault : Fault)
  | answered (answer : ChunkAnswer)

inductive DeleteReply
  | raised (fault : Fault)
  | answered (status : ℕ) (close : Option Fault)

/-- The request for a chunk, with the limits of `asyncio.timeout` and of `httpx.Timeout`. -/
structure ChunkRequest where
  url : String
  authorization : String
  traceId : String
  offset : ℕ
  limit : ℕ
  within : ℚ
  timeout : ℚ
  deriving DecidableEq

inductive TransferOp
  | monotonic
  | get (request : ChunkRequest)
  | sleep (seconds : ℚ)
  /-- `asyncio.timeout` is entered; the operations that follow are under it -/
  | startTimeout (seconds : ℚ)
  | delete (url authorization traceId : String) (timeout : ℚ)
  | sleepWithin (seconds : ℚ)
  deriving DecidableEq

/-- The type of each answer; a sleep outside any timeout says whether it was cancelled. -/
def TransferOp.Res : TransferOp → Type
  | .monotonic => ℚ
  | .get _ => GetReply
  | .sleep _ => Bool
  | .startTimeout _ => Unit
  | .delete _ _ _ _ => DeleteReply
  | .sleepWithin _ => Option Interruption

abbrev transferInterface : Interface := ⟨TransferOp, TransferOp.Res⟩

/-- A coroutine of the transfer. -/
abbrev Transfer (α : Type) := Async transferInterface Exn α

namespace Transfer

def monotonic : Transfer ℚ := Async.call (I := transferInterface) .monotonic

def get (request : ChunkRequest) : Transfer GetReply :=
  Async.call (I := transferInterface) (.get request)

def sleep (seconds : ℚ) : Transfer Unit := do
  let cancelled : Bool ← Async.call (I := transferInterface) (.sleep seconds)
  if cancelled then throw .cancelledError else pure ()

def startTimeout (seconds : ℚ) : Transfer Unit :=
  Async.call (I := transferInterface) (.startTimeout seconds)

def delete (url authorization traceId : String) (timeout : ℚ) : Transfer DeleteReply :=
  Async.call (I := transferInterface) (.delete url authorization traceId timeout)

def sleepWithin (seconds : ℚ) : Transfer Unit := do
  let interruption : Option Interruption ← Async.call (I := transferInterface) (.sleepWithin seconds)
  match interruption with
  | none => pure ()
  | some i => throw i.exn

/-! ### One rule for each operation -/

section Rules

variable {W : Type} {env : W → Prog.Exchange transferInterface → W → Prop} {w : W}

lemma ensures_monotonic {post : Except Exn ℚ → W → Prop}
    (h : ∀ (now : ℚ) w', env w ⟨.monotonic, now⟩ w' → post (.ok now) w') :
    Async.Ensures env monotonic post w :=
  Async.ensures_call h

lemma ensures_get {request : ChunkRequest} {post : Except Exn GetReply → W → Prop}
    (h : ∀ (reply : GetReply) w', env w ⟨.get request, reply⟩ w' → post (.ok reply) w') :
    Async.Ensures env (get request) post w :=
  Async.ensures_call h

lemma ensures_sleep {seconds : ℚ} {post : Except Exn Unit → W → Prop}
    (h : ∀ (cancelled : Bool) w', env w ⟨.sleep seconds, cancelled⟩ w' →
      post (if cancelled then .error .cancelledError else .ok ()) w') :
    Async.Ensures env (sleep seconds) post w := by
  refine Async.ensures_bind (Async.ensures_call ?_)
  rintro (cancelled : Bool) w' hx
  have hpost := h cancelled w' hx
  cases cancelled <;> exact hpost

lemma ensures_startTimeout {seconds : ℚ} {post : Except Exn Unit → W → Prop}
    (h : ∀ w', env w ⟨.startTimeout seconds, ()⟩ w' → post (.ok ()) w') :
    Async.Ensures env (startTimeout seconds) post w :=
  Async.ensures_call fun _ => h

lemma ensures_delete {url authorization traceId : String} {timeout : ℚ}
    {post : Except Exn DeleteReply → W → Prop}
    (h : ∀ (reply : DeleteReply) w', env w ⟨.delete url authorization traceId timeout, reply⟩ w' →
      post (.ok reply) w') :
    Async.Ensures env (delete url authorization traceId timeout) post w :=
  Async.ensures_call h

lemma ensures_sleepWithin {seconds : ℚ} {post : Except Exn Unit → W → Prop}
    (h : ∀ (interruption : Option Interruption) w',
      env w ⟨.sleepWithin seconds, interruption⟩ w' →
        post (match interruption with | none => .ok () | some i => .error i.exn) w') :
    Async.Ensures env (sleepWithin seconds) post w := by
  refine Async.ensures_bind (Async.ensures_call ?_)
  rintro (interruption : Option Interruption) w' hx
  have hpost := h interruption w' hx
  cases interruption <;> exact hpost

end Rules

section Runs

variable {α : Type} {tr : List (Prog.Exchange transferInterface)} {r : Except Exn α}

lemma runs_monotonic {f : ℚ → Transfer α} {now : ℚ} :
    (monotonic >>= f).run.Runs (⟨.monotonic, now⟩ :: tr) r ↔ (f now).run.Runs tr r :=
  Async.runs_answer (a := now) rfl rfl

lemma runs_get {f : GetReply → Transfer α} {request : ChunkRequest} {reply : GetReply} :
    (get request >>= f).run.Runs (⟨.get request, reply⟩ :: tr) r ↔ (f reply).run.Runs tr r :=
  Async.runs_answer (a := reply) rfl rfl

lemma runs_startTimeout {f : Unit → Transfer α} {seconds : ℚ} :
    (startTimeout seconds >>= f).run.Runs (⟨.startTimeout seconds, ()⟩ :: tr) r ↔
      (f ()).run.Runs tr r :=
  Async.runs_answer (a := ()) rfl rfl

end Runs

end Transfer

/-! ## The manifest -/

/-- `declared is not None and (not declared.isdecimal() or int(declared) > limit)`. -/
def declaredExceeds (declared : Option String) (limit : ℕ) : Except Exn Bool :=
  match declared with
  | none => .ok false
  | some s =>
      if PyText.isDecimal s then
        match PyText.parseInt s with
        | some n => .ok (decide (limit < n))
        | none =>
            let most := PyText.maxIntDigits
            let digits := s.length
            .error (.valueError
              s!"Exceeds the limit ({most} digits) for integer string conversion: value has {digits} digits; use sys.set_int_max_str_digits() to increase the limit")
      else .ok true

/-- A manifest that `read_manifest` has accepted. -/
structure Manifest where
  id : String
  length : ℕ
  sha256 : String
  id_isHex : PyText.IsHex 32 id
  length_pos : 0 < length
  length_le : length ≤ maxResultBytes
  sha256_isHex : PyText.IsHex 64 sha256

def manifestInvalid : Exn := .temporaryRunPodError "RunPod ASR manifest is invalid"

def manifestExceedsLimit : Exn := .temporaryRunPodError "RunPod ASR manifest exceeds limit"

/-- The reading of the body, under its own timeout. -/
def readManifestParts (tail : Option Fault) : Bytes → List Bytes → Except Exn Bytes
  | data, [] =>
      match tail with
      | none => .ok data
      | some (.interrupted .timeoutError) =>
          .error (.temporaryRunPodError "RunPod ASR manifest stalled")
      | some fault => .error fault.exn
  | data, part :: parts =>
      let data := data ++ part
      if maxManifestBytes < data.length then .error manifestExceedsLimit
      else readManifestParts tail data parts

/-- Parts that stay within the limit are read to their end. -/
lemma readManifestParts_within {tail : Option Fault} {parts : List Bytes} :
    ∀ {data : Bytes}, (data ++ parts.flatten).length ≤ maxManifestBytes →
      readManifestParts tail data parts = readManifestParts tail (data ++ parts.flatten) [] := by
  induction parts with
  | nil =>
      intro data _
      rw [List.flatten_nil, List.append_nil]
  | cons part parts ih =>
      intro data h
      rw [List.flatten_cons, ← List.append_assoc] at h ⊢
      have hpart : ¬ maxManifestBytes < (data ++ part).length := by
        rw [List.length_append] at h
        omega
      rw [readManifestParts, if_neg hpart]
      exact ih h

/-- The checks of the fields. -/
def checkManifest (manifest : List (String × Json)) : Except Exn Manifest :=
  match Json.get manifest "id", Json.get manifest "length", Json.get manifest "sha256" with
  | .str resultId, .int (.ofNat length), .str digest =>
      if h : PyText.IsHex 32 resultId ∧ (0 < length ∧ length ≤ maxResultBytes) ∧
          PyText.IsHex 64 digest then
        .ok ⟨resultId, length, digest, h.1, h.2.1.1, h.2.1.2, h.2.2⟩
      else .error manifestInvalid
  | _, _, _ => .error manifestInvalid

/-- `read_manifest`, where the stack has room for `nested` containers inside the document. -/
def readManifest (nested : ℕ) (response : StreamedBody) : Except Exn Manifest := do
  if ← declaredExceeds response.contentLength maxManifestBytes then throw manifestExceedsLimit
  let data ← readManifestParts response.tail [] response.parts
  match Json.loads nested data with
  | .error .invalid => throw manifestInvalid
  | .error (.recursion container) =>
      throw (.recursionError
        s!"maximum recursion depth exceeded while decoding a JSON {container} from a unicode string")
  | .ok document =>
      match document.asObj? with
      | none => throw manifestInvalid
      | some manifest => checkManifest manifest

/-! ## One chunk -/

/-- `async for part in chunk.aiter_bytes(…)`: the loop is left at the part that makes too much. -/
def readParts (expected : ℕ) (tail : Option Fault) : Bytes → List Bytes → Except Exn Bytes
  | data, [] =>
      match tail with
      | none => .ok data
      | some fault => .error fault.exn
  | data, part :: parts =>
      let data := data ++ part
      if expected < data.length then .ok data else readParts expected tail data parts

/-- What is made of an answer with the right status and offset: the value of `received`. -/
def receiveBody (expected : ℕ) (chunk : StreamedBody) : Except Exn (Option Bytes) :=
  match declaredExceeds chunk.contentLength expected with
  | .error e => .error e
  | .ok true => .ok none
  | .ok false =>
      match readParts expected chunk.tail [] chunk.parts with
      | .error e => .error e
      | .ok data => .ok (if data.length = expected then some data else none)

/-- The body of `async with client.stream(…) as chunk`. -/
def receiveChunk (offset expected : ℕ) (chunk : ChunkAnswer) : Except Exn (Option Bytes) :=
  if chunk.status = 404 then
    .error (.temporaryRunPodError "RunPod ASR result expired before retrieval")
  else if chunk.status = 401 ∨ chunk.status = 403 then
    .error (.temporaryRunPodError "RunPod ASR result authorization failed")
  else if chunk.status ≠ 200 ∨ chunk.chunkOffset ≠ some (toString offset) then .ok none
  else receiveBody expected chunk.toStreamedBody

/-- `except (httpx.RequestError, TimeoutError)`, which keeps what has been received. -/
def exceptRetriable (received : Option Bytes) : Exn → Except Exn (Option Bytes)
  | .requestError _ _ | .timeoutError => .ok received
  | e => .error e

/-- The value of `received` after the `try`.  What leaving the stream raises takes the place of what
its body raised. -/
def attemptChunk (offset expected : ℕ) : GetReply → Except Exn (Option Bytes)
  | .raised fault => exceptRetriable none fault.exn
  | .answered chunk =>
      match receiveChunk offset expected chunk, chunk.close with
      | .ok received, none => .ok received
      | .error e, none => exceptRetriable none e
      | .ok received, some fault => exceptRetriable received fault.exn
      | .error _, some fault => exceptRetriable none fault.exn

/-! ## The loops -/

/-- What `fetch_result` is called with, besides the manifest. -/
structure TransferCall where
  url : String
  authorization : String
  requestId : String
  deadline : ℚ

def retrievalDeadlineExceeded : Exn :=
  .temporaryRunPodError "RunPod ASR result retrieval deadline exceeded"

/-- The request of one attempt, where `remaining` is what is left until the deadline. -/
def chunkRequest (call : TransferCall) (offset expected : ℕ) (remaining : ℚ) : ChunkRequest where
  url := call.url
  authorization := call.authorization
  traceId := call.requestId
  offset := offset
  limit := expected
  within := min 15 remaining
  timeout := min 10 remaining

/-- The attempts at one chunk; `body` is what has been fetched before. -/
def fetchChunk (call : TransferCall) (offset expected : ℕ) (body : Bytes) :
    List ℕ → Transfer Bytes
  | [] => pure body
  | attempt :: attempts => do
      let remaining := call.deadline - (← Transfer.monotonic)
      if remaining ≤ 0 then throw retrievalDeadlineExceeded
      else do
        let reply ← Transfer.get (chunkRequest call offset expected remaining)
        match ← Async.ofExcept (attemptChunk offset expected reply) with
        | some received => pure (body ++ received)
        | none =>
            if attempt = 3 then
              throw (.temporaryRunPodError "RunPod ASR result chunk failed after retries")
            else do
              let now ← Transfer.monotonic
              Transfer.sleep (min (1 / 2 * attempt) (max 0 (call.deadline - now)))
              fetchChunk call offset expected body attempts

/-- `range(0, length, CHUNK_SIZE)`. -/
def chunkOffsets (length : ℕ) : List ℕ :=
  List.range' 0 ((length + chunkSize - 1) / chunkSize) chunkSize

/-- The `try` of `fetch_result`. -/
def fetchBody (call : TransferCall) (manifest : Manifest) : Transfer Bytes := do
  let body ← (chunkOffsets manifest.length).foldlM (fun body offset =>
    fetchChunk call offset (min chunkSize (manifest.length - offset)) body [1, 2, 3]) []
  if Sha256.hexdigest body ≠ manifest.sha256 then
    throw (.temporaryRunPodError "RunPod ASR result checksum mismatch")
  else pure body

/-! ## The cleanup -/

/-- `CLEANUP_DEADLINE_SECONDS`. -/
def cleanupDeadlineSeconds : ℚ := 2

/-- The status of a deletion; `none` is a `RequestError`. -/
def deletionStatus : DeleteReply → Except Exn (Option ℕ)
  | .raised (.requestError _ _) => .ok none
  | .raised fault => .error fault.exn
  | .answered status none => .ok (some status)
  | .answered _ (some (.requestError _ _)) => .ok none
  | .answered _ (some fault) => .error fault.exn

/-- The statuses after which the loop is left. -/
def deletionEnds : Option ℕ → Bool
  | some status => [204, 404, 401, 403].contains status
  | none => false

def cleanupAttempts (call : TransferCall) : List ℕ → Transfer Unit
  | [] => pure ()
  | attempt :: attempts => do
      let reply ← Transfer.delete call.url call.authorization call.requestId cleanupDeadlineSeconds
      let status ← Async.ofExcept (deletionStatus reply)
      if deletionEnds status then pure ()
      else do
        if attempt = 0 then Transfer.sleepWithin (1 / 10) else pure ()
        cleanupAttempts call attempts

/-- The `finally` of `fetch_result`. -/
def cleanup (call : TransferCall) : Transfer Unit := do
  Transfer.startTimeout cleanupDeadlineSeconds
  match ← Async.attempt (cleanupAttempts call [0, 1]) with
  | .ok () => pure ()
  | .error .timeoutError => pure ()
  | .error e => throw e

/-- The address of a result. -/
def resultUrl (baseUrl resultId : String) : String := baseUrl ++ "/internal/asr-results/" ++ resultId

/-- `fetch_result`; of the headers it reads `Authorization`. -/
def fetchResult (baseUrl authorization : String) (manifest : Manifest) (requestId : String)
    (deadline : ℚ) : Transfer Bytes :=
  let call : TransferCall :=
    { url := resultUrl baseUrl manifest.id
      authorization := authorization
      requestId := requestId
      deadline := deadline }
  Async.tryFinally (fetchBody call manifest) (cleanup call)

end SpeakrRunpod
