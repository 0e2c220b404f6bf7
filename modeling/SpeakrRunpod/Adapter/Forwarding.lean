import SpeakrRunpod.Adapter.Idle
import SpeakrRunpod.Adapter.ResultTransfer
import SpeakrRunpod.Common.ProxyHeaders
import SpeakrRunpod.Common.Responses
import SpeakrRunpod.Core.Encoding
import SpeakrRunpod.Core.Handler

/-!
# Forwarding a request

`forward_asr` of `adapter/proxy.py`.  The upload is answered with everything that its stream will
show, as the requests of `fetch_result` are; what only feeds log lines (the phase, the counters, the
task that reports a wait) is left out.

* `PostRequest`, `PostAnswer`, `PostReply` — the upload, and what the network makes of it.
* `responseFromUpstream` — `_response_from_upstream`.
* `forwardAsr` — `forward_asr`.
-/

namespace SpeakrRunpod

open Coop

/-! ## The upload -/

/-- The arguments of the upload; the last four are the limits of `httpx.Timeout`. -/
structure PostRequest where
  url : String
  params : List (String × String)
  headers : Headers
  content : Bytes
  connect : ℤ
  read : ℤ
  write : ℤ
  pool : ℤ
  deriving DecidableEq

/-- An answer to the upload: its head, what `aiter_bytes` will yield and what ends it early, and what
leaving the stream raises. -/
structure PostAnswer where
  status : ℕ
  headers : Headers
  parts : List Bytes
  tail : Option Fault
  close : Option Fault

/-- What the reading of a manifest sees of the answer. -/
def PostAnswer.stream (a : PostAnswer) : StreamedBody where
  contentLength := a.headers.get? "content-length"
  parts := a.parts
  tail := a.tail

/-- `upstream.headers.get("content-type")`. -/
def PostAnswer.contentType (a : PostAnswer) : Option String := a.headers.get? "content-type"

inductive PostReply
  | raised (fault : Fault)
  /-- the spooled body cannot be read -/
  | unreadable (message : String)
  | answered (answer : PostAnswer)

abbrev postInterface : Interface := ⟨PostRequest, fun _ => PostReply⟩

abbrev forwardInterface : Interface := postInterface.sum transferInterface

/-- A coroutine that uploads and retrieves. -/
abbrev Forward (α : Type) := Async forwardInterface Exn α

namespace Forward

def post (request : PostRequest) : Forward PostReply :=
  Async.call (I := forwardInterface) (.inl request)

/-- What goes on over the requests of `fetch_result`. -/
def transfer {α : Type} (x : Transfer α) : Forward α := Async.inr x

/-- `async with client.stream(…) as upstream: body`.  What leaving the stream raises takes the place
of what the body comes to. -/
def leaving {α : Type} (close : Option Fault) (body : Forward α) : Forward α := do
  let outcome ← Async.attempt body
  match close with
  | some fault => throw fault.exn
  | none => Async.ofExcept outcome

end Forward

/-! ## The answer to the client -/

/-- What `forward_asr` answers with: a `Response`, or the `HTTPException` that FastAPI turns into
one. -/
inductive AsrAnswer
  | response (status : ℕ) (content : Bytes) (mediaType : Option String)
  | httpException (status : ℕ) (detail : String)
  deriving DecidableEq

def AsrAnswer.status : AsrAnswer → ℕ
  | .response status _ _ | .httpException status _ => status

/-- What the client sees of it. -/
def AsrAnswer.reply : AsrAnswer → Reply
  | .response status content _ => ⟨status, Codec.utf8Replace content, none⟩
  | .httpException status detail => ⟨status, detail, none⟩

/-- `Response(content=…, status_code=…, media_type=…)`, which encodes the media type in Latin-1. -/
def asrResponse (status : ℕ) (content : Bytes) (mediaType : Option String) :
    Except Exn AsrAnswer :=
  if (mediaType.map contentTypeHeader).all Codec.isLatin1 then
    .ok (.response status content mediaType)
  else .error (.unicodeError "'latin-1' codec can't encode the content type")

/-- What `forward_asr` is called with, besides the address and the configuration, and what it finds in
the interpreter: the id it draws, the room on the stack for nested documents, and the codecs.
`decode` is `body.decode(upstream.encoding or "utf-8", errors="replace")`, where `httpx` takes the
encoding from the content type. -/
structure ForwardCall where
  query : List (String × String)
  headers : Headers
  body : Bytes
  requestId : String
  nested : ℕ
  decode : Option String → Bytes → Except Exn String

/-- A call that sends nothing. -/
def emptyCall : ForwardCall where
  query := []
  headers := []
  body := []
  requestId := ""
  nested := 0
  decode _ _ := .ok ""

variable (cfg : AdapterConfig) (call : ForwardCall)

/-- The headers of the upload. -/
def ForwardCall.upstreamHeaders : Headers :=
  ((forwardedRequestHeaders call.headers (some cfg.adapterWhisperxToken)
    ["x-asr-trace-id", protocolHeader]).assign "X-ASR-Trace-ID" call.requestId).assign
      protocolHeader protocolVersion

/-- The upload. -/
def ForwardCall.upload (baseUrl : String) : PostRequest where
  url := baseUrl ++ "/asr"
  params := call.query
  headers := call.upstreamHeaders cfg
  content := call.body
  connect := 60
  read := cfg.runpodRequestTimeoutSeconds
  write := cfg.runpodRequestTimeoutSeconds
  pool := 60

/-- `headers["Authorization"]`. -/
def ForwardCall.authorization : String :=
  ((call.upstreamHeaders cfg).lookup "Authorization").getD ""

/-- The adapter's own three headers come last, and nothing in front of them has one of their names in
any case. -/
lemma ForwardCall.upstreamHeaders_eq :
    call.upstreamHeaders cfg =
      call.headers.without (requestHeadersExcluded ++
        ["x-asr-trace-id", protocolHeader].map PyText.lower) ++
      [("Authorization", "Bearer " ++ cfg.adapterWhisperxToken),
        ("X-ASR-Trace-ID", call.requestId), (protocolHeader, protocolVersion)] := by
  rw [upstreamHeaders, forwardedRequestHeaders]
  generalize hgiven : call.headers.without _ = given
  have hauthorization : given.get? "Authorization" = none :=
    hgiven ▸ Headers.get?_without (by decide)
  have htrace : given.get? "X-ASR-Trace-ID" = none :=
    hgiven ▸ Headers.get?_without (by decide)
  have hprotocol : given.get? protocolHeader = none :=
    hgiven ▸ Headers.get?_without (by decide)
  have htrace' : Headers.get? (given ++ [("Authorization", "Bearer " ++ cfg.adapterWhisperxToken)])
      "X-ASR-Trace-ID" = none := by
    rw [Headers.get?_append, htrace, Option.none_or, Headers.get?_cons_of_ne (by decide)]
    rfl
  have hprotocol' : Headers.get? (given ++
      [("Authorization", "Bearer " ++ cfg.adapterWhisperxToken)] ++
        [("X-ASR-Trace-ID", call.requestId)]) protocolHeader = none := by
    rw [Headers.get?_append, Headers.get?_append, hprotocol, Option.none_or,
      Headers.get?_cons_of_ne (by decide)]
    exact Headers.get?_cons_of_ne (by decide)
  rw [Headers.assign_of_get?_eq_none hauthorization, Headers.assign_of_get?_eq_none htrace',
    Headers.assign_of_get?_eq_none hprotocol', List.append_assoc, List.append_assoc]
  rfl

lemma ForwardCall.get?_authorization :
    (call.upstreamHeaders cfg).get? "authorization" = some (call.authorization cfg) := by
  rw [ForwardCall.authorization, upstreamHeaders_eq]
  generalize hgiven : call.headers.without _ = given
  have hget : given.get? "authorization" = none :=
    hgiven ▸ Headers.get?_without (by decide)
  have hlookup : List.lookup "Authorization" given = none := by
    rw [List.lookup_eq_none_iff]
    intro h hmem
    have hne := Headers.get?_eq_none_iff.mp hget h hmem
    refine bne_iff_ne.mpr fun heq => hne ?_
    rw [← heq]
    decide
  rw [Headers.get?_append, hget, Option.none_or, Headers.get?_cons_self (by decide),
    List.lookup_append, hlookup]
  rfl

lemma ForwardCall.get?_protocol :
    (call.upstreamHeaders cfg).get? protocolHeader = some protocolVersion := by
  rw [upstreamHeaders_eq]
  generalize hgiven : call.headers.without _ = given
  have hget : given.get? protocolHeader = none :=
    hgiven ▸ Headers.get?_without (by decide)
  rw [Headers.get?_append, hget, Option.none_or, Headers.get?_cons_of_ne (by decide),
    Headers.get?_cons_of_ne (by decide), Headers.get?_cons_self rfl]

/-- `_response_from_upstream`. -/
def responseFromUpstream (upstream : PostAnswer) (body : Bytes) : Except Exn AsrAnswer :=
  if 500 ≤ upstream.status then
    .error (.temporaryRunPodError s!"WhisperX returned {upstream.status}")
  else if upstream.status = 413 then
    (call.decode upstream.contentType body).map (.httpException 413)
  else if 400 ≤ upstream.status then asrResponse upstream.status body upstream.contentType
  else if ¬ PyText.contains (upstream.contentType.getD "") "application/json" then
    .error (.badUpstreamResponseError "WhisperX returned non-JSON response")
  else asrResponse upstream.status body upstream.contentType

/-- `async for chunk in upstream.aiter_bytes()`. -/
def readWhole (upstream : PostAnswer) : Except Exn Bytes :=
  match upstream.tail with
  | none => .ok upstream.parts.flatten
  | some fault => .error fault.exn

/-- The answer accepts the protocol: `status != 202 or upstream.headers.get(…) != …` is false. -/
def PostAnswer.isManifest (a : PostAnswer) : Bool :=
  a.status = 202 ∧ a.headers.get? protocolHeader = some protocolVersion

/-- The body of `async with client.stream(…) as upstream`. -/
def readUpstream (baseUrl : String) (deadline : ℚ) (upstream : PostAnswer) : Forward AsrAnswer :=
  if upstream.status = 200 ∨ upstream.status = 202 then
    if upstream.isManifest then do
      let manifest ← Async.ofExcept (readManifest call.nested upstream.stream)
      let body ← Forward.transfer
        (fetchResult baseUrl (call.authorization cfg) manifest call.requestId deadline)
      Async.ofExcept (asrResponse 200 body (some "application/json"))
    else
      throw (.temporaryRunPodError "RunPod wrapper does not support bounded ASR result retrieval")
  else do
    let body ← Async.ofExcept (readWhole upstream)
    Async.ofExcept (responseFromUpstream call upstream body)

/-- `forward_asr`. -/
def forwardAsr (baseUrl : String) : Forward AsrAnswer := do
  let started ← Forward.transfer Transfer.monotonic
  let reply ← Forward.post (call.upload cfg baseUrl)
  match reply with
  | .raised fault => throw fault.exn
  | .unreadable message => throw (.osError message)
  | .answered upstream =>
      Forward.leaving upstream.close
        (readUpstream cfg call baseUrl (started + cfg.runpodRequestTimeoutSeconds) upstream)

end SpeakrRunpod
