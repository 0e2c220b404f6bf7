import SpeakrRunpod.Adapter.Errors
import SpeakrRunpod.Common.ProxyHeaders
import SpeakrRunpod.Common.Responses
import SpeakrRunpod.Core.Program
import SpeakrRunpod.Wrapper.ResultStore

/-!
# The handlers of the wrapper

`runpod-image/wrapper.py`: the handlers behind the bearer check.  Three of them answer at once from
what the wrapper holds; the proxy waits for WhisperX and is a program.

* `internalPodLogs` — the tails of the log files.
* `proxy` — the catch-all route, which keeps the result of a transcription in the store.
* `WrapperCall`, `Handled` — a request to one of the four handlers, and what becomes of it.
-/

namespace SpeakrRunpod

open Coop

structure WrapperConfig where
  adapterWhisperxToken : String
  wrapperPodLogsMaxBytes : ℕ

/-! ## The log files -/

/-- What is found under a name in `WRAPPER_POD_LOGS_DIR`. -/
inductive LogEntry
  /-- there is no file, or the name resolves to a place outside the directory -/
  | absent
  /-- reading the file raises an `OSError` -/
  | unreadable
  | file (content : Bytes)

/-- `sorted(ALLOWED_LOG_BASENAMES)`. -/
def allowedLogBasenames : List String :=
  ["whisperx-stderr.log", "whisperx-stdout.log", "wrapper-stderr.log", "wrapper-stdout.log"]

/-- `_tail_utf8_text`. -/
def tailUtf8Text (content : Bytes) (maxBytes : ℕ) : String :=
  if maxBytes = 0 then "" else Codec.utf8Replace (content.drop (content.length - maxBytes))

/-- An item of `files`. -/
structure LogFile where
  name : String
  content : String

/-- `internal_pod_logs`. -/
def internalPodLogs (cfg : WrapperConfig) (authorization : Option String)
    (logs : String → LogEntry) : Except WrapperError (List LogFile) :=
  match authorized cfg.adapterWhisperxToken authorization with
  | .error e => .error e
  | .ok false => .error (.httpException 401 "Unauthorized")
  | .ok true =>
      .ok (allowedLogBasenames.map fun name => match logs name with
        | .absent | .unreadable => ⟨name, ""⟩
        | .file content => ⟨name, tailUtf8Text content cfg.wrapperPodLogsMaxBytes⟩)

/-! ## Responses -/

/-- What the proxy raises instead of answering. -/
inductive ProxyError
  | raised (e : WrapperError)
  | requestError (kind : RequestError) (message : String)
  | unicodeEncodeError
  deriving DecidableEq

/-- The status that the server answers with. -/
def ProxyError.statusCode : ProxyError → ℕ
  | .raised e => e.statusCode
  | .requestError _ _ | .unicodeEncodeError => 500

/-- A response as it is sent. -/
structure WrapperResponse where
  status : ℕ
  headers : Headers
  content : Bytes
  deriving DecidableEq

/-- `Response(content=…, status_code=…, headers=…, media_type=…)`.  The headers are encoded in
Latin-1. -/
def response (status : ℕ) (content : Bytes) (headers : Headers) (mediaType : Option String) :
    Except ProxyError WrapperResponse :=
  let given := headers.map fun h => (PyText.lower h.1, h.2)
  let length := if bodiless status then [] else [("content-length", toString content.length)]
  let type := match mediaType with
    | none => []
    | some t => [("content-type", contentTypeHeader t)]
  let all := given ++ length ++ type
  if all.all fun h => Codec.isLatin1 h.1 && Codec.isLatin1 h.2 then .ok ⟨status, all, content⟩
  else .error .unicodeEncodeError

/-! ## The proxy -/

/-- The request that is sent on to WhisperX. -/
structure UpstreamRequest where
  method : String
  path : String
  params : List (String × String)
  headers : Headers
  content : Bytes
  deriving DecidableEq

/-- An answer of WhisperX, as `httpx` presents it. -/
structure UpstreamAnswer where
  status : ℕ
  headers : Headers
  content : Bytes

inductive ProxyOp
  | request (r : UpstreamRequest)
  | storeResult (body : Bytes)
  deriving DecidableEq

def ProxyOp.Res : ProxyOp → Type
  | .request _ => Except (RequestError × String) UpstreamAnswer
  | .storeResult _ => Except WrapperError ResultManifest

abbrev proxyInterface : Interface := ⟨ProxyOp, ProxyOp.Res⟩

/-- A coroutine of the wrapper. -/
abbrev Proxy (α : Type) := Async proxyInterface ProxyError α

namespace Proxy

/-- `client.request`. -/
def request (r : UpstreamRequest) : Proxy UpstreamAnswer := do
  let answer ← Async.call (I := proxyInterface) (.request r)
  match answer with
  | .ok upstream => pure upstream
  | .error (kind, message) => throw (.requestError kind message)

/-- `_store_result`. -/
def storeResult (body : Bytes) : Proxy ResultManifest := do
  let manifest ← Async.call (I := proxyInterface) (.storeResult body)
  match manifest with
  | .ok manifest => pure manifest
  | .error e => throw (.raised e)

end Proxy

/-- A request for the catch-all route. -/
structure ProxyRequest where
  method : String
  path : String
  query : List (String × String)
  headers : Headers
  body : Bytes

/-- `headers=` and the rest of the call of `client.request`. -/
def ProxyRequest.upstream (request : ProxyRequest) : UpstreamRequest where
  method := request.method
  path := request.path
  params := request.query
  headers := forwardedRequestHeaders request.headers none [protocolHeader]
  content := request.body

/-- `"application/json" in upstream.headers.get("content-type", "")`. -/
def isJson (headers : Headers) : Bool :=
  PyText.contains ((headers.get? "content-type").getD "") "application/json"

/-- `JSONResponse(content=manifest, status_code=202, …)`. -/
def manifestResponse (manifest : ResultManifest) : Except ProxyError WrapperResponse :=
  response 202 manifest.render [(protocolHeader, protocolVersion)] (some "application/json")

/-- `proxy`, once WhisperX has answered. -/
def proxyAnswer (request : ProxyRequest) (upstream : UpstreamAnswer) : Proxy WrapperResponse :=
  if request.path = "asr" ∧ request.headers.get? protocolHeader = some protocolVersion ∧
      upstream.status = 200 then
    if isJson upstream.headers then do
      let manifest ← Proxy.storeResult upstream.content
      Async.ofExcept (manifestResponse manifest)
    else throw (.raised (.httpException 502 "WhisperX returned non-JSON response"))
  else
    Async.ofExcept (response upstream.status upstream.content
      (forwardedResponseHeaders upstream.headers []) (upstream.headers.get? "content-type"))

/-- `proxy`. -/
def proxy (cfg : WrapperConfig) (request : ProxyRequest) : Proxy WrapperResponse :=
  match authorized cfg.adapterWhisperxToken (request.headers.get? "authorization") with
  | .error e => throw (.raised e)
  | .ok false => throw (.raised (.httpException 401 "Unauthorized"))
  | .ok true => do
      let upstream ← Proxy.request request.upstream
      proxyAnswer request upstream

/-! ## The wrapper as a whole -/

/-- The four handlers behind the bearer check, with their parameters. -/
inductive WrapperRequest
  | resultChunk (resultId : String) (offset limit : ℤ)
  | deleteResult (resultId : String)
  | internalPodLogs
  | proxy (method path : String) (query : List (String × String)) (body : Bytes)

/-- A request with its headers, as the server hands them over. -/
structure WrapperCall where
  headers : List (Bytes × Bytes)
  request : WrapperRequest

/-- `request.headers`: names and values are decoded as Latin-1. -/
def WrapperCall.decoded (call : WrapperCall) : Headers :=
  call.headers.map fun h => (Codec.latin1 h.1, Codec.latin1 h.2)

/-- The value of the `Authorization` header. -/
def WrapperCall.authorization (call : WrapperCall) : Option String :=
  call.decoded.get? "authorization"

/-- What a handler answers with. -/
inductive WrapperAnswer
  | chunk (response : ChunkResponse)
  | deleted
  | podLogs (files : List LogFile)
  | proxied (response : WrapperResponse)

/-- The state of the wrapper, with the requests that have been sent to WhisperX, newest first. -/
structure WrapperState where
  results : Results
  logs : String → LogEntry
  sent : List UpstreamRequest

/-- What the proxy is answered, and what becomes of the state.  While it waits for WhisperX other
handlers run. -/
inductive WrapperState.Answers :
    WrapperState → Prog.Exchange proxyInterface → WrapperState → Prop
  | request (w : WrapperState) (u : UpstreamRequest)
      (r : Except (RequestError × String) UpstreamAnswer) (results : Results)
      (logs : String → LogEntry) (others : List UpstreamRequest) :
      Answers w ⟨.request u, r⟩ ⟨results, logs, others ++ u :: w.sent⟩
  | storeResult (w : WrapperState) (body : Bytes) (now later : ℚ) (resultId : String) :
      Answers w ⟨.storeResult body, (storeResult now later resultId body w.results).2⟩
        { w with results := (storeResult now later resultId body w.results).1 }

/-- What a handler without a wait comes to. -/
def atOnce {α : Type} (answer : α → WrapperAnswer) (r : Except WrapperError α) :
    Except ProxyError WrapperAnswer :=
  match r with
  | .ok a => .ok (answer a)
  | .error e => .error (.raised e)

/-- A request is handled: the state before, the answer or what the handler raises, the state after. -/
def Handled (cfg : WrapperConfig) (w : WrapperState) (call : WrapperCall)
    (answer : Except ProxyError WrapperAnswer) (w' : WrapperState) : Prop :=
  match call.request with
  | .resultChunk resultId offset limit => ∃ now,
      let done := resultChunk cfg.adapterWhisperxToken call.authorization now resultId offset limit
        w.results
      answer = atOnce .chunk done.2 ∧ w' = { w with results := done.1 }
  | .deleteResult resultId =>
      let done := deleteResult cfg.adapterWhisperxToken call.authorization resultId w.results
      answer = atOnce (fun _ => .deleted) done.2 ∧ w' = { w with results := done.1 }
  | .internalPodLogs =>
      answer = atOnce .podLogs (internalPodLogs cfg call.authorization w.logs) ∧ w' = w
  | .proxy method path query body => ∃ tr r,
      (proxy cfg ⟨method, path, query, call.decoded, body⟩).run.Runs tr r ∧
        Prog.Transcript WrapperState.Answers w tr w' ∧ answer = r.map .proxied

/-- The status of an answer, as the client gets it. -/
def answerStatus : Except ProxyError WrapperAnswer → ℕ
  | .error e => e.statusCode
  | .ok (.chunk _) | .ok (.podLogs _) => 200
  | .ok .deleted => 204
  | .ok (.proxied response) => response.status

end SpeakrRunpod
