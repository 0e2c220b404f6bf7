import SpeakrRunpod.Adapter.Operations
import SpeakrRunpod.Common.Protocol

/-!
# The RunPod client

`adapter/runpod_client.py` and `adapter/wrapper_health.py`.  A GraphQL call posts and then reads
the answer; the reading is the function `graphqlResult`, which decides for every answer whether
the call returns a value and, if not, which exception it raises.

* `graphqlResult` — the classification of an answer.
* `getPod`, `startPod`, `stopPod`, `terminatePod`, `deployFromTemplate` — the client's methods.
* `wrapperHealthyDetail` — the health probe, whose transport failures are answers too.
-/

namespace SpeakrRunpod

open Coop

/-! ## Reading an answer -/

/-- `_is_capacity_error`. -/
def isCapacityError (errorText : String) : Bool :=
  ["not enough free gpu", "no gpu", "no available", "capacity"].any
    (PyText.contains (PyText.lower errorText))

/-- `_is_not_found_error`. -/
def isNotFoundError (errorText : String) : Bool :=
  PyText.contains (PyText.lower errorText) "not found" ||
    PyText.contains (PyText.lower errorText) "does not exist"

/-- `text[:500]`. -/
def errorExcerpt (text : String) : String := String.ofList (text.toList.take 500)

/-- The reading of a document that is an object: its errors first, then the member asked for. -/
def graphqlData (dataKey errorsText : String) (payload : List (String × Json)) :
    Except Exn Json :=
  if (Json.get payload "errors").truthy then
    if isNotFoundError (errorExcerpt errorsText) then
      .error (.runPodNotFoundError (errorExcerpt errorsText))
    else .error (.temporaryRunPodError ("RunPod GraphQL errors: " ++ errorExcerpt errorsText))
  else
    match (Json.get payload "data").asObj? with
    | some data => .ok (Json.get data dataKey)
    | none =>
        .error (.badUpstreamResponseError "RunPod GraphQL response did not include data")

/-- What `_graphql` makes of an answer. -/
def graphqlResult (dataKey : String) (answer : HttpAnswer) : Except Exn Json :=
  let errorText := errorExcerpt answer.text
  if 500 ≤ answer.status ∨ answer.status ∈ [408, 409, 423, 429] ∨ isCapacityError errorText then
    .error (.temporaryRunPodError s!"RunPod GraphQL returned {answer.status}: {errorText}")
  else if 400 ≤ answer.status then
    .error (.temporaryRunPodError s!"RunPod GraphQL returned {answer.status}: {errorText}")
  else
    match answer.json with
    | .error e =>
        if e.isValueError then
          .error (.badUpstreamResponseError "RunPod GraphQL returned non-JSON response")
        else .error e
    | .ok payload =>
        match payload.asObj? with
        | some fields => graphqlData dataKey answer.errorsText fields
        | none =>
            .error (.badUpstreamResponseError "RunPod GraphQL returned a non-object response")

/-- What `get_pod` makes of the `pod` member. -/
def podOfPayload (podId : String) (payload : Json) : Except Exn Pod :=
  match payload.asObj? with
  | some pod => .ok pod
  | none => .error (.runPodNotFoundError s!"RunPod pod {podId} was not found")

/-! ## What a call comes to

The outcome of a whole call as a function of how the request was answered: this is what the
manager sees, and what assumptions about RunPod are about.
-/

/-- The outcome of `_graphql` when the request was answered with `r`. -/
def GraphqlCall.outcome (call : GraphqlCall) (r : Except Exn HttpAnswer) : Except Exn Json :=
  r >>= graphqlResult call.dataKey

/-- The outcome of `get_pod`. -/
def podOutcome (podId : String) (r : Except Exn HttpAnswer) : Except Exn Pod :=
  (GraphqlCall.pod podId).outcome r >>= podOfPayload podId

/-- The outcome of `deploy_from_template`. -/
def deployOutcome (input : DeployInput) (r : Except Exn HttpAnswer) : Except Exn String :=
  (GraphqlCall.podFindAndDeployOnDemand input).outcome r >>= extractCreatedPodId

/-- A deploy that returns an id returns a non-empty one. -/
lemma deployOutcome_ne_empty {input : DeployInput} {r : Except Exn HttpAnswer} {p : String}
    (h : deployOutcome input r = .ok p) : p ≠ "" := by
  rw [deployOutcome] at h
  cases hr : (GraphqlCall.podFindAndDeployOnDemand input).outcome r with
  | error e =>
      rw [hr] at h
      cases h
  | ok payload =>
      rw [hr] at h
      exact extractCreatedPodId_ne_empty h

/-! ## The client -/

section Client

variable (cfg : AdapterConfig)

/-- `_require_api_key`. -/
def requireApiKey : Adapter Unit :=
  if cfg.runpodApiKey = "" then
    throw (.configurationError "RUNPOD_API_KEY is not configured")
  else pure ()

/-- `_graphql`. -/
def graphql (call : GraphqlCall) : Adapter Json := do
  requireApiKey cfg
  let answer ← Adapter.post call
  Async.ofExcept (graphqlResult call.dataKey answer)

def getPod (podId : String) : Adapter Pod := do
  let payload ← graphql cfg (.pod podId)
  Async.ofExcept (podOfPayload podId payload)

def startPod (podId : String) : Adapter Unit := do
  let _ ← graphql cfg (.podResume podId cfg.runpodGpuCount)

def stopPod (podId : String) : Adapter Unit := do
  let _ ← graphql cfg (.podStop podId)

def terminatePod (podId : String) : Adapter Unit := do
  let _ ← graphql cfg (.podTerminate podId)

/-- The input of the deploy mutation: a zero disk size and an empty volume id are left out. -/
def deployInput : DeployInput where
  name := cfg.runpodPodName
  templateId := cfg.runpodTemplateId
  gpuTypeIdList := cfg.runpodGpuTypeIds
  gpuCount := cfg.runpodGpuCount
  cloudType := cfg.runpodCloudType
  supportPublicIp := cfg.runpodSupportPublicIp
  containerDiskInGb := if cfg.runpodContainerDiskGb ≠ 0 then some cfg.runpodContainerDiskGb else none
  networkVolumeId :=
    if cfg.runpodNetworkVolumeId ≠ "" then some cfg.runpodNetworkVolumeId else none

def deployFromTemplate : Adapter String :=
  if cfg.runpodTemplateId = "" then
    throw (.configurationError "RUNPOD_TEMPLATE_ID is not configured")
  else if cfg.runpodGpuTypeIds = [] then
    throw (.configurationError "RUNPOD_GPU_TYPE_IDS is not configured")
  else do
    let payload ← graphql cfg (.podFindAndDeployOnDemand (deployInput cfg))
    Async.ofExcept (extractCreatedPodId payload)

end Client

/-! ## The health probe -/

/-- The verdict of a health probe, with the detail that goes into messages. -/
def healthVerdict (answer : HealthAnswer) : Bool × String :=
  if answer.status = 200 then
    if answer.protocolHeader ≠ some protocolVersion then (false, "protocol_incompatible")
    else (true, "status=200")
  else (false, s!"http_status={answer.status}")

/-- `type(exc).__name__`, of an `httpx.HTTPError`. -/
def Exn.httpName : Exn → String
  | .requestError kind _ => kind.name
  | _ => "HTTPStatusError"

def wrapperHealthyDetail (baseUrl : String) : Adapter (Bool × String) := do
  match ← Async.attempt (Adapter.health (baseUrl ++ "/health")) with
  | .ok answer => pure (healthVerdict answer)
  | .error e =>
      if e.isHttpError then pure (false, s!"{e.httpName}: {e.text}") else throw e

end SpeakrRunpod
