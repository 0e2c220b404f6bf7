import SpeakrRunpod.Adapter.Forwarding
import SpeakrRunpod.Transfer.RoundTrip
import SpeakrRunpod.Wrapper.Server

/-!
# What becomes of an answer of WhisperX

`proxy` on the wrapper, `forward_asr` on the adapter and the `except` clauses of `asr` one after the
other: each translates the status that it sees.

* `asrOutcome` — the translation of the handler.
* `FaultFree` — the way between the two programs: WhisperX answers the upload, the store has room, and
  what is sent arrives.
* `Classified` — what the client is promised for each answer.
* `classified_iff` — for which answers it is kept.
-/

namespace SpeakrRunpod

open Coop

/-! ## The handler -/

/-- What `asr` comes to: what `forward_asr` answers with, the reply of an `except` clause, or an
exception that has none. -/
inductive AsrOutcome
  | answered (answer : AsrAnswer)
  | replied (reply : Reply)
  | raised (e : Exn)

/-- The status that the client sees. -/
def AsrOutcome.status : AsrOutcome → ℕ
  | .answered answer => answer.status
  | .replied reply => reply.status
  | .raised _ => 500

/-- What `asr` makes of what `forward_asr` comes to. -/
def asrOutcome (cfg : AdapterConfig) : Except Exn AsrAnswer → AsrOutcome
  | .ok answer => .answered answer
  | .error e =>
      match errorReply cfg e with
      | .ok reply => .replied reply
      | .error e => .raised e

/-! ## On the way -/

/-- A header value as `httpx` reads it where the values are UTF-8. -/
def readAsUtf8 (value : String) : Option String :=
  (Codec.decodeUtf8 (Codec.encodeLatin1 value)).map String.ofList

/-- The headers as `httpx` reads them: in UTF-8 if all are, in Latin-1 otherwise.  Their names are in
ASCII. -/
def receivedHeaders (sent : Headers) : Headers :=
  if sent.all fun h => (readAsUtf8 h.2).isSome then
    sent.map fun h => (h.1, (readAsUtf8 h.2).getD "")
  else sent

/-- The upload arrives at the wrapper; `httpx` gives it headers of its own besides. -/
structure UploadArrives (upload : PostRequest) (request : ProxyRequest) : Prop where
  method : request.method = "POST"
  path : request.path = "asr"
  query : request.query = upload.params
  body : request.body = upload.content
  headers : ∀ name value, upload.headers.get? name = some value →
    request.headers.get? name = some value

/-- What the proxy comes to arrives at the adapter, cut into any parts.  The server gives it headers of
its own besides; an exception is answered for with its status. -/
inductive AnswerArrives : Except ProxyError WrapperResponse → PostAnswer → Prop
  | response (sent : WrapperResponse) (headers : Headers) (parts : List Bytes)
      (hheaders : ∀ name ∈ ["content-type", "content-length", protocolHeader],
        headers.get? name = (receivedHeaders sent.headers).get? name)
      (hparts : parts.flatten = sent.content) :
      AnswerArrives (.ok sent) ⟨sent.status, headers, parts, none, none⟩
  | error (e : ProxyError) (headers : Headers) (parts : List Bytes) :
      AnswerArrives (.error e) ⟨e.statusCode, headers, parts, none, none⟩

/-- The store has room for a body. -/
def Results.HasRoom (results : Results) (now : ℚ) (body : Bytes) : Prop :=
  (results.expire now).length < maxCachedResults ∧
    (results.expire now).total StoredResult.size + body.length ≤ maxCachedBytes

/-- A call that reaches WhisperX, and the answer it is given there. -/
structure AnsweredCall where
  cfg : AdapterConfig
  wrapper : WrapperConfig
  call : ForwardCall
  answer : UpstreamAnswer
  skew : ℚ

/-- How far a call has come; an answer that was stored is retrieved from the wrapper. -/
inductive CallProgress
  | ready
  | uploading (started : ℚ)
  | stored (setting : TransferSetting) (world : TransferWorld)
  | relayed

/-- **The environment of a call without faults.**  The proxy is given the answer of WhisperX, and room
in the store; what it comes to arrives; and a result that was stored can be retrieved until the
deadline. -/
inductive FaultFree (c : AnsweredCall) : CallProgress → Prog.Exchange forwardInterface → CallProgress → Prop
  | started (now : ℚ) : FaultFree c .ready ⟨.inr .monotonic, now⟩ (.uploading now)
  | stored {started : ℚ} {baseUrl : String} {upload : PostRequest} {request : ProxyRequest}
      {sent : UpstreamRequest} {body : Bytes} {now later : ℚ} {resultId : String} {results : Results}
      {r : Except ProxyError WrapperResponse} {a : PostAnswer}
      (hurl : upload.url = baseUrl ++ "/asr") (harrives : UploadArrives upload request)
      (hrun : (proxy c.wrapper request).run.Runs
        [⟨.request sent, Except.ok c.answer⟩,
          ⟨.storeResult body, (storeResult now later resultId body results).2⟩] r)
      (hroom : results.HasRoom now body) (hid : PyText.IsHex 32 resultId)
      (hkept : started + c.cfg.runpodRequestTimeoutSeconds + c.skew ≤ later + resultTtlSeconds)
      (hanswer : AnswerArrives r a) :
      FaultFree c (.uploading started) ⟨.inl upload, PostReply.answered a⟩
        (.stored
          { token := c.wrapper.adapterWhisperxToken
            authorization := c.call.authorization c.cfg
            baseUrl := baseUrl
            resultId := resultId
            skew := c.skew
            deadline := started + c.cfg.runpodRequestTimeoutSeconds }
          { results := (storeResult now later resultId body results).1
            now := later
            handled := []
            failures := fun _ => 0 })
  | relayed {started : ℚ} {upload : PostRequest} {request : ProxyRequest} {sent : UpstreamRequest}
      {r : Except ProxyError WrapperResponse} {a : PostAnswer}
      (harrives : UploadArrives upload request)
      (hrun : (proxy c.wrapper request).run.Runs [⟨.request sent, Except.ok c.answer⟩] r)
      (hanswer : AnswerArrives r a) :
      FaultFree c (.uploading started) ⟨.inl upload, PostReply.answered a⟩ .relayed
  | served {setting : TransferSetting} {w w' : TransferWorld} {o : TransferOp} {r : o.Res}
      (h : Served setting w ⟨o, r⟩ w') : FaultFree c (.stored setting w) ⟨.inr o, r⟩ (.stored setting w')
  /-- what is asked for where nothing was stored -/
  | other (o : TransferOp) (r : o.Res) : FaultFree c .relayed ⟨.inr o, r⟩ .relayed

/-! ## What is promised -/

/-- **The classification of an answer.** -/
structure Classified (answer : UpstreamAnswer) (outcome : AsrOutcome) : Prop where
  result : answer.status = 200 → isJson answer.headers → 1 ≤ answer.content.length →
    answer.content.length ≤ maxResultBytes →
      ∃ mediaType, outcome = .answered (.response 200 answer.content mediaType)
  clientError : 400 ≤ answer.status → answer.status < 500 → outcome.status = answer.status
  serverError : 500 ≤ answer.status →
    ∃ detail seconds, outcome = .replied ⟨503, detail, some seconds⟩
  unexpected : 200 ≤ answer.status → answer.status < 300 → ¬ isJson answer.headers →
    outcome.status = 502

/-- What the proxy makes of an answer that it relays. -/
def UpstreamAnswer.relay (answer : UpstreamAnswer) : Except ProxyError WrapperResponse :=
  response answer.status answer.content (forwardedResponseHeaders answer.headers [])
    (answer.headers.get? "content-type")

/-- The content type of a response as the adapter reads it. -/
def WrapperResponse.contentType (sent : WrapperResponse) : Option String :=
  (receivedHeaders sent.headers).get? "content-type"

/-- **What an answer must be like.**  An error of the client's can be written as a response on the
wrapper, and again on the adapter; an answer without JSON has neither of the statuses that stand for
a result. -/
structure Relayable (call : ForwardCall) (answer : UpstreamAnswer) : Prop where
  clientError : 400 ≤ answer.status → answer.status < 500 →
    ∃ sent, answer.relay = .ok sent ∧
      if answer.status = 413 then ∃ detail, call.decode sent.contentType answer.content = .ok detail
      else ∃ again, asrResponse answer.status answer.content sent.contentType = .ok again
  unexpected : 200 ≤ answer.status → answer.status < 300 → ¬ isJson answer.headers →
    answer.status ≠ 200 ∧ answer.status ≠ 202 ∧ ∃ sent, answer.relay = .ok sent

/-! ## The proxy -/

section Proxy

variable {cfg : WrapperConfig} {request : ProxyRequest} {answer : UpstreamAnswer}
  {sent : UpstreamRequest} {tr : List (Prog.Exchange proxyInterface)}
  {r : Except ProxyError WrapperResponse}

/-- A request that was sent on has been authorized. -/
lemma proxy_answered
    (hrun : (proxy cfg request).run.Runs (⟨.request sent, Except.ok answer⟩ :: tr) r) :
    authorized cfg.adapterWhisperxToken (request.headers.get? "authorization") = .ok true ∧
      (proxyAnswer request answer).run.Runs tr r := by
  rw [proxy] at hrun
  cases hauthorized : authorized cfg.adapterWhisperxToken (request.headers.get? "authorization") with
  | error e =>
      rw [hauthorized] at hrun
      cases hrun
  | ok allowed =>
      rw [hauthorized] at hrun
      cases allowed with
      | false => cases hrun
      | true =>
          obtain ⟨_, _, hcons, hrest⟩ := Prog.runs_op.mp hrun
          cases hcons
          exact ⟨rfl, hrest⟩

/-- Where nothing is stored, the answer is refused or relayed. -/
lemma proxyAnswer_relayed (hpath : request.path = "asr")
    (hprotocol : request.headers.get? protocolHeader = some protocolVersion)
    (hrun : (proxyAnswer request answer).run.Runs [] r) :
    (answer.status = 200 ∧ ¬ isJson answer.headers ∧
      r = .error (.raised (.httpException 502 "WhisperX returned non-JSON response"))) ∨
      (answer.status ≠ 200 ∧ r = answer.relay) := by
  rw [proxyAnswer] at hrun
  by_cases hstatus : answer.status = 200
  · rw [if_pos ⟨hpath, hprotocol, hstatus⟩] at hrun
    by_cases hjson : isJson answer.headers
    · rw [if_pos hjson] at hrun
      cases hrun
    · rw [if_neg hjson] at hrun
      exact .inl ⟨hstatus, hjson, (Prog.runs_ret.mp hrun).2.symm⟩
  · rw [if_neg fun hall => hstatus hall.2.2] at hrun
    exact .inr ⟨hstatus, hrun.unique (Async.runs_ofExcept _)⟩

/-- What the proxy comes to once the store has answered. -/
def afterStore : Except WrapperError ResultManifest → Except ProxyError WrapperResponse
  | .ok manifest => manifestResponse manifest
  | .error e => .error (.raised e)

/-- What is stored is the body of a result. -/
lemma proxyAnswer_stored {body : Bytes} {stored : Except WrapperError ResultManifest}
    (hrun : (proxyAnswer request answer).run.Runs [⟨.storeResult body, stored⟩] r) :
    answer.status = 200 ∧ isJson answer.headers ∧ body = answer.content ∧ r = afterStore stored := by
  rw [proxyAnswer] at hrun
  have hnothing : ∀ {x : Except ProxyError WrapperResponse},
      ¬ (Async.ofExcept x : Proxy WrapperResponse).run.Runs [⟨.storeResult body, stored⟩] r := by
    rintro (e | a) h <;> cases h
  split_ifs at hrun with hstored hjson
  · obtain ⟨_, _, hcons, hrest⟩ := Prog.runs_op.mp hrun
    cases hcons
    refine ⟨hstored.2.2, hjson, rfl, ?_⟩
    cases stored with
    | ok manifest => exact hrest.unique (Async.runs_ofExcept _)
    | error e => exact (Prog.runs_ret.mp hrest).2.symm
  · cases hrun
  · exact absurd hrun hnothing

variable (now later : ℚ) (resultId : String) {body : Bytes} {results : Results}

/-- A body of a permitted size is stored where there is room for it. -/
lemma storeResult_fits {now : ℚ} (hroom : results.HasRoom now body) (hpos : 1 ≤ body.length)
    (hle : body.length ≤ maxResultBytes) :
    ∃ results' manifest,
      storeResult now later resultId body results = (results', .ok manifest) := by
  have hbody : ¬ (body = [] ∨ maxResultBytes < body.length) := by
    rintro (rfl | hlt)
    · exact absurd hpos (by decide)
    · omega
  have hfull : ¬ (maxCachedResults ≤ (expireResults now results).length ∨
      maxCachedBytes < (expireResults now results).total StoredResult.size + body.length) :=
    not_or.mpr ⟨Nat.not_le.mpr hroom.1, Nat.not_lt.mpr hroom.2⟩
  rw [storeResult, if_neg hbody]
  dsimp only
  rw [if_neg hfull]
  exact ⟨_, _, rfl⟩

/-- Any other is refused. -/
lemma storeResult_refuses (results : Results) (h : ¬ (1 ≤ body.length ∧ body.length ≤ maxResultBytes)) :
    ∃ detail, (storeResult now later resultId body results).2 =
      .error (.httpException 503 detail) := by
  rcases storeResult_cases now later resultId body results with ⟨hrefused, -⟩ | ⟨-, hne, hle, -⟩
  · exact hrefused
  · exact absurd ⟨List.length_pos_iff.mpr hne, hle⟩ h

end Proxy

/-! ## The wire -/

/-- ASCII arrives as it is. -/
lemma readAsUtf8_plain {value : String} (h : Plain value.toList) :
    readAsUtf8 value = some value := by
  have hbytes : Codec.encodeUtf8 value.toList = Codec.encodeLatin1 value := Codec.encodeUtf8_ascii h
  rw [readAsUtf8, Codec.decodeUtf8_eq_some_iff.mpr hbytes]
  exact congrArg some String.ofList_toList

lemma receivedHeaders_plain {sent : Headers} (h : ∀ item ∈ sent, Plain item.2.toList) :
    receivedHeaders sent = sent := by
  rw [receivedHeaders]
  split_ifs
  · refine (List.map_congr_left fun item hitem => ?_).trans (List.map_id _)
    rw [readAsUtf8_plain (h item hitem)]
    rfl
  · rfl

/-- A value arrives as it was sent, or is read as UTF-8. -/
lemma get?_receivedHeaders {sent : Headers} {name value : String}
    (h : (receivedHeaders sent).get? name = some value) :
    ∃ given, sent.get? name = some given ∧ (value = given ∨ readAsUtf8 given = some value) := by
  rw [receivedHeaders] at h
  split_ifs at h with hall
  · rw [Headers.get?_mapValues fun given => (readAsUtf8 given).getD ""] at h
    obtain ⟨given, hgiven, rfl⟩ := Option.map_eq_some_iff.mp h
    obtain ⟨item, hitem, rfl⟩ := Headers.mem_of_get? hgiven
    obtain ⟨value, hvalue⟩ := Option.isSome_iff_exists.mp (List.all_eq_true.mp hall item hitem)
    refine ⟨item.2, hgiven, .inr ?_⟩
    rw [hvalue]
    rfl
  · exact ⟨value, h, .inl rfl⟩

/-- The headers of a response. -/
def sentHeaders (status : ℕ) (content : Bytes) (headers : Headers) (mediaType : Option String) :
    Headers :=
  headers.map (fun h => (PyText.lower h.1, h.2)) ++
    (if bodiless status then [] else [("content-length", toString content.length)]) ++
    match mediaType with
    | none => []
    | some t => [("content-type", contentTypeHeader t)]

lemma response_eq (status : ℕ) (content : Bytes) (headers : Headers) (mediaType : Option String) :
    response status content headers mediaType =
      if (sentHeaders status content headers mediaType).all fun h =>
        Codec.isLatin1 h.1 && Codec.isLatin1 h.2 then
          .ok ⟨status, sentHeaders status content headers mediaType, content⟩
      else .error .unicodeEncodeError :=
  rfl

/-- The headers of a manifest. -/
def manifestHeaders (manifest : ResultManifest) : Headers :=
  [("x-asr-result-protocol", protocolVersion),
    ("content-length", toString manifest.render.length), ("content-type", "application/json")]

lemma manifestHeaders_plain (manifest : ResultManifest) :
    ∀ item ∈ manifestHeaders manifest, Plain item.2.toList := by
  have hlength : (toString manifest.render.length).toList =
      Nat.toDigits 10 manifest.render.length := Nat.toList_repr
  simp only [manifestHeaders, List.forall_mem_cons]
  refine ⟨plain_of_all (by decide), ?_, plain_of_all (by decide), nofun⟩
  rw [hlength]
  exact plain_toDigits _

lemma Plain.isLatin1 {s : String} (h : Plain s.toList) : Codec.isLatin1 s := by
  rw [Codec.isLatin1, List.all_eq_true]
  intro c hc
  exact decide_eq_true ((h c hc).trans (by decide))

/-- **A manifest can be sent**, and its headers arrive as they are. -/
lemma manifestResponse_eq (manifest : ResultManifest) :
    manifestResponse manifest = .ok ⟨202, manifestHeaders manifest, manifest.render⟩ := by
  have hname : PyText.lower protocolHeader = "x-asr-result-protocol" := by decide
  have htype : contentTypeHeader "application/json" = "application/json" := by decide
  have hall : (manifestHeaders manifest).all fun h =>
      Codec.isLatin1 h.1 && Codec.isLatin1 h.2 := by
    rw [List.all_eq_true]
    intro item hitem
    refine Bool.and_eq_true_iff.mpr ⟨?_, (manifestHeaders_plain manifest item hitem).isLatin1⟩
    simp only [manifestHeaders, List.mem_cons, List.not_mem_nil, or_false] at hitem
    rcases hitem with rfl | rfl | rfl
    · exact (by decide : Codec.isLatin1 "x-asr-result-protocol" = true)
    · exact (by decide : Codec.isLatin1 "content-length" = true)
    · exact (by decide : Codec.isLatin1 "content-type" = true)
  have hheaders : sentHeaders 202 manifest.render [(protocolHeader, protocolVersion)]
      (some "application/json") = manifestHeaders manifest := by
    rw [sentHeaders, List.map_singleton, hname, if_neg (by decide)]
    dsimp only
    rw [htype]
    rfl
  rw [manifestResponse, response_eq, hheaders]
  exact if_pos hall

section Relay

variable {answer : UpstreamAnswer} {sent : WrapperResponse}

/-- What an answer that is relayed is sent as. -/
lemma relay_ok (h : answer.relay = .ok sent) :
    sent.status = answer.status ∧ sent.content = answer.content ∧
      (∀ item ∈ sent.headers, Codec.isLatin1 item.2) ∧
      sent.headers.get? "content-type" =
        (answer.headers.get? "content-type").map contentTypeHeader := by
  have hgiven : Headers.get? ((forwardedResponseHeaders answer.headers []).map fun h =>
      (PyText.lower h.1, h.2)) "content-type" = none := by
    rw [Headers.get?_lowerNames]
    exact Headers.get?_without (by decide)
  have hlength : Headers.get? (if bodiless answer.status then [] else
      [("content-length", toString answer.content.length)]) "content-type" = none := by
    split_ifs
    · rfl
    · exact Headers.get?_cons_of_ne (by decide)
  rw [UpstreamAnswer.relay, response_eq] at h
  split_ifs at h with hall
  cases h
  refine ⟨rfl, rfl, fun item hitem => ?_, ?_⟩
  · exact (Bool.and_eq_true_iff.mp (List.all_eq_true.mp hall item hitem)).2
  · show Headers.get? (sentHeaders _ _ _ _) _ = _
    unfold sentHeaders
    rw [Headers.get?_append, Headers.get?_append, hgiven, hlength]
    cases answer.headers.get? "content-type" with
    | none => rfl
    | some mediaType => exact Headers.get?_cons_self rfl

lemma relay_error {e : ProxyError} (h : answer.relay = .error e) : e = .unicodeEncodeError := by
  rw [UpstreamAnswer.relay, response_eq] at h
  split_ifs at h
  cases h
  rfl

/-- A charset does not make a content type one of JSON. -/
lemma contains_contentTypeHeader {mediaType : String}
    (h : PyText.contains (contentTypeHeader mediaType) "application/json") :
    PyText.contains mediaType "application/json" := by
  rw [contentTypeHeader] at h
  split_ifs at h
  · refine decide_eq_true ?_
    have hinfix := of_decide_eq_true h
    rw [String.toList_append] at hinfix
    rcases PyText.infix_of_not_mem (by decide) hinfix with hinfix | hinfix
    · exact hinfix
    · exact absurd hinfix (by decide)
  · exact h

/-- **A content type without JSON has none when it arrives.** -/
lemma contentType_relayed (h : answer.relay = .ok sent) (hjson : ¬ isJson answer.headers) :
    ¬ PyText.contains (sent.contentType.getD "") "application/json" := by
  obtain ⟨-, -, hlatin1, htype⟩ := relay_ok h
  intro hcontains
  cases harrived : sent.contentType with
  | none =>
      rw [harrived] at hcontains
      exact absurd hcontains (by decide)
  | some value =>
      rw [harrived] at hcontains
      obtain ⟨given, hgiven, hvalue⟩ := get?_receivedHeaders harrived
      obtain ⟨item, hitem, rfl⟩ := Headers.mem_of_get? hgiven
      have hsent : PyText.contains item.2 "application/json" := by
        rcases hvalue with rfl | hread
        · exact hcontains
        · obtain ⟨cs, hcs, rfl⟩ := Option.map_eq_some_iff.mp hread
          refine decide_eq_true (Codec.infix_of_decodeUtf8 (hlatin1 item hitem)
            (plain_of_all (by decide)) hcs ?_)
          have hinfix : "application/json".toList <:+: (String.ofList cs).toList :=
            of_decide_eq_true hcontains
          rwa [@String.toList_ofList cs] at hinfix
      rw [hgiven] at htype
      obtain ⟨mediaType, hmedia, heq⟩ := Option.map_eq_some_iff.mp htype.symm
      refine hjson ?_
      rw [isJson, hmedia]
      exact contains_contentTypeHeader (heq ▸ hsent)

end Relay

/-! ## The translation of the status -/

section Translation

variable {cfg : AdapterConfig} {call : ForwardCall} {answer : UpstreamAnswer}

/-- The statuses of the `except` clauses. -/
lemma errorReply_status {e : Exn} {reply : Reply} (h : errorReply cfg e = .ok reply) :
    reply.status ∈ [500, 502, 503, 504] ∧
      (reply.status = 502 → ∃ message, e = .badUpstreamResponseError message) := by
  cases e with
  | badUpstreamResponseError message =>
      cases h
      exact ⟨by simp, fun _ => ⟨message, rfl⟩⟩
  | requestError kind message => cases kind <;> cases h <;> simp
  | _ => cases h <;> simp

/-- What is raised is answered with none of the client's errors, and with 502 for one class only. -/
lemma asrOutcome_error (cfg : AdapterConfig) (e : Exn) :
    (asrOutcome cfg (.error e)).status ∈ [500, 502, 503, 504] ∧
      ((asrOutcome cfg (.error e)).status = 502 →
        ∃ message, e = .badUpstreamResponseError message) := by
  rw [asrOutcome]
  cases hreply : errorReply cfg e with
  | ok reply => exact errorReply_status hreply
  | error e' =>
      exact ⟨List.mem_cons_self, fun h => absurd h (by decide : (500 : ℕ) ≠ 502)⟩

lemma asrOutcome_error_ne (cfg : AdapterConfig) (e : Exn) {status : ℕ} (hlow : 400 ≤ status)
    (hhigh : status < 500) : (asrOutcome cfg (.error e)).status ≠ status := by
  have hmem := (asrOutcome_error cfg e).1
  simp only [List.mem_cons, List.not_mem_nil, or_false] at hmem
  omega

/-- When it is right to answer that the service is unavailable. -/
lemma classified_unavailable {detail : String} {seconds : ℤ} :
    Classified answer (.replied ⟨503, detail, some seconds⟩) ↔
      (answer.status = 200 → isJson answer.headers →
        ¬ (1 ≤ answer.content.length ∧ answer.content.length ≤ maxResultBytes)) ∧
      ¬ (400 ≤ answer.status ∧ answer.status < 500) ∧
      ¬ (200 ≤ answer.status ∧ answer.status < 300 ∧ ¬ isJson answer.headers) := by
  constructor
  · rintro ⟨hresult, hclient, -, hunexpected⟩
    refine ⟨?_, ?_, ?_⟩
    · rintro hstatus hjson ⟨hpos, hle⟩
      obtain ⟨_, hanswered⟩ := hresult hstatus hjson hpos hle
      cases hanswered
    · rintro ⟨hlow, hhigh⟩
      have hstatus : 503 = answer.status := hclient hlow hhigh
      omega
    · rintro ⟨hlow, hhigh, hjson⟩
      exact absurd (hunexpected hlow hhigh hjson) (by decide : (503 : ℕ) ≠ 502)
  · rintro ⟨hresult, hclient, hunexpected⟩
    exact
      { result := fun hstatus hjson hpos hle => absurd ⟨hpos, hle⟩ (hresult hstatus hjson)
        clientError := fun hlow hhigh => absurd ⟨hlow, hhigh⟩ hclient
        serverError := fun _ => ⟨detail, seconds, rfl⟩
        unexpected := fun hlow hhigh hjson => absurd ⟨hlow, hhigh, hjson⟩ hunexpected }

/-- An answer that the proxy cannot write. -/
lemma classified_unwritable {e : ProxyError} {detail : String} {seconds : ℤ}
    (h : answer.relay = .error e) (hstatus : answer.status ≠ 200) :
    Classified answer (.replied ⟨503, detail, some seconds⟩) ↔ Relayable call answer := by
  rw [classified_unavailable]
  constructor
  · rintro ⟨-, hclient, hunexpected⟩
    exact ⟨fun hlow hhigh => absurd ⟨hlow, hhigh⟩ hclient,
      fun hlow hhigh hjson => absurd ⟨hlow, hhigh, hjson⟩ hunexpected⟩
  · rintro ⟨hclient, hunexpected⟩
    refine ⟨fun h200 => absurd h200 hstatus, ?_, ?_⟩
    · rintro ⟨hlow, hhigh⟩
      obtain ⟨sent, hsent, -⟩ := hclient hlow hhigh
      rw [h] at hsent
      cases hsent
    · rintro ⟨hlow, hhigh, hjson⟩
      obtain ⟨-, -, sent, hsent⟩ := hunexpected hlow hhigh hjson
      rw [h] at hsent
      cases hsent

/-- A result without JSON, which the proxy refuses. -/
lemma classified_refused {detail : String} {seconds : ℤ} (hstatus : answer.status = 200)
    (hjson : ¬ isJson answer.headers) :
    Classified answer (.replied ⟨503, detail, some seconds⟩) ↔ Relayable call answer := by
  have hlow : 200 ≤ answer.status := hstatus.ge
  have hhigh : answer.status < 300 := by omega
  constructor
  · intro h
    exact absurd (h.unexpected hlow hhigh hjson) (by decide : (503 : ℕ) ≠ 502)
  · intro h
    exact absurd hstatus (h.unexpected hlow hhigh hjson).1

/-- A status that the protocol keeps for itself. -/
lemma classified_accepted {outcome : AsrOutcome} (hstatus : answer.status = 202)
    (houtcome : outcome.status ≠ 502) : Classified answer outcome ↔ Relayable call answer := by
  have hlow : 200 ≤ answer.status := by omega
  have hhigh : answer.status < 300 := by omega
  constructor
  · intro h
    refine ⟨fun h400 => by omega, fun _ _ hjson => ?_⟩
    exact absurd (h.unexpected hlow hhigh hjson) houtcome
  · intro h
    refine ⟨fun h200 => by omega, fun h400 => by omega, fun h500 => by omega, fun _ _ hjson => ?_⟩
    exact absurd hstatus (h.unexpected hlow hhigh hjson).2.1

section Relayed

variable {sent : WrapperResponse} (h : answer.relay = .ok sent)
include h

/-- What an error of the client's must be like. -/
lemma relayable_clientError (hlow : 400 ≤ answer.status) (hhigh : answer.status < 500) :
    Relayable call answer ↔
      if answer.status = 413 then ∃ detail, call.decode sent.contentType answer.content = .ok detail
      else ∃ again, asrResponse answer.status answer.content sent.contentType = .ok again := by
  constructor
  · intro hrelayable
    obtain ⟨sent', hsent', hwritten⟩ := hrelayable.clientError hlow hhigh
    rw [h] at hsent'
    cases hsent'
    exact hwritten
  · intro hwritten
    exact ⟨fun _ _ => ⟨sent, h, hwritten⟩, fun _ hlt => by omega⟩

/-- An error of the client's keeps its status where it can be written again. -/
lemma classified_clientError {upstream : PostAnswer} (hlow : 400 ≤ answer.status)
    (hhigh : answer.status < 500) (hstatus : upstream.status = answer.status)
    (htype : upstream.contentType = sent.contentType) :
    Classified answer (asrOutcome cfg (responseFromUpstream call upstream answer.content)) ↔
      Relayable call answer := by
  have hanswered : ∀ {a : AsrAnswer}, a.status = answer.status →
      Classified answer (asrOutcome cfg (.ok a)) := by
    intro a ha
    refine ⟨?_, fun _ _ => ha, ?_, ?_⟩ <;> omega
  have hraised : ∀ e, ¬ Classified answer (asrOutcome cfg (.error e)) := fun e hclassified =>
    asrOutcome_error_ne cfg e hlow hhigh (hclassified.clientError hlow hhigh)
  rw [relayable_clientError h hlow hhigh, responseFromUpstream, hstatus, htype,
    if_neg (Nat.not_le.mpr hhigh)]
  split_ifs with h413
  · cases call.decode sent.contentType answer.content with
    | ok detail => exact iff_of_true (hanswered h413.symm) ⟨detail, rfl⟩
    | error e => exact iff_of_false (hraised e) nofun
  · rw [asrResponse]
    split_ifs
    · exact iff_of_true (hanswered rfl) ⟨_, rfl⟩
    · exact iff_of_false (hraised _) nofun

/-- **An answer that is relayed** and is none that the protocol knows. -/
lemma classified_relayed {upstream : PostAnswer} (h200 : answer.status ≠ 200)
    (h202 : answer.status ≠ 202) (hstatus : upstream.status = answer.status)
    (htype : upstream.contentType = sent.contentType) :
    Classified answer (asrOutcome cfg (responseFromUpstream call upstream answer.content)) ↔
      Relayable call answer := by
  by_cases h500 : 500 ≤ answer.status
  · rw [responseFromUpstream, hstatus, if_pos h500]
    refine iff_of_true (classified_unavailable.mpr ⟨fun h => absurd h h200, ?_, ?_⟩) ⟨?_, ?_⟩ <;>
      omega
  · by_cases h400 : 400 ≤ answer.status
    · exact classified_clientError h h400 (Nat.not_le.mp h500) hstatus htype
    · have hrelayable : Relayable call answer :=
        ⟨fun hlow => absurd hlow h400, fun _ _ _ => ⟨h200, h202, sent, h⟩⟩
      refine iff_of_true ⟨fun h => absurd h h200, fun hlow => absurd hlow h400,
        fun hlow => absurd hlow h500, fun _ _ hjson => ?_⟩ hrelayable
      rw [responseFromUpstream, hstatus, htype, if_neg h500, if_neg (by omega), if_neg h400,
        if_pos (contentType_relayed h hjson)]
      rfl

end Relayed

end Translation

/-! ## The call -/

section Call

variable {W : Type} {env : W → Prog.Exchange forwardInterface → W → Prop} {w : W} {α : Type}

lemma ensures_transfer {x : Transfer α} {post : Except Exn α → W → Prop}
    (h : Async.Ensures (fun w x w' => env w ⟨.inr x.1, x.2⟩ w') x post w) :
    Async.Ensures env (Forward.transfer x) post w := by
  refine Prog.ensures_inr ?_
  exact h

lemma ensures_leaving {body : Forward α} {post : Except Exn α → W → Prop}
    (h : Async.Ensures env body post w) : Async.Ensures env (Forward.leaving none body) post w := by
  refine Async.ensures_bind (Async.ensures_attempt (h.mono ?_))
  intro r w' hpost
  exact Async.ensures_ofExcept hpost

variable {cfg : AdapterConfig} {call : ForwardCall} {baseUrl : String} {deadline : ℚ}
  {upstream : PostAnswer} {post : Except Exn AsrAnswer → W → Prop}

/-- An answer outside the protocol is read to its end. -/
lemma ensures_readUpstream (h200 : upstream.status ≠ 200) (h202 : upstream.status ≠ 202)
    (htail : upstream.tail = none)
    (h : post (responseFromUpstream call upstream upstream.parts.flatten) w) :
    Async.Ensures env (readUpstream cfg call baseUrl deadline upstream) post w := by
  rw [readUpstream, if_neg (not_or.mpr ⟨h200, h202⟩)]
  refine Async.ensures_bind (Async.ensures_ofExcept ?_)
  rw [readWhole, htail]
  exact Async.ensures_ofExcept h

/-- Whatever is raised is not what an unexpected answer is. -/
abbrev Expected {α : Type} (r : Except Exn α) : Prop :=
  Raises (fun e => ∀ message, e ≠ .badUpstreamResponseError message) r

/-- Wherever it is run, a transfer returns, with the result or with what `forward_asr` expects. -/
lemma fetchResult_expected {V : Type} {env : V → Prog.Exchange transferInterface → V → Prop} {v : V}
    (baseUrl authorization : String) (manifest : Manifest) (requestId : String) (deadline : ℚ) :
    Async.Ensures env (fetchResult baseUrl authorization manifest requestId deadline)
      (fun r _ => Expected r) v := by
  have hspec := fetchResult_spec baseUrl authorization manifest requestId deadline
  have hrecord : ∀ tr v x v', True → env v x v' → ∃ tr', Prog.record tr x tr' ∧ True :=
    fun tr _ x _ _ _ => ⟨tr ++ [x], rfl, trivial⟩
  refine Prog.Ensures.mono ?_ (Prog.Ensures.simulate (fun _ _ => True) hrecord hspec trivial)
  rintro r v ⟨tr, -, htransferred⟩ e rfl
  rcases htransferred with ⟨⟨_, rfl⟩, -⟩ | ⟨rfl, -⟩ | ⟨⟨_, rfl⟩, -⟩
  · exact nofun
  · exact nofun
  · exact nofun

lemma readManifest_expected {nested : ℕ} {response : StreamedBody} (htail : response.tail = none) :
    Expected (readManifest nested response) := by
  have hparts : ∀ parts data, Expected (readManifestParts none data parts) := by
    intro parts
    induction parts with
    | nil => exact fun _ => raises_ok _
    | cons part parts ih =>
        intro data
        rw [readManifestParts]
        split_ifs
        · exact raises_error fun message => by simp [manifestExceedsLimit]
        · exact ih _
  rw [← htail] at hparts
  exact readManifest_raises (by simp) (by simp) (by simp) fun _ => hparts _ _

lemma asrOutcome_expected {r : Except Exn AsrAnswer} (h : Expected r)
    (hok : ∀ answer, r = .ok answer → answer.status ≠ 502) : (asrOutcome cfg r).status ≠ 502 := by
  cases r with
  | ok answer => exact hok answer rfl
  | error e =>
      intro hstatus
      obtain ⟨message, he⟩ := (asrOutcome_error cfg e).2 hstatus
      exact h e rfl message he

/-- The result of a transfer, as a response. -/
lemma asrResponse_json (body : Bytes) :
    asrResponse 200 body (some "application/json") =
      .ok (.response 200 body (some "application/json")) :=
  if_pos (by decide)

/-- **An answer with the protocol's status** is never taken for an unexpected one. -/
lemma ensures_accepted (h202 : upstream.status = 202) (htail : upstream.tail = none) :
    Async.Ensures env (readUpstream cfg call baseUrl deadline upstream)
      (fun r _ => (asrOutcome cfg r).status ≠ 502) w := by
  have hraised : ∀ {e : Exn}, (∀ message, e ≠ .badUpstreamResponseError message) →
      (asrOutcome cfg (.error e)).status ≠ 502 := fun he =>
    asrOutcome_expected (raises_error he) nofun
  rw [readUpstream, if_pos (.inr h202)]
  split_ifs
  · have hmanifest : Expected (readManifest call.nested upstream.stream) :=
      readManifest_expected htail
    refine Async.ensures_bind (Async.ensures_ofExcept ?_)
    cases hread : readManifest call.nested upstream.stream with
    | error e => exact hraised (hmanifest e hread)
    | ok manifest =>
        refine Async.ensures_bind (ensures_transfer ((fetchResult_expected _ _ _ _ _).mono ?_))
        rintro (e | body) w' hexpected
        · exact hraised (hexpected e rfl)
        · refine Async.ensures_ofExcept ?_
          rw [asrResponse_json]
          exact (by decide : (200 : ℕ) ≠ 502)
  · exact Async.ensures_throw (hraised nofun)

end Call

section FaultFree

variable {c : AnsweredCall} {baseUrl : String} {deadline : ℚ} {request : ProxyRequest}
  {sent : UpstreamRequest} {r : Except ProxyError WrapperResponse} {upstream : PostAnswer}

/-- What `forward_asr` comes to is classified as the answer allows it. -/
def AnsweredCall.Settled (c : AnsweredCall) (r : Except Exn AsrAnswer) (_ : CallProgress) : Prop :=
  Classified c.answer (asrOutcome c.cfg r) ↔ Relayable c.call c.answer

/-- The headers that the proxy decides by. -/
lemma UploadArrives.decides
    (h : UploadArrives (c.call.upload c.cfg baseUrl) request) :
    request.headers.get? "authorization" = some (c.call.authorization c.cfg) ∧
      request.headers.get? protocolHeader = some protocolVersion :=
  ⟨h.headers _ _ (c.call.get?_authorization c.cfg), h.headers _ _ (c.call.get?_protocol c.cfg)⟩

/-- **Where nothing was stored.** -/
lemma settled_relayed (harrives : UploadArrives (c.call.upload c.cfg baseUrl) request)
    (hrun : (proxy c.wrapper request).run.Runs [⟨.request sent, Except.ok c.answer⟩] r)
    (hanswer : AnswerArrives r upstream) :
    Async.Ensures (FaultFree c)
      (Forward.leaving upstream.close (readUpstream c.cfg c.call baseUrl deadline upstream))
      c.Settled .relayed := by
  obtain ⟨-, hanswered⟩ := proxy_answered hrun
  rcases proxyAnswer_relayed harrives.path harrives.decides.2 hanswered with
    ⟨hstatus, hjson, rfl⟩ | ⟨hstatus, rfl⟩
  · cases hanswer with
    | error _ headers parts =>
        refine ensures_leaving (ensures_readUpstream (by decide : (502 : ℕ) ≠ 200)
          (by decide : (502 : ℕ) ≠ 202) rfl ?_)
        exact classified_refused hstatus hjson
  · generalize hrelay : c.answer.relay = relayed at hanswer
    cases hanswer with
    | error e headers parts =>
        obtain rfl := relay_error hrelay
        refine ensures_leaving (ensures_readUpstream (by decide : (500 : ℕ) ≠ 200)
          (by decide : (500 : ℕ) ≠ 202) rfl ?_)
        exact classified_unwritable hrelay hstatus
    | response relayed headers parts hheaders hparts =>
        obtain ⟨hsame, hcontent, -⟩ := relay_ok hrelay
        refine ensures_leaving ?_
        by_cases h202 : c.answer.status = 202
        · refine (ensures_accepted (hsame.trans h202) rfl).mono ?_
          intro r p hne
          exact classified_accepted h202 hne
        · refine ensures_readUpstream (hsame ▸ hstatus) (hsame ▸ h202) rfl ?_
          have htype := hheaders "content-type" (by simp)
          have hbody : c.answer.content = parts.flatten := hcontent.symm.trans hparts.symm
          show Classified c.answer (asrOutcome c.cfg
            (responseFromUpstream c.call ⟨relayed.status, headers, parts, none, none⟩
              parts.flatten)) ↔ _
          rw [← hbody]
          exact classified_relayed hrelay hstatus h202 hsame htype

/-- The headers of a manifest that has arrived. -/
lemma arrived_manifest {manifest : ResultManifest} {headers : Headers}
    (hheaders : ∀ name ∈ ["content-type", "content-length", protocolHeader],
      headers.get? name = (receivedHeaders (manifestHeaders manifest)).get? name) :
    headers.get? protocolHeader = some protocolVersion ∧
      headers.get? "content-length" = some (toString manifest.render.length) := by
  rw [receivedHeaders_plain (manifestHeaders_plain manifest)] at hheaders
  refine ⟨(hheaders protocolHeader (by simp)).trans (Headers.get?_cons_self (by decide)),
    (hheaders "content-length" (by simp)).trans ?_⟩
  rw [manifestHeaders, Headers.get?_cons_of_ne (by decide)]
  exact Headers.get?_cons_self rfl

/-- **The result is brought** in the environment of the call as in that of the transfer. -/
lemma fetchResult_faultFree {setting : TransferSetting} {body : Bytes} {expires : ℚ}
    {w : TransferWorld} {manifest : Manifest} (requestId : String)
    (hstored : setting.Stored body expires) (hlength : manifest.length = body.length)
    (hdigest : manifest.sha256 = Sha256.hexdigest body) (h : Held setting body expires w) :
    Async.Ensures (fun p x p' => FaultFree c p ⟨.inr x.1, x.2⟩ p')
      (fetchResult setting.baseUrl setting.authorization manifest requestId setting.deadline)
      (fun r _ => r = .ok body) (.stored setting w) := by
  have henv : ∀ (w : TransferWorld) (p : CallProgress) (x : Prog.Exchange transferInterface) (p' : CallProgress),
      p = .stored setting w → FaultFree c p ⟨.inr x.1, x.2⟩ p' →
        ∃ w', Served setting w x w' ∧ p' = .stored setting w' := by
    rintro w _ ⟨o, r⟩ p' rfl hx
    cases hx with
    | served hserved => exact ⟨_, hserved, rfl⟩
  refine Prog.Ensures.mono ?_ (Prog.Ensures.simulate (fun w p => p = .stored setting w) henv
    (fetchResult_served requestId hstored hlength hdigest h) rfl)
  rintro r p ⟨w', -, hdelivered⟩
  exact hdelivered.1

/-- **Where a result was stored.** -/
lemma settled_stored {body : Bytes} {started now later : ℚ} {resultId : String} {results : Results}
    (harrives : UploadArrives (c.call.upload c.cfg baseUrl) request)
    (hrun : (proxy c.wrapper request).run.Runs
      [⟨.request sent, Except.ok c.answer⟩,
        ⟨.storeResult body, (storeResult now later resultId body results).2⟩] r)
    (hroom : results.HasRoom now body) (hid : PyText.IsHex 32 resultId)
    (hkept : started + c.cfg.runpodRequestTimeoutSeconds + c.skew ≤ later + resultTtlSeconds)
    (hanswer : AnswerArrives r upstream) :
    Async.Ensures (FaultFree c)
      (Forward.leaving upstream.close (readUpstream c.cfg c.call baseUrl
        (started + c.cfg.runpodRequestTimeoutSeconds) upstream))
      c.Settled
      (.stored
        { token := c.wrapper.adapterWhisperxToken
          authorization := c.call.authorization c.cfg
          baseUrl := baseUrl
          resultId := resultId
          skew := c.skew
          deadline := started + c.cfg.runpodRequestTimeoutSeconds }
        { results := (storeResult now later resultId body results).1
          now := later
          handled := []
          failures := fun _ => 0 }) := by
  obtain ⟨hauthorized, hanswered⟩ := proxy_answered hrun
  obtain ⟨hstatus, hjson, rfl, rfl⟩ := proxyAnswer_stored hanswered
  have hrelayable : Relayable c.call c.answer :=
    ⟨fun hlow => by omega, fun _ _ hnot => absurd hjson hnot⟩
  by_cases hbounds : 1 ≤ c.answer.content.length ∧ c.answer.content.length ≤ maxResultBytes
  · obtain ⟨results', manifest, hstore⟩ :=
      storeResult_fits later resultId hroom hbounds.1 hbounds.2
    obtain ⟨rfl, hdescribes, hget⟩ := storeResult_describes hid hstore
    rw [hstore] at hanswer ⊢
    rw [afterStore, manifestResponse_eq] at hanswer
    cases hanswer with
    | response _ headers parts hheaders hparts =>
        obtain ⟨hprotocol, hlength⟩ := arrived_manifest hheaders
        obtain ⟨m, hm, -, hsize, hdigest⟩ :=
          readManifest_render c.call.nested hdescribes hparts (.inr rfl)
        have hread : readManifest c.call.nested
            (PostAnswer.stream ⟨202, headers, parts, none, none⟩) = .ok m := by
          rw [PostAnswer.stream, hlength]
          exact hm
        have hmanifest : PostAnswer.isManifest ⟨202, headers, parts, none, none⟩ :=
          decide_eq_true ⟨rfl, hprotocol⟩
        have hstored : TransferSetting.Stored
            { token := c.wrapper.adapterWhisperxToken
              authorization := c.call.authorization c.cfg
              baseUrl := baseUrl
              resultId := manifest.id
              skew := c.skew
              deadline := started + c.cfg.runpodRequestTimeoutSeconds } c.answer.content
            (later + resultTtlSeconds) :=
          ⟨hid, harrives.decides.1 ▸ hauthorized, hbounds.2, hkept⟩
        refine ensures_leaving ?_
        rw [readUpstream, if_pos (.inr rfl), if_pos hmanifest]
        refine Async.ensures_bind (Async.ensures_ofExcept ?_)
        rw [hread]
        refine Async.ensures_bind (ensures_transfer ((fetchResult_faultFree c.call.requestId hstored
          hsize hdigest ⟨fun _ => hget, fun _ h => absurd h List.not_mem_nil⟩).mono ?_))
        rintro _ p rfl
        refine Async.ensures_ofExcept ?_
        rw [asrResponse_json]
        refine iff_of_true ⟨fun _ _ _ _ => ⟨_, rfl⟩, fun hlow => ?_, fun hlow => ?_,
          fun _ _ hnot => absurd hjson hnot⟩ hrelayable <;> omega
  · obtain ⟨detail, hrefused⟩ := storeResult_refuses now later resultId results hbounds
    rw [hrefused] at hanswer
    cases hanswer with
    | error _ headers parts =>
        refine ensures_leaving (ensures_readUpstream (by decide : (503 : ℕ) ≠ 200)
          (by decide : (503 : ℕ) ≠ 202) rfl (iff_of_true ?_ hrelayable))
        exact classified_unavailable.mpr ⟨fun _ _ => hbounds, by omega, fun h => h.2.2 hjson⟩

theorem forwardAsr_settled (c : AnsweredCall) (baseUrl : String) :
    Async.Ensures (FaultFree c) (forwardAsr c.cfg c.call baseUrl) c.Settled .ready := by
  refine Async.ensures_bind (ensures_transfer (Async.ensures_call ?_))
  rintro started p hstarted
  cases hstarted with
  | started _ =>
      refine Async.ensures_bind (Async.ensures_call ?_)
      intro reply p hposted
      cases hposted with
      | relayed harrives hrun hanswer => exact settled_relayed harrives hrun hanswer
      | @stored _ baseUrl' _ _ _ _ _ _ _ _ _ _ hurl harrives hrun hroom hid hkept hanswer =>
          obtain rfl : baseUrl = baseUrl' := by
            have htexts : baseUrl.toList ++ "/asr".toList = baseUrl'.toList ++ "/asr".toList := by
              rw [← String.toList_append, ← String.toList_append]
              exact congrArg String.toList hurl
            exact String.toList_inj.mp (List.append_cancel_right htexts)
          exact settled_stored harrives hrun hroom hid hkept hanswer

end FaultFree

/-- `forward_asr` returns, whatever it is answered. -/
lemma forwardAsr_halts (cfg : AdapterConfig) (call : ForwardCall) (baseUrl : String) :
    (forwardAsr cfg call baseUrl).run.Halts := by
  have hread : ∀ (deadline : ℚ) (upstream : PostAnswer),
      Async.Ensures (fun (_ : Unit) _ _ => True) (readUpstream cfg call baseUrl deadline upstream)
        (fun _ _ => True) () := by
    intro deadline upstream
    rw [readUpstream]
    split_ifs
    · refine Async.ensures_bind (Async.ensures_ofExcept ?_)
      cases readManifest call.nested upstream.stream with
      | error e => trivial
      | ok manifest =>
          refine Async.ensures_bind (ensures_transfer ((fetchResult_expected _ _ _ _ _).mono ?_))
          rintro (e | body) _ _
          · trivial
          · exact Async.ensures_ofExcept trivial
    · exact Async.ensures_throw trivial
    · refine Async.ensures_bind (Async.ensures_ofExcept ?_)
      cases readWhole upstream with
      | error e => trivial
      | ok body => exact Async.ensures_ofExcept trivial
  have hforward : Async.Ensures (fun (_ : Unit) _ _ => True) (forwardAsr cfg call baseUrl)
      (fun _ _ => True) () := by
    refine Async.ensures_bind (ensures_transfer (Async.ensures_call fun started _ _ => ?_))
    refine Async.ensures_bind (Async.ensures_call ?_)
    rintro (fault | message | upstream) _ _
    · exact Async.ensures_throw trivial
    · exact Async.ensures_throw trivial
    · refine Async.ensures_bind (Async.ensures_attempt ((hread _ upstream).mono ?_))
      intro r _ _
      cases upstream.close with
      | none => exact Async.ensures_ofExcept trivial
      | some fault => exact Async.ensures_throw trivial
  exact Prog.Ensures.halts (fun _ _ => ⟨(), trivial⟩) hforward

/-- **When the classification holds.**  For every answer of WhisperX to the upload, in every call in
which nothing else fails and the store has room: the call returns, and the client gets what it is
promised for that answer, exactly if an error of the client's can be written as a response on both
sides, and an answer without JSON has neither the status 200 nor 202. -/
theorem classified_iff (c : AnsweredCall) (baseUrl : String) :
    (forwardAsr c.cfg c.call baseUrl).run.Halts ∧
      ∀ tr r p, (forwardAsr c.cfg c.call baseUrl).run.Runs tr r →
        Prog.Transcript (FaultFree c) .ready tr p →
          (Classified c.answer (asrOutcome c.cfg r) ↔ Relayable c.call c.answer) := by
  refine ⟨forwardAsr_halts _ _ _, fun tr r p hrun htr => ?_⟩
  have hsettled : c.Settled r p := Prog.Ensures.runs (forwardAsr_settled c baseUrl) hrun htr
  exact hsettled

/-! ## Two answers without JSON -/

/-- A call that WhisperX answers with a text. -/
def textCall (status : ℕ) : AnsweredCall where
  cfg := .template
  wrapper := ⟨"token", 0⟩
  call := emptyCall
  answer := ⟨status, [("content-type", "text/plain")], [0x6f, 0x6b]⟩
  skew := 0

/-- Its upload, as the wrapper gets it. -/
def textUpload : ProxyRequest :=
  ⟨"POST", "asr", [], emptyCall.upstreamHeaders .template, []⟩

/-- The text as it is relayed. -/
def textRelayed : WrapperResponse :=
  ⟨404, [("content-length", "2"), ("content-type", "text/plain; charset=utf-8")], [0x6f, 0x6b]⟩

/-- The run in which `upstream` answers the upload. -/
def textExchanges (upstream : PostAnswer) : List (Prog.Exchange forwardInterface) :=
  [⟨.inr .monotonic, (0 : ℚ)⟩,
    ⟨.inl (emptyCall.upload .template "http://pod:9000"), PostReply.answered upstream⟩]

lemma text_transcript {status : ℕ} {r : Except ProxyError WrapperResponse} {upstream : PostAnswer}
    (hrun : (proxy ⟨"token", 0⟩ textUpload).run.Runs
      [⟨.request textUpload.upstream, Except.ok (textCall status).answer⟩] r)
    (hanswer : AnswerArrives r upstream) :
    Prog.Transcript (FaultFree (textCall status)) .ready (textExchanges upstream) .relayed :=
  .cons (.started 0) (.cons (.relayed ⟨rfl, rfl, rfl, rfl, fun _ _ h => h⟩ hrun hanswer) (.nil _))

/-- A text that comes with 404 is relayed as it is promised. -/
theorem classified_iff_not_found :
    Classified (textCall 404).answer
        (.answered (.response 404 [0x6f, 0x6b] (some "text/plain; charset=utf-8"))) ↔
      Relayable emptyCall (textCall 404).answer := by
  have hrun : (proxy ⟨"token", 0⟩ textUpload).run.Runs
      [⟨.request textUpload.upstream, Except.ok (textCall 404).answer⟩] (.ok textRelayed) :=
    Prog.runs_of_follow (by decide)
  have harrives : AnswerArrives (.ok textRelayed)
      ⟨404, textRelayed.headers, [[0x6f, 0x6b]], none, none⟩ :=
    .response textRelayed _ _ (by decide) rfl
  have hforward : (forwardAsr .template emptyCall "http://pod:9000").run.Runs
      (textExchanges ⟨404, textRelayed.headers, [[0x6f, 0x6b]], none, none⟩)
      (.ok (.response 404 [0x6f, 0x6b] (some "text/plain; charset=utf-8"))) :=
    Prog.runs_of_follow (by decide)
  exact (classified_iff (textCall 404) "http://pod:9000").2 _ _ _ hforward
    (text_transcript hrun harrives)

/-- **A text that comes with 200** is answered with 503 and `Retry-After`. -/
theorem text_answered_unavailable : ¬ ∀ (c : AnsweredCall) (baseUrl : String) tr r p,
    (forwardAsr c.cfg c.call baseUrl).run.Runs tr r →
      Prog.Transcript (FaultFree c) .ready tr p → Classified c.answer (asrOutcome c.cfg r) := by
  intro h
  have hrun : (proxy ⟨"token", 0⟩ textUpload).run.Runs
      [⟨.request textUpload.upstream, Except.ok (textCall 200).answer⟩]
      (.error (.raised (.httpException 502 "WhisperX returned non-JSON response"))) :=
    Prog.runs_of_follow (by decide)
  have hforward : (forwardAsr .template emptyCall "http://pod:9000").run.Runs
      (textExchanges ⟨502, [], [], none, none⟩)
      (.error (.temporaryRunPodError "WhisperX returned 502")) :=
    Prog.runs_of_follow (by decide)
  have hclassified := h (textCall 200) "http://pod:9000" _ _ _ hforward
    (text_transcript hrun (.error _ [] []))
  exact absurd (hclassified.unexpected (by decide) (by decide) (by decide))
    (by decide : (503 : ℕ) ≠ 502)

end SpeakrRunpod
