import SpeakrRunpod.Transfer.HeaderHops
import SpeakrRunpod.Transfer.ManifestWire
import SpeakrRunpod.Wrapper.ResponseTrace

/-!
# One id for a transcription

The adapter draws an id for each call of `forward_asr` and names it in every request that it sends to
the wrapper; the wrapper reads it back, byte for byte, and logs it.

* `TransferOp.NamesId`, `fetchResult_names` — the requests of a retrieval.
* `askedHeaders`, `forwardAsr_names` — all requests of `forward_asr`.
* `traceIdOf_delivered` — what `_trace_id` makes of headers that were delivered.
* `trace_id_is_kept` — the whole way.
-/

namespace SpeakrRunpod

open Coop

/-! ## The requests of the adapter -/

/-- A request of the retrieval names this id. -/
def TransferOp.NamesId (requestId : String) : TransferOp → Prop
  | .get request => request.traceId = requestId
  | .delete _ _ traceId _ => traceId = requestId
  | _ => True

section Retrieval

variable {call : TransferCall}

lemma fetchChunk_names (offset expected : ℕ) (body : Bytes) : ∀ attempts : List ℕ,
    Async.Only (TransferOp.NamesId call.requestId) (fetchChunk call offset expected body attempts)
  | [] => Async.only_pure body
  | attempt :: attempts => by
      rw [fetchChunk]
      refine Async.only_bind (Async.only_call trivial) fun (now : ℚ) => ?_
      show Async.Only _ (if call.deadline - now ≤ 0 then _ else _)
      by_cases hleft : call.deadline - now ≤ 0
      · rw [if_pos hleft]
        exact Async.only_throw _
      · rw [if_neg hleft]
        refine Async.only_bind (Async.only_call rfl) fun reply => ?_
        refine Async.only_bind (Async.only_ofExcept _) fun received => ?_
        cases received with
        | some received => exact Async.only_pure _
        | none =>
            show Async.Only _ (if attempt = 3 then _ else _)
            split_ifs
            · exact Async.only_throw _
            · refine Async.only_bind (Async.only_call trivial) fun (now' : ℚ) => ?_
              refine Async.only_bind ?_ fun _ => fetchChunk_names offset expected body attempts
              refine Async.only_bind (Async.only_call trivial) fun (cancelled : Bool) => ?_
              cases cancelled with
              | true => exact Async.only_throw _
              | false => exact Async.only_pure _

lemma cleanupAttempts_names : ∀ attempts : List ℕ,
    Async.Only (TransferOp.NamesId call.requestId) (cleanupAttempts call attempts)
  | [] => Async.only_pure ()
  | attempt :: attempts => by
      rw [cleanupAttempts]
      refine Async.only_bind (Async.only_call rfl) fun reply => ?_
      refine Async.only_bind (Async.only_ofExcept _) fun status => ?_
      split_ifs
      · exact Async.only_pure ()
      · refine Async.only_bind ?_ fun _ => cleanupAttempts_names attempts
        refine Async.only_bind (Async.only_call trivial) fun interruption => ?_
        cases interruption with
        | none => exact Async.only_pure ()
        | some i => exact Async.only_throw _
      · exact Async.only_bind (Async.only_pure ()) fun _ => cleanupAttempts_names attempts

lemma fetchBody_names (manifest : Manifest) :
    Async.Only (TransferOp.NamesId call.requestId) (fetchBody call manifest) := by
  refine Async.only_bind
    (Async.only_foldlM (fun body offset => fetchChunk_names _ _ body _) _ _) fun body => ?_
  split_ifs
  · exact Async.only_throw _
  · exact Async.only_pure _

lemma cleanup_names : Async.Only (TransferOp.NamesId call.requestId) (cleanup call) := by
  refine Async.only_bind (Async.only_call trivial) fun _ => ?_
  refine Async.only_bind (Async.only_attempt (cleanupAttempts_names _)) fun outcome => ?_
  rcases outcome with e | ⟨⟨⟩⟩
  · cases e
    case timeoutError => exact Async.only_pure ()
    all_goals exact Async.only_throw _
  · exact Async.only_pure ()

/-- **Every request of a retrieval** names the id of the call. -/
lemma fetchResult_names (baseUrl authorization : String) (manifest : Manifest) (requestId : String)
    (deadline : ℚ) : Async.Only (TransferOp.NamesId requestId)
      (fetchResult baseUrl authorization manifest requestId deadline) :=
  Async.only_tryFinally (@fetchBody_names ⟨_, _, requestId, _⟩ manifest) cleanup_names

end Retrieval

/-- The headers that are given to `httpx`. -/
def askedHeaders : forwardInterface.Op → Option Headers
  | .inl post => some post.headers
  | .inr (.get request) =>
      some [("Authorization", request.authorization), ("X-ASR-Trace-ID", request.traceId)]
  | .inr (.delete _ authorization traceId _) =>
      some [("Authorization", authorization), ("X-ASR-Trace-ID", traceId)]
  | .inr _ => none

/-- A request names this id, and no other. -/
def NamesOnly (requestId : String) (o : forwardInterface.Op) : Prop :=
  ∀ sent, askedHeaders o = some sent → sent.named "X-ASR-Trace-ID" = [requestId]

lemma namesOnly_transfer {requestId : String} :
    ∀ {o : TransferOp}, o.NamesId requestId → NamesOnly requestId (.inr o)
  | .get request, h, _, hsent => by
      obtain rfl := Option.some.inj hsent
      rw [Headers.named_cons_of_ne (by decide), Headers.named_cons_self rfl, h]
      rfl
  | .delete _ _ _ _, h, _, hsent => by
      obtain rfl := Option.some.inj hsent
      rw [Headers.named_cons_of_ne (by decide), Headers.named_cons_self rfl, h]
      rfl
  | .monotonic, _, _, hsent => nomatch hsent
  | .sleep _, _, _, hsent => nomatch hsent
  | .startTimeout _, _, _, hsent => nomatch hsent
  | .sleepWithin _, _, _, hsent => nomatch hsent

/-- **Every request of `forward_asr`** names the id of the call, whatever the client's own headers
were. -/
lemma forwardAsr_names (cfg : AdapterConfig) (call : ForwardCall) (baseUrl : String) :
    Async.Only (NamesOnly call.requestId) (forwardAsr cfg call baseUrl) := by
  have htransfer : ∀ {α : Type} {x : Transfer α},
      Async.Only (TransferOp.NamesId call.requestId) x →
        Async.Only (NamesOnly call.requestId) (Forward.transfer x) :=
    fun h => Prog.only_inr (h.mono fun _ => namesOnly_transfer)
  refine Async.only_bind (htransfer (Async.only_call trivial)) fun started => ?_
  refine Async.only_bind (Async.only_call ?_) fun reply => ?_
  · intro sent hsent
    obtain rfl := Option.some.inj hsent
    exact (upstreamHeaders_named cfg call).2.1
  cases reply with
  | raised fault => exact Async.only_throw _
  | unreadable message => exact Async.only_throw _
  | answered upstream =>
      refine Async.only_bind (Async.only_attempt ?_) fun outcome => ?_
      · rw [readUpstream]
        split_ifs
        · refine Async.only_bind (Async.only_ofExcept _) fun manifest => ?_
          refine Async.only_bind (htransfer (fetchResult_names _ _ _ _ _)) fun body => ?_
          exact Async.only_ofExcept _
        · exact Async.only_throw _
        · exact Async.only_bind (Async.only_ofExcept _) fun body => Async.only_ofExcept _
      · cases upstream.close with
        | some fault => exact Async.only_throw _
        | none => exact Async.only_ofExcept _

/-! ## The wrapper's side -/

/-- **Names are compared in lower case on both levels**: as bytes, and as the text they stand for. -/
lemma lower_latin1 (bs : Bytes) : PyText.lower (Codec.latin1 bs) = Codec.latin1 (lowerBytes bs) := by
  have hascii : ∀ n < 0x80, PyText.lowerChar (Char.ofNat n) =
      [Char.ofNat (if 65 ≤ n ∧ n ≤ 90 then n + 32 else n)] := by decide
  have hall : ∀ n < 256, PyText.lowerChar (Char.ofNat n) =
      [Char.ofNat (if 65 ≤ n ∧ n ≤ 90 then n + 32 else n)] := by
    intro n hn
    rcases Nat.lt_or_ge n 0x80 with hlt | hge
    · exact hascii n hlt
    · have hcode : (Char.ofNat n).toNat = n := by
        rw [Char.toNat_ofNat, if_pos (Or.inl (by omega))]
      rw [PyText.lowerChar, hcode, if_neg (by omega), if_neg (by omega), if_neg (by omega),
        PyText.toLower_eq_self (by omega)]
  have hbyte : ∀ b : UInt8, PyText.lowerChar (Char.ofNat b.toNat) =
      [Char.ofNat (if 65 ≤ b ∧ b ≤ 90 then b + 32 else b).toNat] := by
    intro b
    rw [hall b.toNat b.toNat_lt]
    by_cases hb : 65 ≤ b ∧ b ≤ 90
    · have hb' : 65 ≤ b.toNat ∧ b.toNat ≤ 90 := hb
      rw [if_pos hb, if_pos hb', UInt8.toNat_add]
      congr 2
      simp
      omega
    · have hb' : ¬ (65 ≤ b.toNat ∧ b.toNat ≤ 90) := hb
      rw [if_neg hb, if_neg hb']
  rw [PyText.lower_eq, Codec.latin1, Codec.latin1, String.toList_ofList]
  refine congrArg String.ofList ?_
  induction bs with
  | nil => rfl
  | cons b bs ih =>
      rw [List.map_cons, List.flatMap_cons, ih, hbyte, lowerBytes, lowerBytes, List.map_cons,
        List.map_cons]
      rfl

lemma latin1_injective : Function.Injective Codec.latin1 := by
  intro bs bs' h
  have hlist := congrArg String.toList h
  rw [Codec.latin1, Codec.latin1, String.toList_ofList, String.toList_ofList] at hlist
  refine List.map_injective_iff.mpr ?_ hlist
  intro b b' hb
  have hnat := congrArg Char.toNat hb
  have hvalid : ∀ c : UInt8, (Char.ofNat c.toNat).toNat = c.toNat := by
    intro c
    have hlt := c.toNat_lt
    rw [Char.toNat_ofNat, if_pos (Or.inl (by omega))]
  rw [hvalid, hvalid] at hnat
  exact UInt8.toNat_inj.mp hnat

/-- The headers that `_trace_id` looks for are those of the name, in any case. -/
lemma traceIdName_iff (name : Bytes) :
    lowerBytes name = traceIdName ↔
      PyText.lower (Codec.latin1 name) = PyText.lower "X-ASR-Trace-ID" := by
  have hname : PyText.lower "X-ASR-Trace-ID" = Codec.latin1 traceIdName := by decide
  rw [lower_latin1, hname]
  exact latin1_injective.eq_iff.symm

/-- The digits of an id are read as they are. -/
lemma asciiIgnore_of_isHex {n : ℕ} {bs : Bytes} (h : PyText.IsHex n (Codec.latin1 bs)) :
    asciiIgnore bs = Codec.latin1 bs := by
  have hascii : ∀ b ∈ bs, b < 0x80 := by
    intro b hb
    have hdigit := List.all_eq_true.mp h.2 (Char.ofNat b.toNat) (by
      rw [Codec.latin1, String.toList_ofList]
      exact List.mem_map_of_mem hb)
    have hcode : (Char.ofNat b.toNat).toNat = b.toNat := by
      have hlt := b.toNat_lt
      rw [Char.toNat_ofNat, if_pos (Or.inl (by omega))]
    rw [UInt8.lt_iff_toNat_lt, ← hcode]
    exact (hexDigit_plain hdigit).1
  rw [asciiIgnore, Codec.latin1, List.filter_eq_self.mpr]
  exact fun b hb => decide_eq_true (hascii b hb)

/-- **What `_trace_id` makes of headers**, where one of them, and one only, has the name. -/
lemma traceIdOf_named {scope : AsgiScope} {call : WrapperCall} {requestId : String}
    (hscope : scope.headers = some call.headers)
    (hnamed : call.decoded.named "X-ASR-Trace-ID" = [requestId]) (hid : PyText.IsHex 12 requestId) :
    traceIdOf scope = requestId := by
  have hfilter : call.decoded.named "X-ASR-Trace-ID" =
      (call.headers.filter fun h => lowerBytes h.1 = traceIdName).map fun h => Codec.latin1 h.2 := by
    rw [Headers.named, WrapperCall.decoded, List.filter_map, List.map_map]
    refine congrArg _ (List.filter_congr fun h _ => ?_)
    exact decide_eq_decide.mpr (traceIdName_iff h.1).symm
  rw [hfilter] at hnamed
  obtain ⟨h, hh, rfl⟩ := List.map_eq_singleton_iff.mp hnamed
  rw [traceIdOf, hscope, Option.getD_some, ← List.head?_filter, hh]
  show (if PyText.IsHex 12 (asciiIgnore h.2) then asciiIgnore h.2 else "untracked") = _
  rw [asciiIgnore_of_isHex hid, if_pos hid]

lemma Logged.id {id : String} {started : ℚ} {events : List (Option ℕ × TraceEvent)}
    {tr : List (Prog.Exchange traceInterface)} (h : Logged id started events tr)
    {record : TraceRecord} (hrecord : ⟨TraceOp.log record, ()⟩ ∈ tr) : record.id = id := by
  induction h with
  | nil => cases hrecord
  | cons now status event _ ih =>
      rcases List.mem_cons.mp hrecord with hclock | hrecord
      · cases hclock
      rcases List.mem_cons.mp hrecord with hlog | hrecord
      · cases hlog
        rfl
      · exact ih hrecord

/-- Every record of the middleware carries the id that it took from the request. -/
lemma logged_id {A : Interface} {scope : AsgiScope} {app : AsgiApp A}
    {whole : List (Prog.Exchange ((asgiInterface A).sum traceInterface))}
    {r : Except PyException Unit} (h : (asrResponseTrace scope app).run.Runs whole r)
    {record : TraceRecord} (hrecord : ⟨TraceOp.log record, ()⟩ ∈ rights whole) :
    record.id = traceIdOf scope := by
  by_cases hscope : scope.Traced
  · obtain ⟨started, own, inner, s, fin, rfl, -, hwatched, hfin⟩ := (runs_traced hscope).mp h
    obtain ⟨-, hlogged⟩ := watched_accounts hwatched [] rfl
    rw [rights_asRight, rights_append, rights_map_asRight] at hrecord
    exact (hlogged.append hfin).id ((List.mem_cons.mp hrecord).resolve_left nofun)
  · rw [asrResponseTrace, if_neg hscope] at h
    obtain ⟨own, rfl, -⟩ := Prog.runs_inl.mp h
    rw [rights_map_asLeft] at hrecord
    cases hrecord

/-- **One id for a transcription.**  Every request that a call of `forward_asr` sends to the wrapper —
the upload, each request for a chunk, each deletion — is one from which the wrapper takes the id of
the call, whatever the client's own headers were and whatever came before; and all that the wrapper's
middleware logs of its response, whatever the application does, is logged under that id. -/
theorem trace_id_is_kept (hop : HttpHop) (cfg : AdapterConfig) (call : ForwardCall) (baseUrl : String)
    (hid : PyText.IsHex 12 call.requestId) (tr : List (Prog.Exchange forwardInterface))
    (o : forwardInterface.Op) (hask : (forwardAsr cfg call baseUrl).run.Asks tr o) (sent : Headers)
    (hsent : askedHeaders o = some sent) (arrived : WrapperCall)
    (harrived : arrived.decoded = hop.deliver sent) (scope : AsgiScope)
    (hscope : scope.headers = some arrived.headers) :
    traceIdOf scope = call.requestId ∧
      ∀ (A : Interface) (app : AsgiApp A) whole r,
        (asrResponseTrace scope app).run.Runs whole r →
          ∀ record, ⟨TraceOp.log record, ()⟩ ∈ rights whole → record.id = call.requestId := by
  have hnamed : (hop.deliver sent).named "X-ASR-Trace-ID" = [call.requestId] := by
    rw [named_deliver hop (.inl (by decide))]
    exact (forwardAsr_names cfg call baseUrl).asks hask sent hsent
  have hkept : traceIdOf scope = call.requestId := by
    refine traceIdOf_named hscope ?_ hid
    rw [harrived, hnamed]
  refine ⟨hkept, fun A app whole r h record hrecord => ?_⟩
  rw [logged_id h hrecord, hkept]

/-- A call whose client brings an id of its own. -/
def namedCall : ForwardCall :=
  { emptyCall with
    headers := [("x-asr-trace-id", "ffffffffffff"), ("Accept", "application/json")]
    requestId := "0123456789ab" }

/-- The upload of that call, as it arrives. -/
def namedUpload : WrapperCall where
  headers := ((httpxHop "pod:9000").deliver (namedCall.upstreamHeaders .template)).map
    fun h => (Codec.encodeLatin1 h.1, Codec.encodeLatin1 h.2)
  request := .proxy "POST" "asr" [] []

theorem trace_id_is_kept_upload :
    traceIdOf ⟨"http", some "/asr", some "POST", some namedUpload.headers⟩ = "0123456789ab" :=
  (trace_id_is_kept (httpxHop "pod:9000") .template namedCall "http://pod:9000" (by decide)
    [⟨Sum.inr TransferOp.monotonic, (0 : ℚ)⟩] _ (.later _ (.here _ _)) _ rfl namedUpload
    (by decide) _ rfl).1

end SpeakrRunpod
