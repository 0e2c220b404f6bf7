import Mathlib.Logic.Function.Basic
import Mathlib.Logic.Relation
import Mathlib.Tactic.Ring
import SpeakrRunpod.Adapter.TransferSafety
import SpeakrRunpod.Transfer.ManifestWire

/-!
# A transfer between the two programs

`fetch_result` against the handlers of the wrapper: the requests are met by `resultChunk` and
`deleteResult` on a store that other clients use as well, and the network may lose or spoil an
answer.

* `OtherStep` — what happens in between: the clock, and other clients' calls for other results.
* `Transient` — the failures of the network; `Carried` — an answer that has come through.
* `Served` — the environment of a transfer, in which every offset meets two failures at most.
* `Held` — the result is in the store until its expiry.
-/

namespace SpeakrRunpod

open Coop

/-- The wrapper as a transfer meets it: the store, the clock, what the handler has made of the
requests for chunks, and how many attempts at each offset the network has spoilt. -/
structure TransferWorld where
  results : Results
  now : ℚ
  handled : List (Except WrapperError ChunkResponse)
  failures : ℕ → ℕ

/-- The two programs and the result that is transferred; `skew` is how far the clock of the wrapper
is ahead of the adapter's. -/
structure TransferSetting where
  token : String
  authorization : String
  baseUrl : String
  resultId : String
  skew : ℚ
  deadline : ℚ

/-! ## What the wrapper does meanwhile -/

/-- Time passes, or a client stores, reads or deletes another result; anyone may read. -/
inductive OtherStep (c : TransferSetting) : TransferWorld → TransferWorld → Prop
  | wait {w : TransferWorld} (now : ℚ) (h : w.now ≤ now) : OtherStep c w { w with now := now }
  | store {w : TransferWorld} (later : ℚ) (resultId : String) (body : Bytes) (h : w.now ≤ later)
      (hid : resultId ≠ c.resultId) :
      OtherStep c w
        { w with results := (storeResult w.now later resultId body w.results).1, now := later }
  | get {w : TransferWorld} (resultId : String) :
      OtherStep c w { w with results := (getResult w.now resultId w.results).1 }
  | delete {w : TransferWorld} (authorization : Option String) (resultId : String)
      (hid : resultId ≠ c.resultId) :
      OtherStep c w
        { w with results := (deleteResult c.token authorization resultId w.results).1 }

/-- Any number of such steps. -/
def Others (c : TransferSetting) : TransferWorld → TransferWorld → Prop :=
  Relation.ReflTransGen (OtherStep c)

/-! ## The network -/

/-- A failure that may not come again: a `RequestError` or a timeout, a status that is not final, the
wrong offset, or a body that is cut off, short or too long. -/
inductive Transient (offset expected : ℕ) : GetReply → Prop
  | raised (fault : Fault) (h : fault ≠ cancellation) : Transient offset expected (.raised fault)
  | status (chunk : ChunkAnswer) (h : chunk.status ∉ [200, 401, 403, 404])
      (hclose : chunk.close ≠ some cancellation) : Transient offset expected (.answered chunk)
  | offset (chunk : ChunkAnswer) (h : chunk.status = 200)
      (hoffset : chunk.chunkOffset ≠ some (toString offset))
      (hclose : chunk.close ≠ some cancellation) : Transient offset expected (.answered chunk)
  | body (chunk : ChunkAnswer) (h : chunk.status = 200)
      (hdeclared : ∀ s, chunk.contentLength = some s → ¬ OverlongNumeral s)
      (hbody : chunk.tail ≠ none ∨ chunk.parts.flatten.length ≠ expected)
      (htail : chunk.tail ≠ some cancellation) (hclose : chunk.close ≠ some cancellation) :
      Transient offset expected (.answered chunk)

/-- What the handler has come to arrives as it was sent, cut into any parts.  Leaving the stream may
fail after that. -/
inductive Carried : Except WrapperError ChunkResponse → GetReply → Prop
  | response (response : ChunkResponse) (declared : Option String) (parts : List Bytes)
      (close : Option Fault) (hparts : parts.flatten = response.content)
      (hdeclared : declared = none ∨ declared = some (toString response.content.length))
      (hclose : close ≠ some cancellation) :
      Carried (.ok response)
        (.answered
          { contentLength := declared
            parts := parts
            tail := none
            status := 200
            chunkOffset := some response.chunkOffset
            close := close })
  | error (e : WrapperError) (body : StreamedBody) (close : Option Fault) :
      Carried (.error e)
        (.answered
          { toStreamedBody := body
            status := e.statusCode
            chunkOffset := none
            close := close })

/-- The handler is called with a request. -/
def TransferWorld.call (c : TransferSetting) (request : ChunkRequest) (w : TransferWorld) :
    Results × Except WrapperError ChunkResponse :=
  resultChunk c.token (some request.authorization) w.now c.resultId request.offset request.limit
    w.results

def TransferWorld.handle (c : TransferSetting) (request : ChunkRequest) (w : TransferWorld) :
    TransferWorld :=
  { w with results := (w.call c request).1, handled := (w.call c request).2 :: w.handled }

/-- The network spoils an attempt. -/
def TransferWorld.fail (w : TransferWorld) (offset : ℕ) : TransferWorld :=
  { w with failures := Function.update w.failures offset (w.failures offset + 1) }

/-- **The environment of a transfer.**  The clock is read before the deadline; a request is met
within the time the attempt waits; at each offset the network fails two times at most; and the call
is not cancelled. -/
inductive Served (c : TransferSetting) :
    TransferWorld → Prog.Exchange transferInterface → TransferWorld → Prop
  | monotonic {w : TransferWorld} (h : w.now - c.skew < c.deadline) :
      Served c w ⟨.monotonic, w.now - c.skew⟩ w
  | carried {w w₁ w₂ : TransferWorld} {request : ChunkRequest} {reply : GetReply}
      (hurl : request.url = resultUrl c.baseUrl c.resultId) (before : Others c w w₁)
      (hwithin : w₁.now < w.now + request.within)
      (hreply : Carried (w₁.call c request).2 reply)
      (after : Others c (w₁.handle c request) w₂) : Served c w ⟨.get request, reply⟩ w₂
  | spoilt {w w₁ w₂ : TransferWorld} {request : ChunkRequest} {reply : GetReply}
      (hurl : request.url = resultUrl c.baseUrl c.resultId) (before : Others c w w₁)
      (hwithin : w₁.now < w.now + request.within) (hbudget : w.failures request.offset < 2)
      (hreply : Transient request.offset request.limit reply)
      (after : Others c ((w₁.handle c request).fail request.offset) w₂) :
      Served c w ⟨.get request, reply⟩ w₂
  | lost {w w₁ : TransferWorld} {request : ChunkRequest} {reply : GetReply}
      (hbudget : w.failures request.offset < 2)
      (hreply : Transient request.offset request.limit reply)
      (after : Others c (w.fail request.offset) w₁) : Served c w ⟨.get request, reply⟩ w₁
  | sleep {w w₁ : TransferWorld} {seconds : ℚ} (meanwhile : Others c w w₁)
      (h : w.now + seconds ≤ w₁.now) : Served c w ⟨.sleep seconds, false⟩ w₁
  | startTimeout {w : TransferWorld} {seconds : ℚ} : Served c w ⟨.startTimeout seconds, ()⟩ w
  | delete {w w₁ w₂ : TransferWorld} {url authorization traceId : String} {timeout : ℚ}
      {reply : DeleteReply} (hurl : url = resultUrl c.baseUrl c.resultId) (before : Others c w w₁)
      (hreply : ¬ DeleteReply.Cancels reply)
      (after : Others c
        { w₁ with
          results := (deleteResult c.token (some authorization) c.resultId w₁.results).1 } w₂) :
      Served c w ⟨.delete url authorization traceId timeout, reply⟩ w₂
  | undeleted {w w₁ : TransferWorld} {url authorization traceId : String} {timeout : ℚ}
      {reply : DeleteReply} (meanwhile : Others c w w₁) (hreply : ¬ DeleteReply.Cancels reply) :
      Served c w ⟨.delete url authorization traceId timeout, reply⟩ w₁
  | sleepWithin {w w₁ : TransferWorld} {seconds : ℚ} {interruption : Option Interruption}
      (meanwhile : Others c w w₁) (h : interruption ≠ some .cancelledError) :
      Served c w ⟨.sleepWithin seconds, interruption⟩ w₁

/-! ## One attempt -/

lemma exceptRetriable_transient {received : Option Bytes} {fault : Fault}
    (h : fault ≠ cancellation) : exceptRetriable received fault.exn = .ok received := by
  rcases fault with _ | _ | _
  · rfl
  · rfl
  · exact absurd rfl h

/-- What has been received stands, whatever leaving the stream raises. -/
lemma attemptChunk_received {offset expected : ℕ} {chunk : ChunkAnswer} {received : Option Bytes}
    (h : receiveChunk offset expected chunk = .ok received)
    (hclose : chunk.close ≠ some cancellation) :
    attemptChunk offset expected (.answered chunk) = .ok received := by
  rw [attemptChunk, h]
  cases hfault : chunk.close with
  | none => rfl
  | some fault =>
      rw [hfault] at hclose
      exact exceptRetriable_transient fun heq => hclose (congrArg some heq)

/-- A guard that does not raise. -/
lemma declaredExceeds_ok {declared : Option String} {limit : ℕ}
    (h : ∀ s, declared = some s → ¬ OverlongNumeral s) :
    ∃ exceeds, declaredExceeds declared limit = .ok exceeds := by
  cases hexceeds : declaredExceeds declared limit with
  | ok exceeds => exact ⟨exceeds, rfl⟩
  | error e =>
      obtain ⟨s, hs, hover⟩ := declaredExceeds_error_iff.mp ⟨e, hexceeds⟩
      exact absurd hover (h s hs)

/-- A spoilt body is not received. -/
lemma receiveBody_transient {expected : ℕ} {chunk : StreamedBody}
    (hdeclared : ∀ s, chunk.contentLength = some s → ¬ OverlongNumeral s)
    (hbody : chunk.tail ≠ none ∨ chunk.parts.flatten.length ≠ expected)
    (htail : chunk.tail ≠ some cancellation) :
    receiveBody expected chunk = .ok none ∨
      ∃ fault, fault ≠ cancellation ∧ receiveBody expected chunk = .error fault.exn := by
  obtain ⟨exceeds, hexceeds⟩ : ∃ exceeds, declaredExceeds chunk.contentLength expected = .ok exceeds :=
    declaredExceeds_ok hdeclared
  rw [receiveBody, hexceeds]
  cases exceeds with
  | true => exact .inl rfl
  | false =>
      cases hparts : readParts expected chunk.tail [] chunk.parts with
      | ok data =>
          refine .inl (congrArg Except.ok (if_neg fun hlen => ?_))
          obtain ⟨hnone, rfl⟩ := readParts_ok hparts hlen.le
          rcases hbody with hbody | hbody
          · exact hbody hnone
          · exact hbody hlen
      | error e =>
          obtain ⟨fault, hfault, rfl⟩ := readParts_error hparts
          exact .inr ⟨fault, fun heq => htail (hfault.trans (congrArg some heq)), rfl⟩

/-- **A failure of the network is tried again.** -/
lemma attemptChunk_transient {offset expected : ℕ} {reply : GetReply}
    (h : Transient offset expected reply) : attemptChunk offset expected reply = .ok none := by
  cases h with
  | raised fault h => exact exceptRetriable_transient h
  | status chunk h hclose =>
      simp only [List.mem_cons, List.not_mem_nil, or_false, not_or] at h
      refine attemptChunk_received ?_ hclose
      rw [receiveChunk, if_neg h.2.2.2, if_neg (not_or.mpr ⟨h.2.1, h.2.2.1⟩), if_pos (.inl h.1)]
  | offset chunk h hoffset hclose =>
      refine attemptChunk_received ?_ hclose
      rw [receiveChunk, h, if_neg (by decide), if_neg (by decide), if_pos (.inr hoffset)]
  | body chunk h hdeclared hbody htail hclose =>
      have hreceive : receiveChunk offset expected chunk = .ok none ∨
          ∃ fault, fault ≠ cancellation ∧ receiveChunk offset expected chunk = .error fault.exn := by
        rw [receiveChunk, h, if_neg (by decide), if_neg (by decide)]
        split_ifs
        · exact .inl rfl
        · exact receiveBody_transient hdeclared hbody htail
      rcases hreceive with hreceive | ⟨fault, hfault, hreceive⟩
      · exact attemptChunk_received hreceive hclose
      · rw [attemptChunk, hreceive]
        cases hclosed : chunk.close with
        | none => exact exceptRetriable_transient hfault
        | some fault' =>
            rw [hclosed] at hclose
            exact exceptRetriable_transient fun heq => hclose (congrArg some heq)

/-- Parts that are as long as expected are all read. -/
lemma readParts_whole {expected : ℕ} {parts : List Bytes} :
    ∀ {data : Bytes}, (data ++ parts.flatten).length ≤ expected →
      readParts expected none data parts = .ok (data ++ parts.flatten) := by
  induction parts with
  | nil =>
      intro data _
      rw [List.flatten_nil, List.append_nil]
      rfl
  | cons part parts ih =>
      intro data h
      rw [List.flatten_cons, ← List.append_assoc] at h ⊢
      have hpart : ¬ expected < (data ++ part).length := by
        rw [List.length_append] at h
        omega
      rw [readParts, if_neg hpart]
      exact ih h

/-- **An answer that has come through is received.** -/
lemma attemptChunk_carried {offset : ℕ} {content : Bytes} {reply : GetReply}
    (hsize : content.length ≤ chunkSize)
    (h : Carried (.ok ⟨content, toString offset⟩) reply) :
    attemptChunk offset content.length reply = .ok (some content) := by
  cases h with
  | response _ declared parts close hparts hdeclared hclose =>
      refine attemptChunk_received ?_ hclose
      have hlimit : content.length < 10 ^ PyText.maxIntDigits :=
        Nat.lt_of_le_of_lt hsize (Nat.lt_of_lt_of_le (by decide : chunkSize < 10 ^ 4)
          (Nat.pow_le_pow_right (by decide) (by decide)))
      have hread : readParts content.length none [] parts = .ok content := by
        rw [readParts_whole (by rw [List.nil_append, hparts]), List.nil_append, hparts]
      rw [receiveChunk]
      dsimp only
      rw [if_neg (by decide), if_neg (by decide), if_neg (by simp), receiveBody,
        declaredExceeds_length le_rfl hlimit hdeclared, hread]
      exact congrArg Except.ok (if_pos rfl)

/-! ## The store during a transfer -/

/-- What is transferred: the body, when it expires, and that the transfer is allowed and is over by
then. -/
structure TransferSetting.Stored (c : TransferSetting) (body : Bytes) (expires : ℚ) : Prop where
  id : PyText.IsHex 32 c.resultId
  authorized : authorized c.token (some c.authorization) = .ok true
  bounded : body.length ≤ maxResultBytes
  inTime : c.deadline + c.skew ≤ expires

/-- **The invariant of the world**: the result is in the store until its expiry, and no request for a
chunk of it has been refused. -/
structure Held (c : TransferSetting) (body : Bytes) (expires : ℚ) (w : TransferWorld) : Prop where
  kept : w.now < expires →
    w.results.get? c.resultId = some (expires, ⟨body, Sha256.hexdigest body⟩)
  met : ∀ outcome ∈ w.handled, ∃ response, outcome = .ok response

section Store

variable {c : TransferSetting} {body : Bytes} {expires : ℚ} {w w' : TransferWorld}

/-- An entry that has not expired outlives an expiry. -/
lemma get?_expire_of_lt {results : Results} {resultId : String} {now : ℚ} {item : StoredResult}
    (h : results.get? resultId = some (expires, item)) (hnow : now < expires) :
    (results.expire now).get? resultId = some (expires, item) :=
  TtlMap.visible_eq_some_iff.mpr ⟨h, hnow⟩

/-- The other clients leave the result alone. -/
lemma OtherStep.held (hstep : OtherStep c w w') (h : Held c body expires w) :
    Held c body expires w' ∧ w'.failures = w.failures ∧ w'.handled = w.handled ∧
      w.now ≤ w'.now := by
  cases hstep with
  | wait now hnow =>
      exact ⟨⟨fun hlt => h.kept (hnow.trans_lt hlt), h.met⟩, rfl, rfl, hnow⟩
  | store later resultId other hlater hid =>
      refine ⟨⟨fun hlt => ?_, h.met⟩, rfl, rfl, hlater⟩
      have hnow : w.now < expires := hlater.trans_lt hlt
      have hkept := h.kept hnow
      rcases storeResult_cases w.now later resultId other w.results with
        ⟨-, hstate | hstate⟩ | ⟨heq, -⟩
      · exact (congrArg (TtlMap.get? · c.resultId) hstate).trans hkept
      · exact (congrArg (TtlMap.get? · c.resultId) hstate).trans (get?_expire_of_lt hkept hnow)
      · dsimp only
        rw [heq, TtlMap.get?_set, if_neg (Ne.symm hid)]
        exact get?_expire_of_lt hkept hnow
  | get resultId =>
      refine ⟨⟨fun hlt => ?_, h.met⟩, rfl, rfl, le_rfl⟩
      rcases getResult_state w.now resultId w.results with hstate | hstate
      · exact (congrArg (TtlMap.get? · c.resultId) hstate).trans (h.kept hlt)
      · exact (congrArg (TtlMap.get? · c.resultId) hstate).trans
          (get?_expire_of_lt (h.kept hlt) hlt)
  | delete authorization resultId hid =>
      refine ⟨⟨fun hlt => ?_, h.met⟩, rfl, rfl, le_rfl⟩
      rcases deleteResult_cases c.token authorization resultId w.results with ⟨e, heq⟩ | heq
      · dsimp only
        rw [heq]
        exact h.kept hlt
      · dsimp only
        rw [heq, TtlMap.get?_pop, if_neg (Ne.symm hid)]
        exact h.kept hlt

/-- Nor do any number of them. -/
lemma Others.held (hothers : Others c w w') (h : Held c body expires w) :
    Held c body expires w' ∧ w'.failures = w.failures ∧ w'.handled = w.handled ∧
      w.now ≤ w'.now := by
  induction hothers with
  | refl => exact ⟨h, rfl, rfl, le_rfl⟩
  | tail _ hstep ih =>
      obtain ⟨hheld, hfailures, hhandled, hnow⟩ := ih
      obtain ⟨hheld', hfailures', hhandled', hnow'⟩ := hstep.held hheld
      exact ⟨hheld', hfailures'.trans hfailures, hhandled'.trans hhandled, hnow.trans hnow'⟩

/-- **The handler serves every chunk of a result that is held.** -/
lemma call_held {request : ChunkRequest} (hstored : c.Stored body expires)
    (h : Held c body expires w) (hnow : w.now < expires)
    (hauthorization : request.authorization = c.authorization)
    (hoffset : request.offset < body.length) (hlimit : 1 ≤ request.limit)
    (hlimit' : request.limit ≤ chunkSize) :
    w.call c request = (w.results.expire w.now,
      .ok ⟨(body.drop request.offset).take request.limit, toString request.offset⟩) := by
  have hget : getResult w.now c.resultId w.results =
      (w.results.expire w.now, .ok (expires, ⟨body, Sha256.hexdigest body⟩)) := by
    rw [getResult, if_neg (not_not.mpr hstored.id)]
    dsimp only [expireResults]
    rw [get?_expire_of_lt (h.kept hnow) hnow]
  have hbounds : 0 ≤ (request.offset : ℤ) ∧ 1 ≤ (request.limit : ℤ) ∧
      (request.limit : ℤ) ≤ chunkSize := by omega
  have hinside : ¬ (body.length : ℤ) ≤ request.offset := by omega
  rw [TransferWorld.call, resultChunk, if_neg (not_not.mpr hbounds), hauthorization,
    hstored.authorized, hget]
  dsimp only
  rw [if_neg hinside, Int.toNat_natCast, Int.toNat_natCast]
  rfl

/-- A request for a chunk leaves the result where it is. -/
lemma Held.handle {request : ChunkRequest} (hstored : c.Stored body expires)
    (h : Held c body expires w) (hnow : w.now < expires)
    (hauthorization : request.authorization = c.authorization)
    (hoffset : request.offset < body.length) (hlimit : 1 ≤ request.limit)
    (hlimit' : request.limit ≤ chunkSize) : Held c body expires (w.handle c request) := by
  have hcall := call_held hstored h hnow hauthorization hoffset hlimit hlimit'
  constructor
  · intro hlt
    rw [TransferWorld.handle, hcall]
    exact get?_expire_of_lt (h.kept hlt) hlt
  · intro outcome houtcome
    rw [TransferWorld.handle, hcall] at houtcome
    rcases List.mem_cons.mp houtcome with rfl | houtcome
    · exact ⟨_, rfl⟩
    · exact h.met outcome houtcome

lemma Held.fail (h : Held c body expires w) (offset : ℕ) : Held c body expires (w.fail offset) :=
  ⟨h.kept, h.met⟩

end Store

/-! ## The transfer -/

section Transfer

variable {c : TransferSetting} {body : Bytes} {expires : ℚ} {w w' : TransferWorld}

/-- The chunk of `body` that a request asks for. -/
def ChunkRequest.piece (request : ChunkRequest) (body : Bytes) : Bytes :=
  (body.drop request.offset).take request.limit

/-- **One attempt** brings the chunk, or is spoilt and counted. -/
lemma Served.get {request : ChunkRequest} {reply : GetReply} (hstored : c.Stored body expires)
    (hserved : Served c w ⟨.get request, reply⟩ w') (h : Held c body expires w)
    (hauthorization : request.authorization = c.authorization) (hlimit : 1 ≤ request.limit)
    (hlimit' : request.limit ≤ chunkSize)
    (hinside : request.offset + request.limit ≤ body.length)
    (hwithin : w.now + request.within ≤ c.deadline + c.skew) :
    Held c body expires w' ∧
      (attemptChunk request.offset request.limit reply = .ok (some (request.piece body)) ∨
        attemptChunk request.offset request.limit reply = .ok none ∧
          w.failures request.offset < 2 ∧
            w'.failures request.offset = w.failures request.offset + 1) := by
  have hoffset : request.offset < body.length := by omega
  have hlate : w.now + request.within ≤ expires := hwithin.trans hstored.inTime
  cases hserved with
  | carried _ before hsoon hreply after =>
      obtain ⟨h₁, -, -, -⟩ := before.held h
      have hnow := hsoon.trans_le hlate
      have hpiece : (request.piece body).length = request.limit := by
        rw [ChunkRequest.piece, List.length_take, List.length_drop]
        omega
      rw [call_held hstored h₁ hnow hauthorization hoffset hlimit hlimit'] at hreply
      refine ⟨(after.held (h₁.handle hstored hnow hauthorization hoffset hlimit hlimit')).1,
        .inl ?_⟩
      have hattempt := attemptChunk_carried (hpiece.trans_le hlimit') hreply
      rwa [hpiece] at hattempt
  | spoilt _ before hsoon hbudget hreply after =>
      obtain ⟨h₁, hfailures, -, -⟩ := before.held h
      have h₂ := h₁.handle hstored (hsoon.trans_le hlate) hauthorization hoffset hlimit hlimit'
      obtain ⟨h₃, hfailures', -, -⟩ := after.held (h₂.fail request.offset)
      refine ⟨h₃, .inr ⟨attemptChunk_transient hreply, hbudget, ?_⟩⟩
      rw [hfailures', ← hfailures]
      exact Function.update_self _ _ _
  | lost hbudget hreply after =>
      obtain ⟨h₁, hfailures, -, -⟩ := after.held (h.fail request.offset)
      refine ⟨h₁, .inr ⟨attemptChunk_transient hreply, hbudget, ?_⟩⟩
      rw [hfailures]
      exact Function.update_self _ _ _

/-- The call is the one that the setting describes. -/
structure TransferCall.Fits (call : TransferCall) (c : TransferSetting) : Prop where
  authorization : call.authorization = c.authorization
  deadline : call.deadline = c.deadline

/-- No attempt follows the third. -/
lemma third_is_last {attempt : ℕ} {attempts : List ℕ} (h : attempt :: attempts <:+ [1, 2, 3])
    (hthird : attempt = 3) : attempts = [] := by
  subst hthird
  simpa [List.suffix_cons_iff] using h

/-- **A chunk is fetched**, by induction on the attempts: at most two are spoilt, so the third is
not. -/
lemma fetchChunk_served {call : TransferCall} (hfits : call.Fits c)
    (hstored : c.Stored body expires) {offset expected : ℕ} (hexpected : 1 ≤ expected)
    (hchunk : expected ≤ chunkSize) (hinside : offset + expected ≤ body.length) (front : Bytes) :
    ∀ (attempts : List ℕ) (w : TransferWorld), attempts <:+ [1, 2, 3] → attempts ≠ [] →
      3 ≤ w.failures offset + attempts.length → Held c body expires w →
      Async.Ensures (Served c) (fetchChunk call offset expected front attempts)
        (fun r w' => r = .ok (front ++ (body.drop offset).take expected) ∧
          Held c body expires w') w := by
  intro attempts
  induction attempts with
  | nil => exact fun _ _ h => absurd rfl h
  | cons attempt attempts ih =>
      intro w hsuffix _ hcount h
      refine Async.ensures_bind (Transfer.ensures_monotonic ?_)
      rintro now w₁ hread
      cases hread with
      | monotonic hbefore =>
      dsimp only
      have hremaining : 0 < call.deadline - (w.now - c.skew) := by
        rw [hfits.deadline]
        exact sub_pos.mpr hbefore
      rw [if_neg (not_le.mpr hremaining)]
      refine Async.ensures_bind (Transfer.ensures_get ?_)
      rintro reply w₂ hserved
      have hwithin : w.now + (chunkRequest call offset expected
          (call.deadline - (w.now - c.skew))).within ≤ c.deadline + c.skew := by
        calc w.now + min 15 (call.deadline - (w.now - c.skew))
            ≤ w.now + (call.deadline - (w.now - c.skew)) :=
              (add_le_add_iff_left _).mpr (min_le_right _ _)
          _ = c.deadline + c.skew := by
              rw [hfits.deadline]
              ring
      obtain ⟨h₂, hattempt | ⟨hattempt, hbudget, hfailures⟩⟩ :=
        hserved.get hstored h hfits.authorization hexpected hchunk hinside hwithin
      · refine Async.ensures_bind (Async.ensures_ofExcept ?_)
        rw [show attemptChunk offset expected reply = _ from hattempt]
        exact Async.ensures_pure ⟨rfl, h₂⟩
      · refine Async.ensures_bind (Async.ensures_ofExcept ?_)
        rw [show attemptChunk offset expected reply = _ from hattempt]
        dsimp only
        have hspoilt : w.failures offset < 2 := hbudget
        have hrest : attempts ≠ [] := by
          rintro rfl
          rw [List.length_singleton] at hcount
          omega
        have hthird : attempt ≠ 3 := fun h => hrest (third_is_last hsuffix h)
        rw [if_neg hthird]
        refine Async.ensures_bind (Transfer.ensures_monotonic ?_)
        rintro now w₃ hread
        cases hread with
        | monotonic _ =>
        refine Async.ensures_bind (Transfer.ensures_sleep ?_)
        rintro cancelled w₄ hsleep
        cases hsleep with
        | sleep meanwhile _ =>
        obtain ⟨h₄, hfailures', -, -⟩ := meanwhile.held h₂
        refine ih w₄ ((List.suffix_cons _ _).trans hsuffix) hrest ?_ h₄
        have hcounted : w₄.failures offset = w.failures offset + 1 :=
          (congrFun hfailures' offset).trans hfailures
        rw [List.length_cons] at hcount
        omega

/-- **The invariant of the loop over the offsets**: what has been fetched is the front of the
body. -/
def Advanced (c : TransferSetting) (body : Bytes) (expires : ℚ) (offsets : List ℕ) (front : Bytes)
    (w : TransferWorld) : Prop :=
  Held c body expires w ∧ ∃ k ≤ chunkCount body.length,
    offsets = List.range' (k * chunkSize) (chunkCount body.length - k) chunkSize ∧
      front = body.take (k * chunkSize)

/-- The chunk at an offset of the loop is inside the body. -/
lemma chunk_inside {length k : ℕ} (hk : k < chunkCount length) :
    1 ≤ min chunkSize (length - k * chunkSize) ∧
      k * chunkSize + min chunkSize (length - k * chunkSize) ≤ length := by
  have hstart := chunkCount_spec.1 k hk
  have hpos : 1 ≤ chunkSize := by decide
  omega

/-- One more chunk. -/
lemma take_chunk (body : Bytes) (k : ℕ) :
    body.take (k * chunkSize) ++ (body.drop (k * chunkSize)).take
        (min chunkSize (body.length - k * chunkSize)) =
      body.take ((k + 1) * chunkSize) := by
  have hpiece : (body.drop (k * chunkSize)).take (min chunkSize (body.length - k * chunkSize)) =
      (body.drop (k * chunkSize)).take chunkSize := by
    rw [List.take_eq_take_iff, List.length_drop]
    omega
  rw [hpiece, Nat.succ_mul, List.take_add]

/-- **The whole body is fetched**, and its digest is the manifest's. -/
lemma fetchBody_served {call : TransferCall} {manifest : Manifest} (hfits : call.Fits c)
    (hstored : c.Stored body expires) (hlength : manifest.length = body.length)
    (hdigest : manifest.sha256 = Sha256.hexdigest body) (h : Held c body expires w) :
    Async.Ensures (Served c) (fetchBody call manifest)
      (fun r w' => r = .ok body ∧ Held c body expires w') w := by
  refine Async.ensures_bind (Async.ensures_foldlM (Advanced c body expires) ?_ ?_ _ _ _ ?_)
  · rintro front w' ⟨h', k, hk, hoffsets, rfl⟩
    obtain rfl : k = chunkCount body.length := by
      have hzero := congrArg List.length hoffsets
      rw [List.length_range', List.length_nil] at hzero
      omega
    dsimp only
    rw [List.take_of_length_le chunkCount_spec.2, if_neg (not_not.mpr hdigest.symm)]
    exact Async.ensures_pure ⟨rfl, h'⟩
  · rintro offset offsets front w' ⟨h', k, hk, hoffsets, rfl⟩
    have hlt : k < chunkCount body.length := by
      rcases Nat.lt_or_eq_of_le hk with hlt | rfl
      · exact hlt
      · rw [Nat.sub_self] at hoffsets
        cases hoffsets
    obtain ⟨n, hn⟩ : ∃ n, chunkCount body.length - k = n + 1 :=
      ⟨chunkCount body.length - k - 1, by omega⟩
    rw [hn, List.range'_succ] at hoffsets
    obtain ⟨rfl, rfl⟩ := List.cons.inj hoffsets
    obtain ⟨hsome, hinside⟩ := chunk_inside hlt
    rw [hlength]
    refine (fetchChunk_served hfits hstored hsome (Nat.min_le_left _ _) hinside _ [1, 2, 3] w'
      (List.suffix_refl _) (List.cons_ne_nil _ _) (Nat.le_add_left _ _) h').mono ?_
    rintro _ w'' ⟨rfl, h''⟩
    refine ⟨h'', k + 1, hlt, ?_, take_chunk body k⟩
    rw [Nat.succ_mul, show chunkCount body.length - (k + 1) = n by omega]
  · refine ⟨h, 0, Nat.zero_le _, ?_, ?_⟩
    · rw [chunkOffsets, hlength, Nat.zero_mul, Nat.sub_zero, chunkCount]
    · rw [Nat.zero_mul, List.take_zero]

end Transfer

/-! ## The cleanup -/

section Cleanup

variable {c : TransferSetting} {w w' : TransferWorld}

/-- The other clients make no requests for chunks of the result. -/
lemma Others.handled (h : Others c w w') : w'.handled = w.handled := by
  induction h with
  | refl => rfl
  | tail _ hstep ih => cases hstep <;> exact ih

/-- A deletion that is not cancelled is tried again, ends the loop, or is out of time. -/
lemma deletionStatus_served {reply : DeleteReply} (h : ¬ DeleteReply.Cancels reply) :
    (∃ status, deletionStatus reply = .ok status) ∨ deletionStatus reply = .error .timeoutError := by
  cases hstatus : deletionStatus reply with
  | ok status => exact .inl ⟨status, rfl⟩
  | error e =>
      rcases deletionStatus_error hstatus with rfl | ⟨-, hcancels⟩
      · exact .inr rfl
      · exact absurd hcancels h

lemma cleanupAttempts_served (call : TransferCall) (handled : List (Except WrapperError ChunkResponse)) :
    ∀ (attempts : List ℕ) (w : TransferWorld), w.handled = handled →
      Async.Ensures (Served c) (cleanupAttempts call attempts)
        (fun r w' => (r = .ok () ∨ r = .error .timeoutError) ∧ w'.handled = handled) w := by
  intro attempts
  induction attempts with
  | nil => exact fun w h => Async.ensures_pure ⟨.inl rfl, h⟩
  | cons attempt attempts ih =>
      intro w h
      refine Async.ensures_bind (Transfer.ensures_delete ?_)
      intro reply w₁ hserved
      obtain ⟨hreply, h₁⟩ : ¬ DeleteReply.Cancels reply ∧ w₁.handled = handled := by
        cases hserved with
        | delete _ before hreply after => exact ⟨hreply, after.handled.trans (before.handled.trans h)⟩
        | undeleted meanwhile hreply => exact ⟨hreply, meanwhile.handled.trans h⟩
      refine Async.ensures_bind (Async.ensures_ofExcept ?_)
      rcases deletionStatus_served hreply with ⟨status, hstatus⟩ | hstatus
      · rw [hstatus]
        dsimp only
        cases deletionEnds status with
        | true => exact Async.ensures_pure ⟨.inl rfl, h₁⟩
        | false =>
            rw [if_neg Bool.false_ne_true]
            by_cases hfirst : attempt = 0
            · rw [if_pos hfirst]
              refine Async.ensures_bind (Transfer.ensures_sleepWithin ?_)
              intro interruption w₂ hsleep
              cases hsleep with
              | sleepWithin meanwhile hinterruption =>
              have h₂ := meanwhile.handled.trans h₁
              rcases interruption with _ | _ | _
              · exact ih _ h₂
              · exact ⟨.inr rfl, h₂⟩
              · exact absurd rfl hinterruption
            · rw [if_neg hfirst]
              exact ih _ h₁
      · rw [hstatus]
        exact ⟨.inr rfl, h₁⟩

/-- **The cleanup raises nothing**, and asks for no chunk. -/
lemma cleanup_served (call : TransferCall) :
    Async.Ensures (Served c) (cleanup call)
      (fun r w' => r = .ok () ∧ w'.handled = w.handled) w := by
  refine Async.ensures_bind (Transfer.ensures_startTimeout ?_)
  intro w₁ hstart
  cases hstart with
  | startTimeout =>
  refine Async.ensures_bind (Async.ensures_attempt
    ((cleanupAttempts_served call w.handled [0, 1] w rfl).mono ?_))
  rintro _ w' ⟨rfl | rfl, h⟩
  · exact Async.ensures_pure ⟨rfl, h⟩
  · exact Async.ensures_pure ⟨rfl, h⟩

end Cleanup

/-! ## The whole transfer -/

/-- What a transfer comes to: the body, and no request for a chunk refused. -/
def Delivered (body : Bytes) (r : Except Exn Bytes) (w : TransferWorld) : Prop :=
  r = .ok body ∧ ∀ outcome ∈ w.handled, ∃ response, outcome = .ok response

lemma fetchResult_served {c : TransferSetting} {body : Bytes} {expires : ℚ} {w : TransferWorld}
    {manifest : Manifest} (requestId : String) (hstored : c.Stored body expires)
    (hlength : manifest.length = body.length)
    (hdigest : manifest.sha256 = Sha256.hexdigest body) (h : Held c body expires w) :
    Async.Ensures (Served c)
      (fetchResult c.baseUrl c.authorization manifest requestId c.deadline) (Delivered body) w := by
  refine Async.ensures_tryFinally ((fetchBody_served ⟨rfl, rfl⟩ hstored hlength hdigest h).mono ?_)
  rintro _ w' ⟨rfl, h'⟩
  refine (cleanup_served _).mono ?_
  rintro _ w'' ⟨rfl, hhandled⟩
  exact ⟨rfl, fun outcome houtcome => h'.met outcome (hhandled ▸ houtcome)⟩

/-- **The round trip.**  The wrapper has stored `body` under a fresh identifier, and its clock then
was ahead of the one that the adapter counts the deadline by.  The manifest is accepted in whatever
parts it arrives, and every transfer in which each offset meets two failures at most, and each
attempt is made before the deadline, brings `body`; no request for a chunk is refused. -/
theorem transfer_round_trip {now later started timeout skew : ℚ}
    {token authorization baseUrl resultId : String} (requestId : String) (nested : ℕ)
    {body : Bytes} {results results' : Results} {manifest : ResultManifest} {parts : List Bytes}
    {declared : Option String} (hid : PyText.IsHex 32 resultId)
    (hstore : storeResult now later resultId body results = (results', .ok manifest))
    (hauthorized : authorized token (some authorization) = .ok true)
    (hclocks : started + skew ≤ later) (htimeout : timeout ≤ resultTtlSeconds)
    (hparts : parts.flatten = manifest.render)
    (hdeclared : declared = none ∨ declared = some (toString manifest.render.length)) :
    ∃ m, readManifest nested ⟨declared, parts, none⟩ = .ok m ∧
      (fetchResult baseUrl authorization m requestId (started + timeout)).run.Halts ∧
        ∀ (w w' : TransferWorld) tr r,
          Others ⟨token, authorization, baseUrl, resultId, skew, started + timeout⟩
            ⟨results', later, [], fun _ => 0⟩ w →
          (fetchResult baseUrl authorization m requestId (started + timeout)).run.Runs tr r →
          Prog.Transcript
            (Served ⟨token, authorization, baseUrl, resultId, skew, started + timeout⟩) w tr w' →
          Delivered body r w' := by
  obtain ⟨rfl, hdescribes, hget⟩ := storeResult_describes hid hstore
  obtain ⟨m, hm, -, hlength, hdigest⟩ := readManifest_render nested hdescribes hparts hdeclared
  have hrecord : ∀ w (x : Prog.Exchange transferInterface), ∃ w', Prog.record w x w' :=
    fun w x => ⟨w ++ [x], rfl⟩
  refine ⟨m, hm, Prog.Ensures.halts hrecord (fetchResult_spec _ _ _ _ _), ?_⟩
  intro w w' tr r hothers hrun htr
  have hstored : TransferSetting.Stored
      ⟨token, authorization, baseUrl, manifest.id, skew, started + timeout⟩ body
        (later + resultTtlSeconds) := by
    refine ⟨hid, hauthorized, hdescribes.bounded, ?_⟩
    calc started + timeout + skew = started + skew + timeout := by ring
      _ ≤ later + resultTtlSeconds := add_le_add hclocks htimeout
  have hheld : Held _ body (later + resultTtlSeconds) w :=
    (hothers.held ⟨fun _ => hget, fun _ h => absurd h List.not_mem_nil⟩).1
  exact Prog.Ensures.runs (fetchResult_served requestId hstored hlength hdigest hheld) hrun htr

/-- A transfer of the smallest JSON object, one second after it was stored. -/
def emptyObjectSetting : TransferSetting :=
  ⟨"secret", "Bearer secret", "http://pod:9000", emptyObjectManifest.id, 0, 0 + 1800⟩

/-- The call that `fetch_result` makes of it. -/
def emptyObjectTransfer : TransferCall :=
  ⟨resultUrl "http://pod:9000" emptyObjectManifest.id, "Bearer secret", "abc123def456", 0 + 1800⟩

/-- What the wrapper sends for the object. -/
def emptyObjectSent : ResultManifest :=
  ⟨emptyObjectManifest.id, emptyObject.length, Sha256.hexdigest emptyObject⟩

def emptyObjectStored : Results :=
  (TtlMap.empty.expire 0).set emptyObjectManifest.id (1 + resultTtlSeconds)
    ⟨emptyObject, Sha256.hexdigest emptyObject⟩

/-- The world when the adapter begins. -/
def emptyObjectWorld : TransferWorld := ⟨emptyObjectStored, 1, [], fun _ => 0⟩

lemma emptyObject_stored :
    storeResult 0 1 emptyObjectManifest.id emptyObject .empty =
      (emptyObjectStored, .ok emptyObjectSent) := by
  rw [storeResult, if_neg (by decide), if_neg (by decide)]
  rfl

/-- The only chunk, a second after the store. -/
def emptyObjectRequest : ChunkRequest := chunkRequest emptyObjectTransfer 0 2 (0 + 1800 - 1)

/-- The request for the chunk is served, and the answer comes through. -/
lemma emptyObject_carried :
    Carried (emptyObjectWorld.call emptyObjectSetting emptyObjectRequest).2
      (emptyObjectReply "2") := by
  obtain ⟨-, -, hget⟩ := storeResult_describes emptyObjectManifest.id_isHex emptyObject_stored
  have hstored : emptyObjectSetting.Stored emptyObject (1 + resultTtlSeconds) :=
    ⟨emptyObjectManifest.id_isHex, by decide, by decide, by decide +kernel⟩
  have hheld : Held emptyObjectSetting emptyObject (1 + resultTtlSeconds) emptyObjectWorld :=
    ⟨fun _ => hget, fun _ h => absurd h List.not_mem_nil⟩
  rw [call_held hstored hheld (by decide +kernel) rfl (by decide) (by decide) (by decide)]
  exact .response ⟨emptyObject, "0"⟩ (some "2") [emptyObject] none List.flatten_singleton
    (.inr rfl) nofun

/-- Nothing fails on the way. -/
lemma emptyObject_transcript :
    ∃ w', Prog.Transcript (Served emptyObjectSetting) emptyObjectWorld
      (attemptRun emptyObjectTransfer 0 2 1 (emptyObjectReply "2") ++
        cleanupRun emptyObjectTransfer) w' := by
  have hread : Served emptyObjectSetting emptyObjectWorld ⟨.monotonic, (1 : ℚ)⟩ emptyObjectWorld := by
    have h := Served.monotonic (c := emptyObjectSetting) (w := emptyObjectWorld) (by decide +kernel)
    rwa [show emptyObjectWorld.now - emptyObjectSetting.skew = 1 from sub_zero 1] at h
  have hget : Served emptyObjectSetting emptyObjectWorld
      ⟨.get emptyObjectRequest, emptyObjectReply "2"⟩
        (emptyObjectWorld.handle emptyObjectSetting emptyObjectRequest) :=
    .carried rfl .refl (by decide +kernel) emptyObject_carried .refl
  have hdelete : ¬ DeleteReply.Cancels (.answered 204 none) := nofun
  exact ⟨_, .cons hread (.cons hget (.cons .startTimeout
    (.cons (.delete rfl .refl hdelete .refl) (.nil _))))⟩

/-- The object is stored, its manifest accepted, and a run in which nothing fails brings it. -/
theorem transfer_round_trip_empty_object :
    ∃ m w', readManifest 0 ⟨none, [emptyObjectSent.render], none⟩ = .ok m ∧
      Prog.Transcript (Served emptyObjectSetting) emptyObjectWorld
        (attemptRun emptyObjectTransfer 0 2 1 (emptyObjectReply "2") ++
          cleanupRun emptyObjectTransfer) w' ∧
      Delivered emptyObject (.ok emptyObject) w' := by
  obtain ⟨w', htr⟩ := emptyObject_transcript
  have hparts : [emptyObjectSent.render].flatten = emptyObjectSent.render := List.flatten_singleton
  have hdescribes := (storeResult_describes emptyObjectManifest.id_isHex emptyObject_stored).2.1
  obtain ⟨m', hm', hid, hlength, hdigest⟩ := readManifest_render 0 hdescribes hparts (.inl rfl)
  obtain ⟨m, hm, -, hruns⟩ := @transfer_round_trip 0 1 0 1800 0 "secret" "Bearer secret"
    "http://pod:9000" emptyObjectManifest.id "abc123def456" 0 emptyObject .empty emptyObjectStored
    emptyObjectSent [emptyObjectSent.render] none emptyObjectManifest.id_isHex emptyObject_stored
    (by decide) (by decide +kernel) (by decide) hparts (.inl rfl)
  obtain rfl : m = m' := Except.ok.inj (hm.symm.trans hm')
  refine ⟨m, w', hm, htr, hruns _ w' _ _ .refl ?_ htr⟩
  have hlength' : m.length = 2 := hlength
  have hdecides : Decides 0 m.length [] (emptyObjectReply "2") (.ok emptyObject) := by
    rw [hlength']
    exact ⟨emptyObject, by decide, rfl⟩
  have hrun : (Async.tryFinally (fetchBody emptyObjectTransfer m)
      (cleanup emptyObjectTransfer)).run.Runs
        (attemptRun emptyObjectTransfer 0 m.length 1 (emptyObjectReply "2") ++
          cleanupRun emptyObjectTransfer) (.ok emptyObject) := by
    refine fetchResult_runs (by rw [hlength']; decide) (by decide +kernel) hdecides ?_
    rintro _ ⟨⟩
    exact hdigest.symm
  rw [hlength'] at hrun
  rw [fetchResult, hid]
  exact hrun

end SpeakrRunpod
