import Mathlib.Algebra.Order.Ring.Rat
import SpeakrRunpod.Common.Protocol
import SpeakrRunpod.Core.JsonText
import SpeakrRunpod.Core.Sha256
import SpeakrRunpod.Core.TtlMap

/-!
# The result store of the wrapper

`runpod-image/wrapper.py` keeps each transcription in memory until the adapter has fetched it.
Every critical section under `_results_lock` is one function of the store; the clock readings and
the fresh identifier that the section takes from outside are its arguments.

* `storeResult`, `getResult`, `resultChunk`, `deleteResult` — the operations.
* `StoreRun` — any number of clients calling them in any order, with the history of the calls.
* `Live` — what the history says is stored under an identifier.
* `StoreInv` — the store is bounded, and what readers see in it is what is live.
-/

namespace SpeakrRunpod

/-- `RESULT_TTL_SECONDS`. -/
def resultTtlSeconds : ℚ := 3600

/-- `MAX_CACHED_RESULTS`. -/
def maxCachedResults : ℕ := 8

/-- `MAX_CACHED_BYTES`. -/
def maxCachedBytes : ℕ := 32 * 1024 * 1024

/-- What is stored under an identifier, besides the time at which it expires. -/
structure StoredResult where
  body : Bytes
  digest : String
  deriving DecidableEq

def StoredResult.size (item : StoredResult) : ℕ := item.body.length

/-- `_results`. -/
abbrev Results := TtlMap String ℚ StoredResult

/-- What a handler raises instead of answering, or is raised before it is called. -/
inductive WrapperError
  | httpException (statusCode : ℕ) (detail : String)
  | requestValidationError
  | typeError (message : String)
  deriving DecidableEq

/-- The status that FastAPI answers with. -/
def WrapperError.statusCode : WrapperError → ℕ
  | .httpException statusCode _ => statusCode
  | .requestValidationError => 422
  | .typeError _ => 500

/-- What `_store_result` returns. -/
structure ResultManifest where
  id : String
  length : ℕ
  sha256 : String
  deriving DecidableEq

/-- The body of the answer to `/asr`: `JSONResponse(content=manifest)`. -/
def ResultManifest.render (manifest : ResultManifest) : Bytes :=
  Codec.encodeUtf8 (Json.compactObject
    [("id", Json.quote manifest.id), ("length", Json.numeral manifest.length),
      ("sha256", Json.quote manifest.sha256)])

/-! ## The operations -/

/-- `hmac.compare_digest` refuses strings that are not ASCII. -/
def compareDigest (a b : String) : Except WrapperError Bool :=
  if (a.toList ++ b.toList).all fun c => c.toNat < 128 then .ok (a = b)
  else .error (.typeError "comparing strings with non-ASCII characters is not supported")

/-- `_authorized`, for the value of the `Authorization` header. -/
def authorized (adapterWhisperxToken : String) (authorization : Option String) :
    Except WrapperError Bool :=
  let expected := "Bearer " ++ adapterWhisperxToken
  let provided := authorization.getD ""
  if adapterWhisperxToken = "" then .ok false else compareDigest provided expected

/-- `_expire_results`. -/
def expireResults (now : ℚ) (results : Results) : Results := results.expire now

/-- `_store_result`: the clock is read when the section is entered and again for the expiry. -/
def storeResult (now later : ℚ) (resultId : String) (body : Bytes) (results : Results) :
    Results × Except WrapperError ResultManifest :=
  if body = [] ∨ maxResultBytes < body.length then
    (results, .error (.httpException 503 "ASR result exceeds bounded transfer store"))
  else
    let results := expireResults now results
    if maxCachedResults ≤ results.length ∨
        maxCachedBytes < results.total StoredResult.size + body.length then
      (results, .error (.httpException 503 "ASR transfer store is full"))
    else
      let digest := Sha256.hexdigest body
      (results.set resultId (later + resultTtlSeconds) ⟨body, digest⟩,
        .ok ⟨resultId, body.length, digest⟩)

def resultNotFound : WrapperError := .httpException 404 "ASR result not found"

/-- `_get_result`. -/
def getResult (now : ℚ) (resultId : String) (results : Results) :
    Results × Except WrapperError (ℚ × StoredResult) :=
  if ¬ PyText.IsHex 32 resultId then (results, .error resultNotFound)
  else
    let results := expireResults now results
    match results.get? resultId with
    | none => (results, .error resultNotFound)
    | some item => (results, .ok item)

/-- The response to the request for a chunk, with its header `X-ASR-Chunk-Offset`. -/
structure ChunkResponse where
  content : Bytes
  chunkOffset : String

/-- `result_chunk`; the bounds of the parameters are checked before the handler is called. -/
def resultChunk (adapterWhisperxToken : String) (authorization : Option String) (now : ℚ)
    (resultId : String) (offset limit : ℤ) (results : Results) :
    Results × Except WrapperError ChunkResponse :=
  if ¬ (0 ≤ offset ∧ 1 ≤ limit ∧ limit ≤ chunkSize) then
    (results, .error .requestValidationError)
  else
    match authorized adapterWhisperxToken authorization with
    | .error e => (results, .error e)
    | .ok false => (results, .error (.httpException 401 "Unauthorized"))
    | .ok true =>
        match getResult now resultId results with
        | (results, .error e) => (results, .error e)
        | (results, .ok (_, item)) =>
            if item.body.length ≤ offset then
              (results, .error (.httpException 416 "ASR chunk offset out of bounds"))
            else
              (results, .ok ⟨(item.body.drop offset.toNat).take limit.toNat, toString offset⟩)

/-- `delete_result`, which answers 204. -/
def deleteResult (adapterWhisperxToken : String) (authorization : Option String)
    (resultId : String) (results : Results) : Results × Except WrapperError Unit :=
  match authorized adapterWhisperxToken authorization with
  | .error e => (results, .error e)
  | .ok false => (results, .error (.httpException 401 "Unauthorized"))
  | .ok true =>
      if ¬ PyText.IsHex 32 resultId then (results, .error resultNotFound)
      else (results.pop resultId, .ok ())

/-! ## What one operation does -/

/-- **A store either is refused, with nothing done but the expiry, or adds its body** to a store
that has room for it. -/
theorem storeResult_cases (now later : ℚ) (resultId : String) (body : Bytes)
    (results : Results) :
    ((∃ detail, (storeResult now later resultId body results).2 =
          .error (.httpException 503 detail)) ∧
        ((storeResult now later resultId body results).1 = results ∨
          (storeResult now later resultId body results).1 = results.expire now)) ∨
      (storeResult now later resultId body results =
          ((results.expire now).set resultId (later + resultTtlSeconds)
              ⟨body, Sha256.hexdigest body⟩,
            .ok ⟨resultId, body.length, Sha256.hexdigest body⟩) ∧
        body ≠ [] ∧ body.length ≤ maxResultBytes ∧
        (results.expire now).length < maxCachedResults ∧
        (results.expire now).total StoredResult.size + body.length ≤ maxCachedBytes) := by
  unfold storeResult expireResults
  dsimp only
  split_ifs with hbody hfull
  · exact .inl ⟨⟨_, rfl⟩, .inl rfl⟩
  · exact .inl ⟨⟨_, rfl⟩, .inr rfl⟩
  · rw [not_or, not_lt] at hbody
    rw [not_or, not_le, not_lt] at hfull
    exact .inr ⟨rfl, hbody.1, hbody.2, hfull.1, hfull.2⟩

/-- A read leaves the store as it is, or expired. -/
lemma getResult_state (now : ℚ) (resultId : String) (results : Results) :
    (getResult now resultId results).1 = results ∨
      (getResult now resultId results).1 = results.expire now := by
  unfold getResult expireResults
  dsimp only
  split_ifs
  · split <;> exact .inr rfl
  · exact .inl rfl

/-- **A read answers what is visible under a well-formed identifier.** -/
theorem getResult_result (now : ℚ) (resultId : String) (results : Results) :
    (getResult now resultId results).2 =
      if PyText.IsHex 32 resultId then
        match results.visible now resultId with
        | none => .error resultNotFound
        | some item => .ok item
      else .error resultNotFound := by
  unfold getResult expireResults TtlMap.visible
  dsimp only
  by_cases hid : PyText.IsHex 32 resultId
  · rw [if_neg (not_not.mpr hid), if_pos hid]
    cases (results.expire now).get? resultId <;> rfl
  · rw [if_pos hid, if_neg hid]

lemma getResult_ok_iff {now : ℚ} {resultId : String} {results : Results}
    {item : ℚ × StoredResult} :
    (getResult now resultId results).2 = .ok item ↔
      PyText.IsHex 32 resultId ∧ results.visible now resultId = some item := by
  rw [getResult_result]
  by_cases hid : PyText.IsHex 32 resultId
  · rw [if_pos hid]
    cases results.visible now resultId <;> simp [hid]
  · simp [hid]

lemma getResult_error {now : ℚ} {resultId : String} {results : Results} {e : WrapperError}
    (h : (getResult now resultId results).2 = .error e) : e = resultNotFound := by
  rw [getResult_result] at h
  split_ifs at h
  · split at h
    · exact (Except.error.inj h).symm
    · cases h
  · exact (Except.error.inj h).symm

/-- Two stores that show the same give the same answer. -/
lemma getResult_congr {now : ℚ} {resultId : String} {results results' : Results}
    (h : results.visible now resultId = results'.visible now resultId) :
    (getResult now resultId results).2 = (getResult now resultId results').2 := by
  rw [getResult_result, getResult_result, h]

/-- A deletion is refused, or takes out its own key. -/
theorem deleteResult_cases (token : String) (authorization : Option String) (resultId : String)
    (results : Results) :
    (∃ e, deleteResult token authorization resultId results = (results, .error e)) ∨
      deleteResult token authorization resultId results = (results.pop resultId, .ok ()) := by
  unfold deleteResult
  split
  · exact .inl ⟨_, rfl⟩
  · exact .inl ⟨_, rfl⟩
  · split_ifs
    · exact .inr rfl
    · exact .inl ⟨_, rfl⟩

/-! ## Runs -/

/-- A call of the store, with what it came to.  A body that was stored is noted with the time its
expiry is counted from. -/
inductive StoreEvent
  | stored (body : Bytes) (stamp : ℚ) (result : Except WrapperError ResultManifest)
  | got (resultId : String) (result : Except WrapperError (ℚ × StoredResult))
  | deleted (resultId : String) (result : Except WrapperError Unit)

/-- The identifiers that have been returned. -/
def issuedIds : List StoreEvent → List String
  | [] => []
  | .stored _ _ (.ok manifest) :: history => manifest.id :: issuedIds history
  | _ :: history => issuedIds history

/-- The runs of the store, each with the last reading of the clock and the calls so far, the
newest first. -/
inductive StoreRun (token : String) : Results → ℚ → List StoreEvent → Prop
  | start (clock : ℚ) : StoreRun token .empty clock []
  | store {results : Results} {clock : ℚ} {history : List StoreEvent} (now later : ℚ)
      (resultId : String) (body : Bytes) (run : StoreRun token results clock history)
      (hnow : clock ≤ now) (hlater : now ≤ later) (hid : PyText.IsHex 32 resultId)
      (hfresh : resultId ∉ issuedIds history) :
      StoreRun token (storeResult now later resultId body results).1 later
        (.stored body later (storeResult now later resultId body results).2 :: history)
  | get {results : Results} {clock : ℚ} {history : List StoreEvent} (now : ℚ)
      (resultId : String) (run : StoreRun token results clock history) (hnow : clock ≤ now) :
      StoreRun token (getResult now resultId results).1 now
        (.got resultId (getResult now resultId results).2 :: history)
  | delete {results : Results} {clock : ℚ} {history : List StoreEvent}
      (authorization : Option String) (resultId : String)
      (run : StoreRun token results clock history) :
      StoreRun token (deleteResult token authorization resultId results).1 clock
        (.deleted resultId (deleteResult token authorization resultId results).2 :: history)

/-- The history has stored `body` under `resultId`, to expire at `expires`, and has not deleted it
since. -/
def Live (resultId : String) (body : Bytes) (expires : ℚ) (history : List StoreEvent) : Prop :=
  ∃ after before stamp manifest,
    history = after ++ .stored body stamp (.ok manifest) :: before ∧
      manifest.id = resultId ∧ expires = stamp + resultTtlSeconds ∧
      .deleted resultId (.ok ()) ∉ after

section Live

variable {resultId : String} {body : Bytes} {expires : ℚ} {history : List StoreEvent}

lemma not_live_nil : ¬ Live resultId body expires [] := by
  rintro ⟨after, before, stamp, manifest, h, -⟩
  exact absurd h (by simp)

/-- What one more call does to the live bodies. -/
theorem live_cons {event : StoreEvent} :
    Live resultId body expires (event :: history) ↔
      (∃ stamp manifest, event = .stored body stamp (.ok manifest) ∧ manifest.id = resultId ∧
          expires = stamp + resultTtlSeconds) ∨
        event ≠ .deleted resultId (.ok ()) ∧ Live resultId body expires history := by
  constructor
  · rintro ⟨after, before, stamp, manifest, h, hid, he, hafter⟩
    cases after with
    | nil => exact .inl ⟨stamp, manifest, (List.cons.inj h).1, hid, he⟩
    | cons event' after =>
        obtain ⟨rfl, rfl⟩ := List.cons.inj h
        refine .inr ⟨fun hev => hafter (hev ▸ List.mem_cons_self), ?_⟩
        exact ⟨after, before, stamp, manifest, rfl, hid, he,
          fun hmem => hafter (List.mem_cons_of_mem _ hmem)⟩
  · rintro (⟨stamp, manifest, rfl, hid, he⟩ | ⟨hev, after, before, stamp, manifest, rfl, h⟩)
    · exact ⟨[], history, stamp, manifest, rfl, hid, he, by simp⟩
    · refine ⟨event :: after, before, stamp, manifest, rfl, h.1, h.2.1, ?_⟩
      rintro (_ | ⟨_, hmem⟩)
      · exact hev rfl
      · exact h.2.2 hmem

lemma mem_issuedIds_cons {event : StoreEvent} (h : resultId ∈ issuedIds history) :
    resultId ∈ issuedIds (event :: history) := by
  rcases event with ⟨_, _, _ | _⟩ | _ | _
  · exact h
  · exact List.mem_cons_of_mem _ h
  · exact h
  · exact h

/-- What is live was issued. -/
lemma Live.issued (h : Live resultId body expires history) : resultId ∈ issuedIds history := by
  induction history with
  | nil => exact absurd h not_live_nil
  | cons event history ih =>
      rcases live_cons.mp h with ⟨stamp, manifest, rfl, rfl, -⟩ | ⟨-, h⟩
      · exact List.mem_cons_self
      · exact mem_issuedIds_cons (ih h)

end Live

/-! ## The invariant -/

/-- An entry as `_store_result` makes it. -/
structure StoredResult.WellFormed (item : StoredResult) : Prop where
  nonempty : item.body ≠ []
  bounded : item.body.length ≤ maxResultBytes
  digest : item.digest = Sha256.hexdigest item.body

/-- What holds of the store at every point of a run: the capacity is kept to, what is in it is live,
and what is live and has not expired is in it. -/
structure StoreInv (results : Results) (clock : ℚ) (history : List StoreEvent) : Prop where
  count : results.length ≤ maxCachedResults
  bytes : results.total StoredResult.size ≤ maxCachedBytes
  sound : ∀ {resultId expires item}, results.get? resultId = some (expires, item) →
    item.WellFormed ∧ Live resultId item.body expires history
  complete : ∀ {resultId body expires}, Live resultId body expires history → clock < expires →
    results.get? resultId = some (expires, ⟨body, Sha256.hexdigest body⟩)
  ids : ∀ resultId ∈ issuedIds history, PyText.IsHex 32 resultId

namespace StoreInv

variable {results : Results} {clock now later : ℚ} {history : List StoreEvent}
  {resultId : String}

/-- The clock goes on. -/
lemma advance (h : StoreInv results clock history) (hnow : clock ≤ now) :
    StoreInv results now history where
  count := h.count
  bytes := h.bytes
  sound := h.sound
  complete hlive he := h.complete hlive (hnow.trans_lt he)
  ids := h.ids

/-- Expiry takes out nothing that the clock does not allow it to. -/
lemma expire (h : StoreInv results clock history) (hnow : clock ≤ now) :
    StoreInv (results.expire now) now history where
  count := (results.length_expire_le now).trans h.count
  bytes := (results.total_expire_le _ now).trans h.bytes
  sound hitem := h.sound (TtlMap.visible_eq_some_iff.mp hitem).1
  complete hlive he :=
    TtlMap.visible_eq_some_iff.mpr ⟨h.complete hlive (hnow.trans_lt he), he⟩
  ids := h.ids

/-- A call that is refused, or that only looks, leaves no trace in the live bodies. -/
lemma note (h : StoreInv results clock history) {event : StoreEvent}
    (hstored : ∀ body stamp manifest, event ≠ .stored body stamp (.ok manifest))
    (hdeleted : ∀ resultId, event ≠ .deleted resultId (.ok ())) :
    StoreInv results clock (event :: history) where
  count := h.count
  bytes := h.bytes
  sound hitem := by
    obtain ⟨hwf, hlive⟩ := h.sound hitem
    exact ⟨hwf, live_cons.mpr (.inr ⟨hdeleted _, hlive⟩)⟩
  complete hlive he := by
    rcases live_cons.mp hlive with ⟨stamp, manifest, hev, -⟩ | ⟨-, hlive⟩
    · exact absurd hev (hstored _ _ _)
    · exact h.complete hlive he
  ids := by
    rcases event with ⟨body, stamp, _ | manifest⟩ | _ | _
    · exact h.ids
    · exact absurd rfl (hstored body stamp manifest)
    · exact h.ids
    · exact h.ids

/-- **A body is added** under an identifier that is new. -/
lemma add (h : StoreInv results clock history) {body : Bytes} (hbody : body ≠ [])
    (hlen : body.length ≤ maxResultBytes) (hcount : results.length < maxCachedResults)
    (hbytes : results.total StoredResult.size + body.length ≤ maxCachedBytes)
    (hid : PyText.IsHex 32 resultId) (hfresh : resultId ∉ issuedIds history) :
    StoreInv
      (results.set resultId (later + resultTtlSeconds) ⟨body, Sha256.hexdigest body⟩) clock
      (.stored body later (.ok ⟨resultId, body.length, Sha256.hexdigest body⟩) :: history) := by
  have hnew : resultId ∉ results.keys := by
    intro hkey
    obtain ⟨⟨e, item⟩, hitem⟩ := TtlMap.mem_keys_iff.mp hkey
    exact hfresh (h.sound hitem).2.issued
  constructor
  case count =>
    rw [TtlMap.length_set hnew]
    exact hcount
  case bytes =>
    rw [TtlMap.total_set hnew]
    exact hbytes
  case sound =>
    intro resultId' e item hitem
    rw [TtlMap.get?_set] at hitem
    split_ifs at hitem with hk
    · cases hitem
      exact ⟨⟨hbody, hlen, rfl⟩, live_cons.mpr (.inl ⟨later, _, rfl, hk.symm, rfl⟩)⟩
    · obtain ⟨hwf, hlive⟩ := h.sound hitem
      exact ⟨hwf, live_cons.mpr (.inr ⟨by simp, hlive⟩)⟩
  case complete =>
    intro resultId' body' e hlive he
    rw [TtlMap.get?_set]
    rcases live_cons.mp hlive with ⟨stamp, manifest, hev, hk, rfl⟩ | ⟨-, hlive⟩
    · cases hev
      rw [if_pos hk.symm]
    · have hk : resultId' ≠ resultId := fun hk => hfresh (hk ▸ hlive.issued)
      rw [if_neg hk]
      exact h.complete hlive he
  case ids =>
    intro resultId' hmem
    rcases List.mem_cons.mp hmem with rfl | hmem
    · exact hid
    · exact h.ids _ hmem

/-- A body is deleted. -/
lemma remove (h : StoreInv results clock history) :
    StoreInv (results.pop resultId) clock (.deleted resultId (.ok ()) :: history) where
  count := (results.length_pop_le resultId).trans h.count
  bytes := (results.total_pop_le _ resultId).trans h.bytes
  sound := by
    intro resultId' e item hitem
    rw [TtlMap.get?_pop] at hitem
    split_ifs at hitem with hk
    obtain ⟨hwf, hlive⟩ := h.sound hitem
    refine ⟨hwf, live_cons.mpr (.inr ⟨?_, hlive⟩)⟩
    rintro ⟨⟩
    exact hk rfl
  complete := by
    intro resultId' body e hlive he
    rcases live_cons.mp hlive with ⟨stamp, manifest, hev, -⟩ | ⟨hev, hlive⟩
    · cases hev
    · have hk : resultId' ≠ resultId := by
        rintro rfl
        exact hev rfl
      rw [TtlMap.get?_pop, if_neg hk]
      exact h.complete hlive he
  ids := h.ids

end StoreInv

section Runs

variable {token : String} {results : Results} {clock : ℚ} {history : List StoreEvent}

/-- **The invariant holds in every run.** -/
theorem StoreRun.inv (run : StoreRun token results clock history) :
    StoreInv results clock history := by
  induction run with
  | start clock =>
      exact ⟨Nat.zero_le _, Nat.zero_le _, fun h => by simp at h,
        fun h => absurd h not_live_nil, fun _ h => by cases h⟩
  | @store results clock history now later resultId body run hnow hlater hid hfresh ih =>
      rcases storeResult_cases now later resultId body results with
        ⟨⟨detail, hres⟩, hstate⟩ | ⟨heq, hbody, hlen, hcount, hbytes⟩
      · rw [hres]
        refine StoreInv.note ?_ (by simp) (by simp)
        rcases hstate with hstate | hstate <;> rw [hstate]
        · exact ih.advance (hnow.trans hlater)
        · exact (ih.expire hnow).advance hlater
      · rw [heq]
        exact ((ih.expire hnow).add hbody hlen hcount hbytes hid hfresh).advance hlater
  | @get results clock history now resultId run hnow ih =>
      refine StoreInv.note ?_ (by simp) (by simp)
      rcases getResult_state now resultId results with hstate | hstate <;> rw [hstate]
      · exact ih.advance hnow
      · exact ih.expire hnow
  | @delete results clock history authorization resultId run ih =>
      rcases deleteResult_cases token authorization resultId results with ⟨e, heq⟩ | heq
      · rw [heq]
        exact ih.note (by simp) (by simp)
      · rw [heq]
        exact ih.remove

/-- In a run, a reader finds exactly what is live and has not expired. -/
theorem StoreRun.visible_iff (run : StoreRun token results clock history) {now expires : ℚ}
    {resultId : String} {item : StoredResult} (hnow : clock ≤ now) :
    results.visible now resultId = some (expires, item) ↔
      now < expires ∧ Live resultId item.body expires history ∧
        item.digest = Sha256.hexdigest item.body := by
  rw [TtlMap.visible_eq_some_iff]
  constructor
  · rintro ⟨hitem, he⟩
    obtain ⟨hwf, hlive⟩ := run.inv.sound hitem
    exact ⟨he, hlive, hwf.digest⟩
  · rintro ⟨he, hlive, hdigest⟩
    refine ⟨?_, he⟩
    rw [run.inv.complete hlive (hnow.trans_lt he), ← hdigest]

/-- A read answers a body exactly when it is live and has not expired. -/
theorem StoreRun.get_iff (run : StoreRun token results clock history) {now : ℚ}
    {resultId : String} {body : Bytes} (hnow : clock ≤ now) :
    (∃ expires digest, (getResult now resultId results).2 = .ok (expires, ⟨body, digest⟩)) ↔
      ∃ expires, now < expires ∧ Live resultId body expires history := by
  constructor
  · rintro ⟨expires, digest, hget⟩
    have hvisible := (run.visible_iff hnow).mp (getResult_ok_iff.mp hget).2
    exact ⟨expires, hvisible.1, hvisible.2.1⟩
  · rintro ⟨expires, he, hlive⟩
    refine ⟨expires, Sha256.hexdigest body, getResult_ok_iff.mpr ⟨?_, ?_⟩⟩
    · exact run.inv.ids _ hlive.issued
    · exact (run.visible_iff hnow).mpr ⟨he, hlive, rfl⟩

/-- A store that is refused changes no later read. -/
lemma storeResult_refused {now later t : ℚ} {newId resultId : String} {body : Bytes}
    {e : WrapperError} (h : (storeResult now later newId body results).2 = .error e)
    (ht : now ≤ t) :
    (getResult t resultId (storeResult now later newId body results).1).2 =
      (getResult t resultId results).2 := by
  rcases storeResult_cases now later newId body results with ⟨-, hstate | hstate⟩ | ⟨heq, -⟩
  · rw [hstate]
  · rw [hstate]
    exact getResult_congr (results.visible_expire ht resultId)
  · rw [heq] at h
    cases h

/-- A store that is accepted changes no later read of another identifier. -/
lemma storeResult_frame {now later t : ℚ} {newId resultId : String} {body : Bytes}
    (hne : resultId ≠ newId) (ht : now ≤ t) :
    (getResult t resultId (storeResult now later newId body results).1).2 =
      (getResult t resultId results).2 := by
  rcases storeResult_cases now later newId body results with ⟨⟨e, hres⟩, -⟩ | ⟨heq, -⟩
  · exact storeResult_refused hres ht
  · rw [heq]
    refine getResult_congr ?_
    rw [TtlMap.visible_set_of_ne _ hne, TtlMap.visible_expire _ ht]

/-- **The result store is a bounded map with expiry.**  In every state of every run the capacity is
kept to and the entries are as they were stored; a read answers a body exactly when a store of it
returned the identifier, the time is before its expiry and no deletion of it was carried out since,
and is answered with 404 otherwise; a store that is refused leaves what readers find as it is, and
one that is accepted changes it for its own identifier only. -/
theorem result_store_is_bounded_ttl_map (run : StoreRun token results clock history) :
    (results.length ≤ maxCachedResults ∧ results.total StoredResult.size ≤ maxCachedBytes ∧
      ∀ resultId expires item, results.get? resultId = some (expires, item) →
        item.body ≠ [] ∧ item.body.length ≤ maxResultBytes ∧
          item.digest = Sha256.hexdigest item.body) ∧
    (∀ now resultId, clock ≤ now →
      (∀ body, (∃ expires digest,
          (getResult now resultId results).2 = .ok (expires, ⟨body, digest⟩)) ↔
        ∃ expires, now < expires ∧ Live resultId body expires history) ∧
      ((¬ ∃ body expires, now < expires ∧ Live resultId body expires history) →
        (getResult now resultId results).2 =
          .error (.httpException 404 "ASR result not found"))) ∧
    ∀ now later newId body t resultId, now ≤ t →
      ((∃ e, (storeResult now later newId body results).2 = .error e) ∨ resultId ≠ newId) →
      (getResult t resultId (storeResult now later newId body results).1).2 =
        (getResult t resultId results).2 := by
  refine ⟨⟨run.inv.count, run.inv.bytes, fun resultId expires item hitem => ?_⟩,
    fun now resultId hnow => ⟨fun body => run.get_iff hnow, fun hnone => ?_⟩, ?_⟩
  · obtain ⟨hwf, -⟩ := run.inv.sound hitem
    exact ⟨hwf.nonempty, hwf.bounded, hwf.digest⟩
  · cases hget : (getResult now resultId results).2 with
    | error e => rw [getResult_error hget, resultNotFound]
    | ok item =>
        obtain ⟨expires, body, digest⟩ := item
        obtain ⟨e, hlive⟩ := (run.get_iff hnow).mp ⟨expires, digest, hget⟩
        exact absurd ⟨body, e, hlive⟩ hnone
  · rintro now later newId body t resultId ht (⟨e, he⟩ | hne)
    · exact storeResult_refused he ht
    · exact storeResult_frame hne ht

end Runs

/-- A body that has just been stored is found one second before its expiry and not at its expiry. -/
theorem result_store_is_bounded_ttl_map_boundary :
    let resultId := "0123456789abcdef0123456789abcdef"
    let results := (storeResult 0 1 resultId [0x7b, 0x7d] .empty).1
    (∃ expires digest, (getResult 3600 resultId results).2 =
        .ok (expires, ⟨[0x7b, 0x7d], digest⟩)) ∧
      (getResult 3601 resultId results).2 =
        .error (.httpException 404 "ASR result not found") := by
  intro resultId results
  have run : StoreRun "secret" results 1 _ :=
    .store 0 1 resultId [0x7b, 0x7d] (.start 0) le_rfl (by decide) (by decide)
      (by simp [issuedIds])
  obtain ⟨-, hget, -⟩ := result_store_is_bounded_ttl_map run
  constructor
  · refine ((hget 3600 resultId (by decide)).1 _).mpr ⟨3601, by decide, [], [], 1, ?_⟩
    exact ⟨⟨resultId, 2, Sha256.hexdigest [0x7b, 0x7d]⟩, rfl, rfl, by decide +kernel, by simp⟩
  · refine (hget 3601 resultId (by decide)).2 ?_
    rintro ⟨body, expires, he, hlive⟩
    rcases live_cons.mp hlive with ⟨stamp, manifest, hev, -, rfl⟩ | ⟨-, hlive⟩
    · have hstamp : stamp = 1 := (StoreEvent.stored.inj hev).2.1.symm
      rw [hstamp] at he
      exact absurd he (by decide +kernel)
    · exact absurd hlive not_live_nil

end SpeakrRunpod
