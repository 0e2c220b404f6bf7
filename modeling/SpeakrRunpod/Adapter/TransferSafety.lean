import SpeakrRunpod.Adapter.ResultTransfer

/-!
# What a transfer returns

Against a network that answers the requests of `fetch_result` in any way whatever.

* `Delivers` — an exchange that brought one chunk, whole.
* `TransferSafe` — what is asked of a run: the value is made of such chunks and has the length and
  the digest of the manifest, or the call was cancelled or raised `TemporaryRunPodError`.
* `overlong` — the exchange that breaks it: `int()` refuses a `Content-Length` that `isdecimal()`
  has let through.
-/

namespace SpeakrRunpod

open Coop

/-! ## Exchanges -/

/-- The answer to a request for `offset` that is `piece`, whole. -/
def Delivers (offset : ℕ) (piece : Bytes) (x : Prog.Exchange transferInterface) : Prop :=
  ∃ (request : ChunkRequest) (chunk : ChunkAnswer),
    x = ⟨.get request, GetReply.answered chunk⟩ ∧ request.offset = offset ∧ chunk.status = 200 ∧
      chunk.chunkOffset = some (toString offset) ∧ chunk.tail = none ∧ chunk.parts.flatten = piece

/-- The fault that is a cancellation. -/
def cancellation : Fault := .interrupted .cancelledError

/-- A cancellation reaches the attempt that is answered so. -/
def GetReply.Cancels (offset expected : ℕ) : GetReply → Prop
  | .raised fault => fault = cancellation
  | .answered chunk =>
      receiveChunk offset expected chunk = .error .cancelledError ∨ chunk.close = some cancellation

def DeleteReply.Cancels : DeleteReply → Prop
  | .raised fault => fault = cancellation
  | .answered _ close => close = some cancellation

def cancels : Prog.Exchange transferInterface → Prop
  | ⟨.get request, reply⟩ => GetReply.Cancels request.offset request.limit reply
  | ⟨.sleep _, cancelled⟩ => cancelled = true
  | ⟨.delete _ _ _ _, reply⟩ => DeleteReply.Cancels reply
  | ⟨.sleepWithin _, interruption⟩ => interruption = some Interruption.cancelledError
  | _ => False

/-- The call was cancelled at one of its waits. -/
def Cancelled (tr : List (Prog.Exchange transferInterface)) : Prop := ∃ x ∈ tr, cancels x

/-- A decimal numeral that is too long for `int()`. -/
def OverlongNumeral (s : String) : Prop :=
  PyText.isDecimal s ∧ PyText.maxIntDigits < s.toList.length

/-- An answer with the right status and offset whose `Content-Length` is too long for `int()`, and
whose stream is left without a fault. -/
def GetReply.Overlong (offset : ℕ) : GetReply → Prop
  | .raised _ => False
  | .answered chunk =>
      chunk.status = 200 ∧ chunk.chunkOffset = some (toString offset) ∧ chunk.close = none ∧
        ∃ s, chunk.contentLength = some s ∧ OverlongNumeral s

def overlong : Prog.Exchange transferInterface → Prop
  | ⟨.get request, reply⟩ => GetReply.Overlong request.offset reply
  | _ => False

/-- The bytes of a result that belong to the chunk at `offset`. -/
def chunkOf (length offset : ℕ) (body : Bytes) : Bytes :=
  (body.drop offset).take (min chunkSize (length - offset))

/-- **What is asked of a run of `fetch_result`.** -/
def TransferSafe (manifest : Manifest) (tr : List (Prog.Exchange transferInterface)) :
    Except Exn Bytes → Prop
  | .ok body =>
      body.length = manifest.length ∧ Sha256.hexdigest body = manifest.sha256 ∧
        ∀ offset ∈ chunkOffsets manifest.length,
          ∃ x ∈ tr, Delivers offset (chunkOf manifest.length offset body) x
  | .error e => Cancelled tr ∨ ∃ message, e = .temporaryRunPodError message

/-! ## One attempt -/

/-- `int()` of a decimal string fails only on its length. -/
lemma parseInt_eq_none_iff {s : String} (h : PyText.isDecimal s) :
    PyText.parseInt s = none ↔ PyText.maxIntDigits < s.toList.length := by
  have hfold : ∀ (cs : List Char) (n : ℕ), (∀ c ∈ cs, (PyText.digitValue c).isSome) →
      (cs.foldlM (fun n c => (PyText.digitValue c).map fun d => 10 * n + d) n).isSome := by
    intro cs
    induction cs with
    | nil => exact fun _ _ => rfl
    | cons c cs ih =>
        intro n hcs
        obtain ⟨d, hd⟩ := Option.isSome_iff_exists.mp (hcs c List.mem_cons_self)
        rw [List.foldlM_cons, hd]
        exact ih _ fun c hc => hcs c (List.mem_cons_of_mem _ hc)
  rw [PyText.isDecimal, Bool.and_eq_true, List.all_eq_true] at h
  have hsome := hfold s.toList 0 h.2
  rw [PyText.parseInt]
  split_ifs with hlen
  · simp only [Option.isSome_iff_ne_none.mp hsome, false_iff, not_lt]
    exact hlen
  · simp only [true_iff]
    exact not_le.mp hlen

/-- The guard of `Content-Length` raises on an overlong numeral only. -/
lemma declaredExceeds_error_iff {declared : Option String} {limit : ℕ} :
    (∃ e, declaredExceeds declared limit = .error e) ↔
      ∃ s, declared = some s ∧ OverlongNumeral s := by
  cases declared with
  | none => simp [declaredExceeds]
  | some s =>
      by_cases hs : PyText.isDecimal s
      · cases hn : PyText.parseInt s with
        | none =>
            have hlen := (parseInt_eq_none_iff hs).mp hn
            simp [declaredExceeds, hs, hn, OverlongNumeral, hlen]
        | some n =>
            have hlen : ¬ PyText.maxIntDigits < s.toList.length := by
              rw [← parseInt_eq_none_iff hs, hn]
              simp
            simp only [declaredExceeds, hs, hn, OverlongNumeral, Option.some.injEq]
            simp [hlen]
      · simp [declaredExceeds, hs, OverlongNumeral]

/-- What it raises is a `ValueError`. -/
lemma declaredExceeds_valueError {declared : Option String} {limit : ℕ} {e : Exn}
    (h : declaredExceeds declared limit = .error e) : ∃ message, e = .valueError message := by
  unfold declaredExceeds at h
  split at h
  · cases h
  · split_ifs at h
    split at h
    · cases h
    · exact ⟨_, (Except.error.inj h).symm⟩

/-- The classes that `read_manifest` raises, besides what the reading of the parts does. -/
lemma readManifest_raises {P : Exn → Prop} {nested : ℕ} {response : StreamedBody}
    (htemporary : ∀ message, P (.temporaryRunPodError message))
    (hvalue : ∀ message, P (.valueError message))
    (hrecursion : ∀ message, P (.recursionError message))
    (hparts : declaredExceeds response.contentLength maxManifestBytes = .ok false →
      Raises P (readManifestParts response.tail [] response.parts)) :
    Raises P (readManifest nested response) := by
  have hcheck : ∀ manifest, Raises P (checkManifest manifest) := by
    intro manifest
    unfold checkManifest
    split
    · split_ifs
      · exact raises_ok _
      · exact raises_error (htemporary _)
    · exact raises_error (htemporary _)
  unfold readManifest
  cases hexceeds : declaredExceeds response.contentLength maxManifestBytes with
  | error e =>
      obtain ⟨message, rfl⟩ := declaredExceeds_valueError hexceeds
      exact raises_error (hvalue message)
  | ok exceeds =>
      cases exceeds with
      | true => exact raises_error (htemporary _)
      | false =>
          refine (hparts hexceeds).bind fun data => ?_
          split
          · exact raises_error (htemporary _)
          · exact raises_error (hrecursion _)
          · split
            · exact raises_error (htemporary _)
            · exact hcheck _

/-- Parts that come to no more than is expected have all been read. -/
lemma readParts_ok {expected : ℕ} {tail : Option Fault} {parts : List Bytes} :
    ∀ {data data' : Bytes}, readParts expected tail data parts = .ok data' →
      data'.length ≤ expected → tail = none ∧ data' = data ++ parts.flatten := by
  induction parts with
  | nil =>
      intro data data' h _
      cases tail with
      | none =>
          cases h
          exact ⟨rfl, by simp⟩
      | some fault => cases h
  | cons part parts ih =>
      intro data data' h hlen
      rw [readParts] at h
      split_ifs at h with hover
      · cases h
        exact absurd hlen (not_le.mpr hover)
      · obtain ⟨htail, rfl⟩ := ih h hlen
        exact ⟨htail, by simp⟩

/-- The reading of the parts raises what ends it. -/
lemma readParts_error {expected : ℕ} {tail : Option Fault} {parts : List Bytes} {e : Exn} :
    ∀ {data : Bytes}, readParts expected tail data parts = .error e →
      ∃ fault, tail = some fault ∧ e = fault.exn := by
  induction parts with
  | nil =>
      intro data h
      cases tail with
      | none => cases h
      | some fault => exact ⟨fault, rfl, (Except.error.inj h).symm⟩
  | cons part parts ih =>
      intro data h
      rw [readParts] at h
      split_ifs at h
      exact ih h

/-- A body that is received is whole. -/
lemma receiveBody_some {expected : ℕ} {chunk : StreamedBody} {piece : Bytes}
    (h : receiveBody expected chunk = .ok (some piece)) :
    chunk.tail = none ∧ chunk.parts.flatten = piece ∧ piece.length = expected := by
  unfold receiveBody at h
  split at h
  · cases h
  · cases h
  · split at h
    · cases h
    · rename_i data hdata
      have hpiece := Except.ok.inj h
      split_ifs at hpiece with hlen
      cases hpiece
      obtain ⟨htail, hflat⟩ := readParts_ok hdata hlen.le
      exact ⟨htail, by simpa using hflat.symm, hlen⟩

/-- What the reading of a body raises: a `ValueError` for an overlong numeral, or what ended it. -/
lemma receiveBody_error {expected : ℕ} {chunk : StreamedBody} {e : Exn}
    (h : receiveBody expected chunk = .error e) :
    ((∃ message, e = .valueError message) ∧
        ∃ s, chunk.contentLength = some s ∧ OverlongNumeral s) ∨
      ∃ fault, chunk.tail = some fault ∧ e = fault.exn := by
  unfold receiveBody at h
  split at h
  · rename_i hdeclared
    cases h
    exact .inl ⟨declaredExceeds_valueError hdeclared,
      declaredExceeds_error_iff.mp ⟨_, hdeclared⟩⟩
  · cases h
  · split at h
    · rename_i hparts
      cases h
      exact .inr (readParts_error hparts)
    · cases h

/-- An overlong numeral is not got past. -/
lemma receiveBody_overlong {expected : ℕ} {chunk : StreamedBody} {s : String}
    (hlength : chunk.contentLength = some s) (hs : OverlongNumeral s) :
    ∃ message, receiveBody expected chunk = .error (.valueError message) := by
  obtain ⟨e, he⟩ : ∃ e, declaredExceeds chunk.contentLength expected = .error e :=
    declaredExceeds_error_iff.mpr ⟨s, hlength, hs⟩
  obtain ⟨message, rfl⟩ := declaredExceeds_valueError he
  exact ⟨message, by rw [receiveBody, he]⟩

/-- A chunk that is received is the whole body of an answer with the right status and offset. -/
lemma receiveChunk_some {offset expected : ℕ} {chunk : ChunkAnswer} {piece : Bytes}
    (h : receiveChunk offset expected chunk = .ok (some piece)) :
    chunk.status = 200 ∧ chunk.chunkOffset = some (toString offset) ∧ chunk.tail = none ∧
      chunk.parts.flatten = piece ∧ piece.length = expected := by
  unfold receiveChunk at h
  split_ifs at h with h404 h401 hother
  · cases h
  · rw [not_or, not_not, not_not] at hother
    exact ⟨hother.1, hother.2, receiveBody_some h⟩

/-- What an attempt raises inside its stream. -/
lemma receiveChunk_error {offset expected : ℕ} {chunk : ChunkAnswer} {e : Exn}
    (h : receiveChunk offset expected chunk = .error e) :
    (∃ message, e = .temporaryRunPodError message) ∨
      ((∃ message, e = .valueError message) ∧ chunk.status = 200 ∧
        chunk.chunkOffset = some (toString offset) ∧
          ∃ s, chunk.contentLength = some s ∧ OverlongNumeral s) ∨
      ∃ fault, chunk.tail = some fault ∧ e = fault.exn := by
  unfold receiveChunk at h
  split_ifs at h with h404 h401 hother
  · exact .inl ⟨_, (Except.error.inj h).symm⟩
  · exact .inl ⟨_, (Except.error.inj h).symm⟩
  · rw [not_or, not_not, not_not] at hother
    rcases receiveBody_error h with ⟨he, hs⟩ | hfault
    · exact .inr (.inl ⟨he, hother.1, hother.2, hs⟩)
    · exact .inr (.inr hfault)

/-- A fault that is not caught is a cancellation. -/
lemma exceptRetriable_fault {received : Option Bytes} {fault : Fault} {e : Exn}
    (h : exceptRetriable received fault.exn = .error e) :
    fault = cancellation ∧ e = .cancelledError := by
  rcases fault with _ | _ | _
  · cases h
  · cases h
  · exact ⟨rfl, (Except.error.inj h).symm⟩

lemma exceptRetriable_ok {received received' : Option Bytes} {e : Exn}
    (h : exceptRetriable received e = .ok received') : received' = received := by
  cases e <;> cases h <;> rfl

/-- **A chunk that an attempt comes back with was delivered whole.** -/
lemma attemptChunk_some {request : ChunkRequest} {expected : ℕ} {reply : GetReply} {piece : Bytes}
    (h : attemptChunk request.offset expected reply = .ok (some piece)) :
    piece.length = expected ∧ Delivers request.offset piece ⟨.get request, reply⟩ := by
  rcases reply with fault | chunk
  · cases exceptRetriable_ok h
  · have hreceived : receiveChunk request.offset expected chunk = .ok (some piece) := by
      rw [attemptChunk] at h
      split at h
      · rename_i hreceive _
        rw [hreceive, h]
      · cases exceptRetriable_ok h
      · rename_i hreceive _
        rw [hreceive, ← exceptRetriable_ok h]
      · cases exceptRetriable_ok h
    obtain ⟨hstatus, hoffset, htail, hparts, hlen⟩ := receiveChunk_some hreceived
    exact ⟨hlen, request, chunk, rfl, rfl, hstatus, hoffset, htail, hparts⟩

/-- **What an attempt raises**: `TemporaryRunPodError`, the cancellation that reached it, or a
`ValueError` for an overlong numeral. -/
lemma attemptChunk_error {offset expected : ℕ} {reply : GetReply} {e : Exn}
    (h : attemptChunk offset expected reply = .error e) :
    (∃ message, e = .temporaryRunPodError message) ∨
      e = .cancelledError ∧ GetReply.Cancels offset expected reply ∨
      (∃ message, e = .valueError message) ∧ GetReply.Overlong offset reply := by
  rcases reply with fault | chunk
  · exact .inr (.inl (exceptRetriable_fault h).symm)
  · rw [attemptChunk] at h
    split at h
    · cases h
    · rename_i hreceive hclose
      rcases receiveChunk_error hreceive with ⟨m, rfl⟩ | ⟨⟨m, rfl⟩, hs⟩ | ⟨fault, -, rfl⟩
      · exact .inl ⟨m, (Except.error.inj h).symm⟩
      · exact .inr (.inr ⟨⟨m, (Except.error.inj h).symm⟩, hs.1, hs.2.1, hclose, hs.2.2⟩)
      · obtain ⟨rfl, rfl⟩ := exceptRetriable_fault h
        exact .inr (.inl ⟨rfl, .inl hreceive⟩)
    · rename_i hclose
      obtain ⟨rfl, rfl⟩ := exceptRetriable_fault h
      exact .inr (.inl ⟨rfl, .inr hclose⟩)
    · rename_i hclose
      obtain ⟨rfl, rfl⟩ := exceptRetriable_fault h
      exact .inr (.inl ⟨rfl, .inr hclose⟩)

/-- An overlong numeral ends the attempt with a `ValueError`. -/
lemma receiveChunk_overlong {offset expected : ℕ} {chunk : ChunkAnswer}
    (h : GetReply.Overlong offset (.answered chunk)) :
    ∃ message, receiveChunk offset expected chunk = .error (.valueError message) := by
  obtain ⟨hstatus, hoffset, -, s, hlength, hs⟩ := h
  obtain ⟨message, hbody⟩ :
      ∃ message, receiveBody expected chunk.toStreamedBody = .error (.valueError message) :=
    receiveBody_overlong hlength hs
  refine ⟨message, ?_⟩
  rw [receiveChunk, hstatus, hoffset, if_neg (by decide), if_neg (by decide),
    if_neg (by simp), hbody]

lemma attemptChunk_overlong {offset expected : ℕ} {reply : GetReply}
    (h : GetReply.Overlong offset reply) :
    ∃ message, attemptChunk offset expected reply = .error (.valueError message) := by
  rcases reply with fault | chunk
  · exact h.elim
  · obtain ⟨message, hreceive⟩ := receiveChunk_overlong h
    refine ⟨message, ?_⟩
    rw [attemptChunk, hreceive, h.2.2.1]
    rfl

/-- No exchange so far was answered with an overlong numeral. -/
def Clean (tr : List (Prog.Exchange transferInterface)) : Prop := ∀ x ∈ tr, ¬ overlong x

lemma clean_append {tr : List (Prog.Exchange transferInterface)}
    {x : Prog.Exchange transferInterface} (h : Clean tr) (hx : ¬ overlong x) :
    Clean (tr ++ [x]) := by
  intro y hy
  rcases List.mem_append.mp hy with hy | hy
  · exact h y hy
  · rwa [List.mem_singleton.mp hy]

lemma subset_append {before tr : List (Prog.Exchange transferInterface)} (h : before ⊆ tr)
    (x : Prog.Exchange transferInterface) : before ⊆ tr ++ [x] :=
  List.Subset.trans h (List.subset_append_left _ _)

lemma cancelled_append {tr : List (Prog.Exchange transferInterface)}
    {x : Prog.Exchange transferInterface} (hx : cancels x) : Cancelled (tr ++ [x]) :=
  ⟨x, List.mem_append_right _ List.mem_cons_self, hx⟩

/-- How a run that raises has come to it. -/
def Failed (e : Exn) (tr : List (Prog.Exchange transferInterface)) : Prop :=
  (∃ message, e = .temporaryRunPodError message) ∧ Clean tr ∨
    e = .cancelledError ∧ Cancelled tr ∨ (∃ message, e = .valueError message) ∧ ¬ Clean tr

/-- An attempt that is not ended by a `ValueError` was not answered with an overlong numeral. -/
lemma not_overlong {request : ChunkRequest} {reply : GetReply}
    (h : ∀ message,
      attemptChunk request.offset request.limit reply ≠ .error (.valueError message)) :
    ¬ overlong ⟨.get request, reply⟩ := by
  intro hover
  obtain ⟨message, hmessage⟩ := attemptChunk_overlong hover
  exact h message hmessage

/-- An attempt that raises nothing. -/
lemma attempt_clean {request : ChunkRequest} {reply : GetReply} {received : Option Bytes}
    {tr : List (Prog.Exchange transferInterface)} (hclean : Clean tr)
    (h : attemptChunk request.offset request.limit reply = .ok received) :
    Clean (tr ++ [⟨.get request, reply⟩]) := by
  refine clean_append hclean (not_overlong fun m hm => ?_)
  rw [h] at hm
  cases hm

/-- An attempt that raises. -/
lemma attempt_failed {request : ChunkRequest} {reply : GetReply} {e : Exn}
    {tr : List (Prog.Exchange transferInterface)} (hclean : Clean tr)
    (h : attemptChunk request.offset request.limit reply = .error e) :
    Failed e (tr ++ [⟨.get request, reply⟩]) := by
  rcases attemptChunk_error h with ⟨message, rfl⟩ | ⟨he, hcancels⟩ | ⟨hmessage, hover⟩
  · refine .inl ⟨⟨message, rfl⟩, clean_append hclean (not_overlong fun m hm => ?_)⟩
    rw [h] at hm
    cases hm
  · exact .inr (.inl ⟨he, cancelled_append hcancels⟩)
  · exact .inr (.inr ⟨hmessage, fun hclean' =>
      hclean' _ (List.mem_append_right _ List.mem_cons_self) hover⟩)

/-- What the attempts at a chunk come to: one more piece, delivered whole. -/
def Fetched (offset expected : ℕ) (body : Bytes) (before : List (Prog.Exchange transferInterface)) :
    Except Exn Bytes → List (Prog.Exchange transferInterface) → Prop
  | .ok body', tr => before ⊆ tr ∧ Clean tr ∧ ∃ piece, body' = body ++ piece ∧
      piece.length = expected ∧ ∃ x ∈ tr, Delivers offset piece x
  | .error e, tr => Failed e tr

/-- **One more chunk or a failure**, by induction on the attempts, the last of which is the
third. -/
lemma fetchChunk_spec (call : TransferCall) {offset expected : ℕ} {body : Bytes}
    {before : List (Prog.Exchange transferInterface)} :
    ∀ (attempts : List ℕ) (tr : List (Prog.Exchange transferInterface)),
      attempts.getLast? = some 3 → before ⊆ tr → Clean tr →
      Async.Ensures Prog.record (fetchChunk call offset expected body attempts)
        (Fetched offset expected body before) tr := by
  intro attempts
  induction attempts with
  | nil => exact fun _ h => absurd h (by simp)
  | cons attempt attempts ih =>
      intro tr hlast hbefore hclean
      refine Async.ensures_bind (Transfer.ensures_monotonic ?_)
      rintro now _ rfl
      have hclean₁ := clean_append hclean (x := ⟨.monotonic, now⟩) id
      have hbefore₁ := subset_append hbefore ⟨.monotonic, now⟩
      dsimp only
      by_cases hremaining : call.deadline - now ≤ 0
      · rw [if_pos hremaining]
        exact Async.ensures_throw (.inl ⟨⟨_, rfl⟩, hclean₁⟩)
      rw [if_neg hremaining]
      refine Async.ensures_bind (Transfer.ensures_get ?_)
      have hoffset : (chunkRequest call offset expected (call.deadline - now)).offset = offset := rfl
      have hlimit : (chunkRequest call offset expected (call.deadline - now)).limit = expected := rfl
      generalize chunkRequest call offset expected (call.deadline - now) = request at *
      subst hoffset hlimit
      rintro reply _ rfl
      dsimp only
      refine Async.ensures_bind (Async.ensures_ofExcept ?_)
      rcases hattempt : attemptChunk request.offset request.limit reply with e | _ | piece
      · exact attempt_failed hclean₁ hattempt
      · have hclean₂ := attempt_clean hclean₁ hattempt
        dsimp only
        by_cases hthird : attempt = 3
        · rw [if_pos hthird]
          exact Async.ensures_throw (.inl ⟨⟨_, rfl⟩, hclean₂⟩)
        rw [if_neg hthird]
        refine Async.ensures_bind (Transfer.ensures_monotonic ?_)
        rintro now' _ rfl
        refine Async.ensures_bind (Transfer.ensures_sleep ?_)
        rintro (_ | _) _ rfl
        · refine ih _ ?_ ?_ ?_
          · cases attempts with
            | nil => exact absurd (Option.some.inj hlast) hthird
            | cons _ _ => rwa [List.getLast?_cons_cons] at hlast
          · exact subset_append (subset_append (subset_append hbefore₁ _) _) _
          · exact clean_append (clean_append hclean₂ id) id
        · exact .inr (.inl ⟨rfl, cancelled_append rfl⟩)
      · obtain ⟨hlen, hdelivers⟩ := attemptChunk_some hattempt
        refine Async.ensures_pure ⟨subset_append hbefore₁ _, attempt_clean hclean₁ hattempt, ?_⟩
        exact ⟨piece, rfl, hlen, _, List.mem_append_right _ List.mem_cons_self, hdelivers⟩

/-- How many chunks a result has. -/
def chunkCount (length : ℕ) : ℕ := (length + chunkSize - 1) / chunkSize

lemma mem_chunkOffsets {length offset : ℕ} :
    offset ∈ chunkOffsets length ↔ ∃ k < chunkCount length, offset = k * chunkSize := by
  simp only [chunkOffsets, List.mem_range', chunkCount, Nat.zero_add, Nat.mul_comm]

/-- The chunks before the last begin inside the result, and they leave nothing out. -/
lemma chunkCount_spec {length : ℕ} :
    (∀ k < chunkCount length, k * chunkSize < length) ∧ length ≤ chunkCount length * chunkSize := by
  unfold chunkCount chunkSize
  constructor
  · intro k hk
    omega
  · omega

/-- **The invariant of the loop over the offsets**: what has been fetched is the first chunks, each
of them delivered whole. -/
def Assembled (length : ℕ) (offsets : List ℕ) (body : Bytes)
    (tr : List (Prog.Exchange transferInterface)) : Prop :=
  ∃ k ≤ chunkCount length,
    offsets = List.range' (k * chunkSize) (chunkCount length - k) chunkSize ∧
      body.length = min (k * chunkSize) length ∧ Clean tr ∧
        ∀ j < k, ∃ x ∈ tr, Delivers (j * chunkSize) (chunkOf length (j * chunkSize) body) x

lemma assembled_start (length : ℕ) : Assembled length (chunkOffsets length) [] [] := by
  refine ⟨0, Nat.zero_le _, ?_, by simp,
    fun x hx => absurd hx List.not_mem_nil, fun j hj => absurd hj (Nat.not_lt_zero j)⟩
  rw [chunkOffsets, Nat.zero_mul, Nat.sub_zero, chunkCount]

/-- A chunk that is complete stays as it is when more is appended. -/
lemma chunkOf_append {length j k : ℕ} {body piece : Bytes} (hj : j < k)
    (hlen : body.length = min (k * chunkSize) length) :
    chunkOf length (j * chunkSize) (body ++ piece) = chunkOf length (j * chunkSize) body := by
  have hstart : j * chunkSize + chunkSize ≤ k * chunkSize := by
    rw [← Nat.succ_mul]
    exact Nat.mul_le_mul_right _ hj
  unfold chunkOf
  rcases Nat.le_total (j * chunkSize) body.length with hle | hge
  · rw [List.drop_append_of_le_length hle, List.take_append_of_le_length]
    rw [List.length_drop]
    generalize j * chunkSize = start at *
    omega
  · have hpos : 0 < chunkSize := by decide
    have hzero : length - j * chunkSize = 0 := by omega
    rw [hzero, Nat.min_zero, List.take_zero, List.take_zero]

/-- One more chunk. -/
lemma assembled_step {length offset : ℕ} {offsets : List ℕ} {body piece : Bytes}
    {tr tr' : List (Prog.Exchange transferInterface)}
    (h : Assembled length (offset :: offsets) body tr) (hsub : tr ⊆ tr') (hclean : Clean tr')
    (hlen : piece.length = min chunkSize (length - offset))
    (hpiece : ∃ x ∈ tr', Delivers offset piece x) :
    Assembled length offsets (body ++ piece) tr' := by
  obtain ⟨k, hk, hoffsets, hbody, -, hbefore⟩ := h
  have hlt : k < chunkCount length := by
    rcases Nat.lt_or_eq_of_le hk with hlt | rfl
    · exact hlt
    · rw [Nat.sub_self] at hoffsets
      cases hoffsets
  obtain ⟨n, hn⟩ : ∃ n, chunkCount length - k = n + 1 := ⟨chunkCount length - k - 1, by omega⟩
  rw [hn, List.range'_succ] at hoffsets
  obtain ⟨rfl, rfl⟩ := List.cons.inj hoffsets
  have hinside := chunkCount_spec.1 k hlt
  have hstart : body.length = k * chunkSize := by omega
  refine ⟨k + 1, hlt, ?_, ?_, hclean, fun j hj => ?_⟩
  · rw [Nat.succ_mul, show chunkCount length - (k + 1) = n by omega]
  · rw [List.length_append, hstart, hlen, Nat.succ_mul]
    omega
  · rcases Nat.lt_succ_iff_lt_or_eq.mp hj with hj | rfl
    · obtain ⟨x, hx, hdelivers⟩ := hbefore j hj
      rw [chunkOf_append hj hbody]
      exact ⟨x, hsub hx, hdelivers⟩
    · have hchunk : chunkOf length (j * chunkSize) (body ++ piece) = piece := by
        rw [chunkOf, ← hstart, List.drop_left, hstart, ← hlen, List.take_length]
      rw [hchunk]
      exact hpiece

/-- What the `try` of `fetch_result` comes to. -/
def Transferred (manifest : Manifest) :
    Except Exn Bytes → List (Prog.Exchange transferInterface) → Prop
  | .ok body, tr => TransferSafe manifest tr (.ok body) ∧ Clean tr
  | .error e, tr => Failed e tr

lemma fetchBody_spec (call : TransferCall) (manifest : Manifest) :
    Async.Ensures Prog.record (fetchBody call manifest) (Transferred manifest) [] := by
  refine Async.ensures_bind (Async.ensures_foldlM (Assembled manifest.length) ?_ ?_ _ _ _
    (assembled_start manifest.length))
  · rintro body tr ⟨k, hk, hoffsets, hlen, hclean, hdelivered⟩
    obtain rfl : k = chunkCount manifest.length := by
      have hzero := congrArg List.length hoffsets
      rw [List.length_range', List.length_nil] at hzero
      omega
    have hall : body.length = manifest.length := by
      rw [hlen, Nat.min_eq_right chunkCount_spec.2]
    dsimp only
    by_cases hdigest : Sha256.hexdigest body ≠ manifest.sha256
    · rw [if_pos hdigest]
      exact Async.ensures_throw (.inl ⟨⟨_, rfl⟩, hclean⟩)
    · rw [if_neg hdigest]
      refine Async.ensures_pure ⟨⟨hall, not_not.mp hdigest, fun offset hoffset => ?_⟩, hclean⟩
      obtain ⟨j, hj, rfl⟩ := mem_chunkOffsets.mp hoffset
      exact hdelivered j hj
  · intro offset offsets body tr h
    have hclean : Clean tr := h.choose_spec.2.2.2.1
    refine (fetchChunk_spec call [1, 2, 3] tr rfl (List.Subset.refl tr) hclean).mono ?_
    rintro (e | body') tr' hfetched
    · exact hfetched
    · obtain ⟨hsub, hclean', piece, rfl, hlen, hpiece⟩ := hfetched
      exact assembled_step h hsub hclean' hlen hpiece

/-! ## The cleanup -/

/-- The exchanges of the cleanup change nothing that has been said of those before it. -/
def Follows (before tr : List (Prog.Exchange transferInterface)) : Prop :=
  before ⊆ tr ∧ (Clean tr ↔ Clean before)

lemma Follows.append {before tr : List (Prog.Exchange transferInterface)} (h : Follows before tr)
    {x : Prog.Exchange transferInterface} (hx : ¬ overlong x) : Follows before (tr ++ [x]) := by
  refine ⟨subset_append h.1 x, h.2.symm.trans ⟨fun hclean => clean_append hclean hx, ?_⟩ |>.symm⟩
  exact fun hclean y hy => hclean y (List.mem_append_left _ hy)

lemma Transferred.follows {manifest : Manifest} {r : Except Exn Bytes}
    {before tr : List (Prog.Exchange transferInterface)} (h : Transferred manifest r before)
    (hfollows : Follows before tr) : Transferred manifest r tr := by
  obtain ⟨hsub, hclean⟩ := hfollows
  rcases r with e | body
  · rcases h with ⟨he, h⟩ | ⟨he, x, hx, h⟩ | ⟨he, h⟩
    · exact .inl ⟨he, hclean.mpr h⟩
    · exact .inr (.inl ⟨he, x, hsub hx, h⟩)
    · exact .inr (.inr ⟨he, fun hclean' => h (hclean.mp hclean')⟩)
  · obtain ⟨⟨hlen, hdigest, hchunks⟩, h⟩ := h
    refine ⟨⟨hlen, hdigest, fun offset hoffset => ?_⟩, hclean.mpr h⟩
    obtain ⟨x, hx, hdelivers⟩ := hchunks offset hoffset
    exact ⟨x, hsub hx, hdelivers⟩

/-- What a deletion raises is the end of the timeout or a cancellation. -/
lemma deletionStatus_error {reply : DeleteReply} {e : Exn} (h : deletionStatus reply = .error e) :
    e = .timeoutError ∨ e = .cancelledError ∧ DeleteReply.Cancels reply := by
  rcases reply with (_ | _ | _) | ⟨status, _ | _ | _ | _⟩ <;> cases h
  · exact .inl rfl
  · exact .inr ⟨rfl, rfl⟩
  · exact .inl rfl
  · exact .inr ⟨rfl, rfl⟩

/-- What the deletions come to, after the exchanges `before`. -/
def Cleaned (before : List (Prog.Exchange transferInterface)) (r : Except Exn Unit)
    (tr : List (Prog.Exchange transferInterface)) : Prop :=
  Follows before tr ∧
    ∀ e, r = .error e → e = .timeoutError ∨ e = .cancelledError ∧ Cancelled tr

lemma cleanupAttempts_spec (call : TransferCall)
    {before : List (Prog.Exchange transferInterface)} :
    ∀ (attempts : List ℕ) (tr : List (Prog.Exchange transferInterface)), Follows before tr →
      Async.Ensures Prog.record (cleanupAttempts call attempts) (Cleaned before) tr := by
  intro attempts
  induction attempts with
  | nil => exact fun tr h => Async.ensures_pure ⟨h, nofun⟩
  | cons attempt attempts ih =>
      intro tr h
      refine Async.ensures_bind (Transfer.ensures_delete ?_)
      rintro reply _ rfl
      have h₁ := h.append (x := ⟨.delete call.url call.authorization call.requestId
        cleanupDeadlineSeconds, reply⟩) id
      refine Async.ensures_bind (Async.ensures_ofExcept ?_)
      rcases hstatus : deletionStatus reply with e | status
      · refine ⟨h₁, fun e' he' => ?_⟩
        cases he'
        rcases deletionStatus_error hstatus with rfl | ⟨rfl, hcancels⟩
        · exact .inl rfl
        · exact .inr ⟨rfl, cancelled_append hcancels⟩
      · dsimp only
        cases deletionEnds status with
        | true => exact Async.ensures_pure ⟨h₁, nofun⟩
        | false =>
            rw [if_neg Bool.false_ne_true]
            by_cases hfirst : attempt = 0
            · rw [if_pos hfirst]
              refine Async.ensures_bind (Transfer.ensures_sleepWithin ?_)
              rintro interruption _ rfl
              have h₂ := h₁.append (x := ⟨.sleepWithin (1 / 10), interruption⟩) id
              rcases interruption with _ | _ | _
              · exact ih _ h₂
              · exact ⟨h₂, fun e he => .inl (Except.error.inj he).symm⟩
              · exact ⟨h₂, fun e he => .inr ⟨(Except.error.inj he).symm, cancelled_append rfl⟩⟩
            · rw [if_neg hfirst]
              exact ih _ h₁

/-- **The cleanup lets nothing but a cancellation out.** -/
lemma cleanup_spec (call : TransferCall) (tr : List (Prog.Exchange transferInterface)) :
    Async.Ensures Prog.record (cleanup call)
      (fun r tr' => Follows tr tr' ∧ ∀ e, r = .error e → e = .cancelledError ∧ Cancelled tr') tr := by
  refine Async.ensures_bind (Transfer.ensures_startTimeout ?_)
  rintro _ rfl
  have h : Follows tr (tr ++ [⟨.startTimeout cleanupDeadlineSeconds, ()⟩]) :=
    Follows.append ⟨List.Subset.refl tr, Iff.rfl⟩ id
  refine Async.ensures_bind (Async.ensures_attempt
    ((cleanupAttempts_spec call [0, 1] _ h).mono ?_))
  rintro (e | ⟨⟩) tr' ⟨hfollows, hraised⟩
  · dsimp only
    split
    · exact Async.ensures_pure ⟨hfollows, nofun⟩
    · exact Async.ensures_pure ⟨hfollows, nofun⟩
    · rename_i e' htimeout heq
      refine Async.ensures_throw ⟨hfollows, fun _ he => ?_⟩
      cases heq
      cases he
      exact (hraised _ rfl).resolve_left htimeout
  · exact Async.ensures_pure ⟨hfollows, nofun⟩

/-! ## The whole transfer -/

/-- Against any network, the call returns, and the value or the failure is as described. -/
theorem fetchResult_spec (baseUrl authorization : String) (manifest : Manifest)
    (requestId : String) (deadline : ℚ) :
    Async.Ensures Prog.record (fetchResult baseUrl authorization manifest requestId deadline)
      (Transferred manifest) [] := by
  refine Async.ensures_tryFinally ((fetchBody_spec _ manifest).mono ?_)
  intro r tr hr
  refine (cleanup_spec _ tr).mono ?_
  rintro (e | ⟨⟩) tr' ⟨hfollows, hraised⟩
  · exact .inr (.inl (hraised e rfl))
  · exact hr.follows hfollows

/-- The exchanges of one attempt. -/
def attemptRun (call : TransferCall) (offset expected : ℕ) (now : ℚ) (reply : GetReply) :
    List (Prog.Exchange transferInterface) :=
  [⟨.monotonic, now⟩, ⟨.get (chunkRequest call offset expected (call.deadline - now)), reply⟩]

/-- The exchanges of a cleanup that succeeds at once. -/
def cleanupRun (call : TransferCall) : List (Prog.Exchange transferInterface) :=
  [⟨.startTimeout cleanupDeadlineSeconds, ()⟩,
    ⟨.delete call.url call.authorization call.requestId cleanupDeadlineSeconds,
      DeleteReply.answered 204 none⟩]

/-- What an attempt comes to when it ends the loop. -/
def Decides (offset expected : ℕ) (body : Bytes) (reply : GetReply) : Except Exn Bytes → Prop
  | .ok body' => ∃ piece, attemptChunk offset expected reply = .ok (some piece) ∧
      body' = body ++ piece
  | .error e => attemptChunk offset expected reply = .error e

lemma fetchChunk_runs {call : TransferCall} {offset expected attempt : ℕ} {attempts : List ℕ}
    {body : Bytes} {now : ℚ} {reply : GetReply} {r : Except Exn Bytes}
    (hnow : ¬ call.deadline - now ≤ 0) (hr : Decides offset expected body reply r) :
    (fetchChunk call offset expected body (attempt :: attempts)).run.Runs
      (attemptRun call offset expected now reply) r := by
  refine Transfer.runs_monotonic.mpr ?_
  dsimp only
  rw [if_neg hnow]
  refine Transfer.runs_get.mpr ?_
  rcases r with e | body'
  · rw [show attemptChunk offset expected reply = .error e from hr]
    exact .ret _
  · obtain ⟨piece, hattempt, rfl⟩ := hr
    rw [hattempt]
    exact .ret _

/-- A result of one chunk is what the attempts at that chunk bring. -/
lemma fetchBody_runs {call : TransferCall} {manifest : Manifest} {r : Except Exn Bytes}
    {tr : List (Prog.Exchange transferInterface)} (hlen : manifest.length ≤ chunkSize)
    (h : (fetchChunk call 0 manifest.length [] [1, 2, 3]).run.Runs tr r)
    (hdigest : ∀ body, r = .ok body → Sha256.hexdigest body = manifest.sha256) :
    (fetchBody call manifest).run.Runs tr r := by
  have hoffsets : chunkOffsets manifest.length = [0] := by
    have hpos := manifest.length_pos
    have hcount : (manifest.length + chunkSize - 1) / chunkSize = 1 := by
      unfold chunkSize at *
      omega
    rw [chunkOffsets, hcount, List.range'_one]
  have hloop : ((chunkOffsets manifest.length).foldlM (fun body offset =>
      fetchChunk call offset (min chunkSize (manifest.length - offset)) body [1, 2, 3]) []) =
        fetchChunk call 0 manifest.length [] [1, 2, 3] := by
    rw [hoffsets, List.foldlM_cons, Nat.sub_zero, Nat.min_eq_right hlen]
    exact bind_pure _
  unfold fetchBody
  rw [hloop]
  rcases r with e | body
  · exact Async.runs_bind_error h
  · rw [← List.append_nil tr]
    refine Async.runs_bind_ok h ?_
    rw [if_neg (not_not.mpr (hdigest body rfl))]
    exact .ret _

/-- The whole call. -/
lemma fetchResult_runs {call : TransferCall} {manifest : Manifest} {now : ℚ} {reply : GetReply}
    {r : Except Exn Bytes} (hlen : manifest.length ≤ chunkSize)
    (hnow : ¬ call.deadline - now ≤ 0) (hr : Decides 0 manifest.length [] reply r)
    (hdigest : ∀ body, r = .ok body → Sha256.hexdigest body = manifest.sha256) :
    (Async.tryFinally (fetchBody call manifest) (cleanup call)).run.Runs
      (attemptRun call 0 manifest.length now reply ++ cleanupRun call) r :=
  Async.runs_tryFinally (fetchBody_runs hlen (fetchChunk_runs hnow hr) hdigest)
    (Transfer.runs_startTimeout.mpr (Prog.runs_cons.mpr (.ret _)))

/-- The smallest JSON object, and its manifest. -/
def emptyObject : Bytes := [0x7b, 0x7d]

def emptyObjectManifest : Manifest where
  id := "0123456789abcdef0123456789abcdef"
  length := 2
  sha256 := Sha256.hexdigest emptyObject
  id_isHex := by decide
  length_pos := by decide
  length_le := by decide
  sha256_isHex := Sha256.hexdigest_isHex emptyObject

/-- The call that fetches it. -/
def emptyObjectCall : TransferCall :=
  ⟨resultUrl "http://pod:9000" emptyObjectManifest.id, "Bearer token", "abc123def456", 1800⟩

/-- The chunk is answered whole, with the `Content-Length` given. -/
def emptyObjectReply (contentLength : String) : GetReply :=
  .answered
    { contentLength := some contentLength
      parts := [emptyObject]
      tail := none
      status := 200
      chunkOffset := some "0"
      close := none }

def emptyObjectRun (contentLength : String) : List (Prog.Exchange transferInterface) :=
  attemptRun emptyObjectCall 0 2 0 (emptyObjectReply contentLength) ++ cleanupRun emptyObjectCall

/-- A numeral of zeros. -/
def zeros (n : ℕ) : String := String.ofList (List.replicate n '0')

/-- The same transfer with the right `Content-Length`. -/
lemma emptyObject_runs :
    (fetchResult "http://pod:9000" "Bearer token" emptyObjectManifest "abc123def456"
      1800).run.Runs (emptyObjectRun "2") (.ok emptyObject) := by
  have hdecides : Decides 0 2 [] (emptyObjectReply "2") (.ok emptyObject) :=
    ⟨emptyObject, by decide, rfl⟩
  refine fetchResult_runs (by decide) (by decide +kernel) hdecides ?_
  rintro _ ⟨⟩
  rfl

end SpeakrRunpod
