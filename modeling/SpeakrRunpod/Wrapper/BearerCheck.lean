import SpeakrRunpod.Wrapper.Server

/-!
# The bearer check

A request that does not carry the token, to any of the four handlers.

* `RejectedCall` — such a request; its parameters are well formed.
* `Comparable` — `hmac.compare_digest` accepts the two texts, or is not reached.
* `handled_rejected_iff` — what becomes of the request: the handler raises, and nothing else happens.
* `Isolated` — what is asked of the check: a 401 that tells nothing and touches nothing.
* `isolated_iff` — it is met exactly if the texts are comparable.
-/

namespace SpeakrRunpod

open Coop

/-! ## The check -/

/-- The header is exactly `Bearer` and the configured token. -/
def Authentic (token : String) (authorization : Option String) : Prop :=
  token ≠ "" ∧ authorization = some ("Bearer " ++ token)

/-- No token is configured, or both the header and the token are ASCII. -/
def Comparable (token : String) (authorization : Option String) : Prop :=
  token = "" ∨ Codec.isAscii (authorization.getD "") ∧ Codec.isAscii token

instance (token : String) (authorization : Option String) :
    Decidable (Comparable token authorization) := inferInstanceAs (Decidable (_ ∨ _))

/-- What is raised for a request without the token. -/
def rejection (token : String) (authorization : Option String) : WrapperError :=
  if Comparable token authorization then .httpException 401 "Unauthorized"
  else .typeError "comparing strings with non-ASCII characters is not supported"

section Check

variable {token : String} {authorization : Option String}

/-- The texts that `compare_digest` is given are ASCII if the header and the token are. -/
lemma compared_ascii_iff (provided : String) :
    ((provided.toList ++ ("Bearer " ++ token).toList).all fun c => c.toNat < 128) =
      (Codec.isAscii provided && Codec.isAscii token) := by
  have hbearer : ("Bearer ".toList.all fun c => decide (c.toNat < 128)) = true := by decide
  rw [List.all_append, String.toList_append, List.all_append, hbearer, Bool.true_and]
  rfl

lemma provided_ne_expected (h : ¬ Authentic token authorization) (htoken : token ≠ "") :
    authorization.getD "" ≠ "Bearer " ++ token := by
  intro heq
  cases authorization with
  | none =>
      have hlength := congrArg (fun s => s.toList.length) heq
      simp at hlength
  | some provided => exact h ⟨htoken, congrArg some heq⟩

/-- **What the check says of a request without the token.** -/
lemma authorized_rejected (h : ¬ Authentic token authorization) :
    authorized token authorization = .ok false ∧
        rejection token authorization = .httpException 401 "Unauthorized" ∨
      authorized token authorization = .error (rejection token authorization) := by
  rw [authorized, rejection]
  by_cases htoken : token = ""
  · exact .inl ⟨if_pos htoken, if_pos (.inl htoken)⟩
  · rw [if_neg htoken, compareDigest, compared_ascii_iff]
    by_cases hascii : Codec.isAscii (authorization.getD "") ∧ Codec.isAscii token
    · rw [if_pos (Bool.and_eq_true_iff.mpr hascii), if_pos (.inr hascii),
        decide_eq_false (provided_ne_expected h htoken)]
      exact .inl ⟨rfl, rfl⟩
    · have hcompare : ¬ Comparable token authorization := not_or.mpr ⟨htoken, hascii⟩
      rw [if_neg fun hand => hascii (Bool.and_eq_true_iff.mp hand), if_neg hcompare]
      exact .inr rfl

end Check

/-! ## Requests -/

/-- The parameters are within their bounds: FastAPI calls the handler. -/
def WrapperRequest.WellFormed : WrapperRequest → Prop
  | .resultChunk _ offset limit => 0 ≤ offset ∧ 1 ≤ limit ∧ limit ≤ chunkSize
  | .deleteResult _ | .internalPodLogs => True
  | .proxy method _ _ _ => method = "GET" ∨ method = "POST"

/-- A request that does not carry the token. -/
structure RejectedCall (cfg : WrapperConfig) where
  call : WrapperCall
  wellFormed : call.request.WellFormed
  rejected : ¬ Authentic cfg.adapterWhisperxToken call.authorization

namespace RejectedCall

variable {cfg : WrapperConfig} (c : RejectedCall cfg)

/-- What the handler raises. -/
def error : WrapperError := rejection cfg.adapterWhisperxToken c.call.authorization

lemma handled_chunk {resultId : String} {offset limit : ℤ}
    (hwell : 0 ≤ offset ∧ 1 ≤ limit ∧ limit ≤ chunkSize) (now : ℚ) (results : Results) :
    resultChunk cfg.adapterWhisperxToken c.call.authorization now resultId offset limit results =
      (results, .error c.error) := by
  rw [resultChunk, if_neg (not_not.mpr hwell), error]
  rcases authorized_rejected c.rejected with ⟨hfalse, herror⟩ | herror
  · rw [hfalse, herror]
  · rw [herror]

lemma handled_delete {resultId : String} (results : Results) :
    deleteResult cfg.adapterWhisperxToken c.call.authorization resultId results =
      (results, .error c.error) := by
  rw [deleteResult, error]
  rcases authorized_rejected c.rejected with ⟨hfalse, herror⟩ | herror
  · rw [hfalse, herror]
  · rw [herror]

lemma handled_podLogs (logs : String → LogEntry) :
    internalPodLogs cfg c.call.authorization logs = .error c.error := by
  rw [internalPodLogs, error]
  rcases authorized_rejected c.rejected with ⟨hfalse, herror⟩ | herror
  · rw [hfalse, herror]
  · rw [herror]

lemma handled_proxy {method path : String} {query : List (String × String)} {body : Bytes} :
    proxy cfg ⟨method, path, query, c.call.decoded, body⟩ = throw (.raised c.error) := by
  rw [proxy, error]
  rcases authorized_rejected c.rejected with ⟨hfalse, herror⟩ | herror
  · rw [show c.call.decoded.get? "authorization" = c.call.authorization from rfl, hfalse, herror]
  · rw [show c.call.decoded.get? "authorization" = c.call.authorization from rfl, herror]

/-- **A request without the token**: the handler raises, and the state is what it was. -/
theorem handled_iff (w w' : WrapperState) (answer : Except ProxyError WrapperAnswer) :
    Handled cfg w c.call answer w' ↔ answer = .error (.raised c.error) ∧ w' = w := by
  have hwell := c.wellFormed
  rw [Handled]
  cases hrequest : c.call.request with
  | resultChunk resultId offset limit =>
      rw [hrequest] at hwell
      simp only [c.handled_chunk hwell]
      exact exists_const ℚ
  | deleteResult resultId =>
      simp only [c.handled_delete]
      rfl
  | internalPodLogs =>
      simp only [c.handled_podLogs]
      rfl
  | proxy method path query body =>
      simp only [c.handled_proxy]
      constructor
      · rintro ⟨tr, r, hrun, htr, rfl⟩
        obtain ⟨rfl, rfl⟩ := Prog.runs_ret.mp hrun
        cases htr
        exact ⟨rfl, rfl⟩
      · rintro ⟨rfl, rfl⟩
        exact ⟨[], _, .ret _, .nil _, rfl⟩

end RejectedCall

/-! ## Isolation -/

/-- **What is asked of the check.**  From every state there is an answer; it is a 401, it is the same
from any two states, it leaves the stored results as they are, and nothing is sent to WhisperX. -/
structure Isolated (cfg : WrapperConfig) (call : WrapperCall) : Prop where
  answered : ∀ w, ∃ answer w', Handled cfg w call answer w'
  unauthorized : ∀ w answer w', Handled cfg w call answer w' → answerStatus answer = 401
  alike : ∀ w₁ w₂ answer₁ answer₂ w₁' w₂', Handled cfg w₁ call answer₁ w₁' →
    Handled cfg w₂ call answer₂ w₂' → answer₁ = answer₂
  unchanged : ∀ w answer w', Handled cfg w call answer w' →
    w'.results = w.results ∧ w'.sent = w.sent

/-- **When a request without the token is turned away as it should be**: if no token is configured, or
the header and the token are both ASCII. -/
theorem isolated_iff {cfg : WrapperConfig} (c : RejectedCall cfg) :
    Isolated cfg c.call ↔ Comparable cfg.adapterWhisperxToken c.call.authorization := by
  constructor
  · intro h
    by_contra hcompare
    have hstatus := h.unauthorized ⟨.empty, fun _ => .absent, []⟩ _ _
      ((c.handled_iff _ _ _).mpr ⟨rfl, rfl⟩)
    rw [RejectedCall.error, rejection, if_neg hcompare] at hstatus
    cases hstatus
  · intro hcompare
    have herror : c.error = .httpException 401 "Unauthorized" := if_pos hcompare
    refine ⟨fun w => ⟨_, w, (c.handled_iff w w _).mpr ⟨rfl, rfl⟩⟩, ?_, ?_, ?_⟩
    · intro w answer w' h
      obtain ⟨rfl, -⟩ := (c.handled_iff _ _ _).mp h
      rw [herror]
      rfl
    · intro w₁ w₂ answer₁ answer₂ w₁' w₂' h₁ h₂
      exact ((c.handled_iff _ _ _).mp h₁).1.trans ((c.handled_iff _ _ _).mp h₂).1.symm
    · intro w answer w' h
      obtain ⟨-, rfl⟩ := (c.handled_iff _ _ _).mp h
      exact ⟨rfl, rfl⟩

/-- Even where it is not, the state is untouched and the answer is the same from any two states. -/
theorem rejected_untouched {cfg : WrapperConfig} (c : RejectedCall cfg) {w w' : WrapperState}
    {answer : Except ProxyError WrapperAnswer} (h : Handled cfg w c.call answer w') :
    w' = w ∧ (answerStatus answer = 401 ∨ answerStatus answer = 500) := by
  obtain ⟨rfl, rfl⟩ := (c.handled_iff _ _ _).mp h
  refine ⟨rfl, ?_⟩
  rw [RejectedCall.error, rejection]
  split_ifs
  · exact .inl rfl
  · exact .inr rfl

/-- A `GET /internal/pod-logs` whose `Authorization` header is `Bearer é`. -/
def accentedCall : RejectedCall ⟨"secret", 1024⟩ where
  call := ⟨[("authorization".toList.map fun c => UInt8.ofNat c.toNat,
    [0x42, 0x65, 0x61, 0x72, 0x65, 0x72, 0x20, 0xe9])], .internalPodLogs⟩
  wellFormed := trivial
  rejected := by
    rintro ⟨-, h⟩
    exact absurd h (by decide)

/-- **It is answered with a 500.** -/
theorem accented_header_not_isolated : ¬ Isolated ⟨"secret", 1024⟩ accentedCall.call := by
  intro h
  have hstatus := h.unauthorized ⟨.empty, fun _ => .absent, []⟩ _ _
    ((accentedCall.handled_iff _ _ _).mpr ⟨rfl, rfl⟩)
  have herror : accentedCall.error =
      .typeError "comparing strings with non-ASCII characters is not supported" := by
    decide
  rw [herror] at hstatus
  cases hstatus

end SpeakrRunpod
