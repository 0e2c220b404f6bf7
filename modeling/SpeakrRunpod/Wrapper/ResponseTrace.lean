import SpeakrRunpod.Core.Interpose
import SpeakrRunpod.Wrapper.Server

/-!
# The trace of a response

`runpod-image/wrapper.py`: `AsrResponseTraceMiddleware`, which stands between the application and
`send` for the requests `POST /asr`, and logs what is handed over.

* `AsgiApp` — an application: a program that sends messages, with other operations of its own.
* `tracedSend`, `asrResponseTrace` — the middleware: an observer of the application (`Observer`).
* `trace_unnoticed` — **the application and the client do not notice the middleware.**
* `account`, `trace_accounts` — **the log, told from what the application sent** and nothing else.
-/

namespace SpeakrRunpod

open Coop

/-! ## The server's interface -/

/-- The connection scope of a request. -/
structure AsgiScope where
  type : String
  path : Option String
  method : Option String
  headers : Option (List (Bytes × Bytes))

/-- What an application hands to `send`. -/
inductive AsgiMessage
  | responseStart (status : ℕ) (headers : List (Bytes × Bytes))
  | responseBody (body : Option Bytes) (moreBody : Option Bool)
  | other (type : String)

/-- `len(message.get("body", b""))`. -/
def AsgiMessage.bodyBytes : AsgiMessage → ℕ
  | .responseBody body _ => (body.getD []).length
  | _ => 0

/-- Exceptions, of which a name is all that is logged. -/
structure PyException where
  typeName : String
  message : String

/-- What an application asks for: `send`, and operations of its own, `receive` among them. -/
abbrev asgiInterface (A : Interface) : Interface :=
  ⟨AsgiMessage ⊕ A.Op, Sum.elim (fun _ => Except PyException Unit) A.Res⟩

/-- `await app(scope, receive, send)`. -/
abbrev AsgiApp (A : Interface) := Async (asgiInterface A) PyException Unit

/-! ## What is logged -/

inductive TraceEvent
  | headersStarted (contentLength : Option String)
  | headersReturned
  | bodyStarted (chunkBytes attemptedBytes : ℕ)
  | bodyReturned (handedOffBytes : ℕ) (final : Bool)
  | failed (attemptedBytes handedOffBytes : ℕ) (error : String)
  deriving DecidableEq

/-- A record of the middleware, with the data of its message. -/
structure TraceRecord where
  id : String
  status : Option ℕ
  event : TraceEvent
  elapsed : ℚ
  deriving DecidableEq

inductive TraceOp
  | monotonic
  | log (record : TraceRecord)

/-- The clock and the log of the middleware. -/
abbrev traceInterface : Interface :=
  ⟨TraceOp, fun
    | .monotonic => ℚ
    | .log _ => Unit⟩

/-! ## The middleware -/

/-- `bytes.lower()`. -/
def lowerBytes (bs : Bytes) : Bytes := bs.map fun b => if 65 ≤ b ∧ b ≤ 90 then b + 32 else b

/-- `bytes.decode("ascii", errors="ignore")`. -/
def asciiIgnore (bs : Bytes) : String :=
  String.ofList ((bs.filter fun b => b < 0x80).map fun b => Char.ofNat b.toNat)

/-- `bytes.decode("ascii", errors="replace")`. -/
def asciiReplace (bs : Bytes) : String :=
  String.ofList (bs.map fun b => if b < 0x80 then Char.ofNat b.toNat else Char.ofNat 0xfffd)

/-- `b"x-asr-trace-id"`. -/
def traceIdName : Bytes := Codec.encodeLatin1 "x-asr-trace-id"

/-- `b"content-length"`. -/
def contentLengthName : Bytes := Codec.encodeLatin1 "content-length"

/-- `_trace_id`. -/
def traceIdOf (scope : AsgiScope) : String :=
  match (scope.headers.getD []).find? fun h => lowerBytes h.1 = traceIdName with
  | none => "untracked"
  | some h =>
      let candidate := asciiIgnore h.2
      if PyText.IsHex 12 candidate then candidate else "untracked"

/-- `next((value.decode(…) for name, value in message.get("headers", []) if …), None)`. -/
def contentLengthOf (headers : List (Bytes × Bytes)) : Option String :=
  (headers.find? fun h => lowerBytes h.1 = contentLengthName).map fun h => asciiReplace h.2

/-- The variables that `traced_send` shares with `__call__`. -/
structure TraceState where
  status : Option ℕ
  attemptedBytes : ℕ
  handedOffBytes : ℕ

/-- What is logged after a call of `time.monotonic()`. -/
def logTrace (id : String) (started : ℚ) (status : Option ℕ) (event : TraceEvent) :
    Prog traceInterface Unit := do
  let now ← Prog.call (I := traceInterface) .monotonic
  Prog.call (I := traceInterface) (.log ⟨id, status, event, now - started⟩)

/-- `traced_send`, around `await send(message)`.  Where `send` raises, nothing comes after it. -/
def tracedSend (A : Interface) (id : String) (started : ℚ) :
    Observer (asgiInterface A) traceInterface TraceState where
  before s
    | .inl (.responseStart status headers) => do
        let s := { s with status := some status }
        logTrace id started s.status (.headersStarted (contentLengthOf headers))
        pure s
    | .inl (.responseBody body moreBody) => do
        let chunkBytes := (AsgiMessage.responseBody body moreBody).bodyBytes
        let s := { s with attemptedBytes := s.attemptedBytes + chunkBytes }
        logTrace id started s.status (.bodyStarted chunkBytes s.attemptedBytes)
        pure s
    | _ => pure s
  after s
    | .inl (.responseStart _ _), .ok () => do
        logTrace id started s.status .headersReturned
        pure s
    | .inl (.responseBody body moreBody), .ok () => do
        let chunkBytes := (AsgiMessage.responseBody body moreBody).bodyBytes
        let s := { s with handedOffBytes := s.handedOffBytes + chunkBytes }
        logTrace id started s.status (.bodyReturned s.handedOffBytes (!moreBody.getD false))
        pure s
    | _, _ => pure s

/-- The requests whose response is traced. -/
def AsgiScope.Traced (scope : AsgiScope) : Prop :=
  scope.type = "http" ∧ scope.path = some "/asr" ∧ scope.method = some "POST"

instance (scope : AsgiScope) : Decidable scope.Traced := inferInstanceAs (Decidable (_ ∧ _ ∧ _))

/-- `AsrResponseTraceMiddleware.__call__`. -/
def asrResponseTrace {A : Interface} (scope : AsgiScope) (app : AsgiApp A) :
    Async ((asgiInterface A).sum traceInterface) PyException Unit :=
  if scope.Traced then
    ExceptT.mk do
      let id := traceIdOf scope
      let started ← Prog.inr (Prog.call (I := traceInterface) .monotonic)
      let (r, s) ← Prog.observe (tracedSend A id started) ⟨none, 0, 0⟩ app.run
      match r with
      | .ok () => pure (.ok ())
      | .error e => do
          Prog.inr (logTrace id started s.status
            (.failed s.attemptedBytes s.handedOffBytes e.typeName))
          pure (.error e)
  else app.inl

/-! ## The runs of the middleware -/

/-- These events are logged one after the other, each after a reading of the clock. -/
inductive Logged (id : String) (started : ℚ) :
    List (Option ℕ × TraceEvent) → List (Prog.Exchange traceInterface) → Prop
  | nil : Logged id started [] []
  | cons (now : ℚ) (status : Option ℕ) (event : TraceEvent)
      {events : List (Option ℕ × TraceEvent)} {tr : List (Prog.Exchange traceInterface)}
      (h : Logged id started events tr) :
      Logged id started ((status, event) :: events)
        (⟨.monotonic, now⟩ :: ⟨.log ⟨id, status, event, now - started⟩, ()⟩ :: tr)

section Runs

variable {A : Interface} {id : String} {started : ℚ} {scope : AsgiScope} {app : AsgiApp A}
  {events events' : List (Option ℕ × TraceEvent)} {tr tr' : List (Prog.Exchange traceInterface)}

lemma Logged.append (h : Logged id started events tr) (h' : Logged id started events' tr') :
    Logged id started (events ++ events') (tr ++ tr') := by
  induction h with
  | nil => exact h'
  | cons now status event _ ih => exact .cons now status event ih

lemma exists_logged (id : String) (started : ℚ) (events : List (Option ℕ × TraceEvent)) :
    ∃ tr, Logged id started events tr := by
  induction events with
  | nil => exact ⟨[], .nil⟩
  | cons e events ih =>
      obtain ⟨tr, h⟩ := ih
      exact ⟨_, .cons 0 e.1 e.2 h⟩

/-- A record is logged, and the program goes on. -/
lemma runs_logTrace {α : Type} {status : Option ℕ} {event : TraceEvent}
    {f : Unit → Prog traceInterface α} {a : α} :
    (logTrace id started status event >>= f).Runs tr a ↔
      ∃ low rest, tr = low ++ rest ∧ Logged id started [(status, event)] low ∧
        (f ()).Runs rest a := by
  constructor
  · intro h
    obtain ⟨now, tr₁, rfl, h₁⟩ := Prog.runs_op.mp h
    obtain ⟨⟨⟩, tr₂, rfl, h₂⟩ := Prog.runs_op.mp h₁
    exact ⟨_, tr₂, rfl, .cons now status event .nil, h₂⟩
  · rintro ⟨low, rest, rfl, hlow, h⟩
    cases hlow with
    | cons now _ _ hnil =>
        cases hnil
        refine Prog.Runs.op (I := traceInterface) (o := .monotonic) now ?_
        exact Prog.Runs.op (I := traceInterface) (o := .log _) () h

/-- What is logged when the application has come to an end. -/
def endEvents (s : TraceState) : Except PyException Unit → List (Option ℕ × TraceEvent)
  | .ok () => []
  | .error e => [(s.status, .failed s.attemptedBytes s.handedOffBytes e.typeName)]

/-- **A run of the middleware** around a response that is traced. -/
lemma runs_traced (hscope : scope.Traced)
    {whole : List (Prog.Exchange ((asgiInterface A).sum traceInterface))}
    {r : Except PyException Unit} :
    (asrResponseTrace scope app).run.Runs whole r ↔
      ∃ started own inner s fin,
        whole = asRight ⟨TraceOp.monotonic, started⟩ :: (inner ++ fin.map asRight) ∧
          app.run.Runs own r ∧
            Prog.Watched (tracedSend A (traceIdOf scope) started) ⟨none, 0, 0⟩ own inner s ∧
              Logged (traceIdOf scope) started (endEvents s r) fin := by
  rw [asrResponseTrace, if_pos hscope]
  constructor
  · intro h
    obtain ⟨first, rest, started, rfl, hfirst, hrest⟩ := Prog.runs_bind.mp h
    obtain ⟨clock, rfl, hclock⟩ := Prog.runs_inr.mp hfirst
    obtain ⟨now, tr₁, rfl, hret⟩ := Prog.runs_op.mp hclock
    obtain ⟨rfl, rfl⟩ := Prog.runs_ret.mp hret
    obtain ⟨inner, last, ⟨r', s⟩, rfl, hinner, hlast⟩ := Prog.runs_bind.mp hrest
    obtain ⟨own, hown, hwatched⟩ := Prog.runs_observe.mp hinner
    cases r' with
    | ok u =>
        obtain ⟨rfl, rfl⟩ := Prog.runs_ret.mp hlast
        exact ⟨now, own, inner, s, [], rfl, hown, hwatched, .nil⟩
    | error e =>
        obtain ⟨logged, tr₂, _, rfl, hlogged, hret⟩ := Prog.runs_bind.mp hlast
        obtain ⟨rfl, rfl⟩ := Prog.runs_ret.mp hret
        obtain ⟨low, rfl, hlow⟩ := Prog.runs_inr.mp hlogged
        rw [← bind_pure (logTrace _ _ _ _)] at hlow
        obtain ⟨fin, tr₃, rfl, hfin, hret⟩ := runs_logTrace.mp hlow
        obtain ⟨rfl, -⟩ := Prog.runs_ret.mp hret
        refine ⟨now, own, inner, s, fin, ?_, hown, hwatched, hfin⟩
        rw [List.append_nil, List.append_nil]
        rfl
  · rintro ⟨started, own, inner, s, fin, rfl, hown, hwatched, hfin⟩
    refine Prog.runs_bind.mpr ⟨[asRight ⟨TraceOp.monotonic, started⟩], _, started, rfl,
      Prog.runs_inr.mpr ⟨[⟨TraceOp.monotonic, started⟩], rfl, .op _ (.ret started)⟩, ?_⟩
    refine Prog.runs_bind.mpr ⟨inner, _, _, rfl, Prog.runs_observe.mpr ⟨own, hown, hwatched⟩, ?_⟩
    cases r with
    | ok u =>
        cases hfin
        exact .ret _
    | error e =>
        refine Prog.runs_bind.mpr ⟨_, [], (), (List.append_nil _).symm, ?_, .ret _⟩
        refine Prog.runs_inr.mpr ⟨fin, rfl, ?_⟩
        rw [← bind_pure (logTrace _ _ _ _)]
        exact runs_logTrace.mpr ⟨fin, [], (List.append_nil _).symm, hfin, .ret _⟩

end Runs

/-! ## The middleware is not noticed -/

section Unnoticed

variable {A : Interface} {id : String} {started : ℚ}

lemma halts_before (s : TraceState) : ∀ o, ((tracedSend A id started).before s o).Halts
  | .inl (.responseStart _ _) => fun _ _ => trivial
  | .inl (.responseBody _ _) => fun _ _ => trivial
  | .inl (.other _) => trivial
  | .inr _ => trivial

lemma halts_after (s : TraceState) : ∀ o r, ((tracedSend A id started).after s o r).Halts
  | .inl (.responseStart _ _), .ok () => fun _ _ => trivial
  | .inl (.responseBody _ _), .ok () => fun _ _ => trivial
  | .inl (.responseStart _ _), .error _ => trivial
  | .inl (.responseBody _ _), .error _ => trivial
  | .inl (.other _), .ok () => trivial
  | .inl (.other _), .error _ => trivial
  | .inr _, _ => trivial

/-- How the clock and the log may answer. -/
def someAnswer : (o : TraceOp) → traceInterface.Res o
  | .monotonic => (0 : ℚ)
  | .log _ => ()

end Unnoticed

/-- **The application and the client do not notice the middleware**: the application runs as it would
without it, to the same result or exception, and whatever it can do alone it can do under it. -/
theorem trace_unnoticed {A : Interface} (scope : AsgiScope) (app : AsgiApp A)
    (own : List (Prog.Exchange (asgiInterface A))) (r : Except PyException Unit) :
    app.run.Runs own r ↔
      ∃ whole, (asrResponseTrace scope app).run.Runs whole r ∧ lefts whole = own := by
  by_cases hscope : scope.Traced
  · constructor
    · intro h
      obtain ⟨inner, s, hwatched⟩ :=
        Prog.exists_watched someAnswer (halts_before (A := A)) halts_after own ⟨none, 0, 0⟩
      obtain ⟨fin, hfin⟩ := exists_logged (traceIdOf scope) 0 (endEvents s r)
      refine ⟨_, (runs_traced hscope).mpr ⟨0, own, inner, s, fin, rfl, h, hwatched, hfin⟩, ?_⟩
      simp [hwatched.lefts]
    · rintro ⟨whole, h, rfl⟩
      obtain ⟨started, own, inner, s, fin, rfl, hown, hwatched, -⟩ := (runs_traced hscope).mp h
      simpa [hwatched.lefts] using hown
  · rw [asrResponseTrace, if_neg hscope]
    constructor
    · intro h
      exact ⟨own.map asLeft, h.inl, lefts_map_asLeft own⟩
    · rintro ⟨whole, h, rfl⟩
      obtain ⟨own, rfl, hown⟩ := Prog.runs_inl.mp h
      rwa [lefts_map_asLeft]

/-! ## What the log says -/

section Accounts

variable {A : Interface}

/-- The status of a response that is started. -/
def startedStatus : Prog.Exchange (asgiInterface A) → Option ℕ
  | ⟨.inl (.responseStart status _), _⟩ => some status
  | _ => none

/-- The bytes of a body that is handed to `send`. -/
def attempted : Prog.Exchange (asgiInterface A) → ℕ
  | ⟨.inl message, _⟩ => message.bodyBytes
  | _ => 0

/-- The bytes of a body that `send` has taken. -/
def handedOff : Prog.Exchange (asgiInterface A) → ℕ
  | ⟨.inl message, .ok ()⟩ => message.bodyBytes
  | _ => 0

/-- What has been sent, in figures: the status last started, and the bytes of all bodies. -/
def sentSoFar (own : List (Prog.Exchange (asgiInterface A))) : TraceState where
  status := (own.filterMap startedStatus).getLast?
  attemptedBytes := (own.map attempted).sum
  handedOffBytes := (own.map handedOff).sum

/-- What is logged of a call of `send`, told from what was sent before it and with it. -/
def sendEvents (before : List (Prog.Exchange (asgiInterface A)))
    (x : Prog.Exchange (asgiInterface A)) : List (Option ℕ × TraceEvent) :=
  let s := sentSoFar (before ++ [x])
  match x with
  | ⟨.inl (.responseStart _ headers), r⟩ =>
      let started := (s.status, TraceEvent.headersStarted (contentLengthOf headers))
      match r with
      | .ok () => [started, (s.status, .headersReturned)]
      | .error _ => [started]
  | ⟨.inl (.responseBody body moreBody), r⟩ =>
      let started :=
        (s.status, TraceEvent.bodyStarted (body.getD []).length s.attemptedBytes)
      match r with
      | .ok () => [started, (s.status, .bodyReturned s.handedOffBytes (!moreBody.getD false))]
      | .error _ => [started]
  | _ => []

/-- What is logged of all that was sent. -/
def account (before : List (Prog.Exchange (asgiInterface A))) :
    List (Prog.Exchange (asgiInterface A)) → List (Option ℕ × TraceEvent)
  | [] => []
  | x :: own => sendEvents before x ++ account (before ++ [x]) own

lemma sentSoFar_append (before : List (Prog.Exchange (asgiInterface A)))
    (x : Prog.Exchange (asgiInterface A)) :
    sentSoFar (before ++ [x]) =
      ⟨(startedStatus x).or (sentSoFar before).status,
        (sentSoFar before).attemptedBytes + attempted x,
        (sentSoFar before).handedOffBytes + handedOff x⟩ := by
  rw [sentSoFar, sentSoFar, List.filterMap_append, List.map_append, List.map_append,
    List.sum_append, List.sum_append, List.getLast?_append]
  cases h : startedStatus x <;> simp [h]

/-- **One call of `send`**: the variables of the middleware are the figures, and what it logs is told
from them. -/
lemma tracedSend_step {id : String} {started : ℚ} {before : List (Prog.Exchange (asgiInterface A))}
    {s₁ s₂ : TraceState} {o : (asgiInterface A).Op} {r : (asgiInterface A).Res o}
    {low low' : List (Prog.Exchange traceInterface)}
    (hbefore : ((tracedSend A id started).before (sentSoFar before) o).Runs low s₁)
    (hafter : ((tracedSend A id started).after s₁ o r).Runs low' s₂) :
    s₂ = sentSoFar (before ++ [⟨o, r⟩]) ∧
      Logged id started (sendEvents before ⟨o, r⟩) (low ++ low') := by
  rcases o with (⟨status, headers⟩ | ⟨body, moreBody⟩ | type) | o
  · obtain ⟨low₁, rest, rfl, hlow₁, hret⟩ := runs_logTrace.mp hbefore
    obtain ⟨rfl, rfl⟩ := Prog.runs_ret.mp hret
    rcases r with e | ⟨⟨⟩⟩
    · obtain ⟨rfl, rfl⟩ := Prog.runs_ret.mp hafter
      rw [sendEvents, sentSoFar_append, List.append_nil, List.append_nil]
      refine ⟨rfl, ?_⟩
      exact hlow₁
    · obtain ⟨low₂, rest', rfl, hlow₂, hret'⟩ := runs_logTrace.mp hafter
      obtain ⟨rfl, rfl⟩ := Prog.runs_ret.mp hret'
      rw [sendEvents, sentSoFar_append, List.append_nil, List.append_nil]
      refine ⟨rfl, ?_⟩
      exact hlow₁.append hlow₂
  · obtain ⟨low₁, rest, rfl, hlow₁, hret⟩ := runs_logTrace.mp hbefore
    obtain ⟨rfl, rfl⟩ := Prog.runs_ret.mp hret
    rcases r with e | ⟨⟨⟩⟩
    · obtain ⟨rfl, rfl⟩ := Prog.runs_ret.mp hafter
      rw [sendEvents, sentSoFar_append, List.append_nil, List.append_nil]
      refine ⟨rfl, ?_⟩
      exact hlow₁
    · obtain ⟨low₂, rest', rfl, hlow₂, hret'⟩ := runs_logTrace.mp hafter
      obtain ⟨rfl, rfl⟩ := Prog.runs_ret.mp hret'
      rw [sendEvents, sentSoFar_append, List.append_nil, List.append_nil]
      refine ⟨rfl, ?_⟩
      exact hlow₁.append hlow₂
  · obtain ⟨rfl, rfl⟩ := Prog.runs_ret.mp hbefore
    rcases r with e | ⟨⟨⟩⟩
    · obtain ⟨rfl, rfl⟩ := Prog.runs_ret.mp hafter
      rw [sentSoFar_append]
      exact ⟨rfl, .nil⟩
    · obtain ⟨rfl, rfl⟩ := Prog.runs_ret.mp hafter
      rw [sentSoFar_append]
      exact ⟨rfl, .nil⟩
  · obtain ⟨rfl, rfl⟩ := Prog.runs_ret.mp hbefore
    obtain ⟨rfl, rfl⟩ := Prog.runs_ret.mp hafter
    rw [sentSoFar_append]
    exact ⟨rfl, .nil⟩

/-- **All calls of `send`.**  What was sent `before` is carried through the induction. -/
lemma watched_accounts {id : String} {started : ℚ} {s s' : TraceState}
    {own : List (Prog.Exchange (asgiInterface A))}
    {inner : List (Prog.Exchange ((asgiInterface A).sum traceInterface))}
    (h : Prog.Watched (tracedSend A id started) s own inner s') :
    ∀ before, s = sentSoFar before →
      s' = sentSoFar (before ++ own) ∧ Logged id started (account before own) (rights inner) := by
  induction h with
  | nil s =>
      rintro before rfl
      rw [List.append_nil]
      exact ⟨rfl, .nil⟩
  | @cons s s₁ s₂ s' o r low low' own whole hbefore hafter _ ih =>
      rintro before rfl
      obtain ⟨rfl, hlogged⟩ := tracedSend_step hbefore hafter
      obtain ⟨hs', hrest⟩ := ih (before ++ [⟨o, r⟩]) rfl
      constructor
      · rw [hs', List.append_assoc]
        rfl
      · simpa [account] using hlogged.append hrest

end Accounts

/-- **The log is the account of what the application sent.**  In any run around a response that is
traced, the middleware reads the clock and logs, under one id, just what the messages that the
application has sent come to, and a failure where the application raises. -/
theorem trace_accounts {A : Interface} (scope : AsgiScope) (app : AsgiApp A)
    (hscope : scope.Traced)
    (whole : List (Prog.Exchange ((asgiInterface A).sum traceInterface)))
    (r : Except PyException Unit) (h : (asrResponseTrace scope app).run.Runs whole r) :
    ∃ started logged, rights whole = ⟨TraceOp.monotonic, started⟩ :: logged ∧
      Logged (traceIdOf scope) started
        (account [] (lefts whole) ++ endEvents (sentSoFar (lefts whole)) r) logged := by
  obtain ⟨started, own, inner, s, fin, rfl, -, hwatched, hfin⟩ := (runs_traced hscope).mp h
  obtain ⟨rfl, hlogged⟩ := watched_accounts hwatched [] rfl
  refine ⟨started, rights inner ++ fin, by simp, ?_⟩
  have hlefts : lefts (asRight ⟨TraceOp.monotonic, started⟩ :: (inner ++ fin.map asRight)) = own := by
    simp [hwatched.lefts]
  rw [hlefts]
  exact hlogged.append hfin

/-- A scope whose response is traced. -/
def asrScope : AsgiScope where
  type := "http"
  path := some "/asr"
  method := some "POST"
  headers := none

/-- No operations. -/
def noInterface : Interface := ⟨Empty, fun _ => Unit⟩

/-- An application that starts its response and sends a body. -/
def helloApp : AsgiApp noInterface := do
  let _ ← (ExceptT.mk (Prog.call (I := asgiInterface noInterface) (.inl (.responseStart 200 []))))
  ExceptT.mk (Prog.call (I := asgiInterface noInterface) (.inl (.responseBody (some [104, 105]) none)))

/-- The client is gone when the body is sent. -/
theorem trace_accounts_gone :
    let gone : PyException := ⟨"ClientDisconnect", ""⟩
    let record (status : Option ℕ) (event : TraceEvent) (elapsed : ℚ) :
        Prog.Exchange ((asgiInterface noInterface).sum traceInterface) :=
      asRight ⟨.log ⟨"untracked", status, event, elapsed⟩, ()⟩
    let clock (now : ℚ) : Prog.Exchange ((asgiInterface noInterface).sum traceInterface) :=
      asRight ⟨.monotonic, now⟩
    let whole := [clock 5, clock 6, record (some 200) (.headersStarted none) (6 - 5),
      asLeft ⟨.inl (.responseStart 200 []), .ok ()⟩, clock 7,
      record (some 200) .headersReturned (7 - 5), clock 8, record (some 200) (.bodyStarted 2 2) (8 - 5),
      asLeft ⟨.inl (.responseBody (some [104, 105]) none), .error gone⟩, clock 9,
      record (some 200) (.failed 2 0 "ClientDisconnect") (9 - 5)]
    ∃ started logged, rights whole = ⟨TraceOp.monotonic, started⟩ :: logged ∧
      Logged (traceIdOf asrScope) started
        (account [] (lefts whole) ++ endEvents (sentSoFar (lefts whole)) (.error gone)) logged := by
  refine trace_accounts asrScope helloApp (by decide) _ _ ?_
  rw [asrResponseTrace, if_pos (by decide)]
  exact .op _ (.op _ (.op _ (.op _ (.op _ (.op _ (.op _ (.op _ (.op _ (.op _ (.op _ (.ret _)))))))))))

end SpeakrRunpod
