import Mathlib.Tactic.Common

/-!
# Exceptions

The five exception classes of `adapter/errors.py`, the exceptions of `httpx`, and those of Python
itself that the modelled code raises or lets through.  The handlers select by class, so an
exception is its class and, where the code reads it, its text.
-/

namespace SpeakrRunpod

/-- The concrete classes of `httpx.RequestError`. -/
inductive RequestError
  | connectTimeout | readTimeout | writeTimeout | poolTimeout
  | connectError | readError | writeError | closeError
  | proxyError | unsupportedProtocol | localProtocolError | remoteProtocolError
  | decodingError | tooManyRedirects
  deriving DecidableEq, Repr

/-- `type(exc).__name__`. -/
def RequestError.name : RequestError → String
  | .connectTimeout => "ConnectTimeout"
  | .readTimeout => "ReadTimeout"
  | .writeTimeout => "WriteTimeout"
  | .poolTimeout => "PoolTimeout"
  | .connectError => "ConnectError"
  | .readError => "ReadError"
  | .writeError => "WriteError"
  | .closeError => "CloseError"
  | .proxyError => "ProxyError"
  | .unsupportedProtocol => "UnsupportedProtocol"
  | .localProtocolError => "LocalProtocolError"
  | .remoteProtocolError => "RemoteProtocolError"
  | .decodingError => "DecodingError"
  | .tooManyRedirects => "TooManyRedirects"

inductive Exn
  | temporaryRunPodError (message : String)
  | runPodTimeoutError (message : String)
  | badUpstreamResponseError (message : String)
  | configurationError (message : String)
  | runPodNotFoundError (message : String)
  | requestError (kind : RequestError) (message : String)
  | httpStatusError (message : String)
  | timeoutError
  | valueError (message : String)
  | unicodeError (message : String)
  | osError (message : String)
  | recursionError (message : String)
  | cancelledError
  deriving DecidableEq, Repr

namespace Exn

/-- `isinstance(exc, httpx.HTTPError)`. -/
def isHttpError : Exn → Bool
  | .requestError _ _ | .httpStatusError _ => true
  | _ => false

/-- `isinstance(exc, Exception)`: `CancelledError` is only a `BaseException`. -/
def isException : Exn → Bool
  | .cancelledError => false
  | _ => true

/-- `isinstance(exc, ValueError)`: a `UnicodeDecodeError` is one. -/
def isValueError : Exn → Bool
  | .valueError _ | .unicodeError _ => true
  | _ => false

/-- `str(exc)`. -/
def text : Exn → String
  | .temporaryRunPodError m | .runPodTimeoutError m | .badUpstreamResponseError m
  | .configurationError m | .runPodNotFoundError m | .requestError _ m | .httpStatusError m
  | .valueError m | .unicodeError m | .osError m | .recursionError m => m
  | .timeoutError | .cancelledError => ""

/-- The failures that tell the caller the pod is gone. -/
def isNotFound : Exn → Bool
  | .runPodNotFoundError _ => true
  | _ => false

end Exn

/-! ## What a computation may raise -/

section Raises

variable {α β : Type} {P : Exn → Prop}

/-- Whatever the computation raises is one of `P`. -/
def Raises (P : Exn → Prop) (r : Except Exn α) : Prop := ∀ e, r = .error e → P e

lemma raises_ok (a : α) : Raises P (.ok a) := fun _ h => nomatch h

lemma raises_error {e : Exn} (h : P e) : Raises P (.error e : Except Exn α) := by
  intro e' he
  cases he
  exact h

lemma Raises.bind {r : Except Exn α} {f : α → Except Exn β} (hr : Raises P r)
    (hf : ∀ a, Raises P (f a)) : Raises P (r >>= f) := by
  cases r with
  | error e => exact raises_error (hr e rfl)
  | ok a => exact hf a

lemma Raises.map {r : Except Exn α} {f : α → β} (hr : Raises P r) : Raises P (r.map f) := by
  cases r with
  | error e => exact raises_error (hr e rfl)
  | ok a => exact raises_ok _

end Raises

end SpeakrRunpod
