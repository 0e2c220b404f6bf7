import Mathlib.Tactic.Common

/-!
# The wire contract

`speakr_common/asr_result_protocol.py`, which the adapter and the wrapper are both built with.
-/

namespace SpeakrRunpod

/-- `PROTOCOL_HEADER`. -/
def protocolHeader : String := "X-ASR-Result-Protocol"

/-- `PROTOCOL_VERSION`. -/
def protocolVersion : String := "chunk-v1"

/-- `CHUNK_SIZE`. -/
def chunkSize : ℕ := 8 * 1024

/-- `MAX_RESULT_BYTES`. -/
def maxResultBytes : ℕ := 8 * 1024 * 1024

/-- `MAX_MANIFEST_BYTES`. -/
def maxManifestBytes : ℕ := 1024

end SpeakrRunpod
