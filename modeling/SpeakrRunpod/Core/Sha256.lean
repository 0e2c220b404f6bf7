import SpeakrRunpod.Core.Text

/-!
# SHA-256

`hashlib.sha256(body).hexdigest()`, as FIPS 180-4 defines it.

* `pad` — the padded message, a whole number of blocks.
* `compress` — one block into the chaining state.
* `hexdigest` — the digest as a string; `hexdigest_isHex` says that `[0-9a-f]{64}` matches it.
-/

namespace Sha256

/-- The chaining state. -/
structure State where
  a : UInt32
  b : UInt32
  c : UInt32
  d : UInt32
  e : UInt32
  f : UInt32
  g : UInt32
  h : UInt32

def initial : State :=
  ⟨0x6a09e667, 0xbb67ae85, 0x3c6ef372, 0xa54ff53a, 0x510e527f, 0x9b05688c, 0x1f83d9ab, 0x5be0cd19⟩

def roundConstants : List UInt32 :=
  [0x428a2f98, 0x71374491, 0xb5c0fbcf, 0xe9b5dba5, 0x3956c25b, 0x59f111f1, 0x923f82a4, 0xab1c5ed5,
    0xd807aa98, 0x12835b01, 0x243185be, 0x550c7dc3, 0x72be5d74, 0x80deb1fe, 0x9bdc06a7, 0xc19bf174,
    0xe49b69c1, 0xefbe4786, 0x0fc19dc6, 0x240ca1cc, 0x2de92c6f, 0x4a7484aa, 0x5cb0a9dc, 0x76f988da,
    0x983e5152, 0xa831c66d, 0xb00327c8, 0xbf597fc7, 0xc6e00bf3, 0xd5a79147, 0x06ca6351, 0x14292967,
    0x27b70a85, 0x2e1b2138, 0x4d2c6dfc, 0x53380d13, 0x650a7354, 0x766a0abb, 0x81c2c92e, 0x92722c85,
    0xa2bfe8a1, 0xa81a664b, 0xc24b8b70, 0xc76c51a3, 0xd192e819, 0xd6990624, 0xf40e3585, 0x106aa070,
    0x19a4c116, 0x1e376c08, 0x2748774c, 0x34b0bcb5, 0x391c0cb3, 0x4ed8aa4a, 0x5b9cca4f, 0x682e6ff3,
    0x748f82ee, 0x78a5636f, 0x84c87814, 0x8cc70208, 0x90befffa, 0xa4506ceb, 0xbef9a3f7, 0xc67178f2]

def rotr (x n : UInt32) : UInt32 := (x >>> n) ||| (x <<< (32 - n))

/-! ## Padding and words -/

/-- The length in bits, in eight bytes. -/
def lengthBytes (n : ℕ) : Bytes := (List.range 8).map fun i => UInt8.ofNat (8 * n / 256 ^ (7 - i))

def pad (message : Bytes) : Bytes :=
  message ++ 0x80 :: List.replicate ((119 - message.length % 64) % 64) 0 ++
    lengthBytes message.length

/-- The words of a block, in big-endian order. -/
def words : Bytes → List UInt32
  | b₀ :: b₁ :: b₂ :: b₃ :: rest =>
      (b₀.toUInt32 <<< 24 ||| b₁.toUInt32 <<< 16 ||| b₂.toUInt32 <<< 8 ||| b₃.toUInt32) ::
        words rest
  | _ => []

/-! ## One block -/

/-- The next word of the message schedule, from those before it, newest first. -/
def nextWord (ws : List UInt32) : UInt32 :=
  let w₂ := ws.getD 1 0
  let w₁₅ := ws.getD 14 0
  (rotr w₂ 17 ^^^ rotr w₂ 19 ^^^ (w₂ >>> 10)) + ws.getD 6 0 +
    (rotr w₁₅ 7 ^^^ rotr w₁₅ 18 ^^^ (w₁₅ >>> 3)) + ws.getD 15 0

/-- The message schedule of a block. -/
def schedule (block : List UInt32) : List UInt32 :=
  ((fun ws => nextWord ws :: ws)^[48] block.reverse).reverse

def round (s : State) (kw : UInt32 × UInt32) : State :=
  let t₁ := s.h + (rotr s.e 6 ^^^ rotr s.e 11 ^^^ rotr s.e 25) +
    ((s.e &&& s.f) ^^^ (~~~s.e &&& s.g)) + kw.1 + kw.2
  let t₂ := (rotr s.a 2 ^^^ rotr s.a 13 ^^^ rotr s.a 22) +
    ((s.a &&& s.b) ^^^ (s.a &&& s.c) ^^^ (s.b &&& s.c))
  ⟨t₁ + t₂, s.a, s.b, s.c, s.d + t₁, s.e, s.f, s.g⟩

def compress (s : State) (block : List UInt32) : State :=
  let t := (roundConstants.zip (schedule block)).foldl round s
  ⟨s.a + t.a, s.b + t.b, s.c + t.c, s.d + t.d, s.e + t.e, s.f + t.f, s.g + t.g, s.h + t.h⟩

/-- The state after all blocks; `n` blocks are left. -/
def blocks : ℕ → State → List UInt32 → State
  | 0, s, _ => s
  | n + 1, s, ws => blocks n (compress s (ws.take 16)) (ws.drop 16)

/-! ## The digest -/

def hexDigit (n : ℕ) : Char := if n < 10 then Char.ofNat (48 + n) else Char.ofNat (87 + n)

def hexWord (w : UInt32) : List Char :=
  (List.range 8).map fun i => hexDigit (w.toNat / 16 ^ (7 - i) % 16)

def hexState (s : State) : List Char :=
  [s.a, s.b, s.c, s.d, s.e, s.f, s.g, s.h].flatMap hexWord

/-- `hashlib.sha256(body).hexdigest()`. -/
def hexdigest (body : Bytes) : String :=
  String.ofList (hexState (blocks ((pad body).length / 64) initial (words (pad body))))

lemma isHexDigit_hexDigit : ∀ n < 16, PyText.isHexDigit (hexDigit n) = true := by decide

lemma hexWord_isHex (w : UInt32) :
    (hexWord w).length = 8 ∧ ∀ c ∈ hexWord w, PyText.isHexDigit c = true := by
  refine ⟨by simp [hexWord], fun c hc => ?_⟩
  obtain ⟨i, -, rfl⟩ := List.mem_map.mp hc
  exact isHexDigit_hexDigit _ (Nat.mod_lt _ (by decide))

/-- A digest has the form that is required of it. -/
theorem hexdigest_isHex (body : Bytes) : PyText.IsHex 64 (hexdigest body) := by
  rw [hexdigest, PyText.IsHex, String.toList_ofList, List.all_eq_true]
  generalize blocks _ _ _ = s
  refine ⟨by simp [hexState, hexWord_isHex], fun c hc => ?_⟩
  obtain ⟨w, -, hw⟩ := List.mem_flatMap.mp hc
  exact (hexWord_isHex w).2 c hw

example : hexdigest [0x61, 0x62, 0x63] =
    "ba7816bf8f01cfea414140de5dae2223b00361a396177a9cb410ff61f20015ad" := by decide +kernel

end Sha256
