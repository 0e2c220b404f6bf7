import SpeakrRunpod.Core.Text

/-!
# Text encodings

`bytes.decode` for the encodings that `json.loads` tells apart, with the error handler
`surrogatepass`, and `str.encode("utf-8")`.

* `utf8`, `utf16`, `utf32` — the decoders; `none` is a `UnicodeDecodeError`.
* `encodeUtf8` — the encoder; `utf8_encodeUtf8` says that the decoder inverts it, and `decodeUtf8` is
  its inverse, where a lone surrogate is an error.
* `utf8Replace` — the decoder that replaces what it cannot read; `latin1`, `encodeLatin1` — Latin-1.
* `detectEncoding`, `decodeJson` — `json.detect_encoding` and the decoding that it selects.
-/

namespace Codec

/-- The character of a code point.  A Lean character is never a surrogate: a lone one, which the
error handler lets through, is read as the replacement character. -/
def character (n : ℕ) : Option Char :=
  if 0xd800 ≤ n ∧ n ≤ 0xdfff then some (Char.ofNat 0xfffd)
  else if n ≤ 0x10ffff then some (Char.ofNat n)
  else none

/-! ## UTF-8 -/

/-- The decoder where `owed` continuation bytes are still to come for the code point begun as `acc`,
which is not a shorter sequence's when it reaches `low`. -/
def utf8From : ℕ → ℕ → ℕ → Bytes → Option (List Char)
  | 0, _, _, [] => some []
  | 0, _, _, b :: bs =>
      let n := b.toNat
      if n < 0x80 then (utf8From 0 0 0 bs).map (Char.ofNat n :: ·)
      else if 0xc2 ≤ n ∧ n < 0xe0 then utf8From 1 (n - 0xc0) 0x80 bs
      else if 0xe0 ≤ n ∧ n < 0xf0 then utf8From 2 (n - 0xe0) 0x800 bs
      else if 0xf0 ≤ n ∧ n < 0xf5 then utf8From 3 (n - 0xf0) 0x10000 bs
      else none
  | _ + 1, _, _, [] => none
  | owed + 1, acc, low, b :: bs =>
      let n := b.toNat
      if n < 0x80 ∨ 0xc0 ≤ n then none
      else
        let acc := 64 * acc + (n - 0x80)
        if owed = 0 then
          if acc < low then none
          else (character acc).bind fun c => (utf8From 0 0 0 bs).map (c :: ·)
        else utf8From owed acc low bs

def utf8 (bs : Bytes) : Option (List Char) := utf8From 0 0 0 bs

/-- `str.encode("utf-8")`. -/
def encodeUtf8 (cs : List Char) : Bytes := cs.flatMap String.utf8EncodeChar

lemma character_toNat (c : Char) : character c.toNat = some c := by
  have hc : c.toNat < 0xd800 ∨ 0xdfff < c.toNat ∧ c.toNat < 0x110000 := c.valid
  rw [character, if_neg (by omega), if_pos (by omega), Char.ofNat_toNat]

/-- One continuation byte that is not the last. -/
lemma utf8From_cont {owed acc low n : ℕ} {bs : Bytes} (hn : n < 0x40) :
    utf8From (owed + 2) acc low (UInt8.ofNat (n + 0x80) :: bs) =
      utf8From (owed + 1) (64 * acc + n) low bs := by
  have hb : (UInt8.ofNat (n + 0x80)).toNat = n + 0x80 := by
    rw [UInt8.toNat_ofNat']
    omega
  rw [utf8From, hb, if_neg (by omega), if_neg (by omega), Nat.add_sub_cancel]

/-- The last continuation byte of a character. -/
lemma utf8From_last {acc low n : ℕ} {c : Char} {bs : Bytes} (hn : n < 0x40)
    (hc : 64 * acc + n = c.toNat) (hlow : low ≤ c.toNat) :
    utf8From 1 acc low (UInt8.ofNat (n + 0x80) :: bs) = (utf8From 0 0 0 bs).map (c :: ·) := by
  have hb : (UInt8.ofNat (n + 0x80)).toNat = n + 0x80 := by
    rw [UInt8.toNat_ofNat']
    omega
  rw [utf8From, hb, if_neg (by omega), if_pos rfl, Nat.add_sub_cancel, hc, if_neg (by omega),
    character_toNat]
  rfl

/-- A character is decoded from the bytes that encode it. -/
lemma utf8From_encodeChar (c : Char) (bs : Bytes) :
    utf8From 0 0 0 (String.utf8EncodeChar c ++ bs) = (utf8From 0 0 0 bs).map (c :: ·) := by
  have hc : c.toNat < 0xd800 ∨ 0xdfff < c.toNat ∧ c.toNat < 0x110000 := c.valid
  have hv : c.val.toNat = c.toNat := rfl
  have hbyte : ∀ n < 256, (UInt8.ofNat n).toNat = n := by
    intro n hn
    rw [UInt8.toNat_ofNat']
    omega
  unfold String.utf8EncodeChar
  dsimp only
  rw [hv]
  split_ifs with h₁ h₂ h₃
  · rw [List.cons_append, List.nil_append, utf8From, hbyte _ (by omega), if_pos (by omega),
      Char.ofNat_toNat]
  · rw [List.cons_append, List.cons_append, List.nil_append, utf8From, hbyte _ (by omega),
      if_neg (by omega), if_pos (by omega)]
    exact utf8From_last (by omega) (by omega) (by omega)
  · rw [List.cons_append, List.cons_append, List.cons_append, List.nil_append, utf8From,
      hbyte _ (by omega), if_neg (by omega), if_neg (by omega), if_pos (by omega),
      utf8From_cont (by omega)]
    exact utf8From_last (by omega) (by omega) (by omega)
  · rw [List.cons_append, List.cons_append, List.cons_append, List.cons_append, List.nil_append,
      utf8From, hbyte _ (by omega), if_neg (by omega), if_neg (by omega), if_neg (by omega),
      if_pos (by omega), utf8From_cont (by omega), utf8From_cont (by omega)]
    exact utf8From_last (by omega) (by omega) (by omega)

/-- **Decoding inverts encoding.** -/
theorem utf8_encodeUtf8 (cs : List Char) : utf8 (encodeUtf8 cs) = some cs := by
  induction cs with
  | nil => rfl
  | cons c cs ih =>
      have hcons : encodeUtf8 (c :: cs) = String.utf8EncodeChar c ++ encodeUtf8 cs :=
        List.flatMap_cons
      rw [utf8, hcons, utf8From_encodeChar, ← utf8, ih]
      rfl

/-- `bytes.decode("utf-8")`: the text that these bytes are the encoding of. -/
def decodeUtf8 (bs : Bytes) : Option (List Char) := (utf8 bs).filter fun cs => encodeUtf8 cs = bs

lemma decodeUtf8_eq_some_iff {bs : Bytes} {cs : List Char} :
    decodeUtf8 bs = some cs ↔ encodeUtf8 cs = bs := by
  rw [decodeUtf8, Option.filter_eq_some_iff, decide_eq_true_eq]
  constructor
  · exact And.right
  · rintro rfl
    exact ⟨utf8_encodeUtf8 cs, rfl⟩

/-- ASCII is encoded as it is. -/
lemma encodeUtf8_ascii {cs : List Char} (h : ∀ c ∈ cs, c.toNat < 0x80) :
    encodeUtf8 cs = cs.map fun c => UInt8.ofNat c.toNat := by
  induction cs with
  | nil => rfl
  | cons c cs ih =>
      have hc : c.val.toNat ≤ 0x7f := Nat.le_of_lt_succ (h c List.mem_cons_self)
      have hone : String.utf8EncodeChar c = [UInt8.ofNat c.toNat] := by
        rw [String.utf8EncodeChar, if_pos hc]
        rfl
      rw [encodeUtf8, List.flatMap_cons, hone, List.map_cons, ← encodeUtf8,
        ih fun c hc => h c (List.mem_cons_of_mem _ hc)]
      rfl

/-! ### Replacing what is not UTF-8 -/

/-- A sequence that has begun: how many bytes are owed, what they add up to so far, and the bounds of
the next one. -/
structure Pending where
  owed : ℕ
  acc : ℕ
  low : ℕ
  high : ℕ

/-- The replacement character. -/
def replacement : Char := Char.ofNat 0xfffd

/-- A byte at which no sequence is pending. -/
def leadByte (b : UInt8) : List Char × Option Pending :=
  let n := b.toNat
  if n < 0x80 then ([Char.ofNat n], none)
  else if 0xc2 ≤ n ∧ n < 0xe0 then ([], some ⟨1, n - 0xc0, 0x80, 0xbf⟩)
  else if 0xe0 ≤ n ∧ n < 0xf0 then
    ([], some ⟨2, n - 0xe0, if n = 0xe0 then 0xa0 else 0x80, if n = 0xed then 0x9f else 0xbf⟩)
  else if 0xf0 ≤ n ∧ n < 0xf5 then
    ([], some ⟨3, n - 0xf0, if n = 0xf0 then 0x90 else 0x80, if n = 0xf4 then 0x8f else 0xbf⟩)
  else ([replacement], none)

/-- The next byte: a sequence that it does not continue is replaced as a whole. -/
def nextByte : Option Pending → UInt8 → List Char × Option Pending
  | none, b => leadByte b
  | some p, b =>
      let n := b.toNat
      if p.low ≤ n ∧ n ≤ p.high then
        let acc := 64 * p.acc + (n - 0x80)
        if p.owed = 1 then ([Char.ofNat acc], none) else ([], some ⟨p.owed - 1, acc, 0x80, 0xbf⟩)
      else (replacement :: (leadByte b).1, (leadByte b).2)

/-- The rest of the text. -/
def utf8ReplaceFrom : Option Pending → Bytes → List Char
  | none, [] => []
  | some _, [] => [replacement]
  | p, b :: bs => (nextByte p b).1 ++ utf8ReplaceFrom (nextByte p b).2 bs

/-- `bytes.decode("utf-8", errors="replace")`. -/
def utf8Replace (bs : Bytes) : String := String.ofList (utf8ReplaceFrom none bs)

/-! ## Latin-1 -/

/-- `bytes.decode("latin-1")`. -/
def latin1 (bs : Bytes) : String := String.ofList (bs.map fun b => Char.ofNat b.toNat)

/-- Every character has a code below 256: `str.encode("latin-1")` does not raise. -/
def isLatin1 (s : String) : Bool := s.toList.all fun c => c.toNat < 0x100

/-- `str.isascii()`. -/
def isAscii (s : String) : Bool := s.toList.all fun c => c.toNat < 0x80

/-- `str.encode("latin-1")`, of a text that is. -/
def encodeLatin1 (s : String) : Bytes := s.toList.map fun c => UInt8.ofNat c.toNat

/-- A text in Latin-1 is what its bytes are decoded to. -/
lemma map_encodeLatin1 {s : String} (h : isLatin1 s) :
    (encodeLatin1 s).map (fun b => Char.ofNat b.toNat) = s.toList := by
  rw [isLatin1, List.all_eq_true] at h
  rw [encodeLatin1, List.map_map]
  refine (List.map_congr_left fun c hc => ?_).trans (List.map_id _)
  have hlt : c.toNat < 0x100 := of_decide_eq_true (h c hc)
  show Char.ofNat (UInt8.ofNat c.toNat).toNat = c
  rw [UInt8.toNat_ofNat', Nat.mod_eq_of_lt hlt, Char.ofNat_toNat]

/-- **A phrase of ASCII** that is read where a text in Latin-1 is taken for UTF-8 is in the text. -/
lemma infix_of_decodeUtf8 {s : String} {cs p : List Char} (hs : isLatin1 s)
    (hp : ∀ c ∈ p, c.toNat < 0x80) (hcs : decodeUtf8 (encodeLatin1 s) = some cs)
    (h : p <:+: cs) : p <:+: s.toList := by
  obtain ⟨front, rest, rfl⟩ := h
  have hbytes := decodeUtf8_eq_some_iff.mp hcs
  have hself : (p.map fun c => UInt8.ofNat c.toNat).map (fun b => Char.ofNat b.toNat) = p := by
    rw [List.map_map]
    refine (List.map_congr_left fun c hc => ?_).trans (List.map_id _)
    have hlt := hp c hc
    show Char.ofNat (UInt8.ofNat c.toNat).toNat = c
    rw [UInt8.toNat_ofNat', Nat.mod_eq_of_lt (by omega), Char.ofNat_toNat]
  rw [encodeUtf8, List.flatMap_append, List.flatMap_append, ← encodeUtf8, ← encodeUtf8,
    encodeUtf8_ascii hp] at hbytes
  refine ⟨(encodeUtf8 front).map fun b => Char.ofNat b.toNat,
    (encodeUtf8 rest).map fun b => Char.ofNat b.toNat, ?_⟩
  rw [← map_encodeLatin1 hs, ← hbytes, List.map_append, List.map_append, hself]
  rfl

/-! ## UTF-16 and UTF-32 -/

/-- The code units of two bytes each. -/
def units16 (bigEndian : Bool) : Bytes → Option (List ℕ)
  | [] => some []
  | [_] => none
  | a :: b :: bs =>
      let unit := if bigEndian then 256 * a.toNat + b.toNat else 256 * b.toNat + a.toNat
      (units16 bigEndian bs).map (unit :: ·)

def isHighSurrogate (n : ℕ) : Bool := 0xd800 ≤ n && n ≤ 0xdbff

def isLowSurrogate (n : ℕ) : Bool := 0xdc00 ≤ n && n ≤ 0xdfff

/-- The code point of a surrogate pair. -/
def joinSurrogates (high low : ℕ) : ℕ := 0x10000 + 0x400 * (high - 0xd800) + (low - 0xdc00)

def utf16Units : List ℕ → Option (List Char)
  | [] => some []
  | [u] => (character u).map ([·])
  | u :: v :: units =>
      if isHighSurrogate u && isLowSurrogate v then
        (character (joinSurrogates u v)).bind fun c => (utf16Units units).map (c :: ·)
      else (character u).bind fun c => (utf16Units (v :: units)).map (c :: ·)

def utf16 (bigEndian : Bool) (bs : Bytes) : Option (List Char) :=
  (units16 bigEndian bs).bind utf16Units

def utf32 (bigEndian : Bool) : Bytes → Option (List Char)
  | [] => some []
  | a :: b :: c :: d :: bs =>
      let n :=
        if bigEndian then 256 * (256 * (256 * a.toNat + b.toNat) + c.toNat) + d.toNat
        else 256 * (256 * (256 * d.toNat + c.toNat) + b.toNat) + a.toNat
      (character n).bind fun ch => (utf32 bigEndian bs).map (ch :: ·)
  | _ => none

/-! ## The encoding of a JSON document -/

inductive Encoding
  | utf8 | utf8Sig | utf16 | utf16Be | utf16Le | utf32 | utf32Be | utf32Le
  deriving DecidableEq

/-- `json.detect_encoding`. -/
def detectEncoding (b : Bytes) : Encoding :=
  if [0x00, 0x00, 0xfe, 0xff] <+: b ∨ [0xff, 0xfe, 0x00, 0x00] <+: b then .utf32
  else if [0xfe, 0xff] <+: b ∨ [0xff, 0xfe] <+: b then .utf16
  else if [0xef, 0xbb, 0xbf] <+: b then .utf8Sig
  else
    match b with
    | b₀ :: b₁ :: b₂ :: b₃ :: _ =>
        if b₀ = 0 then if b₁ = 0 then .utf32Be else .utf16Be
        else if b₁ = 0 then if b₂ = 0 ∧ b₃ = 0 then .utf32Le else .utf16Le
        else .utf8
    | [b₀, b₁] => if b₀ = 0 then .utf16Be else if b₁ = 0 then .utf16Le else .utf8
    | _ => .utf8

/-- `b.decode(detect_encoding(b), "surrogatepass")`.  The encodings that are named without a byte
order take it from the mark, which is not part of the text. -/
def decodeJson (b : Bytes) : Option (List Char) :=
  match detectEncoding b with
  | .utf8 => utf8 b
  | .utf8Sig => utf8 (b.drop 3)
  | .utf16 => utf16 ([0xfe, 0xff] <+: b) (b.drop 2)
  | .utf16Be => utf16 true b
  | .utf16Le => utf16 false b
  | .utf32 => utf32 ([0x00, 0x00, 0xfe, 0xff] <+: b) (b.drop 4)
  | .utf32Be => utf32 true b
  | .utf32Le => utf32 false b

/-- A document that begins with two ASCII characters is read as UTF-8. -/
lemma detectEncoding_ascii {b₀ b₁ : UInt8} {bs : Bytes} (h₀ : b₀ ≠ 0) (h₀' : b₀ < 0x80)
    (h₁ : b₁ ≠ 0) : detectEncoding (b₀ :: b₁ :: bs) = .utf8 := by
  have hne : ∀ b : UInt8, 0x80 ≤ b → b ≠ b₀ := by
    rintro b hb rfl
    exact absurd h₀' (UInt8.not_lt.mpr hb)
  have hfe := hne 0xfe (by decide)
  have hff := hne 0xff (by decide)
  have hef := hne 0xef (by decide)
  unfold detectEncoding
  simp only [List.cons_prefix_cons, hfe, hff, hef, h₀.symm, false_and, or_self, if_false]
  split
  · rename_i heq
    obtain ⟨rfl, rfl, -⟩ : b₀ = _ ∧ b₁ = _ ∧ _ := by simpa using heq
    rw [if_neg h₀, if_neg h₁]
  · rename_i heq
    obtain ⟨rfl, rfl, -⟩ : b₀ = _ ∧ b₁ = _ ∧ _ := by simpa using heq
    rw [if_neg h₀, if_neg h₁]
  · rfl

end Codec
