import SpeakrRunpod.Adapter.PodMapping
import SpeakrRunpod.Core.Lines
import SpeakrRunpod.Core.Utf8Cut

/-!
# The log lines of a pod

`adapter/pod_logs.py`: the lines of the log files that the wrapper hands over, and what the adapter
emits of them.

* `linesFromBundle`, `emitCaptureLines` — the two helpers of the drain.
* `Capped` — what the cap on a line asks; `capLine_capped_iff` says when it is met.
* `emitted_capped_iff` — the same for all that is emitted.
-/

namespace SpeakrRunpod

open Codec (encodeUtf8)

/-! ## The drain -/

/-- The entries of one file of the bundle. -/
def fileLines (item : Json) : List (String × String) :=
  match item with
  | .obj fields =>
      match Json.get fields "name", Json.get fields "content" with
      | .str name, .str content => (PyText.splitlines content).map fun rawLine => (name, rawLine)
      | _, _ => []
  | _ => []

/-- `_lines_from_bundle`. -/
def linesFromBundle (bundle : List (String × Json)) : List (String × String) :=
  match Json.get bundle "files" with
  | .arr files => files.flatMap fileLines
  | _ => []

def truncationSuffix : String := "…[truncated]"

def truncationSuffixBytes : ℕ := (encodeUtf8 truncationSuffix.toList).length

def defaultEmitMaxLineBytes : ℤ := 65536

/-- `limit`. -/
def emitLimit (maxLineBytes : Option ℤ) : ℕ :=
  (max 256 (maxLineBytes.getD defaultEmitMaxLineBytes)).toNat

/-- What is left of a line: one that is too long is cut, with room for the suffix. -/
def capLine (limit : ℕ) (rawLine : String) : String :=
  let encoded := encodeUtf8 rawLine.toList
  if limit < encoded.length then
    Codec.utf8Replace (encoded.take (max 1 (limit - truncationSuffixBytes))) ++ truncationSuffix
  else rawLine

/-- What stands before the line in a record. -/
def capturePrefix (podId logFile : String) : String :=
  "pod_id=" ++ podId ++ " log_file=" ++ logFile ++ " "

/-- `_emit_capture_lines`: the messages of the records that it logs. -/
def emitCaptureLines (podId : String) (entries : List (String × String))
    (maxLineBytes : Option ℤ) : List String :=
  entries.map fun entry =>
    capturePrefix podId entry.1 ++ capLine (emitLimit maxLineBytes) entry.2

/-! ## The cap -/

/-- The length of a text in UTF-8. -/
abbrev byteLength (s : String) : ℕ := (encodeUtf8 s.toList).length

/-- **What the cap asks of a line.**  In place of a character that is cut in two there may stand the
replacement character. -/
structure Capped (limit : ℕ) (rawLine emitted : String) : Prop where
  bound : byteLength emitted ≤ limit
  unchanged : byteLength rawLine ≤ limit → emitted = rawLine
  cut : limit < byteLength rawLine → ∃ front, front <+: rawLine.toList ∧
    (emitted = String.ofList front ++ truncationSuffix ∨
      ∃ c, front ++ [c] <+: rawLine.toList ∧ 1 < c.utf8Size ∧
        emitted = String.ofList (front ++ [Codec.replacement]) ++ truncationSuffix)

/-- The first `cut` bytes of a line end with `kept` bytes of a character that has more. -/
def CutKeeps (rawLine : String) (cut kept : ℕ) : Prop :=
  ∃ front c rest, rawLine.toList = front ++ c :: rest ∧ cut = (encodeUtf8 front).length + kept ∧
    kept < c.utf8Size

/-- The line is cut after the first or the second byte of a character that has more. -/
def CutTooEarly (limit : ℕ) (rawLine : String) : Prop :=
  limit < byteLength rawLine ∧
    (CutKeeps rawLine (limit - truncationSuffixBytes) 1 ∨
      CutKeeps rawLine (limit - truncationSuffixBytes) 2)

lemma truncationSuffixBytes_eq : truncationSuffixBytes = 14 := by decide

lemma le_emitLimit (maxLineBytes : Option ℤ) : 256 ≤ emitLimit maxLineBytes := by
  rw [emitLimit]
  omega

/-- A line that is too long is cut in one of its characters, and so is what is emitted. -/
lemma capLine_long {limit : ℕ} {rawLine : String} (hlimit : 256 ≤ limit)
    (h : limit < byteLength rawLine) :
    ∃ front c rest kept, rawLine.toList = front ++ c :: rest ∧
      limit - truncationSuffixBytes = (encodeUtf8 front).length + kept ∧ kept < c.utf8Size ∧
        capLine limit rawLine =
          String.ofList (front ++ if kept = 0 then [] else [Codec.replacement]) ++
            truncationSuffix := by
  have hcut : max 1 (limit - truncationSuffixBytes) = limit - truncationSuffixBytes := by
    rw [truncationSuffixBytes_eq]
    omega
  obtain ⟨front, c, rest, kept, hline, hn, hkept⟩ :=
    Codec.cut_cases (Nat.lt_of_le_of_lt (Nat.sub_le limit truncationSuffixBytes) h)
  refine ⟨front, c, rest, kept, hline, hn, by simpa using hkept, ?_⟩
  have hlong : limit < (encodeUtf8 rawLine.toList).length := h
  rw [capLine, if_pos hlong, hcut, hn, hline, Codec.utf8Replace, Codec.decode_take front c rest hkept]

/-- The replacement character takes three bytes, so that the cut of a line is as long as its front and
the suffix, and what is left of the character that is cut. -/
lemma byteLength_cut (front : List Char) (kept : ℕ) :
    byteLength (String.ofList (front ++ if kept = 0 then [] else [Codec.replacement]) ++
        truncationSuffix) =
      (encodeUtf8 front).length + (if kept = 0 then 0 else 3) + truncationSuffixBytes := by
  have hreplacement : (encodeUtf8 [Codec.replacement]).length = 3 := by decide
  rw [byteLength, String.toList_append, String.toList_ofList, Codec.encodeUtf8_append,
    Codec.encodeUtf8_append, List.length_append, List.length_append, ← truncationSuffixBytes]
  split_ifs
  · simp [encodeUtf8]
  · rw [hreplacement]

/-- **A line is capped, unless it is cut too early in a character.** -/
theorem capLine_capped_iff {limit : ℕ} (hlimit : 256 ≤ limit) (rawLine : String) :
    Capped limit rawLine (capLine limit rawLine) ↔ ¬ CutTooEarly limit rawLine := by
  rcases Nat.lt_or_ge limit (byteLength rawLine) with hlong | hfits
  · obtain ⟨front, c, rest, kept, hline, hcut, hkept, hcap⟩ := capLine_long hlimit hlong
    have hsuffix := truncationSuffixBytes_eq
    have hsize := Char.utf8Size_le_four c
    have hlength : byteLength (capLine limit rawLine) =
        limit - kept + if kept = 0 then 0 else 3 := by
      rw [hcap, byteLength_cut]
      omega
    have hkeeps : ∀ n, CutKeeps rawLine (limit - truncationSuffixBytes) n ↔ n = kept := by
      intro n
      constructor
      · rintro ⟨front', c', rest', hline', hcut', hn⟩
        exact (Codec.cut_unique (hline'.symm.trans hline) (by omega) hn hkept).2
      · rintro rfl
        exact ⟨front, c, rest, hline, hcut, hkept⟩
    rw [CutTooEarly, hkeeps, hkeeps]
    constructor
    · rintro ⟨hbound, -, -⟩ ⟨-, hearly⟩
      rw [hlength] at hbound
      split_ifs at hbound <;> omega
    · intro hearly
      refine ⟨?_, fun hfits => absurd hlong (by omega), fun _ => ?_⟩
      · rw [hlength]
        split_ifs <;> omega
      · refine ⟨front, ⟨c :: rest, hline.symm⟩, ?_⟩
        by_cases hzero : kept = 0
        · exact .inl (by rw [hcap, if_pos hzero, List.append_nil])
        · refine .inr ⟨c, ⟨rest, by rw [hline]; simp⟩, by omega, ?_⟩
          rw [hcap, if_neg hzero]
  · have hsame : capLine limit rawLine = rawLine := by
      have hnot : ¬ limit < (encodeUtf8 rawLine.toList).length := by
        rw [← byteLength]
        omega
      rw [capLine, if_neg hnot]
    rw [hsame]
    constructor
    · rintro - ⟨hlong, -⟩
      omega
    · exact fun _ => ⟨hfits, fun _ => rfl, fun hlong => absurd hlong (by omega)⟩

/-- **What is asked of the lines that are emitted**: a record for each entry, in order, with a capped
line after the prefix. -/
def EmitsCapped (podId : String) (entries : List (String × String)) (maxLineBytes : Option ℤ) :
    Prop :=
  List.Forall₂ (fun entry message => ∃ emitted, message = capturePrefix podId entry.1 ++ emitted ∧
    Capped (emitLimit maxLineBytes) entry.2 emitted) entries
      (emitCaptureLines podId entries maxLineBytes)

lemma emitsCapped_iff_forall (podId : String) (entries : List (String × String))
    (maxLineBytes : Option ℤ) :
    EmitsCapped podId entries maxLineBytes ↔
      ∀ entry ∈ entries, Capped (emitLimit maxLineBytes) entry.2
        (capLine (emitLimit maxLineBytes) entry.2) := by
  rw [EmitsCapped, emitCaptureLines, List.forall₂_map_right_iff, List.forall₂_same]
  refine forall₂_congr fun entry _ => ⟨?_, fun h => ⟨_, rfl, h⟩⟩
  rintro ⟨emitted, hmessage, hcapped⟩
  rwa [(String.append_right_inj _).mp hmessage]

/-- **The lines that are emitted are capped, unless one is cut too early in a character.** -/
theorem emitted_capped_iff (podId : String) (entries : List (String × String))
    (maxLineBytes : Option ℤ) :
    EmitsCapped podId entries maxLineBytes ↔
      ∀ entry ∈ entries, ¬ CutTooEarly (emitLimit maxLineBytes) entry.2 := by
  rw [emitsCapped_iff_forall]
  exact forall₂_congr fun entry _ => capLine_capped_iff (le_emitLimit _) entry.2

/-- A line of ASCII but for one character of two bytes. -/
def accentedLine (before after : ℕ) : String :=
  String.ofList (List.replicate before 'x' ++ 'é' :: List.replicate after 'x')

lemma length_replicate_x (n : ℕ) : (encodeUtf8 (List.replicate n 'x')).length = n := by
  have hx : 'x'.utf8Size = 1 := by decide
  rw [Codec.length_encodeUtf8, List.map_replicate, hx, List.sum_replicate, smul_eq_mul, mul_one]

lemma accentedLine_cutTooEarly {limit before after : ℕ}
    (hcut : limit - truncationSuffixBytes = before + 1) (hlong : limit < before + 2 + after) :
    CutTooEarly limit (accentedLine before after) := by
  have he : 'é'.utf8Size = 2 := by decide
  refine ⟨?_, .inl ⟨List.replicate before 'x', 'é', List.replicate after 'x',
    String.toList_ofList, ?_, by rw [he]; omega⟩⟩
  · rw [byteLength, accentedLine, String.toList_ofList, Codec.encodeUtf8_append,
      Codec.encodeUtf8_cons, List.length_append, List.length_append, length_replicate_x,
      length_replicate_x, String.length_utf8EncodeChar, he]
    omega
  · rw [length_replicate_x, hcut]

/-- **A line of 258 bytes is emitted where 256 are allowed.** -/
theorem accented_line_exceeds :
    ¬ EmitsCapped "pid" [("whisperx-stdout.log", accentedLine 241 100)] (some 256) := by
  have hlimit : emitLimit (some 256) = 256 := by decide
  rw [emitsCapped_iff_forall, List.forall_mem_singleton, hlimit,
    capLine_capped_iff (Nat.le_refl 256), not_not]
  exact accentedLine_cutTooEarly (by rw [truncationSuffixBytes_eq]) (by omega)

end SpeakrRunpod
