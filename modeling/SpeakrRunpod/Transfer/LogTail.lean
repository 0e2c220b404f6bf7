import SpeakrRunpod.Adapter.PodLogs
import SpeakrRunpod.Wrapper.Server

/-!
# The tail of a log file

The wrapper hands over the last bytes of each log file, decoded; the adapter splits what it gets into
lines.  The cut may fall inside a character, and between the two characters of one line break.

* `podLogsBundle` — what the wrapper answers with, as the adapter reads it.
* `KeepsLines` — what is asked of the lines of a tail: no complete line is lost.
* `tail_keeps_lines` — the two programs together meet it.
-/

namespace SpeakrRunpod

open Codec (encodeUtf8)
open PyText

/-- `_tail_utf8_text`, for any integer. -/
def tailUtf8TextOf (content : Bytes) (maxBytes : ℤ) : String :=
  if maxBytes ≤ 0 then ""
  else
    let start := max 0 ((content.length : ℤ) - maxBytes)
    Codec.utf8Replace (content.drop start.toNat)

/-- For the limits that the handler is configured with, it is what the handler computes. -/
lemma tailUtf8TextOf_natCast (content : Bytes) (maxBytes : ℕ) :
    tailUtf8TextOf content maxBytes = tailUtf8Text content maxBytes := by
  have hstart : (max 0 ((content.length : ℤ) - (maxBytes : ℤ))).toNat =
      content.length - maxBytes := by
    omega
  simp [tailUtf8TextOf, tailUtf8Text, hstart]

lemma tailUtf8TextOf_pos (content : Bytes) {maxBytes : ℤ} (h : 0 < maxBytes) :
    tailUtf8TextOf content maxBytes =
      Codec.utf8Replace (content.drop ((content.length : ℤ) - maxBytes).toNat) := by
  have hstart : (max 0 ((content.length : ℤ) - maxBytes)).toNat =
      ((content.length : ℤ) - maxBytes).toNat := by
    omega
  simp [tailUtf8TextOf, not_le.mpr h, hstart]

/-- `{"files": files_out}`, as the adapter parses it. -/
def podLogsBundle (files : List LogFile) : List (String × Json) :=
  [("files", .arr (files.map fun file =>
    .obj [("name", .str file.name), ("content", .str file.content)]))]

/-- Each file has its own lines. -/
lemma linesFromBundle_podLogsBundle (files : List LogFile) :
    linesFromBundle (podLogsBundle files) =
      files.flatMap fun file => (splitlines file.content).map fun line => (file.name, line) := by
  rw [linesFromBundle, podLogsBundle, Json.get]
  simp only [List.lookup_cons_self, Option.getD_some, List.flatMap_map]
  rfl

/-- **What is asked of the lines of a tail.**  `lines` are those of the last `maxBytes` bytes of the
file. -/
structure KeepsLines (content : List Char) (maxBytes : ℤ) (lines : List String) : Prop where
  whole : ((encodeUtf8 content).length : ℤ) ≤ maxBytes →
    lines = splitlines (String.ofList content)
  suffix : maxBytes < (encodeUtf8 content).length →
    lines.tail <:+ splitlines (String.ofList content)
  /-- What is dropped starts before the end of the first line break inside the last bytes. -/
  complete : maxBytes < (encodeUtf8 content).length → ∃ dropped kept,
    linesAt Char.utf8Size 0 content = dropped ++ kept ∧
      lines.tail = kept.map (fun line => String.ofList line.2) ∧
        ∀ b, (breaksAt Char.utf8Size 0 content).find? (fun b =>
            ((encodeUtf8 content).length : ℤ) - maxBytes ≤ b.last) = some b →
          ∀ line ∈ dropped, line.1 < b.stop

/-! ## A cut between two characters -/

lemma extent_utf8 (cs : List Char) : extent Char.utf8Size cs = (encodeUtf8 cs).length :=
  (Codec.length_encodeUtf8 cs).symm

/-- **A text that is cut between two characters**: the lines after the first of the rest are those
after the first line break of the rest. -/
lemma cut_between (front rest : List Char) : ∃ dropped kept,
    linesAt Char.utf8Size 0 (front ++ rest) = dropped ++ kept ∧
      kept.map Prod.snd = (splitLines rest).tail ∧
        ∀ b, (breaksAt Char.utf8Size (extent Char.utf8Size front) rest).head? = some b →
          ∀ line ∈ dropped, line.1 < b.stop := by
  have hsize : ∀ c : Char, 0 < c.utf8Size := Char.utf8Size_pos
  cases hbreaks : breaksAt Char.utf8Size (extent Char.utf8Size front) rest with
  | nil =>
      refine ⟨_, [], (List.append_nil _).symm, ?_, by simp⟩
      rw [splitLines_tail_nil hbreaks, List.map_nil]
  | cons b bs =>
      obtain ⟨first, after, rfl, hstop, htail⟩ := splitLines_tail hbreaks
      have hmem : b ∈ breaksAt Char.utf8Size 0 (front ++ (first ++ after)) := by
        have hfilter := breaksAt_filter hsize 0 front (first ++ after)
        rw [Nat.zero_add, hbreaks] at hfilter
        exact (List.mem_filter.mp (hfilter ▸ List.mem_cons_self)).1
      obtain ⟨front', after', hsplit, hstop', hlines⟩ := linesAt_of_break hsize hmem
      obtain ⟨rfl, rfl⟩ : front ++ first = front' ∧ after = after' := by
        rw [← List.append_assoc] at hsplit
        refine append_inj_extent hsize hsplit ?_
        rw [Nat.zero_add] at hstop'
        rw [extent_append, ← hstop, hstop']
      refine ⟨_, _, hlines, by rw [map_snd_linesAt, htail], ?_⟩
      intro b' hb' line hline
      obtain rfl : b = b' := by simpa using hb'
      have hlt := lt_of_mem_linesAt hsize hline
      rwa [← hstop'] at hlt

/-- **A text that is cut inside a character**: its line breaks after the cut are those after the
character. -/
lemma breaks_cut_inside (front rest : List Char) {c : Char} {kept : ℕ} (hpos : 0 < kept)
    (hkept : kept < c.utf8Size) :
    (breaksAt Char.utf8Size 0 (front ++ c :: rest)).filter
        ((encodeUtf8 front).length + kept ≤ ·.last) =
      breaksAt Char.utf8Size (extent Char.utf8Size (front ++ [c])) rest := by
  have hsize : ∀ c : Char, 0 < c.utf8Size := Char.utf8Size_pos
  have hfront : (breaksAt Char.utf8Size 0 (front ++ c :: rest)).filter
      ((encodeUtf8 front).length + kept ≤ ·.last) =
        (breaksAt Char.utf8Size (extent Char.utf8Size front) (c :: rest)).filter
          ((encodeUtf8 front).length + kept ≤ ·.last) := by
    have hfilter := breaksAt_filter hsize 0 front (c :: rest)
    rw [Nat.zero_add] at hfilter
    rw [← hfilter, List.filter_filter, extent_utf8]
    refine List.filter_congr fun b _ => ?_
    simp
    omega
  have hlater : ∀ b ∈ breaksAt Char.utf8Size (extent Char.utf8Size (front ++ [c])) rest,
      decide ((encodeUtf8 front).length + kept ≤ b.last) = true := by
    intro b hb
    have hlast := (le_last_of_mem_breaksAt hsize hb).1
    rw [extent_append, extent_utf8] at hlast
    simp at hlast ⊢
    omega
  have hnext : extent Char.utf8Size (front ++ [c]) = extent Char.utf8Size front + c.utf8Size := by
    simp
  rw [hfront]
  cases hc : isLineBreak c with
  | false => rw [breaksAt_char hc, ← hnext, List.filter_eq_self.mpr hlater]
  | true =>
      -- The break is a character of several bytes, so that it is not a carriage return.
      have hcr : ∀ cs', c = '\r' → rest = '\n' :: cs' → False := by
        rintro cs' rfl -
        have hone : '\r'.utf8Size = 1 := by decide
        omega
      rw [breaksAt_single hc hcr, ← hnext, List.filter_cons_of_neg,
        List.filter_eq_self.mpr hlater]
      rw [extent_utf8]
      simp
      omega

/-- What stands for the bytes of a character that is cut belongs to the first line. -/
lemma splitLines_tail_replacement (n : ℕ) (rest : List Char) :
    (splitLines (List.replicate n Codec.replacement ++ rest)).tail = (splitLines rest).tail := by
  induction n with
  | zero => rfl
  | succ n ih =>
      have hreplacement : isLineBreak Codec.replacement = false := by decide
      rw [List.replicate_succ, List.cons_append, splitLines_tail_char hreplacement, ih]

/-! ## The two programs -/

section Tail

variable {content : List Char} {maxBytes : ℤ}

/-- It is enough to say where the file is cut. -/
lemma KeepsLines.of_cut {text : List Char} {dropped kept : List (ℕ × List Char)}
    (hlong : maxBytes < (encodeUtf8 content).length)
    (hlines : linesAt Char.utf8Size 0 content = dropped ++ kept)
    (htail : kept.map Prod.snd = (splitLines text).tail)
    (hdropped : ∀ b, (breaksAt Char.utf8Size 0 content).find? (fun b =>
        ((encodeUtf8 content).length : ℤ) - maxBytes ≤ b.last) = some b →
      ∀ line ∈ dropped, line.1 < b.stop) :
    KeepsLines content maxBytes (splitlines (String.ofList text)) := by
  have hkept : (splitlines (String.ofList text)).tail =
      kept.map fun line => String.ofList line.2 := by
    rw [splitlines, String.toList_ofList, ← List.map_tail, ← htail, List.map_map]
    rfl
  have hsnd : (linesAt Char.utf8Size 0 content).map Prod.snd = splitLines content :=
    map_snd_linesAt 0 content
  refine ⟨fun hshort => absurd hlong (by omega), fun _ => ?_, fun _ => ?_⟩
  · rw [hkept, splitlines, String.toList_ofList, ← hsnd, hlines,
      List.map_append, List.map_append, List.map_map, List.map_map]
    exact List.suffix_append _ _
  · exact ⟨dropped, kept, hlines, hkept, hdropped⟩

/-- A file that is short enough is handed over as it is. -/
lemma keepsLines_short (h : ((encodeUtf8 content).length : ℤ) ≤ maxBytes) :
    KeepsLines content maxBytes
      (splitlines (tailUtf8TextOf (encodeUtf8 content) maxBytes)) := by
  have hwhole : tailUtf8TextOf (encodeUtf8 content) maxBytes = String.ofList content := by
    rcases le_or_gt maxBytes 0 with hmax | hmax
    · have hnil : content = [] := by
        cases content with
        | nil => rfl
        | cons c cs =>
            have hpos := Char.utf8Size_pos c
            rw [Codec.length_encodeUtf8, List.map_cons, List.sum_cons] at h
            omega
      rw [hnil, tailUtf8TextOf, if_pos hmax]
    · have hstart : (((encodeUtf8 content).length : ℤ) - maxBytes).toNat = 0 := by omega
      have hdecode := Codec.decode_encode content []
      rw [List.append_nil] at hdecode
      rw [tailUtf8TextOf_pos _ hmax, hstart, List.drop_zero, Codec.utf8Replace, hdecode]
      simp [Codec.utf8ReplaceFrom]
  rw [hwhole]
  exact ⟨fun _ => rfl, fun hlong => absurd hlong (by omega), fun hlong => absurd hlong (by omega)⟩

/-- Nothing is handed over where nothing is asked for. -/
lemma keepsLines_none (hmax : maxBytes ≤ 0) (h : maxBytes < (encodeUtf8 content).length) :
    KeepsLines content maxBytes
      (splitlines (tailUtf8TextOf (encodeUtf8 content) maxBytes)) := by
  have hempty : tailUtf8TextOf (encodeUtf8 content) maxBytes = String.ofList [] := by
    rw [tailUtf8TextOf, if_pos hmax]
  rw [hempty]
  refine KeepsLines.of_cut h (List.append_nil _).symm rfl fun b hb => ?_
  obtain ⟨front, rest, hcontent, hstop, -⟩ :=
    linesAt_of_break Char.utf8Size_pos (List.mem_of_find?_eq_some hb)
  have hlast := (le_last_of_mem_breaksAt Char.utf8Size_pos (List.mem_of_find?_eq_some hb)).2
  have hin : ((encodeUtf8 content).length : ℤ) - maxBytes ≤ b.last := by
    simpa using List.find?_some hb
  rw [← extent_utf8, hcontent, extent_append] at hin
  omega

/-- **A file that is cut.** -/
lemma keepsLines_cut (hmax : 0 < maxBytes) (h : maxBytes < (encodeUtf8 content).length) :
    KeepsLines content maxBytes
      (splitlines (tailUtf8TextOf (encodeUtf8 content) maxBytes)) := by
  have hn : (((encodeUtf8 content).length : ℤ) - maxBytes).toNat < (encodeUtf8 content).length := by
    omega
  obtain ⟨front, c, rest, kept, rfl, hcut, hkept⟩ := Codec.cut_cases hn
  -- The first line break inside the last bytes, in terms of the character that is cut.
  have hfirst : (breaksAt Char.utf8Size 0 (front ++ c :: rest)).find? (fun b =>
        ((encodeUtf8 (front ++ c :: rest)).length : ℤ) - maxBytes ≤ b.last) =
      ((breaksAt Char.utf8Size 0 (front ++ c :: rest)).filter
        ((encodeUtf8 front).length + kept ≤ ·.last)).head? := by
    rw [List.head?_filter]
    congr 1
    funext b
    rw [decide_eq_decide]
    omega
  rw [tailUtf8TextOf_pos _ hmax, hcut, Codec.utf8Replace, Codec.decode_drop _ _ _ hkept]
  rcases Nat.eq_zero_or_pos kept with rfl | hpos
  · obtain ⟨dropped, lines, hlines, htail, hdropped⟩ := cut_between front (c :: rest)
    rw [if_pos rfl, List.singleton_append]
    refine KeepsLines.of_cut h hlines htail fun b hb => hdropped b ?_
    have hfilter := breaksAt_filter Char.utf8Size_pos 0 front (c :: rest)
    rw [Nat.zero_add, extent_utf8] at hfilter
    rwa [hfirst, Nat.add_zero, hfilter, ← extent_utf8] at hb
  · obtain ⟨dropped, lines, hlines, htail, hdropped⟩ := cut_between (front ++ [c]) rest
    rw [List.append_assoc, List.singleton_append] at hlines
    rw [if_neg hpos.ne']
    refine KeepsLines.of_cut h hlines (htail.trans (splitLines_tail_replacement _ _).symm)
      fun b hb => hdropped b ?_
    rwa [hfirst, breaks_cut_inside front rest hpos hkept] at hb

end Tail

/-- **The lines of a tail are those of the file.** -/
lemma keepsLines (content : List Char) (maxBytes : ℤ) :
    KeepsLines content maxBytes
      (splitlines (tailUtf8TextOf (encodeUtf8 content) maxBytes)) := by
  rcases le_or_gt ((encodeUtf8 content).length : ℤ) maxBytes with hshort | hlong
  · exact keepsLines_short hshort
  · rcases le_or_gt maxBytes 0 with hmax | hmax
    · exact keepsLines_none hmax hlong
    · exact keepsLines_cut hmax hlong

/-- **No complete line of a log file is lost** between the wrapper and the adapter: whatever the other
files of the bundle are, its lines are there. -/
theorem tail_keeps_lines (content : List Char) (maxBytes : ℤ) (name : String)
    (before after : List LogFile) :
    ∃ lines, linesFromBundle (podLogsBundle
        (before ++ ⟨name, tailUtf8TextOf (encodeUtf8 content) maxBytes⟩ :: after)) =
        linesFromBundle (podLogsBundle before) ++ lines.map (fun line => (name, line)) ++
          linesFromBundle (podLogsBundle after) ∧ KeepsLines content maxBytes lines := by
  refine ⟨_, ?_, keepsLines content maxBytes⟩
  rw [linesFromBundle_podLogsBundle, linesFromBundle_podLogsBundle, linesFromBundle_podLogsBundle,
    List.flatMap_append, List.flatMap_cons, List.append_assoc]

end SpeakrRunpod
