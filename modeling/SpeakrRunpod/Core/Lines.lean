import SpeakrRunpod.Core.Text

/-!
# The lines of a text

`str.splitlines`, and where the lines and the line breaks of a text stand, counted in units of which
a character `c` takes `size c`.

* `splitLines`, `splitlines` — the lines, without their breaks.
* `linesAt`, `breaksAt` — the lines with their starts, and the line breaks.
* `splitLines_tail` — a text after its first line is what follows its first break;
  `linesAt_of_break` cuts a text at any of its breaks.
* `breaksAt_filter` — the breaks of a text after a front are those that it has for itself, also where
  the front ends between the two characters of one break.
-/

namespace PyText

/-- The characters at which `str.splitlines` ends a line. -/
def lineBreaks : List ℕ := [0xa, 0xb, 0xc, 0xd, 0x1c, 0x1d, 0x1e, 0x85, 0x2028, 0x2029]

def isLineBreak (c : Char) : Bool := lineBreaks.contains c.toNat

/-- A character before the first of some lines. -/
def consLine (c : Char) : List (List Char) → List (List Char)
  | [] => [[c]]
  | line :: lines => (c :: line) :: lines

/-- The lines of a text: a carriage return with a line feed after it is one break. -/
def splitLines : List Char → List (List Char)
  | [] => []
  | '\r' :: '\n' :: cs => [] :: splitLines cs
  | c :: cs => if isLineBreak c then [] :: splitLines cs else consLine c (splitLines cs)

/-- `str.splitlines()`. -/
def splitlines (s : String) : List String := (splitLines s.toList).map String.ofList

example : splitlines "one\r\ntwo\n\nthree" = ["one", "two", "", "three"] := by decide

/-! ## Where they stand -/

section Places

variable (size : Char → ℕ)

/-- The length of a text. -/
def extent (cs : List Char) : ℕ := (cs.map size).sum

@[simp] lemma extent_nil : extent size [] = 0 := rfl

@[simp] lemma extent_cons (c : Char) (cs : List Char) :
    extent size (c :: cs) = size c + extent size cs := by
  simp [extent]

@[simp] lemma extent_append (cs ds : List Char) :
    extent size (cs ++ ds) = extent size cs + extent size ds := by
  simp [extent]

/-- A character before the first of some lines, which starts there. -/
def consLineAt (start : ℕ) (c : Char) : List (ℕ × List Char) → List (ℕ × List Char)
  | [] => [(start, [c])]
  | line :: lines => (start, c :: line.2) :: lines

/-- The lines of a text that begins at `start`, each with its own start. -/
def linesAt (start : ℕ) : List Char → List (ℕ × List Char)
  | [] => []
  | '\r' :: '\n' :: cs => (start, []) :: linesAt (start + size '\r' + size '\n') cs
  | c :: cs =>
      if isLineBreak c then (start, []) :: linesAt (start + size c) cs
      else consLineAt start c (linesAt (start + size c) cs)

/-- A line break: where its last character begins, and where the break ends. -/
structure LineBreak where
  last : ℕ
  stop : ℕ
  deriving DecidableEq

/-- The line breaks of a text that begins at `start`. -/
def breaksAt (start : ℕ) : List Char → List LineBreak
  | [] => []
  | '\r' :: '\n' :: cs =>
      ⟨start + size '\r', start + size '\r' + size '\n'⟩ ::
        breaksAt (start + size '\r' + size '\n') cs
  | c :: cs =>
      if isLineBreak c then ⟨start, start + size c⟩ :: breaksAt (start + size c) cs
      else breaksAt (start + size c) cs

end Places

/-! ## The induction over the lines -/

/-- **The cases of the recursion**: the two characters of one break, a break of one character, and a
character of a line. -/
@[elab_as_elim] theorem lines_induction {P : List Char → Prop} (nil : P [])
    (crlf : ∀ cs, P cs → P ('\r' :: '\n' :: cs))
    (single : ∀ c cs, isLineBreak c → (∀ cs', c = '\r' → cs = '\n' :: cs' → False) → P cs →
      P (c :: cs))
    (char : ∀ c cs, isLineBreak c = false → P cs → P (c :: cs)) (cs : List Char) : P cs := by
  induction hn : cs.length using Nat.strong_induction_on generalizing cs with
  | _ n ih =>
      cases cs with
      | nil => exact nil
      | cons c cs =>
          have hcs : P cs := ih cs.length (by simp [← hn]) cs rfl
          cases hc : isLineBreak c with
          | false => exact char c cs hc hcs
          | true =>
              by_cases hcrlf : ∃ cs', c = '\r' ∧ cs = '\n' :: cs'
              · obtain ⟨cs', rfl, rfl⟩ := hcrlf
                exact crlf cs' (ih cs'.length (by simp [← hn]) cs' rfl)
              · exact single c cs hc (fun cs' h h' => hcrlf ⟨cs', h, h'⟩) hcs

section Equations

variable {size : Char → ℕ} {start : ℕ} {c : Char} {cs : List Char}

/-- A character that is no break does not begin a break of two. -/
lemma ne_cr (hc : isLineBreak c = false) (cs' : List Char) (h : c = '\r')
    (_ : cs = '\n' :: cs') : False := by
  rw [h] at hc
  exact absurd hc (by decide)

lemma splitLines_single (hc : isLineBreak c)
    (hcrlf : ∀ cs', c = '\r' → cs = '\n' :: cs' → False) :
    splitLines (c :: cs) = [] :: splitLines cs := by
  rw [splitLines, if_pos hc]
  exact hcrlf

lemma splitLines_char (hc : isLineBreak c = false) :
    splitLines (c :: cs) = consLine c (splitLines cs) := by
  rw [splitLines, hc, if_neg Bool.false_ne_true]
  exact ne_cr hc

lemma linesAt_single (hc : isLineBreak c)
    (hcrlf : ∀ cs', c = '\r' → cs = '\n' :: cs' → False) :
    linesAt size start (c :: cs) = (start, []) :: linesAt size (start + size c) cs := by
  rw [linesAt, if_pos hc]
  exact hcrlf

lemma linesAt_char (hc : isLineBreak c = false) :
    linesAt size start (c :: cs) = consLineAt start c (linesAt size (start + size c) cs) := by
  rw [linesAt, hc, if_neg Bool.false_ne_true]
  exact ne_cr hc

lemma breaksAt_single (hc : isLineBreak c)
    (hcrlf : ∀ cs', c = '\r' → cs = '\n' :: cs' → False) :
    breaksAt size start (c :: cs) =
      ⟨start, start + size c⟩ :: breaksAt size (start + size c) cs := by
  rw [breaksAt, if_pos hc]
  exact hcrlf

lemma breaksAt_char (hc : isLineBreak c = false) :
    breaksAt size start (c :: cs) = breaksAt size (start + size c) cs := by
  rw [breaksAt, hc, if_neg Bool.false_ne_true]
  exact ne_cr hc

end Equations

/-! ## What the places say -/

section Facts

variable {size : Char → ℕ}

/-- Without their places, they are the lines. -/
lemma map_snd_linesAt (start : ℕ) (cs : List Char) :
    (linesAt size start cs).map Prod.snd = splitLines cs := by
  induction cs using lines_induction generalizing start with
  | nil => rfl
  | crlf cs ih => simp [linesAt, splitLines, ih]
  | single c cs hc hcrlf ih => simp [linesAt_single hc hcrlf, splitLines_single hc hcrlf, ih]
  | char c cs hc ih =>
      rw [linesAt_char hc, splitLines_char hc, ← ih (start + size c)]
      cases linesAt size (start + size c) cs with
      | nil => rfl
      | cons line lines => rfl

/-- A character of a line changes the first line alone. -/
lemma splitLines_tail_char {c : Char} {cs : List Char} (hc : isLineBreak c = false) :
    (splitLines (c :: cs)).tail = (splitLines cs).tail := by
  rw [splitLines_char hc]
  cases splitLines cs with
  | nil => rfl
  | cons line lines => rfl

/-- A text without a break has one line at most. -/
lemma splitLines_tail_nil {start : ℕ} {cs : List Char} (h : breaksAt size start cs = []) :
    (splitLines cs).tail = [] := by
  induction cs using lines_induction generalizing start with
  | nil => rfl
  | crlf cs ih => simp [breaksAt] at h
  | single c cs hc hcrlf ih => simp [breaksAt_single hc hcrlf] at h
  | char c cs hc ih =>
      rw [breaksAt_char hc] at h
      rw [splitLines_tail_char hc, ih h]

/-- **What follows the first line** is what follows the first break. -/
theorem splitLines_tail {start : ℕ} {cs : List Char} {b : LineBreak} {bs : List LineBreak}
    (h : breaksAt size start cs = b :: bs) :
    ∃ front rest, cs = front ++ rest ∧ b.stop = start + extent size front ∧
      (splitLines cs).tail = splitLines rest := by
  induction cs using lines_induction generalizing start with
  | nil => simp [breaksAt] at h
  | crlf cs ih =>
      obtain rfl : ⟨start + size '\r', start + size '\r' + size '\n'⟩ = b :=
        (List.cons.inj h).1
      exact ⟨['\r', '\n'], cs, rfl, by simp [Nat.add_assoc], rfl⟩
  | single c cs hc hcrlf ih =>
      rw [breaksAt_single hc hcrlf] at h
      obtain rfl : ⟨start, start + size c⟩ = b := (List.cons.inj h).1
      exact ⟨[c], cs, rfl, by simp, by rw [splitLines_single hc hcrlf, List.tail_cons]⟩
  | char c cs hc ih =>
      rw [breaksAt_char hc] at h
      obtain ⟨front, rest, rfl, hstop, hlines⟩ := ih h
      refine ⟨c :: front, rest, rfl, ?_, by rw [splitLines_tail_char hc, hlines]⟩
      rw [hstop]
      simp
      omega

/-- A text that is not empty has a line. -/
lemma linesAt_ne_nil {start : ℕ} {cs : List Char} (h : cs ≠ []) : linesAt size start cs ≠ [] := by
  induction cs using lines_induction generalizing start with
  | nil => exact absurd rfl h
  | crlf cs ih => simp [linesAt]
  | single c cs hc hcrlf ih => simp [linesAt_single hc hcrlf]
  | char c cs hc ih =>
      rw [linesAt_char hc]
      cases linesAt size (start + size c) cs with
      | nil => simp [consLineAt]
      | cons line lines => simp [consLineAt]

variable (hsize : ∀ c, 0 < size c)

include hsize

/-- A text is told to its end by its extent. -/
lemma append_inj_extent {a a' b b' : List Char} (h : a ++ b = a' ++ b')
    (hextent : extent size a = extent size a') : a = a' ∧ b = b' := by
  induction a generalizing a' with
  | nil =>
      cases a' with
      | nil => exact ⟨rfl, h⟩
      | cons c a' =>
          have hpos := hsize c
          simp at hextent
          omega
  | cons c a ih =>
      cases a' with
      | nil =>
          have hpos := hsize c
          simp at hextent
          omega
      | cons c' a' =>
          obtain ⟨rfl, htail⟩ := List.cons.inj h
          obtain ⟨rfl, rfl⟩ := ih htail (by simpa using hextent)
          exact ⟨rfl, rfl⟩

/-- A line starts inside the text. -/
lemma lt_of_mem_linesAt {start : ℕ} {cs : List Char} {line : ℕ × List Char}
    (h : line ∈ linesAt size start cs) : line.1 < start + extent size cs := by
  induction cs using lines_induction generalizing start line with
  | nil => simp [linesAt] at h
  | crlf cs ih =>
      have hpos := hsize '\r'
      rcases List.mem_cons.mp h with rfl | h
      · simp
        omega
      · have := ih h
        simp
        omega
  | single c cs hc hcrlf ih =>
      have hpos := hsize c
      rw [linesAt_single hc hcrlf] at h
      rcases List.mem_cons.mp h with rfl | h
      · simp
        omega
      · have := ih h
        simp
        omega
  | char c cs hc ih =>
      have hpos := hsize c
      rw [linesAt_char hc] at h
      cases hlines : linesAt size (start + size c) cs with
      | nil =>
          rw [hlines, consLineAt, List.mem_singleton] at h
          simp [h]
          omega
      | cons first lines =>
          rw [hlines, consLineAt] at h
          rcases List.mem_cons.mp h with rfl | h
          · simp
            omega
          · have := ih (hlines ▸ List.mem_cons_of_mem _ h)
            simp
            omega

/-- A break stands inside the text, too. -/
lemma le_last_of_mem_breaksAt {start : ℕ} {cs : List Char} {b : LineBreak}
    (h : b ∈ breaksAt size start cs) : start ≤ b.last ∧ b.last < b.stop := by
  induction cs using lines_induction generalizing start b with
  | nil => simp [breaksAt] at h
  | crlf cs ih =>
      have hpos := hsize '\n'
      rcases List.mem_cons.mp h with rfl | h
      · simp
        omega
      · have := ih h
        omega
  | single c cs hc hcrlf ih =>
      have hpos := hsize c
      rw [breaksAt_single hc hcrlf] at h
      rcases List.mem_cons.mp h with rfl | h
      · simp
        omega
      · have := ih h
        omega
  | char c cs hc ih =>
      rw [breaksAt_char hc] at h
      have := ih h
      omega

/-- **A text is cut at a break**: its lines are those before the break and those after it. -/
theorem linesAt_of_break {start : ℕ} {cs : List Char} {b : LineBreak}
    (h : b ∈ breaksAt size start cs) :
    ∃ front rest, cs = front ++ rest ∧ b.stop = start + extent size front ∧
      linesAt size start cs = linesAt size start front ++ linesAt size b.stop rest := by
  induction cs using lines_induction generalizing start b with
  | nil => simp [breaksAt] at h
  | crlf cs ih =>
      rcases List.mem_cons.mp h with rfl | h
      · exact ⟨['\r', '\n'], cs, rfl, by simp [Nat.add_assoc], by simp [linesAt]⟩
      · obtain ⟨front, rest, rfl, hstop, hlines⟩ := ih h
        refine ⟨'\r' :: '\n' :: front, rest, rfl, ?_, by simp [linesAt, hlines]⟩
        rw [hstop]
        simp
        omega
  | single c cs hc hcrlf ih =>
      rw [breaksAt_single hc hcrlf] at h
      rw [linesAt_single hc hcrlf]
      rcases List.mem_cons.mp h with rfl | h
      · refine ⟨[c], cs, rfl, by simp, ?_⟩
        rw [linesAt_single hc (by simp)]
        simp [linesAt]
      · obtain ⟨front, rest, rfl, hstop, hlines⟩ := ih h
        refine ⟨c :: front, rest, rfl, ?_, ?_⟩
        · rw [hstop]
          simp
          omega
        · rw [linesAt_single hc, hlines, List.cons_append]
          rintro cs' rfl rfl
          exact hcrlf _ rfl rfl
  | char c cs hc ih =>
      rw [breaksAt_char hc] at h
      have hlast := le_last_of_mem_breaksAt hsize h
      obtain ⟨front, rest, rfl, hstop, hlines⟩ := ih h
      refine ⟨c :: front, rest, rfl, ?_, ?_⟩
      · rw [hstop]
        simp
        omega
      · -- The break is in the front, so that `c` stands before one of its lines.
        have hfront : front ≠ [] := by
          rintro rfl
          simp at hstop
          omega
        rw [linesAt_char hc, linesAt_char hc, hlines]
        cases hfirst : linesAt size (start + size c) front with
        | nil => exact absurd hfirst (linesAt_ne_nil hfront)
        | cons line lines => rfl

/-- **The breaks after a front.** -/
theorem breaksAt_filter (start : ℕ) (front cs : List Char) :
    (breaksAt size start (front ++ cs)).filter (start + extent size front ≤ ·.last) =
      breaksAt size (start + extent size front) cs := by
  induction front using lines_induction generalizing start with
  | nil =>
      rw [List.nil_append, extent_nil, Nat.add_zero, List.filter_eq_self]
      exact fun b hb => decide_eq_true (le_last_of_mem_breaksAt hsize hb).1
  | crlf front ih =>
      have hpos := hsize '\n'
      have hstart : start + extent size ('\r' :: '\n' :: front) =
          start + size '\r' + size '\n' + extent size front := by
        simp
        omega
      rw [hstart, ← ih, List.cons_append, List.cons_append, breaksAt, List.filter_cons_of_neg]
      simp
      omega
  | single c front hc hcrlf ih =>
      have hpos := hsize c
      have hstart : start + extent size (c :: front) = start + size c + extent size front := by
        simp
        omega
      by_cases hcut : ∃ cs', c = '\r' ∧ front ++ cs = '\n' :: cs'
      · -- The front ends between the two characters of one break.
        obtain ⟨cs', rfl, hfeed⟩ := hcut
        obtain rfl : front = [] := by
          cases front with
          | nil => rfl
          | cons d front => exact (hcrlf front rfl (by rw [(List.cons.inj hfeed).1])).elim
        rw [List.nil_append] at hfeed
        subst hfeed
        have hlf : ∀ cs'', '\n' = '\r' → cs' = '\n' :: cs'' → False := by simp
        rw [List.cons_append, List.nil_append, breaksAt, breaksAt_single (by decide) hlf,
          extent_cons, extent_nil, Nat.add_zero, List.filter_eq_self]
        intro b hb
        rcases List.mem_cons.mp hb with rfl | hb
        · simp
        · have := le_last_of_mem_breaksAt hsize hb
          simp
          omega
      · rw [hstart, ← ih, List.cons_append,
          breaksAt_single hc fun cs' h h' => hcut ⟨cs', h, h'⟩, List.filter_cons_of_neg]
        simp
        omega
  | char c front hc ih =>
      have hstart : start + extent size (c :: front) = start + size c + extent size front := by
        simp
        omega
      rw [hstart, ← ih, List.cons_append, breaksAt_char hc]

end Facts

end PyText
