import Mathlib

/-!
# The Python string operations the code relies on

Strings are Lean's `String`s, read as lists of code points.  What depends on the Unicode database
(`str.isspace`, `str.isdecimal`, `str.isdigit`) is given by its tables, so that a header or a state
file in any script is classified as Python classifies it.

* `strip` — `str.strip()`; `universalNewlines` — what reading a text file makes of line ends.
* `isDecimal`, `isDigit`, `parseInt` — the guard and the conversion of decimal strings.  `int()`
  refuses a string of more than `maxIntDigits` digits; the guards do not look at the length.
* `contains` — the `in` operator on strings.
* `IsHex` — the strings that `[0-9a-f]{n}` matches in full.
-/

/-- What travels over the network. -/
abbrev Bytes := List UInt8

namespace PyText

/-- The characters of `str.isspace`. -/
def spaces : List ℕ :=
  [0x9, 0xa, 0xb, 0xc, 0xd, 0x1c, 0x1d, 0x1e, 0x1f, 0x20, 0x85, 0xa0, 0x1680, 0x2000, 0x2001,
    0x2002, 0x2003, 0x2004, 0x2005, 0x2006, 0x2007, 0x2008, 0x2009, 0x200a, 0x2028, 0x2029,
    0x202f, 0x205f, 0x3000]

def isSpace (c : Char) : Bool := spaces.contains c.toNat

/-- `str.strip()`. -/
def strip (s : String) : String :=
  String.ofList ((s.toList.dropWhile isSpace).rdropWhile isSpace)

/-- A string that `strip` leaves as it is. -/
def Stripped (s : String) : Prop := strip s = s

instance (s : String) : Decidable (Stripped s) := inferInstanceAs (Decidable (_ = _))

@[simp] theorem strip_empty : strip "" = "" := by decide

/-- The line ends of a file read in text mode: `\r\n` and `\r` are read as `\n`. -/
def newlines : List Char → List Char
  | '\r' :: '\n' :: cs => '\n' :: newlines cs
  | '\r' :: cs => '\n' :: newlines cs
  | c :: cs => c :: newlines cs
  | [] => []

/-- What `read_text` returns of a file with this text. -/
def universalNewlines (s : String) : String := String.ofList (newlines s.toList)

/-! ## Decimal strings -/

/-- The zeros of the scripts with decimal digits; the nine digits that follow each are its
successors. -/
def zeros : List ℕ :=
  [0x30, 0x660, 0x6f0, 0x7c0, 0x966, 0x9e6, 0xa66, 0xae6, 0xb66, 0xbe6, 0xc66, 0xce6, 0xd66,
    0xde6, 0xe50, 0xed0, 0xf20, 0x1040, 0x1090, 0x17e0, 0x1810, 0x1946, 0x19d0, 0x1a80, 0x1a90,
    0x1b50, 0x1bb0, 0x1c40, 0x1c50, 0xa620, 0xa8d0, 0xa900, 0xa9d0, 0xa9f0, 0xaa50, 0xabf0,
    0xff10, 0x104a0, 0x10d30, 0x11066, 0x110f0, 0x11136, 0x111d0, 0x112f0, 0x11450, 0x114d0,
    0x11650, 0x116c0, 0x11730, 0x118e0, 0x11950, 0x11c50, 0x11d50, 0x11da0, 0x11f50, 0x16a60,
    0x16ac0, 0x16b50, 0x1d7ce, 0x1d7d8, 0x1d7e2, 0x1d7ec, 0x1d7f6, 0x1e140, 0x1e2f0, 0x1e4f0,
    0x1e950, 0x1fbf0]

/-- The value of a decimal digit in any script. -/
def digitValue (c : Char) : Option ℕ :=
  (zeros.find? fun z => z ≤ c.toNat && c.toNat < z + 10).map fun z => c.toNat - z

/-- The characters that `str.isdigit` accepts and `str.isdecimal` does not, as ranges. -/
def otherDigits : List (ℕ × ℕ) :=
  [(0xb2, 0xb3), (0xb9, 0xb9), (0x1369, 0x1371), (0x19da, 0x19da), (0x2070, 0x2070),
    (0x2074, 0x2079), (0x2080, 0x2089), (0x2460, 0x2468), (0x2474, 0x247c), (0x2488, 0x2490),
    (0x24ea, 0x24ea), (0x24f5, 0x24fd), (0x24ff, 0x24ff), (0x2776, 0x277e), (0x2780, 0x2788),
    (0x278a, 0x2792), (0x10a40, 0x10a43), (0x10e60, 0x10e68), (0x11052, 0x1105a),
    (0x1f100, 0x1f10a)]

/-- `str.isdecimal()`. -/
def isDecimal (s : String) : Bool :=
  !s.toList.isEmpty && s.toList.all fun c => (digitValue c).isSome

/-- `str.isdigit()`. -/
def isDigit (s : String) : Bool :=
  !s.toList.isEmpty && s.toList.all fun c =>
    (digitValue c).isSome || otherDigits.any fun r => r.1 ≤ c.toNat && c.toNat ≤ r.2

/-- How many digits `int()` converts from a string. -/
def maxIntDigits : ℕ := 4300

/-- `int(s)` for a string of digits; `none` is its `ValueError`, for a character that is not a
decimal digit and for a string that is too long. -/
def parseInt (s : String) : Option ℕ :=
  if s.toList.length ≤ maxIntDigits then
    s.toList.foldlM (fun n c => (digitValue c).map fun d => 10 * n + d) 0
  else none

lemma digitValue_of_isDigit {c : Char} (h : c.isDigit) :
    digitValue c = some (c.toNat - '0'.toNat) := by
  have hlt : c.toNat < 128 := by
    rw [Char.isDigit, Bool.and_eq_true, decide_eq_true_eq, decide_eq_true_eq] at h
    exact Nat.lt_of_le_of_lt (UInt32.le_iff_toNat_le.mp h.2) (by decide)
  have hall : ∀ n < 128, (Char.ofNat n).isDigit →
      digitValue (Char.ofNat n) = some ((Char.ofNat n).toNat - '0'.toNat) := by decide
  rw [← Char.ofNat_toNat c] at h ⊢
  exact hall c.toNat hlt h

/-- The conversion of ASCII digits. -/
lemma foldlM_digits {cs : List Char} (h : ∀ c ∈ cs, c.isDigit) :
    ∀ n, cs.foldlM (fun n c => (digitValue c).map fun d => 10 * n + d) n =
      some (Nat.ofDigitChars 10 cs n) := by
  induction cs with
  | nil => exact fun _ => rfl
  | cons c cs ih =>
      intro n
      rw [List.foldlM_cons, digitValue_of_isDigit (h c List.mem_cons_self), Nat.ofDigitChars_cons]
      exact ih (fun c hc => h c (List.mem_cons_of_mem _ hc)) _

/-- **A decimal string of the interpreter's own is accepted**, and read as its number. -/
theorem parseInt_toString {n : ℕ} (hn : n < 10 ^ maxIntDigits) :
    isDecimal (toString n) ∧ parseInt (toString n) = some n := by
  have hdigit : ∀ c ∈ Nat.toDigits 10 n, c.isDigit :=
    fun c hc => Nat.isDigit_of_mem_toDigits (by decide) (by decide) hc
  have hlist : (toString n).toList = Nat.toDigits 10 n := Nat.toList_repr
  constructor
  · rw [isDecimal, hlist, Bool.and_eq_true, List.all_eq_true]
    refine ⟨by simp, fun c hc => ?_⟩
    rw [digitValue_of_isDigit (hdigit c hc)]
    rfl
  · rw [parseInt, hlist, if_pos ((Nat.length_toDigits_le_iff (by decide) (by decide)).mpr hn),
      foldlM_digits hdigit, Nat.ofDigitChars_ten_toDigits]

/-! ## Letter case

Only the characters whose converted form reaches into ASCII are converted: they are what a
comparison with an ASCII word or the search for an ASCII phrase can see.
-/

/-- The letters outside ASCII whose upper case is in ASCII, with that upper case. -/
def upperIntoAscii : List (ℕ × List Char) :=
  [(0xdf, ['S', 'S']), (0x131, ['I']), (0x17f, ['S']), (0xfb00, ['F', 'F']), (0xfb01, ['F', 'I']),
    (0xfb02, ['F', 'L']), (0xfb03, ['F', 'F', 'I']), (0xfb04, ['F', 'F', 'L']),
    (0xfb05, ['S', 'T']), (0xfb06, ['S', 'T'])]

/-- `str.upper()`, for a comparison with ASCII words. -/
def upper (s : String) : String :=
  String.ofList (s.toList.flatMap fun c => (upperIntoAscii.lookup c.toNat).getD [c.toUpper])

/-- `str.lower()`, for the search of ASCII phrases: besides the letters of ASCII, the Kelvin sign
and the dotted capital I have an ASCII letter in their lower case. -/
def lower (s : String) : String :=
  String.ofList (s.toList.flatMap fun c =>
    if c.toNat = 0x212a then ['k']
    else if c.toNat = 0x130 then ['i', Char.ofNat 0x307]
    else [c.toLower])

/-- What `lower` makes of a character. -/
def lowerChar (c : Char) : List Char :=
  if c.toNat = 0x212a then ['k']
  else if c.toNat = 0x130 then ['i', Char.ofNat 0x307]
  else [c.toLower]

lemma lower_eq (s : String) : lower s = String.ofList (s.toList.flatMap lowerChar) := rfl

lemma toLower_eq_self {c : Char} (h : 0x80 ≤ c.toNat) : c.toLower = c := by
  rw [Char.toLower, dif_neg]
  rintro ⟨-, hle⟩
  exact absurd (UInt32.le_iff_toNat_le.mp hle) (by
    have : 0x80 ≤ c.val.toNat := h
    simp
    omega)

lemma lowerChar_idem (c : Char) : (lowerChar c).flatMap lowerChar = lowerChar c := by
  have hascii : ∀ n < 0x80, (lowerChar (Char.ofNat n)).flatMap lowerChar =
      lowerChar (Char.ofNat n) := by decide
  rcases Nat.lt_or_ge c.toNat 0x80 with hc | hc
  · rw [← Char.ofNat_toNat c]
    exact hascii c.toNat hc
  · have hlower := toLower_eq_self hc
    have hself : lowerChar c = ['k'] ∨ lowerChar c = ['i', Char.ofNat 0x307] ∨
        lowerChar c = [c] := by
      rw [lowerChar, hlower]
      split_ifs
      · exact .inl rfl
      · exact .inr (.inl rfl)
      · exact .inr (.inr rfl)
    rcases hself with h | h | h <;> rw [h]
    · decide
    · decide
    · rw [List.flatMap_singleton, h]

/-- **Lower case is kept.** -/
theorem lower_idem (s : String) : lower (lower s) = lower s := by
  rw [lower_eq, lower_eq, String.toList_ofList, List.flatMap_assoc]
  exact congrArg String.ofList (List.flatMap_congr fun c _ => lowerChar_idem c)

/-! ## Substrings and hexadecimal strings -/

/-- `phrase in s`. -/
def contains (s phrase : String) : Bool := decide (phrase.toList <:+: s.toList)

/-- A phrase without a character is on one side of it. -/
lemma infix_of_not_mem {α : Type} {p a b : List α} {c : α} (hc : c ∉ p) (h : p <:+: a ++ c :: b) :
    p <:+: a ∨ p <:+: b := by
  have hfront : ∀ a' : List α, p <+: a' ++ c :: b → p <+: a' := by
    intro a' h'
    rcases Nat.lt_or_ge a'.length p.length with hlt | hle
    · have hlong : a' ++ [c] <+: p := by
        have hwhole : a' ++ [c] <+: a' ++ c :: b := ⟨b, by simp⟩
        refine List.prefix_of_prefix_length_le hwhole h' ?_
        rw [List.length_append]
        exact hlt
      exact absurd (hlong.subset (List.mem_append_right _ (List.mem_singleton_self c))) hc
    · exact List.prefix_of_prefix_length_le h' (List.prefix_append _ _) hle
  induction a with
  | nil =>
      rcases List.infix_cons_iff.mp h with h | h
      · exact .inl (hfront [] h).isInfix
      · exact .inr h
  | cons x a ih =>
      rcases List.infix_cons_iff.mp h with h | h
      · exact .inl (hfront (x :: a) h).isInfix
      · exact (ih h).imp_left fun h => h.trans (List.infix_cons (List.infix_refl a))

/-- The digits of `[0-9a-f]`. -/
def isHexDigit (c : Char) : Bool := ('0' ≤ c && c ≤ '9') || ('a' ≤ c && c ≤ 'f')

/-- `re.fullmatch(r"[0-9a-f]{n}", s) is not None`. -/
def IsHex (n : ℕ) (s : String) : Prop := s.toList.length = n ∧ s.toList.all isHexDigit

instance (n : ℕ) (s : String) : Decidable (IsHex n s) := inferInstanceAs (Decidable (_ ∧ _))

end PyText
