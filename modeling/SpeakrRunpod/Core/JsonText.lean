import Mathlib.Data.Rat.Defs
import SpeakrRunpod.Core.Encoding
import SpeakrRunpod.Core.Json

/-!
# JSON documents

`json.loads` of bytes, as CPython's scanner reads them, and the compact writer of `JSONResponse`.

* `loads` — the parser.  A document may nest as deep as the interpreter's stack allows.
* `scanString`, `scanUnsigned`, `scanMembers`, `scanItems`, `scanValue` — its parts, each of which
  returns what it has read and the rest of the text.
* `quote`, `compactObject` — the writer, `json.dumps` with `ensure_ascii=False` and without spaces.
* `loads_compactObject` — reading what has been written.

A floating-point number is read as the number that is written, not as the double nearest to it.
-/

namespace Json

/-- What `json.loads` raises: a `ValueError` of any kind, or a `RecursionError` on entering an
object or an array. -/
inductive LoadError
  | invalid
  | recursion (container : String)
  deriving DecidableEq

/-- What is read at the beginning of a text, with the rest of it. -/
abbrev Scanner (α : Type) := List Char → Except LoadError (α × List Char)

/-- `WHITESPACE`. -/
def isWhitespace (c : Char) : Bool := c = ' ' || c = '\t' || c = '\n' || c.toNat = 13

def skipSpace (cs : List Char) : List Char := cs.dropWhile isWhitespace

/-! ## Strings -/

def hexValue (c : Char) : Option ℕ :=
  if '0' ≤ c ∧ c ≤ '9' then some (c.toNat - 48)
  else if 'a' ≤ c ∧ c ≤ 'f' then some (c.toNat - 87)
  else if 'A' ≤ c ∧ c ≤ 'F' then some (c.toNat - 55)
  else none

/-- The value of four hexadecimal digits. -/
def hex4 (a b c d : Char) : Option ℕ := do
  let a ← hexValue a
  let b ← hexValue b
  let c ← hexValue c
  let d ← hexValue d
  return 16 * (16 * (16 * a + b) + c) + d

/-- The escapes of two characters. -/
def unescape (c : Char) : Option Char :=
  [('"', '"'), ('\\', '\\'), ('/', '/'), ('b', Char.ofNat 8), ('f', Char.ofNat 12), ('n', '\n'),
    ('r', Char.ofNat 13), ('t', '\t')].lookup c

/-- The characters of a string after its opening quote, up to its closing quote.  A `\u` escape is
kept as the code unit it names. -/
def scanChars : List Char → Option (List (Char ⊕ ℕ) × List Char)
  | [] => none
  | '"' :: cs => some ([], cs)
  | '\\' :: 'u' :: a :: b :: c :: d :: cs =>
      (hex4 a b c d).bind fun u => (scanChars cs).map fun r => (.inr u :: r.1, r.2)
  | '\\' :: e :: cs =>
      (unescape e).bind fun c => (scanChars cs).map fun r => (.inl c :: r.1, r.2)
  | c :: cs =>
      if c = '\\' ∨ c.toNat < 0x20 then none
      else (scanChars cs).map fun r => (.inl c :: r.1, r.2)

/-- The text of a string: two escapes that are a surrogate pair are one character. -/
def joinEscapes : List (Char ⊕ ℕ) → List Char
  | [] => []
  | .inl c :: ts => c :: joinEscapes ts
  | .inr u :: .inr v :: ts =>
      if Codec.isHighSurrogate u && Codec.isLowSurrogate v then
        (Codec.character (Codec.joinSurrogates u v)).toList ++ joinEscapes ts
      else (Codec.character u).toList ++ joinEscapes (.inr v :: ts)
  | .inr u :: ts => (Codec.character u).toList ++ joinEscapes ts

def scanString : Scanner String := fun cs =>
  match scanChars cs with
  | some (ts, rest) => .ok (String.ofList (joinEscapes ts), rest)
  | none => .error .invalid

/-! ## Numbers -/

/-- A run of digits. -/
def spanDigits (cs : List Char) : List Char × List Char := cs.span Char.isDigit

/-- The fraction, or nothing where the point is not followed by a digit. -/
def scanFraction (cs : List Char) : List Char × List Char :=
  match cs with
  | '.' :: rest => match spanDigits rest with
      | ([], _) => ([], cs)
      | read => read
  | _ => ([], cs)

/-- The exponent, if there is one. -/
def scanExponent (cs : List Char) : Option ℤ × List Char :=
  let signed (negative : Bool) (rest : List Char) : Option ℤ × List Char :=
    match spanDigits rest with
    | ([], _) => (none, cs)
    | (ds, rest) => (some (if negative then -Nat.ofDigitChars 10 ds 0 else Nat.ofDigitChars 10 ds 0), rest)
  match cs with
  | e :: rest =>
      if e = 'e' ∨ e = 'E' then
        match rest with
        | '-' :: rest => signed true rest
        | '+' :: rest => signed false rest
        | _ => signed false rest
      else (none, cs)
  | [] => (none, cs)

/-- The digits before the point: a single zero, or digits that do not begin with one. -/
def scanInteger (cs : List Char) : Option (List Char × List Char) :=
  match cs with
  | '0' :: rest => some (['0'], rest)
  | _ => match spanDigits cs with
      | ([], _) => none
      | read => some read

/-- A number after its sign.  `int()` refuses a numeral that is too long. -/
def scanUnsigned (negative : Bool) : Scanner Json := fun cs =>
  match scanInteger cs with
  | none => .error .invalid
  | some (whole, cs) =>
      let (fraction, cs) := scanFraction cs
      let (exponent, cs) := scanExponent cs
      let sign : ℤ := if negative then -1 else 1
      if fraction = [] ∧ exponent = none then
        if whole.length ≤ PyText.maxIntDigits then
          .ok (.int (sign * Nat.ofDigitChars 10 whole 0), cs)
        else .error .invalid
      else
        let digits : ℤ := Nat.ofDigitChars 10 (whole ++ fraction) 0
        let scale := exponent.getD 0 - fraction.length
        let power : ℚ := if 0 ≤ scale then 10 ^ scale.toNat else 1 / 10 ^ (-scale).toNat
        .ok (.float (sign * digits * power), cs)

/-! ## Values -/

/-- The constants, `NaN` and `Infinity` among them. -/
def constants : List (List Char × Json) :=
  [("null".toList, .null), ("true".toList, .bool true), ("false".toList, .bool false),
    ("NaN".toList, .nan), ("Infinity".toList, .infinity false), ("-Infinity".toList, .infinity true)]

/-- A constant or a number. -/
def scanAtom : Scanner Json := fun cs =>
  match constants.find? fun k => k.1.isPrefixOf cs with
  | some k => .ok (k.2, cs.drop k.1.length)
  | none =>
      match cs with
      | '-' :: rest => scanUnsigned true rest
      | _ => scanUnsigned false cs

/-- The assignment `fields[key] = value`: an existing key keeps its place. -/
def assign (fields : List (String × Json)) (key : String) (value : Json) : List (String × Json) :=
  if fields.any fun f => f.1 = key then fields.map fun f => if f.1 = key then (key, value) else f
  else fields ++ [(key, value)]

/-- A member of an object: its name, a colon, its value. -/
def scanMember (value : Scanner Json) : Scanner (String × Json)
  | '"' :: cs => do
      let (key, cs) ← scanString cs
      match skipSpace cs with
      | ':' :: cs =>
          let (v, cs) ← value (skipSpace cs)
          .ok ((key, v), cs)
      | _ => .error .invalid
  | _ => .error .invalid

/-- The members of an object, from the first on; `n` bounds their number. -/
def scanMembers (value : Scanner Json) :
    ℕ → List (String × Json) → Scanner (List (String × Json))
  | 0, _, _ => .error .invalid
  | n + 1, fields, cs => do
      let ((key, v), cs) ← scanMember value cs
      match skipSpace cs with
      | '}' :: cs => .ok (assign fields key v, cs)
      | ',' :: cs => scanMembers value n (assign fields key v) (skipSpace cs)
      | _ => .error .invalid

/-- The items of an array, from the first on; `n` bounds their number. -/
def scanItems (value : Scanner Json) : ℕ → List Json → Scanner (List Json)
  | 0, _, _ => .error .invalid
  | n + 1, items, cs => do
      let (v, cs) ← value cs
      match skipSpace cs with
      | ']' :: cs => .ok (items ++ [v], cs)
      | ',' :: cs => scanItems value n (items ++ [v]) (skipSpace cs)
      | _ => .error .invalid

/-- A value, in which `depth` containers may be open at once.  Every member and every item takes
some of the text, so the length of the text bounds their number. -/
def scanValue : ℕ → Scanner Json
  | _, '"' :: cs => do
      let (s, cs) ← scanString cs
      .ok (.str s, cs)
  | 0, '{' :: _ => .error (.recursion "object")
  | 0, '[' :: _ => .error (.recursion "array")
  | depth + 1, '{' :: cs =>
      match skipSpace cs with
      | '}' :: cs => .ok (.obj [], cs)
      | cs => do
          let (fields, cs) ← scanMembers (scanValue depth) cs.length [] cs
          .ok (.obj fields, cs)
  | depth + 1, '[' :: cs =>
      match skipSpace cs with
      | ']' :: cs => .ok (.arr [], cs)
      | cs => do
          let (items, cs) ← scanItems (scanValue depth) cs.length [] cs
          .ok (.arr items, cs)
  | _, cs => scanAtom cs

/-- A document with nothing but white space around its value. -/
def parse (depth : ℕ) (cs : List Char) : Except LoadError Json := do
  let (v, cs) ← scanValue depth (skipSpace cs)
  if skipSpace cs = [] then .ok v else .error .invalid

/-- `json.loads(b)`, where the stack has room for `nested` containers inside the outermost one. -/
def loads (nested : ℕ) (b : Bytes) : Except LoadError Json :=
  match Codec.decodeJson b with
  | some cs => parse (nested + 1) cs
  | none => .error .invalid

/-! ## The writer -/

/-- The two-character escapes of the writer. -/
def shortEscapes : List (Char × Char) :=
  [('"', '"'), ('\\', '\\'), ('\n', 'n'), (Char.ofNat 13, 'r'), ('\t', 't'), (Char.ofNat 12, 'f'),
    (Char.ofNat 8, 'b')]

def hexDigits (n : ℕ) : List Char := ['0', '0', Nat.digitChar (n / 16), Nat.digitChar (n % 16)]

def escape (c : Char) : List Char :=
  match shortEscapes.lookup c with
  | some e => ['\\', e]
  | none => if c.toNat < 0x20 then '\\' :: 'u' :: hexDigits c.toNat else [c]

/-- The encoding of a string. -/
def quote (s : String) : List Char := '"' :: s.toList.flatMap escape ++ ['"']

/-- The encoding of an integer that is not negative. -/
def numeral (n : ℕ) : List Char := Nat.toDigits 10 n

/-- The encoding of the members of an object, given the encodings of the values. -/
def compactMembers : List (String × List Char) → List Char
  | [] => ['}']
  | [m] => quote m.1 ++ ':' :: m.2 ++ ['}']
  | m :: ms => quote m.1 ++ ':' :: m.2 ++ ',' :: compactMembers ms

def compactObject (members : List (String × List Char)) : List Char := '{' :: compactMembers members

/-! ## Reading what was written -/

/-- What the scanner reads of an escaped character. -/
def token (c : Char) : Char ⊕ ℕ :=
  match shortEscapes.lookup c with
  | some _ => .inl c
  | none => if c.toNat < 0x20 then .inr c.toNat else .inl c

lemma unescape_shortEscape {c e : Char} (h : shortEscapes.lookup c = some e) :
    unescape e = some c ∧ e ≠ 'u' := by
  obtain ⟨l₁, l₂, hsplit, -⟩ := List.lookup_eq_some_iff.mp h
  have hmem : (c, e) ∈ shortEscapes := by
    rw [hsplit]
    exact List.mem_append_right _ List.mem_cons_self
  have hall : ∀ m ∈ shortEscapes, unescape m.2 = some m.1 ∧ m.2 ≠ 'u' := by decide
  exact hall _ hmem

lemma hex4_hexDigits : ∀ n < 0x20,
    hex4 '0' '0' (Nat.digitChar (n / 16)) (Nat.digitChar (n % 16)) = some n := by
  decide

lemma scanChars_escape (c : Char) (rest : List Char) :
    scanChars (escape c ++ rest) = (scanChars rest).map fun r => (token c :: r.1, r.2) := by
  unfold escape token
  cases hlookup : shortEscapes.lookup c with
  | some e =>
      obtain ⟨he, hu⟩ := unescape_shortEscape hlookup
      show scanChars ('\\' :: e :: rest) = _
      rw [scanChars.eq_4 _ _ (by rintro _ _ _ _ _ rfl; exact absurd rfl hu), he]
      rfl
  | none =>
      dsimp only
      split_ifs with hc
      · show scanChars ('\\' :: 'u' :: '0' :: '0' :: _ :: _ :: rest) = _
        rw [scanChars, hex4_hexDigits _ hc]
        rfl
      · have hquote : c ≠ '"' := by
          rintro rfl
          exact absurd hlookup (by decide)
        have hback : c ≠ '\\' := by
          rintro rfl
          exact absurd hlookup (by decide)
        show scanChars (c :: rest) = _
        rw [scanChars, if_neg (not_or.mpr ⟨hback, hc⟩)]
        · exact hquote
        · rintro _ _ _ _ _ h -
          exact hback h
        · rintro _ _ h -
          exact hback h

lemma scanChars_quote (cs rest : List Char) :
    scanChars (cs.flatMap escape ++ '"' :: rest) = some (cs.map token, rest) := by
  induction cs with
  | nil => rfl
  | cons c cs ih =>
      rw [List.flatMap_cons, List.append_assoc, scanChars_escape, ih]
      rfl

lemma joinEscapes_token (c : Char) (ts : List (Char ⊕ ℕ)) :
    joinEscapes (token c :: ts) = c :: joinEscapes ts := by
  unfold token
  split
  · rfl
  · split_ifs with hc
    · have hhigh : Codec.isHighSurrogate c.toNat = false := by
        rw [Codec.isHighSurrogate, Bool.and_eq_false_iff]
        exact .inl (decide_eq_false (by omega))
      rcases ts with _ | ⟨_ | v, ts⟩
      · show (Codec.character c.toNat).toList ++ joinEscapes [] = _
        rw [Codec.character_toNat]
        rfl
      · show (Codec.character c.toNat).toList ++ joinEscapes (.inl _ :: ts) = _
        rw [Codec.character_toNat]
        rfl
      · rw [joinEscapes, hhigh, Bool.false_and, if_neg Bool.false_ne_true, Codec.character_toNat]
        rfl
    · rfl

/-- **A string is read back as it was written.** -/
theorem scanString_quote (s : String) (rest : List Char) :
    scanString (s.toList.flatMap escape ++ '"' :: rest) = .ok (s, rest) := by
  have hjoin : ∀ cs : List Char, joinEscapes (cs.map token) = cs := by
    intro cs
    induction cs with
    | nil => rfl
    | cons c cs ih => rw [List.map_cons, joinEscapes_token, ih]
  rw [scanString, scanChars_quote]
  dsimp only
  rw [hjoin, String.ofList_toList]

lemma scanValue_quote (depth : ℕ) (s : String) (rest : List Char) :
    scanValue depth (quote s ++ rest) = .ok (.str s, rest) := by
  have happ : quote s ++ rest = '"' :: (s.toList.flatMap escape ++ '"' :: rest) := by
    simp [quote]
  rw [happ]
  cases depth <;> rw [scanValue, scanString_quote] <;> rfl

lemma spanDigits_append {ds rest : List Char} (hds : ∀ c ∈ ds, c.isDigit)
    (hrest : ∀ c ∈ rest.head?, ¬ c.isDigit) : spanDigits (ds ++ rest) = (ds, rest) := by
  rw [spanDigits, List.span_eq_takeWhile_dropWhile]
  induction ds with
  | nil =>
      cases rest with
      | nil => rfl
      | cons c rest =>
          have hc := hrest c rfl
          simp [hc]
  | cons c ds ih =>
      have hc := hds c List.mem_cons_self
      have ih := ih fun c hc => hds c (List.mem_cons_of_mem _ hc)
      rw [Prod.mk.injEq] at ih ⊢
      rw [List.cons_append, List.takeWhile_cons_of_pos hc, List.dropWhile_cons_of_pos hc, ih.1, ih.2]
      exact ⟨rfl, rfl⟩

lemma head?_toDigits {n : ℕ} (hn : 0 < n) : (Nat.toDigits 10 n).head? ≠ some '0' := by
  induction n using Nat.strongRecOn with
  | ind n ih =>
      rcases Nat.lt_or_ge n 10 with hlt | hge
      · rw [Nat.toDigits_of_lt_base hlt]
        have hall : ∀ m < 10, 0 < m → [Nat.digitChar m].head? ≠ some '0' := by decide
        exact hall n hlt hn
      · rw [Nat.toDigits_of_base_le (by decide) hge, List.head?_append_of_ne_nil _ Nat.toDigits_ne_nil]
        exact ih (n / 10) (by omega) (by omega)

lemma scanInteger_numeral {n : ℕ} {rest : List Char} (hrest : ∀ c ∈ rest.head?, ¬ c.isDigit) :
    scanInteger (numeral n ++ rest) = some (numeral n, rest) := by
  have hspan : spanDigits (numeral n ++ rest) = (numeral n, rest) :=
    spanDigits_append
      (fun c hc => Nat.isDigit_of_mem_toDigits (by decide) (by decide) hc) hrest
  rcases Nat.eq_zero_or_pos n with rfl | hn
  · rfl
  · have hne : numeral n ≠ [] := Nat.toDigits_ne_nil
    have hhead := head?_toDigits hn
    change (numeral n).head? ≠ _ at hhead
    generalize numeral n = ds at *
    cases ds with
    | nil => exact absurd rfl hne
    | cons d ds =>
        rw [scanInteger, hspan]
        rintro _ h
        rw [List.cons_append, List.cons.injEq] at h
        exact hhead (congrArg some h.1)

/-- What follows a number that is written without a fraction. -/
def EndsNumber (rest : List Char) : Prop :=
  ∀ c ∈ rest.head?, ¬ c.isDigit ∧ c ≠ '.' ∧ c ≠ 'e' ∧ c ≠ 'E'

lemma scanUnsigned_numeral {n : ℕ} {rest : List Char}
    (hlen : (numeral n).length ≤ PyText.maxIntDigits) (hrest : EndsNumber rest) :
    scanUnsigned false (numeral n ++ rest) = .ok (.int n, rest) := by
  have hfraction : scanFraction rest = ([], rest) := by
    cases rest with
    | nil => rfl
    | cons c rest =>
        rw [scanFraction]
        rintro _ ⟨⟩
        exact absurd rfl (hrest '.' rfl).2.1
  have hexponent : scanExponent rest = (none, rest) := by
    cases rest with
    | nil => rfl
    | cons c rest =>
        obtain ⟨-, -, he, hE⟩ := hrest c rfl
        simp [scanExponent, he, hE]
  rw [scanUnsigned, scanInteger_numeral fun c hc => (hrest c hc).1]
  dsimp only
  rw [hfraction]
  dsimp only
  rw [hexponent]
  dsimp only
  rw [if_pos ⟨rfl, rfl⟩, if_pos hlen, numeral, Nat.ofDigitChars_ten_toDigits]
  simp

lemma scanValue_numeral {depth n : ℕ} {rest : List Char}
    (hlen : (numeral n).length ≤ PyText.maxIntDigits) (hrest : EndsNumber rest) :
    scanValue depth (numeral n ++ rest) = .ok (.int n, rest) := by
  have hscan := scanUnsigned_numeral hlen hrest
  have hdigit : ∀ c ∈ numeral n, c.isDigit :=
    fun c hc => Nat.isDigit_of_mem_toDigits (by decide) (by decide) hc
  have hne : numeral n ≠ [] := Nat.toDigits_ne_nil
  generalize numeral n = ds at *
  cases ds with
  | nil => exact absurd rfl hne
  | cons d ds =>
      have hd := hdigit d List.mem_cons_self
      have hother : ∀ c : Char, ¬ c.isDigit → d ≠ c := by
        rintro _ hc rfl
        exact hc hd
      have hn := hother 'n' (by decide)
      have ht := hother 't' (by decide)
      have hf := hother 'f' (by decide)
      have hN := hother 'N' (by decide)
      have hI := hother 'I' (by decide)
      have hminus := hother '-' (by decide)
      have hquote := hother '"' (by decide)
      have hbrace := hother '{' (by decide)
      have hbracket := hother '[' (by decide)
      have hconst : constants.find? (fun k => k.1.isPrefixOf (d :: ds ++ rest)) = none := by
        simp [constants, hn.symm, ht.symm, hf.symm, hN.symm, hI.symm, hminus.symm]
      have hatom : scanAtom (d :: ds ++ rest) = .ok (.int n, rest) := by
        rw [← hscan, scanAtom, hconst]
        rintro rest' h
        exact hminus (List.cons.inj h).1
      rw [← hatom]
      cases depth <;> rw [scanValue] <;> simp [hquote, hbrace, hbracket]

/-- `written` is read as `v` wherever it stands in a container. -/
structure Encodes (depth : ℕ) (written : List Char) (v : Json) : Prop where
  scan : ∀ c rest, c = ',' ∨ c = '}' → scanValue depth (written ++ c :: rest) = .ok (v, c :: rest)
  tight : ∀ rest, skipSpace (written ++ rest) = written ++ rest

lemma encodes_quote (depth : ℕ) (s : String) : Encodes depth (quote s) (.str s) where
  scan c rest _ := scanValue_quote depth s (c :: rest)
  tight _ := rfl

lemma encodes_numeral {depth n : ℕ} (hlen : (numeral n).length ≤ PyText.maxIntDigits) :
    Encodes depth (numeral n) (.int n) where
  scan c rest hc := by
    refine scanValue_numeral hlen ?_
    rintro _ ⟨⟩
    rcases hc with rfl | rfl <;> decide
  tight rest := by
    have hdigit : ∀ c ∈ numeral n, c.isDigit :=
      fun c hc => Nat.isDigit_of_mem_toDigits (by decide) (by decide) hc
    have hne : numeral n ≠ [] := Nat.toDigits_ne_nil
    generalize numeral n = ds at *
    cases ds with
    | nil => exact absurd rfl hne
    | cons d ds =>
        have hd : ¬ isWhitespace d := by
          have hdigit := hdigit d List.mem_cons_self
          intro hspace
          simp only [isWhitespace, Bool.or_eq_true, decide_eq_true_eq] at hspace
          rcases hspace with ((rfl | rfl) | rfl) | h13
          · exact absurd hdigit (by decide)
          · exact absurd hdigit (by decide)
          · exact absurd hdigit (by decide)
          · rw [← Char.ofNat_toNat d, h13] at hdigit
            exact absurd hdigit (by decide)
        exact List.dropWhile_cons_of_neg hd

lemma assign_of_notMem {fields : List (String × Json)} {key : String} {v : Json}
    (h : key ∉ fields.map Prod.fst) : assign fields key v = fields ++ [(key, v)] := by
  have hany : (fields.any fun f => f.1 = key) = false := by
    rw [List.any_eq_false]
    intro f hf heq
    exact h (List.mem_map.mpr ⟨f, hf, of_decide_eq_true heq⟩)
  rw [assign, hany, if_neg Bool.false_ne_true]

/-- A member of an object: its name, its value as written, and its value. -/
abbrev Member := String × List Char × Json

def Member.written (m : Member) : String × List Char := (m.1, m.2.1)

def Member.read (m : Member) : String × Json := (m.1, m.2.2)

lemma scanMember_written {depth : ℕ} {key : String} {written : List Char} {v : Json}
    (h : Encodes depth written v) {c : Char} (hc : c = ',' ∨ c = '}') (rest : List Char) :
    scanMember (scanValue depth) (quote key ++ ':' :: (written ++ c :: rest)) =
      .ok ((key, v), c :: rest) := by
  have htext : quote key ++ ':' :: (written ++ c :: rest) =
      '"' :: (key.toList.flatMap escape ++ '"' :: ':' :: (written ++ c :: rest)) := by
    simp [quote]
  rw [htext, scanMember, scanString_quote]
  show (scanValue depth (skipSpace (written ++ c :: rest)) >>= fun r => _) = _
  rw [h.tight, h.scan c rest hc]
  rfl

lemma scanMembers_compact {depth : ℕ} (ms : List Member) :
    ∀ (n : ℕ) (fields : List (String × Json)) (rest : List Char), ms ≠ [] → ms.length ≤ n →
      ((fields ++ ms.map Member.read).map Prod.fst).Nodup →
      (∀ m ∈ ms, Encodes depth m.2.1 m.2.2) →
      scanMembers (scanValue depth) n fields (compactMembers (ms.map Member.written) ++ rest) =
        .ok (fields ++ ms.map Member.read, rest) := by
  induction ms with
  | nil => exact fun _ _ _ h => absurd rfl h
  | cons m ms ih =>
      rintro (_ | n) fields rest - hn hnodup henc
      · exact absurd hn (by simp)
      · have hm := henc m List.mem_cons_self
        have hkey : m.1 ∉ fields.map Prod.fst := by
          rw [List.map_append, List.nodup_append] at hnodup
          intro hmem
          exact hnodup.2.2 _ hmem _ List.mem_cons_self rfl
        cases ms with
        | nil =>
            have htext : compactMembers ([m].map Member.written) ++ rest =
                quote m.1 ++ ':' :: (m.2.1 ++ '}' :: rest) := by
              simp [compactMembers, Member.written]
            rw [htext, scanMembers, scanMember_written hm (.inr rfl)]
            show Except.ok (assign fields m.1 m.2.2, rest) = _
            rw [assign_of_notMem hkey]
            rfl
        | cons m' ms =>
            have htext : compactMembers ((m :: m' :: ms).map Member.written) ++ rest =
                quote m.1 ++ ':' ::
                  (m.2.1 ++ ',' :: (compactMembers ((m' :: ms).map Member.written) ++ rest)) := by
              simp [compactMembers, Member.written]
            have htight : skipSpace (compactMembers ((m' :: ms).map Member.written) ++ rest) =
                compactMembers ((m' :: ms).map Member.written) ++ rest := by
              cases ms <;> rfl
            rw [htext, scanMembers, scanMember_written hm (.inl rfl)]
            show scanMembers (scanValue depth) n (assign fields m.1 m.2.2)
              (skipSpace (compactMembers ((m' :: ms).map Member.written) ++ rest)) = _
            rw [assign_of_notMem hkey, htight,
              ih n _ rest (by simp) (Nat.le_of_succ_le_succ hn) ?_ ?_]
            · rw [List.append_assoc]
              rfl
            · rw [List.append_assoc]
              exact hnodup
            · exact fun x hx => henc x (List.mem_cons_of_mem _ hx)

/-- **An object that has been written is read back**, when its names are distinct and each of its
values is read back. -/
theorem loads_compactObject (nested : ℕ) {ms : List Member} (hne : ms ≠ [])
    (hnodup : (ms.map Prod.fst).Nodup) (henc : ∀ m ∈ ms, Encodes nested m.2.1 m.2.2) :
    loads nested (Codec.encodeUtf8 (compactObject (ms.map Member.written))) =
      .ok (.obj (ms.map Member.read)) := by
  obtain ⟨m, ms, rfl⟩ := List.exists_cons_of_ne_nil hne
  obtain ⟨body, hbody⟩ : ∃ body, compactMembers ((m :: ms).map Member.written) = '"' :: body := by
    cases ms <;> exact ⟨_, rfl⟩
  have hdecode : Codec.decodeJson (Codec.encodeUtf8 (compactObject ((m :: ms).map Member.written))) =
      some (compactObject ((m :: ms).map Member.written)) := by
    have hdetect : Codec.detectEncoding
        (Codec.encodeUtf8 (compactObject ((m :: ms).map Member.written))) = .utf8 := by
      rw [compactObject, hbody]
      exact Codec.detectEncoding_ascii (by decide) (by decide) (by decide)
    rw [Codec.decodeJson, hdetect]
    exact Codec.utf8_encodeUtf8 _
  have hlen : ∀ ms : List Member, ms.length ≤ (compactMembers (ms.map Member.written)).length := by
    intro ms
    induction ms with
    | nil => exact Nat.zero_le _
    | cons m ms ih =>
        cases ms with
        | nil =>
            simp only [List.map_cons, List.map_nil, compactMembers, List.length_append,
              List.length_cons, List.length_nil]
            omega
        | cons m' ms =>
            simp only [List.map_cons, compactMembers, List.length_append, List.length_cons] at ih ⊢
            omega
  have hkeys : (([] ++ (m :: ms).map Member.read).map Prod.fst).Nodup := by
    rw [List.nil_append, List.map_map]
    exact hnodup
  have hmembers := scanMembers_compact (m :: ms) _ [] [] hne (hlen _) hkeys henc
  rw [List.append_nil, List.nil_append] at hmembers
  rw [loads, hdecode]
  show parse (nested + 1) ('{' :: compactMembers ((m :: ms).map Member.written)) = _
  have hscan : scanValue (nested + 1) ('{' :: compactMembers ((m :: ms).map Member.written)) =
      .ok (.obj ((m :: ms).map Member.read), []) := by
    rw [hbody] at hmembers ⊢
    show (scanMembers (scanValue nested) ('"' :: body).length [] ('"' :: body) >>= _) = _
    rw [hmembers]
    rfl
  rw [parse]
  show (scanValue (nested + 1) ('{' :: compactMembers ((m :: ms).map Member.written)) >>= _) = _
  rw [hscan]
  rfl

end Json
