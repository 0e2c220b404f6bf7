import SpeakrRunpod.Core.Scan
import SpeakrRunpod.Core.Text

/-!
# The redaction of log texts

`speakr_common/http_client_logging.py`: the three patterns whose matches are replaced in what `httpx`
and `httpcore` log, and the filter that applies them to a record.

* `bearer`, `bearerBytes`, `querySecret` — the patterns, each with a relation that says what it finds
  (`bearerAt_iff`, `bearerBytesAt_iff`, `querySecretAt_iff`).
* `redactHttpClientLogText` — the three substitutions, one after another.
* `LogRecord.filter` — the filter, which rewrites the record.
-/

namespace SpeakrRunpod

open PyText (isSpace)
open Scan

/-! ## Characters -/

/-- What `\w` matches: in ASCII the letters, the digits and the underscore, and elsewhere what the
Unicode database says, but no space. -/
structure WordClass where
  isWord : Char → Bool
  ascii : ∀ c : Char, c.toNat < 0x80 → isWord c = (c.isAlphanum || c = '_')
  space : ∀ c, isSpace c → isWord c = false

/-- The class in ASCII. -/
def asciiWords : WordClass where
  isWord c := c.toNat < 0x80 && (c.isAlphanum || c = '_')
  ascii c hc := by simp [hc]
  space c hc := by
    have hall : ∀ n ∈ PyText.spaces, ((Char.ofNat n).toNat < 0x80 &&
        ((Char.ofNat n).isAlphanum || Char.ofNat n = '_')) = false := by decide
    have hmem : c.toNat ∈ PyText.spaces := by simpa [isSpace] using hc
    have hchar := hall _ hmem
    rwa [Char.ofNat_toNat] at hchar

/-- The letter that a character is taken for where case is ignored.  Outside ASCII four characters
are taken for a letter of ASCII. -/
def foldCase (c : Char) : Char :=
  if c.toNat = 0x130 ∨ c.toNat = 0x131 then 'i'
  else if c.toNat = 0x17f then 's'
  else if c.toNat = 0x212a then 'k'
  else c.toLower

/-- `\b`: one of the two characters at a place is of `\w`, and one is not. -/
def wordBoundary (w : WordClass) (prev : Option Char) (l : List Char) : Bool :=
  prev.any w.isWord != l.head?.any w.isWord

/-- A word in any case at the beginning of a text. -/
def takeWord (word l : List Char) : Option (List Char × List Char) :=
  if (l.take word.length).map foldCase = word then some (l.take word.length, l.drop word.length)
  else none

/-! ## The patterns -/

/-- `(?i)\bBearer\s+\S+`. -/
def bearerAt (w : WordClass) (prev : Option Char) (l : List Char) : Option (Match Char) :=
  if wordBoundary w prev l then
    (takeWord "bearer".toList l).bind fun found =>
      let ws := found.2.takeWhile isSpace
      let later := found.2.dropWhile isSpace
      let token := later.takeWhile (!isSpace ·)
      if ws = [] ∨ token = [] then none
      else some ⟨found.1 ++ (ws ++ token), "Bearer ***".toList, later.dropWhile (!isSpace ·)⟩
  else none

/-- `b'Bearer[^']*'`. -/
def bearerBytesAt (_ : Option Char) (l : List Char) : Option (Match Char) :=
  if "b'Bearer".toList <+: l then
    let later := l.drop 8
    match later.dropWhile (· ≠ '\'') with
    | [] => none
    | quote :: rest =>
        some ⟨"b'Bearer".toList ++ (later.takeWhile (· ≠ '\'') ++ [quote]), "b'Bearer ***'".toList,
          rest⟩
  else none

/-- `first[_-]?second`, in any case. -/
def joinedWords (first second l : List Char) : Option (List Char × List Char) :=
  (takeWord first l).bind fun found =>
    let joint := (found.2.take 1).filter fun c => c = '_' || c = '-'
    (takeWord second (found.2.drop joint.length)).map fun found' =>
      (found.1 ++ (joint ++ found'.1), found'.2)

/-- `api[_-]?key|access[_-]?token`. -/
def secretName (l : List Char) : Option (List Char × List Char) :=
  (joinedWords "api".toList "key".toList l).orElse fun _ =>
    joinedWords "access".toList "token".toList l

/-- `[^&#\s]`. -/
def isValueChar (c : Char) : Bool := c ≠ '&' && c ≠ '#' && !isSpace c

/-- `([?&])(api[_-]?key|access[_-]?token)\s*=\s*([^&#\s]*)`. -/
def querySecretAt (_ : Option Char) : List Char → Option (Match Char)
  | [] => none
  | mark :: l =>
      if mark = '?' ∨ mark = '&' then
        (secretName l).bind fun found =>
          match found.2.dropWhile isSpace with
          | '=' :: later =>
              let value := later.dropWhile isSpace
              some ⟨mark :: (found.1 ++ (found.2.takeWhile isSpace ++
                  '=' :: (later.takeWhile isSpace ++ value.takeWhile isValueChar))),
                mark :: (found.1 ++ "=***".toList), value.dropWhile isValueChar⟩
          | _ => none
      else none

/-! ### What they find -/

/-- The characters of a list are in a class, and the text after them begins with none. -/
structure Span (P : Char → Bool) (v rest : List Char) : Prop where
  inside : ∀ c ∈ v, P c = true
  stop : ∀ c, rest.head? = some c → P c = false

lemma span_split (P : Char → Bool) (l : List Char) : Span P (l.takeWhile P) (l.dropWhile P) where
  inside _ hc := List.mem_takeWhile_imp hc
  stop c hc := by
    have hnot := List.head?_dropWhile_not P l
    rw [hc] at hnot
    simpa using hnot

lemma Span.takeWhile_eq {P : Char → Bool} {v rest : List Char} (h : Span P v rest) :
    (v ++ rest).takeWhile P = v := by
  rw [List.takeWhile_append_of_pos h.inside]
  cases rest with
  | nil => simp
  | cons c rest => simp [h.stop c rfl]

lemma Span.dropWhile_eq {P : Char → Bool} {v rest : List Char} (h : Span P v rest) :
    (v ++ rest).dropWhile P = rest := by
  rw [List.dropWhile_append_of_pos h.inside]
  cases rest with
  | nil => simp
  | cons c rest => simp [h.stop c rfl]

lemma takeWord_iff {word l m r : List Char} :
    takeWord word l = some (m, r) ↔ l = m ++ r ∧ m.map foldCase = word := by
  rw [takeWord]
  constructor
  · intro h
    split_ifs at h with hword
    obtain ⟨rfl, rfl⟩ := Prod.mk.inj (Option.some.inj h)
    exact ⟨(List.take_append_drop _ l).symm, hword⟩
  · rintro ⟨rfl, rfl⟩
    rw [List.length_map, List.take_left, List.drop_left, if_pos rfl]

/-- A space is not taken for a letter. -/
lemma foldCase_space {c : Char} (h : isSpace c) : foldCase c = c := by
  have hall : ∀ n ∈ PyText.spaces, foldCase (Char.ofNat n) = Char.ofNat n := by decide
  have hmem : c.toNat ∈ PyText.spaces := by simpa [isSpace] using h
  rw [← Char.ofNat_toNat c]
  exact hall _ hmem

/-- What is taken for a letter is no space. -/
lemma not_space_of_letter {c : Char} (h : (foldCase c).isLower = true) : isSpace c = false := by
  cases hspace : isSpace c with
  | false => rfl
  | true =>
      have hall : ∀ n ∈ PyText.spaces, (Char.ofNat n).isLower = false := by decide
      have hmem : c.toNat ∈ PyText.spaces := by simpa [isSpace] using hspace
      rw [foldCase_space hspace, ← Char.ofNat_toNat c, hall _ hmem] at h
      cases h

lemma letters_of_word {word ref : List Char} (h : word.map foldCase = ref)
    (href : ref.all Char.isLower = true) : ∀ c ∈ word, (foldCase c).isLower = true := by
  intro c hc
  exact List.all_eq_true.mp href _ (h ▸ List.mem_map_of_mem hc)

/-- What `bearer` finds. -/
inductive IsBearer (w : WordClass) (prev : Option Char) : List Char → Match Char → Prop
  | mk {word ws token rest : List Char} (hprev : prev.any w.isWord = false)
      (hword : word.map foldCase = "bearer".toList) (hws : ∀ c ∈ ws, isSpace c = true)
      (hws_ne : ws ≠ []) (htoken : Span (!isSpace ·) token rest) (htoken_ne : token ≠ []) :
      IsBearer w prev (word ++ (ws ++ (token ++ rest)))
        ⟨word ++ (ws ++ token), "Bearer ***".toList, rest⟩

lemma bytesStart_eq : "b'Bearer".toList = 'b' :: '\'' :: "Bearer".toList := rfl

/-- What `bearerBytes` finds. -/
inductive IsBearerBytes : List Char → Match Char → Prop
  | mk {inner rest : List Char} (hinner : '\'' ∉ inner) :
      IsBearerBytes ("b'Bearer".toList ++ (inner ++ '\'' :: rest))
        ⟨"b'Bearer".toList ++ (inner ++ ['\'']), "b'Bearer ***'".toList, rest⟩

/-- The names of the parameters that are masked. -/
inductive IsSecretName : List Char → Prop
  | mk {first joint second : List Char} (hjoint : joint ∈ [[], ['_'], ['-']])
      (hwords : (first.map foldCase, second.map foldCase) ∈
        [("api".toList, "key".toList), ("access".toList, "token".toList)]) :
      IsSecretName (first ++ (joint ++ second))

/-- Such a name has letters and joints only. -/
lemma IsSecretName.chars {name : List Char} (h : IsSecretName name) :
    ∀ c ∈ name, (foldCase c).isLower = true ∨ c = '_' ∨ c = '-' := by
  obtain ⟨hjoint, hwords⟩ := h
  rename_i first joint second
  simp only [List.mem_cons, List.not_mem_nil, or_false, Prod.mk.injEq] at hjoint hwords
  have hfirst : ∀ c ∈ first, (foldCase c).isLower = true := by
    rcases hwords with ⟨h, -⟩ | ⟨h, -⟩
    · exact letters_of_word h (by decide)
    · exact letters_of_word h (by decide)
  have hsecond : ∀ c ∈ second, (foldCase c).isLower = true := by
    rcases hwords with ⟨-, h⟩ | ⟨-, h⟩
    · exact letters_of_word h (by decide)
    · exact letters_of_word h (by decide)
  intro c hc
  rcases List.mem_append.mp hc with hc | hc
  · exact .inl (hfirst c hc)
  · rcases List.mem_append.mp hc with hc | hc
    · rcases hjoint with rfl | rfl | rfl
      · simp at hc
      · exact .inr (.inl (List.mem_singleton.mp hc))
      · exact .inr (.inr (List.mem_singleton.mp hc))
    · exact .inl (hsecond c hc)

/-- What `querySecret` finds. -/
inductive IsQuerySecret : List Char → Match Char → Prop
  | mk {mark : Char} {name ws ws' value rest : List Char} (hmark : mark = '?' ∨ mark = '&')
      (hname : IsSecretName name) (hws : ∀ c ∈ ws, isSpace c = true)
      (hws' : Span isSpace ws' (value ++ rest)) (hvalue : Span isValueChar value rest) :
      IsQuerySecret (mark :: (name ++ (ws ++ '=' :: (ws' ++ (value ++ rest)))))
        ⟨mark :: (name ++ (ws ++ '=' :: (ws' ++ value))), mark :: (name ++ "=***".toList), rest⟩

lemma foldCase_eq_b {c : Char} : foldCase c = 'b' ↔ c = 'b' ∨ c = 'B' := by
  constructor
  · intro h
    unfold foldCase at h
    split_ifs at h with hi hs hk
    · exact absurd h (by decide)
    · exact absurd h (by decide)
    · exact absurd h (by decide)
    · rcases Nat.lt_or_ge c.toNat 0x80 with hc | hc
      · have hall : ∀ n < 0x80, (Char.ofNat n).toLower = 'b' →
            Char.ofNat n = 'b' ∨ Char.ofNat n = 'B' := by decide
        rw [← Char.ofNat_toNat c] at h ⊢
        exact hall _ hc h
      · rw [PyText.toLower_eq_self hc] at h
        exact .inl h
  · rintro (rfl | rfl)
    · decide
    · decide

/-- The word begins with a letter, so that only the character in front decides on the boundary. -/
lemma wordBoundary_bearer (w : WordClass) (prev : Option Char) {word : List Char}
    (hword : word.map foldCase = "bearer".toList) (l : List Char) :
    wordBoundary w prev (word ++ l) = !prev.any w.isWord := by
  obtain ⟨c, word, rfl, hc, -⟩ := List.map_eq_cons_iff.mp hword
  have hletter : w.isWord c = true := by
    rcases foldCase_eq_b.mp hc with rfl | rfl
    · rw [w.ascii _ (by decide)]
      decide
    · rw [w.ascii _ (by decide)]
      decide
  simp [wordBoundary, hletter]

lemma bearerAt_iff {w : WordClass} {prev : Option Char} {l : List Char} {f : Match Char} :
    bearerAt w prev l = some f ↔ IsBearer w prev l f := by
  constructor
  · intro h
    unfold bearerAt at h
    split_ifs at h with hboundary
    obtain ⟨⟨word, later⟩, htake, hfound⟩ := Option.bind_eq_some_iff.mp h
    obtain ⟨rfl, hword⟩ := takeWord_iff.mp htake
    rw [wordBoundary_bearer w prev hword, Bool.not_eq_true'] at hboundary
    dsimp only at hfound
    split_ifs at hfound with hempty
    rw [not_or] at hempty
    obtain rfl := Option.some.inj hfound
    have htoken := span_split (!isSpace ·) (later.dropWhile isSpace)
    have hmk := IsBearer.mk hboundary hword (span_split isSpace later).inside hempty.1 htoken
      hempty.2
    rwa [List.takeWhile_append_dropWhile, List.takeWhile_append_dropWhile] at hmk
  · rintro ⟨hprev, hword, hws, hws_ne, htoken, htoken_ne⟩
    rename_i word ws token rest
    have hspaces : Span isSpace ws (token ++ rest) := by
      refine ⟨hws, fun c hc => ?_⟩
      cases token with
      | nil => exact absurd rfl htoken_ne
      | cons d token =>
          obtain rfl : d = c := by simpa using hc
          simpa using htoken.inside d List.mem_cons_self
    have htake : takeWord "bearer".toList (word ++ (ws ++ (token ++ rest))) =
        some (word, ws ++ (token ++ rest)) := takeWord_iff.mpr ⟨rfl, hword⟩
    rw [bearerAt, wordBoundary_bearer w prev hword, hprev, htake, if_pos Bool.not_false,
      Option.bind_some]
    dsimp only
    rw [hspaces.takeWhile_eq, hspaces.dropWhile_eq, htoken.takeWhile_eq, htoken.dropWhile_eq,
      if_neg (not_or.mpr ⟨hws_ne, htoken_ne⟩)]

lemma bearerBytesAt_iff {prev : Option Char} {l : List Char} {f : Match Char} :
    bearerBytesAt prev l = some f ↔ IsBearerBytes l f := by
  constructor
  · intro h
    unfold bearerBytesAt at h
    split_ifs at h with hprefix
    obtain ⟨later, rfl⟩ := hprefix
    have hlater : ("b'Bearer".toList ++ later).drop 8 = later := rfl
    rw [hlater] at h
    have hspan := span_split (· ≠ '\'') later
    dsimp only at h
    cases hrest : later.dropWhile (· ≠ '\'') with
    | nil =>
        rw [hrest] at h
        cases h
    | cons quote rest =>
        rw [hrest] at h hspan
        obtain rfl := Option.some.inj h
        obtain rfl : quote = '\'' := by simpa using hspan.stop quote rfl
        have hinner : '\'' ∉ later.takeWhile (· ≠ '\'') := by
          intro hmem
          exact absurd (hspan.inside _ hmem) (by decide)
        have hmk : IsBearerBytes ("b'Bearer".toList ++ (_ ++ '\'' :: rest)) ⟨_, _, rest⟩ :=
          .mk hinner
        rwa [← hrest, List.takeWhile_append_dropWhile] at hmk
  · rintro ⟨hinner⟩
    rename_i inner rest
    have hspan : Span (· ≠ '\'') inner ('\'' :: rest) := by
      refine ⟨fun c hc => ?_, by simp⟩
      rw [decide_eq_true_eq]
      rintro rfl
      exact hinner hc
    have hlater : ("b'Bearer".toList ++ (inner ++ '\'' :: rest)).drop 8 =
        inner ++ '\'' :: rest := rfl
    rw [bearerBytesAt, if_pos (List.prefix_append _ _), hlater]
    dsimp only
    rw [hspan.takeWhile_eq, hspan.dropWhile_eq]

/-- The joint of two words is read off the next character. -/
lemma joint_cases (l : List Char) :
    (l.take 1).filter (fun c => c = '_' || c = '-') ∈ [[], ['_'], ['-']] ∧
      (l.take 1).filter (fun c => c = '_' || c = '-') ++
        l.drop ((l.take 1).filter fun c => c = '_' || c = '-').length = l := by
  cases l with
  | nil => simp
  | cons c l =>
      by_cases hunderscore : c = '_'
      · simp [hunderscore]
      · by_cases hhyphen : c = '-'
        · simp [hhyphen]
        · simp [hunderscore, hhyphen]

lemma joinedWords_iff {first second l name rest : List Char}
    (hsecond : ∃ c word, second = c :: word ∧ c ≠ '_' ∧ c ≠ '-') :
    joinedWords first second l = some (name, rest) ↔
      ∃ m joint m', joint ∈ [[], ['_'], ['-']] ∧ m.map foldCase = first ∧
        m'.map foldCase = second ∧ name = m ++ (joint ++ m') ∧ l = name ++ rest := by
  constructor
  · intro h
    obtain ⟨⟨m, l₁⟩, htake, hfound⟩ := Option.bind_eq_some_iff.mp h
    obtain ⟨⟨m', l₂⟩, htake', hpair⟩ := Option.map_eq_some_iff.mp hfound
    obtain ⟨rfl, hfirst⟩ := takeWord_iff.mp htake
    obtain ⟨hlater, hword⟩ := takeWord_iff.mp htake'
    obtain ⟨rfl, rfl⟩ := Prod.mk.inj hpair
    obtain ⟨hjoint, hwhole⟩ := joint_cases l₁
    refine ⟨m, _, m', hjoint, hfirst, hword, rfl, ?_⟩
    dsimp only at hlater ⊢
    rw [List.append_assoc, List.append_assoc, ← hlater, hwhole]
  · rintro ⟨m, joint, m', hjoint, hfirst, hword, rfl, rfl⟩
    obtain ⟨c, word, rfl, hunderscore, hhyphen⟩ := hsecond
    obtain ⟨d, tail, rfl, hd, htail⟩ := List.map_eq_cons_iff.mp hword
    -- A letter of the second word is no joint.
    have hd_ne : d ≠ '_' ∧ d ≠ '-' := by
      constructor
      · rintro rfl
        exact hunderscore (hd.symm.trans (by decide))
      · rintro rfl
        exact hhyphen (hd.symm.trans (by decide))
    have htake : takeWord first (m ++ (joint ++ d :: tail) ++ rest) =
        some (m, joint ++ (d :: tail ++ rest)) := takeWord_iff.mpr ⟨by simp, hfirst⟩
    have hread : ((joint ++ (d :: tail ++ rest)).take 1).filter
        (fun c => c = '_' || c = '-') = joint := by
      simp only [List.mem_cons, List.not_mem_nil, or_false] at hjoint
      rcases hjoint with rfl | rfl | rfl
      · simp [hd_ne]
      · simp
      · simp
    have htake' : takeWord (c :: word) (d :: tail ++ rest) = some (d :: tail, rest) :=
      takeWord_iff.mpr ⟨rfl, hword⟩
    rw [joinedWords, htake, Option.bind_some]
    dsimp only
    rw [hread, List.drop_left, htake', Option.map_some]

lemma secretName_iff {l name rest : List Char} :
    secretName l = some (name, rest) ↔ IsSecretName name ∧ l = name ++ rest := by
  have hkey : ∃ c word, "key".toList = c :: word ∧ c ≠ '_' ∧ c ≠ '-' :=
    ⟨'k', "ey".toList, rfl, by decide, by decide⟩
  have htoken : ∃ c word, "token".toList = c :: word ∧ c ≠ '_' ∧ c ≠ '-' :=
    ⟨'t', "oken".toList, rfl, by decide, by decide⟩
  rw [secretName, Option.orElse_eq_or]
  constructor
  · intro h
    rcases Option.or_eq_some_iff.mp h with h | ⟨-, h⟩
    · obtain ⟨m, joint, m', hjoint, hfirst, hsecond, rfl, rfl⟩ := (joinedWords_iff hkey).mp h
      exact ⟨.mk hjoint (by rw [hfirst, hsecond]; simp), rfl⟩
    · obtain ⟨m, joint, m', hjoint, hfirst, hsecond, rfl, rfl⟩ := (joinedWords_iff htoken).mp h
      exact ⟨.mk hjoint (by rw [hfirst, hsecond]; simp), rfl⟩
  · rintro ⟨⟨hjoint, hwords⟩, rfl⟩
    rename_i m joint m'
    simp only [List.mem_cons, List.not_mem_nil, or_false, Prod.mk.injEq] at hwords
    rcases hwords with ⟨hfirst, hsecond⟩ | ⟨hfirst, hsecond⟩
    · rw [(joinedWords_iff hkey).mpr ⟨m, joint, m', hjoint, hfirst, hsecond, rfl, rfl⟩]
      rfl
    · have hnone : joinedWords "api".toList "key".toList (m ++ (joint ++ m') ++ rest) = none := by
        -- The second letters of `api` and `access` differ.
        have htake : takeWord "api".toList (m ++ (joint ++ m') ++ rest) = none := by
          rw [takeWord, if_neg]
          intro hapi
          have hlen : m.length = 6 := by simpa using congrArg List.length hfirst
          rw [List.append_assoc, List.take_append_of_le_length (by rw [hlen]; decide),
            List.map_take, hfirst] at hapi
          exact absurd hapi (by decide)
        rw [joinedWords, htake, Option.bind_none]
      rw [hnone, (joinedWords_iff htoken).mpr ⟨m, joint, m', hjoint, hfirst, hsecond, rfl, rfl⟩]
      rfl

lemma querySecretAt_iff {prev : Option Char} {l : List Char} {f : Match Char} :
    querySecretAt prev l = some f ↔ IsQuerySecret l f := by
  constructor
  · intro h
    cases l with
    | nil => cases h
    | cons mark l =>
        rw [querySecretAt] at h
        split_ifs at h with hmark
        obtain ⟨⟨name, l₁⟩, hname, hfound⟩ := Option.bind_eq_some_iff.mp h
        obtain ⟨hsecret, rfl⟩ := secretName_iff.mp hname
        have hws := span_split isSpace l₁
        dsimp only at hfound
        cases hlater : l₁.dropWhile isSpace with
        | nil =>
            rw [hlater] at hfound
            cases hfound
        | cons equals later =>
            rw [hlater] at hfound
            by_cases hequals : equals = '='
            · subst hequals
              obtain rfl := Option.some.inj hfound
              have hws' := span_split isSpace later
              have hvalue := span_split isValueChar (later.dropWhile isSpace)
              have hvalue_eq := List.takeWhile_append_dropWhile (p := isValueChar)
                (l := later.dropWhile isSpace)
              rw [← hvalue_eq] at hws'
              have hmk := IsQuerySecret.mk hmark hsecret hws.inside hws' hvalue
              rwa [List.takeWhile_append_dropWhile, List.takeWhile_append_dropWhile, ← hlater,
                List.takeWhile_append_dropWhile] at hmk
            · split at hfound
              · rename_i heq
                exact absurd (List.cons.inj heq).1 hequals
              · cases hfound
  · rintro ⟨hmark, hname, hws, hws', hvalue⟩
    rename_i mark name ws ws' value rest
    have hspan : Span isSpace ws ('=' :: (ws' ++ (value ++ rest))) := by
      refine ⟨hws, fun c hc => ?_⟩
      obtain rfl : '=' = c := by simpa using hc
      decide
    have hread : secretName (name ++ (ws ++ '=' :: (ws' ++ (value ++ rest)))) =
        some (name, ws ++ '=' :: (ws' ++ (value ++ rest))) := secretName_iff.mpr ⟨hname, rfl⟩
    rw [querySecretAt, if_pos hmark, hread, Option.bind_some]
    dsimp only
    rw [hspan.takeWhile_eq, hspan.dropWhile_eq]
    show some (Match.mk _ _ _) = _
    rw [hws'.takeWhile_eq, hws'.dropWhile_eq, hvalue.takeWhile_eq, hvalue.dropWhile_eq]

/-! ## The substitutions -/

/-- `_RE_HTTP_LOG_BEARER`, with its replacement. -/
def bearer (w : WordClass) : Pattern Char where
  matchAt := bearerAt w
  starts c := foldCase c = 'b'
  text_append_rest h := by
    obtain ⟨⟩ := bearerAt_iff.mp h
    simp
  text_starts h := by
    obtain ⟨-, hword⟩ := bearerAt_iff.mp h
    obtain ⟨c, word, rfl, hc, -⟩ := List.map_eq_cons_iff.mp hword
    exact ⟨c, _, rfl, decide_eq_true hc⟩
  out_starts h := by
    obtain ⟨⟩ := bearerAt_iff.mp h
    exact ⟨'B', "earer ***".toList, rfl, by decide⟩

/-- `_RE_HTTP_LOG_BEARER_BYTES`, with its replacement. -/
def bearerBytes : Pattern Char where
  matchAt := bearerBytesAt
  starts c := c = 'b'
  text_append_rest h := by
    obtain ⟨⟩ := bearerBytesAt_iff.mp h
    simp
  text_starts h := by
    obtain ⟨⟩ := bearerBytesAt_iff.mp h
    exact ⟨'b', _, rfl, by decide⟩
  out_starts h := by
    obtain ⟨⟩ := bearerBytesAt_iff.mp h
    exact ⟨'b', _, rfl, by decide⟩

/-- `_RE_HTTP_LOG_QUERY_SECRET`, with its replacement. -/
def querySecret : Pattern Char where
  matchAt := querySecretAt
  starts c := c = '?' || c = '&'
  text_append_rest h := by
    obtain ⟨⟩ := querySecretAt_iff.mp h
    simp
  text_starts h := by
    obtain ⟨hmark⟩ := querySecretAt_iff.mp h
    exact ⟨_, _, rfl, by simpa using hmark⟩
  out_starts h := by
    obtain ⟨hmark⟩ := querySecretAt_iff.mp h
    exact ⟨_, _, rfl, by simpa using hmark⟩

section Finds

variable {prev : Option Char} {l : List Char} {f : Match Char}

lemma bearer_matchAt {w : WordClass} : (bearer w).matchAt prev l = some f ↔ IsBearer w prev l f :=
  bearerAt_iff

lemma bearerBytes_matchAt : bearerBytes.matchAt prev l = some f ↔ IsBearerBytes l f :=
  @bearerBytesAt_iff prev l f

lemma querySecret_matchAt : querySecret.matchAt prev l = some f ↔ IsQuerySecret l f :=
  @querySecretAt_iff prev l f

end Finds

/-- `redact_http_client_log_text`. -/
def redactHttpClientLogText (w : WordClass) (text : List Char) : List Char :=
  sub querySecret (sub bearerBytes (sub (bearer w) text))

/-! ## The filter -/

/-- A log record: the logger, and what `getMessage` returns; `none` where it raises. -/
structure LogRecord where
  name : String
  message : Option (List Char)

def loggerPrefixes : List String := ["httpx", "httpcore"]

/-- `RedactHttpClientSecretsFilter.filter`: the record, with its message rewritten, and whether it is
to be handled. -/
def LogRecord.filter (w : WordClass) (record : LogRecord) : LogRecord × Bool :=
  if loggerPrefixes.any fun start => start.toList.isPrefixOf record.name.toList then
    match record.message with
    | none => (record, true)
    | some merged => ({ record with message := some (redactHttpClientLogText w merged) }, true)
  else (record, true)

/-- What the handlers of the root logger get of a record, one after another: each has the filter. -/
def LogRecord.handled (w : WordClass) : ℕ → LogRecord → List (Option (List Char))
  | 0, _ => []
  | handlers + 1, record =>
      let filtered := record.filter w
      if filtered.2 then filtered.1.message :: LogRecord.handled w handlers filtered.1
      else LogRecord.handled w handlers filtered.1

end SpeakrRunpod
