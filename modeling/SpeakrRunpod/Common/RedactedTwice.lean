import SpeakrRunpod.Common.RedactedSecrets

/-!
# Redacting a text twice

The filter stands at every handler of the root logger and rewrites the record that they share, so what
it makes of a text is redacted again.

* `bearer_in_tokens`, `bearer_in_dumps`, `bearer_in_redacted` — where a token can be found after each
  of the three substitutions: at the mask of a token, or at the mask of a dump of bytes.
* `DumpStays` — the condition: a dump is found by the second pattern and not covered by the others.
* `dumpStays_iff` — such a text keeps a dump; `quote_taken` — a second pass takes its quote away.
* `redact_twice_iff` — one pass is enough, and all handlers read the same, exactly for the other texts.
-/

namespace SpeakrRunpod

open PyText (isSpace)
open Scan

/-! ## A place in a rewritten text -/

section Places

variable {w : WordClass} {p : Pattern Char} {l : List Char} {qs rs : List (Piece Char)}

/-- In front of a character of a value, the last character is the same in both texts. -/
lemma same_before (hp : StopsAtValues p) (h : Scans p none l (qs ++ rs)) {c : Char} {r : List Char}
    (hrs : texts rs = c :: r) (hc : isValueChar c = true) :
    after none (outs qs) = after none (texts qs) := by
  rcases List.eq_nil_or_concat qs with rfl | ⟨qs, x, rfl⟩
  · rfl
  · rw [List.concat_eq_append] at h ⊢
    rw [outs_append, texts_append, after_append, after_append]
    cases x with
    | lit d => rfl
    | hit text out =>
        rw [List.append_assoc, List.singleton_append] at h
        rcases hp _ _ _ h.found with hvalue | ⟨htext, hout⟩
        · have hnot := hvalue c (by rw [hrs]; rfl)
          rw [hc] at hnot
          cases hnot
        · simp only [outs_hit, outs_nil, texts_hit, texts_nil, List.append_nil, after]
          dsimp only at htext hout
          rw [htext, hout]
          rfl

/-- The pattern finds nothing that begins with a letter other than `b`, or with a space. -/
def Quiet (p : Pattern Char) : Prop :=
  (∀ c, (foldCase c).isLower = true → foldCase c ≠ 'b' → p.starts c = false) ∧
    ∀ c, isSpace c = true → p.starts c = false

/-- Behind its first letter the word `bearer` has no `b`. -/
lemma bearer_letters {word : List Char} (h : word.map foldCase = "bearer".toList) :
    ∃ c word', word = c :: word' ∧ foldCase c = 'b' ∧
      ∀ d ∈ word', (foldCase d).isLower = true ∧ foldCase d ≠ 'b' := by
  obtain ⟨c, word, rfl, hc, htail⟩ := List.map_eq_cons_iff.mp h
  have hearer : word.map foldCase = "earer".toList := htail
  have hall : ("earer".toList.all fun d => d.isLower && d ≠ 'b') = true := by decide
  refine ⟨c, word, rfl, hc, fun d hd => ?_⟩
  have hmem : foldCase d ∈ "earer".toList := by
    rw [← hearer]
    exact List.mem_map_of_mem hd
  simpa using List.all_eq_true.mp hall _ hmem

/-- **A token that is found behind a substitution was in the text before**, if its first letter was. -/
lemma bearer_back (hquiet : Quiet p) {c : Char} (hscan : Scans p none l (qs ++ Piece.lit c :: rs))
    {prev : Option Char} {f : Match Char}
    (hmatch : (bearer w).matchAt prev (c :: outs rs) = some f) :
    ∃ g, (bearer w).matchAt prev (c :: texts rs) = some g := by
  generalize hl : c :: outs rs = whole at hmatch
  obtain ⟨hprev, hword, hws, hws_ne, htoken, htoken_ne⟩ := bearer_matchAt.mp hmatch
  rename_i word ws token rest
  obtain ⟨d, word, rfl, -, hletters⟩ := bearer_letters hword
  obtain ⟨rfl, houts⟩ := List.cons.inj hl
  have hbegins : ∀ x ∈ rs, x.Begins p := fun x hx => hscan.begins x (by simp [hx])
  have hstarts : ∀ d ∈ word ++ ws, p.starts d = false := by
    intro d hd
    rcases List.mem_append.mp hd with hd | hd
    · exact hquiet.1 d (hletters d hd).1 (hletters d hd).2
    · exact hquiet.2 d (hws d hd)
  have hsplit : outs rs = (word ++ ws) ++ (token ++ rest) := by
    rw [houts, List.append_eq, List.append_assoc]
  obtain ⟨rs', rfl, hrs'⟩ := outs_literal hbegins hstarts hsplit
  -- What is behind the spaces begins with no space in the text, either.
  obtain ⟨d, r, hr, hd⟩ : ∃ d r, texts rs' = d :: r ∧ isSpace d = false := by
    obtain ⟨t, token, rfl⟩ := List.exists_cons_of_ne_nil htoken_ne
    have ht : isSpace t = false := by simpa using htoken.inside t List.mem_cons_self
    cases rs' with
    | nil => cases hrs'
    | cons x rs' =>
        cases x with
        | lit e =>
            obtain ⟨rfl, -⟩ := List.cons.inj hrs'
            exact ⟨e, _, rfl, ht⟩
        | hit text out =>
            obtain ⟨⟨e, v, rfl, he⟩, -⟩ := hbegins (.hit text out) (by simp)
            refine ⟨e, v ++ texts rs', rfl, ?_⟩
            cases hspace : isSpace e with
            | false => rfl
            | true => exact absurd ((hquiet.2 e hspace).symm.trans he) (by decide)
  have hspan := span_split (!isSpace ·) (texts rs')
  have hne : (texts rs').takeWhile (!isSpace ·) ≠ [] := by
    rw [hr]
    simp [hd]
  have hfound := bearer_matchAt.mpr (IsBearer.mk hprev hword hws hws_ne hspan hne)
  rw [List.takeWhile_append_dropWhile] at hfound
  rw [texts_append, texts_lits, List.append_assoc]
  exact ⟨_, hfound⟩

end Places

/-! ## Where a token is found after a substitution -/

/-- The mask of a token, with nothing or a space behind it. -/
def Masked (l : List Char) : Prop := ∃ l', l = "Bearer ***".toList ++ l' ∧ SpaceNext l'

/-- Between `a` and `l`, the mask of a dump of bytes. -/
def InMask (a l : List Char) : Prop :=
  ∃ a' l', a = a' ++ "b'".toList ∧ l = "Bearer ***'".toList ++ l'

section Match

variable {w : WordClass} {p : Pattern Char} {prev : Option Char} {a l : List Char} {f : Match Char}
  {qs rs : List (Piece Char)}

lemma quiet_bearer : Quiet (bearer w) :=
  ⟨fun _ _ hb => decide_eq_false hb, fun _ hc => starts_space hc⟩

lemma quiet_bearerBytes : Quiet bearerBytes := by
  refine ⟨fun c _ hb => decide_eq_false ?_, fun c hc => decide_eq_false ?_⟩
  · rintro rfl
    exact hb (by decide)
  · rintro rfl
    exact absurd hc (by decide)

lemma quiet_querySecret : Quiet querySecret := by
  have hstarts : ∀ c, c ≠ '?' → c ≠ '&' → querySecret.starts c = false := by
    intro c hquestion hamp
    simp [querySecret, hquestion, hamp]
  constructor
  · intro c hletter _
    refine hstarts c ?_ ?_
    · rintro rfl
      exact absurd hletter (by decide)
    · rintro rfl
      exact absurd hletter (by decide)
  · intro c hc
    refine hstarts c ?_ ?_
    · rintro rfl
      exact absurd hc (by decide)
    · rintro rfl
      exact absurd hc (by decide)

/-- A token begins with the letter `b`, in any case, and goes on with another letter. -/
lemma bearer_begins (h : (bearer w).matchAt prev l = some f) :
    ∃ c d r, l = c :: d :: r ∧ foldCase c = 'b' ∧ (foldCase d).isLower = true := by
  obtain ⟨-, hword⟩ := bearer_matchAt.mp h
  obtain ⟨c, word, rfl, hc, hletters⟩ := bearer_letters hword
  cases word with
  | nil =>
      have hlength := congrArg List.length hword
      rw [List.length_map, List.length_singleton] at hlength
      exact absurd hlength (by decide)
  | cons d word => exact ⟨c, d, _, rfl, hc, (hletters d List.mem_cons_self).1⟩

lemma isValueChar_of_letter {c : Char} (h : (foldCase c).isLower = true) :
    isValueChar c = true := by
  have hspace := not_space_of_letter h
  have hamp : c ≠ '&' := by
    rintro rfl
    exact absurd h (by decide)
  have hhash : c ≠ '#' := by
    rintro rfl
    exact absurd h (by decide)
  simp [isValueChar, hspace, hamp, hhash]

/-- What is found where a character is kept was found there before the substitution. -/
lemma found_before (hp : StopsAtValues p) (hquiet : Quiet p) {c : Char}
    (h : Scans p none l (qs ++ Piece.lit c :: rs))
    (hmatch : (bearer w).matchAt (after none (outs qs)) (outs (.lit c :: rs)) = some f) :
    ∃ g, (bearer w).matchAt (after none (texts qs)) (texts (.lit c :: rs)) = some g := by
  obtain ⟨d, e, r, hl, hd, -⟩ := bearer_begins hmatch
  obtain ⟨rfl, -⟩ := List.cons.inj hl
  have hletter : isValueChar c = true := isValueChar_of_letter (by rw [hd]; decide)
  rw [same_before hp h (texts_lit c rs) hletter] at hmatch
  exact bearer_back hquiet h hmatch

/-- Behind a mask of the first substitution there is nothing or a space. -/
lemma bearer_space {text out : List Char}
    (h : Scans (bearer w) prev l (qs ++ Piece.hit text out :: rs)) :
    SpaceNext (outs rs) := by
  have hspace : SpaceNext (texts rs) := by
    have hmatch := h.found
    generalize hl : text ++ texts rs = whole at hmatch
    generalize hf : Match.mk text out (texts rs) = g at hmatch
    obtain ⟨-, -, -, -, htoken, -⟩ := bearer_matchAt.mp hmatch
    obtain ⟨-, -, rfl⟩ := Match.mk.inj hf
    intro c hc
    simpa using htoken.stop c hc
  have hsplit : qs ++ Piece.hit text out :: rs = (qs ++ [.hit text out]) ++ rs := by simp
  rw [hsplit] at h
  intro c hc
  rw [h.right.head_outs fun c hc => starts_space (hspace c hc)] at hc
  exact hspace c hc

/-- **After the first substitution** tokens are found at masks only. -/
lemma bearer_in_tokens {x : List Char} (h : sub (bearer w) x = a ++ l)
    (hmatch : (bearer w).matchAt (after none a) l = some f) : Masked l := by
  obtain ⟨c, d, r, rfl, hc, -⟩ := bearer_begins hmatch
  have hinside : ∀ qs text e v rs,
      Scans (bearer w) none x (qs ++ Piece.hit text (e :: v) :: rs) → c ∉ v := by
    intro qs text e v rs hscan hmem
    have hout := bearer_out hscan
    have hv : v = "earer ***".toList := (List.cons.inj hout).2
    have hall : ("earer ***".toList.all fun d => foldCase d ≠ 'b') = true := by decide
    rw [hv] at hmem
    exact absurd hc (by simpa using List.all_eq_true.mp hall c hmem)
  obtain ⟨qs, rs, hscan, rfl, hrs⟩ := sub_place h hinside
  rw [← hrs] at hmatch ⊢
  cases rs with
  | nil => cases hrs
  | cons x rs =>
      cases x with
      | lit e =>
          obtain ⟨g, hg⟩ := found_before bearer_stops quiet_bearer hscan hmatch
          rw [texts_lit, hscan.not_found] at hg
          cases hg
      | hit text out =>
          refine ⟨outs rs, ?_, bearer_space hscan⟩
          rw [outs_hit, bearer_out hscan]

/-- A mask in which no match begins is kept. -/
lemma masked_kept (hquiet : Quiet p) (h : Scans p none l (qs ++ rs))
    (hmask : ("Bearer ***".toList.all fun c => !p.starts c) = true) (hrs : Masked (texts rs)) :
    Masked (outs rs) := by
  obtain ⟨l', hl', hspace⟩ := hrs
  have hstarts : ∀ c ∈ "Bearer ***".toList, p.starts c = false := by
    intro c hc
    simpa using List.all_eq_true.mp hmask c hc
  obtain ⟨rs', rfl, rfl⟩ := texts_literal (fun x hx => h.begins x (by simp [hx])) hstarts hl'
  refine ⟨outs rs', by rw [outs_append, outs_lits], fun c hc => ?_⟩
  rw [← List.append_assoc] at h
  rw [h.right.head_outs fun c hc => hquiet.2 c (hspace c hc)] at hc
  exact hspace c hc

lemma not_bearer_quote (c : Char) (r : List Char) :
    (bearer w).matchAt prev (c :: '\'' :: r) = none := by
  cases hmatch : (bearer w).matchAt prev (c :: '\'' :: r) with
  | none => rfl
  | some f =>
      obtain ⟨c', d, r', hl, -, hd⟩ := bearer_begins hmatch
      obtain rfl : '\'' = d := (List.cons.inj (List.cons.inj hl).2).1
      exact absurd hd (by decide)

lemma bearerBytes_out {text out : List Char}
    (h : Scans bearerBytes prev l (qs ++ Piece.hit text out :: rs)) :
    out = "b'Bearer ***'".toList := by
  have hmatch := h.found
  generalize hl : text ++ texts rs = whole at hmatch
  generalize hf : Match.mk text out (texts rs) = g at hmatch
  obtain ⟨-⟩ := bearerBytes_matchAt.mp hmatch
  exact (Match.mk.inj hf).2.1

/-- Inside the mask of a dump a token can begin at its word only. -/
lemma mask_inside {u v : List Char} {c : Char} (h : u ++ c :: v = "b'Bearer ***'".toList)
    (hu : u ≠ []) (hc : foldCase c = 'b') : u = "b'".toList ∧ c :: v = "Bearer ***'".toList := by
  have hsplit : "b'Bearer ***'".toList = "b'".toList ++ "Bearer ***'".toList := rfl
  have hall : ("earer ***'".toList.all fun d => foldCase d ≠ 'b') = true := by decide
  rw [hsplit] at h
  rcases List.append_eq_append_iff.mp h with ⟨y, hy, hv⟩ | ⟨y, rfl, hv⟩
  · cases y with
    | nil =>
        rw [List.append_nil] at hy
        exact ⟨hy.symm, hv⟩
    | cons d y =>
        -- The quote is no letter.
        obtain ⟨e, u, rfl⟩ := List.exists_cons_of_ne_nil hu
        obtain ⟨rfl, -⟩ := List.cons.inj hv
        have hmem : c ∈ "'".toList := by
          have htail : "'".toList = u ++ c :: y := (List.cons.inj hy).2
          rw [htail]
          simp
        rw [List.mem_singleton.mp hmem] at hc
        exact absurd hc (by decide)
  · cases y with
    | nil => exact ⟨List.append_nil _, hv.symm⟩
    | cons d y =>
        have hmem : c ∈ "earer ***'".toList := by
          have htail : "earer ***'".toList = y ++ c :: v := (List.cons.inj hv).2
          rw [htail]
          simp
        exact absurd hc (by simpa using List.all_eq_true.mp hall c hmem)

/-- **After the second substitution** tokens are found at the masks of tokens and of dumps only. -/
lemma bearer_in_dumps {y : List Char}
    (hy : ∀ a l f, y = a ++ l → (bearer w).matchAt (after none a) l = some f → Masked l)
    (h : sub bearerBytes y = a ++ l) (hmatch : (bearer w).matchAt (after none a) l = some f) :
    Masked l ∨ InMask a l := by
  have hscan := scans_scanFrom bearerBytes none y
  rw [hscan.sub_eq] at h
  rcases split_outs h with
    ⟨qs, rs, hps, rfl, rfl⟩ | ⟨qs, u, v, text, rs, hps, hu, hv, rfl, rfl⟩
  · rw [hps] at hscan
    left
    cases rs with
    | nil =>
        obtain ⟨c, d, r, hnil, -⟩ := bearer_begins hmatch
        cases hnil
    | cons x rs =>
        cases x with
        | lit e =>
            obtain ⟨g, hg⟩ := found_before bearerBytes_stops quiet_bearerBytes hscan hmatch
            have hwhole : y = texts qs ++ texts (.lit e :: rs) := by
              rw [← texts_append, hscan.texts_eq]
            exact masked_kept quiet_bearerBytes hscan (by decide) (hy _ _ g hwhole hg)
        | hit text out =>
            rw [outs_hit, bearerBytes_out hscan] at hmatch
            exact absurd ((not_bearer_quote 'b' _).symm.trans hmatch) (by simp)
  · rw [hps] at hscan
    right
    obtain ⟨c, d, r, hl, hc, -⟩ := bearer_begins hmatch
    obtain ⟨c', v, rfl⟩ := List.exists_cons_of_ne_nil hv
    obtain ⟨rfl, -⟩ := List.cons.inj hl
    obtain ⟨rfl, hmask⟩ := mask_inside (bearerBytes_out hscan) hu hc
    exact ⟨outs qs, outs rs, rfl, by rw [hmask]⟩

/-- What replaces the value of a parameter, and what is behind the value. -/
lemma querySecret_hit {text out : List Char}
    (h : Scans querySecret prev l (qs ++ Piece.hit text out :: rs)) :
    ∃ mark name, (mark = '?' ∨ mark = '&') ∧ IsSecretName name ∧
      (∃ v, text = mark :: v) ∧ out = mark :: (name ++ "=***".toList) ∧
        ∀ c, (texts rs).head? = some c → isValueChar c = false := by
  have hmatch := h.found
  generalize hl : text ++ texts rs = whole at hmatch
  generalize hf : Match.mk text out (texts rs) = g at hmatch
  obtain ⟨hmark, hname, -, -, hvalue⟩ := querySecret_matchAt.mp hmatch
  obtain ⟨rfl, rfl, rfl⟩ := Match.mk.inj hf
  exact ⟨_, _, hmark, hname, ⟨_, rfl⟩, rfl, hvalue.stop⟩

/-- The front of a mask is kept by the third substitution. -/
lemma front_kept {a' : List Char} {d : Char} (h : Scans querySecret none l (qs ++ rs))
    (hqs : texts qs = a' ++ "b'".toList) (hrs : (texts rs).head? = some d)
    (hd : isValueChar d = true) : ∃ a'', outs qs = a'' ++ "b'".toList := by
  rcases split_texts hqs with
    ⟨q, q', rfl, -, hq'⟩ | ⟨q, u, v, out, q', rfl, -, hv, -, hplace⟩
  · have hbegins : ∀ x ∈ q', x.Begins querySecret := fun x hx => h.begins x (by simp [hx])
    have hall : ("b'".toList.all fun c => !querySecret.starts c) = true := by decide
    have hstarts : ∀ c ∈ "b'".toList, querySecret.starts c = false := by
      intro c hc
      simpa using List.all_eq_true.mp hall c hc
    obtain ⟨r, rfl, hr⟩ := texts_literal hbegins hstarts (hq'.trans (List.append_nil _).symm)
    obtain rfl := nil_of_texts (fun x hx => hbegins x (by simp [hx])) hr
    exact ⟨outs q, by rw [outs_append, outs_append, outs_lits, outs_nil, List.append_nil]⟩
  · -- No value ends in front of the quote, or of the word behind it.
    exfalso
    rw [List.append_assoc, List.cons_append] at h
    obtain ⟨-, -, -, -, -, -, hstop⟩ := querySecret_hit h
    have hnext : ∃ e, (texts (q' ++ rs)).head? = some e ∧ isValueChar e = true := by
      rw [texts_append]
      cases htexts : texts q' with
      | nil => exact ⟨d, hrs, hd⟩
      | cons e r =>
          rw [htexts] at hplace
          have he : e ∈ "b'".toList := by
            rw [hplace]
            simp
          have hall : ("b'".toList.all isValueChar) = true := by decide
          exact ⟨e, rfl, List.all_eq_true.mp hall e he⟩
    obtain ⟨e, he, hvalue⟩ := hnext
    rw [hstop e he] at hvalue
    cases hvalue

/-- **After the third substitution** they are found there, too. -/
lemma bearer_in_redacted {u : List Char}
    (hu : ∀ a l f, u = a ++ l → (bearer w).matchAt (after none a) l = some f →
      Masked l ∨ InMask a l)
    (h : sub querySecret u = a ++ l) (hmatch : (bearer w).matchAt (after none a) l = some f) :
    Masked l ∨ InMask a l := by
  obtain ⟨c, d, r, rfl, hc, -⟩ := bearer_begins hmatch
  have hinside : ∀ qs text e v rs,
      Scans querySecret none u (qs ++ Piece.hit text (e :: v) :: rs) → c ∉ v := by
    intro qs text e v rs hscan hmem
    obtain ⟨mark, name, -, hname, -, hout, -⟩ := querySecret_hit hscan
    obtain ⟨-, rfl⟩ := List.cons.inj hout
    rcases List.mem_append.mp hmem with hmem | hmem
    · exact hname.not_b hmem hc
    · have hall : ("=***".toList.all fun d => foldCase d ≠ 'b') = true := by decide
      exact absurd hc (by simpa using List.all_eq_true.mp hall c hmem)
  obtain ⟨qs, rs, hscan, rfl, hrs⟩ := sub_place h hinside
  rw [← hrs] at hmatch ⊢
  cases rs with
  | nil => cases hrs
  | cons x rs =>
      cases x with
      | hit text out =>
          obtain ⟨mark, name, hmark, -, -, rfl, -⟩ := querySecret_hit hscan
          obtain ⟨rfl, -⟩ := List.cons.inj hrs
          rcases hmark with rfl | rfl
          · exact absurd hc (by decide)
          · exact absurd hc (by decide)
      | lit e =>
          obtain ⟨g, hg⟩ := found_before querySecret_stops quiet_querySecret hscan hmatch
          have hwhole : u = texts qs ++ texts (.lit e :: rs) := by
            rw [← texts_append, hscan.texts_eq]
          rcases hu _ _ g hwhole hg with hmasked | ⟨a', l', ha', hl'⟩
          · exact .inl (masked_kept quiet_querySecret hscan (by decide) hmasked)
          · right
            obtain ⟨a'', ha''⟩ := front_kept hscan ha' (d := 'B') (by rw [hl']; rfl) (by decide)
            have hall : ("Bearer ***'".toList.all fun c => !querySecret.starts c) = true := by decide
            have hstarts : ∀ c ∈ "Bearer ***'".toList, querySecret.starts c = false := by
              intro c hc
              simpa using List.all_eq_true.mp hall c hc
            obtain ⟨rs', hrs', -⟩ := texts_literal
              (fun x hx => hscan.begins x (List.mem_append_right _ hx)) hstarts hl'
            exact ⟨a'', outs rs', ha'', by rw [hrs', outs_append, outs_lits]⟩

end Match

/-! ## Texts that are redacted -/

section Settled

variable {w : WordClass} {prev : Option Char} {l : List Char} {f : Match Char}
  {qs rs : List (Piece Char)}

/-- A dump of bytes stands in the text. -/
def HasDump (l : List Char) : Prop := ∃ a b f, l = a ++ b ∧ bearerBytes.matchAt none b = some f

/-- What is found at a mask is the mask. -/
lemma Masked.found (h : Masked l) (hmatch : (bearer w).matchAt prev l = some f) :
    f.text = "Bearer ***".toList ∧ f.out = "Bearer ***".toList := by
  obtain ⟨l', rfl, hspace⟩ := h
  have hprev : prev.any w.isWord = false := by
    generalize hl : "Bearer ***".toList ++ l' = whole at hmatch
    obtain ⟨hprev⟩ := bearer_matchAt.mp hmatch
    exact hprev
  have htoken : Span (!isSpace ·) "***".toList l' := by
    refine ⟨fun c hc => ?_, fun c hc => by rw [hspace c hc]; rfl⟩
    have hall : ("***".toList.all fun c => !isSpace c) = true := by decide
    exact List.all_eq_true.mp hall c hc
  have hws : ∀ c ∈ " ".toList, isSpace c = true := by
    have hall : (" ".toList.all isSpace) = true := by decide
    exact List.all_eq_true.mp hall
  have hword : "Bearer".toList.map foldCase = "bearer".toList := by decide
  have hmask := (bearer_matchAt (w := w)).mpr
    (.mk hprev hword hws (by decide) htoken (by decide))
  obtain rfl := Option.some.inj (hmatch.symm.trans hmask)
  exact ⟨rfl, rfl⟩

/-- **A text whose tokens are masked** is kept by the first substitution. -/
lemma sub_bearer_fixed
    (h : ∀ a b f, l = a ++ b → (bearer w).matchAt (after none a) b = some f → Masked b) :
    sub (bearer w) l = l := by
  refine sub_fixed fun a b f hl hmatch => ?_
  obtain ⟨htext, hout⟩ := (h a b f hl hmatch).found hmatch
  rw [htext, hout]

/-- A text without a dump is kept by the second. -/
lemma sub_bytes_fixed (h : ¬ HasDump l) : sub bearerBytes l = l :=
  sub_fixed fun a b f hl hmatch => absurd ⟨a, b, f, hl, hmatch⟩ h

/-- The head of a rewritten text, where no value goes on. -/
lemma head_query (h : Scans querySecret prev l rs)
    (hl : ∀ c, l.head? = some c → isValueChar c = false) :
    ∀ c, (outs rs).head? = some c → isValueChar c = false := by
  cases rs with
  | nil => simp
  | cons x rs =>
      have htexts := h.texts_eq
      cases x with
      | lit c =>
          rw [← htexts] at hl
          exact hl
      | hit text out =>
          have hfirst : Scans querySecret prev l ([] ++ Piece.hit text out :: rs) := h
          obtain ⟨mark, name, -, -, ⟨v, rfl⟩, rfl, -⟩ := querySecret_hit hfirst
          rw [← htexts] at hl
          exact hl

/-- In front of a value nothing is found. -/
lemma name_quiet {name ws : List Char} (hname : IsSecretName name)
    (hws : ∀ c ∈ ws, isSpace c = true) :
    ∀ c ∈ name ++ (ws ++ ['=']), querySecret.starts c = false := by
  intro c hc
  simp only [List.mem_append, List.mem_singleton] at hc
  rcases hc with hc | hc | rfl
  · rcases hname.chars c hc with h | rfl | rfl
    · exact quiet_querySecret.1 c h (hname.not_b hc)
    · decide
    · decide
  · exact quiet_querySecret.2 c (hws c hc)
  · decide

/-- A parameter is found whatever its value. -/
lemma query_found {mark : Char} {name ws : List Char} (hmark : mark = '?' ∨ mark = '&')
    (hname : IsSecretName name) (hws : ∀ c ∈ ws, isSpace c = true) (prev : Option Char)
    (r : List Char) :
    ∃ g, querySecret.matchAt prev (mark :: (name ++ (ws ++ '=' :: r))) = some g := by
  have hspaces := span_split isSpace r
  have hvalue := span_split isValueChar (r.dropWhile isSpace)
  have hsplit := List.takeWhile_append_dropWhile (p := isValueChar) (l := r.dropWhile isSpace)
  rw [← hsplit] at hspaces
  have hfound := (@querySecret_matchAt prev _ _).mpr (.mk hmark hname hws hspaces hvalue)
  rw [hsplit, List.takeWhile_append_dropWhile] at hfound
  exact ⟨_, hfound⟩

/-- What is found at a masked parameter is the parameter. -/
lemma query_masked {mark : Char} {name r : List Char} (prev : Option Char)
    (hmark : mark = '?' ∨ mark = '&') (hname : IsSecretName name)
    (hr : ∀ c, r.head? = some c → isValueChar c = false) :
    querySecret.matchAt prev (mark :: (name ++ "=***".toList) ++ r) =
      some ⟨mark :: (name ++ "=***".toList), mark :: (name ++ "=***".toList), r⟩ := by
  have hspan : Span isSpace [] ("***".toList ++ r) := by
    refine ⟨by simp, fun c hc => ?_⟩
    obtain rfl : '*' = c := Option.some.inj hc
    decide
  have hall : ("***".toList.all isValueChar) = true := by decide
  have hvalue : Span isValueChar "***".toList r := ⟨List.all_eq_true.mp hall, hr⟩
  have hnil : ∀ c ∈ ([] : List Char), isSpace c = true := by simp
  have hfound := (@querySecret_matchAt prev _ _).mpr (.mk hmark hname hnil hspan hvalue)
  have hl : mark :: (name ++ "=***".toList) ++ r =
      mark :: (name ++ ([] ++ '=' :: ([] ++ ("***".toList ++ r)))) := by
    rw [List.cons_append, List.append_assoc]
    rfl
  rw [hl]
  exact hfound

/-- **What the third substitution leaves is kept by the third substitution.** -/
lemma sub_query_fixed (u : List Char) :
    sub querySecret (sub querySecret u) = sub querySecret u := by
  refine sub_fixed fun a b f hl hmatch => ?_
  have hmatch' := hmatch
  obtain ⟨hmark, hname, hws, hws', hvalue⟩ := querySecret_matchAt.mp hmatch'
  rename_i mark name ws ws' value rest
  have hname_mark : ∀ name, IsSecretName name → mark ∉ name := by
    intro name hname hmem
    rcases hmark with rfl | rfl
    · rcases hname.chars _ hmem with h | h | h
      · exact absurd h (by decide)
      · exact absurd h (by decide)
      · exact absurd h (by decide)
    · rcases hname.chars _ hmem with h | h | h
      · exact absurd h (by decide)
      · exact absurd h (by decide)
      · exact absurd h (by decide)
  have hmark_mask : mark ∉ "=***".toList := by
    rcases hmark with rfl | rfl
    · decide
    · decide
  have hinside : ∀ qs text e v rs,
      Scans querySecret none u (qs ++ Piece.hit text (e :: v) :: rs) → mark ∉ v := by
    intro qs text e v rs hscan hmem
    obtain ⟨mark', name', -, hname', -, hout, -⟩ := querySecret_hit hscan
    obtain ⟨-, rfl⟩ := List.cons.inj hout
    rcases List.mem_append.mp hmem with hmem | hmem
    · exact hname_mark name' hname' hmem
    · exact hmark_mask hmem
  obtain ⟨qs, rs, hscan, -, hrs⟩ := sub_place hl hinside
  cases rs with
  | nil => cases hrs
  | cons x rs =>
      cases x with
      | lit e =>
          -- The parameter would have been found in the text before.
          rw [outs_lit] at hrs
          obtain ⟨rfl, houts⟩ := List.cons.inj hrs
          have hsplit : outs rs = (name ++ (ws ++ ['='])) ++ (ws' ++ (value ++ rest)) := by
            rw [houts]
            simp
          obtain ⟨rs', rfl, -⟩ := outs_literal
            (fun x hx => hscan.begins x (by simp [hx])) (name_quiet hname hws) hsplit
          obtain ⟨g, hg⟩ := query_found hmark hname hws (after none (texts qs)) (texts rs')
          have hnone := hscan.not_found
          rw [texts_append, texts_lits, List.append_assoc, List.append_assoc,
            List.singleton_append, hg] at hnone
          cases hnone
      | hit text out =>
          obtain ⟨mark', name', hmark', hname', -, rfl, hstop⟩ := querySecret_hit hscan
          have hrest : ∀ c, (outs rs).head? = some c → isValueChar c = false := by
            have hsplit : qs ++ Piece.hit text (mark' :: (name' ++ "=***".toList)) :: rs =
                (qs ++ [.hit text (mark' :: (name' ++ "=***".toList))]) ++ rs := by simp
            rw [hsplit] at hscan
            exact head_query hscan.right hstop
          have hmask := query_masked (after none a) hmark' hname' hrest
          have hl' : mark' :: (name' ++ "=***".toList) ++ outs rs =
              mark :: (name ++ (ws ++ '=' :: (ws' ++ (value ++ rest)))) := hrs
          rw [← hl', hmask] at hmatch
          exact (Option.some.inj hmatch).symm ▸ rfl

end Settled

/-! ## The patterns are greedy -/

section Greed

variable {w : WordClass}

lemma Span.cut {P : Char → Bool} {v a b : List Char} (h : Span P v (a ++ b)) : Span P v a := by
  refine ⟨h.inside, fun c hc => h.stop c ?_⟩
  cases a with
  | nil => cases hc
  | cons d a => exact hc

lemma bearer_greedy : Greedy (bearer w) where
  grows {prev a b f} h := by
    obtain ⟨hprev, hword, hws, hws_ne, htoken, htoken_ne⟩ := bearer_matchAt.mp h
    rename_i word ws token rest
    have hspan := span_split (!isSpace ·) (token ++ rest ++ b)
    have hne : (token ++ rest ++ b).takeWhile (!isSpace ·) ≠ [] := by
      obtain ⟨c, token, rfl⟩ := List.exists_cons_of_ne_nil htoken_ne
      have hc : isSpace c = false := by simpa using htoken.inside c List.mem_cons_self
      simp [hc]
    have hfound := (bearer_matchAt (w := w)).mpr (.mk hprev hword hws hws_ne hspan hne)
    rw [List.takeWhile_append_dropWhile] at hfound
    rw [List.append_assoc, List.append_assoc]
    exact ⟨_, hfound⟩
  cuts {prev v out a b} h := by
    generalize hl : v ++ (a ++ b) = l at h
    generalize hf : Match.mk v out (a ++ b) = f at h
    obtain ⟨hprev, hword, hws, hws_ne, htoken, htoken_ne⟩ := bearer_matchAt.mp h
    obtain ⟨rfl, rfl, rfl⟩ := Match.mk.inj hf
    rw [List.append_assoc, List.append_assoc]
    exact bearer_matchAt.mpr (.mk hprev hword hws hws_ne htoken.cut htoken_ne)

lemma bearerBytes_greedy : Greedy bearerBytes where
  grows {prev a b f} h := by
    obtain ⟨hinner⟩ := bearerBytes_matchAt.mp h
    rename_i inner rest
    have hlonger : IsBearerBytes ("b'Bearer".toList ++ (inner ++ '\'' :: (rest ++ b)))
        ⟨_, _, rest ++ b⟩ := .mk hinner
    rw [List.append_assoc, List.append_assoc]
    exact ⟨_, bearerBytes_matchAt.mpr hlonger⟩
  cuts {prev v out a b} h := by
    generalize hl : v ++ (a ++ b) = l at h
    generalize hf : Match.mk v out (a ++ b) = f at h
    obtain ⟨hinner⟩ := bearerBytes_matchAt.mp h
    obtain ⟨rfl, rfl, rfl⟩ := Match.mk.inj hf
    rw [List.append_assoc, List.append_assoc]
    exact bearerBytes_matchAt.mpr (.mk hinner)

lemma querySecret_greedy : Greedy querySecret where
  grows {prev a b f} h := by
    obtain ⟨hmark, hname, hws, -, -⟩ := querySecret_matchAt.mp h
    rename_i mark name ws ws' value rest
    obtain ⟨g, hg⟩ := query_found hmark hname hws prev (ws' ++ (value ++ rest) ++ b)
    refine ⟨g, ?_⟩
    rw [← hg]
    simp
  cuts {prev v out a b} h := by
    generalize hl : v ++ (a ++ b) = l at h
    generalize hf : Match.mk v out (a ++ b) = f at h
    obtain ⟨hmark, hname, hws, hws', hvalue⟩ := querySecret_matchAt.mp h
    rename_i mark name ws ws' value rest
    obtain ⟨rfl, rfl, rfl⟩ := Match.mk.inj hf
    rw [← List.append_assoc] at hws'
    have hfound := (@querySecret_matchAt prev _ _).mpr
      (.mk hmark hname hws hws'.cut hvalue.cut)
    rw [← hfound]
    simp

end Greed

/-! ## Dumps that stay -/

/-- **A dump that stays**: the scans come to a place of the text, none of the three passes covers it,
and the second finds a dump there. -/
def DumpStays (w : WordClass) (x : List Char) : Prop :=
  ∃ a b, x = a ++ b ∧ Stops (bearer w) none a b ∧
    Stops bearerBytes none (sub (bearer w) a) (sub (bearer w) b) ∧
    Stops querySecret none (sub bearerBytes (sub (bearer w) a)) (sub bearerBytes (sub (bearer w) b)) ∧
    ∃ f, bearerBytes.matchAt none (sub (bearer w) b) = some f

section Dumps

variable {w : WordClass} {prev : Option Char} {l : List Char} {qs rs : List (Piece Char)}

/-- The first substitution leaves `b'` as it is. -/
lemma quote_behind (h : Scans (bearer w) prev l (qs ++ rs)) {r : List Char}
    (hrs : outs rs = 'b' :: '\'' :: r) : ∃ r', texts rs = 'b' :: '\'' :: r' := by
  cases rs with
  | nil => cases hrs
  | cons x rs =>
      cases x with
      | hit text out =>
          rw [outs_hit, bearer_out h] at hrs
          exact absurd (List.cons.inj hrs).1 (by decide)
      | lit c =>
          rw [outs_lit] at hrs
          obtain ⟨rfl, hlater⟩ := List.cons.inj hrs
          have hquote : ∀ c ∈ ['\''], (bearer w).starts c = false := by
            intro c hc
            rw [List.mem_singleton.mp hc]
            rfl
          rw [← List.singleton_append] at hlater
          obtain ⟨rs', rfl, -⟩ := outs_literal (fun x hx => h.begins x (by simp [hx])) hquote hlater
          exact ⟨texts rs', rfl⟩

/-- And from there the first substitution goes on as from the beginning. -/
lemma bearer_apart {a b : List Char} (h : Stops (bearer w) none a b) {r : List Char}
    (hb : b = 'b' :: '\'' :: r) :
    sub (bearer w) (a ++ b) = sub (bearer w) a ++ sub (bearer w) b := by
  refine h.sub_append bearer_greedy ?_
  rw [hb, not_bearer_quote, not_bearer_quote]

lemma dump_begins {f : Match Char} (h : bearerBytes.matchAt prev l = some f) :
    ∃ r, l = "b'Bearer".toList ++ r ∧ f.text ++ f.rest = l ∧ f.out = "b'Bearer ***'".toList := by
  obtain ⟨-⟩ := bearerBytes_matchAt.mp h
  exact ⟨_, rfl, by simp, rfl⟩

/-- **The mask of a dump that stays** is in what becomes of the text. -/
lemma mask_of_dump {x : List Char} (h : DumpStays w x) :
    ∃ a b, redactHttpClientLogText w x = a ++ ("b'Bearer ***'".toList ++ b) := by
  obtain ⟨a, b, rfl, hbearer, hbytes, hquery, f, hf⟩ := h
  obtain ⟨r, hr, -, hout⟩ := dump_begins hf
  obtain ⟨r', hb⟩ : ∃ r', b = 'b' :: '\'' :: r' := by
    have hscan := scans_scanFrom (bearer w) none b
    rw [hscan.sub_eq] at hr
    have hfirst : Scans (bearer w) none b ([] ++ scanFrom (bearer w) none 0 b) := hscan
    obtain ⟨r', hr'⟩ := quote_behind hfirst hr
    exact ⟨r', hscan.texts_eq.symm.trans hr'⟩
  have hmask : ∃ v, sub bearerBytes (sub (bearer w) b) = "b'Bearer ***'".toList ++ v := by
    have hscan := scans_scanFrom bearerBytes none (sub (bearer w) b)
    obtain ⟨rs, hrs⟩ := hscan.first hf
    rw [hscan.sub_eq, hrs, outs_hit, hout]
    exact ⟨_, rfl⟩
  obtain ⟨v, hv⟩ := hmask
  have hall : ("b'Bearer ***'".toList.all fun c => !querySecret.starts c) = true := by decide
  have hstarts : ∀ c ∈ "b'Bearer ***'".toList, querySecret.starts c = false := by
    intro c hc
    simpa using List.all_eq_true.mp hall c hc
  have hrest := (scans_scanFrom querySecret (after none "b'Bearer ***'".toList) v).lits_append hstarts
  rw [redactHttpClientLogText, bearer_apart hbearer hb,
    hbytes.sub_append bearerBytes_greedy (bearerBytes_prev _ _ _),
    hquery.sub_append querySecret_greedy rfl, hv, hrest.sub_eq, outs_append, outs_lits]
  exact ⟨_, _, rfl⟩

/-- A character of what a text becomes was in the text, unless a replacement brings it. -/
lemma mem_texts {c : Char} {ps : List (Piece Char)} (h : ∀ x ∈ ps, c ∈ x.out → c ∈ x.text)
    (hc : c ∈ outs ps) : c ∈ texts ps := by
  obtain ⟨x, hx, hmem⟩ := List.mem_flatMap.mp hc
  exact List.mem_flatMap.mpr ⟨x, hx, h x hx hmem⟩

/-- What replaces a parameter has no quote. -/
lemma quote_not_mask {mark : Char} {name : List Char} (hmark : mark = '?' ∨ mark = '&')
    (hname : IsSecretName name) : '\'' ∉ mark :: (name ++ "=***".toList) := by
  intro hmem
  rcases List.mem_cons.mp hmem with heq | hmem
  · rcases hmark with rfl | rfl
    · exact absurd heq (by decide)
    · exact absurd heq (by decide)
  · rcases List.mem_append.mp hmem with hmem | hmem
    · rcases hname.chars _ hmem with h | h | h
      · exact absurd h (by decide)
      · exact absurd h (by decide)
      · exact absurd h (by decide)
    · exact absurd hmem (by decide)

/-- A dump has a quote. -/
lemma quote_mem {ps : List (Piece Char)} {text out : List Char} (h : Scans bearerBytes prev l ps)
    (hmem : .hit text out ∈ ps) : '\'' ∈ text := by
  obtain ⟨qs, rs, rfl⟩ := List.append_of_mem hmem
  have hmatch := h.found
  generalize hl : text ++ texts rs = whole at hmatch
  generalize hf : Match.mk text out (texts rs) = g at hmatch
  obtain ⟨-⟩ := bearerBytes_matchAt.mp hmatch
  obtain ⟨rfl, -⟩ := Match.mk.inj hf
  exact List.mem_append_right _ (List.mem_append_right _ List.mem_cons_self)

/-- A dump is found where its beginning stands and a quote follows. -/
lemma dump_found (prev : Option Char) {r : List Char} (h : '\'' ∈ r) :
    ∃ f, bearerBytes.matchAt prev ("b'Bearer".toList ++ r) = some f := by
  obtain ⟨inner, rest, rfl, hinner⟩ := List.eq_append_cons_of_mem h
  exact ⟨_, bearerBytes_matchAt.mpr (.mk hinner)⟩

/-- A dump in what the third substitution leaves was in the text before. -/
lemma dump_before_query {u a r : List Char} (h : sub querySecret u = a ++ ("b'Bearer".toList ++ r))
    (hquote : '\'' ∈ r) :
    ∃ a' r', u = a' ++ ("b'Bearer".toList ++ r') ∧ '\'' ∈ r' ∧
      Stops querySecret none a' ("b'Bearer".toList ++ r') := by
  have hinside : ∀ qs text e v rs,
      Scans querySecret none u (qs ++ Piece.hit text (e :: v) :: rs) → 'b' ∉ v := by
    intro qs text e v rs hscan hmem
    obtain ⟨mark, name, -, hname, -, hout, -⟩ := querySecret_hit hscan
    obtain ⟨-, rfl⟩ := List.cons.inj hout
    rcases List.mem_append.mp hmem with hmem | hmem
    · exact hname.not_b hmem (by decide)
    · exact absurd hmem (by decide)
  obtain ⟨qs, rs, hscan, -, hrs⟩ := sub_place h hinside
  have hall : ("b'Bearer".toList.all fun c => !querySecret.starts c) = true := by decide
  have hstarts : ∀ c ∈ "b'Bearer".toList, querySecret.starts c = false := by
    intro c hc
    simpa using List.all_eq_true.mp hall c hc
  have hbegins : ∀ x ∈ rs, x.Begins querySecret := fun x hx => hscan.begins x (by simp [hx])
  obtain ⟨rs', rfl, rfl⟩ := outs_literal hbegins hstarts hrs
  have hmem : '\'' ∈ texts rs' := by
    refine mem_texts (fun x hx hmem => ?_) hquote
    cases x with
    | lit c => exact hmem
    | hit text out =>
        -- What replaces a parameter has no quote.
        obtain ⟨q, q', rfl⟩ := List.append_of_mem hx
        rw [← List.append_assoc, ← List.append_assoc] at hscan
        obtain ⟨mark, name, hmark, hname, -, rfl, -⟩ := querySecret_hit hscan
        exact absurd hmem (quote_not_mask hmark hname)
  refine ⟨texts qs, texts rs', ?_, hmem, qs, lits "b'Bearer".toList ++ rs', ?_, rfl⟩
  · rw [← hscan.texts_eq, texts_append, texts_append, texts_lits]
  · rwa [← hscan.texts_eq, texts_append, texts_append, texts_lits] at hscan

/-- A dump behind the second substitution was found by it. -/
lemma dump_before_bytes {y a r : List Char} (h : sub bearerBytes y = a ++ ("b'Bearer".toList ++ r))
    (hquote : '\'' ∈ r) :
    ∃ a' b f, y = a' ++ b ∧ Stops bearerBytes none a' b ∧ bearerBytes.matchAt none b = some f ∧
      sub bearerBytes a' = a ∧ sub bearerBytes b = "b'Bearer".toList ++ r := by
  have hinside : ∀ qs text e v rs,
      Scans bearerBytes none y (qs ++ Piece.hit text (e :: v) :: rs) → 'b' ∉ v := by
    intro qs text e v rs hscan hmem
    have hv : v = "'Bearer ***'".toList := (List.cons.inj (bearerBytes_out hscan)).2
    rw [hv] at hmem
    exact absurd hmem (by decide)
  have hcons : "b'Bearer".toList ++ r = 'b' :: ("'Bearer".toList ++ r) := rfl
  rw [hcons] at h ⊢
  obtain ⟨qs, rs, hscan, hqs, hrs⟩ := sub_place h hinside
  have hwhole : y = texts qs ++ texts rs := by rw [← texts_append, hscan.texts_eq]
  have hright : Scans bearerBytes none (texts rs) rs :=
    hscan.right.congr_prev (bearerBytes_prev _ _ _)
  have hfound : ∃ f, bearerBytes.matchAt none (texts rs) = some f := by
    cases rs with
    | nil => cases hrs
    | cons x rs =>
        cases x with
        | hit text out => exact ⟨_, hscan.found⟩
        | lit c =>
            -- The beginning and the quote were in the text before.
            exfalso
            rw [outs_lit] at hrs
            obtain ⟨rfl, hlater⟩ := List.cons.inj hrs
            have hall : ("'Bearer".toList.all fun c => !bearerBytes.starts c) = true := by decide
            have hstarts : ∀ c ∈ "'Bearer".toList, bearerBytes.starts c = false := by
              intro c hc
              simpa using List.all_eq_true.mp hall c hc
            obtain ⟨rs', rfl, rfl⟩ := outs_literal (fun x hx => hscan.begins x (by simp [hx]))
              hstarts hlater
            have hmem : '\'' ∈ texts rs' := by
              refine mem_texts (fun x hx _ => ?_) hquote
              cases x with
              | lit c => assumption
              | hit text out =>
                  exact quote_mem hscan (List.mem_append_right _
                    (List.mem_cons_of_mem _ (List.mem_append_right _ hx)))
            obtain ⟨f, hf⟩ := dump_found (after none (texts qs)) hmem
            have hnone := hscan.not_found
            rw [texts_append, texts_lits] at hnone
            exact absurd (hnone.symm.trans hf) (by simp)
  obtain ⟨f, hf⟩ := hfound
  refine ⟨texts qs, texts rs, f, hwhole, ⟨qs, rs, hwhole ▸ hscan, rfl⟩, hf, ?_, ?_⟩
  · rw [(hscan.front bearerBytes_greedy).sub_eq, hqs]
  · rw [hright.sub_eq, hrs]

/-- **The dumps of a redacted text** are those that stay. -/
theorem dumpStays_iff {x : List Char} : DumpStays w x ↔ HasDump (redactHttpClientLogText w x) := by
  constructor
  · intro h
    obtain ⟨a, b, hab⟩ := mask_of_dump h
    have hcut : "b'Bearer ***'".toList ++ b = "b'Bearer".toList ++ (" ***'".toList ++ b) := by
      rw [← List.append_assoc]
      rfl
    obtain ⟨f, hf⟩ := dump_found none (r := " ***'".toList ++ b)
      (List.mem_append_left _ (by decide))
    rw [← hcut] at hf
    exact ⟨a, _, f, hab, hf⟩
  · rintro ⟨a, l, f, hl, hf⟩
    obtain ⟨hinner⟩ := bearerBytes_matchAt.mp hf
    rename_i inner rest
    obtain ⟨u, r, hu, hr, hquery⟩ := dump_before_query hl (by simp)
    obtain ⟨y, b, f, hy, hbytes, hfound, rfl, hb⟩ := dump_before_bytes hu hr
    obtain ⟨r', hcons, -, -⟩ := dump_begins hfound
    -- The beginning of the dump was in the text before the first substitution.
    have hquote : b = 'b' :: '\'' :: ("Bearer".toList ++ r') := hcons
    rw [hquote] at hy
    have hinside : ∀ qs text e v rs,
        Scans (bearer w) none x (qs ++ Piece.hit text (e :: v) :: rs) → 'b' ∉ v := by
      intro qs text e v rs hscan hmem
      have hv : v = "earer ***".toList := (List.cons.inj (bearer_out hscan)).2
      rw [hv] at hmem
      exact absurd hmem (by decide)
    obtain ⟨qs, rs, hscan, hqs, hrs⟩ := sub_place hy hinside
    obtain ⟨r'', hrest⟩ := quote_behind hscan hrs
    have hright : Scans (bearer w) none (texts rs) rs := by
      refine hscan.right.congr_prev ?_
      rw [hrest, not_bearer_quote, not_bearer_quote]
    have hwhole : x = texts qs ++ texts rs := by rw [← texts_append, hscan.texts_eq]
    have hsub : sub (bearer w) (texts qs) = y := by
      rw [(hscan.front bearer_greedy).sub_eq, hqs]
    have hsub' : sub (bearer w) (texts rs) = b := by rw [hright.sub_eq, hrs, hquote]
    refine ⟨texts qs, texts rs, hwhole, ⟨qs, rs, hwhole ▸ hscan, rfl⟩, ?_, ?_, f, ?_⟩
    · rwa [hsub, hsub']
    · rwa [hsub, hsub', hb]
    · rwa [hsub']

/-- The first substitution takes a quote away wherever a match has one. -/
lemma count_bearer {x : List Char} :
    (sub (bearer w) x).count '\'' ≤ x.count '\'' ∧
      ((∃ text out, .hit text out ∈ scan (bearer w) x ∧ '\'' ∈ text) →
        (sub (bearer w) x).count '\'' < x.count '\'') := by
  have hscan := scans_scan (bearer w) x
  have hout : ∀ text out, .hit text out ∈ scan (bearer w) x → out.count '\'' = 0 := by
    intro text out hmem
    obtain ⟨qs, rs, hps⟩ := List.append_of_mem hmem
    rw [hps] at hscan
    rw [bearer_out hscan]
    decide
  have hpiece : ∀ y ∈ scan (bearer w) x, y.out.count '\'' ≤ y.text.count '\'' := by
    intro y hy
    cases y with
    | lit c => exact le_rfl
    | hit text out => exact (hout text out hy).trans_le (Nat.zero_le _)
  have htexts : texts (scan (bearer w) x) = x := hscan.texts_eq
  constructor
  · conv_rhs => rw [← htexts]
    exact count_outs_le hpiece
  · rintro ⟨text, out, hmem, hquote⟩
    conv_rhs => rw [← htexts]
    refine count_outs_lt hpiece ⟨_, hmem, ?_⟩
    exact (hout text out hmem).trans_lt (List.count_pos_iff.mpr hquote)

/-- At the word of the mask of a dump a token is found, with the quote. -/
lemma mask_found (b : List Char) :
    ∃ f, (bearer w).matchAt (some '\'') ("Bearer ***'".toList ++ b) = some f ∧ '\'' ∈ f.text := by
  have hprev : (some '\'').any w.isWord = false := isWord_ascii (by decide) (by decide)
  have hword : "Bearer".toList.map foldCase = "bearer".toList := by decide
  have hspace : (" ".toList.all isSpace) = true := by decide
  have hall : ("***'".toList.all fun c => !isSpace c) = true := by decide
  have htoken : ("***'".toList ++ b).takeWhile (!isSpace ·) =
      "***'".toList ++ b.takeWhile (!isSpace ·) :=
    List.takeWhile_append_of_pos (List.all_eq_true.mp hall)
  have hspan := span_split (!isSpace ·) ("***'".toList ++ b)
  have hne : ("***'".toList ++ b).takeWhile (!isSpace ·) ≠ [] := by
    rw [htoken]
    simp
  have hfound := (bearer_matchAt (w := w)).mpr
    (.mk hprev hword (List.all_eq_true.mp hspace) (by decide) hspan hne)
  rw [List.takeWhile_append_dropWhile] at hfound
  have hl : "Bearer ***'".toList ++ b = "Bearer".toList ++ (" ".toList ++ ("***'".toList ++ b)) := by
    rw [← List.append_assoc, ← List.append_assoc]
    rfl
  rw [hl]
  refine ⟨_, hfound, ?_⟩
  rw [htoken]
  refine List.mem_append_right _ (List.mem_append_right _ (List.mem_append_left _ ?_))
  decide

/-- A match of the first pattern over the mask of a dump takes a quote away. -/
lemma quote_taken (a b : List Char) :
    (sub (bearer w) (a ++ ("b'Bearer ***'".toList ++ b))).count '\'' <
      (a ++ ("b'Bearer ***'".toList ++ b)).count '\'' := by
  refine count_bearer.2 ?_
  have hsplit : a ++ ("b'Bearer ***'".toList ++ b) =
      (a ++ "b'".toList) ++ ("Bearer ***'".toList ++ b) := by
    rw [List.append_assoc]
    rfl
  rw [hsplit]
  have hscan := scans_scan (bearer w) ((a ++ "b'".toList) ++ ("Bearer ***'".toList ++ b))
  rcases split_texts hscan.texts_eq with
    ⟨qs, rs, hps, hqs, hrs⟩ | ⟨qs, u, v, out, rs, hps, hu, -, hplace, -⟩
  · -- The match begins at the word of the mask.
    rw [hps] at hscan
    have hright := hscan.right
    have hlast : after none (texts qs) = some '\'' := by
      rw [hqs, after_append]
      rfl
    rw [hlast, hrs] at hright
    obtain ⟨f, hf, hquote⟩ := mask_found (w := w) b
    obtain ⟨rs', hrs'⟩ := hright.first hf
    have hmem : .hit f.text f.out ∈ scan (bearer w)
        ((a ++ "b'".toList) ++ ("Bearer ***'".toList ++ b)) := by
      rw [hps, hrs']
      exact List.mem_append_right _ List.mem_cons_self
    exact ⟨_, _, hmem, hquote⟩
  · -- It begins in front of the mask, and reaches over its first quote.
    refine ⟨u ++ v, out, ?_, List.mem_append_left _ ?_⟩
    · rw [hps]
      exact List.mem_append_right _ List.mem_cons_self
    · have hlast := congrArg List.getLast? hplace
      rw [List.getLast?_append_of_ne_nil _ hu] at hlast
      refine List.mem_of_getLast? (hlast.symm.trans ?_)
      rw [List.getLast?_append_of_ne_nil _ (by decide)]
      rfl

lemma count_bytes (y : List Char) : (sub bearerBytes y).count '\'' ≤ y.count '\'' := by
  have hscan := scans_scan bearerBytes y
  have htexts : texts (scan bearerBytes y) = y := hscan.texts_eq
  conv_rhs => rw [← htexts]
  refine count_outs_le fun x hx => ?_
  cases x with
  | lit c => exact le_rfl
  | hit text out =>
      obtain ⟨qs, rs, hps⟩ := List.append_of_mem hx
      rw [hps] at hscan
      have hmatch := hscan.found
      generalize hl : text ++ texts rs = whole at hmatch
      generalize hf : Match.mk text out (texts rs) = g at hmatch
      obtain ⟨-⟩ := bearerBytes_matchAt.mp hmatch
      obtain ⟨rfl, rfl, -⟩ := Match.mk.inj hf
      have hout : "b'Bearer ***'".toList.count '\'' = 2 := by decide
      have htext : "b'Bearer".toList.count '\'' = 1 := by decide
      rw [Piece.out, Piece.text, hout, List.count_append, List.count_append, htext,
        List.count_singleton_self]
      omega

lemma count_query (u : List Char) : (sub querySecret u).count '\'' ≤ u.count '\'' := by
  have hscan := scans_scan querySecret u
  have htexts : texts (scan querySecret u) = u := hscan.texts_eq
  conv_rhs => rw [← htexts]
  refine count_outs_le fun x hx => ?_
  cases x with
  | lit c => exact le_rfl
  | hit text out =>
      obtain ⟨qs, rs, hps⟩ := List.append_of_mem hx
      rw [hps] at hscan
      obtain ⟨mark, name, hmark, hname, -, rfl, -⟩ := querySecret_hit hscan
      rw [Piece.out, List.count_eq_zero.mpr (quote_not_mask hmark hname)]
      exact Nat.zero_le _

end Dumps

/-! ## When one pass is enough -/

/-- **A redacted text without a dump is redacted.** -/
lemma redact_fixed {w : WordClass} {x : List Char} (h : ¬ HasDump (redactHttpClientLogText w x)) :
    redactHttpClientLogText w (redactHttpClientLogText w x) = redactHttpClientLogText w x := by
  have hmasked : ∀ a b f, redactHttpClientLogText w x = a ++ b →
      (bearer w).matchAt (after none a) b = some f → Masked b := by
    intro a b f hab hmatch
    have hdumps := bearer_in_redacted
      (fun a b f hu hf => bearer_in_dumps (fun a b f hy hf => bearer_in_tokens hy hf) hu hf)
      hab hmatch
    refine hdumps.resolve_right ?_
    rintro ⟨a', l', rfl, rfl⟩
    refine h ?_
    have hcut : a' ++ "b'".toList ++ ("Bearer ***'".toList ++ l') =
        a' ++ ("b'Bearer".toList ++ (" ***'".toList ++ l')) := by
      rw [List.append_assoc]
      rfl
    obtain ⟨g, hg⟩ := dump_found none (r := " ***'".toList ++ l')
      (List.mem_append_left _ (by decide))
    exact ⟨a', _, g, hab.trans hcut, hg⟩
  have hbearer := sub_bearer_fixed hmasked
  have hbytes := sub_bytes_fixed h
  conv_lhs => rw [redactHttpClientLogText, hbearer, hbytes, redactHttpClientLogText, sub_query_fixed]
  rfl

/-- **A text is redacted by one pass** exactly if no dump stays. -/
lemma redact_redact_iff (w : WordClass) (x : List Char) :
    redactHttpClientLogText w (redactHttpClientLogText w x) = redactHttpClientLogText w x ↔
      ¬ DumpStays w x := by
  constructor
  · intro hsame hdump
    obtain ⟨a, b, hab⟩ := mask_of_dump hdump
    have htaken := quote_taken (w := w) a b
    rw [← hab] at htaken
    have hle := (count_query _).trans
      (count_bytes (sub (bearer w) (redactHttpClientLogText w x)))
    have hcount := congrArg (List.count '\'') hsame
    rw [redactHttpClientLogText] at hcount
    omega
  · intro hdump
    exact redact_fixed fun h => hdump (dumpStays_iff.mpr h)

/-! ## The handlers -/

section Handlers

variable {w : WordClass} {name : String} {x : List Char}

/-- The filter takes the record for one of `httpx` or `httpcore`. -/
def Filtered (name : String) : Prop :=
  (loggerPrefixes.any fun start => start.toList.isPrefixOf name.toList) = true

lemma handled_filtered (hname : Filtered name) (n : ℕ) :
    LogRecord.handled w (n + 1) ⟨name, some x⟩ =
      some (redactHttpClientLogText w x) ::
        LogRecord.handled w n ⟨name, some (redactHttpClientLogText w x)⟩ := by
  have hfilter : LogRecord.filter w ⟨name, some x⟩ =
      (⟨name, some (redactHttpClientLogText w x)⟩, true) := if_pos hname
  rw [LogRecord.handled, hfilter]
  rfl

/-- Other records are left alone. -/
lemma handled_other (hname : ¬ Filtered name) (n : ℕ) :
    ∀ m ∈ LogRecord.handled w n ⟨name, some x⟩, m = some x := by
  have hfilter : LogRecord.filter w ⟨name, some x⟩ = (⟨name, some x⟩, true) := if_neg hname
  induction n with
  | zero => simp [LogRecord.handled]
  | succ n ih =>
      rw [LogRecord.handled, hfilter]
      intro m hm
      rcases List.mem_cons.mp hm with rfl | hm
      · rfl
      · exact ih m hm

/-- From a text that a second pass does not change, every handler gets what the first one gets. -/
lemma handled_same (hname : Filtered name) (n : ℕ)
    (hx : redactHttpClientLogText w (redactHttpClientLogText w x) = redactHttpClientLogText w x) :
    ∀ m ∈ LogRecord.handled w n ⟨name, some x⟩, m = some (redactHttpClientLogText w x) := by
  induction n generalizing x with
  | zero => simp [LogRecord.handled]
  | succ n ih =>
      rw [handled_filtered hname]
      intro m hm
      rcases List.mem_cons.mp hm with rfl | hm
      · rfl
      · have hrest := ih (by rw [hx, hx]) m hm
        rwa [hx] at hrest

end Handlers

/-- **Redacting twice** changes nothing, and every handler reads the same text, however many there
are, exactly for the texts in which no dump stays. -/
theorem redact_twice_iff (w : WordClass) (x : List Char) :
    (redactHttpClientLogText w (redactHttpClientLogText w x) = redactHttpClientLogText w x ↔
      ¬ DumpStays w x) ∧
    ((∀ name n, ∀ m ∈ LogRecord.handled w n ⟨name, some x⟩,
        ∀ m' ∈ LogRecord.handled w n ⟨name, some x⟩, m = m') ↔ ¬ DumpStays w x) := by
  refine ⟨redact_redact_iff w x, ?_⟩
  rw [← redact_redact_iff w x]
  constructor
  · intro h
    have hname : Filtered "httpx" := by
      rw [Filtered]
      decide
    have htwo : LogRecord.handled w 2 ⟨"httpx", some x⟩ =
        [some (redactHttpClientLogText w x),
          some (redactHttpClientLogText w (redactHttpClientLogText w x))] := by
      rw [handled_filtered hname, handled_filtered hname, LogRecord.handled]
    have hsame := h "httpx" 2 (some (redactHttpClientLogText w (redactHttpClientLogText w x)))
      (by rw [htwo]; simp) (some (redactHttpClientLogText w x)) (by rw [htwo]; simp)
    exact Option.some.inj hsame
  · intro h name n m hm m' hm'
    by_cases hname : Filtered name
    · rw [handled_same hname n h m hm, handled_same hname n h m' hm']
    · rw [handled_other hname n m hm, handled_other hname n m' hm']

/-- What `httpcore` logs of a request with two headers is redacted further by a second pass. -/
theorem header_dump_unsettled : ¬ ∀ (w : WordClass) (x : List Char),
    redactHttpClientLogText w (redactHttpClientLogText w x) = redactHttpClientLogText w x := by
  intro h
  have honce : redactHttpClientLogText asciiWords
      "[(b'Authorization', b'Bearer tok'), (b'X', b'Y')]".toList =
        "[(b'Authorization', b'Bearer ***'X', b'Y')]".toList := by decide
  have htwice : redactHttpClientLogText asciiWords
      "[(b'Authorization', b'Bearer ***'X', b'Y')]".toList =
        "[(b'Authorization', b'Bearer ***'Y')]".toList := by decide
  have hsame := h asciiWords "[(b'Authorization', b'Bearer tok'), (b'X', b'Y')]".toList
  rw [honce, htwice] at hsame
  exact absurd hsame (by decide)

end SpeakrRunpod
