import SpeakrRunpod.Common.Redaction

/-!
# Redacted texts do not depend on the secret

Two texts that differ in a bearer token, or in the value of a secret query parameter, are redacted.
Each of the three patterns is blind to the secret (`bearer_blind`, `bearerBytes_blind`,
`querySecret_blind`): either one match covers it in both texts, and they become the same, or it stays
in both.

* `Place`, `Hides` — the places of a secret in a text, and what is asked of the redaction.
* `Covered` — the condition: the value of a parameter is always covered; a bearer token is unless an
  earlier match takes the word `Bearer` away and no dump of bytes stands around it.
* `hides_iff` — the redaction hides the secret in exactly these places.
-/

namespace SpeakrRunpod

open PyText (isSpace)
open Scan

/-! ## Secrets and their places -/

section Secrets

variable (w : WordClass)

/-- A secret: letters, digits, `-` and `_`, without the word `bearer` in any case. -/
structure IsSecret (t : List Char) : Prop where
  nonempty : t ≠ []
  chars : ∀ c ∈ t, w.isWord c = true ∨ c = '-'
  noBearer : ¬ "bearer".toList <:+: t.map foldCase

/-- What may follow a secret: nothing, a space, or the end of a query parameter. -/
def EndsSecret (b : List Char) : Prop := ∀ c, b.head? = some c → isSpace c = true ∨ c = '&' ∨ c = '#'

/-- What stands directly in front of a secret. -/
def BeforeSecret (c : Char) : Prop := isSpace c = true ∨ c = '='

instance (c : Char) : Decidable (BeforeSecret c) := inferInstanceAs (Decidable (_ ∨ _))

variable {w}

lemma isWord_ascii {c : Char} (hc : c.toNat < 0x80) (h : (c.isAlphanum || c = '_') = false) :
    w.isWord c = false := by
  rw [w.ascii c hc, h]

/-- A character of a secret is none of those at which a pattern stops. -/
lemma IsSecret.not_mem {t : List Char} (h : IsSecret w t) {c : Char} (hc : c.toNat < 0x80)
    (hword : (c.isAlphanum || c = '_') = false) (hhyphen : c ≠ '-') : c ∉ t := by
  intro hmem
  rcases h.chars c hmem with h | h
  · rw [isWord_ascii hc hword] at h
    cases h
  · exact hhyphen h

lemma IsSecret.not_space {t : List Char} (h : IsSecret w t) {c : Char} (hc : c ∈ t) :
    isSpace c = false := by
  rcases h.chars c hc with h | rfl
  · cases hspace : isSpace c with
    | false => rfl
    | true => rw [w.space c hspace] at h; cases h
  · decide

lemma IsSecret.isValueChar {t : List Char} (h : IsSecret w t) {c : Char} (hc : c ∈ t) :
    isValueChar c = true := by
  have hspace := h.not_space hc
  have hamp : c ≠ '&' := by
    rintro rfl
    exact h.not_mem (by decide) (by decide) (by decide) hc
  have hhash : c ≠ '#' := by
    rintro rfl
    exact h.not_mem (by decide) (by decide) (by decide) hc
  simp [SpeakrRunpod.isValueChar, hspace, hamp, hhash]

end Secrets

/-! ## Runs of characters -/

section Runs

variable {P : Char → Bool}

/-- A run that begins with a word of its class takes the word as a whole. -/
lemma Span.cover {x rest t b : List Char} (hx : Span P x rest) (ht : ∀ c ∈ t, P c = true)
    (h : t ++ b = x ++ rest) : ∃ b₁, x = t ++ b₁ ∧ b = b₁ ++ rest := by
  rcases List.append_eq_append_iff.mp h with ⟨b₁, rfl, rfl⟩ | ⟨y, rfl, hrest⟩
  · exact ⟨b₁, rfl, rfl⟩
  · cases y with
    | nil => exact ⟨[], by simp, by simpa using hrest.symm⟩
    | cons c y =>
        have hc := hx.stop c (by rw [hrest]; rfl)
        rw [ht c (by simp)] at hc
        cases hc

/-- A run that begins in front of such a word ends in front of it, or takes it as a whole. -/
lemma Span.across {x rest v t b : List Char} (hx : Span P x rest) (ht : ∀ c ∈ t, P c = true)
    (hne : t ≠ []) (h : v ++ (t ++ b) = x ++ rest) :
    (∃ v', v = x ++ v' ∧ v' ≠ [] ∧ rest = v' ++ (t ++ b)) ∨
      ∃ b₁, x = v ++ (t ++ b₁) ∧ b = b₁ ++ rest := by
  rcases List.append_eq_append_iff.mp h with ⟨y, rfl, hy⟩ | ⟨v', rfl, rfl⟩
  · have hspan : Span P y rest := ⟨fun c hc => hx.inside c (by simp [hc]), hx.stop⟩
    obtain ⟨b₁, rfl, rfl⟩ := hspan.cover ht hy
    exact .inr ⟨b₁, rfl, rfl⟩
  · cases v' with
    | nil =>
        obtain ⟨b₁, hnil, -⟩ := Span.cover (x := []) ⟨by simp, hx.stop⟩ ht rfl
        exact absurd (List.append_eq_nil_iff.mp hnil.symm).1 hne
    | cons c v' => exact .inl ⟨_, rfl, by simp, rfl⟩

/-- A run that ends in front of a text that is not empty ends there whatever comes behind. -/
lemma Span.behind {x v l l' : List Char} (hx : Span P x (v ++ l)) (hv : v ≠ []) :
    Span P x (v ++ l') := by
  cases v with
  | nil => exact absurd rfl hv
  | cons c v => exact ⟨hx.inside, fun d hd => hx.stop d hd⟩

/-- A run may take another word of its class. -/
lemma Span.other {v t t' b rest : List Char} (hx : Span P (v ++ (t ++ b)) rest)
    (ht' : ∀ c ∈ t', P c = true) : Span P (v ++ (t' ++ b)) rest := by
  refine ⟨fun c hc => ?_, hx.stop⟩
  rcases List.mem_append.mp hc with hc | hc
  · exact hx.inside c (by simp [hc])
  · rcases List.mem_append.mp hc with hc | hc
    · exact ht' c hc
    · exact hx.inside c (by simp [hc])

/-- A run in front of a word of other characters ends there, too. -/
lemma Span.replace {x v t t' l : List Char} (hx : Span P x (v ++ (t ++ l)))
    (ht' : ∀ c ∈ t', P c = false) (hne : t' ≠ []) : Span P x (v ++ (t' ++ l)) := by
  cases v with
  | nil =>
      obtain ⟨c, t', rfl⟩ := List.exists_cons_of_ne_nil hne
      refine ⟨hx.inside, fun d hd => ?_⟩
      obtain rfl : c = d := by simpa using hd
      exact ht' c List.mem_cons_self
  | cons c v => exact ⟨hx.inside, fun d hd => hx.stop d hd⟩

/-- Spaces in front of what begins with none are in front of the word. -/
lemma spaces_before {ws v r t b : List Char} (hws : ∀ c ∈ ws, isSpace c = true)
    (ht : ∀ c ∈ t, isSpace c = false) (hne : t ≠ []) (h : v ++ (t ++ b) = ws ++ r) :
    ∃ v', v = ws ++ v' ∧ r = v' ++ (t ++ b) := by
  rcases List.append_eq_append_iff.mp h with ⟨y, rfl, hy⟩ | ⟨v', rfl, rfl⟩
  · cases y with
    | nil => exact ⟨[], by simp, by simpa using hy.symm⟩
    | cons c y =>
        cases t with
        | nil => exact absurd rfl hne
        | cons d t =>
            obtain ⟨rfl, -⟩ := List.cons.inj hy
            have hspace := hws d (by simp)
            rw [ht d (by simp)] at hspace
            cases hspace
  · exact ⟨v', rfl, rfl⟩

/-- A word without such a character, in front of a word of them. -/
lemma word_before {word v r l : List Char} {e : Char → Prop} (hv : EndsIn e v) (hne : v ≠ [])
    (hword : ∀ c ∈ word, ¬ e c) (h : v ++ l = word ++ r) : ∃ v', v = word ++ v' ∧ r = v' ++ l := by
  rcases List.append_eq_append_iff.mp h with ⟨y, rfl, -⟩ | ⟨v', rfl, rfl⟩
  · obtain ⟨v, c, rfl⟩ := (List.eq_nil_or_concat v).resolve_left hne
    exact absurd (hv c (by simp)) (hword c (by simp))
  · exact ⟨v', rfl, rfl⟩

end Runs

/-! ## The patterns are blind to secrets -/

section Blindness

variable {w : WordClass} {b : List Char}

lemma not_before_of_letter {c : Char} (h : (foldCase c).isLower = true) : ¬ BeforeSecret c := by
  rintro (hspace | rfl)
  · rw [not_space_of_letter h] at hspace
    cases hspace
  · exact absurd h (by decide)

/-- What follows a secret begins with no letter. -/
lemma EndsSecret.not_letter (hb : EndsSecret b) {c : Char} (hc : b.head? = some c) :
    (foldCase c).isLower = false := by
  rcases hb c hc with hspace | rfl | rfl
  · cases h : (foldCase c).isLower with
    | false => rfl
    | true => rw [not_space_of_letter h] at hspace; cases hspace
  · decide
  · decide

/-- **`\bBearer\s+\S+` is blind to secrets.** -/
lemma bearer_blind (hb : EndsSecret b) : Blind (bearer w) (IsSecret w) BeforeSecret b where
  inside prev u v ht hv := by
    cases hmatch : (bearer w).matchAt prev (v ++ b) with
    | none => rfl
    | some f =>
        generalize hl : v ++ b = l at hmatch
        obtain ⟨-, hword⟩ := bearer_matchAt.mp hmatch
        refine (ht.noBearer ?_).elim
        rcases List.append_eq_append_iff.mp hl with ⟨y, rfl, hy⟩ | ⟨v', rfl, -⟩
        · -- The word would reach behind the secret, or end with it.
          cases y with
          | nil => exact ⟨u.map foldCase, [], by simp [← hword]⟩
          | cons c y =>
              have hletter := letters_of_word hword (by decide) c (by simp)
              rw [hb.not_letter (by rw [hy]; rfl)] at hletter
              cases hletter
        · exact ⟨u.map foldCase, v'.map foldCase, by simp [← hword]⟩
  across t t' ht ht' prev v f hv hend hmatch := by
    generalize hl : v ++ (t ++ b) = l at hmatch
    obtain ⟨hprev, hword, hws, hws_ne, htoken, htoken_ne⟩ := bearer_matchAt.mp hmatch
    rename_i word ws token rest
    obtain ⟨v₁, rfl, hv₁⟩ := word_before hend hv
      (fun c hc => not_before_of_letter (letters_of_word hword (by decide) c hc)) hl
    obtain ⟨v₂, rfl, hv₂⟩ := spaces_before hws (fun c hc => ht.not_space hc) ht.nonempty hv₁.symm
    have hnot : ∀ t, IsSecret w t → ∀ c ∈ t, (!isSpace c) = true :=
      fun t ht c hc => by rw [ht.not_space hc]; rfl
    rcases htoken.across (hnot t ht) ht.nonempty hv₂.symm with
      ⟨v', rfl, hne, rfl⟩ | ⟨b₁, rfl, rfl⟩
    · refine .inl ⟨v', by simp, ?_⟩
      have hl' : word ++ (ws ++ (token ++ v')) ++ (t' ++ b) =
          word ++ (ws ++ (token ++ (v' ++ (t' ++ b)))) := by simp
      rw [hl']
      exact bearer_matchAt.mpr (.mk hprev hword hws hws_ne (htoken.behind hne) htoken_ne)
    · refine .inr ⟨t ++ b₁, t' ++ b₁, rest, ⟨b₁, rfl, rfl, rfl, rfl⟩, by simp [ht.nonempty],
        by simp, ?_⟩
      have hl' : word ++ (ws ++ v₂) ++ (t' ++ (b₁ ++ rest)) =
          word ++ (ws ++ ((v₂ ++ (t' ++ b₁)) ++ rest)) := by simp
      have htext : word ++ (ws ++ v₂) ++ (t' ++ b₁) = word ++ (ws ++ (v₂ ++ (t' ++ b₁))) := by
        simp
      rw [hl', htext]
      refine bearer_matchAt.mpr (.mk hprev hword hws hws_ne (htoken.other (hnot t' ht')) ?_)
      simp [ht'.nonempty]
  behind prev prev' := by
    have hnone : ∀ prev, (bearer w).matchAt prev b = none := by
      intro prev
      refine (bearer w).none_of_starts fun c hc => ?_
      have hletter := hb.not_letter hc
      refine decide_eq_false fun hfold => ?_
      rw [hfold] at hletter
      exact absurd hletter (by decide)
    rw [hnone, hnone]

/-- **`b'Bearer[^']*'` is blind to secrets.** -/
lemma bearerBytes_blind (hb : EndsSecret b) : Blind bearerBytes (IsSecret w) BeforeSecret b where
  inside prev u v ht hv := by
    cases hmatch : bearerBytes.matchAt prev (v ++ b) with
    | none => rfl
    | some f =>
        generalize hl : v ++ b = l at hmatch
        obtain ⟨hinner⟩ := bearerBytes_matchAt.mp hmatch
        have hquote : '\'' ∉ u ++ v := ht.not_mem (by decide) (by decide) (by decide)
        rw [bytesStart_eq, List.cons_append, List.cons_append] at hl
        -- The quote behind the first letter is neither in the secret nor behind it.
        cases v with
        | nil => exact absurd rfl hv
        | cons c v =>
            obtain ⟨rfl, hlater⟩ := List.cons.inj hl
            cases v with
            | nil =>
                have hhead : b.head? = some '\'' := congrArg List.head? hlater
                rcases hb _ hhead with h | h | h
                · exact absurd h (by decide)
                · exact absurd h (by decide)
                · exact absurd h (by decide)
            | cons d v =>
                obtain ⟨rfl, -⟩ := List.cons.inj hlater
                exact absurd (by simp) hquote
  across t t' ht ht' prev v f hv hend hmatch := by
    generalize hl : v ++ (t ++ b) = l at hmatch
    obtain ⟨hinner⟩ := bearerBytes_matchAt.mp hmatch
    rename_i inner rest
    have hquote : ∀ t, IsSecret w t → ∀ c ∈ t, decide (c ≠ '\'') = true := by
      intro t ht c hc
      rw [decide_eq_true_eq]
      rintro rfl
      exact ht.not_mem (by decide) (by decide) (by decide) hc
    have hword : ∀ c ∈ "b'Bearer".toList, ¬ BeforeSecret c := by
      have hall : "b'Bearer".toList.all (fun c => !isSpace c && c ≠ '=') = true := by decide
      rw [List.all_eq_true] at hall
      intro c hc
      have hc' := hall c hc
      simp only [Bool.and_eq_true, Bool.not_eq_true', decide_eq_true_eq] at hc'
      simp [BeforeSecret, hc']
    obtain ⟨v₁, rfl, hv₁⟩ := word_before hend hv hword hl
    have hspan : Span (fun c => decide (c ≠ '\'')) inner ('\'' :: rest) := by
      refine ⟨fun c hc => decide_eq_true ?_, by simp⟩
      rintro rfl
      exact hinner hc
    rcases hspan.across (hquote t ht) ht.nonempty hv₁.symm with
      ⟨v', rfl, hne, hrest⟩ | ⟨b₁, rfl, rfl⟩
    · cases v' with
      | nil => exact absurd rfl hne
      | cons c v' =>
          obtain ⟨rfl, rfl⟩ := List.cons.inj hrest
          refine .inl ⟨v', by simp, ?_⟩
          have hl' : "b'Bearer".toList ++ (inner ++ '\'' :: v') ++ (t' ++ b) =
              "b'Bearer".toList ++ (inner ++ '\'' :: (v' ++ (t' ++ b))) := by
            rw [List.append_assoc, List.append_assoc, List.cons_append]
          rw [hl']
          exact bearerBytes_matchAt.mpr (.mk hinner)
    · refine .inr ⟨t ++ (b₁ ++ ['\'']), t' ++ (b₁ ++ ['\'']), rest, ⟨_, by simp, rfl, rfl, rfl⟩,
        by simp, by simp, ?_⟩
      have hl' : "b'Bearer".toList ++ v₁ ++ (t' ++ (b₁ ++ '\'' :: rest)) =
          "b'Bearer".toList ++ ((v₁ ++ (t' ++ b₁)) ++ '\'' :: rest) := by
        rw [List.append_assoc, List.append_assoc, List.append_assoc]
      have htext : "b'Bearer".toList ++ v₁ ++ (t' ++ (b₁ ++ ['\''])) =
          "b'Bearer".toList ++ ((v₁ ++ (t' ++ b₁)) ++ ['\'']) := by
        rw [List.append_assoc, List.append_assoc, List.append_assoc]
      rw [hl', htext]
      refine bearerBytes_matchAt.mpr (.mk fun hmem => ?_)
      exact absurd ((hspan.other (hquote t' ht')).inside _ hmem) (by decide)
  behind prev prev' := rfl

/-- **`([?&])(api[_-]?key|access[_-]?token)\s*=\s*([^&#\s]*)` is blind to secrets.** -/
lemma querySecret_blind (hb : EndsSecret b) : Blind querySecret (IsSecret w) BeforeSecret b where
  inside prev u v ht hv := by
    refine querySecret.none_of_starts fun c hc => ?_
    have hmem : c ∈ u ++ v := by
      cases v with
      | nil => exact absurd rfl hv
      | cons d v =>
          obtain rfl : d = c := by simpa using hc
          simp
    have hquestion : c ≠ '?' := by
      rintro rfl
      exact ht.not_mem (by decide) (by decide) (by decide) hmem
    have hamp : c ≠ '&' := by
      rintro rfl
      exact ht.not_mem (by decide) (by decide) (by decide) hmem
    simp [querySecret, hquestion, hamp]
  across t t' ht ht' prev v f hv hend hmatch := by
    generalize hl : v ++ (t ++ b) = l at hmatch
    obtain ⟨hmark, hname, hws, hws', hvalue⟩ := querySecret_matchAt.mp hmatch
    rename_i mark name ws ws' value rest
    have hspaces : ∀ t, IsSecret w t → ∀ c ∈ t, isSpace c = false := fun t ht c hc => ht.not_space hc
    have hvalues : ∀ t, IsSecret w t → ∀ c ∈ t, isValueChar c = true :=
      fun t ht c hc => ht.isValueChar hc
    have hname_not : ∀ c ∈ mark :: name, ¬ BeforeSecret c := by
      intro c hc
      rcases List.mem_cons.mp hc with rfl | hc
      · rcases hmark with rfl | rfl
        · exact by decide
        · exact by decide
      · rcases hname.chars c hc with hletter | rfl | rfl
        · exact not_before_of_letter hletter
        · exact by decide
        · exact by decide
    rw [← List.cons_append] at hl
    obtain ⟨v₁, rfl, hv₁⟩ := word_before hend hv hname_not hl
    obtain ⟨v₂, rfl, hv₂⟩ := spaces_before hws (hspaces t ht) ht.nonempty hv₁.symm
    obtain ⟨v₃, rfl, hv₃⟩ : ∃ v₃, v₂ = '=' :: v₃ ∧
        ws' ++ (value ++ rest) = v₃ ++ (t ++ b) := by
      -- The sign of equality is not in the secret.
      cases v₂ with
      | nil =>
          obtain ⟨c, t, rfl⟩ := List.exists_cons_of_ne_nil ht.nonempty
          obtain ⟨rfl, -⟩ := List.cons.inj hv₂
          have hnot : '=' ∉ '=' :: t := ht.not_mem (by decide) (by decide) (by decide)
          exact absurd List.mem_cons_self hnot
      | cons c v₃ =>
          obtain ⟨rfl, hlater⟩ := List.cons.inj hv₂
          exact ⟨v₃, rfl, hlater⟩
    obtain ⟨v₄, rfl, hv₄⟩ := spaces_before hws'.inside (hspaces t ht) ht.nonempty hv₃.symm
    rcases hvalue.across (hvalues t ht) ht.nonempty hv₄.symm with
      ⟨v', rfl, hne, rfl⟩ | ⟨b₁, rfl, rfl⟩
    · refine .inl ⟨v', by simp, ?_⟩
      have hl' : mark :: name ++ (ws ++ '=' :: (ws' ++ (value ++ v'))) ++ (t' ++ b) =
          mark :: (name ++ (ws ++ '=' :: (ws' ++ (value ++ (v' ++ (t' ++ b)))))) := by simp
      rw [hl']
      refine querySecret_matchAt.mpr (.mk hmark hname hws ?_ (hvalue.behind hne))
      rw [← List.append_assoc] at hws' ⊢
      exact hws'.behind (by simp [hne])
    · refine .inr ⟨t ++ b₁, t' ++ b₁, rest, ⟨b₁, rfl, rfl, rfl, rfl⟩, by simp [ht.nonempty],
        by simp, ?_⟩
      have hl' : mark :: name ++ (ws ++ '=' :: (ws' ++ v₄)) ++ (t' ++ (b₁ ++ rest)) =
          mark :: (name ++ (ws ++ '=' :: (ws' ++ ((v₄ ++ (t' ++ b₁)) ++ rest)))) := by simp
      have htext : mark :: name ++ (ws ++ '=' :: (ws' ++ v₄)) ++ (t' ++ b₁) =
          mark :: (name ++ (ws ++ '=' :: (ws' ++ (v₄ ++ (t' ++ b₁))))) := by simp
      rw [hl', htext]
      refine querySecret_matchAt.mpr (.mk hmark hname hws ?_ (hvalue.other (hvalues t' ht')))
      rw [List.append_assoc, List.append_assoc] at hws' ⊢
      exact hws'.replace (hspaces t' ht') ht'.nonempty
  behind prev prev' := rfl

end Blindness

/-! ## What is in front of the secret -/

/-- Nothing, or a space. -/
def SpaceNext (l : List Char) : Prop := ∀ c, l.head? = some c → isSpace c = true

lemma SpaceNext.endsSecret {l : List Char} (h : SpaceNext l) : EndsSecret l :=
  fun c hc => .inl (h c hc)

lemma not_space_bearer : ∀ c ∈ "Bearer".toList, isSpace c = false := by
  have hall : "Bearer".toList.all (fun c => !isSpace c) = true := by decide
  rw [List.all_eq_true] at hall
  exact fun c hc => by simpa using hall c hc

/-- **An earlier token ends with the word `Bearer`**, if it reaches it, whatever comes behind. -/
lemma bearer_agrees {w : WordClass} {l l' : List Char} (hl : SpaceNext l) (hl' : SpaceNext l') :
    Agrees (bearer w) (fun _ => True)
      (fun x r x' r' => x = "Bearer".toList ∧ r = l ∧ x' = "Bearer".toList ∧ r' = l')
      ("Bearer".toList ++ l) ("Bearer".toList ++ l') := by
  intro prev v f hv _ hmatch
  generalize hwhole : v ++ ("Bearer".toList ++ l) = whole at hmatch
  obtain ⟨hprev, hword, hws, hws_ne, htoken, htoken_ne⟩ := bearer_matchAt.mp hmatch
  rename_i word ws token rest
  obtain ⟨v₁, rfl, hv₁⟩ : ∃ v₁, v = word ++ v₁ ∧
      ws ++ (token ++ rest) = v₁ ++ ("Bearer".toList ++ l) := by
    rcases List.append_eq_append_iff.mp hwhole with ⟨y, rfl, hy⟩ | ⟨v₁, rfl, hv₁⟩
    · cases y with
      | nil => exact ⟨[], by simp, by simpa using hy.symm⟩
      | cons d y =>
          -- The letter `b` is the first one of the word only.
          obtain ⟨c, v, rfl⟩ := List.exists_cons_of_ne_nil hv
          have hd : d = 'B' := by simpa using (congrArg List.head? hy).symm
          have hearer : (v ++ d :: y).map foldCase = "earer".toList := (List.cons.inj hword).2
          have hmem : foldCase d ∈ "earer".toList := by
            rw [← hearer]
            exact List.mem_map_of_mem (by simp)
          rw [hd] at hmem
          exact absurd hmem (by decide)
    · exact ⟨v₁, rfl, hv₁⟩
  obtain ⟨v₂, rfl, hv₂⟩ := spaces_before hws not_space_bearer (by decide) hv₁.symm
  have hbearer : ∀ c ∈ "Bearer".toList, (!isSpace c) = true :=
    fun c hc => by rw [not_space_bearer c hc]; rfl
  rcases htoken.across hbearer (by decide) hv₂.symm with ⟨v', rfl, hne, rfl⟩ | ⟨b₁, rfl, rfl⟩
  · refine .inl ⟨v', by simp, ?_⟩
    have hl' : word ++ (ws ++ (token ++ v')) ++ ("Bearer".toList ++ l') =
        word ++ (ws ++ (token ++ (v' ++ ("Bearer".toList ++ l')))) := by
      simp only [List.append_assoc]
    rw [hl']
    exact bearer_matchAt.mpr (.mk hprev hword hws hws_ne (htoken.behind hne) htoken_ne)
  · obtain rfl : b₁ = [] := by
      cases b₁ with
      | nil => rfl
      | cons c b₁ =>
          have hspace := hl c rfl
          have hnot := htoken.inside c (by simp)
          rw [hspace] at hnot
          cases hnot
    rw [List.append_nil] at htoken
    refine .inr ⟨"Bearer".toList, "Bearer".toList, l', ⟨rfl, rfl, rfl, rfl⟩, by decide, ?_, ?_⟩
    · simp only [List.append_assoc, List.append_nil]
    · have hsplit : word ++ (ws ++ v₂) ++ ("Bearer".toList ++ l') =
          word ++ (ws ++ ((v₂ ++ "Bearer".toList) ++ l')) := by
        simp only [List.append_assoc]
      have htext : word ++ (ws ++ v₂) ++ "Bearer".toList =
          word ++ (ws ++ (v₂ ++ "Bearer".toList)) := by
        simp only [List.append_assoc]
      rw [hsplit, htext]
      refine bearer_matchAt.mpr (.mk hprev hword hws hws_ne ⟨htoken.inside, fun c hc => ?_⟩ ?_)
      · rw [hl' c hc]
        rfl
      · simp

/-- **A dump of bytes ends at the next quote**, whatever is in front of the quote. -/
lemma bearerBytes_agrees {z z' l : List Char} (hz : '\'' ∉ z) (hz' : '\'' ∉ z') :
    Agrees bearerBytes (· = '*')
      (fun x r x' r' => ∃ y, y ≠ [] ∧ x = z ++ y ∧ x' = z' ++ y ∧ r' = r) (z ++ l) (z' ++ l) := by
  intro prev v f hv hend hmatch
  generalize hwhole : v ++ (z ++ l) = whole at hmatch
  obtain ⟨hinner⟩ := bearerBytes_matchAt.mp hmatch
  rename_i inner rest
  have hword : ∀ c ∈ "b'Bearer".toList, ¬ c = '*' := by
    have hall : "b'Bearer".toList.all (fun c => c ≠ '*') = true := by decide
    rw [List.all_eq_true] at hall
    exact fun c hc => by simpa using hall c hc
  obtain ⟨v₁, rfl, hv₁⟩ := word_before hend hv hword hwhole
  have hsplit : (∃ v', v₁ = inner ++ '\'' :: v' ∧ rest = v' ++ (z ++ l)) ∨
      ∃ q, inner = v₁ ++ (z ++ q) ∧ l = q ++ '\'' :: rest := by
    -- The closing quote is in front of `z` or behind it.
    have hbehind : ∀ y, inner = v₁ ++ y → z ++ l = y ++ '\'' :: rest →
        ∃ q, inner = v₁ ++ (z ++ q) ∧ l = q ++ '\'' :: rest := by
      intro y hy hzl
      rcases List.append_eq_append_iff.mp hzl with ⟨q, rfl, hq⟩ | ⟨q, rfl, hq⟩
      · exact ⟨q, hy, hq⟩
      · cases q with
        | nil => exact ⟨[], by rw [hy]; simp, by simpa using hq.symm⟩
        | cons c q =>
            obtain ⟨rfl, -⟩ := List.cons.inj hq
            exact absurd (by simp) hz
    rcases List.append_eq_append_iff.mp hv₁ with ⟨v', rfl, hv'⟩ | ⟨y, rfl, hy⟩
    · cases v' with
      | nil => exact .inr (hbehind [] (by simp) hv'.symm)
      | cons c v' =>
          obtain ⟨rfl, rfl⟩ := List.cons.inj hv'
          exact .inl ⟨v', rfl, rfl⟩
    · exact .inr (hbehind y rfl hy)
  rcases hsplit with ⟨v', rfl, rfl⟩ | ⟨q, rfl, rfl⟩
  · refine .inl ⟨v', by simp, ?_⟩
    have hl' : "b'Bearer".toList ++ (inner ++ '\'' :: v') ++ (z' ++ l) =
        "b'Bearer".toList ++ (inner ++ '\'' :: (v' ++ (z' ++ l))) := by
      rw [List.append_assoc, List.append_assoc, List.cons_append]
    rw [hl']
    exact bearerBytes_matchAt.mpr (.mk hinner)
  · refine .inr ⟨z ++ (q ++ ['\'']), z' ++ (q ++ ['\'']), rest, ⟨_, by simp, rfl, rfl, rfl⟩,
      by simp, by simp, ?_⟩
    have hl' : "b'Bearer".toList ++ v₁ ++ (z' ++ (q ++ '\'' :: rest)) =
        "b'Bearer".toList ++ ((v₁ ++ (z' ++ q)) ++ '\'' :: rest) := by
      rw [List.append_assoc, List.append_assoc, List.append_assoc]
    have htext : "b'Bearer".toList ++ v₁ ++ (z' ++ (q ++ ['\''])) =
        "b'Bearer".toList ++ ((v₁ ++ (z' ++ q)) ++ ['\'']) := by
      rw [List.append_assoc, List.append_assoc, List.append_assoc]
    rw [hl', htext]
    refine bearerBytes_matchAt.mpr (.mk fun hmem => ?_)
    rcases List.mem_append.mp hmem with hmem | hmem
    · exact hinner (by simp [hmem])
    · rcases List.mem_append.mp hmem with hmem | hmem
      · exact hz' hmem
      · exact hinner (by simp [hmem])

/-! ## Places -/

/-- A place for a secret in a text. -/
inductive Place (w : WordClass)
  /-- behind the word `Bearer` -/
  | token (pre ws post : List Char) (hpre : (after none pre).any w.isWord = false)
      (hws_ne : ws ≠ []) (hws : ∀ c ∈ ws, isSpace c = true) (hpost : SpaceNext post)
  /-- the value of a query parameter -/
  | parameter (pre : List Char) (mark : Char) (name post : List Char)
      (hmark : mark = '?' ∨ mark = '&') (hname : IsSecretName name) (hpost : EndsSecret post)

section Places

variable {w : WordClass}

/-- The text with a secret in its place. -/
def Place.text (place : Place w) (t : List Char) : List Char :=
  match place with
  | .token pre ws post _ _ _ _ => pre ++ ("Bearer".toList ++ (ws ++ (t ++ post)))
  | .parameter pre mark name post _ _ _ => pre ++ (mark :: (name ++ ['='])) ++ (t ++ post)

/-- **The redaction hides the secret**: what becomes of the text is the same for every secret. -/
def Hides (place : Place w) : Prop :=
  ∀ t t', IsSecret w t → IsSecret w t' →
    redactHttpClientLogText w (place.text t) = redactHttpClientLogText w (place.text t')

/-- An earlier token takes the word `Bearer` at the end of a text away. -/
def Swallowed (w : WordClass) (pre : List Char) : Prop :=
  ¬ Stops (bearer w) none pre "Bearer".toList

/-- In the text without its tokens, a dump of bytes begins in front of the place and ends behind. -/
def InDump (w : WordClass) (pre post : List Char) : Prop :=
  ¬ Stops bearerBytes none (sub (bearer w) (pre ++ "Bearer".toList)) (sub (bearer w) post)

/-- **When a secret is covered.** -/
def Place.Covered : Place w → Prop
  | .token pre _ post _ _ _ _ => Swallowed w pre → InDump w pre post
  | .parameter .. => True

end Places

/-! ## Behind the word `Bearer` -/

section Token

variable {w : WordClass} {pre ws post t : List Char}

/-- The first substitution puts in one text. -/
lemma bearer_out {prev : Option Char} {l text out : List Char} {qs rs : List (Piece Char)}
    (h : Scans (bearer w) prev l (qs ++ Piece.hit text out :: rs)) : out = "Bearer ***".toList := by
  have hmatch := h.found
  generalize hl : text ++ texts rs = whole at hmatch
  generalize hf : Match.mk text out (texts rs) = f at hmatch
  obtain ⟨⟩ := bearer_matchAt.mp hmatch
  exact (Match.mk.inj hf).2.1

lemma starts_space {c : Char} (hc : isSpace c = true) : (bearer w).starts c = false := by
  refine decide_eq_false fun hfold => ?_
  rw [foldCase_space hc] at hfold
  rw [hfold] at hc
  exact absurd hc (by decide)

/-- **A token that is found is masked.** -/
lemma sub_found (hpre : (after none pre).any w.isWord = false) (hws_ne : ws ≠ [])
    (hws : ∀ c ∈ ws, isSpace c = true) (hpost : SpaceNext post)
    (h : Stops (bearer w) none pre "Bearer".toList) :
    ∃ x, ∀ t, IsSecret w t →
      sub (bearer w) (pre ++ ("Bearer".toList ++ (ws ++ (t ++ post)))) = x := by
  obtain ⟨qs, rs, hscan, rfl⟩ := h
  have hblind := bearer_blind (w := w) hpost.endsSecret
  refine ⟨outs qs ++ ("Bearer ***".toList ++ sub (bearer w) post), fun t ht => ?_⟩
  have hspaces : SpaceNext (ws ++ (t ++ post)) := by
    obtain ⟨c, ws, rfl⟩ := List.exists_cons_of_ne_nil hws_ne
    intro d hd
    obtain rfl : c = d := by simpa using hd
    exact hws c List.mem_cons_self
  have hnil : SpaceNext [] := by simp [SpaceNext]
  have hmatch : (bearer w).matchAt (after none (texts qs))
      ("Bearer".toList ++ (ws ++ (t ++ post))) =
        some ⟨"Bearer".toList ++ (ws ++ t), "Bearer ***".toList, post⟩ := by
    have htoken : Span (!isSpace ·) t post := by
      refine ⟨fun c hc => ?_, fun c hc => ?_⟩
      · rw [ht.not_space hc]
        rfl
      · rw [hpost c hc]
        rfl
    exact bearer_matchAt.mpr (.mk hpre (by decide) hws hws_ne htoken ht.nonempty)
  have hsplit : "Bearer".toList ++ (ws ++ (t ++ post)) =
      ("Bearer".toList ++ (ws ++ t)) ++ post := by
    simp only [List.append_assoc]
  have hrest := scans_scanFrom (bearer w)
    (after (after none (texts qs)) ("Bearer".toList ++ (ws ++ t))) post
  have hhit := Scans.hit (hsplit ▸ hmatch) hrest
  rw [← hsplit] at hhit
  rw [← List.append_nil "Bearer".toList] at hscan
  have hwhole := stops_of_agrees (bearer_agrees hnil hspaces) (bearer_agrees hspaces hnil)
    (fun _ _ => trivial) hscan hhit
  rw [hwhole.sub_eq, outs_append, outs_hit, hblind.sub_eq hrest]

/-- **A token whose word is swallowed is kept.** -/
lemma sub_swallowed (hws_ne : ws ≠ []) (hws : ∀ c ∈ ws, isSpace c = true)
    (hpost : SpaceNext post) (h : Swallowed w pre) :
    (∃ x, sub (bearer w) (pre ++ "Bearer".toList) = x ++ "Bearer ***".toList) ∧
      ∀ t, IsSecret w t → sub (bearer w) (pre ++ ("Bearer".toList ++ (ws ++ (t ++ post)))) =
        sub (bearer w) (pre ++ "Bearer".toList) ++ (ws ++ (t ++ sub (bearer w) post)) := by
  have hblind := bearer_blind (w := w) hpost.endsSecret
  have hnil : SpaceNext [] := by simp [SpaceNext]
  have hscan := scans_scanFrom (bearer w) none (pre ++ ("Bearer".toList ++ []))
  have hspaces : ∀ l, SpaceNext (ws ++ l) := by
    obtain ⟨c, ws, rfl⟩ := List.exists_cons_of_ne_nil hws_ne
    intro l d hd
    obtain rfl : c = d := by simpa using hd
    exact hws c List.mem_cons_self
  -- The match that reaches over the place ends with the word.
  have hover : ∀ l, SpaceNext l → ∃ qs v, sub (bearer w) (pre ++ "Bearer".toList) =
        outs qs ++ "Bearer ***".toList ∧
      ∀ rs', Scans (bearer w) (after none (pre ++ "Bearer".toList)) l rs' →
        Scans (bearer w) none (pre ++ ("Bearer".toList ++ l))
          (qs ++ Piece.hit (v ++ "Bearer".toList) "Bearer ***".toList :: rs') := by
    intro l hl
    rcases agree_runs (bearer_agrees hnil hl) (bearer_agrees hl hnil) (fun _ _ => trivial) hscan with
      ⟨qs, rs, hps, hplace, -⟩ | ⟨qs, v, x, out, rs, x', r', hps, -, -, -, hC, hother⟩
    · rw [List.append_nil] at hscan hps
      exact absurd ⟨qs, rs, hps ▸ hscan, hplace⟩ h
    · obtain ⟨rfl, hrs, rfl, rfl⟩ := hC
      rw [hps] at hscan
      have hout := bearer_out hscan
      have hrs_nil := nil_of_texts (fun x hx => hscan.begins x (by simp [hx])) hrs
      rw [hout] at hother
      refine ⟨qs, v, ?_, hother⟩
      rw [List.append_nil] at hscan
      rw [hscan.sub_eq, hout, hrs_nil, outs_append, outs_hit, outs_nil, List.append_nil]
  constructor
  · obtain ⟨qs, v, hsub, -⟩ := hover [] hnil
    exact ⟨outs qs, hsub⟩
  · intro t ht
    obtain ⟨qs, v, hsub, hother⟩ := hover (ws ++ (t ++ post)) (hspaces _)
    have hpost_scan := scans_scanFrom (bearer w)
      (after (after (after none (pre ++ "Bearer".toList)) ws) t) post
    have htoken := (hblind.kept (u := []) ht).mpr ⟨_, rfl, hpost_scan⟩
    have hlits := Scans.lits_append (fun c hc => starts_space (hws c hc)) htoken
    have hwhole := hother _ hlits
    rw [hwhole.sub_eq, hsub, outs_append, outs_hit, outs_append, outs_append, outs_lits, outs_lits,
      hblind.sub_eq hpost_scan, List.append_assoc]

/-- What ends in a star still does behind the second substitution: a match ends in a quote. -/
lemma star_kept {prev : Option Char} {y l : List Char} {qs rs : List (Piece Char)}
    (h : Scans bearerBytes prev l (qs ++ rs)) (hqs : texts qs = y ++ ['*']) :
    ∃ z, outs qs = z ++ ['*'] := by
  rcases List.eq_nil_or_concat qs with rfl | ⟨qs, x, rfl⟩
  · simp at hqs
  · cases x with
    | lit c =>
        have hc : c = '*' := by simpa using congrArg List.getLast? hqs
        exact ⟨outs qs, by simp [hc]⟩
    | hit text out =>
        rw [List.concat_eq_append, List.append_assoc, List.singleton_append] at h
        have hmatch := h.found
        generalize hl : text ++ texts rs = whole at hmatch
        generalize hf : Match.mk text out (texts rs) = f at hmatch
        obtain ⟨-⟩ := bearerBytes_matchAt.mp hmatch
        obtain ⟨rfl, -⟩ := Match.mk.inj hf
        have hlast := congrArg List.getLast? hqs
        rw [List.concat_eq_append, texts_append, texts_hit, texts_nil, List.append_nil,
          ← List.append_assoc, ← List.append_assoc, List.getLast?_concat,
          List.getLast?_concat] at hlast
        exact absurd (Option.some.inj hlast) (by decide)

lemma bearerBytes_prev (prev prev' : Option Char) (l : List Char) :
    bearerBytes.matchAt prev l = bearerBytes.matchAt prev' l := rfl

lemma quote_not_mem (hws : ∀ c ∈ ws, isSpace c = true) (ht : IsSecret w t) : '\'' ∉ ws ++ t := by
  intro hmem
  rcases List.mem_append.mp hmem with hmem | hmem
  · exact absurd (hws _ hmem) (by decide)
  · exact ht.not_mem (by decide) (by decide) (by decide) hmem

/-- **Behind a star** the second substitution keeps the spaces and the token, if no dump is open. -/
lemma sub_bytes_kept {y b : List Char} (hws : ∀ c ∈ ws, isSpace c = true) (hb : EndsSecret b)
    (h : Stops bearerBytes none (y ++ ['*']) b) :
    ∃ z, ∀ t, IsSecret w t → sub bearerBytes ((y ++ ['*']) ++ (ws ++ (t ++ b))) =
      (z ++ ['*']) ++ (ws ++ (t ++ sub bearerBytes b)) := by
  have hblind := bearerBytes_blind (w := w) hb
  obtain ⟨qs, rs, hscan, hplace⟩ := h
  obtain ⟨z, hz⟩ := star_kept hscan hplace
  refine ⟨z, fun t ht => ?_⟩
  have hend : EndsIn (· = '*') (texts qs) := by
    intro c hc
    rw [hplace] at hc
    simpa using hc.symm
  have hquote := quote_not_mem hws ht
  have hnil : '\'' ∉ ([] : List Char) := by simp
  have hrest := scans_scanFrom bearerBytes (after (after (after none (texts qs)) ws) t) b
  have htoken := (hblind.kept (u := []) ht).mpr ⟨_, rfl, hrest⟩
  have hspaces : ∀ c ∈ ws, bearerBytes.starts c = false := by
    intro c hc
    refine decide_eq_false ?_
    rintro rfl
    exact absurd (hws _ hc) (by decide)
  have hlits := Scans.lits_append hspaces htoken
  rw [← List.append_assoc] at hlits
  rw [← hplace] at hscan
  have hwhole := stops_of_agrees (bearerBytes_agrees hnil hquote) (bearerBytes_agrees hquote hnil)
    hend hscan hlits
  rw [hplace] at hwhole hrest
  rw [← List.append_assoc ws, hwhole.sub_eq, outs_append, outs_append, outs_append, outs_lits,
    outs_lits, hz, hblind.sub_eq hrest]

/-- In an open dump it drops them with the rest of the dump. -/
lemma sub_bytes_dropped {y b : List Char} (hws : ∀ c ∈ ws, isSpace c = true)
    (h : ¬ Stops bearerBytes none (y ++ ['*']) b) (ht : IsSecret w t) :
    sub bearerBytes ((y ++ ['*']) ++ (ws ++ (t ++ b))) = sub bearerBytes ((y ++ ['*']) ++ b) := by
  have hend : EndsIn (· = '*') (y ++ ['*']) := by
    intro c hc
    simpa using hc.symm
  have hquote := quote_not_mem hws ht
  have hnil : '\'' ∉ ([] : List Char) := by simp
  have hscan := scans_scanFrom bearerBytes none ((y ++ ['*']) ++ ([] ++ b))
  rcases agree_runs (bearerBytes_agrees hnil hquote) (bearerBytes_agrees hquote hnil) hend hscan with
    ⟨qs, rs, hps, hplace, -⟩ | ⟨qs, v, x, out, rs, x', r', hps, -, -, -, hC, hother⟩
  · rw [List.nil_append] at hscan hps
    exact absurd ⟨qs, rs, hps ▸ hscan, hplace⟩ h
  · obtain ⟨-, -, -, -, rfl⟩ := hC
    rw [hps] at hscan
    have hrs : Scans bearerBytes none (texts rs) rs := by
      have hsplit : qs ++ Piece.hit (v ++ x) out :: rs = (qs ++ [.hit (v ++ x) out]) ++ rs := by simp
      rw [hsplit] at hscan
      exact hscan.right.congr_prev (bearerBytes_prev _ _ _)
    have hwhole := hother rs (hrs.congr_prev (bearerBytes_prev _ _ _))
    rw [List.nil_append] at hscan
    rw [← List.append_assoc ws, hwhole.sub_eq, hscan.sub_eq]
    simp

/-- In front of the value of a parameter there is no star. -/
lemma star_not_mem {mark : Char} {name ws₁ ws₂ : List Char} (hmark : mark = '?' ∨ mark = '&')
    (hname : IsSecretName name) (hws₁ : ∀ c ∈ ws₁, isSpace c = true)
    (hws₂ : ∀ c ∈ ws₂, isSpace c = true) : '*' ∉ mark :: (name ++ (ws₁ ++ '=' :: ws₂)) := by
  intro hmem
  simp only [List.mem_cons, List.mem_append] at hmem
  rcases hmem with rfl | hmem | hmem | heq | hmem
  · rcases hmark with h | h
    · exact absurd h (by decide)
    · exact absurd h (by decide)
  · rcases hname.chars _ hmem with h | h | h
    · exact absurd h (by decide)
    · exact absurd h (by decide)
    · exact absurd h (by decide)
  · exact absurd (hws₁ _ hmem) (by decide)
  · exact absurd heq (by decide)
  · exact absurd (hws₂ _ hmem) (by decide)

/-- **Behind a star the third substitution keeps the token**: no value reaches it. -/
lemma sub_query_kept {z b : List Char} (hws_ne : ws ≠ []) (hws : ∀ c ∈ ws, isSpace c = true)
    (hb : EndsSecret b) {t' : List Char} (ht : IsSecret w t) (ht' : IsSecret w t') :
    ∃ x x', sub querySecret ((z ++ ['*']) ++ (ws ++ (t ++ b))) = x ++ (t ++ x') ∧
      sub querySecret ((z ++ ['*']) ++ (ws ++ (t' ++ b))) = x ++ (t' ++ x') := by
  have hblind := querySecret_blind (w := w) hb
  have hend : EndsIn BeforeSecret ((z ++ ['*']) ++ ws) := by
    obtain ⟨ws, c, rfl⟩ := (List.eq_nil_or_concat ws).resolve_left hws_ne
    intro d hd
    rw [List.concat_eq_append, ← List.append_assoc, List.getLast?_concat] at hd
    obtain rfl := Option.some.inj hd
    exact .inl (hws c (by simp))
  have hscan := scans_scanFrom querySecret none (((z ++ ['*']) ++ ws) ++ (t ++ b))
  rw [← List.append_assoc _ ws, ← List.append_assoc _ ws]
  rcases two_runs hblind ht ht' hend hscan with
    ⟨qs, rs, hps, -, -, hother⟩ | ⟨qs, v, out, b₁, rs, hps, hplace, hv, -⟩
  · rw [hps] at hscan
    refine ⟨outs qs, outs rs, ?_, ?_⟩
    · rw [hscan.sub_eq, outs_append, outs_append, outs_lits]
    · rw [hother.sub_eq, outs_append, outs_append, outs_lits]
  · -- The match would begin in front of the star, and its value would hold a space.
    exfalso
    rw [hps] at hscan
    have hmatch := hscan.found
    generalize hl : v ++ (t ++ b₁) ++ texts rs = whole at hmatch
    generalize hf : Match.mk (v ++ (t ++ b₁)) out (texts rs) = f at hmatch
    obtain ⟨hmark, hname, hws₁, hws₂, hvalue⟩ := querySecret_matchAt.mp hmatch
    rename_i mark name ws₁ ws₂ value rest
    have htext := (Match.mk.inj hf).1
    have hmark_space : mark ∉ ws := by
      intro hmem
      rcases hmark with rfl | rfl
      · exact absurd (hws _ hmem) (by decide)
      · exact absurd (hws _ hmem) (by decide)
    have hhead : ∀ y, v = y ++ ws → y = [] → False := by
      rintro y rfl rfl
      obtain ⟨c, ws, rfl⟩ := List.exists_cons_of_ne_nil hws_ne
      obtain rfl : c = mark := (List.cons.inj htext).1
      exact hmark_space List.mem_cons_self
    rcases List.append_eq_append_iff.mp hplace with ⟨y, hstar, rfl⟩ | ⟨y, -, rfl⟩
    · obtain ⟨y, c, rfl⟩ := (List.eq_nil_or_concat y).resolve_left (hhead y rfl)
      obtain rfl : '*' = c := by simpa using congrArg List.getLast? hstar
      have hfront : (mark :: (name ++ (ws₁ ++ '=' :: ws₂))) ++ value =
          (y ++ ['*']) ++ (ws ++ (t ++ b₁)) := by simpa using htext.symm
      rcases List.append_eq_append_iff.mp hfront with ⟨u, -, rfl⟩ | ⟨u, hname_star, -⟩
      · obtain ⟨c, ws, rfl⟩ := List.exists_cons_of_ne_nil hws_ne
        have hchar := hvalue.inside c (by simp)
        rw [isValueChar, hws c List.mem_cons_self] at hchar
        simp at hchar
      · have hmem : '*' ∈ mark :: (name ++ (ws₁ ++ '=' :: ws₂)) := by
          rw [hname_star]
          simp
        exact star_not_mem hmark hname hws₁ hws₂.inside hmem
    · obtain ⟨c, v, rfl⟩ := List.exists_cons_of_ne_nil hv
      obtain rfl : c = mark := (List.cons.inj htext).1
      exact hmark_space (by simp)

/-- What may follow a secret still may when it is redacted. -/
lemma EndsSecret.sub {p : Pattern Char} {b : List Char} (hb : EndsSecret b)
    (hp : ∀ c, isSpace c = true ∨ c = '&' ∨ c = '#' → p.starts c = false) :
    EndsSecret (Scan.sub p b) := by
  intro c hc
  have hscan := scans_scanFrom p none b
  rw [hscan.sub_eq, hscan.head_outs fun c hc => hp c (hb c hc)] at hc
  exact hb c hc

lemma starts_of_ends {c : Char} (hc : isSpace c = true ∨ c = '&' ∨ c = '#') :
    (bearer w).starts c = false ∧ bearerBytes.starts c = false := by
  rcases hc with hc | rfl | rfl
  · refine ⟨starts_space hc, decide_eq_false ?_⟩
    rintro rfl
    exact absurd hc (by decide)
  · exact ⟨by rfl, by rfl⟩
  · exact ⟨by rfl, by rfl⟩

/-- A short word of ASCII is a secret. -/
lemma isSecret_short {t : List Char} (hne : t ≠ []) (hshort : t.length < 6)
    (hchars : (t.all fun c => c.toNat < 0x80 && c.isAlphanum) = true) : IsSecret w t where
  nonempty := hne
  chars c hc := by
    have hchar := List.all_eq_true.mp hchars c hc
    rw [Bool.and_eq_true, decide_eq_true_eq] at hchar
    left
    rw [w.ascii c hchar.1, hchar.2]
    rfl
  noBearer h := by
    have hlength := h.length_le
    rw [List.length_map] at hlength
    exact absurd (hlength.trans_lt hshort) (by decide)

/-- **A token behind `Bearer`** is hidden unless its word is swallowed and it is in no dump. -/
lemma hides_token {hpre : (after none pre).any w.isWord = false} {hws_ne : ws ≠ []}
    {hws : ∀ c ∈ ws, isSpace c = true} {hpost : SpaceNext post} :
    Hides (.token pre ws post hpre hws_ne hws hpost : Place w) ↔
      (Swallowed w pre → InDump w pre post) := by
  have htext : ∀ t, (Place.token pre ws post hpre hws_ne hws hpost).text t =
      pre ++ ("Bearer".toList ++ (ws ++ (t ++ post))) := fun _ => rfl
  by_cases hfound : Stops (bearer w) none pre "Bearer".toList
  · obtain ⟨x, hx⟩ := sub_found hpre hws_ne hws hpost hfound
    refine ⟨fun _ hswallowed => absurd hfound hswallowed, fun _ t t' ht ht' => ?_⟩
    rw [redactHttpClientLogText, redactHttpClientLogText, htext, htext, hx t ht, hx t' ht']
  · obtain ⟨⟨x, hx⟩, hswallowed⟩ := sub_swallowed hws_ne hws hpost hfound
    have hstar : sub (bearer w) (pre ++ "Bearer".toList) =
        (x ++ "Bearer **".toList) ++ ['*'] := by
      rw [hx, List.append_assoc]
      rfl
    have hb : EndsSecret (sub (bearer w) post) :=
      hpost.endsSecret.sub fun c hc => (starts_of_ends hc).1
    rw [hstar] at hswallowed
    constructor
    · intro hides _ hstops
      rw [hstar] at hstops
      obtain ⟨z, hz⟩ := sub_bytes_kept (w := w) hws hb hstops
      have hb' : EndsSecret (sub bearerBytes (sub (bearer w) post)) :=
        hb.sub fun c hc => (starts_of_ends (w := w) hc).2
      have hx_secret : IsSecret w ['x'] := isSecret_short (by decide) (by decide) (by decide)
      have hy_secret : IsSecret w ['y'] := isSecret_short (by decide) (by decide) (by decide)
      obtain ⟨u, u', hu, hu'⟩ := sub_query_kept (z := z) hws_ne hws hb' hx_secret hy_secret
      have hsame := hides ['x'] ['y'] hx_secret hy_secret
      rw [redactHttpClientLogText, redactHttpClientLogText, htext, htext, hswallowed _ hx_secret,
        hswallowed _ hy_secret, hz _ hx_secret, hz _ hy_secret, hu, hu'] at hsame
      simp at hsame
    · intro hcovered t t' ht ht'
      have hdump := hcovered hfound
      rw [InDump, hstar] at hdump
      rw [redactHttpClientLogText, redactHttpClientLogText, htext, htext, hswallowed t ht,
        hswallowed t' ht', sub_bytes_dropped hws hdump ht, sub_bytes_dropped hws hdump ht']

end Token

/-! ## The value of a parameter -/

section Parameter

variable {w : WordClass} {mark : Char} {name b : List Char} {p : Pattern Char}

/-- A match of the pattern, and what replaces it, end with a quote, or no value goes on behind it. -/
def StopsAtValues (p : Pattern Char) : Prop :=
  ∀ prev l f, p.matchAt prev l = some f →
    (∀ c, f.rest.head? = some c → isValueChar c = false) ∨
      f.text.getLast? = some '\'' ∧ f.out.getLast? = some '\''

lemma bearer_stops : StopsAtValues (bearer w) := by
  intro prev l f hmatch
  obtain ⟨-, -, -, -, htoken, -⟩ := bearer_matchAt.mp hmatch
  refine .inl fun c hc => ?_
  have hspace : isSpace c = true := by simpa using htoken.stop c hc
  simp [isValueChar, hspace]

lemma bearerBytes_stops : StopsAtValues bearerBytes := by
  intro prev l f hmatch
  obtain ⟨-⟩ := bearerBytes_matchAt.mp hmatch
  refine .inr ⟨?_, by rfl⟩
  rw [← List.append_assoc, List.getLast?_concat]

lemma querySecret_stops : StopsAtValues querySecret := by
  intro prev l f hmatch
  obtain ⟨-, -, -, -, hvalue⟩ := querySecret_matchAt.mp hmatch
  exact .inl hvalue.stop

/-- A letter of a name is none with which a token begins. -/
lemma IsSecretName.not_b (hname : IsSecretName name) {c : Char} (hc : c ∈ name) :
    foldCase c ≠ 'b' := by
  obtain ⟨hjoint, hwords⟩ := hname
  rename_i first joint second
  have hall : ∀ ref ∈ ["api".toList, "key".toList, "access".toList, "token".toList], 'b' ∉ ref := by
    decide
  have hword : ∀ m ref : List Char, m.map foldCase = ref →
      ref ∈ ["api".toList, "key".toList, "access".toList, "token".toList] → c ∈ m →
        foldCase c ≠ 'b' := by
    intro m ref hm href hc heq
    refine hall ref href ?_
    rw [← heq, ← hm]
    exact List.mem_map_of_mem hc
  simp only [List.mem_cons, List.not_mem_nil, or_false, Prod.mk.injEq] at hjoint hwords
  simp only [List.mem_append] at hc
  rcases hc with hc | hc | hc
  · rcases hwords with ⟨h, -⟩ | ⟨h, -⟩
    · exact hword _ _ h (by simp) hc
    · exact hword _ _ h (by simp) hc
  · rcases hjoint with rfl | rfl | rfl
    · simp at hc
    · obtain rfl := List.mem_singleton.mp hc
      decide
    · obtain rfl := List.mem_singleton.mp hc
      decide
  · rcases hwords with ⟨-, h⟩ | ⟨-, h⟩
    · exact hword _ _ h (by simp) hc
    · exact hword _ _ h (by simp) hc

/-- The name of a parameter and the sign of equality could be parts of a value. -/
lemma IsSecretName.isValueChar (hname : IsSecretName name) :
    ∀ c ∈ name ++ ['='], isValueChar c = true := by
  have hvalue : ∀ c, isSpace c = false → c ≠ '&' → c ≠ '#' → SpeakrRunpod.isValueChar c = true := by
    intro c hspace hamp hhash
    simp [SpeakrRunpod.isValueChar, hspace, hamp, hhash]
  intro c hc
  rcases List.mem_append.mp hc with hc | hc
  · rcases hname.chars c hc with h | rfl | rfl
    · refine hvalue c (not_space_of_letter h) ?_ ?_
      · rintro rfl
        exact absurd h (by decide)
      · rintro rfl
        exact absurd h (by decide)
    · decide
    · decide
  · obtain rfl := List.mem_singleton.mp hc
    decide

/-- **No match ends inside the name of a parameter** that has a value. -/
lemma name_between (hp : StopsAtValues p) (hmark : mark = '?' ∨ mark = '&')
    (hname : IsSecretName name) {prev : Option Char} {l a : List Char} {qs rs : List (Piece Char)}
    (h : Scans p prev l (qs ++ rs)) (hqs : texts qs = a ++ (mark :: (name ++ ['='])))
    (hrs : ∃ c r, texts rs = c :: r ∧ isValueChar c = true) :
    ∃ q q', qs = q ++ q' ∧ texts q = a ∧ texts q' = mark :: (name ++ ['=']) := by
  rcases split_texts hqs with
    ⟨q, q', rfl, hq, hq'⟩ | ⟨q, u, v, out, q', rfl, -, hv, -, hplace⟩
  · exact ⟨q, q', rfl, hq, hq'⟩
  · exfalso
    obtain ⟨c, v, rfl⟩ := List.exists_cons_of_ne_nil hv
    rw [List.cons_append] at hplace
    obtain ⟨rfl, hname_eq⟩ := List.cons.inj hplace
    rw [List.append_assoc, List.cons_append] at h
    rcases hp _ _ _ h.found with hvalue | ⟨hlast, -⟩
    · -- Behind the match the name goes on, or the value begins.
      obtain ⟨d, r, hr, hd⟩ := hrs
      have hd' : ∃ e r, texts (q' ++ rs) = e :: r ∧ isValueChar e = true := by
        rw [texts_append, hr]
        cases htexts : texts q' with
        | nil => exact ⟨d, r, rfl, hd⟩
        | cons e r' =>
            refine ⟨e, r' ++ d :: r, rfl, hname.isValueChar e ?_⟩
            rw [hname_eq, htexts]
            simp
      obtain ⟨e, r', he, hchar⟩ := hd'
      have hnot := hvalue e (by rw [he]; rfl)
      rw [hchar] at hnot
      cases hnot
    · have hquote : '\'' ∈ mark :: v := by
        rw [List.getLast?_append_of_ne_nil _ (by simp)] at hlast
        exact List.mem_of_getLast? hlast
      rcases List.mem_cons.mp hquote with heq | hmem
      · rcases hmark with rfl | rfl
        · exact absurd heq (by decide)
        · exact absurd heq (by decide)
      · have hmem' : '\'' ∈ name ++ ['='] := by
          rw [hname_eq]
          simp [hmem]
        rcases List.mem_append.mp hmem' with hmem | hmem
        · rcases hname.chars _ hmem with h | h | h
          · exact absurd h (by decide)
          · exact absurd h (by decide)
          · exact absurd h (by decide)
        · exact absurd (List.mem_singleton.mp hmem) (by decide)

lemma endsIn_parameter (a : List Char) (mark : Char) (name : List Char) :
    EndsIn BeforeSecret (a ++ (mark :: (name ++ ['=']))) := by
  intro c hc
  rw [← List.cons_append, ← List.append_assoc, List.getLast?_concat] at hc
  exact .inr (Option.some.inj hc).symm

/-- A secret begins with a character of a value. -/
lemma IsSecret.begins_value {t : List Char} (ht : IsSecret w t) (r : List Char) :
    ∃ c r', t ++ r = c :: r' ∧ SpeakrRunpod.isValueChar c = true := by
  obtain ⟨c, t, rfl⟩ := List.exists_cons_of_ne_nil ht.nonempty
  exact ⟨c, t ++ r, rfl, ht.isValueChar List.mem_cons_self⟩

/-- **The first two substitutions** keep the value of a parameter with its name, or it is covered. -/
lemma sub_parameter (hp : StopsAtValues p) (hblind : Blind p (IsSecret w) BeforeSecret b)
    (hstarts : ∀ c, foldCase c ≠ 'b' → p.starts c = false)
    (hmark : mark = '?' ∨ mark = '&') (hname : IsSecretName name) (a : List Char)
    {t t' : List Char} (ht : IsSecret w t) (ht' : IsSecret w t') :
    sub p ((a ++ (mark :: (name ++ ['=']))) ++ (t ++ b)) =
        sub p ((a ++ (mark :: (name ++ ['=']))) ++ (t' ++ b)) ∨
      ∃ x, ∀ s ∈ [t, t'], sub p ((a ++ (mark :: (name ++ ['=']))) ++ (s ++ b)) =
        (x ++ (mark :: (name ++ ['=']))) ++ (s ++ sub p b) := by
  have hscan := scans_scanFrom p none ((a ++ (mark :: (name ++ ['=']))) ++ (t ++ b))
  rcases two_runs hblind ht ht' (endsIn_parameter a mark name) hscan with
    ⟨qs, rs, hps, hplace, hrs, hother⟩ | ⟨qs, v, out, b₁, rs, hps, -, -, hother⟩
  · right
    rw [hps] at hscan
    have hrest := ht.begins_value (texts rs)
    rw [← texts_lits t, ← texts_append] at hrest
    obtain ⟨q, q', rfl, -, hq'⟩ := name_between hp hmark hname hscan hplace hrest
    have hbegins : ∀ x ∈ q', x.Begins p := fun x hx => hscan.begins x (by simp [hx])
    have hkept : ∀ c ∈ mark :: (name ++ ['=']), p.starts c = false := by
      intro c hc
      refine hstarts c ?_
      simp only [List.mem_cons, List.mem_append, List.not_mem_nil, or_false] at hc
      rcases hc with rfl | hc | rfl
      · rcases hmark with rfl | rfl
        · decide
        · decide
      · exact hname.not_b hc
      · decide
    obtain ⟨r, rfl, hr⟩ := texts_literal hbegins hkept (hq'.trans (List.append_nil _).symm)
    obtain rfl := nil_of_texts (fun x hx => hbegins x (by simp [hx])) hr
    have hb : outs rs = sub p b := by
      have hright := hscan.right
      rw [texts_append (lits t), texts_lits, hrs] at hright
      obtain ⟨qs', heq, hqs'⟩ := (hblind.kept (u := []) ht).mp hright
      obtain rfl := List.append_cancel_left heq
      exact hblind.sub_eq hqs'
    refine ⟨outs q, fun s hs => ?_⟩
    have hscan_s : Scans p none ((a ++ (mark :: (name ++ ['=']))) ++ (s ++ b))
        ((q ++ (lits (mark :: (name ++ ['='])) ++ [])) ++ (lits s ++ rs)) := by
      simp only [List.mem_cons, List.not_mem_nil, or_false] at hs
      rcases hs with rfl | rfl
      · exact hscan
      · exact hother
    rw [hscan_s.sub_eq, outs_append, outs_append, outs_append, outs_append, outs_lits, outs_lits, hb,
      outs_nil, List.append_nil]
  · left
    rw [hps] at hscan
    rw [hscan.sub_eq, hother.sub_eq]
    simp

/-- **The third substitution** covers the value. -/
lemma sub_query_covered (hmark : mark = '?' ∨ mark = '&') (hname : IsSecretName name)
    (hb : EndsSecret b) (a : List Char) {t t' : List Char} (ht : IsSecret w t)
    (ht' : IsSecret w t') :
    sub querySecret ((a ++ (mark :: (name ++ ['=']))) ++ (t ++ b)) =
      sub querySecret ((a ++ (mark :: (name ++ ['=']))) ++ (t' ++ b)) := by
  have hscan := scans_scanFrom querySecret none ((a ++ (mark :: (name ++ ['=']))) ++ (t ++ b))
  rcases two_runs (querySecret_blind hb) ht ht' (endsIn_parameter a mark name) hscan with
    ⟨qs, rs, hps, hplace, hrs, -⟩ | ⟨qs, v, out, b₁, rs, hps, -, -, hother⟩
  · -- The parameter would be found where its name begins.
    exfalso
    rw [hps] at hscan
    have hrest := ht.begins_value (texts rs)
    rw [← texts_lits t, ← texts_append] at hrest
    obtain ⟨q, q', rfl, -, hq'⟩ := name_between querySecret_stops hmark hname hscan hplace hrest
    rw [List.append_assoc q] at hscan
    have hright := hscan.right
    rw [texts_append, hq', texts_append, texts_lits, hrs] at hright
    have hvalue : Span isValueChar t b := by
      refine ⟨fun c hc => ht.isValueChar hc, fun c hc => ?_⟩
      rcases hb c hc with hspace | rfl | rfl
      · simp [isValueChar, hspace]
      · decide
      · decide
    have hspan : Span isSpace [] (t ++ b) := by
      refine ⟨by simp, fun c hc => ?_⟩
      obtain ⟨d, t, rfl⟩ := List.exists_cons_of_ne_nil ht.nonempty
      obtain rfl : d = c := by simpa using hc
      exact ht.not_space List.mem_cons_self
    have hnil : ∀ c ∈ ([] : List Char), isSpace c = true := by simp
    have hmatch := (@querySecret_matchAt (after none (texts q)) _ _).mpr
      (.mk hmark hname hnil hspan hvalue)
    have hl : mark :: (name ++ ['=']) ++ (t ++ b) =
        mark :: (name ++ ([] ++ '=' :: ([] ++ (t ++ b)))) := by simp
    rw [hl] at hright
    obtain ⟨r, hr⟩ := hright.first hmatch
    cases q' with
    | nil => cases hq'
    | cons x q' =>
        obtain ⟨rfl, -⟩ := List.cons.inj hr
        have hlength := congrArg List.length hq'
        have ht_length := List.length_pos_iff.mpr ht.nonempty
        simp only [texts_hit, List.length_append, List.length_cons, List.nil_append,
          List.length_nil] at hlength
        omega
  · rw [hps] at hscan
    rw [hscan.sub_eq, hother.sub_eq]
    simp

/-- **The value of a parameter** is hidden, wherever it stands. -/
lemma hides_parameter (pre : List Char) (mark : Char) (name post : List Char)
    (hmark : mark = '?' ∨ mark = '&') (hname : IsSecretName name) (hpost : EndsSecret post) :
    Hides (.parameter pre mark name post hmark hname hpost : Place w) := by
  intro t t' ht ht'
  show sub querySecret (sub bearerBytes (sub (bearer w) (_ ++ (t ++ post)))) =
    sub querySecret (sub bearerBytes (sub (bearer w) (_ ++ (t' ++ post))))
  have hb : EndsSecret (sub (bearer w) post) := hpost.sub fun c hc => (starts_of_ends hc).1
  have hb' : EndsSecret (sub bearerBytes (sub (bearer w) post)) :=
    hb.sub fun c hc => (starts_of_ends (w := w) hc).2
  have hbytes : ∀ c, foldCase c ≠ 'b' → bearerBytes.starts c = false := by
    intro c hc
    refine decide_eq_false ?_
    rintro rfl
    exact hc (by decide)
  rcases sub_parameter bearer_stops (bearer_blind hpost) (fun c hc => decide_eq_false hc) hmark
    hname pre ht ht' with heq | ⟨x, hx⟩
  · rw [heq]
  · rw [hx t (by simp), hx t' (by simp)]
    rcases sub_parameter bearerBytes_stops (bearerBytes_blind hb) hbytes hmark hname x ht ht' with
      heq | ⟨y, hy⟩
    · rw [heq]
    · rw [hy t (by simp), hy t' (by simp)]
      exact sub_query_covered hmark hname hb' y ht ht'

end Parameter

/-! ## When the redaction hides a secret -/

/-- **The redaction hides the secret of a place exactly when the place is covered.** -/
theorem hides_iff {w : WordClass} (place : Place w) : Hides place ↔ place.Covered := by
  cases place with
  | token pre ws post hpre hws_ne hws hpost => exact hides_token
  | parameter pre mark name post hmark hname hpost =>
      exact ⟨fun _ => trivial, fun _ => hides_parameter pre mark name post hmark hname hpost⟩

/-- A token behind `Bearer Bearer` is logged as it is: the second word is the token of the first. -/
theorem bearer_twice_leaks : ¬ ∀ (w : WordClass) (place : Place w), Hides place := by
  intro hides
  have hws : ∀ c ∈ [' '], isSpace c = true := by
    intro c hc
    rw [List.mem_singleton.mp hc]
    decide
  have hsame := hides asciiWords
    (.token "Bearer ".toList [' '] [] (by decide) (by decide) hws (by simp [SpaceNext]))
    "abc".toList "xyz".toList (isSecret_short (by decide) (by decide) (by decide))
    (isSecret_short (by decide) (by decide) (by decide))
  have habc : redactHttpClientLogText asciiWords "Bearer Bearer abc".toList =
      "Bearer *** abc".toList := by decide
  have hxyz : redactHttpClientLogText asciiWords "Bearer Bearer xyz".toList =
      "Bearer *** xyz".toList := by decide
  exact absurd (habc.symm.trans (hsame.trans hxyz)) (by decide)

end SpeakrRunpod
