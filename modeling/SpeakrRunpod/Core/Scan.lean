import Mathlib

/-!
# Leftmost substitution

What `re.sub` makes of a text: it is read from left to right, and wherever the pattern matches, the
match is replaced and the search goes on behind it.

* `Pattern` — what is found at the beginning of a text, and what replaces it.
* `scan` — the pieces into which the matches cut a text; `Scans` is the same as a relation, and
  `sub` puts the replacements together.
* `split_texts` — a place in a text is between two pieces or inside a match; `outs_literal` — where
  no match can begin, the text is kept.
* `Agrees`, `agree_runs` — two texts with the same front, behind which the pattern cannot tell them
  apart; `Stops` — no match reaches over the end of the front.
* `Blind`, `two_runs` — a pattern that cannot tell some words apart, over two texts that differ in
  such a word: either no match touches the word, or one covers it in both.
-/

namespace Scan

variable {α : Type}

/-- What a pattern finds at the beginning of a text: the match, what replaces it, the rest. -/
structure Match (α : Type) where
  text : List α
  out : List α
  rest : List α

/-- A pattern.  What it finds depends on the character in front; a match and what replaces it begin
with certain characters only. -/
structure Pattern (α : Type) where
  matchAt : Option α → List α → Option (Match α)
  starts : α → Bool
  text_append_rest : ∀ {prev l f}, matchAt prev l = some f → f.text ++ f.rest = l
  text_starts : ∀ {prev l f}, matchAt prev l = some f → ∃ c w, f.text = c :: w ∧ starts c
  out_starts : ∀ {prev l f}, matchAt prev l = some f → ∃ c w, f.out = c :: w ∧ starts c

/-- Nothing is found where no match begins. -/
lemma Pattern.none_of_starts (p : Pattern α) {prev : Option α} {l : List α}
    (h : ∀ c, l.head? = some c → p.starts c = false) : p.matchAt prev l = none := by
  cases hmatch : p.matchAt prev l with
  | none => rfl
  | some f =>
      obtain ⟨c, v, htext, hc⟩ := p.text_starts hmatch
      have hl : l.head? = some c := by rw [← p.text_append_rest hmatch, htext]; rfl
      exact absurd ((h c hl).symm.trans hc) (by decide)

/-- A piece of a text: a character that is kept, or a match with what replaces it. -/
inductive Piece (α : Type)
  | lit (c : α)
  | hit (text out : List α)

def Piece.text : Piece α → List α
  | .lit c => [c]
  | .hit text _ => text

def Piece.out : Piece α → List α
  | .lit c => [c]
  | .hit _ out => out

/-- The text that the pieces come from, and what it becomes. -/
def texts (ps : List (Piece α)) : List α := ps.flatMap Piece.text

def outs (ps : List (Piece α)) : List α := ps.flatMap Piece.out

/-- A word of characters that are kept. -/
def lits (w : List α) : List (Piece α) := w.map .lit

section Simp

variable (c : α) (w out : List α) (ps qs : List (Piece α))

@[simp] lemma texts_nil : texts ([] : List (Piece α)) = [] := rfl

@[simp] lemma outs_nil : outs ([] : List (Piece α)) = [] := rfl

@[simp] lemma texts_lit : texts (.lit c :: ps) = c :: texts ps := rfl

@[simp] lemma outs_lit : outs (.lit c :: ps) = c :: outs ps := rfl

@[simp] lemma texts_hit : texts (.hit w out :: ps) = w ++ texts ps := rfl

@[simp] lemma outs_hit : outs (.hit w out :: ps) = out ++ outs ps := rfl

@[simp] lemma texts_append : texts (ps ++ qs) = texts ps ++ texts qs := List.flatMap_append

@[simp] lemma outs_append : outs (ps ++ qs) = outs ps ++ outs qs := List.flatMap_append

@[simp] lemma texts_lits : texts (lits w) = w := by
  induction w with
  | nil => rfl
  | cons c w ih => exact congrArg (c :: ·) ih

@[simp] lemma outs_lits : outs (lits w) = w := by
  induction w with
  | nil => rfl
  | cons c w ih => exact congrArg (c :: ·) ih

end Simp

/-! ## The scan -/

/-- The search, with `skip` characters of a match still to pass. -/
def scanFrom (p : Pattern α) : Option α → ℕ → List α → List (Piece α)
  | _, _, [] => []
  | _, skip + 1, c :: l => scanFrom p (some c) skip l
  | prev, 0, c :: l =>
      match p.matchAt prev (c :: l) with
      | some f => .hit f.text f.out :: scanFrom p (some c) (f.text.length - 1) l
      | none => .lit c :: scanFrom p (some c) 0 l

def scan (p : Pattern α) (l : List α) : List (Piece α) := scanFrom p none 0 l

/-- `re.sub`. -/
def sub (p : Pattern α) (l : List α) : List α := outs (scan p l)

/-- The character in front of what follows `w`. -/
def after (prev : Option α) (w : List α) : Option α := w.getLast?.or prev

@[simp] lemma after_nil (prev : Option α) : after prev [] = prev := rfl

@[simp] lemma after_cons (prev : Option α) (c : α) (w : List α) :
    after prev (c :: w) = after (some c) w := by
  cases w with
  | nil => rfl
  | cons d w => simp [after, List.getLast?_cons]

@[simp] lemma after_append (prev : Option α) (v w : List α) :
    after prev (v ++ w) = after (after prev v) w := by
  induction v generalizing prev with
  | nil => rfl
  | cons c v ih => simp [ih]

lemma after_ne_nil {w : List α} (hw : w ≠ []) (prev prev' : Option α) (u v : List α) :
    after prev (u ++ w) = after prev' (v ++ w) := by
  obtain ⟨c, w, rfl⟩ := List.exists_cons_of_ne_nil hw
  simp

/-- **The pieces of a text**, as a relation. -/
inductive Scans (p : Pattern α) : Option α → List α → List (Piece α) → Prop
  | nil (prev : Option α) : Scans p prev [] []
  | lit {prev : Option α} {c : α} {l : List α} {ps : List (Piece α)}
      (hmatch : p.matchAt prev (c :: l) = none) (hrest : Scans p (some c) l ps) :
      Scans p prev (c :: l) (.lit c :: ps)
  | hit {prev : Option α} {w out l : List α} {ps : List (Piece α)}
      (hmatch : p.matchAt prev (w ++ l) = some ⟨w, out, l⟩) (hrest : Scans p (after prev w) l ps) :
      Scans p prev (w ++ l) (.hit w out :: ps)

lemma scanFrom_skip (p : Pattern α) (prev : Option α) (w l : List α) :
    scanFrom p prev w.length (w ++ l) = scanFrom p (after prev w) 0 l := by
  induction w generalizing prev with
  | nil => rfl
  | cons c w ih => rw [List.length_cons, List.cons_append, scanFrom, ih, after_cons]

/-- The pieces of every text. -/
lemma scans_scanFrom (p : Pattern α) (prev : Option α) (l : List α) :
    Scans p prev l (scanFrom p prev 0 l) := by
  induction hn : l.length using Nat.strong_induction_on generalizing prev l with
  | _ n ih =>
      cases l with
      | nil => exact .nil prev
      | cons c l =>
          rw [scanFrom]
          cases hmatch : p.matchAt prev (c :: l) with
          | none => exact .lit hmatch (ih l.length (by simp [← hn]) (some c) l rfl)
          | some f =>
              obtain ⟨text, out, rest⟩ := f
              obtain ⟨c', w, rfl, -⟩ := p.text_starts hmatch
              obtain ⟨rfl, rfl⟩ : c' = c ∧ w ++ rest = l := by
                simpa using p.text_append_rest hmatch
              have hskip := scanFrom_skip p (some c') w rest
              dsimp only
              rw [List.length_cons, Nat.add_sub_cancel, hskip]
              have hwhole : p.matchAt prev ((c' :: w) ++ rest) = some ⟨c' :: w, out, rest⟩ := hmatch
              rw [← after_cons prev, ← List.cons_append]
              refine .hit hwhole (ih rest.length ?_ _ rest rfl)
              rw [← hn, List.length_cons, List.length_append]
              omega

lemma scans_scan (p : Pattern α) (l : List α) : Scans p none l (scan p l) :=
  scans_scanFrom p none l

/-- There is one way to cut a text. -/
lemma Scans.unique {p : Pattern α} {prev : Option α} {l : List α} {ps qs : List (Piece α)}
    (hps : Scans p prev l ps) (hqs : Scans p prev l qs) : ps = qs := by
  induction hps generalizing qs with
  | nil prev =>
      generalize hl : ([] : List α) = l at hqs
      cases hqs with
      | nil => rfl
      | lit => cases hl
      | hit hmatch _ =>
          obtain ⟨c, w, rfl, -⟩ := p.text_starts hmatch
          cases hl
  | @lit prev c l ps hmatch hrest ih =>
      generalize hl : c :: l = l' at hqs
      cases hqs with
      | nil => cases hl
      | lit hmatch' hrest' =>
          cases hl
          rw [ih hrest']
      | hit hmatch' _ =>
          rw [← hl, hmatch] at hmatch'
          cases hmatch'
  | @hit prev w out l ps hmatch hrest ih =>
      generalize hl : w ++ l = l' at hqs
      cases hqs with
      | nil =>
          obtain ⟨c, w, rfl, -⟩ := p.text_starts hmatch
          cases hl
      | lit hmatch' hrest' =>
          rw [← hl, hmatch] at hmatch'
          cases hmatch'
      | hit hmatch' hrest' =>
          rw [← hl, hmatch] at hmatch'
          cases hmatch'
          rw [ih hrest']

/-- **The relation is that of the function.** -/
theorem scans_iff {p : Pattern α} {prev : Option α} {l : List α} {ps : List (Piece α)} :
    Scans p prev l ps ↔ scanFrom p prev 0 l = ps := by
  constructor
  · intro h
    exact (scans_scanFrom p prev l).unique h
  · rintro rfl
    exact scans_scanFrom p prev l

section Pieces

variable {p : Pattern α} {prev : Option α} {l : List α} {ps qs : List (Piece α)}

lemma Scans.sub_eq (h : Scans p none l ps) : sub p l = outs ps := by
  rw [sub, scan, scans_iff.mp h]

/-- The pieces make up the text. -/
lemma Scans.texts_eq (h : Scans p prev l ps) : texts ps = l := by
  induction h with
  | nil => rfl
  | lit _ _ ih => simp [ih]
  | hit _ _ ih => simp [ih]

/-- Behind some of the pieces the scan goes on with the rest of the text. -/
lemma Scans.right (h : Scans p prev l (ps ++ qs)) :
    Scans p (after prev (texts ps)) (texts qs) qs := by
  induction ps generalizing prev l with
  | nil =>
      have htexts := h.texts_eq
      rw [List.nil_append] at h htexts
      rw [texts_nil, after_nil, htexts]
      exact h
  | cons x ps ih =>
      cases h with
      | lit _ hrest =>
          rw [texts_lit, after_cons]
          exact ih hrest
      | hit _ hrest =>
          rw [texts_hit, after_append]
          exact ih hrest

lemma Scans.behind (h : Scans p prev (texts ps ++ l) (ps ++ qs)) :
    Scans p (after prev (texts ps)) l qs := by
  have htexts := h.texts_eq
  rw [texts_append] at htexts
  rw [← List.append_cancel_left htexts]
  exact h.right

/-- Every match among the pieces was found, with what is behind it. -/
lemma Scans.found {text out : List α} {rs : List (Piece α)}
    (h : Scans p prev l (qs ++ Piece.hit text out :: rs)) :
    p.matchAt (after prev (texts qs)) (text ++ texts rs) = some ⟨text, out, texts rs⟩ := by
  have hright := h.right
  rw [texts_hit] at hright
  generalize hl : text ++ texts rs = l' at hright ⊢
  cases hright with
  | hit hmatch hrest =>
      rw [hrest.texts_eq]
      exact hmatch

/-- Nothing was found where a character is kept. -/
lemma Scans.not_found {c : α} {rs : List (Piece α)} (h : Scans p prev l (qs ++ Piece.lit c :: rs)) :
    p.matchAt (after prev (texts qs)) (c :: texts rs) = none := by
  have hright := h.right
  rw [texts_lit] at hright
  generalize hl : c :: texts rs = l' at hright ⊢
  cases hright with
  | lit hmatch _ => exact hmatch

/-- A match at the beginning is the first piece. -/
lemma Scans.first {f : Match α} (h : Scans p prev l ps) (hmatch : p.matchAt prev l = some f) :
    ∃ rs, ps = Piece.hit f.text f.out :: rs := by
  cases h with
  | nil =>
      obtain ⟨c, w, htext, -⟩ := p.text_starts hmatch
      have hnil := p.text_append_rest hmatch
      rw [htext] at hnil
      cases hnil
  | lit hnone _ =>
      rw [hnone] at hmatch
      cases hmatch
  | hit hfound _ =>
      obtain rfl := Option.some.inj (hfound.symm.trans hmatch)
      exact ⟨_, rfl⟩

/-- A match, and what replaces it, begin with a character with which one can begin. -/
def Piece.Begins (p : Pattern α) : Piece α → Prop
  | .lit _ => True
  | .hit text out => (∃ c w, text = c :: w ∧ p.starts c) ∧ ∃ c w, out = c :: w ∧ p.starts c

lemma Scans.begins (h : Scans p prev l ps) : ∀ x ∈ ps, x.Begins p := by
  induction h with
  | nil => simp
  | lit _ _ ih =>
      rw [List.forall_mem_cons]
      exact ⟨trivial, ih⟩
  | hit hmatch _ ih =>
      rw [List.forall_mem_cons]
      exact ⟨⟨p.text_starts hmatch, p.out_starts hmatch⟩, ih⟩

end Pieces

/-! ## A place in a text -/

/-- A place in the concatenation of some words is between two words or inside one. -/
lemma split_flatMap {β : Type} (g : β → List α) {xs : List β} {a b : List α}
    (h : xs.flatMap g = a ++ b) :
    (∃ ys zs, xs = ys ++ zs ∧ ys.flatMap g = a ∧ zs.flatMap g = b) ∨
      ∃ ys x zs u v, xs = ys ++ x :: zs ∧ g x = u ++ v ∧ u ≠ [] ∧ v ≠ [] ∧
        a = ys.flatMap g ++ u ∧ b = v ++ zs.flatMap g := by
  induction xs generalizing a with
  | nil =>
      obtain ⟨rfl, rfl⟩ := List.append_eq_nil_iff.mp h.symm
      exact .inl ⟨[], [], rfl, rfl, rfl⟩
  | cons x xs ih =>
      rw [List.flatMap_cons, List.append_eq_append_iff] at h
      rcases h with ⟨a', rfl, hxs⟩ | ⟨v, hx, rfl⟩
      · -- The place is behind the first word.
        rcases ih hxs with ⟨ys, zs, rfl, rfl, rfl⟩ | ⟨ys, x', zs, u, v, rfl, hx', hu, hv, rfl, rfl⟩
        · exact .inl ⟨x :: ys, zs, rfl, rfl, rfl⟩
        · refine .inr ⟨x :: ys, x', zs, u, v, rfl, hx', hu, hv, ?_, rfl⟩
          rw [List.flatMap_cons, List.append_assoc]
      · rcases List.eq_nil_or_concat a with rfl | ⟨a', c, rfl⟩
        · exact .inl ⟨[], x :: xs, rfl, rfl, by rw [List.flatMap_cons, hx, List.nil_append]⟩
        · cases v with
          | nil =>
              refine .inl ⟨[x], xs, rfl, ?_, by simp⟩
              rw [List.flatMap_singleton, hx, List.append_nil]
          | cons d v => exact .inr ⟨[], x, xs, _, _, rfl, hx, by simp, by simp, by simp, rfl⟩

/-- **A place in a text** is between two pieces or inside a match. -/
theorem split_texts {ps : List (Piece α)} {a b : List α} (h : texts ps = a ++ b) :
    (∃ qs rs, ps = qs ++ rs ∧ texts qs = a ∧ texts rs = b) ∨
      ∃ qs u v out rs, ps = qs ++ Piece.hit (u ++ v) out :: rs ∧ u ≠ [] ∧ v ≠ [] ∧
        a = texts qs ++ u ∧ b = v ++ texts rs := by
  rcases split_flatMap Piece.text h with hbetween | ⟨qs, x, rs, u, v, rfl, hx, hu, hv, rfl, rfl⟩
  · exact .inl hbetween
  · cases x with
    | lit c =>
        have hlength := congrArg List.length hx
        rw [Piece.text, List.length_singleton, List.length_append] at hlength
        have hu' := List.length_pos_iff.mpr hu
        have hv' := List.length_pos_iff.mpr hv
        omega
    | hit text out =>
        obtain rfl : text = u ++ v := hx
        exact .inr ⟨qs, u, v, out, rs, rfl, hu, hv, rfl, rfl⟩

/-- The same for what a text becomes. -/
theorem split_outs {ps : List (Piece α)} {a b : List α} (h : outs ps = a ++ b) :
    (∃ qs rs, ps = qs ++ rs ∧ outs qs = a ∧ outs rs = b) ∨
      ∃ qs u v text rs, ps = qs ++ Piece.hit text (u ++ v) :: rs ∧ u ≠ [] ∧ v ≠ [] ∧
        a = outs qs ++ u ∧ b = v ++ outs rs := by
  rcases split_flatMap Piece.out h with hbetween | ⟨qs, x, rs, u, v, rfl, hx, hu, hv, rfl, rfl⟩
  · exact .inl hbetween
  · cases x with
    | lit c =>
        have hlength := congrArg List.length hx
        rw [Piece.out, List.length_singleton, List.length_append] at hlength
        have hu' := List.length_pos_iff.mpr hu
        have hv' := List.length_pos_iff.mpr hv
        omega
    | hit text out =>
        obtain rfl : out = u ++ v := hx
        exact .inr ⟨qs, u, v, text, rs, rfl, hu, hv, rfl, rfl⟩

/-! ## Where no match begins -/

section Literal

variable {p : Pattern α} {ps : List (Piece α)} {v r : List α}

/-- **What no match begins with is kept**: such a word in what a text becomes was in the text. -/
lemma outs_literal (hps : ∀ x ∈ ps, x.Begins p) (hv : ∀ c ∈ v, p.starts c = false)
    (h : outs ps = v ++ r) : ∃ rs, ps = lits v ++ rs ∧ outs rs = r := by
  induction v generalizing ps with
  | nil => exact ⟨ps, rfl, h⟩
  | cons c v ih =>
      rw [List.forall_mem_cons] at hv
      cases ps with
      | nil => simp at h
      | cons x ps =>
          rw [List.forall_mem_cons] at hps
          cases x with
          | lit d =>
              obtain ⟨rfl, hrest⟩ := List.cons.inj h
              obtain ⟨rs, rfl, hrs⟩ := ih hps.2 hv.2 hrest
              exact ⟨rs, rfl, hrs⟩
          | hit text out =>
              obtain ⟨-, d, w, rfl, hd⟩ := hps.1
              obtain ⟨rfl, -⟩ := List.cons.inj h
              exact absurd (hv.1.symm.trans hd) (by decide)

/-- And such a word of the text is in what it becomes, where it begins at a piece. -/
lemma texts_literal (hps : ∀ x ∈ ps, x.Begins p) (hv : ∀ c ∈ v, p.starts c = false)
    (h : texts ps = v ++ r) : ∃ rs, ps = lits v ++ rs ∧ texts rs = r := by
  induction v generalizing ps with
  | nil => exact ⟨ps, rfl, h⟩
  | cons c v ih =>
      rw [List.forall_mem_cons] at hv
      cases ps with
      | nil => simp at h
      | cons x ps =>
          rw [List.forall_mem_cons] at hps
          cases x with
          | lit d =>
              obtain ⟨rfl, hrest⟩ := List.cons.inj h
              obtain ⟨rs, rfl, hrs⟩ := ih hps.2 hv.2 hrest
              exact ⟨rs, rfl, hrs⟩
          | hit text out =>
              obtain ⟨⟨d, w, rfl, hd⟩, -⟩ := hps.1
              obtain ⟨rfl, -⟩ := List.cons.inj h
              exact absurd (hv.1.symm.trans hd) (by decide)

end Literal

/-! ## Two texts with the same front -/

/-- The last character, if there is one, is of this kind. -/
def EndsIn (e : α → Prop) (v : List α) : Prop := ∀ c, v.getLast? = some c → e c

lemma EndsIn.right {e : α → Prop} {v w : List α} (h : EndsIn e (v ++ w)) : EndsIn e w := by
  intro c hc
  refine h c ?_
  rw [List.getLast?_append, hc, Option.some_or]

/-- **A pattern that cannot tell `l` from `l'`** behind a character of `e`: a match that begins in
front of them ends there, or at related places behind. -/
def Agrees (p : Pattern α) (e : α → Prop) (C : List α → List α → List α → List α → Prop)
    (l l' : List α) : Prop :=
  ∀ prev v f, v ≠ [] → EndsIn e v → p.matchAt prev (v ++ l) = some f →
    (∃ v', v = f.text ++ v' ∧ p.matchAt prev (v ++ l') = some ⟨f.text, f.out, v' ++ l'⟩) ∨
      ∃ x x' r', C x f.rest x' r' ∧ x ≠ [] ∧ f.text = v ++ x ∧
        p.matchAt prev (v ++ l') = some ⟨v ++ x', f.out, r'⟩

/-- The scan comes to the place between `a` and `l`: no match reaches over it. -/
def Stops (p : Pattern α) (prev : Option α) (a l : List α) : Prop :=
  ∃ qs rs, Scans p prev (a ++ l) (qs ++ rs) ∧ texts qs = a

section TwoRuns

variable {p : Pattern α} {prev : Option α} {a l l' : List α} {ps : List (Piece α)}

/-- The pieces of a text depend on the character in front in its first match only. -/
lemma Scans.congr_prev {prev' : Option α} (hl : p.matchAt prev l = p.matchAt prev' l)
    (h : Scans p prev l ps) : Scans p prev' l ps := by
  cases h with
  | nil => exact .nil _
  | lit hmatch hrest => exact .lit (hl ▸ hmatch) hrest
  | hit hmatch hrest =>
      refine .hit (hl ▸ hmatch) ?_
      obtain ⟨c, w, rfl, -⟩ := p.text_starts hmatch
      rw [after_cons] at hrest ⊢
      exact hrest

/-- A place inside a match is none between two pieces. -/
lemma inside_not_between {qs qs' rs rs' : List (Piece α)} {u v out : List α}
    (h : qs ++ Piece.hit (u ++ v) out :: rs = qs' ++ rs') (hu : u ≠ []) (hv : v ≠ [])
    (hplace : texts qs' = texts qs ++ u) : False := by
  rcases List.append_eq_append_iff.mp h with ⟨zs, rfl, hzs⟩ | ⟨zs, rfl, -⟩
  · cases zs with
    | nil =>
        rw [List.append_nil] at hplace
        exact hu (List.append_right_eq_self.mp hplace.symm)
    | cons z zs =>
        obtain ⟨rfl, -⟩ := List.cons.inj hzs
        rw [texts_append, texts_hit, List.append_assoc] at hplace
        have hlength := congrArg List.length (List.append_cancel_left hplace)
        have hv' := List.length_pos_iff.mpr hv
        simp only [List.length_append] at hlength
        omega
  · have hlength := congrArg List.length hplace
    have hu' := List.length_pos_iff.mpr hu
    simp only [texts_append, List.length_append] at hlength
    omega

variable {e : α → Prop} {C C' : List α → List α → List α → List α → Prop}

/-- **The same front.**  Either the scan comes to the end of the front in both texts, with the same
pieces, or one match reaches over it in both. -/
theorem agree_runs (h : Agrees p e C l l') (h' : Agrees p e C' l' l) (ha : EndsIn e a)
    (hps : Scans p prev (a ++ l) ps) :
    (∃ qs rs, ps = qs ++ rs ∧ texts qs = a ∧
      ∀ rs', Scans p (after prev a) l' rs' → Scans p prev (a ++ l') (qs ++ rs')) ∨
    ∃ qs v x out rs x' r', ps = qs ++ Piece.hit (v ++ x) out :: rs ∧ texts qs ++ v = a ∧ v ≠ [] ∧
      x ≠ [] ∧ C x (texts rs) x' r' ∧
        ∀ rs', Scans p (after prev (a ++ x')) r' rs' →
          Scans p prev (a ++ l') (qs ++ Piece.hit (v ++ x') out :: rs') := by
  induction hn : a.length using Nat.strong_induction_on generalizing prev a ps with
  | _ n ih =>
      cases a with
      | nil => exact .inl ⟨[], ps, rfl, rfl, fun rs' hrs' => hrs'⟩
      | cons c a =>
          generalize hl : c :: a ++ l = whole at hps
          cases hps with
          | nil => cases hl
          | @lit _ d rest ps hmatch hrest =>
              obtain ⟨rfl, rfl⟩ := List.cons.inj hl
              have hnone : p.matchAt prev (c :: (a ++ l')) = none := by
                -- A match in the one text is a match in the other.
                cases hsome : p.matchAt prev (c :: (a ++ l')) with
                | none => rfl
                | some f =>
                    rcases h' prev (c :: a) f (by simp) ha hsome with
                      ⟨v', -, hother⟩ | ⟨x, x', r', -, -, -, hother⟩
                    · exact absurd (hmatch.symm.trans hother) (by simp)
                    · exact absurd (hmatch.symm.trans hother) (by simp)
              have htail : EndsIn e a := EndsIn.right (v := [c]) ha
              rcases ih a.length (by simp [← hn]) htail hrest rfl with
                ⟨qs, rs, rfl, rfl, hscan⟩ |
                  ⟨qs, v, x, out, rs, x', r', rfl, rfl, hv, hx, hC, hscan⟩
              · refine .inl ⟨.lit c :: qs, rs, rfl, rfl, fun rs' hrs' => ?_⟩
                rw [after_cons] at hrs'
                exact .lit hnone (hscan rs' hrs')
              · refine .inr ⟨.lit c :: qs, v, x, out, rs, x', r', rfl, rfl, hv, hx, hC, ?_⟩
                intro rs' hrs'
                rw [List.cons_append, after_cons] at hrs'
                exact .lit hnone (hscan rs' hrs')
          | @hit _ w out rest ps hmatch hrest =>
              rw [← hl] at hmatch
              rcases h prev (c :: a) _ (by simp) ha hmatch with
                ⟨v', hv', hother⟩ | ⟨x, x', r', hC, hx, hw, hother⟩
              · -- The match ends in the front.
                obtain rfl : rest = v' ++ l := by
                  rw [hv', List.append_assoc] at hl
                  exact (List.append_cancel_left hl).symm
                have hlength : v'.length < n := by
                  obtain ⟨d, w', rfl, -⟩ := p.text_starts hmatch
                  rw [← hn, hv', List.length_append, List.length_cons]
                  omega
                rw [hv'] at ha
                rw [hv', List.append_assoc] at hother ⊢
                rcases ih v'.length hlength ha.right hrest rfl with
                  ⟨qs, rs, rfl, rfl, hscan⟩ |
                    ⟨qs, v, x, out', rs, x', r', rfl, rfl, hv, hx, hC, hscan⟩
                · refine .inl ⟨.hit w out :: qs, rs, rfl, rfl, fun rs' hrs' => ?_⟩
                  rw [after_append] at hrs'
                  exact .hit hother (hscan rs' hrs')
                · refine .inr ⟨.hit w out :: qs, v, x, out', rs, x', r', rfl, ?_, hv, hx, hC, ?_⟩
                  · rw [texts_hit, List.append_assoc]
                  · intro rs' hrs'
                    rw [List.append_assoc, after_append] at hrs'
                    exact .hit hother (hscan rs' hrs')
              · -- The match reaches over its end.
                obtain rfl : w = c :: a ++ x := hw
                have hrest_eq := hrest.texts_eq
                refine .inr ⟨[], c :: a, x, out, ps, x', r', rfl, rfl, by simp, hx, ?_, ?_⟩
                · rw [hrest_eq]
                  exact hC
                · intro rs' hrs'
                  have hwhole : c :: a ++ l' = (c :: a ++ x') ++ r' :=
                    (p.text_append_rest hother).symm
                  rw [hwhole] at hother ⊢
                  exact .hit hother hrs'

/-- Without a text there are no pieces. -/
lemma nil_of_texts (hps : ∀ x ∈ ps, x.Begins p) (h : texts ps = []) : ps = [] := by
  cases ps with
  | nil => rfl
  | cons x ps =>
      rw [List.forall_mem_cons] at hps
      cases x with
      | lit c => simp at h
      | hit text out =>
          obtain ⟨⟨c, w, rfl, -⟩, -⟩ := hps.1
          simp at h

/-- A text is cut at a place in one way. -/
lemma between_unique {qs qs' rs rs' : List (Piece α)} (hqs : ∀ x ∈ qs, x.Begins p)
    (hqs' : ∀ x ∈ qs', x.Begins p) (h : qs ++ rs = qs' ++ rs') (hplace : texts qs = texts qs') :
    qs = qs' := by
  rcases List.append_eq_append_iff.mp h with ⟨zs, rfl, -⟩ | ⟨zs, rfl, -⟩
  · rw [texts_append] at hplace
    have hzs := nil_of_texts (fun x hx => hqs' x (by simp [hx]))
      (List.append_right_eq_self.mp hplace.symm)
    rw [hzs, List.append_nil]
  · rw [texts_append] at hplace
    have hzs := nil_of_texts (fun x hx => hqs x (by simp [hx]))
      (List.append_right_eq_self.mp hplace)
    rw [hzs, List.append_nil]

/-- **Where the scan comes to the end of the front in one text, it does in the other**, with the same
pieces. -/
theorem stops_of_agrees {qs rs : List (Piece α)} (h : Agrees p e C l l') (h' : Agrees p e C' l' l)
    (ha : EndsIn e (texts qs)) (hscan : Scans p prev (texts qs ++ l) (qs ++ rs))
    {rs' : List (Piece α)} (hrs' : Scans p (after prev (texts qs)) l' rs') :
    Scans p prev (texts qs ++ l') (qs ++ rs') := by
  have hbegins := hscan.begins
  rcases agree_runs h h' ha hscan with
    ⟨qs', rs'', heq, hplace, hother⟩ | ⟨qs', v, x, out, rs'', x', r', heq, hplace, hv, hx, -, -⟩
  · have hqs : ∀ z ∈ qs, z.Begins p := fun z hz => hbegins z (by simp [hz])
    have hqs' : ∀ z ∈ qs', z.Begins p := fun z hz => hbegins z (by simp [heq, hz])
    obtain rfl := between_unique hqs hqs' heq hplace.symm
    exact hother rs' hrs'
  · exact (inside_not_between heq.symm hv hx hplace.symm).elim

/-- At the end of a text no match reaches further. -/
lemma stops_nil (p : Pattern α) (prev : Option α) (a : List α) : Stops p prev a [] := by
  have hscan := scans_scanFrom p prev a
  exact ⟨_, [], by simpa using hscan, hscan.texts_eq⟩

/-- A word with which no match begins is kept where the scan comes to it. -/
lemma Scans.lits_append {v : List α} (hv : ∀ c ∈ v, p.starts c = false)
    (h : Scans p (after prev v) l ps) : Scans p prev (v ++ l) (lits v ++ ps) := by
  induction v generalizing prev with
  | nil => exact h
  | cons c v ih =>
      rw [List.forall_mem_cons] at hv
      rw [after_cons] at h
      refine .lit (p.none_of_starts fun d hd => ?_) (ih hv.2 h)
      obtain rfl : c = d := by simpa using hd
      exact hv.1

/-- What a text begins with is kept, if no match begins with it. -/
lemma Scans.head_outs (h : Scans p prev l ps) (hl : ∀ c, l.head? = some c → p.starts c = false) :
    (outs ps).head? = l.head? := by
  cases h with
  | nil => rfl
  | lit => rfl
  | hit hmatch _ =>
      obtain ⟨c, w, rfl, hc⟩ := p.text_starts hmatch
      exact absurd ((hl c rfl).symm.trans hc) (by decide)

end TwoRuns

/-! ## Two texts that differ in a word -/

/-- **A pattern that is blind to the words of `S`**, in front of `b` and behind a character of `e`: no
match begins in a word, and a match that begins in front of it ends there or behind it, whichever of
the words it is. -/
structure Blind (p : Pattern α) (S : List α → Prop) (e : α → Prop) (b : List α) : Prop where
  inside : ∀ prev u v, S (u ++ v) → v ≠ [] → p.matchAt prev (v ++ b) = none
  across : ∀ t t', S t → S t' → Agrees p e
    (fun x r x' r' => ∃ b₁, b = b₁ ++ r ∧ x = t ++ b₁ ∧ x' = t' ++ b₁ ∧ r' = r) (t ++ b) (t' ++ b)
  behind : ∀ prev prev', p.matchAt prev b = p.matchAt prev' b

section Words

variable {p : Pattern α} {S : List α → Prop} {e : α → Prop} {b : List α}

/-- A word of `S` is kept where the scan comes to it. -/
lemma Blind.kept (hp : Blind p S e b) {prev : Option α} {u v : List α} (hv : S (u ++ v))
    {ps : List (Piece α)} :
    Scans p prev (v ++ b) ps ↔ ∃ qs, ps = lits v ++ qs ∧ Scans p (after prev v) b qs := by
  induction v generalizing prev u ps with
  | nil =>
      constructor
      · exact fun h => ⟨ps, rfl, h⟩
      · rintro ⟨qs, rfl, h⟩
        exact h
  | cons c v ih =>
      have hnone : p.matchAt prev (c :: (v ++ b)) = none :=
        hp.inside prev u (c :: v) hv (by simp)
      have hnext : S ((u ++ [c]) ++ v) := by simpa using hv
      constructor
      · intro h
        generalize hl : c :: v ++ b = l at h
        cases h with
        | nil => cases hl
        | lit _ hrest =>
            obtain ⟨rfl, rfl⟩ := List.cons.inj hl
            obtain ⟨qs, rfl, hqs⟩ := (ih hnext).mp hrest
            exact ⟨qs, rfl, by rwa [after_cons]⟩
        | hit hmatch _ =>
            rw [← hl, List.cons_append, hnone] at hmatch
            cases hmatch
      · rintro ⟨qs, rfl, h⟩
        rw [after_cons] at h
        exact .lit hnone ((ih hnext).mpr ⟨qs, rfl, h⟩)

/-- What is behind the word is scanned for itself. -/
lemma Blind.sub_eq (hp : Blind p S e b) {prev : Option α} {rs : List (Piece α)}
    (h : Scans p prev b rs) : outs rs = sub p b := (h.congr_prev (hp.behind prev none)).sub_eq.symm

/-- **The two runs.**  Either no match touches the word, and what becomes of the texts differs in the
word only, or one match covers it in both, and they become the same. -/
theorem two_runs (hp : Blind p S e b) {t t' : List α} (ht : S t) (ht' : S t')
    {prev : Option α} {a : List α} (ha : EndsIn e a) {ps : List (Piece α)}
    (h : Scans p prev (a ++ (t ++ b)) ps) :
    (∃ qs rs, ps = qs ++ (lits t ++ rs) ∧ texts qs = a ∧ texts rs = b ∧
      Scans p prev (a ++ (t' ++ b)) (qs ++ (lits t' ++ rs))) ∨
    ∃ qs v out b₁ rs, ps = qs ++ Piece.hit (v ++ (t ++ b₁)) out :: rs ∧ texts qs ++ v = a ∧ v ≠ [] ∧
      Scans p prev (a ++ (t' ++ b)) (qs ++ Piece.hit (v ++ (t' ++ b₁)) out :: rs) := by
  rcases agree_runs (hp.across t t' ht ht') (hp.across t' t ht' ht) ha h with
    ⟨qs, rs, rfl, rfl, hscan⟩ | ⟨qs, v, x, out, rs, x', r', rfl, rfl, hv, -, hC, hscan⟩
  · obtain ⟨rs, rfl, hrs⟩ := (hp.kept (u := []) ht).mp h.behind
    refine .inl ⟨qs, rs, rfl, rfl, hrs.texts_eq, hscan _ ?_⟩
    exact (hp.kept (u := []) ht').mpr ⟨rs, rfl, hrs.congr_prev (hp.behind _ _)⟩
  · obtain ⟨b₁, hb, rfl, rfl, rfl⟩ := hC
    refine .inr ⟨qs, v, out, b₁, rs, rfl, rfl, hv, hscan rs ?_⟩
    have hrs : Scans p (after prev (texts qs ++ (v ++ (t ++ b₁)))) (texts rs) rs := by
      have hsplit : qs ++ Piece.hit (v ++ (t ++ b₁)) out :: rs =
          (qs ++ [.hit (v ++ (t ++ b₁)) out]) ++ rs := by simp
      rw [hsplit] at h
      simpa using h.right
    rcases eq_or_ne b₁ [] with rfl | hne
    · obtain rfl : b = texts rs := hb
      exact hrs.congr_prev (hp.behind _ _)
    · have hafter := after_ne_nil hne prev prev (texts qs ++ (v ++ t)) (texts qs ++ v ++ t')
      simp only [List.append_assoc] at hafter hrs ⊢
      rwa [hafter] at hrs

end Words

/-! ## A text at a place -/

section Parts

variable {p : Pattern α} {prev : Option α} {l a b v : List α} {c : α} {ps qs rs : List (Piece α)}

/-- A place in what a text becomes, in front of a character that no replacement has inside, is a
place between two pieces. -/
lemma sub_place (h : sub p l = a ++ (c :: b))
    (hinside : ∀ qs text d w rs, Scans p none l (qs ++ Piece.hit text (d :: w) :: rs) → c ∉ w) :
    ∃ qs rs, Scans p none l (qs ++ rs) ∧ outs qs = a ∧ outs rs = c :: b := by
  have hscan := scans_scanFrom p none l
  rw [hscan.sub_eq] at h
  rcases split_outs h with
    ⟨qs, rs, hps, hqs, hrs⟩ | ⟨qs, u, v, text, rs, hps, hu, hv, -, hplace⟩
  · exact ⟨qs, rs, hps ▸ hscan, hqs, hrs⟩
  · obtain ⟨d, u, rfl⟩ := List.exists_cons_of_ne_nil hu
    obtain ⟨d', v, rfl⟩ := List.exists_cons_of_ne_nil hv
    obtain ⟨rfl, -⟩ := List.cons.inj hplace
    rw [hps] at hscan
    exact absurd (by simp) (hinside qs text d (u ++ c :: v) rs hscan)

/-- A pattern whose matches are decided by what they read: a longer text has a match where a shorter
one has, and the same one if it ends in the shorter. -/
structure Greedy (p : Pattern α) : Prop where
  grows : ∀ {prev a b f}, p.matchAt prev a = some f → ∃ g, p.matchAt prev (a ++ b) = some g
  cuts : ∀ {prev v out a b}, p.matchAt prev (v ++ (a ++ b)) = some ⟨v, out, a ++ b⟩ →
    p.matchAt prev (v ++ a) = some ⟨v, out, a⟩

/-- The pieces in front of a place are those of the text in front of it. -/
lemma Scans.front (hp : Greedy p) (h : Scans p prev l (qs ++ rs)) :
    Scans p prev (texts qs) qs := by
  induction qs generalizing prev l with
  | nil => exact .nil prev
  | cons x qs ih =>
      have hwhole : Scans p prev l ([x] ++ (qs ++ rs)) := h
      have hrest := hwhole.right
      cases x with
      | lit c =>
          have hfirst : Scans p prev l ([] ++ Piece.lit c :: (qs ++ rs)) := h
          have hnone := hfirst.not_found
          have hnone' : p.matchAt prev (c :: texts qs) = none := by
            cases hsome : p.matchAt prev (c :: texts qs) with
            | none => rfl
            | some f =>
                obtain ⟨g, hg⟩ := hp.grows (b := texts rs) hsome
                rw [texts_nil, after_nil, texts_append] at hnone
                exact absurd (hnone.symm.trans hg) (by simp)
          exact .lit hnone' (ih hrest)
      | hit text out =>
          have hfirst : Scans p prev l ([] ++ Piece.hit text out :: (qs ++ rs)) := h
          have hfound := hfirst.found
          rw [texts_nil, after_nil, texts_append] at hfound
          rw [texts_hit, texts_nil, List.append_nil] at hrest
          exact .hit (hp.cuts hfound) (ih hrest)

/-- **The two sides of a place** are rewritten apart, if the scan comes to it. -/
theorem Stops.sub_append (hp : Greedy p) (hl : p.matchAt (after none a) l = p.matchAt none l)
    (h : Stops p none a l) : sub p (a ++ l) = sub p a ++ sub p l := by
  obtain ⟨qs, rs, hscan, rfl⟩ := h
  rw [hscan.sub_eq, (hscan.front hp).sub_eq, (hscan.behind.congr_prev hl).sub_eq, outs_append]

/-- A text is kept if what replaces a match is the match. -/
lemma sub_fixed (h : ∀ a b f, l = a ++ b → p.matchAt (after none a) b = some f → f.out = f.text) :
    sub p l = l := by
  have hscan := scans_scanFrom p none l
  have hpiece : ∀ x ∈ scanFrom p none 0 l, x.out = x.text := by
    intro x hx
    obtain ⟨qs, rs, hps⟩ := List.append_of_mem hx
    rw [hps] at hscan
    cases x with
    | lit c => rfl
    | hit text out => exact h _ _ _ (by rw [← hscan.texts_eq]; simp) hscan.found
  rw [hscan.sub_eq]
  conv_rhs => rw [← hscan.texts_eq]
  exact List.flatMap_congr hpiece

section Count

variable [DecidableEq α]

/-- What a text becomes has no more characters of a kind, if no replacement has more of them. -/
lemma count_outs_le (h : ∀ x ∈ ps, x.out.count c ≤ x.text.count c) :
    (outs ps).count c ≤ (texts ps).count c := by
  induction ps with
  | nil => exact le_rfl
  | cons x ps ih =>
      rw [List.forall_mem_cons] at h
      have hx : outs (x :: ps) = x.out ++ outs ps ∧ texts (x :: ps) = x.text ++ texts ps :=
        ⟨rfl, rfl⟩
      rw [hx.1, hx.2, List.count_append, List.count_append]
      exact Nat.add_le_add h.1 (ih h.2)

/-- And fewer, if one of the replacements has fewer. -/
lemma count_outs_lt (h : ∀ x ∈ ps, x.out.count c ≤ x.text.count c)
    (hlt : ∃ x ∈ ps, x.out.count c < x.text.count c) : (outs ps).count c < (texts ps).count c := by
  obtain ⟨x, hx, hlt⟩ := hlt
  obtain ⟨qs, rs, rfl⟩ := List.append_of_mem hx
  have hqs := count_outs_le fun y hy => h y (List.mem_append_left _ hy)
  have hrs := count_outs_le fun y hy => h y (List.mem_append_right _ (List.mem_cons_of_mem _ hy))
  have hx_cons : outs (x :: rs) = x.out ++ outs rs ∧ texts (x :: rs) = x.text ++ texts rs :=
    ⟨rfl, rfl⟩
  rw [outs_append, texts_append, hx_cons.1, hx_cons.2]
  simp only [List.count_append]
  omega

end Count

end Parts

end Scan
