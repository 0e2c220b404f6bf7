import SpeakrRunpod.Core.Handler

/-!
# Observers of a program

An observer stands between a program and the outside.  It passes every operation on, unchanged, and
before and after it asks for operations of its own, with a state that the program does not see.

* `Observer`, `Prog.observe` — the observer, and the program under observation.
* `Watched` — a run of the program, and a run of the whole that comes of it.
* `Prog.runs_observe` — **a run of the whole is a run of the program, watched**.
* `Prog.runs_iff_observe` — **an observer that always comes back is not noticed**: the program runs
  as it would alone, and it can do nothing else.
-/

namespace Coop

/-- What an observer does before an operation and after it, in operations of its own. -/
structure Observer (I J : Interface) (σ : Type) where
  before : σ → I.Op → Prog J σ
  after : σ → (o : I.Op) → I.Res o → Prog J σ

/-- Exchanges of the left interface, among those of two. -/
def asLeft {I J : Interface} (x : Prog.Exchange I) : Prog.Exchange (I.sum J) := ⟨.inl x.1, x.2⟩

/-- Exchanges of the right interface, among those of two. -/
def asRight {I J : Interface} (x : Prog.Exchange J) : Prog.Exchange (I.sum J) := ⟨.inr x.1, x.2⟩

/-- What of an exchange belongs to the left interface. -/
def left? {I J : Interface} : Prog.Exchange (I.sum J) → Option (Prog.Exchange I)
  | ⟨.inl o, r⟩ => some ⟨o, r⟩
  | ⟨.inr _, _⟩ => none

/-- What of an exchange belongs to the right interface. -/
def right? {I J : Interface} : Prog.Exchange (I.sum J) → Option (Prog.Exchange J)
  | ⟨.inl _, _⟩ => none
  | ⟨.inr o, r⟩ => some ⟨o, r⟩

section Sides

variable {I J : Interface}

/-- The exchanges of the left interface. -/
def lefts (tr : List (Prog.Exchange (I.sum J))) : List (Prog.Exchange I) := tr.filterMap left?

/-- The exchanges of the right interface. -/
def rights (tr : List (Prog.Exchange (I.sum J))) : List (Prog.Exchange J) := tr.filterMap right?

variable {x : Prog.Exchange I} {y : Prog.Exchange J} {tr tr' : List (Prog.Exchange (I.sum J))}

@[simp] lemma lefts_nil : lefts ([] : List (Prog.Exchange (I.sum J))) = [] := rfl

@[simp] lemma rights_nil : rights ([] : List (Prog.Exchange (I.sum J))) = [] := rfl

@[simp] lemma lefts_asLeft : lefts (asLeft x :: tr) = x :: lefts tr := rfl

@[simp] lemma rights_asLeft : rights (asLeft x :: tr) = rights tr := rfl

@[simp] lemma lefts_asRight : lefts (asRight y :: tr) = lefts tr := rfl

@[simp] lemma rights_asRight : rights (asRight y :: tr) = y :: rights tr := rfl

@[simp] lemma lefts_append : lefts (tr ++ tr') = lefts tr ++ lefts tr' := List.filterMap_append

@[simp] lemma rights_append : rights (tr ++ tr') = rights tr ++ rights tr' :=
  List.filterMap_append

@[simp] lemma lefts_map_asLeft (tr : List (Prog.Exchange I)) :
    lefts (tr.map (asLeft (J := J))) = tr := by
  induction tr with
  | nil => rfl
  | cons x tr ih => rw [List.map_cons, lefts_asLeft, ih]

@[simp] lemma rights_map_asLeft (tr : List (Prog.Exchange I)) :
    rights (tr.map (asLeft (J := J))) = [] := by
  induction tr with
  | nil => rfl
  | cons x tr ih => rw [List.map_cons, rights_asLeft, ih]

@[simp] lemma lefts_map_asRight (tr : List (Prog.Exchange J)) :
    lefts (tr.map (asRight (I := I))) = [] := by
  induction tr with
  | nil => rfl
  | cons x tr ih => rw [List.map_cons, lefts_asRight, ih]

@[simp] lemma rights_map_asRight (tr : List (Prog.Exchange J)) :
    rights (tr.map (asRight (I := I))) = tr := by
  induction tr with
  | nil => rfl
  | cons x tr ih => rw [List.map_cons, rights_asRight, ih]

end Sides

namespace Prog

variable {I J : Interface} {σ α : Type}

/-- The program under observation: every operation is passed on, between what the observer does
before it and after it. -/
def observe (ob : Observer I J σ) : σ → Prog I α → Prog (I.sum J) (α × σ)
  | s, .ret a => .ret (a, s)
  | _, .never => .never
  | s, .op o k => inr (ob.before s o) >>= fun s₁ =>
      .op (.inl o) fun r => inr (ob.after s₁ o r) >>= fun s₂ => observe ob s₂ (k r)

/-- A run of the program, and the exchanges of the whole that come of it. -/
inductive Watched (ob : Observer I J σ) :
    σ → List (Exchange I) → List (Exchange (I.sum J)) → σ → Prop
  | nil (s : σ) : Watched ob s [] [] s
  | cons {s s₁ s₂ s' : σ} {o : I.Op} {r : I.Res o} {low low' : List (Exchange J)}
      {tr : List (Exchange I)} {whole : List (Exchange (I.sum J))}
      (hbefore : (ob.before s o).Runs low s₁) (hafter : (ob.after s₁ o r).Runs low' s₂)
      (htr : Watched ob s₂ tr whole s') :
      Watched ob s (⟨o, r⟩ :: tr) (low.map asRight ++ asLeft ⟨o, r⟩ :: (low'.map asRight ++ whole)) s'

/-- A run of a program of the right interface alone. -/
lemma runs_inr {p : Prog J α} {a : α} {tr : List (Exchange (I.sum J))} :
    (inr p : Prog (I.sum J) α).Runs tr a ↔ ∃ low, tr = low.map asRight ∧ p.Runs low a := by
  constructor
  · intro h
    obtain ⟨low, hlow, hcarried⟩ := runs_handle.mp h
    refine ⟨low, ?_, hlow⟩
    clear h hlow
    induction hcarried with
    | nil => rfl
    | cons ho _ ih =>
        obtain ⟨r', tr', rfl, hret⟩ := runs_op.mp ho
        obtain ⟨rfl, rfl⟩ := runs_ret.mp hret
        rw [ih]
        rfl
  · rintro ⟨low, rfl, h⟩
    exact h.inr

/-- A run of a program of the left interface alone. -/
lemma runs_inl {p : Prog I α} {a : α} {tr : List (Exchange (I.sum J))} :
    (inl p : Prog (I.sum J) α).Runs tr a ↔ ∃ own, tr = own.map asLeft ∧ p.Runs own a := by
  constructor
  · intro h
    obtain ⟨own, hown, hcarried⟩ := runs_handle.mp h
    refine ⟨own, ?_, hown⟩
    clear h hown
    induction hcarried with
    | nil => rfl
    | cons ho _ ih =>
        obtain ⟨r', tr', rfl, hret⟩ := runs_op.mp ho
        obtain ⟨rfl, rfl⟩ := runs_ret.mp hret
        rw [ih]
        rfl
  · rintro ⟨own, rfl, h⟩
    exact h.inl

/-- **A run of the whole is a run of the program, watched.** -/
theorem runs_observe {ob : Observer I J σ} {a : α} {s' : σ} :
    ∀ {s : σ} {p : Prog I α} {whole : List (Exchange (I.sum J))},
      (observe ob s p).Runs whole (a, s') ↔ ∃ tr, p.Runs tr a ∧ Watched ob s tr whole s'
  | s, .ret b, whole => by
      constructor
      · intro h
        obtain ⟨rfl, heq⟩ := runs_ret.mp h
        cases heq
        exact ⟨[], .ret a, .nil _⟩
      · rintro ⟨tr, hrun, hwatched⟩
        obtain ⟨rfl, rfl⟩ := runs_ret.mp hrun
        cases hwatched
        exact .ret _
  | s, .never, whole => by
      constructor
      · intro h
        exact absurd h not_runs_never
      · rintro ⟨tr, hrun, -⟩
        exact absurd hrun not_runs_never
  | s, .op o k, whole => by
      show (inr (ob.before s o) >>= fun s₁ => Prog.op (.inl o) fun r =>
        inr (ob.after s₁ o r) >>= fun s₂ => observe ob s₂ (k r)).Runs whole (a, s') ↔ _
      constructor
      · intro h
        obtain ⟨before, rest, s₁, rfl, hbefore, hrest⟩ := runs_bind.mp h
        obtain ⟨low, rfl, hlow⟩ := runs_inr.mp hbefore
        obtain ⟨r, rest, rfl, hanswered⟩ := runs_op.mp hrest
        obtain ⟨after, rest, s₂, rfl, hafter, hk⟩ := runs_bind.mp hanswered
        obtain ⟨low', rfl, hlow'⟩ := runs_inr.mp hafter
        obtain ⟨tr, hrun, hwatched⟩ := runs_observe.mp hk
        exact ⟨⟨o, r⟩ :: tr, .op (o := o) r hrun, .cons hlow hlow' hwatched⟩
      · rintro ⟨tr, hrun, hwatched⟩
        obtain ⟨r, tr, rfl, hk⟩ := runs_op.mp hrun
        cases hwatched with
        | cons hbefore hafter htr =>
            refine runs_bind.mpr ⟨_, _, _, rfl, runs_inr.mpr ⟨_, rfl, hbefore⟩, .op _ ?_⟩
            exact runs_bind.mpr ⟨_, _, _, rfl, runs_inr.mpr ⟨_, rfl, hafter⟩,
              runs_observe.mpr ⟨tr, hk, htr⟩⟩

/-- The program's own part of a run of the whole. -/
lemma Watched.lefts {ob : Observer I J σ} {s s' : σ} {tr : List (Exchange I)}
    {whole : List (Exchange (I.sum J))} (h : Watched ob s tr whole s') :
    Coop.lefts whole = tr := by
  induction h with
  | nil => rfl
  | cons _ _ _ ih => simp [ih]

/-- A program that always returns has a run with given answers. -/
lemma Halts.exists_runs (answer : (o : J.Op) → J.Res o) :
    ∀ {p : Prog J α}, p.Halts → ∃ tr a, p.Runs tr a
  | .ret a, _ => ⟨[], a, .ret a⟩
  | .op o k, h => by
      obtain ⟨tr, a, hrun⟩ := Halts.exists_runs answer (h (answer o))
      exact ⟨⟨o, answer o⟩ :: tr, a, .op _ hrun⟩

section Unnoticed

variable {ob : Observer I J σ} (answer : (o : J.Op) → J.Res o)
  (hbefore : ∀ s o, (ob.before s o).Halts) (hafter : ∀ s o r, (ob.after s o r).Halts)
include answer hbefore hafter

/-- Whatever the program does, it can be watched. -/
lemma exists_watched (tr : List (Exchange I)) :
    ∀ s, ∃ whole s', Watched ob s tr whole s' := by
  induction tr with
  | nil => exact fun s => ⟨[], s, .nil s⟩
  | cons x tr ih =>
      intro s
      obtain ⟨o, r⟩ := x
      obtain ⟨low, s₁, hlow⟩ := (hbefore s o).exists_runs answer
      obtain ⟨low', s₂, hlow'⟩ := (hafter s₁ o r).exists_runs answer
      obtain ⟨whole, s', hwatched⟩ := ih s₂
      exact ⟨_, s', .cons hlow hlow' hwatched⟩

/-- **An observer that always comes back is not noticed.** -/
theorem runs_iff_observe {p : Prog I α} {s : σ} {tr : List (Exchange I)} {a : α} :
    p.Runs tr a ↔ ∃ whole s', (observe ob s p).Runs whole (a, s') ∧ Coop.lefts whole = tr := by
  constructor
  · intro h
    obtain ⟨whole, s', hwatched⟩ := exists_watched answer hbefore hafter tr s
    exact ⟨whole, s', runs_observe.mpr ⟨tr, h, hwatched⟩, hwatched.lefts⟩
  · rintro ⟨whole, s', h, rfl⟩
    obtain ⟨tr, hrun, hwatched⟩ := runs_observe.mp h
    rwa [hwatched.lefts]

end Unnoticed

end Prog

end Coop
