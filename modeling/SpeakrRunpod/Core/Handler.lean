import SpeakrRunpod.Core.Monitor

/-!
# Programs in place of operations

A program asks for operations; how one of them is carried out may be a program of its own, over the
operations of a lower level.  What is said of the parts against their own environments is said of
the whole against that of the lower level.

* `Interface.sum` — two interfaces side by side; `Prog.inl` and `Prog.inr` ask for those of one.
* `Prog.handle` — every operation is carried out by a program.
* `Prog.obeys_handle` — the carrying out need only keep to what the environment promises.
* `Prog.runs_handle` — a run of the whole is a run of each part.
-/

namespace Coop

/-- Two interfaces side by side. -/
abbrev Interface.sum (I J : Interface) : Interface := ⟨I.Op ⊕ J.Op, Sum.elim I.Res J.Res⟩

namespace Prog

variable {I J : Interface} {α β : Type}

/-- Every operation is carried out by a program over another interface. -/
def handle (h : (o : I.Op) → Prog J (I.Res o)) : Prog I α → Prog J α
  | .ret a => .ret a
  | .never => .never
  | .op o k => h o >>= fun r => (k r).handle h

/-- The operations are those of the left interface. -/
def inl (p : Prog I α) : Prog (I.sum J) α := p.handle fun o => .op (.inl o) .ret

/-- The operations are those of the right interface. -/
def inr (p : Prog J α) : Prog (I.sum J) α := p.handle fun o => .op (.inr o) .ret

theorem handle_bind (h : (o : I.Op) → Prog J (I.Res o)) (f : α → Prog I β) :
    ∀ p : Prog I α, (p >>= f).handle h = p.handle h >>= fun a => (f a).handle h
  | .ret _ => rfl
  | .never => rfl
  | .op o k => by
      show (h o >>= fun r => (k r >>= f).handle h) = (h o >>= fun r => (k r).handle h) >>= _
      rw [bind_bind]
      exact congrArg (fun g => h o >>= g) (funext fun r => handle_bind h f (k r))

section Obeys

variable {W : Type} {env : W → Exchange J → W → Prop} {rule : W → J.Op → Prop}
  {env' : W → Exchange I → W → Prop} {rule' : W → I.Op → Prop} {post : α → W → Prop}

/-- **A program in which the operations are carried out** obeys the rule of the lower level, where
each of them, once it is allowed, does, and ends as the environment of the upper level has it. -/
theorem obeys_handle {h : (o : I.Op) → Prog J (I.Res o)}
    (hspec : ∀ o w, rule' w o → (h o).Obeys env rule (fun r w' => env' w ⟨o, r⟩ w') w) :
    ∀ {p : Prog I α} {w : W}, p.Obeys env' rule' post w → (p.handle h).Obeys env rule post w
  | .ret _, _, hp => hp
  | .never, _, _ => trivial
  | .op o _, w, hp =>
      obeys_bind.mpr ((hspec o w hp.1).mono fun r w' hx => obeys_handle hspec (hp.2 r w' hx))

/-- Nothing changes for the operations of one side. -/
theorem obeys_inl {env : W → Exchange (I.sum J) → W → Prop} {rule : W → (I.sum J).Op → Prop}
    {p : Prog I α} {w : W}
    (hp : p.Obeys (fun w x w' => env w ⟨.inl x.1, x.2⟩ w') (fun w o => rule w (.inl o)) post w) :
    (inl p : Prog (I.sum J) α).Obeys env rule post w := by
  refine obeys_handle ?_ hp
  intro o w hrule
  exact ⟨hrule, fun _ _ hx => hx⟩

end Obeys

section Ensures

variable {W : Type} {env : W → Exchange J → W → Prop} {env' : W → Exchange I → W → Prop}
  {post : α → W → Prop}

/-- What a program ensures it ensures still where its operations are carried out by programs that
ensure what it was promised. -/
theorem ensures_handle {h : (o : I.Op) → Prog J (I.Res o)}
    (hspec : ∀ o w, (h o).Ensures env (fun r w' => env' w ⟨o, r⟩ w') w) :
    ∀ {p : Prog I α} {w : W}, p.Ensures env' post w → (p.handle h).Ensures env post w
  | .ret _, _, hp => hp
  | .op o _, w, hp =>
      ensures_bind.mpr ((hspec o w).mono fun r w' hx => ensures_handle hspec (hp r w' hx))

theorem ensures_inr {env : W → Exchange (I.sum J) → W → Prop} {p : Prog J α} {w : W}
    (hp : p.Ensures (fun w x w' => env w ⟨.inr x.1, x.2⟩ w') post w) :
    (inr p : Prog (I.sum J) α).Ensures env post w := by
  refine ensures_handle ?_ hp
  intro o w
  exact fun _ _ hx => hx

end Ensures

section Runs

/-- The exchanges of a program, and those by which its operations were carried out. -/
inductive Carried (h : (o : I.Op) → Prog J (I.Res o)) :
    List (Exchange I) → List (Exchange J) → Prop
  | nil : Carried h [] []
  | cons {o : I.Op} {r : I.Res o} {tr : List (Exchange I)} {low low' : List (Exchange J)}
      (ho : (h o).Runs low r) (htr : Carried h tr low') : Carried h (⟨o, r⟩ :: tr) (low ++ low')

/-- **A run of the whole is a run of each part.** -/
theorem runs_handle {h : (o : I.Op) → Prog J (I.Res o)} {a : α} :
    ∀ {p : Prog I α} {low : List (Exchange J)},
      (p.handle h).Runs low a ↔ ∃ tr, p.Runs tr a ∧ Carried h tr low
  | .ret b, low => by
      constructor
      · intro hrun
        obtain ⟨rfl, rfl⟩ := runs_ret.mp hrun
        exact ⟨[], .ret b, .nil⟩
      · rintro ⟨tr, hrun, hcarried⟩
        obtain ⟨rfl, rfl⟩ := runs_ret.mp hrun
        cases hcarried
        exact .ret b
  | .never, low => by
      constructor
      · intro hrun
        exact absurd hrun not_runs_never
      · rintro ⟨tr, hrun, -⟩
        exact absurd hrun not_runs_never
  | .op o k, low => by
      show (h o >>= fun r => (k r).handle h).Runs low a ↔ _
      rw [runs_bind]
      constructor
      · rintro ⟨low₁, low₂, r, rfl, ho, hk⟩
        obtain ⟨tr, hrun, hcarried⟩ := runs_handle.mp hk
        exact ⟨⟨o, r⟩ :: tr, .op r hrun, .cons ho hcarried⟩
      · rintro ⟨tr, hrun, hcarried⟩
        obtain ⟨r, tr', rfl, hk⟩ := runs_op.mp hrun
        cases hcarried with
        | cons ho htr => exact ⟨_, _, r, rfl, ho, runs_handle.mpr ⟨tr', hk, htr⟩⟩

/-- The run of a program whose operations are those of the left interface. -/
theorem Runs.inl {p : Prog I α} {tr : List (Exchange I)} {a : α} (hrun : p.Runs tr a) :
    (inl p : Prog (I.sum J) α).Runs (tr.map fun x => ⟨.inl x.1, x.2⟩) a := by
  induction hrun with
  | ret a => exact .ret a
  | op r _ ih => exact .op (I := I.sum J) (o := .inl _) r ih

theorem Runs.inr {p : Prog J α} {tr : List (Exchange J)} {a : α} (hrun : p.Runs tr a) :
    (inr p : Prog (I.sum J) α).Runs (tr.map fun x => ⟨.inr x.1, x.2⟩) a := by
  induction hrun with
  | ret a => exact .ret a
  | op r _ ih => exact .op (I := I.sum J) (o := .inr _) r ih

end Runs

section Only

/-- Nothing is asked for but what the operations are carried out by. -/
theorem only_handle {kind : J.Op → Prop} {kind' : I.Op → Prop} {h : (o : I.Op) → Prog J (I.Res o)}
    (hkind : ∀ o, kind' o → (h o).Only kind) :
    ∀ {p : Prog I α}, p.Only kind' → (p.handle h).Only kind
  | .ret _, _ => trivial
  | .never, _ => trivial
  | .op o _, hp => only_bind (fun r => only_handle hkind (hp.2 r)) (hkind o hp.1)

theorem only_inr {kind : (I.sum J).Op → Prop} {p : Prog J α}
    (hp : p.Only fun o => kind (.inr o)) : (inr p : Prog (I.sum J) α).Only kind := by
  refine only_handle ?_ hp
  exact fun _ ho => ⟨ho, fun _ => trivial⟩

end Only

end Prog

namespace Async

variable {I J : Interface} {ε α : Type}

/-- The operations of a raising program are those of the left interface. -/
def inl (x : Async I ε α) : Async (I.sum J) ε α := ExceptT.mk (Prog.inl x.run)

/-- The operations of a raising program are those of the right interface. -/
def inr (x : Async J ε α) : Async (I.sum J) ε α := ExceptT.mk (Prog.inr x.run)

end Async

end Coop
