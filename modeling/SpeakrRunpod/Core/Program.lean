import Mathlib

/-!
# Programs over an interface of operations

A coroutine is a tree: it has returned, or it asks for one operation and goes on with whatever
the outside answers.  `Prog I α` is that tree over an interface `I`, and nothing in it says what
an operation does — that is left to a semantics (`Core/Cooperative.lean`) or to a trace
(`Prog.Runs`), so that one transcription of a program can be run against several worlds.

* `Prog` — the tree, a lawful monad.
* `Prog.loop` — a loop unrolled a bounded number of times and continued by `Prog.never`.  A
  statement for every bound covers every finite run of the unbounded loop.
* `Async` — programs that may raise: `ExceptT` over `Prog`, with `tryFinally`.
* `Prog.Runs` — a program answered by one particular list of answers returns a value.
* `Prog.Ensures` — what a program comes to against an environment that answers it, with one rule for
  every combinator.
-/

namespace Coop

/-- An interface: the operations a program may ask for, and the type of each answer. -/
structure Interface where
  Op : Type
  Res : Op → Type

/-- A program over `I`.  `never` is a computation that does not come back: what is left of a loop
beyond the iterations that were unrolled. -/
inductive Prog (I : Interface) (α : Type) : Type
  | ret (a : α)
  | never
  | op (o : I.Op) (k : I.Res o → Prog I α)

namespace Prog

variable {I : Interface} {α β γ : Type}

/-- Sequencing: graft the continuation onto every leaf. -/
def bind : Prog I α → (α → Prog I β) → Prog I β
  | .ret a, f => f a
  | .never, _ => .never
  | .op o k, f => .op o fun r => (k r).bind f

instance : Monad (Prog I) where
  pure := .ret
  bind := Prog.bind

@[simp] theorem pure_eq (a : α) : (pure a : Prog I α) = .ret a := rfl

@[simp] theorem ret_bind (a : α) (f : α → Prog I β) : (Prog.ret a >>= f) = f a := rfl

@[simp] theorem never_bind (f : α → Prog I β) : (Prog.never >>= f : Prog I β) = .never := rfl

@[simp] theorem op_bind (o : I.Op) (k : I.Res o → Prog I α) (f : α → Prog I β) :
    (Prog.op o k >>= f) = .op o fun r => k r >>= f := rfl

theorem bind_ret : ∀ p : Prog I α, (p >>= fun a => .ret a) = p
  | .ret _ => rfl
  | .never => rfl
  | .op o k => congrArg (Prog.op o) (funext fun r => bind_ret (k r))

theorem bind_bind (f : α → Prog I β) (g : β → Prog I γ) :
    ∀ p : Prog I α, ((p >>= f) >>= g) = p >>= fun a => f a >>= g
  | .ret _ => rfl
  | .never => rfl
  | .op o k => congrArg (Prog.op o) (funext fun r => bind_bind f g (k r))

instance : LawfulMonad (Prog I) :=
  LawfulMonad.mk' (Prog I) (fun p => bind_ret p) (fun _ _ => rfl) (fun p f g => bind_bind f g p)

/-- Ask for one operation and return its answer. -/
def call (o : I.Op) : Prog I (I.Res o) := .op o .ret

@[simp] theorem call_bind (o : I.Op) (f : I.Res o → Prog I β) :
    (call o >>= f) = .op o f := rfl

/-- Iterate `body` from the state `s`: `inl` goes round again, `inr` leaves the loop.  The bound
`n` is how many rounds are unrolled. -/
def loop {σ : Type} (body : σ → Prog I (σ ⊕ α)) : ℕ → σ → Prog I α
  | 0, _ => .never
  | n + 1, s => body s >>= fun
      | .inl s' => loop body n s'
      | .inr a => .ret a

/-! ## Traces

One run of a program, as the list of the operations it asked for with the answers it got.
-/

/-- An operation together with the answer it was given. -/
abbrev Exchange (I : Interface) := Σ o : I.Op, I.Res o

/-- `p.Runs tr a`: answered as in `tr`, the program asks for exactly the operations of `tr` and
returns `a`. -/
inductive Runs : Prog I α → List (Exchange I) → α → Prop
  | ret (a : α) : Runs (.ret a) [] a
  | op {o : I.Op} {k : I.Res o → Prog I α} (r : I.Res o) {tr : List (Exchange I)} {a : α}
      (h : Runs (k r) tr a) : Runs (.op o k) (⟨o, r⟩ :: tr) a

@[simp] theorem runs_ret {a b : α} {tr : List (Exchange I)} :
    Runs (.ret a) tr b ↔ tr = [] ∧ a = b := by
  constructor
  · intro h
    cases h
    exact ⟨rfl, rfl⟩
  · rintro ⟨rfl, rfl⟩
    exact .ret a

@[simp] theorem not_runs_never {tr : List (Exchange I)} {a : α} :
    ¬ Runs (.never : Prog I α) tr a := nofun

theorem runs_op {o : I.Op} {k : I.Res o → Prog I α} {tr : List (Exchange I)} {a : α} :
    Runs (.op o k) tr a ↔ ∃ r tr', tr = ⟨o, r⟩ :: tr' ∧ Runs (k r) tr' a := by
  constructor
  · intro h
    cases h with
    | op r h => exact ⟨r, _, rfl, h⟩
  · rintro ⟨r, tr', rfl, h⟩
    exact .op r h

/-- The run of an operation whose answer is given. -/
theorem runs_cons {o : I.Op} {r : I.Res o} {k : I.Res o → Prog I α} {tr : List (Exchange I)}
    {a : α} : Runs (.op o k) (⟨o, r⟩ :: tr) a ↔ Runs (k r) tr a := by
  constructor
  · intro h
    cases h with
    | op r h => exact h
  · exact .op r

/-- **A run of a sequence is a run of each part.** -/
theorem runs_bind {f : α → Prog I β} {b : β} :
    ∀ {p : Prog I α} {tr : List (Exchange I)},
      Runs (p >>= f) tr b ↔ ∃ tr₁ tr₂ a, tr = tr₁ ++ tr₂ ∧ Runs p tr₁ a ∧ Runs (f a) tr₂ b
  | .ret a, tr => by
      constructor
      · intro h
        exact ⟨[], tr, a, rfl, .ret a, h⟩
      · rintro ⟨tr₁, tr₂, a', rfl, h₁, h₂⟩
        obtain ⟨rfl, rfl⟩ := runs_ret.mp h₁
        exact h₂
  | .never, tr => by
      constructor
      · intro h
        exact absurd h not_runs_never
      · rintro ⟨tr₁, tr₂, a', rfl, h₁, -⟩
        exact absurd h₁ not_runs_never
  | .op o k, tr => by
      rw [op_bind, runs_op]
      constructor
      · rintro ⟨r, tr', rfl, h⟩
        obtain ⟨tr₁, tr₂, a, rfl, h₁, h₂⟩ := runs_bind.mp h
        exact ⟨⟨o, r⟩ :: tr₁, tr₂, a, rfl, .op r h₁, h₂⟩
      · rintro ⟨tr₁, tr₂, a, rfl, h₁, h₂⟩
        obtain ⟨r, tr', rfl, h⟩ := runs_op.mp h₁
        exact ⟨r, tr' ++ tr₂, rfl, runs_bind.mpr ⟨tr', tr₂, a, rfl, h, h₂⟩⟩

/-- The answers decide the result. -/
theorem Runs.unique {p : Prog I α} {tr : List (Exchange I)} {a b : α} (ha : p.Runs tr a)
    (hb : p.Runs tr b) : a = b := by
  induction ha with
  | ret a => exact (runs_ret.mp hb).2
  | op r _ ih => exact ih (runs_cons.mp hb)

/-! ## Environments

An environment is a relation on a state `W`: which answers an operation may get, and what becomes of
the state.
-/

section Environments

variable {W : Type} {env : W → Exchange I → W → Prop}

/-- The exchanges of `tr`, one after the other, lead from one state to another. -/
inductive Transcript (env : W → Exchange I → W → Prop) : W → List (Exchange I) → W → Prop
  | nil (w : W) : Transcript env w [] w
  | cons {w w' w'' : W} {x : Exchange I} {tr : List (Exchange I)} (h : env w x w')
      (htr : Transcript env w' tr w'') : Transcript env w (x :: tr) w''

/-- Whatever the environment answers, the program returns, in a state that meets `post`. -/
def Ensures (env : W → Exchange I → W → Prop) : Prog I α → (α → W → Prop) → W → Prop
  | .ret a, post, w => post a w
  | .never, _, _ => False
  | .op o k, post, w => ∀ r w', env w ⟨o, r⟩ w' → (k r).Ensures env post w'

/-- **The runs of a program are as it ensures.** -/
theorem Ensures.runs {post : α → W → Prop} {p : Prog I α} {w w' : W} {tr : List (Exchange I)}
    {a : α} (h : p.Ensures env post w) (hrun : p.Runs tr a) (htr : Transcript env w tr w') :
    post a w' := by
  induction hrun generalizing w with
  | ret a =>
      cases htr
      exact h
  | op r _ ih =>
      cases htr with
      | cons hx htr => exact ih (h r _ hx) htr

theorem Ensures.mono {post post' : α → W → Prop} (himp : ∀ a w, post a w → post' a w) :
    ∀ {p : Prog I α} {w : W}, p.Ensures env post w → p.Ensures env post' w
  | .ret _, _, h => himp _ _ h
  | .op _ _, _, h => fun r w' hx => (h r w' hx).mono himp

theorem ensures_bind {f : α → Prog I β} {post : β → W → Prop} :
    ∀ {p : Prog I α} {w : W},
      (p >>= f).Ensures env post w ↔ p.Ensures env (fun a w => (f a).Ensures env post w) w
  | .ret _, _ => Iff.rfl
  | .never, _ => Iff.rfl
  | .op _ _, _ => forall_congr' fun _ => forall_congr' fun _ => forall_congr' fun _ => ensures_bind

/-- What is ensured in one environment is ensured in another whose every answer it can give as well;
`R` says which states stand for which. -/
theorem Ensures.simulate {V : Type} {env' : V → Exchange I → V → Prop} (R : W → V → Prop)
    (henv : ∀ w v x v', R w v → env' v x v' → ∃ w', env w x w' ∧ R w' v') {post : α → W → Prop} :
    ∀ {p : Prog I α} {w : W} {v : V}, p.Ensures env post w → R w v →
      p.Ensures env' (fun a v => ∃ w, R w v ∧ post a w) v
  | .ret _, w, _, h, hR => ⟨w, hR, h⟩
  | .op o _, w, v, h, hR => fun r v' hx => by
      obtain ⟨w', hx', hR'⟩ := henv w v ⟨o, r⟩ v' hR hx
      exact (h r w' hx').simulate R henv hR'

/-- The program returns, whatever it is answered. -/
def Halts : Prog I α → Prop
  | .ret _ => True
  | .never => False
  | .op _ k => ∀ r, (k r).Halts

/-- A program that ensures something against an environment that refuses no answer always returns. -/
theorem Ensures.halts {post : α → W → Prop} (henv : ∀ w x, ∃ w', env w x w') :
    ∀ {p : Prog I α} {w : W}, p.Ensures env post w → p.Halts
  | .ret _, _, _ => trivial
  | .op o _, w, h => fun r => by
      obtain ⟨w', hx⟩ := henv w ⟨o, r⟩
      exact (h r w' hx).halts henv

/-- The environment that answers anything and keeps the exchanges. -/
def record (w : List (Exchange I)) (x : Exchange I) (w' : List (Exchange I)) : Prop := w' = w ++ [x]

/-- Every list of exchanges is a transcript that is kept. -/
theorem transcript_record (tr : List (Exchange I)) :
    ∀ w : List (Exchange I), Transcript record w tr (w ++ tr) := by
  induction tr with
  | nil =>
      intro w
      rw [List.append_nil]
      exact .nil w
  | cons x tr ih =>
      intro w
      have htr := ih (w ++ [x])
      rw [List.append_assoc] at htr
      exact .cons rfl htr

/-- An environment whose exchanges are kept beside its state. -/
def recording (env : W → Exchange I → W → Prop) (w : List (Exchange I) × W) (x : Exchange I)
    (w' : List (Exchange I) × W) : Prop := w'.1 = w.1 ++ [x] ∧ env w.2 x w'.2

/-- Every transcript can be kept. -/
theorem Transcript.recorded {w w' : W} {tr : List (Exchange I)} (h : Transcript env w tr w') :
    ∀ before : List (Exchange I), Transcript (recording env) (before, w) tr (before ++ tr, w') := by
  induction h with
  | nil w =>
      intro before
      rw [List.append_nil]
      exact .nil (before, w)
  | @cons w w' w'' x tr hx htr ih =>
      intro before
      have hrest := ih (before ++ [x])
      rw [List.append_assoc] at hrest
      exact .cons ⟨rfl, hx⟩ hrest

end Environments

end Prog

/-! ## Programs that raise

Exceptions are values of a type `ε`; a raising program is a program that returns an
`Except ε α`.  Cancellation is an exception like any other here: an operation that may be
interrupted answers with it.
-/

/-- A program that returns a value or raises. -/
abbrev Async (I : Interface) (ε α : Type) := ExceptT ε (Prog I) α

namespace Async

variable {I : Interface} {ε α β : Type}

/-- Ask for an operation that cannot fail. -/
def call (o : I.Op) : Async I ε (I.Res o) := ExceptT.lift (Prog.call o)

/-- Raise what a computation without effects raised. -/
def ofExcept : Except ε α → Async I ε α
  | .ok a => pure a
  | .error e => throw e

/-- `try: body except …`: the outcome of `body` as a value, for the handler to inspect. -/
def attempt (body : Async I ε α) : Async I ε (Except ε α) :=
  ExceptT.mk (body.run >>= fun r => .ret (.ok r))

/-- `try: body finally: fin`.  What `fin` raises replaces the outcome of `body`. -/
def tryFinally (body : Async I ε α) (fin : Async I ε Unit) : Async I ε α :=
  ExceptT.mk (body.run >>= fun r => fin.run >>= fun
    | .ok () => .ret r
    | .error e => .ret (.error e))

/-- What one round of a loop comes to: an exception leaves the loop like a result. -/
def turn {σ : Type} : Except ε (σ ⊕ α) → σ ⊕ Except ε α
  | .ok (.inl s) => .inl s
  | .ok (.inr a) => .inr (.ok a)
  | .error e => .inr (.error e)

/-- A loop whose body may raise. -/
def loop {σ : Type} (body : σ → Async I ε (σ ⊕ α)) (n : ℕ) (s : σ) : Async I ε α :=
  ExceptT.mk (Prog.loop (fun s => (body s).run >>= fun r => .ret (turn r)) n s)

/-- One round of a loop. -/
theorem loop_succ {σ : Type} (body : σ → Async I ε (σ ⊕ α)) (n : ℕ) (s : σ) :
    loop body (n + 1) s = body s >>= fun
      | .inl s' => loop body n s'
      | .inr a => pure a := by
  show (((body s).run >>= fun r => Prog.ret (turn r)) >>= _) = (body s).run >>= _
  rw [Prog.bind_bind]
  refine congrArg (fun f => (body s).run >>= f) (funext fun r => ?_)
  rcases r with e | s' | a <;> rfl

/-! ## Traces of raising programs -/

section Traces

variable {x : Async I ε α} {f : α → Async I ε β} {o : I.Op} {k : I.Res o → Prog I (Except ε α)}
  {r : I.Res o} {tr : List (Prog.Exchange I)} {b : Except ε β}

/-- An operation is answered with a value. -/
theorem runs_answer {a : α} (hx : x.run = .op o k) (hk : k r = .ret (.ok a)) :
    (x >>= f).run.Runs (⟨o, r⟩ :: tr) b ↔ (f a).run.Runs tr b := by
  show (x.run >>= _ : Prog I (Except ε β)).Runs _ _ ↔ _
  rw [hx, Prog.op_bind, Prog.runs_cons, hk]
  rfl

/-- An operation raises. -/
theorem runs_raise {e : ε} (hx : x.run = .op o k) (hk : k r = .ret (.error e)) :
    (x >>= f).run.Runs (⟨o, r⟩ :: tr) b ↔ tr = [] ∧ .error e = b := by
  show (x.run >>= _ : Prog I (Except ε β)).Runs _ _ ↔ _
  rw [hx, Prog.op_bind, Prog.runs_cons, hk]
  exact Prog.runs_ret

theorem runs_ofExcept (r : Except ε α) : (ofExcept r : Async I ε α).run.Runs [] r := by
  cases r <;> exact .ret _

/-- What was raised is a value for the handler. -/
theorem runs_attempt {r : Except ε α} (hx : x.run.Runs tr r) :
    (attempt x).run.Runs tr (.ok r) :=
  Prog.runs_bind.mpr ⟨tr, [], r, (List.append_nil tr).symm, hx, .ret _⟩

theorem runs_bind_ok {tr' : List (Prog.Exchange I)} {a : α} (hx : x.run.Runs tr (.ok a))
    (hf : (f a).run.Runs tr' b) : (x >>= f).run.Runs (tr ++ tr') b :=
  Prog.runs_bind.mpr ⟨tr, tr', .ok a, rfl, hx, hf⟩

theorem runs_bind_error {e : ε} (hx : x.run.Runs tr (.error e)) :
    (x >>= f).run.Runs tr (.error e) :=
  Prog.runs_bind.mpr ⟨tr, [], .error e, (List.append_nil tr).symm, hx, .ret _⟩

theorem runs_tryFinally {tr' : List (Prog.Exchange I)} {r : Except ε α} {fin : Async I ε Unit}
    (hx : x.run.Runs tr r) (hfin : fin.run.Runs tr' (.ok ())) :
    (tryFinally x fin).run.Runs (tr ++ tr') r :=
  Prog.runs_bind.mpr ⟨tr, tr', r, rfl, hx,
    Prog.runs_bind.mpr ⟨tr', [], .ok (), (List.append_nil tr').symm, hfin, .ret _⟩⟩

end Traces

/-! ## Raising programs in an environment -/

section Environments

variable {W : Type} {env : W → Prog.Exchange I → W → Prop} {post : Except ε α → W → Prop} {w : W}

/-- Whatever the environment answers, the program returns or raises as `post` says. -/
def Ensures (env : W → Prog.Exchange I → W → Prop) (x : Async I ε α)
    (post : Except ε α → W → Prop) (w : W) : Prop := x.run.Ensures env post w

theorem Ensures.mono {post' : Except ε α → W → Prop} {x : Async I ε α}
    (h : Ensures env x post w) (himp : ∀ r w, post r w → post' r w) : Ensures env x post' w :=
  Prog.Ensures.mono himp h

theorem ensures_pure {a : α} (h : post (.ok a) w) : Ensures env (pure a : Async I ε α) post w := h

theorem ensures_throw {e : ε} (h : post (.error e) w) :
    Ensures env (throw e : Async I ε α) post w := h

theorem ensures_call {o : I.Op} {post : Except ε (I.Res o) → W → Prop}
    (h : ∀ r w', env w ⟨o, r⟩ w' → post (.ok r) w') :
    Ensures env (call o : Async I ε (I.Res o)) post w := h

theorem ensures_ofExcept {r : Except ε α} (h : post r w) :
    Ensures env (ofExcept r : Async I ε α) post w := by
  cases r <;> exact h

/-- Sequencing: what `x` returns is gone on with, what it raises is raised. -/
theorem ensures_bind {x : Async I ε α} {f : α → Async I ε β} {post : Except ε β → W → Prop}
    (h : Ensures env x (fun r w => match r with
      | .ok a => Ensures env (f a) post w
      | .error e => post (.error e) w) w) : Ensures env (x >>= f) post w := by
  refine Prog.ensures_bind.mpr (Prog.Ensures.mono ?_ h)
  rintro (e | a) w' h'
  · exact h'
  · exact h'

/-- The outcome is a value. -/
theorem ensures_attempt {x : Async I ε α} {post : Except ε (Except ε α) → W → Prop}
    (h : Ensures env x (fun r => post (.ok r)) w) : Ensures env (attempt x) post w :=
  Prog.ensures_bind.mpr h

/-- The last part sees what the body came to. -/
theorem ensures_tryFinally {x : Async I ε α} {fin : Async I ε Unit}
    (h : Ensures env x (fun r w => Ensures env fin (fun r' w => match r' with
      | .ok () => post r w
      | .error e => post (.error e) w) w) w) : Ensures env (tryFinally x fin) post w := by
  refine Prog.ensures_bind.mpr (Prog.Ensures.mono ?_ h)
  intro r w' h'
  refine Prog.ensures_bind.mpr (Prog.Ensures.mono ?_ h')
  rintro (e | ⟨⟩) w'' h''
  · exact h''
  · exact h''

/-- **A loop over a list**, with an invariant of the state, of the items that are left and of what
has been accumulated. -/
theorem ensures_foldlM {σ τ : Type} {f : τ → σ → Async I ε τ} {post : Except ε τ → W → Prop}
    (inv : List σ → τ → W → Prop) (hdone : ∀ t w, inv [] t w → post (.ok t) w)
    (hstep : ∀ s l t w, inv (s :: l) t w → Ensures env (f t s) (fun r w => match r with
      | .ok t => inv l t w
      | .error e => post (.error e) w) w) :
    ∀ l t w, inv l t w → Ensures env (l.foldlM f t) post w := by
  intro l
  induction l with
  | nil => exact fun t w h => ensures_pure (hdone t w h)
  | cons s l ih =>
      intro t w h
      rw [List.foldlM_cons]
      refine ensures_bind ((hstep s l t w h).mono ?_)
      rintro (e | t') w' h'
      · exact h'
      · exact ih t' w' h'

end Environments

end Async

end Coop
