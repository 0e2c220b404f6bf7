import Mathlib.Logic.Function.Basic
import Mathlib.Logic.Relation
import SpeakrRunpod.Core.Program

/-!
# Cooperative tasks and rely–guarantee invariants

Tasks that share a world run one at a time and hand over only where they wait: a task resumed by
the answer to the operation it waits for goes on through its synchronous operations up to the
next one it has to wait for.  `Runtime` says which operations are synchronous and what every
operation does to the world; `Pool.Step` is the resulting interleaving.  A runtime in which no
operation is synchronous is a preemptive one, so the same rules serve processes.

The proof rule is rely–guarantee.  A `Contract` fixes an invariant of the world and, for every
task, what it may rely on between two of its own steps; `Contract.wp` is the weakest precondition
of a program under that contract, defined by recursion on the program, with one rule for every
combinator.  `Contract.sound` turns a `wp` for each task into an invariant of every reachable
state of the pool, and into the postcondition of every task that has returned.
-/

namespace Coop

variable {I : Interface} {ι W α β ε : Type}

/-- What the operations of `I` do in a world `W` shared by tasks named by `ι`. -/
structure Runtime (I : Interface) (ι W : Type) where
  /-- a synchronous operation, with its answer and its effect; `none` where the task has to wait -/
  exec : ι → (o : I.Op) → W → Option (I.Res o × W)
  /-- what starting to wait does -/
  issue : ι → I.Op → W → W
  /-- the answers a waiting task may be resumed with, and their effect -/
  answer : ι → (o : I.Op) → I.Res o → W → W → Prop
  /-- what returning does -/
  exit : ι → W → W
  /-- steps that belong to no task -/
  env : W → W → Prop

namespace Runtime

/-- Run the synchronous operations of a program, up to the point where it waits or has returned. -/
def settle (R : Runtime I ι W) (i : ι) : Prog I α → W → Prog I α × W
  | .ret a, w => (.ret a, R.exit i w)
  | .never, w => (.never, w)
  | .op o k, w =>
      match R.exec i o w with
      | some (r, w') => R.settle i (k r) w'
      | none => (.op o k, R.issue i o w)

end Runtime

/-- A pool of tasks, each one suspended at the operation it waits for. -/
structure Pool (I : Interface) (ι W α : Type) where
  world : W
  tasks : ι → Prog I α

namespace Pool

variable [DecidableEq ι]

/-- Resume task `i` with the continuation `p` in the world `w`. -/
def resume (R : Runtime I ι W) (s : Pool I ι W α) (i : ι) (p : Prog I α) (w : W) :
    Pool I ι W α where
  world := (R.settle i p w).2
  tasks := Function.update s.tasks i (R.settle i p w).1

/-- The pool in which only the task `i` is started, and every other one has returned `a`. -/
def launch (R : Runtime I ι W) (i : ι) (p : Prog I α) (a : α) (w : W) : Pool I ι W α :=
  resume R ⟨w, fun _ => .ret a⟩ i p w

/-- One step of the pool: the world moves by itself, or a waiting task is answered and runs up to
its next wait. -/
inductive Step (R : Runtime I ι W) : Pool I ι W α → Pool I ι W α → Prop
  | env {s : Pool I ι W α} {w : W} (h : R.env s.world w) : Step R s { s with world := w }
  | task {s : Pool I ι W α} (i : ι) {o : I.Op} {k : I.Res o → Prog I α} (r : I.Res o) {w : W}
      (hi : s.tasks i = .op o k) (h : R.answer i o r s.world w) : Step R s (s.resume R i (k r) w)

/-- The states that a run from `s` reaches. -/
def Reaches (R : Runtime I ι W) : Pool I ι W α → Pool I ι W α → Prop :=
  Relation.ReflTransGen (Step R)

end Pool

/-! ## Schedules

A run can be given as the list of the tasks that are resumed, each with the operation it waits for
and the answer to it, where the answers are decided by a function.
-/

namespace Pool

variable [DecidableEq ι] [DecidableEq I.Op]

/-- Follow a schedule; `none` where a task does not wait for the operation named, or the answer is
not possible. -/
def play (R : Runtime I ι W) (answer? : ι → (o : I.Op) → I.Res o → W → Option W) :
    List (ι × Prog.Exchange I) → Pool I ι W α → Option (Pool I ι W α)
  | [], s => some s
  | (i, ⟨o, r⟩) :: rest, s =>
      match s.tasks i with
      | .op o' k =>
          if h : o = o' then
            match answer? i o r s.world with
            | some w => play R answer? rest (s.resume R i (k (h ▸ r)) w)
            | none => none
          else none
      | _ => none

/-- A schedule that can be followed is a run. -/
theorem play_reaches {R : Runtime I ι W} {answer? : ι → (o : I.Op) → I.Res o → W → Option W}
    (hanswer : ∀ {i o r w w'}, answer? i o r w = some w' → R.answer i o r w w') :
    ∀ {sched : List (ι × Prog.Exchange I)} {s s' : Pool I ι W α},
      play R answer? sched s = some s' → Reaches R s s'
  | [], s, s', h => by
      cases h
      exact .refl
  | (i, ⟨o, r⟩) :: rest, s, s', h => by
      rw [play] at h
      split at h
      · rename_i o' k hi
        split_ifs at h with ho
        subst ho
        split at h
        · rename_i w hw
          exact .head (.task i r hi (hanswer hw)) (play_reaches hanswer h)
        · cases h
      · cases h

end Pool

/-! ## One task by itself

`R.Eval i p w tr a w'`: with nothing happening in between, task `i` runs `p` from `w`, its waits are
answered as in `tr`, and it returns `a` in `w'`.  The rules below follow the combinators, so that a
run whose data are variables can be put together function by function.
-/

namespace Runtime

variable {R : Runtime I ι W} {i : ι}

inductive Eval (R : Runtime I ι W) (i : ι) :
    Prog I α → W → List (Prog.Exchange I) → α → W → Prop
  | ret (a : α) (w : W) : Eval R i (.ret a) w [] a w
  | exec {o : I.Op} {k : I.Res o → Prog I α} {w w' w'' : W} {r : I.Res o}
      {tr : List (Prog.Exchange I)} {a : α} (h : R.exec i o w = some (r, w'))
      (hk : Eval R i (k r) w' tr a w'') : Eval R i (.op o k) w tr a w''
  | wait {o : I.Op} {k : I.Res o → Prog I α} {w w' w'' : W} {r : I.Res o}
      {tr : List (Prog.Exchange I)} {a : α} (h : R.exec i o w = none)
      (ha : R.answer i o r (R.issue i o w) w') (hk : Eval R i (k r) w' tr a w'') :
      Eval R i (.op o k) w (⟨o, r⟩ :: tr) a w''

namespace Eval

variable {w w' w'' : W} {tr tr' : List (Prog.Exchange I)}

theorem bind {p : Prog I α} {f : α → Prog I β} {a : α} {b : β} (hp : R.Eval i p w tr a w')
    (hf : R.Eval i (f a) w' tr' b w'') : R.Eval i (p >>= f) w (tr ++ tr') b w'' := by
  induction hp with
  | ret a w => exact hf
  | exec h _ ih => exact .exec h (ih hf)
  | wait h ha _ ih => exact .wait h ha (ih hf)

theorem bind_ret {p : Prog I α} {a : α} {g : α → β} (hp : R.Eval i p w tr a w') :
    R.Eval i (p >>= fun a => .ret (g a)) w tr (g a) w' := by
  have h := hp.bind (f := fun a => .ret (g a)) (.ret (g a) w')
  rwa [List.append_nil] at h

theorem call_exec {o : I.Op} {r : I.Res o} (h : R.exec i o w = some (r, w')) :
    R.Eval i (Prog.call o) w [] r w' := .exec h (.ret r w')

theorem call_wait {o : I.Op} {r : I.Res o} (h : R.exec i o w = none)
    (ha : R.answer i o r (R.issue i o w) w') : R.Eval i (Prog.call o) w [⟨o, r⟩] r w' :=
  .wait h ha (.ret r w')

variable {x : Async I ε α} {f : α → Async I ε β} {a : α} {e : ε}

theorem lift_exec {o : I.Op} {r : I.Res o} (h : R.exec i o w = some (r, w')) :
    R.Eval i (Async.call o : Async I ε (I.Res o)).run w [] (.ok r) w' := .exec h (.ret _ w')

theorem bind_ok {r : Except ε β} (hx : R.Eval i x.run w tr (.ok a) w')
    (hf : R.Eval i (f a).run w' tr' r w'') : R.Eval i (x >>= f).run w (tr ++ tr') r w'' :=
  bind hx hf

theorem bind_error (hx : R.Eval i x.run w tr (.error e) w') :
    R.Eval i (x >>= f).run w tr (.error e) w' := by
  have h : R.Eval i (x >>= f).run w (tr ++ []) (.error e) w' := bind hx (.ret _ w')
  rwa [List.append_nil] at h

theorem ofExcept (r : Except ε α) (w : W) :
    R.Eval i (Async.ofExcept r : Async I ε α).run w [] r w := by
  cases r <;> exact .ret _ w

theorem attempt {r : Except ε α} (hx : R.Eval i x.run w tr r w') :
    R.Eval i (Async.attempt x).run w tr (.ok r) w' :=
  bind_ret hx

theorem tryFinally {fin : Async I ε Unit} {r : Except ε α} (hx : R.Eval i x.run w tr r w')
    (hfin : R.Eval i fin.run w' tr' (.ok ()) w'') :
    R.Eval i (Async.tryFinally x fin).run w (tr ++ tr') r w'' := by
  rw [← List.append_nil tr']
  exact bind hx (bind hfin (.ret r w''))

theorem loop_leave {σ : Type} {body : σ → Async I ε (σ ⊕ α)} {s : σ} {n : ℕ}
    (h : R.Eval i (body s).run w tr (.ok (.inr a)) w') :
    R.Eval i (Async.loop body (n + 1) s).run w tr (.ok a) w' := by
  have hbody := bind_ret (g := Async.turn) h
  change R.Eval i (Prog.loop (fun s => (body s).run >>= fun r => .ret (Async.turn r)) (n + 1) s)
    w tr (.ok a) w'
  rw [Prog.loop, ← List.append_nil tr]
  exact bind hbody (.ret _ w')

/-- The run of one task is a run of the pool. -/
theorem reaches [DecidableEq ι] {p : Prog I α} {a : α} (h : R.Eval i p w tr a w') :
    ∀ s : Pool I ι W α, Pool.Reaches R (s.resume R i p w)
      ⟨R.exit i w', Function.update s.tasks i (.ret a)⟩ := by
  induction h with
  | ret a w => exact fun s => .refl
  | @exec o k w w' w'' r tr a h _ ih =>
      intro s
      have hresume : s.resume R i (.op o k) w = s.resume R i (k r) w' := by
        simp only [Pool.resume, settle, h]
      rw [hresume]
      exact ih s
  | @wait o k w w' w'' r tr a h ha _ ih =>
      intro s
      have hresume : s.resume R i (.op o k) w =
          ⟨R.issue i o w, Function.update s.tasks i (.op o k)⟩ := by
        simp only [Pool.resume, settle, h]
      rw [hresume]
      have hstep : Pool.Step R ⟨R.issue i o w, Function.update s.tasks i (.op o k)⟩
          (s.resume R i (k r) w') := by
        have := Pool.Step.task (s := ⟨R.issue i o w, Function.update s.tasks i (.op o k)⟩) i r
          (Function.update_self i _ s.tasks) ha
        simpa [Pool.resume] using this
      exact .head hstep (ih s)

end Eval

end Runtime

/-- An invariant of the world, and what each task may rely on while it waits.  `post` is what a
task guarantees about the value it returns. -/
structure Contract (R : Runtime I ι W) where
  inv : W → Prop
  rely : ι → W → W → Prop
  rely_refl : ∀ i w, rely i w w
  rely_trans : ∀ {i w₁ w₂ w₃}, rely i w₁ w₂ → rely i w₂ w₃ → rely i w₁ w₃
  env_inv : ∀ {w w'}, R.env w w' → inv w → inv w'
  env_rely : ∀ {w w'}, R.env w w' → inv w → ∀ i, rely i w w'

namespace Contract

variable {R : Runtime I ι W} (C : Contract R)

/-- A change made by task `i` that every other task may see. -/
def guar (i : ι) (w w' : W) : Prop := ∀ j, j ≠ i → C.rely j w w'

theorem guar_refl (i : ι) (w : W) : C.guar i w w := fun j _ => C.rely_refl j w

theorem guar_trans {i : ι} {w₁ w₂ w₃ : W} (h₁ : C.guar i w₁ w₂) (h₂ : C.guar i w₂ w₃) :
    C.guar i w₁ w₃ := fun j hj => C.rely_trans (h₁ j hj) (h₂ j hj)

/-- **Weakest precondition.**  `C.wp i p Q w`: task `i`, running `p` from `w`, makes only changes
the others rely on, restores the invariant wherever it waits, and returns in `Q`. -/
def wp (i : ι) : Prog I α → (α → W → Prop) → W → Prop
  | .ret a, Q, w => Q a w
  | .never, _, w => C.inv w
  | .op o k, Q, w =>
      match R.exec i o w with
      | some (r, w') => C.guar i w w' ∧ wp i (k r) Q w'
      | none => C.guar i w (R.issue i o w) ∧ C.inv (R.issue i o w) ∧
          ∀ w₁ r w₂, C.rely i (R.issue i o w) w₁ → C.inv w₁ → R.answer i o r w₁ w₂ →
            C.guar i w₁ w₂ ∧ wp i (k r) Q w₂

/-- An assertion that task `i` may keep while it waits: no other task can break it, and it implies
the invariant. -/
structure Stays (i : ι) (V : W → Prop) : Prop where
  inv : ∀ {w}, V w → C.inv w
  rely : ∀ {w w'}, V w → C.rely i w w' → C.inv w' → V w'

@[simp] theorem wp_ret (i : ι) (a : α) (Q : α → W → Prop) (w : W) :
    C.wp i (.ret a) Q w = Q a w := rfl

@[simp] theorem wp_never (i : ι) (Q : α → W → Prop) (w : W) :
    C.wp i (.never : Prog I α) Q w = C.inv w := rfl

/-- The rule of a synchronous operation. -/
theorem wp_exec {i : ι} {o : I.Op} {k : I.Res o → Prog I α} {Q : α → W → Prop} {w w' : W}
    {r : I.Res o} (h : R.exec i o w = some (r, w')) :
    C.wp i (.op o k) Q w ↔ C.guar i w w' ∧ C.wp i (k r) Q w' := by
  rw [wp, h]

/-- The rule of an operation that waits. -/
theorem wp_wait {i : ι} {o : I.Op} {k : I.Res o → Prog I α} {Q : α → W → Prop} {w : W}
    (h : R.exec i o w = none) :
    C.wp i (.op o k) Q w ↔ C.guar i w (R.issue i o w) ∧ C.inv (R.issue i o w) ∧
      ∀ w₁ r w₂, C.rely i (R.issue i o w) w₁ → C.inv w₁ → R.answer i o r w₁ w₂ →
        C.guar i w₁ w₂ ∧ C.wp i (k r) Q w₂ := by
  rw [wp, h]

/-- The rule of sequencing. -/
theorem wp_bind {i : ι} {f : α → Prog I β} {Q : β → W → Prop} :
    ∀ {p : Prog I α} {w : W},
      C.wp i (p >>= f) Q w ↔ C.wp i p (fun a w => C.wp i (f a) Q w) w
  | .ret _, _ => Iff.rfl
  | .never, _ => Iff.rfl
  | .op o k, w => by
      rw [Prog.op_bind]
      cases h : R.exec i o w with
      | some rw' =>
          obtain ⟨r, w'⟩ := rw'
          rw [wp_exec C h, wp_exec C h, wp_bind]
      | none =>
          rw [wp_wait C h, wp_wait C h]
          simp only [wp_bind]

/-- The rule of consequence. -/
theorem wp_mono {i : ι} {Q Q' : α → W → Prop} (h : ∀ a w, Q a w → Q' a w) :
    ∀ {p : Prog I α} {w : W}, C.wp i p Q w → C.wp i p Q' w
  | .ret a, w, hp => h a w hp
  | .never, _, hp => hp
  | .op o k, w, hp => by
      cases he : R.exec i o w with
      | some rw' =>
          obtain ⟨r, w'⟩ := rw'
          rw [wp_exec C he] at hp ⊢
          exact ⟨hp.1, wp_mono h hp.2⟩
      | none =>
          rw [wp_wait C he] at hp ⊢
          refine ⟨hp.1, hp.2.1, fun w₁ r w₂ h₁ h₂ h₃ => ?_⟩
          exact ⟨(hp.2.2 w₁ r w₂ h₁ h₂ h₃).1, wp_mono h (hp.2.2 w₁ r w₂ h₁ h₂ h₃).2⟩

/-- The postcondition of one round of a loop: it goes on in `L` or leaves in `Q`. -/
def turn {σ : Type} (L : σ → W → Prop) (Q : α → W → Prop) : σ ⊕ α → W → Prop
  | .inl s => L s
  | .inr a => Q a

/-- **The loop rule.**  `L` holds at the head of every round; the bound on the rounds plays no
part. -/
theorem wp_loop {σ : Type} {i : ι} {body : σ → Prog I (σ ⊕ α)} {Q : α → W → Prop}
    (L : σ → W → Prop) (hinv : ∀ s w, L s w → C.inv w)
    (hbody : ∀ s w, L s w → C.wp i (body s) (turn L Q) w) :
    ∀ (n : ℕ) (s : σ) (w : W), L s w → C.wp i (Prog.loop body n s) Q w
  | 0, s, w, h => hinv s w h
  | n + 1, s, w, h => by
      rw [Prog.loop, wp_bind]
      refine wp_mono C ?_ (hbody s w h)
      intro x w' hx
      cases x with
      | inl s' => exact wp_loop L hinv hbody n s' w' hx
      | inr a => exact hx

/-- **The rule of a wait.**  What stays true while the task waits is true where it is answered. -/
theorem wp_await {i : ι} {o : I.Op} {V : W → Prop} {Q : I.Res o → W → Prop} (hV : C.Stays i V)
    {w : W} (hexec : R.exec i o w = none) (hissue : R.issue i o w = w)
    (hanswer : ∀ {w₁ r w₂}, V w₁ → R.answer i o r w₁ w₂ → C.guar i w₁ w₂ ∧ Q r w₂) (h : V w) :
    C.wp i (Prog.call o) Q w := by
  refine (wp_wait C hexec).mpr ?_
  rw [hissue]
  refine ⟨C.guar_refl i w, hV.inv h, fun w₁ r w₂ h₁ h₂ h₃ => ?_⟩
  exact hanswer (hV.rely h h₁ h₂) h₃

/-- The rule of a wait that changes nothing. -/
theorem wp_still {i : ι} {o : I.Op} {V : W → Prop} (hV : C.Stays i V) {w : W}
    (hexec : R.exec i o w = none) (hissue : R.issue i o w = w)
    (hanswer : ∀ {r w₁ w₂}, R.answer i o r w₁ w₂ → w₂ = w₁) (h : V w) :
    C.wp i (Prog.call o) (fun _ => V) w := by
  refine wp_await C hV hexec hissue (fun {w₁ r w₂} h₁ h₂ => ?_) h
  rw [hanswer h₂]
  exact ⟨C.guar_refl i w₁, h₁⟩

/-- A step that the environment could have made keeps what stays true. -/
theorem Stays.env {i : ι} {V : W → Prop} (hV : C.Stays i V) {w w' : W} (h : V w)
    (he : R.env w w') : V w' :=
  hV.rely h (C.env_rely he (hV.inv h) i) (C.env_inv he (hV.inv h))

/-! ## Raising programs

The same calculus with two postconditions, one for a returned value and one for an exception.
-/

/-- The postcondition of a raising program, from one for each way it can end. -/
def outcome (Q : α → W → Prop) (E : ε → W → Prop) : Except ε α → W → Prop
  | .ok a => Q a
  | .error e => E e

/-- Weakest precondition of a program that returns in `Q` or raises in `E`. -/
def wpE (i : ι) (x : Async I ε α) (Q : α → W → Prop) (E : ε → W → Prop) (w : W) : Prop :=
  C.wp i x.run (outcome Q E) w

variable {i : ι} {Q : α → W → Prop} {E : ε → W → Prop} {w : W}

@[simp] theorem wpE_pure (a : α) : C.wpE i (pure a : Async I ε α) Q E w = Q a w := rfl

@[simp] theorem wpE_throw (e : ε) : C.wpE i (throw e : Async I ε α) Q E w = E e w := rfl

theorem wpE_bind {x : Async I ε α} {f : α → Async I ε β} {Q : β → W → Prop} :
    C.wpE i (x >>= f) Q E w ↔ C.wpE i x (fun a => C.wpE i (f a) Q E) E w := by
  show C.wp i (x.run >>= _) _ w ↔ _
  rw [wp_bind]
  refine iff_of_eq (congrArg (fun q => C.wp i x.run q w) ?_)
  funext r w
  cases r <;> rfl

theorem wpE_mono {x : Async I ε α} {Q' : α → W → Prop} {E' : ε → W → Prop}
    (h : C.wpE i x Q E w) (hQ : ∀ a w, Q a w → Q' a w) (hE : ∀ e w, E e w → E' e w) :
    C.wpE i x Q' E' w := by
  refine wp_mono C ?_ h
  intro r w hr
  cases r with
  | ok a => exact hQ a w hr
  | error e => exact hE e w hr

/-- An assertion that holds however the program ends. -/
theorem wpE_of_wp {x : Async I ε α} {V : W → Prop} (h : C.wp i x.run (fun _ => V) w) :
    C.wpE i x (fun _ => V) (fun _ => V) w := by
  refine wp_mono C ?_ h
  intro r w hw
  cases r <;> exact hw

/-- An operation that cannot fail. -/
theorem wpE_lift {o : I.Op} {Q : I.Res o → W → Prop} :
    C.wpE i (Async.call o : Async I ε (I.Res o)) Q E w ↔ C.wp i (Prog.call o) Q w := by
  show C.wp i (Prog.call o >>= _) _ w ↔ _
  rw [wp_bind]
  rfl

/-- The rule of a synchronous operation that cannot fail. -/
theorem wpE_call {o : I.Op} {Q : I.Res o → W → Prop} {r : I.Res o} {w' : W}
    (h : R.exec i o w = some (r, w')) (hg : C.guar i w w') (hQ : Q r w') :
    C.wpE i (Async.call o : Async I ε (I.Res o)) Q E w :=
  (wp_exec C h).mpr ⟨hg, hQ⟩

/-- The rule of a computation without effects. -/
theorem wpE_ofExcept {x : Except ε α} :
    C.wpE i (Async.ofExcept x : Async I ε α) Q E w ↔ outcome Q E x w := by
  cases x <;> rfl

/-- The rule of `try … except`: the handler receives what the body raised. -/
theorem wpE_attempt {x : Async I ε α} {Q : Except ε α → W → Prop} :
    C.wpE i (Async.attempt x) Q E w ↔
      C.wpE i x (fun a => Q (.ok a)) (fun e => Q (.error e)) w := by
  show C.wp i (x.run >>= _) _ w ↔ _
  rw [wp_bind]
  refine iff_of_eq (congrArg (fun q => C.wp i x.run q w) ?_)
  funext r w
  cases r <;> rfl

/-- The rule of `try … finally`. -/
theorem wpE_tryFinally {x : Async I ε α} {fin : Async I ε Unit} :
    C.wpE i (Async.tryFinally x fin) Q E w ↔
      C.wpE i x (fun a => C.wpE i fin (fun _ => Q a) E)
        (fun e => C.wpE i fin (fun _ => E e) E) w := by
  show C.wp i (x.run >>= fun r => fin.run >>= _) _ w ↔ _
  simp only [wp_bind]
  refine iff_of_eq (congrArg (fun q => C.wp i x.run q w) ?_)
  funext r w
  cases r <;>
    refine congrArg (fun q => C.wp i fin.run q w) (funext fun x => funext fun w => ?_) <;>
    cases x <;> rfl

/-- The loop rule for a body that may raise. -/
theorem wpE_loop {σ : Type} {body : σ → Async I ε (σ ⊕ α)} (L : σ → W → Prop)
    (hinv : ∀ s w, L s w → C.inv w)
    (hbody : ∀ s w, L s w → C.wpE i (body s) (turn L Q) E w)
    (n : ℕ) (s : σ) (hs : L s w) : C.wpE i (Async.loop body n s) Q E w := by
  refine C.wp_loop L hinv (fun s w h => ?_) n s w hs
  rw [wp_bind]
  refine wp_mono C ?_ (hbody s w h)
  intro r w hr
  cases r with
  | error e => exact hr
  | ok x => cases x <;> exact hr


/-! ## Soundness -/

/-- What is known of a suspended task: it can go on from any world it may rely on, and if it has
returned its postcondition holds. -/
def Parked (post : ι → α → W → Prop) (i : ι) : Prog I α → W → Prop
  | .ret a, w => post i a w
  | .never, _ => True
  | .op o k, w => ∀ w₁ r w₂, C.rely i w w₁ → C.inv w₁ → R.answer i o r w₁ w₂ →
      C.guar i w₁ w₂ ∧ C.wp i (k r)
        (fun a w => C.guar i w (R.exit i w) ∧ C.inv (R.exit i w) ∧ post i a (R.exit i w)) w₂

/-- A task that has not started is parked if its program meets its precondition. -/
theorem parked_of_wp {post : ι → α → W → Prop} {i : ι} {o : I.Op} {k : I.Res o → Prog I α} {w : W}
    (hexec : R.exec i o w = none) (hissue : R.issue i o w = w)
    (h : C.wp i (.op o k)
      (fun a w => C.guar i w (R.exit i w) ∧ C.inv (R.exit i w) ∧ post i a (R.exit i w)) w) :
    C.Parked post i (.op o k) w := by
  rw [wp_wait C hexec, hissue] at h
  exact h.2.2

/-- A postcondition that the other tasks cannot break. -/
def Stable (post : ι → α → W → Prop) : Prop :=
  ∀ i a w w', post i a w → C.rely i w w' → post i a w'

theorem Parked.rely {post : ι → α → W → Prop} (hpost : C.Stable post) {i : ι} :
    ∀ {p : Prog I α} {w w' : W}, C.Parked post i p w → C.rely i w w' → C.Parked post i p w'
  | .ret a, w, w', hp, h => hpost i a w w' hp h
  | .never, _, _, _, _ => trivial
  | .op _ _, _, _, hp, h => fun w₁ r w₂ h₁ h₂ h₃ => hp w₁ r w₂ (C.rely_trans h h₁) h₂ h₃

/-- A task that meets its precondition settles in a state that keeps the contract. -/
theorem settle_sound (post : ι → α → W → Prop) {i : ι} :
    ∀ {p : Prog I α} {w : W},
      C.wp i p
        (fun a w => C.guar i w (R.exit i w) ∧ C.inv (R.exit i w) ∧ post i a (R.exit i w)) w →
      C.guar i w (R.settle i p w).2 ∧ C.inv (R.settle i p w).2 ∧
        C.Parked post i (R.settle i p w).1 (R.settle i p w).2
  | .ret _, _, h => h
  | .never, w, h => ⟨C.guar_refl i w, h, trivial⟩
  | .op o k, w, h => by
      rw [Runtime.settle]
      cases he : R.exec i o w with
      | some rw' =>
          obtain ⟨r, w'⟩ := rw'
          rw [wp_exec C he] at h
          have ih := settle_sound post h.2
          exact ⟨C.guar_trans h.1 ih.1, ih.2⟩
      | none =>
          rw [wp_wait C he] at h
          exact h

variable [DecidableEq ι]

/-- **Soundness.**  If every task of the pool is parked under the contract and the invariant
holds, both are true of every state the pool reaches. -/
theorem sound (post : ι → α → W → Prop) (hpost : C.Stable post) {s s' : Pool I ι W α}
    (hinv : C.inv s.world) (htasks : ∀ i, C.Parked post i (s.tasks i) s.world)
    (h : Pool.Reaches R s s') :
    C.inv s'.world ∧ ∀ i, C.Parked post i (s'.tasks i) s'.world := by
  induction h with
  | refl => exact ⟨hinv, htasks⟩
  | tail _ hstep ih =>
      obtain ⟨hinv, htasks⟩ := ih
      cases hstep with
      | env he =>
          exact ⟨C.env_inv he hinv, fun i => (htasks i).rely C hpost (C.env_rely he hinv i)⟩
      | @task i o k r w hi ha =>
          have hp := htasks i
          rw [hi] at hp
          obtain ⟨hguar, hwp⟩ := hp _ r w (C.rely_refl i _) hinv ha
          obtain ⟨hguar', hinv', hparked⟩ := C.settle_sound post hwp
          refine ⟨hinv', fun j => ?_⟩
          by_cases hj : j = i
          · subst hj
            simpa [Pool.resume] using hparked
          · have hrely := C.guar_trans hguar hguar' j hj
            simpa [Pool.resume, hj] using (htasks j).rely C hpost hrely

/-- A task that runs by itself keeps the invariant. -/
theorem sound_launch {i : ι} {p : Prog I α} {a : α} {w : W} {s : Pool I ι W α}
    (hp : C.wp i p (fun _ w => C.guar i w (R.exit i w) ∧ C.inv (R.exit i w) ∧ True) w)
    (h : Pool.Reaches R (.launch R i p a w) s) : C.inv s.world := by
  have hsettle := C.settle_sound (fun _ _ _ => True) hp
  refine (C.sound (fun _ _ _ => True) (fun _ _ _ _ _ _ => trivial) hsettle.2.1 ?_ h).1
  intro j
  by_cases hj : j = i
  · subst hj
    simpa [Pool.launch, Pool.resume] using hsettle.2.2
  · simp [Pool.launch, Pool.resume, hj, Parked]

end Contract

/-! ## Frames -/

/-- No operation touches what `P` speaks of. -/
structure Runtime.Frame (R : Runtime I ι W) (P : W → Prop) : Prop where
  exec : ∀ {i o w r w'}, R.exec i o w = some (r, w') → P w → P w'
  issue : ∀ {i o w}, P w → P (R.issue i o w)
  answer : ∀ {i o r w w'}, R.answer i o r w w' → P w → P w'
  exit : ∀ {i w}, P w → P (R.exit i w)
  env : ∀ {w w'}, R.env w w' → P w → P w'

namespace Runtime.Frame

variable {R : Runtime I ι W} {P : W → Prop}

lemma settle (h : R.Frame P) (i : ι) :
    ∀ (p : Prog I α) (w : W), P w → P (R.settle i p w).2
  | .ret _, _, hw => h.exit hw
  | .never, _, hw => hw
  | .op o k, w, hw => by
      rw [Runtime.settle]
      cases he : R.exec i o w with
      | some rw' => exact h.settle i (k rw'.1) rw'.2 (h.exec he hw)
      | none => exact h.issue hw

/-- **What no operation touches is the same in every state reached.** -/
theorem reaches [DecidableEq ι] (h : R.Frame P) {s s' : Pool I ι W α}
    (hreach : Pool.Reaches R s s') (hs : P s.world) : P s'.world := by
  induction hreach with
  | refl => exact hs
  | tail _ hstep ih =>
      cases hstep with
      | env he => exact h.env he ih
      | task i r _ ha => exact h.settle i _ _ (h.answer ha ih)

end Runtime.Frame

end Coop
