import SpeakrRunpod.Core.Cooperative

/-!
# Programs that are watched

What can be said of a run that has not ended: a rule for every operation that a program asks for,
against an environment that answers it.  A loop that goes on for ever obeys a rule like any other
program.

* `Prog.Asks` — after one particular list of answers the program asks for one operation.
* `Prog.Begins` — a run that need not have ended; `Prog.follow` computes what is left of a program.
* `Prog.Obeys` — every operation that is asked for is allowed, and what is returned is as it should
  be.
* `Async.Obeys` — the same for programs that raise, with one rule for every combinator.
* `Prog.Only`, `Async.Only` — what is asked for is of one kind, whatever the answers are.
-/

namespace Coop

namespace Prog

variable {I : Interface} {α β : Type}

/-- `p.Asks tr o`: answered as in `tr`, the program asks for exactly the operations of `tr`, and
then for `o`. -/
inductive Asks : Prog I α → List (Exchange I) → I.Op → Prop
  | here (o : I.Op) (k : I.Res o → Prog I α) : Asks (.op o k) [] o
  | later {o o' : I.Op} {k : I.Res o → Prog I α} (r : I.Res o) {tr : List (Exchange I)}
      (h : Asks (k r) tr o') : Asks (.op o k) (⟨o, r⟩ :: tr) o'

/-- `p.Begins tr`: answered as in `tr`, the program asks for exactly the operations of `tr`, and may
go on. -/
inductive Begins : Prog I α → List (Exchange I) → Prop
  | here (p : Prog I α) : Begins p []
  | later {o : I.Op} {k : I.Res o → Prog I α} (r : I.Res o) {tr : List (Exchange I)}
      (h : Begins (k r) tr) : Begins (.op o k) (⟨o, r⟩ :: tr)

theorem Runs.begins {p : Prog I α} {tr : List (Exchange I)} {a : α} (h : p.Runs tr a) :
    p.Begins tr := by
  induction h with
  | ret a => exact .here _
  | op r _ ih => exact .later r ih

/-- Answered as in `tr`, the program asks next for an operation, or has returned. -/
def Comes (p : Prog I α) (tr : List (Exchange I)) : Option I.Op → Prop
  | some o => p.Asks tr o
  | none => ∃ a, p.Runs tr a

/-- What is left of a program that is answered as in `tr`; `none` where it asks for something
else. -/
def follow [DecidableEq I.Op] : List (Exchange I) → Prog I α → Option (Prog I α)
  | [], p => some p
  | ⟨o', r⟩ :: tr, .op o k => if h : o' = o then (k (h ▸ r)).follow tr else none
  | _ :: _, _ => none

theorem begins_of_follow [DecidableEq I.Op] :
    ∀ {tr : List (Exchange I)} {p : Prog I α}, (p.follow tr).isSome → p.Begins tr
  | [], p, _ => .here p
  | _ :: _, .ret _, h => absurd h Bool.false_ne_true
  | _ :: _, .never, h => absurd h Bool.false_ne_true
  | ⟨o', r⟩ :: tr, .op o k, h => by
      rw [follow] at h
      split_ifs at h with ho
      · subst ho
        exact .later r (begins_of_follow h)
      · cases h

/-- What a program has returned. -/
def result? : Prog I α → Option α
  | .ret a => some a
  | _ => none

theorem runs_of_follow [DecidableEq I.Op] {a : α} :
    ∀ {tr : List (Exchange I)} {p : Prog I α}, (p.follow tr).bind result? = some a → p.Runs tr a
  | [], .ret b, h => by
      obtain rfl : b = a := Option.some.inj h
      exact .ret b
  | [], .never, h => nomatch h
  | [], .op _ _, h => nomatch h
  | _ :: _, .ret _, h => nomatch h
  | _ :: _, .never, h => nomatch h
  | ⟨o', r⟩ :: tr, .op o k, h => by
      rw [follow] at h
      split_ifs at h with ho
      · subst ho
        exact .op r (runs_of_follow h)
      · cases h

/-- What a program asks for next. -/
def next? : Prog I α → Option I.Op
  | .op o _ => some o
  | _ => none

theorem asks_of_follow [DecidableEq I.Op] {o : I.Op} :
    ∀ {tr : List (Exchange I)} {p : Prog I α}, (p.follow tr).bind next? = some o → p.Asks tr o
  | [], .ret _, h => nomatch h
  | [], .never, h => nomatch h
  | [], .op o' k, h => by
      obtain rfl : o' = o := Option.some.inj h
      exact .here o' k
  | _ :: _, .ret _, h => nomatch h
  | _ :: _, .never, h => nomatch h
  | ⟨o', r⟩ :: tr, .op o k, h => by
      rw [follow] at h
      split_ifs at h with ho
      · subst ho
        exact .later r (asks_of_follow h)
      · cases h

variable {W : Type} {env : W → Exchange I → W → Prop} {rule : W → I.Op → Prop}

/-- Whatever the environment answers, every operation that the program asks for is allowed by
`rule`, and where it returns, `post` holds. -/
def Obeys (env : W → Exchange I → W → Prop) (rule : W → I.Op → Prop) :
    Prog I α → (α → W → Prop) → W → Prop
  | .ret a, post, w => post a w
  | .never, _, _ => True
  | .op o k, post, w => rule w o ∧ ∀ r w', env w ⟨o, r⟩ w' → (k r).Obeys env rule post w'

/-- **What is asked for is allowed.** -/
theorem Obeys.asks {post : α → W → Prop} {p : Prog I α} {w w' : W} {tr : List (Exchange I)}
    {o : I.Op} (h : p.Obeys env rule post w) (hask : p.Asks tr o) (htr : Transcript env w tr w') :
    rule w' o := by
  induction hask generalizing w with
  | here o k =>
      cases htr
      exact h.1
  | later r _ ih =>
      cases htr with
      | cons hx htr => exact ih (h.2 r _ hx) htr

/-- **What is returned is as it should be.** -/
theorem Obeys.runs {post : α → W → Prop} {p : Prog I α} {w w' : W} {tr : List (Exchange I)}
    {a : α} (h : p.Obeys env rule post w) (hrun : p.Runs tr a) (htr : Transcript env w tr w') :
    post a w' := by
  induction hrun generalizing w with
  | ret a =>
      cases htr
      exact h
  | op r _ ih =>
      cases htr with
      | cons hx htr => exact ih (h.2 r _ hx) htr

/-- Against an environment that refuses no answer to what is allowed, whatever a program asks for is
preceded by a transcript, and is allowed after it. -/
theorem Obeys.exists_asks (henv : ∀ w o, rule w o → ∀ r, ∃ w', env w ⟨o, r⟩ w')
    {post : α → W → Prop} {p : Prog I α} {w : W} {tr : List (Exchange I)} {o : I.Op}
    (h : p.Obeys env rule post w) (hask : p.Asks tr o) :
    ∃ w', Transcript env w tr w' ∧ rule w' o := by
  induction hask generalizing w with
  | here o k => exact ⟨w, .nil w, h.1⟩
  | later r _ ih =>
      obtain ⟨w₁, hx⟩ := henv w _ h.1 r
      obtain ⟨w', htr, hrule⟩ := ih (h.2 r w₁ hx)
      exact ⟨w', .cons hx htr, hrule⟩

/-- So is what it returns. -/
theorem Obeys.exists_runs (henv : ∀ w o, rule w o → ∀ r, ∃ w', env w ⟨o, r⟩ w')
    {post : α → W → Prop} {p : Prog I α} {w : W} {tr : List (Exchange I)} {a : α}
    (h : p.Obeys env rule post w) (hrun : p.Runs tr a) :
    ∃ w', Transcript env w tr w' ∧ post a w' := by
  induction hrun generalizing w with
  | ret a => exact ⟨w, .nil w, h⟩
  | op r _ ih =>
      obtain ⟨w₁, hx⟩ := henv w _ h.1 r
      obtain ⟨w', htr, hpost⟩ := ih (h.2 r w₁ hx)
      exact ⟨w', .cons hx htr, hpost⟩

/-- So is what it comes to. -/
theorem Obeys.exists_comes (henv : ∀ w o, rule w o → ∀ r, ∃ w', env w ⟨o, r⟩ w')
    {post : α → W → Prop} {p : Prog I α} {w : W} {tr : List (Exchange I)} {next : Option I.Op}
    (h : p.Obeys env rule post w) (hcomes : p.Comes tr next) :
    ∃ w', Transcript env w tr w' ∧ match next with
      | some o => rule w' o
      | none => ∃ a, post a w' := by
  cases next with
  | some o => exact h.exists_asks henv hcomes
  | none =>
      obtain ⟨a, hrun⟩ := hcomes
      obtain ⟨w', htr, hpost⟩ := h.exists_runs henv hrun
      exact ⟨w', htr, a, hpost⟩

/-- So is what it has been asked so far. -/
theorem Obeys.exists_begins (henv : ∀ w o, rule w o → ∀ r, ∃ w', env w ⟨o, r⟩ w')
    {post : α → W → Prop} {p : Prog I α} {w : W} {tr : List (Exchange I)}
    (h : p.Obeys env rule post w) (hbegins : p.Begins tr) : ∃ w', Transcript env w tr w' := by
  induction hbegins generalizing w with
  | here p => exact ⟨w, .nil w⟩
  | later r _ ih =>
      obtain ⟨w₁, hx⟩ := henv w _ h.1 r
      obtain ⟨w', htr⟩ := ih (h.2 r w₁ hx)
      exact ⟨w', .cons hx htr⟩

theorem Obeys.mono {post post' : α → W → Prop} (himp : ∀ a w, post a w → post' a w) :
    ∀ {p : Prog I α} {w : W}, p.Obeys env rule post w → p.Obeys env rule post' w
  | .ret _, _, h => himp _ _ h
  | .never, _, _ => trivial
  | .op _ _, _, h => ⟨h.1, fun r w' hx => (h.2 r w' hx).mono himp⟩

theorem obeys_bind {f : α → Prog I β} {post : β → W → Prop} :
    ∀ {p : Prog I α} {w : W},
      (p >>= f).Obeys env rule post w ↔
        p.Obeys env rule (fun a w => (f a).Obeys env rule post w) w
  | .ret _, _ => Iff.rfl
  | .never, _ => Iff.rfl
  | .op _ _, _ =>
      and_congr_right fun _ => forall_congr' fun _ => forall_congr' fun _ => forall_congr' fun _ =>
        obeys_bind

/-- A program that obeys a rule among the states `W` obeys one among related states `V`, where what is
allowed there is allowed here, and an answer here is an answer there that keeps the relation. -/
theorem Obeys.simulate {V : Type} {env' : V → Exchange I → V → Prop} {rule' : V → I.Op → Prop}
    (R : W → V → Prop) (hrule : ∀ w v o, R w v → rule w o → rule' v o)
    (henv : ∀ w v o r v', R w v → rule w o → env' v ⟨o, r⟩ v' → ∃ w', env w ⟨o, r⟩ w' ∧ R w' v')
    {post : α → W → Prop} : ∀ {p : Prog I α} {w : W} {v : V}, p.Obeys env rule post w → R w v →
      p.Obeys env' rule' (fun a v => ∃ w, R w v ∧ post a w) v
  | .ret _, w, _, h, hR => ⟨w, hR, h⟩
  | .never, _, _, _, _ => trivial
  | .op o k, w, v, h, hR => by
      refine ⟨hrule w v o hR h.1, fun r v' hx => ?_⟩
      obtain ⟨w', hx', hR'⟩ := henv w v o r v' hR h.1 hx
      exact (h.2 r w' hx').simulate R hrule henv hR'

/-- A program that obeys a rule among the states `W` obeys one among the states `W'` of which these
are a part: what is allowed there is allowed here, and leads to the same states. -/
theorem Obeys.lift {W' : Type} {env' : W' → Exchange I → W' → Prop} {rule' : W' → I.Op → Prop}
    (f : W → W') (hrule : ∀ w o, rule w o → rule' (f w) o)
    (henv : ∀ w o r w', rule w o → env' (f w) ⟨o, r⟩ w' → ∃ w₁, w' = f w₁ ∧ env w ⟨o, r⟩ w₁)
    {post : α → W → Prop} {p : Prog I α} {w : W} (h : p.Obeys env rule post w) :
    p.Obeys env' rule' (fun a w' => ∃ w, w' = f w ∧ post a w) (f w) := by
  refine Obeys.simulate (fun w w' => w' = f w) ?_ ?_ h rfl
  · rintro w _ o rfl ho
    exact hrule w o ho
  · rintro w _ o r w' rfl ho hx
    obtain ⟨w₁, rfl, hx₁⟩ := henv w o r w' ho hx
    exact ⟨w₁, hx₁, rfl⟩

/-! ### Invariants of transcripts -/

/-- A transcript goes on. -/
theorem Transcript.append {w w' w'' : W} {tr tr' : List (Exchange I)}
    (h : Transcript env w tr w') (h' : Transcript env w' tr' w'') :
    Transcript env w (tr ++ tr') w'' := by
  induction h with
  | nil => exact h'
  | cons hx _ ih => exact .cons hx (ih h')

/-- Two environments that answer the same exchanges, side by side. -/
theorem Transcript.both {V : Type} {env' : V → Exchange I → V → Prop} {w w' : W} {v v' : V}
    {tr : List (Exchange I)} (h : Transcript env w tr w') (h' : Transcript env' v tr v') :
    Transcript (fun s x s' => env s.1 x s'.1 ∧ env' s.2 x s'.2) (w, v) tr (w', v') := by
  induction h generalizing v with
  | nil w =>
      cases h'
      exact .nil _
  | cons hx _ ih =>
      cases h' with
      | cons hx' htr' => exact .cons ⟨hx, hx'⟩ (ih htr')

/-- The exchange at an index takes one state to the next. -/
theorem Transcript.at_index {w w' : W} {tr : List (Exchange I)} {x : Exchange I} {i : ℕ}
    (h : Transcript env w tr w') (hx : tr[i]? = some x) : ∃ w₁ w₂,
      Transcript env w (tr.take i) w₁ ∧ env w₁ x w₂ ∧ Transcript env w₂ (tr.drop (i + 1)) w' := by
  induction h generalizing i with
  | nil w => cases hx
  | @cons w w₁ w'' y tr hy htr ih =>
      cases i with
      | zero =>
          obtain rfl := Option.some.inj hx
          exact ⟨w, w₁, .nil w, hy, htr⟩
      | succ i =>
          obtain ⟨w₂, w₃, htake, hstep, hdrop⟩ := ih hx
          exact ⟨w₂, w₃, .cons hy htake, hstep, hdrop⟩

/-- The last exchange of a transcript. -/
theorem Transcript.last {w w' : W} {tr : List (Exchange I)} {x : Exchange I}
    (h : Transcript env w (tr ++ [x]) w') : ∃ w₁, Transcript env w tr w₁ ∧ env w₁ x w' := by
  have hx : (tr ++ [x])[tr.length]? = some x := List.getElem?_concat_length
  obtain ⟨w₁, w₂, htake, hstep, hdrop⟩ := h.at_index hx
  rw [List.take_left] at htake
  rw [List.drop_eq_nil_of_le (by simp)] at hdrop
  cases hdrop
  exact ⟨w₁, htake, hstep⟩

/-- The next exchange of a transcript. -/
theorem Transcript.next {w w' : W} {tr : List (Exchange I)} {i : ℕ}
    (h : Transcript env w (tr.drop i) w') (hi : i < tr.length) :
    ∃ x w₁, tr[i]? = some x ∧ env w x w₁ ∧ Transcript env w₁ (tr.drop (i + 1)) w' := by
  rw [List.drop_eq_getElem_cons hi] at h
  cases h with
  | cons hx htr => exact ⟨_, _, List.getElem?_eq_getElem hi, hx, htr⟩

/-- **The invariant rule**: what holds of the exchanges so far and of the state, at the start and
after each further exchange, holds at the end. -/
theorem Transcript.invariant {w₀ : W} (inv : List (Exchange I) → W → Prop) (hstart : inv [] w₀)
    (hstep : ∀ tr w x w', inv tr w → env w x w' → inv (tr ++ [x]) w') {tr : List (Exchange I)}
    {w : W} (htr : Transcript env w₀ tr w) : inv tr w := by
  suffices h : ∀ {w₁ w₂ : W} {tr₂ : List (Exchange I)}, Transcript env w₁ tr₂ w₂ →
      ∀ tr₁, inv tr₁ w₁ → inv (tr₁ ++ tr₂) w₂ from h htr [] hstart
  intro w₁ w₂ tr₂ htr₂
  induction htr₂ with
  | nil w => exact fun tr₁ h => (List.append_nil tr₁).symm ▸ h
  | @cons w w' w'' x tr₂ hx _ ih =>
      intro tr₁ h
      have h' := ih (tr₁ ++ [x]) (hstep tr₁ w x w' h hx)
      rwa [List.append_assoc] at h'

end Prog

namespace Async

variable {I : Interface} {ε α β W : Type} {env : W → Prog.Exchange I → W → Prop}
  {rule : W → I.Op → Prop} {Q : α → W → Prop} {E : ε → W → Prop} {w : W}

/-- Every operation that the program asks for is allowed; it returns in `Q` or raises in `E`. -/
def Obeys (env : W → Prog.Exchange I → W → Prop) (rule : W → I.Op → Prop) (x : Async I ε α)
    (Q : α → W → Prop) (E : ε → W → Prop) (w : W) : Prop :=
  x.run.Obeys env rule (Contract.outcome Q E) w

theorem obeys_pure {a : α} (h : Q a w) : Obeys env rule (pure a : Async I ε α) Q E w := h

theorem obeys_throw {e : ε} (h : E e w) : Obeys env rule (throw e : Async I ε α) Q E w := h

theorem obeys_ofExcept {r : Except ε α} (h : Contract.outcome Q E r w) :
    Obeys env rule (ofExcept r : Async I ε α) Q E w := by
  cases r <;> exact h

theorem Obeys.mono {x : Async I ε α} {Q' : α → W → Prop} {E' : ε → W → Prop}
    (h : Obeys env rule x Q E w) (hQ : ∀ a w, Q a w → Q' a w) (hE : ∀ e w, E e w → E' e w) :
    Obeys env rule x Q' E' w := by
  refine Prog.Obeys.mono ?_ h
  rintro (e | a) w' h'
  · exact hE e w' h'
  · exact hQ a w' h'

theorem Obeys.lift {W' : Type} {env' : W' → Prog.Exchange I → W' → Prop} {rule' : W' → I.Op → Prop}
    {x : Async I ε α} (f : W → W') (hrule : ∀ w o, rule w o → rule' (f w) o)
    (henv : ∀ w o r w', rule w o → env' (f w) ⟨o, r⟩ w' → ∃ w₁, w' = f w₁ ∧ env w ⟨o, r⟩ w₁)
    (h : Obeys env rule x Q E w) :
    Obeys env' rule' x (fun a w' => ∃ w, w' = f w ∧ Q a w) (fun e w' => ∃ w, w' = f w ∧ E e w)
      (f w) := by
  refine Prog.Obeys.mono ?_ (Prog.Obeys.lift f hrule henv h)
  rintro (e | a) w' h'
  · exact h'
  · exact h'

theorem Obeys.simulate {V : Type} {env' : V → Prog.Exchange I → V → Prop} {rule' : V → I.Op → Prop}
    {x : Async I ε α} {v : V} (R : W → V → Prop) (hrule : ∀ w v o, R w v → rule w o → rule' v o)
    (henv : ∀ w v o r v', R w v → rule w o → env' v ⟨o, r⟩ v' → ∃ w', env w ⟨o, r⟩ w' ∧ R w' v')
    (h : Obeys env rule x Q E w) (hR : R w v) :
    Obeys env' rule' x (fun a v => ∃ w, R w v ∧ Q a w) (fun e v => ∃ w, R w v ∧ E e w) v := by
  refine Prog.Obeys.mono ?_ (Prog.Obeys.simulate R hrule henv h hR)
  rintro (e | a) v' h'
  · exact h'
  · exact h'

theorem obeys_bind {x : Async I ε α} {f : α → Async I ε β} {Q : β → W → Prop}
    (h : Obeys env rule x (fun a => Obeys env rule (f a) Q E) E w) :
    Obeys env rule (x >>= f) Q E w := by
  refine Prog.obeys_bind.mpr (Prog.Obeys.mono ?_ h)
  rintro (e | a) w' h'
  · exact h'
  · exact h'

/-- The handler receives what the body raised. -/
theorem obeys_attempt {x : Async I ε α} {Q : Except ε α → W → Prop}
    (h : Obeys env rule x (fun a => Q (.ok a)) (fun e => Q (.error e)) w) :
    Obeys env rule (attempt x) Q E w := by
  refine Prog.obeys_bind.mpr (Prog.Obeys.mono ?_ h)
  rintro (e | a) w' h'
  · exact h'
  · exact h'

/-- The last part sees what the body came to. -/
theorem obeys_tryFinally {x : Async I ε α} {fin : Async I ε Unit}
    (h : Obeys env rule x (fun a => Obeys env rule fin (fun _ => Q a) E)
      (fun e => Obeys env rule fin (fun _ => E e) E) w) :
    Obeys env rule (tryFinally x fin) Q E w := by
  refine Prog.obeys_bind.mpr (Prog.Obeys.mono ?_ h)
  rintro (e | a) w' h' <;> refine Prog.obeys_bind.mpr (Prog.Obeys.mono ?_ h') <;>
    rintro (e' | ⟨⟩) w'' h'' <;> exact h''

/-- **A loop**, with an invariant of its state; the bound on the rounds plays no part. -/
theorem obeys_loop {σ : Type} {body : σ → Async I ε (σ ⊕ α)} (L : σ → W → Prop)
    (hbody : ∀ s w, L s w → Obeys env rule (body s) (Contract.turn L Q) E w) :
    ∀ (n : ℕ) (s : σ) (w : W), L s w → Obeys env rule (loop body n s) Q E w := by
  intro n
  induction n with
  | zero => exact fun _ _ _ => trivial
  | succ n ih =>
      intro s w hs
      rw [loop_succ]
      refine obeys_bind ((hbody s w hs).mono ?_ fun _ _ h => h)
      rintro (s' | a) w' h'
      · exact ih s' w' h'
      · exact obeys_pure h'

end Async

/-! ## Programs that ask for one kind of operations -/

namespace Prog

variable {I J : Interface} {α β : Type} {kind : I.Op → Prop}

/-- Whatever the answers are, every operation that is asked for is of this kind. -/
def Only (kind : I.Op → Prop) : Prog I α → Prop
  | .ret _ => True
  | .never => True
  | .op o k => kind o ∧ ∀ r, (k r).Only kind

theorem only_bind {f : α → Prog I β} (hf : ∀ a, (f a).Only kind) :
    ∀ {p : Prog I α}, p.Only kind → (p >>= f).Only kind
  | .ret a, _ => hf a
  | .never, _ => trivial
  | .op _ _, h => ⟨h.1, fun r => only_bind hf (h.2 r)⟩

theorem Only.mono {kind' : I.Op → Prop} (himp : ∀ o, kind o → kind' o) :
    ∀ {p : Prog I α}, p.Only kind → p.Only kind'
  | .ret _, _ => trivial
  | .never, _ => trivial
  | .op _ _, h => ⟨himp _ h.1, fun r => (h.2 r).mono himp⟩

/-- **What is asked for is of the kind.** -/
theorem Only.asks {p : Prog I α} {tr : List (Exchange I)} {o : I.Op} (h : p.Only kind)
    (hask : p.Asks tr o) : kind o := by
  induction hask with
  | here o k => exact h.1
  | later r _ ih => exact ih (h.2 r)

/-- So is what was asked for in a run. -/
theorem Only.runs {p : Prog I α} {tr : List (Exchange I)} {a : α} (h : p.Only kind)
    (hrun : p.Runs tr a) : ∀ x ∈ tr, kind x.1 := by
  induction hrun with
  | ret a => exact nofun
  | op r _ ih =>
      intro x hx
      rcases List.mem_cons.mp hx with rfl | hx
      · exact h.1
      · exact ih (h.2 r) x hx

end Prog

namespace Async

variable {I : Interface} {ε α β : Type} {kind : I.Op → Prop}

/-- Whatever the answers are, every operation that is asked for is of this kind. -/
def Only (kind : I.Op → Prop) (x : Async I ε α) : Prop := x.run.Only kind

theorem only_pure (a : α) : Only kind (pure a : Async I ε α) := trivial

theorem only_throw (e : ε) : Only kind (throw e : Async I ε α) := trivial

theorem only_call {o : I.Op} (h : kind o) : Only kind (call o : Async I ε (I.Res o)) :=
  ⟨h, fun _ => trivial⟩

theorem only_ofExcept (r : Except ε α) : Only kind (ofExcept r : Async I ε α) := by
  cases r <;> trivial

theorem only_bind {x : Async I ε α} {f : α → Async I ε β} (hx : Only kind x)
    (hf : ∀ a, Only kind (f a)) : Only kind (x >>= f) := by
  refine Prog.only_bind ?_ hx
  rintro (e | a)
  · exact trivial
  · exact hf a

theorem only_attempt {x : Async I ε α} (hx : Only kind x) : Only kind (attempt x) := by
  refine Prog.only_bind ?_ hx
  exact fun _ => trivial

theorem only_tryFinally {x : Async I ε α} {fin : Async I ε Unit} (hx : Only kind x)
    (hfin : Only kind fin) : Only kind (tryFinally x fin) := by
  refine Prog.only_bind (fun r => Prog.only_bind ?_ hfin) hx
  rintro (e | ⟨⟩) <;> trivial

theorem only_foldlM {f : β → α → Async I ε β} (hf : ∀ b a, Only kind (f b a)) :
    ∀ (l : List α) (b : β), Only kind (l.foldlM f b)
  | [], b => only_pure b
  | a :: l, b => by
      rw [List.foldlM_cons]
      exact only_bind (hf b a) (only_foldlM hf l)

end Async

end Coop
