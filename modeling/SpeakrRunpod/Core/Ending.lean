import SpeakrRunpod.Core.Monitor

/-!
# Programs that end

`Prog.Obeys` says nothing of a program that goes on for ever; `Prog.Ensures` says that it does not.
The step from one to the other is made where a program has no loop, and by the rule for a loop whose
every further round uses up one of those that are left.

* `Prog.Obeys.ensures` — a program that halts ensures what it obeys.
* `Async.Ends` — a raising program ends, in one postcondition or the other, with one rule for every
  combinator.
* `Async.ends_loop` — the rule for a loop.
-/

namespace Coop

namespace Prog

variable {I : Interface} {α β W : Type} {env : W → Exchange I → W → Prop} {rule : W → I.Op → Prop}

/-- **A program that halts** ensures what it obeys. -/
theorem Obeys.ensures {post : α → W → Prop} : ∀ {p : Prog I α} {w : W},
    p.Obeys env rule post w → p.Halts → p.Ensures env post w
  | .ret _, _, h, _ => h
  | .op _ _, _, h, hhalts => fun r w' hx => (h.2 r w' hx).ensures (hhalts r)

theorem halts_bind {f : α → Prog I β} (hf : ∀ a, (f a).Halts) :
    ∀ {p : Prog I α}, p.Halts → (p >>= f).Halts
  | .ret a, _ => hf a
  | .op _ _, h => fun r => halts_bind hf (h r)

end Prog

namespace Async

variable {I : Interface} {ε α β W : Type} {env : W → Prog.Exchange I → W → Prop}
  {Q : α → W → Prop} {E : ε → W → Prop} {w : W}

/-! ## Halting -/

lemma halts_call (o : I.Op) : (call o : Async I ε (I.Res o)).run.Halts := fun _ => trivial

lemma halts_ofExcept (r : Except ε α) : (ofExcept r : Async I ε α).run.Halts := by
  cases r <;> trivial

lemma halts_bind {x : Async I ε α} {f : α → Async I ε β} (hx : x.run.Halts)
    (hf : ∀ a, (f a).run.Halts) : (x >>= f).run.Halts := by
  refine Prog.halts_bind ?_ hx
  rintro (e | a)
  · trivial
  · exact hf a

lemma halts_attempt {x : Async I ε α} (hx : x.run.Halts) : (attempt x).run.Halts := by
  refine Prog.halts_bind ?_ hx
  exact fun r => trivial

lemma halts_tryFinally {x : Async I ε α} {fin : Async I ε Unit} (hx : x.run.Halts)
    (hfin : fin.run.Halts) : (tryFinally x fin).run.Halts := by
  refine Prog.halts_bind (fun r => Prog.halts_bind ?_ hfin) hx
  rintro (e | ⟨⟩) <;> trivial

/-! ## Ending in an environment -/

/-- Whatever the environment answers, the program returns in `Q` or raises in `E`. -/
def Ends (env : W → Prog.Exchange I → W → Prop) (x : Async I ε α) (Q : α → W → Prop)
    (E : ε → W → Prop) (w : W) : Prop := Ensures env x (Contract.outcome Q E) w

theorem ends_pure {a : α} (h : Q a w) : Ends env (pure a : Async I ε α) Q E w := h

theorem ends_throw {e : ε} (h : E e w) : Ends env (throw e : Async I ε α) Q E w := h

theorem ends_ofExcept {r : Except ε α} (h : Contract.outcome Q E r w) :
    Ends env (ofExcept r : Async I ε α) Q E w := ensures_ofExcept h

theorem Ends.mono {x : Async I ε α} {Q' : α → W → Prop} {E' : ε → W → Prop}
    (h : Ends env x Q E w) (hQ : ∀ a w, Q a w → Q' a w) (hE : ∀ e w, E e w → E' e w) :
    Ends env x Q' E' w := by
  refine Ensures.mono h ?_
  rintro (e | a) w' h'
  · exact hE e w' h'
  · exact hQ a w' h'

/-- A program without a loop ends as it obeys. -/
theorem ends_of_obeys {x : Async I ε α} (hhalts : x.run.Halts)
    (h : Obeys env (fun _ _ => True) x Q E w) : Ends env x Q E w := Prog.Obeys.ensures h hhalts

theorem ends_bind {x : Async I ε α} {f : α → Async I ε β} {Q : β → W → Prop}
    (h : Ends env x (fun a => Ends env (f a) Q E) E w) : Ends env (x >>= f) Q E w := by
  refine ensures_bind (Ensures.mono h ?_)
  rintro (e | a) w' h'
  · exact h'
  · exact h'

/-- The handler receives what the body raised. -/
theorem ends_attempt {x : Async I ε α} {Q : Except ε α → W → Prop}
    (h : Ends env x (fun a => Q (.ok a)) (fun e => Q (.error e)) w) :
    Ends env (attempt x) Q E w := by
  refine ensures_attempt (Ensures.mono h ?_)
  rintro (e | a) w' h'
  · exact h'
  · exact h'

/-- The last part sees what the body came to. -/
theorem ends_tryFinally {x : Async I ε α} {fin : Async I ε Unit}
    (h : Ends env x (fun a => Ends env fin (fun _ => Q a) E)
      (fun e => Ends env fin (fun _ => E e) E) w) : Ends env (tryFinally x fin) Q E w := by
  refine ensures_tryFinally (Ensures.mono h ?_)
  rintro (e | a) w' h' <;> refine Ensures.mono h' ?_ <;> rintro (e' | ⟨⟩) w'' h'' <;> exact h''

/-- **A loop ends** where `L n` holds at its head with `n` rounds left: a round that goes on uses
one up, and there is always one left. -/
theorem ends_loop {σ : Type} {body : σ → Async I ε (σ ⊕ α)} (L : ℕ → σ → W → Prop)
    (hleft : ∀ s w, ¬ L 0 s w)
    (hbody : ∀ n s w, L (n + 1) s w → Ends env (body s) (Contract.turn (L n) Q) E w) :
    ∀ (n : ℕ) (s : σ) (w : W), L n s w → Ends env (loop body n s) Q E w := by
  intro n
  induction n with
  | zero => exact fun s w h => absurd h (hleft s w)
  | succ n ih =>
      intro s w h
      rw [loop_succ]
      refine ends_bind ((hbody n s w h).mono ?_ fun _ _ he => he)
      rintro (s' | a) w' h'
      · exact ih s' w' h'
      · exact ends_pure h'

end Async

end Coop
