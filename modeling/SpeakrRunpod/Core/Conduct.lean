import SpeakrRunpod.Core.Monitor

/-!
# What a pool of tasks asks for

What a program asks for is a matter of the program and of the answers that it gets.  Where every
answer of a runtime is of some kind, a program that does not go beyond a rule under such answers does
not go beyond it among other tasks either.

* `Prog.Abides` — under answers of one kind, nothing is asked for but what is allowed.
* `Pool.Reaches.abides` — **a pool of such programs** stays one in every state it reaches.
-/

namespace Coop

variable {I : Interface} {ι W α : Type}

namespace Prog

/-- Whatever of this kind it is answered, the program asks for nothing but what is allowed. -/
def Abides (good : Exchange I → Prop) (rule : I.Op → Prop) : Prog I α → Prop
  | .ret _ => True
  | .never => True
  | .op o k => rule o ∧ ∀ r, good ⟨o, r⟩ → (k r).Abides good rule

variable {good : Exchange I → Prop} {rule : I.Op → Prop}

/-- The rules of `Obeys`, where there is no state to speak of, say the same. -/
theorem Obeys.abides {post : α → Unit → Prop} : ∀ {p : Prog I α},
    p.Obeys (fun _ x _ => good x) (fun _ o => rule o) post () → p.Abides good rule
  | .ret _, _ => trivial
  | .never, _ => trivial
  | .op _ _, h => ⟨h.1, fun r hr => Obeys.abides (h.2 r () hr)⟩

end Prog

variable {good : Prog.Exchange I → Prop} {rule : I.Op → Prop} {R : Runtime I ι W} {P : W → Prop}

/-- The synchronous operations are answered in the same way. -/
theorem Runtime.Frame.settle_abides (hframe : R.Frame P)
    (hexec : ∀ {i o w r w'}, R.exec i o w = some (r, w') → P w → good ⟨o, r⟩) (i : ι) :
    ∀ {p : Prog I α} {w : W}, P w → p.Abides good rule → (R.settle i p w).1.Abides good rule
  | .ret _, _, _, _ => trivial
  | .never, _, _, _ => trivial
  | .op o k, w, hw, hp => by
      rw [Runtime.settle]
      cases he : R.exec i o w with
      | some rw' =>
          exact hframe.settle_abides hexec i (hframe.exec he hw) (hp.2 rw'.1 (hexec he hw))
      | none => exact hp

/-- **What a pool asks for.**  Where `P` holds in every state, and every answer given in such a state
is of one kind, the programs abide by their rule in every state reached. -/
theorem Pool.Reaches.abides [DecidableEq ι] (hframe : R.Frame P)
    (hexec : ∀ {i o w r w'}, R.exec i o w = some (r, w') → P w → good ⟨o, r⟩)
    (hanswer : ∀ {i o r w w'}, R.answer i o r w w' → P w → good ⟨o, r⟩)
    {s s' : Pool I ι W α} (h : Pool.Reaches R s s') (hs : P s.world)
    (htasks : ∀ i, (s.tasks i).Abides good rule) : ∀ i, (s'.tasks i).Abides good rule := by
  induction h with
  | refl => exact htasks
  | @tail s' _ hreach hstep ih =>
      have hworld : P s'.world := hframe.reaches hreach hs
      cases hstep with
      | env _ => exact ih
      | @task i o k r w hi ha =>
          have hp := ih i
          rw [hi] at hp
          intro j
          by_cases hj : j = i
          · subst hj
            simpa [Pool.resume] using
              hframe.settle_abides hexec j (hframe.answer ha hworld) (hp.2 r (hanswer ha hworld))
          · simpa [Pool.resume, hj] using ih j

end Coop
