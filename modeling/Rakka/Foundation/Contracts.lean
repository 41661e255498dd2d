import Rakka.Foundation.Attempt

/-! Contracts of computations that may fail: a precondition, a postcondition for success and one
for failure. A contract is kept within a budget, a condition that is never regained once it is
lost, so that holding at the end it held all along. -/

namespace Foundation
namespace Attempt
variable {ε σ α β : Type}

def Outcome (Q : α → σ → Prop) (X : ε → σ → Prop) : Except ε α × σ → Prop
  | (.ok a, t) => Q a t
  | (.error e, t) => X e t

structure Contract (B : σ → Prop) (P : σ → Prop) (x : Attempt ε σ α) (Q : α → σ → Prop)
    (X : ε → σ → Prop) : Prop where
  back : ∀ s, B (x s).2 → B s
  post : ∀ s, B (x s).2 → P s → Outcome Q X (x s)

namespace Contract
variable {B P P' : σ → Prop} {Q Q' : α → σ → Prop} {X X' : ε → σ → Prop}
variable {x : Attempt ε σ α} {R : β → σ → Prop}

lemma of_iff (hB : ∀ s, B (x s).2 ↔ B s) (h : ∀ s, B s → P s → Outcome Q X (x s)) :
    Contract B P x Q X :=
  ⟨fun s => (hB s).mp, fun s hs => h s ((hB s).mp hs)⟩

lemma conseq (h : Contract B P x Q X) (hP : ∀ s, B s → P' s → P s)
    (hQ : ∀ a t, B t → Q a t → Q' a t) (hX : ∀ e t, B t → X e t → X' e t) :
    Contract B P' x Q' X' := by
  refine ⟨h.back, fun s hs hpre => ?_⟩
  have hout := h.post s hs (hP s (h.back s hs) hpre)
  generalize x s = out at hs hout
  obtain ⟨answer, t⟩ := out
  cases answer with
  | ok a => exact hQ a t hs hout
  | error e => exact hX e t hs hout

lemma pre (h : Contract B P x Q X) (hP : ∀ s, B s → P' s → P s) : Contract B P' x Q X :=
  h.conseq hP (fun _ _ _ h => h) (fun _ _ _ h => h)

lemma weaken (h : Contract B P x Q X) (hQ : ∀ a t, B t → Q a t → Q' a t) : Contract B P x Q' X :=
  h.conseq (fun _ _ h => h) hQ (fun _ _ _ h => h)

lemma pure (a : α) (h : ∀ s, B s → P s → Q a s) : Contract B P (Pure.pure a : Attempt ε σ α) Q X :=
  of_iff (fun _ => Iff.rfl) h

lemma fail (e : ε) (h : ∀ s, B s → P s → X e s) :
    Contract B P (Attempt.fail e : Attempt ε σ α) Q X :=
  of_iff (fun _ => Iff.rfl) h

lemma modify {g : σ → σ} {R : Unit → σ → Prop} (hB : ∀ s, B (g s) ↔ B s)
    (h : ∀ s, B s → P s → R () (g s)) : Contract B P (Attempt.modify g : Attempt ε σ Unit) R X :=
  of_iff hB h

lemma bind {f : α → Attempt ε σ β} (hx : Contract B P x Q X)
    (hf : ∀ a, Contract B (Q a) (f a) R X) : Contract B P (x >>= f) R X := by
  refine ⟨fun s hs => ?_, fun s hs hpre => ?_⟩
  · rcases bind_cases x f s with ⟨e, s', hxs, h⟩ | ⟨a, s', hxs, h⟩
    · rw [h] at hs
      exact hx.back s (by rwa [hxs])
    · rw [h] at hs
      exact hx.back s (by rw [hxs]; exact (hf a).back s' hs)
  · rcases bind_cases x f s with ⟨e, s', hxs, h⟩ | ⟨a, s', hxs, h⟩
    · rw [h] at hs ⊢
      have hout := hx.post s (by rwa [hxs]) hpre
      rwa [hxs] at hout
    · rw [h] at hs ⊢
      have hB : B s' := (hf a).back s' hs
      have hout := hx.post s (by rwa [hxs]) hpre
      rw [hxs] at hout
      exact (hf a).post s' hs hout

lemma get_bind {f : σ → Attempt ε σ β} (hf : ∀ a, Contract B (fun s => a = s ∧ P s) (f a) R X) :
    Contract B P (Attempt.get >>= f) R X :=
  ⟨fun s hs => (hf s).back s hs, fun s hs hpre => (hf s).post s hs ⟨rfl, hpre⟩⟩

end Contract
end Attempt
end Foundation
