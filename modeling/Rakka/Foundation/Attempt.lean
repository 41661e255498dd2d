import Mathlib

/-! Computations that change a state and may fail. A failure keeps the state reached so
far, as a method that mutates its receiver and returns early does. -/

namespace Foundation

def Attempt (ε σ α : Type) : Type := σ → Except ε α × σ

namespace Attempt
variable {ε σ α β : Type}
variable {x : Attempt ε σ α} {R : σ → σ → Prop} {f : α → Attempt ε σ β} {P Q : σ → Prop}

instance : Monad (Attempt ε σ) where
  pure a := fun s => (.ok a, s)
  bind x f := fun s =>
    match x s with
    | (.error e, s') => (.error e, s')
    | (.ok a, s') => f a s'

def get : Attempt ε σ σ := fun s => (.ok s, s)

def modify (f : σ → σ) : Attempt ε σ Unit := fun s => (.ok (), f s)

def fail (e : ε) : Attempt ε σ α := fun s => (.error e, s)

lemma bind_apply (x : Attempt ε σ α) (f : α → Attempt ε σ β) (s : σ) :
    (x >>= f) s = match x s with
      | (.error e, s') => (.error e, s')
      | (.ok a, s') => f a s' := rfl

lemma bind_of_ok {s s' : σ} {a : α} (h : x s = (.ok a, s')) : (x >>= f) s = f a s' := by
  rw [bind_apply, h]

lemma bind_of_error {s s' : σ} {e : ε} (h : x s = (.error e, s')) :
    (x >>= f) s = (.error e, s') := by
  rw [bind_apply, h]

@[simp] lemma get_bind (f : σ → Attempt ε σ β) (s : σ) : (get >>= f) s = f s s := rfl

@[simp] lemma modify_bind (g : σ → σ) (f : Unit → Attempt ε σ β) (s : σ) :
    (modify g >>= f) s = f () (g s) := rfl

lemma bind_cases (x : Attempt ε σ α) (f : α → Attempt ε σ β) (s : σ) :
    (∃ e s', x s = (.error e, s') ∧ (x >>= f) s = (.error e, s')) ∨
      ∃ a s', x s = (.ok a, s') ∧ (x >>= f) s = f a s' := by
  cases h : x s with
  | mk answer s' =>
    cases answer with
    | error e => exact .inl ⟨e, s', rfl, bind_of_error h⟩
    | ok a => exact .inr ⟨a, s', rfl, bind_of_ok h⟩

lemma bind_pure_state (x : Attempt ε σ α) (b : β) (s : σ) :
    ((x >>= fun _ => pure b) s).2 = (x s).2 := by
  rcases bind_cases x (fun _ => (pure b : Attempt ε σ β)) s with ⟨e, s', hx, h⟩ | ⟨a, s', hx, h⟩
  · rw [h, hx]
  · rw [h, hx]
    rfl

/-- Every outcome, successful or not, relates the state before to the state after. -/
def Keeps (R : σ → σ → Prop) (x : Attempt ε σ α) : Prop := ∀ s, R s (x s).2

def FailsWith (P : ε → Prop) (x : Attempt ε σ α) : Prop := ∀ s e, (x s).1 = .error e → P e

lemma keeps_pure (hrefl : ∀ s, R s s) (a : α) : Keeps R (pure a : Attempt ε σ α) := hrefl

lemma keeps_get (hrefl : ∀ s, R s s) : Keeps R (get : Attempt ε σ σ) := hrefl

lemma keeps_modify {g : σ → σ} (hg : ∀ s, R s (g s)) : Keeps R (modify g : Attempt ε σ Unit) := hg

lemma keeps_fail (hrefl : ∀ s, R s s) (e : ε) : Keeps R (fail e : Attempt ε σ α) := hrefl

lemma Keeps.bind_of_comp {S : σ → σ → Prop} (hfine : ∀ a b, R a b → S a b)
    (hcomp : ∀ a b c, R a b → S b c → S a c) (hx : Keeps R x) (hf : ∀ a, Keeps S (f a)) :
    Keeps S (x >>= f) := by
  intro s
  have h₁ := hx s
  rcases bind_cases x f s with ⟨e, s', hxs, hs⟩ | ⟨a, s', hxs, hs⟩
  · rw [hs]
    rw [hxs] at h₁
    exact hfine _ _ h₁
  · rw [hs]
    rw [hxs] at h₁
    exact hcomp _ _ _ h₁ (hf a s')

lemma Keeps.bind (htrans : ∀ a b c, R a b → R b c → R a c) (hx : Keeps R x)
    (hf : ∀ a, Keeps R (f a)) : Keeps R (x >>= f) :=
  hx.bind_of_comp (fun _ _ h => h) htrans hf

lemma failsWith_pure (P : ε → Prop) (a : α) : FailsWith P (pure a : Attempt ε σ α) :=
  fun _ _ h => nomatch h

lemma failsWith_get (P : ε → Prop) : FailsWith P (get : Attempt ε σ σ) := fun _ _ h => nomatch h

lemma failsWith_modify (P : ε → Prop) (g : σ → σ) : FailsWith P (modify g : Attempt ε σ Unit) :=
  fun _ _ h => nomatch h

lemma FailsWith.bind {P : ε → Prop} (hx : FailsWith P x) (hf : ∀ a, FailsWith P (f a)) :
    FailsWith P (x >>= f) := by
  intro s e he
  rcases bind_cases x f s with ⟨e', s', hxs, hs⟩ | ⟨a, s', hxs, hs⟩
  · rw [hs] at he
    cases he
    exact hx s e (by rw [hxs])
  · rw [hs] at he
    exact hf a s' e he

/-- From a state that meets `P`, a success ends in a state that meets `Q`. -/
def Ensures (P : σ → Prop) (x : Attempt ε σ α) (Q : σ → Prop) : Prop :=
  ∀ s a t, P s → x s = (.ok a, t) → Q t

lemma ensures_pure (P : σ → Prop) (a : α) : Ensures P (pure a : Attempt ε σ α) P := by
  intro s b t hs h
  cases h
  exact hs

lemma ensures_modify {g : σ → σ} (hg : ∀ s, P s → Q (g s)) :
    Ensures P (modify g : Attempt ε σ Unit) Q := by
  intro s a t hs h
  cases h
  exact hg s hs

lemma Ensures.bind {R : σ → Prop} (hx : Ensures P x Q) (hf : ∀ a, Ensures Q (f a) R) :
    Ensures P (x >>= f) R := by
  intro s b t hs h
  rcases bind_cases x f s with ⟨e, s', hxs, hs'⟩ | ⟨a, s', hxs, hs'⟩
  · cases hs'.symm.trans h
  · exact hf a s' b t (hx s a s' hs hxs) (hs'.symm.trans h)

lemma Ensures.get_bind {f : σ → Attempt ε σ β} (hf : ∀ s, P s → ∀ b t, f s s = (.ok b, t) → Q t) :
    Ensures P (get >>= f) Q :=
  fun s b t hs h => hf s hs b t h

lemma Keeps.ensures (hx : Keeps R x) (hR : ∀ s t, R s t → P s → Q t) : Ensures P x Q := by
  intro s a t hs h
  have hst := hx s
  rw [h] at hst
  exact hR s t hst hs

end Attempt
end Foundation
