import Mathlib

/-! Computations that stop at their first error: what follows from a success. -/

namespace Foundation
variable {ε α β σ : Type}
variable {as : List α} {u : Unit} {f : α → Except ε Bool} {P : α → Prop} {b : Bool}

def ensure (p : Prop) [Decidable p] (error : ε) : Except ε Unit :=
  if p then .ok () else .error error

lemma bind_eq_ok {x : Except ε α} {f : α → Except ε β} {b : β} :
    x >>= f = .ok b ↔ ∃ a, x = .ok a ∧ f a = .ok b := by
  cases x with
  | error e => exact ⟨fun h => (nomatch h), fun ⟨_, h, _⟩ => (nomatch h)⟩
  | ok a => exact ⟨fun h => ⟨a, rfl, h⟩, fun ⟨_, h, hf⟩ => Except.ok.inj h ▸ hf⟩

lemma ensure_eq_ok {p : Prop} [Decidable p] {error : ε} : ensure p error = .ok u ↔ p := by
  unfold ensure
  split_ifs with h
  · exact ⟨fun _ => h, fun _ => rfl⟩
  · exact ⟨fun he => (nomatch he), fun hp => absurd hp h⟩

lemma exists_unit {p : Unit → Prop} : (∃ u, p u) ↔ p () := ⟨fun ⟨_, h⟩ => h, fun h => ⟨(), h⟩⟩

lemma forM_eq_ok {f : α → Except ε Unit} : as.forM f = .ok u ↔ ∀ a ∈ as, f a = .ok () := by
  induction as with
  | nil => exact ⟨fun _ a ha => (nomatch ha), fun _ => rfl⟩
  | cons a as ih =>
    rw [List.forall_mem_cons, ← ih]
    change (f a >>= fun _ => as.forM f) = .ok u ↔ _
    rw [bind_eq_ok]
    exact ⟨fun ⟨_, ha, has⟩ => ⟨ha, has⟩, fun ⟨ha, has⟩ => ⟨(), ha, has⟩⟩

theorem allM_eq_ok (hf : ∀ a ∈ as, ∀ b, f a = .ok b → (b = true ↔ P a)) (h : as.allM f = .ok b) :
    b = true ↔ ∀ a ∈ as, P a := by
  induction as with
  | nil =>
    cases h
    simp
  | cons a as ih =>
    obtain ⟨ha, has⟩ := List.forall_mem_cons.mp hf
    rw [List.allM, bind_eq_ok] at h
    obtain ⟨first, hfirst, hrest⟩ := h
    rw [List.forall_mem_cons, ← ha first hfirst]
    cases first with
    | true => simpa using ih has hrest
    | false =>
      cases hrest
      simp

lemma anyM_eq_ok (hf : ∀ a ∈ as, ∀ b, f a = .ok b → (b = true ↔ P a)) (h : as.anyM f = .ok b) :
    b = true ↔ ∃ a ∈ as, P a := by
  induction as with
  | nil =>
    cases h
    simp
  | cons a as ih =>
    obtain ⟨ha, has⟩ := List.forall_mem_cons.mp hf
    rw [List.anyM, bind_eq_ok] at h
    obtain ⟨first, hfirst, hrest⟩ := h
    rw [List.exists_mem_cons_iff, ← ha first hfirst]
    cases first with
    | false => simpa using ih has hrest
    | true =>
      cases hrest
      simp

lemma foldlM_invariant {f : σ → α → Except ε σ} {Inv : List α → σ → Prop}
    (hstep : ∀ done s a t, Inv done s → f s a = .ok t → Inv (done ++ [a]) t) {done : List α}
    {s t : σ} (hs : Inv done s) (hrun : as.foldlM f s = .ok t) : Inv (done ++ as) t := by
  induction as generalizing done s with
  | nil =>
    rw [List.append_nil, ← Except.ok.inj hrun]
    exact hs
  | cons a as ih =>
    rw [List.foldlM_cons, bind_eq_ok] at hrun
    obtain ⟨u, hu, hrest⟩ := hrun
    have hdone := ih (hstep done s a u hs hu) hrest
    rwa [List.append_assoc, List.singleton_append] at hdone

/-- An early end is as `X` says, an end in due course as `Q` says. -/
def Ends (X : ε → Prop) (Q : α → Prop) : Except ε α → Prop
  | .error e => X e
  | .ok a => Q a

variable {X : ε → Prop}

lemma Ends.bind {Q : α → Prop} {R : β → Prop} {x : Except ε α} {f : α → Except ε β}
    (hx : Ends X Q x) (hf : ∀ a, Q a → Ends X R (f a)) : Ends X R (x >>= f) := by
  cases x with
  | error e => exact hx
  | ok a => exact hf a hx

/-- The rule for a loop over a list, with an invariant that knows what is left of the list. -/
theorem foldlM_ends {f : σ → α → Except ε σ} {Inv : List α → σ → Prop}
    (hstep : ∀ a rest s, Inv (a :: rest) s → Ends X (Inv rest) (f s a)) {s : σ} (hs : Inv as s) :
    Ends X (Inv []) (as.foldlM f s) := by
  induction as generalizing s with
  | nil => exact hs
  | cons a as ih =>
    rw [List.foldlM_cons]
    exact (hstep a as s hs).bind (fun _ ht => ih ht)

end Foundation
