import Mathlib

/-! Finite runs of a machine whose step may be disabled, the runs in which every
step meets a condition, and the invariant rule for them. What holds of a log is kept
when one entry is added to it. -/

namespace Foundation
variable {σ α : Type*} (step : σ → α → Option σ)

def runFrom : σ → List α → Option σ
  | s, [] => some s
  | s, a :: as => (step s a).bind (fun t => runFrom t as)

/-- Every step taken along the run starts in a state that meets `C`. -/
def StepsMeet (C : σ → α → Prop) : σ → List α → Prop
  | _, [] => True
  | s, a :: as => C s a ∧ ∀ t, step s a = some t → StepsMeet C t as

instance decidableStepsMeet (C : σ → α → Prop) [∀ s a, Decidable (C s a)] :
    ∀ s as, Decidable (StepsMeet step C s as)
  | _, [] => isTrue trivial
  | s, a :: as =>
    have : ∀ t, Decidable (StepsMeet step C t as) := fun t => decidableStepsMeet C t as
    inferInstanceAs (Decidable (C s a ∧ ∀ t, step s a = some t → StepsMeet step C t as))

lemma runFrom_append (s : σ) (as bs : List α) :
    runFrom step s (as ++ bs) = (runFrom step s as).bind (fun t => runFrom step t bs) := by
  induction as generalizing s with
  | nil => rfl
  | cons a as ih => simp only [List.cons_append, runFrom, Option.bind_assoc, ih]

lemma runFrom_invariant_of_meets {C : σ → α → Prop} {Inv : σ → Prop}
    (hstep : ∀ s a t, Inv s → C s a → step s a = some t → Inv t) {s t : σ} {as : List α}
    (hs : Inv s) (hC : StepsMeet step C s as) (hrun : runFrom step s as = some t) : Inv t := by
  induction as generalizing s with
  | nil =>
    rw [← Option.some.inj hrun]
    exact hs
  | cons a as ih =>
    obtain ⟨u, hu, hrest⟩ := Option.bind_eq_some_iff.mp hrun
    exact ih (hstep s a u hs hC.1 hu) (hC.2 u hu) hrest

lemma StepsMeet.imp {C C' : σ → α → Prop} {s : σ} {as : List α}
    (himp : ∀ s, ∀ a ∈ as, C s a → C' s a) (h : StepsMeet step C s as) : StepsMeet step C' s as := by
  induction as generalizing s with
  | nil => trivial
  | cons a as ih =>
    refine ⟨himp s a List.mem_cons_self h.1, fun t ht => ?_⟩
    exact ih (fun u b hb => himp u b (List.mem_cons_of_mem a hb)) (h.2 t ht)

lemma stepsMeet_true (s : σ) (as : List α) : StepsMeet step (fun _ _ => True) s as := by
  induction as generalizing s with
  | nil => trivial
  | cons a as ih => exact ⟨trivial, fun t _ => ih t⟩

lemma stepsMeet_of_forall {C : σ → α → Prop} (s : σ) {as : List α}
    (h : ∀ s, ∀ a ∈ as, C s a) : StepsMeet step C s as :=
  (stepsMeet_true step s as).imp step (fun t a ha _ => h t a ha)

lemma runFrom_invariant {Inv : σ → Prop} (hstep : ∀ s a t, Inv s → step s a = some t → Inv t)
    {s t : σ} {as : List α} (hs : Inv s) (hrun : runFrom step s as = some t) : Inv t :=
  runFrom_invariant_of_meets step (fun s a t h _ => hstep s a t h) hs
    (stepsMeet_true step s as) hrun

lemma foldl_invariant_of_meets {C : σ → α → Prop} {Inv : σ → Prop} {next : σ → α → σ}
    (hstep : ∀ s a, Inv s → C s a → Inv (next s a)) {s : σ} {as : List α} (hs : Inv s)
    (hC : StepsMeet (fun s a => some (next s a)) C s as) : Inv (as.foldl next s) := by
  induction as generalizing s with
  | nil => exact hs
  | cons a as ih => exact ih (hstep s a hs hC.1) (hC.2 _ rfl)

lemma forall_mem_concat {P : α → Prop} {as : List α} {b : α} (h : ∀ a ∈ as, P a) (hb : P b) :
    ∀ a ∈ as ++ [b], P a :=
  List.forall_mem_append.mpr ⟨h, List.forall_mem_singleton.mpr hb⟩

lemma pairwise_concat {R : α → α → Prop} {as : List α} {b : α} (h : as.Pairwise R)
    (hb : ∀ a ∈ as, R a b) : (as ++ [b]).Pairwise R :=
  List.pairwise_append.mpr ⟨h, List.pairwise_singleton R b,
    fun a ha => List.forall_mem_singleton.mpr (hb a ha)⟩

theorem foldl_forall_mem {P : σ → α → Prop} {f : σ → α → σ} (hkeep : ∀ s a b, P s b → P (f s a) b)
    (hset : ∀ s a, P (f s a) a) (as : List α) (s : σ) : ∀ b ∈ as, P (as.foldl f s) b := by
  induction as generalizing s with
  | nil => intro b hb; cases hb
  | cons a as ih =>
    intro b hb
    rcases List.mem_cons.mp hb with rfl | hb
    · exact List.foldlRecOn (motive := fun s => P s b) as f (hset s b)
        (fun s hs a _ => hkeep s a b hs)
    · exact ih (f s a) b hb

end Foundation
