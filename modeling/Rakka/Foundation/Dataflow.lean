import Mathlib

/-! Networks of nodes that wait for each other. A node becomes active when it is ready, is done with
a choice it makes, or is skipped because it can no longer become ready. Readiness and blocking only
grow with what is settled, so two complete runs in which every node makes the same choice agree,
whatever their order. -/

namespace Foundation.Dataflow

inductive Phase (κ : Type) where
  | pending
  | active
  | done (choice : κ)
  | skipped
  deriving DecidableEq

variable {ν κ : Type}

abbrev View (ν κ : Type) := ν → Phase κ

def Grows (v w : View ν κ) : Prop :=
  ∀ n, (∀ c, v n = .done c → w n = .done c) ∧ (v n = .skipped → w n = .skipped)

/-- Readiness, blocking and the start of skipping, each read from what is settled. -/
structure Network (ν κ : Type) where
  ready : View ν κ → ν → Prop
  blocked : View ν κ → ν → Prop
  trigger : View ν κ → Prop
  ready_mono : ∀ {v w}, Grows v w → ∀ {n}, ready v n → ready w n
  blocked_mono : ∀ {v w}, Grows v w → ∀ {n}, blocked v n → blocked w n
  trigger_mono : ∀ {v w}, Grows v w → trigger v → trigger w
  exclusive : ∀ {v n}, ready v n → ¬ blocked v n

namespace Network
variable (N : Network ν κ)

inductive NodeStep (v : View ν κ) (n : ν) : Phase κ → Phase κ → Prop where
  | keep (p : Phase κ) : NodeStep v n p p
  | activate (h : N.ready v n) : NodeStep v n .pending .active
  | finish (choice : κ) : NodeStep v n .active (.done choice)
  | skip (h : N.blocked v n) (ht : N.trigger v) : NodeStep v n .pending .skipped

def Step (v w : View ν κ) : Prop := ∀ n, NodeStep N v n (v n) (w n)

def Steps : View ν κ → View ν κ → Prop := Relation.ReflTransGen N.Step

/-- Nodes that left `pending` did so with a reason that still holds. -/
structure Justified (v : View ν κ) : Prop where
  active : ∀ n, v n = .active → N.ready v n
  done : ∀ n c, v n = .done c → N.ready v n
  skipped : ∀ n, v n = .skipped → N.blocked v n ∧ N.trigger v

/-- Nothing runs, nothing is ready, and skipping, once begun, has been carried through. -/
structure Complete (v : View ν κ) : Prop where
  idle : ∀ n, v n ≠ .active
  quiet : ∀ n, v n = .pending → ¬ N.ready v n
  settled : N.trigger v → ∀ n, v n = .pending → ¬ N.blocked v n

variable {N}

lemma Step.grows {v w : View ν κ} (h : N.Step v w) : Grows v w := by
  intro n
  have hn := h n
  generalize v n = p at hn ⊢
  generalize w n = q at hn ⊢
  cases hn with
  | keep => exact ⟨fun _ hc => hc, id⟩
  | activate _ | finish _ | skip _ _ => exact ⟨fun _ hc => (nomatch hc), fun hs => (nomatch hs)⟩

lemma justified_pending : N.Justified (fun _ => .pending) :=
  ⟨fun _ h => (nomatch h), fun _ _ h => (nomatch h), fun _ h => (nomatch h)⟩

lemma Justified.step {v w : View ν κ} (h : N.Justified v) (hstep : N.Step v w) : N.Justified w := by
  have hgrows := hstep.grows
  refine ⟨fun n hw => ?_, fun n c hw => ?_, fun n hw => ?_⟩
  all_goals
    have hn := hstep n
    rw [hw] at hn
    generalize hv : v n = p at hn
  · cases hn with
    | keep => exact N.ready_mono hgrows (h.active n hv)
    | activate hready => exact N.ready_mono hgrows hready
  · cases hn with
    | keep => exact N.ready_mono hgrows (h.done n c hv)
    | finish => exact N.ready_mono hgrows (h.active n hv)
  · cases hn with
    | keep => exact (h.skipped n hv).imp (N.blocked_mono hgrows) (N.trigger_mono hgrows)
    | skip hblocked htrigger =>
      exact ⟨N.blocked_mono hgrows hblocked, N.trigger_mono hgrows htrigger⟩

lemma Justified.steps {v w : View ν κ} (h : N.Justified v) (hsteps : N.Steps v w) :
    N.Justified w := by
  induction hsteps with
  | refl => exact h
  | tail _ hstep ih => exact ih.step hstep

lemma Steps.grows {v w : View ν κ} (h : N.Steps v w) : Grows v w := by
  induction h with
  | refl => exact fun _ => ⟨fun _ hc => hc, id⟩
  | tail _ hstep ih =>
    exact fun n => ⟨fun c hc => (hstep.grows n).1 c ((ih n).1 c hc),
      fun hs => (hstep.grows n).2 ((ih n).2 hs)⟩

/-! ### Agreement of complete runs -/

/-- What was begun in `v` has in `w` ended with the assigned choice. -/
structure EndsIn (choose : ν → κ) (v w : View ν κ) : Prop where
  active : ∀ n, v n = .active → w n = .done (choose n)
  done : ∀ n c, v n = .done c → w n = .done (choose n)
  skipped : ∀ n, v n = .skipped → w n = .skipped

def Chosen (choose : ν → κ) (v : View ν κ) : Prop := ∀ n c, v n = .done c → c = choose n

variable {choose : ν → κ} {v w : View ν κ}

lemma EndsIn.grows (h : EndsIn choose v w) (hchosen : Chosen choose v) : Grows v w :=
  fun n => ⟨fun c hc => hchosen n c hc ▸ h.done n c hc, h.skipped n⟩

lemma Complete.done_of_ready (hw : N.Complete w) (hjust : N.Justified w)
    (hchosen : Chosen choose w) {n : ν} (hready : N.ready w n) : w n = .done (choose n) := by
  cases hn : w n with
  | pending => exact absurd hready (hw.quiet n hn)
  | active => exact absurd hn (hw.idle n)
  | done c => rw [hchosen n c hn]
  | skipped => exact absurd (hjust.skipped n hn).1 (N.exclusive hready)

lemma Complete.skipped_of_blocked (hw : N.Complete w) (hjust : N.Justified w) {n : ν}
    (hblocked : N.blocked w n) (htrigger : N.trigger w) : w n = .skipped := by
  cases hn : w n with
  | pending => exact absurd hblocked (hw.settled htrigger n hn)
  | active => exact absurd hn (hw.idle n)
  | done c => exact absurd hblocked (N.exclusive (hjust.done n c hn))
  | skipped => rfl

lemma EndsIn.step {v' : View ν κ} (h : EndsIn choose v w) (hv : Chosen choose v)
    (hw : N.Complete w) (hjust : N.Justified w) (hchosen : Chosen choose w)
    (hstep : N.Step v v') : EndsIn choose v' w := by
  have hgrows := h.grows hv
  refine ⟨fun n hn' => ?_, fun n c hn' => ?_, fun n hn' => ?_⟩
  all_goals
    have hn := hstep n
    rw [hn'] at hn
    generalize hvn : v n = p at hn
  · cases hn with
    | keep => exact h.active n hvn
    | activate hready => exact hw.done_of_ready hjust hchosen (N.ready_mono hgrows hready)
  · cases hn with
    | keep => exact h.done n c hvn
    | finish => exact h.active n hvn
  · cases hn with
    | keep => exact h.skipped n hvn
    | skip hblocked htrigger =>
      exact hw.skipped_of_blocked hjust (N.blocked_mono hgrows hblocked)
        (N.trigger_mono hgrows htrigger)

lemma Chosen.of_steps (hsteps : N.Steps v w) (h : Chosen choose w) : Chosen choose v :=
  fun n c hc => h n c ((hsteps.grows n).1 c hc)

lemma endsIn_of_steps (hsteps : N.Steps (fun _ => .pending) v) (hv : Chosen choose v)
    (hw : N.Complete w) (hjust : N.Justified w) (hchosen : Chosen choose w) :
    EndsIn choose v w := by
  induction hsteps with
  | refl => exact ⟨fun _ h => (nomatch h), fun _ _ h => (nomatch h), fun _ h => (nomatch h)⟩
  | tail _ hstep ih =>
    have hbefore : Chosen choose _ := Chosen.of_steps (.single hstep) hv
    exact (ih hbefore).step hbefore hw hjust hchosen hstep

lemma confluent (hv : N.Steps (fun _ => .pending) v) (hw : N.Steps (fun _ => .pending) w)
    (hvc : N.Complete v) (hwc : N.Complete w) (hvchosen : Chosen choose v)
    (hwchosen : Chosen choose w) : v = w := by
  have hvj := justified_pending.steps hv
  have hwj := justified_pending.steps hw
  have hvw := endsIn_of_steps hv hvchosen hwc hwj hwchosen
  have hwv := endsIn_of_steps hw hwchosen hvc hvj hvchosen
  funext n
  cases hn : v n with
  | active => exact absurd hn (hvc.idle n)
  | done c => rw [hvw.done n c hn, hvchosen n c hn]
  | skipped => rw [hvw.skipped n hn]
  | pending =>
    cases hm : w n with
    | pending => rfl
    | active => exact absurd hm (hwc.idle n)
    | done c => rw [hwv.done n c hm] at hn; cases hn
    | skipped => rw [hwv.skipped n hm] at hn; cases hn

/-! ### Progress -/

/-- A complete run leaves no node pending, if nodes with settled sources are ready or blocked and
the sources are well founded. -/
theorem Complete.no_pending (hw : N.Complete w) {source : ν → ν → Prop}
    (hwf : WellFounded source) {live : ν → Prop} (hlive : ∀ m n, source m n → live n → live m)
    (hdecided : ∀ n, live n → (∀ m, source m n → w m ≠ .pending) →
      N.ready w n ∨ N.blocked w n ∧ N.trigger w) : ∀ n, live n → w n ≠ .pending := by
  intro n
  induction n using hwf.induction with
  | _ n ih =>
    intro hn hpending
    have hsources : ∀ m, source m n → w m ≠ .pending := fun m hm => ih m hm (hlive m n hm hn)
    rcases hdecided n hn hsources with hready | ⟨hblocked, htrigger⟩
    · exact hw.quiet n hpending hready
    · exact hw.settled htrigger n hpending hblocked

end Network
end Foundation.Dataflow
