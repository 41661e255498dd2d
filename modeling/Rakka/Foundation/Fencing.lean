import Rakka.Foundation.Runs

/-! Fencing counters. A ledger records who holds a resource, under which counter, and every grant so
far. Grants to different holders carry increasing counters exactly when a resource given up is never
granted afresh after another holder had it, and no takeover happens at a counter that cannot grow.
-/

namespace Foundation
open List

structure Ledger (H : Type) where
  live : Option (H × ℕ)
  grants : List (H × ℕ)

namespace Ledger
variable {H : Type} (bump : ℕ → ℕ)
variable {l l' : Ledger H}

inductive Advance (l : Ledger H) : Ledger H → Prop
  | keep : Advance l l
  | drop : Advance l ⟨none, l.grants⟩
  | fresh (h : H) (hl : l.live = none) : Advance l ⟨some (h, 1), l.grants ++ [(h, 1)]⟩
  | again (h : H) (n : ℕ) (hl : l.live = some (h, n)) :
      Advance l ⟨some (h, n), l.grants ++ [(h, n)]⟩
  | takeOver (h k : H) (n : ℕ) (hl : l.live = some (h, n)) (hne : h ≠ k) :
      Advance l ⟨some (k, bump n), l.grants ++ [(k, bump n)]⟩

/-- The grant neither starts afresh after a grant to another holder nor takes over at a counter that
fails to grow. -/
def FairFor (l : Ledger H) (k : H) : Prop :=
  (l.live = none → ∀ g ∈ l.grants, g.1 = k) ∧
    ∀ h n, l.live = some (h, n) → h ≠ k → n < bump n

def Increasing (l : Ledger H) : Prop := l.grants.Pairwise (fun a b => a.1 ≠ b.1 → a.2 < b.2)

/-- A grant followed by a grant to another holder is not the live one. -/
def SupersededDead (l : Ledger H) : Prop :=
  l.grants.Pairwise (fun a b => a.1 ≠ b.1 → l.live ≠ some a)

instance [DecidableEq H] (l : Ledger H) : Decidable (Increasing l) :=
  inferInstanceAs (Decidable (List.Pairwise _ _))

instance [DecidableEq H] (l : Ledger H) : Decidable (SupersededDead l) :=
  inferInstanceAs (Decidable (List.Pairwise _ _))

structure Basic (l : Ledger H) : Prop where
  live_mem : ∀ p, l.live = some p → p ∈ l.grants
  positive : ∀ g ∈ l.grants, 1 ≤ g.2
  single : ∀ h, (∀ g ∈ l.grants, g.1 = h) → ∀ g ∈ l.grants, g.2 = 1

lemma basic_empty : Basic (⟨none, []⟩ : Ledger H) :=
  ⟨by simp, by simp, by simp⟩

variable {bump}

lemma Basic.advance (hbump : ∀ n, 1 ≤ bump n) (hb : Basic l) (ha : Advance bump l l') :
    Basic l' := by
  cases ha with
  | keep => exact hb
  | drop => exact ⟨by simp, hb.positive, hb.single⟩
  | fresh =>
    exact ⟨by simp, forall_mem_concat hb.positive le_rfl, fun k hk =>
      forall_mem_concat (hb.single k (fun g hg => hk g (mem_append_left _ hg))) rfl⟩
  | again h n hl =>
    have hmem := hb.live_mem _ hl
    refine ⟨by simp, forall_mem_concat hb.positive (hb.positive _ hmem), fun k hk => ?_⟩
    have hsingle := hb.single k (fun g hg => hk g (mem_append_left _ hg))
    exact forall_mem_concat hsingle (hsingle _ hmem)
  | takeOver h k n hl hne =>
    have hmem := hb.live_mem _ hl
    refine ⟨by simp, forall_mem_concat hb.positive (hbump n), fun j hj => ?_⟩
    have hh : h = j := hj (h, n) (mem_append_left _ hmem)
    have hk : k = j := hj (k, bump n) (mem_append_right _ (mem_singleton_self _))
    exact absurd (hh.trans hk.symm) hne

/-- Every grant is below the live one, strictly so if it went to another holder. -/
def LiveGreatest (l : Ledger H) : Prop :=
  ∀ p, l.live = some p → ∀ g ∈ l.grants, g.2 ≤ p.2 ∧ (g.1 ≠ p.1 → g.2 < p.2)

lemma LiveGreatest.supersededDead (hg : LiveGreatest l) (hi : Increasing l) : SupersededDead l := by
  refine hi.imp_of_mem ?_
  intro a b ha hb hab hne hlive
  have hlt := hab hne
  have hgt := (hg a hlive b hb).2 (Ne.symm hne)
  omega

lemma increasing_append {gs : List (H × ℕ)} {live live' : Option (H × ℕ)} {p : H × ℕ} :
    Increasing ⟨live', gs ++ [p]⟩ ↔ Increasing ⟨live, gs⟩ ∧ ∀ g ∈ gs, g.1 ≠ p.1 → g.2 < p.2 := by
  simp [Increasing, pairwise_append]

lemma advance_fair (hb : Basic l) (hi : Increasing l) (hg : LiveGreatest l)
    (ha : Advance bump l l') (hf : ∀ k n, l'.grants = l.grants ++ [(k, n)] → FairFor bump l k) :
    Increasing l' ∧ LiveGreatest l' := by
  cases ha with
  | keep => exact ⟨hi, hg⟩
  | drop => exact ⟨hi, fun p hp => nomatch hp⟩
  | fresh h hl =>
    have hall := (hf h 1 rfl).1 hl
    have hone := hb.single h hall
    refine ⟨increasing_append.mpr ⟨hi, fun g hgm hne => absurd (hall g hgm) hne⟩, ?_⟩
    rintro p ⟨⟩
    exact forall_mem_concat (fun g hgm => ⟨(hone g hgm).le, fun hne => absurd (hall g hgm) hne⟩)
      ⟨le_rfl, fun hne => absurd rfl hne⟩
  | again h n hl =>
    refine ⟨increasing_append.mpr ⟨hi, fun g hgm => (hg _ hl g hgm).2⟩, ?_⟩
    rintro p ⟨⟩
    exact forall_mem_concat (hg _ hl) ⟨le_rfl, fun hne => absurd rfl hne⟩
  | takeOver h k n hl hne =>
    have hlt := (hf k (bump n) rfl).2 h n hl hne
    have hbelow : ∀ g ∈ l.grants, g.2 < bump n := fun g hgm =>
      lt_of_le_of_lt (hg _ hl g hgm).1 hlt
    refine ⟨increasing_append.mpr ⟨hi, fun g hgm _ => hbelow g hgm⟩, ?_⟩
    rintro p ⟨⟩
    exact forall_mem_concat (fun g hgm => ⟨(hbelow g hgm).le, fun _ => hbelow g hgm⟩)
      ⟨le_rfl, fun hne => absurd rfl hne⟩

lemma fairFor_of_increasing (hb : Basic l) (ha : Advance bump l l') (hi : Increasing l') {k : H}
    {n : ℕ} (hgrant : l'.grants = l.grants ++ [(k, n)]) : FairFor bump l k := by
  have hlast : ∀ g ∈ l.grants, g.1 ≠ k → g.2 < n := by
    unfold Increasing at hi
    rw [hgrant, pairwise_append] at hi
    exact fun g hg => hi.2.2 g hg _ (mem_singleton_self _)
  cases ha with
  | keep | drop => simp at hgrant
  | fresh h hl =>
    obtain ⟨rfl, rfl⟩ : h = k ∧ 1 = n := by simpa using hgrant
    refine ⟨fun _ g hg => ?_, fun h₀ m hm => by simp [hl] at hm⟩
    by_contra hne
    have := hlast g hg hne
    have := hb.positive g hg
    omega
  | again h m hl =>
    obtain ⟨rfl, rfl⟩ : h = k ∧ m = n := by simpa using hgrant
    refine ⟨fun hn => by simp [hl] at hn, fun h₀ m₀ hm hne => ?_⟩
    rw [hl] at hm
    cases hm
    exact absurd rfl hne
  | takeOver h k' m hl hne =>
    obtain ⟨rfl, rfl⟩ : k' = k ∧ bump m = n := by simpa using hgrant
    refine ⟨fun hn => by simp [hl] at hn, fun h₀ m₀ hm hne₀ => ?_⟩
    rw [hl] at hm
    cases hm
    exact hlast _ (hb.live_mem _ hl) hne

lemma Advance.increasing_of (ha : Advance bump l l') (hi : Increasing l') : Increasing l := by
  cases ha with
  | keep | drop => exact hi
  | fresh | again | takeOver => exact (increasing_append.mp hi).1

end Ledger
end Foundation
