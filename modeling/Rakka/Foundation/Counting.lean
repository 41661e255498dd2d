import Mathlib

/-! The number of members of a list that meet a condition, as members are replaced. -/

namespace Foundation
open List
variable {α : Type*}

lemma sum_map_set_add (f : α → ℕ) {xs : List α} {i : ℕ} {old : α} (new : α)
    (h : xs[i]? = some old) : ((xs.set i new).map f).sum + f old = (xs.map f).sum + f new := by
  induction xs generalizing i with
  | nil => simp at h
  | cons x xs ih =>
    cases i with
    | zero =>
      obtain rfl : x = old := by simpa using h
      rw [set_cons_zero, map_cons, map_cons, sum_cons, sum_cons]
      omega
    | succ i =>
      have hrest := ih (by simpa using h)
      rw [set_cons_succ, map_cons, map_cons, sum_cons, sum_cons]
      omega

lemma countP_pos_of_getElem? (p : α → Bool) {xs : List α} {i : ℕ} {x : α} (h : xs[i]? = some x)
    (hp : p x = true) : 0 < xs.countP p :=
  countP_pos_iff.mpr ⟨x, mem_of_getElem? h, hp⟩

lemma countP_split {p q r : α → Bool} (xs : List α)
    (h : ∀ x, (p x).toNat = (q x).toNat + (r x).toNat) :
    xs.countP p = xs.countP q + xs.countP r := by
  induction xs with
  | nil => rfl
  | cons x xs ih =>
    have hx := h x
    rw [countP_cons, countP_cons, countP_cons, ih]
    revert hx
    cases p x <;> cases q x <;> cases r x <;> simp <;> omega

lemma countP_set_add (p : α → Bool) {xs : List α} {i : ℕ} {old : α} (new : α)
    (h : xs[i]? = some old) :
    (xs.set i new).countP p + (p old).toNat = xs.countP p + (p new).toNat := by
  have hsum (xs : List α) : xs.countP p = (xs.map (fun x => (p x).toNat)).sum := by
    induction xs with
    | nil => rfl
    | cons x xs ih => cases hx : p x <;> simp [hx, ih, Nat.add_comm]
  rw [hsum, hsum]
  exact sum_map_set_add (fun x => (p x).toNat) new h

end Foundation
