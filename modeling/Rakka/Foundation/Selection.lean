import Mathlib

/-! Choosing a least or a greatest entry of a list under a comparison. Among
equal entries the first least one and the last greatest one are chosen. -/

namespace Foundation
open List
variable {α : Type*}

lemma foldl_choice (le : α → α → Prop) (hrefl : ∀ a, le a a)
    (htrans : ∀ {a b c}, le a b → le b c → le a c) (pick : α → α → α)
    (hpick : ∀ x y, (pick x y = x ∨ pick x y = y) ∧ le (pick x y) x ∧ le (pick x y) y)
    (as : List α) (a : α) : as.foldl pick a ∈ a :: as ∧ ∀ b ∈ a :: as, le (as.foldl pick a) b := by
  induction as generalizing a with
  | nil => exact ⟨mem_cons_self .., forall_mem_singleton.mpr (hrefl a)⟩
  | cons c as ih =>
    obtain ⟨hor, hx, hy⟩ := hpick a c
    obtain ⟨hm, hle⟩ := ih (pick a c)
    have hhead : le (as.foldl pick (pick a c)) (pick a c) := hle _ (mem_cons_self ..)
    refine ⟨?_, ?_⟩
    · rw [foldl_cons]
      rcases mem_cons.mp hm with h | h
      · rw [h]
        rcases hor with h | h <;> simp [h]
      · exact mem_cons_of_mem _ (mem_cons_of_mem _ h)
    · refine forall_mem_cons.mpr ⟨htrans hhead hx, forall_mem_cons.mpr ⟨htrans hhead hy, ?_⟩⟩
      exact (forall_mem_cons.mp hle).2

variable (cmp : α → α → Ordering)

def minBy : List α → Option α
  | [] => none
  | a :: as => some (as.foldl (fun x y => if cmp y x = .lt then y else x) a)

def maxBy : List α → Option α
  | [] => none
  | a :: as => some (as.foldl (fun x y => if cmp y x = .lt then x else y) a)

lemma minBy_isSome (as : List α) (h : as ≠ []) : ∃ a, minBy cmp as = some a := by
  cases as with
  | nil => exact absurd rfl h
  | cons a as => exact ⟨_, rfl⟩

lemma maxBy_mem {as : List α} {a : α} (h : maxBy cmp as = some a) : a ∈ as := by
  cases as with
  | nil => simp [maxBy] at h
  | cons c as =>
    rw [maxBy, Option.some.injEq] at h
    rw [← h]
    refine (foldl_choice (fun _ _ => True) (fun _ => trivial) (fun _ _ => trivial) _
      (fun x y => ⟨?_, trivial, trivial⟩) as c).1
    split_ifs
    · exact .inl rfl
    · exact .inr rfl

variable [Std.TransCmp cmp]

lemma isLE_of_not_lt {x y : α} (h : cmp y x ≠ .lt) : (cmp x y).isLE := by
  rw [← Std.OrientedCmp.isGE_iff_isLE]
  cases hc : cmp y x <;> simp_all

lemma minBy_spec {as : List α} {a : α} (h : minBy cmp as = some a) :
    a ∈ as ∧ ∀ b ∈ as, (cmp a b).isLE := by
  cases as with
  | nil => simp [minBy] at h
  | cons c as =>
    rw [minBy, Option.some.injEq] at h
    rw [← h]
    refine foldl_choice (fun x y => (cmp x y).isLE) (fun x => by simp [Std.ReflCmp.compare_self])
      Std.TransCmp.isLE_trans _ ?_ as c
    intro x y
    split_ifs with hxy
    · exact ⟨.inr rfl, by simp [hxy], by simp [Std.ReflCmp.compare_self]⟩
    · exact ⟨.inl rfl, by simp [Std.ReflCmp.compare_self], isLE_of_not_lt cmp hxy⟩

end Foundation
