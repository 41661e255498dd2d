import Mathlib

/-! A bounded ring seen as the end of the log of all its entries. What the ring refuses to take
twice stands in that log at most once in every stretch of the ring's length. -/

namespace Foundation
open List
variable {α κ : Type*}
variable {capacity : ℕ} {log : List α} {x : α}

def window (capacity : ℕ) (log : List α) : List α := log.drop (log.length - capacity)

lemma window_push (capacity : ℕ) (log : List α) (x : α) :
    window capacity (window capacity log ++ [x]) = window capacity (log ++ [x]) := by
  have hlength : (window capacity log).length = min capacity log.length := by
    simp only [window, length_drop]
    omega
  have hdrop : window capacity log ++ [x] = (log ++ [x]).drop (log.length - capacity) := by
    rw [window, drop_append_of_le_length (Nat.sub_le _ _)]
  rw [window, hdrop, drop_drop, window]
  congr 1
  simp only [length_drop, length_append, length_singleton]
  omega

lemma mem_of_mem_window (h : x ∈ window capacity log) : x ∈ log := mem_of_mem_drop h

lemma mem_window_of_getElem? {i : ℕ} (hx : log[i]? = some x)
    (hrecent : (log.drop (i + 1)).length < capacity) : x ∈ window capacity log := by
  have hi : i < log.length := (List.getElem?_eq_some_iff.mp hx).1
  rw [length_drop] at hrecent
  refine mem_of_getElem? (i := i - (log.length - capacity)) ?_
  rw [window, List.getElem?_drop, Nat.add_sub_cancel' (by omega)]
  exact hx

section
variable (capacity : ℕ) (key : α → κ)
variable {y : α} {k : κ}

def Spaced (log : List α) : Prop :=
  ∀ i j x y, i < j → log[i]? = some x → log[j]? = some y → key x = key y → i + capacity < j

/-- Since every entry with the key fewer than `capacity` others were added. -/
def Recent (k : κ) (log : List α) : Prop :=
  ∀ i x, log[i]? = some x → key x = k → (log.drop (i + 1)).length < capacity

variable {capacity key}

lemma Spaced.push (h : Spaced capacity key log)
    (hfresh : ∀ y ∈ window capacity log, key y ≠ key x) : Spaced capacity key (log ++ [x]) := by
  intro i j y z hij hy hz hkey
  have hj : j < (log ++ [x]).length := (List.getElem?_eq_some_iff.mp hz).1
  rw [length_append, length_singleton] at hj
  rw [List.getElem?_append_left (by omega)] at hy
  rcases Nat.lt_or_ge j log.length with hlt | hge
  · rw [List.getElem?_append_left hlt] at hz
    exact h i j y z hij hy hz hkey
  · -- the later entry is the new one, so the earlier one has left the ring
    obtain rfl : j = log.length := by omega
    rw [List.getElem?_concat_length] at hz
    by_contra hclose
    have hmem : y ∈ window capacity log :=
      mem_window_of_getElem? hy (by rw [length_drop]; omega)
    exact hfresh y hmem (hkey.trans (congrArg key (Option.some.inj hz)).symm)

lemma Spaced.index_unique (h : Spaced capacity key log) (hrecent : Recent capacity key k log)
    {i j : ℕ} (hx : log[i]? = some x) (hy : log[j]? = some y) (hxk : key x = k) (hyk : key y = k) :
    i = j := by
  have hi := hrecent i x hx hxk
  have hj := hrecent j y hy hyk
  have hilt : i < log.length := (List.getElem?_eq_some_iff.mp hx).1
  have hjlt : j < log.length := (List.getElem?_eq_some_iff.mp hy).1
  rw [length_drop] at hi hj
  rcases Nat.lt_trichotomy i j with hlt | heq | hgt
  · have := h i j x y hlt hx hy (hxk.trans hyk.symm)
    omega
  · exact heq
  · have := h j i y x hgt hy hx (hyk.trans hxk.symm)
    omega

lemma Spaced.eq_of_mem (h : Spaced capacity key log) (hrecent : Recent capacity key k log)
    (hx : x ∈ log) (hy : y ∈ log) (hxk : key x = k) (hyk : key y = k) : x = y := by
  obtain ⟨i, hi⟩ := mem_iff_getElem?.mp hx
  obtain ⟨j, hj⟩ := mem_iff_getElem?.mp hy
  have hij := h.index_unique hrecent hi hj hxk hyk
  exact Option.some.inj (hi.symm.trans (hij ▸ hj))

lemma recent_of_length_le (h : log.length ≤ capacity) : Recent capacity key k log := by
  intro i x hx _
  have hi : i < log.length := (List.getElem?_eq_some_iff.mp hx).1
  rw [length_drop]
  omega

lemma Recent.mem_window (hrecent : Recent capacity key k log) (hx : x ∈ log) (hxk : key x = k) :
    x ∈ window capacity log := by
  obtain ⟨i, hi⟩ := mem_iff_getElem?.mp hx
  exact mem_window_of_getElem? hi (hrecent i x hi hxk)

end
end Foundation
