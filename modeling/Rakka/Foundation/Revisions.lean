import Mathlib

/-! Histories of a register whose every version carries the next revision. A copy is
authentic when the history holds exactly this version under its revision, so two
authentic copies of one revision agree. -/

namespace Foundation

namespace Revisions
variable {V : Type} (revision : V → ℕ) (initial : V → Prop)

def Numbered (history : List V) : Prop := ∀ (k : ℕ) (v : V), history[k]? = some v → revision v = k + 1

/-- The copy was read from the history, or is initial and has revision zero. -/
def Authentic (history : List V) (v : V) : Prop :=
  (revision v = 0 ∧ initial v) ∨ ∃ k : ℕ, history[k]? = some v

variable {revision initial}

lemma Authentic.append {history : List V} {v : V} (h : Authentic revision initial history v)
    (later : List V) : Authentic revision initial (history ++ later) v := by
  rcases h with h | ⟨k, hk⟩
  · exact .inl h
  · have hlt : k < history.length := (List.getElem?_eq_some_iff.mp hk).1
    exact .inr ⟨k, by rw [List.getElem?_append_left hlt, hk]⟩

lemma authentic_append_self (history : List V) (w : V) :
    Authentic revision initial (history ++ [w]) w :=
  .inr ⟨history.length, by simp⟩

lemma numbered_append {history : List V} (h : Numbered revision history) {w : V}
    (hw : revision w = history.length + 1) : Numbered revision (history ++ [w]) := by
  intro k v hk
  rcases lt_trichotomy k history.length with hlt | rfl | hgt
  · rw [List.getElem?_append_left hlt] at hk
    exact h k v hk
  · rw [List.getElem?_concat_length] at hk
    rw [← Option.some.inj hk, hw]
  · rw [List.getElem?_eq_none (by simpa using hgt)] at hk
    cases hk

lemma Authentic.eq_last {history : List V} (hn : Numbered revision history) {v : V}
    (h : Authentic revision initial history v) (hv : revision v = history.length) :
    history.getLast? = some v ∨ (history = [] ∧ initial v) := by
  rcases h with ⟨hzero, hinit⟩ | ⟨k, hk⟩
  · exact .inr ⟨List.length_eq_zero_iff.mp (hv.symm.trans hzero), hinit⟩
  · left
    have hrev := hn k v hk
    rw [List.getLast?_eq_getElem?, ← hk]
    congr 1
    omega

end Revisions
end Foundation
