import Mathlib

/-! Sixty-four bit counters with saturating arithmetic, and spans of time counted
in nanoseconds. -/

namespace Foundation

def u64Max : ℕ := 2 ^ 64 - 1

def saturatingAdd (a b : ℕ) : ℕ := min (a + b) u64Max

def saturatingMul (a b : ℕ) : ℕ := min (a * b) u64Max

abbrev Duration := ℕ

def Duration.asMillis (d : Duration) : ℕ := d / 1000000

def Duration.fromMillis (n : ℕ) : Duration := n * 1000000

lemma saturatingAdd_one_of_lt {a : ℕ} (h : a < u64Max) : saturatingAdd a 1 = a + 1 :=
  min_eq_left h

end Foundation
