import Rakka.Foundation.Scalars

/-! Sixty-four bit words with saturating arithmetic, described by the numbers they stand for. -/

namespace Foundation

def UInt64.saturatingAdd (a b : UInt64) : UInt64 := .ofNat (min (a.toNat + b.toNat) u64Max)

def UInt64.saturatingSub (a b : UInt64) : UInt64 := .ofNat (a.toNat - b.toNat)

namespace UInt64

lemma toNat_le_max (a : UInt64) : a.toNat ≤ u64Max := by
  have := a.toNat_lt
  rw [u64Max]
  omega

lemma toNat_ofNat_of_le {n : ℕ} (h : n ≤ u64Max) : (UInt64.ofNat n).toNat = n := by
  rw [UInt64.toNat_ofNat']
  rw [u64Max] at h
  omega

@[simp] lemma toNat_saturatingAdd (a b : UInt64) :
    (saturatingAdd a b).toNat = min (a.toNat + b.toNat) u64Max :=
  toNat_ofNat_of_le (min_le_right _ _)

@[simp] lemma toNat_saturatingSub (a b : UInt64) : (saturatingSub a b).toNat = a.toNat - b.toNat :=
  toNat_ofNat_of_le ((Nat.sub_le _ _).trans (toNat_le_max a))

lemma toNat_foldl_saturatingAdd (as : List UInt64) (a : UInt64) :
    (as.foldl saturatingAdd a).toNat = min (a.toNat + (as.map UInt64.toNat).sum) u64Max := by
  induction as generalizing a with
  | nil =>
    have := toNat_le_max a
    simp only [List.foldl_nil, List.map_nil, List.sum_nil]
    omega
  | cons b bs ih =>
    rw [List.foldl_cons, ih, toNat_saturatingAdd, List.map_cons, List.sum_cons]
    omega

end UInt64
end Foundation
