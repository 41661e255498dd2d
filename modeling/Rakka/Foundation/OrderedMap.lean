import Mathlib

/-! Finite maps iterated in the order of their keys. The lookups of the standard library are
restated with an equality of keys in place of a comparison, and the number of keys that hold a given
value is followed through an insertion. -/

namespace Foundation
open List Std.ExtTreeMap

abbrev BTreeMap (κ υ : Type) [Ord κ] := Std.ExtTreeMap κ υ compare

instance lawfulEqOrd_of_linearOrder {κ : Type*} [LinearOrder κ] : Std.LawfulEqOrd κ :=
  ⟨fun h => compare_eq_iff_eq.mp h⟩

instance transOrd_of_linearOrder {κ : Type*} [LinearOrder κ] : Std.TransOrd κ := inferInstance

namespace BTreeMap
variable {κ υ : Type} [Ord κ] [Std.TransOrd κ] [Std.LawfulEqOrd κ]
variable (m : BTreeMap κ υ) (k : κ)

lemma lookup_insert [DecidableEq κ] (a : κ) (v : υ) :
    (m.insert k v)[a]? = if a = k then some v else m[a]? := by
  rw [Std.ExtTreeMap.getElem?_insert]
  simp only [Std.LawfulEqOrd.compare_eq_iff_eq, @eq_comm κ k a]

lemma insert_of_lookup [DecidableEq κ] {m : BTreeMap κ υ} {k : κ} {v : υ} (h : m[k]? = some v) :
    m.insert k v = m := by
  refine ext_getElem? (fun a => ?_)
  rw [lookup_insert]
  split_ifs with ha
  · rw [ha, h]
  · rfl

lemma lookup_erase [DecidableEq κ] (a : κ) : (m.erase k)[a]? = if a = k then none else m[a]? := by
  rw [Std.ExtTreeMap.getElem?_erase]
  simp only [Std.LawfulEqOrd.compare_eq_iff_eq, @eq_comm κ k a]

section Entries
variable [DecidableEq κ] {m k} {P : κ → υ → Prop}

lemma forall_insert {v : υ} (h : ∀ a w, m[a]? = some w → P a w) (hv : P k v) :
    ∀ a w, (m.insert k v)[a]? = some w → P a w := by
  intro a w hw
  rw [lookup_insert] at hw
  split_ifs at hw with ha
  · rw [ha, ← Option.some.inj hw]
    exact hv
  · exact h a w hw

lemma forall_erase (h : ∀ a w, m[a]? = some w → P a w) :
    ∀ a w, (m.erase k)[a]? = some w → P a w := by
  intro a w hw
  rw [lookup_erase] at hw
  split_ifs at hw
  exact h a w hw

end Entries

lemma toList_nodup : m.toList.Nodup := by
  refine m.distinct_keys_toList.imp ?_
  intro a b hab he
  exact hab (by rw [he]; exact Std.ReflCmp.compare_self)

lemma toList_keys_nodup : (m.toList.map Prod.fst).Nodup := by
  refine pairwise_map.mpr (m.distinct_keys_toList.imp ?_)
  intro a b hab he
  exact hab (by rw [he]; exact Std.ReflCmp.compare_self)

lemma toList_insert_perm [DecidableEq κ] (v : υ) :
    (m.insert k v).toList.Perm ((k, v) :: m.toList.filter (fun p => decide (p.1 ≠ k))) := by
  have hmem : ((k, v) :: m.toList.filter (fun p => decide (p.1 ≠ k))).Nodup := by
    refine nodup_cons.mpr ⟨?_, (toList_nodup m).filter _⟩
    simp
  refine (perm_ext_iff_of_nodup (toList_nodup _) hmem).mpr ?_
  rintro ⟨a, w⟩
  simp only [mem_toList_iff_getElem?_eq_some, lookup_insert, mem_cons,
    mem_filter, Prod.mk.injEq, decide_eq_true_eq]
  by_cases ha : a = k
  · simp [ha, eq_comm]
  · simp [ha]

lemma foldl_insert_toList [DecidableEq κ] :
    m.toList.foldl (fun acc p => acc.insert p.1 p.2) (∅ : BTreeMap κ υ) = m := by
  rw [← ofList_eq_foldl]
  refine ext_getElem? (fun k => ?_)
  cases hk : m[k]? with
  | some v =>
    exact Std.ExtTreeMap.getElem?_ofList_of_mem Std.ReflCmp.compare_self m.distinct_keys_toList
      (mem_toList_iff_getElem?_eq_some.mpr hk)
  | none =>
    refine Std.ExtTreeMap.getElem?_ofList_of_contains_eq_false ?_
    rw [map_fst_toList_eq_keys]
    simpa using hk

def valuesInOrder : List υ := m.toList.map Prod.snd

def valueCount [DecidableEq υ] (v : υ) : ℕ :=
  m.toList.countP (fun p => decide (p.2 = v))

lemma valueCount_insert [DecidableEq κ] [DecidableEq υ] (v w : υ) :
    valueCount (m.insert k v) w + (if m[k]? = some w then 1 else 0) =
      valueCount m w + (if v = w then 1 else 0) := by
  unfold valueCount
  rw [(toList_insert_perm m k v).countP_eq, countP_cons, countP_filter]
  have hsplit := countP_eq_countP_filter_add m.toList (fun p => decide (p.2 = w))
    (fun p => decide (p.1 ≠ k))
  rw [countP_filter, countP_filter] at hsplit
  have hk : m.toList.countP (fun p => decide (p.2 = w) && !decide (p.1 ≠ k)) =
      if m[k]? = some w then 1 else 0 := by
    have hcount : m.toList.countP (fun p => decide (p.2 = w) && !decide (p.1 ≠ k)) =
        m.toList.count (k, w) := by
      refine countP_congr ?_
      rintro ⟨a, u⟩ _
      simp [and_comm]
    rw [hcount]
    split_ifs with h
    · exact count_eq_one_of_mem (toList_nodup m)
        (mem_toList_iff_getElem?_eq_some.mpr h)
    · exact count_eq_zero_of_not_mem
        (fun hm => h (mem_toList_iff_getElem?_eq_some.mp hm))
  simp only [decide_eq_true_eq, hsplit] at *
  omega

end BTreeMap

lemma BTreeMap.toList_pairwise_lt {κ υ : Type} [LinearOrder κ] (m : BTreeMap κ υ) :
    m.toList.Pairwise (fun p q => p.1 < q.1) :=
  m.ordered_keys_toList.imp (fun h => compare_lt_iff_lt.mp h)

end Foundation
