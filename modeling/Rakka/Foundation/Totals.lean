import Rakka.Foundation.OrderedMap

/-! The total weight of the values of a map, followed through insertions and removals. -/

namespace Foundation
open List
namespace BTreeMap
variable {κ υ : Type} [Ord κ] [Std.TransOrd κ] [Std.LawfulEqOrd κ] [DecidableEq κ]
variable (weight : υ → ℕ) (m : BTreeMap κ υ) (k : κ)

def total : ℕ := (m.valuesInOrder.map weight).sum

omit [DecidableEq κ] in
lemma total_empty : total weight (∅ : BTreeMap κ υ) = 0 := by
  have hempty : (∅ : BTreeMap κ υ).toList = [] := by
    refine eq_nil_iff_forall_not_mem.mpr ?_
    rintro ⟨k, v⟩ hmem
    rw [Std.ExtTreeMap.mem_toList_iff_getElem?_eq_some] at hmem
    simp at hmem
  rw [total, valuesInOrder, hempty]
  rfl

lemma toList_erase_perm :
    (m.erase k).toList.Perm (m.toList.filter (fun p => decide (p.1 ≠ k))) := by
  refine (perm_ext_iff_of_nodup (toList_nodup _) ((toList_nodup m).filter _)).mpr ?_
  rintro ⟨a, v⟩
  simp only [Std.ExtTreeMap.mem_toList_iff_getElem?_eq_some, lookup_erase, mem_filter,
    decide_eq_true_eq]
  by_cases ha : a = k
  · simp [ha]
  · simp [ha]

lemma total_split : total weight m = ((m.toList.filter (fun p => decide (p.1 ≠ k))).map
      (fun p => weight p.2)).sum + (m[k]?.map weight).getD 0 := by
  have hsplit : m.toList.Perm (m.toList.filter (fun p => decide (p.1 ≠ k)) ++
      m.toList.filter (fun p => !decide (p.1 ≠ k))) := (filter_append_perm _ _).symm
  have hsingle : m.toList.filter (fun p => !decide (p.1 ≠ k)) =
      (m[k]?.map (fun v => (k, v))).toList := by
    have hnodup := (toList_nodup m).filter (fun p => !decide (p.1 ≠ k))
    have hmem : ∀ p, p ∈ m.toList.filter (fun p => !decide (p.1 ≠ k)) ↔
        p ∈ (m[k]?.map (fun v => (k, v))).toList := by
      rintro ⟨a, v⟩
      simp only [mem_filter, Std.ExtTreeMap.mem_toList_iff_getElem?_eq_some, ne_eq,
        decide_not, Bool.not_not, decide_eq_true_eq, Option.mem_toList, Option.map_eq_some_iff,
        Prod.mk.injEq]
      constructor
      · rintro ⟨hlookup, rfl⟩
        exact ⟨v, hlookup, rfl, rfl⟩
      · rintro ⟨u, hlookup, rfl, rfl⟩
        exact ⟨hlookup, rfl⟩
    have hsingleton : (m[k]?.map (fun v => (k, v))).toList.Nodup := by
      cases m[k]? <;> simp
    have hperm := (perm_ext_iff_of_nodup hnodup hsingleton).mpr hmem
    cases hlookup : m[k]? with
    | none =>
      rw [hlookup] at hperm
      exact hperm.eq_nil
    | some v =>
      rw [hlookup] at hperm
      exact perm_singleton.mp hperm
  have hsum := (hsplit.map (fun p => weight p.2)).sum_eq
  rw [total, valuesInOrder, map_map, show weight ∘ Prod.snd = fun p : κ × υ => weight p.2 from rfl,
    hsum, map_append, sum_append, hsingle]
  congr 1
  cases m[k]? <;> simp

lemma total_insert (v : υ) :
    total weight (m.insert k v) + (m[k]?.map weight).getD 0 = total weight m + weight v := by
  have hperm := ((toList_insert_perm m k v).map (fun p => weight p.2)).sum_eq
  rw [total_split weight m k, total, valuesInOrder, map_map,
    show weight ∘ Prod.snd = fun p : κ × υ => weight p.2 from rfl, hperm, map_cons,
    sum_cons]
  dsimp only
  omega

lemma total_erase : total weight (m.erase k) + (m[k]?.map weight).getD 0 = total weight m := by
  have hperm := ((toList_erase_perm m k).map (fun p => weight p.2)).sum_eq
  rw [total_split weight m k, total, valuesInOrder, map_map,
    show weight ∘ Prod.snd = fun p : κ × υ => weight p.2 from rfl, hperm]

omit [Std.LawfulEqOrd κ] [DecidableEq κ] in
lemma total_le_total {first second : υ → ℕ} (h : ∀ v, first v ≤ second v) :
    total first m ≤ total second m :=
  sum_le_sum (fun v _ => h v)

end BTreeMap
end Foundation
