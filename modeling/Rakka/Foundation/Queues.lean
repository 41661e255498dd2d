import Rakka.Foundation.OrderedMap

/-! Families of queues kept in a map. An absent queue counts as empty, and the contents of
the family are followed, up to order, through an update of one queue. -/

namespace Foundation
open List Std.ExtTreeMap

namespace Queues
variable {κ α : Type} [Ord κ] [Std.TransOrd κ] [Std.LawfulEqOrd κ]
variable (m : BTreeMap κ (List α)) (k : κ)

def queueAt : List α := m[k]?.getD []

def contents : List α := m.toList.flatMap Prod.snd

def shrink (f : List α → List α) (m : BTreeMap κ (List α)) : BTreeMap κ (List α) :=
  (m.map (fun _ q => f q)).filter (fun _ q => !q.isEmpty)

set_option linter.unusedSectionVars false

lemma queueAt_insert [DecidableEq κ] (a : κ) (q : List α) :
    queueAt (m.insert k q) a = if a = k then q else queueAt m a := by
  unfold queueAt
  rw [BTreeMap.lookup_insert]
  split_ifs
  · rfl
  · rfl

lemma queueAt_shrink (f : List α → List α) (hf : f [] = []) (m : BTreeMap κ (List α)) (k : κ) :
    queueAt (shrink f m) k = f (queueAt m k) := by
  unfold queueAt shrink
  rw [Std.ExtTreeMap.getElem?_filter', Std.ExtTreeMap.getElem?_map]
  cases m[k]? with
  | none => exact hf.symm
  | some q =>
    simp only [Option.map_some, Option.filter_some, Option.getD_some]
    cases hq : f q with
    | nil | cons => rfl

lemma queueAt_empty : queueAt (∅ : BTreeMap κ (List α)) k = [] := by
  rw [queueAt, Std.ExtTreeMap.getElem?_empty]
  rfl

lemma contents_shrink (f : List α → List α) (m : BTreeMap κ (List α)) :
    contents (shrink f m) = m.toList.flatMap (fun p => f p.2) := by
  unfold contents shrink
  rw [toList_filter, toList_map]
  induction m.toList with
  | nil => rfl
  | cons p ps ih =>
    rw [map_cons, filter_cons, flatMap_cons, ← ih]
    cases hq : f p.2 with
    | nil | cons => simp

lemma mem_contents [DecidableEq κ] {m : BTreeMap κ (List α)} {x : α} :
    x ∈ contents m ↔ ∃ k, x ∈ queueAt m k := by
  unfold contents queueAt
  rw [mem_flatMap]
  constructor
  · rintro ⟨⟨k, q⟩, hp, hx⟩
    rw [mem_toList_iff_getElem?_eq_some] at hp
    exact ⟨k, by rwa [hp]⟩
  · rintro ⟨k, hx⟩
    cases hq : m[k]? with
    | none =>
      rw [hq] at hx
      cases hx
    | some q =>
      rw [hq] at hx
      exact ⟨(k, q), mem_toList_iff_getElem?_eq_some.mpr hq, hx⟩

lemma contents_empty [DecidableEq κ] : contents (∅ : BTreeMap κ (List α)) = [] := by
  refine eq_nil_iff_forall_not_mem.mpr (fun x hx => ?_)
  obtain ⟨k, hk⟩ := mem_contents.mp hx
  rw [queueAt_empty] at hk
  exact absurd hk not_mem_nil

def others [DecidableEq κ] : List α :=
  (m.toList.filter (fun p => decide (p.1 ≠ k))).flatMap Prod.snd

lemma contents_insert_perm [DecidableEq κ] (q : List α) :
    (contents (m.insert k q)).Perm (q ++ others m k) :=
  (BTreeMap.toList_insert_perm m k q).flatMap_right Prod.snd

lemma contents_perm [DecidableEq κ] : (contents m).Perm (queueAt m k ++ others m k) := by
  unfold queueAt
  cases hq : m[k]? with
  | some q =>
    have h := contents_insert_perm m k q
    rwa [BTreeMap.insert_of_lookup hq] at h
  | none =>
    have hall : m.toList.filter (fun p => decide (p.1 ≠ k)) = m.toList := by
      refine filter_eq_self.mpr (fun p hp => decide_eq_true ?_)
      rintro rfl
      rw [mem_toList_iff_getElem?_eq_some.mp hp] at hq
      cases hq
    rw [others, hall]
    exact .refl _

lemma contents_push_perm [DecidableEq κ] (x : α) :
    (contents (m.insert k (queueAt m k ++ [x]))).Perm (x :: contents m) := by
  refine (contents_insert_perm m k _).trans ?_
  rw [append_assoc, singleton_append]
  exact perm_middle.trans ((contents_perm m k).symm.cons x)

lemma contents_shift_perm [DecidableEq κ] {m : BTreeMap κ (List α)} {k : κ} {first : α}
    {rest : List α} (h : queueAt m k = first :: rest) (x : α) :
    (first :: contents (m.insert k (rest ++ [x]))).Perm (x :: contents m) := by
  have hbefore := contents_perm m k
  rw [h] at hbefore
  refine ((contents_insert_perm m k _).cons first).trans ?_
  refine List.Perm.trans ?_ (hbefore.symm.cons x)
  rw [append_assoc, singleton_append]
  exact (perm_middle.cons first).trans (.swap _ _ _)

lemma contents_same_perm [DecidableEq κ] :
    (contents (m.insert k (queueAt m k))).Perm (contents m) :=
  (contents_insert_perm m k _).trans (contents_perm m k).symm

lemma queueAt_same [DecidableEq κ] (a : κ) :
    queueAt (m.insert k (queueAt m k)) a = queueAt m a := by
  rw [queueAt_insert]
  split_ifs with h
  · rw [h]
  · rfl

lemma contents_shrink_filter (p : α → Bool) (m : BTreeMap κ (List α)) :
    contents (shrink (List.filter p) m) = (contents m).filter p := by
  rw [contents_shrink, contents, filter_flatMap]

lemma flatMap_single_key [DecidableEq κ] (q : List α) (ps : List (κ × List α))
    (hkeys : (ps.map Prod.fst).Nodup) :
    ps.flatMap (fun p => if p.1 = k then q else []) = if k ∈ ps.map Prod.fst then q else [] := by
  induction ps with
  | nil => rfl
  | cons p ps ih =>
    obtain ⟨hp, hrest⟩ := nodup_cons.mp hkeys
    rw [flatMap_cons, ih hrest, map_cons]
    by_cases h : p.1 = k
    · rw [if_pos h, if_neg (h ▸ hp), if_pos (h ▸ mem_cons_self), append_nil]
    · have hk : k ∈ p.1 :: ps.map Prod.fst ↔ k ∈ ps.map Prod.fst :=
        mem_cons.trans (or_iff_right (Ne.symm h))
      rw [if_neg h, nil_append, if_congr hk rfl rfl]

lemma contents_filter_key [DecidableEq κ] (key : α → κ) (m : BTreeMap κ (List α))
    (hkey : ∀ k, ∀ x ∈ queueAt m k, key x = k) (k : κ) :
    (contents m).filter (fun x => decide (key x = k)) = queueAt m k := by
  have hqueue : ∀ p ∈ m.toList, queueAt m p.1 = p.2 := by
    intro p hp
    rw [queueAt, mem_toList_iff_getElem?_eq_some.mp hp]
    rfl
  have hpart : ∀ p ∈ m.toList, p.2.filter (fun x => decide (key x = k)) =
      if p.1 = k then queueAt m k else [] := by
    intro p hp
    have hp' : ∀ x ∈ p.2, key x = p.1 := fun x hx => hkey p.1 x (by rwa [hqueue p hp])
    split_ifs with h
    · rw [← h, hqueue p hp]
      exact filter_eq_self.mpr (fun x hx => decide_eq_true (hp' x hx))
    · refine filter_eq_nil_iff.mpr (fun x hx => ?_)
      rw [hp' x hx]
      simpa using h
  rw [contents, filter_flatMap, flatMap_congr hpart,
    flatMap_single_key k _ _ (BTreeMap.toList_keys_nodup m)]
  split_ifs with h
  · rfl
  · rw [Std.ExtTreeMap.map_fst_toList_eq_keys, Std.ExtTreeMap.mem_keys] at h
    rw [queueAt, Std.ExtTreeMap.getElem?_eq_none h]
    rfl

end Queues
end Foundation
