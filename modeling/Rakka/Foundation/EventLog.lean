import Mathlib

/-! Logs of events, and stores that keep the tail of a log together with snapshots of states it
passes through. While every entry let go of lies at or below a snapshot, the newest snapshot and the
entries after it lead to the state at the end of the log. -/

namespace Foundation.EventLog
open List
variable {S E : Type}

section
variable (apply : S → E → S) (initial : S)

def stateAt (log : List E) (k : ℕ) : S := (log.take k).foldl apply initial

lemma foldl_drop (log : List E) (k : ℕ) : (log.drop k).foldl apply (stateAt apply initial log k) =
      stateAt apply initial log log.length := by
  rw [stateAt, ← foldl_append, take_append_drop, stateAt, take_length]

lemma stateAt_append_of_le {log : List E} {k : ℕ} (hk : k ≤ log.length) (more : List E) :
    stateAt apply initial (log ++ more) k = stateAt apply initial log k := by
  rw [stateAt, stateAt, take_append_of_le_length hk]

lemma stateAt_append_length (log more : List E) :
    stateAt apply initial (log ++ more) (log ++ more).length =
      more.foldl apply (stateAt apply initial log log.length) := by
  rw [stateAt, stateAt, take_length, take_length, foldl_append]

end

def numbered : ℕ → List E → List (ℕ × E)
  | _, [] => []
  | k, e :: es => (k + 1, e) :: numbered (k + 1) es

lemma length_numbered (k : ℕ) (log : List E) : (numbered k log).length = log.length := by
  induction log generalizing k with
  | nil => rfl
  | cons e log ih => rw [numbered, length_cons, ih, length_cons]

lemma numbered_append (k : ℕ) (log more : List E) :
    numbered k (log ++ more) = numbered k log ++ numbered (k + log.length) more := by
  induction log generalizing k with
  | nil => rfl
  | cons e log ih =>
    rw [cons_append, numbered, ih, numbered, cons_append, length_cons,
      Nat.add_right_comm, Nat.add_assoc]

lemma lt_of_mem_numbered {k : ℕ} {log : List E} {p : ℕ × E} (h : p ∈ numbered k log) : k < p.1 := by
  induction log generalizing k with
  | nil => exact absurd h not_mem_nil
  | cons e log ih =>
    rcases mem_cons.mp h with rfl | h
    · exact Nat.lt_succ_self k
    · exact (Nat.lt_succ_self k).trans (ih h)

lemma le_of_mem_numbered {k : ℕ} {log : List E} {p : ℕ × E} (h : p ∈ numbered k log) :
    p.1 ≤ k + log.length := by
  induction log generalizing k with
  | nil => exact absurd h not_mem_nil
  | cons e log ih =>
    rw [length_cons]
    rcases mem_cons.mp h with rfl | h
    · exact Nat.add_le_add_left (Nat.succ_le_succ (Nat.zero_le _)) k
    · have hle := ih h
      omega

lemma filter_numbered_of_le {j k : ℕ} (h : j ≤ k) (log : List E) :
    (numbered k log).filter (fun p => decide (j < p.1)) = numbered k log :=
  filter_eq_self.mpr (fun _ hp => decide_eq_true (h.trans_lt (lt_of_mem_numbered hp)))

lemma filter_numbered_drop (log : List E) {d k : ℕ} (h : d ≤ k) :
    (numbered d (log.drop d)).filter (fun p => decide (k < p.1)) = numbered k (log.drop k) := by
  -- The entries between `d` and `k` go one by one.
  induction hn : log.drop d generalizing d with
  | nil =>
    have hk : log.drop k = [] := by
      rw [drop_eq_nil_iff] at hn ⊢
      exact hn.trans h
    rw [hk]
    rfl
  | cons e es ih =>
    have hrest : log.drop (d + 1) = es := by
      rw [← tail_drop, hn, tail_cons]
    rcases h.eq_or_lt with rfl | hlt
    · rw [hn, filter_numbered_of_le le_rfl]
    · rw [numbered, filter_cons_of_neg (by simpa using hlt)]
      exact ih hlt hrest

lemma foldl_numbered (apply : S → E → S) (log : List E) (s : S) (k : ℕ) :
    (numbered k log).foldl (fun acc p => (apply acc.1 p.2, p.1)) (s, k) =
      (log.foldl apply s, k + log.length) := by
  induction log generalizing s k with
  | nil => rfl
  | cons e log ih =>
    rw [numbered, foldl_cons, ih, foldl_cons, length_cons, Nat.add_right_comm, Nat.add_assoc]

section
variable (apply : S → E → S) (initial : S)

/-- The state and the number that the newest snapshot and the entries after it lead to. -/
def recover (kept : List (ℕ × E)) (snapshots : List (ℕ × S)) : S × ℕ :=
  let base := match snapshots.head? with
    | some p => (p.2, p.1)
    | none => (initial, 0)
  (kept.filter (fun p => decide (base.2 < p.1))).foldl (fun acc p => (apply acc.1 p.2, p.1)) base

/-- The store covers the log; entries are only let go of where `Deletes` holds. -/
structure Covers (Deletes : Prop) (log : List E) (kept : List (ℕ × E)) (snapshots : List (ℕ × S)) :
    Prop where
  tail : ∃ d ≤ log.length, kept = numbered d (log.drop d) ∧
    (d = 0 ∨ Deletes ∧ ∃ p ∈ snapshots, d ≤ p.1)
  sound : ∀ p ∈ snapshots, p.1 ≤ log.length ∧ p.2 = stateAt apply initial log p.1
  newestFirst : snapshots.Pairwise (fun p q => q.1 < p.1)

variable {apply initial} {Deletes : Prop} {log : List E} {kept : List (ℕ × E)}
  {snapshots snapshots' : List (ℕ × S)}

lemma covers_nil : Covers apply initial Deletes [] [] [] :=
  ⟨⟨0, le_rfl, rfl, .inl rfl⟩, fun _ h => absurd h not_mem_nil, .nil⟩

section
variable (h : Covers apply initial Deletes log kept snapshots)
include h

lemma Covers.head_le {q : ℕ × S} (hhead : snapshots.head? = some q) :
    ∀ p ∈ snapshots, p.1 ≤ q.1 := by
  obtain ⟨rest, rfl⟩ := List.head?_eq_some_iff.mp hhead
  exact forall_mem_cons.mpr ⟨le_rfl, fun p hp => (rel_of_pairwise_cons h.newestFirst hp).le⟩

lemma Covers.number_le : ∀ p ∈ kept, p.1 ≤ log.length := by
  obtain ⟨d, hd, rfl, -⟩ := h.tail
  intro p hp
  have hle := le_of_mem_numbered hp
  rwa [length_drop, Nat.add_sub_cancel' hd] at hle

lemma Covers.recover_eq :
    recover apply initial kept snapshots = (stateAt apply initial log log.length, log.length) := by
  obtain ⟨d, hd, rfl, hcover⟩ := h.tail
  unfold recover
  cases hhead : snapshots.head? with
  | none =>
    have hd0 : d = 0 := by
      rcases hcover with rfl | ⟨-, p, hp, -⟩
      · rfl
      · rw [List.head?_eq_none_iff.mp hhead] at hp
        cases hp
    subst hd0
    dsimp only
    rw [filter_numbered_of_le le_rfl, drop_zero, foldl_numbered, Nat.zero_add, stateAt, take_length]
  | some q =>
    have hq := h.sound q (mem_of_mem_head? hhead)
    have hdq : d ≤ q.1 := by
      rcases hcover with rfl | ⟨-, p, hp, hdp⟩
      · exact Nat.zero_le _
      · exact hdp.trans (h.head_le hhead p hp)
    dsimp only
    rw [filter_numbered_drop log hdq, foldl_numbered, hq.2, foldl_drop, length_drop,
      Nat.add_sub_cancel' hq.1]

lemma Covers.append (more : List E) :
    Covers apply initial Deletes (log ++ more) (kept ++ numbered log.length more) snapshots := by
  obtain ⟨d, hd, rfl, hcover⟩ := h.tail
  refine ⟨⟨d, ?_, ?_, hcover⟩, fun p hp => ?_, h.newestFirst⟩
  · rw [length_append]
    exact Nat.le_add_right_of_le hd
  · rw [drop_append_of_le_length hd, numbered_append, length_drop, Nat.add_sub_cancel' hd]
  · obtain ⟨hle, hstate⟩ := h.sound p hp
    refine ⟨?_, ?_⟩
    · rw [length_append]
      exact Nat.le_add_right_of_le hle
    · rw [hstate, stateAt_append_of_le apply initial hle]

lemma Covers.save {k : ℕ} (hk : k ≤ log.length) (hmem : ∀ p, p ∈ snapshots' ↔
      p = (k, stateAt apply initial log k) ∨ p ∈ snapshots ∧ p.1 ≠ k)
    (hsorted : snapshots'.Pairwise (fun p q => q.1 < p.1)) :
    Covers apply initial Deletes log kept snapshots' := by
  obtain ⟨d, hd, rfl, hcover⟩ := h.tail
  refine ⟨⟨d, hd, rfl, ?_⟩, fun p hp => ?_, hsorted⟩
  · rcases hcover with rfl | ⟨hdeletes, p, hp, hdp⟩
    · exact .inl rfl
    by_cases hpk : p.1 = k
    · exact .inr ⟨hdeletes, _, (hmem _).mpr (.inl rfl), hpk ▸ hdp⟩
    · exact .inr ⟨hdeletes, p, (hmem p).mpr (.inr ⟨hp, hpk⟩), hdp⟩
  · rcases (hmem p).mp hp with rfl | ⟨hp, -⟩
    · exact ⟨hk, rfl⟩
    · exact h.sound p hp

lemma Covers.remove {k : ℕ} (hk : Deletes → ∃ p ∈ snapshots, k < p.1) :
    Covers apply initial Deletes log kept (snapshots.filter (fun p => decide (p.1 ≠ k))) := by
  obtain ⟨d, hd, rfl, hcover⟩ := h.tail
  refine ⟨⟨d, hd, rfl, ?_⟩, fun p hp => h.sound p (mem_filter.mp hp).1, h.newestFirst.filter _⟩
  rcases hcover with rfl | ⟨hdeletes, p, hp, hdp⟩
  · exact .inl rfl
  refine .inr ⟨hdeletes, ?_⟩
  by_cases hpk : p.1 = k
  · obtain ⟨q, hq, hkq⟩ := hk hdeletes
    exact ⟨q, mem_filter.mpr ⟨hq, by simpa using hkq.ne'⟩, (hpk ▸ hdp).trans hkq.le⟩
  · exact ⟨p, mem_filter.mpr ⟨hp, by simpa using hpk⟩, hdp⟩

lemma Covers.deleteTo (hdeletes : Deletes) {p : ℕ × S} (hp : p ∈ snapshots) :
    Covers apply initial Deletes log (kept.filter (fun q => decide (p.1 < q.1))) snapshots := by
  obtain ⟨d, hd, rfl, hcover⟩ := h.tail
  refine ⟨?_, h.sound, h.newestFirst⟩
  rcases Nat.le_total d p.1 with hdp | hdp
  · exact ⟨p.1, (h.sound p hp).1, filter_numbered_drop log hdp, .inr ⟨hdeletes, p, hp, le_rfl⟩⟩
  · refine ⟨d, hd, ?_, hcover⟩
    exact filter_numbered_of_le hdp _

end

end
end Foundation.EventLog
