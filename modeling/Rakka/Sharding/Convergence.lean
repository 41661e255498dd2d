import Rakka.Sharding.PlanDiff

/-! Convergence of the deterministic modulo strategy. Under a fixed membership each
reconciliation places every unowned or orphaned shard and as many misplaced shards as
the cap allows, so coordinators with different histories meet in the same map. -/

namespace Rakka.Sharding
open Cluster Foundation DeterministicModuloShardAllocationStrategy ShardReassignment List

section Passes
variable {entityType : EntityType} {config : ShardingConfig} {membership : ClusterMembership}
variable {assignments : BTreeMap ShardId NodeId} {s : ShardId}
variable (modulo : DeterministicModuloShardAllocationStrategy) (hne : routableNodes ≠ [])

  {routableNodes : List NodeId}

def misplaced (routableNodes : List NodeId) (config : ShardingConfig)
    (assignments : BTreeMap ShardId NodeId) : Finset ShardId :=
  (Finset.range config.numberOfShards).filter (fun s => ∃ owner ∈ routableNodes,
    assignments[s]? = some owner ∧ desiredOwner routableNodes s ≠ some owner)

lemma mem_misplaced : s ∈ misplaced routableNodes config assignments ↔ s < config.numberOfShards ∧
      ∃ owner ∈ routableNodes, assignments[s]? = some owner ∧
        desiredOwner routableNodes s ≠ some owner := by
  rw [misplaced, Finset.mem_filter, Finset.mem_range]

lemma modulo_allocateSteps_lookup (modulo : DeterministicModuloShardAllocationStrategy)
    (hne : routableNodes ≠ []) (visits : List ShardId) (draft : PlanDraft) (hv : visits.Nodup)
    (s : ShardId) :
    (visits.foldl (allocateStep entityType config modulo.toStrategy membership routableNodes)
        draft).assignments[s]? =
      if s ∈ visits ∧ ¬ OwnedLive routableNodes draft.assignments s then desiredOwner routableNodes s
      else draft.assignments[s]? := by
  induction visits generalizing draft with
  | nil => simp
  | cons t visits ih =>
    obtain ⟨ht, hv⟩ := nodup_cons.mp hv
    have hrec := allocateStep_recorded entityType config modulo.toStrategy membership routableNodes
      draft t
    rw [foldl_cons]
    generalize allocateStep entityType config modulo.toStrategy membership routableNodes draft t =
      next at hrec ⊢
    rw [ih next hv]
    by_cases hst : s = t
    · subst hst
      rw [if_neg (fun h => ht h.1), hrec.lookup s, if_pos rfl]
      by_cases hlive : OwnedLive routableNodes draft.assignments s
      · rw [if_neg (fun h => h.2 hlive), allocatedOwner_of_ownedLive hlive]
      · rw [if_pos ⟨mem_cons_self .., hlive⟩, modulo_allocatedOwner modulo hne hlive]
    · have hlookup : next.assignments[s]? = draft.assignments[s]? := by
        rw [hrec.lookup s, if_neg hst]
      simp only [OwnedLive, hlookup, mem_cons, hst, false_or]

variable (entityType membership) in
theorem reassignSteps_lookup (rs : List ShardReassignment) (draft : PlanDraft)
    (done : Finset ShardId) (hn : (rs.map shardId).Nodup)
    (hrs : ∀ r ∈ rs, ¬ Skipped config routableNodes done r) (s : ShardId) :
    (∀ r ∈ rs, r.shardId = s → (rs.foldl (reassignStep entityType config membership routableNodes)
        (draft, done)).1.assignments[s]? = some r.target) ∧ (s ∉ rs.map shardId →
      (rs.foldl (reassignStep entityType config membership routableNodes)
        (draft, done)).1.assignments[s]? = draft.assignments[s]?) := by
  induction rs generalizing draft done with
  | nil => exact ⟨fun r hr => absurd hr not_mem_nil, fun _ => rfl⟩
  | cons q rs ih =>
    rw [map_cons, nodup_cons] at hn
    have hq : ¬ Skipped config routableNodes done q := hrs q (mem_cons_self ..)
    have hdone := (reassignStep_done entityType config membership routableNodes draft done
      q).resolve_left (fun h => hq h.2)
    have hrec := reassignStep_recorded entityType config membership routableNodes draft done q
    rw [if_neg hq] at hrec
    rw [foldl_cons]
    generalize reassignStep entityType config membership routableNodes (draft, done) q = acc
      at hdone hrec ⊢
    obtain ⟨next, done'⟩ := acc
    simp only at hdone hrec
    have hrest : ∀ r ∈ rs, ¬ Skipped config routableNodes done' r := by
      intro r hr hskip
      refine hrs r (mem_cons_of_mem _ hr) (hskip.imp_right (Or.imp_left fun hm => ?_))
      rw [hdone, Finset.mem_insert] at hm
      exact hm.resolve_left fun he => hn.1 (he ▸ mem_map_of_mem hr)
    obtain ⟨hin, hout⟩ := ih next done' hn.2 hrest
    constructor
    · intro r hr hrs'
      rcases mem_cons.mp hr with rfl | hr
      · rw [hout (hrs' ▸ hn.1), hrec.lookup s, if_pos hrs'.symm]
      · exact hin r hr hrs'
    · intro hs
      simp only [map_cons, mem_cons, not_or] at hs
      rw [hout hs.2, hrec.lookup s, if_neg hs.1]

lemma modulo_allocatePass_lookup (modulo : DeterministicModuloShardAllocationStrategy)
    (hne : routableNodes ≠ []) (assignments : BTreeMap ShardId NodeId)
    (hs : s < config.numberOfShards) :
    (allocatePass entityType config modulo.toStrategy membership routableNodes
        assignments).assignments[s]? = if OwnedLive routableNodes assignments s then assignments[s]?
      else desiredOwner routableNodes s := by
  rw [allocatePass, modulo_allocateSteps_lookup modulo hne _ _ nodup_range]
  simp [hs, ite_not]

variable (entityType membership) in
theorem moves_shards_toFinset (modulo : DeterministicModuloShardAllocationStrategy)
    (hne : routableNodes ≠ []) (hr : InRange config assignments) :
    ((moves ⟨entityType, config, membership,
      routableNodes, (allocatePass entityType config modulo.toStrategy membership routableNodes
        assignments).assignments⟩).map shardId).toFinset =
      misplaced routableNodes config assignments := by
  ext s
  rw [mem_toFinset, mem_map, mem_misplaced]
  constructor
  · rintro ⟨r, hmem, rfl⟩
    obtain ⟨owner, ho, hd, hne'⟩ := mem_moves.mp hmem
    have hlt := allocatePass_inRange hr _ _ ho
    simp only at ho hd
    rw [modulo_allocatePass_lookup modulo hne assignments hlt] at ho
    split_ifs at ho with hlive
    · obtain ⟨live, hl, hlo⟩ := hlive
      rw [ho, Option.some.injEq] at hlo
      refine ⟨hlt, owner, hlo ▸ hl, ho, ?_⟩
      rw [hd]
      exact fun he => hne' (Option.some.inj he).symm
    · exact absurd (Option.some.inj (ho.symm.trans hd)) hne'
  · rintro ⟨hlt, owner, hl, ho, hne'⟩
    obtain ⟨n, -, hd⟩ := desiredOwner_mem hne s
    refine ⟨⟨s, n⟩, mem_moves.mpr ⟨owner, ?_, hd, fun he => hne' (he ▸ hd)⟩, rfl⟩
    simp only
    rw [modulo_allocatePass_lookup modulo hne assignments hlt, if_pos ⟨owner, hl, ho⟩, ho]

variable (entityType membership) in
/-- One reconciliation settles every shard except the misplaced ones beyond the cap. -/
theorem modulo_reconcileDraft_lookup (modulo : DeterministicModuloShardAllocationStrategy)
    (hne : routableNodes ≠ []) (hr : InRange config assignments) :
    ∃ moved ⊆ misplaced routableNodes config assignments,
      moved.card = (if modulo.maxSimultaneousRebalance = 0 then
          (misplaced routableNodes config assignments).card else min modulo.maxSimultaneousRebalance
          (misplaced routableNodes config assignments).card) ∧ ∀ s < config.numberOfShards,
        (reconcileDraft entityType config modulo.toStrategy membership routableNodes
            assignments).assignments[s]? =
          if s ∈ misplaced routableNodes config assignments \ moved then assignments[s]?
          else desiredOwner routableNodes s := by
  set pass := allocatePass entityType config modulo.toStrategy membership routableNodes assignments
    with hpass
  set context : ShardRebalanceContext :=
    ⟨entityType, config, membership, routableNodes, pass.assignments⟩ with hcontext
  have hnodup := moves_shards_nodup context
  have hmoves := moves_shards_toFinset entityType membership modulo hne hr
  rw [← hpass, ← hcontext] at hmoves
  have hsub := modulo.rebalance_sublist context
  have hrnodup : ((modulo.rebalance context).map shardId).Nodup :=
    hnodup.sublist (hsub.map _)
  refine ⟨((modulo.rebalance context).map shardId).toFinset, ?_, ?_, ?_⟩
  · rw [← hmoves]
    intro s hs
    exact mem_toFinset.mpr ((hsub.map _).subset (mem_toFinset.mp hs))
  · rw [toFinset_card_of_nodup hrnodup, length_map, modulo.rebalance_length, ← hmoves,
      toFinset_card_of_nodup hnodup, length_map]
  · intro s hs
    have hskip : ∀ r ∈ modulo.rebalance context, ¬ Skipped config routableNodes ∅ r := by
      intro r hrm hskip
      obtain ⟨owner, ho, hd, -⟩ := mem_moves.mp
        (hsub.subset hrm)
      obtain ⟨n, hn, hd'⟩ := desiredOwner_mem hne r.shardId
      rcases hskip with h | h | h
      · exact absurd (allocatePass_inRange hr _ _ ho) (not_lt.mpr h)
      · exact Finset.notMem_empty _ h
      · exact h (Option.some.inj (hd'.symm.trans hd) ▸ hn)
    obtain ⟨hin, hout⟩ := reassignSteps_lookup entityType membership (modulo.rebalance context)
      pass ∅ hrnodup hskip s
    have hdraft : reconcileDraft entityType config modulo.toStrategy membership routableNodes
        assignments = ((modulo.rebalance context).foldl
          (reassignStep entityType config membership routableNodes) (pass, ∅)).1 := by
      rw [reconcileDraft, if_neg (by simpa using hne)]
      rfl
    rw [hdraft]
    by_cases hmem : s ∈ (modulo.rebalance context).map shardId
    · obtain ⟨r, hrm, rfl⟩ := mem_map.mp hmem
      obtain ⟨-, -, hd, -⟩ := mem_moves.mp
        (hsub.subset hrm)
      rw [hin r hrm rfl, if_neg (fun h => (Finset.mem_sdiff.mp h).2 (mem_toFinset.mpr hmem))]
      exact hd.symm
    · rw [hout hmem, modulo_allocatePass_lookup modulo hne assignments hs]
      by_cases hlive : OwnedLive routableNodes assignments s
      · rw [if_pos hlive]
        split_ifs with hmis
        · rfl
        · obtain ⟨owner, hl, ho⟩ := hlive
          have hnot : s ∉ misplaced routableNodes config assignments := fun hm =>
            hmis (Finset.mem_sdiff.mpr ⟨hm, fun h => hmem (mem_toFinset.mp h)⟩)
          rw [ho]
          by_contra hd
          exact hnot (mem_misplaced.mpr ⟨hs, owner, hl, ho, fun he => hd he.symm⟩)
      · rw [if_neg hlive, if_neg]
        intro hmis
        obtain ⟨-, owner, hl, ho, -⟩ := mem_misplaced.mp (Finset.mem_sdiff.mp hmis).1
        exact hlive ⟨owner, hl, ho⟩

end Passes

namespace ShardCoordinator
variable (c : ShardCoordinator) (membership : ClusterMembership)

def misplacedShards : Finset ShardId :=
  misplaced membership.routableNodes c.config c.assignments

def unplacedShards : Finset ShardId :=
  (Finset.range c.config.numberOfShards).filter
    (fun s => ¬ OwnedLive membership.routableNodes c.assignments s)

def AtModuloTarget : Prop :=
  ∀ s : ShardId, c.assignments[s]? =
    if s < c.config.numberOfShards then desiredOwner membership.routableNodes s else none

lemma atModuloTarget_of_settled {c : ShardCoordinator} {membership : ClusterMembership}
    (hm : c.misplacedShards membership = ∅) (hu : c.unplacedShards membership = ∅) :
    c.AtModuloTarget membership := by
  intro s
  split_ifs with hs
  · have hlive : OwnedLive membership.routableNodes c.assignments s := by
      by_contra hlive
      exact Finset.notMem_empty s (hu ▸ Finset.mem_filter.mpr ⟨Finset.mem_range.mpr hs, hlive⟩)
    obtain ⟨owner, hl, ho⟩ := hlive
    rw [ho]
    by_contra hd
    exact Finset.notMem_empty s (hm ▸ mem_misplaced.mpr ⟨hs, owner, hl, ho, fun he => hd he.symm⟩)
  · rw [Option.eq_none_iff_forall_not_mem]
    exact fun owner ho => hs (c.inRange s owner ho)

section Modulo
variable {modulo : DeterministicModuloShardAllocationStrategy} {c : ShardCoordinator}
  {membership : ClusterMembership}

section
variable (hc : c.allocationStrategy = modulo.toStrategy) (hne : membership.routableNodes ≠ [])
include hc hne

lemma modulo_reconcile_lookup : ∃ moved ⊆ c.misplacedShards membership,
      moved.card = (if modulo.maxSimultaneousRebalance = 0 then (c.misplacedShards membership).card
        else min modulo.maxSimultaneousRebalance (c.misplacedShards membership).card) ∧
      ∀ s < c.config.numberOfShards, (c.reconcile membership).2.assignments[s]? =
        if s ∈ c.misplacedShards membership \ moved then c.assignments[s]?
        else desiredOwner membership.routableNodes s := by
  have h := modulo_reconcileDraft_lookup c.entityType membership modulo hne c.inRange
  rw [← hc] at h
  exact h

lemma modulo_reconcile_misplaced : ((c.reconcile membership).2.misplacedShards membership).card =
      if modulo.maxSimultaneousRebalance = 0 then 0
      else (c.misplacedShards membership).card - modulo.maxSimultaneousRebalance := by
  obtain ⟨moved, hsub, hcard, hlookup⟩ := modulo_reconcile_lookup hc hne
  have heq : (c.reconcile membership).2.misplacedShards membership =
      c.misplacedShards membership \ moved := by
    ext s
    rw [misplacedShards, mem_misplaced]
    constructor
    · rintro ⟨hs, owner, hl, ho, hd⟩
      rw [hlookup s hs] at ho
      split_ifs at ho with hmem
      · exact hmem
      · exact absurd ho hd
    · intro hmem
      obtain ⟨hs, owner, hl, ho, hd⟩ := mem_misplaced.mp (Finset.mem_sdiff.mp hmem).1
      exact ⟨hs, owner, hl, by rw [hlookup s hs, if_pos hmem, ho], hd⟩
  rw [heq, Finset.card_sdiff_of_subset hsub, hcard]
  split_ifs
  · exact Nat.sub_self _
  · omega

lemma modulo_reconcile_unplaced : (c.reconcile membership).2.unplacedShards membership = ∅ := by
  refine Finset.filter_eq_empty_iff.mpr (fun s hs => not_not.mpr ?_)
  have halloc := BuiltInStrategy.allocates (.deterministicModulo modulo)
  exact reconcileDraft_ownedLive (hc ▸ halloc) hne c.assignments (Finset.mem_range.mp hs)

theorem modulo_reconcile_capped (hcap : modulo.maxSimultaneousRebalance ≠ 0) :
    ((c.reconcile membership).1.decisions.filter
      (fun d => d.change.old.any (isRoutableNode membership.routableNodes))).length ≤
        modulo.maxSimultaneousRebalance := by
  have hb : c.allocationStrategy = (BuiltInStrategy.deterministicModulo modulo).toStrategy := hc
  obtain ⟨moved, -, hcard, hlookup⟩ := modulo_reconcile_lookup hc hne
  rw [if_neg hcap] at hcard
  set live := (c.reconcile membership).1.decisions.filter
    (fun d => d.change.old.any (isRoutableNode membership.routableNodes)) with hlive
  have hnodup : (live.map (·.shard.shardId)).Nodup :=
    (draft_shards_nodup hb membership).sublist (filter_sublist.map _)
  have hsub : (live.map (·.shard.shardId)).toFinset ⊆ moved := by
    intro s hs
    obtain ⟨d, hd, rfl⟩ := mem_map.mp (mem_toFinset.mp hs)
    obtain ⟨hmem, hany⟩ := mem_filter.mp hd
    obtain ⟨owner, hold, hl⟩ := Option.any_eq_true _ _ |>.mp hany
    obtain ⟨ho, hnew⟩ := draft_change_eq hb hmem
    change (c.reconcile membership).2.assignments[d.shard.shardId]? = d.change.new at hnew
    have hlt := c.inRange _ owner (ho.trans hold)
    by_contra hmoved
    have hne' := draft_new_ne_old hmem
    rw [← hnew, ← ho, hlookup _ hlt] at hne'
    split_ifs at hne' with hmis
    · exact hne' rfl
    · refine hmis (Finset.mem_sdiff.mpr ⟨mem_misplaced.mpr ⟨hlt, owner, ?_, ho.trans hold, ?_⟩, hmoved⟩)
      · simpa [isRoutableNode] using hl
      · rwa [← hold, ← ho]
  calc live.length = (live.map (·.shard.shardId)).toFinset.card := by
        rw [toFinset_card_of_nodup hnodup, length_map]
    _ ≤ moved.card := Finset.card_le_card hsub
    _ ≤ modulo.maxSimultaneousRebalance := by rw [hcard]; exact min_le_left _ _

lemma modulo_reconcile_decisions_eq_nil (ht : c.AtModuloTarget membership) :
    (c.reconcile membership).1.decisions = [] := by
  have hb : c.allocationStrategy = (BuiltInStrategy.deterministicModulo modulo).toStrategy := hc
  refine (draft_unchanged_iff hb membership).mp (Std.ExtTreeMap.ext_getElem? (fun s => ?_))
  obtain ⟨moved, -, -, hlookup⟩ := modulo_reconcile_lookup hc hne
  by_cases hs : s < c.config.numberOfShards
  · have h := hlookup s hs
    split_ifs at h with hmis
    · exact h
    · rw [ht s, if_pos hs]
      exact h
  · rw [ht s, if_neg hs, Option.eq_none_iff_forall_not_mem]
    exact fun owner ho => hs ((c.reconcile membership).2.inRange s owner ho)

end

end Modulo

def reconcileTimes (j : ℕ) : ShardCoordinator :=
  c.reconcileAll (List.replicate j membership)

lemma reconcileTimes_succ (j : ℕ) : c.reconcileTimes membership (j + 1) =
      ((c.reconcileTimes membership j).reconcile membership).2 := by
  rw [reconcileTimes, replicate_succ', reconcileAll, foldl_append]
  rfl

lemma reconcileTimes_config (j : ℕ) : (c.reconcileTimes membership j).config = c.config :=
  (c.reconcileAll_static _).2.1

lemma reconcileTimes_allocationStrategy (j : ℕ) :
    (c.reconcileTimes membership j).allocationStrategy = c.allocationStrategy :=
  (c.reconcileAll_static _).2.2

section Modulo
variable {modulo : DeterministicModuloShardAllocationStrategy} {c : ShardCoordinator}
variable {j : ℕ}

  {membership : ClusterMembership}

lemma modulo_reconcileTimes_misplaced (hc : c.allocationStrategy = modulo.toStrategy)
    (hne : membership.routableNodes ≠ []) (hcap : modulo.maxSimultaneousRebalance ≠ 0) (j : ℕ) :
    ((c.reconcileTimes membership j).misplacedShards membership).card =
      (c.misplacedShards membership).card - j * modulo.maxSimultaneousRebalance := by
  induction j with
  | zero => rw [Nat.zero_mul, Nat.sub_zero]; rfl
  | succ j ih =>
    have hstrategy := (c.reconcileTimes_allocationStrategy membership j).trans hc
    rw [reconcileTimes_succ, modulo_reconcile_misplaced hstrategy hne, if_neg hcap, ih,
      Nat.succ_mul, Nat.sub_sub]

def callsNeeded (c : ShardCoordinator) (cap : ℕ) (membership : ClusterMembership) : ℕ :=
  if cap = 0 then 1
  else max ((c.misplacedShards membership).card ⌈/⌉ cap)
    (if c.unplacedShards membership = ∅ then 0 else 1)

lemma modulo_reconcileTimes_atModuloTarget (hc : c.allocationStrategy = modulo.toStrategy)
    (hne : membership.routableNodes ≠ [])
    (hj : c.callsNeeded modulo.maxSimultaneousRebalance membership ≤ j) :
    (c.reconcileTimes membership j).AtModuloTarget membership := by
  apply atModuloTarget_of_settled
  · by_cases hcap : modulo.maxSimultaneousRebalance = 0
    · rw [callsNeeded, if_pos hcap] at hj
      obtain ⟨i, rfl⟩ := Nat.exists_eq_add_of_le' hj
      have hstrategy := (c.reconcileTimes_allocationStrategy membership i).trans hc
      rw [reconcileTimes_succ, ← Finset.card_eq_zero, modulo_reconcile_misplaced hstrategy hne,
        if_pos hcap]
    · rw [callsNeeded, if_neg hcap] at hj
      have hk : (c.misplacedShards membership).card ≤ modulo.maxSimultaneousRebalance * j :=
        (ceilDiv_le_iff_le_mul (Nat.pos_of_ne_zero hcap)).mp ((le_max_left _ _).trans hj)
      rw [← Finset.card_eq_zero, modulo_reconcileTimes_misplaced hc hne hcap, Nat.mul_comm]
      exact Nat.sub_eq_zero_of_le hk
  · cases j with
    | zero =>
      by_contra hu
      have hu : c.unplacedShards membership ≠ ∅ := hu
      rw [callsNeeded, if_neg hu] at hj
      split_ifs at hj <;> omega
    | succ i =>
      have hstrategy := (c.reconcileTimes_allocationStrategy membership i).trans hc
      rw [reconcileTimes_succ]
      exact modulo_reconcile_unplaced hstrategy hne

/-- Repeated calls bring `c` to `target`, never move more than `cap` shards away from live owners at
once, and are silent from then on. -/
structure ConvergesTo (target : BTreeMap ShardId NodeId) (cap : ℕ) (c : ShardCoordinator)
    (membership : ClusterMembership) : Prop where
  reached : ∀ j, c.callsNeeded cap membership ≤ j →
    (c.reconcileTimes membership j).assignments = target
  capped : cap ≠ 0 → ∀ j, (((c.reconcileTimes membership j).reconcile membership).1.decisions.filter
    (fun d => d.change.old.any (isRoutableNode membership.routableNodes))).length ≤ cap
  silent : ∀ j, (c.reconcileTimes membership j).assignments = target → ∀ i, j ≤ i →
    ((c.reconcileTimes membership i).reconcile membership).1.decisions = []

lemma modulo_reconcileTimes_stays (hc : c.allocationStrategy = modulo.toStrategy)
    (hne : membership.routableNodes ≠ [])
    (hj : (c.reconcileTimes membership j).AtModuloTarget membership) (i : ℕ) :
    (c.reconcileTimes membership (j + i)).AtModuloTarget membership := by
  induction i with
  | zero => exact hj
  | succ i ih =>
    have hstrategy := (c.reconcileTimes_allocationStrategy membership (j + i)).trans hc
    have hb : (c.reconcileTimes membership (j + i)).allocationStrategy =
      (BuiltInStrategy.deterministicModulo modulo).toStrategy := hstrategy
    have hnil := modulo_reconcile_decisions_eq_nil hstrategy hne ih
    rw [← Nat.add_assoc, reconcileTimes_succ]
    have hsame := (draft_unchanged_iff hb membership).mpr hnil
    exact fun s => (congrArg (·[s]?) hsame).trans (ih s)

lemma modulo_convergesTo (hc : c.allocationStrategy = modulo.toStrategy)
    (hne : membership.routableNodes ≠ []) {target : BTreeMap ShardId NodeId}
    (ht : ∀ s : ShardId, target[s]? =
      if s < c.config.numberOfShards then desiredOwner membership.routableNodes s else none) :
    ConvergesTo target modulo.maxSimultaneousRebalance c membership := by
  have hstrategy (j : ℕ) := (c.reconcileTimes_allocationStrategy membership j).trans hc
  refine ⟨?_, ?_, ?_⟩
  · intro j hj
    refine Std.ExtTreeMap.ext_getElem? (fun s => ?_)
    rw [modulo_reconcileTimes_atModuloTarget hc hne hj s, ht s, reconcileTimes_config]
  · exact fun hcap j => modulo_reconcile_capped (hstrategy j) hne hcap
  · intro j hj i hi
    obtain ⟨d, rfl⟩ := Nat.exists_eq_add_of_le hi
    have hat : (c.reconcileTimes membership j).AtModuloTarget membership := by
      intro s
      rw [hj, ht s, reconcileTimes_config]
    exact modulo_reconcile_decisions_eq_nil (hstrategy _) hne
      (modulo_reconcileTimes_stays hc hne hat d)

end Modulo

/-- Two coordinators with the same number of shards meet in the map that gives shard `i`
to the `i mod n`-th of the `n` members that are up, in node-id order. -/
theorem modulo_converge (cap₁ cap₂ : ℕ) (c₁ c₂ : ShardCoordinator)
    (h₁ : c₁.allocationStrategy = toStrategy ⟨cap₁⟩)
    (h₂ : c₂.allocationStrategy = toStrategy ⟨cap₂⟩)
    (hshards : c₁.config.numberOfShards = c₂.config.numberOfShards)
    (membership : ClusterMembership) (hup : ∃ id, IsUp membership id) :
    ∃ (up : List NodeId) (target : BTreeMap ShardId NodeId),
      (∀ id, id ∈ up ↔ IsUp membership id) ∧ up.Pairwise (· < ·) ∧ (∀ s : ShardId, target[s]? =
        if s < c₁.config.numberOfShards then up[s % up.length]? else none) ∧
      ConvergesTo target cap₁ c₁ membership ∧ ConvergesTo target cap₂ c₂ membership := by
  obtain ⟨id, hid⟩ := hup
  have hne := routableNodes_ne_nil hid
  have hdesired (s : ShardId) : desiredOwner membership.routableNodes s =
      membership.routableNodes[s % membership.routableNodes.length]? :=
    if_neg (by simpa using hne)
  set calls := c₁.callsNeeded cap₁ membership
  have htarget (s : ShardId) : (c₁.reconcileTimes membership calls).assignments[s]? =
      if s < c₁.config.numberOfShards then desiredOwner membership.routableNodes s else none := by
    rw [modulo_reconcileTimes_atModuloTarget h₁ hne le_rfl s, reconcileTimes_config]
  refine ⟨membership.routableNodes, _, membership.mem_routableNodes,
    membership.routableNodes_pairwise_lt, ?_, modulo_convergesTo h₁ hne htarget,
    modulo_convergesTo h₂ hne (hshards ▸ htarget)⟩
  intro s
  rw [← hdesired]
  exact htarget s

def cartCoordinator (cap : ℕ) : ShardCoordinator :=
  withAllocationStrategyRef ⟨"cart"⟩ ⟨4, by decide⟩
    (toStrategy ⟨cap⟩)

theorem modulo_converge_solo : ∃ (up : List NodeId) (target : BTreeMap ShardId NodeId),
      (∀ id, id ∈ up ↔ IsUp soloMembership id) ∧ up.Pairwise (· < ·) ∧
      (∀ s : ShardId, target[s]? = if s < 4 then up[s % up.length]? else none) ∧
      ConvergesTo target 0 (cartCoordinator 0) soloMembership ∧
      ConvergesTo target 2 (cartCoordinator 2) soloMembership :=
  modulo_converge 0 2 (cartCoordinator 0) (cartCoordinator 2) rfl rfl rfl soloMembership
    ⟨_, soloMembership_isUp⟩

end ShardCoordinator
end Rakka.Sharding
