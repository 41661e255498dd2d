import Rakka.Sharding.Ownership

/-! A rebalance plan is the exact difference of the ownership maps before and after it. With the
least-shard strategy this needs that a node which received a shard in the allocation pass stays
within one shard of the least loaded node, and that a donor does not. -/

namespace Rakka.Sharding
open Cluster Foundation LeastShardAllocationStrategy List BTreeMap

section Passes
variable {entityType : EntityType} {config : ShardingConfig} {strategy : ShardAllocationStrategy}
variable {s : ShardId} {draft : PlanDraft} {assignments : BTreeMap ShardId NodeId}
variable {old : BTreeMap ShardId NodeId} {draft' : PlanDraft} {new : Option NodeId} {t : ShardId}
  {source target : NodeId}

  {membership : ClusterMembership} {routableNodes : List NodeId}

namespace PlanDraft

variable (draft)

def shards : List ShardId := draft.decisions.map (·.shard.shardId)

def changes : List (Change ShardId NodeId) :=
  draft.decisions.map ShardDecision.change

lemma changes_keys : draft.changes.map Change.key = draft.shards := by
  rw [changes, shards, map_map]
  exact map_congr_left (fun d _ => d.change_key)

variable {draft}

/-- The decisions of the draft, replayed on `old`, give its ownership map. -/
structure JournalOf (old : BTreeMap ShardId NodeId) (draft : PlanDraft) : Prop where
  faithful : BTreeMap.Faithful old draft.changes
  replay_eq : BTreeMap.replay old draft.changes = draft.assignments

end PlanDraft

open PlanDraft

lemma Recorded.journalOf (h : Recorded entityType draft s new draft') (hj : draft.JournalOf old) :
    draft'.JournalOf old := by
  cases h with
  | same h => exact hj
  | changed d hs hold hnew hne =>
    have hkey : d.change.key = s := by rw [d.change_key, hs]
    constructor
    · rw [changes, map_append, faithful_append]
      refine ⟨hj.faithful, ?_, hnew.symm ▸ hne, trivial⟩
      rw [← changes, hj.replay_eq, hkey, hold]
    · rw [changes, map_append, replay_append, ← changes, hj.replay_eq]
      change BTreeMap.assign draft.assignments d.change.key d.change.new = _
      rw [hkey, hnew]

lemma Recorded.shards_cases (h : Recorded entityType draft s new draft') :
    draft' = draft ∨ (draft'.shards = draft.shards ++ [s] ∧ new ≠ draft.assignments[s]?) := by
  cases h with
  | same h => exact .inl rfl
  | changed d hs hold hnew hne =>
    refine .inr ⟨?_, hold ▸ hne⟩
    rw [shards, map_append, map_singleton, hs]
    rfl

lemma allocatePass_journalOf (assignments : BTreeMap ShardId NodeId) :
    (allocatePass entityType config strategy membership routableNodes assignments).JournalOf
      assignments :=
  List.foldlRecOn (motive := fun draft : PlanDraft => draft.JournalOf assignments) _ _
    ⟨trivial, rfl⟩ (fun _ hd _ _ => (allocateStep_recorded ..).journalOf hd)

lemma reassignPass_journalOf (h : draft.JournalOf old) :
    (reassignPass entityType config strategy membership routableNodes draft).JournalOf old :=
  List.foldlRecOn (motive := fun acc : PlanDraft × Finset ShardId => acc.1.JournalOf old) _ _ h
    (fun _ hd _ _ => (reassignStep_recorded ..).journalOf hd)

lemma allocateSteps_shards (visits : List ShardId) (draft : PlanDraft) (hv : visits.Nodup)
    (hd : draft.shards.Nodup) (hdisj : ∀ s ∈ visits, s ∉ draft.shards) :
    (visits.foldl (allocateStep entityType config strategy membership routableNodes)
      draft).shards.Nodup := by
  induction visits generalizing draft with
  | nil => exact hd
  | cons s visits ih =>
    obtain ⟨hs, hv⟩ := nodup_cons.mp hv
    rw [foldl_cons]
    rcases (allocateStep_recorded entityType config strategy membership routableNodes draft
      s).shards_cases with h | ⟨h, -⟩
    · rw [h]
      exact ih draft hv hd (fun t ht => hdisj t (mem_cons_of_mem _ ht))
    · refine ih _ hv ?_ ?_
      · rw [h, ← concat_eq_append]
        exact hd.concat (hdisj s (mem_cons_self ..))
      · intro t ht
        rw [h, mem_append, mem_singleton]
        rintro (hm | rfl)
        · exact hdisj t (mem_cons_of_mem _ ht) hm
        · exact hs ht

variable (entityType config membership routableNodes) in
lemma reassignStep_done (draft : PlanDraft) (done : Finset ShardId) (r : ShardReassignment) :
    ((reassignStep entityType config membership routableNodes (draft, done) r).2 = done ∧
        Skipped config routableNodes done r) ∨
      (reassignStep entityType config membership routableNodes (draft, done) r).2 =
        insert r.shardId done := by
  unfold reassignStep
  simp only
  split_ifs with hguard hroute
  · refine .inl ⟨rfl, ?_⟩
    simp only [ShardingConfig.containsShard, Bool.or_eq_true, Bool.not_eq_true',
      decide_eq_false_iff_not, not_lt, decide_eq_true_eq] at hguard
    exact or_assoc.mp (.inl hguard)
  · exact .inr rfl
  · refine .inr ?_
    split
    · rfl
    · split_ifs <;> rfl

theorem reassignSteps_shards (rs : List ShardReassignment) (base : List ShardId) (draft : PlanDraft)
    (done : Finset ShardId) (hrs : ∀ r ∈ rs, r.shardId ∉ base) (hn : draft.shards.Nodup)
    (hsub : ∀ s ∈ draft.shards, s ∈ base ∨ s ∈ done) :
    (rs.foldl (reassignStep entityType config membership routableNodes)
      (draft, done)).1.shards.Nodup := by
  induction rs generalizing draft done with
  | nil => exact hn
  | cons r rs ih =>
    have hdone := reassignStep_done entityType config membership routableNodes draft done r
    have hrec := reassignStep_recorded entityType config membership routableNodes draft done r
    have hrest : ∀ q ∈ rs, q.shardId ∉ base := fun q hq => hrs q (mem_cons_of_mem _ hq)
    rw [foldl_cons]
    generalize reassignStep entityType config membership routableNodes (draft, done) r = acc
      at hdone hrec ⊢
    obtain ⟨next, done'⟩ := acc
    simp only at hdone hrec
    have hmono {s : ShardId} (hs : s ∈ done) : s ∈ done' := by
      rcases hdone with ⟨h, -⟩ | h
      · exact h ▸ hs
      · exact h ▸ Finset.mem_insert_of_mem hs
    rcases hrec.shards_cases with h | ⟨h, hne⟩
    · rw [h]
      exact ih draft done' hrest hn (fun s hs => (hsub s hs).imp_right hmono)
    · have hskip : ¬ Skipped config routableNodes done r := fun hskip => hne (if_pos hskip)
      have hfresh : r.shardId ∉ draft.shards := fun hm =>
        (hsub _ hm).elim (hrs r (mem_cons_self ..)) (fun hd => hskip (.inr (.inl hd)))
      refine ih next done' hrest ?_ ?_
      · rw [h, ← concat_eq_append]
        exact hn.concat hfresh
      · intro s hs
        rw [h, mem_append, mem_singleton] at hs
        rcases hs with hs | rfl
        · exact (hsub s hs).imp_right hmono
        · rw [hdone.resolve_left (fun h => hskip h.2)]
          exact .inr (Finset.mem_insert_self _ _)

/-- The owner of `s` is routable and holds at most one shard more than any routable node. -/
def HeldLight (routableNodes : List NodeId) (assignments : BTreeMap ShardId NodeId) (s : ShardId) :
    Prop :=
  ∃ n ∈ routableNodes, assignments[s]? = some n ∧ ∀ k ∈ routableNodes,
    BTreeMap.valueCount assignments n ≤ BTreeMap.valueCount assignments k + 1

theorem heldLight_insert_least {n : NodeId} (hs : ¬ OwnedLive routableNodes assignments s)
    (hn : n ∈ routableNodes) (hleast : ∀ k ∈ routableNodes,
      BTreeMap.valueCount assignments n ≤ BTreeMap.valueCount assignments k)
    (ht : t = s ∨ HeldLight routableNodes assignments t) :
    HeldLight routableNodes (assignments.insert s n) t := by
  have hcount (k : NodeId) (hk : k ∈ routableNodes) :
      BTreeMap.valueCount (assignments.insert s n) k =
        BTreeMap.valueCount assignments k + (if n = k then 1 else 0) := by
    have h := valueCount_insert assignments s n k
    rwa [if_neg (fun ho => hs ⟨k, hk, ho⟩), Nat.add_zero] at h
  by_cases hts : t = s
  · refine ⟨n, hn, by rw [hts, lookup_insert, if_pos rfl], fun k hk => ?_⟩
    have := hleast k hk
    rw [hcount n hn, hcount k hk, if_pos rfl]
    omega
  · obtain ⟨o, ho, hto, hlight⟩ := ht.resolve_left hts
    refine ⟨o, ho, by rw [lookup_insert, if_neg hts, hto], fun k hk => ?_⟩
    have h₁ := hleast k hk
    have h₂ := hlight k hk
    rw [hcount o ho, hcount k hk]
    by_cases hno : n = o
    · subst hno
      rw [if_pos rfl]
      omega
    · rw [if_neg hno]
      omega

lemma least_allocatePass_heldLight (least : LeastShardAllocationStrategy)
    (hne : routableNodes ≠ []) (assignments : BTreeMap ShardId NodeId) :
    ∀ s ∈ (allocatePass entityType config least.toStrategy membership routableNodes
        assignments).shards,
      HeldLight routableNodes (allocatePass entityType config least.toStrategy membership
        routableNodes assignments).assignments s := by
  refine List.foldlRecOn (motive := fun draft : PlanDraft =>
    ∀ s ∈ draft.shards, HeldLight routableNodes draft.assignments s) _ _
    (fun s hs => absurd hs not_mem_nil) ?_
  intro draft hd s _
  have hrec := allocateStep_recorded entityType config least.toStrategy membership routableNodes
    draft s
  generalize allocateStep entityType config least.toStrategy membership routableNodes draft s = next
    at hrec ⊢
  by_cases hlive : OwnedLive routableNodes draft.assignments s
  · rw [allocatedOwner_of_ownedLive hlive] at hrec
    rw [hrec.shards_cases.resolve_right (fun h => h.2 rfl)]
    exact hd
  · obtain ⟨n, hn, ha, hleast⟩ := allocateShard_spec
      ⟨entityType, config, membership, routableNodes, draft.assignments⟩ s hne
    have hnew : allocatedOwner entityType config least.toStrategy membership routableNodes
        draft.assignments s = some n := by
      have hstrategy : least.toStrategy.allocateShard
          ⟨entityType, config, membership, routableNodes, draft.assignments⟩ s = some n := ha
      rw [allocatedOwner_of_not_ownedLive hlive, hstrategy, Option.filter_some,
        if_pos (by simpa [isRoutableNode] using hn)]
    rw [hnew] at hrec
    have hmap : next.assignments = draft.assignments.insert s n := by
      refine Std.ExtTreeMap.ext_getElem? (fun a => ?_)
      rw [hrec.lookup a, lookup_insert]
    intro t ht
    rw [hmap]
    refine heldLight_insert_least hlive hn hleast ?_
    rcases hrec.shards_cases with h | ⟨h, -⟩
    · exact .inr (hd t (h ▸ ht))
    · rw [h, mem_append, mem_singleton] at ht
      exact ht.symm.imp_right (hd t)

/-- One move: the donor holds at least two shards more than the receiver, which is least loaded. -/
theorem heldLight_insert_move (hs : assignments[s]? = some source)
    (htarget : target ∈ routableNodes) (hmin : ∀ k ∈ routableNodes,
      BTreeMap.valueCount assignments target ≤ BTreeMap.valueCount assignments k)
    (hgap : BTreeMap.valueCount assignments target + 2 ≤ BTreeMap.valueCount assignments source)
    (ht : HeldLight routableNodes assignments t) :
    t ≠ s ∧ HeldLight routableNodes (assignments.insert s target) t := by
  obtain ⟨o, ho, hto, hlight⟩ := ht
  have hsource : o ≠ source := by
    rintro rfl
    have := hlight target htarget
    omega
  have hts : t ≠ s := by
    rintro rfl
    exact hsource (Option.some.inj (hto.symm.trans hs))
  have hcount (k : NodeId) :
      BTreeMap.valueCount (assignments.insert s target) k + (if source = k then 1 else 0) =
        BTreeMap.valueCount assignments k + (if target = k then 1 else 0) := by
    have h := valueCount_insert assignments s target k
    simpa only [hs, Option.some.injEq] using h
  refine ⟨hts, o, ho, by rw [lookup_insert, if_neg hts, hto], fun k hk => ?_⟩
  have h₁ := hcount o
  have h₂ := hcount k
  have h₃ := hlight target htarget
  have h₄ := hmin k hk
  rw [if_neg (Ne.symm hsource)] at h₁
  by_cases hto : target = o
  · subst hto
    rw [if_pos rfl] at h₁
    by_cases hsk : source = k
    · subst hsk
      simp only [if_true] at h₂
      omega
    · rw [if_neg hsk] at h₂
      omega
  · rw [if_neg hto] at h₁
    by_cases hsk : source = k
    · subst hsk
      simp only [if_true] at h₂
      omega
    · rw [if_neg hsk] at h₂
      omega

lemma counts_insert_move {counts : BTreeMap NodeId ℕ}
    (h : Counts routableNodes assignments counts) (hs : assignments[s]? = some source)
    (hsource : source ∈ routableNodes) (htarget : target ∈ routableNodes) (hne : source ≠ target) :
    Counts routableNodes (assignments.insert s target)
      ((counts.insert source (BTreeMap.valueCount assignments source - 1)).insert target
        (BTreeMap.valueCount assignments target + 1)) := by
  intro k
  have hcount := valueCount_insert assignments s target k
  simp only [hs, Option.some.injEq] at hcount
  rw [lookup_insert, lookup_insert, h k]
  by_cases hkt : k = target
  · subst hkt
    rw [if_pos rfl, if_pos htarget]
    rw [if_neg hne, if_pos rfl] at hcount
    exact congrArg some (by omega)
  · rw [if_neg (Ne.symm hkt)] at hcount
    rw [if_neg hkt]
    by_cases hks : k = source
    · subst hks
      rw [if_pos rfl] at hcount ⊢
      rw [if_pos hsource]
      exact congrArg some (by omega)
    · rw [if_neg (Ne.symm hks)] at hcount
      rw [if_neg hks]
      split_ifs
      · exact congrArg some (by omega)
      · rfl

/-- The loop never moves a shard whose owner was within one shard of the least loaded node at its
start. -/
theorem rebalanceLoop_notMem {threshold : ℕ} (hthreshold : 1 ≤ threshold) (frozen : List ShardId)
    (remaining : ℕ) (assignments : BTreeMap ShardId NodeId) (counts : BTreeMap NodeId ℕ)
    (moved : Finset ShardId) (hc : Counts routableNodes assignments counts)
    (hfrozen : ∀ s ∈ frozen, HeldLight routableNodes assignments s) :
    ∀ r ∈ rebalanceLoop threshold remaining assignments counts moved, r.shardId ∉ frozen := by
  induction remaining generalizing assignments counts moved with
  | zero => intro r hr; cases hr
  | succ remaining ih =>
    intro r hr
    unfold rebalanceLoop at hr
    split at hr
    case h_2 => cases hr
    case h_1 source maxCount target minCount hmax hmin =>
      obtain ⟨hsource, rfl⟩ := hc.maxOwner_spec hmax
      obtain ⟨htarget, rfl, hleast⟩ := hc.minOwner_spec hmin
      split_ifs at hr with hgap
      · cases hr
      · split at hr
        · cases hr
        · rename_i s owner hfind
          have hfound := List.find?_some hfind
          have hmem := mem_of_find?_eq_some hfind
          simp only [decide_eq_true_eq] at hfound
          have hs : assignments[s]? = some source := by
            rw [← hfound.1]
            exact Std.ExtTreeMap.mem_toList_iff_getElem?_eq_some.mp hmem
          have hgap : BTreeMap.valueCount assignments target + 2 ≤
              BTreeMap.valueCount assignments source := by omega
          have hne : source ≠ target := by
            rintro rfl
            omega
          have hstep {t : ShardId} (ht : t ∈ frozen) :=
            heldLight_insert_move hs htarget hleast hgap (hfrozen t ht)
          rcases mem_cons.mp hr with rfl | hr
          · exact fun hm => (hstep hm).1 rfl
          · exact ih _ _ _ (counts_insert_move hc hs hsource htarget hne)
              (fun t ht => (hstep ht).2) r hr

lemma modulo_allocatedOwner (modulo : DeterministicModuloShardAllocationStrategy)
    (hne : routableNodes ≠ []) (h : ¬ OwnedLive routableNodes assignments s) :
    allocatedOwner entityType config modulo.toStrategy membership routableNodes assignments s =
      desiredOwner routableNodes s := by
  obtain ⟨n, hn, hd⟩ := desiredOwner_mem hne s
  have hstrategy : modulo.toStrategy.allocateShard
      ⟨entityType, config, membership, routableNodes, assignments⟩ s = some n := hd
  rw [allocatedOwner_of_not_ownedLive h, hstrategy, hd, Option.filter_some,
    if_pos (by simpa [isRoutableNode] using hn)]

lemma modulo_allocatePass_desired (modulo : DeterministicModuloShardAllocationStrategy)
    (hne : routableNodes ≠ []) (assignments : BTreeMap ShardId NodeId) :
    ∀ s ∈ (allocatePass entityType config modulo.toStrategy membership routableNodes
        assignments).shards,
      (allocatePass entityType config modulo.toStrategy membership routableNodes
        assignments).assignments[s]? = desiredOwner routableNodes s := by
  refine List.foldlRecOn (motive := fun draft : PlanDraft =>
    ∀ s ∈ draft.shards, draft.assignments[s]? = desiredOwner routableNodes s) _ _
    (fun s hs => absurd hs not_mem_nil) ?_
  intro draft hd s _
  have hrec := allocateStep_recorded entityType config modulo.toStrategy membership routableNodes
    draft s
  generalize allocateStep entityType config modulo.toStrategy membership routableNodes draft s =
    next at hrec ⊢
  rcases hrec.shards_cases with h | ⟨h, hne'⟩
  · rw [h]
    exact hd
  · have hlive : ¬ OwnedLive routableNodes draft.assignments s := fun hlive =>
      hne' (allocatedOwner_of_ownedLive hlive)
    intro t ht
    rw [hrec.lookup t]
    split_ifs with hts
    · rw [hts, modulo_allocatedOwner modulo hne hlive]
    · rw [h, mem_append, mem_singleton] at ht
      exact hd t (ht.resolve_right hts)

lemma rebalance_notMem_allocated (b : BuiltInStrategy) (hne : routableNodes ≠ [])
    (assignments : BTreeMap ShardId NodeId) :
    ∀ r ∈ b.toStrategy.rebalance ⟨entityType, config, membership, routableNodes,
        (allocatePass entityType config b.toStrategy membership routableNodes
          assignments).assignments⟩,
      r.shardId ∉ (allocatePass entityType config b.toStrategy membership routableNodes
        assignments).shards := by
  cases b with
  | deterministicModulo modulo =>
    intro r hr hmem
    obtain ⟨owner, ho, hd, hne'⟩ := DeterministicModuloShardAllocationStrategy.mem_moves.mp
      ((modulo.rebalance_sublist _).subset hr)
    have hdesired := modulo_allocatePass_desired modulo hne assignments r.shardId hmem
    exact hne' (Option.some.inj (ho.symm.trans (hdesired.trans hd)))
  | least least =>
    exact rebalanceLoop_notMem (le_max_right _ _) _ _ _ _ _ (routableOwnerCounts_spec _ _)
      (least_allocatePass_heldLight least hne assignments)

variable (entityType) in
def unassignAll (assignments : BTreeMap ShardId NodeId) : PlanDraft :=
  ⟨∅, assignments.toList.map (fun p => .unassign ⟨entityType, p.1⟩ p.2 .noRoutableMembers)⟩

variable (assignments)

lemma unassignAll_shards :
    (unassignAll entityType assignments).shards = assignments.toList.map Prod.fst := by
  rw [shards, unassignAll, map_map]
  rfl

lemma unassignAll_changes : (unassignAll entityType assignments).changes =
      assignments.toList.map (fun p => ⟨p.1, some p.2, none⟩) := by
  rw [changes, unassignAll, map_map]
  rfl

lemma unassignAll_journalOf : (unassignAll entityType assignments).JournalOf assignments := by
  have hnodup : ((unassignAll entityType assignments).changes.map Change.key).Nodup := by
    rw [changes_keys, unassignAll_shards]
    exact toList_keys_nodup assignments
  constructor
  · refine faithful_of_old_eq hnodup ?_ ?_
    · simp only [unassignAll_changes, mem_map]
      rintro c ⟨p, hp, rfl⟩
      exact Std.ExtTreeMap.mem_toList_iff_getElem?_eq_some.mp hp
    · simp only [unassignAll_changes, mem_map]
      rintro c ⟨p, -, rfl⟩
      exact Option.some_ne_none _ |>.symm
  · refine Std.ExtTreeMap.ext_getElem? (fun a => ?_)
    change _ = (∅ : BTreeMap ShardId NodeId)[a]?
    rw [Std.ExtTreeMap.getElem?_empty]
    cases ha : assignments[a]? with
    | none =>
      rw [lookup_replay_of_notMem, ha]
      rw [changes_keys, unassignAll_shards, mem_map]
      rintro ⟨p, hp, rfl⟩
      rw [Std.ExtTreeMap.mem_toList_iff_getElem?_eq_some.mp hp] at ha
      cases ha
    | some owner =>
      refine lookup_replay_of_mem assignments hnodup ⟨a, some owner, none⟩ ?_
      rw [unassignAll_changes, mem_map]
      exact ⟨(a, owner), Std.ExtTreeMap.mem_toList_iff_getElem?_eq_some.mpr ha, rfl⟩

lemma reconcileDraft_journalOf :
    (reconcileDraft entityType config strategy membership routableNodes assignments).JournalOf
      assignments := by
  unfold reconcileDraft
  split_ifs
  · exact unassignAll_journalOf assignments
  · exact reassignPass_journalOf (allocatePass_journalOf assignments)

variable {assignments}

lemma reconcileDraft_shards_nodup (b : BuiltInStrategy) (assignments : BTreeMap ShardId NodeId) :
    (reconcileDraft entityType config b.toStrategy membership routableNodes
      assignments).shards.Nodup := by
  unfold reconcileDraft
  split_ifs with hempty
  · rw [← unassignAll, unassignAll_shards]
    exact toList_keys_nodup assignments
  · refine reassignSteps_shards _ _ _ ∅ (rebalance_notMem_allocated b (by simpa using hempty) assignments)
      ?_ (fun _ hs => .inl hs)
    exact allocateSteps_shards _ _ nodup_range nodup_nil (fun _ _ => not_mem_nil)

end Passes

/-- `plan` is the difference of the ownership maps of `c` and `c'`. -/
structure ExactDiff (plan : ShardRebalancePlan) (c c' : ShardCoordinator) : Prop where
  once : (plan.decisions.map (·.shard.shardId)).Nodup
  assign_unowned : ∀ shard target reason, .assign shard target reason ∈ plan.decisions →
    c.assignments[shard.shardId]? = none
  move_source : ∀ shard source target reason, .move shard source target reason ∈ plan.decisions →
    c.assignments[shard.shardId]? = some source ∧ source ≠ target
  unassign_source : ∀ shard source reason, .unassign shard source reason ∈ plan.decisions →
    c.assignments[shard.shardId]? = some source
  replays : BTreeMap.replay c.assignments (plan.decisions.map ShardDecision.change) = c'.assignments
  previousRevision : plan.previousRevision = c.revision
  newRevision : plan.newRevision = c'.revision
  changed : c'.assignments ≠ c.assignments → plan.newRevision = plan.previousRevision + 1
  unchanged : c'.assignments = c.assignments → plan.newRevision = plan.previousRevision

namespace ShardCoordinator
variable {c : ShardCoordinator} {membership : ClusterMembership} {b : BuiltInStrategy}
  {d : ShardDecision}

lemma draft_journalOf (c : ShardCoordinator) (membership : ClusterMembership) :
    (c.draft membership).JournalOf c.assignments :=
  reconcileDraft_journalOf c.assignments

lemma draft_shards_nodup (hb : c.allocationStrategy = b.toStrategy)
    (membership : ClusterMembership) : (c.draft membership).shards.Nodup := by
  rw [draft, hb]
  exact reconcileDraft_shards_nodup b c.assignments

lemma draft_change_eq (hb : c.allocationStrategy = b.toStrategy)
    (hd : d ∈ (c.draft membership).decisions) : c.assignments[d.shard.shardId]? = d.change.old ∧
      (c.draft membership).assignments[d.shard.shardId]? = d.change.new := by
  have hkeys := PlanDraft.changes_keys (c.draft membership) ▸ draft_shards_nodup hb membership
  have hjournal := c.draft_journalOf membership
  rw [← d.change_key, ← hjournal.replay_eq]
  exact ⟨hjournal.faithful.old_eq hkeys d.change (mem_map_of_mem hd),
    lookup_replay_of_mem c.assignments hkeys d.change (mem_map_of_mem hd)⟩

lemma draft_new_ne_old (hd : d ∈ (c.draft membership).decisions) : d.change.new ≠ d.change.old :=
  (c.draft_journalOf membership).faithful.new_ne_old d.change (mem_map_of_mem hd)

lemma draft_unchanged_iff (hb : c.allocationStrategy = b.toStrategy)
    (membership : ClusterMembership) :
    (c.draft membership).assignments = c.assignments ↔ (c.draft membership).decisions = [] := by
  have hkeys := PlanDraft.changes_keys (c.draft membership) ▸ draft_shards_nodup hb membership
  have hj := c.draft_journalOf membership
  rw [← hj.replay_eq, hj.faithful.replay_eq_self_iff hkeys, PlanDraft.changes, map_eq_nil_iff]

lemma reconcile_of_isEmpty (h : (c.reconcile membership).1.isEmpty = true) :
    (c.reconcile membership).2 = c := by
  have hdec : (c.draft membership).decisions = [] := isEmpty_iff.mp h
  have hassign : (c.draft membership).assignments = c.assignments := by
    rw [← (c.draft_journalOf membership).replay_eq, PlanDraft.changes, hdec]
    rfl
  cases c
  simp only [reconcile, hassign, hdec, bumpRevisionIfChanged, isEmpty_nil, if_true]

lemma reconcile_revision (h : (c.reconcile membership).1.isEmpty = false) :
    (c.reconcile membership).2.revision = c.revision + 1 :=
  if_neg (fun ht => Bool.false_ne_true (h.symm.trans ht))

end ShardCoordinator
end Rakka.Sharding
