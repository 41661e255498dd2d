import Rakka.Foundation.Journal
import Rakka.Sharding.Allocation

/-! The shard coordinator and its reconciliation against a membership table. -/

namespace Rakka.Sharding
open Cluster Foundation

structure ShardAssignment where
  shard : ShardKey
  owner : NodeId
  deriving DecidableEq, Repr

inductive ShardMoveReason where
  | initialAllocation | rebalance | gracefulLeave | ownerUnavailable | noRoutableMembers
  deriving DecidableEq, Repr

inductive ShardDecision where
  | assign (shard : ShardKey) (target : NodeId) (reason : ShardMoveReason)
  | move (shard : ShardKey) (source target : NodeId) (reason : ShardMoveReason)
  | unassign (shard : ShardKey) (source : NodeId) (reason : ShardMoveReason)
  deriving DecidableEq, Repr

namespace ShardDecision

def shard : ShardDecision → ShardKey
  | assign shard _ _ | move shard _ _ _ | unassign shard _ _ => shard

def change : ShardDecision → Change ShardId NodeId
  | assign shard target _ => ⟨shard.shardId, none, some target⟩
  | move shard source target _ => ⟨shard.shardId, some source, some target⟩
  | unassign shard source _ => ⟨shard.shardId, some source, none⟩

lemma change_key (d : ShardDecision) : d.change.key = d.shard.shardId := by
  cases d <;> rfl

end ShardDecision

structure ShardOwnershipSnapshot where
  revision : ℕ
  entityType : EntityType
  numberOfShards : ℕ
  assignments : List ShardAssignment
  deriving DecidableEq, Repr

structure ShardRebalancePlan where
  previousRevision : ℕ
  newRevision : ℕ
  decisions : List ShardDecision
  deriving DecidableEq, Repr

def ShardRebalancePlan.isEmpty (plan : ShardRebalancePlan) : Bool := plan.decisions.isEmpty

def InRange (config : ShardingConfig) (assignments : BTreeMap ShardId NodeId) : Prop :=
  ∀ (s : ShardId) (owner : NodeId), assignments[s]? = some owner → s < config.numberOfShards

/-- A coordinator never owns a shard outside its configured range. -/
structure ShardCoordinator where
  entityType : EntityType
  config : ShardingConfig
  assignments : BTreeMap ShardId NodeId
  revision : ℕ
  allocationStrategy : ShardAllocationStrategy
  inRange : InRange config assignments

lemma inRange_empty (config : ShardingConfig) : InRange config ∅ := by
  intro s owner h
  simp at h

lemma InRange.insert {config : ShardingConfig} {assignments : BTreeMap ShardId NodeId}
    (h : InRange config assignments) {s : ShardId} (hs : s < config.numberOfShards)
    (owner : NodeId) : InRange config (assignments.insert s owner) :=
  BTreeMap.forall_insert h hs

def isRoutableNode (routableNodes : List NodeId) (nodeId : NodeId) : Bool :=
  decide (nodeId ∈ routableNodes)

def moveReason (membership : ClusterMembership) (currentOwner : NodeId) : ShardMoveReason :=
  match (membership.member currentOwner).map MemberRecord.state with
  | some .up => .rebalance
  | some .leaving => .gracefulLeave
  | some .joining | some .unreachable | some .down | some .removed | none => .ownerUnavailable

structure PlanDraft where
  assignments : BTreeMap ShardId NodeId
  decisions : List ShardDecision

section Passes
variable (entityType : EntityType) (config : ShardingConfig) (strategy : ShardAllocationStrategy)
variable {draft draft' : PlanDraft} {s : ShardId} {new : Option NodeId}
  {assignments : BTreeMap ShardId NodeId}

  (membership : ClusterMembership) (routableNodes : List NodeId)

def allocateStep (draft : PlanDraft) (shardId : ShardId) : PlanDraft :=
  let currentOwner := draft.assignments[shardId]?
  let needsAllocation := match currentOwner with
    | some owner => !isRoutableNode routableNodes owner
    | none => true
  if !needsAllocation then draft
  else
    let desired := (strategy.allocateShard
      ⟨entityType, config, membership, routableNodes, draft.assignments⟩ shardId).filter
        (isRoutableNode routableNodes)
    match currentOwner, desired with
    | none, some target =>
      ⟨draft.assignments.insert shardId target,
        draft.decisions ++ [.assign ⟨entityType, shardId⟩ target .initialAllocation]⟩
    | some source, some target =>
      if source ≠ target then
        ⟨draft.assignments.insert shardId target, draft.decisions ++
          [.move ⟨entityType, shardId⟩ source target (moveReason membership source)]⟩
      else draft
    | some source, none =>
      ⟨draft.assignments.erase shardId, draft.decisions ++
        [.unassign ⟨entityType, shardId⟩ source (moveReason membership source)]⟩
    | none, none => draft

def allocatePass (assignments : BTreeMap ShardId NodeId) : PlanDraft :=
  (List.range config.numberOfShards).foldl
    (allocateStep entityType config strategy membership routableNodes) ⟨assignments, []⟩

def reassignStep (acc : PlanDraft × Finset ShardId) (reassignment : ShardReassignment) :
    PlanDraft × Finset ShardId :=
  let (draft, reassignedShards) := acc
  let shardId := reassignment.shardId
  if !config.containsShard shardId || decide (shardId ∈ reassignedShards) then acc
  else
    let target := reassignment.target
    if !isRoutableNode routableNodes target then (draft, insert shardId reassignedShards)
    else
      match draft.assignments[shardId]? with
      | none =>
        (⟨draft.assignments.insert shardId target, draft.decisions ++
          [.assign ⟨entityType, shardId⟩ target .initialAllocation]⟩,
          insert shardId reassignedShards)
      | some source =>
        if source ≠ target then
          (⟨draft.assignments.insert shardId target, draft.decisions ++
            [.move ⟨entityType, shardId⟩ source target (moveReason membership source)]⟩,
            insert shardId reassignedShards)
        else (draft, insert shardId reassignedShards)

def reassignPass (draft : PlanDraft) : PlanDraft :=
  ((strategy.rebalance ⟨entityType, config, membership, routableNodes, draft.assignments⟩).foldl
      (reassignStep entityType config membership routableNodes) (draft, ∅)).1

/-- The outcome of a reconciliation of `assignments`, before the revision is set. -/
def reconcileDraft (assignments : BTreeMap ShardId NodeId) : PlanDraft :=
  if routableNodes.isEmpty then
    ⟨∅, assignments.toList.map (fun p => .unassign ⟨entityType, p.1⟩ p.2 .noRoutableMembers)⟩
  else
    reassignPass entityType config strategy membership routableNodes
      (allocatePass entityType config strategy membership routableNodes assignments)

/-- `draft'` gives shard `s` the owner `new` and records the change, if there is one,
as a decision. -/
inductive Recorded (draft : PlanDraft) (s : ShardId) (new : Option NodeId) : PlanDraft → Prop
  | same (h : draft.assignments[s]? = new) : Recorded draft s new draft
  | changed (d : ShardDecision) (hs : d.shard = ⟨entityType, s⟩)
      (hold : d.change.old = draft.assignments[s]?) (hnew : d.change.new = new)
      (hne : new ≠ d.change.old) :
      Recorded draft s new
        ⟨BTreeMap.assign draft.assignments s new, draft.decisions ++ [d]⟩

def allocatedOwner (assignments : BTreeMap ShardId NodeId) (shardId : ShardId) : Option NodeId :=
  match assignments[shardId]?.filter (isRoutableNode routableNodes) with
  | some owner => some owner
  | none => (strategy.allocateShard
      ⟨entityType, config, membership, routableNodes, assignments⟩ shardId).filter
        (isRoutableNode routableNodes)

lemma allocateStep_recorded (draft : PlanDraft) (s : ShardId) : Recorded entityType draft s
      (allocatedOwner entityType config strategy membership routableNodes draft.assignments s)
      (allocateStep entityType config strategy membership routableNodes draft s) := by
  unfold allocateStep allocatedOwner
  generalize hd : (strategy.allocateShard
    ⟨entityType, config, membership, routableNodes, draft.assignments⟩ s).filter
      (isRoutableNode routableNodes) = desired
  cases ho : draft.assignments[s]? with
  | none =>
    cases desired with
    | none => exact .same ho
    | some => exact .changed _ rfl ho.symm rfl (by simp [ShardDecision.change])
  | some source =>
    by_cases hr : isRoutableNode routableNodes source = true
    · simp only [hr, Option.filter_some, Bool.not_true, Bool.not_false, if_true]
      exact .same ho
    · simp only [hr, Option.filter_some, Bool.not_false, Bool.not_true, Bool.false_eq_true,
        if_false]
      cases desired with
      | none => exact .changed _ rfl ho.symm rfl (by simp [ShardDecision.change])
      | some target =>
        have hne : source ≠ target := by
          rintro rfl
          exact hr (Option.filter_eq_some_iff.mp hd).2
        simp only [hne, ne_eq, not_false_eq_true, if_true]
        exact .changed _ rfl ho.symm rfl (by simpa [ShardDecision.change] using hne.symm)

/-- The shard is unknown or already reassigned, or the target is not routable. -/
def Skipped (reassignedShards : Finset ShardId) (r : ShardReassignment) : Prop :=
  config.numberOfShards ≤ r.shardId ∨ r.shardId ∈ reassignedShards ∨ r.target ∉ routableNodes

instance (reassignedShards : Finset ShardId) (r : ShardReassignment) :
    Decidable (Skipped config routableNodes reassignedShards r) :=
  inferInstanceAs (Decidable (_ ∨ _ ∨ _))

lemma reassignStep_recorded (draft : PlanDraft) (done : Finset ShardId) (r : ShardReassignment) :
    Recorded entityType draft r.shardId
      (if Skipped config routableNodes done r then draft.assignments[r.shardId]? else some r.target)
      (reassignStep entityType config membership routableNodes (draft, done) r).1 := by
  by_cases hs : config.numberOfShards ≤ r.shardId ∨ r.shardId ∈ done
  · have hskip : Skipped config routableNodes done r := or_assoc.mp (.inl hs)
    have hguard : (!config.containsShard r.shardId || decide (r.shardId ∈ done)) = true := by
      simpa [ShardingConfig.containsShard] using hs
    simp only [reassignStep, if_pos hskip, if_pos hguard]
    exact .same rfl
  · have hguard : (!config.containsShard r.shardId || decide (r.shardId ∈ done)) ≠ true := by
      simpa [ShardingConfig.containsShard] using hs
    by_cases ht : r.target ∈ routableNodes
    · have hskip : ¬ Skipped config routableNodes done r := fun h =>
        (or_assoc.mpr h).elim hs (fun hn => hn ht)
      simp only [reassignStep, if_neg hskip, if_neg hguard, isRoutableNode, ht, decide_true,
        Bool.not_true, Bool.false_eq_true, if_false]
      cases ho : draft.assignments[r.shardId]? with
      | none => exact .changed _ rfl ho.symm rfl (by simp [ShardDecision.change])
      | some source =>
        by_cases hne : source = r.target
        · simp only [hne, ne_eq, not_true_eq_false, if_false]
          exact .same (hne ▸ ho)
        · simp only [hne, ne_eq, not_false_eq_true, if_true]
          exact .changed _ rfl ho.symm rfl (by simpa [ShardDecision.change] using Ne.symm hne)
    · have hskip : Skipped config routableNodes done r := .inr (.inr ht)
      simp only [reassignStep, if_pos hskip, if_neg hguard, isRoutableNode, ht, decide_false,
        Bool.not_false, if_true]
      exact .same rfl

variable {entityType config strategy membership routableNodes}

lemma Recorded.lookup (h : Recorded entityType draft s new draft') (a : ShardId) :
    draft'.assignments[a]? = if a = s then new else draft.assignments[a]? := by
  cases h with
  | same h =>
    split_ifs with ha
    · rw [ha, h]
    · rfl
  | changed => exact BTreeMap.lookup_assign _ _ _ _

lemma Recorded.inRange (h : Recorded entityType draft s new draft')
    (hd : InRange config draft.assignments)
    (hs : draft.assignments[s]? = new ∨ s < config.numberOfShards) :
    InRange config draft'.assignments := by
  intro a owner ha
  rw [h.lookup a] at ha
  split_ifs at ha with he
  · rcases hs with hs | hs
    · exact he ▸ hd s owner (hs.trans ha)
    · exact he ▸ hs
  · exact hd a owner ha

lemma allocatePass_inRange (h : InRange config assignments) : InRange config
      (allocatePass entityType config strategy membership routableNodes assignments).assignments := by
  refine List.foldlRecOn (motive := fun d : PlanDraft => InRange config d.assignments) _ _ h ?_
  intro draft hd s hs
  exact (allocateStep_recorded ..).inRange hd (.inr (List.mem_range.mp hs))

lemma reassignPass_inRange (h : InRange config draft.assignments) : InRange config
      (reassignPass entityType config strategy membership routableNodes draft).assignments := by
  refine List.foldlRecOn
    (motive := fun acc : PlanDraft × Finset ShardId => InRange config acc.1.assignments) _ _ h ?_
  rintro ⟨draft, done⟩ hd r -
  refine (reassignStep_recorded ..).inRange hd ?_
  by_cases hskip : Skipped config routableNodes done r
  · exact .inl (if_pos hskip).symm
  · exact .inr (not_le.mp fun hle => hskip (.inl hle))

lemma reconcileDraft_inRange (h : InRange config assignments) : InRange config
      (reconcileDraft entityType config strategy membership routableNodes assignments).assignments := by
  unfold reconcileDraft
  split_ifs
  · exact inRange_empty config
  · exact reassignPass_inRange (allocatePass_inRange h)

end Passes

namespace ShardCoordinator
variable (c : ShardCoordinator)
variable (entityType : EntityType) (config : ShardingConfig)

def withAllocationStrategyRef (allocationStrategy : ShardAllocationStrategy) : ShardCoordinator :=
  ⟨entityType, config, ∅, 0, allocationStrategy, inRange_empty config⟩

def new : ShardCoordinator :=
  withAllocationStrategyRef entityType config
    (DeterministicModuloShardAllocationStrategy.toStrategy ⟨0⟩)

/-- Refuses the first assignment of another entity type or outside of the configured range. -/
def loadAssignments (entityType : EntityType) (config : ShardingConfig) (actualShards : ℕ) :
    List ShardAssignment → (m : BTreeMap ShardId NodeId) → InRange config m →
      Except ShardingError {m : BTreeMap ShardId NodeId // InRange config m}
  | [], m, h => .ok ⟨m, h⟩
  | a :: as, m, h =>
    if a.shard.entityType ≠ entityType then
      .error (.persistedCoordinatorSnapshotMismatch entityType a.shard.entityType
        config.numberOfShards actualShards)
    else if hs : a.shard.shardId < config.numberOfShards then
      loadAssignments entityType config actualShards as (m.insert a.shard.shardId a.owner)
        (h.insert hs a.owner)
    else .error (.unknownShard a.shard.shardId config.numberOfShards)

def fromSnapshotWithAllocationStrategyRef (snapshot : ShardOwnershipSnapshot)
    (allocationStrategy : ShardAllocationStrategy) : Except ShardingError ShardCoordinator :=
  if snapshot.entityType ≠ entityType ∨ snapshot.numberOfShards ≠ config.numberOfShards then
    .error (.persistedCoordinatorSnapshotMismatch entityType snapshot.entityType
      config.numberOfShards snapshot.numberOfShards)
  else
    match loadAssignments entityType config snapshot.numberOfShards snapshot.assignments ∅
      (inRange_empty config) with
    | .error e => .error e
    | .ok ⟨m, h⟩ => .ok ⟨entityType, config, m, snapshot.revision, allocationStrategy, h⟩

def ownerForShard (shardId : ShardId) : Except ShardingError NodeId :=
  if !c.config.containsShard shardId then .error (.unknownShard shardId c.config.numberOfShards)
  else
    match c.assignments[shardId]? with
    | none => .error (.noShardOwner c.entityType shardId)
    | some owner => .ok owner

def snapshot : ShardOwnershipSnapshot :=
  ⟨c.revision, c.entityType, c.config.numberOfShards,
    c.assignments.toList.map (fun p => ⟨⟨c.entityType, p.1⟩, p.2⟩)⟩

def draft (membership : ClusterMembership) : PlanDraft :=
  reconcileDraft c.entityType c.config c.allocationStrategy membership membership.routableNodes
    c.assignments

def bumpRevisionIfChanged (revision : ℕ) (decisions : List ShardDecision) : ℕ :=
  if decisions.isEmpty then revision else revision + 1

def reconcile (membership : ClusterMembership) : ShardRebalancePlan × ShardCoordinator :=
  let draft := c.draft membership
  let newRevision := bumpRevisionIfChanged c.revision draft.decisions
  (⟨c.revision, newRevision, draft.decisions⟩, { c with
      assignments := draft.assignments
      revision := newRevision
      inRange := reconcileDraft_inRange c.inRange })

end ShardCoordinator

end Rakka.Sharding
