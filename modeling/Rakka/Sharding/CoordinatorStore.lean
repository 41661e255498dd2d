import Rakka.Sharding.Coordinator

/-! The durable coordinator state and the in-memory store that fences writes by
revision. -/

namespace Rakka.Sharding
open Cluster Foundation

structure PersistedShardCoordinatorState where
  snapshot : ShardOwnershipSnapshot
  allocationStrategy : String
  updatedAtMillis : ℕ
  deriving DecidableEq, Repr

structure InMemoryShardCoordinatorStore where
  states : BTreeMap EntityType PersistedShardCoordinatorState

def validateStateEntityType (entityType : EntityType) (state : PersistedShardCoordinatorState) :
    Except ShardingError Unit :=
  if state.snapshot.entityType = entityType then .ok ()
  else .error (.persistedCoordinatorSnapshotMismatch entityType state.snapshot.entityType
    state.snapshot.numberOfShards state.snapshot.numberOfShards)

namespace InMemoryShardCoordinatorStore
variable (store : InMemoryShardCoordinatorStore) (entityType : EntityType)

def backendName : String := "in-memory"

def load : Except ShardingError (Option PersistedShardCoordinatorState) :=
  .ok store.states[entityType]?

def revisionOf : ℕ :=
  (store.states[entityType]?.map (·.snapshot.revision)).getD 0

def compareAndSet (expectedRevision : ℕ) (state : PersistedShardCoordinatorState) :
    Except ShardingError PersistedShardCoordinatorState × InMemoryShardCoordinatorStore :=
  match validateStateEntityType entityType state with
  | .error e => (.error e, store)
  | .ok () =>
    let actualRevision := store.revisionOf entityType
    if actualRevision ≠ expectedRevision then
      (.error (.coordinatorRevisionConflict entityType expectedRevision actualRevision), store)
    else (.ok state, ⟨store.states.insert entityType state⟩)

def delete (expectedRevision : ℕ) : Except ShardingError Unit × InMemoryShardCoordinatorStore :=
  let actualRevision := store.revisionOf entityType
  if actualRevision ≠ expectedRevision then
    (.error (.coordinatorRevisionConflict entityType expectedRevision actualRevision), store)
  else (.ok (), ⟨store.states.erase entityType⟩)

lemma compareAndSet_cases (expectedRevision : ℕ) (state : PersistedShardCoordinatorState) :
    (∃ e, store.compareAndSet entityType expectedRevision state = (.error e, store)) ∨
      (store.compareAndSet entityType expectedRevision state =
          (.ok state, ⟨store.states.insert entityType state⟩) ∧
        state.snapshot.entityType = entityType ∧
        store.revisionOf entityType = expectedRevision) := by
  unfold compareAndSet validateStateEntityType
  by_cases htype : state.snapshot.entityType = entityType
  · by_cases hrev : store.revisionOf entityType = expectedRevision
    · right
      simp [htype, hrev]
    · left
      simp only [htype, if_true, ne_eq, hrev, not_false_eq_true]
      exact ⟨_, rfl⟩
  · left
    simp only [htype, if_false]
    exact ⟨_, rfl⟩

end InMemoryShardCoordinatorStore

namespace ShardCoordinator
variable {entityType : EntityType} {config : ShardingConfig} {m : BTreeMap ShardId NodeId}
  {strategy : ShardAllocationStrategy} {c : ShardCoordinator}

lemma loadAssignments_eq {actualShards : ℕ} (as : List ShardAssignment) {h : InRange config m}
    {out : {m : BTreeMap ShardId NodeId // InRange config m}}
    (hout : loadAssignments entityType config actualShards as m h = .ok out) :
    out.1 = as.foldl (fun acc a => acc.insert a.shard.shardId a.owner) m := by
  induction as generalizing m with
  | nil =>
    cases hout
    rfl
  | cons a as ih =>
    unfold loadAssignments at hout
    split_ifs at hout with htype hshard
    exact ih hout

lemma fromSnapshot_entityType {persisted : ShardOwnershipSnapshot}
    (h : fromSnapshotWithAllocationStrategyRef entityType config persisted strategy = .ok c) :
    c.entityType = entityType := by
  unfold fromSnapshotWithAllocationStrategyRef at h
  split_ifs at h
  split at h
  · cases h
  · cases h
    rfl

lemma fromSnapshot_snapshot_eq {d : ShardCoordinator}
    (h : fromSnapshotWithAllocationStrategyRef entityType config d.snapshot strategy = .ok c) :
    c.snapshot = d.snapshot := by
  unfold fromSnapshotWithAllocationStrategyRef at h
  split_ifs at h with hmismatch
  obtain ⟨htype, hshards⟩ := not_or.mp hmismatch
  rw [not_not] at htype hshards
  split at h
  · cases h
  next m hm hload =>
    cases h
    have hassign : m = d.assignments := by
      refine (loadAssignments_eq _ hload).trans ?_
      rw [snapshot, List.foldl_map]
      exact BTreeMap.foldl_insert_toList d.assignments
    simp only [snapshot] at htype hshards ⊢
    rw [hassign, htype, hshards]

lemma loadAssignments_isOk (actualShards : ℕ) (as : List ShardAssignment) (h : InRange config m)
    (has : ∀ a ∈ as, a.shard.entityType = entityType ∧ a.shard.shardId < config.numberOfShards) :
    ∃ out, loadAssignments entityType config actualShards as m h = .ok out := by
  induction as generalizing m with
  | nil => exact ⟨⟨m, h⟩, rfl⟩
  | cons a as ih =>
    obtain ⟨htype, hshard⟩ := has a List.mem_cons_self
    unfold loadAssignments
    rw [if_neg (not_not.mpr htype), dif_pos hshard]
    exact ih _ (fun b hb => has b (List.mem_cons_of_mem a hb))

lemma fromSnapshot_self (c : ShardCoordinator) :
    fromSnapshotWithAllocationStrategyRef c.entityType c.config c.snapshot c.allocationStrategy =
      .ok c := by
  have hshards : ∀ a ∈ c.snapshot.assignments,
      a.shard.entityType = c.entityType ∧ a.shard.shardId < c.config.numberOfShards := by
    intro a ha
    obtain ⟨⟨s, owner⟩, hp, rfl⟩ := List.mem_map.mp ha
    exact ⟨rfl, c.inRange s owner (Std.ExtTreeMap.mem_toList_iff_getElem?_eq_some.mp hp)⟩
  obtain ⟨⟨m, hm⟩, hload⟩ := loadAssignments_isOk c.snapshot.numberOfShards
    c.snapshot.assignments (inRange_empty c.config) hshards
  have hassign : m = c.assignments := by
    refine (loadAssignments_eq _ hload).trans ?_
    rw [snapshot, List.foldl_map]
    exact BTreeMap.foldl_insert_toList c.assignments
  unfold fromSnapshotWithAllocationStrategyRef
  rw [if_neg (by simp [snapshot]), hload]
  subst hassign
  rfl

end ShardCoordinator
end Rakka.Sharding
