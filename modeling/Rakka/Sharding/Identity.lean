import Rakka.Cluster.Node

/-! Identities of sharded entities, the hash that places an entity in a shard, and
the errors of the sharding layer. -/

namespace Rakka.Sharding
open Cluster Foundation

structure EntityType where
  value : String
  deriving DecidableEq, Repr

structure EntityId where
  value : String
  deriving DecidableEq, Repr

lemma EntityType.value_injective : Function.Injective EntityType.value :=
  fun ⟨_⟩ ⟨_⟩ h => congrArg EntityType.mk h

lemma EntityId.value_injective : Function.Injective EntityId.value :=
  fun ⟨_⟩ ⟨_⟩ h => congrArg EntityId.mk h

instance : LinearOrder EntityType := LinearOrder.lift' EntityType.value EntityType.value_injective

instance : Std.TransOrd EntityType := inferInstance

instance : LinearOrder EntityId := LinearOrder.lift' EntityId.value EntityId.value_injective

instance : Std.TransOrd EntityId := inferInstance

abbrev ShardId := ℕ

structure ShardKey where
  entityType : EntityType
  shardId : ShardId
  deriving DecidableEq, Repr

structure ShardingConfig where
  numberOfShards : ℕ
  pos : 0 < numberOfShards
  deriving DecidableEq

namespace ShardingConfig

def containsShard (config : ShardingConfig) (shardId : ShardId) : Bool :=
  shardId < config.numberOfShards

end ShardingConfig

def stableHash (entityType entityId : String) : UInt64 :=
  (entityType.toUTF8.toList ++ 0xff :: entityId.toUTF8.toList).foldl
    (fun hash byte => (hash ^^^ byte.toUInt64) * 0x00000100000001b3) 0xcbf29ce484222325

def ShardId.forEntity (entityType : EntityType) (entityId : EntityId) (config : ShardingConfig) :
    ShardId :=
  (stableHash entityType.value entityId.value).toNat % config.numberOfShards

inductive ShardingError where
  | invalidShardCount
  | unknownShard (shardId : ShardId) (numberOfShards : ℕ)
  | noShardOwner (entityType : EntityType) (shardId : ShardId)
  | noEntityOwner (entityType : EntityType) (entityId : EntityId) (shardId : ShardId)
  | entityTypeMismatch (expected actual : EntityType)
  | ownershipSnapshotMismatch (expectedEntityType actualEntityType : EntityType)
      (expectedShards actualShards : ℕ)
  | persistedCoordinatorSnapshotMismatch (expectedEntityType actualEntityType : EntityType)
      (expectedShards actualShards : ℕ)
  | coordinatorRevisionConflict (entityType : EntityType) (expectedRevision actualRevision : ℕ)
  | coordinatorStore (backend message : String)
  | coordinatorLease (lease message : String)
  | rememberedEntityStore (backend message : String)
  | rememberedEntityReplay (entityType : EntityType) (entityId : EntityId) (shardId : ShardId)
      (message : String)
  | coordinatorLeaseRejected (lease : String) (entityType : EntityType) (holderNode : NodeId)
      (currentHolderNode : Option NodeId) (expiresAtMillis : Option ℕ)
  | coordinatorLeaseLost (lease : String) (entityType : EntityType) (holderNode : NodeId)
      (fencingToken : ℕ) (actualHolderNode : Option NodeId) (actualFencingToken : Option ℕ)
  | asyncCoordinatorStoreRequiresAsyncApi (backend : String)
  | asyncCoordinatorLeaseRequiresAsyncApi (lease : String)
  deriving DecidableEq, Repr

def ShardingConfig.new (numberOfShards : ℕ) : Except ShardingError ShardingConfig :=
  if h : numberOfShards = 0 then .error .invalidShardCount
  else .ok ⟨numberOfShards, Nat.pos_of_ne_zero h⟩

end Rakka.Sharding
