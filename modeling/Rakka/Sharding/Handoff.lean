import Rakka.Sharding.Coordinator

/-! The states of a graceful shard handoff. -/

namespace Rakka.Sharding
open Cluster Foundation

inductive ShardHandoffState where
  | owning | draining | transferring | acquired
  deriving DecidableEq, Repr

instance : ToString ShardHandoffState where
  toString
    | .owning => "owning"
    | .draining => "draining"
    | .transferring => "transferring"
    | .acquired => "acquired"

structure ShardHandoff where
  shard : ShardKey
  source : NodeId
  target : NodeId
  reason : ShardMoveReason
  state : ShardHandoffState
  stoppedEntities : ℕ
  deriving DecidableEq, Repr

end Rakka.Sharding
