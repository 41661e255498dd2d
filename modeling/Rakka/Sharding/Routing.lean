import Rakka.Sharding.MessageBuffer
import Rakka.Sharding.Runtime

/-! The shard region: it resolves the owner of an entity, hands the message to its route, and
buffers it while the entity is passivating or the shard has no owner or is being handed off. The
route answers each request and carries its own state. A trace records the accepted tickets, what
became of each message that left the buffer, and the delivery attempts of the call at hand. -/

namespace Rakka.Sharding
open Cluster Foundation

structure EntityRef where
  entityType : EntityType
  entityId : EntityId
  deriving DecidableEq, Repr

def BufferedEntityMessage.entity {M : Type} (m : BufferedEntityMessage M) : EntityRef :=
  ⟨m.entityType, m.entityId⟩

structure RoutedEntityMessage (M : Type) where
  entityType : EntityType
  entityId : EntityId
  shardId : ShardId
  owner : NodeId
  message : M

structure EntityRoute (M σ : Type) where
  localNodeId : Option NodeId
  deliver : RoutedEntityMessage M → σ → Except (EntityTellError M) Unit × σ
  beginShardHandoff : ShardId → σ → Except ShardingError ℕ × σ
  completeShardHandoff : ShardId → σ → Except ShardingError ℕ × σ
  acquireShard : ShardId → σ → Except ShardingError ℕ × σ
  activateEntity : EntityType → EntityId → ShardId → σ → Except ShardingError Bool × σ
  shardHandoffState : ShardId → σ → Option ShardHandoffState

structure ShardOwnerCache where
  entityType : EntityType
  config : ShardingConfig
  revision : ℕ
  owners : BTreeMap ShardId NodeId

def validateSnapshot (entityType : EntityType) (config : ShardingConfig)
    (snapshot : ShardOwnershipSnapshot) : Except ShardingError Unit :=
  if snapshot.entityType = entityType ∧ snapshot.numberOfShards = config.numberOfShards then .ok ()
  else .error (.ownershipSnapshotMismatch entityType snapshot.entityType config.numberOfShards
    snapshot.numberOfShards)

def snapshotOwners (snapshot : ShardOwnershipSnapshot) : BTreeMap ShardId NodeId :=
  snapshot.assignments.foldl (fun owners a => owners.insert a.shard.shardId a.owner) ∅

namespace ShardOwnerCache

def empty (entityType : EntityType) (config : ShardingConfig) : ShardOwnerCache :=
  ⟨entityType, config, 0, ∅⟩

def refresh (cache : ShardOwnerCache) (snapshot : ShardOwnershipSnapshot) :
    Except ShardingError Unit × ShardOwnerCache :=
  match validateSnapshot cache.entityType cache.config snapshot with
  | .error e => (.error e, cache)
  | .ok () =>
    (.ok (), { cache with revision := snapshot.revision, owners := snapshotOwners snapshot })

def ownerForShard (cache : ShardOwnerCache) (shardId : ShardId) : Except ShardingError NodeId :=
  if !cache.config.containsShard shardId then
    .error (.unknownShard shardId cache.config.numberOfShards)
  else
    match cache.owners[shardId]? with
    | none => .error (.noShardOwner cache.entityType shardId)
    | some owner => .ok owner

def ownerForEntity (cache : ShardOwnerCache) (entityId : EntityId) :
    Except ShardingError (NodeId × ShardId) :=
  let shardId := ShardId.forEntity cache.entityType entityId cache.config
  match cache.ownerForShard shardId with
  | .ok owner => .ok (owner, shardId)
  | .error (.noShardOwner _ _) => .error (.noEntityOwner cache.entityType entityId shardId)
  | .error e => .error e

end ShardOwnerCache

structure ShardRegion (M : Type) where
  entityType : EntityType
  config : ShardingConfig
  ownerCache : ShardOwnerCache
  buffer : Option (ShardMessageBuffer M)

structure DeliveryAttempt (M : Type) where
  ticket : ℕ
  entity : EntityRef
  shardId : ShardId
  answer : Except (EntityTellError M) Unit

structure RegionState (M σ : Type) where
  region : ShardRegion M
  route : σ
  now : ℕ
  maxInstant : ℕ
  nextTicket : ℕ
  accepted : List ℕ
  settled : List (Settlement EntityRef DropReason)
  attempts : List (DeliveryAttempt M)

namespace RegionState
variable {M σ : Type}

def setBuffer (s : RegionState M σ) (b : ShardMessageBuffer M) : RegionState M σ :=
  { s with region := { s.region with buffer := some b } }

def settle (s : RegionState M σ) (ms : List (BufferedEntityMessage M))
    (fate : BufferedEntityMessage M → Fate DropReason) : RegionState M σ :=
  { s with settled := s.settled ++ ms.map (fun m => ⟨m.ticket, m.entity, fate m⟩) }

def start (entityType : EntityType) (config : ShardingConfig) (buffering : ShardBufferConfig)
    (route : σ) (now maxInstant : ℕ) : RegionState M σ where
  region := ⟨entityType, config, .empty entityType config, some (.new buffering)⟩
  route := route
  now := now
  maxInstant := maxInstant
  nextTicket := 0
  accepted := []
  settled := []
  attempts := []

variable (route : EntityRoute M σ)

def deliver (s : RegionState M σ) (ticket : ℕ) (m : RoutedEntityMessage M) :
    Except (EntityTellError M) Unit × RegionState M σ :=
  let (answer, r) := route.deliver m s.route
  (answer, { s with
    route := r
    attempts := s.attempts ++ [⟨ticket, ⟨m.entityType, m.entityId⟩, m.shardId, answer⟩]
    settled := match answer with
      | .ok () => s.settled ++ [⟨ticket, ⟨m.entityType, m.entityId⟩, .delivered⟩]
      | .error _ => s.settled })

section
variable (snapshot : ShardOwnershipSnapshot) (s : RegionState M σ) (ticket : ℕ) (entity : EntityRef)
  (message : M) (entityId : EntityId)

def enqueueBuffered (entityType : EntityType) (entityId : EntityId) (shardId : ShardId)
    (message : M) : Except (EntityTellError M) Unit × RegionState M σ :=
  match s.region.buffer with
  | some b =>
    let (answer, b', overflowed) :=
      b.enqueue ⟨entityType, entityId, shardId, message, s.now, ticket⟩
    (answer, (s.setBuffer b').settle overflowed (fun _ => .overflowed))
  | none =>
    (.error (.delivery message (.shardHandoff shardId
      ((route.shardHandoffState shardId s.route).getD .transferring))), s)

def enqueueExistingBuffered (m : BufferedEntityMessage M) : RegionState M σ :=
  match s.region.buffer with
  | some b =>
    match b.requeue m with
    | (true, b') => s.setBuffer b'
    | (false, b') => (s.setBuffer b').settle [m] (fun _ => .discarded)
  | none => s

def isEntityBuffered : Bool × RegionState M σ :=
  match s.region.buffer with
  | some b =>
    let (paused, b') := b.isEntityPaused entityId s.now
    (paused, s.setBuffer b')
  | none => (false, s)

def canBufferNoRoute : ShardingError → Bool
  | .noShardOwner _ _ | .noEntityOwner _ _ _ => s.region.buffer.isSome
  | _ => false

def deliverOrBuffer (m : RoutedEntityMessage M) :
    Except (EntityTellError M) Unit × RegionState M σ :=
  match s.deliver route ticket m with
  | (.ok (), s') => (.ok (), s')
  | (.error (.delivery message (.shardHandoff failureShardId state)), s') =>
    if s'.region.buffer.isNone then
      (.error (.delivery message (.shardHandoff failureShardId state)), s')
    else s'.enqueueBuffered route ticket m.entityType m.entityId failureShardId message
  | (.error e, s') => (.error e, s')

def tellTicket : Except (EntityTellError M) Unit × RegionState M σ :=
  if entity.entityType ≠ s.region.entityType then
    (.error (.noRoute message (.entityTypeMismatch s.region.entityType entity.entityType)), s)
  else
    let shardId := ShardId.forEntity entity.entityType entity.entityId s.region.config
    match s.isEntityBuffered entity.entityId with
    | (true, s') =>
      s'.enqueueBuffered route ticket entity.entityType entity.entityId shardId message
    | (false, s') =>
      match s'.region.ownerCache.ownerForEntity entity.entityId with
      | .ok (owner, _) =>
        s'.deliverOrBuffer route ticket ⟨entity.entityType, entity.entityId, shardId, owner, message⟩
      | .error e =>
        if s'.canBufferNoRoute e then
          s'.enqueueBuffered route ticket entity.entityType entity.entityId shardId message
        else (.error (.noRoute message e), s')

def tell : Except (EntityTellError M) Unit × RegionState M σ :=
  match s.tellTicket route s.nextTicket entity message with
  | (.ok (), s') => (.ok (), { s' with
    nextTicket := s'.nextTicket + 1
    accepted := s'.accepted ++ [s'.nextTicket] })
  | (.error e, s') => (.error e, { s' with nextTicket := s'.nextTicket + 1 })

def resolve : Except ShardingError (NodeId × ShardId) :=
  if entity.entityType ≠ s.region.entityType then
    .error (.entityTypeMismatch s.region.entityType entity.entityType)
  else s.region.ownerCache.ownerForEntity entity.entityId

def flushOneBuffered (m : BufferedEntityMessage M) : RegionState M σ :=
  match s.resolve ⟨m.entityType, m.entityId⟩ with
  | .error _ => s.enqueueExistingBuffered m
  | .ok (owner, shardId) =>
    match s.deliver route m.ticket ⟨m.entityType, m.entityId, shardId, owner, m.message⟩ with
    | (.ok (), s') => s'
    | (.error (.delivery message (.shardHandoff failureShardId _)), s') =>
      s'.enqueueExistingBuffered { m with shardId := failureShardId, message := message }
    | (.error (.noRoute message _), s') => s'.enqueueExistingBuffered { m with message := message }
    | (.error (.delivery _ failure), s') => s'.settle [m] (fun _ => .dropped (.rejected failure))

def flushBuffered : RegionState M σ :=
  match s.region.buffer with
  | none => s
  | some b =>
    let (ready, expired, b') := b.drainReady s.now
    let s' := (s.setBuffer b').settle expired (fun m => .dropped (.expired (s.now - m.enqueuedAt)))
    ready.foldl (flushOneBuffered route) s'

/-- A pause whose end is no instant is not started. -/
def beginEntityPassivation (duration : Duration) : RegionState M σ :=
  if s.maxInstant < s.now + duration then s
  else
    match s.region.buffer with
    | none => s
    | some b => s.setBuffer (b.pauseEntity entityId (s.now + duration))

def endEntityPassivation : RegionState M σ :=
  match s.region.buffer with
  | none => s.flushBuffered route
  | some b => (s.setBuffer (b.resumeEntity entityId)).flushBuffered route

def askRoute {α : Type} (ask : ShardId → σ → Except ShardingError α × σ) (shardId : ShardId) :
    Attempt ShardingError (RegionState M σ) α := fun s =>
  let (answer, r) := ask shardId s.route
  (answer, { s with route := r })

def askRouteEach (ask : ShardId → σ → Except ShardingError ℕ × σ) :
    List ShardId → Attempt ShardingError (RegionState M σ) Unit
  | [] => return ()
  | shardId :: shardIds => do
    let _ ← askRoute ask shardId
    askRouteEach ask shardIds

/-- The shards that the local node loses and gains with a snapshot. -/
def localOwnershipChanges (previousOwners : BTreeMap ShardId NodeId)
    (snapshot : ShardOwnershipSnapshot) (config : ShardingConfig) (localNodeId : NodeId) :
    List ShardId × List ShardId :=
  let wasLocal := fun shardId : ShardId => previousOwners[shardId]? = some localNodeId
  let isLocal := fun shardId : ShardId => (snapshotOwners snapshot)[shardId]? = some localNodeId
  ((List.range config.numberOfShards).filter
      (fun shardId => decide (wasLocal shardId) && !decide (isLocal shardId)),
    (List.range config.numberOfShards).filter
      (fun shardId => !decide (wasLocal shardId) && decide (isLocal shardId)))

def refreshCache : Attempt ShardingError (RegionState M σ) Unit := fun s =>
  let (answer, cache) := s.region.ownerCache.refresh snapshot
  (answer, { s with region := { s.region with ownerCache := cache } })

/-- The replay of remembered entities, which only activates entities in the background, is
left to `activateEntity`. -/
def refreshOwnership : Attempt ShardingError (RegionState M σ) Unit := do
  let s ← Attempt.get
  match validateSnapshot s.region.entityType s.region.config snapshot with
  | .error e => Attempt.fail e
  | .ok () => do
    let (lostShards, gainedShards) := match route.localNodeId with
      | none => ([], [])
      | some localNodeId =>
        localOwnershipChanges s.region.ownerCache.owners snapshot s.region.config localNodeId
    askRouteEach route.completeShardHandoff lostShards
    refreshCache snapshot
    askRouteEach route.acquireShard gainedShards
    Attempt.modify (flushBuffered route)

end

def beginShardHandoff (shardId : ShardId) : Attempt ShardingError (RegionState M σ) ℕ :=
  askRoute route.beginShardHandoff shardId

def completeShardHandoff (shardId : ShardId) : Attempt ShardingError (RegionState M σ) ℕ :=
  askRoute route.completeShardHandoff shardId

def acquireShard (shardId : ShardId) : Attempt ShardingError (RegionState M σ) ℕ := do
  let stopped ← askRoute route.acquireShard shardId
  Attempt.modify (flushBuffered route)
  return stopped

def activateEntity (entityId : EntityId) : Attempt ShardingError (RegionState M σ) Bool := do
  let s ← Attempt.get
  let shardId := ShardId.forEntity s.region.entityType entityId s.region.config
  match s.region.ownerCache.ownerForShard shardId with
  | .error e => Attempt.fail e
  | .ok owner =>
    if route.localNodeId = some owner then
      askRoute (route.activateEntity s.region.entityType entityId) shardId
    else return false

end RegionState

inductive RegionOp (M σ : Type) where
  | tell (entity : EntityRef) (message : M)
  | beginEntityPassivation (entityId : EntityId) (duration : Duration)
  | endEntityPassivation (entityId : EntityId)
  | flushBuffered
  | refreshOwnership (snapshot : ShardOwnershipSnapshot)
  | beginShardHandoff (shardId : ShardId)
  | completeShardHandoff (shardId : ShardId)
  | acquireShard (shardId : ShardId)
  | activateEntity (entityId : EntityId)
  | advance (elapsed : Duration)
  | routeMoves (move : σ → σ)

namespace RegionState
variable {M σ : Type} (route : EntityRoute M σ)

variable (s : RegionState M σ)

/-- What an operation does once the attempts of earlier ones are forgotten. -/
def perform : RegionOp M σ → RegionState M σ
  | .tell entity message => (s.tell route entity message).2
  | .beginEntityPassivation entityId duration => s.beginEntityPassivation entityId duration
  | .endEntityPassivation entityId => s.endEntityPassivation route entityId
  | .flushBuffered => s.flushBuffered route
  | .refreshOwnership snapshot => (refreshOwnership route snapshot s).2
  | .beginShardHandoff shardId => (beginShardHandoff route shardId s).2
  | .completeShardHandoff shardId => (completeShardHandoff route shardId s).2
  | .acquireShard shardId => (acquireShard route shardId s).2
  | .activateEntity entityId => (activateEntity route entityId s).2
  | .advance elapsed => { s with now := s.now + elapsed }
  | .routeMoves move => { s with route := move s.route }

def step (op : RegionOp M σ) : Option (RegionState M σ) :=
  some (({ s with attempts := [] } : RegionState M σ).perform route op)

def waiting : List (BufferedEntityMessage M) :=
  match s.region.buffer with
  | none => []
  | some b => Queues.contents b.queues

end RegionState
end Rakka.Sharding
