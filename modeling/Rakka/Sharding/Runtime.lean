import Rakka.Foundation.Attempt
import Rakka.Sharding.CoordinatorLease
import Rakka.Sharding.CoordinatorStore
import Rakka.Sharding.Handoff

/-! The cluster sharding runtime: membership updates followed by a reconciliation of every
registered entity type, which is persisted and then published. Calls act in place, so a failed call
keeps the changes made before it failed. The store, the lease and the clock are an environment that
answers each request and carries its own state. -/

namespace Rakka.Sharding
open Cluster Foundation

inductive ClusterShardingError where
  | cluster (error : ClusterError)
  | sharding (error : ShardingError)
  | entityTypeConfigMismatch (entityType : EntityType) (expectedShards actualShards : ℕ)
  deriving DecidableEq, Repr

inductive Origin where
  | membership | api | lease | store | region | registration
  deriving DecidableEq, Repr

structure Failure where
  origin : Origin
  error : ClusterShardingError
  deriving DecidableEq, Repr

structure EntityShardRebalance where
  entityType : EntityType
  plan : ShardRebalancePlan
  deriving DecidableEq, Repr

structure ClusterShardingUpdate where
  membershipEvents : List MembershipEvent
  handoffs : List ShardHandoff
  rebalances : List EntityShardRebalance
  deriving DecidableEq, Repr

structure RegisteredShardRegion (ρ : Type) where
  entityType : ρ → EntityType
  config : ρ → ShardingConfig
  allocationStrategy : ρ → ShardAllocationStrategy
  localNodeId : ρ → Option NodeId
  refreshOwnership : ShardOwnershipSnapshot → ρ → Except ShardingError Unit × ρ
  beginShardHandoff : ShardId → ρ → Except ShardingError ℕ × ρ
  completeShardHandoff : ShardId → ρ → Except ShardingError ℕ × ρ
  acquireShard : ShardId → ρ → Except ShardingError ℕ × ρ

/-- The lease and the clock as the runtime sees them. -/
structure LeaseEnv (ω : Type) where
  leaseName : String
  acquire : EntityType → NodeId → ω → Except ShardingError LeaseToken × ω
  renew : LeaseToken → ω → Except ShardingError Unit × ω
  release : LeaseToken → ω → Except ShardingError Unit × ω
  currentTimestampMillis : ω → ℕ × ω

/-- The store, the lease and the clock as the runtime sees them. -/
structure CoordinatorEnv (ω : Type) extends LeaseEnv ω where
  storeBackend : String
  load : EntityType → ω → Except ShardingError (Option PersistedShardCoordinatorState) × ω
  compareAndSetWithLease : EntityType → ℕ → PersistedShardCoordinatorState → Option LeaseToken →
    ω → Except ShardingError PersistedShardCoordinatorState × ω

inductive CoordinatorStoreMode where
  | none | sync | async
  deriving DecidableEq, Repr

inductive CoordinatorLeaseMode where
  | none | async
  deriving DecidableEq, Repr

inductive Api where
  | sync | async
  deriving DecidableEq, Repr

/-- `lastPersisted` and `lastPublished` record the snapshots last accepted by the store and last
delivered to all regions; a new coordinator with nothing to persist counts as persisted. -/
structure ClusterShardingRuntime (ρ : Type) where
  membership : ClusterMembership
  coordinators : BTreeMap EntityType ShardCoordinator
  regions : BTreeMap EntityType (List ρ)
  coordinatorStore : CoordinatorStoreMode
  coordinatorLease : CoordinatorLeaseMode
  leaseTokens : BTreeMap EntityType LeaseToken
  lastPersisted : BTreeMap EntityType ShardOwnershipSnapshot
  lastPublished : BTreeMap EntityType ShardOwnershipSnapshot
  keyed : ∀ (e : EntityType) (c : ShardCoordinator), coordinators[e]? = some c → c.entityType = e

section Regions
variable {ρ : Type}

/-- Visits regions in order, adding up the answers, and stops at the first refusal. -/
def visitRegions (visit : ρ → Except ShardingError ℕ × ρ) :
    List ρ → Except ShardingError ℕ × List ρ
  | [] => (.ok 0, [])
  | r :: rs =>
    match visit r with
    | (.error e, r') => (.error e, r' :: rs)
    | (.ok n, r') =>
      let (answer, rs') := visitRegions visit rs
      (answer.map (n + ·), r' :: rs')

end Regions

abbrev RuntimeCall (ρ ω : Type) := Attempt Failure (ClusterShardingRuntime ρ × ω)

namespace ClusterShardingRuntime
variable {ρ ω : Type}

def new (membership : ClusterMembership) (coordinatorStore : CoordinatorStoreMode)
    (coordinatorLease : CoordinatorLeaseMode) : ClusterShardingRuntime ρ :=
  ⟨membership, ∅, ∅, coordinatorStore, coordinatorLease, ∅, ∅, ∅, by simp⟩

def setCoordinator (rt : ClusterShardingRuntime ρ) (c : ShardCoordinator) :
    ClusterShardingRuntime ρ :=
  { rt with
    coordinators := rt.coordinators.insert c.entityType c
    keyed := BTreeMap.forall_insert rt.keyed rfl }

def modifyRuntime (f : ClusterShardingRuntime ρ → ClusterShardingRuntime ρ) :
    RuntimeCall ρ ω Unit :=
  Attempt.modify (fun s => (f s.1, s.2))

def request {α : Type} (origin : Origin) (ask : ω → Except ShardingError α × ω) :
    RuntimeCall ρ ω α :=
  fun s =>
    match ask s.2 with
    | (.error e, w) => (.error ⟨origin, .sharding e⟩, (s.1, w))
    | (.ok a, w) => (.ok a, (s.1, w))

def visitEntityRegions (entityType : EntityType) (visit : ρ → Except ShardingError ℕ × ρ) :
    RuntimeCall ρ ω ℕ :=
  fun s =>
    match s.1.regions[entityType]? with
    | none => (.ok 0, s)
    | some rs =>
      let (answer, rs') := visitRegions visit rs
      (answer.mapError (fun e => ⟨.region, .sharding e⟩),
        ({ s.1 with regions := s.1.regions.insert entityType rs' }, s.2))

variable (region : RegisteredShardRegion ρ) (env : CoordinatorEnv ω)

def currentTimestampMillis : RuntimeCall ρ ω ℕ := fun s =>
  let (nowMillis, w) := env.currentTimestampMillis s.2
  (.ok nowMillis, (s.1, w))

section
variable (api : Api) (snapshot : ShardOwnershipSnapshot) (entityType : EntityType)

def applyToNodeRegions (nodeId : NodeId) (apply : ρ → Except ShardingError ℕ × ρ) :
    RuntimeCall ρ ω ℕ :=
  visitEntityRegions entityType
    (fun r => if region.localNodeId r = some nodeId then apply r else (.ok 0, r))

def publishSnapshot : RuntimeCall ρ ω Unit := do
  let _ ← visitEntityRegions snapshot.entityType (fun r =>
    match region.refreshOwnership snapshot r with
    | (.error e, r') => (.error e, r')
    | (.ok (), r') => (.ok 0, r'))
  modifyRuntime (fun rt => { rt with
    lastPublished := rt.lastPublished.insert snapshot.entityType snapshot })

def handOff (shard : ShardKey) (source target : NodeId) : RuntimeCall ρ ω (List ShardHandoff) := do
  let drainingStopped ← applyToNodeRegions region shard.entityType source
    (region.beginShardHandoff shard.shardId)
  let transferringStopped ← applyToNodeRegions region shard.entityType source
    (region.completeShardHandoff shard.shardId)
  let acquiredStopped ← applyToNodeRegions region shard.entityType target
    (region.acquireShard shard.shardId)
  return [⟨shard, source, target, .gracefulLeave, .draining, drainingStopped⟩,
    ⟨shard, source, target, .gracefulLeave, .transferring, transferringStopped⟩,
    ⟨shard, source, target, .gracefulLeave, .acquired, acquiredStopped⟩]

def applyGracefulHandoffs : List ShardDecision → RuntimeCall ρ ω (List ShardHandoff)
  | [] => return []
  | .move shard source target .gracefulLeave :: ds => do
    let handoffs ← handOff region shard source target
    let rest ← applyGracefulHandoffs ds
    return handoffs ++ rest
  | _ :: ds => applyGracefulHandoffs ds

def ensureSyncApi : RuntimeCall ρ ω Unit := fun s =>
  match s.1.coordinatorLease with
  | .none => (.ok (), s)
  | .async => (.error ⟨.api, .sharding (.asyncCoordinatorLeaseRequiresAsyncApi env.leaseName)⟩, s)

def ensureApi : Api → RuntimeCall ρ ω Unit
  | .sync => ensureSyncApi env
  | .async => return ()

def acquireLeadership : RuntimeCall ρ ω (Option LeaseToken) := do
  let (rt, _) ← Attempt.get
  let token ← request .lease (env.acquire entityType rt.membership.localNodeId)
  modifyRuntime (fun rt => { rt with leaseTokens := rt.leaseTokens.insert entityType token })
  return some token

def renewToken (token : LeaseToken) : RuntimeCall ρ ω Unit := fun s =>
  match env.renew token s.2 with
  | (.error e, w) =>
    (.error ⟨.lease, .sharding e⟩,
      ({ s.1 with leaseTokens := s.1.leaseTokens.erase entityType }, w))
  | (.ok (), w) => (.ok (), (s.1, w))

def ensureCoordinatorLeadershipAsync : RuntimeCall ρ ω (Option LeaseToken) := do
  let (rt, _) ← Attempt.get
  match rt.coordinatorLease, rt.leaseTokens[entityType]? with
  | .none, _ => return none
  | .async, none => acquireLeadership env entityType
  | .async, some token =>
    if token.holderNode = rt.membership.localNodeId then do
      let nowMillis ← currentTimestampMillis env
      if token.isExpiredAt nowMillis then acquireLeadership env entityType
      else do
        renewToken env entityType token
        modifyRuntime (fun rt => { rt with leaseTokens := rt.leaseTokens.insert entityType token })
        return some token
    else acquireLeadership env entityType

def ensureCoordinatorLeadership :
    Api → RuntimeCall ρ ω (Option LeaseToken)
  | .sync => do
    ensureSyncApi env
    return none
  | .async => ensureCoordinatorLeadershipAsync env entityType

def asyncStoreRequiresAsyncApi : Failure :=
  ⟨.store, .sharding (.asyncCoordinatorStoreRequiresAsyncApi env.storeBackend)⟩

def loadCoordinatorState : RuntimeCall ρ ω (Option PersistedShardCoordinatorState) := do
  let (rt, _) ← Attempt.get
  match rt.coordinatorStore, api with
  | .none, _ => return none
  | .async, .sync => Attempt.fail (asyncStoreRequiresAsyncApi env)
  | _, _ => request .store (env.load entityType)

def persistCoordinatorSnapshot (allocationStrategy : String) (expectedRevision : ℕ)
    (leaseToken : Option LeaseToken) : RuntimeCall ρ ω Unit := do
  let nowMillis ← currentTimestampMillis env
  let (rt, _) ← Attempt.get
  match rt.coordinatorStore, api with
  | .none, _ => return ()
  | .async, .sync => Attempt.fail (asyncStoreRequiresAsyncApi env)
  | _, _ => do
    let _ ← request .store (env.compareAndSetWithLease snapshot.entityType expectedRevision
      ⟨snapshot, allocationStrategy, nowMillis⟩ leaseToken)
    return ()

/-- The end of an iteration of the reconciliation loop, after its snapshot is persisted. -/
def publishPlan (plan : ShardRebalancePlan) (snapshot : ShardOwnershipSnapshot) :
    RuntimeCall ρ ω (List ShardHandoff × List EntityShardRebalance) := do
  let handoffs ← applyGracefulHandoffs region plan.decisions
  publishSnapshot region snapshot
  return (handoffs, [⟨entityType, plan⟩])

/-- One iteration of the reconciliation loop. The coordinator is changed in place before
its snapshot is persisted. -/
def reconcileEntity : RuntimeCall ρ ω (List ShardHandoff × List EntityShardRebalance) := do
  let leaseToken ← ensureCoordinatorLeadership env entityType api
  let (rt, _) ← Attempt.get
  match rt.coordinators[entityType]? with
  | none => return ([], [])
  | some c =>
    let (plan, c') := c.reconcile rt.membership
    modifyRuntime (fun rt => rt.setCoordinator c')
    if plan.isEmpty then return ([], [])
    else do
      persistCoordinatorSnapshot env api c'.snapshot c'.allocationStrategy.strategyName
        plan.previousRevision leaseToken
      modifyRuntime (fun rt => { rt with
        lastPersisted := rt.lastPersisted.insert entityType c'.snapshot })
      publishPlan region entityType plan c'.snapshot

def reconcileEntities (api : Api) :
    List EntityType → RuntimeCall ρ ω (List ShardHandoff × List EntityShardRebalance)
  | [] => return ([], [])
  | e :: es => do
    let (handoffs, rebalances) ← reconcileEntity region env api e
    let (moreHandoffs, moreRebalances) ← reconcileEntities api es
    return (handoffs ++ moreHandoffs, rebalances ++ moreRebalances)

def reconcileAndPublish (membershipEvents : List MembershipEvent) :
    RuntimeCall ρ ω ClusterShardingUpdate := do
  let (rt, _) ← Attempt.get
  let (handoffs, rebalances) ← reconcileEntities region env api rt.coordinators.keys
  return ⟨membershipEvents, handoffs, rebalances⟩

end

end ClusterShardingRuntime

inductive MembershipUpdate where
  | applyDiscovery (snapshot : DiscoverySnapshot)
  | heartbeat (nodeId : NodeId) (observedAtMillis : ℕ)
  | markLeaving (nodeId : NodeId) (observedAtMillis : ℕ)
  | markDown (nodeId : NodeId) (observedAtMillis : ℕ)
  | tick (nowMillis : ℕ)

def markUpAll (observedAtMillis : ℕ) :
    ClusterMembership → List NodeId → List MembershipEvent →
      Except ClusterError (List MembershipEvent) × ClusterMembership
  | m, [], events => (.ok events, m)
  | m, nodeId :: nodeIds, events =>
    match m.markUp nodeId observedAtMillis with
    | (.error e, m') => (.error e, m')
    | (.ok event, m') => markUpAll observedAtMillis m' nodeIds (events ++ event.toList)

def promoteJoiningMembers (m : ClusterMembership) (observedAtMillis : ℕ) :
    Except ClusterError (List MembershipEvent) × ClusterMembership :=
  if !m.hasMinContactPoints then (.ok [], m)
  else
    let joining := (m.members.valuesInOrder.filter
      (fun r => decide (r.state = .joining))).map (·.node.id)
    markUpAll observedAtMillis m joining []

def MembershipUpdate.apply (m : ClusterMembership) :
    MembershipUpdate → Except ClusterError (List MembershipEvent) × ClusterMembership
  | applyDiscovery snapshot =>
    match m.recordDiscovery snapshot with
    | (.error e, m₁) => (.error e, m₁)
    | (.ok events, m₁) =>
      match promoteJoiningMembers m₁ snapshot.observedAtMillis with
      | (.error e, m₂) => (.error e, m₂)
      | (.ok promoted, m₂) => (.ok (events ++ promoted), m₂)
  | heartbeat nodeId observedAtMillis =>
    match m.heartbeat nodeId observedAtMillis with
    | (.error e, m₁) => (.error e, m₁)
    | (.ok event, m₁) => (.ok event.toList, m₁)
  | markLeaving nodeId observedAtMillis =>
    match m.markLeaving nodeId observedAtMillis with
    | (.error e, m₁) => (.error e, m₁)
    | (.ok event, m₁) => (.ok event.toList, m₁)
  | markDown nodeId observedAtMillis =>
    match m.markDown nodeId observedAtMillis with
    | (.error e, m₁) => (.error e, m₁)
    | (.ok event, m₁) => (.ok event.toList, m₁)
  | tick nowMillis =>
    let (events, m₁) := m.tick nowMillis
    (.ok events, m₁)

namespace ClusterShardingRuntime
variable {ρ ω : Type} (region : RegisteredShardRegion ρ) (env : CoordinatorEnv ω)
variable (api : Api) (r : ρ)

variable (u : MembershipUpdate)

def applyMembershipUpdate : RuntimeCall ρ ω (List MembershipEvent) := fun s =>
  match u.apply s.1.membership with
  | (.error e, m) => (.error ⟨.membership, .cluster e⟩, ({ s.1 with membership := m }, s.2))
  | (.ok events, m) => (.ok events, ({ s.1 with membership := m }, s.2))

def beginUpdate : RuntimeCall ρ ω (List MembershipEvent) := do
  ensureApi env api
  applyMembershipUpdate u

def update : RuntimeCall ρ ω ClusterShardingUpdate := do
  let events ← beginUpdate env api u
  reconcileAndPublish region env api events

/-- The first half of a registration: a registered type only has its shard count checked; otherwise
the lease is taken and the stored state read. -/
def beginRegistration :
    RuntimeCall ρ ω (Option (Option LeaseToken × Option PersistedShardCoordinatorState)) := do
  ensureApi env api
  let (rt, _) ← Attempt.get
  match rt.coordinators[region.entityType r]? with
  | some c =>
    if c.config.numberOfShards ≠ (region.config r).numberOfShards then
      Attempt.fail ⟨.registration, .entityTypeConfigMismatch (region.entityType r)
        c.config.numberOfShards (region.config r).numberOfShards⟩
    else return none
  | none => do
    let leaseToken ← ensureCoordinatorLeadership env (region.entityType r) api
    let loaded ← loadCoordinatorState env api (region.entityType r)
    return some (leaseToken, loaded)

def initialCoordinator (loaded : Option PersistedShardCoordinatorState) :
    Except ShardingError ShardCoordinator :=
  match loaded with
  | some state => ShardCoordinator.fromSnapshotWithAllocationStrategyRef (region.entityType r)
      (region.config r) state.snapshot (region.allocationStrategy r)
  | none => .ok (ShardCoordinator.withAllocationStrategyRef (region.entityType r)
      (region.config r) (region.allocationStrategy r))

/-- The second half: the coordinator is reconciled, persisted if that changed it, and only then
installed. -/
def installCoordinator (leaseToken : Option LeaseToken)
    (loaded : Option PersistedShardCoordinatorState) : RuntimeCall ρ ω Unit :=
  match initialCoordinator region r loaded with
  | .error e => Attempt.fail ⟨.registration, .sharding e⟩
  | .ok c => do
    let (rt, _) ← Attempt.get
    let (plan, c') := c.reconcile rt.membership
    unless plan.isEmpty do
      persistCoordinatorSnapshot env api c'.snapshot c'.allocationStrategy.strategyName
        plan.previousRevision leaseToken
    modifyRuntime (fun rt => { rt.setCoordinator c' with
      lastPersisted := rt.lastPersisted.insert c'.entityType c'.snapshot })

def attachRegion : RuntimeCall ρ ω Unit := fun s =>
  match s.1.coordinators[region.entityType r]? with
  | none => (.ok (), s)
  | some c =>
    match region.refreshOwnership c.snapshot r with
    | (.error e, _) => (.error ⟨.region, .sharding e⟩, s)
    | (.ok (), r') =>
      (.ok (), ({ s.1 with
        regions := s.1.regions.insert (region.entityType r)
          ((s.1.regions[region.entityType r]?.getD []) ++ [r'])
        lastPublished := s.1.lastPublished.insert (region.entityType r) c.snapshot }, s.2))

def registerRegion : RuntimeCall ρ ω Unit := do
  match ← beginRegistration region env api r with
  | none => attachRegion region r
  | some (leaseToken, loaded) => do
    installCoordinator region env api r leaseToken loaded
    attachRegion region r

def renewTokens : List LeaseToken → RuntimeCall ρ ω Unit
  | [] => return ()
  | token :: tokens => do
    renewToken env token.entityType token
    renewTokens tokens

def renewCoordinatorLeases : RuntimeCall ρ ω Unit := do
  let (rt, _) ← Attempt.get
  match rt.coordinatorLease with
  | .none => return ()
  | .async => renewTokens env rt.leaseTokens.valuesInOrder

def releaseTokens : List LeaseToken → RuntimeCall ρ ω Unit
  | [] => return ()
  | token :: tokens => do
    request .lease (env.release token)
    releaseTokens tokens

def releaseCoordinatorLeases : RuntimeCall ρ ω Unit := do
  let (rt, _) ← Attempt.get
  modifyRuntime (fun rt => { rt with leaseTokens := ∅ })
  match rt.coordinatorLease with
  | .none => return ()
  | .async => releaseTokens env rt.leaseTokens.valuesInOrder

end ClusterShardingRuntime
def nodeA : ClusterNode := .new ⟨"a", "1"⟩ ⟨"10.0.0.1", 2552⟩

def nodeB : ClusterNode := .new ⟨"b", "1"⟩ ⟨"10.0.0.2", 2552⟩

def pairMembership : ClusterMembership :=
  ((MembershipUpdate.applyDiscovery (.new "static" 1 [nodeA, nodeB])).apply
    (.new nodeA ⟨1, 10, 30⟩)).2

def cartRegion : RegisteredShardRegion Unit where
  entityType _ := ⟨"cart"⟩
  config _ := ⟨2, by decide⟩
  allocationStrategy _ := DeterministicModuloShardAllocationStrategy.toStrategy ⟨0⟩
  localNodeId _ := none
  refreshOwnership _ r := (.ok (), r)
  beginShardHandoff _ r := (.ok 0, r)
  completeShardHandoff _ r := (.ok 0, r)
  acquireShard _ r := (.ok 0, r)

end Rakka.Sharding
