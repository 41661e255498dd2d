import Rakka.Sharding.RuntimeSteps

/-! Runtimes that share one in-memory coordinator store. A call of one runtime is cut at its
accesses to the store, so that the steps of others come in between: a membership update runs one
reconciliation per step, and a registration loads the stored state in one step and writes in a later
one. -/

namespace Rakka.Sharding
open Cluster Foundation ClusterShardingRuntime

/-- The store ignores the lease token of a write. -/
def sharedStoreEnv {κ : Type} (lease : LeaseEnv κ) :
    CoordinatorEnv (InMemoryShardCoordinatorStore × κ) where
  leaseName := lease.leaseName
  acquire e n w := ((lease.acquire e n w.2).1, w.1, (lease.acquire e n w.2).2)
  renew t w := ((lease.renew t w.2).1, w.1, (lease.renew t w.2).2)
  release t w := ((lease.release t w.2).1, w.1, (lease.release t w.2).2)
  currentTimestampMillis w :=
    ((lease.currentTimestampMillis w.2).1, w.1, (lease.currentTimestampMillis w.2).2)
  storeBackend := InMemoryShardCoordinatorStore.backendName
  load e w := (w.1.load e, w)
  compareAndSetWithLease e expectedRevision state _ w :=
    ((w.1.compareAndSet e expectedRevision state).1,
      (w.1.compareAndSet e expectedRevision state).2, w.2)

/-- Where a runtime stands between two of its accesses to the store. -/
inductive Call (ρ : Type) where
  | idle
  | reconciling (api : Api) (remaining : List EntityType)
  | registering (api : Api) (r : ρ) (leaseToken : Option LeaseToken)
      (loaded : Option PersistedShardCoordinatorState)

/-- An accepted write: the coordinator and the membership it comes from, the state stored before it,
and whether the coordinator's last write was refused. -/
structure Write where
  entityType : EntityType
  coordinator : ShardCoordinator
  membership : ClusterMembership
  stored : Option PersistedShardCoordinatorState
  persisted : PersistedShardCoordinatorState
  afterRefusal : Bool

/-- The coordinator holds exactly what is stored; it is new when nothing is stored. -/
def ShardCoordinator.HoldsStored (c : ShardCoordinator) :
    Option PersistedShardCoordinatorState → Prop
  | none => c.snapshot.revision = 0 ∧ c.snapshot.assignments = []
  | some state => c.snapshot = state.snapshot

/-- The persisted snapshot is one reconciliation of the stored one. -/
structure Write.Derived (w : Write) : Prop where
  reconciled : w.persisted.snapshot = (w.coordinator.reconcile w.membership).2.snapshot
  holdsStored : w.coordinator.HoldsStored w.stored

instance (c : ShardCoordinator) (stored : Option PersistedShardCoordinatorState) :
    Decidable (c.HoldsStored stored) :=
  match stored with
  | none => inferInstanceAs (Decidable (_ ∧ _))
  | some _ => inferInstanceAs (Decidable (_ = _))

/-- `refused` and `writes` record the refused coordinators and the accepted writes. -/
structure Fleet (ι ρ κ : Type) where
  runtimes : ι → ClusterShardingRuntime ρ
  calls : ι → Call ρ
  store : InMemoryShardCoordinatorStore
  world : κ
  refused : ι → EntityType → Bool
  writes : List Write

inductive FleetOp (ι ρ : Type) where
  | beginUpdate (i : ι) (api : Api) (u : MembershipUpdate)
  | reconcileNext (i : ι)
  | beginRegistration (i : ι) (api : Api) (r : ρ)
  | finishRegistration (i : ι)
  | renewLeases (i : ι)
  | releaseLeases (i : ι)

namespace Fleet
variable {ι ρ κ : Type} [DecidableEq ι] (region : RegisteredShardRegion ρ) (lease : LeaseEnv κ)
variable (f : Fleet ι ρ κ) (i : ι) (api : Api)

def start (membership : ι → ClusterMembership) (asyncStore : ι → Bool)
    (coordinatorLease : ι → CoordinatorLeaseMode) (world : κ) : Fleet ι ρ κ where
  runtimes i := .new (membership i) (if asyncStore i then .async else .sync) (coordinatorLease i)
  calls _ := .idle
  store := ⟨∅⟩
  world := world
  refused _ _ := false
  writes := []

def exec {α : Type} (call : RuntimeCall ρ (InMemoryShardCoordinatorStore × κ) α) :
    Except Failure α × Fleet ι ρ κ :=
  let (answer, rt, store, world) := call (f.runtimes i, f.store, f.world)
  (answer, { f with runtimes := Function.update f.runtimes i rt, store := store, world := world })

def setCall (call : Call ρ) : Fleet ι ρ κ :=
  { f with calls := Function.update f.calls i call }

def setRefused (entityType : EntityType) (refused : Bool) : Fleet ι ρ κ :=
  { f with
    refused := Function.update f.refused i (Function.update (f.refused i) entityType refused) }

def written (before after : Fleet ι ρ κ) (entityType : EntityType) :
    Option PersistedShardCoordinatorState :=
  if after.store.states[entityType]? = before.store.states[entityType]? then none
  else after.store.states[entityType]?

/-- The write that makes `persisted` out of the coordinator `c` of runtime `i`. -/
def writeOf (before : Fleet ι ρ κ) (i : ι) (c : ShardCoordinator)
    (persisted : PersistedShardCoordinatorState) : Write where
  entityType := c.entityType
  coordinator := c
  membership := (before.runtimes i).membership
  stored := before.store.states[c.entityType]?
  persisted := persisted
  afterRefusal := before.refused i c.entityType

def record (before after : Fleet ι ρ κ) (i : ι) (c : ShardCoordinator) (refusal : Bool) :
    Fleet ι ρ κ :=
  match written before after c.entityType with
  | some persisted =>
    { after.setRefused i c.entityType false with
      writes := after.writes ++ [before.writeOf i c persisted] }
  | none => if refusal then after.setRefused i c.entityType true else after

def isRefusal {α : Type} : Except Failure α → Bool
  | .error f => decide (f.origin = .store)
  | .ok _ => false

/-- A membership update changes the membership and then visits the registered types. -/
def stepBeginUpdate (u : MembershipUpdate) : Fleet ι ρ κ :=
  match f.exec i (beginUpdate (sharedStoreEnv lease) api u) with
  | (.error _, f') => f'
  | (.ok _, f') => f'.setCall i (.reconciling api (f'.runtimes i).coordinators.keys)

def stepReconcileEntity (e : EntityType) (es : List EntityType) : Fleet ι ρ κ :=
  let (answer, f') := f.exec i
    (reconcileEntity region (sharedStoreEnv lease) api e)
  let f'' := match (f.runtimes i).coordinators[e]? with
    | none => f'
    | some c => record f f' i c (isRefusal answer)
  f''.setCall i (match answer with
    | .error _ => .idle
    | .ok _ => .reconciling api es)

def stepReconcileNext : List EntityType → Fleet ι ρ κ
  | [] => f.setCall i .idle
  | e :: es => f.stepReconcileEntity region lease i api e es

def stepBeginRegistration (r : ρ) : Fleet ι ρ κ :=
  match f.exec i (beginRegistration region (sharedStoreEnv lease) api r) with
  | (.error _, f') => f'
  | (.ok none, f') => (f'.exec i (attachRegion region r)).2
  | (.ok (some (leaseToken, loaded)), f') => f'.setCall i (.registering api r leaseToken loaded)

/-- A coordinator whose first write is refused is dropped, so nothing is refused here. -/
def stepInstall (r : ρ) (leaseToken : Option LeaseToken)
    (loaded : Option PersistedShardCoordinatorState) : Except Failure Unit × Fleet ι ρ κ :=
  let (answer, f') := f.exec i (installCoordinator region
    (sharedStoreEnv lease) api r leaseToken loaded)
  let f'' := match initialCoordinator region r loaded with
    | .error _ => f'
    | .ok c => record f f' i c false
  (answer, f''.setCall i .idle)

def stepFinishRegistration (r : ρ) (leaseToken : Option LeaseToken)
    (loaded : Option PersistedShardCoordinatorState) : Fleet ι ρ κ :=
  match f.stepInstall region lease i api r leaseToken loaded with
  | (.error _, f') => f'
  | (.ok (), f') => (f'.exec i (attachRegion region r)).2

/-- One step of one runtime; a runtime that is in the middle of a call finishes it first. -/
def step : FleetOp ι ρ → Option (Fleet ι ρ κ)
  | .beginUpdate i api u =>
    match f.calls i with
    | .idle => some (f.stepBeginUpdate lease i api u)
    | _ => none
  | .reconcileNext i =>
    match f.calls i with
    | .reconciling api es => some (f.stepReconcileNext region lease i api es)
    | _ => none
  | .beginRegistration i api r =>
    match f.calls i with
    | .idle => some (f.stepBeginRegistration region lease i api r)
    | _ => none
  | .finishRegistration i =>
    match f.calls i with
    | .registering api r leaseToken loaded =>
      some (f.stepFinishRegistration region lease i api r leaseToken loaded)
    | _ => none
  | .renewLeases i =>
    match f.calls i with
    | .idle =>
      some (f.exec i (renewCoordinatorLeases (sharedStoreEnv lease))).2
    | _ => none
  | .releaseLeases i =>
    match f.calls i with
    | .idle =>
      some (f.exec i (releaseCoordinatorLeases (sharedStoreEnv lease))).2
    | _ => none

end Fleet
end Rakka.Sharding
