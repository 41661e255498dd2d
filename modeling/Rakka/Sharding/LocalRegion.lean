import Rakka.Sharding.PublishedOwnership
import Rakka.Sharding.RegionOwnership

/-! Shard regions with a local route. Every successful call of the runtime leaves the handoff states
of a region's route in step with the owners in its cache, as long as no plan decides about a shard
twice. -/

namespace Rakka.Sharding
open Cluster Foundation RegionState

/-- A shard region with a local route, and the snapshots it was refreshed with. -/
structure LocalRegion (M : Type) where
  allocationStrategy : ShardAllocationStrategy
  route : LocalEntityRoute
  state : RegionState M (LocalRouteState M)
  snapshots : List ShardOwnershipSnapshot

namespace LocalRegion
variable {M : Type}
variable {r r' : LocalRegion M} {last next : ShardOwnershipSnapshot}
  {t : RegionState M (LocalRouteState M)}

def setState {α : Type} (r : LocalRegion M) (out : α × RegionState M (LocalRouteState M)) :
    α × LocalRegion M := (out.1, { r with state := out.2 })

def registered (M : Type) : RegisteredShardRegion (LocalRegion M) where
  entityType r := r.state.region.entityType
  config r := r.state.region.config
  allocationStrategy r := r.allocationStrategy
  localNodeId r := (r.route.entityRoute M).localNodeId
  refreshOwnership snapshot r :=
    match refreshOwnership (r.route.entityRoute M) snapshot r.state with
    | (.error e, state) => (.error e, { r with state := state })
    | (.ok (), state) => (.ok (), { r with state := state, snapshots := r.snapshots ++ [snapshot] })
  beginShardHandoff shardId r :=
    r.setState (beginShardHandoff (r.route.entityRoute M) shardId r.state)
  completeShardHandoff shardId r :=
    r.setState (completeShardHandoff (r.route.entityRoute M) shardId r.state)
  acquireShard shardId r :=
    r.setState (acquireShard (r.route.entityRoute M) shardId r.state)

variable (r)

def node : NodeId := r.route.localNodeId

def numberOfShards (r : LocalRegion M) : ℕ := r.state.region.config.numberOfShards

def ownerOf (shardId : ShardId) : Option NodeId :=
  r.state.region.ownerCache.owners[shardId]?

def entities (r : LocalRegion M) : LocalState M := r.state.route.entities

def Serves (shardId : ShardId) : Prop :=
  r.entities.shardHandoffState shardId = .owning ∨ r.entities.shardHandoffState shardId = .acquired

/-- A snapshot that the region was refreshed with named its node as the owner of the shard. -/
def OnceOwned (shardId : ShardId) : Prop :=
  ∃ snapshot ∈ r.snapshots, (snapshotOwners snapshot)[shardId]? = some r.node

variable {r}

instance (r : LocalRegion M) (shardId : ShardId) : Decidable (r.OnceOwned shardId) :=
  inferInstanceAs (Decidable (∃ _ ∈ _, _))

def Fresh (r : LocalRegion M) : Prop := r.state.region.ownerCache.owners = ∅ ∧ r.snapshots = []

/-- The region has the owners of `last`, and the states of the shards that `next` leaves alone agree
with them. -/
structure Between (last next : ShardOwnershipSnapshot) (r : LocalRegion M) : Prop where
  owners : r.state.region.ownerCache.owners = snapshotOwners last
  own : ∀ shardId < r.numberOfShards, (snapshotOwners last)[shardId]? = some r.node →
    (snapshotOwners next)[shardId]? = some r.node → r.Serves shardId
  former : ∀ shardId < r.numberOfShards, (snapshotOwners last)[shardId]? ≠ some r.node →
    (snapshotOwners next)[shardId]? ≠ some r.node → r.OnceOwned shardId →
    r.entities.shardHandoffState shardId = .transferring

/-- The region has the owners of the snapshot, and its route agrees with them. -/
def Agrees (snapshot : ShardOwnershipSnapshot) (r : LocalRegion M) : Prop :=
  Between snapshot snapshot r

lemma setState_ok {n : ℕ} {out : Except ShardingError ℕ × RegionState M (LocalRouteState M)}
    (h : r.setState out = (.ok n, r')) : ∃ t, out = (.ok n, t) ∧ r' = { r with state := t } := by
  rcases out with ⟨answer, t⟩
  cases h
  exact ⟨t, rfl, rfl⟩

theorem Between.of_kept (h : Between last next r)
    (hcache : t.region.ownerCache = r.state.region.ownerCache)
    (hconfig : t.region.config = r.state.region.config)
    (hkept : ∀ k : ShardId, ((snapshotOwners last)[k]? = some r.node ↔
      (snapshotOwners next)[k]? = some r.node) → t.route.handoff k = r.state.route.handoff k) :
    Between last next { r with state := t } := by
  have hlt (k : ShardId) (hk : k < t.region.config.numberOfShards) : k < r.numberOfShards := by
    rwa [hconfig] at hk
  refine ⟨hcache ▸ h.owners, fun k hk hlast hnext => ?_, fun k hk hlast hnext honce => ?_⟩
  · have hstate : t.route.entities.shardHandoffState k = r.entities.shardHandoffState k :=
      hkept k ⟨fun _ => hnext, fun _ => hlast⟩
    have hserves := h.own k (hlt k hk) hlast hnext
    rw [Serves, ← hstate] at hserves
    exact hserves
  · have hstate : t.route.entities.shardHandoffState k = r.entities.shardHandoffState k :=
      hkept k ⟨fun h => absurd h hlast, fun h => absurd h hnext⟩
    exact hstate.trans (h.former k (hlt k hk) hlast hnext honce)

lemma Between.touch (h : Between last next r) {shardId : ShardId} {state : ShardHandoffState}
    (hchanges : ¬ ((snapshotOwners last)[shardId]? = some r.node ↔
      (snapshotOwners next)[shardId]? = some r.node))
    (ht : t.shards = r.state.shards.put [shardId] state) :
    Between last next { r with state := t } := by
  refine h.of_kept (congrArg OwnershipView.ownerCache ht) (congrArg OwnershipView.config ht)
    (fun k hk => ?_)
  have hne : k ≠ shardId := by
    rintro rfl
    exact hchanges hk
  have hroute := congrArg (fun v => v.route k) ht
  simp only [OwnershipView.put, List.mem_singleton, hne, if_false] at hroute
  exact hroute

lemma Between.refresh (h : Between last next r)
    (hrefresh : (registered M).refreshOwnership next r = (.ok (), r')) : Agrees next r' := by
  simp only [registered] at hrefresh
  rcases hout : refreshOwnership (r.route.entityRoute M) next r.state with ⟨e | ⟨⟩, t⟩
  · rw [hout] at hrefresh
    cases hrefresh
  rw [hout] at hrefresh
  cases hrefresh
  obtain ⟨hconfig, howners, hroute⟩ := refreshOwnership_shards r.route hout
  simp only [h.owners] at hroute
  have hlt (k : ShardId) (hk : k < t.region.config.numberOfShards) : k < r.numberOfShards := by
    rwa [hconfig] at hk
  refine ⟨howners, fun k hk hnext _ => ?_, fun k hk hnext _ honce => ?_⟩
  · -- A shard that the node keeps was served before; one that it gains is acquired.
    have hstate : t.route.entities.shardHandoffState k = _ := hroute k (hlt k hk)
    rw [if_pos (show _ = some r.route.localNodeId from hnext),
      if_pos (show _ = some r.route.localNodeId from hnext)] at hstate
    split_ifs at hstate with hlast
    · have hserves := h.own k (hlt k hk) hlast hnext
      rw [Serves, show r.entities.shardHandoffState k = _ from hstate.symm] at hserves
      exact hserves
    · exact .inr hstate
  · -- A shard that the node loses is given away; one that it had lost before stays so.
    have hstate : t.route.entities.shardHandoffState k = _ := hroute k (hlt k hk)
    rw [if_neg (show ¬ _ = some r.route.localNodeId from hnext),
      if_neg (show ¬ _ = some r.route.localNodeId from hnext)] at hstate
    split_ifs at hstate with hlast
    · exact hstate
    · refine hstate.trans (h.former k (hlt k hk) hlast hnext ?_)
      obtain ⟨snapshot, hmem, howner⟩ := honce
      rcases List.mem_append.mp hmem with hmem | hmem
      · exact ⟨snapshot, hmem, howner⟩
      · rw [List.mem_singleton.mp hmem] at howner
        exact absurd howner hnext

lemma registered_follows : FollowsOwnership (registered M) Fresh Agrees Between where
  starts := by
    intro r hr next
    refine ⟨⟨0, ⟨""⟩, 0, []⟩, hr.1, fun k _ hlast _ => ?_, fun k _ _ _ honce => ?_⟩
    · cases hlast
    · obtain ⟨snapshot, hmem, -⟩ := honce
      rw [hr.2] at hmem
      cases hmem
  leaves := by
    intro last r h next
    exact ⟨h.owners, fun k hk hlast _ => h.own k hk hlast hlast,
      fun k hk hlast _ => h.former k hk hlast hlast⟩
  refresh := Between.refresh
  giveUp := by
    intro last next r r' n node shardId h hnode hlast hnext hgive
    obtain rfl : r.node = node := Option.some.inj hnode
    have hchanges : ¬ ((snapshotOwners last)[shardId]? = some r.node ↔
        (snapshotOwners next)[shardId]? = some r.node) := fun hiff => hnext (hiff.mp hlast)
    rcases hgive with hgive | hgive
    · obtain ⟨t, ht, rfl⟩ := setState_ok hgive
      exact h.touch hchanges (askRoute_shards r.route.beginShardHandoff_handoff shardId
        _ r.state n t rfl ht)
    · obtain ⟨t, ht, rfl⟩ := setState_ok hgive
      exact h.touch hchanges (askRoute_shards r.route.completeShardHandoff_handoff
        shardId _ r.state n t rfl ht)
  takeOver := by
    intro last next r r' n node shardId h hnode hlast hnext hacquire
    obtain rfl : r.node = node := Option.some.inj hnode
    obtain ⟨t, ht, rfl⟩ := setState_ok hacquire
    exact h.touch (fun hiff => hlast (hiff.mpr hnext))
      (acquireShard_shards r.route shardId _ r.state n t rfl ht)

end LocalRegion

/-- What happens beside the calls of the runtime. -/
inductive RegionTraffic (M : Type) where
  | tell (entity : EntityRef) (message : M)
  | beginEntityPassivation (entityId : EntityId) (duration : Duration)
  | endEntityPassivation (entityId : EntityId)
  | flushBuffered
  | activateEntity (entityId : EntityId)
  | advance (elapsed : Duration)
  | entities (op : LocalOp M)

namespace LocalRegion
variable {M : Type}
variable {r : LocalRegion M} {t : RegionState M (LocalRouteState M)}

def stepEntities (r : LocalRegion M) : LocalOp M → Option (RegionState M (LocalRouteState M))
  | .setShardState _ _ => none
  | op => do
    let entities ← r.entities.step r.route op
    return { r.state with route := ⟨entities, r.state.route.envs⟩ }

def stepState (r : LocalRegion M) : RegionTraffic M → Option (RegionState M (LocalRouteState M))
  | .tell entity message => some (r.state.tell (r.route.entityRoute M) entity message).2
  | .beginEntityPassivation entityId duration =>
    some (r.state.beginEntityPassivation entityId duration)
  | .endEntityPassivation entityId =>
    some (r.state.endEntityPassivation (r.route.entityRoute M) entityId)
  | .flushBuffered => some (r.state.flushBuffered (r.route.entityRoute M))
  | .activateEntity entityId =>
    some (activateEntity (r.route.entityRoute M) entityId r.state).2
  | .advance elapsed => some { r.state with now := r.state.now + elapsed }
  | .entities op => r.stepEntities op

lemma stepEntities_shards {op : LocalOp M} (h : r.stepEntities op = some t) :
    t.shards = r.state.shards := by
  have hop : ∀ shardId state, op ≠ .setShardState shardId state := by
    rintro shardId state rfl
    cases h
  have hstep : (r.entities.step r.route op).bind (fun entities =>
      some { r.state with route := ⟨entities, r.state.route.envs⟩ }) = some t := by
    cases op with
    | setShardState => cases h
    | _ => exact h
  obtain ⟨entities, hentities, ht⟩ := Option.bind_eq_some_iff.mp hstep
  have hhandoff : entities.shardHandoffState = r.entities.shardHandoffState :=
    LocalState.step_handoff hop hentities
  rw [← Option.some.inj ht]
  simp only [shards, ownership, LocalRouteState.handoff, hhandoff]
  rfl

lemma stepState_shards {event : RegionTraffic M} (h : r.stepState event = some t) :
    t.shards = r.state.shards := by
  have hdeliver := r.route.deliver_handoff (M := M)
  cases event with
  | tell entity message =>
    rw [← Option.some.inj h]
    exact tell_ownership _ hdeliver r.state entity message
  | beginEntityPassivation entityId duration =>
    rw [← Option.some.inj h]
    exact beginEntityPassivation_ownership _ r.state entityId duration
  | endEntityPassivation entityId =>
    rw [← Option.some.inj h]
    exact endEntityPassivation_ownership _ hdeliver r.state entityId
  | flushBuffered =>
    rw [← Option.some.inj h]
    exact flushBuffered_ownership _ hdeliver r.state
  | activateEntity entityId =>
    rw [← Option.some.inj h]
    exact activateEntity_shards r.route entityId r.state
  | advance =>
    rw [← Option.some.inj h]
    rfl
  | entities => exact stepEntities_shards h

end LocalRegion

/-- Calls on the runtime, and the traffic of the regions registered with it. -/
inductive LocalShardingOp (M : Type) where
  | runtime (op : RuntimeOp (LocalRegion M))
  | traffic (entityType : EntityType) (index : ℕ) (event : RegionTraffic M)

namespace LocalShardingOp
open LocalRegion RuntimeOp
variable {M ω : Type} (env : CoordinatorEnv ω)

def step (s : ClusterShardingRuntime (LocalRegion M) × ω) :
    LocalShardingOp M → Option (ClusterShardingRuntime (LocalRegion M) × ω)
  | .runtime op => op.step (registered M) env s
  | .traffic entityType index event => do
    let regions ← s.1.regions[entityType]?
    let r ← regions[index]?
    let state ← r.stepState event
    return ({ s.1 with
      regions := s.1.regions.insert entityType (regions.set index { r with state := state }) }, s.2)

def Returns (s : ClusterShardingRuntime (LocalRegion M) × ω) : LocalShardingOp M → Prop
  | .runtime op => (op.call (registered M) env s).1 = .ok ()
  | .traffic _ _ _ => True

instance decidableReturns (s : ClusterShardingRuntime (LocalRegion M) × ω) :
    ∀ op, Decidable (Returns env s op)
  | .runtime op => inferInstanceAs (Decidable ((op.call (registered M) env s).1 = .ok ()))
  | .traffic _ _ _ => isTrue trivial

/-- A region that is registered has seen no snapshot and uses a built-in strategy. -/
def RegistersFresh (op : LocalShardingOp M) : Prop :=
  ∀ api r, op = .runtime (.register api r) → Fresh r ∧ r.allocationStrategy.IsBuiltIn

lemma step_followed {s t : ClusterShardingRuntime (LocalRegion M) × ω} {op : LocalShardingOp M}
    (hs : s.1.Followed Agrees) (hreturns : Returns env s op) (hfresh : op.RegistersFresh)
    (hstep : step env s op = some t) : t.1.Followed Agrees := by
  cases op with
  | runtime =>
    rw [← Option.some.inj hstep]
    refine RuntimeOp.call_followed (registered M) env registered_follows hs ⟨hreturns, ?_⟩
    exact fun api r h => hfresh api r (congrArg runtime h)
  | traffic entityType =>
    obtain ⟨regions, hregions, hstep⟩ := Option.bind_eq_some_iff.mp hstep
    obtain ⟨r, hr, hstep⟩ := Option.bind_eq_some_iff.mp hstep
    obtain ⟨state, hstate, hstep⟩ := Option.bind_eq_some_iff.mp hstep
    rw [← Option.some.inj hstep]
    refine ⟨hs.builtIn, fun e rs hrs r' hr' => ?_⟩
    change (s.1.regions.insert entityType _)[e]? = some rs at hrs
    rw [BTreeMap.lookup_insert] at hrs
    split_ifs at hrs with he
    · subst he
      rw [← Option.some.inj hrs] at hr'
      rcases List.mem_or_eq_of_mem_set hr' with hr' | rfl
      · exact hs.agrees e regions hregions r' hr'
      · obtain ⟨c, hc, hagrees⟩ := hs.agrees e regions hregions r (List.mem_of_getElem? hr)
        have hshards := stepState_shards hstate
        exact ⟨c, hc, hagrees.of_kept (congrArg OwnershipView.ownerCache hshards)
          (congrArg OwnershipView.config hshards)
          (fun k _ => congrArg (fun v => v.route k) hshards)⟩
    · exact hs.agrees e rs hrs r' hr'

lemma new_followed (membership : ClusterMembership) (store : CoordinatorStoreMode)
    (lease : CoordinatorLeaseMode) : (ClusterShardingRuntime.new membership store lease :
      ClusterShardingRuntime (LocalRegion M)).Followed Agrees := by
  constructor
  · intro e c hc
    cases hc
  · intro e rs hrs
    cases hrs

def cartAt (node : ClusterNode) (strategy : ShardAllocationStrategy) : LocalRegion String where
  allocationStrategy := strategy
  route := ⟨node.id, 2, none⟩
  state := .start ⟨"cart"⟩ ⟨2, Nat.two_pos⟩ (.new 2 100) ⟨.empty 0, fun _ => ⟨true, none⟩⟩ 0 1000
  snapshots := []

structure ShardView where
  node : NodeId
  numberOfShards : ℕ
  owner : Option NodeId
  onceOwned : Bool
  state : ShardHandoffState
  deriving DecidableEq

def shardView (shardId : ShardId) (r : LocalRegion String) : ShardView :=
  ⟨r.node, r.numberOfShards, r.ownerOf shardId, decide (r.OnceOwned shardId),
    r.entities.shardHandoffState shardId⟩

def cartViews (shardId : ShardId) (s : ClusterShardingRuntime (LocalRegion String) × ℕ) :
    Option (List ShardView) :=
  s.1.regions[(⟨"cart"⟩ : EntityType)]?.map (fun rs => rs.map (shardView shardId))

lemma region_of_cartViews {shardId : ShardId}
    {s : ClusterShardingRuntime (LocalRegion String) × ℕ} {view : ShardView}
    (h : cartViews shardId s = some [view]) :
    ∃ r, s.1.regions[(⟨"cart"⟩ : EntityType)]? = some [r] ∧ shardView shardId r = view := by
  obtain ⟨rs, hrs, hmap⟩ := Option.map_eq_some_iff.mp h
  obtain ⟨r, rfl, hr⟩ := List.map_eq_singleton_iff.mp hmap
  exact ⟨r, hrs, hr⟩

def leavingOps : List (LocalShardingOp String) :=
  [.runtime (.register .sync
      (cartAt nodeA (DeterministicModuloShardAllocationStrategy.toStrategy ⟨0⟩))),
    .traffic ⟨"cart"⟩ 0 (.tell ⟨⟨"cart"⟩, ⟨"cart-1"⟩⟩ "add"),
    .runtime (.update .sync (.markLeaving nodeA.id 2))]

def nodeC : ClusterNode := .new ⟨"c", "1"⟩ ⟨"10.0.0.3", 2552⟩

/-- A strategy that sends a shard on from the second node as soon as another node is routable. -/
def onwardStrategy : ShardAllocationStrategy where
  strategyName := "onward"
  allocateShard _ _ := some nodeB.id
  rebalance context :=
    if context.assignments[(0 : ShardId)]? = some nodeB.id then
      (([nodeA.id, nodeC.id].filter (fun n => decide (n ∈ context.routableNodes))).take 1).map
        (fun n => ⟨0, n⟩)
    else []

def onwardOps : List (LocalShardingOp String) :=
  [.runtime (.register .sync (cartAt nodeB onwardStrategy)),
    .runtime (.update .sync (.applyDiscovery (.new "static" 1 [nodeA, nodeB, nodeC]))),
    .runtime (.update .sync (.markLeaving nodeA.id 2))]

def soleMembership : ClusterMembership :=
  ((MembershipUpdate.applyDiscovery (.new "static" 0 [nodeB])).apply (.new nodeB ⟨1, 10, 30⟩)).2

end LocalShardingOp
end Rakka.Sharding
