import Rakka.Sharding.LocalTasks

/-! What a shard region and its route know about the ownership of shards. Only a refresh changes it:
it takes over the owners of a snapshot and moves the handoff states of the shards that change hands.
-/

namespace Rakka.Sharding
open Cluster Foundation

/-- The ownership of shards as a region sees it, with a view of its route. -/
structure OwnershipView (α : Type) where
  entityType : EntityType
  config : ShardingConfig
  ownerCache : ShardOwnerCache
  route : α

namespace RegionState
variable {M σ α : Type} (view : σ → α)

def ownership (s : RegionState M σ) : OwnershipView α :=
  ⟨s.region.entityType, s.region.config, s.region.ownerCache, view s.route⟩

@[simp] lemma setBuffer_ownership (s : RegionState M σ) (b : ShardMessageBuffer M) :
    (s.setBuffer b).ownership view = s.ownership view := rfl

@[simp] lemma settle_ownership (s : RegionState M σ) (ms : List (BufferedEntityMessage M))
    (fate : BufferedEntityMessage M → Fate DropReason) :
    (s.settle ms fate).ownership view = s.ownership view := rfl

section
variable (route : EntityRoute M σ)
variable (s : RegionState M σ) (entityId : EntityId)

@[simp] lemma enqueueBuffered_ownership (ticket : ℕ) (entityType : EntityType) (entityId : EntityId)
    (shardId : ShardId) (message : M) :
    (s.enqueueBuffered route ticket entityType entityId shardId message).2.ownership view =
      s.ownership view := by
  unfold enqueueBuffered
  split <;> rfl

@[simp] lemma enqueueExistingBuffered_ownership (m : BufferedEntityMessage M) :
    (s.enqueueExistingBuffered m).ownership view = s.ownership view := by
  unfold enqueueExistingBuffered
  split
  · split <;> rfl
  · rfl

@[simp] lemma isEntityBuffered_ownership :
    (s.isEntityBuffered entityId).2.ownership view = s.ownership view := by
  unfold isEntityBuffered
  split <;> rfl

lemma beginEntityPassivation_ownership (duration : Duration) :
    (s.beginEntityPassivation entityId duration).ownership view = s.ownership view := by
  unfold beginEntityPassivation
  split_ifs
  · rfl
  · split <;> rfl

end

variable {route : EntityRoute M σ} (hdeliver : ∀ m x, view (route.deliver m x).2 = view x)
include hdeliver

section
variable (s : RegionState M σ)
include s

lemma deliver_ownership (ticket : ℕ) (m : RoutedEntityMessage M) :
    (s.deliver route ticket m).2.ownership view = s.ownership view := by
  simp only [ownership, deliver, hdeliver]

lemma deliverOrBuffer_ownership (ticket : ℕ) (m : RoutedEntityMessage M) :
    (s.deliverOrBuffer route ticket m).2.ownership view = s.ownership view := by
  have h := deliver_ownership view hdeliver s ticket m
  unfold deliverOrBuffer
  split
  next s' heq =>
    rw [heq] at h
    exact h
  next message failureShardId state s' heq =>
    rw [heq] at h
    split_ifs
    · exact h
    · rw [enqueueBuffered_ownership]
      exact h
  next e s' _ heq =>
    rw [heq] at h
    exact h

lemma tellTicket_ownership (ticket : ℕ) (entity : EntityRef) (message : M) :
    (s.tellTicket route ticket entity message).2.ownership view = s.ownership view := by
  have h := isEntityBuffered_ownership view s entity.entityId
  unfold tellTicket
  split_ifs
  · rfl
  · dsimp only
    split
    next s' heq =>
      rw [heq] at h
      rw [enqueueBuffered_ownership]
      exact h
    next s' heq =>
      rw [heq] at h
      split
      · rw [deliverOrBuffer_ownership view hdeliver]
        exact h
      · split_ifs
        · rw [enqueueBuffered_ownership]
          exact h
        · exact h

lemma tell_ownership (entity : EntityRef) (message : M) :
    (s.tell route entity message).2.ownership view = s.ownership view := by
  have h := tellTicket_ownership view hdeliver s s.nextTicket entity message
  unfold tell
  split
  next s' heq =>
    rw [heq] at h
    exact h
  next e s' heq =>
    rw [heq] at h
    exact h

lemma flushOneBuffered_ownership (m : BufferedEntityMessage M) :
    (s.flushOneBuffered route m).ownership view = s.ownership view := by
  unfold flushOneBuffered
  split
  · exact enqueueExistingBuffered_ownership ..
  next owner shardId _ =>
    have h := deliver_ownership view hdeliver s m.ticket
      ⟨m.entityType, m.entityId, shardId, owner, m.message⟩
    generalize s.deliver route m.ticket _ = out at h
    rcases out with ⟨answer, s'⟩
    split
    · simp_all
    · simp_all
    · simp_all
    · simp_all

lemma flushBuffered_ownership : (s.flushBuffered route).ownership view = s.ownership view := by
  unfold flushBuffered
  split
  · rfl
  next b _ =>
    refine List.foldlRecOn
      (motive := fun s' : RegionState M σ => s'.ownership view = s.ownership view) _ _ rfl ?_
    intro s' hs' m _
    rw [flushOneBuffered_ownership view hdeliver]
    exact hs'

lemma endEntityPassivation_ownership (entityId : EntityId) :
    (s.endEntityPassivation route entityId).ownership view = s.ownership view := by
  unfold endEntityPassivation
  split
  · exact flushBuffered_ownership view hdeliver s
  · rw [flushBuffered_ownership view hdeliver]
    rfl

end

end RegionState

lemma Registry.Move.handoff {M : Type} {capacity : ℕ} {terms : RouteTerms} {r r' : Registry M}
    (hsets : ∀ shardId state, ¬ terms.sets shardId state) (h : Move capacity terms r r') :
    r'.handoff = r.handoff := by
  cases h with
  | @turn _ _ _ turn => cases turn <;> rfl
  | setState shardId state hterms => exact absurd hterms (hsets shardId state)
  | _ => rfl

def RouteTerms.traffic : RouteTerms :=
  ⟨True, True, fun _ => True, True, fun _ _ => True, fun _ _ => False⟩

lemma CallEnv.within_traffic (env : CallEnv) (route : LocalEntityRoute) :
    env.Within route .traffic := ⟨fun _ => trivial, fun _ => trivial⟩

namespace LocalState
variable {M : Type} {route : LocalEntityRoute} {s : LocalState M}

lemma handoff_of_moves {t : LocalState M} {capacity : ℕ}
    (h : Registry.Moves capacity .traffic s.registry t.registry) :
    t.shardHandoffState = s.shardHandoffState := by
  have hmove (r r' : Registry M) (h : Registry.Move capacity .traffic r r')
      (hr : r.handoff = s.registry.handoff) : r'.handoff = s.registry.handoff :=
    (h.handoff (fun _ _ => id)).trans hr
  exact Registry.Moves.invariant hmove h rfl

@[simp] lemma deliver_handoff (env : CallEnv) (message : RoutedEntityMessage M) :
    (s.deliver route env message).2.shardHandoffState = s.shardHandoffState :=
  handoff_of_moves (deliver_moves (env.within_traffic route) trivial)

lemma setShardState_handoff (shardId : ShardId) (state : ShardHandoffState) :
    (s.setShardState shardId state).shardHandoffState =
      Function.update s.shardHandoffState shardId state :=
  congrArg Registry.handoff (s.registry_setShardState shardId state)

lemma markShardTransferring_handoff (route : LocalEntityRoute) (env : CallEnv) (shardId : ShardId) :
    (s.markShardTransferring env shardId).2.shardHandoffState =
      Function.update s.shardHandoffState shardId .transferring := by
  have hstopped := passivateEach_moves (env.within_traffic route) 0
    (((s.setShardState shardId .transferring).actors.toList.filter
      (fun p => p.2.context.shardId = shardId)).map Prod.fst) (fun _ _ => trivial)
    (s.setShardState shardId .transferring)
  exact (handoff_of_moves hstopped.1).trans (setShardState_handoff shardId .transferring)

lemma onIncarnationStopped_handoff (env : CallEnv) (e : EntityId) (uid : ActorUid) :
    (s.onIncarnationStopped route env e uid).shardHandoffState = s.shardHandoffState := by
  unfold onIncarnationStopped
  split
  next context actorRef held reactivate _ =>
    split_ifs
    · rfl
    · have hactivated := (s.removeSlot e).activateSlot_cases route env context held
      generalize activateSlot route _ env context held = out at hactivated ⊢
      cases hactivated with
      | spawned hpos hregistry => exact congrArg Registry.handoff hregistry
      | failed => rfl
    · rfl
  · rfl

lemma step_handoff {t : LocalState M} {op : LocalOp M}
    (hop : ∀ shardId state, op ≠ .setShardState shardId state) (hstep : s.step route op = some t) :
    t.shardHandoffState = s.shardHandoffState := by
  by_cases hwatcher : ∃ env e uid, op = .watcher env e uid
  · obtain ⟨env, e, uid, rfl⟩ := hwatcher
    obtain ⟨-, hstate⟩ := Option.ite_none_right_eq_some.mp hstep
    rw [← Option.some.inj hstate]
    exact onIncarnationStopped_handoff env e uid
  · refine handoff_of_moves (step_moves (fun env e uid h => absurd ⟨env, e, uid, h⟩ hwatcher)
      ⟨fun env _ => env.within_traffic route, ?_⟩ hstep)
    cases op with
    | setShardState shardId state => exact absurd rfl (hop shardId state)
    | passivateShard => exact fun _ _ _ _ => trivial
    | actorTurn => exact .inl trivial
    | _ => exact trivial

end LocalState

/-- The entities of a local route, and what its coming calls find around them. -/
structure LocalRouteState (M : Type) where
  entities : LocalState M
  envs : ℕ → CallEnv

namespace LocalRouteState
variable {M α : Type}

def call (f : CallEnv → LocalState M → α × LocalState M) (s : LocalRouteState M) :
    α × LocalRouteState M :=
  let (answer, entities) := f (s.envs 0) s.entities
  (answer, ⟨entities, fun n => s.envs (n + 1)⟩)

def count (f : CallEnv → LocalState M → ℕ × LocalState M) (s : LocalRouteState M) :
    Except ShardingError ℕ × LocalRouteState M :=
  let (n, s') := s.call f
  (.ok n, s')

def handoff (s : LocalRouteState M) : ShardId → ShardHandoffState := s.entities.shardHandoffState

end LocalRouteState

namespace LocalEntityRoute
variable {M : Type}
variable (shardId : ShardId) (s : LocalRouteState M)

def entityRoute (M : Type) (route : LocalEntityRoute) : EntityRoute M (LocalRouteState M) where
  localNodeId := some route.localNodeId
  deliver m s := s.call (fun env s => s.deliver route env m)
  beginShardHandoff shardId s := s.count (fun _ s => s.markShardDraining shardId)
  completeShardHandoff shardId s := s.count (fun env s => s.markShardTransferring env shardId)
  acquireShard shardId s := s.count (fun _ s => s.markShardAcquired shardId)
  activateEntity entityType entityId shardId s :=
    s.call (fun env s => s.activateExistingOrSpawn route env entityType entityId shardId)
  shardHandoffState shardId s := some (s.entities.shardHandoffState shardId)

variable (route : LocalEntityRoute)

lemma deliver_handoff (m : RoutedEntityMessage M) (s : LocalRouteState M) :
    ((route.entityRoute M).deliver m s).2.handoff = s.handoff :=
  LocalState.deliver_handoff (s.envs 0) m

lemma beginShardHandoff_handoff : ((route.entityRoute M).beginShardHandoff shardId s).2.handoff =
      Function.update s.handoff shardId .draining :=
  LocalState.setShardState_handoff shardId .draining

lemma completeShardHandoff_handoff :
    ((route.entityRoute M).completeShardHandoff shardId s).2.handoff =
      Function.update s.handoff shardId .transferring :=
  LocalState.markShardTransferring_handoff route (s.envs 0) shardId

lemma acquireShard_handoff : ((route.entityRoute M).acquireShard shardId s).2.handoff =
      Function.update s.handoff shardId .acquired :=
  LocalState.setShardState_handoff shardId .acquired

end LocalEntityRoute

namespace RegionState
variable {M : Type}

def shards (s : RegionState M (LocalRouteState M)) : OwnershipView (ShardId → ShardHandoffState) :=
  s.ownership LocalRouteState.handoff

end RegionState

def OwnershipView.put (v : OwnershipView (ShardId → ShardHandoffState)) (shardIds : List ShardId)
    (state : ShardHandoffState) : OwnershipView (ShardId → ShardHandoffState) :=
  { v with route := fun shardId => if shardId ∈ shardIds then state else v.route shardId }

namespace RegionState
variable {M : Type} {ask : ShardId → LocalRouteState M → Except ShardingError ℕ × LocalRouteState M}
  {state : ShardHandoffState}
variable (route : LocalEntityRoute)

lemma askRoute_shards
    (hask : ∀ shardId x, (ask shardId x).2.handoff = Function.update x.handoff shardId state)
    (shardId : ShardId) (v : OwnershipView (ShardId → ShardHandoffState)) :
    Attempt.Ensures (fun s : RegionState M (LocalRouteState M) => s.shards = v)
      (askRoute ask shardId) (fun t => t.shards = v.put [shardId] state) := by
  rintro s n t rfl h
  have ht : t = { s with route := (ask shardId s.route).2 } := (congrArg Prod.snd h).symm
  have hroute : t.route.handoff = (s.shards.put [shardId] state).route := by
    rw [ht, hask]
    funext k
    simp only [Function.update_apply, OwnershipView.put, List.mem_singleton]
    rfl
  rw [shards, ownership, hroute, ht]
  rfl

lemma askRouteEach_shards
    (hask : ∀ shardId x, (ask shardId x).2.handoff = Function.update x.handoff shardId state)
    (shardIds : List ShardId) (v : OwnershipView (ShardId → ShardHandoffState)) :
    Attempt.Ensures (fun s : RegionState M (LocalRouteState M) => s.shards = v)
      (askRouteEach ask shardIds) (fun t => t.shards = v.put shardIds state) := by
  induction shardIds generalizing v with
  | nil =>
    have hput : v.put [] state = v := by simp [OwnershipView.put]
    rw [hput]
    exact Attempt.ensures_pure _ _
  | cons shardId shardIds ih =>
    have hput : v.put (shardId :: shardIds) state = (v.put [shardId] state).put shardIds state := by
      simp only [OwnershipView.put, OwnershipView.mk.injEq, true_and]
      funext k
      simp only [List.mem_cons, List.not_mem_nil, or_false]
      split_ifs <;> simp_all
    rw [hput]
    exact .bind (askRoute_shards hask shardId v) (fun _ => ih _)

lemma refreshCache_shards (snapshot : ShardOwnershipSnapshot)
    (v : OwnershipView (ShardId → ShardHandoffState)) :
    Attempt.Ensures (fun s : RegionState M (LocalRouteState M) => s.shards = v)
      (refreshCache snapshot) (fun t => t.shards = { v with ownerCache := { v.ownerCache with
          revision := snapshot.revision
          owners := snapshotOwners snapshot } }) := by
  rintro s n t rfl h
  unfold refreshCache ShardOwnerCache.refresh at h
  cases hvalid : validateSnapshot s.region.ownerCache.entityType s.region.ownerCache.config snapshot with
  | error =>
    rw [hvalid] at h
    cases h
  | ok =>
    rw [hvalid] at h
    cases h
    rfl

lemma flush_shards (route : LocalEntityRoute) (v : OwnershipView (ShardId → ShardHandoffState)) :
    Attempt.Ensures (ε := ShardingError)
      (fun s : RegionState M (LocalRouteState M) => s.shards = v)
      (Attempt.modify (flushBuffered (route.entityRoute M))) (fun t => t.shards = v) := by
  refine Attempt.ensures_modify (fun s hs => ?_)
  rw [← hs]
  exact flushBuffered_ownership _ route.deliver_handoff s

lemma acquireShard_shards (shardId : ShardId) (v : OwnershipView (ShardId → ShardHandoffState)) :
    Attempt.Ensures (fun s : RegionState M (LocalRouteState M) => s.shards = v)
      (acquireShard (route.entityRoute M) shardId) (fun t => t.shards = v.put [shardId] .acquired) := by
  have hask := askRoute_shards (M := M) route.acquireShard_handoff shardId v
  exact hask.bind (fun _ => (flush_shards route _).bind (fun _ => Attempt.ensures_pure _ _))

lemma activateEntity_shards (entityId : EntityId) :
    Attempt.Keeps (fun s t : RegionState M (LocalRouteState M) => t.shards = s.shards)
      (activateEntity (route.entityRoute M) entityId) := by
  refine .bind (fun _ _ _ h₁ h₂ => h₂.trans h₁) (Attempt.keeps_get (fun _ => rfl)) (fun s => ?_)
  dsimp only
  split
  · exact fun t => rfl
  · split_ifs
    · intro t
      have hroute : ((route.entityRoute M).activateEntity s.region.entityType entityId
          (ShardId.forEntity s.region.entityType entityId s.region.config) t.route).2.handoff =
            t.route.handoff :=
        LocalState.handoff_of_moves (LocalState.activateExistingOrSpawn_moves
          ((t.route.envs 0).within_traffic route) s.region.entityType trivial)
      simp only [shards, ownership, askRoute, hroute]
    · exact fun t => rfl

theorem refreshOwnership_shards {snapshot : ShardOwnershipSnapshot}
    {s t : RegionState M (LocalRouteState M)}
    (h : refreshOwnership (route.entityRoute M) snapshot s = (.ok (), t)) :
    t.region.config = s.region.config ∧ t.region.ownerCache.owners = snapshotOwners snapshot ∧
    ∀ shardId < s.region.config.numberOfShards, t.route.handoff shardId =
      if s.region.ownerCache.owners[shardId]? = some route.localNodeId then
        if (snapshotOwners snapshot)[shardId]? = some route.localNodeId then s.route.handoff shardId
        else .transferring else
        if (snapshotOwners snapshot)[shardId]? = some route.localNodeId then .acquired
        else s.route.handoff shardId := by
  unfold refreshOwnership at h
  rw [Attempt.get_bind] at h
  cases hvalid : validateSnapshot s.region.entityType s.region.config snapshot with
  | error =>
    rw [hvalid] at h
    cases h
  | ok =>
    rw [hvalid] at h
    let changes := localOwnershipChanges s.region.ownerCache.owners snapshot s.region.config
      route.localNodeId
    have hlost := askRouteEach_shards (M := M) (route.completeShardHandoff_handoff) changes.1 s.shards
    have hcache := refreshCache_shards (M := M) snapshot (s.shards.put changes.1 .transferring)
    have hgained := fun v => askRouteEach_shards (M := M) (route.acquireShard_handoff) changes.2 v
    have hshards := (hlost.bind (fun _ => hcache.bind (fun _ => (hgained _).bind
      (fun _ => flush_shards route _)))) s () t rfl h
    refine ⟨congrArg OwnershipView.config hshards,
      congrArg (fun v => v.ownerCache.owners) hshards, fun shardId hk => ?_⟩
    have hroute : t.route.handoff shardId = _ := congrArg (fun v => v.route shardId) hshards
    have hview : s.shards.route shardId = s.route.handoff shardId := rfl
    rw [hroute]
    by_cases hwas : s.region.ownerCache.owners[shardId]? = some route.localNodeId <;>
      by_cases his : (snapshotOwners snapshot)[shardId]? = some route.localNodeId <;>
      simp [OwnershipView.put, changes, localOwnershipChanges, hk, hwas, his, hview]

end RegionState

end Rakka.Sharding
