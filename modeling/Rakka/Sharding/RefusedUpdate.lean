import Rakka.Sharding.RuntimeSteps

/-! Coordinators after a membership update that was refused. The lease is asked before the
coordinator is reconciled, so its refusal leaves every coordinator at the snapshot last persisted
and published, and a later reconciliation makes up for it. The store is asked afterwards, and its
refusal leaves a coordinator ahead of it. -/

namespace Rakka.Sharding
open Cluster Foundation BTreeMap

namespace ClusterShardingRuntime
variable {ρ ω : Type}
variable {rt rt' : ClusterShardingRuntime ρ}

/-- Every registered coordinator is at the snapshot last persisted and published. -/
def InSync (rt : ClusterShardingRuntime ρ) : Prop :=
  ∀ (e : EntityType) (c : ShardCoordinator), rt.coordinators[e]? = some c →
    rt.lastPersisted[e]? = some c.snapshot ∧ rt.lastPublished[e]? = some c.snapshot

lemma InSync.congr (h : rt.InSync) (hcoordinators : rt'.coordinators = rt.coordinators)
    (hpersisted : rt'.lastPersisted = rt.lastPersisted)
    (hpublished : rt'.lastPublished = rt.lastPublished) : rt'.InSync := by
  intro e c hc
  rw [hpersisted, hpublished]
  exact h e c (hcoordinators ▸ hc)

theorem InSync.set (h : rt.InSync) {d : ShardCoordinator}
    (hcoordinators : rt'.coordinators = rt.coordinators.insert d.entityType d)
    (hpersisted : rt'.lastPersisted = rt.lastPersisted.insert d.entityType d.snapshot)
    (hpublished : rt'.lastPublished = rt.lastPublished.insert d.entityType d.snapshot) :
    rt'.InSync := by
  intro e c hc
  rw [hcoordinators, lookup_insert] at hc
  rw [hpersisted, hpublished, lookup_insert, lookup_insert]
  split_ifs at hc ⊢
  · rw [Option.some.inj hc]
    exact ⟨rfl, rfl⟩
  · exact h e c hc

section Refusal
variable (region : RegisteredShardRegion ρ) (env : CoordinatorEnv ω) (api : Api)
variable {α : Type} {s : ClusterShardingRuntime ρ × ω}
  {c : ShardCoordinator} {x : RuntimeCall ρ ω α} {w : ω} {r : ρ}

lemma anyEnv_frame (lease : LeaseEnv ω) : LeaseFrame (fun _ _ => True) lease where
  refl _ := trivial
  trans _ _ := trivial
  acquire _ _ _ := trivial
  renew _ _ := trivial
  release _ _ := trivial
  clock _ := trivial

/-- A success or a failure of the lease leaves the coordinators in sync, a refusal of the store does
not. -/
def SyncOutcome {α : Type} (out : Except Failure α × (ClusterShardingRuntime ρ × ω)) : Prop :=
  match out.1 with
  | .ok _ => out.2.1.InSync
  | .error f => (f.origin = .store → ¬ out.2.1.InSync) ∧
      (f.origin ≠ .store → f.origin ≠ .region → out.2.1.InSync)

lemma SyncOutcome.bind {β : Type} {f : α → RuntimeCall ρ ω β} (hx : SyncOutcome (x s))
    (hf : ∀ a t, t.1.InSync → SyncOutcome (f a t)) : SyncOutcome ((x >>= f) s) := by
  rcases Attempt.bind_cases x f s with ⟨failure, t, hxs, hs⟩ | ⟨a, t, hxs, hs⟩
  · rw [hs]
    rwa [hxs] at hx
  · rw [hs]
    rw [hxs] at hx
    exact hf a t hx

lemma reconciled_inSync (h : rt.InSync) (tokens : BTreeMap EntityType LeaseToken) {e : EntityType}
    (hc : rt.coordinators[e]? = some c) :
    (rt.reconciled tokens c).InSync ↔ (c.reconcile rt.membership).1.isEmpty = true := by
  have hkey := rt.keyed e c hc
  constructor
  · intro hsync
    by_contra hplan
    rw [Bool.not_eq_true] at hplan
    have hnew : (rt.reconciled tokens c).coordinators[e]? =
        some (c.reconcile rt.membership).2 := by
      simp only [reconciled, setCoordinator]
      rw [lookup_insert, if_pos (show e = (c.reconcile rt.membership).2.entityType from
        hkey.symm)]
    have hsame := (h e c hc).1.symm.trans (hsync e _ hnew).1
    have hrev : c.revision = (c.reconcile rt.membership).2.revision :=
      congrArg ShardOwnershipSnapshot.revision (Option.some.inj hsame)
    rw [ShardCoordinator.reconcile_revision hplan] at hrev
    omega
  · intro hplan
    refine h.congr ?_ rfl rfl
    rw [reconciled, ShardCoordinator.reconcile_of_isEmpty hplan]
    exact insert_of_lookup (hkey ▸ hc)

lemma reconcileEntity_syncOutcome (e : EntityType) (h : rt.InSync) (w : ω) :
    SyncOutcome (reconcileEntity region env api e (rt, w)) := by
  have hstep := reconcileEntity_step region env api (anyEnv_frame env.toLeaseEnv) e rt w
  generalize reconcileEntity region env api e (rt, w) = out at hstep
  cases hstep with
  | refusedLease f tokens w₁ hw hf =>
    refine ⟨fun hstore => ?_, fun _ _ => h.congr rfl rfl rfl⟩
    rcases hf with hf | hf <;> cases hf.symm.trans hstore
  | unregistered => exact h.congr rfl rfl rfl
  | unchanged c tokens w₁ hw hc hplan => exact (reconciled_inSync h tokens hc).mpr hplan
  | refusedWrite c tokens w₁ w₂ token f hw hc hplan hpersist hf =>
    refine ⟨fun _ hsync => ?_, fun hstore => absurd hf hstore⟩
    rw [(reconciled_inSync h tokens hc).mp hsync] at hplan
    cases hplan
  | refusedRegion c tokens w₁ w₂ token f rs hw hc hplan hpersist hf =>
    refine ⟨fun hstore => ?_, fun _ hregion => absurd hf hregion⟩
    cases hf.symm.trans hstore
  | published c tokens w₁ w₂ token handoffs rs hw hc =>
    obtain rfl := rt.keyed e c hc
    exact h.set (d := (c.reconcile rt.membership).2) rfl rfl rfl

lemma reconcileEntities_syncOutcome (es : List EntityType) (h : rt.InSync) (w : ω) :
    SyncOutcome (reconcileEntities region env api es (rt, w)) := by
  induction es generalizing rt w with
  | nil => exact h
  | cons e es ih =>
    refine .bind (reconcileEntity_syncOutcome region env api e h w) (fun found t ht => ?_)
    exact .bind (ih ht t.2) (fun more t' ht' => ht')

lemma reconcileAndPublish_apply (events : List MembershipEvent) (rt : ClusterShardingRuntime ρ)
    (w : ω) : reconcileAndPublish region env api events (rt, w) =
      (reconcileEntities region env api rt.coordinators.keys >>= fun found =>
        pure ⟨events, found.1, found.2⟩) (rt, w) := rfl

lemma reconcileAndPublish_syncOutcome (events : List MembershipEvent) (h : rt.InSync) (w : ω) :
    SyncOutcome (reconcileAndPublish region env api events (rt, w)) := by
  rw [reconcileAndPublish_apply]
  exact .bind (reconcileEntities_syncOutcome region env api _ h w) (fun _ _ ht => ht)

theorem syncOutcome_of_same (h : s.1.InSync) (hfails : ∀ f, (x s).1 = .error f → f.origin ≠ .store)
    (hcoordinators : (x s).2.1.coordinators = s.1.coordinators)
    (hpersisted : (x s).2.1.lastPersisted = s.1.lastPersisted)
    (hpublished : (x s).2.1.lastPublished = s.1.lastPublished) : SyncOutcome (x s) := by
  have hsync := h.congr hcoordinators hpersisted hpublished
  unfold SyncOutcome
  split
  · exact hsync
  next f hf => exact ⟨fun hstore => absurd hstore (hfails f hf), fun _ _ => hsync⟩

lemma beginUpdate_failsWith (u : MembershipUpdate) :
    Attempt.FailsWith (fun f => f.origin ≠ .store) (beginUpdate (ρ := ρ) env api u) := by
  refine .bind ?_ (fun _ s f hf => ?_)
  · cases api with
    | sync =>
      intro s f hf
      rcases ensureSyncApi_failsWith env s f hf with ho | ho <;> simp [ho]
    | async => exact Attempt.failsWith_pure _ _
  · unfold applyMembershipUpdate at hf
    split at hf
    · cases hf
      simp
    · cases hf

lemma update_syncOutcome (u : MembershipUpdate) (h : rt.InSync) (w : ω) :
    SyncOutcome (update region env api u (rt, w)) := by
  obtain ⟨m, hm⟩ := beginUpdate_keeps env api u (rt, w)
  refine .bind ?_ (fun events t ht => reconcileAndPublish_syncOutcome region env api events ht t.2)
  refine syncOutcome_of_same h (beginUpdate_failsWith env api u (rt, w)) ?_ ?_ ?_
  · rw [hm]
  · rw [hm]
  · rw [hm]

def Unrefused {α : Type} (answer : Except Failure α) : Prop :=
  ∀ f, answer = .error f → f.origin ≠ .store ∧ f.origin ≠ .region

lemma SyncOutcome.inSync {out : Except Failure α × (ClusterShardingRuntime ρ × ω)}
    (h : SyncOutcome out) (hout : Unrefused out.1) : out.2.1.InSync := by
  unfold SyncOutcome at h
  split at h
  · exact h
  next f hf => exact h.2 (hout f hf).1 (hout f hf).2

lemma attachRegion_inSync (r : ρ)
    (hpersisted : ∀ (e : EntityType) (c : ShardCoordinator), rt.coordinators[e]? = some c →
      rt.lastPersisted[e]? = some c.snapshot)
    (hpublished : ∀ (e : EntityType) (c : ShardCoordinator), rt.coordinators[e]? = some c →
      e ≠ region.entityType r → rt.lastPublished[e]? = some c.snapshot)
    (hout : Unrefused (attachRegion region r (rt, w)).1) :
    (attachRegion region r (rt, w)).2.1.InSync := by
  rcases attachRegion_spec region r (rt, w) with ⟨f, hf, h⟩ | ⟨hnone, h⟩ | ⟨rs, d, hd, h⟩
  · exact absurd hf (hout f (by rw [h])).2
  · rw [h]
    intro e c hc
    refine ⟨hpersisted e c hc, hpublished e c hc ?_⟩
    rintro rfl
    cases hnone.symm.trans hc
  · rw [h]
    intro e c hc
    refine ⟨hpersisted e c hc, ?_⟩
    simp only
    rw [lookup_insert]
    split_ifs with he
    · subst he
      rw [Option.some.inj (hd.symm.trans hc)]
    · exact hpublished e c hc he

lemma TokensOnly.inSync {P : ω → ω → Prop} {t : ClusterShardingRuntime ρ × ω}
    (h : TokensOnly P s t) (hs : s.1.InSync) : t.1.InSync := by
  obtain ⟨tokens, w, _, rfl⟩ := h
  exact hs.congr rfl rfl rfl

lemma initialCoordinator_entityType {loaded : Option PersistedShardCoordinatorState}
    (hc : initialCoordinator region r loaded = .ok c) : c.entityType = region.entityType r := by
  cases loaded with
  | none =>
    cases hc
    rfl
  | some => exact ShardCoordinator.fromSnapshot_entityType hc

lemma attachInstalled_inSync (h : rt.InSync) (hc : c.entityType = region.entityType r)
    (hout : Unrefused (attachRegion region r (rt.installed c, w)).1) :
    (attachRegion region r (rt.installed c, w)).2.1.InSync := by
  have hcoordinators : (rt.installed c).coordinators =
    rt.coordinators.insert c.entityType (c.reconcile rt.membership).2 := rfl
  refine attachRegion_inSync region r (fun e d hd => ?_) (fun e d hd he => ?_) hout
  · rw [hcoordinators, lookup_insert] at hd
    simp only [installed]
    rw [lookup_insert]
    split_ifs at hd ⊢
    · rw [Option.some.inj hd]
    · exact (h e d hd).1
  · rw [hcoordinators, lookup_insert, if_neg (hc ▸ he)] at hd
    exact (h e d hd).2

lemma registerRegion_inSync (r : ρ) (h : rt.InSync) (w : ω)
    (hout : Unrefused (registerRegion region env api r (rt, w)).1) :
    (registerRegion region env api r (rt, w)).2.1.InSync := by
  have hkeeps := beginRegistration_keeps region env api (anyEnv_frame env.toLeaseEnv)
    (fun _ _ => trivial) r (rt, w)
  unfold registerRegion at hout ⊢
  rw [Attempt.bind_apply] at hout ⊢
  generalize beginRegistration region env api r (rt, w) = begun at hkeeps hout ⊢
  rcases begun with ⟨f | _ | ⟨token, loaded⟩, rt₁, w₁⟩
  · exact hkeeps.inSync h
  · have h₁ : rt₁.InSync := hkeeps.inSync h
    exact attachRegion_inSync region r (fun e c hc => (h₁ e c hc).1)
      (fun e c hc _ => (h₁ e c hc).2) hout
  · have h₁ : rt₁.InSync := hkeeps.inSync h
    have hstep := installCoordinator_step region env api r token loaded rt₁ w₁
    simp only [Attempt.bind_apply] at hout ⊢
    generalize installCoordinator region env api r token loaded (rt₁, w₁) = out at hstep hout ⊢
    cases hstep with
    | invalid => exact h₁
    | unchanged c hc =>
      exact attachInstalled_inSync region h₁ (initialCoordinator_entityType region hc) hout
    | refused => exact h₁
    | written c w₂ hc =>
      exact attachInstalled_inSync region h₁ (initialCoordinator_entityType region hc) hout

end Refusal

/-- Store, lease and regions grant every request. -/
structure Accepting (region : RegisteredShardRegion ρ) (env : CoordinatorEnv ω) : Prop where
  write : ∀ e expectedRevision state token w x,
    (env.compareAndSetWithLease e expectedRevision state token w).1 ≠ .error x
  lease : LeaseFails env.toLeaseEnv (fun _ => False)
  region : RegionFails region (fun _ => False)

variable (rt)

/-- The form of the call suits the store and the lease of the runtime. -/
def Supports : Api → Prop
  | .sync => rt.coordinatorLease = .none ∧ rt.coordinatorStore ≠ .async
  | .async => True

def persistedCoordinator (e : EntityType) :
    Option ShardCoordinator :=
  match rt.coordinators[e]?, rt.lastPersisted[e]? with
  | some c, some snapshot => (ShardCoordinator.fromSnapshotWithAllocationStrategyRef e c.config
      snapshot c.allocationStrategy).toOption
  | _, _ => none

/-- The ownership changes that wait to be persisted, in the order of the entity types. -/
def pendingRebalances (es : List EntityType) :
    List EntityShardRebalance :=
  es.filterMap (fun e =>
    match rt.persistedCoordinator e with
    | none => none
    | some c =>
      let plan := (c.reconcile rt.membership).1
      if plan.isEmpty then none else some ⟨e, plan⟩)

variable {rt}

/-- A reconciliation that everything accepts reports, persists and publishes the pending changes. -/
def RetryCompletes (region : RegisteredShardRegion ρ) (rt : ClusterShardingRuntime ρ) : Prop :=
  ∀ (ω : Type) (env : CoordinatorEnv ω) (api : Api) (w : ω), Accepting region env →
    rt.Supports api → ∃ handoffs rt' w',
      reconcileAndPublish region env api [] (rt, w) =
        (.ok ⟨[], handoffs, rt.pendingRebalances rt.coordinators.keys⟩, (rt', w')) ∧
      ∀ e c, rt.persistedCoordinator e = some c →
        rt'.lastPersisted[e]? = some (c.reconcile rt.membership).2.snapshot ∧
        rt'.lastPublished[e]? = some (c.reconcile rt.membership).2.snapshot

section Retry
variable (region : RegisteredShardRegion ρ) (env : CoordinatorEnv ω) (api : Api)

lemma InSync.persistedCoordinator_eq (h : rt.InSync) (e : EntityType) :
    rt.persistedCoordinator e = rt.coordinators[e]? := by
  unfold persistedCoordinator
  cases hc : rt.coordinators[e]? with
  | none => rfl
  | some c =>
    obtain rfl := rt.keyed e c hc
    rw [(h c.entityType c hc).1]
    simp only [ShardCoordinator.fromSnapshot_self]
    rfl

variable {region env} (hacc : Accepting region env)
include hacc

lemma leadership_accepted (hapi : rt.Supports api) (e : EntityType) (w : ω) (f : Failure) :
    (ensureCoordinatorLeadership env e api (rt, w)).1 ≠ .error f := by
  cases api with
  | sync =>
    simp only [ensureCoordinatorLeadership, Attempt.bind_apply, ensureSyncApi, hapi.1]
    exact fun h => by cases h
  | async => exact ensureCoordinatorLeadershipAsync_failsWith hacc.lease e (rt, w) f

lemma persist_accepted (hapi : rt.Supports api) (rt₀ : ClusterShardingRuntime ρ)
    (token : Option LeaseToken) (c : ShardCoordinator) (w : ω) (f : Failure) :
    (persistReconciled env api rt₀ token c (rt, w)).1 ≠ .error f := by
  have hwrite (expected : ℕ) (state : PersistedShardCoordinatorState) (w : ω) :
      (((do
        let _ ← request .store (env.compareAndSetWithLease
          (c.reconcile rt₀.membership).2.snapshot.entityType expected state token)
        return ()) : RuntimeCall ρ ω Unit) (rt, w)).1 ≠ .error f :=
    Attempt.FailsWith.bind (request_failsWith .store (F := fun _ => False)
      (fun w x hx => hacc.write _ _ _ _ w x hx)) (fun _ => Attempt.failsWith_pure _ _) (rt, w) f
  unfold persistReconciled persistCoordinatorSnapshot
  simp only [Attempt.bind_apply, currentTimestampMillis, Attempt.get]
  cases hm : rt.coordinatorStore with
  | none => exact fun h => by cases h
  | sync => exact hwrite _ _ _
  | async =>
    cases api with
    | sync => exact absurd hm hapi.2
    | async => exact hwrite _ _ _

lemma reconcileEntity_accepted (e : EntityType) (hapi : rt.Supports api) (w : ω) (f : Failure) :
    (reconcileEntity region env api e (rt, w)).1 ≠ .error f := by
  have hkeeps := ensureCoordinatorLeadership_keeps (ρ := ρ) (anyEnv_frame env.toLeaseEnv) e api
    (rt, w)
  unfold reconcileEntity
  rcases Attempt.bind_cases (ensureCoordinatorLeadership env e api) _ (rt, w) with
    ⟨f', t, ht, hr⟩ | ⟨token, t, ht, hr⟩
  · exact absurd (by rw [ht]) (leadership_accepted api hacc hapi e w f')
  · rw [ht] at hkeeps
    obtain ⟨tokens, w₁, -, rfl⟩ := hkeeps
    refine hr.symm ▸ ?_
    simp only [Attempt.get_bind]
    cases hc : rt.coordinators[e]? with
    | none => exact fun h => by cases h
    | some c =>
      simp only [modifyRuntime, Attempt.modify_bind]
      split_ifs
      · exact fun h => by cases h
      · change ((persistReconciled env api rt token c >>= fun _ => _)
          (rt.reconciled tokens c, w₁)).1 ≠ _
        rcases persistReconciled_cases env api rt token c (rt.reconciled tokens c, w₁) with
          ⟨f', w₂, -, hp⟩ | ⟨w₂, hp⟩
        · have hapi' : (rt.reconciled tokens c).Supports api := by
            cases api <;> exact hapi
          exact absurd (by rw [hp]) (persist_accepted api hacc hapi' rt token c w₁ f')
        · rw [Attempt.bind_of_ok hp]
          exact publishPlan_failsWith hacc.region e _ _ _ f

/-- What a granted reconciliation of the entity types `es` does to the runtime. -/
structure Reconciles (rt : ClusterShardingRuntime ρ) (es : List EntityType)
    (rt' : ClusterShardingRuntime ρ) : Prop where
  membership : rt'.membership = rt.membership
  lease : rt'.coordinatorLease = rt.coordinatorLease
  store : rt'.coordinatorStore = rt.coordinatorStore
  inSync : rt'.InSync
  coordinators : ∀ e : EntityType, rt'.coordinators[e]? =
    if e ∈ es then rt.coordinators[e]?.map (fun c => (c.reconcile rt.membership).2)
    else rt.coordinators[e]?

lemma reconcileEntity_reconciles (e : EntityType) (hapi : rt.Supports api) (hsync : rt.InSync)
    (w : ω) : ∃ handoffs rt' w', reconcileEntity region env api e (rt, w) =
      (.ok (handoffs, rt.pendingRebalances [e]), (rt', w')) ∧ Reconciles rt [e] rt' := by
  have hok := reconcileEntity_accepted api hacc e hapi w
  have hsynced := reconcileEntity_syncOutcome region env api e hsync w
  have hstep := reconcileEntity_step region env api (anyEnv_frame env.toLeaseEnv) e rt w
  have hpending (c : ShardCoordinator) (hc : rt.coordinators[e]? = some c) :
      rt.pendingRebalances [e] = if (c.reconcile rt.membership).1.isEmpty then []
        else [⟨e, (c.reconcile rt.membership).1⟩] := by
    simp only [pendingRebalances, hsync.persistedCoordinator_eq, List.filterMap_cons, hc]
    split_ifs <;> rfl
  have hlookup (c : ShardCoordinator) (hc : rt.coordinators[e]? = some c) (e' : EntityType) :
      (rt.coordinators.insert c.entityType (c.reconcile rt.membership).2)[e']? =
        if e' ∈ [e] then rt.coordinators[e']?.map (fun c => (c.reconcile rt.membership).2)
        else rt.coordinators[e']? := by
    rw [lookup_insert, rt.keyed e c hc]
    simp only [List.mem_singleton]
    split_ifs with he
    · rw [he, hc]
      rfl
    · rfl
  generalize reconcileEntity region env api e (rt, w) = out at hok hsynced hstep
  cases hstep with
  | refusedLease f => exact absurd rfl (hok f)
  | unregistered tokens w₁ hw hc =>
    have hnone : rt.pendingRebalances [e] = [] := by
      simp [pendingRebalances, hsync.persistedCoordinator_eq, hc]
    refine ⟨[], { rt with leaseTokens := tokens }, w₁, by rw [hnone], rfl, rfl, rfl, hsynced, ?_⟩
    intro e'
    split_ifs with he
    · rw [List.mem_singleton.mp he]
      simp only [hc, Option.map_none]
    · rfl
  | unchanged c tokens w₁ hw hc hplan =>
    exact ⟨[], rt.reconciled tokens c, w₁, by rw [hpending c hc, if_pos hplan], rfl, rfl, rfl,
      hsynced, hlookup c hc⟩
  | refusedWrite c tokens w₁ w₂ token f hw hc hplan hpersist hf
  | refusedRegion c tokens w₁ w₂ token f => exact absurd rfl (hok f)
  | published c tokens w₁ w₂ token handoffs rs hw hc hplan =>
    have hone : rt.pendingRebalances [e] = [⟨e, (c.reconcile rt.membership).1⟩] := by
      rw [hpending c hc, if_neg (by rw [hplan]; exact Bool.false_ne_true)]
    refine ⟨handoffs, _, w₂, by rw [hone], ?_⟩
    exact ⟨rfl, rfl, rfl, hsynced, hlookup c hc⟩

omit hacc in
lemma Reconciles.pending {es : List EntityType}
    (h : Reconciles rt es rt') (hsync : rt.InSync) {es' : List EntityType} (hes : ∀ e ∈ es', e ∉ es)
    : rt'.pendingRebalances es' = rt.pendingRebalances es' := by
  refine List.filterMap_congr (fun e he => ?_)
  rw [h.inSync.persistedCoordinator_eq, hsync.persistedCoordinator_eq, h.coordinators,
    if_neg (hes e he), h.membership]

lemma reconcileEntities_reconciles (es : List EntityType) (hes : es.Nodup)
    (hapi : rt.Supports api) (hsync : rt.InSync) (w : ω) :
    ∃ handoffs rt' w', reconcileEntities region env api es (rt, w) =
      (.ok (handoffs, rt.pendingRebalances es), (rt', w')) ∧ Reconciles rt es rt' := by
  induction es generalizing rt w with
  | nil => exact ⟨[], rt, w, rfl, rfl, rfl, rfl, hsync, fun e => rfl⟩
  | cons e es ih =>
    obtain ⟨hnotMem, hnodup⟩ := List.nodup_cons.mp hes
    obtain ⟨handoffs, rt₁, w₁, hfirst, h₁⟩ := reconcileEntity_reconciles api hacc e hapi hsync w
    have hapi₁ : rt₁.Supports api := by
      cases api
      · exact ⟨h₁.lease.trans hapi.1, h₁.store ▸ hapi.2⟩
      · trivial
    obtain ⟨more, rt₂, w₂, hrest, h₂⟩ := ih hnodup hapi₁ h₁.inSync w₁
    have hpending : rt₁.pendingRebalances es = rt.pendingRebalances es := by
      refine h₁.pending hsync (fun e' he' hmem => ?_)
      exact hnotMem (List.mem_singleton.mp hmem ▸ he')
    have happend : rt.pendingRebalances (e :: es) =
        rt.pendingRebalances [e] ++ rt.pendingRebalances es := List.filterMap_append (l := [e])
    refine ⟨handoffs ++ more, rt₂, w₂, ?_, h₂.membership.trans h₁.membership,
      h₂.lease.trans h₁.lease, h₂.store.trans h₁.store, h₂.inSync, fun e' => ?_⟩
    · rw [reconcileEntities, Attempt.bind_of_ok hfirst]
      simp only
      rw [Attempt.bind_of_ok hrest, happend, hpending]
      rfl
    · rw [h₂.coordinators, h₁.coordinators, h₁.membership]
      by_cases hmem : e' ∈ es
      · have hne : e' ≠ e := fun he => hnotMem (he ▸ hmem)
        simp [hmem, hne]
      · simp [hmem]

theorem reconcileAndPublish_reconciles (hapi : rt.Supports api) (hsync : rt.InSync) (w : ω) :
    ∃ handoffs rt' w', reconcileAndPublish region env api [] (rt, w) =
        (.ok ⟨[], handoffs, rt.pendingRebalances rt.coordinators.keys⟩, (rt', w')) ∧
      ∀ e c, rt.persistedCoordinator e = some c →
        rt'.lastPersisted[e]? = some (c.reconcile rt.membership).2.snapshot ∧
        rt'.lastPublished[e]? = some (c.reconcile rt.membership).2.snapshot := by
  have hnodup : rt.coordinators.keys.Nodup := by
    rw [← Std.ExtTreeMap.map_fst_toList_eq_keys]
    exact toList_keys_nodup rt.coordinators
  obtain ⟨handoffs, rt', w', hout, h⟩ :=
    reconcileEntities_reconciles api hacc _ hnodup hapi hsync w
  refine ⟨handoffs, rt', w', ?_, fun e c hc => ?_⟩
  · rw [reconcileAndPublish_apply, Attempt.bind_of_ok hout]
    rfl
  · rw [hsync.persistedCoordinator_eq] at hc
    have hmem : e ∈ rt.coordinators.keys := by
      rw [Std.ExtTreeMap.mem_keys, Std.ExtTreeMap.mem_iff_isSome_getElem?, hc]
      rfl
    refine h.inSync e (c.reconcile rt.membership).2 ?_
    rw [h.coordinators, if_pos hmem, hc]
    rfl

end Retry

lemma InSync.retryCompletes (region : RegisteredShardRegion ρ) (h : rt.InSync) :
    rt.RetryCompletes region :=
  fun _ _ api w hacc hapi => reconcileAndPublish_reconciles api hacc hapi h w

end ClusterShardingRuntime

inductive RuntimeOp (ρ : Type) where
  | register (api : Api) (r : ρ)
  | update (api : Api) (u : MembershipUpdate)
  | renewLeases
  | releaseLeases

namespace RuntimeOp
open ClusterShardingRuntime
variable {ρ ω : Type} (region : RegisteredShardRegion ρ) (env : CoordinatorEnv ω)

def call : RuntimeOp ρ → RuntimeCall ρ ω Unit
  | register api r => registerRegion region env api r
  | update api u => do
    let _ ← ClusterShardingRuntime.update region env api u
    return ()
  | renewLeases => renewCoordinatorLeases env
  | releaseLeases => releaseCoordinatorLeases env

def step (s : ClusterShardingRuntime ρ × ω) (op : RuntimeOp ρ) :
    Option (ClusterShardingRuntime ρ × ω) :=
  some (op.call region env s).2

def Granted (s : ClusterShardingRuntime ρ × ω) (op : RuntimeOp ρ) : Prop :=
  Unrefused (op.call region env s).1

lemma call_inSync {s : ClusterShardingRuntime ρ × ω} (h : s.1.InSync) (op : RuntimeOp ρ)
    (hop : Granted region env s op) : (op.call region env s).2.1.InSync := by
  cases op with
  | register api r => exact registerRegion_inSync region env api r h s.2 hop
  | update api u =>
    have hsynced : SyncOutcome ((RuntimeOp.update api u).call region env s) :=
      .bind (update_syncOutcome region env api u h s.2) (fun _ _ ht => ht)
    exact hsynced.inSync hop
  | renewLeases =>
    exact (renewCoordinatorLeases_keeps env (anyEnv_frame env.toLeaseEnv) s).inSync h
  | releaseLeases =>
    exact (releaseCoordinatorLeases_keeps env (anyEnv_frame env.toLeaseEnv) s).inSync h

/-- After a run in which neither store nor region refused, an update that fails in the
store or the lease leaves the coordinators at what was persisted and published, ready to be
retried, exactly when the lease refused. -/
theorem refusedUpdate_recoverable_iff (membership : ClusterMembership)
    (store : CoordinatorStoreMode) (lease : CoordinatorLeaseMode) (w : ω)
    (ops : List (RuntimeOp ρ)) (s : ClusterShardingRuntime ρ × ω)
    (hrun : runFrom (step region env) (.new membership store lease, w) ops = some s)
    (hgranted : StepsMeet (step region env) (Granted region env) (.new membership store lease, w)
      ops) (api : Api) (u : MembershipUpdate) (f : Failure) (s' : ClusterShardingRuntime ρ × ω)
    (hfail : ClusterShardingRuntime.update region env api u s = (.error f, s'))
    (hf : f.origin = .store ∨ f.origin = .lease) :
    (s'.1.InSync ∧ s'.1.RetryCompletes region) ↔ f.origin = .lease := by
  have hinv : ∀ t op t', t.1.InSync → Granted region env t op →
      step region env t op = some t' → t'.1.InSync := by
    intro t op t' ht hop hstep
    rw [← Option.some.inj hstep]
    exact call_inSync region env ht op hop
  have hsync : s.1.InSync :=
    runFrom_invariant_of_meets _ hinv (fun e c hc => by simp [ClusterShardingRuntime.new] at hc) hgranted hrun
  have hout : SyncOutcome (ClusterShardingRuntime.update region env api u s) :=
    update_syncOutcome region env api u hsync s.2
  rw [hfail] at hout
  constructor
  · rintro ⟨hs', -⟩
    exact hf.resolve_left (fun hstore => hout.1 hstore hs')
  · intro hlease
    have hs' : s'.1.InSync := hout.2 (by simp [hlease]) (by simp [hlease])
    exact ⟨hs', hs'.retryCompletes region⟩

/-- A store and a lease that grant and count requests while their counter is below `limit`. -/
def countingEnv (limit : ℕ) : CoordinatorEnv ℕ where
  leaseName := "counting"
  acquire e n w :=
    if w < limit then (.ok ⟨"counting", e, n, 1, 100⟩, w + 1)
    else (.error (.coordinatorLease "counting" "unavailable"), w)
  renew _ w :=
    if w < limit then (.ok (), w) else (.error (.coordinatorLease "counting" "unavailable"), w)
  release _ w := (.ok (), w)
  currentTimestampMillis w := (0, w)
  storeBackend := "counting"
  load _ w := (.ok none, w)
  compareAndSetWithLease _ _ state _ w :=
    if w < limit then (.ok state, w + 1)
    else (.error (.coordinatorStore "counting" "unavailable"), w)

def leased : ClusterShardingRuntime Unit × ℕ :=
  ((register .async ()).call cartRegion (countingEnv 2) (.new pairMembership .async .async, 0)).2

theorem refusedUpdate_recoverable_leased :
    let out := ClusterShardingRuntime.update cartRegion (countingEnv 2) .async
      (.markDown nodeB.id 2) leased
    out.2.1.InSync ∧ out.2.1.RetryCompletes cartRegion := by
  have hcall : ((register .async ()).call cartRegion (countingEnv 2)
      (.new pairMembership .async .async, 0)).1 = .ok () := by decide +kernel
  have hfail : (ClusterShardingRuntime.update cartRegion (countingEnv 2) .async
      (.markDown nodeB.id 2) leased).1 =
        .error ⟨.lease, .sharding (.coordinatorLease "counting" "unavailable")⟩ := by
    decide +kernel
  refine (refusedUpdate_recoverable_iff cartRegion (countingEnv 2) pairMembership .async .async 0
    [register .async ()] leased rfl ⟨fun f hf => ?_, fun _ _ => trivial⟩ .async
    (.markDown nodeB.id 2) _ _ (Prod.ext hfail rfl) (.inr rfl)).mpr rfl
  cases hcall.symm.trans hf

/-- A runtime without a lease whose store refuses everything after the registration. -/
def stored : ClusterShardingRuntime Unit × ℕ :=
  ((register .sync ()).call cartRegion (countingEnv 1) (.new pairMembership .sync .none, 0)).2

def refused : Except Failure ClusterShardingUpdate × (ClusterShardingRuntime Unit × ℕ) :=
  ClusterShardingRuntime.update cartRegion (countingEnv 1) .sync (.markDown nodeB.id 2) stored

/-- The coordinator is one revision ahead of what was persisted, and a later reconciliation finds
nothing to do. -/
theorem store_refusal_loses_change :
    refused.1 = .error ⟨.store, .sharding (.coordinatorStore "counting" "unavailable")⟩ ∧
    ¬ refused.2.1.InSync ∧ refused.2.1.pendingRebalances refused.2.1.coordinators.keys ≠ [] ∧
    (reconcileAndPublish cartRegion (countingEnv 10) .sync [] refused.2).1 = .ok ⟨[], [], []⟩ := by
  have hahead : (refused.2.1.coordinators[(⟨"cart"⟩ : EntityType)]?).map (·.snapshot.revision) ≠
      (refused.2.1.lastPersisted[(⟨"cart"⟩ : EntityType)]?).map (·.revision) := by decide +kernel
  refine ⟨by decide +kernel, fun hsync => ?_, by decide +kernel, by decide +kernel⟩
  cases hc : refused.2.1.coordinators[(⟨"cart"⟩ : EntityType)]? with
  | none => exact absurd hc (by decide +kernel)
  | some c =>
    rw [hc, (hsync _ c hc).1] at hahead
    exact hahead rfl

end RuntimeOp
end Rakka.Sharding
