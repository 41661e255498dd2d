import Rakka.Sharding.PlanDiff
import Rakka.Sharding.Runtime

/-! What one iteration of the reconciliation loop can do. The lease only touches the
lease tokens, and everything after an accepted write only touches the regions and the
record of what was published. -/

namespace Rakka.Sharding
open Cluster Foundation

namespace ClusterShardingRuntime
variable {ρ ω : Type}
variable {visit : ρ → Except ShardingError ℕ × ρ}

def RegionsOnly (s t : ClusterShardingRuntime ρ × ω) : Prop :=
  ∃ rs, t = ({ s.1 with regions := rs }, s.2)

lemma RegionsOnly.refl (s : ClusterShardingRuntime ρ × ω) : RegionsOnly s s := ⟨s.1.regions, rfl⟩

lemma RegionsOnly.trans (s t u : ClusterShardingRuntime ρ × ω) (h : RegionsOnly s t)
    (h' : RegionsOnly t u) : RegionsOnly s u := by
  obtain ⟨rs, rfl⟩ := h
  obtain ⟨rs', rfl⟩ := h'
  exact ⟨rs', rfl⟩

def FromRegion (f : Failure) : Prop := f.origin = .region

lemma visitRegions_error (rs : List ρ) {x : ShardingError}
    (h : (visitRegions visit rs).1 = .error x) : ∃ r, (visit r).1 = .error x := by
  induction rs with
  | nil => cases h
  | cons r rs ih =>
    rcases hv : visit r with ⟨x' | n, r'⟩
    · simp only [visitRegions, hv] at h
      exact ⟨r, by rw [hv]; exact h⟩
    · simp only [visitRegions, hv] at h
      cases hrest : (visitRegions visit rs).1 with
      | error x' =>
        rw [hrest] at h
        cases h
        exact ih hrest
      | ok m =>
        rw [hrest] at h
        cases h

lemma visitEntityRegions_keeps (entityType : EntityType) (visit : ρ → Except ShardingError ℕ × ρ) :
    Attempt.Keeps RegionsOnly (visitEntityRegions (ω := ω) entityType visit) := by
  intro s
  unfold visitEntityRegions
  split
  · exact .refl s
  · exact ⟨_, rfl⟩

lemma visitEntityRegions_failsWith {F : Failure → Prop} (entityType : EntityType)
    (hvisit : ∀ r x, (visit r).1 = .error x → F ⟨.region, .sharding x⟩) :
    Attempt.FailsWith F (visitEntityRegions (ω := ω) entityType visit) := by
  intro s f hf
  unfold visitEntityRegions at hf
  split at hf
  · cases hf
  next rs _ =>
    simp only at hf
    cases h : (visitRegions visit rs).1 with
    | error x =>
      rw [h] at hf
      cases hf
      obtain ⟨r, hr⟩ := visitRegions_error rs h
      exact hvisit r x hr
    | ok n =>
      rw [h] at hf
      cases hf

section Publish
variable (region : RegisteredShardRegion ρ)
variable {F : Failure → Prop}

structure RegionFails (F : Failure → Prop) : Prop where
  refresh : ∀ snapshot r x, (region.refreshOwnership snapshot r).1 = .error x →
    F ⟨.region, .sharding x⟩
  beginHandoff : ∀ shardId r x, (region.beginShardHandoff shardId r).1 = .error x →
    F ⟨.region, .sharding x⟩
  completeHandoff : ∀ shardId r x, (region.completeShardHandoff shardId r).1 = .error x →
    F ⟨.region, .sharding x⟩
  acquire : ∀ shardId r x, (region.acquireShard shardId r).1 = .error x → F ⟨.region, .sharding x⟩

lemma regionFails_fromRegion : RegionFails region FromRegion :=
  ⟨fun _ _ _ _ => rfl, fun _ _ _ _ => rfl, fun _ _ _ _ => rfl, fun _ _ _ _ => rfl⟩

variable {region} in
lemma applyToNodeRegions_failsWith (entityType : EntityType) (nodeId : NodeId)
    {apply : ρ → Except ShardingError ℕ × ρ}
    (happly : ∀ r x, (apply r).1 = .error x → F ⟨.region, .sharding x⟩) :
    Attempt.FailsWith F (applyToNodeRegions (ω := ω) region entityType nodeId apply) := by
  refine visitEntityRegions_failsWith entityType (fun r x hx => ?_)
  split_ifs at hx
  exact happly r x hx

lemma handOff_keeps (shard : ShardKey) (source target : NodeId) :
    Attempt.Keeps RegionsOnly (handOff (ω := ω) region shard source target) := by
  unfold handOff applyToNodeRegions
  refine .bind .trans (visitEntityRegions_keeps _ _) (fun _ => ?_)
  refine .bind .trans (visitEntityRegions_keeps _ _) (fun _ => ?_)
  refine .bind .trans (visitEntityRegions_keeps _ _) (fun _ => ?_)
  exact Attempt.keeps_pure .refl _

variable {region} in
lemma handOff_failsWith (hfails : RegionFails region F) (shard : ShardKey)
    (source target : NodeId) :
    Attempt.FailsWith F (handOff (ω := ω) region shard source target) := by
  refine .bind (applyToNodeRegions_failsWith _ _ (hfails.beginHandoff _)) (fun _ => ?_)
  refine .bind (applyToNodeRegions_failsWith _ _ (hfails.completeHandoff _)) (fun _ => ?_)
  refine .bind (applyToNodeRegions_failsWith _ _ (hfails.acquire _)) (fun _ => ?_)
  exact Attempt.failsWith_pure _ _

lemma applyGracefulHandoffs_keeps (ds : List ShardDecision) :
    Attempt.Keeps RegionsOnly (applyGracefulHandoffs (ω := ω) region ds) := by
  fun_induction applyGracefulHandoffs region ds with
  | case1 => exact Attempt.keeps_pure .refl _
  | case2 shard source target ds ih =>
    refine .bind .trans (handOff_keeps region shard source target) (fun _ => ?_)
    refine .bind .trans ih (fun _ => ?_)
    exact Attempt.keeps_pure .refl _
  | case3 d ds hd ih => exact ih

variable {region} in
lemma applyGracefulHandoffs_failsWith (hfails : RegionFails region F) (ds : List ShardDecision) :
    Attempt.FailsWith F (applyGracefulHandoffs (ω := ω) region ds) := by
  fun_induction applyGracefulHandoffs region ds with
  | case1 => exact Attempt.failsWith_pure _ _
  | case2 shard source target ds ih =>
    refine .bind (handOff_failsWith hfails shard source target) (fun _ => ?_)
    exact .bind ih (fun _ => Attempt.failsWith_pure _ _)
  | case3 d ds hd ih => exact ih

variable {region} in
lemma publishSnapshot_failsWith (hfails : RegionFails region F)
    (snapshot : ShardOwnershipSnapshot) :
    Attempt.FailsWith F (publishSnapshot (ω := ω) region snapshot) := by
  refine .bind (visitEntityRegions_failsWith _ (fun r x hx => ?_))
    (fun _ => Attempt.failsWith_modify _ _)
  split at hx
  next heq =>
    cases hx
    exact hfails.refresh snapshot r x (by rw [heq])
  · cases hx

variable {region} in
lemma publishPlan_failsWith (hfails : RegionFails region F) (e : EntityType)
    (plan : ShardRebalancePlan) (snapshot : ShardOwnershipSnapshot) :
    Attempt.FailsWith F (publishPlan (ω := ω) region e plan snapshot) := by
  refine .bind (applyGracefulHandoffs_failsWith hfails plan.decisions) (fun _ => ?_)
  exact .bind (publishSnapshot_failsWith hfails snapshot) (fun _ => Attempt.failsWith_pure _ _)

theorem publishSnapshot_spec (snapshot : ShardOwnershipSnapshot)
    (s : ClusterShardingRuntime ρ × ω) : (∃ f rs, FromRegion f ∧
      publishSnapshot region snapshot s = (.error f, ({ s.1 with regions := rs }, s.2))) ∨
    ∃ rs, publishSnapshot region snapshot s = (.ok (), ({ s.1 with
      regions := rs
      lastPublished := s.1.lastPublished.insert snapshot.entityType snapshot }, s.2)) := by
  unfold publishSnapshot
  generalize hvisit : visitEntityRegions (ω := ω) snapshot.entityType _ = visit
  have hkeeps : Attempt.Keeps RegionsOnly visit := hvisit ▸ visitEntityRegions_keeps _ _
  have hfails : Attempt.FailsWith FromRegion visit :=
    hvisit ▸ visitEntityRegions_failsWith _ (fun _ _ _ => rfl)
  rcases Attempt.bind_cases visit (fun _ => modifyRuntime (fun rt => { rt with
    lastPublished := rt.lastPublished.insert snapshot.entityType snapshot })) s with
    ⟨f, t, hv, hr⟩ | ⟨n, t, hv, hr⟩
  · obtain ⟨rs, hrs⟩ := hkeeps s
    rw [hv] at hrs
    subst hrs
    exact .inl ⟨f, rs, hfails s f (by rw [hv]), hr⟩
  · obtain ⟨rs, hrs⟩ := hkeeps s
    rw [hv] at hrs
    subst hrs
    exact .inr ⟨rs, hr⟩

end Publish
section Leadership
variable (env : CoordinatorEnv ω) (P : ω → ω → Prop)
variable {F : Failure → Prop} {α : Type}

/-- Asking the lease or the clock relates the environment before and after by `P`. -/
structure LeaseFrame (env : LeaseEnv ω) : Prop where
  refl : ∀ w, P w w
  trans : ∀ {w₁ w₂ w₃}, P w₁ w₂ → P w₂ w₃ → P w₁ w₃
  acquire : ∀ e n w, P w (env.acquire e n w).2
  renew : ∀ t w, P w (env.renew t w).2
  release : ∀ t w, P w (env.release t w).2
  clock : ∀ w, P w (env.currentTimestampMillis w).2

def TokensOnly (s t : ClusterShardingRuntime ρ × ω) : Prop :=
  ∃ tokens w, P s.2 w ∧ t = ({ s.1 with leaseTokens := tokens }, w)

/-- A failure of the lease, or of the synchronous form of a call in the presence of one. -/
def FromLease (f : Failure) : Prop := f.origin = .lease ∨ f.origin = .api

structure LeaseFails (env : LeaseEnv ω) (F : Failure → Prop) : Prop where
  acquire : ∀ e n w x, (env.acquire e n w).1 = .error x → F ⟨.lease, .sharding x⟩
  renew : ∀ token w x, (env.renew token w).1 = .error x → F ⟨.lease, .sharding x⟩

lemma leaseFails_fromLease (env : LeaseEnv ω) : LeaseFails env FromLease :=
  ⟨fun _ _ _ _ _ => .inl rfl, fun _ _ _ _ => .inl rfl⟩

lemma ensureSyncApi_state (s : ClusterShardingRuntime ρ × ω) : (ensureSyncApi env s).2 = s := by
  unfold ensureSyncApi
  split <;> rfl

lemma ensureSyncApi_failsWith : Attempt.FailsWith FromLease (ensureSyncApi (ρ := ρ) env) := by
  intro s f hf
  unfold ensureSyncApi at hf
  split at hf
  · cases hf
  · cases hf
    exact .inr rfl

variable {env P}

lemma request_keeps (origin : Origin) (ask : ω → Except ShardingError α × ω)
    (hask : ∀ w, P w (ask w).2) : Attempt.Keeps (TokensOnly (ρ := ρ) P) (request origin ask) := by
  intro s
  have h := hask s.2
  unfold request
  generalize ask s.2 = answer at h ⊢
  rcases answer with ⟨_ | a, w⟩
  · exact ⟨s.1.leaseTokens, w, h, rfl⟩
  · exact ⟨s.1.leaseTokens, w, h, rfl⟩

lemma request_failsWith (origin : Origin) {ask : ω → Except ShardingError α × ω}
    (hask : ∀ w x, (ask w).1 = .error x → F ⟨origin, .sharding x⟩) :
    Attempt.FailsWith F (request (ρ := ρ) origin ask) := by
  intro s f hf
  have h := hask s.2
  unfold request at hf
  generalize ask s.2 = answer at h hf
  rcases answer with ⟨x | a, w⟩
  · cases hf
    exact h x rfl
  · cases hf

lemma acquireLeadership_failsWith (hfails : LeaseFails env.toLeaseEnv F) (e : EntityType) :
    Attempt.FailsWith F (acquireLeadership (ρ := ρ) env e) := by
  refine .bind (Attempt.failsWith_get _) (fun s => ?_)
  refine .bind (request_failsWith .lease (hfails.acquire e _)) (fun token => ?_)
  exact .bind (Attempt.failsWith_modify _ _) (fun _ => Attempt.failsWith_pure _ _)

lemma renewToken_failsWith (hfails : LeaseFails env.toLeaseEnv F) (e : EntityType)
    (token : LeaseToken) : Attempt.FailsWith F (renewToken (ρ := ρ) env e token) := by
  intro s f hf
  have h := hfails.renew token s.2
  unfold renewToken at hf
  generalize env.renew token s.2 = answer at h hf
  rcases answer with ⟨x | ⟨⟩, w⟩
  · cases hf
    exact h x rfl
  · cases hf

lemma ensureCoordinatorLeadershipAsync_failsWith (hfails : LeaseFails env.toLeaseEnv F)
    (e : EntityType) : Attempt.FailsWith F (ensureCoordinatorLeadershipAsync (ρ := ρ) env e) := by
  refine .bind (Attempt.failsWith_get _) (fun s => ?_)
  dsimp only
  split
  · exact Attempt.failsWith_pure _ _
  · exact acquireLeadership_failsWith hfails e
  · split_ifs
    · refine .bind (fun _ _ h => nomatch h) (fun nowMillis => ?_)
      split_ifs
      · exact acquireLeadership_failsWith hfails e
      · refine .bind (renewToken_failsWith hfails e _) (fun _ => ?_)
        exact .bind (Attempt.failsWith_modify _ _) (fun _ => Attempt.failsWith_pure _ _)
    · exact acquireLeadership_failsWith hfails e

variable (env) in
lemma ensureCoordinatorLeadership_failsWith (e : EntityType) (api : Api) :
    Attempt.FailsWith FromLease (ensureCoordinatorLeadership (ρ := ρ) env e api) := by
  cases api with
  | sync => exact .bind (ensureSyncApi_failsWith env) (fun _ => Attempt.failsWith_pure _ _)
  | async => exact ensureCoordinatorLeadershipAsync_failsWith (leaseFails_fromLease _) e

variable (hframe : LeaseFrame P env.toLeaseEnv)
include hframe

lemma TokensOnly.refl (s : ClusterShardingRuntime ρ × ω) : TokensOnly P s s :=
  ⟨s.1.leaseTokens, s.2, hframe.refl s.2, rfl⟩

lemma TokensOnly.trans (s t u : ClusterShardingRuntime ρ × ω) (h : TokensOnly P s t)
    (h' : TokensOnly P t u) : TokensOnly P s u := by
  obtain ⟨tokens, w, hw, rfl⟩ := h
  obtain ⟨tokens', w', hw', rfl⟩ := h'
  exact ⟨tokens', w', hframe.trans hw hw', rfl⟩

lemma modifyTokens_keeps (f : BTreeMap EntityType LeaseToken → BTreeMap EntityType LeaseToken) :
    Attempt.Keeps (TokensOnly (ρ := ρ) P)
      (modifyRuntime (fun rt => { rt with leaseTokens := f rt.leaseTokens })) :=
  fun s => ⟨f s.1.leaseTokens, s.2, hframe.refl s.2, rfl⟩

lemma acquireLeadership_keeps (e : EntityType) :
    Attempt.Keeps (TokensOnly (ρ := ρ) P) (acquireLeadership env e) := by
  refine .bind (TokensOnly.trans hframe) (Attempt.keeps_get (TokensOnly.refl hframe)) (fun s => ?_)
  refine .bind (TokensOnly.trans hframe) (request_keeps _ _ (hframe.acquire e _)) (fun token => ?_)
  refine .bind (TokensOnly.trans hframe) (modifyTokens_keeps hframe (·.insert e token)) (fun _ => ?_)
  exact Attempt.keeps_pure (TokensOnly.refl hframe) _

lemma clock_keeps : Attempt.Keeps (TokensOnly (ρ := ρ) P) (currentTimestampMillis env) :=
  fun s => ⟨s.1.leaseTokens, _, hframe.clock s.2, rfl⟩

lemma renewToken_keeps (e : EntityType) (token : LeaseToken) :
    Attempt.Keeps (TokensOnly (ρ := ρ) P) (renewToken env e token) := by
  intro s
  have h := hframe.renew token s.2
  unfold renewToken
  generalize env.renew token s.2 = answer at h ⊢
  rcases answer with ⟨_ | ⟨⟩, w⟩
  · exact ⟨_, w, h, rfl⟩
  · exact ⟨s.1.leaseTokens, w, h, rfl⟩

lemma ensureCoordinatorLeadershipAsync_keeps (e : EntityType) :
    Attempt.Keeps (TokensOnly (ρ := ρ) P) (ensureCoordinatorLeadershipAsync env e) := by
  refine .bind (TokensOnly.trans hframe) (Attempt.keeps_get (TokensOnly.refl hframe)) (fun s => ?_)
  dsimp only
  split
  · exact Attempt.keeps_pure (TokensOnly.refl hframe) _
  · exact acquireLeadership_keeps hframe e
  · split_ifs
    · refine .bind (TokensOnly.trans hframe) (clock_keeps hframe) (fun nowMillis => ?_)
      split_ifs
      · exact acquireLeadership_keeps hframe e
      · refine .bind (TokensOnly.trans hframe) (renewToken_keeps hframe e _) (fun _ => ?_)
        refine .bind (TokensOnly.trans hframe) (modifyTokens_keeps hframe (·.insert e _)) (fun _ => ?_)
        exact Attempt.keeps_pure (TokensOnly.refl hframe) _
    · exact acquireLeadership_keeps hframe e

lemma ensureSyncApi_keeps : Attempt.Keeps (TokensOnly (ρ := ρ) P) (ensureSyncApi env) :=
  fun s => (ensureSyncApi_state env s).symm ▸ TokensOnly.refl hframe s

lemma ensureCoordinatorLeadership_keeps (e : EntityType) (api : Api) :
    Attempt.Keeps (TokensOnly (ρ := ρ) P) (ensureCoordinatorLeadership env e api) := by
  cases api with
  | sync =>
    refine .bind (TokensOnly.trans hframe) (ensureSyncApi_keeps hframe) (fun _ => ?_)
    exact Attempt.keeps_pure (TokensOnly.refl hframe) _
  | async => exact ensureCoordinatorLeadershipAsync_keeps hframe e

end Leadership
section Entity
variable (region : RegisteredShardRegion ρ) (env : CoordinatorEnv ω) {P : ω → ω → Prop} (api : Api)

def EnvOnly (s t : ClusterShardingRuntime ρ × ω) : Prop := t.1 = s.1

lemma EnvOnly.trans (s t u : ClusterShardingRuntime ρ × ω) (h : EnvOnly s t)
    (h' : EnvOnly t u) : EnvOnly s u := Eq.trans h' h

lemma persistCoordinatorSnapshot_keeps (snapshot : ShardOwnershipSnapshot)
    (allocationStrategy : String) (expectedRevision : ℕ) (leaseToken : Option LeaseToken) :
    Attempt.Keeps EnvOnly (persistCoordinatorSnapshot (ρ := ρ) env api snapshot allocationStrategy
      expectedRevision leaseToken) := by
  refine .bind EnvOnly.trans (fun _ => rfl) (fun nowMillis => ?_)
  refine .bind EnvOnly.trans (fun _ => rfl) (fun s => ?_)
  dsimp only
  split
  · exact fun _ => rfl
  · exact fun _ => rfl
  · refine .bind EnvOnly.trans (fun t => ?_) (fun _ _ => rfl)
    unfold request
    split <;> rfl

lemma persistCoordinatorSnapshot_failsWith (snapshot : ShardOwnershipSnapshot)
    (allocationStrategy : String) (expectedRevision : ℕ) (leaseToken : Option LeaseToken) :
    Attempt.FailsWith (fun f => f.origin = .store) (persistCoordinatorSnapshot (ρ := ρ) env api
      snapshot allocationStrategy expectedRevision leaseToken) := by
  refine .bind (fun _ _ h => nomatch h) (fun nowMillis => ?_)
  refine .bind (Attempt.failsWith_get _) (fun s => ?_)
  dsimp only
  split
  · exact Attempt.failsWith_pure _ _
  · intro t f hf
    cases hf
    rfl
  · exact .bind (request_failsWith .store (fun _ _ _ => rfl)) (fun _ => Attempt.failsWith_pure _ _)

/-- The runtime whose coordinator was reconciled in place, under the given tokens. -/
def reconciled (rt : ClusterShardingRuntime ρ) (tokens : BTreeMap EntityType LeaseToken)
    (c : ShardCoordinator) : ClusterShardingRuntime ρ :=
  ({ rt with leaseTokens := tokens } : ClusterShardingRuntime ρ).setCoordinator
    (c.reconcile rt.membership).2

def persistReconciled (rt : ClusterShardingRuntime ρ)
    (token : Option LeaseToken) (c : ShardCoordinator) : RuntimeCall ρ ω Unit :=
  persistCoordinatorSnapshot env api (c.reconcile rt.membership).2.snapshot
    c.allocationStrategy.strategyName c.revision token

lemma persistReconciled_cases (rt : ClusterShardingRuntime ρ) (token : Option LeaseToken)
    (c : ShardCoordinator) (s : ClusterShardingRuntime ρ × ω) :
    (∃ f w, f.origin = .store ∧ persistReconciled env api rt token c s = (.error f, (s.1, w))) ∨
      ∃ w, persistReconciled env api rt token c s = (.ok (), (s.1, w)) := by
  have hkeeps : EnvOnly s _ := persistCoordinatorSnapshot_keeps env api
    (c.reconcile rt.membership).2.snapshot c.allocationStrategy.strategyName c.revision token s
  have hfails := persistCoordinatorSnapshot_failsWith (ρ := ρ) env api
    (c.reconcile rt.membership).2.snapshot c.allocationStrategy.strategyName c.revision token s
  unfold persistReconciled
  generalize persistCoordinatorSnapshot env api _ _ _ _ s = answer at hkeeps hfails ⊢
  rcases answer with ⟨f | ⟨⟩, rt', w⟩
  · exact .inl ⟨f, w, hfails f rfl, by rw [← show rt' = s.1 from hkeeps]⟩
  · exact .inr ⟨w, by rw [← show rt' = s.1 from hkeeps]⟩

variable (P) in
inductive EntityStep (e : EntityType) (rt : ClusterShardingRuntime ρ) (w : ω) :
    Except Failure (List ShardHandoff × List EntityShardRebalance) ×
      (ClusterShardingRuntime ρ × ω) → Prop where
  | refusedLease (f : Failure) (tokens : BTreeMap EntityType LeaseToken) (w₁ : ω)
      (hw : P w w₁) (hf : FromLease f) :
      EntityStep e rt w (.error f, ({ rt with leaseTokens := tokens }, w₁))
  | unregistered (tokens : BTreeMap EntityType LeaseToken) (w₁ : ω) (hw : P w w₁)
      (hc : rt.coordinators[e]? = none) :
      EntityStep e rt w (.ok ([], []), ({ rt with leaseTokens := tokens }, w₁))
  | unchanged (c : ShardCoordinator) (tokens : BTreeMap EntityType LeaseToken) (w₁ : ω)
      (hw : P w w₁) (hc : rt.coordinators[e]? = some c)
      (hplan : (c.reconcile rt.membership).1.isEmpty = true) :
      EntityStep e rt w (.ok ([], []), (rt.reconciled tokens c, w₁))
  | refusedWrite (c : ShardCoordinator) (tokens : BTreeMap EntityType LeaseToken) (w₁ w₂ : ω)
      (token : Option LeaseToken) (f : Failure) (hw : P w w₁) (hc : rt.coordinators[e]? = some c)
      (hplan : (c.reconcile rt.membership).1.isEmpty = false)
      (hpersist : persistReconciled env api rt token c (rt.reconciled tokens c, w₁) =
        (.error f, (rt.reconciled tokens c, w₂)))
      (hf : f.origin = .store) :
      EntityStep e rt w (.error f, (rt.reconciled tokens c, w₂))
  | refusedRegion (c : ShardCoordinator) (tokens : BTreeMap EntityType LeaseToken) (w₁ w₂ : ω)
      (token : Option LeaseToken) (f : Failure) (rs : BTreeMap EntityType (List ρ))
      (hw : P w w₁) (hc : rt.coordinators[e]? = some c)
      (hplan : (c.reconcile rt.membership).1.isEmpty = false)
      (hpersist : persistReconciled env api rt token c (rt.reconciled tokens c, w₁) =
        (.ok (), (rt.reconciled tokens c, w₂)))
      (hf : FromRegion f) :
      EntityStep e rt w (.error f, ({ rt.reconciled tokens c with
        regions := rs
        lastPersisted := rt.lastPersisted.insert e (c.reconcile rt.membership).2.snapshot }, w₂))
  | published (c : ShardCoordinator) (tokens : BTreeMap EntityType LeaseToken) (w₁ w₂ : ω)
      (token : Option LeaseToken) (handoffs : List ShardHandoff)
      (rs : BTreeMap EntityType (List ρ))
      (hw : P w w₁) (hc : rt.coordinators[e]? = some c)
      (hplan : (c.reconcile rt.membership).1.isEmpty = false)
      (hpersist : persistReconciled env api rt token c (rt.reconciled tokens c, w₁) =
        (.ok (), (rt.reconciled tokens c, w₂))) :
      EntityStep e rt w (.ok (handoffs, [⟨e, (c.reconcile rt.membership).1⟩]),
        ({ rt.reconciled tokens c with
          regions := rs
          lastPersisted := rt.lastPersisted.insert e (c.reconcile rt.membership).2.snapshot
          lastPublished := rt.lastPublished.insert e (c.reconcile rt.membership).2.snapshot }, w₂))

lemma publishPlan_spec (e : EntityType) (plan : ShardRebalancePlan)
    (snapshot : ShardOwnershipSnapshot) (s : ClusterShardingRuntime ρ × ω) : (∃ f rs, FromRegion f ∧
      publishPlan region e plan snapshot s = (.error f, ({ s.1 with regions := rs }, s.2))) ∨
    ∃ handoffs rs, publishPlan region e plan snapshot s = (.ok (handoffs, [⟨e, plan⟩]), ({ s.1 with
      regions := rs
      lastPublished := s.1.lastPublished.insert snapshot.entityType snapshot }, s.2)) := by
  unfold publishPlan
  have hkeeps := applyGracefulHandoffs_keeps (ω := ω) region plan.decisions s
  have hfails := applyGracefulHandoffs_failsWith (ω := ω) (regionFails_fromRegion region)
    plan.decisions s
  rw [Attempt.bind_apply]
  generalize applyGracefulHandoffs region plan.decisions s = answer at hkeeps hfails ⊢
  rcases answer with ⟨f | handoffs, t⟩
  · obtain ⟨rs, rfl⟩ := hkeeps
    exact .inl ⟨f, rs, hfails f rfl, rfl⟩
  · obtain ⟨rs, rfl⟩ := hkeeps
    rcases publishSnapshot_spec region snapshot ({ s.1 with regions := rs }, s.2) with
      ⟨f, rs', hf, hp⟩ | ⟨rs', hp⟩
    · exact .inl ⟨f, rs', hf, Attempt.bind_of_error hp⟩
    · exact .inr ⟨handoffs, rs', Attempt.bind_of_ok hp⟩

lemma reconcileEntity_step (hframe : LeaseFrame P env.toLeaseEnv) (e : EntityType)
    (rt : ClusterShardingRuntime ρ) (w : ω) :
    EntityStep env P api e rt w (reconcileEntity region env api e (rt, w)) := by
  have hkeeps := ensureCoordinatorLeadership_keeps (ρ := ρ) hframe e api (rt, w)
  have hfails := ensureCoordinatorLeadership_failsWith (ρ := ρ) env e api (rt, w)
  unfold reconcileEntity
  generalize ensureCoordinatorLeadership env e api = leadership at hkeeps hfails
  rw [Attempt.bind_apply]
  rcases hlead : leadership (rt, w) with ⟨f | token, rt₁, w₁⟩
  · rw [hlead] at hkeeps hfails
    obtain ⟨tokens, w', hw, heq⟩ := hkeeps
    cases heq
    exact .refusedLease f tokens w₁ hw (hfails f rfl)
  · rw [hlead] at hkeeps
    obtain ⟨tokens, w', hw, heq⟩ := hkeeps
    cases heq
    simp only [Attempt.get_bind]
    rcases hc : rt.coordinators[e]? with _ | c
    · exact .unregistered tokens w₁ hw hc
    · simp only [modifyRuntime, Attempt.modify_bind]
      split_ifs with hplan
      · exact .unchanged c tokens w₁ hw hc hplan
      · rw [Bool.not_eq_true] at hplan
        have hkey := rt.keyed e c hc
        change EntityStep env P api e rt w ((persistReconciled env api rt token c >>= fun _ => _)
          (rt.reconciled tokens c, w₁))
        rcases persistReconciled_cases env api rt token c
          (rt.reconciled tokens c, w₁) with ⟨f, w₂, hf, hpersist⟩ | ⟨w₂, hpersist⟩
        · rw [Attempt.bind_of_error hpersist]
          exact .refusedWrite c tokens w₁ w₂ token f hw hc hplan hpersist hf
        · rw [Attempt.bind_of_ok hpersist]
          simp only [Attempt.modify_bind]
          rcases publishPlan_spec region e (c.reconcile rt.membership).1
            (c.reconcile rt.membership).2.snapshot ({ rt.reconciled tokens c with
              lastPersisted := rt.lastPersisted.insert e (c.reconcile rt.membership).2.snapshot },
              w₂) with ⟨f, rs, hf, hp⟩ | ⟨handoffs, rs, hp⟩
          · exact hp ▸ .refusedRegion c tokens w₁ w₂ token f rs hw hc hplan hpersist hf
          · rw [show (c.reconcile rt.membership).2.snapshot.entityType = e from hkey] at hp
            exact hp ▸ .published c tokens w₁ w₂ token handoffs rs hw hc hplan hpersist

end Entity

section Calls
variable (region : RegisteredShardRegion ρ) (env : CoordinatorEnv ω) {P : ω → ω → Prop} (api : Api)

def MembershipOnly (s t : ClusterShardingRuntime ρ × ω) : Prop :=
  ∃ m, t = ({ s.1 with membership := m }, s.2)

lemma MembershipOnly.refl (s : ClusterShardingRuntime ρ × ω) : MembershipOnly s s :=
  ⟨s.1.membership, rfl⟩

lemma MembershipOnly.trans (s t u : ClusterShardingRuntime ρ × ω) (h : MembershipOnly s t)
    (h' : MembershipOnly t u) : MembershipOnly s u := by
  obtain ⟨m, rfl⟩ := h
  obtain ⟨m', rfl⟩ := h'
  exact ⟨m', rfl⟩

lemma beginUpdate_keeps (u : MembershipUpdate) :
    Attempt.Keeps MembershipOnly (beginUpdate (ρ := ρ) env api u) := by
  refine .bind MembershipOnly.trans (fun s => ?_) (fun _ s => ?_)
  · cases api with
    | sync => exact (ensureSyncApi_state env s).symm ▸ .refl s
    | async => exact .refl s
  · unfold applyMembershipUpdate
    split <;> exact ⟨_, rfl⟩

section
variable (hframe : LeaseFrame P env.toLeaseEnv)
include hframe

lemma ensureApi_keeps : Attempt.Keeps (TokensOnly (ρ := ρ) P) (ensureApi env api) := by
  cases api with
  | sync => exact ensureSyncApi_keeps hframe
  | async => exact TokensOnly.refl hframe

lemma loadCoordinatorState_keeps (hload : ∀ e w, P w (env.load e w).2) (e : EntityType) :
    Attempt.Keeps (TokensOnly (ρ := ρ) P) (loadCoordinatorState env api e) := by
  refine .bind (TokensOnly.trans hframe) (Attempt.keeps_get (TokensOnly.refl hframe)) (fun s => ?_)
  dsimp only
  split
  · exact TokensOnly.refl hframe
  · exact TokensOnly.refl hframe
  · exact request_keeps _ _ (hload e)

lemma beginRegistration_keeps (hload : ∀ e w, P w (env.load e w).2) (r : ρ) :
    Attempt.Keeps (TokensOnly (ρ := ρ) P) (beginRegistration region env api r) := by
  have hrefl := TokensOnly.refl (ρ := ρ) hframe
  refine .bind (TokensOnly.trans hframe) (ensureApi_keeps env api hframe) (fun _ => ?_)
  refine .bind (TokensOnly.trans hframe) (Attempt.keeps_get hrefl) (fun s => ?_)
  dsimp only
  split
  · split_ifs
    · exact hrefl
    · exact Attempt.keeps_pure hrefl _
  · refine .bind (TokensOnly.trans hframe) (ensureCoordinatorLeadership_keeps hframe _ api) ?_
    intro leaseToken
    refine .bind (TokensOnly.trans hframe) (loadCoordinatorState_keeps env api hframe hload _) ?_
    exact fun loaded => Attempt.keeps_pure hrefl _

lemma renewTokens_keeps (tokens : List LeaseToken) :
    Attempt.Keeps (TokensOnly (ρ := ρ) P) (renewTokens env tokens) := by
  induction tokens with
  | nil => exact Attempt.keeps_pure (TokensOnly.refl hframe) _
  | cons token tokens ih =>
    exact .bind (TokensOnly.trans hframe) (renewToken_keeps hframe _ token) (fun _ => ih)

lemma renewCoordinatorLeases_keeps :
    Attempt.Keeps (TokensOnly (ρ := ρ) P) (renewCoordinatorLeases env) := by
  refine .bind (TokensOnly.trans hframe) (Attempt.keeps_get (TokensOnly.refl hframe)) (fun s => ?_)
  dsimp only
  split
  · exact Attempt.keeps_pure (TokensOnly.refl hframe) _
  · exact renewTokens_keeps env hframe _

lemma releaseTokens_keeps (tokens : List LeaseToken) :
    Attempt.Keeps (TokensOnly (ρ := ρ) P) (releaseTokens env tokens) := by
  induction tokens with
  | nil => exact Attempt.keeps_pure (TokensOnly.refl hframe) _
  | cons token tokens ih =>
    exact .bind (TokensOnly.trans hframe) (request_keeps _ _ (hframe.release token)) (fun _ => ih)

lemma releaseCoordinatorLeases_keeps :
    Attempt.Keeps (TokensOnly (ρ := ρ) P) (releaseCoordinatorLeases env) := by
  refine .bind (TokensOnly.trans hframe) (Attempt.keeps_get (TokensOnly.refl hframe)) (fun s => ?_)
  refine .bind (TokensOnly.trans hframe) (modifyTokens_keeps hframe (fun _ => ∅)) (fun _ => ?_)
  split
  · exact Attempt.keeps_pure (TokensOnly.refl hframe) _
  · exact releaseTokens_keeps env hframe _

lemma beginRegistration_some {r : ρ} {rt rt' : ClusterShardingRuntime ρ} {w w' : ω}
    {leaseToken : Option LeaseToken} {loaded : Option PersistedShardCoordinatorState}
    (h : beginRegistration region env api r (rt, w) = (.ok (some (leaseToken, loaded)), (rt', w')))
    : rt.coordinators[region.entityType r]? = none ∧
      ∃ tokens w₁, P w w₁ ∧ loadCoordinatorState env api (region.entityType r)
        ({ rt with leaseTokens := tokens }, w₁) = (.ok loaded, (rt', w')) := by
  unfold beginRegistration at h
  have hapi : (ensureApi env api (rt, w)).2 = (rt, w) := by
    cases api with
    | sync => exact ensureSyncApi_state env (rt, w)
    | async => rfl
  rcases Attempt.bind_cases (ensureApi env api) _ (rt, w) with ⟨f, s, hs, hr⟩ | ⟨_, s, hs, hr⟩
  · exact absurd (hr.symm.trans h) (by simp)
  · rw [hs] at hapi
    subst hapi
    rw [hr] at h
    simp only [Attempt.get_bind] at h
    rcases hc : rt.coordinators[region.entityType r]? with _ | c
    · refine ⟨rfl, ?_⟩
      rw [hc] at h
      have hkeeps := ensureCoordinatorLeadership_keeps (ρ := ρ) hframe (region.entityType r) api
        (rt, w)
      rcases Attempt.bind_cases (ensureCoordinatorLeadership env (region.entityType r) api) _
        (rt, w) with ⟨f, s, hs, hr⟩ | ⟨token, s, hs, hr⟩
      · exact absurd (hr.symm.trans h) (by simp)
      · rw [hs] at hkeeps
        obtain ⟨tokens, w₁, hw, rfl⟩ := hkeeps
        refine ⟨tokens, w₁, hw, ?_⟩
        have h' := hr.symm.trans h
        rcases Attempt.bind_cases (loadCoordinatorState env api (region.entityType r)) _
          ({ rt with leaseTokens := tokens }, w₁) with ⟨f, s, hs, hr⟩ | ⟨state, s, hs, hr⟩
        · exact absurd (hr.symm.trans h') (by simp)
        · have h'' := hr.symm.trans h'
          cases h''
          exact hs
    · rw [hc] at h
      simp only at h
      split_ifs at h
      · cases h
      · cases h

end

def installed (rt : ClusterShardingRuntime ρ) (c : ShardCoordinator) : ClusterShardingRuntime ρ :=
  { rt.setCoordinator (c.reconcile rt.membership).2 with
    lastPersisted := rt.lastPersisted.insert c.entityType (c.reconcile rt.membership).2.snapshot }

inductive InstallStep (r : ρ) (token : Option LeaseToken)
    (loaded : Option PersistedShardCoordinatorState) (rt : ClusterShardingRuntime ρ) (w : ω) :
    Except Failure Unit × (ClusterShardingRuntime ρ × ω) → Prop where
  | invalid (e : ShardingError) (hc : initialCoordinator region r loaded = .error e) :
      InstallStep r token loaded rt w (.error ⟨.registration, .sharding e⟩, (rt, w))
  | unchanged (c : ShardCoordinator) (hc : initialCoordinator region r loaded = .ok c)
      (hplan : (c.reconcile rt.membership).1.isEmpty = true) :
      InstallStep r token loaded rt w (.ok (), (rt.installed c, w))
  | refused (c : ShardCoordinator) (f : Failure) (w₁ : ω)
      (hc : initialCoordinator region r loaded = .ok c)
      (hplan : (c.reconcile rt.membership).1.isEmpty = false)
      (hpersist : persistReconciled env api rt token c (rt, w) = (.error f, (rt, w₁)))
      (hf : f.origin = .store) :
      InstallStep r token loaded rt w (.error f, (rt, w₁))
  | written (c : ShardCoordinator) (w₁ : ω) (hc : initialCoordinator region r loaded = .ok c)
      (hplan : (c.reconcile rt.membership).1.isEmpty = false)
      (hpersist : persistReconciled env api rt token c (rt, w) = (.ok (), (rt, w₁))) :
      InstallStep r token loaded rt w (.ok (), (rt.installed c, w₁))

lemma installCoordinator_step (r : ρ) (token : Option LeaseToken)
    (loaded : Option PersistedShardCoordinatorState) (rt : ClusterShardingRuntime ρ) (w : ω) :
    InstallStep region env api r token loaded rt w
      (installCoordinator region env api r token loaded (rt, w)) := by
  unfold installCoordinator
  rcases hc : initialCoordinator region r loaded with e | c
  · exact .invalid e hc
  · simp only [Attempt.get_bind]
    rcases hplan : (c.reconcile rt.membership).1.isEmpty
    · simp only [Bool.false_eq_true, if_false]
      change InstallStep region env api r token loaded rt w
        ((persistReconciled env api rt token c >>= fun _ => _) (rt, w))
      rcases persistReconciled_cases env api rt token c (rt, w) with
        ⟨f, w₁, hf, hpersist⟩ | ⟨w₁, hpersist⟩
      · rw [Attempt.bind_of_error hpersist]
        exact .refused c f w₁ hc hplan hpersist hf
      · rw [Attempt.bind_of_ok hpersist]
        exact .written c w₁ hc hplan hpersist
    · exact .unchanged c hc hplan

lemma attachRegion_spec (r : ρ) (s : ClusterShardingRuntime ρ × ω) :
    (∃ f, FromRegion f ∧ attachRegion region r s = (.error f, s)) ∨
    (s.1.coordinators[region.entityType r]? = none ∧ attachRegion region r s = (.ok (), s)) ∨
    ∃ rs c, s.1.coordinators[region.entityType r]? = some c ∧
      attachRegion region r s = (.ok (), ({ s.1 with
        regions := rs
        lastPublished := s.1.lastPublished.insert (region.entityType r) c.snapshot }, s.2)) := by
  unfold attachRegion
  split
  next hc => exact .inr (.inl ⟨hc, rfl⟩)
  next c hc =>
    split
    next x _ _ => exact .inl ⟨⟨.region, .sharding x⟩, rfl, rfl⟩
    · exact .inr (.inr ⟨_, c, hc, rfl⟩)

end Calls
end ClusterShardingRuntime
end Rakka.Sharding
