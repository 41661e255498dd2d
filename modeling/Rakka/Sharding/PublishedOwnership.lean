import Rakka.Sharding.RefusedUpdate
import Rakka.Sharding.Routing

/-! What regions are told about the ownership of shards. A reconciliation first hands shards over
gracefully and then publishes its snapshot; regions that follow both agree with the ownership
their coordinator has reached after every call. -/

namespace Rakka.Sharding
open Cluster Foundation List

lemma snapshotOwners_snapshot (c : ShardCoordinator) : snapshotOwners c.snapshot = c.assignments := by
  unfold snapshotOwners ShardCoordinator.snapshot
  rw [foldl_map]
  exact BTreeMap.foldl_insert_toList c.assignments

def ShardAllocationStrategy.IsBuiltIn (strategy : ShardAllocationStrategy) : Prop :=
  ∃ b : BuiltInStrategy, strategy = b.toStrategy

namespace PlanDraft

def About (entityType : EntityType) (draft : PlanDraft) : Prop :=
  ∀ d ∈ draft.decisions, d.shard.entityType = entityType

end PlanDraft

lemma Recorded.about {entityType : EntityType} {draft draft' : PlanDraft} {s : ShardId}
    {new : Option NodeId} (h : Recorded entityType draft s new draft')
    (hdraft : draft.About entityType) : draft'.About entityType := by
  cases h with
  | same => exact hdraft
  | changed d hs => exact forall_mem_concat hdraft (by rw [hs])

namespace ShardCoordinator

lemma draft_about (c : ShardCoordinator) (membership : ClusterMembership) :
    (c.draft membership).About c.entityType := by
  unfold draft reconcileDraft
  split_ifs
  · intro d hd
    obtain ⟨p, -, rfl⟩ := mem_map.mp hd
    rfl
  · have hallocated : (allocatePass c.entityType c.config c.allocationStrategy membership
        membership.routableNodes c.assignments).About c.entityType :=
      List.foldlRecOn (motive := fun draft : PlanDraft => draft.About c.entityType) _ _
        (fun d hd => absurd hd not_mem_nil)
        (fun _ hdraft _ _ => (allocateStep_recorded ..).about hdraft)
    exact List.foldlRecOn
      (motive := fun acc : PlanDraft × Finset ShardId => acc.1.About c.entityType) _ _ hallocated
      (fun _ hacc _ _ => (reassignStep_recorded ..).about hacc)

end ShardCoordinator

/-- Regions agree with a snapshot once they were refreshed with it, and may be handed shards over on
the way to the next one. -/
structure FollowsOwnership {ρ : Type} (region : RegisteredShardRegion ρ) (Fresh : ρ → Prop)
    (Agrees : ShardOwnershipSnapshot → ρ → Prop)
    (Between : ShardOwnershipSnapshot → ShardOwnershipSnapshot → ρ → Prop) : Prop where
  starts : ∀ {r}, Fresh r → ∀ next, ∃ last, Between last next r
  leaves : ∀ {last r}, Agrees last r → ∀ next, Between last next r
  refresh : ∀ {last next r r'}, Between last next r →
    region.refreshOwnership next r = (.ok (), r') → Agrees next r'
  giveUp : ∀ {last next r r' n node shardId}, Between last next r →
    region.localNodeId r = some node → (snapshotOwners last)[shardId]? = some node →
    (snapshotOwners next)[shardId]? ≠ some node →
    region.beginShardHandoff shardId r = (.ok n, r') ∨
      region.completeShardHandoff shardId r = (.ok n, r') → Between last next r'
  takeOver : ∀ {last next r r' n node shardId}, Between last next r →
    region.localNodeId r = some node → (snapshotOwners last)[shardId]? ≠ some node →
    (snapshotOwners next)[shardId]? = some node →
    region.acquireShard shardId r = (.ok n, r') → Between last next r'

lemma visitRegions_ok {ρ : Type} {visit : ρ → Except ShardingError ℕ × ρ} {rs rs' : List ρ} {n : ℕ}
    (h : visitRegions visit rs = (.ok n, rs')) :
    ∀ r' ∈ rs', ∃ r ∈ rs, ∃ m, visit r = (.ok m, r') := by
  induction rs generalizing rs' n with
  | nil =>
    cases h
    intro r' hr'
    cases hr'
  | cons r rs ih =>
    unfold visitRegions at h
    rcases hvisit : visit r with ⟨e | m, r₁⟩
    · rw [hvisit] at h
      cases h
    · rw [hvisit] at h
      rcases hrest : visitRegions visit rs with ⟨e | k, rs₁⟩
      · rw [hrest] at h
        cases h
      · rw [hrest] at h
        cases h
        intro r' hr'
        rcases mem_cons.mp hr' with rfl | hr'
        · exact ⟨r, mem_cons_self, m, hvisit⟩
        · obtain ⟨r₂, hr₂, m', hvisit'⟩ := ih hrest r' hr'
          exact ⟨r₂, mem_cons_of_mem r hr₂, m', hvisit'⟩

namespace ClusterShardingRuntime
variable {ρ ω : Type} {region : RegisteredShardRegion ρ} {Fresh : ρ → Prop}
variable {rt : ClusterShardingRuntime ρ} {c : ShardCoordinator}

  {Agrees : ShardOwnershipSnapshot → ρ → Prop}
  {Between : ShardOwnershipSnapshot → ShardOwnershipSnapshot → ρ → Prop}

variable (Agrees) in
/-- Every region agrees with the coordinator of its entity type. -/
structure Followed (rt : ClusterShardingRuntime ρ) : Prop where
  builtIn : ∀ (e : EntityType) c, rt.coordinators[e]? = some c → c.allocationStrategy.IsBuiltIn
  agrees : ∀ (e : EntityType) rs, rt.regions[e]? = some rs → ∀ r ∈ rs,
    ∃ c, rt.coordinators[e]? = some c ∧ Agrees c.snapshot r

variable (Agrees) in
/-- All regions agree with their coordinator, except that those of one entity type are only
known to meet `Q`. -/
structure Publishing (e : EntityType) (c : ShardCoordinator) (Q : ρ → Prop)
    (rt : ClusterShardingRuntime ρ) : Prop where
  builtIn : ∀ (e' : EntityType) c', rt.coordinators[e']? = some c' → c'.allocationStrategy.IsBuiltIn
  coordinator : rt.coordinators[e]? = some c
  others : ∀ (e' : EntityType) rs, e' ≠ e → rt.regions[e']? = some rs → ∀ r ∈ rs,
    ∃ c', rt.coordinators[e']? = some c' ∧ Agrees c'.snapshot r
  own : ∀ rs, rt.regions[e]? = some rs → ∀ r ∈ rs, Q r

section
variable {e : EntityType} {Q Q' : ρ → Prop}

lemma Publishing.mono (h : Publishing Agrees e c Q rt) (hQ : ∀ r, Q r → Q' r) :
    Publishing Agrees e c Q' rt :=
  { h with own := fun rs hrs r hr => hQ r (h.own rs hrs r hr) }

lemma Publishing.followed (h : Publishing Agrees e c (Agrees c.snapshot) rt) :
    Followed Agrees rt := by
  refine ⟨h.builtIn, fun e' rs hrs r hr => ?_⟩
  by_cases he : e' = e
  · subst he
    exact ⟨c, h.coordinator, h.own rs hrs r hr⟩
  · exact h.others e' rs he hrs r hr

lemma visitEntityRegions_publishing {visit : ρ → Except ShardingError ℕ × ρ}
    (hvisit : ∀ r n r', Q r → visit r = (.ok n, r') → Q' r') :
    Attempt.Ensures (fun s => Publishing Agrees e c Q s.1)
      (visitEntityRegions (ω := ω) e visit) (fun s => Publishing Agrees e c Q' s.1) := by
  intro s n t hs h
  unfold visitEntityRegions at h
  cases hrs : s.1.regions[e]? with
  | none =>
    rw [hrs] at h
    cases h
    refine { hs with own := fun rs hrs' => ?_ }
    cases hrs.symm.trans hrs'
  | some rs =>
    rw [hrs] at h
    dsimp only at h
    rcases hout : visitRegions visit rs with ⟨x | k, rs'⟩
    · rw [hout] at h
      cases h
    · rw [hout] at h
      cases h
      have hlookup : ∀ e' : EntityType, (s.1.regions.insert e rs')[e']? =
          if e' = e then some rs' else s.1.regions[e']? :=
        fun e' => BTreeMap.lookup_insert ..
      constructor
      · exact hs.builtIn
      · exact hs.coordinator
      · intro e' rs₁ he hrs₁ r hr
        rw [hlookup, if_neg he] at hrs₁
        exact hs.others e' rs₁ he hrs₁ r hr
      · intro rs₁ hrs₁ r' hr'
        rw [hlookup, if_pos rfl, Option.some.injEq] at hrs₁
        subst hrs₁
        obtain ⟨r, hr, m, hvisited⟩ := visitRegions_ok hout r' hr'
        exact hvisit r m r' (hs.own rs hrs r hr) hvisited

lemma applyToNodeRegions_publishing {nodeId : NodeId} {apply : ρ → Except ShardingError ℕ × ρ}
    (happly : ∀ r n r', Q r → region.localNodeId r = some nodeId → apply r = (.ok n, r') → Q r') :
    Attempt.Ensures (fun s => Publishing Agrees e c Q s.1)
      (applyToNodeRegions (ω := ω) region e nodeId apply) (fun s => Publishing Agrees e c Q s.1) := by
  refine visitEntityRegions_publishing (fun r n r' hr hvisit => ?_)
  split_ifs at hvisit with hnode
  · exact happly r n r' hr hnode hvisit
  · cases hvisit
    exact hr

end

section
variable (hfollows : FollowsOwnership region Fresh Agrees Between)
variable {e : EntityType} {last next : ShardOwnershipSnapshot}

include hfollows

lemma handOff_publishing {shard : ShardKey} {source target : NodeId}
    (htype : shard.entityType = e) (hlast : (snapshotOwners last)[shard.shardId]? = some source)
    (hnext : (snapshotOwners next)[shard.shardId]? = some target) (hne : source ≠ target) :
    Attempt.Ensures (fun s => Publishing Agrees e c (Between last next) s.1)
      (handOff (ω := ω) region shard source target)
      (fun s => Publishing Agrees e c (Between last next) s.1) := by
  subst htype
  have hgone : (snapshotOwners next)[shard.shardId]? ≠ some source := by
    rw [hnext]
    exact fun h => hne (Option.some.inj h).symm
  have hnew : (snapshotOwners last)[shard.shardId]? ≠ some target := by
    rw [hlast]
    exact fun h => hne (Option.some.inj h)
  unfold handOff
  refine .bind (applyToNodeRegions_publishing (fun r n r' hr hnode h => ?_)) (fun _ => ?_)
  · exact hfollows.giveUp hr hnode hlast hgone (.inl h)
  refine .bind (applyToNodeRegions_publishing (fun r n r' hr hnode h => ?_)) (fun _ => ?_)
  · exact hfollows.giveUp hr hnode hlast hgone (.inr h)
  refine .bind (applyToNodeRegions_publishing (fun r n r' hr hnode h => ?_)) (fun _ => ?_)
  · exact hfollows.takeOver hr hnode hnew hnext h
  exact Attempt.ensures_pure _ _

lemma applyGracefulHandoffs_publishing (c : ShardCoordinator) {ds : List ShardDecision}
    (hds : ∀ shard source target reason, .move shard source target reason ∈ ds →
      shard.entityType = e ∧ (snapshotOwners last)[shard.shardId]? = some source ∧
        (snapshotOwners next)[shard.shardId]? = some target ∧ source ≠ target) :
    Attempt.Ensures (fun s => Publishing Agrees e c (Between last next) s.1)
      (applyGracefulHandoffs (ω := ω) region ds)
      (fun s => Publishing Agrees e c (Between last next) s.1) := by
  fun_induction applyGracefulHandoffs (ω := ω) region ds with
  | case1 => exact Attempt.ensures_pure _ _
  | case2 shard source target ds ih =>
    obtain ⟨htype, hlast, hnext, hne⟩ := hds shard source target _ mem_cons_self
    refine .bind (handOff_publishing hfollows htype hlast hnext hne) (fun _ => ?_)
    refine .bind (ih (fun shard source target reason hd => ?_)) (fun _ => Attempt.ensures_pure _ _)
    exact hds shard source target reason (mem_cons_of_mem _ hd)
  | case3 d ds _ ih =>
    refine ih (fun shard source target reason hd => ?_)
    exact hds shard source target reason (mem_cons_of_mem _ hd)

lemma publishSnapshot_publishing (c : ShardCoordinator) (last next : ShardOwnershipSnapshot)
    (htype : next.entityType = e) :
    Attempt.Ensures (fun s => Publishing Agrees e c (Between last next) s.1)
      (publishSnapshot (ω := ω) region next)
      (fun s => Publishing Agrees e c (Agrees next) s.1) := by
  subst htype
  unfold publishSnapshot
  refine .bind (visitEntityRegions_publishing (fun r n r' hr hvisit => ?_)) (fun _ =>
    Attempt.ensures_modify (fun s hs => ⟨hs.builtIn, hs.coordinator, hs.others, hs.own⟩))
  rcases hrefresh : region.refreshOwnership next r with ⟨x | ⟨⟩, r₁⟩
  · rw [hrefresh] at hvisit
    cases hvisit
  · rw [hrefresh] at hvisit
    cases hvisit
    exact hfollows.refresh hr hrefresh

lemma publishPlan_followed (hc : c.allocationStrategy.IsBuiltIn) (hkey : c.entityType = e)
    (membership : ClusterMembership) : Attempt.Ensures
      (fun s => Publishing Agrees e (c.reconcile membership).2 (Agrees c.snapshot) s.1)
      (publishPlan (ω := ω) region e (c.reconcile membership).1 (c.reconcile membership).2.snapshot)
      (fun s => Followed Agrees s.1) := by
  have hmoves : ∀ shard source target reason,
      .move shard source target reason ∈ (c.reconcile membership).1.decisions →
      shard.entityType = e ∧ (snapshotOwners c.snapshot)[shard.shardId]? = some source ∧
        (snapshotOwners (c.reconcile membership).2.snapshot)[shard.shardId]? = some target ∧
        source ≠ target := by
    intro shard source target reason hd
    rw [snapshotOwners_snapshot, snapshotOwners_snapshot, ← hkey]
    obtain ⟨b, hb⟩ := hc
    obtain ⟨hold, hnew⟩ := ShardCoordinator.draft_change_eq hb hd
    refine ⟨c.draft_about membership _ hd, hold, hnew, ?_⟩
    rintro rfl
    exact ShardCoordinator.draft_new_ne_old hd rfl
  have hhandoffs := applyGracefulHandoffs_publishing (ω := ω) hfollows
    (c.reconcile membership).2 hmoves
  have hpublish := publishSnapshot_publishing (ω := ω) hfollows (c.reconcile membership).2
    c.snapshot (c.reconcile membership).2.snapshot hkey
  unfold publishPlan
  refine .bind (fun s a t hs h => ?_) (fun _ => .bind hpublish (fun _ => ?_))
  · exact hhandoffs s a t (hs.mono (fun r hr => hfollows.leaves hr _)) h
  · intro s a t hs h
    cases h
    exact hs.followed

end

lemma Followed.congr {rt' : ClusterShardingRuntime ρ} (h : Followed Agrees rt)
    (hcoordinators : rt'.coordinators = rt.coordinators) (hregions : rt'.regions = rt.regions) :
    Followed Agrees rt' := by
  constructor
  · rw [hcoordinators]
    exact h.builtIn
  · rw [hcoordinators, hregions]
    exact h.agrees

lemma TokensOnly.followed {P : ω → ω → Prop} {s t : ClusterShardingRuntime ρ × ω}
    (h : TokensOnly P s t) (hs : Followed Agrees s.1) : Followed Agrees t.1 := by
  obtain ⟨tokens, w, -, rfl⟩ := h
  exact hs.congr rfl rfl

lemma Followed.publishing (h : Followed Agrees rt) {e : EntityType}
    (hc : rt.coordinators[e]? = some c) (membership : ClusterMembership) :
    Publishing Agrees e (c.reconcile membership).2 (Agrees c.snapshot)
      (rt.setCoordinator (c.reconcile membership).2) := by
  have hkey : (c.reconcile membership).2.entityType = e := rt.keyed e c hc
  have hlookup : ∀ e' : EntityType, (rt.setCoordinator (c.reconcile membership).2).coordinators[e']? =
      if e' = e then some (c.reconcile membership).2 else rt.coordinators[e']? := by
    intro e'
    rw [← hkey]
    exact BTreeMap.lookup_insert ..
  constructor
  · intro e' c' hc'
    rw [hlookup] at hc'
    split_ifs at hc' with he
    · rw [← Option.some.inj hc']
      exact h.builtIn e c hc
    · exact h.builtIn e' c' hc'
  · rw [hlookup, if_pos rfl]
  · intro e' rs he hrs r hr
    rw [hlookup, if_neg he]
    exact h.agrees e' rs hrs r hr
  · intro rs hrs r hr
    obtain ⟨c₁, hc₁, hagrees⟩ := h.agrees e rs hrs r hr
    rwa [← Option.some.inj (hc.symm.trans hc₁)] at hagrees

section
variable (hfollows : FollowsOwnership region Fresh Agrees Between) (env : CoordinatorEnv ω) (api : Api)
include hfollows

lemma reconcileEntity_followed (e : EntityType) :
    Attempt.Ensures (fun s => Followed Agrees s.1) (reconcileEntity region env api e)
      (fun s => Followed Agrees s.1) := by
  have hleader := ensureCoordinatorLeadership_keeps (ρ := ρ) (anyEnv_frame env.toLeaseEnv) e api
  unfold reconcileEntity
  refine .bind (hleader.ensures (fun s t h hs => h.followed hs)) (fun token => ?_)
  refine .get_bind (fun s hs b t h => ?_)
  dsimp only at h
  cases hc : s.1.coordinators[e]? with
  | none =>
    rw [hc] at h
    cases h
    exact hs
  | some c =>
    rw [hc] at h
    have hset : Attempt.Ensures (fun s' => s' = s)
        (modifyRuntime (fun rt => rt.setCoordinator (c.reconcile s.1.membership).2))
        (fun s' => Publishing Agrees e (c.reconcile s.1.membership).2 (Agrees c.snapshot) s'.1) := by
      refine Attempt.ensures_modify ?_
      rintro _ rfl
      exact hs.publishing hc _
    refine (hset.bind (R := fun s => Followed Agrees s.1) (fun _ => ?_)) s b t rfl h
    split_ifs with hplan
    · -- An empty plan leaves the coordinator as it is.
      intro s' b' t' hs' h'
      cases h'
      have hsame := ShardCoordinator.reconcile_of_isEmpty hplan
      exact (hs'.mono (fun r hr => hsame.symm ▸ hr)).followed
    · have hpersist := persistCoordinatorSnapshot_keeps (ρ := ρ) env api
        (c.reconcile s.1.membership).2.snapshot
        (c.reconcile s.1.membership).2.allocationStrategy.strategyName
        (c.reconcile s.1.membership).1.previousRevision token
      let P : ClusterShardingRuntime ρ × ω → Prop := fun s' =>
        Publishing Agrees e (c.reconcile s.1.membership).2 (Agrees c.snapshot) s'.1
      refine .bind (Q := P) (hpersist.ensures (fun s' t' h' hs' => ?_)) (fun _ => ?_)
      · have hsame : t'.1 = s'.1 := h'
        change Publishing ..
        rw [hsame]
        exact hs'
      refine .bind (Q := P) (Attempt.ensures_modify (fun s' hs' => ?_)) (fun _ =>
        publishPlan_followed hfollows (hs.builtIn e c hc) (s.1.keyed e c hc) s.1.membership)
      exact ⟨hs'.builtIn, hs'.coordinator, hs'.others, hs'.own⟩

lemma reconcileEntities_followed (es : List EntityType) :
    Attempt.Ensures (fun s => Followed Agrees s.1) (reconcileEntities region env api es)
      (fun s => Followed Agrees s.1) := by
  induction es with
  | nil => exact Attempt.ensures_pure _ _
  | cons e es ih =>
    refine .bind (reconcileEntity_followed hfollows env api e) (fun found => ?_)
    exact .bind ih (fun more => Attempt.ensures_pure _ _)

lemma update_followed (u : MembershipUpdate) :
    Attempt.Ensures (fun s => Followed Agrees s.1) (update region env api u)
      (fun s => Followed Agrees s.1) := by
  have hbegin := beginUpdate_keeps (ρ := ρ) env api u
  refine .bind (Q := fun s => Followed Agrees s.1) (hbegin.ensures (fun s t h hs => ?_))
    (fun events => ?_)
  · obtain ⟨m, rfl⟩ := h
    exact hs.congr rfl rfl
  · refine .get_bind (fun s hs b t h => ?_)
    exact (reconcileEntities_followed hfollows env api s.1.coordinators.keys).bind
      (fun found => Attempt.ensures_pure _ _) s b t hs h

lemma attachRegion_followed {r : ρ} (hr : Fresh r) :
    Attempt.Ensures (fun s => Followed Agrees s.1) (attachRegion (ω := ω) region r)
      (fun s => Followed Agrees s.1) := by
  intro s a t hs h
  unfold attachRegion at h
  cases hc : s.1.coordinators[region.entityType r]? with
  | none =>
    rw [hc] at h
    cases h
    exact hs
  | some c =>
    rw [hc] at h
    dsimp only at h
    obtain ⟨last, hbetween⟩ := hfollows.starts hr c.snapshot
    rcases hrefresh : region.refreshOwnership c.snapshot r with ⟨x | ⟨⟩, r'⟩
    · rw [hrefresh] at h
      cases h
    · rw [hrefresh] at h
      cases h
      refine ⟨hs.builtIn, fun e rs hrs r₁ hr₁ => ?_⟩
      change (s.1.regions.insert (region.entityType r) _)[e]? = some rs at hrs
      rw [BTreeMap.lookup_insert] at hrs
      split_ifs at hrs with he
      · subst he
        rw [← Option.some.inj hrs, mem_append, mem_singleton] at hr₁
        rcases hr₁ with hr₁ | rfl
        · cases hold : s.1.regions[region.entityType r]? with
          | none =>
            rw [hold] at hr₁
            cases hr₁
          | some rs₀ =>
            rw [hold] at hr₁
            exact hs.agrees _ rs₀ hold r₁ hr₁
        · exact ⟨c, hc, hfollows.refresh hbetween hrefresh⟩
      · exact hs.agrees e rs hrs r₁ hr₁

end

lemma initialCoordinator_strategy {r : ρ} {loaded : Option PersistedShardCoordinatorState}
    (hc : initialCoordinator region r loaded = .ok c) :
    c.allocationStrategy = region.allocationStrategy r := by
  cases loaded with
  | none =>
    cases hc
    rfl
  | some =>
    unfold initialCoordinator ShardCoordinator.fromSnapshotWithAllocationStrategyRef at hc
    dsimp only at hc
    split_ifs at hc
    split at hc
    · cases hc
    · cases hc
      rfl

lemma Followed.installed (h : Followed Agrees rt) (hc : c.allocationStrategy.IsBuiltIn)
    (hnew : rt.coordinators[c.entityType]? = none) : Followed Agrees (rt.installed c) := by
  have hlookup : ∀ e : EntityType, (rt.installed c).coordinators[e]? =
      if e = c.entityType then some (c.reconcile rt.membership).2 else rt.coordinators[e]? :=
    fun e => BTreeMap.lookup_insert ..
  constructor
  · intro e c' hc'
    rw [hlookup] at hc'
    split_ifs at hc' with he
    · rw [← Option.some.inj hc']
      exact hc
    · exact h.builtIn e c' hc'
  · intro e rs hrs r hr
    obtain ⟨c', hc', hagrees⟩ := h.agrees e rs hrs r hr
    refine ⟨c', ?_, hagrees⟩
    rw [hlookup, if_neg, hc']
    rintro rfl
    cases hnew.symm.trans hc'

section
variable (env : CoordinatorEnv ω) (api : Api)
variable {r : ρ}

variable (Agrees) in
lemma installCoordinator_followed (hbuiltIn : (region.allocationStrategy r).IsBuiltIn)
    (token : Option LeaseToken) (loaded : Option PersistedShardCoordinatorState) : Attempt.Ensures
      (fun s => Followed Agrees s.1 ∧ s.1.coordinators[region.entityType r]? = none)
      (installCoordinator region env api r token loaded) (fun s => Followed Agrees s.1) := by
  rintro ⟨rt, w⟩ a t ⟨hs, hnone⟩ h
  have hstep := installCoordinator_step region env api r token loaded rt w
  rw [h] at hstep
  have hinstalled (c : ShardCoordinator) (hc : initialCoordinator region r loaded = .ok c) :
      Followed Agrees (rt.installed c) := by
    refine hs.installed ?_ ?_
    · rw [initialCoordinator_strategy hc]
      exact hbuiltIn
    · rw [initialCoordinator_entityType region hc]
      exact hnone
  cases hstep with
  | unchanged c hc | written c w₂ hc => exact hinstalled c hc

lemma registerRegion_followed (hfollows : FollowsOwnership region Fresh Agrees Between)
    (hr : Fresh r) (hbuiltIn : (region.allocationStrategy r).IsBuiltIn) :
    Attempt.Ensures (fun s => Followed Agrees s.1) (registerRegion region env api r)
      (fun s => Followed Agrees s.1) := by
  rintro ⟨rt, w⟩ a t hs h
  have hkeeps := beginRegistration_keeps region env api (anyEnv_frame env.toLeaseEnv)
    (fun _ _ => trivial) r (rt, w)
  unfold registerRegion at h
  rcases hbegin : beginRegistration region env api r (rt, w) with ⟨f | _ | ⟨token, loaded⟩, rt₁, w₁⟩
  · rw [Attempt.bind_apply, hbegin] at h
    cases h
  · rw [hbegin] at hkeeps
    rw [Attempt.bind_apply, hbegin] at h
    exact attachRegion_followed hfollows hr (rt₁, w₁) a t (hkeeps.followed hs) h
  · rw [hbegin] at hkeeps
    rw [Attempt.bind_apply, hbegin] at h
    have hnone := (beginRegistration_some region env api (anyEnv_frame env.toLeaseEnv) hbegin).1
    have hinstall := installCoordinator_followed Agrees env api hbuiltIn token loaded
    refine hinstall.bind (fun _ => attachRegion_followed hfollows hr) (rt₁, w₁) a t
      ⟨hkeeps.followed hs, ?_⟩ h
    obtain ⟨tokens, w₂, -, hrt⟩ := hkeeps
    rw [(Prod.mk.inj hrt).1]
    exact hnone

end
end ClusterShardingRuntime

namespace RuntimeOp
open ClusterShardingRuntime
variable {ρ ω : Type} (region : RegisteredShardRegion ρ) (env : CoordinatorEnv ω)
  {Fresh : ρ → Prop} {Agrees : ShardOwnershipSnapshot → ρ → Prop}
  {Between : ShardOwnershipSnapshot → ShardOwnershipSnapshot → ρ → Prop}

variable (Fresh) in
/-- The call returns, and a region it registers is fresh and uses a built-in strategy. -/
def Succeeds (s : ClusterShardingRuntime ρ × ω) (op : RuntimeOp ρ) : Prop :=
  (op.call region env s).1 = .ok () ∧
    ∀ api r, op = .register api r → Fresh r ∧ (region.allocationStrategy r).IsBuiltIn

lemma call_followed (hfollows : FollowsOwnership region Fresh Agrees Between)
    {s : ClusterShardingRuntime ρ × ω} (hs : s.1.Followed Agrees) {op : RuntimeOp ρ}
    (hop : Succeeds region env Fresh s op) : (op.call region env s).2.1.Followed Agrees := by
  have hcall : op.call region env s = (.ok (), (op.call region env s).2) := by
    rw [← hop.1]
  cases op with
  | register api r =>
    obtain ⟨hfresh, hbuiltIn⟩ := hop.2 api r rfl
    exact registerRegion_followed env api hfollows hfresh hbuiltIn s () _ hs
      hcall
  | update api u =>
    have hupdate := update_followed hfollows env api u
    exact (hupdate.bind (fun _ => Attempt.ensures_pure _ _)) s () _ hs hcall
  | renewLeases =>
    exact (renewCoordinatorLeases_keeps env (anyEnv_frame env.toLeaseEnv) s).followed hs
  | releaseLeases =>
    exact (releaseCoordinatorLeases_keeps env (anyEnv_frame env.toLeaseEnv) s).followed hs

end RuntimeOp
end Rakka.Sharding
