import Rakka.Cluster.MembershipChanges
import Rakka.Sharding.RefusedUpdate

/-! The minimum of contact points. Members are promoted only while enough are known; one that was
never promoted can still come up by falling silent and being heard of again. Without such members,
every member that comes up, and every node that owns a shard, does so after the minimum was reached.
-/

namespace Rakka.Sharding
open Cluster Foundation ClusterMembership
variable {n : NodeId} {m : ClusterMembership} {k : ShardId}
variable {entityType : EntityType} {config : ShardingConfig} {strategy : ShardAllocationStrategy}
  {membership : ClusterMembership} {routableNodes : List NodeId}

def Reached (m : ClusterMembership) (n : NodeId) : Prop :=
  m.InState (fun s => s = .up ∨ s = .unreachable) n

lemma IsUp.reached (h : IsUp m n) : Reached m n := by
  obtain ⟨r, hr, hup⟩ := h
  exact ⟨r, hr, .inl hup⟩

section
variable {m' : ClusterMembership}
variable {isAllowed : MembershipState → Bool}

def StaysReached (r : MemberRecord) (state : MembershipState) : Prop :=
  (state = .up ∨ state = .unreachable) → (r.state = .up ∨ r.state = .unreachable)

lemma Reached.of_changes (h : Changes StaysReached m m') (hn : Reached m' n) : Reached m n :=
  Changes.inState_of (by decide) (fun _ _ h => h) h hn

lemma Reached.of_promotions (h : Changes (MovesTo .up isAllowed) m m') (hn : Reached m' n) :
    Reached m n ∨ IsUp m' n := by
  obtain ⟨r, hr, hup | hunreachable⟩ := hn
  · exact .inr ⟨r, hr, hup⟩
  · have hmove (r : MemberRecord) (state : MembershipState) (hr : MovesTo .up isAllowed r state)
        (hstate : state = .unreachable) : r.state = .unreachable := by
      cases hr.2.symm.trans hstate
    obtain ⟨r₀, hr₀, hstate₀⟩ := Changes.inState_of (by decide) hmove h ⟨r, hr, hunreachable⟩
    exact .inl ⟨r₀, hr₀, .inr hstate₀⟩

def IsContact (m : ClusterMembership) (n : NodeId) : Prop :=
  m.InState (fun s => s.isDownOrRemoved = false) n

def contacts (m : ClusterMembership) : List NodeId :=
  (m.members.toList.filter (fun p => !p.2.state.isDownOrRemoved)).map Prod.fst

lemma mem_contacts : n ∈ contacts m ↔ IsContact m n := by
  simp [contacts, IsContact, InState, member, Std.ExtTreeMap.mem_toList_iff_getElem?_eq_some]

lemma hasMinContactPoints_iff :
    m.hasMinContactPoints = true ↔ m.config.minContactPoints ≤ (contacts m).length := by
  simp only [hasMinContactPoints, contacts, decide_eq_true_eq, List.length_map,
    BTreeMap.valuesInOrder, List.filter_map]
  rfl

lemma contacts_nodup (m : ClusterMembership) : (contacts m).Nodup := by
  rw [contacts, List.Nodup, List.pairwise_map]
  exact ((BTreeMap.toList_pairwise_lt m.members).filter _).imp ne_of_lt

lemma hasMinContactPoints_mono (hm : m.hasMinContactPoints = true)
    (hconfig : m'.config = m.config) (hcontacts : ∀ n, IsContact m n → IsContact m' n) :
    m'.hasMinContactPoints = true := by
  rw [hasMinContactPoints_iff] at hm ⊢
  have hsubset : contacts m ⊆ contacts m' :=
    fun n hn => mem_contacts.mpr (hcontacts n (mem_contacts.mp hn))
  rw [hconfig]
  exact hm.trans ((contacts_nodup m).subperm hsubset).length_le

lemma IsContact.promotions (h : Changes (MovesTo .up isAllowed) m m') (hn : IsContact m n) :
    IsContact m' n := by
  refine Changes.inState (fun r state hr _ => ?_) h hn
  rw [hr.2]
  rfl

end

section
variable (m : ClusterMembership)

lemma markUpAll_changes (observedAtMillis : ℕ) (ids : List NodeId) (events : List MembershipEvent) :
    Changes (MovesTo .up (fun s => s = .joining || s = .unreachable)) m
      (markUpAll observedAtMillis m ids events).2 := by
  induction ids generalizing m events with
  | nil => exact .refl
  | cons id ids ih =>
    have hfirst := m.transition_changes id observedAtMillis .up
      (fun s => s = .joining || s = .unreachable) .memberUp
    unfold markUpAll markUp
    generalize m.transition id observedAtMillis .up _ _ = out at hfirst ⊢
    rcases out with ⟨e | event, m'⟩
    · exact hfirst
    · exact hfirst.trans (ih m' _)

lemma promoteJoiningMembers_reached (observedAtMillis : ℕ)
    (hn : Reached (promoteJoiningMembers m observedAtMillis).2 n) :
    Reached m n ∨ IsUp (promoteJoiningMembers m observedAtMillis).2 n ∧
      (promoteJoiningMembers m observedAtMillis).2.hasMinContactPoints = true := by
  unfold promoteJoiningMembers at hn ⊢
  by_cases hmin : m.hasMinContactPoints = true
  · rw [hmin] at hn ⊢
    have hchanges := markUpAll_changes m observedAtMillis ((m.members.valuesInOrder.filter
      (fun r => decide (r.state = .joining))).map (·.node.id)) []
    refine (hn.of_promotions hchanges).imp_right (fun hup => ⟨hup, ?_⟩)
    exact hasMinContactPoints_mono hmin (Changes.settings_eq hchanges).1 (fun k => .promotions hchanges)
  · rw [Bool.not_eq_true] at hmin
    rw [hmin] at hn
    exact .inl hn

lemma MovesTo.staysReached {target : MembershipState} {isAllowed : MembershipState → Bool}
    (hallowed : ∀ s, isAllowed s = true → target = .up ∨ target = .unreachable →
      s = .up ∨ s = .unreachable) (r : MemberRecord) (state : MembershipState)
    (h : MovesTo target isAllowed r state) : StaysReached r state := by
  rw [StaysReached, h.2]
  exact hallowed r.state h.1

end

def MembershipUpdate.SparesJoining (m : ClusterMembership) : MembershipUpdate → Prop
  | tick nowMillis => ∀ p ∈ m.members.toList, p.2.state = .joining → ¬ m.Silent nowMillis p.2
  | _ => True

instance (m : ClusterMembership) (nowMillis : ℕ) (r : MemberRecord) :
    Decidable (m.Silent nowMillis r) := inferInstanceAs (Decidable (_ ∧ _))

instance (m : ClusterMembership) : ∀ u : MembershipUpdate, Decidable (u.SparesJoining m)
  | .tick _ => inferInstanceAs (Decidable (∀ _ ∈ _, _))
  | .applyDiscovery _ | .heartbeat _ _ | .markLeaving _ _ | .markDown _ _ => isTrue trivial

lemma Detects.staysReached {nowMillis : ℕ}
    (hspares : (MembershipUpdate.tick nowMillis).SparesJoining m) (r : MemberRecord)
    (state : MembershipState) (h : Detects m nowMillis r state) : StaysReached r state := by
  intro hstate
  rcases h with ⟨hjoining | hup, rfl, hsilent, hmember⟩ | ⟨hunreachable, rfl⟩
  · have hmem := Std.ExtTreeMap.mem_toList_iff_getElem?_eq_some.mpr hmember
    exact absurd hsilent (hspares (r.node.id, r) hmem hjoining)
  · exact .inl hup
  · exact .inr hunreachable

theorem MembershipUpdate.apply_reached {u : MembershipUpdate} (hspares : u.SparesJoining m)
    (hn : Reached (u.apply m).2 n) :
    Reached m n ∨ IsUp (u.apply m).2 n ∧ (u.apply m).2.hasMinContactPoints = true := by
  have hcalm {m' : ClusterMembership} {target : MembershipState}
      {isAllowed : MembershipState → Bool} (hchanges : Changes (MovesTo target isAllowed) m m')
      (hallowed : ∀ s, isAllowed s = true → target = .up ∨ target = .unreachable →
        s = .up ∨ s = .unreachable) (hn : Reached m' n) : Reached m n :=
    hn.of_changes (hchanges.mono (MovesTo.staysReached hallowed))
  cases u with
  | applyDiscovery snapshot =>
    have hdiscovery := m.recordDiscovery_changes snapshot
    simp only [apply] at hn ⊢
    generalize m.recordDiscovery snapshot = out at hdiscovery hn ⊢
    rcases out with ⟨e | events, m₁⟩
    · exact .inl (hcalm hdiscovery (by decide) hn)
    · have hpromoted := promoteJoiningMembers_reached m₁ snapshot.observedAtMillis (n := n)
      dsimp only at hn ⊢
      generalize promoteJoiningMembers m₁ snapshot.observedAtMillis = out at hpromoted hn ⊢
      rcases out with ⟨e | promoted, m₂⟩
      · exact (hpromoted hn).imp_left (hcalm hdiscovery (by decide))
      · exact (hpromoted hn).imp_left (hcalm hdiscovery (by decide))
  | heartbeat nodeId observedAtMillis =>
    have hsame : (apply m (heartbeat nodeId observedAtMillis)).2 =
        (m.heartbeat nodeId observedAtMillis).2 := by
      simp only [apply]
      rcases m.heartbeat nodeId observedAtMillis with ⟨e | event, m₁⟩ <;> rfl
    rw [hsame] at hn
    exact .inl (hcalm (m.heartbeat_changes ..) (by decide) hn)
  | markLeaving nodeId observedAtMillis =>
    have hsame : (apply m (markLeaving nodeId observedAtMillis)).2 =
        (m.markLeaving nodeId observedAtMillis).2 := by
      simp only [apply]
      rcases m.markLeaving nodeId observedAtMillis with ⟨e | event, m₁⟩ <;> rfl
    rw [hsame] at hn
    exact .inl (hcalm (m.transition_changes ..) (by decide) hn)
  | markDown nodeId observedAtMillis =>
    have hsame : (apply m (markDown nodeId observedAtMillis)).2 =
        (m.markDown nodeId observedAtMillis).2 := by
      simp only [apply]
      rcases m.markDown nodeId observedAtMillis with ⟨e | event, m₁⟩ <;> rfl
    rw [hsame] at hn
    exact .inl (hcalm (m.transition_changes ..) (by decide) hn)
  | tick nowMillis =>
    exact .inl (hn.of_changes ((m.tick_changes nowMillis).mono (Detects.staysReached hspares)))

lemma allocatedOwner_routable {assignments : BTreeMap ShardId NodeId}
    (h : allocatedOwner entityType config strategy membership routableNodes assignments k = some n)
    : n ∈ routableNodes := by
  unfold allocatedOwner at h
  split at h
  next owner hkept =>
    cases h
    simpa [isRoutableNode] using (Option.filter_eq_some_iff.mp hkept).2
  · simpa [isRoutableNode] using (Option.filter_eq_some_iff.mp h).2

def LiveAt (routableNodes : List NodeId) (draft : PlanDraft) (k : ShardId) : Prop :=
  ∀ n, draft.assignments[k]? = some n → n ∈ routableNodes

lemma reassignPass_liveAt {draft : PlanDraft} (h : LiveAt routableNodes draft k) :
    LiveAt routableNodes
      (reassignPass entityType config strategy membership routableNodes draft) k := by
  refine List.foldlRecOn
    (motive := fun acc : PlanDraft × Finset ShardId => LiveAt routableNodes acc.1 k) _ _ h ?_
  intro acc hacc r _ n hn
  rw [(reassignStep_recorded ..).lookup k] at hn
  split_ifs at hn with hk hskip
  · exact hacc n (hk ▸ hn)
  · rw [← Option.some.inj hn]
    exact not_not.mp (fun hnot => hskip (.inr (.inr hnot)))
  · exact hacc n hn

theorem ShardCoordinator.reconcile_live (c : ShardCoordinator) (membership : ClusterMembership)
    (h : (c.reconcile membership).2.assignments[k]? = some n) : IsUp membership n := by
  have hlt : k < c.config.numberOfShards := (c.reconcile membership).2.inRange k n h
  have hdraft : (c.reconcile membership).2.assignments =
      (reconcileDraft c.entityType c.config c.allocationStrategy membership
        membership.routableNodes c.assignments).assignments := rfl
  rw [hdraft, reconcileDraft] at h
  split_ifs at h
  · simp at h
  · have hallocated : LiveAt membership.routableNodes (allocatePass c.entityType c.config
        c.allocationStrategy membership membership.routableNodes c.assignments) k := by
      refine foldl_forall_mem (P := LiveAt membership.routableNodes) (fun draft a b hb n hn => ?_)
        (fun draft a n hn => ?_) _ _ k (List.mem_range.mpr hlt)
      · rw [(allocateStep_recorded ..).lookup b] at hn
        split_ifs at hn
        · exact allocatedOwner_routable hn
        · exact hb n hn
      · rw [(allocateStep_recorded ..).lookup a, if_pos rfl] at hn
        exact allocatedOwner_routable hn
    exact (membership.mem_routableNodes n).mp (reassignPass_liveAt hallocated n h)

namespace ClusterShardingRuntime
variable {ρ ω : Type}
variable {s t : ClusterShardingRuntime ρ × ω}

def Owns (rt : ClusterShardingRuntime ρ) (n : NodeId) : Prop :=
  ∃ (e : EntityType) (c : ShardCoordinator) (k : ShardId), rt.coordinators[e]? = some c ∧
    c.assignments[k]? = some n

/-- The membership is kept, and shards are only given to members that are up. -/
def Reassigns (s t : ClusterShardingRuntime ρ × ω) : Prop :=
  t.1.membership = s.1.membership ∧ ∀ n, t.1.Owns n → IsUp t.1.membership n ∨ s.1.Owns n

lemma Reassigns.trans (s t u : ClusterShardingRuntime ρ × ω) (h : Reassigns s t)
    (h' : Reassigns t u) : Reassigns s u := by
  refine ⟨h'.1.trans h.1, fun n hn => ?_⟩
  rcases h'.2 n hn with hup | howns
  · exact .inl hup
  · exact (h.2 n howns).imp_left (fun hup => h'.1.symm ▸ hup)

lemma reassigns_of_same (hmembership : t.1.membership = s.1.membership)
    (hcoordinators : t.1.coordinators = s.1.coordinators) : Reassigns s t := by
  refine ⟨hmembership, fun n hn => .inr ?_⟩
  rw [Owns, hcoordinators] at hn
  exact hn

lemma reassigns_of_set (c : ShardCoordinator) (hmembership : t.1.membership = s.1.membership)
    (hcoordinators : t.1.coordinators = s.1.coordinators.insert c.entityType
      (c.reconcile s.1.membership).2) : Reassigns s t := by
  refine ⟨hmembership, fun n hn => ?_⟩
  obtain ⟨e, c', k, hc', hk⟩ := hn
  rw [hcoordinators, BTreeMap.lookup_insert] at hc'
  split_ifs at hc'
  · cases hc'
    rw [hmembership]
    exact .inl (c.reconcile_live s.1.membership hk)
  · exact .inr ⟨e, c', k, hc', hk⟩

section
variable (region : RegisteredShardRegion ρ) (env : CoordinatorEnv ω) (api : Api)

lemma reconcileEntity_reassigns (e : EntityType) :
    Attempt.Keeps Reassigns (reconcileEntity region env api e) := by
  rintro ⟨rt, w⟩
  have hstep := reconcileEntity_step region env api (anyEnv_frame env.toLeaseEnv) e rt w
  generalize reconcileEntity region env api e (rt, w) = out at hstep
  cases hstep with
  | refusedLease | unregistered => exact reassigns_of_same rfl rfl
  | unchanged c | refusedWrite c | refusedRegion c | published c => exact reassigns_of_set c rfl rfl

lemma reconcileEntities_reassigns (es : List EntityType) :
    Attempt.Keeps Reassigns (reconcileEntities region env api es) := by
  induction es with
  | nil => exact fun s => reassigns_of_same rfl rfl
  | cons e es ih =>
    refine .bind Reassigns.trans (reconcileEntity_reassigns region env api e) (fun found => ?_)
    exact .bind Reassigns.trans ih (fun more s => reassigns_of_same rfl rfl)

lemma reconcileAndPublish_reassigns (events : List MembershipEvent) :
    Attempt.Keeps Reassigns (reconcileAndPublish region env api events) := by
  rintro ⟨rt, w⟩
  rw [reconcileAndPublish_apply]
  exact Attempt.Keeps.bind Reassigns.trans
    (reconcileEntities_reassigns region env api rt.coordinators.keys)
    (fun found s => reassigns_of_same rfl rfl) (rt, w)

lemma TokensOnly.reassigns {P : ω → ω → Prop} (h : TokensOnly P s t) : Reassigns s t := by
  obtain ⟨tokens, w, -, rfl⟩ := h
  exact reassigns_of_same rfl rfl

lemma attachRegion_reassigns (r : ρ) : Attempt.Keeps Reassigns (attachRegion (ω := ω) region r) := by
  intro s
  rcases attachRegion_spec region r s with ⟨f, -, h⟩ | ⟨-, h⟩ | ⟨rs, c, -, h⟩ <;> rw [h] <;>
    exact reassigns_of_same rfl rfl

lemma registerRegion_reassigns (r : ρ) :
    Attempt.Keeps Reassigns (registerRegion region env api r) := by
  refine .bind Reassigns.trans (fun s => ?_) (fun begun => ?_)
  · exact (beginRegistration_keeps region env api (anyEnv_frame env.toLeaseEnv)
      (fun _ _ => trivial) r s).reassigns
  · rcases begun with _ | ⟨token, loaded⟩
    · exact attachRegion_reassigns region r
    · refine .bind Reassigns.trans ?_ (fun _ => attachRegion_reassigns region r)
      rintro ⟨rt, w⟩
      have hstep := installCoordinator_step region env api r token loaded rt w
      generalize installCoordinator region env api r token loaded (rt, w) = out at hstep
      cases hstep with
      | invalid | refused => exact reassigns_of_same rfl rfl
      | unchanged c | written c => exact reassigns_of_set c rfl rfl

end

/-- What an update does to the membership, and that shards only go to members that are up. -/
structure Advances (u : MembershipUpdate) (s t : ClusterShardingRuntime ρ × ω) : Prop where
  membership : t.1.membership = s.1.membership ∨ t.1.membership = (u.apply s.1.membership).2
  owners : ∀ n, t.1.Owns n → IsUp t.1.membership n ∨ s.1.Owns n

lemma Advances.reassigns {u : MembershipUpdate} {t' : ClusterShardingRuntime ρ × ω}
    (h : Advances u s t) (h' : Reassigns t t') : Advances u s t' := by
  constructor
  · rw [h'.1]
    exact h.membership
  · intro n hn
    rcases h'.2 n hn with hup | howns
    · exact .inl hup
    · exact (h.owners n howns).imp_left (fun hup => h'.1.symm ▸ hup)

lemma beginUpdate_advances (env : CoordinatorEnv ω) (api : Api) (u : MembershipUpdate) :
    Attempt.Keeps (Advances u) (beginUpdate (ρ := ρ) env api u) := by
  intro s
  have hapi : (ensureApi env api s).2 = s := by
    cases api with
    | sync => exact ensureSyncApi_state env s
    | async => rfl
  unfold beginUpdate
  rcases Attempt.bind_cases (ensureApi env api) (fun _ => applyMembershipUpdate u) s with
    ⟨f, t, ht, hs⟩ | ⟨_, t, ht, hs⟩
  · rw [ht] at hapi
    rw [hs, hapi]
    exact ⟨.inl rfl, fun n hn => .inr hn⟩
  · rw [ht] at hapi
    subst hapi
    rw [hs]
    unfold applyMembershipUpdate
    split
    next e m hm =>
      refine ⟨.inr ?_, fun n hn => .inr hn⟩
      rw [hm]
    next events m hm =>
      refine ⟨.inr ?_, fun n hn => .inr hn⟩
      rw [hm]

lemma update_advances (region : RegisteredShardRegion ρ) (env : CoordinatorEnv ω) (api : Api)
    (u : MembershipUpdate) : Attempt.Keeps (Advances u) (update region env api u) := by
  intro s
  have hbegin := beginUpdate_advances env api u s
  unfold update
  rcases Attempt.bind_cases (beginUpdate env api u) (reconcileAndPublish region env api) s with
    ⟨f, t, ht, hs⟩ | ⟨events, t, ht, hs⟩
  · rw [ht] at hbegin
    rw [hs]
    exact hbegin
  · rw [ht] at hbegin
    rw [hs]
    exact hbegin.reassigns (reconcileAndPublish_reassigns region env api events t)

end ClusterShardingRuntime

namespace RuntimeOp
open ClusterShardingRuntime
variable {ρ ω : Type} (region : RegisteredShardRegion ρ) (env : CoordinatorEnv ω)
variable {s : ClusterShardingRuntime ρ × ω}

def SparesJoining (s : ClusterShardingRuntime ρ × ω) : RuntimeOp ρ → Prop
  | update _ u => u.SparesJoining s.1.membership
  | _ => True

instance decidableSparesJoining (s : ClusterShardingRuntime ρ × ω) :
    ∀ op, Decidable (SparesJoining s op)
  | .update _ u => inferInstanceAs (Decidable (u.SparesJoining s.1.membership))
  | .register _ _ | .renewLeases | .releaseLeases => isTrue trivial

/-- Who is newly reached is up with enough contact points known, and shards go to members that are
up. -/
theorem call_gated {op : RuntimeOp ρ} (hspares : op.SparesJoining s) (n : NodeId) :
    let t := (op.call region env s).2
    (Reached t.1.membership n → Reached s.1.membership n ∨
      IsUp t.1.membership n ∧ t.1.membership.hasMinContactPoints = true) ∧
    (t.1.Owns n → IsUp t.1.membership n ∨ s.1.Owns n) := by
  intro t
  have hkept (h : Reassigns s t) : (Reached t.1.membership n → Reached s.1.membership n ∨
      IsUp t.1.membership n ∧ t.1.membership.hasMinContactPoints = true) ∧
      (t.1.Owns n → IsUp t.1.membership n ∨ s.1.Owns n) :=
    ⟨fun hn => .inl (h.1 ▸ hn), h.2 n⟩
  cases op with
  | register api r => exact hkept (registerRegion_reassigns region env api r s)
  | update api u =>
    have hadvances := update_advances region env api u s
    rw [← Attempt.bind_pure_state _ () s] at hadvances
    refine ⟨fun hn => ?_, hadvances.owners n⟩
    rcases hadvances.membership with hsame | hsame
    · exact .inl (hsame ▸ hn)
    · have happly := MembershipUpdate.apply_reached hspares (n := n)
      rw [← hsame] at happly
      exact happly hn
  | renewLeases =>
    exact hkept (renewCoordinatorLeases_keeps env (anyEnv_frame env.toLeaseEnv) s).reassigns
  | releaseLeases =>
    exact hkept (releaseCoordinatorLeases_keeps env (anyEnv_frame env.toLeaseEnv) s).reassigns

def WasUp (s : ClusterShardingRuntime ρ × ω) (ops : List (RuntimeOp ρ)) (n : NodeId) : Prop :=
  ∃ k t, runFrom (step region env) s (ops.take k) = some t ∧ IsUp t.1.membership n

theorem run_wasUp {t : ClusterShardingRuntime ρ × ω} {ops : List (RuntimeOp ρ)}
    (hspares : StepsMeet (step region env) SparesJoining s ops)
    (hrun : runFrom (step region env) s ops = some t) (hn : Reached t.1.membership n ∨ t.1.Owns n) :
    (Reached s.1.membership n ∨ s.1.Owns n) ∨ WasUp region env s ops n := by
  induction ops generalizing s with
  | nil =>
    cases hrun
    exact .inl hn
  | cons op ops ih =>
    obtain ⟨u, hu, hrest⟩ := Option.bind_eq_some_iff.mp hrun
    have hgated := call_gated region env hspares.1 n
    rw [← Option.some.inj (hu : some _ = some u)] at hrest
    have hlater {k : ℕ} {v : ClusterShardingRuntime ρ × ω}
        (hv : runFrom (step region env) (op.call region env s).2 (ops.take k) = some v)
        (hup : IsUp v.1.membership n) : WasUp region env s (op :: ops) n := by
      refine ⟨k + 1, v, ?_, hup⟩
      rw [List.take_succ_cons]
      exact hv
    have hnow (hup : IsUp (op.call region env s).2.1.membership n) :
        WasUp region env s (op :: ops) n := hlater (k := 0) rfl hup
    rcases ih (hspares.2 _ rfl) hrest with (hreached | howns) | ⟨k, v, hv, hup⟩
    · rcases hgated.1 hreached with hbefore | ⟨hup, -⟩
      · exact .inl (.inl hbefore)
      · exact .inr (hnow hup)
    · rcases hgated.2 howns with hup | hbefore
      · exact .inr (hnow hup)
      · exact .inl (.inr hbefore)
    · exact .inr (hlater hv hup)

lemma new_unreached (localNode : ClusterNode) (config : MembershipConfig) (n : NodeId) :
    ¬ Reached (.new localNode config) n := by
  rintro ⟨r, hr, hstate⟩
  have hmember : (ClusterMembership.new localNode config).member n =
      if n = localNode.id then some ⟨localNode, .joining, 0, 0⟩ else none :=
    BTreeMap.lookup_insert ..
  rw [hmember] at hr
  split_ifs at hr
  cases hr
  rcases hstate with hstate | hstate <;> cases hstate

/-- A run in which no joining member falls silent: when a member comes up for the first time, or
a node that never was up owns a shard, the minimum of contact points is known. -/
theorem first_up_hasMinContactPoints (localNode : ClusterNode) (config : MembershipConfig)
    (store : CoordinatorStoreMode) (lease : CoordinatorLeaseMode) (w : ω)
    (ops : List (RuntimeOp ρ)) (op : RuntimeOp ρ) (s t : ClusterShardingRuntime ρ × ω)
    (hrun : runFrom (step region env) (.new (.new localNode config) store lease, w) ops = some s)
    (hstep : step region env s op = some t) (hspares : StepsMeet (step region env) SparesJoining
      (.new (.new localNode config) store lease, w) ops) (hlast : op.SparesJoining s) (n : NodeId)
    (hnever : ∀ k u, runFrom (step region env) (.new (.new localNode config) store lease, w)
      (ops.take k) = some u → ¬ IsUp u.1.membership n) :
    (IsUp t.1.membership n → t.1.membership.hasMinContactPoints = true) ∧
    (∀ (e : EntityType) (c : ShardCoordinator) (k : ShardId), t.1.coordinators[e]? = some c →
      c.assignments[k]? = some n → t.1.membership.hasMinContactPoints = true) := by
  have hbefore : ¬ (Reached s.1.membership n ∨ s.1.Owns n) := by
    intro hn
    rcases run_wasUp region env hspares hrun hn with (hreached | ⟨e, c, k, hc, -⟩) | ⟨k, u, hu, hup⟩
    · exact new_unreached localNode config n hreached
    · cases hc
    · exact hnever k u hu hup
  have hgated := call_gated region env hlast n
  rw [← Option.some.inj (hstep : some _ = some t)]
  have hup (h : IsUp (op.call region env s).2.1.membership n) :
      (op.call region env s).2.1.membership.hasMinContactPoints = true := by
    rcases hgated.1 h.reached with hreached | ⟨-, hmin⟩
    · exact absurd (.inl hreached) hbefore
    · exact hmin
  refine ⟨hup, fun e c k hc hk => ?_⟩
  rcases hgated.2 ⟨e, c, k, hc, hk⟩ with h | howns
  · exact hup h
  · exact absurd (.inr howns) hbefore

theorem pair_up_with_two_contacts :
    let start : ClusterShardingRuntime Unit × ℕ := (.new (.new nodeA ⟨2, 10, 30⟩) .none .none, 0)
    let registered := ((register .sync ()).call cartRegion (countingEnv 0) start).2
    let up := ((update .sync (.applyDiscovery (.new "static" 1 [nodeA, nodeB]))).call cartRegion
      (countingEnv 0) registered).2
    IsUp up.1.membership nodeB.id ∧ up.1.membership.hasMinContactPoints = true := by
  intro start registered up
  have hup : IsUp up.1.membership nodeB.id :=
    (up.1.membership.mem_routableNodes _).mp (by decide +kernel)
  have hstart : nodeB.id ∉ start.1.membership.routableNodes := by decide +kernel
  have hregistered : nodeB.id ∉ registered.1.membership.routableNodes := by decide +kernel
  refine ⟨hup, (first_up_hasMinContactPoints cartRegion (countingEnv 0) nodeA ⟨2, 10, 30⟩ .none .none
    0 [register .sync ()] _ registered up rfl rfl ⟨trivial, fun _ _ => trivial⟩ trivial nodeB.id
    (fun k u hu hup => ?_)).1 hup⟩
  have hroutable := (u.1.membership.mem_routableNodes _).mpr hup
  rcases k with _ | k
  · rw [← Option.some.inj hu] at hroutable
    exact hstart hroutable
  · rw [List.take_succ_cons, List.take_nil] at hu
    rw [← Option.some.inj hu] at hroutable
    exact hregistered hroutable

def silentJoinerOps : List (RuntimeOp Unit) :=
  [register .sync (), update .sync (.applyDiscovery (.new "static" 1 [nodeB])),
    update .sync (.tick 20), update .sync (.heartbeat nodeB.id 21)]

/-- Two of three required contact points are known, and yet the second member comes up, without
ever having been promoted, and owns a shard. -/
theorem silent_joiner_bypasses_minimum :
    let run := fun k => runFrom (step cartRegion (countingEnv 0))
      (.new (.new nodeA ⟨3, 10, 30⟩) .none .none, 0) (silentJoinerOps.take k)
    (∀ k < 4, (run k).map (fun s => decide (nodeB.id ∈ s.1.membership.routableNodes)) =
      some false) ∧
    ∃ s c, run 4 = some s ∧ IsUp s.1.membership nodeB.id ∧
      s.1.membership.hasMinContactPoints = false ∧
      s.1.coordinators[(⟨"cart"⟩ : EntityType)]? = some c ∧
      c.assignments[(0 : ShardId)]? = some nodeB.id := by
  intro run
  have outcome : (run 4).bind (fun s => s.1.coordinators[(⟨"cart"⟩ : EntityType)]?.map (fun c =>
      (decide (nodeB.id ∈ s.1.membership.routableNodes), s.1.membership.hasMinContactPoints,
        c.assignments[(0 : ShardId)]?))) = some (true, false, some nodeB.id) := by decide +kernel
  obtain ⟨s, hrun, hs⟩ := Option.bind_eq_some_iff.mp outcome
  obtain ⟨c, hc, hview⟩ := Option.map_eq_some_iff.mp hs
  obtain ⟨hup, hview⟩ := Prod.mk.inj hview
  obtain ⟨hmin, howner⟩ := Prod.mk.inj hview
  exact ⟨by decide +kernel, s, c, hrun,
    (s.1.membership.mem_routableNodes _).mp (of_decide_eq_true hup), hmin, hc, howner⟩

end RuntimeOp
end Rakka.Sharding
