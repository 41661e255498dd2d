import Rakka.Foundation.Runs
import Rakka.Sharding.Coordinator

/-! Totality and liveness of the ownership map: after every reconciliation each shard
of the configured range has exactly one owner, and that owner is up. -/

namespace Rakka.Sharding
open Cluster Foundation

def IsUp (membership : ClusterMembership) (id : NodeId) : Prop :=
  ∃ r, membership.member id = some r ∧ r.state = .up

lemma routableNodes_ne_nil {membership : ClusterMembership} {id : NodeId}
    (h : IsUp membership id) : membership.routableNodes ≠ [] :=
  List.ne_nil_of_mem ((membership.mem_routableNodes id).mpr h)

section Passes
variable {entityType : EntityType} {config : ShardingConfig} {strategy : ShardAllocationStrategy}
variable {s : ShardId} {assignments : BTreeMap ShardId NodeId} {draft : PlanDraft}

  {membership : ClusterMembership} {routableNodes : List NodeId}

def OwnedLive (routableNodes : List NodeId) (assignments : BTreeMap ShardId NodeId) (s : ShardId) :
    Prop :=
  ∃ owner ∈ routableNodes, assignments[s]? = some owner

instance (assignments : BTreeMap ShardId NodeId) (s : ShardId) :
    Decidable (OwnedLive routableNodes assignments s) :=
  inferInstanceAs (Decidable (∃ owner ∈ routableNodes, _))

lemma allocatedOwner_of_ownedLive (h : OwnedLive routableNodes assignments s) :
    allocatedOwner entityType config strategy membership routableNodes assignments s =
      assignments[s]? := by
  obtain ⟨owner, hr, ho⟩ := h
  have hsome : assignments[s]?.filter (isRoutableNode routableNodes) = some owner := by
    rw [ho, Option.filter_some, if_pos (by simpa [isRoutableNode] using hr)]
  rw [ho]
  simp only [allocatedOwner, hsome]

lemma allocatedOwner_of_not_ownedLive (h : ¬ OwnedLive routableNodes assignments s) :
    allocatedOwner entityType config strategy membership routableNodes assignments s =
      (strategy.allocateShard ⟨entityType, config, membership, routableNodes, assignments⟩ s).filter
          (isRoutableNode routableNodes) := by
  have hnone : assignments[s]?.filter (isRoutableNode routableNodes) = none := by
    rw [Option.filter_eq_none_iff]
    intro owner ho hr
    exact h ⟨owner, by simpa [isRoutableNode] using hr, ho⟩
  simp only [allocatedOwner, hnone]

lemma allocatedOwner_mem (hs : strategy.Allocates) (hne : routableNodes ≠ [])
    (assignments : BTreeMap ShardId NodeId) (s : ShardId) : ∃ owner ∈ routableNodes,
      allocatedOwner entityType config strategy membership routableNodes assignments s =
        some owner := by
  by_cases h : OwnedLive routableNodes assignments s
  · obtain ⟨owner, hr, ho⟩ := h
    exact ⟨owner, hr, (allocatedOwner_of_ownedLive ⟨owner, hr, ho⟩).trans ho⟩
  · obtain ⟨n, hn, ha⟩ := hs ⟨entityType, config, membership, routableNodes, assignments⟩ s hne
    refine ⟨n, hn, ?_⟩
    rw [allocatedOwner_of_not_ownedLive h, ha]
    have hn : n ∈ routableNodes := hn
    simp [isRoutableNode, hn]

lemma allocatePass_ownedLive (hs : strategy.Allocates) (hne : routableNodes ≠ [])
    (assignments : BTreeMap ShardId NodeId) (hlt : s < config.numberOfShards) :
    OwnedLive routableNodes
      (allocatePass entityType config strategy membership routableNodes assignments).assignments
      s := by
  refine foldl_forall_mem
    (P := fun draft : PlanDraft => fun s => OwnedLive routableNodes draft.assignments s)
    ?_ ?_ _ _ s (List.mem_range.mpr hlt)
  · intro draft a b hb
    have hrec := allocateStep_recorded entityType config strategy membership routableNodes draft a
    unfold OwnedLive
    rw [hrec.lookup b]
    split_ifs with hba
    · rw [← hba, allocatedOwner_of_ownedLive hb]
      exact hb
    · exact hb
  · intro draft a
    have hrec := allocateStep_recorded entityType config strategy membership routableNodes draft a
    unfold OwnedLive
    rw [hrec.lookup a, if_pos rfl]
    exact allocatedOwner_mem hs hne draft.assignments a

lemma reassignStep_ownedLive {done : Finset ShardId} {r : ShardReassignment}
    (h : OwnedLive routableNodes draft.assignments s) : OwnedLive routableNodes
      (reassignStep entityType config membership routableNodes (draft, done) r).1.assignments s := by
  have hrec := reassignStep_recorded entityType config membership routableNodes draft done r
  unfold OwnedLive
  rw [hrec.lookup s]
  split_ifs with hsr hskip
  · rw [← hsr]
    exact h
  · exact ⟨r.target, not_not.mp fun hn => hskip (.inr (.inr hn)), rfl⟩
  · exact h

lemma reassignPass_ownedLive (h : OwnedLive routableNodes draft.assignments s) :
    OwnedLive routableNodes
      (reassignPass entityType config strategy membership routableNodes draft).assignments s :=
  List.foldlRecOn
    (motive := fun acc : PlanDraft × Finset ShardId => OwnedLive routableNodes acc.1.assignments s)
    _ _ h (fun _ hd _ _ => reassignStep_ownedLive hd)

lemma reconcileDraft_ownedLive (hs : strategy.Allocates) (hne : routableNodes ≠ [])
    (assignments : BTreeMap ShardId NodeId) (hlt : s < config.numberOfShards) :
    OwnedLive routableNodes
      (reconcileDraft entityType config strategy membership routableNodes assignments).assignments
      s := by
  rw [reconcileDraft, if_neg (by simpa using hne)]
  exact reassignPass_ownedLive (allocatePass_ownedLive hs hne assignments hlt)

end Passes

namespace ShardCoordinator
variable (c : ShardCoordinator)

inductive Built (strategy : ShardAllocationStrategy) : ShardCoordinator → Prop
  | new (entityType : EntityType) (config : ShardingConfig) :
      Built strategy (withAllocationStrategyRef entityType config strategy)
  | fromSnapshot (entityType : EntityType) (config : ShardingConfig)
      (snapshot : ShardOwnershipSnapshot) (c : ShardCoordinator)
      (h : fromSnapshotWithAllocationStrategyRef entityType config snapshot strategy = .ok c) :
      Built strategy c

lemma Built.allocationStrategy_eq {strategy : ShardAllocationStrategy} {c : ShardCoordinator}
    (h : Built strategy c) : c.allocationStrategy = strategy := by
  cases h with
  | new entityType config => rfl
  | fromSnapshot entityType config snapshot c h =>
    unfold fromSnapshotWithAllocationStrategyRef at h
    split_ifs at h
    split at h
    · cases h
    · cases h
      rfl

def reconcileAll (ms : List ClusterMembership) : ShardCoordinator :=
  ms.foldl (fun c membership => (c.reconcile membership).2) c

lemma reconcileAll_static (ms : List ClusterMembership) :
    (c.reconcileAll ms).entityType = c.entityType ∧ (c.reconcileAll ms).config = c.config ∧
      (c.reconcileAll ms).allocationStrategy = c.allocationStrategy := by
  induction ms generalizing c with
  | nil => exact ⟨rfl, rfl, rfl⟩
  | cons m ms ih => exact ih (c.reconcile m).2

/-- The ownership map covers exactly the configured shards with members that are up, or
is empty when no member is up. -/
structure TotalAndLive (c : ShardCoordinator) (membership : ClusterMembership) : Prop where
  empty : (∀ id, ¬ IsUp membership id) → c.assignments = ∅
  total : ∀ id, IsUp membership id → ∀ s : ShardId,
    s < c.config.numberOfShards ↔ ∃ owner, c.assignments[s]? = some owner
  live : ∀ (s : ShardId) owner, c.assignments[s]? = some owner → IsUp membership owner

lemma reconcile_totalAndLive (hs : c.allocationStrategy.Allocates)
    (membership : ClusterMembership) : (c.reconcile membership).2.TotalAndLive membership := by
  by_cases hne : membership.routableNodes = []
  · have hempty : (c.reconcile membership).2.assignments = ∅ := by
      change (reconcileDraft _ _ _ _ _ _).assignments = ∅
      rw [reconcileDraft, if_pos (by simpa using hne)]
    refine ⟨fun _ => hempty, fun id hup => absurd hne (routableNodes_ne_nil hup), ?_⟩
    intro s owner ho
    rw [hempty] at ho
    simp at ho
  · have howned {s : ShardId} (hlt : s < c.config.numberOfShards) :
        OwnedLive membership.routableNodes (c.reconcile membership).2.assignments s :=
      reconcileDraft_ownedLive hs hne c.assignments hlt
    refine ⟨?_, ?_, ?_⟩
    · intro hno
      obtain ⟨id, hid⟩ := List.exists_mem_of_ne_nil _ hne
      exact absurd ((membership.mem_routableNodes id).mp hid) (hno id)
    · intro id _ s
      constructor
      · intro hlt
        obtain ⟨owner, -, ho⟩ := howned hlt
        exact ⟨owner, ho⟩
      · rintro ⟨owner, ho⟩
        exact (c.reconcile membership).2.inRange s owner ho
    · intro s owner ho
      obtain ⟨live, hlive, hl⟩ := howned ((c.reconcile membership).2.inRange s owner ho)
      rw [ho, Option.some.injEq] at hl
      exact (membership.mem_routableNodes owner).mp (hl ▸ hlive)

/-- Every reconciliation of a run leaves the ownership map total and live. -/
theorem reconcileAll_totalAndLive (b : BuiltInStrategy) (c : ShardCoordinator)
    (hb : Built b.toStrategy c) (ms : List ClusterMembership) (membership : ClusterMembership) :
    ((c.reconcileAll ms).reconcile membership).2.TotalAndLive membership := by
  refine reconcile_totalAndLive _ ?_ membership
  rw [(c.reconcileAll_static ms).2.2, hb.allocationStrategy_eq]
  exact b.allocates

def soloMembership : ClusterMembership :=
  ((ClusterMembership.new (.new ⟨"a", "1"⟩ ⟨"10.0.0.1", 2552⟩) ⟨1, 10, 30⟩).markUp ⟨"a", "1"⟩ 5).2

lemma soloMembership_isUp : IsUp soloMembership ⟨"a", "1"⟩ :=
  (soloMembership.mem_routableNodes _).mp (by decide +kernel)

theorem reconcileAll_totalAndLive_of_least : (((withAllocationStrategyRef ⟨"cart"⟩ ⟨4, by decide⟩
      (LeastShardAllocationStrategy.toStrategy ⟨1, 10⟩)).reconcileAll [soloMembership]).reconcile
        soloMembership).2.TotalAndLive soloMembership :=
  reconcileAll_totalAndLive (.least ⟨1, 10⟩) _ (.new _ _) [soloMembership] soloMembership

end ShardCoordinator
end Rakka.Sharding
