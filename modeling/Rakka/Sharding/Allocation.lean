import Rakka.Cluster.Membership
import Rakka.Foundation.Selection
import Rakka.Sharding.Identity

/-! Shard allocation strategies. An allocation reads the partially updated ownership
map; a rebalance proposes moves of shards that already have a live owner. -/

namespace Rakka.Sharding
open Cluster Foundation List Std.ExtTreeMap
variable {routableNodes : List NodeId} {assignments : BTreeMap ShardId NodeId}
  {counts : BTreeMap NodeId ℕ}

structure ShardAllocationContext where
  entityType : EntityType
  config : ShardingConfig
  membership : ClusterMembership
  routableNodes : List NodeId
  assignments : BTreeMap ShardId NodeId

abbrev ShardRebalanceContext := ShardAllocationContext

structure ShardReassignment where
  shardId : ShardId
  target : NodeId
  deriving DecidableEq, Repr

structure ShardAllocationStrategy where
  strategyName : String
  allocateShard : ShardAllocationContext → ShardId → Option NodeId
  rebalance : ShardRebalanceContext → List ShardReassignment

def desiredOwner (routableNodes : List NodeId) (shardId : ShardId) : Option NodeId :=
  if routableNodes.isEmpty then none else routableNodes[shardId % routableNodes.length]?

def routableOwnerCounts (routableNodes : List NodeId) (assignments : BTreeMap ShardId NodeId) :
    BTreeMap NodeId ℕ :=
  assignments.toList.foldl
    (fun counts p => match counts[p.2]? with
      | some count => counts.insert p.2 (count + 1)
      | none => counts)
    (Std.ExtTreeMap.ofList (routableNodes.map (fun n => (n, 0))))

def minOwner (counts : BTreeMap NodeId ℕ) : Option (NodeId × ℕ) :=
  minBy (compareLex (compareOn Prod.snd) (compareOn Prod.fst)) counts.toList

def maxOwner (counts : BTreeMap NodeId ℕ) : Option (NodeId × ℕ) :=
  maxBy (compareLex (compareOn Prod.snd) (fun l r => compareOn Prod.fst r l)) counts.toList

structure DeterministicModuloShardAllocationStrategy where
  maxSimultaneousRebalance : ℕ
  deriving DecidableEq, Repr

namespace DeterministicModuloShardAllocationStrategy

def allocateShard (context : ShardAllocationContext) (shardId : ShardId) : Option NodeId :=
  desiredOwner context.routableNodes shardId

def moves (context : ShardRebalanceContext) : List ShardReassignment :=
  context.assignments.toList.filterMap (fun p => do
    let desired ← desiredOwner context.routableNodes p.1
    if p.2 ≠ desired then some ⟨p.1, desired⟩ else none)

def rebalance (strategy : DeterministicModuloShardAllocationStrategy)
    (context : ShardRebalanceContext) : List ShardReassignment :=
  if strategy.maxSimultaneousRebalance = 0 then moves context
  else (moves context).take strategy.maxSimultaneousRebalance

def toStrategy (strategy : DeterministicModuloShardAllocationStrategy) : ShardAllocationStrategy :=
  ⟨"rakka_sharding::allocation::DeterministicModuloShardAllocationStrategy", allocateShard,
    strategy.rebalance⟩

end DeterministicModuloShardAllocationStrategy

structure LeastShardAllocationStrategy where
  rebalanceThreshold : ℕ
  maxSimultaneousRebalance : ℕ
  deriving DecidableEq, Repr

namespace LeastShardAllocationStrategy

def allocateShard (context : ShardAllocationContext) (_shardId : ShardId) : Option NodeId :=
  (minOwner (routableOwnerCounts context.routableNodes context.assignments)).map Prod.fst

/-- The rebalance loop with `remaining` moves left, over the maps it keeps itself. -/
def rebalanceLoop (effectiveThreshold : ℕ) :
    ℕ → BTreeMap ShardId NodeId → BTreeMap NodeId ℕ → Finset ShardId → List ShardReassignment
  | 0, _, _, _ => []
  | remaining + 1, assignments, counts, moved =>
    match maxOwner counts, minOwner counts with
    | some (source, maxCount), some (target, minCount) =>
      if maxCount - minCount ≤ effectiveThreshold then []
      else
        match assignments.toList.find? (fun p => decide (p.2 = source ∧ p.1 ∉ moved)) with
        | none => []
        | some (shardId, _) =>
          ⟨shardId, target⟩ ::
            rebalanceLoop effectiveThreshold remaining (assignments.insert shardId target)
              ((counts.insert source (maxCount - 1)).insert target (minCount + 1))
              (insert shardId moved)
    | _, _ => []

def rebalance (strategy : LeastShardAllocationStrategy) (context : ShardRebalanceContext) :
    List ShardReassignment :=
  rebalanceLoop (max strategy.rebalanceThreshold 1) strategy.maxSimultaneousRebalance
    context.assignments (routableOwnerCounts context.routableNodes context.assignments) ∅

def toStrategy (strategy : LeastShardAllocationStrategy) : ShardAllocationStrategy :=
  ⟨"rakka_sharding::allocation::LeastShardAllocationStrategy", allocateShard, strategy.rebalance⟩

end LeastShardAllocationStrategy

lemma desiredOwner_mem (h : routableNodes ≠ []) (s : ShardId) :
    ∃ n ∈ routableNodes, desiredOwner routableNodes s = some n := by
  have hlen : 0 < routableNodes.length := length_pos_iff.mpr h
  have hlt : s % routableNodes.length < routableNodes.length := Nat.mod_lt _ hlen
  refine ⟨routableNodes[s % routableNodes.length], getElem_mem hlt, ?_⟩
  rw [desiredOwner, if_neg (by simpa using h), List.getElem?_eq_getElem hlt]

lemma DeterministicModuloShardAllocationStrategy.mem_moves {context : ShardRebalanceContext}
    {r : ShardReassignment} :
    r ∈ moves context ↔ ∃ owner, context.assignments[r.shardId]? = some owner ∧
      desiredOwner context.routableNodes r.shardId = some r.target ∧ owner ≠ r.target := by
  simp only [moves, mem_filterMap, Prod.exists]
  constructor
  · rintro ⟨s, owner, hmem, hr⟩
    obtain ⟨desired, hd, hr⟩ := Option.bind_eq_some_iff.mp hr
    split_ifs at hr with hne
    cases hr
    exact ⟨owner, mem_toList_iff_getElem?_eq_some.mp hmem, hd, hne⟩
  · rintro ⟨owner, ho, hd, hne⟩
    refine ⟨r.shardId, owner, mem_toList_iff_getElem?_eq_some.mpr ho, ?_⟩
    simp [hd, hne]

lemma DeterministicModuloShardAllocationStrategy.moves_shards_nodup
    (context : ShardRebalanceContext) : ((moves context).map ShardReassignment.shardId).Nodup := by
  have hkeys := pairwise_map.mp (BTreeMap.toList_keys_nodup context.assignments)
  refine pairwise_map.mpr (hkeys.filterMap _ ?_)
  rintro ⟨s, o⟩ ⟨t, p⟩ hst r hr q hq
  obtain ⟨_, -, hr⟩ := Option.bind_eq_some_iff.mp hr
  obtain ⟨_, -, hq⟩ := Option.bind_eq_some_iff.mp hq
  split_ifs at hr hq
  cases hr
  cases hq
  exact hst

lemma DeterministicModuloShardAllocationStrategy.rebalance_sublist
    (strategy : DeterministicModuloShardAllocationStrategy) (context : ShardRebalanceContext) :
    (strategy.rebalance context).Sublist (moves context) := by
  unfold rebalance
  split_ifs
  · exact List.Sublist.refl _
  · exact take_sublist _ _

lemma DeterministicModuloShardAllocationStrategy.rebalance_length
    (strategy : DeterministicModuloShardAllocationStrategy) (context : ShardRebalanceContext) :
    (strategy.rebalance context).length =
      if strategy.maxSimultaneousRebalance = 0 then (moves context).length
      else min strategy.maxSimultaneousRebalance (moves context).length := by
  unfold rebalance
  split_ifs
  · rfl
  · exact length_take

/-- `counts` holds the number of shards of each routable node, and nothing else. -/
def Counts (routableNodes : List NodeId) (assignments : BTreeMap ShardId NodeId)
    (counts : BTreeMap NodeId ℕ) : Prop :=
  ∀ n : NodeId, counts[n]? =
    if n ∈ routableNodes then some (BTreeMap.valueCount assignments n) else none

lemma lookup_zeroCounts (ns : List NodeId) (m : BTreeMap NodeId ℕ) (n : NodeId) :
    (ns.foldl (fun (acc : BTreeMap NodeId ℕ) k => acc.insert k 0) m)[n]? =
      if n ∈ ns then some 0 else m[n]? := by
  induction ns generalizing m with
  | nil => simp
  | cons k ns ih =>
    rw [foldl_cons, ih, BTreeMap.lookup_insert]
    by_cases hn : n ∈ ns
    · simp [hn]
    · simp [hn]

lemma lookup_countOwners (ps : List (ShardId × NodeId)) (counts : BTreeMap NodeId ℕ)
    (n : NodeId) :
    (ps.foldl (fun (counts : BTreeMap NodeId ℕ) p => match counts[p.2]? with
      | some count => counts.insert p.2 (count + 1)
      | none => counts) counts)[n]? =
      counts[n]?.map (· + ps.countP (fun p => decide (p.2 = n))) := by
  induction ps generalizing counts with
  | nil => simp
  | cons p ps ih =>
    rw [foldl_cons, ih, countP_cons]
    cases hp : counts[p.2]? with
    | none =>
      by_cases hn : p.2 = n
      · simp [← hn, hp]
      · simp [hn]
    | some =>
      rw [BTreeMap.lookup_insert]
      by_cases hn : p.2 = n
      · simp only [← hn, hp, if_true, Option.map_some, decide_true, Option.some.injEq]
        omega
      · simp [hn, Ne.symm hn]

lemma routableOwnerCounts_spec (routableNodes : List NodeId)
    (assignments : BTreeMap ShardId NodeId) :
    Counts routableNodes assignments (routableOwnerCounts routableNodes assignments) := by
  intro n
  rw [routableOwnerCounts, lookup_countOwners, ofList_eq_foldl, foldl_map, lookup_zeroCounts]
  split_ifs with hn
  · simp [BTreeMap.valueCount]
  · simp

section
variable (h : Counts routableNodes assignments counts)
include h

lemma Counts.minOwner_spec {n : NodeId} {c : ℕ} (hm : minOwner counts = some (n, c)) :
    n ∈ routableNodes ∧ c = BTreeMap.valueCount assignments n ∧
      ∀ k ∈ routableNodes, c ≤ BTreeMap.valueCount assignments k := by
  obtain ⟨hmem, hle⟩ := minBy_spec _ hm
  have hn := h n
  rw [mem_toList_iff_getElem?_eq_some.mp hmem] at hn
  split_ifs at hn with hr
  refine ⟨hr, Option.some.inj hn, fun k hk => ?_⟩
  have hkmem : (k, BTreeMap.valueCount assignments k) ∈ counts.toList := by
    rw [mem_toList_iff_getElem?_eq_some, h k, if_pos hk]
  exact Nat.isLE_compare.mp (Ordering.isLE_left_of_isLE_then (hle _ hkmem))

lemma Counts.maxOwner_spec {n : NodeId} {c : ℕ} (hm : maxOwner counts = some (n, c)) :
    n ∈ routableNodes ∧ c = BTreeMap.valueCount assignments n := by
  have hmem := maxBy_mem _ hm
  have hn := h n
  rw [mem_toList_iff_getElem?_eq_some.mp hmem] at hn
  split_ifs at hn with hr
  exact ⟨hr, Option.some.inj hn⟩

lemma Counts.minOwner_isSome (hne : routableNodes ≠ []) : ∃ n c, minOwner counts = some (n, c) := by
  obtain ⟨k, hk⟩ := exists_mem_of_ne_nil _ hne
  have hkmem : (k, BTreeMap.valueCount assignments k) ∈ counts.toList := by
    rw [mem_toList_iff_getElem?_eq_some, h k, if_pos hk]
  obtain ⟨⟨n, c⟩, hm⟩ := minBy_isSome
    (compareLex (compareOn Prod.snd) (compareOn Prod.fst)) counts.toList (ne_nil_of_mem hkmem)
  exact ⟨n, c, hm⟩

end

inductive BuiltInStrategy where
  | deterministicModulo (strategy : DeterministicModuloShardAllocationStrategy)
  | least (strategy : LeastShardAllocationStrategy)
  deriving DecidableEq, Repr

def BuiltInStrategy.toStrategy : BuiltInStrategy → ShardAllocationStrategy
  | deterministicModulo strategy => strategy.toStrategy
  | least strategy => strategy.toStrategy

/-- A strategy that finds a routable owner whenever a node is routable. -/
def ShardAllocationStrategy.Allocates (strategy : ShardAllocationStrategy) : Prop :=
  ∀ (context : ShardAllocationContext) (s : ShardId), context.routableNodes ≠ [] →
    ∃ n ∈ context.routableNodes, strategy.allocateShard context s = some n

lemma LeastShardAllocationStrategy.allocateShard_spec (context : ShardAllocationContext)
    (s : ShardId) (h : context.routableNodes ≠ []) :
    ∃ n ∈ context.routableNodes, allocateShard context s = some n ∧ ∀ k ∈ context.routableNodes,
        BTreeMap.valueCount context.assignments n ≤ BTreeMap.valueCount context.assignments k := by
  have hc := routableOwnerCounts_spec context.routableNodes context.assignments
  obtain ⟨n, c, hm⟩ := hc.minOwner_isSome h
  obtain ⟨hn, rfl, hle⟩ := hc.minOwner_spec hm
  exact ⟨n, hn, by rw [allocateShard, hm, Option.map_some], hle⟩

lemma BuiltInStrategy.allocates (b : BuiltInStrategy) : b.toStrategy.Allocates := by
  intro context s h
  cases b with
  | deterministicModulo => exact desiredOwner_mem h s
  | least =>
    obtain ⟨n, hn, hs, -⟩ := LeastShardAllocationStrategy.allocateShard_spec context s h
    exact ⟨n, hn, hs⟩

end Rakka.Sharding
