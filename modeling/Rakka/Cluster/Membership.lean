import Rakka.Cluster.Node
import Rakka.Foundation.Scalars

/-! The cluster membership table and its failure-detection transitions. A failed
operation may already have changed the table, so every operation returns the
table beside its result. -/

namespace Rakka.Cluster
open Foundation

inductive MembershipState where
  | joining | up | leaving | unreachable | down | removed
  deriving DecidableEq, Repr

namespace MembershipState

def isDownOrRemoved : MembershipState → Bool
  | down | removed => true
  | _ => false

end MembershipState

structure MembershipConfig where
  minContactPoints : ℕ
  failureTimeout : Duration
  downAfterUnreachable : Duration
  deriving DecidableEq, Repr

structure MemberRecord where
  node : ClusterNode
  state : MembershipState
  lastSeenMillis : ℕ
  revision : ℕ
  deriving DecidableEq

inductive MembershipEvent where
  | memberDiscovered (nodeId : NodeId)
  | memberUp (nodeId : NodeId)
  | memberReachable (nodeId : NodeId)
  | memberLeaving (nodeId : NodeId)
  | memberUnreachable (nodeId : NodeId)
  | memberDown (nodeId : NodeId)
  | memberRemoved (nodeId : NodeId)
  deriving DecidableEq, Repr

inductive ClusterError where
  | unknownNode (nodeId : NodeId)
  | invalidTransition (nodeId : NodeId) (source target : MembershipState)
  | incompatibleNode (nodeId : NodeId) (localProtocol remote : ClusterProtocol)
  | discovery (provider message : String)
  deriving DecidableEq, Repr

structure DiscoverySnapshot where
  provider : String
  observedAtMillis : ℕ
  nodes : List ClusterNode

def DiscoverySnapshot.new (provider : String) (observedAtMillis : ℕ) (nodes : List ClusterNode) :
    DiscoverySnapshot :=
  ⟨provider, observedAtMillis,
    (Std.ExtTreeMap.ofList (nodes.map (fun n => (n.id, n))) : BTreeMap NodeId ClusterNode).valuesInOrder⟩

/-- Every record is filed under the id of the node it describes. -/
structure ClusterMembership where
  config : MembershipConfig
  localNodeId : NodeId
  members : BTreeMap NodeId MemberRecord
  revision : ℕ
  keyed : ∀ (id : NodeId) (r : MemberRecord), members[id]? = some r → r.node.id = id

namespace ClusterMembership
variable (m : ClusterMembership) (nodeId : NodeId)

def setRecord (r : MemberRecord) (revision : ℕ) : ClusterMembership :=
  { m with
    members := m.members.insert r.node.id r
    revision := revision
    keyed := BTreeMap.forall_insert m.keyed rfl }

def new (localNode : ClusterNode) (config : MembershipConfig) : ClusterMembership :=
  { config := config
    localNodeId := localNode.id
    members := (∅ : BTreeMap NodeId MemberRecord).insert localNode.id ⟨localNode, .joining, 0, 0⟩
    revision := 0
    keyed := BTreeMap.forall_insert (by simp) rfl }

def member : Option MemberRecord := m.members[nodeId]?

def routableMembers : List MemberRecord :=
  m.members.valuesInOrder.filter (fun r => decide (r.state = .up))

def hasMinContactPoints : Bool :=
  m.config.minContactPoints ≤ (m.members.valuesInOrder.filter (fun r => !r.state.isDownOrRemoved)).length

def updateLocalDescriptor (node : ClusterNode) (observedAtMillis : ℕ) :
    Except ClusterError Unit × ClusterMembership :=
  match m.members[m.localNodeId]? with
  | none => (.error (.unknownNode m.localNodeId), m)
  | some r => (.ok (), m.setRecord { r with node := node, lastSeenMillis := observedAtMillis } m.revision)

def recordNodes (localProtocol : ClusterProtocol) (observedAtMillis : ℕ) :
    ClusterMembership → List ClusterNode → List MembershipEvent →
      Except ClusterError (List MembershipEvent) × ClusterMembership
  | m, [], events => (.ok events, m)
  | m, node :: nodes, events =>
    if !localProtocol.isCompatibleWith node.protocol then
      (.error (.incompatibleNode node.id localProtocol node.protocol), m)
    else if node.id = m.localNodeId then
      match m.updateLocalDescriptor node observedAtMillis with
      | (.error e, m') => (.error e, m')
      | (.ok (), m') => recordNodes localProtocol observedAtMillis m' nodes events
    else
      match m.members[node.id]? with
      | some r =>
        if r.state.isDownOrRemoved then
          recordNodes localProtocol observedAtMillis (m.setRecord { r with node := node } m.revision)
            nodes events
        else if r.state = .unreachable then
          recordNodes localProtocol observedAtMillis
            (m.setRecord ⟨node, .up, observedAtMillis, m.revision + 1⟩ (m.revision + 1))
            nodes (events ++ [.memberReachable node.id])
        else
          recordNodes localProtocol observedAtMillis
            (m.setRecord { r with node := node, lastSeenMillis := observedAtMillis } m.revision)
            nodes events
      | none =>
        recordNodes localProtocol observedAtMillis
          (m.setRecord ⟨node, .joining, observedAtMillis, m.revision + 1⟩ (m.revision + 1))
          nodes (events ++ [.memberDiscovered node.id])

def recordDiscovery (snapshot : DiscoverySnapshot) :
    Except ClusterError (List MembershipEvent) × ClusterMembership :=
  match m.members[m.localNodeId]? with
  | none => (.error (.unknownNode m.localNodeId), m)
  | some r => recordNodes r.node.protocol snapshot.observedAtMillis m snapshot.nodes []

variable (observedAtMillis : ℕ)

def transition (target : MembershipState) (isAllowed : MembershipState → Bool)
    (event : NodeId → MembershipEvent) :
    Except ClusterError (Option MembershipEvent) × ClusterMembership :=
  match m.members[nodeId]? with
  | none => (.error (.unknownNode nodeId), m)
  | some r =>
    if r.state = target then
      (.ok none, m.setRecord { r with lastSeenMillis := observedAtMillis } m.revision)
    else if !isAllowed r.state then (.error (.invalidTransition nodeId r.state target), m)
    else
      (.ok (some (event nodeId)),
        m.setRecord ⟨r.node, target, observedAtMillis, m.revision + 1⟩ (m.revision + 1))

def markUp :=
  m.transition nodeId observedAtMillis .up (fun s => s = .joining || s = .unreachable) .memberUp

def markLeaving :=
  m.transition nodeId observedAtMillis .leaving (fun s => s = .joining || s = .up) .memberLeaving

def markUnreachable :=
  m.transition nodeId observedAtMillis .unreachable (fun s => s = .joining || s = .up)
    .memberUnreachable

def leaveLocal :=
  m.markLeaving m.localNodeId observedAtMillis

def markDown :=
  m.transition nodeId observedAtMillis .down (fun s => !(s = .removed)) .memberDown

def remove :=
  m.transition nodeId observedAtMillis .removed (fun s => s = .leaving || s = .down) .memberRemoved

def heartbeat : Except ClusterError (Option MembershipEvent) × ClusterMembership :=
  match m.members[nodeId]? with
  | none => (.error (.unknownNode nodeId), m)
  | some r =>
    if r.state.isDownOrRemoved then (.error (.invalidTransition nodeId r.state .up), m)
    else if r.state = .unreachable then
      (.ok (some (.memberReachable nodeId)),
        m.setRecord ⟨r.node, .up, observedAtMillis, m.revision + 1⟩ (m.revision + 1))
    else (.ok none, m.setRecord { r with lastSeenMillis := observedAtMillis } m.revision)

def millis (d : Duration) : ℕ := min d.asMillis u64Max

def tickMember (nowMillis : ℕ) (acc : List MembershipEvent × ClusterMembership) (nodeId : NodeId)
    (r : MemberRecord) : List MembershipEvent × ClusterMembership :=
  let (events, m) := acc
  let failureTimeoutMillis := millis m.config.failureTimeout
  let downThresholdMillis :=
    saturatingAdd failureTimeoutMillis (millis m.config.downAfterUnreachable)
  let elapsedMillis := nowMillis - r.lastSeenMillis
  if nodeId = m.localNodeId then (events, m)
  else if (r.state = .joining ∨ r.state = .up) ∧ failureTimeoutMillis ≤ elapsedMillis then
    (events ++ [.memberUnreachable nodeId],
      m.setRecord { r with state := .unreachable, revision := m.revision + 1 } (m.revision + 1))
  else if r.state = .unreachable ∧ downThresholdMillis ≤ elapsedMillis then
    (events ++ [.memberDown nodeId],
      m.setRecord { r with state := .down, revision := m.revision + 1 } (m.revision + 1))
  else (events, m)

def tick (nowMillis : ℕ) : List MembershipEvent × ClusterMembership :=
  m.members.toList.foldl (fun acc p => tickMember nowMillis acc p.1 p.2) ([], m)

def routableNodes : List NodeId := m.routableMembers.map (·.node.id)

lemma routableNodes_eq : m.routableNodes =
      (m.members.toList.filter (fun p => decide (p.2.state = .up))).map Prod.fst := by
  rw [routableNodes, routableMembers, BTreeMap.valuesInOrder, List.filter_map, List.map_map]
  refine List.map_congr_left ?_
  rintro ⟨id, r⟩ hr
  have hmem := Std.ExtTreeMap.mem_toList_iff_getElem?_eq_some.mp (List.mem_filter.mp hr).1
  exact m.keyed id r hmem

lemma mem_routableNodes (id : NodeId) :
    id ∈ m.routableNodes ↔ ∃ r, m.member id = some r ∧ r.state = .up := by
  rw [routableNodes_eq]
  simp [Std.ExtTreeMap.mem_toList_iff_getElem?_eq_some, member]

lemma routableNodes_pairwise_lt : m.routableNodes.Pairwise (· < ·) := by
  rw [routableNodes_eq, List.pairwise_map]
  exact (BTreeMap.toList_pairwise_lt m.members).filter _

end ClusterMembership
end Rakka.Cluster
