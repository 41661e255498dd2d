import Rakka.Foundation.OrderedMap

/-! Identity and protocol compatibility of a cluster node. -/

namespace Rakka.Cluster

structure NodeId where
  logicalId : String
  incarnation : String
  deriving DecidableEq, Repr

namespace NodeId

def key (n : NodeId) : String ×ₗ String := toLex (n.logicalId, n.incarnation)

lemma key_injective : Function.Injective key := by
  intro a b h
  have hp : (a.logicalId, a.incarnation) = (b.logicalId, b.incarnation) := congrArg ofLex h
  cases a
  cases b
  simpa only [mk.injEq, Prod.mk.injEq] using hp

instance : LinearOrder NodeId := LinearOrder.lift' key key_injective

instance : Std.TransOrd NodeId := inferInstance

instance : ToString NodeId where
  toString n := n.logicalId ++ "#" ++ n.incarnation

end NodeId

structure NodeAddress where
  host : String
  port : ℕ
  deriving DecidableEq, Repr

structure ProtocolVersion where
  major : ℕ
  minor : ℕ
  deriving DecidableEq, Repr

def ProtocolVersion.le (a b : ProtocolVersion) : Bool :=
  a.major < b.major || (a.major == b.major && a.minor ≤ b.minor)

structure CompatibilityRange where
  min : ProtocolVersion
  max : ProtocolVersion
  deriving DecidableEq, Repr

def CompatibilityRange.contains (r : CompatibilityRange) (v : ProtocolVersion) : Bool :=
  r.min.le v && v.le r.max

structure ClusterProtocol where
  version : ProtocolVersion
  compatibleWith : CompatibilityRange
  deriving DecidableEq, Repr

namespace ClusterProtocol

def isCompatibleWith (p q : ClusterProtocol) : Bool :=
  p.compatibleWith.contains q.version && q.compatibleWith.contains p.version

def v1 : ClusterProtocol := ⟨⟨1, 0⟩, ⟨1, 0⟩, ⟨1, 1⟩⟩

end ClusterProtocol

structure ClusterNode where
  id : NodeId
  address : NodeAddress
  roles : Finset String
  protocol : ClusterProtocol
  deriving DecidableEq

def ClusterNode.new (id : NodeId) (address : NodeAddress) : ClusterNode :=
  ⟨id, address, ∅, ClusterProtocol.v1⟩

end Rakka.Cluster
