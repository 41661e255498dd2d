import Rakka.Foundation.Fencing
import Rakka.Foundation.Runs
import Rakka.Foundation.Scalars
import Rakka.Sharding.Identity

/-! The in-memory coordinator lease and the fencing of its tokens. A release deletes
the record that carries the counter, so the counter starts again with the next acquire. -/

namespace Rakka.Sharding
open Cluster Foundation

structure LeaseToken where
  leaseNamespace : String
  entityType : EntityType
  holderNode : NodeId
  fencingToken : ℕ
  expiresAtMillis : ℕ
  deriving DecidableEq, Repr

def LeaseToken.isExpiredAt (token : LeaseToken) (nowMillis : ℕ) : Bool :=
  token.expiresAtMillis ≤ nowMillis

structure LeaseKey where
  leaseNamespace : String
  entityType : EntityType
  deriving DecidableEq, Repr

namespace LeaseKey

def key (k : LeaseKey) : String ×ₗ EntityType := toLex (k.leaseNamespace, k.entityType)

lemma key_injective : Function.Injective key := by
  intro a b h
  have hp : (a.leaseNamespace, a.entityType) = (b.leaseNamespace, b.entityType) := congrArg ofLex h
  cases a
  cases b
  simpa only [mk.injEq, Prod.mk.injEq] using hp

instance : LinearOrder LeaseKey := LinearOrder.lift' key key_injective

instance : Std.TransOrd LeaseKey := inferInstance

end LeaseKey

structure LeaseRecord where
  holderNode : NodeId
  fencingToken : ℕ
  expiresAtMillis : ℕ
  deriving DecidableEq, Repr

structure InMemoryShardCoordinatorLease where
  leaseNamespace : String
  leaseDuration : Duration
  records : BTreeMap LeaseKey LeaseRecord

def leaseLost (lease : String) (token : LeaseToken) (actualHolderNode : Option NodeId)
    (actualFencingToken : Option ℕ) : ShardingError :=
  .coordinatorLeaseLost lease token.entityType token.holderNode token.fencingToken actualHolderNode
    actualFencingToken

namespace InMemoryShardCoordinatorLease
variable (lease : InMemoryShardCoordinatorLease)

def leaseName : String := "in-memory"

def tokenFromRecord (entityType : EntityType) (record : LeaseRecord) : LeaseToken :=
  ⟨lease.leaseNamespace, entityType, record.holderNode, record.fencingToken, record.expiresAtMillis⟩

def nextExpiry (nowMillis : ℕ) : Except ShardingError ℕ :=
  if lease.leaseDuration.asMillis ≤ u64Max then
    .ok (saturatingAdd nowMillis lease.leaseDuration.asMillis)
  else .error (.coordinatorLease leaseName "lease duration exceeds u64 milliseconds")

def acquire (entityType : EntityType) (holder : NodeId) (nowMillis : ℕ) :
    Except ShardingError LeaseToken × InMemoryShardCoordinatorLease :=
  match lease.nextExpiry nowMillis with
  | .error e => (.error e, lease)
  | .ok expiresAtMillis =>
    let key : LeaseKey := ⟨lease.leaseNamespace, entityType⟩
    match lease.records[key]? with
    | some record =>
      if record.holderNode = holder ∨ record.expiresAtMillis ≤ nowMillis then
        let fencingToken :=
          if record.holderNode ≠ holder then saturatingAdd record.fencingToken 1
          else record.fencingToken
        let record : LeaseRecord := ⟨holder, fencingToken, expiresAtMillis⟩
        (.ok (lease.tokenFromRecord entityType record),
          { lease with records := lease.records.insert key record })
      else
        (.error (.coordinatorLeaseRejected leaseName entityType holder (some record.holderNode)
          (some record.expiresAtMillis)), lease)
    | none =>
      let record : LeaseRecord := ⟨holder, 1, expiresAtMillis⟩
      (.ok (lease.tokenFromRecord entityType record),
        { lease with records := lease.records.insert key record })

def renew (token : LeaseToken) (nowMillis : ℕ) :
    Except ShardingError Unit × InMemoryShardCoordinatorLease :=
  match lease.nextExpiry nowMillis with
  | .error e => (.error e, lease)
  | .ok nextExpiry =>
    let key : LeaseKey := ⟨token.leaseNamespace, token.entityType⟩
    match lease.records[key]? with
    | none => (.error (leaseLost leaseName token none none), lease)
    | some record =>
      if record.holderNode ≠ token.holderNode ∨ record.fencingToken ≠ token.fencingToken ∨
          record.expiresAtMillis ≤ nowMillis then
        (.error (leaseLost leaseName token (some record.holderNode) (some record.fencingToken)),
          lease)
      else
        (.ok (), { lease with
          records := lease.records.insert key { record with expiresAtMillis := nextExpiry } })

def release (token : LeaseToken) : Except ShardingError Unit × InMemoryShardCoordinatorLease :=
  let key : LeaseKey := ⟨token.leaseNamespace, token.entityType⟩
  match lease.records[key]? with
  | some record =>
    if record.holderNode = token.holderNode ∧ record.fencingToken = token.fencingToken then
      (.ok (), { lease with records := lease.records.erase key })
    else
      (.error (leaseLost leaseName token (some record.holderNode) (some record.fencingToken)), lease)
  | none => (.ok (), lease)

def live (entityType : EntityType) : Option (NodeId × ℕ) :=
  lease.records[(⟨lease.leaseNamespace, entityType⟩ : LeaseKey)]?.map
    (fun record => (record.holderNode, record.fencingToken))

end InMemoryShardCoordinatorLease

/-- The latest clock reading and every token an acquire returned stand beside the lease. -/
structure LeaseRun where
  lease : InMemoryShardCoordinatorLease
  clock : ℕ
  granted : List LeaseToken

inductive LeaseOp where
  | acquire (entityType : EntityType) (holder : NodeId) (nowMillis : ℕ)
  | renew (token : LeaseToken) (nowMillis : ℕ)
  | release (token : LeaseToken)

namespace LeaseRun

/-- One call; a clock reading before the latest one is not a call. -/
def step (s : LeaseRun) : LeaseOp → Option LeaseRun
  | .acquire entityType holder nowMillis =>
    if s.clock ≤ nowMillis then
      let (answer, lease) := s.lease.acquire entityType holder nowMillis
      some ⟨lease, nowMillis, match answer with
        | .ok token => s.granted ++ [token]
        | .error _ => s.granted⟩
    else none
  | .renew token nowMillis =>
    if s.clock ≤ nowMillis then some ⟨(s.lease.renew token nowMillis).2, nowMillis, s.granted⟩
    else none
  | .release token => some ⟨(s.lease.release token).2, s.clock, s.granted⟩

def start (leaseNamespace : String) (leaseDuration : Duration) : LeaseRun :=
  ⟨⟨leaseNamespace, leaseDuration, ∅⟩, 0, []⟩

def grantedFor (s : LeaseRun) (entityType : EntityType) : List (NodeId × ℕ) :=
  (s.granted.filter (fun token => decide (token.entityType = entityType))).map
    (fun token => (token.holderNode, token.fencingToken))

def ledger (s : LeaseRun) (entityType : EntityType) : Ledger NodeId :=
  ⟨s.lease.live entityType, s.grantedFor entityType⟩

end LeaseRun
end Rakka.Sharding
