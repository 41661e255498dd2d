import Rakka.Foundation.Relay
import Rakka.Sharding.Handoff

/-! The bounded buffer of a shard region. Messages wait in one queue per shard until a
drain finds them ready, expired or still paused. Each message carries a ticket, which
names the call that brought it and is not part of the source. -/

namespace Rakka.Sharding
open Cluster Foundation

inductive EntityDeliveryFailure where
  | mailboxFull
  | mailboxClosed
  | notLocal (owner : NodeId)
  | spawnFailed (message : String)
  | remoteEncode (message : String)
  | remoteSend (message : String)
  | shardHandoff (shardId : ShardId) (state : ShardHandoffState)
  | shardBufferFull (shardId : ShardId) (capacity : ℕ)
  | rejected (message : String)
  deriving DecidableEq, Repr

instance : ToString EntityDeliveryFailure where
  toString
    | .mailboxFull => "entity route mailbox was full"
    | .mailboxClosed => "entity route mailbox was closed"
    | .notLocal owner => s!"entity shard is owned by remote node {owner}"
    | .spawnFailed message => s!"entity actor spawn failed: {message}"
    | .remoteEncode message => s!"remote entity encode failed: {message}"
    | .remoteSend message => s!"remote entity send failed: {message}"
    | .shardHandoff shardId state => s!"shard {shardId} is {state} during graceful handoff"
    | .shardBufferFull shardId capacity =>
      s!"shard {shardId} buffer is full at capacity {capacity}"
    | .rejected message => s!"entity route rejected message: {message}"

inductive EntityTellError (M : Type) where
  | noRoute (message : M) (error : ShardingError)
  | delivery (message : M) (failure : EntityDeliveryFailure)
  deriving DecidableEq, Repr

inductive ShardBufferOverflow where
  | failFast | dropNewest | dropOldest
  deriving DecidableEq, Repr

structure ShardBufferConfig where
  capacityPerShard : ℕ
  overflow : ShardBufferOverflow
  ttl : Duration
  pos : 0 < capacityPerShard

namespace ShardBufferConfig

def new (capacityPerShard : ℕ) (ttl : Duration) : ShardBufferConfig :=
  ⟨max capacityPerShard 1, .failFast, ttl, lt_max_of_lt_right Nat.one_pos⟩

def withOverflow (config : ShardBufferConfig) (overflow : ShardBufferOverflow) :
    ShardBufferConfig :=
  { config with overflow := overflow }

end ShardBufferConfig

structure BufferedEntityMessage (M : Type) where
  entityType : EntityType
  entityId : EntityId
  shardId : ShardId
  message : M
  enqueuedAt : ℕ
  ticket : ℕ

inductive DropReason where
  | expired (age : Duration)
  | rejected (failure : EntityDeliveryFailure)
  deriving DecidableEq, Repr

structure ShardMessageBuffer (M : Type) where
  config : ShardBufferConfig
  queues : BTreeMap ShardId (List (BufferedEntityMessage M))
  pausedEntities : BTreeMap EntityId ℕ

structure Drained (M : Type) where
  kept : List (BufferedEntityMessage M)
  ready : List (BufferedEntityMessage M)
  expired : List (BufferedEntityMessage M)

namespace ShardMessageBuffer
variable {M : Type}
variable (b : ShardMessageBuffer M) (m : BufferedEntityMessage M)

def new (config : ShardBufferConfig) : ShardMessageBuffer M := ⟨config, ∅, ∅⟩

def queue (shardId : ShardId) : List (BufferedEntityMessage M) :=
  Queues.queueAt b.queues shardId

def setQueue (shardId : ShardId) (queue : List (BufferedEntityMessage M)) : ShardMessageBuffer M :=
  { b with queues := b.queues.insert shardId queue }

/-- The last component lists the messages that overflowed. -/
def enqueue :
    Except (EntityTellError M) Unit × ShardMessageBuffer M × List (BufferedEntityMessage M) :=
  let queue := b.queue m.shardId
  if queue.length < b.config.capacityPerShard then
    (.ok (), b.setQueue m.shardId (queue ++ [m]), [])
  else
    match b.config.overflow with
    | .failFast =>
      (.error (.delivery m.message (.shardBufferFull m.shardId b.config.capacityPerShard)),
        b.setQueue m.shardId queue, [])
    | .dropNewest => (.ok (), b.setQueue m.shardId queue, [m])
    | .dropOldest => (.ok (), b.setQueue m.shardId (queue.tail ++ [m]), queue.head?.toList)

inductive Enqueued (b : ShardMessageBuffer M) (m : BufferedEntityMessage M) :
    Except (EntityTellError M) Unit × ShardMessageBuffer M × List (BufferedEntityMessage M) → Prop
  | stored (hroom : (b.queue m.shardId).length < b.config.capacityPerShard) :
      Enqueued b m (.ok (), b.setQueue m.shardId (b.queue m.shardId ++ [m]), [])
  | refused (error : EntityTellError M) :
      Enqueued b m (.error error, b.setQueue m.shardId (b.queue m.shardId), [])
  | lost (hpolicy : b.config.overflow = .dropNewest) :
      Enqueued b m (.ok (), b.setQueue m.shardId (b.queue m.shardId), [m])
  | displaced (first : BufferedEntityMessage M) (rest : List (BufferedEntityMessage M))
      (hpolicy : b.config.overflow = .dropOldest) (hqueue : b.queue m.shardId = first :: rest) :
      Enqueued b m (.ok (), b.setQueue m.shardId (rest ++ [m]), [first])

lemma enqueue_cases : Enqueued b m (b.enqueue m) := by
  unfold enqueue
  dsimp only
  split_ifs with hroom
  · exact .stored hroom
  · cases hpolicy : b.config.overflow with
    | failFast => exact .refused _
    | dropNewest => exact .lost hpolicy
    | dropOldest =>
      -- a full queue is not empty, because its capacity is positive
      cases hqueue : b.queue m.shardId with
      | nil =>
        rw [hqueue] at hroom
        exact absurd b.config.pos hroom
      | cons first rest => exact .displaced first rest hpolicy hqueue

lemma enqueue_config : (b.enqueue m).2.1.config = b.config := by
  have h := enqueue_cases b m
  generalize b.enqueue m = out at h
  cases h with
  | stored | refused | lost | displaced => rfl

def requeue : Bool × ShardMessageBuffer M :=
  let queue := b.queue m.shardId
  if queue.length < b.config.capacityPerShard then
    (true, b.setQueue m.shardId (queue ++ [m]))
  else (false, b.setQueue m.shardId queue)

def pauseEntity (entityId : EntityId) (pausedUntil : ℕ) : ShardMessageBuffer M :=
  { b with pausedEntities := b.pausedEntities.insert entityId pausedUntil }

def retainPaused (now : ℕ) : ShardMessageBuffer M :=
  { b with pausedEntities := b.pausedEntities.filter (fun _ pausedUntil => now < pausedUntil) }

def isEntityPaused (entityId : EntityId) (now : ℕ) : Bool × ShardMessageBuffer M :=
  let b' := b.retainPaused now
  (b'.pausedEntities.contains entityId, b')

def resumeEntity (entityId : EntityId) : ShardMessageBuffer M :=
  { b with pausedEntities := b.pausedEntities.erase entityId }

/-- Takes `n` messages off the front; a paused one goes to the back, so as many turns as there were
messages leave the kept ones in order. -/
def drainLoop (now : ℕ) (ttl : Duration) (isPaused : EntityId → Bool) :
    ℕ → Drained M → Drained M
  | 0, d => d
  | n + 1, d =>
    match d.kept with
    | [] => d
    | m :: queue =>
      if ttl < now - m.enqueuedAt then
        drainLoop now ttl isPaused n { d with kept := queue, expired := d.expired ++ [m] }
      else if isPaused m.entityId then
        drainLoop now ttl isPaused n { d with kept := queue ++ [m] }
      else drainLoop now ttl isPaused n { d with kept := queue, ready := d.ready ++ [m] }

def drainQueue (now : ℕ) (ttl : Duration) (isPaused : EntityId → Bool)
    (queue : List (BufferedEntityMessage M)) : Drained M :=
  drainLoop now ttl isPaused queue.length ⟨queue, [], []⟩

/-- Drains the queues in the order of their shards and forgets those left empty. -/
def drainReady (now : ℕ) :
    List (BufferedEntityMessage M) × List (BufferedEntityMessage M) × ShardMessageBuffer M :=
  let b' := b.retainPaused now
  let drain := drainQueue (M := M) now b.config.ttl b'.pausedEntities.contains
  (b.queues.toList.flatMap (fun p => (drain p.2).ready),
    b.queues.toList.flatMap (fun p => (drain p.2).expired),
    { b' with queues := Queues.shrink (fun q => (drain q).kept) b.queues })

section Drain
variable (now : ℕ) (ttl : Duration) (isPaused : EntityId → Bool)

def isExpired (m : BufferedEntityMessage M) : Bool := decide (ttl < now - m.enqueuedAt)

def judge (m : BufferedEntityMessage M) : Verdict DropReason :=
  if isExpired now ttl m then .drop (.expired (now - m.enqueuedAt))
  else if isPaused m.entityId then .keep
  else .release

lemma drainLoop_eq (queue kept ready expired : List (BufferedEntityMessage M)) :
    drainLoop now ttl isPaused queue.length ⟨queue ++ kept, ready, expired⟩ =
      ⟨kept ++ queue.filter (fun m => (judge now ttl isPaused m).keeps),
        ready ++ queue.filter (fun m => (judge now ttl isPaused m).releases),
        expired ++ queue.filter (isExpired now ttl)⟩ := by
  induction queue generalizing kept ready expired with
  | nil => simp [drainLoop]
  | cons m queue ih =>
    simp only [List.length_cons, List.cons_append, drainLoop]
    by_cases hexpired : ttl < now - m.enqueuedAt
    · rw [if_pos hexpired, ih]
      simp [judge, isExpired, hexpired, Verdict.keeps, Verdict.releases]
    · rw [if_neg hexpired]
      cases hpaused : isPaused m.entityId with
      | true =>
        rw [if_pos rfl, List.append_assoc, ih]
        simp [judge, isExpired, hexpired, hpaused, Verdict.keeps, Verdict.releases]
      | false =>
        rw [if_neg Bool.false_ne_true, ih]
        simp [judge, isExpired, hexpired, hpaused, Verdict.keeps, Verdict.releases]

lemma drainQueue_eq (queue : List (BufferedEntityMessage M)) : drainQueue now ttl isPaused queue =
      ⟨queue.filter (fun m => (judge now ttl isPaused m).keeps),
        queue.filter (fun m => (judge now ttl isPaused m).releases),
        queue.filter (isExpired now ttl)⟩ := by
  have h := drainLoop_eq now ttl isPaused queue [] [] []
  rwa [List.append_nil] at h

end Drain

lemma drainReady_eq (b : ShardMessageBuffer M) (now : ℕ) :
    let verdict := judge (M := M) now b.config.ttl (b.retainPaused now).pausedEntities.contains
    b.drainReady now = ((Queues.contents b.queues).filter (fun m => (verdict m).releases),
      (Queues.contents b.queues).filter (isExpired now b.config.ttl),
      { b.retainPaused now with
        queues := Queues.shrink (List.filter (fun m => (verdict m).keeps)) b.queues }) := by
  intro verdict
  simp only [drainReady, drainQueue_eq, Queues.contents, List.filter_flatMap]
  rfl

end ShardMessageBuffer
end Rakka.Sharding
