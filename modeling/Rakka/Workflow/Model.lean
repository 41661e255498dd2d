import Rakka.Persistence.Store
import Rakka.Workflow.Ledger

/-! The durable snapshot of a workflow: its inbox and its outbox, the transitions of their
entries, and compaction. -/

namespace Rakka.Workflow
open Foundation Rakka.Persistence

structure WorkflowId where
  value : String
  deriving DecidableEq, Repr

def WorkflowId.persistenceId (workflowId : WorkflowId) : PersistenceId :=
  ⟨"workflow:" ++ workflowId.value⟩

structure WorkflowMessageId where
  value : String
  deriving DecidableEq, Repr

structure OutboxMessageId where
  value : String
  deriving DecidableEq, Repr

lemma WorkflowMessageId.value_injective : Function.Injective WorkflowMessageId.value :=
  fun ⟨_⟩ ⟨_⟩ h => congrArg WorkflowMessageId.mk h

lemma OutboxMessageId.value_injective : Function.Injective OutboxMessageId.value :=
  fun ⟨_⟩ ⟨_⟩ h => congrArg OutboxMessageId.mk h

instance : LinearOrder WorkflowMessageId :=
  LinearOrder.lift' WorkflowMessageId.value WorkflowMessageId.value_injective

instance : LinearOrder OutboxMessageId :=
  LinearOrder.lift' OutboxMessageId.value OutboxMessageId.value_injective

instance : Std.TransOrd WorkflowMessageId := inferInstance

instance : Std.TransOrd OutboxMessageId := inferInstance

inductive OutboxTarget where
  | actor (path : String)
  | entity (entityType entityId : String)
  | application (name : String)
  deriving DecidableEq, Repr

inductive WorkflowStatus where
  | active | completed | failed
  deriving DecidableEq, Repr

inductive InboxStatus where
  | pending | processing | completed | failed
  deriving DecidableEq, Repr

inductive OutboxStatus where
  | pending | dispatching | dispatched | failed | exhausted | cancelled
  deriving DecidableEq, Repr

def OutboxStatus.isTerminal : OutboxStatus → Bool
  | dispatched | exhausted | cancelled => true
  | pending | dispatching | failed => false

structure RetryAttempt where
  attempts : ℕ
  maxAttempts : Option ℕ
  nextRetryAt : Option ℕ
  lastError : Option String
  deriving DecidableEq, Repr

namespace RetryAttempt

def new : RetryAttempt := ⟨0, none, none, none⟩

def recordFailure (attempt : RetryAttempt) (now delayMillis : ℕ) (error : String) : RetryAttempt :=
  { attempt with
    attempts := attempt.attempts + 1
    nextRetryAt := some (now + delayMillis)
    lastError := some error }

def recordExhaustion (attempt : RetryAttempt) (error : String) : RetryAttempt :=
  { attempt with
    attempts := attempt.attempts + 1
    nextRetryAt := none
    lastError := some error }

end RetryAttempt

inductive RetryJitter where
  | none
  | fixedMillis (millis : ℕ)
  deriving DecidableEq, Repr

def RetryJitter.millis : RetryJitter → ℕ
  | none => 0
  | fixedMillis millis => millis

structure RetryPolicy where
  maxAttempts : ℕ
  initialBackoffMillis : ℕ
  maxBackoffMillis : ℕ
  multiplier : ℕ
  jitter : RetryJitter
  deriving DecidableEq, Repr

namespace RetryPolicy

def new (maxAttempts initialBackoffMillis maxBackoffMillis : ℕ) : RetryPolicy :=
  ⟨maxAttempts, initialBackoffMillis, maxBackoffMillis, 2, .none⟩

def default : RetryPolicy := new 3 1000 30000

def isExhaustedAfter (policy : RetryPolicy) (attempts : ℕ) : Bool := policy.maxAttempts ≤ attempts

def delayAfterFailure (policy : RetryPolicy) (attempts : ℕ) : ℕ :=
  let delay := (List.range (attempts - 1)).foldl
    (fun delay _ => saturatingMul delay (max policy.multiplier 1)) policy.initialBackoffMillis
  saturatingAdd (min delay policy.maxBackoffMillis) policy.jitter.millis

end RetryPolicy

structure InboxEntry where
  messageId : WorkflowMessageId
  deduplicationKey : Option DeduplicationKey
  messageType : String
  payload : List UInt8
  status : InboxStatus
  attempts : RetryAttempt
  acceptedAt : ℕ
  updatedAt : ℕ
  deriving DecidableEq, Repr

def InboxEntry.new (messageId : WorkflowMessageId) (deduplicationKey : Option DeduplicationKey)
    (messageType : String) (payload : List UInt8) (now : ℕ) : InboxEntry :=
  ⟨messageId, deduplicationKey, messageType, payload, .pending, .new, now, now⟩

def InboxEntry.setStatus (entry : InboxEntry) (status : InboxStatus) (now : ℕ) : InboxEntry :=
  { entry with status, updatedAt := now }

structure OutboxEntry where
  messageId : OutboxMessageId
  deduplicationKey : Option DeduplicationKey
  target : OutboxTarget
  messageType : String
  payload : List UInt8
  status : OutboxStatus
  attempts : RetryAttempt
  retryPolicy : RetryPolicy
  scheduledAt : ℕ
  updatedAt : ℕ
  deriving DecidableEq, Repr

inductive OutboxFailureTransition where
  | retry (nextRetryAt : ℕ)
  | exhausted
  deriving DecidableEq, Repr

namespace OutboxEntry
variable (entry : OutboxEntry)

def new (messageId : OutboxMessageId) (deduplicationKey : Option DeduplicationKey)
    (target : OutboxTarget) (messageType : String) (payload : List UInt8) (scheduledAt : ℕ)
    (retryPolicy : RetryPolicy) : OutboxEntry :=
  ⟨messageId, deduplicationKey, target, messageType, payload, .pending,
    { RetryAttempt.new with maxAttempts := some retryPolicy.maxAttempts }, retryPolicy, scheduledAt,
    scheduledAt⟩

def isDue (now : ℕ) : Bool :=
  match entry.status with
  | .pending => entry.scheduledAt ≤ now
  | .failed =>
    match entry.attempts.nextRetryAt with
    | some next => next ≤ now
    | none => false
  | .dispatching => true
  | .dispatched | .exhausted | .cancelled => false

def isCancellable : Bool :=
  match entry.status with
  | .pending | .dispatching | .failed => true
  | .dispatched | .exhausted | .cancelled => false

def setStatus (status : OutboxStatus) (now : ℕ) : OutboxEntry :=
  { entry with status, updatedAt := now }

def markDispatched (now : ℕ) : OutboxEntry := entry.setStatus .dispatched now

def markCancelled (now : ℕ) : OutboxEntry := entry.setStatus .cancelled now

def recordFailure (now : ℕ) (message : String) : OutboxEntry × OutboxFailureTransition :=
  let failedAttempts := entry.attempts.attempts + 1
  if entry.retryPolicy.isExhaustedAfter failedAttempts then
    ({ entry with attempts := entry.attempts.recordExhaustion message }.setStatus .exhausted now,
      .exhausted)
  else
    let delay := entry.retryPolicy.delayAfterFailure failedAttempts
    ({ entry with attempts := entry.attempts.recordFailure now delay message }.setStatus .failed now,
      .retry (now + delay))

def recordDefinitiveFailure (now : ℕ) (message : String) : OutboxEntry :=
  { entry with attempts := entry.attempts.recordExhaustion message }.setStatus .exhausted now

end OutboxEntry

inductive WorkflowTelemetryEvent where
  | outboxDispatchSucceeded (messageId : OutboxMessageId) («at» : ℕ)
  | outboxDispatchRetried (messageId : OutboxMessageId) (attempt nextRetryAt : ℕ)
      (message : String)
  | outboxDispatchTimedOut (messageId : OutboxMessageId) (attempt : ℕ) (nextRetryAt : Option ℕ)
      (message : String)
  | outboxDispatchExhausted (messageId : OutboxMessageId) (attempts : ℕ) (message : String)
  | outboxDispatchCancelled (messageId : OutboxMessageId) («at» : ℕ) (message : String)
  deriving DecidableEq, Repr

structure WorkflowStateCompactionPolicy where
  completedInboxEntryRetentionMs : Option ℕ
  completedOutboxEntryRetentionMs : Option ℕ
  deduplicationKeyRetentionMs : Option ℕ
  deriving DecidableEq, Repr

structure WorkflowStateCompactionReport where
  removedInboxEntries : ℕ
  removedInboxDeduplicationKeys : ℕ
  removedOutboxEntries : ℕ
  removedOutboxDeduplicationKeys : ℕ
  deriving DecidableEq, Repr

def windowElapsed (timestamp retentionMs now : ℕ) : Bool := retentionMs ≤ now - timestamp

def shouldRemoveTerminalWorkflowEntry (terminalAt : ℕ) (entryRetentionMs : Option ℕ)
    (hasDeduplicationKey : Bool) (deduplicationRetentionMs : Option ℕ) (now : ℕ) : Bool :=
  match entryRetentionMs with
  | none => false
  | some entryRetentionMs =>
    if !windowElapsed terminalAt entryRetentionMs now then false
    else if !hasDeduplicationKey then true
    else
      match deduplicationRetentionMs with
      | some retentionMs => windowElapsed terminalAt retentionMs now
      | none => false

structure WorkflowState where
  workflowId : WorkflowId
  status : WorkflowStatus
  inbox : Ledger WorkflowMessageId InboxEntry
  outbox : Ledger OutboxMessageId OutboxEntry
  updatedAt : ℕ

namespace WorkflowState
variable (state : WorkflowState)
variable (messageId : OutboxMessageId) (entry : OutboxEntry)

def empty (workflowId : WorkflowId) (now : ℕ) : WorkflowState :=
  ⟨workflowId, .active, .empty, .empty, now⟩

def inboxEntry (messageId : WorkflowMessageId) : Option InboxEntry :=
  state.inbox.entries[messageId]?

def outboxEntry : Option OutboxEntry :=
  state.outbox.entries[messageId]?

def inboxEntryByDeduplicationKey (key : DeduplicationKey) : Option InboxEntry :=
  state.inbox.entryByDeduplicationKey key

def outboxEntryByDeduplicationKey (key : DeduplicationKey) : Option OutboxEntry :=
  state.outbox.entryByDeduplicationKey key

def dueOutbox (now : ℕ) : List OutboxEntry :=
  (BTreeMap.valuesInOrder state.outbox.entries).filter (fun entry => entry.isDue now)

def insertInbox (entry : InboxEntry) : WorkflowState :=
  { state with
    inbox := state.inbox.insert entry.messageId entry.deduplicationKey entry
    updatedAt := entry.updatedAt }

def insertOutbox : WorkflowState :=
  { state with
    outbox := state.outbox.insert entry.messageId entry.deduplicationKey entry
    updatedAt := entry.updatedAt }

def updateInboxStatus (messageId : WorkflowMessageId) (status : InboxStatus) (now : ℕ) :
    Option (InboxEntry × WorkflowState) :=
  (state.inboxEntry messageId).map (fun entry =>
    let entry := entry.setStatus status now
    (entry, { state with inbox := state.inbox.update messageId entry, updatedAt := now }))

def replaceOutbox : WorkflowState :=
  { state with outbox := state.outbox.update messageId entry, updatedAt := entry.updatedAt }

def updateOutbox {β : Type} (update : OutboxEntry → OutboxEntry × β) :
    Option (OutboxEntry × β × WorkflowState) :=
  (state.outboxEntry messageId).map (fun entry =>
    ((update entry).1, (update entry).2, state.replaceOutbox messageId (update entry).1))

def inboxEntryGoes (policy : WorkflowStateCompactionPolicy) (now : ℕ) (entry : InboxEntry) : Bool :=
  entry.status = .completed &&
    shouldRemoveTerminalWorkflowEntry entry.updatedAt policy.completedInboxEntryRetentionMs
      entry.deduplicationKey.isSome policy.deduplicationKeyRetentionMs now

def outboxEntryGoes (policy : WorkflowStateCompactionPolicy) (now : ℕ) (entry : OutboxEntry) :
    Bool :=
  entry.status.isTerminal &&
    shouldRemoveTerminalWorkflowEntry entry.updatedAt policy.completedOutboxEntryRetentionMs
      entry.deduplicationKey.isSome policy.deduplicationKeyRetentionMs now

def compact (policy : WorkflowStateCompactionPolicy) (now : ℕ) :
    WorkflowStateCompactionReport × WorkflowState :=
  let inbox := state.inbox.compact InboxEntry.deduplicationKey (inboxEntryGoes policy now)
  let outbox := state.outbox.compact OutboxEntry.deduplicationKey (outboxEntryGoes policy now)
  let report : WorkflowStateCompactionReport := ⟨inbox.2.1, inbox.2.2, outbox.2.1, outbox.2.2⟩
  (report, { state with
      inbox := inbox.1
      outbox := outbox.1
      updatedAt := if report = ⟨0, 0, 0, 0⟩ then state.updatedAt else now })

end WorkflowState
end Rakka.Workflow
