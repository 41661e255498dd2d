import Rakka.Persistence.Replica
import Rakka.Workflow.Model

/-! The durable inbox: every call decides on the recovered snapshot and writes the next one with
its revision. Any number of instances of one workflow share the store. -/

namespace Rakka.Workflow
open Foundation Rakka.Persistence

structure InboxCommand where
  messageId : WorkflowMessageId
  deduplicationKey : Option DeduplicationKey
  messageType : String
  payload : List UInt8
  deriving DecidableEq, Repr

inductive InboxAcceptance where
  | accepted (entry : InboxEntry) (revision : ℕ)
  | duplicate (entry : InboxEntry) (revision : ℕ)
  deriving DecidableEq, Repr

structure OutboxCommand where
  messageId : OutboxMessageId
  deduplicationKey : Option DeduplicationKey
  target : OutboxTarget
  messageType : String
  payload : List UInt8
  scheduledAt : Option ℕ
  retryPolicy : RetryPolicy
  deriving DecidableEq, Repr

inductive OutboxAcceptance where
  | scheduled (entry : OutboxEntry) (revision : ℕ)
  | duplicate (entry : OutboxEntry) (revision : ℕ)
  deriving DecidableEq, Repr

inductive OutboxDispatchResult where
  | success
  | failure (message : String)
  | timeout (message : String)
  deriving DecidableEq, Repr

inductive WorkflowError where
  | notRecovered (workflowId : WorkflowId)
  | revisionConflict (workflowId : WorkflowId) (expected actual : ℕ)
  | persistence (error : DurableError)
  | inboxEntryNotFound (workflowId : WorkflowId) (messageId : WorkflowMessageId)
  | outboxEntryNotFound (workflowId : WorkflowId) (messageId : OutboxMessageId)
  deriving DecidableEq, Repr

def mapDurableError (workflowId : WorkflowId) : DurableError → WorkflowError
  | .revisionConflict _ expected actual => .revisionConflict workflowId expected actual
  | error => .persistence error

abbrev InboxCall (α : Type) : Type :=
  Attempt WorkflowError (Replica WorkflowState × InMemoryDurableStateStore WorkflowState) α

namespace DurableInbox
variable (workflowId : WorkflowId)
variable (messageId : OutboxMessageId)

def recover (now : ℕ) : InboxCall Unit :=
  Attempt.modify (fun (_, store) =>
    (Replica.recover workflowId.persistenceId (.empty workflowId now) store, store))

def transact {α : Type}
    (decide : StateRecord WorkflowState → Decision WorkflowError WorkflowState α) : InboxCall α :=
  fun (inbox, store) =>
    match inbox.record with
    | none => (.error (.notRecovered workflowId), inbox, store)
    | some record =>
      Replica.perform workflowId.persistenceId (mapDurableError workflowId) record.revision
        (decide record) (inbox, store)

section
variable {α : Type} (decide : StateRecord WorkflowState → Decision WorkflowError WorkflowState α)
  (store : InMemoryDurableStateStore WorkflowState)
include decide store

lemma transact_of_none {inbox : Replica WorkflowState} (h : inbox.record = none) :
    transact workflowId decide (inbox, store) = (.error (.notRecovered workflowId), inbox, store) := by
  simp only [transact, h]

lemma transact_of_some {inbox : Replica WorkflowState} {record : StateRecord WorkflowState}
    (h : inbox.record = some record) : transact workflowId decide (inbox, store) =
      Replica.perform workflowId.persistenceId (mapDurableError workflowId) record.revision
        (decide record) (inbox, store) := by
  simp only [transact, h]

end

def acceptDecision (command : InboxCommand) (now : ℕ) (record : StateRecord WorkflowState) :
    Decision WorkflowError WorkflowState InboxAcceptance :=
  match record.state.inbox.existing command.messageId command.deduplicationKey with
  | some entry => .answer (.duplicate entry record.revision)
  | none =>
    let entry := InboxEntry.new command.messageId command.deduplicationKey command.messageType
      command.payload now
    .write (record.state.insertInbox entry) (fun next => .accepted entry next.revision)

def accept (command : InboxCommand) (now : ℕ) : InboxCall InboxAcceptance :=
  transact workflowId (acceptDecision command now)

def transitionInbox (messageId : WorkflowMessageId) (status : InboxStatus) (now : ℕ) :
    InboxCall InboxEntry :=
  transact workflowId (fun record =>
    match record.state.updateInboxStatus messageId status now with
    | none => .fail (.inboxEntryNotFound workflowId messageId)
    | some (entry, next) => .write next (fun _ => entry))

def scheduleDecision (command : OutboxCommand) (now : ℕ) (record : StateRecord WorkflowState) :
    Decision WorkflowError WorkflowState OutboxAcceptance :=
  match record.state.outbox.existing command.messageId command.deduplicationKey with
  | some entry => .answer (.duplicate entry record.revision)
  | none =>
    let entry := OutboxEntry.new command.messageId command.deduplicationKey command.target
      command.messageType command.payload (command.scheduledAt.getD now) command.retryPolicy
    .write (record.state.insertOutbox entry) (fun next => .scheduled entry next.revision)

def scheduleOutbox (command : OutboxCommand) (now : ℕ) : InboxCall OutboxAcceptance :=
  transact workflowId (scheduleDecision command now)

def dueOutbox (now : ℕ) : InboxCall (List OutboxEntry) :=
  transact workflowId (fun record => .answer (record.state.dueOutbox now))

def outboxUpdate {α β : Type} (update : OutboxEntry → OutboxEntry × β)
    (result : OutboxEntry → β → α) : InboxCall α :=
  transact workflowId (fun record =>
    match record.state.updateOutbox messageId update with
    | none => .fail (.outboxEntryNotFound workflowId messageId)
    | some (entry, report, next) => .write next (fun _ => result entry report))

def markOutboxDispatching (now : ℕ) : InboxCall OutboxEntry :=
  outboxUpdate workflowId messageId (fun entry => (entry.setStatus .dispatching now, ()))
    (fun entry _ => entry)

def recordOutboxSuccess (now : ℕ) : InboxCall WorkflowTelemetryEvent :=
  outboxUpdate workflowId messageId (fun entry => (entry.markDispatched now, ()))
    (fun entry _ => .outboxDispatchSucceeded entry.messageId now)

/-- Only an entry that can still be cancelled is written. -/
def recordOutboxCancelled (message : String) (now : ℕ) :
    InboxCall (Option WorkflowTelemetryEvent) :=
  transact workflowId (fun record =>
    match record.state.updateOutbox messageId (fun entry =>
      if entry.isCancellable then (entry.markCancelled now, true) else (entry, false)) with
    | none => .fail (.outboxEntryNotFound workflowId messageId)
    | some (_, false, _) => .answer none
    | some (entry, true, next) =>
      .write next (fun _ => some (.outboxDispatchCancelled entry.messageId now message)))

def recordOutboxFailure (message : String) (timedOut : Bool) (now : ℕ) :
    InboxCall WorkflowTelemetryEvent :=
  outboxUpdate workflowId messageId (fun entry => entry.recordFailure now message)
    (fun entry transition =>
      match transition with
      | .retry nextRetryAt =>
        if timedOut then
          .outboxDispatchTimedOut entry.messageId entry.attempts.attempts (some nextRetryAt) message
        else .outboxDispatchRetried entry.messageId entry.attempts.attempts nextRetryAt message
      | .exhausted => .outboxDispatchExhausted entry.messageId entry.attempts.attempts message)

def recordOutboxExhausted (message : String) (now : ℕ) : InboxCall WorkflowTelemetryEvent :=
  outboxUpdate workflowId messageId (fun entry => (entry.recordDefinitiveFailure now message, ()))
    (fun entry _ => .outboxDispatchExhausted entry.messageId entry.attempts.attempts message)

def recordDispatch (result : OutboxDispatchResult) (now : ℕ) : InboxCall WorkflowTelemetryEvent :=
  match result with
  | .success => recordOutboxSuccess workflowId messageId now
  | .failure message => recordOutboxFailure workflowId messageId message false now
  | .timeout message => recordOutboxFailure workflowId messageId message true now

def compact (policy : WorkflowStateCompactionPolicy) (now : ℕ) :
    InboxCall WorkflowStateCompactionReport :=
  transact workflowId (fun record =>
    let (report, next) := record.state.compact policy now
    .write next (fun _ => report))

end DurableInbox
end Rakka.Workflow
