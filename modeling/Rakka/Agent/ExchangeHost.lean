import Rakka.Agent.ExchangeJournal

/-! The durable host of one participant: every call is planned on the recovered record and
committed in one write together with the journal. -/

namespace Rakka.Agent
open Foundation Rakka.Persistence

def AgentEntityAddress.persistenceId : AgentEntityAddress → PersistenceId
  | .agent scope => ⟨"agent-entity:" ++ scope.tenant ++ "/" ++ scope.agent⟩
  | .task scope => ⟨"agent-task-entity:" ++ scope.tenant ++ "/" ++ scope.task⟩
  | .run scope => ⟨"agent-run-entity:" ++ scope.tenant ++ "/" ++ scope.agent ++ "/" ++ scope.run⟩
  | .team scope => ⟨"agent-team-entity:" ++ scope.tenant ++ "/" ++ scope.team⟩
  | .conversation scope =>
    ⟨"agent-conversation-entity:" ++ scope.tenant ++ "/" ++ scope.conversation⟩

structure ExchangeState (D : Type) where
  domain : D
  journal : AgentExchangeJournal
  deriving DecidableEq

/-- A participant changes the journal only by withdrawing exchanges it owes. -/
structure DomainChange (D : Type) where
  domain : D
  withdrawn : List AgentOperationId

structure AgentExchangeTransition where
  result : AgentExchangeResult
  owed : List AgentExchangeEnvelope

structure AgentExchangeParticipant (D : Type) where
  initializeState : AgentEntityAddress → ℕ → D
  checkSchema : D → AgentSchemaPolicy → Except AgentSchemaError Unit
  apply : ExchangeState D → AgentExchangeEnvelope → ℕ → DomainChange D × AgentExchangeTransition
  checkSettle : AgentExchangeEnvelope → AgentExchangeResult → Except AgentChoreographyError Unit
  settle : ExchangeState D → AgentExchangeEnvelope → AgentExchangeResult → ℕ →
    DomainChange D × List AgentExchangeEnvelope
  sealState : ExchangeState D → ExchangeState D → ℕ → D

def AgentExchangeJournal.withdrawAll (journal : AgentExchangeJournal)
    (operationIds : List AgentOperationId) : AgentExchangeJournal :=
  operationIds.foldl AgentExchangeJournal.withdraw journal

/-- A call on a host. The transition of `initiate` is the caller's. -/
inductive ExchangeCall (D : Type) where
  | initiate (transition : ExchangeState D →
      Except AgentChoreographyError (DomainChange D × List AgentExchangeEnvelope)) (now : ℕ)
  | accept (envelope : AgentExchangeEnvelope) (now : ℕ)
  | settle (reply : AgentExchangeReply) (now : ℕ)
  | recordUnsettleableRefusal (operationId : AgentOperationId) (code : String) (now : ℕ)
  | recordDeliveryFailure (operationId : AgentOperationId) (code : String) (now : ℕ)

inductive ExchangeAnswer where
  | initiated (initiations : List AgentExchangeInitiation)
  | replied (reply : AgentExchangeReply)
  | settlement (settlement : AgentExchangeSettlement)
  | noted
  deriving DecidableEq, Repr

/-- What a call plans on the recovered state; the events are those of the journal. -/
inductive Plan (D : Type) where
  | keep (answer : ExchangeAnswer)
  | commit (next : ExchangeState D) (answer : ExchangeAnswer) (events : List JournalEvent)

def Plan.decision {D : Type} : Except AgentChoreographyError (Plan D) →
    Decision AgentChoreographyError (ExchangeState D) (ExchangeAnswer × List JournalEvent)
  | .error error => .fail error
  | .ok (.keep answer) => .answer (answer, [])
  | .ok (.commit next answer events) => .write next (fun _ => (answer, events))

def recordedEvents (envelopes : List AgentExchangeEnvelope)
    (initiations : List AgentExchangeInitiation) : List JournalEvent :=
  (envelopes.zip initiations).filterMap (fun (envelope, initiation) =>
    if initiation = .recorded then some (.recorded envelope.operationId) else none)

def appliedEvents (settles : Bool) (resolved : ResolvedExchange) : List JournalEvent :=
  if settles then [.applied resolved] else []

structure AgentExchangeHost (D : Type) where
  address : AgentEntityAddress
  participant : AgentExchangeParticipant D
  policy : AgentSchemaPolicy

namespace AgentExchangeHost
variable {D : Type} [DecidableEq D] (host : AgentExchangeHost D)
variable (envelope : AgentExchangeEnvelope)

def recoveredRecord (record : Option (StateRecord (ExchangeState D))) :
    Except AgentChoreographyError (StateRecord (ExchangeState D)) :=
  match record with
  | some record => .ok record
  | none => .error (.notRecovered host.address)

def recordOwed (journal : AgentExchangeJournal) (envelopes : List AgentExchangeEnvelope) (now : ℕ) :
    Except AgentChoreographyError (AgentExchangeJournal × List AgentExchangeInitiation) :=
  envelopes.foldlM (fun (journal, initiations) envelope => do
    ensure (envelope.initiator = host.address)
      (.foreignInitiator envelope.initiator host.address)
    let (journal, initiation) ← journal.initiate envelope now
    return (journal, initiations ++ [initiation])) (journal, [])

def initiate (transition : ExchangeState D →
      Except AgentChoreographyError (DomainChange D × List AgentExchangeEnvelope)) (now : ℕ)
    (record : Option (StateRecord (ExchangeState D))) : Except AgentChoreographyError (Plan D) := do
  let record ← host.recoveredRecord record
  let (change, envelopes) ← transition record.state
  let (journal, initiations) ←
    host.recordOwed (record.state.journal.withdrawAll change.withdrawn) envelopes now
  let domain := host.participant.sealState record.state ⟨change.domain, journal⟩ now
  return .commit ⟨domain, journal⟩ (.initiated initiations)
    (change.withdrawn.map .withdrawn ++ recordedEvents envelopes initiations)

def isUnsettleable (result : AgentExchangeResult) : Bool :=
  match host.participant.checkSettle envelope result with
  | .error (.unsettleableRefusal _ _) => true
  | _ => false

def settles (result : AgentExchangeResult) : Bool :=
  result.isAccepted || !host.isUnsettleable envelope result

def accept (now : ℕ) (record : Option (StateRecord (ExchangeState D))) :
    Except AgentChoreographyError (Plan D) := do
  host.policy.checkRecord .exchangeEnvelope envelope.schemaVersion
  envelope.validate
  ensure (envelope.target = host.address) (.misrouted envelope.target host.address)
  let record ← host.recoveredRecord record
  match ← record.state.journal.appliedResult envelope.operationId envelope.kind with
  | some result => return .keep (.replied (.replayed envelope result now))
  | none =>
    let (change, transition) := host.participant.apply record.state envelope now
    let journal := record.state.journal.withdrawAll change.withdrawn
    let domain := host.participant.sealState record.state ⟨change.domain, journal⟩ now
    let settles := host.settles envelope transition.result
    let applied : ResolvedExchange :=
      ⟨envelope.operationId, envelope.kind, transition.result, now⟩
    let recorded := if settles then
        journal.recordApplied envelope.operationId envelope.kind transition.result now
      else journal
    let (journal, initiations) ← host.recordOwed recorded transition.owed now
    let answer := ExchangeAnswer.replied (.applied envelope transition.result now)
    if settles = false ∧ transition.owed = [] ∧
        (⟨domain, journal⟩ : ExchangeState D) = record.state then
      return .keep answer
    else
      return .commit ⟨domain, journal⟩ answer
        (change.withdrawn.map .withdrawn ++
          (appliedEvents settles applied ++ recordedEvents transition.owed initiations))

def settle (reply : AgentExchangeReply) (now : ℕ)
    (record : Option (StateRecord (ExchangeState D))) : Except AgentChoreographyError (Plan D) := do
  host.policy.checkRecord .exchangeReply reply.schemaVersion
  reply.validate
  let record ← host.recoveredRecord record
  let (journal, settlement) ←
    record.state.journal.settle reply.operationId reply.kind reply.result now
  match settlement with
  | .settled envelope result =>
    host.participant.checkSettle envelope result
    let (change, owed) := host.participant.settle ⟨record.state.domain, journal⟩ envelope result now
    let (journal, initiations) ←
      host.recordOwed (journal.withdrawAll change.withdrawn) owed now
    let domain := host.participant.sealState record.state ⟨change.domain, journal⟩ now
    return .commit ⟨domain, journal⟩ (.settlement (.settled envelope result))
      (.settled ⟨reply.operationId, reply.kind, reply.result, now⟩ ::
        (change.withdrawn.map .withdrawn ++ recordedEvents owed initiations))
  | .alreadySettled result => return .keep (.settlement (.alreadySettled result))
  | .unknown => return .keep (.settlement .unknown)

/-- Both records of a failure write only a code that is new. -/
def noteFailure (note : AgentExchangeJournal → Option AgentExchangeJournal)
    (record : Option (StateRecord (ExchangeState D))) : Except AgentChoreographyError (Plan D) := do
  let record ← host.recoveredRecord record
  match note record.state.journal with
  | none => return .keep .noted
  | some journal => return .commit ⟨record.state.domain, journal⟩ .noted []

def recordUnsettleableRefusal (operationId : AgentOperationId) (code : String) (now : ℕ) :
    Option (StateRecord (ExchangeState D)) → Except AgentChoreographyError (Plan D) :=
  host.noteFailure (fun journal => journal.recordUnsettleableRefusal operationId code now)

def recordDeliveryFailure (operationId : AgentOperationId) (code : String) (now : ℕ) :
    Option (StateRecord (ExchangeState D)) → Except AgentChoreographyError (Plan D) :=
  host.noteFailure (fun journal => journal.recordDeliveryFailure operationId code now)

def plan (call : ExchangeCall D) (record : Option (StateRecord (ExchangeState D))) :
    Except AgentChoreographyError (Plan D) :=
  match call with
  | .initiate transition now => host.initiate transition now record
  | .accept envelope now => host.accept envelope now record
  | .settle reply now => host.settle reply now record
  | .recordUnsettleableRefusal operationId code now =>
    host.recordUnsettleableRefusal operationId code now record
  | .recordDeliveryFailure operationId code now =>
    host.recordDeliveryFailure operationId code now record

/-- A plan is carried out on the stored record; a revision conflict drops the host's copy. -/
def perform (call : ExchangeCall D) : Attempt AgentChoreographyError
      (Replica (ExchangeState D) × InMemoryDurableStateStore (ExchangeState D))
      (ExchangeAnswer × List JournalEvent) :=
  fun (replica, store) =>
    let out := Replica.perform host.address.persistenceId .persistence
      ((replica.record.map StateRecord.revision).getD Revision.initial)
      (Plan.decision (host.plan call replica.record)) (replica, store)
    (out.1, if out.2.1.stale then Replica.new else out.2.1, out.2.2)

/-- A record of an unsupported version is refused and the copy left as it was. -/
def recover (now : ℕ) : Attempt AgentChoreographyError
      (Replica (ExchangeState D) × InMemoryDurableStateStore (ExchangeState D)) Unit :=
  fun (replica, store) =>
    match store.load host.address.persistenceId with
    | none =>
      (.ok (), ⟨some ⟨⟨host.participant.initializeState host.address now, .new⟩, Revision.initial⟩,
        false⟩, store)
    | some record =>
      match host.policy.checkRecord .exchangeJournal record.state.journal.schemaVersion with
      | .error error => (.error error, replica, store)
      | .ok () =>
        match host.participant.checkSchema record.state.domain host.policy with
        | .error error => (.error (.schema error), replica, store)
        | .ok () => (.ok (), ⟨some record, false⟩, store)

end AgentExchangeHost

structure AgentExchangeDeliveryError where
  code : String
  message : String

structure AgentExchangeDriveReport where
  outstanding : ℕ := 0
  settled : ℕ := 0
  duplicateReplies : ℕ := 0
  unknownReplies : ℕ := 0
  failed : ℕ := 0
  unsettleable : List (AgentExchangeKind × String) := []

namespace AgentExchangeHost
variable {D : Type} [DecidableEq D] (host : AgentExchangeHost D)

/-- The settlement of a reply is counted; a refusal that stays outstanding is noted. -/
def countSettlement (now : ℕ) (report : AgentExchangeDriveReport)
    (envelope : AgentExchangeEnvelope) :
    Except AgentChoreographyError (ExchangeAnswer × List JournalEvent) ×
      Replica (ExchangeState D) × InMemoryDurableStateStore (ExchangeState D) →
    Except AgentChoreographyError AgentExchangeDriveReport ×
      Replica (ExchangeState D) × InMemoryDurableStateStore (ExchangeState D)
  | (.ok (.settlement (.settled _ _), _), hosted) =>
    (.ok { report with settled := report.settled + 1 }, hosted)
  | (.ok (.settlement (.alreadySettled _), _), hosted) =>
    (.ok { report with duplicateReplies := report.duplicateReplies + 1 }, hosted)
  | (.ok (.settlement .unknown, _), hosted) =>
    (.ok { report with unknownReplies := report.unknownReplies + 1 }, hosted)
  -- settling answers with a settlement only
  | (.ok _, hosted) => (.ok report, hosted)
  | (.error (.unsettleableRefusal _ code), hosted) =>
    (host.perform (.recordUnsettleableRefusal envelope.operationId code now) >>= fun _ =>
      pure { report with
        unsettleable := report.unsettleable ++ [(envelope.kind, code)]
        failed := report.failed + 1 }) hosted
  | (.error error, hosted) => (.error error, hosted)

def settleDelivered (now : ℕ) (report : AgentExchangeDriveReport)
    (envelope : AgentExchangeEnvelope) (reply : AgentExchangeReply) : Attempt AgentChoreographyError
      (Replica (ExchangeState D) × InMemoryDurableStateStore (ExchangeState D))
      AgentExchangeDriveReport :=
  fun hosted => host.countSettlement now report envelope (host.perform (.settle reply now) hosted)

/-- What the transport returned for one envelope is settled or noted. -/
def driveExchange (deliver : AgentExchangeEnvelope →
      Except AgentExchangeDeliveryError AgentExchangeReply) (now : ℕ)
    (report : AgentExchangeDriveReport) (envelope : AgentExchangeEnvelope) :
    Attempt AgentChoreographyError
      (Replica (ExchangeState D) × InMemoryDurableStateStore (ExchangeState D))
      AgentExchangeDriveReport :=
  match deliver envelope with
  | .error error => do
    let _ ← host.perform (.recordDeliveryFailure envelope.operationId error.code now)
    return { report with failed := report.failed + 1 }
  | .ok reply =>
    if reply.operationId ≠ envelope.operationId then
      Attempt.fail (.mismatchedReply envelope.operationId reply.operationId)
    else host.settleDelivered now report envelope reply

/-- Every exchange the entity owes is delivered once. -/
def drivePendingExchanges (deliver : AgentExchangeEnvelope →
      Except AgentExchangeDeliveryError AgentExchangeReply) (now : ℕ) :
    Attempt AgentChoreographyError
      (Replica (ExchangeState D) × InMemoryDurableStateStore (ExchangeState D))
      AgentExchangeDriveReport := do
  let (replica, _) ← Attempt.get
  match replica.record with
  | none => Attempt.fail (.notRecovered host.address)
  | some record =>
    let outstanding := record.state.journal.pending.map PendingExchange.envelope
    outstanding.foldlM (host.driveExchange deliver now) { outstanding := outstanding.length }

end AgentExchangeHost
end Rakka.Agent
