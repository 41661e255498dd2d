import Rakka.AgentWorkflow.Effect
import Rakka.Workflow.Inbox

/-! The dispatcher fleet: one record that indexes the due effects of all runs. Workers claim entries
under a lease with a fencing token and settle them; every call decides on its handle's copy and
writes with the copy's revision. -/

namespace Rakka.AgentWorkflow
open Foundation Rakka.Persistence Rakka.Workflow

structure AgentDispatchId where
  value : String
  deriving DecidableEq, Repr

structure AgentDispatcherWorkerId where
  value : String
  deriving DecidableEq, Repr

lemma AgentDispatchId.value_injective : Function.Injective AgentDispatchId.value :=
  fun ⟨_⟩ ⟨_⟩ h => congrArg AgentDispatchId.mk h

instance : LinearOrder AgentDispatchId :=
  LinearOrder.lift' AgentDispatchId.value AgentDispatchId.value_injective

instance : Std.TransOrd AgentDispatchId := inferInstance

def agentDispatchLastErrorMaxLength : ℕ := 512

def takeBytes : ℕ → List Char → List Char
  | _, [] => []
  | limit, c :: text => if c.utf8Size ≤ limit then c :: takeBytes (limit - c.utf8Size) text else []

def boundedDispatchDetail (detail : String) : String :=
  String.ofList (takeBytes agentDispatchLastErrorMaxLength
    (detail.toList.map (fun c => if c = '\n' ∨ c = '\r' then ' ' else c)))

def agentDispatcherFleetPersistenceId : PersistenceId := ⟨"agent-dispatcher-fleet:default"⟩

def agentDispatchId (runId : AgentRunId) (effectId : AgentEffectId) : AgentDispatchId :=
  ⟨runId.value ++ ":" ++ effectId.value⟩

inductive AgentDispatcherError where
  | invalidEntry (dispatchId : AgentDispatchId) (field reason : String)
  | dispatchNotFound (dispatchId : AgentDispatchId)
  | claimFenced (dispatchId : AgentDispatchId) (workerId : AgentDispatcherWorkerId)
      (fencingToken : ℕ)
  | deserialization
  | workflow (error : WorkflowError)
  | persistence (error : DurableError)
  deriving DecidableEq, Repr

inductive AgentDispatchStatus where
  | pending | claimed | completed | retryScheduled | exhausted | cancelled
  deriving DecidableEq, Repr

def AgentDispatchStatus.isTerminal : AgentDispatchStatus → Bool
  | completed | exhausted | cancelled => true
  | pending | claimed | retryScheduled => false

structure AgentDispatchLease where
  workerId : AgentDispatcherWorkerId
  fencingToken : ℕ
  claimedAt : AgentTimestampMillis
  leaseExpiresAt : AgentTimestampMillis
  deriving DecidableEq, Repr

def AgentDispatchLease.isActiveAt (lease : AgentDispatchLease) (now : AgentTimestampMillis) : Bool :=
  now < lease.leaseExpiresAt

structure AgentDispatchClaim where
  dispatchId : AgentDispatchId
  runId : AgentRunId
  effectId : AgentEffectId
  workerId : AgentDispatcherWorkerId
  fencingToken : ℕ
  claimedAt : AgentTimestampMillis
  leaseExpiresAt : AgentTimestampMillis
  targetClass : AgentDispatchTargetClass
  effectKind : AgentEffectKind
  deriving DecidableEq, Repr

structure AgentDispatchEntry where
  dispatchId : AgentDispatchId
  workflowId : Option AgentWorkflowId
  runId : AgentRunId
  effectId : AgentEffectId
  effectKind : AgentEffectKind
  target : AgentEffectTarget
  targetClass : AgentDispatchTargetClass
  dueAt : AgentTimestampMillis
  status : AgentDispatchStatus
  lease : Option AgentDispatchLease
  lastFencingToken : ℕ
  attempts : ℕ
  cancellationRequested : Bool
  lastErrorCode : Option String
  createdAt : AgentTimestampMillis
  updatedAt : AgentTimestampMillis
  completedAt : Option AgentTimestampMillis
  exhaustedAt : Option AgentTimestampMillis
  deriving DecidableEq

namespace AgentDispatchEntry

def fromDueEffect (runId : AgentRunId) (workflowId : Option AgentWorkflowId) (due : AgentDueEffect)
    (now : AgentTimestampMillis) : AgentDispatchEntry where
  dispatchId := agentDispatchId runId due.effect.effectId
  workflowId := workflowId
  runId := runId
  effectId := due.effect.effectId
  effectKind := due.effect.kind
  target := due.effect.target
  targetClass := .classify due.effect.kind due.effect.target
  dueAt := due.effect.dueAt.getD due.entry.scheduledAt
  status := .pending
  lease := none
  lastFencingToken := 0
  attempts := due.entry.attempts.attempts
  cancellationRequested := false
  lastErrorCode := due.effect.lastErrorCode
  createdAt := now
  updatedAt := now
  completedAt := none
  exhaustedAt := none

section
variable (entry : AgentDispatchEntry) (now : AgentTimestampMillis)

def isClaimableAt : Bool :=
  if entry.cancellationRequested then false
  else
    match entry.status with
    | .pending | .retryScheduled => entry.dueAt ≤ now
    | .claimed => entry.dueAt ≤ now && entry.lease.all (fun lease => !lease.isActiveAt now)
    | .completed | .exhausted | .cancelled => false

def isInFlightAt : Bool :=
  entry.status = .claimed && entry.lease.any (fun lease => lease.isActiveAt now)

/-- Whether the claim is the one the entry is leased under, and the lease has not expired. -/
def isCurrentClaim (claim : AgentDispatchClaim) (now : AgentTimestampMillis) : Bool :=
  entry.lease.any (fun lease => entry.status = .claimed && lease.workerId = claim.workerId &&
    lease.fencingToken = claim.fencingToken && lease.isActiveAt now)

def differsBeyondUpdatedAt (entry other : AgentDispatchEntry) : Bool :=
  { entry with updatedAt := other.updatedAt } ≠ other

def releaseExpired : AgentDispatchEntry :=
  if entry.lease.any (fun lease => !lease.isActiveAt now) then
    { entry with status := .pending, lease := none }
  else entry

def upsertFromDueEffect (workflowId : Option AgentWorkflowId) (due : AgentDueEffect)
    (now : AgentTimestampMillis) : AgentDispatchEntry :=
  if entry.status.isTerminal || entry.cancellationRequested then entry
  else
    { { entry with
        workflowId := workflowId.or entry.workflowId
        effectKind := due.effect.kind
        target := due.effect.target
        targetClass := .classify due.effect.kind due.effect.target
        dueAt := due.effect.dueAt.getD due.entry.scheduledAt
        attempts := due.entry.attempts.attempts
        lastErrorCode := due.effect.lastErrorCode }.releaseExpired now with updatedAt := now }

def claim (workerId : AgentDispatcherWorkerId) (now leaseDurationMs : ℕ) :
    AgentDispatchEntry × AgentDispatchClaim :=
  let fencingToken := saturatingAdd entry.lastFencingToken 1
  let leaseExpiresAt := saturatingAdd now leaseDurationMs
  ({ entry with
      status := .claimed
      lease := some ⟨workerId, fencingToken, now, leaseExpiresAt⟩
      lastFencingToken := fencingToken
      updatedAt := now },
    { dispatchId := entry.dispatchId
      runId := entry.runId
      effectId := entry.effectId
      workerId := workerId
      fencingToken := fencingToken
      claimedAt := now
      leaseExpiresAt := leaseExpiresAt
      targetClass := entry.targetClass
      effectKind := entry.effectKind })

def markCompleted : AgentDispatchEntry :=
  { entry with status := .completed, lease := none, updatedAt := now, completedAt := some now }

def markRetry (nextRetryAt : AgentTimestampMillis) (attempts : ℕ) (message : String)
    (now : AgentTimestampMillis) : AgentDispatchEntry :=
  { entry with
    status := .retryScheduled
    lease := none
    dueAt := nextRetryAt
    attempts := attempts
    lastErrorCode := some (boundedDispatchDetail message)
    updatedAt := now }

def markExhausted (attempts : ℕ) (message : String) (now : AgentTimestampMillis) :
    AgentDispatchEntry :=
  { entry with
    status := .exhausted
    lease := none
    attempts := attempts
    lastErrorCode := some (boundedDispatchDetail message)
    updatedAt := now
    exhaustedAt := some now }

def markCancelled : AgentDispatchEntry :=
  { entry with status := .cancelled, lease := none, updatedAt := now, completedAt := some now }

def markSettledCancelled (reason : String) (now : AgentTimestampMillis) : AgentDispatchEntry :=
  { entry.markCancelled now with lastErrorCode := some (boundedDispatchDetail reason) }

/-- What becomes of a claimed entry when the outbox has recorded the event. -/
def recordEvent (event : WorkflowTelemetryEvent) (now : AgentTimestampMillis) :
    AgentDispatchEntry :=
  match event with
  | .outboxDispatchRetried _ attempt nextRetryAt message
  | .outboxDispatchTimedOut _ attempt (some nextRetryAt) message =>
    entry.markRetry nextRetryAt attempt message now
  | .outboxDispatchExhausted _ attempts message | .outboxDispatchTimedOut _ attempts none message =>
    entry.markExhausted attempts message now
  | .outboxDispatchSucceeded _ _ => entry.markCompleted now
  | .outboxDispatchCancelled _ _ message => entry.markSettledCancelled message now

def requireDispatch (dispatchId : AgentDispatchId) (value field : String) :
    Except AgentDispatcherError Unit :=
  if Text.isBlank value then .error (.invalidEntry dispatchId field "must not be empty") else .ok ()

def validate : Except AgentDispatcherError Unit := do
  requireDispatch entry.dispatchId entry.dispatchId.value "dispatch_id"
  requireDispatch entry.dispatchId entry.runId.value "run_id"
  requireDispatch entry.dispatchId entry.effectId.value "effect_id"
  requireDispatch entry.dispatchId entry.target.targetType "target.target_type"
  requireDispatch entry.dispatchId entry.target.name "target.name"

end

end AgentDispatchEntry

def targetLimitKey (cls : AgentDispatchTargetClass) (targetName : String) : String :=
  cls.asLabel ++ ":" ++ targetName

structure AgentDispatchConcurrencyLimits where
  defaultLimit : ℕ
  classLimits : BTreeMap AgentDispatchTargetClass ℕ
  targetLimits : BTreeMap String ℕ

namespace AgentDispatchConcurrencyLimits
variable (limits : AgentDispatchConcurrencyLimits)

def new (defaultLimit : ℕ) : AgentDispatchConcurrencyLimits where
  defaultLimit := max defaultLimit 1
  classLimits := ([.model, .tool, .process, .a2aPeer, .http, .grpc, .webhook, .notification,
    .pushNotification, .childWorkflow] : List AgentDispatchTargetClass).foldl
      (fun limits cls => limits.insert cls (max defaultLimit 1)) ∅
  targetLimits := ∅

def classLimit (cls : AgentDispatchTargetClass) (limit : ℕ) : AgentDispatchConcurrencyLimits :=
  { limits with classLimits := limits.classLimits.insert cls (max limit 1) }

def targetLimit (cls : AgentDispatchTargetClass) (targetName : String) (limit : ℕ) :
    AgentDispatchConcurrencyLimits :=
  { limits with
    targetLimits := limits.targetLimits.insert (targetLimitKey cls targetName) (max limit 1) }

def limitFor (entry : AgentDispatchEntry) : ℕ :=
  max (((limits.targetLimits[targetLimitKey entry.targetClass entry.target.name]?).or
    limits.classLimits[entry.targetClass]?).getD limits.defaultLimit) 1

end AgentDispatchConcurrencyLimits

structure AgentDispatcherFleetSettings where
  maxBatchSize : ℕ
  leaseDurationMs : ℕ
  concurrencyLimits : AgentDispatchConcurrencyLimits
  batchPos : 0 < maxBatchSize
  leasePos : 0 < leaseDurationMs

def AgentDispatcherFleetSettings.new (maxBatchSize leaseDurationMs : ℕ) :
    AgentDispatcherFleetSettings :=
  ⟨max maxBatchSize 1, max leaseDurationMs 1, .new 32, by omega, by omega⟩

/-- Which entries a worker may claim, by an attribute of their target. -/
structure AgentDispatchClaimFilter where
  targetAttribute : Option String
  accepted : List String
  acceptUnclassified : Bool

namespace AgentDispatchClaimFilter

def any : AgentDispatchClaimFilter := ⟨none, [], true⟩

def accepts (filter : AgentDispatchClaimFilter) (entry : AgentDispatchEntry) : Bool :=
  match filter.targetAttribute with
  | none => true
  | some name =>
    match entry.target.attributes[name]? with
    | some value => filter.accepted.contains value
    | none => filter.acceptUnclassified

end AgentDispatchClaimFilter

structure AgentDispatcherFleetState where
  entries : BTreeMap AgentDispatchId AgentDispatchEntry
  updatedAt : AgentTimestampMillis

namespace AgentDispatcherFleetState
variable (state : AgentDispatcherFleetState) (now : AgentTimestampMillis)

def empty : AgentDispatcherFleetState := ⟨∅, now⟩

def entry (dispatchId : AgentDispatchId) : Option AgentDispatchEntry :=
  state.entries[dispatchId]?

def put (entry : AgentDispatchEntry) (now : AgentTimestampMillis) : AgentDispatcherFleetState :=
  ⟨state.entries.insert entry.dispatchId entry, now⟩

def claimable : List AgentDispatchEntry :=
  ((BTreeMap.valuesInOrder state.entries).filter (fun entry => entry.isClaimableAt now)).insertionSort
    (fun left right => left.dueAt < right.dueAt ∨
      left.dueAt = right.dueAt ∧ left.dispatchId ≤ right.dispatchId)

end AgentDispatcherFleetState

def bump {κ : Type} [Ord κ] [Std.TransOrd κ] (counts : BTreeMap κ ℕ) (key : κ) : BTreeMap κ ℕ :=
  counts.insert key ((counts[key]?).getD 0 + 1)

def inFlightCountsByClass (state : AgentDispatcherFleetState) (now : AgentTimestampMillis) :
    BTreeMap AgentDispatchTargetClass ℕ :=
  ((BTreeMap.valuesInOrder state.entries).filter (fun entry => entry.isInFlightAt now)).foldl
    (fun counts entry => bump counts entry.targetClass) ∅

def inFlightCountsByTarget (state : AgentDispatcherFleetState) (now : AgentTimestampMillis) :
    BTreeMap String ℕ :=
  ((BTreeMap.valuesInOrder state.entries).filter (fun entry => entry.isInFlightAt now)).foldl
    (fun counts entry => bump counts (targetLimitKey entry.targetClass entry.target.name)) ∅

structure AgentDispatcherRegistration where
  runId : AgentRunId
  observedDueEffects : ℕ
  registeredEffects : ℕ
  deriving DecidableEq, Repr

structure AgentDispatchClaimBatch where
  workerId : AgentDispatcherWorkerId
  claimedAt : AgentTimestampMillis
  dueDispatchCount : ℕ
  backpressureLimited : Bool
  concurrencyLimited : ℕ
  classFiltered : ℕ
  claims : List AgentDispatchClaim
  deriving DecidableEq, Repr

structure AgentDispatcherCancellation where
  runId : AgentRunId
  cancelledAt : AgentTimestampMillis
  cancelledEntries : ℕ
  alreadyTerminalEntries : ℕ
  inFlightEntries : ℕ
  cancelledEffectIds : List AgentEffectId
  deriving DecidableEq, Repr

abbrev FleetDecision (α : Type) := Decision AgentDispatcherError AgentDispatcherFleetState α

namespace AgentDispatcherFleet
variable (runId : AgentRunId) (now : AgentTimestampMillis)
  (record : StateRecord AgentDispatcherFleetState)
variable (settings : AgentDispatcherFleetSettings) (filter : AgentDispatchClaimFilter)
  (workerId : AgentDispatcherWorkerId)

/-- Indexes one due effect, and whether that changed an entry. -/
def registerEffect (workflowId : Option AgentWorkflowId) (now : AgentTimestampMillis)
    (acc : AgentDispatcherFleetState × ℕ) (due : AgentDueEffect) :
    Except AgentDispatcherError (AgentDispatcherFleetState × ℕ) := do
  let candidate := AgentDispatchEntry.fromDueEffect runId workflowId due now
  candidate.validate
  match acc.1.entry candidate.dispatchId with
  | none => return (acc.1.put candidate now, acc.2 + 1)
  | some existing =>
    let upserted := existing.upsertFromDueEffect workflowId due now
    if upserted.differsBeyondUpdatedAt existing then
      return (⟨acc.1.entries.insert candidate.dispatchId upserted, now⟩, acc.2 + 1)
    else return acc

def registerDueEffects (workflowId : Option AgentWorkflowId) (effects : List AgentDueEffect)
    (now : AgentTimestampMillis) (record : StateRecord AgentDispatcherFleetState) :
    FleetDecision AgentDispatcherRegistration :=
  match effects.foldlM (registerEffect runId workflowId now) (record.state, 0) with
  | .error error => .fail error
  | .ok (next, registeredEffects) =>
    let registration : AgentDispatcherRegistration := ⟨runId, effects.length, registeredEffects⟩
    if 0 < registeredEffects then .write next (fun _ => registration) else .answer registration

structure ClaimScan where
  next : AgentDispatcherFleetState
  inFlightByClass : BTreeMap AgentDispatchTargetClass ℕ
  inFlightByTarget : BTreeMap String ℕ
  claims : List AgentDispatchClaim
  concurrencyLimited : ℕ
  classFiltered : ℕ
  servable : ℕ

/-- Claims the entry unless the filter, the batch size or a concurrency limit forbids it. -/
def ClaimScan.visit (now : AgentTimestampMillis) (scan : ClaimScan) (entry : AgentDispatchEntry) :
    ClaimScan :=
  if !filter.accepts entry then { scan with classFiltered := scan.classFiltered + 1 }
  else if settings.maxBatchSize ≤ scan.claims.length then { scan with servable := scan.servable + 1 }
  else
    let targetKey := targetLimitKey entry.targetClass entry.target.name
    let limit := settings.concurrencyLimits.limitFor entry
    if limit ≤ (scan.inFlightByClass[entry.targetClass]?).getD 0 ∨
        limit ≤ (scan.inFlightByTarget[targetKey]?).getD 0 then
      { scan with
        servable := scan.servable + 1
        concurrencyLimited := scan.concurrencyLimited + 1 }
    else
      let claimed := entry.claim workerId now settings.leaseDurationMs
      { scan with
        servable := scan.servable + 1
        next := scan.next.put claimed.1 now
        inFlightByClass := bump scan.inFlightByClass claimed.2.targetClass
        inFlightByTarget := bump scan.inFlightByTarget targetKey
        claims := scan.claims ++ [claimed.2] }

def scanClaims (now : AgentTimestampMillis) (state : AgentDispatcherFleetState) : ClaimScan :=
  (state.claimable now).foldl (ClaimScan.visit settings filter workerId now)
    ⟨state, inFlightCountsByClass state now, inFlightCountsByTarget state now, [], 0, 0, 0⟩

def claimDue (now : AgentTimestampMillis) (record : StateRecord AgentDispatcherFleetState) :
    FleetDecision AgentDispatchClaimBatch :=
  let scan := scanClaims settings filter workerId now record.state
  let batch : AgentDispatchClaimBatch :=
    { workerId := workerId
      claimedAt := now
      dueDispatchCount := (record.state.claimable now).length
      backpressureLimited := scan.claims.length < scan.servable
      concurrencyLimited := scan.concurrencyLimited
      classFiltered := scan.classFiltered
      claims := scan.claims }
  if scan.claims.isEmpty then .answer batch else .write scan.next (fun _ => batch)

section
variable (entry : AgentDispatchEntry) (claim : AgentDispatchClaim)

/-- A lease that is still active is left to its worker and only marked. -/
def cancelEntry : AgentDispatchEntry :=
  if entry.runId ≠ runId ∨ entry.status.isTerminal then entry
  else if entry.isInFlightAt now then
    { entry with
      cancellationRequested := true
      lastErrorCode := some "cancellation-requested"
      updatedAt := now }
  else entry.markCancelled now

def cancelRunDispatches : FleetDecision AgentDispatcherCancellation :=
  let mine := (BTreeMap.valuesInOrder record.state.entries).filter (fun entry => entry.runId = runId)
  let terminal := mine.filter (fun entry => entry.status.isTerminal)
  let inFlight := mine.filter (fun entry => !entry.status.isTerminal && entry.isInFlightAt now)
  let cancelled := mine.filter (fun entry => !entry.status.isTerminal && !entry.isInFlightAt now)
  let result : AgentDispatcherCancellation :=
    ⟨runId, now, cancelled.length, terminal.length, inFlight.length,
      cancelled.map AgentDispatchEntry.effectId⟩
  if inFlight.isEmpty && cancelled.isEmpty then .answer result
  else
    .write ⟨record.state.entries.map (fun _ entry => cancelEntry runId now entry), now⟩
      (fun _ => result)

def isFinalizable : Bool :=
  entry.runId = runId && entry.cancellationRequested && !entry.status.isTerminal &&
    !entry.isInFlightAt now

def finalizeRunCancellations : FleetDecision (List AgentEffectId) :=
  let finalized := (BTreeMap.valuesInOrder record.state.entries).filter (isFinalizable runId now)
  let result := finalized.map AgentDispatchEntry.effectId
  if finalized.isEmpty then .answer result
  else
    .write ⟨record.state.entries.map (fun _ entry =>
      if isFinalizable runId now entry then entry.markCancelled now else entry), now⟩
      (fun _ => result)

def updateCurrentClaim (now : AgentTimestampMillis)
    (update : AgentDispatchEntry → AgentDispatchEntry)
    (record : StateRecord AgentDispatcherFleetState) : FleetDecision AgentDispatchEntry :=
  match record.state.entry claim.dispatchId with
  | none => .fail (.dispatchNotFound claim.dispatchId)
  | some entry =>
    if entry.isCurrentClaim claim now then
      let updated := update entry
      .write ⟨record.state.entries.insert claim.dispatchId updated, updated.updatedAt⟩
        (fun _ => updated)
    else .fail (.claimFenced claim.dispatchId claim.workerId claim.fencingToken)

def completeClaim (now : AgentTimestampMillis) :
    StateRecord AgentDispatcherFleetState → FleetDecision AgentDispatchEntry :=
  updateCurrentClaim claim now (fun entry => entry.markCompleted now)

def recordClaimFailure (event : WorkflowTelemetryEvent) (now : AgentTimestampMillis) :
    StateRecord AgentDispatcherFleetState → FleetDecision AgentDispatchEntry :=
  updateCurrentClaim claim now (fun entry => entry.recordEvent event now)

end

def notRecovered : AgentDispatcherError :=
  .persistence (.store "in-memory" "dispatcher fleet is not recovered")

def recover (store : InMemoryDurableStateStore AgentDispatcherFleetState) :
    Replica AgentDispatcherFleetState :=
  Replica.recover agentDispatcherFleetPersistenceId (.empty now) store

def readied (handle : Replica AgentDispatcherFleetState)
    (store : InMemoryDurableStateStore AgentDispatcherFleetState) :
    Replica AgentDispatcherFleetState :=
  if handle.record.isNone then recover now store else handle

def transact {α : Type} (decide : StateRecord AgentDispatcherFleetState → FleetDecision α) :
    Attempt AgentDispatcherError
      (Replica AgentDispatcherFleetState × InMemoryDurableStateStore AgentDispatcherFleetState) α :=
  fun (handle, store) =>
    let handle := readied now handle store
    match handle.record with
    | none => (.error notRecovered, handle, store)
    | some record =>
      Replica.perform agentDispatcherFleetPersistenceId .persistence record.revision
        (decide record) (handle, store)

def isCurrentClaim (handle : Replica AgentDispatcherFleetState) (claim : AgentDispatchClaim)
    (now : AgentTimestampMillis) : Except AgentDispatcherError Bool :=
  match handle.record with
  | none => .error notRecovered
  | some record =>
    match record.state.entry claim.dispatchId with
    | none => .error (.dispatchNotFound claim.dispatchId)
    | some entry => .ok (entry.isCurrentClaim claim now)

end AgentDispatcherFleet
end Rakka.AgentWorkflow
