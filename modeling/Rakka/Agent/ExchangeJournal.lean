import Rakka.Foundation.Fallible
import Rakka.Foundation.Window
import Rakka.Persistence.Replica

/-! The exchanges between agent entities and the journal each entity keeps of them: what it owes,
what it settled, and what it applied for others. -/

namespace Rakka.Agent
open Foundation Rakka.Persistence List
variable {resolved : ResolvedExchange} {log : List ResolvedExchange}
  {operationId : AgentOperationId}

inductive AgentRecordKind where
  | entityState
  | definitionRevision
  | settingsRevision
  | setupRevision
  | taskState
  | taskDefinition
  | taskHistoryEntry
  | runState
  | loopState
  | runEffect
  | modelTurn
  | escrowLedger
  | admissionDecision
  | exchangeJournal
  | exchangeEnvelope
  | exchangeReply
  | checkpoint
  | sessionMemoryEntry
  | memoryContextSnapshot
  | decisionEvent
  | privateMemory
  | wakePolicyRevision
  | wakeTimerState
  | goalSpec
  | goalEvaluation
  | teamState
  | teamHistoryEntry
  | conversationState
  | conversationHistoryEntry
  deriving DecidableEq, Repr

inductive AgentSchemaError where
  | versionAhead (record : AgentRecordKind) (version current : ℕ)
  | versionTooOld (record : AgentRecordKind) (version minimumSupported : ℕ)
  deriving DecidableEq, Repr

structure AgentSchemaCompatibility where
  current : ℕ
  minimumSupported : ℕ
  deriving DecidableEq, Repr

def AgentSchemaCompatibility.check (window : AgentSchemaCompatibility) (record : AgentRecordKind)
    (version : ℕ) : Except AgentSchemaError Unit :=
  if window.current < version then .error (.versionAhead record version window.current)
  else if version < window.minimumSupported then
    .error (.versionTooOld record version window.minimumSupported)
  else .ok ()

structure AgentSchemaPolicy where
  compatibility : AgentRecordKind → AgentSchemaCompatibility

def AgentSchemaPolicy.check (policy : AgentSchemaPolicy) (record : AgentRecordKind)
    (version : ℕ) : Except AgentSchemaError Unit :=
  (policy.compatibility record).check record version

structure AgentScope where
  tenant : String
  agent : String
  deriving DecidableEq, Repr

structure AgentTaskScope where
  tenant : String
  task : String
  deriving DecidableEq, Repr

structure AgentRunScope where
  tenant : String
  agent : String
  run : String
  deriving DecidableEq, Repr

structure AgentTeamScope where
  tenant : String
  team : String
  deriving DecidableEq, Repr

structure AgentConversationScope where
  tenant : String
  conversation : String
  deriving DecidableEq, Repr

inductive AgentEntityAddress where
  | agent (scope : AgentScope)
  | task (scope : AgentTaskScope)
  | run (scope : AgentRunScope)
  | team (scope : AgentTeamScope)
  | conversation (scope : AgentConversationScope)
  deriving DecidableEq, Repr

def AgentEntityAddress.tenant : AgentEntityAddress → String
  | .agent scope => scope.tenant
  | .task scope => scope.tenant
  | .run scope => scope.tenant
  | .team scope => scope.tenant
  | .conversation scope => scope.tenant

inductive AgentExchangeKind where
  | creation
  | assignment
  | resultProposal
  | budgetAllocation
  | budgetSettlement
  | budgetReturn
  | epochResult
  | goalEvaluation
  | delegationResult
  | runCancel
  | delegationCancel
  | handoffResult
  | teamClaim
  | teamClaimResult
  | dependencyRegistration
  | dependencyOutcome
  | teamTerminalNotice
  | conversationTerminalNotice
  deriving DecidableEq, Repr

structure AgentOperationId where
  value : String
  deriving DecidableEq, Repr

inductive AgentChoreographyError where
  | schema (error : AgentSchemaError)
  | persistence (error : DurableError)
  | notRecovered (address : AgentEntityAddress)
  | misrouted (target host : AgentEntityAddress)
  | foreignInitiator (initiator host : AgentEntityAddress)
  | crossTenantExchange (initiator target : AgentEntityAddress)
  | conflictingOperation (operationId : AgentOperationId) (recorded offered : AgentExchangeKind)
  | mismatchedReply (expected actual : AgentOperationId)
  | pendingOverflow (maximum : ℕ)
  | payloadTooLarge (payloadType : String) (bytes maximum : ℕ)
  | payloadEncoding (message : String)
  | payloadDecoding (payloadType message : String)
  | payloadTypeMismatch (expected actual : String)
  | unsettleableRefusal (kind : AgentExchangeKind) (code : String)
  deriving DecidableEq

def AgentSchemaPolicy.checkRecord (policy : AgentSchemaPolicy) (record : AgentRecordKind)
    (version : ℕ) : Except AgentChoreographyError Unit :=
  (policy.check record version).mapError .schema

def agentExchangePayloadMaxBytes : ℕ := 32 * 1024

def agentExchangePendingCapacity : ℕ := 64

def agentExchangeLogCapacity : ℕ := 64

def currentAgentExchangeSchemaVersion : ℕ := 1

structure AgentExchangePayload where
  payloadType : String
  bytes : List UInt8
  deriving DecidableEq, Repr

def AgentExchangePayload.validate (payload : AgentExchangePayload) :
    Except AgentChoreographyError Unit :=
  if payload.payloadType = "" then
    .error (.payloadEncoding "an exchange payload must declare a type name")
  else if agentExchangePayloadMaxBytes < payload.bytes.length then
    .error (.payloadTooLarge payload.payloadType payload.bytes.length agentExchangePayloadMaxBytes)
  else .ok ()

structure AgentExchangeEnvelope where
  schemaVersion : ℕ
  operationId : AgentOperationId
  kind : AgentExchangeKind
  initiator : AgentEntityAddress
  target : AgentEntityAddress
  payload : AgentExchangePayload
  correlationId : String
  createdAt : ℕ
  deriving DecidableEq, Repr

def AgentExchangeEnvelope.validate (envelope : AgentExchangeEnvelope) :
    Except AgentChoreographyError Unit := do
  envelope.payload.validate
  ensure (envelope.initiator.tenant = envelope.target.tenant)
    (.crossTenantExchange envelope.initiator envelope.target)

inductive AgentExchangeStatus where
  | accepted
  | rejected (code message : String)
  deriving DecidableEq, Repr

structure AgentExchangeResult where
  status : AgentExchangeStatus
  payload : AgentExchangePayload
  deriving DecidableEq, Repr

def AgentExchangeResult.isAccepted (result : AgentExchangeResult) : Bool :=
  result.status == .accepted

structure AgentExchangeReply where
  schemaVersion : ℕ
  operationId : AgentOperationId
  kind : AgentExchangeKind
  result : AgentExchangeResult
  isReplayed : Bool
  repliedAt : ℕ
  deriving DecidableEq, Repr

namespace AgentExchangeReply
variable (envelope : AgentExchangeEnvelope) (result : AgentExchangeResult)

def new (replayed : Bool) (repliedAt : ℕ) : AgentExchangeReply :=
  ⟨currentAgentExchangeSchemaVersion, envelope.operationId, envelope.kind, result, replayed,
    repliedAt⟩

def applied (repliedAt : ℕ) : AgentExchangeReply := new envelope result false repliedAt

def replayed (repliedAt : ℕ) : AgentExchangeReply := new envelope result true repliedAt

def validate (reply : AgentExchangeReply) : Except AgentChoreographyError Unit :=
  reply.result.payload.validate

end AgentExchangeReply

structure PendingExchange where
  envelope : AgentExchangeEnvelope
  attempts : ℕ
  recordedAt : ℕ
  lastAttemptAt : Option ℕ
  lastFailureCode : Option String
  deriving DecidableEq, Repr

structure ResolvedExchange where
  operationId : AgentOperationId
  kind : AgentExchangeKind
  result : AgentExchangeResult
  resolvedAt : ℕ
  deriving DecidableEq, Repr

structure AgentExchangeJournal where
  schemaVersion : ℕ
  pending : List PendingExchange
  settled : List ResolvedExchange
  applied : List ResolvedExchange
  deriving DecidableEq, Repr

inductive AgentExchangeInitiation where
  | recorded
  | alreadyPending
  | alreadySettled (result : AgentExchangeResult)
  deriving DecidableEq, Repr

inductive AgentExchangeSettlement where
  | settled (envelope : AgentExchangeEnvelope) (result : AgentExchangeResult)
  | alreadySettled (result : AgentExchangeResult)
  | unknown
  deriving DecidableEq, Repr

def findResolved (log : List ResolvedExchange) (operationId : AgentOperationId) :
    Option ResolvedExchange :=
  log.find? (fun resolved => resolved.operationId = operationId)

def checkKind (resolved : ResolvedExchange) (offered : AgentExchangeKind) :
    Except AgentChoreographyError Unit :=
  ensure (resolved.kind = offered)
    (.conflictingOperation resolved.operationId resolved.kind offered)

def pushResolved (log : List ResolvedExchange) (resolved : ResolvedExchange) :
    List ResolvedExchange :=
  window agentExchangeLogCapacity (log ++ [resolved])

namespace AgentExchangeJournal
variable (journal : AgentExchangeJournal)

def new : AgentExchangeJournal := ⟨currentAgentExchangeSchemaVersion, [], [], []⟩

def pendingExchange (operationId : AgentOperationId) : Option PendingExchange :=
  journal.pending.find? (fun pending => pending.envelope.operationId = operationId)

def initiate (envelope : AgentExchangeEnvelope) (now : ℕ) :
    Except AgentChoreographyError (AgentExchangeJournal × AgentExchangeInitiation) := do
  envelope.validate
  match findResolved journal.settled envelope.operationId with
  | some settled =>
    checkKind settled envelope.kind
    return (journal, .alreadySettled settled.result)
  | none =>
    match journal.pendingExchange envelope.operationId with
    | some pending =>
      ensure (pending.envelope.kind = envelope.kind)
        (.conflictingOperation envelope.operationId pending.envelope.kind envelope.kind)
      return (journal, .alreadyPending)
    | none =>
      ensure (journal.pending.length < agentExchangePendingCapacity)
        (.pendingOverflow agentExchangePendingCapacity)
      return ({ journal with pending := journal.pending ++ [⟨envelope, 0, now, none, none⟩] },
        .recorded)

def withdraw (operationId : AgentOperationId) : AgentExchangeJournal :=
  { journal with
    pending := journal.pending.filter (fun pending => pending.envelope.operationId ≠ operationId) }

/-- An attempt that failed under the code, on the first exchange with the operation id. -/
def noteFailure (operationId : AgentOperationId) (code : String) (now : ℕ) :
    List PendingExchange → Option (List PendingExchange)
  | [] => none
  | pending :: rest =>
    if pending.envelope.operationId = operationId then
      if pending.lastFailureCode = some code then none
      else some ({ pending with
        attempts := min (pending.attempts + 1) (2 ^ 32 - 1)
        lastAttemptAt := some now
        lastFailureCode := some code } :: rest)
    else (noteFailure operationId code now rest).map (pending :: ·)

def recordUnsettleableRefusal (operationId : AgentOperationId) (code : String) (now : ℕ) :
    Option AgentExchangeJournal :=
  (noteFailure operationId code now journal.pending).map
    (fun pending => { journal with pending })

def recordDeliveryFailure (operationId : AgentOperationId) (code : String) (now : ℕ) :
    Option AgentExchangeJournal :=
  (noteFailure operationId code now journal.pending).map
    (fun pending => { journal with pending })

def settle (operationId : AgentOperationId) (kind : AgentExchangeKind)
    (result : AgentExchangeResult) (now : ℕ) :
    Except AgentChoreographyError (AgentExchangeJournal × AgentExchangeSettlement) :=
  match findResolved journal.settled operationId with
  | some settled => do
    checkKind settled kind
    return (journal, .alreadySettled settled.result)
  | none =>
    match journal.pendingExchange operationId with
    | none => return (journal, .unknown)
    | some pending => do
      ensure (pending.envelope.kind = kind)
        (.conflictingOperation operationId pending.envelope.kind kind)
      return ({ journal with
        pending := journal.pending.eraseP
          (fun pending => pending.envelope.operationId = operationId)
        settled := pushResolved journal.settled ⟨operationId, kind, result, now⟩ },
        .settled pending.envelope result)

def appliedResult (operationId : AgentOperationId) (kind : AgentExchangeKind) :
    Except AgentChoreographyError (Option AgentExchangeResult) :=
  match findResolved journal.applied operationId with
  | none => return none
  | some applied => do
    checkKind applied kind
    return some applied.result

def recordApplied (operationId : AgentOperationId) (kind : AgentExchangeKind)
    (result : AgentExchangeResult) (now : ℕ) : AgentExchangeJournal :=
  { journal with applied := pushResolved journal.applied ⟨operationId, kind, result, now⟩ }

def pendingIds : List AgentOperationId :=
  journal.pending.map (fun pending => pending.envelope.operationId)

end AgentExchangeJournal

inductive JournalEvent where
  | recorded (operationId : AgentOperationId)
  | withdrawn (operationId : AgentOperationId)
  | settled (resolved : ResolvedExchange)
  | applied (resolved : ResolvedExchange)
  deriving DecidableEq, Repr

namespace JournalEvent

def applied? : JournalEvent → Option ResolvedExchange
  | .applied resolved => some resolved
  | _ => none

def owes (operationId : AgentOperationId) (owed : Bool) : JournalEvent → Bool
  | .recorded other => owed || other == operationId
  | .withdrawn other => owed && other != operationId
  | .settled resolved => owed && resolved.operationId != operationId
  | .applied _ => owed

end JournalEvent

def appliedLog (events : List JournalEvent) : List ResolvedExchange :=
  events.filterMap JournalEvent.applied?

def owedAfter (operationId : AgentOperationId) (events : List JournalEvent) : Bool :=
  events.foldl (JournalEvent.owes operationId) false

lemma appliedLog_append (events more : List JournalEvent) :
    appliedLog (events ++ more) = appliedLog events ++ appliedLog more := filterMap_append

lemma mem_appliedLog {events : List JournalEvent} :
    resolved ∈ appliedLog events ↔ JournalEvent.applied resolved ∈ events := by
  rw [appliedLog, mem_filterMap]
  constructor
  · rintro ⟨event, hevent, happlied⟩
    cases event <;> cases happlied
    exact hevent
  · exact fun h => ⟨_, h, rfl⟩

lemma owedAfter_push (operationId : AgentOperationId) (events : List JournalEvent)
    (event : JournalEvent) : owedAfter operationId (events ++ [event]) =
      event.owes operationId (owedAfter operationId events) := foldl_append

lemma findResolved_eq_none : findResolved log operationId = none ↔
      ∀ resolved ∈ log, resolved.operationId ≠ operationId := by
  simp [findResolved]

lemma findResolved_some (h : findResolved log operationId = some resolved) :
    resolved ∈ log ∧ resolved.operationId = operationId :=
  ⟨mem_of_find?_eq_some h, by simpa using List.find?_some h⟩

namespace AgentExchangeJournal
variable {journal : AgentExchangeJournal}

lemma pendingExchange_eq_none : journal.pendingExchange operationId = none ↔
      operationId ∉ journal.pendingIds := by
  simp [pendingExchange, pendingIds]

/-- One change of a journal, with the events it stands for. -/
inductive Changed (journal : AgentExchangeJournal) :
    List JournalEvent → AgentExchangeJournal → Prop
  | noted (pending : List PendingExchange)
      (hids : pending.map (fun pending => pending.envelope.operationId) = journal.pendingIds) :
      Changed journal [] { journal with pending }
  | recorded (pending : PendingExchange)
      (hfresh : pending.envelope.operationId ∉ journal.pendingIds) :
      Changed journal [.recorded pending.envelope.operationId]
        { journal with pending := journal.pending ++ [pending] }
  | withdrawn (operationId : AgentOperationId) :
      Changed journal [.withdrawn operationId] (journal.withdraw operationId)
  | settled (resolved : ResolvedExchange) (howed : resolved.operationId ∈ journal.pendingIds) :
      Changed journal [.settled resolved] { journal with
        pending := journal.pending.eraseP
          (fun pending => pending.envelope.operationId = resolved.operationId)
        settled := pushResolved journal.settled resolved }
  | applied (resolved : ResolvedExchange)
      (hfresh : findResolved journal.applied resolved.operationId = none) :
      Changed journal [.applied resolved]
        { journal with applied := pushResolved journal.applied resolved }

inductive Rewritten (journal : AgentExchangeJournal) :
    List JournalEvent → AgentExchangeJournal → Prop
  | refl : Rewritten journal [] journal
  | tail {events more : List JournalEvent} {middle last : AgentExchangeJournal}
      (hrun : Rewritten journal events middle) (hchange : Changed middle more last) :
      Rewritten journal (events ++ more) last

variable {middle last : AgentExchangeJournal} {events more : List JournalEvent}

lemma Changed.rewritten (h : Changed journal events last) : Rewritten journal events last := by
  have hrun := Rewritten.tail .refl h
  rwa [nil_append] at hrun

lemma Rewritten.trans (h : Rewritten journal events middle)
    (hrest : Rewritten middle more last) : Rewritten journal (events ++ more) last := by
  induction hrest with
  | refl =>
    rw [append_nil]
    exact h
  | tail _ hchange ih =>
    rw [← append_assoc]
    exact ih.tail hchange

/-- The journal tells what the events so far amount to. -/
structure Tells (events : List JournalEvent) (journal : AgentExchangeJournal) : Prop where
  applied : journal.applied = window agentExchangeLogCapacity (appliedLog events)
  owed : ∀ operationId, operationId ∈ journal.pendingIds ↔ owedAfter operationId events = true
  nodup : journal.pendingIds.Nodup

def SettledOwed (events : List JournalEvent) : Prop :=
  ∀ i resolved, events[i]? = some (.settled resolved) →
    owedAfter resolved.operationId (events.take i) = true

structure Sound (events : List JournalEvent) : Prop where
  spaced : Spaced agentExchangeLogCapacity ResolvedExchange.operationId (appliedLog events)
  settledOwed : SettledOwed events

lemma tells_new : Tells [] new := ⟨rfl, fun _ => by simp [pendingIds, new, owedAfter], .nil⟩

lemma sound_nil : Sound [] := by
  constructor
  · intro i j x y _ hx
    cases hx
  · intro i resolved h
    cases h

lemma eraseP_ids (pending : List PendingExchange) (operationId : AgentOperationId) :
    (pending.eraseP (fun pending => pending.envelope.operationId = operationId)).map
        (fun pending => pending.envelope.operationId) =
      (pending.map (fun pending => pending.envelope.operationId)).erase operationId := by
  induction pending with
  | nil => rfl
  | cons first rest ih =>
    by_cases hfirst : first.envelope.operationId = operationId
    · simp [hfirst]
    · simp [hfirst, ih]

lemma withdraw_ids (journal : AgentExchangeJournal) (operationId : AgentOperationId) :
    (journal.withdraw operationId).pendingIds =
      journal.pendingIds.filter (fun other => other ≠ operationId) := by
  simp only [pendingIds, withdraw, filter_map]
  rfl

lemma Tells.changed (h : Tells events journal) (hchange : Changed journal more last) :
    Tells (events ++ more) last := by
  cases hchange with
  | noted pending hids =>
    rw [append_nil]
    have hpending : ({ journal with pending } : AgentExchangeJournal).pendingIds =
        journal.pendingIds := hids
    exact ⟨h.applied, hpending ▸ h.owed, hpending ▸ h.nodup⟩
  | recorded pending hfresh =>
    have hpending : ({ journal with pending := journal.pending ++ [pending] } :
        AgentExchangeJournal).pendingIds =
          journal.pendingIds ++ [pending.envelope.operationId] := map_append
    refine ⟨?_, fun operationId => ?_, ?_⟩
    · rw [appliedLog_append]
      exact h.applied.trans (congrArg _ (append_nil _).symm)
    · rw [hpending, mem_append, h.owed, owedAfter_push, mem_singleton,
        JournalEvent.owes, Bool.or_eq_true, beq_iff_eq, eq_comm (b := operationId)]
    · rw [hpending]
      exact List.Nodup.append h.nodup (nodup_singleton _)
        (disjoint_singleton.mpr hfresh)
  | withdrawn =>
    refine ⟨?_, fun other => ?_, ?_⟩
    · rw [appliedLog_append]
      exact h.applied.trans (congrArg _ (append_nil _).symm)
    · rw [withdraw_ids, mem_filter, h.owed, owedAfter_push, JournalEvent.owes,
        Bool.and_eq_true, bne_iff_ne, decide_eq_true_eq, ne_comm]
    · rw [withdraw_ids]
      exact h.nodup.filter _
  | settled resolved =>
    have hpending : ({ journal with
        pending := journal.pending.eraseP
          (fun pending => pending.envelope.operationId = resolved.operationId)
        settled := pushResolved journal.settled resolved } : AgentExchangeJournal).pendingIds =
          journal.pendingIds.erase resolved.operationId := eraseP_ids _ _
    refine ⟨?_, fun other => ?_, ?_⟩
    · rw [appliedLog_append]
      exact h.applied.trans (congrArg _ (append_nil _).symm)
    · -- the identifiers are distinct, so erasing one removes it
      rw [hpending, h.nodup.mem_erase_iff, h.owed, owedAfter_push, JournalEvent.owes,
        Bool.and_eq_true, bne_iff_ne, ne_comm, and_comm]
    · rw [hpending]
      exact h.nodup.erase _
  | applied resolved =>
    refine ⟨?_, fun other => ?_, h.nodup⟩
    · rw [appliedLog_append]
      show pushResolved journal.applied resolved = _
      rw [pushResolved, h.applied, window_push]
      rfl
    · rw [owedAfter_push]
      exact h.owed other

lemma SettledOwed.append (h : SettledOwed events)
    (hmore : ∀ i resolved, more[i]? = some (.settled resolved) →
      owedAfter resolved.operationId (events ++ more.take i) = true) :
    SettledOwed (events ++ more) := by
  intro i resolved hi
  rcases Nat.lt_or_ge i events.length with hlt | hge
  · rw [List.getElem?_append_left hlt] at hi
    rw [take_append_of_le_length hlt.le]
    exact h i resolved hi
  · rw [List.getElem?_append_right hge] at hi
    rw [take_append, take_of_length_le hge]
    exact hmore _ resolved hi

lemma Sound.changed (h : Sound events) (htells : Tells events journal)
    (hchange : Changed journal more last) : Sound (events ++ more) := by
  have hlog : appliedLog more = [] → Spaced agentExchangeLogCapacity
      ResolvedExchange.operationId (appliedLog (events ++ more)) := by
    intro hnone
    rw [appliedLog_append, hnone, append_nil]
    exact h.spaced
  have hsettled : (∀ resolved, JournalEvent.settled resolved ∈ more →
      owedAfter resolved.operationId events = true) → more.length ≤ 1 →
      SettledOwed (events ++ more) := by
    intro howed hlength
    refine h.settledOwed.append (fun i resolved hi => ?_)
    have hzero : i = 0 := by
      have := (List.getElem?_eq_some_iff.mp hi).1
      omega
    subst hzero
    rw [take_zero, append_nil]
    exact howed resolved (mem_of_getElem? hi)
  cases hchange with
  | noted => exact ⟨hlog rfl, hsettled (fun _ hmem => (nomatch hmem)) (by simp)⟩
  | recorded | withdrawn =>
    exact ⟨hlog rfl, hsettled (by simp) (by simp)⟩
  | settled resolved howed =>
    refine ⟨hlog rfl, hsettled (fun other hmem => ?_) (by simp)⟩
    cases mem_singleton.mp hmem
    exact (htells.owed _).mp howed
  | applied resolved hfresh =>
    refine ⟨?_, hsettled (by simp) (by simp)⟩
    rw [appliedLog_append]
    -- an operation is applied only when the ring does not hold it
    refine h.spaced.push (fun other hmem => ?_)
    rw [← htells.applied] at hmem
    exact findResolved_eq_none.mp hfresh other hmem

lemma Rewritten.tells_sound {before : List JournalEvent} (h : Rewritten journal events last)
    (htells : Tells before journal) (hsound : Sound before) :
    Tells (before ++ events) last ∧ Sound (before ++ events) := by
  induction h with
  | refl =>
    rw [append_nil]
    exact ⟨htells, hsound⟩
  | tail _ hchange ih =>
    rw [← append_assoc]
    exact ⟨ih.1.changed hchange, ih.2.changed ih.1 hchange⟩

lemma SettledOwed.recorded_between (h : SettledOwed events) {i j : ℕ}
    {first second : ResolvedExchange} (hij : i < j) (hi : events[i]? = some (.settled first))
    (hj : events[j]? = some (.settled second)) (hid : first.operationId = second.operationId) :
    ∃ k, i < k ∧ k < j ∧ events[k]? = some (.recorded first.operationId) := by
  have hclosed : owedAfter first.operationId (events.take (i + 1)) = false := by
    rw [take_add_one, hi, Option.toList_some, owedAfter_push]
    simp [JournalEvent.owes]
  have hopen : owedAfter first.operationId (events.take j) = true := hid ▸ h j second hj
  -- as long as nothing records it, the operation stays settled
  by_contra hnone
  push Not at hnone
  have hkept : ∀ n, i + 1 + n ≤ j → owedAfter first.operationId (events.take (i + 1 + n)) = false := by
    intro n
    induction n with
    | zero => exact fun _ => hclosed
    | succ n ih =>
      intro hn
      have hbefore := ih (by omega)
      have hlt : i + 1 + n < events.length := by
        have := (List.getElem?_eq_some_iff.mp hj).1
        omega
      have hevent : events[i + 1 + n]? = some events[i + 1 + n] := List.getElem?_eq_getElem hlt
      have hother := hnone (i + 1 + n) (by omega) (by omega)
      rw [← Nat.add_assoc, take_add_one, hevent, Option.toList_some, owedAfter_push, hbefore]
      rw [hevent] at hother
      cases hkind : events[i + 1 + n] with
      | recorded =>
        rw [hkind] at hother
        simpa [JournalEvent.owes] using fun heq => hother (by rw [heq])
      | withdrawn | settled | applied => rfl
  have hlast := hkept (j - (i + 1)) (by omega)
  rw [Nat.add_sub_cancel' (by omega)] at hlast
  rw [hlast] at hopen
  cases hopen

/-! What calls leave of a journal they borrow, also where they return an error: `settle` takes the
exchange out of the pending list before it compares the kinds. -/

section InPlace
variable (journal : AgentExchangeJournal)

def initiateInPlace (envelope : AgentExchangeEnvelope) (now : ℕ) :
    Except AgentChoreographyError AgentExchangeInitiation × AgentExchangeJournal :=
  match journal.initiate envelope now with
  | .ok (next, initiation) => (.ok initiation, next)
  | .error error => (.error error, journal)

def settleInPlace (operationId : AgentOperationId) (kind : AgentExchangeKind)
    (result : AgentExchangeResult) (now : ℕ) :
    Except AgentChoreographyError AgentExchangeSettlement × AgentExchangeJournal :=
  match findResolved journal.settled operationId with
  | some settled =>
    match checkKind settled kind with
    | .error error => (.error error, journal)
    | .ok () => (.ok (.alreadySettled settled.result), journal)
  | none =>
    match journal.pendingExchange operationId with
    | none => (.ok .unknown, journal)
    | some pending =>
      let taken := { journal with
        pending := journal.pending.eraseP
          (fun pending => pending.envelope.operationId = operationId) }
      if pending.envelope.kind = kind then
        (.ok (.settled pending.envelope result), { taken with
          settled := pushResolved journal.settled ⟨operationId, kind, result, now⟩ })
      else (.error (.conflictingOperation operationId pending.envelope.kind kind), taken)

/-- A reply for a pending exchange that offers another kind. -/
def Conflicts (operationId : AgentOperationId) (kind : AgentExchangeKind) : Prop :=
  findResolved journal.settled operationId = none ∧
    ∃ pending, journal.pendingExchange operationId = some pending ∧ pending.envelope.kind ≠ kind

end InPlace

/-- The journal `settle` returns is the one the borrowed call leaves behind. -/
theorem settle_eq_inPlace (kind : AgentExchangeKind) (result : AgentExchangeResult) (now : ℕ) :
    journal.settle operationId kind result now =
      match journal.settleInPlace operationId kind result now with
      | (.ok settlement, next) => .ok (next, settlement)
      | (.error error, _) => .error error := by
  rw [settle, settleInPlace]
  cases findResolved journal.settled operationId with
  | some settled =>
    dsimp only
    cases checkKind settled kind <;> rfl
  | none =>
    cases journal.pendingExchange operationId with
    | none => rfl
    | some pending =>
      dsimp only [ensure]
      split_ifs <;> rfl

def accepted : AgentExchangeResult := ⟨.accepted, ⟨"task", []⟩⟩

def settledCreation : AgentExchangeJournal := ⟨1, [], [⟨⟨"open"⟩, .creation, accepted, 3⟩], []⟩

def pendingCreation : AgentExchangeJournal :=
  ⟨1, [⟨⟨1, ⟨"open"⟩, .creation, .task ⟨"acme", "plan"⟩, .task ⟨"acme", "draft"⟩, ⟨"task", []⟩, "", 0⟩,
    0, 0, none, none⟩], [], []⟩

end AgentExchangeJournal
end Rakka.Agent
