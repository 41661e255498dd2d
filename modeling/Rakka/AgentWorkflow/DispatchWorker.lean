import Rakka.AgentWorkflow.FleetRuns

/-! Dispatcher workers over one fleet record and the outboxes of the runs. The calls of a worker
are cut at their store accesses, so that the accesses of other workers, the passing of time and
crashes may come between them. -/

namespace Rakka.AgentWorkflow
open Foundation Rakka.Persistence Rakka.Workflow

def boundedResult : OutboxDispatchResult → OutboxDispatchResult
  | .success => .success
  | .failure message => .failure (boundedDispatchDetail message)
  | .timeout message => .timeout (boundedDispatchDetail message)

def settlingCall (claim : AgentDispatchClaim) (event : WorkflowTelemetryEvent) :
    OutboxDispatchResult → FleetCall
  | .success => .completeClaim claim
  | .failure _ | .timeout _ => .recordClaimFailure claim event

inductive WorkerPhase where
  | idle
  | checked (claim : AgentDispatchClaim)
  | marking (claim : AgentDispatchClaim) (inbox : Replica WorkflowState)
  | dispatching (claim : AgentDispatchClaim) (inbox : Replica WorkflowState)
  | recorded (claim : AgentDispatchClaim) (result : OutboxDispatchResult)
      (event : WorkflowTelemetryEvent)
  | refreshing (runId : AgentRunId) (workflowId : Option AgentWorkflowId)
      (inbox : Replica WorkflowState)
  | cancelling (runId : AgentRunId) (effectIds : List AgentEffectId)
  | settling (runId : AgentRunId) (inbox : Replica WorkflowState)
      (effectIds : List AgentEffectId) (reason : String)
      (registering : Option (Option AgentWorkflowId))

namespace WorkerPhase

def claim : WorkerPhase → Option AgentDispatchClaim
  | checked claim | marking claim _ | dispatching claim _ | recorded claim _ _ => some claim
  | idle | refreshing _ _ _ | cancelling _ _ | settling _ _ _ _ _ => none

def recordedClaim : WorkerPhase → Option AgentDispatchClaim
  | recorded claim _ _ => some claim
  | _ => none

def inbox : WorkerPhase → Option (AgentRunId × Replica WorkflowState)
  | marking claim inbox | dispatching claim inbox => some (claim.runId, inbox)
  | refreshing runId _ inbox | settling runId inbox _ _ _ => some (runId, inbox)
  | idle | checked _ | recorded _ _ _ | cancelling _ _ => none

def unsettled : WorkerPhase → List (AgentRunId × AgentEffectId)
  | cancelling runId effectIds | settling runId _ effectIds _ _ =>
    effectIds.map (fun effectId => (runId, effectId))
  | _ => []

end WorkerPhase

structure DispatchWorker where
  held : List AgentDispatchClaim
  phase : WorkerPhase

def DispatchWorker.owned (worker : DispatchWorker) : List AgentDispatchClaim :=
  worker.held ++ worker.phase.claim.toList

structure DispatchWorld (κ : Type) where
  fleet : FleetWorld κ
  workflows : InMemoryDurableStateStore WorkflowState
  worker : κ → DispatchWorker
  handOuts : List (AgentRunId × AgentEffectId)

inductive DispatchOp (κ : Type) where
  | elapse (ms : ℕ)
  | restart (client : κ)
  | recover (client : κ)
  | schedule (runId : AgentRunId) (command : OutboxCommand)
  | refreshRun (client : κ) (runId : AgentRunId) (workflowId : Option AgentWorkflowId)
  | cancelRunDispatches (client : κ) (runId : AgentRunId)
  | claimDue (client : κ) (settings : AgentDispatcherFleetSettings)
      (filter : AgentDispatchClaimFilter) (workerId : AgentDispatcherWorkerId)
  | dispatchClaim (client : κ) (claim : AgentDispatchClaim)
  | answer (client : κ) (result : OutboxDispatchResult)
  | advance (client : κ)

namespace DispatchWorld
variable {κ : Type} [DecidableEq κ] (decode : List UInt8 → Option AgentEffect)
variable (w : DispatchWorld κ) (client : κ) (runId : AgentRunId)

def init : DispatchWorld κ := ⟨.init, .new, fun _ => ⟨[], .idle⟩, []⟩

def clock : AgentTimestampMillis := w.fleet.clock

def phase : WorkerPhase := (w.worker client).phase

def setWorker (worker : DispatchWorker) : DispatchWorld κ :=
  { w with worker := Function.update w.worker client worker }

def setPhase (phase : WorkerPhase) : DispatchWorld κ :=
  w.setWorker client { w.worker client with phase }

def loadInbox : Replica WorkflowState :=
  Replica.recover (agentRunWorkflowId runId).persistenceId (.empty (agentRunWorkflowId runId) w.clock)
    w.workflows

def dueEffects (state : WorkflowState) (now : AgentTimestampMillis) : Option (List AgentDueEffect) :=
  (state.dueOutbox now).mapM (fun entry => (decode entry.payload).map (fun effect => ⟨entry, effect⟩))

def cancelledEffects : List AgentEffectId :=
  match (w.fleet.shared.replica client).record with
  | none => []
  | some record =>
    ((BTreeMap.valuesInOrder record.state.entries).filter (fun entry =>
      entry.runId = runId && entry.status = .cancelled)).map AgentDispatchEntry.effectId

def seesCurrent (claim : AgentDispatchClaim) : Bool :=
  match AgentDispatcherFleet.isCurrentClaim (w.fleet.shared.replica client) claim w.clock with
  | .ok current => current
  | .error _ => false

/-- The next store access of the call the worker is in. -/
def advance : DispatchWorld κ :=
  match w.phase client with
  | .idle | .dispatching _ _ => w
  | .checked claim => w.setPhase client (.marking claim (w.loadInbox claim.runId))
  | .marking claim inbox =>
    match DurableInbox.markOutboxDispatching (agentRunWorkflowId claim.runId)
        claim.effectId.messageId w.clock (inbox, w.workflows) with
    | (.error _, _, store) => { w with workflows := store }.setPhase client .idle
    | (.ok entry, inbox, store) =>
      match decode entry.payload with
      | none => { w with workflows := store }.setPhase client .idle
      | some _ =>
        { w with
          workflows := store
          handOuts := w.handOuts ++ [(claim.runId, claim.effectId)] }.setPhase client
          (.dispatching claim inbox)
  | .recorded claim result event =>
    { w with fleet := (w.fleet.ask client (settlingCall claim event result)).2 }.setPhase client .idle
  | .refreshing runId workflowId inbox =>
    match w.fleet.ask client (.finalizeRunCancellations runId) with
    | (.error _, fleet) => { w with fleet }.setPhase client .idle
    | (.ok _, fleet) =>
      { w with fleet }.setPhase client (.settling runId inbox
        ({ w with fleet : DispatchWorld κ }.cancelledEffects client runId) "dispatch-cancelled"
        (some workflowId))
  | .cancelling runId effectIds =>
    w.setPhase client (.settling runId (w.loadInbox runId) effectIds "run-cancelled" none)
  | .settling runId inbox (effectId :: effectIds) reason registering =>
    if (inbox.record.bind (fun record => record.state.outboxEntry effectId.messageId)).any
        OutboxEntry.isCancellable then
      match DurableInbox.recordOutboxCancelled (agentRunWorkflowId runId) effectId.messageId reason
          w.clock (inbox, w.workflows) with
      | (.error _, _, store) => { w with workflows := store }.setPhase client .idle
      | (.ok _, inbox, store) =>
        { w with workflows := store }.setPhase client
          (.settling runId inbox effectIds reason registering)
    else w.setPhase client (.settling runId inbox effectIds reason registering)
  | .settling _ _ [] _ none => w.setPhase client .idle
  | .settling runId inbox [] _ (some workflowId) =>
    match inbox.record.bind (fun record => dueEffects decode record.state w.clock) with
    | none => w.setPhase client .idle
    | some effects =>
      { w with
        fleet := (w.fleet.ask client (.registerDueEffects runId workflowId effects)).2 }.setPhase
        client .idle

/-- The dispatcher answers; the outcome is recorded if the claim still looks current. -/
def answer (result : OutboxDispatchResult) : DispatchWorld κ :=
  match w.phase client with
  | .dispatching claim inbox =>
    if w.seesCurrent client claim then
      match DurableInbox.recordDispatch (agentRunWorkflowId claim.runId) claim.effectId.messageId
          (boundedResult result) w.clock (inbox, w.workflows) with
      | (.error _, _, store) => { w with workflows := store }.setPhase client .idle
      | (.ok event, _, store) =>
        { w with workflows := store }.setPhase client (.recorded claim result event)
    else w.setPhase client .idle
  | _ => w

def whenIdle (w' : DispatchWorld κ) : DispatchWorld κ :=
  match w.phase client with
  | .idle => w'
  | _ => w

def claimDue (settings : AgentDispatcherFleetSettings) (filter : AgentDispatchClaimFilter)
    (workerId : AgentDispatcherWorkerId) : DispatchWorld κ :=
  match w.fleet.ask client (.claimDue settings filter workerId) with
  | (.error _, fleet) => { w with fleet }
  | (.ok answer, fleet) =>
    { w with fleet }.setWorker client
      { w.worker client with held := (w.worker client).held ++ answer.claims }

def cancelRunDispatches : DispatchWorld κ :=
  match w.fleet.ask client (.cancelRunDispatches runId) with
  | (.error _, fleet) => { w with fleet }
  | (.ok answer, fleet) =>
    if answer.cancelledEffectIds.isEmpty then { w with fleet }
    else { w with fleet }.setPhase client (.cancelling runId answer.cancelledEffectIds)

def dispatchClaim (claim : AgentDispatchClaim) : DispatchWorld κ :=
  if claim ∈ (w.worker client).held then
    w.setWorker client ⟨(w.worker client).held.erase claim,
      if w.seesCurrent client claim then .checked claim else .idle⟩
  else w

def step : DispatchOp κ → DispatchWorld κ
  | .elapse ms => { w with fleet := w.fleet.step (.elapse ms) }
  | .restart client => { w with fleet := w.fleet.step (.restart client) }.setWorker client ⟨[], .idle⟩
  | .recover client => w.whenIdle client { w with fleet := w.fleet.step (.recover client) }
  | .schedule runId command =>
    { w with workflows := (DurableInbox.scheduleOutbox (agentRunWorkflowId runId) command w.clock
        (w.loadInbox runId, w.workflows)).2.2 }
  | .refreshRun client runId workflowId =>
    w.whenIdle client (w.setPhase client (.refreshing runId workflowId (w.loadInbox runId)))
  | .cancelRunDispatches client runId => w.whenIdle client (w.cancelRunDispatches client runId)
  | .claimDue client settings filter workerId =>
    w.whenIdle client (w.claimDue client settings filter workerId)
  | .dispatchClaim client claim => w.whenIdle client (w.dispatchClaim client claim)
  | .answer client result => w.answer client result
  | .advance client => w.advance decode client

def run (ops : List (DispatchOp κ)) : DispatchWorld κ :=
  ops.foldl (step decode) w

def outboxStatus (effectId : AgentEffectId) : Option OutboxStatus :=
  ((w.workflows.load (agentRunWorkflowId runId).persistenceId).bind
    (fun record => record.state.outboxEntry effectId.messageId)).map OutboxEntry.status

def holdsCurrent (claim : AgentDispatchClaim) (now : AgentTimestampMillis) : Bool :=
  (w.fleet.entry claim.dispatchId).any (fun entry => entry.isCurrentClaim claim now)

def inboxCurrent (inbox : Replica WorkflowState) : Bool :=
  inbox.record.any (fun record => record.revision =
    w.workflows.revisionOf (agentRunWorkflowId runId).persistenceId)

def fleetCurrent : Bool :=
  (w.fleet.shared.replica client).record.any (fun record => record.revision = w.fleet.revision)

/-- The claim is current in the store and in the worker's copy, and the copy of the outbox is the
stored one. -/
def answerSafe : WorkerPhase → Bool
  | .dispatching claim inbox => w.holdsCurrent claim w.clock && w.seesCurrent client claim &&
      w.inboxCurrent claim.runId inbox
  | _ => true

/-- The effect is marked while the claim is current, and a recorded outcome reaches the fleet. -/
def advanceSafe : WorkerPhase → Bool
  | .marking claim _ => w.holdsCurrent claim w.clock
  | .recorded _ _ _ => w.fleetCurrent client
  | _ => true

/-- The step marks and records under a claim that is current in the store, and between the two
records of an outcome no write is lost, no lease expires and nothing crashes. -/
def Undisturbed : DispatchOp κ → Prop
  | .elapse ms => ∀ client,
    (w.phase client).recordedClaim.all (fun claim => w.holdsCurrent claim (w.clock + ms)) = true
  | .restart client => (w.phase client).recordedClaim.isNone = true
  | .answer client _ => w.answerSafe client (w.phase client) = true
  | .advance client => w.advanceSafe client (w.phase client) = true
  | _ => True

instance [Fintype κ] (w : DispatchWorld κ) (op : DispatchOp κ) : Decidable (Undisturbed w op) := by
  cases op <;> unfold Undisturbed <;> infer_instance

end DispatchWorld
end Rakka.AgentWorkflow
