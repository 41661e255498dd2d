import Rakka.AgentWorkflow.GraphState
import Rakka.AgentWorkflow.PlanValidation

/-! The scheduler of a compiled graph. Every transition checks the plan and the state it is
given and returns the next state for the caller to persist. -/

namespace Rakka.AgentWorkflow
open Foundation
variable (plan : AgentCompiledExecutionPlan) (state : AgentGraphRunState)
  (nodeId : AgentCompiledNodeId)
variable (node : AgentCompiledPlanNode) (edge : AgentCompiledPlanEdge) (now : AgentTimestampMillis)

inductive AgentGraphSchedulerError where
  | invalidCompiledPlan (error : AgentCompiledPlanValidationError)
  | planStateMismatch (field reason : String)
  | missingNodeState (nodeId : AgentCompiledNodeId)
  | unknownNode (nodeId : AgentCompiledNodeId)
  | invalidNodeTransition (nodeId : AgentCompiledNodeId) (current requested : AgentGraphNodeStatus)
  | invalidBranchSelection (nodeId : AgentCompiledNodeId) (reason : String)
  | invalidIteratorTransition (nodeId : AgentCompiledNodeId) (reason : String)
  | terminalGraph (status : AgentGraphTerminalStatus)
  | emptyCauseCode (nodeId : AgentCompiledNodeId)
  | unsupportedSchemaVersion (found supported : ℕ)
  deriving DecidableEq, Repr

def AgentGraphSchedulerError.code : AgentGraphSchedulerError → String
  | invalidCompiledPlan .. => "invalid-compiled-plan"
  | planStateMismatch .. => "graph-plan-state-mismatch"
  | missingNodeState .. => "missing-graph-node-state"
  | unknownNode .. => "unknown-graph-node"
  | invalidNodeTransition .. => "invalid-graph-node-transition"
  | invalidBranchSelection .. => "invalid-branch-selection"
  | invalidIteratorTransition .. => "invalid-iterator-transition"
  | terminalGraph .. => "terminal-graph"
  | emptyCauseCode .. => "empty-reconciliation-cause"
  | unsupportedSchemaVersion .. => "graph-state-schema-unsupported"

abbrev SchedulerResult := Except AgentGraphSchedulerError

def runnableNodesFromState : List AgentCompiledNodeId :=
  if state.terminalStatus.isSome then []
  else (state.nodeStates.toList.filter (fun entry => entry.2.status == .runnable)).map Prod.fst

structure AgentGraphSchedulerTransition where
  state : AgentGraphRunState
  changedNodeIds : List AgentCompiledNodeId
  runnableNodeIds : List AgentCompiledNodeId

def AgentGraphSchedulerTransition.new (changedNodeIds : List AgentCompiledNodeId) :
    AgentGraphSchedulerTransition :=
  ⟨state, changedNodeIds, runnableNodesFromState state⟩

def sortedDistinct {α : Type} [LinearOrder α] (as : List α) : List α :=
  (as.insertionSort (· ≤ ·)).dedup

namespace AgentCompiledExecutionPlan
variable (plan : AgentCompiledExecutionPlan)

def sortedNodes : List AgentCompiledPlanNode :=
  plan.nodes.insertionSort (fun left right => left.nodeId ≤ right.nodeId)

def nodeById (nodeId : AgentCompiledNodeId) : Option AgentCompiledPlanNode :=
  plan.nodes.find? (fun node => node.nodeId == nodeId)

def incomingEdges (nodeId : AgentCompiledNodeId) : List AgentCompiledPlanEdge :=
  (plan.edges.filter (fun edge => edge.targetNodeId == nodeId)).insertionSort
    (fun left right => left.edgeId ≤ right.edgeId)

def outgoingEdgeIds (nodeId : AgentCompiledNodeId) : List AgentCompiledEdgeId :=
  (plan.edges.filter (fun edge => edge.sourceNodeId == nodeId)).map AgentCompiledPlanEdge.edgeId

end AgentCompiledExecutionPlan

/-! ### Checks -/

def validatePlan : SchedulerResult Unit :=
  (validateCompiledExecutionPlan plan).mapError .invalidCompiledPlan

def validatePlanState : SchedulerResult Unit := do
  validatePlan plan
  ensure (state.planId = plan.planId)
    (.planStateMismatch "plan_id"
      ("state has " ++ state.planId.value ++ ", plan has " ++ plan.planId.value))
  ensure (state.planFingerprint = plan.planFingerprint)
    (.planStateMismatch "plan_fingerprint"
      ("state has " ++ state.planFingerprint.value ++ ", plan has " ++ plan.planFingerprint.value))
  ensure (state.graphSchemaVersion ≤ currentAgentGraphStateSchemaVersion)
    (.unsupportedSchemaVersion state.graphSchemaVersion currentAgentGraphStateSchemaVersion)
  plan.sortedNodes.forM (fun node =>
    ensure (state.nodeStates[node.nodeId]?).isSome (.missingNodeState node.nodeId))
  state.nodeStates.keys.forM (fun nodeId =>
    ensure (plan.nodeById nodeId).isSome (.unknownNode nodeId))

def ensureNotTerminal : SchedulerResult Unit :=
  match state.terminalStatus with
  | some status => .error (.terminalGraph status)
  | none => .ok ()

def ensureKnownNode : SchedulerResult AgentCompiledPlanNode :=
  match plan.nodeById nodeId with
  | some node => .ok node
  | none => .error (.unknownNode nodeId)

def ensureIteratorNode : SchedulerResult AgentCompiledIteratorPolicy := do
  let node ← ensureKnownNode plan nodeId
  ensure (node.kind = .iterator) (.invalidIteratorTransition nodeId "node is not an iterator")
  match node.iteratorPolicy with
  | some policy => .ok policy
  | none =>
    .error (.invalidIteratorTransition nodeId "iterator node is missing iterator policy")

def lookupNodeState : SchedulerResult AgentGraphNodeState :=
  match state.nodeStates[nodeId]? with
  | some nodeState => .ok nodeState
  | none => .error (.missingNodeState nodeId)

def ensureNodeStatus (expected next : AgentGraphNodeStatus) : SchedulerResult Unit := do
  let nodeState ← lookupNodeState state nodeId
  ensure (nodeState.status = expected) (.invalidNodeTransition nodeId nodeState.status next)

def ensureNodeWaitReason (expected : AgentGraphWaitReason) : SchedulerResult Unit := do
  let nodeState ← lookupNodeState state nodeId
  ensure (nodeState.status = .waiting)
    (.invalidNodeTransition nodeId nodeState.status .completed)
  ensure (nodeState.waitReason = some expected)
    (.invalidNodeTransition nodeId nodeState.status .completed)

def transitionNode (expected next : AgentGraphNodeStatus) (now : AgentTimestampMillis)
    (apply : AgentGraphNodeState → AgentGraphNodeState) : SchedulerResult AgentGraphRunState := do
  let nodeState ← lookupNodeState state nodeId
  ensure (nodeState.status = expected) (.invalidNodeTransition nodeId nodeState.status next)
  return (state.setNode nodeId (apply { nodeState with status := next, updatedAt := now })).advance

/-! ### Dependencies -/

def edgeSource : SchedulerResult (AgentCompiledPlanNode × AgentGraphNodeState) :=
  match plan.nodeById edge.sourceNodeId with
  | none => .error (.unknownNode edge.sourceNodeId)
  | some node =>
    match state.nodeStates[edge.sourceNodeId]? with
    | none => .error (.missingNodeState edge.sourceNodeId)
    | some nodeState => .ok (node, nodeState)

def edgeIsActive (sourceNode : AgentCompiledPlanNode) (edge : AgentCompiledPlanEdge) : Bool :=
  sourceNode.kind != .branch ||
    (state.selectedBranchPaths[sourceNode.nodeId]?).any (fun selected => selected.contains edge.edgeId)

def sourceSatisfiesDependency (sourceNode : AgentCompiledPlanNode)
    (sourceState : AgentGraphNodeState) (edge : AgentCompiledPlanEdge) : Bool :=
  edgeIsActive state sourceNode edge &&
    (sourceState.status == .completed || sourceState.status == .terminal ||
      (sourceNode.kind == .terminal && sourceState.status == .completed))

def edgeSourceCompleted : SchedulerResult Bool := do
  let (sourceNode, sourceState) ← edgeSource plan state edge
  return sourceSatisfiesDependency state sourceNode sourceState edge

def sourceNeverSatisfies (sourceNode : AgentCompiledPlanNode) (sourceState : AgentGraphNodeState)
    (edge : AgentCompiledPlanEdge) : Bool :=
  sourceState.status == .skipped || sourceState.status == .cancelled ||
    (sourceNode.kind == .branch &&
      match state.selectedBranchPaths[sourceNode.nodeId]? with
      | none => sourceState.status == .completed || sourceState.status == .terminal
      | some selected => !selected.contains edge.edgeId)

def edgePermanentlyUnsatisfied : SchedulerResult Bool := do
  let (sourceNode, sourceState) ← edgeSource plan state edge
  return sourceNeverSatisfies state sourceNode sourceState edge

def targetPortRequired : Bool :=
  (node.inputPorts.find? (fun port => port.portId == edge.targetPortId)).all (·.required)

def requiredIncomingEdges : List AgentCompiledPlanEdge :=
  (plan.incomingEdges node.nodeId).filter (targetPortRequired node)

/-- Whether every edge has settled and one of them, or an earlier one, is satisfied. -/
def settledWithCompleted (plan : AgentCompiledExecutionPlan) (state : AgentGraphRunState)
    (hasCompletedSource : Bool) : List AgentCompiledPlanEdge → SchedulerResult Bool
  | [] => .ok hasCompletedSource
  | edge :: edges => do
    let completed ← edgeSourceCompleted plan state edge
    match completed with
    | true => settledWithCompleted plan state true edges
    | false =>
      let unsatisfied ← edgePermanentlyUnsatisfied plan state edge
      match unsatisfied with
      | true => settledWithCompleted plan state hasCompletedSource edges
      | false => .ok false

def waitsForAny (edges : List AgentCompiledPlanEdge) : Bool :=
  edges.any (fun edge => edge.mergeBehavior == some .waitForAny)

def joinDependenciesSatisfied (requiredEdges : List AgentCompiledPlanEdge) : SchedulerResult Bool :=
  if waitsForAny requiredEdges then requiredEdges.anyM (edgeSourceCompleted plan state)
  else settledWithCompleted plan state false requiredEdges

def optionalDependenciesSatisfied : SchedulerResult Bool :=
  settledWithCompleted plan state false (plan.incomingEdges node.nodeId)

def optionalDependenciesBlocked : SchedulerResult Bool :=
  (plan.incomingEdges node.nodeId).allM (edgePermanentlyUnsatisfied plan state)

def dependenciesSatisfied : SchedulerResult Bool :=
  if node.nodeId ∈ plan.entryNodeIds then .ok true
  else if node.kind = .join then
    joinDependenciesSatisfied plan state (requiredIncomingEdges plan node)
  else if (requiredIncomingEdges plan node).isEmpty then optionalDependenciesSatisfied plan state node
  else (requiredIncomingEdges plan node).allM (edgeSourceCompleted plan state)

def nodeShouldSkip : SchedulerResult Bool :=
  let requiredEdges := requiredIncomingEdges plan node
  if node.kind = .join then
    if requiredEdges.isEmpty then .ok false
    else do
      let completed ← requiredEdges.anyM (edgeSourceCompleted plan state)
      match completed with
      | true => .ok false
      | false => requiredEdges.allM (edgePermanentlyUnsatisfied plan state)
  else if requiredEdges.isEmpty then optionalDependenciesBlocked plan state node
  else requiredEdges.anyM (edgePermanentlyUnsatisfied plan state)

def checkPending (check : AgentCompiledPlanNode → SchedulerResult Bool)
    (node : AgentCompiledPlanNode) : SchedulerResult Bool := do
  let nodeState ← lookupNodeState state node.nodeId
  if nodeState.status = .pending then check node else .ok false

def pendingNodesWhere (state : AgentGraphRunState)
    (check : AgentCompiledPlanNode → SchedulerResult Bool) :
    List AgentCompiledPlanNode → SchedulerResult (List AgentCompiledNodeId)
  | [] => .ok []
  | node :: nodes => do
    let selected ← checkPending state check node
    let rest ← pendingNodesWhere state check nodes
    return if selected then node.nodeId :: rest else rest

def computeReadyNodes : SchedulerResult (List AgentCompiledNodeId) := do
  validatePlanState plan state
  if state.terminalStatus.isSome then return []
  else pendingNodesWhere state (dependenciesSatisfied plan state) plan.sortedNodes

/-! ### Skips and clean-up -/

def AgentGraphNodeState.skip (nodeState : AgentGraphNodeState) (now : AgentTimestampMillis) :
    AgentGraphNodeState :=
  { nodeState with
    status := .skipped
    dependenciesReady := false
    updatedAt := now
    completedAt := some now
    waitReason := none
    errorCode := none }

def AgentGraphNodeState.cancel (nodeState : AgentGraphNodeState) (now : AgentTimestampMillis) :
    AgentGraphNodeState :=
  { nodeState with
    status := .cancelled
    dependenciesReady := false
    updatedAt := now
    completedAt := some now
    waitReason := none
    errorCode := none }

def skipNode (state : AgentGraphRunState) (nodeId : AgentCompiledNodeId) :
    SchedulerResult AgentGraphRunState := do
  let nodeState ← lookupNodeState state nodeId
  if nodeState.status = .pending then return state.setNode nodeId (nodeState.skip now)
  else return state

def skippableNodes : SchedulerResult (List AgentCompiledNodeId) :=
  pendingNodesWhere state
    (fun node => if node.nodeId ∈ plan.entryNodeIds then .ok false else nodeShouldSkip plan state node)
    plan.sortedNodes

/-- Each pass but the last skips a pending node, so they end within one more than the number of
nodes. -/
def propagateSkipsLoop (plan : AgentCompiledExecutionPlan) (now : AgentTimestampMillis) :
    ℕ → AgentGraphRunState → List AgentCompiledNodeId →
      SchedulerResult (AgentGraphRunState × List AgentCompiledNodeId)
  | 0, state, changed => .ok (state, changed)
  | passes + 1, state, changed => do
    let skipped ← skippableNodes plan state
    if skipped.isEmpty then return (state, changed)
    else
      let state ← skipped.foldlM (skipNode now) state
      propagateSkipsLoop plan now passes state (changed ++ skipped)

def propagateSkips : SchedulerResult (AgentGraphRunState × List AgentCompiledNodeId) := do
  let (state, changed) ← propagateSkipsLoop plan now (plan.nodes.length + 1) state []
  return (state, sortedDistinct changed)

def cancelUnresolvedNodes (excluded : List AgentCompiledNodeId) :
    AgentGraphRunState × List AgentCompiledNodeId :=
  let cancels (nodeId : AgentCompiledNodeId) (nodeState : AgentGraphNodeState) : Bool :=
    !excluded.contains nodeId && nodeState.status.isUnresolved
  ({ state with
      nodeStates := state.nodeStates.map (fun nodeId nodeState =>
        if cancels nodeId nodeState then nodeState.cancel now else nodeState) },
    (state.nodeStates.toList.filter (fun entry => cancels entry.1 entry.2)).map Prod.fst)

def cancelUnresolvedLoopInstances : AgentGraphRunState × List AgentCompiledNodeId :=
  ({ state with
      loopInstances := state.loopInstances.map (fun loopInstance =>
        if loopInstance.status.isUnresolved then
          { loopInstance with status := .cancelled, completedAt := some now }
        else loopInstance) },
    (state.loopInstances.filter (fun loopInstance => loopInstance.status.isUnresolved)).map
      AgentGraphLoopInstanceState.nodeId)

/-- The end of a graph run by one of its nodes: what is unresolved elsewhere is cancelled. -/
def endWith (status : AgentGraphTerminalStatus) (now : AgentTimestampMillis) :
    AgentGraphSchedulerTransition :=
  let state := { state with terminalStatus := some status }
  let (state, cancelledNodes) := cancelUnresolvedNodes state now [nodeId]
  let (state, cancelledLoops) := cancelUnresolvedLoopInstances state now
  .new state (sortedDistinct (nodeId :: (cancelledNodes ++ cancelledLoops)))

/-! ### Transitions -/

def initializeState : SchedulerResult AgentGraphRunState := do
  validatePlan plan
  return plan.sortedNodes.foldl
    (fun state node => state.setNode node.nodeId (.new node.nodeId node.kind now))
    (.new plan.planId plan.planFingerprint)

def markRunnable (state : AgentGraphRunState) (nodeId : AgentCompiledNodeId) :
    SchedulerResult AgentGraphRunState := do
  let nodeState ← lookupNodeState state nodeId
  return state.setNode nodeId
    { nodeState with status := .runnable, dependenciesReady := true, updatedAt := now }

def markReadyNodesRunnable : SchedulerResult AgentGraphSchedulerTransition := do
  ensureNotTerminal state
  let ready ← computeReadyNodes plan state
  let marked ← ready.foldlM (markRunnable now) state
  return .new (if ready.isEmpty then marked else marked.advance) ready

def startNode : SchedulerResult AgentGraphSchedulerTransition := do
  ensureNotTerminal state
  validatePlanState plan state
  let _ ← ensureKnownNode plan nodeId
  let state ← transitionNode state nodeId .runnable .running now (fun nodeState =>
    { nodeState with
      attempt := nodeState.attempt + 1
      startedAt := some now
      waitReason := none
      errorCode := none })
  return .new state [nodeId]

def AgentGraphNodeState.finish (nodeState : AgentGraphNodeState) : AgentGraphNodeState :=
  { nodeState with completedAt := some now, waitReason := none, errorCode := none }

def AgentGraphNodeState.fail (errorCode : String) (nodeState : AgentGraphNodeState) :
    AgentGraphNodeState :=
  { nodeState with completedAt := some now, errorCode := some errorCode, waitReason := none }

def completeNode : SchedulerResult AgentGraphSchedulerTransition := do
  ensureNotTerminal state
  validatePlanState plan state
  let node ← ensureKnownNode plan nodeId
  ensure (node.kind ≠ .branch) (.invalidBranchSelection nodeId
    "branch nodes must complete with selected outgoing edge ids")
  ensure (node.kind ≠ .iterator) (.invalidIteratorTransition nodeId
    "iterator nodes must complete through iterator-specific transitions")
  if node.kind = .terminal then
    let state ← transitionNode state nodeId .running .terminal now (.finish now)
    return endWith state nodeId .completed now
  else
    let state ← transitionNode state nodeId .running .completed now (.finish now)
    return .new state [nodeId]

def validateBranchSelection (branchNodeId : AgentCompiledNodeId)
    (selectedEdgeIds : List AgentCompiledEdgeId) : SchedulerResult (List AgentCompiledEdgeId) := do
  let selectedEdgeIds := sortedDistinct selectedEdgeIds
  ensure (selectedEdgeIds ≠ []) (.invalidBranchSelection branchNodeId
    "at least one outgoing edge must be selected")
  selectedEdgeIds.forM (fun edgeId =>
    ensure (edgeId ∈ plan.outgoingEdgeIds branchNodeId) (.invalidBranchSelection branchNodeId
      ("edge `" ++ edgeId.value ++ "` is not an outgoing branch edge")))
  return selectedEdgeIds

def completeBranchNode (selectedEdgeIds : List AgentCompiledEdgeId) (now : AgentTimestampMillis) :
    SchedulerResult AgentGraphSchedulerTransition := do
  ensureNotTerminal state
  validatePlanState plan state
  let node ← ensureKnownNode plan nodeId
  ensure (node.kind = .branch) (.invalidBranchSelection nodeId "node is not a branch")
  ensureNodeStatus state nodeId .running .completed
  let selectedEdgeIds ← validateBranchSelection plan nodeId selectedEdgeIds
  let nodeState ← lookupNodeState state nodeId
  let state := { state.setNode nodeId
      ({ nodeState with status := .completed, updatedAt := now }.finish now) with
    selectedBranchPaths := state.selectedBranchPaths.insert nodeId selectedEdgeIds }
  let (state, skipped) ← propagateSkips plan state now
  return .new state.advance (sortedDistinct (nodeId :: skipped))

def currentIteratorIterationIndex : Option ℕ :=
  ((state.loopInstances.filter (fun loopInstance => loopInstance.nodeId == nodeId &&
      (loopInstance.status == .pending || loopInstance.status == .running))).map
    AgentGraphLoopInstanceState.iterationIndex).min?

def nextIteratorIterationIndex : ℕ :=
  match ((state.loopInstances.filter (fun loopInstance => loopInstance.nodeId == nodeId)).map
      AgentGraphLoopInstanceState.iterationIndex).max? with
  | none => 0
  | some iterationIndex => min (iterationIndex + 1) u32Max

def startIteratorIteration : SchedulerResult AgentGraphSchedulerTransition := do
  ensureNotTerminal state
  validatePlanState plan state
  let policy ← ensureIteratorNode plan nodeId
  ensureNodeStatus state nodeId .running .running
  ensure (currentIteratorIterationIndex state nodeId = none)
    (.invalidIteratorTransition nodeId "an iteration is already active")
  let iterationIndex := nextIteratorIterationIndex state nodeId
  if policy.maxIterations.toNat ≤ iterationIndex then
    -- the other nodes and the iterations of other iterators stay as they are
    let state ← transitionNode state nodeId .running .failed now (.fail now "iterator-bound-exceeded")
    return .new { state with terminalStatus := some .failed } [nodeId]
  else
    let iteration : AgentGraphLoopInstanceState := ⟨nodeId, iterationIndex, .running, now, none⟩
    return .new { state.advance with loopInstances := state.loopInstances ++ [iteration] } [nodeId]

def closeIteration (now : AgentTimestampMillis) (nodeId : AgentCompiledNodeId) (iterationIndex : ℕ) :
    List AgentGraphLoopInstanceState → List AgentGraphLoopInstanceState
  | [] => []
  | loopInstance :: rest =>
    if loopInstance.nodeId = nodeId ∧ loopInstance.iterationIndex = iterationIndex then
      { loopInstance with status := .completed, completedAt := some now } :: rest
    else loopInstance :: closeIteration now nodeId iterationIndex rest

def completeIteratorIteration (iterationIndex : ℕ) (now : AgentTimestampMillis) :
    SchedulerResult AgentGraphSchedulerTransition := do
  ensureNotTerminal state
  validatePlanState plan state
  let _ ← ensureIteratorNode plan nodeId
  ensureNodeStatus state nodeId .running .running
  match state.loopInstances.find? (fun loopInstance => loopInstance.nodeId == nodeId &&
      loopInstance.iterationIndex == iterationIndex) with
  | none =>
    .error (.invalidIteratorTransition nodeId
      ("iteration `" ++ toString iterationIndex ++ "` does not exist"))
  | some loopInstance =>
    ensure (loopInstance.status = .running) (.invalidIteratorTransition nodeId
      ("iteration `" ++ toString iterationIndex ++ "` is `" ++ loopInstance.status.asLabel ++ "`"))
    return .new { state.advance with
      loopInstances := closeIteration now nodeId iterationIndex state.loopInstances } [nodeId]

def completeIteratorNode : SchedulerResult AgentGraphSchedulerTransition := do
  ensureNotTerminal state
  validatePlanState plan state
  let policy ← ensureIteratorNode plan nodeId
  ensureNodeStatus state nodeId .running .completed
  ensure (currentIteratorIterationIndex state nodeId = none)
    (.invalidIteratorTransition nodeId "cannot complete iterator while an iteration is active")
  ensure (nextIteratorIterationIndex state nodeId ≤ policy.maxIterations.toNat)
    (.invalidIteratorTransition nodeId "recorded iterations exceed iterator bound")
  let state ← transitionNode state nodeId .running .completed now (.finish now)
  return .new state [nodeId]

def cancelGraphRun : SchedulerResult AgentGraphSchedulerTransition := do
  validatePlanState plan state
  match state.terminalStatus with
  | some .cancelled => return .new state []
  | some status => .error (.terminalGraph status)
  | none =>
    let (state, cancelledNodes) := cancelUnresolvedNodes state now []
    let (state, cancelledLoops) := cancelUnresolvedLoopInstances state now
    return .new { state.advance with terminalStatus := some .cancelled }
      (sortedDistinct (cancelledNodes ++ cancelledLoops))

def waitNode (reason : AgentGraphWaitReason) (now : AgentTimestampMillis) :
    SchedulerResult AgentGraphSchedulerTransition := do
  ensureNotTerminal state
  validatePlanState plan state
  let _ ← ensureKnownNode plan nodeId
  let state ← transitionNode state nodeId .running .waiting now (fun nodeState =>
    { nodeState with waitReason := some reason })
  return .new state [nodeId]

def parkWaitingNode (fromReason : AgentGraphWaitReason) (causeCode : String)
    (now : AgentTimestampMillis) : SchedulerResult AgentGraphSchedulerTransition := do
  ensureNotTerminal state
  validatePlanState plan state
  let _ ← ensureKnownNode plan nodeId
  ensure (¬ Text.isBlank causeCode) (.emptyCauseCode nodeId)
  ensureNodeWaitReason state nodeId fromReason
  let state ← transitionNode state nodeId .waiting .waiting now (fun nodeState =>
    { nodeState with waitReason := some .reconciliation, errorCode := some causeCode })
  return .new { state with graphSchemaVersion := currentAgentGraphStateSchemaVersion } [nodeId]

def resumeParkedNode : SchedulerResult AgentGraphSchedulerTransition := do
  ensureNotTerminal state
  validatePlanState plan state
  let _ ← ensureKnownNode plan nodeId
  ensureNodeWaitReason state nodeId .reconciliation
  let state ← transitionNode state nodeId .waiting .running now (fun nodeState =>
    { nodeState with
      waitReason := none
      errorCode := none
      effectGeneration := min (nodeState.effectGeneration + 1) u32Max })
  return .new { state with graphSchemaVersion := currentAgentGraphStateSchemaVersion } [nodeId]

def completeWaitingNode (reason : AgentGraphWaitReason)
    (outputRefs : BTreeMap AgentCompiledPortId ArtifactRef) (now : AgentTimestampMillis) :
    SchedulerResult AgentGraphSchedulerTransition := do
  ensureNotTerminal state
  validatePlanState plan state
  let _ ← ensureKnownNode plan nodeId
  ensureNodeWaitReason state nodeId reason
  let state ← transitionNode state nodeId .waiting .completed now (fun nodeState =>
    { nodeState.finish now with
      outputRefs := outputRefs.toList.foldl (fun refs entry => refs.insert entry.1 entry.2)
        nodeState.outputRefs })
  return .new state [nodeId]

def failWaitingNode (reason : AgentGraphWaitReason) (errorCode : String)
    (now : AgentTimestampMillis) : SchedulerResult AgentGraphSchedulerTransition := do
  ensureNotTerminal state
  validatePlanState plan state
  let _ ← ensureKnownNode plan nodeId
  ensureNodeWaitReason state nodeId reason
  let state ← transitionNode state nodeId .waiting .failed now (.fail now errorCode)
  return endWith state nodeId .failed now

def failNode (errorCode : String) (now : AgentTimestampMillis) :
    SchedulerResult AgentGraphSchedulerTransition := do
  ensureNotTerminal state
  validatePlanState plan state
  let _ ← ensureKnownNode plan nodeId
  let state ← transitionNode state nodeId .running .failed now (.fail now errorCode)
  return endWith state nodeId .failed now

/-! ### Runs -/

inductive GraphOp where
  | markReadyNodesRunnable (now : AgentTimestampMillis)
  | startNode (nodeId : AgentCompiledNodeId) (now : AgentTimestampMillis)
  | completeNode (nodeId : AgentCompiledNodeId) (now : AgentTimestampMillis)
  | completeBranchNode (nodeId : AgentCompiledNodeId) (selectedEdgeIds : List AgentCompiledEdgeId)
      (now : AgentTimestampMillis)
  | startIteratorIteration (nodeId : AgentCompiledNodeId) (now : AgentTimestampMillis)
  | completeIteratorIteration (nodeId : AgentCompiledNodeId) (iterationIndex : ℕ)
      (now : AgentTimestampMillis)
  | completeIteratorNode (nodeId : AgentCompiledNodeId) (now : AgentTimestampMillis)
  | cancelGraphRun (now : AgentTimestampMillis)
  | waitNode (nodeId : AgentCompiledNodeId) (reason : AgentGraphWaitReason)
      (now : AgentTimestampMillis)
  | parkWaitingNode (nodeId : AgentCompiledNodeId) (fromReason : AgentGraphWaitReason)
      (causeCode : String) (now : AgentTimestampMillis)
  | resumeParkedNode (nodeId : AgentCompiledNodeId) (now : AgentTimestampMillis)
  | completeWaitingNode (nodeId : AgentCompiledNodeId) (reason : AgentGraphWaitReason)
      (outputRefs : BTreeMap AgentCompiledPortId ArtifactRef) (now : AgentTimestampMillis)
  | failWaitingNode (nodeId : AgentCompiledNodeId) (reason : AgentGraphWaitReason)
      (errorCode : String) (now : AgentTimestampMillis)
  | failNode (nodeId : AgentCompiledNodeId) (errorCode : String) (now : AgentTimestampMillis)

def GraphOp.transition : GraphOp → SchedulerResult AgentGraphSchedulerTransition
  | markReadyNodesRunnable now => AgentWorkflow.markReadyNodesRunnable plan state now
  | startNode nodeId now => AgentWorkflow.startNode plan state nodeId now
  | completeNode nodeId now => AgentWorkflow.completeNode plan state nodeId now
  | completeBranchNode nodeId selectedEdgeIds now =>
    AgentWorkflow.completeBranchNode plan state nodeId selectedEdgeIds now
  | startIteratorIteration nodeId now => AgentWorkflow.startIteratorIteration plan state nodeId now
  | completeIteratorIteration nodeId iterationIndex now =>
    AgentWorkflow.completeIteratorIteration plan state nodeId iterationIndex now
  | completeIteratorNode nodeId now => AgentWorkflow.completeIteratorNode plan state nodeId now
  | cancelGraphRun now => AgentWorkflow.cancelGraphRun plan state now
  | waitNode nodeId reason now => AgentWorkflow.waitNode plan state nodeId reason now
  | parkWaitingNode nodeId fromReason causeCode now =>
    AgentWorkflow.parkWaitingNode plan state nodeId fromReason causeCode now
  | resumeParkedNode nodeId now => AgentWorkflow.resumeParkedNode plan state nodeId now
  | completeWaitingNode nodeId reason outputRefs now =>
    AgentWorkflow.completeWaitingNode plan state nodeId reason outputRefs now
  | failWaitingNode nodeId reason errorCode now =>
    AgentWorkflow.failWaitingNode plan state nodeId reason errorCode now
  | failNode nodeId errorCode now => AgentWorkflow.failNode plan state nodeId errorCode now

def GraphOp.apply (op : GraphOp) : AgentGraphRunState :=
  match op.transition plan state with
  | .ok transition => transition.state
  | .error _ => state

def runGraph (ops : List GraphOp) : AgentGraphRunState :=
  ops.foldl (GraphOp.apply plan) state

end Rakka.AgentWorkflow
