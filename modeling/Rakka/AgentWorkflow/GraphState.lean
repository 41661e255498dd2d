import Rakka.AgentWorkflow.CompiledPlan

/-! The durable state of one run of a compiled graph. -/

namespace Rakka.AgentWorkflow
open Foundation

structure AgentEffectId where
  value : String
  deriving DecidableEq, Repr

structure AgentTimerId where
  value : String
  deriving DecidableEq, Repr

structure HumanCheckpointId where
  value : String
  deriving DecidableEq, Repr

abbrev AgentTimestampMillis := ℕ

def currentAgentGraphStateSchemaVersion : ℕ := 2

inductive AgentGraphNodeStatus where
  | pending | runnable | running | waiting | completed | skipped | failed | cancelled | terminal
  deriving DecidableEq, Repr

namespace AgentGraphNodeStatus

def asLabel : AgentGraphNodeStatus → String
  | pending => "pending"
  | runnable => "runnable"
  | running => "running"
  | waiting => "waiting"
  | completed => "completed"
  | skipped => "skipped"
  | failed => "failed"
  | cancelled => "cancelled"
  | terminal => "terminal"

def isUnresolved : AgentGraphNodeStatus → Bool
  | pending | runnable | running | waiting => true
  | completed | skipped | failed | cancelled | terminal => false

end AgentGraphNodeStatus

inductive AgentGraphTerminalStatus where
  | completed | failed | cancelled
  deriving DecidableEq, Repr

inductive AgentGraphWaitReason where
  | dependency | effect | timer | human | childWorkflow | signal | reconciliation
  deriving DecidableEq, Repr

/-- A person's decision on a node parked for reconciliation. -/
inductive AgentGraphReconciliationDecision where
  | notExecuted
  | abandon (errorCode : String)
  deriving DecidableEq, Repr

structure AgentGraphNodeState where
  nodeId : AgentCompiledNodeId
  kind : AgentCompiledNodeKind
  status : AgentGraphNodeStatus
  attempt : ℕ
  effectGeneration : ℕ
  dependenciesReady : Bool
  outputRefs : BTreeMap AgentCompiledPortId ArtifactRef
  scheduledEffectIds : List AgentEffectId
  timerIds : List AgentTimerId
  checkpointIds : List HumanCheckpointId
  waitReason : Option AgentGraphWaitReason
  errorCode : Option String
  createdAt : AgentTimestampMillis
  updatedAt : AgentTimestampMillis
  startedAt : Option AgentTimestampMillis
  completedAt : Option AgentTimestampMillis
  deriving DecidableEq

def AgentGraphNodeState.new (nodeId : AgentCompiledNodeId) (kind : AgentCompiledNodeKind)
    (createdAt : AgentTimestampMillis) : AgentGraphNodeState where
  nodeId := nodeId
  kind := kind
  status := .pending
  attempt := 0
  effectGeneration := 0
  dependenciesReady := false
  outputRefs := ∅
  scheduledEffectIds := []
  timerIds := []
  checkpointIds := []
  waitReason := none
  errorCode := none
  createdAt := createdAt
  updatedAt := createdAt
  startedAt := none
  completedAt := none

structure AgentGraphLoopInstanceState where
  nodeId : AgentCompiledNodeId
  iterationIndex : ℕ
  status : AgentGraphNodeStatus
  createdAt : AgentTimestampMillis
  completedAt : Option AgentTimestampMillis
  deriving DecidableEq, Repr

structure AgentGraphBlockedReason where
  code : String
  detail : Option String
  deriving DecidableEq, Repr

structure AgentGraphRunState where
  planId : AgentCompiledPlanId
  planFingerprint : AgentCompiledPlanFingerprint
  graphSchemaVersion : ℕ
  nodeStates : BTreeMap AgentCompiledNodeId AgentGraphNodeState
  selectedBranchPaths : BTreeMap AgentCompiledNodeId (List AgentCompiledEdgeId)
  loopInstances : List AgentGraphLoopInstanceState
  blockedReason : Option AgentGraphBlockedReason
  schedulerRevision : ℕ
  terminalStatus : Option AgentGraphTerminalStatus
  deriving DecidableEq

namespace AgentGraphRunState
variable (state : AgentGraphRunState) (nodeId : AgentCompiledNodeId)

def new (planId : AgentCompiledPlanId) (planFingerprint : AgentCompiledPlanFingerprint) :
    AgentGraphRunState where
  planId := planId
  planFingerprint := planFingerprint
  graphSchemaVersion := currentAgentGraphStateSchemaVersion
  nodeStates := ∅
  selectedBranchPaths := ∅
  loopInstances := []
  blockedReason := none
  schedulerRevision := 0
  terminalStatus := none

def setNode (nodeState : AgentGraphNodeState) : AgentGraphRunState :=
  { state with nodeStates := state.nodeStates.insert nodeId nodeState }

def advance : AgentGraphRunState :=
  { state with schedulerRevision := state.schedulerRevision + 1, blockedReason := none }

def statusOf : Option AgentGraphNodeStatus :=
  (state.nodeStates[nodeId]?).map AgentGraphNodeState.status

lemma nodeStates_setNode (other : AgentCompiledNodeId) (nodeState : AgentGraphNodeState) :
    (state.setNode nodeId nodeState).nodeStates[other]? =
      if other = nodeId then some nodeState else state.nodeStates[other]? :=
  BTreeMap.lookup_insert _ _ _ _

lemma nodeStates_setNode_self (nodeState : AgentGraphNodeState) :
    (state.setNode nodeId nodeState).nodeStates[nodeId]? = some nodeState :=
  (nodeStates_setNode ..).trans (if_pos rfl)

lemma nodeStates_setNode_of_ne {nodeId other : AgentCompiledNodeId} (h : other ≠ nodeId)
    (nodeState : AgentGraphNodeState) :
    (state.setNode nodeId nodeState).nodeStates[other]? = state.nodeStates[other]? :=
  (nodeStates_setNode ..).trans (if_neg h)

lemma statusOf_of_lookup {state : AgentGraphRunState} {nodeId : AgentCompiledNodeId}
    {nodeState : AgentGraphNodeState} (h : state.nodeStates[nodeId]? = some nodeState) :
    state.statusOf nodeId = some nodeState.status := by
  rw [statusOf, h]
  rfl

end AgentGraphRunState
end Rakka.AgentWorkflow
