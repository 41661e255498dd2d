import Rakka.Foundation.OrderedMap

/-! Compiled execution plans: the nodes of a workflow graph with their ports, the edges
between the ports, and what a node of each kind may declare. -/

namespace Rakka.AgentWorkflow
open Foundation

structure AgentWorkflowId where
  value : String
  deriving DecidableEq, Repr

structure WorkflowDefinitionVersion where
  value : String
  deriving DecidableEq, Repr

structure AgentCredentialBindingRef where
  value : String
  deriving DecidableEq, Repr

structure AgentCompiledPlanId where
  value : String
  deriving DecidableEq, Repr

structure AgentCompiledPlanFingerprint where
  value : String
  deriving DecidableEq, Repr

structure AgentCompiledNodeId where
  value : String
  deriving DecidableEq, Repr

structure AgentCompiledEdgeId where
  value : String
  deriving DecidableEq, Repr

structure AgentCompiledPortId where
  value : String
  deriving DecidableEq, Repr

lemma AgentCompiledNodeId.value_injective : Function.Injective AgentCompiledNodeId.value :=
  fun ⟨_⟩ ⟨_⟩ h => congrArg AgentCompiledNodeId.mk h

lemma AgentCompiledEdgeId.value_injective : Function.Injective AgentCompiledEdgeId.value :=
  fun ⟨_⟩ ⟨_⟩ h => congrArg AgentCompiledEdgeId.mk h

lemma AgentCompiledPortId.value_injective : Function.Injective AgentCompiledPortId.value :=
  fun ⟨_⟩ ⟨_⟩ h => congrArg AgentCompiledPortId.mk h

instance : LinearOrder AgentCompiledNodeId :=
  LinearOrder.lift' AgentCompiledNodeId.value AgentCompiledNodeId.value_injective

instance : LinearOrder AgentCompiledEdgeId :=
  LinearOrder.lift' AgentCompiledEdgeId.value AgentCompiledEdgeId.value_injective

instance : LinearOrder AgentCompiledPortId :=
  LinearOrder.lift' AgentCompiledPortId.value AgentCompiledPortId.value_injective

instance : Std.TransOrd AgentCompiledNodeId := inferInstance

instance : Std.TransOrd AgentCompiledPortId := inferInstance

abbrev AgentAttributes := BTreeMap String String

structure ArtifactRef where
  artifactId : String
  uri : String
  deriving DecidableEq, Repr

inductive AgentCompiledNodeKind where
  | input | transform | branch | join | iterator | modelCall | toolCall | processCall | httpCall
  | grpcCall | streamPublish | artifactWrite | humanCheckpoint | timerWait | childWorkflowCommand
  | notification | auditEvent | terminal
  deriving DecidableEq, Repr

namespace AgentCompiledNodeKind

def all : List AgentCompiledNodeKind :=
  [input, transform, branch, join, iterator, modelCall, toolCall, processCall, httpCall, grpcCall,
    streamPublish, artifactWrite, humanCheckpoint, timerWait, childWorkflowCommand, notification,
    auditEvent, terminal]

def asLabel : AgentCompiledNodeKind → String
  | input => "input"
  | transform => "transform"
  | branch => "branch"
  | join => "join"
  | iterator => "iterator"
  | modelCall => "model-call"
  | toolCall => "tool-call"
  | processCall => "process-call"
  | httpCall => "http-call"
  | grpcCall => "grpc-call"
  | streamPublish => "stream-publish"
  | artifactWrite => "artifact-write"
  | humanCheckpoint => "human-checkpoint"
  | timerWait => "timer-wait"
  | childWorkflowCommand => "child-workflow-command"
  | notification => "notification"
  | auditEvent => "audit-event"
  | terminal => "terminal"

end AgentCompiledNodeKind

inductive AgentCompiledPortPolicy where
  | any | none | atLeastOne | atLeastTwo
  deriving DecidableEq, Repr

namespace AgentCompiledPortPolicy

def accepts (policy : AgentCompiledPortPolicy) (count : ℕ) : Bool :=
  match policy with
  | any => true
  | none => count == 0
  | atLeastOne => 1 ≤ count
  | atLeastTwo => 2 ≤ count

def asLabel : AgentCompiledPortPolicy → String
  | any => "any"
  | none => "none"
  | atLeastOne => "at-least-one"
  | atLeastTwo => "at-least-two"

end AgentCompiledPortPolicy

def compiledGraphV1Capability : String := "compiled-graph-v1"

structure AgentCompiledNodeKindDescriptor where
  kind : AgentCompiledNodeKind
  requiresTarget : Bool
  supportsCredentialBinding : Bool
  supportsRetryPolicyRef : Bool
  supportsTimeoutPolicyRef : Bool
  supportsConcurrencyPolicyRef : Bool
  inputPortPolicy : AgentCompiledPortPolicy
  outputPortPolicy : AgentCompiledPortPolicy
  iteratorSemantics : Bool
  requiredCapability : Option String
  requiredFeature : Option String
  available : Bool
  deriving DecidableEq, Repr

def AgentCompiledNodeKindDescriptor.new (kind : AgentCompiledNodeKind) :
    AgentCompiledNodeKindDescriptor where
  kind := kind
  requiresTarget := false
  supportsCredentialBinding := false
  supportsRetryPolicyRef := false
  supportsTimeoutPolicyRef := false
  supportsConcurrencyPolicyRef := false
  inputPortPolicy := .any
  outputPortPolicy := .any
  iteratorSemantics := false
  requiredCapability := some compiledGraphV1Capability
  requiredFeature := none
  available := true

def AgentCompiledNodeKind.descriptor (kind : AgentCompiledNodeKind) :
    AgentCompiledNodeKindDescriptor :=
  let descriptor := AgentCompiledNodeKindDescriptor.new kind
  match kind with
  | input => { descriptor with inputPortPolicy := .none, outputPortPolicy := .atLeastOne }
  | transform =>
    { descriptor with
      inputPortPolicy := .atLeastOne
      outputPortPolicy := .atLeastOne
      supportsTimeoutPolicyRef := true }
  | branch => { descriptor with inputPortPolicy := .atLeastOne, outputPortPolicy := .atLeastTwo }
  | join => { descriptor with inputPortPolicy := .atLeastOne, outputPortPolicy := .atLeastOne }
  | iterator =>
    { descriptor with
      inputPortPolicy := .atLeastOne
      outputPortPolicy := .atLeastOne
      supportsTimeoutPolicyRef := true
      iteratorSemantics := true }
  | modelCall | toolCall | processCall | httpCall | grpcCall | streamPublish | artifactWrite
  | notification | childWorkflowCommand =>
    { descriptor with
      requiresTarget := true
      supportsCredentialBinding := true
      supportsRetryPolicyRef := true
      supportsTimeoutPolicyRef := true
      supportsConcurrencyPolicyRef := true }
  | humanCheckpoint | timerWait => { descriptor with supportsTimeoutPolicyRef := true }
  | auditEvent => { descriptor with supportsRetryPolicyRef := true }
  | terminal => { descriptor with inputPortPolicy := .atLeastOne, outputPortPolicy := .none }

structure AgentCompiledPlanRuntimeCapabilities where
  capabilities : List String
  enabledFeatures : List String
  deriving DecidableEq, Repr

namespace AgentCompiledPlanRuntimeCapabilities

def current : AgentCompiledPlanRuntimeCapabilities := ⟨[compiledGraphV1Capability], []⟩

def hasCapability (runtime : AgentCompiledPlanRuntimeCapabilities) (capability : String) : Bool :=
  runtime.capabilities.any (· == capability)

def hasEnabledFeature (runtime : AgentCompiledPlanRuntimeCapabilities) (feature : String) : Bool :=
  runtime.enabledFeatures.any (· == feature)

end AgentCompiledPlanRuntimeCapabilities

structure AgentCompiledNodeKindCatalog where
  runtimeCapabilities : AgentCompiledPlanRuntimeCapabilities
  nodeKinds : List AgentCompiledNodeKindDescriptor
  deriving DecidableEq, Repr

namespace AgentCompiledNodeKindCatalog

def forCapabilities (capabilities : AgentCompiledPlanRuntimeCapabilities) :
    AgentCompiledNodeKindCatalog where
  runtimeCapabilities := capabilities
  nodeKinds := AgentCompiledNodeKind.all.map (fun kind =>
    let descriptor := kind.descriptor
    { descriptor with
      available := descriptor.requiredCapability.all capabilities.hasCapability &&
        descriptor.requiredFeature.all capabilities.hasEnabledFeature })

def current : AgentCompiledNodeKindCatalog := forCapabilities .current

def descriptor (catalog : AgentCompiledNodeKindCatalog) (kind : AgentCompiledNodeKind) :
    Option AgentCompiledNodeKindDescriptor :=
  catalog.nodeKinds.find? (fun descriptor => descriptor.kind == kind)

end AgentCompiledNodeKindCatalog

inductive AgentCompiledPortDirection where
  | input | output
  deriving DecidableEq, Repr

def AgentCompiledPortDirection.asLabel : AgentCompiledPortDirection → String
  | input => "input"
  | output => "output"

structure AgentCompiledPlanPort where
  portId : AgentCompiledPortId
  direction : AgentCompiledPortDirection
  payloadType : String
  required : Bool
  attributes : AgentAttributes

def AgentCompiledPlanPort.new (portId : String) (direction : AgentCompiledPortDirection)
    (payloadType : String) : AgentCompiledPlanPort :=
  ⟨⟨portId⟩, direction, payloadType, true, ∅⟩

def AgentCompiledPlanPort.optional (port : AgentCompiledPlanPort) : AgentCompiledPlanPort :=
  { port with required := false }

structure AgentCompiledNodeTarget where
  targetType : String
  name : String
  address : Option String
  attributes : AgentAttributes

/-- The bound on the iterations of an iterator node, a 32-bit count. -/
structure AgentCompiledIteratorPolicy where
  maxIterations : UInt32
  deriving DecidableEq, Repr

structure AgentCompiledPlanNode where
  nodeId : AgentCompiledNodeId
  kind : AgentCompiledNodeKind
  inputPorts : List AgentCompiledPlanPort
  outputPorts : List AgentCompiledPlanPort
  retryPolicyRef : Option ArtifactRef
  timeoutPolicyRef : Option ArtifactRef
  concurrencyPolicyRef : Option ArtifactRef
  iteratorPolicy : Option AgentCompiledIteratorPolicy
  target : Option AgentCompiledNodeTarget
  credentialBindingRef : Option AgentCredentialBindingRef
  observabilityLabels : AgentAttributes

def AgentCompiledPlanNode.new (nodeId : String) (kind : AgentCompiledNodeKind) :
    AgentCompiledPlanNode :=
  ⟨⟨nodeId⟩, kind, [], [], none, none, none, none, none, none, ∅⟩

def AgentCompiledPlanNode.inputPort (node : AgentCompiledPlanNode) (port : AgentCompiledPlanPort) :
    AgentCompiledPlanNode :=
  { node with inputPorts := node.inputPorts ++ [port] }

def AgentCompiledPlanNode.outputPort (node : AgentCompiledPlanNode) (port : AgentCompiledPlanPort) :
    AgentCompiledPlanNode :=
  { node with outputPorts := node.outputPorts ++ [port] }

inductive AgentCompiledEdgeMergeBehavior where
  | waitForAll | waitForAny
  deriving DecidableEq, Repr

structure AgentCompiledPlanEdge where
  edgeId : AgentCompiledEdgeId
  sourceNodeId : AgentCompiledNodeId
  sourcePortId : AgentCompiledPortId
  targetNodeId : AgentCompiledNodeId
  targetPortId : AgentCompiledPortId
  mergeBehavior : Option AgentCompiledEdgeMergeBehavior
  attributes : AgentAttributes

def AgentCompiledPlanEdge.new
    (edgeId sourceNodeId sourcePortId targetNodeId targetPortId : String) : AgentCompiledPlanEdge :=
  ⟨⟨edgeId⟩, ⟨sourceNodeId⟩, ⟨sourcePortId⟩, ⟨targetNodeId⟩, ⟨targetPortId⟩, none, ∅⟩

structure AgentCompiledPlanCompatibility where
  requiredCapabilities : List String
  attributes : AgentAttributes

structure AgentCompiledExecutionPlan where
  planId : AgentCompiledPlanId
  workflowId : AgentWorkflowId
  workflowType : String
  definitionVersion : WorkflowDefinitionVersion
  planSchemaVersion : ℕ
  planFingerprint : AgentCompiledPlanFingerprint
  entryNodeIds : List AgentCompiledNodeId
  nodes : List AgentCompiledPlanNode
  edges : List AgentCompiledPlanEdge
  compatibility : AgentCompiledPlanCompatibility
  observabilityLabels : AgentAttributes

end Rakka.AgentWorkflow
