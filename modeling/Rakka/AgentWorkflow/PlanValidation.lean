import Rakka.AgentWorkflow.CompiledPlan
import Rakka.Foundation.DepthFirst
import Rakka.Foundation.Fallible
import Rakka.Foundation.Runs
import Rakka.Foundation.Text

/-! The registration check of a compiled plan, and what an accepted plan is known to be:
its node ids are distinct, its edges join declared nodes and close no cycle, and its
iterators are bounded. -/

namespace Rakka.AgentWorkflow
open Foundation List Std.ExtTreeMap
variable {nodesById : NodesById} {edges : List AgentCompiledPlanEdge} {index : EdgeIndex}
variable {catalog : AgentCompiledNodeKindCatalog} {nodes : List AgentCompiledPlanNode}
  {node : AgentCompiledPlanNode} {edge : AgentCompiledPlanEdge}
variable (plan : AgentCompiledExecutionPlan)

inductive AgentCompiledPlanValidationError where
  | invalidField (field reason : String)
  | missingRuntimeCapability (capability : String)
  | duplicateNodeId (nodeId : AgentCompiledNodeId)
  | duplicateEdgeId (edgeId : AgentCompiledEdgeId)
  | duplicatePortId (nodeId : AgentCompiledNodeId) (portId : AgentCompiledPortId)
  | unknownEntryNode (nodeId : AgentCompiledNodeId)
  | unknownEdgeNode (edgeId : AgentCompiledEdgeId) (nodeId : AgentCompiledNodeId) (role : String)
  | unknownEdgePort (edgeId : AgentCompiledEdgeId) (nodeId : AgentCompiledNodeId)
      (portId : AgentCompiledPortId) (expectedDirection : AgentCompiledPortDirection)
  | portDirectionMismatch (edgeId : AgentCompiledEdgeId) (nodeId : AgentCompiledNodeId)
      (portId : AgentCompiledPortId) (expectedDirection actualDirection : AgentCompiledPortDirection)
  | unsupportedNodeKind (nodeId : AgentCompiledNodeId) (kind : AgentCompiledNodeKind)
  | unavailableNodeKind (nodeId : AgentCompiledNodeId) (kind : AgentCompiledNodeKind)
      (requiredCapability requiredFeature : Option String)
  | unsupportedNodeTarget (nodeId : AgentCompiledNodeId) (kind : AgentCompiledNodeKind)
  | missingRequiredNodeTarget (nodeId : AgentCompiledNodeId) (kind : AgentCompiledNodeKind)
  | unsupportedCredentialBinding (nodeId : AgentCompiledNodeId) (kind : AgentCompiledNodeKind)
  | unsupportedPolicyRef (nodeId : AgentCompiledNodeId) (kind : AgentCompiledNodeKind)
      (policy : String)
  | invalidPortPolicy (nodeId : AgentCompiledNodeId) (kind : AgentCompiledNodeKind)
      (direction : AgentCompiledPortDirection) (policy : AgentCompiledPortPolicy) (count : ℕ)
  | invalidIteratorPolicy (nodeId : AgentCompiledNodeId) (reason : String)
  | invalidBranchDeclaration (nodeId : AgentCompiledNodeId) (reason : String)
  | invalidJoinDeclaration (nodeId : AgentCompiledNodeId) (reason : String)
  | missingRequiredInput (nodeId : AgentCompiledNodeId) (portId : AgentCompiledPortId)
  | missingReachableTerminal
  | cycleDetected (nodeId : AgentCompiledNodeId)
  | unsafeAttribute (scope key reason : String)
  | secretLikeCredentialBindingRef (nodeId : AgentCompiledNodeId)
  | invalidEffectSafetyClass (nodeId : AgentCompiledNodeId) (value : String)
  | invalidEffectMaxAttempts (nodeId : AgentCompiledNodeId) (value : String)
  | invalidEffectTargetClass (nodeId : AgentCompiledNodeId) (value : String)
  deriving DecidableEq, Repr

def AgentCompiledPlanValidationError.code : AgentCompiledPlanValidationError → String
  | invalidField .. => "invalid_field"
  | missingRuntimeCapability .. => "missing_runtime_capability"
  | duplicateNodeId .. => "duplicate_node_id"
  | duplicateEdgeId .. => "duplicate_edge_id"
  | duplicatePortId .. => "duplicate_port_id"
  | unknownEntryNode .. => "unknown_entry_node"
  | unknownEdgeNode .. => "unknown_edge_node"
  | unknownEdgePort .. => "unknown_edge_port"
  | portDirectionMismatch .. => "port_direction_mismatch"
  | unsupportedNodeKind .. => "unsupported_node_kind"
  | unavailableNodeKind .. => "unavailable_node_kind"
  | unsupportedNodeTarget .. => "unsupported_node_target"
  | missingRequiredNodeTarget .. => "missing_required_node_target"
  | unsupportedCredentialBinding .. => "unsupported_credential_binding"
  | unsupportedPolicyRef .. => "unsupported_policy_ref"
  | invalidPortPolicy .. => "invalid_port_policy"
  | invalidIteratorPolicy .. => "invalid_iterator_policy"
  | invalidBranchDeclaration .. => "invalid_branch_declaration"
  | invalidJoinDeclaration .. => "invalid_join_declaration"
  | missingRequiredInput .. => "missing_required_input"
  | missingReachableTerminal => "missing_reachable_terminal"
  | cycleDetected .. => "cycle_detected"
  | unsafeAttribute .. => "unsafe_attribute"
  | secretLikeCredentialBindingRef .. => "secret_like_credential_binding_ref"
  | invalidEffectSafetyClass .. => "invalid-effect-safety-class"
  | invalidEffectMaxAttempts .. => "invalid-effect-max-attempts"
  | invalidEffectTargetClass .. => "invalid-effect-target-class"

abbrev ValidationResult := Except AgentCompiledPlanValidationError

def attrAgentEffectSafetyClass : String := "agent_effect_safety_class"

def attrAgentEffectMaxAttempts : String := "agent_effect_max_attempts"

def attrTargetClass : String := "target_class"

def effectGenerationSuffix : String := ";gen="

def agentEffectSafetyClassLabels : List String :=
  ["read-only", "idempotent", "non-idempotent", "reconcileable"]

def agentMetricAttributeValueMaxBytes : ℕ := 96

def forbiddenHotMetricFields : List String :=
  ["workflow_id", "run_id", "entity_id", "command_id", "effect_id", "checkpoint_id",
    "correlation_id", "causation_id", "deduplication_key", "idempotency_key", "prompt_text",
    "completion_text", "tool_arguments", "artifact_uri", "full_error_message"]

def validateRequiredText (field value : String) : ValidationResult Unit :=
  ensure (¬ Text.isBlank value) (.invalidField field "value must not be empty")

def labelValueContainsLineBreak (value : String) : Bool :=
  value.toList.contains '\n' || value.toList.contains '\r'

def isSensitiveAttributeKey (key : String) : Bool :=
  ["secret", "token", "password", "api_key", "apikey", "authorization", "credential"].any
    (Text.contains (Text.toAsciiLowercase key.toList))

def looksLikeSecretValue (value : String) : Bool :=
  ["sk-", "xoxb-", "ghp_", "github_pat_", "AKIA", "-----BEGIN "].any
      (Text.startsWith (Text.trim value)) ||
    ["bearer ", "basic "].any (Text.startsWith (Text.toAsciiLowercase (Text.trim value)))

def looksLikeCredentialBindingRef (value : String) : Bool :=
  ["credential_binding", "cred_binding"].any (Text.contains (Text.toAsciiLowercase value.toList))

def validateAttribute (scope : String) (hotLabels : Bool) (key value : String) :
    ValidationResult Unit := do
  let unsafeBecause (reason : String) := AgentCompiledPlanValidationError.unsafeAttribute scope key reason
  ensure (¬ Text.isBlank key) (unsafeBecause "attribute keys must not be empty")
  ensure (key.utf8ByteSize ≤ agentMetricAttributeValueMaxBytes)
    (unsafeBecause "attribute keys must be bounded")
  ensure (value.utf8ByteSize ≤ agentMetricAttributeValueMaxBytes)
    (unsafeBecause "attribute values must be bounded")
  ensure (¬ labelValueContainsLineBreak value)
    (unsafeBecause "attribute values must be single-line bounded labels")
  ensure (¬ (isSensitiveAttributeKey key || looksLikeSecretValue value))
    (unsafeBecause "attributes must not contain credential or secret material")
  ensure (¬ (hotLabels &&
      (forbiddenHotMetricFields.contains key || looksLikeCredentialBindingRef value)))
    (unsafeBecause "hot labels must not contain ids or credential binding refs")

def validateAttributes (scope : String) (attributes : AgentAttributes) (hotLabels : Bool) :
    ValidationResult Unit :=
  attributes.toList.forM (fun entry => validateAttribute scope hotLabels entry.1 entry.2)

/-- Whether a generation-zero identity that ends with this class reads as another one. -/
def targetClassReadsAsGeneration (targetClass : String) : Bool :=
  ((Text.rsplitOnce effectGenerationSuffix.toList targetClass.toList).bind
    (fun split => Text.parseU32 split.2)).isSome

variable (node)

def validateEffectTargetAttributes (target : AgentCompiledNodeTarget) : ValidationResult Unit := do
  (target.attributes[attrAgentEffectSafetyClass]?).toList.forM (fun value =>
    ensure (value ∈ agentEffectSafetyClassLabels) (.invalidEffectSafetyClass node.nodeId value))
  (target.attributes[attrAgentEffectMaxAttempts]?).toList.forM (fun value =>
    ensure ((Text.parseU32 value.toList).any (0 < ·)) (.invalidEffectMaxAttempts node.nodeId value))
  ((target.attributes[attrTargetClass]?).filter (fun value => !Text.isBlank value)).toList.forM
    (fun value => ensure (¬ targetClassReadsAsGeneration value)
      (.invalidEffectTargetClass node.nodeId value))

def validateNodeTarget (target : AgentCompiledNodeTarget) : ValidationResult Unit := do
  let path := "nodes[" ++ node.nodeId.value ++ "].target"
  validateRequiredText (path ++ ".target_type") target.targetType
  validateRequiredText (path ++ ".name") target.name
  target.address.toList.forM (validateRequiredText (path ++ ".address"))
  validateAttributes (path ++ ".attributes") target.attributes false
  validateEffectTargetAttributes node target

def validatePort (port : AgentCompiledPlanPort)
    (expectedDirection : AgentCompiledPortDirection) : ValidationResult Unit := do
  let path := "nodes[" ++ node.nodeId.value ++ "].ports["
  validateRequiredText (path ++ "].port_id") port.portId.value
  validateRequiredText (path ++ port.portId.value ++ "].payload_type") port.payloadType
  ensure (port.direction = expectedDirection)
    (.portDirectionMismatch ⟨"<node-port-declaration>"⟩ node.nodeId port.portId expectedDirection
      port.direction)
  validateAttributes (path ++ port.portId.value ++ "].attributes") port.attributes false

def validatePortsOf (direction : AgentCompiledPortDirection)
    (portIds : List AgentCompiledPortId) (ports : List AgentCompiledPlanPort) :
    ValidationResult (List AgentCompiledPortId) :=
  ports.foldlM (fun portIds port => do
    validatePort node port direction
    ensure (port.portId ∉ portIds) (.duplicatePortId node.nodeId port.portId)
    return port.portId :: portIds) portIds

def validatePorts : ValidationResult Unit := do
  let portIds ← validatePortsOf node .input [] node.inputPorts
  let _ ← validatePortsOf node .output portIds node.outputPorts

def validateIteratorPolicy (descriptor : AgentCompiledNodeKindDescriptor) : ValidationResult Unit :=
  match descriptor.iteratorSemantics, node.iteratorPolicy with
  | true, none =>
    .error (.invalidIteratorPolicy node.nodeId "iterator nodes require an explicit iterator policy")
  | true, some policy =>
    ensure (policy.maxIterations ≠ 0)
      (.invalidIteratorPolicy node.nodeId "max_iterations must be greater than zero")
  | false, some _ =>
    .error (.invalidIteratorPolicy node.nodeId "only iterator nodes may declare iterator policy")
  | false, none => .ok ()

def validatePortPolicy (direction : AgentCompiledPortDirection)
    (policy : AgentCompiledPortPolicy) (ports : List AgentCompiledPlanPort) : ValidationResult Unit :=
  ensure (policy.accepts ports.length)
    (.invalidPortPolicy node.nodeId node.kind direction policy ports.length)

def validatePolicyRef (supported : Bool)
    (policyRef : Option ArtifactRef) (policy : String) : ValidationResult Unit :=
  ensure (supported ∨ policyRef.isNone) (.unsupportedPolicyRef node.nodeId node.kind policy)

def validateCredentialBinding (binding : AgentCredentialBindingRef) : ValidationResult Unit := do
  validateRequiredText ("nodes[" ++ node.nodeId.value ++ "].credential_binding_ref") binding.value
  ensure (¬ looksLikeSecretValue binding.value) (.secretLikeCredentialBindingRef node.nodeId)

def validateAgainstDescriptor
    (descriptor : AgentCompiledNodeKindDescriptor) : ValidationResult Unit := do
  ensure descriptor.available
    (.unavailableNodeKind node.nodeId node.kind descriptor.requiredCapability
      descriptor.requiredFeature)
  ensure (¬ (descriptor.requiresTarget ∧ node.target.isNone))
    (.missingRequiredNodeTarget node.nodeId node.kind)
  ensure (¬ (¬ descriptor.requiresTarget ∧ node.target.isSome))
    (.unsupportedNodeTarget node.nodeId node.kind)
  ensure (descriptor.supportsCredentialBinding ∨ node.credentialBindingRef.isNone)
    (.unsupportedCredentialBinding node.nodeId node.kind)
  validatePolicyRef node descriptor.supportsRetryPolicyRef node.retryPolicyRef "retry_policy_ref"
  validatePolicyRef node descriptor.supportsTimeoutPolicyRef node.timeoutPolicyRef
    "timeout_policy_ref"
  validatePolicyRef node descriptor.supportsConcurrencyPolicyRef node.concurrencyPolicyRef
    "concurrency_policy_ref"
  validatePortPolicy node .input descriptor.inputPortPolicy node.inputPorts
  validatePortPolicy node .output descriptor.outputPortPolicy node.outputPorts
  validatePorts node
  validateIteratorPolicy node descriptor

def validateNodeShape (catalog : AgentCompiledNodeKindCatalog) : ValidationResult Unit := do
  validateRequiredText "nodes[].node_id" node.nodeId.value
  validateAttributes ("nodes[" ++ node.nodeId.value ++ "].observability_labels")
    node.observabilityLabels true
  node.target.toList.forM (validateNodeTarget node)
  node.credentialBindingRef.toList.forM (validateCredentialBinding node)
  match catalog.descriptor node.kind with
  | none => .error (.unsupportedNodeKind node.nodeId node.kind)
  | some descriptor => validateAgainstDescriptor node descriptor

variable {node}

abbrev NodesById := BTreeMap AgentCompiledNodeId AgentCompiledPlanNode

def collectNode (catalog : AgentCompiledNodeKindCatalog) (nodesById : NodesById)
    (node : AgentCompiledPlanNode) : ValidationResult NodesById := do
  validateNodeShape node catalog
  ensure (nodesById[node.nodeId]? = none) (.duplicateNodeId node.nodeId)
  return nodesById.insert node.nodeId node

def validateEdgeFields (edge : AgentCompiledPlanEdge) : ValidationResult Unit := do
  let path := "edges[" ++ edge.edgeId.value ++ "]."
  validateRequiredText "edges[].edge_id" edge.edgeId.value
  validateRequiredText (path ++ "source_node_id") edge.sourceNodeId.value
  validateRequiredText (path ++ "source_port_id") edge.sourcePortId.value
  validateRequiredText (path ++ "target_node_id") edge.targetNodeId.value
  validateRequiredText (path ++ "target_port_id") edge.targetPortId.value
  validateAttributes (path ++ "attributes") edge.attributes false

def findPort (node : AgentCompiledPlanNode) (portId : AgentCompiledPortId) :
    AgentCompiledPortDirection → Option AgentCompiledPlanPort
  | .input => node.inputPorts.find? (fun port => port.portId == portId)
  | .output => node.outputPorts.find? (fun port => port.portId == portId)

def findPortAnyDirection (node : AgentCompiledPlanNode) (portId : AgentCompiledPortId) :
    Option AgentCompiledPortDirection :=
  ((findPort node portId .input).map AgentCompiledPlanPort.direction).or
    ((findPort node portId .output).map AgentCompiledPlanPort.direction)

def validateEdgeEndpoint (edge : AgentCompiledPlanEdge) (nodesById : NodesById)
    (nodeId : AgentCompiledNodeId) (portId : AgentCompiledPortId)
    (expectedDirection : AgentCompiledPortDirection) (role : String) : ValidationResult Unit :=
  match nodesById[nodeId]? with
  | none => .error (.unknownEdgeNode edge.edgeId nodeId role)
  | some node =>
    if (findPort node portId expectedDirection).isSome then .ok ()
    else
      match findPortAnyDirection node portId with
      | some actualDirection =>
        .error (.portDirectionMismatch edge.edgeId nodeId portId expectedDirection actualDirection)
      | none => .error (.unknownEdgePort edge.edgeId nodeId portId expectedDirection)

structure EdgeIndex where
  edgeIds : List AgentCompiledEdgeId
  adjacency : BTreeMap AgentCompiledNodeId (List AgentCompiledNodeId)
  incomingByPort : List (AgentCompiledNodeId × AgentCompiledPortId)
  outgoingByPort : List (AgentCompiledNodeId × AgentCompiledPortId)
  incomingEdgesByNode : BTreeMap AgentCompiledNodeId (List AgentCompiledPlanEdge)

def emptyAdjacency (nodesById : NodesById) : BTreeMap AgentCompiledNodeId (List AgentCompiledNodeId) :=
  nodesById.map (fun _ _ => [])

def EdgeIndex.empty (nodesById : NodesById) : EdgeIndex := ⟨[], emptyAdjacency nodesById, [], [], ∅⟩

def EdgeIndex.next (index : EdgeIndex) (nodeId : AgentCompiledNodeId) : List AgentCompiledNodeId :=
  (index.adjacency[nodeId]?).getD []

def EdgeIndex.add (index : EdgeIndex) (edge : AgentCompiledPlanEdge) : EdgeIndex where
  edgeIds := edge.edgeId :: index.edgeIds
  adjacency := index.adjacency.insert edge.sourceNodeId
    (index.next edge.sourceNodeId ++ [edge.targetNodeId])
  incomingByPort := (edge.targetNodeId, edge.targetPortId) :: index.incomingByPort
  outgoingByPort := (edge.sourceNodeId, edge.sourcePortId) :: index.outgoingByPort
  incomingEdgesByNode := index.incomingEdgesByNode.insert edge.targetNodeId
    ((index.incomingEdgesByNode[edge.targetNodeId]?).getD [] ++ [edge])

def collectEdge (nodesById : NodesById) (index : EdgeIndex) (edge : AgentCompiledPlanEdge) :
    ValidationResult EdgeIndex := do
  validateEdgeFields edge
  ensure (edge.edgeId ∉ index.edgeIds) (.duplicateEdgeId edge.edgeId)
  validateEdgeEndpoint edge nodesById edge.sourceNodeId edge.sourcePortId .output "source"
  validateEdgeEndpoint edge nodesById edge.targetNodeId edge.targetPortId .input "target"
  return index.add edge

def detectCycle (index : EdgeIndex) : Option (Option AgentCompiledNodeId) :=
  DepthFirst.detectCycle index.next index.adjacency.keys

def reachableNodes (entryNodeIds : List AgentCompiledNodeId) (index : EdgeIndex) :
    Option (List AgentCompiledNodeId) :=
  DepthFirst.reachable index.next index.adjacency.keys entryNodeIds

variable (node)

def validateReachableRequiredInputs (entryIds reachable : List AgentCompiledNodeId)
    (index : EdgeIndex) : ValidationResult Unit :=
  if node.nodeId ∈ entryIds then .ok ()
  else
    (node.inputPorts.filter (·.required)).forM (fun port =>
      ensure (node.nodeId ∈ reachable ∧ (node.nodeId, port.portId) ∈ index.incomingByPort)
        (.missingRequiredInput node.nodeId port.portId))

def validateBranchEdges (index : EdgeIndex) : ValidationResult Unit :=
  ensure (node.kind ≠ .branch ∨ 2 ≤ (node.outputPorts.filter
        (fun port => decide ((node.nodeId, port.portId) ∈ index.outgoingByPort))).length)
    (.invalidBranchDeclaration node.nodeId
      "branch nodes require at least two connected output paths")

def validateJoinEdges (index : EdgeIndex) : ValidationResult Unit :=
  if node.kind ≠ .join then .ok ()
  else
    match index.incomingEdgesByNode[node.nodeId]? with
    | none =>
      .error (.invalidJoinDeclaration node.nodeId "join nodes require at least one incoming edge")
    | some incomingEdges =>
      ensure (¬ incomingEdges.any (fun edge => edge.mergeBehavior.isNone))
        (.invalidJoinDeclaration node.nodeId
          "join incoming edges must declare wait-for-all or wait-for-any behavior")

variable {node}

def validateHeader (catalog : AgentCompiledNodeKindCatalog) : ValidationResult Unit := do
  validateRequiredText "plan_id" plan.planId.value
  validateRequiredText "workflow_id" plan.workflowId.value
  validateRequiredText "workflow_type" plan.workflowType
  validateRequiredText "definition_version" plan.definitionVersion.value
  validateRequiredText "plan_fingerprint" plan.planFingerprint.value
  ensure (plan.planSchemaVersion ≠ 0)
    (.invalidField "plan_schema_version" "schema version must be greater than zero")
  ensure (plan.entryNodeIds ≠ [])
    (.invalidField "entry_node_ids" "at least one entry node is required")
  validateAttributes "plan.observability_labels" plan.observabilityLabels true
  validateAttributes "plan.compatibility.attributes" plan.compatibility.attributes false
  plan.compatibility.requiredCapabilities.forM (fun required => do
    validateRequiredText "compatibility.required_capabilities[]" required
    ensure (catalog.runtimeCapabilities.hasCapability required)
      (.missingRuntimeCapability required))

def validateEntry (nodesById : NodesById) (entryNodeId : AgentCompiledNodeId) :
    ValidationResult Unit := do
  validateRequiredText "entry_node_ids[]" entryNodeId.value
  ensure (nodesById[entryNodeId]? ≠ none) (.unknownEntryNode entryNodeId)

/-- The checks that follow the edges. The searches end, so their missing answers are not met. -/
def validateGraph (nodesById : NodesById) (index : EdgeIndex) : ValidationResult Unit := do
  match detectCycle index with
  | some none => pure ()
  | some (some nodeId) => .error (.cycleDetected nodeId)
  | none => .error .missingReachableTerminal
  let reachable := (reachableNodes plan.entryNodeIds index).getD []
  ensure (reachable.any (fun nodeId =>
      (nodesById[nodeId]?).any (fun node => node.kind == .terminal))) .missingReachableTerminal
  nodesById.valuesInOrder.forM (fun node => do
    validateReachableRequiredInputs node plan.entryNodeIds reachable index
    validateBranchEdges node index
    validateJoinEdges node index)

def validateCompiledExecutionPlanWithCatalog (catalog : AgentCompiledNodeKindCatalog) :
    ValidationResult Unit := do
  validateHeader plan catalog
  let nodesById ← plan.nodes.foldlM (collectNode catalog) ∅
  ensure (¬ nodesById.isEmpty) (.invalidField "nodes" "at least one node is required")
  plan.entryNodeIds.forM (validateEntry nodesById)
  let index ← plan.edges.foldlM (collectEdge nodesById) (.empty nodesById)
  validateGraph plan nodesById index

def validateCompiledExecutionPlan : ValidationResult Unit :=
  validateCompiledExecutionPlanWithCatalog plan .current

/-! ### What the loops collect -/

/-- The node map holds the checked nodes under their ids. -/
structure Collected (catalog : AgentCompiledNodeKindCatalog) (nodes : List AgentCompiledPlanNode)
    (nodesById : NodesById) : Prop where
  nodup : (nodes.map AgentCompiledPlanNode.nodeId).Nodup
  lookup : ∀ nodeId node, nodesById[nodeId]? = some node ↔ node ∈ nodes ∧ node.nodeId = nodeId
  shaped : ∀ node ∈ nodes, validateNodeShape node catalog = .ok ()

lemma Collected.add {nodesById' : NodesById} (h : Collected catalog nodes nodesById)
    (hnode : collectNode catalog nodesById node = .ok nodesById') :
    Collected catalog (nodes ++ [node]) nodesById' := by
  simp only [collectNode, bind_eq_ok, exists_unit, ensure_eq_ok] at hnode
  obtain ⟨hshape, hfresh, hinsert⟩ := hnode
  cases hinsert
  have hnew : ∀ other ∈ nodes, other.nodeId ≠ node.nodeId := by
    intro other hother he
    have hstored := (h.lookup other.nodeId other).mpr ⟨hother, rfl⟩
    rw [he, hfresh] at hstored
    cases hstored
  refine ⟨?_, fun nodeId other => ?_, forall_mem_concat h.shaped hshape⟩
  · rw [map_append]
    exact pairwise_concat h.nodup (forall_mem_map.mpr hnew)
  · rw [BTreeMap.lookup_insert, mem_append, mem_singleton]
    split_ifs with he
    · subst he
      refine ⟨fun hsome => ?_, fun ⟨hmem, hid⟩ => ?_⟩
      · rw [← Option.some.inj hsome]
        exact ⟨.inr rfl, rfl⟩
      · rcases hmem with hold | rfl
        · exact absurd hid (hnew other hold)
        · rfl
    · rw [h.lookup]
      refine ⟨fun ⟨hmem, hid⟩ => ⟨.inl hmem, hid⟩, fun ⟨hmem, hid⟩ => ⟨hmem.resolve_right ?_, hid⟩⟩
      rintro rfl
      exact he hid.symm

lemma collected_of_foldlM (hrun : nodes.foldlM (collectNode catalog) ∅ = .ok nodesById) :
    Collected catalog nodes nodesById := by
  have hnil : Collected catalog [] ∅ :=
    ⟨nodup_nil, fun nodeId node => by simp, fun node hnode => nomatch hnode⟩
  exact foldlM_invariant (fun done s node t h hnode => h.add hnode) hnil hrun

lemma known_of_validateEdgeEndpoint {nodeId : AgentCompiledNodeId} {portId : AgentCompiledPortId}
    {direction : AgentCompiledPortDirection} {role : String}
    (h : validateEdgeEndpoint edge nodesById nodeId portId direction role = .ok ()) :
    nodeId ∈ nodesById := by
  rw [mem_iff_isSome_getElem?]
  cases hnode : nodesById[nodeId]? with
  | some node => rfl
  | none =>
    rw [validateEdgeEndpoint, hnode] at h
    cases h

/-- The adjacency lists have the declared nodes as keys and hold the targets of the edges. -/
structure Indexed (nodesById : NodesById) (edges : List AgentCompiledPlanEdge) (index : EdgeIndex) :
    Prop where
  keys : ∀ nodeId, nodeId ∈ index.adjacency ↔ nodeId ∈ nodesById
  sources : ∀ edge ∈ edges, edge.sourceNodeId ∈ nodesById
  targets : ∀ edge ∈ edges, edge.targetNodeId ∈ index.next edge.sourceNodeId
  closed : ∀ nodeId, ∀ next ∈ index.next nodeId, next ∈ nodesById

lemma EdgeIndex.mem_next_add (index : EdgeIndex) (edge : AgentCompiledPlanEdge)
    (nodeId next : AgentCompiledNodeId) : next ∈ (index.add edge).next nodeId ↔
      next ∈ index.next nodeId ∨ nodeId = edge.sourceNodeId ∧ next = edge.targetNodeId := by
  rw [EdgeIndex.next, EdgeIndex.add, BTreeMap.lookup_insert]
  split_ifs with he
  · simp [he]
  · simp [he, EdgeIndex.next]

lemma Indexed.add {index' : EdgeIndex} (h : Indexed nodesById edges index)
    (hedge : collectEdge nodesById index edge = .ok index') :
    Indexed nodesById (edges ++ [edge]) index' := by
  simp only [collectEdge, bind_eq_ok, exists_unit, ensure_eq_ok] at hedge
  obtain ⟨-, -, hsource, htarget, hadd⟩ := hedge
  cases hadd
  have hsource := known_of_validateEdgeEndpoint hsource
  have htarget := known_of_validateEdgeEndpoint htarget
  refine ⟨fun nodeId => ?_, forall_mem_concat h.sources hsource, ?_, fun nodeId next hnext => ?_⟩
  · simp only [EdgeIndex.add, mem_insert, Std.LawfulEqOrd.compare_eq_iff_eq, h.keys]
    exact ⟨fun hor => hor.elim (fun he => he ▸ hsource) id, .inr⟩
  · simp only [EdgeIndex.mem_next_add]
    exact forall_mem_concat (fun other hother => .inl (h.targets other hother)) (.inr ⟨rfl, rfl⟩)
  · rcases (EdgeIndex.mem_next_add index edge nodeId next).mp hnext with hold | ⟨-, rfl⟩
    · exact h.closed nodeId next hold
    · exact htarget

lemma indexed_of_foldlM
    (hrun : edges.foldlM (collectEdge nodesById) (.empty nodesById) = .ok index) :
    Indexed nodesById edges index := by
  have hnone : ∀ nodeId, (EdgeIndex.empty nodesById).next nodeId = [] := by
    intro nodeId
    simp only [EdgeIndex.next, EdgeIndex.empty, emptyAdjacency, Std.ExtTreeMap.getElem?_map]
    cases nodesById[nodeId]? <;> rfl
  have hnil : Indexed nodesById [] (.empty nodesById) := by
    refine ⟨fun nodeId => ?_, fun edge hedge => (nomatch hedge), fun edge hedge => (nomatch hedge),
      fun nodeId next hnext => ?_⟩
    · exact mem_map
    · rw [hnone] at hnext
      cases hnext
  exact foldlM_invariant (fun done s edge t h hedge => h.add hedge) hnil hrun

lemma Indexed.searches_end (h : Indexed nodesById edges index)
    {entryNodeIds : List AgentCompiledNodeId} (hentries : ∀ entry ∈ entryNodeIds, entry ∈ nodesById)
    : (detectCycle index).isSome ∧ (reachableNodes entryNodeIds index).isSome := by
  have hmem : ∀ nodeId, nodeId ∈ index.adjacency.keys ↔ nodeId ∈ nodesById := fun nodeId =>
    mem_keys.trans (h.keys nodeId)
  have hclosed : ∀ nodeId ∈ index.adjacency.keys, ∀ next ∈ index.next nodeId,
      next ∈ index.adjacency.keys := fun nodeId _ next hnext =>
    (hmem next).mpr (h.closed nodeId next hnext)
  have hnodup : index.adjacency.keys.Nodup := by
    rw [← map_fst_toList_eq_keys]
    exact BTreeMap.toList_keys_nodup _
  exact ⟨DepthFirst.detectCycle_isSome hnodup hclosed,
    DepthFirst.reachable_isSome hnodup hclosed (fun entry hentry => (hmem entry).mpr (hentries entry hentry))⟩

/-! ### Accepted plans -/

/-- What the scheduler relies on in a plan. -/
structure WellFormed (plan : AgentCompiledExecutionPlan) : Prop where
  nodup : (plan.nodes.map AgentCompiledPlanNode.nodeId).Nodup
  sources : ∀ edge ∈ plan.edges, ∃ node ∈ plan.nodes, node.nodeId = edge.sourceNodeId
  acyclic : ∃ rank : AgentCompiledNodeId → ℕ,
    ∀ edge ∈ plan.edges, rank edge.targetNodeId < rank edge.sourceNodeId
  bounded : ∀ node ∈ plan.nodes, node.kind = .iterator → ∃ policy, node.iteratorPolicy = some policy

lemma descriptor_current (kind : AgentCompiledNodeKind) :
    ∃ descriptor, AgentCompiledNodeKindCatalog.current.descriptor kind = some descriptor ∧
      descriptor.iteratorSemantics = decide (kind = .iterator) := by
  cases kind <;> exact ⟨_, rfl, rfl⟩

lemma iteratorPolicy_of_shape (hkind : node.kind = .iterator)
    (h : validateNodeShape node .current = .ok ()) :
    ∃ policy, node.iteratorPolicy = some policy := by
  obtain ⟨descriptor, hdescriptor, hsemantics⟩ := descriptor_current node.kind
  simp only [validateNodeShape, bind_eq_ok, exists_unit, hdescriptor, validateAgainstDescriptor,
    ensure_eq_ok] at h
  obtain ⟨-, -, -, -, -, -, -, -, -, -, -, -, -, -, hpolicy⟩ := h
  cases hnode : node.iteratorPolicy with
  | some policy => exact ⟨policy, rfl⟩
  | none =>
    simp only [validateIteratorPolicy, hsemantics, hkind, hnode, decide_true] at hpolicy
    cases hpolicy

lemma wellFormed_of_validate {plan : AgentCompiledExecutionPlan}
    (h : validateCompiledExecutionPlan plan = .ok ()) : WellFormed plan := by
  simp only [validateCompiledExecutionPlan, validateCompiledExecutionPlanWithCatalog, bind_eq_ok,
    exists_unit, ensure_eq_ok] at h
  obtain ⟨-, nodesById, hnodes, -, -, index, hedges, hgraph⟩ := h
  have hcollected := collected_of_foldlM hnodes
  have hindexed := indexed_of_foldlM hedges
  have hcycle : detectCycle index = some none := by
    rw [validateGraph] at hgraph
    rcases hfound : detectCycle index with _ | _ | nodeId
    · rw [hfound] at hgraph
      cases hgraph
    · rfl
    · rw [hfound] at hgraph
      cases hgraph
  have hknown : ∀ nodeId ∈ nodesById, ∃ node ∈ plan.nodes, node.nodeId = nodeId := by
    intro nodeId hnode
    rw [mem_iff_isSome_getElem?, Option.isSome_iff_exists] at hnode
    obtain ⟨node, hnode⟩ := hnode
    exact ⟨node, (hcollected.lookup nodeId node).mp hnode⟩
  refine ⟨hcollected.nodup, fun edge hedge => hknown _ (hindexed.sources edge hedge), ?_, ?_⟩
  · obtain ⟨rank, hrank⟩ := DepthFirst.exists_rank_of_detectCycle hcycle
    refine ⟨rank, fun edge hedge => hrank _ ?_ _ (hindexed.targets edge hedge)⟩
    rw [Std.ExtTreeMap.mem_keys, hindexed.keys]
    exact hindexed.sources edge hedge
  · exact fun node hnode hkind => iteratorPolicy_of_shape hkind (hcollected.shaped node hnode)

/-- Both searches of the graph come to an answer, also where the edges close a cycle. -/
theorem graph_searches_end (nodesById : NodesById) (edges : List AgentCompiledPlanEdge)
    (index : EdgeIndex) (entryNodeIds : List AgentCompiledNodeId)
    (hedges : edges.foldlM (collectEdge nodesById) (.empty nodesById) = .ok index)
    (hentries : ∀ entry ∈ entryNodeIds, entry ∈ nodesById) :
    (detectCycle index).isSome ∧ (reachableNodes entryNodeIds index).isSome :=
  (indexed_of_foldlM hedges).searches_end hentries

theorem looping_searches_end :
    let node : AgentCompiledPlanNode := ((AgentCompiledPlanNode.new "a" .join).inputPort
      (.new "in" .input "json")).outputPort (.new "out" .output "json")
    let nodesById : NodesById := Std.ExtTreeMap.insert ∅ ⟨"a"⟩ node
    let edges := [AgentCompiledPlanEdge.new "e" "a" "out" "a" "in"]
    ∃ index, edges.foldlM (collectEdge nodesById) (.empty nodesById) = .ok index ∧
      (detectCycle index).isSome ∧ (reachableNodes [⟨"a"⟩] index).isSome := by
  intro node nodesById edges
  refine ⟨_, rfl, graph_searches_end nodesById edges _ [⟨"a"⟩] rfl ?_⟩
  exact forall_mem_singleton.mpr mem_insert_self

end Rakka.AgentWorkflow
