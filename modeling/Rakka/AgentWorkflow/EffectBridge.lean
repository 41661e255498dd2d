import Rakka.AgentWorkflow.DispatchFleet
import Rakka.AgentWorkflow.GraphLifecycle

/-! The bridge that mints the durable effect of a graph node: its target, its identity and
the keys derived from it, and the checks an effect has to pass. -/

namespace Rakka.AgentWorkflow
open Foundation

def attrCompiledNodeId : String := "compiled_node_id"

def attrCompiledPlanFingerprint : String := "compiled_plan_fingerprint"

def attrLoopInstanceId : String := "loop_instance_id"

def attrNodeKind : String := "node_kind"

def agentCredentialBindingRefAttribute : String := "credential_binding_ref"

def rootLoopInstanceId : String := "root"

def AgentEffectKind.asLabel : AgentEffectKind → String
  | modelCall => "model-call"
  | toolCall => "tool-call"
  | processCall => "process-call"
  | httpCall => "http-call"
  | grpcCall => "grpc-call"
  | streamPublish => "stream-publish"
  | artifactWrite => "artifact-write"
  | humanApprovalRequest => "human-approval-request"
  | notification => "notification"
  | childWorkflowCommand => "child-workflow-command"
  | auditEvent => "audit-event"

structure AgentGraphEffectScheduleRequest where
  runId : AgentRunId
  nodeId : AgentCompiledNodeId
  loopInstanceId : Option String
  dueAt : Option AgentTimestampMillis
  timeoutMs : Option ℕ
  expectedResultType : Option String
  maxAttempts : Option ℕ
  createdAt : AgentTimestampMillis
  causationId : String
  correlationId : String

structure AgentEffectMetadata where
  effectId : AgentEffectId
  deduplicationKey : String
  idempotencyKey : String
  causationId : String
  correlationId : String
  createdAt : AgentTimestampMillis
  dueAt : Option AgentTimestampMillis
  timeoutMs : Option ℕ
  deriving DecidableEq

/-- What an effect is made from; the effect has the same values, with the status scheduled. -/
structure AgentEffectSchedule where
  kind : AgentEffectKind
  target : AgentEffectTarget
  metadata : AgentEffectMetadata
  expectedResultType : Option String
  deriving DecidableEq

inductive AgentFacadeError where
  | invalidEffectMetadata (field reason : String)
  | invalidEffect (effectKind : AgentEffectKind) (field reason : String)
  deriving DecidableEq

inductive AgentGraphEffectBridgeError where
  | invalidCompiledPlan (validationCode : String)
      (reason : String ⊕ AgentCompiledPlanValidationError)
  | unknownNode (nodeId : AgentCompiledNodeId)
  | missingNodeState (nodeId : AgentCompiledNodeId)
  | unsupportedNodeKind (nodeId : AgentCompiledNodeId) (kind : AgentCompiledNodeKind)
  | missingTarget (nodeId : AgentCompiledNodeId) (kind : AgentCompiledNodeKind)
  | facade (error : AgentFacadeError)
  deriving DecidableEq

abbrev BridgeResult := Except AgentGraphEffectBridgeError

lemma ok_of_isOk {ε α : Type} {x : Except ε α} (h : x.isOk = true) : ∃ a, x = .ok a := by
  cases x with
  | error e => cases h
  | ok a => exact ⟨a, rfl⟩

namespace AgentGraphEffectBridge
variable (plan : AgentCompiledExecutionPlan) (node : AgentCompiledPlanNode)
  (request : AgentGraphEffectScheduleRequest)
variable (kind : AgentEffectKind) (nodeId : AgentCompiledNodeId) (attributes : AgentAttributes)

def validatePlan : BridgeResult Unit :=
  (validateCompiledExecutionPlan plan).mapError (fun error => .invalidCompiledPlan error.code (.inr error))

def ensureKnownNode : BridgeResult AgentCompiledPlanNode :=
  match plan.nodes.find? (fun node => node.nodeId == nodeId) with
  | some node => .ok node
  | none => .error (.unknownNode nodeId)

def effectKindForNode : BridgeResult AgentEffectKind :=
  match node.kind with
  | .modelCall => .ok .modelCall
  | .toolCall => .ok .toolCall
  | .processCall => .ok .processCall
  | .httpCall => .ok .httpCall
  | .grpcCall => .ok .grpcCall
  | .streamPublish => .ok .streamPublish
  | .artifactWrite => .ok .artifactWrite
  | .childWorkflowCommand => .ok .childWorkflowCommand
  | .notification => .ok .notification
  | .auditEvent => .ok .auditEvent
  | .input | .transform | .branch | .join | .iterator | .humanCheckpoint | .timerWait | .terminal =>
    .error (.unsupportedNodeKind node.nodeId node.kind)

def loopInstanceKey : String := request.loopInstanceId.getD rootLoopInstanceId

def declaredTargetClass : Option String :=
  (attributes[attrTargetClass]?).filter (fun value => !Text.isBlank value)

def targetClass (target : AgentCompiledNodeTarget) (kind : AgentCompiledNodeKind) : String :=
  (declaredTargetClass target.attributes).getD (target.targetType ++ ":" ++ kind.asLabel)

def targetClassFromAttributes (kind : AgentCompiledNodeKind) : String :=
  (declaredTargetClass attributes).getD kind.asLabel

def validateMaxAttempts : BridgeResult Unit :=
  (attributes[attrAgentEffectMaxAttempts]?).toList.forM (fun value =>
    ensure ((Text.parseU32 value.toList).any (0 < ·))
      (.invalidCompiledPlan "invalid-effect-max-attempts" (.inl ("node `" ++ nodeId.value ++
        "` declares `" ++ attrAgentEffectMaxAttempts ++ "` = `" ++ value ++
        "`; expected a positive decimal integer"))))

def effectAttributes (target : AgentCompiledNodeTarget) : AgentAttributes :=
  let attributes := target.attributes.insertIfNew attrTargetClass (targetClass target node.kind)
  let attributes := attributes.insert attrNodeKind node.kind.asLabel
  let attributes := attributes.insert attrCompiledNodeId node.nodeId.value
  let attributes := attributes.insert attrCompiledPlanFingerprint plan.planFingerprint.value
  let attributes := attributes.insert attrLoopInstanceId (loopInstanceKey request)
  let attributes := match node.credentialBindingRef with
    | some bindingRef => attributes.insert agentCredentialBindingRefAttribute bindingRef.value
    | none => attributes
  match request.maxAttempts with
  | some maxAttempts => attributes.insert attrAgentEffectMaxAttempts (toString maxAttempts)
  | none => attributes

def effectTargetForNode : BridgeResult AgentEffectTarget :=
  match node.target with
  | none => .error (.missingTarget node.nodeId node.kind)
  | some target => do
    let attributes := effectAttributes plan node request target
    validateMaxAttempts node.nodeId attributes
    return ⟨target.targetType, target.name, target.address, attributes⟩

def effectIdentity (targetClass : String) : String :=
  "run=" ++ request.runId.value ++ (";plan=" ++ plan.planFingerprint.value ++ (";node=" ++
    node.nodeId.value ++ (";loop=" ++ loopInstanceKey request ++ (";kind=" ++ kind.asLabel ++
      (";target_class=" ++ targetClass)))))

def effectIdentityForGeneration (generationZeroIdentity : String) (generation : ℕ) : String :=
  if generation = 0 then generationZeroIdentity
  else generationZeroIdentity ++ (effectGenerationSuffix ++ toString generation)

def generationReadFrom (identity : String) : ℕ :=
  ((Text.rsplitOnce effectGenerationSuffix.toList identity.toList).bind
    (fun split => Text.parseU32 split.2)).getD 0

def ensureIdentityReadsAsGenerationZero (targetClass generationZeroIdentity : String) :
    BridgeResult Unit :=
  ensure (generationReadFrom generationZeroIdentity = 0)
    (.invalidCompiledPlan "invalid-effect-target-class" (.inl ("node `" ++ nodeId.value ++
      "` has target class `" ++ targetClass ++ "`, which ends in `" ++ effectGenerationSuffix ++
      "<n>` and would make its effect id read as another generation")))

def idempotencyKeyFor (generationZeroIdentity identity : String) (safetyClass : Option String) :
    BridgeResult String :=
  match safetyClass with
  | some "idempotent" => .ok ("graph-effect-idempotency:" ++ identity)
  | none | some "non-idempotent" | some "reconcileable" | some "read-only" =>
    .ok ("graph-effect-idempotency:" ++ generationZeroIdentity)
  | some other =>
    .error (.invalidCompiledPlan "invalid-effect-safety-class" (.inl ("node `" ++ nodeId.value ++
      "` declares `" ++ attrAgentEffectSafetyClass ++ "` = `" ++ other ++
      "`; expected read-only, idempotent, non-idempotent or reconcileable")))

def requiredField : String := "required field must be non-empty"

def requireEffectMetadata (value field : String) : Except AgentFacadeError Unit :=
  ensure (¬ Text.isBlank value) (.invalidEffectMetadata field requiredField)

def requireEffect (field value : String) : Except AgentFacadeError Unit :=
  ensure (¬ Text.isBlank value) (.invalidEffect kind field requiredField)

def validateEffectMetadata (metadata : AgentEffectMetadata) : Except AgentFacadeError Unit := do
  requireEffectMetadata metadata.effectId.value "effect_id"
  requireEffectMetadata metadata.deduplicationKey "deduplication_key"
  requireEffectMetadata metadata.idempotencyKey "idempotency_key"
  requireEffectMetadata metadata.causationId "causation_id"
  requireEffectMetadata metadata.correlationId "correlation_id"

def validateEffectSchedule (schedule : AgentEffectSchedule) : Except AgentFacadeError Unit := do
  validateEffectMetadata schedule.metadata
  requireEffect schedule.kind "target.target_type" schedule.target.targetType
  requireEffect schedule.kind "target.name" schedule.target.name
  schedule.expectedResultType.toList.forM (requireEffect schedule.kind "expected_result_type")
  schedule.target.attributes.keys.forM (requireEffect schedule.kind "target.attributes.key")

/-- The last of three checks covers the others; a blank result type is refused after the first. -/
def scheduleChecked (schedule : AgentEffectSchedule) : Except AgentFacadeError AgentEffectSchedule := do
  validateEffectMetadata schedule.metadata
  validateEffectSchedule { schedule with expectedResultType := none }
  schedule.expectedResultType.toList.forM (requireEffect schedule.kind "expected_result_type")
  validateEffectSchedule schedule
  return schedule

def effectFromNodeForGeneration (generation : ℕ) : BridgeResult AgentEffectSchedule := do
  let kind ← effectKindForNode node
  let target ← effectTargetForNode plan node request
  let targetClass := targetClassFromAttributes target.attributes node.kind
  let generationZeroIdentity := effectIdentity plan node request kind targetClass
  ensureIdentityReadsAsGenerationZero node.nodeId targetClass generationZeroIdentity
  let identity := effectIdentityForGeneration generationZeroIdentity generation
  let idempotencyKey ← idempotencyKeyFor node.nodeId generationZeroIdentity identity
    (node.target.bind (fun target => target.attributes[attrAgentEffectSafetyClass]?))
  let metadata : AgentEffectMetadata :=
    { effectId := ⟨"graph-effect:" ++ identity⟩
      deduplicationKey := "graph-effect-dedupe:" ++ identity
      idempotencyKey := idempotencyKey
      causationId := request.causationId
      correlationId := request.correlationId
      createdAt := request.createdAt
      dueAt := request.dueAt
      timeoutMs := request.timeoutMs }
  (scheduleChecked ⟨kind, target, metadata, request.expectedResultType⟩).mapError .facade

def effectFromNodeInState (state : AgentGraphRunState) : BridgeResult AgentEffectSchedule := do
  validatePlan plan
  let node ← ensureKnownNode plan request.nodeId
  match state.nodeStates[request.nodeId]? with
  | none => .error (.missingNodeState request.nodeId)
  | some nodeState => effectFromNodeForGeneration plan node request nodeState.effectGeneration

variable {plan plan' : AgentCompiledExecutionPlan} {node node' : AgentCompiledPlanNode}
  {request request' : AgentGraphEffectScheduleRequest}
  {schedule schedule' : AgentEffectSchedule} {generation generation' : ℕ}

/-! ### Generations read back -/

lemma suffix_toList : effectGenerationSuffix.toList = ';' :: ['g', 'e', 'n', '='] := by decide

lemma generationReadFrom_forGeneration {identity : String} (hzero : generationReadFrom identity = 0)
    (h : generation ≤ u32Max) :
    generationReadFrom (effectIdentityForGeneration identity generation) = generation := by
  unfold effectIdentityForGeneration
  split_ifs with hg
  · rw [hzero, hg]
  · have hdigits : ';' ∉ (toString generation).toList := by
      intro hmem
      have hnone := Text.parseU32_of_mem hmem (by decide) (by decide)
      rw [Text.parseU32_toString h] at hnone
      cases hnone
    have htext : (identity ++ (effectGenerationSuffix ++ toString generation)).toList =
        identity.toList ++ ';' :: (['g', 'e', 'n', '='] ++ (toString generation).toList) := by
      simp [effectGenerationSuffix]
    rw [generationReadFrom, htext, suffix_toList, Text.rsplitOnce_last (by decide) hdigits]
    exact congrArg (Option.getD · 0) (Text.parseU32_toString h)

lemma effectIdentityForGeneration_inj {identity identity' : String}
    (hzero : generationReadFrom identity = 0) (hzero' : generationReadFrom identity' = 0)
    (hg : generation ≤ u32Max) (hg' : generation' ≤ u32Max)
    (h : effectIdentityForGeneration identity generation =
      effectIdentityForGeneration identity' generation') :
    identity = identity' ∧ generation = generation' := by
  have hsame : generation = generation' := by
    rw [← generationReadFrom_forGeneration hzero hg, h, generationReadFrom_forGeneration hzero' hg']
  subst hsame
  refine ⟨?_, rfl⟩
  unfold effectIdentityForGeneration at h
  split_ifs at h
  · exact h
  · exact String.append_left_inj _ |>.mp h

/-! ### Identities -/

def coordinates (plan : AgentCompiledExecutionPlan) (node : AgentCompiledPlanNode)
    (request : AgentGraphEffectScheduleRequest) (schedule : AgentEffectSchedule) (generation : ℕ) :
    AgentRunId × AgentCompiledPlanFingerprint × AgentCompiledNodeId × Option String ×
      AgentEffectKind × String × ℕ :=
  (request.runId, plan.planFingerprint, node.nodeId, request.loopInstanceId, schedule.kind,
    targetClassFromAttributes schedule.target.attributes node.kind, generation)

/-- The free-form parts before the kind are without the separator, and no loop is named as the
absence of one. -/
structure PlainParts (plan : AgentCompiledExecutionPlan) (node : AgentCompiledPlanNode)
    (request : AgentGraphEffectScheduleRequest) : Prop where
  run : ';' ∉ request.runId.value.toList
  plan : ';' ∉ plan.planFingerprint.value.toList
  node : ';' ∉ node.nodeId.value.toList
  loop : ';' ∉ (loopInstanceKey request).toList
  named : request.loopInstanceId ≠ some rootLoopInstanceId

lemma asLabel_injective {kind kind' : AgentEffectKind} (h : kind.asLabel = kind'.asLabel) :
    kind = kind' := by
  cases kind <;> cases kind' <;> first | rfl | exact absurd h (by decide)

lemma notMem_asLabel : ';' ∉ kind.asLabel.toList := by
  cases kind <;> decide

lemma loopInstanceKey_inj (h : request.loopInstanceId ≠ some rootLoopInstanceId)
    (h' : request'.loopInstanceId ≠ some rootLoopInstanceId)
    (hkey : loopInstanceKey request = loopInstanceKey request') :
    request.loopInstanceId = request'.loopInstanceId := by
  unfold loopInstanceKey at hkey
  cases hloop : request.loopInstanceId <;> cases hloop' : request'.loopInstanceId <;>
    simp_all

theorem field_inj {start a b rest rest' : String} (ha : ';' ∉ a.toList) (hb : ';' ∉ b.toList)
    (hrest : rest.toList.head? = some ';') (hrest' : rest'.toList.head? = some ';')
    (h : start ++ a ++ rest = start ++ b ++ rest') : a = b ∧ rest = rest' := by
  obtain ⟨tail, htail⟩ := List.head?_eq_some_iff.mp hrest
  obtain ⟨tail', htail'⟩ := List.head?_eq_some_iff.mp hrest'
  have hlist := congrArg String.toList h
  simp only [String.toList_append, List.append_assoc, htail, htail'] at hlist
  obtain ⟨hfield, htails⟩ := Text.append_cons_inj ha hb (List.append_cancel_left hlist)
  refine ⟨String.toList_injective hfield, String.toList_injective ?_⟩
  rw [htail, htail', htails]

lemma effectIdentity_inj {kind kind' : AgentEffectKind} {targetClass targetClass' : String}
    (hplain : PlainParts plan node request) (hplain' : PlainParts plan' node' request')
    (h : effectIdentity plan node request kind targetClass =
      effectIdentity plan' node' request' kind' targetClass') :
    request.runId = request'.runId ∧ plan.planFingerprint = plan'.planFingerprint ∧
      node.nodeId = node'.nodeId ∧ request.loopInstanceId = request'.loopInstanceId ∧
      kind = kind' ∧ targetClass = targetClass' := by
  -- the fields are read off from the left, each up to the next separator
  obtain ⟨hrun, h⟩ := field_inj hplain.run hplain'.run (by simp) (by simp) h
  obtain ⟨hfingerprint, h⟩ := field_inj hplain.plan hplain'.plan (by simp) (by simp) h
  obtain ⟨hnode, h⟩ := field_inj hplain.node hplain'.node (by simp) (by simp) h
  obtain ⟨hloop, h⟩ := field_inj hplain.loop hplain'.loop (by simp) (by simp) h
  obtain ⟨hkind, h⟩ := field_inj (notMem_asLabel kind) (notMem_asLabel kind') (by simp) (by simp) h
  exact ⟨congrArg AgentRunId.mk hrun, congrArg AgentCompiledPlanFingerprint.mk hfingerprint,
    AgentCompiledNodeId.value_injective hnode, loopInstanceKey_inj hplain.named hplain'.named hloop,
    asLabel_injective hkind, String.append_right_inj _ |>.mp h⟩

lemma minted (h : effectFromNodeForGeneration plan node request generation = .ok schedule) :
    ∃ identity, identity = effectIdentity plan node request schedule.kind
        (targetClassFromAttributes schedule.target.attributes node.kind) ∧
      generationReadFrom identity = 0 ∧
      schedule.metadata.effectId = ⟨"graph-effect:" ++ effectIdentityForGeneration identity generation⟩ ∧
      schedule.metadata.deduplicationKey =
        "graph-effect-dedupe:" ++ effectIdentityForGeneration identity generation := by
  simp only [effectFromNodeForGeneration, bind_eq_ok, exists_unit, ensureIdentityReadsAsGenerationZero,
    ensure_eq_ok] at h
  obtain ⟨kind, -, target, -, hzero, key, -, hchecked⟩ := h
  cases hresult : scheduleChecked _ with
  | error error =>
    rw [hresult] at hchecked
    cases hchecked
  | ok checked =>
    rw [hresult] at hchecked
    simp only [scheduleChecked, bind_eq_ok, exists_unit] at hresult
    obtain ⟨-, -, -, -, hresult⟩ := hresult
    cases hresult
    cases hchecked
    exact ⟨_, rfl, hzero, rfl, rfl⟩

def callNode : AgentCompiledPlanNode :=
  { relayNode "c" .httpCall with target := some ⟨"t", "t", none, .ofList [(attrTargetClass, "t")]⟩ }

def callPlan : AgentCompiledExecutionPlan :=
  planOf ["c"] [callNode, finishNode] [.new "e1" "c" "out" "finish" "in"]

def requestFor (nodeId runId : String) (loopInstanceId : Option String) :
    AgentGraphEffectScheduleRequest :=
  ⟨⟨runId⟩, ⟨nodeId⟩, loopInstanceId, none, none, none, none, 0, "x", "x"⟩

def mintedKeys (minted : BridgeResult AgentEffectSchedule) : Option (AgentEffectId × String) :=
  minted.toOption.map (fun schedule => (schedule.metadata.effectId, schedule.metadata.deduplicationKey))

def sharedIdentity : String :=
  "run=r;plan=fp-1;node=c;loop=x;plan=fp-1;node=c;loop=y;kind=http-call;target_class=t"

section AcceptedNode
variable {target : AgentCompiledNodeTarget} {kind : AgentEffectKind}

lemma notMem_nodeLabel (kind : AgentCompiledNodeKind) : ';' ∉ kind.asLabel.toList := by
  cases kind <;> decide

lemma shaped_of_validate (h : validateCompiledExecutionPlan plan = .ok ()) (hnode : node ∈ plan.nodes) :
    validateNodeShape node .current = .ok () := by
  simp only [validateCompiledExecutionPlan, validateCompiledExecutionPlanWithCatalog, bind_eq_ok,
    exists_unit] at h
  obtain ⟨-, nodesById, hnodes, -⟩ := h
  exact (collected_of_foldlM hnodes).shaped node hnode

theorem descriptor_requiresTarget (hkind : effectKindForNode node = .ok kind)
    (haudit : node.kind ≠ .auditEvent) :
    ∃ descriptor, AgentCompiledNodeKindCatalog.current.descriptor node.kind = some descriptor ∧
      descriptor.requiresTarget = true := by
  unfold effectKindForNode at hkind
  cases hnode : node.kind <;> rw [hnode] at hkind <;> first
    | exact ⟨_, rfl, rfl⟩
    | exact absurd hnode haudit
    | cases hkind

lemma target_of_shape (hkind : effectKindForNode node = .ok kind) (haudit : node.kind ≠ .auditEvent)
    (h : validateNodeShape node .current = .ok ()) :
    ∃ target, node.target = some target ∧ validateEffectTargetAttributes node target = .ok () := by
  obtain ⟨descriptor, hdescriptor, hrequires⟩ := descriptor_requiresTarget hkind haudit
  simp only [validateNodeShape, bind_eq_ok, exists_unit, hdescriptor, validateAgainstDescriptor,
    ensure_eq_ok, forM_eq_ok] at h
  obtain ⟨-, -, htargets, -, -, hmissing, -⟩ := h
  cases htarget : node.target with
  | none => exact absurd ⟨hrequires, by rw [htarget]; rfl⟩ hmissing
  | some target =>
    have hchecked := htargets target (by simp [htarget])
    simp only [validateNodeTarget, bind_eq_ok, exists_unit] at hchecked
    exact ⟨target, rfl, hchecked.2.2.2.2⟩

theorem lookup_effectAttributes {key : String} (hattempts : request.maxAttempts = none)
    (hkey : key ∉ [attrNodeKind, attrCompiledNodeId, attrCompiledPlanFingerprint, attrLoopInstanceId,
      agentCredentialBindingRefAttribute]) : (effectAttributes plan node request target)[key]? =
      if attrTargetClass = key ∧ attrTargetClass ∉ target.attributes then
        some (targetClass target node.kind) else target.attributes[key]? := by
  simp only [List.mem_cons, List.not_mem_nil, or_false, not_or] at hkey
  unfold effectAttributes
  rw [hattempts]
  cases node.credentialBindingRef <;>
    simp only [BTreeMap.lookup_insert, hkey, if_false, Std.ExtTreeMap.getElem?_insertIfNew,
      Std.LawfulEqOrd.compare_eq_iff_eq]

lemma targetClass_cases (hattempts : request.maxAttempts = none) {class' : String}
    (hclass : targetClassFromAttributes (effectAttributes plan node request target) node.kind = class') :
    declaredTargetClass target.attributes = some class' ∨
      class' = target.targetType ++ ":" ++ node.kind.asLabel ∨ class' = node.kind.asLabel := by
  unfold targetClassFromAttributes at hclass
  cases hdeclared : declaredTargetClass (effectAttributes plan node request target) with
  | none =>
    rw [hdeclared] at hclass
    exact .inr (.inr hclass.symm)
  | some value =>
    rw [hdeclared] at hclass
    obtain rfl : value = class' := hclass
    rw [declaredTargetClass, lookup_effectAttributes hattempts (by decide)] at hdeclared
    split_ifs at hdeclared with hnew
    · obtain ⟨hvalue, -⟩ := Option.filter_eq_some_iff.mp hdeclared
      have hnone : declaredTargetClass target.attributes = none := by
        rw [declaredTargetClass, Std.ExtTreeMap.getElem?_eq_none hnew.2]
        rfl
      rw [targetClass, hnone] at hvalue
      exact .inr (.inl (Option.some.inj hvalue).symm)
    · exact .inl hdeclared

lemma targetClassReadsAsGeneration_eq_false {class' : String} :
    targetClassReadsAsGeneration class' = false ↔ ∀ before after,
      Text.rsplitOnce (';' :: ['g', 'e', 'n', '=']) class'.toList = some (before, after) →
        Text.parseU32 after = none := by
  rw [targetClassReadsAsGeneration, suffix_toList]
  cases Text.rsplitOnce (';' :: ['g', 'e', 'n', '=']) class'.toList with
  | none => simp
  | some split =>
    obtain ⟨before, after⟩ := split
    simp

theorem generationReadFrom_effectIdentity {class' : String} (h : targetClassReadsAsGeneration class' = false) :
    generationReadFrom (effectIdentity plan node request kind class') = 0 := by
  have htext : (effectIdentity plan node request kind class').toList =
      ("run=" ++ request.runId.value ++ ";plan=" ++ plan.planFingerprint.value ++ ";node=" ++
        node.nodeId.value ++ ";loop=" ++ loopInstanceKey request ++ ";kind=" ++ kind.asLabel ++
        ";target_clas").toList ++ 's' :: '=' :: class'.toList := by
    simp [effectIdentity]
  rw [generationReadFrom, htext, suffix_toList]
  cases hsplit : Text.rsplitOnce (';' :: ['g', 'e', 'n', '=']) _ with
  | none => rfl
  | some split =>
    have hparse : Text.parseU32 split.2 = none := by
      rcases Text.rsplitOnce_append_cases (by decide) hsplit with ⟨inner, hinner⟩ | hmem
      · cases hclass : Text.rsplitOnce (';' :: ['g', 'e', 'n', '=']) class'.toList with
        | none => simp [Text.rsplitOnce, hclass] at hinner
        | some last =>
          simp only [Text.rsplitOnce, hclass, Option.some.injEq, Prod.mk.injEq] at hinner
          exact hinner.2 ▸ targetClassReadsAsGeneration_eq_false.mp h _ _ hclass
      · exact Text.parseU32_of_mem hmem (by decide) (by decide)
    simp [hparse]

section
variable (hchecked : validateEffectTargetAttributes node target = .ok ())
include hchecked

lemma reads_as_no_generation (hattempts : request.maxAttempts = none) {class' : String}
    (hclass : targetClassFromAttributes (effectAttributes plan node request target) node.kind = class') :
    targetClassReadsAsGeneration class' = false := by
  rcases targetClass_cases hattempts hclass with hdeclared | hdefault | hlabel
  · simp only [validateEffectTargetAttributes, bind_eq_ok, exists_unit, forM_eq_ok, ensure_eq_ok] at hchecked
    simpa using hchecked.2.2 _ (Option.mem_toList.mpr hdeclared)
  · rw [hdefault, targetClassReadsAsGeneration_eq_false]
    intro before after hsplit
    have hnone : Text.rsplitOnce (';' :: ['g', 'e', 'n', '=']) (':' :: node.kind.asLabel.toList) = none :=
      Text.rsplitOnce_of_notMem (by simp [notMem_nodeLabel])
    rw [String.append_assoc, String.toList_append, String.toList_append] at hsplit
    exact Text.parseU32_of_mem (Text.mem_of_rsplitOnce (by decide) hnone hsplit) (by decide) (by decide)
  · rw [hlabel, targetClassReadsAsGeneration_eq_false, Text.rsplitOnce_of_notMem (notMem_nodeLabel _)]
    intro before after hsplit
    cases hsplit

lemma idempotencyKeyFor_isOk (nodeId : AgentCompiledNodeId) (zeroth identity : String) :
    ∃ key, idempotencyKeyFor nodeId zeroth identity (target.attributes[attrAgentEffectSafetyClass]?) =
      .ok key := by
  simp only [validateEffectTargetAttributes, bind_eq_ok, exists_unit, forM_eq_ok, ensure_eq_ok] at hchecked
  cases hclass : target.attributes[attrAgentEffectSafetyClass]? with
  | none => exact ⟨_, rfl⟩
  | some value =>
    have hlabel := hchecked.1 value (by simp [hclass])
    simp only [agentEffectSafetyClassLabels, List.mem_cons, List.not_mem_nil, or_false] at hlabel
    rcases hlabel with rfl | rfl | rfl | rfl <;> exact ⟨_, rfl⟩

lemma effectTargetForNode_eq_ok (htarget : node.target = some target)
    (hattempts : request.maxAttempts = none) :
    effectTargetForNode plan node request = .ok ⟨target.targetType, target.name, target.address,
      effectAttributes plan node request target⟩ := by
  simp only [validateEffectTargetAttributes, bind_eq_ok, exists_unit, forM_eq_ok, ensure_eq_ok] at hchecked
  have hlookup : (effectAttributes plan node request target)[attrAgentEffectMaxAttempts]? =
      target.attributes[attrAgentEffectMaxAttempts]? := by
    rw [lookup_effectAttributes hattempts (by decide), if_neg (fun hsame => absurd hsame.1 (by decide))]
  have hbound : validateMaxAttempts node.nodeId (effectAttributes plan node request target) = .ok () := by
    rw [validateMaxAttempts, hlookup, forM_eq_ok]
    exact fun value hvalue => ensure_eq_ok.mpr (hchecked.2.1 value hvalue)
  rw [effectTargetForNode, htarget]
  simp only [hbound]
  rfl

end

/-- The only errors left to a node of an accepted plan are those of the effect's own fields. -/
theorem error_of_effectFromNode (hvalid : validateCompiledExecutionPlan plan = .ok ())
    (hnode : node ∈ plan.nodes) (hkind : effectKindForNode node = .ok kind)
    (haudit : node.kind ≠ .auditEvent) (hattempts : request.maxAttempts = none)
    {error : AgentGraphEffectBridgeError}
    (h : effectFromNodeForGeneration plan node request generation = .error error) :
    ∃ reason, error = .facade reason := by
  obtain ⟨target, htarget, hchecked⟩ := target_of_shape hkind haudit (shaped_of_validate hvalid hnode)
  have htargeted : effectTargetForNode plan node request = _ :=
    effectTargetForNode_eq_ok hchecked htarget hattempts
  obtain ⟨class', hclass⟩ : ∃ class', targetClassFromAttributes
    (effectAttributes plan node request target) node.kind = class' := ⟨_, rfl⟩
  have hzero : ensureIdentityReadsAsGenerationZero node.nodeId class'
      (effectIdentity plan node request kind class') = .ok () :=
    ensure_eq_ok.mpr (generationReadFrom_effectIdentity (reads_as_no_generation hchecked hattempts hclass))
  obtain ⟨key, hkey⟩ := idempotencyKeyFor_isOk hchecked node.nodeId
    (effectIdentity plan node request kind class')
    (effectIdentityForGeneration (effectIdentity plan node request kind class') generation)
  have hsafety : node.target.bind (fun target => target.attributes[attrAgentEffectSafetyClass]?) =
      target.attributes[attrAgentEffectSafetyClass]? := by
    rw [htarget]
    rfl
  simp only [effectFromNodeForGeneration, hkind, htargeted, hclass, hzero, hsafety, hkey, bind,
    Except.bind] at h
  cases hresult : scheduleChecked _ with
  | ok schedule =>
    rw [hresult] at h
    cases h
  | error reason =>
    rw [hresult] at h
    exact ⟨reason, (Except.error.inj h).symm⟩

end AcceptedNode

def auditPlan : AgentCompiledExecutionPlan :=
  planOf ["audit"] [relayNode "audit" .auditEvent, finishNode] [.new "e1" "audit" "out" "finish" "in"]

end AgentGraphEffectBridge
end Rakka.AgentWorkflow
