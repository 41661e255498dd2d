import Rakka.AgentWorkflow.GraphState
import Rakka.Foundation.Text
import Rakka.Workflow.Model

/-! Effects of agent runs as the dispatchers see them: what they are, where they go, and the
class of a target. -/

namespace Rakka.AgentWorkflow
open Foundation Rakka.Workflow

structure AgentRunId where
  value : String
  deriving DecidableEq, Repr

def agentRunWorkflowId (runId : AgentRunId) : WorkflowId := ⟨runId.value⟩

inductive AgentEffectKind where
  | modelCall | toolCall | processCall | httpCall | grpcCall | streamPublish | artifactWrite
  | humanApprovalRequest | notification | childWorkflowCommand | auditEvent
  deriving DecidableEq, Repr

structure AgentEffectTarget where
  targetType : String
  name : String
  address : Option String
  attributes : AgentAttributes
  deriving DecidableEq

structure AgentEffect where
  effectId : AgentEffectId
  kind : AgentEffectKind
  target : AgentEffectTarget
  dueAt : Option AgentTimestampMillis
  lastErrorCode : Option String
  deriving DecidableEq

def AgentEffectId.messageId (effectId : AgentEffectId) : OutboxMessageId := ⟨effectId.value⟩

structure AgentDueEffect where
  entry : OutboxEntry
  effect : AgentEffect

inductive AgentDispatchTargetClass where
  | model | tool | process | a2aPeer | http | grpc | webhook | notification | pushNotification
  | human | stream | artifact | childWorkflow | audit | other
  deriving DecidableEq, Repr

namespace AgentDispatchTargetClass

lemma ctorIdx_injective : Function.Injective AgentDispatchTargetClass.ctorIdx := by
  intro a b h
  cases a <;> cases b <;> first | rfl | cases h

instance : LinearOrder AgentDispatchTargetClass :=
  LinearOrder.lift' AgentDispatchTargetClass.ctorIdx ctorIdx_injective

instance : Std.TransOrd AgentDispatchTargetClass := inferInstance

def acceptsEffectKind : AgentDispatchTargetClass → AgentEffectKind → Bool
  | model, kind => kind = .modelCall
  | tool, kind => kind = .toolCall
  | process, kind => kind = .processCall
  | a2aPeer, kind => kind = .httpCall || kind = .grpcCall || kind = .toolCall
  | http, kind => kind = .httpCall
  | grpc, kind => kind = .grpcCall
  | webhook, kind => kind = .httpCall || kind = .notification
  | notification, kind | pushNotification, kind => kind = .notification
  | human, kind => kind = .humanApprovalRequest
  | stream, kind => kind = .streamPublish
  | artifact, kind => kind = .artifactWrite
  | childWorkflow, kind => kind = .childWorkflowCommand || kind = .toolCall
  | audit, kind => kind = .auditEvent
  | other, _ => true

def asLabel : AgentDispatchTargetClass → String
  | model => "model"
  | tool => "tool"
  | process => "process"
  | a2aPeer => "a2a-peer"
  | http => "http"
  | grpc => "grpc"
  | webhook => "webhook"
  | notification => "notification"
  | pushNotification => "push-notification"
  | human => "human"
  | stream => "stream"
  | artifact => "artifact"
  | childWorkflow => "child-workflow"
  | audit => "audit"
  | other => "other"

def dispatchClassFromLabel : String → Option AgentDispatchTargetClass
  | "model" => some model
  | "tool" => some tool
  | "process" | "process-tool" => some process
  | "a2a-peer" => some a2aPeer
  | "http" => some http
  | "grpc" => some grpc
  | "webhook" => some webhook
  | "notification" => some notification
  | "push" | "a2a-push" | "push-notification" => some pushNotification
  | "human" | "human-checkpoint" => some human
  | "stream" => some stream
  | "artifact" => some artifact
  | "child-workflow" => some childWorkflow
  | "audit" => some audit
  | "other" => some other
  | _ => none

/-- The class a target type stands for; `base` where it stands for none. -/
def byTargetType (base : AgentDispatchTargetClass) : String → AgentDispatchTargetClass
  | "model" => model
  | "tool" => tool
  | "process" => process
  | "a2a-peer" => a2aPeer
  | "workflow-tool" => childWorkflow
  | "webhook" => webhook
  | "push" | "a2a-push" => pushNotification
  | "http" => http
  | "grpc" => grpc
  | "notification" => notification
  | "human" => human
  | _ => base

def refineWithTargetType (base : AgentDispatchTargetClass) (kind : AgentEffectKind)
    (target : AgentEffectTarget) : AgentDispatchTargetClass :=
  match ((target.attributes["target_class"]?).bind dispatchClassFromLabel).filter
      (fun cls => cls.acceptsEffectKind kind) with
  | some cls => cls
  | none =>
    if target.attributes["notification_protocol"]? = some "a2a-push" ∧
        pushNotification.acceptsEffectKind kind then pushNotification
    else if (byTargetType base target.targetType).acceptsEffectKind kind then
      byTargetType base target.targetType
    else base

def classify (kind : AgentEffectKind) (target : AgentEffectTarget) : AgentDispatchTargetClass :=
  let base : AgentDispatchTargetClass :=
    match kind with
    | .modelCall => model
    | .toolCall => tool
    | .processCall => process
    | .httpCall => http
    | .grpcCall => grpc
    | .notification => notification
    | .humanApprovalRequest => human
    | .streamPublish => stream
    | .artifactWrite => artifact
    | .childWorkflowCommand => childWorkflow
    | .auditEvent => audit
  base.refineWithTargetType kind target

end AgentDispatchTargetClass
end Rakka.AgentWorkflow
