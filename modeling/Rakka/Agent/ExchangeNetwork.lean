import Rakka.Agent.ExchangePlans

/-! Any number of hosts at any number of addresses, with the replies they have sent. Hosts crash
and recover, deliveries are repeated and reordered, and a reply may be settled any number of times
or never. -/

namespace Rakka.Agent
open Foundation Rakka.Persistence AgentExchangeJournal

/-- The hosts of every address; each may run a binary of its own. -/
structure Deployment (κ D : Type) where
  participant : AgentEntityAddress → κ → AgentExchangeParticipant D
  policy : AgentEntityAddress → κ → AgentSchemaPolicy

def Deployment.host {κ D : Type} (deployment : Deployment κ D) (address : AgentEntityAddress)
    (client : κ) : AgentExchangeHost D :=
  ⟨address, deployment.participant address client, deployment.policy address client⟩

structure SentReply where
  source : AgentEntityAddress
  reply : AgentExchangeReply
  deriving DecidableEq

/-- The records with their hosts, the journal events committed there and the replies sent. -/
structure ExchangeNetwork (κ D : Type) where
  entity : AgentEntityAddress → Replicated κ (ExchangeState D)
  events : AgentEntityAddress → List JournalEvent
  replies : List SentReply

inductive NetworkOp (κ D : Type) where
  | crash (address : AgentEntityAddress) (client : κ)
  | recover (address : AgentEntityAddress) (client : κ) (now : ℕ)
  | call (address : AgentEntityAddress) (client : κ) (call : ExchangeCall D)

def ExchangeAnswer.sent (source : AgentEntityAddress) : ExchangeAnswer → List SentReply
  | .replied reply => [⟨source, reply⟩]
  | _ => []

namespace ExchangeNetwork
variable {κ D : Type} [DecidableEq κ] [DecidableEq D]
variable (w : ExchangeNetwork κ D)
variable (deployment : Deployment κ D) (address : AgentEntityAddress)

def init : ExchangeNetwork κ D := ⟨fun _ => ⟨.new, fun _ => .new⟩, fun _ => [], []⟩

def setHost (client : κ)
    (out : Replica (ExchangeState D) × InMemoryDurableStateStore (ExchangeState D)) :
    ExchangeNetwork κ D :=
  { w with
    entity := Function.update w.entity address
      (Replicated.set ⟨out.2, (w.entity address).replica⟩ client out.1) }

def told (answer : ExchangeAnswer) (events : List JournalEvent) : ExchangeNetwork κ D :=
  { w with
    events := Function.update w.events address (w.events address ++ events)
    replies := w.replies ++ answer.sent address }

def ask (client : κ) (call : ExchangeCall D) :
    Except AgentChoreographyError ExchangeAnswer × ExchangeNetwork κ D :=
  let out := (deployment.host address client).perform call
    ((w.entity address).replica client, (w.entity address).store)
  match out.1 with
  | .error error => (.error error, w.setHost address client out.2)
  | .ok (answer, events) => (.ok answer, (w.setHost address client out.2).told address answer events)

def isSent : ExchangeCall D → Bool
  | .settle reply _ => w.replies.any (fun sent => sent.reply = reply)
  | _ => true

def step (w : ExchangeNetwork κ D) : NetworkOp κ D → ExchangeNetwork κ D
  | .crash address client => w.setHost address client (.new, (w.entity address).store)
  | .recover address client now =>
    w.setHost address client ((deployment.host address client).recover now
      ((w.entity address).replica client, (w.entity address).store)).2
  | .call address client call =>
    if w.isSent call then (w.ask deployment address client call).2 else w

def run (ops : List (NetworkOp κ D)) : ExchangeNetwork κ D :=
  ops.foldl (step deployment) init

end ExchangeNetwork
end Rakka.Agent
