import Rakka.Sharding.Convergence
import Rakka.Sharding.LeaseFencing
import Rakka.Sharding.StoreFencing
import Rakka.Sharding.BufferGuarantees
import Rakka.Sharding.ShardTransfer
import Rakka.Sharding.LocalRegion
import Rakka.Sharding.ContactGate
import Rakka.Persistence.SnapshotSpacing
import Rakka.Workflow.OutboxProgress
import Rakka.AgentWorkflow.GraphOutcome
import Rakka.AgentWorkflow.GraphGuards
import Rakka.AgentWorkflow.DispatchGuarantees
import Rakka.Agent.ExchangeGuarantees
import Rakka.Agent.EscrowRuns
import Rakka.Agent.FanIn
import Rakka.Core.Receptionist
import Rakka.Stream.Wakeups
import Rakka.Stream.Conservation
import Rakka.A2A.PushEffects
import Rakka.A2A.TaskProjection
import Rakka.Remote.Transport
import Rakka.AgentWorkflow.EffectBridge
import Rakka.KnowledgeGraph.Traversal
