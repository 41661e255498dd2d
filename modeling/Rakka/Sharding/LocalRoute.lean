import Rakka.Core.Actor
import Rakka.Sharding.Routing

/-! The local route, which starts sharded entity actors on demand. Each entity has at most one slot,
active or stopping. Calls and background tasks hold the registry lock for all they do, so each is
one step; the tasks of actors run between them. What the source does for an actor that stops between
two reads of one call is what it does for one that had stopped before. A trace records which tickets
were accepted, handled and dropped. -/

namespace Rakka.Sharding
open Rakka.Core Cluster Foundation

abbrev ActorUid := ℕ

structure LocalEntityContext where
  localNodeId : NodeId
  entityType : EntityType
  entityId : EntityId
  shardId : ShardId
  deriving DecidableEq

/-- A message with the ticket of its delivery; a stop message has none. -/
structure Parcel (M : Type) where
  message : M
  ticket : Option ℕ

inductive LocalEntitySlot (M : Type) where
  | active (context : LocalEntityContext) (actorRef : ActorUid) (idleDeadline : Option ℕ)
      (timerArmed : Bool)
  | stopping (context : LocalEntityContext) (actorRef : ActorUid) (held : List (Parcel M))
      (reactivate : Bool)

namespace LocalEntitySlot
variable {M : Type}

def context : LocalEntitySlot M → LocalEntityContext
  | .active context _ _ _ => context
  | .stopping context _ _ _ => context

def actorRef : LocalEntitySlot M → ActorUid
  | .active _ actorRef _ _ => actorRef
  | .stopping _ actorRef _ _ => actorRef

end LocalEntitySlot

inductive PassivationOutcome where
  | stopping | alreadyStopping | absent | abandoned
  deriving DecidableEq, Repr

structure Incarnation (M : Type) where
  context : LocalEntityContext
  cell : ActorCell (Parcel M)

structure LocalEntityRoute where
  localNodeId : NodeId
  mailboxCapacity : ℕ
  idlePassivationTimeout : Option Duration

/-- What a call finds around it: whether a runtime is current, and how a spawn fails. -/
structure CallEnv where
  runtime : Bool
  spawnError : Option String

structure IdleTimer where
  entityId : EntityId
  uid : ActorUid
  deadline : ℕ
  deriving DecidableEq

structure Handling where
  entityId : EntityId
  ticket : ℕ
  uid : ActorUid
  deriving DecidableEq

structure LocalState (M : Type) where
  actors : BTreeMap EntityId (LocalEntitySlot M)
  cells : BTreeMap ActorUid (Incarnation M)
  nextUid : ActorUid
  shardStates : BTreeMap ShardId ShardHandoffState
  watchers : List (EntityId × ActorUid)
  idleTimers : List IdleTimer
  owedStops : List (EntityId × ActorUid)
  now : ℕ
  nextTicket : ℕ
  accepted : List (EntityId × ℕ)
  handled : List Handling
  dropped : List (EntityId × ℕ)

namespace LocalState
variable {M : Type}

def empty (now : ℕ) : LocalState M := ⟨∅, ∅, 0, ∅, [], [], [], now, 0, [], [], []⟩

section
variable (s : LocalState M) (entityId : EntityId)

def setSlot (slot : LocalEntitySlot M) : LocalState M :=
  { s with actors := s.actors.insert entityId slot }

def removeSlot : LocalState M :=
  { s with actors := s.actors.erase entityId }

def setCell (uid : ActorUid) (incarnation : Incarnation M) : LocalState M :=
  { s with cells := s.cells.insert uid incarnation }

def warnDropped (parcels : List (Parcel M)) : LocalState M :=
  { s with dropped := s.dropped ++ (parcels.filterMap Parcel.ticket).map (entityId, ·) }

def isTerminated (s : LocalState M) (uid : ActorUid) : Bool :=
  match s.cells[uid]? with
  | none => true
  | some incarnation => incarnation.cell.isTerminated

def isStopping (s : LocalState M) (uid : ActorUid) : Bool :=
  match s.cells[uid]? with
  | none => true
  | some incarnation => incarnation.cell.isStopping

def tell (s : LocalState M) (uid : ActorUid) (parcel : Parcel M) :
    Except (TellError (Parcel M)) Unit × LocalState M :=
  match s.cells[uid]? with
  | none => (.error (.closed parcel), s)
  | some incarnation =>
    let (answer, cell) := incarnation.cell.tell parcel
    (answer, s.setCell uid { incarnation with cell := cell })

def stop (s : LocalState M) (uid : ActorUid) : Except StopError Unit × LocalState M :=
  match s.cells[uid]? with
  | none => (.ok (), s)
  | some incarnation =>
    let (answer, cell) := incarnation.cell.stop
    (answer, s.setCell uid { incarnation with cell := cell })

def spawnStopWatcher (env : CallEnv) (entityId : EntityId) (uid : ActorUid) : LocalState M :=
  if env.runtime then { s with watchers := s.watchers ++ [(entityId, uid)] } else s

def spawnOwedStop (env : CallEnv) (entityId : EntityId) (uid : ActorUid) : LocalState M :=
  if env.runtime then { s with owedStops := s.owedStops ++ [(entityId, uid)] } else s

end

variable (route : LocalEntityRoute)

section
variable (s : LocalState M) (env : CallEnv) (context : LocalEntityContext)
  (message : RoutedEntityMessage M) (shardId : ShardId) (entityId : EntityId) (parcel : Parcel M)
  (uid : ActorUid)

def noteDelivery : LocalState M :=
  match route.idlePassivationTimeout with
  | none => s
  | some timeout =>
    match s.actors[entityId]? with
    | some (.active context actorRef _ timerArmed) =>
      let deadline := s.now + timeout
      if !timerArmed && env.runtime then
        { s.setSlot entityId (.active context actorRef (some deadline) true) with
          idleTimers := s.idleTimers ++ [⟨entityId, actorRef, deadline⟩] }
      else s.setSlot entityId (.active context actorRef (some deadline) timerArmed)
    | _ => s

def spawnIncarnation : Except EntityDeliveryFailure ActorUid × LocalState M :=
  if route.mailboxCapacity = 0 then
    (.error (.spawnFailed "actor mailbox capacity must be greater than zero"), s)
  else
    match env.spawnError with
    | some message => (.error (.spawnFailed message), s)
    | none =>
      (.ok s.nextUid, { s.setCell s.nextUid ⟨context, .new route.mailboxCapacity⟩ with
        nextUid := s.nextUid + 1 })

/-- The first held message that is not taken and all after it are dropped. -/
def tellHeld (s : LocalState M) (entityId : EntityId) (uid : ActorUid) :
    List (Parcel M) → LocalState M
  | [] => s
  | parcel :: held =>
    match s.tell uid parcel with
    | (.ok (), s') => s'.tellHeld entityId uid held
    | (.error _, s') => s'.warnDropped entityId (parcel :: held)

def activateSlot (held : List (Parcel M)) : Except EntityDeliveryFailure ActorUid × LocalState M :=
  match s.spawnIncarnation route env context with
  | (.error failure, s') => (.error failure, s'.warnDropped context.entityId held)
  | (.ok uid, s') =>
    let s' := (s'.tellHeld context.entityId uid held).setSlot context.entityId
      (.active context uid none false)
    (.ok uid, if held.isEmpty then s' else s'.noteDelivery route env context.entityId)

def activateAndDeliver (held : List (Parcel M)) (parcel : Parcel M) :
    Except (EntityTellError M) Unit × LocalState M :=
  match s.activateSlot route env context held with
  | (.error failure, s') => (.error (.delivery parcel.message failure), s')
  | (.ok uid, s') =>
    match s'.tell uid parcel with
    | (.ok (), s'') => (.ok (), s''.noteDelivery route env context.entityId)
    | (.error (.full parcel), s'') => (.error (.delivery parcel.message .mailboxFull), s'')
    | (.error (.closed parcel), s'') => (.error (.delivery parcel.message .mailboxClosed), s'')

def holdBehindSelfStop : LocalState M :=
  match s.actors[entityId]? with
  | some (.active context actorRef _ _) =>
    (s.setSlot entityId (.stopping context actorRef [parcel] false)).spawnStopWatcher env entityId
      actorRef
  | _ => s

def deliverLocked : Except (EntityTellError M) Unit × LocalState M :=
  let entityId := message.entityId
  let context : LocalEntityContext :=
    ⟨route.localNodeId, message.entityType, entityId, message.shardId⟩
  match s.actors[entityId]? with
  | some (.active _ actorRef _ _) =>
    if s.isTerminated actorRef then
      (s.removeSlot entityId).activateAndDeliver route env context [] parcel
    else if s.isStopping actorRef then (.ok (), s.holdBehindSelfStop env entityId parcel)
    else
      match s.tell actorRef parcel with
      | (.ok (), s') => (.ok (), s'.noteDelivery route env entityId)
      | (.error (.full parcel), s') => (.error (.delivery parcel.message .mailboxFull), s')
      | (.error (.closed parcel), s') =>
        if s'.isTerminated actorRef then
          (s'.removeSlot entityId).activateAndDeliver route env context [] parcel
        else (.ok (), s'.holdBehindSelfStop env entityId parcel)
  | some (.stopping slotContext actorRef held reactivate) =>
    if s.isTerminated actorRef then
      (s.removeSlot entityId).activateAndDeliver route env context held parcel
    else if held.length < route.mailboxCapacity then
      (.ok (), s.setSlot entityId (.stopping slotContext actorRef (held ++ [parcel]) reactivate))
    else (.error (.delivery parcel.message .mailboxFull), s)
  | none => (s.removeSlot entityId).activateAndDeliver route env context [] parcel

def shardHandoffState : ShardHandoffState :=
  s.shardStates[shardId]?.getD .owning

def ensureShardAcceptsDelivery : Except EntityDeliveryFailure Unit :=
  match s.shardHandoffState shardId with
  | .owning | .acquired => .ok ()
  | .draining => .error (.shardHandoff shardId .draining)
  | .transferring => .error (.shardHandoff shardId .transferring)

/-- `parcel` is the message of the call with its ticket. -/
def deliverParcel : Except (EntityTellError M) Unit × LocalState M :=
  if message.owner ≠ route.localNodeId then
    (.error (.delivery parcel.message (.notLocal message.owner)), s)
  else
    match s.ensureShardAcceptsDelivery message.shardId with
    | .error failure => (.error (.delivery parcel.message failure), s)
    | .ok () => s.deliverLocked route env message parcel

def deliver : Except (EntityTellError M) Unit × LocalState M :=
  match s.deliverParcel route env message ⟨message.message, some s.nextTicket⟩ with
  | (.ok (), s') => (.ok (), { s' with
    nextTicket := s'.nextTicket + 1
    accepted := s'.accepted ++ [(message.entityId, s'.nextTicket)] })
  | (.error e, s') => (.error e, { s' with nextTicket := s'.nextTicket + 1 })

def tellStopMessage :
    Option M → Except (TellError (Parcel M)) Unit × LocalState M
  | none => (.ok (), s)
  | some message => s.tell uid ⟨message, none⟩

/-- A full mailbox leaves the slot active, with the stop message possibly told. -/
def passivateSlot (stopMessage : Option M) : PassivationOutcome × LocalState M :=
  match s.actors[entityId]? with
  | none => (.absent, s)
  | some (.stopping _ _ _ _) => (.alreadyStopping, s)
  | some (.active context actorRef _ _) =>
    if s.isTerminated actorRef then (.absent, s.removeSlot entityId)
    else
      match s.tellStopMessage actorRef stopMessage with
      | (.error (.full _), s') => (.abandoned, s')
      | (_, s') =>
        match s'.stop actorRef with
        | (.error .mailboxFull, s'') => (.abandoned, s'')
        | (_, s'') =>
          (.stopping, (s''.setSlot entityId (.stopping context actorRef [] false)).spawnStopWatcher
            env entityId actorRef)

def passivateEntityWith (stopMessage : Option M) : Bool × LocalState M :=
  match s.passivateSlot env entityId stopMessage with
  | (.stopping, s') | (.alreadyStopping, s') => (true, s')
  | (.absent, s') | (.abandoned, s') => (false, s')

def passivateShardEntity : ℕ × LocalState M :=
  match s.actors[entityId]? with
  | some (.stopping context actorRef held _) =>
    (0, (s.warnDropped entityId held).setSlot entityId (.stopping context actorRef [] false))
  | _ =>
    match s.passivateSlot env entityId none with
    | (.stopping, s') => (1, s')
    | (.abandoned, s') =>
      match s'.actors[entityId]? with
      | some (.active _ actorRef _ _) => (0, s'.spawnOwedStop env entityId actorRef)
      | _ => (0, s')
    | (_, s') => (0, s')

def passivateEach (env : CallEnv) : List EntityId → LocalState M → ℕ × LocalState M
  | [], s => (0, s)
  | entityId :: entityIds, s =>
    let (passivated, s') := s.passivateShardEntity env entityId
    let (rest, s'') := passivateEach env entityIds s'
    (passivated + rest, s'')

def passivateShard : ℕ × LocalState M :=
  let entityIds := (s.actors.toList.filter (fun p => p.2.context.shardId = shardId)).map Prod.fst
  passivateEach env entityIds s

def setShardState (state : ShardHandoffState) : LocalState M :=
  { s with shardStates := s.shardStates.insert shardId state }

def markShardDraining : ℕ × LocalState M :=
  (0, s.setShardState shardId .draining)

def markShardTransferring : ℕ × LocalState M :=
  (s.setShardState shardId .transferring).passivateShard env shardId

def markShardAcquired : ℕ × LocalState M :=
  (0, s.setShardState shardId .acquired)

def markShardOwning : ℕ × LocalState M :=
  (0, s.setShardState shardId .owning)

/-- What a watcher does once its incarnation has terminated. -/
def onIncarnationStopped : LocalState M :=
  match s.actors[entityId]? with
  | some (.stopping context actorRef held reactivate) =>
    if actorRef = uid then
      if held.isEmpty && !reactivate then s.removeSlot entityId
      else ((s.removeSlot entityId).activateSlot route env context held).2
    else s
  | _ => s

def activateExistingOrSpawn (entityType : EntityType) (entityId : EntityId) (shardId : ShardId) :
    Except ShardingError Bool × LocalState M :=
  let context : LocalEntityContext := ⟨route.localNodeId, entityType, entityId, shardId⟩
  let replay := fun held (s : LocalState M) =>
    match (s.removeSlot entityId).activateSlot route env context held with
    | (.ok _, s') => (.ok true, s')
    | (.error failure, s') =>
      (.error (.rememberedEntityReplay entityType entityId shardId (toString failure)), s')
  match s.ensureShardAcceptsDelivery shardId with
  | .error failure =>
    (.error (.rememberedEntityReplay entityType entityId shardId (toString failure)), s)
  | .ok () =>
    match s.actors[entityId]? with
    | some (.active _ actorRef _ _) =>
      if s.isTerminated actorRef then replay [] s else (.ok true, s)
    | some (.stopping slotContext actorRef held _) =>
      if s.isTerminated actorRef then replay held s
      else (.ok true, s.setSlot entityId (.stopping slotContext actorRef held true))
    | none => replay [] s

def reapTerminatedEntities : LocalState M :=
  { s with actors := s.actors.filter (fun _ slot => match slot with
    | .active _ actorRef _ _ => !s.isTerminated actorRef
    | .stopping _ _ _ _ => true) }

def removeIfTerminatedActive : LocalState M :=
  match s.actors[entityId]? with
  | some (.active _ actorRef _ _) => if s.isTerminated actorRef then s.removeSlot entityId else s
  | _ => s

/-- One awakening of the idle timer of an incarnation: it stays, with a new deadline, or ends. -/
def runIdleTimer (timer : IdleTimer) : LocalState M :=
  match route.idlePassivationTimeout with
  | none => s
  | some timeout =>
    match s.actors[timer.entityId]? with
    | some (.active context actorRef idleDeadline _) =>
      if actorRef = timer.uid then
        match idleDeadline with
        | none => s.setSlot timer.entityId (.active context actorRef none false)
        | some due =>
          if s.now < due then
            { s with idleTimers := s.idleTimers ++ [{ timer with deadline := due }] }
          else
            match s.passivateSlot env timer.entityId none with
            | (.abandoned, s') =>
              let pushed := s.now + timeout
              match s'.actors[timer.entityId]? with
              | some (.active context actorRef _ timerArmed) =>
                { s'.setSlot timer.entityId (.active context actorRef (some pushed) timerArmed) with
                  idleTimers := s'.idleTimers ++ [{ timer with deadline := pushed }] }
              | _ => { s' with idleTimers := s'.idleTimers ++ [{ timer with deadline := pushed }] }
            | (_, s') => s'
      else s
    | _ => s

/-- One attempt of a stop that a shard transfer still owes. -/
def retryOwedStop : LocalState M :=
  match s.actors[entityId]? with
  | some (.active _ actorRef _ _) =>
    if actorRef = uid then
      match s.passivateSlot env entityId none with
      | (.abandoned, s') => { s' with owedStops := s'.owedStops ++ [(entityId, uid)] }
      | (_, s') => s'
    else s
  | _ => s

def recordTurn :
    Turn (Parcel M) → LocalState M
  | .handled parcel =>
    { s with handled := s.handled ++ parcel.ticket.toList.map (⟨entityId, ·, uid⟩) }
  | .closed deadLetters => s.warnDropped entityId deadLetters
  | .left | .terminated => s

def actorTurn (action : ActorAction) : Option (LocalState M) := do
  let incarnation ← s.cells[uid]?
  let (turn, cell) ← incarnation.cell.turn action
  return (s.setCell uid { incarnation with cell := cell }).recordTurn incarnation.context.entityId
    uid turn

def actorLeaves : Option (LocalState M) := do
  let incarnation ← s.cells[uid]?
  let cell ← incarnation.cell.leave
  return s.setCell uid { incarnation with cell := cell }

end

end LocalState

inductive LocalOp (M : Type) where
  | deliver (env : CallEnv) (message : RoutedEntityMessage M)
  | passivateEntityWith (env : CallEnv) (entityId : EntityId) (stopMessage : Option M)
  | activateEntity (env : CallEnv) (entityType : EntityType) (entityId : EntityId)
      (shardId : ShardId)
  | setShardState (shardId : ShardId) (state : ShardHandoffState)
  | passivateShard (env : CallEnv) (shardId : ShardId)
  | reapTerminatedEntities
  | entityActor (entityId : EntityId)
  | watcher (env : CallEnv) (entityId : EntityId) (uid : ActorUid)
  | idleTimer (env : CallEnv) (timer : IdleTimer)
  | owedStop (env : CallEnv) (entityId : EntityId) (uid : ActorUid)
  | actorTurn (uid : ActorUid) (action : ActorAction)
  | actorLeaves (uid : ActorUid)
  | advance (elapsed : Duration)

namespace LocalState
variable {M : Type} (route : LocalEntityRoute)

def step (s : LocalState M) : LocalOp M → Option (LocalState M)
  | .deliver env message => some (s.deliver route env message).2
  | .passivateEntityWith env entityId stopMessage =>
    some (s.passivateEntityWith env entityId stopMessage).2
  | .activateEntity env entityType entityId shardId =>
    some (s.activateExistingOrSpawn route env entityType entityId shardId).2
  | .setShardState shardId state => some (s.setShardState shardId state)
  | .passivateShard env shardId => some (s.passivateShard env shardId).2
  | .reapTerminatedEntities => some s.reapTerminatedEntities
  | .entityActor entityId => some (s.removeIfTerminatedActive entityId)
  | .watcher env entityId uid =>
    if (entityId, uid) ∈ s.watchers ∧ s.isTerminated uid then
      some (({ s with watchers := s.watchers.erase (entityId, uid) } :
        LocalState M).onIncarnationStopped route env entityId uid)
    else none
  | .idleTimer env timer =>
    if timer ∈ s.idleTimers ∧ timer.deadline ≤ s.now then
      some (({ s with idleTimers := s.idleTimers.erase timer } : LocalState M).runIdleTimer route env
        timer)
    else none
  | .owedStop env entityId uid =>
    if (entityId, uid) ∈ s.owedStops then
      some (({ s with owedStops := s.owedStops.erase (entityId, uid) } :
        LocalState M).retryOwedStop env entityId uid)
    else none
  | .actorTurn uid action => s.actorTurn uid action
  | .actorLeaves uid => s.actorLeaves uid
  | .advance elapsed => some { s with now := s.now + elapsed }

end LocalState
end Rakka.Sharding
