import Rakka.Core.Actor
import Rakka.Foundation.Attempt
import Rakka.Foundation.Runs
import Rakka.Persistence.Store

/-! The event-sourced actor runtime over the in-memory stores, and the task that supervises it.
Every call of a store, of the signal handler and of a side effect may fail before or after it took
effect, panic, or be where the process crashes. What goes wrong is a list that is consumed call by
call. A crash leaves the stores as they are. -/

namespace Rakka.Persistence
open Foundation Rakka.Core

inductive Fault where
  | none
  | fails (error : DurableError)
  | failsAfter (error : DurableError)
  | panics
  | crashes
  deriving DecidableEq, Repr

inductive ActorFailure where
  | error (error : DurableError)
  | panic
  deriving DecidableEq, Repr

inductive Interrupt where
  | failure (failure : ActorFailure)
  | crash
  deriving DecidableEq, Repr

inductive PersistenceSignal where
  | recoveryStarted (persistenceId : PersistenceId)
  | recoveryCompleted (persistenceId : PersistenceId) (sequenceNr : ℕ)
  | eventsPersisted (persistenceId : PersistenceId) (start upTo : ℕ)
  | persistFailed (persistenceId : PersistenceId) (attempt : ℕ) (errorCode message : String)
  | snapshotSaved (persistenceId : PersistenceId) (sequenceNr : ℕ)
  | snapshotFailed (persistenceId : PersistenceId) (attempt : ℕ) (errorCode message : String)
  | preRestart (persistenceId : PersistenceId)
  | postStop (persistenceId : PersistenceId)
  deriving DecidableEq, Repr

structure EventSourcedEffect (E : Type) where
  events : List (TaggedEvent E)
  snapshot : Bool
  stop : Bool
  sideEffects : ℕ
  deriving DecidableEq, Repr

namespace EventSourcedEffect
variable {E : Type}

def none : EventSourcedEffect E := ⟨[], false, false, 0⟩

def persist (event : E) : EventSourcedEffect E := { (none : EventSourcedEffect E) with events := [.new event] }

def thenSnapshot (effect : EventSourcedEffect E) : EventSourcedEffect E :=
  { effect with snapshot := true }

end EventSourcedEffect

structure EventSourcedActor (S E : Type) where
  persistenceId : PersistenceId
  emptyState : S
  applyEvent : S → E → S
  retentionCriteria : RetentionCriteria
  persistFailureBackoff : PersistFailureBackoff

structure RecoveredState (S : Type) where
  state : S
  sequenceNr : ℕ
  deriving DecidableEq, Repr

/-- The runtime, with the clock, the faults ahead, the signals sent and the events the journal has
ever taken. -/
structure EventSourcedActorRuntime (S E : Type) where
  journal : InMemoryEventJournal E
  snapshots : InMemorySnapshotStore S
  recovered : Option (RecoveredState S)
  now : UInt64
  faults : List Fault
  signals : List PersistenceSignal
  appended : List E

abbrev RuntimeCall (S E α : Type) := Attempt Interrupt (EventSourcedActorRuntime S E) α

abbrev CommandHandler (S E : Type) := S → ℕ → Except ActorFailure (EventSourcedEffect E)

def replayFromAfterSnapshot (snapshotSequenceNr : ℕ) (options : RecoveryOptions) : ℕ :=
  let afterSnapshot := snapshotSequenceNr + 1
  if options.replayFrom < afterSnapshot then afterSnapshot else options.replayFrom

namespace EventSourcedActorRuntime
variable {S E α : Type}

def new (journal : InMemoryEventJournal E) (snapshots : InMemorySnapshotStore S) :
    EventSourcedActorRuntime S E :=
  ⟨journal, snapshots, none, 0, [], [], []⟩

def nextFault (r : EventSourcedActorRuntime S E) : Fault × EventSourcedActorRuntime S E :=
  match r.faults with
  | [] => (.none, r)
  | fault :: faults => (fault, { r with faults })

/-- A call of a store, of which `call` is the effect. -/
def storeCall
    (call : EventSourcedActorRuntime S E → Except DurableError α × EventSourcedActorRuntime S E) :
    RuntimeCall S E (Except DurableError α) := fun r =>
  let (fault, r) := r.nextFault
  match fault with
  | .none => (.ok (call r).1, (call r).2)
  | .fails error => (.ok (.error error), r)
  | .failsAfter error => (.ok (.error error), (call r).2)
  | .panics => (.error (.failure .panic), r)
  | .crashes => (.error .crash, r)

def orFail : Except DurableError α → RuntimeCall S E α
  | .ok a => pure a
  | .error error => Attempt.fail (.failure (.error error))

def onSignal (signal : PersistenceSignal) : RuntimeCall S E Unit := fun r =>
  let (fault, r) := r.nextFault
  let r := { r with signals := r.signals ++ [signal] }
  match fault with
  | .none => (.ok (), r)
  | .fails error | .failsAfter error => (.error (.failure (.error error)), r)
  | .panics => (.error (.failure .panic), r)
  | .crashes => (.error .crash, r)

def sideEffect : RuntimeCall S E Unit := fun r =>
  let (fault, r) := r.nextFault
  match fault with
  | .panics => (.error (.failure .panic), r)
  | .crashes => (.error .crash, r)
  | _ => (.ok (), r)

def runSideEffects : ℕ → RuntimeCall S E Unit
  | 0 => pure ()
  | n + 1 => do
    sideEffect
    runSideEffects n

section
variable (actor : EventSourcedActor S E)
variable (options : RecoveryOptions)

def append (expectedSequenceNr : ℕ) (events : List (TaggedEvent E)) :
    RuntimeCall S E (Except DurableError (List (EventRecord E))) :=
  storeCall (fun r =>
    match r.journal.append actor.persistenceId expectedSequenceNr events r.now with
    | (.ok records, journal) =>
      (.ok records, { r with journal, appended := r.appended ++ events.map TaggedEvent.event })
    | (.error error, journal) => (.error error, { r with journal }))

def replay (start upTo : ℕ) : RuntimeCall S E (Except DurableError (List (EventRecord E))) :=
  storeCall (fun r => (.ok (r.journal.replay actor.persistenceId start upTo), r))

def deleteTo (upTo : ℕ) : RuntimeCall S E (Except DurableError Unit) :=
  storeCall (fun r => (.ok (), { r with journal := r.journal.deleteTo actor.persistenceId upTo }))

def save (sequenceNr : ℕ) (state : S) : RuntimeCall S E (Except DurableError (SnapshotRecord S)) :=
  storeCall (fun r =>
    let (record, snapshots) := r.snapshots.save actor.persistenceId sequenceNr state r.now
    (.ok record, { r with snapshots }))

def load (selection : SnapshotSelection) :
    RuntimeCall S E (Except DurableError (Option (SnapshotRecord S))) :=
  storeCall (fun r => (.ok (r.snapshots.load actor.persistenceId selection), r))

def list (selection : SnapshotSelection) :
    RuntimeCall S E (Except DurableError (List SnapshotMetadata)) :=
  storeCall (fun r => (.ok (r.snapshots.list actor.persistenceId selection), r))

def delete (selection : SnapshotSelection) : RuntimeCall S E (Except DurableError ℕ) :=
  storeCall (fun r =>
    let (removed, snapshots) := r.snapshots.delete actor.persistenceId selection
    (.ok removed, { r with snapshots }))

def applyRecords (records : List (EventRecord E)) (state : S) (sequenceNr : ℕ) : S × ℕ :=
  records.foldl
    (fun acc record => (actor.applyEvent acc.1 record.event, record.metadata.sequenceNr))
    (state, sequenceNr)

def basis (snapshot : Option (SnapshotRecord S)) : S × ℕ :=
  match snapshot with
  | some snapshot => (snapshot.snapshot, snapshot.metadata.sequenceNr)
  | none => (actor.emptyState, SequenceNr.initial)

def replayAfter (base : S × ℕ) : RuntimeCall S E (S × ℕ) :=
  let replayFrom := replayFromAfterSnapshot base.2 options
  if replayFrom ≤ options.replayTo then do
    let replayed ← replay actor replayFrom options.replayTo >>= orFail
    pure (applyRecords actor replayed base.1 base.2)
  else pure base

def recover : RuntimeCall S E Unit := do
  onSignal (.recoveryStarted actor.persistenceId)
  let snapshot ← load actor options.snapshotSelection >>= orFail
  let reached ← replayAfter actor options (basis actor snapshot)
  Attempt.modify (fun r => { r with recovered := some ⟨reached.1, reached.2⟩ })
  onSignal (.recoveryCompleted actor.persistenceId reached.2)

/-- A write that is tried again after a failure, as often as `retries` says. -/
def withBackoff (write : RuntimeCall S E (Except DurableError α))
    (failed : (attempt : ℕ) → (errorCode message : String) → PersistenceSignal) :
    (retries attempt : ℕ) → RuntimeCall S E α
  | retries, attempt => do
    match ← write with
    | .ok a => pure a
    | .error error => do
      onSignal (failed attempt error.code error.message)
      match retries with
      | 0 => Attempt.fail (.failure (.error error))
      | retries + 1 => withBackoff write failed retries (attempt + 1)

def appendWithBackoff (expectedSequenceNr : ℕ) (events : List (TaggedEvent E)) :
    RuntimeCall S E (List (EventRecord E)) :=
  withBackoff (append actor expectedSequenceNr events) (.persistFailed actor.persistenceId)
    actor.persistFailureBackoff.maxRetries 0

def saveSnapshotWithBackoff (sequenceNr : ℕ) (state : S) : RuntimeCall S E Unit := do
  let _record ← withBackoff (save actor sequenceNr state) (.snapshotFailed actor.persistenceId)
    actor.persistFailureBackoff.maxRetries 0
  onSignal (.snapshotSaved actor.persistenceId sequenceNr)

def deleteSnapshots : List SnapshotMetadata → RuntimeCall S E Unit
  | [] => pure ()
  | metadata :: rest => do
    let _removed ←
      delete actor (.between metadata.sequenceNr metadata.sequenceNr) >>= orFail
    deleteSnapshots rest

def pruneSnapshots (keep : ℕ) : RuntimeCall S E Unit :=
  if keep ≠ RetentionCriteria.keepAll then do
    let snapshots ← list actor .latest >>= orFail
    deleteSnapshots actor (snapshots.drop keep)
  else pure ()

/-- The sequence number up to which the snapshots cover the events. -/
def deletionBound (keep latestSnapshotSequenceNr : ℕ) : RuntimeCall S E ℕ :=
  if keep = 0 then pure latestSnapshotSequenceNr
  else do
    let retained ← list actor .latest >>= orFail
    pure (match retained.getLast? with
      | some metadata => metadata.sequenceNr
      | none => latestSnapshotSequenceNr)

def applyRetention (latestSnapshotSequenceNr : ℕ) : RuntimeCall S E Unit := do
  let keep := actor.retentionCriteria.keepSnapshots
  pruneSnapshots actor keep
  if actor.retentionCriteria.deleteEventsOnSnapshot then do
    let upTo ← deletionBound actor keep latestSnapshotSequenceNr
    deleteTo actor upTo >>= orFail
  else pure ()

/-- Appends the events of an effect, if there are any, and applies the records written. -/
def persistEvents (events : List (TaggedEvent E)) (state : S) (sequenceNr : ℕ) :
    RuntimeCall S E (S × ℕ) :=
  if events.isEmpty then pure (state, sequenceNr)
  else do
    let persisted ← appendWithBackoff actor sequenceNr events
    let firstSequenceNr := match persisted.head? with
      | some record => record.metadata.sequenceNr
      | none => sequenceNr + 1
    let reached := applyRecords actor persisted state sequenceNr
    onSignal (.eventsPersisted actor.persistenceId firstSequenceNr reached.2)
    pure reached

/-- Saves a snapshot where the effect or the retention asks for one. -/
def snapshotIfDue (effect : EventSourcedEffect E) (state : S) (sequenceNr : ℕ) :
    RuntimeCall S E Unit :=
  if effect.snapshot ||
      (!effect.events.isEmpty && actor.retentionCriteria.shouldSnapshot sequenceNr) then do
    saveSnapshotWithBackoff actor sequenceNr state
    applyRetention actor sequenceNr
  else pure ()

def applyEffect (effect : EventSourcedEffect E) : RuntimeCall S E ActorAction := do
  let r ← Attempt.get
  match r.recovered with
  | none => Attempt.fail (.failure (.error (.notRecovered actor.persistenceId)))
  | some recovered => do
    let reached ← persistEvents actor effect.events recovered.state recovered.sequenceNr
    snapshotIfDue actor effect reached.1 reached.2
    Attempt.modify (fun r => { r with recovered := some ⟨reached.1, reached.2⟩ })
    runSideEffects effect.sideEffects
    pure (if effect.stop then .stop else .continueRunning)

def started : RuntimeCall S E ActorAction := do
  recover actor options
  pure .continueRunning

def restarted : RuntimeCall S E ActorAction := do
  onSignal (.preRestart actor.persistenceId)
  recover actor options
  pure .continueRunning

def handle (handleCommand : CommandHandler S E) : RuntimeCall S E ActorAction := do
  let r ← Attempt.get
  match r.recovered with
  | none => Attempt.fail (.failure (.error (.notRecovered actor.persistenceId)))
  | some recovered =>
    match handleCommand recovered.state recovered.sequenceNr with
    | .error failure => Attempt.fail (.failure failure)
    | .ok effect => applyEffect actor effect

def stopped : RuntimeCall S E Unit := onSignal (.postStop actor.persistenceId)

end
end EventSourcedActorRuntime

inductive SupervisionStrategy where
  | resume
  | restart
  | stop
  | escalate
  | restartWithBackoff (maxRestarts : ℕ)
  deriving DecidableEq, Repr

/-- How an actor is spawned. A single-use factory cannot make a second instance. -/
structure EventSourcedSpawn (S E : Type) where
  actor : EventSourcedActor S E
  recoveryOptions : RecoveryOptions
  supervision : SupervisionStrategy
  restartable : Bool

/-- Down before the actor is spawned and after a crash. -/
inductive TaskPhase where
  | down | running | terminated
  deriving DecidableEq, Repr

structure EventSourcedTask (S E : Type) where
  runtime : EventSourcedActorRuntime S E
  phase : TaskPhase
  restartCount : ℕ

inductive EventSourcedOp (S E : Type) where
  | spawn (now : UInt64) (faults : List Fault)
  | handle (handleCommand : CommandHandler S E) (now : UInt64) (faults : List Fault)
  | stop (now : UInt64) (faults : List Fault)
  | crash

namespace EventSourcedTask
variable {S E : Type}

def init (journal : InMemoryEventJournal E) (snapshots : InMemorySnapshotStore S) :
    EventSourcedTask S E :=
  ⟨.new journal snapshots, .down, 0⟩

def crashed (task : EventSourcedTask S E) : EventSourcedTask S E :=
  { task with runtime := { task.runtime with recovered := none }, phase := .down }

section
variable (spawn : EventSourcedSpawn S E)
variable (task : EventSourcedTask S E)

def terminate : EventSourcedTask S E :=
  match EventSourcedActorRuntime.stopped spawn.actor task.runtime with
  | (.error .crash, runtime) => crashed { task with runtime }
  | (_, runtime) => { task with runtime, phase := .terminated }

def afterLifecycle (out : Except Interrupt ActorAction × EventSourcedActorRuntime S E) :
    EventSourcedTask S E :=
  let task := { task with runtime := out.2 }
  match out.1 with
  | .ok .continueRunning => { task with phase := .running }
  | .ok .stop | .error (.failure _) => terminate spawn task
  | .error .crash => task.crashed

/-- A new instance takes over. A single-use factory panics, and with it the task. -/
def restart : EventSourcedTask S E :=
  if spawn.restartable then
    afterLifecycle spawn task
      (EventSourcedActorRuntime.restarted spawn.actor spawn.recoveryOptions
        { task.runtime with recovered := none })
  else { task with phase := .terminated }

def superviseFailure : EventSourcedTask S E :=
  match spawn.supervision with
  | .resume => task
  | .restart => restart spawn task
  | .stop | .escalate => terminate spawn task
  | .restartWithBackoff maxRestarts =>
    if maxRestarts ≤ task.restartCount then terminate spawn task
    else restart spawn { task with restartCount := task.restartCount + 1 }

def afterHandle (out : Except Interrupt ActorAction × EventSourcedActorRuntime S E) :
    EventSourcedTask S E :=
  let task := { task with runtime := out.2 }
  match out.1 with
  | .ok .continueRunning => task
  | .ok .stop => terminate spawn task
  | .error (.failure _) => superviseFailure spawn task
  | .error .crash => task.crashed

def facing (now : UInt64) (faults : List Fault) : EventSourcedTask S E :=
  { task with runtime := { task.runtime with now, faults } }

def step : EventSourcedOp S E → Option (EventSourcedTask S E)
  | .spawn now faults =>
    if task.phase = .running then none
    else
      let task := { task.facing now faults with restartCount := 0 }
      some (afterLifecycle spawn task (EventSourcedActorRuntime.started spawn.actor
        spawn.recoveryOptions { task.runtime with recovered := none }))
  | .handle handleCommand now faults =>
    if task.phase = .running then
      let task := task.facing now faults
      some (afterHandle spawn task
        (EventSourcedActorRuntime.handle spawn.actor handleCommand task.runtime))
    else none
  | .stop now faults =>
    if task.phase = .running then some (terminate spawn (task.facing now faults)) else none
  | .crash => some task.crashed

end
end EventSourcedTask
end Rakka.Persistence
