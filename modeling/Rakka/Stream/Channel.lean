import Mathlib

/-! The bounded stream. Calls of `send`, `next`, `try_send`, `drain`, `close` and `cancel` on any
clones of the two ends interleave in atomic steps: a section under the lock, one notification,
or one poll of a call that waits. -/

namespace Rakka.Stream
variable {T : Type}

inductive Lifecycle where
  | opened
  | draining
  | completed
  | closed
  | cancelled (reason : Option String)
  deriving DecidableEq, Repr

inductive StreamError where
  | full (capacity : ℕ)
  | draining
  | closed
  | cancelled (reason : Option String)
  deriving DecidableEq, Repr

structure State (T : Type) where
  capacity : ℕ
  lifecycle : Lifecycle
  queue : List T
  droppedItems : ℕ
  deriving DecidableEq, Repr

inductive NextItem (T : Type) where
  | item (item : T) (completedDrain : Bool)
  | pending
  | completed
  | closed
  | cancelled (reason : Option String)
  deriving DecidableEq, Repr

namespace State
variable (state : State T)

def new (capacity : ℕ) : State T := ⟨capacity, .opened, [], 0⟩

def sendError : Option StreamError :=
  match state.lifecycle with
  | .opened => none
  | .draining => some .draining
  | .completed | .closed => some .closed
  | .cancelled reason => some (.cancelled reason)

def tryPush (item : T) : Except StreamError (State T) :=
  match state.sendError with
  | some error => .error error
  | none =>
    if state.capacity ≤ state.queue.length then .error (.full state.capacity)
    else .ok { state with queue := state.queue ++ [item] }

def popNext : NextItem T × State T :=
  match state.queue with
  | item :: rest =>
    if rest = [] ∧ state.lifecycle = .draining then
      (.item item true, { state with queue := rest, lifecycle := .completed })
    else (.item item false, { state with queue := rest })
  | [] =>
    match state.lifecycle with
    | .opened => (.pending, state)
    | .draining => (.completed, { state with lifecycle := .completed })
    | .completed => (.completed, state)
    | .closed => (.closed, state)
    | .cancelled reason => (.cancelled reason, state)

def startDrain : Except StreamError (State T) :=
  match state.lifecycle with
  | .opened =>
    .ok { state with lifecycle := if state.queue = [] then .completed else .draining }
  | .draining | .completed => .ok state
  | .closed => .error .closed
  | .cancelled reason => .error (.cancelled reason)

def dropBufferedItems : State T :=
  { state with queue := [], droppedItems := state.droppedItems + state.queue.length }

def close : State T := { state.dropBufferedItems with lifecycle := .closed }

def cancel (reason : Option String) : State T :=
  { state.dropBufferedItems with lifecycle := .cancelled reason }

end State

/-- Where a call that may wait is: without its notification future; with the future and before a
look at the state; after a look in vain; or suspended. A notification of all waiters flags the
futures created before it. -/
inductive WaitPhase where
  | start
  | created (flagged : Bool)
  | refused (flagged : Bool)
  | suspended
  deriving DecidableEq, Repr

inductive Shutdown where
  | drain
  | close
  | cancel (reason : String)
  deriving DecidableEq, Repr

/-- Where a call is. After its section under the lock it may owe notifications: to one reader, one
writer (and everybody, if it took the last item of a drain), or everybody. -/
inductive Call (T : Type) where
  | next (phase : WaitPhase)
  | send (item : T) (phase : WaitPhase)
  | trySend (item : T)
  | shutdown (kind : Shutdown)
  | notifyReadable
  | notifyWritable (completedDrain : Bool)
  | notifyAllReadable
  | notifyAllWritable
  | done
  deriving DecidableEq, Repr

/-- The channel, the permits its two notifiers store, and the calls made so far. -/
structure Channel (T : Type) where
  state : State T
  readable : Bool
  writable : Bool
  calls : List (Call T)
  deriving DecidableEq, Repr

inductive Request (T : Type) where
  | next
  | send (item : T)
  | trySend (item : T)
  | shutdown (kind : Shutdown)
  deriving DecidableEq, Repr

inductive Action (T : Type) where
  | call (request : Request T)
  | advance (call : ℕ) (waiter : ℕ)
  deriving DecidableEq, Repr

inductive Side where
  | readers
  | writers
  deriving DecidableEq, Repr

namespace Call

def waits : Side → Call T → Option WaitPhase
  | .readers, .next phase => some phase
  | .writers, .send _ phase => some phase
  | _, _ => none

def isSuspended (side : Side) (call : Call T) : Bool := call.waits side = some .suspended

def resume (call : Call T) : Call T :=
  match call with
  | .next .suspended => .next .start
  | .send item .suspended => .send item .start
  | _ => call

/-- A notification of all waiters of a side reaches every future already created. -/
def wake (side : Side) (call : Call T) : Call T :=
  match side, call with
  | .readers, .next .suspended => .next .start
  | .readers, .next (.created _) => .next (.created true)
  | .readers, .next (.refused _) => .next (.refused true)
  | .writers, .send item .suspended => .send item .start
  | .writers, .send item (.created _) => .send item (.created true)
  | .writers, .send item (.refused _) => .send item (.refused true)
  | _, _ => call

end Call

def Request.call : Request T → Call T
  | .next => .next .start
  | .send item => .send item .start
  | .trySend item => .trySend item
  | .shutdown kind => .shutdown kind

namespace Channel
variable (channel : Channel T) (side : Side)

def new (capacity : ℕ) : Channel T := ⟨.new capacity, false, false, []⟩

def permit : Side → Bool
  | .readers => channel.readable
  | .writers => channel.writable

def setPermit (permit : Bool) : Channel T :=
  match side with
  | .readers => { channel with readable := permit }
  | .writers => { channel with writable := permit }

def setCall (index : ℕ) (call : Call T) : Channel T :=
  { channel with calls := channel.calls.set index call }

/-- Any one registered waiter of the side is resumed; without one the permit is stored. -/
def notifyOne (waiter : ℕ) : Option (Channel T) :=
  match channel.calls[waiter]? with
  | some call =>
    if call.isSuspended side then some (channel.setCall waiter call.resume)
    else if channel.calls.any (Call.isSuspended side) then none
    else some (channel.setPermit side true)
  | none =>
    if channel.calls.any (Call.isSuspended side) then none
    else some (channel.setPermit side true)

def notifyWaiters : Channel T :=
  { channel with calls := channel.calls.map (Call.wake side) }

/-- The first poll takes the stored permit, or is ready because all waiters were notified since, or
registers. -/
def poll (flagged : Bool) : WaitPhase × Channel T :=
  if channel.permit side then (.start, channel.setPermit side false)
  else if flagged then (.start, channel)
  else (.suspended, channel)

def advanceNext (index : ℕ) : WaitPhase → Option (Channel T)
  | .start => some (channel.setCall index (.next (.created false)))
  | .created flagged =>
    let popped := channel.state.popNext
    let channel := { channel with state := popped.2 }
    match popped.1 with
    | .item _ completedDrain => some (channel.setCall index (.notifyWritable completedDrain))
    | .pending => some (channel.setCall index (.next (.refused flagged)))
    | .completed | .closed | .cancelled _ => some (channel.setCall index .done)
  | .refused flagged =>
    let polled := channel.poll .readers flagged
    some (polled.2.setCall index (.next polled.1))
  | .suspended => none

def advanceSend (index : ℕ) (item : T) : WaitPhase → Option (Channel T)
  | .start => some (channel.setCall index (.send item (.created false)))
  | .created flagged =>
    match channel.state.tryPush item with
    | .ok state => some ({ channel with state := state }.setCall index .notifyReadable)
    | .error (.full _) => some (channel.setCall index (.send item (.refused flagged)))
    | .error _ => some (channel.setCall index .done)
  | .refused flagged =>
    let polled := channel.poll .writers flagged
    some (polled.2.setCall index (.send item polled.1))
  | .suspended => none

def advanceShutdown (index : ℕ) : Shutdown → Channel T
  | .drain =>
    match channel.state.startDrain with
    | .ok state => { channel with state := state }.setCall index .notifyAllReadable
    | .error _ => channel.setCall index .done
  | .close => { channel with state := channel.state.close }.setCall index .notifyAllReadable
  | .cancel reason =>
    { channel with state := channel.state.cancel (some reason) }.setCall index .notifyAllReadable

/-- The next atomic step of a call; `none` where it has none. -/
def advance (index waiter : ℕ) : Option (Channel T) :=
  match channel.calls[index]? with
  | none => none
  | some (.next phase) => channel.advanceNext index phase
  | some (.send item phase) => channel.advanceSend index item phase
  | some (.trySend item) =>
    match channel.state.tryPush item with
    | .ok state => some ({ channel with state := state }.setCall index .notifyReadable)
    | .error _ => some (channel.setCall index .done)
  | some (.shutdown kind) => some (channel.advanceShutdown index kind)
  | some .notifyReadable => (channel.notifyOne .readers waiter).map (·.setCall index .done)
  | some (.notifyWritable completedDrain) =>
    (channel.notifyOne .writers waiter).map
      (·.setCall index (if completedDrain then .notifyAllReadable else .done))
  | some .notifyAllReadable =>
    some ((channel.notifyWaiters .readers).setCall index .notifyAllWritable)
  | some .notifyAllWritable => some ((channel.notifyWaiters .writers).setCall index .done)
  | some .done => none

def step : Action T → Option (Channel T)
  | .call request => some { channel with calls := channel.calls ++ [request.call] }
  | .advance index waiter => channel.advance index waiter

end Channel
end Rakka.Stream
