import Mathlib

/-! Local actors. An actor has a bounded mailbox and a task that takes envelopes from it until
it leaves its loop; the task then closes the mailbox, gives up what is left in it, and
terminates. -/

namespace Rakka.Core

inductive Envelope (M : Type) where
  | user (message : M)
  | stop
  deriving DecidableEq, Repr

/-- In the loop, out of it with the mailbox still open, with the mailbox closed, or terminated. -/
inductive ActorPhase where
  | running | leaving | stopping | terminated
  deriving DecidableEq, Repr

structure ActorCell (M : Type) where
  mailboxCapacity : ℕ
  mailbox : List (Envelope M)
  phase : ActorPhase

inductive TellError (M : Type) where
  | full (message : M)
  | closed (message : M)

inductive StopError where
  | mailboxFull
  | mailboxClosed
  deriving DecidableEq, Repr

inductive ActorAction where
  | continueRunning | stop
  deriving DecidableEq, Repr

def Envelope.messages {M : Type} : List (Envelope M) → List M :=
  List.filterMap (fun e => match e with
    | .user message => some message
    | .stop => none)

inductive Turn (M : Type) where
  | handled (message : M)
  | left
  | closed (deadLetters : List M)
  | terminated

namespace ActorCell
variable {M : Type}
variable (c : ActorCell M)

def new (mailboxCapacity : ℕ) : ActorCell M := ⟨mailboxCapacity, [], .running⟩

def isTerminated : Bool := c.phase = .terminated

def isStopping : Bool := c.phase = .stopping || c.phase = .terminated

def tell (message : M) : Except (TellError M) Unit × ActorCell M :=
  if c.isTerminated || c.isStopping then (.error (.closed message), c)
  else if c.mailbox.length < c.mailboxCapacity then
    (.ok (), { c with mailbox := c.mailbox ++ [.user message] })
  else (.error (.full message), c)

def stop : Except StopError Unit × ActorCell M :=
  if c.isTerminated || c.isStopping then (.ok (), c)
  else if c.mailbox.length < c.mailboxCapacity then
    (.ok (), { c with mailbox := c.mailbox ++ [.stop] })
  else (.error .mailboxFull, c)

def push (envelope : Envelope M) : ActorCell M :=
  { c with mailbox := c.mailbox ++ [envelope] }

inductive Told (c : ActorCell M) (message : M) : Except (TellError M) Unit × ActorCell M → Prop
  | queued (hopen : c.isStopping = false) (hroom : c.mailbox.length < c.mailboxCapacity) :
      Told c message (.ok (), c.push (.user message))
  | full (hfull : c.mailboxCapacity ≤ c.mailbox.length) : Told c message (.error (.full message), c)
  | closed (hclosed : c.isStopping = true) : Told c message (.error (.closed message), c)

lemma isStopping_of_isTerminated {c : ActorCell M} (h : c.isTerminated = true) :
    c.isStopping = true := by
  rw [isStopping, of_decide_eq_true h]
  rfl

lemma isTerminated_or_isStopping : (c.isTerminated || c.isStopping) = c.isStopping := by
  cases h : c.isTerminated with
  | false => rfl
  | true => rw [isStopping_of_isTerminated h, Bool.or_true]

lemma tell_cases (message : M) : Told c message (c.tell message) := by
  rw [tell, isTerminated_or_isStopping]
  split_ifs with hclosed hroom
  · exact .closed hclosed
  · exact .queued (Bool.not_eq_true _ ▸ hclosed) hroom
  · exact .full (not_lt.mp hroom)

inductive Stopped (c : ActorCell M) : Except StopError Unit × ActorCell M → Prop
  | queued (hopen : c.isStopping = false) (hroom : c.mailbox.length < c.mailboxCapacity) :
      Stopped c (.ok (), c.push .stop)
  | full : Stopped c (.error .mailboxFull, c)
  | closed (hclosed : c.isStopping = true) : Stopped c (.ok (), c)

lemma stop_cases : Stopped c c.stop := by
  rw [stop, isTerminated_or_isStopping]
  split_ifs with hclosed hroom
  · exact .closed hclosed
  · exact .queued (Bool.not_eq_true _ ▸ hclosed) hroom
  · exact .full

/-- One turn of the task. `action` is what the handler answers, should a message be handled. -/
def turn (action : ActorAction) : Option (Turn M × ActorCell M) :=
  match c.phase with
  | .running =>
    match c.mailbox with
    | [] => none
    | .stop :: rest => some (.left, { c with mailbox := rest, phase := .leaving })
    | .user message :: rest =>
      match action with
      | .continueRunning => some (.handled message, { c with mailbox := rest })
      | .stop => some (.handled message, { c with mailbox := rest, phase := .leaving })
  | .leaving =>
    some (.closed (Envelope.messages c.mailbox), { c with mailbox := [], phase := .stopping })
  | .stopping => some (.terminated, { c with phase := .terminated })
  | .terminated => none

inductive Turned (c : ActorCell M) (action : ActorAction) : Turn M × ActorCell M → Prop
  | handled {message : M} {rest : List (Envelope M)} (hphase : c.phase = .running)
      (hmailbox : c.mailbox = .user message :: rest) :
      Turned c action (.handled message, { c with
        mailbox := rest
        phase := if action = .stop then .leaving else .running })
  | left {rest : List (Envelope M)} (hphase : c.phase = .running)
      (hmailbox : c.mailbox = .stop :: rest) :
      Turned c action (.left, { c with mailbox := rest, phase := .leaving })
  | closed (hphase : c.phase = .leaving) : Turned c action
      (.closed (Envelope.messages c.mailbox), { c with mailbox := [], phase := .stopping })
  | terminated (hphase : c.phase = .stopping) :
      Turned c action (.terminated, { c with phase := .terminated })

lemma turn_cases {c : ActorCell M} {action : ActorAction} {out : Turn M × ActorCell M}
    (h : c.turn action = some out) : Turned c action out := by
  obtain ⟨capacity, mailbox, phase⟩ := c
  cases phase with
  | running =>
    cases mailbox with
    | nil => cases h
    | cons envelope rest =>
      cases envelope with
      | stop =>
        cases h
        exact .left rfl rfl
      | user message => cases action <;> cases h <;> exact .handled rfl rfl
  | leaving =>
    cases h
    exact .closed rfl
  | stopping =>
    cases h
    exact .terminated rfl
  | terminated => cases h

def leave : Option (ActorCell M) :=
  match c.phase with
  | .running => some { c with phase := .leaving }
  | _ => none

end ActorCell
end Rakka.Core
