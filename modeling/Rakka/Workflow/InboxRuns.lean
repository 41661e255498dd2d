import Rakka.Workflow.Inbox

/-! Runs of any number of inbox instances over one store. A step is one call; `dispatch_due_outbox`
is cut at its writes and at the dispatcher's answers, so that other instances may come between, and
an instance may crash at any point. -/

namespace Rakka.Workflow
open Foundation Rakka.Persistence DurableInbox

/-- The transitions of an outbox entry, named after the status they lead to. -/
inductive OutboxTransition where
  | dispatching
  | dispatched
  | cancelled (message : String)
  | failed (message : String) (timedOut : Bool)
  | exhausted (message : String)
  deriving DecidableEq, Repr

namespace OutboxTransition

def apply (now : ℕ) (entry : OutboxEntry) : OutboxTransition → OutboxEntry
  | dispatching => entry.setStatus .dispatching now
  | dispatched => entry.markDispatched now
  | cancelled _ => entry.markCancelled now
  | failed message _ => (entry.recordFailure now message).1
  | exhausted message => entry.recordDefinitiveFailure now message

def call (workflowId : WorkflowId) (messageId : OutboxMessageId) (now : ℕ) :
    OutboxTransition → InboxCall Unit
  | dispatching => do
    let _ ← markOutboxDispatching workflowId messageId now
  | dispatched => do
    let _ ← recordOutboxSuccess workflowId messageId now
  | cancelled message => do
    let _ ← recordOutboxCancelled workflowId messageId message now
  | failed message timedOut => do
    let _ ← recordOutboxFailure workflowId messageId message timedOut now
  | exhausted message => do
    let _ ← recordOutboxExhausted workflowId messageId message now

end OutboxTransition

def OutboxDispatchResult.transition : OutboxDispatchResult → OutboxTransition
  | success => .dispatched
  | failure message => .failed message false
  | timeout message => .failed message true

structure DispatchLoop where
  due : List OutboxMessageId
  dispatching : Option OutboxMessageId
  deriving DecidableEq, Repr

def DispatchLoop.over : List OutboxMessageId → Option DispatchLoop
  | [] => none
  | id :: due => some ⟨id :: due, none⟩

inductive InboxOp (κ : Type) where
  | recover (client : κ) (now : ℕ)
  | crash (client : κ)
  | accept (client : κ) (command : InboxCommand) (now : ℕ)
  | transitionInbox (client : κ) (messageId : WorkflowMessageId) (status : InboxStatus) (now : ℕ)
  | scheduleOutbox (client : κ) (command : OutboxCommand) (now : ℕ)
  | transitionOutbox (client : κ) (messageId : OutboxMessageId) (transition : OutboxTransition)
      (now : ℕ)
  | dispatchDueOutbox (client : κ) (now : ℕ)
  | dispatchNext (client : κ) (now : ℕ)
  | dispatchAnswered (client : κ) (result : OutboxDispatchResult) (now : ℕ)
  | compact (client : κ) (policy : WorkflowStateCompactionPolicy) (now : ℕ)
  deriving DecidableEq, Repr

/-- The store with its instances, the dispatch loops they are in, and the commands answered so far.
-/
structure InboxWorld (κ : Type) where
  shared : Replicated κ WorkflowState
  loops : κ → Option DispatchLoop
  accepts : List (InboxCommand × InboxAcceptance)
  schedules : List (OutboxCommand × OutboxAcceptance)

namespace InboxWorld
variable {κ : Type} [DecidableEq κ]

def init (store : InMemoryDurableStateStore WorkflowState) : InboxWorld κ :=
  ⟨⟨store, fun _ => .new⟩, fun _ => none, [], []⟩

def call {α : Type} (w : InboxWorld κ) (client : κ) (f : InboxCall α)
    (note : Except WorkflowError α → InboxWorld κ → InboxWorld κ) : InboxWorld κ :=
  let out := f (w.shared.replica client, w.shared.store)
  note out.1 { w with shared := Replicated.set ⟨out.2.2, w.shared.replica⟩ client out.2.1 }

def setLoop (w : InboxWorld κ) (client : κ) (loop : Option DispatchLoop) : InboxWorld κ :=
  { w with loops := Function.update w.loops client loop }

def whenIdle (w : InboxWorld κ) (client : κ) (w' : InboxWorld κ) : InboxWorld κ :=
  if (w.loops client).isSome then w else w'

section
variable (workflowId : WorkflowId)
variable {w : InboxWorld κ} {client : κ} {α : Type} {P : InboxWorld κ → Prop}
  {note : Except WorkflowError α → InboxWorld κ → InboxWorld κ}

variable (w)

def step : InboxOp κ → InboxWorld κ
  | .recover client now =>
    w.whenIdle client (w.call client (recover workflowId now) (fun _ w => w))
  | .crash client => { w with shared := w.shared.set client .new }.setLoop client none
  | .accept client command now =>
    w.whenIdle client (w.call client (accept workflowId command now) (fun
      | .ok acceptance, w => { w with accepts := w.accepts ++ [(command, acceptance)] }
      | .error _, w => w))
  | .transitionInbox client messageId status now =>
    w.whenIdle client (w.call client
      (transitionInbox workflowId messageId status now) (fun _ w => w))
  | .scheduleOutbox client command now =>
    w.whenIdle client (w.call client (scheduleOutbox workflowId command now) (fun
      | .ok acceptance, w => { w with schedules := w.schedules ++ [(command, acceptance)] }
      | .error _, w => w))
  | .transitionOutbox client messageId transition now =>
    w.whenIdle client (w.call client (transition.call workflowId messageId now) (fun _ w => w))
  | .dispatchDueOutbox client now =>
    w.whenIdle client (w.call client (dueOutbox workflowId now) (fun
      | .ok due, w => w.setLoop client (DispatchLoop.over (due.map OutboxEntry.messageId))
      | .error _, w => w))
  | .dispatchNext client now =>
    match w.loops client with
    | some ⟨messageId :: due, none⟩ =>
      w.call client (markOutboxDispatching workflowId messageId now) (fun
        | .ok _, w => w.setLoop client (some ⟨due, some messageId⟩)
        | .error _, w => w.setLoop client none)
    | _ => w
  | .dispatchAnswered client result now =>
    match w.loops client with
    | some ⟨due, some messageId⟩ =>
      w.call client (recordDispatch workflowId messageId result now) (fun
        | .ok _, w => w.setLoop client (DispatchLoop.over due)
        | .error _, w => w.setLoop client none)
    | _ => w
  | .compact client policy now =>
    w.whenIdle client (w.call client (compact workflowId policy now) (fun _ w => w))

def run (ops : List (InboxOp κ)) : InboxWorld κ := ops.foldl (step workflowId) w

/-- The next snapshot is written with the revision of the instance's copy. -/
def written (client : κ) (record : StateRecord WorkflowState) (next : WorkflowState) :
    InboxWorld κ :=
  let record : StateRecord WorkflowState := ⟨next, record.revision + 1⟩
  { w with
    shared := Replicated.set
      ⟨⟨w.shared.store.records.insert workflowId.persistenceId record⟩, w.shared.replica⟩ client
      { w.shared.replica client with record := some record } }

variable {w}

/-- The instance holds this copy, and it carries the stored revision. -/
structure Current (w : InboxWorld κ) (client : κ) (record : StateRecord WorkflowState) : Prop where
  copy : (w.shared.replica client).record = some record
  expected : w.shared.store.revisionOf workflowId.persistenceId = record.revision

/-- Which transition of which entry a step makes, and the dispatch loop it leaves. -/
inductive Cause (w : InboxWorld κ) (client : κ) (messageId : OutboxMessageId) :
    OutboxTransition → InboxOp κ → Option DispatchLoop → Prop
  | called (transition : OutboxTransition) (now : ℕ) (hidle : w.loops client = none) :
      Cause w client messageId transition (.transitionOutbox client messageId transition now) none
  | marked (due : List OutboxMessageId) (now : ℕ)
      (hloop : w.loops client = some ⟨messageId :: due, none⟩) :
      Cause w client messageId .dispatching (.dispatchNext client now)
        (some ⟨due, some messageId⟩)
  | answered (due : List OutboxMessageId) (result : OutboxDispatchResult) (now : ℕ)
      (hloop : w.loops client = some ⟨due, some messageId⟩) :
      Cause w client messageId result.transition (.dispatchAnswered client result now) (DispatchLoop.over due)

inductive Stepped (w : InboxWorld κ) : InboxOp κ → InboxWorld κ → Prop
  | skipped (op : InboxOp κ) : Stepped w op w
  | recovered (client : κ) (now : ℕ) (hidle : w.loops client = none) :
      Stepped w (.recover client now) { w with
        shared := w.shared.set client (Replica.recover workflowId.persistenceId
          (.empty workflowId now) w.shared.store) }
  | crashed (client : κ) :
      Stepped w (.crash client) ({ w with shared := w.shared.set client .new }.setLoop client none)
  | refused (op : InboxOp κ) (client : κ) (replica : Replica WorkflowState)
      (hrecord : replica.record = (w.shared.replica client).record) :
      Stepped w op ({ w with shared := w.shared.set client replica }.setLoop client none)
  | acceptDuplicate (client : κ) (command : InboxCommand) (now : ℕ)
      (record : StateRecord WorkflowState) (entry : InboxEntry)
      (hcopy : (w.shared.replica client).record = some record)
      (hexisting : record.state.inbox.existing command.messageId command.deduplicationKey =
        some entry) :
      Stepped w (.accept client command now)
        { w with accepts := w.accepts ++ [(command, .duplicate entry record.revision)] }
  | accepted (client : κ) (command : InboxCommand) (now : ℕ) (record : StateRecord WorkflowState)
      (entry : InboxEntry) (hidle : w.loops client = none)
      (hcurrent : Current workflowId w client record)
      (hnew : record.state.inbox.existing command.messageId command.deduplicationKey = none)
      (hentry : entry = .new command.messageId command.deduplicationKey command.messageType
        command.payload now) :
      Stepped w (.accept client command now)
        { w.written workflowId client record (record.state.insertInbox entry) with
          accepts := w.accepts ++ [(command, .accepted entry (record.revision + 1))] }
  | inboxMoved (client : κ) (messageId : WorkflowMessageId) (status : InboxStatus) (now : ℕ)
      (record : StateRecord WorkflowState) (entry : InboxEntry) (next : WorkflowState)
      (hidle : w.loops client = none) (hcurrent : Current workflowId w client record)
      (hnext : record.state.updateInboxStatus messageId status now = some (entry, next)) :
      Stepped w (.transitionInbox client messageId status now)
        (w.written workflowId client record next)
  | scheduleDuplicate (client : κ) (command : OutboxCommand) (now : ℕ)
      (record : StateRecord WorkflowState) (entry : OutboxEntry)
      (hcopy : (w.shared.replica client).record = some record)
      (hexisting : record.state.outbox.existing command.messageId command.deduplicationKey =
        some entry) :
      Stepped w (.scheduleOutbox client command now)
        { w with schedules := w.schedules ++ [(command, .duplicate entry record.revision)] }
  | scheduled (client : κ) (command : OutboxCommand) (now : ℕ)
      (record : StateRecord WorkflowState) (entry : OutboxEntry)
      (hidle : w.loops client = none) (hcurrent : Current workflowId w client record)
      (hnew : record.state.outbox.existing command.messageId command.deduplicationKey = none)
      (hentry : entry = .new command.messageId command.deduplicationKey command.target
        command.messageType command.payload (command.scheduledAt.getD now) command.retryPolicy) :
      Stepped w (.scheduleOutbox client command now)
        { w.written workflowId client record (record.state.insertOutbox entry) with
          schedules := w.schedules ++ [(command, .scheduled entry (record.revision + 1))] }
  | outboxMoved (op : InboxOp κ) (client : κ) (messageId : OutboxMessageId)
      (transition : OutboxTransition) (now : ℕ) (loop : Option DispatchLoop)
      (record : StateRecord WorkflowState) (entry : OutboxEntry)
      (hcause : Cause w client messageId transition op loop)
      (hcurrent : Current workflowId w client record)
      (hentry : record.state.outboxEntry messageId = some entry)
      (hcancel : ∀ message, transition = .cancelled message → entry.isCancellable = true) :
      Stepped w op ((w.written workflowId client record
        (record.state.replaceOutbox messageId (transition.apply now entry))).setLoop client loop)
  | dueListed (client : κ) (now : ℕ) (record : StateRecord WorkflowState)
      (hcopy : (w.shared.replica client).record = some record) :
      Stepped w (.dispatchDueOutbox client now) (w.setLoop client
        (DispatchLoop.over ((record.state.dueOutbox now).map OutboxEntry.messageId)))
  | compacted (client : κ) (policy : WorkflowStateCompactionPolicy) (now : ℕ)
      (record : StateRecord WorkflowState) (hidle : w.loops client = none)
      (hcurrent : Current workflowId w client record) :
      Stepped w (.compact client policy now)
        (w.written workflowId client record (record.state.compact policy now).2)

lemma setLoop_none (h : w.loops client = none) : w.setLoop client none = w := by
  rw [setLoop, ← h, Function.update_eq_self]

variable (w)

lemma set_self (client : κ) :
    { w with shared := w.shared.set client (w.shared.replica client) } = w := by
  rw [Replicated.set, Function.update_eq_self]

lemma setLoop_self (client : κ) (loop : Option DispatchLoop) :
    (w.setLoop client loop).loops client = loop := Function.update_self _ _ _

lemma written_copy (client : κ) (record : StateRecord WorkflowState) (next : WorkflowState) :
    ((w.written workflowId client record next).shared.replica client).record =
      some ⟨next, record.revision + 1⟩ := by
  simp [written, Replicated.set]

lemma written_load (client : κ) (record : StateRecord WorkflowState) (next : WorkflowState) :
    (w.written workflowId client record next).shared.store.load workflowId.persistenceId =
      some ⟨next, record.revision + 1⟩ :=
  w.shared.store.load_insert workflowId.persistenceId _

variable {w}

section
variable (hrefused : ∀ error replica, replica.record = (w.shared.replica client).record →
  P (note (.error error) { w with shared := w.shared.set client replica }))
include hrefused

lemma call_transact {decide : StateRecord WorkflowState → Decision WorkflowError WorkflowState α}
    (hanswered : ∀ record result, (w.shared.replica client).record = some record →
      decide record = .answer result → P (note (.ok result) w))
    (hwritten : ∀ record next result, Current workflowId w client record →
      decide record = .write next result →
      P (note (.ok (result ⟨next, record.revision + 1⟩)) (w.written workflowId client record next)))
    : P (w.call client (transact workflowId decide) note) := by
  unfold call
  dsimp only
  cases hcopy : (w.shared.replica client).record with
  | none =>
    rw [transact_of_none workflowId decide _ hcopy]
    exact hrefused _ _ rfl
  | some record =>
    rw [transact_of_some workflowId decide _ hcopy]
    have hcases := Replica.perform_cases workflowId.persistenceId (mapDurableError workflowId)
      record.revision (decide record) (w.shared.replica client) w.shared.store
    generalize Replica.perform workflowId.persistenceId (mapDurableError workflowId)
      record.revision (decide record) (w.shared.replica client, w.shared.store) = out at hcases
    cases hcases with
    | failed => exact hrefused _ _ rfl
    | answered result hdecision =>
      have hanswer := hanswered record result hcopy hdecision
      rw [← set_self w client] at hanswer
      exact hanswer
    | lost => exact hrefused _ _ rfl
    | written next result hdecision hexpected =>
      exact hwritten record next result ⟨hcopy, hexpected⟩ hdecision

lemma call_outboxUpdate {β : Type} {messageId : OutboxMessageId}
    {update : OutboxEntry → OutboxEntry × β} {result : OutboxEntry → β → α}
    (hwritten : ∀ record entry, Current workflowId w client record →
      record.state.outboxEntry messageId = some entry →
      P (note (.ok (result (update entry).1 (update entry).2)) (w.written workflowId client record
        (record.state.replaceOutbox messageId (update entry).1)))) :
    P (w.call client (outboxUpdate workflowId messageId update result) note) := by
  refine call_transact workflowId hrefused (fun record answer _ hdecision => ?_)
    (fun record next answer hcurrent hdecision => ?_)
  all_goals
    cases hentry : record.state.outboxEntry messageId with
    | none => simp [WorkflowState.updateOutbox, hentry] at hdecision
    | some entry => ?_
  · simp [WorkflowState.updateOutbox, hentry] at hdecision
  · simp only [WorkflowState.updateOutbox, hentry, Option.map_some, Decision.write.injEq]
      at hdecision
    obtain ⟨rfl, rfl⟩ := hdecision
    exact hwritten record entry hcurrent hentry

end

lemma call_discard (w : InboxWorld κ) (client : κ) (f : InboxCall α) :
    w.call client (f >>= fun _ => pure ()) (fun _ w => w) = w.call client f (fun _ w => w) := by
  unfold call
  dsimp only
  rw [Attempt.bind_pure_state]

omit [DecidableEq κ] in
lemma whenIdle_cases {w' : InboxWorld κ} (hbusy : P w) (hidle : w.loops client = none → P w') :
    P (w.whenIdle client w') := by
  unfold whenIdle
  split_ifs with hloop
  · exact hbusy
  · exact hidle (by simpa using hloop)

section
variable {workflowId}

lemma Stepped.refused_idle (hidle : w.loops client = none) (op : InboxOp κ)
    {replica : Replica WorkflowState} (hrecord : replica.record = (w.shared.replica client).record) :
    Stepped workflowId w op { w with shared := w.shared.set client replica } := by
  have hrefused : Stepped workflowId w op _ := .refused op client replica hrecord
  rwa [setLoop_none (by exact hidle)] at hrefused

lemma stepped_transitionOutbox (hidle : w.loops client = none) (messageId : OutboxMessageId)
    (transition : OutboxTransition) (now : ℕ) :
    Stepped workflowId w (.transitionOutbox client messageId transition now)
      (w.call client (transition.call workflowId messageId now) (fun _ w => w)) := by
  have hmoved : ∀ record entry, Current workflowId w client record →
      record.state.outboxEntry messageId = some entry →
      (∀ message, transition = .cancelled message → entry.isCancellable = true) →
      Stepped workflowId w (.transitionOutbox client messageId transition now)
        (w.written workflowId client record
          (record.state.replaceOutbox messageId (transition.apply now entry))) := by
    intro record entry hcurrent hentry hcancel
    have hstep := Stepped.outboxMoved _ client messageId transition now none record entry
      (.called transition now hidle) hcurrent hentry hcancel
    rwa [setLoop_none (by exact hidle)] at hstep
  cases transition with
  | dispatching | dispatched | failed | exhausted =>
    simp only [OutboxTransition.call, call_discard]
    exact call_outboxUpdate workflowId (fun _ _ h => .refused_idle hidle _ h)
      (fun record entry hcurrent hentry => hmoved record entry hcurrent hentry (by simp))
  | cancelled =>
    simp only [OutboxTransition.call, call_discard]
    refine call_transact workflowId (fun _ _ h => .refused_idle hidle _ h)
      (fun record answer _ _ => .skipped _) (fun record next answer hcurrent hdecision => ?_)
    cases hentry : record.state.outboxEntry messageId with
    | none => simp [WorkflowState.updateOutbox, hentry] at hdecision
    | some entry =>
      by_cases hcancellable : entry.isCancellable = true
      · simp only [WorkflowState.updateOutbox, hentry, Option.map_some, hcancellable, if_true,
          Decision.write.injEq] at hdecision
        obtain ⟨rfl, rfl⟩ := hdecision
        exact hmoved record entry hcurrent hentry (fun _ _ => hcancellable)
      · simp [WorkflowState.updateOutbox, hentry, hcancellable] at hdecision

end

lemma step_cases (w : InboxWorld κ) (op : InboxOp κ) :
    Stepped workflowId w op (w.step workflowId op) := by
  cases op with
  | recover client now =>
    refine whenIdle_cases (.skipped _) (fun hidle => ?_)
    exact .recovered client now hidle
  | crash client => exact .crashed client
  | accept client command now =>
    refine whenIdle_cases (.skipped _) (fun hidle => ?_)
    refine call_transact workflowId (fun _ _ h => .refused_idle hidle _ h)
      (fun record answer hcopy hdecision => ?_) (fun record next answer hcurrent hdecision => ?_)
    all_goals
      unfold acceptDecision at hdecision
      cases hexisting : record.state.inbox.existing command.messageId command.deduplicationKey
    · simp [hexisting] at hdecision
    · simp only [hexisting, Decision.answer.injEq] at hdecision
      rw [← hdecision]
      exact .acceptDuplicate client command now record _ hcopy hexisting
    · simp only [hexisting, Decision.write.injEq] at hdecision
      obtain ⟨rfl, rfl⟩ := hdecision
      exact .accepted client command now record _ hidle hcurrent hexisting rfl
    · simp [hexisting] at hdecision
  | transitionInbox client messageId status now =>
    refine whenIdle_cases (.skipped _) (fun hidle => ?_)
    refine call_transact workflowId (fun _ _ h => .refused_idle hidle _ h)
      (fun record answer _ _ => .skipped _) (fun record next answer hcurrent hdecision => ?_)
    cases hnext : record.state.updateInboxStatus messageId status now with
    | none => simp [hnext] at hdecision
    | some =>
      simp only [hnext, Decision.write.injEq] at hdecision
      obtain ⟨rfl, rfl⟩ := hdecision
      exact .inboxMoved client messageId status now record _ _ hidle hcurrent hnext
  | scheduleOutbox client command now =>
    refine whenIdle_cases (.skipped _) (fun hidle => ?_)
    refine call_transact workflowId (fun _ _ h => .refused_idle hidle _ h)
      (fun record answer hcopy hdecision => ?_) (fun record next answer hcurrent hdecision => ?_)
    all_goals
      unfold scheduleDecision at hdecision
      cases hexisting : record.state.outbox.existing command.messageId command.deduplicationKey
    · simp [hexisting] at hdecision
    · simp only [hexisting, Decision.answer.injEq] at hdecision
      rw [← hdecision]
      exact .scheduleDuplicate client command now record _ hcopy hexisting
    · simp only [hexisting, Decision.write.injEq] at hdecision
      obtain ⟨rfl, rfl⟩ := hdecision
      exact .scheduled client command now record _ hidle hcurrent hexisting rfl
    · simp [hexisting] at hdecision
  | transitionOutbox client messageId transition now =>
    exact whenIdle_cases (.skipped _)
      (fun hidle => stepped_transitionOutbox hidle messageId transition now)
  | dispatchDueOutbox client now =>
    refine whenIdle_cases (.skipped _) (fun hidle => ?_)
    refine call_transact workflowId (fun _ _ h => .refused_idle hidle _ h)
      (fun record answer hcopy hdecision => ?_) (fun record next answer _ hdecision => ?_)
    · rw [← Decision.answer.inj hdecision]
      exact .dueListed client now record hcopy
    · cases hdecision
  | dispatchNext client now =>
    simp only [step]
    cases hloop : w.loops client with
    | none => exact .skipped _
    | some loop =>
      obtain ⟨_ | ⟨messageId, due⟩, _ | _⟩ := loop
      · exact .skipped _
      · exact .skipped _
      · exact call_outboxUpdate workflowId (fun _ _ h => .refused _ client _ h)
          (fun record entry hcurrent hentry => .outboxMoved _ client messageId .dispatching now _
            record entry (.marked due now hloop) hcurrent hentry (by simp))
      · exact .skipped _
  | dispatchAnswered client result now =>
    simp only [step]
    cases hloop : w.loops client with
    | none => exact .skipped _
    | some loop =>
      obtain ⟨due, dispatching⟩ := loop
      cases dispatching with
      | none => exact .skipped _
      | some messageId =>
        have hmoved : ∀ record entry, Current workflowId w client record →
            record.state.outboxEntry messageId = some entry →
            Stepped workflowId w (.dispatchAnswered client result now)
              ((w.written workflowId client record (record.state.replaceOutbox messageId
                (result.transition.apply now entry))).setLoop client (DispatchLoop.over due)) :=
          fun record entry hcurrent hentry => .outboxMoved _ client messageId result.transition now
            _ record entry (.answered due result now hloop) hcurrent hentry
            (by cases result <;> simp [OutboxDispatchResult.transition])
        cases result with
        | success | failure | timeout =>
          exact call_outboxUpdate workflowId (fun _ _ h => .refused _ client _ h) hmoved
  | compact client policy now =>
    refine whenIdle_cases (.skipped _) (fun hidle => ?_)
    refine call_transact workflowId (fun _ _ h => .refused_idle hidle _ h)
      (fun record answer _ hdecision => ?_) (fun record next answer hcurrent hdecision => ?_)
    · cases hdecision
    · obtain ⟨rfl, rfl⟩ := Decision.write.inj hdecision
      exact .compacted client policy now record hidle hcurrent

end
end InboxWorld
end Rakka.Workflow
