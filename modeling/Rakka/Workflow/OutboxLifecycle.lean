import Rakka.Foundation.Saturating
import Rakka.Workflow.Deduplication

/-! The lifecycle of an outbox entry. Only cancellation looks at the status before it writes; the
other transitions re-open a terminal entry. `dispatch_due_outbox` never does: what it marks was due
in its copy, and what it records it has marked itself. -/

namespace Rakka.Workflow
open Foundation Rakka.Persistence List

lemma OutboxEntry.isCancellable_iff (entry : OutboxEntry) :
    entry.isCancellable = true ↔ entry.status.isTerminal = false := by
  unfold isCancellable OutboxStatus.isTerminal
  cases entry.status <;> simp

lemma OutboxEntry.isCancellable_of_isDue {entry : OutboxEntry} {now : ℕ}
    (h : entry.isDue now = true) : entry.isCancellable = true := by
  unfold isDue at h
  unfold isCancellable
  cases hstatus : entry.status <;> simp [hstatus] at h ⊢

lemma OutboxEntry.isDue_of_isTerminal {entry : OutboxEntry}
    (h : entry.status.isTerminal = true) (now : ℕ) : entry.isDue now = false := by
  cases hdue : entry.isDue now with
  | false => rfl
  | true =>
    rw [(isCancellable_iff entry).mp (isCancellable_of_isDue hdue)] at h
    cases h

def WorkflowTimestamp.addMillis (now millis : UInt64) : UInt64 := now + millis

namespace RetryPolicy
variable {policy : RetryPolicy}

def backoff (policy : RetryPolicy) (steps : ℕ) : ℕ :=
  (List.range steps).foldl
    (fun delay _ => saturatingMul delay (max policy.multiplier 1)) policy.initialBackoffMillis

lemma backoff_succ (steps : ℕ) :
    policy.backoff (steps + 1) = saturatingMul (policy.backoff steps) (max policy.multiplier 1) := by
  rw [backoff, range_succ, foldl_append]
  rfl

lemma backoff_mono (hword : policy.initialBackoffMillis ≤ u64Max) : Monotone policy.backoff := by
  have hle : ∀ steps, policy.backoff steps ≤ u64Max := by
    intro steps
    cases steps with
    | zero => exact hword
    | succ steps =>
      rw [backoff_succ]
      exact min_le_right _ _
  refine monotone_nat_of_le_succ (fun steps => ?_)
  rw [backoff_succ]
  exact le_min (Nat.le_mul_of_pos_right _ (lt_max_of_lt_right Nat.one_pos)) (hle steps)

lemma delayAfterFailure_eq (attempts : ℕ) : policy.delayAfterFailure attempts =
    saturatingAdd (min (policy.backoff (attempts - 1)) policy.maxBackoffMillis)
      policy.jitter.millis := rfl

lemma saturatingAdd_mono {a b : ℕ} (h : a ≤ b) (c : ℕ) : saturatingAdd a c ≤ saturatingAdd b c :=
  min_le_min_right _ (Nat.add_le_add_right h c)

end RetryPolicy

namespace WorkflowState
variable (state : WorkflowState) (entry : OutboxEntry)

lemma replaceOutbox_self (messageId : OutboxMessageId) (entry : OutboxEntry) :
    (state.replaceOutbox messageId entry).outboxEntry messageId = some entry :=
  (state.outbox.update_lookup messageId messageId entry).trans (if_pos rfl)

lemma replaceOutbox_of_ne {messageId other : OutboxMessageId} (h : other ≠ messageId) :
    (state.replaceOutbox messageId entry).outboxEntry other = state.outboxEntry other :=
  (state.outbox.update_lookup messageId other entry).trans (if_neg h)

lemma insertOutbox_of_ne {other : OutboxMessageId} (h : other ≠ entry.messageId) :
    (state.insertOutbox entry).outboxEntry other = state.outboxEntry other :=
  (state.outbox.insert_lookup entry.messageId other entry.deduplicationKey entry).trans (if_neg h)

lemma mem_dueOutbox {state : WorkflowState} (h : state.Indexed) {now : ℕ} {entry : OutboxEntry}
    (hmem : entry ∈ state.dueOutbox now) :
    state.outboxEntry entry.messageId = some entry ∧ entry.isDue now = true := by
  obtain ⟨hvalue, hdue⟩ := mem_filter.mp hmem
  obtain ⟨⟨id, found⟩, hpair, rfl⟩ := mem_map.mp hvalue
  have hfound := Std.ExtTreeMap.mem_toList_iff_getElem?_eq_some.mp hpair
  refine ⟨?_, hdue⟩
  rw [h.outbox.named id found hfound]
  exact hfound

lemma dueOutbox_ids_nodup {state : WorkflowState} (h : state.Indexed) (now : ℕ) :
    ((state.dueOutbox now).map OutboxEntry.messageId).Nodup := by
  refine List.Nodup.sublist (List.Sublist.map _ filter_sublist) ?_
  have hids : (BTreeMap.valuesInOrder state.outbox.entries).map OutboxEntry.messageId =
      state.outbox.entries.toList.map Prod.fst := by
    rw [BTreeMap.valuesInOrder, map_map]
    refine map_congr_left (fun pair hpair => ?_)
    exact h.outbox.named pair.1 pair.2 (Std.ExtTreeMap.mem_toList_iff_getElem?_eq_some.mp hpair)
  rw [hids]
  exact BTreeMap.toList_keys_nodup _

end WorkflowState

namespace InboxWorld
variable {κ : Type} [DecidableEq κ] {workflowId : WorkflowId}
variable {record : StateRecord WorkflowState} {messageId : OutboxMessageId}
  {history : List (StateRecord WorkflowState)}

def Open (record : StateRecord WorkflowState) (messageId : OutboxMessageId) : Prop :=
  ∃ entry, record.state.outboxEntry messageId = some entry ∧ entry.isCancellable = true

/-- What a dispatch loop is about to touch is open in its copy. -/
structure LoopSound (record : StateRecord WorkflowState) (loop : DispatchLoop) : Prop where
  nodup : loop.due.Nodup
  due : ∀ messageId ∈ loop.due, Open record messageId
  dispatching : ∀ messageId, loop.dispatching = some messageId →
    messageId ∉ loop.due ∧ Open record messageId

def LoopsSound (w : InboxWorld κ) : Prop :=
  ∀ client loop, w.loops client = some loop →
    ∃ record, (w.shared.replica client).record = some record ∧ LoopSound record loop

def SameElsewhere (w w' : InboxWorld κ) (client : κ) : Prop :=
  ∀ other, other ≠ client →
    w'.loops other = w.loops other ∧ w'.shared.replica other = w.shared.replica other

variable {w w' : InboxWorld κ} {client : κ}

omit [DecidableEq κ] in
lemma LoopsSound.step_of (h : LoopsSound w) (hsame : SameElsewhere w w' client)
    (hclient : ∀ loop, w'.loops client = some loop →
      ∃ record, (w'.shared.replica client).record = some record ∧ LoopSound record loop) :
    LoopsSound w' := by
  intro other loop hloop
  by_cases hother : other = client
  · subst hother
    exact hclient loop hloop
  · obtain ⟨hloops, hreplica⟩ := hsame other hother
    rw [hreplica]
    exact h other loop (hloops ▸ hloop)

lemma sameElsewhere_set (w : InboxWorld κ) (client : κ) (replica : Replica WorkflowState) :
    SameElsewhere w { w with shared := w.shared.set client replica } client :=
  fun _ hother => ⟨rfl, Function.update_of_ne hother _ _⟩

lemma sameElsewhere_written (w : InboxWorld κ) (client : κ) (record : StateRecord WorkflowState)
    (next : WorkflowState) : SameElsewhere w (w.written workflowId client record next) client :=
  fun _ hother => ⟨rfl, Function.update_of_ne hother _ _⟩

lemma SameElsewhere.setLoop (h : SameElsewhere w w' client) (loop : Option DispatchLoop) :
    SameElsewhere w (w'.setLoop client loop) client :=
  fun other hother => ⟨(Function.update_of_ne hother _ _).trans (h other hother).1,
    (h other hother).2⟩

omit [DecidableEq κ] in
lemma LoopsSound.idle (h : LoopsSound w) (hsame : SameElsewhere w w' client)
    (hidle : w'.loops client = none) : LoopsSound w' :=
  h.step_of hsame (fun _ hloop => nomatch hidle.symm.trans hloop)

omit [DecidableEq κ] in
lemma LoopSound.over {due : List OutboxMessageId} (hnodup : due.Nodup)
    (hdue : ∀ messageId ∈ due, Open record messageId) {loop : DispatchLoop}
    (hloop : DispatchLoop.over due = some loop) : LoopSound record loop := by
  cases due with
  | nil => cases hloop
  | cons =>
    cases hloop
    exact ⟨hnodup, hdue, fun _ hnone => nomatch hnone⟩

lemma Open.replace_of_ne {other : OutboxMessageId} (h : Open record other)
    (hne : other ≠ messageId) (entry : OutboxEntry) (revision : ℕ) :
    Open ⟨record.state.replaceOutbox messageId entry, revision⟩ other := by
  obtain ⟨found, hfound, hopen⟩ := h
  exact ⟨found, (record.state.replaceOutbox_of_ne entry hne).trans hfound, hopen⟩

lemma LoopsSound.step (h : LoopsSound w) (hbooks : Books workflowId history w) (op : InboxOp κ) :
    LoopsSound (w.step workflowId op) := by
  have hcases := step_cases workflowId w op
  generalize w.step workflowId op = w' at hcases
  cases hcases with
  | skipped => exact h
  | recovered client now hidle => exact h.idle (sameElsewhere_set w client _) hidle
  | crashed client | refused op client =>
    exact h.idle ((sameElsewhere_set w client _).setLoop none) (Function.update_self _ _ _)
  | acceptDuplicate => exact h
  | accepted client command now record entry hidle hcurrent hnew hentry
  | inboxMoved client messageId status now record entry next hidle =>
    exact h.idle (sameElsewhere_written w client record _) hidle
  | scheduleDuplicate => exact h
  | scheduled client command now record entry hidle =>
    exact h.idle (sameElsewhere_written w client record _) hidle
  | outboxMoved op client messageId transition now loop record entry hcause hcurrent =>
    refine h.step_of ((sameElsewhere_written w client record _).setLoop loop)
      (fun loop' hloop' => ⟨_, written_copy workflowId w client record _, ?_⟩)
    rw [setLoop_self] at hloop'
    -- The loop goes on with entries that are not the one just written.
    cases hcause with
    | called => cases hloop'
    | marked due now hloop =>
      cases hloop'
      obtain ⟨copy, hcopy, hsound⟩ := h client _ hloop
      cases hcurrent.copy.symm.trans hcopy
      obtain ⟨hfresh, hnodup⟩ := nodup_cons.mp hsound.nodup
      refine ⟨hnodup, fun other hother => ?_, fun other hsame => ?_⟩
      · exact (hsound.due other (mem_cons_of_mem _ hother)).replace_of_ne
          (ne_of_mem_of_not_mem hother hfresh) _ _
      · cases hsame
        exact ⟨hfresh, _, record.state.replaceOutbox_self messageId _, rfl⟩
    | answered due result now hloop =>
      obtain ⟨copy, hcopy, hsound⟩ := h client _ hloop
      cases hcurrent.copy.symm.trans hcopy
      obtain ⟨hfresh, _⟩ := hsound.dispatching messageId rfl
      refine LoopSound.over hsound.nodup (fun other hother => ?_) hloop'
      exact (hsound.due other hother).replace_of_ne (ne_of_mem_of_not_mem hother hfresh) _ _
  | dueListed client now record hcopy =>
    have hindexed := hbooks.fenced.copy_meets (fun _ hunstored => hunstored.indexed)
      hbooks.indexed hcopy
    have hsame : SameElsewhere w w client := fun _ _ => ⟨rfl, rfl⟩
    refine h.step_of (hsame.setLoop _) (fun loop hloop => ⟨record, hcopy, ?_⟩)
    rw [setLoop_self] at hloop
    refine LoopSound.over (WorkflowState.dueOutbox_ids_nodup hindexed now)
      (fun messageId hmem => ?_) hloop
    obtain ⟨entry, hentry, rfl⟩ := mem_map.mp hmem
    obtain ⟨hfound, hdue⟩ := WorkflowState.mem_dueOutbox hindexed hentry
    exact ⟨entry, hfound, OutboxEntry.isCancellable_of_isDue hdue⟩
  | compacted client policy now record hidle =>
    exact h.idle (sameElsewhere_written w client record _) hidle

/-- The instance's recovered snapshot knows no reason why the entry could not be cancelled. -/
def mayCancel (w : InboxWorld κ) (client : κ) (messageId : OutboxMessageId) : Bool :=
  match (w.shared.replica client).record with
  | none => true
  | some record =>
    match record.state.outboxEntry messageId with
    | none => true
    | some entry => entry.isCancellable

/-- Transitions that ignore the status are called only while the entry can be cancelled, and nothing
is compacted. -/
def careful (w : InboxWorld κ) : InboxOp κ → Bool
  | .transitionOutbox client messageId transition _ =>
    match transition with
    | .dispatching | .dispatched | .failed .. => w.mayCancel client messageId
    | .cancelled _ | .exhausted _ => true
  | .compact .. => false
  | _ => true

variable (workflowId) in
/-- The stored entry has reached this status or is exhausted. -/
def Settled (messageId : OutboxMessageId) (status : OutboxStatus) (w : InboxWorld κ) : Prop :=
  ∃ record entry, w.shared.store.load workflowId.persistenceId = some record ∧
    record.state.outboxEntry messageId = some entry ∧
    (entry.status = status ∨ entry.status = .exhausted)

omit [DecidableEq κ] in
lemma Books.current_state (h : Books workflowId history w) {stored : StateRecord WorkflowState}
    (hcurrent : Current workflowId w client record)
    (hload : w.shared.store.load workflowId.persistenceId = some stored) :
    record.state = stored.state := by
  have hlast : history.getLast? = some stored := h.fenced.latest.symm.trans hload
  rcases h.fenced.copy_latest hcurrent.copy hcurrent.expected with hstate | ⟨rfl, _⟩
  · rw [hlast] at hstate
    exact (Option.some.inj hstate).symm
  · cases hlast

omit [DecidableEq κ] in
theorem Cause.cancellable {transition : OutboxTransition} {op : InboxOp κ}
    {loop : Option DispatchLoop} (h : Cause w client messageId transition op loop)
    (hloops : LoopsSound w) (hcareful : careful w op = true) {entry : OutboxEntry}
    (hcopy : (w.shared.replica client).record = some record)
    (hentry : record.state.outboxEntry messageId = some entry)
    (hcancel : ∀ message, transition = .cancelled message → entry.isCancellable = true) :
    entry.isCancellable = true ∨ ∃ message, transition = .exhausted message := by
  have hopen : Open record messageId → entry.isCancellable = true := by
    rintro ⟨found, hfound, hopen⟩
    cases hentry.symm.trans hfound
    exact hopen
  cases h with
  | called transition =>
    have hmay : w.mayCancel client messageId = entry.isCancellable := by
      simp only [mayCancel, hcopy, hentry]
    cases transition with
    | dispatching | dispatched | failed => exact .inl (hmay.symm.trans hcareful)
    | cancelled message => exact .inl (hcancel message rfl)
    | exhausted message => exact .inr ⟨message, rfl⟩
  | marked due now hloop =>
    obtain ⟨copy, hcopy', hsound⟩ := hloops client _ hloop
    cases hcopy.symm.trans hcopy'
    exact .inl (hopen (hsound.due messageId mem_cons_self))
  | answered due result now hloop =>
    obtain ⟨copy, hcopy', hsound⟩ := hloops client _ hloop
    cases hcopy.symm.trans hcopy'
    exact .inl (hopen (hsound.dispatching messageId rfl).2)

lemma Settled.step {status : OutboxStatus} (h : Settled workflowId messageId status w)
    (hterminal : status.isTerminal = true) (hbooks : Books workflowId history w)
    (hloops : LoopsSound w) (op : InboxOp κ) (hcareful : careful w op = true) :
    Settled workflowId messageId status (w.step workflowId op) := by
  obtain ⟨stored, entry, hload, hentry, hstatus⟩ := h
  have hclosed : entry.status.isTerminal = true := by
    rcases hstatus with hstatus | hstatus
    · rw [hstatus, hterminal]
    · rw [hstatus]
      rfl
  have hcases := step_cases workflowId w op
  generalize w.step workflowId op = w' at hcases
  cases hcases with
  | skipped | recovered | crashed | refused | acceptDuplicate | scheduleDuplicate | dueListed =>
    exact ⟨stored, entry, hload, hentry, hstatus⟩
  | accepted client command now record added hidle hcurrent =>
    have heq := hbooks.current_state hcurrent hload
    exact ⟨_, entry, written_load workflowId w client record _, by rw [heq]; exact hentry, hstatus⟩
  | inboxMoved client id inboxStatus now record moved next hidle hcurrent hnext =>
    have heq := hbooks.current_state hcurrent hload
    obtain ⟨found, _, hpair⟩ := Option.map_eq_some_iff.mp hnext
    obtain ⟨rfl, rfl⟩ := Prod.mk.inj hpair
    exact ⟨_, entry, written_load workflowId w client record _, by rw [heq]; exact hentry, hstatus⟩
  | scheduled client command now record added hidle hcurrent hnew hadded =>
    have heq := hbooks.current_state hcurrent hload
    rw [← heq] at hentry
    refine ⟨_, entry, written_load workflowId w client record _, ?_, hstatus⟩
    refine (record.state.insertOutbox_of_ne added (fun hsame => ?_)).trans hentry
    rw [hadded] at hsame
    rw [hsame] at hentry
    cases (Ledger.existing_eq_none hnew).1.symm.trans hentry
  | outboxMoved op client id transition now loop record moved hcause hcurrent hmoved hcancel =>
    have heq := hbooks.current_state hcurrent hload
    rw [← heq] at hentry
    by_cases hsame : messageId = id
    · subst hsame
      cases hentry.symm.trans hmoved
      refine ⟨_, _, written_load workflowId w client record _,
        record.state.replaceOutbox_self messageId _, ?_⟩
      rcases hcause.cancellable hloops hcareful hcurrent.copy hmoved hcancel with
        hopen | ⟨message, rfl⟩
      · rw [(OutboxEntry.isCancellable_iff entry).mp hopen] at hclosed
        cases hclosed
      · exact .inr rfl
    · exact ⟨_, entry, written_load workflowId w client record _,
        (record.state.replaceOutbox_of_ne _ hsame).trans hentry, hstatus⟩
  | compacted => cases hcareful

omit [DecidableEq κ] in
lemma init_loopsSound (store : InMemoryDurableStateStore WorkflowState) :
    LoopsSound (init store : InboxWorld κ) :=
  fun _ _ hloop => nomatch hloop

lemma run_loopsSound {store : InMemoryDurableStateStore WorkflowState}
    (hnone : store.load workflowId.persistenceId = none) (ops : List (InboxOp κ))
    (hops : ∀ op ∈ ops, ∀ client policy now, op ≠ .compact client policy now) :
    (∃ history, Books workflowId history ((init store).run workflowId ops)) ∧
      LoopsSound ((init store).run workflowId ops : InboxWorld κ) :=
  List.foldlRecOn (motive := fun w => (∃ history, Books workflowId history w) ∧ LoopsSound w) ops _
    ⟨⟨[], init_books hnone⟩, init_loopsSound store⟩
    (fun _ ⟨⟨_, hbooks⟩, hloops⟩ op hmem => ⟨hbooks.step op (hops op hmem), hloops.step hbooks op⟩)

/-- A cancelled or dispatched entry stays so or becomes exhausted, and is never due again, as long
as the calls that do not look at the status are made only while it can still be cancelled. -/
theorem settled_entry_is_never_due (store : InMemoryDurableStateStore WorkflowState)
    (hnone : store.load workflowId.persistenceId = none) (before after : List (InboxOp κ))
    (hbefore : ∀ op ∈ before, ∀ client policy now, op ≠ .compact client policy now)
    (hafter : StepsMeet (fun w op => some (step workflowId w op)) (fun w op => careful w op = true)
      ((init store).run workflowId before) after)
    (messageId : OutboxMessageId) (record : StateRecord WorkflowState) (entry : OutboxEntry)
    (hload : ((init store : InboxWorld κ).run workflowId before).shared.store.load
      workflowId.persistenceId = some record)
    (hentry : record.state.outboxEntry messageId = some entry)
    (hstatus : entry.status = .cancelled ∨ entry.status = .dispatched) :
    ∃ record' entry', ((init store : InboxWorld κ).run workflowId (before ++ after)).shared.store.load
        workflowId.persistenceId = some record' ∧
      record'.state.outboxEntry messageId = some entry' ∧
      (entry'.status = entry.status ∨ entry'.status = .exhausted) ∧
      ∀ now, entry'.isDue now = false := by
  have hterminal : entry.status.isTerminal = true := by
    rcases hstatus with hstatus | hstatus <;> (rw [hstatus]; rfl)
  obtain ⟨hbooks, hloops⟩ := run_loopsSound hnone before hbefore
  have hsettled : Settled workflowId messageId entry.status
      ((init store : InboxWorld κ).run workflowId before) :=
    ⟨record, entry, hload, hentry, .inl rfl⟩
  let Inv (w : InboxWorld κ) : Prop := (∃ history, Books workflowId history w) ∧ LoopsSound w ∧
    Settled workflowId messageId entry.status w
  have hstep : ∀ w op, Inv w → careful w op = true → Inv (step workflowId w op) := by
    rintro w op ⟨⟨history, hbooks⟩, hloops, hsettled⟩ hcareful
    exact ⟨hbooks.step op (by rintro client policy now rfl; cases hcareful), hloops.step hbooks op,
      hsettled.step hterminal hbooks hloops op hcareful⟩
  obtain ⟨_, _, record', entry', hload', hentry', hstatus'⟩ :=
    foldl_invariant_of_meets hstep ⟨hbooks, hloops, hsettled⟩ hafter
  rw [run, foldl_append]
  refine ⟨record', entry', hload', hentry', hstatus', OutboxEntry.isDue_of_isTerminal ?_⟩
  rcases hstatus' with hstatus' | hstatus'
  · rw [hstatus', hterminal]
  · rw [hstatus']
    rfl

def storedOutbox (workflowId : WorkflowId) (w : InboxWorld κ) (messageId : OutboxMessageId) :
    Option OutboxEntry :=
  (w.shared.store.load workflowId.persistenceId).bind (·.state.outboxEntry messageId)

def chargeCard : OutboxCommand :=
  ⟨⟨"charge"⟩, none, .application "card", "charge", [], none, .default⟩

/-- A dispatch is cancelled while it is in flight, and its failure is reported afterwards: the entry
is to be retried. A dispatched entry that is marked once more is due again. -/
theorem failure_after_cancellation_schedules_retry :
    let id : OutboxMessageId := ⟨"charge"⟩
    let begun := (init .new : InboxWorld Unit).run ⟨"order-7"⟩
      [.recover () 0, .scheduleOutbox () chargeCard 1, .transitionOutbox () id .dispatching 2]
    let cancelled := begun.step ⟨"order-7"⟩ (.transitionOutbox () id (.cancelled "stop") 3)
    let failed := cancelled.step ⟨"order-7"⟩ (.transitionOutbox () id (.failed "refused" false) 4)
    let dispatched := begun.step ⟨"order-7"⟩ (.transitionOutbox () id .dispatched 3)
    let marked := dispatched.step ⟨"order-7"⟩ (.transitionOutbox () id .dispatching 4)
    (storedOutbox ⟨"order-7"⟩ cancelled id).map OutboxEntry.status = some .cancelled ∧
      (storedOutbox ⟨"order-7"⟩ failed id).map
        (fun entry => (entry.status, entry.attempts.nextRetryAt, entry.isDue 1004)) =
          some (.failed, some 1004, true) ∧
      (storedOutbox ⟨"order-7"⟩ dispatched id).map OutboxEntry.status = some .dispatched ∧
      (storedOutbox ⟨"order-7"⟩ marked id).map
        (fun entry => (entry.status, entry.isDue 1004)) = some (.dispatching, true) := by
  decide +kernel

/-- An entry is cancelled while another instance dispatches it: the outcome is not recorded, and the
entry stays cancelled. -/
theorem cancellation_during_dispatch_holds :
    let id : OutboxMessageId := ⟨"charge"⟩
    let before : List (InboxOp Bool) := [.recover true 0, .scheduleOutbox true chargeCard 1,
      .dispatchDueOutbox true 2, .dispatchNext true 2, .recover false 3,
      .transitionOutbox false id (.cancelled "stop") 3]
    let after : List (InboxOp Bool) := [.dispatchAnswered true (.failure "refused") 4,
      .recover true 5, .dispatchDueOutbox true 2000, .dispatchNext true 2000]
    ∃ record' entry', ((init .new : InboxWorld Bool).run ⟨"order-7"⟩
        (before ++ after)).shared.store.load (WorkflowId.persistenceId ⟨"order-7"⟩) = some record' ∧
      record'.state.outboxEntry id = some entry' ∧
      (entry'.status = .cancelled ∨ entry'.status = .exhausted) ∧
      ∀ now, entry'.isDue now = false := by
  intro id before after
  let entry : OutboxEntry := (OutboxEntry.new id none (.application "card") "charge" [] 1
    .default).markCancelled 3
  have hview : storedOutbox ⟨"order-7"⟩ ((init .new : InboxWorld Bool).run ⟨"order-7"⟩ before) id =
      some entry := by decide +kernel
  obtain ⟨record, hload, hentry⟩ := Option.bind_eq_some_iff.mp hview
  have hbefore : ∀ op ∈ before, ∀ client policy now, op ≠ .compact client policy now := by
    intro op hop client policy now hcompact
    subst hcompact
    simp [before] at hop
  have hafter : StepsMeet (fun w op => some (step ⟨"order-7"⟩ w op))
      (fun w op => careful w op = true) ((init .new).run ⟨"order-7"⟩ before) after := by
    decide +kernel
  exact settled_entry_is_never_due .new (by decide +kernel) before after hbefore hafter id record
    entry hload hentry (.inl rfl)

end InboxWorld
end Rakka.Workflow
