import Rakka.Workflow.OutboxLifecycle

/-! No outbox entry is stuck: whatever calls, crashes, lost writes and compactions there were, an
entry is terminal or becomes due, and its failed attempts stay within the budget of its policy. -/

namespace Rakka.Workflow
open Foundation Rakka.Persistence InboxWorld

def OutboxEntry.budget (entry : OutboxEntry) : ℕ := max 1 entry.retryPolicy.maxAttempts

def OutboxEntry.Retried (entry : OutboxEntry) : Prop :=
  entry.status = .failed → entry.attempts.nextRetryAt.isSome = true

/-- The attempts recorded so far leave one for every transition to come. -/
def OutboxEntry.WithinBudget (entry : OutboxEntry) : Prop :=
  entry.attempts.attempts ≤ entry.budget ∧
    (entry.status ≠ .exhausted → entry.attempts.attempts < entry.budget)

lemma OutboxEntry.Retried.due_or_terminal {entry : OutboxEntry} (h : entry.Retried) :
    entry.status.isTerminal = true ∨ ∃ due, ∀ now, due ≤ now → entry.isDue now = true := by
  unfold Retried at h
  unfold OutboxStatus.isTerminal isDue
  cases hstatus : entry.status with
  | pending => exact .inr ⟨entry.scheduledAt, fun now hnow => by simpa using hnow⟩
  | failed =>
    obtain ⟨next, hnext⟩ := Option.isSome_iff_exists.mp (h hstatus)
    exact .inr ⟨next, fun now hnow => by simpa [hnext] using hnow⟩
  | dispatching => exact .inr ⟨0, fun _ _ => rfl⟩
  | dispatched | exhausted | cancelled => exact .inl rfl

namespace OutboxTransition

lemma apply_retried (transition : OutboxTransition) (now : ℕ) (entry : OutboxEntry) :
    (transition.apply now entry).Retried := by
  unfold OutboxEntry.Retried
  cases transition with
  | failed =>
    simp only [apply, OutboxEntry.recordFailure]
    split_ifs
    · intro hfailed
      cases hfailed
    · intro _
      rfl
  | _ =>
    intro hfailed
    cases hfailed

lemma apply_withinBudget (transition : OutboxTransition) (now : ℕ) {entry : OutboxEntry}
    (h : entry.WithinBudget) (hstatus : entry.status ≠ .exhausted) :
    (transition.apply now entry).WithinBudget := by
  have hlt := h.2 hstatus
  cases transition with
  | dispatching | dispatched | cancelled => exact ⟨hlt.le, fun _ => hlt⟩
  | exhausted => exact ⟨hlt, fun hne => absurd rfl hne⟩
  | failed =>
    simp only [apply, OutboxEntry.recordFailure]
    split_ifs with hexhausted
    · exact ⟨hlt, fun hne => absurd rfl hne⟩
    · -- The policy allows another attempt, so the count is still below its maximum.
      have hmore : entry.attempts.attempts + 1 < entry.retryPolicy.maxAttempts := by
        simpa [RetryPolicy.isExhaustedAfter] using hexhausted
      have hbudget : entry.attempts.attempts + 1 < entry.budget :=
        hmore.trans_le (le_max_right _ _)
      exact ⟨hbudget.le, fun _ => hbudget⟩

end OutboxTransition

namespace WorkflowState

lemma compact_outboxEntry (state : WorkflowState) (policy : WorkflowStateCompactionPolicy)
    (now : ℕ) (messageId : OutboxMessageId) : (state.compact policy now).2.outboxEntry messageId =
      (state.outboxEntry messageId).filter (fun entry => !outboxEntryGoes policy now entry) :=
  state.outbox.compact_lookup _ _ messageId

lemma compact_inboxEntry (state : WorkflowState) (policy : WorkflowStateCompactionPolicy)
    (now : ℕ) (messageId : WorkflowMessageId) : (state.compact policy now).2.inboxEntry messageId =
      (state.inboxEntry messageId).filter (fun entry => !inboxEntryGoes policy now entry) :=
  state.inbox.compact_lookup _ _ messageId

lemma insertOutbox_self (state : WorkflowState) (entry : OutboxEntry) :
    (state.insertOutbox entry).outboxEntry entry.messageId = some entry :=
  (state.outbox.insert_lookup entry.messageId entry.messageId entry.deduplicationKey entry).trans
    (if_pos rfl)

inductive EntryStep (before after : Option OutboxEntry) : Prop
  | same (h : after = before)
  | removed (h : after = none)
  | added (entry : OutboxEntry) (hbefore : before = none) (hafter : after = some entry)
      (hnew : entry.status = .pending ∧ entry.attempts.attempts = 0)
  | moved (entry : OutboxEntry) (transition : OutboxTransition) (now : ℕ)
      (hbefore : before = some entry) (hafter : after = some (transition.apply now entry))

end WorkflowState

namespace InboxWorld
variable {κ : Type} [DecidableEq κ] {workflowId : WorkflowId} {w w' : InboxWorld κ} {client : κ}
  {history : List (StateRecord WorkflowState)}

lemma Stepped.move {op : InboxOp κ} (h : Stepped workflowId w op w') :
    ∃ change, Replicated.Move workflowId.persistenceId (WorkflowState.Unstored workflowId) w.shared
      change w'.shared := by
  cases h with
  | skipped | acceptDuplicate | scheduleDuplicate | dueListed => exact ⟨_, .idle⟩
  | recovered client now =>
    refine ⟨_, .recovered client _ ?_⟩
    cases hload : w.shared.store.load workflowId.persistenceId with
    | some => exact .inl rfl
    | none => exact .inr ⟨rfl, now, rfl⟩
  | crashed client => exact ⟨_, .kept client .new (fun _ hrecord => nomatch hrecord)⟩
  | refused op client replica hrecord =>
    exact ⟨_, .kept client replica (fun _ hsome => hrecord ▸ hsome)⟩
  | accepted client command now record entry hidle hcurrent
  | inboxMoved client messageId status now record entry next hidle hcurrent
  | scheduled client command now record entry hidle hcurrent
  | outboxMoved op client messageId transition now loop record entry hcause hcurrent
  | compacted client policy now record hidle hcurrent =>
    exact ⟨_, .written client record _ hcurrent.copy hcurrent.expected⟩

omit [DecidableEq κ] in
lemma current_outboxEntry
    (h : Replicated.Fenced workflowId.persistenceId (WorkflowState.Unstored workflowId) history
      w.shared) {record : StateRecord WorkflowState} (hcurrent : Current workflowId w client record)
    (messageId : OutboxMessageId) :
    record.state.outboxEntry messageId = storedOutbox workflowId w messageId := by
  rw [storedOutbox, h.latest]
  rcases h.copy_latest hcurrent.copy hcurrent.expected with hlast | ⟨rfl, now, hempty⟩
  · obtain ⟨stored, hstored, heq⟩ := Option.map_eq_some_iff.mp hlast
    rw [hstored, ← heq]
    rfl
  · rw [hempty]
    simp [WorkflowState.outboxEntry, WorkflowState.empty, Ledger.empty]

lemma storedOutbox_written (workflowId : WorkflowId) (w : InboxWorld κ) (client : κ)
    (record : StateRecord WorkflowState) (next : WorkflowState) (messageId : OutboxMessageId) :
    storedOutbox workflowId (w.written workflowId client record next) messageId =
      next.outboxEntry messageId := by
  rw [storedOutbox, written_load]
  rfl

lemma step_entry
    (h : Replicated.Fenced workflowId.persistenceId (WorkflowState.Unstored workflowId) history
      w.shared) (op : InboxOp κ) (messageId : OutboxMessageId) :
    WorkflowState.EntryStep (storedOutbox workflowId w messageId)
      (storedOutbox workflowId (w.step workflowId op) messageId) := by
  have hcases := step_cases workflowId w op
  generalize w.step workflowId op = w' at hcases
  cases hcases with
  | skipped | recovered | crashed | refused | acceptDuplicate | scheduleDuplicate | dueListed =>
    exact .same rfl
  | accepted client command now record added hidle hcurrent =>
    rw [← current_outboxEntry h hcurrent]
    exact .same (storedOutbox_written workflowId w client record _ messageId)
  | inboxMoved client id inboxStatus now record moved next hidle hcurrent hnext =>
    obtain ⟨found, _, hpair⟩ := Option.map_eq_some_iff.mp hnext
    obtain ⟨rfl, rfl⟩ := Prod.mk.inj hpair
    rw [← current_outboxEntry h hcurrent]
    exact .same (storedOutbox_written workflowId w client record _ messageId)
  | scheduled client command now record added hidle hcurrent hnew hadded =>
    rw [← current_outboxEntry h hcurrent]
    have hwritten := storedOutbox_written workflowId w client record
      (record.state.insertOutbox added) messageId
    by_cases hsame : messageId = added.messageId
    · subst hsame
      refine .added added ?_ (hwritten.trans (record.state.insertOutbox_self added)) ?_
      · rw [hadded]
        exact (Ledger.existing_eq_none hnew).1
      · rw [hadded]
        exact ⟨rfl, rfl⟩
    · exact .same (hwritten.trans (record.state.insertOutbox_of_ne added hsame))
  | outboxMoved op client id transition now loop record moved hcause hcurrent hmoved =>
    rw [← current_outboxEntry h hcurrent]
    have hwritten := storedOutbox_written workflowId w client record
      (record.state.replaceOutbox id (transition.apply now moved)) messageId
    by_cases hsame : messageId = id
    · subst hsame
      exact .moved moved transition now hmoved
        (hwritten.trans (record.state.replaceOutbox_self messageId _))
    · exact .same (hwritten.trans (record.state.replaceOutbox_of_ne _ hsame))
  | compacted client policy now record hidle hcurrent =>
    rw [← current_outboxEntry h hcurrent]
    have hwritten := (storedOutbox_written workflowId w client record
      (record.state.compact policy now).2 messageId).trans (record.state.compact_outboxEntry policy now messageId)
    rcases Option.eq_none_or_eq_some
      ((record.state.outboxEntry messageId).filter
        (fun entry => !WorkflowState.outboxEntryGoes policy now entry)) with hnone | ⟨entry, hsome⟩
    · exact .removed (hwritten.trans hnone)
    · refine .same (hwritten.trans ?_)
      rw [hsome]
      exact (Option.eq_some_of_filter_eq_some hsome).symm

end InboxWorld

/-- The inbox instances, and for every entry whether an earlier version of it was exhausted. -/
structure TrackedInboxes (κ : Type) where
  world : InboxWorld κ
  wasExhausted : OutboxMessageId → Bool

namespace TrackedInboxes
variable {κ : Type} [DecidableEq κ] (workflowId : WorkflowId)

def init (store : InMemoryDurableStateStore WorkflowState) : TrackedInboxes κ :=
  ⟨.init store, fun _ => false⟩

/-- Was an earlier version exhausted, now that the entry `before` has become `after`? -/
def exhaustedBefore (before after : Option OutboxEntry) (was : Bool) : Bool :=
  match before, after with
  | some entry, some entry' => was || (entry.status = .exhausted && entry ≠ entry')
  | _, _ => false

def step (t : TrackedInboxes κ) (op : InboxOp κ) : TrackedInboxes κ :=
  let world := t.world.step workflowId op
  ⟨world, fun messageId => exhaustedBefore (storedOutbox workflowId t.world messageId)
    (storedOutbox workflowId world messageId) (t.wasExhausted messageId)⟩

def run (t : TrackedInboxes κ) (ops : List (InboxOp κ)) : TrackedInboxes κ :=
  ops.foldl (step workflowId) t

/-- Every stored entry is retried if it failed, and is within its budget as long as it was not
exhausted before. -/
def Sound (t : TrackedInboxes κ) : Prop :=
  ∀ messageId entry, storedOutbox workflowId t.world messageId = some entry →
    entry.Retried ∧ (t.wasExhausted messageId = false → entry.WithinBudget)

variable {workflowId} {t : TrackedInboxes κ}

lemma Sound.step (h : Sound workflowId t) {history : List (StateRecord WorkflowState)}
    (hfenced : Replicated.Fenced workflowId.persistenceId (WorkflowState.Unstored workflowId)
      history t.world.shared) (op : InboxOp κ) : Sound workflowId (t.step workflowId op) := by
  intro messageId entry hentry
  have hstep := step_entry hfenced op messageId
  have hwas : (t.step workflowId op).wasExhausted messageId = exhaustedBefore
      (storedOutbox workflowId t.world messageId) (some entry)
      (t.wasExhausted messageId) := by
    rw [← hentry]
    rfl
  rw [hwas]
  change storedOutbox workflowId (t.world.step workflowId op) messageId = _ at hentry
  cases hstep with
  | same heq =>
    rw [heq] at hentry
    obtain ⟨hretried, hbudget⟩ := h messageId entry hentry
    refine ⟨hretried, fun hfalse => hbudget ?_⟩
    rw [hentry] at hfalse
    simpa [exhaustedBefore] using hfalse
  | removed hnone => cases hnone.symm.trans hentry
  | added added hbefore hafter hnew =>
    cases hafter.symm.trans hentry
    refine ⟨fun hfailed => (nomatch hnew.1.symm.trans hfailed), fun _ => ?_⟩
    have hpositive : 0 < entry.budget := lt_max_of_lt_left Nat.one_pos
    exact ⟨hnew.2 ▸ hpositive.le, fun _ => hnew.2 ▸ hpositive⟩
  | moved moved transition now hbefore hafter =>
    cases hafter.symm.trans hentry
    refine ⟨transition.apply_retried now moved, fun hfalse => ?_⟩
    rw [hbefore] at hfalse
    obtain ⟨hwas, hchanged⟩ : t.wasExhausted messageId = false ∧
        (moved.status = .exhausted → moved = transition.apply now moved) := by
      simpa [exhaustedBefore] using hfalse
    have hbudget := (h messageId moved hbefore).2 hwas
    by_cases hexhausted : moved.status = .exhausted
    · rw [← hchanged hexhausted]
      exact hbudget
    · exact transition.apply_withinBudget now hbudget hexhausted

lemma run_sound {store : InMemoryDurableStateStore WorkflowState}
    (hnone : store.load workflowId.persistenceId = none) (ops : List (InboxOp κ)) :
    Sound workflowId ((init store : TrackedInboxes κ).run workflowId ops) := by
  let Inv (t : TrackedInboxes κ) : Prop := Sound workflowId t ∧ ∃ history,
    Replicated.Fenced workflowId.persistenceId (WorkflowState.Unstored workflowId) history
      t.world.shared
  have hinit : Inv (init store) := by
    refine ⟨fun messageId entry hentry => ?_, [], (init_books hnone).fenced⟩
    change (store.load workflowId.persistenceId).bind _ = _ at hentry
    rw [hnone] at hentry
    cases hentry
  have hstep : ∀ t, Inv t → ∀ op ∈ ops, Inv (t.step workflowId op) := by
    rintro t ⟨hsound, history, hfenced⟩ op _
    obtain ⟨change, hmove⟩ := (step_cases workflowId t.world op).move
    obtain ⟨history', _, hfenced'⟩ := hfenced.move hmove
    exact ⟨hsound.step hfenced op, history', hfenced'⟩
  exact (List.foldlRecOn (motive := Inv) ops _ hinit hstep).1

/-- With crashes and lost writes between any two writes, every stored entry is terminal or due from
some time on, has recorded at most `max 1 maxAttempts` failed attempts unless an earlier version was
exhausted, and compaction takes only terminal ones. -/
theorem no_entry_is_stuck (store : InMemoryDurableStateStore WorkflowState)
    (hnone : store.load workflowId.persistenceId = none) (ops : List (InboxOp κ)) :
    let t := (init store : TrackedInboxes κ).run workflowId ops
    ∀ record, t.world.shared.store.load workflowId.persistenceId = some record →
      (∀ messageId entry, record.state.outboxEntry messageId = some entry →
        (entry.status.isTerminal = true ∨ ∃ due, ∀ now, due ≤ now → entry.isDue now = true) ∧
        (t.wasExhausted messageId = false →
          entry.attempts.attempts ≤ max 1 entry.retryPolicy.maxAttempts ∧
          (entry.status ≠ .exhausted →
            entry.attempts.attempts < max 1 entry.retryPolicy.maxAttempts))) ∧
      ∀ policy now,
        (∀ messageId entry, record.state.outboxEntry messageId = some entry →
          (record.state.compact policy now).2.outboxEntry messageId = none →
          entry.status.isTerminal = true) ∧
        ∀ messageId entry, record.state.inboxEntry messageId = some entry →
          (record.state.compact policy now).2.inboxEntry messageId = none →
          entry.status = .completed := by
  intro t record hload
  have hsound := run_sound hnone ops
  refine ⟨fun messageId entry hentry => ?_, fun policy now => ⟨fun messageId entry hentry hgone => ?_,
    fun messageId entry hentry hgone => ?_⟩⟩
  · have hstored : storedOutbox workflowId t.world messageId = some entry := by
      rw [storedOutbox, hload]
      exact hentry
    obtain ⟨hretried, hbudget⟩ := hsound messageId entry hstored
    exact ⟨hretried.due_or_terminal, hbudget⟩
  · by_contra hopen
    rw [WorkflowState.compact_outboxEntry, hentry] at hgone
    simp [WorkflowState.outboxEntryGoes, hopen] at hgone
  · by_contra hopen
    rw [WorkflowState.compact_inboxEntry, hentry] at hgone
    simp [WorkflowState.inboxEntryGoes, hopen] at hgone

/-- An instance crashes between marking an entry and recording its outcome: the entry is due. -/
theorem crash_while_dispatching_leaves_entry_due :
    let ops : List (InboxOp Bool) := [.recover true 0,
      .scheduleOutbox true chargeCard 1, .dispatchDueOutbox true 2, .dispatchNext true 2,
      .crash true, .recover false 3, .compact false ⟨some 0, some 0, some 0⟩ 9]
    let t := (init .new : TrackedInboxes Bool).run ⟨"order-7"⟩ ops
    ∃ entry, storedOutbox ⟨"order-7"⟩ t.world ⟨"charge"⟩ = some entry ∧
      entry.status = .dispatching ∧
      (entry.status.isTerminal = true ∨ ∃ due, ∀ now, due ≤ now → entry.isDue now = true) := by
  intro ops t
  let entry : OutboxEntry := (OutboxEntry.new ⟨"charge"⟩ none (.application "card") "charge" [] 1
    .default).setStatus .dispatching 2
  have hview : storedOutbox ⟨"order-7"⟩ t.world ⟨"charge"⟩ = some entry := by
    decide +kernel
  obtain ⟨record, hload, hentry⟩ := Option.bind_eq_some_iff.mp hview
  exact ⟨entry, hview, rfl,
    ((no_entry_is_stuck .new (by decide +kernel) ops record hload).1 ⟨"charge"⟩ entry hentry).1⟩

end TrackedInboxes
end Rakka.Workflow
