import Rakka.AgentWorkflow.Effect
import Rakka.Workflow.Inbox

/-! The outboxes of the runs in one store: how a copy of a snapshot relates to the stored one, and
what the calls that update one outbox entry do to the entries of all runs. -/

namespace Rakka.AgentWorkflow
open Foundation Rakka.Persistence Rakka.Workflow DurableInbox Option
variable {store : InMemoryDurableStateStore WorkflowState} {inbox : Replica WorkflowState}
variable (runId : AgentRunId) (messageId : OutboxMessageId)

def runPersistenceId : PersistenceId := (agentRunWorkflowId runId).persistenceId

lemma runPersistenceId_injective : Function.Injective runPersistenceId := by
  rintro ⟨first⟩ ⟨second⟩ h
  have hvalue : "workflow:" ++ first = "workflow:" ++ second := congrArg PersistenceId.value h
  rw [(String.append_right_inj _).mp hvalue]

def storedOutbox (store : InMemoryDurableStateStore WorkflowState) (runId : AgentRunId)
    (messageId : OutboxMessageId) : Option OutboxEntry :=
  (store.load (runPersistenceId runId)).bind (fun record => record.state.outboxEntry messageId)

/-- A copy is not ahead of the stored snapshot and shows its entries where the revisions agree. -/
structure Tracks (store : InMemoryDurableStateStore WorkflowState) (runId : AgentRunId)
    (record : StateRecord WorkflowState) : Prop where
  behind : record.revision ≤ store.revisionOf (runPersistenceId runId)
  same : record.revision = store.revisionOf (runPersistenceId runId) →
    ∀ messageId, record.state.outboxEntry messageId = storedOutbox store runId messageId

structure Rewritten (store store' : InMemoryDurableStateStore WorkflowState) (runId : AgentRunId)
    (messageId : OutboxMessageId) (after : OutboxEntry) : Prop where
  entries : ∀ other id, storedOutbox store' other id =
    if other = runId ∧ id = messageId then some after else storedOutbox store other id
  older : ∀ other record, Tracks store other record → Tracks store' other record

lemma rewritten_insert {runId : AgentRunId} {messageId : OutboxMessageId} {after : OutboxEntry}
    {next : WorkflowState} (hnext : ∀ id, next.outboxEntry id =
      if id = messageId then some after else storedOutbox store runId id) {revision : ℕ}
    (hrevision : store.revisionOf (runPersistenceId runId) = revision) :
    Rewritten store ⟨store.records.insert (runPersistenceId runId) ⟨next, revision + 1⟩⟩ runId
        messageId after ∧
      Tracks ⟨store.records.insert (runPersistenceId runId) ⟨next, revision + 1⟩⟩ runId
        ⟨next, revision + 1⟩ := by
  have hload := store.load_insert (runPersistenceId runId) ⟨next, revision + 1⟩
  have hrevision' := store.revisionOf_insert (runPersistenceId runId) ⟨next, revision + 1⟩
  have hmine : ∀ id, storedOutbox
      ⟨store.records.insert (runPersistenceId runId) ⟨next, revision + 1⟩⟩ runId id =
        next.outboxEntry id := by
    intro id
    rw [storedOutbox, hload, bind_some]
  refine ⟨⟨fun other id => ?_, fun other record h => ?_⟩, ⟨hrevision'.ge, fun _ id => (hmine id).symm⟩⟩
  · by_cases hother : other = runId
    · subst hother
      rw [hmine, hnext]
      simp only [true_and]
    · have hne : runPersistenceId other ≠ runPersistenceId runId :=
        fun h => hother (runPersistenceId_injective h)
      rw [if_neg (fun h => hother h.1), storedOutbox, store.load_insert_of_ne hne, storedOutbox]
  · by_cases hother : other = runId
    · subst hother
      have hbehind := h.behind
      refine ⟨?_, fun hsame => ?_⟩
      · rw [hrevision']
        dsimp only
        omega
      · -- the stored revision has moved on
        rw [hrevision'] at hsame
        dsimp only at hsame
        omega
    · have hne : runPersistenceId other ≠ runPersistenceId runId :=
        fun h => hother (runPersistenceId_injective h)
      refine ⟨?_, fun hsame id => ?_⟩
      · rw [store.revisionOf_insert_of_ne hne]
        exact h.behind
      · rw [store.revisionOf_insert_of_ne hne] at hsame
        rw [h.same hsame, storedOutbox, storedOutbox, store.load_insert_of_ne hne]

lemma tracks_recover (store : InMemoryDurableStateStore WorkflowState) (runId : AgentRunId)
    (now : ℕ) {record : StateRecord WorkflowState}
    (h : (Replica.recover (runPersistenceId runId) (.empty (agentRunWorkflowId runId) now)
      store).record = some record) : Tracks store runId record := by
  cases h
  cases hload : store.load (runPersistenceId runId) with
  | none =>
    rw [getD_none]
    refine ⟨(InMemoryDurableStateStore.missing_revision hload).le, fun _ messageId => ?_⟩
    rw [storedOutbox, hload, bind_none]
    exact Std.ExtTreeMap.getElem?_empty
  | some =>
    rw [getD_some]
    refine ⟨(InMemoryDurableStateStore.load_revision hload).le, fun _ messageId => ?_⟩
    rw [storedOutbox, hload, bind_some]

lemma replaceOutbox_entry (state : WorkflowState) (messageId id : OutboxMessageId)
    (entry : OutboxEntry) : (state.replaceOutbox messageId entry).outboxEntry id =
      if id = messageId then some entry else state.outboxEntry id := by
  have hlookup := Ledger.update_lookup state.outbox messageId id entry
  split_ifs at hlookup ⊢ with hid <;> exact hlookup

lemma insertOutbox_entry (state : WorkflowState) (entry : OutboxEntry) (id : OutboxMessageId) :
    (state.insertOutbox entry).outboxEntry id =
      if id = entry.messageId then some entry else state.outboxEntry id := by
  have hlookup := Ledger.insert_lookup state.outbox entry.messageId id entry.deduplicationKey entry
  split_ifs at hlookup ⊢ with hid <;> exact hlookup

def Unwritten (store : InMemoryDurableStateStore WorkflowState) (runId : AgentRunId)
    (messageId : OutboxMessageId) (inbox : Replica WorkflowState) : Prop :=
  ∀ record, inbox.record = some record → record.state.outboxEntry messageId = none ∨
    store.revisionOf (runPersistenceId runId) ≠ record.revision

inductive OutboxUpdated {α β : Type} (runId : AgentRunId) (messageId : OutboxMessageId)
    (update : OutboxEntry → OutboxEntry × β) (result : OutboxEntry → β → α)
    (inbox : Replica WorkflowState) (store : InMemoryDurableStateStore WorkflowState) :
    Except WorkflowError α × Replica WorkflowState × InMemoryDurableStateStore WorkflowState → Prop
  | refused (error : WorkflowError) (replica : Replica WorkflowState)
      (hreason : Unwritten store runId messageId inbox) :
      OutboxUpdated runId messageId update result inbox store (.error error, replica, store)
  | written (entry : OutboxEntry) (inbox' : Replica WorkflowState)
      (store' : InMemoryDurableStateStore WorkflowState) (record : StateRecord WorkflowState)
      (hentry : storedOutbox store runId messageId = some entry)
      (hrewritten : Rewritten store store' runId messageId (update entry).1)
      (hcopy : inbox'.record = some record) (htracks : Tracks store' runId record)
      (hshown : record.state.outboxEntry messageId = some (update entry).1) :
      OutboxUpdated runId messageId update result inbox store
        (.ok (result (update entry).1 (update entry).2), inbox', store')

lemma outboxUpdate_cases {α β : Type} (update : OutboxEntry → OutboxEntry × β)
    (result : OutboxEntry → β → α)
    (htracks : ∀ record, inbox.record = some record → Tracks store runId record) :
    OutboxUpdated runId messageId update result inbox store (outboxUpdate
      (agentRunWorkflowId runId) messageId update result (inbox, store)) := by
  unfold outboxUpdate
  cases hrecord : inbox.record with
  | none =>
    rw [transact_of_none _ _ _ hrecord]
    refine .refused _ _ (fun record hcopy => ?_)
    rw [hrecord] at hcopy
    cases hcopy
  | some record =>
    rw [transact_of_some _ _ _ hrecord]
    cases hentry : record.state.outboxEntry messageId with
    | none =>
      simp only [WorkflowState.updateOutbox, hentry, map_none, Replica.perform]
      refine .refused _ _ (fun copy hcopy => .inl ?_)
      rw [hrecord] at hcopy
      rw [← Option.some.inj hcopy]
      exact hentry
    | some entry =>
      simp only [WorkflowState.updateOutbox, hentry, map_some]
      have hcases := Replica.perform_cases (runPersistenceId runId)
        (mapDurableError (agentRunWorkflowId runId)) record.revision
        (.write (record.state.replaceOutbox messageId (update entry).1)
          (fun _ => result (update entry).1 (update entry).2)) inbox store
      unfold runPersistenceId at hcases
      generalize Replica.perform _ _ _ _ (inbox, store) = out at hcases
      cases hcases with
      | failed error hdecision | answered answer hdecision => cases hdecision
      | lost next answer hdecision hconflict =>
        refine .refused _ _ (fun copy hcopy => .inr ?_)
        rw [hrecord] at hcopy
        rw [← Option.some.inj hcopy]
        exact hconflict
      | written next answer hdecision hexpected =>
        obtain ⟨rfl, rfl⟩ := Decision.write.inj hdecision
        have htrack := htracks record hrecord
        have hsame := htrack.same hexpected.symm
        have hshown := replaceOutbox_entry record.state messageId messageId (update entry).1
        rw [if_pos rfl] at hshown
        have hinsert : Rewritten store _ runId messageId (update entry).1 ∧
            Tracks _ runId ⟨record.state.replaceOutbox messageId (update entry).1,
              record.revision + 1⟩ :=
          rewritten_insert (fun id => by rw [replaceOutbox_entry, hsame]) hexpected
        refine .written entry _ _ ⟨record.state.replaceOutbox messageId (update entry).1,
          record.revision + 1⟩ ?_ hinsert.1 rfl hinsert.2 hshown
        rw [← hsame]
        exact hentry

inductive OutboxCancelled (runId : AgentRunId) (messageId : OutboxMessageId) (now : ℕ)
    (store : InMemoryDurableStateStore WorkflowState) :
    Except WorkflowError (Option WorkflowTelemetryEvent) × Replica WorkflowState ×
      InMemoryDurableStateStore WorkflowState → Prop
  | refused (error : WorkflowError) (replica : Replica WorkflowState) :
      OutboxCancelled runId messageId now store (.error error, replica, store)
  | kept (replica : Replica WorkflowState)
      (htracks : ∀ record, replica.record = some record → Tracks store runId record) :
      OutboxCancelled runId messageId now store (.ok none, replica, store)
  | written (event : WorkflowTelemetryEvent) (entry : OutboxEntry) (inbox' : Replica WorkflowState)
      (store' : InMemoryDurableStateStore WorkflowState)
      (hentry : storedOutbox store runId messageId = some entry)
      (hcancellable : entry.isCancellable = true)
      (hrewritten : Rewritten store store' runId messageId (entry.markCancelled now))
      (htracks : ∀ record, inbox'.record = some record → Tracks store' runId record) :
      OutboxCancelled runId messageId now store (.ok (some event), inbox', store')

lemma recordOutboxCancelled_cases (message : String) (now : ℕ)
    (htracks : ∀ record, inbox.record = some record → Tracks store runId record) :
    OutboxCancelled runId messageId now store (recordOutboxCancelled
      (agentRunWorkflowId runId) messageId message now (inbox, store)) := by
  unfold recordOutboxCancelled
  cases hrecord : inbox.record with
  | none =>
    rw [transact_of_none _ _ _ hrecord]
    exact .refused _ _
  | some record =>
    rw [transact_of_some _ _ _ hrecord]
    cases hentry : record.state.outboxEntry messageId with
    | none =>
      simp only [WorkflowState.updateOutbox, hentry, map_none, Replica.perform]
      exact .refused _ _
    | some entry =>
      cases hcancellable : entry.isCancellable with
      | false =>
        simp only [WorkflowState.updateOutbox, hentry, map_some, hcancellable,
          Bool.false_eq_true, if_false, Replica.perform]
        exact .kept _ htracks
      | true =>
        simp only [WorkflowState.updateOutbox, hentry, map_some, hcancellable, if_true]
        have hcases := Replica.perform_cases (runPersistenceId runId)
          (mapDurableError (agentRunWorkflowId runId)) record.revision
          (.write (record.state.replaceOutbox messageId (entry.markCancelled now))
            (fun _ => some (WorkflowTelemetryEvent.outboxDispatchCancelled
              (entry.markCancelled now).messageId now message))) inbox store
        unfold runPersistenceId at hcases
        generalize Replica.perform _ _ _ _ (inbox, store) = out at hcases
        cases hcases with
        | failed error hdecision | answered answer hdecision => cases hdecision
        | lost => exact .refused _ _
        | written next answer hdecision hexpected =>
          obtain ⟨rfl, rfl⟩ := Decision.write.inj hdecision
          have hsame := (htracks record hrecord).same hexpected.symm
          have hinsert : Rewritten store _ runId messageId (entry.markCancelled now) ∧
              Tracks _ runId ⟨record.state.replaceOutbox messageId (entry.markCancelled now),
                record.revision + 1⟩ :=
            rewritten_insert (fun id => by rw [replaceOutbox_entry, hsame]) hexpected
          refine .written _ entry _ _ ?_ hcancellable hinsert.1 (fun copy hcopy => ?_)
          · rw [← hsame]
            exact hentry
          · cases hcopy
            exact hinsert.2

lemma rewritten_insertOutbox {runId : AgentRunId} {state : WorkflowState} (entry : OutboxEntry)
    (hsame : ∀ id, state.outboxEntry id = storedOutbox store runId id) {revision : ℕ}
    (hrevision : store.revisionOf (runPersistenceId runId) = revision) :
    Rewritten store ⟨store.records.insert (runPersistenceId runId)
      ⟨state.insertOutbox entry, revision + 1⟩⟩ runId entry.messageId entry := by
  refine (rewritten_insert (fun id => ?_) hrevision).1
  rw [insertOutbox_entry, hsame]

inductive OutboxScheduled (runId : AgentRunId) (messageId : OutboxMessageId)
    (store : InMemoryDurableStateStore WorkflowState) :
    InMemoryDurableStateStore WorkflowState → Prop
  | refused : OutboxScheduled runId messageId store store
  | written (entry : OutboxEntry) (store' : InMemoryDurableStateStore WorkflowState)
      (hnew : storedOutbox store runId messageId = none) (hstatus : entry.status = .pending)
      (hrewritten : Rewritten store store' runId messageId entry) :
      OutboxScheduled runId messageId store store'

lemma scheduleOutbox_cases (command : OutboxCommand) (now : ℕ)
    (htracks : ∀ record, inbox.record = some record → Tracks store runId record) :
    OutboxScheduled runId command.messageId store (scheduleOutbox
      (agentRunWorkflowId runId) command now (inbox, store)).2.2 := by
  unfold scheduleOutbox
  cases hrecord : inbox.record with
  | none =>
    rw [transact_of_none _ _ _ hrecord]
    exact .refused
  | some record =>
    rw [transact_of_some _ _ _ hrecord]
    have hcases := Replica.perform_cases (runPersistenceId runId)
      (mapDurableError (agentRunWorkflowId runId)) record.revision
      (scheduleDecision command now record) inbox store
    unfold runPersistenceId at hcases
    generalize Replica.perform _ _ _ _ (inbox, store) = out at hcases
    cases hcases with
    | failed | answered | lost =>
      exact .refused
    | written next answer hdecision hexpected =>
      unfold scheduleDecision at hdecision
      cases hexisting : record.state.outbox.existing command.messageId command.deduplicationKey with
      | some => simp [hexisting] at hdecision
      | none =>
        simp only [hexisting, Decision.write.injEq] at hdecision
        obtain ⟨rfl, rfl⟩ := hdecision
        have hsame := (htracks record hrecord).same hexpected.symm
        refine .written _ _ ?_ rfl (rewritten_insertOutbox _ hsame hexpected)
        rw [← hsame]
        exact (Ledger.existing_eq_none hexisting).1

end Rakka.AgentWorkflow
