import Rakka.Workflow.InboxRuns

/-! Deduplication over every interleaving of inbox instances. A command is answered from a copy
that may be behind the store, but only the copy that is not behind can add an entry, and it knows
every entry added before. -/

namespace Rakka.Workflow
open Foundation Rakka.Persistence List

/-- An answered command: what was asked for, whether an entry was made, and which entry was answered
with. -/
structure Admission (ι : Type) where
  id : ι
  key : Option DeduplicationKey
  fresh : Bool
  foundId : ι
  foundKey : Option DeduplicationKey

def SharesWork {ι : Type} (id : ι) (key : Option DeduplicationKey) (id' : ι)
    (key' : Option DeduplicationKey) : Prop :=
  id = id' ∨ ∃ k, key = some k ∧ key' = some k

namespace Ledger
variable {ι ε : Type} [LinearOrder ι]
variable {entry : ε} {id : ι}

/-- The table holds what it admitted as new, once each, and every answer carries an entry that
shares the command's id or key. -/
structure Admitted (keyOf : ε → Option DeduplicationKey) (ledger : Ledger ι ε)
    (admissions : List (Admission ι)) : Prop where
  kept : ∀ a ∈ admissions, a.fresh = true →
    ∃ entry, ledger.entries[a.id]? = some entry ∧ keyOf entry = a.key
  once : admissions.Pairwise (fun a b =>
    a.fresh = true → SharesWork a.id a.key b.id b.key → b.fresh = false)
  found : ∀ a ∈ admissions, SharesWork a.foundId a.foundKey a.id a.key

variable {idOf : ε → ι} {keyOf : ε → Option DeduplicationKey} {ledger ledger' : Ledger ι ε}
  {admissions : List (Admission ι)}

lemma admitted_nil (ledger : Ledger ι ε) : Admitted keyOf ledger [] :=
  ⟨fun _ h => absurd h not_mem_nil, .nil, fun _ h => absurd h not_mem_nil⟩

section
variable (h : Admitted keyOf ledger admissions)
include h

lemma Admitted.mono (hkeep : ∀ (id : ι) (entry : ε), ledger.entries[id]? = some entry →
      ∃ entry', ledger'.entries[id]? = some entry' ∧ keyOf entry' = keyOf entry) :
    Admitted keyOf ledger' admissions := by
  refine ⟨fun a ha hfresh => ?_, h.once, h.found⟩
  obtain ⟨entry, hentry, hkey⟩ := h.kept a ha hfresh
  obtain ⟨entry', hentry', hkey'⟩ := hkeep a.id entry hentry
  exact ⟨entry', hentry', hkey'.trans hkey⟩

lemma Admitted.append {a : Admission ι}
    (hkept : a.fresh = true → ∃ entry, ledger.entries[a.id]? = some entry ∧ keyOf entry = a.key)
    (honce : ∀ b ∈ admissions, b.fresh = true → SharesWork b.id b.key a.id a.key →
      a.fresh = false) (hfound : SharesWork a.foundId a.foundKey a.id a.key) :
    Admitted keyOf ledger (admissions ++ [a]) :=
  ⟨forall_mem_concat h.kept hkept, pairwise_concat h.once honce, forall_mem_concat h.found hfound⟩

lemma Admitted.duplicate (hcopy : Indexed idOf keyOf ledger') {key : Option DeduplicationKey}
    (hexisting : ledger'.existing id key = some entry) :
    Admitted keyOf ledger (admissions ++ [⟨id, key, false, idOf entry, keyOf entry⟩]) := by
  refine h.append (fun hfresh => (by cases hfresh)) (fun _ _ _ _ => rfl) ?_
  rcases hcopy.existing_shares hexisting with hid | ⟨k, hk, hkey⟩
  · exact .inl hid
  · exact .inr ⟨k, hkey, hk⟩

lemma Admitted.insert (hindexed : Indexed idOf keyOf ledger)
    (hnew : ledger.existing (idOf entry) (keyOf entry) = none) :
    Admitted keyOf (ledger.insert (idOf entry) (keyOf entry) entry)
      (admissions ++ [⟨idOf entry, keyOf entry, true, idOf entry, keyOf entry⟩]) := by
  have hmono : Admitted keyOf (ledger.insert (idOf entry) (keyOf entry) entry) admissions := by
    refine h.mono (fun id found hfound => ⟨found, ?_, rfl⟩)
    rw [insert_lookup, if_neg (fun hsame => ?_), hfound]
    rw [hsame] at hfound
    cases (existing_eq_none hnew).1.symm.trans hfound
  refine hmono.append (fun _ => ⟨entry, ?_, rfl⟩) (fun b hb hfresh hshares => ?_) (.inl rfl)
  · rw [insert_lookup, if_pos rfl]
  · -- Whatever was admitted as new is still in the table, so it would have been found.
    obtain ⟨found, hfound, hkey⟩ := h.kept b hb hfresh
    refine absurd hnew (hindexed.existing_ne_none hfound ?_)
    rcases hshares with hid | ⟨k, hk, hk'⟩
    · exact .inl hid
    · exact .inr ⟨k, hk', hkey.trans hk⟩

lemma Admitted.update {entry' : ε} (hentry : ledger.entries[id]? = some entry)
    (hkey : keyOf entry' = keyOf entry) : Admitted keyOf (ledger.update id entry') admissions := by
  refine h.mono (fun other found hfound => ?_)
  by_cases hsame : other = id
  · rw [hsame, hentry] at hfound
    cases hfound
    exact ⟨entry', by rw [update_lookup, if_pos hsame], hkey⟩
  · exact ⟨found, by rw [update_lookup, if_neg hsame, hfound], rfl⟩

end

theorem Admitted.answers {α : Type} {admission : α → Admission ι} {answered : List α}
    (h : Admitted keyOf ledger (answered.map admission)) :
    answered.Pairwise (fun earlier later => (admission earlier).fresh = true →
      SharesWork (admission earlier).id (admission earlier).key (admission later).id
        (admission later).key → (admission later).fresh = false ∧
        SharesWork (admission later).foundId (admission later).foundKey (admission later).id
          (admission later).key) := by
  refine (pairwise_map.mp h.once).imp_of_mem (fun _ hlater honce hfresh hshares => ?_)
  exact ⟨honce hfresh hshares, h.found _ (mem_map_of_mem hlater)⟩

end Ledger

def InboxAcceptance.isAccepted : InboxAcceptance → Bool
  | accepted .. => true
  | duplicate .. => false

def InboxAcceptance.entry : InboxAcceptance → InboxEntry
  | accepted entry _ => entry
  | duplicate entry _ => entry

def OutboxAcceptance.isScheduled : OutboxAcceptance → Bool
  | scheduled .. => true
  | duplicate .. => false

def OutboxAcceptance.entry : OutboxAcceptance → OutboxEntry
  | scheduled entry _ => entry
  | duplicate entry _ => entry

def acceptAdmission (p : InboxCommand × InboxAcceptance) : Admission WorkflowMessageId :=
  ⟨p.1.messageId, p.1.deduplicationKey, p.2.isAccepted, p.2.entry.messageId,
    p.2.entry.deduplicationKey⟩

def scheduleAdmission (p : OutboxCommand × OutboxAcceptance) : Admission OutboxMessageId :=
  ⟨p.1.messageId, p.1.deduplicationKey, p.2.isScheduled, p.2.entry.messageId,
    p.2.entry.deduplicationKey⟩

/-- Both tables of the snapshot are indexed. -/
structure WorkflowState.Indexed (state : WorkflowState) : Prop where
  inbox : state.inbox.Indexed InboxEntry.messageId InboxEntry.deduplicationKey
  outbox : state.outbox.Indexed OutboxEntry.messageId OutboxEntry.deduplicationKey

def WorkflowState.Unstored (workflowId : WorkflowId) (state : WorkflowState) : Prop :=
  ∃ now, state = .empty workflowId now

lemma WorkflowState.Unstored.indexed {workflowId : WorkflowId} {state : WorkflowState}
    (h : state.Unstored workflowId) : state.Indexed := by
  obtain ⟨now, rfl⟩ := h
  exact ⟨Ledger.indexed_empty _ _, Ledger.indexed_empty _ _⟩

namespace OutboxTransition

lemma apply_identity (transition : OutboxTransition) (now : ℕ) (entry : OutboxEntry) :
    (transition.apply now entry).messageId = entry.messageId ∧
      (transition.apply now entry).deduplicationKey = entry.deduplicationKey := by
  cases transition with
  | failed =>
    simp only [apply, OutboxEntry.recordFailure]
    split_ifs <;> exact ⟨rfl, rfl⟩
  | _ => exact ⟨rfl, rfl⟩

end OutboxTransition

namespace InboxWorld
variable {κ : Type} [DecidableEq κ] (workflowId : WorkflowId)
variable {w' : InboxWorld κ} {store : InMemoryDurableStateStore WorkflowState}

/-- The versions of the snapshot and the commands answered so far agree. -/
structure Books (history : List (StateRecord WorkflowState)) (w : InboxWorld κ) : Prop where
  fenced : Replicated.Fenced workflowId.persistenceId (WorkflowState.Unstored workflowId) history
    w.shared
  indexed : Replicated.Throughout WorkflowState.Indexed history
  accepts : ∀ state, Replicated.Latest (WorkflowState.Unstored workflowId) history state →
    state.inbox.Admitted InboxEntry.deduplicationKey (w.accepts.map acceptAdmission)
  schedules : ∀ state, Replicated.Latest (WorkflowState.Unstored workflowId) history state →
    state.outbox.Admitted OutboxEntry.deduplicationKey (w.schedules.map scheduleAdmission)

variable {workflowId} {history : List (StateRecord WorkflowState)} {w : InboxWorld κ}

lemma Books.keep (h : Books workflowId history w)
    (hmove : Replicated.Move workflowId.persistenceId (WorkflowState.Unstored workflowId) w.shared
      .none w'.shared) (haccepts : w'.accepts = w.accepts) (hschedules : w'.schedules = w.schedules)
    : ∃ history', Books workflowId history' w' := by
  obtain ⟨history', hextended, hfenced⟩ := h.fenced.move hmove
  cases hextended
  exact ⟨history, hfenced, h.indexed, by rw [haccepts]; exact h.accepts,
    by rw [hschedules]; exact h.schedules⟩

lemma Books.write (h : Books workflowId history w) {client : κ}
    {record : StateRecord WorkflowState} (hcurrent : Current workflowId w client record)
    {next : WorkflowState} (hshared : w'.shared = (w.written workflowId client record next).shared)
    (hnext : record.state.Indexed → next.Indexed) (haccepts : record.state.Indexed →
      record.state.inbox.Admitted InboxEntry.deduplicationKey (w.accepts.map acceptAdmission) →
      next.inbox.Admitted InboxEntry.deduplicationKey (w'.accepts.map acceptAdmission))
    (hschedules : record.state.Indexed → record.state.outbox.Admitted OutboxEntry.deduplicationKey
        (w.schedules.map scheduleAdmission) →
      next.outbox.Admitted OutboxEntry.deduplicationKey (w'.schedules.map scheduleAdmission)) :
    ∃ history', Books workflowId history' w' := by
  obtain ⟨history', hextended, hfenced⟩ := h.fenced.move
    (.written client record next hcurrent.copy hcurrent.expected)
  cases hextended with
  | replaced _ _ hlatest =>
    have hindexed : record.state.Indexed :=
      hlatest.meets (fun _ hunstored => hunstored.indexed) h.indexed
    have heq : ∀ state, Replicated.Latest (WorkflowState.Unstored workflowId)
        (history ++ [⟨next, history.length + 1⟩]) state → state = next := by
      intro state hstate
      rcases hstate with hlast | ⟨hempty, _⟩
      · simpa using hlast.symm
      · simp at hempty
    refine ⟨_, by rw [hshared]; exact hfenced, h.indexed.append (hnext hindexed),
      fun state hstate => ?_, fun state hstate => ?_⟩
    · rw [heq state hstate]
      exact haccepts hindexed (h.accepts _ hlatest)
    · rw [heq state hstate]
      exact hschedules hindexed (h.schedules _ hlatest)

lemma Books.step (h : Books workflowId history w) (op : InboxOp κ)
    (hop : ∀ client policy now, op ≠ .compact client policy now) :
    ∃ history', Books workflowId history' (w.step workflowId op) := by
  have hcases := step_cases workflowId w op
  generalize w.step workflowId op = w' at hcases
  cases hcases with
  | skipped => exact ⟨history, h⟩
  | recovered client now =>
    refine h.keep (.recovered client _ ?_) rfl rfl
    cases hload : w.shared.store.load workflowId.persistenceId with
    | some => exact .inl rfl
    | none => exact .inr ⟨rfl, now, rfl⟩
  | crashed client => exact h.keep (.kept client .new (fun _ hrecord => nomatch hrecord)) rfl rfl
  | refused op client replica hrecord =>
    exact h.keep (.kept client replica (fun _ hsome => hrecord ▸ hsome)) rfl rfl
  | acceptDuplicate client command now record entry hcopy hexisting =>
    have hindexed := h.fenced.copy_meets (fun _ hunstored => hunstored.indexed) h.indexed hcopy
    refine ⟨history, h.fenced, h.indexed, fun state hstate => ?_, h.schedules⟩
    rw [map_append]
    exact (h.accepts state hstate).duplicate hindexed.inbox hexisting
  | accepted client command now record entry hidle hcurrent hnew hentry =>
    subst hentry
    refine h.write hcurrent rfl (fun hindexed => ⟨hindexed.inbox.insert hnew, hindexed.outbox⟩)
      (fun hindexed hadmitted => ?_) (fun _ hadmitted => hadmitted)
    rw [map_append]
    exact hadmitted.insert hindexed.inbox hnew
  | inboxMoved client messageId status now record entry next hidle hcurrent hnext =>
    obtain ⟨found, hfound, hpair⟩ := Option.map_eq_some_iff.mp hnext
    obtain ⟨rfl, rfl⟩ := Prod.mk.inj hpair
    exact h.write hcurrent rfl
      (fun hindexed => ⟨hindexed.inbox.update hfound rfl rfl, hindexed.outbox⟩)
      (fun _ hadmitted => hadmitted.update hfound rfl) (fun _ hadmitted => hadmitted)
  | scheduleDuplicate client command now record entry hcopy hexisting =>
    have hindexed := h.fenced.copy_meets (fun _ hunstored => hunstored.indexed) h.indexed hcopy
    refine ⟨history, h.fenced, h.indexed, h.accepts, fun state hstate => ?_⟩
    rw [map_append]
    exact (h.schedules state hstate).duplicate hindexed.outbox hexisting
  | scheduled client command now record entry hidle hcurrent hnew hentry =>
    subst hentry
    refine h.write hcurrent rfl (fun hindexed => ⟨hindexed.inbox, hindexed.outbox.insert hnew⟩)
      (fun _ hadmitted => hadmitted) (fun hindexed hadmitted => ?_)
    rw [map_append]
    exact hadmitted.insert hindexed.outbox hnew
  | outboxMoved op client messageId transition now loop record entry hcause hcurrent hentry =>
    obtain ⟨hid, hkey⟩ := transition.apply_identity now entry
    exact h.write hcurrent rfl
      (fun hindexed => ⟨hindexed.inbox, hindexed.outbox.update hentry hid hkey⟩)
      (fun _ hadmitted => hadmitted) (fun _ hadmitted => hadmitted.update hentry hkey)
  | dueListed =>
    exact ⟨history, h.fenced, h.indexed, h.accepts, h.schedules⟩
  | compacted client policy now => exact absurd rfl (hop client policy now)

omit [DecidableEq κ] in
lemma init_books (hnone : store.load workflowId.persistenceId = none) :
    Books workflowId [] (init store : InboxWorld κ) := by
  refine ⟨⟨fun _ _ h => (by simp at h), hnone, fun _ _ h => nomatch h⟩,
    fun _ h => absurd h not_mem_nil, fun state _ => Ledger.admitted_nil _,
    fun state _ => Ledger.admitted_nil _⟩

lemma run_books (hnone : store.load workflowId.persistenceId = none) (ops : List (InboxOp κ))
    (hops : ∀ op ∈ ops, ∀ client policy now, op ≠ .compact client policy now) :
    ∃ history, Books workflowId history ((init store).run workflowId ops) :=
  List.foldlRecOn (motive := fun w => ∃ history, Books workflowId history w) ops _
    ⟨[], init_books hnone⟩ (fun _ ⟨_, h⟩ op hmem => h.step op (hops op hmem))

def confirmPayment (id : String) : InboxCommand :=
  ⟨⟨id⟩, some ⟨"payment-9"⟩, "confirm", [1]⟩

end InboxWorld
end Rakka.Workflow
