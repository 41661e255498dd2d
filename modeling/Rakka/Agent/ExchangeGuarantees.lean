import Rakka.Agent.ExchangeNetwork

/-! What a network of exchange hosts keeps in every run: the journals tell the committed events,
every reply is backed by a recorded result or is a refusal, and every settlement came from a
reply. -/

namespace Rakka.Agent
open Foundation Rakka.Persistence AgentExchangeJournal Replicated List

namespace AgentExchangeHost
variable {D : Type} {plan : Except AgentChoreographyError (Plan D)}

lemma decision_answer {result : ExchangeAnswer × List JournalEvent}
    (h : Plan.decision plan = .answer result) :
    ∃ answer, plan = .ok (.keep answer) ∧ result = (answer, []) := by
  rcases plan with error | answer | ⟨next, answer, events⟩
  · cases h
  · cases h
    exact ⟨answer, rfl, rfl⟩
  · cases h

lemma decision_write {next : ExchangeState D}
    {result : StateRecord (ExchangeState D) → ExchangeAnswer × List JournalEvent}
    (h : Plan.decision plan = .write next result) :
    ∃ answer events, plan = .ok (.commit next answer events) ∧
      result = fun _ => (answer, events) := by
  rcases plan with error | answer | ⟨written, answer, events⟩
  · cases h
  · cases h
  · cases h
    exact ⟨answer, events, rfl, rfl⟩

lemma dropped_record {copy : Replica (ExchangeState D)} {record : StateRecord (ExchangeState D)}
    (h : (if copy.stale then Replica.new else copy).record = some record) :
    copy.record = some record := by
  split_ifs at h
  · cases h
  · exact h

variable [DecidableEq D] (host : AgentExchangeHost D)

inductive Performed (call : ExchangeCall D) (replica : Replica (ExchangeState D))
    (store : InMemoryDurableStateStore (ExchangeState D)) :
    Except AgentChoreographyError (ExchangeAnswer × List JournalEvent) ×
      Replica (ExchangeState D) × InMemoryDurableStateStore (ExchangeState D) → Prop
  | refused (error : AgentChoreographyError) (copy : Replica (ExchangeState D))
      (hcopy : ∀ record, copy.record = some record → replica.record = some record) :
      Performed call replica store (.error error, copy, store)
  | answered (answer : ExchangeAnswer) (copy : Replica (ExchangeState D))
      (record : StateRecord (ExchangeState D))
      (hcopy : ∀ record, copy.record = some record → replica.record = some record)
      (hrecord : replica.record = some record)
      (hplan : host.plan call (some record) = .ok (.keep answer)) :
      Performed call replica store (.ok (answer, []), copy, store)
  | written (answer : ExchangeAnswer) (events : List JournalEvent) (next : ExchangeState D)
      (copy : Replica (ExchangeState D)) (record : StateRecord (ExchangeState D))
      (hcopy : ∀ written, copy.record = some written → written = ⟨next, record.revision + 1⟩)
      (hrecord : replica.record = some record)
      (hplan : host.plan call (some record) = .ok (.commit next answer events))
      (hexpected : store.revisionOf host.address.persistenceId = record.revision) :
      Performed call replica store (.ok (answer, events), copy,
        ⟨store.records.insert host.address.persistenceId ⟨next, record.revision + 1⟩⟩)

lemma plan_recovered {call : ExchangeCall D} {record : Option (StateRecord (ExchangeState D))}
    {plan : Plan D} (h : host.plan call record = .ok plan) : ∃ copy, record = some copy := by
  cases record with
  | none => exact absurd h (plan_none call plan)
  | some copy => exact ⟨copy, rfl⟩

lemma perform_performed (call : ExchangeCall D) (replica : Replica (ExchangeState D))
    (store : InMemoryDurableStateStore (ExchangeState D)) :
    host.Performed call replica store (host.perform call (replica, store)) := by
  have hcases := Replica.perform_cases host.address.persistenceId AgentChoreographyError.persistence
    ((replica.record.map StateRecord.revision).getD Revision.initial)
    (Plan.decision (host.plan call replica.record)) replica store
  simp only [perform]
  generalize Replica.perform host.address.persistenceId AgentChoreographyError.persistence
    ((replica.record.map StateRecord.revision).getD Revision.initial)
    (Plan.decision (host.plan call replica.record)) (replica, store) = out at hcases ⊢
  cases hcases with
  | failed error => exact .refused error _ (fun record => dropped_record)
  | lost =>
    exact .refused _ Replica.new (fun record hrecord => (nomatch hrecord))
  | answered result hdecision =>
    obtain ⟨answer, hplan, rfl⟩ := decision_answer hdecision
    obtain ⟨record, hrecord⟩ := host.plan_recovered hplan
    exact .answered answer _ record (fun record => dropped_record) hrecord (hrecord ▸ hplan)
  | written next result hdecision hexpected =>
    obtain ⟨answer, events, hplan, rfl⟩ := decision_write hdecision
    obtain ⟨record, hrecord⟩ := host.plan_recovered hplan
    rw [hrecord] at hplan hexpected ⊢
    refine .written answer events next _ record (fun written hwritten => ?_) hrecord hplan
      hexpected
    exact (Option.some.inj (dropped_record hwritten)).symm

end AgentExchangeHost

namespace ExchangeNetwork
variable {κ D : Type}
variable {resolved : ResolvedExchange} {record : StateRecord (ExchangeState D)} {client : κ}
variable {next : ExchangeNetwork κ D} {receiver : AgentEntityAddress}
  {operationId : AgentOperationId} {envelope : AgentExchangeEnvelope}

def Fresh (state : ExchangeState D) : Prop := state.journal = .new

structure Chronicle (address : AgentEntityAddress) (history : List (StateRecord (ExchangeState D)))
    (events : List JournalEvent) (entity : Replicated κ (ExchangeState D)) : Prop where
  fenced : Fenced address.persistenceId Fresh history entity
  known : Throughout (fun state => ∀ resolved ∈ state.journal.applied,
    JournalEvent.applied resolved ∈ events) history
  current : ∀ state, Latest Fresh history state → Tells events state.journal
  sound : Sound events

variable {address : AgentEntityAddress} {history : List (StateRecord (ExchangeState D))}
  {events : List JournalEvent} {entity : Replicated κ (ExchangeState D)}

lemma Chronicle.copy_known (h : Chronicle address history events entity)
    (hrecord : (entity.replica client).record = some record)
    (hmem : resolved ∈ record.state.journal.applied) : JournalEvent.applied resolved ∈ events := by
  refine h.fenced.copy_meets (fun state hfresh resolved hmem => ?_) h.known hrecord resolved hmem
  rw [hfresh] at hmem
  cases hmem

variable (deployment : Deployment κ D)

/-- A reply tells a result recorded where it was sent, or a refusal that is not recorded. -/
def Backed (w : ExchangeNetwork κ D) (sent : SentReply) : Prop :=
  (∃ resolved, JournalEvent.applied resolved ∈ w.events sent.source ∧
    Resolves resolved sent.reply) ∨
  ∃ client, (deployment.host sent.source client).Refuses sent.reply

def FromReply (w : ExchangeNetwork κ D) (address : AgentEntityAddress)
    (resolved : ResolvedExchange) : Prop :=
  ∃ sent ∈ w.replies, Resolves resolved sent.reply ∧
    ∃ (client : κ) (envelope : AgentExchangeEnvelope),
      envelope.operationId = resolved.operationId ∧
        (deployment.participant address client).checkSettle envelope resolved.result = .ok ()

structure Coherent (w : ExchangeNetwork κ D) : Prop where
  chronicle : ∀ address, ∃ history, Chronicle address history (w.events address) (w.entity address)
  backed : ∀ sent ∈ w.replies, Backed deployment w sent
  settled : ∀ address resolved, JournalEvent.settled resolved ∈ w.events address →
    FromReply deployment w address resolved

lemma init_coherent : Coherent deployment (init : ExchangeNetwork κ D) where
  chronicle address := by
    refine ⟨[], ⟨⟨?_, ?_, ?_⟩, ?_, fun state hlatest => ?_, sound_nil⟩⟩
    · exact fun k version h => (nomatch h)
    · exact Std.ExtTreeMap.getElem?_empty
    · exact fun client record hrecord => (nomatch hrecord)
    · exact fun record hmem => (nomatch hmem)
    · rcases hlatest with hlast | ⟨_, hfresh⟩
      · cases hlast
      · rw [show state.journal = .new from hfresh]
        exact tells_new
  backed := fun sent hmem => (nomatch hmem)
  settled := fun address resolved hmem => (nomatch hmem)

variable {deployment} {w : ExchangeNetwork κ D}

lemma told_events (answer : ExchangeAnswer) (more : List JournalEvent)
    (other : AgentEntityAddress) : (w.told address answer more).events other =
      w.events other ++ if other = address then more else [] := by
  by_cases hother : other = address
  · subst hother
    simp [told]
  · simp [told, hother]

lemma Backed.told {sent : SentReply} (h : Backed deployment w sent) (answer : ExchangeAnswer)
    (more : List JournalEvent) : Backed deployment (w.told address answer more) sent := by
  refine h.imp_left (fun ⟨resolved, hmem, htells⟩ => ⟨resolved, ?_, htells⟩)
  rw [told_events]
  exact mem_append_left _ hmem

lemma FromReply.told {other : AgentEntityAddress} (h : FromReply deployment w other resolved)
    (answer : ExchangeAnswer) (more : List JournalEvent) :
    FromReply deployment (w.told address answer more) other resolved := by
  obtain ⟨sent, hmem, htells⟩ := h
  exact ⟨sent, mem_append_left _ hmem, htells⟩

lemma Coherent.told_of (h : Coherent deployment w) (answer : ExchangeAnswer)
    (more : List JournalEvent) (hevents : next.events = w.events)
    (hreplies : next.replies = w.replies) (hchronicle : ∀ other, ∃ history, Chronicle other history
      ((next.told address answer more).events other) (next.entity other))
    (hreply : ∀ reply, answer = .replied reply →
      Backed deployment (next.told address answer more) ⟨address, reply⟩)
    (hsettled : ∀ resolved, JournalEvent.settled resolved ∈ more →
      FromReply deployment w address resolved) :
    Coherent deployment (next.told address answer more) := by
  have hbacked : ∀ {sent}, Backed deployment w sent → Backed deployment next sent := by
    intro sent hsent
    rwa [Backed, hevents]
  have hfrom : ∀ {other resolved}, FromReply deployment w other resolved →
      FromReply deployment next other resolved := by
    intro other resolved hresolved
    rwa [FromReply, hreplies]
  refine ⟨hchronicle, fun sent hmem => ?_, fun other resolved hmem => ?_⟩
  · rcases mem_append.mp (show sent ∈ next.replies ++ answer.sent address from hmem) with
      hmem | hmem
    · exact (hbacked (h.backed sent (hreplies ▸ hmem))).told answer more
    · cases answer with
      | replied reply =>
        cases mem_singleton.mp hmem
        exact hreply reply rfl
      | initiated | settlement | noted => cases hmem
  · rw [told_events, hevents] at hmem
    rcases mem_append.mp hmem with hold | hnew
    · exact (hfrom (h.settled other resolved hold)).told answer more
    · by_cases hother : other = address
      · rw [if_pos hother] at hnew
        have hnext : FromReply deployment next other resolved := by
          rw [hother]
          exact hfrom (hsettled resolved hnew)
        exact hnext.told answer more
      · rw [if_neg hother] at hnew
        cases hnew

lemma isSent_mono {call : ExchangeCall D} (hreplies : w.replies ⊆ next.replies)
    (h : w.isSent call = true) : next.isSent call = true := by
  cases call with
  | settle =>
    obtain ⟨sent, hmem, hreply⟩ := any_eq_true.mp h
    exact any_eq_true.mpr ⟨sent, hreplies hmem, hreply⟩
  | initiate | accept | recordUnsettleableRefusal | recordDeliveryFailure => rfl

lemma Chronicle.holds (h : Chronicle address history events entity)
    (hrecent : Recent agentExchangeLogCapacity ResolvedExchange.operationId operationId
      (appliedLog events)) (hmem : resolved ∈ appliedLog events)
    (hid : resolved.operationId = operationId) {state : ExchangeState D}
    (hlatest : Latest Fresh history state) :
    findResolved state.journal.applied operationId = some resolved := by
  have happlied := (h.current state hlatest).applied
  have hwindow := hrecent.mem_window hmem hid
  rw [← happlied] at hwindow
  cases hfind : findResolved state.journal.applied operationId with
  | none => exact absurd hid (findResolved_eq_none.mp hfind resolved hwindow)
  | some =>
    obtain ⟨hfound, hfoundId⟩ := findResolved_some hfind
    rw [happlied] at hfound
    exact congrArg some (h.sound.spaced.eq_of_mem hrecent (mem_of_mem_window hfound) hmem hfoundId
      hid)

lemma Chronicle.stored_latest (h : Chronicle address history events entity)
    (hload : entity.store.load address.persistenceId = some record) :
    Latest Fresh history record.state := by
  left
  rw [← h.fenced.latest, hload]
  rfl

variable [DecidableEq κ]

lemma Chronicle.written (h : Chronicle address history events entity)
    {copy : Replica (ExchangeState D)} {next : ExchangeState D} {more : List JournalEvent}
    (hrecord : (entity.replica client).record = some record)
    (hexpected : entity.store.revisionOf address.persistenceId = record.revision)
    (hjournal : Rewritten record.state.journal more next.journal)
    (hcopy : ∀ written, copy.record = some written → written = ⟨next, record.revision + 1⟩) :
    ∃ history', Chronicle address history' (events ++ more) (Replicated.set
      ⟨⟨entity.store.records.insert address.persistenceId ⟨next, record.revision + 1⟩⟩,
        entity.replica⟩ client copy) := by
  have hlength : record.revision = history.length := hexpected.symm.trans h.fenced.revisionOf
  have htells := h.current _ (h.fenced.copy_latest hrecord hexpected)
  obtain ⟨hnext, hsound⟩ := hjournal.tells_sound htells h.sound
  refine ⟨history ++ [⟨next, history.length + 1⟩], ?_, ?_, fun state hlatest => ?_, hsound⟩
  · rw [hlength] at hcopy ⊢
    refine (h.fenced.insert next).set client copy (fun written hwritten => ?_)
    rw [hcopy written hwritten]
    exact Revisions.authentic_append_self history _
  · have hold : Throughout (fun state : ExchangeState D => ∀ resolved ∈ state.journal.applied,
        JournalEvent.applied resolved ∈ events ++ more) history :=
      fun version hversion resolved hmem =>
        mem_append_left _ (h.known version hversion resolved hmem)
    refine hold.append (fun resolved hmem => ?_)
    rw [hnext.applied] at hmem
    exact mem_appliedLog.mp (mem_of_mem_window hmem)
  · rcases hlatest with hlast | ⟨hempty, _⟩
    · rw [List.getLast?_append, List.getLast?_singleton, Option.some_or] at hlast
      cases hlast
      exact hnext
    · simp at hempty

section
variable (h : Coherent deployment w) (client : κ)
include h

lemma Coherent.setHost (copy : Replica (ExchangeState D))
    (hcopy : ∀ history, Chronicle address history (w.events address) (w.entity address) →
      ∀ record, copy.record = some record → Revisions.Authentic StateRecord.revision
        (fun record => Fresh record.state) history record) :
    Coherent deployment (w.setHost address client (copy, (w.entity address).store)) := by
  refine ⟨fun other => ?_, h.backed, h.settled⟩
  obtain ⟨history, hchronicle⟩ := h.chronicle other
  refine ⟨history, ?_⟩
  by_cases hother : other = address
  · subst hother
    simp only [ExchangeNetwork.setHost, Function.update_self]
    exact ⟨hchronicle.fenced.set client copy (hcopy history hchronicle), hchronicle.known,
      hchronicle.current, hchronicle.sound⟩
  · simp only [ExchangeNetwork.setHost, Function.update_of_ne hother]
    exact hchronicle

lemma Coherent.kept (copy : Replica (ExchangeState D))
    (hcopy : ∀ record, copy.record = some record →
      ((w.entity address).replica client).record = some record) :
    Coherent deployment (w.setHost address client (copy, (w.entity address).store)) :=
  h.setHost client copy (fun _ hchronicle record hrecord =>
    hchronicle.fenced.copies client record (hcopy record hrecord))

lemma Coherent.recover (now : ℕ) :
    Coherent deployment (w.setHost address client ((deployment.host address client).recover now
      ((w.entity address).replica client, (w.entity address).store)).2) := by
  have hsame := h.kept client ((w.entity address).replica client) (fun _ hrecord => hrecord)
  simp only [AgentExchangeHost.recover]
  split
  · refine h.setHost client _ (fun history _ record hrecord => .inl ?_)
    cases hrecord
    exact ⟨rfl, rfl⟩
  · rename_i stored hload
    split
    · exact hsame
    · split
      · exact hsame
      · refine h.setHost client _ (fun history hchronicle record hrecord => .inr ?_)
        cases hrecord
        have hlatest := hchronicle.fenced.latest.symm.trans hload
        rw [List.getLast?_eq_getElem?] at hlatest
        exact ⟨_, hlatest⟩

end

/-- A call that commits nothing at its address. -/
def Unwritten (w : ExchangeNetwork κ D) (address : AgentEntityAddress)
    (out : Except AgentChoreographyError ExchangeAnswer × ExchangeNetwork κ D) : Prop :=
  (out.2.entity address).store = (w.entity address).store ∧
    out.2.events address = w.events address

lemma unwritten_of_events (client : κ) (copy : Replica (ExchangeState D))
    (answer : ExchangeAnswer) : w.Unwritten address (.ok answer,
      (w.setHost address client (copy, (w.entity address).store)).told address answer []) := by
  constructor
  · simp [ExchangeNetwork.setHost, ExchangeNetwork.told, Replicated.set]
  · rw [told_events, ite_self, append_nil]
    rfl

lemma unwritten_of_error (client : κ) (copy : Replica (ExchangeState D))
    (error : AgentChoreographyError) : w.Unwritten address
      (.error error, w.setHost address client (copy, (w.entity address).store)) :=
  ⟨by simp [ExchangeNetwork.setHost, Replicated.set], rfl⟩

variable [DecidableEq D]

lemma Coherent.ask (h : Coherent deployment w) (client : κ) (call : ExchangeCall D)
    (hsent : w.isSent call = true) :
    Coherent deployment (w.ask deployment address client call).2 := by
  have hcases := (deployment.host address client).perform_performed call
    ((w.entity address).replica client) (w.entity address).store
  rw [ExchangeNetwork.ask]
  generalize (deployment.host address client).perform call
    ((w.entity address).replica client, (w.entity address).store) = out at hcases ⊢
  obtain ⟨history, hchronicle⟩ := h.chronicle address
  cases hcases with
  | refused error copy hcopy => exact h.kept client copy hcopy
  | answered answer copy record hcopy hrecord hplan =>
    have hkept := h.kept client copy hcopy
    have hplanned := AgentExchangeHost.plan_planned hplan
    refine h.told_of answer [] rfl rfl (fun other => ?_) (fun reply hreply => ?_)
      (fun resolved hmem => (nomatch hmem))
    · have hnone : ((w.setHost address client (copy, (w.entity address).store)).told address
          answer []).events other = w.events other := by
        rw [told_events, ite_self, append_nil]
        rfl
      rw [hnone]
      exact hkept.chronicle other
    · cases hplanned with
      | kept _ hanswer =>
        rcases hanswer reply hreply with ⟨resolved, hmem, htells⟩ | hrefuses
        · refine .inl ⟨resolved, ?_, htells⟩
          rw [told_events]
          exact mem_append_left _ (hchronicle.copy_known hrecord hmem)
        · exact .inr ⟨client, hrefuses⟩
  | written answer more next copy record hcopy hrecord hplan hexpected =>
    have hplanned := AgentExchangeHost.plan_planned hplan
    cases hplanned with
    | committed _ _ _ hjournal hanswer hsettled =>
      refine h.told_of answer more rfl rfl (fun other => ?_) (fun reply hreply => ?_)
        (fun resolved hmem => ?_)
      · rw [told_events]
        by_cases hother : other = address
        · subst hother
          simp only [ExchangeNetwork.setHost, Function.update_self, if_true]
          exact hchronicle.written hrecord hexpected hjournal hcopy
        · simp only [ExchangeNetwork.setHost, Function.update_of_ne hother, if_neg hother,
            append_nil]
          exact h.chronicle other
      · rcases hanswer reply hreply with ⟨resolved, hmem, htells⟩ | hrefuses
        · refine .inl ⟨resolved, ?_, htells⟩
          rw [told_events, if_pos rfl]
          exact mem_append_right _ hmem
        · exact .inr ⟨client, hrefuses⟩
      · obtain ⟨reply, now, rfl, htells, envelope, hid, hcheck⟩ := hsettled resolved hmem
        obtain ⟨sent, hmem, hreply⟩ := any_eq_true.mp hsent
        rw [decide_eq_true_eq] at hreply
        exact ⟨sent, hmem, hreply ▸ htells, client, envelope, hid, hcheck⟩

lemma Coherent.step (h : Coherent deployment w) (op : NetworkOp κ D) :
    Coherent deployment (w.step deployment op) := by
  cases op with
  | crash address client => exact h.kept client .new (fun _ hrecord => (nomatch hrecord))
  | recover address client now => exact h.recover client now
  | call address client call =>
    rw [ExchangeNetwork.step]
    split_ifs with hsent
    · exact h.ask client call hsent
    · exact h

lemma run_coherent (deployment : Deployment κ D) (ops : List (NetworkOp κ D)) :
    Coherent deployment (run deployment ops) :=
  List.foldlRecOn (motive := Coherent deployment) ops (ExchangeNetwork.step deployment)
    (init_coherent deployment) (fun _ h op _ => h.step op)

section
variable (deployment : Deployment κ D) (w : ExchangeNetwork κ D) (address : AgentEntityAddress)
  (client : κ)

lemma ask_entity (call : ExchangeCall D) : (w.ask deployment address client call).2.entity =
    (w.setHost address client ((deployment.host address client).perform call
      ((w.entity address).replica client, (w.entity address).store)).2).entity := by
  simp only [ExchangeNetwork.ask]
  split <;> rfl

lemma ask_replies (call : ExchangeCall D) :
    w.replies ⊆ (w.ask deployment address client call).2.replies := by
  simp only [ExchangeNetwork.ask]
  split
  · exact List.Subset.refl _
  · exact subset_append_left _ _

lemma calls_entity (calls : List (ExchangeCall D)) (hsent : ∀ call ∈ calls, w.isSent call = true) :
    (((calls.map (NetworkOp.call address client)).foldl (ExchangeNetwork.step deployment)
      w).entity address) =
      ((w.setHost address client ((deployment.host address client).performAll calls
        ((w.entity address).replica client, (w.entity address).store))).entity address) := by
  induction calls generalizing w with
  | nil => simp [ExchangeNetwork.setHost, Replicated.set, AgentExchangeHost.performAll]
  | cons call rest ih =>
    obtain ⟨hcall, hrest⟩ := forall_mem_cons.mp hsent
    have hstep : w.step deployment (.call address client call) =
        (w.ask deployment address client call).2 := if_pos hcall
    rw [map_cons, foldl_cons, hstep,
      ih _ (fun other hmem => isSent_mono (ask_replies deployment w address client call)
        (hrest other hmem))]
    simp [ExchangeNetwork.setHost, ask_entity, Replicated.set, AgentExchangeHost.performAll]

end

def Behind (w : ExchangeNetwork κ D) (address : AgentEntityAddress) (client : κ) : Prop :=
  ((w.entity address).replica client).record ≠ (w.entity address).store.load address.persistenceId

/-- What the receiver does not record the initiator does not settle. -/
def Agrees (deployment : Deployment κ D) (operationId : AgentOperationId)
    (receiver initiator : AgentEntityAddress) : Prop :=
  ∀ (client other : κ) (envelope owed : AgentExchangeEnvelope) (result : AgentExchangeResult),
    envelope.operationId = operationId → owed.operationId = operationId →
    (deployment.host receiver client).settles envelope result = false →
    (deployment.participant initiator other).checkSettle owed result ≠ .ok ()

def Deliverable (host : AgentExchangeHost D) (envelope : AgentExchangeEnvelope) : Prop :=
  host.policy.checkRecord .exchangeEnvelope envelope.schemaVersion = .ok () ∧
    envelope.validate = .ok () ∧ envelope.target = host.address

/-- One operation is applied once and every party learns the one result. -/
structure ResolvedOnce (deployment : Deployment κ D) (w : ExchangeNetwork κ D)
    (receiver : AgentEntityAddress) (operationId : AgentOperationId) : Prop where
  appliedOnce : ∀ (i j : ℕ) (first second : ResolvedExchange),
    (appliedLog (w.events receiver))[i]? = some first →
    (appliedLog (w.events receiver))[j]? = some second →
    first.operationId = operationId → second.operationId = operationId → i = j
  redelivered : ∀ resolved ∈ appliedLog (w.events receiver), resolved.operationId = operationId →
    ∀ (client : κ) (envelope : AgentExchangeEnvelope) (now : ℕ),
    envelope.operationId = operationId →
    let out := w.ask deployment receiver client (.accept envelope now)
    w.Unwritten receiver out ∧
    (∀ reply, out.1 = .ok (.replied reply) → reply.result = resolved.result ∨
      w.Behind receiver client ∧ (deployment.host receiver client).Refuses reply) ∧
    (¬ w.Behind receiver client → Deliverable (deployment.host receiver client) envelope →
      envelope.kind = resolved.kind →
      out.1 = .ok (.replied (.replayed envelope resolved.result now)))
  settledResult : ∀ (initiator : AgentEntityAddress) (settled : ResolvedExchange),
    JournalEvent.settled settled ∈ w.events initiator → settled.operationId = operationId →
    Agrees deployment operationId receiver initiator →
    ∃ resolved ∈ appliedLog (w.events receiver), resolved.operationId = operationId ∧
      resolved.kind = settled.kind ∧ resolved.result = settled.result
  settledOnce : ∀ (initiator : AgentEntityAddress) (i j : ℕ) (first second : ResolvedExchange),
    i < j → (w.events initiator)[i]? = some (.settled first) →
    (w.events initiator)[j]? = some (.settled second) → first.operationId = operationId →
    second.operationId = operationId →
    ∃ k, i < k ∧ k < j ∧ (w.events initiator)[k]? = some (.recorded operationId)
  duplicateReply : ∀ (initiator : AgentEntityAddress) (client : κ) (reply : AgentExchangeReply)
    (now : ℕ) (record : StateRecord (ExchangeState D)),
    ((w.entity initiator).replica client).record = some record →
    reply.operationId = operationId → operationId ∉ record.state.journal.pendingIds →
    w.Unwritten initiator (w.ask deployment initiator client (.settle reply now))

lemma accept_replays {host : AgentExchangeHost D} (now : ℕ)
    (hdeliverable : Deliverable host envelope)
    (hfind : findResolved record.state.journal.applied envelope.operationId = some resolved)
    (hkind : envelope.kind = resolved.kind) : host.plan (.accept envelope now) (some record) =
      .ok (.keep (.replied (.replayed envelope resolved.result now))) := by
  obtain ⟨hpolicy, hvalid, htarget⟩ := hdeliverable
  have hresult : record.state.journal.appliedResult envelope.operationId envelope.kind =
      .ok (some resolved.result) := by
    rw [appliedResult, hfind]
    simp only [checkKind, ensure, hkind, if_true]
    rfl
  have hrouted : ensure (envelope.target = host.address)
      (AgentChoreographyError.misrouted envelope.target host.address) = .ok () :=
    ensure_eq_ok.mpr htarget
  refine bind_eq_ok.mpr ⟨(), hpolicy, bind_eq_ok.mpr ⟨(), hvalid, bind_eq_ok.mpr ⟨(), hrouted, ?_⟩⟩⟩
  exact bind_eq_ok.mpr ⟨record, rfl, bind_eq_ok.mpr ⟨some resolved.result, hresult, rfl⟩⟩

section
variable (h : Coherent deployment w)
  (hrecent : Recent agentExchangeLogCapacity ResolvedExchange.operationId operationId
    (appliedLog (w.events receiver))) (hmem : resolved ∈ appliedLog (w.events receiver))
  (hid : resolved.operationId = operationId) (henvelope : envelope.operationId = operationId)
include h hrecent hmem hid henvelope

lemma Coherent.redelivered (client : κ) (now : ℕ) :
    let out := w.ask deployment receiver client (.accept envelope now)
    w.Unwritten receiver out ∧
    ∀ reply, out.1 = .ok (.replied reply) → reply.result = resolved.result ∨
      w.Behind receiver client ∧ (deployment.host receiver client).Refuses reply := by
  have hcases := (deployment.host receiver client).perform_performed (.accept envelope now)
    ((w.entity receiver).replica client) (w.entity receiver).store
  obtain ⟨history, hchronicle⟩ := h.chronicle receiver
  simp only [ExchangeNetwork.ask]
  generalize (deployment.host receiver client).perform (.accept envelope now)
    ((w.entity receiver).replica client, (w.entity receiver).store) = out at hcases ⊢
  cases hcases with
  | refused error copy =>
    exact ⟨unwritten_of_error client copy error, fun reply hreply => (nomatch hreply)⟩
  | answered answer copy record hcopy hrecord hplan =>
    refine ⟨unwritten_of_events client copy answer, fun reply hreply => ?_⟩
    cases hreply
    rcases AgentExchangeHost.accept_cases hplan with ⟨found, hfind, _, hreplied⟩ | ⟨hfresh, hrun⟩
    · -- the copy answers from its journal, and what it holds was committed
      left
      cases hreplied
      obtain ⟨hfound, hfoundId⟩ := findResolved_some hfind
      have hcommitted := mem_appliedLog.mpr (hchronicle.copy_known hrecord hfound)
      have hsame := hchronicle.sound.spaced.eq_of_mem hrecent hcommitted hmem
        (hfoundId.trans henvelope) hid
      exact congrArg ResolvedExchange.result hsame
    · obtain ⟨result, ⟨hrefused, hreplied⟩ | ⟨_, _, hcommit, _⟩⟩ := hrun
      · cases hreplied
        refine .inr ⟨fun hcurrent => ?_, envelope, rfl, rfl, hrefused⟩
        have hload : (w.entity receiver).store.load receiver.persistenceId = some record :=
          hcurrent.symm.trans hrecord
        have hheld := hchronicle.holds hrecent hmem hid (hchronicle.stored_latest hload)
        rw [henvelope, hheld] at hfresh
        cases hfresh
      · cases hcommit
  | written answer more next copy record hcopy hrecord hplan hexpected =>
    -- a write would have been decided on the latest version, which holds the result
    exfalso
    have hheld := hchronicle.holds hrecent hmem hid
      (hchronicle.fenced.copy_latest hrecord hexpected)
    rcases AgentExchangeHost.accept_cases hplan with ⟨_, _, _, hreplied⟩ | ⟨hfresh, _⟩
    · cases hreplied
    · rw [henvelope, hheld] at hfresh
      cases hfresh

lemma Coherent.replays (client : κ) (now : ℕ) (hcurrent : ¬ w.Behind receiver client)
    (hdeliverable : Deliverable (deployment.host receiver client) envelope)
    (hkind : envelope.kind = resolved.kind) :
    (w.ask deployment receiver client (.accept envelope now)).1 =
      .ok (.replied (.replayed envelope resolved.result now)) := by
  obtain ⟨history, hchronicle⟩ := h.chronicle receiver
  have hcopy : ((w.entity receiver).replica client).record =
      (w.entity receiver).store.load receiver.persistenceId := not_not.mp hcurrent
  cases hload : (w.entity receiver).store.load receiver.persistenceId with
  | none =>
    -- nothing was applied where nothing was written
    have hempty : history = [] :=
      List.getLast?_eq_none_iff.mp (hchronicle.fenced.latest.symm.trans hload)
    let state : ExchangeState D :=
      ⟨(deployment.participant receiver client).initializeState receiver now, .new⟩
    have hheld := hchronicle.holds hrecent hmem hid
      (show Latest Fresh history state from .inr ⟨hempty, rfl⟩)
    cases hheld
  | some =>
    rw [hload] at hcopy
    have hheld := hchronicle.holds hrecent hmem hid (hchronicle.stored_latest hload)
    have hplan := accept_replays now hdeliverable (henvelope ▸ hheld) hkind
    simp only [ExchangeNetwork.ask, AgentExchangeHost.perform, hcopy, hplan, Plan.decision,
      Replica.perform]

end

lemma Coherent.duplicateReply (w : ExchangeNetwork κ D) (deployment : Deployment κ D)
    {initiator : AgentEntityAddress} {reply : AgentExchangeReply} (now : ℕ)
    (hrecord : ((w.entity initiator).replica client).record = some record)
    (howed : reply.operationId ∉ record.state.journal.pendingIds) :
    w.Unwritten initiator (w.ask deployment initiator client (.settle reply now)) := by
  have hcases := (deployment.host initiator client).perform_performed (.settle reply now)
    ((w.entity initiator).replica client) (w.entity initiator).store
  simp only [ExchangeNetwork.ask]
  generalize (deployment.host initiator client).perform (.settle reply now)
    ((w.entity initiator).replica client, (w.entity initiator).store) = out at hcases ⊢
  cases hcases with
  | refused error copy => exact unwritten_of_error client copy error
  | answered answer copy => exact unwritten_of_events client copy answer
  | written answer more next copy other hcopy hother hplan =>
    cases hrecord.symm.trans hother
    exact absurd (AgentExchangeHost.settle_commit_owed hplan) howed

/-- A board that takes notices once it was created, and the run that sends them. -/
def boardAddress : AgentEntityAddress := .team ⟨"acme", "board"⟩

def senderAddress : AgentEntityAddress := .run ⟨"acme", "scout", "run"⟩

def notCreated : AgentExchangeResult := ⟨.rejected "team-not-created" "no board", ⟨"empty", []⟩⟩

def taken : AgentExchangeResult := ⟨.accepted, ⟨"empty", []⟩⟩

/-- The domain is whether the entity was created. -/
def boardParticipant : AgentExchangeParticipant Bool where
  initializeState _ _ := false
  checkSchema _ _ := .ok ()
  apply state envelope _ :=
    if envelope.kind = .creation ∨ state.domain then (⟨true, []⟩, ⟨taken, []⟩)
    else (⟨false, []⟩, ⟨notCreated, []⟩)
  checkSettle envelope result :=
    if result = notCreated then .error (.unsettleableRefusal envelope.kind "team-not-created")
    else .ok ()
  settle state _ _ _ := (⟨state.domain, []⟩, [])
  sealState _ after _ := after.domain

def lenientParticipant : AgentExchangeParticipant Bool :=
  { boardParticipant with checkSettle := fun _ _ => .ok () }

def firstSchema : AgentSchemaPolicy := ⟨fun _ => ⟨1, 1⟩⟩

def boardDeployment (sender : AgentExchangeParticipant Bool) : Deployment (Fin 2) Bool where
  participant address _ := if address = senderAddress then sender else boardParticipant
  policy _ _ := firstSchema

def boardEnvelope (operationId : AgentOperationId) (kind : AgentExchangeKind) :
    AgentExchangeEnvelope :=
  ⟨1, operationId, kind, senderAddress, boardAddress, ⟨"command", []⟩, "correlation", 0⟩

def createBoard : AgentExchangeEnvelope := boardEnvelope ⟨"create"⟩ .creation

def noticeBoard : AgentExchangeEnvelope := boardEnvelope ⟨"notice"⟩ .teamTerminalNotice

/-- The notice is owed, and the second host recovers before the first one creates the board. -/
def noticeApplied : List (NetworkOp (Fin 2) Bool) :=
  [.recover senderAddress 0 0,
    .call senderAddress 0 (.initiate (fun state => .ok (⟨state.domain, []⟩, [noticeBoard])) 0),
    .recover boardAddress 1 0, .recover boardAddress 0 0,
    .call boardAddress 0 (.accept createBoard 1), .call boardAddress 0 (.accept noticeBoard 2)]

end ExchangeNetwork
end Rakka.Agent
