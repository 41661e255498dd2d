import Rakka.Agent.ExchangeHost

/-! What a planned call can be: how it rewrites the journal, which replies it sends and what it
settles. -/

namespace Rakka.Agent
open Foundation Rakka.Persistence AgentExchangeJournal List
variable {envelopes : List AgentExchangeEnvelope} {initiations : List AgentExchangeInitiation}

def Resolves (resolved : ResolvedExchange) (reply : AgentExchangeReply) : Prop :=
  resolved.operationId = reply.operationId ∧ resolved.kind = reply.kind ∧
    resolved.result = reply.result

namespace AgentExchangeJournal
variable {journal next : AgentExchangeJournal}
variable {now : ℕ} {operationId : AgentOperationId}
variable {kind : AgentExchangeKind}

lemma initiate_cases {envelope : AgentExchangeEnvelope} {initiation : AgentExchangeInitiation}
    (h : journal.initiate envelope now = .ok (next, initiation)) :
    initiation = .recorded ∧ Changed journal [.recorded envelope.operationId] next ∨
      initiation ≠ .recorded ∧ next = journal := by
  rw [initiate, bind_eq_ok] at h
  obtain ⟨_, _, h⟩ := h
  split at h
  · obtain ⟨_, _, h⟩ := bind_eq_ok.mp h
    cases h
    exact .inr ⟨nofun, rfl⟩
  · split at h
    · obtain ⟨_, _, h⟩ := bind_eq_ok.mp h
      cases h
      exact .inr ⟨nofun, rfl⟩
    · rename_i hpending
      obtain ⟨_, _, h⟩ := bind_eq_ok.mp h
      cases h
      have hfresh := pendingExchange_eq_none.mp hpending
      exact .inl ⟨rfl, .recorded ⟨envelope, 0, now, none, none⟩ hfresh⟩

lemma withdrawAll_rewritten (journal : AgentExchangeJournal)
    (operationIds : List AgentOperationId) :
    Rewritten journal (operationIds.map .withdrawn) (journal.withdrawAll operationIds) := by
  induction operationIds generalizing journal with
  | nil => exact .refl
  | cons operationId rest ih =>
    have hfirst : Rewritten journal [.withdrawn operationId] (journal.withdraw operationId) :=
      (Changed.withdrawn operationId).rewritten
    exact hfirst.trans (ih (journal.withdraw operationId))

lemma withdrawAll_applied (journal : AgentExchangeJournal) (operationIds : List AgentOperationId) :
    (journal.withdrawAll operationIds).applied = journal.applied := by
  induction operationIds generalizing journal with
  | nil => rfl
  | cons operationId rest ih => exact ih (journal.withdraw operationId)

lemma noteFailure_ids {code : String} {pending noted : List PendingExchange}
    (h : noteFailure operationId code now pending = some noted) :
    noted.map (fun pending => pending.envelope.operationId) =
      pending.map (fun pending => pending.envelope.operationId) := by
  induction pending generalizing noted with
  | nil => cases h
  | cons first rest ih =>
    rw [noteFailure] at h
    split_ifs at h with hfirst hcode
    · cases h
      rfl
    · obtain ⟨tail, htail, rfl⟩ := Option.map_eq_some_iff.mp h
      rw [map_cons, map_cons, ih htail]

lemma settle_cases {result : AgentExchangeResult} {settlement : AgentExchangeSettlement}
    (h : journal.settle operationId kind result now = .ok (next, settlement)) :
    (∃ envelope, settlement = .settled envelope result ∧ envelope.operationId = operationId ∧
      Changed journal [.settled ⟨operationId, kind, result, now⟩] next) ∨
      (∀ envelope result, settlement ≠ .settled envelope result) ∧ next = journal := by
  rw [settle] at h
  split at h
  · obtain ⟨_, _, h⟩ := bind_eq_ok.mp h
    cases h
    exact .inr ⟨fun _ _ => by simp, rfl⟩
  · split at h
    · cases h
      exact .inr ⟨fun _ _ => by simp, rfl⟩
    · rename_i pending hpending
      obtain ⟨_, _, h⟩ := bind_eq_ok.mp h
      cases h
      have hmem := mem_of_find?_eq_some hpending
      have hid : pending.envelope.operationId = operationId := by simpa using find?_some hpending
      have howed : operationId ∈ journal.pendingIds := mem_map.mpr ⟨pending, hmem, hid⟩
      exact .inl ⟨pending.envelope, rfl, hid, .settled ⟨operationId, kind, result, now⟩ howed⟩

lemma appliedResult_cases {answer : Option AgentExchangeResult}
    (h : journal.appliedResult operationId kind = .ok answer) :
    findResolved journal.applied operationId = none ∧ answer = none ∨
      ∃ resolved, findResolved journal.applied operationId = some resolved ∧
        resolved.kind = kind ∧ answer = some resolved.result := by
  rw [appliedResult] at h
  split at h
  · cases h
    exact .inl ⟨‹_›, rfl⟩
  · rename_i resolved hfind
    obtain ⟨_, hkind, h⟩ := bind_eq_ok.mp h
    cases h
    exact .inr ⟨resolved, hfind, ensure_eq_ok.mp hkind, rfl⟩

end AgentExchangeJournal

lemma recordedEvents_push (hlength : envelopes.length = initiations.length)
    (envelope : AgentExchangeEnvelope) (initiation : AgentExchangeInitiation) :
    recordedEvents (envelopes ++ [envelope]) (initiations ++ [initiation]) =
      recordedEvents envelopes initiations ++
        if initiation = .recorded then [.recorded envelope.operationId] else [] := by
  rw [recordedEvents, zip_append hlength, filterMap_append]
  congr 1
  simp only [zip_cons_cons, zip_nil_right, filterMap_cons, filterMap_nil]
  split_ifs <;> rfl

lemma mem_recordedEvents {event : JournalEvent} (h : event ∈ recordedEvents envelopes initiations)
    : ∃ operationId, event = .recorded operationId := by
  obtain ⟨⟨envelope, initiation⟩, _, hevent⟩ := mem_filterMap.mp h
  dsimp only at hevent
  split_ifs at hevent
  exact ⟨_, (Option.some.inj hevent).symm⟩

namespace AgentExchangeHost
variable {D : Type} {host : AgentExchangeHost D}
variable {now : ℕ} {record : StateRecord (ExchangeState D)} {plan : Plan D}
variable {reply : AgentExchangeReply}

lemma recordOwed_rewritten {journal next : AgentExchangeJournal}

    (h : host.recordOwed journal envelopes now = .ok (next, initiations)) :
    Rewritten journal (recordedEvents envelopes initiations) next := by
  -- the exchanges recorded so far are those of the envelopes already seen
  let Kept : List AgentExchangeEnvelope →
      AgentExchangeJournal × List AgentExchangeInitiation → Prop := fun done out =>
    done.length = out.2.length ∧ Rewritten journal (recordedEvents done out.2) out.1
  have hkept : Kept ([] ++ envelopes) (next, initiations) := by
    refine foldlM_invariant ?_ (show Kept [] (journal, []) from ⟨rfl, .refl⟩) h
    rintro done ⟨middle, before⟩ envelope ⟨last, after⟩ ⟨hlength, hrun⟩ hstep
    obtain ⟨_, _, hstep⟩ := bind_eq_ok.mp hstep
    obtain ⟨⟨recorded, initiation⟩, hinitiate, hstep⟩ := bind_eq_ok.mp hstep
    cases hstep
    refine ⟨by simp only [length_append, length_singleton, hlength], ?_⟩
    rw [recordedEvents_push hlength]
    rcases initiate_cases hinitiate with ⟨rfl, hchange⟩ | ⟨hother, rfl⟩
    · rw [if_pos rfl]
      exact hrun.tail hchange
    · rw [if_neg hother, append_nil]
      exact hrun
  exact hkept.2

variable (host) in
def Refuses (reply : AgentExchangeReply) : Prop :=
  ∃ envelope : AgentExchangeEnvelope, envelope.operationId = reply.operationId ∧
    envelope.kind = reply.kind ∧ host.settles envelope reply.result = false

variable (host) in
/-- The call settles the exchange with the reply it was given, and the participant let it pass. -/
def Settles (call : ExchangeCall D) (resolved : ResolvedExchange) : Prop :=
  ∃ reply now, call = .settle reply now ∧ Resolves resolved reply ∧
    ∃ envelope : AgentExchangeEnvelope, envelope.operationId = resolved.operationId ∧
      host.participant.checkSettle envelope resolved.result = .ok ()

variable (host) in
inductive Planned (call : ExchangeCall D) (journal : AgentExchangeJournal) : Plan D → Prop
  | kept (answer : ExchangeAnswer)
      (hreply : ∀ reply, answer = .replied reply →
        (∃ resolved ∈ journal.applied, Resolves resolved reply) ∨ host.Refuses reply) :
      Planned call journal (.keep answer)
  | committed (next : ExchangeState D) (answer : ExchangeAnswer) (events : List JournalEvent)
      (hjournal : Rewritten journal events next.journal)
      (hreply : ∀ reply, answer = .replied reply →
        (∃ resolved, .applied resolved ∈ events ∧ Resolves resolved reply) ∨ host.Refuses reply)
      (hsettled : ∀ resolved, .settled resolved ∈ events → host.Settles call resolved) :
      Planned call journal (.commit next answer events)

lemma initiate_planned {transition : ExchangeState D →
      Except AgentChoreographyError (DomainChange D × List AgentExchangeEnvelope)}
    (h : host.initiate transition now (some record) = .ok plan) :
    host.Planned (.initiate transition now) record.state.journal plan := by
  obtain ⟨_, hrecord, h⟩ := bind_eq_ok.mp h
  cases hrecord
  obtain ⟨⟨change, envelopes⟩, _, h⟩ := bind_eq_ok.mp h
  obtain ⟨⟨journal, initiations⟩, howed, h⟩ := bind_eq_ok.mp h
  cases h
  refine .committed _ _ _ ?_ nofun (fun resolved hmem => ?_)
  · exact (withdrawAll_rewritten _ _).trans (recordOwed_rewritten howed)
  · rcases mem_append.mp hmem with hmem | hmem
    · simp at hmem
    · obtain ⟨_, hevent⟩ := mem_recordedEvents hmem
      cases hevent

lemma settle_planned (h : host.settle reply now (some record) = .ok plan) :
    host.Planned (.settle reply now) record.state.journal plan := by
  obtain ⟨_, _, h⟩ := bind_eq_ok.mp h
  obtain ⟨_, _, h⟩ := bind_eq_ok.mp h
  obtain ⟨_, hrecord, h⟩ := bind_eq_ok.mp h
  cases hrecord
  obtain ⟨⟨journal, settlement⟩, hsettle, h⟩ := bind_eq_ok.mp h
  rcases settle_cases hsettle with ⟨envelope, rfl, hid, hchange⟩ | ⟨hother, rfl⟩
  · obtain ⟨_, hcheck, h⟩ := bind_eq_ok.mp h
    obtain ⟨⟨last, initiations⟩, howed, h⟩ := bind_eq_ok.mp h
    cases h
    have hrest := (withdrawAll_rewritten journal _).trans (recordOwed_rewritten howed)
    refine .committed _ _ _ (hchange.rewritten.trans hrest) nofun (fun resolved hmem => ?_)
    rcases mem_cons.mp hmem with hfirst | hmem
    · cases hfirst
      exact ⟨reply, now, rfl, ⟨rfl, rfl, rfl⟩, envelope, hid, hcheck⟩
    · rcases mem_append.mp hmem with hmem | hmem
      · simp at hmem
      · obtain ⟨_, hevent⟩ := mem_recordedEvents hmem
        cases hevent
  · cases settlement with
    | settled envelope result => exact absurd rfl (hother envelope result)
    | alreadySettled | unknown =>
      cases h
      exact .kept _ nofun

lemma settle_commit_owed {next : ExchangeState D} {answer : ExchangeAnswer}
    {events : List JournalEvent}
    (h : host.settle reply now (some record) = .ok (.commit next answer events)) :
    reply.operationId ∈ record.state.journal.pendingIds := by
  obtain ⟨_, _, h⟩ := bind_eq_ok.mp h
  obtain ⟨_, _, h⟩ := bind_eq_ok.mp h
  obtain ⟨_, hrecord, h⟩ := bind_eq_ok.mp h
  cases hrecord
  obtain ⟨⟨journal, settlement⟩, hsettle, h⟩ := bind_eq_ok.mp h
  rcases settle_cases hsettle with ⟨envelope, rfl, hid, hchange⟩ | ⟨hother, rfl⟩
  · cases hchange with
    | settled _ howed => exact howed
  · cases settlement with
    | settled envelope result => exact absurd rfl (hother envelope result)
    | alreadySettled | unknown => cases h

lemma noteFailure_planned {note : AgentExchangeJournal → Option AgentExchangeJournal}
    {call : ExchangeCall D}
    (hnote : ∀ journal next, note journal = some next → Changed journal [] next)
    (h : host.noteFailure note (some record) = .ok plan) :
    host.Planned call record.state.journal plan := by
  obtain ⟨_, hrecord, h⟩ := bind_eq_ok.mp h
  cases hrecord
  split at h
  · cases h
    exact .kept _ nofun
  · rename_i journal hjournal
    cases h
    exact .committed _ _ _ (hnote _ _ hjournal).rewritten nofun nofun

section
variable [DecidableEq D]
variable {call : ExchangeCall D}
variable {envelope : AgentExchangeEnvelope}

theorem accept_cases (h : host.accept envelope now (some record) = .ok plan) :
    (∃ resolved, findResolved record.state.journal.applied envelope.operationId = some resolved ∧
      resolved.kind = envelope.kind ∧
      plan = .keep (.replied (.replayed envelope resolved.result now))) ∨
    findResolved record.state.journal.applied envelope.operationId = none ∧
      ∃ result, (host.settles envelope result = false ∧
        plan = .keep (.replied (.applied envelope result now))) ∨
      ∃ next events, plan = .commit next (.replied (.applied envelope result now)) events ∧
        Rewritten record.state.journal events next.journal ∧
        (∀ resolved, JournalEvent.settled resolved ∉ events) ∧
        (host.settles envelope result = true →
          .applied ⟨envelope.operationId, envelope.kind, result, now⟩ ∈ events) := by
  obtain ⟨_, _, h⟩ := bind_eq_ok.mp h
  obtain ⟨_, _, h⟩ := bind_eq_ok.mp h
  obtain ⟨_, _, h⟩ := bind_eq_ok.mp h
  obtain ⟨_, hrecord, h⟩ := bind_eq_ok.mp h
  cases hrecord
  obtain ⟨answer, happlied, h⟩ := bind_eq_ok.mp h
  rcases appliedResult_cases happlied with ⟨hfresh, rfl⟩ | ⟨resolved, hfind, hkind, rfl⟩
  · right
    refine ⟨hfresh, (host.participant.apply record.state envelope now).2.result, ?_⟩
    obtain ⟨⟨journal, initiations⟩, howed, h⟩ := bind_eq_ok.mp h
    dsimp only at h howed
    split_ifs at h with hidle
    · cases h
      exact .inl ⟨hidle.1, rfl⟩
    · cases h
      refine .inr ⟨_, _, rfl, ?_, fun resolved hmem => ?_, fun hsettles => ?_⟩
      · refine (withdrawAll_rewritten _ _).trans (Rewritten.trans ?_ (recordOwed_rewritten howed))
        rw [appliedEvents]
        split_ifs
        · exact (Changed.applied ⟨envelope.operationId, envelope.kind, _, now⟩
            ((withdrawAll_applied _ _).symm ▸ hfresh)).rewritten
        · exact .refl
      · rcases mem_append.mp hmem with hmem | hmem
        · simp at hmem
        · rcases mem_append.mp hmem with hmem | hmem
          · rw [appliedEvents] at hmem
            split_ifs at hmem <;> simp at hmem
          · obtain ⟨_, hevent⟩ := mem_recordedEvents hmem
            cases hevent
      · rw [appliedEvents, if_pos hsettles]
        simp
  · cases h
    exact .inl ⟨resolved, hfind, hkind, rfl⟩

lemma accept_planned (h : host.accept envelope now (some record) = .ok plan) :
    host.Planned (.accept envelope now) record.state.journal plan := by
  rcases accept_cases h with ⟨resolved, hfind, hkind, rfl⟩ | ⟨_, result, hresult⟩
  · obtain ⟨hmem, hid⟩ := findResolved_some hfind
    refine .kept _ (fun reply hreply => .inl ⟨resolved, hmem, ?_⟩)
    cases hreply
    exact ⟨hid, hkind, rfl⟩
  · rcases hresult with ⟨hrefused, rfl⟩ | ⟨next, events, rfl, hjournal, hnone, happlied⟩
    · refine .kept _ (fun reply hreply => .inr ?_)
      cases hreply
      exact ⟨envelope, rfl, rfl, hrefused⟩
    · refine .committed _ _ _ hjournal (fun reply hreply => ?_)
        (fun resolved hmem => absurd hmem (hnone resolved))
      cases hreply
      cases hsettles : host.settles envelope result with
      | true => exact .inl ⟨_, happlied hsettles, rfl, rfl, rfl⟩
      | false => exact .inr ⟨envelope, rfl, rfl, hsettles⟩

lemma plan_planned (h : host.plan call (some record) = .ok plan) :
    host.Planned call record.state.journal plan := by
  have hnoted : ∀ (operationId : AgentOperationId) (code : String) (now : ℕ)
      (journal next : AgentExchangeJournal),
      (AgentExchangeJournal.noteFailure operationId code now journal.pending).map
        (fun pending => { journal with pending }) = some next → Changed journal [] next := by
    intro operationId code now journal next hnext
    obtain ⟨pending, hpending, rfl⟩ := Option.map_eq_some_iff.mp hnext
    exact .noted pending (noteFailure_ids hpending)
  cases call with
  | initiate => exact initiate_planned h
  | accept => exact accept_planned h
  | settle => exact settle_planned h
  | recordUnsettleableRefusal operationId code now | recordDeliveryFailure operationId code now =>
    exact noteFailure_planned (hnoted operationId code now) h

lemma plan_none (call : ExchangeCall D) (plan : Plan D) : host.plan call none ≠ .ok plan := by
  intro h
  cases call with
  | initiate => cases h
  | accept =>
    obtain ⟨_, _, h⟩ := bind_eq_ok.mp h
    obtain ⟨_, _, h⟩ := bind_eq_ok.mp h
    obtain ⟨_, _, h⟩ := bind_eq_ok.mp h
    cases h
  | settle =>
    obtain ⟨_, _, h⟩ := bind_eq_ok.mp h
    obtain ⟨_, _, h⟩ := bind_eq_ok.mp h
    cases h
  | recordUnsettleableRefusal | recordDeliveryFailure => cases h

variable (host) in
def performAll (calls : List (ExchangeCall D))
    (hosted : Replica (ExchangeState D) × InMemoryDurableStateStore (ExchangeState D)) :
    Replica (ExchangeState D) × InMemoryDurableStateStore (ExchangeState D) :=
  calls.foldl (fun hosted call => (host.perform call hosted).2) hosted

inductive CourierCall (deliver : AgentExchangeEnvelope →
    Except AgentExchangeDeliveryError AgentExchangeReply) : ExchangeCall D → Prop
  | settle (envelope : AgentExchangeEnvelope) (reply : AgentExchangeReply) (now : ℕ)
      (hdeliver : deliver envelope = .ok reply) : CourierCall deliver (.settle reply now)
  | refusal (operationId : AgentOperationId) (code : String) (now : ℕ) :
      CourierCall deliver (.recordUnsettleableRefusal operationId code now)
  | failure (operationId : AgentOperationId) (code : String) (now : ℕ) :
      CourierCall deliver (.recordDeliveryFailure operationId code now)

variable (host) in
/-- The second state is reached from the first by calls of the courier. -/
def Couriered (deliver : AgentExchangeEnvelope →
      Except AgentExchangeDeliveryError AgentExchangeReply)
    (hosted next : Replica (ExchangeState D) × InMemoryDurableStateStore (ExchangeState D)) :
    Prop :=
  ∃ calls : List (ExchangeCall D), (∀ call ∈ calls, CourierCall deliver call) ∧
    next = host.performAll calls hosted

variable {deliver : AgentExchangeEnvelope → Except AgentExchangeDeliveryError AgentExchangeReply}

lemma couriered_refl
    (hosted : Replica (ExchangeState D) × InMemoryDurableStateStore (ExchangeState D)) :
    host.Couriered deliver hosted hosted := ⟨[], fun _ hmem => (nomatch hmem), rfl⟩

lemma couriered_trans
    (first second third : Replica (ExchangeState D) × InMemoryDurableStateStore (ExchangeState D))
    (h : host.Couriered deliver first second) (h' : host.Couriered deliver second third) :
    host.Couriered deliver first third := by
  obtain ⟨calls, hcalls, rfl⟩ := h
  obtain ⟨more, hmore, rfl⟩ := h'
  refine ⟨calls ++ more, fun call hmem => ?_, (foldl_append).symm⟩
  exact (mem_append.mp hmem).elim (hcalls call) (hmore call)

lemma keeps_perform (hcall : CourierCall deliver call) :
    Attempt.Keeps (host.Couriered deliver) (host.perform call) := by
  intro hosted
  exact ⟨[call], fun other hmem => mem_singleton.mp hmem ▸ hcall, rfl⟩

lemma keeps_noted (hcall : CourierCall deliver call) (report : AgentExchangeDriveReport) :
    Attempt.Keeps (host.Couriered deliver) (host.perform call >>= fun _ => pure report) :=
  (keeps_perform hcall).bind couriered_trans (fun _ => Attempt.keeps_pure couriered_refl report)

lemma countSettlement_couriered (now : ℕ) (report : AgentExchangeDriveReport)
    (envelope : AgentExchangeEnvelope)
    (out : Except AgentChoreographyError (ExchangeAnswer × List JournalEvent) ×
      Replica (ExchangeState D) × InMemoryDurableStateStore (ExchangeState D)) :
    host.Couriered deliver out.2 (host.countSettlement now report envelope out).2 := by
  fun_cases countSettlement host now report envelope out
  case case5 => exact keeps_noted (.refusal _ _ _) _ _
  all_goals exact couriered_refl _

lemma keeps_driveExchange (now : ℕ) (report : AgentExchangeDriveReport)
    (envelope : AgentExchangeEnvelope) :
    Attempt.Keeps (host.Couriered deliver) (host.driveExchange deliver now report envelope) := by
  rw [driveExchange]
  cases hdeliver : deliver envelope with
  | error => exact keeps_noted (.failure _ _ _) _
  | ok reply =>
    dsimp only
    split_ifs with hid
    · exact Attempt.keeps_fail couriered_refl _
    · intro hosted
      have hsettle : host.Couriered deliver hosted (host.perform (.settle reply now) hosted).2 :=
        keeps_perform (.settle envelope reply now hdeliver) hosted
      exact couriered_trans _ _ _ hsettle (countSettlement_couriered now report envelope _)

variable (host deliver) in
lemma drivePendingExchanges_couriered (now : ℕ)
    (hosted : Replica (ExchangeState D) × InMemoryDurableStateStore (ExchangeState D)) :
    host.Couriered deliver hosted (host.drivePendingExchanges deliver now hosted).2 := by
  have hfold : ∀ (envelopes : List AgentExchangeEnvelope) (report : AgentExchangeDriveReport),
      Attempt.Keeps (host.Couriered deliver)
        (envelopes.foldlM (host.driveExchange deliver now) report) := by
    intro envelopes
    induction envelopes with
    | nil => exact fun report => Attempt.keeps_pure couriered_refl report
    | cons envelope rest ih =>
      intro report
      rw [foldlM_cons]
      exact (keeps_driveExchange now report envelope).bind couriered_trans ih
  obtain ⟨replica, store⟩ := hosted
  rw [drivePendingExchanges, Attempt.get_bind]
  dsimp only
  cases replica.record with
  | none => exact couriered_refl _
  | some => exact hfold _ _ _

end
end AgentExchangeHost
end Rakka.Agent
