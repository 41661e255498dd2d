import Rakka.AgentWorkflow.DispatchWorker
import Rakka.AgentWorkflow.RunOutbox

/-! What one step of the dispatcher workers can do: every step is one of the few moves of
`DispatchWorld.Moved`, which say what happens to the fleet entries, to the outboxes and to the
worker that takes the step. -/

namespace Rakka.AgentWorkflow
open Foundation Rakka.Persistence Rakka.Workflow DurableInbox List

def FleetWorld.Cancelled {κ : Type} (fleet : FleetWorld κ) (runId : AgentRunId)
    (effectId : AgentEffectId) : Prop :=
  ∃ entry, fleet.entry (agentDispatchId runId effectId) = some entry ∧ entry.runId = runId ∧
    entry.effectId = effectId ∧ entry.status = .cancelled

/-- What an answer of the dispatcher leads to in the outbox and in the fleet. -/
inductive Outcome : OutboxDispatchResult → WorkflowTelemetryEvent → OutboxStatus →
    AgentDispatchStatus → Prop
  | success (event : WorkflowTelemetryEvent) : Outcome .success event .dispatched .completed
  | retried (result : OutboxDispatchResult) (event : WorkflowTelemetryEvent)
      (hresult : result ≠ .success)
      (hevent : ∀ (entry : AgentDispatchEntry) now,
        (entry.recordEvent event now).status = .retryScheduled) :
      Outcome result event .failed .retryScheduled
  | exhausted (result : OutboxDispatchResult) (event : WorkflowTelemetryEvent)
      (hresult : result ≠ .success)
      (hevent : ∀ (entry : AgentDispatchEntry) now,
        (entry.recordEvent event now).status = .exhausted) :
      Outcome result event .exhausted .exhausted

namespace DispatchWorld
variable {κ : Type}

/-- What a worker may look like after a step, next to the fleet and the store it leaves. -/
structure Fits (w : DispatchWorld κ) (client : κ) (fleet : FleetWorld κ)
    (store : InMemoryDurableStateStore WorkflowState) (claims : List AgentDispatchClaim)
    (worker : DispatchWorker) : Prop where
  owned : ∀ claim ∈ worker.owned, claim ∈ (w.worker client).owned ∨ claim ∈ claims
  synced : ∀ runId inbox, worker.phase.inbox = some (runId, inbox) →
    ∀ record, inbox.record = some record → Tracks store runId record
  unsettled : ∀ runId effectId, (runId, effectId) ∈ worker.phase.unsettled →
    fleet.Cancelled runId effectId
  shown : ∀ claim inbox, worker.phase = .dispatching claim inbox →
    ∃ record entry, inbox.record = some record ∧
      record.state.outboxEntry claim.effectId.messageId = some entry

variable {w : DispatchWorld κ} {client : κ}
variable {call : FleetCall} {out : Except AgentDispatcherError FleetAnswer × FleetWorld κ}
variable {fleet : FleetWorld κ} {worker : DispatchWorker} {inbox : Replica WorkflowState}
  {store : InMemoryDurableStateStore WorkflowState} {phase : WorkerPhase}

lemma cancelled_of_entry (hkeyed : fleet.Keyed) (hidentified : fleet.Identified)
    {dispatchId : AgentDispatchId} {entry : AgentDispatchEntry}
    (hentry : fleet.entry dispatchId = some entry) (hstatus : entry.status = .cancelled) :
    fleet.Cancelled entry.runId entry.effectId := by
  have hid : dispatchId = agentDispatchId entry.runId entry.effectId :=
    (hkeyed dispatchId entry hentry).symm.trans (hidentified.formed dispatchId entry hentry)
  exact ⟨entry, hid ▸ hentry, rfl, rfl, hstatus⟩

lemma tracks_loadInbox (w : DispatchWorld κ) (runId : AgentRunId) :
    ∀ record, (w.loadInbox runId).record = some record → Tracks w.workflows runId record :=
  fun _ hrecord => tracks_recover w.workflows runId w.clock hrecord

lemma fits_idle (w : DispatchWorld κ) (client : κ) (fleet : FleetWorld κ)
    (store : InMemoryDurableStateStore WorkflowState) (claims : List AgentDispatchClaim)
    {held : List AgentDispatchClaim}
    (hheld : ∀ claim ∈ held, claim ∈ (w.worker client).owned ∨ claim ∈ claims) :
    Fits w client fleet store claims ⟨held, .idle⟩ := by
  refine ⟨fun claim hclaim => hheld claim ?_, fun _ _ h => (nomatch h), fun _ _ h => (nomatch h),
    fun _ _ h => (nomatch h)⟩
  simpa [DispatchWorker.owned, WorkerPhase.claim] using hclaim

lemma held_owned (w : DispatchWorld κ) (client : κ) :
    ∀ claim ∈ (w.worker client).held, claim ∈ (w.worker client).owned :=
  fun _ hclaim => mem_append_left _ hclaim

lemma cancelledEffects_cancelled (hkeyed : fleet.Keyed) (hidentified : fleet.Identified)
    (hterminal : fleet.TerminalKept) {runId : AgentRunId} {effectId : AgentEffectId}
    (hmem : effectId ∈ ({ w with fleet } : DispatchWorld κ).cancelledEffects client runId) :
    fleet.Cancelled runId effectId := by
  unfold cancelledEffects at hmem
  cases hcopy : (fleet.shared.replica client).record with
  | none => simp [hcopy] at hmem
  | some record =>
    simp only [hcopy, mem_map, mem_filter, Bool.and_eq_true, decide_eq_true_eq] at hmem
    obtain ⟨entry, ⟨hvalue, hrun, hstatus⟩, heffect⟩ := hmem
    obtain ⟨⟨key, value⟩, hpair, rfl⟩ := mem_map.mp hvalue
    have hshown : record.state.entry key = some value :=
      Std.ExtTreeMap.mem_toList_iff_getElem?_eq_some.mp hpair
    have hentry := hterminal client record key value hcopy hshown (by rw [hstatus]; rfl)
    rw [← hrun, ← heffect]
    exact cancelled_of_entry hkeyed hidentified hentry hstatus

lemma fits_phase (w : DispatchWorld κ) (client : κ) (fleet : FleetWorld κ)
    (store : InMemoryDurableStateStore WorkflowState)
    (hclaim : ∀ claim, phase.claim = some claim → (w.phase client).claim = some claim)
    (hsynced : ∀ runId inbox, phase.inbox = some (runId, inbox) →
      ∀ record, inbox.record = some record → Tracks store runId record)
    (hunsettled : ∀ runId effectId, (runId, effectId) ∈ phase.unsettled →
      fleet.Cancelled runId effectId) (hshown : ∀ claim inbox, phase = .dispatching claim inbox →
      ∃ record entry, inbox.record = some record ∧
        record.state.outboxEntry claim.effectId.messageId = some entry) :
    Fits w client fleet store [] ⟨(w.worker client).held, phase⟩ := by
  refine ⟨fun claim hmem => .inl ?_, hsynced, hunsettled, hshown⟩
  rcases mem_append.mp hmem with hheld | hown
  · exact held_owned w client claim hheld
  · exact mem_append_right _ (Option.mem_toList.mpr (hclaim claim (Option.mem_toList.mp hown)))

lemma worker_of_idle (hidle : w.phase client = .idle) :
    w.worker client = ⟨(w.worker client).held, .idle⟩ := by
  rw [← hidle]
  rfl

lemma fits_held (w : DispatchWorld κ) (client : κ) (fleet : FleetWorld κ)
    (store : InMemoryDurableStateStore WorkflowState) (claims : List AgentDispatchClaim) :
    Fits w client fleet store claims ⟨(w.worker client).held, .idle⟩ :=
  fits_idle w client fleet store claims (fun claim hclaim => .inl (held_owned w client claim hclaim))

variable [DecidableEq κ]

/-- The fleet went through a run of its own, the copies of the snapshots follow the store, and what
is to be settled as cancelled is cancelled in the fleet. -/
structure Sound (w : DispatchWorld κ) : Prop where
  fleet : ∃ ops, w.fleet = FleetWorld.init.run ops
  synced : ∀ client runId inbox, (w.phase client).inbox = some (runId, inbox) →
    ∀ record, inbox.record = some record → Tracks w.workflows runId record
  unsettled : ∀ client runId effectId, (runId, effectId) ∈ (w.phase client).unsettled →
    w.fleet.Cancelled runId effectId
  shown : ∀ client claim inbox, w.phase client = .dispatching claim inbox →
    ∃ record entry, inbox.record = some record ∧
      record.state.outboxEntry claim.effectId.messageId = some entry

inductive Moved (w : DispatchWorld κ) : DispatchOp κ → DispatchWorld κ → Prop
  | skipped (op : DispatchOp κ) : Moved w op w
  | elapsed (ms : ℕ) : Moved w (.elapse ms) { w with fleet := w.fleet.step (.elapse ms) }
  | scheduled (runId : AgentRunId) (command : OutboxCommand) (entry : OutboxEntry)
      (store : InMemoryDurableStateStore WorkflowState)
      (hnew : storedOutbox w.workflows runId command.messageId = none)
      (hstatus : entry.status = .pending)
      (hrewritten : Rewritten w.workflows store runId command.messageId entry) :
      Moved w (.schedule runId command) { w with workflows := store }
  | stayed (op : DispatchOp κ) (client : κ) (ops : List (FleetOp κ)) (fleet : FleetWorld κ)
      (worker : DispatchWorker) (hfleet : fleet = w.fleet.run ops)
      (hentry : fleet.entry = w.fleet.entry) (hissued : fleet.issued = w.fleet.issued)
      (hclock : fleet.clock = w.fleet.clock) (hfits : Fits w client fleet w.workflows [] worker)
      (hphase : worker.phase.recordedClaim = none)
      (hbefore : ∀ claim, (w.phase client).recordedClaim = some claim → op = .restart client ∨
        op = .advance client ∧ (w.fleetCurrent client = false ∨
          w.holdsCurrent claim w.clock = false)) :
      Moved w op ({ w with fleet }.setWorker client worker)
  | called (op : DispatchOp κ) (client : κ) (call : FleetCall) (fleet : FleetWorld κ)
      (claims : List AgentDispatchClaim) (worker : DispatchWorker)
      (hfleet : fleet = w.fleet.run [.call client call])
      (hmoved : ∀ dispatchId, AgentDispatchEntry.Moved w.clock call dispatchId
        (claims.filter (fun claim => claim.dispatchId = dispatchId)) (w.fleet.entry dispatchId)
        (fleet.entry dispatchId))
      (hissued : fleet.issued = w.fleet.issued ++ claims) (hclock : fleet.clock = w.fleet.clock)
      (hfits : Fits w client fleet w.workflows claims worker)
      (hphase : worker.phase.recordedClaim = none)
      (hsettles : call.settles = (w.phase client).recordedClaim)
      (hcall : ∀ claim result event, w.phase client = .recorded claim result event →
        call = settlingCall claim event result) :
      Moved w op ({ w with fleet }.setWorker client worker)
  | marked (client : κ) (claim : AgentDispatchClaim) (inbox : Replica WorkflowState)
      (entry : OutboxEntry) (store : InMemoryDurableStateStore WorkflowState)
      (handOuts : List (AgentRunId × AgentEffectId)) (worker : DispatchWorker)
      (hbefore : w.phase client = .marking claim inbox)
      (hentry : storedOutbox w.workflows claim.runId claim.effectId.messageId = some entry)
      (hrewritten : Rewritten w.workflows store claim.runId claim.effectId.messageId
        (entry.setStatus .dispatching w.clock))
      (hhandOuts : handOuts = w.handOuts ∨ handOuts = w.handOuts ++ [(claim.runId, claim.effectId)])
      (hfits : Fits w client w.fleet store [] worker)
      (hphase : worker.phase.recordedClaim = none) :
      Moved w (.advance client)
        ({ w with workflows := store, handOuts := handOuts }.setWorker client worker)
  | answered (client : κ) (claim : AgentDispatchClaim) (inbox : Replica WorkflowState)
      (result : OutboxDispatchResult) (event : WorkflowTelemetryEvent) (entry after : OutboxEntry)
      (status : AgentDispatchStatus) (store : InMemoryDurableStateStore WorkflowState)
      (hbefore : w.phase client = .dispatching claim inbox)
      (hentry : storedOutbox w.workflows claim.runId claim.effectId.messageId = some entry)
      (hrewritten : Rewritten w.workflows store claim.runId claim.effectId.messageId after)
      (houtcome : Outcome result event after.status status) :
      Moved w (.answer client result)
        ({ w with workflows := store }.setPhase client (.recorded claim result event))
  | settled (client : κ) (runId : AgentRunId) (effectId : AgentEffectId) (entry : OutboxEntry)
      (store : InMemoryDurableStateStore WorkflowState) (worker : DispatchWorker)
      (hunsettled : (runId, effectId) ∈ (w.phase client).unsettled)
      (hentry : storedOutbox w.workflows runId effectId.messageId = some entry)
      (hcancellable : entry.isCancellable = true)
      (hrewritten : Rewritten w.workflows store runId effectId.messageId
        (entry.markCancelled w.clock))
      (hfits : Fits w client w.fleet store [] worker)
      (hphase : worker.phase.recordedClaim = none)
      (hbefore : (w.phase client).recordedClaim = none) :
      Moved w (.advance client) ({ w with workflows := store }.setWorker client worker)

lemma setWorker_self (w : DispatchWorld κ) (client : κ) :
    w.setWorker client (w.worker client) = w := by
  rw [setWorker, Function.update_eq_self]

lemma Sound.coherent (h : Sound w) :
    w.fleet.Coherent ∧ w.fleet.Keyed ∧ w.fleet.Identified ∧ w.fleet.TerminalKept := by
  obtain ⟨ops, hfleet⟩ := h.fleet
  rw [hfleet]
  exact ⟨(FleetWorld.run_coherent ops).1, (FleetWorld.run_coherent ops).2,
    FleetWorld.run_identified ops, FleetWorld.run_terminalKept ops⟩

lemma moved_worker (op : DispatchOp κ) (hbefore : (w.phase client).recordedClaim = none)
    (hphase : worker.phase.recordedClaim = none)
    (hfits : Fits w client w.fleet w.workflows [] worker) :
    Moved w op (w.setWorker client worker) := by
  refine .stayed op client [] w.fleet worker rfl rfl rfl rfl hfits hphase ?_
  intro claim hclaim
  rw [hbefore] at hclaim
  cases hclaim

lemma moved_idle (op : DispatchOp κ) (hbefore : (w.phase client).recordedClaim = none) :
    Moved w op (w.setPhase client .idle) :=
  moved_worker op hbefore rfl (fits_held w client _ _ _)

lemma Sound.moved_ask (h : Sound w) (op : DispatchOp κ) (hout : w.fleet.ask client call = out)
    (hsettles : call.settles = (w.phase client).recordedClaim)
    (hcall : ∀ claim result event, w.phase client = .recorded claim result event →
      call = settlingCall claim event result)
    (hop : ∀ claim, (w.phase client).recordedClaim = some claim → op = .advance client)
    (hphase : worker.phase.recordedClaim = none)
    (hfits : ∀ claims, (∀ answer, out.1 = .ok answer → answer.claims = claims) →
      Fits w client out.2 w.workflows claims worker) :
    Moved w op ({ w with fleet := out.2 }.setWorker client worker) := by
  obtain ⟨hcoherent, hkeyed, -, -⟩ := h.coherent
  have hfleet : out.2 = w.fleet.run [.call client call] := by
    rw [← hout]
    rfl
  have heffect := FleetWorld.ask_effect hcoherent hkeyed client call
  have hwritten : ∀ claim, (w.phase client).recordedClaim = some claim →
      w.fleetCurrent client = true → w.holdsCurrent claim w.clock = true →
      out.2.revision = w.fleet.revision + 1 := by
    intro claim hclaim hfleetCurrent hholds
    obtain ⟨record, hcopy, hrevision⟩ := (Option.any_eq_true _ _).mp hfleetCurrent
    obtain ⟨entry, hentry, hcurrent⟩ := (Option.any_eq_true _ _).mp hholds
    rw [← hout]
    exact FleetWorld.ask_settles hcoherent (hsettles.trans hclaim) hcopy (by simpa using hrevision)
      hentry hcurrent
  rw [hout] at heffect
  cases heffect with
  | quiet answer fleet hentry hrevision hissued hclock hclaims =>
    refine .stayed op client _ fleet worker hfleet hentry hissued hclock (hfits [] hclaims) hphase ?_
    intro claim hclaim
    refine .inr ⟨hop claim hclaim, ?_⟩
    by_contra hkept
    rw [not_or, Bool.not_eq_false, Bool.not_eq_false] at hkept
    have hnext : fleet.revision = w.fleet.revision + 1 :=
      hwritten claim hclaim hkept.1 hkept.2
    omega
  | moved answer fleet hmoved hrevision hissued hclock =>
    refine .called op client call fleet answer.claims worker hfleet hmoved hissued hclock
      (hfits answer.claims ?_) hphase hsettles hcall
    intro given hgiven
    rw [Except.ok.inj hgiven]

lemma settles_settlingCall (claim : AgentDispatchClaim) (event : WorkflowTelemetryEvent)
    (result : OutboxDispatchResult) : (settlingCall claim event result).settles = some claim := by
  cases result <;> rfl

inductive Recorded (runId : AgentRunId) (messageId : OutboxMessageId)
    (result : OutboxDispatchResult) (inbox : Replica WorkflowState)
    (store : InMemoryDurableStateStore WorkflowState) :
    Except WorkflowError WorkflowTelemetryEvent × Replica WorkflowState ×
      InMemoryDurableStateStore WorkflowState → Prop
  | refused (error : WorkflowError) (replica : Replica WorkflowState)
      (hreason : Unwritten store runId messageId inbox) :
      Recorded runId messageId result inbox store (.error error, replica, store)
  | written (event : WorkflowTelemetryEvent) (entry after : OutboxEntry)
      (status : AgentDispatchStatus) (inbox' : Replica WorkflowState)
      (store' : InMemoryDurableStateStore WorkflowState)
      (hentry : storedOutbox store runId messageId = some entry)
      (hrewritten : Rewritten store store' runId messageId after)
      (houtcome : Outcome result event after.status status) :
      Recorded runId messageId result inbox store (.ok event, inbox', store')

lemma recorded_of_failure (runId : AgentRunId) (messageId : OutboxMessageId)
    {result : OutboxDispatchResult} (hresult : result ≠ .success) {message : String} {now : ℕ}
    {report : OutboxEntry → OutboxFailureTransition → WorkflowTelemetryEvent}
    (hretry : ∀ entry nextRetryAt (claimed : AgentDispatchEntry) now,
      (claimed.recordEvent (report entry (.retry nextRetryAt)) now).status = .retryScheduled)
    (hexhausted : ∀ entry (claimed : AgentDispatchEntry) now,
      (claimed.recordEvent (report entry .exhausted) now).status = .exhausted)
    (htracks : ∀ record, inbox.record = some record → Tracks store runId record) :
    Recorded runId messageId result inbox store (outboxUpdate
      (agentRunWorkflowId runId) messageId (fun entry => entry.recordFailure now message) report
      (inbox, store)) := by
  have hcases := outboxUpdate_cases runId messageId
    (fun entry => entry.recordFailure now message) report htracks
  generalize outboxUpdate _ _ _ _ (inbox, store) = out at hcases
  cases hcases with
  | refused error replica hreason => exact .refused error replica hreason
  | written entry inbox' store' record hentry hrewritten =>
    by_cases hlast : entry.retryPolicy.isExhaustedAfter (entry.attempts.attempts + 1) = true
    · simp only [OutboxEntry.recordFailure, hlast, if_true] at hrewritten ⊢
      exact .written _ entry _ _ inbox' store' hentry hrewritten
        (.exhausted result _ hresult (hexhausted _))
    · simp only [OutboxEntry.recordFailure, hlast] at hrewritten ⊢
      exact .written _ entry _ _ inbox' store' hentry hrewritten
        (.retried result _ hresult (hretry _ _))

lemma recordDispatch_cases (runId : AgentRunId) (messageId : OutboxMessageId)
    (result : OutboxDispatchResult) (now : ℕ)
    (htracks : ∀ record, inbox.record = some record → Tracks store runId record) :
    Recorded runId messageId result inbox store (recordDispatch
      (agentRunWorkflowId runId) messageId (boundedResult result) now (inbox, store)) := by
  cases result with
  | success =>
    have hcases := outboxUpdate_cases runId messageId
      (fun entry => (entry.markDispatched now, ()))
      (fun entry _ => WorkflowTelemetryEvent.outboxDispatchSucceeded entry.messageId now) htracks
    simp only [boundedResult, recordDispatch, recordOutboxSuccess]
    generalize outboxUpdate _ _ _ _ (inbox, store) = out at hcases
    cases hcases with
    | refused error replica hreason => exact .refused error replica hreason
    | written entry inbox' store' record hentry hrewritten =>
      exact .written _ entry _ _ inbox' store' hentry hrewritten (.success _)
  | failure | timeout =>
    exact recorded_of_failure runId messageId (by simp) (fun _ _ _ _ => rfl) (fun _ _ _ => rfl)
      htracks

lemma Sound.moved_plain_ask (h : Sound w) (op : DispatchOp κ)
    (hout : w.fleet.ask client call = out) (hsettles : call.settles = none)
    (hbefore : (w.phase client).recordedClaim = none) (hphase : worker.phase.recordedClaim = none)
    (hfits : ∀ claims, (∀ answer, out.1 = .ok answer → answer.claims = claims) →
      Fits w client out.2 w.workflows claims worker) :
    Moved w op ({ w with fleet := out.2 }.setWorker client worker) := by
  refine h.moved_ask op hout (hsettles.trans hbefore.symm) ?_ ?_ hphase hfits
  · intro claim result event hrecorded
    rw [hrecorded] at hbefore
    cases hbefore
  · intro claim hclaim
    rw [hbefore] at hclaim
    cases hclaim

lemma Sound.ask_run (h : Sound w) (hout : w.fleet.ask client call = out) :
    out.2.Keyed ∧ out.2.Identified ∧ out.2.TerminalKept := by
  obtain ⟨ops, hfleet⟩ := h.fleet
  have hrun : out.2 = FleetWorld.init.run (ops ++ [.call client call]) := by
    rw [FleetWorld.run_concat, ← hfleet, ← hout]
    rfl
  rw [hrun]
  exact ⟨(FleetWorld.run_coherent _).2, FleetWorld.run_identified _, FleetWorld.run_terminalKept _⟩

lemma Sound.moved_ask_idle (h : Sound w) (op : DispatchOp κ)
    (hout : w.fleet.ask client call = out) (hsettles : call.settles = none)
    (hbefore : (w.phase client).recordedClaim = none) :
    Moved w op ({ w with fleet := out.2 }.setPhase client .idle) :=
  h.moved_plain_ask op hout hsettles hbefore rfl (fun claims _ => fits_held w client _ _ claims)

lemma setPhase_idle (hidle : w.phase client = .idle) (fleet : FleetWorld κ) :
    { w with fleet }.setPhase client .idle = { w with fleet } := by
  have hworker := worker_of_idle hidle
  unfold setPhase
  dsimp only
  rw [← hworker, setWorker_self]

lemma Sound.moved_claimDue (h : Sound w) (hidle : w.phase client = .idle)
    (settings : AgentDispatcherFleetSettings) (filter : AgentDispatchClaimFilter)
    (workerId : AgentDispatcherWorkerId) : Moved w (.claimDue client settings filter workerId)
      (w.claimDue client settings filter workerId) := by
  unfold claimDue
  have hbefore : (w.phase client).recordedClaim = none := by
    rw [hidle]
    rfl
  rcases hout : w.fleet.ask client (.claimDue settings filter workerId) with ⟨error | answer, fleet⟩
  · have hmoved := h.moved_ask_idle (.claimDue client settings filter workerId) hout rfl hbefore
    rw [setPhase_idle hidle] at hmoved
    exact hmoved
  · refine h.moved_plain_ask _ hout rfl hbefore hbefore (fun claims hclaims => ?_)
    rw [worker_of_idle hidle]
    refine fits_idle w client _ _ _ (fun claim hclaim => ?_)
    rcases mem_append.mp hclaim with hheld | hnew
    · exact .inl (held_owned w client claim hheld)
    · exact .inr (hclaims answer rfl ▸ hnew)

lemma Sound.moved_cancelRunDispatches (h : Sound w) (hidle : w.phase client = .idle)
    (runId : AgentRunId) :
    Moved w (.cancelRunDispatches client runId) (w.cancelRunDispatches client runId) := by
  unfold cancelRunDispatches
  obtain ⟨hcoherent, hkeyed, -, -⟩ := h.coherent
  have hbefore : (w.phase client).recordedClaim = none := by
    rw [hidle]
    rfl
  have hquiet : ∀ {out}, w.fleet.ask client (.cancelRunDispatches runId) = out →
      Moved w (.cancelRunDispatches client runId) { w with fleet := out.2 } := by
    intro out hout
    have hmoved := h.moved_ask_idle (.cancelRunDispatches client runId) hout rfl hbefore
    rw [setPhase_idle hidle] at hmoved
    exact hmoved
  rcases hout : w.fleet.ask client (.cancelRunDispatches runId) with ⟨error | answer, fleet⟩
  · exact hquiet hout
  · dsimp only
    split_ifs with hempty
    · exact hquiet hout
    · refine h.moved_plain_ask _ hout rfl hbefore rfl (fun claims hclaims => ?_)
      refine ⟨fun claim hmem => .inl ?_, fun _ _ hinbox => (nomatch hinbox), ?_,
        fun _ _ hphase => (nomatch hphase)⟩
      · refine held_owned w client claim ?_
        simpa [DispatchWorker.owned, WorkerPhase.claim] using hmem
      · -- the effects reported as cancelled stand so in the fleet just written
        intro run effectId hmem
        obtain ⟨reported, hreported, heq⟩ := mem_map.mp hmem
        obtain ⟨rfl, rfl⟩ := Prod.mk.inj heq
        obtain ⟨dispatchId, entry, hentry, rfl, rfl, hstatus⟩ :=
          FleetWorld.ask_cancels hcoherent hkeyed hout hreported
        obtain ⟨hkeyed', hidentified', -⟩ := h.ask_run hout
        exact cancelled_of_entry hkeyed' hidentified' hentry hstatus

lemma moved_dispatchClaim (hidle : w.phase client = .idle) (claim : AgentDispatchClaim) :
    Moved w (.dispatchClaim client claim) (w.dispatchClaim client claim) := by
  unfold dispatchClaim
  have hbefore : (w.phase client).recordedClaim = none := by
    rw [hidle]
    rfl
  split_ifs with hheld hcurrent
  · refine moved_worker _ hbefore rfl ⟨fun other hmem => .inl (held_owned w client other ?_),
      fun _ _ hinbox => (nomatch hinbox), fun _ _ hmem => (nomatch hmem),
      fun _ _ hphase => (nomatch hphase)⟩
    rcases mem_append.mp hmem with hrest | hown
    · exact mem_of_mem_erase hrest
    · rw [← Option.some.inj (Option.mem_toList.mp hown)]
      exact hheld
  · exact moved_worker _ hbefore rfl (fits_idle w client _ _ _ (fun other hmem =>
      .inl (held_owned w client other (mem_of_mem_erase hmem))))
  · exact .skipped _

lemma Sound.moved_answer (h : Sound w) (result : OutboxDispatchResult) :
    Moved w (.answer client result) (w.answer client result) := by
  unfold answer
  cases hphase : w.phase client with
  | dispatching claim inbox =>
    dsimp only
    have hbefore : (w.phase client).recordedClaim = none := by
      rw [hphase]
      rfl
    split_ifs with hcurrent
    · have hcases := recordDispatch_cases claim.runId claim.effectId.messageId result w.clock
        (h.synced client claim.runId inbox (by rw [hphase]; rfl))
      generalize recordDispatch _ _ _ _ (inbox, w.workflows) = out at hcases
      cases hcases with
      | refused => exact moved_idle _ hbefore
      | written event entry after status inbox' store' hentry hrewritten houtcome =>
        exact .answered client claim inbox result event entry after status store' hphase hentry
          hrewritten houtcome
    · exact moved_idle _ hbefore
  | _ => exact .skipped _

section
variable (decode : List UInt8 → Option AgentEffect)
variable {runId : AgentRunId}

lemma Sound.moved_marking (h : Sound w) {claim : AgentDispatchClaim}
    (hbefore : w.phase client = .marking claim inbox) :
    Moved w (.advance client) (w.advance decode client) := by
  have hcases := outboxUpdate_cases claim.runId claim.effectId.messageId
    (fun entry => (entry.setStatus .dispatching w.clock, ())) (fun entry _ => entry)
    (h.synced client claim.runId inbox (by rw [hbefore]; rfl))
  simp only [advance, hbefore, markOutboxDispatching]
  generalize outboxUpdate _ _ _ _ (inbox, w.workflows) = out at hcases
  cases hcases with
  | refused => exact moved_idle _ (by rw [hbefore]; rfl)
  | written entry inbox' store' record hentry hrewritten hcopy htracks hshown =>
    dsimp only
    cases decode (entry.setStatus .dispatching w.clock).payload with
    | none =>
      exact .marked client claim inbox entry store' _ _ hbefore hentry hrewritten (.inl rfl)
        (fits_held w client _ _ _) rfl
    | some =>
      refine .marked client claim inbox entry store' _ _ hbefore hentry hrewritten (.inr rfl)
        (fits_phase w client _ _ ?_ ?_ (fun _ _ hmem => nomatch hmem) ?_) rfl
      · intro other hother
        rw [hbefore]
        exact hother
      · intro runId copy heq
        cases heq
        intro copied hcopied
        rw [hcopy] at hcopied
        rw [← Option.some.inj hcopied]
        exact htracks
      · intro other copy heq
        cases heq
        exact ⟨record, _, hcopy, hshown⟩

lemma Sound.moved_refreshing (h : Sound w) {workflowId : Option AgentWorkflowId}
    (hbefore : w.phase client = .refreshing runId workflowId inbox) :
    Moved w (.advance client) (w.advance decode client) := by
  have hnone : (w.phase client).recordedClaim = none := by
    rw [hbefore]
    rfl
  simp only [advance, hbefore]
  rcases hout : w.fleet.ask client (.finalizeRunCancellations runId) with ⟨error | answer, fleet⟩
  · exact h.moved_ask_idle _ hout rfl hnone
  · obtain ⟨hkeyed, hidentified, hterminal⟩ := h.ask_run hout
    refine h.moved_plain_ask _ hout rfl hnone rfl (fun claims hclaims => ?_)
    refine ⟨fun claim hmem => .inl (held_owned w client claim ?_), fun run copy heq => ?_,
      fun run effectId hmem => ?_, fun _ _ hphase => (nomatch hphase)⟩
    · simpa [DispatchWorker.owned, WorkerPhase.claim] using hmem
    · cases heq
      exact h.synced client runId inbox (by rw [hbefore]; rfl)
    · obtain ⟨listed, hlisted, heq⟩ := mem_map.mp hmem
      obtain ⟨rfl, rfl⟩ := Prod.mk.inj heq
      exact cancelledEffects_cancelled hkeyed hidentified hterminal hlisted

lemma Sound.moved_settling (h : Sound w) {effectId : AgentEffectId}
    {effectIds : List AgentEffectId} {reason : String}
    {registering : Option (Option AgentWorkflowId)}
    (hbefore : w.phase client = .settling runId inbox (effectId :: effectIds) reason registering) :
    Moved w (.advance client) (w.advance decode client) := by
  have hnone : (w.phase client).recordedClaim = none := by
    rw [hbefore]
    rfl
  have hsynced := h.synced client runId inbox (by rw [hbefore]; rfl)
  have hlisted : ∀ run id, (run, id) ∈
      (WorkerPhase.settling runId inbox (effectId :: effectIds) reason registering).unsettled →
      w.fleet.Cancelled run id := by
    rw [← hbefore]
    exact h.unsettled client
  have hfits : ∀ store copy, (∀ record, copy.record = some record → Tracks store runId record) →
      Fits w client w.fleet store []
        ⟨(w.worker client).held, .settling runId copy effectIds reason registering⟩ := by
    intro store copy htracks
    refine fits_phase w client _ _ (fun claim hclaim => nomatch hclaim) (fun run inbox' heq => ?_)
      (fun run id hmem => ?_) (fun _ _ hphase => nomatch hphase)
    · cases heq
      exact htracks
    · refine hlisted run id ?_
      simp only [WorkerPhase.unsettled, map_cons, mem_cons] at hmem ⊢
      exact .inr hmem
  simp only [advance, hbefore]
  split_ifs with hcancellable
  · have hcases := recordOutboxCancelled_cases runId effectId.messageId reason w.clock hsynced
    generalize recordOutboxCancelled _ _ _ _ (inbox, w.workflows) = out at hcases
    cases hcases with
    | refused => exact moved_idle _ hnone
    | kept replica htracks => exact moved_worker _ hnone rfl (hfits _ _ htracks)
    | written event entry inbox' store' hentry hcancels hrewritten htracks =>
      refine .settled client runId effectId entry store' _ ?_ hentry hcancels hrewritten
        (hfits store' inbox' htracks) rfl hnone
      rw [hbefore]
      simp [WorkerPhase.unsettled]
  · exact moved_worker _ hnone rfl (hfits _ _ hsynced)

lemma Sound.moved_advance (h : Sound w) : Moved w (.advance client) (w.advance decode client) := by
  cases hbefore : w.phase client with
  | idle | dispatching =>
    simp only [advance, hbefore]
    exact .skipped _
  | checked claim =>
    simp only [advance, hbefore]
    refine moved_worker _ (by rw [hbefore]; rfl) rfl (fits_phase w client _ _ ?_ ?_
      (fun _ _ hmem => nomatch hmem) (fun _ _ hphase => nomatch hphase))
    · intro other hother
      rw [hbefore]
      exact hother
    · intro runId copy heq
      cases heq
      exact tracks_loadInbox w claim.runId
  | marking => exact h.moved_marking decode hbefore
  | recorded =>
    simp only [advance, hbefore]
    refine h.moved_ask _ rfl ?_ ?_ (fun _ _ => rfl) rfl (fun claims _ => fits_held w client _ _ claims)
    · rw [settles_settlingCall, hbefore]
      rfl
    · intro other outcome report hrecorded
      rw [hbefore] at hrecorded
      cases hrecorded
      rfl
  | refreshing => exact h.moved_refreshing decode hbefore
  | cancelling runId =>
    simp only [advance, hbefore]
    refine moved_worker _ (by rw [hbefore]; rfl) rfl (fits_phase w client _ _
      (fun _ hclaim => nomatch hclaim) ?_ ?_ (fun _ _ hphase => nomatch hphase))
    · intro run copy heq
      cases heq
      exact tracks_loadInbox w runId
    · have hunsettled := h.unsettled client
      rw [hbefore] at hunsettled
      exact hunsettled
  | settling runId inbox effectIds reason registering =>
    have hnone : (w.phase client).recordedClaim = none := by
      rw [hbefore]
      rfl
    cases effectIds with
    | cons => exact h.moved_settling decode hbefore
    | nil =>
      cases registering with
      | none =>
        simp only [advance, hbefore]
        exact moved_idle _ hnone
      | some =>
        simp only [advance, hbefore]
        cases inbox.record.bind (fun record => dueEffects decode record.state w.clock) with
        | none => exact moved_idle _ hnone
        | some => exact h.moved_ask_idle _ rfl rfl hnone

lemma Sound.step_moved (h : Sound w) (op : DispatchOp κ) : Moved w op (w.step decode op) := by
  have hwhenIdle : ∀ {client w'}, (w.phase client = .idle → Moved w op w') →
      Moved w op (w.whenIdle client w') := by
    intro client w' hidle
    unfold whenIdle
    cases hphase : w.phase client with
    | idle => exact hidle hphase
    | _ => exact .skipped op
  cases op with
  | elapse ms => exact .elapsed ms
  | restart client =>
    refine .stayed _ client [.restart client] _ _ rfl rfl rfl rfl ?_ rfl (fun _ _ => .inl rfl)
    exact fits_idle w client _ _ _ (fun _ hmem => nomatch hmem)
  | recover client =>
    refine hwhenIdle (fun hidle => ?_)
    have hmoved : Moved w (.recover client)
        ({ w with fleet := w.fleet.step (.recover client) }.setPhase client .idle) := by
      refine .stayed _ client [.recover client] _ _ rfl rfl rfl rfl (fits_held w client _ _ _) rfl ?_
      intro claim hclaim
      rw [hidle] at hclaim
      cases hclaim
    rw [setPhase_idle hidle] at hmoved
    exact hmoved
  | schedule runId command =>
    have hcases := scheduleOutbox_cases runId command w.clock (tracks_loadInbox w runId)
    simp only [step]
    generalize (scheduleOutbox (agentRunWorkflowId runId) command w.clock
      (w.loadInbox runId, w.workflows)).2.2 = store at hcases
    cases hcases with
    | refused => exact .skipped _
    | written entry _ hnew hstatus hrewritten =>
      exact .scheduled runId command entry store hnew hstatus hrewritten
  | refreshRun client runId =>
    refine hwhenIdle (fun hidle => moved_worker _ (by rw [hidle]; rfl) rfl (fits_phase w client _ _
      (fun _ hclaim => nomatch hclaim) ?_ (fun _ _ hmem => nomatch hmem)
      (fun _ _ hphase => nomatch hphase)))
    intro run copy heq
    cases heq
    exact tracks_loadInbox w runId
  | cancelRunDispatches client runId =>
    exact hwhenIdle (fun hidle => h.moved_cancelRunDispatches hidle runId)
  | claimDue client settings filter workerId =>
    exact hwhenIdle (fun hidle => h.moved_claimDue hidle settings filter workerId)
  | dispatchClaim client claim => exact hwhenIdle (fun hidle => moved_dispatchClaim hidle claim)
  | answer client result => exact h.moved_answer result
  | advance => exact h.moved_advance decode

end

end DispatchWorld
end Rakka.AgentWorkflow
