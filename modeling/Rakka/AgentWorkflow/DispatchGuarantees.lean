import Rakka.AgentWorkflow.DispatchAgreement

/-! What the dispatcher workers guarantee over whole runs: a settled effect is not handed out again,
and the fleet tells what is in the outboxes, as long as no worker is parted from its claim. -/

namespace Rakka.AgentWorkflow
open Foundation Rakka.Persistence Rakka.Workflow

namespace DispatchWorld
variable {κ : Type} [DecidableEq κ] (decode : List UInt8 → Option AgentEffect)
  {w w' : DispatchWorld κ} {client : κ} {op : DispatchOp κ}

lemma fleet_revision_mono (before ops : List (FleetOp κ)) :
    (FleetWorld.init.run before : FleetWorld κ).revision ≤
      (FleetWorld.init.run (before ++ ops) : FleetWorld κ).revision := by
  induction ops using List.reverseRecOn with
  | nil => rw [List.append_nil]
  | append_singleton ops op ih =>
    rw [← List.append_assoc]
    have hstepped : FleetWorld.Stepped (FleetWorld.init.run (before ++ ops) : FleetWorld κ) op _ :=
      FleetWorld.run_stepped (before ++ ops) op
    exact ih.trans hstepped.revision_le

lemma Moved.fleet_run (h : Moved w op w') : ∃ ops, w'.fleet = w.fleet.run ops := by
  cases h with
  | elapsed ms => exact ⟨[.elapse ms], rfl⟩
  | stayed _ client ops fleet worker hfleet => exact ⟨ops, hfleet⟩
  | called _ client call fleet claims worker hfleet => exact ⟨_, hfleet⟩
  | _ => exact ⟨[], rfl⟩

lemma Sound.revision_le (h : Sound w) (hmoved : Moved w op w') :
    w.fleet.revision ≤ w'.fleet.revision := by
  obtain ⟨before, hbefore⟩ := h.fleet
  obtain ⟨ops, hops⟩ := hmoved.fleet_run
  have hmono := fleet_revision_mono before ops
  rw [FleetWorld.run, FleetWorld.run, List.foldl_append] at hmono
  rw [hops, hbefore]
  exact hmono

lemma Sound.accounted (h : Sound w) (hrevision : w.fleet.revision ≤ u64Max) :
    w.fleet.Accounted := by
  obtain ⟨ops, hfleet⟩ := h.fleet
  rw [hfleet] at hrevision ⊢
  exact FleetWorld.run_accounted ops hrevision

lemma init_agreed : Agreed (init : DispatchWorld κ) := by
  refine ⟨⟨⟨[], rfl⟩, fun _ _ _ h => (nomatch h), fun _ _ _ h => (nomatch h),
    fun _ _ _ h => (nomatch h)⟩, fun _ _ h => (nomatch h), fun _ _ _ h => (nomatch h),
    fun _ _ _ _ h => (nomatch h), ?_, fun _ _ h => (nomatch h)⟩
  rintro runId effectId ⟨status, h, -⟩
  cases h

def Good (w : DispatchWorld κ) : Prop :=
  Sound w ∧ (w.fleet.revision ≤ u64Max → Agreed w)

lemma Good.step (h : Good w) (hundisturbed : Undisturbed w op) : Good (w.step decode op) := by
  have hmoved := h.1.step_moved decode op
  have hsound := h.1.moved hmoved
  refine ⟨hsound, fun hrevision => ?_⟩
  have hbefore := (h.1.revision_le hmoved).trans hrevision
  exact (h.2 hbefore).moved hundisturbed hmoved (h.1.accounted hbefore) (hsound.accounted hrevision)

lemma run_good (ops : List (DispatchOp κ))
    (hops : StepsMeet (fun w op => some (step decode w op)) Undisturbed init ops) :
    Good (init.run decode ops : DispatchWorld κ) :=
  foldl_invariant_of_meets (fun _ _ hgood hundisturbed => hgood.step decode hundisturbed)
    ⟨init_agreed.sound, fun _ => init_agreed⟩ hops

/-- A settled outbox entry is not written again, and its effect is not handed out. -/
theorem Agreed.settled_kept (h : Agreed w) (hacc : w.fleet.Accounted)
    (hundisturbed : Undisturbed w op) (hmoved : Moved w op w') {runId : AgentRunId}
    {effectId : AgentEffectId} {status : OutboxStatus}
    (hstatus : w.outboxStatus runId effectId = some status) (hterminal : status.isTerminal = true) :
    w'.outboxStatus runId effectId = some status ∧
      w'.handOuts.filter (fun handOut => handOut = (runId, effectId)) =
        w.handOuts.filter (fun handOut => handOut = (runId, effectId)) := by
  have hsettled : OutboxSettled w runId effectId := ⟨status, hstatus, hterminal⟩
  have hother : ∀ {store run messageId after}, Rewritten w.workflows store run messageId after →
      ¬ (runId = run ∧ effectId.messageId = messageId) →
      (storedOutbox store runId effectId.messageId).map OutboxEntry.status = some status := by
    intro store run messageId after hrewritten hne
    rw [hrewritten.entries, if_neg hne]
    exact hstatus
  -- a claim whose holder may write the outbox is not one of a settled effect
  have hclaim : ∀ client claim, (w.phase client).claim = some claim →
      (w.phase client).recordedClaim = none → w.holdsCurrent claim w.clock = true →
      ¬ (runId = claim.runId ∧ effectId.messageId = claim.effectId.messageId) := by
    rintro client claim hclaim hnone hcurrent ⟨hrun, heffect⟩
    refine h.unsettled hacc (owned_of_phase hclaim) hcurrent hnone ?_
    rw [← hrun, ← messageId_injective heffect]
    exact hsettled
  cases hmoved with
  | skipped | elapsed ms => exact ⟨hstatus, rfl⟩
  | scheduled run command entry store hnew _ hrewritten =>
    refine ⟨hother hrewritten ?_, rfl⟩
    rintro ⟨rfl, heffect⟩
    rw [← heffect] at hnew
    change (storedOutbox w.workflows runId effectId.messageId).map OutboxEntry.status = _ at hstatus
    rw [hnew] at hstatus
    cases hstatus
  | stayed | called => exact ⟨hstatus, rfl⟩
  | marked client claim inbox entry store handOuts worker hbefore hentry hrewritten hhandOuts =>
    have hcurrent : w.holdsCurrent claim w.clock = true := by
      simpa only [Undisturbed, hbefore, advanceSafe] using hundisturbed
    have hne := hclaim client claim (by rw [hbefore]; rfl) (by rw [hbefore]; rfl) hcurrent
    refine ⟨hother hrewritten hne, ?_⟩
    show handOuts.filter _ = _
    rcases hhandOuts with rfl | rfl
    · rfl
    · rw [List.filter_append, List.filter_cons_of_neg, List.filter_nil, List.append_nil]
      simp only [Prod.mk.injEq, decide_eq_true_eq]
      rintro ⟨hrun, heffect⟩
      exact hne ⟨hrun.symm, by rw [heffect]⟩
  | answered client claim inbox result event entry after status' store hbefore hentry hrewritten =>
    have hcurrent : w.holdsCurrent claim w.clock = true := by
      simp only [Undisturbed, hbefore, answerSafe, Bool.and_eq_true] at hundisturbed
      exact hundisturbed.1.1
    exact ⟨hother hrewritten
      (hclaim client claim (by rw [hbefore]; rfl) (by rw [hbefore]; rfl) hcurrent), rfl⟩
  | settled client run effect entry store worker hunsettled hentry hcancellable hrewritten =>
    refine ⟨hother hrewritten ?_, rfl⟩
    rintro ⟨rfl, heffect⟩
    change (storedOutbox w.workflows runId effectId.messageId).map OutboxEntry.status = _ at hstatus
    rw [heffect, hentry] at hstatus
    rw [← Option.some.inj hstatus] at hterminal
    unfold OutboxEntry.isCancellable at hcancellable
    cases hs : entry.status <;> simp [hs, OutboxStatus.isTerminal] at hcancellable hterminal

/-- Once an effect is durably dispatched or cancelled, no worker hands it out again. -/
theorem settled_effect_not_handed_out (ops more : List (DispatchOp κ))
    (hops : StepsMeet (fun w op => some (step decode w op)) Undisturbed init ops)
    (hmore : StepsMeet (fun w op => some (step decode w op)) Undisturbed (init.run decode ops) more)
    (hrevision : ((init.run decode ops).run decode more : DispatchWorld κ).fleet.revision ≤ u64Max)
    (runId : AgentRunId) (effectId : AgentEffectId)
    (hsettled : (init.run decode ops : DispatchWorld κ).outboxStatus runId effectId =
        some .dispatched ∨
      (init.run decode ops : DispatchWorld κ).outboxStatus runId effectId = some .cancelled) :
    ((init.run decode ops).run decode more : DispatchWorld κ).handOuts.filter
        (fun handOut => handOut = (runId, effectId)) =
      (init.run decode ops : DispatchWorld κ).handOuts.filter
        (fun handOut => handOut = (runId, effectId)) := by
  obtain ⟨status, hstatus, hterminal⟩ :
      OutboxSettled (init.run decode ops : DispatchWorld κ) runId effectId := by
    rcases hsettled with h | h
    · exact ⟨_, h, rfl⟩
    · exact ⟨_, h, rfl⟩
  -- the entry stays settled and the hand-outs stay as they are, step after step
  let Kept : DispatchWorld κ → Prop := fun w => Good w ∧ (w.fleet.revision ≤ u64Max →
    w.outboxStatus runId effectId = some status ∧
    w.handOuts.filter (fun handOut => handOut = (runId, effectId)) =
      (init.run decode ops : DispatchWorld κ).handOuts.filter
        (fun handOut => handOut = (runId, effectId)))
  have hstart : Kept (init.run decode ops) := ⟨run_good decode ops hops, fun _ => ⟨hstatus, rfl⟩⟩
  have hkept : Kept ((init.run decode ops).run decode more) := by
    refine foldl_invariant_of_meets (fun w op hw hundisturbed => ?_) hstart hmore
    have hmoved := hw.1.1.step_moved decode op
    refine ⟨hw.1.step decode hundisturbed, fun hrev => ?_⟩
    have hbefore := (hw.1.1.revision_le hmoved).trans hrev
    obtain ⟨hstill, hsame⟩ := hw.2 hbefore
    have hnext := (hw.1.2 hbefore).settled_kept (hw.1.1.accounted hbefore) hundisturbed hmoved
      hstill hterminal
    exact ⟨hnext.1, hnext.2.trans hsame⟩
  exact (hkept.2 hrevision).2

def searchCommand : OutboxCommand :=
  ⟨⟨"call"⟩, none, .application "tool", "agent-effect", [], none, .default⟩

def searchEffect : List UInt8 → Option AgentEffect :=
  fun _ => some ⟨⟨"call"⟩, .toolCall, ⟨"tool", "search", none, ∅⟩, none, none⟩

def searchClaim (workerId : String) (fencingToken claimedAt : ℕ) : AgentDispatchClaim :=
  ⟨⟨"run:call"⟩, ⟨"run"⟩, ⟨"call"⟩, ⟨workerId⟩, fencingToken, claimedAt, claimedAt + 10, .tool,
    .toolCall⟩

def claimSearch : List (DispatchOp Bool) :=
  [.schedule ⟨"run"⟩ searchCommand, .refreshRun true ⟨"run"⟩ none, .advance true, .advance true,
    .claimDue true (.new 4 10) .any ⟨"a"⟩]

def handOutSearch : List (DispatchOp Bool) :=
  [.dispatchClaim true (searchClaim "a" 1 0), .advance true, .advance true]

/-- The worker crashes after the outbox recorded the success; when its lease has expired a second
worker claims the call and hands it out again. -/
theorem dispatched_effect_handed_out_again :
    (init.run searchEffect (claimSearch ++ handOutSearch ++ [.answer true .success,
        .restart true])).outboxStatus ⟨"run"⟩ ⟨"call"⟩ = some .dispatched ∧
      (init.run searchEffect (claimSearch ++ handOutSearch ++ [.answer true .success,
        .restart true])).handOuts.length = 1 ∧
      (init.run searchEffect (claimSearch ++ handOutSearch ++ [.answer true .success,
        .restart true, .elapse 10, .claimDue false (.new 4 10) .any ⟨"b"⟩,
        .dispatchClaim false (searchClaim "b" 2 10), .advance false, .advance false])).handOuts =
        [(⟨"run"⟩, ⟨"call"⟩), (⟨"run"⟩, ⟨"call"⟩)] := by
  decide +kernel

theorem settled_search_not_handed_out :
    (init.run searchEffect (claimSearch ++ handOutSearch ++ [.answer true .success,
        .advance true])).outboxStatus ⟨"run"⟩ ⟨"call"⟩ = some .dispatched ∧
      ((init.run searchEffect (claimSearch ++ handOutSearch ++ [.answer true .success,
          .advance true])).run searchEffect [.elapse 10, .refreshRun false ⟨"run"⟩ none,
          .advance false, .advance false, .claimDue false (.new 4 10) .any ⟨"b"⟩]).handOuts.filter
          (fun handOut => handOut = (⟨"run"⟩, ⟨"call"⟩)) =
        (init.run searchEffect (claimSearch ++ handOutSearch ++ [.answer true .success,
          .advance true])).handOuts.filter (fun handOut => handOut = (⟨"run"⟩, ⟨"call"⟩)) :=
  ⟨by decide +kernel,
    settled_effect_not_handed_out searchEffect _ _ (by decide +kernel) (by decide +kernel)
      (by decide +kernel) ⟨"run"⟩ ⟨"call"⟩ (.inl (by decide +kernel))⟩

lemma Sound.answer_recorded (h : Sound w) {claim : AgentDispatchClaim}
    {inbox : Replica WorkflowState} (hphase : w.phase client = .dispatching claim inbox)
    {result : OutboxDispatchResult} (hundisturbed : Undisturbed w (.answer client result)) :
    ∃ event outbox status, Outcome result event outbox status ∧
      (w.step decode (.answer client result)).phase client = .recorded claim result event ∧
      (w.step decode (.answer client result)).outboxStatus claim.runId claim.effectId =
        some outbox := by
  simp only [Undisturbed, hphase, answerSafe, Bool.and_eq_true] at hundisturbed
  obtain ⟨⟨-, hsees⟩, hinbox⟩ := hundisturbed
  have hcases := recordDispatch_cases claim.runId claim.effectId.messageId result w.clock
    (h.synced client claim.runId inbox (by rw [hphase]; rfl))
  simp only [step, answer, hphase, hsees, if_true]
  generalize DurableInbox.recordDispatch _ _ _ _ (inbox, w.workflows) = out at hcases
  cases hcases with
  | refused error replica hreason =>
    -- the copy shows the marked entry and carries the stored revision
    obtain ⟨record, entry, hrecord, hentry⟩ := h.shown client claim inbox hphase
    rw [inboxCurrent, hrecord, Option.any_some, decide_eq_true_eq] at hinbox
    rcases hreason record hrecord with hmissing | hconflict
    · rw [hentry] at hmissing
      cases hmissing
    · exact absurd hinbox.symm hconflict
  | written event entry after status inbox' store' hentry hrewritten houtcome =>
    refine ⟨event, after.status, status, houtcome, phase_setWorker_self _ client _, ?_⟩
    show (storedOutbox store' claim.runId claim.effectId.messageId).map OutboxEntry.status = _
    rw [hrewritten.entries, if_pos ⟨rfl, rfl⟩, Option.map_some]

lemma Agreed.outcome_settled (h : Agreed w) {claim : AgentDispatchClaim}
    {result : OutboxDispatchResult} {event : WorkflowTelemetryEvent}
    (hphase : w.phase client = .recorded claim result event)
    (hundisturbed : Undisturbed w (.advance client)) :
    ∃ outbox status entry, Outcome result event outbox status ∧
      (w.step decode (.advance client)).outboxStatus claim.runId claim.effectId = some outbox ∧
      (w.step decode (.advance client)).fleet.entry claim.dispatchId = some entry ∧
      entry.status = status := by
  simp only [Undisturbed, hphase, advanceSafe] at hundisturbed
  obtain ⟨hcoherent, hkeyed, -, -⟩ := h.sound.coherent
  obtain ⟨hholds, outbox, status, houtcome, houtbox⟩ := h.recorded client claim result event hphase
  obtain ⟨record, hcopy, hrevision⟩ := (Option.any_eq_true _ _).mp hundisturbed
  obtain ⟨entry, hentry, hcurrent⟩ := holdsCurrent_iff.mp hholds
  have hwritten := FleetWorld.ask_settles hcoherent (settles_settlingCall claim event result) hcopy
    (by simpa using hrevision) hentry hcurrent
  have heffect := FleetWorld.ask_effect hcoherent hkeyed client (settlingCall claim event result)
  have hfleet : (w.step decode (.advance client)).fleet =
      (w.fleet.ask client (settlingCall claim event result)).2 := by
    simp only [step, advance, hphase]
    rfl
  have hworkflows : (w.step decode (.advance client)).workflows = w.workflows := by
    simp only [step, advance, hphase]
    rfl
  rw [hfleet]
  generalize w.fleet.ask client (settlingCall claim event result) = out at heffect hwritten
  cases heffect with
  | quiet answer fleet _ hsame =>
    have hnext : fleet.revision = w.fleet.revision + 1 := hwritten
    omega
  | moved answer fleet hmoved =>
    obtain ⟨next, hnext, hstatus⟩ := settled_status houtcome (hmoved claim.dispatchId)
    refine ⟨outbox, status, next, houtcome, ?_, hnext, hstatus⟩
    rw [outboxStatus, hworkflows]
    exact houtbox

/-- A settled fleet entry tells what is in the outbox, and a worker that finishes records its
outcome in both, also if a cancellation was requested meanwhile. -/
theorem fleet_tells_outbox (ops : List (DispatchOp κ))
    (hops : StepsMeet (fun w op => some (step decode w op)) Undisturbed init ops)
    (hrevision : (init.run decode ops : DispatchWorld κ).fleet.revision ≤ u64Max) :
    (∀ dispatchId entry, (init.run decode ops : DispatchWorld κ).fleet.entry dispatchId = some entry →
      Truthful ((init.run decode ops : DispatchWorld κ).outboxStatus entry.runId entry.effectId)
        entry.status) ∧ (∀ client claim inbox result,
      (init.run decode ops : DispatchWorld κ).phase client = .dispatching claim inbox →
      Undisturbed (init.run decode ops : DispatchWorld κ) (.answer client result) →
      ∃ event outbox status, Outcome result event outbox status ∧
        ((init.run decode ops : DispatchWorld κ).step decode (.answer client result)).phase client =
          .recorded claim result event ∧
        ((init.run decode ops : DispatchWorld κ).step decode (.answer client result)).outboxStatus
          claim.runId claim.effectId = some outbox) ∧ ∀ client claim result event,
      (init.run decode ops : DispatchWorld κ).phase client = .recorded claim result event →
      Undisturbed (init.run decode ops : DispatchWorld κ) (.advance client) →
      ∃ outbox status entry, Outcome result event outbox status ∧
        ((init.run decode ops : DispatchWorld κ).step decode (.advance client)).outboxStatus
          claim.runId claim.effectId = some outbox ∧
        ((init.run decode ops : DispatchWorld κ).step decode (.advance client)).fleet.entry
          claim.dispatchId = some entry ∧ entry.status = status := by
  have hgood : Good (init.run decode ops : DispatchWorld κ) := run_good decode ops hops
  have hagreed := hgood.2 hrevision
  exact ⟨hagreed.fleet, fun _ _ _ _ hphase => hgood.1.answer_recorded decode hphase,
    fun _ _ _ _ hphase => hagreed.outcome_settled decode hphase⟩

/-- A second worker asks for the cancellation while the call is in flight: the first one records the
success but loses its fleet write, and the expired entry is finalized as cancelled. -/
theorem dispatched_effect_finalized_as_cancelled :
    ((init.run searchEffect (claimSearch ++ handOutSearch ++ [.cancelRunDispatches false ⟨"run"⟩,
        .answer true .success, .advance true, .elapse 10, .refreshRun false ⟨"run"⟩ none,
        .advance false])).fleet.entry ⟨"run:call"⟩).map AgentDispatchEntry.status =
        some .cancelled ∧
      (init.run searchEffect (claimSearch ++ handOutSearch ++ [.cancelRunDispatches false ⟨"run"⟩,
        .answer true .success, .advance true, .elapse 10, .refreshRun false ⟨"run"⟩ none,
        .advance false])).outboxStatus ⟨"run"⟩ ⟨"call"⟩ = some .dispatched := by
  decide +kernel

def finishCancelled : List (DispatchOp Bool) :=
  claimSearch ++ [.cancelRunDispatches false ⟨"run"⟩, .recover true] ++ handOutSearch ++
    [.answer true .success, .advance true]

theorem cancelled_search_finishes_truthfully :
    ((init.run searchEffect finishCancelled).fleet.entry ⟨"run:call"⟩).map
        (fun entry => (entry.status, entry.cancellationRequested)) = some (.completed, true) ∧
      ∀ dispatchId entry, (init.run searchEffect finishCancelled).fleet.entry dispatchId = some entry →
        Truthful ((init.run searchEffect finishCancelled).outboxStatus entry.runId entry.effectId)
          entry.status :=
  ⟨by decide +kernel,
    (fleet_tells_outbox searchEffect finishCancelled (by decide +kernel) (by decide +kernel)).1⟩

end DispatchWorld
end Rakka.AgentWorkflow
