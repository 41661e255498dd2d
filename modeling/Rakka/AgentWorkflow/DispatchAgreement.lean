import Rakka.AgentWorkflow.DispatchMoves

/-! Agreement of the fleet and the outboxes. As long as no worker is parted from its claim between
the hand-out and the fleet write, settled entries of both tell the same, and a settled effect is not
handed out again. -/

namespace Rakka.AgentWorkflow
open Foundation Rakka.Persistence Rakka.Workflow DispatchWorld AgentDispatchEntry List

namespace DispatchWorld
variable {κ : Type} {w w' : DispatchWorld κ} {client other : κ} {op : DispatchOp κ}
  {worker : DispatchWorker} {fleet fleet' : FleetWorld κ} {claim : AgentDispatchClaim}
  {runId : AgentRunId} {result : OutboxDispatchResult} {event : WorkflowTelemetryEvent}
  {outbox : OutboxStatus} {after : OutboxEntry}
  {store : InMemoryDurableStateStore WorkflowState} {claims : List AgentDispatchClaim}
  {handOuts : List (AgentRunId × AgentEffectId)} {now : AgentTimestampMillis} {call : FleetCall}
  {status : AgentDispatchStatus}

lemma Cancelled.moved (hmoved : ∀ dispatchId, AgentDispatchEntry.Moved now call dispatchId
      (claims.filter (fun claim => claim.dispatchId = dispatchId)) (fleet.entry dispatchId)
      (fleet'.entry dispatchId)) {effectId : AgentEffectId} (h : fleet.Cancelled runId effectId) :
    fleet'.Cancelled runId effectId := by
  obtain ⟨entry, hentry, hrun, heffect, hstatus⟩ := h
  have hmove := hmoved (agentDispatchId runId effectId)
  rw [hentry] at hmove
  exact ⟨entry, hmove.terminal_kept (by rw [hstatus]; rfl), hrun, heffect, hstatus⟩

lemma holdsCurrent_iff :
    w.holdsCurrent claim now = true ↔ ∃ entry, w.fleet.entry claim.dispatchId = some entry ∧
      entry.isCurrentClaim claim now = true :=
  Option.any_eq_true _ _

lemma outboxStatus_rewritten {messageId : OutboxMessageId} (hworkflows : w'.workflows = store)
    (hrewritten : Rewritten w.workflows store runId messageId after) (other : AgentRunId)
    (effectId : AgentEffectId) : w'.outboxStatus other effectId =
      if other = runId ∧ effectId.messageId = messageId then some after.status
      else w.outboxStatus other effectId := by
  have hentry := hrewritten.entries other effectId.messageId
  show (storedOutbox w'.workflows other effectId.messageId).map OutboxEntry.status = _
  rw [hworkflows, hentry]
  split_ifs <;> rfl

lemma outboxStatus_kept (h : w'.workflows = w.workflows) (runId : AgentRunId)
    (effectId : AgentEffectId) : w'.outboxStatus runId effectId =
      if False then some .pending else w.outboxStatus runId effectId := by
  rw [if_neg not_false, outboxStatus, outboxStatus, h]

lemma owned_of_phase (h : (w.phase client).claim = some claim) : claim ∈ (w.worker client).owned :=
  mem_append_right _ (Option.mem_toList.mpr h)

lemma recorded_of_recordedClaim {phase : WorkerPhase} (h : phase.recordedClaim = some claim) :
    ∃ result event, phase = .recorded claim result event := by
  cases phase with
  | recorded given result event =>
    cases h
    exact ⟨result, event, rfl⟩
  | _ => cases h

lemma owned_of_recorded (h : (w.phase client).recordedClaim = some claim) :
    claim ∈ (w.worker client).owned := by
  obtain ⟨result, event, hphase⟩ := recorded_of_recordedClaim h
  exact owned_of_phase (by rw [hphase]; rfl)

lemma fresh_claim (hacc : fleet'.Accounted) (hissued : fleet'.issued = fleet.issued ++ claims)
    (hclaim : claim ∈ claims) : claim ∉ fleet.issued := by
  intro hold
  have hincreasing := hacc.increasing claim.dispatchId
  rw [FleetWorld.issuedFor, hissued, filter_append] at hincreasing
  have hless := (pairwise_append.mp hincreasing).2.2 claim
    (mem_filter.mpr ⟨hold, by simp⟩) claim (mem_filter.mpr ⟨hclaim, by simp⟩)
  exact lt_irrefl _ hless

lemma Fits.owned_before (h : Fits w client fleet store [] worker) :
    ∀ claim ∈ worker.owned, claim ∈ (w.worker client).owned := by
  intro claim hclaim
  rcases h.owned claim hclaim with hold | hnew
  · exact hold
  · cases hnew

variable [DecidableEq κ]

variable (w)

lemma phase_setWorker_self (client : κ) (worker : DispatchWorker) :
    (w.setWorker client worker).phase client = worker.phase :=
  congrArg DispatchWorker.phase (Function.update_self _ _ _)

lemma worker_setWorker_self (client : κ) (worker : DispatchWorker) :
    (w.setWorker client worker).worker client = worker := Function.update_self _ _ _

lemma worker_setWorker_of_ne (h : other ≠ client) (worker : DispatchWorker) :
    (w.setWorker client worker).worker other = w.worker other :=
  Function.update_of_ne h _ _

lemma phase_setWorker_of_ne (h : other ≠ client) (worker : DispatchWorker) :
    (w.setWorker client worker).phase other = w.phase other := by
  rw [phase, worker_setWorker_of_ne w h, phase]

variable {w}

lemma forall_setWorker {P : WorkerPhase → Prop} (hself : P worker.phase)
    (hothers : ∀ other, P (w.phase other)) (other : κ) :
    P ((w.setWorker client worker).phase other) := by
  by_cases hother : other = client
  · subst hother
    rw [phase_setWorker_self]
    exact hself
  · rw [phase_setWorker_of_ne w hother]
    exact hothers other

theorem Sound.setWorker (h : Sound w) (hfleet : ∃ ops, fleet = w.fleet.run ops)
    (hcancelled : ∀ runId effectId, w.fleet.Cancelled runId effectId →
      fleet.Cancelled runId effectId)
    (holder : ∀ runId record, Tracks w.workflows runId record → Tracks store runId record)
    (hfits : Fits w client fleet store claims worker) :
    Sound (setWorker ⟨fleet, store, w.worker, handOuts⟩ client worker) := by
  obtain ⟨before, hbefore⟩ := h.fleet
  obtain ⟨ops, hops⟩ := hfleet
  refine ⟨⟨before ++ ops, ?_⟩, ?_, ?_, ?_⟩
  · show fleet = _
    rw [hops, hbefore, FleetWorld.run, FleetWorld.run, FleetWorld.run, foldl_append]
  · exact forall_setWorker (P := fun phase => ∀ runId inbox, phase.inbox = some (runId, inbox) →
      ∀ record, inbox.record = some record → Tracks store runId record) hfits.synced
      (fun other runId inbox hinbox record hrecord =>
        holder runId record (h.synced other runId inbox hinbox record hrecord))
  · exact forall_setWorker (P := fun phase => ∀ runId effectId,
      (runId, effectId) ∈ phase.unsettled → fleet.Cancelled runId effectId) hfits.unsettled
      (fun other runId effectId hmem =>
        hcancelled runId effectId (h.unsettled other runId effectId hmem))
  · exact forall_setWorker (P := fun phase => ∀ claim inbox, phase = .dispatching claim inbox →
      ∃ record entry, inbox.record = some record ∧
        record.state.outboxEntry claim.effectId.messageId = some entry) hfits.shown h.shown

lemma Sound.moved (h : Sound w) (hmoved : Moved w op w') : Sound w' := by
  cases hmoved with
  | skipped => exact h
  | elapsed ms =>
    obtain ⟨ops, hfleet⟩ := h.fleet
    refine ⟨⟨ops ++ [.elapse ms], ?_⟩, h.synced, h.unsettled, h.shown⟩
    rw [FleetWorld.run_concat, ← hfleet]
  | scheduled runId command entry store hnew hstatus hrewritten =>
    refine ⟨h.fleet, fun client run inbox hinbox record hrecord => ?_, h.unsettled, h.shown⟩
    exact hrewritten.older run record (h.synced client run inbox hinbox record hrecord)
  | stayed _ client ops fleet worker hfleet hentry hissued hclock hfits =>
    refine h.setWorker ⟨ops, hfleet⟩ (fun runId effectId hcancelled => ?_) (fun _ _ => id) hfits
    rw [FleetWorld.Cancelled, hentry]
    exact hcancelled
  | called _ client call fleet claims worker hfleet hmoved hissued hclock hfits =>
    exact h.setWorker ⟨_, hfleet⟩ (fun runId effectId => Cancelled.moved hmoved) (fun _ _ => id) hfits
  | marked client claim inbox entry store handOuts worker hbefore hentry hrewritten _ hfits =>
    exact h.setWorker ⟨[], rfl⟩ (fun _ _ => id) hrewritten.older hfits
  | answered client claim inbox result event entry after status store hbefore hentry hrewritten =>
    refine h.setWorker ⟨[], rfl⟩ (fun _ _ => id) hrewritten.older
      (fits_phase w client _ _ (fun other hother => ?_) (fun _ _ hinbox => nomatch hinbox)
        (fun _ _ hmem => nomatch hmem) (fun _ _ hphase => nomatch hphase))
    rw [hbefore]
    exact hother
  | settled client runId effectId entry store worker _ hentry _ hrewritten hfits =>
    exact h.setWorker ⟨[], rfl⟩ (fun _ _ => id) hrewritten.older hfits

def OutboxSettled (w : DispatchWorld κ) (runId : AgentRunId) (effectId : AgentEffectId) : Prop :=
  ∃ status, w.outboxStatus runId effectId = some status ∧ status.isTerminal = true

/-- A settled fleet entry tells what is in the outbox. -/
def Truthful (outbox : Option OutboxStatus) (status : AgentDispatchStatus) : Prop :=
  (status = .completed → outbox = some .dispatched) ∧
  (status = .exhausted → outbox = some .exhausted) ∧
  (status = .cancelled → outbox ≠ some .dispatched ∧ outbox ≠ some .exhausted)

lemma truthful_of_open {outbox : Option OutboxStatus} (h : status.isTerminal = false) :
    Truthful outbox status := by
  refine ⟨?_, ?_, ?_⟩ <;> rintro rfl <;> cases h

lemma truthful_of_outcome (h : Outcome result event outbox status) :
    Truthful (some outbox) status := by
  cases h <;> simp [Truthful]

/-- The fleet and the outboxes tell the same, but for a worker that has recorded an outcome and not
told the fleet. -/
structure Agreed (w : DispatchWorld κ) : Prop where
  sound : Sound w
  issued : ∀ client, ∀ claim ∈ (w.worker client).owned, claim ∈ w.fleet.issued
  single : ∀ client other claim, claim ∈ (w.worker client).owned →
    claim ∈ (w.worker other).owned → client = other
  recorded : ∀ client claim result event, w.phase client = .recorded claim result event →
    w.holdsCurrent claim w.clock = true ∧ ∃ outbox status, Outcome result event outbox status ∧
      w.outboxStatus claim.runId claim.effectId = some outbox
  outbox : ∀ runId effectId, OutboxSettled w runId effectId →
    (∃ entry, w.fleet.entry (agentDispatchId runId effectId) = some entry ∧
      entry.status.isTerminal = true) ∨
    ∃ client claim, (w.phase client).recordedClaim = some claim ∧ claim.runId = runId ∧
      claim.effectId = effectId
  fleet : ∀ dispatchId entry, w.fleet.entry dispatchId = some entry →
    Truthful (w.outboxStatus entry.runId entry.effectId) entry.status

section
variable (h : Agreed w)
variable {claim' : AgentDispatchClaim}

include h

lemma Agreed.recorded_claim (hrecorded : (w.phase client).recordedClaim = some claim) :
    w.holdsCurrent claim w.clock = true ∧ ∃ result event,
      w.phase client = .recorded claim result event ∧ ∃ outbox status,
        Outcome result event outbox status ∧
          w.outboxStatus claim.runId claim.effectId = some outbox := by
  obtain ⟨result, event, hphase⟩ := recorded_of_recordedClaim hrecorded
  obtain ⟨hcurrent, houtcome⟩ := h.recorded client claim result event hphase
  exact ⟨hcurrent, result, event, hphase, houtcome⟩

lemma Agreed.entry_id {dispatchId : AgentDispatchId} {entry : AgentDispatchEntry}
    (hentry : w.fleet.entry dispatchId = some entry) :
    dispatchId = agentDispatchId entry.runId entry.effectId := by
  obtain ⟨-, hkeyed, hidentified, -⟩ := h.sound.coherent
  exact (hkeyed dispatchId entry hentry).symm.trans (hidentified.formed dispatchId entry hentry)

lemma Agreed.claim_entry (hown : claim ∈ (w.worker client).owned) :
    claim.dispatchId = agentDispatchId claim.runId claim.effectId ∧
      ∃ entry, w.fleet.entry claim.dispatchId = some entry ∧ entry.runId = claim.runId ∧
        entry.effectId = claim.effectId := by
  obtain ⟨-, -, hidentified, -⟩ := h.sound.coherent
  obtain ⟨entry, hentry, hrun, heffect⟩ := hidentified.claims claim (h.issued client claim hown)
  refine ⟨?_, entry, hentry, hrun, heffect⟩
  rw [← hrun, ← heffect]
  exact h.entry_id hentry

section
variable (hacc : w.fleet.Accounted) (hown : claim ∈ (w.worker client).owned)
include hacc hown

lemma Agreed.exclusive (hown' : claim' ∈ (w.worker other).owned)
    (hid : claim.dispatchId = claim'.dispatchId) (hcurrent : w.holdsCurrent claim w.clock = true)
    (hcurrent' : w.holdsCurrent claim' w.clock = true) : client = other := by
  obtain ⟨entry, hentry, hclaim⟩ := holdsCurrent_iff.mp hcurrent
  obtain ⟨entry', hentry', hclaim'⟩ := holdsCurrent_iff.mp hcurrent'
  rw [← hid, hentry] at hentry'
  cases hentry'
  obtain ⟨-, lease, hlease, -, htoken, -⟩ := claimed_of_current hclaim
  obtain ⟨-, lease', hlease', -, htoken', -⟩ := claimed_of_current hclaim'
  have hsame : lease = lease' := Option.some.inj (hlease.symm.trans hlease')
  have hissued : claim ∈ w.fleet.issuedFor claim.dispatchId :=
    mem_filter.mpr ⟨h.issued client claim hown, by simp⟩
  have hissued' : claim' ∈ w.fleet.issuedFor claim.dispatchId :=
    mem_filter.mpr ⟨h.issued other claim' hown', by simp [hid]⟩
  have heq : claim = claim' := hacc.claim_unique hissued hissued' (by rw [← htoken, ← htoken', hsame])
  exact h.single client other claim hown (heq ▸ hown')

lemma Agreed.recorded_free (hcurrent : w.holdsCurrent claim w.clock = true)
    (hphase : (w.phase client).recordedClaim = none)
    (hrecorded : (w.phase other).recordedClaim = some claim') :
    ¬ (claim'.runId = claim.runId ∧ claim'.effectId = claim.effectId) := by
  rintro ⟨hrun, heffect⟩
  have hown' := owned_of_recorded hrecorded
  have hid : claim.dispatchId = claim'.dispatchId := by
    rw [(h.claim_entry hown).1, (h.claim_entry hown').1, hrun, heffect]
  have hsame := h.exclusive hacc hown hown' hid hcurrent (h.recorded_claim hrecorded).1
  rw [hsame, hrecorded] at hphase
  cases hphase

lemma Agreed.unsettled (hcurrent : w.holdsCurrent claim w.clock = true)
    (hphase : (w.phase client).recordedClaim = none) :
    ¬ OutboxSettled w claim.runId claim.effectId := by
  intro hsettled
  obtain ⟨entry, hentry, hclaim⟩ := holdsCurrent_iff.mp hcurrent
  rcases h.outbox claim.runId claim.effectId hsettled with
    ⟨entry', hentry', hterminal⟩ | ⟨other, claim', hrecorded, hrun, heffect⟩
  · rw [← (h.claim_entry hown).1, hentry] at hentry'
    cases hentry'
    rw [(claimed_of_current hclaim).1] at hterminal
    cases hterminal
  · exact h.recorded_free hacc hown hcurrent hphase hrecorded ⟨hrun, heffect⟩

end

lemma Agreed.claimed_entry (hown : claim ∈ (w.worker client).owned)
    (hcurrent : w.holdsCurrent claim w.clock = true) {dispatchId : AgentDispatchId}
    {entry : AgentDispatchEntry} (hentry : w.fleet.entry dispatchId = some entry)
    (hrun : entry.runId = claim.runId) (heffect : entry.effectId = claim.effectId) :
    entry.status = .claimed := by
  obtain ⟨entry', hentry', hclaim⟩ := holdsCurrent_iff.mp hcurrent
  have hid : dispatchId = claim.dispatchId := by
    rw [(h.claim_entry hown).1, ← hrun, ← heffect]
    exact h.entry_id hentry
  rw [hid, hentry'] at hentry
  cases hentry
  exact (claimed_of_current hclaim).1

lemma Agreed.rewritten (hsound : Sound w') (hentry : w'.fleet.entry = w.fleet.entry)
    (hissued : w'.fleet.issued = w.fleet.issued) {mine : AgentRunId → AgentEffectId → Prop}
    [∀ runId effectId, Decidable (mine runId effectId)]
    (hstatus : ∀ runId effectId, w'.outboxStatus runId effectId =
      if mine runId effectId then some outbox else w.outboxStatus runId effectId)
    (howned : ∀ client, ∀ claim ∈ (w'.worker client).owned, claim ∈ (w.worker client).owned)
    (hphases : ∀ client, w'.phase client = w.phase client ∨ (w.phase client).recordedClaim = none ∧
        ∀ claim result event, w'.phase client = .recorded claim result event →
          w.holdsCurrent claim w'.clock = true ∧ mine claim.runId claim.effectId ∧
          ∃ status, Outcome result event outbox status)
    (hkept : ∀ client claim, (w.phase client).recordedClaim = some claim →
      w.holdsCurrent claim w'.clock = true ∧ ¬ mine claim.runId claim.effectId)
    (hsettled : outbox.isTerminal = true → ∀ runId effectId, mine runId effectId →
      (∃ entry, w.fleet.entry (agentDispatchId runId effectId) = some entry ∧
        entry.status.isTerminal = true) ∨
      ∃ client claim, (w'.phase client).recordedClaim = some claim ∧ claim.runId = runId ∧
        claim.effectId = effectId)
    (hentries : ∀ dispatchId entry, w.fleet.entry dispatchId = some entry →
      mine entry.runId entry.effectId → Truthful (some outbox) entry.status) : Agreed w' := by
  refine ⟨hsound, ?_, ?_, ?_, ?_, ?_⟩
  · intro client claim hown
    rw [hissued]
    exact h.issued client claim (howned client claim hown)
  · exact fun client other claim hown hown' =>
      h.single client other claim (howned client claim hown) (howned other claim hown')
  · intro client claim result event hphase
    rw [holdsCurrent, hentry, hstatus]
    rcases hphases client with hsame | ⟨-, hnew⟩
    · rw [hsame] at hphase
      obtain ⟨hcurrent, hfree⟩ := hkept client claim (by rw [hphase]; rfl)
      rw [if_neg hfree]
      exact ⟨hcurrent, (h.recorded client claim result event hphase).2⟩
    · obtain ⟨hcurrent, hmine, status, houtcome⟩ := hnew claim result event hphase
      rw [if_pos hmine]
      exact ⟨hcurrent, _, status, houtcome, rfl⟩
  · intro run effectId hdone
    rw [OutboxSettled, hstatus] at hdone
    rw [hentry]
    split_ifs at hdone with hmine
    · obtain ⟨status, heq, hterminal⟩ := hdone
      rw [← Option.some.inj heq] at hterminal
      exact hsettled hterminal run effectId hmine
    · refine (h.outbox run effectId hdone).imp id ?_
      rintro ⟨client, claim, hrecorded, hrun, heffect⟩
      rcases hphases client with hsame | ⟨hnone, -⟩
      · exact ⟨client, claim, hsame ▸ hrecorded, hrun, heffect⟩
      · rw [hrecorded] at hnone
        cases hnone
  · intro dispatchId entry hfound
    rw [hentry] at hfound
    rw [hstatus]
    split_ifs with hmine
    · exact hentries dispatchId entry hfound hmine
    · exact h.fleet dispatchId entry hfound

end

theorem settled_status (houtcome : Outcome result event outbox status)
    {before after : Option AgentDispatchEntry}
    (hmoved : AgentDispatchEntry.Moved now (settlingCall claim event result) claim.dispatchId claims
      before after) : ∃ next, after = some next ∧ next.status = status := by
  have hsettles := settles_settlingCall claim event result
  cases hmoved with
  | registered hregistered hcall => exact absurd rfl (hcall claim hsettles)
  | claimed _ _ _ _ hcall | requested _ _ hcall | cancelled _ _ _ hcall =>
    cases hsettles.symm.trans hcall
  | completed entry settled hcall =>
    refine ⟨_, rfl, ?_⟩
    cases houtcome with
    | success => rfl
    | retried _ _ hresult | exhausted _ _ hresult =>
      cases result <;> first | exact absurd rfl hresult | cases hcall
  | recorded entry settled event' hcall =>
    refine ⟨_, rfl, ?_⟩
    cases houtcome with
    | success => cases hcall
    | retried _ _ hresult hevent | exhausted _ _ hresult hevent =>
      cases result <;> first | exact absurd rfl hresult | (cases hcall; exact hevent entry now)

lemma Agreed.moved_truthful (h : Agreed w) {dispatchId : AgentDispatchId}
    {next : AgentDispatchEntry}
    (hmoved : AgentDispatchEntry.Moved w.clock call dispatchId claims (w.fleet.entry dispatchId)
      (some next)) (hcall : ∀ claim, call.settles = some claim → dispatchId ≠ claim.dispatchId) :
    Truthful (w.outboxStatus next.runId next.effectId) next.status := by
  generalize hbefore : w.fleet.entry dispatchId = before at hmoved
  cases hmoved with
  | registered hregistered =>
    cases hregistered with
    | kept => exact h.fleet dispatchId next hbefore
    | created _ hid hformed hstatus =>
      rw [hstatus]
      exact truthful_of_open rfl
    | refreshed entry _ hid hrun heffect hopen htoken hrequest hlease =>
      refine truthful_of_open ?_
      simp only [isClosed, Bool.or_eq_false_iff] at hopen
      rcases hlease with ⟨hstatus, -⟩ | ⟨hstatus, -, -⟩
      · rw [hstatus]
        exact hopen.2
      · rw [hstatus]
        rfl
  | claimed => exact truthful_of_open rfl
  | completed entry claim hsettled hid hcurrent
  | recorded entry claim event hsettled hid =>
    exact absurd hid.symm (hcall claim (by rw [hsettled]; rfl))
  | requested entry hflight =>
    refine truthful_of_open ?_
    simp only [isInFlightAt, Bool.and_eq_true, decide_eq_true_eq] at hflight
    show entry.status.isTerminal = false
    rw [hflight.1]
    rfl
  | cancelled entry hstatus hflight =>
    have hopen : ¬ OutboxSettled w entry.runId entry.effectId := by
      intro hsettled
      have hid := h.entry_id hbefore
      rcases h.outbox entry.runId entry.effectId hsettled with
        ⟨entry', hentry', hterminal⟩ | ⟨other, claim, hrecorded, hrun, heffect⟩
      · rw [← hid, hbefore] at hentry'
        cases hentry'
        cases hterminal.symm.trans hstatus
      · -- a worker that has recorded an outcome holds the entry in flight
        obtain ⟨entry', hentry', hcurrent⟩ := holdsCurrent_iff.mp (h.recorded_claim hrecorded).1
        rw [(h.claim_entry (owned_of_recorded hrecorded)).1, hrun, heffect, ← hid, hbefore] at hentry'
        cases hentry'
        cases (inFlight_of_current hcurrent).symm.trans hflight
    refine ⟨fun hs => AgentDispatchStatus.noConfusion hs,
      fun hs => AgentDispatchStatus.noConfusion hs, fun _ => ⟨fun heq => ?_, fun heq => ?_⟩⟩
    · exact hopen ⟨_, heq, rfl⟩
    · exact hopen ⟨_, heq, rfl⟩

theorem Agreed.called (h : Agreed w) (hacc : w.fleet.Accounted)
    (hsound : Sound ({ w with fleet }.setWorker client worker)) (hacc' : fleet.Accounted)
    (hmoved : ∀ dispatchId, AgentDispatchEntry.Moved w.clock call dispatchId
      (claims.filter (fun claim => claim.dispatchId = dispatchId)) (w.fleet.entry dispatchId)
      (fleet.entry dispatchId)) (hissued : fleet.issued = w.fleet.issued ++ claims)
    (hclock : fleet.clock = w.fleet.clock)
    (howned : ∀ claim ∈ worker.owned, claim ∈ (w.worker client).owned ∨ claim ∈ claims)
    (hphase : worker.phase.recordedClaim = none)
    (hsettles : call.settles = (w.phase client).recordedClaim)
    (hcall : ∀ claim result event, w.phase client = .recorded claim result event →
      call = settlingCall claim event result) :
    Agreed ({ w with fleet }.setWorker client worker) := by
  -- what a worker owns it owned before, or it is the caller and the claim is new
  have hwas : ∀ other claim, claim ∈ ((({ w with fleet } : DispatchWorld κ).setWorker client
      worker).worker other).owned → claim ∈ (w.worker other).owned ∨ other = client ∧ claim ∈ claims := by
    intro other claim hown
    by_cases hother : other = client
    · subst hother
      rw [worker_setWorker_self] at hown
      exact (howned claim hown).imp id (fun hnew => ⟨rfl, hnew⟩)
    · rw [worker_setWorker_of_ne _ hother] at hown
      exact .inl hown
  have hkept : ∀ other claim, other ≠ client → (w.phase other).recordedClaim = some claim →
      (({ w with fleet } : DispatchWorld κ).setWorker client worker).holdsCurrent claim w.clock = true := by
    intro other claim hother hrecorded
    have hcurrent := (h.recorded_claim hrecorded).1
    obtain ⟨entry, hentry, hclaim⟩ := holdsCurrent_iff.mp hcurrent
    have hmove := hmoved claim.dispatchId
    rw [hentry] at hmove
    rcases hmove.current_kept hclaim with ⟨next, hnext, hcurrent'⟩ | ⟨settled, hsettled, hid, hthis⟩
    · exact holdsCurrent_iff.mpr ⟨next, hnext, hcurrent'⟩
    · -- the settled claim is that of the caller, and only one worker holds a current claim
      have hmine := hsettles.symm.trans hsettled
      have hholds : w.holdsCurrent settled w.clock = true :=
        holdsCurrent_iff.mpr ⟨entry, hid ▸ hentry, hthis⟩
      exact absurd (h.exclusive hacc (owned_of_recorded hrecorded) (owned_of_recorded hmine) hid.symm
        hcurrent hholds) hother
  refine ⟨hsound, ?_, ?_, ?_, ?_, ?_⟩
  · intro other claim hown
    show claim ∈ fleet.issued
    rw [hissued]
    rcases hwas other claim hown with hold | ⟨-, hnew⟩
    · exact mem_append_left _ (h.issued other claim hold)
    · exact mem_append_right _ hnew
  · intro other third claim hown hown'
    rcases hwas other claim hown with hold | ⟨hother, hnew⟩
    · rcases hwas third claim hown' with hold' | ⟨-, hnew'⟩
      · exact h.single other third claim hold hold'
      · exact absurd (h.issued other claim hold) (fresh_claim hacc' hissued hnew')
    · rcases hwas third claim hown' with hold' | ⟨hthird, -⟩
      · exact absurd (h.issued third claim hold') (fresh_claim hacc' hissued hnew)
      · exact hother.trans hthird.symm
  · intro other claim result event hrecorded
    by_cases hother : other = client
    · subst hother
      rw [phase_setWorker_self] at hrecorded
      rw [hrecorded] at hphase
      cases hphase
    · rw [phase_setWorker_of_ne _ hother] at hrecorded
      refine ⟨?_, (h.recorded other claim result event hrecorded).2⟩
      show holdsCurrent _ claim fleet.clock = true
      rw [hclock]
      exact hkept other claim hother (by
        rw [show w.phase other = _ from hrecorded]
        rfl)
  · intro runId effectId hsettled
    rcases h.outbox runId effectId hsettled with
      ⟨entry, hentry, hterminal⟩ | ⟨other, claim, hrecorded, hrun, heffect⟩
    · have hmove := hmoved (agentDispatchId runId effectId)
      rw [hentry] at hmove
      exact .inl ⟨entry, hmove.terminal_kept hterminal, hterminal⟩
    · by_cases hother : other = client
      · subst hother
        obtain ⟨-, result, event, hphase', outbox, status, houtcome, houtbox⟩ :=
          h.recorded_claim hrecorded
        have hmove := hmoved claim.dispatchId
        rw [hcall claim result event hphase'] at hmove
        obtain ⟨next, hnext, hstatus⟩ := settled_status houtcome hmove
        rw [(h.claim_entry (owned_of_recorded hrecorded)).1, hrun, heffect] at hnext
        refine .inl ⟨next, hnext, ?_⟩
        rw [hstatus]
        obtain ⟨settled, hsettledStatus, hterminal⟩ := hsettled
        rw [hrun, heffect] at houtbox
        have heq : outbox = settled := Option.some.inj (houtbox.symm.trans hsettledStatus)
        rw [← heq] at hterminal
        cases houtcome with
        | success => rfl
        | retried => cases hterminal
        | exhausted => rfl
      · exact .inr ⟨other, claim, by rw [phase_setWorker_of_ne _ hother]; exact hrecorded, hrun,
          heffect⟩
  · intro dispatchId next hnext
    have hmove := hmoved dispatchId
    rw [show fleet.entry dispatchId = some next from hnext] at hmove
    show Truthful (w.outboxStatus next.runId next.effectId) next.status
    by_cases hmine : ∃ claim, call.settles = some claim ∧ dispatchId = claim.dispatchId
    · -- the entry the caller settles
      obtain ⟨claim, hclaim, rfl⟩ := hmine
      have hrecorded := hsettles.symm.trans hclaim
      obtain ⟨-, result, event, hphase', outbox, status, houtcome, houtbox⟩ :=
        h.recorded_claim hrecorded
      obtain ⟨-, entry, hentry, hrun, heffect⟩ := h.claim_entry (owned_of_recorded hrecorded)
      rw [hentry] at hmove
      obtain ⟨next', heq, -, hrun', heffect'⟩ := hmove.identity
      cases heq
      rw [hcall claim result event hphase'] at hmove
      obtain ⟨next', heq, hstatus⟩ := settled_status houtcome hmove
      cases heq
      rw [hstatus, hrun', heffect', hrun, heffect, houtbox]
      exact truthful_of_outcome houtcome
    · exact h.moved_truthful hmove (fun claim hclaim hid => hmine ⟨claim, hclaim, hid⟩)

lemma messageId_injective {first second : AgentEffectId} (h : first.messageId = second.messageId) :
    first = second := by
  obtain ⟨first⟩ := first
  obtain ⟨second⟩ := second
  exact congrArg AgentEffectId.mk (congrArg OutboxMessageId.value h)

lemma phases_setWorker (hbefore : (w.phase client).recordedClaim = none)
    {P : AgentDispatchClaim → OutboxDispatchResult → WorkflowTelemetryEvent → Prop}
    (hself : ∀ claim result event, worker.phase = .recorded claim result event → P claim result event)
    (other : κ) : (setWorker ⟨fleet, store, w.worker, handOuts⟩ client worker).phase other =
        w.phase other ∨ (w.phase other).recordedClaim = none ∧ ∀ claim result event,
      (setWorker ⟨fleet, store, w.worker, handOuts⟩ client worker).phase other =
        .recorded claim result event → P claim result event := by
  by_cases hother : other = client
  · subst hother
    rw [phase_setWorker_self]
    exact .inr ⟨hbefore, hself⟩
  · exact .inl (phase_setWorker_of_ne _ hother worker)

lemma owned_setWorker (hself : ∀ claim ∈ worker.owned, claim ∈ (w.worker client).owned)
    (other : κ) : ∀ claim ∈ ((setWorker ⟨fleet, store, w.worker, handOuts⟩ client worker).worker
      other).owned, claim ∈ (w.worker other).owned := by
  by_cases hother : other = client
  · subst hother
    rw [worker_setWorker_self]
    exact hself
  · rw [worker_setWorker_of_ne _ hother]
    exact fun _ => id

lemma Agreed.claim_rewritten (h : Agreed w) (hacc : w.fleet.Accounted)
    (hsound : Sound (setWorker ⟨w.fleet, store, w.worker, handOuts⟩ client worker))
    (hclaim : (w.phase client).claim = some claim) (hbefore : (w.phase client).recordedClaim = none)
    (hcurrent : w.holdsCurrent claim w.clock = true)
    (hrewritten : Rewritten w.workflows store claim.runId claim.effectId.messageId after)
    (howned : ∀ claim ∈ worker.owned, claim ∈ (w.worker client).owned)
    (hphase : ∀ claim' result event, worker.phase = .recorded claim' result event →
      claim' = claim ∧ ∃ status, Outcome result event after.status status)
    (hsettled : after.status.isTerminal = true → worker.phase.recordedClaim = some claim) :
    Agreed (setWorker ⟨w.fleet, store, w.worker, handOuts⟩ client worker) := by
  have hown := owned_of_phase hclaim
  refine h.rewritten hsound rfl rfl (outboxStatus_rewritten rfl hrewritten) (owned_setWorker howned)
    (phases_setWorker hbefore fun claim' result event hrecorded => ?_)
    (fun other claim' hrecorded => ⟨(h.recorded_claim hrecorded).1, fun hmine => ?_⟩)
    (fun hterminal runId effectId hmine => ?_) (fun dispatchId entry hentry hmine => ?_)
  · obtain ⟨rfl, houtcome⟩ := hphase claim' result event hrecorded
    exact ⟨hcurrent, ⟨rfl, rfl⟩, houtcome⟩
  · exact h.recorded_free hacc hown hcurrent hbefore hrecorded
      ⟨hmine.1, messageId_injective hmine.2⟩
  · refine .inr ⟨client, claim, ?_, hmine.1.symm, messageId_injective hmine.2.symm⟩
    rw [phase_setWorker_self]
    exact hsettled hterminal
  · refine truthful_of_open ?_
    rw [h.claimed_entry hown hcurrent hentry hmine.1 (messageId_injective hmine.2)]
    rfl

lemma Agreed.moved (h : Agreed w) (hundisturbed : Undisturbed w op) (hmoved : Moved w op w')
    (hacc : w.fleet.Accounted) (hacc' : w'.fleet.Accounted) : Agreed w' := by
  have hsound := h.sound.moved hmoved
  cases hmoved with
  | skipped => exact h
  | elapsed =>
    refine h.rewritten hsound rfl rfl (outboxStatus_kept rfl) (fun _ _ => id) (fun _ => .inl rfl)
      (fun client claim hclaim => ⟨?_, not_false⟩) (fun _ _ _ => False.elim) (fun _ _ _ => False.elim)
    have hholds := hundisturbed client
    rw [hclaim] at hholds
    exact hholds
  | scheduled runId command entry store hnew hstatus hrewritten =>
    have hnone : ∀ effectId : AgentEffectId, effectId.messageId = command.messageId →
        w.outboxStatus runId effectId = none := by
      intro effectId heffect
      show (storedOutbox w.workflows runId effectId.messageId).map OutboxEntry.status = none
      rw [heffect, hnew, Option.map_none]
    refine h.rewritten hsound rfl rfl (outboxStatus_rewritten rfl hrewritten) (fun _ _ => id)
      (fun _ => .inl rfl) (fun client claim hclaim => ⟨(h.recorded_claim hclaim).1, fun hmine => ?_⟩)
      (fun hterminal => ?_) (fun dispatchId entry hentry ⟨hrun, heffect⟩ => ?_)
    · obtain ⟨-, result, event, -, outbox, status, -, houtbox⟩ := h.recorded_claim hclaim
      rw [hmine.1, hnone _ hmine.2] at houtbox
      cases houtbox
    · rw [hstatus] at hterminal
      cases hterminal
    · have hbefore := h.fleet dispatchId entry hentry
      rw [hrun, hnone _ heffect] at hbefore
      rw [hstatus]
      exact ⟨fun hs => (nomatch hbefore.1 hs), fun hs => (nomatch hbefore.2.1 hs),
        fun _ => ⟨by simp, by simp⟩⟩
  | stayed _ client ops fleet worker hfleet hentry hissued hclock hfits hphase hbefore =>
    have hnone : (w.phase client).recordedClaim = none := by
      cases hclaim : (w.phase client).recordedClaim with
      | none => rfl
      | some claim =>
        -- a recorded outcome is lost by a crash or by a write that fails
        obtain ⟨hcurrent, result, event, hrecorded, -⟩ := h.recorded_claim hclaim
        rcases hbefore claim hclaim with rfl | ⟨rfl, hlost⟩
        · simp [Undisturbed, hclaim] at hundisturbed
        · simp only [Undisturbed, hrecorded, advanceSafe] at hundisturbed
          rw [hundisturbed, hcurrent] at hlost
          simp at hlost
    refine h.rewritten hsound hentry hissued (outboxStatus_kept rfl) (owned_setWorker hfits.owned_before)
      (phases_setWorker hnone fun claim result event hrecorded => ?_)
      (fun other claim hclaim => ⟨?_, not_false⟩) (fun _ _ _ => False.elim) (fun _ _ _ => False.elim)
    · rw [hrecorded] at hphase
      cases hphase
    · show w.holdsCurrent claim fleet.clock = true
      rw [hclock]
      exact (h.recorded_claim hclaim).1
  | called _ client call fleet claims worker hfleet hmoved hissued hclock hfits hphase hsettles hcall =>
    exact h.called hacc hsound hacc' hmoved hissued hclock hfits.owned hphase hsettles hcall
  | marked client claim inbox entry store handOuts worker hbefore hentry hrewritten hhandOuts hfits
      hphase =>
    have hcurrent : w.holdsCurrent claim w.clock = true := by
      simpa only [Undisturbed, hbefore, advanceSafe] using hundisturbed
    refine h.claim_rewritten hacc hsound (by rw [hbefore]; rfl) (by rw [hbefore]; rfl) hcurrent
      hrewritten hfits.owned_before (fun claim' result event hrecorded => ?_)
      (fun hterminal => nomatch hterminal)
    rw [hrecorded] at hphase
    cases hphase
  | answered client claim inbox result event entry after status store hbefore hentry hrewritten
      houtcome =>
    have hcurrent : w.holdsCurrent claim w.clock = true := by
      simp only [Undisturbed, hbefore, answerSafe, Bool.and_eq_true] at hundisturbed
      exact hundisturbed.1.1
    refine h.claim_rewritten hacc hsound (by rw [hbefore]; rfl) (by rw [hbefore]; rfl) hcurrent
      hrewritten ?_ (fun claim' result' event' hrecorded => ?_) (fun _ => rfl)
    · intro other hother
      rcases mem_append.mp hother with hheld | hown
      · exact held_owned w client other hheld
      · rw [← Option.some.inj (Option.mem_toList.mp hown)]
        exact owned_of_phase (by rw [hbefore]; rfl)
    · cases hrecorded
      exact ⟨rfl, status, houtcome⟩
  | settled client runId effectId entry store worker hunsettled hentry hcancellable hrewritten hfits
      hphase hbefore =>
    obtain ⟨cancelled, hcancelled, hrun, heffect, hstatus⟩ :=
      h.sound.unsettled client runId effectId hunsettled
    refine h.rewritten hsound rfl rfl (outboxStatus_rewritten rfl hrewritten)
      (owned_setWorker hfits.owned_before)
      (phases_setWorker hbefore fun claim result event hrecorded => ?_)
      (fun other claim hclaim => ⟨(h.recorded_claim hclaim).1, fun hmine => ?_⟩)
      (fun _ run other hmine => ?_) (fun dispatchId other hother ⟨hrun', heffect'⟩ => ?_)
    · rw [hrecorded] at hphase
      cases hphase
    · -- a recorded claim is in flight, and the entry to settle is cancelled
      have hclaimed := h.claimed_entry (owned_of_recorded hclaim) (h.recorded_claim hclaim).1
        hcancelled (hrun.trans hmine.1.symm) (heffect.trans (messageId_injective hmine.2).symm)
      cases hstatus.symm.trans hclaimed
    · rw [hmine.1, messageId_injective hmine.2]
      exact .inl ⟨cancelled, hcancelled, by rw [hstatus]; rfl⟩
    · have hid : dispatchId = agentDispatchId runId effectId := by
        rw [← hrun', ← messageId_injective heffect']
        exact h.entry_id hother
      rw [hid, hcancelled] at hother
      cases hother
      rw [hstatus]
      exact ⟨fun hs => (nomatch hs), fun hs => (nomatch hs),
        fun _ => ⟨fun hs => (nomatch hs), fun hs => (nomatch hs)⟩⟩

end DispatchWorld
end Rakka.AgentWorkflow
