import Rakka.AgentWorkflow.DispatchFleet
import Rakka.Foundation.Fallible

/-! What the calls of a fleet do to each entry of the record. Every write is a `Moved` for every
entry; that the tokens of an entry count up and that a closed entry stays closed is read off from
it. -/

namespace Rakka.AgentWorkflow
open Foundation Rakka.Persistence Rakka.Workflow List

inductive FleetCall where
  | registerDueEffects (runId : AgentRunId) (workflowId : Option AgentWorkflowId)
      (effects : List AgentDueEffect)
  | claimDue (settings : AgentDispatcherFleetSettings) (filter : AgentDispatchClaimFilter)
      (workerId : AgentDispatcherWorkerId)
  | completeClaim (claim : AgentDispatchClaim)
  | recordClaimFailure (claim : AgentDispatchClaim) (event : WorkflowTelemetryEvent)
  | cancelRunDispatches (runId : AgentRunId)
  | finalizeRunCancellations (runId : AgentRunId)

def FleetCall.settles : FleetCall → Option AgentDispatchClaim
  | completeClaim claim | recordClaimFailure claim _ => some claim
  | _ => none

def FleetDecision.map {α β : Type} (f : α → β) : FleetDecision α → FleetDecision β
  | .fail error => .fail error
  | .answer result => .answer (f result)
  | .write next result => .write next (fun record => f (result record))

structure FleetAnswer where
  claims : List AgentDispatchClaim
  cancelledEffectIds : List AgentEffectId

def FleetCall.decide (now : AgentTimestampMillis) (record : StateRecord AgentDispatcherFleetState) :
    FleetCall → FleetDecision FleetAnswer
  | registerDueEffects runId workflowId effects =>
    .map (fun _ => ⟨[], []⟩)
      (AgentDispatcherFleet.registerDueEffects runId workflowId effects now record)
  | claimDue settings filter workerId =>
    .map (fun batch => ⟨batch.claims, []⟩)
      (AgentDispatcherFleet.claimDue settings filter workerId now record)
  | completeClaim claim =>
    .map (fun _ => ⟨[], []⟩) (AgentDispatcherFleet.completeClaim claim now record)
  | recordClaimFailure claim event =>
    .map (fun _ => ⟨[], []⟩) (AgentDispatcherFleet.recordClaimFailure claim event now record)
  | cancelRunDispatches runId =>
    .map (fun cancellation => ⟨[], cancellation.cancelledEffectIds⟩)
      (AgentDispatcherFleet.cancelRunDispatches runId now record)
  | finalizeRunCancellations runId =>
    .map (fun effectIds => ⟨[], effectIds⟩)
      (AgentDispatcherFleet.finalizeRunCancellations runId now record)

namespace AgentDispatchEntry

def isClosed (entry : AgentDispatchEntry) : Bool :=
  entry.cancellationRequested || entry.status.isTerminal

inductive Registered (now : AgentTimestampMillis) (dispatchId : AgentDispatchId) :
    Option AgentDispatchEntry → Option AgentDispatchEntry → Prop
  | kept (entry : Option AgentDispatchEntry) : Registered now dispatchId entry entry
  | created (entry : AgentDispatchEntry) (hid : entry.dispatchId = dispatchId)
      (hformed : entry.dispatchId = agentDispatchId entry.runId entry.effectId) (hstatus : entry.status = .pending)
      (hlease : entry.lease = none) (htoken : entry.lastFencingToken = 0) (hrequest : entry.cancellationRequested = false) :
      Registered now dispatchId none (some entry)
  | refreshed (entry next : AgentDispatchEntry) (hid : next.dispatchId = entry.dispatchId)
      (hrun : next.runId = entry.runId) (heffect : next.effectId = entry.effectId)
      (hopen : entry.isClosed = false)
      (htoken : next.lastFencingToken = entry.lastFencingToken)
      (hrequest : next.cancellationRequested = false)
      (hlease : next.status = entry.status ∧ next.lease = entry.lease ∨
        next.status = .pending ∧ next.lease = none ∧ entry.isInFlightAt now = false) :
      Registered now dispatchId (some entry) (some next)

inductive Moved (now : AgentTimestampMillis) (call : FleetCall) (dispatchId : AgentDispatchId) :
    List AgentDispatchClaim → Option AgentDispatchEntry → Option AgentDispatchEntry → Prop
  | registered {before after : Option AgentDispatchEntry} (h : Registered now dispatchId before after)
      (hcall : ∀ claim, call.settles = some claim → dispatchId ≠ claim.dispatchId) :
      Moved now call dispatchId [] before after
  | claimed (entry : AgentDispatchEntry) (workerId : AgentDispatcherWorkerId) (leaseMs : ℕ)
      (hclaimable : entry.isClaimableAt now = true) (hcall : call.settles = none) :
      Moved now call dispatchId [(entry.claim workerId now leaseMs).2] (some entry)
        (some (entry.claim workerId now leaseMs).1)
  | completed (entry : AgentDispatchEntry) (claim : AgentDispatchClaim)
      (hcall : call = .completeClaim claim) (hid : claim.dispatchId = dispatchId)
      (hcurrent : entry.isCurrentClaim claim now = true) :
      Moved now call dispatchId [] (some entry) (some (entry.markCompleted now))
  | recorded (entry : AgentDispatchEntry) (claim : AgentDispatchClaim)
      (event : WorkflowTelemetryEvent) (hcall : call = .recordClaimFailure claim event)
      (hid : claim.dispatchId = dispatchId) (hcurrent : entry.isCurrentClaim claim now = true) :
      Moved now call dispatchId [] (some entry) (some (entry.recordEvent event now))
  | requested (entry : AgentDispatchEntry) (hflight : entry.isInFlightAt now = true)
      (hcall : call.settles = none) :
      Moved now call dispatchId [] (some entry) (some { entry with
        cancellationRequested := true
        lastErrorCode := some "cancellation-requested"
        updatedAt := now })
  | cancelled (entry : AgentDispatchEntry) (hstatus : entry.status.isTerminal = false)
      (hflight : entry.isInFlightAt now = false) (hcall : call.settles = none) :
      Moved now call dispatchId [] (some entry) (some (entry.markCancelled now))

end AgentDispatchEntry

namespace AgentDispatcherFleetState
variable {state : AgentDispatcherFleetState}

variable (state)

def Keyed : Prop :=
  ∀ dispatchId entry, state.entry dispatchId = some entry → entry.dispatchId = dispatchId

lemma entry_insert (key dispatchId : AgentDispatchId) (entry : AgentDispatchEntry)
    (now : AgentTimestampMillis) :
    AgentDispatcherFleetState.entry ⟨state.entries.insert key entry, now⟩ dispatchId =
      if dispatchId = key then some entry else state.entry dispatchId :=
  BTreeMap.lookup_insert state.entries key dispatchId entry

lemma entry_map (f : AgentDispatchEntry → AgentDispatchEntry) (dispatchId : AgentDispatchId)
    (now : AgentTimestampMillis) :
    AgentDispatcherFleetState.entry ⟨state.entries.map (fun _ entry => f entry), now⟩ dispatchId =
      (state.entry dispatchId).map f :=
  Std.ExtTreeMap.getElem?_map

variable {state}

lemma mem_values (hkeyed : state.Keyed) {entry : AgentDispatchEntry}
    (h : entry ∈ BTreeMap.valuesInOrder state.entries) :
    state.entry entry.dispatchId = some entry := by
  obtain ⟨⟨key, value⟩, hmem, rfl⟩ := mem_map.mp h
  have hentry : state.entry key = some value :=
    Std.ExtTreeMap.mem_toList_iff_getElem?_eq_some.mp hmem
  rw [hkeyed key value hentry]
  exact hentry

lemma values_ids_nodup (hkeyed : state.Keyed) :
    ((BTreeMap.valuesInOrder state.entries).map AgentDispatchEntry.dispatchId).Nodup := by
  have hkeys : (BTreeMap.valuesInOrder state.entries).map AgentDispatchEntry.dispatchId =
      state.entries.toList.map Prod.fst := by
    rw [BTreeMap.valuesInOrder, map_map]
    refine map_congr_left (fun pair hmem => ?_)
    exact hkeyed pair.1 pair.2 (Std.ExtTreeMap.mem_toList_iff_getElem?_eq_some.mp hmem)
  rw [hkeys]
  exact BTreeMap.toList_keys_nodup state.entries

lemma claimable_ids_nodup (hkeyed : state.Keyed) (now : AgentTimestampMillis) :
    ((state.claimable now).map AgentDispatchEntry.dispatchId).Nodup := by
  have hperm := (perm_insertionSort (fun left right : AgentDispatchEntry =>
    left.dueAt < right.dueAt ∨ left.dueAt = right.dueAt ∧ left.dispatchId ≤ right.dispatchId)
    ((BTreeMap.valuesInOrder state.entries).filter (fun entry => entry.isClaimableAt now))).map
      AgentDispatchEntry.dispatchId
  refine hperm.nodup_iff.mpr ?_
  exact (values_ids_nodup hkeyed).sublist (filter_sublist.map _)

end AgentDispatcherFleetState

namespace AgentDispatchEntry

lemma Registered.trans {now : AgentTimestampMillis} {dispatchId : AgentDispatchId} {a b c : Option AgentDispatchEntry}
    (hab : Registered now dispatchId a b) (hbc : Registered now dispatchId b c) :
    Registered now dispatchId a c := by
  cases hab with
  | kept => exact hbc
  | created entry hid hformed hstatus hlease htoken hrequest =>
    cases hbc with
    | kept => exact .created entry hid hformed hstatus hlease htoken hrequest
    | refreshed _ next hid' hrun' heffect' _ htoken' hrequest' hlease' =>
      refine .created next (hid'.trans hid) ?_ ?_ ?_ (htoken'.trans htoken) hrequest'
      · rw [hid', hrun', heffect']
        exact hformed
      · rcases hlease' with ⟨h, -⟩ | ⟨h, -⟩
        · exact h.trans hstatus
        · exact h
      · rcases hlease' with ⟨-, h⟩ | ⟨-, h, -⟩
        · exact h.trans hlease
        · exact h
  | refreshed entry next hid hrun heffect hopen htoken hrequest hlease =>
    cases hbc with
    | kept => exact .refreshed entry next hid hrun heffect hopen htoken hrequest hlease
    | refreshed _ next' hid' hrun' heffect' _ htoken' hrequest' hlease' =>
      refine .refreshed entry next' (hid'.trans hid) (hrun'.trans hrun) (heffect'.trans heffect)
        hopen (htoken'.trans htoken) hrequest' ?_
      rcases hlease' with ⟨hs, hl⟩ | ⟨hs, hl, hlapsed⟩
      · rcases hlease with ⟨hs', hl'⟩ | ⟨hs', hl', hlapsed⟩
        · exact .inl ⟨hs.trans hs', hl.trans hl'⟩
        · exact .inr ⟨hs.trans hs', hl.trans hl', hlapsed⟩
      · rcases hlease with ⟨hs', hl'⟩ | ⟨hs', hl', hlapsed'⟩
        · rw [isInFlightAt, hs', hl'] at hlapsed
          exact .inr ⟨hs, hl, hlapsed⟩
        · exact .inr ⟨hs, hl, hlapsed'⟩

lemma kept_moved {now : AgentTimestampMillis} {call : FleetCall} (hcall : call.settles = none)
    {dispatchId : AgentDispatchId} {entry : Option AgentDispatchEntry} :
    Moved now call dispatchId [] entry entry := by
  refine .registered (.kept entry) (fun claim hclaim => ?_)
  rw [hcall] at hclaim
  cases hclaim

lemma claimed_dispatchId (entry : AgentDispatchEntry) (workerId : AgentDispatcherWorkerId)
    (now leaseMs : ℕ) : (entry.claim workerId now leaseMs).1.dispatchId = entry.dispatchId := rfl

lemma upsert_registered (entry : AgentDispatchEntry) (dispatchId : AgentDispatchId)
    (workflowId : Option AgentWorkflowId) (due : AgentDueEffect) (now : AgentTimestampMillis) :
    Registered now dispatchId (some entry) (some (entry.upsertFromDueEffect workflowId due now)) := by
  unfold upsertFromDueEffect
  split_ifs with hclosed
  · exact .kept _
  · have hopen : entry.isClosed = false := by
      rw [isClosed, Bool.or_comm]
      simpa using hclosed
    have hrequest : entry.cancellationRequested = false := by
      simp only [isClosed, Bool.or_eq_false_iff] at hopen
      exact hopen.1
    unfold releaseExpired
    split_ifs with hexpired
    · have hlapsed : entry.isInFlightAt now = false := by
        obtain ⟨lease, hlease, hinactive⟩ := (Option.any_eq_true _ _).mp hexpired
        rw [Bool.not_eq_true'] at hinactive
        change entry.lease = some lease at hlease
        rw [isInFlightAt, hlease, Option.any_some, hinactive, Bool.and_false]
      exact .refreshed entry _ rfl rfl rfl hopen rfl hrequest (.inr ⟨rfl, rfl, hlapsed⟩)
    · exact .refreshed entry _ rfl rfl rfl hopen rfl hrequest (.inl ⟨rfl, rfl⟩)

end AgentDispatchEntry

namespace AgentDispatcherFleet
open AgentDispatchEntry AgentDispatcherFleetState
variable {now : AgentTimestampMillis} {call : FleetCall} {runId : AgentRunId}
  {record : StateRecord AgentDispatcherFleetState} {next state : AgentDispatcherFleetState}
  {workflowId : Option AgentWorkflowId} {todo : List AgentDispatchEntry} {scan : ClaimScan}
  {settings : AgentDispatcherFleetSettings} {filter : AgentDispatchClaimFilter}
  {workerId : AgentDispatcherWorkerId}

lemma registerEffect_registered {acc acc' : AgentDispatcherFleetState × ℕ} {due : AgentDueEffect}
    (h : registerEffect runId workflowId now acc due = .ok acc') (dispatchId : AgentDispatchId) :
    Registered now dispatchId (acc.1.entry dispatchId) (acc'.1.entry dispatchId) := by
  unfold registerEffect at h
  obtain ⟨_, _, h⟩ := bind_eq_ok.mp h
  cases hentry : acc.1.entry (fromDueEffect runId workflowId due now).dispatchId with
  | none =>
    rw [hentry] at h
    rw [← Except.ok.inj h, put, entry_insert]
    split_ifs with hid
    · rw [hid, hentry]
      exact .created _ rfl rfl rfl rfl rfl rfl
    · exact .kept _
  | some existing =>
    simp only [hentry] at h
    split_ifs at h
    · rw [← Except.ok.inj h, entry_insert]
      split_ifs with hid
      · rw [hid, hentry]
        exact upsert_registered existing _ workflowId due now
      · exact .kept _
    · rw [← Except.ok.inj h]
      exact .kept _

lemma registerDueEffects_registered {effects : List AgentDueEffect}
    {result : StateRecord AgentDispatcherFleetState → AgentDispatcherRegistration}
    (h : registerDueEffects runId workflowId effects now record = .write next result)
    (dispatchId : AgentDispatchId) :
    Registered now dispatchId (record.state.entry dispatchId) (next.entry dispatchId) := by
  unfold registerDueEffects at h
  cases hfold : effects.foldlM (registerEffect runId workflowId now) (record.state, 0) with
  | error => simp [hfold] at h
  | ok acc =>
    let Kept : List AgentDueEffect → AgentDispatcherFleetState × ℕ → Prop :=
      fun _ acc => Registered now dispatchId (record.state.entry dispatchId) (acc.1.entry dispatchId)
    have hkept : Kept ([] ++ effects) acc :=
      foldlM_invariant (fun _ _ _ _ hinv hstep =>
        hinv.trans (registerEffect_registered hstep dispatchId)) (.kept _) hfold
    simp only [hfold] at h
    split_ifs at h
    rw [← (Decision.write.inj h).1]
    exact hkept

/-- What the pass has done so far: an entry still to be visited stands as it was. -/
structure Scanned (state : AgentDispatcherFleetState) (call : FleetCall)
    (now : AgentTimestampMillis) (todo : List AgentDispatchEntry) (scan : ClaimScan) : Prop where
  moved : ∀ dispatchId, Moved now call dispatchId
    (scan.claims.filter (fun claim => claim.dispatchId = dispatchId)) (state.entry dispatchId)
    (scan.next.entry dispatchId)
  untouched : ∀ entry ∈ todo, state.entry entry.dispatchId = some entry ∧
    entry.isClaimableAt now = true ∧
    scan.claims.filter (fun claim => claim.dispatchId = entry.dispatchId) = []
  distinct : (todo.map AgentDispatchEntry.dispatchId).Nodup

lemma Scanned.visit {entry : AgentDispatchEntry} (hcall : call.settles = none)
    (h : Scanned state call now (entry :: todo) scan) :
    Scanned state call now todo (scan.visit settings filter workerId now entry) := by
  obtain ⟨hentry, hclaimable, hnone⟩ := h.untouched entry mem_cons_self
  have hdistinct := nodup_cons.mp h.distinct
  have hrest := fun other hmem => h.untouched other (mem_cons_of_mem entry hmem)
  unfold ClaimScan.visit
  dsimp only
  split_ifs
  · exact ⟨h.moved, hrest, hdistinct.2⟩
  · exact ⟨h.moved, hrest, hdistinct.2⟩
  · exact ⟨h.moved, hrest, hdistinct.2⟩
  · -- the only branch that claims
    refine ⟨fun dispatchId => ?_, fun other hmem => ?_, hdistinct.2⟩
    · dsimp only
      rw [filter_append, put, entry_insert, claimed_dispatchId]
      by_cases hid : dispatchId = entry.dispatchId
      · subst hid
        rw [hnone, nil_append, if_pos rfl, hentry]
        simp only [claim, decide_true, filter_cons_of_pos, filter_nil]
        exact .claimed entry workerId settings.leaseDurationMs hclaimable hcall
      · have hne : ¬ (entry.claim workerId now settings.leaseDurationMs).2.dispatchId =
            dispatchId := fun h => hid h.symm
        rw [if_neg hid, filter_cons_of_neg (by simpa using hne), filter_nil, append_nil]
        exact h.moved dispatchId
    · obtain ⟨hother, hother', hnone'⟩ := hrest other hmem
      have hne : ¬ (entry.claim workerId now settings.leaseDurationMs).2.dispatchId =
          other.dispatchId := by
        intro heq
        exact hdistinct.1 (mem_map.mpr ⟨other, hmem, heq.symm⟩)
      refine ⟨hother, hother', ?_⟩
      rw [filter_append, hnone', filter_cons_of_neg (by simpa using hne)]
      rfl

lemma Scanned.foldl (hcall : call.settles = none) (h : Scanned state call now todo scan) :
    Scanned state call now [] (todo.foldl (ClaimScan.visit settings filter workerId now) scan) := by
  induction todo generalizing scan with
  | nil => exact h
  | cons entry todo ih => exact ih (h.visit hcall)

lemma scanClaims_moved (settings : AgentDispatcherFleetSettings)
    (filter : AgentDispatchClaimFilter) (workerId : AgentDispatcherWorkerId) (hkeyed : state.Keyed)
    (hcall : call.settles = none) (now : AgentTimestampMillis) (dispatchId : AgentDispatchId) :
    Moved now call dispatchId ((scanClaims settings filter workerId now state).claims.filter
        (fun claim => claim.dispatchId = dispatchId)) (state.entry dispatchId)
      ((scanClaims settings filter workerId now state).next.entry dispatchId) := by
  have hstart : Scanned state call now (state.claimable now)
      ⟨state, inFlightCountsByClass state now, inFlightCountsByTarget state now, [], 0, 0, 0⟩ := by
    refine ⟨fun _ => kept_moved hcall, fun entry hmem => ?_, claimable_ids_nodup hkeyed now⟩
    have hclaimable := mem_filter.mp ((mem_insertionSort _).mp hmem)
    exact ⟨mem_values hkeyed hclaimable.1, hclaimable.2, rfl⟩
  exact (hstart.foldl hcall).moved dispatchId

lemma cancelled_of_answer {cancellation : AgentDispatcherCancellation}
    (h : cancelRunDispatches runId now record = .answer cancellation) :
    cancellation.cancelledEffectIds = [] := by
  unfold cancelRunDispatches at h
  dsimp only at h
  split_ifs at h with hnone
  rw [Bool.and_eq_true] at hnone
  rw [← Decision.answer.inj h]
  dsimp only
  rw [isEmpty_iff.mp hnone.2, map_nil]

lemma cancelled_of_write (hkeyed : record.state.Keyed)
    {result : StateRecord AgentDispatcherFleetState → AgentDispatcherCancellation}
    (h : cancelRunDispatches runId now record = .write next result)
    {written : StateRecord AgentDispatcherFleetState} {effectId : AgentEffectId}
    (hmem : effectId ∈ (result written).cancelledEffectIds) :
    ∃ entry : AgentDispatchEntry, next.entry entry.dispatchId = some (entry.markCancelled now) ∧
      entry.runId = runId ∧ entry.effectId = effectId := by
  unfold cancelRunDispatches at h
  dsimp only at h
  split_ifs at h
  obtain ⟨rfl, rfl⟩ := Decision.write.inj h
  obtain ⟨entry, hentry, rfl⟩ := mem_map.mp hmem
  simp only [mem_filter, decide_eq_true_eq, Bool.and_eq_true, Bool.not_eq_true'] at hentry
  obtain ⟨⟨hvalue, hrun⟩, hterminal, hflight⟩ := hentry
  refine ⟨entry, ?_, hrun, rfl⟩
  rw [entry_map, mem_values hkeyed hvalue,
    Option.map_some, cancelEntry, if_neg (by simp [hrun, hterminal]), if_neg (by simp [hflight])]

lemma updateCurrentClaim_write {claim : AgentDispatchClaim}
    {update : AgentDispatchEntry → AgentDispatchEntry}
    {result : StateRecord AgentDispatcherFleetState → AgentDispatchEntry}
    (h : updateCurrentClaim claim now update record = .write next result) :
    ∃ entry, record.state.entry claim.dispatchId = some entry ∧
      entry.isCurrentClaim claim now = true ∧ ∀ dispatchId, next.entry dispatchId =
        if dispatchId = claim.dispatchId then some (update entry)
        else record.state.entry dispatchId := by
  unfold updateCurrentClaim at h
  cases hentry : record.state.entry claim.dispatchId with
  | none => simp [hentry] at h
  | some entry =>
    simp only [hentry] at h
    split_ifs at h with hcurrent
    refine ⟨entry, rfl, hcurrent, fun dispatchId => ?_⟩
    rw [← (Decision.write.inj h).1, entry_insert]

end AgentDispatcherFleet

namespace FleetDecision

lemma map_write {α β : Type} {f : α → β} {decision : FleetDecision α}
    {next : AgentDispatcherFleetState} {result : StateRecord AgentDispatcherFleetState → β}
    (h : decision.map f = .write next result) :
    ∃ answer, decision = .write next answer ∧ result = fun record => f (answer record) := by
  cases decision with
  | fail | answer => cases h
  | write given answer =>
    obtain ⟨rfl, rfl⟩ := Decision.write.inj h
    exact ⟨answer, rfl, rfl⟩

lemma map_answer {α β : Type} {f : α → β} {decision : FleetDecision α} {result : β}
    (h : decision.map f = .answer result) : ∃ given, decision = .answer given ∧ f given = result := by
  cases decision with
  | fail => cases h
  | answer given => exact ⟨given, rfl, Decision.answer.inj h⟩
  | write => cases h

end FleetDecision

namespace FleetCall
open AgentDispatchEntry AgentDispatcherFleet
variable {call : FleetCall} {now : AgentTimestampMillis}
  {record : StateRecord AgentDispatcherFleetState}

lemma decide_answer {answer : FleetAnswer} (h : call.decide now record = .answer answer) :
    answer.claims = [] := by
  cases call with
  | claimDue =>
    obtain ⟨batch, hbatch, rfl⟩ := FleetDecision.map_answer h
    unfold AgentDispatcherFleet.claimDue at hbatch
    dsimp only at hbatch
    split_ifs at hbatch with hempty
    rw [← Decision.answer.inj hbatch]
    exact isEmpty_iff.mp hempty
  | _ =>
    obtain ⟨_, _, rfl⟩ := FleetDecision.map_answer h
    rfl

lemma decide_settles {claim : AgentDispatchClaim} (hsettles : call.settles = some claim)
    {entry : AgentDispatchEntry} (hentry : record.state.entry claim.dispatchId = some entry)
    (hcurrent : entry.isCurrentClaim claim now = true) :
    ∃ next result, call.decide now record = .write next result := by
  cases call with
  | completeClaim =>
    cases hsettles
    simp only [decide, AgentDispatcherFleet.completeClaim, updateCurrentClaim, hentry, hcurrent,
      if_true, FleetDecision.map]
    exact ⟨_, _, rfl⟩
  | recordClaimFailure =>
    cases hsettles
    simp only [decide, AgentDispatcherFleet.recordClaimFailure, updateCurrentClaim, hentry,
      hcurrent, if_true, FleetDecision.map]
    exact ⟨_, _, rfl⟩
  | _ => cases hsettles

lemma decide_write {next : AgentDispatcherFleetState}
    {result : StateRecord AgentDispatcherFleetState → FleetAnswer} (hkeyed : record.state.Keyed)
    (h : call.decide now record = .write next result) :
    ∃ answer, result = (fun _ => answer) ∧ ∀ dispatchId, Moved now call dispatchId
      (answer.claims.filter (fun claim => claim.dispatchId = dispatchId))
      (record.state.entry dispatchId) (next.entry dispatchId) := by
  cases call with
  | registerDueEffects =>
    obtain ⟨answer, hwrite, rfl⟩ := FleetDecision.map_write h
    exact ⟨⟨[], []⟩, rfl, fun dispatchId =>
      .registered (registerDueEffects_registered hwrite dispatchId) (fun _ h => nomatch h)⟩
  | claimDue settings filter workerId =>
    obtain ⟨answer, hwrite, rfl⟩ := FleetDecision.map_write h
    unfold AgentDispatcherFleet.claimDue at hwrite
    dsimp only at hwrite
    split_ifs at hwrite
    obtain ⟨rfl, rfl⟩ := Decision.write.inj hwrite
    exact ⟨_, rfl, fun dispatchId =>
      scanClaims_moved settings filter workerId hkeyed rfl now dispatchId⟩
  | completeClaim claim =>
    obtain ⟨answer, hwrite, rfl⟩ := FleetDecision.map_write h
    obtain ⟨entry, hentry, hcurrent, hnext⟩ := updateCurrentClaim_write hwrite
    refine ⟨_, rfl, fun dispatchId => ?_⟩
    rw [hnext]
    split_ifs with hid
    · rw [hid, hentry]
      exact .completed entry claim rfl rfl hcurrent
    · exact .registered (.kept _) (fun settled hsettled => Option.some.inj hsettled ▸ hid)
  | recordClaimFailure claim event =>
    obtain ⟨answer, hwrite, rfl⟩ := FleetDecision.map_write h
    obtain ⟨entry, hentry, hcurrent, hnext⟩ := updateCurrentClaim_write hwrite
    refine ⟨_, rfl, fun dispatchId => ?_⟩
    rw [hnext]
    split_ifs with hid
    · rw [hid, hentry]
      exact .recorded entry claim event rfl rfl hcurrent
    · exact .registered (.kept _) (fun settled hsettled => Option.some.inj hsettled ▸ hid)
  | cancelRunDispatches runId =>
    obtain ⟨answer, hwrite, rfl⟩ := FleetDecision.map_write h
    unfold AgentDispatcherFleet.cancelRunDispatches at hwrite
    dsimp only at hwrite
    split_ifs at hwrite
    obtain ⟨rfl, rfl⟩ := Decision.write.inj hwrite
    refine ⟨_, rfl, fun dispatchId => ?_⟩
    rw [AgentDispatcherFleetState.entry_map]
    cases record.state.entry dispatchId with
    | none => exact kept_moved rfl
    | some entry =>
      simp only [Option.map_some, cancelEntry]
      split_ifs with hother hflight
      · exact kept_moved rfl
      · exact .requested entry hflight rfl
      · rw [not_or] at hother
        exact .cancelled entry (by simpa using hother.2) (by simpa using hflight) rfl
  | finalizeRunCancellations runId =>
    obtain ⟨answer, hwrite, rfl⟩ := FleetDecision.map_write h
    unfold AgentDispatcherFleet.finalizeRunCancellations at hwrite
    dsimp only at hwrite
    split_ifs at hwrite
    obtain ⟨rfl, rfl⟩ := Decision.write.inj hwrite
    refine ⟨_, rfl, fun dispatchId => ?_⟩
    rw [AgentDispatcherFleetState.entry_map]
    cases record.state.entry dispatchId with
    | none => exact kept_moved rfl
    | some entry =>
      simp only [Option.map_some]
      split_ifs with hfinal
      · simp only [isFinalizable, Bool.and_eq_true, Bool.not_eq_true'] at hfinal
        exact .cancelled entry hfinal.1.2 hfinal.2 rfl
      · exact kept_moved rfl

end FleetCall

namespace AgentDispatchEntry
variable {now : AgentTimestampMillis} {entry : AgentDispatchEntry} {dispatchId : AgentDispatchId}
  {call : FleetCall} {claims : List AgentDispatchClaim} {claim : AgentDispatchClaim}

/-- The claims of an entry carry the tokens from one to its last one, and its lease belongs to the
last of them. -/
structure Accounted (dispatchId : AgentDispatchId) (revision : ℕ) (issued : List AgentDispatchClaim)
    (entry : Option AgentDispatchEntry) : Prop where
  keyed : ∀ e, entry = some e → e.dispatchId = dispatchId
  tokens : issued.map AgentDispatchClaim.fencingToken =
    List.range' 1 ((entry.map lastFencingToken).getD 0)
  leased : ∀ e lease, entry = some e → e.lease = some lease →
    lease.fencingToken = e.lastFencingToken ∧ ∃ claim ∈ issued,
      claim.workerId = lease.workerId ∧ claim.fencingToken = lease.fencingToken
  counted : ∀ e, entry = some e → e.lastFencingToken ≤ revision

lemma Accounted.keep {revision : ℕ} {issued : List AgentDispatchClaim} {next : AgentDispatchEntry}
    (h : Accounted dispatchId revision issued (some entry))
    (hid : next.dispatchId = entry.dispatchId)
    (htoken : next.lastFencingToken = entry.lastFencingToken)
    (hlease : next.lease = entry.lease ∨ next.lease = none) :
    Accounted dispatchId (revision + 1) issued (some next) := by
  refine ⟨?_, ?_, ?_, ?_⟩
  · rintro _ ⟨⟩
    exact hid.trans (h.keyed entry rfl)
  · rw [h.tokens, Option.map_some, Option.map_some, Option.getD_some, Option.getD_some, htoken]
  · rintro _ lease ⟨⟩ hsome
    rcases hlease with hsame | hnone
    · rw [htoken]
      exact h.leased entry lease rfl (hsame.symm.trans hsome)
    · rw [hnone] at hsome
      cases hsome
  · rintro _ ⟨⟩
    rw [htoken]
    exact (h.counted entry rfl).trans (Nat.le_succ revision)

lemma recordEvent_keeps (entry : AgentDispatchEntry) (event : WorkflowTelemetryEvent)
    (now : AgentTimestampMillis) : (entry.recordEvent event now).dispatchId = entry.dispatchId ∧
      (entry.recordEvent event now).runId = entry.runId ∧
      (entry.recordEvent event now).effectId = entry.effectId ∧
      (entry.recordEvent event now).lastFencingToken = entry.lastFencingToken ∧
      (entry.recordEvent event now).cancellationRequested = entry.cancellationRequested ∧
      (entry.recordEvent event now).lease = none := by
  cases event with
  | outboxDispatchTimedOut messageId attempt nextRetryAt =>
    cases nextRetryAt <;> exact ⟨rfl, rfl, rfl, rfl, rfl, rfl⟩
  | _ => exact ⟨rfl, rfl, rfl, rfl, rfl, rfl⟩

lemma Accounted.move {revision : ℕ} {issued : List AgentDispatchClaim}
    {before after : Option AgentDispatchEntry} (h : Accounted dispatchId revision issued before)
    (hrevision : revision < u64Max) (hmoved : Moved now call dispatchId claims before after) :
    Accounted dispatchId (revision + 1) (issued ++ claims) after := by
  cases hmoved with
  | registered hregistered =>
    rw [append_nil]
    cases hregistered with
    | kept =>
      cases before with
      | none =>
        exact ⟨fun e he => (nomatch he), h.tokens, fun e lease he => (nomatch he),
          fun e he => (nomatch he)⟩
      | some => exact h.keep rfl rfl (.inl rfl)
    | created entry hid hformed hstatus hlease htoken =>
      refine ⟨?_, ?_, ?_, ?_⟩
      · rintro _ ⟨⟩
        exact hid
      · rw [h.tokens, Option.map_none, Option.map_some, Option.getD_none, Option.getD_some, htoken]
      · rintro _ lease ⟨⟩ hsome
        rw [hlease] at hsome
        cases hsome
      · rintro _ ⟨⟩
        rw [htoken]
        exact Nat.zero_le _
    | refreshed entry next hid hrun heffect hopen htoken hrequest hlease =>
      exact h.keep hid htoken (hlease.imp And.right (fun hreleased => hreleased.2.1))
  | claimed entry workerId leaseMs =>
    have htoken : saturatingAdd entry.lastFencingToken 1 = entry.lastFencingToken + 1 :=
      saturatingAdd_one_of_lt ((h.counted entry rfl).trans_lt hrevision)
    refine ⟨?_, ?_, ?_, ?_⟩
    · rintro _ ⟨⟩
      exact h.keyed entry rfl
    · rw [map_append, h.tokens]
      simp only [Option.map_some, Option.getD_some, claim, htoken, map_cons, map_nil]
      rw [List.range'_concat, Nat.one_mul, Nat.add_comm 1]
    · rintro _ lease ⟨⟩ hsome
      cases hsome
      refine ⟨rfl, (entry.claim workerId now leaseMs).2, ?_, rfl, rfl⟩
      exact mem_append_right _ mem_cons_self
    · rintro _ ⟨⟩
      simp only [claim, htoken]
      exact Nat.succ_le_succ (h.counted entry rfl)
  | completed =>
    rw [append_nil]
    exact h.keep rfl rfl (.inr rfl)
  | recorded entry claim event =>
    rw [append_nil]
    have hkeeps := entry.recordEvent_keeps event now
    exact h.keep hkeeps.1 hkeeps.2.2.2.1 (.inr hkeeps.2.2.2.2.2)
  | requested =>
    rw [append_nil]
    exact h.keep rfl rfl (.inl rfl)
  | cancelled =>
    rw [append_nil]
    exact h.keep rfl rfl (.inr rfl)

lemma Moved.identity {after : Option AgentDispatchEntry}
    (hmoved : Moved now call dispatchId claims (some entry) after) :
    ∃ next, after = some next ∧ next.dispatchId = entry.dispatchId ∧ next.runId = entry.runId ∧
      next.effectId = entry.effectId := by
  cases hmoved with
  | registered hregistered =>
    cases hregistered with
    | kept => exact ⟨entry, rfl, rfl, rfl, rfl⟩
    | refreshed _ next hid hrun heffect => exact ⟨next, rfl, hid, hrun, heffect⟩
  | recorded _ claim event =>
    have hkeeps := entry.recordEvent_keeps event now
    exact ⟨_, rfl, hkeeps.1, hkeeps.2.1, hkeeps.2.2.1⟩
  | _ => exact ⟨_, rfl, rfl, rfl, rfl⟩

theorem Moved.keeps_identity {before after : Option AgentDispatchEntry}
    {P : AgentDispatchId → AgentRunId → AgentEffectId → Prop}
    (hmoved : Moved now call dispatchId claims before after)
    (hnew : ∀ runId effectId, dispatchId = agentDispatchId runId effectId →
      P dispatchId runId effectId)
    (hbefore : ∀ e, before = some e → P e.dispatchId e.runId e.effectId) :
    ∀ e, after = some e → P e.dispatchId e.runId e.effectId := by
  intro e he
  cases before with
  | some entry =>
    obtain ⟨next, rfl, hid, hrun, heffect⟩ := hmoved.identity
    rw [← Option.some.inj he, hid, hrun, heffect]
    exact hbefore entry rfl
  | none =>
    cases hmoved with
    | registered hregistered =>
      cases hregistered with
      | kept => cases he
      | created entry hid hformed =>
        rw [← Option.some.inj he, hid]
        exact hnew _ _ (hid ▸ hformed)

lemma not_claimable_of_closed (h : entry.isClosed = true) (now : AgentTimestampMillis) :
    entry.isClaimableAt now = false := by
  unfold isClaimableAt
  split_ifs with hrequest
  · rfl
  · have hterminal : entry.status.isTerminal = true := by simpa [isClosed, hrequest] using h
    cases hstatus : entry.status <;> simp [hstatus, AgentDispatchStatus.isTerminal] at hterminal ⊢

lemma claimed_of_current (h : entry.isCurrentClaim claim now = true) :
    entry.status = .claimed ∧ ∃ lease, entry.lease = some lease ∧
      lease.workerId = claim.workerId ∧ lease.fencingToken = claim.fencingToken ∧
      now < lease.leaseExpiresAt := by
  unfold isCurrentClaim at h
  obtain ⟨lease, hlease, hcurrent⟩ := (Option.any_eq_true _ _).mp h
  simp only [Bool.and_eq_true, decide_eq_true_eq, AgentDispatchLease.isActiveAt] at hcurrent
  exact ⟨hcurrent.1.1.1, lease, hlease, hcurrent.1.1.2, hcurrent.1.2, hcurrent.2⟩

section
variable {after : Option AgentDispatchEntry}
  (hmoved : Moved now call dispatchId claims (some entry) after)
include hmoved

lemma Moved.closed (hclosed : entry.isClosed = true) :
    claims = [] ∧ ∃ next, after = some next ∧ next.isClosed = true := by
  cases hmoved with
  | registered hregistered =>
    cases hregistered with
    | kept => exact ⟨rfl, entry, rfl, hclosed⟩
    | refreshed _ next _ _ _ hopen => cases hclosed.symm.trans hopen
  | claimed _ workerId leaseMs hclaimable =>
    cases hclaimable.symm.trans (not_claimable_of_closed hclosed now)
  | completed =>
    exact ⟨rfl, _, rfl, by simp [isClosed, markCompleted, AgentDispatchStatus.isTerminal]⟩
  | recorded _ claim event hcall hid hcurrent =>
    -- only a requested cancellation closes an entry that is still claimed
    have hrequested : entry.cancellationRequested = true := by
      simpa [isClosed, (claimed_of_current hcurrent).1, AgentDispatchStatus.isTerminal] using hclosed
    refine ⟨rfl, _, rfl, ?_⟩
    rw [isClosed, (entry.recordEvent_keeps event now).2.2.2.2.1, hrequested, Bool.true_or]
  | requested => exact ⟨rfl, _, rfl, rfl⟩
  | cancelled =>
    exact ⟨rfl, _, rfl, by simp [isClosed, markCancelled, AgentDispatchStatus.isTerminal]⟩

lemma Moved.terminal_kept (hterminal : entry.status.isTerminal = true) : after = some entry := by
  have hclosed : entry.isClosed = true := by rw [isClosed, hterminal, Bool.or_true]
  have hunclaimed : entry.status ≠ .claimed := by
    intro hstatus
    rw [hstatus] at hterminal
    cases hterminal
  cases hmoved with
  | registered hregistered =>
    cases hregistered with
    | kept => rfl
    | refreshed _ next _ _ _ hopen => cases hclosed.symm.trans hopen
  | claimed _ workerId leaseMs hclaimable =>
    cases hclaimable.symm.trans (not_claimable_of_closed hclosed now)
  | completed _ claim hcall hid hcurrent | recorded _ claim event hcall hid hcurrent =>
    exact absurd (claimed_of_current hcurrent).1 hunclaimed
  | requested _ hflight =>
    simp only [isInFlightAt, Bool.and_eq_true, decide_eq_true_eq] at hflight
    exact absurd hflight.1 hunclaimed
  | cancelled _ hstatus => cases hterminal.symm.trans hstatus

end

section
variable {before after : Option AgentDispatchEntry}
  (hmoved : Moved now call dispatchId claims before after)
include hmoved

lemma Moved.claims_of (hclaim : claim ∈ claims) :
    ∃ entry, before = some entry ∧ entry.runId = claim.runId ∧ entry.effectId = claim.effectId := by
  cases hmoved with
  | claimed entry =>
    rw [mem_singleton.mp hclaim]
    exact ⟨entry, rfl, rfl, rfl⟩
  | _ => cases hclaim

end

lemma current_of_lease {lease : AgentDispatchLease} (hstatus : entry.status = .claimed)
    (hlease : entry.lease = some lease) (hworker : lease.workerId = claim.workerId)
    (htoken : lease.fencingToken = claim.fencingToken) (hactive : now < lease.leaseExpiresAt) :
    entry.isCurrentClaim claim now = true := by
  simp [isCurrentClaim, hlease, hstatus, hworker, htoken, AgentDispatchLease.isActiveAt, hactive]

lemma inFlight_of_current (h : entry.isCurrentClaim claim now = true) :
    entry.isInFlightAt now = true := by
  obtain ⟨hstatus, lease, hlease, -, -, hactive⟩ := claimed_of_current h
  simp [isInFlightAt, hstatus, hlease, AgentDispatchLease.isActiveAt, hactive]

lemma not_claimable_of_current (h : entry.isCurrentClaim claim now = true) :
    entry.isClaimableAt now = false := by
  obtain ⟨hstatus, lease, hlease, -, -, hactive⟩ := claimed_of_current h
  simp [isClaimableAt, hstatus, hlease, AgentDispatchLease.isActiveAt, hactive]

lemma Moved.current_kept {after : Option AgentDispatchEntry}
    (hmoved : Moved now call dispatchId claims (some entry) after)
    (hcurrent : entry.isCurrentClaim claim now = true) :
    (∃ next, after = some next ∧ next.isCurrentClaim claim now = true) ∨
      ∃ settled, call.settles = some settled ∧ settled.dispatchId = dispatchId ∧
        entry.isCurrentClaim settled now = true := by
  have hflight := inFlight_of_current hcurrent
  cases hmoved with
  | registered hregistered =>
    cases hregistered with
    | kept => exact .inl ⟨entry, rfl, hcurrent⟩
    | refreshed _ next hid hrun heffect hopen htoken hrequest hlease =>
      rcases hlease with ⟨hstatus', hlease'⟩ | ⟨-, -, hlapsed⟩
      · obtain ⟨hstatus, lease, hlease, hworker, htoken', hactive⟩ := claimed_of_current hcurrent
        exact .inl ⟨next, rfl, current_of_lease (hstatus'.trans hstatus) (hlease'.trans hlease)
          hworker htoken' hactive⟩
      · cases hflight.symm.trans hlapsed
  | claimed _ workerId leaseMs hclaimable =>
    cases hclaimable.symm.trans (not_claimable_of_current hcurrent)
  | completed _ settled hcall hid hsettled | recorded _ settled event hcall hid hsettled =>
    exact .inr ⟨settled, by rw [hcall]; rfl, hid, hsettled⟩
  | requested =>
    obtain ⟨hstatus, lease, hlease, hworker, htoken, hactive⟩ := claimed_of_current hcurrent
    exact .inl ⟨_, rfl, current_of_lease hstatus hlease hworker htoken hactive⟩
  | cancelled _ hstatus hlapsed => cases hflight.symm.trans hlapsed

end AgentDispatchEntry

end Rakka.AgentWorkflow
