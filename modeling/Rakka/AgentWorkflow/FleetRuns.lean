import Rakka.AgentWorkflow.FleetMoves

/-! Runs of any number of fleet handles over one record and one clock: the claims of an entry
exclude each other and are fenced. -/

namespace Rakka.AgentWorkflow
open Foundation Rakka.Persistence Rakka.Workflow AgentDispatcherFleet List Option

inductive FleetOp (κ : Type) where
  | elapse (ms : ℕ)
  | recover (client : κ)
  | restart (client : κ)
  | call (client : κ) (call : FleetCall)

structure FleetWorld (κ : Type) where
  shared : Replicated κ AgentDispatcherFleetState
  clock : AgentTimestampMillis
  issued : List AgentDispatchClaim

namespace FleetWorld
variable {κ : Type} [DecidableEq κ]

def init : FleetWorld κ := ⟨⟨.new, fun _ => .new⟩, 0, []⟩

section
variable (w : FleetWorld κ)

def ask (client : κ) (call : FleetCall) : Except AgentDispatcherError FleetAnswer × FleetWorld κ :=
  let out := transact w.clock (fun record => call.decide w.clock record)
    (w.shared.replica client, w.shared.store)
  (out.1, { w with
      shared := Replicated.set ⟨out.2.2, w.shared.replica⟩ client out.2.1
      issued := w.issued ++ (out.1.toOption.map FleetAnswer.claims).getD [] })

def step : FleetOp κ → FleetWorld κ
  | .elapse ms => { w with clock := w.clock + ms }
  | .recover client =>
    { w with shared := w.shared.set client (recover w.clock w.shared.store) }
  | .restart client => { w with shared := w.shared.set client .new }
  | .call client call => (w.ask client call).2

def run (ops : List (FleetOp κ)) : FleetWorld κ := ops.foldl step w

def entry (w : FleetWorld κ) (dispatchId : AgentDispatchId) : Option AgentDispatchEntry :=
  (w.shared.store.load agentDispatcherFleetPersistenceId).bind
    (fun record => record.state.entry dispatchId)

def revision : ℕ :=
  w.shared.store.revisionOf agentDispatcherFleetPersistenceId

def issuedFor (dispatchId : AgentDispatchId) : List AgentDispatchClaim :=
  w.issued.filter (fun claim => claim.dispatchId = dispatchId)

end

end FleetWorld

namespace FleetWorld
open AgentDispatchEntry Replicated
variable {κ : Type} {w w' : FleetWorld κ} {op : FleetOp κ} {client : κ} {dispatchId : AgentDispatchId}
variable {history : List (StateRecord AgentDispatcherFleetState)}
  {record : StateRecord AgentDispatcherFleetState} {entry : AgentDispatchEntry}

def NoEntries (state : AgentDispatcherFleetState) : Prop := ∀ dispatchId, state.entry dispatchId = none

def Coherent (w : FleetWorld κ) : Prop :=
  ∃ history, Fenced agentDispatcherFleetPersistenceId NoEntries history w.shared

def Readied (w : FleetWorld κ) (client : κ) (replica : Replica AgentDispatcherFleetState) : Prop :=
  ∀ record, replica.record = some record → (w.shared.replica client).record = some record ∨
    (w.shared.replica client).record = none ∧
      ∀ dispatchId, record.state.entry dispatchId = w.entry dispatchId

lemma latest_entry (h : Fenced agentDispatcherFleetPersistenceId NoEntries history w.shared)
    {state : AgentDispatcherFleetState} (hlatest : Latest NoEntries history state)
    (dispatchId : AgentDispatchId) : state.entry dispatchId = w.entry dispatchId := by
  unfold FleetWorld.entry
  rw [h.latest]
  rcases hlatest with hlast | ⟨rfl, hnone⟩
  · obtain ⟨record, hrecord, rfl⟩ := map_eq_some_iff.mp hlast
    rw [hrecord, bind_some]
  · rw [List.getLast?_nil, bind_none]
    exact hnone dispatchId

lemma readied_loaded (w : FleetWorld κ) (client : κ) : Readied w client
    (readied w.clock (w.shared.replica client) w.shared.store) := by
  intro record hrecord
  unfold readied at hrecord
  split_ifs at hrecord with hnone
  · cases hrecord
    refine .inr ⟨isNone_iff_eq_none.mp hnone, fun dispatchId => ?_⟩
    unfold FleetWorld.entry
    cases w.shared.store.load agentDispatcherFleetPersistenceId with
    | none => exact Std.ExtTreeMap.getElem?_empty
    | some => rfl
  · exact .inl hrecord

def Copied (w w' : FleetWorld κ) : Prop :=
  ∀ client record, (w'.shared.replica client).record = some record →
    (w.shared.replica client).record = some record ∨
      ∀ dispatchId, record.state.entry dispatchId = w'.entry dispatchId

/-- What one step does to the entries: nothing, or one write in which every entry moves. -/
inductive Stepped (w : FleetWorld κ) : FleetOp κ → FleetWorld κ → Prop
  | quiet (op : FleetOp κ) (w' : FleetWorld κ) (hentry : w'.entry = w.entry)
      (hrevision : w'.revision = w.revision) (hissued : w'.issued = w.issued)
      (hcopied : Copied w w') : Stepped w op w'
  | moved (client : κ) (call : FleetCall) (w' : FleetWorld κ) (claims : List AgentDispatchClaim)
      (hmoved : ∀ dispatchId, Moved w.clock call dispatchId
        (claims.filter (fun claim => claim.dispatchId = dispatchId)) (w.entry dispatchId)
        (w'.entry dispatchId))
      (hrevision : w'.revision = w.revision + 1) (hissued : w'.issued = w.issued ++ claims)
      (hcopied : Copied w w') : Stepped w (.call client call) w'

def Keyed (w : FleetWorld κ) : Prop :=
  ∀ dispatchId entry, w.entry dispatchId = some entry → entry.dispatchId = dispatchId

def Accounted (w : FleetWorld κ) : Prop :=
  ∀ dispatchId, AgentDispatchEntry.Accounted dispatchId w.revision (w.issuedFor dispatchId)
    (w.entry dispatchId)

lemma Accounted.keyed (h : Accounted w) : Keyed w :=
  fun dispatchId entry hentry => (h dispatchId).keyed entry hentry

lemma Stepped.revision_le (h : Stepped w op w') : w.revision ≤ w'.revision := by
  cases h with
  | quiet _ _ hentry hrevision => exact hrevision.ge
  | moved => omega

lemma Stepped.accounted (h : Stepped w op w') (hrevision : w'.revision ≤ u64Max)
    (haccounted : Accounted w) : Accounted w' := by
  intro dispatchId
  unfold issuedFor
  cases h with
  | quiet _ _ hentry hrev hissued =>
    rw [hentry, hrev, hissued]
    exact haccounted dispatchId
  | moved client call _ claims hmoved hrev hissued =>
    rw [hrev, hissued, filter_append]
    exact (haccounted dispatchId).move (by omega) (hmoved dispatchId)

lemma init_accounted : Accounted (init : FleetWorld κ) :=
  fun _ => ⟨fun _ he => (nomatch he), rfl, fun _ _ he => (nomatch he), fun _ he => (nomatch he)⟩

lemma init_coherent : Coherent (init : FleetWorld κ) := by
  refine ⟨[], fun k record hk => (nomatch hk), rfl, fun client record hrecord => nomatch hrecord⟩

lemma Stepped.keyed (h : Stepped w op w') (hkeyed : Keyed w) : Keyed w' := by
  cases h with
  | quiet _ _ hentry =>
    intro dispatchId entry
    rw [hentry]
    exact hkeyed dispatchId entry
  | moved client call _ claims hmoved =>
    exact fun dispatchId => (hmoved dispatchId).keeps_identity (P := fun id _ _ => id = dispatchId)
      (fun _ _ _ => rfl) (hkeyed dispatchId)

/-- Only the holder of its current claim completes, retries or exhausts a claimed entry. -/
theorem Stepped.settled_by_holder (h : Stepped w op w') {next : AgentDispatchEntry}
    (hentry : w.entry dispatchId = some entry) (hstatus : entry.status = .claimed)
    (hnext : w'.entry dispatchId = some next)
    (hsettled : next.status = .completed ∨ next.status = .retryScheduled ∨
      next.status = .exhausted) : ∃ client claim, (op = .call client (.completeClaim claim) ∨
        ∃ event, op = .call client (.recordClaimFailure claim event)) ∧
      claim.dispatchId = dispatchId ∧ entry.isCurrentClaim claim w.clock = true := by
  cases h with
  | quiet _ _ hsame =>
    rw [hsame, hentry] at hnext
    rw [← Option.some.inj hnext, hstatus] at hsettled
    simp at hsettled
  | moved client call _ claims hmoved =>
    have hmove := hmoved dispatchId
    rw [hentry, hnext] at hmove
    generalize claims.filter (fun claim => claim.dispatchId = dispatchId) = mine at hmove
    cases hmove with
    | registered hregistered =>
      cases hregistered with
      | kept =>
        rw [hstatus] at hsettled
        simp at hsettled
      | refreshed _ _ _ _ _ _ _ _ hlease =>
        rcases hlease with ⟨hsame, -⟩ | ⟨hpending, -, -⟩
        · rw [hsame, hstatus] at hsettled
          simp at hsettled
        · rw [hpending] at hsettled
          simp at hsettled
    | claimed => simp [AgentDispatchEntry.claim] at hsettled
    | completed _ claim hcall hid hcurrent =>
      exact ⟨client, claim, .inl (by rw [hcall]), hid, hcurrent⟩
    | recorded _ claim event hcall hid hcurrent =>
      exact ⟨client, claim, .inr ⟨event, by rw [hcall]⟩, hid, hcurrent⟩
    | requested =>
      rw [hstatus] at hsettled
      simp at hsettled
    | cancelled => simp [markCancelled] at hsettled

lemma Accounted.increasing (h : Accounted w) (dispatchId : AgentDispatchId) :
    (w.issuedFor dispatchId).Pairwise (fun first second =>
      first.fencingToken < second.fencingToken) := by
  refine pairwise_map.mp ?_
  rw [(h dispatchId).tokens]
  exact pairwise_lt_range'

lemma Accounted.claim_unique (h : Accounted w) {first second : AgentDispatchClaim}
    (hfirst : first ∈ w.issuedFor dispatchId) (hsecond : second ∈ w.issuedFor dispatchId)
    (htoken : first.fencingToken = second.fencingToken) : first = second := by
  have htokens : ((w.issuedFor dispatchId).map AgentDispatchClaim.fencingToken).Nodup := by
    rw [(h dispatchId).tokens]
    exact nodup_range'
  exact inj_on_of_nodup_map htokens hfirst hsecond htoken

/-- Every claim was issued for an entry with its run and its effect, and the ids are made of
both. -/
structure Identified (w : FleetWorld κ) : Prop where
  formed : ∀ dispatchId entry, w.entry dispatchId = some entry →
    entry.dispatchId = agentDispatchId entry.runId entry.effectId
  claims : ∀ claim ∈ w.issued, ∃ entry, w.entry claim.dispatchId = some entry ∧
    entry.runId = claim.runId ∧ entry.effectId = claim.effectId

lemma Stepped.identified (h : Stepped w op w') (hid : Identified w) : Identified w' := by
  cases h with
  | quiet _ _ hentry hrevision hissued =>
    refine ⟨?_, ?_⟩
    · rw [hentry]
      exact hid.formed
    · rw [hentry, hissued]
      exact hid.claims
  | moved client call _ claims hmoved hrevision hissued =>
    refine ⟨fun dispatchId => (hmoved dispatchId).keeps_identity
      (P := fun id runId effectId => id = agentDispatchId runId effectId) (fun _ _ h => h)
      (hid.formed dispatchId), ?_⟩
    intro claim hclaim
    have hbefore : ∃ entry, w.entry claim.dispatchId = some entry ∧
        entry.runId = claim.runId ∧ entry.effectId = claim.effectId := by
      rw [hissued] at hclaim
      rcases mem_append.mp hclaim with hold | hnew
      · exact hid.claims claim hold
      · exact (hmoved claim.dispatchId).claims_of (mem_filter.mpr ⟨hnew, by simp⟩)
    obtain ⟨entry, hentry, hrun, heffect⟩ := hbefore
    have hmove := hmoved claim.dispatchId
    rw [hentry] at hmove
    obtain ⟨next, hnext, -, hrun', heffect'⟩ := hmove.identity
    exact ⟨next, hnext, hrun'.trans hrun, heffect'.trans heffect⟩

lemma Stepped.terminal (h : Stepped w op w') (hentry : w.entry dispatchId = some entry)
    (hterminal : entry.status.isTerminal = true) : w'.entry dispatchId = some entry := by
  cases h with
  | quiet _ _ hsame =>
    rw [hsame]
    exact hentry
  | moved client call _ claims hmoved =>
    have hmove := hmoved dispatchId
    rw [hentry] at hmove
    exact hmove.terminal_kept hterminal

lemma Stepped.copied (h : Stepped w op w') : Copied w w' := by
  cases h with
  | quiet _ _ _ _ _ hcopied | moved _ _ _ _ _ _ _ hcopied => exact hcopied

variable [DecidableEq κ]

def written (w : FleetWorld κ) (client : κ) (replica : Replica AgentDispatcherFleetState)
    (next : AgentDispatcherFleetState) (claims : List AgentDispatchClaim) : FleetWorld κ :=
  let record : StateRecord AgentDispatcherFleetState := ⟨next, w.revision + 1⟩
  { w with
    shared := Replicated.set
      ⟨⟨w.shared.store.records.insert agentDispatcherFleetPersistenceId record⟩, w.shared.replica⟩
      client { replica with record := some record }
    issued := w.issued ++ claims }

inductive Asked (w : FleetWorld κ) (client : κ) (call : FleetCall) :
    Except AgentDispatcherError FleetAnswer × FleetWorld κ → Prop
  | refused (error : AgentDispatcherError) (replica : Replica AgentDispatcherFleetState)
      (record : StateRecord AgentDispatcherFleetState) (hreplica : Readied w client replica)
      (hrecord : replica.record = some record)
      (hreason : call.decide w.clock record = .fail error ∨ record.revision ≠ w.revision) :
      Asked w client call (.error error, { w with shared := w.shared.set client replica })
  | answered (answer : FleetAnswer) (replica : Replica AgentDispatcherFleetState)
      (record : StateRecord AgentDispatcherFleetState) (hreplica : Readied w client replica)
      (hrecord : replica.record = some record)
      (hdecide : call.decide w.clock record = .answer answer) :
      Asked w client call (.ok answer, { w with shared := w.shared.set client replica })
  | written (answer : FleetAnswer) (replica : Replica AgentDispatcherFleetState)
      (record : StateRecord AgentDispatcherFleetState) (next : AgentDispatcherFleetState)
      (result : StateRecord AgentDispatcherFleetState → FleetAnswer)
      (hlatest : ∀ dispatchId, record.state.entry dispatchId = w.entry dispatchId)
      (hdecide : call.decide w.clock record = .write next result)
      (hanswer : answer = result ⟨next, w.revision + 1⟩) :
      Asked w client call (.ok answer, w.written client replica next answer.claims)

lemma fenced_readied (h : Fenced agentDispatcherFleetPersistenceId NoEntries history w.shared)
    (client : κ) : Fenced agentDispatcherFleetPersistenceId NoEntries history (w.shared.set client
      (readied w.clock (w.shared.replica client) w.shared.store)) := by
  refine h.set client _ (fun record hrecord => ?_)
  unfold readied at hrecord
  split_ifs at hrecord
  · cases hrecord
    cases hload : w.shared.store.load agentDispatcherFleetPersistenceId with
    | none => exact .inl ⟨rfl, fun dispatchId => Std.ExtTreeMap.getElem?_empty⟩
    | some =>
      rw [h.latest, List.getLast?_eq_getElem?] at hload
      exact .inr ⟨_, hload⟩
  · exact h.copies client record hrecord

lemma readied_record (now : AgentTimestampMillis) (handle : Replica AgentDispatcherFleetState)
    (store : InMemoryDurableStateStore AgentDispatcherFleetState) :
    ∃ record, (readied now handle store).record = some record := by
  unfold readied
  split_ifs with hnone
  · exact ⟨_, rfl⟩
  · exact ne_none_iff_exists'.mp (by simpa using hnone)

theorem ask_cases (hcoherent : Coherent w) (client : κ) (call : FleetCall) :
    Asked w client call (w.ask client call) ∧ Coherent (w.ask client call).2 := by
  obtain ⟨history, hfenced⟩ := hcoherent
  obtain ⟨record, hrecord⟩ := readied_record w.clock (w.shared.replica client) w.shared.store
  have hready := fenced_readied hfenced client
  have hloaded := readied_loaded w client
  unfold ask transact
  dsimp only
  generalize readied w.clock (w.shared.replica client) w.shared.store = handle
    at hrecord hready hloaded
  have hcopy : ((w.shared.set client handle).replica client).record = some record := by
    rw [Replicated.set_self]
    exact hrecord
  have hreadied : ∀ replica : Replica AgentDispatcherFleetState, replica.record = handle.record →
      Readied w client replica := by
    intro replica hsame copy hcopy
    exact hloaded copy (hsame.symm.trans hcopy)
  have hquiet : ∀ replica : Replica AgentDispatcherFleetState, replica.record = handle.record →
      Coherent ({ w with shared := w.shared.set client replica } : FleetWorld κ) := by
    intro replica hsame
    refine ⟨history, ?_⟩
    have hset := hready.set client replica
      (fun copy hc => hready.copies client copy (by
        rw [Replicated.set_self, ← hsame]
        exact hc))
    rwa [Replicated.set_set] at hset
  rw [hrecord]
  dsimp only
  have hcases := Replica.perform_cases agentDispatcherFleetPersistenceId
    AgentDispatcherError.persistence record.revision (call.decide w.clock record) handle
    w.shared.store
  generalize Replica.perform agentDispatcherFleetPersistenceId AgentDispatcherError.persistence
    record.revision (call.decide w.clock record) (handle, w.shared.store) = out at hcases
  cases hcases with
  | failed error hdecision =>
    simp only [Except.toOption, map_none, getD_none, append_nil]
    exact ⟨.refused error handle record (hreadied handle rfl) hrecord (.inl hdecision),
      hquiet handle rfl⟩
  | lost next result hdecision hconflict =>
    simp only [Except.toOption, map_none, getD_none, append_nil]
    exact ⟨.refused _ _ record (hreadied _ rfl) hrecord (.inr (fun h => hconflict h.symm)),
      hquiet _ rfl⟩
  | answered result hdecision =>
    simp only [Except.toOption, map_some, getD_some, FleetCall.decide_answer hdecision, append_nil]
    exact ⟨.answered result handle record (hreadied handle rfl) hrecord hdecision,
      hquiet handle rfl⟩
  | written next result hdecision hexpected =>
    have hlatest : ∀ dispatchId, record.state.entry dispatchId = w.entry dispatchId :=
      latest_entry hfenced (hready.copy_latest hcopy hexpected)
    have hrevision : record.revision = w.revision := hexpected.symm
    rw [hrevision]
    simp only [Except.toOption, map_some, getD_some]
    refine ⟨.written _ handle record next result hlatest hdecision rfl, ?_⟩
    have hmove : Move agentDispatcherFleetPersistenceId NoEntries (w.shared.set client handle) _ _ :=
      .written client record next hcopy hexpected
    obtain ⟨history', -, hfenced'⟩ := hready.move hmove
    refine ⟨history', ?_⟩
    simpa only [Replicated.set, Function.update_idem, Function.update_self, hrevision]
      using hfenced'

lemma entry_written (w : FleetWorld κ) (client : κ) (replica : Replica AgentDispatcherFleetState)
    (next : AgentDispatcherFleetState) (claims : List AgentDispatchClaim)
    (dispatchId : AgentDispatchId) :
    (w.written client replica next claims).entry dispatchId = next.entry dispatchId := by
  unfold FleetWorld.entry written
  simp only [Replicated.set, InMemoryDurableStateStore.load_insert, bind_some]

lemma revision_written (w : FleetWorld κ) (client : κ)
    (replica : Replica AgentDispatcherFleetState) (next : AgentDispatcherFleetState)
    (claims : List AgentDispatchClaim) :
    (w.written client replica next claims).revision = w.revision + 1 := by
  simp only [FleetWorld.revision, written, Replicated.set,
    InMemoryDurableStateStore.revisionOf_insert]

lemma copied_set {store : InMemoryDurableStateStore AgentDispatcherFleetState}
    {replica : Replica AgentDispatcherFleetState}
    (hshared : w'.shared = Replicated.set ⟨store, w.shared.replica⟩ client replica)
    (hreplica : ∀ record, replica.record = some record →
      (w.shared.replica client).record = some record ∨
        ∀ dispatchId, record.state.entry dispatchId = w'.entry dispatchId) : Copied w w' := by
  intro other record hrecord
  rw [hshared] at hrecord
  by_cases hother : other = client
  · subst hother
    rw [Replicated.set_self] at hrecord
    exact hreplica record hrecord
  · simp only [Replicated.set, Function.update_of_ne hother] at hrecord
    exact .inl hrecord

lemma step_cases (hcoherent : Coherent w) (hkeyed : Keyed w) (op : FleetOp κ) :
    Stepped w op (w.step op) ∧ Coherent (w.step op) := by
  obtain ⟨history, hfenced⟩ := hcoherent
  cases op with
  | elapse =>
    exact ⟨.quiet _ _ rfl rfl rfl (fun _ _ hrecord => .inl hrecord), history, hfenced⟩
  | recover client =>
    -- a load is what a handle without a copy does before a call
    have hloaded := readied_loaded { w with shared := w.shared.set client .new } client
    have hnew : ∀ now store, readied now .new store = recover now store := fun _ _ => rfl
    rw [Replicated.set_self, hnew] at hloaded
    have hfresh := fenced_readied (w := { w with shared := w.shared.set client .new })
      (hfenced.set client .new (fun record hrecord => nomatch hrecord)) client
    rw [Replicated.set_self, hnew, Replicated.set_set] at hfresh
    refine ⟨.quiet _ _ rfl rfl rfl (copied_set rfl (fun record hrecord => ?_)), history, hfresh⟩
    rcases hloaded record hrecord with hold | ⟨-, hstored⟩
    · rw [Replicated.set_self] at hold
      cases hold
    · exact .inr hstored
  | restart client =>
    exact ⟨.quiet _ _ rfl rfl rfl (copied_set rfl (fun record hrecord => nomatch hrecord)), history,
      hfenced.set client _ (fun record hrecord => nomatch hrecord)⟩
  | call client call =>
    obtain ⟨hasked, hcoherent'⟩ := ask_cases ⟨history, hfenced⟩ client call
    refine ⟨?_, hcoherent'⟩
    show Stepped w _ (w.ask client call).2
    generalize w.ask client call = out at hasked
    cases hasked with
    | refused error replica record hreplica hrecord hreason
    | answered answer replica record hreplica =>
      exact .quiet _ _ rfl rfl rfl (copied_set rfl (fun copy hcopy =>
        (hreplica copy hcopy).imp id And.right))
    | written answer replica record next result hlatest hdecide hanswer =>
      have hrecord : record.state.Keyed := by
        intro dispatchId entry hentry
        exact hkeyed dispatchId entry ((hlatest dispatchId).symm.trans hentry)
      obtain ⟨given, rfl, hmoved⟩ := FleetCall.decide_write hrecord hdecide
      subst hanswer
      refine .moved client call _ answer.claims (fun dispatchId => ?_) ?_ rfl
        (copied_set rfl (fun copy hcopy => ?_))
      · rw [entry_written, ← hlatest]
        exact hmoved dispatchId
      · exact revision_written w client replica next answer.claims
      · cases hcopy
        exact .inr (fun dispatchId => (entry_written w client replica next _ dispatchId).symm)

lemma run_concat (w : FleetWorld κ) (ops : List (FleetOp κ)) (op : FleetOp κ) :
    w.run (ops ++ [op]) = (w.run ops).step op := by
  rw [run, foldl_append]
  rfl

section
variable (ops : List (FleetOp κ))

lemma run_coherent :
    Coherent (init.run ops : FleetWorld κ) ∧ Keyed (init.run ops : FleetWorld κ) := by
  induction ops using List.reverseRecOn with
  | nil => exact ⟨init_coherent, init_accounted.keyed⟩
  | append_singleton ops op ih =>
    rw [run_concat]
    obtain ⟨hstepped, hcoherent⟩ := step_cases ih.1 ih.2 op
    exact ⟨hcoherent, hstepped.keyed ih.2⟩

lemma run_stepped (op : FleetOp κ) :
    Stepped (init.run ops : FleetWorld κ) op (init.run (ops ++ [op])) := by
  rw [run_concat]
  exact (step_cases (run_coherent ops).1 (run_coherent ops).2 op).1

lemma run_accounted (hrevision : (init.run ops : FleetWorld κ).revision ≤ u64Max) :
    Accounted (init.run ops : FleetWorld κ) := by
  induction ops using List.reverseRecOn with
  | nil => exact init_accounted
  | append_singleton ops op ih =>
    have hstepped : Stepped (init.run ops : FleetWorld κ) op _ := run_stepped ops op
    exact hstepped.accounted hrevision (ih (hstepped.revision_le.trans hrevision))

lemma closed_for_good (ops more : List (FleetOp κ))
    (hentry : (init.run ops : FleetWorld κ).entry dispatchId = some entry)
    (hclosed : entry.isClosed = true) :
    (init.run (ops ++ more) : FleetWorld κ).issuedFor dispatchId =
        (init.run ops : FleetWorld κ).issuedFor dispatchId ∧
      ∃ next, (init.run (ops ++ more) : FleetWorld κ).entry dispatchId = some next ∧
        next.isClosed = true := by
  induction more using List.reverseRecOn with
  | nil =>
    rw [append_nil]
    exact ⟨rfl, entry, hentry, hclosed⟩
  | append_singleton more op ih =>
    obtain ⟨hissued, next, hnext, hnextClosed⟩ := ih
    rw [← append_assoc]
    have hstepped : Stepped (init.run (ops ++ more) : FleetWorld κ) op _ :=
      run_stepped (ops ++ more) op
    generalize (init.run (ops ++ more ++ [op]) : FleetWorld κ) = w' at hstepped
    cases hstepped with
    | quiet _ _ hsame hrevision hsameIssued =>
      refine ⟨?_, next, ?_, hnextClosed⟩
      · rw [issuedFor, hsameIssued]
        exact hissued
      · rw [hsame]
        exact hnext
    | moved client call _ claims hmoved hrevision hmore =>
      have hmove := hmoved dispatchId
      rw [hnext] at hmove
      obtain ⟨hnone, hafter⟩ := hmove.closed hnextClosed
      refine ⟨?_, hafter⟩
      rw [issuedFor, hmore, filter_append, hnone, append_nil]
      exact hissued

lemma run_identified : Identified (init.run ops : FleetWorld κ) := by
  induction ops using List.reverseRecOn with
  | nil => exact ⟨fun _ _ h => (nomatch h), fun _ h => (nomatch h)⟩
  | append_singleton ops op ih => exact (run_stepped ops op).identified ih

/-- What a copy shows as settled is settled just so in the stored record. -/
def TerminalKept (w : FleetWorld κ) : Prop :=
  ∀ client record dispatchId entry, (w.shared.replica client).record = some record →
    record.state.entry dispatchId = some entry → entry.status.isTerminal = true →
    w.entry dispatchId = some entry

lemma run_terminalKept : TerminalKept (init.run ops : FleetWorld κ) := by
  induction ops using List.reverseRecOn with
  | nil => exact fun _ _ _ _ h => (nomatch h)
  | append_singleton ops op ih =>
    intro client record dispatchId entry hrecord hentry hterminal
    have hstepped : Stepped (init.run ops : FleetWorld κ) op _ := run_stepped ops op
    rcases hstepped.copied client record hrecord with hold | hstored
    · exact hstepped.terminal (ih client record dispatchId entry hold hentry hterminal) hterminal
    · rw [← hstored]
      exact hentry

end

/-- The claims issued for an entry exclude each other and are fenced. -/
theorem fleet_claims_fenced (ops : List (FleetOp κ))
    (hrevision : (init.run ops : FleetWorld κ).revision ≤ u64Max) (dispatchId : AgentDispatchId) :
    (∀ entry, (init.run ops : FleetWorld κ).entry dispatchId = some entry →
      ∀ first ∈ (init.run ops : FleetWorld κ).issuedFor dispatchId,
      ∀ second ∈ (init.run ops : FleetWorld κ).issuedFor dispatchId,
        entry.isCurrentClaim first (init.run ops : FleetWorld κ).clock = true →
        entry.isCurrentClaim second (init.run ops : FleetWorld κ).clock = true → first = second) ∧
    ((init.run ops : FleetWorld κ).issuedFor dispatchId).Pairwise (fun first second =>
      first.fencingToken < second.fencingToken) ∧
    (∀ op entry next, (init.run ops : FleetWorld κ).entry dispatchId = some entry →
      entry.status = .claimed →
      ((init.run ops).step op : FleetWorld κ).entry dispatchId = some next →
      (next.status = .completed ∨ next.status = .retryScheduled ∨ next.status = .exhausted) →
      ∃ client claim, (op = .call client (.completeClaim claim) ∨
          ∃ event, op = .call client (.recordClaimFailure claim event)) ∧
        entry.isCurrentClaim claim (init.run ops : FleetWorld κ).clock = true ∧
        ∃ held ∈ (init.run ops : FleetWorld κ).issuedFor dispatchId,
          claim.dispatchId = held.dispatchId ∧ claim.workerId = held.workerId ∧
          claim.fencingToken = held.fencingToken) ∧
    (∀ entry more, (init.run ops : FleetWorld κ).entry dispatchId = some entry →
      (entry.cancellationRequested = true ∨ entry.status.isTerminal = true) →
      (init.run (ops ++ more) : FleetWorld κ).issuedFor dispatchId =
        (init.run ops : FleetWorld κ).issuedFor dispatchId) := by
  have haccounted : Accounted (init.run ops : FleetWorld κ) := run_accounted ops hrevision
  refine ⟨?_, haccounted.increasing dispatchId, ?_, ?_⟩
  · intro entry hentry first hfirst second hsecond hcurrent hcurrent'
    obtain ⟨-, lease, hlease, -, htoken, -⟩ := claimed_of_current hcurrent
    obtain ⟨-, lease', hlease', -, htoken', -⟩ := claimed_of_current hcurrent'
    have hsame : lease = lease' := Option.some.inj (hlease.symm.trans hlease')
    refine haccounted.claim_unique hfirst hsecond ?_
    rw [← htoken, ← htoken', hsame]
  · intro op entry next hentry hstatus hnext hsettled
    have hstepped : Stepped (init.run ops : FleetWorld κ) op _ := run_stepped ops op
    rw [run_concat] at hstepped
    obtain ⟨client, claim, hop, hid, hcurrent⟩ :=
      hstepped.settled_by_holder hentry hstatus hnext hsettled
    obtain ⟨-, lease, hlease, hworker, htoken, -⟩ := claimed_of_current hcurrent
    obtain ⟨-, held, hheld, hheldWorker, hheldToken⟩ :=
      (haccounted dispatchId).leased entry lease hentry hlease
    have hheldId : held.dispatchId = dispatchId := by simpa using (mem_filter.mp hheld).2
    exact ⟨client, claim, hop, hcurrent, held, hheld, hid.trans hheldId.symm,
      hworker.symm.trans hheldWorker.symm, htoken.symm.trans hheldToken.symm⟩
  · intro entry more hentry hclosed
    refine (closed_for_good ops more hentry ?_).1
    simpa [isClosed] using hclosed

inductive AskEffect (w : FleetWorld κ) (client : κ) (call : FleetCall) :
    Except AgentDispatcherError FleetAnswer × FleetWorld κ → Prop
  | quiet (answer : Except AgentDispatcherError FleetAnswer) (w' : FleetWorld κ)
      (hentry : w'.entry = w.entry) (hrevision : w'.revision = w.revision)
      (hissued : w'.issued = w.issued) (hclock : w'.clock = w.clock)
      (hclaims : ∀ given, answer = .ok given → given.claims = []) :
      AskEffect w client call (answer, w')
  | moved (answer : FleetAnswer) (w' : FleetWorld κ)
      (hmoved : ∀ dispatchId, Moved w.clock call dispatchId
        (answer.claims.filter (fun claim => claim.dispatchId = dispatchId)) (w.entry dispatchId)
        (w'.entry dispatchId))
      (hrevision : w'.revision = w.revision + 1) (hissued : w'.issued = w.issued ++ answer.claims)
      (hclock : w'.clock = w.clock) : AskEffect w client call (.ok answer, w')

lemma ask_effect (hcoherent : Coherent w) (hkeyed : Keyed w) (client : κ) (call : FleetCall) :
    AskEffect w client call (w.ask client call) := by
  have hasked := (ask_cases hcoherent client call).1
  generalize w.ask client call = out at hasked
  cases hasked with
  | refused => exact .quiet _ _ rfl rfl rfl rfl (fun given hgiven => nomatch hgiven)
  | answered answer replica record hreplica hrecord hdecide =>
    refine .quiet _ _ rfl rfl rfl rfl (fun given hgiven => ?_)
    rw [← Except.ok.inj hgiven]
    exact FleetCall.decide_answer hdecide
  | written answer replica record next result hlatest hdecide hanswer =>
    have hrecord : record.state.Keyed := fun dispatchId entry hentry =>
      hkeyed dispatchId entry ((hlatest dispatchId).symm.trans hentry)
    obtain ⟨given, rfl, hmoved⟩ := FleetCall.decide_write hrecord hdecide
    subst hanswer
    refine .moved answer _ (fun dispatchId => ?_) (revision_written w client replica next _) rfl rfl
    rw [entry_written, ← hlatest]
    exact hmoved dispatchId

lemma ask_settles (hcoherent : Coherent w) {call : FleetCall} {claim : AgentDispatchClaim}
    (hsettles : call.settles = some claim) (hcopy : (w.shared.replica client).record = some record)
    (hrevision : record.revision = w.revision) (hentry : w.entry claim.dispatchId = some entry)
    (hcurrent : entry.isCurrentClaim claim w.clock = true) :
    (w.ask client call).2.revision = w.revision + 1 := by
  obtain ⟨history, hfenced⟩ := id hcoherent
  have hshown : record.state.entry claim.dispatchId = some entry := (latest_entry hfenced
    (hfenced.copy_latest hcopy hrevision.symm) claim.dispatchId).trans hentry
  have hdecides := FleetCall.decide_settles hsettles hshown hcurrent
  have hsame : ∀ replica copy, Readied w client replica → replica.record = some copy →
      copy = record := by
    intro replica copy hreadied hrecord
    rcases hreadied copy hrecord with hold | ⟨hnone, -⟩
    · exact Option.some.inj (hold.symm.trans hcopy)
    · rw [hnone] at hcopy
      cases hcopy
  have hasked := (ask_cases hcoherent client call).1
  generalize w.ask client call = out at hasked
  cases hasked with
  | refused error replica copy hreplica hrecord hreason =>
    rw [hsame replica copy hreplica hrecord] at hreason
    rcases hreason with hfail | hconflict
    · obtain ⟨next, result, hwrite⟩ := hdecides
      rw [hfail] at hwrite
      cases hwrite
    · exact absurd hrevision hconflict
  | answered answer replica copy hreplica hrecord hdecide =>
    rw [hsame replica copy hreplica hrecord] at hdecide
    obtain ⟨next, result, hwrite⟩ := hdecides
    rw [hdecide] at hwrite
    cases hwrite
  | written answer replica copy next =>
    exact revision_written w client replica next _

lemma ask_cancels (hcoherent : Coherent w) (hkeyed : Keyed w) {runId : AgentRunId}
    {answer : FleetAnswer} (h : w.ask client (.cancelRunDispatches runId) = (.ok answer, w'))
    {effectId : AgentEffectId} (hmem : effectId ∈ answer.cancelledEffectIds) :
    ∃ dispatchId entry, w'.entry dispatchId = some entry ∧ entry.runId = runId ∧
      entry.effectId = effectId ∧ entry.status = .cancelled := by
  have hasked := (ask_cases hcoherent client (.cancelRunDispatches runId)).1
  rw [h] at hasked
  generalize hout : (Except.ok answer, w') = out at hasked
  cases hasked with
  | refused => cases hout
  | answered given replica record hreplica hrecord hdecide =>
    have hgiven : answer = given := Except.ok.inj (Prod.mk.inj hout).1
    obtain ⟨cancellation, hanswer, hreported⟩ := FleetDecision.map_answer hdecide
    rw [hgiven, ← hreported, cancelled_of_answer hanswer] at hmem
    cases hmem
  | written given replica record next result hlatest hdecide hanswer =>
    have hw : w' = w.written client replica next given.claims := (Prod.mk.inj hout).2
    have hgiven : answer = given := Except.ok.inj (Prod.mk.inj hout).1
    obtain ⟨cancellation, hwrite, rfl⟩ := FleetDecision.map_write hdecide
    rw [hgiven, hanswer] at hmem
    have hrecord : record.state.Keyed := fun dispatchId entry hentry =>
      hkeyed dispatchId entry ((hlatest dispatchId).symm.trans hentry)
    obtain ⟨entry, hentry, hrun, heffect⟩ := cancelled_of_write hrecord hwrite hmem
    refine ⟨entry.dispatchId, entry.markCancelled w.clock, ?_, hrun, heffect, rfl⟩
    rw [hw, entry_written]
    exact hentry

def toolCallDue : AgentDueEffect :=
  ⟨.new ⟨"call"⟩ none (.application "tool") "agent-effect" [] 0 .default,
    ⟨⟨"call"⟩, .toolCall, ⟨"tool", "search", none, ∅⟩, none, none⟩⟩

def leaseSettings : AgentDispatcherFleetSettings := .new 4 10

def takeover : List (FleetOp Bool) :=
  [.call true (.registerDueEffects ⟨"run"⟩ none [toolCallDue]),
    .call true (.claimDue leaseSettings .any ⟨"a"⟩), .elapse 10, .recover false,
    .call false (.claimDue leaseSettings .any ⟨"b"⟩)]

theorem takeover_is_fenced : ((init.run takeover : FleetWorld Bool).issuedFor ⟨"run:call"⟩).map
        (fun claim => (claim.workerId.value, claim.fencingToken)) = [("a", 1), ("b", 2)] ∧
      ((init.run takeover : FleetWorld Bool).issuedFor ⟨"run:call"⟩).Pairwise
        (fun first second => first.fencingToken < second.fencingToken) :=
  ⟨by decide +kernel, (fleet_claims_fenced takeover (by decide +kernel) ⟨"run:call"⟩).2.1⟩

/-- A settled entry never changes again, and no handle shows it settled in another way. -/
theorem settled_entry_is_final (ops more : List (FleetOp κ)) (dispatchId : AgentDispatchId)
    (entry : AgentDispatchEntry)
    (hentry : (init.run ops : FleetWorld κ).entry dispatchId = some entry)
    (hterminal : entry.status.isTerminal = true) :
    (init.run (ops ++ more) : FleetWorld κ).entry dispatchId = some entry ∧
      ∀ client record shown,
        ((init.run (ops ++ more) : FleetWorld κ).shared.replica client).record = some record →
        record.state.entry dispatchId = some shown → shown.status.isTerminal = true →
          shown = entry := by
  have hkept : (init.run (ops ++ more) : FleetWorld κ).entry dispatchId = some entry := by
    induction more using List.reverseRecOn with
    | nil => rwa [append_nil]
    | append_singleton more op ih =>
      rw [← append_assoc]
      exact (run_stepped (ops ++ more) op).terminal ih hterminal
  refine ⟨hkept, fun client record shown hrecord hshown hsettled => ?_⟩
  have hstored := run_terminalKept (ops ++ more) client record dispatchId shown hrecord hshown hsettled
  exact Option.some.inj (hstored.symm.trans hkept)

theorem cancelled_entry_is_final :
    let cancelled : List (FleetOp Bool) := [.call true (.registerDueEffects ⟨"run"⟩ none [toolCallDue]),
      .call true (.cancelRunDispatches ⟨"run"⟩)]
    ∃ entry, entry.status = .cancelled ∧
      (init.run (cancelled ++ takeover) : FleetWorld Bool).entry ⟨"run:call"⟩ = some entry := by
  intro cancelled
  have hcancelled : ((init.run cancelled : FleetWorld Bool).entry ⟨"run:call"⟩).map (·.status) =
      some .cancelled := by decide +kernel
  obtain ⟨entry, hentry, hstatus⟩ := Option.map_eq_some_iff.mp hcancelled
  exact ⟨entry, hstatus, (settled_entry_is_final cancelled takeover _ entry hentry
    (by rw [hstatus]; rfl)).1⟩

end FleetWorld
end Rakka.AgentWorkflow
