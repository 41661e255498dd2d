import Rakka.Persistence.EventRecovery

/-! Runs of a supervised event-sourced actor, with failures, panics and crashes at any call: what
recovery finds in the stores, and how far behind its journal a running actor can be. -/

namespace Rakka.Persistence
open Foundation Rakka.Core

namespace EventSourcedTask
variable {S E : Type}
open DurableView EventSourcedActorRuntime

/-- The stores keep their promise; where `c` holds, a running actor is at the end of its log. -/
structure Kept (actor : EventSourcedActor S E) (c : Prop) (task : EventSourcedTask S E) : Prop where
  sound : Sound actor False task.runtime.view
  current : c → task.phase = .running → Sound actor True task.runtime.view

/-- Events are only added, and the promises are kept as long as the sequence numbers do not run out.
-/
structure Follows (actor : EventSourcedActor S E) (c : Prop) (P : EventSourcedTask S E → Prop)
    (s t : EventSourcedTask S E) : Prop where
  back : t.runtime.InRange → s.runtime.InRange
  kept : t.runtime.InRange → P s → Kept actor c t

section
variable {spawn : EventSourcedSpawn S E} {c : Prop}
variable {actor : EventSourcedActor S E} {task : EventSourcedTask S E}
variable {r : EventSourcedActorRuntime S E} {t : EventSourcedTask S E}
  {journal : InMemoryEventJournal E} {snapshots : InMemorySnapshotStore S}
variable (o : EventSourcedActorRuntime S E)

def Stored (actor : EventSourcedActor S E) (task : EventSourcedTask S E) : Prop :=
  Sound actor False task.runtime.view

lemma Stored.kept (h : Stored actor task) (hphase : task.phase ≠ .running) : Kept actor c task :=
  ⟨h, fun _ hrunning => absurd hrunning hphase⟩

lemma Sound.forget (h : Sound actor False r.view) :
    Sound actor False (view { r with recovered := none }) :=
  ⟨⟨h.durable.1, h.durable.2⟩, fun _ heq => (by cases heq), False.elim⟩

lemma crashed_kept (h : Stored actor task) : Kept actor c task.crashed :=
  Stored.kept (Sound.forget h) (by rintro ⟨⟩)

lemma terminate_follows (spawn : EventSourcedSpawn S E) (task : EventSourcedTask S E) :
    Follows spawn.actor c (Stored spawn.actor) task (terminate spawn task) := by
  have hview := onSignal_view (.postStop spawn.actor.persistenceId) task.runtime
  unfold terminate stopped
  generalize onSignal (.postStop spawn.actor.persistenceId) task.runtime = out at hview
  obtain ⟨answer, runtime⟩ := out
  have hback : runtime.InRange → task.runtime.InRange := by
    rw [inRange_iff_view, inRange_iff_view, hview]
    exact id
  have hkept (h : Stored spawn.actor task) : Sound spawn.actor False runtime.view := by
    rw [hview]
    exact h
  rcases answer with (failure | -) | -
  · exact ⟨hback, fun _ h => Stored.kept (hkept h) (by rintro ⟨⟩)⟩
  · exact ⟨hback, fun _ h => crashed_kept (hkept h)⟩
  · exact ⟨hback, fun _ h => Stored.kept (hkept h) (by rintro ⟨⟩)⟩

lemma Kept.of_running (h : Sound actor c task.runtime.view) : Kept actor c task :=
  ⟨h.weaken False.elim, fun hc _ => h.weaken (fun _ => hc)⟩

lemma Kept.sound_of_running (h : Kept actor c task) (hrunning : task.phase = .running) :
    Sound actor c task.runtime.view := by
  refine ⟨h.sound.durable, fun recovered heq => ?_, fun hc => ?_⟩
  · have hat := h.sound.recovered recovered heq
    exact ⟨hat.le, hat.state_eq,
      fun hc => ((h.current hc hrunning).recovered recovered heq).last trivial⟩
  · exact (h.current hc hrunning).present trivial

theorem afterLifecycle_follows {lifecycle : RuntimeCall S E ActorAction}
    (hlifecycle : Assures (Sound spawn.actor False) lifecycle (fun _ => Sound spawn.actor True)
      (Sound spawn.actor False)) (task : EventSourcedTask S E) :
    Follows spawn.actor c (Stored spawn.actor) task
      (afterLifecycle spawn task (lifecycle { task.runtime with recovered := none })) := by
  have hback := hlifecycle.back { task.runtime with recovered := none }
  have hpost := hlifecycle.post { task.runtime with recovered := none }
  generalize lifecycle { task.runtime with recovered := none } = out at hback hpost
  obtain ⟨answer, runtime⟩ := out
  have hend := terminate_follows (c := c) spawn { task with runtime }
  unfold afterLifecycle
  rcases answer with (failure | -) | (- | -)
  · exact ⟨fun hr => hback (hend.back hr),
      fun hr h => hend.kept hr (hpost (hend.back hr) (Sound.forget h))⟩
  · exact ⟨hback, fun hr h => crashed_kept (hpost hr (Sound.forget h))⟩
  · refine ⟨hback, fun hr h => Kept.of_running ?_⟩
    exact DurableView.Sound.weaken (hpost hr (Sound.forget h)) (fun _ => trivial)
  · refine ⟨fun hr => hback (hend.back hr), fun hr h => hend.kept hr ?_⟩
    exact DurableView.Sound.weaken (hpost (hend.back hr) (Sound.forget h)) False.elim

section
variable (hoptions : spawn.recoveryOptions = .new)
include hoptions

lemma restart_follows (task : EventSourcedTask S E) :
    Follows spawn.actor c (Stored spawn.actor) task (restart spawn task) := by
  unfold restart
  split_ifs with hrestartable
  · rw [hoptions]
    exact afterLifecycle_follows (.bind (onSignal_assures _ (fun _ h => h))
      (fun _ => started_assures spawn.actor)) task
  · exact ⟨id, fun _ h => Stored.kept h (by rintro ⟨⟩)⟩

lemma superviseFailure_follows (hresume : c → spawn.supervision ≠ .resume)
    (task : EventSourcedTask S E) :
    Follows spawn.actor c (Stored spawn.actor) task (superviseFailure spawn task) := by
  unfold superviseFailure
  cases hsupervision : spawn.supervision with
  | resume => exact ⟨id, fun _ h => ⟨h, fun hc => absurd hsupervision (hresume hc)⟩⟩
  | restart => exact restart_follows hoptions task
  | stop | escalate => exact terminate_follows spawn task
  | restartWithBackoff maxRestarts =>
    dsimp only
    split_ifs
    · exact terminate_follows spawn task
    · have h := restart_follows (c := c) hoptions
        { task with restartCount := task.restartCount + 1 }
      exact ⟨h.back, h.kept⟩

lemma afterHandle_follows (hkeeps : KeepsSnapshot spawn.actor)
    (hresume : c → spawn.supervision ≠ .resume) (task : EventSourcedTask S E)
    (hrunning : task.phase = .running) (handleCommand : CommandHandler S E) :
    Follows spawn.actor c (Kept spawn.actor c) task
      (afterHandle spawn task (handle spawn.actor handleCommand task.runtime)) := by
  have hhandle := handle_assures (c := c) hkeeps handleCommand
  have hback := hhandle.back task.runtime
  have hpost (hr) (h : Kept spawn.actor c task) :=
    hhandle.post task.runtime hr (h.sound_of_running hrunning)
  generalize handle spawn.actor handleCommand task.runtime = out at hback hpost
  obtain ⟨answer, runtime⟩ := out
  have hend := terminate_follows (c := c) spawn { task with runtime }
  have hfailed := superviseFailure_follows hoptions hresume { task with runtime }
  unfold afterHandle
  rcases answer with (failure | -) | (- | -)
  · exact ⟨fun hr => hback (hfailed.back hr),
      fun hr h => hfailed.kept hr (hpost (hfailed.back hr) h)⟩
  · exact ⟨hback, fun hr h => crashed_kept (hpost hr h)⟩
  · exact ⟨hback, fun hr h => Kept.of_running (hpost hr h)⟩
  · refine ⟨fun hr => hback (hend.back hr), fun hr h => hend.kept hr ?_⟩
    exact DurableView.Sound.weaken (hpost (hend.back hr) h) False.elim

lemma step_follows (hkeeps : KeepsSnapshot spawn.actor)
    (hresume : c → spawn.supervision ≠ .resume) {s : EventSourcedTask S E} {op : EventSourcedOp S E}
    (h : step spawn s op = some t) : Follows spawn.actor c (Kept spawn.actor c) s t := by
  cases op with
  | spawn now faults =>
    simp only [step, Option.ite_none_left_eq_some, Option.some.injEq] at h
    obtain ⟨-, rfl⟩ := h
    rw [hoptions]
    have hstart := afterLifecycle_follows (c := c) (started_assures spawn.actor)
      { s.facing now faults with restartCount := 0 }
    exact ⟨hstart.back, fun hr h => hstart.kept hr h.sound⟩
  | handle handleCommand now faults =>
    simp only [step, Option.ite_none_right_eq_some, Option.some.injEq] at h
    obtain ⟨hrunning, rfl⟩ := h
    have hhandle := afterHandle_follows hoptions hkeeps hresume (s.facing now faults) hrunning
      handleCommand
    exact ⟨hhandle.back, fun hr h => hhandle.kept hr ⟨h.sound, h.current⟩⟩
  | stop now faults =>
    simp only [step, Option.ite_none_right_eq_some, Option.some.injEq] at h
    obtain ⟨hrunning, rfl⟩ := h
    have hend := terminate_follows (c := c) spawn (s.facing now faults)
    exact ⟨hend.back, fun hr h => hend.kept hr h.sound⟩
  | crash =>
    cases h
    exact ⟨id, fun _ h => crashed_kept h.sound⟩

end

structure Blank (actor : EventSourcedActor S E) (journal : InMemoryEventJournal E)
    (snapshots : InMemorySnapshotStore S) : Prop where
  journal_eq : journal.records[actor.persistenceId]? = none
  snapshots_eq : snapshots.records[actor.persistenceId]? = none

lemma init_kept (h : Blank actor journal snapshots) : Kept actor c (init journal snapshots) := by
  refine Stored.kept ⟨⟨?_, ?_⟩, fun _ heq => (by cases heq), False.elim⟩ (by rintro ⟨⟩)
  · show journal.highestSequenceNr actor.persistenceId = 0
    rw [InMemoryEventJournal.highestSequenceNr_eq, h.journal_eq]
    rfl
  · show EventLog.Covers _ _ _ [] (journal.entries actor.persistenceId)
      (snapshots.saved actor.persistenceId)
    rw [InMemoryEventJournal.entries, InMemorySnapshotStore.saved, h.journal_eq, h.snapshots_eq]
    exact EventLog.covers_nil

lemma run_kept (hoptions : spawn.recoveryOptions = .new) (hkeeps : KeepsSnapshot spawn.actor)
    (hresume : c → spawn.supervision ≠ .resume) (hblank : Blank spawn.actor journal snapshots)
    {ops : List (EventSourcedOp S E)}
    (hrun : runFrom (step spawn) (init journal snapshots) ops = some t) (hrange : t.runtime.InRange)
    : Kept spawn.actor c t := by
  let Inv (task : EventSourcedTask S E) : Prop := task.runtime.InRange → Kept spawn.actor c task
  have hstep : ∀ s op s', Inv s → step spawn s op = some s' → Inv s' := by
    intro s op s' hs h hr
    have hfollows := step_follows hoptions hkeeps hresume h
    exact hfollows.kept hr (hs (hfollows.back hr))
  have hinit : Inv (init journal snapshots) := fun _ => init_kept hblank
  exact runFrom_invariant (step spawn) hstep hinit hrun hrange

/-- No fault lies ahead, and the journal is as it was. -/
structure Quiet (o r : EventSourcedActorRuntime S E) : Prop where
  faults : r.faults = []
  journal : r.journal = o.journal
  appended : r.appended = o.appended

abbrev Succeeds {α : Type} (x : RuntimeCall S E α) : Prop :=
  Attempt.Contract (fun _ => True) (Quiet o) x (fun _ => Quiet o) (fun _ _ => False)

lemma nextFault_of_quiet {o : EventSourcedActorRuntime S E} (h : Quiet o r) :
    r.nextFault = (.none, r) := by
  unfold nextFault
  rw [h.faults]

lemma onSignal_succeeds (signal : PersistenceSignal) :
    Succeeds o (onSignal signal : RuntimeCall S E Unit) := by
  refine .of_iff (fun _ => Iff.rfl) (fun r _ h => ?_)
  unfold onSignal
  rw [nextFault_of_quiet h]
  exact ⟨h.faults, h.journal, h.appended⟩

lemma storeRead_succeeds {α : Type} (answer : EventSourcedActorRuntime S E → α) :
    Succeeds o (storeCall (fun r => (.ok (answer r), r)) >>= orFail) := by
  refine .of_iff (fun _ => Iff.rfl) (fun r _ h => ?_)
  have hcall : storeCall (fun r => (.ok (answer r), r)) r = (.ok (.ok (answer r)), r) := by
    unfold storeCall
    rw [nextFault_of_quiet h]
  rw [Attempt.bind_of_ok hcall]
  exact h

lemma recover_succeeds (actor : EventSourcedActor S E) (options : RecoveryOptions)
    (o : EventSourcedActorRuntime S E) : Succeeds o (recover actor options) := by
  have hreplay (base : S × ℕ) : Succeeds o (replayAfter actor options base) := by
    unfold replayAfter
    dsimp only
    split_ifs
    · exact .bind (storeRead_succeeds o _) (fun _ => .pure _ (fun _ _ h => h))
    · exact .pure _ (fun _ _ h => h)
  unfold recover
  refine .bind (onSignal_succeeds o _) (fun _ => ?_)
  refine .bind (storeRead_succeeds o _) (fun snapshot => ?_)
  refine .bind (hreplay _) (fun reached => ?_)
  exact .bind (.modify (R := fun _ => Quiet o) (fun _ => Iff.rfl)
    (fun _ _ h => ⟨h.faults, h.journal, h.appended⟩)) (fun _ => onSignal_succeeds o _)

/-- Whatever went wrong along a run, recovery finds all events the journal ever took and the
next append is accepted, provided the retention keeps a snapshot where it deletes events. -/
theorem recovery_yields_all_events {journal : InMemoryEventJournal E}
    {snapshots : InMemorySnapshotStore S} {ops : List (EventSourcedOp S E)}
    {t : EventSourcedTask S E} (hoptions : spawn.recoveryOptions = .new)
    (hkeeps : spawn.actor.retentionCriteria.deleteEventsOnSnapshot = true →
      spawn.actor.retentionCriteria.keepSnapshots ≠ 0)
    (hblank : Blank spawn.actor journal snapshots)
    (hrun : runFrom (step spawn) (init journal snapshots) ops = some t)
    (hrange : t.runtime.appended.length < SequenceNr.max) :
    ∃ r, recover spawn.actor .new { t.runtime with recovered := none, faults := [] } = (.ok (), r) ∧
      r.recovered = some
        ⟨t.runtime.appended.foldl spawn.actor.applyEvent spawn.actor.emptyState,
          t.runtime.journal.highestSequenceNr spawn.actor.persistenceId⟩ ∧
      ∀ events now, ∃ records, (r.journal.append spawn.actor.persistenceId
        (t.runtime.journal.highestSequenceNr spawn.actor.persistenceId) events now).1 =
          .ok records := by
  have hkept := run_kept (c := False) hoptions hkeeps False.elim hblank hrun hrange
  let fresh : EventSourcedActorRuntime S E := { t.runtime with recovered := none, faults := [] }
  have hsound : Sound spawn.actor False fresh.view := Sound.forget hkept.sound
  have hsucceeds := (recover_succeeds spawn.actor .new fresh).post fresh trivial ⟨rfl, rfl, rfl⟩
  have hassures := (recover_assures spawn.actor).post fresh
  change ∃ r, recover spawn.actor .new fresh = _ ∧ _
  generalize recover spawn.actor .new fresh = out at hsucceeds hassures ⊢
  obtain ⟨answer | answer, r⟩ := out
  · exact hsucceeds.elim
  have hquiet : Quiet fresh r := hsucceeds
  have hin : r.InRange := by
    rw [InRange, hquiet.appended]
    exact hrange
  refine ⟨r, rfl, ?_, fun events now => ?_⟩
  · have hrecovered := DurableView.Sound.recovered_eq (hassures hin hsound)
    rw [show r.view.recovered = r.recovered from rfl, show r.view.appended = r.appended from rfl,
      show r.view.journal = r.journal from rfl, hquiet.appended, hquiet.journal] at hrecovered
    exact hrecovered
  · have hcases := r.journal.append_cases spawn.actor.persistenceId
      (t.runtime.journal.highestSequenceNr spawn.actor.persistenceId) events now
    generalize r.journal.append spawn.actor.persistenceId
      (t.runtime.journal.highestSequenceNr spawn.actor.persistenceId) events now = out at hcases
    cases hcases with
    | conflict journal hconflict => exact absurd (by rw [hquiet.journal]) hconflict
    | written journal records => exact ⟨records, rfl⟩

/-- Under every strategy but `resume`, an actor that handles a command has the state of all events
its journal took and the journal's highest sequence number. -/
theorem running_actor_is_current {journal : InMemoryEventJournal E}
    {snapshots : InMemorySnapshotStore S} {ops : List (EventSourcedOp S E)}
    {t : EventSourcedTask S E} (hresume : spawn.supervision ≠ .resume)
    (hoptions : spawn.recoveryOptions = .new)
    (hkeeps : spawn.actor.retentionCriteria.deleteEventsOnSnapshot = true →
      spawn.actor.retentionCriteria.keepSnapshots ≠ 0)
    (hblank : Blank spawn.actor journal snapshots)
    (hrun : runFrom (step spawn) (init journal snapshots) ops = some t)
    (hrange : t.runtime.appended.length < SequenceNr.max) (hrunning : t.phase = .running) :
    t.runtime.recovered = some
      ⟨t.runtime.appended.foldl spawn.actor.applyEvent spawn.actor.emptyState,
        t.runtime.journal.highestSequenceNr spawn.actor.persistenceId⟩ := by
  have hkept := run_kept (c := True) hoptions hkeeps (fun _ => hresume) hblank hrun hrange
  exact DurableView.Sound.recovered_eq (hkept.current trivial hrunning)

end

def summing (retention : RetentionCriteria) (supervision : SupervisionStrategy) :
    EventSourcedSpawn ℕ ℕ :=
  ⟨⟨⟨"account|1"⟩, 0, (· + ·), retention, .disabled⟩, .new, supervision, true⟩

lemma summing_blank (retention : RetentionCriteria) (supervision : SupervisionStrategy) :
    Blank (summing retention supervision).actor .new .new :=
  ⟨Std.ExtTreeMap.getElem?_empty, Std.ExtTreeMap.getElem?_empty⟩

structure RunView where
  phase : TaskPhase
  recovered : Option (RecoveredState ℕ)
  appended : List ℕ
  highest : ℕ
  found : Option (RecoveredState ℕ)
  refused : Bool
  deriving DecidableEq

def runView (spawn : EventSourcedSpawn ℕ ℕ) (t : EventSourcedTask ℕ ℕ) : RunView :=
  let r := (recover spawn.actor .new { t.runtime with recovered := none, faults := [] }).2
  let next := (r.recovered.map (·.sequenceNr)).getD 0
  ⟨t.phase, t.runtime.recovered, t.runtime.appended,
    t.runtime.journal.highestSequenceNr spawn.actor.persistenceId, r.recovered,
    match (r.journal.append spawn.actor.persistenceId next [.new 1] 0).1 with
    | .ok _ => false
    | .error _ => true⟩

/-- The retention with which no snapshot is kept and the events are deleted all the same. -/
def forgetful : RetentionCriteria := { RetentionCriteria.disabled with
  keepSnapshots := 0, deleteEventsOnSnapshot := true }

def deposit (amount : ℕ) : CommandHandler ℕ ℕ := fun _ _ => .ok (.persist amount)

def depositAndSnapshot (amount : ℕ) : CommandHandler ℕ ℕ :=
  fun _ _ => .ok (EventSourcedEffect.persist amount).thenSnapshot

/-- Nothing goes wrong, and yet recovery finds nothing and the next append is refused. -/
theorem forgetful_retention_loses_events :
    (runFrom (step (summing forgetful .stop)) (init .new .new)
        [.spawn 0 [], .handle (depositAndSnapshot 5) 0 []]).map (runView (summing forgetful .stop)) =
      some ⟨.running, some ⟨5, 1⟩, [5], 1, some ⟨0, 0⟩, true⟩ := by
  decide +kernel

/-- A crash between the deletion of a snapshot and that of the events. -/
theorem crash_while_pruning_is_recovered :
    ∃ t, runFrom (step (summing { forgetful with keepSnapshots := 1 } .stop)) (init .new .new)
        [.spawn 0 [], .handle (depositAndSnapshot 5) 0 [],
          .handle (depositAndSnapshot 7) 0 [.none, .none, .none, .none, .none, .none, .crashes]] =
        some t ∧ t.phase = .down ∧
      ∃ r, recover (summing { forgetful with keepSnapshots := 1 } .stop).actor .new
          { t.runtime with recovered := none, faults := [] } = (.ok (), r) ∧
        r.recovered = some ⟨12, 2⟩ := by
  have houtcome : (runFrom (step (summing { forgetful with keepSnapshots := 1 } .stop))
      (init .new .new) [.spawn 0 [], .handle (depositAndSnapshot 5) 0 [],
        .handle (depositAndSnapshot 7) 0 [.none, .none, .none, .none, .none, .none, .crashes]]).map
      (runView (summing { forgetful with keepSnapshots := 1 } .stop)) =
      some ⟨.down, none, [5, 7], 2, some ⟨12, 2⟩, false⟩ := by
    decide +kernel
  obtain ⟨t, hrun, hview⟩ := Option.map_eq_some_iff.mp houtcome
  have happended : t.runtime.appended = [5, 7] := congrArg RunView.appended hview
  have hhighest := congrArg RunView.highest hview
  obtain ⟨r, hrecover, hrecovered, -⟩ := recovery_yields_all_events rfl (fun _ => by decide)
    (summing_blank _ _) hrun (by rw [happended]; decide)
  refine ⟨t, hrun, congrArg RunView.phase hview, r, hrecover, ?_⟩
  rw [hrecovered, happended]
  exact congrArg (fun n => some (RecoveredState.mk 12 n)) hhighest

/-- Resumed after its signal handler failed, the actor answers the next command from the old state.
-/
theorem resumed_actor_is_behind_its_journal :
    (runFrom (step (summing .disabled .resume)) (init .new .new)
        [.spawn 0 [], .handle (deposit 5) 0 [.none, .fails (.codec "signal")]]).map
      (runView (summing .disabled .resume)) =
      some ⟨.running, some ⟨0, 0⟩, [5], 1, some ⟨5, 1⟩, false⟩ := by
  decide +kernel

theorem restarted_actor_is_current :
    ∃ t, runFrom (step (summing .disabled .restart)) (init .new .new)
        [.spawn 0 [], .handle (deposit 5) 0 [.none, .fails (.codec "signal")]] = some t ∧
      t.phase = .running ∧ t.runtime.recovered = some ⟨5, 1⟩ := by
  have houtcome : (runFrom (step (summing .disabled .restart)) (init .new .new)
      [.spawn 0 [], .handle (deposit 5) 0 [.none, .fails (.codec "signal")]]).map
      (runView (summing .disabled .restart)) =
      some ⟨.running, some ⟨5, 1⟩, [5], 1, some ⟨5, 1⟩, false⟩ := by
    decide +kernel
  obtain ⟨t, hrun, hview⟩ := Option.map_eq_some_iff.mp houtcome
  have happended : t.runtime.appended = [5] := congrArg RunView.appended hview
  have hphase : t.phase = .running := congrArg RunView.phase hview
  have hhighest := congrArg RunView.highest hview
  refine ⟨t, hrun, hphase, ?_⟩
  rw [running_actor_is_current (by decide) rfl (by decide) (summing_blank _ _) hrun
    (by rw [happended]; decide) hphase, happended]
  exact congrArg (fun n => some (RecoveredState.mk 5 n)) hhighest

end EventSourcedTask
end Rakka.Persistence
