import Rakka.Persistence.EventSupervision

/-! How far the journal of an event-sourced actor runs ahead of its newest snapshot. The retention
looks at the last sequence number of a batch only, so a batch that steps over a multiple without
ending on it takes no snapshot. -/

namespace Rakka.Persistence
open Foundation Rakka.Core

def RetentionCriteria.ofSnapshotEvery (eventCount : ℕ) : RetentionCriteria :=
  ⟨some eventCount, keepAll, false⟩

structure EffectCall (E : Type) where
  now : UInt64
  faults : List Fault
  effect : EventSourcedEffect E

def EffectCall.quiet (events : List ℕ) : EffectCall ℕ :=
  ⟨0, [], ⟨events.map .new, false, false, 0⟩⟩

namespace EventSourcedActorRuntime
open DurableView EventSourcedTask
variable {S E : Type} {actor : EventSourcedActor S E} {n : ℕ} {v : DurableView S E}

variable (actor)

def latestSnapshotNr (snapshots : InMemorySnapshotStore S) : ℕ :=
  ((snapshots.load actor.persistenceId .latest).map (·.metadata.sequenceNr)).getD
    SequenceNr.initial

def replayedEvents (r : EventSourcedActorRuntime S E) :
    List (EventRecord E) :=
  r.journal.replay actor.persistenceId (latestSnapshotNr actor r.snapshots + 1) SequenceNr.max

def effectStep (r : EventSourcedActorRuntime S E) (call : EffectCall E) :
    Option (EventSourcedActorRuntime S E) :=
  match applyEffect actor call.effect { r with now := call.now, faults := call.faults } with
  | (.ok _, r') => some r'
  | (.error _, _) => none

variable {actor}

/-- A batch of `count` events after `start` ends on a multiple of `n` if it meets one. -/
def Lands (n start count : ℕ) : Prop :=
  (start + count) / n = start / n ∨ (start + count) % n = 0

instance (n start count : ℕ) : Decidable (Lands n start count) := by
  unfold Lands
  infer_instance

/-- The newest snapshot is at or after the last multiple of `n` reached. -/
structure Spaced (actor : EventSourcedActor S E) (n : ℕ) (v : DurableView S E) : Prop where
  sound : Sound actor True v
  recent : n * (v.appended.length / n) ≤ latestSnapshotNr actor v.snapshots

lemma latestSnapshotNr_eq (h : Durable actor v) (hrange : v.appended.length < SequenceNr.max) :
    latestSnapshotNr actor v.snapshots = ((v.saved actor).head?.map Prod.fst).getD 0 := by
  rw [saved, ← v.snapshots.point_load_latest actor.persistenceId (h.saved_le hrange), Option.map_map]
  rfl

lemma le_latestSnapshotNr (h : Durable actor v) (hrange : v.appended.length < SequenceNr.max)
    {p : ℕ × S} (hp : p ∈ v.saved actor) : p.1 ≤ latestSnapshotNr actor v.snapshots := by
  rw [latestSnapshotNr_eq h hrange]
  cases hhead : (v.saved actor).head? with
  | none =>
    rw [List.head?_eq_none_iff.mp hhead] at hp
    cases hp
  | some => exact h.covers.head_le hhead p hp

lemma applyRetention_ofSnapshotEvery
    (hretention : actor.retentionCriteria = .ofSnapshotEvery n) (latest : ℕ) :
    applyRetention actor latest = pure () := by
  unfold applyRetention pruneSnapshots
  rw [hretention]
  rfl

/-- What is known when the snapshot is due: the start of the batch was spaced, and it lands. -/
def Batch (actor : EventSourcedActor S E) (n start count : ℕ) (snapshots : InMemorySnapshotStore S) :
    Prop :=
  Lands n start count ∧ n * (start / n) ≤ latestSnapshotNr actor snapshots

section
variable (hretention : actor.retentionCriteria = .ofSnapshotEvery n) (hn : 0 < n)
include hretention hn

lemma snapshotIfDue_spaced (effect : EventSourcedEffect E) (start : ℕ) (reached : S × ℕ) :
    Assures (Follows actor True (Batch actor n start effect.events.length) start effect.events reached)
      (snapshotIfDue actor effect reached.1 reached.2) (fun _ v => Holding actor True reached v ∧
        n * (reached.2 / n) ≤ latestSnapshotNr actor v.snapshots) (Sound actor False) := by
  unfold snapshotIfDue
  split_ifs with hdue
  · refine .bind (.pre (saveSnapshotWithBackoff_assures reached) (fun _ _ h => h.1.1)) (fun _ => ?_)
    rw [applyRetention_ofSnapshotEvery hretention]
    refine .pure _ (fun r hr h => ⟨h.1, ?_⟩)
    exact (Nat.mul_div_le _ _).trans (le_latestSnapshotNr h.1.1.durable hr h.2)
  · refine .pure _ (fun r _ h => ⟨h.1.1, ?_⟩)
    obtain ⟨⟨-, hreached⟩, hlands, hrecent⟩ := h
    suffices hsame : reached.2 / n = start / n by rwa [hsame]
    rw [hreached]
    rcases hlands with hsame | hmultiple
    · exact hsame
    · -- A batch that ends on a multiple is followed by a snapshot, unless it is empty.
      simp only [hretention, RetentionCriteria.shouldSnapshot, RetentionCriteria.ofSnapshotEvery,
        hreached, hmultiple, hn] at hdue
      cases hevents : effect.events with
      | nil => rfl
      | cons => simp [hevents] at hdue

lemma applyEffect_spaced (effect : EventSourcedEffect E) :
    Assures (fun v => Lands n v.appended.length effect.events.length ∧ Spaced actor n v)
      (applyEffect actor effect) (fun _ => Spaced actor n) (Sound actor False) := by
  unfold applyEffect
  refine .get_bind (fun r => ?_)
  cases hrecovered : r.recovered with
  | none => exact .fail _ (fun _ _ h => h.2.2.sound.weaken False.elim)
  | some recovered =>
    refine .pre (P := fun s => Holding actor True (recovered.state, recovered.sequenceNr) s.view ∧
      Batch actor n recovered.sequenceNr effect.events.length s.view.snapshots) ?_ (fun s _ h => ?_)
    · refine .bind (persistEvents_assures _ effect.events _) (fun reached => ?_)
      refine .bind (snapshotIfDue_spaced hretention hn effect _ reached) (fun _ => ?_)
      refine .bind (.modify (R := fun _ r => Spaced actor n r.view) (fun _ => Iff.rfl)
        (fun r _ h => ⟨h.1.set_recovered, ?_⟩)) (fun _ => ?_)
      · have hlast : reached.2 = r.appended.length := h.1.2.last trivial
        have hrecent := h.2
        rw [hlast] at hrecent
        exact hrecent
      · exact .bind (runSideEffects_assures _ (fun _ h => h.sound.weaken False.elim))
          (fun _ => .pure _ (fun _ _ h => h))
    · obtain ⟨rfl, hlands, hspaced⟩ := h
      have hat := hspaced.sound.recovered recovered hrecovered
      rw [← hat.last trivial] at hlands
      refine ⟨⟨hspaced.sound.weaken False.elim, hat⟩, hlands, ?_⟩
      rw [hat.last trivial]
      exact hspaced.recent

lemma effectStep_spaced {r r' : EventSourcedActorRuntime S E} {call : EffectCall E}
    (hstep : effectStep actor r call = some r') (hrange : r'.InRange) :
    r.InRange ∧ (Lands n r.appended.length call.effect.events.length → Spaced actor n r.view →
      Spaced actor n r'.view) := by
  have hcontract := applyEffect_spaced hretention hn call.effect
  have hback := hcontract.back { r with now := call.now, faults := call.faults }
  have hpost := hcontract.post { r with now := call.now, faults := call.faults }
  unfold effectStep at hstep
  generalize applyEffect actor call.effect { r with now := call.now, faults := call.faults } = out
    at hstep hback hpost
  obtain ⟨answer, t⟩ := out
  cases answer with
  | error => cases hstep
  | ok =>
    cases hstep
    exact ⟨hback hrange, fun hlands hspaced => hpost hrange ⟨hlands, hspaced⟩⟩

lemma run_spaced {calls : List (EffectCall E)} {r r' : EventSourcedActorRuntime S E}
    (hrun : runFrom (effectStep actor) r calls = some r') (hrange : r'.InRange)
    (hlands : StepsMeet (effectStep actor)
      (fun r call => Lands n r.appended.length call.effect.events.length) r calls) :
    r.InRange ∧ (Spaced actor n r.view → Spaced actor n r'.view) := by
  induction calls generalizing r with
  | nil =>
    cases hrun
    exact ⟨hrange, id⟩
  | cons call calls ih =>
    obtain ⟨next, hstep, hrest⟩ := Option.bind_eq_some_iff.mp hrun
    obtain ⟨hnext, hspaced⟩ := ih hrest (hlands.2 next hstep)
    obtain ⟨hr, hfirst⟩ := effectStep_spaced hretention hn hstep hnext
    exact ⟨hr, fun h => hspaced (hfirst hlands.1 h)⟩

end

lemma Spaced.length_replayedEvents {r : EventSourcedActorRuntime S E} (h : Spaced actor n r.view)
    (hretention : actor.retentionCriteria = .ofSnapshotEvery n) (hrange : r.InRange) :
    (replayedEvents actor r).length = r.appended.length - latestSnapshotNr actor r.snapshots := by
  obtain ⟨d, -, hkept, rfl | ⟨hdeletes, -⟩⟩ := h.sound.durable.covers.tail
  · have hreplay := congrArg List.length
      (entry_replay_max h.sound.durable hrange (latestSnapshotNr actor r.snapshots))
    rw [hkept, EventLog.filter_numbered_drop _ (Nat.zero_le _), List.length_map,
      EventLog.length_numbered, List.length_drop] at hreplay
    exact hreplay
  · rw [Deletes, hretention] at hdeletes
    cases hdeletes

lemma started_spaced (actor : EventSourcedActor S E) (n : ℕ) :
    Spaced actor n (started actor .new (.new .new .new)).2.view := by
  have hview : (started actor .new (.new .new .new)).2.view =
      ⟨.new, .new, some ⟨actor.emptyState, 0⟩, []⟩ := rfl
  rw [hview]
  refine ⟨⟨⟨rfl, EventLog.covers_nil⟩, fun recovered hrecovered => ?_, fun _ => rfl⟩, ?_⟩
  · cases hrecovered
    exact ⟨le_rfl, rfl, fun _ => rfl⟩
  · rw [List.length_nil, Nat.zero_div, Nat.mul_zero]
    exact Nat.zero_le _

/-- As long as every batch that meets a multiple of `n` ends on one, a recovery never has `n` events
to replay. -/
theorem replay_stays_short (actor : EventSourcedActor S E) (n : ℕ) (hn : 0 < n)
    (hretention : actor.retentionCriteria = .ofSnapshotEvery n) (calls : List (EffectCall E))
    (r : EventSourcedActorRuntime S E)
    (hrun : runFrom (effectStep actor) (started actor .new (.new .new .new)).2 calls = some r)
    (hrange : r.InRange) (hlands : StepsMeet (effectStep actor)
      (fun r call => Lands n r.appended.length call.effect.events.length)
      (started actor .new (.new .new .new)).2 calls) :
    r.appended.length - latestSnapshotNr actor r.snapshots < n ∧
      (replayedEvents actor r).length < n := by
  have hspaced := (run_spaced hretention hn hrun hrange hlands).2 (started_spaced actor n)
  have hshort : r.appended.length - latestSnapshotNr actor r.snapshots < n := by
    have hrecent : n * (r.appended.length / n) ≤ latestSnapshotNr actor r.snapshots := hspaced.recent
    have hsplit := Nat.div_add_mod r.appended.length n
    have hlt := Nat.mod_lt r.appended.length hn
    omega
  exact ⟨hshort, by rwa [hspaced.length_replayedEvents hretention hrange]⟩

/-- With a snapshot every two events, a batch of one and then one of two leave three events and no
snapshot. -/
theorem batch_steps_over_snapshot :
    let actor := (summing (.ofSnapshotEvery 2) .stop).actor
    (runFrom (effectStep actor) (started actor .new (.new .new .new)).2
      [.quiet [5], .quiet [6, 7]]).map (fun r => (r.appended.length,
        (r.snapshots.load actor.persistenceId .latest).isSome, (replayedEvents actor r).length)) =
      some (3, false, 3) := by
  decide +kernel

/-- Batches of one and of three events: the snapshot of the second leaves nothing to replay. -/
theorem landing_batches_stay_short :
    let actor := (summing (.ofSnapshotEvery 2) .stop).actor
    ∃ r, runFrom (effectStep actor) (started actor .new (.new .new .new)).2
      [.quiet [5], .quiet [6, 7, 8]] = some r ∧ (replayedEvents actor r).length < 2 := by
  intro actor
  have hruns : (runFrom (effectStep actor) (started actor .new (.new .new .new)).2
      [.quiet [5], .quiet [6, 7, 8]]).map (·.appended.length) = some 4 := by decide +kernel
  obtain ⟨r, hrun, hlength⟩ := Option.map_eq_some_iff.mp hruns
  refine ⟨r, hrun, (replay_stays_short actor 2 (by decide) rfl _ r hrun ?_ ?_).2⟩
  · rw [InRange, hlength]
    decide
  · decide +kernel

end EventSourcedActorRuntime
end Rakka.Persistence
