import Rakka.Foundation.Contracts
import Rakka.Persistence.EventSourced

/-! What the stores of an event-sourced actor promise between any two calls: the journal has taken
as many events as its highest sequence number says, and the stores cover all of them. -/

namespace Rakka.Persistence
open Foundation Rakka.Core SequenceNr List

/-- What the promises speak about: the stores, the recovered state and the events ever taken. -/
structure DurableView (S E : Type) where
  journal : InMemoryEventJournal E
  snapshots : InMemorySnapshotStore S
  recovered : Option (RecoveredState S)
  appended : List E

def EventSourcedActorRuntime.view {S E : Type} (r : EventSourcedActorRuntime S E) :
    DurableView S E :=
  ⟨r.journal, r.snapshots, r.recovered, r.appended⟩

def EventSourcedActorRuntime.InRange {S E : Type} (r : EventSourcedActorRuntime S E) : Prop :=
  r.appended.length < max

namespace DurableView
variable {S E : Type} (actor : EventSourcedActor S E)
variable {c' : Prop}

def saved (v : DurableView S E) : List (ℕ × S) := v.snapshots.saved actor.persistenceId

def Deletes : Prop := actor.retentionCriteria.deleteEventsOnSnapshot = true

structure Durable (v : DurableView S E) : Prop where
  highest_eq : v.journal.highestSequenceNr actor.persistenceId = v.appended.length
  covers : EventLog.Covers actor.applyEvent actor.emptyState (Deletes actor) v.appended
    (v.journal.entries actor.persistenceId) (v.saved actor)

/-- The state is the one the events up to this number lead to; where `c` holds it is the last. -/
structure At (c : Prop) (v : DurableView S E) (state : S) (sequenceNr : ℕ) : Prop where
  le : sequenceNr ≤ v.appended.length
  state_eq : state =
    EventLog.stateAt actor.applyEvent actor.emptyState v.appended sequenceNr
  last : c → sequenceNr = v.appended.length

/-- The stores keep their promise and a recovered state is one the events led to; where `c` holds
there is one and it is the last. -/
structure Sound (c : Prop) (v : DurableView S E) : Prop where
  durable : Durable actor v
  recovered : ∀ recovered, v.recovered = some recovered →
    At actor c v recovered.state recovered.sequenceNr
  present : c → v.recovered.isSome

variable {actor} {c : Prop} {v w : DurableView S E} {state : S} {sequenceNr : ℕ}

lemma At.mono (h : At actor c v state sequenceNr) (hc : c' → c) : At actor c' v state sequenceNr :=
  ⟨h.le, h.state_eq, fun hc' => h.last (hc hc')⟩

lemma Sound.weaken (h : Sound actor c v) (hc : c' → c) : Sound actor c' v :=
  ⟨h.durable, fun recovered heq => (h.recovered recovered heq).mono hc,
    fun hc' => h.present (hc hc')⟩

lemma At.append (h : At actor c v state sequenceNr) {more : List E}
    (hmore : w.appended = v.appended ++ more) : At actor False w state sequenceNr := by
  refine ⟨?_, ?_, False.elim⟩
  · rw [hmore, length_append]
    exact Nat.le_add_right_of_le h.le
  · rw [hmore, EventLog.stateAt_append_of_le _ _ h.le]
    exact h.state_eq

lemma At.congr (h : At actor c v state sequenceNr) (happended : w.appended = v.appended) :
    At actor c w state sequenceNr := by
  obtain ⟨hle, hstate, hlast⟩ := h
  rw [← happended] at hle hstate hlast
  exact ⟨hle, hstate, hlast⟩

lemma At.eq_foldl (h : At actor True v state sequenceNr) :
    state = v.appended.foldl actor.applyEvent actor.emptyState ∧
      sequenceNr = v.appended.length := by
  have hlast := h.last trivial
  refine ⟨?_, hlast⟩
  rw [h.state_eq, hlast, EventLog.stateAt, take_length]

lemma Durable.saved_le (h : Durable actor v) (hrange : v.appended.length < max) :
    ∀ p ∈ v.saved actor, p.1 ≤ max :=
  fun p hp => (h.covers.sound p hp).1.trans hrange.le

lemma Sound.stores (h : Sound actor c v) (hdurable : Durable actor w)
    (hrecovered : w.recovered = v.recovered) (happended : w.appended = v.appended) :
    Sound actor c w := by
  refine ⟨hdurable, fun recovered heq => ?_, fun hc => ?_⟩
  · exact (h.recovered recovered (hrecovered.symm.trans heq)).congr happended
  · rw [hrecovered]
    exact h.present hc

lemma Sound.recovered_eq (h : Sound actor True v) :
    v.recovered = some ⟨v.appended.foldl actor.applyEvent actor.emptyState,
      v.journal.highestSequenceNr actor.persistenceId⟩ := by
  obtain ⟨recovered, hrecovered⟩ := Option.isSome_iff_exists.mp (h.present trivial)
  obtain ⟨hstate, hnumber⟩ := (h.recovered recovered hrecovered).eq_foldl
  rw [hrecovered, h.durable.highest_eq, ← hstate, ← hnumber]

end DurableView

namespace EventSourcedActorRuntime
variable {S E α : Type}
open DurableView

/-- A call meets its contract as long as the sequence numbers do not run out. -/
abbrev Assures (P : DurableView S E → Prop) (x : RuntimeCall S E α)
    (Q : α → DurableView S E → Prop) (X : DurableView S E → Prop) : Prop :=
  Attempt.Contract InRange (fun r => P r.view) x (fun a r => Q a r.view) (fun _ r => X r.view)

def Answered (Q : α → DurableView S E → Prop) (X : DurableView S E → Prop) :
    Except DurableError α → DurableView S E → Prop
  | .ok a, v => Q a v
  | .error _, v => X v

section
variable {P X : DurableView S E → Prop} {Q : α → DurableView S E → Prop}

lemma nextFault_view (r : EventSourcedActorRuntime S E) : r.nextFault.2.view = r.view := by
  unfold nextFault
  cases r.faults with
  | nil | cons => rfl

lemma inRange_iff_view (r : EventSourcedActorRuntime S E) :
    r.InRange ↔ r.view.appended.length < max := Iff.rfl

lemma assures_of_view {x : RuntimeCall S E α} (hview : ∀ r, (x r).2.view = r.view)
    (h : ∀ r, r.InRange → P r.view →
      Attempt.Outcome (fun a r => Q a r.view) (fun _ r => X r.view) (x r)) : Assures P x Q X :=
  .of_iff (fun r => by rw [inRange_iff_view, hview, ← inRange_iff_view]) h

lemma onSignal_view (signal : PersistenceSignal) (r : EventSourcedActorRuntime S E) :
    (onSignal signal r).2.view = r.view := by
  unfold onSignal
  generalize hnext : r.nextFault = next
  have hview := r.nextFault_view
  rw [hnext] at hview
  obtain ⟨fault, r'⟩ := next
  cases fault <;> exact hview

lemma assures_of_same {x : RuntimeCall S E Unit} (hview : ∀ r, (x r).2.view = r.view)
    (hX : ∀ v, P v → X v) : Assures P x (fun _ => P) X := by
  refine assures_of_view hview (fun r _ hP => ?_)
  have hsame := hview r
  generalize x r = out at hsame
  obtain ⟨answer, t⟩ := out
  rw [← hsame] at hP
  cases answer with
  | ok => exact hP
  | error => exact hX _ hP

lemma onSignal_assures (signal : PersistenceSignal) (hX : ∀ v, P v → X v) :
    Assures P (onSignal signal) (fun _ => P) X :=
  assures_of_same (onSignal_view signal) hX

lemma sideEffect_view (r : EventSourcedActorRuntime S E) : (sideEffect r).2.view = r.view := by
  unfold sideEffect
  generalize hnext : r.nextFault = next
  have hview := r.nextFault_view
  rw [hnext] at hview
  obtain ⟨fault, r'⟩ := next
  cases fault <;> exact hview

lemma runSideEffects_assures (n : ℕ) (hX : ∀ v, P v → X v) :
    Assures P (runSideEffects n) (fun _ => P) X := by
  induction n with
  | zero => exact .pure () (fun _ _ h => h)
  | succ n ih => exact .bind (assures_of_same sideEffect_view hX) (fun _ => ih)

lemma orFail_assures (answer : Except DurableError α) :
    Assures (Answered Q X answer) (orFail answer) Q X := by
  cases answer with
  | ok a => exact .pure a (fun _ _ h => h)
  | error => exact .fail _ (fun _ _ h => h)

theorem storeCall_assures
    {call : EventSourcedActorRuntime S E → Except DurableError α × EventSourcedActorRuntime S E}
    {I : DurableView S E → Prop} (hI : ∀ v, P v → I v) (hX : ∀ v, I v → X v)
    (hback : ∀ r, (call r).2.InRange → r.InRange) (hcall : ∀ r, (call r).2.InRange → P r.view →
      Answered Q I (call r).1 (call r).2.view ∧ I (call r).2.view) :
    Assures P (storeCall call) (Answered Q I) X := by
  have hnext (r : EventSourcedActorRuntime S E) : r.nextFault.2.InRange ↔ r.InRange := by
    rw [inRange_iff_view, nextFault_view, ← inRange_iff_view]
  refine ⟨fun r hr => (hnext r).mp ?_, fun r hr hP => ?_⟩
  · unfold storeCall at hr
    generalize r.nextFault = next at hr
    obtain ⟨fault, r'⟩ := next
    cases fault
    case none => exact hback r' hr
    case failsAfter => exact hback r' hr
    all_goals exact hr
  · unfold storeCall at hr ⊢
    rw [← nextFault_view] at hP
    generalize r.nextFault = next at hr hP
    obtain ⟨fault, r'⟩ := next
    cases fault
    case none => exact (hcall r' hr hP).1
    case fails error => exact hI _ hP
    case failsAfter error => exact (hcall r' hr hP).2
    case panics => exact hX _ (hI _ hP)
    case crashes => exact hX _ (hI _ hP)

lemma storeRead_assures {answer : EventSourcedActorRuntime S E → α} (hX : ∀ v, P v → X v)
    (hread : ∀ r, r.InRange → P r.view → Q (answer r) r.view) :
    Assures P (storeCall (fun r => (.ok (answer r), r)) >>= orFail) Q X :=
  .bind (storeCall_assures hX (fun _ h => h) (fun _ h => h)
    (fun r hr hP => ⟨hread r hr hP, hX _ hP⟩)) orFail_assures

lemma withBackoff_assures {write : RuntimeCall S E (Except DurableError α)}
    {failed : ℕ → String → String → PersistenceSignal} (hX : ∀ v, P v → X v)
    (hwrite : Assures P write (Answered Q P) X) (retries attempt : ℕ) :
    Assures P (withBackoff write failed retries attempt) Q X := by
  induction retries generalizing attempt with
  | zero =>
    unfold withBackoff
    refine .bind hwrite (fun answer => ?_)
    cases answer with
    | ok a => exact .pure a (fun _ _ h => h)
    | error => exact .bind (onSignal_assures _ hX) (fun _ => .fail _ (fun _ _ h => hX _ h))
  | succ retries ih =>
    unfold withBackoff
    refine .bind hwrite (fun answer => ?_)
    cases answer with
    | ok a => exact .pure a (fun _ _ h => h)
    | error => exact .bind (onSignal_assures _ hX) (fun _ => ih (attempt + 1))

end

section
variable {actor : EventSourcedActor S E} {c : Prop}
variable {v w : DurableView S E} {reached : S × ℕ} {keep : ℕ}

lemma applyRecords_eq (records : List (EventRecord E)) (state : S) (sequenceNr : ℕ) :
    applyRecords actor records state sequenceNr =
      (records.map EventRecord.entry).foldl (fun acc p => (actor.applyEvent acc.1 p.2, p.1))
        (state, sequenceNr) := by
  rw [foldl_map]
  rfl

lemma replayFromAfterSnapshot_new (sequenceNr : ℕ) :
    replayFromAfterSnapshot sequenceNr .new = sequenceNr + 1 := by
  unfold replayFromAfterSnapshot RecoveryOptions.new first
  dsimp only
  split_ifs with h
  · rfl
  · omega

lemma entry_replay_max (h : Durable actor v) (hrange : v.appended.length < max) (k : ℕ) :
    (v.journal.replay actor.persistenceId (k + 1) max).map EventRecord.entry =
      (v.journal.entries actor.persistenceId).filter (fun p => decide (k < p.1)) := by
  rw [InMemoryEventJournal.entry_replay]
  refine filter_congr (fun p hp => ?_)
  rw [decide_eq_true ((h.covers.number_le p hp).trans hrange.le), Bool.and_true]
  exact decide_eq_decide.mpr Nat.succ_le_iff

lemma applyRecords_replay (h : Durable actor v) (hrange : v.appended.length < max)
    {base : S × ℕ} (hbase : basis actor (v.snapshots.load actor.persistenceId .latest) = base) :
    base.2 + 1 ≤ max ∧ applyRecords actor
          (v.journal.replay actor.persistenceId (base.2 + 1) max) base.1 base.2 =
        (EventLog.stateAt actor.applyEvent actor.emptyState v.appended v.appended.length,
          v.appended.length) := by
  have hload := v.snapshots.point_load_latest actor.persistenceId (h.saved_le hrange)
  rw [applyRecords_eq, entry_replay_max h hrange, ← h.covers.recover_eq, EventLog.recover, saved, ← hload]
  cases hsnapshot : v.snapshots.load actor.persistenceId .latest with
  | none =>
    rw [hsnapshot] at hbase
    subst hbase
    exact ⟨Nat.succ_le_of_lt (Nat.zero_lt_of_lt hrange), rfl⟩
  | some =>
    rw [hsnapshot] at hbase hload
    subst hbase
    have hmem := mem_of_mem_head? hload.symm
    exact ⟨Nat.succ_le_of_lt ((h.covers.sound _ hmem).1.trans_lt hrange), rfl⟩

def Loaded (actor : EventSourcedActor S E) (snapshot : Option (SnapshotRecord S))
    (v : DurableView S E) : Prop :=
  Sound actor False v ∧ snapshot = v.snapshots.load actor.persistenceId .latest

def Holding (actor : EventSourcedActor S E) (c : Prop) (reached : S × ℕ) (v : DurableView S E) :
    Prop :=
  Sound actor False v ∧ At actor c v reached.1 reached.2

lemma replayAfter_assures (snapshot : Option (SnapshotRecord S)) :
    Assures (Loaded actor snapshot) (replayAfter actor .new (basis actor snapshot))
      (Holding actor True) (Sound actor False) := by
  have hreached (v : DurableView S E) (hrange : v.appended.length < max)
      (h : Loaded actor snapshot v) :=
    applyRecords_replay h.1.durable hrange (congrArg (basis actor) h.2.symm)
  unfold replayAfter
  rw [replayFromAfterSnapshot_new]
  dsimp only
  split_ifs with hle
  · let Read (replayed : List (EventRecord E)) (v : DurableView S E) : Prop :=
      Holding actor True (applyRecords actor replayed (basis actor snapshot).1
        (basis actor snapshot).2) v
    have hread : Assures (Loaded actor snapshot)
        (replay actor ((basis actor snapshot).2 + 1) max >>= orFail) Read
        (Sound actor False) := by
      refine storeRead_assures (fun _ h => h.1) (fun r hr h => ⟨h.1, ?_⟩)
      have hend := (hreached r.view hr h).2
      show At actor True r.view _ _
      rw [show r.journal = r.view.journal from rfl, hend]
      exact ⟨le_rfl, rfl, fun _ => rfl⟩
    exact .bind hread (fun replayed => .pure _ (fun _ _ h => h))
  · -- Below the greatest sequence number there is always something left to ask for.
    exact .pure _ (fun r hr h => absurd (hreached r.view hr h).1 hle)

lemma Holding.set_recovered {r : EventSourcedActorRuntime S E}
    (h : Holding actor c reached r.view) :
    Sound actor c (view { r with recovered := some ⟨reached.1, reached.2⟩ }) := by
  obtain ⟨hsound, hat⟩ := h
  refine ⟨⟨hsound.durable.1, hsound.durable.2⟩, fun recovered heq => ?_, fun _ => rfl⟩
  cases heq
  exact ⟨hat.le, hat.state_eq, hat.last⟩

lemma recover_assures (actor : EventSourcedActor S E) :
    Assures (Sound actor False) (recover actor .new) (fun _ => Sound actor True)
      (Sound actor False) := by
  have hload : Assures (Sound actor False) (load actor .latest >>= orFail) (Loaded actor)
      (Sound actor False) :=
    storeRead_assures (fun _ h => h) (fun _ _ h => ⟨h, rfl⟩)
  unfold recover
  refine .bind (onSignal_assures _ (fun _ h => h)) (fun _ => ?_)
  refine .bind hload (fun snapshot => ?_)
  refine .bind (replayAfter_assures snapshot) (fun reached => ?_)
  exact .bind (.modify (R := fun _ r => Sound actor True r.view) (fun _ => Iff.rfl)
    (fun _ _ h => h.set_recovered))
    (fun _ => onSignal_assures _ (fun _ h => h.weaken (fun h => h.elim)))

lemma Holding.weaken {c' : Prop} (h : Holding actor c reached v) (hc : c' → c) :
    Holding actor c' reached v :=
  ⟨h.1, h.2.mono hc⟩

lemma Holding.stores (h : Holding actor c reached v) (hdurable : Durable actor w)
    (hrecovered : w.recovered = v.recovered) (happended : w.appended = v.appended) :
    Holding actor c reached w :=
  ⟨h.1.stores hdurable hrecovered happended, h.2.congr happended⟩

lemma Holding.append {events : List E} {records : List (EventRecord E)}
    (h : Holding actor False reached v)
    (hexpected : v.journal.highestSequenceNr actor.persistenceId = reached.2)
    (hrecords : records.map EventRecord.entry = EventLog.numbered reached.2 events)
    (hentries : w.journal.entries actor.persistenceId =
      v.journal.entries actor.persistenceId ++ EventLog.numbered reached.2 events)
    (hhighest : w.journal.highestSequenceNr actor.persistenceId = reached.2 + events.length)
    (hsnapshots : w.snapshots = v.snapshots) (hrecovered : w.recovered = v.recovered)
    (happended : w.appended = v.appended ++ events) : Holding actor False reached w ∧
      Holding actor True (applyRecords actor records reached.1 reached.2) w ∧
      (applyRecords actor records reached.1 reached.2).2 = reached.2 + events.length := by
  obtain ⟨hsound, hat⟩ := h
  have hlast : reached.2 = v.appended.length := hexpected.symm.trans hsound.durable.highest_eq
  have hdurable : Durable actor w := by
    refine ⟨?_, ?_⟩
    · rw [hhighest, hlast, happended, length_append]
    · have hcovers := hsound.durable.covers.append events
      rw [← hlast] at hcovers
      rw [happended, hentries, DurableView.saved, hsnapshots]
      exact hcovers
  have hw : Sound actor False w := by
    refine ⟨hdurable, fun recovered heq => ?_, False.elim⟩
    exact (hsound.recovered recovered (hrecovered.symm.trans heq)).append happended
  rw [applyRecords_eq, hrecords, EventLog.foldl_numbered]
  refine ⟨⟨hw, hat.append happended⟩, ⟨hw, ?_, ?_, fun _ => ?_⟩, rfl⟩
  · rw [happended, length_append, hlast]
  · rw [hlast, happended, ← length_append, EventLog.stateAt_append_length, hat.state_eq, hlast]
  · rw [happended, length_append, hlast]

/-- So many events follow the state that was in hand, and the snapshots are as they were. -/
def Follows (actor : EventSourcedActor S E) (c : Prop) (F : InMemorySnapshotStore S → Prop)
    (start : ℕ) (events : List (TaggedEvent E)) (reached : S × ℕ) (v : DurableView S E) : Prop :=
  (Holding actor c reached v ∧ reached.2 = start + events.length) ∧ F v.snapshots

variable (reached)

lemma append_assures (events : List (TaggedEvent E)) (F : InMemorySnapshotStore S → Prop) :
    Assures (fun v => Holding actor False reached v ∧ F v.snapshots) (append actor reached.2 events)
      (Answered (fun records =>
          Follows actor True F reached.2 events (applyRecords actor records reached.1 reached.2))
        (fun v => Holding actor False reached v ∧ F v.snapshots)) (Sound actor False) := by
  refine storeCall_assures (fun _ h => h) (fun _ h => h.1.1) (fun r => ?_) (fun r _ hpre => ?_)
  · have hcases := r.journal.append_cases actor.persistenceId reached.2 events r.now
    generalize r.journal.append actor.persistenceId reached.2 events r.now = out at hcases
    cases hcases with
    | conflict => exact id
    | written =>
      intro hr
      rw [InRange, length_append] at hr
      exact lt_of_le_of_lt (Nat.le_add_right _ _) hr
  · obtain ⟨h, hF⟩ := hpre
    have hcases := r.journal.append_cases actor.persistenceId reached.2 events r.now
    generalize r.journal.append actor.persistenceId reached.2 events r.now = out at hcases
    cases hcases with
    | conflict journal hconflict hentries hhighest =>
      have hkept : Holding actor False reached (view { r with journal }) := by
        refine h.stores ⟨hhighest.trans h.1.durable.highest_eq, ?_⟩ rfl rfl
        have hcovers := h.1.durable.covers
        rw [show r.view.journal = r.journal from rfl, ← hentries] at hcovers
        exact hcovers
      exact ⟨⟨hkept, hF⟩, hkept, hF⟩
    | written journal records hexpected hrecords hentries hhighest =>
      have hwritten := h.append (w := view { r with
          journal, appended := r.appended ++ events.map TaggedEvent.event })
        hexpected hrecords hentries
        (by rw [length_map]; exact hhighest) rfl rfl rfl
      rw [length_map] at hwritten
      exact ⟨⟨hwritten.2, hF⟩, hwritten.1, hF⟩

lemma persistEvents_assures (events : List (TaggedEvent E)) (F : InMemorySnapshotStore S → Prop) :
    Assures (fun v => Holding actor c reached v ∧ F v.snapshots)
      (persistEvents actor events reached.1 reached.2) (Follows actor c F reached.2 events)
      (Sound actor False) := by
  unfold persistEvents
  split_ifs with hempty
  · rw [isEmpty_iff.mp hempty]
    exact .pure _ (fun _ _ h => ⟨⟨h.1, rfl⟩, h.2⟩)
  · refine .bind (.pre (withBackoff_assures (fun _ h => h.1.1) (append_assures reached events F) _ _)
      (fun _ _ h => ⟨h.1.weaken False.elim, h.2⟩)) (fun records => ?_)
    exact .bind (onSignal_assures _ (fun _ h => h.1.1.1))
      (fun _ => .pure _ (fun _ _ h => ⟨⟨h.1.1.weaken (fun _ => trivial), h.1.2⟩, h.2⟩))

def Saved (actor : EventSourcedActor S E) (c : Prop) (reached : S × ℕ) (v : DurableView S E) :
    Prop :=
  Holding actor c reached v ∧ v.saved actor ≠ []

def SavedState (actor : EventSourcedActor S E) (c : Prop) (reached : S × ℕ) (v : DurableView S E) :
    Prop :=
  Holding actor c reached v ∧ (reached.2, reached.1) ∈ v.saved actor

lemma save_assures : Assures (Holding actor c reached) (save actor reached.2 reached.1)
      (Answered (fun _ => SavedState actor c reached) (Holding actor c reached))
      (Sound actor False) := by
  refine storeCall_assures (fun _ h => h) (fun _ h => h.1) (fun _ h => h) (fun r _ h => ?_)
  have hmem := r.snapshots.mem_saved_save actor.persistenceId reached.2 reached.1 r.now
  have hsorted := r.snapshots.saved_save_newestFirst actor.persistenceId reached.2 reached.1 r.now
    h.1.durable.covers.newestFirst
  have hkept : Holding actor c reached
      (view { r with snapshots :=
        (r.snapshots.save actor.persistenceId reached.2 reached.1 r.now).2 }) := by
    refine h.stores ⟨h.1.durable.highest_eq, ?_⟩ rfl rfl
    exact h.1.durable.covers.save h.2.le (fun p => h.2.state_eq ▸ hmem p) hsorted
  exact ⟨⟨hkept, (hmem _).mpr (.inl rfl)⟩, hkept⟩

lemma saveSnapshotWithBackoff_assures :
    Assures (Holding actor c reached) (saveSnapshotWithBackoff actor reached.2 reached.1)
      (fun _ => SavedState actor c reached) (Sound actor False) :=
  .bind (withBackoff_assures (fun _ h => h.1) (save_assures reached) _ _)
    (fun _ => onSignal_assures _ (fun _ h => h.1.1))

/-- Where events are deleted, a snapshot newer than all of these is there to stay. -/
def Spared (actor : EventSourcedActor S E) (doomed : List SnapshotMetadata)
    (v : DurableView S E) : Prop :=
  Deletes actor → ∃ p ∈ v.saved actor, ∀ metadata ∈ doomed, metadata.sequenceNr < p.1

lemma deleteSnapshots_assures (doomed : List SnapshotMetadata) :
    Assures (fun v => Holding actor c reached v ∧ Spared actor doomed v)
      (deleteSnapshots actor doomed)
      (fun _ v => Holding actor c reached v ∧ Spared actor [] v) (Sound actor False) := by
  induction doomed with
  | nil => exact .pure _ (fun _ _ h => h)
  | cons metadata rest ih =>
    unfold deleteSnapshots
    let Rest (v : DurableView S E) : Prop := Holding actor c reached v ∧ Spared actor rest v
    have hdelete : Assures (fun v => Holding actor c reached v ∧ Spared actor (metadata :: rest) v)
        (delete actor (.between metadata.sequenceNr metadata.sequenceNr)) (Answered (fun _ => Rest)
          (Sound actor False)) (Sound actor False) := by
      refine storeCall_assures (fun _ h => h.1.1) (fun _ h => h) (fun _ h => h)
        (fun r _ h => ?_)
      obtain ⟨hholding, hspared⟩ := h
      have hsaved := r.snapshots.saved_delete actor.persistenceId metadata.sequenceNr
      have hnewer : Deletes actor → ∃ p ∈ r.view.saved actor, metadata.sequenceNr < p.1 := by
        intro hdeletes
        obtain ⟨p, hp, hlt⟩ := hspared hdeletes
        exact ⟨p, hp, hlt metadata mem_cons_self⟩
      have hkept : Holding actor c reached (view { r with snapshots :=
          (r.snapshots.delete actor.persistenceId
            (.between metadata.sequenceNr metadata.sequenceNr)).2 }) := by
        refine hholding.stores ⟨hholding.1.durable.highest_eq, ?_⟩ rfl rfl
        have hcovers := hholding.1.durable.covers.remove hnewer
        rw [show r.view.saved actor = r.snapshots.saved actor.persistenceId from rfl,
          ← hsaved] at hcovers
        exact hcovers
      refine ⟨⟨hkept, fun hdeletes => ?_⟩, hkept.1⟩
      obtain ⟨p, hp, hlt⟩ := hspared hdeletes
      refine ⟨p, ?_, fun other hother => hlt other (mem_cons_of_mem _ hother)⟩
      rw [DurableView.saved]
      refine hsaved ▸ mem_filter.mpr ⟨hp, ?_⟩
      exact decide_eq_true (hlt metadata mem_cons_self).ne'
    exact .bind (.bind hdelete orFail_assures) (fun _ => ih)

def Listed (actor : EventSourcedActor S E) (c : Prop) (reached : S × ℕ)
    (snapshots : List SnapshotMetadata) (v : DurableView S E) : Prop :=
  Saved actor c reached v ∧ snapshots.map (·.sequenceNr) = (v.saved actor).map Prod.fst

lemma list_assures :
    Assures (Saved actor c reached) (list actor .latest >>= orFail) (Listed actor c reached)
      (Sound actor False) :=
  storeRead_assures (fun _ h => h.1.1)
    (fun r hr h => ⟨h, r.snapshots.list_latest _ (h.1.1.durable.saved_le hr)⟩)

variable {reached}

lemma Listed.spared {snapshots : List SnapshotMetadata} (h : Listed actor c reached snapshots v)
    (hkeep : Deletes actor → keep ≠ 0) : Spared actor (snapshots.drop keep) v := by
  intro hdeletes
  obtain ⟨⟨hholding, hne⟩, hlist⟩ := h
  obtain ⟨newest, older, hsaved⟩ := exists_cons_of_ne_nil hne
  obtain ⟨k, rfl⟩ := Nat.exists_eq_succ_of_ne_zero (hkeep hdeletes)
  refine ⟨newest, hsaved ▸ mem_cons_self, fun metadata hmetadata => ?_⟩
  have hnewest := hholding.1.durable.covers.newestFirst
  rw [hsaved] at hnewest hlist
  -- What is dropped was listed behind the newest.
  have hmem : metadata.sequenceNr ∈ (older.map Prod.fst).drop k := by
    have hdrop := congrArg (List.drop (k + 1)) hlist
    rw [← map_drop, map_cons, drop_succ_cons] at hdrop
    rw [← hdrop]
    exact mem_map_of_mem hmetadata
  obtain ⟨p, hp, heq⟩ := mem_map.mp (mem_of_mem_drop hmem)
  rw [← heq]
  exact rel_of_pairwise_cons hnewest hp

variable (reached)

lemma pruneSnapshots_assures (hkeep : Deletes actor → keep ≠ 0) :
    Assures (Saved actor c reached) (pruneSnapshots actor keep)
      (fun _ v => Holding actor c reached v ∧ (Deletes actor → v.saved actor ≠ []))
      (Sound actor False) := by
  unfold pruneSnapshots
  split_ifs with hall
  · refine .weaken (.bind (list_assures reached) (fun snapshots => .pre
      (deleteSnapshots_assures reached (snapshots.drop keep))
      (fun _ _ h => ⟨h.1.1, h.spared hkeep⟩))) (fun _ r _ h => ⟨h.1, fun hdeletes => ?_⟩)
    obtain ⟨p, hp, -⟩ := h.2 hdeletes
    exact ne_nil_of_mem hp
  · exact .pure _ (fun _ _ h => ⟨h.1, fun _ => h.2⟩)

def Deletable (actor : EventSourcedActor S E) (c : Prop) (reached : S × ℕ) (upTo : ℕ)
    (v : DurableView S E) : Prop :=
  Holding actor c reached v ∧ ∃ p ∈ v.saved actor, p.1 = upTo

lemma deletionBound_assures (hkeep : keep ≠ 0) (latest : ℕ) :
    Assures (Saved actor c reached) (deletionBound actor keep latest) (Deletable actor c reached)
      (Sound actor False) := by
  unfold deletionBound
  rw [if_neg hkeep]
  refine .bind (list_assures reached) (fun retained => .pure _ (fun r _ h => ?_))
  obtain ⟨hsaved, hlist⟩ := h
  refine ⟨hsaved.1, ?_⟩
  cases hlast : retained.getLast? with
  | none =>
    rw [List.getLast?_eq_none_iff.mp hlast, map_nil, eq_comm, map_eq_nil_iff] at hlist
    exact absurd hlist hsaved.2
  | some metadata =>
    have hmem : metadata.sequenceNr ∈ (r.view.saved actor).map Prod.fst := by
      rw [← hlist]
      exact mem_map_of_mem (mem_of_getLast? hlast)
    exact mem_map.mp hmem

lemma deleteTo_assures (upTo : ℕ) (hdeletes : Deletes actor) :
    Assures (Deletable actor c reached upTo) (deleteTo actor upTo >>= orFail)
      (fun _ => Holding actor c reached) (Sound actor False) := by
  refine .bind (storeCall_assures (I := Sound actor False) (fun _ h => h.1.1) (fun _ h => h)
    (fun _ h => h) (fun r _ h => ?_)) orFail_assures
  obtain ⟨hholding, p, hp, rfl⟩ := h
  have hkept : Holding actor c reached
      (view { r with journal := r.journal.deleteTo actor.persistenceId p.1 }) := by
    refine hholding.stores ⟨?_, ?_⟩ rfl rfl
    · exact (r.journal.highestSequenceNr_deleteTo actor.persistenceId p.1).trans
        hholding.1.durable.highest_eq
    · have hcovers := hholding.1.durable.covers.deleteTo hdeletes hp
      rw [show r.view.journal = r.journal from rfl, ← InMemoryEventJournal.entries_deleteTo]
        at hcovers
      exact hcovers
  exact ⟨hkept, hkept.1⟩

variable {reached}

/-- The retention is safe: where events are deleted a snapshot is kept. -/
def KeepsSnapshot (actor : EventSourcedActor S E) : Prop :=
  actor.retentionCriteria.deleteEventsOnSnapshot = true → actor.retentionCriteria.keepSnapshots ≠ 0

lemma applyRetention_assures (hkeeps : KeepsSnapshot actor) (reached : S × ℕ) (latest : ℕ) :
    Assures (Saved actor c reached) (applyRetention actor latest)
      (fun _ => Holding actor c reached) (Sound actor False) := by
  unfold applyRetention
  refine .bind (pruneSnapshots_assures reached hkeeps) (fun _ => ?_)
  split_ifs with hdeletes
  · refine .bind (.pre (deletionBound_assures reached (hkeeps hdeletes) latest)
      (fun _ _ h => ⟨h.1, h.2 hdeletes⟩)) (fun upTo => deleteTo_assures reached upTo hdeletes)
  · exact .pure _ (fun _ _ h => h.1)

lemma snapshotIfDue_assures (hkeeps : KeepsSnapshot actor) (effect : EventSourcedEffect E)
    (reached : S × ℕ) :
    Assures (Holding actor c reached) (snapshotIfDue actor effect reached.1 reached.2)
      (fun _ => Holding actor c reached) (Sound actor False) := by
  unfold snapshotIfDue
  split_ifs
  · exact .bind (saveSnapshotWithBackoff_assures reached)
      (fun _ => .pre (applyRetention_assures hkeeps reached reached.2)
        (fun _ _ h => ⟨h.1, ne_nil_of_mem h.2⟩))
  · exact .pure _ (fun _ _ h => h)

lemma applyEffect_assures (hkeeps : KeepsSnapshot actor) (effect : EventSourcedEffect E) :
    Assures (Sound actor c) (applyEffect actor effect) (fun _ => Sound actor c)
      (Sound actor False) := by
  unfold applyEffect
  refine .get_bind (fun r => ?_)
  cases hrecovered : r.recovered with
  | none => exact .fail _ (fun _ _ h => h.2.weaken False.elim)
  | some recovered =>
    refine .pre (P := fun s => Holding actor c (recovered.state, recovered.sequenceNr) s.view ∧ True)
      ?_ (fun s _ h => ⟨⟨h.2.weaken False.elim, h.2.recovered recovered (h.1 ▸ hrecovered)⟩, trivial⟩)
    refine .bind (persistEvents_assures _ effect.events (fun _ => True)) (fun reached => ?_)
    refine .bind (.pre (snapshotIfDue_assures hkeeps effect reached) (fun _ _ h => h.1.1)) (fun _ => ?_)
    refine .bind (.modify (R := fun _ r => Sound actor c r.view) (fun _ => Iff.rfl)
      (fun _ _ h => h.set_recovered)) (fun _ => ?_)
    exact .bind (runSideEffects_assures _ (fun _ h => h.weaken False.elim))
      (fun _ => .pure _ (fun _ _ h => h))

lemma handle_assures (hkeeps : KeepsSnapshot actor) (handleCommand : CommandHandler S E) :
    Assures (Sound actor c) (handle actor handleCommand) (fun _ => Sound actor c)
      (Sound actor False) := by
  unfold handle
  refine .get_bind (fun r => ?_)
  cases r.recovered with
  | none => exact .fail _ (fun _ _ h => h.2.weaken False.elim)
  | some recovered =>
    cases hanswer : handleCommand recovered.state recovered.sequenceNr with
    | error =>
      dsimp only
      rw [hanswer]
      exact .fail _ (fun _ _ h => h.2.weaken False.elim)
    | ok effect =>
      dsimp only
      rw [hanswer]
      exact .pre (applyEffect_assures hkeeps effect) (fun _ _ h => h.2)

lemma started_assures (actor : EventSourcedActor S E) :
    Assures (Sound actor False) (started actor .new) (fun _ => Sound actor True)
      (Sound actor False) :=
  .bind (recover_assures actor) (fun _ => .pure _ (fun _ _ h => h))

end
end EventSourcedActorRuntime
end Rakka.Persistence
