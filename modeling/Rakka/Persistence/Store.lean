import Rakka.Foundation.OrderedMap
import Rakka.Foundation.Runs
import Rakka.Foundation.Scalars
import Rakka.Foundation.EventLog

/-! Event journals and snapshot stores. Sequence numbers are natural numbers; their greatest value
matters where a selection or a replay is bounded by it. -/

namespace Rakka.Persistence
open Foundation List BTreeMap

structure PersistenceId where
  value : String
  deriving DecidableEq, Repr

lemma PersistenceId.value_injective : Function.Injective PersistenceId.value :=
  fun ⟨_⟩ ⟨_⟩ h => congrArg PersistenceId.mk h

instance : LinearOrder PersistenceId :=
  LinearOrder.lift' PersistenceId.value PersistenceId.value_injective

instance : Std.TransOrd PersistenceId := inferInstance

inductive DurableError where
  | revisionConflict (persistenceId : PersistenceId) (expected actual : ℕ)
  | sequenceConflict (persistenceId : PersistenceId) (expected actual : ℕ)
  | invalidPersistenceId (message : String)
  | store (backend message : String)
  | codec (message : String)
  | notRecovered (persistenceId : PersistenceId)
  deriving DecidableEq, Repr

namespace DurableError

def code : DurableError → String
  | revisionConflict .. => "revision-conflict"
  | sequenceConflict .. => "sequence-conflict"
  | invalidPersistenceId .. => "invalid-persistence-id"
  | store .. => "store-error"
  | codec .. => "codec-error"
  | notRecovered .. => "not-recovered"

def message : DurableError → String
  | revisionConflict persistenceId expected actual =>
    "revision conflict for " ++ persistenceId.value ++ ": expected " ++ toString expected ++
      ", actual " ++ toString actual
  | sequenceConflict persistenceId expected actual =>
    "sequence conflict for " ++ persistenceId.value ++ ": expected " ++ toString expected ++
      ", actual " ++ toString actual
  | invalidPersistenceId message => "invalid persistence id: " ++ message
  | store backend message => backend ++ " store error: " ++ message
  | codec message => "state codec error: " ++ message
  | notRecovered persistenceId =>
    "durable actor " ++ persistenceId.value ++ " has not recovered"

end DurableError

def SequenceNr.initial : ℕ := 0

def SequenceNr.first : ℕ := 1

def SequenceNr.max : ℕ := u64Max

structure TaggedEvent (E : Type) where
  event : E
  tags : List String
  deriving DecidableEq, Repr

def TaggedEvent.new {E : Type} (event : E) : TaggedEvent E := ⟨event, []⟩

structure EventMetadata where
  persistenceId : PersistenceId
  sequenceNr : ℕ
  timestampMillis : UInt64
  tags : List String
  deriving DecidableEq, Repr

structure EventRecord (E : Type) where
  event : E
  metadata : EventMetadata
  deriving DecidableEq, Repr

structure SnapshotMetadata where
  persistenceId : PersistenceId
  sequenceNr : ℕ
  timestampMillis : UInt64
  deriving DecidableEq, Repr

structure SnapshotRecord (S : Type) where
  snapshot : S
  metadata : SnapshotMetadata
  deriving DecidableEq, Repr

structure SnapshotSelection where
  minSequenceNr : ℕ
  maxSequenceNr : ℕ
  minTimestampMillis : UInt64
  maxTimestampMillis : UInt64
  deriving DecidableEq, Repr

namespace SnapshotSelection

def between (minSequenceNr maxSequenceNr : ℕ) : SnapshotSelection :=
  ⟨minSequenceNr, maxSequenceNr, 0, .ofNat u64Max⟩

def latest : SnapshotSelection := between SequenceNr.initial SequenceNr.max

-- `matches` is a keyword.
def accepts (selection : SnapshotSelection) (metadata : SnapshotMetadata) : Bool :=
  selection.minSequenceNr ≤ metadata.sequenceNr && metadata.sequenceNr ≤ selection.maxSequenceNr &&
    selection.minTimestampMillis ≤ metadata.timestampMillis &&
    metadata.timestampMillis ≤ selection.maxTimestampMillis

lemma between_accepts (low high : ℕ) (metadata : SnapshotMetadata) :
    (between low high).accepts metadata =
      decide (low ≤ metadata.sequenceNr ∧ metadata.sequenceNr ≤ high) := by
  have hmin : (0 : UInt64) ≤ metadata.timestampMillis := UInt64.zero_le
  have hmax : metadata.timestampMillis ≤ UInt64.ofNat u64Max := by
    rw [UInt64.le_iff_toNat_le]
    exact Nat.le_of_lt_succ metadata.timestampMillis.toNat_lt
  unfold accepts between
  rw [Bool.eq_iff_iff]
  simp [hmin, hmax]

lemma latest_accepts {metadata : SnapshotMetadata} (h : metadata.sequenceNr ≤ SequenceNr.max) :
    latest.accepts metadata = true := by
  rw [latest, between_accepts]
  exact decide_eq_true ⟨Nat.zero_le _, h⟩

end SnapshotSelection

structure RecoveryOptions where
  snapshotSelection : SnapshotSelection
  replayFrom : ℕ
  replayTo : ℕ
  deriving DecidableEq, Repr

def RecoveryOptions.new : RecoveryOptions :=
  ⟨.latest, SequenceNr.first, SequenceNr.max⟩

structure RetentionCriteria where
  snapshotEvery : Option ℕ
  keepSnapshots : ℕ
  deleteEventsOnSnapshot : Bool
  deriving DecidableEq, Repr

namespace RetentionCriteria

def keepAll : ℕ := u64Max

def disabled : RetentionCriteria := ⟨none, keepAll, false⟩

def shouldSnapshot (retention : RetentionCriteria) (sequenceNr : ℕ) : Bool :=
  match retention.snapshotEvery with
  | some every => 0 < every && (0 < sequenceNr && sequenceNr % every = 0)
  | none => false

end RetentionCriteria

structure PersistFailureBackoff where
  maxRetries : ℕ
  deriving DecidableEq, Repr

def PersistFailureBackoff.disabled : PersistFailureBackoff := ⟨0⟩

structure JournalState (E : Type) where
  highestSequenceNr : ℕ
  events : List (EventRecord E)

def JournalState.empty {E : Type} : JournalState E := ⟨SequenceNr.initial, []⟩

def JournalState.push {E : Type} (persistenceId : PersistenceId) (now : UInt64)
    (acc : JournalState E × List (EventRecord E)) (tagged : TaggedEvent E) :
    JournalState E × List (EventRecord E) :=
  let highestSequenceNr := acc.1.highestSequenceNr + 1
  let record : EventRecord E :=
    ⟨tagged.event, ⟨persistenceId, highestSequenceNr, now, tagged.tags⟩⟩
  (⟨highestSequenceNr, acc.1.events ++ [record]⟩, acc.2 ++ [record])

def EventRecord.entry {E : Type} (record : EventRecord E) : ℕ × E :=
  (record.metadata.sequenceNr, record.event)

lemma JournalState.foldl_push {E : Type} (persistenceId : PersistenceId) (now : UInt64)
    (events : List (TaggedEvent E)) (state : JournalState E) (before : List (EventRecord E)) :
    ∃ appended : List (EventRecord E), appended.map EventRecord.entry =
        EventLog.numbered state.highestSequenceNr (events.map TaggedEvent.event) ∧
      (∀ record ∈ appended, record.metadata.persistenceId = persistenceId) ∧
      events.foldl (push persistenceId now) (state, before) =
        (⟨state.highestSequenceNr + events.length, state.events ++ appended⟩,
          before ++ appended) := by
  induction events generalizing state before with
  | nil => exact ⟨[], rfl, by simp⟩
  | cons tagged events ih =>
    obtain ⟨appended, hnumbered, hid, hfold⟩ := ih (push persistenceId now (state, before) tagged).1
      (push persistenceId now (state, before) tagged).2
    refine ⟨⟨tagged.event, ⟨persistenceId, state.highestSequenceNr + 1, now, tagged.tags⟩⟩ ::
      appended, ?_, forall_mem_cons.mpr ⟨rfl, hid⟩, ?_⟩
    · rw [map_cons, hnumbered]
      rfl
    · rw [foldl_cons, Prod.eta] at *
      rw [hfold]
      simp [push, Nat.add_assoc, Nat.add_comm 1]

structure InMemoryEventJournal (E : Type) where
  records : BTreeMap PersistenceId (JournalState E)

namespace InMemoryEventJournal
variable {E : Type}
variable (journal : InMemoryEventJournal E) (persistenceId : PersistenceId)

def new : InMemoryEventJournal E := ⟨∅⟩

def append (expectedSequenceNr : ℕ) (events : List (TaggedEvent E)) (now : UInt64) :
    Except DurableError (List (EventRecord E)) × InMemoryEventJournal E :=
  let state := (journal.records[persistenceId]?).getD .empty
  if state.highestSequenceNr ≠ expectedSequenceNr then
    (.error (.sequenceConflict persistenceId expectedSequenceNr state.highestSequenceNr),
      ⟨journal.records.insert persistenceId state⟩)
  else
    let out := events.foldl (JournalState.push persistenceId now) (state, [])
    (.ok out.2, ⟨journal.records.insert persistenceId out.1⟩)

def replay (start upTo : ℕ) : List (EventRecord E) :=
  match journal.records[persistenceId]? with
  | some state =>
    state.events.filter
      (fun record => start ≤ record.metadata.sequenceNr && record.metadata.sequenceNr ≤ upTo)
  | none => []

def deleteTo (upTo : ℕ) : InMemoryEventJournal E :=
  match journal.records[persistenceId]? with
  | some state =>
    ⟨journal.records.insert persistenceId
      { state with events := state.events.filter (fun record => upTo < record.metadata.sequenceNr) }⟩
  | none => journal

def highestSequenceNr : ℕ :=
  match journal.records[persistenceId]? with
  | some state => state.highestSequenceNr
  | none => SequenceNr.initial

def entries : List (ℕ × E) :=
  ((journal.records[persistenceId]?).getD .empty).events.map
    EventRecord.entry

lemma highestSequenceNr_eq : journal.highestSequenceNr persistenceId =
      ((journal.records[persistenceId]?).getD .empty).highestSequenceNr := by
  unfold highestSequenceNr
  cases journal.records[persistenceId]? with
  | none | some => rfl

/-- What an append does to the events and the highest sequence number of its identity. -/
inductive Appended (journal : InMemoryEventJournal E) (persistenceId : PersistenceId)
    (expectedSequenceNr : ℕ) (events : List (TaggedEvent E)) :
    Except DurableError (List (EventRecord E)) × InMemoryEventJournal E → Prop
  | conflict (journal' : InMemoryEventJournal E)
      (hconflict : journal.highestSequenceNr persistenceId ≠ expectedSequenceNr)
      (hentries : journal'.entries persistenceId = journal.entries persistenceId)
      (hhighest : journal'.highestSequenceNr persistenceId =
        journal.highestSequenceNr persistenceId) :
      Appended journal persistenceId expectedSequenceNr events
        (.error (.sequenceConflict persistenceId expectedSequenceNr
          (journal.highestSequenceNr persistenceId)), journal')
  | written (journal' : InMemoryEventJournal E) (appended : List (EventRecord E))
      (hexpected : journal.highestSequenceNr persistenceId = expectedSequenceNr)
      (happended : appended.map EventRecord.entry =
        EventLog.numbered expectedSequenceNr (events.map TaggedEvent.event))
      (hentries : journal'.entries persistenceId = journal.entries persistenceId ++
          EventLog.numbered expectedSequenceNr (events.map TaggedEvent.event))
      (hhighest : journal'.highestSequenceNr persistenceId = expectedSequenceNr + events.length) :
      Appended journal persistenceId expectedSequenceNr events (.ok appended, journal')

lemma append_cases (expectedSequenceNr : ℕ) (events : List (TaggedEvent E)) (now : UInt64) :
    Appended journal persistenceId expectedSequenceNr events
      (journal.append persistenceId expectedSequenceNr events now) := by
  have hhighest := journal.highestSequenceNr_eq persistenceId
  unfold append
  dsimp only
  split_ifs with hconflict
  · rw [← hhighest] at hconflict ⊢
    refine .conflict _ hconflict ?_ ?_
    · rw [entries, entries, lookup_insert, if_pos rfl, Option.getD_some]
    · rw [highestSequenceNr_eq, lookup_insert, if_pos rfl, Option.getD_some, hhighest]
  · rw [not_not, ← hhighest] at hconflict
    obtain ⟨appended, happended, -, hfold⟩ := JournalState.foldl_push persistenceId now events
      ((journal.records[persistenceId]?).getD .empty) []
    rw [hfold]
    rw [← hhighest, hconflict] at happended
    refine .written _ _ hconflict happended ?_ ?_
    · rw [entries, lookup_insert, if_pos rfl, Option.getD_some, map_append, happended]
      rfl
    · rw [highestSequenceNr_eq, lookup_insert, if_pos rfl, Option.getD_some, ← hhighest, hconflict]

lemma entries_deleteTo (upTo : ℕ) : (journal.deleteTo persistenceId upTo).entries persistenceId =
      (journal.entries persistenceId).filter (fun p => decide (upTo < p.1)) := by
  unfold deleteTo entries
  cases hlookup : journal.records[persistenceId]? with
  | none =>
    dsimp only
    rw [hlookup]
    rfl
  | some =>
    dsimp only
    rw [lookup_insert, if_pos rfl, Option.getD_some, Option.getD_some, filter_map]
    rfl

lemma highestSequenceNr_deleteTo (upTo : ℕ) :
    (journal.deleteTo persistenceId upTo).highestSequenceNr persistenceId =
      journal.highestSequenceNr persistenceId := by
  rw [highestSequenceNr_eq, highestSequenceNr_eq]
  unfold deleteTo
  cases hlookup : journal.records[persistenceId]? with
  | none =>
    dsimp only
    rw [hlookup]
  | some =>
    dsimp only
    rw [lookup_insert, if_pos rfl]
    rfl

lemma entry_replay (start upTo : ℕ) :
    (journal.replay persistenceId start upTo).map EventRecord.entry =
      (journal.entries persistenceId).filter
        (fun p => decide (start ≤ p.1) && decide (p.1 ≤ upTo)) := by
  unfold replay entries
  cases journal.records[persistenceId]? with
  | none => rfl
  | some =>
    dsimp only
    rw [Option.getD_some, filter_map]
    rfl

def persistenceIds : List PersistenceId := journal.records.toList.map Prod.fst

def stored : List (EventRecord E) := ((journal.records[persistenceId]?).getD .empty).events

end InMemoryEventJournal

inductive JournalCall (E : Type) where
  | append (persistenceId : PersistenceId) (expectedSequenceNr : ℕ) (events : List (TaggedEvent E))
      (now : UInt64)
  | deleteTo (persistenceId : PersistenceId) (upTo : ℕ)

/-- The journal and every record it has ever answered an append with. -/
structure JournalRun (E : Type) where
  journal : InMemoryEventJournal E
  assigned : List (EventRecord E)

namespace JournalRun
variable {E : Type} {run : JournalRun E}

def start : JournalRun E := ⟨.new, []⟩

def call (run : JournalRun E) : JournalCall E → JournalRun E
  | .append persistenceId expectedSequenceNr events now =>
    match run.journal.append persistenceId expectedSequenceNr events now with
    | (.ok records, journal) => ⟨journal, run.assigned ++ records⟩
    | (.error _, journal) => { run with journal }
  | .deleteTo persistenceId upTo => { run with journal := run.journal.deleteTo persistenceId upTo }

def assignedTo (run : JournalRun E) (persistenceId : PersistenceId) : List (EventRecord E) :=
  run.assigned.filter (fun record => record.metadata.persistenceId = persistenceId)

/-- The assigned numbers run up to the highest one, and what is stored is the end of what was
assigned. -/
def Contiguous (run : JournalRun E) : Prop := ∀ persistenceId,
  (run.assignedTo persistenceId).map (·.metadata.sequenceNr) =
      List.range' 1 (run.journal.highestSequenceNr persistenceId) ∧
    run.journal.stored persistenceId <:+ run.assignedTo persistenceId

lemma filter_suffix_of_increasing (upTo : ℕ) {records : List (EventRecord E)}
    (h : records.Pairwise (fun a b => a.metadata.sequenceNr < b.metadata.sequenceNr)) :
    records.filter (fun record => upTo < record.metadata.sequenceNr) <:+ records := by
  induction records with
  | nil => exact suffix_refl _
  | cons record records ih =>
    obtain ⟨hfirst, hrest⟩ := pairwise_cons.mp h
    by_cases hlt : upTo < record.metadata.sequenceNr
    · rw [filter_eq_self.mpr]
      simp only [decide_eq_true_eq]
      exact forall_mem_cons.mpr ⟨hlt, fun other hother => hlt.trans (hfirst other hother)⟩
    · rw [filter_cons_of_neg (by simpa using hlt)]
      exact (ih hrest).trans (suffix_cons record records)

lemma Contiguous.stored_increasing (h : run.Contiguous) (persistenceId : PersistenceId) :
    (run.journal.stored persistenceId).Pairwise
      (fun a b => a.metadata.sequenceNr < b.metadata.sequenceNr) := by
  obtain ⟨hnumbers, hsuffix⟩ := h persistenceId
  refine List.Pairwise.sublist hsuffix.sublist (pairwise_map.mp ?_)
  rw [hnumbers]
  exact pairwise_lt_range'

lemma numbers_of_entries {start : ℕ} {records : List (EventRecord E)} {log : List E}
    (h : records.map EventRecord.entry = EventLog.numbered start log) :
    records.map (·.metadata.sequenceNr) = List.range' (start + 1) log.length := by
  have hnumbers := congrArg (List.map Prod.fst) h
  rw [map_map] at hnumbers
  rw [show (fun record : EventRecord E => record.metadata.sequenceNr) =
    Prod.fst ∘ EventRecord.entry from rfl, hnumbers]
  clear h hnumbers
  induction log generalizing start with
  | nil => rfl
  | cons event log ih => rw [EventLog.numbered, map_cons, ih, length_cons, List.range'_succ]

lemma Contiguous.append (h : run.Contiguous) (persistenceId : PersistenceId)
    (expectedSequenceNr : ℕ) (events : List (TaggedEvent E)) (now : UInt64) :
    (run.call (.append persistenceId expectedSequenceNr events now)).Contiguous := by
  intro id
  obtain ⟨hnumbers, hsuffix⟩ := h id
  rw [InMemoryEventJournal.highestSequenceNr_eq] at hnumbers
  unfold InMemoryEventJournal.stored at hsuffix
  unfold call InMemoryEventJournal.append
  dsimp only
  by_cases hconflict : ((run.journal.records[persistenceId]?).getD .empty).highestSequenceNr ≠
      expectedSequenceNr
  · -- A conflict writes the record of the identity back, or an empty one.
    rw [if_pos hconflict]
    dsimp only
    rw [InMemoryEventJournal.highestSequenceNr_eq, InMemoryEventJournal.stored, lookup_insert]
    split_ifs with hid
    · rw [hid] at hnumbers hsuffix
      rw [Option.getD_some, hid]
      exact ⟨hnumbers, hsuffix⟩
    · exact ⟨hnumbers, hsuffix⟩
  · rw [if_neg hconflict]
    obtain ⟨appended, hentries, hids, hfold⟩ := JournalState.foldl_push persistenceId now events
      ((run.journal.records[persistenceId]?).getD .empty) []
    rw [hfold]
    dsimp only
    rw [InMemoryEventJournal.highestSequenceNr_eq, InMemoryEventJournal.stored,
      lookup_insert, assignedTo, filter_append, nil_append]
    split_ifs with hid
    · rw [hid] at hnumbers hsuffix
      rw [hid, filter_eq_self.mpr (fun record hrecord => decide_eq_true (hids record hrecord)),
        Option.getD_some]
      refine ⟨?_, ?_⟩
      · have happended := numbers_of_entries hentries
        rw [assignedTo] at hnumbers
        rw [map_append, hnumbers, happended, length_map, Nat.add_comm _ 1, List.range'_append_1]
      · obtain ⟨dropped, hdropped⟩ := hsuffix
        exact ⟨dropped, by rw [← append_assoc, hdropped, assignedTo]⟩
    · have hnone : appended.filter (fun record => record.metadata.persistenceId = id) = [] := by
        refine filter_eq_nil_iff.mpr (fun record hrecord hsame => hid ?_)
        exact (of_decide_eq_true hsame).symm.trans (hids record hrecord)
      rw [hnone, append_nil]
      exact ⟨hnumbers, hsuffix⟩

lemma Contiguous.deleteTo (h : run.Contiguous) (persistenceId : PersistenceId) (upTo : ℕ) :
    (run.call (.deleteTo persistenceId upTo)).Contiguous := by
  intro id
  obtain ⟨hnumbers, hsuffix⟩ := h id
  have hincreasing := h.stored_increasing id
  rw [InMemoryEventJournal.highestSequenceNr_eq] at hnumbers
  unfold InMemoryEventJournal.stored at hsuffix hincreasing
  unfold call InMemoryEventJournal.deleteTo
  dsimp only
  cases hlookup : run.journal.records[persistenceId]? with
  | none => exact h id
  | some state =>
    rw [InMemoryEventJournal.highestSequenceNr_eq, InMemoryEventJournal.stored, lookup_insert]
    split_ifs with hid
    · rw [hid, hlookup, Option.getD_some] at hnumbers hsuffix hincreasing
      rw [hid, Option.getD_some]
      exact ⟨hnumbers, (filter_suffix_of_increasing upTo hincreasing).trans hsuffix⟩
    · exact ⟨hnumbers, hsuffix⟩

lemma contiguous_calls (calls : List (JournalCall E)) :
    (calls.foldl call (start : JournalRun E)).Contiguous := by
  refine List.foldlRecOn calls call (fun _ => ⟨rfl, suffix_refl _⟩) (fun run h c _ => ?_)
  cases c with
  | append persistenceId expected events now => exact h.append persistenceId expected events now
  | deleteTo persistenceId upTo => exact h.deleteTo persistenceId upTo

/-- After any calls, the numbers of an identity are those from one to the highest, the end of what
was assigned is stored, and a rejected append to an identity that the journal knows changes nothing. -/
theorem journal_numbers_contiguous (calls : List (JournalCall E)) (persistenceId : PersistenceId) :
    let run := calls.foldl call (start : JournalRun E)
    (run.assignedTo persistenceId).map (·.metadata.sequenceNr) =
        List.range' 1 (run.journal.highestSequenceNr persistenceId) ∧
      run.journal.stored persistenceId <:+ run.assignedTo persistenceId ∧
      ∀ expectedSequenceNr events now error after,
        run.journal.append persistenceId expectedSequenceNr events now = (.error error, after) →
        persistenceId ∈ run.journal.persistenceIds → after = run.journal := by
  intro run
  obtain ⟨hnumbers, hsuffix⟩ := contiguous_calls calls persistenceId
  refine ⟨hnumbers, hsuffix, fun expectedSequenceNr events now error after happend hknown => ?_⟩
  obtain ⟨⟨id, state⟩, hmem, rfl⟩ := mem_map.mp hknown
  have hlookup := Std.ExtTreeMap.mem_toList_iff_getElem?_eq_some.mp hmem
  unfold InMemoryEventJournal.append at happend
  dsimp only at happend hlookup
  rw [hlookup, Option.getD_some, insert_of_lookup hlookup] at happend
  split_ifs at happend
  · exact (Prod.mk.inj happend).2.symm
  · cases happend

/-- A rejected append to an identity never written leaves a record of that identity behind. -/
theorem rejected_append_adds_identity :
    let id : PersistenceId := ⟨"account|1"⟩
    let journal : InMemoryEventJournal ℕ := .new
    let out := journal.append id 1 [.new 5] 0
    out.1 = .error (.sequenceConflict id 1 0) ∧ journal.persistenceIds = [] ∧
      out.2.persistenceIds = [id] := by
  decide +kernel

/-- Two writers and a deletion: the second append expects a number that is taken. -/
theorem rejected_append_changes_nothing :
    let id : PersistenceId := ⟨"account|1"⟩
    let calls : List (JournalCall ℕ) :=
      [.append id 0 [.new 5, .new 6] 0, .append id 0 [.new 7] 1, .deleteTo id 1]
    let journal := (calls.foldl call (start : JournalRun ℕ)).journal
    ∃ error, journal.append id 1 [.new 8] 2 = (.error error, journal) := by
  intro id calls journal
  have hrejected : (journal.append id 1 [.new 8] 2).1 = .error (.sequenceConflict id 1 2) := by
    decide +kernel
  have hknown : id ∈ journal.persistenceIds := by decide +kernel
  generalize hout : journal.append id 1 [.new 8] 2 = out
  obtain ⟨answer, after⟩ := out
  rw [hout] at hrejected
  obtain rfl : answer = _ := hrejected
  exact ⟨_, by rw [(journal_numbers_contiguous calls id).2.2 _ _ _ _ _ hout hknown]⟩

end JournalRun

/-- The later snapshot comes first, and among equal sequence numbers the later time. -/
def SnapshotRecord.newestFirst {S : Type} (left right : SnapshotRecord S) : Ordering :=
  (compare right.metadata.sequenceNr left.metadata.sequenceNr).then
    (compare right.metadata.timestampMillis left.metadata.timestampMillis)

def sortSnapshotsNewestFirst {S : Type} (snapshots : List (SnapshotRecord S)) :
    List (SnapshotRecord S) :=
  snapshots.insertionSort (fun left right => (left.newestFirst right).isLE = true)

def SnapshotRecord.point {S : Type} (record : SnapshotRecord S) : ℕ × S :=
  (record.metadata.sequenceNr, record.snapshot)

lemma SnapshotRecord.newestFirst_isLE_iff {S : Type} (left right : SnapshotRecord S) :
    (left.newestFirst right).isLE = true ↔ right.metadata.sequenceNr < left.metadata.sequenceNr ∨
        right.metadata.sequenceNr = left.metadata.sequenceNr ∧
          right.metadata.timestampMillis.toNat ≤ left.metadata.timestampMillis.toNat := by
  rw [newestFirst, Ordering.isLE_then_iff_or, Nat.compare_eq_lt, Nat.compare_eq_eq,
    Std.isLE_compare, UInt64.le_iff_toNat_le]

instance {S : Type} : Std.Total (fun left right : SnapshotRecord S =>
    (left.newestFirst right).isLE = true) where
  total left right := by
    rw [SnapshotRecord.newestFirst_isLE_iff, SnapshotRecord.newestFirst_isLE_iff]
    omega

instance {S : Type} : IsTrans (SnapshotRecord S) (fun left right =>
    (left.newestFirst right).isLE = true) where
  trans a b c hab hbc := by
    rw [SnapshotRecord.newestFirst_isLE_iff] at hab hbc ⊢
    omega

lemma pairwise_sortSnapshotsNewestFirst {S : Type} {snapshots : List (SnapshotRecord S)}
    (h : (snapshots.map (·.metadata.sequenceNr)).Nodup) :
    ((sortSnapshotsNewestFirst snapshots).map SnapshotRecord.point).Pairwise
      (fun p q => q.1 < p.1) := by
  have hsorted : (sortSnapshotsNewestFirst snapshots).Pairwise
      (fun left right => (left.newestFirst right).isLE = true) :=
    pairwise_insertionSort _ snapshots
  have hdistinct : (sortSnapshotsNewestFirst snapshots).Pairwise
      (fun left right => left.metadata.sequenceNr ≠ right.metadata.sequenceNr) :=
    pairwise_map.mp (((perm_insertionSort _ snapshots).map _).nodup_iff.mpr h)
  refine pairwise_map.mpr ((hsorted.and hdistinct).imp ?_)
  rintro left right ⟨hle, hne⟩
  exact ((SnapshotRecord.newestFirst_isLE_iff left right).mp hle).resolve_right
    (fun heq => hne heq.1.symm)

structure InMemorySnapshotStore (S : Type) where
  records : BTreeMap PersistenceId (List (SnapshotRecord S))

namespace InMemorySnapshotStore
variable {S : Type}
variable (store : InMemorySnapshotStore S) (persistenceId : PersistenceId)

def new : InMemorySnapshotStore S := ⟨∅⟩

def save (sequenceNr : ℕ) (snapshot : S) (now : UInt64) :
    SnapshotRecord S × InMemorySnapshotStore S :=
  let record : SnapshotRecord S := ⟨snapshot, ⟨persistenceId, sequenceNr, now⟩⟩
  let snapshots := ((store.records[persistenceId]?).getD []).filter
    (fun existing => existing.metadata.sequenceNr ≠ sequenceNr)
  (record, ⟨store.records.insert persistenceId (sortSnapshotsNewestFirst (snapshots ++ [record]))⟩)

def load (selection : SnapshotSelection) : Option (SnapshotRecord S) :=
  (store.records[persistenceId]?).bind
    (fun snapshots => snapshots.find? (fun snapshot => selection.accepts snapshot.metadata))

def list (selection : SnapshotSelection) : List SnapshotMetadata :=
  match store.records[persistenceId]? with
  | some snapshots =>
    (snapshots.filter (fun snapshot => selection.accepts snapshot.metadata)).map (·.metadata)
  | none => []

def delete (selection : SnapshotSelection) : ℕ × InMemorySnapshotStore S :=
  match store.records[persistenceId]? with
  | none => (0, store)
  | some snapshots =>
    let remaining := snapshots.filter (fun snapshot => !selection.accepts snapshot.metadata)
    (snapshots.length - remaining.length,
      if remaining.isEmpty then ⟨store.records.erase persistenceId⟩
      else ⟨store.records.insert persistenceId remaining⟩)

def saved : List (ℕ × S) :=
  ((store.records[persistenceId]?).getD []).map SnapshotRecord.point

lemma mem_saved_save (sequenceNr : ℕ) (snapshot : S) (now : UInt64) (p : ℕ × S) :
    p ∈ (store.save persistenceId sequenceNr snapshot now).2.saved persistenceId ↔
      p = (sequenceNr, snapshot) ∨ p ∈ store.saved persistenceId ∧ p.1 ≠ sequenceNr := by
  unfold save saved
  rw [lookup_insert, if_pos rfl, Option.getD_some]
  simp only [mem_map, sortSnapshotsNewestFirst, mem_insertionSort, mem_append, mem_singleton,
    mem_filter, decide_eq_true_eq]
  constructor
  · rintro ⟨record, ⟨hmem, hne⟩ | rfl, rfl⟩
    · exact .inr ⟨⟨record, hmem, rfl⟩, hne⟩
    · exact .inl rfl
  · rintro (rfl | ⟨⟨record, hmem, rfl⟩, hne⟩)
    · exact ⟨_, .inr rfl, rfl⟩
    · exact ⟨record, .inl ⟨hmem, hne⟩, rfl⟩

lemma saved_save_newestFirst (sequenceNr : ℕ) (snapshot : S) (now : UInt64)
    (h : (store.saved persistenceId).Pairwise (fun p q => q.1 < p.1)) :
    ((store.save persistenceId sequenceNr snapshot now).2.saved persistenceId).Pairwise
      (fun p q => q.1 < p.1) := by
  unfold save saved at *
  rw [lookup_insert, if_pos rfl, Option.getD_some]
  refine pairwise_sortSnapshotsNewestFirst ?_
  -- The sequence numbers are distinct: those of the old snapshots were, and the new one is taken
  -- from none of the others.
  rw [map_append]
  refine pairwise_concat ?_ (forall_mem_map.mpr (fun record hrecord => ?_))
  · have hdistinct := (pairwise_map.mp h).imp (fun hlt => (Nat.ne_of_lt hlt).symm)
    exact pairwise_map.mpr (hdistinct.filter _)
  · exact of_decide_eq_true (mem_filter.mp hrecord).2

lemma point_load_latest (h : ∀ p ∈ store.saved persistenceId, p.1 ≤ SequenceNr.max) :
    (store.load persistenceId .latest).map SnapshotRecord.point =
      (store.saved persistenceId).head? := by
  unfold load
  unfold saved at h ⊢
  cases hlookup : store.records[persistenceId]? with
  | none => rfl
  | some snapshots =>
    rw [hlookup, Option.getD_some] at h
    rw [Option.bind_some, Option.getD_some]
    cases snapshots with
    | nil => rfl
    | cons record =>
      have hle : record.metadata.sequenceNr ≤ SequenceNr.max := h record.point mem_cons_self
      rw [List.find?_cons, SnapshotSelection.latest_accepts hle]
      rfl

lemma list_latest (h : ∀ p ∈ store.saved persistenceId, p.1 ≤ SequenceNr.max) :
    (store.list persistenceId .latest).map (·.sequenceNr) =
      (store.saved persistenceId).map Prod.fst := by
  unfold list
  unfold saved at h ⊢
  cases hlookup : store.records[persistenceId]? with
  | none => rfl
  | some snapshots =>
    rw [hlookup, Option.getD_some] at h
    have hall : ∀ record ∈ snapshots,
        SnapshotSelection.latest.accepts record.metadata = true := fun record hrecord =>
      SnapshotSelection.latest_accepts (h record.point (mem_map_of_mem hrecord))
    dsimp only
    rw [filter_eq_self.mpr hall, Option.getD_some, map_map, map_map]
    rfl

lemma saved_delete (sequenceNr : ℕ) :
    (store.delete persistenceId (.between sequenceNr sequenceNr)).2.saved persistenceId =
      (store.saved persistenceId).filter (fun p => decide (p.1 ≠ sequenceNr)) := by
  have hother : ∀ record : SnapshotRecord S,
      (!(SnapshotSelection.between sequenceNr sequenceNr).accepts record.metadata) =
        decide (record.metadata.sequenceNr ≠ sequenceNr) := by
    intro record
    rw [SnapshotSelection.between_accepts, ← decide_not]
    exact decide_eq_decide.mpr (by rw [not_iff_not, ← le_antisymm_iff, eq_comm])
  unfold delete saved
  cases hlookup : store.records[persistenceId]? with
  | none =>
    dsimp only
    rw [hlookup]
    rfl
  | some =>
    dsimp only
    simp only [hother]
    rw [Option.getD_some, filter_map]
    split_ifs with hempty
    · rw [lookup_erase, if_pos rfl]
      exact (congrArg (List.map SnapshotRecord.point) (isEmpty_iff.mp hempty)).symm
    · rw [lookup_insert, if_pos rfl]
      rfl

end InMemorySnapshotStore

end Rakka.Persistence
