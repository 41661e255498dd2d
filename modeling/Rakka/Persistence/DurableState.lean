import Rakka.Foundation.Runs
import Rakka.Persistence.Store

/-! The in-memory durable state store and the clients that share one of its records. Beside the
store stand, for every client, the revision it saw last and the writes of the others since then. -/

namespace Rakka.Persistence
open Foundation List BTreeMap

structure StateRecord (S : Type) where
  state : S
  revision : ℕ
  deriving DecidableEq, Repr

def Revision.initial : ℕ := 0

structure InMemoryDurableStateStore (S : Type) where
  records : BTreeMap PersistenceId (StateRecord S)

namespace InMemoryDurableStateStore
variable {S : Type}
variable {persistenceId other : PersistenceId} {store : InMemoryDurableStateStore S}

def new : InMemoryDurableStateStore S := ⟨∅⟩

variable (store)

def load (persistenceId : PersistenceId) : Option (StateRecord S) :=
  store.records[persistenceId]?

def revisionOf (persistenceId : PersistenceId) : ℕ :=
  match store.records[persistenceId]? with
  | some record => record.revision
  | none => Revision.initial

def compareAndSet (persistenceId : PersistenceId) (expectedRevision : ℕ) (state : S) :
    Except DurableError (StateRecord S) × InMemoryDurableStateStore S :=
  let actualRevision := store.revisionOf persistenceId
  if actualRevision ≠ expectedRevision then
    (.error (.revisionConflict persistenceId expectedRevision actualRevision), store)
  else
    let record : StateRecord S := ⟨state, expectedRevision + 1⟩
    (.ok record, ⟨store.records.insert persistenceId record⟩)

def delete (persistenceId : PersistenceId) (expectedRevision : ℕ) :
    Except DurableError ℕ × InMemoryDurableStateStore S :=
  let actualRevision := store.revisionOf persistenceId
  if actualRevision ≠ expectedRevision then
    (.error (.revisionConflict persistenceId expectedRevision actualRevision), store)
  else (.ok Revision.initial, ⟨store.records.erase persistenceId⟩)

variable {store}

/-- A write is refused and changes nothing, or was expected at the stored revision. -/
inductive Stored (store : InMemoryDurableStateStore S) (persistenceId : PersistenceId)
    (expectedRevision : ℕ) (state : S) :
    Except DurableError (StateRecord S) × InMemoryDurableStateStore S → Prop
  | conflict (hconflict : store.revisionOf persistenceId ≠ expectedRevision) :
      Stored store persistenceId expectedRevision state
        (.error (.revisionConflict persistenceId expectedRevision
          (store.revisionOf persistenceId)), store)
  | written (hexpected : store.revisionOf persistenceId = expectedRevision) :
      Stored store persistenceId expectedRevision state
        (.ok ⟨state, expectedRevision + 1⟩,
          ⟨store.records.insert persistenceId ⟨state, expectedRevision + 1⟩⟩)

lemma compareAndSet_cases (store : InMemoryDurableStateStore S) (persistenceId : PersistenceId)
    (expectedRevision : ℕ) (state : S) : Stored store persistenceId expectedRevision state
      (store.compareAndSet persistenceId expectedRevision state) := by
  unfold compareAndSet
  dsimp only
  split_ifs with hconflict
  · exact .conflict hconflict
  · exact .written (not_not.mp hconflict)

inductive Deleted (store : InMemoryDurableStateStore S) (persistenceId : PersistenceId)
    (expectedRevision : ℕ) : Except DurableError ℕ × InMemoryDurableStateStore S → Prop
  | conflict (hconflict : store.revisionOf persistenceId ≠ expectedRevision) :
      Deleted store persistenceId expectedRevision
        (.error (.revisionConflict persistenceId expectedRevision
          (store.revisionOf persistenceId)), store)
  | removed (hexpected : store.revisionOf persistenceId = expectedRevision) :
      Deleted store persistenceId expectedRevision
        (.ok Revision.initial, ⟨store.records.erase persistenceId⟩)

lemma delete_cases (store : InMemoryDurableStateStore S) (persistenceId : PersistenceId)
    (expectedRevision : ℕ) :
    Deleted store persistenceId expectedRevision (store.delete persistenceId expectedRevision) := by
  unfold delete
  dsimp only
  split_ifs with hconflict
  · exact .conflict hconflict
  · exact .removed (not_not.mp hconflict)

lemma load_revision {record : StateRecord S} (h : store.load persistenceId = some record) :
    record.revision = store.revisionOf persistenceId := by
  rw [load] at h
  rw [revisionOf, h]

lemma missing_revision (h : store.load persistenceId = none) :
    Revision.initial = store.revisionOf persistenceId := by
  rw [load] at h
  rw [revisionOf, h]

variable (store)

lemma load_insert (persistenceId : PersistenceId) (record : StateRecord S) :
    load ⟨store.records.insert persistenceId record⟩ persistenceId = some record := by
  rw [load, lookup_insert, if_pos rfl]

lemma revisionOf_insert (persistenceId : PersistenceId) (record : StateRecord S) :
    revisionOf ⟨store.records.insert persistenceId record⟩ persistenceId = record.revision := by
  rw [revisionOf, lookup_insert, if_pos rfl]

lemma load_insert_of_ne (h : other ≠ persistenceId) (record : StateRecord S) :
    load ⟨store.records.insert persistenceId record⟩ other = store.load other := by
  rw [load, lookup_insert, if_neg h, load]

lemma revisionOf_insert_of_ne (h : other ≠ persistenceId) (record : StateRecord S) :
    revisionOf ⟨store.records.insert persistenceId record⟩ other = store.revisionOf other := by
  rw [revisionOf, lookup_insert, if_neg h, revisionOf]

lemma load_erase (persistenceId : PersistenceId) :
    load ⟨store.records.erase persistenceId⟩ persistenceId = none := by
  rw [load, lookup_erase, if_pos rfl]

lemma revisionOf_erase (persistenceId : PersistenceId) :
    revisionOf ⟨store.records.erase persistenceId⟩ persistenceId = Revision.initial := by
  rw [revisionOf, lookup_erase, if_pos rfl]

variable {store}

end InMemoryDurableStateStore

inductive WriteKind where
  | compareAndSet | delete
  deriving DecidableEq, Repr

inductive StateStoreOp (κ S : Type) where
  | load (client : κ)
  | compareAndSet (client : κ) (expectedRevision : ℕ) (state : S)
  | delete (client : κ) (expectedRevision : ℕ)

/-- A store, the revision each client saw last, the writes of others since, all writes that
succeeded, and the revisions handed out with their states. -/
structure SharedRecord (κ S : Type) where
  store : InMemoryDurableStateStore S
  known : κ → Option ℕ
  since : κ → List (κ × WriteKind)
  writes : List (κ × WriteKind)
  handedOut : List (ℕ × Option S)

namespace SharedRecord
variable {κ S : Type} [DecidableEq κ]

def init (store : InMemoryDurableStateStore S) : SharedRecord κ S :=
  ⟨store, fun _ => none, fun _ => [], [], []⟩

/-- The client learns a revision; what others wrote before no longer matters to it. -/
def learn (w : SharedRecord κ S) (client : κ) (revision : ℕ) (state : Option S) :
    SharedRecord κ S :=
  { w with
    known := Function.update w.known client (some revision)
    since := Function.update w.since client []
    handedOut := w.handedOut ++ [(revision, state)] }

def wrote (w : SharedRecord κ S) (client : κ) (kind : WriteKind)
    (store : InMemoryDurableStateStore S) : SharedRecord κ S :=
  { w with
    store
    since := fun other => w.since other ++ [(client, kind)]
    writes := w.writes ++ [(client, kind)] }

section
variable (persistenceId : PersistenceId)
variable (store : InMemoryDurableStateStore S)

def step (w : SharedRecord κ S) : StateStoreOp κ S → SharedRecord κ S
  | .load client =>
    match w.store.load persistenceId with
    | some record => w.learn client record.revision (some record.state)
    | none => w.learn client Revision.initial none
  | .compareAndSet client expectedRevision state =>
    match w.store.compareAndSet persistenceId expectedRevision state with
    | (.ok record, store) =>
      (w.wrote client .compareAndSet store).learn client record.revision (some record.state)
    | (.error _, _) => w
  | .delete client expectedRevision =>
    match w.store.delete persistenceId expectedRevision with
    | (.ok revision, store) => (w.wrote client .delete store).learn client revision none
    | (.error _, _) => w

def run (w : SharedRecord κ S) (ops : List (StateStoreOp κ S)) : SharedRecord κ S :=
  ops.foldl (step persistenceId) w

def current (w : SharedRecord κ S) : Option S := (w.store.load persistenceId).map (·.state)

def caughtUp (w : SharedRecord κ S) (client : κ) : SharedRecord κ S :=
  w.learn client (w.store.revisionOf persistenceId) (w.current persistenceId)

inductive Stepped (w : SharedRecord κ S) : SharedRecord κ S → Prop
  | refused : Stepped w w
  | loaded (client : κ) : Stepped w (w.caughtUp persistenceId client)
  | written (client : κ) (store : InMemoryDurableStateStore S)
      (hrevision : store.revisionOf persistenceId = w.store.revisionOf persistenceId + 1) :
      Stepped w ((w.wrote client .compareAndSet store).caughtUp persistenceId client)
  | deleted (client : κ) (store : InMemoryDurableStateStore S) :
      Stepped w ((w.wrote client .delete store).caughtUp persistenceId client)

lemma learn_eq_caughtUp (w : SharedRecord κ S) (client : κ) {revision : ℕ} {state : Option S}
    (hrevision : w.store.revisionOf persistenceId = revision)
    (hstate : w.current persistenceId = state) :
    w.learn client revision state = w.caughtUp persistenceId client := by
  rw [caughtUp, hrevision, hstate]

lemma step_cases (w : SharedRecord κ S) (op : StateStoreOp κ S) :
    Stepped persistenceId w (w.step persistenceId op) := by
  cases op with
  | load client =>
    simp only [step]
    cases hload : w.store.load persistenceId with
    | some =>
      dsimp only
      rw [learn_eq_caughtUp persistenceId w client
        (InMemoryDurableStateStore.load_revision hload).symm (by rw [current, hload]; rfl)]
      exact .loaded client
    | none =>
      dsimp only
      rw [learn_eq_caughtUp persistenceId w client
        (InMemoryDurableStateStore.missing_revision hload).symm (by rw [current, hload]; rfl)]
      exact .loaded client
  | compareAndSet client expectedRevision state =>
    have hcases := w.store.compareAndSet_cases persistenceId expectedRevision state
    simp only [step]
    generalize w.store.compareAndSet persistenceId expectedRevision state = out at hcases
    cases hcases with
    | conflict => exact .refused
    | written hexpected =>
      have hrevision := w.store.revisionOf_insert persistenceId ⟨state, expectedRevision + 1⟩
      have hcurrent : (w.wrote client .compareAndSet
          ⟨w.store.records.insert persistenceId ⟨state, expectedRevision + 1⟩⟩).current
            persistenceId = some state :=
        congrArg (Option.map StateRecord.state)
          (w.store.load_insert persistenceId ⟨state, expectedRevision + 1⟩)
      dsimp only
      rw [learn_eq_caughtUp persistenceId _ client hrevision hcurrent]
      exact .written client _ (hrevision.trans (by rw [hexpected]))
  | delete client expectedRevision =>
    have hcases := w.store.delete_cases persistenceId expectedRevision
    simp only [step]
    generalize w.store.delete persistenceId expectedRevision = out at hcases
    cases hcases with
    | conflict => exact .refused
    | removed =>
      have hrevision := w.store.revisionOf_erase persistenceId
      have hcurrent : (w.wrote client .delete
          ⟨w.store.records.erase persistenceId⟩).current persistenceId = none :=
        congrArg (Option.map StateRecord.state) (w.store.load_erase persistenceId)
      dsimp only
      rw [learn_eq_caughtUp persistenceId _ client hrevision hcurrent]
      exact .deleted client _

def NoDelete (writes : List (κ × WriteKind)) : Prop := ∀ write ∈ writes, write.2 ≠ .delete

/-- Every write since a client's last look raised the revision by one, unless one was a delete. -/
def Counted (w : SharedRecord κ S) : Prop :=
  ∀ client revision, w.known client = some revision → NoDelete (w.since client) →
    w.store.revisionOf persistenceId = revision + (w.since client).length

/-- The revisions handed out are at most the current one, and no two of them stand for different
states. -/
structure Distinct (w : SharedRecord κ S) : Prop where
  le : ∀ p ∈ w.handedOut, p.1 ≤ w.store.revisionOf persistenceId
  current : ∀ p ∈ w.handedOut, p.1 = w.store.revisionOf persistenceId →
    p.2 = w.current persistenceId
  agree : ∀ p ∈ w.handedOut, ∀ q ∈ w.handedOut, p.1 = q.1 → p.2 = q.2

variable {persistenceId} {w : SharedRecord κ S}

lemma Counted.caughtUp (h : Counted persistenceId w) (client : κ) :
    Counted persistenceId (w.caughtUp persistenceId client) := by
  intro other revision hknown hnone
  by_cases hother : other = client
  · subst hother
    simp only [SharedRecord.caughtUp, learn, Function.update_self, Option.some.injEq] at hknown
    simp only [SharedRecord.caughtUp, learn, Function.update_self, length_nil, Nat.add_zero]
    exact hknown
  · simp only [SharedRecord.caughtUp, learn, Function.update_of_ne hother] at hknown hnone ⊢
    exact h other revision hknown hnone

lemma Counted.step (h : Counted persistenceId w) (op : StateStoreOp κ S) :
    Counted persistenceId (w.step persistenceId op) := by
  have hcases := step_cases persistenceId w op
  generalize w.step persistenceId op = w' at hcases
  cases hcases with
  | refused => exact h
  | loaded client => exact h.caughtUp client
  | written client store hrevision =>
    refine Counted.caughtUp (fun other revision hknown hnone => ?_) client
    have hbefore := h other revision hknown
      (fun write hwrite => hnone write (mem_append_left _ hwrite))
    simp only [wrote, length_append, length_singleton]
    rw [hrevision, hbefore, Nat.add_assoc]
  | deleted client =>
    -- A delete among the writes since the last look leaves nothing to show.
    refine Counted.caughtUp (fun other revision _ hnone => ?_) client
    exact absurd rfl (hnone (client, .delete) (mem_append_right _ mem_cons_self))

lemma Distinct.caughtUp (h : Distinct persistenceId w) (client : κ) :
    Distinct persistenceId (w.caughtUp persistenceId client) := by
  refine ⟨forall_mem_concat h.le le_rfl, forall_mem_concat h.current (fun _ => rfl), ?_⟩
  refine forall_mem_concat (fun p hp => forall_mem_concat (h.agree p hp) (h.current p hp)) ?_
  exact forall_mem_concat (fun q hq heq => (h.current q hq heq.symm).symm) (fun _ => rfl)

lemma Distinct.step (h : NoDelete w.writes → Distinct persistenceId w) (op : StateStoreOp κ S) :
    NoDelete (w.step persistenceId op).writes →
      Distinct persistenceId (w.step persistenceId op) := by
  have hcases := step_cases persistenceId w op
  generalize w.step persistenceId op = w' at hcases
  intro hnone
  cases hcases with
  | refused => exact h hnone
  | loaded client => exact (h hnone).caughtUp client
  | written client store hrevision =>
    have hbefore := h (fun write hwrite => hnone write (mem_append_left _ hwrite))
    have hlt : ∀ p ∈ w.handedOut, p.1 < store.revisionOf persistenceId := fun p hp => by
      rw [hrevision]
      exact Nat.lt_succ_of_le (hbefore.le p hp)
    have hwrote : Distinct persistenceId (w.wrote client .compareAndSet store) :=
      ⟨fun p hp => (hlt p hp).le, fun p hp heq => absurd heq (hlt p hp).ne, hbefore.agree⟩
    exact hwrote.caughtUp client
  | deleted client =>
    exact absurd rfl (hnone (client, .delete) (mem_append_right _ mem_cons_self))

omit [DecidableEq κ] in
lemma init_counted : Counted persistenceId (init store : SharedRecord κ S) :=
  fun _ _ hknown => (by cases hknown)

omit [DecidableEq κ] in
lemma init_distinct : Distinct persistenceId (init store : SharedRecord κ S) :=
  ⟨fun _ hp => absurd hp not_mem_nil, fun _ hp => absurd hp not_mem_nil,
    fun _ hp => absurd hp not_mem_nil⟩

lemma run_counted (ops : List (StateStoreOp κ S)) :
    Counted persistenceId ((init store).run persistenceId ops) :=
  List.foldlRecOn (motive := Counted persistenceId) ops _ (init_counted store)
    (fun _ h op _ => h.step op)

lemma run_distinct (ops : List (StateStoreOp κ S)) :
    NoDelete ((init store : SharedRecord κ S).run persistenceId ops).writes →
      Distinct persistenceId ((init store).run persistenceId ops) :=
  List.foldlRecOn (motive := fun w => NoDelete w.writes → Distinct persistenceId w) ops _
    (fun _ => init_distinct store) (fun _ h op _ => Distinct.step h op)

/-- A write that succeeds with the revision its client saw last is preceded by no write of another
client since then, and no revision stands for two states, unless there was a delete. -/
theorem revision_fences_writes (store : InMemoryDurableStateStore S)
    (ops : List (StateStoreOp κ S)) : let w := (init store : SharedRecord κ S).run persistenceId ops
    (∀ client revision, w.known client = some revision →
      (∀ write ∈ w.since client, write.2 ≠ .delete) →
      ((∃ state record, (w.store.compareAndSet persistenceId revision state).1 = .ok record) ∨
        ∃ deleted, (w.store.delete persistenceId revision).1 = .ok deleted) →
      w.since client = []) ∧
    ((∀ write ∈ w.writes, write.2 ≠ .delete) →
      ∀ p ∈ w.handedOut, ∀ q ∈ w.handedOut, p.1 = q.1 → p.2 = q.2) := by
  intro w
  refine ⟨fun client revision hknown hnone hsuccess => ?_, fun hnone => ?_⟩
  · have hcount := run_counted store ops client revision hknown hnone
    have hexpected : w.store.revisionOf persistenceId = revision := by
      rcases hsuccess with ⟨state, record, hok⟩ | ⟨deleted, hok⟩
      · have hcases := w.store.compareAndSet_cases persistenceId revision state
        generalize w.store.compareAndSet persistenceId revision state = out at hcases hok
        cases hcases with
        | conflict => cases hok
        | written hexpected => exact hexpected
      · have hcases := w.store.delete_cases persistenceId revision
        generalize w.store.delete persistenceId revision = out at hcases hok
        cases hcases with
        | conflict => cases hok
        | removed hexpected => exact hexpected
    have hlength : (w.since client).length = 0 :=
      Nat.add_left_cancel ((hcount.symm.trans hexpected).trans (Nat.add_zero _).symm)
    exact length_eq_zero_iff.mp hlength
  · exact (run_distinct store ops hnone).agree

end

structure ClientView where
  known : Option ℕ
  since : List (Bool × WriteKind)
  handedOut : List (ℕ × Option ℕ)
  accepted : Bool
  deriving DecidableEq

def clientView (persistenceId : PersistenceId) (w : SharedRecord Bool ℕ) (client : Bool) :
    ClientView :=
  ⟨w.known client, w.since client, w.handedOut,
    match (w.store.compareAndSet persistenceId ((w.known client).getD 0) 9).1 with
    | .ok _ => true
    | .error _ => false⟩

/-- The record is deleted and made again: its revision is back at one, stands for another state,
and the client that saw the first state overwrites the second. -/
theorem recreated_record_lets_stale_write_pass : clientView ⟨"job|1"⟩ ((init .new).run ⟨"job|1"⟩
        [.compareAndSet true 0 5, .load false, .delete true 1, .compareAndSet true 0 7]) false =
      ⟨some 1, [(true, .delete), (true, .compareAndSet)],
        [(1, some 5), (1, some 5), (0, none), (1, some 7)], true⟩ := by
  decide +kernel

/-- The client that looked last writes with no other write in between. -/
theorem fresh_revision_is_fenced :
    let w : SharedRecord Bool ℕ := (init .new).run ⟨"job|1"⟩
      [.compareAndSet true 0 5, .load false, .compareAndSet true 0 6]
    w.known false = some 1 ∧ w.since false = [] ∧
      ∀ p ∈ w.handedOut, ∀ q ∈ w.handedOut, p.1 = q.1 → p.2 = q.2 := by
  intro w
  have hview : clientView ⟨"job|1"⟩ w false = ⟨some 1, [], [(1, some 5), (1, some 5)], true⟩ := by
    decide +kernel
  have hsince : w.since false = [] := congrArg ClientView.since hview
  have hknown : w.known false = some 1 := congrArg ClientView.known hview
  have haccepted : ∃ record, (w.store.compareAndSet ⟨"job|1"⟩ 1 9).1 = .ok record :=
    ⟨⟨9, 2⟩, by decide +kernel⟩
  have hwrites : ∀ write ∈ w.writes, write.2 ≠ .delete := by decide +kernel
  obtain ⟨hfence, hdistinct⟩ := revision_fences_writes (.new : InMemoryDurableStateStore ℕ)
    [.compareAndSet true 0 5, .load false, .compareAndSet true 0 6]
  exact ⟨hknown, hfence false 1 hknown (by rw [hsince]; exact fun _ h => absurd h not_mem_nil)
    (.inl ⟨9, haccepted⟩), hdistinct hwrites⟩

end SharedRecord
end Rakka.Persistence
