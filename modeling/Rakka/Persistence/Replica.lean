import Rakka.Foundation.Attempt
import Rakka.Foundation.Revisions
import Rakka.Persistence.DurableState

/-! Components that keep a copy of one stored record, decide on the copy and write the next state
with the copy's revision. The versions written so far form a history of which every copy is a part,
so a write that succeeds was decided on the latest one. -/

namespace Rakka.Persistence
open Foundation

inductive Decision (ε S α : Type) where
  | fail (error : ε)
  | answer (result : α)
  | write (next : S) (result : StateRecord S → α)

structure Replica (S : Type) where
  record : Option (StateRecord S)
  stale : Bool

namespace Replica
variable {ε S α : Type}
variable (persistenceId : PersistenceId)

def new : Replica S := ⟨none, false⟩

def recover (missing : S) (store : InMemoryDurableStateStore S) : Replica S :=
  ⟨some ((store.load persistenceId).getD ⟨missing, Revision.initial⟩), false⟩

/-- Carries a decision out; a write that lost to another one leaves the copy stale. -/
def perform (failure : DurableError → ε) (expectedRevision : ℕ) (decision : Decision ε S α) :
    Attempt ε (Replica S × InMemoryDurableStateStore S) α :=
  fun (replica, store) =>
    match decision with
    | .fail error => (.error error, replica, store)
    | .answer result => (.ok result, replica, store)
    | .write next result =>
      match store.compareAndSet persistenceId expectedRevision next with
      | (.ok record, store) =>
        (.ok (result record), { replica with record := some record }, store)
      | (.error error, store) => (.error (failure error), { replica with stale := true }, store)

inductive Performed (persistenceId : PersistenceId) (failure : DurableError → ε)
    (expectedRevision : ℕ) (decision : Decision ε S α) (replica : Replica S)
    (store : InMemoryDurableStateStore S) :
    Except ε α × Replica S × InMemoryDurableStateStore S → Prop
  | failed (error : ε) (hdecision : decision = .fail error) :
      Performed persistenceId failure expectedRevision decision replica store
        (.error error, replica, store)
  | answered (result : α) (hdecision : decision = .answer result) :
      Performed persistenceId failure expectedRevision decision replica store
        (.ok result, replica, store)
  | lost (next : S) (result : StateRecord S → α) (hdecision : decision = .write next result)
      (hconflict : store.revisionOf persistenceId ≠ expectedRevision) :
      Performed persistenceId failure expectedRevision decision replica store
        (.error (failure (.revisionConflict persistenceId expectedRevision
          (store.revisionOf persistenceId))), { replica with stale := true }, store)
  | written (next : S) (result : StateRecord S → α) (hdecision : decision = .write next result)
      (hexpected : store.revisionOf persistenceId = expectedRevision) :
      Performed persistenceId failure expectedRevision decision replica store
        (.ok (result ⟨next, expectedRevision + 1⟩),
          { replica with record := some ⟨next, expectedRevision + 1⟩ },
          ⟨store.records.insert persistenceId ⟨next, expectedRevision + 1⟩⟩)

lemma perform_cases (failure : DurableError → ε) (expectedRevision : ℕ)
    (decision : Decision ε S α) (replica : Replica S) (store : InMemoryDurableStateStore S) :
    Performed persistenceId failure expectedRevision decision replica store
      (perform persistenceId failure expectedRevision decision (replica, store)) := by
  cases decision with
  | fail error => exact .failed error rfl
  | answer result => exact .answered result rfl
  | write next result =>
    have hcases := store.compareAndSet_cases persistenceId expectedRevision next
    simp only [perform]
    generalize store.compareAndSet persistenceId expectedRevision next = out at hcases
    cases hcases with
    | conflict hconflict => exact .lost next result rfl hconflict
    | written hexpected => exact .written next result rfl hexpected

end Replica

/-- A store and the components that share one of its records. -/
structure Replicated (κ S : Type) where
  store : InMemoryDurableStateStore S
  replica : κ → Replica S

namespace Replicated
variable {κ S : Type} [DecidableEq κ]
variable (w : Replicated κ S) (client : κ)

def set (replica : Replica S) : Replicated κ S :=
  { w with replica := Function.update w.replica client replica }

lemma set_self (replica : Replica S) :
    (w.set client replica).replica client = replica := Function.update_self _ _ _

lemma set_set (first second : Replica S) :
    (w.set client first).set client second = w.set client second := by
  rw [Replicated.set, Replicated.set, Replicated.set, Function.update_idem]

section
variable (persistenceId : PersistenceId) (initial : S → Prop)
variable {P : S → Prop} {client : κ} {record : StateRecord S} {state : S}

inductive Change (S : Type) where
  | none
  | created (next : S)
  | replaced (previous next : S)

inductive Move (w : Replicated κ S) : Change S → Replicated κ S → Prop
  | idle : Move w .none w
  | kept (client : κ) (replica : Replica S)
      (hrecord : ∀ record, replica.record = some record → (w.replica client).record = some record) :
      Move w .none (w.set client replica)
  | recovered (client : κ) (record : StateRecord S)
      (hrecord : w.store.load persistenceId = some record ∨
        record.revision = Revision.initial ∧ initial record.state) :
      Move w .none (w.set client ⟨some record, false⟩)
  | created (client : κ) (next : S)
      (hexpected : w.store.revisionOf persistenceId = Revision.initial) :
      Move w (.created next) (Replicated.set
        ⟨⟨w.store.records.insert persistenceId ⟨next, Revision.initial + 1⟩⟩, w.replica⟩ client
        { w.replica client with record := some ⟨next, Revision.initial + 1⟩ })
  | written (client : κ) (record : StateRecord S) (next : S)
      (hrecord : (w.replica client).record = some record)
      (hexpected : w.store.revisionOf persistenceId = record.revision) :
      Move w (.replaced record.state next) (Replicated.set
        ⟨⟨w.store.records.insert persistenceId ⟨next, record.revision + 1⟩⟩, w.replica⟩ client
        { w.replica client with record := some ⟨next, record.revision + 1⟩ })

/-- The last version of the history is stored, and every copy is one of its versions or an initial
one. -/
structure Fenced (history : List (StateRecord S)) (w : Replicated κ S) : Prop where
  numbered : Revisions.Numbered StateRecord.revision history
  latest : w.store.load persistenceId = history.getLast?
  copies : ∀ client record, (w.replica client).record = some record →
    Revisions.Authentic StateRecord.revision (fun record => initial record.state) history record

/-- The state is that of the last version, or initial where there is none. -/
def Latest (history : List (StateRecord S)) (state : S) : Prop :=
  history.getLast?.map StateRecord.state = some state ∨ history = [] ∧ initial state

inductive Extended (history : List (StateRecord S)) : Change S → List (StateRecord S) → Prop
  | none : Extended history .none history
  | created (next : S) (hempty : history = []) :
      Extended history (.created next) (history ++ [⟨next, history.length + 1⟩])
  | replaced (previous next : S) (hlatest : Latest initial history previous) :
      Extended history (.replaced previous next) (history ++ [⟨next, history.length + 1⟩])

variable {persistenceId initial} {history : List (StateRecord S)} {w w' : Replicated κ S}

omit [DecidableEq κ] in
lemma Fenced.revisionOf (h : Fenced persistenceId initial history w) :
    w.store.revisionOf persistenceId = history.length := by
  have hlatest := h.latest
  rcases List.eq_nil_or_concat history with rfl | ⟨before, last, rfl⟩
  · exact (InMemoryDurableStateStore.missing_revision hlatest).symm
  · rw [List.concat_eq_append, List.getLast?_append, List.getLast?_singleton,
      Option.some_or] at hlatest
    rw [← InMemoryDurableStateStore.load_revision hlatest]
    have hlast := h.numbered before.length last (by simp)
    simpa using hlast

lemma Fenced.set (h : Fenced persistenceId initial history w) (client : κ) (replica : Replica S)
    (hreplica : ∀ record, replica.record = some record →
      Revisions.Authentic StateRecord.revision (fun record => initial record.state) history
        record) : Fenced persistenceId initial history (w.set client replica) := by
  refine ⟨h.numbered, h.latest, fun other record hrecord => ?_⟩
  by_cases hother : other = client
  · subst hother
    simp only [Replicated.set, Function.update_self] at hrecord
    exact hreplica record hrecord
  · simp only [Replicated.set, Function.update_of_ne hother] at hrecord
    exact h.copies other record hrecord

omit [DecidableEq κ] in
lemma Fenced.insert (h : Fenced persistenceId initial history w) (next : S) :
    Fenced persistenceId initial (history ++ [⟨next, history.length + 1⟩])
      ⟨⟨w.store.records.insert persistenceId ⟨next, history.length + 1⟩⟩, w.replica⟩ := by
  refine ⟨Revisions.numbered_append h.numbered rfl, ?_, fun client record hrecord => ?_⟩
  · rw [w.store.load_insert, List.getLast?_append, List.getLast?_singleton, Option.some_or]
  · exact (h.copies client record hrecord).append _

omit [DecidableEq κ] in
lemma Fenced.copy_latest (h : Fenced persistenceId initial history w)
    (hrecord : (w.replica client).record = some record)
    (hexpected : w.store.revisionOf persistenceId = record.revision) :
    Latest initial history record.state := by
  have hlength : record.revision = history.length := hexpected.symm.trans h.revisionOf
  rcases (h.copies client record hrecord).eq_last h.numbered hlength with hlast | hinit
  · exact .inl (congrArg (Option.map StateRecord.state) hlast)
  · exact .inr hinit

lemma Fenced.move {change : Change S} (h : Fenced persistenceId initial history w)
    (hmove : Move persistenceId initial w change w') :
    ∃ history', Extended initial history change history' ∧
      Fenced persistenceId initial history' w' := by
  cases hmove with
  | idle => exact ⟨history, .none, h⟩
  | kept client replica hrecord =>
    exact ⟨history, .none, h.set client replica
      (fun record hr => h.copies client record (hrecord record hr))⟩
  | recovered client record hrecord =>
    refine ⟨history, .none, h.set client _ (fun copy hcopy => ?_)⟩
    cases hcopy
    rcases hrecord with hload | hmissing
    · rw [h.latest, List.getLast?_eq_getElem?] at hload
      exact .inr ⟨_, hload⟩
    · exact .inl hmissing
  | created client next hexpected =>
    have hlength : history.length = Revision.initial := h.revisionOf.symm.trans hexpected
    rw [← hlength]
    refine ⟨_, .created next (List.length_eq_zero_iff.mp hlength),
      (h.insert next).set client _ (fun copy hcopy => ?_)⟩
    cases hcopy
    exact Revisions.authentic_append_self history _
  | written client record next hrecord hexpected =>
    have hlength : record.revision = history.length := hexpected.symm.trans h.revisionOf
    have hlatest := h.copy_latest hrecord hexpected
    rw [hlength]
    refine ⟨_, .replaced record.state next hlatest,
      (h.insert next).set client _ (fun copy hcopy => ?_)⟩
    cases hcopy
    exact Revisions.authentic_append_self history _

lemma exists_latest (history : List (StateRecord S)) (hinitial : initial state) :
    ∃ state, Latest initial history state := by
  cases hlast : history.getLast? with
  | some record => exact ⟨record.state, .inl (congrArg (Option.map StateRecord.state) hlast)⟩
  | none => exact ⟨state, .inr ⟨List.getLast?_eq_none_iff.mp hlast, hinitial⟩⟩

def Throughout (P : S → Prop) (history : List (StateRecord S)) : Prop :=
  ∀ record ∈ history, P record.state

omit [DecidableEq κ] in
lemma Fenced.copy_meets (h : Fenced persistenceId initial history w)
    (hinitial : ∀ state, initial state → P state) (hP : Throughout P history)
    (hrecord : (w.replica client).record = some record) : P record.state := by
  rcases h.copies client record hrecord with ⟨_, hinit⟩ | ⟨k, hk⟩
  · exact hinitial _ hinit
  · exact hP record (List.mem_of_getElem? hk)

lemma Latest.meets (h : Latest initial history state)
    (hinitial : ∀ state, initial state → P state) (hP : Throughout P history) : P state := by
  rcases h with hlast | ⟨_, hinit⟩
  · obtain ⟨record, hrecord, rfl⟩ := Option.map_eq_some_iff.mp hlast
    exact hP record (List.mem_of_getLast? hrecord)
  · exact hinitial state hinit

lemma Throughout.append (h : Throughout P history) {next : S} {revision : ℕ} (hnext : P next) :
    Throughout P (history ++ [⟨next, revision⟩]) :=
  forall_mem_concat h hnext

end
end Replicated
end Rakka.Persistence
