import Rakka.Foundation.OrderedMap
import Rakka.Foundation.Runs
import Rakka.Foundation.Scalars

/-! The public projection of a task and the events applied to it: which of them may let the public
status go back. -/

namespace Rakka.A2A
open Foundation

inductive TaskState where
  | unspecified
  | submitted
  | working
  | completed
  | failed
  | canceled
  | inputRequired
  | rejected
  | authRequired
  deriving DecidableEq, Repr

def TaskState.isTerminal : TaskState → Bool
  | .completed | .failed | .canceled | .rejected => true
  | _ => false

inductive Value where
  | string (value : String)
  | number (value : ℕ)
  | bool (value : Bool)
  deriving DecidableEq, Repr

structure A2ATaskProjection (M A : Type) where
  status : TaskState
  statusTimestamp : ℕ
  history : List M
  artifacts : List A
  metadata : BTreeMap String Value
  projectionRevision : ℕ

inductive A2ATaskEventPayload (M A : Type) where
  | snapshot (task : A2ATaskProjection M A)
  | statusUpdate (state : TaskState)
  | artifactUpdate (artifact : A)
  | messageUpdate (message : M)
  | terminal (state : TaskState)

structure A2ATaskEvent (M A : Type) where
  sequence : ℕ
  occurredAt : ℕ
  payload : A2ATaskEventPayload M A

inductive TaskProjectionError where
  | eventOrder (expected actual : ℕ)
  deriving DecidableEq, Repr

def defaultHistoryLimit : ℕ := 20

def defaultArtifactLimit : ℕ := 20

def capFront {α : Type} (values : List α) (limit : ℕ) : List α := values.drop (values.length - limit)

def statusTransitionAllowed (current next : TaskState) : Bool :=
  if next = current then true
  else if next = .submitted ∧ current ≠ .submitted then false
  else !current.isTerminal || next.isTerminal

variable {M A : Type}

def withRevision (metadata : BTreeMap String Value) (sequence : ℕ) : BTreeMap String Value :=
  metadata.insert "io.rakka.projection.revision" (.number sequence)

def adoptedSnapshot (snapshot : A2ATaskProjection M A) (event : A2ATaskEvent M A) :
    A2ATaskProjection M A :=
  { snapshot with
    statusTimestamp := event.occurredAt
    projectionRevision := event.sequence
    metadata := withRevision snapshot.metadata event.sequence }

namespace A2ATaskProjection
variable (projection : A2ATaskProjection M A) (event : A2ATaskEvent M A)

def applyEvent : Except TaskProjectionError Unit × A2ATaskProjection M A :=
  let expected := saturatingAdd projection.projectionRevision 1
  if event.sequence ≠ expected then (.error (.eventOrder expected event.sequence), projection)
  else
    let advanced := { projection with
      statusTimestamp := max projection.statusTimestamp event.occurredAt
      projectionRevision := event.sequence
      metadata := withRevision projection.metadata event.sequence }
    (.ok (), match event.payload with
      | .snapshot task =>
        let adopted := adoptedSnapshot task event
        { adopted with statusTimestamp := max adopted.statusTimestamp advanced.statusTimestamp }
      | .statusUpdate state | .terminal state =>
        if statusTransitionAllowed advanced.status state then { advanced with status := state }
        else advanced
      | .artifactUpdate artifact => { advanced with
          artifacts := capFront (advanced.artifacts ++ [artifact]) defaultArtifactLimit }
      | .messageUpdate message => { advanced with
          history := capFront (advanced.history ++ [message]) defaultHistoryLimit })

def step (event : A2ATaskEvent M A) : A2ATaskProjection M A := (projection.applyEvent event).2

/-- A snapshot keeps to the rule for status updates, though nothing checks that. -/
def keepsStatus (event : A2ATaskEvent M A) : Bool :=
  match event.payload with
  | .snapshot task => statusTransitionAllowed projection.status task.status
  | _ => true

/-- The public status does not go back, and neither does its time. -/
structure Follows (earlier later : A2ATaskProjection M A) : Prop where
  terminal : earlier.status.isTerminal = true → later.status.isTerminal = true
  submitted : earlier.status ≠ .submitted → later.status ≠ .submitted
  timestamp : earlier.statusTimestamp ≤ later.statusTimestamp

variable {projection event}

lemma Follows.of_allowed {next : A2ATaskProjection M A}
    (h : statusTransitionAllowed projection.status next.status = true)
    (htime : projection.statusTimestamp ≤ next.statusTimestamp) : Follows projection next := by
  refine ⟨fun hterminal => ?_, fun hleft hback => ?_, htime⟩ <;>
    simp only [statusTransitionAllowed] at h <;> split_ifs at h with hsame hfloor
  · rw [hsame]
    exact hterminal
  · simpa [hterminal] using h
  · exact hleft (hsame ▸ hback)
  · exact hfloor ⟨hback, hleft⟩

lemma Follows.step (hkeeps : projection.keepsStatus event = true) :
    Follows projection (projection.step event) := by
  have hsame : statusTransitionAllowed projection.status projection.status = true := if_pos rfl
  unfold A2ATaskProjection.step applyEvent
  dsimp only
  split_ifs
  · exact .of_allowed hsame le_rfl
  · cases hpayload : event.payload with
    | snapshot task =>
      rw [keepsStatus, hpayload] at hkeeps
      exact .of_allowed hkeeps ((le_max_left _ _).trans (le_max_right _ _))
    | statusUpdate state | terminal state =>
      dsimp only
      split_ifs with hallowed
      · exact .of_allowed hallowed (le_max_left _ _)
      · exact .of_allowed hsame (le_max_left _ _)
    | artifactUpdate | messageUpdate => exact .of_allowed hsame (le_max_left _ _)

def task (status : TaskState) (projectionRevision : ℕ) : A2ATaskProjection Unit Unit :=
  ⟨status, 0, [], [], ∅, projectionRevision⟩

end A2ATaskProjection
end Rakka.A2A
