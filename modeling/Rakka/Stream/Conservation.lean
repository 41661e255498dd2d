import Rakka.Stream.Channel

/-! What a stream accepts and what it hands out, whatever calls are made on the clones of its two
ends: an accepted item is handed out in its turn, still waits, or was dropped. -/

namespace Rakka.Stream
open List
variable {T : Type}

/-- What the calls on a stream were told, and the items it dropped. -/
structure Transcript (T : Type) where
  accepted : List T
  delivered : List T
  dropped : List T
  ended : Bool
  shut : Bool
  deriving DecidableEq, Repr

namespace State
variable (state : State T) (transcript : Transcript T)

def pushed (item : T) : State T × Transcript T :=
  match state.tryPush item with
  | .ok after => (after, { transcript with accepted := transcript.accepted ++ [item] })
  | .error _ => (state, transcript)

def popped : State T × Transcript T :=
  match state.popNext with
  | (.item item _, after) =>
    (after, { transcript with delivered := transcript.delivered ++ [item] })
  | (.completed, after) => (after, { transcript with ended := true })
  | (_, after) => (after, transcript)

def shut : Shutdown → State T × Transcript T
  | .drain =>
    match state.startDrain with
    | .ok after => (after, { transcript with shut := true })
    | .error _ => (state, { transcript with shut := true })
  | .close => (state.close,
      { transcript with shut := true, dropped := state.queue ++ transcript.dropped })
  | .cancel reason => (state.cancel (some reason),
      { transcript with shut := true, dropped := state.queue ++ transcript.dropped })

/-- The next section under the lock of a call, if it has one. -/
def locked : Call T → State T × Transcript T
  | .next (.created _) => state.popped transcript
  | .send item (.created _) | .trySend item => state.pushed transcript item
  | .shutdown kind => state.shut transcript kind
  | _ => (state, transcript)

end State

/-- A step that is not enabled is skipped. -/
def Channel.follow (run : Channel T × Transcript T) (action : Action T) :
    Channel T × Transcript T :=
  match run.1.step action with
  | none => run
  | some after =>
    match action with
    | .call _ => (after, run.2)
    | .advance index _ =>
      (after, (run.1.calls[index]?).elim run.2 (fun call => (run.1.state.locked run.2 call).2))

lemma Channel.advance_state {channel after : Channel T} {index waiter : ℕ} {call : Call T}
    (h : channel.advance index waiter = some after) (hcall : channel.calls[index]? = some call)
    (transcript : Transcript T) : after.state = (channel.state.locked transcript call).1 := by
  rw [advance, hcall] at h
  cases call with
  | next phase =>
    cases phase <;> grind [advanceNext, State.locked, State.popped, poll, setCall, setPermit]
  | send item phase =>
    cases phase <;> grind [advanceSend, State.locked, State.pushed, poll, setCall, setPermit]
  | trySend => grind [State.locked, State.pushed, setCall]
  | shutdown kind => cases kind <;> grind [advanceShutdown, State.locked, State.shut, setCall]
  | _ => grind [State.locked, setCall, notifyOne, setPermit, notifyWaiters]

namespace State

/-- Accepted items are handed out, queued or dropped. Nothing is dropped before a close or a cancel,
and all is handed out once a call was told the end. -/
structure Tells (capacity : ℕ) (state : State T) (transcript : Transcript T) : Prop where
  bounded : state.capacity = capacity ∧ state.queue.length ≤ capacity
  items : transcript.accepted = transcript.delivered ++ (state.queue ++ transcript.dropped)
  counted : transcript.dropped.length = state.droppedItems
  stage : match state.lifecycle with
    | .opened => transcript.dropped = [] ∧ transcript.shut = false ∧ transcript.ended = false
    | .draining => transcript.dropped = []
    | .completed => state.queue ++ transcript.dropped = []
    | .closed | .cancelled _ => True
  ended : transcript.ended = true → state.queue ++ transcript.dropped = []

variable {capacity : ℕ} {state : State T} {transcript : Transcript T}

lemma Tells.pushed (h : Tells capacity state transcript) (item : T) :
    Tells capacity (state.pushed transcript item).1 (state.pushed transcript item).2 := by
  obtain ⟨_, lifecycle, queue, _⟩ := state
  rw [State.pushed, tryPush]
  cases lifecycle with
  | opened =>
    dsimp only [sendError]
    split_ifs with hfull
    · exact h
    · obtain ⟨⟨rfl, -⟩, hitems, hcounted, hstage, -⟩ := h
      refine ⟨⟨rfl, ?_⟩, ?_, hcounted, hstage, fun hover => ?_⟩
      · rw [length_append]
        exact not_le.mp hfull
      · simp [hitems, hstage.1]
      · cases hstage.2.2.symm.trans hover
  | _ => exact h

lemma Tells.popped (h : Tells capacity state transcript) :
    Tells capacity (state.popped transcript).1 (state.popped transcript).2 := by
  obtain ⟨_, lifecycle, queue, _⟩ := state
  obtain ⟨⟨rfl, hdepth⟩, hitems, hcounted, hstage, hended⟩ := h
  rw [State.popped, popNext]
  cases queue with
  | cons item rest =>
    have hover : transcript.ended = true → rest ++ transcript.dropped = [] :=
      fun hover => nomatch hended hover
    dsimp only
    split_ifs with hlast
    · obtain ⟨rfl, rfl⟩ := hlast
      exact ⟨⟨rfl, Nat.zero_le _⟩, by simp [hitems], hcounted, hstage, hover⟩
    · refine ⟨⟨rfl, Nat.le_of_succ_le hdepth⟩, by simp [hitems], hcounted, ?_, hover⟩
      cases lifecycle with
      | completed => cases hstage
      | _ => exact hstage
  | nil =>
    cases lifecycle with
    | draining | completed => exact ⟨⟨rfl, hdepth⟩, hitems, hcounted, hstage, fun _ => hstage⟩
    | _ => exact ⟨⟨rfl, hdepth⟩, hitems, hcounted, hstage, hended⟩

lemma Tells.shut (h : Tells capacity state transcript) (kind : Shutdown) :
    Tells capacity (state.shut transcript kind).1 (state.shut transcript kind).2 := by
  obtain ⟨_, lifecycle, queue, _⟩ := state
  obtain ⟨⟨rfl, hdepth⟩, hitems, hcounted, hstage, hended⟩ := h
  cases kind with
  | drain =>
    cases lifecycle with
    | opened =>
      refine ⟨⟨rfl, hdepth⟩, hitems, hcounted, ?_, hended⟩
      dsimp only [State.shut, startDrain]
      split_ifs with hempty
      · rw [hempty, hstage.1, append_nil]
      · exact hstage.1
    | _ => exact ⟨⟨rfl, hdepth⟩, hitems, hcounted, hstage, hended⟩
  | close | cancel =>
    refine ⟨⟨rfl, Nat.zero_le _⟩, hitems, ?_, trivial, hended⟩
    exact length_append.trans (hcounted ▸ Nat.add_comm ..)

end State

namespace Channel

lemma tells_follow {capacity : ℕ} {run : Channel T × Transcript T}
    (h : run.1.state.Tells capacity run.2) (action : Action T) :
    (follow run action).1.state.Tells capacity (follow run action).2 := by
  unfold follow
  cases hstep : run.1.step action with
  | none => exact h
  | some after =>
    cases action with
    | call =>
      cases hstep
      exact h
    | advance index waiter =>
      cases hcall : run.1.calls[index]? with
      | none => simp [step, advance, hcall] at hstep
      | some call =>
        dsimp only
        rw [advance_state hstep hcall run.2, hcall]
        cases call with
        | next phase =>
          cases phase with
          | created => exact h.popped
          | _ => exact h
        | send item phase =>
          cases phase with
          | created => exact h.pushed item
          | _ => exact h
        | trySend item => exact h.pushed item
        | shutdown kind => exact h.shut kind
        | _ => exact h

/-- What was handed out is what was accepted first; the rest waits or was dropped. Once the stream
is shut nothing more is accepted, and its end is told only if all was handed out. -/
theorem accepted_items_kept (capacity : ℕ) (actions : List (Action T)) :
    let run := actions.foldl follow (new capacity, ⟨[], [], [], false, false⟩)
    run.2.delivered <+: run.2.accepted ∧ run.2.accepted.length =
      run.2.delivered.length + run.1.state.queue.length + run.1.state.droppedItems ∧
    run.1.state.queue.length ≤ capacity ∧
    (run.2.shut = true → ∀ item state, run.1.state.tryPush item ≠ .ok state) ∧
    (run.2.ended = true → run.2.delivered = run.2.accepted) := by
  intro run
  have hnew : State.Tells capacity (.new capacity : State T) ⟨[], [], [], false, false⟩ :=
    ⟨⟨rfl, Nat.zero_le _⟩, rfl, rfl, ⟨rfl, rfl, rfl⟩, nofun⟩
  have h : run.1.state.Tells capacity run.2 :=
    foldlRecOn (motive := fun run => run.1.state.Tells capacity run.2) actions follow hnew
      (fun _ h action _ => tells_follow h action)
  refine ⟨?_, ?_, h.bounded.2, fun hshut item state hpush => ?_, fun hended => ?_⟩
  · rw [h.items]
    exact prefix_append _ _
  · rw [h.items, length_append, length_append, h.counted, Nat.add_assoc]
  · have hstage := h.stage
    cases hlifecycle : run.1.state.lifecycle <;>
      simp [State.tryPush, State.sendError, hlifecycle, hshut] at hpush hstage
  · rw [h.items, h.ended hended, append_nil]

end Channel
end Rakka.Stream
