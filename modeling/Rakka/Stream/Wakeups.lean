import Rakka.Foundation.Counting
import Rakka.Foundation.Runs
import Rakka.Stream.Channel

/-! Which wake-ups of a bounded stream can be lost. What a side waits for (items for readers,
room for writers) is weighed against the notifications that are owed to it and the calls that
are on their way to look. -/

namespace Rakka.Stream
open Foundation Call List
variable {T : Type}

/-- What a call is for a side: waiting, about to look at the state, or owing it a notification. -/
inductive Role where
  | suspended
  | refused
  | unflagged
  | onTheWay
  | owes
  | owesAll
  deriving DecidableEq

lemma Role.each {P : Role → Prop} (h : ∀ role, P role) :
    P .suspended ∧ P .refused ∧ P .unflagged ∧ P .onTheWay ∧ P .owes ∧ P .owesAll :=
  ⟨h _, h _, h _, h _, h _, h _⟩

def WaitPhase.plays : WaitPhase → Role → Bool
  | .start, .onTheWay | .created _, .onTheWay => true
  | .refused _, .refused | .refused false, .unflagged => true
  | .suspended, .suspended => true
  | _, _ => false

def Call.plays (side : Side) (role : Role) : Call T → Bool
  | .next phase =>
    match side with
    | .readers => phase.plays role
    | .writers => false
  | .send _ phase =>
    match side with
    | .readers => false
    | .writers => phase.plays role
  | .notifyReadable =>
    match side, role with
    | .readers, .owes => true
    | _, _ => false
  | .notifyWritable _ =>
    match side, role with
    | .writers, .owes => true
    | _, _ => false
  | .notifyAllReadable =>
    match role with
    | .owesAll => true
    | _ => false
  | .notifyAllWritable =>
    match side, role with
    | .writers, .owesAll => true
    | _, _ => false
  | .trySend _ | .shutdown _ | .done => false

def Lifecycle.isOpen : Lifecycle → Bool
  | .opened => true
  | _ => false

namespace Channel
variable {state : State T} {channel after : Channel T} {side : Side} {index : ℕ} {old : Call T}
  {item : T}

def count (channel : Channel T) (side : Side) (role : Role) : ℕ :=
  channel.calls.countP (plays side role)

def supply (channel : Channel T) : Side → ℕ
  | .readers => channel.state.queue.length
  | .writers => channel.state.capacity - channel.state.queue.length

/-- A stored permit excludes suspended calls. While the stream is open, what a waiting side waits
for is covered by the permit, by notifications owed or by calls about to look. Later, all are still
to be notified. -/
structure Covered (channel : Channel T) (side : Side) : Prop where
  exclusive : (channel.permit side).toNat = 0 ∨ channel.count side .suspended = 0
  supplied : channel.state.lifecycle.isOpen.toNat = 0 ∨
    channel.count side .suspended + channel.count side .refused = 0 ∨
    (channel.permit side).toNat = 1 ∨
    channel.supply side ≤ channel.count side .owes + channel.count side .onTheWay
  shut : channel.state.lifecycle.isOpen.toNat = 1 ∨
    channel.count side .suspended + channel.count side .unflagged = 0 ∨
    0 < channel.count side .owesAll

/-- At most one call of each side looked in vain and was not polled yet. -/
def Uncrowded (channel : Channel T) : Prop :=
  channel.count .readers .refused ≤ 1 ∧ channel.count .writers .refused ≤ 1

instance (channel : Channel T) : Decidable channel.Uncrowded :=
  inferInstanceAs (Decidable (_ ∧ _))

lemma covered_new (capacity : ℕ) (side : Side) : Covered (new capacity : Channel T) side :=
  ⟨.inr rfl, .inr (.inl rfl), .inr (.inl rfl)⟩

variable (channel)

lemma count_setCall (new : Call T) (h : channel.calls[index]? = some old) (side : Side)
    (role : Role) : (channel.setCall index new).count side role + (old.plays side role).toNat =
      channel.count side role + (new.plays side role).toNat :=
  countP_set_add _ new h

@[simp] lemma setCall_state (index : ℕ) (call : Call T) :
    (channel.setCall index call).state = channel.state := rfl

@[simp] lemma setCall_permit (index : ℕ) (call : Call T) (side : Side) :
    (channel.setCall index call).permit side = channel.permit side := by
  cases side <;> rfl

@[simp] lemma setCall_supply (index : ℕ) (call : Call T) (side : Side) :
    (channel.setCall index call).supply side = channel.supply side := by
  cases side <;> rfl

@[simp] lemma setPermit_state (side : Side) (permit : Bool) :
    (channel.setPermit side permit).state = channel.state := by
  cases side <;> rfl

@[simp] lemma setPermit_calls (side : Side) (permit : Bool) :
    (channel.setPermit side permit).calls = channel.calls := by
  cases side <;> rfl

@[simp] lemma setPermit_permit (side : Side) (permit : Bool) :
    (channel.setPermit side permit).permit side = permit := by
  cases side <;> rfl

variable {channel}

lemma setPermit_call {other : Side} {permit : Bool} (h : channel.calls[index]? = some old) :
    (channel.setPermit other permit).calls[index]? = some old := by
  rw [setPermit_calls]
  exact h

lemma withState_permit (channel : Channel T) (state : State T) (side : Side) :
    Channel.permit { channel with state := state } side = channel.permit side := by
  cases side <;> rfl

lemma setPermit_permit_of_ne (channel : Channel T) {other : Side} (hother : side ≠ other)
    (permit : Bool) : (channel.setPermit other permit).permit side = channel.permit side := by
  cases side <;> cases other <;> first | rfl | exact (hother rfl).elim

lemma supply_of_state (h : after.state = channel.state) (side : Side) :
    after.supply side = channel.supply side := by
  cases side <;> simp only [supply, h]

lemma count_of_calls (h : after.calls = channel.calls) (side : Side) (role : Role) :
    after.count side role = channel.count side role := by
  rw [count, count, h]

lemma unflagged_le_refused (channel : Channel T) (side : Side) :
    channel.count side .unflagged ≤ channel.count side .refused := by
  refine countP_mono_left (fun call _ hplays => ?_)
  cases side <;> cases call <;> grind [plays, WaitPhase.plays]

section Notify
variable {waiter : ℕ} {call : Call T} {other : Side}

lemma notifyOne_cases (h : channel.notifyOne side waiter = some after) :
    (∃ call, channel.calls[waiter]? = some call ∧ call.isSuspended side = true ∧
      after = channel.setCall waiter call.resume) ∨
    (channel.calls.any (isSuspended side) = false ∧ after = channel.setPermit side true) := by
  grind [notifyOne]

lemma plays_suspended (side : Side) (call : Call T) :
    call.plays side .suspended = call.isSuspended side := by
  cases side <;> cases call <;> grind [plays, WaitPhase.plays, isSuspended, waits]

lemma plays_of_suspended (h : call.isSuspended side = true) (role : Role) :
    call.plays side role = WaitPhase.suspended.plays role ∧
      call.resume.plays side role = WaitPhase.start.plays role := by
  cases side <;> cases call <;> grind [plays, isSuspended, waits, resume]

lemma resume_of_suspended (h : call.isSuspended side = true) (hother : other ≠ side) (role : Role)
    : call.resume.plays other role = call.plays other role := by
  cases side <;> cases other <;> cases call <;>
    grind [plays, isSuspended, waits, resume]

lemma getElem?_resumed (hwaiter : channel.calls[waiter]? = some call)
    (hsuspended : call.isSuspended side = true) (hcall : channel.calls[index]? = some old)
    (hwaiting : old.isSuspended side = false) :
    (channel.setCall waiter call.resume).calls[index]? = some old := by
  have hne : waiter ≠ index := by
    rintro rfl
    obtain rfl : call = old := Option.some.inj (hwaiter.symm.trans hcall)
    rw [hsuspended] at hwaiting
    cases hwaiting
  rw [setCall, List.getElem?_set_ne hne]
  exact hcall

lemma counts_notifyWaiters (channel : Channel T) (side : Side) :
    (channel.notifyWaiters side).count side .suspended = 0 ∧
    (channel.notifyWaiters side).count side .refused = channel.count side .refused ∧
    (channel.notifyWaiters side).count side .unflagged = 0 ∧
    (channel.notifyWaiters side).count side .onTheWay =
      channel.count side .onTheWay + channel.count side .suspended ∧
    (channel.notifyWaiters side).count side .owes = channel.count side .owes ∧
    (channel.notifyWaiters side).count side .owesAll = channel.count side .owesAll := by
  have hcount : ∀ role, (channel.notifyWaiters side).count side role =
      channel.calls.countP (fun call => (wake side call).plays side role) := by
    intro role
    rw [count, notifyWaiters, countP_map]
    rfl
  have hwake : ∀ call : Call T,
      (call.wake side).plays side .suspended = false ∧
      (call.wake side).plays side .refused = call.plays side .refused ∧
      (call.wake side).plays side .unflagged = false ∧
      ((call.wake side).plays side .onTheWay).toNat =
        (call.plays side .onTheWay).toNat + (call.plays side .suspended).toNat ∧
      (call.wake side).plays side .owes = call.plays side .owes ∧
      (call.wake side).plays side .owesAll = call.plays side .owesAll := by
    intro call
    cases side <;> cases call <;> first
      | exact ⟨rfl, rfl, rfl, rfl, rfl, rfl⟩
      | (rename_i phase; cases phase <;> exact ⟨rfl, rfl, rfl, rfl, rfl, rfl⟩)
  refine ⟨?_, ?_, ?_, ?_, ?_, ?_⟩
  · rw [hcount, countP_eq_zero]
    exact fun call _ => Bool.eq_false_iff.mp (hwake call).1
  · rw [hcount, count]
    exact countP_congr (fun call _ => by rw [(hwake call).2.1])
  · rw [hcount, countP_eq_zero]
    exact fun call _ => Bool.eq_false_iff.mp (hwake call).2.2.1
  · rw [hcount]
    exact countP_split _ (fun call => (hwake call).2.2.2.1)
  · rw [hcount, count]
    exact countP_congr (fun call _ => by rw [(hwake call).2.2.2.2.1])
  · rw [hcount, count]
    exact countP_congr (fun call _ => by rw [(hwake call).2.2.2.2.2])

lemma wake_other (hother : other ≠ side) (role : Role) (call : Call T) :
    (call.wake side).plays other role = call.plays other role := by
  cases side <;> cases other <;> cases call <;> first
    | exact (hother rfl).elim
    | rfl
    | (rename_i phase; cases phase <;> rfl)

end Notify

/-! What the sections under the lock do to the supply of the two sides. -/

lemma tryPush_ok {after : State T} (h : state.tryPush item = .ok after) :
    after.lifecycle = state.lifecycle ∧ after.capacity = state.capacity ∧
      after.queue.length = state.queue.length + 1 ∧ state.queue.length < state.capacity := by
  grind [State.tryPush]

lemma tryPush_full {capacity : ℕ} (h : state.tryPush item = .error (.full capacity)) :
    state.lifecycle.isOpen = true ∧ state.capacity ≤ state.queue.length := by
  grind [State.tryPush, State.sendError, Lifecycle.isOpen]

lemma tryPush_error {error : StreamError} (h : state.tryPush item = .error error)
    (hfull : ∀ capacity, error ≠ .full capacity) : state.lifecycle.isOpen = false := by
  grind [State.tryPush, State.sendError, Lifecycle.isOpen]

lemma popNext_item {completedDrain : Bool} (h : state.popNext.1 = .item item completedDrain) :
    state.popNext.2.lifecycle.isOpen = state.lifecycle.isOpen ∧
      state.popNext.2.capacity = state.capacity ∧
      state.popNext.2.queue.length + 1 = state.queue.length := by
  grind [State.popNext, Lifecycle.isOpen]

lemma popNext_pending (h : state.popNext.1 = .pending) :
    state.popNext.2 = state ∧ state.lifecycle.isOpen = true ∧ state.queue = [] := by
  grind [State.popNext, Lifecycle.isOpen]

def NextItem.isEnd : NextItem T → Bool
  | .item _ _ | .pending => false
  | .completed | .closed | .cancelled _ => true

lemma popNext_ended (h : NextItem.isEnd state.popNext.1 = true) :
    state.popNext.2.lifecycle.isOpen = false ∧ state.lifecycle.isOpen = false := by
  grind [State.popNext, Lifecycle.isOpen, NextItem.isEnd]

lemma startDrain_ok {after : State T} (h : state.startDrain = .ok after) :
    after.lifecycle.isOpen = false := by
  grind [State.startDrain, Lifecycle.isOpen]

lemma created_plays (side : Side) (flagged : Bool) (role : Role) (hne : role ≠ .onTheWay) :
    (next (.created flagged) : Call T).plays side role = false := by
  cases side <;> cases role <;> first | rfl | exact (hne rfl).elim

section Step
variable (h : Covered channel side)
include h

lemma Covered.congr (hpermit : after.permit side = channel.permit side)
    (hstate : after.state = channel.state)
    (hcount : ∀ role, after.count side role = channel.count side role) : Covered after side := by
  have hsupply := supply_of_state hstate side
  refine ⟨?_, ?_, ?_⟩
  · rw [hpermit, hcount]
    exact h.exclusive
  · rw [hpermit, hsupply, hstate, hcount, hcount, hcount, hcount]
    exact h.supplied
  · rw [hstate, hcount, hcount, hcount]
    exact h.shut

lemma notifyWaiters_covered (other : Side) : Covered (channel.notifyWaiters other) side := by
  by_cases hother : side = other
  · subst hother
    obtain ⟨hs, hu, hf, hg, ho, ha⟩ := channel.counts_notifyWaiters side
    obtain ⟨hexclusive, hsupplied, hshut⟩ := h
    have hpermit : (channel.notifyWaiters side).permit side = channel.permit side := by
      cases side <;> rfl
    have hstate : (channel.notifyWaiters side).state = channel.state := rfl
    refine ⟨.inr hs, ?_, .inr (.inl (by omega))⟩
    rw [hpermit, supply_of_state hstate, hstate]
    omega
  · refine h.congr (by cases side <;> rfl) rfl (fun role => ?_)
    rw [count, count, notifyWaiters, countP_map]
    exact countP_congr (fun call _ => by rw [Function.comp_apply, wake_other hother])

lemma Covered.call (request : Request T) :
    Covered { channel with calls := channel.calls ++ [request.call] } side := by
  have hcount : ∀ role, Channel.count { channel with calls := channel.calls ++ [request.call] }
      side role = channel.count side role + (request.call.plays side role).toNat := by
    intro role
    rw [count, count, countP_append, countP_singleton]
    cases request.call.plays side role <;> rfl
  have hrole : ∀ role, role ≠ .onTheWay → request.call.plays side role = false := by
    intro role hne
    cases side <;> cases request <;> cases role <;> first | rfl | exact (hne rfl).elim
  have hpermit : Channel.permit { channel with calls := channel.calls ++ [request.call] } side =
      channel.permit side := by
    cases side <;> rfl
  have hsupply : Channel.supply { channel with calls := channel.calls ++ [request.call] } side =
      channel.supply side := by
    cases side <;> rfl
  obtain ⟨hs, hu, hf, hg, ho, ha⟩ := Role.each hcount
  rw [hrole _ (by decide)] at hs hu hf ho ha
  rw [Bool.toNat_false] at hs hu hf ho ha
  obtain ⟨hexclusive, hsupplied, hshut⟩ := h
  refine ⟨?_, ?_, ?_⟩
  · rw [hpermit]
    omega
  · rw [hpermit, hsupply]
    dsimp only
    omega
  · dsimp only
    omega

section Moved
variable (hcall : channel.calls[index]? = some old) {new : Call T} {other : Side} {flagged : Bool}
  {waiter : ℕ}
include hcall

/-- The side stays covered by a move of one call that keeps its part in waiting, if the supply does
not outgrow what is owed and on the way, or the stream is not open. -/
theorem Covered.move (hsuspended : new.plays side .suspended = old.plays side .suspended)
    (hrefused : new.plays side .refused = old.plays side .refused)
    (hunflagged : new.plays side .unflagged = old.plays side .unflagged)
    (hopen : state.lifecycle.isOpen = channel.state.lifecycle.isOpen)
    (howesAll : (old.plays side .owesAll).toNat ≤ (new.plays side .owesAll).toNat)
    (hsupply : state.lifecycle.isOpen = false ∨
      Channel.supply { channel with state := state } side + (old.plays side .owes).toNat +
          (old.plays side .onTheWay).toNat ≤
        channel.supply side + (new.plays side .owes).toNat + (new.plays side .onTheWay).toNat) :
    Covered (Channel.setCall { channel with state := state } index new) side := by
  obtain ⟨hs, hu, hf, hg, ho, ha⟩ :=
    Role.each (Channel.count_setCall { channel with state := state } new hcall side)
  rw [hsuspended] at hs
  rw [hrefused] at hu
  rw [hunflagged] at hf
  have hcount : ∀ role, Channel.count { channel with state := state } side role =
      channel.count side role := fun _ => rfl
  rw [hcount] at hs hu hf hg ho ha
  obtain ⟨hexclusive, hsupplied, hshut⟩ := h
  rw [hopen] at hsupply
  have hsupply' : channel.state.lifecycle.isOpen.toNat = 0 ∨ _ :=
    hsupply.imp_left (fun hclosed => by rw [hclosed]; rfl)
  refine ⟨?_, ?_, ?_⟩ <;>
    simp only [setCall_permit, setCall_supply, setCall_state, withState_permit, hopen] <;> omega

lemma Covered.idle (hsame : ∀ role, new.plays side role = old.plays side role) :
    Covered (channel.setCall index new) side :=
  h.move hcall (hsame .suspended) (hsame .refused) (hsame .unflagged) rfl
    (le_of_eq (congrArg Bool.toNat (hsame .owesAll).symm))
    (.inr (by rw [hsame .owes, hsame .onTheWay]))

lemma Covered.refuse (hold : ∀ role, old.plays side role = (WaitPhase.created flagged).plays role)
    (hnew : ∀ role, new.plays side role = (WaitPhase.refused flagged).plays role)
    (hopen : channel.state.lifecycle.isOpen = true) (hsupply : channel.supply side = 0) :
    Covered (channel.setCall index new) side := by
  obtain ⟨hs, hu, hf, hg, ho, ha⟩ := Role.each (channel.count_setCall new hcall side)
  rw [hold, hnew] at hs hu hf hg ho ha
  simp only [WaitPhase.plays, Bool.toNat_false, Bool.toNat_true] at hs hu hg ho ha
  obtain ⟨hexclusive, hsupplied, hshut⟩ := h
  have hlive : channel.state.lifecycle.isOpen.toNat = 1 := by
    rw [hopen]
    rfl
  refine ⟨?_, ?_, .inl hlive⟩ <;> simp only [setCall_permit, setCall_supply, setCall_state] <;>
    omega

theorem Covered.takePermit
    (hold : ∀ role, old.plays side role = (WaitPhase.refused flagged).plays role)
    (hnew : ∀ role, new.plays side role = WaitPhase.start.plays role)
    (hpermit : channel.permit side = true) (halone : channel.count side .refused ≤ 1) :
    Covered ((channel.setPermit side false).setCall index new) side := by
  obtain ⟨hs, hu, hf, hg, ho, ha⟩ :=
    Role.each ((channel.setPermit side false).count_setCall new (setPermit_call hcall) side)
  rw [hold, hnew, count_of_calls (setPermit_calls ..)] at hs hu hf hg ho ha
  simp only [WaitPhase.plays, Bool.toNat_false, Bool.toNat_true] at hs hu hg ho ha
  obtain ⟨hexclusive, hsupplied, hshut⟩ := h
  rw [hpermit, Bool.toNat_true] at hexclusive
  have hflag := unflagged_le_refused ((channel.setPermit side false).setCall index new) side
  refine ⟨.inl ?_, .inr (.inl (by omega)), .inr (.inl (by omega))⟩
  rw [setCall_permit, setPermit_permit]
  rfl

lemma Covered.polled (hold : ∀ role, old.plays side role = (WaitPhase.refused flagged).plays role)
    (hnew : ∀ role, new.plays side role =
      (if flagged then WaitPhase.start else WaitPhase.suspended).plays role)
    (hpermit : channel.permit side = false) : Covered (channel.setCall index new) side := by
  obtain ⟨hs, hu, hf, hg, ho, ha⟩ := Role.each (channel.count_setCall new hcall side)
  rw [hold, hnew] at hs hu hf hg ho ha
  obtain ⟨hexclusive, hsupplied, hshut⟩ := h
  have hnone : (channel.permit side).toNat = 0 := congrArg Bool.toNat hpermit
  cases flagged <;>
    simp only [if_true, Bool.false_eq_true, if_false, WaitPhase.plays, Bool.toNat_false,
      Bool.toNat_true] at hs hu hf hg ho ha <;>
    refine ⟨?_, ?_, ?_⟩ <;> simp only [setCall_permit, setCall_supply, setCall_state] <;> omega

theorem Covered.notifyOne (hnotify : channel.notifyOne side waiter = some after)
    (howes : old.plays side .owes = true)
    (hold : ∀ role, role ≠ .owes → old.plays side role = false)
    (hnew : ∀ role, role ≠ .owesAll → new.plays side role = false) :
    Covered (after.setCall index new) side := by
  obtain ⟨hexclusive, hsupplied, hshut⟩ := h
  have hnone : old.plays side .suspended = false := hold .suspended (by decide)
  have hold' := fun role hne => congrArg Bool.toNat (hold role hne)
  have hnew' := fun role hne => congrArg Bool.toNat (hnew role hne)
  rcases notifyOne_cases hnotify with ⟨call, hwaiter, hsuspended, rfl⟩ | ⟨hany, rfl⟩
  · have hcall' := getElem?_resumed hwaiter hsuspended hcall (plays_suspended side old ▸ hnone)
    obtain ⟨hs, hu, hf, hg, ho, ha⟩ := Role.each (channel.count_setCall call.resume hwaiter side)
    obtain ⟨hs', hu', hf', hg', ho', ha'⟩ :=
      Role.each ((channel.setCall waiter call.resume).count_setCall new hcall' side)
    simp only [(plays_of_suspended hsuspended _).1, (plays_of_suspended hsuspended _).2,
      WaitPhase.plays, Bool.toNat_false, Bool.toNat_true] at hs hu hf hg ho ha
    simp only [howes, hold', hnew', ne_eq, reduceCtorEq, not_false_eq_true, Bool.toNat_false,
      Bool.toNat_true] at hs' hu' hf' hg' ho' ha'
    refine ⟨?_, ?_, ?_⟩ <;> simp only [setCall_permit, setCall_supply, setCall_state] <;> omega
  · have hzero : channel.count side .suspended = 0 := by
      refine countP_eq_zero.mpr (fun call hmem => ?_)
      rw [plays_suspended]
      exact any_eq_false.mp hany call hmem
    obtain ⟨hs, -, hf, -, -, ha⟩ :=
      Role.each ((channel.setPermit side true).count_setCall new (setPermit_call hcall) side)
    simp only [count_of_calls (setPermit_calls ..), hold', hnew', ne_eq, reduceCtorEq,
      not_false_eq_true, Bool.toNat_false] at hs hf ha
    refine ⟨?_, .inr (.inr (.inl ?_)), ?_⟩ <;>
      simp only [setCall_permit, setPermit_permit, setCall_state, setPermit_state,
        Bool.toNat_true] <;> omega

lemma Covered.notifyOther (hother : side ≠ other)
    (hnotify : channel.notifyOne other waiter = some after) (hwaiting : old.isSuspended other = false)
    (hsame : ∀ role, role ≠ .owesAll → new.plays side role = old.plays side role)
    (howesAll : (old.plays side .owesAll).toNat ≤ (new.plays side .owesAll).toNat) :
    Covered (after.setCall index new) side := by
  have hafter : Covered after side ∧ after.calls[index]? = some old := by
    rcases notifyOne_cases hnotify with ⟨call, hwaiter, hsuspended, rfl⟩ | ⟨-, rfl⟩
    · exact ⟨h.idle hwaiter (resume_of_suspended hsuspended hother),
        getElem?_resumed hwaiter hsuspended hcall hwaiting⟩
    · exact ⟨h.congr (channel.setPermit_permit_of_ne hother true) (setPermit_state ..)
        (count_of_calls (setPermit_calls ..) side), setPermit_call hcall⟩
  exact hafter.1.move hafter.2 (hsame .suspended (by decide)) (hsame .refused (by decide))
    (hsame .unflagged (by decide)) rfl howesAll
    (.inr (by rw [hsame .owes (by decide), hsame .onTheWay (by decide)]))

lemma notifyWaiters_done (hwake : old.wake side = old)
    (hsame : ∀ role, role ≠ .owesAll → new.plays side role = old.plays side role) :
    Covered ((channel.notifyWaiters side).setCall index new) side := by
  have hcall' : (channel.notifyWaiters side).calls[index]? = some old := by
    rw [notifyWaiters, List.getElem?_map, hcall, Option.map_some, hwake]
  obtain ⟨hs, -, hf, -, -, -⟩ := channel.counts_notifyWaiters side
  obtain ⟨hs', hu', hf', hg', ho', -⟩ :=
    Role.each ((channel.notifyWaiters side).count_setCall new hcall' side)
  rw [hsame .suspended (by decide)] at hs'
  rw [hsame .refused (by decide)] at hu'
  rw [hsame .unflagged (by decide)] at hf'
  rw [hsame .onTheWay (by decide)] at hg'
  rw [hsame .owes (by decide)] at ho'
  obtain ⟨hexclusive, hsupplied, hshut⟩ := notifyWaiters_covered h side
  refine ⟨.inr (by omega), ?_, .inr (.inl (by omega))⟩
  rw [setCall_permit, setCall_supply, setCall_state]
  omega

theorem Covered.pushed (hpush : channel.state.tryPush item = .ok state)
    (hreaders : ∀ role, old.plays .readers role = false)
    (hwriters : ∀ role, role ≠ .onTheWay → old.plays .writers role = false) :
    Covered (Channel.setCall { channel with state := state } index .notifyReadable) side := by
  obtain ⟨hlifecycle, hcapacity, hlength, hroom⟩ := tryPush_ok hpush
  cases side with
  | readers =>
    refine h.move hcall (hreaders _).symm (hreaders _).symm (hreaders _).symm
      (by rw [hlifecycle]) (by rw [hreaders]; exact Nat.zero_le _) (.inr ?_)
    rw [hreaders, hreaders]
    simp only [supply, plays, Bool.toNat_false, Bool.toNat_true]
    omega
  | writers =>
    refine h.move hcall (hwriters _ (by decide)).symm (hwriters _ (by decide)).symm
      (hwriters _ (by decide)).symm (by rw [hlifecycle])
      (by rw [hwriters _ (by decide)]; exact Nat.zero_le _) (.inr ?_)
    rw [hwriters .owes (by decide)]
    have hone := (old.plays .writers .onTheWay).toNat_le
    have hnew : (notifyReadable : Call T).plays .writers .owes = false ∧
        (notifyReadable : Call T).plays .writers .onTheWay = false := ⟨rfl, rfl⟩
    rw [hnew.1, hnew.2]
    simp only [supply, Bool.toNat_false, hcapacity]
    omega

lemma Covered.ended (hold : ∀ role, role ≠ .onTheWay → old.plays side role = false)
    (hbefore : channel.state.lifecycle.isOpen = false) (hafter : state.lifecycle.isOpen = false) :
    Covered (Channel.setCall { channel with state := state } index .done) side :=
  h.move hcall (hold _ (by decide)).symm (hold _ (by decide)).symm (hold _ (by decide)).symm
    (hafter.trans hbefore.symm) (by rw [hold _ (by decide)]; exact Nat.zero_le _) (.inl hafter)

lemma Covered.poll (halone : channel.count side .refused ≤ 1)
    (hold : ∀ role, old.plays side role = (WaitPhase.refused flagged).plays role)
    {new : WaitPhase → Call T} (hnew : ∀ phase role, (new phase).plays side role = phase.plays role)
    : Covered ((channel.poll side flagged).2.setCall index (new (channel.poll side flagged).1))
      side := by
  rw [Channel.poll]
  split_ifs with hpermit hflagged
  · exact h.takePermit hcall hold (hnew _) hpermit halone
  · subst hflagged
    exact h.polled hcall hold (fun role => by rw [hnew]; rfl) (Bool.eq_false_iff.mpr hpermit)
  · obtain rfl : flagged = false := Bool.eq_false_iff.mpr hflagged
    exact h.polled hcall hold (fun role => by rw [hnew]; rfl) (Bool.eq_false_iff.mpr hpermit)

lemma Covered.pollOther (hother : side ≠ other) {new : WaitPhase → Call T}
    (hsame : ∀ phase role, (new phase).plays side role = old.plays side role) :
    Covered ((channel.poll other flagged).2.setCall index (new (channel.poll other flagged).1))
      side := by
  have hpermit : Covered (channel.setPermit other false) side :=
    h.congr (channel.setPermit_permit_of_ne hother false) (setPermit_state ..)
      (count_of_calls (setPermit_calls ..) side)
  rw [Channel.poll]
  split_ifs
  · exact hpermit.idle (setPermit_call hcall) (hsame _)
  · exact h.idle hcall (hsame _)
  · exact h.idle hcall (hsame _)

end Moved

lemma Covered.shutdown {kind : Shutdown} (hcall : channel.calls[index]? = some (.shutdown kind))
    (hclosed : state.lifecycle.isOpen = false) :
    Covered (Channel.setCall { channel with state := state } index .notifyAllReadable) side := by
  obtain ⟨hs, -, -, -, -, ha⟩ :=
    Role.each (Channel.count_setCall { channel with state := state } .notifyAllReadable hcall side)
  have hcount : ∀ role, Channel.count { channel with state := state } side role =
      channel.count side role := fun _ => rfl
  rw [hcount] at hs ha
  simp only [plays, Bool.toNat_false, Bool.toNat_true] at hs ha
  have hexclusive := h.exclusive
  refine ⟨?_, .inl ?_, .inr (.inr (by omega))⟩
  · rw [setCall_permit, withState_permit]
    omega
  · rw [setCall_state, hclosed]
    rfl

lemma Covered.advanceNext {phase : WaitPhase} (halone : channel.count .readers .refused ≤ 1)
    (hcall : channel.calls[index]? = some (.next phase))
    (hstep : channel.advanceNext index phase = some after) : Covered after side := by
  cases phase with
  | suspended => cases hstep
  | start =>
    cases hstep
    refine h.idle hcall (fun role => ?_)
    cases side <;> cases role <;> rfl
  | created flagged =>
    simp only [Channel.advanceNext] at hstep
    cases hpopped : channel.state.popNext.1 with
    | item =>
      rw [hpopped] at hstep
      cases hstep
      obtain ⟨hopen, hcapacity, hlength⟩ := popNext_item hpopped
      cases side with
      | readers =>
        refine h.move hcall rfl rfl rfl hopen le_rfl (.inr ?_)
        simp only [supply, plays, WaitPhase.plays, Bool.toNat_false, Bool.toNat_true]
        omega
      | writers =>
        refine h.move hcall rfl rfl rfl hopen le_rfl (.inr ?_)
        simp only [supply, plays, Bool.toNat_false, Bool.toNat_true, hcapacity]
        omega
    | pending =>
      rw [hpopped] at hstep
      cases hstep
      obtain ⟨hsame, hopen, hempty⟩ := popNext_pending hpopped
      rw [hsame]
      cases side with
      | readers =>
        exact h.refuse hcall (fun _ => rfl) (fun _ => rfl) hopen (by rw [supply, hempty]; rfl)
      | writers => exact h.idle hcall (fun _ => rfl)
    | _ =>
      have hended := popNext_ended (by rw [hpopped]; rfl)
      rw [hpopped] at hstep
      cases hstep
      exact h.ended hcall (created_plays side flagged) hended.2 hended.1
  | refused =>
    cases hstep
    cases side with
    | readers => exact h.poll hcall halone (fun _ => rfl) (fun _ _ => rfl)
    | writers => exact h.pollOther hcall (by decide) (fun _ _ => rfl)

lemma Covered.advanceSend {phase : WaitPhase} (halone : channel.count .writers .refused ≤ 1)
    (hcall : channel.calls[index]? = some (.send item phase))
    (hstep : channel.advanceSend index item phase = some after) : Covered after side := by
  cases phase with
  | suspended => cases hstep
  | start =>
    cases hstep
    refine h.idle hcall (fun role => ?_)
    cases side <;> cases role <;> rfl
  | created flagged =>
    have hwriters : ∀ role, role ≠ .onTheWay →
        (send item (.created flagged)).plays .writers role = false := by
      intro role hne
      cases role <;> first | rfl | exact (hne rfl).elim
    simp only [Channel.advanceSend] at hstep
    cases hpush : channel.state.tryPush item with
    | ok =>
      rw [hpush] at hstep
      cases hstep
      exact h.pushed hcall hpush (fun _ => rfl) hwriters
    | error error =>
      rw [hpush] at hstep
      cases error with
      | full =>
        cases hstep
        obtain ⟨hopen, hfull⟩ := tryPush_full hpush
        cases side with
        | readers => exact h.idle hcall (fun _ => rfl)
        | writers =>
          refine h.refuse hcall (fun _ => rfl) (fun _ => rfl) hopen ?_
          rw [supply]
          omega
      | _ =>
        cases hstep
        have hclosed := tryPush_error hpush (fun _ => StreamError.noConfusion)
        cases side with
        | readers => exact h.idle hcall (fun _ => rfl)
        | writers => exact h.ended hcall hwriters hclosed hclosed
  | refused =>
    cases hstep
    cases side with
    | readers => exact h.pollOther hcall (by decide) (fun _ _ => rfl)
    | writers => exact h.poll hcall halone (fun _ => rfl) (fun _ _ => rfl)

lemma Covered.advanceShutdown {kind : Shutdown}
    (hcall : channel.calls[index]? = some (.shutdown kind)) :
    Covered (channel.advanceShutdown index kind) side := by
  cases kind with
  | close | cancel => exact h.shutdown hcall rfl
  | drain =>
    rw [Channel.advanceShutdown]
    cases hdrain : channel.state.startDrain with
    | ok => exact h.shutdown hcall (startDrain_ok hdrain)
    | error => exact h.idle hcall (fun _ => rfl)

end Step

/-- Every step keeps both sides covered, as long as no two calls of a side are about to wait at
once. -/
theorem Covered.advance {waiter : ℕ} (h : ∀ side, Covered channel side)
    (halone : channel.Uncrowded) (hstep : channel.advance index waiter = some after) (side : Side) :
    Covered after side := by
  rw [Channel.advance] at hstep
  cases hcall : channel.calls[index]? with
  | none =>
    rw [hcall] at hstep
    cases hstep
  | some call =>
    rw [hcall] at hstep
    cases call with
    | next => exact (h side).advanceNext halone.1 hcall hstep
    | send => exact (h side).advanceSend halone.2 hcall hstep
    | trySend item =>
      dsimp only at hstep
      cases hpush : channel.state.tryPush item with
      | ok =>
        rw [hpush] at hstep
        cases hstep
        exact (h side).pushed hcall hpush (fun _ => rfl) (fun _ _ => rfl)
      | error =>
        rw [hpush] at hstep
        cases hstep
        exact (h side).idle hcall (fun _ => rfl)
    | shutdown =>
      cases hstep
      exact (h side).advanceShutdown hcall
    | notifyReadable =>
      obtain ⟨notified, hnotify, rfl⟩ := Option.map_eq_some_iff.mp hstep
      cases side with
      | readers =>
        refine (h .readers).notifyOne hcall hnotify rfl (fun role hne => ?_) (fun _ _ => rfl)
        cases role <;> first | rfl | exact (hne rfl).elim
      | writers =>
        exact (h .writers).notifyOther hcall (by decide) hnotify rfl (fun _ _ => rfl) le_rfl
    | notifyWritable completedDrain =>
      obtain ⟨notified, hnotify, rfl⟩ := Option.map_eq_some_iff.mp hstep
      have hnew : ∀ side role, role ≠ .owesAll →
          (if completedDrain then notifyAllReadable else done : Call T).plays side role =
            false := by
        intro side role hne
        cases completedDrain <;> cases role <;> first | rfl | exact (hne rfl).elim
      cases side with
      | writers =>
        refine (h .writers).notifyOne hcall hnotify rfl (fun role hne => ?_) (hnew .writers)
        cases role <;> first | rfl | exact (hne rfl).elim
      | readers =>
        refine (h .readers).notifyOther hcall (by decide) hnotify rfl (fun role hne => ?_)
          (Nat.zero_le _)
        rw [hnew .readers role hne]
        rfl
    | notifyAllReadable =>
      cases hstep
      cases side with
      | readers =>
        refine notifyWaiters_done (h .readers) hcall rfl (fun role hne => ?_)
        cases role <;> first | rfl | exact (hne rfl).elim
      | writers =>
        have hcall' : (channel.notifyWaiters .readers).calls[index]? = some .notifyAllReadable := by
          rw [notifyWaiters, List.getElem?_map, hcall]
          rfl
        refine (notifyWaiters_covered (h .writers) .readers).idle hcall' (fun role => ?_)
        cases role <;> rfl
    | notifyAllWritable =>
      cases hstep
      cases side with
      | writers =>
        refine notifyWaiters_done (h .writers) hcall rfl (fun role hne => ?_)
        cases role <;> first | rfl | exact (hne rfl).elim
      | readers =>
        have hcall' : (channel.notifyWaiters .writers).calls[index]? = some .notifyAllWritable := by
          rw [notifyWaiters, List.getElem?_map, hcall]
          rfl
        exact (notifyWaiters_covered (h .readers) .writers).idle hcall' (fun _ => rfl)
    | done => cases hstep

/-- No notification is owed to the side and no call of it is about to look at the state. -/
def Quiet (channel : Channel T) (side : Side) : Prop :=
  channel.count side .owes = 0 ∧ channel.count side .owesAll = 0 ∧ channel.count side .onTheWay = 0

lemma covered_run {capacity : ℕ} {actions : List (Action T)}
    (halone : StepsMeet step (fun channel _ => channel.Uncrowded) (new capacity) actions)
    (hrun : runFrom step (new capacity) actions = some channel) (side : Side) :
    Covered channel side := by
  have hstep : ∀ (before : Channel T) (action : Action T) (after : Channel T),
      (∀ side, Covered before side) → before.Uncrowded → step before action = some after →
        ∀ side, Covered after side := by
    intro before action after h hcrowd hstep
    cases action with
    | call request =>
      cases hstep
      exact fun side => (h side).call request
    | advance => exact fun side => Covered.advance h hcrowd hstep side
  exact runFrom_invariant_of_meets step hstep (covered_new capacity) halone hrun side

/-- While no two calls of a side look in vain before either is polled, what a suspended call waits
for is covered by notifications owed and calls on their way, so where nothing is under way the
stream is open and empty, respectively full. -/
theorem no_wakeup_lost {capacity : ℕ} {actions : List (Action T)} {channel : Channel T}
    (halone : StepsMeet step (fun channel _ => channel.Uncrowded) (new capacity) actions)
    (hrun : runFrom step (new capacity) actions = some channel) :
    (∀ side, 0 < channel.count side .suspended → (channel.state.lifecycle = .opened →
        channel.supply side ≤ channel.count side .owes + channel.count side .onTheWay) ∧
      (channel.state.lifecycle ≠ .opened → 0 < channel.count side .owesAll)) ∧
    (∀ index : ℕ, channel.calls[index]? = some (.next .suspended) → channel.Quiet .readers →
      channel.state.queue = [] ∧ channel.state.lifecycle = .opened) ∧
    ∀ (index : ℕ) (item : T), channel.calls[index]? = some (.send item .suspended) → channel.Quiet .writers →
      channel.state.capacity ≤ channel.state.queue.length ∧ channel.state.lifecycle = .opened := by
  have hside : ∀ side, 0 < channel.count side .suspended →
      (channel.state.lifecycle = .opened →
        channel.supply side ≤ channel.count side .owes + channel.count side .onTheWay) ∧
      (channel.state.lifecycle ≠ .opened → 0 < channel.count side .owesAll) := by
    intro side hsuspended
    obtain ⟨hexclusive, hsupplied, hshut⟩ := covered_run halone hrun side
    refine ⟨fun hopen => ?_, fun hclosed => ?_⟩
    · have hlive : channel.state.lifecycle.isOpen.toNat = 1 := by
        rw [hopen]
        rfl
      omega
    · have hdead : channel.state.lifecycle.isOpen.toNat = 0 := by
        cases hlifecycle : channel.state.lifecycle with
        | opened => exact (hclosed hlifecycle).elim
        | _ => rfl
      omega
  have hquiet : ∀ side, 0 < channel.count side .suspended → channel.Quiet side →
      channel.supply side = 0 ∧ channel.state.lifecycle = .opened := by
    rintro side hsuspended ⟨howes, hall, hway⟩
    have hopen : channel.state.lifecycle = .opened := by
      by_contra hclosed
      have := (hside side hsuspended).2 hclosed
      omega
    exact ⟨by have := (hside side hsuspended).1 hopen; omega, hopen⟩
  refine ⟨hside, fun index hcall hnone => ?_, fun index item hcall hnone => ?_⟩
  · obtain ⟨hsupply, hopen⟩ := hquiet .readers (countP_pos_of_getElem? _ hcall rfl) hnone
    exact ⟨length_eq_zero_iff.mp hsupply, hopen⟩
  · obtain ⟨hsupply, hopen⟩ := hquiet .writers (countP_pos_of_getElem? _ hcall rfl) hnone
    exact ⟨Nat.sub_eq_zero_iff_le.mp hsupply, hopen⟩

/-- Two readers find the queue empty, and two items are sent before either is polled: the second
notification finds the permit of the first still stored. -/
def mergedPermits : List (Action ℕ) :=
  [.call .next, .call .next, .advance 0 0, .advance 1 0, .advance 0 0, .advance 1 0,
    .call (.trySend 7), .call (.trySend 8), .advance 2 0, .advance 2 0, .advance 3 0, .advance 3 0,
    .advance 0 0, .advance 1 0, .advance 0 0, .advance 0 0, .advance 0 0]

/-- One call is suspended with an item in the queue, and nothing is left that would wake it. -/
theorem merged_permits_lose_wakeup : runFrom step (new 4) mergedPermits =
      some ⟨⟨4, .opened, [8], 0⟩, false, true, [.done, .next .suspended, .done, .done]⟩ := by
  decide +kernel

def waitingReader : List (Action ℕ) :=
  [.call .next, .advance 0 0, .advance 0 0, .advance 0 0]

/-- It waits on an open stream with nothing in it. -/
theorem waiting_reader_finds_nothing :
    ∃ channel, runFrom step (new 4) waitingReader = some channel ∧
      channel.state.queue = [] ∧ channel.state.lifecycle = .opened := by
  have halone : StepsMeet step (fun channel _ => channel.Uncrowded) (new 4) waitingReader := by
    decide +kernel
  have hrun : runFrom step (new 4) waitingReader =
      some ⟨⟨4, .opened, [], 0⟩, false, false, [.next .suspended]⟩ := by
    decide +kernel
  exact ⟨_, hrun, (no_wakeup_lost halone hrun).2.1 0 rfl ⟨rfl, rfl, rfl⟩⟩

end Channel
end Rakka.Stream
