import Rakka.Sharding.LocalTasks

/-! What an entity of a local route gets, as long as its actors do not stop on their own, spawns
succeed and its shard is not given away: one live incarnation at a time, and every accepted
message handled once, in the order of acceptance. -/

namespace Rakka.Core
variable {M : Type}

@[simp] lemma Envelope.messages_nil : messages ([] : List (Envelope M)) = [] := rfl

@[simp] lemma Envelope.messages_user (m : M) (envelopes : List (Envelope M)) :
    messages (.user m :: envelopes) = m :: messages envelopes := rfl

@[simp] lemma Envelope.messages_stop (envelopes : List (Envelope M)) :
    messages (.stop :: envelopes) = messages envelopes := rfl

@[simp] lemma Envelope.messages_append (xs ys : List (Envelope M)) :
    messages (xs ++ ys) = messages xs ++ messages ys :=
  List.filterMap_append

@[simp] lemma Envelope.messages_map_user (ms : List M) : messages (ms.map .user) = ms := by
  induction ms with
  | nil => rfl
  | cons m ms ih => rw [List.map_cons, messages_user, ih]

end Rakka.Core

namespace Rakka.Sharding
open Rakka.Core Cluster Foundation Envelope List

def ticketsAt (e : EntityId) (entries : List (EntityId × ℕ)) : List ℕ :=
  (entries.filter (fun p => p.1 = e)).map Prod.snd

def handledAt (e : EntityId) (entries : List Handling) : List ℕ :=
  (entries.filter (fun h => h.entityId = e)).map Handling.ticket

lemma ticketsAt_append (e : EntityId) (xs ys : List (EntityId × ℕ)) :
    ticketsAt e (xs ++ ys) = ticketsAt e xs ++ ticketsAt e ys := by
  simp [ticketsAt]

lemma handledAt_append (e : EntityId) (xs ys : List Handling) :
    handledAt e (xs ++ ys) = handledAt e xs ++ handledAt e ys := by
  simp [handledAt]

lemma handledAt_map_self (e : EntityId) (uid : ActorUid) (tickets : List ℕ) :
    handledAt e (tickets.map (⟨e, ·, uid⟩)) = tickets := by
  simp [handledAt, filter_map, Function.comp_def]

lemma handledAt_map_of_ne {e e' : EntityId} (h : e' ≠ e) (uid : ActorUid) (tickets : List ℕ) :
    handledAt e (tickets.map (⟨e', ·, uid⟩)) = [] := by
  simp [handledAt, filter_map, Function.comp_def, h]

namespace Registry
variable {M : Type}
variable {capacity : ℕ} {seat : Seat M} {cell : ActorCell (Parcel M)}
  {rest : List (Envelope (Parcel M))}

/-- Incarnations are numbered by the counter, and every seat is one of them. -/
structure Numbered (r : Registry M) : Prop where
  born : ∀ uid incarnation, r.cells uid = some incarnation → uid < r.nextUid
  owned : ∀ e seat, r.seats e = some seat →
    ∃ incarnation, r.cells seat.uid = some incarnation ∧ incarnation.context.entityId = e

section
variable {r : Registry M}
variable {r' : Registry M} {e : EntityId}

lemma Numbered.setSeat (h : r.Numbered) {seat : Option (Seat M)}
    (hseats : r'.seats = Function.update r.seats e seat) (hcells : r'.cells = r.cells)
    (hnext : r'.nextUid = r.nextUid)
    (hseat : ∀ seat', seat = some seat' → ∃ incarnation, r.cells seat'.uid = some incarnation ∧
      incarnation.context.entityId = e) : r'.Numbered := by
  constructor
  · rw [hcells, hnext]
    exact h.born
  intro e' seat' h'
  rw [hseats] at h'
  rw [hcells]
  by_cases he : e' = e
  · subst he
    rw [Function.update_self] at h'
    exact hseat seat' h'
  · rw [Function.update_of_ne he] at h'
    exact h.owned e' seat' h'

lemma Numbered.reseat (h : r.Numbered) {seat' : Seat M} (hseat : r.seats e = some seat)
    (hseats : r'.seats = Function.update r.seats e (some seat')) (hcells : r'.cells = r.cells)
    (hnext : r'.nextUid = r.nextUid) (huid : seat'.uid = seat.uid) : r'.Numbered := by
  refine h.setSeat hseats hcells hnext (fun seat'' h'' => ?_)
  rw [← Option.some.inj h'', huid]
  exact h.owned e seat hseat

lemma Numbered.empty (h : r.Numbered) (hseats : r'.seats = Function.update r.seats e none)
    (hcells : r'.cells = r.cells) (hnext : r'.nextUid = r.nextUid) : r'.Numbered :=
  h.setSeat hseats hcells hnext (fun seat' h' => absurd h' (Option.some_ne_none seat').symm)

lemma Numbered.setCell (h : r.Numbered) {uid : ActorUid}
    {incarnation incarnation' : Incarnation M} (hcell : r.cells uid = some incarnation)
    (hseats : r'.seats = r.seats)
    (hcells : r'.cells = Function.update r.cells uid (some incarnation'))
    (hnext : r'.nextUid = r.nextUid) (hcontext : incarnation'.context = incarnation.context) :
    r'.Numbered := by
  constructor
  · intro uid' inc h'
    rw [hnext]
    by_cases huid : uid' = uid
    · exact huid ▸ h.born uid incarnation hcell
    · rw [hcells, Function.update_of_ne huid] at h'
      exact h.born uid' inc h'
  · intro e seat hseat
    rw [hseats] at hseat
    obtain ⟨inc, hinc, hentity⟩ := h.owned e seat hseat
    rw [hcells]
    by_cases huid : seat.uid = uid
    · refine ⟨incarnation', ?_, ?_⟩
      · rw [huid, Function.update_self]
      · rw [huid, hcell, Option.some.injEq] at hinc
        rw [hcontext, hinc, hentity]
    · exact ⟨inc, (Function.update_of_ne huid ..).trans hinc, hentity⟩

lemma Numbered.seatNew (h : r.Numbered) (capacity : ℕ) (context : LocalEntityContext)
    (held : List (Parcel M)) : (r.seatNew capacity context held).Numbered := by
  constructor
  · intro uid inc h'
    change uid < r.nextUid + 1
    by_cases huid : uid = r.nextUid
    · exact huid ▸ Nat.lt_succ_self r.nextUid
    · exact Nat.lt_succ_of_lt (h.born uid inc ((Function.update_of_ne huid ..).symm.trans h'))
  · intro e seat hseat
    by_cases he : e = context.entityId
    · subst he
      rw [seats_seatNew, Option.some.injEq] at hseat
      subst hseat
      exact ⟨_, Function.update_self .., rfl⟩
    · obtain ⟨inc, hinc, hentity⟩ := h.owned e seat ((Function.update_of_ne he ..).symm.trans hseat)
      have huid : seat.uid ≠ r.nextUid := (h.born _ _ hinc).ne
      exact ⟨inc, (Function.update_of_ne huid ..).trans hinc, hentity⟩

lemma Move.numbered {terms : RouteTerms} (hmove : Move capacity terms r r')
    (h : r.Numbered) : r'.Numbered := by
  cases hmove with
  | refuse | setState | unwatch => exact ⟨h.born, h.owned⟩
  | queue _ _ hcell | stopMessage _ _ hcell | leave _ hcell => exact h.setCell hcell rfl rfl rfl rfl
  | hold _ hseat | holdBehind _ _ hseat | stopped _ hseat | reactivate hseat | clear _ hseat =>
    exact h.reseat hseat rfl rfl rfl rfl
  | @queueStop _ _ uid incarnation _ hseat hcell =>
    have hpushed : (r.pushTo uid incarnation .stop).Numbered := h.setCell hcell rfl rfl rfl rfl
    exact hpushed.reseat hseat rfl rfl rfl rfl
  | vacate seats hseats =>
    refine ⟨h.born, fun e seat hseat => ?_⟩
    rcases hseats e with hsame | ⟨hnone, -⟩
    · exact h.owned e seat (hsame ▸ hseat)
    · cases hnone.symm.trans hseat
  | spawn context => exact h.seatNew capacity context _
  | spawnFails | remove => exact h.empty rfl rfl rfl
  | @turn _ _ _ turn _ _ hcell => cases turn <;> exact h.setCell hcell rfl rfl rfl rfl

end

/-- The actor of an active seat is running with no stop ahead; that of a stopping seat has a stop at
the end of its mailbox or has left its loop. -/
def Seated (capacity : ℕ) : Seat M → ActorCell (Parcel M) → Prop
  | .active _ _, cell => cell.phase = .running ∧
    ∃ parcels : List (Parcel M), cell.mailbox = parcels.map .user
  | .stopping _ _ held _, cell => held.length ≤ capacity ∧
    (cell.phase = .running ∧
      (∃ parcels : List (Parcel M), cell.mailbox = parcels.map .user ++ [.stop]) ∨
      cell.phase ≠ .running ∧ cell.mailbox = [])

lemma Seated.tail (h : Seated capacity seat cell) {parcel : Parcel M}
    (hphase : cell.phase = .running) (hmailbox : cell.mailbox = .user parcel :: rest) :
    Seated capacity seat { cell with mailbox := rest, phase := .running } := by
  cases seat with
  | active =>
    obtain ⟨-, parcels, hparcels⟩ := h
    cases parcels with
    | nil => cases hmailbox.symm.trans hparcels
    | cons _ parcels =>
      exact ⟨rfl, parcels, (List.cons.inj (hmailbox.symm.trans hparcels)).2⟩
  | stopping =>
    obtain ⟨hbound, ⟨-, parcels, hparcels⟩ | ⟨hleft, -⟩⟩ := h
    · cases parcels with
      | nil => cases hmailbox.symm.trans hparcels
      | cons _ parcels =>
        exact ⟨hbound, .inl ⟨rfl, parcels, (List.cons.inj (hmailbox.symm.trans hparcels)).2⟩⟩
    · exact absurd hphase hleft

lemma Seated.stop (h : Seated capacity seat cell) (hphase : cell.phase = .running)
    (hmailbox : cell.mailbox = .stop :: rest) :
    rest = [] ∧ ∃ context uid held reactivate, seat = .stopping context uid held reactivate ∧
      held.length ≤ capacity := by
  cases seat with
  | active =>
    obtain ⟨-, parcels, hparcels⟩ := h
    cases parcels <;> cases hmailbox.symm.trans hparcels
  | stopping =>
    obtain ⟨hbound, ⟨-, parcels, hparcels⟩ | ⟨hleft, -⟩⟩ := h
    · cases parcels with
      | nil => exact ⟨(List.cons.inj (hmailbox.symm.trans hparcels)).2, _, _, _, _, rfl, hbound⟩
      | cons => cases hmailbox.symm.trans hparcels
    · exact absurd hphase hleft

def waitingAt (r : Registry M) (e : EntityId) : List (Parcel M) :=
  (r.seats e).elim [] (fun seat => (r.cells seat.uid).elim [] (fun incarnation =>
    messages incarnation.cell.mailbox) ++ seat.held)

structure Served (capacity : ℕ) (e : EntityId) (r : Registry M) : Prop where
  live : ∀ uid incarnation, r.cells uid = some incarnation → incarnation.context.entityId = e →
    incarnation.cell.phase ≠ .terminated → ∃ seat, r.seats e = some seat ∧ seat.uid = uid
  seated : ∀ seat incarnation, r.seats e = some seat → r.cells seat.uid = some incarnation →
    Seated capacity seat incarnation.cell
  books : ticketsAt e r.accepted =
    handledAt e r.handled ++ (r.waitingAt e).filterMap Parcel.ticket
  kept : ticketsAt e r.dropped = []

section
variable {r r' : Registry M} {e : EntityId}
variable {e' : EntityId} {context : LocalEntityContext} {incarnation : Incarnation M}
  {uid : ActorUid}

lemma waitingAt_of_seat (hseat : r.seats e = some seat)
    (hcell : r.cells seat.uid = some incarnation) :
    r.waitingAt e = messages incarnation.cell.mailbox ++ seat.held := by
  rw [waitingAt, hseat, Option.elim_some, hcell, Option.elim_some]

lemma waitingAt_of_none (hseat : r.seats e = none) : r.waitingAt e = [] := by
  rw [waitingAt, hseat, Option.elim_none]

/-- Nothing happens to an entity: neither its seat, nor its incarnations, nor its books. -/
structure Untouched (e : EntityId) (r r' : Registry M) : Prop where
  seats : r'.seats e = r.seats e
  cells : ∀ uid incarnation, incarnation.context.entityId = e →
    (r'.cells uid = some incarnation ↔ r.cells uid = some incarnation)
  accepted : ticketsAt e r'.accepted = ticketsAt e r.accepted
  handled : handledAt e r'.handled = handledAt e r.handled
  dropped : ticketsAt e r'.dropped = ticketsAt e r.dropped

lemma Untouched.refl : Untouched e r r := ⟨rfl, fun _ _ _ => Iff.rfl, rfl, rfl, rfl⟩

lemma Untouched.trans {r'' : Registry M} (h : Untouched e r r') (h' : Untouched e r' r'') :
    Untouched e r r'' :=
  ⟨h'.seats.trans h.seats, fun uid inc he => (h'.cells uid inc he).trans (h.cells uid inc he),
    h'.accepted.trans h.accepted, h'.handled.trans h.handled, h'.dropped.trans h.dropped⟩

lemma Untouched.served (hnumbered : r.Numbered) (h : Untouched e r r')
    (hserved : Served capacity e r) : Served capacity e r' := by
  -- The incarnation in the seat is one of the entity's, so that it is the same in both.
  have hcell : ∀ seat, r.seats e = some seat → r'.cells seat.uid = r.cells seat.uid := by
    intro seat hseat
    obtain ⟨incarnation, hcell, hentity⟩ := hnumbered.owned e seat hseat
    rw [hcell, h.cells _ _ hentity, hcell]
  have hwaiting : r'.waitingAt e = r.waitingAt e := by
    unfold waitingAt
    rw [h.seats]
    cases hseat : r.seats e with
    | none => rfl
    | some seat => rw [Option.elim_some, Option.elim_some, hcell seat hseat]
  constructor
  · intro uid incarnation huid hentity hphase
    rw [h.seats]
    exact hserved.live uid incarnation ((h.cells uid incarnation hentity).mp huid) hentity hphase
  · intro seat incarnation hseat huid
    rw [h.seats] at hseat
    rw [hcell seat hseat] at huid
    exact hserved.seated seat incarnation hseat huid
  · rw [h.accepted, h.handled, hwaiting]
    exact hserved.books
  · rw [h.dropped]
    exact hserved.kept

lemma untouched_setSeat (he : e' ≠ e) (seat : Option (Seat M)) :
    Untouched e r (r.setSeat e' seat) :=
  { Untouched.refl with seats := seats_setSeat_of_ne r he.symm seat }

lemma untouched_close (he : e' ≠ e) (accepted : Bool) : Untouched e r (r.close e' accepted) := by
  refine { Untouched.refl with accepted := ?_ }
  rw [close, ticketsAt_append]
  cases accepted <;> simp [ticketsAt, he]

lemma untouched_drop (he : e' ≠ e) (parcels : List (Parcel M)) :
    Untouched e r (r.drop e' parcels) := by
  refine { Untouched.refl with dropped := ?_ }
  rw [drop, ticketsAt_append]
  simp [ticketsAt, filter_map, Function.comp_def, he]

lemma untouched_setCell (hnew : incarnation.context.entityId ≠ e)
    (hold : ∀ inc, r.cells uid = some inc → inc.context.entityId ≠ e) :
    Untouched e r (r.setCell uid incarnation) := by
  refine { Untouched.refl with cells := fun uid' inc hinc => ?_ }
  by_cases huid : uid' = uid
  · subst huid
    refine ⟨fun h => ?_, fun h => absurd hinc (hold inc h)⟩
    rw [cells_setCell_self, Option.some.injEq] at h
    exact absurd hinc (h ▸ hnew)
  · simp [Registry.setCell, huid]

lemma untouched_recordTurn (he : e' ≠ e) (uid : ActorUid) (turn : Turn (Parcel M)) :
    Untouched e r (r.recordTurn e' uid turn) := by
  cases turn with
  | handled =>
    refine { Untouched.refl with handled := ?_ }
    change handledAt e (r.handled ++ _) = _
    rw [handledAt_append, handledAt_map_of_ne he, append_nil]
  | closed deadLetters => exact untouched_drop he deadLetters
  | left | terminated => exact .refl

theorem Served.reseat (h : Served capacity e r) {seat' : Seat M} {incarnation' : Incarnation M}
    (hseat : r.seats e = some seat) (hseats : r'.seats e = some seat')
    (hcells : r'.cells = Function.update r.cells seat.uid (some incarnation'))
    (huid : seat'.uid = seat.uid) (hseated : Seated capacity seat' incarnation'.cell)
    (hbooks : ticketsAt e r'.accepted = handledAt e r'.handled ++
      (messages incarnation'.cell.mailbox ++ seat'.held).filterMap Parcel.ticket)
    (hkept : ticketsAt e r'.dropped = []) : Served capacity e r' := by
  have hcell' : r'.cells seat'.uid = some incarnation' := by
    rw [hcells, huid, Function.update_self]
  refine ⟨fun uid inc hinc hincEntity hphase => ?_, fun seat'' inc hseat'' hinc => ?_, ?_, hkept⟩
  · refine ⟨seat', hseats, ?_⟩
    by_cases hcase : uid = seat.uid
    · exact huid.trans hcase.symm
    · rw [hcells, Function.update_of_ne hcase] at hinc
      obtain ⟨other, hother, hotherUid⟩ := h.live uid inc hinc hincEntity hphase
      rw [hseat, Option.some.injEq] at hother
      exact absurd (hother ▸ hotherUid.symm) hcase
  · rw [hseats, Option.some.injEq] at hseat''
    subst hseat''
    rw [hcell', Option.some.injEq] at hinc
    exact hinc ▸ hseated
  · rw [hbooks, waitingAt_of_seat hseats hcell']

lemma Served.waitingAt_of_vacant (h : Served capacity e r) (hnumbered : r.Numbered)
    (hvacant : r.Vacant e) : r.waitingAt e = r.heldAt e ∧ (r.heldAt e).length ≤ capacity := by
  cases hseat : r.seats e with
  | none =>
    rw [waitingAt_of_none hseat, heldAt_of_none hseat]
    exact ⟨rfl, Nat.zero_le _⟩
  | some seat =>
    obtain ⟨incarnation, hcell, -⟩ := hnumbered.owned e seat hseat
    have hphase := hvacant seat hseat incarnation hcell
    have hseated := h.seated seat incarnation hseat hcell
    cases seat with
    | active => cases hphase.symm.trans hseated.1
    | stopping =>
      obtain ⟨hbound, ⟨hrunning, -⟩ | ⟨-, hempty⟩⟩ := hseated
      · cases hphase.symm.trans hrunning
      · rw [waitingAt_of_seat hseat hcell, heldAt_of_stopping hseat, hempty]
        exact ⟨rfl, hbound⟩

lemma Served.seatNew (h : Served capacity e r) (hnumbered : r.Numbered) (hvacant : r.Vacant e)
    (hcontext : context.entityId = e) :
    Served capacity e (r.seatNew capacity context (r.heldAt e)) := by
  subst hcontext
  obtain ⟨hwaiting, hbound⟩ := h.waitingAt_of_vacant hnumbered hvacant
  have hdrop : (r.heldAt context.entityId).drop capacity = [] := drop_of_length_le hbound
  have htake : (r.heldAt context.entityId).take capacity = r.heldAt context.entityId :=
    take_of_length_le hbound
  have hcell : (r.seatNew capacity context (r.heldAt context.entityId)).cells r.nextUid =
      some ⟨context, ⟨capacity, (r.heldAt context.entityId).map .user, .running⟩⟩ := by
    rw [cells_seatNew_self, htake]
  refine ⟨fun uid inc hinc hentity hphase => ⟨_, seats_seatNew .., ?_⟩,
    fun seat inc hseat hinc => ?_, ?_, ?_⟩
  · -- An older incarnation of the entity is terminated.
    by_contra huid
    have hold : r.cells uid = some inc := by
      rwa [cells_seatNew_of_ne r (fun h => huid h.symm)] at hinc
    obtain ⟨seat, hseat, rfl⟩ := h.live uid inc hold hentity hphase
    exact hphase (hvacant seat hseat inc hold)
  · rw [seats_seatNew, Option.some.injEq] at hseat
    subst hseat
    rw [show (Seat.active context r.nextUid : Seat M).uid = r.nextUid from rfl, hcell,
      Option.some.injEq] at hinc
    subst hinc
    exact ⟨rfl, _, rfl⟩
  · rw [waitingAt_of_seat (seats_seatNew ..) hcell]
    change ticketsAt _ r.accepted = handledAt _ r.handled ++ _
    rw [h.books, hwaiting]
    simp [Seat.held]
  · change ticketsAt _ (r.dropped ++ _) = _
    rw [ticketsAt_append, h.kept, hdrop]
    rfl

lemma Served.leaveSeat (h : Served capacity e r) (hvacant : r.Vacant e)
    (hnone : r.waitingAt e = []) : Served capacity e (r.setSeat e none) := by
  refine ⟨fun uid inc hinc hentity hphase => ?_, fun seat inc hseat => ?_, ?_, h.kept⟩
  · obtain ⟨seat, hseat, rfl⟩ := h.live uid inc hinc hentity hphase
    exact absurd (hvacant seat hseat inc hinc) hphase
  · rw [seats_setSeat_self] at hseat
    cases hseat
  · rw [waitingAt_of_none (seats_setSeat_self ..)]
    have hbooks := h.books
    rwa [hnone] at hbooks

/-- What the terms must rule out for an entity to be served. -/
structure Calm (terms : RouteTerms) (e : EntityId) : Prop where
  spawns : ¬ terms.spawnsFail
  stays : ¬ terms.selfStops
  kept : ¬ terms.transfers e

lemma Numbered.other (h : r.Numbered) (he : e' ≠ e) (hseat : r.seats e' = some seat) :
    ∀ incarnation, r.cells seat.uid = some incarnation → incarnation.context.entityId ≠ e := by
  intro incarnation hcell hentity
  obtain ⟨owner, howner, howned⟩ := h.owned e' seat hseat
  rw [hcell, Option.some.injEq] at howner
  exact he (howned.symm.trans (howner ▸ hentity))

lemma untouched_pushTo (hnumbered : r.Numbered) (he : e' ≠ e)
    (hseat : r.seats e' = some (.active context uid)) (hcell : r.cells uid = some incarnation)
    (envelope : Envelope (Parcel M)) : Untouched e r (r.pushTo uid incarnation envelope) := by
  have hother := hnumbered.other he hseat
  exact untouched_setCell (hother incarnation hcell) hother

lemma untouched_seatNew (hnumbered : r.Numbered) (he : context.entityId ≠ e) (capacity : ℕ)
    (held : List (Parcel M)) : Untouched e r (r.seatNew capacity context held) := by
  have hcount : Untouched e r { r with nextUid := r.nextUid + 1 } :=
    ⟨rfl, fun _ _ _ => Iff.rfl, rfl, rfl, rfl⟩
  refine ((hcount.trans (untouched_setCell he (fun inc hinc => ?_))).trans
    (untouched_setSeat he _)).trans (untouched_drop he _)
  exact absurd (hnumbered.born _ _ hinc) (lt_irrefl _)

lemma untouched_watch (watchers : List (EntityId × ActorUid)) : Untouched e r (r.watch watchers) :=
  ⟨rfl, fun _ _ _ => Iff.rfl, rfl, rfl, rfl⟩

lemma Served.queue (h : Served capacity e r) (parcel : Parcel M)
    (hseat : r.seats e = some (.active context uid)) (hcell : r.cells uid = some incarnation)
    (hseats : r'.seats e = some (.active context uid))
    (hcells : r'.cells = (r.pushTo uid incarnation (.user parcel)).cells)
    (haccepted : ticketsAt e r'.accepted = ticketsAt e r.accepted ++ parcel.ticket.toList)
    (hhandled : r'.handled = r.handled) (hdropped : r'.dropped = r.dropped) :
    Served capacity e r' := by
  obtain ⟨hphase, parcels, hmailbox⟩ := h.seated _ _ hseat hcell
  refine h.reseat hseat hseats hcells rfl ⟨hphase, parcels ++ [parcel], ?_⟩ ?_ ?_
  · change incarnation.cell.mailbox ++ [.user parcel] = _
    rw [hmailbox, map_append]
    rfl
  · rw [haccepted, hhandled, h.books, waitingAt_of_seat hseat hcell]
    cases hticket : parcel.ticket <;> simp [ActorCell.push, Seat.held, hticket]
  · rw [hdropped, h.kept]

lemma Served.not_closed (h : Served capacity e r) (hnumbered : r.Numbered)
    (hseat : r.seats e = some (.active context uid)) : ¬ r.Closed uid := by
  intro hclosed
  obtain ⟨incarnation, hcell, -⟩ := hnumbered.owned e _ hseat
  have hstopping := hclosed incarnation hcell
  have hphase := (h.seated _ _ hseat hcell).1
  rw [ActorCell.isStopping, hphase] at hstopping
  cases hstopping

lemma Served.rehold (h : Served capacity e r) (hnumbered : r.Numbered)
    {held held' : List (Parcel M)} {reactivate reactivate' : Bool}
    (hseat : r.seats e = some (.stopping context uid held reactivate))
    (hseats : r'.seats e = some (.stopping context uid held' reactivate'))
    (hcells : r'.cells = r.cells) {parcels : List (Parcel M)} (hheld : held' = held ++ parcels)
    (hbound : held'.length ≤ capacity) (haccepted : ticketsAt e r'.accepted =
      ticketsAt e r.accepted ++ parcels.filterMap Parcel.ticket) (hhandled : r'.handled = r.handled)
    (hdropped : r'.dropped = r.dropped) : Served capacity e r' := by
  obtain ⟨incarnation, hcell, -⟩ := hnumbered.owned e _ hseat
  have hsame : r'.cells = Function.update r.cells uid (some incarnation) := by
    have hcell' : r.cells uid = some incarnation := hcell
    rw [hcells, ← hcell', Function.update_eq_self]
  refine h.reseat hseat hseats hsame rfl ⟨hbound, (h.seated _ _ hseat hcell).2⟩ ?_ ?_
  · rw [haccepted, hhandled, h.books, waitingAt_of_seat hseat hcell, hheld]
    simp [Seat.held]
  · rw [hdropped, h.kept]

lemma Served.turn (h : Served capacity e r) {turn : Turn (Parcel M)}
    (hseat : r.seats e = some seat) (hcell : r.cells seat.uid = some incarnation)
    (hturn : incarnation.cell.turn .continueRunning = some (turn, cell)) : Served capacity e
      ((r.setCell seat.uid { incarnation with cell := cell }).recordTurn e seat.uid turn) := by
  have hseated := h.seated seat incarnation hseat hcell
  have hbooks := h.books
  rw [waitingAt_of_seat hseat hcell] at hbooks
  -- Only an actor that has left its loop closes its mailbox, and that mailbox is empty.
  have hleft : incarnation.cell.phase ≠ .running → incarnation.cell.mailbox = [] ∧
      ∃ context uid held reactivate, seat = .stopping context uid held reactivate ∧
        held.length ≤ capacity := by
    intro hphase
    cases seat with
    | active => exact absurd hseated.1 hphase
    | stopping =>
      exact ⟨(hseated.2.resolve_left (fun h => hphase h.1)).2, _, _, _, _, rfl, hseated.1⟩
  have hturned := ActorCell.turn_cases hturn
  cases hturned with
  | @handled parcel rest hphase hmailbox =>
    refine h.reseat hseat hseat rfl rfl (hseated.tail hphase hmailbox) ?_ h.kept
    change ticketsAt e r.accepted = handledAt e (r.handled ++ _) ++ _
    rw [handledAt_append, handledAt_map_self, hbooks, hmailbox]
    cases hticket : parcel.ticket <;> simp [hticket]
  | @left rest hphase hmailbox =>
    obtain ⟨rfl, context, uid, held, reactivate, rfl, hbound⟩ := hseated.stop hphase hmailbox
    rw [hmailbox] at hbooks
    exact h.reseat hseat hseat rfl rfl ⟨hbound, .inr ⟨nofun, rfl⟩⟩ hbooks h.kept
  | closed hphase =>
    obtain ⟨hempty, context, uid, held, reactivate, rfl, hbound⟩ :=
      hleft (by rw [hphase]; exact nofun)
    rw [hempty] at hbooks ⊢
    refine h.reseat hseat hseat rfl rfl ⟨hbound, .inr ⟨nofun, rfl⟩⟩ hbooks ?_
    change ticketsAt e (r.dropped ++ []) = []
    rw [append_nil, h.kept]
  | terminated hphase =>
    obtain ⟨hempty, context, uid, held, reactivate, rfl, hbound⟩ :=
      hleft (by rw [hphase]; exact nofun)
    exact h.reseat hseat hseat rfl rfl ⟨hbound, .inr ⟨nofun, hempty⟩⟩ hbooks h.kept

lemma Move.served {terms : RouteTerms} (hcalm : Calm terms e) (hmove : Move capacity terms r r')
    (hnumbered : r.Numbered) (h : Served capacity e r) : Served capacity e r' := by
  cases hmove with
  | refuse =>
    rw [close_false]
    exact ⟨h.live, h.seated, h.books, h.kept⟩
  | @queue e' context uid incarnation parcel hseat hcell hopen hroom hticket =>
    by_cases he : e' = e
    · subst he
      refine h.queue parcel hseat hcell hseat rfl ?_ rfl rfl
      simp [pushTo, close, setCell, ticketsAt, hticket]
    · exact ((untouched_pushTo hnumbered he hseat hcell _).trans
        (untouched_close he true)).served hnumbered h
  | @hold e' context uid held reactivate parcel hseat hlive hadmits hroom hticket =>
    by_cases he : e' = e
    · subst he
      refine h.rehold hnumbered hseat (seats_setSeat_self ..) rfl rfl ?_ ?_ rfl rfl
      · rw [length_append]
        exact hroom
      · simp [close, setSeat, ticketsAt, hticket]
    · exact ((untouched_setSeat he _).trans (untouched_close he true)).served hnumbered h
  | @holdBehind e' context uid parcel watchers hseat hclosed =>
    by_cases he : e' = e
    · subst he
      exact absurd hclosed (h.not_closed hnumbered hseat)
    · exact (((untouched_setSeat he _).trans (untouched_watch watchers)).trans
        (untouched_close he true)).served hnumbered h
  | vacate seats hseats =>
    rcases hseats e with hsame | ⟨-, context, uid, hseat, hterminated⟩
    · have huntouched : Untouched e r { r with seats := seats } := { Untouched.refl with seats := hsame }
      exact huntouched.served hnumbered h
    · refine absurd (fun inc hcell => ?_) (h.not_closed hnumbered hseat)
      exact ActorCell.isStopping_of_isTerminated (decide_eq_true (hterminated inc hcell))
  | spawn context hvacant =>
    by_cases he : context.entityId = e
    · subst he
      exact h.seatNew hnumbered hvacant rfl
    · exact (untouched_seatNew hnumbered he _ _).served hnumbered h
  | spawnFails hterms => exact absurd hterms hcalm.spawns
  | @stopMessage e' context uid incarnation message hseat hcell =>
    by_cases he : e' = e
    · subst he
      exact h.queue ⟨message, none⟩ hseat hcell hseat rfl (append_nil _).symm rfl rfl
    · exact (untouched_pushTo hnumbered he hseat hcell _).served hnumbered h
  | @queueStop e' context uid incarnation watchers hseat hcell =>
    by_cases he : e' = e
    · subst he
      obtain ⟨hphase, parcels, hmailbox⟩ := h.seated _ _ hseat hcell
      refine h.reseat hseat (seats_setSeat_self ..) rfl rfl ⟨Nat.zero_le _, .inl ⟨hphase, parcels, ?_⟩⟩ ?_ h.kept
      · change incarnation.cell.mailbox ++ [.stop] = _
        rw [hmailbox]
      · change ticketsAt e' r.accepted = handledAt e' r.handled ++ _
        rw [h.books, waitingAt_of_seat hseat hcell]
        simp [ActorCell.push, Seat.held]
    · exact (((untouched_pushTo hnumbered he hseat hcell _).trans (untouched_setSeat he _)).trans
        (untouched_watch watchers)).served hnumbered h
  | @stopped e' context uid watchers hseat hclosed =>
    by_cases he : e' = e
    · subst he
      exact absurd hclosed (h.not_closed hnumbered hseat)
    · exact ((untouched_setSeat he _).trans (untouched_watch watchers)).served hnumbered h
  | @reactivate e' context uid held reactivate hseat =>
    by_cases he : e' = e
    · subst he
      obtain ⟨incarnation, hcell, -⟩ := hnumbered.owned e' _ hseat
      exact h.rehold hnumbered hseat (seats_setSeat_self ..) rfl (append_nil held).symm
        (h.seated _ _ hseat hcell).1 (append_nil _).symm rfl rfl
    · exact (untouched_setSeat he _).served hnumbered h
  | @remove e' context uid hseat hterminated =>
    by_cases he : e' = e
    · subst he
      have hvacant := vacant_of_seat hseat hterminated
      refine h.leaveSeat hvacant ?_
      rw [(h.waitingAt_of_vacant hnumbered hvacant).1, heldAt_of_stopping hseat]
    · exact (untouched_setSeat he _).served hnumbered h
  | @clear e' context uid held reactivate hterms hseat =>
    have he : e' ≠ e := fun he => hcalm.kept (he ▸ hterms)
    exact ((untouched_setSeat he _).trans (untouched_drop he held)).served hnumbered h
  | @turn uid incarnation action turn cell hterms hcell hturn =>
    obtain rfl := hterms.resolve_left hcalm.stays
    by_cases he : incarnation.context.entityId = e
    · subst he
      have hphase : incarnation.cell.phase ≠ .terminated := by
        intro hphase
        simp [ActorCell.turn, hphase] at hturn
      obtain ⟨seat, hseat, rfl⟩ := h.live uid incarnation hcell rfl hphase
      exact h.turn hseat hcell hturn
    · have hset : Untouched e r (r.setCell uid { incarnation with cell := cell }) := by
        refine untouched_setCell he (fun inc hinc => ?_)
        rw [hcell, Option.some.injEq] at hinc
        exact hinc ▸ he
      exact (hset.trans (untouched_recordTurn he uid turn)).served hnumbered h
  | leave hterms => exact absurd hterms hcalm.stays
  | setState | unwatch => exact ⟨h.live, h.seated, h.books, h.kept⟩

end

end Registry
end Rakka.Sharding
