import Rakka.Sharding.Incarnations

/-! Deliveries to the entities of a local route over whole runs: what was accepted is handled
once and in order, and the tasks of the route and of its actors are enough to handle it. -/

namespace Rakka.Sharding
open Rakka.Core Cluster Foundation List Option

namespace Registry
variable {M : Type}

/-- Tickets are given out in order. -/
structure Ticketed (r : Registry M) : Prop where
  issued : ∀ p ∈ r.accepted, p.2 < r.nextTicket
  sorted : (r.accepted.map Prod.snd).Pairwise (· < ·)

lemma Ticketed.close {r r' : Registry M} (h : r.Ticketed) {e : EntityId} {accepted : Bool}
    (hnext : r'.nextTicket = r.nextTicket + 1)
    (haccepted : r'.accepted = (r.close e accepted).accepted) : r'.Ticketed := by
  cases accepted with
  | false =>
    rw [close_false] at haccepted
    refine ⟨fun p hp => ?_, haccepted ▸ h.sorted⟩
    rw [hnext]
    exact Nat.lt_succ_of_lt (h.issued p (haccepted ▸ hp))
  | true =>
    change r'.accepted = r.accepted ++ [(e, r.nextTicket)] at haccepted
    constructor
    · rw [haccepted, hnext]
      exact forall_mem_concat (fun p hp => Nat.lt_succ_of_lt (h.issued p hp)) (Nat.lt_succ_self _)
    · rw [haccepted, map_append]
      exact pairwise_concat h.sorted (forall_mem_map.mpr h.issued)

lemma Move.ticketed {capacity : ℕ} {terms : RouteTerms} {r r' : Registry M}
    (hmove : Move capacity terms r r') (h : r.Ticketed) : r'.Ticketed := by
  cases hmove with
  | refuse | queue | hold | holdBehind => exact h.close rfl rfl
  | @turn _ _ _ turn _ => cases turn <;> exact ⟨h.issued, h.sorted⟩
  | _ => exact ⟨h.issued, h.sorted⟩

lemma Ticketed.nodup_at {r : Registry M} (h : r.Ticketed) (e : EntityId) :
    (ticketsAt e r.accepted).Nodup := by
  have hsub : (ticketsAt e r.accepted).Sublist (r.accepted.map Prod.snd) :=
    filter_sublist.map Prod.snd
  exact (h.sorted.sublist hsub).imp (fun hlt => hlt.ne)

def Watched (r : Registry M) : Prop :=
  ∀ e context uid held reactivate, r.seats e = some (.stopping context uid held reactivate) →
    (e, uid) ∈ r.watchers

section
variable {r r' : Registry M}

lemma Watched.setSeat (h : r.Watched) {e : EntityId} {seat : Option (Seat M)}
    (hseats : r'.seats = Function.update r.seats e seat) (hwatchers : r.watchers ⊆ r'.watchers)
    (hseat : ∀ context uid held reactivate, seat = some (.stopping context uid held reactivate) →
      (e, uid) ∈ r'.watchers) : r'.Watched := by
  intro e' context uid held reactivate h'
  rw [hseats] at h'
  by_cases he : e' = e
  · subst he
    rw [Function.update_self] at h'
    exact hseat context uid held reactivate h'
  · rw [Function.update_of_ne he] at h'
    exact hwatchers (h e' context uid held reactivate h')

lemma Move.watched {capacity : ℕ} {terms : RouteTerms} (hterms : ¬ terms.noRuntime)
    (hmove : Move capacity terms r r') (h : r.Watched) : r'.Watched := by
  cases hmove with
  | refuse | queue | stopMessage | leave | setState => exact h
  | @turn _ _ _ turn _ => cases turn <;> exact h
  | hold _ hseat | reactivate hseat | clear _ hseat =>
    refine h.setSeat rfl (List.Subset.refl _) (fun _ _ _ _ h' => ?_)
    cases h'
    exact h _ _ _ _ _ hseat
  | holdBehind _ watchers _ _ _ hwatches | queueStop watchers _ _ _ _ hwatches
  | stopped watchers _ _ hwatches =>
    refine h.setSeat rfl (subset_append_left _ _) (fun _ _ _ _ h' => ?_)
    cases h'
    exact mem_append_right _ (hwatches.resolve_left hterms)
  | vacate seats hseats =>
    intro e context uid held reactivate h'
    rcases hseats e with hsame | ⟨hnone, -⟩
    · exact h e context uid held reactivate (hsame ▸ h')
    · cases hnone.symm.trans h'
  | spawn | spawnFails | remove =>
    refine h.setSeat rfl (List.Subset.refl _) (fun _ _ _ _ h' => ?_)
    cases h'
  | unwatch e uid hidle =>
    intro e' context uid' held reactivate h'
    refine (mem_erase_of_ne ?_).mpr (h e' context uid' held reactivate h')
    rintro ⟨rfl, rfl⟩
    exact hidle context held reactivate h'

end

end Registry

/-- Spawns succeed, actors do not stop on their own, and the shard of the entity is kept. -/
def calmTerms (e : EntityId) (noRuntime : Prop) : RouteTerms where
  spawnsFail := False
  selfStops := False
  transfers := (· ≠ e)
  noRuntime := noRuntime
  routes _ _ := True
  sets _ _ := True

lemma calmTerms_calm (e : EntityId) (noRuntime : Prop) : Registry.Calm (calmTerms e noRuntime) e :=
  ⟨id, id, fun h => h rfl⟩

namespace Registry
variable {M : Type}

/-- What holds of the registry along a run that is calm for an entity. -/
structure Serving (capacity : ℕ) (e : EntityId) (noRuntime : Prop) (r : Registry M) : Prop where
  keyed : r.Keyed
  numbered : r.Numbered
  ticketed : r.Ticketed
  served : Served capacity e r
  watched : ¬ noRuntime → r.Watched

lemma Serving.move {capacity : ℕ} {e : EntityId} {noRuntime : Prop} {r r' : Registry M}
    (h : Serving capacity e noRuntime r) (hmove : Move capacity (calmTerms e noRuntime) r r') :
    Serving capacity e noRuntime r' where
  keyed := hmove.keyed h.keyed
  numbered := hmove.numbered h.numbered
  ticketed := hmove.ticketed h.ticketed
  served := hmove.served (calmTerms_calm e noRuntime) h.numbered h.served
  watched hruntime := hmove.watched hruntime (h.watched hruntime)

end Registry

namespace LocalState
variable {M : Type}

lemma serving_empty (capacity : ℕ) (e : EntityId) (noRuntime : Prop) (now : ℕ) :
    Registry.Serving capacity e noRuntime (empty now : LocalState M).registry := by
  have hseats : ∀ e seat, (empty now : LocalState M).registry.seats e ≠ some seat := by
    intro e seat h
    cases h
  have hcells : ∀ uid incarnation,
      (empty now : LocalState M).registry.cells uid ≠ some incarnation := by
    intro uid incarnation h
    cases h
  constructor
  · exact fun e seat h => absurd h (hseats e seat)
  · exact ⟨fun uid inc h => absurd h (hcells uid inc), fun e seat h => absurd h (hseats e seat)⟩
  · exact ⟨fun p hp => absurd hp not_mem_nil, List.Pairwise.nil⟩
  · exact ⟨fun uid inc h => absurd h (hcells uid inc), fun seat _ h => absurd h (hseats e seat),
      rfl, rfl⟩
  · exact fun _ e context uid held reactivate h => absurd h (hseats e _)

/-- Spawns succeed, actors do not stop on their own, and the shard of the entity is not given away.
-/
def Spares (e : EntityId) (s : LocalState M) (op : LocalOp M) : Bool :=
  op.callEnv.all (fun env => env.spawnError.isNone) && match op with
    | .passivateShard _ shardId => s.actors[e]?.all (fun slot => slot.context.shardId ≠ shardId)
    | .actorTurn _ action => action = .continueRunning
    | .actorLeaves _ => false
    | _ => true

end LocalState

def LocalOp.inRuntime {M : Type} (op : LocalOp M) : Bool := op.callEnv.all CallEnv.runtime

namespace LocalState
variable {M : Type} {route : LocalEntityRoute} {e : EntityId} {noRuntime : Prop} {s t : LocalState M}
  {op : LocalOp M}

lemma within_calmTerms (hcapacity : 0 < route.mailboxCapacity) (hspares : s.Spares e op = true)
    (hruntime : noRuntime ∨ op.inRuntime = true) : s.Within route (calmTerms e noRuntime) op := by
  unfold Spares at hspares
  rw [Bool.and_eq_true] at hspares
  constructor
  · intro env henv
    constructor
    · rintro (hzero | herror)
      · exact absurd hzero hcapacity.ne'
      · have hnone := hspares.1
        rw [henv, all_some, isNone_iff_eq_none] at hnone
        exact absurd hnone herror
    · intro hfalse
      refine hruntime.resolve_right ?_
      rw [LocalOp.inRuntime, henv, all_some, hfalse]
      exact Bool.false_ne_true
  · have hrest := hspares.2
    cases op with
    | passivateShard =>
      intro e' slot hslot hshard he
      subst he
      simp [hslot, hshard] at hrest
    | actorTurn => exact .inr (of_decide_eq_true hrest)
    | actorLeaves => cases hrest
    | _ => trivial

lemma serving_run (hcapacity : 0 < route.mailboxCapacity)
    (h : Registry.Serving route.mailboxCapacity e noRuntime s.registry) {ops : List (LocalOp M)}
    (hspares : StepsMeet (step route) (fun s op => s.Spares e op = true) s ops)
    (hruntime : ∀ op ∈ ops, noRuntime ∨ op.inRuntime = true)
    (hrun : runFrom (step route) s ops = some t) :
    Registry.Serving route.mailboxCapacity e noRuntime t.registry := by
  refine run_invariant_of_moves (Registry.Serving route.mailboxCapacity e noRuntime)
    (fun r hr => hr.keyed) (fun r r' hmove hr => hr.move hmove) ?_ h hrun
  exact hspares.imp (step route) (fun u op hop hspare =>
    within_calmTerms hcapacity hspare (hruntime op hop))

end LocalState

/-! The tasks of a route and of its actors finish what was accepted. -/

/-- How far the actor in a seat is from having nothing to do. -/
def Seat.effort {M : Type} : Seat M → ActorCell (Parcel M) → ℕ
  | .active _ _, cell => cell.mailbox.length
  | .stopping _ _ held _, cell => cell.mailbox.length + held.length + 1 + match cell.phase with
    | .running => 3
    | .leaving => 2
    | .stopping => 1
    | .terminated => 0

namespace Registry
variable {M : Type} {capacity : ℕ}

def effort (r : Registry M) (e : EntityId) : ℕ :=
  (r.seats e).elim 0 (fun seat => (r.cells seat.uid).elim 0 (fun incarnation =>
    seat.effort incarnation.cell))

lemma effort_of_seat {r : Registry M} {e : EntityId} {seat : Seat M} {incarnation : Incarnation M}
    (hseat : r.seats e = some seat) (hcell : r.cells seat.uid = some incarnation) :
    r.effort e = seat.effort incarnation.cell := by
  rw [effort, hseat, elim_some, hcell, elim_some]

lemma Seated.effort_turn {seat : Seat M} {cell cell' : ActorCell (Parcel M)}
    {turn : Turn (Parcel M)} (h : Seated capacity seat cell)
    (hturn : cell.turn .continueRunning = some (turn, cell')) :
    seat.effort cell' < seat.effort cell := by
  have hturned := ActorCell.turn_cases hturn
  cases seat with
  | active =>
    cases hturned with
    | handled hphase hmailbox | left hphase hmailbox => simp [Seat.effort, hmailbox]
    | closed hphase | terminated hphase => cases hphase.symm.trans h.1
  | stopping =>
    cases hturned with
    | handled hphase hmailbox | left hphase hmailbox => simp [Seat.effort, hmailbox, hphase]
    | closed hphase | terminated hphase =>
      simp [Seat.effort, hphase]

lemma Seated.can_turn {seat : Seat M} {cell : ActorCell (Parcel M)} (h : Seated capacity seat cell)
    (hwork : Envelope.messages cell.mailbox ++ seat.held ≠ []) (hphase : cell.phase ≠ .terminated) :
    ∃ turn cell', cell.turn .continueRunning = some (turn, cell') := by
  obtain ⟨mailboxCapacity, mailbox, phase⟩ := cell
  cases phase with
  | running =>
    cases mailbox with
    | cons envelope => cases envelope <;> exact ⟨_, _, rfl⟩
    | nil =>
      cases seat with
      | active => exact absurd rfl hwork
      | stopping =>
        obtain ⟨-, ⟨-, parcels, hparcels⟩ | ⟨hleft, -⟩⟩ := h
        · exact absurd hparcels.symm (append_ne_nil_of_right_ne_nil _ (cons_ne_nil _ _))
        · exact absurd rfl hleft
  | leaving | stopping => exact ⟨_, _, rfl⟩
  | terminated => exact absurd rfl hphase

end Registry

def LocalOp.isTask {M : Type} : LocalOp M → Bool
  | .actorTurn _ .continueRunning | .watcher ⟨true, none⟩ _ _ => true
  | _ => false

namespace LocalState
variable {M : Type} {route : LocalEntityRoute} {e : EntityId} {s : LocalState M}

lemma isTask_spares {op : LocalOp M} (h : op.isTask = true) :
    s.Spares e op = true ∧ op.inRuntime = true := by
  unfold LocalOp.isTask at h
  split at h
  · exact ⟨rfl, rfl⟩
  · exact ⟨rfl, rfl⟩
  · cases h

section
variable (hcapacity : 0 < route.mailboxCapacity)
  (h : Registry.Serving route.mailboxCapacity e False s.registry)
include hcapacity h

theorem watcher_step {context : LocalEntityContext} {uid : ActorUid} {held : List (Parcel M)}
    {reactivate : Bool} {incarnation : Incarnation M}
    (hseat : s.registry.seats e = some (.stopping context uid held reactivate))
    (hcell : s.registry.cells uid = some incarnation)
    (hphase : incarnation.cell.phase = .terminated) :
    ∃ t, s.step route (.watcher ⟨true, none⟩ e uid) = some t ∧
      t.registry.effort e < s.registry.effort e ∧ t.accepted = s.accepted := by
  have hwatched : (e, uid) ∈ s.watchers := h.watched id e context uid held reactivate hseat
  have hterminated : s.isTerminated uid = true := by
    refine isTerminated_iff.mpr (fun inc hinc => ?_)
    rw [hcell, Option.some.injEq] at hinc
    exact hinc ▸ hphase
  have heffort : s.registry.effort e = incarnation.cell.mailbox.length + held.length + 1 := by
    rw [Registry.effort_of_seat hseat hcell, Seat.effort, hphase]
    rfl
  refine ⟨_, if_pos ⟨hwatched, hterminated⟩, ?_⟩
  have hresumed := onIncarnationStopped_cases
    { s with watchers := s.watchers.erase (e, uid) } route ⟨true, none⟩ h.keyed e uid
  generalize onIncarnationStopped route _ _ e uid = t at hresumed ⊢
  cases hresumed with
  | idle hidle => exact absurd hseat (hidle context held reactivate)
  | removed hseat' hregistry =>
    refine ⟨?_, congrArg Registry.accepted hregistry⟩
    rw [hregistry, Registry.effort, Registry.seats_setSeat_self, elim_none, heffort]
    exact Nat.succ_pos _
  | @spawned _ context' held' _ hseat' _ _ hregistry =>
    refine ⟨?_, congrArg Registry.accepted hregistry⟩
    obtain rfl : context'.entityId = e := h.keyed e _ hseat'
    obtain ⟨rfl, -, rfl, -⟩ := Seat.stopping.inj (Option.some.inj (hseat.symm.trans hseat'))
    rw [hregistry, Registry.effort_of_seat (Registry.seats_seatNew ..)
      (Registry.cells_seatNew_self ..), heffort]
    simp only [Seat.effort, length_map, length_take]
    omega
  | failed _ hwhy =>
    rcases hwhy with hzero | herror
    · exact absurd hzero hcapacity.ne'
    · exact absurd rfl herror

/-- While messages wait for an entity, one of the tasks brings them closer to being handled. -/
theorem task_step (hwork : s.registry.waitingAt e ≠ []) :
    ∃ op t, op.isTask = true ∧ s.step route op = some t ∧
      t.registry.effort e < s.registry.effort e ∧ t.accepted = s.accepted := by
  cases hseat : s.registry.seats e with
  | none => exact absurd (Registry.waitingAt_of_none hseat) hwork
  | some seat =>
    obtain ⟨incarnation, hcell, -⟩ := h.numbered.owned e seat hseat
    have hseated := h.served.seated seat incarnation hseat hcell
    rw [Registry.waitingAt_of_seat hseat hcell] at hwork
    by_cases hphase : incarnation.cell.phase = .terminated
    · -- A terminated actor is in a stopping seat, and the watcher of the stop takes over.
      cases seat with
      | active => cases hphase.symm.trans hseated.1
      | stopping =>
        obtain ⟨t, hstep⟩ := watcher_step hcapacity h hseat hcell hphase
        exact ⟨_, t, rfl, hstep⟩
    · obtain ⟨turn, cell, hturn⟩ := hseated.can_turn hwork hphase
      refine ⟨.actorTurn seat.uid .continueRunning, (s.setCell seat.uid
        { incarnation with cell := cell }).recordTurn incarnation.context.entityId seat.uid turn,
        rfl, ?_, ?_, ?_⟩
      · refine bind_eq_some_iff.mpr ⟨incarnation, hcell, ?_⟩
        exact bind_eq_some_iff.mpr ⟨(turn, cell), hturn, rfl⟩
      · have hcell' : ((s.registry.setCell seat.uid { incarnation with cell := cell }).recordTurn
            incarnation.context.entityId seat.uid turn).cells seat.uid =
            some { incarnation with cell := cell } := by
          cases turn <;> exact Registry.cells_setCell_self ..
        have hseat' : ((s.registry.setCell seat.uid { incarnation with cell := cell }).recordTurn
            incarnation.context.entityId seat.uid turn).seats e = some seat := by
          cases turn <;> exact hseat
        rw [registry_actorTurn, Registry.effort_of_seat hseat' hcell',
          Registry.effort_of_seat hseat hcell]
        exact hseated.effort_turn hturn
      · cases turn <;> rfl

lemma tasks_finish : ∃ ops t, (∀ op ∈ ops, op.isTask = true) ∧ runFrom (step route) s ops = some t ∧
      t.accepted = s.accepted ∧ handledAt e t.handled = ticketsAt e t.accepted := by
  induction heffort : s.registry.effort e using Nat.strongRecOn generalizing s with
  | ind effort ih =>
    by_cases hwork : s.registry.waitingAt e = []
    · refine ⟨[], s, fun _ hop => absurd hop not_mem_nil, rfl, rfl, ?_⟩
      have hbooks := h.served.books
      rw [hwork, filterMap_nil, append_nil] at hbooks
      exact hbooks.symm
    · obtain ⟨op, u, htask, hstep, hless, haccepted⟩ := task_step hcapacity h hwork
      obtain ⟨hspares, hruntime⟩ := isTask_spares (s := s) (e := e) htask
      have hserving := Registry.Moves.invariant (fun _ _ hmove hr => Registry.Serving.move hr hmove)
        (step_moves (fun _ _ _ _ => h.keyed) (within_calmTerms hcapacity hspares (.inr hruntime)) hstep) h
      obtain ⟨ops, t, htasks, hrun, haccepted', hdone⟩ := ih _ (heffort ▸ hless) hserving rfl
      refine ⟨op :: ops, t, ?_, ?_, haccepted'.trans haccepted, hdone⟩
      · exact forall_mem_cons.mpr ⟨htask, htasks⟩
      · exact bind_eq_some_iff.mpr ⟨u, hstep, hrun⟩

end

def LiveAt (s : LocalState M) (e : EntityId) (uid : ActorUid) : Prop :=
  ∃ incarnation, s.cells[uid]? = some incarnation ∧ incarnation.context.entityId = e ∧
    incarnation.cell.isTerminated = false

lemma liveAt_unique (h : Registry.Served route.mailboxCapacity e s.registry) {uid uid' : ActorUid}
    (hlive : s.LiveAt e uid) (hlive' : s.LiveAt e uid') : uid = uid' := by
  have hseat : ∀ uid, s.LiveAt e uid → ∃ seat, s.registry.seats e = some seat ∧ seat.uid = uid := by
    rintro uid ⟨incarnation, hcell, hentity, hphase⟩
    exact h.live uid incarnation hcell hentity (of_decide_eq_false hphase)
  obtain ⟨seat, hseat₁, rfl⟩ := hseat uid hlive
  obtain ⟨seat', hseat₂, rfl⟩ := hseat uid' hlive'
  rw [Option.some.inj (hseat₁.symm.trans hseat₂)]

/-- In a run that spares an entity, its accepted messages are handled once each, in order, by the
one incarnation that is live; none is dropped, and the tasks of the route and of its actors can
always handle the rest. -/
theorem accepted_handled_once_in_order (hcapacity : 0 < route.mailboxCapacity) (now : ℕ)
    {ops : List (LocalOp M)} {t : LocalState M}
    (hspares : StepsMeet (step route) (fun s op => s.Spares e op = true) (empty now) ops)
    (hrun : runFrom (step route) (empty now) ops = some t) : (ticketsAt e t.accepted).Nodup ∧
    handledAt e t.handled <+: ticketsAt e t.accepted ∧
    (∀ a ∈ t.handled, ∀ b ∈ t.handled, a.entityId = e → b.entityId = e → a.ticket = b.ticket →
      a = b) ∧ ticketsAt e t.accepted =
      handledAt e t.handled ++ (t.registry.waitingAt e).filterMap Parcel.ticket ∧
    ticketsAt e t.dropped = [] ∧ (∀ uid uid', t.LiveAt e uid → t.LiveAt e uid' → uid = uid') ∧
    (∀ context uid held reactivate, t.actors[e]? = some (.stopping context uid held reactivate) →
      held.length ≤ route.mailboxCapacity) ∧ ((∀ op ∈ ops, op.inRuntime = true) →
      ∃ tasks t', (∀ op ∈ tasks, op.isTask = true) ∧ runFrom (step route) t tasks = some t' ∧
        t'.accepted = t.accepted ∧ handledAt e t'.handled = ticketsAt e t'.accepted) := by
  have hserving := fun noRuntime (hruntime : ∀ op ∈ ops, noRuntime ∨ op.inRuntime = true) =>
    serving_run hcapacity (serving_empty route.mailboxCapacity e noRuntime now) hspares hruntime hrun
  have h := hserving True (fun _ _ => .inl trivial)
  have hnodup := h.ticketed.nodup_at e
  have hpre : handledAt e t.handled <+: ticketsAt e t.accepted := ⟨_, h.served.books.symm⟩
  refine ⟨hnodup, hpre, ?_, h.served.books, h.served.kept, fun uid uid' => liveAt_unique h.served, ?_,
    fun hruntime => ?_⟩
  · intro a ha b hb hae hbe hticket
    exact inj_on_of_nodup_map (hnodup.sublist hpre.sublist)
      (mem_filter.mpr ⟨ha, decide_eq_true hae⟩) (mem_filter.mpr ⟨hb, decide_eq_true hbe⟩) hticket
  · intro context uid held reactivate hslot
    have hseat : t.registry.seats e = some (.stopping context uid held reactivate) :=
      seat_of_slot hslot
    obtain ⟨incarnation, hcell, -⟩ := h.numbered.owned e _ hseat
    exact (h.served.seated _ _ hseat hcell).1
  · exact tasks_finish hcapacity (hserving False (fun op hop => .inr (hruntime op hop)))

def cartRoute : LocalEntityRoute := ⟨⟨"a", "1"⟩, 2, none⟩

def toCart (message : String) : LocalOp String :=
  .deliver ⟨true, none⟩ ⟨⟨"cart"⟩, ⟨"cart-1"⟩, 0, ⟨"a", "1"⟩, message⟩

def passivatedCart : List (LocalOp String) :=
  [toCart "first", .passivateEntityWith ⟨true, none⟩ ⟨"cart-1"⟩ none, toCart "second",
    .actorTurn 0 .continueRunning, .actorTurn 0 .continueRunning, .actorTurn 0 .continueRunning,
    .actorTurn 0 .continueRunning, .watcher ⟨true, none⟩ ⟨"cart-1"⟩ 0,
    .actorTurn 1 .continueRunning]

lemma passivatedCart_outcome : (runFrom (step cartRoute) (empty 0) passivatedCart).map
    (fun t => t.handled) = some [⟨⟨"cart-1"⟩, 0, 0⟩, ⟨⟨"cart-1"⟩, 1, 1⟩] := by
  decide +kernel

/-- The second message is handled by the second incarnation, and both once. -/
theorem passivatedCart_handled_once :
    ∃ t, runFrom (step cartRoute) (empty 0) passivatedCart = some t ∧
      t.handled = [⟨⟨"cart-1"⟩, 0, 0⟩, ⟨⟨"cart-1"⟩, 1, 1⟩] ∧
      (ticketsAt ⟨"cart-1"⟩ t.accepted).Nodup ∧
      handledAt ⟨"cart-1"⟩ t.handled <+: ticketsAt ⟨"cart-1"⟩ t.accepted := by
  obtain ⟨t, hrun, hhandled⟩ := map_eq_some_iff.mp passivatedCart_outcome
  have hspares : StepsMeet (step cartRoute) (fun s op => s.Spares ⟨"cart-1"⟩ op = true) (empty 0)
      passivatedCart := by decide +kernel
  obtain ⟨hnodup, hpre, -⟩ :=
    accepted_handled_once_in_order Nat.two_pos 0 hspares hrun
  exact ⟨t, hrun, hhandled, hnodup, hpre⟩

end LocalState
end Rakka.Sharding
