import Rakka.Sharding.LocalRoute

/-! What can happen to the slots and actors of a local route, apart from its timers. Every
operation of the route is a sequence of these moves. -/

namespace Rakka.Sharding
open Rakka.Core Cluster Foundation

/-- A slot without its idle timer. -/
inductive Seat (M : Type) where
  | active (context : LocalEntityContext) (uid : ActorUid)
  | stopping (context : LocalEntityContext) (uid : ActorUid) (held : List (Parcel M))
      (reactivate : Bool)

namespace Seat
variable {M : Type}

def ofSlot : LocalEntitySlot M → Seat M
  | .active context actorRef _ _ => .active context actorRef
  | .stopping context actorRef held reactivate => .stopping context actorRef held reactivate

def context : Seat M → LocalEntityContext
  | .active context _ => context
  | .stopping context _ _ _ => context

def uid : Seat M → ActorUid
  | .active _ uid => uid
  | .stopping _ uid _ _ => uid

def held : Seat M → List (Parcel M)
  | .active _ _ => []
  | .stopping _ _ held _ => held

end Seat

structure Registry (M : Type) where
  seats : EntityId → Option (Seat M)
  cells : ActorUid → Option (Incarnation M)
  nextUid : ActorUid
  handoff : ShardId → ShardHandoffState
  watchers : List (EntityId × ActorUid)
  nextTicket : ℕ
  accepted : List (EntityId × ℕ)
  handled : List Handling
  dropped : List (EntityId × ℕ)

/-- What may happen: failing spawns, actors that stop on their own, shards given away, calls outside
of a runtime, entities routed with a shard, and states of shards. -/
structure RouteTerms where
  spawnsFail : Prop
  selfStops : Prop
  transfers : EntityId → Prop
  noRuntime : Prop
  routes : EntityId → ShardId → Prop
  sets : ShardId → ShardHandoffState → Prop

namespace Registry
variable {M : Type}
variable (r : Registry M) (e : EntityId)

def setSeat (seat : Option (Seat M)) : Registry M :=
  { r with seats := Function.update r.seats e seat }

section
variable (terms : RouteTerms) (uid : ActorUid)

def setCell (incarnation : Incarnation M) : Registry M :=
  { r with cells := Function.update r.cells uid (some incarnation) }

def drop (parcels : List (Parcel M)) : Registry M :=
  { r with dropped := r.dropped ++ (parcels.filterMap Parcel.ticket).map (e, ·) }

def close (accepted : Bool) : Registry M :=
  { r with
    nextTicket := r.nextTicket + 1
    accepted := r.accepted ++ if accepted then [(e, r.nextTicket)] else [] }

def Terminated : Prop :=
  ∀ incarnation, r.cells uid = some incarnation → incarnation.cell.phase = .terminated

def Closed : Prop :=
  ∀ incarnation, r.cells uid = some incarnation → incarnation.cell.isStopping = true

def Vacant : Prop :=
  ∀ seat, r.seats e = some seat → r.Terminated seat.uid

def watch (watchers : List (EntityId × ActorUid)) : Registry M :=
  { r with watchers := r.watchers ++ watchers }

def Accepts (shardId : ShardId) : Prop :=
  r.handoff shardId = .owning ∨ r.handoff shardId = .acquired

def heldAt : List (Parcel M) :=
  ((r.seats e).map Seat.held).getD []

/-- A new incarnation takes the seat with as many held messages as its mailbox has room for. -/
def seatNew (capacity : ℕ) (context : LocalEntityContext) (held : List (Parcel M)) : Registry M :=
  let cell : ActorCell (Parcel M) := ⟨capacity, (held.take capacity).map .user, .running⟩
  ((({ r with nextUid := r.nextUid + 1 } : Registry M).setCell r.nextUid ⟨context, cell⟩).setSeat
    context.entityId (some (.active context r.nextUid))).drop context.entityId (held.drop capacity)

def pushTo (incarnation : Incarnation M) (envelope : Envelope (Parcel M)) : Registry M :=
  r.setCell uid { incarnation with cell := incarnation.cell.push envelope }

def recordTurn : Turn (Parcel M) → Registry M
  | .handled parcel => { r with handled := r.handled ++ parcel.ticket.toList.map (⟨e, ·, uid⟩) }
  | .closed deadLetters => r.drop e deadLetters
  | .left | .terminated => r

/-- A delivery or activation of the entity that its shard lets through. -/
def Admits (r : Registry M) (e : EntityId) (shardId : ShardId) : Prop :=
  terms.routes e shardId ∧ r.Accepts shardId

def Watches (e : EntityId) (uid : ActorUid) (watchers : List (EntityId × ActorUid)) : Prop :=
  terms.noRuntime ∨ (e, uid) ∈ watchers

end

inductive Move (capacity : ℕ) (terms : RouteTerms) : Registry M → Registry M → Prop
  | refuse (r : Registry M) (e : EntityId) : Move capacity terms r (r.close e false)
  | queue {r : Registry M} {e : EntityId} {context : LocalEntityContext} {uid : ActorUid}
      {incarnation : Incarnation M} (parcel : Parcel M)
      (hseat : r.seats e = some (.active context uid)) (hcell : r.cells uid = some incarnation)
      (hopen : incarnation.cell.isStopping = false)
      (hroom : incarnation.cell.mailbox.length < incarnation.cell.mailboxCapacity)
      (hticket : parcel.ticket = some r.nextTicket) :
      Move capacity terms r ((r.pushTo uid incarnation (.user parcel)).close e true)
  | hold {r : Registry M} {e : EntityId} {context : LocalEntityContext} {uid : ActorUid}
      {held : List (Parcel M)} {reactivate : Bool} (parcel : Parcel M)
      (hseat : r.seats e = some (.stopping context uid held reactivate))
      (hlive : ¬ r.Terminated uid) (hadmits : ∃ shardId, r.Admits terms e shardId)
      (hroom : held.length < capacity) (hticket : parcel.ticket = some r.nextTicket) :
      Move capacity terms r
        ((r.setSeat e (some (.stopping context uid (held ++ [parcel]) reactivate))).close e true)
  | holdBehind {r : Registry M} {e : EntityId} {context : LocalEntityContext} {uid : ActorUid}
      (parcel : Parcel M) (watchers : List (EntityId × ActorUid))
      (hseat : r.seats e = some (.active context uid)) (hclosed : r.Closed uid)
      (hadmits : ∃ shardId, r.Admits terms e shardId) (hwatches : Watches terms e uid watchers)
      (hticket : parcel.ticket = some r.nextTicket) :
      Move capacity terms r
        (((r.setSeat e (some (.stopping context uid [parcel] false))).watch watchers).close e true)
  | vacate {r : Registry M} (seats : EntityId → Option (Seat M))
      (hseats : ∀ e, seats e = r.seats e ∨ seats e = none ∧ ∃ context uid,
        r.seats e = some (.active context uid) ∧ r.Terminated uid) :
      Move capacity terms r { r with seats := seats }
  | spawn {r : Registry M} (context : LocalEntityContext) (hvacant : r.Vacant context.entityId)
      (hwhy : r.Admits terms context.entityId context.shardId ∨ ∃ uid held reactivate,
        r.seats context.entityId = some (.stopping context uid held reactivate) ∧
          (held ≠ [] ∨ reactivate = true)) (hpos : 0 < capacity) :
      Move capacity terms r (r.seatNew capacity context (r.heldAt context.entityId))
  | spawnFails {r : Registry M} {e : EntityId} (hterms : terms.spawnsFail) (hvacant : r.Vacant e) :
      Move capacity terms r ((r.setSeat e none).drop e (r.heldAt e))
  | stopMessage {r : Registry M} {e : EntityId} {context : LocalEntityContext} {uid : ActorUid}
      {incarnation : Incarnation M} (message : M)
      (hseat : r.seats e = some (.active context uid)) (hcell : r.cells uid = some incarnation)
      (hopen : incarnation.cell.isStopping = false)
      (hroom : incarnation.cell.mailbox.length < incarnation.cell.mailboxCapacity) :
      Move capacity terms r (r.pushTo uid incarnation (.user ⟨message, none⟩))
  | queueStop {r : Registry M} {e : EntityId} {context : LocalEntityContext} {uid : ActorUid}
      {incarnation : Incarnation M} (watchers : List (EntityId × ActorUid))
      (hseat : r.seats e = some (.active context uid)) (hcell : r.cells uid = some incarnation)
      (hopen : incarnation.cell.isStopping = false)
      (hroom : incarnation.cell.mailbox.length < incarnation.cell.mailboxCapacity)
      (hwatches : Watches terms e uid watchers) :
      Move capacity terms r (((r.pushTo uid incarnation .stop).setSeat e
        (some (.stopping context uid [] false))).watch watchers)
  | stopped {r : Registry M} {e : EntityId} {context : LocalEntityContext} {uid : ActorUid}
      (watchers : List (EntityId × ActorUid)) (hseat : r.seats e = some (.active context uid))
      (hclosed : r.Closed uid) (hwatches : Watches terms e uid watchers) :
      Move capacity terms r
        ((r.setSeat e (some (.stopping context uid [] false))).watch watchers)
  | reactivate {r : Registry M} {e : EntityId} {context : LocalEntityContext} {uid : ActorUid}
      {held : List (Parcel M)} {reactivate : Bool}
      (hseat : r.seats e = some (.stopping context uid held reactivate))
      (hlive : ¬ r.Terminated uid) (hadmits : ∃ shardId, r.Admits terms e shardId) :
      Move capacity terms r (r.setSeat e (some (.stopping context uid held true)))
  | remove {r : Registry M} {e : EntityId} {context : LocalEntityContext} {uid : ActorUid}
      (hseat : r.seats e = some (.stopping context uid [] false))
      (hterminated : r.Terminated uid) : Move capacity terms r (r.setSeat e none)
  | clear {r : Registry M} {e : EntityId} {context : LocalEntityContext} {uid : ActorUid}
      {held : List (Parcel M)} {reactivate : Bool} (hterms : terms.transfers e)
      (hseat : r.seats e = some (.stopping context uid held reactivate)) :
      Move capacity terms r ((r.setSeat e (some (.stopping context uid [] false))).drop e held)
  | turn {r : Registry M} {uid : ActorUid} {incarnation : Incarnation M} {action : ActorAction}
      {turn : Turn (Parcel M)} {cell : ActorCell (Parcel M)}
      (hterms : terms.selfStops ∨ action = .continueRunning)
      (hcell : r.cells uid = some incarnation)
      (hturn : incarnation.cell.turn action = some (turn, cell)) :
      Move capacity terms r ((r.setCell uid { incarnation with cell := cell }).recordTurn
        incarnation.context.entityId uid turn)
  | leave {r : Registry M} {uid : ActorUid} {incarnation : Incarnation M}
      {cell : ActorCell (Parcel M)} (hterms : terms.selfStops)
      (hcell : r.cells uid = some incarnation) (hleave : incarnation.cell.leave = some cell) :
      Move capacity terms r (r.setCell uid { incarnation with cell := cell })
  | setState {r : Registry M} (shardId : ShardId) (state : ShardHandoffState)
      (hterms : terms.sets shardId state) :
      Move capacity terms r { r with handoff := Function.update r.handoff shardId state }
  | unwatch {r : Registry M} (e : EntityId) (uid : ActorUid)
      (hidle : ∀ context held reactivate,
        r.seats e ≠ some (.stopping context uid held reactivate)) :
      Move capacity terms r { r with watchers := r.watchers.erase (e, uid) }

abbrev Moves (capacity : ℕ) (terms : RouteTerms) : Registry M → Registry M → Prop :=
  Relation.ReflTransGen (Move capacity terms)

section
variable (r : Registry M)

lemma setSeat_self {e : EntityId} {seat : Option (Seat M)} (h : r.seats e = seat) :
    r.setSeat e seat = r := by
  rw [setSeat, ← h, Function.update_eq_self]

@[simp] lemma seats_setSeat_self (e : EntityId) (seat : Option (Seat M)) :
    (r.setSeat e seat).seats e = seat := Function.update_self ..

lemma seats_setSeat_of_ne {e e' : EntityId} (h : e' ≠ e) (seat : Option (Seat M)) :
    (r.setSeat e seat).seats e' = r.seats e' := Function.update_of_ne h ..

@[simp] lemma cells_setCell_self (uid : ActorUid) (incarnation : Incarnation M) :
    (r.setCell uid incarnation).cells uid = some incarnation := Function.update_self ..

section
variable (capacity : ℕ) (context : LocalEntityContext) (held : List (Parcel M))

lemma cells_seatNew_self : (r.seatNew capacity context held).cells r.nextUid =
      some ⟨context, ⟨capacity, (held.take capacity).map .user, .running⟩⟩ :=
  Function.update_self ..

lemma cells_seatNew_of_ne {uid : ActorUid} (h : uid ≠ r.nextUid) (capacity : ℕ)
    (context : LocalEntityContext) (held : List (Parcel M)) :
    (r.seatNew capacity context held).cells uid = r.cells uid := Function.update_of_ne h ..

@[simp] lemma seats_seatNew : (r.seatNew capacity context held).seats context.entityId =
      some (.active context r.nextUid) := Function.update_self ..

lemma close_false (e : EntityId) : r.close e false = { r with nextTicket := r.nextTicket + 1 } := by
  simp [close]

lemma drop_nil (e : EntityId) : r.drop e [] = r := by
  simp [drop]

lemma seatNew_setSeat (seat : Option (Seat M)) :
    (r.setSeat context.entityId seat).seatNew capacity context held =
      r.seatNew capacity context held := by
  simp [seatNew, setSeat, setCell, Function.update_idem]

end

def Keyed : Prop := ∀ e seat, r.seats e = some seat → seat.context.entityId = e

lemma heldAt_of_active {r : Registry M} {e : EntityId} {context : LocalEntityContext}
    {uid : ActorUid} (h : r.seats e = some (.active context uid)) : r.heldAt e = [] := by
  rw [heldAt, h]
  rfl

lemma heldAt_of_stopping {r : Registry M} {e : EntityId} {context : LocalEntityContext}
    {uid : ActorUid} {held : List (Parcel M)} {reactivate : Bool}
    (h : r.seats e = some (.stopping context uid held reactivate)) : r.heldAt e = held := by
  rw [heldAt, h]
  rfl

lemma heldAt_of_none {r : Registry M} {e : EntityId} (h : r.seats e = none) : r.heldAt e = [] := by
  rw [heldAt, h]
  rfl

lemma vacant_of_seat {r : Registry M} {e : EntityId} {seat : Seat M} (h : r.seats e = some seat)
    (hterminated : r.Terminated seat.uid) : r.Vacant e := by
  intro seat' h'
  rw [h, Option.some.injEq] at h'
  rwa [← h']

lemma vacant_of_none {r : Registry M} {e : EntityId} (h : r.seats e = none) : r.Vacant e := by
  intro seat h'
  rw [h] at h'
  exact absurd h' (Option.some_ne_none seat).symm

lemma Move.vacateSeat {r : Registry M} {capacity : ℕ} {terms : RouteTerms} {e : EntityId}
    {context : LocalEntityContext} {uid : ActorUid} (hseat : r.seats e = some (.active context uid))
    (hterminated : r.Terminated uid) : Move capacity terms r (r.setSeat e none) := by
  refine .vacate (Function.update r.seats e none) (fun e' => ?_)
  by_cases he : e' = e
  · subst he
    exact .inr ⟨Function.update_self .., context, uid, hseat, hterminated⟩
  · exact .inl (Function.update_of_ne he ..)

variable {r}

lemma Keyed.setSeat (h : r.Keyed) {e : EntityId} {seat : Option (Seat M)}
    (hseat : ∀ seat', seat = some seat' → seat'.context.entityId = e) : (r.setSeat e seat).Keyed := by
  intro e' seat' h'
  by_cases he : e' = e
  · subst he
    rw [seats_setSeat_self] at h'
    exact hseat seat' h'
  · rw [seats_setSeat_of_ne r he] at h'
    exact h e' seat' h'

lemma Keyed.reseat (h : r.Keyed) {e : EntityId} {seat seat' : Seat M} (hseat : r.seats e = some seat)
    (hcontext : seat'.context = seat.context) : (r.setSeat e (some seat')).Keyed := by
  refine h.setSeat (fun seat'' h'' => ?_)
  rw [← Option.some.inj h'', hcontext]
  exact h e seat hseat

lemma Move.keyed {capacity : ℕ} {terms : RouteTerms} {r' : Registry M}
    (hmove : Move capacity terms r r') (h : r.Keyed) : r'.Keyed := by
  cases hmove with
  | refuse | queue | stopMessage | leave | setState | unwatch => exact h
  | hold _ hseat | holdBehind _ _ hseat | queueStop _ hseat | stopped _ hseat | reactivate hseat
  | clear _ hseat => exact h.reseat hseat rfl
  | vacate seats hseats =>
    intro e seat hseat
    rcases hseats e with hsame | ⟨hnone, -⟩
    · exact h e seat (hsame ▸ hseat)
    · cases hnone.symm.trans hseat
  | spawn context =>
    refine h.setSeat (fun seat' h' => ?_)
    rw [← Option.some.inj h']
    rfl
  | spawnFails | remove => exact h.setSeat (fun _ h' => nomatch h')
  | @turn _ _ _ turn _ => cases turn <;> exact h

lemma Moves.invariant {capacity : ℕ} {terms : RouteTerms} {Inv : Registry M → Prop}
    (hmove : ∀ r r', Move capacity terms r r' → Inv r → Inv r') {r r' : Registry M}
    (hmoves : Moves capacity terms r r') (h : Inv r) : Inv r' := by
  induction hmoves with
  | refl => exact h
  | tail _ hlast ih => exact hmove _ _ hlast ih

end

end Registry
end Rakka.Sharding
