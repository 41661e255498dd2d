import Rakka.Sharding.LocalMoves

/-! The registry of a local route, and its deliveries as moves of the registry. -/

namespace Rakka.Sharding
open Rakka.Core Cluster Foundation BTreeMap

namespace LocalState
variable {M : Type}
variable {uid : ActorUid} {e : EntityId} {context : LocalEntityContext}

def registry (s : LocalState M) : Registry M where
  seats e := s.actors[e]?.map Seat.ofSlot
  cells uid := s.cells[uid]?
  nextUid := s.nextUid
  handoff := s.shardHandoffState
  watchers := s.watchers
  nextTicket := s.nextTicket
  accepted := s.accepted
  handled := s.handled
  dropped := s.dropped

variable (s : LocalState M)

lemma registry_actors {actors : BTreeMap EntityId (LocalEntitySlot M)} {e : EntityId}
    (slot : Option (LocalEntitySlot M)) (h : ∀ a, actors[a]? = if a = e then slot else s.actors[a]?) :
    ({ s with actors } : LocalState M).registry = s.registry.setSeat e (slot.map Seat.ofSlot) := by
  have hseats : (fun a => actors[a]?.map Seat.ofSlot) =
      Function.update s.registry.seats e (slot.map Seat.ofSlot) := by
    funext a
    rw [h, Function.update_apply]
    split_ifs <;> rfl
  exact congrArg (fun seats => { s.registry with seats := seats }) hseats

lemma registry_setSlot (e : EntityId) (slot : LocalEntitySlot M) :
    (s.setSlot e slot).registry = s.registry.setSeat e (some (Seat.ofSlot slot)) :=
  s.registry_actors (some slot) (fun _ => lookup_insert ..)

lemma registry_removeSlot (e : EntityId) :
    (s.removeSlot e).registry = s.registry.setSeat e none :=
  s.registry_actors none (fun _ => lookup_erase ..)

lemma registry_setCell (uid : ActorUid) (incarnation : Incarnation M) :
    (s.setCell uid incarnation).registry = s.registry.setCell uid incarnation := by
  have hcells : (fun a => (s.cells.insert uid incarnation)[a]?) =
      Function.update s.registry.cells uid (some incarnation) := by
    funext a
    rw [lookup_insert]
    by_cases ha : a = uid
    · rw [if_pos ha, ha, Function.update_self]
    · rw [if_neg ha, Function.update_of_ne ha]
      rfl
  exact congrArg (fun cells => { s.registry with cells := cells }) hcells

lemma registry_warnDropped (e : EntityId) (parcels : List (Parcel M)) :
    (s.warnDropped e parcels).registry = s.registry.drop e parcels := rfl

lemma registry_setShardState (shardId : ShardId) (state : ShardHandoffState) :
    (s.setShardState shardId state).registry =
      { s.registry with handoff := Function.update s.registry.handoff shardId state } := by
  have hhandoff : (s.setShardState shardId state).shardHandoffState =
      Function.update s.registry.handoff shardId state := by
    funext k
    simp only [shardHandoffState, setShardState]
    rw [lookup_insert]
    by_cases hk : k = shardId
    · rw [if_pos hk, hk, Function.update_self]
      rfl
    · rw [if_neg hk, Function.update_of_ne hk]
      rfl
  exact congrArg (fun handoff => { s.registry with handoff := handoff }) hhandoff

lemma registry_spawnStopWatcher (env : CallEnv) (e : EntityId) (uid : ActorUid) :
    (s.spawnStopWatcher env e uid).registry =
      s.registry.watch (if env.runtime then [(e, uid)] else []) := by
  unfold spawnStopWatcher
  split_ifs
  · rfl
  · simp [Registry.watch]

lemma registry_spawnOwedStop (env : CallEnv) (e : EntityId) (uid : ActorUid) :
    (s.spawnOwedStop env e uid).registry = s.registry := by
  unfold spawnOwedStop
  split_ifs <;> rfl

variable {s}

lemma seat_of_slot {slot : LocalEntitySlot M} (h : s.actors[e]? = some slot) :
    s.registry.seats e = some (Seat.ofSlot slot) := by
  change s.actors[e]?.map Seat.ofSlot = _
  rw [h]
  rfl

lemma seat_of_none (h : s.actors[e]? = none) : s.registry.seats e = none := by
  change s.actors[e]?.map Seat.ofSlot = _
  rw [h]
  rfl

lemma slot_of_stopping {held : List (Parcel M)} {reactivate : Bool}
    (h : s.registry.seats e = some (.stopping context uid held reactivate)) :
    s.actors[e]? = some (.stopping context uid held reactivate) := by
  cases hslot : s.actors[e]? with
  | none => cases (seat_of_none hslot).symm.trans h
  | some slot =>
    have hseat := (seat_of_slot hslot).symm.trans h
    cases slot with
    | active => cases hseat
    | stopping =>
      cases hseat
      rfl

lemma isTerminated_iff : s.isTerminated uid = true ↔ s.registry.Terminated uid := by
  change s.isTerminated uid = true ↔ ∀ incarnation, s.cells[uid]? = some incarnation → _
  unfold isTerminated
  cases h : s.cells[uid]? with
  | none => simp
  | some => simp [ActorCell.isTerminated]

lemma isStopping_iff : s.isStopping uid = true ↔ s.registry.Closed uid := by
  change s.isStopping uid = true ↔ ∀ incarnation, s.cells[uid]? = some incarnation → _
  unfold isStopping
  cases h : s.cells[uid]? with
  | none | some => simp

lemma setCell_self {incarnation : Incarnation M} (h : s.cells[uid]? = some incarnation) :
    s.setCell uid incarnation = s := by
  unfold setCell
  rw [insert_of_lookup h]

lemma registry_setDeadline {deadline deadline' : Option ℕ} {armed armed' : Bool}
    (h : s.actors[e]? = some (.active context uid deadline armed)) :
    (s.setSlot e (.active context uid deadline' armed')).registry = s.registry := by
  have hseat : s.registry.seats e = some (.active context uid) := seat_of_slot h
  rw [registry_setSlot]
  exact s.registry.setSeat_self hseat

variable (s)

lemma registry_noteDelivery (route : LocalEntityRoute) (env : CallEnv) (e : EntityId) :
    (s.noteDelivery route env e).registry = s.registry := by
  unfold noteDelivery
  cases route.idlePassivationTimeout with
  | none => rfl
  | some =>
    cases hslot : s.actors[e]? with
    | none => rfl
    | some slot =>
      cases slot with
      | stopping => rfl
      | active =>
        dsimp only
        split_ifs
        · exact registry_setDeadline hslot
        · exact registry_setDeadline hslot

inductive Told (uid : ActorUid) (parcel : Parcel M) :
    Except (TellError (Parcel M)) Unit × LocalState M → Prop
  | queued {incarnation : Incarnation M} (hcell : s.cells[uid]? = some incarnation)
      (hopen : incarnation.cell.isStopping = false)
      (hroom : incarnation.cell.mailbox.length < incarnation.cell.mailboxCapacity) :
      Told uid parcel (.ok (), s.setCell uid
        { incarnation with cell := incarnation.cell.push (.user parcel) })
  | full : Told uid parcel (.error (.full parcel), s)
  | closed (hclosed : s.isStopping uid = true) : Told uid parcel (.error (.closed parcel), s)

lemma tell_cases (uid : ActorUid) (parcel : Parcel M) : s.Told uid parcel (s.tell uid parcel) := by
  unfold tell
  cases hcell : s.cells[uid]? with
  | none => exact .closed (by rw [isStopping, hcell])
  | some incarnation =>
    have htold := incarnation.cell.tell_cases parcel
    dsimp only
    generalize incarnation.cell.tell parcel = out at htold
    cases htold with
    | queued hopen hroom => exact .queued hcell hopen hroom
    | full =>
      rw [setCell_self hcell]
      exact .full
    | closed hclosed =>
      rw [setCell_self hcell]
      exact .closed (by rw [isStopping, hcell]; exact hclosed)

inductive Stopped (uid : ActorUid) : Except StopError Unit × LocalState M → Prop
  | queued {incarnation : Incarnation M} (hcell : s.cells[uid]? = some incarnation)
      (hopen : incarnation.cell.isStopping = false)
      (hroom : incarnation.cell.mailbox.length < incarnation.cell.mailboxCapacity) :
      Stopped uid (.ok (), s.setCell uid { incarnation with cell := incarnation.cell.push .stop })
  | full : Stopped uid (.error .mailboxFull, s)
  | closed (hclosed : s.isStopping uid = true) : Stopped uid (.ok (), s)

lemma stop_cases (uid : ActorUid) : s.Stopped uid (s.stop uid) := by
  unfold stop
  cases hcell : s.cells[uid]? with
  | none => exact .closed (by rw [isStopping, hcell])
  | some incarnation =>
    have hstopped := incarnation.cell.stop_cases
    dsimp only
    generalize incarnation.cell.stop = out at hstopped
    cases hstopped with
    | queued hopen hroom => exact .queued hcell hopen hroom
    | full =>
      rw [setCell_self hcell]
      exact .full
    | closed hclosed =>
      rw [setCell_self hcell]
      exact .closed (by rw [isStopping, hcell]; exact hclosed)

variable {s}

theorem registry_tellHeld {capacity : ℕ} {mailbox : List (Envelope (Parcel M))} (e : EntityId)
    (held : List (Parcel M)) (hcell : s.cells[uid]? = some ⟨context, ⟨capacity, mailbox, .running⟩⟩)
    : (s.tellHeld e uid held).registry = (s.registry.setCell uid ⟨context, ⟨capacity,
        mailbox ++ (held.take (capacity - mailbox.length)).map .user, .running⟩⟩).drop e
        (held.drop (capacity - mailbox.length)) := by
  induction held generalizing s mailbox with
  | nil =>
    rw [List.take_nil, List.drop_nil, Registry.drop_nil, List.map_nil, List.append_nil,
      ← registry_setCell, setCell_self hcell]
    rfl
  | cons parcel held ih =>
    unfold tellHeld tell
    rw [hcell]
    by_cases hroom : mailbox.length < capacity
    · have hrest : capacity - mailbox.length = capacity - (mailbox.length + 1) + 1 := by omega
      have hnext : (s.setCell uid ⟨context, ⟨capacity, mailbox ++ [.user parcel], .running⟩⟩).cells[
          uid]? = some ⟨context, ⟨capacity, mailbox ++ [.user parcel], .running⟩⟩ := by
        rw [setCell, lookup_insert, if_pos rfl]
      simp only [ActorCell.tell, ActorCell.isTerminated, ActorCell.isStopping, reduceCtorEq,
        decide_false, Bool.or_self, Bool.false_eq_true, if_false, if_pos hroom]
      rw [ih hnext, registry_setCell, hrest]
      simp [Registry.setCell, Registry.drop, Function.update_idem]
    · have hnone : capacity - mailbox.length = 0 := by omega
      simp only [ActorCell.tell, ActorCell.isTerminated, ActorCell.isStopping, reduceCtorEq,
        decide_false, Bool.or_self, Bool.false_eq_true, if_false, if_neg hroom]
      rw [registry_warnDropped, registry_setCell, hnone]
      simp

end LocalState

/-- The failures a call can meet are among the terms. -/
structure CallEnv.Within (route : LocalEntityRoute) (terms : RouteTerms) (env : CallEnv) : Prop where
  spawns : route.mailboxCapacity = 0 ∨ env.spawnError ≠ none → terms.spawnsFail
  runtime : env.runtime = false → terms.noRuntime

lemma CallEnv.Within.watches {route : LocalEntityRoute} {terms : RouteTerms} {env : CallEnv}
    (henv : env.Within route terms) (e : EntityId) (uid : ActorUid) :
    Registry.Watches terms e uid (if env.runtime then [(e, uid)] else []) := by
  cases hruntime : env.runtime with
  | false => exact .inl (henv.runtime hruntime)
  | true => exact .inr (List.mem_singleton_self _)

namespace LocalState
variable {M : Type} (s : LocalState M)

section
variable (route : LocalEntityRoute) (env : CallEnv) (context : LocalEntityContext)
  (held : List (Parcel M))

inductive Activated : Except EntityDeliveryFailure ActorUid × LocalState M → Prop
  | spawned {s' : LocalState M} (hpos : 0 < route.mailboxCapacity)
      (hregistry : s'.registry = s.registry.seatNew route.mailboxCapacity context held) :
      Activated (.ok s.nextUid, s')
  | failed (failure : EntityDeliveryFailure)
      (hwhy : route.mailboxCapacity = 0 ∨ env.spawnError ≠ none) :
      Activated (.error failure, s.warnDropped context.entityId held)

lemma registry_seatNew {capacity : ℕ} (s' : LocalState M)
    (hspawned : s'.registry = { s.registry.setCell s.nextUid ⟨context, .new capacity⟩ with
      nextUid := s.nextUid + 1 }) :
    ((s'.tellHeld context.entityId s.nextUid held).setSlot context.entityId
      (.active context s.nextUid none false)).registry =
      s.registry.seatNew capacity context held := by
  have hcell : s'.cells[s.nextUid]? = some ⟨context, ⟨capacity, [], .running⟩⟩ := by
    change s'.registry.cells s.nextUid = _
    rw [hspawned]
    exact Function.update_self ..
  rw [registry_setSlot, registry_tellHeld context.entityId held hcell, hspawned]
  simp only [Registry.seatNew, Registry.setCell, Registry.setSeat, Registry.drop,
    Function.update_idem, Seat.ofSlot, List.length_nil, Nat.sub_zero, List.nil_append]
  rfl

lemma activateSlot_cases :
    s.Activated route env context held (s.activateSlot route env context held) := by
  unfold activateSlot spawnIncarnation
  by_cases hcapacity : route.mailboxCapacity = 0
  · rw [if_pos hcapacity]
    exact .failed _ (.inl hcapacity)
  rw [if_neg hcapacity]
  cases herror : env.spawnError with
  | some => exact .failed _ (.inr (by rw [herror]; exact Option.some_ne_none _))
  | none =>
    refine .spawned (Nat.pos_of_ne_zero hcapacity) ?_
    have hspawned := congrArg (fun r : Registry M => { r with nextUid := s.nextUid + 1 })
      (registry_setCell s s.nextUid ⟨context, .new route.mailboxCapacity⟩)
    have hseated := s.registry_seatNew context held { s.setCell s.nextUid
      ⟨context, .new route.mailboxCapacity⟩ with nextUid := s.nextUid + 1 } hspawned
    split_ifs
    · exact hseated
    · rw [registry_noteDelivery]
      exact hseated

end

section
variable {route : LocalEntityRoute} {terms : RouteTerms} {env : CallEnv}
variable {parcel : Parcel M}

  {context : LocalEntityContext}

/-- What a delivery that was attempted did: a parcel taken is closed with an acceptance. -/
def Attempted (capacity : ℕ) (terms : RouteTerms) (r : Registry M) (e : EntityId) :
    Except (EntityTellError M) Unit × LocalState M → Prop
  | (.ok (), s') => Registry.Moves capacity terms r (s'.registry.close e true)
  | (.error _, s') => Registry.Moves capacity terms r s'.registry

variable {s}

theorem activateSlot_moves (context : LocalEntityContext) (henv : env.Within route terms)
    (hvacant : s.registry.Vacant context.entityId)
    (hwhy : s.registry.Admits terms context.entityId context.shardId ∨ ∃ uid held reactivate,
      s.registry.seats context.entityId = some (.stopping context uid held reactivate) ∧
        (held ≠ [] ∨ reactivate = true)) : Registry.Move route.mailboxCapacity terms s.registry
      ((s.removeSlot context.entityId).activateSlot route env context
        (s.registry.heldAt context.entityId)).2.registry := by
  have hactivated := (s.removeSlot context.entityId).activateSlot_cases route env context
    (s.registry.heldAt context.entityId)
  generalize (s.removeSlot context.entityId).activateSlot route env context
    (s.registry.heldAt context.entityId) = out at hactivated
  cases hactivated with
  | spawned hpos hregistry =>
    rw [hregistry, registry_removeSlot, Registry.seatNew_setSeat]
    exact .spawn context hvacant hwhy hpos
  | failed failure hfailed =>
    rw [registry_warnDropped, registry_removeSlot]
    exact .spawnFails (henv.spawns hfailed) hvacant

lemma activateAndDeliver_moves (context : LocalEntityContext) (henv : env.Within route terms)
    (hvacant : s.registry.Vacant context.entityId)
    (hadmits : s.registry.Admits terms context.entityId context.shardId)
    (hticket : parcel.ticket = some s.nextTicket) :
    Attempted route.mailboxCapacity terms s.registry context.entityId
      ((s.removeSlot context.entityId).activateAndDeliver route env context
        (s.registry.heldAt context.entityId) parcel) := by
  have hmove := activateSlot_moves context henv hvacant (.inl hadmits)
  have hactivated := (s.removeSlot context.entityId).activateSlot_cases route env context
    (s.registry.heldAt context.entityId)
  unfold activateAndDeliver
  generalize (s.removeSlot context.entityId).activateSlot route env context
    (s.registry.heldAt context.entityId) = out at hactivated hmove ⊢
  cases hactivated with
  | failed => exact .single hmove
  | @spawned s' hpos hregistry =>
    rw [registry_removeSlot, Registry.seatNew_setSeat] at hregistry
    have hseat : s'.registry.seats context.entityId = some (.active context s.nextUid) := by
      rw [hregistry]
      exact Function.update_self ..
    have hnext : s'.registry.nextTicket = s.nextTicket := by
      rw [hregistry]
      rfl
    have htold := s'.tell_cases (s.removeSlot context.entityId).nextUid parcel
    dsimp only
    generalize s'.tell (s.removeSlot context.entityId).nextUid parcel = told at htold ⊢
    cases htold with
    | queued hcell hopen hroom =>
      refine .tail (.single hmove) ?_
      rw [registry_noteDelivery, registry_setCell]
      exact .queue parcel hseat hcell hopen hroom (hticket.trans (congrArg some hnext.symm))
    | full | closed => exact .single hmove

lemma holdBehindSelfStop_moves {e : EntityId} {uid : ActorUid} {deadline : Option ℕ}
    {armed : Bool} (henv : env.Within route terms)
    (hslot : s.actors[e]? = some (.active context uid deadline armed))
    (hstopping : s.isStopping uid = true) (hadmits : ∃ shardId, s.registry.Admits terms e shardId)
    (hticket : parcel.ticket = some s.nextTicket) :
    Registry.Move route.mailboxCapacity terms s.registry
      ((s.holdBehindSelfStop env e parcel).registry.close e true) := by
  unfold holdBehindSelfStop
  rw [hslot]
  change Registry.Move _ _ _ (Registry.close (registry (spawnStopWatcher _ _ _ _)) _ _)
  rw [registry_spawnStopWatcher, registry_setSlot]
  exact .holdBehind parcel _ (seat_of_slot hslot) (isStopping_iff.mp hstopping) hadmits
    (henv.watches e uid) hticket

lemma deliverLocked_moves {message : RoutedEntityMessage M} (henv : env.Within route terms)
    (hadmits : s.registry.Admits terms message.entityId message.shardId)
    (hticket : parcel.ticket = some s.nextTicket) :
    Attempted route.mailboxCapacity terms s.registry message.entityId
      (s.deliverLocked route env message parcel) := by
  have hspawn := fun hvacant => activateAndDeliver_moves
    ⟨route.localNodeId, message.entityType, message.entityId, message.shardId⟩ henv hvacant hadmits hticket
  unfold deliverLocked
  dsimp only at hspawn ⊢
  cases hslot : s.actors[message.entityId]? with
  | none =>
    have hseat := seat_of_none hslot
    rw [Registry.heldAt_of_none hseat] at hspawn
    exact hspawn (Registry.vacant_of_none hseat)
  | some slot =>
    cases slot with
    | active context uid =>
      have hseat : s.registry.seats message.entityId = some (.active context uid) :=
        seat_of_slot hslot
      dsimp only
      split_ifs with hterminated hstopping
      · rw [Registry.heldAt_of_active hseat] at hspawn
        exact hspawn (Registry.vacant_of_seat hseat (isTerminated_iff.mp hterminated))
      · exact .single (holdBehindSelfStop_moves henv hslot hstopping ⟨_, hadmits⟩ hticket)
      · have htold := s.tell_cases uid parcel
        generalize s.tell uid parcel = told at htold
        cases htold with
        | queued hcell hopen hroom =>
          refine .single ?_
          rw [registry_noteDelivery, registry_setCell]
          exact .queue parcel hseat hcell hopen hroom hticket
        | full => exact .refl
        | closed hclosed => exact absurd hclosed hstopping
    | stopping context uid held reactivate =>
      have hseat : s.registry.seats message.entityId =
          some (.stopping context uid held reactivate) := seat_of_slot hslot
      dsimp only
      split_ifs with hterminated hroom
      · rw [Registry.heldAt_of_stopping hseat] at hspawn
        exact hspawn (Registry.vacant_of_seat hseat (isTerminated_iff.mp hterminated))
      · refine .single ?_
        rw [registry_setSlot]
        exact .hold parcel hseat (fun h => hterminated (isTerminated_iff.mpr h)) ⟨_, hadmits⟩ hroom
          hticket
      · exact .refl

lemma accepts_of_ensure {shardId : ShardId}
    (h : s.ensureShardAcceptsDelivery shardId = .ok ()) : s.registry.Accepts shardId := by
  unfold ensureShardAcceptsDelivery at h
  change s.shardHandoffState shardId = _ ∨ s.shardHandoffState shardId = _
  cases hstate : s.shardHandoffState shardId with
  | owning => exact .inl rfl
  | acquired => exact .inr rfl
  | draining | transferring => simp [hstate] at h

lemma deliver_moves {message : RoutedEntityMessage M} (henv : env.Within route terms)
    (hroutes : terms.routes message.entityId message.shardId) :
    Registry.Moves route.mailboxCapacity terms s.registry
      (s.deliver route env message).2.registry := by
  have hattempt : Attempted route.mailboxCapacity terms s.registry message.entityId
      (s.deliverParcel route env message ⟨message.message, some s.nextTicket⟩) := by
    unfold deliverParcel
    split_ifs
    · exact .refl
    · cases hensure : s.ensureShardAcceptsDelivery message.shardId with
      | error => exact .refl
      | ok =>
        exact deliverLocked_moves henv ⟨hroutes, accepts_of_ensure hensure⟩ rfl
  unfold deliver
  generalize s.deliverParcel route env message ⟨message.message, some s.nextTicket⟩ = out
    at hattempt
  rcases out with ⟨_ | _, s'⟩
  · have hrefuse : Registry.Move route.mailboxCapacity terms s'.registry
        (s'.registry.close message.entityId false) := .refuse ..
    rw [Registry.close_false] at hrefuse
    exact Relation.ReflTransGen.tail hattempt hrefuse
  · exact hattempt

end

end LocalState
end Rakka.Sharding
