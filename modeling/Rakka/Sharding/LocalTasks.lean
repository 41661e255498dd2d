import Rakka.Sharding.LocalSimulation

/-! The passivations, watchers, timers and activations of a local route as moves of its
registry, and the whole step. -/

namespace Rakka.Sharding
open Rakka.Core Cluster Foundation Registry Option BTreeMap

namespace LocalState
variable {M : Type}

section
variable {s : LocalState M} {route : LocalEntityRoute} {terms : RouteTerms} {env : CallEnv}
variable {e : EntityId} {uid : ActorUid} {deadline : Option ℕ} {armed : Bool} {shardId : ShardId}
  {t : LocalState M}

  {context : LocalEntityContext}

lemma tellStopMessage_moves (hslot : s.actors[e]? = some (.active context uid deadline armed))
    (stopMessage : Option M) (capacity : ℕ) (terms : RouteTerms) :
    Registry.Moves capacity terms s.registry (s.tellStopMessage uid stopMessage).2.registry ∧
      (s.tellStopMessage uid stopMessage).2.actors = s.actors := by
  cases stopMessage with
  | none => exact ⟨.refl, rfl⟩
  | some message =>
    have htold := s.tell_cases uid ⟨message, none⟩
    change Registry.Moves _ _ _ (s.tell uid ⟨message, none⟩).2.registry ∧
      (s.tell uid ⟨message, none⟩).2.actors = _
    generalize s.tell uid ⟨message, none⟩ = told at htold
    cases htold with
    | queued hcell hopen hroom =>
      refine ⟨.single ?_, rfl⟩
      rw [registry_setCell]
      exact .stopMessage message (seat_of_slot hslot) hcell hopen hroom
    | full | closed => exact ⟨.refl, rfl⟩

/-- The slot of the entity is stopping with nothing held, or is not stopping, or was stopping
before; the other slots stay. -/
inductive Passivated (s : LocalState M) (e : EntityId) : PassivationOutcome × LocalState M → Prop
  | stopping {s' : LocalState M} {context : LocalEntityContext} {uid : ActorUid}
      (hothers : ∀ e' ≠ e, s'.actors[e']? = s.actors[e']?)
      (hslot : s'.actors[e]? = some (.stopping context uid [] false)) :
      Passivated s e (.stopping, s')
  | alreadyStopping {context : LocalEntityContext} {uid : ActorUid} {held : List (Parcel M)}
      {reactivate : Bool} (hslot : s.actors[e]? = some (.stopping context uid held reactivate)) :
      Passivated s e (.alreadyStopping, s)
  | absent {s' : LocalState M} (hothers : ∀ e' ≠ e, s'.actors[e']? = s.actors[e']?)
      (hslot : s'.actors[e]? = none) : Passivated s e (.absent, s')
  | abandoned {s' : LocalState M} {context : LocalEntityContext} {uid : ActorUid}
      {deadline : Option ℕ} {armed : Bool}
      (hslot : s.actors[e]? = some (.active context uid deadline armed))
      (hactors : s'.actors = s.actors) : Passivated s e (.abandoned, s')

/-- The second half of `passivateSlot`, from a state `s` that has the slots of `s₀`. -/
theorem stopSlot_cases {s₀ : LocalState M} (henv : env.Within route terms) (capacity : ℕ)
    (hactors : s.actors = s₀.actors)
    (hslot : s₀.actors[e]? = some (.active context uid deadline armed))
    {out : PassivationOutcome × LocalState M} (hout : out = match s.stop uid with
      | (.error .mailboxFull, s'') => (.abandoned, s'')
      | (_, s'') => (.stopping,
        (s''.setSlot e (.stopping context uid [] false)).spawnStopWatcher env e uid)) :
    Passivated s₀ e out ∧ Registry.Moves capacity terms s.registry out.2.registry := by
  have hseat : s.registry.seats e = some (.active context uid) := by
    rw [← hactors] at hslot
    exact seat_of_slot hslot
  have hpassivated : ∀ s'' : LocalState M, s''.actors = s₀.actors → Passivated s₀ e (.stopping,
      (s''.setSlot e (.stopping context uid [] false)).spawnStopWatcher env e uid) := by
    intro s'' hactors''
    have hafter : ((s''.setSlot e (.stopping context uid [] false)).spawnStopWatcher env e uid).actors =
        s₀.actors.insert e (.stopping context uid [] false) := by
      rw [← hactors'', spawnStopWatcher]
      split_ifs <;> rfl
    have hothers : ∀ e' ≠ e, (s₀.actors.insert e (.stopping context uid [] false))[e']? =
        s₀.actors[e']? := fun e' he => by rw [lookup_insert, if_neg he]
    have hnew : (s₀.actors.insert e (.stopping context uid [] false))[e]? =
        some (.stopping context uid [] false) := by rw [lookup_insert, if_pos rfl]
    rw [← hafter] at hothers hnew
    exact .stopping hothers hnew
  have hstopped := s.stop_cases uid
  generalize s.stop uid = stopped at hstopped hout
  cases hstopped with
  | queued hcell hopen hroom =>
    subst hout
    refine ⟨hpassivated _ hactors, .single ?_⟩
    rw [registry_spawnStopWatcher, registry_setSlot, registry_setCell]
    exact .queueStop _ hseat hcell hopen hroom (henv.watches e uid)
  | full =>
    subst hout
    exact ⟨.abandoned hslot hactors, .refl⟩
  | closed hclosed =>
    subst hout
    refine ⟨hpassivated _ hactors, .single ?_⟩
    rw [registry_spawnStopWatcher, registry_setSlot]
    exact .stopped _ hseat (isStopping_iff.mp hclosed) (henv.watches e uid)

lemma passivateSlot_cases (henv : env.Within route terms) (capacity : ℕ) (e : EntityId)
    (stopMessage : Option M) : Passivated s e (s.passivateSlot env e stopMessage) ∧
      Registry.Moves capacity terms s.registry (s.passivateSlot env e stopMessage).2.registry := by
  unfold passivateSlot
  cases hslot : s.actors[e]? with
  | none => exact ⟨.absent (fun _ _ => rfl) hslot, .refl⟩
  | some slot =>
    cases slot with
    | stopping => exact ⟨.alreadyStopping hslot, .refl⟩
    | active context uid =>
      dsimp only
      split_ifs with hterminated
      · refine ⟨.absent (fun e' he => ?_) ?_, .single ?_⟩
        · rw [removeSlot, lookup_erase, if_neg he]
        · rw [removeSlot, lookup_erase, if_pos rfl]
        · rw [registry_removeSlot]
          exact .vacateSeat (seat_of_slot hslot) (isTerminated_iff.mp hterminated)
      · obtain ⟨hmoves, hactors⟩ := tellStopMessage_moves hslot stopMessage capacity terms
        generalize s.tellStopMessage uid stopMessage = told at hmoves hactors
        obtain ⟨answer, s'⟩ := told
        have hstop := stopSlot_cases henv capacity hactors hslot rfl
        -- A full mailbox gives up; otherwise the stop is asked for, whatever the answer was.
        rcases answer with (_ | _) | _
        · exact ⟨.abandoned hslot hactors, hmoves⟩
        · exact ⟨hstop.1, hmoves.trans hstop.2⟩
        · exact ⟨hstop.1, hmoves.trans hstop.2⟩

lemma passivateEntityWith_moves (henv : env.Within route terms) (capacity : ℕ) (e : EntityId)
    (stopMessage : Option M) : Registry.Moves capacity terms s.registry
      (s.passivateEntityWith env e stopMessage).2.registry := by
  have hmoves := (passivateSlot_cases (s := s) henv capacity e stopMessage).2
  unfold passivateEntityWith
  generalize s.passivateSlot env e stopMessage = out at hmoves
  obtain ⟨_ | _ | _ | _, s'⟩ := out <;> exact hmoves

def QuietSlot (s : LocalState M) (e : EntityId) : Prop :=
  ∀ context uid held reactivate, s.actors[e]? = some (.stopping context uid held reactivate) →
    held = [] ∧ reactivate = false

lemma passivateShardEntity_moves (henv : env.Within route terms) (capacity : ℕ)
    (htransfers : ∀ slot, s.actors[e]? = some slot → terms.transfers e) :
    Registry.Moves capacity terms s.registry (s.passivateShardEntity env e).2.registry ∧
      (∀ e' ≠ e, (s.passivateShardEntity env e).2.actors[e']? = s.actors[e']?) ∧
      (s.passivateShardEntity env e).2.QuietSlot e := by
  by_cases hstopping : ∃ context uid held reactivate,
      s.actors[e]? = some (.stopping context uid held reactivate)
  · obtain ⟨context, uid, held, reactivate, hslot⟩ := hstopping
    unfold passivateShardEntity
    simp only [hslot]
    refine ⟨.single ?_, fun e' he => ?_, ?_⟩
    · rw [registry_setSlot, registry_warnDropped]
      exact .clear (htransfers _ hslot) (seat_of_slot hslot)
    · rw [setSlot, lookup_insert, if_neg he]
      rfl
    · intro context' uid' held' reactivate' hslot'
      rw [setSlot, lookup_insert, if_pos rfl] at hslot'
      cases hslot'
      exact ⟨rfl, rfl⟩
  · obtain ⟨hpassivated, hmoves⟩ := passivateSlot_cases (s := s) henv capacity e none
    unfold passivateShardEntity
    split
    · next context uid held _ hslot => exact absurd ⟨_, _, _, _, hslot⟩ hstopping
    generalize s.passivateSlot env e none = out at hpassivated hmoves
    cases hpassivated with
    | stopping hothers hslot =>
      refine ⟨hmoves, hothers, ?_⟩
      intro context' uid' held' reactivate' hslot'
      rw [hslot, Option.some.injEq] at hslot'
      cases hslot'
      exact ⟨rfl, rfl⟩
    | alreadyStopping hslot => exact absurd ⟨_, _, _, _, hslot⟩ hstopping
    | absent hothers hslot =>
      refine ⟨hmoves, hothers, ?_⟩
      intro context' uid' held' reactivate' hslot'
      rw [hslot] at hslot'
      exact absurd hslot' (some_ne_none _).symm
    | @abandoned s' context uid deadline armed hslot hactors =>
      rw [← hactors] at hslot
      have howed : (s'.spawnOwedStop env e uid).actors = s'.actors := by
        unfold spawnOwedStop
        split_ifs <;> rfl
      simp only [hslot]
      refine ⟨?_, fun e' _ => ?_, ?_⟩
      · rw [registry_spawnOwedStop]
        exact hmoves
      · rw [howed, hactors]
      · intro context' uid' held' reactivate' hslot'
        rw [howed, hslot] at hslot'
        cases hslot'

lemma passivateEach_moves (henv : env.Within route terms) (capacity : ℕ) (es : List EntityId)
    (htransfers : ∀ e ∈ es, terms.transfers e) (s : LocalState M) :
    Registry.Moves capacity terms s.registry (passivateEach env es s).2.registry ∧
      (∀ e ∉ es, (passivateEach env es s).2.actors[e]? = s.actors[e]?) ∧
      ∀ e, e ∈ es ∨ s.QuietSlot e → (passivateEach env es s).2.QuietSlot e := by
  induction es generalizing s with
  | nil => exact ⟨.refl, fun _ _ => rfl, fun e he => he.resolve_left List.not_mem_nil⟩
  | cons e₀ es ih =>
    obtain ⟨hmoves₀, hothers₀, hquiet₀⟩ := passivateShardEntity_moves (s := s) henv capacity
      (fun _ _ => htransfers e₀ List.mem_cons_self)
    obtain ⟨hmoves, hothers, hquiet⟩ := ih (fun e he => htransfers e (List.mem_cons_of_mem e₀ he))
      (s.passivateShardEntity env e₀).2
    refine ⟨hmoves₀.trans hmoves, fun e he => ?_, fun e he => hquiet e ?_⟩
    · rw [List.mem_cons, not_or] at he
      exact (hothers e he.2).trans (hothers₀ e he.1)
    · by_cases hcase : e = e₀
      · exact .inr (hcase ▸ hquiet₀)
      · rw [List.mem_cons, or_iff_right hcase] at he
        refine he.imp_right (fun h => ?_)
        unfold QuietSlot at h ⊢
        rwa [hothers₀ e hcase]

lemma mem_shardEntities :
    e ∈ (s.actors.toList.filter (fun p => p.2.context.shardId = shardId)).map Prod.fst ↔
      ∃ slot, s.actors[e]? = some slot ∧ slot.context.shardId = shardId := by
  simp [Std.ExtTreeMap.mem_toList_iff_getElem?_eq_some]

lemma removeIfTerminatedActive_moves (capacity : ℕ) (e : EntityId) :
    Registry.Moves capacity terms s.registry (s.removeIfTerminatedActive e).registry := by
  unfold removeIfTerminatedActive
  cases hslot : s.actors[e]? with
  | none => exact .refl
  | some slot =>
    cases slot with
    | stopping => exact .refl
    | active =>
      dsimp only
      split_ifs with hterminated
      · rw [registry_removeSlot]
        exact .single (.vacateSeat (seat_of_slot hslot) (isTerminated_iff.mp hterminated))
      · exact .refl

lemma reapTerminatedEntities_moves (capacity : ℕ) :
    Registry.Moves capacity terms s.registry s.reapTerminatedEntities.registry := by
  refine .single (.vacate _ (fun e => ?_))
  unfold reapTerminatedEntities
  rw [Std.ExtTreeMap.getElem?_filter']
  cases hslot : s.actors[e]? with
  | none => exact .inl (seat_of_none hslot).symm
  | some slot =>
    cases slot with
    | stopping => exact .inl (seat_of_slot hslot).symm
    | active context uid =>
      by_cases hterminated : s.isTerminated uid = true
      · refine .inr ⟨?_, context, uid, seat_of_slot hslot, isTerminated_iff.mp hterminated⟩
        simp [Option.filter, hterminated]
      · refine .inl ?_
        rw [seat_of_slot hslot]
        simp [Option.filter, hterminated]

lemma retryOwedStop_moves (henv : env.Within route terms) (capacity : ℕ) (e : EntityId)
    (uid : ActorUid) :
    Registry.Moves capacity terms s.registry (s.retryOwedStop env e uid).registry := by
  unfold retryOwedStop
  cases hslot : s.actors[e]? with
  | none => exact .refl
  | some slot =>
    cases slot with
    | stopping => exact .refl
    | active =>
      dsimp only
      split_ifs
      · have hmoves := (passivateSlot_cases (s := s) henv capacity e none).2
        generalize s.passivateSlot env e none = out at hmoves
        obtain ⟨_ | _ | _ | _, s'⟩ := out <;> exact hmoves
      · exact .refl

lemma runIdleTimer_moves (henv : env.Within route terms) (capacity : ℕ) (timer : IdleTimer) :
    Registry.Moves capacity terms s.registry (s.runIdleTimer route env timer).registry := by
  unfold runIdleTimer
  cases route.idlePassivationTimeout with
  | none => exact .refl
  | some =>
    cases hslot : s.actors[timer.entityId]? with
    | none => exact .refl
    | some slot =>
      cases slot with
      | stopping => exact .refl
      | active context actorRef deadline =>
        dsimp only
        split_ifs
        · cases deadline with
          | none =>
            rw [registry_setDeadline hslot]
          | some =>
            dsimp only
            split_ifs
            · exact .refl
            · obtain ⟨hpassivated, hmoves⟩ :=
                passivateSlot_cases (s := s) henv capacity timer.entityId none
              generalize s.passivateSlot env timer.entityId none = out at hpassivated hmoves
              cases hpassivated with
              | stopping | alreadyStopping | absent => exact hmoves
              | @abandoned s' _ _ _ _ hslot' hactors =>
                rw [← hactors] at hslot'
                simp only [hslot']
                exact hmoves.trans (registry_setDeadline hslot' ▸ .refl)
        · exact .refl

inductive Resumed (s : LocalState M) (route : LocalEntityRoute) (env : CallEnv) (e : EntityId)
    (uid : ActorUid) : LocalState M → Prop
  | idle (hidle : ∀ context held reactivate,
      s.registry.seats e ≠ some (.stopping context uid held reactivate)) : Resumed s route env e uid s
  | removed {s' : LocalState M} {context : LocalEntityContext}
      (hseat : s.registry.seats e = some (.stopping context uid [] false))
      (hregistry : s'.registry = s.registry.setSeat e none) : Resumed s route env e uid s'
  | spawned {s' : LocalState M} {context : LocalEntityContext} {held : List (Parcel M)}
      {reactivate : Bool} (hseat : s.registry.seats e = some (.stopping context uid held reactivate))
      (hwhy : held ≠ [] ∨ reactivate = true) (hpos : 0 < route.mailboxCapacity)
      (hregistry : s'.registry = s.registry.seatNew route.mailboxCapacity context held) :
      Resumed s route env e uid s'
  | failed {s' : LocalState M} {context : LocalEntityContext} {held : List (Parcel M)}
      {reactivate : Bool} (hseat : s.registry.seats e = some (.stopping context uid held reactivate))
      (hwhy : route.mailboxCapacity = 0 ∨ env.spawnError ≠ none)
      (hregistry : s'.registry = (s.registry.setSeat e none).drop e held) :
      Resumed s route env e uid s'

lemma onIncarnationStopped_cases (s : LocalState M) (route : LocalEntityRoute) (env : CallEnv)
    (hkeyed : s.registry.Keyed) (e : EntityId) (uid : ActorUid) :
    Resumed s route env e uid (s.onIncarnationStopped route env e uid) := by
  unfold onIncarnationStopped
  cases hslot : s.actors[e]? with
  | none =>
    refine .idle (fun _ _ _ h => ?_)
    rw [seat_of_none hslot] at h
    cases h
  | some slot =>
    cases slot with
    | active =>
      refine .idle (fun _ _ _ h => ?_)
      rw [seat_of_slot hslot] at h
      cases h
    | stopping context actorRef held reactivate =>
      have hseat : s.registry.seats e = some (.stopping context actorRef held reactivate) :=
        seat_of_slot hslot
      dsimp only
      split_ifs with hactor hdone
      · rw [Bool.and_eq_true, List.isEmpty_iff, Bool.not_eq_true'] at hdone
        obtain ⟨rfl, rfl⟩ := hdone
        subst hactor
        exact .removed hseat (s.registry_removeSlot e)
      · rw [Bool.and_eq_true, List.isEmpty_iff, Bool.not_eq_true', not_and_or,
          Bool.not_eq_false] at hdone
        subst hactor
        obtain rfl : context.entityId = e := hkeyed e _ hseat
        have hactivated := (s.removeSlot context.entityId).activateSlot_cases route env context held
        generalize activateSlot route _ env context held = out at hactivated
        cases hactivated with
        | spawned hpos hregistry =>
          rw [registry_removeSlot, seatNew_setSeat] at hregistry
          exact .spawned hseat hdone hpos hregistry
        | failed failure hfailed =>
          refine .failed hseat hfailed ?_
          rw [registry_warnDropped, registry_removeSlot]
      · refine .idle (fun _ _ _ h => ?_)
        rw [hseat] at h
        cases h
        exact hactor rfl

lemma onIncarnationStopped_moves (henv : env.Within route terms) (hkeyed : s.registry.Keyed)
    (hterminated : s.registry.Terminated uid) :
    Registry.Moves route.mailboxCapacity terms s.registry
      (({ s with watchers := s.watchers.erase (e, uid) } : LocalState M).onIncarnationStopped route
        env e uid).registry := by
  have hend : ∀ r : Registry M, r.watchers = s.watchers → (∀ context held reactivate,
      r.seats e ≠ some (.stopping context uid held reactivate)) →
      Registry.Move route.mailboxCapacity terms r
        { r with watchers := s.watchers.erase (e, uid) } :=
    fun r hwatchers hidle => hwatchers ▸ .unwatch e uid hidle
  have hresumed := onIncarnationStopped_cases
    { s with watchers := s.watchers.erase (e, uid) } route env hkeyed e uid
  generalize onIncarnationStopped route _ env e uid = s' at hresumed
  cases hresumed with
  | idle hidle => exact .single (hend _ rfl hidle)
  | removed hseat hregistry =>
    have hremove : Registry.Move route.mailboxCapacity terms s.registry
        (s.registry.setSeat e none) := .remove hseat hterminated
    rw [hregistry]
    refine .tail (.single hremove) (hend (s.registry.setSeat e none) rfl (fun _ _ _ h => ?_))
    rw [seats_setSeat_self] at h
    cases h
  | @spawned _ context held _ hseat hwhy hpos hregistry =>
    obtain rfl : context.entityId = e := hkeyed e _ hseat
    have hspawn : Registry.Move route.mailboxCapacity terms s.registry
        (s.registry.seatNew route.mailboxCapacity context held) := by
      have hmove : Registry.Move route.mailboxCapacity terms s.registry _ :=
        .spawn context (vacant_of_seat hseat hterminated) (.inr ⟨_, _, _, hseat, hwhy⟩) hpos
      have hheld : s.registry.heldAt context.entityId = held := heldAt_of_stopping hseat
      rwa [hheld] at hmove
    rw [hregistry]
    refine .tail (.single hspawn) (hend _ rfl (fun _ _ _ h => ?_))
    rw [seats_seatNew] at h
    cases h
  | @failed _ context held _ hseat hwhy hregistry =>
    have hlose : Registry.Move route.mailboxCapacity terms s.registry
        ((s.registry.setSeat e none).drop e held) := by
      have hmove : Registry.Move route.mailboxCapacity terms s.registry _ :=
        .spawnFails (henv.spawns hwhy) (vacant_of_seat hseat hterminated)
      have hheld : s.registry.heldAt e = held := heldAt_of_stopping hseat
      rwa [hheld] at hmove
    rw [hregistry]
    refine .tail (.single hlose) (hend _ rfl (fun _ _ _ h => ?_))
    have hnone : ((s.registry.setSeat e none).drop e held).seats e = none :=
      seats_setSeat_self ..
    rw [hnone] at h
    cases h

lemma activateExistingOrSpawn_moves (henv : env.Within route terms) (entityType : EntityType)
    (hroutes : terms.routes e shardId) : Registry.Moves route.mailboxCapacity terms s.registry
      (s.activateExistingOrSpawn route env entityType e shardId).2.registry := by
  have hspawn : s.registry.Vacant e → s.registry.Accepts shardId →
      Registry.Moves route.mailboxCapacity terms s.registry
        ((s.removeSlot e).activateSlot route env ⟨route.localNodeId, entityType, e, shardId⟩
          (s.registry.heldAt e)).2.registry :=
    fun hvacant haccepts => .single (activateSlot_moves
      ⟨route.localNodeId, entityType, e, shardId⟩ henv hvacant (.inl ⟨hroutes, haccepts⟩))
  unfold activateExistingOrSpawn
  dsimp only
  cases hensure : s.ensureShardAcceptsDelivery shardId with
  | error => exact .refl
  | ok =>
    have haccepts := accepts_of_ensure hensure
    cases hslot : s.actors[e]? with
    | none =>
      have hseat := seat_of_none hslot
      rw [heldAt_of_none hseat] at hspawn
      have hmoves := hspawn (vacant_of_none hseat) haccepts
      dsimp only
      split <;> next heq => rwa [heq] at hmoves
    | some slot =>
      cases slot with
      | active context actorRef =>
        dsimp only
        split_ifs with hterminated
        · have hseat : s.registry.seats e = some (.active context actorRef) := seat_of_slot hslot
          rw [heldAt_of_active hseat] at hspawn
          have hmoves := hspawn (vacant_of_seat hseat (isTerminated_iff.mp hterminated))
            haccepts
          split <;> next heq => rwa [heq] at hmoves
        · exact .refl
      | stopping context actorRef held reactivate =>
        have hseat : s.registry.seats e = some (.stopping context actorRef held reactivate) :=
          seat_of_slot hslot
        dsimp only
        split_ifs with hterminated
        · rw [heldAt_of_stopping hseat] at hspawn
          have hmoves := hspawn (vacant_of_seat hseat (isTerminated_iff.mp hterminated))
            haccepts
          split <;> next heq => rwa [heq] at hmoves
        · refine .single ?_
          rw [registry_setSlot]
          exact .reactivate hseat (fun h => hterminated (isTerminated_iff.mpr h))
            ⟨shardId, hroutes, haccepts⟩

lemma registry_recordTurn (e : EntityId) (uid : ActorUid) (turn : Turn (Parcel M)) :
    (s.recordTurn e uid turn).registry = s.registry.recordTurn e uid turn := by
  cases turn <;> rfl

lemma registry_actorTurn {incarnation : Incarnation M} {turn : Turn (Parcel M)}
    {cell : ActorCell (Parcel M)} (e : EntityId) :
    ((s.setCell uid { incarnation with cell := cell }).recordTurn e uid turn).registry =
      (s.registry.setCell uid { incarnation with cell := cell }).recordTurn e uid turn := by
  rw [registry_recordTurn, registry_setCell]

lemma actorTurn_moves {action : ActorAction} (capacity : ℕ)
    (hterms : terms.selfStops ∨ action = .continueRunning) (hturn : s.actorTurn uid action = some t)
    : Registry.Move capacity terms s.registry t.registry := by
  obtain ⟨incarnation, hcell, hrest⟩ := bind_eq_some_iff.mp hturn
  obtain ⟨⟨turn, cell⟩, hcellTurn, hstate⟩ := bind_eq_some_iff.mp hrest
  rw [← Option.some.inj hstate, registry_actorTurn]
  exact .turn hterms hcell hcellTurn

lemma actorLeaves_moves (capacity : ℕ) (hterms : terms.selfStops)
    (hleave : s.actorLeaves uid = some t) : Registry.Move capacity terms s.registry t.registry := by
  obtain ⟨incarnation, hcell, hrest⟩ := bind_eq_some_iff.mp hleave
  obtain ⟨cell, hcellLeave, hstate⟩ := bind_eq_some_iff.mp hrest
  rw [← Option.some.inj hstate, registry_setCell]
  exact .leave hterms hcell hcellLeave

end

end LocalState

def LocalOp.callEnv {M : Type} : LocalOp M → Option CallEnv
  | .deliver env _ | .passivateEntityWith env _ _ | .activateEntity env _ _ _
  | .passivateShard env _ | .watcher env _ _ | .idleTimer env _ | .owedStop env _ _ => some env
  | .setShardState _ _ | .reapTerminatedEntities | .entityActor _ | .actorTurn _ _
  | .actorLeaves _ | .advance _ => none

namespace LocalState
variable {M : Type}
variable {route : LocalEntityRoute} {terms : RouteTerms} {s t : LocalState M}

def Permits (terms : RouteTerms) (s : LocalState M) : LocalOp M → Prop
  | .deliver _ message => terms.routes message.entityId message.shardId
  | .activateEntity _ _ entityId shardId => terms.routes entityId shardId
  | .setShardState shardId state => terms.sets shardId state
  | .passivateShard _ shardId =>
    ∀ e slot, s.actors[e]? = some slot → slot.context.shardId = shardId → terms.transfers e
  | .actorTurn _ action => terms.selfStops ∨ action = .continueRunning
  | .actorLeaves _ => terms.selfStops
  | _ => True

structure Within (route : LocalEntityRoute) (terms : RouteTerms) (s : LocalState M)
    (op : LocalOp M) : Prop where
  env : ∀ env, op.callEnv = some env → env.Within route terms
  permits : s.Permits terms op

lemma step_moves {op : LocalOp M} (hkeyed : ∀ env e uid, op = .watcher env e uid → s.registry.Keyed)
    (hop : s.Within route terms op) (hstep : s.step route op = some t) :
    Registry.Moves route.mailboxCapacity terms s.registry t.registry := by
  cases op with
  | deliver env =>
    rw [← Option.some.inj hstep]
    exact deliver_moves (hop.env env rfl) hop.permits
  | passivateEntityWith env e stopMessage =>
    rw [← Option.some.inj hstep]
    exact passivateEntityWith_moves (hop.env env rfl) _ e stopMessage
  | activateEntity env entityType =>
    rw [← Option.some.inj hstep]
    exact activateExistingOrSpawn_moves (hop.env env rfl) entityType hop.permits
  | setShardState shardId state =>
    rw [← Option.some.inj hstep, registry_setShardState]
    exact .single (.setState shardId state hop.permits)
  | passivateShard env =>
    rw [← Option.some.inj hstep]
    refine (passivateEach_moves (hop.env env rfl) _ _ (fun e he => ?_) s).1
    obtain ⟨slot, hslot, hshard⟩ := mem_shardEntities.mp he
    exact hop.permits e slot hslot hshard
  | reapTerminatedEntities =>
    rw [← Option.some.inj hstep]
    exact reapTerminatedEntities_moves _
  | entityActor e =>
    rw [← Option.some.inj hstep]
    exact removeIfTerminatedActive_moves _ e
  | watcher env e uid =>
    obtain ⟨hready, hstate⟩ := ite_none_right_eq_some.mp hstep
    rw [← Option.some.inj hstate]
    exact onIncarnationStopped_moves (hop.env env rfl) (hkeyed env e uid rfl) (isTerminated_iff.mp hready.2)
  | idleTimer env timer =>
    obtain ⟨-, hstate⟩ := ite_none_right_eq_some.mp hstep
    rw [← Option.some.inj hstate]
    exact runIdleTimer_moves (s := { s with idleTimers := s.idleTimers.erase timer })
      (hop.env env rfl) _ timer
  | owedStop env e uid =>
    obtain ⟨-, hstate⟩ := ite_none_right_eq_some.mp hstep
    rw [← Option.some.inj hstate]
    exact retryOwedStop_moves (s := { s with owedStops := s.owedStops.erase (e, uid) })
      (hop.env env rfl) _ e uid
  | actorTurn => exact .single (actorTurn_moves _ hop.permits hstep)
  | actorLeaves => exact .single (actorLeaves_moves _ hop.permits hstep)
  | advance =>
    rw [← Option.some.inj hstep]
    exact .refl

lemma run_invariant_of_moves {ops : List (LocalOp M)} (Inv : Registry M → Prop)
    (hkeyed : ∀ r, Inv r → r.Keyed)
    (hmove : ∀ r r', Registry.Move route.mailboxCapacity terms r r' → Inv r → Inv r')
    (hwithin : StepsMeet (step route) (fun s op => s.Within route terms op) s ops)
    (h : Inv s.registry) (hrun : runFrom (step route) s ops = some t) : Inv t.registry := by
  have hstep : ∀ (s : LocalState M) op t, Inv s.registry → s.Within route terms op →
      s.step route op = some t → Inv t.registry := by
    intro s op t hinv hop hstep
    have hmoves := step_moves (fun _ _ _ _ => hkeyed s.registry hinv) hop hstep
    exact Registry.Moves.invariant hmove hmoves hinv
  exact runFrom_invariant_of_meets (step route) hstep h hwithin hrun

end LocalState
end Rakka.Sharding
