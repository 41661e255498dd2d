import Rakka.Foundation.OrderedMap
import Rakka.Foundation.Runs

/-! The local receptionist. A service key lists the actors registered under it; each registration
hands out a handle that holds one lease on the actor's record until it is given up. -/

namespace Rakka.Core
open Foundation List BTreeMap

structure ServiceKey where
  id : String
  messageType : String
  deriving DecidableEq, Repr

structure ActorIdentity where
  path : String
  uid : ℕ
  deriving DecidableEq, Repr

lemma ActorIdentity.toLex_injective :
    Function.Injective (fun identity : ActorIdentity => toLex (identity.path, identity.uid)) := by
  rintro ⟨path, uid⟩ ⟨path', uid'⟩ h
  obtain ⟨rfl, rfl⟩ := Prod.mk.inj (toLex.injective h)
  rfl

instance : LinearOrder ActorIdentity :=
  LinearOrder.lift' (fun identity : ActorIdentity => toLex (identity.path, identity.uid))
    ActorIdentity.toLex_injective

inductive ReceptionistError where
  | serviceKeyTypeMismatch (serviceId expected actual : String)
  deriving DecidableEq, Repr

structure ServiceRegistry where
  messageType : String
  localRecords : BTreeMap ActorIdentity ℕ

namespace ServiceRegistry
variable {service : ServiceRegistry}

def new (messageType : String) : ServiceRegistry := ⟨messageType, ∅⟩

variable (service)

def verifyType (key : ServiceKey) : Except ReceptionistError Unit :=
  if service.messageType = key.messageType then .ok ()
  else .error (.serviceKeyTypeMismatch key.id service.messageType key.messageType)

def register (identity : ActorIdentity) : ServiceRegistry × Bool :=
  match service.localRecords[identity]? with
  | some leases =>
    ({ service with localRecords := service.localRecords.insert identity (leases + 1) }, false)
  | none => ({ service with localRecords := service.localRecords.insert identity 1 }, true)

def release (identity : ActorIdentity) : ServiceRegistry × Bool :=
  match service.localRecords[identity]? with
  | none => (service, false)
  | some leases =>
    if leases - 1 = 0 then
      ({ service with localRecords := service.localRecords.erase identity }, true)
    else
      ({ service with localRecords := service.localRecords.insert identity (leases - 1) }, false)

def remove (identity : ActorIdentity) : ServiceRegistry × Bool :=
  ({ service with localRecords := service.localRecords.erase identity },
    service.localRecords[identity]?.isSome)

def leases (identity : ActorIdentity) : ℕ :=
  service.localRecords[identity]?.getD 0

def Counted : Prop :=
  ∀ (identity : ActorIdentity) (leases : ℕ),
    service.localRecords[identity]? = some leases → 0 < leases

lemma leases_register (identity other : ActorIdentity) :
    (service.register identity).1.leases other =
      service.leases other + if other = identity then 1 else 0 := by
  rw [register]
  cases hrecord : service.localRecords[identity]? with
  | some leases | none =>
    dsimp only
    rw [ServiceRegistry.leases, lookup_insert]
    split_ifs with hsame
    · rw [hsame, ServiceRegistry.leases, hrecord]
      rfl
    · rfl

lemma leases_release (identity other : ActorIdentity) : (service.release identity).1.leases other =
      service.leases other - if other = identity then 1 else 0 := by
  rw [release]
  cases hrecord : service.localRecords[identity]? with
  | none =>
    split_ifs with hsame
    · rw [hsame, ServiceRegistry.leases, hrecord]
      rfl
    · rfl
  | some leases =>
    dsimp only
    split_ifs with hlast hsame hsame
    · rw [hsame, ServiceRegistry.leases, ServiceRegistry.leases, lookup_erase,
        if_pos rfl, hrecord, Option.getD_some, hlast]
      rfl
    · rw [ServiceRegistry.leases, lookup_erase, if_neg hsame]
      rfl
    · rw [hsame, ServiceRegistry.leases, ServiceRegistry.leases, lookup_insert, if_pos rfl, hrecord]
      rfl
    · rw [ServiceRegistry.leases, lookup_insert, if_neg hsame]
      rfl

lemma leases_remove (identity other : ActorIdentity) : (service.remove identity).1.leases other =
      if other = identity then 0 else service.leases other := by
  rw [remove, ServiceRegistry.leases, lookup_erase]
  split_ifs <;> rfl

variable {service}

lemma counted_new (messageType : String) : (new messageType).Counted := by
  intro identity leases h
  simp [new] at h

lemma Counted.register (h : service.Counted) (identity : ActorIdentity) :
    (service.register identity).1.Counted := by
  rw [ServiceRegistry.register]
  cases service.localRecords[identity]? with
  | some leases => exact forall_insert h (Nat.succ_pos leases)
  | none => exact forall_insert h Nat.one_pos

lemma Counted.release (h : service.Counted) (identity : ActorIdentity) :
    (service.release identity).1.Counted := by
  rw [ServiceRegistry.release]
  cases service.localRecords[identity]? with
  | none => exact h
  | some leases =>
    dsimp only
    split_ifs with hlast
    · exact forall_erase h
    · exact forall_insert h (Nat.pos_of_ne_zero hlast)

lemma Counted.remove (h : service.Counted) (identity : ActorIdentity) :
    (service.remove identity).1.Counted :=
  forall_erase h

end ServiceRegistry

structure ReceptionistRegistry where
  services : BTreeMap String ServiceRegistry

namespace ReceptionistRegistry
variable (registry : ReceptionistRegistry) (key : ServiceKey) (identity : ActorIdentity)

def register : Except ReceptionistError ReceptionistRegistry := do
  let service := registry.services[key.id]?.getD (.new key.messageType)
  service.verifyType key
  return ⟨registry.services.insert key.id (service.register identity).1⟩

/-- The shape of the calls that change one service that exists. -/
def change (apply : ServiceRegistry → ServiceRegistry × Bool) :
    Except ReceptionistError (ReceptionistRegistry × Bool) :=
  match registry.services[key.id]? with
  | none => .ok (registry, false)
  | some service => do
    service.verifyType key
    return (⟨registry.services.insert key.id (apply service).1⟩, (apply service).2)

def deregister : Except ReceptionistError (ReceptionistRegistry × Bool) :=
  registry.change key (·.remove identity)

def release : Except ReceptionistError (ReceptionistRegistry × Bool) :=
  registry.change key (·.release identity)

def removeIdentity (keyId : String) (identity : ActorIdentity) : ReceptionistRegistry :=
  match registry.services[keyId]? with
  | none => registry
  | some service => ⟨registry.services.insert keyId (service.remove identity).1⟩

def localEntriesFor : Except ReceptionistError (List ActorIdentity) :=
  match registry.services[key.id]? with
  | none => .ok []
  | some service => do
    service.verifyType key
    return service.localRecords.keys

def leases (keyId : String) (identity : ActorIdentity) : ℕ :=
  (registry.services[keyId]?.map (·.leases identity)).getD 0

end ReceptionistRegistry

/-- A handle, active until it is given up; `current` records that its actor was not deregistered
under its key since. -/
structure ReceptionistRegistration where
  key : ServiceKey
  identity : ActorIdentity
  active : Bool
  current : Bool
  deriving DecidableEq, Repr

/-- The handles stand in the order they were obtained. -/
structure ReceptionistWorld where
  registry : ReceptionistRegistry
  handles : List ReceptionistRegistration
  terminated : List ActorIdentity

/-- A handle is given up when it is deregistered or dropped. The cleanup of a terminated actor is a
spawned task, or a listing that finds it terminated. -/
inductive ReceptionistEvent where
  | register (key : ServiceKey) (identity : ActorIdentity)
  | giveUp (handle : ℕ)
  | deregister (key : ServiceKey) (identity : ActorIdentity)
  | terminate (identity : ActorIdentity)
  | cleanup (keyId : String) (identity : ActorIdentity)
  deriving DecidableEq, Repr

namespace ReceptionistWorld
variable {world : ReceptionistWorld} {key : ServiceKey} {keyId : String} {service : ServiceRegistry}
  {registry : ReceptionistRegistry}

def new : ReceptionistWorld := ⟨⟨∅⟩, [], []⟩

def outdate (key : ServiceKey) (identity : ActorIdentity) (handle : ReceptionistRegistration) :
    ReceptionistRegistration :=
  if handle.key.id = key.id ∧ handle.identity = identity then { handle with current := false }
  else handle

variable (world)

def step : ReceptionistEvent → ReceptionistWorld
  | .register key identity =>
    match world.registry.register key identity with
    | .error _ => world
    | .ok registry =>
      { world with registry := registry, handles := world.handles ++ [⟨key, identity, true, true⟩] }
  | .giveUp index =>
    match world.handles[index]? with
    | none => world
    | some handle =>
      if handle.active then
        { world with
          registry :=
            match world.registry.release handle.key handle.identity with
            | .error _ => world.registry
            | .ok (registry, _) => registry
          handles := world.handles.set index { handle with active := false } }
      else world
  | .deregister key identity =>
    match world.registry.deregister key identity with
    | .error _ => world
    | .ok (registry, _) =>
      { world with registry := registry, handles := world.handles.map (outdate key identity) }
  | .terminate identity => { world with terminated := identity :: world.terminated }
  | .cleanup keyId identity =>
    if identity ∈ world.terminated then
      { world with registry := world.registry.removeIdentity keyId identity }
    else world

def run (events : List ReceptionistEvent) : ReceptionistWorld :=
  events.foldl step world

def find (key : ServiceKey) : Except ReceptionistError (List ActorIdentity) := do
  let entries ← world.registry.localEntriesFor key
  return entries.filter (fun identity => decide (identity ∉ world.terminated))

def Listed (key : ServiceKey) (identity : ActorIdentity) : Prop :=
  ∃ entries, world.find key = .ok entries ∧ identity ∈ entries

/-- A handle for the actor that is held and was obtained since its last deregistration. -/
def Held (key : ServiceKey) (identity : ActorIdentity) : Prop :=
  ∃ handle ∈ world.handles, handle.key = key ∧ handle.identity = identity ∧
    handle.active = true ∧ handle.current = true

/-- An outdated handle is only given up while its actor has no record. -/
def Timely : ReceptionistEvent → Prop
  | .giveUp index => ∀ handle ∈ world.handles[index]?, handle.active = true →
      handle.current = true ∨ world.registry.leases handle.key.id handle.identity = 0
  | _ => True

variable {world}

def counts (keyId : String) (identity : ActorIdentity) (handle : ReceptionistRegistration) : Bool :=
  handle.active && handle.current && decide (handle.key.id = keyId ∧ handle.identity = identity)

/-- Handles belong to services of their type, records end with their last lease, and the leases of a
live actor are its handles held since its deregistration. -/
structure Agrees (world : ReceptionistWorld) : Prop where
  typed : ∀ handle ∈ world.handles, ∃ service,
    world.registry.services[handle.key.id]? = some service ∧
      service.messageType = handle.key.messageType
  counted : ∀ (keyId : String) (service : ServiceRegistry),
    world.registry.services[keyId]? = some service → service.Counted
  leases : ∀ (keyId : String) (identity : ActorIdentity), identity ∉ world.terminated →
    world.registry.leases keyId identity = world.handles.countP (counts keyId identity)

lemma agrees_new : Agrees new := by
  refine ⟨fun handle hhandle => ?_, fun keyId service hservice => ?_, fun keyId identity _ => ?_⟩
  · exact absurd hhandle not_mem_nil
  · simp [new] at hservice
  · simp [new, ReceptionistRegistry.leases]

lemma leases_insert (registry : ReceptionistRegistry) (keyId other : String)
    (service : ServiceRegistry) (identity : ActorIdentity) :
    ReceptionistRegistry.leases ⟨registry.services.insert keyId service⟩ other identity =
      if other = keyId then service.leases identity else registry.leases other identity := by
  rw [ReceptionistRegistry.leases, lookup_insert]
  split_ifs <;> rfl

lemma Agrees.typed_insert (h : Agrees world) {before after : ServiceRegistry}
    (hbefore : world.registry.services[keyId]?.getD before = before)
    (htype : after.messageType = before.messageType) {handle : ReceptionistRegistration}
    (hhandle : ∃ held ∈ world.handles, held.key = handle.key) :
    ∃ service, (world.registry.services.insert keyId after)[handle.key.id]? = some service ∧
      service.messageType = handle.key.messageType := by
  obtain ⟨held, hmem, hkey⟩ := hhandle
  obtain ⟨service, hservice, hmessage⟩ := h.typed held hmem
  rw [hkey] at hservice hmessage
  rw [lookup_insert]
  split_ifs with hsame
  · rw [hsame] at hservice
    rw [hservice, Option.getD_some] at hbefore
    exact ⟨after, rfl, by rw [htype, ← hbefore, hmessage]⟩
  · exact ⟨service, hservice, hmessage⟩

variable (service)

lemma messageType_register (identity : ActorIdentity) :
    (service.register identity).1.messageType = service.messageType := by
  rw [ServiceRegistry.register]
  cases service.localRecords[identity]? <;> rfl

lemma messageType_release (identity : ActorIdentity) :
    (service.release identity).1.messageType = service.messageType := by
  rw [ServiceRegistry.release]
  cases service.localRecords[identity]? with
  | none => rfl
  | some =>
    dsimp only
    split_ifs <;> rfl

lemma messageType_remove (identity : ActorIdentity) :
    (service.remove identity).1.messageType = service.messageType := rfl

variable {service}

lemma verifyType_eq_ok {u : Unit} :
    service.verifyType key = .ok u ↔ service.messageType = key.messageType := by
  rw [ServiceRegistry.verifyType]
  split_ifs with h
  · exact iff_of_true rfl h
  · refine iff_of_false (fun h' => ?_) h
    cases h'

lemma Agrees.register (h : Agrees world) (key : ServiceKey) (identity : ActorIdentity) :
    Agrees (world.step (.register key identity)) := by
  rw [step]
  cases hregister : world.registry.register key identity with
  | error => exact h
  | ok registry =>
    rw [ReceptionistRegistry.register] at hregister
    generalize hservice : world.registry.services[key.id]?.getD (.new key.messageType) = service
      at hregister
    cases hverify : service.verifyType key with
    | error =>
      simp only [hverify] at hregister
      cases hregister
    | ok =>
      simp only [hverify] at hregister
      cases hregister
      have htype := verifyType_eq_ok.mp hverify
      obtain ⟨hold, hcounted, hleases⟩ :
          world.registry.services[key.id]?.getD service = service ∧ service.Counted ∧
            ∀ other, service.leases other = world.registry.leases key.id other := by
        simp only [ReceptionistRegistry.leases]
        cases hfound : world.registry.services[key.id]? with
        | none =>
          rw [hfound] at hservice
          rw [← hservice]
          exact ⟨rfl, ServiceRegistry.counted_new key.messageType, fun _ => rfl⟩
        | some found =>
          rw [hfound] at hservice
          rw [← hservice]
          exact ⟨rfl, h.counted key.id found hfound, fun _ => rfl⟩
      refine ⟨?_, forall_insert h.counted (hcounted.register identity), ?_⟩
      · refine forall_mem_concat (fun handle hheld => h.typed_insert hold
          (messageType_register service identity) ⟨handle, hheld, rfl⟩) ?_
        refine ⟨_, by rw [lookup_insert, if_pos rfl], ?_⟩
        rw [messageType_register, htype]
      · intro keyId other halive
        rw [leases_insert, countP_append, ← h.leases keyId other halive]
        split_ifs with hkey
        · rw [hkey, ServiceRegistry.leases_register, hleases]
          by_cases hsame : other = identity
          · simp [counts, hsame]
          · simp [counts, hsame, Ne.symm hsame]
        · simp [counts, Ne.symm hkey]

lemma change_of_typed (hservice : registry.services[key.id]? = some service)
    (htype : service.messageType = key.messageType)
    (apply : ServiceRegistry → ServiceRegistry × Bool) : registry.change key apply =
      .ok (⟨registry.services.insert key.id (apply service).1⟩, (apply service).2) := by
  have hverify : service.verifyType key = .ok () := verifyType_eq_ok.mpr htype
  simp only [ReceptionistRegistry.change, hservice, hverify]
  rfl

lemma change_eq_ok {after : ReceptionistRegistry} {changed : Bool}
    {apply : ServiceRegistry → ServiceRegistry × Bool}
    (h : registry.change key apply = .ok (after, changed)) :
    (registry.services[key.id]? = none ∧ after = registry) ∨
      ∃ service, registry.services[key.id]? = some service ∧
        after = ⟨registry.services.insert key.id (apply service).1⟩ := by
  rw [ReceptionistRegistry.change] at h
  cases hservice : registry.services[key.id]? with
  | none =>
    rw [hservice] at h
    cases h
    exact .inl ⟨rfl, rfl⟩
  | some service =>
    rw [hservice] at h
    cases hverify : service.verifyType key with
    | error =>
      simp only [hverify] at h
      cases h
    | ok =>
      simp only [hverify] at h
      cases h
      exact .inr ⟨service, rfl, rfl⟩

lemma leases_of_service (hservice : registry.services[keyId]? = some service)
    (identity : ActorIdentity) : service.leases identity = registry.leases keyId identity := by
  rw [ReceptionistRegistry.leases, hservice]
  rfl

/-- A handle that is counted gives back its own lease; an outdated one finds no record. -/
theorem Agrees.giveUp (h : Agrees world) {index : ℕ} (htimely : world.Timely (.giveUp index)) :
    Agrees (world.step (.giveUp index)) := by
  rw [step]
  cases hhandle : world.handles[index]? with
  | none => exact h
  | some handle =>
    dsimp only
    split_ifs with hactive
    · have hmem := mem_of_getElem? hhandle
      obtain ⟨service, hservice, htype⟩ := h.typed handle hmem
      have hold : world.registry.services[handle.key.id]?.getD service = service := by
        rw [hservice]
        rfl
      have hrelease : world.registry.release handle.key handle.identity = .ok
          (⟨world.registry.services.insert handle.key.id (service.release handle.identity).1⟩,
            (service.release handle.identity).2) := change_of_typed hservice htype _
      rw [hrelease]
      obtain ⟨hindex, hget⟩ := List.getElem?_eq_some_iff.mp hhandle
      refine ⟨fun other hother => ?_, ?_, ?_⟩
      · refine h.typed_insert hold (messageType_release service handle.identity) ?_
        rcases mem_or_eq_of_mem_set hother with hheld | rfl
        · exact ⟨other, hheld, rfl⟩
        · exact ⟨handle, hmem, rfl⟩
      · exact forall_insert h.counted ((h.counted _ service hservice).release handle.identity)
      · intro keyId identity halive
        have hleases := h.leases keyId identity halive
        rw [leases_insert, countP_set hindex, ← hleases, hget]
        have hdropped : counts keyId identity { handle with active := false } = false := rfl
        rw [hdropped]
        have hcounts : counts keyId identity handle =
            (handle.current && decide (handle.key.id = keyId ∧ handle.identity = identity)) := by
          rw [counts, hactive, Bool.true_and]
        rw [hcounts]
        simp only [Bool.false_eq_true, if_false, Nat.add_zero]
        split_ifs with hkey hcounted hcounted
        · rw [Bool.and_eq_true, decide_eq_true_eq] at hcounted
          rw [ServiceRegistry.leases_release, if_pos hcounted.2.2.symm,
            leases_of_service hservice, hkey]
        · rw [ServiceRegistry.leases_release, leases_of_service hservice, ← hkey]
          by_cases hsame : identity = handle.identity
          · -- an outdated handle: its actor has no record, so nothing is taken
            have houtdated : handle.current ≠ true := fun hcurrent => hcounted (by
              rw [hcurrent, Bool.true_and]
              exact decide_eq_true ⟨hkey.symm, hsame.symm⟩)
            have hzero := (htimely handle hhandle hactive).resolve_left houtdated
            rw [← hkey, ← hsame] at hzero
            rw [hzero]
            simp
          · simp [hsame]
        · rw [Bool.and_eq_true, decide_eq_true_eq] at hcounted
          exact absurd hcounted.2.1.symm hkey
        · rfl
    · exact h

lemma counts_outdate (key : ServiceKey) (identity : ActorIdentity) (keyId : String)
    (other : ActorIdentity) (handle : ReceptionistRegistration) :
    counts keyId other (outdate key identity handle) =
      (counts keyId other handle && !decide (keyId = key.id ∧ other = identity)) := by
  rw [outdate]
  by_cases hsame : handle.key.id = key.id ∧ handle.identity = identity
  · rw [if_pos hsame, counts, counts]
    by_cases hcounted : handle.key.id = keyId ∧ handle.identity = other
    · have hboth : keyId = key.id ∧ other = identity :=
        ⟨hcounted.1.symm.trans hsame.1, hcounted.2.symm.trans hsame.2⟩
      simp [hboth]
    · simp [hcounted]
  · rw [if_neg hsame, counts]
    by_cases hcounted : handle.key.id = keyId ∧ handle.identity = other
    · have hboth : ¬(keyId = key.id ∧ other = identity) := by
        rintro ⟨rfl, rfl⟩
        exact hsame hcounted
      simp [hboth]
    · simp [hcounted]

lemma Agrees.deregister (h : Agrees world) (key : ServiceKey) (identity : ActorIdentity) :
    Agrees (world.step (.deregister key identity)) := by
  rw [step]
  cases hderegister : world.registry.deregister key identity with
  | error => exact h
  | ok outcome =>
    obtain ⟨registry, removed⟩ := outcome
    have hkeys : ∀ handle ∈ world.handles.map (outdate key identity),
        ∃ held ∈ world.handles, held.key = handle.key := by
      intro handle hhandle
      obtain ⟨held, hheld, rfl⟩ := mem_map.mp hhandle
      refine ⟨held, hheld, ?_⟩
      rw [outdate]
      split_ifs <;> rfl
    have hcount : ∀ keyId other,
        (world.handles.map (outdate key identity)).countP (counts keyId other) =
          if keyId = key.id ∧ other = identity then 0
          else world.handles.countP (counts keyId other) := by
      intro keyId other
      rw [countP_map]
      split_ifs with hboth
      · rw [countP_eq_zero]
        intro handle _
        rw [Function.comp_apply, counts_outdate]
        simp [hboth]
      · refine countP_congr (fun handle _ => ?_)
        rw [Function.comp_apply, counts_outdate]
        simp [hboth]
    rcases change_eq_ok hderegister with ⟨hnone, rfl⟩ | ⟨service, hservice, rfl⟩
    · refine ⟨fun handle hhandle => ?_, h.counted, fun keyId other halive => ?_⟩
      · obtain ⟨held, hheld, hkey⟩ := hkeys handle hhandle
        rw [← hkey]
        exact h.typed held hheld
      · dsimp only
        rw [hcount, ← h.leases keyId other halive]
        split_ifs with hboth
        · rw [hboth.1, ReceptionistRegistry.leases, hnone]
          rfl
        · rfl
    · have hold : world.registry.services[key.id]?.getD service = service := by
        rw [hservice]
        rfl
      refine ⟨fun handle hhandle => h.typed_insert hold
          (messageType_remove service identity) (hkeys handle hhandle),
        forall_insert h.counted ((h.counted _ service hservice).remove identity), ?_⟩
      intro keyId other halive
      dsimp only
      rw [hcount, leases_insert, ← h.leases keyId other halive]
      by_cases hkey : keyId = key.id
      · rw [if_pos hkey, ServiceRegistry.leases_remove, leases_of_service hservice, ← hkey]
        simp
      · simp [hkey]

lemma Agrees.cleanup (h : Agrees world) (keyId : String) (identity : ActorIdentity) :
    Agrees (world.step (.cleanup keyId identity)) := by
  rw [step]
  split_ifs with hterminated
  · rw [ReceptionistRegistry.removeIdentity]
    cases hservice : world.registry.services[keyId]? with
    | none => exact h
    | some service =>
      have hold : world.registry.services[keyId]?.getD service = service := by
        rw [hservice]
        rfl
      refine ⟨fun handle hhandle => h.typed_insert hold
          (messageType_remove service identity) ⟨handle, hhandle, rfl⟩,
        forall_insert h.counted ((h.counted _ service hservice).remove identity), ?_⟩
      intro other live halive
      dsimp only
      rw [leases_insert, ← h.leases other live halive]
      split_ifs with hkey
      · have hne : live ≠ identity := by
          rintro rfl
          exact halive hterminated
        rw [ServiceRegistry.leases_remove, if_neg hne, leases_of_service hservice, hkey]
      · rfl
  · exact h

lemma Agrees.step (h : Agrees world) {event : ReceptionistEvent} (htimely : world.Timely event) :
    Agrees (world.step event) := by
  cases event with
  | register key identity => exact h.register key identity
  | giveUp => exact h.giveUp htimely
  | deregister key identity => exact h.deregister key identity
  | terminate identity =>
    exact ⟨h.typed, h.counted, fun keyId other halive =>
      h.leases keyId other (fun hmem => halive (mem_cons_of_mem identity hmem))⟩
  | cleanup keyId identity => exact h.cleanup keyId identity

def TimelyRun (world : ReceptionistWorld) (events : List ReceptionistEvent) : Prop :=
  StepsMeet (fun world event => some (step world event)) Timely world events

lemma listed_iff {identity : ActorIdentity} :
    world.Listed key identity ↔ identity ∉ world.terminated ∧ ∃ service,
      world.registry.services[key.id]? = some service ∧ service.messageType = key.messageType ∧
        ∃ leases, service.localRecords[identity]? = some leases := by
  rw [Listed, find, ReceptionistRegistry.localEntriesFor]
  cases hservice : world.registry.services[key.id]? with
  | none =>
    refine iff_of_false ?_ ?_
    · rintro ⟨entries, hentries, hmem⟩
      obtain rfl : [] = entries := Except.ok.inj hentries
      exact not_mem_nil hmem
    · rintro ⟨-, service, hsome, -⟩
      cases hsome
  | some service =>
    by_cases htype : service.messageType = key.messageType
    · have hverify : service.verifyType key = .ok () := verifyType_eq_ok.mpr htype
      simp only [hverify]
      constructor
      · rintro ⟨entries, hentries, hmem⟩
        obtain rfl := Except.ok.inj hentries
        obtain ⟨hkeys, halive⟩ := mem_filter.mp hmem
        rw [Std.ExtTreeMap.mem_keys, Std.ExtTreeMap.mem_iff_isSome_getElem?] at hkeys
        exact ⟨of_decide_eq_true halive, service, rfl, htype, Option.isSome_iff_exists.mp hkeys⟩
      · rintro ⟨halive, found, hfound, -, leases, hrecord⟩
        obtain rfl : service = found := Option.some.inj hfound
        refine ⟨_, rfl, mem_filter.mpr ⟨?_, decide_eq_true halive⟩⟩
        rw [Std.ExtTreeMap.mem_keys, Std.ExtTreeMap.mem_iff_isSome_getElem?, hrecord]
        rfl
    · have hverify : service.verifyType key =
          .error (.serviceKeyTypeMismatch key.id service.messageType key.messageType) := by
        rw [ServiceRegistry.verifyType, if_neg htype]
      simp only [hverify]
      refine iff_of_false ?_ ?_
      · rintro ⟨entries, hentries, -⟩
        cases hentries
      · rintro ⟨-, found, hfound, hmatch, -⟩
        obtain rfl : service = found := Option.some.inj hfound
        exact htype hmatch

lemma Agrees.listed_iff_held (h : Agrees world) (key : ServiceKey) {identity : ActorIdentity}
    (halive : identity ∉ world.terminated) :
    world.Listed key identity ↔ world.Held key identity := by
  have hleases := h.leases key.id identity halive
  rw [listed_iff]
  constructor
  · rintro ⟨-, service, hservice, htype, leases, hrecord⟩
    have hpos := h.counted key.id service hservice identity leases hrecord
    rw [← leases_of_service hservice, ServiceRegistry.leases, hrecord, Option.getD_some] at hleases
    obtain ⟨handle, hmem, hcounts⟩ := countP_pos_iff.mp (hleases ▸ hpos)
    simp only [counts, Bool.and_eq_true, decide_eq_true_eq] at hcounts
    obtain ⟨found, hfound, hmessage⟩ := h.typed handle hmem
    rw [hcounts.2.1, hservice] at hfound
    cases hfound
    refine ⟨handle, hmem, ?_, hcounts.2.2, hcounts.1⟩
    rcases hkey : handle.key with ⟨id, messageType⟩
    rw [hkey] at hcounts hmessage
    rcases key with ⟨keyId, keyType⟩
    obtain rfl : id = keyId := hcounts.2.1
    obtain rfl : messageType = keyType := hmessage.symm.trans htype
    rfl
  · rintro ⟨handle, hmem, rfl, rfl, hactive, hcurrent⟩
    obtain ⟨service, hservice, hmessage⟩ := h.typed handle hmem
    refine ⟨halive, service, hservice, hmessage, ?_⟩
    have hpos : 0 < world.handles.countP (counts handle.key.id handle.identity) :=
      countP_pos_iff.mpr ⟨handle, hmem, by simp [counts, hactive, hcurrent]⟩
    rw [← hleases, ← leases_of_service hservice, ServiceRegistry.leases] at hpos
    cases hrecord : service.localRecords[handle.identity]? with
    | none =>
      rw [hrecord] at hpos
      cases hpos
    | some leases => exact ⟨leases, rfl⟩

/-- While outdated handles are given up only where their actor has no record, a live actor is listed
exactly while a handle obtained since its last deregistration is held. -/
theorem listed_while_held (events : List ReceptionistEvent) (htimely : TimelyRun new events)
    (key : ServiceKey) (identity : ActorIdentity)
    (halive : identity ∉ (run new events).terminated) :
    (run new events).Listed key identity ↔ (run new events).Held key identity :=
  (foldl_invariant_of_meets (fun _ _ h htimely => h.step htimely) agrees_new
    htimely : Agrees (run new events)).listed_iff_held key halive

/-- A handle obtained before a deregistration takes the lease of the one obtained after it. -/
theorem outdated_handle_removes_registration :
    ¬(run new [.register ⟨"svc", "M"⟩ ⟨"/user/a", 1⟩, .deregister ⟨"svc", "M"⟩ ⟨"/user/a", 1⟩,
        .register ⟨"svc", "M"⟩ ⟨"/user/a", 1⟩, .giveUp 0]).Listed ⟨"svc", "M"⟩ ⟨"/user/a", 1⟩ ∧
      (run new [.register ⟨"svc", "M"⟩ ⟨"/user/a", 1⟩, .deregister ⟨"svc", "M"⟩ ⟨"/user/a", 1⟩,
        .register ⟨"svc", "M"⟩ ⟨"/user/a", 1⟩, .giveUp 0]).Held ⟨"svc", "M"⟩ ⟨"/user/a", 1⟩ ∧
      (⟨"/user/a", 1⟩ : ActorIdentity) ∉ (run new [.register ⟨"svc", "M"⟩ ⟨"/user/a", 1⟩,
        .deregister ⟨"svc", "M"⟩ ⟨"/user/a", 1⟩, .register ⟨"svc", "M"⟩ ⟨"/user/a", 1⟩,
        .giveUp 0]).terminated := by
  refine ⟨?_, ?_, ?_⟩
  · rintro ⟨entries, hentries, hmem⟩
    have hnone : (run new [.register ⟨"svc", "M"⟩ ⟨"/user/a", 1⟩,
        .deregister ⟨"svc", "M"⟩ ⟨"/user/a", 1⟩, .register ⟨"svc", "M"⟩ ⟨"/user/a", 1⟩,
        .giveUp 0]).find ⟨"svc", "M"⟩ = .ok [] := by
      rfl
    rw [hnone] at hentries
    cases hentries
    exact not_mem_nil hmem
  · exact ⟨⟨⟨"svc", "M"⟩, ⟨"/user/a", 1⟩, true, true⟩, by decide +kernel, by decide⟩
  · exact not_mem_nil

/-- Two handles of one actor, one of them given up: the actor is still listed. -/
theorem second_handle_keeps_listing :
    (run new [.register ⟨"svc", "M"⟩ ⟨"/user/a", 1⟩, .register ⟨"svc", "M"⟩ ⟨"/user/a", 1⟩,
      .giveUp 0]).Listed ⟨"svc", "M"⟩ ⟨"/user/a", 1⟩ :=
  (listed_while_held [.register ⟨"svc", "M"⟩ ⟨"/user/a", 1⟩,
      .register ⟨"svc", "M"⟩ ⟨"/user/a", 1⟩, .giveUp 0]
    ⟨trivial, fun _ h => Option.some.inj h ▸ ⟨trivial, fun _ h' => Option.some.inj h' ▸
      ⟨fun handle hhandle _ => Or.inl (by
        cases hhandle
        rfl), fun _ _ => trivial⟩⟩⟩ ⟨"svc", "M"⟩ ⟨"/user/a", 1⟩ not_mem_nil).mpr
    ⟨⟨⟨"svc", "M"⟩, ⟨"/user/a", 1⟩, true, true⟩, by decide +kernel, by decide⟩

end ReceptionistWorld
end Rakka.Core
