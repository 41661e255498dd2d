import Rakka.Foundation.RelayOrder
import Rakka.Sharding.Routing

/-! A shard region with a buffer is a relay. The source of a message is its entity, its home is the
shard of the entity, and the discipline of a call is read off its delivery attempts. -/

namespace Rakka.Sharding
open Cluster Foundation ShardMessageBuffer List

def EntityDeliveryFailure.isHandoff : EntityDeliveryFailure → Bool
  | .shardHandoff _ _ => true
  | _ => false

namespace DeliveryAttempt
variable {M : Type}

def accepted (a : DeliveryAttempt M) : Bool := a.answer.isOk

def namesOwnShard (a : DeliveryAttempt M) : Bool :=
  match a.answer with
  | .error (.delivery _ (.shardHandoff shardId _)) => shardId = a.shardId
  | _ => true

def turnedBack (a : DeliveryAttempt M) : Bool :=
  match a.answer with
  | .error (.noRoute _ _) => true
  | .error (.delivery _ failure) => failure.isHandoff
  | .ok () => false

/-- No message of an entity is accepted once an earlier one was turned back. -/
def Patient (attempts : List (DeliveryAttempt M)) : Prop :=
  attempts.Pairwise (fun a a' => a.entity = a'.entity → a.turnedBack → ¬ a'.accepted)

instance (attempts : List (DeliveryAttempt M)) : Decidable (Patient attempts) :=
  inferInstanceAs (Decidable (List.Pairwise _ _))

lemma shardId_eq_of_namesOwnShard {a : DeliveryAttempt M} (h : a.namesOwnShard) {message : M}
    {shardId : ShardId} {state : ShardHandoffState}
    (hanswer : a.answer = .error (.delivery message (.shardHandoff shardId state))) :
    shardId = a.shardId := by
  rw [namesOwnShard, hanswer] at h
  exact of_decide_eq_true h

end DeliveryAttempt

namespace RegionState
variable {M σ : Type} {config : ShardingConfig} {buffering : ShardBufferConfig}
  {s : RegionState M σ} {b : ShardMessageBuffer M}

def homeShard (config : ShardingConfig) (entity : EntityRef) : ShardId :=
  ShardId.forEntity entity.entityType entity.entityId config

def relayShape (M : Type) (config : ShardingConfig) (buffering : ShardBufferConfig) :
    Relay.Shape ShardId EntityRef (BufferedEntityMessage M) DropReason where
  ticket := BufferedEntityMessage.ticket
  source := BufferedEntityMessage.entity
  home := BufferedEntityMessage.shardId
  homeOf := homeShard config
  capacity := buffering.capacityPerShard
  evicts := buffering.overflow ≠ .failFast
  mayDrop
    | .expired age => buffering.ttl < age
    | .rejected failure => failure.isHandoff = false

/-- The region has the buffer `b`, and its owner cache is for its own entity type. -/
structure Buffers (config : ShardingConfig) (buffering : ShardBufferConfig) (s : RegionState M σ)
    (b : ShardMessageBuffer M) : Prop where
  buffer : s.region.buffer = some b
  policy : b.config = buffering
  shards : s.region.config = config
  cacheShards : s.region.ownerCache.config = config
  cacheType : s.region.ownerCache.entityType = s.region.entityType

def relayOf (s : RegionState M σ) (b : ShardMessageBuffer M)
    (inFlight : List (BufferedEntityMessage M)) (returned : List EntityRef) :
    Relay ShardId EntityRef (BufferedEntityMessage M) DropReason where
  queues := b.queues
  inFlight := inFlight
  returned := returned
  nextTicket := s.nextTicket
  accepted := s.accepted
  settled := s.settled

lemma Buffers.setBuffer {b' : ShardMessageBuffer M} (h : Buffers config buffering s b)
    (hb' : b'.config = b.config) : Buffers config buffering (s.setBuffer b') b' :=
  ⟨rfl, hb'.trans h.policy, h.shards, h.cacheShards, h.cacheType⟩

section Tell
variable (route : EntityRoute M σ) {d : Relay.Discipline}
variable {s' : RegionState M σ}

lemma enqueueBuffered_attempts (s : RegionState M σ) (ticket : ℕ) (entityType : EntityType)
    (entityId : EntityId) (shardId : ShardId) (message : M) :
    (s.enqueueBuffered route ticket entityType entityId shardId message).2.attempts =
      s.attempts := by
  unfold enqueueBuffered
  cases s.region.buffer with
  | none | some => rfl

lemma enqueueBuffered_offer (h : Buffers config buffering s b) (entityType : EntityType)
    (entityId : EntityId) (shardId : ShardId) (message : M) (returned : List EntityRef)
    (hloyal : d.loyal → shardId = homeShard config ⟨entityType, entityId⟩) :
    ∃ answer s' b', s.enqueueBuffered route s.nextTicket entityType entityId shardId message =
        (answer, s') ∧ Buffers config buffering s' b' ∧
      Relay.Offer (relayShape M config buffering) d (s.relayOf b [] returned)
        ⟨entityType, entityId⟩ answer.isOk (s'.relayOf b' [] returned) := by
  have hcases := b.enqueue_cases ⟨entityType, entityId, shardId, message, s.now, s.nextTicket⟩
  have hconfig := b.enqueue_config ⟨entityType, entityId, shardId, message, s.now, s.nextTicket⟩
  unfold enqueueBuffered
  rw [h.buffer]
  dsimp only
  generalize b.enqueue ⟨entityType, entityId, shardId, message, s.now, s.nextTicket⟩ = out
    at hcases hconfig
  have hbuffers : Buffers config buffering
      ((s.setBuffer out.2.1).settle out.2.2 (fun _ => .overflowed)) out.2.1 :=
    ⟨rfl, hconfig.trans h.policy, h.shards, h.cacheShards, h.cacheType⟩
  refine ⟨_, _, _, rfl, hbuffers, ?_⟩
  change Relay.Offer _ d _ _ _ ((s.relayOf out.2.1 [] returned).settle (out.2.2.map _))
  cases hcases with
  | stored hroom =>
    rw [h.policy] at hroom
    rw [map_nil, Relay.settle_nil]
    change Relay.Offer _ d _ _ true ((s.relayOf b [] returned).push (relayShape M config buffering)
      ⟨entityType, entityId, shardId, message, s.now, s.nextTicket⟩)
    exact .stored _ rfl rfl hloyal hroom
  | refused =>
    rw [map_nil, Relay.settle_nil]
    exact .refusedAt shardId
  | lost hpolicy =>
    have hevicts : buffering.overflow ≠ .failFast := by
      rw [← h.policy, hpolicy]
      decide
    exact .lost shardId hevicts
  | displaced first rest hpolicy hqueue =>
    have hevicts : buffering.overflow ≠ .failFast := by
      rw [← h.policy, hpolicy]
      decide
    change Relay.Offer _ d _ _ true (((s.relayOf b [] returned).shift
      (relayShape M config buffering)
      ⟨entityType, entityId, shardId, message, s.now, s.nextTicket⟩ rest).settle
        [⟨first.ticket, first.entity, .overflowed⟩])
    exact .displaced _ first rest rfl rfl hloyal hevicts hqueue

/-- Only the route's state, the attempts and the delivered messages change. -/
structure Delivery (s : RegionState M σ) (ticket : ℕ) (m : RoutedEntityMessage M)
    (answer : Except (EntityTellError M) Unit) (s' : RegionState M σ) : Prop where
  region : s'.region = s.region
  nextTicket : s'.nextTicket = s.nextTicket
  attempts : s'.attempts =
    s.attempts ++ [⟨ticket, ⟨m.entityType, m.entityId⟩, m.shardId, answer⟩]
  delivered : answer = .ok () → ∀ b inFlight returned, s'.relayOf b inFlight returned =
    (s.relayOf b inFlight returned).settle
      [⟨ticket, ⟨m.entityType, m.entityId⟩, .delivered⟩]
  refused : ∀ e, answer = .error e → ∀ b inFlight returned,
    s'.relayOf b inFlight returned = s.relayOf b inFlight returned

lemma deliver_delivery {ticket : ℕ} {m : RoutedEntityMessage M}
    {answer : Except (EntityTellError M) Unit} (hout : s.deliver route ticket m = (answer, s')) :
    Delivery s ticket m answer s' := by
  unfold deliver at hout
  rcases hanswer : route.deliver m s.route with ⟨answer', r⟩
  rw [hanswer] at hout
  cases hout
  refine ⟨rfl, rfl, rfl, ?_, ?_⟩
  · rintro rfl b inFlight returned
    rfl
  · rintro e rfl b inFlight returned
    rfl

lemma Buffers.of_region (h : Buffers config buffering s b) (hregion : s'.region = s.region) :
    Buffers config buffering s' b := by
  obtain ⟨hbuffer, hpolicy, hshards, hcacheShards, hcacheType⟩ := h
  rw [← hregion] at hbuffer hshards hcacheShards hcacheType
  exact ⟨hbuffer, hpolicy, hshards, hcacheShards, hcacheType⟩

/-- The discipline `d` asks no more of a call than its delivery attempts give. -/
structure Permits (d : Relay.Discipline) (attempts : List (DeliveryAttempt M)) : Prop where
  loyal : d.loyal → ∀ a ∈ attempts, a.namesOwnShard
  patient : d.patient → DeliveryAttempt.Patient attempts

def Clear (b : ShardMessageBuffer M) (attempts : List (DeliveryAttempt M)) : Prop :=
  ∀ a ∈ attempts, a.accepted → ∀ m ∈ Queues.contents b.queues, m.entity ≠ a.entity

lemma deliverOrBuffer_offer (h : Buffers config buffering s b) (m : RoutedEntityMessage M)
    (hshard : m.shardId = homeShard config ⟨m.entityType, m.entityId⟩) (returned : List EntityRef)
    (hpermits : Permits d (s.deliverOrBuffer route s.nextTicket m).2.attempts)
    (hcalm : d.calm → Clear b (s.deliverOrBuffer route s.nextTicket m).2.attempts) :
    ∃ answer s' b', s.deliverOrBuffer route s.nextTicket m = (answer, s') ∧
        Buffers config buffering s' b' ∧
      Relay.Offer (relayShape M config buffering) d (s.relayOf b [] returned)
        ⟨m.entityType, m.entityId⟩ answer.isOk (s'.relayOf b' [] returned) := by
  unfold deliverOrBuffer at hpermits hcalm ⊢
  rcases hout : s.deliver route s.nextTicket m with ⟨answer, s'⟩
  have hdelivery := deliver_delivery route hout
  have h' := h.of_region hdelivery.region
  rw [hout] at hpermits hcalm
  cases answer with
  | ok =>
    refine ⟨_, _, b, rfl, h', ?_⟩
    rw [hdelivery.delivered rfl]
    refine .forwarded (fun hd => ?_)
    have hclear : Clear b s'.attempts := hcalm hd
    rw [hdelivery.attempts] at hclear
    exact hclear _ (mem_append_right _ (mem_singleton_self _)) rfl
  | error e =>
    rw [← hdelivery.refused e rfl]
    cases e with
    | noRoute => exact ⟨_, _, b, rfl, h', .refused⟩
    | delivery message failure =>
      cases failure with
      | shardHandoff failureShardId =>
        have hsome : s'.region.buffer.isNone = false := by rw [h'.buffer]; rfl
        simp only [hsome, Bool.false_eq_true, if_false] at hpermits ⊢
        rw [enqueueBuffered_attempts, hdelivery.attempts] at hpermits
        rw [← hdelivery.nextTicket]
        have hloyal : d.loyal →
            failureShardId = homeShard config ⟨m.entityType, m.entityId⟩ := by
          intro hd
          have hlast := hpermits.loyal hd _ (mem_append_right _ (mem_singleton_self _))
          exact (DeliveryAttempt.shardId_eq_of_namesOwnShard hlast rfl).trans hshard
        exact enqueueBuffered_offer route h' m.entityType m.entityId failureShardId message
          returned hloyal
      | _ => exact ⟨_, _, b, rfl, h', .refused⟩

lemma tellTicket_offer (h : Buffers config buffering s b) (entity : EntityRef) (message : M)
    (returned : List EntityRef)
    (hpermits : Permits d (s.tellTicket route s.nextTicket entity message).2.attempts)
    (hcalm : d.calm → Clear b (s.tellTicket route s.nextTicket entity message).2.attempts) :
    ∃ answer s' b', s.tellTicket route s.nextTicket entity message = (answer, s') ∧
        Buffers config buffering s' b' ∧
      Relay.Offer (relayShape M config buffering) d (s.relayOf b [] returned) entity answer.isOk
        (s'.relayOf b' [] returned) := by
  have hpaused : s.isEntityBuffered entity.entityId =
      ((b.retainPaused s.now).pausedEntities.contains entity.entityId,
        s.setBuffer (b.retainPaused s.now)) := by
    unfold isEntityBuffered
    rw [h.buffer]
    rfl
  -- forgetting the pauses that ended leaves the queues as they were
  have h' : Buffers config buffering (s.setBuffer (b.retainPaused s.now)) (b.retainPaused s.now) :=
    h.setBuffer rfl
  have hhome : ShardId.forEntity entity.entityType entity.entityId s.region.config =
      homeShard config entity := by rw [h.shards]; rfl
  unfold tellTicket at hpermits hcalm ⊢
  split_ifs at hpermits hcalm ⊢ with htype
  · exact ⟨_, _, b, rfl, h, .refused⟩
  rw [hpaused, hhome] at hpermits hcalm ⊢
  generalize (b.retainPaused s.now).pausedEntities.contains entity.entityId = paused
    at hpermits hcalm ⊢
  cases paused with
  | true => exact enqueueBuffered_offer route h' _ _ _ message returned (fun _ => rfl)
  | false =>
    dsimp only at hpermits hcalm ⊢
    generalize (s.setBuffer (b.retainPaused s.now)).region.ownerCache.ownerForEntity
      entity.entityId = resolved at hpermits hcalm ⊢
    cases resolved with
    | ok owner =>
      exact deliverOrBuffer_offer route h' ⟨_, _, _, owner.1, message⟩ rfl returned
        hpermits hcalm
    | error =>
      dsimp only at hpermits hcalm ⊢
      split_ifs at hpermits hcalm ⊢ with hbuffers
      · exact enqueueBuffered_offer route h' _ _ _ message returned (fun _ => rfl)
      · exact ⟨_, _, _, rfl, h', .refused⟩

lemma tell_steps (h : Buffers config buffering s b) (entity : EntityRef) (message : M)
    (returned : List EntityRef) (hpermits : Permits d (s.tell route entity message).2.attempts)
    (hcalm : d.calm → Clear b (s.tell route entity message).2.attempts) :
    ∃ b', Buffers config buffering (s.tell route entity message).2 b' ∧
      Relay.Steps (relayShape M config buffering) d (s.relayOf b [] returned)
        ((s.tell route entity message).2.relayOf b' [] returned) := by
  have hattempts : (s.tell route entity message).2.attempts =
      (s.tellTicket route s.nextTicket entity message).2.attempts := by
    unfold tell
    rcases s.tellTicket route s.nextTicket entity message with ⟨_ | _, s'⟩
    · rfl
    · rfl
  rw [hattempts] at hpermits hcalm
  obtain ⟨answer, s', b', hs', hb', hoffer⟩ :=
    tellTicket_offer route h entity message returned hpermits hcalm
  have hstep := Relation.ReflTransGen.single (Relay.Step.offer rfl hoffer)
  unfold tell
  rw [hs']
  cases answer with
  | error =>
    refine ⟨b', ⟨hb'.buffer, hb'.policy, hb'.shards, hb'.cacheShards, hb'.cacheType⟩, ?_⟩
    change Relation.ReflTransGen _ _ ((s'.relayOf b' [] returned).close false) at hstep
    rwa [Relay.close_false] at hstep
  | ok =>
    exact ⟨b', ⟨hb'.buffer, hb'.policy, hb'.shards, hb'.cacheShards, hb'.cacheType⟩, hstep⟩

end Tell

section Flush
variable (route : EntityRoute M σ) {d : Relay.Discipline}
variable {returned : List EntityRef} {s' s₀ : RegionState M σ} {m : BufferedEntityMessage M}

/-- What a flush leaves alone, and that its attempts come after earlier ones. -/
structure FlushFrame (s s' : RegionState M σ) : Prop where
  resolve : s'.resolve = s.resolve
  attempts : s.attempts <+: s'.attempts

lemma FlushFrame.trans {s₁ s₂ s₃ : RegionState M σ} (h₁ : FlushFrame s₁ s₂)
    (h₂ : FlushFrame s₂ s₃) : FlushFrame s₁ s₃ :=
  ⟨h₂.resolve.trans h₁.resolve, h₁.attempts.trans h₂.attempts⟩

lemma Permits.of_earlier {attempts attempts' : List (DeliveryAttempt M)}
    (h : Permits d attempts') (hle : attempts <+: attempts') : Permits d attempts :=
  ⟨fun hd a ha => h.loyal hd a (hle.subset ha), fun hd => (h.patient hd).sublist hle.sublist⟩

lemma enqueueExistingBuffered_frame (s : RegionState M σ) (m : BufferedEntityMessage M) :
    FlushFrame s (s.enqueueExistingBuffered m) ∧
      (s.enqueueExistingBuffered m).attempts = s.attempts := by
  unfold enqueueExistingBuffered
  cases s.region.buffer with
  | none => exact ⟨⟨rfl, prefix_rfl⟩, rfl⟩
  | some b =>
    dsimp only
    rcases b.requeue m with ⟨_ | _, b'⟩
    · exact ⟨⟨rfl, prefix_rfl⟩, rfl⟩
    · exact ⟨⟨rfl, prefix_rfl⟩, rfl⟩

lemma Delivery.frame {ticket : ℕ} {m : RoutedEntityMessage M}
    {answer : Except (EntityTellError M) Unit} (h : Delivery s ticket m answer s') :
    FlushFrame s s' := by
  refine ⟨?_, h.attempts ▸ prefix_append _ _⟩
  funext entity
  unfold resolve
  rw [h.region]

lemma flushOneBuffered_frame (s : RegionState M σ) (m : BufferedEntityMessage M) :
    FlushFrame s (s.flushOneBuffered route m) := by
  unfold flushOneBuffered
  cases s.resolve ⟨m.entityType, m.entityId⟩ with
  | error => exact (enqueueExistingBuffered_frame s m).1
  | ok owned =>
    dsimp only
    rcases hout : s.deliver route m.ticket
      ⟨m.entityType, m.entityId, owned.2, owned.1, m.message⟩ with ⟨answer, s'⟩
    have hframe := (deliver_delivery route hout).frame
    cases answer with
    | ok => exact hframe
    | error e =>
      cases e with
      | noRoute => exact hframe.trans (enqueueExistingBuffered_frame s' _).1
      | delivery message failure =>
        cases failure with
        | shardHandoff => exact hframe.trans (enqueueExistingBuffered_frame s' _).1
        | _ => exact ⟨hframe.resolve, hframe.attempts⟩

lemma flush_frame (ready : List (BufferedEntityMessage M)) (s : RegionState M σ) :
    FlushFrame s (ready.foldl (flushOneBuffered route) s) := by
  induction ready generalizing s with
  | nil => exact ⟨rfl, prefix_rfl⟩
  | cons m rest ih => exact (flushOneBuffered_frame route s m).trans (ih _)

lemma enqueueExistingBuffered_step (h : Buffers config buffering s b)
    (m m' : BufferedEntityMessage M) (rest : List (BufferedEntityMessage M))
    (returned : List EntityRef) (hticket : m'.ticket = m.ticket) (hentity : m'.entity = m.entity)
    (hloyal : d.loyal → m'.shardId = m.shardId ∨ m'.shardId = homeShard config m.entity) :
    ∃ b' returned', Buffers config buffering (s.enqueueExistingBuffered m') b' ∧
      returned' ⊆ m.entity :: returned ∧
      Relay.Step (relayShape M config buffering) d (s.relayOf b (m :: rest) returned)
        ((s.enqueueExistingBuffered m').relayOf b' rest returned') := by
  unfold enqueueExistingBuffered requeue
  rw [h.buffer]
  dsimp only
  split_ifs with hroom
  · refine ⟨_, m.entity :: returned, h.setBuffer rfl, List.Subset.refl _, ?_⟩
    rw [h.policy] at hroom
    have hstep : Relay.Step (relayShape M config buffering) d (s.relayOf b (m :: rest) returned)
        ((s.relayOf b rest (m.entity :: returned)).push (relayShape M config buffering) m') :=
      .requeue m' rfl hticket hentity hloyal hroom
    exact hstep
  · refine ⟨_, returned, ⟨rfl, h.policy, h.shards, h.cacheShards, h.cacheType⟩,
      subset_cons_self _ _, ?_⟩
    rw [h.policy] at hroom
    have hstep : Relay.Step (relayShape M config buffering) d (s.relayOf b (m :: rest) returned)
        (((s.relayOf b rest returned).touch m'.shardId).settle
          [⟨m.ticket, m.entity, .discarded⟩]) :=
      .discard m' rfl hloyal (not_lt.mp hroom)
    rw [← hticket, ← hentity] at hstep
    exact hstep

lemma resolve_home (h : Buffers config buffering s b) {entity : EntityRef} {owner : NodeId}
    {shardId : ShardId} (hresolve : s.resolve entity = .ok (owner, shardId)) :
    shardId = homeShard config entity := by
  unfold resolve ShardOwnerCache.ownerForEntity at hresolve
  split_ifs at hresolve with htype
  rw [h.cacheShards, h.cacheType, ← not_not.mp htype] at hresolve
  cases hshard : s.region.ownerCache.ownerForShard
      (ShardId.forEntity entity.entityType entity.entityId config) with
  | ok =>
    simp only [hshard] at hresolve
    cases hresolve
    rfl
  | error e =>
    simp only [hshard] at hresolve
    cases e <;> cases hresolve

/-- An entity is marked as returned only when it has no owner or the route turned one of its
messages back. -/
def Marked (s : RegionState M σ) (returned : List EntityRef) : Prop :=
  ∀ entity ∈ returned, (∃ e, s.resolve entity = .error e) ∨
    ∃ a ∈ s.attempts, a.entity = entity ∧ a.turnedBack

lemma Marked.frame (h : Marked s returned) (hframe : FlushFrame s s') : Marked s' returned := by
  intro entity hentity
  rcases h entity hentity with ⟨e, he⟩ | ⟨a, ha, hturned⟩
  · exact .inl ⟨e, by rw [hframe.resolve, he]⟩
  · exact .inr ⟨a, hframe.attempts.subset ha, hturned⟩

section
variable (h : Buffers config buffering s b) (hframe : FlushFrame s₀ s)
  (rest : List (BufferedEntityMessage M))
include h hframe rest

theorem putBack_step {m' : BufferedEntityMessage M}
    (hrelay : s.relayOf b (m :: rest) returned = s₀.relayOf b (m :: rest) returned)
    (hmarked : Marked s₀ returned) (hentity : m'.entity = m.entity) (hticket : m'.ticket = m.ticket)
    (hloyal : d.loyal → m'.shardId = m.shardId ∨ m'.shardId = homeShard config m.entity)
    (hback : (∃ e, s.resolve m.entity = .error e) ∨
      ∃ a ∈ s.attempts, a.entity = m.entity ∧ a.turnedBack) :
    ∃ b' returned', Buffers config buffering (s.enqueueExistingBuffered m') b' ∧
      Marked (s.enqueueExistingBuffered m') returned' ∧
      Relay.Step (relayShape M config buffering) d (s₀.relayOf b (m :: rest) returned)
        ((s.enqueueExistingBuffered m').relayOf b' rest returned') := by
  obtain ⟨b', returned', hb', hreturned, hstep⟩ :=
    enqueueExistingBuffered_step (d := d) h m m' rest returned hticket hentity hloyal
  have hframe' := (enqueueExistingBuffered_frame s m').1
  have hmarked' : Marked s (m.entity :: returned) :=
    forall_mem_cons.mpr ⟨hback, hmarked.frame hframe⟩
  refine ⟨b', returned', hb', ?_, hrelay ▸ hstep⟩
  intro entity hmem
  exact hmarked'.frame hframe' entity (hreturned hmem)

lemma reject_step (hrelay : s.relayOf b rest returned = s₀.relayOf b rest returned)
    (hmarked : Marked s₀ returned) {failure : EntityDeliveryFailure}
    (hfailure : failure.isHandoff = false) : ∃ b' returned', Buffers config buffering
        (s.settle [m] (fun _ => .dropped (.rejected failure))) b' ∧
      Marked (s.settle [m] (fun _ => .dropped (.rejected failure))) returned' ∧
      Relay.Step (relayShape M config buffering) d (s₀.relayOf b (m :: rest) returned)
        ((s.settle [m] (fun _ => .dropped (.rejected failure))).relayOf b' rest returned') := by
  have hframe' : FlushFrame s₀ (s.settle [m] (fun _ => .dropped (.rejected failure))) :=
    ⟨hframe.resolve, hframe.attempts⟩
  refine ⟨b, returned, h.of_region rfl, hmarked.frame hframe', ?_⟩
  change Relay.Step _ d _
    ((s.relayOf b rest returned).settle [⟨m.ticket, m.entity, .dropped (.rejected failure)⟩])
  rw [hrelay]
  exact .drop (DropReason.rejected failure) rfl hfailure

end

lemma flushOneBuffered_step (h : Buffers config buffering s b) (m : BufferedEntityMessage M)
    (rest : List (BufferedEntityMessage M)) (hmarked : Marked s returned)
    (hpermits : Permits d (s.flushOneBuffered route m).attempts) :
    ∃ b' returned', Buffers config buffering (s.flushOneBuffered route m) b' ∧
      Marked (s.flushOneBuffered route m) returned' ∧
      Relay.Step (relayShape M config buffering) d (s.relayOf b (m :: rest) returned)
        ((s.flushOneBuffered route m).relayOf b' rest returned') := by
  unfold flushOneBuffered at hpermits ⊢
  cases hresolve : s.resolve ⟨m.entityType, m.entityId⟩ with
  | error e =>
    exact putBack_step h ⟨rfl, prefix_rfl⟩ rest rfl hmarked rfl rfl (fun _ => .inl rfl)
      (.inl ⟨e, hresolve⟩)
  | ok owned =>
    obtain ⟨owner, shardId⟩ := owned
    simp only [hresolve] at hpermits ⊢
    rcases hout : s.deliver route m.ticket ⟨m.entityType, m.entityId, shardId, owner, m.message⟩ with
      ⟨answer, s'⟩
    have hdelivery := deliver_delivery route hout
    simp only [hout] at hpermits ⊢
    have h' := h.of_region hdelivery.region
    have hframe := hdelivery.frame
    cases answer with
    | ok =>
      refine ⟨b, returned, h', hmarked.frame hframe, ?_⟩
      rw [hdelivery.delivered rfl]
      refine .deliver rfl (fun hd hmem => ?_)
      rw [hdelivery.attempts] at hpermits
      rcases hmarked m.entity hmem with ⟨e, he⟩ | ⟨a, ha, hentity, hturned⟩
      · exact absurd (hresolve.symm.trans he) (by simp)
      · have hlast := (pairwise_append.mp (hpermits.patient hd)).2.2 a ha _
          (mem_singleton_self _)
        exact hlast hentity hturned rfl
    | error e =>
      have hmem : ∃ a ∈ s'.attempts, a.entity = m.entity ∧ a.shardId = shardId ∧
          a.answer = .error e := by
        rw [hdelivery.attempts]
        exact ⟨_, mem_append_right _ (mem_singleton_self _), rfl, rfl, rfl⟩
      obtain ⟨a, ha, hentity, hshard, hanswer⟩ := hmem
      have hrelay := hdelivery.refused e rfl
      cases e with
      | noRoute =>
        refine putBack_step h' hframe rest (hrelay _ _ _) hmarked rfl rfl (fun _ => .inl rfl)
          (.inr ⟨a, ha, hentity, ?_⟩)
        rw [DeliveryAttempt.turnedBack, hanswer]
      | delivery message failure =>
        cases failure with
        | shardHandoff failureShardId =>
          have hattempts := (enqueueExistingBuffered_frame s'
            { m with shardId := failureShardId, message := message }).2
          have hloyal : d.loyal → failureShardId = homeShard config m.entity := by
            intro hd
            have hown := hpermits.loyal hd a (hattempts.symm ▸ ha)
            rw [DeliveryAttempt.shardId_eq_of_namesOwnShard hown hanswer, hshard]
            exact resolve_home h hresolve
          refine putBack_step h' hframe rest (hrelay _ _ _) hmarked rfl rfl
            (fun hd => .inr (hloyal hd)) (.inr ⟨a, ha, hentity, ?_⟩)
          rw [DeliveryAttempt.turnedBack, hanswer]
          rfl
        | _ =>
          exact reject_step h' hframe rest (hrelay _ _ _) hmarked rfl

lemma flush_steps (ready : List (BufferedEntityMessage M))
    (h : Buffers config buffering s b) (hmarked : Marked s returned)
    (hpermits : Permits d (ready.foldl (flushOneBuffered route) s).attempts) :
    ∃ b' returned', Buffers config buffering (ready.foldl (flushOneBuffered route) s) b' ∧
      Relay.Steps (relayShape M config buffering) d (s.relayOf b ready returned)
        ((ready.foldl (flushOneBuffered route) s).relayOf b' [] returned') := by
  induction ready generalizing s b returned with
  | nil => exact ⟨b, returned, h, .refl⟩
  | cons m rest ih =>
    have hlater := flush_frame route rest (s.flushOneBuffered route m)
    obtain ⟨b₁, returned₁, hb₁, hmarked₁, hstep⟩ :=
      flushOneBuffered_step route h m rest hmarked (hpermits.of_earlier hlater.attempts)
    obtain ⟨b', returned', hb', hsteps⟩ := ih hb₁ hmarked₁ hpermits
    exact ⟨b', returned', hb', .head hstep hsteps⟩

lemma expired_settlements (config : ShardingConfig) (buffering : ShardBufferConfig) (now : ℕ)
    (ttl : Duration) (isPaused : EntityId → Bool) (ms : List (BufferedEntityMessage M)) :
    (ms.filter (isExpired now ttl)).map
        (fun m => ⟨m.ticket, m.entity, .dropped (.expired (now - m.enqueuedAt))⟩) =
      ms.filterMap (Relay.dropped (relayShape M config buffering) (judge now ttl isPaused)) := by
  induction ms with
  | nil => rfl
  | cons m ms ih =>
    cases hexpired : isExpired now ttl m with
    | true =>
      have hdropped : Relay.dropped (relayShape M config buffering)
          (judge now ttl isPaused) m =
          some ⟨m.ticket, m.entity, .dropped (.expired (now - m.enqueuedAt))⟩ := by
        rw [Relay.dropped, judge, hexpired]
        rfl
      rw [filter_cons_of_pos hexpired, map_cons, ih, filterMap_cons_some hdropped]
    | false =>
      have hdropped : Relay.dropped (relayShape M config buffering)
          (judge now ttl isPaused) m = none := by
        rw [Relay.dropped, judge, hexpired, if_neg Bool.false_ne_true]
        cases isPaused m.entityId with
        | true | false => rfl
      rw [filter_cons_of_neg (by simp [hexpired]), ih, filterMap_cons_none hdropped]

lemma drain_step (config : ShardingConfig) (s : RegionState M σ) (b : ShardMessageBuffer M)
    (hpolicy : b.config = buffering) (isPaused : EntityId → Bool) (returned : List EntityRef) :
    Relay.Step (relayShape M config buffering) d (s.relayOf b [] returned)
      ((s.relayOf b [] returned).drained (relayShape M config buffering)
        (judge s.now b.config.ttl isPaused)) := by
  refine .drain _ rfl ?_ ?_
  · intro m reason hm
    unfold judge at hm
    split_ifs at hm with hexpired
    cases hm
    have hage : b.config.ttl < s.now - m.enqueuedAt := of_decide_eq_true hexpired
    rw [hpolicy] at hage
    exact hage
  · intro m m' hentity hm hm'
    have hid : m.entityId = m'.entityId := congrArg EntityRef.entityId hentity
    unfold judge at hm hm'
    split_ifs at hm hm' with _ hpaused _ hpaused'
    rw [hid] at hpaused
    exact hpaused' hpaused

lemma flushBuffered_steps (h : Buffers config buffering s b) (returned : List EntityRef)
    (hpermits : Permits d (s.flushBuffered route).attempts) :
    ∃ b' returned', Buffers config buffering (s.flushBuffered route) b' ∧
      Relay.Steps (relayShape M config buffering) d (s.relayOf b [] returned)
        ((s.flushBuffered route).relayOf b' [] returned') := by
  unfold flushBuffered at hpermits ⊢
  rw [h.buffer] at hpermits ⊢
  dsimp only at hpermits ⊢
  rw [b.drainReady_eq] at hpermits ⊢
  dsimp only at hpermits ⊢
  let verdict := judge (M := M) s.now b.config.ttl
    (b.retainPaused s.now).pausedEntities.contains
  let b₁ : ShardMessageBuffer M := { b.retainPaused s.now with
    queues := Queues.shrink (List.filter (fun m => (verdict m).keeps)) b.queues }
  let s₁ := (s.setBuffer b₁).settle
    ((Queues.contents b.queues).filter (isExpired s.now b.config.ttl))
    (fun m => .dropped (.expired (s.now - m.enqueuedAt)))
  have h₁ : Buffers config buffering s₁ b₁ :=
    ⟨rfl, h.policy, h.shards, h.cacheShards, h.cacheType⟩
  have hdrain := drain_step (d := d) config s b h.policy
    (b.retainPaused s.now).pausedEntities.contains returned
  have hrelay : s₁.relayOf b₁ ((Queues.contents b.queues).filter (fun m => (verdict m).releases)) [] =
      (s.relayOf b [] returned).drained (relayShape M config buffering) verdict := by
    have hsettled := congrArg (s.settled ++ ·) (expired_settlements config buffering s.now
      b.config.ttl (b.retainPaused s.now).pausedEntities.contains (Queues.contents b.queues))
    exact congrArg (fun settled => ({ (s.relayOf b [] returned).drained
      (relayShape M config buffering) verdict with settled := settled } :
        Relay ShardId EntityRef (BufferedEntityMessage M) DropReason)) hsettled
  obtain ⟨b', returned', hb', hsteps⟩ := flush_steps route _ h₁
    (fun _ h => absurd h not_mem_nil) hpermits
  exact ⟨b', returned', hb', .head hdrain (hrelay ▸ hsteps)⟩

end Flush

section Calls
variable (route : EntityRoute M σ) {d : Relay.Discipline}

/-- The relay of the region stays as it is, and nothing is delivered. -/
structure Quiet (s s' : RegionState M σ) : Prop where
  relay : ∀ config buffering b, Buffers config buffering s b → ∃ b', Buffers config buffering s' b' ∧
    ∀ inFlight returned, s'.relayOf b' inFlight returned = s.relayOf b inFlight returned
  attempts : s'.attempts = s.attempts

lemma Quiet.refl (s : RegionState M σ) : Quiet s s :=
  ⟨fun _ _ b h => ⟨b, h, fun _ _ => rfl⟩, rfl⟩

lemma Quiet.trans (s₁ s₂ s₃ : RegionState M σ) (h₁ : Quiet s₁ s₂) (h₂ : Quiet s₂ s₃) :
    Quiet s₁ s₃ := by
  refine ⟨fun config buffering b h => ?_, h₂.attempts.trans h₁.attempts⟩
  obtain ⟨b₁, hb₁, hrelay₁⟩ := h₁.relay config buffering b h
  obtain ⟨b₂, hb₂, hrelay₂⟩ := h₂.relay config buffering b₁ hb₁
  exact ⟨b₂, hb₂, fun inFlight returned => (hrelay₂ _ _).trans (hrelay₁ _ _)⟩

/-- What calls other than `tell` do: at most one flush, at their end. -/
def MayFlush (s s' : RegionState M σ) : Prop :=
  ∃ s₁, Quiet s s₁ ∧ (s' = s₁ ∨ s' = s₁.flushBuffered route)

lemma Quiet.mayFlush (s s' : RegionState M σ) (h : Quiet s s') : MayFlush route s s' :=
  ⟨s', h, .inl rfl⟩

lemma Quiet.comp_mayFlush (s₁ s₂ s₃ : RegionState M σ) (h₁ : Quiet s₁ s₂)
    (h₂ : MayFlush route s₂ s₃) : MayFlush route s₁ s₃ := by
  obtain ⟨s, hs, hs₃⟩ := h₂
  exact ⟨s, h₁.trans _ _ _ hs, hs₃⟩

lemma mayFlush_flush : Attempt.Keeps (MayFlush route)
    (Attempt.modify (flushBuffered route) : Attempt ShardingError (RegionState M σ) Unit) :=
  Attempt.keeps_modify (fun s => ⟨s, Quiet.refl s, .inr rfl⟩)

lemma askRoute_quiet {α : Type} (ask : ShardId → σ → Except ShardingError α × σ)
    (shardId : ShardId) : Attempt.Keeps Quiet (askRoute (M := M) ask shardId) :=
  fun _ => ⟨fun _ _ b h => ⟨b, h.of_region rfl, fun _ _ => rfl⟩, rfl⟩

lemma askRouteEach_quiet (ask : ShardId → σ → Except ShardingError ℕ × σ)
    (shardIds : List ShardId) : Attempt.Keeps Quiet (askRouteEach (M := M) ask shardIds) := by
  induction shardIds with
  | nil => exact Attempt.keeps_pure Quiet.refl ()
  | cons shardId shardIds ih => exact (askRoute_quiet ask shardId).bind Quiet.trans (fun _ => ih)

lemma refreshCache_quiet (snapshot : ShardOwnershipSnapshot) :
    Attempt.Keeps Quiet (refreshCache (M := M) (σ := σ) snapshot) := by
  intro s
  refine ⟨fun config buffering b h => ⟨b, ?_, fun _ _ => rfl⟩, rfl⟩
  unfold refreshCache ShardOwnerCache.refresh
  cases validateSnapshot s.region.ownerCache.entityType s.region.ownerCache.config snapshot with
  | error | ok => exact ⟨h.buffer, h.policy, h.shards, h.cacheShards, h.cacheType⟩

lemma refreshOwnership_mayFlush (snapshot : ShardOwnershipSnapshot) :
    Attempt.Keeps (MayFlush route) (refreshOwnership (M := M) route snapshot) := by
  intro s
  unfold refreshOwnership
  rw [Attempt.get_bind]
  cases validateSnapshot s.region.entityType s.region.config snapshot with
  | error => exact (Quiet.refl s).mayFlush route
  | ok =>
    have hfine := Quiet.mayFlush (M := M) route
    have hcomp := Quiet.comp_mayFlush (M := M) route
    exact (askRouteEach_quiet _ _).bind_of_comp hfine hcomp
      (fun _ => (refreshCache_quiet snapshot).bind_of_comp hfine hcomp
        (fun _ => (askRouteEach_quiet _ _).bind_of_comp hfine hcomp
          (fun _ => mayFlush_flush route))) s

lemma acquireShard_mayFlush (shardId : ShardId) :
    Attempt.Keeps (MayFlush route) (acquireShard (M := M) route shardId) := by
  unfold acquireShard
  refine (askRoute_quiet _ _).bind_of_comp (Quiet.mayFlush route) (Quiet.comp_mayFlush route) ?_
  exact fun stopped s => ⟨s, Quiet.refl s, .inr rfl⟩

lemma activateEntity_quiet (entityId : EntityId) :
    Attempt.Keeps Quiet (activateEntity (M := M) route entityId) := by
  intro s
  unfold activateEntity
  rw [Attempt.get_bind]
  cases s.region.ownerCache.ownerForShard
      (ShardId.forEntity s.region.entityType entityId s.region.config) with
  | error => exact Quiet.refl s
  | ok owner =>
    by_cases hlocal : route.localNodeId = some owner
    · simp only [if_pos hlocal]
      exact askRoute_quiet _ _ s
    · simp only [if_neg hlocal]
      exact Quiet.refl s

lemma setBuffer_quiet {b' : ShardMessageBuffer M}
    (hbuffer : s.region.buffer = some b) (hconfig : b'.config = b.config)
    (hqueues : b'.queues = b.queues) : Quiet s (s.setBuffer b') := by
  refine ⟨fun config buffering b₀ h => ⟨b', ?_, fun inFlight returned => ?_⟩, rfl⟩
  · exact h.setBuffer (by rw [hconfig, Option.some.inj (hbuffer.symm.trans h.buffer)])
  · unfold relayOf
    rw [hqueues, Option.some.inj (hbuffer.symm.trans h.buffer)]
    rfl

lemma beginEntityPassivation_quiet (s : RegionState M σ) (entityId : EntityId)
    (duration : Duration) : Quiet s (s.beginEntityPassivation entityId duration) := by
  unfold beginEntityPassivation
  split_ifs
  · exact Quiet.refl s
  · cases hbuffer : s.region.buffer with
    | none => exact Quiet.refl s
    | some => exact setBuffer_quiet hbuffer rfl rfl

lemma endEntityPassivation_mayFlush (s : RegionState M σ) (entityId : EntityId) :
    MayFlush route s (s.endEntityPassivation route entityId) := by
  unfold endEntityPassivation
  cases hbuffer : s.region.buffer with
  | none => exact ⟨s, Quiet.refl s, .inr rfl⟩
  | some b =>
    refine ⟨s.setBuffer (b.resumeEntity entityId), ?_, .inr rfl⟩
    exact setBuffer_quiet hbuffer rfl rfl

lemma perform_cases (s : RegionState M σ) (op : RegionOp M σ) :
    (∃ entity message, op = .tell entity message) ∨ MayFlush route s (s.perform route op) := by
  cases op with
  | tell entity message => exact .inl ⟨entity, message, rfl⟩
  | beginEntityPassivation entityId duration =>
    exact .inr ((beginEntityPassivation_quiet s entityId duration).mayFlush route)
  | endEntityPassivation entityId => exact .inr (endEntityPassivation_mayFlush route s entityId)
  | flushBuffered => exact .inr ⟨s, Quiet.refl s, .inr rfl⟩
  | refreshOwnership snapshot => exact .inr (refreshOwnership_mayFlush route snapshot s)
  | beginShardHandoff shardId | completeShardHandoff shardId =>
    exact .inr ((askRoute_quiet _ shardId s).mayFlush route)
  | acquireShard shardId => exact .inr (acquireShard_mayFlush route shardId s)
  | activateEntity entityId => exact .inr ((activateEntity_quiet route entityId s).mayFlush route)
  | advance | routeMoves =>
    right
    refine Quiet.mayFlush route _ _ ⟨fun _ _ b h => ⟨b, h.of_region rfl, fun _ _ => rfl⟩, rfl⟩

/-- Every call on the region is a run of the relay, under any discipline that its delivery
attempts permit. -/
theorem perform_steps (h : Buffers config buffering s b) (op : RegionOp M σ)
    (returned : List EntityRef) (hpermits : Permits d (s.perform route op).attempts)
    (hcalm : d.calm → ∀ entity message, op = .tell entity message →
      Clear b (s.perform route op).attempts) :
    ∃ b' returned', Buffers config buffering (s.perform route op) b' ∧
      Relay.Steps (relayShape M config buffering) d (s.relayOf b [] returned)
        ((s.perform route op).relayOf b' [] returned') := by
  rcases perform_cases route s op with ⟨entity, message, rfl⟩ | ⟨s₁, hquiet, hs'⟩
  · obtain ⟨b', hb', hsteps⟩ := tell_steps route h entity message returned hpermits
      (fun hd => hcalm hd entity message rfl)
    exact ⟨b', returned, hb', hsteps⟩
  · obtain ⟨b₁, hb₁, hrelay⟩ := hquiet.relay config buffering b h
    rcases hs' with hs' | hs'
    · rw [hs']
      refine ⟨b₁, returned, hb₁, ?_⟩
      rw [hrelay]
    · rw [hs'] at hpermits ⊢
      obtain ⟨b', returned', hb', hsteps⟩ := flushBuffered_steps route hb₁ returned hpermits
      rw [hrelay] at hsteps
      exact ⟨b', returned', hb', hsteps⟩

end Calls
end RegionState
end Rakka.Sharding
