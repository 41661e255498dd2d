import Rakka.Sharding.BufferRelay

/-! What a buffering shard region guarantees along every run: bounded queues, an account of every
accepted message, and, under conditions on pauses and on the route's answers, delivery in the order
of the calls to `tell`. -/

namespace Rakka.Sharding
open Cluster Foundation

namespace RegionState
variable {M σ : Type} (route : EntityRoute M σ)
variable (s : RegionState M σ)

def attemptsOf (op : RegionOp M σ) : List (DeliveryAttempt M) :=
  (({ s with attempts := [] } : RegionState M σ).perform route op).attempts

/-- Every handoff reported during the call is one of the shard that was asked for. -/
def NamesOwnShards (op : RegionOp M σ) : Prop :=
  ∀ a ∈ s.attemptsOf route op, a.namesOwnShard

/-- A `tell` is accepted by the route only while no message of its entity is buffered. -/
def TellsInTurn : RegionOp M σ → Prop
  | .tell entity message => ∀ a ∈ s.attemptsOf route (.tell entity message), a.accepted →
      ∀ m ∈ s.waiting, m.entity ≠ a.entity
  | _ => True

/-- The conditions on one call under which no message overtakes another of its entity. -/
def Orderly (op : RegionOp M σ) : Prop :=
  TellsInTurn route s op ∧ DeliveryAttempt.Patient (s.attemptsOf route op) ∧
    NamesOwnShards route s op

instance (s : RegionState M σ) (op : RegionOp M σ) : Decidable (NamesOwnShards route s op) :=
  inferInstanceAs (Decidable (∀ a ∈ _, _))

instance (s : RegionState M σ) : (op : RegionOp M σ) → Decidable (TellsInTurn route s op)
  | .tell _ _ => inferInstanceAs (Decidable (∀ a ∈ _, _ → ∀ m ∈ _, _))
  | .beginEntityPassivation _ _ | .endEntityPassivation _ | .flushBuffered | .refreshOwnership _
  | .beginShardHandoff _ | .completeShardHandoff _ | .acquireShard _ | .activateEntity _
  | .advance _ | .routeMoves _ => isTrue trivial

instance (s : RegionState M σ) (op : RegionOp M σ) : Decidable (Orderly route s op) :=
  inferInstanceAs (Decidable (_ ∧ _ ∧ _))

/-- Messages of an entity are delivered in the order of their tickets, and before those that
still wait. -/
def InOrder : Prop :=
  ∀ entity, (Relay.deliveredTo entity s.settled).Pairwise (· < ·) ∧
    ∀ m ∈ s.waiting, m.entity = entity → ∀ t ∈ Relay.deliveredTo entity s.settled, t < m.ticket

/-- A message is delivered, given up by a drain that found it expired, rejected by the route
with a failure that is no handoff, or discarded by a full queue. -/
def Explained (buffering : ShardBufferConfig) (fate : Fate DropReason) : Prop :=
  fate = .delivered ∨ (∃ age, fate = .dropped (.expired age) ∧ buffering.ttl < age) ∨
    (∃ failure, fate = .dropped (.rejected failure) ∧ failure.isHandoff = false) ∨ fate = .discarded

variable (config : ShardingConfig) (buffering : ShardBufferConfig)

def Follows (P : Relay ShardId EntityRef (BufferedEntityMessage M) DropReason → Prop)
    (s : RegionState M σ) : Prop :=
  ∃ b returned, Buffers config buffering s b ∧ P (s.relayOf b [] returned)

variable {config buffering} {d : Relay.Discipline}
  {P : Relay ShardId EntityRef (BufferedEntityMessage M) DropReason → Prop}

lemma follows_start (hP : P Relay.empty) (entityType : EntityType) (r : σ) (now maxInstant : ℕ) :
    Follows config buffering P (start entityType config buffering r now maxInstant) :=
  ⟨.new buffering, [], ⟨rfl, rfl, rfl, rfl, rfl⟩, hP⟩

lemma step_follows (hP : ∀ r r', Relay.Steps (relayShape M config buffering) d r r' → P r → P r')
    {s t : RegionState M σ} {op : RegionOp M σ} (hs : Follows config buffering P s)
    (hpermits : Permits d (s.attemptsOf route op))
    (hcalm : d.calm → ∀ entity message, op = .tell entity message →
      ∀ a ∈ s.attemptsOf route op, a.accepted → ∀ m ∈ s.waiting, m.entity ≠ a.entity)
    (hstep : s.step route op = some t) : Follows config buffering P t := by
  obtain ⟨b, returned, hb, hr⟩ := hs
  have hwaiting : s.waiting = Queues.contents b.queues := by rw [waiting, hb.buffer]
  have hb₀ : Buffers config buffering ({ s with attempts := [] } : RegionState M σ) b :=
    hb.of_region rfl
  rw [hwaiting] at hcalm
  obtain ⟨b', returned', hb', hsteps⟩ := perform_steps route hb₀ op returned hpermits hcalm
  cases hstep
  exact ⟨b', returned', hb', hP _ _ hsteps hr⟩

lemma explained_of_fair (hpolicy : buffering.overflow = .failFast) {fate : Fate DropReason}
    (h : Relay.Fair (relayShape M config buffering) fate) : Explained buffering fate := by
  cases fate with
  | delivered => exact .inl rfl
  | overflowed => exact absurd hpolicy h
  | discarded => exact .inr (.inr (.inr rfl))
  | dropped reason =>
    cases reason with
    | expired age => exact .inr (.inl ⟨age, rfl, h⟩)
    | rejected failure => exact .inr (.inr (.inl ⟨failure, rfl, h⟩))

/-- With a fail-fast buffer no queue exceeds its capacity, and every accepted message is either
buffered or has one explained fate, once; nothing is discarded as long as handoffs name the
shard that was asked for. -/
theorem accepted_accounted_for (entityType : EntityType) (config : ShardingConfig)
    (buffering : ShardBufferConfig) (hpolicy : buffering.overflow = .failFast) (r : σ)
    (now maxInstant : ℕ) (ops : List (RegionOp M σ)) (t : RegionState M σ)
    (hrun : runFrom (step route) (start entityType config buffering r now maxInstant) ops =
      some t) : (∃ b, t.region.buffer = some b ∧
      ∀ shardId, (b.queue shardId).length ≤ buffering.capacityPerShard) ∧ t.accepted.Nodup ∧
    t.accepted.Perm (t.waiting.map BufferedEntityMessage.ticket ++
      t.settled.map Settlement.ticket) ∧ (∀ z ∈ t.settled, Explained buffering z.fate) ∧
    (StepsMeet (step route) (NamesOwnShards route)
      (start entityType config buffering r now maxInstant) ops →
        ∀ z ∈ t.settled, z.fate ≠ .discarded) := by
  have hfollows : Follows config buffering (Relay.Accounted (relayShape M config buffering)) t :=
    runFrom_invariant (step route)
      (fun s op t hs hstep => step_follows route
        (d := ⟨False, False, False⟩) (fun _ _ h hr => h.accounted hr) hs
        ⟨fun h => h.elim, fun h => h.elim⟩ (fun h => h.elim) hstep)
      (follows_start (Relay.accounted_empty _) entityType r now maxInstant) hrun
  obtain ⟨b, returned, hb, haccounted⟩ := hfollows
  have hwaiting : t.waiting = Queues.contents b.queues := by rw [waiting, hb.buffer]
  refine ⟨⟨b, hb.buffer, haccounted.bounded⟩, haccounted.increasing.imp Nat.ne_of_lt, ?_, ?_, ?_⟩
  · rw [hwaiting]
    exact haccounted.tickets
  · exact fun z hz => explained_of_fair hpolicy (haccounted.fair z hz)
  · intro hown
    have hfollows' : Follows config buffering (Relay.Housed (relayShape M config buffering)) t :=
      runFrom_invariant_of_meets (step route)
        (fun s op t hs hcond hstep => step_follows route
          (d := ⟨False, True, False⟩) (fun _ _ h hr => h.housed trivial hr) hs
          ⟨fun _ => hcond, fun h => h.elim⟩ (fun h => h.elim) hstep)
        (follows_start (Relay.housed_empty _) entityType r now maxInstant) hown hrun
    obtain ⟨b', returned', -, hhoused⟩ := hfollows'
    exact hhoused.undiscarded

/-- A route without a node of its own that answers every delivery with `answer`. -/
def answering (answer : String → Except (EntityTellError String) Unit) :
    EntityRoute String Unit where
  localNodeId := none
  deliver m _ := (answer m.message, ())
  beginShardHandoff _ _ := (.ok 0, ())
  completeShardHandoff _ _ := (.ok 0, ())
  acquireShard _ _ := (.ok 0, ())
  activateEntity _ _ _ _ := (.ok false, ())
  shardHandoffState _ _ := none

def alice : EntityRef := ⟨⟨"cart"⟩, ⟨"alice"⟩⟩

def cartStart (capacity : ℕ) : RegionState String Unit :=
  start ⟨"cart"⟩ ⟨1, Nat.one_pos⟩ (.new capacity 60) () 0 1000

def cartOwned : RegionOp String Unit :=
  .refreshOwnership ⟨1, ⟨"cart"⟩, 1, [⟨⟨⟨"cart"⟩, 0⟩, nodeA.id⟩]⟩

/-- The route reports a handoff of shard 7 for everything: the second message waits at home, and
takes the place of the first when both are flushed. -/
def deflecting : EntityRoute String Unit :=
  answering (fun message => .error (.delivery message (.shardHandoff 7 .transferring)))

def deflectedOps : List (RegionOp String Unit) :=
  [cartOwned, .tell alice "first", .beginEntityPassivation ⟨"alice"⟩ 5, .tell alice "second",
    .endEntityPassivation ⟨"alice"⟩]

lemma deflected_outcome : (runFrom (step deflecting) (cartStart 1) deflectedOps).map
    (fun t => (t.accepted, t.waiting.map BufferedEntityMessage.ticket, t.settled)) =
      some ([0, 1], [1], [⟨0, alice, .discarded⟩]) := by
  decide +kernel

/-- An accepted message is neither buffered nor delivered, expired or rejected. -/
theorem deflected_message_discarded :
    ∃ t, runFrom (step deflecting) (cartStart 1) deflectedOps = some t ∧ 0 ∈ t.accepted ∧
      0 ∉ t.waiting.map BufferedEntityMessage.ticket ∧
      ∀ z ∈ t.settled, z.ticket = 0 → z.fate = .discarded := by
  obtain ⟨t, ht, houtcome⟩ := Option.map_eq_some_iff.mp deflected_outcome
  simp only [Prod.mk.injEq] at houtcome
  obtain ⟨haccepted, hwaiting, hsettled⟩ := houtcome
  refine ⟨t, ht, ?_, ?_, ?_⟩
  · rw [haccepted]
    decide
  · rw [hwaiting]
    decide
  · rw [hsettled]
    decide

def pausedOps : List (RegionOp String Unit) :=
  [cartOwned, .beginEntityPassivation ⟨"alice"⟩ 5, .tell alice "first", .advance 6,
    .tell alice "second"]

def accepting : EntityRoute String Unit := answering (fun _ => .ok ())

lemma paused_outcome : (runFrom (step accepting) (cartStart 1) pausedOps).map
    (fun t => (t.waiting.map (fun m => (m.entity, m.ticket)), t.settled)) =
      some ([(alice, 0)], [⟨1, alice, .delivered⟩]) := by
  decide +kernel

lemma paused_namesOwnShards :
    StepsMeet (step accepting) (NamesOwnShards accepting) (cartStart 1) pausedOps := by
  decide +kernel

theorem paused_accounted_for : ∃ t, runFrom (step accepting) (cartStart 1) pausedOps = some t ∧
    t.accepted.Perm (t.waiting.map BufferedEntityMessage.ticket ++
      t.settled.map Settlement.ticket) ∧ ∀ z ∈ t.settled, z.fate ≠ .discarded := by
  obtain ⟨t, ht, -⟩ := Option.map_eq_some_iff.mp paused_outcome
  obtain ⟨-, -, hperm, -, hdiscarded⟩ := accepted_accounted_for accepting ⟨"cart"⟩
    ⟨1, Nat.one_pos⟩ (.new 1 60) rfl () 0 1000 pausedOps t ht
  exact ⟨t, ht, hperm, hdiscarded paused_namesOwnShards⟩

/-- The pause is ended by a call, which flushes the message before the next `tell`. -/
def resumedOps : List (RegionOp String Unit) :=
  [cartOwned, .beginEntityPassivation ⟨"alice"⟩ 5, .tell alice "first",
    .endEntityPassivation ⟨"alice"⟩, .tell alice "second"]

lemma resumed_outcome : (runFrom (step accepting) (cartStart 1) resumedOps).map
    (fun t => t.settled) = some [⟨0, alice, .delivered⟩, ⟨1, alice, .delivered⟩] := by
  decide +kernel

lemma resumed_orderly :
    StepsMeet (step accepting) (Orderly accepting) (cartStart 1) resumedOps := by
  decide +kernel

end RegionState
end Rakka.Sharding
