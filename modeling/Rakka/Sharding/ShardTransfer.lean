import Rakka.Sharding.EntityDelivery

/-! What a local route does with the entities of a shard it has given away. -/

namespace Rakka.Sharding
open Rakka.Core Cluster Foundation Option

def routedTerms (shardOf : EntityId → ShardId) (sets : ShardId → ShardHandoffState → Prop) :
    RouteTerms where
  spawnsFail := True
  selfStops := True
  transfers _ := True
  noRuntime := True
  routes e shardId := shardId = shardOf e
  sets := sets

def awayTerms (shardOf : EntityId → ShardId) (k : ShardId) : RouteTerms :=
  routedTerms shardOf (fun shardId state => shardId = k → state = .draining ∨ state = .transferring)

namespace Registry
variable {M : Type}

def Placed (shardOf : EntityId → ShardId) (r : Registry M) : Prop :=
  ∀ e seat, r.seats e = some seat → seat.context.shardId = shardOf e

/-- A shard has been given away: deliveries are refused, and no stop is followed by a new
incarnation. -/
structure Away (shardOf : EntityId → ShardId) (k : ShardId) (r : Registry M) : Prop where
  refuses : ¬ r.Accepts k
  quiet : ∀ e context uid held reactivate, shardOf e = k →
    r.seats e = some (.stopping context uid held reactivate) → held = [] ∧ reactivate = false

def Known (k : ShardId) (base r : Registry M) : Prop :=
  ∀ uid incarnation, r.cells uid = some incarnation → incarnation.context.shardId = k →
    ∃ incarnation', base.cells uid = some incarnation' ∧ incarnation'.context = incarnation.context

section
variable {r r' : Registry M} {shardOf : EntityId → ShardId} {k : ShardId} {capacity : ℕ}
variable {e : EntityId} {seat : Option (Seat M)} {base : Registry M}

lemma Placed.setSeat (h : r.Placed shardOf) (hseats : r'.seats = Function.update r.seats e seat)
    (hseat : ∀ seat', seat = some seat' → seat'.context.shardId = shardOf e) :
    r'.Placed shardOf := by
  intro e' seat' h'
  rw [hseats] at h'
  by_cases he : e' = e
  · subst he
    rw [Function.update_self] at h'
    exact hseat seat' h'
  · rw [Function.update_of_ne he] at h'
    exact h e' seat' h'

lemma Placed.reseat (h : r.Placed shardOf) {seat seat' : Seat M} (hseat : r.seats e = some seat)
    (hseats : r'.seats = Function.update r.seats e (some seat'))
    (hcontext : seat'.context = seat.context) : r'.Placed shardOf := by
  refine h.setSeat hseats (fun seat'' h'' => ?_)
  rw [← Option.some.inj h'', hcontext]
  exact h e seat hseat

lemma Move.placed {terms : RouteTerms} (hterms : ∀ e shardId, terms.routes e shardId →
    shardId = shardOf e) (hmove : Move capacity terms r r') (h : r.Placed shardOf) :
    r'.Placed shardOf := by
  cases hmove with
  | refuse | queue | stopMessage | leave | setState | unwatch => exact h
  | @turn _ _ _ turn _ => cases turn <;> exact h
  | hold _ hseat | holdBehind _ _ hseat | queueStop _ hseat | stopped _ hseat | reactivate hseat
  | clear _ hseat => exact h.reseat hseat rfl rfl
  | vacate seats hseats =>
    intro e seat hseat
    rcases hseats e with hsame | ⟨hnone, -⟩
    · exact h e seat (hsame ▸ hseat)
    · cases hnone.symm.trans hseat
  | spawn context hvacant hwhy =>
    refine h.setSeat rfl (fun seat' h' => ?_)
    rw [← Option.some.inj h']
    rcases hwhy with hadmits | ⟨uid, held, reactivate, hseat, -⟩
    · exact hterms _ _ hadmits.1
    · have hplaced := h _ _ hseat
      exact hplaced
  | spawnFails | remove =>
    exact h.setSeat rfl (fun seat' h' => absurd h' (some_ne_none seat').symm)

lemma Away.setSeat (h : Away shardOf k r) (hseats : r'.seats = Function.update r.seats e seat)
    (hhandoff : r'.handoff = r.handoff) (hseat : ∀ context uid held reactivate, shardOf e = k →
      seat = some (.stopping context uid held reactivate) → held = [] ∧ reactivate = false) :
    Away shardOf k r' := by
  constructor
  · unfold Accepts
    rw [hhandoff]
    exact h.refuses
  · intro e' context uid held reactivate hshard h'
    rw [hseats] at h'
    by_cases he : e' = e
    · subst he
      rw [Function.update_self] at h'
      exact hseat context uid held reactivate hshard h'
    · rw [Function.update_of_ne he] at h'
      exact h.quiet e' context uid held reactivate hshard h'

lemma Away.not_admits (h : Away shardOf k r) (hshard : shardOf e = k) {shardId : ShardId} :
    ¬ r.Admits (awayTerms shardOf k) e shardId := by
  rintro ⟨hroutes, haccepts⟩
  obtain rfl : shardId = k := hroutes.trans hshard
  exact h.refuses haccepts

lemma Move.refuses (hmove : Move capacity (awayTerms shardOf k) r r') (h : ¬ r.Accepts k) :
    ¬ r'.Accepts k := by
  cases hmove with
  | setState shardId state hterms =>
    change ¬ (Function.update r.handoff shardId state k = _ ∨
      Function.update r.handoff shardId state k = _)
    by_cases hk : k = shardId
    · subst hk
      rw [Function.update_self]
      rcases hterms rfl with rfl | rfl <;> simp
    · rw [Function.update_of_ne hk]
      exact h
  | @turn _ _ _ turn _ => cases turn <;> exact h
  | _ => exact h

lemma Move.away (hmove : Move capacity (awayTerms shardOf k) r r') (h : Away shardOf k r) :
    Away shardOf k r' := by
  have hrefuses := hmove.refuses h.refuses
  cases hmove with
  | refuse | queue | stopMessage | leave | unwatch | setState => exact ⟨hrefuses, h.quiet⟩
  | @turn _ _ _ turn _ => cases turn <;> exact ⟨h.refuses, h.quiet⟩
  | hold _ _ _ hadmits | holdBehind _ _ _ _ hadmits | reactivate _ _ hadmits =>
    refine h.setSeat rfl rfl (fun _ _ _ _ hshard _ => ?_)
    obtain ⟨shardId, hadmits⟩ := hadmits
    exact absurd hadmits (h.not_admits hshard)
  | queueStop | stopped | clear =>
    refine h.setSeat rfl rfl (fun _ _ _ _ _ h' => ?_)
    cases h'
    exact ⟨rfl, rfl⟩
  | vacate seats hseats =>
    refine ⟨h.refuses, fun e context uid held reactivate hshard h' => ?_⟩
    rcases hseats e with hsame | ⟨hnone, -⟩
    · exact h.quiet e context uid held reactivate hshard (hsame ▸ h')
    · cases hnone.symm.trans h'
  | spawn | spawnFails | remove =>
    refine h.setSeat rfl rfl (fun _ _ _ _ _ h' => ?_)
    cases h'

lemma Known.setCell (h : Known k base r) {uid : ActorUid}
    {incarnation incarnation' : Incarnation M} (hcell : r.cells uid = some incarnation)
    (hcells : r'.cells = Function.update r.cells uid (some incarnation'))
    (hcontext : incarnation'.context = incarnation.context) : Known k base r' := by
  intro uid' inc hinc hshard
  rw [hcells] at hinc
  by_cases huid : uid' = uid
  · subst huid
    rw [Function.update_self, Option.some.injEq] at hinc
    subst hinc
    rw [hcontext] at hshard ⊢
    exact h uid' incarnation hcell hshard
  · rw [Function.update_of_ne huid] at hinc
    exact h uid' inc hinc hshard

lemma Move.known (hmove : Move capacity (awayTerms shardOf k) r r') (hplaced : r.Placed shardOf)
    (haway : Away shardOf k r) (h : Known k base r) : Known k base r' := by
  cases hmove with
  | queue _ _ hcell | stopMessage _ _ hcell | queueStop _ _ hcell | leave _ hcell =>
    exact h.setCell hcell rfl rfl
  | @turn _ _ _ turn _ _ hcell => cases turn <;> exact h.setCell hcell rfl rfl
  | spawn context hvacant hwhy =>
    have hother : context.shardId ≠ k := by
      intro hshard
      rcases hwhy with hadmits | ⟨uid, held, reactivate, hseat, hwhy⟩
      · have hshardOf : shardOf context.entityId = k := hadmits.1.symm.trans hshard
        exact haway.not_admits hshardOf hadmits
      · have hshardOf : shardOf context.entityId = k := (hplaced _ _ hseat).symm.trans hshard
        obtain ⟨hheld, hreactivate⟩ := haway.quiet _ _ _ _ _ hshardOf hseat
        rcases hwhy with hwhy | hwhy
        · exact hwhy hheld
        · cases hwhy.symm.trans hreactivate
    intro uid inc hinc hshard
    by_cases huid : uid = r.nextUid
    · subst huid
      rw [cells_seatNew_self, Option.some.injEq] at hinc
      subst hinc
      exact absurd hshard hother
    · rw [cells_seatNew_of_ne r huid] at hinc
      exact h uid inc hinc hshard
  | _ => exact h

end

end Registry

def LocalOp.routedBy {M : Type} (shardOf : EntityId → ShardId) : LocalOp M → Bool
  | .deliver _ message => message.shardId = shardOf message.entityId
  | .activateEntity _ _ entityId shardId => shardId = shardOf entityId
  | _ => true

def LocalOp.leavesAway {M : Type} (k : ShardId) : LocalOp M → Bool
  | .setShardState shardId .owning | .setShardState shardId .acquired => shardId ≠ k
  | _ => true

namespace LocalState
variable {M : Type} {route : LocalEntityRoute} {shardOf : EntityId → ShardId} {k : ShardId}
  {s t : LocalState M} {op : LocalOp M} {ops : List (LocalOp M)}

lemma within_routedTerms {sets : ShardId → ShardHandoffState → Prop}
    (hrouted : op.routedBy shardOf = true)
    (hsets : ∀ shardId state, op = .setShardState shardId state → sets shardId state) :
    s.Within route (routedTerms shardOf sets) op := by
  refine ⟨fun _ _ => ⟨fun _ => trivial, fun _ => trivial⟩, ?_⟩
  cases op with
  | deliver _ message =>
    have hshard : message.shardId = shardOf message.entityId := of_decide_eq_true hrouted
    exact hshard
  | activateEntity _ _ entityId shardId =>
    have hshard : shardId = shardOf entityId := of_decide_eq_true hrouted
    exact hshard
  | passivateShard => exact fun _ _ _ _ => trivial
  | actorTurn => exact .inl trivial
  | setShardState shardId state => exact hsets shardId state rfl
  | _ => trivial

lemma within_awayTerms (hrouted : op.routedBy shardOf = true) (haway : op.leavesAway k = true) :
    s.Within route (awayTerms shardOf k) op := by
  refine within_routedTerms hrouted ?_
  rintro shardId state rfl rfl
  cases state with
  | draining => exact .inl rfl
  | transferring => exact .inr rfl
  | owning | acquired => simp [LocalOp.leavesAway] at haway

lemma empty_seats (now : ℕ) (e : EntityId) (seat : Seat M) :
    (empty now : LocalState M).registry.seats e ≠ some seat := nofun

lemma routed_run (hrouted : ∀ op ∈ ops, op.routedBy shardOf = true)
    (h : s.registry.Keyed ∧ s.registry.Placed shardOf)
    (hrun : runFrom (step route) s ops = some t) :
    t.registry.Keyed ∧ t.registry.Placed shardOf := by
  have hwithin : StepsMeet (step route) (fun s op => s.Within route
      (routedTerms shardOf (fun _ _ => True)) op) s ops :=
    stepsMeet_of_forall (step route) s (fun u op hop =>
      within_routedTerms (hrouted op hop) (fun _ _ _ => trivial))
  refine run_invariant_of_moves (fun r => r.Keyed ∧ r.Placed shardOf) (fun r hr => hr.1) ?_
    hwithin h hrun
  exact fun r r' hmove hr => ⟨hmove.keyed hr.1, hmove.placed (fun _ _ h => h) hr.2⟩

lemma away_run (Inv : Registry M → Prop)
    (hmove : ∀ r r', Registry.Move route.mailboxCapacity (awayTerms shardOf k) r r' →
      r.Placed shardOf → Inv r → Inv r') (hrouted : ∀ op ∈ ops, op.routedBy shardOf = true)
    (haway : ∀ op ∈ ops, op.leavesAway k = true)
    (h : s.registry.Keyed ∧ s.registry.Placed shardOf) (hinv : Inv s.registry)
    (hrun : runFrom (step route) s ops = some t) : Inv t.registry := by
  have hwithin : StepsMeet (step route) (fun s op => s.Within route (awayTerms shardOf k) op) s
      ops := stepsMeet_of_forall (step route) s (fun u op hop =>
        within_awayTerms (hrouted op hop) (haway op hop))
  refine (run_invariant_of_moves (fun r => (r.Keyed ∧ r.Placed shardOf) ∧ Inv r)
    (fun r hr => hr.1.1) ?_ hwithin ⟨h, hinv⟩ hrun).2
  intro r r' hstep ⟨⟨hkeyed, hplaced⟩, hr⟩
  exact ⟨⟨hstep.keyed hkeyed, hstep.placed (fun _ _ h => h) hplaced⟩, hmove r r' hstep hplaced hr⟩

lemma passivateShard_away (route : LocalEntityRoute) (env : CallEnv) (hplaced : s.registry.Placed shardOf)
    (hrefuses : ¬ s.registry.Accepts k) :
    Registry.Away shardOf k (s.passivateShard env k).2.registry := by
  have henv : env.Within route (awayTerms shardOf k) := ⟨fun _ => trivial, fun _ => trivial⟩
  obtain ⟨hmoves, hothers, hquiet⟩ := passivateEach_moves henv 0
    ((s.actors.toList.filter (fun p => p.2.context.shardId = k)).map Prod.fst)
    (fun _ _ => trivial) s
  refine ⟨?_, fun e context uid held reactivate hshard hseat => ?_⟩
  · exact Registry.Moves.invariant (fun _ _ hmove hr => hmove.refuses hr) hmoves hrefuses
  · have hslot : (s.passivateShard env k).2.actors[e]? =
        some (.stopping context uid held reactivate) := slot_of_stopping hseat
    refine hquiet e ?_ context uid held reactivate hslot
    by_cases he : e ∈ (s.actors.toList.filter (fun p => p.2.context.shardId = k)).map Prod.fst
    · exact .inl he
    · -- An entity that was not visited has no slot of the shard.
      have hsame := (hothers e he).symm.trans hslot
      exact absurd (mem_shardEntities.mpr ⟨_, hsame, (hplaced e _ (seat_of_slot hsame)).trans hshard⟩) he

lemma deliver_refused {env : CallEnv} {message : RoutedEntityMessage M}
    (howner : message.owner = route.localNodeId) (hrefuses : ¬ s.registry.Accepts message.shardId) :
    ∃ state, (s.deliver route env message).1 =
      .error (.delivery message.message (.shardHandoff message.shardId state)) := by
  have hensure : ∃ state, s.ensureShardAcceptsDelivery message.shardId =
      .error (.shardHandoff message.shardId state) := by
    unfold ensureShardAcceptsDelivery
    cases hstate : s.shardHandoffState message.shardId with
    | owning => exact absurd (.inl hstate) hrefuses
    | acquired => exact absurd (.inr hstate) hrefuses
    | draining | transferring => exact ⟨_, rfl⟩
  obtain ⟨state, hensure⟩ := hensure
  refine ⟨state, ?_⟩
  unfold deliver deliverParcel
  rw [if_neg (not_not_intro howner), hensure]

def SpawnedFor (s : LocalState M) (context : LocalEntityContext) (uid : ActorUid) : Prop :=
  s.cells[uid]?.map Incarnation.context = some context

/-- Until the shard is taken back, no incarnation of one of its entities is spawned and its
deliveries to this node are refused, whatever comes between the parts of `markShardTransferring`. -/
theorem transferred_shard_stays_away {env : CallEnv} (now : ℕ) {ops₀ ops₁ ops₂ : List (LocalOp M)}
    {s t : LocalState M} (hrouted : ∀ op ∈ ops₀ ++ ops₁ ++ ops₂, op.routedBy shardOf = true)
    (haway : ∀ op ∈ ops₁ ++ ops₂, op.leavesAway k = true)
    (hmark : runFrom (step route) (empty now) (ops₀ ++ .setShardState k .transferring :: (ops₁ ++
      [.passivateShard env k])) = some s) (hrun : runFrom (step route) s ops₂ = some t) :
    (∀ context uid, context.shardId = k → t.SpawnedFor context uid → s.SpawnedFor context uid) ∧
    ∀ env message, message.shardId = k → message.owner = route.localNodeId →
      ∃ state, (t.deliver route env message).1 =
        .error (.delivery message.message (.shardHandoff k state)) := by
  simp only [List.mem_append, or_imp, forall_and] at hrouted haway
  rw [runFrom_append] at hmark
  obtain ⟨s₀, hrun₀, hmark⟩ := bind_eq_some_iff.mp hmark
  obtain ⟨s₁, hset, hmark⟩ := bind_eq_some_iff.mp hmark
  rw [runFrom_append] at hmark
  obtain ⟨s₂, hrun₁, hmark⟩ := bind_eq_some_iff.mp hmark
  -- The entities are routed with their shard all along.
  have hempty : (empty now : LocalState M).registry.Keyed ∧
      (empty now : LocalState M).registry.Placed shardOf :=
    ⟨fun e seat h => absurd h (empty_seats now e seat),
      fun e seat h => absurd h (empty_seats now e seat)⟩
  have h₀ := routed_run hrouted.1.1 hempty hrun₀
  have hregistry₁ : s₁.registry = { s₀.registry with
      handoff := Function.update s₀.registry.handoff k .transferring } := by
    rw [← Option.some.inj hset, registry_setShardState]
  have h₁ : s₁.registry.Keyed ∧ s₁.registry.Placed shardOf := by
    rw [hregistry₁]
    exact h₀
  have h₂ := routed_run hrouted.1.2 h₁ hrun₁
  have h₃ := routed_run (List.forall_mem_singleton.mpr rfl) h₂ hmark
  -- The shard refuses deliveries from the first part on, and is away after the second.
  have hrefuses₁ : ¬ s₁.registry.Accepts k := by
    rw [hregistry₁]
    simp [Registry.Accepts]
  have hrefuses₂ : ¬ s₂.registry.Accepts k :=
    away_run (fun r => ¬ r.Accepts k) (fun _ _ hmove _ hr => hmove.refuses hr) hrouted.1.2 haway.1 h₁
      hrefuses₁ hrun₁
  have haway₃ : Registry.Away shardOf k s.registry := by
    obtain ⟨s', hs', hs⟩ := bind_eq_some_iff.mp hmark
    rw [← Option.some.inj hs, ← Option.some.inj hs']
    exact passivateShard_away route env h₂.2 hrefuses₂
  have hlast : Registry.Away shardOf k t.registry ∧ Registry.Known k s.registry t.registry :=
    away_run (fun r => Registry.Away shardOf k r ∧ Registry.Known k s.registry r)
      (fun _ _ hmove hplaced hr => ⟨hmove.away hr.1, hmove.known hplaced hr.1 hr.2⟩) hrouted.2
      haway.2 h₃ ⟨haway₃, fun uid incarnation hcell _ => ⟨incarnation, hcell, rfl⟩⟩ hrun
  refine ⟨fun context uid hshard hspawned => ?_, fun env message hshard howner => ?_⟩
  · obtain ⟨incarnation, hcell, rfl⟩ := map_eq_some_iff.mp hspawned
    obtain ⟨incarnation', hcell', hcontext⟩ := hlast.2 uid incarnation hcell hshard
    exact map_eq_some_iff.mpr ⟨incarnation', hcell', hcontext⟩
  · subst hshard
    exact deliver_refused howner hlast.1.refuses

/-- A stop with a held message and a pending activation when the shard is given away. -/
def busyCart : List (LocalOp String) :=
  [toCart "first", .passivateEntityWith ⟨true, none⟩ ⟨"cart-1"⟩ none, toCart "second",
    .activateEntity ⟨true, none⟩ ⟨"cart"⟩ ⟨"cart-1"⟩ 0]

def stoppedCart : List (LocalOp String) :=
  [.actorTurn 0 .continueRunning, .actorTurn 0 .continueRunning, .actorTurn 0 .continueRunning,
    .actorTurn 0 .continueRunning, .watcher ⟨true, none⟩ ⟨"cart-1"⟩ 0]

lemma stoppedCart_outcome : ((runFrom (step cartRoute) (empty 0) (busyCart ++
    .setShardState 0 .transferring :: ([] ++ [.passivateShard ⟨true, none⟩ 0]))).bind
      (fun s => (runFrom (step cartRoute) s stoppedCart).map (fun t => (t.nextUid, t.dropped)))) =
    some (1, [(⟨"cart-1"⟩, 1)]) := by
  decide +kernel

/-- The watcher of that stop spawns no second incarnation. -/
theorem stoppedCart_stays_away : ∃ s t, runFrom (step cartRoute) (empty 0) (busyCart ++
    .setShardState 0 .transferring :: ([] ++ [.passivateShard ⟨true, none⟩ 0])) = some s ∧
    runFrom (step cartRoute) s stoppedCart = some t ∧ t.nextUid = 1 ∧
    ∀ context uid, context.shardId = 0 → t.SpawnedFor context uid → s.SpawnedFor context uid := by
  obtain ⟨s, hmark, hrest⟩ := bind_eq_some_iff.mp stoppedCart_outcome
  obtain ⟨t, hrun, hout⟩ := map_eq_some_iff.mp hrest
  have hrouted : ∀ op ∈ busyCart ++ [] ++ stoppedCart, op.routedBy (fun _ => 0) = true := by
    decide +kernel
  have haway : ∀ op ∈ [] ++ stoppedCart, op.leavesAway 0 = true := by decide +kernel
  obtain ⟨hspawned, -⟩ := transferred_shard_stays_away 0 hrouted haway hmark hrun
  exact ⟨s, t, hmark, hrun, (Prod.mk.inj hout).1, hspawned⟩

/-- A delivery for the shard that names another owner is refused, but not for the handoff. -/
theorem foreign_delivery_not_handoff :
    let away := ((empty 0 : LocalState String).markShardTransferring ⟨true, none⟩ 0).2
    let message : RoutedEntityMessage String := ⟨⟨"cart"⟩, ⟨"cart-1"⟩, 0, ⟨"b", "1"⟩, "first"⟩
    (away.deliver cartRoute ⟨true, none⟩ message).1 =
        .error (.delivery "first" (.notLocal ⟨"b", "1"⟩)) ∧
      ∀ state, (away.deliver cartRoute ⟨true, none⟩ message).1 ≠
        .error (.delivery "first" (.shardHandoff 0 state)) := by
  have hanswer : ((((empty 0 : LocalState String).markShardTransferring ⟨true, none⟩ 0).2).deliver
      cartRoute ⟨true, none⟩ ⟨⟨"cart"⟩, ⟨"cart-1"⟩, 0, ⟨"b", "1"⟩, "first"⟩).1 =
      .error (.delivery "first" (.notLocal ⟨"b", "1"⟩)) := by decide +kernel
  refine ⟨hanswer, fun state h => ?_⟩
  cases hanswer.symm.trans h

end LocalState
end Rakka.Sharding
