import Rakka.Cluster.Membership
import Rakka.Foundation.Runs

/-! What the operations of the membership table can do. Each is a sequence of changes of single
records: a record is touched, a node is discovered, or a record moves to another state and gets
the next revision of the table. -/

namespace Rakka.Cluster
open Foundation List

instance : Fintype MembershipState where
  elems := {.joining, .up, .leaving, .unreachable, .down, .removed}
  complete s := by cases s <;> decide

lemma MembershipState.isDownOrRemoved_iff (s : MembershipState) :
    s.isDownOrRemoved = true ↔ s = .down ∨ s = .removed := by
  cases s <;> decide

namespace ClusterMembership
variable (m : ClusterMembership)

lemma member_setRecord (r : MemberRecord) (revision : ℕ) (id : NodeId) :
    (m.setRecord r revision).member id = if id = r.node.id then some r else m.member id :=
  BTreeMap.lookup_insert ..

/-- A change of one record, which may move a record `r` to the states allowed by `P r`. -/
inductive Change (P : MemberRecord → MembershipState → Prop) (m : ClusterMembership) :
    ClusterMembership → Prop
  | touch (r r' : MemberRecord) (hmember : m.member r'.node.id = some r)
      (hstate : r'.state = r.state) (hrevision : r'.revision = r.revision) :
      Change P m (m.setRecord r' m.revision)
  | discover (node : ClusterNode) (observedAtMillis : ℕ) (hnew : m.member node.id = none) :
      Change P m (m.setRecord ⟨node, .joining, observedAtMillis, m.revision + 1⟩ (m.revision + 1))
  | move (r r' : MemberRecord) (hmember : m.member r'.node.id = some r) (hmove : P r r'.state)
      (hrevision : r'.revision = m.revision + 1) : Change P m (m.setRecord r' (m.revision + 1))

abbrev Changes (P : MemberRecord → MembershipState → Prop) :
    ClusterMembership → ClusterMembership → Prop :=
  Relation.ReflTransGen (Change P)

section
variable {P Q : MemberRecord → MembershipState → Prop} {m m' : ClusterMembership}

lemma Change.mono (hPQ : ∀ r state, P r state → Q r state) (h : Change P m m') : Change Q m m' := by
  cases h with
  | touch r r' hmember hstate hrevision => exact .touch r r' hmember hstate hrevision
  | discover node observedAtMillis hnew => exact .discover node observedAtMillis hnew
  | move r r' hmember hmove hrevision => exact .move r r' hmember (hPQ _ _ hmove) hrevision

lemma Changes.mono (hPQ : ∀ r state, P r state → Q r state) (h : Changes P m m') : Changes Q m m' :=
  Relation.ReflTransGen.mono (fun _ _ => Change.mono hPQ) m m' h

lemma Changes.invariant {Inv : ClusterMembership → Prop}
    (hchange : ∀ m m', Change P m m' → Inv m → Inv m') (h : Changes P m m') (hm : Inv m) :
    Inv m' := by
  induction h with
  | refl => exact hm
  | tail _ hlast ih => exact hchange _ _ hlast ih

lemma Changes.settings_eq (h : Changes P m m') :
    m'.config = m.config ∧ m'.localNodeId = m.localNodeId := by
  induction h with
  | refl => exact ⟨rfl, rfl⟩
  | tail _ hlast ih =>
    rw [← ih.1, ← ih.2]
    cases hlast <;> exact ⟨rfl, rfl⟩

end

def InState (φ : MembershipState → Prop) (id : NodeId) : Prop :=
  ∃ r, m.member id = some r ∧ φ r.state

section
variable {P : MemberRecord → MembershipState → Prop} {m m' : ClusterMembership}
  {φ : MembershipState → Prop} {id : NodeId}

lemma Change.inState (hmove : ∀ r state, P r state → φ r.state → φ state) (h : Change P m m')
    (hid : m.InState φ id) : m'.InState φ id := by
  obtain ⟨r₀, hr₀, hφ⟩ := hid
  unfold InState
  cases h with
  | touch r r' hmember hstate =>
    rw [member_setRecord]
    split_ifs with heq
    · rw [heq, hmember] at hr₀
      cases hr₀
      exact ⟨r', rfl, hstate.symm ▸ hφ⟩
    · exact ⟨r₀, hr₀, hφ⟩
  | discover node observedAtMillis hnew =>
    have hne : id ≠ node.id := by
      rintro rfl
      cases hnew.symm.trans hr₀
    rw [member_setRecord, if_neg hne]
    exact ⟨r₀, hr₀, hφ⟩
  | move r r' hmember hallowed =>
    rw [member_setRecord]
    split_ifs with heq
    · rw [heq, hmember] at hr₀
      cases hr₀
      exact ⟨r', rfl, hmove _ _ hallowed hφ⟩
    · exact ⟨r₀, hr₀, hφ⟩

lemma Changes.inState (hmove : ∀ r state, P r state → φ r.state → φ state) (h : Changes P m m')
    (hid : m.InState φ id) : m'.InState φ id :=
  Changes.invariant (fun _ _ hchange => hchange.inState hmove) h hid

lemma Change.inState_of (hjoining : ¬ φ .joining)
    (hmove : ∀ r state, P r state → φ state → φ r.state) (h : Change P m m')
    (hid : m'.InState φ id) : m.InState φ id := by
  obtain ⟨r₀, hr₀, hφ⟩ := hid
  cases h with
  | touch r r' hmember hstate =>
    rw [member_setRecord] at hr₀
    split_ifs at hr₀ with heq
    · cases hr₀
      exact ⟨r, heq ▸ hmember, hstate ▸ hφ⟩
    · exact ⟨r₀, hr₀, hφ⟩
  | discover =>
    rw [member_setRecord] at hr₀
    split_ifs at hr₀ with heq
    · cases hr₀
      exact absurd hφ hjoining
    · exact ⟨r₀, hr₀, hφ⟩
  | move r r' hmember hallowed =>
    rw [member_setRecord] at hr₀
    split_ifs at hr₀ with heq
    · cases hr₀
      exact ⟨r, heq ▸ hmember, hmove _ _ hallowed hφ⟩
    · exact ⟨r₀, hr₀, hφ⟩

lemma Changes.inState_of (hjoining : ¬ φ .joining)
    (hmove : ∀ r state, P r state → φ state → φ r.state) (h : Changes P m m')
    (hid : m'.InState φ id) : m.InState φ id := by
  induction h with
  | refl => exact hid
  | tail _ hlast ih => exact ih (hlast.inState_of hjoining hmove hid)

end

/-- The only moves are to the state `target`, from states that allow it. -/
def MovesTo (target : MembershipState) (isAllowed : MembershipState → Bool) (r : MemberRecord)
    (state : MembershipState) : Prop :=
  isAllowed r.state = true ∧ state = target

def Revives : MemberRecord → MembershipState → Prop := MovesTo .up (fun s => s = .unreachable)

section
variable (m : ClusterMembership)

lemma transition_changes (nodeId : NodeId) (observedAtMillis : ℕ) (target : MembershipState)
    (isAllowed : MembershipState → Bool) (event : NodeId → MembershipEvent) :
    Changes (MovesTo target isAllowed) m
      (m.transition nodeId observedAtMillis target isAllowed event).2 := by
  unfold transition
  split
  · exact .refl
  next r hr =>
    have hmember : m.member r.node.id = some r := (m.keyed nodeId r hr).symm ▸ hr
    split_ifs with hsame hallowed
    · exact .single (.touch r _ hmember rfl rfl)
    · exact .refl
    · exact .single (.move r _ hmember ⟨by simpa using hallowed, rfl⟩ rfl)

lemma heartbeat_changes (nodeId : NodeId) (observedAtMillis : ℕ) :
    Changes Revives m (m.heartbeat nodeId observedAtMillis).2 := by
  unfold heartbeat
  split
  · exact .refl
  next r hr =>
    have hmember : m.member r.node.id = some r := (m.keyed nodeId r hr).symm ▸ hr
    split_ifs with hgone hunreachable
    · exact .refl
    · exact .single (.move r _ hmember ⟨decide_eq_true hunreachable, rfl⟩ rfl)
    · exact .single (.touch r _ hmember rfl rfl)

lemma updateLocalDescriptor_changes (node : ClusterNode) (hlocal : node.id = m.localNodeId)
    (observedAtMillis : ℕ) : Changes Revives m (m.updateLocalDescriptor node observedAtMillis).2 := by
  unfold updateLocalDescriptor
  split
  · exact .refl
  next r hr => exact .single (.touch r _ (show m.member node.id = _ from hlocal ▸ hr) rfl rfl)

end

lemma recordNodes_changes (localProtocol : ClusterProtocol) (observedAtMillis : ℕ)
    (nodes : List ClusterNode) (m : ClusterMembership) (events : List MembershipEvent) :
    Changes Revives m (recordNodes localProtocol observedAtMillis m nodes events).2 := by
  induction nodes generalizing m events with
  | nil => exact .refl
  | cons node nodes ih =>
    unfold recordNodes
    split_ifs with hprotocol hlocal
    · exact .refl
    · have hupdate := m.updateLocalDescriptor_changes node hlocal observedAtMillis
      generalize m.updateLocalDescriptor node observedAtMillis = out at hupdate ⊢
      rcases out with ⟨e | ⟨⟩, m'⟩
      · exact hupdate
      · exact hupdate.trans (ih m' events)
    · split
      next r hr =>
        have hmember : m.member node.id = some r := hr
        split_ifs with hgone hunreachable
        · exact .head (.touch r ⟨node, r.state, r.lastSeenMillis, r.revision⟩ hmember rfl rfl) (ih _ _)
        · exact .head (.move r _ hmember ⟨decide_eq_true hunreachable, rfl⟩ rfl) (ih _ _)
        · exact .head (.touch r ⟨node, r.state, observedAtMillis, r.revision⟩ hmember rfl rfl) (ih _ _)
      next hnone => exact .head (.discover node observedAtMillis hnone) (ih _ _)

lemma recordDiscovery_changes (snapshot : DiscoverySnapshot) :
    Changes Revives m (m.recordDiscovery snapshot).2 := by
  unfold recordDiscovery
  split
  · exact .refl
  · exact recordNodes_changes ..

def Silent (nowMillis : ℕ) (r : MemberRecord) : Prop :=
  r.node.id ≠ m.localNodeId ∧ millis m.config.failureTimeout ≤ nowMillis - r.lastSeenMillis

def Detects (nowMillis : ℕ) (r : MemberRecord) (state : MembershipState) : Prop :=
  (r.state = .joining ∨ r.state = .up) ∧ state = .unreachable ∧ m.Silent nowMillis r ∧
      m.member r.node.id = some r ∨
    r.state = .unreachable ∧ state = .down

lemma tickMember_changes {m₀ m : ClusterMembership} (nowMillis : ℕ)
    (events : List MembershipEvent) {id : NodeId} {r : MemberRecord} (hr₀ : m₀.member id = some r)
    (hr : m.member id = some r) (hconfig : m.config = m₀.config)
    (hlocal : m.localNodeId = m₀.localNodeId) :
    Changes (Detects m₀ nowMillis) m (tickMember nowMillis (events, m) id r).2 ∧
      ∀ id' ≠ id, (tickMember nowMillis (events, m) id r).2.member id' = m.member id' := by
  have hid : r.node.id = id := m.keyed id r hr
  have hmember : m.member r.node.id = some r := hid.symm ▸ hr
  have hother (state : MembershipState) (revision : ℕ) : ∀ id' ≠ id,
      (m.setRecord { r with state := state, revision := revision } revision).member id' =
        m.member id' := by
    intro id' hne
    rw [member_setRecord, if_neg (hid.symm ▸ hne)]
  unfold tickMember
  dsimp only
  split_ifs with hself hsilent hdown
  · exact ⟨.refl, fun _ _ => rfl⟩
  · rw [hconfig] at hsilent
    rw [hlocal] at hself
    have hdetects : Detects m₀ nowMillis r .unreachable :=
      .inl ⟨hsilent.1, rfl, ⟨hid.symm ▸ hself, hsilent.2⟩, hid.symm ▸ hr₀⟩
    exact ⟨.single (.move r _ hmember hdetects rfl), hother _ _⟩
  · exact ⟨.single (.move r _ hmember (.inr ⟨hdown.1, rfl⟩) rfl), hother _ _⟩
  · exact ⟨.refl, fun _ _ => rfl⟩

/-- Failure detection visits every record once, so each is as it was when the tick began. -/
theorem tickMembers_changes {m₀ : ClusterMembership} (nowMillis : ℕ)
    (ps : List (NodeId × MemberRecord)) (events : List MembershipEvent) (m : ClusterMembership)
    (hnodup : (ps.map Prod.fst).Nodup) (hps₀ : ∀ p ∈ ps, m₀.member p.1 = some p.2)
    (hps : ∀ p ∈ ps, m.member p.1 = some p.2) (hconfig : m.config = m₀.config)
    (hlocal : m.localNodeId = m₀.localNodeId) : Changes (Detects m₀ nowMillis) m
      (ps.foldl (fun acc p => tickMember nowMillis acc p.1 p.2) (events, m)).2 := by
  induction ps generalizing events m with
  | nil => exact .refl
  | cons p ps ih =>
    obtain ⟨hchanges, hother⟩ := tickMember_changes nowMillis events (hps₀ p mem_cons_self)
      (hps p mem_cons_self) hconfig hlocal
    rw [map_cons, nodup_cons] at hnodup
    rw [foldl_cons]
    generalize tickMember nowMillis (events, m) p.1 p.2 = out at hchanges hother ⊢
    obtain ⟨events', m'⟩ := out
    refine hchanges.trans (ih events' m' hnodup.2 (fun q hq => hps₀ q (mem_cons_of_mem p hq))
      (fun q hq => ?_) ((Changes.settings_eq hchanges).1.trans hconfig)
      ((Changes.settings_eq hchanges).2.trans hlocal))
    have hne : q.1 ≠ p.1 := fun heq => hnodup.1 (heq ▸ mem_map_of_mem hq)
    exact (hother q.1 hne).trans (hps q (mem_cons_of_mem p hq))

lemma tick_changes (nowMillis : ℕ) : Changes (Detects m nowMillis) m (m.tick nowMillis).2 := by
  have hmember : ∀ p ∈ m.members.toList, m.member p.1 = some p.2 :=
    fun p hp => Std.ExtTreeMap.mem_toList_iff_getElem?_eq_some.mp hp
  refine tickMembers_changes nowMillis m.members.toList [] m ?_ hmember hmember rfl rfl
  rw [List.Nodup, pairwise_map]
  exact (BTreeMap.toList_pairwise_lt m.members).imp ne_of_lt

end ClusterMembership

inductive MembershipOp where
  | recordDiscovery (snapshot : DiscoverySnapshot)
  | markUp (nodeId : NodeId) (observedAtMillis : ℕ)
  | heartbeat (nodeId : NodeId) (observedAtMillis : ℕ)
  | markLeaving (nodeId : NodeId) (observedAtMillis : ℕ)
  | markUnreachable (nodeId : NodeId) (observedAtMillis : ℕ)
  | leaveLocal (observedAtMillis : ℕ)
  | markDown (nodeId : NodeId) (observedAtMillis : ℕ)
  | remove (nodeId : NodeId) (observedAtMillis : ℕ)
  | tick (nowMillis : ℕ)

namespace ClusterMembership

def step (m : ClusterMembership) : MembershipOp → Option ClusterMembership
  | .recordDiscovery snapshot => some (m.recordDiscovery snapshot).2
  | .markUp nodeId observedAtMillis => some (m.markUp nodeId observedAtMillis).2
  | .heartbeat nodeId observedAtMillis => some (m.heartbeat nodeId observedAtMillis).2
  | .markLeaving nodeId observedAtMillis => some (m.markLeaving nodeId observedAtMillis).2
  | .markUnreachable nodeId observedAtMillis => some (m.markUnreachable nodeId observedAtMillis).2
  | .leaveLocal observedAtMillis => some (m.leaveLocal observedAtMillis).2
  | .markDown nodeId observedAtMillis => some (m.markDown nodeId observedAtMillis).2
  | .remove nodeId observedAtMillis => some (m.remove nodeId observedAtMillis).2
  | .tick nowMillis => some (m.tick nowMillis).2

/-- A member that is down can only be removed, and one that is removed stays so. -/
def Lapses (r : MemberRecord) (state : MembershipState) : Prop :=
  r.state.isDownOrRemoved = true → state.isDownOrRemoved = true

lemma MovesTo.lapses {target : MembershipState} {isAllowed : MembershipState → Bool}
    (hallowed : ∀ s, isAllowed s = true → s.isDownOrRemoved = true → target.isDownOrRemoved = true)
    (r : MemberRecord) (state : MembershipState) (h : MovesTo target isAllowed r state) :
    Lapses r state := by
  rw [Lapses, h.2]
  exact hallowed r.state h.1

lemma Detects.lapses {m : ClusterMembership} {nowMillis : ℕ} (r : MemberRecord)
    (state : MembershipState) (h : Detects m nowMillis r state) : Lapses r state := by
  intro hgone
  rcases h with ⟨hstate | hstate, -⟩ | ⟨-, rfl⟩
  · rw [hstate] at hgone
    cases hgone
  · rw [hstate] at hgone
    cases hgone
  · rfl

lemma step_changes {m m' : ClusterMembership} {op : MembershipOp} (h : m.step op = some m') :
    Changes Lapses m m' := by
  cases op <;> rw [← Option.some.inj h]
  case recordDiscovery snapshot =>
    exact (m.recordDiscovery_changes snapshot).mono (MovesTo.lapses (by decide))
  case heartbeat nodeId observedAtMillis =>
    exact (m.heartbeat_changes nodeId observedAtMillis).mono (MovesTo.lapses (by decide))
  case tick nowMillis => exact (m.tick_changes nowMillis).mono Detects.lapses
  all_goals exact (m.transition_changes ..).mono (MovesTo.lapses (by decide))

def Gone (m : ClusterMembership) (id : NodeId) : Prop :=
  m.InState (fun s => s.isDownOrRemoved = true) id

/-- The revisions of the records are those of the table, and the local node has a record. -/
structure WellKept (m : ClusterMembership) : Prop where
  revision_le : ∀ id r, m.member id = some r → r.revision ≤ m.revision
  localMember : ∃ r, m.member m.localNodeId = some r

section
variable {P : MemberRecord → MembershipState → Prop} {m m' : ClusterMembership}

lemma Change.revision_le (h : Change P m m') : m.revision ≤ m'.revision := by
  cases h with
  | touch => exact le_rfl
  | discover | move => exact Nat.le_succ _

lemma WellKept.setRecord (h : m.WellKept) {r : MemberRecord} {revision : ℕ}
    (hr : r.revision ≤ revision) (hrevision : m.revision ≤ revision) :
    (m.setRecord r revision).WellKept := by
  constructor
  · intro id q hq
    rw [member_setRecord] at hq
    split_ifs at hq
    · rw [← Option.some.inj hq]
      exact hr
    · exact (h.revision_le id q hq).trans hrevision
  · change ∃ q, (m.setRecord r revision).member m.localNodeId = some q
    rw [member_setRecord]
    split_ifs
    · exact ⟨r, rfl⟩
    · exact h.localMember

lemma Change.wellKept (h : Change P m m') (hm : m.WellKept) : m'.WellKept := by
  cases h with
  | touch r r' hmember hstate hrevision =>
    exact hm.setRecord (hrevision ▸ hm.revision_le _ r hmember) le_rfl
  | discover => exact hm.setRecord le_rfl (Nat.le_succ _)
  | move r r' hmember hmove hrevision => exact hm.setRecord hrevision.le (Nat.le_succ _)

end

lemma new_wellKept (localNode : ClusterNode) (config : MembershipConfig) :
    (new localNode config).WellKept := by
  have hmember (id : NodeId) : (new localNode config).member id =
      if id = localNode.id then some ⟨localNode, .joining, 0, 0⟩ else none :=
    BTreeMap.lookup_insert ..
  constructor
  · intro id r hr
    rw [hmember] at hr
    split_ifs at hr
    · cases hr
      exact le_rfl
  · exact ⟨_, (hmember localNode.id).trans (if_pos rfl)⟩

lemma run_changes {m m' : ClusterMembership} {ops : List MembershipOp}
    (h : runFrom step m ops = some m') : Changes Lapses m m' := by
  have hstep (t : ClusterMembership) (op : MembershipOp) (t' : ClusterMembership)
      (ht : Changes Lapses m t) (hstep : t.step op = some t') : Changes Lapses m t' :=
    ht.trans (step_changes hstep)
  exact runFrom_invariant step hstep .refl h

lemma member_of_mem_routableMembers {m : ClusterMembership} {r : MemberRecord}
    (h : r ∈ m.routableMembers) : m.member r.node.id = some r ∧ r.state = .up := by
  obtain ⟨hmem, hup⟩ := mem_filter.mp h
  obtain ⟨⟨id, r'⟩, hr', rfl⟩ := mem_map.mp hmem
  have hmember := Std.ExtTreeMap.mem_toList_iff_getElem?_eq_some.mp hr'
  exact ⟨(m.keyed id r' hmember).symm ▸ hmember, of_decide_eq_true hup⟩

lemma Gone.not_routable {m : ClusterMembership} {id : NodeId} (h : m.Gone id) :
    ∀ r ∈ m.routableMembers, r.node.id ≠ id := by
  rintro r hr rfl
  obtain ⟨r', hr', hgone⟩ := h
  obtain ⟨hmember, hup⟩ := member_of_mem_routableMembers hr
  rw [← Option.some.inj (hmember.symm.trans hr'), hup] at hgone
  cases hgone

/-- A node that is down or removed stays so and is never routable again, and the revision of the
table never falls and bounds those of the records. -/
theorem lapsed_stay_lapsed (localNode : ClusterNode) (config : MembershipConfig)
    (ops later : List MembershipOp) (m m' : ClusterMembership)
    (hrun : runFrom step (new localNode config) ops = some m)
    (hlater : runFrom step m later = some m') :
    (∀ id r, m.member id = some r → (r.state = .down ∨ r.state = .removed) →
      (∃ r', m'.member id = some r' ∧ (r'.state = .down ∨ r'.state = .removed)) ∧
      ∀ r' ∈ m'.routableMembers, r'.node.id ≠ id) ∧ m.revision ≤ m'.revision ∧
    (∀ id r, m'.member id = some r → r.revision ≤ m'.revision) ∧
    ∃ r, m'.member localNode.id = some r := by
  have hbefore := run_changes hrun
  have hafter := run_changes hlater
  have hkept : m'.WellKept :=
    Changes.invariant (fun _ _ h => h.wellKept) (hbefore.trans hafter) (new_wellKept _ _)
  have hlocal : m'.localNodeId = localNode.id := (Changes.settings_eq (hbefore.trans hafter)).2
  refine ⟨fun id r hr hstate => ?_, ?_, hkept.revision_le, hlocal ▸ hkept.localMember⟩
  · have hgone : m'.Gone id := Changes.inState (fun _ _ h => h) hafter
      ⟨r, hr, (MembershipState.isDownOrRemoved_iff _).mpr hstate⟩
    refine ⟨?_, hgone.not_routable⟩
    obtain ⟨r', hr', hstate'⟩ := hgone
    exact ⟨r', hr', (MembershipState.isDownOrRemoved_iff _).mp hstate'⟩
  · have hrise (t t' : ClusterMembership) (h : Change Lapses t t') (ht : m.revision ≤ t.revision) :
        m.revision ≤ t'.revision := ht.trans h.revision_le
    exact Changes.invariant hrise hafter le_rfl

/-- A member goes down, is removed and heard of again. -/
theorem removed_stays_removed :
    let nodeA : ClusterNode := .new ⟨"a", "1"⟩ ⟨"10.0.0.1", 2552⟩
    let nodeB : ClusterNode := .new ⟨"b", "1"⟩ ⟨"10.0.0.2", 2552⟩
    ∃ m m', runFrom step (new nodeA ⟨1, 10, 30⟩) [.recordDiscovery (.new "static" 1 [nodeA, nodeB]),
        .markUp nodeB.id 2, .markDown nodeB.id 3] = some m ∧
      runFrom step m [.remove nodeB.id 4, .recordDiscovery (.new "static" 5 [nodeB]),
        .heartbeat nodeB.id 6, .tick 100] = some m' ∧
      m.revision ≤ m'.revision ∧ ∀ r ∈ m'.routableMembers, r.node.id ≠ nodeB.id := by
  intro nodeA nodeB
  have hdown : (runFrom step (new nodeA ⟨1, 10, 30⟩) [.recordDiscovery (.new "static" 1 [nodeA, nodeB]),
      .markUp nodeB.id 2, .markDown nodeB.id 3]).map (fun m => (m.member nodeB.id).map (·.state)) =
      some (some .down) := by decide +kernel
  obtain ⟨m, hrun, hm⟩ := Option.map_eq_some_iff.mp hdown
  obtain ⟨r, hr, hstate⟩ := Option.map_eq_some_iff.mp hm
  have hkept := lapsed_stay_lapsed nodeA ⟨1, 10, 30⟩ _ [.remove nodeB.id 4,
    .recordDiscovery (.new "static" 5 [nodeB]), .heartbeat nodeB.id 6, .tick 100] m _ hrun rfl
  exact ⟨m, _, hrun, rfl, hkept.2.1, (hkept.1 nodeB.id r hr (.inl hstate)).2⟩

/-! What a discovery that fails leaves behind, and what one that succeeds reports. -/

section Discovery
variable {localProtocol : ClusterProtocol} {observedAtMillis : ℕ} {nodes : List ClusterNode}
  {m after : ClusterMembership} {events reported : List MembershipEvent}

lemma member_setRecord_isSome {r : MemberRecord} {revision : ℕ} {id : NodeId}
    (h : (m.member id).isSome) : ((m.setRecord r revision).member id).isSome := by
  rw [member_setRecord]
  split_ifs
  · rfl
  · exact h

theorem recordNodes_error {error : ClusterError} (hlocal : (m.member m.localNodeId).isSome)
    (h : recordNodes localProtocol observedAtMillis m nodes events = (.error error, after)) :
    ∃ node ∈ nodes, localProtocol.isCompatibleWith node.protocol = false := by
  induction nodes generalizing m events with
  | nil => cases h
  | cons node nodes ih =>
    have hrest : ∀ {m' events'}, (m'.member m'.localNodeId).isSome →
        recordNodes localProtocol observedAtMillis m' nodes events' = (.error error, after) →
        ∃ other ∈ node :: nodes, localProtocol.isCompatibleWith other.protocol = false := by
      intro m' events' hlocal' h'
      obtain ⟨other, hmem, hother⟩ := ih hlocal' h'
      exact ⟨other, mem_cons_of_mem node hmem, hother⟩
    obtain ⟨r, hr⟩ := Option.isSome_iff_exists.mp hlocal
    have hmember : m.members[m.localNodeId]? = some r := hr
    unfold recordNodes at h
    split_ifs at h with hprotocol hself
    · exact ⟨node, mem_cons_self, by simpa using hprotocol⟩
    · simp only [updateLocalDescriptor, hmember] at h
      exact hrest (member_setRecord_isSome hlocal) h
    · split at h
      · split_ifs at h <;> exact hrest (member_setRecord_isSome hlocal) h
      · exact hrest (member_setRecord_isSome hlocal) h

theorem recordNodes_reports
    (h : recordNodes localProtocol observedAtMillis m nodes events = (.ok reported, after)) :
    ∃ fresh, reported = events ++ fresh ∧ after.revision = m.revision + fresh.length ∧
      ∀ id, m.member id = none → (after.member id).isSome → .memberDiscovered id ∈ fresh := by
  induction nodes generalizing m events with
  | nil =>
    cases h
    exact ⟨[], (append_nil _).symm, rfl, fun id hnone hsome => by simp [hnone] at hsome⟩
  | cons node nodes ih =>
    -- a node that gets one more event, or none
    have hrest : ∀ {r revision} (first : List MembershipEvent),
        (m.setRecord r revision).revision = m.revision + first.length →
        (m.member r.node.id = none → .memberDiscovered r.node.id ∈ first) →
        recordNodes localProtocol observedAtMillis (m.setRecord r revision) nodes
          (events ++ first) = (.ok reported, after) →
        ∃ fresh, reported = events ++ fresh ∧ after.revision = m.revision + fresh.length ∧
          ∀ id, m.member id = none → (after.member id).isSome → .memberDiscovered id ∈ fresh := by
      intro r revision first hrevision hfirst h'
      obtain ⟨fresh, rfl, hafter, hfresh⟩ := ih h'
      refine ⟨first ++ fresh, append_assoc .., ?_, fun id hnone hsome => ?_⟩
      · rw [hafter, hrevision, length_append, Nat.add_assoc]
      · by_cases hid : id = r.node.id
        · subst hid
          exact mem_append_left _ (hfirst hnone)
        · refine mem_append_right _ (hfresh id ?_ hsome)
          rw [member_setRecord, if_neg hid]
          exact hnone
    have hknown : ∀ {r : MemberRecord} {first : List MembershipEvent}, m.members[node.id]? = some r →
        m.member node.id = none → .memberDiscovered node.id ∈ first :=
      fun hr hnone => absurd (hr.symm.trans hnone) (Option.some_ne_none _)
    unfold recordNodes at h
    split_ifs at h with hprotocol hself
    · cases h
    · cases hr : m.members[m.localNodeId]? with
      | none => simp [updateLocalDescriptor, hr] at h
      | some =>
        simp only [updateLocalDescriptor, hr] at h
        exact hrest [] rfl (hknown (hself ▸ hr)) (by rw [append_nil]; exact h)
    · split at h
      · rename_i r hr
        split_ifs at h
        · exact hrest [] rfl (hknown hr) (by rw [append_nil]; exact h)
        · exact hrest [.memberReachable node.id] rfl (hknown hr) h
        · exact hrest [] rfl (hknown hr) (by rw [append_nil]; exact h)
      · exact hrest [.memberDiscovered node.id] rfl (fun _ => mem_singleton_self _) h

end Discovery

/-- If the snapshot has a node the local member is incompatible with, its first node is one. -/
def RejectsFirst (m : ClusterMembership) (snapshot : DiscoverySnapshot) : Prop :=
  ∀ r, m.member m.localNodeId = some r →
    (∃ node ∈ snapshot.nodes, r.node.protocol.isCompatibleWith node.protocol = false) →
      ∃ node ∈ snapshot.nodes.head?, r.node.protocol.isCompatibleWith node.protocol = false

/-- Since `m` nobody was forgotten, and who is new or has moved carries a later revision. -/
structure Since (m t : ClusterMembership) : Prop where
  revision_le : m.revision ≤ t.revision
  kept : ∀ id, (m.member id).isSome → (t.member id).isSome
  noticed : ∀ id r, t.member id = some r → m.revision < r.revision ∨
    ∃ old, m.member id = some old ∧ old.state = r.state ∧ old.revision = r.revision

lemma Since.setRecord {m t : ClusterMembership} {r : MemberRecord} {revision : ℕ} (h : Since m t)
    (hrevision : t.revision ≤ revision) (hr : m.revision < r.revision ∨ ∃ old,
      m.member r.node.id = some old ∧ old.state = r.state ∧ old.revision = r.revision) :
    Since m (t.setRecord r revision) := by
  refine ⟨h.revision_le.trans hrevision, fun id hid => member_setRecord_isSome (h.kept id hid),
    fun id q hq => ?_⟩
  rw [member_setRecord] at hq
  split_ifs at hq with hid
  · cases hq
    exact hid ▸ hr
  · exact h.noticed id q hq

lemma Since.change {P : MemberRecord → MembershipState → Prop} {m t t' : ClusterMembership}
    (h : Since m t) (hchange : Change P t t') : Since m t' := by
  have hnext := Nat.lt_succ_of_le h.revision_le
  cases hchange with
  | touch r r' hmember hstate hrevision =>
    refine h.setRecord le_rfl ?_
    rw [hstate, hrevision]
    exact h.noticed _ r hmember
  | discover => exact h.setRecord (Nat.le_succ _) (.inl hnext)
  | move r r' hmember hmove hrevision =>
    exact h.setRecord (Nat.le_succ _) (.inl (hrevision ▸ hnext))

/-- Whoever remembers the revision of a table finds in every later one what has changed. -/
theorem changes_carry_later_revisions (m m' : ClusterMembership) (ops : List MembershipOp)
    (hrun : runFrom step m ops = some m') : Since m m' :=
  Changes.invariant (fun _ _ hchange h => h.change hchange) (run_changes hrun)
    ⟨le_rfl, fun _ h => h, fun _ r h => .inr ⟨r, h, rfl, rfl⟩⟩

theorem discovered_member_carries_later_revision :
    let nodeA : ClusterNode := .new ⟨"a", "1"⟩ ⟨"10.0.0.1", 2552⟩
    let nodeB : ClusterNode := .new ⟨"b", "1"⟩ ⟨"10.0.0.2", 2552⟩
    let ops := [.recordDiscovery (.new "static" 1 [nodeB]), .markUp nodeB.id 2, .tick 50]
    ∃ m', runFrom step (new nodeA ⟨1, 10, 30⟩) ops = some m' ∧ Since (new nodeA ⟨1, 10, 30⟩) m' := by
  intro nodeA nodeB ops
  exact ⟨_, rfl, changes_carry_later_revisions _ _ ops rfl⟩

end ClusterMembership
end Rakka.Cluster
