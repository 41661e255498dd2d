import Rakka.Foundation.Revisions
import Rakka.Sharding.Fleet

/-! The accepted writes of one entity type form a history numbered by revision. A coordinator whose
last write was not refused is a copy from it, so a write accepted from it starts from the latest
version. One whose write was refused keeps the refused state, and the store accepts its next write
once the revisions meet. -/

namespace Rakka.Sharding
open Cluster Foundation Foundation.Revisions ClusterShardingRuntime List Option

section Shared
variable {ρ κ : Type} (lease : LeaseEnv κ)

def SameStore (w w' : InMemoryShardCoordinatorStore × κ) : Prop := w'.1 = w.1

lemma sharedStoreEnv_frame : LeaseFrame SameStore (sharedStoreEnv lease).toLeaseEnv where
  refl _ := rfl
  trans h h' := Eq.trans h' h
  acquire _ _ _ := rfl
  renew _ _ := rfl
  release _ _ := rfl
  clock _ := rfl

lemma request_shared (rt₀ : ClusterShardingRuntime ρ) (token : Option LeaseToken)
    (c : ShardCoordinator) (state : PersistedShardCoordinatorState)
    (hstate : state.snapshot.entityType = c.entityType) (store : InMemoryShardCoordinatorStore)
    (world : κ) : let call : RuntimeCall ρ (InMemoryShardCoordinatorStore × κ) Unit := do
      let _ ← request .store ((sharedStoreEnv lease).compareAndSetWithLease
        state.snapshot.entityType c.revision state token)
      return ()
    (∃ f world', call (rt₀, store, world) = (.error f, (rt₀, store, world'))) ∨
    ∃ stored world', store.revisionOf c.entityType = c.revision ∧
      stored.snapshot = state.snapshot ∧ call (rt₀, store, world) =
        (.ok (), (rt₀, ⟨store.states.insert c.entityType stored⟩, world')) := by
  simp only [hstate, Attempt.bind_apply, request, sharedStoreEnv]
  rcases store.compareAndSet_cases c.entityType c.revision state with ⟨e, he⟩ | ⟨hok, -, hrev⟩
  · left
    rw [he]
    exact ⟨_, world, rfl⟩
  · right
    rw [hok]
    exact ⟨state, world, hrev, rfl, rfl⟩

theorem persistReconciled_shared (api : Api) (rt : ClusterShardingRuntime ρ)
    {rt₀ : ClusterShardingRuntime ρ} (hmode : rt₀.coordinatorStore ≠ .none) (token : Option LeaseToken) (c : ShardCoordinator)
    (store : InMemoryShardCoordinatorStore) (world : κ) :
    (∃ f world', persistReconciled (sharedStoreEnv lease) api rt token c (rt₀, store, world) =
      (.error f, (rt₀, store, world'))) ∨
    ∃ state world', store.revisionOf c.entityType = c.revision ∧
      state.snapshot = (c.reconcile rt.membership).2.snapshot ∧
      persistReconciled (sharedStoreEnv lease) api rt token c (rt₀, store, world) =
        (.ok (), (rt₀, ⟨store.states.insert c.entityType state⟩, world')) := by
  have hwrite (world' : κ) (nowMillis : ℕ) := request_shared lease rt₀ token c
    ⟨(c.reconcile rt.membership).2.snapshot, c.allocationStrategy.strategyName, nowMillis⟩ rfl
    store world'
  rcases hclock : lease.currentTimestampMillis world with ⟨nowMillis, world'⟩
  have hnow : currentTimestampMillis (sharedStoreEnv lease) (rt₀, store, world) =
      (.ok nowMillis, (rt₀, store, world')) := by
    simp only [currentTimestampMillis, sharedStoreEnv, hclock]
  unfold persistReconciled persistCoordinatorSnapshot
  rw [Attempt.bind_of_ok hnow, Attempt.get_bind]
  dsimp only
  cases hm : rt₀.coordinatorStore with
  | none => exact absurd hm hmode
  | sync => exact hwrite world' nowMillis
  | async =>
    cases api with
    | sync => exact .inl ⟨_, world', rfl⟩
    | async => exact hwrite world' nowMillis

end Shared

def history (writes : List Write) (e : EntityType) : List ShardOwnershipSnapshot :=
  (writes.filter (fun w => decide (w.entityType = e))).map (·.persisted.snapshot)

lemma history_append (writes later : List Write) (e : EntityType) :
    history (writes ++ later) e = history writes e ++ history later e := by
  rw [history, filter_append, map_append]
  rfl

lemma history_singleton (w : Write) (e : EntityType) :
    history [w] e = if w.entityType = e then [w.persisted.snapshot] else [] := by
  unfold history
  by_cases h : w.entityType = e <;> simp [h]

abbrev Current (writes : List Write) (e : EntityType) (s : ShardOwnershipSnapshot) : Prop :=
  Authentic ShardOwnershipSnapshot.revision (fun s => s.assignments = []) (history writes e) s

/-- The store holds the end of a history numbered by revision. -/
structure StoreOk (store : InMemoryShardCoordinatorStore) (writes : List Write) : Prop where
  stored : ∀ e : EntityType,
    store.states[e]?.map (·.snapshot) = (history writes e).getLast?
  numbered : ∀ e, Numbered ShardOwnershipSnapshot.revision (history writes e)
  restorable : ∀ e, ∀ s ∈ history writes e, ∃ c : ShardCoordinator, c.snapshot = s

/-- Coordinators that were not refused, and states loaded by a registration under way, are copies
from the history. -/
structure RuntimeOk {ρ : Type} (region : RegisteredShardRegion ρ) (writes : List Write)
    (rt : ClusterShardingRuntime ρ) (refused : EntityType → Bool) (call : Call ρ) : Prop where
  persistent : rt.coordinatorStore ≠ .none
  current : ∀ (e : EntityType) (c : ShardCoordinator), rt.coordinators[e]? = some c →
    refused e = false → Current writes e c.snapshot
  registered : ∀ e : EntityType, refused e = true → rt.coordinators[e]? ≠ none
  loading : ∀ api r token loaded, call = .registering api r token loaded →
    rt.coordinators[region.entityType r]? = none ∧
      ∀ state, loaded = some state → state.snapshot ∈ history writes (region.entityType r)

namespace StoreOk
variable {store : InMemoryShardCoordinatorStore} {writes : List Write}

lemma revisionOf_eq (h : StoreOk store writes) (e : EntityType) :
    store.revisionOf e = (history writes e).length := by
  have hstored := h.stored e
  unfold InMemoryShardCoordinatorStore.revisionOf
  cases hs : store.states[e]? with
  | none =>
    rw [hs, map_none] at hstored
    have hnil : history writes e = [] := List.getLast?_eq_none_iff.mp hstored.symm
    rw [hnil]
    rfl
  | some state =>
    rw [hs, map_some, List.getLast?_eq_getElem?] at hstored
    have hlt := (List.getElem?_eq_some_iff.mp hstored.symm).1
    have hrev := h.numbered e _ _ hstored.symm
    simp only [map_some, getD_some, hrev]
    omega

lemma holdsStored (h : StoreOk store writes) {e : EntityType} {c : ShardCoordinator}
    (hc : Current writes e c.snapshot) (hrev : store.revisionOf e = c.revision) :
    c.HoldsStored store.states[e]? := by
  have hlength : c.snapshot.revision = (history writes e).length :=
    hrev.symm.trans (h.revisionOf_eq e)
  have hstored := h.stored e
  rcases hc.eq_last (h.numbered e) hlength with hlast | ⟨hnil, hinit⟩
  · rw [hlast] at hstored
    obtain ⟨state, hs, heq⟩ := map_eq_some_iff.mp hstored
    rw [hs]
    exact heq.symm
  · rw [hnil] at hstored
    rw [map_eq_none_iff.mp hstored]
    refine ⟨?_, hinit⟩
    rw [hlength, hnil]
    rfl

lemma write (h : StoreOk store writes) {w : Write} {d : ShardCoordinator}
    (hd : w.persisted.snapshot = d.snapshot)
    (hrev : d.revision = store.revisionOf w.entityType + 1) :
    StoreOk ⟨store.states.insert w.entityType w.persisted⟩ (writes ++ [w]) := by
  refine ⟨fun e => ?_, fun e => ?_, fun e s hs => ?_⟩
  · rw [history_append, history_singleton, BTreeMap.lookup_insert]
    by_cases he : e = w.entityType
    · rw [if_pos he, if_pos he.symm, List.getLast?_concat]
      rfl
    · rw [if_neg he, if_neg (Ne.symm he), append_nil]
      exact h.stored e
  · rw [history_append, history_singleton]
    split_ifs with he
    · refine numbered_append (h.numbered e) ?_
      rw [hd, ← he, ← h.revisionOf_eq]
      exact hrev
    · rw [append_nil]
      exact h.numbered e
  · rw [history_append, history_singleton] at hs
    rcases mem_append.mp hs with hs | hs
    · exact h.restorable e s hs
    · split_ifs at hs with he
      · rw [mem_singleton.mp hs]
        exact ⟨d, hd.symm⟩
      · cases hs

end StoreOk

lemma RuntimeOk.append {ρ : Type} {region : RegisteredShardRegion ρ} {writes : List Write}
    {rt : ClusterShardingRuntime ρ} {refused : EntityType → Bool} {call : Call ρ}
    (h : RuntimeOk region writes rt refused call) (later : List Write) :
    RuntimeOk region (writes ++ later) rt refused call := by
  refine ⟨h.persistent, fun e c hc hr => ?_, h.registered, fun api r token loaded hcall => ?_⟩
  · rw [Current, history_append]
    exact (h.current e c hc hr).append _
  · refine ⟨(h.loading api r token loaded hcall).1, fun state hstate => ?_⟩
    rw [history_append]
    exact mem_append_left _ ((h.loading api r token loaded hcall).2 state hstate)

def Call.Settled {ρ : Type} : Call ρ → Prop
  | .registering _ _ _ _ => False
  | _ => True

lemma RuntimeOk.set {ρ : Type} {region : RegisteredShardRegion ρ} {writes : List Write}
    {rt rt' : ClusterShardingRuntime ρ} {refused : EntityType → Bool} {call call' : Call ρ}
    (h : RuntimeOk region writes rt refused call) {d : ShardCoordinator} {flag : Bool}
    (hcoordinators : rt'.coordinators = rt.coordinators.insert d.entityType d)
    (hmode : rt'.coordinatorStore = rt.coordinatorStore)
    (hd : flag = false → Current writes d.entityType d.snapshot) (hcall : call'.Settled) :
    RuntimeOk region writes rt' (Function.update refused d.entityType flag) call' := by
  refine ⟨hmode ▸ h.persistent, fun e c hc hr => ?_, fun e he => ?_, ?_⟩
  · rw [hcoordinators, BTreeMap.lookup_insert] at hc
    by_cases hed : e = d.entityType
    · subst hed
      rw [if_pos rfl] at hc
      rw [Function.update_self] at hr
      exact Option.some.inj hc ▸ hd hr
    · rw [if_neg hed] at hc
      rw [Function.update_of_ne hed] at hr
      exact h.current e c hc hr
  · rw [hcoordinators, BTreeMap.lookup_insert]
    by_cases hed : e = d.entityType
    · rw [if_pos hed]
      exact some_ne_none _
    · rw [if_neg hed]
      rw [Function.update_of_ne hed] at he
      exact h.registered e he
  · intro api r token loaded hreg
    exact absurd hcall (hreg ▸ not_false)

/-- Derived from what was stored, unless the coordinator's last write was refused. -/
def Write.Fair (w : Write) : Prop :=
  (w.afterRefusal = true → w.coordinator.HoldsStored w.stored) → w.Derived

namespace Fleet
variable {ι ρ κ : Type} [DecidableEq ι] {region : RegisteredShardRegion ρ} {lease : LeaseEnv κ}
variable {f f' : Fleet ι ρ κ} {i : ι} {rt : ClusterShardingRuntime ρ} {c : ShardCoordinator}
  {call : Call ρ} {api : Api} {token : Option LeaseToken} {r : ρ} {α : Type}
  {store : InMemoryShardCoordinatorStore} {world : κ}

structure Fenced (region : RegisteredShardRegion ρ) (f : Fleet ι ρ κ) : Prop where
  storeOk : StoreOk f.store f.writes
  runtimeOk : ∀ i, RuntimeOk region f.writes (f.runtimes i) (f.refused i) (f.calls i)
  fair : ∀ w ∈ f.writes, w.Fair

omit [DecidableEq ι] in
lemma start_fenced (membership : ι → ClusterMembership) (asyncStore : ι → Bool)
    (coordinatorLease : ι → CoordinatorLeaseMode) (world : κ) :
    Fenced region (start membership asyncStore coordinatorLease world : Fleet ι ρ κ) := by
  refine ⟨⟨fun e => ?_, fun e k s hk => ?_, fun e s hs => ?_⟩, fun i => ⟨?_, ?_, ?_, ?_⟩, ?_⟩
  · simp [start, history]
  · cases hk
  · cases hs
  · simp only [start, new]
    split_ifs <;> decide
  · intro e c hc
    simp [start, new] at hc
  · intro e he
    cases he
  · intro api r token loaded hcall
    cases hcall
  · intro w hw
    cases hw

lemma Fenced.of_step (h : Fenced region f) (i : ι) (later : List Write)
    (hother : ∀ j, j ≠ i → f'.runtimes j = f.runtimes j ∧ f'.calls j = f.calls j ∧
      f'.refused j = f.refused j) (hwrites : f'.writes = f.writes ++ later)
    (hstore : StoreOk f'.store (f.writes ++ later))
    (hi : RuntimeOk region (f.writes ++ later) (f'.runtimes i) (f'.refused i) (f'.calls i))
    (hfair : ∀ w ∈ later, w.Fair) : Fenced region f' := by
  refine ⟨hwrites ▸ hstore, fun j => ?_, fun w hw => ?_⟩
  · rw [hwrites]
    by_cases hj : j = i
    · exact hj ▸ hi
    · obtain ⟨hrt, hcall, hrefused⟩ := hother j hj
      rw [hrt, hcall, hrefused]
      exact (h.runtimeOk j).append later
  · rw [hwrites] at hw
    rcases mem_append.mp hw with hw | hw
    · exact h.fair w hw
    · exact hfair w hw

lemma Fenced.unwritten (h : Fenced region f) (i : ι)
    (hother : ∀ j, j ≠ i → f'.runtimes j = f.runtimes j ∧ f'.calls j = f.calls j ∧
      f'.refused j = f.refused j) (hwrites : f'.writes = f.writes) (hstore : f'.store = f.store)
    (hi : RuntimeOk region f.writes (f'.runtimes i) (f'.refused i) (f'.calls i)) :
    Fenced region f' := by
  refine h.of_step i [] hother (hwrites.trans (append_nil _).symm) ?_ ?_
    (fun w hw => absurd hw not_mem_nil)
  · rw [append_nil, hstore]
    exact h.storeOk
  · rwa [append_nil]

lemma exec_eq {call : RuntimeCall ρ (InMemoryShardCoordinatorStore × κ) α}
    {answer : Except Failure α}
    (h : call (f.runtimes i, f.store, f.world) = (answer, (rt, store, world))) :
    f.exec i call = (answer, { f with
      runtimes := Function.update f.runtimes i rt
      store := store
      world := world }) := by
  simp only [exec, h]

def moved (f : Fleet ι ρ κ) (i : ι) (rt : ClusterShardingRuntime ρ) (call : Call ρ) (world : κ) :
    Fleet ι ρ κ :=
  { f with
    runtimes := Function.update f.runtimes i rt
    calls := Function.update f.calls i call
    world := world }

lemma Fenced.moved (h : Fenced region f) (i : ι) (call : Call ρ) (world : κ)
    (hcoordinators : rt.coordinators = (f.runtimes i).coordinators)
    (hmode : rt.coordinatorStore = (f.runtimes i).coordinatorStore)
    (hcall : ∀ api r token loaded, call = .registering api r token loaded →
      rt.coordinators[region.entityType r]? = none ∧
        ∀ state, loaded = some state → state.snapshot ∈ history f.writes (region.entityType r)) :
    Fenced region (f.moved i rt call world) := by
  have hi := h.runtimeOk i
  refine h.unwritten i (fun j hj => ?_) rfl rfl ?_
  · simp only [Fleet.moved, Function.update_of_ne hj, and_self]
  · simp only [Fleet.moved, Function.update_self]
    refine ⟨hmode ▸ hi.persistent, fun e c hc => ?_, fun e he => ?_, hcall⟩
    · exact hi.current e c (hcoordinators ▸ hc)
    · rw [hcoordinators]
      exact hi.registered e he

lemma record_of_store_eq (hstore : f'.store = f.store) (i : ι) (c : ShardCoordinator)
    (refusal : Bool) :
    record f f' i c refusal = if refusal then f'.setRefused i c.entityType true else f' := by
  simp only [record, written, hstore, if_true]

lemma record_of_insert {state : PersistedShardCoordinatorState}
    (hstore : f'.store = ⟨f.store.states.insert c.entityType state⟩)
    (hrev : state.snapshot.revision = f.store.revisionOf c.entityType + 1) (i : ι) (refusal : Bool)
    : record f f' i c refusal = { f'.setRefused i c.entityType false with
      writes := f'.writes ++ [f.writeOf i c state] } := by
  have hnew : some state ≠ f.store.states[c.entityType]? := by
    intro heq
    rw [InMemoryShardCoordinatorStore.revisionOf, ← heq] at hrev
    simp at hrev
  have hwritten : written f f' c.entityType = some state := by
    rw [written, hstore, BTreeMap.lookup_insert, if_pos rfl, if_neg hnew]
  simp only [record, hwritten]

lemma Fenced.refuse (h : Fenced region f) (i : ι) (world : κ) {d : ShardCoordinator}
    (hcoordinators : rt.coordinators = (f.runtimes i).coordinators.insert d.entityType d)
    (hmode : rt.coordinatorStore = (f.runtimes i).coordinatorStore) (hcall : call.Settled) :
    Fenced region ((f.moved i rt call world).setRefused i d.entityType true) := by
  refine h.unwritten i (fun j hj => ?_) rfl rfl ?_
  · simp only [Fleet.moved, setRefused, Function.update_of_ne hj, and_self]
  · simp only [Fleet.moved, setRefused, Function.update_self]
    exact (h.runtimeOk i).set hcoordinators hmode (fun he => absurd he (by decide)) hcall

def accepted (f : Fleet ι ρ κ) (i : ι) (rt : ClusterShardingRuntime ρ) (c : ShardCoordinator)
    (state : PersistedShardCoordinatorState) (world : κ) : Fleet ι ρ κ :=
  { f with
    runtimes := Function.update f.runtimes i rt
    store := ⟨f.store.states.insert c.entityType state⟩
    world := world }

theorem Fenced.accept (h : Fenced region f) (i : ι) {state : PersistedShardCoordinatorState}
    (world : κ) (refusal : Bool) (hplan : (c.reconcile (f.runtimes i).membership).1.isEmpty = false)
    (hstate : state.snapshot = (c.reconcile (f.runtimes i).membership).2.snapshot)
    (hrev : f.store.revisionOf c.entityType = c.revision)
    (hcurrent : f.refused i c.entityType = false → Current f.writes c.entityType c.snapshot)
    (hcoordinators : rt.coordinators = (f.runtimes i).coordinators.insert c.entityType
      (c.reconcile (f.runtimes i).membership).2)
    (hmode : rt.coordinatorStore = (f.runtimes i).coordinatorStore) (hcall : call.Settled) :
    Fenced region ((record f (f.accepted i rt c state world) i c refusal).setCall i call) := by
  set d := (c.reconcile (f.runtimes i).membership).2 with hd
  have hnext : d.revision = f.store.revisionOf c.entityType + 1 := by
    rw [hrev]
    exact ShardCoordinator.reconcile_revision hplan
  have hsnapshot : (f.writeOf i c state).persisted.snapshot = d.snapshot := hstate
  have htype : (f.writeOf i c state).entityType = d.entityType := rfl
  have hinsert : (f.accepted i rt c state world).store =
      ⟨f.store.states.insert c.entityType state⟩ := rfl
  rw [record_of_insert hinsert (by rw [hstate]; exact hnext)]
  refine h.of_step i [f.writeOf i c state] (fun j hj => ?_) rfl ?_ ?_ ?_
  · simp only [accepted, Fleet.setCall, setRefused, Function.update_of_ne hj, and_self]
  · exact h.storeOk.write hsnapshot hnext
  · simp only [accepted, Fleet.setCall, setRefused, Function.update_self]
    refine ((h.runtimeOk i).append _).set (d := d) hcoordinators hmode (fun _ => ?_) hcall
    rw [Current, history_append, history_singleton, if_pos htype, hsnapshot]
    exact authentic_append_self _ _
  · intro w hw hfair
    rw [mem_singleton.mp hw] at hfair ⊢
    refine ⟨hstate, ?_⟩
    rcases hflag : f.refused i c.entityType
    · exact h.storeOk.holdsStored (hcurrent hflag) hrev
    · exact hfair hflag

lemma settled_loading {writes : List Write} (hcall : call.Settled) :
    ∀ api r token loaded, call = .registering api r token loaded →
      rt.coordinators[region.entityType r]? = none ∧
        ∀ state, loaded = some state → state.snapshot ∈ history writes (region.entityType r) :=
  fun _ _ _ _ h => absurd hcall (h ▸ not_false)

lemma moved_self (f : Fleet ι ρ κ) (i : ι) (call : Call ρ) :
    f.moved i (f.runtimes i) call f.world = f.setCall i call := by
  rw [Fleet.moved, Function.update_eq_self]
  rfl

lemma Fenced.setCall (h : Fenced region f) (i : ι) (hcall : call.Settled) :
    Fenced region (f.setCall i call) :=
  moved_self f i call ▸ h.moved i call f.world rfl rfl (settled_loading hcall)

omit [DecidableEq ι] in
lemma persisted_shared (h : Fenced region f) {rt' : ClusterShardingRuntime ρ}
    {w w' : InMemoryShardCoordinatorStore × κ} {answer : Except Failure Unit}
    (hw : SameStore (f.store, f.world) w)
    (hmode : rt.coordinatorStore = (f.runtimes i).coordinatorStore)
    (hpersist : persistReconciled (sharedStoreEnv lease) api (f.runtimes i) token c (rt, w) =
      (answer, (rt', w'))) : (∃ failure, answer = .error failure ∧ w'.1 = f.store) ∨
      ∃ state, answer = .ok () ∧ f.store.revisionOf c.entityType = c.revision ∧
        state.snapshot = (c.reconcile (f.runtimes i).membership).2.snapshot ∧
        w'.1 = ⟨f.store.states.insert c.entityType state⟩ := by
  obtain ⟨store, world⟩ := w
  obtain rfl : store = f.store := hw
  have hmode' : rt.coordinatorStore ≠ .none := hmode ▸ (h.runtimeOk i).persistent
  rcases persistReconciled_shared lease api (f.runtimes i) hmode' token c f.store
    world with ⟨failure, world', hp⟩ | ⟨state, world', hrev, hstate, hp⟩
  · cases hpersist.symm.trans hp
    exact .inl ⟨failure, rfl, rfl⟩
  · cases hpersist.symm.trans hp
    exact .inr ⟨state, rfl, hrev, hstate, rfl⟩

lemma Fenced.reconcileEntity (h : Fenced region f) (i : ι) (api : Api) (e : EntityType)
    (es : List EntityType) : Fenced region (f.stepReconcileEntity region lease i api e es) := by
  have hstep := reconcileEntity_step region (sharedStoreEnv lease) api (sharedStoreEnv_frame lease) e
    (f.runtimes i) (f.store, f.world)
  unfold stepReconcileEntity
  generalize hout : ClusterShardingRuntime.reconcileEntity region (sharedStoreEnv lease) api e
    (f.runtimes i, f.store, f.world) = out at hstep
  cases hstep with
  | refusedLease failure tokens w hw hf =>
    obtain ⟨store, world⟩ := w
    obtain rfl : store = f.store := hw
    have hquiet : failure.origin ≠ .store := by
      rcases hf with hf | hf <;> simp [hf]
    rw [exec_eq hout]
    rcases hc : (f.runtimes i).coordinators[e]? with _ | c
    · exact h.moved i .idle world rfl rfl (settled_loading trivial)
    · simp only [isRefusal, hquiet, decide_false, record_of_store_eq, Bool.false_eq_true, if_false]
      exact h.moved i .idle world rfl rfl (settled_loading trivial)
  | unregistered tokens w hw hc =>
    obtain ⟨store, world⟩ := w
    obtain rfl : store = f.store := hw
    rw [exec_eq hout, hc]
    exact h.moved i (.reconciling api es) world rfl rfl (settled_loading trivial)
  | unchanged c tokens w hw hc hplan =>
    obtain ⟨store, world⟩ := w
    obtain rfl : store = f.store := hw
    have hkey := (f.runtimes i).keyed e c hc
    simp only [exec_eq hout, hc, isRefusal, record_of_store_eq, Bool.false_eq_true, if_false]
    refine h.moved i (.reconciling api es) world ?_ rfl (settled_loading trivial)
    rw [reconciled, ShardCoordinator.reconcile_of_isEmpty hplan]
    exact BTreeMap.insert_of_lookup (hkey ▸ hc)
  | refusedWrite c tokens w₁ w₂ token failure hw hc hplan hpersist hf =>
    obtain ⟨store, world⟩ := w₂
    rcases persisted_shared h hw (by rfl) hpersist with
      ⟨_, _, hstore⟩ | ⟨_, hok, _⟩
    · obtain rfl : store = f.store := hstore
      simp only [exec_eq hout, hc, isRefusal, hf, decide_true, record_of_store_eq, if_true]
      exact h.refuse i world (d := (c.reconcile (f.runtimes i).membership).2) rfl rfl trivial
    · cases hok
  | refusedRegion c tokens w₁ w₂ token failure rs hw hc hplan hpersist hf
  | published c tokens w₁ w₂ token handoffs rs hw hc hplan hpersist =>
    obtain ⟨store, world⟩ := w₂
    have hkey := (f.runtimes i).keyed e c hc
    rcases persisted_shared h hw (by rfl) hpersist with
      ⟨_, herror, _⟩ | ⟨state, _, hrev, hstate, hstore⟩
    · cases herror
    · obtain rfl : store = ⟨f.store.states.insert c.entityType state⟩ := hstore
      simp only [exec_eq hout, hc]
      exact h.accept i world _ hplan hstate hrev (fun hr => hkey ▸ (h.runtimeOk i).current e c hc
        (hkey ▸ hr)) rfl rfl trivial

lemma Fenced.reconcileNext (h : Fenced region f) (i : ι) (api : Api) (es : List EntityType) :
    Fenced region (f.stepReconcileNext region lease i api es) := by
  cases es with
  | nil => exact h.setCall i trivial
  | cons e es => exact h.reconcileEntity i api e es

section
variable (h : Fenced region f) (hidle : (f.calls i).Settled)
include h hidle

lemma Fenced.exec {call : RuntimeCall ρ (InMemoryShardCoordinatorStore × κ) α}
    (hout : (call (f.runtimes i, f.store, f.world)).2 = (rt, store, world))
    (hcoordinators : rt.coordinators = (f.runtimes i).coordinators)
    (hmode : rt.coordinatorStore = (f.runtimes i).coordinatorStore) (hstore : store = f.store) :
    Fenced region (f.exec i call).2 := by
  subst hstore
  have hcall : call (f.runtimes i, f.store, f.world) = (_, (rt, f.store, world)) :=
    Prod.ext rfl hout
  have hmoved := h.moved i (f.calls i) world hcoordinators hmode (settled_loading hidle)
  rw [Fleet.moved, Function.update_eq_self] at hmoved
  rw [exec_eq hcall]
  exact hmoved

lemma Fenced.exec_tokensOnly {call : RuntimeCall ρ (InMemoryShardCoordinatorStore × κ) α}
    (hcall : Attempt.Keeps (TokensOnly SameStore) call) : Fenced region (f.exec i call).2 := by
  obtain ⟨tokens, ⟨store, world⟩, hstore, hout⟩ := hcall (f.runtimes i, f.store, f.world)
  exact h.exec hidle hout rfl rfl hstore

lemma Fenced.attach (r : ρ) : Fenced region (f.exec i (attachRegion region r)).2 := by
  rcases attachRegion_spec region r (f.runtimes i, f.store, f.world) with
    ⟨_, _, hout⟩ | ⟨_, hout⟩ | ⟨rs, c, _, hout⟩ <;>
  exact h.exec hidle (congrArg Prod.snd hout) rfl rfl rfl

lemma Fenced.beginUpdate (api : Api) (u : MembershipUpdate) :
    Fenced region (f.stepBeginUpdate lease i api u) := by
  obtain ⟨m, hout⟩ := beginUpdate_keeps (sharedStoreEnv lease) api u
    (f.runtimes i, f.store, f.world)
  have hexec := h.exec hidle hout rfl rfl rfl
  unfold stepBeginUpdate
  split
  next heq => rwa [heq] at hexec
  next heq =>
    rw [heq] at hexec
    exact hexec.setCall i trivial

end

omit [DecidableEq ι] in
lemma Fenced.loaded (h : Fenced region f) {loaded : Option PersistedShardCoordinatorState}
    (hout : beginRegistration region (sharedStoreEnv lease) api r
      (f.runtimes i, f.store, f.world) = (.ok (some (token, loaded)), (rt, store, world))) :
    (f.runtimes i).coordinators[region.entityType r]? = none ∧
      ∀ state, loaded = some state → state.snapshot ∈ history f.writes (region.entityType r) := by
  obtain ⟨hnone, tokens, ⟨store₁, world₁⟩, hw, hload⟩ :=
    beginRegistration_some region (sharedStoreEnv lease) api (sharedStoreEnv_frame lease) hout
  obtain rfl : store₁ = f.store := hw
  refine ⟨hnone, fun state hstate => ?_⟩
  have hstored : loaded = f.store.states[region.entityType r]? := by
    have hmode := (h.runtimeOk i).persistent
    unfold loadCoordinatorState at hload
    simp only [Attempt.get_bind] at hload
    cases hm : (f.runtimes i).coordinatorStore with
    | none => exact absurd hm hmode
    | sync =>
      rw [hm] at hload
      cases hload
      rfl
    | async =>
      rw [hm] at hload
      cases api with
      | sync => cases hload
      | async =>
        cases hload
        rfl
  have hlast := h.storeOk.stored (region.entityType r)
  rw [← hstored, hstate] at hlast
  exact mem_of_getLast? hlast.symm

lemma Fenced.beginRegistration (h : Fenced region f) (hidle : (f.calls i).Settled) (api : Api)
    (r : ρ) : Fenced region (f.stepBeginRegistration region lease i api r) := by
  have hkeeps := beginRegistration_keeps region (sharedStoreEnv lease) api
    (sharedStoreEnv_frame lease) (fun _ _ => rfl) r
  have hexec := h.exec_tokensOnly hidle hkeeps
  have htokens := hkeeps (f.runtimes i, f.store, f.world)
  unfold stepBeginRegistration
  rcases hout : ClusterShardingRuntime.beginRegistration region (sharedStoreEnv lease) api r
    (f.runtimes i, f.store, f.world) with ⟨answer, rt, store, world⟩
  rw [hout] at htokens
  obtain ⟨tokens, ⟨store', world'⟩, hstore, heq⟩ := htokens
  obtain rfl : store' = f.store := hstore
  cases heq
  rw [exec_eq hout] at hexec ⊢
  rcases answer with failure | _ | ⟨token, loaded⟩
  · exact hexec
  · exact hexec.attach hidle r
  · refine h.moved i (.registering api r token loaded) world rfl rfl ?_
    intro api' r' token' loaded' hcall
    cases hcall
    exact h.loaded hout

omit [DecidableEq ι] in
lemma Fenced.initial (h : Fenced region f) {loaded : Option PersistedShardCoordinatorState}
    (hloaded : ∀ state, loaded = some state →
      state.snapshot ∈ history f.writes (region.entityType r))
    (hc : initialCoordinator region r loaded = .ok c) :
    c.entityType = region.entityType r ∧ Current f.writes c.entityType c.snapshot := by
  cases loaded with
  | none =>
    cases hc
    exact ⟨rfl, .inl ⟨rfl, rfl⟩⟩
  | some state =>
    have hmem := hloaded state rfl
    obtain ⟨d, hd⟩ := h.storeOk.restorable _ _ hmem
    simp only [initialCoordinator, ← hd] at hc
    have htype := ShardCoordinator.fromSnapshot_entityType hc
    have hsnapshot := ShardCoordinator.fromSnapshot_snapshot_eq hc
    refine ⟨htype, .inr ?_⟩
    rw [htype, hsnapshot, hd]
    exact mem_iff_getElem?.mp hmem

section
variable {loaded : Option PersistedShardCoordinatorState} (h : Fenced region f)
  (hcall : f.calls i = .registering api r token loaded)
include h hcall

lemma Fenced.install : Fenced region (f.stepInstall region lease i api r token loaded).2 := by
  obtain ⟨hnone, hloaded⟩ := (h.runtimeOk i).loading api r token loaded hcall
  have hstep := installCoordinator_step region (sharedStoreEnv lease) api r token loaded (f.runtimes i) (f.store, f.world)
  unfold stepInstall
  generalize hout : installCoordinator region (sharedStoreEnv lease) api r token loaded
    (f.runtimes i, f.store, f.world) = out at hstep
  cases hstep with
  | invalid e hc =>
    simp only [exec_eq hout, hc]
    exact h.moved i .idle f.world rfl rfl (settled_loading trivial)
  | unchanged c hc hplan =>
    obtain ⟨htype, hcurrent⟩ := h.initial hloaded hc
    have hunrefused : f.refused i c.entityType = false := by
      by_contra hr
      exact (h.runtimeOk i).registered _ (Bool.not_eq_false _ ▸ hr) (htype ▸ hnone)
    have hset : RuntimeOk region f.writes ((f.runtimes i).installed c)
        (Function.update (f.refused i) c.entityType false) .idle :=
      (h.runtimeOk i).set (d := (c.reconcile (f.runtimes i).membership).2) rfl rfl
        (fun _ => (ShardCoordinator.reconcile_of_isEmpty hplan).symm ▸ hcurrent) trivial
    simp only [exec_eq hout, hc, record_of_store_eq, Bool.false_eq_true, if_false]
    refine h.unwritten i (fun j hj => ?_) rfl rfl ?_
    · simp only [Fleet.setCall, Function.update_of_ne hj, and_self]
    · have hsame : Function.update (f.refused i) c.entityType false = f.refused i := by
        rw [← hunrefused, Function.update_eq_self]
      simp only [Fleet.setCall, Function.update_self]
      exact hsame ▸ hset
  | refused c failure w₁ hc hplan hpersist hf =>
    obtain ⟨store, world⟩ := w₁
    rcases persisted_shared h rfl rfl hpersist with
      ⟨_, _, hstore⟩ | ⟨_, hok, _⟩
    · obtain rfl : store = f.store := hstore
      simp only [exec_eq hout, hc, record_of_store_eq, Bool.false_eq_true, if_false]
      exact h.moved i .idle world rfl rfl (settled_loading trivial)
    · cases hok
  | written c w₁ hc hplan hpersist =>
    obtain ⟨store, world⟩ := w₁
    rcases persisted_shared h rfl rfl hpersist with
      ⟨_, herror, _⟩ | ⟨state, _, hrev, hstate, hstore⟩
    · cases herror
    · obtain rfl : store = ⟨f.store.states.insert c.entityType state⟩ := hstore
      simp only [exec_eq hout, hc]
      exact h.accept i world false hplan hstate hrev (fun _ => (h.initial hloaded hc).2) rfl rfl
        trivial

lemma Fenced.finishRegistration :
    Fenced region (f.stepFinishRegistration region lease i api r token loaded) := by
  have hinstall : Fenced region (f.stepInstall region lease i api r token loaded).2 :=
    h.install hcall
  have hidle : ((f.stepInstall region lease i api r token loaded).2.calls i).Settled := by
    simp only [stepInstall, Fleet.setCall, Function.update_self]
    trivial
  unfold stepFinishRegistration
  split
  next heq => rwa [heq] at hinstall
  next heq =>
    rw [heq] at hinstall hidle
    exact hinstall.attach hidle r

end

lemma Fenced.step (h : Fenced region f) (op : FleetOp ι ρ)
    (hstep : f.step region lease op = some f') : Fenced region f' := by
  have settled {i : ι} (hcall : f.calls i = .idle) : (f.calls i).Settled := by
    rw [hcall]
    trivial
  cases op <;> simp only [Fleet.step] at hstep <;> split at hstep <;> cases hstep
  next i api u _ hcall => exact h.beginUpdate (settled hcall) api u
  next i _ api es hcall => exact h.reconcileNext i api es
  next i api r _ hcall => exact h.beginRegistration (settled hcall) api r
  next i _ api r token loaded hcall => exact h.finishRegistration hcall
  next hcall =>
    exact h.exec_tokensOnly (settled hcall) (renewCoordinatorLeases_keeps _ (sharedStoreEnv_frame lease))
  next hcall =>
    exact h.exec_tokensOnly (settled hcall) (releaseCoordinatorLeases_keeps _ (sharedStoreEnv_frame lease))

end Fleet

/-! Two runtimes, each on its own node, that both know both nodes. -/

def noLease : LeaseEnv Unit where
  leaseName := "none"
  acquire _ _ w := (.error (.coordinatorLease "none" "unavailable"), w)
  renew _ w := (.ok (), w)
  release _ w := (.ok (), w)
  currentTimestampMillis w := (0, w)

def pairStart : Fleet Bool Unit Unit :=
  .start (fun i => .new (if i then nodeB else nodeA) ⟨1, 10, 30⟩) (fun _ => false) (fun _ => .none) ()

def pairStep : Fleet Bool Unit Unit → FleetOp Bool Unit → Option (Fleet Bool Unit Unit) :=
  Fleet.step cartRegion noLease

def pairOps : List (FleetOp Bool Unit) :=
  [.beginUpdate false .sync (.applyDiscovery (.new "static" 1 [nodeA, nodeB])), .reconcileNext false,
    .beginUpdate true .sync (.applyDiscovery (.new "static" 1 [nodeA, nodeB])), .reconcileNext true,
    .beginRegistration false .sync (), .finishRegistration false,
    .beginRegistration true .sync (), .finishRegistration true,
    .beginUpdate true .sync (.markDown nodeA.id 2), .reconcileNext true, .reconcileNext true]

/-- The first runtime sees the second node down, which the store refuses, and then leaves. -/
def staleOps : List (FleetOp Bool Unit) :=
  [.beginUpdate false .sync (.markDown nodeB.id 2), .reconcileNext false,
    .beginUpdate false .sync (.markLeaving nodeA.id 3), .reconcileNext false]

lemma pairRun_isSome : (runFrom pairStep pairStart pairOps).isSome = true := by decide +kernel

lemma staleRun_isSome : (runFrom pairStep pairStart (pairOps ++ staleOps)).isSome = true := by
  decide +kernel

end Rakka.Sharding
