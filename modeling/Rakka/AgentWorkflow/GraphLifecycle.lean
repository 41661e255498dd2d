import Rakka.AgentWorkflow.GraphMoves
import Rakka.Foundation.Runs

/-! How the nodes of a graph change along a run, and how a run ends: the terminal status is
final, and nothing is left unresolved unless an iterator that exceeds its bound ends the
graph while other work is open. -/

namespace Rakka.AgentWorkflow
open Foundation AgentGraphRunState Option
variable {op : GraphOp} {now : AgentTimestampMillis} {old new : AgentGraphNodeState}
variable {status : AgentGraphTerminalStatus}
  {update : AgentCompiledNodeId → AgentGraphNodeState → AgentGraphNodeState}
  {excluded : List AgentCompiledNodeId} {initial : AgentGraphRunState}

  {ids : List AgentCompiledNodeId}

variable {plan : AgentCompiledExecutionPlan} {state next : AgentGraphRunState}
  {nodeId : AgentCompiledNodeId}

/-! ### Updates of several nodes -/

lemma foldlM_setNode (update : AgentGraphNodeState → AgentGraphNodeState)
    {step : AgentGraphRunState → AgentCompiledNodeId → SchedulerResult AgentGraphRunState}
    (hstep : ∀ state nodeId next, step state nodeId = .ok next → ∃ nodeState,
      state.nodeStates[nodeId]? = some nodeState ∧ next = state.setNode nodeId (update nodeState))
    (hupdate : ∀ nodeState, update (update nodeState) = update nodeState)
    (h : ids.foldlM step state = .ok next) :
    ∃ nodeStates, next = { state with nodeStates := nodeStates } ∧ ∀ i : AgentCompiledNodeId,
      nodeStates[i]? = if i ∈ ids then (state.nodeStates[i]?).map update else state.nodeStates[i]? := by
  induction ids generalizing state with
  | nil =>
    cases h
    exact ⟨next.nodeStates, rfl, fun i => by simp⟩
  | cons head rest ih =>
    rw [List.foldlM_cons, bind_eq_ok] at h
    obtain ⟨middle, hhead, hrest⟩ := h
    obtain ⟨old, hold, rfl⟩ := hstep state head middle hhead
    obtain ⟨nodeStates, rfl, hnodes⟩ := ih hrest
    refine ⟨nodeStates, rfl, fun i => ?_⟩
    rw [hnodes i]
    by_cases hi : i = head
    · subst hi
      rw [nodeStates_setNode_self, if_pos List.mem_cons_self, hold]
      split_ifs with hmem
      · exact congrArg some (hupdate old)
      · rfl
    · rw [nodeStates_setNode_of_ne _ hi]
      simp only [List.mem_cons, hi, false_or]

def AgentGraphNodeState.markedRunnable (now : AgentTimestampMillis)
    (nodeState : AgentGraphNodeState) : AgentGraphNodeState :=
  { nodeState with status := .runnable, dependenciesReady := true, updatedAt := now }

def AgentGraphNodeState.skippedIfPending (now : AgentTimestampMillis)
    (nodeState : AgentGraphNodeState) : AgentGraphNodeState :=
  if nodeState.status = .pending then nodeState.skip now else nodeState

lemma skippedIfPending_skippedIfPending (now later : AgentTimestampMillis)
    (old : AgentGraphNodeState) :
    (old.skippedIfPending now).skippedIfPending later = old.skippedIfPending now := by
  by_cases hpending : old.status = .pending
  · simp [AgentGraphNodeState.skippedIfPending, AgentGraphNodeState.skip, hpending]
  · simp [AgentGraphNodeState.skippedIfPending, hpending]

lemma markRunnable_foldlM (h : ids.foldlM (markRunnable now) state = .ok next) :
    ∃ nodeStates, next = { state with nodeStates := nodeStates } ∧ ∀ i : AgentCompiledNodeId,
      nodeStates[i]? = if i ∈ ids then (state.nodeStates[i]?).map (.markedRunnable now)
        else state.nodeStates[i]? := by
  refine foldlM_setNode (.markedRunnable now) (fun s i t hs => ?_) (fun _ => rfl) h
  simp only [markRunnable, bind_eq_ok, lookupNodeState_eq_ok] at hs
  obtain ⟨old, hold, ht⟩ := hs
  exact ⟨old, hold, (Except.ok.inj ht).symm⟩

lemma skipNode_foldlM (h : ids.foldlM (skipNode now) state = .ok next) :
    ∃ nodeStates, next = { state with nodeStates := nodeStates } ∧ ∀ i : AgentCompiledNodeId,
      nodeStates[i]? = if i ∈ ids then (state.nodeStates[i]?).map (.skippedIfPending now)
        else state.nodeStates[i]? := by
  refine foldlM_setNode (.skippedIfPending now) (fun s i t hs => ?_) (fun old => ?_) h
  · simp only [skipNode, bind_eq_ok, lookupNodeState_eq_ok] at hs
    obtain ⟨old, hold, ht⟩ := hs
    refine ⟨old, hold, ?_⟩
    rw [AgentGraphNodeState.skippedIfPending]
    split_ifs at ht ⊢ with hpending
    · exact (Except.ok.inj ht).symm
    · rw [setNode, BTreeMap.insert_of_lookup hold]
      exact (Except.ok.inj ht).symm
  · exact skippedIfPending_skippedIfPending now now old

/-! ### Changes of one node -/

inductive StatusStep : AgentGraphNodeStatus → AgentGraphNodeStatus → Prop where
  | keep (status : AgentGraphNodeStatus) : StatusStep status status
  | ready : StatusStep .pending .runnable
  | skip : StatusStep .pending .skipped
  | start : StatusStep .runnable .running
  | wait : StatusStep .running .waiting
  | resume : StatusStep .waiting .running
  | complete : StatusStep .running .completed
  | completeWaiting : StatusStep .waiting .completed
  | terminate : StatusStep .running .terminal
  | fail : StatusStep .running .failed
  | failWaiting : StatusStep .waiting .failed
  | cancel {status : AgentGraphNodeStatus} (h : status.isUnresolved = true) :
      StatusStep status .cancelled

structure NodeChange (old new : AgentGraphNodeState) : Prop where
  nodeId : new.nodeId = old.nodeId
  effects : new.scheduledEffectIds = old.scheduledEffectIds
  generation : min old.effectGeneration u32Max ≤ new.effectGeneration
  status : StatusStep old.status new.status

lemma NodeChange.refl (old : AgentGraphNodeState) : NodeChange old old :=
  ⟨rfl, rfl, min_le_left _ _, .keep _⟩

lemma NodeMove.change (h : NodeMove plan op nodeId old new) : NodeChange old new := by
  cases h with
  | start hstatus => exact ⟨rfl, rfl, min_le_left _ _, hstatus ▸ .start⟩
  | complete _ _ hstatus | completeIterator _ _ hstatus =>
    exact ⟨rfl, rfl, min_le_left _ _, hstatus ▸ .complete⟩
  | wait hstatus => exact ⟨rfl, rfl, min_le_left _ _, hstatus ▸ .wait⟩
  | park hstatus => exact ⟨rfl, rfl, min_le_left _ _, hstatus ▸ .keep _⟩
  | resume hstatus =>
    exact ⟨rfl, rfl, min_le_min_right _ (Nat.le_succ _), hstatus ▸ .resume⟩
  | completeWaiting hstatus => exact ⟨rfl, rfl, min_le_left _ _, hstatus ▸ .completeWaiting⟩

lemma EndMove.change (h : EndMove op nodeId old new status now) : NodeChange old new := by
  cases h with
  | terminal hstatus => exact ⟨rfl, rfl, min_le_left _ _, hstatus ▸ .terminate⟩
  | failWaiting hstatus => exact ⟨rfl, rfl, min_le_left _ _, hstatus ▸ .failWaiting⟩
  | fail hstatus => exact ⟨rfl, rfl, min_le_left _ _, hstatus ▸ .fail⟩

def NodesChange (state next : AgentGraphRunState) : Prop :=
  ∀ i : AgentCompiledNodeId, (state.nodeStates[i]? = none ∧ next.nodeStates[i]? = none) ∨
    ∃ old new, state.nodeStates[i]? = some old ∧ next.nodeStates[i]? = some new ∧ NodeChange old new

lemma nodesChange_of_map
    (hnext : ∀ i : AgentCompiledNodeId, next.nodeStates[i]? = (state.nodeStates[i]?).map (update i))
    (hupdate : ∀ i old, state.nodeStates[i]? = some old → NodeChange old (update i old)) :
    NodesChange state next := by
  intro i
  rw [hnext i]
  cases hold : state.nodeStates[i]? with
  | none => exact .inl ⟨rfl, rfl⟩
  | some old => exact .inr ⟨old, update i old, rfl, rfl, hupdate i old hold⟩

lemma nodesChange_setNode (hlookup : state.nodeStates[nodeId]? = some old)
    (hchange : NodeChange old new) : NodesChange state (state.setNode nodeId new) := by
  intro i
  by_cases hi : i = nodeId
  · subst hi
    exact .inr ⟨old, new, hlookup, nodeStates_setNode_self .., hchange⟩
  · rw [nodeStates_setNode_of_ne _ hi]
    cases state.nodeStates[i]? with
    | none => exact .inl ⟨rfl, rfl⟩
    | some other => exact .inr ⟨other, other, rfl, rfl, .refl other⟩

lemma NodeChange.skippedIfPending (now : AgentTimestampMillis) (old : AgentGraphNodeState) :
    NodeChange old (old.skippedIfPending now) := by
  rw [AgentGraphNodeState.skippedIfPending]
  split_ifs with hpending
  · exact ⟨rfl, rfl, min_le_left _ _, hpending ▸ .skip⟩
  · exact .refl old

/-! ### The passes of a skip propagation -/

structure SkipPass (plan : AgentCompiledExecutionPlan) (state next : AgentGraphRunState) : Prop where
  frame : ∃ nodeStates, next = { state with nodeStates := nodeStates }
  nodes : ∃ now skipped, skippableNodes plan state = .ok skipped ∧ ∀ i : AgentCompiledNodeId,
    next.nodeStates[i]? = if i ∈ skipped then (state.nodeStates[i]?).map (.skippedIfPending now)
      else state.nodeStates[i]?

inductive Skips : (AgentGraphNodeState → AgentGraphNodeState) → Prop where
  | keep : Skips id
  | skip (now : AgentTimestampMillis) : Skips (.skippedIfPending now)

lemma SkipPass.change (h : SkipPass plan state next) (i : AgentCompiledNodeId) :
    ∃ update, Skips update ∧ next.nodeStates[i]? = (state.nodeStates[i]?).map update := by
  obtain ⟨now, skipped, -, hnodes⟩ := h.nodes
  rw [hnodes i]
  split_ifs with hi
  · exact ⟨_, .skip now, rfl⟩
  · exact ⟨_, .keep, map_id.symm ▸ rfl⟩

lemma skipPasses_of_loop {passes : ℕ} {changed changed' : List AgentCompiledNodeId}
    (h : propagateSkipsLoop plan now passes state changed = .ok (next, changed')) :
    Relation.ReflTransGen (SkipPass plan) state next := by
  induction passes generalizing state changed with
  | zero =>
    cases h
    exact .refl
  | succ passes ih =>
    simp only [propagateSkipsLoop, bind_eq_ok] at h
    obtain ⟨skipped, hskipped, hrest⟩ := h
    split_ifs at hrest with hempty
    · cases hrest
      exact .refl
    · rw [bind_eq_ok] at hrest
      obtain ⟨middle, hmiddle, hloop⟩ := hrest
      obtain ⟨nodeStates, rfl, hnodes⟩ := skipNode_foldlM hmiddle
      exact .head ⟨⟨nodeStates, rfl⟩, now, skipped, hskipped, hnodes⟩ (ih hloop)

lemma SkipPass.frame_of_passes (h : Relation.ReflTransGen (SkipPass plan) state next) :
    ∃ nodeStates, next = { state with nodeStates := nodeStates } := by
  induction h with
  | refl => exact ⟨state.nodeStates, rfl⟩
  | tail _ hpass ih =>
    obtain ⟨_, rfl⟩ := ih
    obtain ⟨nodeStates, hlast⟩ := hpass.frame
    exact ⟨nodeStates, hlast⟩

lemma SkipPass.change_of_passes (h : Relation.ReflTransGen (SkipPass plan) state next)
    (i : AgentCompiledNodeId) :
    ∃ update, Skips update ∧ next.nodeStates[i]? = (state.nodeStates[i]?).map update := by
  induction h with
  | refl => exact ⟨_, .keep, map_id.symm ▸ rfl⟩
  | tail _ hpass ih =>
    obtain ⟨before, hbefore, hmiddle⟩ := ih
    obtain ⟨after, hafter, hlast⟩ := hpass.change i
    rw [hmiddle, map_map] at hlast
    cases hafter with
    | keep => exact ⟨before, hbefore, hlast⟩
    | skip later =>
      cases hbefore with
      | keep => exact ⟨_, .skip later, hlast⟩
      | skip now =>
        refine ⟨_, .skip now, hlast.trans ?_⟩
        exact congrArg (fun f => Option.map f state.nodeStates[i]?)
          (funext (skippedIfPending_skippedIfPending now later))

lemma Skips.change {update : AgentGraphNodeState → AgentGraphNodeState} (h : Skips update)
    (old : AgentGraphNodeState) : NodeChange old (update old) := by
  cases h with
  | keep => exact .refl old
  | skip now => exact .skippedIfPending now old

lemma Skips.eq_self {update : AgentGraphNodeState → AgentGraphNodeState} (h : Skips update)
    (hne : old.status ≠ .pending) : update old = old := by
  cases h with
  | keep => rfl
  | skip => exact if_neg hne

/-! ### Cancellation -/

variable (now)

variable (excluded)

def AgentGraphNodeState.cancelledUnless (nodeId : AgentCompiledNodeId)
    (nodeState : AgentGraphNodeState) : AgentGraphNodeState :=
  if !excluded.contains nodeId && nodeState.status.isUnresolved then nodeState.cancel now
  else nodeState

lemma NodeChange.cancelledUnless (nodeId : AgentCompiledNodeId) (old : AgentGraphNodeState) :
    NodeChange old (old.cancelledUnless now excluded nodeId) := by
  rw [AgentGraphNodeState.cancelledUnless]
  split_ifs with hcancels
  · exact ⟨rfl, rfl, min_le_left _ _, .cancel (Bool.and_eq_true_iff.mp hcancels).2⟩
  · exact .refl old

lemma cancelled_nodeStates (i : AgentCompiledNodeId) :
    (cancelUnresolvedLoopInstances (cancelUnresolvedNodes state now excluded).1 now).1.nodeStates[i]? =
      (state.nodeStates[i]?).map (.cancelledUnless now excluded i) :=
  Std.ExtTreeMap.getElem?_map

variable {excluded}

/-! ### Changes made by a move -/

lemma NodesChange.congr {last : AgentGraphRunState} (h : NodesChange state next)
    (hnodes : last.nodeStates = next.nodeStates) : NodesChange state last := by
  intro i
  rw [hnodes]
  exact h i

lemma nodesChange_setNode_map (hlookup : state.nodeStates[nodeId]? = some old)
    (hchange : NodeChange old new) (hnext : ∀ i : AgentCompiledNodeId,
      next.nodeStates[i]? = ((state.setNode nodeId new).nodeStates[i]?).map (update i))
    (hself : update nodeId new = new) (hupdate : ∀ i other, NodeChange other (update i other)) :
    NodesChange state next := by
  intro i
  rw [hnext i]
  by_cases hi : i = nodeId
  · subst hi
    rw [nodeStates_setNode_self]
    exact .inr ⟨old, _, hlookup, rfl, hself.symm ▸ hchange⟩
  · rw [nodeStates_setNode_of_ne _ hi]
    cases state.nodeStates[i]? with
    | none => exact .inl ⟨rfl, rfl⟩
    | some other => exact .inr ⟨other, _, rfl, rfl, hupdate i other⟩

lemma GraphMove.nodesChange (h : GraphMove plan state op next) : NodesChange state next := by
  have hrefl : NodesChange state state :=
    nodesChange_of_map (fun i => map_id'.symm) (fun i old _ => .refl old)
  cases h with
  | unchanged => exact hrefl
  | @readied now ready marked _ _ hready hmarked =>
    obtain ⟨nodeStates, rfl, hnodes⟩ := markRunnable_foldlM hmarked
    intro i
    by_cases hi : i ∈ ready
    · -- a node that is marked was pending
      have hpending : state.statusOf i = some .pending := by
        simp only [computeReadyNodes, bind_eq_ok, exists_unit] at hready
        obtain ⟨-, hready⟩ := hready
        split_ifs at hready
        · cases hready
          cases hi
        · obtain ⟨-, -, -, hpending, -⟩ := (mem_pendingNodesWhere hready).mp hi
          exact hpending
      obtain ⟨old, hold, hstatus⟩ := map_eq_some_iff.mp hpending
      refine .inr ⟨old, old.markedRunnable now, hold, ?_, rfl, rfl, min_le_left _ _, hstatus ▸ .ready⟩
      exact (hnodes i).trans (by rw [if_pos hi, hold]; rfl)
    · have hsame : nodeStates[i]? = state.nodeStates[i]? := (hnodes i).trans (if_neg hi)
      rcases hrefl i with ⟨hnone, -⟩ | ⟨old, new, hold, hnew, hchange⟩
      · exact .inl ⟨hnone, hsame.trans hnone⟩
      · exact .inr ⟨old, new, hold, hsame.trans hnew, hchange⟩
  | moved _ hlookup hmove => exact (nodesChange_setNode hlookup hmove.change).congr rfl
  | @branched _ _ now _ old _ _ _ _ _ hlookup hstatus hskips =>
    have hchange : NodeChange old ({ old with status := .completed, updatedAt := now }.finish now) :=
      ⟨rfl, rfl, min_le_left _ _, hstatus ▸ .complete⟩
    choose update hskip hnodes using SkipPass.change_of_passes (skipPasses_of_loop hskips)
    have hcompleted : AgentGraphNodeStatus.completed ≠ .pending := by decide
    exact nodesChange_setNode_map hlookup hchange hnodes ((hskip _).eq_self hcompleted)
      (fun i => (hskip i).change)
  | iterated => exact hrefl.congr rfl
  | @exceeded nodeId now old _ hlookup hstatus _ =>
    have hchange : NodeChange old ({ old with status := .failed, updatedAt := now }.fail now
        "iterator-bound-exceeded") := ⟨rfl, rfl, min_le_left _ _, hstatus ▸ .fail⟩
    exact (nodesChange_setNode hlookup hchange).congr rfl
  | @ended _ nodeId old new status now _ hlookup hmove =>
    have hself : new.cancelledUnless now [nodeId] nodeId = new := by
      simp [AgentGraphNodeState.cancelledUnless]
    exact nodesChange_setNode_map hlookup hmove.change (fun i => cancelled_nodeStates now [nodeId] i)
      hself (.cancelledUnless now [nodeId])
  | cancelled =>
    exact nodesChange_of_map (fun i => cancelled_nodeStates _ _ i)
      (fun i old _ => .cancelledUnless _ _ i old)

/-! ### Ends -/

structure AllResolved (state : AgentGraphRunState) : Prop where
  nodes : ∀ (i : AgentCompiledNodeId) nodeState, state.nodeStates[i]? = some nodeState →
    nodeState.status.isUnresolved = false
  loops : ∀ loopInstance ∈ state.loopInstances, loopInstance.status.isUnresolved = false

/-- If the call ends the graph because an iterator exceeds its bound, everything else has
already been resolved. -/
def exceedsAlone (plan : AgentCompiledExecutionPlan) (state : AgentGraphRunState) (op : GraphOp) :
    Bool :=
  match op with
  | .startIteratorIteration nodeId _ =>
    state.terminalStatus.isSome || (op.apply plan state).terminalStatus.isNone ||
      (state.nodeStates.toList.all
          (fun entry => entry.1 == nodeId || !entry.2.status.isUnresolved) &&
        state.loopInstances.all (fun loopInstance => !loopInstance.status.isUnresolved))
  | _ => true

lemma GraphMove.eq_of_terminal (h : GraphMove plan state op next)
    (hended : state.terminalStatus ≠ none) : next = state := by
  cases h with
  | unchanged => rfl
  | readied hlive _ _ _ | moved hlive _ _ _ | branched hlive _ _ _ _ _ | iterated hlive _
  | exceeded hlive | ended hlive | cancelled hlive => exact absurd hlive hended

lemma GraphMove.revision (h : GraphMove plan state op next) :
    next = state ∨ next.schedulerRevision = state.schedulerRevision + 1 := by
  cases h with
  | unchanged => exact .inl rfl
  | readied _ _ _ hmarked =>
    obtain ⟨_, rfl, -⟩ := markRunnable_foldlM hmarked
    exact .inr rfl
  | moved => exact .inr rfl
  | branched _ _ _ _ _ hskips =>
    obtain ⟨_, rfl⟩ := SkipPass.frame_of_passes (skipPasses_of_loop hskips)
    exact .inr rfl
  | iterated | exceeded | ended | cancelled => exact .inr rfl

lemma cancelledUnless_resolved {i : AgentCompiledNodeId} {nodeState : AgentGraphNodeState}
    (hexcluded : i ∈ excluded → nodeState.status.isUnresolved = false) :
    (nodeState.cancelledUnless now excluded i).status.isUnresolved = false := by
  rw [AgentGraphNodeState.cancelledUnless]
  split_ifs with hcancels
  · rfl
  · by_cases hmem : i ∈ excluded
    · exact hexcluded hmem
    · simpa [hmem] using hcancels

lemma cancelled_allResolved
    (hexcluded : ∀ i ∈ excluded, ∀ nodeState, state.nodeStates[i]? = some nodeState → nodeState.status.isUnresolved = false)
    :
    AllResolved (cancelUnresolvedLoopInstances (cancelUnresolvedNodes state now excluded).1 now).1 := by
  refine ⟨fun i nodeState hi => ?_, fun loopInstance hmem => ?_⟩
  · rw [cancelled_nodeStates] at hi
    obtain ⟨old, hold, rfl⟩ := map_eq_some_iff.mp hi
    exact cancelledUnless_resolved now (fun hmem => hexcluded i hmem old hold)
  · obtain ⟨old, -, rfl⟩ := List.mem_map.mp hmem
    split_ifs with hunresolved
    · rfl
    · simpa using hunresolved

variable {now}

lemma EndMove.resolved (h : EndMove op nodeId old new status now) :
    new.status.isUnresolved = false := by
  cases h <;> rfl

lemma GraphMove.allResolved (h : GraphMove plan state op next)
    (hlive : state.terminalStatus = none) (hended : next.terminalStatus ≠ none)
    (halone : ∀ nodeId now, op = .startIteratorIteration nodeId now →
      (∀ (i : AgentCompiledNodeId) nodeState, state.nodeStates[i]? = some nodeState → i ≠ nodeId →
        nodeState.status.isUnresolved = false) ∧
      ∀ loopInstance ∈ state.loopInstances, loopInstance.status.isUnresolved = false) :
    AllResolved next := by
  cases h with
  | unchanged => exact absurd hlive hended
  | readied _ _ _ hmarked =>
    obtain ⟨_, rfl, -⟩ := markRunnable_foldlM hmarked
    exact absurd hlive hended
  | moved => exact absurd hlive hended
  | branched _ _ _ _ _ hskips =>
    obtain ⟨_, rfl⟩ := SkipPass.frame_of_passes (skipPasses_of_loop hskips)
    exact absurd hlive hended
  | iterated => exact absurd hlive hended
  | @exceeded nodeId now old _ _ _ _ =>
    obtain ⟨hnodes, hloops⟩ := halone nodeId now rfl
    refine ⟨fun i nodeState hi => ?_, hloops⟩
    by_cases hid : i = nodeId
    · subst hid
      rw [← Option.some.inj ((nodeStates_setNode_self ..).symm.trans hi)]
      rfl
    · exact hnodes i nodeState ((nodeStates_setNode_of_ne _ hid _).symm.trans hi) hid
  | @ended _ nodeId old new status now _ _ hmove =>
    refine cancelled_allResolved now (fun i hi nodeState hstored => ?_)
    rw [List.mem_singleton.mp hi] at hstored
    rw [← Option.some.inj ((nodeStates_setNode_self ..).symm.trans hstored)]
    exact hmove.resolved
  | @cancelled now _ =>
    have hexcluded : ∀ i ∈ ([] : List AgentCompiledNodeId), ∀ nodeState,
        state.nodeStates[i]? = some nodeState → nodeState.status.isUnresolved = false :=
      fun i hi => absurd hi List.not_mem_nil
    obtain ⟨hnodes, hloops⟩ := cancelled_allResolved now hexcluded
    exact ⟨hnodes, hloops⟩

lemma alone_of_exceedsAlone (h : exceedsAlone plan state op = true)
    (hlive : state.terminalStatus = none) (hended : (op.apply plan state).terminalStatus ≠ none) :
    ∀ nodeId now, op = .startIteratorIteration nodeId now →
      (∀ (i : AgentCompiledNodeId) nodeState, state.nodeStates[i]? = some nodeState → i ≠ nodeId →
        nodeState.status.isUnresolved = false) ∧
      ∀ loopInstance ∈ state.loopInstances, loopInstance.status.isUnresolved = false := by
  rintro nodeId now rfl
  have hsome : ((GraphOp.startIteratorIteration nodeId now).apply plan state).terminalStatus.isNone =
      false := by
    rw [isNone_eq_false_iff, isSome_iff_ne_none]
    exact hended
  simp only [exceedsAlone, hlive, hsome, isSome_none, Bool.false_or, Bool.and_eq_true,
    List.all_eq_true, Bool.not_eq_true', Bool.or_eq_true, beq_iff_eq] at h
  refine ⟨fun i nodeState hi hne => ?_, h.2⟩
  exact (h.1 (i, nodeState) (Std.ExtTreeMap.mem_toList_iff_getElem?_eq_some.mpr hi)).resolve_left hne

def Ended (state : AgentGraphRunState) : Prop := state.terminalStatus ≠ none → AllResolved state

lemma Ended.apply (h : Ended state) (halone : exceedsAlone plan state op = true) :
    Ended (op.apply plan state) := by
  rcases GraphOp.apply_cases plan state op with hsame | ⟨-, hmove⟩
  · rwa [hsame]
  intro hended
  by_cases hlive : state.terminalStatus = none
  · exact hmove.allResolved hlive hended (alone_of_exceedsAlone halone hlive hended)
  · rw [hmove.eq_of_terminal hlive]
    exact h hlive

lemma apply_of_terminal (h : state.terminalStatus ≠ none) (op : GraphOp) :
    op.apply plan state = state := by
  rcases GraphOp.apply_cases plan state op with hsame | ⟨-, hmove⟩
  · exact hsame
  · exact hmove.eq_of_terminal h

lemma runGraph_of_terminal (h : state.terminalStatus ≠ none) (ops : List GraphOp) :
    runGraph plan state ops = state := by
  induction ops with
  | nil => rfl
  | cons op ops ih =>
    rw [runGraph, List.foldl_cons, apply_of_terminal h]
    exact ih

lemma initializeState_eq_ok :
    initializeState plan now = .ok initial ↔ validateCompiledExecutionPlan plan = .ok () ∧
      plan.sortedNodes.foldl
        (fun state node => state.setNode node.nodeId (.new node.nodeId node.kind now))
        (.new plan.planId plan.planFingerprint) = initial := by
  simp only [initializeState, bind_eq_ok, exists_unit, validatePlan_eq_ok]
  exact and_congr_right (fun _ => ⟨Except.ok.inj, congrArg _⟩)

lemma foldl_setNode_frame (build : AgentCompiledPlanNode → AgentGraphNodeState)
    (nodes : List AgentCompiledPlanNode) (state : AgentGraphRunState) :
    ∃ nodeStates, nodes.foldl (fun state node => state.setNode node.nodeId (build node)) state =
      { state with nodeStates := nodeStates } := by
  induction nodes generalizing state with
  | nil => exact ⟨state.nodeStates, rfl⟩
  | cons node nodes ih =>
    obtain ⟨nodeStates, h⟩ := ih (state.setNode node.nodeId (build node))
    exact ⟨nodeStates, h⟩

lemma initial_terminalStatus (h : initializeState plan now = .ok initial) :
    initial.terminalStatus = none := by
  obtain ⟨-, rfl⟩ := initializeState_eq_ok.mp h
  obtain ⟨_, hframe⟩ := foldl_setNode_frame (fun node => .new node.nodeId node.kind now)
    plan.sortedNodes (.new plan.planId plan.planFingerprint)
  rw [hframe]
  rfl

def planOf (entryNodeIds : List String) (nodes : List AgentCompiledPlanNode)
    (edges : List AgentCompiledPlanEdge) : AgentCompiledExecutionPlan where
  planId := ⟨"plan-1"⟩
  workflowId := ⟨"claims"⟩
  workflowType := "claims"
  definitionVersion := ⟨"1"⟩
  planSchemaVersion := 1
  planFingerprint := ⟨"fp-1"⟩
  entryNodeIds := entryNodeIds.map AgentCompiledNodeId.mk
  nodes := nodes
  edges := edges
  compatibility := ⟨[], ∅⟩
  observabilityLabels := ∅

def relayNode (nodeId : String) (kind : AgentCompiledNodeKind) : AgentCompiledPlanNode :=
  ((AgentCompiledPlanNode.new nodeId kind).inputPort (.new "in" .input "json")).outputPort
    (.new "out" .output "json")

def finishNode : AgentCompiledPlanNode :=
  (AgentCompiledPlanNode.new "finish" .terminal).inputPort (.new "in" .input "json")

def loopPlan : AgentCompiledExecutionPlan :=
  planOf ["loop", "audit"]
    [{ relayNode "loop" .iterator with iteratorPolicy := some ⟨1⟩ }, relayNode "audit" .transform,
      finishNode]
    [.new "e1" "loop" "out" "finish" "in"]

def freshState (plan : AgentCompiledExecutionPlan) : AgentGraphRunState :=
  plan.sortedNodes.foldl
    (fun state node => state.setNode node.nodeId (.new node.nodeId node.kind 0))
    (.new plan.planId plan.planFingerprint)

def exceedingRun : List GraphOp :=
  [.markReadyNodesRunnable 1, .startNode ⟨"loop"⟩ 2, .startIteratorIteration ⟨"loop"⟩ 3,
    .completeIteratorIteration ⟨"loop"⟩ 0 4, .startIteratorIteration ⟨"loop"⟩ 5]

def finishingRun : List GraphOp :=
  [.markReadyNodesRunnable 1, .startNode ⟨"loop"⟩ 2, .completeIteratorNode ⟨"loop"⟩ 3,
    .markReadyNodesRunnable 4, .startNode ⟨"finish"⟩ 5, .completeNode ⟨"finish"⟩ 6]

end Rakka.AgentWorkflow
