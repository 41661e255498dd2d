import Rakka.AgentWorkflow.GraphScheduler

/-! What an accepted transition of the scheduler does to the graph state. -/

namespace Rakka.AgentWorkflow
open Foundation
variable {node : AgentCompiledPlanNode} {u : Unit}
  {check : AgentCompiledPlanNode → SchedulerResult Bool}

variable {plan : AgentCompiledExecutionPlan} {state next : AgentGraphRunState}
  {nodeId : AgentCompiledNodeId}

/-! ### Checks that pass -/

lemma ensureNotTerminal_eq_ok : ensureNotTerminal state = .ok u ↔ state.terminalStatus = none := by
  unfold ensureNotTerminal
  cases state.terminalStatus <;> simp

lemma lookupNodeState_eq_ok {nodeState : AgentGraphNodeState} :
    lookupNodeState state nodeId = .ok nodeState ↔ state.nodeStates[nodeId]? = some nodeState := by
  unfold lookupNodeState
  cases state.nodeStates[nodeId]? <;> simp

lemma ensureKnownNode_eq_ok :
    ensureKnownNode plan nodeId = .ok node ↔ plan.nodeById nodeId = some node := by
  unfold ensureKnownNode
  cases plan.nodeById nodeId <;> simp

lemma mem_nodes_of_nodeById (h : plan.nodeById nodeId = some node) :
    node ∈ plan.nodes ∧ node.nodeId = nodeId :=
  ⟨List.mem_of_find?_eq_some h, by simpa using List.find?_some h⟩

lemma nodeById_of_mem (hplan : WellFormed plan) (hnode : node ∈ plan.nodes) :
    plan.nodeById node.nodeId = some node := by
  cases hfound : plan.nodeById node.nodeId with
  | none => exact absurd (List.find?_eq_none.mp hfound node hnode) (by simp)
  | some =>
    obtain ⟨hmem, hid⟩ := mem_nodes_of_nodeById hfound
    rw [List.inj_on_of_nodup_map hplan.nodup hmem hnode hid]

lemma mem_sortedNodes : node ∈ plan.sortedNodes ↔ node ∈ plan.nodes :=
  List.mem_insertionSort _

/-- The plan is sound and the state has an entry for exactly its nodes. -/
structure Hosted (plan : AgentCompiledExecutionPlan) (state : AgentGraphRunState) : Prop where
  wellFormed : WellFormed plan
  states : ∀ node ∈ plan.nodes, ∃ nodeState, state.nodeStates[node.nodeId]? = some nodeState
  known : ∀ nodeId nodeState, state.nodeStates[nodeId]? = some nodeState →
    ∃ node ∈ plan.nodes, node.nodeId = nodeId

lemma validatePlan_eq_ok :
    validatePlan plan = .ok u ↔ validateCompiledExecutionPlan plan = .ok () := by
  unfold validatePlan
  cases validateCompiledExecutionPlan plan <;> simp [Except.mapError]

lemma hosted_of_validatePlanState (h : validatePlanState plan state = .ok u) :
    Hosted plan state := by
  simp only [validatePlanState, bind_eq_ok, exists_unit, validatePlan_eq_ok, ensure_eq_ok,
    forM_eq_ok] at h
  obtain ⟨hplan, -, -, -, hstates, hknown⟩ := h
  refine ⟨wellFormed_of_validate hplan, fun node hnode => ?_, fun id nodeState hid => ?_⟩
  · exact Option.isSome_iff_exists.mp (hstates node (mem_sortedNodes.mpr hnode))
  · have hkey : id ∈ state.nodeStates.keys := by
      rw [Std.ExtTreeMap.mem_keys, Std.ExtTreeMap.mem_iff_isSome_getElem?, hid]
      rfl
    obtain ⟨node, hnode⟩ := Option.isSome_iff_exists.mp (hknown id hkey)
    exact ⟨node, mem_nodes_of_nodeById hnode⟩

lemma transitionNode_eq_ok {expected status : AgentGraphNodeStatus} {now : AgentTimestampMillis}
    {apply : AgentGraphNodeState → AgentGraphNodeState} :
    transitionNode state nodeId expected status now apply = .ok next ↔
      ∃ nodeState, state.nodeStates[nodeId]? = some nodeState ∧ nodeState.status = expected ∧
        (state.setNode nodeId
          (apply { nodeState with status := status, updatedAt := now })).advance = next := by
  simp only [transitionNode, bind_eq_ok, lookupNodeState_eq_ok, exists_unit, ensure_eq_ok]
  constructor
  · rintro ⟨nodeState, hlookup, hstatus, hnext⟩
    exact ⟨nodeState, hlookup, hstatus, Except.ok.inj hnext⟩
  · rintro ⟨nodeState, hlookup, hstatus, hnext⟩
    exact ⟨nodeState, hlookup, hstatus, congrArg _ hnext⟩

lemma ensureNodeStatus_eq_ok {expected requested : AgentGraphNodeStatus} :
    ensureNodeStatus state nodeId expected requested = .ok u ↔
      ∃ nodeState, state.nodeStates[nodeId]? = some nodeState ∧ nodeState.status = expected := by
  simp only [ensureNodeStatus, bind_eq_ok, lookupNodeState_eq_ok, ensure_eq_ok]

lemma ensureIteratorNode_eq_ok {policy : AgentCompiledIteratorPolicy} :
    ensureIteratorNode plan nodeId = .ok policy ↔
      ∃ node, plan.nodeById nodeId = some node ∧ node.kind = .iterator ∧
        node.iteratorPolicy = some policy := by
  simp only [ensureIteratorNode, bind_eq_ok, ensureKnownNode_eq_ok, exists_unit, ensure_eq_ok]
  refine exists_congr (fun node => and_congr_right (fun _ => and_congr_right (fun _ => ?_)))
  cases node.iteratorPolicy <;> simp

lemma checkPending_eq_ok {selected : Bool} : checkPending state check node = .ok selected ↔
      ∃ nodeState, state.nodeStates[node.nodeId]? = some nodeState ∧
        ((nodeState.status = .pending ∧ check node = .ok selected) ∨
          (nodeState.status ≠ .pending ∧ selected = false)) := by
  simp only [checkPending, bind_eq_ok, lookupNodeState_eq_ok]
  refine exists_congr (fun nodeState => and_congr_right (fun _ => ?_))
  split_ifs with hpending <;> simp [hpending, eq_comm]

section
variable {nodes : List AgentCompiledPlanNode} {ids : List AgentCompiledNodeId}
  (h : pendingNodesWhere state check nodes = .ok ids)
include h

lemma mem_pendingNodesWhere :
    nodeId ∈ ids ↔ ∃ node ∈ nodes, node.nodeId = nodeId ∧ state.statusOf nodeId = some .pending ∧
      check node = .ok true := by
  induction nodes generalizing ids with
  | nil =>
    cases h
    simp
  | cons head rest ih =>
    simp only [pendingNodesWhere, bind_eq_ok, checkPending_eq_ok] at h
    obtain ⟨selected, ⟨nodeState, hlookup, hselected⟩, ids', hrest, hids⟩ := h
    have hstatus := AgentGraphRunState.statusOf_of_lookup hlookup
    cases hids
    rw [List.exists_mem_cons_iff, ← ih hrest]
    rcases hselected with ⟨hpending, hcheck⟩ | ⟨hpending, rfl⟩
    · cases selected with
      | true =>
        rw [if_pos rfl, List.mem_cons]
        refine or_congr_left ⟨?_, fun ⟨hid, _⟩ => hid.symm⟩
        rintro rfl
        exact ⟨rfl, by rw [hstatus, hpending], hcheck⟩
      | false =>
        rw [if_neg Bool.false_ne_true]
        refine ⟨.inr, fun hor => hor.resolve_left ?_⟩
        rintro ⟨rfl, -, htrue⟩
        rw [hcheck] at htrue
        cases htrue
    · rw [if_neg Bool.false_ne_true]
      refine ⟨.inr, fun hor => hor.resolve_left ?_⟩
      rintro ⟨rfl, hstored, -⟩
      rw [hstatus] at hstored
      exact hpending (Option.some.inj hstored)

lemma checked_of_pendingNodesWhere (hnode : node ∈ nodes)
    (hpending : state.statusOf node.nodeId = some .pending) :
    ∃ selected, check node = .ok selected := by
  induction nodes generalizing ids with
  | nil => cases hnode
  | cons head rest ih =>
    simp only [pendingNodesWhere, bind_eq_ok, checkPending_eq_ok] at h
    obtain ⟨selected, ⟨nodeState, hlookup, hselected⟩, ids', hrest, -⟩ := h
    rcases List.mem_cons.mp hnode with rfl | hmem
    · rw [AgentGraphRunState.statusOf_of_lookup hlookup] at hpending
      have hstatus := Option.some.inj hpending
      exact ⟨selected, (hselected.resolve_right (fun hne => hne.1 hstatus)).2⟩
    · exact ih hrest hmem

end

/-! ### The moves -/

inductive NodeMove (plan : AgentCompiledExecutionPlan) :
    GraphOp → AgentCompiledNodeId → AgentGraphNodeState → AgentGraphNodeState → Prop where
  | start {nodeId : AgentCompiledNodeId} {now : AgentTimestampMillis} {old : AgentGraphNodeState}
      (hstatus : old.status = .runnable) :
      NodeMove plan (.startNode nodeId now) nodeId old
        { old with
          status := .running
          updatedAt := now
          attempt := old.attempt + 1
          startedAt := some now
          waitReason := none
          errorCode := none }
  | complete {nodeId : AgentCompiledNodeId} {now : AgentTimestampMillis} {old : AgentGraphNodeState}
      {node : AgentCompiledPlanNode} (hnode : plan.nodeById nodeId = some node)
      (hbranch : node.kind ≠ .branch) (hstatus : old.status = .running) :
      NodeMove plan (.completeNode nodeId now) nodeId old
        ({ old with status := .completed, updatedAt := now }.finish now)
  | completeIterator {nodeId : AgentCompiledNodeId} {now : AgentTimestampMillis}
      {old : AgentGraphNodeState} {node : AgentCompiledPlanNode}
      (hnode : plan.nodeById nodeId = some node) (hbranch : node.kind ≠ .branch)
      (hstatus : old.status = .running) :
      NodeMove plan (.completeIteratorNode nodeId now) nodeId old
        ({ old with status := .completed, updatedAt := now }.finish now)
  | wait {nodeId : AgentCompiledNodeId} {reason : AgentGraphWaitReason} {now : AgentTimestampMillis}
      {old : AgentGraphNodeState} (hstatus : old.status = .running) :
      NodeMove plan (.waitNode nodeId reason now) nodeId old
        { old with status := .waiting, updatedAt := now, waitReason := some reason }
  | park {nodeId : AgentCompiledNodeId} {reason : AgentGraphWaitReason} {causeCode : String}
      {now : AgentTimestampMillis} {old : AgentGraphNodeState} (hstatus : old.status = .waiting) :
      NodeMove plan (.parkWaitingNode nodeId reason causeCode now) nodeId old
        { old with
          status := .waiting
          updatedAt := now
          waitReason := some .reconciliation
          errorCode := some causeCode }
  | resume {nodeId : AgentCompiledNodeId} {now : AgentTimestampMillis} {old : AgentGraphNodeState}
      (hstatus : old.status = .waiting) :
      NodeMove plan (.resumeParkedNode nodeId now) nodeId old
        { old with
          status := .running
          updatedAt := now
          waitReason := none
          errorCode := none
          effectGeneration := min (old.effectGeneration + 1) u32Max }
  | completeWaiting {nodeId : AgentCompiledNodeId} {reason : AgentGraphWaitReason}
      {outputRefs refs : BTreeMap AgentCompiledPortId ArtifactRef} {now : AgentTimestampMillis}
      {old : AgentGraphNodeState} (hstatus : old.status = .waiting) :
      NodeMove plan (.completeWaitingNode nodeId reason outputRefs now) nodeId old
        { AgentGraphNodeState.finish now { old with status := .completed, updatedAt := now } with
          outputRefs := refs }

inductive EndMove : GraphOp → AgentCompiledNodeId → AgentGraphNodeState → AgentGraphNodeState →
    AgentGraphTerminalStatus → AgentTimestampMillis → Prop where
  | terminal {nodeId : AgentCompiledNodeId} {now : AgentTimestampMillis} {old : AgentGraphNodeState}
      (hstatus : old.status = .running) :
      EndMove (.completeNode nodeId now) nodeId old
        ({ old with status := .terminal, updatedAt := now }.finish now) .completed now
  | failWaiting {nodeId : AgentCompiledNodeId} {reason : AgentGraphWaitReason} {errorCode : String}
      {now : AgentTimestampMillis} {old : AgentGraphNodeState} (hstatus : old.status = .waiting) :
      EndMove (.failWaitingNode nodeId reason errorCode now) nodeId old
        ({ old with status := .failed, updatedAt := now }.fail now errorCode) .failed now
  | fail {nodeId : AgentCompiledNodeId} {errorCode : String} {now : AgentTimestampMillis}
      {old : AgentGraphNodeState} (hstatus : old.status = .running) :
      EndMove (.failNode nodeId errorCode now) nodeId old
        ({ old with status := .failed, updatedAt := now }.fail now errorCode) .failed now

inductive IterationMove (plan : AgentCompiledExecutionPlan) (state : AgentGraphRunState) :
    GraphOp → List AgentGraphLoopInstanceState → Prop where
  | opened {nodeId : AgentCompiledNodeId} {now : AgentTimestampMillis} {node : AgentCompiledPlanNode}
      {policy : AgentCompiledIteratorPolicy} (hnode : plan.nodeById nodeId = some node)
      (hpolicy : node.iteratorPolicy = some policy)
      (hnone : currentIteratorIterationIndex state nodeId = none)
      (hbound : nextIteratorIterationIndex state nodeId < policy.maxIterations.toNat) :
      IterationMove plan state (.startIteratorIteration nodeId now)
        (state.loopInstances ++
          [⟨nodeId, nextIteratorIterationIndex state nodeId, .running, now, none⟩])
  | closed {nodeId : AgentCompiledNodeId} {iterationIndex : ℕ} {now : AgentTimestampMillis} :
      IterationMove plan state (.completeIteratorIteration nodeId iterationIndex now)
        (closeIteration now nodeId iterationIndex state.loopInstances)

inductive GraphMove (plan : AgentCompiledExecutionPlan) (state : AgentGraphRunState) :
    GraphOp → AgentGraphRunState → Prop where
  | unchanged {op : GraphOp} : GraphMove plan state op state
  | readied {now : AgentTimestampMillis} {ready : List AgentCompiledNodeId}
      {marked : AgentGraphRunState} (hlive : state.terminalStatus = none) (hsome : ready ≠ [])
      (hready : computeReadyNodes plan state = .ok ready)
      (hmarked : ready.foldlM (markRunnable now) state = .ok marked) :
      GraphMove plan state (.markReadyNodesRunnable now) marked.advance
  | moved {op : GraphOp} {nodeId : AgentCompiledNodeId} {old new : AgentGraphNodeState}
      (hlive : state.terminalStatus = none) (hlookup : state.nodeStates[nodeId]? = some old)
      (hmove : NodeMove plan op nodeId old new) (version : ℕ) :
      GraphMove plan state op
        { (state.setNode nodeId new).advance with graphSchemaVersion := version }
  | branched {nodeId : AgentCompiledNodeId} {selectedEdgeIds : List AgentCompiledEdgeId}
      {now : AgentTimestampMillis} {node : AgentCompiledPlanNode} {old : AgentGraphNodeState}
      {skipped : AgentGraphRunState} {changed : List AgentCompiledNodeId}
      (hlive : state.terminalStatus = none) (hnode : plan.nodeById nodeId = some node)
      (hbranch : node.kind = .branch) (hlookup : state.nodeStates[nodeId]? = some old)
      (hstatus : old.status = .running)
      (hskips : propagateSkipsLoop plan now (plan.nodes.length + 1)
        { state.setNode nodeId ({ old with status := .completed, updatedAt := now }.finish now) with
          selectedBranchPaths :=
            state.selectedBranchPaths.insert nodeId (sortedDistinct selectedEdgeIds) } [] =
          .ok (skipped, changed)) :
      GraphMove plan state (.completeBranchNode nodeId selectedEdgeIds now) skipped.advance
  | iterated {op : GraphOp} {loopInstances : List AgentGraphLoopInstanceState}
      (hlive : state.terminalStatus = none) (hmove : IterationMove plan state op loopInstances) :
      GraphMove plan state op { state.advance with loopInstances := loopInstances }
  | exceeded {nodeId : AgentCompiledNodeId} {now : AgentTimestampMillis} {old : AgentGraphNodeState}
      (hlive : state.terminalStatus = none) (hlookup : state.nodeStates[nodeId]? = some old)
      (hstatus : old.status = .running)
      (hnone : currentIteratorIterationIndex state nodeId = none) :
      GraphMove plan state (.startIteratorIteration nodeId now)
        { (state.setNode nodeId ({ old with status := .failed, updatedAt := now }.fail now
              "iterator-bound-exceeded")).advance with terminalStatus := some .failed }
  | ended {op : GraphOp} {nodeId : AgentCompiledNodeId} {old new : AgentGraphNodeState}
      {status : AgentGraphTerminalStatus} {now : AgentTimestampMillis}
      (hlive : state.terminalStatus = none) (hlookup : state.nodeStates[nodeId]? = some old)
      (hmove : EndMove op nodeId old new status now) :
      GraphMove plan state op (endWith (state.setNode nodeId new).advance nodeId status now).state
  | cancelled {now : AgentTimestampMillis} (hlive : state.terminalStatus = none) :
      GraphMove plan state (.cancelGraphRun now)
        { (cancelUnresolvedLoopInstances (cancelUnresolvedNodes state now []).1 now).1.advance with
          terminalStatus := some .cancelled }

section Inversion
variable {transition : AgentGraphSchedulerTransition} {now : AgentTimestampMillis}

lemma markReadyNodesRunnable_move (h : markReadyNodesRunnable plan state now = .ok transition) :
    Hosted plan state ∧ GraphMove plan state (.markReadyNodesRunnable now) transition.state := by
  simp only [markReadyNodesRunnable, bind_eq_ok, exists_unit, ensureNotTerminal_eq_ok] at h
  obtain ⟨hlive, ready, hready, marked, hmarked, hstate⟩ := h
  cases hstate
  have hhosted : Hosted plan state := by
    simp only [computeReadyNodes, bind_eq_ok, exists_unit] at hready
    exact hosted_of_validatePlanState hready.1
  refine ⟨hhosted, ?_⟩
  cases ready with
  | nil =>
    cases hmarked
    exact .unchanged
  | cons => exact .readied hlive (List.cons_ne_nil _ _) hready hmarked

lemma completeNode_move (h : completeNode plan state nodeId now = .ok transition) :
    Hosted plan state ∧ GraphMove plan state (.completeNode nodeId now) transition.state := by
  simp only [completeNode, bind_eq_ok, exists_unit, ensureNotTerminal_eq_ok, ensureKnownNode_eq_ok,
    ensure_eq_ok] at h
  obtain ⟨hlive, hvalid, node, hnode, hbranch, -, hrest⟩ := h
  refine ⟨hosted_of_validatePlanState hvalid, ?_⟩
  split_ifs at hrest with hterminal
  · simp only [bind_eq_ok, transitionNode_eq_ok] at hrest
    obtain ⟨_, ⟨old, hlookup, hstatus, rfl⟩, hstate⟩ := hrest
    cases hstate
    exact .ended hlive hlookup (.terminal hstatus)
  · simp only [bind_eq_ok, transitionNode_eq_ok] at hrest
    obtain ⟨_, ⟨old, hlookup, hstatus, rfl⟩, hstate⟩ := hrest
    cases hstate
    exact .moved hlive hlookup (.complete hnode hbranch hstatus) _

lemma completeBranchNode_move {selectedEdgeIds : List AgentCompiledEdgeId}
    (h : completeBranchNode plan state nodeId selectedEdgeIds now = .ok transition) :
    Hosted plan state ∧
      GraphMove plan state (.completeBranchNode nodeId selectedEdgeIds now) transition.state := by
  simp only [completeBranchNode, bind_eq_ok, exists_unit, ensureNotTerminal_eq_ok,
    ensureKnownNode_eq_ok, ensure_eq_ok, ensureNodeStatus_eq_ok, lookupNodeState_eq_ok,
    validateBranchSelection, propagateSkips] at h
  obtain ⟨hlive, hvalid, node, hnode, hbranch, ⟨old, hlookup, hstatus⟩, selected,
    ⟨-, -, hselected⟩, old', hlookup', outcome, ⟨looped, hskips, houtcome⟩, hstate⟩ := h
  cases hselected
  cases houtcome
  cases hstate
  rw [hlookup] at hlookup'
  cases hlookup'
  exact ⟨hosted_of_validatePlanState hvalid, .branched hlive hnode hbranch hlookup hstatus hskips⟩

lemma startIteratorIteration_move
    (h : startIteratorIteration plan state nodeId now = .ok transition) :
    Hosted plan state ∧ GraphMove plan state (.startIteratorIteration nodeId now) transition.state := by
  simp only [startIteratorIteration, bind_eq_ok, exists_unit, ensureNotTerminal_eq_ok,
    ensureIteratorNode_eq_ok, ensureNodeStatus_eq_ok, ensure_eq_ok] at h
  obtain ⟨hlive, hvalid, policy, ⟨node, hnode, -, hpolicy⟩, -, hnone, hrest⟩ := h
  refine ⟨hosted_of_validatePlanState hvalid, ?_⟩
  split_ifs at hrest with hbound
  · simp only [bind_eq_ok, transitionNode_eq_ok] at hrest
    obtain ⟨_, ⟨old, hlookup, hstatus, rfl⟩, hstate⟩ := hrest
    cases hstate
    exact .exceeded hlive hlookup hstatus hnone
  · cases hrest
    exact .iterated hlive (.opened hnode hpolicy hnone (Nat.lt_of_not_le hbound))

end Inversion

lemma transition_move {op : GraphOp} {after : AgentGraphSchedulerTransition}
    (h : op.transition plan state = .ok after) :
    Hosted plan state ∧ GraphMove plan state op after.state := by
  cases op with
  | markReadyNodesRunnable => exact markReadyNodesRunnable_move h
  | completeNode => exact completeNode_move h
  | completeBranchNode => exact completeBranchNode_move h
  | startIteratorIteration => exact startIteratorIteration_move h
  | completeIteratorIteration =>
    simp only [GraphOp.transition, completeIteratorIteration, bind_eq_ok, exists_unit,
      ensureNotTerminal_eq_ok] at h
    obtain ⟨hlive, hvalid, _, -, -, hrest⟩ := h
    refine ⟨hosted_of_validatePlanState hvalid, ?_⟩
    split at hrest
    · cases hrest
    · simp only [bind_eq_ok, exists_unit] at hrest
      obtain ⟨-, hstate⟩ := hrest
      cases hstate
      exact .iterated hlive .closed
  | completeIteratorNode =>
    simp only [GraphOp.transition, completeIteratorNode, bind_eq_ok, exists_unit,
      ensureNotTerminal_eq_ok, ensureIteratorNode_eq_ok, transitionNode_eq_ok] at h
    obtain ⟨hlive, hvalid, policy, ⟨node, hnode, hkind, -⟩, -, -, -, _,
      ⟨old, hlookup, hstatus, rfl⟩, hstate⟩ := h
    cases hstate
    have hbranch : node.kind ≠ .branch := by
      rw [hkind]
      decide
    exact ⟨hosted_of_validatePlanState hvalid,
      .moved hlive hlookup (.completeIterator hnode hbranch hstatus) _⟩
  | cancelGraphRun =>
    simp only [GraphOp.transition, cancelGraphRun, bind_eq_ok, exists_unit] at h
    obtain ⟨hvalid, hrest⟩ := h
    refine ⟨hosted_of_validatePlanState hvalid, ?_⟩
    rcases hstatus : state.terminalStatus with _ | _ | _ | _
    all_goals
      rw [hstatus] at hrest
      cases hrest
    · exact .cancelled hstatus
    · exact .unchanged
  | parkWaitingNode =>
    simp only [GraphOp.transition, parkWaitingNode, bind_eq_ok, exists_unit, ensureNotTerminal_eq_ok,
      transitionNode_eq_ok] at h
    obtain ⟨hlive, hvalid, _, -, -, -, _, ⟨old, hlookup, hstatus, rfl⟩, hstate⟩ := h
    cases hstate
    exact ⟨hosted_of_validatePlanState hvalid, .moved hlive hlookup (.park hstatus) _⟩
  | startNode | waitNode | failNode =>
    simp only [GraphOp.transition, startNode, waitNode, failNode, bind_eq_ok, exists_unit,
      ensureNotTerminal_eq_ok, transitionNode_eq_ok] at h
    obtain ⟨hlive, hvalid, _, -, _, ⟨old, hlookup, hstatus, rfl⟩, hstate⟩ := h
    cases hstate
    refine ⟨hosted_of_validatePlanState hvalid, ?_⟩
    first
      | exact .moved hlive hlookup (by constructor; exact hstatus) _
      | exact .ended hlive hlookup (.fail hstatus)
  | resumeParkedNode | completeWaitingNode | failWaitingNode =>
    simp only [GraphOp.transition, resumeParkedNode, completeWaitingNode, failWaitingNode, bind_eq_ok,
      exists_unit, ensureNotTerminal_eq_ok, transitionNode_eq_ok] at h
    obtain ⟨hlive, hvalid, _, -, -, _, ⟨old, hlookup, hstatus, rfl⟩, hstate⟩ := h
    cases hstate
    refine ⟨hosted_of_validatePlanState hvalid, ?_⟩
    first
      | exact .moved hlive hlookup (by constructor; exact hstatus) _
      | exact .ended hlive hlookup (.failWaiting hstatus)

lemma GraphOp.apply_cases (plan : AgentCompiledExecutionPlan) (state : AgentGraphRunState)
    (op : GraphOp) :
    op.apply plan state = state ∨ Hosted plan state ∧ GraphMove plan state op (op.apply plan state) := by
  unfold GraphOp.apply
  cases h : op.transition plan state with
  | error => exact .inl rfl
  | ok => exact .inr (transition_move h)

end Rakka.AgentWorkflow
