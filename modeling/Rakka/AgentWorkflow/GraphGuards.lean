import Rakka.AgentWorkflow.GraphRuns

/-! When nodes start, and the iterations of an iterator: a node starts only while what it was
marked runnable for still holds, and iterations are numbered without gaps up to the bound. -/

namespace Rakka.AgentWorkflow
open Foundation Dataflow List
variable {now : AgentTimestampMillis} {its its' : List AgentGraphLoopInstanceState}
  {edge : AgentCompiledPlanEdge} {node : AgentCompiledPlanNode}
  {transition : AgentGraphSchedulerTransition}

variable {plan : AgentCompiledExecutionPlan} {state next : AgentGraphRunState}
  {nodeId : AgentCompiledNodeId}

/-! ### Starting -/

/-- The source of the edge has completed and, if it is a branch, has selected the edge. -/
def Supplied (plan : AgentCompiledExecutionPlan) (state : AgentGraphRunState)
    (edge : AgentCompiledPlanEdge) : Prop :=
  state.statusOf edge.sourceNodeId = some .completed ∧
    ∀ source, plan.nodeById edge.sourceNodeId = some source → source.kind = .branch →
      ∃ selected, state.selectedBranchPaths[edge.sourceNodeId]? = some selected ∧ edge.edgeId ∈ selected

/-- What the required edges of a node other than an entry must bring before it starts. -/
def Supported (plan : AgentCompiledExecutionPlan) (state : AgentGraphRunState)
    (node : AgentCompiledPlanNode) : Prop :=
  if node.kind = .join then
    (∃ edge ∈ requiredIncomingEdges plan node, Supplied plan state edge) ∧
      (waitsForAny (requiredIncomingEdges plan node) = false →
        ∀ edge ∈ requiredIncomingEdges plan node,
          Supplied plan state edge ∨ edgePermanentlyUnsatisfied plan state edge = .ok true)
  else ∀ edge ∈ requiredIncomingEdges plan node, Supplied plan state edge

lemma EdgeSatisfied.supplied (h : EdgeSatisfied plan state.view edge) :
    Supplied plan state edge := by
  obtain ⟨node, choice, hnode, hdone, hselected⟩ := h
  obtain ⟨hcompleted, rfl⟩ := view_eq_done_iff.mp hdone
  refine ⟨hcompleted, fun source hsource hkind => ?_⟩
  rw [hnode] at hsource
  cases hsource
  exact hselected hkind

lemma EdgeBlocked.unsatisfied (hhosted : Hosted plan state) (hsound : Sound state)
    (hedge : edge ∈ plan.edges) (h : EdgeBlocked plan state.view edge) :
    edgePermanentlyUnsatisfied plan state edge = .ok true := by
  obtain ⟨source, hmem, hid⟩ := hhosted.wellFormed.sources edge hedge
  obtain ⟨nodeState, hlookup⟩ := hhosted.states source hmem
  have hsource := nodeById_of_mem hhosted.wellFormed hmem
  rw [hid] at hsource hlookup
  have hok : edgePermanentlyUnsatisfied plan state edge =
      .ok (sourceNeverSatisfies state source nodeState edge) := by
    rw [edgePermanentlyUnsatisfied, edgeSource, hsource]
    dsimp only
    rw [hlookup]
    rfl
  rw [hok, (edgePermanentlyUnsatisfied_iff hsound hok).mpr h]

lemma NodeReady.supported (hhosted : Hosted plan state) (hsound : Sound state)
    (hentry : node.nodeId ∉ plan.entryNodeIds) (h : NodeReady plan state.view node) :
    Supported plan state node := by
  have hedge : ∀ edge ∈ requiredIncomingEdges plan node, edge ∈ plan.edges := fun edge hmem => by
    have hincoming := mem_of_mem_filter hmem
    rw [AgentCompiledExecutionPlan.incomingEdges, mem_insertionSort] at hincoming
    exact mem_of_mem_filter hincoming
  rw [NodeReady, if_neg hentry] at h
  unfold Supported
  split_ifs at h ⊢ with hjoin hany hempty
  · refine ⟨h.imp (fun _ => .imp_right EdgeSatisfied.supplied), fun hall => ?_⟩
    rw [hany] at hall
    cases hall
  · exact ⟨h.2.imp (fun _ => .imp_right EdgeSatisfied.supplied), fun _ edge hmem =>
      (h.1 edge hmem).imp EdgeSatisfied.supplied
        (EdgeBlocked.unsatisfied hhosted hsound (hedge edge hmem))⟩
  · rw [isEmpty_iff.mp hempty]
    exact fun edge hmem => absurd hmem not_mem_nil
  · exact fun edge hmem => (h edge hmem).supplied

lemma startNode_runnable (h : startNode plan state nodeId now = .ok transition) :
    state.terminalStatus = none ∧ state.statusOf nodeId = some .runnable ∧
      transition.state.statusOf nodeId = some .running := by
  simp only [startNode, bind_eq_ok, exists_unit, ensureNotTerminal_eq_ok, transitionNode_eq_ok] at h
  obtain ⟨hlive, -, _, -, _, ⟨old, hlookup, hstatus, rfl⟩, hstate⟩ := h
  cases hstate
  refine ⟨hlive, ?_, statusOf_setNode_self _⟩
  rw [AgentGraphRunState.statusOf_of_lookup hlookup, hstatus]

lemma Tracked.supported (h : Tracked plan state)
    (hstart : startNode plan state nodeId now = .ok transition)
    (hentry : nodeId ∉ plan.entryNodeIds) :
    ∃ node, plan.nodeById nodeId = some node ∧ Supported plan state node := by
  obtain ⟨-, hrunnable, -⟩ := startNode_runnable hstart
  have hactive := view_of_busy (.inl rfl) hrunnable
  obtain ⟨node, hnode, hready⟩ := (Network.justified_pending.steps h.steps).active nodeId hactive
  refine ⟨node, hnode, hready.supported h.hosted h.sound ?_⟩
  rwa [(mem_nodes_of_nodeById hnode).2]

/-! ### Skipped and started nodes -/

lemma statusStep_of_apply (op : GraphOp) {status : AgentGraphNodeStatus}
    (h : state.statusOf nodeId = some status) :
    ∃ status', (op.apply plan state).statusOf nodeId = some status' ∧ StatusStep status status' := by
  rcases GraphOp.apply_cases plan state op with hsame | ⟨-, hmove⟩
  · rw [hsame]
    exact ⟨status, h, .keep status⟩
  · obtain ⟨nodeState, hlookup, rfl⟩ := Option.map_eq_some_iff.mp h
    rcases hmove.nodesChange nodeId with ⟨hnone, -⟩ | ⟨old, new, hold, hnew, hchange⟩
    · rw [hnone] at hlookup
      cases hlookup
    · rw [hlookup] at hold
      cases hold
      exact ⟨new.status, AgentGraphRunState.statusOf_of_lookup hnew, hchange.status⟩

lemma runGraph_status {P : AgentGraphNodeStatus → Prop}
    (hstep : ∀ {status status'}, StatusStep status status' → P status → P status') (ops : List GraphOp)
    (h : ∃ status, state.statusOf nodeId = some status ∧ P status) :
    ∃ status, (runGraph plan state ops).statusOf nodeId = some status ∧ P status := by
  induction ops generalizing state with
  | nil => exact h
  | cons op ops ih =>
    obtain ⟨status, hstatus, hP⟩ := h
    obtain ⟨status', hstatus', hchange⟩ := statusStep_of_apply op hstatus
    exact ih ⟨status', hstatus', hstep hchange hP⟩

lemma runGraph_skipped (h : state.statusOf nodeId = some .skipped) (ops : List GraphOp) :
    (runGraph plan state ops).statusOf nodeId = some .skipped := by
  have hstep : ∀ {status status'}, StatusStep status status' → status = .skipped →
      status' = .skipped := by
    rintro _ _ hchange rfl
    cases hchange with
    | keep => rfl
    | cancel hunresolved => cases hunresolved
  obtain ⟨status, hstatus, rfl⟩ := runGraph_status hstep ops ⟨_, h, rfl⟩
  exact hstatus

lemma runGraph_started (h : state.statusOf nodeId = some .running) (ops : List GraphOp) :
    (runGraph plan state ops).statusOf nodeId ≠ some .skipped := by
  have hstep : ∀ {status status'}, StatusStep status status' →
      (status ≠ .pending ∧ status ≠ .skipped) → status' ≠ .pending ∧ status' ≠ .skipped := by
    intro _ _ hchange hold
    cases hchange with
    | keep => exact hold
    | ready | skip => exact absurd rfl hold.1
    | _ => exact ⟨nofun, nofun⟩
  obtain ⟨status, hstatus, -, hne⟩ := runGraph_status hstep ops ⟨_, h, nofun, nofun⟩
  rw [hstatus]
  exact fun he => hne (Option.some.inj he)

/-! ### Iterations -/

def iterationsOf (state : AgentGraphRunState) (nodeId : AgentCompiledNodeId) :
    List AgentGraphLoopInstanceState :=
  state.loopInstances.filter (fun loopInstance => loopInstance.nodeId == nodeId)

structure Settles (old new : AgentGraphLoopInstanceState) : Prop where
  nodeId : new.nodeId = old.nodeId
  index : new.iterationIndex = old.iterationIndex
  status : new.status = old.status ∨ new.status = .completed ∨ new.status = .cancelled

lemma Settles.refl (iteration : AgentGraphLoopInstanceState) : Settles iteration iteration :=
  ⟨rfl, rfl, .inl rfl⟩

lemma settles_filter (h : List.Forall₂ Settles its its') (nodeId : AgentCompiledNodeId) :
    List.Forall₂ Settles (its.filter (fun it => it.nodeId == nodeId))
      (its'.filter (fun it => it.nodeId == nodeId)) := by
  induction h with
  | nil => exact .nil
  | @cons old new olds news hhead _ ih =>
    rw [filter_cons, filter_cons, hhead.nodeId]
    split_ifs
    · exact .cons hhead ih
    · exact ih

/-- Iterations in the order they were opened: numbered from zero, at most one of them open. -/
structure Numbered (its : List AgentGraphLoopInstanceState) : Prop where
  indexes : its.map AgentGraphLoopInstanceState.iterationIndex = List.range its.length
  single : (its.filter (fun it => it.status.isUnresolved)).length ≤ 1
  statuses : ∀ it ∈ its, it.status = .running ∨ it.status = .completed ∨ it.status = .cancelled

lemma Numbered.settle (h : Numbered its) (hsettles : List.Forall₂ Settles its its') :
    Numbered its' := by
  have hindexes : its'.map AgentGraphLoopInstanceState.iterationIndex =
      its.map AgentGraphLoopInstanceState.iterationIndex := by
    clear h
    induction hsettles with
    | nil => rfl
    | cons hhead _ ih => rw [map_cons, map_cons, hhead.index, ih]
  have hopen : (its'.filter (fun it => it.status.isUnresolved)).length ≤
      (its.filter (fun it => it.status.isUnresolved)).length := by
    clear h hindexes
    induction hsettles with
    | nil => exact le_rfl
    | @cons old new _ _ hhead _ ih =>
      rw [filter_cons, filter_cons]
      rcases hhead.status with hsame | hdone | hdone
      · rw [hsame]
        split_ifs
        · exact Nat.succ_le_succ ih
        · exact ih
      all_goals
        rw [hdone]
        split_ifs with hnew
        all_goals first | cases hnew | exact ih.trans (Nat.le_succ _) | exact ih
  refine ⟨?_, hopen.trans h.single, fun it hit => ?_⟩
  · rw [hindexes, h.indexes, hsettles.length_eq]
  · obtain ⟨i, hi, rfl⟩ := mem_iff_getElem.mp hit
    have hold : i < its.length := hsettles.length_eq ▸ hi
    have hpair := hsettles.get hold hi
    rcases hpair.status with hsame | hdone | hdone
    · exact hsame ▸ h.statuses _ (getElem_mem hold)
    · exact .inr (.inl hdone)
    · exact .inr (.inr hdone)

lemma Numbered.opened (h : Numbered its) (hclosed : ∀ it ∈ its, it.status.isUnresolved = false)
    (nodeId : AgentCompiledNodeId) (now : AgentTimestampMillis) :
    Numbered (its ++ [⟨nodeId, its.length, .running, now, none⟩]) := by
  refine ⟨?_, ?_, forall_mem_concat h.statuses (.inl rfl)⟩
  · rw [map_append, h.indexes, length_append, length_singleton, range_succ]
    rfl
  · rw [filter_append, filter_eq_nil_iff.mpr (fun it hit => by simp [hclosed it hit])]
    exact le_rfl

lemma nextIndex_of_numbered (h : Numbered (iterationsOf state nodeId))
    (hbound : (iterationsOf state nodeId).length ≤ u32Max) :
    nextIteratorIterationIndex state nodeId = (iterationsOf state nodeId).length := by
  have hindexes := h.indexes
  generalize hn : (iterationsOf state nodeId).length = n at hindexes hbound ⊢
  unfold iterationsOf at hindexes
  rw [nextIteratorIterationIndex, hindexes]
  cases n with
  | zero => rfl
  | succ n =>
    have hmax : (List.range (n + 1)).max? = some n := by
      rw [List.max?_eq_some_iff]
      exact ⟨self_mem_range_succ, fun b hb => Nat.lt_succ_iff.mp (mem_range.mp hb)⟩
    rw [hmax]
    exact min_eq_left hbound

lemma closed_of_currentIndex (h : Numbered (iterationsOf state nodeId))
    (hnone : currentIteratorIterationIndex state nodeId = none) :
    ∀ it ∈ iterationsOf state nodeId, it.status.isUnresolved = false := by
  intro it hit
  obtain ⟨hmem, hid⟩ := mem_filter.mp hit
  rw [currentIteratorIterationIndex, List.min?_eq_none_iff, map_eq_nil_iff,
    filter_eq_nil_iff] at hnone
  have hclosed := hnone it hmem
  rcases h.statuses it hit with hs | hs | hs <;> rw [hs] at hclosed ⊢
  · simp [hid] at hclosed
  · rfl
  · rfl

/-- The iterations of every iterator are numbered and within its bound. -/
def Iterations (plan : AgentCompiledExecutionPlan) (state : AgentGraphRunState) : Prop :=
  ∀ nodeId, Numbered (iterationsOf state nodeId) ∧
    ∀ node policy, plan.nodeById nodeId = some node → node.iteratorPolicy = some policy →
      (iterationsOf state nodeId).length ≤ policy.maxIterations.toNat

lemma Iterations.settle (h : Iterations plan state)
    (hsettles : List.Forall₂ Settles state.loopInstances next.loopInstances) : Iterations plan next := by
  intro nodeId
  have hfiltered : List.Forall₂ Settles (iterationsOf state nodeId) (iterationsOf next nodeId) :=
    settles_filter hsettles nodeId
  refine ⟨(h nodeId).1.settle hfiltered, fun node policy hnode hpolicy => ?_⟩
  rw [← hfiltered.length_eq]
  exact (h nodeId).2 node policy hnode hpolicy

lemma settles_closeIteration (now : AgentTimestampMillis) (nodeId : AgentCompiledNodeId)
    (iterationIndex : ℕ) (its : List AgentGraphLoopInstanceState) :
    List.Forall₂ Settles its (closeIteration now nodeId iterationIndex its) := by
  induction its with
  | nil => exact .nil
  | cons head rest ih =>
    rw [closeIteration]
    split_ifs
    · exact .cons ⟨rfl, rfl, .inr (.inl rfl)⟩ (forall₂_same.mpr (fun it _ => .refl it))
    · exact .cons (.refl head) ih

lemma settles_cancelled (now : AgentTimestampMillis) : List.Forall₂ Settles state.loopInstances
      (cancelUnresolvedLoopInstances state now).1.loopInstances := by
  rw [cancelUnresolvedLoopInstances, forall₂_map_right_iff]
  refine forall₂_same.mpr (fun it _ => ?_)
  split_ifs
  · exact ⟨rfl, rfl, .inr (.inr rfl)⟩
  · exact .refl it

lemma Iterations.opened (h : Iterations plan state) {policy : AgentCompiledIteratorPolicy}
    (hnode : plan.nodeById nodeId = some node) (hpolicy : node.iteratorPolicy = some policy)
    (hnone : currentIteratorIterationIndex state nodeId = none)
    (hbound : nextIteratorIterationIndex state nodeId < policy.maxIterations.toNat)
    (hnext : next.loopInstances = state.loopInstances ++
      [⟨nodeId, nextIteratorIterationIndex state nodeId, .running, now, none⟩]) :
    Iterations plan next := by
  obtain ⟨hnumbered, hlength⟩ := h nodeId
  have hmax : policy.maxIterations.toNat ≤ u32Max := Nat.lt_succ_iff.mp policy.maxIterations.toNat_lt
  have hindex := nextIndex_of_numbered hnumbered ((hlength node policy hnode hpolicy).trans hmax)
  intro other
  by_cases hother : nodeId = other
  · subst hother
    have hits : iterationsOf next nodeId = iterationsOf state nodeId ++
        [⟨nodeId, (iterationsOf state nodeId).length, .running, now, none⟩] := by
      rw [iterationsOf, hnext, hindex, filter_append]
      simp [iterationsOf]
    rw [hits]
    refine ⟨hnumbered.opened (closed_of_currentIndex hnumbered hnone) nodeId now,
      fun node' policy' hnode' hpolicy' => ?_⟩
    rw [hnode] at hnode'
    cases hnode'
    rw [hpolicy] at hpolicy'
    cases hpolicy'
    rw [length_append, length_singleton]
    omega
  · have hits : iterationsOf next other = iterationsOf state other := by
      rw [iterationsOf, hnext, filter_append]
      simp [iterationsOf, hother]
    rw [hits]
    exact h other

lemma GraphMove.iterations {op : GraphOp} (hmove : GraphMove plan state op next)
    (h : Iterations plan state) : Iterations plan next := by
  have hsame : ∀ {last : AgentGraphRunState}, last.loopInstances = state.loopInstances →
      Iterations plan last := fun heq => h.settle (heq ▸ forall₂_same.mpr (fun it _ => .refl it))
  cases hmove with
  | unchanged => exact h
  | readied _ _ _ hmarked =>
    obtain ⟨_, rfl, -⟩ := markRunnable_foldlM hmarked
    exact hsame rfl
  | moved => exact hsame rfl
  | branched _ _ _ _ _ hskips =>
    obtain ⟨_, rfl⟩ := SkipPass.frame_of_passes (skipPasses_of_loop hskips)
    exact hsame rfl
  | iterated _ hmove =>
    cases hmove with
    | opened hnode hpolicy hnone hbound => exact h.opened hnode hpolicy hnone hbound rfl
    | closed => exact h.settle (settles_closeIteration _ _ _ _)
  | exceeded => exact hsame rfl
  | ended | cancelled => exact h.settle (settles_cancelled _)

lemma Iterations.run (h : Iterations plan state) (ops : List GraphOp) :
    Iterations plan (runGraph plan state ops) := by
  induction ops generalizing state with
  | nil => exact h
  | cons op ops ih =>
    refine ih ?_
    rcases GraphOp.apply_cases plan state op with hsame | ⟨-, hmove⟩
    · rwa [hsame]
    · exact hmove.iterations h

lemma iterations_initial {initial : AgentGraphRunState}
    (h : initializeState plan now = .ok initial) : Iterations plan initial := by
  obtain ⟨-, hinitial⟩ := initializeState_eq_ok.mp h
  obtain ⟨_, hframe⟩ := foldl_setNode_frame (fun node => .new node.nodeId node.kind now)
    plan.sortedNodes (.new plan.planId plan.planFingerprint)
  intro nodeId
  have hnone : iterationsOf initial nodeId = [] := by
    rw [← hinitial, hframe]
    rfl
  rw [hnone]
  exact ⟨⟨rfl, Nat.zero_le _, nofun⟩, fun _ _ _ _ => Nat.zero_le _⟩

/-- Nodes other than entries start only while they are supported and not if they are skipped, and
iterations are numbered within the bound with at most one of them open. -/
theorem starts_supported_and_iterations_numbered {now : AgentTimestampMillis}
    {initial before : AgentGraphRunState} {ops : List GraphOp}
    (hinit : initializeState plan now = .ok initial) (hrun : runGraph plan initial ops = before) :
    (∀ nodeId now transition, startNode plan before nodeId now = .ok transition →
      nodeId ∉ plan.entryNodeIds →
      ∃ node, plan.nodeById nodeId = some node ∧ Supported plan before node) ∧
    (∀ nodeId, before.statusOf nodeId = some .skipped → ∀ later now transition,
      startNode plan (runGraph plan before later) nodeId now ≠ .ok transition) ∧
    (∀ nodeId now transition, startNode plan before nodeId now = .ok transition → ∀ later,
      (runGraph plan transition.state later).statusOf nodeId ≠ some .skipped) ∧
    ∀ node ∈ plan.nodes, node.kind = .iterator → ∃ policy, node.iteratorPolicy = some policy ∧
      (iterationsOf before node.nodeId).map AgentGraphLoopInstanceState.iterationIndex =
        List.range (iterationsOf before node.nodeId).length ∧
      (iterationsOf before node.nodeId).length ≤ policy.maxIterations.toNat ∧
      ((iterationsOf before node.nodeId).filter (fun it => it.status.isUnresolved)).length ≤ 1 := by
  subst hrun
  refine ⟨fun nodeId now transition hstart hentry => ?_,
    fun nodeId hskipped later now transition hstart => ?_,
    fun nodeId now transition hstart later => ?_, fun node hnode hkind => ?_⟩
  · have hlive := (startNode_runnable hstart).1
    have htracked := (run_tracked hinit ops).resolve_right (fun hended => hended.2 hlive)
    exact htracked.supported hstart hentry
  · have hrunnable := (startNode_runnable hstart).2.1
    rw [runGraph_skipped hskipped later] at hrunnable
    cases hrunnable
  · exact runGraph_started (startNode_runnable hstart).2.2 later
  · have hplan := wellFormed_of_validate (initializeState_eq_ok.mp hinit).1
    obtain ⟨policy, hpolicy⟩ := hplan.bounded node hnode hkind
    obtain ⟨hnumbered, hbound⟩ := (iterations_initial hinit).run ops node.nodeId
    exact ⟨policy, hpolicy, hnumbered.indexes,
      hbound node policy (nodeById_of_mem hplan hnode) hpolicy, hnumbered.single⟩

def loopedRun : List GraphOp :=
  [.markReadyNodesRunnable 1, .startNode ⟨"loop"⟩ 2, .startIteratorIteration ⟨"loop"⟩ 3,
    .completeIteratorIteration ⟨"loop"⟩ 0 4, .completeIteratorNode ⟨"loop"⟩ 5,
    .markReadyNodesRunnable 6]

/-- The end starts once the loop, after its only iteration, has completed. -/
theorem loop_supports_finish :
    (iterationsOf (runGraph loopPlan (freshState loopPlan) loopedRun) ⟨"loop"⟩).length = 1 ∧
      ∃ node, loopPlan.nodeById ⟨"finish"⟩ = some node ∧
        Supported loopPlan (runGraph loopPlan (freshState loopPlan) loopedRun) node := by
  have hinit : initializeState loopPlan 0 = .ok (freshState loopPlan) :=
    initializeState_eq_ok.mpr ⟨by decide +kernel, rfl⟩
  have hruns := starts_supported_and_iterations_numbered hinit (Eq.refl (runGraph loopPlan _ loopedRun))
  have hstarts : (startNode loopPlan (runGraph loopPlan (freshState loopPlan) loopedRun) ⟨"finish"⟩
      7).toOption.isSome = true := by decide +kernel
  cases hstart : startNode loopPlan (runGraph loopPlan (freshState loopPlan) loopedRun) ⟨"finish"⟩ 7 with
  | error e =>
    rw [hstart] at hstarts
    cases hstarts
  | ok transition => exact ⟨by decide +kernel, hruns.1 _ 7 transition hstart (by decide +kernel)⟩

end Rakka.AgentWorkflow
