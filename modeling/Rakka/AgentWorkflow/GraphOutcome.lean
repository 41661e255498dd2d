import Rakka.AgentWorkflow.GraphRuns

/-! Where runs of a graph come to rest: the outcome does not depend on the order of the
transitions, and no node is left pending in a plan that feeds every node. -/

namespace Rakka.AgentWorkflow
open Foundation Dataflow
variable {selection : AgentCompiledNodeId → List AgentCompiledEdgeId} {edge : AgentCompiledPlanEdge}

variable {plan : AgentCompiledExecutionPlan} {state : AgentGraphRunState}
  {nodeId : AgentCompiledNodeId}

def Idle (state : AgentGraphRunState) : Prop :=
  ∀ i status, state.statusOf i = some status → ¬ Busy status

lemma Sound.view_cases (hsound : Sound state) (hidle : Idle state) (i : AgentCompiledNodeId) :
    (state.view i = .pending ∧ (state.statusOf i = none ∨ state.statusOf i = some .pending)) ∨
      (∃ choice, state.view i = .done choice ∧ state.statusOf i = some .completed) ∨
      (state.view i = .skipped ∧ state.statusOf i = some .skipped) := by
  cases hi : state.statusOf i with
  | none => exact .inl ⟨view_eq_pending_iff.mpr (.inl hi), .inl rfl⟩
  | some status =>
    obtain ⟨hfailed, hcancelled, hterminal⟩ := hsound.live i status hi
    have hbusy := hidle i status hi
    cases status with
    | pending => exact .inl ⟨view_eq_pending_iff.mpr (.inr hi), .inr rfl⟩
    | runnable => exact absurd (.inl rfl) hbusy
    | running => exact absurd (.inr (.inl rfl)) hbusy
    | waiting => exact absurd (.inr (.inr rfl)) hbusy
    | completed => exact .inr (.inl ⟨_, view_eq_done_iff.mpr ⟨hi, rfl⟩, rfl⟩)
    | skipped => exact .inr (.inr ⟨view_eq_skipped_iff.mpr hi, rfl⟩)
    | failed => exact absurd rfl hfailed
    | cancelled => exact absurd rfl hcancelled
    | terminal => exact absurd rfl hterminal

def BranchesSelected (plan : AgentCompiledExecutionPlan) (state : AgentGraphRunState) : Prop :=
  ∀ node ∈ plan.nodes, node.kind = .branch → state.statusOf node.nodeId = some .completed →
    ∃ selected, state.selectedBranchPaths[node.nodeId]? = some selected

lemma Tracked.complete (h : Tracked plan state) (hidle : Idle state)
    (hquiet : computeReadyNodes plan state = .ok []) (hbranches : BranchesSelected plan state) :
    (network plan).Complete state.view := by
  refine ⟨fun i hactive => ?_, fun i hpending hready => ?_, fun hselected => ?_⟩
  · rcases h.sound.view_cases hidle i with ⟨hi, -⟩ | ⟨_, hi, -⟩ | ⟨hi, -⟩ <;>
      rw [hi] at hactive <;> cases hactive
  · obtain ⟨node, hnode, hready⟩ := hready
    obtain ⟨hmem, rfl⟩ := mem_nodes_of_nodeById hnode
    obtain ⟨nodeState, hlookup⟩ := h.hosted.states node hmem
    have hstatus : state.statusOf node.nodeId = some .pending := by
      refine (view_eq_pending_iff.mp hpending).resolve_left (fun hnone => ?_)
      rw [AgentGraphRunState.statusOf_of_lookup hlookup] at hnone
      cases hnone
    simp only [computeReadyNodes, bind_eq_ok, exists_unit] at hquiet
    obtain ⟨-, hquiet⟩ := hquiet
    split_ifs at hquiet with hended
    · have hresolved := h.ended (Option.isSome_iff_ne_none.mp hended) _ _ hstatus
      cases hresolved
    · obtain ⟨b, hb⟩ := checked_of_pendingNodesWhere hquiet (mem_sortedNodes.mpr hmem) hstatus
      have htrue := (dependenciesSatisfied_iff h.sound hb).mpr hready
      subst htrue
      have hmarked := (mem_pendingNodesWhere hquiet).mpr
        ⟨node, mem_sortedNodes.mpr hmem, rfl, hstatus, hb⟩
      cases hmarked
  · rcases h.settled with ⟨node, hmem, hkind, hcompleted, hnone⟩ | hsettled
    · obtain ⟨selected, hsome⟩ := hbranches node hmem hkind hcompleted
      rw [hnone] at hsome
      cases hsome
    · exact hsettled hselected

/-! ### Order of the transitions -/

/-- Nothing runs, failed, was cancelled or ended the graph, and each completed branch took its
assigned edges. -/
structure RestsWith (plan : AgentCompiledExecutionPlan)
    (selection : AgentCompiledNodeId → List AgentCompiledEdgeId) (state : AgentGraphRunState) : Prop where
  unspoiled : ¬ Spoiled state
  idle : Idle state
  quiet : computeReadyNodes plan state = .ok []
  selected : ∀ node ∈ plan.nodes, node.kind = .branch → state.statusOf node.nodeId = some .completed →
    state.selectedBranchPaths[node.nodeId]? = some (sortedDistinct (selection node.nodeId))

lemma RestsWith.branchesSelected (h : RestsWith plan selection state) :
    BranchesSelected plan state :=
  fun node hmem hkind hcompleted => ⟨_, h.selected node hmem hkind hcompleted⟩

def choiceOf (plan : AgentCompiledExecutionPlan)
    (selection : AgentCompiledNodeId → List AgentCompiledEdgeId) (nodeId : AgentCompiledNodeId) : Choice :=
  match plan.nodeById nodeId with
  | some node => if node.kind = .branch then some (sortedDistinct (selection nodeId)) else none
  | none => none

lemma RestsWith.chosen (h : RestsWith plan selection state) (htracked : Tracked plan state) :
    Network.Chosen (choiceOf plan selection) state.view := by
  intro i choice hi
  obtain ⟨hcompleted, rfl⟩ := view_eq_done_iff.mp hi
  obtain ⟨nodeState, hlookup, -⟩ := Option.map_eq_some_iff.mp hcompleted
  obtain ⟨node, hmem, rfl⟩ := htracked.hosted.known i nodeState hlookup
  have hnode := nodeById_of_mem htracked.hosted.wellFormed hmem
  rw [choiceOf, hnode]
  dsimp only
  split_ifs with hkind
  · exact h.selected node hmem hkind hcompleted
  · refine Option.eq_none_iff_forall_ne_some.mpr (fun selected hselected => ?_)
    obtain ⟨other, hother, hbranch⟩ := htracked.branches _ _ hselected
    rw [hnode] at hother
    cases hother
    exact hkind hbranch

lemma statusOf_eq_of_view {other : AgentGraphRunState} (h : Tracked plan state)
    (hother : Tracked plan other) (hidle : Idle state) (hidle' : Idle other)
    (hview : state.view = other.view) (i : AgentCompiledNodeId) : state.statusOf i = other.statusOf i := by
  have hdomain : state.statusOf i = none ↔ other.statusOf i = none := by
    have hside : ∀ {s t : AgentGraphRunState}, Tracked plan s → Tracked plan t →
        s.statusOf i = none → t.statusOf i = none := by
      intro s t hs ht hnone
      cases ht' : t.statusOf i with
      | none => rfl
      | some status =>
        obtain ⟨nodeState, hlookup, -⟩ := Option.map_eq_some_iff.mp ht'
        obtain ⟨node, hmem, rfl⟩ := ht.hosted.known i nodeState hlookup
        obtain ⟨nodeState', hlookup'⟩ := hs.hosted.states node hmem
        rw [AgentGraphRunState.statusOf_of_lookup hlookup'] at hnone
        cases hnone
    exact ⟨hside h hother, hside hother h⟩
  have hi := congrFun hview i
  rcases h.sound.view_cases hidle i with ⟨hv, hs⟩ | ⟨_, hv, hs⟩ | ⟨hv, hs⟩ <;>
    rcases hother.sound.view_cases hidle' i with ⟨hv', hs'⟩ | ⟨_, hv', hs'⟩ | ⟨hv', hs'⟩ <;>
    rw [hv, hv'] at hi
  case inl.inl =>
    rcases hs with hs | hs
    · rw [hs, hdomain.mp hs]
    · refine hs.trans (Eq.symm (hs'.resolve_left (fun hnone => ?_)))
      rw [hdomain.mpr hnone] at hs
      cases hs
  all_goals first | exact hs.trans hs'.symm | cases hi

/-- Runs that come to rest with the same branch selections leave every node with the same status. -/
theorem outcome_independent_of_order {selection : AgentCompiledNodeId → List AgentCompiledEdgeId}
    {now now' : AgentTimestampMillis} {initial initial' final final' : AgentGraphRunState}
    {ops ops' : List GraphOp} (hinit : initializeState plan now = .ok initial)
    (hinit' : initializeState plan now' = .ok initial') (hrun : runGraph plan initial ops = final)
    (hrun' : runGraph plan initial' ops' = final') (hrests : RestsWith plan selection final)
    (hrests' : RestsWith plan selection final') (nodeId : AgentCompiledNodeId) :
    final.statusOf nodeId = final'.statusOf nodeId := by
  have htracked : Tracked plan final := by
    rw [← hrun] at hrests ⊢
    exact (run_tracked hinit ops).resolve_right (fun hended => hrests.unspoiled hended.1)
  have htracked' : Tracked plan final' := by
    rw [← hrun'] at hrests' ⊢
    exact (run_tracked hinit' ops').resolve_right (fun hended => hrests'.unspoiled hended.1)
  have hcomplete := htracked.complete hrests.idle hrests.quiet hrests.branchesSelected
  have hcomplete' := htracked'.complete hrests'.idle hrests'.quiet hrests'.branchesSelected
  have hview := Network.confluent htracked.steps htracked'.steps hcomplete hcomplete'
    (hrests.chosen htracked) (hrests'.chosen htracked')
  exact statusOf_eq_of_view htracked htracked' hrests.idle hrests'.idle hview nodeId

lemma forall_statusOf {P : AgentGraphNodeStatus → Prop}
    (h : ∀ entry ∈ state.nodeStates.toList, P entry.2.status) (i : AgentCompiledNodeId)
    (status : AgentGraphNodeStatus) (hi : state.statusOf i = some status) : P status := by
  obtain ⟨nodeState, hlookup, rfl⟩ := Option.map_eq_some_iff.mp hi
  exact h (i, nodeState) (Std.ExtTreeMap.mem_toList_iff_getElem?_eq_some.mpr hlookup)

instance (status : AgentGraphNodeStatus) : Decidable (Busy status) :=
  inferInstanceAs (Decidable (_ ∨ _ ∨ _))

def routePlan : AgentCompiledExecutionPlan :=
  planOf ["route", "audit"]
    [(relayNode "route" .branch).outputPort (.new "end" .output "json"), relayNode "left" .transform,
      finishNode, relayNode "audit" .transform]
    [.new "e1" "route" "out" "left" "in", .new "e2" "route" "end" "finish" "in"]

def routeFirst : List GraphOp :=
  [.markReadyNodesRunnable 1, .startNode ⟨"route"⟩ 2, .completeBranchNode ⟨"route"⟩ [⟨"e1"⟩] 3,
    .markReadyNodesRunnable 4, .startNode ⟨"left"⟩ 5, .completeNode ⟨"left"⟩ 6, .startNode ⟨"audit"⟩ 7,
    .completeNode ⟨"audit"⟩ 8]

def auditFirst : List GraphOp :=
  [.markReadyNodesRunnable 1, .startNode ⟨"audit"⟩ 2, .completeNode ⟨"audit"⟩ 3,
    .startNode ⟨"route"⟩ 4, .waitNode ⟨"route"⟩ .signal 5,
    .parkWaitingNode ⟨"route"⟩ .signal "unknown" 6, .resumeParkedNode ⟨"route"⟩ 7,
    .completeBranchNode ⟨"route"⟩ [⟨"e1"⟩] 8, .markReadyNodesRunnable 9, .startNode ⟨"left"⟩ 10,
    .completeNode ⟨"left"⟩ 11]

lemma restsWith_of_entries (hentries : ∀ entry ∈ state.nodeStates.toList, ¬ Busy entry.2.status ∧
      entry.2.status ≠ .failed ∧ entry.2.status ≠ .cancelled ∧ entry.2.status ≠ .terminal)
    (hquiet : computeReadyNodes plan state = .ok [])
    (hselected : ∀ node ∈ plan.nodes, node.kind = .branch →
      state.statusOf node.nodeId = some .completed →
      state.selectedBranchPaths[node.nodeId]? = some (sortedDistinct (selection node.nodeId))) :
    RestsWith plan selection state := by
  have hall := forall_statusOf (P := fun status => ¬ Busy status ∧ status ≠ .failed ∧
    status ≠ .cancelled ∧ status ≠ .terminal) hentries
  refine ⟨?_, fun i status hi => (hall i status hi).1, hquiet, hselected⟩
  rintro ⟨i, hi | hi | hi⟩
  · exact (hall i _ hi).2.1 rfl
  · exact (hall i _ hi).2.2.1 rfl
  · exact (hall i _ hi).2.2.2 rfl

theorem routes_agree : (∀ i, (runGraph routePlan (freshState routePlan) routeFirst).statusOf i =
      (runGraph routePlan (freshState routePlan) auditFirst).statusOf i) ∧
    (runGraph routePlan (freshState routePlan) routeFirst).statusOf ⟨"finish"⟩ = some .skipped := by
  have hinit : initializeState routePlan 0 = .ok (freshState routePlan) :=
    initializeState_eq_ok.mpr ⟨by decide +kernel, rfl⟩
  have hfirst : RestsWith routePlan (fun _ => [⟨"e1"⟩])
      (runGraph routePlan (freshState routePlan) routeFirst) :=
    restsWith_of_entries (by decide +kernel) (by decide +kernel) (by decide +kernel)
  have hsecond : RestsWith routePlan (fun _ => [⟨"e1"⟩])
      (runGraph routePlan (freshState routePlan) auditFirst) :=
    restsWith_of_entries (by decide +kernel) (by decide +kernel) (by decide +kernel)
  exact ⟨outcome_independent_of_order hinit hinit rfl rfl hfirst hsecond, by decide +kernel⟩

/-! ### Nodes left pending -/

/-- Every node apart from the entries has an incoming edge, and every join one into a
required port. -/
def Fed (plan : AgentCompiledExecutionPlan) : Prop :=
  ∀ node ∈ plan.nodes, node.nodeId ∉ plan.entryNodeIds →
    plan.incomingEdges node.nodeId ≠ [] ∧ (node.kind = .join → requiredIncomingEdges plan node ≠ [])

instance (plan : AgentCompiledExecutionPlan) : Decidable (Fed plan) :=
  inferInstanceAs (Decidable (∀ node ∈ plan.nodes, _))

def Feeds (plan : AgentCompiledExecutionPlan) (source target : AgentCompiledNodeId) : Prop :=
  ∃ edge ∈ plan.edges, edge.sourceNodeId = source ∧ edge.targetNodeId = target

lemma mem_incomingEdges :
    edge ∈ plan.incomingEdges nodeId ↔ edge ∈ plan.edges ∧ edge.targetNodeId = nodeId := by
  rw [AgentCompiledExecutionPlan.incomingEdges, List.mem_insertionSort, List.mem_filter, beq_iff_eq]

lemma feeds_wellFounded (hplan : WellFormed plan) : WellFounded (Feeds plan) := by
  obtain ⟨rank, hrank⟩ := hplan.acyclic
  -- the ranks fall along an edge and the sources are finitely many, so the distance to the
  -- highest rank of a source falls against the edges
  let top := (plan.edges.map (fun edge => rank edge.sourceNodeId)).sum
  refine Subrelation.wf ?_ (measure (fun i => top - rank i)).wf
  rintro source target ⟨edge, hedge, rfl, rfl⟩
  have hle : rank edge.sourceNodeId ≤ top :=
    List.single_le_sum (fun _ _ => Nat.zero_le _) _ (List.mem_map_of_mem hedge)
  have hlt := hrank edge hedge
  show top - rank edge.sourceNodeId < top - rank edge.targetNodeId
  omega

lemma edge_decided (h : Tracked plan state) (hidle : Idle state) (hedge : edge ∈ plan.edges)
    (hsettled : state.view edge.sourceNodeId ≠ .pending) :
    EdgeSatisfied plan state.view edge ∨ EdgeBlocked plan state.view edge := by
  obtain ⟨node, hmem, hid⟩ := h.hosted.wellFormed.sources edge hedge
  have hnode : plan.nodeById edge.sourceNodeId = some node :=
    hid ▸ nodeById_of_mem h.hosted.wellFormed hmem
  rcases h.sound.view_cases hidle edge.sourceNodeId with ⟨hpending, -⟩ | ⟨choice, hdone, -⟩ | ⟨hskipped, -⟩
  · exact absurd hpending hsettled
  · by_cases hselected : node.kind = .branch → ∃ selected, choice = some selected ∧ edge.edgeId ∈ selected
    · exact .inl ⟨node, choice, hnode, hdone, hselected⟩
    · obtain ⟨hkind, hunselected⟩ := Classical.not_imp.mp hselected
      exact .inr (.inr ⟨node, choice, hnode, hkind, hdone,
        fun selected hchoice hmem => hunselected ⟨selected, hchoice, hmem⟩⟩)
  · exact .inr (.inl hskipped)

lemma branchSelected_of_blocked (h : Tracked plan state) (hbranches : BranchesSelected plan state)
    (hblocked : EdgeBlocked plan state.view edge) : BranchSelected state.view := by
  rcases hblocked with hskipped | ⟨node, choice, hnode, hkind, hdone, -⟩
  · exact ((Network.justified_pending.steps h.steps).skipped _ hskipped).2
  · obtain ⟨hmem, hid⟩ := mem_nodes_of_nodeById hnode
    obtain ⟨hcompleted, hchoice⟩ := view_eq_done_iff.mp hdone
    obtain ⟨selected, hselected⟩ := hbranches node hmem hkind (by rw [hid, hcompleted])
    refine ⟨edge.sourceNodeId, selected, ?_⟩
    rw [hdone, ← hchoice, ← hid, hselected]

theorem node_decided (h : Tracked plan state) (hidle : Idle state) (hfed : Fed plan)
    (hbranches : BranchesSelected plan state) {node : AgentCompiledPlanNode} (hnode : node ∈ plan.nodes)
    (hsources : ∀ source, Feeds plan source node.nodeId → state.view source ≠ .pending) :
    (network plan).ready state.view node.nodeId ∨
      (network plan).blocked state.view node.nodeId ∧ (network plan).trigger state.view := by
  have hlookup := nodeById_of_mem h.hosted.wellFormed hnode
  by_cases hentry : node.nodeId ∈ plan.entryNodeIds
  · exact .inl ⟨node, hlookup, by rw [NodeReady, if_pos hentry]; trivial⟩
  obtain ⟨hincoming, hjoined⟩ := hfed node hnode hentry
  have hdecided : ∀ edge ∈ plan.incomingEdges node.nodeId,
      EdgeSatisfied plan state.view edge ∨ EdgeBlocked plan state.view edge := by
    intro edge hedge
    obtain ⟨hmem, htarget⟩ := mem_incomingEdges.mp hedge
    exact edge_decided h hidle hmem (hsources _ ⟨edge, hmem, rfl, htarget⟩)
  have hrequired : ∀ edge ∈ requiredIncomingEdges plan node,
      EdgeSatisfied plan state.view edge ∨ EdgeBlocked plan state.view edge :=
    fun edge hedge => hdecided edge (List.mem_of_mem_filter hedge)
  -- either some of the edges is satisfied or all of them are blocked
  have hsplit : ∀ edges : List AgentCompiledPlanEdge, (∀ edge ∈ edges,
      EdgeSatisfied plan state.view edge ∨ EdgeBlocked plan state.view edge) → edges ≠ [] →
      SomeSatisfied plan state.view edges ∨
        (∀ edge ∈ edges, EdgeBlocked plan state.view edge) ∧ BranchSelected state.view := by
    intro edges hedges hne
    by_cases hsome : ∃ edge ∈ edges, EdgeSatisfied plan state.view edge
    · exact .inl ⟨hedges, hsome⟩
    · have hall : ∀ edge ∈ edges, EdgeBlocked plan state.view edge := fun edge hedge =>
        (hedges edge hedge).resolve_left (fun hs => hsome ⟨edge, hedge, hs⟩)
      obtain ⟨edge, hedge⟩ := List.exists_mem_of_ne_nil edges hne
      exact .inr ⟨hall, branchSelected_of_blocked h hbranches (hall edge hedge)⟩
  suffices NodeReady plan state.view node ∨
      NodeBlocked plan state.view node ∧ BranchSelected state.view from
    this.imp (fun hready => ⟨node, hlookup, hready⟩)
      (fun hblocked => ⟨⟨hentry, node, hlookup, hblocked.1⟩, hblocked.2⟩)
  rw [NodeReady, NodeBlocked, if_neg hentry]
  split_ifs with hjoin hany hempty
  · exact (hsplit _ hrequired (hjoined hjoin)).imp (fun hs => hs.2)
      (fun hb => ⟨⟨hjoined hjoin, hb.1⟩, hb.2⟩)
  · exact (hsplit _ hrequired (hjoined hjoin)).imp id (fun hb => ⟨⟨hjoined hjoin, hb.1⟩, hb.2⟩)
  · exact hsplit _ hdecided hincoming
  · by_cases hall : ∀ edge ∈ requiredIncomingEdges plan node, EdgeSatisfied plan state.view edge
    · exact .inl hall
    · obtain ⟨edge, hedge, hunsatisfied⟩ : ∃ edge ∈ requiredIncomingEdges plan node,
          ¬ EdgeSatisfied plan state.view edge := by simpa using hall
      have hblocked := (hrequired edge hedge).resolve_left hunsatisfied
      exact .inr ⟨⟨edge, hedge, hblocked⟩, branchSelected_of_blocked h hbranches hblocked⟩

/-- A graph at rest has no pending node, provided the plan feeds every node and its branches
complete with a selection. -/
theorem resting_graph_has_no_pending_node {now : AgentTimestampMillis}
    {initial final : AgentGraphRunState} {ops : List GraphOp}
    (hinit : initializeState plan now = .ok initial) (hfed : Fed plan)
    (hrun : runGraph plan initial ops = final) (hlive : final.terminalStatus = none)
    (hidle : ∀ i status, final.statusOf i = some status →
      status ≠ .runnable ∧ status ≠ .running ∧ status ≠ .waiting)
    (hquiet : computeReadyNodes plan final = .ok []) (hbranches : BranchesSelected plan final) :
    ∀ i, final.statusOf i ≠ some .pending := by
  intro i hpending
  have htracked : Tracked plan final := by
    rw [← hrun] at hlive ⊢
    exact (run_tracked hinit ops).resolve_right (fun hended => hended.2 hlive)
  have hidle' : Idle final := by
    rintro j status hj (rfl | rfl | rfl)
    · exact (hidle j _ hj).1 rfl
    · exact (hidle j _ hj).2.1 rfl
    · exact (hidle j _ hj).2.2 rfl
  have hcomplete := htracked.complete hidle' hquiet hbranches
  have hnone : ∀ i, (∃ node ∈ plan.nodes, node.nodeId = i) → final.view i ≠ .pending := by
    refine hcomplete.no_pending (feeds_wellFounded htracked.hosted.wellFormed) ?_ ?_
    · rintro source target ⟨edge, hedge, rfl, rfl⟩ -
      exact htracked.hosted.wellFormed.sources edge hedge
    · rintro _ ⟨node, hnode, rfl⟩ hsources
      exact node_decided htracked hidle' hfed hbranches hnode hsources
  obtain ⟨nodeState, hlookup, -⟩ := Option.map_eq_some_iff.mp hpending
  exact hnone i (htracked.hosted.known i nodeState hlookup) (view_eq_pending_iff.mpr (.inr hpending))

def orphanPlan : AgentCompiledExecutionPlan :=
  planOf ["start"]
    [(AgentCompiledPlanNode.new "start" .input).outputPort (.new "out" .output "json"),
      (AgentCompiledPlanNode.new "orphan" .timerWait).outputPort (.new "out" .output "json"),
      finishNode.inputPort (.new "timer" .input "json")]
    [.new "e1" "start" "out" "finish" "in", .new "e2" "orphan" "out" "finish" "timer"]

def orphanRun : List GraphOp :=
  [.markReadyNodesRunnable 1, .startNode ⟨"start"⟩ 2, .completeNode ⟨"start"⟩ 3]

/-- The plan is accepted, and once its entry has completed nothing is at work or ready while
two nodes are pending. -/
theorem orphan_leaves_nodes_pending : initializeState orphanPlan 0 = .ok (freshState orphanPlan) ∧
      (runGraph orphanPlan (freshState orphanPlan) orphanRun).terminalStatus = none ∧
      (∀ i status, (runGraph orphanPlan (freshState orphanPlan) orphanRun).statusOf i = some status →
        status ≠ .runnable ∧ status ≠ .running ∧ status ≠ .waiting) ∧
      computeReadyNodes orphanPlan (runGraph orphanPlan (freshState orphanPlan) orphanRun) = .ok [] ∧
      (runGraph orphanPlan (freshState orphanPlan) orphanRun).statusOf ⟨"orphan"⟩ = some .pending ∧
      (runGraph orphanPlan (freshState orphanPlan) orphanRun).statusOf ⟨"finish"⟩ = some .pending := by
  refine ⟨initializeState_eq_ok.mpr ⟨by decide +kernel, rfl⟩, by decide +kernel, ?_,
    by decide +kernel, by decide +kernel, by decide +kernel⟩
  exact forall_statusOf (P := fun status => status ≠ .runnable ∧ status ≠ .running ∧ status ≠ .waiting)
    (by decide +kernel)

theorem route_leaves_no_node_pending :
    (runGraph routePlan (freshState routePlan) routeFirst).terminalStatus = none ∧
      ∀ i, (runGraph routePlan (freshState routePlan) routeFirst).statusOf i ≠ some .pending := by
  have hinit : initializeState routePlan 0 = .ok (freshState routePlan) :=
    initializeState_eq_ok.mpr ⟨by decide +kernel, rfl⟩
  have hidle : ∀ i status, (runGraph routePlan (freshState routePlan) routeFirst).statusOf i =
      some status → status ≠ .runnable ∧ status ≠ .running ∧ status ≠ .waiting :=
    forall_statusOf (P := fun status => status ≠ .runnable ∧ status ≠ .running ∧ status ≠ .waiting)
      (by decide +kernel)
  have hbranches : BranchesSelected routePlan (runGraph routePlan (freshState routePlan) routeFirst) := by
    have hsome : ∀ node ∈ routePlan.nodes, node.kind = .branch →
        ((runGraph routePlan (freshState routePlan) routeFirst).selectedBranchPaths[node.nodeId]?).isSome := by
      decide +kernel
    exact fun node hnode hkind _ => Option.isSome_iff_exists.mp (hsome node hnode hkind)
  have hlive : (runGraph routePlan (freshState routePlan) routeFirst).terminalStatus = none := by
    decide +kernel
  exact ⟨hlive, resting_graph_has_no_pending_node hinit (by decide +kernel) rfl hlive hidle
    (by decide +kernel) hbranches⟩

end Rakka.AgentWorkflow
