import Rakka.AgentWorkflow.GraphLifecycle
import Rakka.Foundation.Dataflow

/-! The scheduler refines a network of nodes that wait for each other. The dependency checks
decide readiness and blocking in the network, and every transition that leaves the graph
running is a sequence of network steps. -/

namespace Rakka.AgentWorkflow
open Foundation Dataflow
variable {edge : AgentCompiledPlanEdge} {node : AgentCompiledPlanNode} {b : Bool}
  {view' : GraphView} {edges : List AgentCompiledPlanEdge}

abbrev Choice := Option (List AgentCompiledEdgeId)

abbrev GraphView := View AgentCompiledNodeId Choice

def AgentGraphRunState.view (state : AgentGraphRunState) : GraphView := fun nodeId =>
  match state.statusOf nodeId with
  | none | some .pending => .pending
  | some .completed => .done state.selectedBranchPaths[nodeId]?
  | some .skipped => .skipped
  | some .runnable | some .running | some .waiting | some .failed | some .cancelled
  | some .terminal => .active

variable {plan : AgentCompiledExecutionPlan} {state next : AgentGraphRunState}
  {nodeId : AgentCompiledNodeId}

/-! ### The network of a plan -/

def EdgeSatisfied (plan : AgentCompiledExecutionPlan) (view : GraphView)
    (edge : AgentCompiledPlanEdge) : Prop :=
  ∃ node choice, plan.nodeById edge.sourceNodeId = some node ∧
    view edge.sourceNodeId = .done choice ∧
    (node.kind = .branch → ∃ selected, choice = some selected ∧ edge.edgeId ∈ selected)

def EdgeBlocked (plan : AgentCompiledExecutionPlan) (view : GraphView)
    (edge : AgentCompiledPlanEdge) : Prop :=
  view edge.sourceNodeId = .skipped ∨
    ∃ node choice, plan.nodeById edge.sourceNodeId = some node ∧ node.kind = .branch ∧
      view edge.sourceNodeId = .done choice ∧
      ∀ selected, choice = some selected → edge.edgeId ∉ selected

def SomeSatisfied (plan : AgentCompiledExecutionPlan) (view : GraphView)
    (edges : List AgentCompiledPlanEdge) : Prop :=
  (∀ edge ∈ edges, EdgeSatisfied plan view edge ∨ EdgeBlocked plan view edge) ∧
    ∃ edge ∈ edges, EdgeSatisfied plan view edge

def NodeReady (plan : AgentCompiledExecutionPlan) (view : GraphView) (node : AgentCompiledPlanNode) :
    Prop :=
  if node.nodeId ∈ plan.entryNodeIds then True
  else if node.kind = .join then
    if waitsForAny (requiredIncomingEdges plan node) then
      ∃ edge ∈ requiredIncomingEdges plan node, EdgeSatisfied plan view edge
    else SomeSatisfied plan view (requiredIncomingEdges plan node)
  else if (requiredIncomingEdges plan node).isEmpty then
    SomeSatisfied plan view (plan.incomingEdges node.nodeId)
  else ∀ edge ∈ requiredIncomingEdges plan node, EdgeSatisfied plan view edge

def NodeBlocked (plan : AgentCompiledExecutionPlan) (view : GraphView)
    (node : AgentCompiledPlanNode) : Prop :=
  if node.kind = .join then
    requiredIncomingEdges plan node ≠ [] ∧
      ∀ edge ∈ requiredIncomingEdges plan node, EdgeBlocked plan view edge
  else if (requiredIncomingEdges plan node).isEmpty then
    ∀ edge ∈ plan.incomingEdges node.nodeId, EdgeBlocked plan view edge
  else ∃ edge ∈ requiredIncomingEdges plan node, EdgeBlocked plan view edge

lemma EdgeSatisfied.mono {view : GraphView} (hgrows : Grows view view')
    (h : EdgeSatisfied plan view edge) : EdgeSatisfied plan view' edge := by
  obtain ⟨node, choice, hnode, hdone, hselected⟩ := h
  exact ⟨node, choice, hnode, (hgrows _).1 choice hdone, hselected⟩

lemma EdgeBlocked.mono {view : GraphView} (hgrows : Grows view view')
    (h : EdgeBlocked plan view edge) : EdgeBlocked plan view' edge := by
  rcases h with hskipped | ⟨node, choice, hnode, hkind, hdone, hselected⟩
  · exact .inl ((hgrows _).2 hskipped)
  · exact .inr ⟨node, choice, hnode, hkind, (hgrows _).1 choice hdone, hselected⟩

lemma EdgeSatisfied.not_blocked {view : GraphView} (h : EdgeSatisfied plan view edge) :
    ¬ EdgeBlocked plan view edge := by
  obtain ⟨node, choice, hnode, hdone, hselected⟩ := h
  rintro (hskipped | ⟨node', choice', hnode', hkind, hdone', hunselected⟩)
  · rw [hdone] at hskipped
    cases hskipped
  · rw [hnode] at hnode'
    cases hnode'
    rw [hdone] at hdone'
    cases hdone'
    obtain ⟨selected, hchoice, hmem⟩ := hselected hkind
    exact hunselected selected hchoice hmem

lemma SomeSatisfied.mono {view : GraphView} (hgrows : Grows view view')
    (h : SomeSatisfied plan view edges) : SomeSatisfied plan view' edges :=
  ⟨fun edge hedge => (h.1 edge hedge).imp (.mono hgrows) (.mono hgrows),
    h.2.imp (fun _ hedge => hedge.imp_right (.mono hgrows))⟩

lemma NodeReady.mono {view : GraphView} (hgrows : Grows view view') (h : NodeReady plan view node)
    : NodeReady plan view' node := by
  unfold NodeReady at h ⊢
  split_ifs at h ⊢
  · exact h.imp (fun _ hedge => hedge.imp_right (.mono hgrows))
  · exact h.mono hgrows
  · exact h.mono hgrows
  · exact fun edge hedge => (h edge hedge).mono hgrows

lemma NodeBlocked.imp {view : GraphView}
    (himp : ∀ edge, EdgeBlocked plan view edge → EdgeBlocked plan view' edge)
    (h : NodeBlocked plan view node) : NodeBlocked plan view' node := by
  unfold NodeBlocked at h ⊢
  split_ifs at h ⊢
  · exact h.imp_right (fun hall edge hedge => himp edge (hall edge hedge))
  · exact fun edge hedge => himp edge (h edge hedge)
  · exact Exists.imp (fun edge hedge => hedge.imp_right (himp edge)) h

lemma NodeReady.not_blocked {view : GraphView} (h : NodeReady plan view node)
    (hentry : node.nodeId ∉ plan.entryNodeIds) : ¬ NodeBlocked plan view node := by
  intro hblocked
  unfold NodeReady at h
  unfold NodeBlocked at hblocked
  rw [if_neg hentry] at h
  split_ifs at h hblocked with hjoin hany hempty
  · obtain ⟨edge, hedge, hsatisfied⟩ := h
    exact hsatisfied.not_blocked (hblocked.2 edge hedge)
  · obtain ⟨edge, hedge, hsatisfied⟩ := h.2
    exact hsatisfied.not_blocked (hblocked.2 edge hedge)
  · obtain ⟨edge, hedge, hsatisfied⟩ := h.2
    exact hsatisfied.not_blocked (hblocked edge hedge)
  · obtain ⟨edge, hedge, hedgeBlocked⟩ := hblocked
    exact (h edge hedge).not_blocked hedgeBlocked

def BranchSelected (view : GraphView) : Prop := ∃ nodeId selected, view nodeId = .done (some selected)

def network (plan : AgentCompiledExecutionPlan) : Network AgentCompiledNodeId Choice where
  ready view nodeId := ∃ node, plan.nodeById nodeId = some node ∧ NodeReady plan view node
  blocked view nodeId := nodeId ∉ plan.entryNodeIds ∧
    ∃ node, plan.nodeById nodeId = some node ∧ NodeBlocked plan view node
  trigger view := BranchSelected view
  ready_mono hgrows _ h := h.imp (fun _ hnode => hnode.imp_right (.mono hgrows))
  blocked_mono hgrows _ h := h.imp_right (fun hex => hex.imp (fun _ hnode =>
    hnode.imp_right (.imp (fun _ hedge => hedge.mono hgrows))))
  trigger_mono hgrows h := h.imp (fun nodeId hex => hex.imp (fun selected => (hgrows nodeId).1 _))
  exclusive := by
    rintro view nodeId ⟨node, hnode, hready⟩ ⟨hentry, node', hnode', hblocked⟩
    rw [hnode] at hnode'
    cases hnode'
    rw [← (mem_nodes_of_nodeById hnode).2] at hentry
    exact hready.not_blocked hentry hblocked

/-! ### The checks decide the network -/

structure Sound (state : AgentGraphRunState) : Prop where
  live : ∀ nodeId status, state.statusOf nodeId = some status →
    status ≠ .failed ∧ status ≠ .cancelled ∧ status ≠ .terminal
  selected : ∀ (nodeId : AgentCompiledNodeId) selected,
    state.selectedBranchPaths[nodeId]? = some selected → state.statusOf nodeId = some .completed

lemma edgeSource_eq_ok {nodeState : AgentGraphNodeState}
    (h : edgeSource plan state edge = .ok (node, nodeState)) :
    plan.nodeById edge.sourceNodeId = some node ∧ node.nodeId = edge.sourceNodeId ∧
      state.statusOf edge.sourceNodeId = some nodeState.status := by
  unfold edgeSource at h
  cases hnode : plan.nodeById edge.sourceNodeId with
  | none =>
    rw [hnode] at h
    cases h
  | some found =>
    rw [hnode] at h
    cases hstate : state.nodeStates[edge.sourceNodeId]? with
    | none =>
      rw [hstate] at h
      cases h
    | some foundState =>
      rw [hstate] at h
      cases h
      exact ⟨rfl, (mem_nodes_of_nodeById hnode).2, AgentGraphRunState.statusOf_of_lookup hstate⟩

lemma view_eq_done_iff {choice : Choice} : state.view nodeId = .done choice ↔
      state.statusOf nodeId = some .completed ∧ state.selectedBranchPaths[nodeId]? = choice := by
  unfold AgentGraphRunState.view
  cases state.statusOf nodeId with
  | none => simp
  | some status => cases status <;> simp

lemma view_eq_skipped_iff : state.view nodeId = .skipped ↔ state.statusOf nodeId = some .skipped := by
  unfold AgentGraphRunState.view
  cases state.statusOf nodeId with
  | none => simp
  | some status => cases status <;> simp

section
variable (hsound : Sound state)
include hsound

lemma edgeSourceCompleted_iff (h : edgeSourceCompleted plan state edge = .ok b) :
    b = true ↔ EdgeSatisfied plan state.view edge := by
  simp only [edgeSourceCompleted, bind_eq_ok, Prod.exists] at h
  obtain ⟨node, nodeState, hsource, hb⟩ := h
  cases hb
  obtain ⟨hnode, hid, hstatus⟩ := edgeSource_eq_ok hsource
  obtain ⟨-, -, hterminal⟩ := hsound.live _ _ hstatus
  simp only [EdgeSatisfied, hnode, Option.some.injEq, view_eq_done_iff, hstatus,
    sourceSatisfiesDependency, edgeIsActive, hid, Bool.and_eq_true, Bool.or_eq_true, bne_iff_ne,
    beq_iff_eq, Option.any_eq_true, List.contains_iff_mem]
  constructor
  · rintro ⟨hactive, hdone⟩
    refine ⟨node, _, rfl, ⟨?_, rfl⟩, fun hkind => ?_⟩
    · rcases hdone with (hdone | hdone) | hdone
      · exact hdone
      · exact absurd hdone hterminal
      · exact hdone.2
    · exact hactive.resolve_left (fun hne => hne hkind)
  · rintro ⟨_, _, rfl, ⟨hdone, rfl⟩, hselected⟩
    refine ⟨?_, .inl (.inl hdone)⟩
    by_cases hkind : node.kind = .branch
    · exact .inr (hselected hkind)
    · exact .inl hkind

lemma edgePermanentlyUnsatisfied_iff (h : edgePermanentlyUnsatisfied plan state edge = .ok b) :
    b = true ↔ EdgeBlocked plan state.view edge := by
  simp only [edgePermanentlyUnsatisfied, bind_eq_ok, Prod.exists] at h
  obtain ⟨node, nodeState, hsource, hb⟩ := h
  cases hb
  obtain ⟨hnode, hid, hstatus⟩ := edgeSource_eq_ok hsource
  obtain ⟨-, hcancelled, hterminal⟩ := hsound.live _ _ hstatus
  simp only [EdgeBlocked, hnode, Option.some.injEq, view_eq_done_iff, view_eq_skipped_iff, hstatus,
    sourceNeverSatisfies, hid, Bool.and_eq_true, Bool.or_eq_true, beq_iff_eq, hcancelled, or_false]
  refine or_congr_right ?_
  constructor
  · rintro ⟨hkind, hunselected⟩
    cases hpaths : state.selectedBranchPaths[edge.sourceNodeId]? with
    | none =>
      rw [hpaths] at hunselected
      simp only [Bool.or_eq_true, beq_iff_eq, hterminal, or_false] at hunselected
      exact ⟨node, none, rfl, hkind, ⟨hunselected, rfl⟩, fun selected hselected => (nomatch hselected)⟩
    | some selected =>
      rw [hpaths] at hunselected
      have hcompleted := hsound.selected _ _ hpaths
      rw [hstatus] at hcompleted
      refine ⟨node, some selected, rfl, hkind, ⟨Option.some.inj hcompleted, rfl⟩, ?_⟩
      rintro _ ⟨⟩
      simpa using hunselected
  · rintro ⟨_, _, rfl, hkind, ⟨hdone, rfl⟩, hunselected⟩
    refine ⟨hkind, ?_⟩
    cases hpaths : state.selectedBranchPaths[edge.sourceNodeId]? with
    | none => simp [hdone]
    | some selected => simpa using hunselected selected hpaths

lemma settledWithCompleted_iff {found : Bool}
    (h : settledWithCompleted plan state found edges = .ok b) : b = true ↔
      (∀ edge ∈ edges, EdgeSatisfied plan state.view edge ∨ EdgeBlocked plan state.view edge) ∧
        (found = true ∨ ∃ edge ∈ edges, EdgeSatisfied plan state.view edge) := by
  induction edges generalizing found with
  | nil =>
    cases h
    simp
  | cons edge edges ih =>
    rw [settledWithCompleted, bind_eq_ok] at h
    obtain ⟨completed, hcompleted, hrest⟩ := h
    have hsatisfied := edgeSourceCompleted_iff hsound hcompleted
    rw [List.forall_mem_cons, List.exists_mem_cons_iff]
    cases completed with
    | true =>
      have hedge := hsatisfied.mp rfl
      rw [ih hrest]
      simp [hedge]
    | false =>
      have hedge : ¬ EdgeSatisfied plan state.view edge := fun hs => nomatch hsatisfied.mpr hs
      rw [bind_eq_ok] at hrest
      obtain ⟨unsatisfied, hunsatisfied, hrest⟩ := hrest
      have hblocked := edgePermanentlyUnsatisfied_iff hsound hunsatisfied
      cases unsatisfied with
      | true =>
        rw [ih hrest]
        simp [hedge, hblocked.mp rfl]
      | false =>
        cases hrest
        have hne : ¬ EdgeBlocked plan state.view edge := fun hs => nomatch hblocked.mpr hs
        simp [hedge, hne]

lemma someSatisfied_of_settled (h : settledWithCompleted plan state false edges = .ok b) :
    b = true ↔ SomeSatisfied plan state.view edges := by
  rw [settledWithCompleted_iff hsound h, SomeSatisfied]
  simp

lemma dependenciesSatisfied_iff (h : dependenciesSatisfied plan state node = .ok b) :
    b = true ↔ NodeReady plan state.view node := by
  have hedges : ∀ edge ∈ requiredIncomingEdges plan node, ∀ b,
      edgeSourceCompleted plan state edge = .ok b → (b = true ↔ EdgeSatisfied plan state.view edge) :=
    fun edge _ b hb => edgeSourceCompleted_iff hsound hb
  unfold dependenciesSatisfied joinDependenciesSatisfied optionalDependenciesSatisfied at h
  unfold NodeReady
  split_ifs at h ⊢
  · cases h
    simp
  · exact anyM_eq_ok hedges h
  · exact someSatisfied_of_settled hsound h
  · exact someSatisfied_of_settled hsound h
  · exact allM_eq_ok hedges h

lemma nodeShouldSkip_iff (h : nodeShouldSkip plan state node = .ok b) :
    b = true ↔ NodeBlocked plan state.view node := by
  have hedges : ∀ edges : List AgentCompiledPlanEdge, ∀ edge ∈ edges, ∀ b,
      edgePermanentlyUnsatisfied plan state edge = .ok b →
        (b = true ↔ EdgeBlocked plan state.view edge) :=
    fun edges edge _ b hb => edgePermanentlyUnsatisfied_iff hsound hb
  unfold nodeShouldSkip optionalDependenciesBlocked at h
  unfold NodeBlocked
  dsimp only at h
  split_ifs at h ⊢ with hjoin hempty
  · cases h
    simp [List.isEmpty_iff.mp hempty]
  · rw [bind_eq_ok] at h
    obtain ⟨completed, hcompleted, hrest⟩ := h
    have hsome := anyM_eq_ok (fun edge _ b hb => edgeSourceCompleted_iff hsound hb) hcompleted
    have hne : requiredIncomingEdges plan node ≠ [] := fun he => hempty (List.isEmpty_iff.mpr he)
    cases completed with
    | true =>
      cases hrest
      obtain ⟨edge, hedge, hsatisfied⟩ := hsome.mp rfl
      simp only [Bool.false_eq_true, false_iff, not_and, not_forall]
      exact fun _ => ⟨edge, hedge, hsatisfied.not_blocked⟩
    | false =>
      rw [allM_eq_ok (hedges _) hrest]
      exact ⟨fun hall => ⟨hne, hall⟩, fun hall => hall.2⟩
  · exact allM_eq_ok (hedges _) h
  · exact anyM_eq_ok (hedges _) h

end

end Rakka.AgentWorkflow
