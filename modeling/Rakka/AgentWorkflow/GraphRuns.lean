import Rakka.AgentWorkflow.GraphNetwork

/-! Runs of the scheduler seen as runs of the network of the plan, with what a skip
propagation leaves behind. -/

namespace Rakka.AgentWorkflow
open Foundation Dataflow AgentGraphRunState List Option
variable {now : AgentTimestampMillis} {old new : AgentGraphNodeState} {i : AgentCompiledNodeId}
  {op : GraphOp} {view : GraphView} {initial : AgentGraphRunState}

variable {plan : AgentCompiledExecutionPlan} {state next : AgentGraphRunState}
  {nodeId : AgentCompiledNodeId}

/-! ### Single steps -/

lemma statusOf_setNode_self (nodeState : AgentGraphNodeState) :
    (state.setNode nodeId nodeState).statusOf nodeId = some nodeState.status :=
  statusOf_of_lookup (nodeStates_setNode_self ..)

lemma statusOf_setNode_of_ne {other : AgentCompiledNodeId} (h : other ≠ nodeId)
    (nodeState : AgentGraphNodeState) :
    (state.setNode nodeId nodeState).statusOf other = state.statusOf other :=
  congrArg (Option.map _) (nodeStates_setNode_of_ne state h nodeState)

lemma view_congr (hstatus : next.statusOf i = state.statusOf i)
    (hselected : next.selectedBranchPaths[i]? = state.selectedBranchPaths[i]?) :
    next.view i = state.view i := by
  unfold view
  rw [hstatus, hselected]

def Busy (status : AgentGraphNodeStatus) : Prop :=
  status = .runnable ∨ status = .running ∨ status = .waiting

lemma view_of_busy {status : AgentGraphNodeStatus} (hbusy : Busy status)
    (h : state.statusOf nodeId = some status) : state.view nodeId = .active := by
  unfold view
  rcases hbusy with rfl | rfl | rfl <;> rw [h]

lemma view_of_pending (h : state.statusOf nodeId = some .pending) : state.view nodeId = .pending := by
  rw [view, h]

/-- How the status of a node changes while the graph runs on, branch selections apart. -/
inductive NodeAdvance (plan : AgentCompiledExecutionPlan) (view : GraphView) (i : AgentCompiledNodeId) :
    Option AgentGraphNodeStatus → Option AgentGraphNodeStatus → Prop where
  | keep (status : Option AgentGraphNodeStatus) : NodeAdvance plan view i status status
  | ready (h : (network plan).ready view i) : NodeAdvance plan view i (some .pending) (some .runnable)
  | skip (h : (network plan).blocked view i) (hselected : BranchSelected view) :
      NodeAdvance plan view i (some .pending) (some .skipped)
  | work {old new : AgentGraphNodeStatus} (hold : Busy old) (hnew : Busy new) :
      NodeAdvance plan view i (some old) (some new)
  | finish {old : AgentGraphNodeStatus} (hold : Busy old) :
      NodeAdvance plan view i (some old) (some .completed)

lemma NodeAdvance.completed {status : Option AgentGraphNodeStatus}
    (h : NodeAdvance plan view i (some .completed) status) : status = some .completed := by
  cases h with
  | keep => rfl
  | work hbusy => rcases hbusy with h | h | h <;> cases h
  | finish => rfl

lemma advance_sound (hsound : Sound state)
    (hselected : next.selectedBranchPaths = state.selectedBranchPaths)
    (h : ∀ i, NodeAdvance plan state.view i (state.statusOf i) (next.statusOf i)) : Sound next := by
  constructor
  · intro i status hi
    have hadvance := h i
    rw [hi] at hadvance
    generalize hnew : some status = new at hadvance
    generalize hold : state.statusOf i = old at hadvance
    cases hadvance with
    | keep => exact hsound.live i status (hold.trans hnew.symm)
    | ready | skip | finish => cases hnew; decide
    | work _ hbusy => cases hnew; rcases hbusy with rfl | rfl | rfl <;> decide
  · intro i selected hi
    rw [hselected] at hi
    have hadvance := h i
    rw [hsound.selected i selected hi] at hadvance
    exact hadvance.completed

lemma advance_step (hselected : next.selectedBranchPaths = state.selectedBranchPaths)
    (h : ∀ i, NodeAdvance plan state.view i (state.statusOf i) (next.statusOf i)) :
    (network plan).Step state.view next.view := by
  intro i
  have hadvance := h i
  generalize hold : state.statusOf i = old at hadvance
  generalize hnew : next.statusOf i = new at hadvance
  cases hadvance with
  | keep =>
    rw [view_congr (hnew.trans hold.symm) (by rw [hselected])]
    exact .keep _
  | ready hready =>
    rw [view_of_pending hold, view_of_busy (.inl rfl) hnew]
    exact .activate hready
  | skip hblocked hbranch =>
    rw [view_of_pending hold, view_eq_skipped_iff.mpr hnew]
    exact .skip hblocked hbranch
  | work hbusy hbusy' =>
    rw [view_of_busy hbusy hold, view_of_busy hbusy' hnew]
    exact .keep _
  | finish hbusy =>
    rw [view_of_busy hbusy hold, view_eq_done_iff.mpr ⟨hnew, rfl⟩]
    exact .finish _

lemma readied_advance (hplan : WellFormed plan) (hsound : Sound state)
    (hlive : state.terminalStatus = none) {ready : List AgentCompiledNodeId}
    (hready : computeReadyNodes plan state = .ok ready)
    (hmarked : ready.foldlM (markRunnable now) state = .ok next) (i : AgentCompiledNodeId) :
    NodeAdvance plan state.view i (state.statusOf i) (next.statusOf i) := by
  obtain ⟨nodeStates, rfl, hnodes⟩ := markRunnable_foldlM hmarked
  simp only [computeReadyNodes, bind_eq_ok, exists_unit, hlive, isSome_none,
    Bool.false_eq_true, if_false] at hready
  by_cases hi : i ∈ ready
  · obtain ⟨node, hnode, rfl, hpending, hcheck⟩ := (mem_pendingNodesWhere hready.2).mp hi
    obtain ⟨old, hold, -⟩ := map_eq_some_iff.mp hpending
    have hrunnable : statusOf { state with nodeStates := nodeStates } node.nodeId =
        some .runnable := by
      rw [statusOf, hnodes, if_pos hi, hold]
      rfl
    rw [hpending, hrunnable]
    exact .ready ⟨node, nodeById_of_mem hplan (mem_sortedNodes.mp hnode),
      (dependenciesSatisfied_iff hsound hcheck).mp rfl⟩
  · have hsame : statusOf { state with nodeStates := nodeStates } i =
        state.statusOf i := by
      rw [statusOf, hnodes, if_neg hi]
      rfl
    rw [hsame]
    exact .keep _

lemma NodeMove.busy (h : NodeMove plan op nodeId old new) : Busy old.status := by
  cases h with
  | start hstatus => exact .inl hstatus
  | complete _ _ hstatus | completeIterator _ _ hstatus | wait hstatus => exact .inr (.inl hstatus)
  | park hstatus | resume hstatus | completeWaiting hstatus => exact .inr (.inr hstatus)

lemma NodeMove.busy_or_completed (h : NodeMove plan op nodeId old new) :
    Busy new.status ∨ new.status = .completed := by
  cases h with
  | start => exact .inl (.inr (.inl rfl))
  | complete | completeIterator => exact .inr rfl
  | wait | park => exact .inl (.inr (.inr rfl))
  | resume => exact .inl (.inr (.inl rfl))
  | completeWaiting => exact .inr rfl

lemma moved_advance (hlookup : state.nodeStates[nodeId]? = some old)
    (hmove : NodeMove plan op nodeId old new) (i : AgentCompiledNodeId) :
    NodeAdvance plan state.view i (state.statusOf i) ((state.setNode nodeId new).statusOf i) := by
  by_cases hi : i = nodeId
  · subst hi
    rw [statusOf_of_lookup hlookup, statusOf_setNode_self]
    rcases hmove.busy_or_completed with hbusy | hcompleted
    · exact .work hmove.busy hbusy
    · rw [hcompleted]
      exact .finish hmove.busy
  · rw [statusOf_setNode_of_ne hi]
    exact .keep _

lemma SkipPass.advance (hplan : WellFormed plan) (hsound : Sound state)
    (hselected : BranchSelected state.view) (h : SkipPass plan state next) (i : AgentCompiledNodeId) :
    NodeAdvance plan state.view i (state.statusOf i) (next.statusOf i) := by
  obtain ⟨now, skipped, hskippable, hnodes⟩ := h.nodes
  by_cases hi : i ∈ skipped
  · obtain ⟨node, hnode, rfl, hpending, hcheck⟩ := (mem_pendingNodesWhere hskippable).mp hi
    obtain ⟨old, hold, hstatus⟩ := map_eq_some_iff.mp hpending
    have hskipped : next.statusOf node.nodeId = some .skipped := by
      rw [statusOf, hnodes, if_pos hi, hold, map_some, map_some,
        AgentGraphNodeState.skippedIfPending, if_pos hstatus]
      rfl
    rw [hpending, hskipped]
    split_ifs at hcheck with hentry
    · cases hcheck
    · exact .skip ⟨hentry, node, nodeById_of_mem hplan (mem_sortedNodes.mp hnode),
        (nodeShouldSkip_iff hsound hcheck).mp rfl⟩ hselected
  · rw [statusOf, statusOf, hnodes, if_neg hi]
    exact .keep _

lemma SkipPass.selected (h : SkipPass plan state next) :
    next.selectedBranchPaths = state.selectedBranchPaths := by
  obtain ⟨_, rfl⟩ := h.frame
  rfl

lemma SkipPass.steps_of_passes (hplan : WellFormed plan) (hsound : Sound state)
    (hselected : BranchSelected state.view) (h : Relation.ReflTransGen (SkipPass plan) state next) :
    (network plan).Steps state.view next.view ∧ Sound next := by
  induction h with
  | refl => exact ⟨.refl, hsound⟩
  | tail _ hpass ih =>
    obtain ⟨hsteps, hmiddle⟩ := ih
    have htrigger : BranchSelected _ := (network plan).trigger_mono hsteps.grows hselected
    have hadvance := hpass.advance hplan hmiddle htrigger
    exact ⟨hsteps.tail (advance_step hpass.selected hadvance),
      advance_sound hmiddle hpass.selected hadvance⟩

lemma branched_step (hsound : Sound state) (hlookup : state.nodeStates[nodeId]? = some old)
    (hold : old.status = .running) (hnew : new.status = .completed)
    (selected : List AgentCompiledEdgeId) (hnext : next = { state.setNode nodeId new with
      selectedBranchPaths := state.selectedBranchPaths.insert nodeId selected }) :
    (network plan).Step state.view next.view ∧ Sound next ∧
      next.view nodeId = .done (some selected) := by
  subst hnext
  have hself : ∀ i, i = nodeId →
      ({ state.setNode nodeId new with
        selectedBranchPaths := state.selectedBranchPaths.insert nodeId selected } :
          AgentGraphRunState).statusOf i = some .completed := by
    rintro i rfl
    exact (statusOf_setNode_self new).trans (congrArg some hnew)
  have hother : ∀ i, i ≠ nodeId →
      ({ state.setNode nodeId new with
        selectedBranchPaths := state.selectedBranchPaths.insert nodeId selected } :
          AgentGraphRunState).statusOf i = state.statusOf i :=
    fun i hi => statusOf_setNode_of_ne hi new
  have hpath : ∀ i : AgentCompiledNodeId, (state.selectedBranchPaths.insert nodeId selected)[i]? =
      if i = nodeId then some selected else state.selectedBranchPaths[i]? :=
    fun i => BTreeMap.lookup_insert _ _ _ _
  refine ⟨fun i => ?_, ⟨fun i status hi => ?_, fun i chosen hi => ?_⟩, ?_⟩
  · by_cases hi : i = nodeId
    · subst hi
      rw [view_of_busy (.inr (.inl hold)) (statusOf_of_lookup hlookup),
        view_eq_done_iff.mpr ⟨hself i rfl, rfl⟩]
      exact .finish _
    · rw [view_congr (hother i hi) ((hpath i).trans (if_neg hi))]
      exact .keep _
  · by_cases hid : i = nodeId
    · rw [hself i hid] at hi
      cases hi
      decide
    · rw [hother i hid] at hi
      exact hsound.live i status hi
  · by_cases hid : i = nodeId
    · exact hself i hid
    · rw [hother i hid]
      exact hsound.selected i chosen (((hpath i).trans (if_neg hid)).symm.trans hi)
  · exact view_eq_done_iff.mpr ⟨hself nodeId rfl, (hpath nodeId).trans (if_pos rfl)⟩

/-! ### What a propagation leaves behind -/

/-- Once a branch has made its selection, no pending node is blocked. -/
def SkipsSettled (plan : AgentCompiledExecutionPlan) (state : AgentGraphRunState) : Prop :=
  BranchSelected state.view → ∀ i, state.view i = .pending → ¬ (network plan).blocked state.view i

def pendingCount (plan : AgentCompiledExecutionPlan) (state : AgentGraphRunState) : ℕ :=
  plan.nodes.countP (fun node => state.statusOf node.nodeId = some .pending)

lemma countP_lt_countP {α : Type} {p q : α → Bool} {as : List α}
    (himp : ∀ a ∈ as, p a = true → q a = true) {a : α} (ha : a ∈ as) (hq : q a = true)
    (hp : p a = false) : as.countP p < as.countP q := by
  obtain ⟨before, after, rfl⟩ := append_of_mem ha
  obtain ⟨hbefore, -, hafter⟩ := by simpa only [forall_mem_append, forall_mem_cons] using himp
  have hfront : before.countP p ≤ before.countP q := countP_mono_left hbefore
  have hback : after.countP p ≤ after.countP q := countP_mono_left hafter
  rw [countP_append, countP_append, countP_cons_of_pos hq, countP_cons_of_neg (by simp [hp])]
  omega

lemma skipPass_pendingCount {skipped : List AgentCompiledNodeId}
    (hskippable : skippableNodes plan state = .ok skipped) (hsome : skipped ≠ [])
    (h : skipped.foldlM (skipNode now) state = .ok next) :
    pendingCount plan next < pendingCount plan state := by
  obtain ⟨nodeStates, rfl, hnodes⟩ := skipNode_foldlM h
  obtain ⟨first, hfirst⟩ := exists_mem_of_ne_nil skipped hsome
  obtain ⟨node, hnode, rfl, hpending, -⟩ := (mem_pendingNodesWhere hskippable).mp hfirst
  obtain ⟨old, hold, hstatus⟩ := map_eq_some_iff.mp hpending
  have hstill : ∀ i, statusOf { state with nodeStates := nodeStates } i =
      some .pending → i ∉ skipped ∧ state.statusOf i = some .pending := by
    intro i hi
    rw [statusOf, hnodes] at hi
    split_ifs at hi with hmem
    · obtain ⟨_, hother, hskip⟩ := map_eq_some_iff.mp hi
      obtain ⟨other, -, rfl⟩ := map_eq_some_iff.mp hother
      rw [AgentGraphNodeState.skippedIfPending] at hskip
      split_ifs at hskip with hp
      · cases hskip
      · exact absurd hskip hp
    · exact ⟨hmem, hi⟩
  refine countP_lt_countP (fun other _ hother => ?_) (mem_sortedNodes.mp hnode) ?_ ?_
  · simpa using (hstill _ (by simpa using hother)).2
  · simpa using hpending
  · exact decide_eq_false (fun hi => (hstill _ hi).1 hfirst)

lemma skippable_empty_of_loop {passes : ℕ} {changed changed' : List AgentCompiledNodeId}
    (hcount : pendingCount plan state < passes)
    (h : propagateSkipsLoop plan now passes state changed = .ok (next, changed')) :
    skippableNodes plan next = .ok [] := by
  induction passes generalizing state changed with
  | zero => exact absurd hcount (Nat.not_lt_zero _)
  | succ passes ih =>
    simp only [propagateSkipsLoop, bind_eq_ok] at h
    obtain ⟨skipped, hskippable, hrest⟩ := h
    split_ifs at hrest with hempty
    · cases hrest
      rw [hskippable, isEmpty_iff.mp hempty]
    · rw [bind_eq_ok] at hrest
      obtain ⟨middle, hmiddle, hloop⟩ := hrest
      have hlower := skipPass_pendingCount hskippable (fun he => hempty (isEmpty_iff.mpr he)) hmiddle
      exact ih (by omega) hloop

lemma skipsSettled_of_empty (hhosted : Hosted plan state) (hsound : Sound state)
    (h : skippableNodes plan state = .ok []) : SkipsSettled plan state := by
  rintro - i hpending ⟨hentry, node, hnode, hblocked⟩
  obtain ⟨hmem, rfl⟩ := mem_nodes_of_nodeById hnode
  obtain ⟨nodeState, hlookup⟩ := hhosted.states node hmem
  have hstatus : state.statusOf node.nodeId = some .pending := by
    have hstored := statusOf_of_lookup hlookup
    rw [view, hstored] at hpending
    rw [hstored]
    cases hs : nodeState.status <;> rw [hs] at hpending <;> first | rfl | cases hpending
  obtain ⟨b, hb⟩ := checked_of_pendingNodesWhere h (mem_sortedNodes.mpr hmem) hstatus
  rw [if_neg hentry] at hb
  have htrue := (nodeShouldSkip_iff hsound hb).mpr hblocked
  subst htrue
  have hskipped := (mem_pendingNodesWhere h).mpr
    ⟨node, mem_sortedNodes.mpr hmem, rfl, hstatus, by rw [if_neg hentry]; exact hb⟩
  cases hskipped

/-! ### Runs -/

def Spoiled (state : AgentGraphRunState) : Prop :=
  ∃ i, state.statusOf i = some .failed ∨ state.statusOf i = some .cancelled ∨
    state.statusOf i = some .terminal

def Bypassed (plan : AgentCompiledExecutionPlan) (state : AgentGraphRunState) : Prop :=
  ∃ node ∈ plan.nodes, node.kind = .branch ∧ state.statusOf node.nodeId = some .completed ∧
    state.selectedBranchPaths[node.nodeId]? = none

def OnlyBranchesSelect (plan : AgentCompiledExecutionPlan) (state : AgentGraphRunState) : Prop :=
  ∀ (i : AgentCompiledNodeId) selected, state.selectedBranchPaths[i]? = some selected →
    ∃ node, plan.nodeById i = some node ∧ node.kind = .branch

/-- A state in which nothing has gone wrong yet, reached by steps of the network. -/
structure Tracked (plan : AgentCompiledExecutionPlan) (state : AgentGraphRunState) : Prop where
  hosted : Hosted plan state
  sound : Sound state
  steps : (network plan).Steps (fun _ => .pending) state.view
  settled : Bypassed plan state ∨ SkipsSettled plan state
  branches : OnlyBranchesSelect plan state
  ended : state.terminalStatus ≠ none → ∀ i status, state.statusOf i = some status →
    status.isUnresolved = false

lemma NodeAdvance.of_pending {old : Option AgentGraphNodeStatus}
    (h : NodeAdvance plan view i old (some .pending)) : old = some .pending := by
  cases h with
  | keep => rfl
  | work _ hbusy => rcases hbusy with h | h | h <;> cases h

lemma view_eq_pending_iff :
    state.view nodeId = .pending ↔ state.statusOf nodeId = none ∨ state.statusOf nodeId = some .pending := by
  unfold view
  cases state.statusOf nodeId with
  | none => simp
  | some status => cases status <;> simp

lemma settled_advance (hsound : Sound state)
    (hselected : next.selectedBranchPaths = state.selectedBranchPaths)
    (hadvance : ∀ i, NodeAdvance plan state.view i (state.statusOf i) (next.statusOf i))
    (h : Bypassed plan state ∨ SkipsSettled plan state) :
    Bypassed plan next ∨ SkipsSettled plan next := by
  rcases h with ⟨node, hnode, hkind, hcompleted, hnone⟩ | h
  · have hstays := hadvance node.nodeId
    rw [hcompleted] at hstays
    exact .inl ⟨node, hnode, hkind, hstays.completed, by rw [hselected, hnone]⟩
  by_cases hbypassed : Bypassed plan next
  · exact .inl hbypassed
  refine .inr ?_
  have hpending : ∀ i, next.view i = .pending → state.view i = .pending := by
    intro i hi
    have hi' := hadvance i
    rcases view_eq_pending_iff.mp hi with hnone | hstill
    · rw [hnone] at hi'
      generalize hold : state.statusOf i = old at hi'
      cases hi' with
      | keep => exact view_eq_pending_iff.mpr (.inl hold)
    · rw [hstill] at hi'
      exact view_eq_pending_iff.mpr (.inr hi'.of_pending)
  have hedge : ∀ edge, BranchSelected state.view → EdgeBlocked plan next.view edge →
      EdgeBlocked plan state.view edge := by
    rintro edge htrigger (hskip | ⟨node, choice, hnode, hkind, hdone, hunselected⟩)
    · -- nothing was left to skip
      have hi := hadvance edge.sourceNodeId
      rw [view_eq_skipped_iff.mp hskip] at hi
      generalize hold : state.statusOf edge.sourceNodeId = old at hi
      cases hi with
      | keep => exact .inl (view_eq_skipped_iff.mpr hold)
      | skip hblocked _ => exact absurd hblocked (h htrigger _ (view_of_pending hold))
      | work _ hbusy => rcases hbusy with h | h | h <;> cases h
    · obtain ⟨hcompleted, hchoice⟩ := view_eq_done_iff.mp hdone
      obtain ⟨hmem, hid⟩ := mem_nodes_of_nodeById hnode
      -- a branch that has just completed would have no selection
      cases choice with
      | none => exact absurd ⟨node, hmem, hkind, by rw [hid, hcompleted], by rw [hid, hchoice]⟩ hbypassed
      | some selected =>
        rw [hselected] at hchoice
        exact .inr ⟨node, some selected, hnode, hkind,
          view_eq_done_iff.mpr ⟨hsound.selected _ _ hchoice, hchoice⟩, hunselected⟩
  rintro ⟨j, chosen, hj⟩ i hi ⟨hentry, node, hnode, hblocked⟩
  have hchosen := (view_eq_done_iff.mp hj).2
  rw [hselected] at hchosen
  have hbefore : BranchSelected state.view :=
    ⟨j, chosen, view_eq_done_iff.mpr ⟨hsound.selected j chosen hchosen, hchosen⟩⟩
  exact h hbefore i (hpending i hi)
    ⟨hentry, node, hnode, hblocked.imp (fun edge => hedge edge hbefore)⟩

lemma Hosted.change (h : Hosted plan state) (hchange : NodesChange state next) :
    Hosted plan next := by
  refine ⟨h.wellFormed, fun node hnode => ?_, fun i nodeState hi => ?_⟩
  · obtain ⟨nodeState, hlookup⟩ := h.states node hnode
    rcases hchange node.nodeId with ⟨hnone, -⟩ | ⟨_, new, -, hnew, -⟩
    · rw [hnone] at hlookup
      cases hlookup
    · exact ⟨new, hnew⟩
  · rcases hchange i with ⟨-, hnone⟩ | ⟨old, _, hold, -, -⟩
    · rw [hnone] at hi
      cases hi
    · exact h.known i old hold

lemma Tracked.advance (h : Tracked plan state)
    (hended : next.terminalStatus ≠ none → ∀ i status, next.statusOf i = some status →
      status.isUnresolved = false) (hchange : NodesChange state next)
    (hselected : next.selectedBranchPaths = state.selectedBranchPaths)
    (hadvance : ∀ i, NodeAdvance plan state.view i (state.statusOf i) (next.statusOf i)) :
    Tracked plan next :=
  ⟨h.hosted.change hchange, advance_sound h.sound hselected hadvance,
    h.steps.tail (advance_step hselected hadvance), settled_advance h.sound hselected hadvance h.settled,
    fun i selected hi => h.branches i selected (hselected ▸ hi), hended⟩

lemma tracked_of_branched (h : Tracked plan state) (hlive : state.terminalStatus = none)
    {selected : List AgentCompiledEdgeId} {skipped : AgentGraphRunState}
    {changed : List AgentCompiledNodeId} {node : AgentCompiledPlanNode}
    (hnode : plan.nodeById nodeId = some node) (hbranch : node.kind = .branch)
    (hlookup : state.nodeStates[nodeId]? = some old) (hold : old.status = .running)
    (hnew : new.status = .completed) (hchange : NodesChange state skipped.advance)
    (hskips : propagateSkipsLoop plan now (plan.nodes.length + 1) { state.setNode nodeId new with
        selectedBranchPaths := state.selectedBranchPaths.insert nodeId selected } [] =
        .ok (skipped, changed)) : Tracked plan skipped.advance := by
  obtain ⟨hstep, hsound, hdone⟩ : (network plan).Step _ _ ∧ _ ∧ _ :=
    branched_step h.sound hlookup hold hnew selected rfl
  have hpasses := skipPasses_of_loop hskips
  obtain ⟨hsteps, hskipped⟩ :=
    SkipPass.steps_of_passes h.hosted.wellFormed hsound ⟨nodeId, selected, hdone⟩ hpasses
  have hhosted : Hosted plan skipped := h.hosted.change (hchange.congr rfl)
  have hsettled := skipsSettled_of_empty hhosted hskipped
    (skippable_empty_of_loop (Nat.lt_succ_of_le countP_le_length) hskips)
  obtain ⟨_, rfl⟩ := SkipPass.frame_of_passes hpasses
  refine ⟨h.hosted.change hchange, ⟨hskipped.live, hskipped.selected⟩,
    (h.steps.tail hstep).trans hsteps, .inr hsettled, fun i chosen hi => ?_, absurd hlive⟩
  by_cases hid : i = nodeId
  · rw [hid]
    exact ⟨node, hnode, hbranch⟩
  · have hpath : (state.selectedBranchPaths.insert nodeId selected)[i]? =
        state.selectedBranchPaths[i]? := (BTreeMap.lookup_insert _ _ _ _).trans (if_neg hid)
    exact h.branches i chosen (hpath.symm.trans hi)

lemma ended_status {status : AgentGraphTerminalStatus}
    (hmove : EndMove op nodeId old new status now) :
    (endWith (state.setNode nodeId new).advance nodeId status now).state.statusOf nodeId = some .failed ∨
      (endWith (state.setNode nodeId new).advance nodeId status now).state.statusOf nodeId =
        some .cancelled ∨
      (endWith (state.setNode nodeId new).advance nodeId status now).state.statusOf nodeId =
        some .terminal := by
  have hself : new.cancelledUnless now [nodeId] nodeId = new := by
    simp [AgentGraphNodeState.cancelledUnless]
  have hstatus : (endWith (state.setNode nodeId new).advance nodeId status now).state.statusOf nodeId =
      some new.status := by
    have hlookup : (state.setNode nodeId new).nodeStates[nodeId]? = some new :=
      nodeStates_setNode_self ..
    refine (congrArg (Option.map _) ((cancelled_nodeStates now [nodeId] nodeId).trans
      (congrArg (Option.map _) hlookup))).trans ?_
    exact congrArg (fun nodeState => some (AgentGraphNodeState.status nodeState)) hself
  rw [hstatus]
  cases hmove with
  | terminal => exact .inr (.inr rfl)
  | failWaiting | fail => exact .inl rfl

lemma cancelled_statusOf (now : AgentTimestampMillis) (i : AgentCompiledNodeId) :
    (cancelUnresolvedLoopInstances (cancelUnresolvedNodes state now []).1 now).1.statusOf i =
      (state.statusOf i).map (fun status => if status.isUnresolved then .cancelled else status) := by
  rw [statusOf, cancelled_nodeStates, statusOf, Option.map_map, Option.map_map]
  refine congrArg (fun f => Option.map f state.nodeStates[i]?) (funext (fun nodeState => ?_))
  simp only [Function.comp, AgentGraphNodeState.cancelledUnless, contains_nil, Bool.not_false,
    Bool.true_and]
  split_ifs <;> rfl

lemma cancelled_statusOf_of_resolved (now : AgentTimestampMillis)
    (h : ∀ status, state.statusOf i = some status → status.isUnresolved = false) :
    (cancelUnresolvedLoopInstances (cancelUnresolvedNodes state now []).1 now).1.statusOf i =
      state.statusOf i := by
  rw [cancelled_statusOf]
  cases hi : state.statusOf i with
  | none => rfl
  | some status => simp [h status hi]

theorem GraphMove.tracked (h : GraphMove plan state op next) (htracked : Tracked plan state) :
    Tracked plan next ∨ Spoiled next ∧ next.terminalStatus ≠ none := by
  have hchange := h.nodesChange
  cases h with
  | unchanged => exact .inl htracked
  | readied hlive _ hready hmarked =>
    have hadvance :=
      readied_advance htracked.hosted.wellFormed htracked.sound hlive hready hmarked
    obtain ⟨_, rfl, -⟩ := markRunnable_foldlM hmarked
    exact .inl (htracked.advance (absurd hlive) hchange rfl hadvance)
  | moved hlive hlookup hmove version =>
    exact .inl (htracked.advance (absurd hlive) hchange rfl (moved_advance hlookup hmove))
  | branched hlive hnode hbranch hlookup hstatus hskips =>
    exact .inl (tracked_of_branched htracked hlive hnode hbranch hlookup hstatus rfl hchange hskips)
  | iterated hlive _ => exact .inl (htracked.advance (absurd hlive) hchange rfl (fun i => .keep _))
  | @exceeded nodeId _ _ _ _ _ _ =>
    exact .inr ⟨⟨nodeId, .inl (statusOf_setNode_self _)⟩, some_ne_none _⟩
  | ended _ _ hmove => exact .inr ⟨⟨_, ended_status hmove⟩, some_ne_none _⟩
  | @cancelled now _ =>
    by_cases hopen : ∃ i status, state.statusOf i = some status ∧ status.isUnresolved = true
    · obtain ⟨i, status, hi, hunresolved⟩ := hopen
      refine .inr ⟨⟨i, .inr (.inl ?_)⟩, some_ne_none _⟩
      exact (cancelled_statusOf now i).trans (by rw [hi]; simp [hunresolved])
    · -- a run in which everything is resolved is cancelled without a trace on its nodes
      have hresolved : ∀ i status, state.statusOf i = some status → status.isUnresolved = false :=
        fun i status hi => Bool.eq_false_iff.mpr (fun hunresolved => hopen ⟨i, status, hi, hunresolved⟩)
      have hsame := fun i => cancelled_statusOf_of_resolved now (hresolved i)
      refine .inl (htracked.advance (fun _ i status hi => ?_) hchange rfl (fun i => ?_))
      · exact hresolved i status ((hsame i).symm.trans hi)
      · exact (congrArg (NodeAdvance plan state.view i (state.statusOf i)) (hsame i)).mpr (.keep _)

/-- Every run is tracked until a node fails, is cancelled or ends the graph. -/
def TrackedOrEnded (plan : AgentCompiledExecutionPlan) (state : AgentGraphRunState) : Prop :=
  Tracked plan state ∨ Spoiled state ∧ state.terminalStatus ≠ none

lemma TrackedOrEnded.apply (h : TrackedOrEnded plan state) (op : GraphOp) :
    TrackedOrEnded plan (op.apply plan state) := by
  rcases h with htracked | ⟨hspoiled, hended⟩
  · rcases GraphOp.apply_cases plan state op with hsame | ⟨-, hmove⟩
    · rw [hsame]
      exact .inl htracked
    · exact hmove.tracked htracked
  · rw [apply_of_terminal hended]
    exact .inr ⟨hspoiled, hended⟩

lemma TrackedOrEnded.run (h : TrackedOrEnded plan state) (ops : List GraphOp) :
    TrackedOrEnded plan (runGraph plan state ops) := by
  induction ops generalizing state with
  | nil => exact h
  | cons op ops ih => exact ih (h.apply op)

section
variable (h : initializeState plan now = .ok initial)
include h

lemma initial_nodeStates :
    (∀ node ∈ plan.nodes, ∃ nodeState, initial.nodeStates[node.nodeId]? = some nodeState) ∧
      ∀ i nodeState, initial.nodeStates[i]? = some nodeState →
        nodeState.status = .pending ∧ ∃ node ∈ plan.nodes, node.nodeId = i := by
  obtain ⟨-, rfl⟩ := initializeState_eq_ok.mp h
  constructor
  · refine fun node hnode => foldl_forall_mem
      (P := fun (state : AgentGraphRunState) (node : AgentCompiledPlanNode) =>
        ∃ nodeState, state.nodeStates[node.nodeId]? = some nodeState)
      (fun state set kept hkept => ?_) (fun state set => ?_) plan.sortedNodes _ node
      (mem_sortedNodes.mpr hnode)
    · by_cases hid : kept.nodeId = set.nodeId
      · rw [hid]
        exact ⟨_, nodeStates_setNode_self ..⟩
      · obtain ⟨nodeState, hlookup⟩ := hkept
        exact ⟨nodeState, (nodeStates_setNode_of_ne _ hid _).trans hlookup⟩
    · exact ⟨_, nodeStates_setNode_self ..⟩
  · refine List.foldlRecOn (motive := fun state : AgentGraphRunState => ∀ (i : AgentCompiledNodeId)
      nodeState, state.nodeStates[i]? = some nodeState →
        nodeState.status = .pending ∧ ∃ node ∈ plan.nodes, node.nodeId = i) _ _
      (fun i nodeState hi => ?_) (fun state ih node hnode i nodeState hi => ?_)
    · cases (Std.ExtTreeMap.getElem?_empty.symm.trans hi)
    · by_cases hid : i = node.nodeId
      · subst hid
        rw [← Option.some.inj ((nodeStates_setNode_self ..).symm.trans hi)]
        exact ⟨rfl, node, mem_sortedNodes.mp hnode, rfl⟩
      · exact ih i nodeState ((nodeStates_setNode_of_ne _ hid _).symm.trans hi)

lemma tracked_initial : Tracked plan initial := by
  obtain ⟨hstates, hknown⟩ := initial_nodeStates h
  obtain ⟨hvalid, hinitial⟩ := initializeState_eq_ok.mp h
  have hpending : ∀ i status, initial.statusOf i = some status → status = .pending := by
    intro i status hi
    obtain ⟨nodeState, hlookup, rfl⟩ := map_eq_some_iff.mp hi
    exact (hknown i nodeState hlookup).1
  have hview : initial.view = fun _ => .pending := by
    funext i
    refine view_eq_pending_iff.mpr ?_
    cases hi : initial.statusOf i with
    | none => exact .inl rfl
    | some status => exact .inr (congrArg some (hpending i status hi))
  have hnone : ∀ (i : AgentCompiledNodeId) selected,
      initial.selectedBranchPaths[i]? ≠ some selected := by
    obtain ⟨_, hframe⟩ := foldl_setNode_frame (fun node => .new node.nodeId node.kind now)
      plan.sortedNodes (.new plan.planId plan.planFingerprint)
    intro i selected hi
    rw [← hinitial, hframe] at hi
    cases (Std.ExtTreeMap.getElem?_empty.symm.trans hi)
  refine ⟨⟨wellFormed_of_validate hvalid, hstates, fun i nodeState hi => (hknown i nodeState hi).2⟩,
    ⟨fun i status hi => ?_, fun i selected hi => absurd hi (hnone i selected)⟩, ?_, .inr ?_,
    fun i selected hi => absurd hi (hnone i selected), ?_⟩
  · rw [hpending i status hi]
    decide
  · rw [hview]
    exact .refl
  · rintro ⟨i, selected, hi⟩
    rw [hview] at hi
    cases hi
  · exact absurd (initial_terminalStatus h)

lemma run_tracked (ops : List GraphOp) : TrackedOrEnded plan (runGraph plan initial ops) :=
  TrackedOrEnded.run (.inl (tracked_initial h)) ops

end

end Rakka.AgentWorkflow
