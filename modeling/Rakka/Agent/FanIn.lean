import Rakka.Foundation.OrderedMap

/-! The fan-in of a run: the children a group waits for, the policy that ends the wait, and the
order in which their outcomes arrive. -/

namespace Rakka.Agent
open Foundation List

structure AgentDelegationId where
  value : String
  deriving DecidableEq, Repr

structure AgentWorkflowInvocationId where
  value : String
  deriving DecidableEq, Repr

lemma AgentDelegationId.value_injective : Function.Injective AgentDelegationId.value :=
  fun ⟨_⟩ ⟨_⟩ h => congrArg AgentDelegationId.mk h

lemma AgentWorkflowInvocationId.value_injective :
    Function.Injective AgentWorkflowInvocationId.value :=
  fun ⟨_⟩ ⟨_⟩ h => congrArg AgentWorkflowInvocationId.mk h

instance : LinearOrder AgentDelegationId :=
  LinearOrder.lift' AgentDelegationId.value AgentDelegationId.value_injective

instance : LinearOrder AgentWorkflowInvocationId :=
  LinearOrder.lift' AgentWorkflowInvocationId.value AgentWorkflowInvocationId.value_injective

inductive AgentTaskStatus where
  | created
  | blocked
  | assigned
  | inProgress
  | waitingForInput
  | completed
  | failed
  | cancelled
  deriving DecidableEq, Repr

def AgentTaskStatus.isTerminal : AgentTaskStatus → Bool
  | .completed | .failed | .cancelled => true
  | _ => false

inductive AgentDelegationStatus where
  | pending
  | childCreated (childTask : String)
  | conflicted (code : String)
  | failed (code : String)
  deriving DecidableEq, Repr

structure AgentDelegationCell where
  status : AgentDelegationStatus
  result : Option AgentTaskStatus
  deriving DecidableEq, Repr

inductive AgentWorkflowTerminalStatus where
  | completed
  | failed
  | cancelled
  deriving DecidableEq, Repr

inductive AgentWorkflowInvocationStatus where
  | pending
  | started (adopted : Bool)
  | conflicted (code : String)
  | failed (code : String)
  deriving DecidableEq, Repr

structure AgentWorkflowInvocationCell where
  status : AgentWorkflowInvocationStatus
  result : Option AgentWorkflowTerminalStatus
  deriving DecidableEq, Repr

inductive AgentFanInMemberId where
  | delegation (delegation : AgentDelegationId)
  | workflowInvocation (invocation : AgentWorkflowInvocationId)
  deriving DecidableEq, Repr

inductive AgentFanInPolicy where
  | all
  | any
  | quorum (n : ℕ)
  deriving DecidableEq, Repr

structure AgentFanInResolution where
  satisfied : Bool
  satisfiedBy : List AgentFanInMemberId
  code : String
  resolvedAt : ℕ
  deriving DecidableEq, Repr

def AgentFanInResolution.verdict (resolution : AgentFanInResolution) : Bool × String :=
  (resolution.satisfied, resolution.code)

structure AgentFanInCell where
  policy : AgentFanInPolicy
  members : List AgentFanInMemberId
  closed : Bool
  timedOut : List AgentFanInMemberId
  resolution : Option AgentFanInResolution
  deriving DecidableEq, Repr

def AgentFanInCell.awaiting (cell : AgentFanInCell) : Bool :=
  cell.closed && cell.resolution.isNone

inductive MemberDisposition where
  | unresolved
  | succeeded
  | failed
  | cancelled
  | timedOut
  deriving DecidableEq, Repr

structure FanInState where
  cell : AgentFanInCell
  delegations : BTreeMap AgentDelegationId AgentDelegationCell
  workflowInvocations : BTreeMap AgentWorkflowInvocationId AgentWorkflowInvocationCell

namespace AgentDelegationCell
variable (cell : AgentDelegationCell)

def disposition : MemberDisposition :=
  match cell.status with
  | .pending => .unresolved
  | .conflicted _ | .failed _ => .failed
  | .childCreated _ =>
    match cell.result with
    | none => .unresolved
    | some .completed => .succeeded
    | some .cancelled => .cancelled
    | some _ => .failed

def settle (status : AgentDelegationStatus) : AgentDelegationCell :=
  match cell.status with
  | .pending => { cell with status := status }
  | _ => cell

def recordChildResult (childTask : String) (result : AgentTaskStatus) : AgentDelegationCell :=
  match cell.status, cell.result with
  | .childCreated created, none =>
    if created = childTask ∧ result.isTerminal then { cell with result := some result } else cell
  | _, _ => cell

end AgentDelegationCell

namespace AgentWorkflowInvocationCell
variable (cell : AgentWorkflowInvocationCell)

def disposition : MemberDisposition :=
  match cell.status with
  | .pending => .unresolved
  | .conflicted _ | .failed _ => .failed
  | .started _ =>
    match cell.result with
    | none => .unresolved
    | some .completed => .succeeded
    | some .cancelled => .cancelled
    | some .failed => .failed

def settle (status : AgentWorkflowInvocationStatus) : AgentWorkflowInvocationCell :=
  match cell.status with
  | .pending => { cell with status := status }
  | _ => cell

/-- A result may arrive before the start's receipt; one for a run never started is refused. -/
def recordChildResult (result : AgentWorkflowTerminalStatus) : AgentWorkflowInvocationCell :=
  match cell.status, cell.result with
  | .pending, none | .started _, none => { cell with result := some result }
  | _, _ => cell

end AgentWorkflowInvocationCell

namespace FanInState
variable (state : FanInState)

/-- What the member's own cell says; a member without one is unresolved. -/
def cellDisposition : AgentFanInMemberId → MemberDisposition
  | .delegation delegation =>
    match state.delegations[delegation]? with
    | none => .unresolved
    | some cell => cell.disposition
  | .workflowInvocation invocation =>
    match state.workflowInvocations[invocation]? with
    | none => .unresolved
    | some cell => cell.disposition

def memberDisposition (member : AgentFanInMemberId) : MemberDisposition :=
  if member ∈ state.cell.timedOut then .timedOut else state.cellDisposition member

def membersWith (disposition : MemberDisposition) : List AgentFanInMemberId :=
  state.cell.members.filter (fun member => decide (state.memberDisposition member = disposition))

def unresolvedMembers : List AgentFanInMemberId :=
  state.membersWith .unresolved

def evaluateFanIn (now : ℕ) : Option AgentFanInResolution :=
  if state.cell.awaiting then
    let succeeded := state.membersWith .succeeded
    let unresolved := (state.membersWith .unresolved).length
    let timedOut := (state.membersWith .timedOut).length
    let unsatisfiedCode := if 0 < timedOut then "timed-out" else "unsatisfiable"
    match state.cell.policy with
    | .all =>
      if 0 < unresolved then none
      else
        let satisfied := decide (succeeded.length = state.cell.members.length)
        let code := if satisfied then "all-settled"
          else if 0 < timedOut then "timed-out"
          else "all-settled"
        some ⟨satisfied, if satisfied then succeeded else [], code, now⟩
    | .any =>
      if succeeded ≠ [] then some ⟨true, succeeded, "any-satisfied", now⟩
      else if 0 < unresolved then none
      else some ⟨false, [], unsatisfiedCode, now⟩
    | .quorum n =>
      if n ≤ succeeded.length then some ⟨true, succeeded, "quorum-satisfied", now⟩
      else if n ≤ succeeded.length + unresolved then none
      else some ⟨false, [], unsatisfiedCode, now⟩
  else none

def setDelegation (delegation : AgentDelegationId)
    (change : AgentDelegationCell → AgentDelegationCell) : FanInState :=
  match state.delegations[delegation]? with
  | none => state
  | some cell => { state with delegations := state.delegations.insert delegation (change cell) }

def setInvocation (invocation : AgentWorkflowInvocationId)
    (change : AgentWorkflowInvocationCell → AgentWorkflowInvocationCell) : FanInState :=
  match state.workflowInvocations[invocation]? with
  | none => state
  | some cell =>
    { state with workflowInvocations := state.workflowInvocations.insert invocation (change cell) }

end FanInState

inductive ChildReport where
  | delegationSettled (delegation : AgentDelegationId) (status : AgentDelegationStatus)
  | delegationResult (delegation : AgentDelegationId) (childTask : String)
    (status : AgentTaskStatus)
  | invocationSettled (invocation : AgentWorkflowInvocationId)
    (status : AgentWorkflowInvocationStatus)
  | invocationResult (invocation : AgentWorkflowInvocationId)
    (status : AgentWorkflowTerminalStatus)
  deriving DecidableEq, Repr

namespace FanInState
variable (state : FanInState) (report : ChildReport)

def record : ChildReport → FanInState
  | .delegationSettled delegation status => state.setDelegation delegation (·.settle status)
  | .delegationResult delegation childTask status =>
    state.setDelegation delegation (·.recordChildResult childTask status)
  | .invocationSettled invocation status => state.setInvocation invocation (·.settle status)
  | .invocationResult invocation status => state.setInvocation invocation (·.recordChildResult status)

def tryResolveFanIn (now : ℕ) : FanInState :=
  match state.evaluateFanIn now with
  | none => state
  | some resolution => { state with cell := { state.cell with resolution := some resolution } }

def receive (now : ℕ) : FanInState :=
  (state.record report).tryResolveFanIn now

def receiveAll (reports : List (ChildReport × ℕ)) : FanInState :=
  reports.foldl (fun state report => state.receive report.1 report.2) state

def recordAll (reports : List ChildReport) : FanInState :=
  reports.foldl record state

def markTimedOut : FanInState :=
  { state with cell := { state.cell with
    timedOut := state.cell.timedOut ++ state.unresolvedMembers } }

/-! The policies, over the numbers of members of each disposition. -/

def decision (policy : AgentFanInPolicy) (members succeeded unresolved timedOut : ℕ) :
    Option (Bool × String) :=
  match policy with
  | .all =>
    if 0 < unresolved then none
    else if succeeded = members then some (true, "all-settled")
    else some (false, if 0 < timedOut then "timed-out" else "all-settled")
  | .any =>
    if 0 < succeeded then some (true, "any-satisfied")
    else if 0 < unresolved then none
    else some (false, if 0 < timedOut then "timed-out" else "unsatisfiable")
  | .quorum n =>
    if n ≤ succeeded then some (true, "quorum-satisfied")
    else if n ≤ succeeded + unresolved then none
    else some (false, if 0 < timedOut then "timed-out" else "unsatisfiable")

/-- More outcomes leave a decision as it is. -/
theorem decision_mono {policy : AgentFanInPolicy} {members succeeded unresolved timedOut : ℕ}
    {succeeded' unresolved' : ℕ} {verdict : Bool × String} (hsucceeded : succeeded ≤ succeeded')
    (hopen : succeeded' + unresolved' ≤ succeeded + unresolved)
    (h : decision policy members succeeded unresolved timedOut = some verdict) :
    decision policy members succeeded' unresolved' timedOut = some verdict := by
  cases policy with
  | all =>
    by_cases hun : 0 < unresolved
    · rw [decision, if_pos hun] at h
      cases h
    · obtain rfl : unresolved' = 0 := by omega
      obtain rfl : succeeded' = succeeded := by omega
      rw [decision, if_neg hun] at h
      exact h
  | any =>
    by_cases hsome : 0 < succeeded
    · rw [decision, if_pos hsome] at h
      rw [decision, if_pos (hsome.trans_le hsucceeded)]
      exact h
    · by_cases hun : 0 < unresolved
      · rw [decision, if_neg hsome, if_pos hun] at h
        cases h
      · rw [decision, if_neg hsome, if_neg hun] at h
        rw [decision, if_neg (by omega), if_neg (by omega)]
        exact h
  | quorum n =>
    by_cases hreached : n ≤ succeeded
    · rw [decision, if_pos hreached] at h
      rw [decision, if_pos (hreached.trans hsucceeded)]
      exact h
    · by_cases hopen' : n ≤ succeeded + unresolved
      · rw [decision, if_neg hreached, if_pos hopen'] at h
        cases h
      · rw [decision, if_neg hreached, if_neg hopen'] at h
        rw [decision, if_neg (by omega), if_neg (by omega)]
        exact h

lemma decision_of_resolved (policy : AgentFanInPolicy) (members succeeded timedOut : ℕ) :
    ∃ verdict, decision policy members succeeded 0 timedOut = some verdict := by
  cases policy with
  | all =>
    by_cases h : succeeded = members
    · exact ⟨_, by rw [decision, if_neg (lt_irrefl 0), if_pos h]⟩
    · exact ⟨_, by rw [decision, if_neg (lt_irrefl 0), if_neg h]⟩
  | any =>
    by_cases h : 0 < succeeded
    · exact ⟨_, by rw [decision, if_pos h]⟩
    · exact ⟨_, by rw [decision, if_neg h, if_neg (lt_irrefl 0)]⟩
  | quorum n =>
    by_cases h : n ≤ succeeded
    · exact ⟨_, by rw [decision, if_pos h]⟩
    · exact ⟨_, by rw [decision, if_neg h, if_neg (by omega)]⟩

lemma evaluateFanIn_verdict (now : ℕ) (h : state.cell.awaiting = true) :
    (state.evaluateFanIn now).map AgentFanInResolution.verdict =
      decision state.cell.policy state.cell.members.length (state.membersWith .succeeded).length
        (state.membersWith .unresolved).length (state.membersWith .timedOut).length := by
  rw [evaluateFanIn, if_pos h]
  cases state.cell.policy with
  | all =>
    dsimp only [decision]
    by_cases hun : 0 < (state.membersWith .unresolved).length
    · rw [if_pos hun, if_pos hun]
      rfl
    · rw [if_neg hun, if_neg hun]
      by_cases hall : (state.membersWith .succeeded).length = state.cell.members.length
      · simp [hall, AgentFanInResolution.verdict]
      · simp [hall, AgentFanInResolution.verdict]
  | any =>
    dsimp only [decision]
    by_cases hsome : state.membersWith .succeeded = []
    · simp only [hsome, ne_eq, not_true_eq_false, if_false, length_nil, lt_irrefl]
      split_ifs <;> rfl
    · rw [if_pos hsome, if_pos (length_pos_iff.mpr hsome)]
      rfl
  | quorum =>
    dsimp only [decision]
    split_ifs <;> rfl

/-! Recording outcomes in any order. -/

/-- A member that is resolved stays as it is, and the group is the same. -/
structure Advances (before after : FanInState) : Prop where
  cell : after.cell = before.cell
  resolved : ∀ member, before.memberDisposition member ≠ .unresolved →
    after.memberDisposition member = before.memberDisposition member

lemma Advances.refl : Advances state state := ⟨rfl, fun _ _ => rfl⟩

lemma Advances.trans {first second third : FanInState} (h : Advances first second)
    (h' : Advances second third) : Advances first third := by
  refine ⟨h'.cell.trans h.cell, fun member hmember => ?_⟩
  have hsecond := h.resolved member hmember
  rw [h'.resolved member (hsecond ▸ hmember), hsecond]

lemma advances_of_cells {before after : FanInState} (hcell : after.cell = before.cell)
    (hcells : ∀ member, before.cellDisposition member ≠ .unresolved →
      after.cellDisposition member = before.cellDisposition member) : Advances before after := by
  refine ⟨hcell, fun member hmember => ?_⟩
  rw [memberDisposition, memberDisposition, hcell]
  rw [memberDisposition] at hmember
  split_ifs at hmember ⊢
  · rfl
  · exact hcells member hmember

lemma setDelegation_advances (delegation : AgentDelegationId)
    {change : AgentDelegationCell → AgentDelegationCell}
    (hchange : ∀ cell, cell.disposition ≠ .unresolved →
      (change cell).disposition = cell.disposition) :
    Advances state (state.setDelegation delegation change) := by
  rw [setDelegation]
  cases hcell : state.delegations[delegation]? with
  | none => exact .refl state
  | some cell =>
    refine advances_of_cells rfl (fun member hmember => ?_)
    cases member with
    | workflowInvocation => rfl
    | delegation =>
      simp only [cellDisposition] at hmember ⊢
      rw [BTreeMap.lookup_insert]
      split_ifs with hsame
      · subst hsame
        rw [hcell] at hmember ⊢
        exact hchange cell hmember
      · rfl

lemma setInvocation_advances (invocation : AgentWorkflowInvocationId)
    {change : AgentWorkflowInvocationCell → AgentWorkflowInvocationCell}
    (hchange : ∀ cell, cell.disposition ≠ .unresolved →
      (change cell).disposition = cell.disposition) :
    Advances state (state.setInvocation invocation change) := by
  rw [setInvocation]
  cases hcell : state.workflowInvocations[invocation]? with
  | none => exact .refl state
  | some cell =>
    refine advances_of_cells rfl (fun member hmember => ?_)
    cases member with
    | delegation => rfl
    | workflowInvocation =>
      simp only [cellDisposition] at hmember ⊢
      rw [BTreeMap.lookup_insert]
      split_ifs with hsame
      · subst hsame
        rw [hcell] at hmember ⊢
        exact hchange cell hmember
      · rfl

lemma record_advances : Advances state (state.record report) := by
  cases report with
  | delegationSettled delegation =>
    refine state.setDelegation_advances delegation (fun cell h => ?_)
    rcases cell with ⟨_ | created | code | code, result⟩
    all_goals first | rfl | exact (h rfl).elim
  | delegationResult delegation =>
    refine state.setDelegation_advances delegation (fun cell h => ?_)
    rcases cell with ⟨_ | created | code | code, _ | result⟩
    all_goals first | rfl | exact (h rfl).elim
  | invocationSettled invocation =>
    refine state.setInvocation_advances invocation (fun cell h => ?_)
    rcases cell with ⟨_ | adopted | code | code, result⟩
    all_goals first | rfl | exact (h rfl).elim
  | invocationResult invocation =>
    refine state.setInvocation_advances invocation (fun cell h => ?_)
    rcases cell with ⟨_ | adopted | code | code, _ | result⟩
    all_goals first | rfl | exact (h rfl).elim

lemma recordAll_advances (reports : List ChildReport) :
    Advances state (state.recordAll reports) := by
  induction reports generalizing state with
  | nil => exact .refl state
  | cons report reports ih => exact (state.record_advances report).trans (ih (state.record report))

lemma memberDisposition_timedOut_iff (member : AgentFanInMemberId) :
    state.memberDisposition member = .timedOut ↔ member ∈ state.cell.timedOut := by
  rw [memberDisposition]
  split_ifs with htimed
  · exact iff_of_true rfl htimed
  · refine iff_of_false ?_ htimed
    cases member with
    | delegation delegation =>
      rw [cellDisposition]
      rcases state.delegations[delegation]? with
        _ | ⟨_ | _ | _ | _, _ | _ | _ | _ | _ | _ | _ | _ | _⟩ <;> exact MemberDisposition.noConfusion
    | workflowInvocation invocation =>
      rw [cellDisposition]
      rcases state.workflowInvocations[invocation]? with _ | ⟨_ | _ | _ | _, _ | _ | _ | _⟩ <;>
        exact MemberDisposition.noConfusion

lemma length_membersWith (disposition : MemberDisposition) :
    (state.membersWith disposition).length = state.cell.members.countP
      (fun member => decide (state.memberDisposition member = disposition)) := by
  rw [membersWith, countP_eq_length_filter]

lemma Advances.verdict {before after : FanInState} (h : Advances before after)
    (hawaiting : before.cell.awaiting = true) {now later : ℕ} {verdict : Bool × String}
    (hverdict : (before.evaluateFanIn now).map AgentFanInResolution.verdict = some verdict) :
    (after.evaluateFanIn later).map AgentFanInResolution.verdict = some verdict := by
  rw [evaluateFanIn_verdict before now hawaiting] at hverdict
  rw [evaluateFanIn_verdict after later (h.cell ▸ hawaiting), h.cell]
  have htimed : (after.membersWith .timedOut).length = (before.membersWith .timedOut).length := by
    rw [length_membersWith, length_membersWith, h.cell]
    refine countP_congr (fun member _ => ?_)
    rw [decide_eq_true_eq, decide_eq_true_eq, memberDisposition_timedOut_iff,
      memberDisposition_timedOut_iff, h.cell]
  have hsucceeded : (before.membersWith .succeeded).length ≤
      (after.membersWith .succeeded).length := by
    rw [length_membersWith, length_membersWith, h.cell]
    refine countP_mono_left (fun member _ hmember => ?_)
    rw [decide_eq_true_eq] at hmember ⊢
    rw [h.resolved member (by rw [hmember]; decide), hmember]
  -- a member that succeeds now was unresolved or had succeeded before
  have hopen : (after.membersWith .succeeded).length + (after.membersWith .unresolved).length ≤
      (before.membersWith .succeeded).length + (before.membersWith .unresolved).length := by
    rw [length_membersWith, length_membersWith, length_membersWith, length_membersWith, h.cell]
    induction before.cell.members with
    | nil => exact le_rfl
    | cons member =>
      simp only [countP_cons, decide_eq_true_eq]
      by_cases hun : before.memberDisposition member = .unresolved
      · rw [hun]
        cases after.memberDisposition member <;> simp <;> omega
      · rw [h.resolved member hun]
        omega
  rw [htimed]
  exact decision_mono hsucceeded hopen hverdict

lemma record_cell (cell : AgentFanInCell) (report : ChildReport) :
    ({ state with cell := cell } : FanInState).record report =
      { state.record report with cell := cell } := by
  cases report with
  | delegationSettled delegation | delegationResult delegation =>
    simp only [record, setDelegation]
    cases state.delegations[delegation]? <;> rfl
  | invocationSettled invocation | invocationResult invocation =>
    simp only [record, setInvocation]
    cases state.workflowInvocations[invocation]? <;> rfl

lemma recordAll_concat (reports : List ChildReport) (report : ChildReport) :
    state.recordAll (reports ++ [report]) = (state.recordAll reports).record report := by
  rw [recordAll, foldl_append]
  rfl

lemma receiveAll_concat (reports : List (ChildReport × ℕ)) (report : ChildReport × ℕ) :
    state.receiveAll (reports ++ [report]) =
      (state.receiveAll reports).receive report.1 report.2 := by
  rw [receiveAll, foldl_append]
  rfl

/-- No consultation decided, or the first that did is kept and decided what the policy decides on
everything recorded. -/
theorem receiveAll_cases {state : FanInState} (hawaiting : state.cell.awaiting = true)
    (reports : List (ChildReport × ℕ)) :
    (state.receiveAll reports = state.recordAll (reports.map Prod.fst) ∧ (reports ≠ [] →
      ∀ now, (state.recordAll (reports.map Prod.fst)).evaluateFanIn now = none)) ∨
    ∃ resolution, state.receiveAll reports = { state.recordAll (reports.map Prod.fst) with
        cell := { state.cell with resolution := some resolution } } ∧
      ∀ now, ((state.recordAll (reports.map Prod.fst)).evaluateFanIn now).map
        AgentFanInResolution.verdict = some resolution.verdict := by
  induction reports using List.reverseRecOn with
  | nil => exact .inl ⟨rfl, fun h => (h rfl).elim⟩
  | append_singleton reports report ih =>
    rw [receiveAll_concat, map_append, map_singleton, recordAll_concat]
    have hadvances := (state.recordAll_advances (reports.map Prod.fst)).trans
      ((state.recordAll (reports.map Prod.fst)).record_advances report.1)
    have hafter := hadvances.cell
    rcases ih with ⟨hsame, -⟩ | ⟨resolution, hresolved, hverdict⟩
    · rw [hsame, receive, tryResolveFanIn]
      -- the time of a consultation does not matter for its verdict
      have hverdict := fun now => (evaluateFanIn_verdict _ report.2 (hafter ▸ hawaiting)).trans
        (evaluateFanIn_verdict _ now (hafter ▸ hawaiting)).symm
      cases heval : ((state.recordAll (reports.map Prod.fst)).record report.1).evaluateFanIn
          report.2 with
      | none =>
        rw [heval] at hverdict
        exact .inl ⟨rfl, fun _ now => Option.map_eq_none_iff.mp (hverdict now).symm⟩
      | some resolution =>
        rw [heval] at hverdict
        exact .inr ⟨resolution, by rw [hafter], fun now => (hverdict now).symm⟩
    · refine .inr ⟨resolution, ?_, fun now => ?_⟩
      · -- the group no longer waits, so the policy is not evaluated again
        rw [hresolved, receive, record_cell, tryResolveFanIn, evaluateFanIn, if_neg]
        simp [AgentFanInCell.awaiting]
      · have hbefore := (state.recordAll_advances (reports.map Prod.fst)).cell
        exact ((state.recordAll (reports.map Prod.fst)).record_advances report.1).verdict
          (hbefore ▸ hawaiting) (hverdict now)

def outcomeCount (members : List AgentFanInMemberId)
    (outcome : AgentFanInMemberId → MemberDisposition) (disposition : MemberDisposition) : ℕ :=
  members.countP (fun member => decide (outcome member = disposition))

def Settled (outcome : AgentFanInMemberId → MemberDisposition) : Prop :=
  ∀ member ∈ state.cell.members,
    state.memberDisposition member = outcome member ∧ outcome member ≠ .unresolved

lemma Settled.evaluateFanIn {state : FanInState}
    {outcome : AgentFanInMemberId → MemberDisposition} (h : state.Settled outcome)
    (hawaiting : state.cell.awaiting = true) (now : ℕ) :
    (state.evaluateFanIn now).map AgentFanInResolution.verdict =
      decision state.cell.policy state.cell.members.length
        (outcomeCount state.cell.members outcome .succeeded) 0
        (outcomeCount state.cell.members outcome .timedOut) := by
  have hcount : ∀ disposition, (state.membersWith disposition).length =
      outcomeCount state.cell.members outcome disposition := by
    intro disposition
    rw [length_membersWith, outcomeCount]
    refine countP_congr (fun member hmember => ?_)
    rw [(h member hmember).1]
  have hnone : outcomeCount state.cell.members outcome .unresolved = 0 := by
    rw [outcomeCount, countP_eq_zero]
    intro member hmember
    simpa using (h member hmember).2
  rw [evaluateFanIn_verdict state now hawaiting, hcount, hcount, hcount, hnone]

def Waiting : AgentFanInMemberId → Prop
  | .delegation delegation => ∀ cell ∈ state.delegations[delegation]?, cell.status = .pending
  | .workflowInvocation invocation =>
    ∀ cell ∈ state.workflowInvocations[invocation]?, cell.status = .pending

lemma Waiting.unresolved {state : FanInState} {member : AgentFanInMemberId}
    (h : state.Waiting member) (htimed : member ∉ state.cell.timedOut) :
    state.memberDisposition member = .unresolved := by
  rw [memberDisposition, if_neg htimed]
  cases member with
  | delegation delegation =>
    rw [cellDisposition]
    cases hcell : state.delegations[delegation]? with
    | none => rfl
    | some cell => simp only [AgentDelegationCell.disposition, h cell hcell]
  | workflowInvocation invocation =>
    rw [cellDisposition]
    cases hcell : state.workflowInvocations[invocation]? with
    | none => rfl
    | some cell => simp only [AgentWorkflowInvocationCell.disposition, h cell hcell]

lemma satisfiedBy_succeeded {state : FanInState} {now : ℕ} {resolution : AgentFanInResolution}
    (h : state.evaluateFanIn now = some resolution) {member : AgentFanInMemberId}
    (hmember : member ∈ resolution.satisfiedBy) : state.memberDisposition member = .succeeded := by
  have hsublist : resolution.satisfiedBy = state.membersWith .succeeded ∨
      resolution.satisfiedBy = [] := by
    rw [FanInState.evaluateFanIn] at h
    split_ifs at h
    cases hpolicy : state.cell.policy with
    | all | any | quorum =>
      simp only [hpolicy] at h
      split_ifs at h <;> cases h
      · exact .inl rfl
      · exact .inr rfl
      · exact .inr rfl
  rcases hsublist with hall | hnone
  · rw [hall, membersWith, mem_filter] at hmember
    exact of_decide_eq_true hmember.2
  · rw [hnone] at hmember
    exact absurd hmember not_mem_nil

lemma markTimedOut_resolved (member : AgentFanInMemberId) (hmember : member ∈ state.cell.members)
    : state.markTimedOut.memberDisposition member ≠ .unresolved := by
  by_cases hun : state.memberDisposition member = .unresolved
  · have hmarked : member ∈ state.markTimedOut.cell.timedOut :=
      mem_append_right _ (mem_filter.mpr ⟨hmember, decide_eq_true hun⟩)
    rw [(memberDisposition_timedOut_iff _ member).mpr hmarked]
    decide
  · by_cases htimed : member ∈ state.markTimedOut.cell.timedOut
    · rw [(memberDisposition_timedOut_iff _ member).mpr htimed]
      decide
    · have hbefore : member ∉ state.cell.timedOut :=
        fun h => htimed (mem_append_left _ h)
      rw [memberDisposition, if_neg hbefore] at hun
      rw [memberDisposition, if_neg htimed]
      exact hun

/-- The first resolution decides what the policy decides on all outcomes, in whatever order they
arrive. A member whose child is pending or unknown cannot change it, and a deadline resolves. -/
theorem fan_in_verdict_order_free (state : FanInState) (hawaiting : state.cell.awaiting = true) :
    (∀ outcome reports, reports ≠ [] → (state.recordAll (reports.map Prod.fst)).Settled outcome →
        ∃ resolution, (state.receiveAll reports).cell.resolution = some resolution ∧
          (∀ now, ((state.recordAll (reports.map Prod.fst)).evaluateFanIn now).map
            AgentFanInResolution.verdict = some resolution.verdict) ∧
          decision state.cell.policy state.cell.members.length
            (outcomeCount state.cell.members outcome .succeeded) 0
            (outcomeCount state.cell.members outcome .timedOut) = some resolution.verdict) ∧
    (∀ member, state.Waiting member → member ∉ state.cell.timedOut →
      ∀ now resolution, state.evaluateFanIn now = some resolution →
        member ∉ resolution.satisfiedBy ∧ ∀ reports later,
          ((state.recordAll reports).evaluateFanIn later).map AgentFanInResolution.verdict =
            some resolution.verdict) ∧
    ∀ now, ∃ resolution, state.markTimedOut.evaluateFanIn now = some resolution := by
  refine ⟨?_, ?_, ?_⟩
  · intro outcome reports hreports hsettled
    have hcell := (state.recordAll_advances (reports.map Prod.fst)).cell
    have hfinal := fun now => hsettled.evaluateFanIn (hcell ▸ hawaiting) now
    rw [hcell] at hfinal
    obtain ⟨verdict, hdecided⟩ := decision_of_resolved state.cell.policy state.cell.members.length
      (outcomeCount state.cell.members outcome .succeeded)
      (outcomeCount state.cell.members outcome .timedOut)
    rcases receiveAll_cases hawaiting reports with ⟨-, hnone⟩ | ⟨resolution, hresolved, hverdict⟩
    · have hcontra := hfinal 0
      rw [hnone hreports 0, hdecided] at hcontra
      cases hcontra
    · refine ⟨resolution, by rw [hresolved], hverdict, ?_⟩
      rw [← hfinal 0, hverdict 0]
  · intro member hwaiting htimed now resolution hresolution
    refine ⟨fun hmember => ?_, fun reports later => ?_⟩
    · have hsucceeded := satisfiedBy_succeeded hresolution hmember
      rw [hwaiting.unresolved htimed] at hsucceeded
      cases hsucceeded
    · exact (state.recordAll_advances reports).verdict hawaiting
        (congrArg (Option.map AgentFanInResolution.verdict) hresolution)
  · intro now
    have hsettled : state.markTimedOut.Settled state.markTimedOut.memberDisposition :=
      fun member hmember => ⟨rfl, state.markTimedOut_resolved member hmember⟩
    have heval := hsettled.evaluateFanIn hawaiting now
    obtain ⟨verdict, hdecided⟩ := decision_of_resolved state.markTimedOut.cell.policy
      state.markTimedOut.cell.members.length
      (outcomeCount state.markTimedOut.cell.members state.markTimedOut.memberDisposition .succeeded)
      (outcomeCount state.markTimedOut.cell.members state.markTimedOut.memberDisposition .timedOut)
    rw [hdecided, Option.map_eq_some_iff] at heval
    exact ⟨heval.choose, heval.choose_spec.1⟩

def twoChildren : FanInState where
  cell := ⟨.any, [.delegation ⟨"first"⟩, .delegation ⟨"second"⟩], true, [], none⟩
  delegations := (∅ : BTreeMap AgentDelegationId AgentDelegationCell)
    |>.insert ⟨"first"⟩ ⟨.childCreated "t1", none⟩
    |>.insert ⟨"second"⟩ ⟨.childCreated "t2", none⟩
  workflowInvocations := ∅

/-- One child fails and the other completes afterwards: the group is satisfied. -/
theorem two_children_satisfied : ∃ resolution, (twoChildren.receiveAll
        [(.delegationResult ⟨"first"⟩ "t1" .failed, 1),
          (.delegationResult ⟨"second"⟩ "t2" .completed, 2)]).cell.resolution = some resolution ∧
      resolution.verdict = (true, "any-satisfied") := by
  obtain ⟨resolution, hresolved, -, hverdict⟩ :=
    (fan_in_verdict_order_free twoChildren rfl).1
      (fun member => if member = .delegation ⟨"first"⟩ then .failed else .succeeded)
      [(.delegationResult ⟨"first"⟩ "t1" .failed, 1),
        (.delegationResult ⟨"second"⟩ "t2" .completed, 2)]
      (cons_ne_nil _ _) (by unfold Settled; decide +kernel)
  refine ⟨resolution, hresolved, ?_⟩
  exact (Option.some.inj hverdict).symm

end FanInState
end Rakka.Agent
