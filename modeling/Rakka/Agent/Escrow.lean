import Rakka.Agent.Budget
import Rakka.Foundation.Attempt
import Rakka.Foundation.Totals

/-! The escrow ledger of one scope: what it holds, what was consumed of it and what its children
hold of it. -/

namespace Rakka.Agent
open Foundation AgentBudgetAllocation

structure AgentEscrowChildId where
  value : String
  deriving DecidableEq, Repr

lemma AgentEscrowChildId.value_injective : Function.Injective AgentEscrowChildId.value :=
  fun ⟨_⟩ ⟨_⟩ h => congrArg AgentEscrowChildId.mk h

instance : LinearOrder AgentEscrowChildId :=
  LinearOrder.lift' AgentEscrowChildId.value AgentEscrowChildId.value_injective

instance : Std.TransOrd AgentEscrowChildId := inferInstance

structure AgentChildEscrow where
  allocated : AgentBudgetAllocation
  grantedThrough : ℕ
  lastTopUp : Option AgentBudgetAllocation
  settled : Option AgentBudgetConsumption
  deriving DecidableEq, Repr

inductive AgentEscrowError where
  | childCapacity (capacity : ℕ)
  | unknownChild (child : AgentEscrowChildId)
  | notSettled (child : AgentEscrowChildId)
  | alreadySettled (child : AgentEscrowChildId)
  | staleTopUp (child : AgentEscrowChildId) (sequence grantedThrough : ℕ)
  deriving DecidableEq, Repr

def agentEscrowChildCapacity : ℕ := 64

structure AgentEscrowLedger where
  allocation : AgentBudgetAllocation
  consumed : AgentBudgetConsumption
  outstanding : BTreeMap AgentEscrowChildId AgentChildEscrow
  deriving DecidableEq

namespace AgentEscrowLedger

def new (allocation : AgentBudgetAllocation) : AgentEscrowLedger := ⟨allocation, .zero, ∅⟩

def child (ledger : AgentEscrowLedger) (child : AgentEscrowChildId) : Option AgentChildEscrow :=
  ledger.outstanding[child]?

def available (ledger : AgentEscrowLedger) (dimension : AgentBudgetDimension) : Option UInt64 :=
  (ledger.allocation.get dimension).map (fun allocation =>
    let outstanding := (ledger.outstanding.valuesInOrder.map (fun escrow =>
      (escrow.allocated.get dimension).getD 0)).foldl UInt64.saturatingAdd 0
    UInt64.saturatingSub (UInt64.saturatingSub allocation (ledger.consumed.get dimension))
      outstanding)

def availableAllocation (ledger : AgentEscrowLedger) : AgentBudgetAllocation :=
  unbounded.setConserved ledger.available

def openChild (child : AgentEscrowChildId) (request : AgentBudgetAllocation) :
    Attempt AgentEscrowError AgentEscrowLedger AgentBudgetAllocation := fun ledger =>
  match ledger.outstanding[child]? with
  | some escrow => (.ok escrow.allocated, ledger)
  | none =>
    if agentEscrowChildCapacity ≤ ledger.outstanding.size then
      (.error (.childCapacity agentEscrowChildCapacity), ledger)
    else
      let allocated := request.narrowedTo ledger.availableAllocation
      (.ok allocated,
        { ledger with outstanding := ledger.outstanding.insert child ⟨allocated, 0, none, none⟩ })

def topUpChild (child : AgentEscrowChildId) (sequence : ℕ) (request : AgentBudgetAllocation) :
    Attempt AgentEscrowError AgentEscrowLedger AgentBudgetAllocation := fun ledger =>
  match ledger.outstanding[child]? with
  | none => (.error (.unknownChild child), ledger)
  | some escrow =>
    if sequence ≤ escrow.grantedThrough then
      match decide (sequence = escrow.grantedThrough), escrow.lastTopUp with
      | true, some granted => (.ok granted, ledger)
      | _, _ => (.error (.staleTopUp child sequence escrow.grantedThrough), ledger)
    else if escrow.settled.isSome then (.error (.alreadySettled child), ledger)
    else
      let granted := request.narrowedTo ledger.availableAllocation
      (.ok granted, { ledger with
        outstanding := ledger.outstanding.insert child { escrow with
          allocated := escrow.allocated.saturatingAdd granted
          grantedThrough := sequence
          lastTopUp := some granted } })

def settleChild (child : AgentEscrowChildId) (consumed : AgentBudgetConsumption) :
    Attempt AgentEscrowError AgentEscrowLedger AgentBudgetConsumption := fun ledger =>
  match ledger.outstanding[child]? with
  | none => (.error (.unknownChild child), ledger)
  | some escrow =>
    match escrow.settled with
    | some settled => (.ok settled, ledger)
    | none =>
      (.ok consumed, { ledger with
        outstanding := ledger.outstanding.insert child { escrow with settled := some consumed }
        consumed := ledger.consumed.saturatingAdd consumed })

def returnChild (child : AgentEscrowChildId) :
    Attempt AgentEscrowError AgentEscrowLedger AgentBudgetAllocation := fun ledger =>
  match ledger.outstanding[child]? with
  | none => (.error (.unknownChild child), ledger)
  | some escrow =>
    match escrow.settled with
    | none => (.error (.notSettled child), ledger)
    | some settled =>
      let released := unbounded.setConserved (fun dimension =>
        (escrow.allocated.get dimension).map (fun held =>
          UInt64.saturatingSub held (settled.get dimension)))
      (.ok released, { ledger with outstanding := ledger.outstanding.erase child })

def widen (additional ceiling : AgentBudgetAllocation) :
    Attempt AgentEscrowError AgentEscrowLedger AgentBudgetAllocation := fun ledger =>
  let widened := ledger.allocation.setConserved (fun dimension =>
    match additional.get dimension, ledger.allocation.get dimension with
    | some added, some held =>
      let target := UInt64.saturatingAdd held added
      let target := ((ceiling.get dimension).map (min target)).getD target
      some (max held target)
    | _, held => held)
  (.ok widened, { ledger with allocation := widened })

end AgentEscrowLedger

inductive EscrowCall where
  | openChild (child : AgentEscrowChildId) (request : AgentBudgetAllocation)
  | topUpChild (child : AgentEscrowChildId) (sequence : ℕ) (request : AgentBudgetAllocation)
  | settleChild (child : AgentEscrowChildId) (consumed : AgentBudgetConsumption)
  | returnChild (child : AgentEscrowChildId)
  | widen (additional ceiling : AgentBudgetAllocation)

inductive EscrowAnswer where
  | granted (allocation : AgentBudgetAllocation)
  | settled (consumed : AgentBudgetConsumption)
  deriving DecidableEq, Repr

namespace AgentEscrowLedger
variable {ledger : AgentEscrowLedger} {dimension : AgentBudgetDimension} {bound : UInt64}

def perform (call : EscrowCall) : Attempt AgentEscrowError AgentEscrowLedger EscrowAnswer :=
  fun ledger =>
    match call with
    | .openChild child request =>
      (openChild child request ledger).map (Except.map .granted) id
    | .topUpChild child sequence request =>
      (topUpChild child sequence request ledger).map (Except.map .granted) id
    | .settleChild child consumed =>
      (settleChild child consumed ledger).map (Except.map .settled) id
    | .returnChild child => (returnChild child ledger).map (Except.map .granted) id
    | .widen additional ceiling => (widen additional ceiling ledger).map (Except.map .granted) id

def held (dimension : AgentBudgetDimension) (escrow : AgentChildEscrow) : ℕ :=
  escrow.allocated.amount dimension

def unsettled (dimension : AgentBudgetDimension) (escrow : AgentChildEscrow) : ℕ :=
  if escrow.settled.isSome then 0 else held dimension escrow

lemma toNat_available (h : ledger.allocation.get dimension = some bound) :
    ∃ headroom, ledger.available dimension = some headroom ∧
      headroom.toNat = bound.toNat - (ledger.consumed.get dimension).toNat -
        min (BTreeMap.total (held dimension) ledger.outstanding) u64Max := by
  refine ⟨_, by rw [available, h]; rfl, ?_⟩
  have hsum : (ledger.outstanding.valuesInOrder.map (fun escrow =>
      (escrow.allocated.get dimension).getD 0)).map UInt64.toNat =
      ledger.outstanding.valuesInOrder.map (held dimension) := by
    rw [List.map_map]
    refine List.map_congr_left (fun escrow _ => ?_)
    rw [Function.comp_apply, held, amount]
    cases escrow.allocated.get dimension <;> rfl
  rw [UInt64.toNat_saturatingSub, UInt64.toNat_saturatingSub, UInt64.toNat_foldl_saturatingAdd,
    hsum, BTreeMap.total]
  simp

lemma get_availableAllocation (h : ledger.allocation.get dimension = some bound) :
    ledger.availableAllocation.get dimension = ledger.available dimension := by
  rw [availableAllocation, get_setConserved, if_pos (isConserved_of_get h)]

end AgentEscrowLedger
end Rakka.Agent
