import Rakka.Foundation.Saturating

/-! Budgets of agents by dimension: what a scope holds, where an absent amount is unbounded, and
what it consumed. -/

namespace Rakka.Agent
open Foundation

inductive AgentBudgetDimension where
  | loopIterations
  | modelCalls
  | toolCalls
  | effects
  | effectAttempts
  | tokens
  | cost
  | wallClock
  | concurrentEffects
  | descendants
  deriving DecidableEq, Repr

namespace AgentBudgetDimension

def conserved : List AgentBudgetDimension :=
  [.loopIterations, .modelCalls, .toolCalls, .effects, .effectAttempts, .tokens, .cost,
    .descendants]

def isConserved : AgentBudgetDimension → Bool
  | .wallClock | .concurrentEffects => false
  | _ => true

lemma mem_conserved {dimension : AgentBudgetDimension} (h : dimension.isConserved = true) :
    dimension ∈ conserved := by
  cases dimension with
  | wallClock | concurrentEffects => cases h
  | _ => decide

end AgentBudgetDimension

structure AgentBudgetAllocation where
  loopIterations : Option UInt64
  modelCalls : Option UInt64
  toolCalls : Option UInt64
  effects : Option UInt64
  effectAttempts : Option UInt64
  tokens : Option UInt64
  costMicros : Option UInt64
  descendants : Option UInt64
  deriving DecidableEq, Repr

namespace AgentBudgetAllocation
variable {dimension : AgentBudgetDimension} {allocation : AgentBudgetAllocation} {bound : UInt64}

def unbounded : AgentBudgetAllocation := ⟨none, none, none, none, none, none, none, none⟩

def nothing : AgentBudgetAllocation :=
  ⟨some 0, some 0, some 0, some 0, some 0, some 0, some 0, some 0⟩

def get (allocation : AgentBudgetAllocation) : AgentBudgetDimension → Option UInt64
  | .loopIterations => allocation.loopIterations
  | .modelCalls => allocation.modelCalls
  | .toolCalls => allocation.toolCalls
  | .effects => allocation.effects
  | .effectAttempts => allocation.effectAttempts
  | .tokens => allocation.tokens
  | .cost => allocation.costMicros
  | .descendants => allocation.descendants
  | .wallClock | .concurrentEffects => none

def set (allocation : AgentBudgetAllocation) (dimension : AgentBudgetDimension)
    (amount : Option UInt64) : AgentBudgetAllocation :=
  match dimension with
  | .loopIterations => { allocation with loopIterations := amount }
  | .modelCalls => { allocation with modelCalls := amount }
  | .toolCalls => { allocation with toolCalls := amount }
  | .effects => { allocation with effects := amount }
  | .effectAttempts => { allocation with effectAttempts := amount }
  | .tokens => { allocation with tokens := amount }
  | .cost => { allocation with costMicros := amount }
  | .descendants => { allocation with descendants := amount }
  | .wallClock | .concurrentEffects => allocation

def setConserved (base : AgentBudgetAllocation) (amount : AgentBudgetDimension → Option UInt64) :
    AgentBudgetAllocation :=
  AgentBudgetDimension.conserved.foldl (fun allocation dimension =>
    allocation.set dimension (amount dimension)) base

def narrowedTo (held ceiling : AgentBudgetAllocation) : AgentBudgetAllocation :=
  held.setConserved (fun dimension =>
    match held.get dimension, ceiling.get dimension with
    | none, bound => bound
    | held, none => held
    | some held, some bound => some (min held bound))

def saturatingAdd (held other : AgentBudgetAllocation) : AgentBudgetAllocation :=
  held.setConserved (fun dimension =>
    match held.get dimension, other.get dimension with
    | some held, some added => some (UInt64.saturatingAdd held added)
    | _, _ => none)

lemma get_setConserved (base : AgentBudgetAllocation)
    (amount : AgentBudgetDimension → Option UInt64) (dimension : AgentBudgetDimension) :
    (base.setConserved amount).get dimension =
      if dimension.isConserved then amount dimension else none := by
  cases dimension <;> rfl

lemma isConserved_of_get (h : allocation.get dimension = some bound) :
    dimension.isConserved = true := by
  cases dimension with
  | wallClock | concurrentEffects => cases h
  | loopIterations => rfl
  | modelCalls | toolCalls | effects | effectAttempts | tokens | cost | descendants => rfl

def amount (allocation : AgentBudgetAllocation) (dimension : AgentBudgetDimension) : ℕ :=
  ((allocation.get dimension).map UInt64.toNat).getD 0

lemma amount_of_get {held : UInt64} (h : allocation.get dimension = some held) :
    allocation.amount dimension = held.toNat := by
  rw [amount, h]
  rfl

lemma narrowedTo_bounded (held : AgentBudgetAllocation) {ceiling : AgentBudgetAllocation}
    (h : ceiling.get dimension = some bound) :
    ∃ granted, (held.narrowedTo ceiling).get dimension = some granted ∧
      granted.toNat ≤ bound.toNat := by
  rw [narrowedTo, get_setConserved, if_pos (isConserved_of_get h), h]
  cases held.get dimension with
  | none => exact ⟨bound, rfl, le_rfl⟩
  | some amount =>
    refine ⟨min amount bound, rfl, ?_⟩
    rw [UInt64.toNat_min]
    exact min_le_right _ _

lemma saturatingAdd_bounded {held other : AgentBudgetAllocation} {amount added : UInt64}
    (hheld : held.get dimension = some amount) (hother : other.get dimension = some added) :
    (held.saturatingAdd other).get dimension = some (UInt64.saturatingAdd amount added) := by
  rw [saturatingAdd, get_setConserved, if_pos (isConserved_of_get hheld), hheld, hother]

end AgentBudgetAllocation

structure AgentBudgetConsumption where
  loopIterations : UInt64
  modelCalls : UInt64
  toolCalls : UInt64
  effects : UInt64
  effectAttempts : UInt64
  tokens : UInt64
  costMicros : UInt64
  descendants : UInt64
  deriving DecidableEq, Repr

namespace AgentBudgetConsumption
variable (consumption : AgentBudgetConsumption)

def zero : AgentBudgetConsumption := ⟨0, 0, 0, 0, 0, 0, 0, 0⟩

def get : AgentBudgetDimension → UInt64
  | .loopIterations => consumption.loopIterations
  | .modelCalls => consumption.modelCalls
  | .toolCalls => consumption.toolCalls
  | .effects => consumption.effects
  | .effectAttempts => consumption.effectAttempts
  | .tokens => consumption.tokens
  | .cost => consumption.costMicros
  | .descendants => consumption.descendants
  | .wallClock | .concurrentEffects => 0

def add (dimension : AgentBudgetDimension) (amount : UInt64) : AgentBudgetConsumption :=
  match dimension with
  | .loopIterations =>
    { consumption with loopIterations := UInt64.saturatingAdd consumption.loopIterations amount }
  | .modelCalls =>
    { consumption with modelCalls := UInt64.saturatingAdd consumption.modelCalls amount }
  | .toolCalls => { consumption with toolCalls := UInt64.saturatingAdd consumption.toolCalls amount }
  | .effects => { consumption with effects := UInt64.saturatingAdd consumption.effects amount }
  | .effectAttempts =>
    { consumption with effectAttempts := UInt64.saturatingAdd consumption.effectAttempts amount }
  | .tokens => { consumption with tokens := UInt64.saturatingAdd consumption.tokens amount }
  | .cost =>
    { consumption with costMicros := UInt64.saturatingAdd consumption.costMicros amount }
  | .descendants =>
    { consumption with descendants := UInt64.saturatingAdd consumption.descendants amount }
  | .wallClock | .concurrentEffects => consumption

def saturatingAdd (other : AgentBudgetConsumption) : AgentBudgetConsumption :=
  AgentBudgetDimension.conserved.foldl (fun sum dimension =>
    sum.add dimension (other.get dimension)) consumption

lemma get_saturatingAdd (other : AgentBudgetConsumption) {dimension : AgentBudgetDimension}
    (h : dimension.isConserved = true) : (consumption.saturatingAdd other).get dimension =
      UInt64.saturatingAdd (consumption.get dimension) (other.get dimension) := by
  cases dimension with
  | wallClock | concurrentEffects => cases h
  | loopIterations => rfl
  | modelCalls | toolCalls | effects | effectAttempts | tokens | cost | descendants => rfl

lemma get_zero (dimension : AgentBudgetDimension) : zero.get dimension = 0 := by
  cases dimension <;> rfl

end AgentBudgetConsumption
end Rakka.Agent
