import Rakka.Agent.Escrow
import Rakka.Foundation.Runs

/-! Whole histories of an escrow ledger: what it promised never exceeds what it holds, and what
a call answers when it is made again. -/

namespace Rakka.Agent
open Foundation AgentBudgetAllocation AgentBudgetConsumption BTreeMap

namespace AgentEscrowLedger
variable {ledger : AgentEscrowLedger}
variable {dimension : AgentBudgetDimension} {bound : UInt64}
variable {call : EscrowCall}
variable (child : AgentEscrowChildId)

def settlement (ledger : AgentEscrowLedger) : EscrowCall → Option AgentBudgetConsumption
  | .settleChild child consumed =>
    match ledger.outstanding[child]? with
    | some escrow => if escrow.settled.isNone then some consumed else none
    | none => none
  | _ => none

/-- What a call did: it was refused, answered from the record, or took effect. -/
inductive Performed (ledger : AgentEscrowLedger) :
    EscrowCall → Except AgentEscrowError EscrowAnswer → AgentEscrowLedger →
      Option AgentBudgetConsumption → Prop
  | refused (call : EscrowCall) (error : AgentEscrowError) :
    Performed ledger call (.error error) ledger none
  | reopened {child : AgentEscrowChildId} {escrow : AgentChildEscrow}
    (request : AgentBudgetAllocation) (hchild : ledger.outstanding[child]? = some escrow) :
    Performed ledger (.openChild child request) (.ok (.granted escrow.allocated)) ledger none
  | opened {child : AgentEscrowChildId} (request : AgentBudgetAllocation)
    (hchild : ledger.outstanding[child]? = none) :
    Performed ledger (.openChild child request)
      (.ok (.granted (request.narrowedTo ledger.availableAllocation)))
      { ledger with
        outstanding := ledger.outstanding.insert child
          ⟨request.narrowedTo ledger.availableAllocation, 0, none, none⟩ } none
  | regranted {child : AgentEscrowChildId} {escrow : AgentChildEscrow}
    {granted : AgentBudgetAllocation} (request : AgentBudgetAllocation)
    (hchild : ledger.outstanding[child]? = some escrow) (hlast : escrow.lastTopUp = some granted) :
    Performed ledger (.topUpChild child escrow.grantedThrough request) (.ok (.granted granted))
      ledger none
  | toppedUp {child : AgentEscrowChildId} {escrow : AgentChildEscrow} {sequence : ℕ}
    (request : AgentBudgetAllocation) (hchild : ledger.outstanding[child]? = some escrow)
    (hsequence : escrow.grantedThrough < sequence) (hopen : escrow.settled = none) :
    Performed ledger (.topUpChild child sequence request)
      (.ok (.granted (request.narrowedTo ledger.availableAllocation)))
      { ledger with outstanding := ledger.outstanding.insert child { escrow with
          allocated := escrow.allocated.saturatingAdd
            (request.narrowedTo ledger.availableAllocation)
          grantedThrough := sequence
          lastTopUp := some (request.narrowedTo ledger.availableAllocation) } } none
  | resettled {child : AgentEscrowChildId} {escrow : AgentChildEscrow}
    {settled : AgentBudgetConsumption} (consumed : AgentBudgetConsumption)
    (hchild : ledger.outstanding[child]? = some escrow) (hsettled : escrow.settled = some settled) :
    Performed ledger (.settleChild child consumed) (.ok (.settled settled)) ledger none
  | settled {child : AgentEscrowChildId} {escrow : AgentChildEscrow}
    (consumed : AgentBudgetConsumption) (hchild : ledger.outstanding[child]? = some escrow)
    (hopen : escrow.settled = none) :
    Performed ledger (.settleChild child consumed) (.ok (.settled consumed))
      { ledger with
        outstanding := ledger.outstanding.insert child { escrow with settled := some consumed }
        consumed := ledger.consumed.saturatingAdd consumed } (some consumed)
  | returned {child : AgentEscrowChildId} {escrow : AgentChildEscrow}
    {settled : AgentBudgetConsumption} (hchild : ledger.outstanding[child]? = some escrow)
    (hsettled : escrow.settled = some settled) :
    Performed ledger (.returnChild child)
      (.ok (.granted (unbounded.setConserved (fun dimension =>
        (escrow.allocated.get dimension).map (fun held =>
          UInt64.saturatingSub held (settled.get dimension))))))
      { ledger with outstanding := ledger.outstanding.erase child } none
  | widened (additional ceiling : AgentBudgetAllocation) :
    Performed ledger (.widen additional ceiling)
      (.ok (.granted ((widen additional ceiling ledger).2.allocation)))
      (widen additional ceiling ledger).2 none

lemma performed (call : EscrowCall) (ledger : AgentEscrowLedger) :
    Performed ledger call (perform call ledger).1 (perform call ledger).2
      (settlement ledger call) := by
  cases call with
  | openChild child request =>
    simp only [perform, openChild]
    cases hchild : ledger.outstanding[child]? with
    | some => exact .reopened request hchild
    | none =>
      dsimp only
      split_ifs
      · exact .refused _ _
      · exact .opened request hchild
  | topUpChild child sequence request =>
    simp only [perform, topUpChild]
    cases hchild : ledger.outstanding[child]? with
    | none => exact .refused _ _
    | some escrow =>
      dsimp only
      split_ifs with hsequence hsettled
      · split
        · rename_i granted hsame hlast
          obtain rfl : sequence = escrow.grantedThrough := of_decide_eq_true hsame
          exact .regranted request hchild hlast
        · exact .refused _ _
      · exact .refused _ _
      · exact .toppedUp request hchild (Nat.lt_of_not_le hsequence)
          (Option.not_isSome_iff_eq_none.mp hsettled)
  | settleChild child consumed =>
    simp only [perform, settleChild, settlement]
    cases hchild : ledger.outstanding[child]? with
    | none => exact .refused _ _
    | some escrow =>
      cases hsettled : escrow.settled with
      | none => simpa only [hsettled] using .settled consumed hchild hsettled
      | some => simpa only [hsettled] using .resettled consumed hchild hsettled
  | returnChild child =>
    simp only [perform, returnChild]
    cases hchild : ledger.outstanding[child]? with
    | none => exact .refused _ _
    | some escrow =>
      cases hsettled : escrow.settled with
      | none => simpa only [hsettled] using .refused _ _
      | some => simpa only [hsettled] using .returned hchild hsettled
  | widen additional ceiling => exact .widened additional ceiling

/-- Where the scope is bounded, every child is, and so was its last top-up. -/
def BoundsChildren (ledger : AgentEscrowLedger) : Prop :=
  ∀ dimension bound, ledger.allocation.get dimension = some bound →
    ∀ (child : AgentEscrowChildId) (escrow : AgentChildEscrow),
      ledger.outstanding[child]? = some escrow → (escrow.allocated.get dimension).isSome ∧
        ∀ granted, escrow.lastTopUp = some granted → (granted.get dimension).isSome

lemma narrowedTo_available (request : AgentBudgetAllocation)
    (hbound : ledger.allocation.get dimension = some bound) :
    ∃ granted, (request.narrowedTo ledger.availableAllocation).get dimension = some granted ∧
      granted.toNat ≤ bound.toNat - (ledger.consumed.get dimension).toNat -
        min (BTreeMap.total (held dimension) ledger.outstanding) u64Max := by
  obtain ⟨headroom, havailable, hheadroom⟩ := toNat_available hbound
  obtain ⟨granted, hgranted, hle⟩ := request.narrowedTo_bounded
    ((get_availableAllocation hbound).trans havailable)
  exact ⟨granted, hgranted, hheadroom ▸ hle⟩

lemma widen_bound (additional ceiling : AgentBudgetAllocation)
    (h : (widen additional ceiling ledger).2.allocation.get dimension = some bound) :
    ∃ held, ledger.allocation.get dimension = some held ∧ held.toNat ≤ bound.toNat := by
  have hconserved := isConserved_of_get h
  simp only [widen, get_setConserved, hconserved, if_true] at h
  cases hheld : ledger.allocation.get dimension with
  | none =>
    rw [hheld] at h
    cases hadded : additional.get dimension with
    | none | some => simp [hadded] at h
  | some held =>
    refine ⟨held, rfl, ?_⟩
    rw [hheld] at h
    cases hadded : additional.get dimension with
    | none =>
      rw [hadded] at h
      cases h
      exact le_rfl
    | some =>
      rw [hadded] at h
      cases h
      rw [UInt64.toNat_max]
      exact le_max_left _ _

lemma BoundsChildren.insert (h : BoundsChildren ledger) (child : AgentEscrowChildId)
    {escrow : AgentChildEscrow}
    (hnew : ∀ dimension bound, ledger.allocation.get dimension = some bound →
      (escrow.allocated.get dimension).isSome ∧
        ∀ granted, escrow.lastTopUp = some granted → (granted.get dimension).isSome)
    (consumed : AgentBudgetConsumption) : BoundsChildren { ledger with
      outstanding := ledger.outstanding.insert child escrow
      consumed := consumed } := by
  intro dimension bound hbound
  exact forall_insert (h dimension bound hbound) (hnew dimension bound hbound)

section Performed
variable {answer : Except AgentEscrowError EscrowAnswer} {after : AgentEscrowLedger}
  {made : Option AgentBudgetConsumption} (hperformed : Performed ledger call answer after made)
include hperformed

lemma BoundsChildren.step (h : BoundsChildren ledger) : BoundsChildren after := by
  cases hperformed with
  | refused | reopened | regranted | resettled => exact h
  | opened request =>
    refine h.insert _ (fun dimension bound hbound => ?_) ledger.consumed
    obtain ⟨granted, hgranted, _⟩ := narrowedTo_available request hbound
    exact ⟨by rw [hgranted]; rfl, fun _ hlast => by cases hlast⟩
  | toppedUp request hchild =>
    refine h.insert _ (fun dimension bound hbound => ?_) ledger.consumed
    obtain ⟨granted, hgranted, _⟩ := narrowedTo_available request hbound
    obtain ⟨amount, hamount⟩ := Option.isSome_iff_exists.mp (h dimension bound hbound _ _ hchild).1
    refine ⟨by rw [saturatingAdd_bounded hamount hgranted]; rfl, ?_⟩
    rintro _ ⟨rfl⟩
    rw [hgranted]
    rfl
  | settled consumed hchild =>
    refine h.insert _ (fun dimension bound hbound => ?_) _
    have hheld := h dimension bound hbound _ _ hchild
    exact hheld
  | returned =>
    intro dimension bound hbound
    exact forall_erase (h dimension bound hbound)
  | widened additional ceiling =>
    intro dimension bound hbound other found hfound
    obtain ⟨held, hheld, _⟩ := widen_bound additional ceiling hbound
    exact h dimension held hheld other found hfound

lemma BoundsChildren.granted (h : BoundsChildren ledger) {granted : AgentBudgetAllocation}
    (hgranted : answer = .ok (.granted granted))
    (hbound : ledger.allocation.get dimension = some bound) : (granted.get dimension).isSome := by
  subst hgranted
  cases hperformed with
  | reopened request hchild => exact (h dimension bound hbound _ _ hchild).1
  | regranted request hchild hlast => exact (h dimension bound hbound _ _ hchild).2 _ hlast
  | opened request | toppedUp request =>
    obtain ⟨amount, hamount, _⟩ := narrowedTo_available request hbound
    rw [hamount]
    rfl
  | returned hchild =>
    rw [get_setConserved, if_pos (isConserved_of_get hbound), Option.isSome_map]
    exact (h dimension bound hbound _ _ hchild).1
  | widened additional ceiling =>
    simp only [widen, get_setConserved, isConserved_of_get hbound, if_true, hbound]
    cases additional.get dimension <;> rfl

lemma Performed.error {error : AgentEscrowError} (h : answer = .error error) : after = ledger := by
  subst h
  cases hperformed with
  | refused => rfl

end Performed
end AgentEscrowLedger

structure EscrowBooks where
  ledger : AgentEscrowLedger
  settlements : List AgentBudgetConsumption

namespace EscrowBooks
open AgentEscrowLedger
variable {books : EscrowBooks}
variable {dimension : AgentBudgetDimension} {bound : UInt64} {call : EscrowCall}

def new (allocation : AgentBudgetAllocation) : EscrowBooks := ⟨.new allocation, []⟩

variable (books)

def step (call : EscrowCall) : EscrowBooks where
  ledger := (perform call books.ledger).2
  settlements := books.settlements ++ (settlement books.ledger call).toList

def run (calls : List EscrowCall) : EscrowBooks := calls.foldl step books

/-- A child that settles spent no more than it holds, wherever the scope is bounded. -/
def Honest : EscrowCall → Prop
  | .settleChild child consumed =>
    ∀ escrow ∈ books.ledger.outstanding[child]?, escrow.settled = none →
      ∀ dimension ∈ AgentBudgetDimension.conserved,
        ∀ bound ∈ books.ledger.allocation.get dimension,
          (consumed.get dimension).toNat ≤ held dimension escrow
  | _ => True

def settledTotal (dimension : AgentBudgetDimension) : ℕ :=
  (books.settlements.map (fun consumed => (consumed.get dimension).toNat)).sum

variable {books}

/-- Consumed is what was settled, and with what unsettled children hold it stays within the
allocation. -/
structure Balanced (books : EscrowBooks) (dimension : AgentBudgetDimension) (bound : UInt64) :
    Prop where
  settled : (books.ledger.consumed.get dimension).toNat = books.settledTotal dimension
  within : (books.ledger.consumed.get dimension).toNat +
    BTreeMap.total (unsettled dimension) books.ledger.outstanding ≤ bound.toNat

def Sound (books : EscrowBooks) : Prop :=
  BoundsChildren books.ledger ∧ ∀ dimension bound,
    books.ledger.allocation.get dimension = some bound → books.Balanced dimension bound

lemma held_le_total (ledger : AgentEscrowLedger) (dimension : AgentBudgetDimension) :
    BTreeMap.total (unsettled dimension) ledger.outstanding ≤
      BTreeMap.total (held dimension) ledger.outstanding := by
  refine total_le_total _ (fun escrow => ?_)
  rw [unsettled]
  split_ifs
  · exact Nat.zero_le _
  · exact le_rfl

lemma Balanced.grant (h : books.Balanced dimension bound)
    (hbound : books.ledger.allocation.get dimension = some bound) (request : AgentBudgetAllocation)
    : ∃ granted, (request.narrowedTo books.ledger.availableAllocation).get dimension = some granted ∧
      (books.ledger.consumed.get dimension).toNat +
        BTreeMap.total (unsettled dimension) books.ledger.outstanding + granted.toNat ≤
          bound.toNat := by
  obtain ⟨granted, hgranted, hle⟩ := narrowedTo_available request hbound
  have hheld := held_le_total books.ledger dimension
  have hmax := UInt64.toNat_le_max bound
  have hwithin := h.within
  refine ⟨granted, hgranted, ?_⟩
  omega

lemma Sound.balanced_performed (h : Sound books) (hhonest : books.Honest call)
    {answer : Except AgentEscrowError EscrowAnswer} {after : AgentEscrowLedger}
    {made : Option AgentBudgetConsumption}
    (hperformed : Performed books.ledger call answer after made)
    (hbound : after.allocation.get dimension = some bound) :
    Balanced ⟨after, books.settlements ++ made.toList⟩ dimension bound := by
  have hunchanged : books.ledger.allocation.get dimension = some bound →
      Balanced ⟨books.ledger, books.settlements ++ []⟩ dimension bound := by
    intro hsame
    rw [List.append_nil]
    exact h.2 dimension bound hsame
  cases hperformed with
  | refused _ error | reopened request hchild | regranted request hchild hlast
  | resettled => exact hunchanged hbound
  | @opened child request hchild =>
    have hbalanced := h.2 dimension bound hbound
    obtain ⟨granted, hgranted, hfits⟩ := hbalanced.grant hbound request
    refine ⟨(hunchanged hbound).settled, ?_⟩
    have htotal := total_insert (unsettled dimension) books.ledger.outstanding child
      (⟨request.narrowedTo books.ledger.availableAllocation, 0, none, none⟩ : AgentChildEscrow)
    have hweight : unsettled dimension
        ⟨request.narrowedTo books.ledger.availableAllocation, 0, none, none⟩ = granted.toNat :=
      amount_of_get hgranted
    rw [hchild, hweight] at htotal
    dsimp only [Option.map_none, Option.getD_none] at htotal ⊢
    omega
  | @toppedUp child escrow sequence request hchild hsequence hopen =>
    have hbalanced := h.2 dimension bound hbound
    obtain ⟨granted, hgranted, hfits⟩ := hbalanced.grant hbound request
    obtain ⟨amount, hamount⟩ :=
      Option.isSome_iff_exists.mp (h.1 dimension bound hbound child escrow hchild).1
    refine ⟨(hunchanged hbound).settled, ?_⟩
    have htotal := total_insert (unsettled dimension) books.ledger.outstanding child
      { escrow with
        allocated := escrow.allocated.saturatingAdd
          (request.narrowedTo books.ledger.availableAllocation)
        grantedThrough := sequence
        lastTopUp := some (request.narrowedTo books.ledger.availableAllocation) }
    have hbefore : unsettled dimension escrow = amount.toNat := by
      rw [unsettled, hopen]
      exact amount_of_get hamount
    have hafter : (escrow.allocated.saturatingAdd
        (request.narrowedTo books.ledger.availableAllocation)).amount dimension =
        min (amount.toNat + granted.toNat) u64Max := by
      rw [amount_of_get (saturatingAdd_bounded hamount hgranted), UInt64.toNat_saturatingAdd]
    rw [hchild, Option.map_some, Option.getD_some, hbefore, unsettled] at htotal
    simp only [hopen, Option.isSome_none, Bool.false_eq_true, if_false, held, hafter] at htotal ⊢
    omega
  | @settled child escrow consumed hchild hopen =>
    have hbalanced := h.2 dimension bound hbound
    have hheld := hhonest escrow hchild hopen dimension
      (AgentBudgetDimension.mem_conserved (isConserved_of_get hbound)) bound hbound
    have htotal := total_insert (unsettled dimension) books.ledger.outstanding child
      { escrow with settled := some consumed }
    rw [hchild, Option.map_some, Option.getD_some, unsettled, unsettled] at htotal
    simp only [hopen, Option.isSome_none, Option.isSome_some, Bool.false_eq_true, if_false,
      if_true] at htotal
    have hmax := UInt64.toNat_le_max bound
    have hwithin := hbalanced.within
    have hsum : ((books.ledger.consumed.saturatingAdd consumed).get dimension).toNat =
        (books.ledger.consumed.get dimension).toNat + (consumed.get dimension).toNat := by
      rw [get_saturatingAdd _ _ (isConserved_of_get hbound), UInt64.toNat_saturatingAdd]
      omega
    refine ⟨?_, ?_⟩
    · rw [hsum, hbalanced.settled, settledTotal, settledTotal, List.map_append, List.sum_append]
      simp
    · dsimp only
      omega
  | @returned child escrow settled hchild hsettled =>
    refine ⟨(hunchanged hbound).settled, ?_⟩
    have htotal := total_erase (unsettled dimension) books.ledger.outstanding child
    have hwithin := (h.2 dimension bound hbound).within
    dsimp only
    omega
  | widened additional ceiling =>
    obtain ⟨held, hheld, hle⟩ := widen_bound additional ceiling hbound
    have hbalanced := h.2 dimension held hheld
    rw [Option.toList_none, List.append_nil]
    exact ⟨hbalanced.settled, hbalanced.within.trans hle⟩

lemma Sound.step (h : Sound books) (hhonest : books.Honest call) : Sound (books.step call) :=
  ⟨h.1.step (performed call books.ledger), fun _ _ hbound =>
    h.balanced_performed hhonest (performed call books.ledger) hbound⟩

lemma sound_new (allocation : AgentBudgetAllocation) : Sound (new allocation) := by
  refine ⟨fun dimension bound _ child escrow hchild => ?_, fun dimension bound _ => ⟨?_, ?_⟩⟩
  · simp [new, AgentEscrowLedger.new] at hchild
  · simp [new, AgentEscrowLedger.new, settledTotal, get_zero]
  · have hempty : (new allocation).ledger.outstanding = ∅ := rfl
    have hzero : (new allocation).ledger.consumed.get dimension = 0 := get_zero dimension
    rw [hempty, hzero, total_empty]
    exact Nat.zero_le _

def HonestRun (books : EscrowBooks) (calls : List EscrowCall) : Prop :=
  StepsMeet (fun books call => some (step books call)) Honest books calls

lemma sound_run {allocation : AgentBudgetAllocation} {calls : List EscrowCall}
    (hhonest : HonestRun (new allocation) calls) : Sound (run (new allocation) calls) :=
  foldl_invariant_of_meets (fun _ _ h hcall => h.step hcall) (sound_new allocation) hhonest

end EscrowBooks

namespace AgentEscrowLedger
variable {ledger : AgentEscrowLedger}
variable {call : EscrowCall} {answer : EscrowAnswer} {dimension : AgentBudgetDimension}
variable {child : AgentEscrowChildId} {escrow : AgentChildEscrow} {later : List EscrowCall}
  {bound : UInt64}

def runCalls (ledger : AgentEscrowLedger) (calls : List EscrowCall) : AgentEscrowLedger :=
  calls.foldl (fun ledger call => (perform call ledger).2) ledger

/-- The ledger still holds what a repetition of the call is answered from. -/
def Remembers (ledger : AgentEscrowLedger) : EscrowCall → EscrowAnswer → Prop
  | .openChild child _, .granted granted =>
    ∃ escrow, ledger.outstanding[child]? = some escrow ∧ escrow.allocated = granted
  | .topUpChild child sequence _, .granted granted =>
    ∃ escrow, ledger.outstanding[child]? = some escrow ∧ escrow.grantedThrough = sequence ∧
      escrow.lastTopUp = some granted
  | .settleChild child _, .settled consumed =>
    ∃ escrow, ledger.outstanding[child]? = some escrow ∧ escrow.settled = some consumed
  | _, _ => False

/-- A later call leaves alone what a repetition of `call` is answered from. -/
def Spares : EscrowCall → EscrowCall → Prop
  | .openChild child _, .returnChild other | .openChild child _, .topUpChild other _ _
  | .topUpChild child _ _, .returnChild other => other ≠ child
  | .topUpChild child sequence _, .topUpChild other next _ => other = child → next ≤ sequence
  | .settleChild child _, .returnChild other => other ≠ child
  | _, _ => True

def Recorded : EscrowCall → Prop
  | .openChild _ _ | .topUpChild _ _ _ | .settleChild _ _ => True
  | .returnChild _ | .widen _ _ => False

lemma Remembers.perform (h : ledger.Remembers call answer) :
    AgentEscrowLedger.perform call ledger = (.ok answer, ledger) := by
  cases call with
  | openChild =>
    cases answer with
    | settled => exact h.elim
    | granted =>
      obtain ⟨escrow, hchild, rfl⟩ := h
      simp only [AgentEscrowLedger.perform, openChild, hchild]
      rfl
  | topUpChild =>
    cases answer with
    | settled => exact h.elim
    | granted =>
      obtain ⟨escrow, hchild, rfl, hlast⟩ := h
      simp only [AgentEscrowLedger.perform, topUpChild, hchild, le_refl, if_true, decide_true, hlast]
      rfl
  | settleChild =>
    cases answer with
    | granted => exact h.elim
    | settled =>
      obtain ⟨escrow, hchild, hsettled⟩ := h
      simp only [AgentEscrowLedger.perform, settleChild, hchild, hsettled]
      rfl
  | returnChild | widen => exact h.elim

section Performed
variable {after : AgentEscrowLedger} {made : Option AgentBudgetConsumption}

lemma remembers_performed (hrecorded : Recorded call)
    (hperformed : Performed ledger call (.ok answer) after made) : Remembers after call answer := by
  cases hperformed with
  | reopened request hchild => exact ⟨_, hchild, rfl⟩
  | regranted request hchild hlast => exact ⟨_, hchild, rfl, hlast⟩
  | resettled consumed hchild hsettled => exact ⟨_, hchild, hsettled⟩
  | opened => exact ⟨_, by rw [lookup_insert, if_pos rfl], rfl⟩
  | toppedUp => exact ⟨_, by rw [lookup_insert, if_pos rfl], rfl, rfl⟩
  | settled => exact ⟨_, by rw [lookup_insert, if_pos rfl], rfl⟩
  | returned | widened => exact hrecorded.elim

/-- What a later call can do to a child: nothing, a top-up, its settlement or its return. -/
theorem performed_child {answer : Except AgentEscrowError EscrowAnswer}
    (hperformed : Performed ledger call answer after made)
    (hchild : ledger.outstanding[child]? = some escrow) : after.outstanding[child]? = some escrow ∨
    (∃ sequence request granted, call = .topUpChild child sequence request ∧
      escrow.grantedThrough < sequence ∧ after.outstanding[child]? = some { escrow with
        allocated := escrow.allocated.saturatingAdd granted
        grantedThrough := sequence
        lastTopUp := some granted }) ∨
    (∃ consumed, escrow.settled = none ∧
      after.outstanding[child]? = some { escrow with settled := some consumed }) ∨
    call = .returnChild child := by
  cases hperformed with
  | refused | reopened | regranted | resettled | widened => exact .inl hchild
  | @opened other request hother =>
    have hne : child ≠ other := by
      rintro rfl
      rw [hother] at hchild
      cases hchild
    exact .inl (by rw [lookup_insert, if_neg hne]; exact hchild)
  | @toppedUp other found sequence request hother hsequence hopen =>
    by_cases hsame : child = other
    · subst hsame
      obtain rfl : found = escrow := Option.some.inj (hother.symm.trans hchild)
      exact .inr (.inl ⟨sequence, request, _, rfl, hsequence, by rw [lookup_insert, if_pos rfl]⟩)
    · exact .inl (by rw [lookup_insert, if_neg hsame]; exact hchild)
  | @settled other found consumed hother hopen =>
    by_cases hsame : child = other
    · subst hsame
      obtain rfl : found = escrow := Option.some.inj (hother.symm.trans hchild)
      exact .inr (.inr (.inl ⟨consumed, hopen, by rw [lookup_insert, if_pos rfl]⟩))
    · exact .inl (by rw [lookup_insert, if_neg hsame]; exact hchild)
  | @returned other found settled hother hsettled =>
    by_cases hsame : child = other
    · subst hsame
      exact .inr (.inr (.inr rfl))
    · exact .inl (by rw [lookup_erase, if_neg hsame]; exact hchild)

end Performed

lemma Remembers.step {later : EscrowCall} (h : ledger.Remembers call answer)
    (hspares : Spares call later) :
    Remembers (AgentEscrowLedger.perform later ledger).2 call answer := by
  cases call with
  | openChild =>
    cases answer with
    | settled => exact h.elim
    | granted =>
      obtain ⟨escrow, hchild, hgranted⟩ := h
      obtain hsame | ⟨sequence, more, added, rfl, _, _⟩ | ⟨consumed, _, hsettled⟩ | rfl :=
        performed_child (performed later ledger) hchild
      · exact ⟨escrow, hsame, hgranted⟩
      · exact (hspares rfl).elim
      · exact ⟨_, hsettled, hgranted⟩
      · exact (hspares rfl).elim
  | topUpChild child sequence =>
    cases answer with
    | settled => exact h.elim
    | granted =>
      obtain ⟨escrow, hchild, hsequence, hlast⟩ := h
      obtain hsame | ⟨next, more, added, rfl, hnext, _⟩ | ⟨consumed, _, hsettled⟩ | rfl :=
        performed_child (performed later ledger) hchild
      · exact ⟨escrow, hsame, hsequence, hlast⟩
      · have hle : next ≤ sequence := hspares rfl
        omega
      · exact ⟨_, hsettled, hsequence, hlast⟩
      · exact (hspares rfl).elim
  | settleChild =>
    cases answer with
    | granted => exact h.elim
    | settled =>
      obtain ⟨escrow, hchild, hsettled⟩ := h
      obtain hsame | ⟨next, more, added, _, _, htopped⟩ | ⟨other, hopen, _⟩ | rfl :=
        performed_child (performed later ledger) hchild
      · exact ⟨escrow, hsame, hsettled⟩
      · exact ⟨_, htopped, hsettled⟩
      · rw [hsettled] at hopen
        cases hopen
      · exact (hspares rfl).elim
  | returnChild | widen => exact h.elim

lemma Remembers.runCalls (h : ledger.Remembers call answer)
    (hspares : ∀ next ∈ later, Spares call next) :
    Remembers (ledger.runCalls later) call answer := by
  induction later generalizing ledger with
  | nil => exact h
  | cons next later ih =>
    exact ih (h.step (hspares next List.mem_cons_self))
      (fun other hother => hspares other (List.mem_cons_of_mem next hother))

lemma narrowedTo_amount_le (request : AgentBudgetAllocation)
    {first second : AgentBudgetAllocation} {less more : UInt64}
    (hfirst : first.get dimension = some less) (hsecond : second.get dimension = some more)
    (hle : less.toNat ≤ more.toNat) :
    (request.narrowedTo first).amount dimension ≤ (request.narrowedTo second).amount dimension := by
  have hconserved := isConserved_of_get hfirst
  rw [amount, amount, narrowedTo, narrowedTo, get_setConserved, get_setConserved, if_pos hconserved,
    if_pos hconserved, hfirst, hsecond]
  cases request.get dimension with
  | none => exact hle
  | some asked =>
    show (min asked less).toNat ≤ (min asked more).toNat
    rw [UInt64.toNat_min, UInt64.toNat_min]
    omega

/-- One ledger grants in a dimension no more than another, whatever is requested. -/
def GrantsAtMost (first second : AgentEscrowLedger) (dimension : AgentBudgetDimension) : Prop :=
  (∃ less more, first.available dimension = some less ∧ second.available dimension = some more ∧
    less.toNat ≤ more.toNat) ∧
  ∀ request : AgentBudgetAllocation,
    (request.narrowedTo first.availableAllocation).amount dimension ≤
      (request.narrowedTo second.availableAllocation).amount dimension

lemma grantsAtMost_of_spent {first second : AgentEscrowLedger}
    (hfirst : first.allocation.get dimension = some bound)
    (hsecond : second.allocation.get dimension = some bound)
    (hspent : min bound.toNat ((second.consumed.get dimension).toNat +
        min (BTreeMap.total (held dimension) second.outstanding) u64Max) ≤
      (first.consumed.get dimension).toNat +
        min (BTreeMap.total (held dimension) first.outstanding) u64Max) :
    GrantsAtMost first second dimension := by
  obtain ⟨less, hless, hlessNat⟩ := toNat_available hfirst
  obtain ⟨more, hmore, hmoreNat⟩ := toNat_available hsecond
  have hle : less.toNat ≤ more.toNat := by omega
  exact ⟨⟨less, more, hless, hmore, hle⟩, fun request => narrowedTo_amount_le request
    ((get_availableAllocation hfirst).trans hless)
    ((get_availableAllocation hsecond).trans hmore) hle⟩

theorem settle_lowers_headroom (hchild : ledger.outstanding[child]? = some escrow)
    (hopen : escrow.settled = none) {consumed : AgentBudgetConsumption}
    (hbound : ledger.allocation.get dimension = some bound)
    (hover : held dimension escrow ≤ (consumed.get dimension).toNat) :
    GrantsAtMost (perform (.settleChild child consumed) ledger).2 ledger dimension ∧
      GrantsAtMost (ledger.runCalls [.settleChild child consumed, .returnChild child]) ledger
        dimension := by
  have hsettle : (perform (.settleChild child consumed) ledger).2 = { ledger with
      outstanding := ledger.outstanding.insert child { escrow with settled := some consumed }
      consumed := ledger.consumed.saturatingAdd consumed } := by
    simp only [perform, settleChild, hchild, hopen]
    rfl
  have hreturn : ledger.runCalls [.settleChild child consumed, .returnChild child] = { ledger with
      outstanding := (ledger.outstanding.insert child
        { escrow with settled := some consumed }).erase child
      consumed := ledger.consumed.saturatingAdd consumed } := by
    show (perform (.returnChild child) (perform (.settleChild child consumed) ledger).2).2 = _
    rw [hsettle]
    simp only [perform, returnChild, lookup_insert, if_true]
    rfl
  have hconsumed : ((ledger.consumed.saturatingAdd consumed).get dimension).toNat =
      min ((ledger.consumed.get dimension).toNat + (consumed.get dimension).toNat) u64Max := by
    rw [get_saturatingAdd _ _ (isConserved_of_get hbound), UInt64.toNat_saturatingAdd]
  have hmax := UInt64.toNat_le_max bound
  have hinsert := total_insert (held dimension) ledger.outstanding child
    { escrow with settled := some consumed }
  have herase := total_erase (held dimension)
    (ledger.outstanding.insert child { escrow with settled := some consumed }) child
  rw [lookup_insert, if_pos rfl] at herase
  rw [hchild] at hinsert
  simp only [Option.map_some, Option.getD_some, held] at hinsert herase
  rw [held] at hover
  rw [hsettle, hreturn]
  refine ⟨grantsAtMost_of_spent hbound hbound ?_, grantsAtMost_of_spent hbound hbound ?_⟩
  all_goals
    dsimp only
    rw [hconsumed]
    omega

end AgentEscrowLedger

namespace EscrowBooks
open AgentEscrowLedger

lemma Sound.available_of_empty {books : EscrowBooks} (h : Sound books)
    {dimension : AgentBudgetDimension} {bound : UInt64}
    (hbound : books.ledger.allocation.get dimension = some bound)
    (hempty : books.ledger.outstanding = ∅) :
    ∃ headroom, books.ledger.available dimension = some headroom ∧
      headroom.toNat = bound.toNat - books.settledTotal dimension := by
  obtain ⟨headroom, havailable, hheadroom⟩ := toNat_available hbound
  refine ⟨headroom, havailable, ?_⟩
  rw [hheadroom, hempty, total_empty, (h.2 dimension bound hbound).settled]
  rfl

lemma boundsChildren_run (allocation : AgentBudgetAllocation) (calls : List EscrowCall) :
    BoundsChildren (run (new allocation) calls).ledger :=
  foldl_invariant_of_meets (fun (books : EscrowBooks) call (h : BoundsChildren books.ledger) _ =>
      h.step (performed call books.ledger)) (sound_new allocation).1
    (stepsMeet_true (fun books call => some (step books call)) (new allocation) calls)

/-- While children settle no more than they hold, what is consumed and what unsettled children hold
stays within the allocation, and all of it is back once every child returned. Grants are bounded
where the scope is, a refused call changes nothing, and a call repeated before its record moves on
is answered as it was. -/
theorem escrow_conserves_allocation (allocation : AgentBudgetAllocation) (calls : List EscrowCall) :
    (HonestRun (new allocation) calls → ∀ dimension bound,
      (run (new allocation) calls).ledger.allocation.get dimension = some bound →
        ((run (new allocation) calls).ledger.consumed.get dimension).toNat +
            BTreeMap.total (unsettled dimension) (run (new allocation) calls).ledger.outstanding ≤
          bound.toNat ∧ ((run (new allocation) calls).ledger.outstanding = ∅ →
          ∃ headroom, (run (new allocation) calls).ledger.available dimension = some headroom ∧
            headroom.toNat = bound.toNat - (run (new allocation) calls).settledTotal dimension)) ∧
    (∀ call granted, (perform call (run (new allocation) calls).ledger).1 = .ok (.granted granted) →
      ∀ dimension bound, (run (new allocation) calls).ledger.allocation.get dimension = some bound →
          (granted.get dimension).isSome) ∧
    (∀ call error, (perform call (run (new allocation) calls).ledger).1 = .error error →
      (perform call (run (new allocation) calls).ledger).2 = (run (new allocation) calls).ledger) ∧
    (∀ call answer later, Recorded call → (∀ next ∈ later, Spares call next) →
      (perform call (run (new allocation) calls).ledger).1 = .ok answer →
      perform call ((perform call (run (new allocation) calls).ledger).2.runCalls later) =
        (.ok answer, (perform call (run (new allocation) calls).ledger).2.runCalls later)) ∧
    ∀ child escrow consumed dimension bound,
      (run (new allocation) calls).ledger.child child = some escrow → escrow.settled = none →
      (run (new allocation) calls).ledger.allocation.get dimension = some bound →
      held dimension escrow ≤ (consumed.get dimension).toNat →
        GrantsAtMost (perform (.settleChild child consumed) (run (new allocation) calls).ledger).2
            (run (new allocation) calls).ledger dimension ∧
          GrantsAtMost ((run (new allocation) calls).ledger.runCalls
              [.settleChild child consumed, .returnChild child])
            (run (new allocation) calls).ledger dimension := by
  refine ⟨fun hhonest dimension bound hbound => ?_, ?_, ?_, ?_, ?_⟩
  · have hsound := sound_run hhonest
    exact ⟨(hsound.2 dimension bound hbound).within, hsound.available_of_empty hbound⟩
  · intro call granted hgranted dimension bound hbound
    exact (boundsChildren_run allocation calls).granted (performed call _) hgranted hbound
  · exact fun call error herror => (performed call _).error herror
  · exact fun call answer later hrecorded hspares h =>
      ((remembers_performed hrecorded (h ▸ performed call _)).runCalls hspares).perform
  · exact fun child escrow consumed dimension bound hchild hopen hbound hover =>
      settle_lowers_headroom hchild hopen hbound hover

def amounts (amount : UInt64) : AgentBudgetAllocation :=
  unbounded.setConserved (fun _ => some amount)

/-- A child that opens with 5 and is topped up by 3 is told 8 when its opening is repeated. -/
theorem replayed_opening_returns_topped_up :
    (perform (.openChild ⟨"run"⟩ (amounts 5)) (.new (amounts 10))).1 = .ok (.granted (amounts 5)) ∧
      (perform (.openChild ⟨"run"⟩ (amounts 5))
        (runCalls (.new (amounts 10)) [.openChild ⟨"run"⟩ (amounts 5),
          .topUpChild ⟨"run"⟩ 1 (amounts 3)])).1 = .ok (.granted (amounts 8)) ∧
      amounts 8 ≠ amounts 5 := by
  decide +kernel

def settledChild : List EscrowCall :=
  [.openChild ⟨"run"⟩ (amounts 5), .settleChild ⟨"run"⟩ ⟨4, 4, 4, 4, 4, 4, 4, 4⟩,
    .returnChild ⟨"run"⟩]

lemma settledChild_honest : HonestRun (new (amounts 10)) settledChild := by
  refine ⟨trivial, fun opened hopened => ?_⟩
  obtain rfl := Option.some.inj hopened
  refine ⟨fun escrow hescrow _ => ?_, fun settled _ => ⟨trivial, fun _ _ => trivial⟩⟩
  have hchild : (step (new (amounts 10)) (.openChild ⟨"run"⟩ (amounts 5))).ledger.child ⟨"run"⟩ =
      some ⟨amounts 5, 0, none, none⟩ := by
    decide +kernel
  obtain rfl : escrow = ⟨amounts 5, 0, none, none⟩ := Option.some.inj (hescrow.symm.trans hchild)
  have hspent : ∀ dimension ∈ AgentBudgetDimension.conserved,
      (get ⟨4, 4, 4, 4, 4, 4, 4, 4⟩ dimension).toNat ≤
        held dimension ⟨amounts 5, 0, none, none⟩ := by
    decide +kernel
  exact fun dimension hdimension _ _ => hspent dimension hdimension

/-- What the child did not spend is available again. -/
theorem settled_child_returns_rest :
    ∃ headroom, (run (new (amounts 10)) settledChild).ledger.available .tokens = some headroom ∧
      headroom.toNat = 6 := by
  have hbound : (run (new (amounts 10)) settledChild).ledger.allocation.get .tokens = some 10 := by
    decide +kernel
  have hempty : (run (new (amounts 10)) settledChild).ledger.outstanding = ∅ := by decide +kernel
  have htotal : (10 : UInt64).toNat -
      (run (new (amounts 10)) settledChild).settledTotal .tokens = 6 := by
    decide +kernel
  obtain ⟨headroom, havailable, hheadroom⟩ :=
    ((escrow_conserves_allocation (amounts 10) settledChild).1 settledChild_honest .tokens 10 hbound).2 hempty
  exact ⟨headroom, havailable, hheadroom.trans htotal⟩

end EscrowBooks
end Rakka.Agent
