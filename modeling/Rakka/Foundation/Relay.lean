import Rakka.Foundation.Queues
import Rakka.Foundation.Runs

/-! Relays with bounded queues. A relay numbers the items offered to it and forwards or queues each.
From time to time it drains its queues into a batch, whose items are delivered, dropped or queued
again. Every accepted item is accounted for, and a batch that returns to its own queues finds room
there. -/

namespace Foundation
open Queues List

inductive Fate (ρ : Type) where
  | delivered
  | overflowed
  | discarded
  | dropped (reason : ρ)
  deriving DecidableEq, Repr

def Fate.isDelivered {ρ : Type} : Fate ρ → Bool
  | .delivered => true
  | _ => false

structure Settlement (ε ρ : Type) where
  ticket : ℕ
  source : ε
  fate : Fate ρ
  deriving DecidableEq, Repr

inductive Verdict (ρ : Type) where
  | keep
  | release
  | drop (reason : ρ)

namespace Verdict
variable {ρ : Type}

def keeps : Verdict ρ → Bool
  | .keep => true
  | _ => false

def releases : Verdict ρ → Bool
  | .release => true
  | _ => false

lemma eq_keep_of_keeps : {v : Verdict ρ} → v.keeps = true → v = .keep
  | .keep, _ => rfl

lemma eq_release_of_releases : {v : Verdict ρ} → v.releases = true → v = .release
  | .release, _ => rfl

end Verdict

/-- In flight is what is left of the last batch, and `returned` lists the sources of what was queued
again. -/
structure Relay (κ ε α ρ : Type) [Ord κ] where
  queues : BTreeMap κ (List α)
  inFlight : List α
  returned : List ε
  nextTicket : ℕ
  accepted : List ℕ
  settled : List (Settlement ε ρ)

namespace Relay
variable {κ ε α ρ : Type}

/-- How items are read, the queue meant for each source, and what a relay may do. -/
structure Shape (κ ε α ρ : Type) where
  ticket : α → ℕ
  source : α → ε
  home : α → κ
  homeOf : ε → κ
  capacity : ℕ
  evicts : Prop
  mayDrop : ρ → Prop

/-- `calm`: nothing is forwarded past a queued item of its source. `loyal`: items are queued at the
home of their source. `patient`: no item of a batch is delivered after one of its source was
returned. -/
structure Discipline where
  calm : Prop
  loyal : Prop
  patient : Prop

variable [Ord κ]

def empty : Relay κ ε α ρ := ⟨∅, [], [], 0, [], []⟩

def settle (r : Relay κ ε α ρ) (settlements : List (Settlement ε ρ)) : Relay κ ε α ρ :=
  { r with settled := r.settled ++ settlements }

lemma settle_nil (r : Relay κ ε α ρ) : r.settle [] = r := by
  rw [settle, append_nil]

/-- Ends an offer: its number is used up, and listed when the item was accepted. -/
def close (r : Relay κ ε α ρ) (accepted : Bool) : Relay κ ε α ρ :=
  { r with
    nextTicket := r.nextTicket + 1
    accepted := r.accepted ++ if accepted then [r.nextTicket] else [] }

lemma close_false (r : Relay κ ε α ρ) :
    r.close false = { r with nextTicket := r.nextTicket + 1 } := by
  rw [close, if_neg Bool.false_ne_true, append_nil]

variable [Std.TransOrd κ] (shape : Shape κ ε α ρ)

def touch (r : Relay κ ε α ρ) (k : κ) : Relay κ ε α ρ :=
  { r with queues := r.queues.insert k (queueAt r.queues k) }

def push (r : Relay κ ε α ρ) (m : α) : Relay κ ε α ρ :=
  { r with
    queues := r.queues.insert (shape.home m) (queueAt r.queues (shape.home m) ++ [m]) }

def shift (r : Relay κ ε α ρ) (m : α) (rest : List α) : Relay κ ε α ρ :=
  { r with queues := r.queues.insert (shape.home m) (rest ++ [m]) }

def dropped (judge : α → Verdict ρ) (m : α) : Option (Settlement ε ρ) :=
  match judge m with
  | .drop reason => some ⟨shape.ticket m, shape.source m, .dropped reason⟩
  | _ => none

def drained (r : Relay κ ε α ρ) (judge : α → Verdict ρ) : Relay κ ε α ρ :=
  let held := contents r.queues
  { r with
    queues := shrink (List.filter (fun m => (judge m).keeps)) r.queues
    inFlight := held.filter (fun m => (judge m).releases)
    returned := []
    settled := r.settled ++ held.filterMap (dropped shape judge) }

/-- What the relay may do with an item offered by a source, and whether it accepts it. -/
inductive Offer (d : Discipline) (r : Relay κ ε α ρ) (x : ε) : Bool → Relay κ ε α ρ → Prop
  | refused : Offer d r x false r
  | refusedAt (k : κ) : Offer d r x false (r.touch k)
  | forwarded (hcalm : d.calm → ∀ m ∈ contents r.queues, shape.source m ≠ x) :
      Offer d r x true (r.settle [⟨r.nextTicket, x, .delivered⟩])
  | stored (m : α) (hticket : shape.ticket m = r.nextTicket) (hsource : shape.source m = x)
      (hloyal : d.loyal → shape.home m = shape.homeOf x)
      (hroom : (queueAt r.queues (shape.home m)).length < shape.capacity) :
      Offer d r x true (r.push shape m)
  | lost (k : κ) (hevicts : shape.evicts) :
      Offer d r x true ((r.touch k).settle [⟨r.nextTicket, x, .overflowed⟩])
  | displaced (m first : α) (rest : List α) (hticket : shape.ticket m = r.nextTicket)
      (hsource : shape.source m = x) (hloyal : d.loyal → shape.home m = shape.homeOf x)
      (hevicts : shape.evicts)
      (hfull : queueAt r.queues (shape.home m) = first :: rest) :
      Offer d r x true
        ((r.shift shape m rest).settle [⟨shape.ticket first, shape.source first, .overflowed⟩])

inductive Step (d : Discipline) : Relay κ ε α ρ → Relay κ ε α ρ → Prop
  | offer {r r' : Relay κ ε α ρ} {x : ε} {accepted : Bool} (hidle : r.inFlight = [])
      (hoffer : Offer shape d r x accepted r') : Step d r (r'.close accepted)
  | drain {r : Relay κ ε α ρ} (judge : α → Verdict ρ) (hidle : r.inFlight = [])
      (hmay : ∀ m reason, judge m = .drop reason → shape.mayDrop reason)
      (hkeep : ∀ m m', shape.source m = shape.source m' → judge m = .keep →
        judge m' ≠ .release) : Step d r (r.drained shape judge)
  | deliver {r : Relay κ ε α ρ} {m : α} {rest : List α} (hnext : r.inFlight = m :: rest)
      (hpatient : d.patient → shape.source m ∉ r.returned) :
      Step d r (({ r with inFlight := rest } : Relay κ ε α ρ).settle
        [⟨shape.ticket m, shape.source m, .delivered⟩])
  | drop {r : Relay κ ε α ρ} {m : α} {rest : List α} (reason : ρ) (hnext : r.inFlight = m :: rest)
      (hmay : shape.mayDrop reason) :
      Step d r (({ r with inFlight := rest } : Relay κ ε α ρ).settle
        [⟨shape.ticket m, shape.source m, .dropped reason⟩])
  | requeue {r : Relay κ ε α ρ} {m : α} {rest : List α} (m' : α) (hnext : r.inFlight = m :: rest)
      (hticket : shape.ticket m' = shape.ticket m) (hsource : shape.source m' = shape.source m)
      (hloyal : d.loyal → shape.home m' = shape.home m ∨
        shape.home m' = shape.homeOf (shape.source m))
      (hroom : (queueAt r.queues (shape.home m')).length < shape.capacity) :
      Step d r (({ r with
        inFlight := rest
        returned := shape.source m :: r.returned } : Relay κ ε α ρ).push shape m')
  | discard {r : Relay κ ε α ρ} {m : α} {rest : List α} (m' : α) (hnext : r.inFlight = m :: rest)
      (hloyal : d.loyal → shape.home m' = shape.home m ∨
        shape.home m' = shape.homeOf (shape.source m))
      (hfull : shape.capacity ≤ (queueAt r.queues (shape.home m')).length) :
      Step d r ((({ r with inFlight := rest } : Relay κ ε α ρ).touch (shape.home m')).settle
        [⟨shape.ticket m, shape.source m, .discarded⟩])

abbrev Steps (d : Discipline) : Relay κ ε α ρ → Relay κ ε α ρ → Prop :=
  Relation.ReflTransGen (Step shape d)

set_option linter.unusedSectionVars false

section Books
variable {shape} {d : Discipline} {r r' : Relay κ ε α ρ}
variable {x : ε} {accepted : Bool}

def books (shape : Shape κ ε α ρ) (r : Relay κ ε α ρ) : List ℕ :=
  (contents r.queues).map shape.ticket ++
    (r.inFlight.map shape.ticket ++ r.settled.map Settlement.ticket)

lemma books_settle (r : Relay κ ε α ρ) (zs : List (Settlement ε ρ)) :
    books shape (r.settle zs) = books shape r ++ zs.map Settlement.ticket := by
  simp [books, settle]

lemma books_next {m : α} {rest : List α} (hnext : r.inFlight = m :: rest) :
    (books shape r).Perm (shape.ticket m :: books shape { r with inFlight := rest }) := by
  unfold books
  rw [hnext, map_cons, cons_append]
  exact perm_middle

lemma verdicts_perm (shape : Shape κ ε α ρ) (judge : α → Verdict ρ) (ms : List α) :
    ((ms.filter (fun m => (judge m).keeps)).map shape.ticket ++
      ((ms.filter (fun m => (judge m).releases)).map shape.ticket ++
        (ms.filterMap (dropped shape judge)).map Settlement.ticket)).Perm
      (ms.map shape.ticket) := by
  induction ms with
  | nil => exact .refl _
  | cons m ms ih =>
    simp only [filter_cons, filterMap_cons, map_cons, dropped]
    cases judge m with
    | keep => exact ih.cons _
    | release => exact perm_middle.trans (ih.cons _)
    | drop =>
      -- the settlement of the dropped item stands behind the kept and released ones
      refine List.Perm.trans ?_ (ih.cons _)
      exact (perm_middle.append_left _).trans perm_middle

variable [Std.LawfulEqOrd κ] [DecidableEq κ]

lemma books_drained (hidle : r.inFlight = []) (judge : α → Verdict ρ) :
    (books shape (r.drained shape judge)).Perm (books shape r) := by
  have hverdicts := verdicts_perm shape judge (contents r.queues)
  simp only [books, drained, contents_shrink_filter, hidle, map_nil, nil_append, map_append]
  refine List.Perm.trans ?_ (hverdicts.append_right _)
  rw [append_assoc, append_assoc]
  exact (perm_append_comm.append_left _).append_left _

lemma books_touch (r : Relay κ ε α ρ) (k : κ) : (books shape (r.touch k)).Perm (books shape r) :=
  ((contents_same_perm r.queues k).map _).append_right _

lemma books_push (r : Relay κ ε α ρ) (m : α) :
    (books shape (r.push shape m)).Perm (shape.ticket m :: books shape r) :=
  ((contents_push_perm r.queues (shape.home m) m).map _).append_right _

lemma Offer.books_perm (h : Offer shape d r x accepted r') :
    (books shape r').Perm (books shape r ++ if accepted then [r.nextTicket] else []) := by
  cases h with
  | refused => simp
  | refusedAt k => simpa using books_touch r k
  | forwarded => exact .of_eq (books_settle r _)
  | stored m hticket =>
    rw [← hticket]
    exact (books_push r m).trans (perm_append_singleton _ _).symm
  | lost k =>
    rw [books_settle]
    exact (books_touch r k).append_right _
  | displaced m first rest hticket hsource hloyal hevicts hfull =>
    rw [books_settle, ← hticket]
    refine (perm_append_singleton _ _).trans ?_
    refine List.Perm.trans ?_ (perm_append_singleton _ _).symm
    exact ((contents_shift_perm hfull m).map shape.ticket).append_right _

lemma Offer.frame (h : Offer shape d r x accepted r') :
    r'.accepted = r.accepted ∧ r'.nextTicket = r.nextTicket ∧ r'.inFlight = r.inFlight := by
  cases h with
  | refused | refusedAt | forwarded | stored | lost | displaced => exact ⟨rfl, rfl, rfl⟩

lemma Step.books_perm (h : Step shape d r r') :
    (r'.accepted = r.accepted ∧ r'.nextTicket = r.nextTicket ∧
      (books shape r').Perm (books shape r)) ∨
    ∃ accepted : Bool, r'.accepted = r.accepted ++ (if accepted then [r.nextTicket] else []) ∧
      r'.nextTicket = r.nextTicket + 1 ∧
      (books shape r').Perm (books shape r ++ if accepted then [r.nextTicket] else []) := by
  cases h with
  | @offer r'' _ accepted hidle hoffer =>
    obtain ⟨haccepted, hnext, -⟩ := hoffer.frame
    refine .inr ⟨accepted, ?_, ?_, hoffer.books_perm⟩
    · rw [close, haccepted, hnext]
    · rw [close, hnext]
  | drain judge hidle => exact .inl ⟨rfl, rfl, books_drained hidle judge⟩
  | deliver hnext | drop reason hnext =>
    refine .inl ⟨rfl, rfl, ?_⟩
    rw [books_settle]
    exact (perm_append_singleton _ _).trans (books_next hnext).symm
  | requeue m' hnext hticket =>
    refine .inl ⟨rfl, rfl, (books_push _ m').trans ?_⟩
    rw [hticket]
    exact (books_next hnext).symm
  | discard m' hnext =>
    refine .inl ⟨rfl, rfl, ?_⟩
    rw [books_settle]
    refine ((books_touch _ _).append_right _).trans ?_
    exact (perm_append_singleton _ _).trans (books_next hnext).symm

end Books

section Accounts
variable [Std.LawfulEqOrd κ] [DecidableEq κ] {shape} {d : Discipline} {r r' : Relay κ ε α ρ}
variable {m : α} {x : ε} {accepted : Bool}

def Fair (shape : Shape κ ε α ρ) : Fate ρ → Prop
  | .delivered => True
  | .overflowed => shape.evicts
  | .discarded => True
  | .dropped reason => shape.mayDrop reason

/-- No queue is too long, and every accepted item is queued, in flight or settled, just one of
these. -/
structure Accounted (shape : Shape κ ε α ρ) (r : Relay κ ε α ρ) : Prop where
  bounded : ∀ k, (queueAt r.queues k).length ≤ shape.capacity
  tickets : r.accepted.Perm (books shape r)
  increasing : r.accepted.Pairwise (· < ·)
  fresh : ∀ t ∈ r.accepted, t < r.nextTicket
  fair : ∀ z ∈ r.settled, Fair shape z.fate

section
variable (r)

lemma queueAt_touch (k a : κ) : queueAt (r.touch k).queues a = queueAt r.queues a :=
  queueAt_same r.queues k a

lemma queueAt_push (m : α) (k : κ) : queueAt (r.push shape m).queues k =
      if k = shape.home m then queueAt r.queues k ++ [m] else queueAt r.queues k := by
  refine (queueAt_insert r.queues (shape.home m) k _).trans ?_
  split_ifs with h
  · rw [h]
  · rfl

lemma queueAt_shift (m : α) (rest : List α) (k : κ) :
    queueAt (r.shift shape m rest).queues k =
      if k = shape.home m then rest ++ [m] else queueAt r.queues k :=
  queueAt_insert r.queues (shape.home m) k _

lemma queueAt_drained (judge : α → Verdict ρ) (k : κ) :
    queueAt (r.drained shape judge).queues k =
      (queueAt r.queues k).filter (fun m => (judge m).keeps) :=
  queueAt_shrink _ rfl r.queues k

end

section
variable (hr : ∀ k, (queueAt r.queues k).length ≤ shape.capacity)
include hr

lemma push_bounded (hroom : (queueAt r.queues (shape.home m)).length < shape.capacity) (k : κ) :
    (queueAt (r.push shape m).queues k).length ≤ shape.capacity := by
  rw [queueAt_push]
  split_ifs with h
  · rw [h, length_append]
    exact hroom
  · exact hr k

lemma Offer.bounded (h : Offer shape d r x accepted r') (k : κ) :
    (queueAt r'.queues k).length ≤ shape.capacity := by
  cases h with
  | refused => exact hr k
  | refusedAt k' => exact (queueAt_touch r k' k).symm ▸ hr k
  | forwarded => exact hr k
  | stored m _ _ _ hroom => exact push_bounded hr hroom k
  | lost k' => exact (queueAt_touch r k' k).symm ▸ hr k
  | displaced m first rest _ _ _ _ hfull =>
    have hk := hr (shape.home m)
    rw [hfull] at hk
    rw [settle, queueAt_shift]
    split_ifs with h
    · rw [length_append]
      exact hk
    · exact hr k

lemma Step.bounded (h : Step shape d r r') (k : κ) :
    (queueAt r'.queues k).length ≤ shape.capacity := by
  cases h with
  | offer _ hoffer => exact hoffer.bounded hr k
  | drain =>
    rw [queueAt_drained]
    exact (length_filter_le _ _).trans (hr k)
  | deliver | drop => exact hr k
  | requeue m' _ _ _ _ hroom => exact push_bounded hr hroom k
  | discard => exact (queueAt_touch r _ k).symm ▸ hr k

end

lemma settle_fair {zs : List (Settlement ε ρ)} (hr : ∀ z ∈ r.settled, Fair shape z.fate)
    (hzs : ∀ z ∈ zs, Fair shape z.fate) : ∀ z ∈ (r.settle zs).settled, Fair shape z.fate :=
  forall_mem_append.mpr ⟨hr, hzs⟩

lemma Offer.fair (h : Offer shape d r x accepted r') (hr : ∀ z ∈ r.settled, Fair shape z.fate) :
    ∀ z ∈ r'.settled, Fair shape z.fate := by
  cases h with
  | refused | refusedAt => exact hr
  | forwarded => exact settle_fair hr (forall_mem_singleton.mpr trivial)
  | stored => exact hr
  | lost k hevicts | displaced _ _ _ _ _ _ hevicts =>
    exact settle_fair hr (forall_mem_singleton.mpr hevicts)

lemma dropped_eq_some {judge : α → Verdict ρ} {z : Settlement ε ρ}
    (h : dropped shape judge m = some z) :
    ∃ reason, judge m = .drop reason ∧ z = ⟨shape.ticket m, shape.source m, .dropped reason⟩ := by
  rw [dropped] at h
  cases hm : judge m with
  | keep | release => simp [hm] at h
  | drop reason =>
    rw [hm] at h
    exact ⟨reason, rfl, (Option.some.inj h).symm⟩

lemma Step.fair (h : Step shape d r r') (hr : ∀ z ∈ r.settled, Fair shape z.fate) :
    ∀ z ∈ r'.settled, Fair shape z.fate := by
  cases h with
  | offer _ hoffer => exact hoffer.fair hr
  | drain judge _ hmay =>
    refine settle_fair hr (fun z hz => ?_)
    obtain ⟨m, -, hm⟩ := mem_filterMap.mp hz
    obtain ⟨reason, hreason, rfl⟩ := dropped_eq_some hm
    exact hmay m reason hreason
  | deliver => exact settle_fair hr (forall_mem_singleton.mpr trivial)
  | drop reason _ hmay => exact settle_fair hr (forall_mem_singleton.mpr hmay)
  | requeue => exact hr
  | discard => exact settle_fair hr (forall_mem_singleton.mpr trivial)

lemma Step.accounted (h : Step shape d r r') (hr : Accounted shape r) : Accounted shape r' := by
  have hbounded := h.bounded hr.bounded
  have hfair := h.fair hr.fair
  rcases h.books_perm with ⟨haccepted, hnext, hbooks⟩ | ⟨accepted, haccepted, hnext, hbooks⟩
  · refine ⟨hbounded, ?_, ?_, ?_, hfair⟩
    · rw [haccepted]
      exact hr.tickets.trans hbooks.symm
    · rw [haccepted]
      exact hr.increasing
    · rw [haccepted, hnext]
      exact hr.fresh
  · have hlast : ∀ t ∈ (if accepted then [r.nextTicket] else []), t = r.nextTicket := by
      cases accepted with
      | true => exact fun t ht => mem_singleton.mp ht
      | false => exact fun t ht => absurd ht not_mem_nil
    refine ⟨hbounded, ?_, ?_, ?_, hfair⟩
    · rw [haccepted]
      exact (hr.tickets.append_right _).trans hbooks.symm
    · rw [haccepted]
      refine pairwise_append.mpr ⟨hr.increasing, ?_, ?_⟩
      · cases accepted with
        | true => exact pairwise_singleton _ _
        | false => exact List.Pairwise.nil
      · intro t ht u hu
        rw [hlast u hu]
        exact hr.fresh t ht
    · rw [haccepted, hnext]
      intro t ht
      rcases mem_append.mp ht with ht | ht
      · exact Nat.lt_succ_of_lt (hr.fresh t ht)
      · rw [hlast t ht]
        exact Nat.lt_succ_self _

lemma Steps.accounted (h : Steps shape d r r') (hr : Accounted shape r) : Accounted shape r' := by
  induction h with
  | refl => exact hr
  | tail _ hstep ih => exact hstep.accounted ih

lemma accounted_empty (shape : Shape κ ε α ρ) : Accounted shape (empty : Relay κ ε α ρ) := by
  refine ⟨fun k => ?_, ?_, List.Pairwise.nil, fun t ht => absurd ht not_mem_nil,
    fun z hz => absurd hz not_mem_nil⟩
  · rw [empty, queueAt_empty]
    exact Nat.zero_le _
  · rw [books, empty, contents_empty]
    exact .refl _

lemma Accounted.books_fresh (hr : Accounted shape r) : ∀ t ∈ books shape r, t < r.nextTicket :=
  fun t ht => hr.fresh t (hr.tickets.mem_iff.mpr ht)

end Accounts

section Homes
variable [Std.LawfulEqOrd κ] [DecidableEq κ] {shape} {d : Discipline} {r r' : Relay κ ε α ρ}
variable {m : α} {x : ε} {accepted : Bool} {rest : List α}

/-- Every item waits, or waited before it took flight, at the home of its source, where those in
flight find room. -/
structure Housed (shape : Shape κ ε α ρ) (r : Relay κ ε α ρ) : Prop where
  queued : ∀ k, ∀ m ∈ queueAt r.queues k, shape.home m = k ∧
    shape.homeOf (shape.source m) = k
  flying : ∀ m ∈ r.inFlight, shape.homeOf (shape.source m) = shape.home m
  room : ∀ k, (queueAt r.queues k).length +
    (r.inFlight.filter (fun m => decide (shape.home m = k))).length ≤ shape.capacity
  undiscarded : ∀ z ∈ r.settled, z.fate ≠ .discarded

lemma housed_empty (shape : Shape κ ε α ρ) : Housed shape (empty : Relay κ ε α ρ) := by
  refine ⟨fun k m hm => ?_, fun m hm => absurd hm not_mem_nil, fun k => ?_,
    fun z hz => absurd hz not_mem_nil⟩
  · rw [empty, queueAt_empty] at hm
    exact absurd hm not_mem_nil
  · rw [empty, queueAt_empty]
    exact Nat.zero_le _

lemma Housed.bounded (hr : Housed shape r) (k : κ) : (queueAt r.queues k).length ≤ shape.capacity :=
  (Nat.le_add_right _ _).trans (hr.room k)

lemma push_queued (hm : shape.homeOf (shape.source m) = shape.home m)
    (hr : ∀ k, ∀ m ∈ queueAt r.queues k, shape.home m = k ∧
      shape.homeOf (shape.source m) = k) (k : κ) :
    ∀ m' ∈ queueAt (r.push shape m).queues k, shape.home m' = k ∧
      shape.homeOf (shape.source m') = k := by
  intro m' hm'
  rw [queueAt_push] at hm'
  split_ifs at hm' with h
  · exact forall_mem_concat (hr k) ⟨h.symm, hm.trans h.symm⟩ m' hm'
  · exact hr k m' hm'

lemma Offer.queued (hd : d.loyal) (h : Offer shape d r x accepted r')
    (hr : ∀ k, ∀ m ∈ queueAt r.queues k, shape.home m = k ∧
      shape.homeOf (shape.source m) = k) (k : κ) :
    ∀ m ∈ queueAt r'.queues k, shape.home m = k ∧ shape.homeOf (shape.source m) = k := by
  cases h with
  | refused => exact hr k
  | refusedAt k' => exact (queueAt_touch r k' k).symm ▸ hr k
  | forwarded => exact hr k
  | stored m _ hsource hloyal =>
    exact push_queued (hsource.symm ▸ (hloyal hd).symm) hr k
  | lost k' => exact (queueAt_touch r k' k).symm ▸ hr k
  | displaced m first rest _ hsource hloyal _ hfull =>
    intro m' hm'
    rw [settle, queueAt_shift] at hm'
    split_ifs at hm' with h
    · rcases mem_append.mp hm' with hm' | hm'
      · refine hr k m' ?_
        rw [h, hfull]
        exact mem_cons_of_mem first hm'
      · rw [mem_singleton.mp hm', h, hsource]
        exact ⟨rfl, (hloyal hd).symm⟩
    · exact hr k m' hm'

lemma Offer.undiscarded (h : Offer shape d r x accepted r')
    (hr : ∀ z ∈ r.settled, z.fate ≠ .discarded) : ∀ z ∈ r'.settled, z.fate ≠ .discarded := by
  cases h with
  | refused | refusedAt => exact hr
  | forwarded => exact forall_mem_append.mpr ⟨hr, by simp⟩
  | stored => exact hr
  | lost | displaced => exact forall_mem_append.mpr ⟨hr, by simp⟩

lemma Offer.housed (hd : d.loyal) (hidle : r.inFlight = []) (h : Offer shape d r x accepted r')
    (hr : Housed shape r) : Housed shape (r'.close accepted) := by
  have hidle' : r'.inFlight = [] := h.frame.2.2.trans hidle
  have hqueued := h.queued hd hr.queued
  refine ⟨hqueued, ?_, ?_, h.undiscarded hr.undiscarded⟩
  · intro m hm
    change m ∈ r'.inFlight at hm
    rw [hidle'] at hm
    cases hm
  · intro k
    change (queueAt r'.queues k).length + (r'.inFlight.filter _).length ≤ _
    rw [hidle']
    exact h.bounded hr.bounded k

lemma Housed.drained (hr : Housed shape r) (judge : α → Verdict ρ) :
    Housed shape (r.drained shape judge) := by
  have hflying : ∀ m ∈ (r.drained shape judge).inFlight,
      shape.homeOf (shape.source m) = shape.home m := by
    intro m hm
    obtain ⟨k, hk⟩ := mem_contents.mp (mem_filter.mp hm).1
    obtain ⟨hhome, hsource⟩ := hr.queued k m hk
    rw [hhome, hsource]
  refine ⟨?_, hflying, ?_, ?_⟩
  · intro k m hm
    rw [queueAt_drained] at hm
    exact hr.queued k m (mem_filter.mp hm).1
  · intro k
    -- what takes flight from the contents at `k` is what the queue `k` releases
    have hqueue := contents_filter_key shape.home r.queues
      (fun k m hm => (hr.queued k m hm).1) k
    have hflight : (r.drained shape judge).inFlight.filter (fun m => decide (shape.home m = k)) =
        (queueAt r.queues k).filter (fun m => (judge m).releases) := by
      rw [← hqueue]
      exact filter_comm _ _ _
    rw [queueAt_drained, hflight]
    have hlength := (verdicts_perm shape judge (queueAt r.queues k)).length_eq
    simp only [length_append, length_map] at hlength
    have hbounded := hr.bounded k
    omega
  · refine forall_mem_append.mpr ⟨hr.undiscarded, fun z hz => ?_⟩
    obtain ⟨m, -, hm⟩ := mem_filterMap.mp hz
    obtain ⟨reason, -, rfl⟩ := dropped_eq_some hm
    simp

lemma room_next (hnext : r.inFlight = m :: rest) (hr : Housed shape r) (k : κ) :
    (queueAt r.queues k).length + (rest.filter (fun m => decide (shape.home m = k))).length +
        (if shape.home m = k then 1 else 0) ≤ shape.capacity := by
  have hroom := hr.room k
  rw [hnext, filter_cons] at hroom
  split_ifs with h
  · rw [if_pos (decide_eq_true h), length_cons] at hroom
    omega
  · rw [if_neg (by simpa using h)] at hroom
    omega

lemma Housed.taken (hnext : r.inFlight = m :: rest) (hr : Housed shape r) {z : Settlement ε ρ}
    (hz : z.fate ≠ .discarded) :
    Housed shape (({ r with inFlight := rest } : Relay κ ε α ρ).settle [z]) := by
  refine ⟨hr.queued, ?_, ?_, ?_⟩
  · exact fun m' hm' => hr.flying m' (hnext ▸ mem_cons_of_mem m hm')
  · exact fun k => (Nat.le_add_right _ _).trans (room_next hnext hr k)
  · exact forall_mem_append.mpr ⟨hr.undiscarded, forall_mem_singleton.mpr hz⟩

lemma Step.housed (hd : d.loyal) (h : Step shape d r r') (hr : Housed shape r) :
    Housed shape r' := by
  cases h with
  | offer hidle hoffer => exact hoffer.housed hd hidle hr
  | drain judge => exact hr.drained judge
  | deliver hnext | drop reason hnext => exact hr.taken hnext (by simp)
  | @requeue m rest m' hnext _ hsource hloyal hroom =>
    have hflying := hr.flying m (hnext ▸ mem_cons_self)
    have hhome : shape.home m' = shape.home m := (hloyal hd).elim id (·.trans hflying)
    refine ⟨push_queued ?_ hr.queued, ?_, ?_, hr.undiscarded⟩
    · rw [hsource, hflying, hhome]
    · exact fun m'' hm'' => hr.flying m'' (hnext ▸ mem_cons_of_mem m hm'')
    · intro k
      have hk := room_next hnext hr k
      change _ + (rest.filter (fun m => decide (shape.home m = k))).length ≤ _
      rw [queueAt_push, hhome]
      by_cases h : k = shape.home m
      · rw [if_pos h.symm] at hk
        rw [if_pos h, length_append, length_singleton]
        exact (Nat.add_right_comm _ _ _).trans_le hk
      · rw [if_neg h]
        exact (Nat.le_add_right _ _).trans hk
  | @discard m rest m' hnext hloyal hfull =>
    -- the item that found no room still has its place in the queue it came from
    have hflying := hr.flying m (hnext ▸ mem_cons_self)
    have hhome : shape.home m' = shape.home m := (hloyal hd).elim id (·.trans hflying)
    have hk := room_next hnext hr (shape.home m)
    rw [if_pos rfl] at hk
    rw [hhome] at hfull
    omega

lemma Steps.housed (hd : d.loyal) (h : Steps shape d r r') (hr : Housed shape r) :
    Housed shape r' := by
  induction h with
  | refl => exact hr
  | tail _ hstep ih => exact hstep.housed hd ih

end Homes
end Relay
end Foundation
