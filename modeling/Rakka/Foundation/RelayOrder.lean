import Rakka.Foundation.Relay

/-! The order in which a relay delivers. The delivered, queued and flying numbers of a source
form its trail. A step of a disciplined relay only takes numbers out of a trail or adds the
next one at its end, so trails stay sorted. -/

namespace Foundation
open Queues List
namespace Relay
variable {κ ε α ρ : Type} [Ord κ] [Std.TransOrd κ] [Std.LawfulEqOrd κ] [DecidableEq κ]
  [DecidableEq ε] {shape : Shape κ ε α ρ} {d : Discipline} {r r' : Relay κ ε α ρ}
variable (y x : ε)

def deliveredTo (settled : List (Settlement ε ρ)) : List ℕ :=
  (settled.filter (fun z => decide (z.source = x) && z.fate.isDelivered)).map Settlement.ticket

def line (shape : Shape κ ε α ρ) (x : ε) (ms : List α) : List ℕ :=
  (ms.filter (fun m => decide (shape.source m = x))).map shape.ticket

def trail (shape : Shape κ ε α ρ) (x : ε) (r : Relay κ ε α ρ) : List ℕ :=
  deliveredTo x r.settled ++
    (line shape x (queueAt r.queues (shape.homeOf x)) ++ line shape x r.inFlight)

/-- Trails are sorted, and a source has items both queued and in flight only after one of
them was returned. -/
structure Ordered (shape : Shape κ ε α ρ) (r : Relay κ ε α ρ) : Prop where
  sorted : ∀ x, (trail shape x r).Pairwise (· < ·)
  apart : ∀ x, line shape x (queueAt r.queues (shape.homeOf x)) ≠ [] →
    line shape x r.inFlight ≠ [] → x ∈ r.returned

set_option linter.unusedSectionVars false

lemma line_append (ms ms' : List α) :
    line shape x (ms ++ ms') = line shape x ms ++ line shape x ms' := by
  rw [line, filter_append, map_append]
  rfl

lemma line_singleton (m : α) :
    line shape x [m] = if shape.source m = x then [shape.ticket m] else [] := by
  by_cases h : shape.source m = x
  · simp [line, h]
  · simp [line, h]

lemma line_cons (m : α) (ms : List α) : line shape x (m :: ms) =
      (if shape.source m = x then [shape.ticket m] else []) ++ line shape x ms := by
  rw [← singleton_append, line_append, line_singleton]

lemma line_eq_nil {ms : List α} (h : ∀ m ∈ ms, shape.source m ≠ x) : line shape x ms = [] := by
  rw [line, filter_eq_nil_iff.mpr (by simpa using h)]
  rfl

lemma line_sublist {ms ms' : List α} (h : ms.Sublist ms') :
    (line shape x ms).Sublist (line shape x ms') :=
  (h.filter _).map _

lemma deliveredTo_append (zs : List (Settlement ε ρ)) (z : Settlement ε ρ) :
    deliveredTo x (zs ++ [z]) = deliveredTo x zs ++
      if z.source = x ∧ z.fate.isDelivered = true then [z.ticket] else [] := by
  rw [deliveredTo, filter_append, map_append]
  by_cases h : z.source = x ∧ z.fate.isDelivered = true
  · simp [deliveredTo, h]
  · rw [if_neg h]
    simp [deliveredTo, h]

lemma deliveredTo_append_of_not {zs zs' : List (Settlement ε ρ)}
    (h : ∀ z ∈ zs', z.fate.isDelivered = false) : deliveredTo x (zs ++ zs') = deliveredTo x zs := by
  have hnil : zs'.filter (fun z => decide (z.source = x) && z.fate.isDelivered) = [] :=
    filter_eq_nil_iff.mpr (fun z hz => by simp [h z hz])
  rw [deliveredTo, filter_append, hnil, append_nil]
  rfl

lemma mem_books_of_mem_trail {x : ε} {t : ℕ} (h : t ∈ trail shape x r) : t ∈ books shape r := by
  unfold trail at h
  unfold books
  rw [mem_append, mem_append] at h ⊢
  rcases h with h | h | h
  · obtain ⟨z, hz, rfl⟩ := mem_map.mp h
    exact .inr (.inr (mem_map_of_mem (mem_filter.mp hz).1))
  · obtain ⟨m, hm, rfl⟩ := mem_map.mp h
    exact .inl (mem_map_of_mem (mem_contents.mpr ⟨_, (mem_filter.mp hm).1⟩))
  · obtain ⟨m, hm, rfl⟩ := mem_map.mp h
    exact .inr (.inl (mem_map_of_mem (mem_filter.mp hm).1))

lemma trail_touch (r : Relay κ ε α ρ) (k : κ) : trail shape y (r.touch k) = trail shape y r := by
  unfold trail
  rw [queueAt_touch]
  rfl

lemma trail_settle_of_not (r : Relay κ ε α ρ) {zs : List (Settlement ε ρ)}
    (h : ∀ z ∈ zs, z.fate.isDelivered = false) : trail shape y (r.settle zs) = trail shape y r := by
  unfold trail
  rw [settle, deliveredTo_append_of_not y h]

lemma line_push (r : Relay κ ε α ρ) {m : α} (hm : shape.home m = shape.homeOf (shape.source m)) :
    line shape y (queueAt (r.push shape m).queues (shape.homeOf y)) =
      line shape y (queueAt r.queues (shape.homeOf y)) ++
        if shape.source m = y then [shape.ticket m] else [] := by
  rw [queueAt_push]
  split_ifs with h₁ h₂ h₂
  · rw [line_append, line_singleton, if_pos h₂]
  · rw [line_append, line_singleton, if_neg h₂]
  · exact absurd (by rw [hm, h₂]) h₁
  · rw [append_nil]

lemma trail_settle (r : Relay κ ε α ρ) (z : Settlement ε ρ) :
    trail shape y (r.settle [z]) = (deliveredTo y r.settled ++
      if z.source = y ∧ z.fate.isDelivered = true then [z.ticket] else []) ++
        (line shape y (queueAt r.queues (shape.homeOf y)) ++ line shape y r.inFlight) := by
  rw [← deliveredTo_append]
  rfl

lemma ite_singleton_sublist (p : Prop) [Decidable p] (t : ℕ) :
    (if p then [t] else []).Sublist [t] := by
  split_ifs
  · exact .refl _
  · exact nil_sublist _

theorem Offer.trail_sublist (hcalm : d.calm) (hloyal : d.loyal) (hidle : r.inFlight = []) {x : ε}
    {accepted : Bool} (h : Offer shape d r x accepted r') (y : ε) :
    (trail shape y r').Sublist (trail shape y r ++ [r.nextTicket]) := by
  have hend : trail shape y r = deliveredTo y r.settled ++
      line shape y (queueAt r.queues (shape.homeOf y)) := by
    rw [trail, hidle]
    exact congrArg _ (append_nil _)
  cases h with
  | refused => exact sublist_append_left _ _
  | refusedAt =>
    rw [trail_touch]
    exact sublist_append_left _ _
  | forwarded hclear =>
    rw [trail_settle, hend, hidle]
    by_cases hy : x = y
    · have hline : line shape y (queueAt r.queues (shape.homeOf y)) = [] :=
        line_eq_nil y (fun m hm => hy ▸ hclear hcalm m (mem_contents.mpr ⟨_, hm⟩))
      rw [hline, if_pos ⟨hy, rfl⟩]
      simp [line]
    · rw [if_neg (fun h => hy h.1), append_nil]
      simp [line]
  | stored m hticket hsource hhome =>
    have hm : shape.home m = shape.homeOf (shape.source m) := hsource.symm ▸ hhome hloyal
    rw [trail, line_push y r hm, hend, hticket]
    change (deliveredTo y r.settled ++ (_ ++ line shape y r.inFlight)).Sublist _
    rw [hidle]
    simp only [append_assoc]
    refine (List.Sublist.append_left ?_ _).append_left _
    change (_ ++ []).Sublist _
    rw [append_nil]
    exact ite_singleton_sublist _ _
  | lost =>
    rw [trail_settle_of_not y _ (forall_mem_singleton.mpr rfl), trail_touch]
    exact sublist_append_left _ _
  | displaced m first rest hticket hsource hhome hevicts hfull =>
    rw [trail_settle_of_not y _ (forall_mem_singleton.mpr rfl), hend, trail]
    change (deliveredTo y r.settled ++ (_ ++ line shape y r.inFlight)).Sublist _
    rw [hidle, append_assoc, queueAt_shift]
    refine List.Sublist.append_left ?_ _
    change (_ ++ []).Sublist _
    rw [append_nil]
    split_ifs with h
    · rw [h, hfull, line_append, line_singleton, hticket]
      exact (line_sublist y (sublist_cons_self first rest)).append (ite_singleton_sublist _ _)
    · exact sublist_append_left _ _

/-- A drain keeps or takes the queued items of a source, all of them alike. -/
theorem drained_lines (judge : α → Verdict ρ) (hhoused : Housed shape r)
    (hkeep : ∀ m m', shape.source m = shape.source m' → judge m = .keep → judge m' ≠ .release)
    (y : ε) :
    let before := (queueAt r.queues (shape.homeOf y)).filter
      (fun m => decide (shape.source m = y))
    (line shape y (queueAt (r.drained shape judge).queues (shape.homeOf y)) =
        (before.filter (fun m => (judge m).keeps)).map shape.ticket ∧
      line shape y (r.drained shape judge).inFlight =
        (before.filter (fun m => (judge m).releases)).map shape.ticket) ∧
      (before.filter (fun m => (judge m).keeps) = [] ∨
        before.filter (fun m => (judge m).releases) = []) := by
  intro before
  refine ⟨⟨?_, ?_⟩, ?_⟩
  · rw [queueAt_drained, line, filter_comm]
  · have hmine : (contents r.queues).filter (fun m => decide (shape.source m = y)) =
        before := by
      unfold before
      rw [← contents_filter_key shape.home r.queues
        (fun k m hm => (hhoused.queued k m hm).1), filter_filter]
      refine filter_congr (fun m hm => ?_)
      obtain ⟨k, hk⟩ := mem_contents.mp hm
      obtain ⟨hhome, hsource⟩ := hhoused.queued k m hk
      by_cases hy : shape.source m = y
      · simp [hy, hhome, ← hsource]
      · simp [hy]
    rw [← hmine, line, filter_comm]
    rfl
  · by_contra hboth
    obtain ⟨hkept, hreleased⟩ := not_or.mp hboth
    obtain ⟨m, hm⟩ := exists_mem_of_ne_nil _ hkept
    obtain ⟨m', hm'⟩ := exists_mem_of_ne_nil _ hreleased
    rw [mem_filter, mem_filter] at hm hm'
    refine hkeep m m' ?_ (Verdict.eq_keep_of_keeps hm.2) (Verdict.eq_release_of_releases hm'.2)
    rw [of_decide_eq_true hm.1.2, of_decide_eq_true hm'.1.2]

lemma Step.trail_sublist (hd : d.calm ∧ d.loyal ∧ d.patient) (h : Step shape d r r')
    (hhoused : Housed shape r) (hr : Ordered shape r) (y : ε) :
    (trail shape y r').Sublist (trail shape y r ++ [r.nextTicket]) := by
  obtain ⟨hcalm, hloyal, hpatient⟩ := hd
  cases h with
  | offer hidle hoffer => exact hoffer.trail_sublist hcalm hloyal hidle y
  | drain judge hidle hmay hkeep =>
    refine List.Sublist.trans ?_ (sublist_append_left _ _)
    obtain ⟨⟨hkept, hreleased⟩, hpart⟩ := drained_lines judge hhoused hkeep y
    have hdelivered : deliveredTo y (r.drained shape judge).settled = deliveredTo y r.settled := by
      refine deliveredTo_append_of_not y (fun z hz => ?_)
      obtain ⟨m, -, hm⟩ := mem_filterMap.mp hz
      obtain ⟨reason, -, rfl⟩ := dropped_eq_some hm
      rfl
    rw [trail, hdelivered, hkept, hreleased, ← map_append, trail]
    refine List.Sublist.append_left (List.Sublist.trans ?_ (sublist_append_left _ _)) _
    refine List.Sublist.map _ ?_
    rcases hpart with hnone | hnone
    · rw [hnone, nil_append]
      exact filter_sublist
    · rw [hnone, append_nil]
      exact filter_sublist
  | @deliver m rest hnext hreturned =>
    refine List.Sublist.trans ?_ (sublist_append_left _ _)
    rw [trail_settle, trail, hnext, line_cons]
    by_cases hy : shape.source m = y
    · -- nothing of this source is queued, or an item of it would have been returned
      have hline : line shape y (queueAt r.queues (shape.homeOf y)) = [] := by
        by_contra hqueued
        refine hreturned hpatient (hy ▸ hr.apart y hqueued ?_)
        rw [hnext, line_cons, if_pos hy]
        exact cons_ne_nil _ _
      rw [if_pos ⟨hy, rfl⟩, if_pos hy, hline]
      simp
    · rw [if_neg (fun h => hy h.1), if_neg hy]
      simp
  | drop reason hnext =>
    refine List.Sublist.trans ?_ (sublist_append_left _ _)
    rw [trail_settle_of_not y _ (forall_mem_singleton.mpr rfl), trail, trail, hnext]
    exact ((line_sublist y (sublist_cons_self _ _)).append_left _).append_left _
  | @requeue m rest m' hnext hticket hsource hhome hroom =>
    refine List.Sublist.trans ?_ (sublist_append_left _ _)
    have hflying := hhoused.flying m (hnext ▸ mem_cons_self)
    have hm' : shape.home m' = shape.homeOf (shape.source m') := by
      rw [hsource]
      exact (hhome hloyal).elim (·.trans hflying.symm) id
    rw [trail, line_push y _ hm', trail, hnext, line_cons, hsource, hticket]
    rw [append_assoc]
    exact .refl _
  | discard m' hnext =>
    refine List.Sublist.trans ?_ (sublist_append_left _ _)
    rw [trail_settle_of_not y _ (forall_mem_singleton.mpr rfl), trail_touch, trail, trail, hnext]
    exact ((line_sublist y (sublist_cons_self _ _)).append_left _).append_left _

lemma line_ne_nil_of_next {x : ε} {m : α} {rest : List α} (hnext : r.inFlight = m :: rest)
    (h : line shape x rest ≠ []) : line shape x r.inFlight ≠ [] := by
  rw [hnext, line_cons]
  exact append_ne_nil_of_right_ne_nil _ h

lemma Step.apart (h : Step shape d r r') (hhoused : Housed shape r) (hr : Ordered shape r) (x : ε) :
    line shape x (queueAt r'.queues (shape.homeOf x)) ≠ [] →
      line shape x r'.inFlight ≠ [] → x ∈ r'.returned := by
  intro hqueued hflying
  cases h with
  | @offer r'' _ _ hidle hoffer =>
    refine absurd ?_ hflying
    change line shape x r''.inFlight = []
    rw [hoffer.frame.2.2, hidle]
    rfl
  | drain judge hidle hmay hkeep =>
    obtain ⟨⟨hkept, hreleased⟩, hpart⟩ := drained_lines judge hhoused hkeep x
    rw [hkept] at hqueued
    rw [hreleased] at hflying
    rcases hpart with hnone | hnone
    · exact absurd (by rw [hnone]; rfl) hqueued
    · exact absurd (by rw [hnone]; rfl) hflying
  | deliver hnext | drop reason hnext =>
    exact hr.apart x hqueued (line_ne_nil_of_next hnext hflying)
  | @requeue m rest m' hnext hticket hsource hhome hroom =>
    by_cases hx : shape.source m = x
    · exact hx ▸ mem_cons_self
    · refine mem_cons_of_mem _ (hr.apart x ?_ (line_ne_nil_of_next hnext hflying))
      intro hnone
      refine hqueued ?_
      rw [queueAt_push]
      split_ifs
      · rw [line_append, line_singleton, hsource, if_neg hx, append_nil]
        exact hnone
      · exact hnone
  | discard m' hnext =>
    refine hr.apart x ?_ (line_ne_nil_of_next hnext hflying)
    rwa [settle, queueAt_touch] at hqueued

lemma Step.ordered (hd : d.calm ∧ d.loyal ∧ d.patient) (h : Step shape d r r')
    (haccounted : Accounted shape r) (hhoused : Housed shape r) (hr : Ordered shape r) :
    Ordered shape r' := by
  refine ⟨fun x => ?_, h.apart hhoused hr⟩
  refine List.Pairwise.sublist (h.trail_sublist hd hhoused hr x) ?_
  exact pairwise_concat (hr.sorted x)
    (fun t ht => haccounted.books_fresh t (mem_books_of_mem_trail ht))

lemma ordered_empty (shape : Shape κ ε α ρ) : Ordered shape (empty : Relay κ ε α ρ) := by
  refine ⟨fun x => ?_, fun x _ hflying => absurd rfl hflying⟩
  rw [trail, empty, queueAt_empty]
  exact List.Pairwise.nil

lemma Steps.ordered (hd : d.calm ∧ d.loyal ∧ d.patient) (h : Steps shape d r r')
    (hr : Accounted shape r ∧ Housed shape r ∧ Ordered shape r) :
    Accounted shape r' ∧ Housed shape r' ∧ Ordered shape r' := by
  induction h with
  | refl => exact hr
  | tail _ hstep ih =>
    obtain ⟨haccounted, hhoused, hordered⟩ := ih
    exact ⟨hstep.accounted haccounted, hstep.housed hd.2.1 hhoused,
      hstep.ordered hd haccounted hhoused hordered⟩

lemma Ordered.delivered_lt_queued (h : Ordered shape r) (hhoused : Housed shape r) {m : α}
    (hm : m ∈ contents r.queues) :
    ∀ t ∈ deliveredTo (shape.source m) r.settled, t < shape.ticket m := by
  intro t ht
  obtain ⟨k, hk⟩ := mem_contents.mp hm
  have hline : shape.ticket m ∈ line shape (shape.source m)
      (queueAt r.queues (shape.homeOf (shape.source m))) := by
    rw [(hhoused.queued k m hk).2]
    exact mem_map_of_mem (mem_filter.mpr ⟨hk, decide_eq_true rfl⟩)
  exact (pairwise_append.mp (h.sorted (shape.source m))).2.2 t ht _
    (mem_append_left _ hline)

end Relay
end Foundation
