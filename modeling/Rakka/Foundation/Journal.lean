import Rakka.Foundation.OrderedMap

/-! Journals of changes to a finite map. A change names the value it replaces, and
a journal is faithful to a map when every change finds that value in place. A
faithful journal that names each key once is exactly the difference of the two
maps it connects. -/

namespace Foundation
open List

/-- The replacement of the value at `key`; `none` stands for an absent key. -/
structure Change (κ υ : Type) where
  key : κ
  old : Option υ
  new : Option υ

namespace BTreeMap
variable {κ υ : Type} [LinearOrder κ]
variable {cs : List (Change κ υ)} {m : BTreeMap κ υ}

variable (m)

def assign (k : κ) : Option υ → BTreeMap κ υ
  | some v => m.insert k v
  | none => m.erase k

lemma lookup_assign (k a : κ) (o : Option υ) : (assign m k o)[a]? = if a = k then o else m[a]? := by
  cases o with
  | none => exact lookup_erase m k a
  | some v => exact lookup_insert m k a v

def replay (cs : List (Change κ υ)) : BTreeMap κ υ :=
  cs.foldl (fun m c => assign m c.key c.new) m

lemma replay_cons (c : Change κ υ) (cs : List (Change κ υ)) :
    replay m (c :: cs) = replay (assign m c.key c.new) cs := rfl

lemma replay_append (cs ds : List (Change κ υ)) : replay m (cs ++ ds) = replay (replay m cs) ds :=
  foldl_append

lemma lookup_replay_of_notMem (cs : List (Change κ υ)) (k : κ) (hk : k ∉ cs.map Change.key) :
    (replay m cs)[k]? = m[k]? := by
  induction cs generalizing m with
  | nil => rfl
  | cons c cs ih =>
    simp only [map_cons, mem_cons, not_or] at hk
    rw [replay_cons, ih _ hk.2, lookup_assign, if_neg hk.1]

variable {m}

/-- Every change finds the value it names and replaces it by another. -/
def Faithful : BTreeMap κ υ → List (Change κ υ) → Prop
  | _, [] => True
  | m, c :: cs => m[c.key]? = c.old ∧ c.new ≠ c.old ∧ Faithful (assign m c.key c.new) cs

lemma faithful_append (m : BTreeMap κ υ) (cs ds : List (Change κ υ)) :
    Faithful m (cs ++ ds) ↔ Faithful m cs ∧ Faithful (replay m cs) ds := by
  induction cs generalizing m with
  | nil => simp only [nil_append, Faithful, true_and, replay, foldl_nil]
  | cons c cs ih => simp only [cons_append, Faithful, ih, replay_cons, and_assoc]

lemma faithful_of_old_eq (hn : (cs.map Change.key).Nodup) (hold : ∀ c ∈ cs, m[c.key]? = c.old)
    (hne : ∀ c ∈ cs, c.new ≠ c.old) : Faithful m cs := by
  induction cs generalizing m with
  | nil => trivial
  | cons d cs ih =>
    obtain ⟨hd, hn⟩ := nodup_cons.mp hn
    refine ⟨hold d (mem_cons_self ..), hne d (mem_cons_self ..), ih hn ?_ ?_⟩
    · intro c hc
      have hck : c.key ≠ d.key := fun he => hd (he ▸ mem_map_of_mem hc)
      rw [lookup_assign, if_neg hck, hold c (mem_cons_of_mem _ hc)]
    · exact fun c hc => hne c (mem_cons_of_mem _ hc)

lemma Faithful.old_eq (h : Faithful m cs) (hn : (cs.map Change.key).Nodup) :
    ∀ c ∈ cs, m[c.key]? = c.old := by
  induction cs generalizing m with
  | nil => intro c hc; cases hc
  | cons d cs ih =>
    obtain ⟨hd, hn⟩ := nodup_cons.mp hn
    intro c hc
    rcases mem_cons.mp hc with rfl | hc
    · exact h.1
    · have hne : c.key ≠ d.key := fun he => hd (he ▸ mem_map_of_mem hc)
      rw [← ih h.2.2 hn c hc, lookup_assign, if_neg hne]

lemma lookup_replay_of_mem (m : BTreeMap κ υ) (hn : (cs.map Change.key).Nodup) :
    ∀ c ∈ cs, (replay m cs)[c.key]? = c.new := by
  induction cs generalizing m with
  | nil => intro c hc; cases hc
  | cons d cs ih =>
    obtain ⟨hd, hn⟩ := nodup_cons.mp hn
    refine forall_mem_cons.mpr ⟨?_, ih _ hn⟩
    rw [replay_cons, lookup_replay_of_notMem _ _ _ hd, lookup_assign, if_pos rfl]

lemma Faithful.new_ne_old (h : Faithful m cs) : ∀ c ∈ cs, c.new ≠ c.old := by
  induction cs generalizing m with
  | nil => intro c hc; cases hc
  | cons d cs ih => exact forall_mem_cons.mpr ⟨h.2.1, ih h.2.2⟩

theorem Faithful.replay_eq_self_iff (h : Faithful m cs) (hn : (cs.map Change.key).Nodup) :
    replay m cs = m ↔ cs = [] := by
  constructor
  · intro he
    refine eq_nil_iff_forall_not_mem.mpr (fun c hc => h.new_ne_old c hc ?_)
    rw [← lookup_replay_of_mem m hn c hc, he, h.old_eq hn c hc]
  · rintro rfl
    rfl

end BTreeMap
end Foundation
