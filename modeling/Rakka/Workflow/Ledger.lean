import Rakka.Foundation.OrderedMap

/-! Tables of durable entries with an index of their deduplication keys. Entries are added only
when neither their id nor their key is known, so that an indexed table finds every entry it ever
took under both. -/

namespace Rakka.Workflow
open Foundation

structure DeduplicationKey where
  value : String
  deriving DecidableEq, Repr

lemma DeduplicationKey.value_injective : Function.Injective DeduplicationKey.value :=
  fun ⟨_⟩ ⟨_⟩ h => congrArg DeduplicationKey.mk h

instance : LinearOrder DeduplicationKey :=
  LinearOrder.lift' DeduplicationKey.value DeduplicationKey.value_injective

instance : Std.TransOrd DeduplicationKey := inferInstance

/-- The inbox and the outbox of a workflow are two of them. -/
structure Ledger (ι ε : Type) [Ord ι] where
  entries : BTreeMap ι ε
  deduplication : BTreeMap DeduplicationKey ι

namespace Ledger
variable {ι ε : Type} [LinearOrder ι]
variable (ledger : Ledger ι ε) (id : ι) (keyOf : ε → Option DeduplicationKey)
variable (other : ι) (key : Option DeduplicationKey) (entry : ε)

def empty : Ledger ι ε := ⟨∅, ∅⟩

def entryByDeduplicationKey (key : DeduplicationKey) : Option ε :=
  (ledger.deduplication[key]?).bind (fun id => ledger.entries[id]?)

def existing : Option ε :=
  match ledger.entries[id]? with
  | some entry => some entry
  | none => key.bind ledger.entryByDeduplicationKey

def insert (key : Option DeduplicationKey) (entry : ε) : Ledger ι ε :=
  ⟨ledger.entries.insert id entry,
    match key with
    | some key => ledger.deduplication.insert key id
    | none => ledger.deduplication⟩

def update : Ledger ι ε :=
  { ledger with entries := ledger.entries.insert id entry }

/-- Removes one entry and its key, and counts what went. -/
def remove (acc : Ledger ι ε × ℕ × ℕ) (id : ι) : Ledger ι ε × ℕ × ℕ :=
  match acc.1.entries[id]? with
  | none => acc
  | some entry =>
    let entries := acc.1.entries.erase id
    match keyOf entry with
    | none => (⟨entries, acc.1.deduplication⟩, acc.2.1 + 1, acc.2.2)
    | some key =>
      (⟨entries, acc.1.deduplication.erase key⟩, acc.2.1 + 1,
        if (acc.1.deduplication[key]?).isSome then acc.2.2 + 1 else acc.2.2)

def compact (goes : ε → Bool) : Ledger ι ε × ℕ × ℕ :=
  let ids := (ledger.entries.toList.filter (fun p => goes p.2)).map Prod.fst
  ids.foldl (remove keyOf) (ledger, 0, 0)

/-- Every entry is found under its id, and the index holds exactly the keys of the entries. -/
structure Indexed (idOf : ε → ι) (keyOf : ε → Option DeduplicationKey) (ledger : Ledger ι ε) :
    Prop where
  named : ∀ id entry, ledger.entries[id]? = some entry → idOf entry = id
  sound : ∀ key id, ledger.deduplication[key]? = some id →
    ∃ entry, ledger.entries[id]? = some entry ∧ keyOf entry = some key
  complete : ∀ id entry key, ledger.entries[id]? = some entry → keyOf entry = some key →
    ledger.deduplication[key]? = some id

lemma indexed_empty (idOf : ε → ι) (keyOf : ε → Option DeduplicationKey) :
    Indexed idOf keyOf (empty : Ledger ι ε) :=
  ⟨fun _ _ h => (by simp [empty] at h), fun _ _ h => (by simp [empty] at h),
    fun _ _ _ h => (by simp [empty] at h)⟩

lemma insert_lookup : (ledger.insert id key entry).entries[other]? =
      if other = id then some entry else ledger.entries[other]? :=
  BTreeMap.lookup_insert ledger.entries id other entry

lemma insert_index (other : DeduplicationKey) : (ledger.insert id key entry).deduplication[other]? =
      if key = some other then some id else ledger.deduplication[other]? := by
  cases key with
  | none => simp [insert]
  | some key =>
    simp only [insert, BTreeMap.lookup_insert, Option.some.injEq, eq_comm]

lemma update_lookup : (ledger.update id entry).entries[other]? =
      if other = id then some entry else ledger.entries[other]? :=
  BTreeMap.lookup_insert ledger.entries id other entry

lemma existing_eq_none {ledger : Ledger ι ε} {id : ι} {key : Option DeduplicationKey}
    (h : ledger.existing id key = none) :
    ledger.entries[id]? = none ∧ ∀ k, key = some k → ledger.entryByDeduplicationKey k = none := by
  unfold existing at h
  cases hid : ledger.entries[id]? with
  | some entry =>
    rw [hid] at h
    cases h
  | none =>
    rw [hid] at h
    refine ⟨rfl, fun k hk => ?_⟩
    rw [hk] at h
    exact h

section
variable {idOf : ε → ι} {keyOf : ε → Option DeduplicationKey} {ledger : Ledger ι ε}
variable (h : Indexed idOf keyOf ledger)

section
variable (h : Indexed idOf keyOf ledger)
include h

lemma Indexed.existing_shares {id : ι} {key : Option DeduplicationKey} {entry : ε}
    (hexisting : ledger.existing id key = some entry) :
    idOf entry = id ∨ ∃ k, key = some k ∧ keyOf entry = some k := by
  unfold existing at hexisting
  cases hid : ledger.entries[id]? with
  | some found =>
    rw [hid] at hexisting
    cases hexisting
    exact .inl (h.named id entry hid)
  | none =>
    rw [hid] at hexisting
    obtain ⟨k, rfl, hfound⟩ := Option.bind_eq_some_iff.mp hexisting
    obtain ⟨other, hindex, hentry⟩ := Option.bind_eq_some_iff.mp hfound
    obtain ⟨found, hlookup, hkey⟩ := h.sound k other hindex
    rw [hlookup] at hentry
    cases hentry
    exact .inr ⟨k, rfl, hkey⟩

lemma Indexed.existing_ne_none {id other : ι} {key : Option DeduplicationKey} {entry : ε}
    (hentry : ledger.entries[other]? = some entry)
    (hshares : other = id ∨ ∃ k, key = some k ∧ keyOf entry = some k) :
    ledger.existing id key ≠ none := by
  intro hnone
  obtain ⟨hid, hkey⟩ := existing_eq_none hnone
  rcases hshares with rfl | ⟨k, rfl, hk⟩
  · cases hid.symm.trans hentry
  · have hindex := h.complete other entry k hentry hk
    have hfound := hkey k rfl
    rw [entryByDeduplicationKey, hindex] at hfound
    cases hfound.symm.trans hentry

lemma Indexed.insert {entry : ε} (hnew : ledger.existing (idOf entry) (keyOf entry) = none) :
    Indexed idOf keyOf (ledger.insert (idOf entry) (keyOf entry) entry) := by
  obtain ⟨hid, hkey⟩ := existing_eq_none hnew
  have hunknown : ∀ k, keyOf entry = some k → ledger.deduplication[k]? = none := by
    intro k hk
    cases hindex : ledger.deduplication[k]? with
    | none => rfl
    | some other =>
      obtain ⟨found, hlookup, _⟩ := h.sound k other hindex
      have hfound := hkey k hk
      rw [entryByDeduplicationKey, hindex] at hfound
      cases hfound.symm.trans hlookup
  refine ⟨fun id found hfound => ?_, fun key id hindex => ?_, fun id found key hfound hk => ?_⟩
  · rw [insert_lookup] at hfound
    split_ifs at hfound with heq
    · cases hfound
      exact heq.symm
    · exact h.named id found hfound
  · rw [insert_index] at hindex
    rw [insert_lookup]
    split_ifs at hindex with heq
    · cases hindex
      exact ⟨entry, if_pos rfl, heq⟩
    · obtain ⟨found, hlookup, hk⟩ := h.sound key id hindex
      refine ⟨found, ?_, hk⟩
      rw [if_neg (fun hsame => ?_), hlookup]
      rw [hsame] at hlookup
      cases hid.symm.trans hlookup
  · rw [insert_lookup] at hfound
    rw [insert_index]
    split_ifs at hfound with heq
    · cases hfound
      rw [if_pos hk, heq]
    · have hindex := h.complete id found key hfound hk
      rw [if_neg (fun hsame => ?_), hindex]
      cases (hunknown key hsame).symm.trans hindex

lemma Indexed.update {id : ι} {entry entry' : ε} (hentry : ledger.entries[id]? = some entry)
    (hid : idOf entry' = idOf entry) (hkey : keyOf entry' = keyOf entry) :
    Indexed idOf keyOf (ledger.update id entry') := by
  refine ⟨fun other found hfound => ?_, fun key other hindex => ?_,
    fun other found key hfound hk => ?_⟩
  · rw [update_lookup] at hfound
    split_ifs at hfound with heq
    · cases hfound
      rw [hid, h.named id entry hentry, heq]
    · exact h.named other found hfound
  · obtain ⟨found, hlookup, hk⟩ := h.sound key other hindex
    rw [update_lookup]
    split_ifs with heq
    · rw [heq, hentry] at hlookup
      cases hlookup
      exact ⟨entry', rfl, hkey.trans hk⟩
    · exact ⟨found, hlookup, hk⟩
  · rw [update_lookup] at hfound
    split_ifs at hfound with heq
    · cases hfound
      rw [heq]
      exact h.complete id entry key hentry (hkey.symm.trans hk)
    · exact h.complete other found key hfound hk

end

end

lemma remove_lookup (acc : Ledger ι ε × ℕ × ℕ) (id other : ι) :
    (remove keyOf acc id).1.entries[other]? =
      if other = id then none else acc.1.entries[other]? := by
  unfold remove
  cases hid : acc.1.entries[id]? with
  | none =>
    split_ifs with heq
    · rw [heq, hid]
    · rfl
  | some entry =>
    cases hkey : keyOf entry with
    | none | some key => simp only [hkey, BTreeMap.lookup_erase]

lemma foldl_remove_lookup (ids : List ι) (acc : Ledger ι ε × ℕ × ℕ) (other : ι) :
    (ids.foldl (remove keyOf) acc).1.entries[other]? =
      if other ∈ ids then none else acc.1.entries[other]? := by
  induction ids generalizing acc with
  | nil => simp
  | cons id ids ih =>
    rw [List.foldl_cons, ih, remove_lookup]
    simp only [List.mem_cons]
    split_ifs <;> simp_all

lemma compact_lookup (goes : ε → Bool) (id : ι) : (ledger.compact keyOf goes).1.entries[id]? =
      (ledger.entries[id]?).filter (fun entry => !goes entry) := by
  unfold compact
  rw [foldl_remove_lookup]
  have hmem : id ∈ (ledger.entries.toList.filter (fun p => goes p.2)).map Prod.fst ↔
      ∃ entry, ledger.entries[id]? = some entry ∧ goes entry = true := by
    simp [List.mem_map, List.mem_filter, Std.ExtTreeMap.mem_toList_iff_getElem?_eq_some]
  cases hid : ledger.entries[id]? with
  | none => simp
  | some entry =>
    rw [Option.filter_some]
    by_cases hgoes : goes entry = true
    · rw [if_pos (hmem.mpr ⟨entry, hid, hgoes⟩), hgoes]
      rfl
    · rw [if_neg (fun h => ?_), if_pos (by simpa using hgoes)]
      obtain ⟨found, hfound, hgo⟩ := hmem.mp h
      cases hid.symm.trans hfound
      exact hgoes hgo

end Ledger
end Rakka.Workflow
