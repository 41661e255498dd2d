import Rakka.Sharding.CoordinatorLease

/-! Fencing of the in-memory lease over whole runs of acquire, renew and release calls by
any number of holders. -/

namespace Rakka.Sharding
open Cluster Foundation

namespace InMemoryShardCoordinatorLease
variable {lease : InMemoryShardCoordinatorLease} {entityType : EntityType} {holder : NodeId}
  {nowMillis : ℕ}

lemma live_insert (lease : InMemoryShardCoordinatorLease) (entityType : EntityType)
    (record : LeaseRecord) (a : EntityType) : live { lease with
      records := lease.records.insert ⟨lease.leaseNamespace, entityType⟩ record } a =
      if a = entityType then some (record.holderNode, record.fencingToken) else lease.live a := by
  unfold live
  rw [BTreeMap.lookup_insert]
  simp only [LeaseKey.mk.injEq, true_and]
  split_ifs <;> rfl

theorem acquire_ok {token : LeaseToken}
    (h : (lease.acquire entityType holder nowMillis).1 = .ok token) :
    token.entityType = entityType ∧ token.holderNode = holder ∧
    (∀ a, (lease.acquire entityType holder nowMillis).2.live a =
      if a = entityType then some (holder, token.fencingToken) else lease.live a) ∧
    ((lease.live entityType = none ∧ token.fencingToken = 1) ∨
      lease.live entityType = some (holder, token.fencingToken) ∨
      ∃ other n, lease.live entityType = some (other, n) ∧ other ≠ holder ∧
        token.fencingToken = saturatingAdd n 1) := by
  unfold acquire at h ⊢
  split at h
  · cases h
  · simp only at h ⊢
    split at h
    · rename_i record hrecord
      have hlive : lease.live entityType = some (record.holderNode, record.fencingToken) := by
        rw [live, hrecord, Option.map_some]
      by_cases htake : record.holderNode = holder ∨ record.expiresAtMillis ≤ nowMillis
      · rw [if_pos htake] at h ⊢
        cases h
        refine ⟨rfl, rfl, fun a => live_insert lease entityType _ a, .inr ?_⟩
        by_cases hsame : record.holderNode = holder
        · left
          simp only [hlive, hsame, tokenFromRecord, ne_eq, not_true_eq_false, if_false]
        · right
          refine ⟨record.holderNode, record.fencingToken, hlive, hsame, ?_⟩
          simp only [tokenFromRecord, ne_eq, hsame, not_false_eq_true, if_true]
      · rw [if_neg htake] at h
        cases h
    · rename_i hrecord
      cases h
      refine ⟨rfl, rfl, fun a => live_insert lease entityType _ a, .inl ⟨?_, rfl⟩⟩
      rw [live, hrecord, Option.map_none]

lemma acquire_error {e : ShardingError}
    (h : (lease.acquire entityType holder nowMillis).1 = .error e) :
    (lease.acquire entityType holder nowMillis).2 = lease := by
  unfold acquire at h ⊢
  split at h
  · rfl
  · simp only at h ⊢
    split at h
    · split_ifs at h with htake
      rw [if_neg htake]
    · cases h

lemma renew_live (lease : InMemoryShardCoordinatorLease) (token : LeaseToken) (nowMillis : ℕ)
    (a : EntityType) : (lease.renew token nowMillis).2.live a = lease.live a := by
  unfold renew
  split
  · rfl
  · simp only
    split
    · rfl
    · rename_i record hrecord
      split_ifs
      · rfl
      · unfold live
        simp only
        rw [BTreeMap.lookup_insert]
        split_ifs with hkey
        · rw [hkey, hrecord]
          rfl
        · rfl

lemma release_live (lease : InMemoryShardCoordinatorLease) (token : LeaseToken) (a : EntityType) :
    (lease.release token).2.live a = lease.live a ∨ (lease.release token).2.live a = none := by
  unfold release
  simp only
  split
  · split_ifs
    · unfold live
      simp only
      rw [BTreeMap.lookup_erase]
      split_ifs with hkey
      · exact .inr rfl
      · exact .inl rfl
    · exact .inl rfl
  · exact .inl rfl

end InMemoryShardCoordinatorLease

namespace LeaseRun
open InMemoryShardCoordinatorLease
variable {s t : LeaseRun} {entityType : EntityType}
variable {op : LeaseOp} {ops : List LeaseOp}

def nextFencingToken (n : ℕ) : ℕ := saturatingAdd n 1

lemma one_le_nextFencingToken (n : ℕ) : 1 ≤ nextFencingToken n := by
  unfold nextFencingToken saturatingAdd u64Max
  omega

lemma lt_nextFencingToken {n : ℕ} : n < nextFencingToken n ↔ n < u64Max := by
  unfold nextFencingToken saturatingAdd
  omega

lemma advance_of_eq (hlive : t.lease.live entityType = s.lease.live entityType)
    (hgranted : t.grantedFor entityType = s.grantedFor entityType) :
    Ledger.Advance nextFencingToken (s.ledger entityType) (t.ledger entityType) := by
  rw [ledger, ledger, hlive, hgranted]
  exact .keep

lemma grantedFor_append (s : LeaseRun) (lease : InMemoryShardCoordinatorLease) (clock : ℕ)
    (token : LeaseToken) (entityType : EntityType) :
    grantedFor ⟨lease, clock, s.granted ++ [token]⟩ entityType = s.grantedFor entityType ++
      if token.entityType = entityType then [(token.holderNode, token.fencingToken)] else [] := by
  rw [grantedFor, List.filter_append, List.map_append]
  split_ifs with h <;> simp [grantedFor, h]

lemma step_advance (h : s.step op = some t) (entityType : EntityType) :
    Ledger.Advance nextFencingToken (s.ledger entityType) (t.ledger entityType) := by
  cases op with
  | acquire a holder nowMillis =>
    simp only [step] at h
    split_ifs at h
    cases h
    cases hanswer : (s.lease.acquire a holder nowMillis).1 with
    | error => exact advance_of_eq (by rw [acquire_error hanswer]) rfl
    | ok token =>
      obtain ⟨htype, hholder, hlive, hcases⟩ := acquire_ok hanswer
      have hgranted := s.grantedFor_append (s.lease.acquire a holder nowMillis).2 nowMillis token
        entityType
      by_cases ha : entityType = a
      · subst ha
        rw [if_pos htype, hholder] at hgranted
        simp only [ledger, hlive, if_true, hgranted]
        rcases hcases with ⟨hnone, hone⟩ | hsame | ⟨other, n, hother, hne, hbump⟩
        · rw [hone]
          exact .fresh holder hnone
        · rw [hsame]
          exact .again holder _ rfl
        · rw [hbump]
          exact .takeOver other holder n hother hne
      · rw [if_neg (fun he => ha (he.symm.trans htype)), List.append_nil] at hgranted
        exact advance_of_eq ((hlive entityType).trans (if_neg ha)) hgranted
  | renew token nowMillis =>
    simp only [step] at h
    split_ifs at h
    cases h
    exact advance_of_eq (renew_live s.lease token nowMillis entityType) rfl
  | release token =>
    cases h
    rcases release_live s.lease token entityType with hlive | hlive
    · exact advance_of_eq hlive rfl
    · simp only [ledger, hlive]
      exact .drop

/-- An acquire does not restart the counter after another holder had the lease, and does not take
over at the greatest counter. -/
def GrantFenced (entityType : EntityType) (s : LeaseRun) : LeaseOp → Prop
  | .acquire a holder nowMillis => a = entityType →
      ∀ token, (s.lease.acquire a holder nowMillis).1 = .ok token →
        (s.lease.live entityType = none → ∀ g ∈ s.grantedFor entityType, g.1 = holder) ∧
        ∀ other n, s.lease.live entityType = some (other, n) → other ≠ holder → n < u64Max
  | .renew _ _ => True
  | .release _ => True

lemma fairFor_iff {holder : NodeId} : Ledger.FairFor nextFencingToken (s.ledger entityType) holder ↔
      (s.lease.live entityType = none → ∀ g ∈ s.grantedFor entityType, g.1 = holder) ∧
      ∀ other n, s.lease.live entityType = some (other, n) → other ≠ holder → n < u64Max := by
  simp only [Ledger.FairFor, ledger, lt_nextFencingToken]

lemma grantFenced_iff (h : s.step op = some t) (entityType : EntityType) :
    GrantFenced entityType s op ↔ ∀ k n,
      (t.ledger entityType).grants = (s.ledger entityType).grants ++ [(k, n)] →
        Ledger.FairFor nextFencingToken (s.ledger entityType) k := by
  have hvacuous (hg : t.grantedFor entityType = s.grantedFor entityType) (k : NodeId) (n : ℕ) :
      (t.ledger entityType).grants ≠ (s.ledger entityType).grants ++ [(k, n)] := by
    simp [ledger, hg]
  cases op with
  | acquire a holder nowMillis =>
    simp only [step] at h
    split_ifs at h
    cases h
    cases hanswer : (s.lease.acquire a holder nowMillis).1 with
    | error =>
      rw [hanswer] at hvacuous
      simp only [GrantFenced, hanswer, reduceCtorEq, false_implies, implies_true, true_iff]
      exact fun k n hg => absurd hg (hvacuous rfl k n)
    | ok token =>
      obtain ⟨htype, hholder, -, -⟩ := acquire_ok hanswer
      have hgranted := s.grantedFor_append (s.lease.acquire a holder nowMillis).2 nowMillis token
        entityType
      rw [hanswer] at hvacuous
      by_cases ha : a = entityType
      · subst ha
        rw [if_pos htype, hholder] at hgranted
        constructor
        · intro hc k n hg
          have hk : holder = k ∧ token.fencingToken = n := by
            simpa [ledger] using hgranted.symm.trans hg
          exact fairFor_iff.mpr (hk.1 ▸ hc rfl token hanswer)
        · exact fun hc _ _ _ => fairFor_iff.mp (hc holder token.fencingToken hgranted)
      · rw [if_neg (fun he => ha (htype.symm.trans he)), List.append_nil] at hgranted
        simp only [GrantFenced, ha, false_implies, true_iff]
        exact fun k n hg => absurd hg (hvacuous hgranted k n)
  | renew =>
    simp only [step] at h
    split_ifs at h
    cases h
    exact iff_of_true trivial (fun k n hg => absurd hg (hvacuous rfl k n))
  | release =>
    cases h
    exact iff_of_true trivial (fun k n hg => absurd hg (hvacuous rfl k n))

lemma runFrom_increasing_of (hrun : runFrom step s ops = some t)
    (hi : (t.ledger entityType).Increasing) : (s.ledger entityType).Increasing := by
  induction ops generalizing s with
  | nil =>
    rw [Option.some.inj hrun]
    exact hi
  | cons op ops ih =>
    obtain ⟨u, hu, hrest⟩ := Option.bind_eq_some_iff.mp hrun
    exact (step_advance hu entityType).increasing_of (ih hrest)

lemma runFrom_stepsMeet (hb : (s.ledger entityType).Basic) (hrun : runFrom step s ops = some t)
    (hi : (t.ledger entityType).Increasing) : StepsMeet step (GrantFenced entityType) s ops := by
  induction ops generalizing s with
  | nil => trivial
  | cons op ops ih =>
    obtain ⟨u, hu, hrest⟩ := Option.bind_eq_some_iff.mp hrun
    have hadvance := step_advance hu entityType
    refine ⟨(grantFenced_iff hu entityType).mpr fun k n hg => ?_, fun v hv => ?_⟩
    · exact Ledger.fairFor_of_increasing hb hadvance (runFrom_increasing_of hrest hi) hg
    · rw [Option.some.inj (hv.symm.trans hu)]
      exact ih (hb.advance one_le_nextFencingToken hadvance) hrest

structure Fenced (entityType : EntityType) (s : LeaseRun) : Prop where
  basic : (s.ledger entityType).Basic
  increasing : (s.ledger entityType).Increasing
  liveGreatest : (s.ledger entityType).LiveGreatest

lemma start_fenced (leaseNamespace : String) (leaseDuration : Duration)
    (entityType : EntityType) : Fenced entityType (start leaseNamespace leaseDuration) := by
  have hempty : (start leaseNamespace leaseDuration).ledger entityType = ⟨none, []⟩ := by
    simp [ledger, start, live, grantedFor]
  constructor
  · rw [hempty]
    exact Ledger.basic_empty
  · rw [hempty]
    exact List.Pairwise.nil
  · rw [hempty]
    exact fun p hp => nomatch hp

lemma step_fenced (s : LeaseRun) (op : LeaseOp) (t : LeaseRun) (hs : Fenced entityType s)
    (hop : GrantFenced entityType s op) (h : s.step op = some t) : Fenced entityType t := by
  have hadvance := step_advance h entityType
  obtain ⟨hincreasing, hgreatest⟩ := Ledger.advance_fair hs.basic hs.increasing hs.liveGreatest
    hadvance ((grantFenced_iff h entityType).mp hop)
  exact ⟨hs.basic.advance one_le_nextFencingToken hadvance, hincreasing, hgreatest⟩

/-- Over any run of calls on one lease, tokens granted later to another holder carry a
greater counter, and no superseded token is live again, exactly when every acquire of
the run is fenced. -/
theorem increasing_and_supersededDead_iff (leaseNamespace : String) (leaseDuration : Duration)
    (entityType : EntityType) (ops : List LeaseOp) (s : LeaseRun)
    (hrun : runFrom step (start leaseNamespace leaseDuration) ops = some s) :
    ((s.ledger entityType).Increasing ∧ (s.ledger entityType).SupersededDead) ↔
      StepsMeet step (GrantFenced entityType) (start leaseNamespace leaseDuration) ops := by
  have hstart := start_fenced leaseNamespace leaseDuration entityType
  constructor
  · exact fun h => runFrom_stepsMeet hstart.basic hrun h.1
  · intro hmeets
    have hfenced : Fenced entityType s :=
      runFrom_invariant_of_meets step step_fenced hstart hmeets hrun
    exact ⟨hfenced.increasing, hfenced.liveGreatest.supersededDead hfenced.increasing⟩

def cart : EntityType := ⟨"cart"⟩

def nodeA : NodeId := ⟨"a", "1"⟩

def nodeB : NodeId := ⟨"b", "1"⟩

def takeOverOps : List LeaseOp :=
  [.acquire cart nodeA 0, .renew ⟨"default", cart, nodeA, 1, 15000⟩ 5000, .acquire cart nodeB 20000]

theorem increasing_and_supersededDead_takeOver :
    ∃ s, runFrom step (start "default" (.fromMillis 15000)) takeOverOps = some s ∧
      (((s.ledger cart).Increasing ∧ (s.ledger cart).SupersededDead) ↔
        StepsMeet step (GrantFenced cart) (start "default" (.fromMillis 15000)) takeOverOps) :=
  ⟨_, rfl, increasing_and_supersededDead_iff "default" (.fromMillis 15000) cart takeOverOps _ rfl⟩

def releaseOps : List LeaseOp :=
  [.acquire cart nodeA 0, .release ⟨"default", cart, nodeA, 1, 15000⟩, .acquire cart nodeB 1,
    .release ⟨"default", cart, nodeB, 1, 15001⟩, .acquire cart nodeA 2]

/-- After a release the next holder gets the same counter, and the superseded token of the
first holder is live again. -/
theorem release_restarts_counter :
    ∃ s, runFrom step (start "default" (.fromMillis 15000)) releaseOps = some s ∧
      s.grantedFor cart = [(nodeA, 1), (nodeB, 1), (nodeA, 1)] ∧
      s.lease.live cart = some (nodeA, 1) ∧
      ¬ (s.ledger cart).Increasing ∧ ¬ (s.ledger cart).SupersededDead := by
  refine ⟨_, rfl, ?_⟩
  decide +kernel

/-! ### A granted lease excludes other holders -/

section Exclusion
variable {token : LeaseToken} {holder : NodeId} {nowMillis : ℕ}

def Releases (token : LeaseToken) : LeaseOp → Prop
  | .release other => { other with expiresAtMillis := token.expiresAtMillis } = token
  | .acquire .. | .renew .. => False

/-- The record is that of the token, and no renewal from now on ends before the token does. -/
structure Holds (token : LeaseToken) (s : LeaseRun) : Prop where
  home : s.lease.leaseNamespace = token.leaseNamespace
  renewable : token.expiresAtMillis ≤ saturatingAdd s.clock s.lease.leaseDuration.asMillis
  record : ∃ record, s.lease.records[(⟨token.leaseNamespace, token.entityType⟩ : LeaseKey)]? =
    some record ∧ record.holderNode = token.holderNode ∧ record.fencingToken = token.fencingToken ∧
    token.expiresAtMillis ≤ record.expiresAtMillis

lemma holds_insert (lease : InMemoryShardCoordinatorLease) (entityType : EntityType)
    (record : LeaseRecord) (granted : List LeaseToken)
    (hexpiry : record.expiresAtMillis = saturatingAdd nowMillis lease.leaseDuration.asMillis) :
    Holds (lease.tokenFromRecord entityType record) ⟨{ lease with
      records := lease.records.insert ⟨lease.leaseNamespace, entityType⟩ record }, nowMillis,
      granted⟩ where
  home := rfl
  renewable := hexpiry.le
  record := ⟨record, (BTreeMap.lookup_insert ..).trans (if_pos rfl), rfl, rfl, le_rfl⟩

lemma holds_of_acquire (hgrant : (s.lease.acquire entityType holder nowMillis).1 = .ok token)
    (h : s.step (.acquire entityType holder nowMillis) = some t) :
    Holds token t ∧ token.entityType = entityType ∧ token.holderNode = holder := by
  simp only [LeaseRun.step] at h
  split_ifs at h
  cases h
  unfold acquire nextExpiry at hgrant ⊢
  split_ifs at hgrant ⊢
  simp only at hgrant ⊢
  split at hgrant
  · split_ifs at hgrant ⊢ <;> cases hgrant <;> exact ⟨holds_insert _ _ _ _ rfl, rfl, rfl⟩
  · cases hgrant
    exact ⟨holds_insert _ _ _ _ rfl, rfl, rfl⟩

lemma Holds.step (hs : s.clock < token.expiresAtMillis → Holds token s) (hop : ¬ Releases token op)
    (h : s.step op = some t) (htime : t.clock < token.expiresAtMillis) : Holds token t := by
  cases op with
  | acquire =>
    simp only [LeaseRun.step] at h
    split_ifs at h with hclock
    cases h
    -- another holder finds the record unexpired; the holder itself keeps the counter
    obtain ⟨hhome, hrenewable, record, hrecord, hholder, hcounter, hexpiry⟩ :=
      hs (hclock.trans_lt htime)
    grind [acquire, nextExpiry, BTreeMap.lookup_insert, Holds, saturatingAdd]
  | renew =>
    simp only [LeaseRun.step] at h
    split_ifs at h with hclock
    cases h
    obtain ⟨hhome, hrenewable, record, hrecord, hholder, hcounter, hexpiry⟩ :=
      hs (hclock.trans_lt htime)
    grind [renew, nextExpiry, BTreeMap.lookup_insert, Holds, saturatingAdd]
  | release other =>
    cases h
    obtain ⟨hhome, hrenewable, record, hrecord, hholder, hcounter, hexpiry⟩ := hs htime
    cases other
    cases token
    grind [release, BTreeMap.lookup_erase, Holds, Releases]

/-- From its grant until it expires, and whatever anybody calls except its release, a token stays
the live one and an acquire of any other holder is refused. -/
theorem granted_lease_excludes_others (s t : LeaseRun) (entityType : EntityType) (holder : NodeId)
    (nowMillis : ℕ) (token : LeaseToken) (ops : List LeaseOp)
    (hgrant : (s.lease.acquire entityType holder nowMillis).1 = .ok token)
    (hrun : runFrom step s (.acquire entityType holder nowMillis :: ops) = some t)
    (hkept : ∀ op ∈ ops, ¬ Releases token op) (htime : t.clock < token.expiresAtMillis) :
    t.lease.live entityType = some (holder, token.fencingToken) ∧
      ∀ other instant, other ≠ holder → instant < token.expiresAtMillis →
        ∃ error, t.lease.acquire entityType other instant = (.error error, t.lease) := by
  obtain ⟨u, hu, hrest⟩ := Option.bind_eq_some_iff.mp hrun
  obtain ⟨hholds, rfl, rfl⟩ := holds_of_acquire hgrant hu
  obtain ⟨hhome, -, record, hrecord, hholder, hcounter, hexpiry⟩ :=
    runFrom_invariant_of_meets step (fun _ _ _ => Holds.step) (fun _ => hholds)
      (stepsMeet_of_forall step u fun _ => hkept) hrest htime
  rw [← hhome] at hrecord
  refine ⟨?_, fun other instant hother hbefore => ?_⟩
  · rw [live, hrecord, Option.map_some, hholder, hcounter]
  · have hkeeps : ¬ (record.holderNode = other ∨ record.expiresAtMillis ≤ instant) := by
      rintro (rfl | hexpired)
      · exact hother hholder
      · omega
    unfold acquire
    split
    · exact ⟨_, rfl⟩
    · simp only [hrecord, if_neg hkeeps]
      exact ⟨_, rfl⟩

theorem renewed_lease_excludes_others : ∃ t,
    runFrom step (start "default" (.fromMillis 15000)) [.acquire cart nodeA 0, .acquire cart nodeB 9,
      .renew ⟨"default", cart, nodeA, 1, 15000⟩ 5000, .release ⟨"default", cart, nodeB, 1, 9⟩] =
      some t ∧ t.lease.live cart = some (nodeA, 1) ∧
        ∃ error, t.lease.acquire cart nodeB 14999 = (.error error, t.lease) := by
  have hexcludes := granted_lease_excludes_others (start "default" (.fromMillis 15000)) _ cart nodeA 0
    ⟨"default", cart, nodeA, 1, 15000⟩ [.acquire cart nodeB 9,
      .renew ⟨"default", cart, nodeA, 1, 15000⟩ 5000, .release ⟨"default", cart, nodeB, 1, 9⟩] rfl rfl
    (by simp [Releases, nodeA, nodeB]) (by decide +kernel)
  exact ⟨_, rfl, hexcludes.1, hexcludes.2 nodeB 14999 (by decide) (by decide)⟩

end Exclusion

end LeaseRun
end Rakka.Sharding
