import Rakka.Foundation.Fallible
import Rakka.Foundation.OrderedMap
import Rakka.Foundation.Runs

/-! Bounded traversal of the communal knowledge graph: what the in-memory store reports of the
claims reached from a node, in which order, and when it says that it was cut short. -/

namespace Rakka.KnowledgeGraph
open Foundation List

inductive ClaimTrustStatus where
  | proposed
  | verified
  | disputed
  | retracted
  deriving DecidableEq, Repr

inductive ClaimObject where
  | node (id : String)
  | value
  deriving DecidableEq, Repr

def ClaimObject.node? : ClaimObject → Option String
  | .node id => some id
  | .value => none

structure Claim where
  claimId : String
  subject : String
  predicate : String
  object : ClaimObject
  trust : ClaimTrustStatus
  deriving DecidableEq, Repr

def Claim.Before (c d : Claim) : Prop := c.claimId < d.claimId

inductive ClaimTraversalDirection where
  | outbound
  | inbound
  | both
  deriving DecidableEq, Repr

def claimTraversalMaxDepth : ℕ := 4
def claimTraversalMaxNodes : ℕ := 256
def claimTraversalMaxEdges : ℕ := 1024

/-- A traversal as its builders leave it: every dimension is clamped. -/
structure ClaimTraversal where
  start : String
  direction : ClaimTraversalDirection
  predicates : Option (List String)
  trust : List ClaimTrustStatus
  depth : ℕ
  nodeBudget : ℕ
  edgeBudget : ℕ
  depth_clamped : 1 ≤ depth ∧ depth ≤ claimTraversalMaxDepth
  nodes_clamped : 1 ≤ nodeBudget ∧ nodeBudget ≤ claimTraversalMaxNodes
  edges_clamped : 1 ≤ edgeBudget ∧ edgeBudget ≤ claimTraversalMaxEdges

structure ClaimTraversalReport where
  nodes : List String
  edges : List Claim
  truncated : Bool
  deriving DecidableEq, Repr

/-- The report so far: its nodes are the visited ones, and the edges of its claims the spent ones.
-/
structure Walk where
  nodes : List String
  edges : List Claim
  nextLevel : List String
  frontier : List String

namespace Walk

def spentEdges (w : Walk) : List String := w.edges.map Claim.claimId

def report (w : Walk) (truncated : Bool) : ClaimTraversalReport := ⟨w.nodes, w.edges, truncated⟩

def discover (w : Walk) (node : String) : List String :=
  if node ∈ w.nodes ∨ node ∈ w.nextLevel then w.nextLevel
  else w.nextLevel.orderedInsert (· ≤ ·) node

end Walk

namespace ClaimTraversal
variable (t : ClaimTraversal) (claims : List Claim)

def follows (claim : Claim) : Bool :=
  claim.object.node?.isSome && decide (claim.trust ∈ t.trust) &&
    t.predicates.all (fun predicates => decide (claim.predicate ∈ predicates))

def neighbor (claim : Claim) (node : String) : Option String :=
  claim.object.node?.bind (fun object =>
    match t.direction with
    | .outbound => if claim.subject = node then some object else none
    | .inbound => if object = node then some claim.subject else none
    | .both =>
      if claim.subject = node then some object
      else if object = node then some claim.subject
      else none)

def followEdge (w : Walk) (visit : String × Claim) : Except ClaimTraversalReport Walk :=
  if t.follows visit.2 = false ∨ visit.2.claimId ∈ w.spentEdges then .ok w
  else
    match t.neighbor visit.2 visit.1 with
    | none => .ok w
    | some reached =>
      if w.edges.length = t.edgeBudget then .error (w.report true)
      else .ok { w with edges := w.edges ++ [visit.2], nextLevel := w.discover reached }

def admitNode (w : Walk) (reached : String) : Except ClaimTraversalReport Walk :=
  if w.nodes.length = t.nodeBudget then .error (w.report true)
  else .ok { w with nodes := w.nodes ++ [reached], frontier := w.frontier ++ [reached] }

def walkLevels : ℕ → Walk → Except ClaimTraversalReport Walk
  | 0, w => .ok w
  | depth + 1, w =>
    if w.frontier = [] then .ok w
    else do
      -- the nested loops, over the frontier and over the claims, as one over the pairs
      let w ← (w.frontier ×ˢ claims).foldlM t.followEdge { w with nextLevel := [] }
      let w ← w.nextLevel.foldlM t.admitNode { w with frontier := [] }
      walkLevels depth w

/-- Whether an edge that is not yet spent leaves the node. -/
def untried (spent : List String) (node : String) : Bool :=
  claims.any (fun claim => t.follows claim && !decide (claim.claimId ∈ spent) &&
    (t.neighbor claim node).isSome)

def walk : ClaimTraversalReport :=
  if t.untried claims [] t.start then
    match t.walkLevels claims t.depth ⟨[t.start], [], [], [t.start]⟩ with
    | .error report => report
    | .ok w => w.report (w.frontier.any (t.untried claims w.spentEdges))
  else ⟨[], [], false⟩

end ClaimTraversal

/-- A traversal of the claims of a scope, which come in the order of their ids. -/
structure Search where
  t : ClaimTraversal
  claims : List Claim
  ordered : claims.Pairwise Claim.Before

structure KnowledgeSpaceScope where
  tenant : String
  space : String

def KnowledgeSpaceScope.key (scope : KnowledgeSpaceScope) : String :=
  scope.tenant ++ "/" ++ scope.space

/-- The claims of every scope, each kept under its own id. -/
structure InMemoryKnowledgeGraphStore where
  claims : BTreeMap String (BTreeMap String Claim)
  keyed : ∀ (key : String) (held : BTreeMap String Claim), claims[key]? = some held →
    ∀ (id : String) (claim : Claim), held[id]? = some claim → claim.claimId = id

namespace InMemoryKnowledgeGraphStore

def empty : InMemoryKnowledgeGraphStore where
  claims := ∅
  keyed key held h := by simp at h

/-- How an appended claim, and one whose trust has changed, is written. -/
def insertClaim (store : InMemoryKnowledgeGraphStore) (scope : KnowledgeSpaceScope)
    (claim : Claim) : InMemoryKnowledgeGraphStore where
  claims := store.claims.insert scope.key
    ((store.claims[scope.key]?.getD ∅).insert claim.claimId claim)
  keyed := by
    refine BTreeMap.forall_insert store.keyed (BTreeMap.forall_insert ?_ rfl)
    cases h : store.claims[scope.key]? with
    | none => simp
    | some held => exact store.keyed _ held h

variable (store : InMemoryKnowledgeGraphStore) (scope : KnowledgeSpaceScope) (t : ClaimTraversal)

def traverse : ClaimTraversalReport :=
  match store.claims[scope.key]? with
  | none => ⟨[], [], false⟩
  | some claims => t.walk claims.valuesInOrder

def search : Search where
  t := t
  claims := (store.claims[scope.key]?.getD ∅).valuesInOrder
  ordered := by
    cases h : store.claims[scope.key]? with
    | none => exact Pairwise.nil
    | some claims =>
      refine pairwise_map.mpr (claims.toList_pairwise_lt.imp_of_mem ?_)
      intro p q hp hq hlt
      have hkey : ∀ p ∈ claims.toList, p.2.claimId = p.1 := fun p hp =>
        store.keyed _ _ h _ _ (Std.ExtTreeMap.mem_toList_iff_getElem?_eq_some.mp hp)
      rwa [Claim.Before, hkey p hp, hkey q hq]

lemma traverse_eq : store.traverse scope t = t.walk (store.search scope t).claims := by
  change _ = t.walk (store.claims[scope.key]?.getD ∅).valuesInOrder
  unfold traverse
  cases store.claims[scope.key]? with
  | none | some => rfl

end InMemoryKnowledgeGraphStore

/-- Listed by level, and within a level in the given order. -/
def Listed {α : Type} (level : ℕ → α → Prop) (lt : α → α → Prop) (a b : α) : Prop :=
  (∃ k, level k a ∧ ¬ level k b) ∨ (∀ k, level k a ↔ level k b) ∧ lt a b

lemma same_level {α : Type} {level : ℕ → α → Prop} {a b : α} {k : ℕ}
    (hmono : ∀ a j l, j ≤ l → level j a → level l a) (ha : level (k + 1) a) (hb : level (k + 1) b)
    (hna : ¬ level k a) (hnb : ¬ level k b) (j : ℕ) : level j a ↔ level j b := by
  rcases Nat.lt_or_ge k j with hj | hj
  · exact ⟨fun _ => hmono b _ _ hj hb, fun _ => hmono a _ _ hj ha⟩
  · exact ⟨fun hl => absurd (hmono a _ _ hj hl) hna, fun hl => absurd (hmono b _ _ hj hl) hnb⟩

namespace Search
open ClaimTraversal
variable (q : Search)

def Leads (c : Claim) (m n : String) : Prop :=
  c ∈ q.claims ∧ q.t.follows c = true ∧ q.t.neighbor c m = some n

def Near : ℕ → String → Prop
  | 0, _ => False
  | k + 1, n => n = q.t.start ∨ ∃ m, Near k m ∧ ∃ c, q.Leads c m n

/-- The edges that leave a node at a distance below `k` from the start. -/
def Leaves (k : ℕ) (c : Claim) : Prop := ∃ m n, q.Near k m ∧ q.Leads c m n

def Reachable (n : String) : Prop :=
  (∃ c m, q.Leads c q.t.start m) ∧
    Relation.ReflTransGen (fun m n => ∃ c, q.Leads c m n) q.t.start n

/-- The report holds every node that can be reached and every edge that leaves one. -/
def Complete (report : ClaimTraversalReport) : Prop :=
  (∀ n, n ∈ report.nodes ↔ q.Reachable n) ∧
    ∀ c, c ∈ report.edges ↔ ∃ m n, q.Reachable m ∧ q.Leads c m n

/-- At equal distance, the edges of a smaller node have the smaller ids. -/
def Aligned : Prop :=
  ∀ m n c d k l, (∀ j, q.Near j m ↔ q.Near j n) → m < n → q.Leads c m k →
    q.Leads d n l → c.claimId ≤ d.claimId

def InOrder (c d : Claim) : Prop :=
  c.claimId ≠ d.claimId ∧ (q.Aligned → Listed q.Leaves Claim.Before c d)

structure WellListed (nodes : List String) (edges : List Claim) : Prop where
  nodesFit : nodes.length ≤ q.t.nodeBudget
  edgesFit : edges.length ≤ q.t.edgeBudget
  nodesInOrder : nodes.Pairwise (Listed q.Near (· < ·))
  edgesInOrder : edges.Pairwise q.InOrder

variable {q}

lemma Near.succ {k : ℕ} {n : String} (h : q.Near k n) : q.Near (k + 1) n := by
  induction k generalizing n with
  | zero => exact h.elim
  | succ k ih =>
    rcases h with rfl | ⟨m, hm, hc⟩
    · exact .inl rfl
    · exact .inr ⟨m, ih hm, hc⟩

lemma Near.mono (n : String) (j k : ℕ) (hjk : j ≤ k) (h : q.Near j n) : q.Near k n := by
  induction hjk with
  | refl => exact h
  | step _ ih => exact ih.succ

lemma Leaves.mono (c : Claim) (j k : ℕ) (hjk : j ≤ k) (h : q.Leaves j c) : q.Leaves k c := by
  obtain ⟨m, n, hm, hc⟩ := h
  exact ⟨m, n, hm.mono m j k hjk, hc⟩

lemma Near.reachable (hstart : ∃ c m, q.Leads c q.t.start m) {k : ℕ} {n : String}
    (h : q.Near k n) : q.Reachable n := by
  induction k generalizing n with
  | zero => exact h.elim
  | succ k ih =>
    rcases h with rfl | ⟨m, hm, hc⟩
    · exact ⟨hstart, .refl⟩
    · exact ⟨hstart, (ih hm).2.tail hc⟩

theorem Leads.ends {c : Claim} {m n m' n' : String} (h : q.Leads c m n)
    (h' : q.Leads c m' n') : n' = m ∨ n' = n := by
  have hn := h.2.2
  have hn' := h'.2.2
  simp only [neighbor, Option.bind_eq_some_iff] at hn hn'
  obtain ⟨o, ho, hn⟩ := hn
  obtain ⟨o', ho', hn'⟩ := hn'
  obtain rfl : o = o' := Option.some.inj (ho.symm.trans ho')
  cases hd : q.t.direction <;> simp only [hd] at hn hn' <;> grind

def Cut (q : Search) (report : ClaimTraversalReport) : Prop :=
  report.truncated = true ∧ q.WellListed report.nodes report.edges ∧ ¬ q.Complete report

/-- The walk among the nodes at distance `k`, with `rest` the visits it has still to make. -/
structure Progress (q : Search) (k : ℕ) (rest : List (String × Claim)) (w : Walk) : Prop where
  near : ∀ n, n ∈ w.nodes ↔ q.Near (k + 1) n
  listed : q.WellListed w.nodes w.edges
  edges : ∀ c ∈ w.edges, ∃ m ∈ w.nodes, ∃ n, q.Leads c m n ∧ (n ∈ w.nodes ∨ n ∈ w.nextLevel)
  followed : ∀ m ∈ w.nodes, ∀ c n, q.Leads c m n → c ∈ w.edges ∨ (m, c) ∈ rest
  next : ∀ n ∈ w.nextLevel, n ∉ w.nodes ∧ ∃ m ∈ w.nodes, ∃ c, q.Leads c m n
  sorted : w.nextLevel.Pairwise (· < ·)
  ahead : ∀ c ∈ w.edges, q.Leaves k c ∨ ∃ m n, q.Leads c m n ∧ m ∈ w.nodes ∧
    ¬ q.Near k m ∧ ∀ x ∈ rest, m < x.1 ∨ m = x.1 ∧ c.Before x.2
  pending : ∀ x ∈ rest, x.2 ∈ q.claims ∧ x.1 ∈ w.nodes ∧ ¬ q.Near k x.1
  turns : rest.Pairwise (fun x y => x.1 < y.1 ∨ x.1 = y.1 ∧ x.2.Before y.2)

section
variable {k : ℕ} {x : String × Claim} {rest : List (String × Claim)} {w : Walk} {n : String}

lemma mem_discover {m : String} : m ∈ w.discover n ↔ m ∈ w.nextLevel ∨ m = n ∧ n ∉ w.nodes := by
  unfold Walk.discover
  split_ifs with h
  · grind
  · rw [mem_orderedInsert]
    grind

lemma sorted_discover (h : w.nextLevel.Pairwise (· < ·)) : (w.discover n).Pairwise (· < ·) := by
  unfold Walk.discover
  split_ifs with hn
  · exact h
  · have hle : (w.nextLevel.orderedInsert (· ≤ ·) n).Pairwise (· ≤ ·) :=
      (h.imp le_of_lt).orderedInsert n _
    have hnodup : (w.nextLevel.orderedInsert (· ≤ ·) n).Nodup :=
      (perm_orderedInsert _ _ _).nodup_iff.mpr
        (nodup_cons.mpr ⟨fun hmem => hn (.inr hmem), h.imp ne_of_lt⟩)
    exact (hle.and hnodup).imp (fun h => lt_of_le_of_ne h.1 h.2)

theorem Progress.skip (h : q.Progress k (x :: rest) w)
    (hx : ∀ n, q.Leads x.2 x.1 n → x.2 ∈ w.edges) : q.Progress k rest w where
  near := h.near
  listed := h.listed
  edges := h.edges
  followed m hm c n hc := by
    rcases h.followed m hm c n hc with he | he
    · exact .inl he
    · rcases mem_cons.mp he with rfl | he
      · exact .inl (hx n hc)
      · exact .inr he
  next := h.next
  sorted := h.sorted
  ahead c hc := (h.ahead c hc).imp_right (fun ⟨m, n, hl, hm, hk, hrest⟩ =>
    ⟨m, n, hl, hm, hk, (forall_mem_cons.mp hrest).2⟩)
  pending := (forall_mem_cons.mp h.pending).2
  turns := h.turns.of_cons

/-- An edge that is followed now leaves no node of an earlier level: those edges are spent. -/
theorem Progress.fresh (h : q.Progress k (x :: rest) w) {c : Claim} (hc : c ∉ w.edges) :
    ¬ q.Leaves k c := by
  rintro ⟨m, n, hm, hl⟩
  rcases h.followed m ((h.near m).mpr hm.succ) c n hl with he | he
  · exact hc he
  · exact (h.pending _ he).2.2 hm

lemma Progress.inOrder (h : q.Progress k (x :: rest) w)
    (hx : q.Leads x.2 x.1 n) (hspent : x.2.claimId ∉ w.spentEdges) {e : Claim}
    (he : e ∈ w.edges) : q.InOrder e x.2 := by
  have hne : e.claimId ≠ x.2.claimId := fun heq => hspent (heq ▸ mem_map_of_mem he)
  have hfresh := h.fresh (fun hmem => hspent (mem_map_of_mem hmem))
  obtain ⟨-, hnode, hfar⟩ := h.pending x mem_cons_self
  refine ⟨hne, fun haligned => ?_⟩
  by_cases hold : q.Leaves k e
  · exact .inl ⟨k, hold, hfresh⟩
  · obtain ⟨m, l, hl, hm, hk, hrest⟩ := (h.ahead e he).resolve_left hold
    refine .inr ⟨same_level Leaves.mono ⟨m, l, (h.near m).mp hm, hl⟩
      ⟨x.1, n, (h.near _).mp hnode, hx⟩ hold hfresh, ?_⟩
    rcases hrest x mem_cons_self with hlt | ⟨-, hlt⟩
    · have hsame := same_level Near.mono ((h.near m).mp hm) ((h.near _).mp hnode) hk hfar
      exact lt_of_le_of_ne (haligned m x.1 e x.2 l n hsame hlt hl hx) hne
    · exact hlt

lemma Progress.push (h : q.Progress k (x :: rest) w) (hx : q.Leads x.2 x.1 n)
    (hspent : x.2.claimId ∉ w.spentEdges) (hfit : w.edges.length ≠ q.t.edgeBudget) :
    q.Progress k rest { w with edges := w.edges ++ [x.2], nextLevel := w.discover n } where
  near := h.near
  listed := by
    refine ⟨h.listed.nodesFit, ?_, h.listed.nodesInOrder, ?_⟩
    · have hle := h.listed.edgesFit
      simp only [length_append, length_singleton]
      omega
    · exact pairwise_concat h.listed.edgesInOrder (fun e he => h.inOrder hx hspent he)
  edges := by
    simp only [mem_discover]
    refine forall_mem_concat (fun c hc => ?_)
      ⟨x.1, (h.pending x mem_cons_self).2.1, n, hx, by tauto⟩
    obtain ⟨m, hm, l, hl, hmem⟩ := h.edges c hc
    exact ⟨m, hm, l, hl, hmem.imp_right .inl⟩
  followed m hm c l hc := by
    rcases h.followed m hm c l hc with he | he
    · exact .inl (mem_append_left _ he)
    · rcases mem_cons.mp he with rfl | he
      · exact .inl mem_concat_self
      · exact .inr he
  next l hl := by
    rcases mem_discover.mp hl with hl | ⟨rfl, hnew⟩
    · exact h.next l hl
    · exact ⟨hnew, x.1, (h.pending x mem_cons_self).2.1, x.2, hx⟩
  sorted := sorted_discover h.sorted
  ahead := by
    obtain ⟨-, hnode, hfar⟩ := h.pending x mem_cons_self
    refine forall_mem_concat (fun c hc => (h.ahead c hc).imp_right ?_)
      (.inr ⟨x.1, n, hx, hnode, hfar, (pairwise_cons.mp h.turns).1⟩)
    exact fun ⟨m, n, hl, hm, hk, hrest⟩ => ⟨m, n, hl, hm, hk, (forall_mem_cons.mp hrest).2⟩
  pending := (forall_mem_cons.mp h.pending).2
  turns := h.turns.of_cons

variable (hstart : ∃ c m, q.Leads c q.t.start m)

lemma Progress.mem_edges (h : q.Progress k rest w) {c : Claim} (hc : c ∈ q.claims)
    (hspent : c.claimId ∈ w.spentEdges) : c ∈ w.edges := by
  obtain ⟨e, he, hid⟩ := mem_map.mp hspent
  obtain ⟨m, -, n, hl, -⟩ := h.edges e he
  have hnodup : (q.claims.map Claim.claimId).Nodup := pairwise_map.mpr (q.ordered.imp ne_of_lt)
  rwa [← inj_on_of_nodup_map hnodup hl.1 hc hid]

include hstart in
lemma Progress.not_complete (h : q.Progress k rest w) {c : Claim} {m : String}
    (hm : m ∈ w.nodes) (hl : q.Leads c m n) (hspent : c.claimId ∉ w.spentEdges)
    (truncated : Bool) : ¬ q.Complete (w.report truncated) := by
  intro hcomplete
  have hreach := ((h.near m).mp hm).reachable hstart
  exact hspent (mem_map_of_mem ((hcomplete.2 c).mpr ⟨m, n, hreach, hl⟩))

include hstart in
lemma followEdge_ends (h : q.Progress k (x :: rest) w) :
    Ends q.Cut (q.Progress k rest) (q.t.followEdge w x) := by
  obtain ⟨hclaim, hnode, -⟩ := h.pending x mem_cons_self
  unfold followEdge
  by_cases hskip : q.t.follows x.2 = false ∨ x.2.claimId ∈ w.spentEdges
  · rw [if_pos hskip]
    refine h.skip (fun n hl => ?_)
    rcases hskip with hno | hspent
    · exact absurd hl.2.1 (by simp [hno])
    · exact h.mem_edges hclaim hspent
  · rw [if_neg hskip]
    obtain ⟨hfollows, hspent⟩ := not_or.mp hskip
    cases hn : q.t.neighbor x.2 x.1 with
    | none => exact h.skip (fun n hl => absurd hl.2.2 (by simp [hn]))
    | some n =>
      have hl : q.Leads x.2 x.1 n := ⟨hclaim, Bool.not_eq_false _ ▸ hfollows, hn⟩
      dsimp only
      split_ifs with hfull
      · exact ⟨rfl, h.listed, h.not_complete hstart hnode hl hspent true⟩
      · exact h.push hl hspent hfull

theorem Progress.near_next (h : q.Progress k [] w) (n : String) :
    n ∈ w.nodes ++ w.nextLevel ↔ q.Near (k + 2) n := by
  rw [mem_append]
  refine ⟨?_, ?_⟩
  · rintro (hn | hn)
    · exact ((h.near n).mp hn).succ
    · obtain ⟨-, m, hm, hc⟩ := h.next n hn
      exact .inr ⟨m, (h.near m).mp hm, hc⟩
  · rintro (rfl | ⟨m, hm, c, hc⟩)
    · exact .inl ((h.near _).mpr (.inl rfl))
    · have hspent := (h.followed m ((h.near m).mpr hm) c n hc).resolve_right not_mem_nil
      obtain ⟨m', hm', n', hl, hn'⟩ := h.edges c hspent
      rcases hl.ends hc with rfl | rfl
      · exact .inl hm'
      · exact hn'

lemma Progress.nodes_inOrder (h : q.Progress k [] w) :
    (w.nodes ++ w.nextLevel).Pairwise (Listed q.Near (· < ·)) := by
  have hfar : ∀ n ∈ w.nextLevel, ¬ q.Near (k + 1) n := fun n hn hnear =>
    (h.next n hn).1 ((h.near n).mpr hnear)
  have hnear : ∀ n ∈ w.nextLevel, q.Near (k + 2) n := fun n hn =>
    (h.near_next n).mp (mem_append_right _ hn)
  refine pairwise_append.mpr ⟨h.listed.nodesInOrder, h.sorted.imp_of_mem ?_, ?_⟩
  · intro m n hm hn hlt
    exact .inr ⟨same_level Near.mono (hnear m hm) (hnear n hn) (hfar m hm) (hfar n hn), hlt⟩
  · intro m hm n hn
    exact .inl ⟨k + 1, (h.near m).mp hm, hfar n hn⟩

lemma turns_product {level : List String} (h : level.Pairwise (· < ·)) :
    (level ×ˢ q.claims).Pairwise (fun x y => x.1 < y.1 ∨ x.1 = y.1 ∧ x.2.Before y.2) := by
  refine pairwise_flatMap.mpr ⟨fun node _ => ?_, h.imp ?_⟩
  · exact pairwise_map.mpr (q.ordered.imp (fun hlt => .inr ⟨rfl, hlt⟩))
  · intro m n hlt x hx y hy
    obtain ⟨c, -, rfl⟩ := mem_map.mp hx
    obtain ⟨d, -, rfl⟩ := mem_map.mp hy
    exact .inl hlt

lemma Progress.advance (h : q.Progress k [] w)
    (hfit : (w.nodes ++ w.nextLevel).length ≤ q.t.nodeBudget) (frontier : List String) :
    q.Progress (k + 1) (w.nextLevel ×ˢ q.claims)
      ⟨w.nodes ++ w.nextLevel, w.edges, [], frontier⟩ where
  near := h.near_next
  listed := ⟨hfit, h.listed.edgesFit, h.nodes_inOrder, h.listed.edgesInOrder⟩
  edges c hc := by
    obtain ⟨m, hm, n, hl, hn⟩ := h.edges c hc
    exact ⟨m, mem_append_left _ hm, n, hl, .inl (mem_append.mpr hn)⟩
  followed m hm c n hc := by
    rcases mem_append.mp hm with hm | hm
    · exact .inl ((h.followed m hm c n hc).resolve_right not_mem_nil)
    · exact .inr (pair_mem_product.mpr ⟨hm, hc.1⟩)
  next n hn := absurd hn not_mem_nil
  sorted := Pairwise.nil
  ahead c hc := by
    obtain ⟨m, hm, n, hl, -⟩ := h.edges c hc
    exact .inl ⟨m, n, (h.near m).mp hm, hl⟩
  pending x hx := by
    obtain ⟨hlevel, hclaim⟩ := mem_product.mp hx
    exact ⟨hclaim, mem_append_right _ hlevel, fun hnear =>
      (h.next _ hlevel).1 ((h.near _).mpr hnear)⟩
  turns := turns_product h.sorted

/-- Between two levels, the visits still to make are those of the frontier. -/
def AtLevel (q : Search) (k : ℕ) (w : Walk) : Prop :=
  q.Progress k (w.frontier ×ˢ q.claims) { w with nextLevel := [] }

include hstart in
lemma admitNode_ends (h : q.Progress k [] w) : Ends q.Cut (q.AtLevel (k + 1))
      (w.nextLevel.foldlM q.t.admitNode { w with frontier := [] }) := by
  let Inv : List String → Walk → Prop := fun rest v =>
    v.nodes ++ rest = w.nodes ++ w.nextLevel ∧ v.frontier ++ rest = w.nextLevel ∧
      v.edges = w.edges ∧ v.nodes.length ≤ q.t.nodeBudget
  have hloop : Ends q.Cut (Inv [])
      (w.nextLevel.foldlM q.t.admitNode { w with frontier := [] }) := by
    refine foldlM_ends ?_ ⟨rfl, rfl, rfl, h.listed.nodesFit⟩
    rintro n rest v ⟨hnodes, hfrontier, hedges, hfit⟩
    have horder := pairwise_append.mp (hnodes ▸ h.nodes_inOrder)
    unfold admitNode
    split_ifs with hfull
    · have hlisted := h.listed
      rw [← hedges] at hlisted
      refine ⟨rfl, ⟨hfit, hlisted.edgesFit, horder.1, hlisted.edgesInOrder⟩, fun hcomplete => ?_⟩
      have hnear := (h.near_next n).mp (hnodes ▸ mem_append_right _ mem_cons_self)
      have hself := horder.2.2 n ((hcomplete.1 n).mpr (hnear.reachable hstart)) n mem_cons_self
      rcases hself with ⟨k, hk, hnk⟩ | ⟨-, hlt⟩
      · exact hnk hk
      · exact lt_irrefl n hlt
    · refine ⟨by simpa using hnodes, by simpa using hfrontier, hedges, ?_⟩
      simp only [length_append, length_singleton]
      omega
  generalize w.nextLevel.foldlM q.t.admitNode { w with frontier := [] } = result at hloop
  cases result with
  | error report => exact hloop
  | ok v =>
    obtain ⟨hnodes, hfrontier, hedges, hfit⟩ := hloop
    rw [append_nil] at hnodes hfrontier
    have hnext := h.advance (hnodes ▸ hfit) v.frontier
    rwa [← hnodes, ← hedges, ← hfrontier] at hnext

include hstart in
lemma walkLevels_ends (depth : ℕ) (h : q.AtLevel k w) :
    Ends q.Cut (fun v => ∃ k, q.AtLevel k v) (q.t.walkLevels q.claims depth w) := by
  induction depth generalizing k w with
  | zero => exact ⟨k, h⟩
  | succ depth ih =>
    unfold walkLevels
    split_ifs with hdone
    · exact ⟨k, h⟩
    · have hlevel := foldlM_ends (fun _ _ _ => followEdge_ends hstart) h
      exact hlevel.bind (fun v hv => (admitNode_ends hstart hv).bind (fun _ => ih))

lemma atLevel_start : q.AtLevel 0 ⟨[q.t.start], [], [], [q.t.start]⟩ where
  near n := by simp [Near]
  listed := ⟨q.t.nodes_clamped.1, Nat.zero_le _, pairwise_singleton _ _, Pairwise.nil⟩
  edges c hc := absurd hc not_mem_nil
  followed m hm c n hc := .inr (pair_mem_product.mpr ⟨hm, hc.1⟩)
  next n hn := absurd hn not_mem_nil
  sorted := Pairwise.nil
  ahead c hc := absurd hc not_mem_nil
  pending x hx := ⟨(mem_product.mp hx).2, (mem_product.mp hx).1, id⟩
  turns := turns_product (pairwise_singleton _ _)

include hstart in
theorem AtLevel.complete (h : q.AtLevel k w)
    (hall : ∀ m ∈ w.nodes, ∀ c n, q.Leads c m n → c ∈ w.edges) : q.Complete (w.report false) := by
  have hclosed : ∀ n, Relation.ReflTransGen (fun m n => ∃ c, q.Leads c m n) q.t.start n →
      n ∈ w.nodes := by
    intro n hpath
    induction hpath with
    | refl => exact (h.near _).mpr (.inl rfl)
    | tail _ hc ih =>
      obtain ⟨c, hl⟩ := hc
      obtain ⟨m, hm, n, hl', hn⟩ := h.edges c (hall _ ih c _ hl)
      rcases hl'.ends hl with rfl | rfl
      · exact hm
      · exact hn.resolve_right not_mem_nil
  have hnodes : ∀ n, n ∈ w.nodes ↔ q.Reachable n := fun n =>
    ⟨fun hn => ((h.near n).mp hn).reachable hstart, fun hn => hclosed n hn.2⟩
  refine ⟨hnodes, fun c => ⟨fun hc => ?_, fun ⟨m, n, hm, hl⟩ => hall m ((hnodes m).mpr hm) c n hl⟩⟩
  obtain ⟨m, hm, n, hl, -⟩ := h.edges c hc
  exact ⟨m, n, (hnodes m).mp hm, hl⟩

lemma untried_iff {spent : List String} {m : String} : q.t.untried q.claims spent m = true ↔
    ∃ c n, q.Leads c m n ∧ c.claimId ∉ spent := by
  simp only [untried, any_eq_true, Bool.and_eq_true, Bool.not_eq_true', decide_eq_false_iff_not,
    Option.isSome_iff_exists, Leads]
  exact ⟨fun ⟨c, hc, ⟨hf, hs⟩, n, hn⟩ => ⟨c, n, ⟨hc, hf, hn⟩, hs⟩,
    fun ⟨c, n, ⟨hc, hf, hn⟩, hs⟩ => ⟨c, hc, ⟨hf, hs⟩, n, hn⟩⟩

lemma walk_spec : q.WellListed (q.t.walk q.claims).nodes (q.t.walk q.claims).edges ∧
    ((q.t.walk q.claims).truncated = false ↔ q.Complete (q.t.walk q.claims)) := by
  unfold walk
  split_ifs with htouched
  · obtain ⟨c, m, hl, -⟩ := untried_iff.mp htouched
    have hstart : ∃ c m, q.Leads c q.t.start m := ⟨c, m, hl⟩
    have hends := walkLevels_ends hstart q.t.depth (atLevel_start)
    generalize q.t.walkLevels q.claims q.t.depth ⟨[q.t.start], [], [], [q.t.start]⟩ = result at hends
    cases result with
    | error report => exact ⟨hends.2.1, by simp [hends.1, hends.2.2]⟩
    | ok w =>
      obtain ⟨k, hw⟩ := hends
      refine ⟨hw.listed, ?_⟩
      dsimp only
      cases hmore : w.frontier.any (q.t.untried q.claims w.spentEdges) with
      | true =>
        obtain ⟨m, hm, huntried⟩ := any_eq_true.mp hmore
        obtain ⟨c, n, hl, hspent⟩ := untried_iff.mp huntried
        have hnode := (hw.pending (m, c) (pair_mem_product.mpr ⟨hm, hl.1⟩)).2.1
        have hcut := hw.not_complete hstart hnode hl hspent true
        exact ⟨fun h => (nomatch h), fun h => absurd h hcut⟩
      | false =>
        refine ⟨fun _ => hw.complete hstart (fun m hm c n hl => ?_), fun _ => rfl⟩
        rcases hw.followed m hm c n hl with he | he
        · exact he
        · have htried := any_eq_false.mp hmore m (pair_mem_product.mp he).1
          rw [untried_iff] at htried
          exact hw.mem_edges hl.1 (by_contra fun hspent => htried ⟨c, n, hl, hspent⟩)
  · have hnone : ∀ n, ¬ q.Reachable n := fun n ⟨⟨c, m, hl⟩, _⟩ =>
      htouched (untried_iff.mpr ⟨c, m, hl, not_mem_nil⟩)
    refine ⟨⟨Nat.zero_le _, Nat.zero_le _, Pairwise.nil, Pairwise.nil⟩, fun _ => ?_, fun _ => rfl⟩
    exact ⟨fun n => by simp [hnone], fun c => by simp [hnone]⟩

end
end Search

namespace InMemoryKnowledgeGraphStore
variable (store : InMemoryKnowledgeGraphStore) (scope : KnowledgeSpaceScope) (t : ClaimTraversal)

theorem traverse_reports : (store.traverse scope t).nodes.length ≤ t.nodeBudget ∧
      (store.traverse scope t).edges.length ≤ t.edgeBudget ∧ (store.traverse scope t).nodes.Nodup ∧
      ((store.traverse scope t).edges.map Claim.claimId).Nodup ∧
      (store.traverse scope t).nodes.Pairwise (Listed (store.search scope t).Near (· < ·)) ∧
      ((store.traverse scope t).truncated = false ↔
        (store.search scope t).Complete (store.traverse scope t)) := by
  rw [traverse_eq]
  obtain ⟨hlisted, htruncated⟩ := (store.search scope t).walk_spec
  refine ⟨hlisted.nodesFit, hlisted.edgesFit, hlisted.nodesInOrder.imp ?_,
    pairwise_map.mpr (hlisted.edgesInOrder.imp And.left), hlisted.nodesInOrder, htruncated⟩
  rintro m n (⟨k, hm, hn⟩ | ⟨-, hlt⟩)
  · rintro rfl
    exact hn hm
  · exact ne_of_lt hlt

variable {store scope t}

def space : KnowledgeSpaceScope := ⟨"tenant", "space"⟩

def edge (id subject object : String) : Claim := ⟨id, subject, "knows", .node object, .verified⟩

def single : InMemoryKnowledgeGraphStore := empty.insertClaim space (edge "1" "s" "a")

def forked : InMemoryKnowledgeGraphStore :=
  ((single.insertClaim space (edge "2" "s" "b")).insertClaim space (edge "3" "b" "x")).insertClaim
    space (edge "4" "a" "y")

def twoSteps : ClaimTraversal where
  start := "s"
  direction := .outbound
  predicates := none
  trust := [.proposed, .verified, .disputed]
  depth := 2
  nodeBudget := claimTraversalMaxNodes
  edgeBudget := claimTraversalMaxEdges
  depth_clamped := by decide
  nodes_clamped := by decide
  edges_clamped := by decide

end InMemoryKnowledgeGraphStore
end Rakka.KnowledgeGraph
