import Mathlib

/-! Depth-first search with an explicit stack over a graph given by the children of each
node. A search that meets no node of its own path visits the nodes children first, so the
graph below them has a rank that decreases along every edge. Both searches are run with
fuel; the fuel they are given here is enough. -/

namespace Foundation.DepthFirst
open List
variable {α : Type} [DecidableEq α] (children : α → List α)

/-- The nodes on the path, the nodes left for good, and the path with the next child of each node,
innermost first. -/
structure Search (α : Type) where
  visiting : List α
  visited : List α
  stack : List (α × ℕ)

inductive Progress (α : Type) where
  | done
  | cycle (node : α)
  | next (search : Search α)

def Search.step (search : Search α) : Progress α :=
  match search.stack with
  | [] => .done
  | (node, index) :: rest =>
    match (children node)[index]? with
    | some child =>
      if child ∈ search.visiting then .cycle child
      else if child ∈ search.visited then
        .next { search with stack := (node, index + 1) :: rest }
      else
        .next { search with
          visiting := child :: search.visiting
          stack := (child, 0) :: (node, index + 1) :: rest }
    | none =>
      .next ⟨search.visiting.erase node, node :: search.visited, rest⟩

/-- Runs until the stack is empty; `none` is a run that needs more fuel. -/
def Search.run : ℕ → Search α → Option (Except α (Search α))
  | 0, _ => none
  | fuel + 1, search =>
    match search.step children with
    | .done => some (.ok search)
    | .cycle node => some (.error node)
    | .next search => run fuel search

def Search.fromRoot (search : Search α) (root : α) : Search α :=
  ⟨root :: search.visiting, search.visited, [(root, 0)]⟩

def searchRoots (fuel : ℕ) : List α → Search α → Option (Except α (Search α))
  | [], search => some (.ok search)
  | root :: roots, search =>
    if root ∈ search.visited then searchRoots fuel roots search
    else
      match (search.fromRoot root).run children fuel with
      | some (.ok search) => searchRoots fuel roots search
      | some (.error node) => some (.error node)
      | none => none

def fuelFor (nodes : List α) : ℕ := (nodes.map (fun node => (children node).length + 2)).sum + 1

def detectCycle (nodes : List α) : Option (Option α) :=
  (searchRoots children (fuelFor children nodes) nodes ⟨[], [], []⟩).map
    (fun outcome => match outcome with
      | .ok _ => none
      | .error node => some node)

/-! ### The order in which nodes are left -/

/-- Every node stands before all of its children. -/
inductive ParentsFirst : List α → Prop where
  | nil : ParentsFirst []
  | cons {node : α} {rest : List α} (below : ∀ child ∈ children node, child ∈ rest)
      (tail : ParentsFirst rest) : ParentsFirst (node :: rest)

/-- The children already looked at have been left, except the one the path continues with. -/
def Explored (visited : List α) : Option α → List (α × ℕ) → Prop
  | _, [] => True
  | upper, (node, index) :: rest =>
    (∀ child ∈ (children node).take index, child ∈ visited ∨ some child = upper) ∧
      Explored visited (some node) rest

/-- What a search keeps while it runs. -/
structure Search.Ordered (search : Search α) : Prop where
  left : ParentsFirst children search.visited
  path : Explored children search.visited none search.stack

variable {children} {search next final : Search α} {fuel : ℕ} {root : α} {roots : List α}

omit [DecidableEq α] in
lemma Explored.mono {visited visited' : List α} (hsub : ∀ node ∈ visited, node ∈ visited')
    {upper : Option α} {stack : List (α × ℕ)} (h : Explored children visited upper stack) :
    Explored children visited' upper stack := by
  induction stack generalizing upper with
  | nil => trivial
  | cons frame rest ih =>
    obtain ⟨node, index⟩ := frame
    refine ⟨fun child hchild => ?_, ih h.2⟩
    exact (h.1 child hchild).imp (hsub child) id

omit [DecidableEq α] in
lemma Explored.leave {visited : List α} {upper : α} {stack : List (α × ℕ)}
    (h : Explored children visited (some upper) stack) :
    Explored children (upper :: visited) none stack := by
  cases stack with
  | nil => trivial
  | cons frame =>
    obtain ⟨node, index⟩ := frame
    refine ⟨fun child hchild => .inl ?_, h.2.mono (fun _ => mem_cons_of_mem upper)⟩
    rcases h.1 child hchild with hvisited | hupper
    · exact mem_cons_of_mem upper hvisited
    · rw [Option.some.inj hupper]
      exact mem_cons_self

omit [DecidableEq α] in
lemma mem_take_succ {l : List α} {index : ℕ} {a b : α} (hb : l[index]? = some b)
    (ha : a ∈ l.take (index + 1)) : a ∈ l.take index ∨ a = b := by
  rw [take_add_one, hb] at ha
  simpa using ha

/-- A search that goes on passes over a child left before, enters a new child, or leaves the
innermost node. -/
inductive Search.Moved (children : α → List α) : Search α → Search α → Prop where
  | pass {visiting visited : List α} {node child : α} {index : ℕ} {rest : List (α × ℕ)}
      (hchild : (children node)[index]? = some child) (hvisited : child ∈ visited) :
      Moved children ⟨visiting, visited, (node, index) :: rest⟩
        ⟨visiting, visited, (node, index + 1) :: rest⟩
  | enter {visiting visited : List α} {node child : α} {index : ℕ} {rest : List (α × ℕ)}
      (hchild : (children node)[index]? = some child) (hvisiting : child ∉ visiting)
      (hvisited : child ∉ visited) :
      Moved children ⟨visiting, visited, (node, index) :: rest⟩
        ⟨child :: visiting, visited, (child, 0) :: (node, index + 1) :: rest⟩
  | leave {visiting visited : List α} {node : α} {index : ℕ} {rest : List (α × ℕ)}
      (hchild : (children node).length ≤ index) :
      Moved children ⟨visiting, visited, (node, index) :: rest⟩
        ⟨visiting.erase node, node :: visited, rest⟩

lemma Search.step_done (hstep : search.step children = .done) :
    search.stack = [] := by
  obtain ⟨visiting, visited, stack⟩ := search
  cases stack with
  | nil => rfl
  | cons =>
    simp only [Search.step] at hstep
    split at hstep
    · split_ifs at hstep
    · cases hstep

lemma Search.step_next (hstep : search.step children = .next next) :
    Search.Moved children search next := by
  obtain ⟨visiting, visited, stack⟩ := search
  cases stack with
  | nil => cases hstep
  | cons frame =>
    obtain ⟨node, index⟩ := frame
    simp only [Search.step] at hstep
    split at hstep
    case h_1 child hchild =>
      split_ifs at hstep with hvisiting hvisited
      · cases hstep
        exact .pass hchild hvisited
      · cases hstep
        exact .enter hchild hvisiting hvisited
    case h_2 hchild =>
      cases hstep
      exact .leave (List.getElem?_eq_none_iff.mp hchild)

lemma Search.Ordered.moved (h : search.Ordered children)
    (hmoved : Search.Moved children search next) : next.Ordered children := by
  obtain ⟨hleft, hpath⟩ := h
  cases hmoved with
  | pass hchild hvisited =>
    refine ⟨hleft, fun c hc => ?_, hpath.2⟩
    rcases mem_take_succ hchild hc with hc | rfl
    · exact hpath.1 c hc
    · exact .inl hvisited
  | enter hchild =>
    refine ⟨hleft, fun c hc => (nomatch hc), fun c hc => ?_, hpath.2⟩
    rcases mem_take_succ hchild hc with hc | rfl
    · exact .inl ((hpath.1 c hc).resolve_right (fun he => nomatch he))
    · exact .inr rfl
  | leave hchild =>
    -- the index ran past the last child, so every child has been left
    refine ⟨.cons (fun c hc => ?_) hleft, hpath.2.leave⟩
    rw [← take_of_length_le hchild] at hc
    exact (hpath.1 c hc).resolve_right (fun he => nomatch he)

lemma Search.Moved.keeps_visited (hmoved : Search.Moved children search next) :
    ∀ node ∈ search.visited, node ∈ next.visited := by
  cases hmoved with
  | pass | enter => exact fun _ h => h
  | leave => exact fun _ h => mem_cons_of_mem _ h

/-- The path of a search from a root starts at the root, which is left last. -/
def Search.From (root : α) (search : Search α) : Prop :=
  root ∈ search.visited ∨ (search.stack.map Prod.fst).getLast? = some root

lemma Search.From.moved (h : search.From root)
    (hmoved : Search.Moved children search next) : next.From root := by
  rcases h with hvisited | hlast
  · exact .inl (hmoved.keeps_visited _ hvisited)
  cases hmoved with
  | pass => exact .inr hlast
  | enter => exact .inr (by simpa using hlast)
  | @leave _ _ node _ rest _ =>
    cases rest with
    | nil =>
      have hroot : node = root := Option.some.inj hlast
      exact .inl (hroot ▸ mem_cons_self)
    | cons => exact .inr (by simpa using hlast)

lemma Search.run_ordered (h : search.Ordered children) (hroot : search.From root)
    (hrun : search.run children fuel = some (.ok final)) :
    final.Ordered children ∧ root ∈ final.visited ∧ ∀ node ∈ search.visited, node ∈ final.visited := by
  induction fuel generalizing search with
  | zero => cases hrun
  | succ fuel ih =>
    rw [Search.run] at hrun
    cases hstep : search.step children with
    | done =>
      rw [hstep] at hrun
      cases hrun
      refine ⟨h, ?_, fun _ hn => hn⟩
      refine hroot.resolve_right (fun hlast => ?_)
      rw [Search.step_done hstep] at hlast
      cases hlast
    | cycle =>
      rw [hstep] at hrun
      cases hrun
    | next =>
      rw [hstep] at hrun
      have hmoved := Search.step_next hstep
      obtain ⟨hfinal, hmem, hkept⟩ := ih (h.moved hmoved) (hroot.moved hmoved) hrun
      exact ⟨hfinal, hmem, fun node hn => hkept node (hmoved.keeps_visited node hn)⟩

lemma searchRoots_ordered (h : ParentsFirst children search.visited)
    (hrun : searchRoots children fuel roots search = some (.ok final)) :
    ParentsFirst children final.visited ∧ (∀ root ∈ roots, root ∈ final.visited) ∧
      ∀ node ∈ search.visited, node ∈ final.visited := by
  induction roots generalizing search with
  | nil =>
    cases hrun
    exact ⟨h, fun root hroot => (nomatch hroot), fun _ hn => hn⟩
  | cons root roots ih =>
    rw [searchRoots] at hrun
    by_cases hvisited : root ∈ search.visited
    · rw [if_pos hvisited] at hrun
      obtain ⟨hfinal, hroots, hkept⟩ := ih h hrun
      exact ⟨hfinal, forall_mem_cons.mpr ⟨hkept root hvisited, hroots⟩, hkept⟩
    rw [if_neg hvisited] at hrun
    cases hone : (search.fromRoot root).run children fuel with
    | none =>
      rw [hone] at hrun
      cases hrun
    | some outcome =>
      rw [hone] at hrun
      cases outcome with
      | error => cases hrun
      | ok =>
        have hstart : (search.fromRoot root).Ordered children :=
          ⟨h, fun child hchild => (nomatch hchild), trivial⟩
        have hfrom : (search.fromRoot root).From root := .inr rfl
        obtain ⟨hordered, hmem, hkept₁⟩ := Search.run_ordered hstart hfrom hone
        obtain ⟨hfinal, hroots, hkept₂⟩ := ih hordered.left hrun
        refine ⟨hfinal, forall_mem_cons.mpr ⟨hkept₂ root hmem, hroots⟩, fun node hn => ?_⟩
        exact hkept₂ node (hkept₁ node hn)

lemma ParentsFirst.rank_lt {order : List α} (h : ParentsFirst children order) :
    ∀ node ∈ order, ∀ child ∈ children node,
      order.reverse.idxOf child < order.reverse.idxOf node := by
  induction h with
  | nil => exact fun node hnode => nomatch hnode
  | @cons top rest below _ ih =>
    intro node hnode child hchild
    have hold : ∀ a ∈ rest, (top :: rest).reverse.idxOf a = rest.reverse.idxOf a := fun a ha => by
      rw [reverse_cons, idxOf_append_of_mem (mem_reverse.mpr ha)]
    by_cases hmem : node ∈ rest
    · have hlt := ih node hmem child hchild
      have hin : child ∈ rest := by
        have hbound : rest.reverse.idxOf node ≤ rest.reverse.length := idxOf_le_length
        exact mem_reverse.mp (idxOf_lt_length_iff.mp (by omega))
      rw [hold node hmem, hold child hin]
      exact hlt
    · have htop : node = top := (mem_cons.mp hnode).resolve_right hmem
      subst htop
      have hin := below child hchild
      rw [hold child hin, reverse_cons, idxOf_append_of_notMem (fun hm => hmem (mem_reverse.mp hm))]
      have hlt := idxOf_lt_length_iff.mpr (mem_reverse.mpr hin)
      omega

lemma exists_rank_of_detectCycle {nodes : List α} (h : detectCycle children nodes = some none) :
    ∃ rank : α → ℕ, ∀ node ∈ nodes, ∀ child ∈ children node, rank child < rank node := by
  obtain ⟨outcome, hrun, houtcome⟩ := Option.map_eq_some_iff.mp h
  cases outcome with
  | error => cases houtcome
  | ok =>
    obtain ⟨hordered, hroots, -⟩ := searchRoots_ordered .nil hrun
    exact ⟨_, fun node hnode => hordered.rank_lt node (hroots node hnode)⟩

/-! ### The fuel is enough -/

/-- Two moves and one for each child of a node not yet entered, and the rest of the children along
the path. -/
def Search.work (children : α → List α) (nodes : Finset α) (search : Search α) : ℕ :=
  (∑ node ∈ nodes.filter (fun node => node ∉ search.visiting ∧ node ∉ search.visited),
      ((children node).length + 2)) +
    (search.stack.map (fun frame => (children frame.1).length - frame.2 + 1)).sum

structure Search.Within (children : α → List α) (nodes : Finset α) (search : Search α) : Prop where
  closed : ∀ node ∈ nodes, ∀ child ∈ children node, child ∈ nodes
  path : ∀ frame ∈ search.stack, frame.1 ∈ nodes

variable {nodes : Finset α}

lemma Search.Within.moved (h : search.Within children nodes)
    (hmoved : Search.Moved children search next) : next.Within children nodes := by
  refine ⟨h.closed, ?_⟩
  cases hmoved with
  | pass => exact forall_mem_cons.mpr (forall_mem_cons.mp h.path)
  | enter hchild =>
    obtain ⟨hnode, hrest⟩ := forall_mem_cons.mp h.path
    refine forall_mem_cons.mpr ⟨?_, forall_mem_cons.mpr ⟨hnode, hrest⟩⟩
    exact h.closed _ hnode _ (mem_of_getElem? hchild)
  | leave => exact (forall_mem_cons.mp h.path).2

lemma sum_enter (old : α → Prop) [DecidablePred old] {marked : List α} {node : α}
    (hnode : node ∈ nodes) (hmarked : node ∉ marked) (hold : ¬ old node) (weight : α → ℕ) :
    (∑ a ∈ nodes.filter (fun a => a ∉ node :: marked ∧ ¬ old a), weight a) + weight node =
      ∑ a ∈ nodes.filter (fun a => a ∉ marked ∧ ¬ old a), weight a := by
  have hmem : node ∈ nodes.filter (fun a => a ∉ marked ∧ ¬ old a) :=
    Finset.mem_filter.mpr ⟨hnode, hmarked, hold⟩
  have hrest : nodes.filter (fun a => a ∉ node :: marked ∧ ¬ old a) =
      (nodes.filter (fun a => a ∉ marked ∧ ¬ old a)).erase node := by
    ext a
    simp only [Finset.mem_filter, Finset.mem_erase, mem_cons, not_or]
    tauto
  rw [hrest, Finset.sum_erase_add _ _ hmem]

lemma Search.Moved.work_lt (hmoved : Search.Moved children search next)
    (h : search.Within children nodes) : next.work children nodes < search.work children nodes := by
  have hnext := h.moved hmoved
  cases hmoved with
  | @pass _ _ node child index _ hchild _ =>
    have hlt : index < (children node).length := (List.getElem?_eq_some_iff.mp hchild).1
    simp only [Search.work, map_cons, sum_cons]
    omega
  | @enter visiting visited node child index _ hchild hvisiting hvisited =>
    have hlt : index < (children node).length := (List.getElem?_eq_some_iff.mp hchild).1
    have hmem : child ∈ nodes := (forall_mem_cons.mp hnext.path).1
    have hsum := sum_enter (· ∈ visited) hmem hvisiting hvisited (fun a => (children a).length + 2)
    simp only [Search.work, map_cons, sum_cons]
    omega
  | @leave visiting visited node index _ _ =>
    have hsub : nodes.filter (fun a => a ∉ visiting.erase node ∧ a ∉ node :: visited) ⊆
        nodes.filter (fun a => a ∉ visiting ∧ a ∉ visited) := by
      refine Finset.monotone_filter_right nodes (fun a _ ⟨hout, hleft⟩ => ⟨fun hv => hout ?_, ?_⟩)
      · exact (mem_erase_of_ne (ne_of_not_mem_cons hleft)).mpr hv
      · exact not_mem_of_not_mem_cons hleft
    have hle := Finset.sum_le_sum_of_subset (f := fun a => (children a).length + 2) hsub
    simp only [Search.work, map_cons, sum_cons]
    omega

lemma Search.run_isSome (h : search.Within children nodes)
    (hfuel : search.work children nodes < fuel) : (search.run children fuel).isSome := by
  induction fuel generalizing search with
  | zero => exact absurd hfuel (Nat.not_lt_zero _)
  | succ fuel ih =>
    rw [Search.run]
    cases hstep : search.step children with
    | done | cycle => rfl
    | next =>
      have hmoved := Search.step_next hstep
      have hless := hmoved.work_lt h
      exact ih (h.moved hmoved) (by omega)

lemma searchRoots_isSome (nodes : Finset α)
    (hclosed : ∀ node ∈ nodes, ∀ child ∈ children node, child ∈ nodes)
    (hfuel : (∑ node ∈ nodes, ((children node).length + 2)) < fuel)
    (hroots : ∀ root ∈ roots, root ∈ nodes) (search : Search α) :
    (searchRoots children fuel roots search).isSome := by
  induction roots generalizing search with
  | nil => rfl
  | cons root roots ih =>
    obtain ⟨hroot, hrest⟩ := forall_mem_cons.mp hroots
    rw [searchRoots]
    split_ifs with hvisited
    · exact ih hrest search
    have hwithin : (search.fromRoot root).Within children nodes :=
      ⟨hclosed, forall_mem_cons.mpr ⟨hroot, fun frame hframe => nomatch hframe⟩⟩
    have hwork : (search.fromRoot root).work children nodes ≤
        ∑ node ∈ nodes, ((children node).length + 2) := by
      have hsub : nodes.filter (fun a => a ∉ (search.fromRoot root).visiting ∧
          a ∉ (search.fromRoot root).visited) ⊆ nodes.erase root := by
        intro a ha
        obtain ⟨hin, hout, -⟩ := Finset.mem_filter.mp ha
        exact Finset.mem_erase.mpr ⟨ne_of_not_mem_cons hout, hin⟩
      have hle := Finset.sum_le_sum_of_subset (f := fun a => (children a).length + 2) hsub
      have hall := Finset.sum_erase_add nodes (fun a => (children a).length + 2) hroot
      change _ + ((children root).length + 1) ≤ _
      omega
    obtain ⟨outcome, hrun⟩ := Option.isSome_iff_exists.mp
      (Search.run_isSome hwithin (by omega : _ < fuel))
    rw [hrun]
    cases outcome with
    | error => rfl
    | ok search' => exact ih hrest search'

lemma detectCycle_isSome {nodes : List α} (hnodup : nodes.Nodup)
    (hclosed : ∀ node ∈ nodes, ∀ child ∈ children node, child ∈ nodes) :
    (detectCycle children nodes).isSome := by
  have hsum : (∑ node ∈ nodes.toFinset, ((children node).length + 2)) < fuelFor children nodes := by
    rw [sum_toFinset _ hnodup]
    exact Nat.lt_succ_self _
  have hroots : ∀ root ∈ nodes, root ∈ nodes.toFinset := fun root => mem_toFinset.mpr
  have hsome := searchRoots_isSome nodes.toFinset (by simpa using hclosed) hsum hroots ⟨[], [], []⟩
  simpa [detectCycle] using hsome

/-! ### Reachability -/

/-- Takes nodes off a worklist until it is empty; `none` is a run that needs more fuel. -/
def reachFrom (children : α → List α) : ℕ → List α → List α → Option (List α)
  | 0, _, _ => none
  | _ + 1, [], reached => some reached
  | fuel + 1, node :: rest, reached =>
    if node ∈ reached then reachFrom children fuel rest reached
    else reachFrom children fuel (children node ++ rest) (node :: reached)

def reachable (children : α → List α) (nodes entries : List α) : Option (List α) :=
  reachFrom children (fuelFor children nodes + entries.length) entries []

lemma reachFrom_isSome (nodes : Finset α)
    (hclosed : ∀ node ∈ nodes, ∀ child ∈ children node, child ∈ nodes)
    {pending reached : List α} (hpending : ∀ node ∈ pending, node ∈ nodes)
    (hfuel : (∑ node ∈ nodes.filter (· ∉ reached), (children node).length) + pending.length < fuel) :
    (reachFrom children fuel pending reached).isSome := by
  induction fuel generalizing pending reached with
  | zero => exact absurd hfuel (Nat.not_lt_zero _)
  | succ fuel ih =>
    cases pending with
    | nil => rfl
    | cons node =>
      obtain ⟨hnode, hrest⟩ := forall_mem_cons.mp hpending
      rw [length_cons] at hfuel
      rw [reachFrom]
      split_ifs with hreached
      · exact ih hrest (by omega)
      · have hsum := sum_enter (fun _ => False) hnode hreached not_false (fun a => (children a).length)
        simp only [not_false_eq_true, and_true] at hsum
        refine ih (fun a ha => ?_) (by rw [length_append]; omega)
        exact (mem_append.mp ha).elim (hclosed node hnode a) (hrest a)

lemma reachable_isSome {nodes entries : List α} (hnodup : nodes.Nodup)
    (hclosed : ∀ node ∈ nodes, ∀ child ∈ children node, child ∈ nodes)
    (hentries : ∀ entry ∈ entries, entry ∈ nodes) : (reachable children nodes entries).isSome := by
  refine reachFrom_isSome nodes.toFinset (by simpa using hclosed) (by simpa using hentries) ?_
  have hle : (∑ node ∈ nodes.toFinset, (children node).length) ≤
      (nodes.map (fun node => (children node).length + 2)).sum := by
    rw [← sum_toFinset _ hnodup]
    exact Finset.sum_le_sum (fun node _ => Nat.le_add_right _ 2)
  simp only [not_mem_nil, not_false_eq_true, Finset.filter_true, fuelFor]
  omega

end Foundation.DepthFirst
