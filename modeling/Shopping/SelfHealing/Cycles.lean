import Mathlib.Data.Finset.Card
import Shopping.Lib.Walks
import Shopping.SelfHealing.Graph

/-!
# `detect_circular_dependencies`

The depth-first search returns as soon as it finds a cycle, and then leaves the
vertices of its path in `rec_stack`.  Each search from a cyclic vertex follows the
walk to the first cyclic dependency (`Walk`): what is dead on the way is searched
and forgotten (`loop_dead`).  A walk that comes to a vertex that an earlier
search left in `rec_stack` looks it up in its own path, where it is not, and
raises (`dfs_cyclic`).  `detectLoop_spec` follows the searches one by one.
-/

namespace Shopping

namespace DependencyGraph

variable {Name : Type} [DecidableEq Name]

/-- The variables of the search. -/
structure DfsState (Name : Type) where
  visited : Finset Name
  recStack : Finset Name
  path : List Name
  cycles : List (List Name)

/-- What a call answers: whether it found a cycle, or what it raises; `none` is
out of fuel. -/
abbrev DfsResult (Name : Type) := Option (Except (GraphError Name) (Bool × DfsState Name))

/-- The loop over the dependencies; `visit` is the recursive call. -/
def dfsLoop (visit : Name → DfsState Name → DfsResult Name) :
    List Name → DfsState Name → DfsResult Name
  | [], s => some (.ok (false, s))
  | dep :: deps, s =>
    if dep ∉ s.visited then
      match visit dep s with
      | some (.ok (false, s)) => dfsLoop visit deps s
      | result => result
    else if dep ∈ s.recStack then
      if dep ∈ s.path then
        some (.ok (true,
          { s with cycles := s.cycles ++ [s.path.drop (s.path.idxOf dep) ++ [dep]] }))
      else some (.error (.notInList dep))
    else dfsLoop visit deps s

/-- The node is visited, and is on the stack and on the path. -/
def DfsState.enter (s : DfsState Name) (node : Name) : DfsState Name :=
  { s with
    visited := insert node s.visited
    recStack := insert node s.recStack
    path := s.path ++ [node] }

/-- `path.pop()` and `rec_stack.remove(node)`. -/
def DfsState.leave (s : DfsState Name) (node : Name) : DfsState Name :=
  { s with recStack := s.recStack.erase node, path := s.path.dropLast }

/-- `dfs`. -/
def dfs (g : DependencyGraph Name) : Nat → Name → DfsState Name → DfsResult Name
  | 0, _, _ => none
  | fuel + 1, node, s =>
    match dfsLoop (dfs g fuel) (g.getDependencies node).keys (s.enter node) with
    | some (.ok (false, s)) => some (.ok (false, s.leave node))
    | result => result

/-- The loop over the services. -/
def detectLoop (g : DependencyGraph Name) (fuel : Nat) :
    List Name → DfsState Name → Option (Except (GraphError Name) (DfsState Name))
  | [], s => some (.ok s)
  | node :: nodes, s =>
    if node ∈ s.visited then detectLoop g fuel nodes s
    else
      match dfs g fuel node { s with path := [] } with
      | none => none
      | some (.error e) => some (.error e)
      | some (.ok (_, s)) => detectLoop g fuel nodes s

/-- `detect_circular_dependencies`. -/
def detectCircularDependencies (fuel : Nat) (g : DependencyGraph Name) :
    Option (Except (GraphError Name) (List (List Name))) :=
  (detectLoop g fuel g.nodes.keys ⟨∅, ∅, [], []⟩).map fun r => r.map fun s => s.cycles

/-! ## Searches among dead vertices -/

/-- What a name depends on, in order. -/
def successors (g : DependencyGraph Name) (x : Name) : List Name := (g.getDependencies x).keys

/-- The names of the graph. -/
def names (g : DependencyGraph Name) : Finset Name :=
  (g.nodes.entries.flatMap fun e => e.1 :: e.2.dependencies.keys).toFinset

variable {g : DependencyGraph Name}

/-- After a search that found nothing: some dead vertices were visited, nothing
else has changed. -/
structure DeadStep (g : DependencyGraph Name) (s s' : DfsState Name) : Prop where
  mono : s.visited ⊆ s'.visited
  dead : ∀ x ∈ s'.visited, x ∈ s.visited ∨ ¬ Cyclic g.successors x
  recStack : s'.recStack = s.recStack
  path : s'.path = s.path
  cycles : s'.cycles = s.cycles

theorem DeadStep.refl (s : DfsState Name) : DeadStep g s s :=
  ⟨subset_refl _, fun _ hx => .inl hx, rfl, rfl, rfl⟩

theorem DeadStep.trans {s s' s'' : DfsState Name} (h : DeadStep g s s') (h' : DeadStep g s' s'') :
    DeadStep g s s'' where
  mono := h.mono.trans h'.mono
  dead x hx := (h'.dead x hx).elim (h.dead x) .inr
  recStack := h'.recStack.trans h.recStack
  path := h'.path.trans h.path
  cycles := h'.cycles.trans h.cycles

/-- The dead vertices of the stack are above a vertex. -/
def StackAbove (g : DependencyGraph Name) (s : DfsState Name) (x : Name) : Prop :=
  ∀ r ∈ s.recStack, ¬ Cyclic g.successors r → Relation.TransGen (Edge g.successors) r x

/-- A loop goes past dead dependencies; `hvisit` is what the recursive call does
on those that were not visited. -/
theorem loop_dead {visit : Name → DfsState Name → DfsResult Name} {dead : List Name}
    (hdead : ∀ d ∈ dead, ¬ Cyclic g.successors d) {s : DfsState Name}
    (habove : ∀ d ∈ dead, StackAbove g s d)
    (hvisit : ∀ d ∈ dead, ∀ t, DeadStep g s t → d ∉ t.visited →
      ∃ t', visit d t = some (.ok (false, t')) ∧ DeadStep g t t' ∧ d ∈ t'.visited)
    (rest : List Name) :
    ∃ s', dfsLoop visit (dead ++ rest) s = dfsLoop visit rest s' ∧ DeadStep g s s' := by
  induction dead generalizing s with
  | nil => exact ⟨s, rfl, .refl s⟩
  | cons d dead ih =>
    have htail : ∀ t, DeadStep g s t →
        ∃ s', dfsLoop visit (dead ++ rest) t = dfsLoop visit rest s' ∧ DeadStep g t s' := by
      intro t hst
      refine ih (fun c hc => hdead c (List.mem_cons_of_mem d hc)) (fun c hc r hr => ?_)
        (fun c hc u htu => hvisit c (List.mem_cons_of_mem d hc) u (hst.trans htu))
      exact habove c (List.mem_cons_of_mem d hc) r (hst.recStack ▸ hr)
    by_cases hd : d ∈ s.visited
    · have hstack : d ∉ s.recStack := by
        intro hr
        have hnot := hdead d List.mem_cons_self
        exact hnot (cyclic_of_cycle (habove d List.mem_cons_self d hr hnot))
      obtain ⟨s', heq, hstep⟩ := htail s (.refl s)
      refine ⟨s', ?_, hstep⟩
      rw [List.cons_append, dfsLoop, if_neg (not_not_intro hd), if_neg hstack, heq]
    · obtain ⟨t, ht, hst, _⟩ := hvisit d List.mem_cons_self s (.refl s) hd
      obtain ⟨s', heq, hstep⟩ := htail t hst
      refine ⟨s', ?_, hst.trans hstep⟩
      rw [List.cons_append, dfsLoop, if_pos hd, ht]
      exact heq

/-- Both ends of an edge are names of the graph. -/
theorem mem_names_of_edge {x d : Name} (h : Edge g.successors x d) : x ∈ g.names ∧ d ∈ g.names := by
  obtain ⟨node, hnode⟩ := Dict.mem_keys.mp (Depends.mem_nodes h)
  have hd : d ∈ node.dependencies.keys := by
    rw [Edge, successors, getDependencies, hnode] at h
    exact h
  have hmem := Dict.get?_eq_some.mp hnode
  simp only [names, List.mem_toFinset, List.mem_flatMap, List.mem_cons]
  exact ⟨⟨(x, node), hmem, .inl rfl⟩, ⟨(x, node), hmem, .inr hd⟩⟩

/-- A visit leaves fewer names. -/
theorem card_names_enter {s : DfsState Name} {node : Name} (hname : node ∈ g.names)
    (hnot : node ∉ s.visited) :
    (g.names \ (s.enter node).visited).card < (g.names \ s.visited).card := by
  refine Finset.card_lt_card ((Finset.ssubset_iff_of_subset ?_).mpr ⟨node, ?_, ?_⟩)
  · exact Finset.sdiff_subset_sdiff (subset_refl _) (Finset.subset_insert _ _)
  · exact Finset.mem_sdiff.mpr ⟨hname, hnot⟩
  · exact fun h => (Finset.mem_sdiff.mp h).2 (Finset.mem_insert_self _ _)

theorem card_names_mono {s s' : DfsState Name} (h : s.visited ⊆ s'.visited) :
    (g.names \ s'.visited).card ≤ (g.names \ s.visited).card :=
  Finset.card_le_card (Finset.sdiff_subset_sdiff (subset_refl _) h)

/-- A search from a dead vertex visits dead vertices and finds nothing. -/
theorem dfs_dead {fuel : Nat} {node : Name} {s : DfsState Name}
    (hdead : ¬ Cyclic g.successors node) (hname : node ∈ g.names) (hnot : node ∉ s.visited)
    (hstack : s.recStack ⊆ s.visited) (habove : StackAbove g s node)
    (hfuel : (g.names \ s.visited).card ≤ fuel) :
    ∃ s', dfs g fuel node s = some (.ok (false, s')) ∧ DeadStep g s s' ∧ node ∈ s'.visited := by
  induction fuel generalizing node s with
  | zero =>
    have hpos := card_names_enter hname hnot
    omega
  | succ fuel ih =>
    have hless := card_names_enter hname hnot
    have hedge : ∀ d ∈ g.successors node, ¬ Cyclic g.successors d :=
      fun d hd hcyclic => hdead (hcyclic.of_edge hd)
    have habove' : ∀ d ∈ g.successors node, StackAbove g (s.enter node) d := by
      intro d hd r hr hrdead
      rcases Finset.mem_insert.mp hr with rfl | hr
      · exact .single hd
      · exact (habove r hr hrdead).tail hd
    have hvisit : ∀ d ∈ g.successors node, ∀ t, DeadStep g (s.enter node) t → d ∉ t.visited →
        ∃ t', dfs g fuel d t = some (.ok (false, t')) ∧ DeadStep g t t' ∧ d ∈ t'.visited := by
      intro d hd t hst ht
      have hcard := card_names_mono (g := g) hst.mono
      have hsubset : t.recStack ⊆ t.visited := by
        rw [hst.recStack]
        exact (Finset.insert_subset_insert node hstack).trans hst.mono
      refine ih (hedge d hd) (mem_names_of_edge hd).2 ht hsubset (fun r hr => ?_) (by omega)
      exact habove' d hd r (hst.recStack ▸ hr)
    obtain ⟨s', heq, hstep⟩ := loop_dead hedge habove' hvisit []
    refine ⟨s'.leave node, ?_, ?_, hstep.mono (Finset.mem_insert_self node _)⟩
    · rw [dfs, ← successors, ← List.append_nil (g.successors node), heq]
      rfl
    · refine ⟨fun x hx => hstep.mono (Finset.mem_insert_of_mem hx), fun x hx => ?_, ?_, ?_,
        hstep.cycles⟩
      · rcases hstep.dead x hx with hx | hx
        · rcases Finset.mem_insert.mp hx with rfl | hx
          · exact .inr hdead
          · exact .inl hx
        · exact .inr hx
      · rw [DfsState.leave, hstep.recStack]
        exact Finset.erase_insert fun h => hnot (hstack h)
      · rw [DfsState.leave, hstep.path]
        exact List.dropLast_concat

/-! ## Searches along a walk -/

/-- Consecutive entries are dependencies, and the first is the last. -/
def IsCycle (g : DependencyGraph Name) (c : List Name) : Prop :=
  c.IsChain g.Depends ∧ 2 ≤ c.length ∧ c.head? = c.getLast?

/-- The search is on the walk that `path` has followed; `stale` is what earlier
searches left on the stack. -/
structure Following (g : DependencyGraph Name) (stale : Finset Name) (s : DfsState Name) :
    Prop where
  recStack : ∀ x, x ∈ s.recStack ↔ x ∈ stale ∨ x ∈ s.path
  fresh : ∀ x ∈ s.path, x ∉ stale
  subset : s.recStack ⊆ s.visited
  cyclic : ∀ x ∈ s.recStack, Cyclic g.successors x
  stack : ∀ x ∈ s.visited, Cyclic g.successors x → x ∈ s.recStack
  chain : s.path.IsChain fun x y => lead g.successors x = some y

/-- What a search that found a cycle leaves: one more cycle, and the walk on the
stack. -/
structure Found (g : DependencyGraph Name) (s : DfsState Name) (node : Name) (s' : DfsState Name) :
    Prop where
  mono : s.visited ⊆ s'.visited
  subset : s'.recStack ⊆ s'.visited
  stack : ∀ x ∈ s'.visited, Cyclic g.successors x → x ∈ s'.recStack
  recStack : ∀ x, x ∈ s'.recStack ↔ x ∈ s.recStack ∨ Walk g.successors node x
  cycles : ∃ c, s'.cycles = s.cycles ++ [c] ∧ g.IsCycle c

variable {stale : Finset Name} {s s' : DfsState Name} {node : Name}

/-- What is forgotten does not matter to the walk. -/
theorem Following.deadStep (h : Following g stale s) (hstep : DeadStep g s s') :
    Following g stale s' where
  recStack x := by rw [hstep.recStack, hstep.path, h.recStack]
  fresh x hx := h.fresh x (hstep.path ▸ hx)
  subset := by
    rw [hstep.recStack]
    exact h.subset.trans hstep.mono
  cyclic x hx := h.cyclic x (hstep.recStack ▸ hx)
  stack x hx hcyclic := by
    rw [hstep.recStack]
    exact h.stack x ((hstep.dead x hx).resolve_right (not_not_intro hcyclic)) hcyclic
  chain := hstep.path ▸ h.chain

/-- A cyclic vertex that was not visited comes next on the walk. -/
theorem Following.enter (h : Following g stale s) (hcyclic : Cyclic g.successors node)
    (hnot : node ∉ s.visited) (hlead : ∀ x ∈ s.path.getLast?, lead g.successors x = some node) :
    Following g stale (s.enter node) where
  recStack x := by
    rw [DfsState.enter, Finset.mem_insert, h.recStack, List.mem_append, List.mem_singleton]
    tauto
  fresh x hx := by
    rcases List.mem_append.mp hx with hx | hx
    · exact h.fresh x hx
    · rw [List.mem_singleton.mp hx]
      exact fun hstale => hnot (h.subset ((h.recStack node).mpr (.inl hstale)))
  subset := Finset.insert_subset_insert node h.subset
  cyclic x hx := by
    rcases Finset.mem_insert.mp hx with rfl | hx
    · exact hcyclic
    · exact h.cyclic x hx
  stack x hx hx' := by
    rcases Finset.mem_insert.mp hx with rfl | hx
    · exact Finset.mem_insert_self _ _
    · exact Finset.mem_insert_of_mem (h.stack x hx hx')
  chain := by
    refine h.chain.append (List.isChain_singleton node) fun x hx y hy => ?_
    cases hy
    exact hlead x hx

/-- The path from a vertex on it, and the vertex again, is a cycle. -/
theorem Following.isCycle (h : Following g stale s) {b : Name}
    (hlead : ∀ x ∈ s.path.getLast?, lead g.successors x = some b) (hb : b ∈ s.path) :
    g.IsCycle (s.path.drop (s.path.idxOf b) ++ [b]) := by
  have hlt := List.idxOf_lt_length_of_mem hb
  have hdrop : s.path.drop (s.path.idxOf b) = b :: s.path.drop (s.path.idxOf b + 1) := by
    rw [List.drop_eq_getElem_cons hlt, List.getElem_idxOf]
  have hchain : (s.path ++ [b]).IsChain fun x y => lead g.successors x = some y := by
    refine h.chain.append (List.isChain_singleton b) fun x hx y hy => ?_
    cases hy
    exact hlead x hx
  refine ⟨?_, ?_, ?_⟩
  · have hsuffix := hchain.drop (s.path.idxOf b)
    rw [List.drop_append_of_le_length hlt.le] at hsuffix
    exact hsuffix.imp fun x y hxy => (edge_of_lead hxy : Edge g.successors x y)
  · rw [hdrop]
    simp
  · rw [hdrop, List.getLast?_concat]
    rfl

/-- The dead dependencies before the lead are searched and forgotten. -/
theorem Following.search_dead (h : Following g stale s) {dead rest : List Name} {b : Name}
    {fuel : Nat} (hnext : g.successors node = dead ++ b :: rest)
    (hdead : ∀ d ∈ dead, ¬ Cyclic g.successors d)
    (hfuel : (g.names \ s.visited).card ≤ fuel) :
    ∃ t, dfsLoop (dfs g fuel) (g.successors node) s = dfsLoop (dfs g fuel) (b :: rest) t ∧
      DeadStep g s t := by
  have habove : ∀ d ∈ dead, StackAbove g s d :=
    fun d _ r hr hrdead => absurd (h.cyclic r hr) hrdead
  have hvisit : ∀ d ∈ dead, ∀ t, DeadStep g s t → d ∉ t.visited →
      ∃ t', dfs g fuel d t = some (.ok (false, t')) ∧ DeadStep g t t' ∧ d ∈ t'.visited := by
    intro d hd t hst ht
    have hcard := card_names_mono (g := g) hst.mono
    have hedge : Edge g.successors node d := by
      rw [Edge, hnext]
      exact List.mem_append_left _ hd
    have hfollow := h.deadStep hst
    refine dfs_dead (hdead d hd) (mem_names_of_edge hedge).2 ht hfollow.subset ?_ (by omega)
    exact fun r hr hrdead => absurd (hfollow.cyclic r hr) hrdead
  rw [hnext]
  exact loop_dead hdead habove hvisit (b :: rest)

/-- A search from a cyclic vertex follows its walk.  It raises when the walk comes
to a stale vertex, and finds a cycle when it comes back to the path. -/
theorem dfs_cyclic {fuel : Nat} (h : Following g stale s) (hcyclic : Cyclic g.successors node)
    (hname : node ∈ g.names) (hnot : node ∉ s.visited)
    (hlead : ∀ x ∈ s.path.getLast?, lead g.successors x = some node)
    (hfuel : (g.names \ s.visited).card ≤ fuel) :
    ((∃ y ∈ stale, Walk g.successors node y) ∧ ∃ e, dfs g fuel node s = some (.error e)) ∨
      (∀ y ∈ stale, ¬ Walk g.successors node y) ∧
        ∃ s', dfs g fuel node s = some (.ok (true, s')) ∧ Found g s node s' := by
  induction fuel generalizing node s with
  | zero =>
    have hpos := card_names_enter hname hnot
    omega
  | succ fuel ih =>
    obtain ⟨b, hb⟩ := exists_lead hcyclic
    obtain ⟨hbcyclic, dead, rest, hnext, hdead⟩ := lead_eq_some.mp hb
    have henter := h.enter hcyclic hnot hlead
    have hless := card_names_enter hname hnot
    have hcard : (g.names \ (s.enter node).visited).card ≤ fuel := by omega
    obtain ⟨t, heq, hstep⟩ := henter.search_dead hnext hdead hcard
    have ht := henter.deadStep hstep
    have hdfs : dfs g (fuel + 1) node s =
        match dfsLoop (dfs g fuel) (b :: rest) t with
        | some (.ok (false, s)) => some (.ok (false, s.leave node))
        | result => result := by
      rw [dfs, ← successors, heq]
    have hstack : ∀ x, x ∈ t.recStack ↔ x = node ∨ x ∈ s.recStack := by
      intro x
      rw [hstep.recStack, DfsState.enter, Finset.mem_insert]
    have hlast : t.path.getLast? = some node := by
      rw [hstep.path, DfsState.enter, List.getLast?_concat]
    have hmono : s.visited ⊆ t.visited := (Finset.subset_insert node _).trans hstep.mono
    have hbname : b ∈ g.names := (mem_names_of_edge (edge_of_lead hb)).2
    have hlead' : ∀ x ∈ t.path.getLast?, lead g.successors x = some b := by
      intro x hx
      rw [hlast] at hx
      cases hx
      exact hb
    by_cases hbv : b ∈ t.visited
    · have hbstack : b ∈ t.recStack := ht.stack b hbv hbcyclic
      by_cases hbp : b ∈ t.path
      · -- the walk is back on its path
        have hwalk : ∀ y, Walk g.successors node y → y ∈ t.path :=
          fun y hy => hy.mem_path ht.chain hlast hb hbp
        refine .inr ⟨fun y hy hw => ht.fresh y (hwalk y hw) hy,
          { t with cycles := t.cycles ++ [t.path.drop (t.path.idxOf b) ++ [b]] }, ?_, ?_⟩
        · rw [hdfs, dfsLoop, if_neg (not_not_intro hbv), if_pos hbstack, if_pos hbp]
        · refine ⟨hmono, ht.subset, ht.stack, fun x => ?_, _, by rw [hstep.cycles]; rfl,
            ht.isCycle hlead' hbp⟩
          constructor
          · exact fun hx => ((hstack x).mp hx).elim (fun e => .inr (e ▸ .refl)) .inl
          · rintro (hx | hx)
            · exact (hstack x).mpr (.inr hx)
            · exact (ht.recStack x).mpr (.inr (hwalk x hx))
      · -- the walk has come to a stale vertex
        have hstale : b ∈ stale := ((ht.recStack b).mp hbstack).resolve_right hbp
        refine .inl ⟨⟨b, hstale, .single hb⟩, .notInList b, ?_⟩
        rw [hdfs, dfsLoop, if_neg (not_not_intro hbv), if_pos hbstack, if_neg hbp]
    · have hcard := card_names_mono (g := g) hstep.mono
      rcases ih ht hbcyclic hbname hbv hlead' (by omega) with
        ⟨⟨y, hy, hwalk⟩, e, he⟩ | ⟨hnone, s', hs', hfound⟩
      · refine .inl ⟨⟨y, hy, (walk_iff_of_lead hb).mpr (.inr hwalk)⟩, e, ?_⟩
        rw [hdfs, dfsLoop, if_pos hbv, he]
      · refine .inr ⟨fun y hy hw => ?_, s', ?_, ?_⟩
        · rcases (walk_iff_of_lead hb).mp hw with rfl | hw
          · exact henter.fresh y (List.mem_append_right _ List.mem_cons_self) hy
          · exact hnone y hy hw
        · rw [hdfs, dfsLoop, if_pos hbv, hs']
        · obtain ⟨c, hc, hcycle⟩ := hfound.cycles
          refine ⟨hmono.trans hfound.mono, hfound.subset, hfound.stack, fun x => ?_, c, ?_, hcycle⟩
          · rw [hfound.recStack, hstack, walk_iff_of_lead hb]
            tauto
          · rw [hc, hstep.cycles]
            rfl

/-! ## One search after the other -/

/-- The walk from a service does not come to the walk of an earlier one, unless
the service is on such a walk itself. -/
def Apart (g : DependencyGraph Name) (earlier : List Name) (w : Name) : Prop :=
  (∃ u ∈ earlier, Walk g.successors u w) ∨
    ∀ v ∈ earlier, ∀ x, Walk g.successors w x → ¬ Walk g.successors v x

/-- What the searches from some services leave. -/
structure Searched (g : DependencyGraph Name) (done : List Name) (s : DfsState Name) : Prop where
  visited : ∀ v ∈ done, v ∈ s.visited
  subset : s.recStack ⊆ s.visited
  stack : ∀ x ∈ s.visited, Cyclic g.successors x → x ∈ s.recStack
  recStack : ∀ x, x ∈ s.recStack ↔ ∃ v ∈ done, Cyclic g.successors v ∧ Walk g.successors v x
  cycles : ∀ c ∈ s.cycles, g.IsCycle c
  found : s.cycles ≠ [] ↔ ∃ v ∈ done, Cyclic g.successors v

variable {done : List Name} {w : Name}

theorem Searched.cyclic (h : Searched g done s) {x : Name} (hx : x ∈ s.recStack) :
    Cyclic g.successors x := by
  obtain ⟨v, _, hv, hwalk⟩ := (h.recStack x).mp hx
  exact hwalk.cyclic hv

/-- A walk of itself only is apart from the others. -/
theorem apart_of_not_cyclic (hdead : ¬ Cyclic g.successors w) (hnew : w ∉ done) :
    g.Apart done w := by
  refine .inr fun v hv x hwx hvx => ?_
  rw [hwx.eq_of_not_cyclic hdead] at hvx
  by_cases hcyclic : Cyclic g.successors v
  · exact hdead (hvx.cyclic hcyclic)
  · exact hnew (hvx.eq_of_not_cyclic hcyclic ▸ hv)

theorem Searched.apart_iff (h : Searched g done s) (hcyclic : Cyclic g.successors w)
    (hnot : w ∉ s.visited) :
    g.Apart done w ↔ ∀ y ∈ s.recStack, ¬ Walk g.successors w y := by
  constructor
  · rintro (⟨u, hu, huw⟩ | hnone) y hy hwy
    · by_cases hucyclic : Cyclic g.successors u
      · exact hnot (h.subset ((h.recStack w).mpr ⟨u, hu, hucyclic, huw⟩))
      · exact hnot (huw.eq_of_not_cyclic hucyclic ▸ h.visited u hu)
    · obtain ⟨v, hv, _, hvy⟩ := (h.recStack y).mp hy
      exact hnone v hv y hwy hvy
  · intro hnone
    refine .inr fun v hv x hwx hvx => ?_
    by_cases hvcyclic : Cyclic g.successors v
    · exact hnone x ((h.recStack x).mpr ⟨v, hv, hvcyclic, hvx⟩) hwx
    · exact hvcyclic (hvx.eq_of_not_cyclic hvcyclic ▸ hwx.cyclic hcyclic)

/-- A service that adds no walk. -/
theorem Searched.concat (h : Searched g done s) (hmono : s.visited ⊆ s'.visited)
    (hdead : ∀ x ∈ s'.visited, x ∈ s.visited ∨ ¬ Cyclic g.successors x)
    (hstack : s'.recStack = s.recStack) (hcycles : s'.cycles = s.cycles) (hw : w ∈ s'.visited)
    (hwalk : Cyclic g.successors w → w ∈ s.recStack) : Searched g (done ++ [w]) s' where
  visited v hv := by
    rcases List.mem_append.mp hv with hv | hv
    · exact hmono (h.visited v hv)
    · exact List.mem_singleton.mp hv ▸ hw
  subset := by
    rw [hstack]
    exact h.subset.trans hmono
  stack x hx hcyclic := by
    rw [hstack]
    exact h.stack x ((hdead x hx).resolve_right (not_not_intro hcyclic)) hcyclic
  recStack x := by
    rw [hstack, h.recStack]
    constructor
    · rintro ⟨v, hv, hcyclic, hvx⟩
      exact ⟨v, List.mem_append_left _ hv, hcyclic, hvx⟩
    · rintro ⟨v, hv, hcyclic, hvx⟩
      rcases List.mem_append.mp hv with hv | hv
      · exact ⟨v, hv, hcyclic, hvx⟩
      · rw [List.mem_singleton.mp hv] at hcyclic hvx
        obtain ⟨u, hu, hucyclic, huw⟩ := (h.recStack w).mp (hwalk hcyclic)
        exact ⟨u, hu, hucyclic, huw.trans hvx⟩
  cycles c hc := h.cycles c (hcycles ▸ hc)
  found := by
    rw [hcycles, h.found]
    constructor
    · rintro ⟨v, hv, hcyclic⟩
      exact ⟨v, List.mem_append_left _ hv, hcyclic⟩
    · rintro ⟨v, hv, hcyclic⟩
      rcases List.mem_append.mp hv with hv | hv
      · exact ⟨v, hv, hcyclic⟩
      · rw [List.mem_singleton.mp hv] at hcyclic
        obtain ⟨u, hu, hucyclic, _⟩ := (h.recStack w).mp (hwalk hcyclic)
        exact ⟨u, hu, hucyclic⟩

/-- A service that adds its walk and a cycle. -/
theorem Searched.found_concat (h : Searched g done s) (hcyclic : Cyclic g.successors w)
    {s₀ : DfsState Name} (hs₀ : s₀ = { s with path := [] }) (hfound : Found g s₀ w s') :
    Searched g (done ++ [w]) s' := by
  subst hs₀
  obtain ⟨hmono, hsubset, hstack, hrec, c, hc, hcycle⟩ := hfound
  have hw : w ∈ s'.recStack := (hrec w).mpr (.inr .refl)
  refine ⟨fun v hv => ?_, hsubset, hstack, fun x => ?_, fun c' hc' => ?_, ?_⟩
  · rcases List.mem_append.mp hv with hv | hv
    · exact hmono (h.visited v hv)
    · exact List.mem_singleton.mp hv ▸ hsubset hw
  · rw [hrec, show ({ s with path := [] } : DfsState Name).recStack = s.recStack from rfl,
      h.recStack]
    constructor
    · rintro (⟨v, hv, hvcyclic, hvx⟩ | hwx)
      · exact ⟨v, List.mem_append_left _ hv, hvcyclic, hvx⟩
      · exact ⟨w, List.mem_append_right _ List.mem_cons_self, hcyclic, hwx⟩
    · rintro ⟨v, hv, hvcyclic, hvx⟩
      rcases List.mem_append.mp hv with hv | hv
      · exact .inl ⟨v, hv, hvcyclic, hvx⟩
      · exact .inr (List.mem_singleton.mp hv ▸ hvx)
  · rw [hc] at hc'
    rcases List.mem_append.mp hc' with hc' | hc'
    · exact h.cycles c' hc'
    · exact List.mem_singleton.mp hc' ▸ hcycle
  · refine iff_of_true ?_ ⟨w, List.mem_append_right _ List.mem_cons_self, hcyclic⟩
    rw [hc]
    simp

/-- The search from one service: it is apart from the earlier ones, or the search
raises. -/
theorem searched_step (h : Searched g done s) (hname : w ∈ g.names) (hnew : w ∉ done)
    (hnot : w ∉ s.visited) {fuel : Nat} (hfuel : g.names.card ≤ fuel) :
    (¬ g.Apart done w ∧ ∃ e, dfs g fuel w { s with path := [] } = some (.error e)) ∨
      g.Apart done w ∧ ∃ b s', dfs g fuel w { s with path := [] } = some (.ok (b, s')) ∧
        Searched g (done ++ [w]) s' := by
  have hcard : (g.names \ s.visited).card ≤ fuel :=
    (Finset.card_le_card Finset.sdiff_subset).trans hfuel
  by_cases hcyclic : Cyclic g.successors w
  · have hfollow : Following g s.recStack { s with path := [] } :=
      ⟨fun x => by simp, by simp, h.subset, fun x hx => h.cyclic hx, h.stack, .nil⟩
    rw [h.apart_iff hcyclic hnot]
    rcases dfs_cyclic hfollow hcyclic hname hnot (by simp) hcard with
      ⟨⟨y, hy, hwalk⟩, he⟩ | ⟨hnone, s', hs', hfound⟩
    · exact .inl ⟨fun hall => hall y hy hwalk, he⟩
    · exact .inr ⟨hnone, true, s', hs', h.found_concat hcyclic rfl hfound⟩
  · have habove : StackAbove g { s with path := [] } w :=
      fun r hr hrdead => absurd (h.cyclic hr) hrdead
    obtain ⟨s', hs', hstep, hw⟩ :=
      dfs_dead (s := { s with path := [] }) hcyclic hname hnot h.subset habove hcard
    refine .inr ⟨apart_of_not_cyclic hcyclic hnew, false, s', hs', ?_⟩
    exact h.concat hstep.mono hstep.dead hstep.recStack hstep.cycles hw fun hl => absurd hl hcyclic

/-- The services of a list are apart, one after the other. -/
def AllApart (g : DependencyGraph Name) : List Name → List Name → Prop
  | _, [] => True
  | done, w :: nodes => g.Apart done w ∧ AllApart g (done ++ [w]) nodes

theorem allApart_iff {nodes : List Name} : g.AllApart done nodes ↔
    ∀ earlier w later, nodes = earlier ++ w :: later → g.Apart (done ++ earlier) w := by
  induction nodes generalizing done with
  | nil => simp [AllApart]
  | cons n nodes ih =>
    rw [AllApart, ih]
    constructor
    · rintro ⟨hn, hall⟩ earlier w later heq
      cases earlier with
      | nil =>
        obtain ⟨rfl, -⟩ := List.cons.inj heq
        rwa [List.append_nil]
      | cons e earlier =>
        obtain ⟨rfl, htail⟩ := List.cons.inj heq
        have hw := hall earlier w later htail
        rwa [List.append_assoc] at hw
    · intro hall
      refine ⟨?_, fun earlier w later heq => ?_⟩
      · have hn := hall [] n nodes rfl
        rwa [List.append_nil] at hn
      · have hw := hall (n :: earlier) w later (by rw [heq]; rfl)
        rwa [List.append_assoc]

/-- The loop over the services raises unless they are apart, and otherwise has
searched them all. -/
theorem detectLoop_spec {fuel : Nat} (hfuel : g.names.card ≤ fuel) {nodes : List Name}
    (h : Searched g done s) (hnames : ∀ n ∈ nodes, n ∈ g.names)
    (hnodup : (done ++ nodes).Nodup) :
    (¬ g.AllApart done nodes ∧ ∃ e, detectLoop g fuel nodes s = some (.error e)) ∨
      g.AllApart done nodes ∧ ∃ s', detectLoop g fuel nodes s = some (.ok s') ∧
        Searched g (done ++ nodes) s' := by
  induction nodes generalizing done s with
  | nil => exact .inr ⟨trivial, s, rfl, by rwa [List.append_nil]⟩
  | cons w nodes ih =>
    have hnew : w ∉ done := by
      intro hw
      exact (List.nodup_append.mp hnodup).2.2 w hw w List.mem_cons_self rfl
    have hnames' : ∀ n ∈ nodes, n ∈ g.names := fun n hn => hnames n (List.mem_cons_of_mem w hn)
    rw [List.append_cons] at hnodup ⊢
    rw [AllApart, detectLoop]
    by_cases hw : w ∈ s.visited
    · have hstack : Cyclic g.successors w → w ∈ s.recStack := h.stack w hw
      have hapart : g.Apart done w := by
        by_cases hcyclic : Cyclic g.successors w
        · obtain ⟨u, hu, _, huw⟩ := (h.recStack w).mp (hstack hcyclic)
          exact .inl ⟨u, hu, huw⟩
        · exact apart_of_not_cyclic hcyclic hnew
      have hnext := h.concat (subset_refl _) (fun x hx => .inl hx) rfl rfl hw hstack
      rw [if_pos hw, and_iff_right hapart]
      exact ih hnext hnames' hnodup
    · rw [if_neg hw]
      rcases searched_step h (hnames w List.mem_cons_self) hnew hw hfuel with
        ⟨hapart, e, he⟩ | ⟨hapart, b, s', hs', hnext⟩
      · exact .inl ⟨fun hall => hapart hall.1, e, by rw [he]⟩
      · rw [hs', and_iff_right hapart]
        exact ih hnext hnames' hnodup

/-- What the detection should answer: cycles of the graph, and at least one when
there is one. -/
def IsDetection (g : DependencyGraph Name) (cycles : List (List Name)) : Prop :=
  (∀ c ∈ cycles, g.IsCycle c) ∧ (cycles ≠ [] ↔ ∃ x, Relation.TransGen g.Depends x x)

/-- The detection is right exactly when, of the walks from the services to their
first dependency with a cycle above it and so on, none comes to an earlier one
that does not go through its service. -/
theorem detectCircularDependencies_iff (g : DependencyGraph Name) (fuel : Nat)
    (hfuel : g.names.card ≤ fuel) :
    (∃ cycles, detectCircularDependencies fuel g = some (.ok cycles) ∧ g.IsDetection cycles) ↔
      ∀ earlier w later, g.nodes.keys = earlier ++ w :: later → g.Apart earlier w := by
  have hstart : Searched g [] (⟨∅, ∅, [], []⟩ : DfsState Name) :=
    ⟨by simp, by simp, by simp, by simp, by simp, by simp⟩
  have hnames : ∀ n ∈ g.nodes.keys, n ∈ g.names := by
    intro n hn
    obtain ⟨node, hnode⟩ := Dict.mem_keys.mp hn
    rw [names, List.mem_toFinset, List.mem_flatMap]
    exact ⟨_, Dict.get?_eq_some.mp hnode, List.mem_cons_self⟩
  have hspec := detectLoop_spec hfuel hstart hnames g.nodes.nodup_keys
  rw [allApart_iff] at hspec
  simp only [List.nil_append] at hspec
  rw [detectCircularDependencies]
  rcases hspec with ⟨hapart, e, he⟩ | ⟨hapart, s', hs', hsearched⟩
  · rw [he]
    refine iff_of_false ?_ hapart
    rintro ⟨cycles, heq, _⟩
    cases heq
  · rw [hs']
    refine iff_of_true ⟨s'.cycles, rfl, hsearched.cycles, ?_⟩ hapart
    rw [hsearched.found]
    constructor
    · rintro ⟨v, _, c, _, hc⟩
      exact ⟨c, hc⟩
    · rintro ⟨x, hx⟩
      obtain ⟨y, hxy, _⟩ := Relation.TransGen.head'_iff.mp hx
      exact ⟨x, Depends.mem_nodes hxy, cyclic_of_cycle hx⟩

/-- Services with their dependencies, added one after the other. -/
def ofServices (services : List (String × List String)) : DependencyGraph String :=
  services.foldl (fun g s => g.addService
    { name := s.1, dependencies := Dict.ofList (s.2.map fun d => (d, .sync)) }) .empty

theorem detectCircularDependencies_iff_two :
    (∃ cycles, detectCircularDependencies 3
        (ofServices [("order", ["db", "payment"]), ("payment", ["order"])]) = some (.ok cycles) ∧
      (ofServices [("order", ["db", "payment"]), ("payment", ["order"])]).IsDetection cycles) ↔
      ∀ earlier w later,
        (ofServices [("order", ["db", "payment"]), ("payment", ["order"])]).nodes.keys =
          earlier ++ w :: later →
            (ofServices [("order", ["db", "payment"]), ("payment", ["order"])]).Apart earlier w :=
  detectCircularDependencies_iff
    (ofServices [("order", ["db", "payment"]), ("payment", ["order"])]) 3 (by decide)

/-- The search from `c` comes to `a`, which the search from `a` left on the stack,
and raises. -/
theorem detectCircularDependencies_stale :
    detectCircularDependencies 3 (ofServices [("a", ["b"]), ("b", ["a"]), ("c", ["a"])]) =
        some (.error (.notInList "a")) ∧
      ¬ ∃ cycles, detectCircularDependencies 3
        (ofServices [("a", ["b"]), ("b", ["a"]), ("c", ["a"])]) = some (.ok cycles) := by
  have hrun : detectCircularDependencies 3 (ofServices [("a", ["b"]), ("b", ["a"]), ("c", ["a"])]) =
      some (.error (.notInList "a")) := by decide
  refine ⟨hrun, ?_⟩
  rintro ⟨cycles, heq⟩
  rw [hrun] at heq
  cases heq

example : detectCircularDependencies 3
    (ofServices [("order", ["db", "payment"]), ("payment", ["order"])]) =
      some (.ok [["order", "payment", "order"]]) := by decide

end DependencyGraph

end Shopping
