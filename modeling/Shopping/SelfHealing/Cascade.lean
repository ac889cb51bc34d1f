import Mathlib.Data.Finset.Sort
import Mathlib.Data.List.Sort
import Mathlib.Data.String.Basic
import Mathlib.Order.WellFoundedSet
import Shopping.Lib.Search
import Shopping.SelfHealing.Graph

/-!
# `analyze_cascade`

The affected services are what a breadth-first search over the dependents
finds.  The recovery order takes the remaining service with the fewest
dependencies that remain, again and again.  Without a cycle there is always one
with none, so a service comes after its dependencies.

Python iterates over a set in any order.  `SetOrder` is the order of each set
that the analysis goes through, and every result is for all of them.
-/

namespace Shopping

/-- The sets that the analysis goes through. -/
inductive SetObject (Name : Type) where
  | dependents (serviceName : Name)
  | visited
  | remaining

/-- An order in which the members of the sets come. -/
structure SetOrder (Name : Type) where
  list : SetObject Name → Finset Name → List Name
  nodup : ∀ o s, (list o s).Nodup
  mem : ∀ o s a, a ∈ list o s ↔ a ∈ s

/-- `CascadeAnalysis`, without the score. -/
structure CascadeAnalysis (Name : Type) where
  failedService : Name
  directlyAffected : List Name
  indirectlyAffected : List Name
  totalBlastRadius : Nat
  criticalServicesAffected : List Name
  suggestedIsolation : List String
  recoveryOrder : List Name

namespace DependencyGraph

variable {Name : Type} [DecidableEq Name]

/-- The suggestions of `_generate_isolation_suggestions` for one service. -/
def isolationSuggestions [ToString Name] (g : DependencyGraph Name) (failedService service : Name) :
    List String :=
  match g.nodes.get? service with
  | none => []
  | some node =>
    let depType := (node.dependencies.get? failedService).getD .sync
    (if node.circuitBreakerEnabled then
      ["🔌 Circuit Breaker: " ++ toString service ++ " → " ++ toString failedService ++ " 차단"]
      else []) ++
    (if node.fallbackService ≠ "" then
      ["🔄 Fallback: " ++ toString service ++ " → " ++ node.fallbackService] else []) ++
    (if depType = .sync then
      ["⚠️ SYNC 의존: " ++ toString service ++ "의 " ++ toString failedService ++
        " 호출을 ASYNC로 변경 검토"] else []) ++
    (if depType = .cache then
      ["💾 Cache: " ++ toString service ++ "는 캐시 폴백으로 일시적 서비스 가능"] else [])

/-! ## The recovery order -/

/-- `tier_weight`. -/
def tierWeight : ServiceTier → Nat
  | .critical => 0
  | .standard => 1
  | .nonCritical => 2

/-- How many other services that remain a service depends on. -/
def activeDeps (node : ServiceNode Name) (service : Name) (remaining : Finset Name) : Nat :=
  (node.dependencies.keys.filter fun d => d ∈ remaining ∧ d ≠ service).length

/-- `(service, active_deps, tier_weight)`. -/
structure Candidate (Name : Type) where
  service : Name
  activeDeps : Nat
  tierWeight : Nat

/-- `candidates`. -/
def candidates (g : DependencyGraph Name) (order : SetOrder Name) (remaining : Finset Name) :
    List (Candidate Name) :=
  (order.list .remaining remaining).filterMap fun service =>
    (g.nodes.get? service).map fun node =>
      ⟨service, activeDeps node service remaining, tierWeight node.tier⟩

/-- `key=lambda x: (x[1], x[2])`: `a` need not come after `b`. -/
def Candidate.Le (a b : Candidate Name) : Prop :=
  a.activeDeps < b.activeDeps ∨ a.activeDeps = b.activeDeps ∧ a.tierWeight ≤ b.tierWeight

instance (a b : Candidate Name) : Decidable (a.Le b) :=
  inferInstanceAs (Decidable (_ ∨ _ ∧ _))

/-- The loop of `_calculate_recovery_order`; `none` is out of fuel. -/
def recover (g : DependencyGraph Name) (order : SetOrder Name) :
    Nat → List Name → Finset Name → Option (List Name)
  | 0, _, _ => none
  | fuel + 1, done, remaining =>
    if remaining = ∅ then some done
    else
      match (g.candidates order remaining).insertionSort Candidate.Le with
      | [] => some (done ++ order.list .remaining remaining)
      | next :: _ =>
        recover g order fuel (done ++ [next.service]) (remaining.erase next.service)

/-- `_calculate_recovery_order`. -/
def calculateRecoveryOrder (fuel : Nat) (g : DependencyGraph Name) (order : SetOrder Name)
    (failedService : Name) (affected : Finset Name) : Option (List Name) :=
  recover g order fuel [failedService] (affected.erase failedService)

/-- Every service comes after its dependencies. -/
def DependenciesFirst (g : DependencyGraph Name) (l : List Name) : Prop :=
  ∀ before x after, l = before ++ x :: after → ∀ d ∈ l, g.Depends x d → d ∈ before

/-- No service is above itself. -/
def Acyclic (g : DependencyGraph Name) : Prop := ∀ x, ¬ Relation.TransGen g.Depends x x

variable {g : DependencyGraph Name} {order : SetOrder Name}

theorem dependenciesFirst_nil : g.DependenciesFirst [] := by
  intro before x after h
  simp at h

/-- A service that depends on none of the others may come first. -/
theorem DependenciesFirst.cons {c : Name} {l : List Name} (h : g.DependenciesFirst l)
    (hc : ∀ d ∈ c :: l, ¬ g.Depends c d) : g.DependenciesFirst (c :: l) := by
  intro before x after heq d hd hdep
  cases before with
  | nil =>
    obtain ⟨rfl, -⟩ := List.cons.inj heq
    exact absurd hdep (hc d hd)
  | cons b before =>
    obtain ⟨rfl, hl⟩ := List.cons.inj heq
    rcases List.mem_cons.mp hd with rfl | hd
    · exact List.mem_cons_self
    · exact List.mem_cons_of_mem _ (h before x after hl d hd hdep)

theorem not_depends_of_activeDeps {node : ServiceNode Name} {service : Name}
    {remaining : Finset Name} (hnode : g.nodes.get? service = some node) :
    activeDeps node service remaining = 0 ↔
      ∀ d ∈ remaining, d ≠ service → ¬ g.Depends service d := by
  rw [activeDeps, List.length_eq_zero_iff, List.filter_eq_nil_iff]
  have hdep : ∀ d, g.Depends service d ↔ d ∈ node.dependencies.keys := by
    intro d
    rw [Depends, getDependencies, hnode]
  simp only [hdep, decide_eq_true_eq, not_and, not_not]
  constructor
  · exact fun h d hd hne hmem => hne (h d hmem hd)
  · exact fun h d hmem hd => by_contra fun hne => h d hd hne hmem

theorem mem_candidates {remaining : Finset Name} {c : Candidate Name} :
    c ∈ g.candidates order remaining ↔ c.service ∈ remaining ∧
      ∃ node, g.nodes.get? c.service = some node ∧
        c = ⟨c.service, activeDeps node c.service remaining, tierWeight node.tier⟩ := by
  rw [candidates, List.mem_filterMap]
  constructor
  · rintro ⟨service, hmem, hnode⟩
    obtain ⟨node, hget, rfl⟩ := Option.map_eq_some_iff.mp hnode
    exact ⟨(order.mem _ _ _).mp hmem, node, hget, rfl⟩
  · rintro ⟨hmem, node, hnode, hc⟩
    exact ⟨c.service, (order.mem _ _ _).mpr hmem, by rw [hnode, Option.map_some, ← hc]⟩

instance : Std.Total (Candidate.Le : Candidate Name → Candidate Name → Prop) :=
  ⟨fun a b => by unfold Candidate.Le; omega⟩

instance : IsTrans (Candidate Name) Candidate.Le :=
  ⟨fun a b c hab hbc => by unfold Candidate.Le at *; omega⟩

/-- Without a cycle a service of the remaining ones depends on none of them. -/
theorem exists_ready (hacyclic : g.Acyclic) {remaining : Finset Name} (hne : remaining.Nonempty) :
    ∃ a ∈ remaining, ∀ b ∈ remaining, ¬ g.Depends a b := by
  have hstrict : IsStrictOrder Name fun a b => Relation.TransGen g.Depends b a :=
    { irrefl := hacyclic, trans := fun _ _ _ hab hbc => hbc.trans hab }
  have hwf := remaining.finite_toSet.wellFoundedOn
    (r := fun a b => Relation.TransGen g.Depends b a)
  obtain ⟨a, -, hmin⟩ := hwf.has_min Set.univ ⟨⟨hne.choose, hne.choose_spec⟩, trivial⟩
  exact ⟨a.1, a.2, fun b hb hab => hmin ⟨b, hb⟩ trivial (.single hab)⟩

/-- The first candidate has the fewest dependencies that remain, so without a
cycle it has none. -/
theorem next_ready (hacyclic : g.Acyclic) {remaining : Finset Name}
    (hnodes : ∀ a ∈ remaining, a ∈ g.nodes.keys) {next : Candidate Name}
    {rest : List (Candidate Name)}
    (hnext : (g.candidates order remaining).insertionSort Candidate.Le = next :: rest) :
    ∀ d ∈ remaining, ¬ g.Depends next.service d := by
  have hmem : next ∈ g.candidates order remaining :=
    (List.mem_insertionSort Candidate.Le).mp (hnext ▸ List.mem_cons_self)
  obtain ⟨hnextMem, node, hnode, hnextEq⟩ := mem_candidates.mp hmem
  obtain ⟨a, ha, hready⟩ := exists_ready hacyclic ⟨_, hnextMem⟩
  obtain ⟨nodeA, hnodeA⟩ := Dict.mem_keys.mp (hnodes a ha)
  have hzeroA : activeDeps nodeA a remaining = 0 :=
    (not_depends_of_activeDeps hnodeA).mpr fun d hd _ => hready d hd
  have hmemA : (⟨a, activeDeps nodeA a remaining, tierWeight nodeA.tier⟩ : Candidate Name) ∈
      next :: rest := by
    rw [← hnext, List.mem_insertionSort]
    exact mem_candidates.mpr ⟨ha, nodeA, hnodeA, rfl⟩
  have hsorted : (next :: rest).Pairwise Candidate.Le :=
    hnext ▸ List.pairwise_insertionSort Candidate.Le _
  have hzero : next.activeDeps = 0 := by
    rcases List.mem_cons.mp hmemA with heq | hmemA
    · rw [← heq]
      exact hzeroA
    · have hle := (List.pairwise_cons.mp hsorted).1 _ hmemA
      simp only [Candidate.Le, hzeroA] at hle
      omega
  intro d hd hdep
  by_cases hself : d = next.service
  · exact hacyclic _ (.single (hself ▸ hdep))
  · rw [hnextEq] at hzero
    exact (not_depends_of_activeDeps hnode).mp hzero d hd hself hdep

/-- The loop adds each remaining service once, and without a cycle it adds a
service after its dependencies. -/
theorem recover_spec (order : SetOrder Name) {fuel : Nat} (done : List Name)
    {remaining : Finset Name} (hfuel : remaining.card < fuel) :
    ∃ rest, g.recover order fuel done remaining = some (done ++ rest) ∧ rest.Nodup ∧
      (∀ a, a ∈ rest ↔ a ∈ remaining) ∧
      (g.Acyclic → (∀ a ∈ remaining, a ∈ g.nodes.keys) → g.DependenciesFirst rest) := by
  induction fuel generalizing done remaining with
  | zero => omega
  | succ fuel ih =>
    rw [recover]
    by_cases hempty : remaining = ∅
    · rw [if_pos hempty]
      refine ⟨[], by rw [List.append_nil], List.nodup_nil, fun a => ?_,
        fun _ _ => dependenciesFirst_nil⟩
      simp [hempty]
    · rw [if_neg hempty]
      cases hnext : (g.candidates order remaining).insertionSort Candidate.Le with
      | nil =>
        refine ⟨_, rfl, order.nodup _ _, fun a => order.mem _ _ a, fun _ hnodes => ?_⟩
        -- a service that remains is a candidate
        obtain ⟨a, ha⟩ := Finset.nonempty_iff_ne_empty.mpr hempty
        obtain ⟨node, hnode⟩ := Dict.mem_keys.mp (hnodes a ha)
        have hmem : (⟨a, activeDeps node a remaining, tierWeight node.tier⟩ : Candidate Name) ∈
            (g.candidates order remaining).insertionSort Candidate.Le :=
          (List.mem_insertionSort _).mpr (mem_candidates.mpr ⟨ha, node, hnode, rfl⟩)
        rw [hnext] at hmem
        exact absurd hmem List.not_mem_nil
      | cons next tail =>
        have hmem : next.service ∈ remaining :=
          (mem_candidates.mp ((List.mem_insertionSort Candidate.Le).mp
            (hnext ▸ List.mem_cons_self))).1
        have hcard := Finset.card_erase_lt_of_mem hmem
        obtain ⟨rest, hrest, hnodup, hall, hfirst⟩ :=
          @ih (done ++ [next.service]) (remaining.erase next.service) (by omega)
        have hall' : ∀ a, a ∈ next.service :: rest ↔ a ∈ remaining := by
          intro a
          rw [List.mem_cons, hall, Finset.mem_erase]
          by_cases ha : a = next.service
          · exact iff_of_true (.inl ha) (ha ▸ hmem)
          · exact ⟨fun h => (h.resolve_left ha).2, fun h => .inr ⟨ha, h⟩⟩
        refine ⟨next.service :: rest, ?_, ?_, hall', fun hacyclic hnodes => ?_⟩
        · simp only [hrest, List.append_assoc, List.singleton_append]
        · refine List.nodup_cons.mpr ⟨fun h => ?_, hnodup⟩
          exact (Finset.mem_erase.mp ((hall _).mp h)).1 rfl
        · refine (hfirst hacyclic fun a ha => hnodes a (Finset.mem_of_mem_erase ha)).cons ?_
          exact fun d hd => next_ready hacyclic hnodes hnext d ((hall' d).mp hd)

/-! ## The analysis -/

/-- The dependents of a service, in the order of the set. -/
def dependentsList (g : DependencyGraph Name) (order : SetOrder Name) (service : Name) :
    List Name :=
  order.list (.dependents service) (g.getDependents service)

/-- `s in self.nodes and self.nodes[s].tier == ServiceTier.CRITICAL`. -/
def isCritical (g : DependencyGraph Name) (service : Name) : Bool :=
  match g.nodes.get? service with
  | some node => decide (node.tier = .critical)
  | none => false

/-- `analyze_cascade`; `none` is out of fuel. -/
def analyzeCascade [ToString Name] (fuel : Nat) (g : DependencyGraph Name) (order : SetOrder Name)
    (failedService : Name) : Option (CascadeAnalysis Name) :=
  if failedService ∉ g.nodes.keys then some ⟨failedService, [], [], 0, [], [], []⟩
  else do
    let direct := g.dependentsList order failedService
    let found ← Frontier.search (g.dependentsList order) fuel
      { visited := {failedService} ∪ direct.toFinset, found := [], queue := direct }
    let recovery ← calculateRecoveryOrder fuel g order failedService found.visited
    return {
      failedService := failedService
      directlyAffected := direct
      indirectlyAffected := found.found
      totalBlastRadius := found.visited.card
      criticalServicesAffected := (order.list .visited found.visited).filter g.isCritical
      suggestedIsolation := direct.flatMap (g.isolationSuggestions failedService)
      recoveryOrder := recovery }

/-- The dependents in the order of the set are the services that depend on a
name. -/
theorem mem_dependentsList (h : g.Reversed) {service x : Name} :
    x ∈ g.dependentsList order service ↔ g.Depends x service := by
  rw [dependentsList, order.mem, h]

/-- `x` needs `s`: a chain of dependencies goes from `x` to `s`. -/
def Needs (g : DependencyGraph Name) : Name → Name → Prop := Relation.ReflTransGen g.Depends

theorem reach_dependentsList (h : g.Reversed) {s x : Name} :
    Frontier.Reach (g.dependentsList order) s x ↔ g.Needs x s := by
  have hstep : (fun a b => b ∈ g.dependentsList order a) = Function.swap g.Depends := by
    funext a b
    exact propext (mem_dependentsList h)
  rw [Frontier.Reach, hstep, Needs, Relation.reflTransGen_swap]

/-- A service that needs another one is in the graph. -/
theorem Needs.mem_nodes {x s : Name} (h : g.Needs x s) (hs : s ∈ g.nodes.keys) :
    x ∈ g.nodes.keys := by
  induction h using Relation.ReflTransGen.head_induction_on with
  | refl => exact hs
  | head hstep _ _ => exact hstep.mem_nodes

/-- The search of the analysis finds the services that need the failed one. -/
theorem search_dependents (order : SetOrder Name) (h : g.Reversed) {s : Name}
    (hs : s ∈ g.nodes.keys) {fuel : Nat} (hfuel : g.nodes.keys.length < fuel) :
    ∃ new, Frontier.search (g.dependentsList order) fuel
        ⟨{s} ∪ (g.dependentsList order s).toFinset, [], g.dependentsList order s⟩ =
          some ⟨({s} ∪ (g.dependentsList order s).toFinset) ∪ new.toFinset, new, []⟩ ∧
      new.Nodup ∧ (∀ x ∈ new, x ≠ s ∧ ¬ g.Depends x s) ∧
      ∀ x, x = s ∨ g.Depends x s ∨ x ∈ new ↔ g.Needs x s := by
  set direct := g.dependentsList order s with hdirect
  have hnodup : direct.Nodup := order.nodup _ _
  have hmem : ∀ x, x ∈ ({s} : Finset Name) ∪ direct.toFinset ↔ x = s ∨ g.Depends x s := by
    intro x
    rw [Finset.mem_union, Finset.mem_singleton, List.mem_toFinset, hdirect, mem_dependentsList h]
  have hU : ∀ a, ∀ b ∈ g.dependentsList order a, b ∈ g.nodes.keys.toFinset := by
    intro a b hb
    exact List.mem_toFinset.mpr ((mem_dependentsList h).mp hb).mem_nodes
  have hcard : direct.length + (g.nodes.keys.toFinset \ ({s} ∪ direct.toFinset)).card < fuel := by
    have hsub : direct.toFinset ⊆ g.nodes.keys.toFinset :=
      fun b hb => hU s b (List.mem_toFinset.mp hb)
    have hless : (g.nodes.keys.toFinset \ ({s} ∪ direct.toFinset)).card ≤
        (g.nodes.keys.toFinset \ direct.toFinset).card :=
      Finset.card_le_card (Finset.sdiff_subset_sdiff (subset_refl _) Finset.subset_union_right)
    rw [Finset.card_sdiff_of_subset hsub, List.toFinset_card_of_nodup g.nodes.nodup_keys,
      List.toFinset_card_of_nodup hnodup] at hless
    have hle := Finset.card_le_card hsub
    rw [List.toFinset_card_of_nodup g.nodes.nodup_keys, List.toFinset_card_of_nodup hnodup] at hle
    omega
  have hclosed : ∀ a ∈ ({s} : Finset Name) ∪ direct.toFinset, a ∉ direct →
      ∀ b ∈ g.dependentsList order a, b ∈ ({s} : Finset Name) ∪ direct.toFinset := by
    intro a ha hout b hb
    rcases Finset.mem_union.mp ha with ha | ha
    · rw [Finset.mem_singleton.mp ha] at hb
      exact Finset.mem_union_right _ (List.mem_toFinset.mpr hb)
    · exact absurd (List.mem_toFinset.mp ha) hout
  obtain ⟨new, heq, hnew, hfresh, hreach⟩ := Frontier.search_spec
    (f := ⟨{s} ∪ direct.toFinset, [], direct⟩) hU
    (fun a ha => Finset.mem_union_right _ (List.mem_toFinset.mpr ha)) hclosed hcard
  refine ⟨new, heq, hnew, fun x hx => ?_, fun x => ?_⟩
  · have hout := hfresh x hx
    rwa [hmem, not_or] at hout
  · have hx := hreach x
    rw [hmem, or_assoc] at hx
    rw [hx]
    constructor
    · rintro ⟨a, ha, hax⟩
      have hax := (reach_dependentsList h).mp hax
      rcases (hmem a).mp ha with rfl | ha
      · exact hax
      · exact hax.tail ha
    · intro hneeds
      exact ⟨s, (hmem s).mpr (.inl rfl), (reach_dependentsList h).mpr hneeds⟩

variable [ToString Name]

/-- What the analysis of a service of the graph reports. -/
theorem analyzeCascade_spec (order : SetOrder Name) (h : g.Reversed) {s : Name}
    (hs : s ∈ g.nodes.keys) {fuel : Nat} (hfuel : g.nodes.keys.length < fuel) :
    ∃ a rest, analyzeCascade fuel g order s = some a ∧
      a.directlyAffected = g.dependentsList order s ∧ a.indirectlyAffected.Nodup ∧
      (∀ x ∈ a.indirectlyAffected, x ≠ s ∧ ¬ g.Depends x s) ∧
      (∀ x, x = s ∨ g.Depends x s ∨ x ∈ a.indirectlyAffected ↔ g.Needs x s) ∧
      a.recoveryOrder = s :: rest ∧ rest.Nodup ∧ (∀ x, x ∈ rest ↔ x ≠ s ∧ g.Needs x s) ∧
      (g.Acyclic → g.DependenciesFirst (s :: rest)) := by
  obtain ⟨new, hsearch, hnew, hfresh, hneeds⟩ := search_dependents order h hs hfuel
  set visited := ({s} ∪ (g.dependentsList order s).toFinset) ∪ new.toFinset with hvisited
  have hmem : ∀ x, x ∈ visited ↔ g.Needs x s := by
    intro x
    rw [← hneeds, hvisited, Finset.mem_union, Finset.mem_union, Finset.mem_singleton,
      List.mem_toFinset, List.mem_toFinset, mem_dependentsList h, or_assoc]
  have hcard : (visited.erase s).card < fuel := by
    have hsub : visited.erase s ⊆ g.nodes.keys.toFinset := fun x hx =>
      List.mem_toFinset.mpr (((hmem x).mp (Finset.mem_of_mem_erase hx)).mem_nodes hs)
    have hle := Finset.card_le_card hsub
    rw [List.toFinset_card_of_nodup g.nodes.nodup_keys] at hle
    omega
  obtain ⟨rest, hrecover, hnodup, hall, hfirst⟩ :=
    recover_spec (g := g) order [s] hcard
  have hrest : ∀ x, x ∈ rest ↔ x ≠ s ∧ g.Needs x s := by
    intro x
    rw [hall, Finset.mem_erase, hmem]
  have heq : analyzeCascade fuel g order s = some
      { failedService := s
        directlyAffected := g.dependentsList order s
        indirectlyAffected := new
        totalBlastRadius := visited.card
        criticalServicesAffected := (order.list .visited visited).filter g.isCritical
        suggestedIsolation := (g.dependentsList order s).flatMap (g.isolationSuggestions s)
        recoveryOrder := s :: rest } := by
    rw [analyzeCascade, if_neg (not_not_intro hs)]
    simp only [hsearch, calculateRecoveryOrder, hrecover, Option.bind_eq_bind, Option.bind_some,
      List.singleton_append]
    rfl
  refine ⟨_, rest, heq, rfl, hnew, hfresh, hneeds, rfl, hnodup, hrest, fun hacyclic => ?_⟩
  refine (hfirst hacyclic fun a ha => ?_).cons fun d hd hdep => ?_
  · exact ((hmem a).mp (Finset.mem_of_mem_erase ha)).mem_nodes hs
  · have hback : g.Needs d s := by
      rcases List.mem_cons.mp hd with rfl | hd
      · exact .refl
      · exact ((hrest d).mp hd).2
    exact hacyclic s (Relation.TransGen.head' hdep hback)

/-- In a graph that was parsed, without a service that depends on itself, the
analysis reports exactly the other services that need the failed one, each once.
The recovery order goes through them after the failed one, and without a cycle
each service comes after its dependencies. -/
theorem analyzeCascade_exact (unknown : Name) (depsConfig : Dict Name (Option (ServiceConfig Name)))
    (hnames : ∀ e ∈ depsConfig.entries, ∀ config, e.2 = some config → config.name = none)
    (g : DependencyGraph Name) (hparse : parseDnaDependencies unknown depsConfig = .ok g)
    (hself : ∀ x, ¬ g.Depends x x) (order : SetOrder Name) (s : Name) (hs : s ∈ g.nodes.keys)
    (fuel : Nat) (hfuel : g.nodes.keys.length < fuel) :
    ∃ a, analyzeCascade fuel g order s = some a ∧
      (a.directlyAffected ++ a.indirectlyAffected).Nodup ∧
      (∀ x, x ∈ a.directlyAffected ++ a.indirectlyAffected ↔ x ≠ s ∧ g.Needs x s) ∧
      a.recoveryOrder.head? = some s ∧
      a.recoveryOrder.Perm (s :: (a.directlyAffected ++ a.indirectlyAffected)) ∧
      (g.Acyclic → g.DependenciesFirst a.recoveryOrder) := by
  have h : g.Reversed := reversed_of_parse hnames hparse
  obtain ⟨a, rest, ha, hdirect, hindirect, hfresh, hneeds, hrecovery, hnodup, hrest, hfirst⟩ :=
    analyzeCascade_spec order h hs hfuel
  have hmem : ∀ x, x ∈ a.directlyAffected ++ a.indirectlyAffected ↔ x ≠ s ∧ g.Needs x s := by
    intro x
    rw [List.mem_append, hdirect, mem_dependentsList h, ← hneeds]
    constructor
    · rintro (hx | hx)
      · exact ⟨fun e => hself s (e ▸ hx), .inr (.inl hx)⟩
      · exact ⟨(hfresh x hx).1, .inr (.inr hx)⟩
    · rintro ⟨hne, hx⟩
      exact hx.resolve_left hne
  have hall : (a.directlyAffected ++ a.indirectlyAffected).Nodup := by
    rw [List.nodup_append, hdirect]
    refine ⟨order.nodup _ _, hindirect, fun x hx y hy hxy => ?_⟩
    exact (hfresh y hy).2 (hxy ▸ (mem_dependentsList h).mp hx)
  have hhead : a.recoveryOrder.head? = some s := by rw [hrecovery, List.head?_cons]
  refine ⟨a, ha, hall, hmem, hhead, ?_, fun hacyclic => hrecovery ▸ hfirst hacyclic⟩
  rw [hrecovery]
  refine List.Perm.cons s ((List.perm_ext_iff_of_nodup hnodup hall).mpr fun x => ?_)
  rw [hrest, hmem]

/-- An order that goes through every set in the order of the names. -/
def sortedOrder : SetOrder String where
  list _ s := s.sort (· ≤ ·)
  nodup _ s := s.sort_nodup _
  mem _ s _ := s.mem_sort _

/-- An order that depends on a payment, which depends on a database. -/
def paymentConfig : Dict String (Option (ServiceConfig String)) :=
  Dict.ofList [("order", some { dependsOn := [.plain "payment", .plain "db"] }),
    ("payment", some { tier := some "critical", dependsOn := [.entry "db" (some "database")] })]

/-- The graph of `paymentConfig`. -/
def paymentGraph : DependencyGraph String :=
  match parseDnaDependencies "unknown" paymentConfig with
  | .ok g => g
  | .error _ => .empty

theorem analyzeCascade_paymentGraph :
    ∃ a, analyzeCascade 4 paymentGraph sortedOrder "db" = some a ∧
      (a.directlyAffected ++ a.indirectlyAffected).Nodup ∧
      (∀ x, x ∈ a.directlyAffected ++ a.indirectlyAffected ↔
        x ≠ "db" ∧ paymentGraph.Needs x "db") ∧
      a.recoveryOrder.head? = some "db" ∧
      a.recoveryOrder.Perm ("db" :: (a.directlyAffected ++ a.indirectlyAffected)) ∧
      (paymentGraph.Acyclic → paymentGraph.DependenciesFirst a.recoveryOrder) := by
  have hself : ∀ x ∈ paymentGraph.nodes.keys, ¬ paymentGraph.Depends x x := by decide
  exact analyzeCascade_exact "unknown" paymentConfig (by decide) paymentGraph rfl
    (fun x hx => hself x hx.mem_nodes hx) sortedOrder "db" (by decide) 4 (by decide)

end DependencyGraph

end Shopping
