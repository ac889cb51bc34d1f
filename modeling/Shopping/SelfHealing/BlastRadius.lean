import Shopping.SelfHealing.Cascade

/-!
# `BlastRadiusController.analyze_blast_radius`

The controller searches the dependents of a mapping from services to what they
depend on.  `dependency_graph or self.dependencies` takes an empty mapping for
none, and then analyses the configured dependencies.  For every other mapping
the affected services are those of `analyze_cascade` on the graph that
`add_service_from_dict` builds from it.
-/

namespace Shopping

/-- `BlastRadiusController`, with its configured dependencies. -/
structure BlastRadiusController (Name : Type) where
  dependencies : Dict Name (List Name)

namespace BlastRadiusController

/-- `_default_dependencies`. -/
def defaultDependencies : Dict String (List String) :=
  Dict.ofList [("order", ["payment", "inventory", "user", "notification"]),
    ("payment", ["user"]), ("cart", ["product", "user"]),
    ("checkout", ["cart", "payment", "order"]), ("notification", ["user"]), ("analytics", []),
    ("logging", [])]

variable {Name : Type} [DecidableEq Name]

/-- A service is added to the dependents of a name. -/
def addDependent (service : Name) (reverseDeps : Dict Name (List Name)) (dep : Name) :
    Dict Name (List Name) :=
  reverseDeps.set dep ((reverseDeps.get? dep).getD [] ++ [service])

/-- `reverse_deps`. -/
def reverseDeps (deps : Dict Name (List Name)) : Dict Name (List Name) :=
  deps.entries.foldl (fun r e => e.2.foldl (addDependent e.1) r) Dict.empty

/-- `reverse_deps.get(current, [])`. -/
def dependentsOf (deps : Dict Name (List Name)) (current : Name) : List Name :=
  ((reverseDeps deps).get? current).getD []

/-- `_calculate_affected_services`; `none` is out of fuel. -/
def calculateAffectedServices (fuel : Nat) (failedService : Name) (deps : Dict Name (List Name)) :
    Option (List Name) :=
  (Frontier.search (dependentsOf deps) fuel
    ⟨{failedService}, [failedService], [failedService]⟩).map fun f => f.found

/-- `dependency_graph or self.dependencies`. -/
def analysedGraph (controller : BlastRadiusController Name)
    (dependencyGraph : Option (Dict Name (List Name))) : Dict Name (List Name) :=
  match dependencyGraph with
  | none => controller.dependencies
  | some deps => if deps.keys = [] then controller.dependencies else deps

/-- The affected services of `analyze_blast_radius`. -/
def analyzeBlastRadius (fuel : Nat) (controller : BlastRadiusController Name)
    (failedService : Name) (dependencyGraph : Option (Dict Name (List Name))) :
    Option (List Name) :=
  calculateAffectedServices fuel failedService (controller.analysedGraph dependencyGraph)

/-- `x` depends on `d` in a mapping. -/
def MapDepends (deps : Dict Name (List Name)) (x d : Name) : Prop :=
  ∃ l, deps.get? x = some l ∧ d ∈ l

/-- A chain of dependencies of a mapping goes from `x` to `s`. -/
def MapNeeds (deps : Dict Name (List Name)) : Name → Name → Prop :=
  Relation.ReflTransGen (MapDepends deps)

variable {deps : Dict Name (List Name)}

theorem mem_foldl_addDependent (service x d : Name) (l : List Name) (r : Dict Name (List Name)) :
    x ∈ ((l.foldl (addDependent service) r).get? d).getD [] ↔
      x ∈ (r.get? d).getD [] ∨ x = service ∧ d ∈ l := by
  induction l generalizing r with
  | nil => simp
  | cons dep l ih =>
    rw [List.foldl_cons, ih, addDependent, Dict.get?_set]
    by_cases hd : d = dep
    · subst hd
      simp only [if_true, Option.getD_some, List.mem_append, List.mem_cons, true_or,
        and_true]
      tauto
    · simp [hd]

theorem mem_foldl_reverse (x d : Name) (entries : List (Name × List Name))
    (r : Dict Name (List Name)) :
    x ∈ ((entries.foldl (fun r e => e.2.foldl (addDependent e.1) r) r).get? d).getD [] ↔
      x ∈ (r.get? d).getD [] ∨ ∃ l, (x, l) ∈ entries ∧ d ∈ l := by
  induction entries generalizing r with
  | nil => simp
  | cons e entries ih =>
    rw [List.foldl_cons, ih, mem_foldl_addDependent, or_assoc]
    refine or_congr_right ?_
    constructor
    · rintro (⟨rfl, hd⟩ | ⟨l, hl, hd⟩)
      · exact ⟨e.2, List.mem_cons_self, hd⟩
      · exact ⟨l, List.mem_cons_of_mem e hl, hd⟩
    · rintro ⟨l, hl, hd⟩
      rcases List.mem_cons.mp hl with rfl | hl
      · exact .inl ⟨rfl, hd⟩
      · exact .inr ⟨l, hl, hd⟩

/-- The dependents of a name are the services that depend on it. -/
theorem mem_dependentsOf {x d : Name} : x ∈ dependentsOf deps d ↔ MapDepends deps x d := by
  rw [dependentsOf, reverseDeps, mem_foldl_reverse, Dict.get?_empty]
  simp only [Option.getD_none, List.not_mem_nil, false_or, MapDepends, Dict.get?_eq_some]

theorem reach_dependentsOf {x s : Name} :
    Frontier.Reach (dependentsOf deps) s x ↔ MapNeeds deps x s := by
  have hstep : (fun a b => b ∈ dependentsOf deps a) = Function.swap (MapDepends deps) := by
    funext a b
    exact propext mem_dependentsOf
  rw [Frontier.Reach, hstep, MapNeeds, Relation.reflTransGen_swap]

/-- The affected services are those that need the failed one, each once. -/
theorem calculateAffectedServices_spec (deps : Dict Name (List Name)) (s : Name) {fuel : Nat}
    (hfuel : deps.keys.length + 1 < fuel) :
    ∃ l, calculateAffectedServices fuel s deps = some l ∧ l.Nodup ∧
      ∀ x, x ∈ l ↔ MapNeeds deps x s := by
  have hU : ∀ a, ∀ b ∈ dependentsOf deps a, b ∈ deps.keys.toFinset := by
    intro a b hb
    obtain ⟨l, hl, _⟩ := mem_dependentsOf.mp hb
    exact List.mem_toFinset.mpr (Dict.mem_keys.mpr ⟨l, hl⟩)
  have hcard : [s].length + (deps.keys.toFinset \ {s}).card < fuel := by
    have hle := Finset.card_le_card (Finset.sdiff_subset : deps.keys.toFinset \ {s} ⊆ _)
    rw [List.toFinset_card_of_nodup deps.nodup_keys] at hle
    rw [List.length_singleton]
    omega
  obtain ⟨new, heq, hnew, hfresh, hreach⟩ := Frontier.search_spec (f := ⟨{s}, [s], [s]⟩) hU
    (fun a ha => by simpa using ha) (fun a ha hout => absurd (by simpa using ha) hout) hcard
  refine ⟨s :: new, ?_, ?_, fun x => ?_⟩
  · rw [calculateAffectedServices, heq]
    rfl
  · refine List.nodup_cons.mpr ⟨fun hs => hfresh s hs (Finset.mem_singleton_self s), hnew⟩
  · have hx := hreach x
    rw [Finset.mem_singleton] at hx
    rw [List.mem_cons, hx]
    simp [reach_dependentsOf]

end BlastRadiusController

namespace DependencyGraph

variable {Name : Type} [DecidableEq Name]

/-- The services of a mapping, each added by `add_service_from_dict`. -/
def addMapping (unknown : Name) : DependencyGraph Name → List (Name × List Name) →
    Except (GraphError Name) (DependencyGraph Name)
  | g, [] => .ok g
  | g, (service, deps) :: rest => do
    let g ← addServiceFromDict unknown g
      { name := some service, dependsOn := deps.map DependsOn.plain }
    addMapping unknown g rest

/-- Plain names without types are added as they are. -/
theorem addDependencies_plain (deps : List Name) (node : ServiceNode Name) :
    ∃ node', addDependencies .empty node (deps.map DependsOn.plain) = .ok node' ∧
      node'.name = node.name ∧
      ∀ d, d ∈ node'.dependencies.keys ↔ d ∈ node.dependencies.keys ∨ d ∈ deps := by
  induction deps generalizing node with
  | nil => exact ⟨node, rfl, rfl, by simp⟩
  | cons dep deps ih =>
    obtain ⟨node', hadd, hname, hkeys⟩ := ih (addDependency node dep .sync)
    refine ⟨node', hadd, hname, fun d => ?_⟩
    rw [hkeys, addDependency, Dict.mem_keys_set, List.mem_cons]
    tauto

/-- Building the graph of a mapping succeeds, and keeps the two sides in step. -/
theorem addMapping_spec (unknown : Name) {g : DependencyGraph Name} (h : g.Reversed)
    (entries : List (Name × List Name)) (hnodup : (g.nodes.keys ++ entries.map Prod.fst).Nodup) :
    ∃ g', addMapping unknown g entries = .ok g' ∧ g'.Reversed ∧
      g'.nodes.keys = g.nodes.keys ++ entries.map Prod.fst ∧
      ∀ x d, g'.Depends x d ↔ g.Depends x d ∨ ∃ l, (x, l) ∈ entries ∧ d ∈ l := by
  induction entries generalizing g with
  | nil => exact ⟨g, rfl, h, by simp, by simp⟩
  | cons e rest ih =>
    obtain ⟨service, deps⟩ := e
    obtain ⟨node, hnode, hname, hkeys⟩ :=
      addDependencies_plain deps ({ name := service } : ServiceNode Name)
    have hadd : addServiceFromDict unknown g
        { name := some service, dependsOn := deps.map DependsOn.plain } =
          .ok (g.addService node) := by
      have hconfig : nodeOfConfig unknown
          { name := some service, dependsOn := deps.map DependsOn.plain } = .ok node := hnode
      rw [addServiceFromDict, hconfig]
      rfl
    have hfresh : node.name ∉ g.nodes.keys := by
      rw [hname]
      exact fun hmem => (List.nodup_append.mp hnodup).2.2 _ hmem service List.mem_cons_self rfl
    have hnodes : (g.addService node).nodes.keys = g.nodes.keys ++ [service] := by
      rw [addService, Dict.keys_set, if_neg hfresh, hname]
    obtain ⟨g', hg', hrev, hkeys', hdep⟩ := ih (h.addService hfresh) (by
      rw [hnodes, List.append_assoc]
      exact hnodup)
    refine ⟨g', ?_, hrev, ?_, fun x d => ?_⟩
    · rw [addMapping, hadd]
      exact hg'
    · rw [hkeys', hnodes, List.append_assoc]
      rfl
    · have hentries : (∃ l, (x, l) ∈ (service, deps) :: rest ∧ d ∈ l) ↔
          (x = service ∧ d ∈ deps) ∨ ∃ l, (x, l) ∈ rest ∧ d ∈ l := by
        simp only [List.mem_cons, Prod.mk.injEq, or_and_right, exists_or]
        refine or_congr_left ⟨?_, fun hx => ⟨deps, ⟨hx.1, rfl⟩, hx.2⟩⟩
        rintro ⟨l, ⟨hx, rfl⟩, hd⟩
        exact ⟨hx, hd⟩
      rw [hdep, hentries, ← or_assoc, Depends, getDependencies_addService, hname]
      refine or_congr_left ?_
      by_cases hx : x = service
      · have hnone : ¬ g.Depends x d := fun hdep => hfresh (hname ▸ hx ▸ hdep.mem_nodes)
        rw [if_pos hx, hkeys]
        exact ⟨fun hd => .inr ⟨hx, hd.resolve_left List.not_mem_nil⟩,
          fun hd => .inr (hd.resolve_left hnone).2⟩
      · rw [if_neg hx]
        simp [hx, Depends]

end DependencyGraph

namespace BlastRadiusController

variable {Name : Type} [DecidableEq Name]

open DependencyGraph

/-- The graph of a mapping has its dependencies. -/
theorem exists_graph_of_mapping (unknown : Name) (deps : Dict Name (List Name)) :
    ∃ g, addMapping unknown .empty deps.entries = .ok g ∧ g.Reversed ∧
      g.nodes.keys = deps.keys ∧ ∀ x s, g.Needs x s ↔ MapNeeds deps x s := by
  obtain ⟨g, hg, hrev, hkeys, hdep⟩ :=
    addMapping_spec unknown reversed_empty deps.entries deps.nodup
  refine ⟨g, hg, hrev, hkeys, fun x s => ?_⟩
  have hsame : g.Depends = MapDepends deps := by
    funext x d
    refine propext ((hdep x d).trans ?_)
    simp only [MapDepends, Dict.get?_eq_some]
    exact or_iff_right List.not_mem_nil
  rw [Needs, MapNeeds, hsame]

theorem mapNeeds_of_nil {deps : Dict Name (List Name)} (h : deps.keys = []) {x s : Name} :
    MapNeeds deps x s ↔ x = s := by
  constructor
  · intro hneeds
    rcases hneeds.cases_head with rfl | ⟨_, ⟨l, hl, _⟩, _⟩
    · rfl
    · exact absurd (Dict.mem_keys.mpr ⟨l, hl⟩) (h ▸ List.not_mem_nil)
  · rintro rfl
    exact .refl

variable [ToString Name]

/-- What the analysis should answer for a mapping: the services that need the
failed one, each once, which for a service of the mapping are those that
`analyze_cascade` reports. -/
def IsBlastRadius (fuel : Nat) (unknown : Name) (order : SetOrder Name)
    (deps : Dict Name (List Name)) (s : Name) (affected : List Name) : Prop :=
  affected.Nodup ∧ (∀ x, x ∈ affected ↔ MapNeeds deps x s) ∧
    (s ∈ deps.keys → ∃ g a, addMapping unknown .empty deps.entries = .ok g ∧
      analyzeCascade fuel g order s = some a ∧
      ∀ x, x ∈ affected ↔ x = s ∨ x ∈ a.directlyAffected ++ a.indirectlyAffected)

theorem isBlastRadius_of_mem {fuel : Nat} (unknown : Name) (order : SetOrder Name)
    {deps : Dict Name (List Name)} (hfuel : deps.keys.length < fuel) {s : Name}
    {affected : List Name} (hnodup : affected.Nodup)
    (hmem : ∀ x, x ∈ affected ↔ MapNeeds deps x s) :
    IsBlastRadius fuel unknown order deps s affected := by
  refine ⟨hnodup, hmem, fun hs => ?_⟩
  obtain ⟨g, hg, hrev, hkeys, hneeds⟩ := exists_graph_of_mapping unknown deps
  rw [← hkeys] at hs hfuel
  obtain ⟨a, _, ha, hdirect, _, _, hcascade, _⟩ := analyzeCascade_spec order hrev hs hfuel
  refine ⟨g, a, hg, ha, fun x => ?_⟩
  rw [hmem, ← hneeds, ← hcascade, List.mem_append, hdirect, mem_dependentsList hrev]

/-- The analysis of a mapping is right exactly when the mapping is not empty or
no other service needs the failed one in the configured dependencies. -/
theorem isBlastRadius_analyzeBlastRadius_iff (controller : BlastRadiusController Name)
    (unknown : Name) (order : SetOrder Name) (deps : Dict Name (List Name)) (s : Name) (fuel : Nat)
    (hfuel : deps.keys.length + 1 < fuel)
    (hdefault : controller.dependencies.keys.length + 1 < fuel) :
    (∃ affected, analyzeBlastRadius fuel controller s (some deps) = some affected ∧
      IsBlastRadius fuel unknown order deps s affected) ↔
        deps.keys ≠ [] ∨ ∀ x, MapNeeds controller.dependencies x s → x = s := by
  by_cases hnil : deps.keys = []
  · have hgraph : controller.analysedGraph (some deps) = controller.dependencies := if_pos hnil
    obtain ⟨l, hl, hnodup, hmem⟩ :=
      calculateAffectedServices_spec controller.dependencies s hdefault
    rw [analyzeBlastRadius, hgraph, hl, or_iff_right (not_not_intro hnil)]
    constructor
    · rintro ⟨affected, heq, _, haffected, _⟩ x hx
      cases heq
      exact (mapNeeds_of_nil hnil).mp ((haffected x).mp ((hmem x).mpr hx))
    · intro honly
      refine ⟨l, rfl, isBlastRadius_of_mem unknown order (by omega) hnodup fun x => ?_⟩
      rw [hmem, mapNeeds_of_nil hnil]
      exact ⟨honly x, fun e => e ▸ .refl⟩
  · have hgraph : controller.analysedGraph (some deps) = deps := if_neg hnil
    obtain ⟨l, hl, hnodup, hmem⟩ := calculateAffectedServices_spec deps s hfuel
    rw [analyzeBlastRadius, hgraph, hl]
    exact iff_of_true ⟨l, rfl, isBlastRadius_of_mem unknown order (by omega) hnodup hmem⟩
      (.inl hnil)

theorem isBlastRadius_default_payment :
    (∃ affected, analyzeBlastRadius 9 ⟨defaultDependencies⟩ "user"
        (some (Dict.ofList [("payment", ["user"])])) = some affected ∧
      IsBlastRadius 9 "unknown" sortedOrder (Dict.ofList [("payment", ["user"])]) "user"
        affected) ↔
      (Dict.ofList [("payment", ["user"])]).keys ≠ [] ∨
        ∀ x, MapNeeds defaultDependencies x "user" → x = "user" :=
  isBlastRadius_analyzeBlastRadius_iff ⟨defaultDependencies⟩ "unknown" sortedOrder
    (Dict.ofList [("payment", ["user"])]) "user" 9 (by decide) (by decide)

/-- For an empty mapping the configured dependencies are analysed: five services
are affected although none depends on the failed one. -/
theorem analyzeBlastRadius_empty :
    analyzeBlastRadius 9 ⟨defaultDependencies⟩ "user" (some .empty) =
        some ["user", "order", "payment", "cart", "notification", "checkout"] ∧
      ¬ ∃ affected, analyzeBlastRadius 9 ⟨defaultDependencies⟩ "user" (some .empty) =
        some affected ∧ IsBlastRadius 9 "unknown" sortedOrder .empty "user" affected := by
  have hrun : analyzeBlastRadius 9 ⟨defaultDependencies⟩ "user" (some .empty) =
      some ["user", "order", "payment", "cart", "notification", "checkout"] := by decide
  refine ⟨hrun, ?_⟩
  rintro ⟨affected, heq, _, hmem, _⟩
  rw [hrun] at heq
  cases heq
  have horder := (hmem "order").mp (by decide)
  exact absurd ((mapNeeds_of_nil rfl).mp horder) (by decide)

end BlastRadiusController

end Shopping
