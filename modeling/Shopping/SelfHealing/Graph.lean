import Mathlib.Data.Finset.Basic
import Mathlib.Logic.Relation
import Shopping.Lib.Dict
import Shopping.Lib.Except

/-!
# The service dependency graph

`DependencyGraph` keeps the services and, beside them, the services that depend
on each name.  `Reversed` says that the second agrees with the first; it holds
of every graph that `parse_dna_dependencies` builds, and breaks only when a
service is added twice.

Service names are of any type.  A name that an entry leaves out is Python's
`None`, one more name here.
-/

namespace Shopping

/-- `DependencyType`. -/
inductive DependencyType where
  | sync
  | async
  | cache
  | database
  | external
  | event
  deriving DecidableEq, Repr

/-- `ServiceTier`. -/
inductive ServiceTier where
  | critical
  | standard
  | nonCritical
  deriving DecidableEq, Repr

/-- The `ValueError`s of the graph: a text that is no value of an enumeration,
or a name that is not in the list it is looked up in. -/
inductive GraphError (Name : Type) where
  | invalidTier (value : String)
  | invalidType (value : String)
  | notInList (name : Name)
  deriving DecidableEq, Repr

variable {Name : Type}

/-- `DependencyType(value)`. -/
def DependencyType.ofValue (value : String) : Except (GraphError Name) DependencyType :=
  match value with
  | "sync" => .ok .sync
  | "async" => .ok .async
  | "cache" => .ok .cache
  | "database" => .ok .database
  | "external" => .ok .external
  | "event" => .ok .event
  | _ => .error (.invalidType value)

/-- `ServiceTier(value)`. -/
def ServiceTier.ofValue (value : String) : Except (GraphError Name) ServiceTier :=
  match value with
  | "critical" => .ok .critical
  | "standard" => .ok .standard
  | "non-critical" => .ok .nonCritical
  | _ => .error (.invalidTier value)

/-- `ServiceNode`; an empty fallback is none. -/
structure ServiceNode (Name : Type) where
  name : Name
  tier : ServiceTier := .standard
  dependencies : Dict Name DependencyType := .empty
  fallbackService : String := ""
  circuitBreakerEnabled : Bool := true

/-- `DependencyGraph`. -/
structure DependencyGraph (Name : Type) where
  nodes : Dict Name (ServiceNode Name)
  reverseDeps : Dict Name (Finset Name)

/-- An element of `depends_on`: a name, or an object with a name and a type. -/
inductive DependsOn (Name : Type) where
  | plain (name : Name)
  | entry (name : Name) (type : Option String)

/-- The configuration of a service. -/
structure ServiceConfig (Name : Type) where
  name : Option Name := none
  tier : Option String := none
  fallback : String := ""
  circuitBreaker : Option Bool := none
  dependsOn : List (DependsOn Name) := []
  dependencyTypes : Dict Name String := .empty

namespace DependencyGraph

/-- The graph of `__init__`. -/
def empty : DependencyGraph Name := ⟨.empty, .empty⟩

variable [DecidableEq Name]

/-- `add_dependency`. -/
def addDependency (service : ServiceNode Name) (target : Name) (depType : DependencyType) :
    ServiceNode Name :=
  { service with dependencies := service.dependencies.set target depType }

/-- `self.reverse_deps[dep].add(name)`. -/
def addReverse (name : Name) (reverseDeps : Dict Name (Finset Name)) (dep : Name) :
    Dict Name (Finset Name) :=
  reverseDeps.set dep (insert name ((reverseDeps.get? dep).getD ∅))

/-- `add_service`. -/
def addService (g : DependencyGraph Name) (service : ServiceNode Name) : DependencyGraph Name where
  nodes := g.nodes.set service.name service
  reverseDeps := service.dependencies.keys.foldl (addReverse service.name) g.reverseDeps

/-- The name and the type of a dependency. -/
def resolve (depTypes : Dict Name String) :
    DependsOn Name → Except (GraphError Name) (Name × DependencyType)
  | .plain name =>
    (DependencyType.ofValue ((depTypes.get? name).getD "sync")).map fun t => (name, t)
  | .entry name type => (DependencyType.ofValue (type.getD "sync")).map fun t => (name, t)

/-- The loop over `depends_on`. -/
def addDependencies (depTypes : Dict Name String) :
    ServiceNode Name → List (DependsOn Name) → Except (GraphError Name) (ServiceNode Name)
  | node, [] => .ok node
  | node, dep :: rest => do
    let (name, depType) ← resolve depTypes dep
    addDependencies depTypes (addDependency node name depType) rest

/-- The node of a configuration; `unknown` is the name of a service without
one. -/
def nodeOfConfig (unknown : Name) (config : ServiceConfig Name) :
    Except (GraphError Name) (ServiceNode Name) := do
  let tier ← ServiceTier.ofValue (config.tier.getD "standard")
  addDependencies config.dependencyTypes
    { name := config.name.getD unknown
      tier := tier
      fallbackService := config.fallback
      circuitBreakerEnabled := config.circuitBreaker.getD true }
    config.dependsOn

/-- `add_service_from_dict`. -/
def addServiceFromDict (unknown : Name) (g : DependencyGraph Name) (config : ServiceConfig Name) :
    Except (GraphError Name) (DependencyGraph Name) :=
  (nodeOfConfig unknown config).map g.addService

/-- `get_dependents`. -/
def getDependents (g : DependencyGraph Name) (serviceName : Name) : Finset Name :=
  (g.reverseDeps.get? serviceName).getD ∅

/-- `get_dependencies`. -/
def getDependencies (g : DependencyGraph Name) (serviceName : Name) : Dict Name DependencyType :=
  match g.nodes.get? serviceName with
  | some node => node.dependencies
  | none => .empty

/-! ## `parse_dna_dependencies` -/

/-- The loop over the entries; `none` is a configuration that is no object. -/
def addEntries (unknown : Name) : DependencyGraph Name →
    List (Name × Option (ServiceConfig Name)) → Except (GraphError Name) (DependencyGraph Name)
  | g, [] => .ok g
  | g, (_, none) :: rest => addEntries unknown g rest
  | g, (serviceName, some config) :: rest => do
    let g ← addServiceFromDict unknown g { config with name := some (config.name.getD serviceName) }
    addEntries unknown g rest

/-- A dependency that is no service yet is added as a standard one. -/
def addImplicit (g : DependencyGraph Name) (dep : Name) : DependencyGraph Name :=
  if dep ∈ g.nodes.keys then g else g.addService { name := dep, tier := .standard }

/-- `parse_dna_dependencies`. -/
def parseDnaDependencies (unknown : Name) (depsConfig : Dict Name (Option (ServiceConfig Name))) :
    Except (GraphError Name) (DependencyGraph Name) :=
  (addEntries unknown empty depsConfig.entries).map fun g =>
    (g.nodes.entries.flatMap fun e => e.2.dependencies.keys).foldl addImplicit g

/-! ## What the operations keep -/

/-- `x` depends on `d`. -/
def Depends (g : DependencyGraph Name) (x d : Name) : Prop := d ∈ (g.getDependencies x).keys

instance (g : DependencyGraph Name) (x d : Name) : Decidable (g.Depends x d) :=
  inferInstanceAs (Decidable (d ∈ (g.getDependencies x).keys))

/-- The dependents of each name are the services that depend on it. -/
def Reversed (g : DependencyGraph Name) : Prop :=
  ∀ x d, x ∈ g.getDependents d ↔ g.Depends x d

variable {g : DependencyGraph Name}

/-- Only a service depends on something. -/
theorem Depends.mem_nodes {x d : Name} (h : g.Depends x d) : x ∈ g.nodes.keys := by
  by_contra hx
  rw [Depends, getDependencies, Dict.get?_eq_none.mpr hx] at h
  exact absurd h List.not_mem_nil

theorem foldl_addReverse (name d : Name) (deps : List Name) (r : Dict Name (Finset Name)) :
    ((deps.foldl (addReverse name) r).get? d).getD ∅ =
      if d ∈ deps then insert name ((r.get? d).getD ∅) else (r.get? d).getD ∅ := by
  induction deps generalizing r with
  | nil => rfl
  | cons dep deps ih =>
    rw [List.foldl_cons, ih, addReverse, Dict.get?_set]
    by_cases hd : d = dep
    · subst hd
      simp
    · simp [hd]

/-- The dependents of a name after a service was added. -/
theorem getDependents_addService (g : DependencyGraph Name) (service : ServiceNode Name)
    (d : Name) : (g.addService service).getDependents d =
      if d ∈ service.dependencies.keys then insert service.name (g.getDependents d)
      else g.getDependents d :=
  foldl_addReverse service.name d service.dependencies.keys g.reverseDeps

/-- The dependencies of a name after a service was added. -/
theorem getDependencies_addService (g : DependencyGraph Name) (service : ServiceNode Name)
    (x : Name) : (g.addService service).getDependencies x =
      if x = service.name then service.dependencies else g.getDependencies x := by
  rw [getDependencies, addService, Dict.get?_set]
  by_cases hx : x = service.name
  · rw [if_pos hx, if_pos hx]
  · rw [if_neg hx, if_neg hx, getDependencies]

/-- A service under a new name keeps the two sides in step. -/
theorem Reversed.addService (h : g.Reversed) {service : ServiceNode Name}
    (hnew : service.name ∉ g.nodes.keys) : (g.addService service).Reversed := by
  intro x d
  rw [getDependents_addService, Depends, getDependencies_addService]
  by_cases hx : x = service.name
  · have hnone : x ∉ g.getDependents d := by
      rw [h x d]
      exact fun hdep => hnew (hx ▸ hdep.mem_nodes)
    rw [if_pos hx]
    split
    · next hd => exact iff_of_true (hx ▸ Finset.mem_insert_self _ _) hd
    · next hd => exact iff_of_false hnone hd
  · rw [if_neg hx]
    split
    · rw [Finset.mem_insert, or_iff_right hx]
      exact h x d
    · exact h x d

theorem reversed_empty : (empty : DependencyGraph Name).Reversed := by
  intro x d
  exact iff_of_false (Finset.notMem_empty x) List.not_mem_nil

theorem addDependencies_name {depTypes : Dict Name String} {deps : List (DependsOn Name)}
    {node node' : ServiceNode Name} (h : addDependencies depTypes node deps = .ok node') :
    node'.name = node.name := by
  induction deps generalizing node with
  | nil => exact congrArg ServiceNode.name (Except.ok.inj h).symm
  | cons dep deps ih =>
    obtain ⟨⟨name, depType⟩, _, h⟩ := bind_eq_ok.mp h
    have hname : node'.name = (addDependency node name depType).name := ih h
    exact hname

/-- The node of a configuration has its name. -/
theorem nodeOfConfig_name {unknown : Name} {config : ServiceConfig Name} {node : ServiceNode Name}
    (h : nodeOfConfig unknown config = .ok node) : node.name = config.name.getD unknown := by
  obtain ⟨tier, _, h⟩ := bind_eq_ok.mp h
  exact addDependencies_name h

/-- Entries under new names keep the two sides in step; the services are those
of before and some of the entries. -/
theorem Reversed.addEntries {unknown : Name} {entries : List (Name × Option (ServiceConfig Name))}
    (hnames : ∀ e ∈ entries, ∀ config, e.2 = some config → config.name = none)
    (h : g.Reversed) (hnodup : (g.nodes.keys ++ entries.map Prod.fst).Nodup)
    {g' : DependencyGraph Name} (hadd : addEntries unknown g entries = .ok g') : g'.Reversed := by
  induction entries generalizing g with
  | nil => exact Except.ok.inj hadd ▸ h
  | cons e rest ih =>
    obtain ⟨serviceName, config⟩ := e
    have hrest : ∀ e ∈ rest, ∀ config, e.2 = some config → config.name = none :=
      fun e he => hnames e (List.mem_cons_of_mem _ he)
    cases config with
    | none =>
      refine ih hrest h (hnodup.sublist ?_) hadd
      exact (List.sublist_cons_self _ _).append_left _
    | some config =>
      obtain ⟨g₁, hg₁, hadd⟩ := bind_eq_ok.mp hadd
      obtain ⟨node, hnode, rfl⟩ := map_eq_ok.mp hg₁
      have hname : node.name = serviceName := by
        rw [nodeOfConfig_name hnode, hnames _ List.mem_cons_self config rfl]
        rfl
      have hfresh : node.name ∉ g.nodes.keys := by
        rw [hname]
        intro hmem
        exact (List.nodup_append.mp hnodup).2.2 _ hmem serviceName List.mem_cons_self rfl
      refine ih hrest (h.addService hfresh) ?_ hadd
      have hkeys : (g.addService node).nodes.keys = g.nodes.keys ++ [serviceName] := by
        rw [DependencyGraph.addService, Dict.keys_set, if_neg hfresh, hname]
      rw [hkeys, List.append_assoc]
      exact hnodup

theorem Reversed.addImplicit (h : g.Reversed) (dep : Name) : (g.addImplicit dep).Reversed := by
  rw [DependencyGraph.addImplicit]
  split
  · exact h
  · next hnew => exact h.addService hnew

/-- Adding the missing dependencies keeps the two sides in step. -/
theorem Reversed.foldl_addImplicit (h : g.Reversed) (deps : List Name) :
    (deps.foldl DependencyGraph.addImplicit g).Reversed := by
  induction deps generalizing g with
  | nil => exact h
  | cons dep deps ih => exact ih (h.addImplicit dep)

/-- In a graph that was parsed from entries without names of their own the
dependents are the services that depend on a name. -/
theorem reversed_of_parse {unknown : Name} {depsConfig : Dict Name (Option (ServiceConfig Name))}
    (hnames : ∀ e ∈ depsConfig.entries, ∀ config, e.2 = some config → config.name = none)
    (h : parseDnaDependencies unknown depsConfig = .ok g) : g.Reversed := by
  obtain ⟨g₀, hg₀, rfl⟩ := map_eq_ok.mp h
  exact (reversed_empty.addEntries hnames depsConfig.nodup hg₀).foldl_addImplicit _

end DependencyGraph

end Shopping
