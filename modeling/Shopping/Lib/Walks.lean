import Mathlib.Data.List.Chain
import Mathlib.Logic.Relation

/-!
# Walks into a cycle

In a graph that lists the successors of a vertex, the vertices from which a
cycle can be reached are the cyclic ones.  A cyclic vertex has a cyclic successor
(`cyclic_iff`), so the walk that goes on to the first cyclic successor never stops.
A vertex that is not cyclic has a walk of itself only.
-/

namespace Shopping

variable {α : Type} (next : α → List α)

/-- An edge of the graph. -/
def Edge (a b : α) : Prop := b ∈ next a

/-- A cycle can be reached from `a`. -/
def Cyclic (a : α) : Prop :=
  ∃ b, Relation.ReflTransGen (Edge next) a b ∧ Relation.TransGen (Edge next) b b

open Classical in
/-- The first successor from which a cycle can be reached. -/
noncomputable def lead (a : α) : Option α := (next a).find? fun b => decide (Cyclic next b)

/-- The walk from `a`, always on to the first cyclic successor, comes to `b`. -/
def Walk : α → α → Prop := Relation.ReflTransGen fun a b => lead next a = some b

variable {next}

/-- Dead vertices have dead successors. -/
theorem Cyclic.of_edge {a b : α} (hab : Edge next a b) (hb : Cyclic next b) : Cyclic next a := by
  obtain ⟨c, hbc, hc⟩ := hb
  exact ⟨c, .head hab hbc, hc⟩

theorem cyclic_of_cycle {a : α} (h : Relation.TransGen (Edge next) a a) : Cyclic next a :=
  ⟨a, .refl, h⟩

/-- A cyclic vertex has a cyclic successor. -/
theorem cyclic_iff {a : α} : Cyclic next a ↔ ∃ b ∈ next a, Cyclic next b := by
  constructor
  · rintro ⟨c, hac, hc⟩
    rcases hac.cases_head with rfl | ⟨b, hab, hbc⟩
    · obtain ⟨b, hab, hba⟩ := Relation.TransGen.head'_iff.mp hc
      exact ⟨b, hab, a, hba, hc⟩
    · exact ⟨b, hab, c, hbc, hc⟩
  · rintro ⟨b, hab, hb⟩
    exact hb.of_edge hab

theorem lead_eq_some {a b : α} : lead next a = some b ↔
    Cyclic next b ∧ ∃ dead rest, next a = dead ++ b :: rest ∧ ∀ c ∈ dead, ¬ Cyclic next c := by
  simp [lead, List.find?_eq_some_iff_append]

theorem lead_eq_none {a : α} : lead next a = none ↔ ∀ b ∈ next a, ¬ Cyclic next b := by
  simp [lead]

/-- A cyclic vertex has a lead. -/
theorem exists_lead {a : α} (h : Cyclic next a) : ∃ b, lead next a = some b := by
  obtain ⟨c, hc, hcyclic⟩ := cyclic_iff.mp h
  cases hb : lead next a with
  | none => exact absurd hcyclic (lead_eq_none.mp hb c hc)
  | some b => exact ⟨b, rfl⟩

theorem cyclic_of_lead {a b : α} (h : lead next a = some b) : Cyclic next b := (lead_eq_some.mp h).1

theorem edge_of_lead {a b : α} (h : lead next a = some b) : Edge next a b := by
  obtain ⟨_, dead, rest, hnext, _⟩ := lead_eq_some.mp h
  rw [Edge, hnext]
  exact List.mem_append_right dead List.mem_cons_self

/-- A walk from a cyclic vertex stays among the cyclic ones. -/
theorem Walk.cyclic {a b : α} (h : Walk next a b) (ha : Cyclic next a) : Cyclic next b := by
  rcases h.cases_tail with rfl | ⟨_, _, hlead⟩
  · exact ha
  · exact cyclic_of_lead hlead

/-- The walk from a dead vertex is itself. -/
theorem Walk.eq_of_not_cyclic {a b : α} (h : Walk next a b) (ha : ¬ Cyclic next a) : b = a := by
  rcases h.cases_head with rfl | ⟨c, hlead, _⟩
  · rfl
  · exact absurd ((cyclic_of_lead hlead).of_edge (edge_of_lead hlead)) ha

/-- The walk from `a` is `a` and the walk from its lead. -/
theorem walk_iff_of_lead {a b c : α} (h : lead next a = some b) :
    Walk next a c ↔ c = a ∨ Walk next b c := by
  constructor
  · intro hac
    rcases hac.cases_head with rfl | ⟨d, had, hdc⟩
    · exact .inl rfl
    · rw [h] at had
      cases had
      exact .inr hdc
  · rintro (rfl | hbc)
    · exact .refl
    · exact .head h hbc

/-- A member of a chain is the last one, or has the next one after it. -/
theorem isChain_next {R : α → α → Prop} {l : List α} (h : l.IsChain R) {x : α} (hx : x ∈ l) :
    l.getLast? = some x ∨ ∃ y ∈ l, R x y := by
  induction l with
  | nil => exact absurd hx List.not_mem_nil
  | cons a l ih =>
    cases l with
    | nil =>
      rw [List.mem_singleton.mp hx]
      exact .inl rfl
    | cons b l =>
      rw [List.isChain_cons_cons] at h
      rcases List.mem_cons.mp hx with rfl | hx
      · exact .inr ⟨b, List.mem_cons_of_mem x List.mem_cons_self, h.1⟩
      · rcases ih h.2 hx with hlast | ⟨y, hy, hxy⟩
        · exact .inl (by rw [List.getLast?_cons_cons, hlast])
        · exact .inr ⟨y, List.mem_cons_of_mem a hy, hxy⟩

/-- A walk that has come back to its path stays on it. -/
theorem Walk.mem_path {path : List α} {a b c : α}
    (hchain : path.IsChain fun x y => lead next x = some y) (hlast : path.getLast? = some a)
    (hlead : lead next a = some b) (hb : b ∈ path) (h : Walk next a c) : c ∈ path := by
  induction h with
  | refl => exact List.mem_of_getLast? hlast
  | tail _ hstep ih =>
    rcases isChain_next hchain ih with hx | ⟨y, hy, hxy⟩
    · rw [hlast] at hx
      cases hx
      rw [hlead] at hstep
      cases hstep
      exact hb
    · rw [hxy] at hstep
      cases hstep
      exact hy

end Shopping
