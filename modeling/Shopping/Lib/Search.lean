import Mathlib.Data.Finset.Card
import Mathlib.Logic.Relation

/-!
# Breadth-first search

The loop takes a vertex off a queue, and finds and queues its neighbours that
were not visited.  `search_spec` is its result: from a set whose members outside
the queue have all their neighbours in it, the loop ends when the queue is empty
with everything reachable from the set, and each new vertex is found once.  A
finite set that holds all neighbours bounds the number of rounds.
-/

namespace Shopping

/-- The state of a search. -/
structure Frontier (α : Type) where
  visited : Finset α
  found : List α
  queue : List α

namespace Frontier

variable {α : Type} [DecidableEq α]

/-- The state with some more vertices found and queued. -/
def extend (f : Frontier α) (new : List α) : Frontier α where
  visited := f.visited ∪ new.toFinset
  found := f.found ++ new
  queue := f.queue ++ new

/-- A neighbour that was not visited is found and queued. -/
def visit (f : Frontier α) (a : α) : Frontier α := if a ∈ f.visited then f else f.extend [a]

/-- The search; `none` is out of fuel. -/
def search (next : α → List α) : Nat → Frontier α → Option (Frontier α)
  | 0, _ => none
  | fuel + 1, f =>
    match f.queue with
    | [] => some f
    | a :: rest => search next fuel ((next a).foldl visit { f with queue := rest })

@[simp] theorem extend_nil (f : Frontier α) : f.extend [] = f := by
  simp [extend]

theorem extend_extend (f : Frontier α) (l l' : List α) :
    (f.extend l).extend l' = f.extend (l ++ l') := by
  simp [extend, List.toFinset_append, Finset.union_assoc]

theorem mem_visited_extend {f : Frontier α} {new : List α} {a : α} :
    a ∈ (f.extend new).visited ↔ a ∈ f.visited ∨ a ∈ new := by
  rw [extend, Finset.mem_union, List.mem_toFinset]

/-- A round finds the neighbours that were not visited, each once. -/
theorem foldl_visit (f : Frontier α) (l : List α) :
    ∃ new, l.foldl visit f = f.extend new ∧ new.Nodup ∧ (∀ a ∈ new, a ∈ l ∧ a ∉ f.visited) ∧
      ∀ a ∈ l, a ∈ f.visited ∨ a ∈ new := by
  induction l generalizing f with
  | nil => exact ⟨[], by simp⟩
  | cons b l ih =>
    rw [List.foldl_cons, visit]
    split
    · next hb =>
      obtain ⟨new, heq, hnodup, hnew, hall⟩ := ih f
      refine ⟨new, heq, hnodup, fun a ha => ?_, fun a ha => ?_⟩
      · exact ⟨List.mem_cons_of_mem b (hnew a ha).1, (hnew a ha).2⟩
      · rcases List.mem_cons.mp ha with rfl | ha
        · exact .inl hb
        · exact hall a ha
    · next hb =>
      obtain ⟨new, heq, hnodup, hnew, hall⟩ := ih (f.extend [b])
      have hnot : ∀ a ∈ new, a ∉ f.visited ∧ a ≠ b := by
        intro a ha
        have h := (hnew a ha).2
        rwa [mem_visited_extend, List.mem_singleton, not_or] at h
      refine ⟨b :: new, ?_, ?_, fun a ha => ?_, fun a ha => ?_⟩
      · rw [heq, extend_extend]
        rfl
      · exact List.nodup_cons.mpr ⟨fun h => (hnot b h).2 rfl, hnodup⟩
      · rcases List.mem_cons.mp ha with rfl | ha
        · exact ⟨List.mem_cons_self, hb⟩
        · exact ⟨List.mem_cons_of_mem b (hnew a ha).1, (hnot a ha).1⟩
      · rcases List.mem_cons.mp ha with rfl | ha
        · exact .inr List.mem_cons_self
        · rcases hall a ha with h | h
          · rw [mem_visited_extend, List.mem_singleton] at h
            exact h.imp_right fun (e : a = b) => e ▸ List.mem_cons_self
          · exact .inr (List.mem_cons_of_mem b h)

/-- `b` is reachable from `a`. -/
def Reach (next : α → List α) : α → α → Prop := Relation.ReflTransGen fun a b => b ∈ next a

/-- The vertices outside the visited ones are fewer by the new ones. -/
theorem card_sdiff_extend {U : Finset α} {f : Frontier α} {new : List α} (hnodup : new.Nodup)
    (hnew : ∀ a ∈ new, a ∈ U ∧ a ∉ f.visited) :
    (U \ (f.extend new).visited).card + new.length = (U \ f.visited).card := by
  have hsub : new.toFinset ⊆ U \ f.visited := by
    intro a ha
    exact Finset.mem_sdiff.mpr (hnew a (List.mem_toFinset.mp ha))
  have hsplit : U \ (f.extend new).visited = (U \ f.visited) \ new.toFinset := by
    rw [extend, sdiff_sdiff_left]
    rfl
  rw [hsplit, Finset.card_sdiff_of_subset hsub, List.toFinset_card_of_nodup hnodup]
  have hle := Finset.card_le_card hsub
  rw [List.toFinset_card_of_nodup hnodup] at hle
  omega

theorem search_nil {next : α → List α} {f : Frontier α} (fuel : Nat) (h : f.queue = []) :
    search next (fuel + 1) f = some f := by
  rw [search, h]

theorem search_cons {next : α → List α} {f : Frontier α} {a : α} {rest : List α} (fuel : Nat)
    (h : f.queue = a :: rest) :
    search next (fuel + 1) f =
      search next fuel ((next a).foldl visit { f with queue := rest }) := by
  rw [search, h]

/-- From a set whose members outside the queue have their neighbours in it, the
search finds what is reachable from the set. -/
theorem search_spec {next : α → List α} {U : Finset α} (hU : ∀ a, ∀ b ∈ next a, b ∈ U)
    {fuel : Nat} {f : Frontier α} (hqueue : ∀ a ∈ f.queue, a ∈ f.visited)
    (hclosed : ∀ a ∈ f.visited, a ∉ f.queue → ∀ b ∈ next a, b ∈ f.visited)
    (hfuel : f.queue.length + (U \ f.visited).card < fuel) :
    ∃ new, search next fuel f = some ⟨f.visited ∪ new.toFinset, f.found ++ new, []⟩ ∧
      new.Nodup ∧ (∀ a ∈ new, a ∉ f.visited) ∧
      ∀ b, b ∈ f.visited ∨ b ∈ new ↔ ∃ a ∈ f.visited, Reach next a b := by
  induction fuel generalizing f with
  | zero => omega
  | succ fuel ih =>
    cases hq : f.queue with
    | nil =>
      refine ⟨[], ?_, List.nodup_nil, by simp, fun b => ?_⟩
      · have hf : f = ⟨f.visited, f.found, []⟩ := by rw [← hq]
        rw [search_nil fuel hq, List.toFinset_nil, Finset.union_empty, List.append_nil, ← hf]
      · rw [or_iff_left List.not_mem_nil]
        refine ⟨fun hb => ⟨b, hb, .refl⟩, ?_⟩
        rintro ⟨a, ha, hab⟩
        induction hab with
        | refl => exact ha
        | tail _ hstep hmem => exact hclosed _ hmem (by simp [hq]) _ hstep
    | cons a rest =>
      have ha : a ∈ f.visited := hqueue a (hq ▸ List.mem_cons_self)
      obtain ⟨new, heq, hnodup, hnew, hall⟩ := foldl_visit { f with queue := rest } (next a)
      set g := ({ f with queue := rest } : Frontier α).extend new with hg
      have hvisited : ∀ b, b ∈ g.visited ↔ b ∈ f.visited ∨ b ∈ new := fun b => mem_visited_extend
      have hqueue' : ∀ b ∈ g.queue, b ∈ g.visited := by
        intro b hb
        rw [hvisited]
        exact (List.mem_append.mp hb).imp_left fun h => hqueue b (hq ▸ List.mem_cons_of_mem a h)
      have hclosed' : ∀ b ∈ g.visited, b ∉ g.queue → ∀ c ∈ next b, c ∈ g.visited := by
        intro b hb hout c hc
        rw [hg, extend, List.mem_append, not_or] at hout
        have hbf := ((hvisited b).mp hb).resolve_right hout.2
        rw [hvisited]
        by_cases hba : b = a
        · exact hall c (hba ▸ hc)
        · refine .inl (hclosed b hbf ?_ c hc)
          rw [hq, List.mem_cons, not_or]
          exact ⟨hba, hout.1⟩
      have hcard := card_sdiff_extend (f := { f with queue := rest }) hnodup
        fun b hb => ⟨hU a b (hnew b hb).1, (hnew b hb).2⟩
      have hlength : g.queue.length = rest.length + new.length := List.length_append
      have hfuel' : g.queue.length + (U \ g.visited).card < fuel := by
        rw [hq, List.length_cons] at hfuel
        rw [hlength]
        rw [← hg] at hcard
        simp only at hcard
        omega
      obtain ⟨later, hlater, hnodup', hnew', hreach⟩ := ih hqueue' hclosed' hfuel'
      refine ⟨new ++ later, ?_, ?_, ?_, fun b => ?_⟩
      · rw [search_cons fuel hq, heq, hlater, hg, extend, List.toFinset_append, Finset.union_assoc,
          List.append_assoc]
      · refine List.nodup_append.mpr ⟨hnodup, hnodup', fun b hb c hc hbc => ?_⟩
        exact hnew' c hc ((hvisited c).mpr (.inr (hbc ▸ hb)))
      · intro b hb
        rcases List.mem_append.mp hb with hb | hb
        · exact (hnew b hb).2
        · exact fun h => hnew' b hb ((hvisited b).mpr (.inl h))
      · rw [List.mem_append, ← or_assoc, ← hvisited, hreach]
        constructor
        · rintro ⟨v, hv, hvb⟩
          rcases (hvisited v).mp hv with hv | hv
          · exact ⟨v, hv, hvb⟩
          · exact ⟨a, ha, .head (hnew v hv).1 hvb⟩
        · rintro ⟨v, hv, hvb⟩
          exact ⟨v, (hvisited v).mpr (.inl hv), hvb⟩

end Frontier

end Shopping
