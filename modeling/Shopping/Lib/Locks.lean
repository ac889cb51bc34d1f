import Mathlib.Data.Fintype.Basic
import Mathlib.Data.List.Nodup
import Mathlib.Logic.Function.Basic
import Mathlib.Order.Fin.Basic
import Shopping.Lib.Run

/-!
# Transactions that lock rows

A transaction is the sequence of the rows it locks.  It takes them one after
the other, waits while another transaction holds the next one, and keeps what
it took until it commits or rolls back.  A row that it holds already is no
reason to wait.

A set of transactions can come to a cycle of waits if and only if some of its
lock sequences cross (`cyclicWait_iff_crossing`): each can be cut before one of
its requests, so that no row is in two of the parts before the cuts, and the
requests go round in a ring.

`Ascends` is the discipline against that: the rows have places, and nobody
asks for a row below one that it holds.  Rows with a guard are only asked for
under the lock of their guard, and need no order among themselves.
-/

namespace Shopping

namespace Locks

/-- How far a transaction is: it took this many of its rows, or it is over. -/
inductive Phase where
  | running (taken : Nat)
  | closed
  deriving DecidableEq, Repr

inductive LockEvent (ι : Type) where
  | take (i : ι)
  /-- The transaction commits, or it rolls back. -/
  | close (i : ι)

/-- The rows that a transaction holds. -/
def Phase.held {ρ : Type} (rows : List ρ) : Phase → List ρ
  | .running n => rows.take n
  | .closed => []

/-- The row that it asks for. -/
def Phase.asks {ρ : Type} (rows : List ρ) : Phase → Option ρ
  | .running n => rows[n]?
  | .closed => none

/-- The rows before the cut. -/
def Phase.cut : Phase → Nat
  | .running n => n
  | .closed => 0

section

variable {ι ρ : Type} (locks : ι → List ρ) (s : ι → Phase)

/-- The row `r` is free for `i`. -/
def FreeFor (r : ρ) (i : ι) : Prop := ∀ j, j ≠ i → r ∉ (s j).held (locks j)

/-- `i` asks for a row that `j` holds. -/
def Waits (i j : ι) : Prop :=
  i ≠ j ∧ ∃ r, (s i).asks (locks i) = some r ∧ r ∈ (s j).held (locks j)

/-- A cycle of transactions, each waiting for a row held by the next. -/
def CyclicWait : Prop :=
  ∃ k, ∃ ring : Fin (k + 1) → ι, ∀ m, Waits locks s (ring m) (ring (m + 1))

/-- No row has two holders. -/
def Exclusive : Prop := ∀ i j, i ≠ j → ((s i).held (locks i)).Disjoint ((s j).held (locks j))

/-- The sequences cross: `cut` cuts each of them so that the parts before the
cuts share no row, and each transaction of the ring asks there for a row before
the cut of the next. -/
structure Crossing {k : Nat} (ring : Fin (k + 1) → ι) (cut : ι → Nat) : Prop where
  apart : ∀ i j, i ≠ j → ((locks i).take (cut i)).Disjoint ((locks j).take (cut j))
  closes : ∀ m, ring m ≠ ring (m + 1) ∧ ∃ r, (locks (ring m))[cut (ring m)]? = some r ∧
    r ∈ (locks (ring (m + 1))).take (cut (ring (m + 1)))

end

section

variable {ι ρ : Type} {locks : ι → List ρ} {s : ι → Phase}

/-! ## What the transactions hold -/

theorem held_succ {rows : List ρ} {n : Nat} {r : ρ} (hr : rows[n]? = some r) :
    (Phase.running (n + 1)).held rows = (Phase.running n).held rows ++ [r] := by
  show rows.take (n + 1) = rows.take n ++ [r]
  rw [List.take_add_one, hr, Option.toList_some]

/-- A cycle of waits is a crossing, cut where the transactions stand. -/
theorem CyclicWait.crossing (h : CyclicWait locks s) (hexclusive : Exclusive locks s) :
    ∃ k, ∃ ring : Fin (k + 1) → ι, ∃ cut, Crossing locks ring cut := by
  have hheld : ∀ i, (s i).held (locks i) = (locks i).take (s i).cut := by
    intro i
    cases s i with
    | running n => rfl
    | closed => exact List.take_zero.symm
  have hasks : ∀ i r, (s i).asks (locks i) = some r → (locks i)[(s i).cut]? = some r := by
    intro i r hr
    cases hs : s i with
    | running n =>
      rw [hs] at hr
      exact hr
    | closed =>
      rw [hs] at hr
      cases hr
  obtain ⟨k, ring, hwaits⟩ := h
  refine ⟨k, ring, fun i => (s i).cut, ?_, ?_⟩
  · intro i j hij
    rw [← hheld, ← hheld]
    exact hexclusive i j hij
  · intro m
    obtain ⟨hne, r, hr, hmem⟩ := hwaits m
    rw [hheld] at hmem
    exact ⟨hne, r, hasks _ r hr, hmem⟩

variable [DecidableEq ι]

theorem held_update (i : ι) (p : Phase) (j : ι) :
    (Function.update s i p j).held (locks j)
      = if j = i then p.held (locks i) else (s j).held (locks j) := by
  by_cases hj : j = i
  · subst hj
    rw [Function.update_self, if_pos rfl]
  · rw [Function.update_of_ne hj, if_neg hj]

/-- What one transaction holds after its step is not held by another one. -/
theorem exclusive_update {i : ι} {p : Phase} (h : Exclusive locks s)
    (hp : ∀ j, j ≠ i → (p.held (locks i)).Disjoint ((s j).held (locks j))) :
    Exclusive locks (Function.update s i p) := by
  intro a b hab
  rw [held_update, held_update]
  by_cases ha : a = i
  · have hb : b ≠ i := fun hb => hab (ha.trans hb.symm)
    rw [if_pos ha, if_neg hb]
    exact hp b hb
  · rw [if_neg ha]
    by_cases hb : b = i
    · rw [if_pos hb]
      exact (hp a ha).symm
    · rw [if_neg hb]
      exact h a b hab

/-- The transactions of `done` are at their cuts, the others did not begin. -/
def reached (cut : ι → Nat) (done : List ι) : ι → Phase :=
  fun i => if i ∈ done then .running (cut i) else .running 0

theorem reached_held (cut : ι → Nat) (done : List ι) (i : ι) :
    (reached cut done i).held (locks i) = if i ∈ done then (locks i).take (cut i) else [] := by
  unfold reached
  split
  · rfl
  · exact List.take_zero (l := locks i)

end

section

variable {ι ρ : Type} [Fintype ι] [DecidableEq ι] [DecidableEq ρ]

instance (locks : ι → List ρ) (s : ι → Phase) (r : ρ) (i : ι) : Decidable (FreeFor locks s r i) :=
  inferInstanceAs (Decidable (∀ j, j ≠ i → r ∉ (s j).held (locks j)))

/-- Nobody took a row yet. -/
def start : ι → Phase := fun _ => .running 0

def step (locks : ι → List ρ) (s : ι → Phase) : LockEvent ι → Option (ι → Phase)
  | .take i =>
    match s i with
    | .closed => none
    | .running n =>
      match (locks i)[n]? with
      | none => none
      | some r =>
        if FreeFor locks s r i then some (Function.update s i (.running (n + 1))) else none
  | .close i =>
    match s i with
    | .closed => none
    | .running _ => some (Function.update s i .closed)

/-- The states that the transactions reach, in any order of their steps. -/
def Reaches (locks : ι → List ρ) (s : ι → Phase) : Prop :=
  ∃ es, Run (step locks) (fun _ _ => True) start es s

variable {locks : ι → List ρ} {s s' : ι → Phase}

/-! ## What a step does -/

theorem step_take {i : ι} (h : step locks s (.take i) = some s') :
    ∃ n r, s i = .running n ∧ (locks i)[n]? = some r ∧ FreeFor locks s r i ∧
      s' = Function.update s i (.running (n + 1)) := by
  simp only [step] at h
  cases hs : s i with
  | closed =>
    rw [hs] at h
    cases h
  | running n =>
    rw [hs] at h
    cases hr : (locks i)[n]? with
    | none =>
      simp only [hr] at h
      cases h
    | some r =>
      simp only [hr] at h
      by_cases hfree : FreeFor locks s r i
      · rw [if_pos hfree] at h
        exact ⟨n, r, rfl, hr, hfree, (Option.some.inj h).symm⟩
      · rw [if_neg hfree] at h
        cases h

theorem step_close {i : ι} (h : step locks s (.close i) = some s') :
    s' = Function.update s i .closed := by
  simp only [step] at h
  cases hs : s i with
  | closed =>
    rw [hs] at h
    cases h
  | running n =>
    rw [hs] at h
    exact (Option.some.inj h).symm

theorem take_of_free {i : ι} {n : Nat} {r : ρ} (hs : s i = .running n)
    (hr : (locks i)[n]? = some r) (hfree : FreeFor locks s r i) :
    step locks s (.take i) = some (Function.update s i (.running (n + 1))) := by
  simp only [step, hs, hr, if_pos hfree]

/-! ## No row has two holders -/

theorem step_exclusive {e : LockEvent ι} (h : Exclusive locks s)
    (hstep : step locks s e = some s') : Exclusive locks s' := by
  cases e with
  | take i =>
    obtain ⟨n, r, hs, hr, hfree, rfl⟩ := step_take hstep
    apply exclusive_update h
    intro j hj
    rw [held_succ hr, List.disjoint_append_left]
    have hheld := h i j hj.symm
    rw [hs] at hheld
    exact ⟨hheld, List.singleton_disjoint.mpr (hfree j hj)⟩
  | close i =>
    rw [step_close hstep]
    exact exclusive_update h fun j _ => List.disjoint_nil_left _

/-- No two transactions ever hold the same row. -/
theorem reaches_exclusive (h : Reaches locks s) : Exclusive locks s := by
  obtain ⟨es, hrun⟩ := h
  apply hrun.invariant (Exclusive locks)
  · intro i j _
    show ((locks i).take 0).Disjoint _
    rw [List.take_zero]
    exact List.disjoint_nil_left _
  · intro t e u ht _ hstep
    exact step_exclusive ht hstep

/-! ## Crossings are reached -/

/-- Alone a transaction comes as far as it likes, as long as nobody holds the
rows on its way. -/
theorem reaches_take {i : ι} {n : Nat} (h : Reaches locks s) (hs : s i = .running 0)
    (hn : n ≤ (locks i).length)
    (hfree : ∀ j, j ≠ i → ((locks i).take n).Disjoint ((s j).held (locks j))) :
    Reaches locks (Function.update s i (.running n)) := by
  induction n with
  | zero =>
    rwa [← hs, Function.update_eq_self]
  | succ n ih =>
    have hlt : n < (locks i).length := by omega
    have hr : (locks i)[n]? = some (locks i)[n] := List.getElem?_eq_getElem hlt
    have htake : (locks i).take (n + 1) = (locks i).take n ++ [(locks i)[n]] := held_succ hr
    have hboth : ∀ j, j ≠ i → ((locks i).take n).Disjoint ((s j).held (locks j)) ∧
        (locks i)[n] ∉ (s j).held (locks j) := by
      intro j hj
      have hd := hfree j hj
      rw [htake, List.disjoint_append_left, List.singleton_disjoint] at hd
      exact hd
    obtain ⟨es, hrun⟩ := ih (by omega) fun j hj => (hboth j hj).1
    refine ⟨es ++ [.take i], hrun.snoc trivial ?_⟩
    rw [take_of_free (Function.update_self i _ s) hr, Function.update_idem]
    intro j hj
    rw [held_update, if_neg hj]
    exact (hboth j hj).2

/-- Transactions whose parts before the cuts share no row can all come to
their cuts, one after the other. -/
theorem reaches_reached {cut : ι → Nat} (hcut : ∀ i, cut i ≤ (locks i).length)
    (hapart : ∀ i j, i ≠ j → ((locks i).take (cut i)).Disjoint ((locks j).take (cut j)))
    (done : List ι) : Reaches locks (reached cut done) := by
  induction done with
  | nil => exact ⟨[], Run.nil⟩
  | cons i done ih =>
    by_cases hi : i ∈ done
    · have hsame : reached cut (i :: done) = reached cut done := by
        funext j
        by_cases hj : j = i
        · simp [reached, hj, hi]
        · simp [reached, hj]
      rwa [hsame]
    · have hnext : reached cut (i :: done)
          = Function.update (reached cut done) i (.running (cut i)) := by
        funext j
        by_cases hj : j = i
        · subst hj
          simp [reached]
        · rw [Function.update_of_ne hj]
          simp [reached, hj]
      rw [hnext]
      apply reaches_take ih
      · simp [reached, hi]
      · exact hcut i
      · intro j hj
        rw [reached_held]
        split
        · exact hapart i j hj.symm
        · exact List.disjoint_nil_right _

/-- Transactions whose sequences cross can come to a cycle of waits. -/
theorem Crossing.reaches {k : Nat} {ring : Fin (k + 1) → ι} {cut : ι → Nat}
    (h : Crossing locks ring cut) : ∃ s, Reaches locks s ∧ CyclicWait locks s := by
  have hlen : ∀ m, cut (ring m) ≤ (locks (ring m)).length := by
    intro m
    obtain ⟨_, r, hr, _⟩ := h.closes m
    obtain ⟨hlt, _⟩ := List.getElem?_eq_some_iff.mp hr
    omega
  -- a transaction outside the ring may be cut behind its end
  have htake : ∀ i, (locks i).take (min (cut i) (locks i).length) = (locks i).take (cut i) := by
    intro i
    rw [List.take_eq_take_iff]
    omega
  refine ⟨reached (fun i => min (cut i) (locks i).length) Finset.univ.toList, ?_, k, ring, ?_⟩
  · apply reaches_reached
    · intro i
      exact min_le_right _ _
    · intro i j hij
      rw [htake, htake]
      exact h.apart i j hij
  · intro m
    obtain ⟨hne, r, hr, hmem⟩ := h.closes m
    refine ⟨hne, r, ?_, ?_⟩
    · have hcut : min (cut (ring m)) (locks (ring m)).length = cut (ring m) := min_eq_left (hlen m)
      simp only [reached, Finset.mem_toList, Finset.mem_univ, if_true, hcut]
      exact hr
    · rw [reached_held, if_pos (Finset.mem_toList.mpr (Finset.mem_univ _)), htake]
      exact hmem

/-- A set of transactions can come to a cycle of waits exactly when sequences
of it cross. -/
theorem cyclicWait_iff_crossing (locks : ι → List ρ) :
    (∃ s, Reaches locks s ∧ CyclicWait locks s) ↔
      ∃ k, ∃ ring : Fin (k + 1) → ι, ∃ cut, Crossing locks ring cut := by
  constructor
  · rintro ⟨s, hreach, hcycle⟩
    exact hcycle.crossing (reaches_exclusive hreach)
  · rintro ⟨k, ring, cut, hcrossing⟩
    exact hcrossing.reaches

end

/-! ## The order of the rows -/

section

variable {ρ α : Type} [PartialOrder α] (place : ρ → α) (guard : ρ → Option ρ)

/-- Who holds `held` may ask for `r`: it is its own, or it stands above all of
`held` and its guard is among them. -/
def InOrder (held : List ρ) (r : ρ) : Prop :=
  r ∈ held ∨ (∀ h ∈ held, place h ≤ place r) ∧ ∀ g, guard r = some g → g ∈ held

/-- Who holds `held` asks for `rows`, each in order. -/
def Ascends (held : List ρ) : List ρ → Prop
  | [] => True
  | r :: rows => InOrder place guard held r ∧ Ascends (held ++ [r]) rows

variable {place guard}

@[simp] theorem ascends_nil (held : List ρ) : Ascends place guard held [] := trivial

@[simp] theorem ascends_cons (held : List ρ) (r : ρ) (rows : List ρ) :
    Ascends place guard held (r :: rows)
      ↔ InOrder place guard held r ∧ Ascends place guard (held ++ [r]) rows := Iff.rfl

theorem ascends_append (held xs ys : List ρ) :
    Ascends place guard held (xs ++ ys)
      ↔ Ascends place guard held xs ∧ Ascends place guard (held ++ xs) ys := by
  induction xs generalizing held with
  | nil => simp
  | cons x xs ih =>
    rw [List.cons_append, ascends_cons, ascends_cons, ih (held ++ [x]), and_assoc,
      List.append_assoc, List.singleton_append]

/-- Rows that are held already are asked for in order. -/
theorem ascends_of_held {held rows : List ρ} (h : ∀ r ∈ rows, r ∈ held) :
    Ascends place guard held rows := by
  induction rows generalizing held with
  | nil => exact ascends_nil held
  | cons r rows ih =>
    refine ⟨Or.inl (h r (by simp)), ih fun x hx => ?_⟩
    rw [List.mem_append]
    exact Or.inl (h x (List.mem_cons_of_mem r hx))

/-- Rows that come in order above the held ones, with their guards held. -/
theorem ascends_of_pairwise {held rows : List ρ}
    (habove : ∀ h ∈ held, ∀ r ∈ rows, place h ≤ place r)
    (hrows : rows.Pairwise fun a b => place a ≤ place b)
    (hguard : ∀ r ∈ rows, ∀ g, guard r = some g → g ∈ held) : Ascends place guard held rows := by
  induction rows generalizing held with
  | nil => exact ascends_nil held
  | cons r rows ih =>
    rw [List.pairwise_cons] at hrows
    refine ⟨Or.inr ⟨fun h hh => habove h hh r (by simp), hguard r (by simp)⟩, ?_⟩
    apply ih
    · intro h hh x hx
      rw [List.mem_append, List.mem_singleton] at hh
      rcases hh with hh | rfl
      · exact habove h hh x (List.mem_cons_of_mem r hx)
      · exact hrows.1 x hx
    · exact hrows.2
    · intro x hx g hg
      rw [List.mem_append]
      exact Or.inl (hguard x (List.mem_cons_of_mem r hx) g hg)

theorem Ascends.inOrder {rows : List ρ} (h : Ascends place guard [] rows) {n : Nat} {r : ρ}
    (hr : rows[n]? = some r) : InOrder place guard (rows.take n) r := by
  have hsplit : rows = rows.take n ++ r :: rows.drop (n + 1) := by
    obtain ⟨hlt, rfl⟩ := List.getElem?_eq_some_iff.mp hr
    rw [List.getElem_cons_drop, List.take_append_drop]
  rw [hsplit, ascends_append] at h
  exact h.2.1

/-- Whoever holds a row holds its guard. -/
theorem Ascends.guard_mem {held rows : List ρ} (h : Ascends place guard held rows)
    (hheld : ∀ x ∈ held, ∀ g, guard x = some g → g ∈ held) {r g : ρ} (hr : r ∈ rows)
    (hg : guard r = some g) : g ∈ held ++ rows := by
  induction rows generalizing held with
  | nil => cases hr
  | cons x rows ih =>
    obtain ⟨hx, hrest⟩ := h
    have hguarded : ∀ y ∈ held ++ [x], ∀ g, guard y = some g → g ∈ held ++ [x] := by
      intro y hy g hyg
      rw [List.mem_append, List.mem_singleton] at hy ⊢
      rcases hy with hy | rfl
      · exact Or.inl (hheld y hy g hyg)
      · rcases hx with hx | hx
        · exact Or.inl (hheld y hx g hyg)
        · exact Or.inl (hx.2 g hyg)
    rcases List.mem_cons.mp hr with rfl | hr
    · have hmem := hguarded r (by simp) g hg
      rw [List.append_cons, List.mem_append]
      exact Or.inl hmem
    · have hmem := ih hrest hguarded hr
      simpa using hmem

/-- What does not go down on the way round a ring stays the same. -/
theorem ring_le {k : Nat} {f : Fin (k + 1) → α} (h : ∀ m, f m ≤ f (m + 1)) (m : Fin (k + 1)) :
    f m ≤ f 0 := by
  induction m using Fin.reverseInduction with
  | last =>
    have hlast := h (Fin.last k)
    rwa [Fin.last_add_one] at hlast
  | cast m ih =>
    have hnext := h m.castSucc
    rw [Fin.coeSucc_eq_succ] at hnext
    exact hnext.trans ih

/-- A ring of transactions that all ask in order does not cross. -/
theorem not_crossing_of_ascends {ι : Type} {locks : ι → List ρ} {k : Nat}
    {ring : Fin (k + 1) → ι} {cut : ι → Nat}
    (hplace : ∀ r r', place r = place r' → r = r' ∨ (guard r).isSome)
    (hascends : ∀ m, Ascends place guard [] (locks (ring m))) :
    ¬ Crossing locks ring cut := by
  intro h
  have hasked : ∀ m, ∃ r, (locks (ring m))[cut (ring m)]? = some r ∧
      r ∈ (locks (ring (m + 1))).take (cut (ring (m + 1))) := fun m => (h.closes m).2
  choose r hr hheld using hasked
  have hdisjoint : ∀ m, ((locks (ring m)).take (cut (ring m))).Disjoint
      ((locks (ring (m + 1))).take (cut (ring (m + 1)))) := fun m => h.apart _ _ (h.closes m).1
  have hnew : ∀ m, r m ∉ (locks (ring m)).take (cut (ring m)) :=
    fun m hmem => hdisjoint m hmem (hheld m)
  have horder : ∀ m, (∀ x ∈ (locks (ring m)).take (cut (ring m)), place x ≤ place (r m)) ∧
      ∀ g, guard (r m) = some g → g ∈ (locks (ring m)).take (cut (ring m)) :=
    fun m => ((hascends m).inOrder (hr m)).resolve_left (hnew m)
  have hup : ∀ m, place (r m) ≤ place (r (m + 1)) :=
    fun m => (horder (m + 1)).1 _ (hheld m)
  have hsame : place (r 0) = place (r (0 + 1)) := le_antisymm (hup 0) (ring_le hup (0 + 1))
  rcases hplace _ _ hsame with heq | hguard
  · have hmem := hheld 0
    rw [heq] at hmem
    exact hnew (0 + 1) hmem
  · -- both hold the guard of the row, which only one of them can
    obtain ⟨g, hg⟩ := Option.isSome_iff_exists.mp hguard
    have hown : g ∈ (locks (ring 0)).take (cut (ring 0)) := (horder 0).2 g hg
    have htaken : Ascends place guard [] ((locks (ring (0 + 1))).take (cut (ring (0 + 1)))) := by
      have hall := hascends (0 + 1)
      rw [← List.take_append_drop (cut (ring (0 + 1))) (locks (ring (0 + 1))),
        ascends_append] at hall
      exact hall.1
    have hnext := htaken.guard_mem (by simp) (hheld 0) hg
    exact hdisjoint 0 hown hnext

end

end Locks

end Shopping
