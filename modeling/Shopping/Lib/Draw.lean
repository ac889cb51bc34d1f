import Shopping.Lib.Table

/-!
# Drawing an amount from a list of capacities

`draw need caps` walks over the capacities in order and takes from each what
is still needed, as far as the capacity goes.  It answers the entries taken
and the part of the need that no capacity covered.  A FIFO consumption and a
LIFO give-back are both this walk, over differently sorted lists.

`amountAt k ds` is what the entries `ds` say about the key `k`.  The facts
below are the accounting of a walk: what is taken plus what is left is the
need, no key gives more than its capacity, and a need is left over only when
every capacity is used up.  `draw_greedy` says which capacities are taken, and
`draw_add` that two walks in a row are one walk for the sum.
-/

namespace Shopping

/-- Entries of a walk: a key and the amount taken from it. -/
abbrev Entries := List (Nat × Int)

/-- Take `need` from the capacities, in order. -/
def draw (need : Int) : Entries → Entries × Int
  | [] => ([], need)
  | (k, cap) :: rest =>
    if need ≤ 0 then ([], need)
    else if cap ≤ 0 then draw need rest
    else ((k, min cap need) :: (draw (need - min cap need) rest).1,
      (draw (need - min cap need) rest).2)

/-- The sum of the amounts of some entries. -/
def Entries.total (ds : Entries) : Int := (ds.map Prod.snd).sum

/-- What the entries say about one key. -/
def amountAt (k : Nat) (ds : Entries) : Int := (ds.map fun d => if d.1 = k then d.2 else 0).sum

/-! ## Entries -/

@[simp] theorem Entries.total_nil : Entries.total [] = 0 := rfl

@[simp] theorem Entries.total_cons (d : Nat × Int) (ds : Entries) :
    Entries.total (d :: ds) = d.2 + Entries.total ds := by
  simp [Entries.total]

@[simp] theorem amountAt_nil (k : Nat) : amountAt k [] = 0 := rfl

@[simp] theorem amountAt_cons (k : Nat) (d : Nat × Int) (ds : Entries) :
    amountAt k (d :: ds) = (if d.1 = k then d.2 else 0) + amountAt k ds := by
  simp [amountAt]

theorem amountAt_of_not_mem {k : Nat} {ds : Entries} (h : k ∉ ds.map Prod.fst) :
    amountAt k ds = 0 := by
  induction ds with
  | nil => rfl
  | cons d ds ih =>
    simp only [List.map_cons, List.mem_cons, not_or] at h
    rw [amountAt_cons, if_neg fun hc => h.1 hc.symm, ih h.2, add_zero]

/-- With distinct keys the amount of a key is the amount of its entry. -/
theorem amountAt_of_mem {k : Nat} {x : Int} {ds : Entries} (hnd : (ds.map Prod.fst).Nodup)
    (h : (k, x) ∈ ds) : amountAt k ds = x := by
  induction ds with
  | nil => simp at h
  | cons d ds ih =>
    rw [List.map_cons, List.nodup_cons] at hnd
    rw [amountAt_cons]
    rcases List.mem_cons.mp h with rfl | h
    · rw [if_pos rfl, amountAt_of_not_mem hnd.1, add_zero]
    · have hne : d.1 ≠ k := fun hc => hnd.1 (hc ▸ List.mem_map_of_mem h)
      rw [if_neg hne, ih hnd.2 h, zero_add]

/-- A key with an amount has an entry. -/
theorem mem_keys_of_amountAt {k : Nat} {ds : Entries} (h : amountAt k ds ≠ 0) :
    k ∈ ds.map Prod.fst := by
  by_contra hk
  exact h (amountAt_of_not_mem hk)

/-- With distinct keys, the entry of a key with an amount has that amount. -/
theorem mem_of_amountAt {k : Nat} {ds : Entries} (hnd : (ds.map Prod.fst).Nodup)
    (h : amountAt k ds ≠ 0) : (k, amountAt k ds) ∈ ds := by
  obtain ⟨d, hd, rfl⟩ := List.mem_map.mp (mem_keys_of_amountAt h)
  rw [amountAt_of_mem hnd hd]
  exact hd

theorem amountAt_nonneg {ds : Entries} (h : ∀ d ∈ ds, 0 ≤ d.2) (k : Nat) : 0 ≤ amountAt k ds := by
  refine List.sum_nonneg fun x hx => ?_
  obtain ⟨d, hd, rfl⟩ := List.mem_map.mp hx
  split
  · exact h d hd
  · exact le_refl 0

theorem Entries.total_nonneg {ds : Entries} (h : ∀ d ∈ ds, 0 ≤ d.2) : 0 ≤ Entries.total ds := by
  refine List.sum_nonneg fun x hx => ?_
  obtain ⟨d, hd, rfl⟩ := List.mem_map.mp hx
  exact h d hd

/-- Over a table that holds every key of the entries, the amounts of the rows
sum up to the total. -/
theorem sum_amountAt {α : Type} (t : Table α) (ds : Entries)
    (h : ∀ d ∈ ds, ∃ a, t.get? d.1 = some a) :
    (t.sum fun k _ => amountAt k ds) = Entries.total ds := by
  induction ds with
  | nil => simp
  | cons d ds ih =>
    obtain ⟨a, ha⟩ := h d List.mem_cons_self
    have hd : (t.sum fun k _ => if d.1 = k then d.2 else 0) = d.2 := by
      refine Eq.trans (Table.sum_congr fun k b _ => ?_) (Table.sum_single ha fun _ => d.2)
      simp only [eq_comm]
    simp only [amountAt_cons, Entries.total_cons]
    rw [t.sum_add, hd, ih fun e he => h e (List.mem_cons_of_mem _ he)]

/-! ## The walk -/

theorem draw_of_nonpos {need : Int} (h : need ≤ 0) (caps : Entries) :
    draw need caps = ([], need) := by
  cases caps with
  | nil => rfl
  | cons c rest => simp only [draw, if_pos h]

/-- What is taken plus what is left is the need. -/
theorem draw_total (need : Int) (caps : Entries) :
    Entries.total (draw need caps).1 + (draw need caps).2 = need := by
  induction caps generalizing need with
  | nil => simp [draw]
  | cons c rest ih =>
    obtain ⟨k, cap⟩ := c
    rw [draw]
    split
    · simp
    · split
      · exact ih need
      · have hrest := ih (need - min cap need)
        simp only [Entries.total_cons]
        linarith

theorem draw_left_nonneg {need : Int} (h : 0 ≤ need) (caps : Entries) :
    0 ≤ (draw need caps).2 := by
  induction caps generalizing need with
  | nil => exact h
  | cons c rest ih =>
    obtain ⟨k, cap⟩ := c
    rw [draw]
    split
    · exact h
    · split
      · exact ih h
      · exact ih (sub_nonneg.mpr (min_le_right _ _))

/-- The walk keeps the order of the keys and takes each at most once. -/
theorem draw_keys_sublist (need : Int) (caps : Entries) :
    ((draw need caps).1.map Prod.fst).Sublist (caps.map Prod.fst) := by
  induction caps generalizing need with
  | nil => exact List.nil_sublist _
  | cons c rest ih =>
    obtain ⟨k, cap⟩ := c
    rw [draw]
    split
    · exact List.nil_sublist _
    · split
      · exact (ih need).cons k
      · exact (ih (need - min cap need)).cons_cons k

theorem draw_keys_nodup {caps : Entries} (h : (caps.map Prod.fst).Nodup) (need : Int) :
    ((draw need caps).1.map Prod.fst).Nodup :=
  h.sublist (draw_keys_sublist need caps)

/-- Every entry takes a positive amount within the capacity of its key. -/
theorem draw_entry {need : Int} {caps : Entries} {k : Nat} {x : Int}
    (h : (k, x) ∈ (draw need caps).1) : 0 < x ∧ ∃ cap, (k, cap) ∈ caps ∧ x ≤ cap := by
  induction caps generalizing need with
  | nil => simp [draw] at h
  | cons c rest ih =>
    obtain ⟨j, cap⟩ := c
    have hrest : ∀ n, (k, x) ∈ (draw n rest).1 →
        0 < x ∧ ∃ cap', (k, cap') ∈ (j, cap) :: rest ∧ x ≤ cap' := by
      intro n hn
      obtain ⟨hx, cap', hmem, hle⟩ := ih hn
      exact ⟨hx, cap', List.mem_cons_of_mem _ hmem, hle⟩
    rw [draw] at h
    split at h
    · simp at h
    · rename_i hneed
      split at h
      · exact hrest _ h
      · rename_i hcap
        rcases List.mem_cons.mp h with heq | h
        · obtain ⟨rfl, rfl⟩ := Prod.mk.inj heq
          exact ⟨lt_min (not_le.mp hcap) (not_le.mp hneed), cap, List.mem_cons_self,
            min_le_left _ _⟩
        · exact hrest _ h

theorem draw_amountAt_nonneg (need : Int) (caps : Entries) (k : Nat) :
    0 ≤ amountAt k (draw need caps).1 :=
  amountAt_nonneg (fun _ hd => le_of_lt (draw_entry hd).1) k

/-- When the walk leaves a need over, every positive capacity was taken in
full. -/
theorem draw_exhausts {need : Int} {caps : Entries} (hleft : 0 < (draw need caps).2)
    {k : Nat} {cap : Int} (hmem : (k, cap) ∈ caps) (hcap : 0 < cap) :
    (k, cap) ∈ (draw need caps).1 := by
  induction caps generalizing need with
  | nil => simp at hmem
  | cons c rest ih =>
    obtain ⟨j, cap'⟩ := c
    rw [draw] at hleft ⊢
    split
    · rename_i h0
      rw [if_pos h0] at hleft
      exact absurd h0 (not_le.mpr hleft)
    · rename_i h0
      rw [if_neg h0] at hleft
      split
      · rename_i h1
        rw [if_pos h1] at hleft
        rcases List.mem_cons.mp hmem with heq | hmem
        · obtain ⟨rfl, rfl⟩ := Prod.mk.inj heq
          exact absurd h1 (not_le.mpr hcap)
        · exact ih hleft hmem
      · rename_i h1
        rw [if_neg h1] at hleft
        rcases List.mem_cons.mp hmem with heq | hmem
        · obtain ⟨rfl, rfl⟩ := Prod.mk.inj heq
          have hlt : cap < need := by
            by_contra hge
            have hnone : need - min cap need = 0 := by
              rw [min_eq_right (not_lt.mp hge), sub_self]
            rw [hnone, draw_of_nonpos (le_refl 0)] at hleft
            exact absurd hleft (lt_irrefl _)
          rw [min_eq_left (le_of_lt hlt)]
          exact List.mem_cons_self
        · exact List.mem_cons_of_mem _ (ih hleft hmem)

/-- Capacities that hold the need leave nothing of it over. -/
theorem draw_covered {need : Int} {caps : Entries} (hcaps : ∀ c ∈ caps, 0 ≤ c.2)
    (h : need ≤ caps.total) : (draw need caps).2 ≤ 0 := by
  induction caps generalizing need with
  | nil => exact h
  | cons c rest ih =>
    obtain ⟨k, cap⟩ := c
    have hrest : ∀ c ∈ rest, 0 ≤ c.2 := fun c hc => hcaps c (List.mem_cons_of_mem _ hc)
    have htotal : 0 ≤ Entries.total rest := Entries.total_nonneg hrest
    rw [Entries.total_cons] at h
    rw [draw]
    split
    · assumption
    · split
      · exact ih hrest (by omega)
      · exact ih hrest (by omega)

/-- What the walk takes of a key, one capacity at a time. -/
theorem amountAt_draw_cons {need cap : Int} (hneed : 0 ≤ need) (hcap : 0 ≤ cap) (j k : Nat)
    (rest : Entries) :
    amountAt k (draw need ((j, cap) :: rest)).1
      = (if j = k then min cap need else 0) + amountAt k (draw (need - min cap need) rest).1 := by
  rw [draw]
  split
  · have h0 : need = 0 := by omega
    rw [h0, min_eq_right hcap, sub_zero, draw_of_nonpos (le_refl 0), amountAt_nil, ite_self,
      add_zero]
  · split
    · have h0 : cap = 0 := by omega
      rw [h0, min_eq_left hneed, sub_zero, ite_self, zero_add]
    · rw [amountAt_cons]

/-- The walk takes as much of the need as there is. -/
theorem draw_total_eq_min {need : Int} {caps : Entries} (hneed : 0 ≤ need)
    (hcaps : ∀ c ∈ caps, 0 ≤ c.2) : (draw need caps).1.total = min need caps.total := by
  induction caps generalizing need with
  | nil =>
    show 0 = min need 0
    omega
  | cons c rest ih =>
    obtain ⟨k, cap⟩ := c
    have hcap : 0 ≤ cap := hcaps (k, cap) List.mem_cons_self
    have hrest : ∀ c ∈ rest, 0 ≤ c.2 := fun c hc => hcaps c (List.mem_cons_of_mem _ hc)
    have htotal : 0 ≤ Entries.total rest := Entries.total_nonneg hrest
    rw [draw]
    split
    · simp only [Entries.total_nil, Entries.total_cons]
      omega
    · split
      · rw [ih hneed hrest, Entries.total_cons]
        omega
      · simp only [Entries.total_cons]
        rw [ih (by omega) hrest]
        omega

/-- The walk is greedy: it takes the first capacities in full, at most one
more in part, and nothing of the rest. -/
theorem draw_greedy {need : Int} {caps : Entries} (hneed : 0 ≤ need)
    (hnd : (caps.map Prod.fst).Nodup) (hcaps : ∀ c ∈ caps, 0 ≤ c.2) :
    ∃ full part rest, caps = full ++ part ++ rest ∧ part.length ≤ 1 ∧
      (∀ c ∈ full, amountAt c.1 (draw need caps).1 = c.2) ∧
      (∀ c ∈ part, 0 < amountAt c.1 (draw need caps).1 ∧
        amountAt c.1 (draw need caps).1 < c.2) ∧
      ∀ c ∈ rest, amountAt c.1 (draw need caps).1 = 0 := by
  induction caps generalizing need with
  | nil => exact ⟨[], [], [], rfl, Nat.zero_le 1, nofun, nofun, nofun⟩
  | cons c rest ih =>
    obtain ⟨k, cap⟩ := c
    have hcap : 0 ≤ cap := hcaps (k, cap) List.mem_cons_self
    rw [List.map_cons, List.nodup_cons] at hnd
    have htake : ∀ j, amountAt j (draw need ((k, cap) :: rest)).1
        = (if k = j then min cap need else 0)
          + amountAt j (draw (need - min cap need) rest).1 :=
      fun j => amountAt_draw_cons hneed hcap k j rest
    have hhead : amountAt k (draw need ((k, cap) :: rest)).1 = min cap need := by
      rw [htake, if_pos rfl, amountAt_of_not_mem, add_zero]
      exact fun hmem => hnd.1 ((draw_keys_sublist _ rest).subset hmem)
    have htail : ∀ c ∈ rest, amountAt c.1 (draw need ((k, cap) :: rest)).1
        = amountAt c.1 (draw (need - min cap need) rest).1 := by
      intro c hc
      rw [htake, if_neg, zero_add]
      intro hkc
      apply hnd.1
      show k ∈ rest.map Prod.fst
      rw [hkc]
      exact List.mem_map_of_mem hc
    by_cases hle : cap ≤ need
    · -- The head is taken in full, the rest by the walk over the tail.
      obtain ⟨full, part, after, hsplit, hpart, hfull, hpartly, hafter⟩ :=
        @ih (need - min cap need) (by omega) hnd.2
          fun c hc => hcaps c (List.mem_cons_of_mem _ hc)
      refine ⟨(k, cap) :: full, part, after, by simp [hsplit], hpart, ?_, ?_, ?_⟩
      · intro c hc
        rcases List.mem_cons.mp hc with rfl | hc
        · rw [hhead, min_eq_left hle]
        · rw [htail c (by simp [hsplit, hc])]
          exact hfull c hc
      · intro c hc
        rw [htail c (by simp [hsplit, hc])]
        exact hpartly c hc
      · intro c hc
        rw [htail c (by simp [hsplit, hc])]
        exact hafter c hc
    · -- The head covers the need, and nothing is left for the tail.
      have hnone : ∀ c ∈ rest, amountAt c.1 (draw need ((k, cap) :: rest)).1 = 0 := by
        intro c hc
        rw [htail c hc, draw_of_nonpos (by omega), amountAt_nil]
      by_cases h0 : need = 0
      · refine ⟨[], [], (k, cap) :: rest, rfl, Nat.zero_le 1, nofun, nofun, ?_⟩
        intro c hc
        rcases List.mem_cons.mp hc with rfl | hc
        · show amountAt k _ = 0
          rw [hhead]
          omega
        · exact hnone c hc
      · refine ⟨[], [(k, cap)], rest, rfl, Nat.le_refl 1, nofun, ?_, hnone⟩
        intro c hc
        rw [List.mem_singleton.mp hc]
        show 0 < amountAt k _ ∧ amountAt k _ < cap
        rw [hhead]
        omega

/-! ## One walk after the other -/

/-- What the entries leave of the capacities. -/
def Entries.less (caps taken : Entries) : Entries :=
  caps.map fun c => (c.1, c.2 - amountAt c.1 taken)

/-- A walk passes over the keys that have nothing. -/
theorem draw_filter_pos (need : Int) (caps : Entries) :
    draw need (caps.filter fun c => decide (0 < c.2)) = draw need caps := by
  induction caps generalizing need with
  | nil => rfl
  | cons c rest ih =>
    obtain ⟨k, cap⟩ := c
    by_cases hcap : 0 < cap
    · rw [List.filter_cons_of_pos (by simpa using hcap), draw, draw]
      simp only [ih]
    · rw [List.filter_cons_of_neg (by simpa using hcap), ih, draw]
      by_cases hneed : need ≤ 0
      · rw [if_pos hneed, draw_of_nonpos hneed]
      · rw [if_neg hneed, if_pos (not_lt.mp hcap)]

theorem draw_left_cons {need cap : Int} (hneed : 0 ≤ need) (hcap : 0 ≤ cap) (k : Nat)
    (rest : Entries) :
    (draw need ((k, cap) :: rest)).2 = (draw (need - min cap need) rest).2 := by
  rw [draw]
  split
  · have h0 : need - min cap need = need := by omega
    rw [h0, draw_of_nonpos (by assumption)]
  · split
    · have h0 : need - min cap need = need := by omega
      rw [h0]
    · rfl

/-- A walk for `a`, and then one for `b` over what it left, is the walk for
`a + b`. -/
theorem draw_add {a b : Int} {caps : Entries} (ha : 0 ≤ a) (hb : 0 ≤ b)
    (hnd : (caps.map Prod.fst).Nodup) (hcaps : ∀ c ∈ caps, 0 ≤ c.2) :
    (∀ k, amountAt k (draw a caps).1 + amountAt k (draw b (caps.less (draw a caps).1)).1
        = amountAt k (draw (a + b) caps).1) ∧
      (draw a caps).2 + (draw b (caps.less (draw a caps).1)).2 = (draw (a + b) caps).2 := by
  induction caps generalizing a b with
  | nil => exact ⟨fun _ => rfl, rfl⟩
  | cons c rest ih =>
    obtain ⟨k, cap⟩ := c
    have hcap : 0 ≤ cap := hcaps (k, cap) List.mem_cons_self
    rw [List.map_cons, List.nodup_cons] at hnd
    have htake : ∀ j, amountAt j (draw a ((k, cap) :: rest)).1
        = (if k = j then min cap a else 0) + amountAt j (draw (a - min cap a) rest).1 :=
      fun j => amountAt_draw_cons ha hcap k j rest
    -- The first walk leaves the head `cap - min cap a`, and the tail as its own walk does.
    have hless : Entries.less ((k, cap) :: rest) (draw a ((k, cap) :: rest)).1
        = (k, cap - min cap a) :: Entries.less rest (draw (a - min cap a) rest).1 := by
      unfold Entries.less
      rw [List.map_cons, htake k, if_pos rfl, amountAt_of_not_mem, add_zero]
      · refine congrArg _ (List.map_congr_left fun c hc => ?_)
        rw [htake, if_neg, zero_add]
        intro hkc
        apply hnd.1
        show k ∈ rest.map Prod.fst
        rw [hkc]
        exact List.mem_map_of_mem hc
      · exact fun hmem => hnd.1 ((draw_keys_sublist _ rest).subset hmem)
    have hleft : 0 ≤ cap - min cap a := by omega
    have hsum : a + b - min cap (a + b)
        = (a - min cap a) + (b - min (cap - min cap a) b) := by omega
    obtain ⟨htaken, hover⟩ := ih (a := a - min cap a) (b := b - min (cap - min cap a) b)
      (by omega) (by omega) hnd.2 fun c hc => hcaps c (List.mem_cons_of_mem _ hc)
    rw [hless]
    constructor
    · intro j
      rw [htake j, amountAt_draw_cons hb hleft, amountAt_draw_cons (by omega) hcap, hsum,
        ← htaken j]
      by_cases hj : k = j
      · simp only [if_pos hj]
        omega
      · simp only [if_neg hj]
        omega
    · rw [draw_left_cons ha hcap, draw_left_cons hb hleft, draw_left_cons (by omega) hcap, hsum]
      exact hover

/-! ## Two walks -/

/-- Two walks over the same keys, where the second finds `b` more under each:
they take the same of every key exactly when no key with more is reached
before the need is covered without it. -/
theorem draw_same_iff {ι : Type} {key : ι → Nat} {a b : ι → Int} {l : List ι} {need : Int}
    (hneed : 0 ≤ need) (hnd : (l.map key).Nodup) (ha : ∀ i ∈ l, 0 ≤ a i)
    (hb : ∀ i ∈ l, 0 ≤ b i) :
    (∀ i ∈ l, amountAt (key i) (draw need (l.map fun i => (key i, a i))).1
        = amountAt (key i) (draw need (l.map fun i => (key i, a i + b i))).1) ↔
      ∀ pre i post, l = pre ++ i :: post → 0 < b i → need ≤ ((pre ++ [i]).map a).sum := by
  induction l generalizing need with
  | nil =>
    constructor
    · intro _ pre i post h
      cases pre with
      | nil => cases h
      | cons _ _ => cases h
    · intro _ i hi
      cases hi
  | cons c rest ih =>
    rw [List.map_cons, List.nodup_cons] at hnd
    have hac := ha c List.mem_cons_self
    have hbc := hb c List.mem_cons_self
    have hrest : ∀ i ∈ rest, 0 ≤ a i := fun i hi => ha i (List.mem_cons_of_mem _ hi)
    have hkey : ∀ i ∈ rest, key c ≠ key i := fun i hi hc => hnd.1 (hc ▸ List.mem_map_of_mem hi)
    -- The head takes what it has, and the rest sees what is left.
    have htake : ∀ (f : ι → Int) (n : Int), 0 ≤ f c → 0 ≤ n → ∀ k,
        amountAt k (draw n ((c :: rest).map fun i => (key i, f i))).1
          = (if key c = k then min (f c) n else 0)
            + amountAt k (draw (n - min (f c) n) (rest.map fun i => (key i, f i))).1 :=
      fun f n hf hn k => amountAt_draw_cons hn hf _ _ _
    have hnone : ∀ (f : ι → Int) (n : Int),
        amountAt (key c) (draw n (rest.map fun i => (key i, f i))).1 = 0 := by
      intro f n
      refine amountAt_of_not_mem fun hmem => hnd.1 ?_
      have hkeys := (draw_keys_sublist n (rest.map fun i => (key i, f i))).subset hmem
      rwa [List.map_map] at hkeys
    have hstep := @ih (need - min (a c) need) (by omega) hnd.2 hrest
      fun i hi => hb i (List.mem_cons_of_mem _ hi)
    have hsum : ∀ (pre : List ι) (i : ι), (∀ j ∈ pre ++ [i], j ∈ rest) →
        0 ≤ ((pre ++ [i]).map a).sum := by
      intro pre i hmem
      refine List.sum_nonneg fun x hx => ?_
      obtain ⟨j, hj, rfl⟩ := List.mem_map.mp hx
      exact hrest j (hmem j hj)
    constructor
    · intro hsame pre i post hl hpos
      have hhead := hsame c List.mem_cons_self
      rw [htake _ _ hac hneed, htake _ _ (by omega) hneed, if_pos rfl, if_pos rfl, hnone, hnone,
        add_zero, add_zero] at hhead
      cases pre with
      | nil =>
        obtain ⟨rfl, rfl⟩ := List.cons.inj hl
        simp only [List.nil_append, List.map_cons, List.map_nil, List.sum_cons, List.sum_nil]
        omega
      | cons p pre =>
        obtain ⟨rfl, hrestl⟩ := List.cons.inj hl
        have hmem : ∀ j ∈ pre ++ [i], j ∈ rest := by
          intro j hj
          rw [show rest = pre ++ i :: post from hrestl]
          simp only [List.mem_append, List.mem_cons] at hj ⊢
          tauto
        have hcond := hstep.mp (fun j hj => ?_) pre i post hrestl hpos
        · have h0 := hsum pre i hmem
          simp only [List.cons_append, List.map_cons, List.sum_cons]
          omega
        · have hj' := hsame j (List.mem_cons_of_mem _ hj)
          rw [htake _ _ hac hneed, htake _ _ (by omega) hneed, if_neg (hkey j hj),
            if_neg (hkey j hj), zero_add, zero_add, ← hhead] at hj'
          exact hj'
    · intro hcond
      have hfirst : 0 < b c → need ≤ a c := by
        intro hpos
        have h := hcond [] c rest rfl hpos
        simpa using h
      have hhead : min (a c + b c) need = min (a c) need := by
        by_cases hpos : 0 < b c
        · have h := hfirst hpos
          omega
        · omega
      have hlater := hstep.mpr fun pre i post hl hpos => ?_
      · intro i hi
        rw [htake _ _ hac hneed, htake _ _ (by omega) hneed, hhead]
        rcases List.mem_cons.mp hi with rfl | hi
        · rw [hnone, hnone]
        · rw [if_neg (hkey i hi), zero_add, zero_add]
          exact hlater i hi
      · have h := hcond (c :: pre) i post (by rw [hl, List.cons_append]) hpos
        have h0 := hsum pre i fun j hj => by
          rw [hl]
          simp only [List.mem_append, List.mem_cons] at hj ⊢
          tauto
        simp only [List.cons_append, List.map_cons, List.sum_cons] at h
        omega

end Shopping
