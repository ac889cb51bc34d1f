import Shopping.Points.Reclaims

/-!
# How a use of points is spread over the earn rows

`use_points_fifo` takes the earn rows by expiry date.  The rows that it looks
at (`availablePoints_mem`, `availablePoints_sorted`) are used up one after the
other, the last one perhaps in part (`consumed_greedy`), and the others are
left alone.  The list of what was taken is what the rows record
(`consumed_recorded`).

A use fails before it writes, or, when it is a reclaim, after the loop has
found too little.  `Short` is the condition for the second
(`usePointsFifo_short_iff`).
-/

namespace Shopping

open PointService

variable {L : Ledger} {now : Time} {user : UserId} {amount : Int} {type : PointType}

/-! ## The rows in question -/

/-- An earn row of the user that is not flagged expired, and for a reclaim
also not due. -/
def Usable (now : Time) (user : UserId) (type : PointType) (r : PointHistory) : Prop :=
  r.user = user ∧ r.type = .earn ∧ r.metadata.expired = false ∧
    (type = .cancelDeduct → now < r.expiry)

theorem isUsable_iff {r : PointHistory} :
    isUsable now user type r = true ↔ Usable now user type r := by
  by_cases hc : type = .cancelDeduct
  · subst hc
    rw [isUsable_cancelDeduct]
    unfold Usable
    tauto
  · unfold isUsable Usable
    simp only [Bool.and_eq_true, Bool.or_eq_true, decide_eq_true_eq, Bool.not_eq_true', ne_eq, hc,
      not_false_eq_true, true_or, and_true, false_implies, and_assoc]

theorem availablePoints_mem {k : Nat} {r : PointHistory} :
    (k, r) ∈ availablePoints L now user type ↔
      L.histories.get? k = some r ∧ Usable now user type r := by
  rw [mem_availablePoints, isUsable_iff]

/-- The rows come by expiry date, and by date of creation under one expiry
date. -/
theorem availablePoints_sorted (L : Ledger) (now : Time) (user : UserId) (type : PointType) :
    (availablePoints L now user type).Pairwise expiresFirst := by
  have htotal : ∀ a b c d : Nat, (a < c ∨ a = c ∧ b ≤ d) ∨ (c < a ∨ c = a ∧ d ≤ b) := by
    omega
  have htrans : ∀ a b c d e f : Nat, (a < c ∨ a = c ∧ b ≤ d) → (c < e ∨ c = e ∧ d ≤ f) →
      (a < e ∨ a = e ∧ b ≤ f) := by
    omega
  have : Std.Total expiresFirst := ⟨fun _ _ => htotal _ _ _ _⟩
  have : IsTrans (Nat × PointHistory) expiresFirst := ⟨fun _ _ _ => htrans _ _ _ _ _ _⟩
  exact List.pairwise_insertionSort expiresFirst _

/-! ## What is taken -/

theorem amountAt_consumed_of_row {k : Nat} {r : PointHistory}
    (hr : L.histories.get? k = some r) (hno : ¬ Usable now user type r) :
    amountAt k (consumed L now user amount type) = 0 := by
  by_contra h0
  obtain ⟨d, hd, rfl⟩ := List.mem_map.mp (mem_keys_of_amountAt h0)
  obtain ⟨_, s, hs, husable, _⟩ := mem_consumed hd
  rw [hr] at hs
  cases hs
  exact hno (isUsable_iff.mp husable)

/-- The rows are taken in their order: some of them in full, at most one more
in part, and none of the rest. -/
theorem consumed_greedy (hamount : 0 ≤ amount) :
    ∃ full part rest, availablePoints L now user type = full ++ part ++ rest ∧ part.length ≤ 1 ∧
      (∀ p ∈ full, amountAt p.1 (consumed L now user amount type) = p.2.remainingPoints) ∧
      (∀ p ∈ part, 0 < amountAt p.1 (consumed L now user amount type) ∧
        amountAt p.1 (consumed L now user amount type) < p.2.remainingPoints) ∧
      ∀ p ∈ rest, amountAt p.1 (consumed L now user amount type) = 0 := by
  obtain ⟨full, part, rest, hsplit, hpart, hfull, hpartly, hrest⟩ :=
    @draw_greedy amount (remainingCaps (availablePoints L now user type)) hamount
      (by rw [remainingCaps_keys]; exact availablePoints_nodup L now user type)
      remainingCaps_nonneg
  unfold remainingCaps at hsplit
  obtain ⟨front, rows, happend, hfront, hrows⟩ := List.map_eq_append_iff.mp hsplit
  obtain ⟨frows, prows, hfp, hf, hp⟩ := List.map_eq_append_iff.mp hfront
  subst hf hp hrows
  refine ⟨frows, prows, rows, by rw [happend, hfp], by simpa using hpart, ?_, ?_, ?_⟩
  · intro p hp
    exact hfull _ (List.mem_map_of_mem hp)
  · intro p hp
    exact hpartly _ (List.mem_map_of_mem hp)
  · intro p hp
    exact hrest _ (List.mem_map_of_mem hp)

/-- What is taken in all. -/
theorem consumed_total_min (hamount : 0 ≤ amount) :
    Entries.total (consumed L now user amount type)
      = min amount ((availablePoints L now user type).map fun p => p.2.remainingPoints).sum := by
  have htotal := @draw_total_eq_min amount (remainingCaps (availablePoints L now user type))
    hamount remainingCaps_nonneg
  unfold Entries.total remainingCaps at htotal
  rw [List.map_map] at htotal
  exact htotal

theorem consumed_keys_nodup : ((consumed L now user amount type).map Prod.fst).Nodup := by
  refine draw_keys_nodup ?_ amount
  rw [remainingCaps_keys]
  exact availablePoints_nodup L now user type

/-- A reclaim comes up short exactly when the usable rows hold too little. -/
theorem missing_pos_iff (hamount : 0 ≤ amount) :
    0 < missing L now user amount .cancelDeduct ↔ getUsablePoints L now user < amount := by
  have hsum := consumed_add_missing L now user amount .cancelDeduct
  have htotal := @draw_total_eq_min amount
    (remainingCaps (availablePoints L now user .cancelDeduct)) hamount remainingCaps_nonneg
  rw [← getUsablePoints_eq] at htotal
  unfold consumed at hsum
  omega

/-- `R` are the rows that a use may draw on, by expiry date. -/
structure ByExpiry (L : Ledger) (now : Time) (user : UserId) (type : PointType)
    (R : List (Nat × PointHistory)) : Prop where
  mem : ∀ k r, (k, r) ∈ R ↔ L.histories.get? k = some r ∧ Usable now user type r
  nodup : (R.map Prod.fst).Nodup
  sorted : R.Pairwise expiresFirst

theorem byExpiry_availablePoints (L : Ledger) (now : Time) (user : UserId) (type : PointType) :
    ByExpiry L now user type (availablePoints L now user type) :=
  ⟨fun _ _ => availablePoints_mem, availablePoints_nodup L now user type,
    availablePoints_sorted L now user type⟩

/-- The use of `amount`, as `used` lists it, takes `L` to `L'` and draws on the
rows `R` in their order. -/
structure Allocates (L : Ledger) (user : UserId) (amount : Int) (R : List (Nat × PointHistory))
    (used : Details) (L' : Ledger) : Prop where
  greedy : ∃ full part rest, R = full ++ part ++ rest ∧ part.length ≤ 1 ∧
    (∀ p ∈ full, amountAt p.1 used = p.2.remainingPoints) ∧
    (∀ p ∈ part, 0 < amountAt p.1 used ∧ amountAt p.1 used < p.2.remainingPoints) ∧
    ∀ p ∈ rest, amountAt p.1 used = 0
  total : Entries.total used = min amount (R.map fun p => p.2.remainingPoints).sum
  once : (used.map Prod.fst).Nodup
  positive : ∀ d ∈ used, 0 < d.2 ∧ d.1 ∈ R.map Prod.fst
  recorded : ∀ k r, L.histories.get? k = some r → ∃ r', L'.histories.get? k = some r' ∧
    r'.metadata.usedAmount = r.metadata.usedAmount + amountAt k used ∧ ((k, r) ∉ R → r' = r)
  points : ∀ v, L'.points v = L.points v - if user = v then amount else 0

/-- A booked use allocates its amount over the usable rows. -/
theorem consumed_allocates (hamount : 0 ≤ amount) (order : Option OrderId) (m : Metadata) :
    Allocates L user amount (availablePoints L now user type) (consumed L now user amount type)
      ((L.touch (PointHistory.usedBy now (consumed L now user amount type))).post now user
        (-amount) type order m) := by
  refine ⟨consumed_greedy hamount, consumed_total_min hamount, consumed_keys_nodup,
    fun d hd => ?_, fun k r hr => ?_, fun v => ?_⟩
  · obtain ⟨hpos, r, hr, husable, _⟩ := mem_consumed hd
    have hmem : (d.1, r) ∈ availablePoints L now user type :=
      availablePoints_mem.mpr ⟨hr, isUsable_iff.mp husable⟩
    exact ⟨hpos, List.mem_map_of_mem hmem⟩
  · refine ⟨PointHistory.usedBy now (consumed L now user amount type) k r, ?_,
      usedBy_usedAmount (consumed_nonneg k) r, fun hno => ?_⟩
    · rw [post_histories]
      refine Table.get?_insert_of_some ?_ _
      rw [Table.get?_mapRows, hr]
      rfl
    · have hnone : amountAt k (consumed L now user amount type) = 0 :=
        amountAt_consumed_of_row hr fun husable => hno (availablePoints_mem.mpr ⟨hr, husable⟩)
      unfold PointHistory.usedBy
      rw [hnone, if_neg (lt_irrefl 0)]
  · rw [post_points]
    show L.points v + _ = _
    split
    · omega
    · omega

/-! ## When a use fails, and what it leaves -/

/-- A reclaim that the account can bear, and the usable rows only in part. -/
def Short (L : Ledger) (now : Time) (user : UserId) (amount : Int) (type : PointType) : Prop :=
  type = .cancelDeduct ∧ amount ≤ L.points user ∧ 0 < getUsablePoints L now user ∧
    getUsablePoints L now user < amount

/-- A consumption that takes something is seen on a row. -/
theorem touch_consumed_ne (h : 0 < Entries.total (consumed L now user amount type)) :
    L.touch (PointHistory.usedBy now (consumed L now user amount type)) ≠ L := by
  intro hsame
  cases hds : consumed L now user amount type with
  | nil =>
    rw [hds] at h
    exact absurd h (lt_irrefl 0)
  | cons d ds =>
    have hd : d ∈ consumed L now user amount type := hds ▸ List.mem_cons_self
    obtain ⟨hpos, r, hr, _⟩ := mem_consumed hd
    have hat : amountAt d.1 (consumed L now user amount type) = d.2 :=
      amountAt_of_mem consumed_keys_nodup hd
    have hrow : (L.touch (PointHistory.usedBy now
        (consumed L now user amount type))).histories.get? d.1 = some r := by
      rw [hsame]
      exact hr
    rw [Table.get?_mapRows, hr, Option.map_some, Option.some.injEq] at hrow
    have h0 : 0 ≤ amountAt d.1 (consumed L now user amount type) := consumed_nonneg d.1
    have hused : (PointHistory.usedBy now (consumed L now user amount type) d.1
        r).metadata.usedAmount = _ := usedBy_usedAmount h0 r
    rw [hrow, hat] at hused
    omega

/-- A failed use leaves the ledger as it was, but for a reclaim that comes up
short. -/
theorem usePointsFifo_unchanged_iff (order : Option OrderId) (returnId : Option Nat) :
    ((usePointsFifo L now user amount type order returnId).1.success = false →
      (usePointsFifo L now user amount type order returnId).2 = L) ↔
        ¬ Short L now user amount type := by
  rcases usePointsFifo_cases L now user amount type order returnId with
    ⟨hno, hfail, hL⟩ | ⟨hacc, ⟨rfl, hmiss⟩, hfail, hL⟩ | ⟨hacc, hnot, hsuccess, _, _⟩
  · refine ⟨fun _ hshort => hno ?_, fun _ _ => hL⟩
    obtain ⟨rfl, hpoints, husable, hless⟩ := hshort
    exact ⟨lt_trans husable hless, nofun, hpoints⟩
  · have hless := (missing_pos_iff (le_of_lt hacc.1)).mp hmiss
    have hsum := consumed_add_missing L now user amount .cancelDeduct
    have htotal := @draw_total_eq_min amount
      (remainingCaps (availablePoints L now user .cancelDeduct)) (le_of_lt hacc.1)
      remainingCaps_nonneg
    rw [← getUsablePoints_eq] at htotal
    constructor
    · intro h hshort
      refine touch_consumed_ne ?_ (hL.symm.trans (h hfail))
      unfold consumed
      obtain ⟨_, _, husable, _⟩ := hshort
      omega
    · intro hnot _
      -- Nothing was usable, so the loop wrote nothing.
      have hnone : getUsablePoints L now user ≤ 0 := by
        by_contra hpos
        exact hnot ⟨rfl, hacc.2.2, not_le.mp hpos, hless⟩
      have hempty : consumed L now user amount .cancelDeduct = [] := by
        cases hds : consumed L now user amount .cancelDeduct with
        | nil => rfl
        | cons d ds =>
          have hpos : ∀ e ∈ consumed L now user amount .cancelDeduct, 0 < e.2 :=
            fun e he => (mem_consumed he).1
          rw [hds] at hpos
          have hrest : 0 ≤ Entries.total ds :=
            Entries.total_nonneg fun e he => le_of_lt (hpos e (List.mem_cons_of_mem _ he))
          have hd := hpos d List.mem_cons_self
          unfold consumed at hds
          rw [hds, Entries.total_cons] at htotal
          omega
      rw [hL, hempty]
      exact L.applyUses_nil now
  · refine ⟨fun _ hshort => ?_, fun _ hfail => ?_⟩
    · obtain ⟨rfl, _, _, hless⟩ := hshort
      exact hnot ⟨rfl, (missing_pos_iff (le_of_lt hacc.1)).mpr hless⟩
    · rw [hsuccess] at hfail
      cases hfail

/-- `use_points_fifo` is greedy by expiry date, and succeeds exactly when the
amount is one that may be used and the account, for a reclaim also the rows
that are not due, hold it. -/
theorem usePointsFifo_greedy (L : Ledger) (now : Time) (user : UserId) (amount : Int)
    (type : PointType) (order : Option OrderId) (returnId : Option Nat) :
    ((usePointsFifo L now user amount type order returnId).1.success = true →
      ∃ R, ByExpiry L now user type R ∧
        Allocates L user amount R (usePointsFifo L now user amount type order returnId).1.usedDetails
          (usePointsFifo L now user amount type order returnId).2) ∧
    (type = .use → ((usePointsFifo L now user amount type order returnId).1.success = true ↔
      100 ≤ amount ∧ amount ≤ L.points user)) ∧
    (type = .cancelDeduct →
      ((usePointsFifo L now user amount type order returnId).1.success = true ↔
        0 < amount ∧ amount ≤ min (L.points user) (getUsablePoints L now user))) := by
  rcases usePointsFifo_cases L now user amount type order returnId with
    ⟨hno, hfail, _⟩ | ⟨hacc, ⟨rfl, hmiss⟩, hfail, _⟩ | ⟨hacc, hnot, hsuccess, hdetails, hL⟩
  · rw [hfail]
    refine ⟨nofun, fun hu => ?_, fun hc => ?_⟩
    · refine ⟨nofun, fun ⟨hmin, hpoints⟩ => absurd ⟨by omega, fun _ => hmin, hpoints⟩ hno⟩
    · subst hc
      refine ⟨nofun, fun ⟨hpos, hle⟩ => absurd ⟨hpos, nofun, ?_⟩ hno⟩
      exact le_trans hle (min_le_left _ _)
  · rw [hfail]
    have hless := (missing_pos_iff (le_of_lt hacc.1)).mp hmiss
    refine ⟨nofun, nofun, fun _ => ⟨nofun, fun ⟨_, hle⟩ => ?_⟩⟩
    exact absurd (le_trans hle (min_le_right _ _)) (not_le.mpr hless)
  · rw [hsuccess, hdetails, hL]
    refine ⟨fun _ => ⟨_, byExpiry_availablePoints L now user type, ?_⟩, fun hu => ?_, fun hc => ?_⟩
    · exact consumed_allocates (le_of_lt hacc.1) order _
    · exact ⟨fun _ => ⟨hacc.2.1 hu, hacc.2.2⟩, fun _ => rfl⟩
    · subst hc
      refine ⟨fun _ => ⟨hacc.1, le_min hacc.2.2 ?_⟩, fun _ => rfl⟩
      by_contra hgt
      exact hnot ⟨rfl, (missing_pos_iff (le_of_lt hacc.1)).mpr (not_le.mp hgt)⟩

/-- An account of 500 that spends 200: the row that expires first is used up. -/
example :
    let given := [(0, 150), (50, 350)].foldl (fun L e =>
      match addPoints L e.1 7 e.2 with
      | .ok out => out.2
      | .error _ => L) Ledger.empty
    (usePointsFifo given 100 7 200 .use (some 1)).1.usedDetails = [(1, 150), (2, 50)] := by
  decide

end Shopping
