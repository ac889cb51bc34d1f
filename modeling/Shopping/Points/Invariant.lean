import Mathlib.Algebra.BigOperators.Group.Finset.Basic
import Mathlib.Algebra.Order.BigOperators.Group.Finset
import Shopping.Points.Loops

/-!
# The invariant of the point ledger

Three representations of a user's points have to agree: the cached balance
`user.points`, the history rows with their running balance, and the
`used_amount` that each earn row keeps in its metadata.

* `Booked`: the cached balance is the sum of the user's rows, every row
  continues the running balance of the row before it and stays at or above
  zero, and the rows were written in the order of the clock.
* `Covered`: no earn row is used beyond its points, and what `outstanding`
  reads back for all orders together is within the use the row records.
* `Solvent`: what the earn rows have left is within the cached balance.

Every operation is an update of metadata (`mapRows` under `KeepsEntry`)
followed by one or two entries in the books (`Ledger.post`).  The lemmas
below say what each of the two does to each of the three parts; the proofs
about the operations only add up.
-/

namespace Shopping

open PointService

/-! ## The parts -/

/-- The sum of the rows of one user. -/
def Ledger.pointsSum (L : Ledger) (user : UserId) : Int :=
  L.histories.sum fun _ r => if r.user = user then r.points else 0

/-- What the earn rows of one user have left. -/
def Ledger.remainingSum (L : Ledger) (user : UserId) : Int :=
  L.histories.sum fun _ r => if r.user = user then r.remainingPoints else 0

/-- Every row has the balance of the row before it, plus its own points, and
no balance is negative. -/
def RunningBalance : Int → List (Nat × PointHistory) → Prop
  | _, [] => True
  | b, p :: rest =>
    p.2.balance = b + p.2.points ∧ 0 ≤ p.2.balance ∧ RunningBalance p.2.balance rest

/-- The books are in order at `now`. -/
structure Booked (now : Time) (L : Ledger) : Prop where
  points_eq : ∀ u, L.points u = L.pointsSum u
  running : ∀ u, RunningBalance 0 (L.rowsOf u)
  dated : (L.histories.rows.map fun p => p.2.createdAt).Pairwise (· ≤ ·)
  past : ∀ k r, L.histories.get? k = some r → r.createdAt ≤ now

/-- The uses that the orders recorded are covered by the earn rows. -/
structure Covered (owner : OrderId → UserId) (L : Ledger) : Prop where
  used_le : ∀ k r, L.histories.get? k = some r → r.type = .earn →
    r.metadata.usedAmount ≤ r.points
  out_nonneg : ∀ o k, 0 ≤ outstanding L o k
  out_sum : ∀ k r, L.histories.get? k = some r → r.type = .earn → ∀ os : Finset OrderId,
    ∑ o ∈ os, outstanding L o k ≤ r.metadata.usedAmount
  out_row : ∀ o k, 0 < outstanding L o k →
    ∃ r, L.histories.get? k = some r ∧ r.type = .earn ∧ r.user = owner o

/-- The earn rows have nothing left that the account does not hold. -/
def Solvent (L : Ledger) : Prop := ∀ u, L.remainingSum u ≤ L.points u

/-! ## Entries in the books -/

/-- Book `points` on the account of `user` and write the history row. -/
def Ledger.post (L : Ledger) (now : Time) (user : UserId) (points : Int) (type : PointType)
    (order : Option OrderId) (metadata : Metadata) : Ledger :=
  (L.setPoints user (L.points user + points)).createHistory now user points type order metadata

/-- A debit that the account can bear is an entry: the clamp is the identity. -/
theorem Ledger.debit_eq_post {L : Ledger} {user : UserId} {x : Int} (h : x ≤ L.points user)
    (now : Time) (type : PointType) (order : Option OrderId) (m : Metadata) :
    (L.setPoints user (max (L.points user - x) 0)).createHistory now user (-x) type order m
      = L.post now user (-x) type order m := by
  rw [Ledger.post, max_eq_left (by omega), sub_eq_add_neg]

section Post

variable (L : Ledger) (now : Time) (u : UserId) (p : Int) (type : PointType)
  (order : Option OrderId) (m : Metadata)

/-- The row that `post` writes. -/
abbrev postedRow : PointHistory := PointHistory.create now u p (L.points u + p) type order m

theorem post_histories :
    (L.post now u p type order m).histories
      = L.histories.insert (postedRow L now u p type order m) := by
  unfold Ledger.post Ledger.createHistory
  simp

theorem post_points (v : UserId) :
    (L.post now u p type order m).points v = L.points v + if u = v then p else 0 := by
  unfold Ledger.post
  rw [Ledger.createHistory_points]
  by_cases h : v = u
  · subst h
    simp
  · rw [Ledger.setPoints_points_of_ne L h, if_neg (Ne.symm h), add_zero]

theorem post_pointsSum (v : UserId) :
    (L.post now u p type order m).pointsSum v = L.pointsSum v + if u = v then p else 0 := by
  unfold Ledger.pointsSum
  rw [post_histories, Table.sum_insert]
  rfl

theorem post_rowsOf (v : UserId) :
    (L.post now u p type order m).rowsOf v = L.rowsOf v ++
      if u = v then [(L.histories.next, postedRow L now u p type order m)] else [] := by
  unfold Ledger.rowsOf Table.select
  rw [post_histories, Table.insert, List.filter_append]
  congr 1
  by_cases h : u = v
  · simp [h, PointHistory.create]
  · simp [h, PointHistory.create]

theorem post_remainingSum_earn (hm : m.usedAmount = 0) (hx : m.expired = false) (hp : 0 ≤ p)
    (v : UserId) :
    (L.post now u p .earn order m).remainingSum v
      = L.remainingSum v + if u = v then p else 0 := by
  unfold Ledger.remainingSum
  rw [post_histories, Table.sum_insert]
  have hrow : (postedRow L now u p .earn order m).remainingPoints = p := by
    simp [PointHistory.remainingPoints, PointHistory.create, hm, hx, hp]
  rw [hrow]
  rfl

theorem post_remainingSum (ht : type ≠ .earn) (v : UserId) :
    (L.post now u p type order m).remainingSum v = L.remainingSum v := by
  unfold Ledger.remainingSum
  rw [post_histories, Table.sum_insert, PointHistory.remainingPoints_of_ne ht]
  simp

end Post

/-! ## The running balance -/

/-- The points of a list of rows. -/
def rowPoints (l : List (Nat × PointHistory)) : Int := (l.map fun p => p.2.points).sum

theorem runningBalance_append (b : Int) (l : List (Nat × PointHistory))
    (p : Nat × PointHistory) :
    RunningBalance b (l ++ [p]) ↔
      RunningBalance b l ∧ p.2.balance = b + rowPoints l + p.2.points ∧ 0 ≤ p.2.balance := by
  induction l generalizing b with
  | nil => simp [RunningBalance, rowPoints]
  | cons q l ih =>
    have hsum : rowPoints (q :: l) = q.2.points + rowPoints l := by simp [rowPoints]
    rw [List.cons_append, RunningBalance, ih, RunningBalance, hsum]
    constructor
    · intro ⟨hb, h0, hrun, hp, hp0⟩
      exact ⟨⟨hb, h0, hrun⟩, by omega, hp0⟩
    · intro ⟨⟨hb, h0, hrun⟩, hp, hp0⟩
      exact ⟨hb, h0, hrun, by omega, hp0⟩

/-- The rows of a user add up to the user's sum. -/
theorem rowPoints_rowsOf (L : Ledger) (u : UserId) : rowPoints (L.rowsOf u) = L.pointsSum u := by
  unfold rowPoints Ledger.rowsOf Ledger.pointsSum Table.select Table.sum
  induction L.histories.rows with
  | nil => rfl
  | cons q l ih =>
    by_cases h : q.2.user = u
    · simp [h, ih]
    · simp [h, ih]

/-- Along a running balance the last row has the sum of all the rows. -/
theorem balance_getLast {b : Int} {l : List (Nat × PointHistory)} {p : Nat × PointHistory}
    (h : RunningBalance b (l ++ [p])) : p.2.balance = b + rowPoints (l ++ [p]) := by
  have hp := ((runningBalance_append b l p).mp h).2.1
  have hsum : rowPoints (l ++ [p]) = rowPoints l + p.2.points := by simp [rowPoints]
  omega

/-- In a list sorted by date and id, `order_by("-created_at", "-id").first()`
is the last row. -/
theorem newest_append {l : List (Nat × PointHistory)} {p : Nat × PointHistory}
    (hdate : ∀ q ∈ l, q.2.createdAt ≤ p.2.createdAt) (hid : ∀ q ∈ l, q.1 < p.1) :
    Ledger.newest (l ++ [p]) = some p := by
  induction l with
  | nil => rfl
  | cons q l ih =>
    rw [List.cons_append, Ledger.newest, ih (fun r hr => hdate r (List.mem_cons_of_mem _ hr))
      (fun r hr => hid r (List.mem_cons_of_mem _ hr))]
    have hq : Ledger.newer q p = false := by
      have hd := hdate q List.mem_cons_self
      have hk := hid q List.mem_cons_self
      simp [Ledger.newer, Nat.not_lt.mpr hd, Nat.not_lt.mpr (le_of_lt hk)]
    simp [hq]

namespace Booked

variable {now : Time} {L : Ledger}

/-- `get_user_balance` answers the cached balance. -/
theorem getUserBalance_eq (h : Booked now L) (u : UserId) : L.getUserBalance u = L.points u := by
  rw [h.points_eq u, ← rowPoints_rowsOf, Ledger.getUserBalance]
  rcases List.eq_nil_or_concat (L.rowsOf u) with hnil | ⟨l, p, hlp⟩
  · rw [hnil]
    rfl
  · rw [List.concat_eq_append] at hlp
    have hsub : (l ++ [p]).Sublist L.histories.rows := hlp ▸ List.filter_sublist
    have hdate := h.dated.sublist (hsub.map fun q => q.2.createdAt)
    have hid := L.histories.sorted.sublist (hsub.map Prod.fst)
    rw [List.map_append, List.pairwise_append] at hdate hid
    have hrun := h.running u
    rw [hlp] at hrun ⊢
    rw [newest_append (fun q hq => hdate.2.2 _ (List.mem_map_of_mem hq) _ (by simp))
      (fun q hq => hid.2.2 _ (List.mem_map_of_mem hq) _ (by simp))]
    exact (balance_getLast hrun).trans (zero_add _)

theorem mono {now' : Time} (h : Booked now L) (hle : now ≤ now') : Booked now' L :=
  ⟨h.points_eq, h.running, h.dated, fun k r hr => le_trans (h.past k r hr) hle⟩

/-- One more entry that the account can bear. -/
theorem post (h : Booked now L) {u : UserId} {p : Int} (hp : 0 ≤ L.points u + p)
    (type : PointType) (order : Option OrderId) (m : Metadata) :
    Booked now (L.post now u p type order m) := by
  refine ⟨fun v => ?_, fun v => ?_, ?_, fun k r hr => ?_⟩
  · rw [post_points, post_pointsSum, h.points_eq v]
  · rw [post_rowsOf]
    by_cases huv : u = v
    · subst huv
      rw [if_pos rfl, runningBalance_append, rowPoints_rowsOf, ← h.points_eq u]
      refine ⟨h.running u, ?_, hp⟩
      simp [PointHistory.create]
    · rw [if_neg huv, List.append_nil]
      exact h.running v
  · rw [post_histories]
    simp only [Table.insert, List.map_append, List.map_cons, List.map_nil,
      List.pairwise_append, List.mem_singleton]
    refine ⟨h.dated, by simp, fun d hd e he => ?_⟩
    obtain ⟨q, hq, rfl⟩ := List.mem_map.mp hd
    rw [he]
    exact h.past q.1 q.2 (Table.get?_eq_some.mpr hq)
  · rw [post_histories] at hr
    rcases Table.insert_cases hr with ⟨_, rfl⟩ | hr
    · exact le_refl now
    · exact h.past k r hr

end Booked

/-! ## Updates of metadata -/

/-- The update leaves the columns and the recorded entries of a row alone. -/
structure KeepsEntry (f : Nat → PointHistory → PointHistory) : Prop where
  user : ∀ k r, (f k r).user = r.user
  points : ∀ k r, (f k r).points = r.points
  balance : ∀ k r, (f k r).balance = r.balance
  type : ∀ k r, (f k r).type = r.type
  order : ∀ k r, (f k r).order = r.order
  createdAt : ∀ k r, (f k r).createdAt = r.createdAt
  usedDetails : ∀ k r, (f k r).metadata.usedDetails = r.metadata.usedDetails
  restoredDetails : ∀ k r, (f k r).metadata.restoredDetails = r.metadata.restoredDetails

theorem keepsEntry_usedBy (now : Time) (ds : Details) :
    KeepsEntry (PointHistory.usedBy now ds) := by
  constructor <;> intro k r <;> unfold PointHistory.usedBy <;> split <;> rfl

theorem keepsEntry_restoredBy (now : Time) (order : OrderId) (ds : Details) :
    KeepsEntry (PointHistory.restoredBy now order ds) := by
  constructor <;> intro k r <;> unfold PointHistory.restoredBy <;> split <;> rfl

theorem keepsEntry_recordExpiry (now : Time) (remaining : Int) (k : Nat) :
    KeepsEntry fun j r => if j = k then PointHistory.recordExpiry now remaining r else r := by
  constructor <;> intro j r <;> split <;> rfl

/-- The ledger with every row's metadata updated. -/
abbrev Ledger.touch (L : Ledger) (f : Nat → PointHistory → PointHistory) : Ledger :=
  { L with histories := L.histories.mapRows f }

section Touch

variable {L : Ledger} {f : Nat → PointHistory → PointHistory}

theorem touch_outstanding (hf : KeepsEntry f) (o : OrderId) (k : Nat) :
    outstanding (L.touch f) o k = outstanding L o k := by
  unfold outstanding
  rw [Table.sum_mapRows]
  simp only [hf.order, hf.type, hf.usedDetails, hf.restoredDetails]

theorem runningBalance_map {g : Nat × PointHistory → Nat × PointHistory}
    (hp : ∀ q, (g q).2.points = q.2.points) (hb : ∀ q, (g q).2.balance = q.2.balance) (b : Int)
    (l : List (Nat × PointHistory)) : RunningBalance b (l.map g) ↔ RunningBalance b l := by
  induction l generalizing b with
  | nil => rfl
  | cons q l ih => rw [List.map_cons, RunningBalance, RunningBalance, hp, hb, ih]

theorem Booked.touch {now : Time} (h : Booked now L) (hf : KeepsEntry f) :
    Booked now (L.touch f) := by
  refine ⟨fun u => ?_, fun u => ?_, ?_, fun k r hr => ?_⟩
  · refine (h.points_eq u).trans ?_
    unfold Ledger.pointsSum
    rw [Table.sum_mapRows]
    simp only [hf.user, hf.points]
  · have hrows : (L.touch f).rowsOf u = (L.rowsOf u).map fun p => (p.1, f p.1 p.2) := by
      simp only [Ledger.rowsOf, Table.select, Table.mapRows, List.filter_map, Function.comp_def,
        hf.user]
    rw [hrows, runningBalance_map (fun q => hf.points q.1 q.2) (fun q => hf.balance q.1 q.2)]
    exact h.running u
  · have hdates : (L.touch f).histories.rows.map (fun p => p.2.createdAt)
        = L.histories.rows.map fun p => p.2.createdAt := by
      simp [Table.mapRows, Function.comp_def, hf.createdAt]
    rw [hdates]
    exact h.dated
  · rw [Table.get?_mapRows, Option.map_eq_some_iff] at hr
    obtain ⟨r', hr', rfl⟩ := hr
    rw [hf.createdAt]
    exact h.past k r' hr'

end Touch

/-! ## The use on record -/

/-- What one row says about the use of earn row `k` by `order`. -/
def recordedUse (o : OrderId) (k : Nat) (r : PointHistory) : Int :=
  if r.order = some o then
    if r.type = .use then amountAt k r.metadata.usedDetails
    else if r.type.isUsedPointsRefund then -amountAt k r.metadata.restoredDetails
    else 0
  else 0

theorem post_outstanding (L : Ledger) (now : Time) (u : UserId) (p : Int) (type : PointType)
    (order : Option OrderId) (m : Metadata) (o : OrderId) (k : Nat) :
    outstanding (L.post now u p type order m) o k
      = outstanding L o k + recordedUse o k (postedRow L now u p type order m) := by
  unfold outstanding
  rw [post_histories, Table.sum_insert]
  rfl

/-- A row of another order, or one that neither uses nor refunds, says
nothing. -/
theorem recordedUse_eq_zero {o : OrderId} {k : Nat} {r : PointHistory}
    (h : r.order = some o → r.type ≠ .use ∧ r.type.isUsedPointsRefund = false) :
    recordedUse o k r = 0 := by
  unfold recordedUse
  split
  · rename_i ho
    rw [if_neg (h ho).1, (h ho).2]
    rfl
  · rfl

theorem recordedUse_use {o : OrderId} {k : Nat} {r : PointHistory} (ht : r.type = .use) :
    recordedUse o k r = if r.order = some o then amountAt k r.metadata.usedDetails else 0 := by
  unfold recordedUse
  rw [if_pos ht]

theorem recordedUse_refund {o : OrderId} {k : Nat} {r : PointHistory}
    (ht : r.type.isUsedPointsRefund = true) :
    recordedUse o k r = if r.order = some o then -amountAt k r.metadata.restoredDetails else 0 := by
  have hne : r.type ≠ .use := by
    intro hc
    rw [hc] at ht
    cases ht
  unfold recordedUse
  rw [if_neg hne, if_pos ht]

namespace Covered

variable {owner : OrderId → UserId} {L : Ledger}

/-- The use of one order is within the use of the row. -/
theorem out_le (h : Covered owner L) {k : Nat} {r : PointHistory}
    (hr : L.histories.get? k = some r) (ht : r.type = .earn) (o : OrderId) :
    outstanding L o k ≤ r.metadata.usedAmount := by
  have hsum := h.out_sum k r hr ht {o}
  rwa [Finset.sum_singleton] at hsum

/-- A key that no earn row has is used by nobody. -/
theorem out_eq_zero (h : Covered owner L) {k : Nat}
    (hk : ∀ r, L.histories.get? k = some r → r.type ≠ .earn) (o : OrderId) :
    outstanding L o k = 0 := by
  refine le_antisymm (not_lt.mp fun hpos => ?_) (h.out_nonneg o k)
  obtain ⟨r, hr, ht, _⟩ := h.out_row o k hpos
  exact hk r hr ht

/-- An update of metadata that keeps every row's use at or above what the
orders have on record, and within its points. -/
theorem touch (h : Covered owner L) {f : Nat → PointHistory → PointHistory} (hf : KeepsEntry f)
    (hused : ∀ k r, L.histories.get? k = some r → r.type = .earn →
      r.metadata.usedAmount ≤ (f k r).metadata.usedAmount ∧
        (f k r).metadata.usedAmount ≤ r.points) :
    Covered owner (L.touch f) := by
  have hget : ∀ k r, (L.touch f).histories.get? k = some r →
      ∃ r', L.histories.get? k = some r' ∧ f k r' = r := by
    intro k r hr
    rwa [Table.get?_mapRows, Option.map_eq_some_iff] at hr
  refine ⟨fun k r hr ht => ?_, fun o k => ?_, fun k r hr ht os => ?_, fun o k hpos => ?_⟩
  · obtain ⟨r', hr', rfl⟩ := hget k r hr
    rw [hf.type] at ht
    rw [hf.points]
    exact (hused k r' hr' ht).2
  · rw [touch_outstanding hf]
    exact h.out_nonneg o k
  · obtain ⟨r', hr', rfl⟩ := hget k r hr
    rw [hf.type] at ht
    simp only [touch_outstanding hf]
    exact le_trans (h.out_sum k r' hr' ht os) (hused k r' hr' ht).1
  · rw [touch_outstanding hf] at hpos
    obtain ⟨r, hr, ht, hu⟩ := h.out_row o k hpos
    refine ⟨f k r, ?_, (hf.type k r).trans ht, (hf.user k r).trans hu⟩
    rw [Table.get?_mapRows, hr]
    rfl

/-- An entry that records no use. -/
theorem post_plain (h : Covered owner L) {type : PointType} {p : Int}
    (hp : 0 ≤ p ∨ type ≠ .earn) (now : Time) (u : UserId) (order : Option OrderId) {m : Metadata}
    (hm : m.usedAmount = 0)
    (hrec : ∀ o k, recordedUse o k (postedRow L now u p type order m) = 0) :
    Covered owner (L.post now u p type order m) := by
  have hout : ∀ o k, outstanding (L.post now u p type order m) o k = outstanding L o k := by
    intro o k
    rw [post_outstanding, hrec, add_zero]
  have hnew := h.out_eq_zero (k := L.histories.next) (by simp)
  refine ⟨fun k r hr ht => ?_, fun o k => ?_, fun k r hr ht os => ?_, fun o k hpos => ?_⟩
  · rw [post_histories] at hr
    rcases Table.insert_cases hr with ⟨_, rfl⟩ | hr
    · exact hm ▸ hp.resolve_right fun hne => hne ht
    · exact h.used_le k r hr ht
  · rw [hout]
    exact h.out_nonneg o k
  · simp only [hout]
    rw [post_histories] at hr
    rcases Table.insert_cases hr with ⟨hk, rfl⟩ | hr
    · subst hk
      rw [Finset.sum_eq_zero fun o _ => hnew o]
      exact le_of_eq hm.symm
    · exact h.out_sum k r hr ht os
  · rw [hout] at hpos
    obtain ⟨r, hr, ht, hu⟩ := h.out_row o k hpos
    refine ⟨r, ?_, ht, hu⟩
    rw [post_histories]
    exact Table.get?_insert_of_some hr _

/-- An entry whose record changes the outstanding use by `δ`: the new use has
to stay within what the earn rows keep for it. -/
theorem of_post {type : PointType} (hearn : type ≠ .earn) {p : Int} {now : Time} {u : UserId}
    {order : Option OrderId} {m : Metadata} {δ : OrderId → Nat → Int}
    (hδ : ∀ o k, recordedUse o k (postedRow L now u p type order m) = δ o k)
    (hused : ∀ k r, L.histories.get? k = some r → r.type = .earn →
      r.metadata.usedAmount ≤ r.points)
    (hnonneg : ∀ o k, 0 ≤ outstanding L o k + δ o k)
    (hsum : ∀ k r, L.histories.get? k = some r → r.type = .earn → ∀ os : Finset OrderId,
      ∑ o ∈ os, (outstanding L o k + δ o k) ≤ r.metadata.usedAmount)
    (hrow : ∀ o k, 0 < outstanding L o k + δ o k →
      ∃ r, L.histories.get? k = some r ∧ r.type = .earn ∧ r.user = owner o) :
    Covered owner (L.post now u p type order m) := by
  have hout : ∀ o k, outstanding (L.post now u p type order m) o k
      = outstanding L o k + δ o k := by
    intro o k
    rw [post_outstanding, hδ]
  have hget : ∀ k r, (L.post now u p type order m).histories.get? k = some r → r.type = .earn →
      L.histories.get? k = some r := by
    intro k r hr ht
    rw [post_histories] at hr
    rcases Table.insert_cases hr with ⟨_, rfl⟩ | hr
    · exact absurd ht hearn
    · exact hr
  refine ⟨fun k r hr ht => hused k r (hget k r hr ht) ht, fun o k => ?_,
    fun k r hr ht os => ?_, fun o k hpos => ?_⟩
  · rw [hout]
    exact hnonneg o k
  · simp only [hout]
    exact hsum k r (hget k r hr ht) ht os
  · rw [hout] at hpos
    obtain ⟨r, hr, ht, hu⟩ := hrow o k hpos
    refine ⟨r, ?_, ht, hu⟩
    rw [post_histories]
    exact Table.get?_insert_of_some hr _

end Covered

end Shopping
