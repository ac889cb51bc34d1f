import Shopping.Lib.Calendar
import Shopping.Lib.Grouped
import Shopping.Points.Entries
import Shopping.Points.Runs

/-!
# The statistics of an account

`get_point_statistics` and `get_history_summary` add up the history of a user,
in queries of their own: the rows that earned, those that used, the rows of
this month, the rows of each type.  They read the postings of the history, its
columns that stay.

`LedgerGrows` says what happens to the postings: each point operation appends
some, dated at its own clock reading (`PointOp.grows`).  `earned_sub_used`
adds up one query, and `monthStatistics_grows` says what of the balance is
this month's.
-/

namespace Shopping

open PointService

/-! ## The queries -/

/-- `{"earned": ..., "used": ...}`. -/
structure EarnedUsed where
  earned : Int
  used : Int
  deriving DecidableEq, Repr

namespace Ledger

/-- `filter(...).aggregate(total=Sum("points"))["total"] or 0`. -/
def totalPoints (L : Ledger) (p : PointHistory → Bool) : Int :=
  L.histories.sum fun _ r => if p r = true then r.points else 0

/-- `PointHistoryManager.get_total_earned`. -/
def getTotalEarned (L : Ledger) (user : UserId) : Int :=
  L.totalPoints fun r => decide (r.user = user) && decide (0 < r.points)

/-- `PointHistoryManager.get_total_used`. -/
def getTotalUsed (L : Ledger) (user : UserId) : Int :=
  |L.totalPoints fun r => decide (r.user = user) && decide (r.points < 0)|

/-- `PointHistoryManager.get_month_statistics`. -/
def getMonthStatistics (L : Ledger) (user : UserId) (startDate : Time) : EarnedUsed where
  earned := L.totalPoints fun r =>
    decide (r.user = user) && decide (0 < r.points) && decide (startDate ≤ r.createdAt)
  used := |L.totalPoints fun r =>
    decide (r.user = user) && decide (r.points < 0) && decide (startDate ≤ r.createdAt)|

end Ledger

/-- `HistorySummary`. -/
structure HistorySummary where
  currentPoints : Int
  totalEarned : Int
  totalUsed : Int
  deriving DecidableEq, Repr

/-- An entry of `by_type`. -/
structure TypeStatistics where
  type : PointType
  count : Nat
  total : Int
  deriving DecidableEq, Repr

/-- `PointStatistics`. -/
structure PointStatistics where
  currentPoints : Int
  thisMonth : EarnedUsed
  allTime : EarnedUsed
  byType : List TypeStatistics
  deriving DecidableEq, Repr

namespace PointQueryService

/-- `timezone.now().replace(day=1, hour=0, minute=0, second=0, microsecond=0)`, in UTC. -/
def thisMonthStart (now : Time) : Time := (now / 86400 - ((Date.ofSeconds now).day - 1)) * 86400

/-- `get_history_summary`; the query set, when there is one, is a condition on the rows. -/
def getHistorySummary (L : Ledger) (user : UserId)
    (queryset : Option (PointHistory → Bool) := none) : HistorySummary :=
  let rows := queryset.getD fun r => decide (r.user = user)
  { currentPoints := L.points user
    totalEarned := L.totalPoints fun r => rows r && decide (0 < r.points)
    totalUsed := |L.totalPoints fun r => rows r && decide (r.points < 0)| }

/-- `get_point_statistics`. -/
def getPointStatistics (L : Ledger) (now : Time) (user : UserId) : PointStatistics where
  currentPoints := L.points user
  thisMonth := L.getMonthStatistics user (thisMonthStart now)
  allTime := { earned := L.getTotalEarned user, used := L.getTotalUsed user }
  byType := (groupBy PointHistory.type ((L.rowsOf user).map Prod.snd)).map fun g =>
    { type := g.1, count := g.2.length, total := (g.2.map PointHistory.points).sum }

end PointQueryService

example : PointQueryService.thisMonthStart 1736942400 = 1735689600 := by decide +kernel

open PointQueryService

/-! ## Postings -/

/-- The columns that the statistics read. -/
structure Posting where
  user : UserId
  type : PointType
  points : Int
  createdAt : Time
  deriving DecidableEq, Repr

/-- The posting of a row. -/
def PointHistory.posting (r : PointHistory) : Posting := ⟨r.user, r.type, r.points, r.createdAt⟩

/-- The postings, oldest first. -/
def Ledger.postings (L : Ledger) : List Posting := L.column PointHistory.posting

/-- Postings dated at `now` or later were appended. -/
def LedgerGrows (now : Time) (L L' : Ledger) : Prop :=
  ∃ more, L'.postings = L.postings ++ more ∧ ∀ e ∈ more, now ≤ e.createdAt

section

variable {now now' : Time} {L L' L'' : Ledger}

theorem LedgerGrows.of_eq (h : L'.postings = L.postings) : LedgerGrows now L L' :=
  ⟨[], by rw [h, List.append_nil], fun _ he => absurd he List.not_mem_nil⟩

theorem LedgerGrows.refl (L : Ledger) : LedgerGrows now L L := .of_eq rfl

theorem LedgerGrows.mono (h : LedgerGrows now' L L') (hle : now ≤ now') : LedgerGrows now L L' := by
  obtain ⟨more, hmore, hdated⟩ := h
  exact ⟨more, hmore, fun e he => hle.trans (hdated e he)⟩

theorem LedgerGrows.trans (h : LedgerGrows now L L') (h' : LedgerGrows now L' L'') :
    LedgerGrows now L L'' := by
  obtain ⟨more, hmore, hdated⟩ := h
  obtain ⟨more', hmore', hdated'⟩ := h'
  refine ⟨more ++ more', by rw [hmore', hmore, List.append_assoc], fun e he => ?_⟩
  rcases List.mem_append.mp he with he | he
  · exact hdated e he
  · exact hdated' e he

/-- A new row, after the balance was set. -/
theorem LedgerGrows.post (h : LedgerGrows now L L') (u : UserId) (balance p : Int)
    (type : PointType) (order : Option OrderId) (m : Metadata) :
    LedgerGrows now L ((L'.setPoints u balance).createHistory now u p type order m) := by
  refine h.trans ⟨[⟨u, type, p, now⟩], ?_, fun e he => ?_⟩
  · unfold Ledger.postings
    rw [Ledger.column_createHistory]
    rfl
  · rw [List.mem_singleton] at he
    rw [he]

namespace PointService

theorem addPoints_grows {user : UserId} {amount : Int} {type : PointType} {order : Option OrderId}
    {returnId : Option Nat} {b : Bool}
    (h : addPoints L now user amount type order returnId = .ok (b, L')) : LedgerGrows now L L' := by
  unfold addPoints at h
  split at h
  · cases h
    exact .refl L
  · split at h
    · cases h
    · cases h
      exact (LedgerGrows.refl L).post _ _ _ _ _ _

theorem usePointsFifo_grows (L : Ledger) (now : Time) (user : UserId) (amount : Int)
    (type : PointType) (order : Option OrderId) (returnId : Option Nat) :
    LedgerGrows now L (usePointsFifo L now user amount type order returnId).2 := by
  have hconsumed : LedgerGrows now L (consumePointsFifo L now user amount type).1 :=
    .of_eq (consumeLoop_column (fun _ _ _ => rfl) now L _ amount)
  unfold usePointsFifo
  split
  · exact .refl L
  · split
    · exact .refl L
    · dsimp only
      split
      · exact hconsumed
      · exact hconsumed.post _ _ _ _ _ _

theorem refundUsedPoints_grows (L : Ledger) (now : Time) (user : UserId) (amount : Int)
    (order : OrderId) (type : PointType) (returnId : Option Nat) :
    LedgerGrows now L (refundUsedPoints L now user amount order type returnId).2 := by
  have hrestored : LedgerGrows now L
      (restoreLoop now order (outstanding L order) L (earnRows L order) amount).1 :=
    .of_eq (restoreLoop_column (fun _ _ _ _ => rfl) now order _ L _ amount)
  unfold refundUsedPoints
  split
  · exact .refl L
  · dsimp only
    split
    · exact (hrestored.post _ _ _ _ _ _).post _ _ _ _ _ _
    · exact hrestored.post _ _ _ _ _ _

theorem expireOne_grows {k : Nat} {seen : PointHistory} {b : Bool}
    (h : expireOne L now k seen = .ok (b, L')) : LedgerGrows now L L' := by
  rcases expireOne_cases h with rfl | ⟨current, _, _, rfl⟩
  · exact .refl L'
  · exact ((LedgerGrows.refl L).post _ _ _ _ _ _).trans
      (.of_eq (Ledger.column_saveRow _ k fun _ => rfl))

theorem expireLoop_grows (now : Time) (fails : Nat → Bool) (L : Ledger)
    (rows : List (Nat × PointHistory)) : LedgerGrows now L (expireLoop now fails L rows).1 := by
  induction rows generalizing L with
  | nil => exact .refl L
  | cons p rest ih =>
    obtain ⟨k, seen⟩ := p
    rw [expireLoop]
    split
    · exact ih L
    · rename_i out hout
      split at hout
      · cases hout
      · exact (expireOne_grows hout).trans (ih _)

end PointService

/-- Each call appends postings, dated at its clock reading. -/
theorem PointOp.grows (owner : OrderId → UserId) (now : Time) (L : Ledger) (op : PointOp) :
    LedgerGrows now L (op.apply owner now L) := by
  cases op with
  | add user amount type order returnId =>
    simp only [PointOp.apply]
    cases hadd : addPoints L now user amount type order returnId with
    | error e => exact .refl L
    | ok out => exact addPoints_grows hadd
  | use user amount type order returnId => exact usePointsFifo_grows ..
  | refund order amount type returnId => exact refundUsedPoints_grows ..
  | expireOne k stale =>
    simp only [PointOp.apply]
    cases hr : L.histories.get? k with
    | none => exact .refl L
    | some r =>
      dsimp only
      cases hexp : PointService.expireOne L now k { r with metadata := stale } with
      | error e => exact .refl L
      | ok out => exact expireOne_grows hexp
  | expireAll fails =>
    simp only [PointOp.apply, expirePoints_ledger]
    exact expireLoop_grows now fails L _

/-! ## Adding up -/

/-- A total over the rows is one over their postings. -/
theorem Ledger.sum_postings (L : Ledger) (f : Posting → Int) :
    (L.histories.sum fun _ r => f r.posting) = (L.postings.map f).sum := by
  unfold Ledger.postings Ledger.column Table.sum
  rw [List.map_map]
  rfl

/-- What a query earned and used is its total. -/
theorem earned_sub_used (L : Ledger) (p : PointHistory → Bool) :
    (L.totalPoints fun r => p r && decide (0 < r.points))
      - |L.totalPoints fun r => p r && decide (r.points < 0)| = L.totalPoints p := by
  have hused : (L.totalPoints fun r => p r && decide (r.points < 0)) ≤ 0 := by
    refine le_of_le_of_eq (Table.sum_le_sum fun k r _ => ?_) (Table.sum_zero L.histories)
    dsimp only
    split
    · rename_i h
      rw [Bool.and_eq_true, decide_eq_true_eq] at h
      exact h.2.le
    · exact le_refl 0
  rw [abs_of_nonpos hused, sub_neg_eq_add, Ledger.totalPoints, Ledger.totalPoints, ← Table.sum_add]
  refine Table.sum_congr fun k r _ => ?_
  cases p r with
  | false => simp
  | true =>
    rcases lt_trichotomy r.points 0 with h | h | h
    · simp [h, h.le]
    · simp [h]
    · simp [h, h.le]

theorem allTime_net (L : Ledger) (user : UserId) :
    L.getTotalEarned user - L.getTotalUsed user = L.pointsSum user := by
  refine (earned_sub_used L fun r => decide (r.user = user)).trans ?_
  unfold Ledger.totalPoints Ledger.pointsSum
  simp only [decide_eq_true_eq]

theorem monthStatistics_net (L : Ledger) (user : UserId) (start : Time) :
    (L.getMonthStatistics user start).earned - (L.getMonthStatistics user start).used
      = L.totalPoints fun r => decide (r.user = user) && decide (start ≤ r.createdAt) := by
  rw [← earned_sub_used]
  unfold Ledger.getMonthStatistics
  simp only [Bool.and_right_comm]

/-- What was earned and used since `start` is what the sum of the history moved since then. -/
theorem monthStatistics_grows (h : LedgerGrows now L L')
    (hbefore : ∀ k r, L.histories.get? k = some r → r.createdAt < now) (user : UserId) :
    (L'.getMonthStatistics user now).earned - (L'.getMonthStatistics user now).used
      = L'.pointsSum user - L.pointsSum user := by
  obtain ⟨more, hmore, hdated⟩ := h
  have hsum : ∀ M : Ledger, M.pointsSum user
      = (M.postings.map fun e => if e.user = user then e.points else 0).sum :=
    fun M => M.sum_postings fun e => if e.user = user then e.points else 0
  have hmonth : (L'.totalPoints fun r => decide (r.user = user) && decide (now ≤ r.createdAt))
      = (L'.postings.map fun e =>
          if e.user = user ∧ now ≤ e.createdAt then e.points else 0).sum := by
    rw [← L'.sum_postings]
    unfold Ledger.totalPoints
    simp only [Bool.and_eq_true, decide_eq_true_eq]
    rfl
  have hold : (L.postings.map fun e =>
      if e.user = user ∧ now ≤ e.createdAt then e.points else 0).sum = 0 := by
    refine List.sum_eq_zero fun n hn => ?_
    obtain ⟨e, he, rfl⟩ := List.mem_map.mp hn
    obtain ⟨q, hq, rfl⟩ := List.mem_map.mp he
    exact if_neg fun hc => absurd hc.2 (not_le.mpr (hbefore q.1 q.2 (Table.get?_eq_some.mpr hq)))
  have hnew : (more.map fun e => if e.user = user ∧ now ≤ e.createdAt then e.points else 0)
      = more.map fun e => if e.user = user then e.points else 0 := by
    refine List.map_congr_left fun e he => ?_
    simp only [hdated e he, and_true]
  rw [monthStatistics_net, hmonth, hsum L', hsum L, hmore, List.map_append, List.map_append,
    List.sum_append, List.sum_append, hold, hnew]
  omega

/-- The types split the history up. -/
theorem byType_total (L : Ledger) (t : Time) (user : UserId) :
    ((getPointStatistics L t user).byType.map TypeStatistics.total).sum = L.pointsSum user ∧
      ((getPointStatistics L t user).byType.map TypeStatistics.count).sum
        = (L.rowsOf user).length ∧
      ((getPointStatistics L t user).byType.map TypeStatistics.type).Nodup := by
  unfold getPointStatistics
  dsimp only
  rw [List.map_map, List.map_map, List.map_map]
  refine ⟨?_, ?_, nodup_groupBy _ _⟩
  · refine (sum_groupBy PointHistory.type PointHistory.points).trans ?_
    rw [List.map_map]
    exact rowPoints_rowsOf L user
  · refine (length_groupBy PointHistory.type).trans ?_
    rw [List.length_map]

end

end Shopping
