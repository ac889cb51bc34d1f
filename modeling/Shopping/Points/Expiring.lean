import Shopping.Lib.Calendar
import Shopping.Points.Runs

/-!
# The points that are about to expire

The three views of `get_monthly_expiring_summary`, `get_expiring_soon` and
`get_expiring_points`, each with a query of its own.  The first two ask for
rows dated after `now`, as the batch takes those dated at `now` already; the
third asks for rows dated at `now` or after.

`Monthly` is what the grouping by month keeps, whatever the rows are
(`monthly_foldl`).  The views agree exactly when no row with points left is
dated at `now` (`expiring_views_agree_iff`).
-/

namespace Shopping

open PointService

/-- The query of `get_expiring_soon` and of `get_monthly_expiring_summary`. -/
def isExpiringSoon (now : Time) (days : Nat) (user : UserId) (r : PointHistory) : Bool :=
  decide (r.user = user) && decide (r.type = .earn) && decide (0 < r.points) &&
    r.expiresAt.any fun e => decide (e ≤ now + days * 86400) && decide (now < e)

/-- The query of `get_expiring_points`. -/
def isExpiring (now : Time) (days : Nat) (user : UserId) (r : PointHistory) : Bool :=
  decide (r.user = user) && decide (r.type = .earn) &&
    r.expiresAt.any fun e => decide (e ≤ now + days * 86400) && decide (now ≤ e)

/-- `order_by("expires_at")`; the sort keeps id order on ties. -/
def byExpiry (p q : Nat × PointHistory) : Prop := p.2.expiry ≤ q.2.expiry

instance : DecidableRel byExpiry := fun p q =>
  inferInstanceAs (Decidable (p.2.expiry ≤ q.2.expiry))

namespace Ledger

/-- `PointHistoryManager.get_expiring_soon`. -/
def getExpiringSoon (L : Ledger) (now : Time) (user : UserId) (days : Nat := 30) : Int :=
  L.histories.sum fun _ r => if isExpiringSoon now days user r = true then r.remainingPoints else 0

/-- What `get_expiring_points` answers. -/
structure ExpiringPoints where
  totalExpiringPoints : Int
  expiringHistories : List (Nat × PointHistory)
  earliestExpireDate : Option Time

/-- `PointHistory.get_expiring_points`. -/
def getExpiringPoints (L : Ledger) (now : Time) (user : UserId) (days : Nat := 30) :
    ExpiringPoints :=
  let expiringHistories :=
    (L.histories.select fun _ r =>
      isExpiring now days user r && decide (0 < r.remainingPoints)).insertionSort byExpiry
  { totalExpiringPoints := (expiringHistories.map fun p => p.2.remainingPoints).sum
    expiringHistories := expiringHistories
    earliestExpireDate := expiringHistories.head?.bind fun p => p.2.expiresAt }

end Ledger

/-! ## The grouping by month -/

/-- An entry of `monthly_data`. -/
structure MonthlyExpiringSummary where
  month : String
  points : Int
  count : Nat
  deriving DecidableEq, Repr

/-- `history.expires_at.strftime("%Y-%m")`. -/
def PointHistory.monthKey (r : PointHistory) : String := (Date.ofSeconds r.expiry).yearMonth

namespace PointQueryService

/-- One round of the grouping; `monthly_data` keeps the months in the order in
which they came. -/
def addToMonth : List MonthlyExpiringSummary → PointHistory → List MonthlyExpiringSummary
  | [], h => [⟨h.monthKey, h.remainingPoints, 1⟩]
  | m :: rest, h =>
    if m.month = h.monthKey then
      { m with points := m.points + h.remainingPoints, count := m.count + 1 } :: rest
    else m :: addToMonth rest h

/-- `get_monthly_expiring_summary`: the months, the rows and the total. -/
def getMonthlyExpiringSummary (L : Ledger) (now : Time) (user : UserId) (days : Nat := 30) :
    List MonthlyExpiringSummary × List (Nat × PointHistory) × Int :=
  let expiringHistories :=
    (L.histories.select fun _ r =>
      isExpiringSoon now days user r && decide (0 < r.remainingPoints)).insertionSort byExpiry
  ((expiringHistories.map Prod.snd).foldl addToMonth [], expiringHistories,
    L.getExpiringSoon now user days)

end PointQueryService

open PointQueryService

/-- The months hold each of the rows once: every row's month is there, one
entry a month, with the number of its rows and what they have left. -/
structure Monthly (months : List MonthlyExpiringSummary) (rows : List PointHistory) : Prop where
  nodup : (months.map MonthlyExpiringSummary.month).Nodup
  months_eq : ∀ key, key ∈ months.map MonthlyExpiringSummary.month ↔
    key ∈ rows.map PointHistory.monthKey
  listed : ∀ m ∈ months, m.count = (rows.filter fun r => r.monthKey = m.month).length ∧
    m.points = ((rows.filter fun r => r.monthKey = m.month).map
      PointHistory.remainingPoints).sum
  total : (months.map MonthlyExpiringSummary.points).sum
    = (rows.map PointHistory.remainingPoints).sum

theorem addToMonth_months (months : List MonthlyExpiringSummary) (h : PointHistory) :
    (addToMonth months h).map MonthlyExpiringSummary.month
      = if h.monthKey ∈ months.map MonthlyExpiringSummary.month then
          months.map MonthlyExpiringSummary.month
        else months.map MonthlyExpiringSummary.month ++ [h.monthKey] := by
  induction months with
  | nil => rfl
  | cons m rest ih =>
    rw [addToMonth]
    by_cases hm : m.month = h.monthKey
    · rw [if_pos hm]
      simp [hm]
    · rw [if_neg hm, List.map_cons, ih, List.map_cons]
      have hm' : ¬h.monthKey = m.month := fun hc => hm hc.symm
      by_cases hrest : h.monthKey ∈ rest.map MonthlyExpiringSummary.month
      · rw [if_pos hrest, if_pos (List.mem_cons_of_mem _ hrest)]
      · have hnew : h.monthKey ∉ m.month :: rest.map MonthlyExpiringSummary.month := by
          rw [List.mem_cons, not_or]
          exact ⟨hm', hrest⟩
        rw [if_neg hrest, if_neg hnew]
        rfl

theorem addToMonth_total (months : List MonthlyExpiringSummary) (h : PointHistory) :
    ((addToMonth months h).map MonthlyExpiringSummary.points).sum
      = (months.map MonthlyExpiringSummary.points).sum + h.remainingPoints := by
  induction months with
  | nil => simp [addToMonth]
  | cons m rest ih =>
    rw [addToMonth]
    split
    · simp only [List.map_cons, List.sum_cons]
      omega
    · simp only [List.map_cons, List.sum_cons, ih]
      omega

/-- An entry after a round is one from before, with the row added when it is
of its month, or the entry of a new month. -/
theorem mem_addToMonth {months : List MonthlyExpiringSummary} {h : PointHistory}
    {m : MonthlyExpiringSummary} (hnodup : (months.map MonthlyExpiringSummary.month).Nodup)
    (hm : m ∈ addToMonth months h) :
    (m ∈ months ∧ m.month ≠ h.monthKey) ∨
    (∃ m₀ ∈ months, m₀.month = h.monthKey ∧
      m = { m₀ with points := m₀.points + h.remainingPoints, count := m₀.count + 1 }) ∨
    (h.monthKey ∉ months.map MonthlyExpiringSummary.month ∧
      m = ⟨h.monthKey, h.remainingPoints, 1⟩) := by
  induction months with
  | nil =>
    rw [addToMonth, List.mem_singleton] at hm
    exact Or.inr (Or.inr ⟨List.not_mem_nil, hm⟩)
  | cons m₁ rest ih =>
    rw [List.map_cons, List.nodup_cons] at hnodup
    rw [addToMonth] at hm
    by_cases hkey : m₁.month = h.monthKey
    · rw [if_pos hkey, List.mem_cons] at hm
      rcases hm with rfl | hm
      · exact Or.inr (Or.inl ⟨m₁, List.mem_cons_self, hkey, rfl⟩)
      · refine Or.inl ⟨List.mem_cons_of_mem _ hm, fun hc => hnodup.1 ?_⟩
        rw [hkey, ← hc]
        exact List.mem_map_of_mem hm
    · rw [if_neg hkey, List.mem_cons] at hm
      rcases hm with rfl | hm
      · exact Or.inl ⟨List.mem_cons_self, hkey⟩
      · rcases ih hnodup.2 hm with ⟨hrest, hne⟩ | ⟨m₀, hrest, hmonth, heq⟩ | ⟨hnew, heq⟩
        · exact Or.inl ⟨List.mem_cons_of_mem _ hrest, hne⟩
        · exact Or.inr (Or.inl ⟨m₀, List.mem_cons_of_mem _ hrest, hmonth, heq⟩)
        · refine Or.inr (Or.inr ⟨?_, heq⟩)
          rw [List.map_cons, List.mem_cons, not_or]
          exact ⟨fun hc => hkey hc.symm, hnew⟩

/-- One more row. -/
theorem Monthly.addToMonth {months : List MonthlyExpiringSummary} {rows : List PointHistory}
    (hmonthly : Monthly months rows) (h : PointHistory) :
    Monthly (addToMonth months h) (rows ++ [h]) where
  nodup := by
    rw [addToMonth_months]
    split
    · exact hmonthly.nodup
    · rename_i hnew
      rw [List.nodup_append]
      refine ⟨hmonthly.nodup, List.nodup_singleton _, fun a ha b hb hab => hnew ?_⟩
      rw [List.mem_singleton] at hb
      rw [← hb, ← hab]
      exact ha
  months_eq := by
    intro key
    rw [addToMonth_months, List.map_append, List.mem_append, ← hmonthly.months_eq]
    split
    · rename_i hold
      refine ⟨Or.inl, fun hkey => hkey.elim id fun hkey => ?_⟩
      rw [List.map_singleton, List.mem_singleton] at hkey
      rw [hkey]
      exact hold
    · rw [List.mem_append]
      rfl
  listed := by
    intro m hm
    rw [List.filter_append, List.length_append, List.map_append, List.sum_append]
    rcases mem_addToMonth hmonthly.nodup hm with
      ⟨hold, hne⟩ | ⟨m₀, hold, hmonth, rfl⟩ | ⟨hnew, rfl⟩
    · obtain ⟨hcount, hpoints⟩ := hmonthly.listed m hold
      simp [hcount, hpoints, Ne.symm hne]
    · obtain ⟨hcount, hpoints⟩ := hmonthly.listed m₀ hold
      simp [hcount, hpoints, hmonth]
    · have hnone : rows.filter (fun r => r.monthKey = h.monthKey) = [] := by
        rw [List.filter_eq_nil_iff]
        intro r hr
        rw [decide_eq_true_eq]
        intro hc
        rw [hmonthly.months_eq, ← hc] at hnew
        exact hnew (List.mem_map_of_mem hr)
      simp [hnone]
  total := by
    rw [addToMonth_total, hmonthly.total, List.map_append, List.sum_append]
    simp

/-- The grouping, from the first row to the last. -/
theorem monthly_foldl (rows : List PointHistory) : Monthly (rows.foldl addToMonth []) rows := by
  suffices h : ∀ seen months, Monthly months seen →
      Monthly (rows.foldl addToMonth months) (seen ++ rows) from
    h [] [] ⟨List.nodup_nil, fun _ => Iff.rfl, nofun, rfl⟩
  induction rows with
  | nil =>
    intro seen months h
    rw [List.append_nil]
    exact h
  | cons r rest ih =>
    intro seen months h
    have hrest := ih (seen ++ [r]) _ (h.addToMonth r)
    rw [List.append_assoc] at hrest
    exact hrest

/-! ## The views together -/

section

variable {L : Ledger} {now : Time} {user : UserId} {days k : Nat} {r : PointHistory}

theorem isExpiringSoon_iff : isExpiringSoon now days user r = true ↔
    r.user = user ∧ r.type = .earn ∧ 0 < r.points ∧ now < r.expiry ∧
      r.expiry ≤ now + days * 86400 := by
  unfold isExpiringSoon PointHistory.expiry
  by_cases ht : r.type = .earn
  · obtain ⟨e, he⟩ := Option.isSome_iff_exists.mp (r.earn_expires ht)
    simp only [ht, he, decide_true, Bool.and_true, Bool.and_eq_true, decide_eq_true_eq,
      Option.any_some, Option.getD_some, true_and]
    tauto
  · simp [ht]

theorem isExpiring_iff : isExpiring now days user r = true ↔
    r.user = user ∧ r.type = .earn ∧ now ≤ r.expiry ∧ r.expiry ≤ now + days * 86400 := by
  unfold isExpiring PointHistory.expiry
  by_cases ht : r.type = .earn
  · obtain ⟨e, he⟩ := Option.isSome_iff_exists.mp (r.earn_expires ht)
    simp only [ht, he, decide_true, Bool.and_true, Bool.and_eq_true, decide_eq_true_eq,
      Option.any_some, Option.getD_some, true_and]
    tauto
  · simp [ht]

theorem mem_expiringHistories :
    (k, r) ∈ (L.getExpiringPoints now user days).expiringHistories ↔
      L.histories.get? k = some r ∧ isExpiring now days user r = true ∧
        0 < r.remainingPoints := by
  unfold Ledger.getExpiringPoints
  rw [List.mem_insertionSort, Table.mem_select, Bool.and_eq_true, decide_eq_true_eq]

theorem mem_monthlyHistories :
    (k, r) ∈ (getMonthlyExpiringSummary L now user days).2.1 ↔
      L.histories.get? k = some r ∧ isExpiringSoon now days user r = true ∧
        0 < r.remainingPoints := by
  unfold getMonthlyExpiringSummary
  rw [List.mem_insertionSort, Table.mem_select, Bool.and_eq_true, decide_eq_true_eq]

/-- The rows with nothing left add nothing. -/
theorem getExpiringSoon_eq (L : Ledger) (now : Time) (user : UserId) (days : Nat) :
    L.getExpiringSoon now user days = L.histories.sum fun _ r =>
      if (isExpiringSoon now days user r && decide (0 < r.remainingPoints)) = true then
        r.remainingPoints
      else 0 := by
  refine Table.sum_congr fun _ r _ => ?_
  have hnonneg := r.remainingPoints_nonneg
  by_cases hleft : 0 < r.remainingPoints
  · simp [hleft]
  · have hzero : r.remainingPoints = 0 := by omega
    simp [hzero]

theorem monthlyHistories_sum (L : Ledger) (now : Time) (user : UserId) (days : Nat) :
    ((getMonthlyExpiringSummary L now user days).2.1.map fun p => p.2.remainingPoints).sum
      = L.getExpiringSoon now user days := by
  rw [getExpiringSoon_eq]
  exact Table.sum_select_insertionSort _ _ (fun _ => PointHistory.remainingPoints) _

end

/-- The views of the points that expire within `days` agree, the months list
each row that has something left once, and the batch would take none of the
rows that a view counts. -/
structure ExpiringViews (L : Ledger) (now : Time) (user : UserId) (days : Nat) : Prop where
  monthly_total : ((getMonthlyExpiringSummary L now user days).1.map
    MonthlyExpiringSummary.points).sum = L.getExpiringSoon now user days
  total : (getMonthlyExpiringSummary L now user days).2.2 = L.getExpiringSoon now user days
  points_total : (L.getExpiringPoints now user days).totalExpiringPoints
    = L.getExpiringSoon now user days
  monthly : Monthly (getMonthlyExpiringSummary L now user days).1
    ((getMonthlyExpiringSummary L now user days).2.1.map Prod.snd)
  rows_nodup : ((getMonthlyExpiringSummary L now user days).2.1.map Prod.fst).Nodup
  rows_all : ∀ k r, L.histories.get? k = some r → r.user = user → 0 < r.remainingPoints →
    now < r.expiry → r.expiry ≤ now + days * 86400 →
      (k, r) ∈ (getMonthlyExpiringSummary L now user days).2.1
  none_due : ∀ k r, (k, r) ∈ getExpiredPoints L now →
    (k, r) ∉ (getMonthlyExpiringSummary L now user days).2.1 ∧
    isExpiringSoon now days user r = false ∧
    (k, r) ∉ (L.getExpiringPoints now user days).expiringHistories

/-- The views agree exactly when every row of the user that has something left
and is dated between `now` and the end of the period is dated after `now`, and
was made with points to give. -/
theorem expiring_views_agree_iff (L : Ledger) (now : Time) (user : UserId) (days : Nat) :
    ExpiringViews L now user days ↔
      ∀ k r, L.histories.get? k = some r → r.user = user → 0 < r.remainingPoints →
        now ≤ r.expiry → r.expiry ≤ now + days * 86400 → now < r.expiry ∧ 0 < r.points := by
  constructor
  · intro h k r hr hu hleft hfrom hto
    obtain ⟨ht, hexpired, _⟩ := PointHistory.live_of_remainingPoints_pos hleft
    have hlate : now < r.expiry := by
      by_contra hdue
      have hbatch : (k, r) ∈ getExpiredPoints L now :=
        mem_getExpiredPoints.mpr ⟨hr, ht, not_lt.mp hdue, hexpired⟩
      exact (h.none_due k r hbatch).2.2 (mem_expiringHistories.mpr
        ⟨hr, isExpiring_iff.mpr ⟨hu, ht, hfrom, hto⟩, hleft⟩)
    have hlisted := mem_monthlyHistories.mp (h.rows_all k r hr hu hleft hlate hto)
    exact ⟨hlate, (isExpiringSoon_iff.mp hlisted.2.1).2.2.1⟩
  · intro hcond
    -- The two queries pick the same rows among those with something left.
    have hsame : ∀ k r, L.histories.get? k = some r →
        (isExpiring now days user r && decide (0 < r.remainingPoints))
          = (isExpiringSoon now days user r && decide (0 < r.remainingPoints)) := by
      intro k r hr
      by_cases hleft : 0 < r.remainingPoints
      · rw [decide_eq_true hleft, Bool.and_true, Bool.and_true, Bool.eq_iff_iff,
          isExpiring_iff, isExpiringSoon_iff]
        constructor
        · rintro ⟨hu, ht, hfrom, hto⟩
          obtain ⟨hlate, hpoints⟩ := hcond k r hr hu hleft hfrom hto
          exact ⟨hu, ht, hpoints, hlate, hto⟩
        · rintro ⟨hu, ht, _, hlate, hto⟩
          exact ⟨hu, ht, hlate.le, hto⟩
      · simp [hleft]
    have hmonthly : Monthly (getMonthlyExpiringSummary L now user days).1
        ((getMonthlyExpiringSummary L now user days).2.1.map Prod.snd) := monthly_foldl _
    refine ⟨?_, rfl, ?_, hmonthly, Table.select_insertionSort_nodup _ _ _, ?_, ?_⟩
    · rw [hmonthly.total, List.map_map]
      exact monthlyHistories_sum L now user days
    · rw [getExpiringSoon_eq]
      refine (Table.sum_select_insertionSort _ _ (fun _ => PointHistory.remainingPoints) _).trans ?_
      refine Table.sum_congr fun k r hr => ?_
      rw [hsame k r hr]
    · intro k r hr hu hleft hlate hto
      have ht := (PointHistory.live_of_remainingPoints_pos hleft).1
      have hpoints := (hcond k r hr hu hleft hlate.le hto).2
      exact mem_monthlyHistories.mpr
        ⟨hr, isExpiringSoon_iff.mpr ⟨hu, ht, hpoints, hlate, hto⟩, hleft⟩
    · intro k r hbatch
      obtain ⟨hr, _, hdue, _⟩ := mem_getExpiredPoints.mp hbatch
      have hnotSoon : isExpiringSoon now days user r = false := by
        rw [Bool.eq_false_iff]
        intro hsoon
        exact not_lt.mpr hdue (isExpiringSoon_iff.mp hsoon).2.2.2.1
      refine ⟨fun hmem => ?_, hnotSoon, fun hmem => ?_⟩
      · rw [(mem_monthlyHistories.mp hmem).2.1] at hnotSoon
        cases hnotSoon
      · obtain ⟨_, hwindow, hleft⟩ := mem_expiringHistories.mp hmem
        obtain ⟨hu, _, hfrom, hto⟩ := isExpiring_iff.mp hwindow
        exact not_lt.mpr hdue (hcond k r hr hu hleft hfrom hto).1

/-- 500 points at the second of their expiry: `get_expiring_points` still
counts them, and the batch takes them. -/
theorem expiring_points_at_expiry :
    ∃ L, Run (pointStep fun _ => 7) (fun _ _ => True) (0, Ledger.empty)
        [(0, .add 7 500 .earn none none)] (0, L) ∧
      (L.getExpiringPoints 31536000 7).totalExpiringPoints = 500 ∧
      L.getExpiringSoon 31536000 7 = 0 ∧
      (getMonthlyExpiringSummary L 31536000 7).1 = [] ∧
      (L.getExpiringPoints 31536000 7).expiringHistories.map Prod.fst = [1] ∧
      (getExpiredPoints L 31536000).map Prod.fst = [1] := by
  obtain ⟨⟨t, L⟩, hrun, hs⟩ := Run.exists_of_execIf (by decide +kernel :
    (execIf (pointStep fun _ => 7) (fun _ _ => true) (0, Ledger.empty)
      [(0, .add 7 500 .earn none none)]).any
      (fun s => decide (s.1 = 0 ∧ (s.2.getExpiringPoints 31536000 7).totalExpiringPoints = 500 ∧
        s.2.getExpiringSoon 31536000 7 = 0 ∧
        (getMonthlyExpiringSummary s.2 31536000 7).1 = [] ∧
        (s.2.getExpiringPoints 31536000 7).expiringHistories.map Prod.fst = [1] ∧
        (getExpiredPoints s.2 31536000).map Prod.fst = [1])) = true)
  obtain ⟨ht, hviews⟩ := of_decide_eq_true hs
  obtain rfl : t = 0 := ht
  exact ⟨L, hrun.mono fun _ _ _ => trivial, hviews⟩

end Shopping
