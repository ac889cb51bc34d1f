import Shopping.Points.Entries
import Shopping.Points.Runs

/-!
# The clean-up of the history

`cleanup_old_point_histories` of `shopping/tasks/point_tasks.py` deletes the
`expire` rows that are older than the retention period.  It deletes them with
one query, so `PointHistory.delete`, which forbids it, is not called.

An `expire` row takes points off the account (`DebitsExpiry`), and nothing else
changes with it when it is deleted, so the rest of the history no longer adds
up to `user.points`: the clean-up is harmless for a user exactly when it deletes
none of the user's rows (`cleanup_keeps_ledger_iff`).
-/

namespace Shopping

open PointService

namespace PointTasks

/-- What the query of the clean-up picks. -/
def isOld (cutoff : Time) (r : PointHistory) : Bool :=
  decide (r.type = .expire) && decide (r.createdAt < cutoff)

/-- `cleanup_old_point_histories`: how many rows it deletes. -/
def cleanupOldPointHistories (L : Ledger) (now : Time) (days : Nat := 730) : Nat × Ledger :=
  let cutoffDate := now - days * 86400
  ((L.histories.select fun _ r => isOld cutoffDate r).length,
    { L with histories := L.histories.delete fun _ r => isOld cutoffDate r })

end PointTasks

open PointTasks

/-- Every `expire` row takes something off the account. -/
def DebitsExpiry (L : Ledger) : Prop := ∀ e ∈ L.entries, e.type = .expire → e.points < 0

section

variable {owner : OrderId → UserId} {now : Time} {L L' : Ledger}

theorem DebitsExpiry.append (h : DebitsExpiry L) (booked : List Entry)
    (hentries : L'.entries = L.entries ++ booked)
    (hbooked : ∀ e ∈ booked, e.type = .expire → e.points < 0) : DebitsExpiry L' := by
  intro e he ht
  rw [hentries, List.mem_append] at he
  rcases he with he | he
  · exact h e he ht
  · exact hbooked e he ht

theorem DebitsExpiry.expireOne (h : DebitsExpiry L) {k : Nat} {seen : PointHistory} {b : Bool}
    (hexp : PointService.expireOne L now k seen = .ok (b, L')) : DebitsExpiry L' := by
  rcases expireOne_cases hexp with rfl | ⟨current, _, hpos, rfl⟩
  · exact h
  · refine h.append [⟨none, .expire, -current.remainingPoints⟩] ?_ ?_
    · have hentry : ∀ r, (PointHistory.recordExpiry now current.remainingPoints r).entry
          = r.entry := fun _ => rfl
      rw [Ledger.entries_saveRow _ k hentry, Ledger.entries_createHistory,
        Ledger.entries_setPoints]
    · intro e he _
      rw [List.mem_singleton] at he
      subst he
      exact neg_lt_zero.mpr hpos

theorem DebitsExpiry.expireLoop (h : DebitsExpiry L) (fails : Nat → Bool)
    (rows : List (Nat × PointHistory)) : DebitsExpiry (expireLoop now fails L rows).1 := by
  induction rows generalizing L with
  | nil => exact h
  | cons p rest ih =>
    obtain ⟨k, seen⟩ := p
    unfold PointService.expireLoop
    split
    · exact ih h
    · rename_i done L' heq
      split at heq
      · cases heq
      · exact ih (h.expireOne heq)

/-- Every point operation keeps it. -/
theorem DebitsExpiry.apply (h : DebitsExpiry L) {op : PointOp} (hok : op.allowed owner = true) :
    DebitsExpiry (op.apply owner now L) := by
  cases op with
  | add user amount type order returnId =>
    simp only [PointOp.apply]
    cases hadd : addPoints L now user amount type order returnId with
    | error e => exact h
    | ok out =>
      refine h.append _ (addPoints_entries hadd) fun e he ht => ?_
      split at he
      · rw [List.mem_singleton] at he
        subst he
        have htype : type = .expire := ht
        subst htype
        cases hok
      · cases he
  | use user amount type order returnId =>
    refine h.append _ (usePointsFifo_entries L now user amount type order returnId)
      fun e he ht => ?_
    split at he
    · rw [List.mem_singleton] at he
      subst he
      have htype : type = .expire := ht
      subst htype
      simp [PointOp.allowed] at hok
    · cases he
  | refund order amount type returnId =>
    obtain ⟨booked, hentries, hkinds⟩ :=
      refundUsedPoints_entries L now (owner order) amount order type returnId
    refine h.append booked hentries fun e he ht => ?_
    rcases (hkinds e he).2 with htype | ⟨_, hneg⟩
    · have hexpire : type = .expire := htype.symm.trans ht
      subst hexpire
      cases hok
    · exact hneg
  | expireOne k stale =>
    simp only [PointOp.apply]
    cases L.histories.get? k with
    | none => exact h
    | some r =>
      dsimp only
      cases hexp : PointService.expireOne L now k { r with metadata := stale } with
      | error e => exact h
      | ok out => exact h.expireOne hexp
  | expireAll fails =>
    show DebitsExpiry (expirePoints L now fails).2
    rw [expirePoints_ledger]
    exact h.expireLoop fails _

theorem DebitsExpiry.run {s t : Time × Ledger} {es : List (Time × PointOp)}
    (hs : DebitsExpiry s.2) (h : Run (pointStep owner) (fun _ _ => True) s es t) :
    DebitsExpiry t.2 := by
  refine h.invariant (fun s => DebitsExpiry s.2) hs fun s e u hI _ hstep => ?_
  unfold pointStep at hstep
  split at hstep
  · rename_i hc
    cases hstep
    exact hI.apply hc.2
  · cases hstep

/-- A row of the table is one of the entries. -/
theorem DebitsExpiry.row (h : DebitsExpiry L) {k : Nat} {r : PointHistory}
    (hr : L.histories.get? k = some r) (ht : r.type = .expire) : r.points < 0 :=
  h r.entry (List.mem_map_of_mem (Table.get?_eq_some.mp hr)) ht

/-! ## What the clean-up leaves -/

/-- The sum of a user's rows is more by what the deleted ones took. -/
theorem cleanup_pointsSum (L : Ledger) (now : Time) (days : Nat) (u : UserId) :
    (cleanupOldPointHistories L now days).2.pointsSum u
      = L.pointsSum u - L.histories.sum fun _ r =>
          if r.user = u ∧ isOld (now - days * 86400) r = true then r.points else 0 := by
  unfold Ledger.pointsSum cleanupOldPointHistories
  dsimp only
  rw [Table.sum_delete, ← Table.sum_sub]
  refine Table.sum_congr fun _ r _ => ?_
  by_cases hu : r.user = u
  · by_cases hold : isOld (now - days * 86400) r = true
    · simp [hu, hold]
    · simp [hu, hold]
  · simp [hu]

theorem PointTasks.isOld_type {cutoff : Time} {r : PointHistory} (h : isOld cutoff r = true) :
    r.type = .expire := by
  unfold isOld at h
  rw [Bool.and_eq_true, decide_eq_true_eq] at h
  exact h.1

/-- What the deleted rows of a user had taken, when there is one. -/
theorem DebitsExpiry.deleted_neg (h : DebitsExpiry L) {cutoff : Time} {u : UserId} {k : Nat}
    {r : PointHistory} (hr : L.histories.get? k = some r) (hu : r.user = u)
    (hold : isOld cutoff r = true) :
    (L.histories.sum fun _ r => if r.user = u ∧ isOld cutoff r = true then r.points else 0)
      < 0 := by
  -- Each of them takes something off, and this one does.
  have hle : (L.histories.sum fun _ r =>
      if r.user = u ∧ isOld cutoff r = true then r.points else 0)
        ≤ L.histories.sum fun j _ => if j = k then r.points else 0 := by
    refine Table.sum_le_sum fun j b hj => ?_
    by_cases hjk : j = k
    · subst hjk
      rw [hr, Option.some.injEq] at hj
      subst hj
      simp [hu, hold]
    · rw [if_neg hjk]
      split
      · rename_i hb
        exact (h.row hj (isOld_type hb.2)).le
      · exact le_rfl
  rw [Table.sum_single hr fun _ => r.points] at hle
  exact lt_of_le_of_lt hle (h.row hr (isOld_type hold))

/-- A user all of whose rows are kept. -/
theorem cleanup_rowsOf {days : Nat} {u : UserId}
    (h : ∀ k r, L.histories.get? k = some r → r.user = u →
      isOld (now - days * 86400) r = false) :
    (cleanupOldPointHistories L now days).2.rowsOf u = L.rowsOf u := by
  unfold Ledger.rowsOf cleanupOldPointHistories Table.select Table.delete
  dsimp only
  rw [List.filter_filter]
  refine List.filter_congr fun q hq => ?_
  by_cases hu : q.2.user = u
  · simp [hu, h q.1 q.2 (Table.get?_eq_some.mpr hq) hu]
  · simp [hu]

/-- After every run of point operations, the clean-up leaves a user's history
in agreement with `user.points` exactly when the user has no `expire` row from
before the cut-off. -/
theorem cleanup_keeps_ledger_iff {t₀ t : Time} {es : List (Time × PointOp)}
    (h : Run (pointStep owner) (fun _ _ => True) (t₀, Ledger.empty) es (t, L)) (now : Time)
    (days : Nat) (u : UserId) :
    (L.getUserBalance u = L.points u ∧ L.pointsSum u = L.points u) ∧
    ((cleanupOldPointHistories L now days).2.points u = L.points u) ∧
    (((cleanupOldPointHistories L now days).2.getUserBalance u = L.points u ∧
        (cleanupOldPointHistories L now days).2.pointsSum u = L.points u) ↔
      ∀ k r, L.histories.get? k = some r → r.user = u → r.type = .expire →
        now - days * 86400 ≤ r.createdAt) := by
  have hs : Sound owner t L := pointRun_sound h
  have hdebits : DebitsExpiry L := DebitsExpiry.run (s := (t₀, Ledger.empty)) nofun h
  have hbalance := hs.booked.getUserBalance_eq u
  have hsum := hs.booked.points_eq u
  refine ⟨⟨hbalance, hsum.symm⟩, rfl, fun ⟨_, hafter⟩ k r hr hu ht => ?_, fun hkept => ?_⟩
  · by_contra hearly
    have hold : isOld (now - days * 86400) r = true := by
      simp [isOld, ht, not_le.mp hearly]
    rw [cleanup_pointsSum, hsum] at hafter
    have := hdebits.deleted_neg hr hu hold
    omega
  · have hold : ∀ k r, L.histories.get? k = some r → r.user = u →
        isOld (now - days * 86400) r = false := by
      intro k r hr hu
      by_cases ht : r.type = .expire
      · simp [isOld, ht, hkept k r hr hu ht]
      · simp [isOld, ht]
    have hrows := cleanup_rowsOf hold
    refine ⟨?_, ?_⟩
    · rw [← hbalance]
      unfold Ledger.getUserBalance
      rw [hrows]
    · rw [← rowPoints_rowsOf, hrows, rowPoints_rowsOf, hsum]

/-- 500 points that were never used, and the batch after their date. -/
def unusedPoints : List (Time × PointOp) :=
  [(0, .add 7 500 .earn none none), (31622400, .expireAll fun _ => false)]

/-- A year after the expiry the row is still within the retention period. -/
theorem cleanup_keeps_ledger_one_year :
    ∃ L, Run (pointStep fun _ => 7) (fun _ _ => True) (0, Ledger.empty) unusedPoints (31622400, L) ∧
      (cleanupOldPointHistories L 63158400).2.getUserBalance 7 = L.points 7 ∧
      (cleanupOldPointHistories L 63158400).2.pointsSum 7 = L.points 7 := by
  obtain ⟨⟨t, L⟩, hrun, hs⟩ := Run.exists_of_execIf (by decide +kernel :
    (execIf (pointStep fun _ => 7) (fun _ _ => true) (0, Ledger.empty) unusedPoints).any
      (fun s => decide (s.1 = 31622400) &&
        !s.2.histories.any fun _ r => isOld (63158400 - 730 * 86400) r) = true)
  rw [Bool.and_eq_true, decide_eq_true_eq, Bool.not_eq_true', Table.any_eq_false] at hs
  obtain ⟨ht, hkept⟩ := hs
  obtain rfl : t = 31622400 := ht
  have hmono := hrun.mono fun _ _ _ => trivial
  refine ⟨L, hmono, (cleanup_keeps_ledger_iff hmono 63158400 730 7).2.2.mpr ?_⟩
  intro k r hr _ ht
  have hnot := hkept k r hr
  unfold isOld at hnot
  rw [ht, decide_eq_true rfl, Bool.true_and, decide_eq_false_iff_not, not_lt] at hnot
  exact hnot

/-- Three years after, it is deleted: the earned 500 are all that is left of
the history, and the account has none. -/
theorem cleanup_forgets_expiry :
    ∃ L, Run (pointStep fun _ => 7) (fun _ _ => True) (0, Ledger.empty) unusedPoints (31622400, L) ∧
      L.points 7 = 0 ∧ L.getUserBalance 7 = 0 ∧
      (cleanupOldPointHistories L 126230400).1 = 1 ∧
      (cleanupOldPointHistories L 126230400).2.getUserBalance 7 = 500 ∧
      (cleanupOldPointHistories L 126230400).2.pointsSum 7 = 500 := by
  obtain ⟨⟨t, L⟩, hrun, hs⟩ := Run.exists_of_execIf (by decide +kernel :
    (execIf (pointStep fun _ => 7) (fun _ _ => true) (0, Ledger.empty) unusedPoints).any
      (fun s => decide (s.1 = 31622400 ∧ s.2.points 7 = 0 ∧ s.2.getUserBalance 7 = 0 ∧
        (cleanupOldPointHistories s.2 126230400).1 = 1 ∧
        (cleanupOldPointHistories s.2 126230400).2.getUserBalance 7 = 500 ∧
        (cleanupOldPointHistories s.2 126230400).2.pointsSum 7 = 500)) = true)
  obtain ⟨ht, hafter⟩ := of_decide_eq_true hs
  obtain rfl : t = 31622400 := ht
  exact ⟨L, hrun.mono fun _ _ _ => trivial, hafter⟩

end

end Shopping
