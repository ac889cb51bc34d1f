import Shopping.Points.Standing

/-!
# The expiry batch, run until nothing fails

Each row of the batch is a transaction of its own.  `Expired now L D L'` says
that `L'` is `L` after the rows `D` were expired, whatever runs it took: the
balances and the earn rows follow from which rows are in `D`, and the history
rows follow but for their order and for the running balance that each copied
from the account.

One row is added to `D` at a time (`Expired.row`), a run adds the rows that it
visits and that do not fail (`Expired.loop`), and a run that raises nothing
leaves no row to add (`Expired.batch`).  So two ways to get there end alike
(`Expired.same`).

Beside other transactions the batch expires a row at most once, for what the
row has left at that time: `shiftStep` are the steps, `expiries` what the
batches did in one.
-/

namespace Shopping

open PointService

/-! ## The rows and the balance -/

/-- What a debit that stops at 0 leaves. -/
def debited (points x : Int) : Int := if x ≤ 0 then points else max (points - x) 0

theorem debited_add {points x y : Int} (hx : 0 ≤ x) (hy : 0 < y) :
    max (debited points x - y) 0 = debited points (x + y) := by
  unfold debited
  rw [if_neg (by omega : ¬ x + y ≤ 0)]
  split
  · omega
  · omega

/-- A row without the running balance that it copied. -/
def PointHistory.withoutBalance (r : PointHistory) : PointHistory := { r with balance := 0 }

/-- The row that the batch writes for the earn row `k`. -/
def batchRow (now : Time) (k : Nat) (user : UserId) (left balance : Int) : PointHistory :=
  PointHistory.create now user (-left) balance .expire none
    { originalHistoryId := some k, expiredAmount := some left }

/-- The same for a row as the batch reads it, without the balance. -/
def expiryRow (now : Time) (p : Nat × PointHistory) : PointHistory :=
  batchRow now p.1 p.2.user p.2.remainingPoints 0

/-- The row `k` once the rows `D` are expired. -/
def expiredIn (now : Time) (D : List (Nat × PointHistory)) (k : Nat) (r : PointHistory) :
    PointHistory :=
  if k ∈ D.map Prod.fst then r.recordExpiry now r.remainingPoints else r

/-- What the rows `D` have left, of one user. -/
def leftIn (D : List (Nat × PointHistory)) (u : UserId) : Int :=
  (D.map fun p => if p.2.user = u then p.2.remainingPoints else 0).sum

/-- The expire rows of the history, without their balances. -/
def expireRows (L : Ledger) : List PointHistory :=
  (L.histories.select fun _ r => decide (r.type = .expire)).map fun p => p.2.withoutBalance

theorem leftIn_append (D : List (Nat × PointHistory)) (p : Nat × PointHistory) (u : UserId) :
    leftIn (D ++ [p]) u = leftIn D u + if p.2.user = u then p.2.remainingPoints else 0 := by
  simp [leftIn]

theorem leftIn_nonneg (D : List (Nat × PointHistory)) (u : UserId) : 0 ≤ leftIn D u := by
  refine List.sum_nonneg fun x hx => ?_
  obtain ⟨p, _, rfl⟩ := List.mem_map.mp hx
  split
  · exact p.2.remainingPoints_nonneg
  · exact le_refl 0

theorem expiredIn_of_not_mem {now : Time} {D : List (Nat × PointHistory)} {k : Nat}
    (h : k ∉ D.map Prod.fst) (r : PointHistory) : expiredIn now D k r = r := by
  unfold expiredIn
  rw [if_neg h]

theorem expiredIn_append (now : Time) (D : List (Nat × PointHistory)) (p : Nat × PointHistory)
    (k : Nat) (r : PointHistory) :
    expiredIn now (D ++ [p]) k r
      = if k = p.1 then r.recordExpiry now r.remainingPoints else expiredIn now D k r := by
  have hmem : k ∈ (D ++ [p]).map Prod.fst ↔ k = p.1 ∨ k ∈ D.map Prod.fst := by
    rw [List.map_append, List.mem_append, List.map_singleton, List.mem_singleton]
    exact or_comm
  unfold expiredIn
  by_cases hk : k = p.1
  · rw [if_pos hk, if_pos (hmem.mpr (Or.inl hk))]
  · rw [if_neg hk]
    by_cases hD : k ∈ D.map Prod.fst
    · rw [if_pos hD, if_pos (hmem.mpr (Or.inr hD))]
    · rw [if_neg hD, if_neg fun hc => (hmem.mp hc).elim hk hD]

theorem expiredIn_remaining {now : Time} {D : List (Nat × PointHistory)} {k : Nat}
    (h : k ∈ D.map Prod.fst) (r : PointHistory) : (expiredIn now D k r).remainingPoints = 0 := by
  unfold expiredIn
  rw [if_pos h, recordExpiry_remainingPoints]

/-! ## One row -/

/-- What `_expire_one` writes for the row `k`, which has `left` of `user`. -/
def Ledger.expire (L : Ledger) (now : Time) (k : Nat) (user : UserId) (left : Int) : Ledger :=
  ((L.setPoints user (max (L.points user - left) 0)).createHistory now user (-left) .expire none
    { originalHistoryId := some k, expiredAmount := some left }).saveRow k
      (PointHistory.recordExpiry now left)

/-- A row that the batch finds as it read it. -/
theorem expireOne_fresh {L : Ledger} {k : Nat} {seen : PointHistory}
    (hseen : L.histories.get? k = some seen) (now : Time) :
    expireOne L now k seen = .ok (if 0 < seen.remainingPoints then
      (true, L.expire now k seen.user seen.remainingPoints) else (false, L)) := by
  unfold expireOne
  by_cases hpos : 0 < seen.remainingPoints
  · have hlive := PointHistory.live_of_remainingPoints_pos hpos
    rw [if_neg (not_le.mpr hpos), hseen, if_pos hpos]
    dsimp only
    rw [hlive.2.1, if_neg Bool.false_ne_true, if_neg (not_le.mpr hpos)]
    rfl
  · rw [if_pos (not_lt.mp hpos), if_neg hpos]

/-- The rows after the expiry of one: the row is flagged, and one row is new. -/
theorem Ledger.expire_rows (L : Ledger) (now : Time) {k : Nat} {r : PointHistory}
    (hr : L.histories.get? k = some r) (user : UserId) (left : Int) :
    ∃ balance, (L.expire now k user left).histories.rows
      = (L.histories.rows.map fun p => (p.1, if p.1 = k then
          PointHistory.recordExpiry now left p.2 else p.2))
        ++ [(L.histories.next, batchRow now k user left balance)] := by
  have hnext : L.histories.next ≠ k := ne_of_gt (Table.lt_next hr)
  have hnew : ∀ (t : Table PointHistory) (a : PointHistory) (f : PointHistory → PointHistory),
      t.next ≠ k → ((t.insert a).modify k f).rows
        = (t.rows.map fun p => (p.1, if p.1 = k then f p.2 else p.2)) ++ [(t.next, a)] := by
    intro t a f hne
    unfold Table.modify
    rw [Table.mapRows_rows, Table.insert_rows, List.map_append, List.map_singleton]
    simp only [if_neg hne]
  exact ⟨_, hnew L.histories _ _ hnext⟩

/-! ## After some expiries -/

/-- `L'` is `L` after the batch expired the rows `D`. -/
structure Expired (now : Time) (L : Ledger) (D : List (Nat × PointHistory)) (L' : Ledger) :
    Prop where
  nodup : (D.map Prod.fst).Nodup
  due : ∀ p ∈ D, L.histories.get? p.1 = some p.2 ∧ p.2.expiry ≤ now ∧ 0 < p.2.remainingPoints
  points : ∀ u, L'.points u = debited (L.points u) (leftIn D u)
  rows : ∃ added, L'.histories.rows
      = (L.histories.rows.map fun p => (p.1, expiredIn now D p.1 p.2)) ++ added ∧
    added.map (fun p => p.2.withoutBalance) = D.map (expiryRow now)

namespace Expired

variable {now : Time} {L L' : Ledger} {D : List (Nat × PointHistory)}

theorem refl (now : Time) (L : Ledger) : Expired now L [] L := by
  refine ⟨List.nodup_nil, fun p hp => ?_, fun u => ?_, [], ?_, rfl⟩
  · cases hp
  · simp [debited, leftIn]
  · simp [expiredIn]

theorem touches (h : Expired now L D L') : Touches (expiredIn now D) L L' := by
  obtain ⟨added, hrows, hadded⟩ := h.rows
  refine ⟨added, hrows, fun p hp => ?_⟩
  have hmem : p.2.withoutBalance ∈ D.map (expiryRow now) := by
    rw [← hadded]
    exact List.mem_map.mpr ⟨p, hp, rfl⟩
  obtain ⟨q, _, hq⟩ := List.mem_map.mp hmem
  have htype : PointType.expire = p.2.type := congrArg PointHistory.type hq
  rw [← htype]
  decide

/-- A row with something left has not been expired. -/
theorem live (h : Expired now L D L') {k : Nat} {seen : PointHistory}
    (hseen : L'.histories.get? k = some seen) (hpos : 0 < seen.remainingPoints) :
    L.histories.get? k = some seen ∧ k ∉ D.map Prod.fst := by
  cases hk : L.histories.get? k with
  | none =>
    have hearn := (PointHistory.live_of_remainingPoints_pos hpos).1
    exact absurd hearn (h.touches.new_row hk hseen)
  | some r =>
    have hrow := h.touches.get? hk
    rw [hseen, Option.some.injEq] at hrow
    by_cases hD : k ∈ D.map Prod.fst
    · have h0 : (expiredIn now D k r).remainingPoints = 0 := expiredIn_remaining hD r
      rw [← hrow] at h0
      omega
    · rw [hrow, expiredIn_of_not_mem hD]
      exact ⟨rfl, hD⟩

/-- The transaction of one row that has something left. -/
theorem row (h : Expired now L D L') {k : Nat} {seen : PointHistory}
    (hseen : L'.histories.get? k = some seen) (hdue : seen.expiry ≤ now)
    (hpos : 0 < seen.remainingPoints) :
    Expired now L (D ++ [(k, seen)]) (L'.expire now k seen.user seen.remainingPoints) := by
  obtain ⟨hget, hD⟩ := h.live hseen hpos
  refine ⟨?_, ?_, ?_, ?_⟩
  · rw [List.map_append, List.nodup_append]
    refine ⟨h.nodup, by simp, fun a ha b hb => ?_⟩
    rw [List.map_singleton, List.mem_singleton] at hb
    intro hc
    rw [hc, hb] at ha
    exact hD ha
  · intro p hp
    rcases List.mem_append.mp hp with hp | hp
    · exact h.due p hp
    · rw [List.mem_singleton.mp hp]
      exact ⟨hget, hdue, hpos⟩
  · intro u
    unfold Ledger.expire
    rw [leftIn_append, Ledger.saveRow_points, Ledger.createHistory_points]
    by_cases hu : u = seen.user
    · rw [hu, Ledger.setPoints_points_self, h.points, if_pos rfl]
      exact debited_add (leftIn_nonneg D _) hpos
    · rw [Ledger.setPoints_points_of_ne _ hu, h.points, if_neg fun hc => hu hc.symm, add_zero]
  · obtain ⟨added, hrows, hadded⟩ := h.rows
    obtain ⟨balance, hexpired⟩ := L'.expire_rows now hseen seen.user seen.remainingPoints
    refine ⟨added ++ [(L'.histories.next, batchRow now k seen.user seen.remainingPoints balance)],
      hexpired.trans ?_, ?_⟩
    · -- The row `k` is one of `L`, so the rows added since stay as they are.
      have hothers : ∀ p ∈ added, (if p.1 = k then
          PointHistory.recordExpiry now seen.remainingPoints p.2 else p.2) = p.2 := by
        intro p hp
        have hnodup := L'.histories.nodup_keys
        rw [hrows, List.map_append, List.nodup_append, List.map_map] at hnodup
        have hk := hnodup.2.2 k (List.mem_map.mpr ⟨(k, seen), Table.get?_eq_some.mp hget, rfl⟩)
          p.1 (List.mem_map_of_mem hp)
        rw [if_neg fun hc => hk hc.symm]
      rw [hrows, List.map_append, List.map_map, List.append_assoc]
      congr 1
      · refine List.map_congr_left fun p hp => ?_
        simp only [Function.comp_apply]
        by_cases hpk : p.1 = k
        · have hp' : L.histories.get? p.1 = some p.2 := Table.get?_eq_some.mpr hp
          rw [hpk, hget, Option.some.injEq] at hp'
          rw [if_pos hpk, expiredIn_append, if_pos hpk, hpk, expiredIn_of_not_mem hD, ← hp']
        · rw [if_neg hpk, expiredIn_append, if_neg hpk]
      · congr 1
        refine (List.map_congr_left fun p hp => ?_).trans (List.map_id added)
        exact Prod.ext rfl (hothers p hp)
    · rw [List.map_append, List.map_append, hadded, List.map_singleton, List.map_singleton]
      rfl

/-- The rows that a batch still has to visit are as it read them. -/
theorem expire_other {L : Ledger} {k j : Nat} {r s : PointHistory}
    (hr : L.histories.get? k = some r) (hne : j ≠ k) (hs : L.histories.get? j = some s) :
    (L.expire now k r.user r.remainingPoints).histories.get? j = some s := by
  obtain ⟨balance, hrows⟩ := L.expire_rows now hr r.user r.remainingPoints
  rw [Table.get?_eq_some, hrows]
  refine List.mem_append_left _ (List.mem_map.mpr ⟨(j, s), Table.get?_eq_some.mp hs, ?_⟩)
  rw [if_neg hne]

/-- The batch expires the rows that do not fail and have something left, and
answers the rows that fail. -/
theorem loop (fails : Nat → Bool) {rows : List (Nat × PointHistory)} (h : Expired now L D L')
    (hnodup : (rows.map Prod.fst).Nodup)
    (hrows : ∀ p ∈ rows, L'.histories.get? p.1 = some p.2 ∧ p.2.expiry ≤ now) :
    (∃ D', Expired now L D' (expireLoop now fails L' rows).1 ∧ (∀ p ∈ D, p ∈ D') ∧
      ∀ p ∈ rows, fails p.1 = false → 0 < p.2.remainingPoints → p ∈ D') ∧
    (expireLoop now fails L' rows).2.2 = (rows.map Prod.fst).filter fails := by
  induction rows generalizing L' D with
  | nil => exact ⟨⟨D, h, fun _ hp => hp, fun _ hp => absurd hp List.not_mem_nil⟩, rfl⟩
  | cons q rest ih =>
    obtain ⟨k, seen⟩ := q
    rw [List.map_cons, List.nodup_cons] at hnodup
    obtain ⟨hseen, hdue⟩ := hrows (k, seen) List.mem_cons_self
    have hrest : ∀ p ∈ rest, L'.histories.get? p.1 = some p.2 ∧ p.2.expiry ≤ now :=
      fun p hp => hrows p (List.mem_cons_of_mem _ hp)
    rw [expireLoop, List.map_cons]
    by_cases hfails : fails k = true
    · obtain ⟨⟨D', hD', hold, hnew⟩, hlist⟩ := ih h hnodup.2 hrest
      simp only [hfails, if_true]
      refine ⟨⟨D', hD', hold, fun p hp hok hpos => ?_⟩, ?_⟩
      · rcases List.mem_cons.mp hp with rfl | hp
        · rw [hfails] at hok
          cases hok
        · exact hnew p hp hok hpos
      · rw [List.filter_cons_of_pos hfails, hlist]
    · simp only [hfails, if_false, Bool.false_eq_true, expireOne_fresh hseen now]
      rw [List.filter_cons_of_neg hfails]
      by_cases hpos : 0 < seen.remainingPoints
      · rw [if_pos hpos]
        have hafter : ∀ p ∈ rest,
            (L'.expire now k seen.user seen.remainingPoints).histories.get? p.1 = some p.2 ∧
              p.2.expiry ≤ now := by
          intro p hp
          refine ⟨expire_other hseen ?_ (hrest p hp).1, (hrest p hp).2⟩
          intro hc
          apply hnodup.1
          show k ∈ rest.map Prod.fst
          rw [← hc]
          exact List.mem_map_of_mem hp
        obtain ⟨⟨D', hD', hold, hnew⟩, hlist⟩ := ih (h.row hseen hdue hpos) hnodup.2 hafter
        refine ⟨⟨D', hD', fun p hp => hold p (List.mem_append_left _ hp), fun p hp hok hpos => ?_⟩,
          hlist⟩
        rcases List.mem_cons.mp hp with rfl | hp
        · exact hold _ (by simp)
        · exact hnew p hp hok hpos
      · rw [if_neg hpos]
        obtain ⟨⟨D', hD', hold, hnew⟩, hlist⟩ := ih h hnodup.2 hrest
        refine ⟨⟨D', hD', hold, fun p hp hok hleft => ?_⟩, hlist⟩
        rcases List.mem_cons.mp hp with rfl | hp
        · exact absurd hleft hpos
        · exact hnew p hp hok hleft

/-- Every row that the batch could expire has been. -/
def Complete (now : Time) (L : Ledger) (D : List (Nat × PointHistory)) : Prop :=
  ∀ p : Nat × PointHistory, L.histories.get? p.1 = some p.2 → p.2.expiry ≤ now →
    0 < p.2.remainingPoints → p ∈ D

/-- A run of the batch. -/
theorem batch (h : Expired now L D L') (fails : Nat → Bool) :
    ∃ D', Expired now L D' (expirePoints L' now fails).2 ∧ (∀ p ∈ D, p ∈ D') ∧
      ∀ n, (expirePoints L' now fails).1 = .ok n → Complete now L D' := by
  obtain ⟨⟨D', hD', hold, hnew⟩, hlist⟩ :=
    h.loop fails (getExpiredPoints_nodup L' now) fun _ => getExpiredPoints_read
  refine ⟨D', expirePoints_ledger L' now fails ▸ hD', hold, fun n hok p hp hdue hpos => ?_⟩
  have hnone : ((getExpiredPoints L' now).map Prod.fst).filter fails = [] := by
    rw [← hlist]
    by_contra hne
    unfold expirePoints at hok
    dsimp only at hok
    rw [if_pos hne] at hok
    cases hok
  by_cases hD : p.1 ∈ D.map Prod.fst
  · obtain ⟨q, hq, hqp⟩ := List.mem_map.mp hD
    have hqL := (h.due q hq).1
    rw [hqp, hp, Option.some.injEq] at hqL
    have hpq : p = q := Prod.ext hqp.symm hqL
    rw [hpq]
    exact hold q hq
  · have hrow := h.touches.get? hp
    rw [expiredIn_of_not_mem hD] at hrow
    have hlive := PointHistory.live_of_remainingPoints_pos hpos
    have hmem : p ∈ getExpiredPoints L' now :=
      mem_getExpiredPoints.mpr ⟨hrow, hlive.1, hdue, hlive.2.1⟩
    refine hnew p hmem ?_ hpos
    have hnot := List.filter_eq_nil_iff.mp hnone p.1 (List.mem_map_of_mem hmem)
    rwa [Bool.not_eq_true] at hnot

/-- All the rows, in whatever order. -/
theorem Complete.perm {D₁ D₂ : List (Nat × PointHistory)} {L₁ L₂ : Ledger}
    (h₁ : Expired now L D₁ L₁) (h₂ : Expired now L D₂ L₂) (hc₁ : Complete now L D₁)
    (hc₂ : Complete now L D₂) : D₁.Perm D₂ := by
  apply (List.perm_ext_iff_of_nodup (List.Nodup.of_map _ h₁.nodup)
    (List.Nodup.of_map _ h₂.nodup)).mpr
  intro p
  constructor
  · intro hp
    obtain ⟨hget, hdue, hpos⟩ := h₁.due p hp
    exact hc₂ p hget hdue hpos
  · intro hp
    obtain ⟨hget, hdue, hpos⟩ := h₂.due p hp
    exact hc₁ p hget hdue hpos

/-- The same rows expired in two orders: the balances and all rows of `L` end
alike, and so do the expire rows but for their order and their balances. -/
theorem same {D₁ D₂ : List (Nat × PointHistory)} {L₁ L₂ : Ledger} (h₁ : Expired now L D₁ L₁)
    (h₂ : Expired now L D₂ L₂) (hperm : D₁.Perm D₂) :
    (∀ u, L₁.points u = L₂.points u) ∧
    (∀ k r, L.histories.get? k = some r → L₁.histories.get? k = L₂.histories.get? k) ∧
    (expireRows L₁).Perm (expireRows L₂) := by
  have hin : ∀ k r, expiredIn now D₁ k r = expiredIn now D₂ k r := by
    intro k r
    unfold expiredIn
    simp only [(hperm.map Prod.fst).mem_iff]
  refine ⟨fun u => ?_, fun k r hr => ?_, ?_⟩
  · have hleft : leftIn D₁ u = leftIn D₂ u := (hperm.map _).sum_eq
    rw [h₁.points, h₂.points, hleft]
  · rw [h₁.touches.get? hr, h₂.touches.get? hr, hin]
  · have hrows : ∀ {D : List (Nat × PointHistory)} {L' : Ledger}, Expired now L D L' →
        expireRows L' = (((L.histories.rows.map fun p => (p.1, expiredIn now D p.1 p.2)).filter
          fun p => decide (p.2.type = .expire)).map fun p => p.2.withoutBalance)
            ++ D.map (expiryRow now) := by
      intro D L' h
      obtain ⟨added, hrows, hadded⟩ := h.rows
      have hall : added.filter (fun p => decide (p.2.type = .expire)) = added := by
        refine List.filter_eq_self.mpr fun p hp => ?_
        have hmem : p.2.withoutBalance ∈ D.map (expiryRow now) := by
          rw [← hadded]
          exact List.mem_map.mpr ⟨p, hp, rfl⟩
        obtain ⟨q, _, hq⟩ := List.mem_map.mp hmem
        have htype : PointType.expire = p.2.type := congrArg PointHistory.type hq
        exact decide_eq_true htype.symm
      unfold expireRows Table.select
      rw [hrows, List.filter_append, List.map_append, hall, hadded]
    rw [hrows h₁, hrows h₂]
    simp only [hin]
    exact (hperm.map _).append_left _

end Expired

/-! ## Run after run -/

/-- The ledger after some runs of the batch; each names the rows that fail. -/
def retried (L : Ledger) (now : Time) (runs : List (Nat → Bool)) : Ledger :=
  runs.foldl (fun L fails => (expirePoints L now fails).2) L

namespace Expired

variable {now : Time} {L L' : Ledger} {D : List (Nat × PointHistory)}

theorem runs (h : Expired now L D L') (fails : List (Nat → Bool)) :
    ∃ D', Expired now L D' (retried L' now fails) := by
  induction fails generalizing L' D with
  | nil => exact ⟨D, h⟩
  | cons f rest ih =>
    obtain ⟨D', hD', _⟩ := h.batch f
    exact ih hD'

/-- A batch that finds rows with nothing left changes nothing. -/
theorem loop_idle (fails : Nat → Bool) {rows : List (Nat × PointHistory)}
    (hrows : ∀ p ∈ rows, p.2.remainingPoints ≤ 0) : (expireLoop now fails L rows).1 = L := by
  induction rows with
  | nil => rfl
  | cons q rest ih =>
    obtain ⟨k, seen⟩ := q
    have hseen : seen.remainingPoints ≤ 0 := hrows (k, seen) List.mem_cons_self
    have hexpire : expireOne L now k seen = .ok (false, L) := by
      unfold expireOne
      rw [if_pos hseen]
    have hrest := ih fun p hp => hrows p (List.mem_cons_of_mem _ hp)
    rw [expireLoop]
    by_cases hfails : fails k = true
    · simp only [hfails, if_true]
      exact hrest
    · simp only [hfails, if_false, Bool.false_eq_true, hexpire]
      exact hrest

/-- After a complete batch an extra run changes nothing. -/
theorem extra (h : Expired now L D L') (hcomplete : Complete now L D) (fails : Nat → Bool) :
    (expirePoints L' now fails).2 = L' := by
  have hidle : (expireLoop now fails L' (getExpiredPoints L' now)).1 = L' := by
    refine loop_idle fails fun p hp => ?_
    obtain ⟨hget, _, hdue, _⟩ := mem_getExpiredPoints.mp hp
    by_contra hpos
    obtain ⟨hL, hD⟩ := h.live hget (not_le.mp hpos)
    exact hD (List.mem_map_of_mem (hcomplete p hL hdue (not_le.mp hpos)))
  rw [expirePoints_ledger, hidle]

/-- A run in which no row fails raises nothing. -/
theorem once (now : Time) (L : Ledger) :
    ∃ n, (expirePoints L now fun _ => false).1 = .ok n := by
  have hlist := ((refl now L).loop (fun _ => false) (getExpiredPoints_nodup L now)
    fun _ => getExpiredPoints_read).2
  unfold expirePoints
  dsimp only
  rw [if_neg]
  · exact ⟨_, rfl⟩
  · rw [hlist]
    simp

end Expired

/-! ## Beside other transactions -/

/-- The ledger, and what each run of the batch has read and not visited yet. -/
structure BatchState where
  ledger : Ledger
  pending : Nat → List (Nat × PointHistory)

/-- The transactions.  `visit` is `_expire_one` on the next row of a run. -/
inductive BatchEvent where
  | read (run : Nat)
  | visit (run : Nat) (fails : Bool)
  | use (user : UserId) (amount : Int) (type : PointType) (order : Option OrderId)
      (returnId : Option Nat)
  | refund (user : UserId) (amount : Int) (order : OrderId) (type : PointType)
      (returnId : Option Nat)

/-- One transaction, at the clock reading `e.1`. -/
def batchStep (s : BatchState) (e : Time × BatchEvent) : Option BatchState :=
  match e.2 with
  | .read run =>
    some { s with pending := Function.update s.pending run (getExpiredPoints s.ledger e.1) }
  | .visit run fails =>
    match s.pending run with
    | [] => none
    | (k, seen) :: rest =>
      let ledger :=
        match (if fails then .error .integrityError else expireOne s.ledger e.1 k seen) with
        | .error _ => s.ledger
        | .ok out => out.2
      some { ledger := ledger, pending := Function.update s.pending run rest }
  | .use user amount type order returnId =>
    some { s with ledger := (usePointsFifo s.ledger e.1 user amount type order returnId).2 }
  | .refund user amount order type returnId =>
    some { s with ledger := (refundUsedPoints s.ledger e.1 user amount order type returnId).2 }

/-- What the batch expired in a step: the earn row, the points of the expire
row, and what the earn row had left. -/
def expiries (s t : BatchState) : List (Nat × Int × Int) :=
  (t.ledger.histories.rows.drop s.ledger.histories.rows.length).filterMap fun p =>
    p.2.metadata.originalHistoryId.map fun k =>
      (k, p.2.points, (s.ledger.histories.get? k).elim 0 PointHistory.remainingPoints)

/-- The earn row is flagged. -/
def Flagged (L : Ledger) (k : Nat) : Prop :=
  ∃ r, L.histories.get? k = some r ∧ r.metadata.expired = true

/-- The rows are updated in what the batch does not look at, and no row of the
batch is added. -/
def Spares (L L' : Ledger) : Prop :=
  ∃ f added, KeepsRow f ∧
    L'.histories.rows = (L.histories.rows.map fun p => (p.1, f p.1 p.2)) ++ added ∧
    ∀ p ∈ added, p.2.metadata.originalHistoryId = none

namespace Spares

variable {L L' : Ledger}

theorem touch (L : Ledger) {f : Nat → PointHistory → PointHistory} (hf : KeepsRow f) :
    Spares L (L.touch f) := by
  refine ⟨f, [], hf, ?_, fun p hp => absurd hp List.not_mem_nil⟩
  rw [List.append_nil, Table.mapRows_rows]

theorem refl (L : Ledger) : Spares L L := by
  refine ⟨fun _ r => r, [], ⟨⟨?_, ?_, ?_, ?_, ?_, ?_, ?_, ?_⟩, ?_, ?_⟩, by simp,
    fun p hp => absurd hp List.not_mem_nil⟩
  all_goals exact fun _ _ => rfl

theorem setPoints (h : Spares L L') (user : UserId) (points : Int) :
    Spares L (L'.setPoints user points) := h

theorem createHistory (h : Spares L L') (now : Time) (user : UserId) (points : Int)
    (type : PointType) (order : Option OrderId) {m : Metadata} (hm : m.originalHistoryId = none) :
    Spares L (L'.createHistory now user points type order m) := by
  obtain ⟨f, added, hf, hrows, hadded⟩ := h
  refine ⟨f, added ++ [(L'.histories.next,
    PointHistory.create now user points (L'.points user) type order m)], hf, ?_, fun p hp => ?_⟩
  · unfold Ledger.createHistory
    rw [Table.insert_rows, hrows, List.append_assoc]
  · rcases List.mem_append.mp hp with hp | hp
    · exact hadded p hp
    · rw [List.mem_singleton.mp hp]
      exact hm

theorem use (L : Ledger) (now : Time) (user : UserId) (amount : Int) (type : PointType)
    (order : Option OrderId) (returnId : Option Nat) :
    Spares L (usePointsFifo L now user amount type order returnId).2 := by
  have htouch := touch L (keepsRow_usedBy now (consumed L now user amount type))
  rcases usePointsFifo_cases L now user amount type order returnId with
    ⟨_, _, hL⟩ | ⟨_, _, _, hL⟩ | ⟨_, _, _, _, hL⟩
  · rw [hL]
    exact refl L
  · rw [hL]
    exact htouch
  · rw [hL]
    exact (htouch.setPoints user _).createHistory now user (-amount) type order (by rfl)

theorem refund (L : Ledger) (now : Time) (user : UserId) (amount : Int) (order : OrderId)
    (type : PointType) (returnId : Option Nat) :
    Spares L (refundUsedPoints L now user amount order type returnId).2 := by
  have htouch := touch L (keepsRow_restoredBy now order (restored L order amount))
  unfold refundUsedPoints
  split
  · exact refl L
  · rw [restoreLoop_earnRows]
    dsimp only
    split
    · refine Spares.createHistory (Spares.setPoints ?_ user _) now user _ .expire (some order)
        (by rfl)
      exact (htouch.setPoints user _).createHistory now user amount type (some order) (by rfl)
    · exact (htouch.setPoints user _).createHistory now user amount type (some order) (by rfl)

/-- Such a step expires nothing, and leaves the flags. -/
theorem expiries_eq {s t : BatchState} (h : Spares s.ledger t.ledger) :
    expiries s t = [] ∧ ∀ k, Flagged s.ledger k → Flagged t.ledger k := by
  obtain ⟨f, added, hf, hrows, hadded⟩ := h
  constructor
  · unfold expiries
    rw [hrows, List.drop_left' (by simp)]
    refine List.filterMap_eq_nil_iff.mpr fun p hp => ?_
    rw [hadded p hp]
    rfl
  · rintro k ⟨r, hr, hx⟩
    refine ⟨f k r, ?_, (hf.expired k r).trans hx⟩
    rw [Table.get?_eq_some, hrows]
    exact List.mem_append_left _ (List.mem_map.mpr ⟨(k, r), Table.get?_eq_some.mp hr, rfl⟩)

end Spares

/-- A step expires at most one row, which was not flagged and is then, for
what it had left; and every flag stays. -/
theorem batchStep_expiries {s t : BatchState} {e : Time × BatchEvent}
    (h : batchStep s e = some t) :
    (expiries s t = [] ∨ ∃ k x, expiries s t = [(k, -x, x)] ∧ ¬ Flagged s.ledger k ∧
      Flagged t.ledger k) ∧ ∀ k, Flagged s.ledger k → Flagged t.ledger k := by
  obtain ⟨now, ev⟩ := e
  cases ev with
  | read run =>
    cases h
    obtain ⟨hnone, hflags⟩ := Spares.expiries_eq (s := s) (t := { s with pending := _ })
      (Spares.refl s.ledger)
    exact ⟨Or.inl hnone, hflags⟩
  | use user amount type order returnId =>
    cases h
    obtain ⟨hnone, hflags⟩ := Spares.expiries_eq (s := s) (t := { s with ledger := _ })
      (Spares.use s.ledger now user amount type order returnId)
    exact ⟨Or.inl hnone, hflags⟩
  | refund user amount order type returnId =>
    cases h
    obtain ⟨hnone, hflags⟩ := Spares.expiries_eq (s := s) (t := { s with ledger := _ })
      (Spares.refund s.ledger now user amount order type returnId)
    exact ⟨Or.inl hnone, hflags⟩
  | visit run fails =>
    simp only [batchStep] at h
    cases hpending : s.pending run with
    | nil =>
      rw [hpending] at h
      cases h
    | cons q rest =>
      obtain ⟨k, seen⟩ := q
      rw [hpending, Option.some.injEq] at h
      -- The transaction fails, or commits one of two ledgers.
      have hledger : t.ledger = s.ledger ∨ ∃ current, s.ledger.histories.get? k = some current ∧
          0 < current.remainingPoints ∧
          t.ledger = s.ledger.expire now k seen.user current.remainingPoints := by
        rw [← h]
        cases fails with
        | true => exact Or.inl rfl
        | false =>
          cases hexp : expireOne s.ledger now k seen with
          | error err => exact Or.inl rfl
          | ok out => exact expireOne_cases hexp
      rcases hledger with hsame | ⟨current, hget, hpos, hL⟩
      · obtain ⟨hnone, hflags⟩ := Spares.expiries_eq (s := s) (t := t)
          (hsame ▸ Spares.refl s.ledger)
        exact ⟨Or.inl hnone, hflags⟩
      · obtain ⟨balance, hrows⟩ := s.ledger.expire_rows now hget seen.user current.remainingPoints
        rw [← hL] at hrows
        have hrow : ∀ j r, s.ledger.histories.get? j = some r →
            t.ledger.histories.get? j = some (if j = k then
              PointHistory.recordExpiry now current.remainingPoints r else r) := by
          intro j r hr
          rw [Table.get?_eq_some, hrows]
          exact List.mem_append_left _ (List.mem_map.mpr ⟨(j, r), Table.get?_eq_some.mp hr, rfl⟩)
        refine ⟨Or.inr ⟨k, current.remainingPoints, ?_, ?_, _, hrow k current hget, ?_⟩, ?_⟩
        · unfold expiries
          rw [hrows, List.drop_left' (by simp), List.filterMap_cons]
          simp [batchRow, PointHistory.create, hget]
        · rintro ⟨r, hr, hx⟩
          rw [hget] at hr
          cases hr
          rw [(PointHistory.live_of_remainingPoints_pos hpos).2.1] at hx
          cases hx
        · rw [if_pos rfl]
          rfl
        · rintro j ⟨r, hr, hx⟩
          refine ⟨_, hrow j r hr, ?_⟩
          split
          · rfl
          · exact hx

/-- Along a run every row is expired at most once, each time for what it had
left. -/
theorem expiries_run {s t : BatchState} {es : List (Time × BatchEvent)}
    (h : Run batchStep (fun _ _ => True) s es t) :
    (gather batchStep (fun s t => (expiries s t).map Prod.fst) s es).Nodup ∧
      ∀ e ∈ gather batchStep expiries s es, e.2.1 = -e.2.2 := by
  constructor
  · refine h.gather_nodup (fun _ => True) (fun s k => Flagged s.ledger k) trivial ?_
    intro t e u _ _ hstep
    obtain ⟨hone, hflags⟩ := batchStep_expiries hstep
    refine ⟨trivial, ?_, ?_, hflags⟩
    · rcases hone with hnone | ⟨k, x, hone, _⟩
      · rw [hnone]
        exact List.nodup_nil
      · rw [hone]
        exact List.nodup_singleton k
    · intro k hk
      rcases hone with hnone | ⟨j, x, hone, hbefore, hafter⟩
      · rw [hnone] at hk
        cases hk
      · rw [hone, List.map_singleton, List.mem_singleton] at hk
        rw [hk]
        exact ⟨hbefore, hafter⟩
  · refine h.gather_all fun t e u _ hstep x hx => ?_
    rcases (batchStep_expiries hstep).1 with hnone | ⟨k, y, hone, _⟩
    · rw [hnone] at hx
      cases hx
    · rw [hone, List.mem_singleton] at hx
      rw [hx]

/-! ## The batch converges -/

/-- Runs of the batch until one raises nothing leave what a single run without
failures leaves: the balances, the earn rows with their flags, and the expire
rows but for the running balance that each copied.  An extra run changes
nothing.  Beside uses, refunds and other runs, an earn row is expired by at
most one batch, for what it had left at that time. -/
theorem expiry_converges (L : Ledger) (now : Time) :
    (∃ n, (expirePoints L now fun _ => false).1 = .ok n) ∧
    (∀ (runs : List (Nat → Bool)) (fails : Nat → Bool) (n : Nat),
      (expirePoints (retried L now runs) now fails).1 = .ok n →
      let last := (expirePoints (retried L now runs) now fails).2
      let once := (expirePoints L now fun _ => false).2
      (∀ u, last.points u = once.points u) ∧
      (∀ k r, L.histories.get? k = some r → last.histories.get? k = once.histories.get? k) ∧
      (expireRows last).Perm (expireRows once) ∧
      ∀ more, (expirePoints last now more).2 = last) ∧
    ∀ (s t : BatchState) (es : List (Time × BatchEvent)),
      Run batchStep (fun _ _ => True) s es t →
      (gather batchStep (fun s t => (expiries s t).map Prod.fst) s es).Nodup ∧
      ∀ e ∈ gather batchStep expiries s es, e.2.1 = -e.2.2 := by
  refine ⟨Expired.once now L, fun runs fails n hok => ?_, fun s t es h => expiries_run h⟩
  obtain ⟨D, hD⟩ := (Expired.refl now L).runs runs
  obtain ⟨D₁, h₁, _, hall₁⟩ := hD.batch fails
  obtain ⟨D₂, h₂, _, hall₂⟩ := (Expired.refl now L).batch fun _ => false
  obtain ⟨m, hm⟩ := Expired.once now L
  have hc₁ := hall₁ n hok
  have hc₂ := hall₂ m hm
  obtain ⟨hpoints, hrows, hexpire⟩ := h₁.same h₂ (Expired.Complete.perm h₁ h₂ hc₁ hc₂)
  exact ⟨hpoints, hrows, hexpire, h₁.extra hc₁⟩

/-- Two earnings of one user, 100 and 200, that are due together. -/
def twoDue : Ledger :=
  [(0, 100), (5, 200)].foldl (fun L e =>
    match addPoints L e.1 7 e.2 with
    | .ok out => out.2
    | .error _ => L) Ledger.empty

/-- The row of the first earning fails, and the second run raises nothing. -/
theorem expiry_converges_twoDue :
    (expirePoints (retried twoDue (earnLifetime + 10) [fun k => decide (k = 1)])
      (earnLifetime + 10) fun _ => false).2.points 7
      = (expirePoints twoDue (earnLifetime + 10) fun _ => false).2.points 7 := by
  have h := (expiry_converges twoDue (earnLifetime + 10)).2.1 [fun k => decide (k = 1)]
    (fun _ => false) 1 (by decide)
  exact h.1 7

/-- The rows are expired in another order, so they copied other balances. -/
theorem expiry_balances_differ :
    ¬ (((expirePoints (retried twoDue (earnLifetime + 10) [fun k => decide (k = 1)])
        (earnLifetime + 10) fun _ => false).2.histories.select
          fun _ r => decide (r.type = .expire)).map Prod.snd).Perm
      (((expirePoints twoDue (earnLifetime + 10) fun _ => false).2.histories.select
          fun _ r => decide (r.type = .expire)).map Prod.snd) := by
  intro h
  have hbalances := h.map PointHistory.balance
  have hlast : (((expirePoints (retried twoDue (earnLifetime + 10) [fun k => decide (k = 1)])
      (earnLifetime + 10) fun _ => false).2.histories.select
        fun _ r => decide (r.type = .expire)).map Prod.snd).map PointHistory.balance
      = [100, 0] := by decide
  have honce : (((expirePoints twoDue (earnLifetime + 10) fun _ => false).2.histories.select
      fun _ r => decide (r.type = .expire)).map Prod.snd).map PointHistory.balance
      = [200, 0] := by decide
  rw [hlast, honce] at hbalances
  exact absurd hbalances (by decide)

end Shopping
