import Mathlib.Algebra.BigOperators.Group.Finset.Piecewise
import Shopping.Points.Reclaims
import Shopping.Points.Runs

/-!
# What a user has, beside what is due

`Ledger.earnRow` is the ledger as one user sees it: the user's earn rows, each
under its id.  `Stands` compares two ledgers in this view.  The second came
from the first by expiries and by operations on other users: the account holds
as much beyond its rows as before (`slack`), and each earn row is the same or
was expired on its date.

The expiry batch and the operations on other users stand (`Stands.of_step`);
what a batch leaves is determined by the slack and by the rows that are not due
(`expirePoints_leaves`).
-/

namespace Shopping

open PointService

/-! ## Sums over a table by key -/

theorem Table.sum_range {α : Type} (t : Table α) (f : Nat → Nat → α → Int) (n : Nat) :
    (t.sum fun j a => ∑ k ∈ Finset.range n, f k j a) = ∑ k ∈ Finset.range n, t.sum (f k) := by
  induction n with
  | zero => simp
  | succ n ih =>
    simp only [Finset.sum_range_succ]
    rw [Table.sum_add, ih]

/-- A sum over the rows is a sum over the keys. -/
theorem Table.sum_eq_range {α : Type} (t : Table α) (f : α → Int) {n : Nat} (hn : t.next ≤ n) :
    (t.sum fun _ a => f a) = ∑ k ∈ Finset.range n, (t.get? k).elim 0 f := by
  have hkey : ∀ k, (t.get? k).elim 0 f = t.sum fun j a => if j = k then f a else 0 := by
    intro k
    cases hk : t.get? k with
    | some a => exact (Table.sum_single hk f).symm
    | none =>
      refine ((Table.sum_congr fun j a hj => ?_).trans (Table.sum_zero t)).symm
      rw [if_neg]
      intro hc
      rw [hc, hk] at hj
      cases hj
  simp only [hkey]
  rw [← Table.sum_range]
  refine Table.sum_congr fun j a hj => ?_
  have hlt : j ∈ Finset.range n := Finset.mem_range.mpr (lt_of_lt_of_le (Table.lt_next hj) hn)
  rw [Finset.sum_ite_eq (Finset.range n) j fun _ => f a, if_pos hlt]

/-! ## The earn rows of a user -/

namespace Ledger

/-- The row `k`, when it is an earn row of the user. -/
def earnRow (L : Ledger) (u : UserId) (k : Nat) : Option PointHistory :=
  (L.histories.get? k).filter fun r => decide (r.user = u) && decide (r.type = .earn)

/-- What the earn row `k` of the user has left. -/
def leftOf (L : Ledger) (u : UserId) (k : Nat) : Int :=
  (L.earnRow u k).elim 0 PointHistory.remainingPoints

/-- The same, of a row that is not due at `T`. -/
def lateLeft (L : Ledger) (u : UserId) (T : Time) (k : Nat) : Int :=
  (L.earnRow u k).elim 0 fun r => if T < r.expiry then r.remainingPoints else 0

/-- What the account of the user holds beyond what its rows have left. -/
def slack (L : Ledger) (u : UserId) : Int := L.points u - L.remainingSum u

variable {L L' : Ledger} {u : UserId} {k : Nat} {r : PointHistory}

theorem earnRow_eq_some :
    L.earnRow u k = some r ↔ L.histories.get? k = some r ∧ r.user = u ∧ r.type = .earn := by
  unfold earnRow
  rw [Option.filter_eq_some_iff, Bool.and_eq_true, decide_eq_true_eq, decide_eq_true_eq]

theorem remainingSum_eq_range (L : Ledger) (u : UserId) {n : Nat} (hn : L.histories.next ≤ n) :
    L.remainingSum u = ∑ k ∈ Finset.range n, L.leftOf u k := by
  have hrow : ∀ k, L.leftOf u k
      = (L.histories.get? k).elim 0 fun r => if r.user = u then r.remainingPoints else 0 := by
    intro k
    unfold leftOf earnRow
    cases hk : L.histories.get? k with
    | none => rfl
    | some r =>
      by_cases hu : r.user = u
      · by_cases ht : r.type = .earn
        · simp [Option.filter_some, hu, ht]
        · simp [Option.filter_some, ht, PointHistory.remainingPoints_of_ne ht]
      · simp [Option.filter_some, hu]
  simp only [hrow]
  exact Table.sum_eq_range _ _ hn

/-- The same rows have the same left. -/
theorem remainingSum_congr (h : ∀ k, L'.leftOf u k = L.leftOf u k) :
    L'.remainingSum u = L.remainingSum u := by
  rw [L'.remainingSum_eq_range u (Nat.le_max_left _ L.histories.next),
    L.remainingSum_eq_range u (Nat.le_max_right L'.histories.next _)]
  exact Finset.sum_congr rfl fun k _ => h k

/-- A new row that is no earn row of the user. -/
theorem earnRow_createHistory {type : PointType} {v : UserId} (h : type ≠ .earn ∨ v ≠ u)
    (L : Ledger) (now : Time) (p : Int) (order : Option OrderId) (m : Metadata) (k : Nat) :
    (L.createHistory now v p type order m).earnRow u k = L.earnRow u k := by
  unfold earnRow createHistory
  dsimp only
  rw [Table.get?_insert]
  split
  · rename_i hk
    rw [hk, Table.get?_next]
    refine Option.filter_eq_none_iff.mpr fun r hr hrow => ?_
    cases hr
    rw [Bool.and_eq_true] at hrow
    rcases h with h | h
    · exact h (of_decide_eq_true hrow.2)
    · exact h (of_decide_eq_true hrow.1)
  · rfl

/-- What a new row records of the use of `k`. -/
theorem outstanding_createHistory (L : Ledger) (now : Time) (v : UserId) (p : Int)
    (type : PointType) (order : Option OrderId) (m : Metadata) (o : OrderId) (k : Nat) :
    outstanding (L.createHistory now v p type order m) o k = outstanding L o k
      + recordedUse o k (PointHistory.create now v p (L.points v) type order m) := by
  unfold outstanding createHistory
  rw [Table.sum_insert]
  rfl

end Ledger

/-- The user's earn rows after an operation that updated the rows by `f`. -/
theorem Touches.earnRow {f : Nat → PointHistory → PointHistory} {L L' : Ledger}
    (h : Touches f L L') (hf : KeepsEntry f) (u : UserId) (k : Nat) :
    L'.earnRow u k = (L.earnRow u k).map (f k) := by
  unfold Ledger.earnRow
  cases hk : L.histories.get? k with
  | some r =>
    rw [h.get? hk, Option.filter_some, Option.filter_some, hf.user, hf.type]
    split
    · rfl
    · rfl
  | none =>
    refine Option.filter_eq_none_iff.mpr fun r hr hrow => ?_
    simp only [Bool.and_eq_true, decide_eq_true_eq] at hrow
    exact h.new_row hk hr hrow.2

/-! ## Two ledgers of one user -/

/-- The row is the same, or its date came and nothing is left of it. -/
def PointHistory.ExpiredBy (now : Time) (r r' : PointHistory) : Prop :=
  r' = r ∨ (r.expiry ≤ now ∧ r'.expiry = r.expiry ∧ r'.remainingPoints = 0)

/-- The user stands in the second ledger as in the first, but for what
expired. -/
structure Stands (owner : OrderId → UserId) (u : UserId) (now : Time) (L L' : Ledger) : Prop where
  slack : L'.slack u = L.slack u
  rows : ∀ k, Option.Rel (PointHistory.ExpiredBy now) (L.earnRow u k) (L'.earnRow u k)
  out : ∀ o, owner o = u → ∀ k, outstanding L' o k = outstanding L o k

theorem PointHistory.ExpiredBy.trans {now now' : Time} {r r' r'' : PointHistory}
    (h : r.ExpiredBy now r') (h' : r'.ExpiredBy now' r'') (hle : now ≤ now') :
    r.ExpiredBy now' r'' := by
  rcases h with rfl | ⟨hdue, hexpiry, hleft⟩
  · exact h'
  · rcases h' with rfl | ⟨_, hexpiry', hleft'⟩
    · exact Or.inr ⟨le_trans hdue hle, hexpiry, hleft⟩
    · exact Or.inr ⟨le_trans hdue hle, hexpiry'.trans hexpiry, hleft'⟩

namespace Stands

variable {owner : OrderId → UserId} {u v : UserId} {now now' : Time} {L L' L'' : Ledger}

/-- Nothing of the user changed. -/
theorem of_rows (hpoints : L'.points u = L.points u) (hrows : ∀ k, L'.earnRow u k = L.earnRow u k)
    (hout : ∀ o, owner o = u → ∀ k, outstanding L' o k = outstanding L o k) :
    Stands owner u now L L' := by
  refine ⟨?_, fun k => ?_, hout⟩
  · have hleft : ∀ k, L'.leftOf u k = L.leftOf u k := by
      intro k
      unfold Ledger.leftOf
      rw [hrows]
    unfold Ledger.slack
    rw [hpoints, Ledger.remainingSum_congr hleft]
  · rw [hrows]
    cases L.earnRow u k with
    | none => exact .none
    | some r => exact .some (Or.inl rfl)

theorem refl (owner : OrderId → UserId) (u : UserId) (now : Time) (L : Ledger) :
    Stands owner u now L L := of_rows rfl (fun _ => rfl) fun _ _ _ => rfl

theorem trans (h : Stands owner u now L L') (h' : Stands owner u now' L' L'') (hle : now ≤ now') :
    Stands owner u now' L L'' := by
  refine ⟨h'.slack.trans h.slack, fun k => ?_, fun o ho k => (h'.out o ho k).trans (h.out o ho k)⟩
  have hrow := h.rows k
  have hrow' := h'.rows k
  generalize L.earnRow u k = a at hrow ⊢
  generalize L'.earnRow u k = b at hrow hrow'
  generalize L''.earnRow u k = c at hrow' ⊢
  cases hrow with
  | none =>
    cases hrow'
    exact .none
  | some hab =>
    cases hrow' with
    | some hbc => exact .some (hab.trans hbc hle)

/-- A row of the user that is not due is there, unchanged. -/
theorem lateLeft {T : Time} (h : Stands owner u now L L') (hT : now ≤ T) (k : Nat) :
    L'.lateLeft u T k = L.lateLeft u T k := by
  have hrow := h.rows k
  unfold Ledger.lateLeft
  generalize L.earnRow u k = a at hrow ⊢
  generalize L'.earnRow u k = b at hrow ⊢
  cases hrow with
  | none => rfl
  | some hab =>
    rcases hab with rfl | ⟨hdue, hexpiry, _⟩
    · rfl
    · simp only [Option.elim_some]
      have hnot : ¬ T < _ := not_lt.mpr (le_trans hdue hT)
      rw [hexpiry, if_neg hnot, if_neg hnot]

/-! ### Operations on other users -/

theorem amountAt_other {ds : Details} {k : Nat} {r : PointHistory}
    (hds : ∀ d ∈ ds, ∃ r, L.histories.get? d.1 = some r ∧ r.user = v)
    (hr : L.histories.get? k = some r) (hne : r.user ≠ v) : amountAt k ds = 0 := by
  by_contra h0
  obtain ⟨d, hd, rfl⟩ := List.mem_map.mp (mem_keys_of_amountAt h0)
  obtain ⟨r', hr', hu⟩ := hds d hd
  rw [hr] at hr'
  cases hr'
  exact hne hu

/-- An operation that updated rows of another user only. -/
theorem earnRow_other {f : Nat → PointHistory → PointHistory} (h : Touches f L L')
    (hf : KeepsEntry f)
    (hsame : ∀ k r, L.histories.get? k = some r → r.user = u → f k r = r) (k : Nat) :
    L'.earnRow u k = L.earnRow u k := by
  rw [h.earnRow hf]
  cases hk : L.earnRow u k with
  | none => rfl
  | some r =>
    obtain ⟨hget, hu, _⟩ := Ledger.earnRow_eq_some.mp hk
    exact congrArg some (hsame k r hget hu)

theorem add (hne : v ≠ u) {amount : Int} {type : PointType} {order : Option OrderId}
    {returnId : Option Nat} {b : Bool}
    (hadd : addPoints L now v amount type order returnId = .ok (b, L')) :
    Stands owner u now L L' := by
  unfold addPoints at hadd
  split at hadd
  · cases hadd
    exact refl owner u now L
  · dsimp only at hadd
    split at hadd
    · cases hadd
    · cases hadd
      refine of_rows ?_ (fun k => ?_) fun o _ k => ?_
      · rw [Ledger.createHistory_points, Ledger.setPoints_points_of_ne L hne.symm]
      · exact Ledger.earnRow_createHistory (Or.inr hne) _ now amount order _ k
      · rw [Ledger.outstanding_createHistory]
        have hnone : ∀ b, recordedUse o k (PointHistory.create now v amount b type order
            { returnId := returnId }) = 0 := by
          intro b
          unfold recordedUse
          simp only [PointHistory.create, amountAt_nil, neg_zero, ite_self]
        rw [hnone, add_zero]
        rfl

/-- A row of another order records no use of this one. -/
theorem recordedUse_other {order : Option OrderId} (hne : v ≠ u)
    (howner : ∀ o, order = some o → owner o = v) {o : OrderId} (ho : owner o = u) (k : Nat)
    (p b : Int) (type : PointType) (m : Metadata) :
    recordedUse o k (PointHistory.create now v p b type order m) = 0 := by
  refine recordedUse_eq_zero fun hc => ?_
  exact absurd ((howner o hc).symm.trans ho) hne

theorem use (hne : v ≠ u) (amount : Int) (type : PointType) {order : Option OrderId}
    (howner : ∀ o, order = some o → owner o = v) (returnId : Option Nat) :
    Stands owner u now L (usePointsFifo L now v amount type order returnId).2 := by
  have hsame : ∀ k r, L.histories.get? k = some r → r.user = u →
      PointHistory.usedBy now (consumed L now v amount type) k r = r := by
    intro k r hr hu
    have hnone : amountAt k (consumed L now v amount type) = 0 :=
      amountAt_other (fun _ hd => consumed_user hd) hr (hu ▸ hne.symm)
    unfold PointHistory.usedBy
    rw [if_neg (by omega)]
  have hkeeps := keepsEntry_usedBy now (consumed L now v amount type)
  have htouch := Touches.touch L (PointHistory.usedBy now (consumed L now v amount type))
  rcases usePointsFifo_cases L now v amount type order returnId with
    ⟨_, _, hL⟩ | ⟨_, _, _, hL⟩ | ⟨_, _, _, _, hL⟩
  · rw [hL]
    exact refl owner u now L
  · rw [hL]
    exact of_rows rfl (earnRow_other htouch hkeeps hsame) fun o _ k =>
      touch_outstanding hkeeps o k
  · rw [hL]
    refine of_rows ?_ (fun k => ?_) fun o ho k => ?_
    · rw [post_points, if_neg hne, add_zero]
    · unfold Ledger.post
      rw [Ledger.earnRow_createHistory (Or.inr hne)]
      exact earnRow_other htouch hkeeps hsame k
    · unfold Ledger.post
      rw [Ledger.outstanding_createHistory, recordedUse_other hne howner ho, add_zero]
      exact touch_outstanding hkeeps o k

theorem refund (hcovered : Covered owner L) {order : OrderId} (hne : owner order ≠ u) (amount : Int)
    {type : PointType} (htype : type.isUsedPointsRefund = true) (returnId : Option Nat)
    (h0 : 0 ≤ L.points (owner order)) :
    Stands owner u now L (refundUsedPoints L now (owner order) amount order type returnId).2 := by
  have hearn : type ≠ .earn := by
    intro hc
    rw [hc] at htype
    cases htype
  by_cases hpos : 0 < amount
  · have hsame : ∀ k r, L.histories.get? k = some r → r.user = u →
        PointHistory.restoredBy now order (restored L order amount) k r = r := by
      intro k r hr hu
      have hnone : amountAt k (restored L order amount) = 0 :=
        amountAt_other (fun _ hd => restored_user hcovered hd) hr (hu ▸ hne.symm)
      unfold PointHistory.restoredBy
      rw [if_neg (fun hc => by omega)]
    have hkeeps := keepsEntry_restoredBy now order (restored L order amount)
    refine of_rows ?_ (fun k => ?_) fun o ho k => ?_
    · rw [refundUsedPoints_points hpos h0, if_neg hne, add_zero]
    · exact earnRow_other (refundUsedPoints_touches hpos hearn returnId) hkeeps hsame k
    · have hother : ∀ o', some order = some o' → owner o' = owner order := by
        intro o' ho'
        cases ho'
        rfl
      unfold refundUsedPoints
      rw [if_neg (not_le.mpr hpos), restoreLoop_earnRows]
      dsimp only
      split
      · rw [Ledger.outstanding_createHistory, recordedUse_other hne hother ho, add_zero]
        show outstanding (Ledger.createHistory _ _ _ _ _ _ _) o k = _
        rw [Ledger.outstanding_createHistory, recordedUse_other hne hother ho, add_zero]
        exact touch_outstanding hkeeps o k
      · rw [Ledger.outstanding_createHistory, recordedUse_other hne hother ho, add_zero]
        exact touch_outstanding hkeeps o k
  · have hsame : (refundUsedPoints L now (owner order) amount order type returnId).2 = L := by
      unfold refundUsedPoints
      rw [if_pos (not_lt.mp hpos)]
    rw [hsame]
    exact refl owner u now L

/-! ### Expiries -/

/-- An expiry of a row that is due, or of another user. -/
theorem expireOne (h : Sound owner now L) {k : Nat} {seen : PointHistory} {b : Bool}
    (hseen : ∀ r, L.histories.get? k = some r → r.user = seen.user ∧ (r.user = u → r.expiry ≤ now))
    (hexp : PointService.expireOne L now k seen = .ok (b, L')) : Stands owner u now L L' := by
  rcases expireOne_cases hexp with rfl | ⟨r, hr, hpos, rfl⟩
  · exact refl owner u now L'
  · obtain ⟨huser, hdue⟩ := hseen r hr
    have hle := h.remaining_le_points hr
    have hne : PointType.expire ≠ .earn := by decide
    rw [← huser, Ledger.debit_eq_post hle]
    generalize ({ originalHistoryId := some k, expiredAmount := some r.remainingPoints } :
      Metadata) = m
    have hr' : (L.post now r.user (-r.remainingPoints) .expire none m).histories.get? k
        = some r := by
      rw [post_histories]
      exact Table.get?_insert_of_some hr _
    have hkeeps := keepsEntry_recordExpiry now r.remainingPoints k
    refine ⟨?_, fun j => ?_, fun o _ j => ?_⟩
    · unfold Ledger.slack
      rw [saveRow_recordExpiry_remainingSum hr', post_remainingSum _ _ _ _ _ _ _ hne,
        Ledger.saveRow_points, post_points]
      split
      · omega
      · omega
    · have hrow : ((L.post now r.user (-r.remainingPoints) .expire none m).saveRow k
          (PointHistory.recordExpiry now r.remainingPoints)).earnRow u j
            = (L.earnRow u j).map fun s =>
              if j = k then PointHistory.recordExpiry now r.remainingPoints s else s := by
        have htouch := Touches.touch (L.post now r.user (-r.remainingPoints) .expire none m)
          fun j s => if j = k then PointHistory.recordExpiry now r.remainingPoints s else s
        refine (htouch.earnRow hkeeps u j).trans ?_
        rw [Ledger.post, Ledger.earnRow_createHistory (Or.inl hne)]
        rfl
      rw [hrow]
      cases hj : L.earnRow u j with
      | none => exact .none
      | some s =>
        refine .some ?_
        dsimp only
        obtain ⟨hget, hu, _⟩ := Ledger.earnRow_eq_some.mp hj
        by_cases hjk : j = k
        · subst hjk
          rw [hr] at hget
          cases hget
          rw [if_pos rfl]
          exact Or.inr ⟨hdue hu, rfl, recordExpiry_remainingPoints _ _⟩
        · rw [if_neg hjk]
          exact Or.inl rfl
    · have hbefore : outstanding (L.post now r.user (-r.remainingPoints) .expire none m) o j
          = outstanding L o j := by
        rw [post_outstanding, recordedUse_eq_zero, add_zero]
        intro _
        exact ⟨fun hc => PointType.noConfusion hc, rfl⟩
      rw [← hbefore]
      exact touch_outstanding hkeeps o j

/-- The rows that a batch has still to visit are there, with their user and
their date. -/
theorem expireOne_row {j k : Nat} {seen : PointHistory} {b : Bool} {r : PointHistory}
    (hexp : PointService.expireOne L now k seen = .ok (b, L'))
    (hj : L.histories.get? j = some r) : ∃ r', L'.histories.get? j = some r' ∧
      (r' = r ∨ (j = k ∧ r'.remainingPoints = 0)) ∧ r'.user = r.user ∧ r'.expiry = r.expiry := by
  rcases expireOne_cases hexp with rfl | ⟨current, hcurrent, _, rfl⟩
  · exact ⟨r, hj, Or.inl rfl, rfl, rfl⟩
  · unfold Ledger.saveRow Ledger.createHistory
    dsimp only
    rw [Table.get?_modify, Table.get?_insert_of_some (by exact hj)]
    split
    · rename_i hjk
      exact ⟨_, rfl, Or.inr ⟨hjk, recordExpiry_remainingPoints _ _⟩, rfl, rfl⟩
    · exact ⟨r, rfl, Or.inl rfl, rfl, rfl⟩

/-- The batch, one row after the other. -/
theorem expireLoop (fails : Nat → Bool) {rows : List (Nat × PointHistory)} (h : Sound owner now L)
    (hrows : ∀ p ∈ rows, ∃ r, L.histories.get? p.1 = some r ∧ r.user = p.2.user ∧ r.expiry ≤ now) :
    Stands owner u now L (PointService.expireLoop now fails L rows).1 := by
  induction rows generalizing L with
  | nil => exact refl owner u now L
  | cons p rest ih =>
    obtain ⟨k, seen⟩ := p
    have hrest : ∀ q ∈ rest, ∃ r, L.histories.get? q.1 = some r ∧ r.user = q.2.user ∧
        r.expiry ≤ now := fun q hq => hrows q (List.mem_cons_of_mem _ hq)
    unfold PointService.expireLoop
    split
    · exact ih h hrest
    · rename_i done L' heq
      split at heq
      · cases heq
      · obtain ⟨r, hr, hu, hdue⟩ := hrows (k, seen) List.mem_cons_self
        have hseen : ∀ s, L.histories.get? k = some s →
            s.user = seen.user ∧ (s.user = u → s.expiry ≤ now) := by
          intro s hs
          rw [hr] at hs
          cases hs
          exact ⟨hu, fun _ => hdue⟩
        have hfirst : Stands owner u now L L' := expireOne h hseen heq
        refine hfirst.trans (ih (h.expireOne (fun s hs => (hseen s hs).1) heq) fun q hq => ?_)
          (le_refl now)
        obtain ⟨s, hs, hsu, hsdue⟩ := hrest q hq
        obtain ⟨s', hs', _, hsu', hsdue'⟩ := expireOne_row heq hs
        exact ⟨s', hs', hsu'.trans hsu, le_of_eq_of_le hsdue' hsdue⟩

end Stands

/-- The batch has each row as it is, and the row is due. -/
theorem getExpiredPoints_read {now : Time} {L : Ledger} {p : Nat × PointHistory}
    (hp : p ∈ getExpiredPoints L now) :
    L.histories.get? p.1 = some p.2 ∧ p.2.expiry ≤ now := by
  obtain ⟨hget, _, hdue, _⟩ := mem_getExpiredPoints.mp hp
  exact ⟨hget, hdue⟩

theorem getExpiredPoints_nodup (L : Ledger) (now : Time) :
    ((getExpiredPoints L now).map Prod.fst).Nodup :=
  Table.select_insertionSort_nodup _ _ _

theorem Stands.expirePoints {owner : OrderId → UserId} {u : UserId} {now : Time} {L : Ledger}
    (h : Sound owner now L) (fails : Nat → Bool) :
    Stands owner u now L (expirePoints L now fails).2 := by
  rw [expirePoints_ledger]
  refine Stands.expireLoop fails h fun p hp => ?_
  obtain ⟨hget, hdue⟩ := getExpiredPoints_read hp
  exact ⟨p.2, hget, rfl, hdue⟩

/-! ## What a batch leaves -/

/-- Every row that the batch visits has nothing left, the others are as
before. -/
theorem expireLoop_leaves {now : Time} {L : Ledger} {rows : List (Nat × PointHistory)}
    (hnodup : (rows.map Prod.fst).Nodup)
    (hrows : ∀ p ∈ rows, L.histories.get? p.1 = some p.2) {k : Nat} {r : PointHistory}
    (hr : L.histories.get? k = some r) :
    ∃ r', (expireLoop now (fun _ => false) L rows).1.histories.get? k = some r' ∧
      (r' = r ∨ r'.remainingPoints = 0) ∧ (k ∈ rows.map Prod.fst → r'.remainingPoints = 0) := by
  induction rows generalizing L r with
  | nil => exact ⟨r, hr, Or.inl rfl, nofun⟩
  | cons p rest ih =>
    obtain ⟨j, seen⟩ := p
    have hseen : L.histories.get? j = some seen := hrows (j, seen) List.mem_cons_self
    rw [List.map_cons, List.nodup_cons] at hnodup
    obtain ⟨b, L', hexp, hzero⟩ : ∃ b L', PointService.expireOne L now j seen = .ok (b, L') ∧
        ∀ s, L'.histories.get? j = some s → s.remainingPoints = 0 := by
      unfold PointService.expireOne
      by_cases h0 : seen.remainingPoints ≤ 0
      · rw [if_pos h0]
        refine ⟨false, L, rfl, fun s hs => ?_⟩
        rw [hseen] at hs
        cases hs
        exact le_antisymm h0 seen.remainingPoints_nonneg
      · rw [if_neg h0, hseen]
        have hlive := PointHistory.live_of_remainingPoints_pos (not_le.mp h0)
        dsimp only
        rw [hlive.2.1, if_neg Bool.false_ne_true, if_neg h0]
        refine ⟨true, _, rfl, fun s hs => ?_⟩
        unfold Ledger.saveRow Ledger.createHistory at hs
        dsimp only at hs
        rw [Table.get?_modify_self] at hs
        obtain ⟨s', _, rfl⟩ := Option.map_eq_some_iff.mp hs
        exact recordExpiry_remainingPoints _ _
    have hloop : (expireLoop now (fun _ => false) L ((j, seen) :: rest)).1
        = (expireLoop now (fun _ => false) L' rest).1 := by
      rw [expireLoop]
      simp only [Bool.false_eq_true, if_false, hexp]
    rw [hloop]
    obtain ⟨r₁, hr₁, hsame₁, _, _⟩ := Stands.expireOne_row hexp hr
    have hrest : ∀ q ∈ rest, L'.histories.get? q.1 = some q.2 := by
      intro q hq
      obtain ⟨s, hs, hsame, _, _⟩ := Stands.expireOne_row hexp (hrows q (List.mem_cons_of_mem _ hq))
      rcases hsame with rfl | ⟨hqj, _⟩
      · exact hs
      · have hmem : q.1 ∈ rest.map Prod.fst := List.mem_map_of_mem hq
        rw [hqj] at hmem
        exact absurd hmem hnodup.1
    obtain ⟨r', hr', hsame, hvisited⟩ := ih hnodup.2 hrest hr₁
    refine ⟨r', hr', ?_, fun hk => ?_⟩
    · rcases hsame with rfl | hsame
      · exact hsame₁.imp id fun h => h.2
      · exact Or.inr hsame
    · rw [List.map_cons, List.mem_cons] at hk
      rcases hk with rfl | hk
      · rcases hsame with rfl | hsame
        · exact hzero r' hr₁
        · exact hsame
      · exact hvisited hk

/-- After a batch that no row failed in, nothing is left that is due, and the
rest is decided by what stood before. -/
theorem expirePoints_leaves {owner : OrderId → UserId} {u : UserId} {T : Time} {L : Ledger}
    (h : Sound owner T L) :
    (∀ k, (expirePoints L T fun _ => false).2.leftOf u k = L.lateLeft u T k) ∧
      (expirePoints L T fun _ => false).2.slack u = L.slack u := by
  have hstands : Stands owner u T L (expirePoints L T fun _ => false).2 := .expirePoints h _
  refine ⟨fun k => ?_, hstands.slack⟩
  rw [← hstands.lateLeft (le_refl T) k]
  unfold Ledger.leftOf Ledger.lateLeft
  cases hk : (expirePoints L T fun _ => false).2.earnRow u k with
  | none => rfl
  | some r' =>
    simp only [Option.elim_some]
    by_cases hlate : T < r'.expiry
    · rw [if_pos hlate]
    · rw [if_neg hlate]
      -- The row was due before the batch: visited, or flagged already.
      have hrow := hstands.rows k
      rw [hk] at hrow
      generalize ha : L.earnRow u k = a at hrow
      cases hrow with
      | some hab =>
        rename_i r
        obtain ⟨hget, hu, ht⟩ := Ledger.earnRow_eq_some.mp ha
        have hdue : r.expiry ≤ T := by
          rcases hab with rfl | ⟨hdue, _, _⟩
          · exact not_lt.mp hlate
          · exact hdue
        have hloop := expirePoints_ledger L T fun _ => false
        obtain ⟨s, hs, hsame, hvisited⟩ := @expireLoop_leaves T L
          (getExpiredPoints L T) (getExpiredPoints_nodup L T)
          (fun p hp => (mem_getExpiredPoints.mp hp).1) k r hget
        have hs' := (Ledger.earnRow_eq_some.mp hk).1
        rw [hloop, hs] at hs'
        cases hs'
        by_cases hx : r.metadata.expired = true
        · rcases hsame with rfl | hzero
          · unfold PointHistory.remainingPoints
            rw [hx]
            simp
          · exact hzero
        · apply hvisited
          refine List.mem_map.mpr ⟨(k, r), mem_getExpiredPoints.mpr ⟨hget, ht, hdue, ?_⟩, rfl⟩
          rwa [Bool.not_eq_true] at hx

/-- Two users' accounts after the batch, from their slack and their later
rows. -/
theorem points_of_leftOf {u : UserId} {L L' : Ledger} (hslack : L'.slack u = L.slack u)
    (hleft : ∀ k, L'.leftOf u k = L.leftOf u k) : L'.points u = L.points u := by
  have hsum := Ledger.remainingSum_congr hleft
  unfold Ledger.slack at hslack
  omega

end Shopping
