import Shopping.Lib.Run
import Shopping.Points.Refunds

/-!
# Runs of the point operations

The invariant of the point ledger along every run.  `PointOp` are the calls
of `PointService` that write; a step takes one call at a clock reading that
does not go back.  A call that raises leaves the ledger as it was.

`Sound.apply` is the step lemma, and `pointRun_sound` the induction over the
run.  `pointLedger_run` reads the parts of the invariant back in the terms of
the source.
-/

namespace Shopping

open PointService

/-- The calls that write points. -/
inductive PointOp where
  | add (user : UserId) (amount : Int) (type : PointType) (order : Option OrderId)
      (returnId : Option Nat)
  | use (user : UserId) (amount : Int) (type : PointType) (order : Option OrderId)
      (returnId : Option Nat)
  | refund (order : OrderId) (amount : Int) (type : PointType) (returnId : Option Nat)
  /-- `_expire_one` on a row read earlier, when its metadata was `stale`. -/
  | expireOne (k : Nat) (stale : Metadata)
  /-- `expire_points`, with the rows whose transaction the database refuses. -/
  | expireAll (fails : Nat → Bool)

namespace PointOp

/-- The types each call is made with; an order is used by its own user. -/
def allowed (owner : OrderId → UserId) : PointOp → Bool
  | .add _ _ type _ _ => type.isPositive
  | .use user _ type order _ =>
    (decide (type = .use) || decide (type = .cancelDeduct)) &&
      order.all fun o => decide (owner o = user)
  | .refund _ _ type _ => type.isUsedPointsRefund
  | .expireOne _ _ => true
  | .expireAll _ => true

/-- The ledger that the call commits. -/
def apply (owner : OrderId → UserId) (now : Time) (L : Ledger) : PointOp → Ledger
  | .add user amount type order returnId =>
    match addPoints L now user amount type order returnId with
    | .ok out => out.2
    | .error _ => L
  | .use user amount type order returnId =>
    (usePointsFifo L now user amount type order returnId).2
  | .refund order amount type returnId =>
    (refundUsedPoints L now (owner order) amount order type returnId).2
  | .expireOne k stale =>
    match L.histories.get? k with
    | none => L
    | some r =>
      match PointService.expireOne L now k { r with metadata := stale } with
      | .ok out => out.2
      | .error _ => L
  | .expireAll fails => (expirePoints L now fails).2

end PointOp

/-- One call at the clock reading `e.1`. -/
def pointStep (owner : OrderId → UserId) (s : Time × Ledger) (e : Time × PointOp) :
    Option (Time × Ledger) :=
  if s.1 ≤ e.1 ∧ e.2.allowed owner = true then some (e.1, e.2.apply owner e.1 s.2) else none

variable {owner : OrderId → UserId} {now : Time} {L : Ledger}

/-- Every call keeps the invariant. -/
theorem Sound.apply (h : Sound owner now L) {op : PointOp} (hok : op.allowed owner = true) :
    Sound owner now (op.apply owner now L) := by
  cases op with
  | add user amount type order returnId =>
    simp only [PointOp.apply]
    cases hadd : PointService.addPoints L now user amount type order returnId with
    | error e => exact h
    | ok out => exact h.addPoints hok hadd
  | use user amount type order returnId =>
    unfold PointOp.allowed at hok
    simp only [Bool.and_eq_true, Bool.or_eq_true, decide_eq_true_eq, Option.all_eq_true] at hok
    exact h.usePointsFifo hok.1 (fun o ho => hok.2 o ho) returnId
  | refund order amount type returnId =>
    exact h.refundUsedPoints hok returnId
  | expireOne k stale =>
    simp only [PointOp.apply]
    cases hr : L.histories.get? k with
    | none => exact h
    | some r =>
      dsimp only
      cases hexp : PointService.expireOne L now k { r with metadata := stale } with
      | error e => exact h
      | ok out =>
        refine h.expireOne (fun s hs => ?_) hexp
        obtain rfl : r = s := Option.some.inj (hr.symm.trans hs)
        rfl
  | expireAll fails => exact h.expirePoints fails

/-- Every sequence of calls at one clock reading keeps the invariant. -/
theorem Sound.applyAll (h : Sound owner now L) (ops : List PointOp)
    (hok : ∀ op ∈ ops, op.allowed owner = true) :
    Sound owner now (ops.foldl (fun L op => op.apply owner now L) L) := by
  induction ops generalizing L with
  | nil => exact h
  | cons op ops ih =>
    rw [List.foldl_cons]
    have hfirst := h.apply (hok op List.mem_cons_self)
    exact ih hfirst fun op hop => hok op (List.mem_cons_of_mem _ hop)

/-- One step of the clock and the ledger. -/
theorem Sound.step {s s' : Time × Ledger} {e : Time × PointOp} (hs : Sound owner s.1 s.2)
    (hstep : pointStep owner s e = some s') : Sound owner s'.1 s'.2 := by
  unfold pointStep at hstep
  by_cases hc : s.1 ≤ e.1 ∧ e.2.allowed owner = true
  · rw [if_pos hc] at hstep
    cases hstep
    exact (hs.mono hc.1).apply hc.2
  · rw [if_neg hc] at hstep
    cases hstep

/-- The invariant holds after every run from a ledger that has it. -/
theorem Sound.run {s t : Time × Ledger} {es : List (Time × PointOp)} (hs : Sound owner s.1 s.2)
    (h : Run (pointStep owner) (fun _ _ => True) s es t) : Sound owner t.1 t.2 :=
  h.invariant (fun s => Sound owner s.1 s.2) hs fun _ _ _ hI _ hstep => hI.step hstep

/-- The invariant holds after every run from the empty ledger. -/
theorem pointRun_sound {t₀ : Time} {es : List (Time × PointOp)} {s : Time × Ledger}
    (h : Run (pointStep owner) (fun _ _ => True) (t₀, Ledger.empty) es s) :
    Sound owner s.1 s.2 := Sound.run (Sound.empty owner t₀) h

/-! ## What the invariant says -/

/-- After every run of point operations from the empty ledger: the cached
balance is the sum of the history and the balance of its newest row; the
balances run through the history and are never negative; the use that orders
can still be given back is within the use each earn row records, and that is
within its points; the earn rows have nothing left beyond the cached balance.
So the clamps of `remaining_points`, of `refund_used_points` and of the
expiry are the identity. -/
theorem pointLedger_run {t₀ : Time} {es : List (Time × PointOp)} {t : Time} {L : Ledger}
    (h : Run (pointStep owner) (fun _ _ => True) (t₀, Ledger.empty) es (t, L)) :
    (∀ u, L.points u = L.pointsSum u ∧ L.getUserBalance u = L.points u) ∧
    (∀ u, RunningBalance 0 (L.rowsOf u)) ∧
    (∀ k r, L.histories.get? k = some r → r.type = .earn → ∀ os : Finset OrderId,
      0 ≤ ∑ o ∈ os, outstanding L o k ∧
      ∑ o ∈ os, outstanding L o k ≤ r.metadata.usedAmount ∧
      r.metadata.usedAmount ≤ r.points) ∧
    (∀ u, L.remainingSum u ≤ L.points u) ∧
    (∀ k r, L.histories.get? k = some r → r.type = .earn → r.metadata.expired = false →
      r.remainingPoints = r.points - r.metadata.usedAmount) ∧
    (∀ k r, L.histories.get? k = some r → r.remainingPoints ≤ L.points r.user) ∧
    (∀ order amount k r, L.histories.get? k = some r → r.type = .earn →
      amountAt k (restored L order amount) ≤ r.metadata.usedAmount) ∧
    (∀ order amount now, 0 ≤ amount →
      L.dueAmount now (restored L order amount) ≤ L.points (owner order) + amount) := by
  have hs : Sound owner t L := pointRun_sound h
  refine ⟨fun u => ⟨hs.booked.points_eq u, hs.booked.getUserBalance_eq u⟩, hs.booked.running,
    fun k r hr ht os => ⟨?_, hs.covered.out_sum k r hr ht os, hs.covered.used_le k r hr ht⟩,
    hs.solvent, fun k r hr ht hx => hs.remaining_eq hr ht hx,
    fun k r hr => hs.remaining_le_points hr, fun order amount k r hr ht => ?_,
    fun order amount now hamount => ?_⟩
  · exact Finset.sum_nonneg fun o _ => hs.covered.out_nonneg o k
  · exact le_trans (restored_le hs.covered order amount k) (hs.covered.out_le hr ht order)
  · have hdue := dueAmount_le hamount L now order
    have hpts := hs.points_nonneg (owner order)
    omega

/-- A run in which points of an order are given back on the expiry date of
their row, and the batch then expires the rest. -/
def sampleOps : List (Time × PointOp) :=
  [(0, .add 7 1000 .earn none none), (5, .use 7 600 .use (some 3) none),
    (earnLifetime, .refund 3 250 .cancelRefund none),
    (earnLifetime + 1, .expireAll fun _ => false)]

theorem pointLedger_run_sample :
    ∃ t L, exec (pointStep fun _ => 7) (0, Ledger.empty) sampleOps = some (t, L) ∧
      L.getUserBalance 7 = L.points 7 ∧ RunningBalance 0 (L.rowsOf 7) ∧
      L.remainingSum 7 ≤ L.points 7 := by
  obtain ⟨⟨t, L⟩, hL⟩ : ∃ s, exec (pointStep fun _ => 7) (0, Ledger.empty) sampleOps = some s :=
    Option.isSome_iff_exists.mp (by decide)
  have h := pointLedger_run (Run.of_exec (fun _ _ => trivial) hL)
  exact ⟨t, L, hL, (h.1 7).2, h.2.1 7, h.2.2.2.1 7⟩

/-- The run takes the account to 0, with 350 points of the order not given
back. -/
example : (exec (pointStep fun _ => 7) (0, Ledger.empty) sampleOps).any (fun s =>
    decide (s.2.points 7 = 0) && decide (outstanding s.2 3 1 = 350)) = true := by decide

end Shopping
