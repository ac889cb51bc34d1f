import Shopping.Points.Statistics
import Shopping.System.ShopLedger

/-!
# The statistics in a run of the shop

Whatever the shop does between two moments, the ledger grows by postings dated
in between (`grows_of_run`).  So the statistics of an account agree with its
balance: `point_statistics_add_up`.
-/

namespace Shopping

open PointQueryService

section

variable {owner : OrderId → UserId} {now start t₀ t₁ t₂ : Time} {L L' : Ledger}
  {w₀ w₁ w₂ : World} {es es₁ es₂ : List (Time × Event)}

theorem Posts.grows (h : Posts owner now L L') : LedgerGrows now L L' := by
  obtain ⟨ops, hok, rfl⟩ := h
  clear hok
  induction ops generalizing L with
  | nil => exact .refl L
  | cons op rest ih => exact (op.grows owner now L).trans ih

/-- The owners are those at the end of the run, as in `ledger_of_run`. -/
theorem grows_of_run {s s' : Time × World}
    (h : Run World.clockedStep (fun _ e => start ≤ e.1) s es s')
    (howned : OwnedBy owner s'.2.db) :
    OwnedBy owner s.2.db ∧ LedgerGrows start s.2.db.ledger s'.2.db.ledger := by
  induction h with
  | nil => exact ⟨howned, .refl _⟩
  | @snoc es u e u' hrun hstart hstep ih =>
    unfold World.clockedStep at hstep
    split at hstep
    · cases hstep
      have hledger := World.run_ledgerStep u.2 e.1 e.2
      obtain ⟨hfirst, hgrows⟩ := ih (hledger.owned owner howned)
      exact ⟨hfirst, hgrows.trans ((hledger.posts owner howned).grows.mono hstart)⟩
    · cases hstep

/-- From an empty ledger: what an account earned and used, of all time and over the types, comes
to its balance, and the summary of the history says the same; and when the shop passed from before
the month into it in `w₁`, what it earned and used this month is what the balance moved since
`w₁`. -/
theorem point_statistics_add_up (hreturns : ReturnsOwned w₀.db)
    (hempty : w₀.db.ledger = Ledger.empty)
    (hlast : Run World.clockedStep (fun _ _ => True) (t₀, w₀) es₁ (t₁, w₁))
    (hbefore : t₁ < thisMonthStart now)
    (hthis : Run World.clockedStep (fun _ e => thisMonthStart now ≤ e.1) (t₁, w₁) es₂ (t₂, w₂))
    (user : UserId) :
    let stats := getPointStatistics w₂.db.ledger now user
    getHistorySummary w₂.db.ledger user
        = ⟨stats.currentPoints, stats.allTime.earned, stats.allTime.used⟩ ∧
      stats.allTime.earned - stats.allTime.used = stats.currentPoints ∧
      (stats.byType.map TypeStatistics.total).sum = stats.currentPoints ∧
      (stats.byType.map TypeStatistics.count).sum = (w₂.db.ledger.rowsOf user).length ∧
      (stats.byType.map TypeStatistics.type).Nodup ∧
      stats.thisMonth.earned - stats.thisMonth.used
        = stats.currentPoints - w₁.db.ledger.points user := by
  intro stats
  have hrun := hlast.append (hthis.mono fun _ _ _ => trivial)
  have hsound₁ := sound_of_run hreturns hempty hlast
  have hsound₂ := sound_of_run hreturns hempty hrun
  have hcurrent : stats.currentPoints = w₂.db.ledger.pointsSum user :=
    hsound₂.booked.points_eq user
  obtain ⟨_, hgrows⟩ := grows_of_run hthis (hreturns.run hrun).ownedBy
  obtain ⟨htotal, hcount, hnodup⟩ := byType_total w₂.db.ledger now user
  refine ⟨rfl, (allTime_net w₂.db.ledger user).trans hcurrent.symm, htotal.trans hcurrent.symm,
    hcount, hnodup, ?_⟩
  have hmonth := monthStatistics_grows hgrows
    (fun k r hr => (hsound₁.booked.past k r hr).trans_lt hbefore) user
  rw [hcurrent, hsound₁.booked.points_eq user]
  exact hmonth

end

/-- 100 points were earned in December and reclaimed in January. -/
theorem point_statistics_add_up_january :
    let december := (World.shop .confirmed .inProgress).run 1735689000
      (.confirmSync 1 7 (.ok World.approval))
    let january := december.run 1736942000 (.cancelPayment 1 7 (.ok { status := some .canceled }))
    let stats := getPointStatistics january.db.ledger 1736942400 7
    december.db.ledger.points 7 = 100 ∧
      stats.thisMonth.earned - stats.thisMonth.used = stats.currentPoints - 100 := by
  intro december january stats
  have hreturns : ReturnsOwned (World.shop .confirmed .inProgress).db := by
    intro id r hr
    cases hr
  have hpoints : december.db.ledger.points 7 = 100 := by decide +kernel
  have hlast : Run World.clockedStep (fun _ _ => True) (0, World.shop .confirmed .inProgress)
      [(1735689000, .confirmSync 1 7 (.ok World.approval))] (1735689000, december) :=
    Run.nil.snoc trivial rfl
  have hthis : Run World.clockedStep (fun _ e => thisMonthStart 1736942400 ≤ e.1)
      (1735689000, december) [(1736942000, .cancelPayment 1 7 (.ok { status := some .canceled }))]
      (1736942000, january) := Run.nil.snoc (by decide +kernel) rfl
  have h := point_statistics_add_up hreturns rfl hlast (by decide +kernel) hthis 7
  rw [hpoints] at h
  exact ⟨hpoints, h.2.2.2.2.2⟩

end Shopping
