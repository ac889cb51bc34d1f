import Shopping.Charges.Refinement
import Shopping.Points.Runs
import Shopping.System.Accepted

/-!
# The cancel button and the cancel webhook

`cancel_payment` gives back the used points and then reclaims the earned ones;
`handle_payment_canceled` does the two the other way round.  They agree on the
statuses, the stock and the balance.  On what the earn rows have left they
agree when the reclaim is covered before it reaches a row that gets something
back (`CoveredBeforeBack`).
-/

namespace Shopping

open PointService

/-- The two databases agree on the statuses, the stock, the balances and what
the earn rows have left. -/
structure SameCancellation (db db' : Db) : Prop where
  orders : ∀ o, db.statusOf o = db'.statusOf o
  payments : ∀ k, (db.payments.get? k).map Payment.status = (db'.payments.get? k).map Payment.status
  products : db.products = db'.products
  points : ∀ u, db.ledger.points u = db'.ledger.points u
  remaining : ∀ k, db.ledger.remainingAt k = db'.ledger.remainingAt k

section

variable {db db' : Db} {now : Time} {k : Nat} {o : OrderId} {user : UserId} {order : Order}

/-- `Greatest(sold_count - q, 0)` and the two guarded updates are the same. -/
theorem addStockTakeSoldOrZero_eq : addStockTakeSoldOrZero = addStockTakeSold := by
  funext quantity p
  unfold addStockTakeSoldOrZero addStockTakeSold
  split
  · rename_i hle
    rw [max_eq_left (by omega)]
  · rename_i hlt
    rw [max_eq_right (by omega)]

theorem PaymentService.deductEarned_ledger
    (h : PaymentService.deductEarned db now k o user order = .ok db') :
    db'.ledger = reclaimIfEarned db.ledger now user order.earnedPoints o := by
  unfold PaymentService.deductEarned at h
  unfold reclaimIfEarned
  split at h
  · rename_i h0
    cases h
    rw [if_neg (not_lt.mpr h0)]
  · rename_i h0
    rw [if_pos (not_le.mp h0)]
    split at h
    · cases h
    · dsimp only at h
      split at h
      · cases h
      · cases h
        rfl

theorem TossWebhookService.settlePointsOnCanceled_ledger (hpaid : order.status = .paid) :
    (TossWebhookService.settlePointsOnCanceled db now k o order).ledger
      = refundIfUsed (reclaimIfEarned db.ledger now order.user order.earnedPoints o) now order.user
          order.usedPoints o none := by
  have hreclaim : (TossWebhookService.reclaimEarnedPoints db now o order k "주문 취소").2.ledger
      = (usePointsFifo db.ledger now order.user order.earnedPoints .cancelDeduct (some o)).2 := by
    unfold TossWebhookService.reclaimEarnedPoints
    dsimp only
    split
    · rfl
    · rfl
  unfold TossWebhookService.settlePointsOnCanceled refundIfUsed reclaimIfEarned
  dsimp only
  by_cases hused : 0 < order.usedPoints
  · rw [if_pos ⟨Or.inr (Or.inl hpaid), hused⟩, if_pos hused]
    by_cases hearned : 0 < order.earnedPoints
    · rw [if_pos ⟨Or.inl hpaid, hearned⟩, if_pos hearned, ← hreclaim]
      rfl
    · rw [if_neg fun hc => hearned hc.2, if_neg hearned]
      rfl
  · rw [if_neg fun hc => hused hc.2, if_neg hused]
    by_cases hearned : 0 < order.earnedPoints
    · rw [if_pos ⟨Or.inl hpaid, hearned⟩, if_pos hearned, hreclaim]
    · rw [if_neg fun hc => hearned hc.2, if_neg hearned]

/-- What both cancellations of a paid order leave behind. -/
structure CanceledAs (db : Db) (now : Time) (k : Nat) (o : OrderId) (order : Order)
    (ledger : Ledger) (db' : Db) : Prop where
  orders : db'.orders = db.orders.modify o (Order.withStatus .canceled now)
  payments : ∀ j, (db'.payments.get? j).map Payment.status
    = if j = k then some .canceled else (db.payments.get? j).map Payment.status
  products : db'.products = updateProducts db.products addStockTakeSold order.items
  ledger_eq : db'.ledger = ledger

theorem saved_statuses {row : Payment} {saved : Db} (hsaved : db.savePayment k row = .ok saved)
    (hrow : row.status = .canceled) (j : Nat) :
    (saved.payments.get? j).map Payment.status
      = if j = k then some .canceled else (db.payments.get? j).map Payment.status := by
  obtain ⟨hsave, _⟩ := savePayment_payments hsaved
  rw [PaymentTable.get?_save hsave]
  split
  · rw [Option.map_some, hrow]
  · rfl

theorem PaymentService.cancelPayment_canceledAs {payment : Payment}
    {toss : Except TossPaymentError TossPayment} {out : PaymentService.CancelResult}
    (hpayment : db.payments.get? k = some payment)
    (horder : db.orders.get? payment.order = some order) (hpaid : order.status = .paid)
    (h : PaymentService.cancelPayment db now k user toss = .ok (out, db')) :
    order.user = user ∧ CanceledAs db now k payment.order order
      (reclaimIfEarned (refundIfUsed db.ledger now user order.usedPoints payment.order none) now
        user order.earnedPoints payment.order) db' := by
  obtain ⟨p, x, data, row, hget, hx, _, _, hrow, howned, hcase⟩ := cancelPayment_ok h
  rw [hpayment] at hget
  cases hget
  rw [horder] at hx
  cases hx
  refine ⟨howned, ?_⟩
  cases hcase with
  | refundOnly hcanceled hsaved =>
    rw [hpaid] at hcanceled
    cases hcanceled
  | canceled hx hsaved hrefunded hdeducted =>
    rename_i saved refunded deducted
    obtain ⟨_, horders, hproducts, _, hledger⟩ := savePayment_payments hsaved
    have hmoves := deductEarned_ok hdeducted
    have htables : refunded.orders = saved.orders.modify payment.order
          (Order.withStatus .canceled now) ∧ refunded.payments = saved.payments ∧
        refunded.products = updateProducts saved.products addStockTakeSold order.items ∧
        refunded.ledger
          = refundIfUsed saved.ledger now user order.usedPoints payment.order none := by
      rw [hrefunded]
      unfold refundIfUsed
      dsimp only
      split
      · exact ⟨rfl, rfl, rfl, rfl⟩
      · exact ⟨rfl, rfl, rfl, rfl⟩
    obtain ⟨hro, hrpay, hrp, hrl⟩ := htables
    constructor
    · rw [Db.log_orders, hmoves.orders, hro, horders]
    · intro j
      rw [Db.log_payments, hmoves.payments, hrpay]
      exact saved_statuses hsaved (Payment.markAsCanceled_spec hrow).1 j
    · rw [Db.log_products, hmoves.products, hrp, hproducts]
    · rw [Db.log_ledger, deductEarned_ledger hdeducted, hrl, hledger]

theorem TossWebhookService.handlePaymentCanceled_canceledAs {payment : Payment}
    {event : TossPayment}
    (hevent : event.orderId.bind db.payments.ofTossOrderId? = some (k, payment))
    (horder : db.orders.get? payment.order = some order) (hpaid : order.status = .paid)
    (h : TossWebhookService.handlePaymentCanceled db now event = .ok (.canceled, db')) :
    CanceledAs db now k payment.order order
      (refundIfUsed (reclaimIfEarned db.ledger now order.user order.earnedPoints payment.order) now
        order.user order.usedPoints payment.order none) db' := by
  obtain ⟨id, j, p, x, row, hid, hof, _, _, hx, hrow, hcase⟩ :=
    (handlePaymentCanceled_cases h).resolve_left fun hc => hc.2 rfl
  rw [hid, Option.bind_some, hof] at hevent
  cases hevent
  rw [horder] at hx
  cases hx
  cases hcase with
  | canceled hx hsaved =>
    rename_i saved
    obtain ⟨_, horders, hproducts, _, hledger⟩ := savePayment_payments hsaved
    have hmoves := movesPoints_settleOnCanceled (restoreOnCanceled saved order) now k payment.order
      order
    have hrestore : restoreOnCanceled saved order
        = saved.updateItems addStockTakeSold order.items := by
      unfold restoreOnCanceled restoreStockForOrder
      rw [if_pos (Or.inl hpaid), if_pos rfl, addStockTakeSoldOrZero_eq]
    have hmark : ∀ after : Db, (markWebhookProcessed after now id .canceled).orders = after.orders ∧
        (markWebhookProcessed after now id .canceled).payments = after.payments ∧
        (markWebhookProcessed after now id .canceled).products = after.products ∧
        (markWebhookProcessed after now id .canceled).ledger = after.ledger := by
      intro after
      unfold markWebhookProcessed
      split
      · exact ⟨rfl, rfl, rfl, rfl⟩
      · exact ⟨rfl, rfl, rfl, rfl⟩
    obtain ⟨hmo, hmpay, hmp, hml⟩ := hmark (((settlePointsOnCanceled (restoreOnCanceled saved
      order) now k payment.order order).saveOrder payment.order
        (Order.withStatus .canceled now)).log k .webhook "결제 취소 웹훅 처리")
    constructor
    · rw [hmo, Db.log_orders, Db.saveOrder_orders, hmoves.orders, hrestore, Db.updateItems_orders,
        horders]
    · intro j
      rw [hmpay, Db.log_payments, Db.saveOrder_payments, hmoves.payments, hrestore,
        Db.updateItems_payments]
      exact saved_statuses hsaved (Payment.markAsCanceled_spec hrow).1 j
    · rw [hmp, Db.log_products, Db.saveOrder_products, hmoves.products, hrestore,
        Db.updateItems_products, hproducts]
    · rw [hml, Db.log_ledger, Db.saveOrder_ledger, settlePointsOnCanceled_ledger hpaid, hrestore,
        Db.updateItems_ledger, hledger]

end

/-- The button and the webhook, on a paid order and a ledger in order: they
have the same result exactly when the points earned are covered before any row
that gets points of the order back. -/
theorem cancel_paths_agree {db db₁ db₂ : Db} (hL : Backed db.ledger) {now : Time} {k : Nat}
    {payment : Payment} {order : Order} {user : UserId}
    {toss : Except TossPaymentError TossPayment} {out : PaymentService.CancelResult}
    {event : TossPayment} (hpayment : db.payments.get? k = some payment)
    (horder : db.orders.get? payment.order = some order) (hpaid : order.status = .paid)
    (hevent : event.orderId.bind db.payments.ofTossOrderId? = some (k, payment))
    (hbutton : PaymentService.cancelPayment db now k user toss = .ok (out, db₁))
    (hwebhook : TossWebhookService.handlePaymentCanceled db now event = .ok (.canceled, db₂)) :
    SameCancellation db₁ db₂ ↔
      CoveredBeforeBack db.ledger now user order.usedPoints order.earnedPoints payment.order := by
  obtain ⟨howned, h₁⟩ := PaymentService.cancelPayment_canceledAs hpayment horder hpaid hbutton
  have h₂ := TossWebhookService.handlePaymentCanceled_canceledAs hevent horder hpaid hwebhook
  rw [howned] at h₂
  -- The button went through, so the points earned can be reclaimed.
  have husable : order.earnedPoints ≤ getUsablePoints db.ledger now user := by
    obtain ⟨p, x, haccepted⟩ := PaymentService.cancelPayment_accepted hbutton
    have hp := haccepted.paymentFound
    rw [hpayment] at hp
    cases hp
    have hx := haccepted.orderFound
    rw [horder] at hx
    cases hx
    by_cases hpos : 0 < order.earnedPoints
    · refine PaymentService.checkReclaimable_ok haccepted.reclaimable ?_ hpos
      rw [hpaid]
      decide
    · have h0 : 0 ≤ getUsablePoints db.ledger now user := by
        rw [getUsablePoints_eq]
        exact List.sum_nonneg fun x hx => by
          obtain ⟨c, hc, rfl⟩ := List.mem_map.mp hx
          exact remainingCaps_nonneg c hc
      omega
  rw [← hL.remaining_same_iff husable]
  constructor
  · intro hsame j
    have hj := hsame.remaining j
    rwa [h₁.ledger_eq, h₂.ledger_eq] at hj
  · intro hsame
    refine ⟨fun o => ?_, fun j => ?_, ?_, fun v => ?_, fun j => ?_⟩
    · unfold Db.statusOf
      rw [h₁.orders, h₂.orders]
    · rw [h₁.payments, h₂.payments]
    · rw [h₁.products, h₂.products]
    · rw [h₁.ledger_eq, h₂.ledger_eq]
      exact hL.points_same husable v
    · rw [h₁.ledger_eq, h₂.ledger_eq]
      exact hsame j

/-! ## A paid order that used 100 points and earned 50 -/

/-- The user 7 is credited, uses 100 points for the order 1, and earns 50. -/
def creditedLedger (credit : Int) : Ledger :=
  [PointOp.add 7 credit .earn none none, .use 7 100 .use (some 1) none,
    .add 7 50 .earn (some 1) none].foldl (fun L op => op.apply (fun _ => 7) 0 L) Ledger.empty

theorem backed_creditedLedger (credit : Int) : Backed (creditedLedger credit) := by
  have hsound : Sound (fun _ => 7) 0 (creditedLedger credit) := by
    refine (Sound.empty (fun _ => 7) 0).applyAll _ ?_
    intro op hop
    simp only [List.mem_cons, List.not_mem_nil, or_false] at hop
    obtain rfl | rfl | rfl := hop
    · rfl
    · rfl
    · rfl
  exact hsound.backed

/-- The shop with the order. -/
def creditedShop (credit : Int) : Db :=
  { (World.shop .paid .done).db with
    ledger := creditedLedger credit
    orders := Table.empty.insert
      { World.oneOrder .paid with usedPoints := 100, earnedPoints := 50 } }

/-- The provider's report of the cancellation. -/
def cancellation : TossPayment := { status := some .canceled, orderId := some (.orderNumber 1) }

/-- The row that gets points back has enough left to cover what was earned. -/
theorem cancel_paths_agree_covered :
    ∃ out db₁ db₂,
      PaymentService.cancelPayment (creditedShop 200) 1 1 7 (.ok cancellation) = .ok (out, db₁) ∧
      TossWebhookService.handlePaymentCanceled (creditedShop 200) 1 cancellation
        = .ok (.canceled, db₂) ∧
      db₁.ledger.remainingAt 1 = 150 ∧ db₂.ledger.remainingAt 1 = 150 ∧
      (SameCancellation db₁ db₂ ↔ CoveredBeforeBack (creditedLedger 200) 1 7 100 50 1) := by
  obtain ⟨⟨out, db₁⟩, hbutton, hleft₁⟩ : ∃ r, PaymentService.cancelPayment (creditedShop 200) 1 1 7
      (.ok cancellation) = .ok r ∧ r.2.ledger.remainingAt 1 = 150 := ⟨_, rfl, by decide⟩
  obtain ⟨db₂, hwebhook, hleft₂⟩ : ∃ db, TossWebhookService.handlePaymentCanceled (creditedShop 200) 1
      cancellation = .ok (.canceled, db) ∧ db.ledger.remainingAt 1 = 150 := ⟨_, rfl, by decide⟩
  have horder : (creditedShop 200).orders.get? 1
      = some { World.oneOrder .paid with usedPoints := 100, earnedPoints := 50 } := rfl
  have hpayment : (creditedShop 200).payments.get? 1 = some (World.onePayment .done) := rfl
  have hagree := cancel_paths_agree (backed_creditedLedger 200) hpayment horder rfl rfl hbutton
    hwebhook
  exact ⟨out, db₁, db₂, hbutton, hwebhook, hleft₁, hleft₂, hagree⟩

/-- The order used up the row that its points come from: the button takes the
earned points from that row, the webhook from the row that they are on. -/
theorem cancel_paths_disagree :
    Backed (creditedShop 100).ledger ∧ ∃ out db₁ db₂,
      PaymentService.cancelPayment (creditedShop 100) 1 1 7 (.ok cancellation) = .ok (out, db₁) ∧
      TossWebhookService.handlePaymentCanceled (creditedShop 100) 1 cancellation
        = .ok (.canceled, db₂) ∧
      db₁.ledger.points 7 = db₂.ledger.points 7 ∧
      db₁.ledger.remainingAt 1 = 50 ∧ db₂.ledger.remainingAt 1 = 100 ∧
      db₁.ledger.remainingAt 3 = 50 ∧ db₂.ledger.remainingAt 3 = 0 := by
  refine ⟨backed_creditedLedger 100, _, _, _, rfl, rfl, by decide, by decide, by decide, by decide,
    by decide⟩

end Shopping
