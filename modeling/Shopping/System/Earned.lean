import Shopping.Points.Entries
import Shopping.System.Logs

/-!
# Earned points of canceled orders

The points of an order are added by a task of their own, after the settlement.
The cancellations take back what the order has at that time, and the task looks
at the points of the order and not at its status.

`EarnsRow` is the invariant of one order: before a cancellation its earn rows
and its deductions come to `earned_points`, after it to nothing, or a log says
that they do not.
-/

namespace Shopping

open PaymentService TossWebhookService PaymentTasks PointTasks

/-! ## What an order earned -/

/-- The rows that count: earnings and their deductions. -/
def countsEarned (o : OrderId) (e : Entry) : Bool :=
  decide (e.order = some o) && (decide (e.type = .earn) || decide (e.type = .cancelDeduct))

/-- The net sum of the earnings of `o` in a list of entries. -/
def netEarned (o : OrderId) (entries : List Entry) : Int :=
  (entries.map fun e => if countsEarned o e then e.points else 0).sum

@[simp] theorem netEarned_nil (o : OrderId) : netEarned o [] = 0 := rfl

@[simp] theorem netEarned_append (o : OrderId) (xs ys : List Entry) :
    netEarned o (xs ++ ys) = netEarned o xs + netEarned o ys := by
  simp [netEarned]

/-- Entries of other kinds do not count. -/
theorem netEarned_of_refund {o : OrderId} {entries : List Entry} {type : PointType}
    (htype : type = .cancelRefund)
    (h : ∀ e ∈ entries, e.type = type ∨ e.type = .expire) : netEarned o entries = 0 := by
  unfold netEarned
  refine List.sum_eq_zero fun x hx => ?_
  obtain ⟨e, he, rfl⟩ := List.mem_map.mp hx
  rw [if_neg]
  intro hc
  rcases h e he with ht | ht
  · simp [countsEarned, ht, htype] at hc
  · simp [countsEarned, ht] at hc

/-- The row of one order counts for no other. -/
theorem netEarned_single {o i : OrderId} {type : PointType} {n : Int}
    (ht : type = .earn ∨ type = .cancelDeduct) :
    netEarned o [⟨some i, type, n⟩] = if i = o then n else 0 := by
  rcases ht with ht | ht
  · simp [netEarned, countsEarned, ht]
  · simp [netEarned, countsEarned, ht]

/-- A log says that earned points of the order were not reclaimed. -/
def NotReclaimed (db : Db) (o : OrderId) : Prop :=
  ∃ l ∈ db.logs, l.logType = .error ∧
    (∃ p, db.payments.get? l.payment = some p ∧ p.order = o) ∧
    ∃ amount reason message, l.message = notReclaimedMessage amount reason message

theorem NotReclaimed.mono {db db' : Db} {o : OrderId} (h : NotReclaimed db o)
    (hkeeps : db.payments.Keeps db'.payments) (hlogs : LogsGrow db db') : NotReclaimed db' o := by
  obtain ⟨l, hl, hlt, ⟨p, hp, hpo⟩, hm⟩ := h
  obtain ⟨logs, hlogs⟩ := hlogs
  obtain ⟨q, hq, hqo⟩ := hkeeps l.payment p hp
  exact ⟨l, by rw [hlogs]; exact List.mem_append_left _ hl, hlt, ⟨q, hq, hqo.trans hpo⟩, hm⟩

/-! ## What the functions book -/

/-- The task would book points for the order. -/
def booksEarning (db : Db) (user : UserId) (o : OrderId) : Bool :=
  (db.orders.get? o).any fun order =>
    !(decide (0 < order.earnedPoints) || db.hasHistory o .earn) &&
      decide (0 < order.finalAmount) &&
      decide (0 < earnPoints order.totalAmount (db.membership user).earnRate)

theorem addPointsAfterPayment_books {db db' : Db} {now : Time} {user : UserId} {o : OrderId}
    {result : EarnResult} (h : addPointsAfterPayment db now user o = .ok (result, db')) :
    db' = db ∨ booksEarning db user o = true ∧ ∃ order n, db.orders.get? o = some order ∧
      order.earnedPoints ≤ 0 ∧ 0 < n ∧
      db'.orders = db.orders.modify o (fun x => { x with earnedPoints := n }) ∧
      db'.ledger.entries = db.ledger.entries ++ [⟨some o, .earn, n⟩] := by
  unfold addPointsAfterPayment at h
  obtain ⟨order, horder, h⟩ := bind_eq_ok.mp h
  rw [Db.getOrder_eq_ok] at horder
  split at h
  · cases h
    exact Or.inl rfl
  · rename_i hfresh
    rw [not_or, Bool.not_eq_true] at hfresh
    split at h
    · cases h
      exact Or.inl rfl
    · rename_i hfinal
      dsimp only at h
      generalize hn : earnPoints order.totalAmount (db.membership user).earnRate = n at h
      split at h
      · cases h
        exact Or.inl rfl
      · rename_i hpos
        split at h
        · cases h
        · rename_i b ledger hadd
          have hlog := logOnPayment_moves ({ db with ledger := ledger }.saveOrder o fun x =>
            { x with earnedPoints := n }) o .approve ("포인트 " ++ toString n ++ "점 적립")
          cases h
          refine Or.inr ⟨?_, order, n, horder, not_lt.mp hfresh.1, not_le.mp hpos, ?_, ?_⟩
          · simp [booksEarning, horder, hfresh.1, hfresh.2, hn, not_le.mp hfinal, not_le.mp hpos]
          · rw [hlog.orders]
            rfl
          · rw [logOnPayment_ledger]
            have hentries := PointService.addPoints_entries hadd
            rw [if_pos (not_le.mp hpos)] at hentries
            exact hentries

theorem deductEarned_books {db db' : Db} {now : Time} {k : Nat} {o : OrderId} {user : UserId}
    {order : Order} (h : deductEarned db now k o user order = .ok db') :
    db'.ledger.entries = db.ledger.entries ++
      if 0 < order.earnedPoints then [⟨some o, .cancelDeduct, -order.earnedPoints⟩] else [] := by
  unfold deductEarned at h
  split at h
  · rename_i hle
    cases h
    rw [if_neg (not_lt.mpr hle), List.append_nil]
  · rename_i hpos
    split at h
    · cases h
    · dsimp only at h
      split at h
      · cases h
      · rename_i hsuccess
        cases h
        rw [Bool.not_eq_false] at hsuccess
        have hentries := PointService.usePointsFifo_entries db.ledger now user order.earnedPoints
          .cancelDeduct (some o) none
        rw [if_pos hsuccess] at hentries
        rw [if_pos (not_le.mp hpos)]
        exact hentries

/-- `cancel_payment` takes back what the order has. -/
theorem cancelPayment_books {db db' : Db} {now : Time} {k : Nat} {user : UserId}
    {toss : Except TossPaymentError TossPayment} {result : CancelResult}
    (h : cancelPayment db now k user toss = .ok (result, db')) :
    ∃ p order, db.payments.get? k = some p ∧ db.orders.get? p.order = some order ∧
      (order.status = .canceled ∧ db'.orders = db.orders ∧ db'.ledger = db.ledger ∨
        order.status = .paid ∧
          db'.orders = db.orders.modify p.order (Order.withStatus .canceled now) ∧
          ∀ i, netEarned i db'.ledger.entries = netEarned i db.ledger.entries
            - if p.order = i then max order.earnedPoints 0 else 0) := by
  obtain ⟨p, order, data, row, hget, horder, _, _, _, _, hcase⟩ := cancelPayment_ok h
  refine ⟨p, order, hget, horder, ?_⟩
  cases hcase with
  | refundOnly hcanceled hsaved =>
    obtain ⟨_, horders, _, _, hledger⟩ := savePayment_payments hsaved
    exact Or.inl ⟨hcanceled, horders, hledger⟩
  | canceled hpaid hsaved hrefunded hdeducted =>
    rename_i saved refunded deducted
    obtain ⟨_, horders, _, _, hledger⟩ := savePayment_payments hsaved
    have hdeduct := deductEarned_books hdeducted
    have hrefund : refunded.orders
        = saved.orders.modify p.order (Order.withStatus .canceled now) ∧
        ∃ booked, refunded.ledger.entries = saved.ledger.entries ++ booked ∧
          ∀ e ∈ booked, e.type = .cancelRefund ∨ e.type = .expire := by
      rw [hrefunded]
      dsimp only
      split
      · obtain ⟨booked, hbooked, hkinds⟩ := PointService.refundUsedPoints_entries saved.ledger now
          user order.usedPoints p.order .cancelRefund none
        exact ⟨rfl, booked, hbooked, fun e he => (hkinds e he).2.imp_right And.left⟩
      · exact ⟨rfl, [], by simp, by simp⟩
    obtain ⟨hro, booked, hbooked, hkinds⟩ := hrefund
    refine Or.inr ⟨hpaid, ?_, fun i => ?_⟩
    · rw [Db.log_orders, (deductEarned_ok hdeducted).orders, hro, horders]
    · rw [Db.log_ledger, hdeduct, hbooked, hledger, netEarned_append, netEarned_append,
        netEarned_of_refund rfl hkinds]
      split
      · rename_i hpos
        rw [netEarned_single (Or.inr rfl), max_eq_left hpos.le]
        split
        · omega
        · omega
      · rename_i hneg
        rw [netEarned_nil, max_eq_right (not_lt.mp hneg)]
        split
        · omega
        · omega

/-- The reclaim of the webhook, which leaves a log when it fails. -/
theorem reclaimEarnedPoints_books (db : Db) (now : Time) (o : OrderId) (order : Order) (k : Nat)
    (reason : String) :
    (reclaimEarnedPoints db now o order k reason).2.ledger.entries = db.ledger.entries ++
        [⟨some o, .cancelDeduct, -order.earnedPoints⟩] ∨
      (reclaimEarnedPoints db now o order k reason).2.ledger.entries = db.ledger.entries ∧
        ∃ message, (reclaimEarnedPoints db now o order k reason).2.logs = db.logs ++
          [⟨k, .error, notReclaimedMessage order.earnedPoints reason message, none⟩] := by
  have hentries := PointService.usePointsFifo_entries db.ledger now order.user order.earnedPoints
    .cancelDeduct (some o) none
  unfold reclaimEarnedPoints
  dsimp only
  split
  · rename_i hsuccess
    rw [if_pos hsuccess] at hentries
    exact Or.inl hentries
  · rename_i hfailed
    rw [if_neg hfailed, List.append_nil] at hentries
    exact Or.inr ⟨hentries, _, rfl⟩

/-- The points of the order when the webhook takes them back. -/
def reclaimedOnCanceled (order : Order) : Int :=
  if (order.status = .paid ∨ order.status = .preparing) ∧ 0 < order.earnedPoints then
    order.earnedPoints else 0

theorem settlePointsOnCanceled_books (db : Db) (now : Time) (k : Nat) (o : OrderId)
    (order : Order) :
    (∀ i, netEarned i (settlePointsOnCanceled db now k o order).ledger.entries
      = netEarned i db.ledger.entries - if o = i then reclaimedOnCanceled order else 0) ∨
    (∀ i, netEarned i (settlePointsOnCanceled db now k o order).ledger.entries
      = netEarned i db.ledger.entries) ∧
      ∃ message, (⟨k, .error, notReclaimedMessage order.earnedPoints "주문 취소" message, none⟩ :
        PaymentLog) ∈ (settlePointsOnCanceled db now k o order).logs := by
  -- The refund of the used points comes after the reclaim, and does not count.
  have hrefund : ∀ x : Db, ∀ i, netEarned i (if (order.status = .confirmed ∨ order.status = .paid ∨
        order.status = .preparing) ∧ 0 < order.usedPoints then
          x.refundUsedPoints now order.user order.usedPoints o .cancelRefund
        else x).ledger.entries = netEarned i x.ledger.entries := by
    intro x i
    split
    · obtain ⟨booked, hbooked, hkinds⟩ := PointService.refundUsedPoints_entries x.ledger now
        order.user order.usedPoints o .cancelRefund none
      have hentries : (x.refundUsedPoints now order.user order.usedPoints o
          .cancelRefund).ledger.entries = x.ledger.entries ++ booked := hbooked
      rw [hentries, netEarned_append,
        netEarned_of_refund rfl fun e he => (hkinds e he).2.imp_right And.left, add_zero]
    · rfl
  have hlogs : ∀ x : Db, (if (order.status = .confirmed ∨ order.status = .paid ∨
        order.status = .preparing) ∧ 0 < order.usedPoints then
          x.refundUsedPoints now order.user order.usedPoints o .cancelRefund
        else x).logs = x.logs := by
    intro x
    split
    · rfl
    · rfl
  unfold settlePointsOnCanceled reclaimedOnCanceled
  dsimp only
  by_cases hreclaim : (order.status = .paid ∨ order.status = .preparing) ∧ 0 < order.earnedPoints
  · simp only [if_pos hreclaim, hrefund, hlogs]
    rcases reclaimEarnedPoints_books db now o order k "주문 취소" with hbooks | ⟨hbooks, message, hl⟩
    · left
      intro i
      rw [hbooks, netEarned_append, netEarned_single (Or.inr rfl)]
      split
      · omega
      · omega
    · right
      refine ⟨fun i => by rw [hbooks], message, ?_⟩
      rw [hl]
      exact List.mem_append_right _ List.mem_cons_self
  · left
    intro i
    simp only [if_neg hreclaim, hrefund]
    split
    · omega
    · omega

/-- The webhook takes back what the order has, or leaves a log. -/
theorem handlePaymentCanceled_books {db db' : Db} {now : Time} {event : TossPayment}
    {result : CanceledResult} (h : handlePaymentCanceled db now event = .ok (result, db')) :
    db' = db ∨ ∃ k p order, db.payments.get? k = some p ∧
      db.orders.get? p.order = some order ∧
      (order.status = .canceled ∧ db'.orders = db.orders ∧ db'.ledger = db.ledger ∨
        order.status ≠ .canceled ∧
          db'.orders = db.orders.modify p.order (Order.withStatus .canceled now) ∧
          ((∀ i, netEarned i db'.ledger.entries = netEarned i db.ledger.entries
              - if p.order = i then reclaimedOnCanceled order else 0) ∨
            (∀ i, netEarned i db'.ledger.entries = netEarned i db.ledger.entries) ∧
              ∃ l ∈ db'.logs, l.payment = k ∧ l.logType = .error ∧
                ∃ amount reason message, l.message = notReclaimedMessage amount reason message)) := by
  refine (handlePaymentCanceled_ok h).imp_right ?_
  rintro ⟨id, k, p, order, row, _, hof, _, _, horder, _, hcase⟩
  have hget := PaymentTable.ofTossOrderId?_get hof
  refine ⟨k, p, order, hget, horder, ?_⟩
  cases hcase with
  | orderAlreadyCanceled hcanceled hsaved =>
    obtain ⟨_, horders, _, _, hledger⟩ := savePayment_payments hsaved
    exact Or.inl ⟨hcanceled, by rw [markWebhookProcessed_orders, horders],
      by rw [markWebhookProcessed_ledger, hledger]⟩
  | canceled hcanceled hsaved =>
    rename_i saved
    obtain ⟨_, horders, _, _, hledger⟩ := savePayment_payments hsaved
    obtain ⟨_, hro, hrl, _⟩ := restoreOnCanceled_tables saved order
    have hmoves := movesPoints_settleOnCanceled (restoreOnCanceled saved order) now k p.order order
    refine Or.inr ⟨hcanceled, ?_, ?_⟩
    · rw [markWebhookProcessed_orders, Db.log_orders, Db.saveOrder_orders, hmoves.orders, hro,
        horders]
    · have hbase : (restoreOnCanceled saved order).ledger = db.ledger := hrl.trans hledger
      rw [markWebhookProcessed_ledger, Db.log_ledger, Db.saveOrder_ledger]
      rcases settlePointsOnCanceled_books (restoreOnCanceled saved order) now k p.order order with
        hnet | ⟨hnet, message, hmem⟩
      · left
        intro i
        rw [hnet i, hbase]
      · right
        refine ⟨fun i => by rw [hnet i, hbase], ⟨k, .error, notReclaimedMessage
          order.earnedPoints "주문 취소" message, none⟩, ?_, rfl, rfl, _, _, _, rfl⟩
        rw [markWebhookProcessed_logs, Db.log_logs, Db.saveOrder_logs]
        exact List.mem_append_left _ hmem

/-! ## The invariant -/

/-- What the history holds of the earnings of one order. -/
structure EarnsRow (db : Db) (o : OrderId) (order : Order) : Prop where
  nonneg : 0 ≤ order.earnedPoints
  early : order.status ≠ .paid → order.status ≠ .preparing → order.status ≠ .canceled →
    order.earnedPoints = 0
  kept : order.status ≠ .canceled → netEarned o db.ledger.entries = order.earnedPoints
  canceled : order.status = .canceled →
    netEarned o db.ledger.entries = 0 ∨ NotReclaimed db o

/-- The history agrees with the orders, and the task is only published for an
order that was paid. -/
structure Earnings (w : World) : Prop where
  rows : ∀ o order, w.db.orders.get? o = some order → EarnsRow w.db o order
  messages : ∀ user o, .addPoints user o ∈ w.messages →
    w.db.statusOf o = some .paid ∨ w.db.statusOf o = some .canceled

section

variable {db db' : Db} {o : OrderId} {order : Order}

/-- A row that stays, below entries that count the same. -/
theorem EarnsRow.frame (h : EarnsRow db o order)
    (hnet : netEarned o db'.ledger.entries = netEarned o db.ledger.entries)
    (hkeeps : db.payments.Keeps db'.payments) (hlogs : LogsGrow db db') : EarnsRow db' o order := by
  refine ⟨h.nonneg, h.early, fun hne => ?_, fun hc => ?_⟩
  · rw [hnet]
    exact h.kept hne
  · rw [hnet]
    exact (h.canceled hc).imp_right fun hn => hn.mono hkeeps hlogs

/-- An update of the row `o` alone: the other rows stay, and nothing else
counts. -/
theorem rows_of_modify {f : Order → Order}
    (hrows : ∀ i x, db.orders.get? i = some x → EarnsRow db i x)
    (horders : db'.orders = db.orders.modify o f)
    (hnet : ∀ i, i ≠ o → netEarned i db'.ledger.entries = netEarned i db.ledger.entries)
    (hkeeps : db.payments.Keeps db'.payments) (hlogs : LogsGrow db db')
    (hrow : ∀ x, db.orders.get? o = some x → EarnsRow db' o (f x)) :
    ∀ i x, db'.orders.get? i = some x → EarnsRow db' i x := by
  intro i x hx
  rw [horders] at hx
  rcases Table.modify_cases hx with ⟨y, rfl, hy, rfl⟩ | ⟨hi, hx⟩
  · exact hrow y hy
  · exact (hrows i x hx).frame (hnet i hi) hkeeps hlogs

/-- The status of a row whose order is canceled or paid by an update. -/
theorem paidOrCanceled_modify {f : Order → Order} {s : OrderStatus} {i : OrderId}
    (horders : db'.orders = db.orders.modify o f) (hf : ∀ x, (f x).status = s)
    (hs : s = .paid ∨ s = .canceled)
    (h : db.statusOf i = some .paid ∨ db.statusOf i = some .canceled) :
    db'.statusOf i = some .paid ∨ db'.statusOf i = some .canceled := by
  rw [statusOf_modify horders hf i]
  split
  · rename_i hi
    subst hi
    have hmap : (db.statusOf i).map (fun _ => s) = some s := by
      rcases h with h | h
      · rw [h]
        rfl
      · rw [h]
        rfl
    rw [hmap]
    rcases hs with hs | hs
    · exact Or.inl (by rw [hs])
    · exact Or.inr (by rw [hs])
  · exact h

end

/-! ## Runs -/

/-- The settlement by the finalisation, the earning, and the cancellations of
the payment. -/
def earningEvent (w : World) : Event → Bool
  | .cancelPayment _ _ _ | .webhookCanceled _ => true
  | .deliver n _ =>
    match w.messages[n]? with
    | some (.finalize _ _ _) | some (.addPoints _ _) => true
    | _ => false
  | _ => false

/-- The event adds the points of an order that is canceled. -/
def earnsCanceled (w : World) : Event → Bool
  | .deliver n _ =>
    match w.messages[n]? with
    | some (.addPoints user o) =>
      booksEarning w.db user o && decide (w.db.statusOf o = some .canceled)
    | _ => false
  | _ => false

namespace Earnings

variable {w : World} {now : Time}

/-- The orders and the ledger are as they were, and no task is published. -/
theorem of_same {w' : World} (h : Earnings w) (horders : w'.db.orders = w.db.orders)
    (hledger : w'.db.ledger = w.db.ledger) (hkeeps : w.db.payments.Keeps w'.db.payments)
    (hlogs : LogsGrow w.db w'.db)
    (hsent : ∀ user o, .addPoints user o ∈ w'.messages → .addPoints user o ∈ w.messages) :
    Earnings w' := by
  refine ⟨fun o order horder => ?_, fun user o hm => ?_⟩
  · rw [horders] at horder
    exact (h.rows o order horder).frame (by rw [hledger]) hkeeps hlogs
  · rw [statusOf_of_orders horders]
    exact h.messages user o (hsent user o hm)

theorem addPoints (h : Earnings w) {user : UserId} {o : OrderId}
    (hmem : .addPoints user o ∈ w.messages)
    (hopen : (booksEarning w.db user o && decide (w.db.statusOf o = some .canceled)) = false)
    {d : Delivery} : Earnings (w.deliver now d (.addPoints user o)) := by
  refine World.after_of (P := Earnings) h ?_
  rintro ⟨result, db⟩ hout
  have hearns := PointTasks.addPointsAfterPayment_ok hout
  have hkeeps : w.db.payments.Keeps db.payments := keeps_of_eq hearns.payments
  have hlogs : LogsGrow w.db db := hearns.logs
  rcases addPointsAfterPayment_books hout with hdb | ⟨hbooks, order, n, horder, hle, hpos, ho, hl⟩
  · refine h.of_same (congrArg Db.orders hdb) (congrArg Db.ledger hdb) hkeeps hlogs fun u i hm => ?_
    rwa [World.commit_messages, List.append_nil] at hm
  · rw [hbooks, Bool.true_and, decide_eq_false_iff_not] at hopen
    have hpaid := (h.messages user o hmem).resolve_right hopen
    have hstatus : order.status = .paid := by
      unfold Db.statusOf at hpaid
      rw [horder] at hpaid
      exact Option.some.inj hpaid
    have hrow := h.rows o order horder
    have hzero : order.earnedPoints = 0 := le_antisymm hle hrow.nonneg
    refine ⟨rows_of_modify h.rows ho (fun i hi => ?_) hkeeps hlogs fun x hx => ?_,
      fun u i hm => ?_⟩
    · show netEarned i db.ledger.entries = _
      rw [hl, netEarned_append, netEarned_single (Or.inl rfl), if_neg (Ne.symm hi), add_zero]
    · rw [horder] at hx
      cases hx
      refine ⟨hpos.le, fun hne => absurd hstatus hne, fun _ => ?_, fun hc => ?_⟩
      · have hnet : netEarned o w.db.ledger.entries = 0 := by
          rw [hrow.kept (by rw [hstatus]; decide), hzero]
        rw [World.commit_db, hl, netEarned_append, netEarned_single (Or.inl rfl), if_pos rfl, hnet,
          zero_add]
      · have hc' : order.status = .canceled := hc
        rw [hstatus] at hc'
        cases hc'
    · rw [World.commit_messages, List.append_nil] at hm
      rw [World.commit_db, statusOf_modify_same ho (fun _ => rfl) i]
      exact h.messages u i hm

theorem finalize (h : Earnings w) {response : TossPayment} {k : Nat} {user : UserId}
    {d : Delivery} : Earnings (w.deliver now d (.finalize response k user)) := by
  simp only [World.deliver]
  cases hfin : PaymentTasks.finalizePaymentConfirm w.db now response k user d.published with
  | error e =>
    dsimp only
    split
    · exact h
    · have halert := alertFinalizeExhausted_movesPoints w.db k
      refine h.of_same halert.orders (alertFinalizeExhausted_ledger w.db k)
        (keeps_of_eq halert.payments) halert.logs fun u i hm => ?_
      rwa [World.commit_messages, List.append_nil] at hm
  | ok out =>
    have hlogs := finalizePaymentConfirm_logs hfin
    have hkeeps : w.db.payments.Keeps out.db.payments := by
      obtain ⟨_, _, hkeeps, _⟩ := finalizePaymentConfirm_acts hfin
      exact hkeeps
    obtain ⟨p, hget, hcase⟩ := finalizePaymentConfirm_ok hfin
    -- All branches but the settlement leave the orders and the ledger alone.
    have hsame : out.db.orders = w.db.orders → out.db.ledger = w.db.ledger → out.sent = [] →
        Earnings ((w.commit out.db out.sent).resolve k) := by
      intro ho hl hs
      refine h.of_same ho hl hkeeps hlogs fun u i hm => ?_
      rw [hs] at hm
      simpa [World.resolve] using hm
    cases hcase with
    | alreadyProcessed hpaid => exact hsame rfl rfl rfl
    | waiting hpaid hstatus hrow hsaved =>
      obtain ⟨_, ho, _, _, hl⟩ := savePayment_payments hsaved
      exact hsame ho hl rfl
    | orderCanceled hpaid hstatus horder hcanceled hrow hsaved =>
      obtain ⟨_, ho, _, _, hl⟩ := savePayment_payments hsaved
      exact hsame ho hl rfl
    | success hpaid hstatus horder hcanceled hrow hsaved =>
      rename_i order row saved
      obtain ⟨_, _, _, _, hl⟩ := savePayment_payments hsaved
      have hmod : ((((saved.updateItems addSold order.items).saveOrder p.order
          (Order.withPaid row.method now)).deactivateCarts user).log k .approve
            "결제 승인 완료").orders = w.db.orders.modify p.order (Order.withPaid row.method now) :=
        settled_orders hsaved order.items p.order row.method now user
      have hledger : ((((saved.updateItems addSold order.items).saveOrder p.order
          (Order.withPaid row.method now)).deactivateCarts user).log k .approve
            "결제 승인 완료").ledger = w.db.ledger := by
        simp [hl]
      refine ⟨rows_of_modify h.rows hmod (fun i _ => by rw [World.resolve_db, World.commit_db,
        hledger]) hkeeps hlogs fun x hx => ?_, fun u i hm => ?_⟩
      · rw [horder] at hx
        cases hx
        have hrow := h.rows p.order order horder
        refine ⟨hrow.nonneg, fun hne => absurd rfl hne, fun _ => ?_, fun hc => ?_⟩
        · rw [World.resolve_db, World.commit_db, hledger]
          exact hrow.kept hcanceled
        · cases hc
      · have hm' : .addPoints u i ∈ w.messages ∨
            .addPoints u i ∈ (if decide (0 < order.finalAmount) && d.published then
              [.addPoints user p.order] else [] : List Message) :=
          List.mem_append.mp hm
        rcases hm' with hm' | hm'
        · exact paidOrCanceled_modify hmod (fun _ => rfl) (Or.inl rfl) (h.messages u i hm')
        · split at hm'
          · cases List.mem_singleton.mp hm'
            left
            rw [World.resolve_db, World.commit_db, statusOf_modify hmod (fun _ => rfl),
              if_pos rfl]
            unfold Db.statusOf
            rw [horder]
            rfl
          · cases hm'

/-- The cancellation of an order that is paid, or of one that is canceled
already. -/
theorem cancelPayment (h : Earnings w) {k : Nat} {user : UserId}
    {toss : Except TossPaymentError TossPayment} :
    Earnings (w.run now (.cancelPayment k user toss)) := by
  refine World.after_of (P := Earnings) h ?_
  rintro ⟨result, db⟩ hout
  have hlogs := PaymentService.cancelPayment_logs hout
  have hkeeps : w.db.payments.Keeps db.payments := by
    obtain ⟨_, _, _, hkeeps⟩ := PaymentService.cancelPayment_acts hout
    exact hkeeps
  obtain ⟨p, order, hget, horder, hbooks⟩ := cancelPayment_books hout
  rcases hbooks with ⟨_, ho, hl⟩ | ⟨hpaid, ho, hnet⟩
  · exact h.of_same ho hl hkeeps hlogs fun u i hm => by simpa [World.noteCanceled] using hm
  · have hrow := h.rows p.order order horder
    refine ⟨rows_of_modify h.rows ho (fun i hi => ?_) hkeeps hlogs fun x hx => ?_,
      fun u i hm => ?_⟩
    · show netEarned i db.ledger.entries = _
      rw [hnet i, if_neg (Ne.symm hi), sub_zero]
    · rw [horder] at hx
      cases hx
      refine ⟨hrow.nonneg, fun _ _ hne => absurd rfl hne, fun hne => absurd rfl hne, fun _ => ?_⟩
      left
      show netEarned p.order db.ledger.entries = 0
      rw [hnet, if_pos rfl, hrow.kept (by rw [hpaid]; decide), max_eq_left hrow.nonneg, sub_self]
    · exact paidOrCanceled_modify ho (fun _ => rfl) (Or.inr rfl)
        (h.messages u i (by simpa [World.noteCanceled] using hm))

/-- The cancellation by the provider. -/
theorem webhookCanceled (h : Earnings w) {event : TossPayment} :
    Earnings (w.run now (.webhookCanceled event)) := by
  refine World.after_of (P := Earnings) h ?_
  rintro ⟨result, db⟩ hout
  have hlogs := handlePaymentCanceled_logs hout
  have hkeeps := (handlePaymentCanceled_acts hout).1
  rcases handlePaymentCanceled_books hout with hdb | ⟨k, p, order, hget, horder, hbooks⟩
  · exact h.of_same (congrArg Db.orders hdb) (congrArg Db.ledger hdb) hkeeps hlogs
      fun u i hm => by simpa [World.noteCanceled] using hm
  · have hrow := h.rows p.order order horder
    rcases hbooks with ⟨_, ho, hl⟩ | ⟨hopen, ho, hbooks⟩
    · exact h.of_same ho hl hkeeps hlogs fun u i hm => by simpa [World.noteCanceled] using hm
    · -- What the order has is what the webhook reclaims.
      have hreclaimed : reclaimedOnCanceled order = order.earnedPoints := by
        unfold reclaimedOnCanceled
        split
        · rfl
        · rename_i hno
          have hle := hrow.nonneg
          by_cases hs : order.status = .paid ∨ order.status = .preparing
          · have hnot : ¬ 0 < order.earnedPoints := fun hpos => hno ⟨hs, hpos⟩
            omega
          · rw [not_or] at hs
            exact (hrow.early hs.1 hs.2 hopen).symm
      refine ⟨rows_of_modify h.rows ho (fun i hi => ?_) hkeeps hlogs fun x hx => ?_,
        fun u i hm => ?_⟩
      · show netEarned i db.ledger.entries = _
        rcases hbooks with hnet | ⟨hnet, _⟩
        · rw [hnet i, if_neg (Ne.symm hi), sub_zero]
        · exact hnet i
      · rw [horder] at hx
        cases hx
        refine ⟨hrow.nonneg, fun _ _ hne => absurd rfl hne, fun hne => absurd rfl hne, fun _ => ?_⟩
        rcases hbooks with hnet | ⟨_, l, hl, hlk, hlt, hlm⟩
        · left
          show netEarned p.order db.ledger.entries = 0
          rw [hnet, if_pos rfl, hreclaimed, hrow.kept hopen, sub_self]
        · right
          obtain ⟨q, hq, hqo⟩ := hkeeps k p hget
          exact ⟨l, hl, hlt, ⟨q, by rw [hlk]; exact hq, hqo⟩, hlm⟩
      · exact paidOrCanceled_modify ho (fun _ => rfl) (Or.inr rfl)
          (h.messages u i (by simpa [World.noteCanceled] using hm))

theorem step (h : Earnings w) {e : Event} (he : earningEvent w e = true)
    (hopen : earnsCanceled w e = false) : Earnings (w.run now e) := by
  cases e with
  | cancelPayment k user toss => exact h.cancelPayment
  | webhookCanceled event => exact h.webhookCanceled
  | deliver n d =>
    simp only [World.run]
    cases hmsg : w.messages[n]? with
    | none => exact h
    | some m =>
      cases m with
      | finalize response k user => exact h.finalize
      | addPoints user o =>
        simp only [earnsCanceled, hmsg] at hopen
        exact h.addPoints (List.mem_of_getElem? hmsg) hopen
      | _ => simp [earningEvent, hmsg] at he
  | _ => cases he

end Earnings

/-- In every run of the settlement, the earning and the cancellations in which
the task adds nothing to an order that is canceled: a canceled order keeps no
earned points, or a log says that they were not reclaimed. -/
theorem canceled_order_keeps_no_points {w₀ w : World} {es : List (Time × Event)}
    (hI : Earnings w₀)
    (h : Run World.step (fun w e => (earningEvent w e.2 && !earnsCanceled w e.2) = true)
      w₀ es w) (o : OrderId) (hcanceled : w.db.statusOf o = some .canceled) :
    netEarned o w.db.ledger.entries = 0 ∨ NotReclaimed w.db o := by
  have hE : Earnings w := by
    refine h.invariant Earnings hI ?_
    intro t e u ht hok hstep
    cases hstep
    rw [Bool.and_eq_true, Bool.not_eq_true'] at hok
    exact ht.step hok.1 hok.2
  obtain ⟨order, horder, hstatus⟩ := Option.map_eq_some_iff.mp hcanceled
  exact (hE.rows o order horder).canceled hstatus

/-! ## An order that is canceled -/

/-- The confirmation of the order is approved, and not finalised. -/
def approvedShop : World :=
  { World.shop .confirmed .inProgress with messages := [.finalize World.approval 1 7] }

theorem earnings_approvedShop : Earnings approvedShop := by
  refine ⟨fun o order horder => ?_, fun u o hm => ?_⟩
  · have horders : approvedShop.db.orders = Table.empty.insert (World.oneOrder .confirmed) := rfl
    rw [horders, Table.get?_insert, Table.next_empty, Table.get?_empty] at horder
    split at horder
    · cases horder
      exact ⟨le_refl 0, fun _ _ _ => rfl, fun _ => rfl, fun hc => by cases hc⟩
    · cases horder
  · cases List.mem_singleton.mp hm

/-- The points are added before the cancellation. -/
theorem canceled_order_keeps_no_points_reclaimed :
    ∃ w, Run World.step (fun w e => (earningEvent w e.2 && !earnsCanceled w e.2) = true)
        approvedShop
        [(1, .deliver 0 {}), (2, .deliver 1 {}), (3, .deliver 1 {}),
          (4, .cancelPayment 1 7 (.ok { status := some .canceled })), (5, .deliver 1 {})] w ∧
      w.db.statusOf 1 = some .canceled ∧ w.db.ledger.entries.length = 2 ∧
      (netEarned 1 w.db.ledger.entries = 0 ∨ NotReclaimed w.db 1) := by
  obtain ⟨w, hrun, hstate⟩ := Run.exists_of_execIf (by decide :
    (execIf World.step (fun w e => earningEvent w e.2 && !earnsCanceled w e.2) approvedShop
      [(1, .deliver 0 {}), (2, .deliver 1 {}), (3, .deliver 1 {}),
        (4, .cancelPayment 1 7 (.ok { status := some .canceled })),
        (5, .deliver 1 {})]).any (fun w => decide
          (w.db.statusOf 1 = some .canceled ∧ w.db.ledger.entries.length = 2)) = true)
  obtain ⟨hcanceled, hlength⟩ := of_decide_eq_true hstate
  exact ⟨w, hrun, hcanceled, hlength,
    canceled_order_keeps_no_points earnings_approvedShop hrun 1 hcanceled⟩

/-- The task that comes after the cancellation gives the canceled order its
points, and no log says so. -/
theorem canceled_order_earns_points :
    ∃ w, Run World.step (fun w e => earningEvent w e.2 = true) approvedShop
        [(1, .deliver 0 {}), (2, .cancelPayment 1 7 (.ok { status := some .canceled })),
          (3, .deliver 1 {})] w ∧
      w.db.statusOf 1 = some .canceled ∧ netEarned 1 w.db.ledger.entries = 100 ∧
      ¬ NotReclaimed w.db 1 := by
  obtain ⟨w, hrun, hstate⟩ := Run.exists_of_execIf (by decide :
    (execIf World.step (fun w e => earningEvent w e.2) approvedShop
      [(1, .deliver 0 {}), (2, .cancelPayment 1 7 (.ok { status := some .canceled })),
        (3, .deliver 1 {})]).any (fun w => decide
          (w.db.statusOf 1 = some .canceled ∧ netEarned 1 w.db.ledger.entries = 100 ∧
            ∀ l ∈ w.db.logs, l.logType ≠ .error)) = true)
  obtain ⟨hcanceled, hnet, hlogs⟩ := of_decide_eq_true hstate
  exact ⟨w, hrun, hcanceled, hnet, fun ⟨l, hl, hlt, _⟩ => hlogs l hl hlt⟩

end Shopping
