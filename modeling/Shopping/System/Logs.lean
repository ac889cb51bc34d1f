import Shopping.System.Steps

/-!
# The payment logs only grow

A log that was written stays, in every event but a new request: `create_payment`
deletes the payment of the order, and its logs go with it.
-/

namespace Shopping

/-- Logs were added, and none was taken away. -/
def LogsGrow (db db' : Db) : Prop := ∃ logs, db'.logs = db.logs ++ logs

namespace LogsGrow

theorem refl (db : Db) : LogsGrow db db := ⟨[], by simp⟩

theorem of_eq {db db' : Db} (h : db'.logs = db.logs) : LogsGrow db db' := ⟨[], by simp [h]⟩

theorem trans {db db' db'' : Db} (h : LogsGrow db db') (h' : LogsGrow db' db'') :
    LogsGrow db db'' := by
  obtain ⟨xs, hxs⟩ := h
  obtain ⟨ys, hys⟩ := h'
  exact ⟨xs ++ ys, by rw [hys, hxs, List.append_assoc]⟩

theorem log (db : Db) (k : Nat) (logType : LogType) (message : String) :
    LogsGrow db (db.log k logType message) := ⟨_, rfl⟩

theorem save {db saved : Db} {k : Nat} {row : Payment} (h : db.savePayment k row = .ok saved) :
    LogsGrow db saved := of_eq (savePayment_payments h).2.2.2.1

/-- A log that was there is still there. -/
theorem any {db db' : Db} (h : LogsGrow db db') {p : PaymentLog → Bool}
    (hp : db.logs.any p = true) : db'.logs.any p = true := by
  obtain ⟨logs, h⟩ := h
  rw [h, List.any_append, hp, Bool.true_or]

end LogsGrow

theorem PaymentService.cancelPayment_logs {db db' : Db} {now : Time} {k : Nat} {user : UserId}
    {toss : Except TossPaymentError TossPayment} {result : PaymentService.CancelResult}
    (h : PaymentService.cancelPayment db now k user toss = .ok (result, db')) :
    LogsGrow db db' := by
  obtain ⟨payment, order, data, row, _, _, _, _, _, _, hcase⟩ := cancelPayment_ok h
  cases hcase with
  | refundOnly _ hsaved => exact (LogsGrow.save hsaved).trans (.log _ _ _ _)
  | canceled hpaid hsaved hrefunded hdeducted =>
    rename_i saved refunded deducted
    have hrefund : LogsGrow saved refunded := by
      rw [hrefunded]
      dsimp only
      split
      · exact ⟨_, rfl⟩
      · exact .of_eq rfl
    have hdeduct : LogsGrow refunded deducted := (deductEarned_ok hdeducted).logs
    exact (((LogsGrow.save hsaved).trans hrefund).trans hdeduct).trans (.log _ _ _ _)

theorem PaymentService.cancelVirtualAccount_logs {db db' : Db} {now : Time} {o : OrderId}
    {user : UserId} {toss : Except TossPaymentError TossPayment}
    (h : PaymentService.cancelVirtualAccountBeforeDeposit db now o user toss = .ok db') :
    LogsGrow db db' := by
  obtain ⟨k, payment, data, row, saved, _, _, _, hsaved, order, hcancels⟩ :=
    cancelVirtualAccountBeforeDeposit_ok h
  exact ((LogsGrow.save hsaved).trans (.log _ k .cancel _)).trans (.of_eq hcancels.logs)

theorem PaymentTasks.callTossConfirmApi_logs (db : Db) (o : OrderId) (amount : Int)
    (id : TossOrderId) (k : Nat) (user : UserId) (answer : PaymentTasks.TossAnswer)
    (retriesLeft published : Bool) : LogsGrow db
      (callTossConfirmApi db o amount id k user answer retriesLeft published).db := by
  obtain ⟨logged, hmoves, _, hdb | ⟨_, hdb⟩⟩ :=
    callTossConfirmApi_commits db o amount id k user answer retriesLeft published
  · rw [hdb]
    exact hmoves.logs
  · rw [hdb]
    exact hmoves.logs

theorem PaymentTasks.finalizePaymentConfirm_logs {db : Db} {now : Time} {response : TossPayment}
    {k : Nat} {user : UserId} {published : Bool} {out : Outcome PaymentTasks.FinalizeResult}
    (h : finalizePaymentConfirm db now response k user published = .ok out) :
    LogsGrow db out.db := by
  obtain ⟨payment, _, hcase⟩ := finalizePaymentConfirm_ok h
  cases hcase with
  | alreadyProcessed _ => exact .refl db
  | waiting _ _ _ hsaved => exact (LogsGrow.save hsaved).trans (.log _ _ _ _)
  | orderCanceled _ _ _ _ _ hsaved => exact (LogsGrow.save hsaved).trans (.log _ _ _ _)
  | success _ _ _ _ _ hsaved => exact (LogsGrow.save hsaved).trans ⟨_, rfl⟩

namespace TossWebhookService

theorem handlePaymentDone_logs {db db' : Db} {now : Time} {event : TossPayment}
    {result : DoneResult} (h : handlePaymentDone db now event = .ok (result, db')) :
    LogsGrow db db' := by
  rcases handlePaymentDone_ok h with ⟨rfl, _⟩ | ⟨id, k, payment, _, _, hcase⟩
  · exact .refl db'
  · cases hcase with
    | alreadyPaid _ => exact .refl db
    | chargedButFailed _ => exact .log _ _ _ _
    | finalState _ => exact .refl db
    | depositAfterExpiry _ => exact .log _ _ _ _
    | chargedOnCanceledOrder _ _ _ _ hsaved =>
      exact (LogsGrow.save hsaved).trans ⟨_, by simp; rfl⟩
    | orderAlreadyPaid _ _ _ _ hsaved => exact (LogsGrow.save hsaved).trans (.of_eq (by simp))
    | settled _ _ _ _ _ hsaved hearned =>
      refine ((LogsGrow.save hsaved).trans hearned.logs).trans ⟨_, by simp; rfl⟩

theorem handlePaymentCanceled_logs {db db' : Db} {now : Time} {event : TossPayment}
    {result : CanceledResult} (h : handlePaymentCanceled db now event = .ok (result, db')) :
    LogsGrow db db' := by
  rcases handlePaymentCanceled_ok h with rfl |
    ⟨id, k, payment, order, row, _, _, _, _, _, _, hcase⟩
  · exact .refl db'
  · cases hcase with
    | orderAlreadyCanceled _ hsaved => exact (LogsGrow.save hsaved).trans (.of_eq (by simp))
    | canceled _ hsaved =>
      rename_i saved _
      have hrestored := (restoreOnCanceled_tables saved order).2.2.2
      have hsettled : LogsGrow (restoreOnCanceled saved order) _ :=
        (movesPoints_settleOnCanceled (restoreOnCanceled saved order) now k payment.order
          order).logs
      exact (((LogsGrow.save hsaved).trans (.of_eq hrestored)).trans hsettled).trans
        ⟨_, by simp; rfl⟩

theorem handleWaitingForDeposit_logs {db db' : Db} {now : Time} {event : TossPayment}
    {result : WaitingResult} (h : handleWaitingForDeposit db now event = .ok (result, db')) :
    LogsGrow db db' := by
  rcases handleWaitingForDeposit_ok h with rfl |
    ⟨id, k, payment, order, row, _, _, _, _, _, _, hcase⟩
  · exact .refl db'
  · cases hcase with
    | depositReverted _ hsaved =>
      have hreverted : LogsGrow db _ := (revertDeposit_tables db now k payment.order order).2.2
      exact hreverted.trans (.save hsaved)
    | issued _ hsaved => exact (LogsGrow.log db k .webhook _).trans (.save hsaved)

end TossWebhookService

namespace World

variable {w : World} {now : Time}

theorem run_logs {e : Event} (he : ∀ n method key, e ≠ .createRequest n method key) :
    LogsGrow w.db (w.run now e).db := by
  refine run_of (P := LogsGrow w.db) (.refl w.db) fun db hcommits => ?_
  cases id hcommits with
  | placeOrder hread hcall =>
    obtain ⟨order, hplaces⟩ := OrderService.placeOrder_ok hcall
    exact .of_eq hplaces.logs
  | @republishStalled n giveUp published seen hread =>
    rcases (OrderTasks.republishLoop_one now giveUp (fun _ => published) w.db seen.1 seen.2).1 with
      hdb | ⟨order, habandons⟩
    · exact .of_eq (congrArg Db.logs hdb)
    · exact .of_eq habandons.logs
  | cancelOrder hcall =>
    obtain ⟨order, hcancels⟩ := OrderService.cancelOrder_ok hcall
    exact .of_eq hcancels.logs
  | cancelByCustomer hread hcall =>
    rcases PaymentService.cancelByCustomer_ok hcall with ⟨k, p, out, _, hcancel⟩ | hcancel | hcancel
    · exact PaymentService.cancelPayment_logs hcancel
    · exact PaymentService.cancelVirtualAccount_logs hcancel
    · obtain ⟨order, hcancels⟩ := OrderService.cancelOrder_ok hcancel
      exact .of_eq hcancels.logs
  | expireOrder hcall =>
    rcases OrderTasks.expireOrder_ok hcall with hdb | ⟨order, hexpires⟩
    · exact .of_eq (congrArg Db.logs hdb)
    · exact hexpires.logs
  | createRequest hread hcall => exact absurd rfl (he _ _ _)
  | confirmAsync hread hcall =>
    obtain ⟨_, saved, _, _, _, hsaved, hdb, _⟩ := PaymentService.confirmPaymentAsync_ok hcall
    rw [← hdb] at hsaved
    exact .save hsaved
  | confirmSync hcall =>
    obtain ⟨payment, data, _, _, _, hcase⟩ := PaymentService.confirmPaymentSync_ok hcall
    cases hcase with
    | waiting _ hsaved => exact (LogsGrow.save hsaved).trans (.log _ _ _ _)
    | paid _ _ hsaved hearned =>
      exact ((LogsGrow.save hsaved).trans hearned.logs).trans (.log _ _ _ _)
  | processOrder hmsg hcall =>
    obtain ⟨order, _, hdb | ⟨_, cart, products, items, shortage, _, _, hcase⟩⟩ :=
      OrderTasks.processOrderHeavyTasks_ok hcall
    · exact .of_eq (congrArg Db.logs hdb)
    · cases hcase with
      | failed _ _ _ _ hlogs => exact .of_eq hlogs
      | confirmed _ _ _ hlogs => exact .of_eq hlogs
  | confirm hmsg => exact PaymentTasks.callTossConfirmApi_logs _ _ _ _ _ _ _ _ _
  | finalize hmsg hcall => exact PaymentTasks.finalizePaymentConfirm_logs hcall
  | alertFinalize hmsg => exact (PaymentTasks.alertFinalizeExhausted_movesPoints _ _).logs
  | @rollback n d o reason hmsg =>
    rcases PaymentTasks.rollbackPaymentFailure_cases w.db now o reason with hdb | ⟨order, hrolls⟩
    · exact .of_eq (congrArg Db.logs hdb)
    · exact hrolls.logs
  | addPoints hmsg hcall => exact (PointTasks.addPointsAfterPayment_ok hcall).logs
  | @reconcile stall lookup => exact (PaymentTasks.reconcileLoop_spec lookup _ w.db).1.logs
  | failView | failCallback | failWebhook =>
    obtain ⟨seen, row, hfails⟩ := savesFailure hcommits
    exact hfails.logs
  | webhookDone hcall => exact TossWebhookService.handlePaymentDone_logs hcall
  | webhookCanceled hcall => exact TossWebhookService.handlePaymentCanceled_logs hcall
  | webhookWaiting hcall => exact TossWebhookService.handleWaitingForDeposit_logs hcall
  | cancelPayment hcall => exact PaymentService.cancelPayment_logs hcall
  | cancelVirtualAccount hcall => exact PaymentService.cancelVirtualAccount_logs hcall
  | completePointsOnly hread hcall =>
    obtain ⟨_, _, _, _, hp⟩ := PaymentService.completePointsOnlyPayment_ok hcall
    exact hp.logs
  | completeRefund hread hcall =>
    obtain ⟨r, order, hcompletes⟩ := ReturnService.completeRefund_ok hcall
    exact hcompletes.logs

end World

end Shopping
