import Shopping.Lib.Idempotent
import Shopping.Lib.Run
import Shopping.System.Refunds

/-!
# Refunds that are tried again

`complete_refund` asks the provider to cancel a part of the payment before it
writes, under the key `return-refund-<id>`.  What it writes can still be rolled
back, and then the return is completed by a later call, for which the provider
replays its first response.

`RefundDesk` is the database and the provider's responses, for any order of
calls.  A call computes the cash of its return anew, from what came back of the
order until then, so a replay can be for another amount than the call records:
`carries` says when.
-/

namespace Shopping

open ReturnService

/-! ## The provider -/

/-- A partial cancellation.  `goodsBefore` is what had come back of the order;
the provider does not see it. -/
structure CancelRequest where
  order : OrderId
  amount : Int
  goodsBefore : Int
  deriving DecidableEq, Repr

/-- The response to one key; the key is the return. -/
abbrev CancelResponse := Response Nat CancelRequest (Except TossPaymentError TossPayment)

/-- The provider moved the money. -/
def hasMoved (x : CancelResponse) : Bool := x.reply.toBool

/-- What the provider gave back under the keys of the order. -/
def movedOf (o : OrderId) (responses : List CancelResponse) : Int :=
  ((responses.filter fun x => decide (x.request.order = o) && hasMoved x).map
    fun x => x.request.amount).sum

/-- What the provider gave back for a return, one amount for each time. -/
def movedFor (id : Nat) (responses : List CancelResponse) : List Int :=
  (responses.filter fun x => decide (x.key = id) && hasMoved x).map fun x => x.request.amount

/-! ## The desk -/

/-- A return that was completed, with the `cash` of its log. -/
structure CompletedReturn where
  id : Nat
  order : OrderId
  cash : Int
  deriving DecidableEq, Repr

structure RefundDesk where
  db : Db
  responses : List CancelResponse := []
  completed : List CompletedReturn := []

/-- A call of `complete_refund`.  `reply` is what the provider answers if it has
not answered before; what a `lost` call wrote is rolled back. -/
structure RefundCall where
  now : Time
  id : Nat
  reply : Except TossPaymentError TossPayment
  lost : Bool := false

/-- Steps 1 to 3 of `complete_refund`. -/
def checkRefund (db : Db) (now : Time) (id : Nat) :
    Except ShopError (Return × Order × RefundSplit) :=
  match db.returns.get? id with
  | none => .error (.db .doesNotExist)
  | some r =>
    if r.type ≠ .refund then .error (.valueError "환불 타입에서만 사용 가능합니다.")
    else if r.status ≠ .received then
      .error (.valueError "반품 도착 상태에서만 환불 처리할 수 있습니다.")
    else if isSettled db id then .error (.valueError "이미 환불 처리된 반품입니다.")
    else do
      let order ← db.getOrder r.order
      let s := refundSplit db order r
      checkEarned db now r.user s
      checkBalance (db.payments.ofOrder? r.order) s.cashBack
      .ok (r, order, s)

/-- Steps 4 to 7 of `complete_refund`. -/
def settleRefund (db : Db) (now : Time) (id : Nat) (r : Return) (order : Order) (s : RefundSplit)
    (toss : Except TossPaymentError TossPayment) : Except ShopError (RefundSplit × Db) := do
  let paid ← refundCash db now id r s.cashBack toss
  let restocked := { paid with products := restockReturned paid.products r.items }
  let repaid :=
    if 0 < s.pointsBack then
      restocked.refundUsedPoints now r.user s.pointsBack r.order .cancelRefund (some id)
    else restocked
  let reclaimed ← reclaimShare repaid now id r s.earnedBack
  .ok (s, finishReturn reclaimed now id r.order order)

namespace RefundDesk

/-- The provider's response to a call whose checks passed, and its log. -/
def ask (w : RefundDesk) (c : RefundCall) (r : Return) (s : RefundSplit) :
    CancelResponse × List CancelResponse :=
  serve w.responses c.id ⟨r.order, s.cashBack, completedGoods w.db r.order⟩ c.reply

/-- The provider's reply and log, for a call that may have no cash to ask for. -/
def provider (w : RefundDesk) (c : RefundCall) (r : Return) (s : RefundSplit) :
    Except TossPaymentError TossPayment × List CancelResponse :=
  if s.cashBack ≤ 0 then (c.reply, w.responses)
  else ((w.ask c r s).1.reply, (w.ask c r s).2)

/-- One call of `complete_refund`. -/
def call (w : RefundDesk) (c : RefundCall) : RefundDesk :=
  match checkRefund w.db c.now c.id with
  | .error _ => w
  | .ok (r, _, s) =>
    let answered := w.provider c r s
    match completeRefund w.db c.now c.id answered.1 with
    | .error _ => { w with responses := answered.2 }
    | .ok (done, db) =>
      if c.lost then { w with responses := answered.2 }
      else
        { db := db, responses := answered.2
          completed := w.completed ++ [⟨c.id, r.order, done.cashBack⟩] }

def step (w : RefundDesk) (c : RefundCall) : Option RefundDesk := some (w.call c)

/-! ## When a retry records what was moved -/

/-- What came back of the order leaves the return the share of the used points
that it had with `goodsBefore`. -/
def SameShare (order : Order) (goods goodsBefore goodsNow : Int) : Prop :=
  goodsNow = goodsBefore ∨
    Amounts order ∧ Exact order goodsBefore goods ∧ Exact order goodsNow goods ∧
      (carries order goodsBefore goods ↔ carries order goodsNow goods)

/-- A call for a return for which the provider moved money already finds the
return with the share that it had then. -/
def Retries (w : RefundDesk) (c : RefundCall) : Prop :=
  ∀ x r order, firstResponse? w.responses c.id = some x → hasMoved x = true →
    w.db.returns.get? c.id = some r → w.db.orders.get? r.order = some order →
      SameShare order r.refundAmount x.request.goodsBefore (completedGoods w.db r.order)

end RefundDesk

/-! ## One call -/

/-- The cash of a return, when goods of the value `goodsBefore` came back
before it. -/
def cashShare (order : Order) (r : Return) (goodsBefore : Int) : Int :=
  (takeFee (r.refundAmount - pointsShare order goodsBefore r.refundAmount - r.returnShippingFee)
    (pointsShare order goodsBefore r.refundAmount)).1

theorem refundSplit_cashBack (db : Db) (order : Order) (r : Return) :
    (refundSplit db order r).cashBack = cashShare order r (completedGoods db r.order) := rfl

/-- No return takes cash from the customer. -/
theorem cashShare_nonneg (order : Order) (r : Return) (goodsBefore : Int) :
    0 ≤ cashShare order r goodsBefore := by
  unfold cashShare takeFee
  split
  · exact le_refl 0
  · rename_i h
    exact not_lt.mp h

/-- The cash of the return is what it was. -/
theorem RefundDesk.SameShare.cashShare_eq {order : Order} {r : Return} {before now : Int}
    (h : SameShare order r.refundAmount before now) :
    cashShare order r now = cashShare order r before := by
  have hpoints :
      pointsShare order now r.refundAmount = pointsShare order before r.refundAmount := by
    rcases h with h | ⟨hamounts, hbefore, hnow, hcarry⟩
    · rw [h]
    · exact (pointsShare_eq_iff hamounts hnow hbefore).mpr hcarry.symm
  unfold cashShare
  rw [hpoints]

/-- The checks of a call that passed, with what they found. -/
structure Checked (db : Db) (id : Nat) (r : Return) (order : Order) (s : RefundSplit) : Prop where
  found : db.returns.get? id = some r
  type : r.type = .refund
  received : r.status = .received
  orderFound : db.orders.get? r.order = some order
  split : s = refundSplit db order r

theorem checkRefund_ok {db : Db} {now : Time} {id : Nat} {r : Return} {order : Order}
    {s : RefundSplit} (h : checkRefund db now id = .ok (r, order, s)) :
    Checked db id r order s := by
  unfold checkRefund at h
  split at h
  · cases h
  · rename_i r' hget
    split at h
    · cases h
    · rename_i htype
      split at h
      · cases h
      · rename_i hstatus
        split at h
        · cases h
        · obtain ⟨order', horder, h⟩ := bind_eq_ok.mp h
          obtain ⟨_, _, h⟩ := bind_eq_ok.mp h
          obtain ⟨_, _, h⟩ := bind_eq_ok.mp h
          cases h
          exact ⟨hget, not_not.mp htype, not_not.mp hstatus, Db.getOrder_eq_ok.mp horder, rfl⟩

/-- `complete_refund` makes its checks first. -/
theorem completeRefund_eq (db : Db) (now : Time) (id : Nat)
    (toss : Except TossPaymentError TossPayment) : completeRefund db now id toss
      = checkRefund db now id >>= fun x => settleRefund db now id x.1 x.2.1 x.2.2 toss := by
  unfold completeRefund checkRefund
  cases db.returns.get? id with
  | none => rfl
  | some r =>
    dsimp only
    split
    · rfl
    split
    · rfl
    split
    · rfl
    cases db.getOrder r.order with
    | error _ => rfl
    | ok order =>
      simp only [ok_bind]
      cases checkEarned db now r.user (refundSplit db order r) with
      | error _ => rfl
      | ok _ =>
        simp only [ok_bind]
        cases checkBalance (db.payments.ofOrder? r.order) (refundSplit db order r).cashBack with
        | error _ => rfl
        | ok _ => rfl

/-- A completed return, with the checks that it passed. -/
theorem Checked.completes {db db' : Db} {now : Time} {id : Nat} {r : Return} {order : Order}
    {s done : RefundSplit} {toss : Except TossPaymentError TossPayment}
    (h : Checked db id r order s) (hdone : completeRefund db now id toss = .ok (done, db')) :
    done = s ∧ CompletesReturn db now id r order s db' := by
  obtain ⟨r', order', hc⟩ := completeRefund_ok hdone
  have hr := hc.found
  rw [h.found] at hr
  cases hr
  have ho := hc.orderFound
  rw [h.orderFound] at ho
  cases ho
  have hs : done = s := hc.split.trans h.split.symm
  rw [← hs]
  exact ⟨rfl, hc⟩

/-- Cash is given back only where the provider answered with it. -/
theorem toss_of_completeRefund {db db' : Db} {now : Time} {id : Nat} {r : Return} {order : Order}
    {s done : RefundSplit} {toss : Except TossPaymentError TossPayment}
    (hcheck : checkRefund db now id = .ok (r, order, s))
    (h : completeRefund db now id toss = .ok (done, db')) (hcash : 0 < s.cashBack) :
    toss.toBool = true := by
  rw [completeRefund_eq, hcheck, ok_bind] at h
  simp only [settleRefund, bind_eq_ok] at h
  obtain ⟨paid, hpaid, _⟩ := h
  unfold refundCash at hpaid
  rw [if_neg (not_le.mpr hcash)] at hpaid
  cases toss with
  | error e =>
    cases hof : db.payments.ofOrder? r.order with
    | none =>
      rw [hof] at hpaid
      cases hpaid
    | some e =>
      rw [hof] at hpaid
      cases hpaid
  | ok data => rfl

/-- The canceled amount of the payment of the order. -/
def canceledOf (db : Db) (o : OrderId) : Int :=
  match db.payments.ofOrder? o with
  | none => 0
  | some (_, p) => p.canceledAmount

/-- A completed return adds its cash to the canceled amount of its order. -/
theorem canceledOf_complete {db db' : Db} {now : Time} {id : Nat} {r : Return} {order : Order}
    {s : RefundSplit} (h : CompletesReturn db now id r order s db') (o : OrderId) :
    canceledOf db' o = canceledOf db o + if r.order = o then s.cashBack else 0 := by
  have hcash : 0 ≤ s.cashBack := by
    rw [h.split, refundSplit_cashBack]
    exact cashShare_nonneg _ _ _
  unfold canceledOf
  by_cases ho : r.order = o
  · subst ho
    rw [if_pos rfl]
    cases hof : db.payments.ofOrder? r.order with
    | none =>
      have hbalance := h.balance
      rw [hof] at hbalance
      unfold checkBalance at hbalance
      split at hbalance
      · rw [h.payments.none hof]
        dsimp only
        omega
      · cases hbalance
    | some e =>
      obtain ⟨k, p⟩ := e
      obtain ⟨q, hq, _, hcanceled⟩ := h.payments.payment hof
      rw [hq]
      dsimp only
      rw [hcanceled, max_eq_left hcash]
  · rw [if_neg ho, h.payments.frame (Ne.symm ho), add_zero]

/-- The rows of the returns after one of them was completed. -/
theorem ReturnService.CompletesReturn.get? {db db' : Db} {now : Time} {id : Nat} {r : Return}
    {order : Order} {s : RefundSplit} (h : CompletesReturn db now id r order s db') (j : Nat) :
    db'.returns.get? j = if j = id then some (markCompleted now r) else db.returns.get? j := by
  rw [h.returns, Table.get?_modify]
  split
  · rename_i hj
    rw [hj, h.found]
    rfl
  · rfl

/-- The amounts of an order are what they were. -/
theorem ReturnService.CompletesReturn.order {db db' : Db} {now : Time} {id : Nat} {r : Return}
    {order : Order} {s : RefundSplit} (h : CompletesReturn db now id r order s db')
    {o : OrderId} {x : Order} (hx : db.orders.get? o = some x) :
    ∃ y, db'.orders.get? o = some y ∧ ∀ q p, cashShare y q p = cashShare x q p := by
  rcases h.orders with horders | horders
  · exact ⟨x, by rw [horders, hx], fun _ _ => rfl⟩
  · rw [horders]
    exact Table.modify_keeps hx (fun _ _ => rfl) _ fun _ _ => rfl

/-! ## What the records say -/

/-- The cash in the logs of the completed returns of the order. -/
def recordedOf (o : OrderId) (completed : List CompletedReturn) : Int :=
  ((completed.filter fun c => decide (c.order = o)).map CompletedReturn.cash).sum

@[simp] theorem recordedOf_snoc (o : OrderId) (completed : List CompletedReturn)
    (c : CompletedReturn) : recordedOf o (completed ++ [c])
      = recordedOf o completed + if c.order = o then c.cash else 0 := by
  unfold recordedOf
  by_cases ho : c.order = o
  · simp [ho]
  · simp [ho]

/-- The provider gave back `c` under its key. -/
def PaidUnderKey (responses : List CancelResponse) (c : CompletedReturn) : Prop :=
  ∃ x ∈ responses, hasMoved x = true ∧ x.key = c.id ∧ x.request.order = c.order ∧
    x.request.amount = c.cash

/-- The return of a response that moved money: it still waits, and its cash was
computed from what had come back then, or it was completed with it. -/
inductive Answered (w : RefundDesk) (x : CancelResponse) (r : Return) : Prop where
  | waits {order : Order} (hstatus : r.status = .received)
      (horder : w.db.orders.get? r.order = some order)
      (hcash : x.request.amount = cashShare order r x.request.goodsBefore) : Answered w x r
  | completed (hstatus : r.status = .completed)
      (hcash : ⟨x.key, x.request.order, x.request.amount⟩ ∈ w.completed) : Answered w x r

/-- The invariant of the desk.  What is recorded was moved, and what was moved
is recorded once its return is completed. -/
structure Recorded (w₀ w : RefundDesk) : Prop where
  keys : (w.responses.map Response.key).Nodup
  ids : (w.completed.map CompletedReturn.id).Nodup
  canceled : ∀ o, canceledOf w.db o = canceledOf w₀.db o + recordedOf o w.completed
  done : ∀ c ∈ w.completed, 0 ≤ c.cash ∧
    ∃ r, w.db.returns.get? c.id = some r ∧ r.order = c.order ∧ r.status = .completed
  rows : ∀ id r₀, w₀.db.returns.get? id = some r₀ → ∃ r, w.db.returns.get? id = some r ∧
    r.order = r₀.order ∧ r.type = r₀.type ∧
    (r.status = r₀.status ∨ id ∈ w.completed.map CompletedReturn.id)
  paid : ∀ c ∈ w.completed, 0 < c.cash → PaidUnderKey w.responses c
  moved : ∀ x ∈ w.responses, hasMoved x = true → 0 < x.request.amount ∧
    ∃ r, w.db.returns.get? x.key = some r ∧ r.order = x.request.order ∧ r.type = .refund ∧
      Answered w x r

theorem Recorded.start (w₀ : RefundDesk) (hresponses : w₀.responses = [])
    (hcompleted : w₀.completed = []) : Recorded w₀ w₀ where
  keys := by simp [hresponses]
  ids := by simp [hcompleted]
  canceled o := by simp [hcompleted, recordedOf]
  done c hc := by simp [hcompleted] at hc
  rows id r₀ hr := ⟨r₀, hr, rfl, rfl, Or.inl rfl⟩
  paid c hc := by simp [hcompleted] at hc
  moved x hx := by simp [hresponses] at hx

/-- What the provider has for a return whose call passed the checks and got
`reply`. -/
structure Settles (responses : List CancelResponse) (reply : Except TossPaymentError TossPayment)
    (id : Nat) (r : Return) (s : RefundSplit) : Prop where
  amounts : ∀ x ∈ responses, hasMoved x = true → x.key = id → x.request.amount = s.cashBack
  paid : 0 < s.cashBack → reply.toBool = true → PaidUnderKey responses ⟨id, r.order, s.cashBack⟩

namespace Recorded

variable {w₀ w : RefundDesk} {c : RefundCall} {r : Return} {order : Order} {s : RefundSplit}

/-- Money that was moved for a return that still waits is the cash of it, under
the condition of a retry. -/
theorem amount_eq (h : Recorded w₀ w) (hok : w.Retries c) (hc : Checked w.db c.id r order s)
    {x : CancelResponse} (hx : x ∈ w.responses) (hmoved : hasMoved x = true) (hkey : x.key = c.id) :
    x.request.amount = s.cashBack := by
  obtain ⟨_, r', hr', _, _, hanswered⟩ := h.moved x hx hmoved
  rw [hkey, hc.found] at hr'
  cases hr'
  cases hanswered with
  | waits hstatus horder hcash =>
    rename_i order'
    rw [hc.orderFound] at horder
    cases horder
    have hfirst : firstResponse? w.responses c.id = some x := by
      rw [← hkey]
      exact firstResponse?_of_mem h.keys hx
    have hsame := hok x r order hfirst hmoved hc.found hc.orderFound
    rw [hc.split, refundSplit_cashBack, hsame.cashShare_eq]
    exact hcash
  | completed hstatus hcash =>
    rw [hc.received] at hstatus
    cases hstatus

/-- After the provider was asked, the records are right and it has settled with
the return. -/
theorem ask (h : Recorded w₀ w) (hok : w.Retries c) (hc : Checked w.db c.id r order s) :
    Recorded w₀ { w with responses := (w.provider c r s).2 } ∧
      Settles (w.provider c r s).2 (w.provider c r s).1 c.id r s := by
  unfold RefundDesk.provider
  by_cases hcash : s.cashBack ≤ 0
  · rw [if_pos hcash]
    refine ⟨h, fun x hx hmoved hkey => h.amount_eq hok hc hx hmoved hkey, fun hpos => ?_⟩
    omega
  · rw [if_neg hcash]
    dsimp only
    unfold RefundDesk.ask
    rcases serve_spec w.responses c.id ⟨r.order, s.cashBack, completedGoods w.db r.order⟩ c.reply
      with ⟨x, hfirst, hserve⟩ | ⟨hnew, hserve⟩
    · -- The provider replays its response.
      obtain ⟨hx, hkey⟩ := firstResponse?_some hfirst
      rw [hserve]
      refine ⟨h, fun y hy hmoved hy' => h.amount_eq hok hc hy hmoved hy', fun _ hreply => ?_⟩
      obtain ⟨_, r', hr', hro, _⟩ := h.moved x hx hreply
      rw [hkey, hc.found] at hr'
      cases hr'
      exact ⟨x, hx, hreply, hkey, hro.symm, h.amount_eq hok hc hx hreply hkey⟩
    · -- The first request under this key.
      have hnodup := serve_nodup (k := c.id) h.keys
        (⟨r.order, s.cashBack, completedGoods w.db r.order⟩ : CancelRequest) c.reply
      rw [hserve] at hnodup ⊢
      refine ⟨⟨hnodup, h.ids, h.canceled, h.done, h.rows, fun d hd hpos => ?_,
        fun y hy hmoved => ?_⟩, fun y hy hmoved hkey => ?_, fun _ hreply => ?_⟩
      · obtain ⟨y, hy, hrest⟩ := h.paid d hd hpos
        exact ⟨y, List.mem_append_left _ hy, hrest⟩
      · rcases List.mem_append.mp hy with hy | hy
        · obtain ⟨hpos, r', hr', hro, ht, hanswered⟩ := h.moved y hy hmoved
          refine ⟨hpos, r', hr', hro, ht, ?_⟩
          cases hanswered with
          | waits hstatus horder hamount => exact .waits hstatus horder hamount
          | completed hstatus hamount => exact .completed hstatus hamount
        · cases List.mem_singleton.mp hy
          refine ⟨not_le.mp hcash, r, hc.found, rfl, hc.type, ?_⟩
          refine .waits hc.received hc.orderFound ?_
          show s.cashBack = _
          rw [hc.split, refundSplit_cashBack]
      · rcases List.mem_append.mp hy with hy | hy
        · exact absurd hkey (firstResponse?_none hnew y hy)
        · cases List.mem_singleton.mp hy
          rfl
      · exact ⟨_, List.mem_append_right _ (List.mem_singleton_self _), hreply, rfl, rfl, rfl⟩

/-- A call that commits keeps the records right. -/
theorem commit (h : Recorded w₀ w) {reply : Except TossPaymentError TossPayment} {db' : Db}
    (hsettles : Settles w.responses reply c.id r s) (hreply : 0 < s.cashBack → reply.toBool = true)
    (hc : CompletesReturn w.db c.now c.id r order s db') :
    Recorded w₀ { w with db := db', completed := w.completed ++ [⟨c.id, r.order, s.cashBack⟩] } := by
  have hnew : c.id ∉ w.completed.map CompletedReturn.id := by
    intro hmem
    obtain ⟨d, hd, hid⟩ := List.mem_map.mp hmem
    obtain ⟨_, r', hr', _, hstatus⟩ := h.done d hd
    rw [hid, hc.found] at hr'
    cases hr'
    rw [hc.received] at hstatus
    cases hstatus
  have hcash : 0 ≤ s.cashBack := by
    rw [hc.split, refundSplit_cashBack]
    exact cashShare_nonneg _ _ _
  refine ⟨h.keys, ?_, fun o => ?_, fun d hd => ?_, fun id r₀ hr₀ => ?_, fun d hd hpos => ?_,
    fun x hx hmoved => ?_⟩
  · rw [List.map_append, List.nodup_append]
    refine ⟨h.ids, List.nodup_cons.mpr ⟨List.not_mem_nil, List.nodup_nil⟩, ?_⟩
    intro a ha b hb hab
    have hb' : b = c.id := List.mem_singleton.mp hb
    rw [hab, hb'] at ha
    exact hnew ha
  · rw [recordedOf_snoc]
    show canceledOf db' o = _
    rw [canceledOf_complete hc, h.canceled o, add_assoc]
  · show 0 ≤ d.cash ∧ ∃ q, db'.returns.get? d.id = some q ∧ q.order = d.order ∧
      q.status = .completed
    rw [hc.get?]
    rcases List.mem_append.mp hd with hd | hd
    · obtain ⟨hnn, q, hq, hqo, hstatus⟩ := h.done d hd
      rw [if_neg (fun hid => hnew (List.mem_map.mpr ⟨d, hd, hid⟩))]
      exact ⟨hnn, q, hq, hqo, hstatus⟩
    · cases List.mem_singleton.mp hd
      rw [if_pos rfl]
      exact ⟨hcash, _, rfl, rfl, rfl⟩
  · obtain ⟨q, hq, hqo, hqt, hstatus⟩ := h.rows id r₀ hr₀
    show ∃ q, db'.returns.get? id = some q ∧ _
    rw [hc.get?, List.map_append]
    split
    · rename_i hid
      rw [hid, hc.found] at hq
      cases hq
      exact ⟨_, rfl, hqo, hqt, Or.inr (List.mem_append_right _ (List.mem_singleton.mpr hid))⟩
    · exact ⟨q, hq, hqo, hqt, hstatus.imp_right (List.mem_append_left _)⟩
  · rcases List.mem_append.mp hd with hd | hd
    · exact h.paid d hd hpos
    · cases List.mem_singleton.mp hd
      exact hsettles.paid hpos (hreply hpos)
  · obtain ⟨hpos, q, hq, hqo, ht, hanswered⟩ := h.moved x hx hmoved
    refine ⟨hpos, ?_⟩
    show ∃ q, db'.returns.get? x.key = some q ∧ _
    rw [hc.get?]
    by_cases hkey : x.key = c.id
    · rw [hkey, hc.found] at hq
      cases hq
      rw [if_pos hkey]
      refine ⟨_, rfl, hqo, ht, .completed rfl ?_⟩
      rw [hkey, ← hqo, hsettles.amounts x hx hmoved hkey]
      exact List.mem_append_right _ (List.mem_singleton_self _)
    · rw [if_neg hkey]
      refine ⟨q, hq, hqo, ht, ?_⟩
      cases hanswered with
      | waits hstatus horder hamount =>
        obtain ⟨y, hy, hsame⟩ := hc.order horder
        exact .waits hstatus hy (by rw [hsame]; exact hamount)
      | completed hstatus hamount => exact .completed hstatus (List.mem_append_left _ hamount)

/-- Every call keeps the records right. -/
theorem call (h : Recorded w₀ w) (hok : w.Retries c) : Recorded w₀ (w.call c) := by
  unfold RefundDesk.call
  cases hcheck : checkRefund w.db c.now c.id with
  | error e => exact h
  | ok x =>
    obtain ⟨r, order, s⟩ := x
    have hc := checkRefund_ok hcheck
    obtain ⟨hasked, hsettles⟩ := h.ask hok hc
    dsimp only
    cases hdone : completeRefund w.db c.now c.id (w.provider c r s).1 with
    | error e => exact hasked
    | ok y =>
      obtain ⟨done, db'⟩ := y
      dsimp only
      by_cases hlost : c.lost = true
      · rw [if_pos hlost]
        exact hasked
      · rw [if_neg hlost]
        obtain ⟨rfl, hcompletes⟩ := hc.completes hdone
        exact hasked.commit hsettles (toss_of_completeRefund hcheck hdone) hcompletes

end Recorded

/-! ## Every return refunded once -/

namespace Recorded

variable {w₀ w : RefundDesk} {o : OrderId}

/-- Once every refund return of the order is completed, the money that was moved
for it is the cash of its records. -/
theorem moved_eq_recorded (h : Recorded w₀ w)
    (hall : ∀ id r, w.db.returns.get? id = some r → r.order = o → r.type = .refund →
      r.status = .completed) : movedOf o w.responses = recordedOf o w.completed := by
  have hmoved : ∀ x ∈ w.responses, hasMoved x = true → x.request.order = o →
      ⟨x.key, o, x.request.amount⟩ ∈ w.completed ∧ 0 < x.request.amount := by
    intro x hx hm ho
    obtain ⟨hpos, r, hr, hro, ht, hanswered⟩ := h.moved x hx hm
    have hstatus := hall x.key r hr (hro.trans ho) ht
    cases hanswered with
    | waits hreceived =>
      rw [hreceived] at hstatus
      cases hstatus
    | completed _ hcash =>
      rw [ho] at hcash
      exact ⟨hcash, hpos⟩
  have hperm : ((w.responses.filter fun x => decide (x.request.order = o) && hasMoved x).map
        fun x => (x.key, x.request.amount)).Perm
      ((w.completed.filter fun c => decide (c.order = o) && decide (0 < c.cash)).map
        fun c => (c.id, c.cash)) := by
    have hkeys := (List.filter_sublist (l := w.responses)
      (p := fun x => decide (x.request.order = o) && hasMoved x)).map Response.key |>.nodup h.keys
    have hids := (List.filter_sublist (l := w.completed)
      (p := fun c => decide (c.order = o) && decide (0 < c.cash))).map CompletedReturn.id
      |>.nodup h.ids
    refine (List.perm_ext_iff_of_nodup (List.Nodup.of_map Prod.fst ?_)
      (List.Nodup.of_map Prod.fst ?_)).mpr fun a => ?_
    · rw [List.map_map]
      exact hkeys
    · rw [List.map_map]
      exact hids
    · simp only [List.mem_map, List.mem_filter, Bool.and_eq_true, decide_eq_true_eq]
      constructor
      · rintro ⟨x, ⟨hx, ho, hm⟩, rfl⟩
        obtain ⟨hcash, hpos⟩ := hmoved x hx hm ho
        exact ⟨_, ⟨hcash, rfl, hpos⟩, rfl⟩
      · rintro ⟨c, ⟨hc, ho, hpos⟩, rfl⟩
        obtain ⟨x, hx, hm, hkey, hxo, hamount⟩ := h.paid c hc hpos
        exact ⟨x, ⟨hx, hxo.trans ho, hm⟩, by rw [hkey, hamount]⟩
  have hsum := (hperm.map Prod.snd).sum_eq
  rw [List.map_map, List.map_map] at hsum
  -- A return without cash adds nothing to the records.
  have hpositive : ∀ l : List CompletedReturn, (∀ c ∈ l, 0 ≤ c.cash) →
      ((l.filter fun c => decide (c.order = o) && decide (0 < c.cash)).map CompletedReturn.cash).sum
        = recordedOf o l := by
    intro l
    induction l with
    | nil => intro _; rfl
    | cons c l ih =>
      intro hnn
      have hc := hnn c (List.mem_cons_self ..)
      have hrest := ih fun d hd => hnn d (List.mem_cons_of_mem c hd)
      unfold recordedOf at hrest ⊢
      by_cases ho : c.order = o
      · by_cases hpos : 0 < c.cash
        · simp [ho, hpos, hrest]
        · have hzero : c.cash = 0 := by omega
          simp [ho, hzero, hrest]
      · simp [ho, hrest]
  exact hsum.trans (hpositive w.completed fun c hc => (h.done c hc).1)

/-- A completed return was refunded its cash, once. -/
theorem movedFor_eq (h : Recorded w₀ w) {c : CompletedReturn} (hc : c ∈ w.completed) :
    movedFor c.id w.responses = if 0 < c.cash then [c.cash] else [] := by
  have hamount : ∀ x ∈ w.responses, hasMoved x = true → x.key = c.id →
      x.request.amount = c.cash ∧ 0 < c.cash := by
    intro x hx hm hkey
    obtain ⟨hpos, r, hr, _, _, hanswered⟩ := h.moved x hx hm
    obtain ⟨_, r', hr', _, hstatus⟩ := h.done c hc
    rw [hkey, hr'] at hr
    cases hr
    cases hanswered with
    | waits hreceived =>
      rw [hreceived] at hstatus
      cases hstatus
    | completed _ hcash =>
      have hsame : (⟨x.key, x.request.order, x.request.amount⟩ : CompletedReturn) = c :=
        List.inj_on_of_nodup_map h.ids hcash hc hkey
      rw [← hsame]
      exact ⟨rfl, hpos⟩
  unfold movedFor
  by_cases hpos : 0 < c.cash
  · obtain ⟨x, hx, hm, hkey, _, hcash⟩ := h.paid c hc hpos
    have honly : (w.responses.filter fun y => decide (y.key = c.id) && hasMoved y) = [x] := by
      have hnodup : (w.responses.filter fun y => decide (y.key = c.id) && hasMoved y).Nodup :=
        (List.Nodup.of_map _ h.keys).filter _
      refine List.perm_singleton.mp ((List.perm_ext_iff_of_nodup hnodup
        (List.nodup_cons.mpr ⟨List.not_mem_nil, List.nodup_nil⟩)).mpr fun y => ?_)
      simp only [List.mem_filter, Bool.and_eq_true, decide_eq_true_eq, List.mem_singleton]
      constructor
      · rintro ⟨hy, hykey, _⟩
        exact eq_of_key h.keys hy hx (hykey.trans hkey.symm)
      · rintro rfl
        exact ⟨hx, hkey, hm⟩
    rw [honly, if_pos hpos]
    exact congrArg (fun a => [a]) hcash
  · rw [if_neg hpos, List.map_eq_nil_iff, List.filter_eq_nil_iff]
    intro x hx hfound
    simp only [Bool.and_eq_true, decide_eq_true_eq] at hfound
    exact hpos (hamount x hx hfound.2 hfound.1).2

end Recorded

/-- The money of the returns of one order, from a desk to a later one. -/
structure RefundedOnce (w₀ w : RefundDesk) (o : OrderId) : Prop where
  total : movedOf o w.responses = canceledOf w.db o - canceledOf w₀.db o
  once : ∀ id r, w₀.db.returns.get? id = some r → r.order = o → r.type = .refund →
    r.status ≠ .completed → ∃ cash, ⟨id, o, cash⟩ ∈ w.completed ∧
      movedFor id w.responses = if 0 < cash then [cash] else []

/-- Once every refund return of the order is completed, the provider gave back
what the payment records, and the cash of each return once: in every run of
calls that are lost and tried again, if each retry finds its return with the
share of its first call. -/
theorem returns_refunded_once {w₀ w : RefundDesk} {cs : List RefundCall} {o : OrderId}
    (hresponses : w₀.responses = []) (hcompleted : w₀.completed = [])
    (h : Run RefundDesk.step RefundDesk.Retries w₀ cs w)
    (hall : ∀ id r, w.db.returns.get? id = some r → r.order = o → r.type = .refund →
      r.status = .completed) : RefundedOnce w₀ w o := by
  have hw : Recorded w₀ w := by
    refine h.invariant (Recorded w₀) (.start w₀ hresponses hcompleted) ?_
    intro t c u ht hok hstep
    cases hstep
    exact ht.call hok
  constructor
  · rw [hw.moved_eq_recorded hall, hw.canceled o, add_sub_cancel_left]
  · intro id r₀ hr₀ ho ht hopen
    obtain ⟨r, hr, hro, hrt, hstatus⟩ := hw.rows id r₀ hr₀
    have hdone := hall id r hr (hro.trans ho) (hrt.trans ht)
    rcases hstatus with hstatus | hmem
    · rw [← hstatus] at hopen
      exact absurd hdone hopen
    · obtain ⟨c, hc, rfl⟩ := List.mem_map.mp hmem
      obtain ⟨_, q, hq, hqo, _⟩ := hw.done c hc
      rw [hr] at hq
      cases hq
      have hco : c.order = o := hqo.symm.trans (hro.trans ho)
      refine ⟨c.cash, ?_, hw.movedFor_eq hc⟩
      rw [← hco]
      exact hc

/-! ## A call that is lost -/

/-- The first of the three returns, whose call is lost. -/
def lostCall : RefundCall := { now := 1, id := 1, reply := .ok {}, lost := true }

def callOf (id : Nat) : RefundCall := { now := 2, id := id, reply := .ok {} }

def refundDesk : RefundDesk := { db := returnShop.db }

/-- The rows of the desk, decided. -/
def allCompleted (db : Db) (o : OrderId) : Bool :=
  db.returns.rows.all fun x =>
    !(decide (x.2.order = o) && decide (x.2.type = .refund)) || decide (x.2.status = .completed)

theorem allCompleted_spec {db : Db} {o : OrderId} (h : allCompleted db o = true) :
    ∀ id r, db.returns.get? id = some r → r.order = o → r.type = .refund →
      r.status = .completed := by
  intro id r hr ho ht
  have hrow := List.all_eq_true.mp h (id, r) (Table.get?_eq_some.mp hr)
  simpa [ho, ht] using hrow

/-- The calls of a run that nothing else came back in between. -/
def retriesAtOnce (w : RefundDesk) (c : RefundCall) : Bool :=
  (firstResponse? w.responses c.id).all fun x =>
    (w.db.returns.get? c.id).all fun r =>
      decide (completedGoods w.db r.order = x.request.goodsBefore)

/-- A retry before anything else of the order came back is right. -/
theorem retries_of_atOnce {w : RefundDesk} {c : RefundCall} (h : retriesAtOnce w c = true) :
    w.Retries c := by
  intro x r order hx _ hr _
  unfold retriesAtOnce at h
  rw [hx, hr] at h
  exact Or.inl (of_decide_eq_true h)

theorem returns_refunded_once_retried :
    ∃ w, Run RefundDesk.step RefundDesk.Retries refundDesk
        [lostCall, callOf 1, callOf 2, callOf 3] w ∧
      w.completed.length = 3 ∧ RefundedOnce refundDesk w 1 := by
  obtain ⟨w, hrun, hstate⟩ := Run.exists_of_execIf (by decide +kernel :
    (execIf RefundDesk.step retriesAtOnce refundDesk
      [lostCall, callOf 1, callOf 2, callOf 3]).any (fun w => decide
        (w.completed.length = 3 ∧ allCompleted w.db 1 = true)) = true)
  obtain ⟨hlength, hall⟩ := of_decide_eq_true hstate
  have hretries := hrun.mono fun _ _ => retries_of_atOnce
  exact ⟨w, hretries, hlength,
    returns_refunded_once rfl rfl hretries (allCompleted_spec hall)⟩

/-- The second return is completed between the lost call and its retry: the
retry records a won less than the provider gave back. -/
theorem retry_records_less :
    ∃ w, Run RefundDesk.step (fun _ _ => True) refundDesk
        [lostCall, callOf 2, callOf 1, callOf 3] w ∧
      allCompleted w.db 1 = true ∧ movedOf 1 w.responses = 7001 ∧
      canceledOf w.db 1 - canceledOf refundDesk.db 1 = 7000 ∧ movedFor 1 w.responses = [2334] ∧
      ⟨1, 1, 2333⟩ ∈ w.completed := by
  obtain ⟨w, hrun, hstate⟩ := Run.exists_of_execIf (by decide +kernel :
    (execIf RefundDesk.step (fun _ _ => true) refundDesk
      [lostCall, callOf 2, callOf 1, callOf 3]).any (fun w => decide
        (allCompleted w.db 1 = true ∧ movedOf 1 w.responses = 7001 ∧
          canceledOf w.db 1 - canceledOf refundDesk.db 1 = 7000 ∧
          movedFor 1 w.responses = [2334] ∧ ⟨1, 1, 2333⟩ ∈ w.completed)) = true)
  exact ⟨w, hrun.mono fun _ _ _ => trivial, of_decide_eq_true hstate⟩

end Shopping
