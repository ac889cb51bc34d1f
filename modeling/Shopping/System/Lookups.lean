import Shopping.Lib.Watch
import Shopping.System.DepositBounce

/-!
# Webhooks that look

A webhook of the provider is only a reason to look: the view asks for the
payment and runs the handler of the status that it finds.  The lookup holds no
lock, so between it and the handler the status can change, and other deliveries
can be handled.

The provider's payment and the shop are a `Watch`.  `Account.Tracked` is what
every handler keeps of the shop, and `keepsUp` the condition on the last
handler that could still bring the final status: it shows that status and goes
through, or it changes nothing and the shop has that status already.
-/

namespace Shopping

open TossWebhookService TossWebhookView

/-! ## The account -/

/-- A payment by virtual account, at the provider and here. -/
structure Account where
  tossOrderId : TossOrderId
  paymentKey : String
  payment : Nat
  order : OrderId
  paymentKey_ne : paymentKey ≠ ""

namespace Account

/-- The lookup of the payment when it has the status: the object that the
provider keeps for it, whose columns are not null. -/
def isReport (a : Account) (info : TossPayment) (status : TossStatus) : Bool :=
  decide (info.orderId = some a.tossOrderId) && decide (info.paymentKey = some a.paymentKey) &&
    decide (info.status = some status) &&
      match status with
      | .done => info.fitsPaid
      | .waitingForDeposit => info.fitsIssued
      | _ => false

/-- The payment and its order have the status. -/
def hasStatus (a : Account) (db : Db) : TossStatus → Bool
  | .done => decide ((db.payments.get? a.payment).map Payment.status = some .done ∧
      db.statusOf a.order = some .paid)
  | .waitingForDeposit =>
    decide ((db.payments.get? a.payment).map Payment.status = some .waitingForDeposit ∧
      db.statusOf a.order = some .confirmed)
  | _ => false

/-- A deposit can come in, and can bounce. -/
def moves (s t : TossStatus) : Bool :=
  decide (s = .waitingForDeposit ∧ t = .done) || decide (s = .done ∧ t = .waitingForDeposit)

/-- A handler that raises is rolled back. -/
def handle (db : Db) (now : Time) (info : TossPayment) : Db :=
  match dispatch db now info with
  | .ok db' => db'
  | .error _ => db

/-- The provider's payment, and the shop that looks at it. -/
def watched (a : Account) : Watched TossStatus TossPayment Time Db :=
  { moves := moves, shows := a.isReport, apply := handle, agrees := a.hasStatus }

/-! ## What a handler needs -/

/-- The earning of a deposit goes through: there is none, or it is the first
of the order. -/
def earns (db : Db) (o : OrderId) (order : Order) : Bool :=
  decide (order.earnedPoints ≠ 0) ||
    decide (earnPoints order.totalAmount (db.membership order.user).earnRate ≤ 0) ||
      !PointService.earnExists db.ledger o

/-- The handler brings the status that was seen: a deposit of a payment that is
not paid must pass the duplicate filter, and earn. -/
def takes (a : Account) (db : Db) (now : Time) (info : TossPayment) : Bool :=
  if info.status = some .done then
    (db.payments.get? a.payment).any fun p => p.isPaid ||
      (!isWebhookDuplicate db now a.tossOrderId .done &&
        (db.orders.get? a.order).any fun order => earns db a.order order)
  else true

/-- The last handler brings the status of the provider, or leaves it. -/
def keepsUp (a : Account) (w : Watch TossStatus TossPayment Db) :
    WatchEvent TossStatus TossPayment Time → Bool
  | .apply n now => !Watch.isLast a.watched w n || (w.reads[n]?).all fun info =>
      if a.takes w.replica now info then a.isReport info w.source
      else a.hasStatus w.replica w.source
  | _ => true

/-- The payment is this one, free of conflicts, and settled together with its
order. -/
structure Tracked (a : Account) (db : Db) (p : Payment) (order : Order) : Prop where
  row : db.payments.ofTossOrderId? a.tossOrderId = some (a.payment, p)
  belongs : p.order = a.order
  free : db.payments.conflicts a.payment { p with paymentKey := some a.paymentKey } = false
  found : db.orders.get? a.order = some order
  status : p.status = .done ∧ order.status = .paid ∨
    p.status.isOpen = true ∧ order.status = .confirmed

section

variable {a : Account} {db : Db} {p row : Payment} {order : Order} {now : Time}
  {info : TossPayment} {status : TossStatus}

theorem Tracked.get (h : Tracked a db p order) : db.payments.get? a.payment = some p :=
  PaymentTable.ofTossOrderId?_get h.row

theorem Tracked.statusOf (h : Tracked a db p order) : db.statusOf a.order = some order.status := by
  unfold Db.statusOf
  rw [h.found]
  rfl

/-- What the handlers need of a report. -/
theorem isReport_done (h : a.isReport info .done = true) : info.orderId = some a.tossOrderId ∧
    info.paymentKey = some a.paymentKey ∧ info.status = some .done ∧ info.fitsPaid = true := by
  simpa [isReport, and_assoc] using h

theorem isReport_waiting (h : a.isReport info .waitingForDeposit = true) :
    info.orderId = some a.tossOrderId ∧ info.paymentKey = some a.paymentKey ∧
      info.status = some .waitingForDeposit ∧ info.fitsIssued = true := by
  simpa [isReport, and_assoc] using h

/-- A report shows one of the two statuses. -/
theorem isReport_cases (h : a.isReport info status = true) :
    status = .done ∨ status = .waitingForDeposit := by
  cases status with
  | done => exact Or.inl rfl
  | waitingForDeposit => exact Or.inr rfl
  | _ => simp [isReport] at h

/-- The row with the payment key of the report can be written. -/
theorem Tracked.saves (h : Tracked a db p order) (hsame : p.SameCharge row)
    (hkey : row.paymentKey = some a.paymentKey) :
    ∃ payments, db.payments.save a.payment row = .ok payments ∧
      payments.ofTossOrderId? a.tossOrderId = some (a.payment, row) ∧
      payments.get? a.payment = some row ∧
      payments.conflicts a.payment { row with paymentKey := some a.paymentKey } = false := by
  have hfree : db.payments.conflicts a.payment row = false := by
    rw [← h.free]
    exact PaymentTable.conflicts_congr db.payments a.payment hsame.order hsame.tossOrderId hkey
  obtain ⟨payments, hsave⟩ := (PaymentTable.save_returns db.payments a.payment row).mpr hfree
  have hid : p.tossOrderId = a.tossOrderId := of_decide_eq_true (Table.find?_eq_some_get h.row).2
  have hof := PaymentTable.ofTossOrderId?_save hsave
  rw [hsame.tossOrderId, hid] at hof
  refine ⟨payments, hsave, hof, PaymentTable.ofTossOrderId?_get hof, ?_⟩
  rw [PaymentTable.conflicts_save hsave, ← hfree]
  exact PaymentTable.conflicts_congr db.payments a.payment rfl rfl hkey.symm

/-! ## A deposit -/

/-- A payment that is paid stays so. -/
theorem handle_done_paid (h : Tracked a db p order) (hinfo : a.isReport info .done = true)
    (hpaid : p.status = .done) : handle db now info = db := by
  obtain ⟨hid, _, hstatus, _⟩ := isReport_done hinfo
  have hisPaid : p.isPaid = true := decide_eq_true hpaid
  unfold handle dispatch
  rw [hstatus]
  unfold handlePaymentDone
  simp only [hid, h.row, hisPaid, if_true]
  split
  · rename_i hout
    split at hout
    · cases hout
      rfl
    · cases hout
      rfl
  · rfl

/-- A deposit within 60 seconds of one that was committed is dropped. -/
theorem handle_done_duplicate (hinfo : a.isReport info .done = true)
    (hdup : isWebhookDuplicate db now a.tossOrderId .done = true) : handle db now info = db := by
  obtain ⟨hid, _, hstatus, _⟩ := isReport_done hinfo
  unfold handle dispatch
  rw [hstatus]
  unfold handlePaymentDone
  simp only [hid, hdup, if_true]
  rfl

/-- The earning returns exactly when it is none or the first. -/
theorem earns_iff {k : Nat} {paid : Db} (hp : Paid db now k a.order order paid) :
    earns db a.order order = true ↔ ∃ earned, earnOnDone paid now a.order order = .ok earned := by
  rw [hp.earnOnDone]
  unfold earns
  by_cases hearned : order.earnedPoints ≠ 0
  · simp [hearned]
  · by_cases hpoints : 0 < earnPoints order.totalAmount (db.membership order.user).earnRate
    · cases hfirst : PointService.earnExists db.ledger a.order with
      | true => simp [hearned, hpoints, not_le.mpr hpoints]
      | false => simp [hearned, hpoints]
    · simp [hearned, hpoints, not_lt.mp hpoints]

/-- A row and an order that were written, as the next handler finds them. -/
theorem Tracked.of_written {db' : Db} {payments : PaymentTable} {order' : Order}
    (h : Tracked a db p order) (hsame : p.SameCharge row)
    (hof : payments.ofTossOrderId? a.tossOrderId = some (a.payment, row))
    (hfree : payments.conflicts a.payment { row with paymentKey := some a.paymentKey } = false)
    (hpayments : db'.payments = payments) (hfound : db'.orders.get? a.order = some order')
    (hstatus : row.status = .done ∧ order'.status = .paid ∨
      row.status.isOpen = true ∧ order'.status = .confirmed) : Tracked a db' row order' := by
  subst hpayments
  exact ⟨hof, hsame.order.trans h.belongs, hfree, hfound, hstatus⟩

/-- A deposit that is not dropped settles the order, unless its earning
raises. -/
theorem handle_done_open (h : Tracked a db p order) (hinfo : a.isReport info .done = true)
    (hopen : p.status.isOpen = true) (hconfirmed : order.status = .confirmed)
    (hfresh : isWebhookDuplicate db now a.tossOrderId .done = false) :
    if earns db a.order order = true then
      (∃ p' order', Tracked a (handle db now info) p' order') ∧
        a.hasStatus (handle db now info) .done = true
    else handle db now info = db := by
  obtain ⟨hid, hkey, hstatus, hfits⟩ := isReport_done hinfo
  obtain ⟨row, hrow⟩ := (Payment.markAsPaid_returns p now info).mpr hfits
  obtain ⟨hdone, hsame⟩ := Payment.markAsPaid_spec hrow
  have hrowKey : row.paymentKey = some a.paymentKey :=
    (Payment.markAsPaid_paymentKey hrow).trans hkey
  obtain ⟨payments, hsave, hof, hget, hfree⟩ := h.saves hsame hrowKey
  have hsaved : db.savePayment a.payment row = .ok { db with payments := payments } :=
    Db.savePayment_eq_ok.mpr ⟨payments, hsave, rfl⟩
  have hcanceled : order.status ≠ .canceled := by
    rw [hconfirmed]
    decide
  have hunpaid : order.status ≠ .paid := by
    rw [hconfirmed]
    decide
  have horder : db.orders.get? p.order = some order := by
    rw [h.belongs]
    exact h.found
  have hsettles := handlePaymentDone_settles hid hfresh h.row hopen horder hcanceled hunpaid hrow
    hsaved
  have hp := paid_of_saved hrow hsaved order p.order (methodOrCard row.method) order.user
  have hearn := hp.earnOnDone
  rw [h.belongs] at hsettles hp hearn
  generalize hpaid : ((({ db with payments := payments } : Db).updateItems addSold
    order.items).saveOrder a.order (Order.withPaid (methodOrCard row.method) now)).deactivateCarts
      order.user = paid at hsettles hp
  have hpaidPayments : paid.payments = payments := by
    rw [← hpaid]
    rfl
  have hhandle : handle db now info = match earnOnDone paid now a.order order with
      | .ok earned => markWebhookProcessed (earned.log a.payment .webhook "결제 완료 웹훅 처리") now
          a.tossOrderId .done
      | .error _ => db := by
    unfold handle dispatch
    rw [hstatus]
    simp only [hsettles]
    cases earnOnDone paid now a.order order with
    | error e => rfl
    | ok earned => rfl
  rw [hhandle]
  cases hout : earnOnDone paid now a.order order with
  | error e =>
    have hnot : ¬ earns db a.order order = true := by
      rw [earns_iff hp]
      rintro ⟨earned, hok⟩
      rw [hout] at hok
      cases hok
    rw [if_neg hnot]
  | ok earned =>
    rw [if_pos ((earns_iff hp).mpr ⟨earned, hout⟩)]
    have hearns := earnOnDone_ok hout
    obtain ⟨method, hpaidOrder⟩ := hp.get_order h.found
    obtain ⟨order', hfound, hpaidStatus⟩ : ∃ order', earned.orders.get? a.order = some order' ∧
        order'.status = .paid := by
      rcases hearns.orders with hsameOrders | ⟨n, hmodify⟩
      · rw [hsameOrders]
        exact ⟨_, hpaidOrder, rfl⟩
      · rw [hmodify, Table.get?_modify_self, hpaidOrder]
        exact ⟨_, rfl, rfl⟩
    have hpayments : earned.payments = payments := hearns.payments.trans hpaidPayments
    constructor
    · refine ⟨row, order', h.of_written hsame hof hfree ?_ ?_ (Or.inl ⟨hdone, hpaidStatus⟩)⟩
      · rw [markWebhookProcessed_payments]
        exact hpayments
      · rw [markWebhookProcessed_orders]
        exact hfound
    · refine decide_eq_true ⟨?_, ?_⟩
      · rw [markWebhookProcessed_payments]
        show (earned.payments.get? a.payment).map Payment.status = some .done
        rw [hpayments, hget, Option.map_some, hdone]
      · unfold Db.statusOf
        rw [markWebhookProcessed_orders]
        show (earned.orders.get? a.order).map Order.status = some .paid
        rw [hfound, Option.map_some, hpaidStatus]

/-! ## A bounce -/

/-- Whatever the payment is, it waits for the deposit afterwards. -/
theorem handle_waiting (h : Tracked a db p order)
    (hinfo : a.isReport info .waitingForDeposit = true) :
    (∃ p' order', Tracked a (handle db now info) p' order') ∧
      a.hasStatus (handle db now info) .waitingForDeposit = true := by
  obtain ⟨hid, hkey, hstatus, hfits⟩ := isReport_waiting hinfo
  have hvalid : p.status.isInvalid = false := by
    rcases h.status with ⟨hdone, _⟩ | ⟨hopen, _⟩
    · rw [hdone]
      rfl
    · simp only [PaymentStatus.isOpen, Bool.and_eq_true, Bool.not_eq_true'] at hopen
      exact hopen.2
  by_cases hwaits : p.isWaitingForDeposit = true
  · -- The payment waits already: nothing is written.
    have hsame : handle db now info = db := by
      unfold handle dispatch
      rw [hstatus]
      unfold handleWaitingForDeposit
      simp only [hid, h.row, hwaits, if_true]
      rfl
    have hwaiting : p.status = .waitingForDeposit := of_decide_eq_true hwaits
    have hconfirmed : order.status = .confirmed := by
      rcases h.status with ⟨hdone, _⟩ | ⟨_, hconfirmed⟩
      · rw [hwaiting] at hdone
        cases hdone
      · exact hconfirmed
    rw [hsame]
    refine ⟨⟨p, order, h⟩, decide_eq_true ⟨?_, ?_⟩⟩
    · rw [h.get, Option.map_some, hwaiting]
    · rw [h.statusOf, hconfirmed]
  · obtain ⟨row, hrow⟩ := (Payment.markAsWaitingForDeposit_returns p now info).mpr hfits
    obtain ⟨hissued, hsame⟩ := Payment.markAsWaitingForDeposit_spec hrow
    have hrowKey : row.paymentKey = some a.paymentKey := by
      simp only [Payment.markAsWaitingForDeposit, bind_eq_ok] at hrow
      obtain ⟨_, _, _, _, hrow⟩ := hrow
      cases hrow
      simp [Payment.truthy, hkey, a.paymentKey_ne]
    obtain ⟨payments, hsave, hof, hget, hfree⟩ := h.saves hsame hrowKey
    have hopen : row.status.isOpen = true := by
      rw [hissued]
      rfl
    have horder : db.orders.get? p.order = some order := by
      rw [h.belongs]
      exact h.found
    -- Either branch writes the row, and leaves the order confirmed.
    have hwritten : ∃ db' order', handle db now info = db' ∧ db'.payments = payments ∧
        db'.orders.get? a.order = some order' ∧ order'.status = .confirmed := by
      by_cases hpaid : p.isPaid = true
      · obtain ⟨hpayments, ⟨n, horders⟩, _⟩ := revertDeposit_tables db now a.payment a.order order
        have hsaved : (revertDeposit db now a.payment p.order order).savePayment a.payment row
            = .ok { revertDeposit db now a.payment p.order order with payments := payments } := by
          rw [h.belongs]
          refine Db.savePayment_eq_ok.mpr ⟨payments, ?_, rfl⟩
          rw [hpayments]
          exact hsave
        refine ⟨{ revertDeposit db now a.payment a.order order with payments := payments },
          { order with status := .confirmed, earnedPoints := n, updatedAt := now },
          ?_, rfl, ?_, rfl⟩
        · unfold handle dispatch
          rw [hstatus]
          unfold handleWaitingForDeposit
          simp only [hid, h.row, hwaits, hvalid, hpaid, Db.getOrder_eq_ok.mpr horder, hrow, hsaved,
            ok_bind, if_true, Bool.false_eq_true, if_false, Except.map]
          rw [h.belongs]
        · show (revertDeposit db now a.payment a.order order).orders.get? a.order = _
          rw [horders, Table.get?_modify_self, h.found]
          rfl
      · have hconfirmed : order.status = .confirmed := by
          rcases h.status with ⟨hdone, _⟩ | ⟨_, hconfirmed⟩
          · exact absurd (decide_eq_true hdone) hpaid
          · exact hconfirmed
        have hsaved : (db.log a.payment .webhook "가상계좌 발급 웹훅 처리, 입금 대기").savePayment
            a.payment row = .ok { db.log a.payment .webhook "가상계좌 발급 웹훅 처리, 입금 대기" with
              payments := payments } :=
          Db.savePayment_eq_ok.mpr ⟨payments, hsave, rfl⟩
        refine ⟨{ db.log a.payment .webhook "가상계좌 발급 웹훅 처리, 입금 대기" with
          payments := payments }, order, ?_, rfl, h.found, hconfirmed⟩
        unfold handle dispatch
        rw [hstatus]
        unfold handleWaitingForDeposit
        simp only [hid, h.row, hwaits, hvalid, hpaid, Db.getOrder_eq_ok.mpr horder, hrow, hsaved,
          ok_bind, Bool.false_eq_true, if_false, Except.map]
    obtain ⟨db', order', hhandle, hpayments, hfound, hconfirmed⟩ := hwritten
    rw [hhandle]
    refine ⟨⟨row, order', h.of_written hsame hof hfree hpayments hfound
      (Or.inr ⟨hopen, hconfirmed⟩)⟩, decide_eq_true ⟨?_, ?_⟩⟩
    · rw [hpayments, hget, Option.map_some, hissued]
    · unfold Db.statusOf
      rw [hfound, Option.map_some, hconfirmed]

/-! ## Any report -/

/-- The payment is tracked, whatever its row and its order are. -/
def IsTracked (a : Account) (db : Db) : Prop := ∃ p order, Tracked a db p order

/-- A handler brings the status of its report, or leaves the shop alone. -/
theorem handle_spec (h : IsTracked a db) (hinfo : a.isReport info status = true) (now : Time) :
    if a.takes db now info = true then
      IsTracked a (handle db now info) ∧ a.hasStatus (handle db now info) status = true
    else handle db now info = db := by
  obtain ⟨p, order, h⟩ := h
  rcases isReport_cases hinfo with rfl | rfl
  · have hstatus := (isReport_done hinfo).2.2.1
    simp only [takes, hstatus, if_true, h.get, h.found, Option.any_some]
    rcases h.status with ⟨hdone, hpaid⟩ | ⟨hopen, hconfirmed⟩
    · have hisPaid : p.isPaid = true := decide_eq_true hdone
      rw [hisPaid, Bool.true_or, if_pos rfl, handle_done_paid h hinfo hdone]
      refine ⟨⟨p, order, h⟩, decide_eq_true ⟨?_, ?_⟩⟩
      · rw [h.get, Option.map_some, hdone]
      · rw [h.statusOf, hpaid]
    · rw [(closed_of_isOpen hopen).1, Bool.false_or]
      cases hdup : isWebhookDuplicate db now a.tossOrderId .done with
      | true => exact handle_done_duplicate hinfo hdup
      | false => exact handle_done_open h hinfo hopen hconfirmed hdup
  · have hstatus := (isReport_waiting hinfo).2.2.1
    have htakes : a.takes db now info = true := by simp [takes, hstatus]
    rw [if_pos htakes]
    exact handle_waiting h hinfo

/-- The shop has one status. -/
theorem hasStatus_unique {s t : TossStatus} (hs : a.hasStatus db s = true)
    (ht : a.hasStatus db t = true) : s = t := by
  cases s with
  | done =>
    cases t with
    | done => rfl
    | waitingForDeposit =>
      have hstatus := (of_decide_eq_true hs).1.symm.trans (of_decide_eq_true ht).1
      cases hstatus
    | _ => cases ht
  | waitingForDeposit =>
    cases t with
    | waitingForDeposit => rfl
    | done =>
      have hstatus := (of_decide_eq_true hs).1.symm.trans (of_decide_eq_true ht).1
      cases hstatus
    | _ => cases ht
  | _ => cases hs

theorem isReport_unique {s t : TossStatus} (hs : a.isReport info s = true)
    (ht : a.isReport info t = true) : s = t := by
  simp only [isReport, Bool.and_eq_true, decide_eq_true_eq] at hs ht
  exact Option.some.inj (hs.1.2.symm.trans ht.1.2)

/-- After a last handler the shop has the status of the provider exactly when
the handler kept up. -/
theorem agrees_iff {w : Watch TossStatus TossPayment Db} {n : Nat} (h : IsTracked a w.replica)
    (hinfo : a.isReport info status = true) (hseen : w.reads[n]? = some info)
    (hlast : Watch.isLast a.watched w n = true) (now : Time) :
    a.hasStatus (handle w.replica now info) w.source = true
      ↔ a.keepsUp w (.apply n now) = true := by
  have hspec := handle_spec h hinfo now
  simp only [keepsUp, hlast, Bool.not_true, Bool.false_or, hseen, Option.all_some]
  by_cases htakes : a.takes w.replica now info = true
  · rw [if_pos htakes] at hspec
    rw [if_pos htakes]
    constructor
    · intro hagrees
      rw [← hasStatus_unique hspec.2 hagrees]
      exact hinfo
    · intro hshows
      rw [← isReport_unique hinfo hshows]
      exact hspec.2
  · rw [if_neg htakes] at hspec
    rw [if_neg htakes, hspec]

/-! ## Every run -/

theorem IsTracked.handle (h : IsTracked a db) (hinfo : a.isReport info status = true)
    (now : Time) : IsTracked a (handle db now info) := by
  have hspec := handle_spec h hinfo now
  split at hspec
  · exact hspec.1
  · rw [hspec]
    exact h

/-- Nothing was seen yet, and a status that the shop does not have has a notice
on its way. -/
structure Starts (a : Account) (w : Watch TossStatus TossPayment Db) : Prop where
  tracked : IsTracked a w.replica
  reads : w.reads = []
  noticed : a.hasStatus w.replica w.source = true ∨ 0 < w.pending

theorem Starts.shown {w : Watch TossStatus TossPayment Db} (h : a.Starts w) :
    Watch.Shown a.watched w := by
  intro seen hseen
  rw [h.reads] at hseen
  cases hseen

end

end Account

/-! ## The result -/

/-- Once every delivery of a run was handled, the payment and the order have
the provider's final status, when the handlers of the run keep up.  A handler
after which nothing fresh is left brings that status only when it keeps up. -/
theorem webhooks_converge {a : Account} {w t : Watch TossStatus TossPayment Db}
    {es : List (WatchEvent TossStatus TossPayment Time)} (h : a.Starts w) :
    (Run (Watch.step a.watched) (fun u e => a.keepsUp u e = true) w es t → t.pending = 0 →
      t.reads = [] → a.hasStatus t.replica t.source = true) ∧
    (Run (Watch.step a.watched) (fun _ _ => True) w es t → ∀ n now info,
      t.reads[n]? = some info → Watch.isLast a.watched t n = true →
        (a.hasStatus (Account.handle t.replica now info) t.source = true
          ↔ a.keepsUp t (.apply n now) = true)) := by
  constructor
  · intro hrun hpending hreads
    have hcovered : Watch.Covered a.watched t := by
      refine Watch.covered_run (Account.IsTracked a) h.shown h.tracked (h.noticed.imp_right Or.inl)
        (fun db now info status hdb hinfo => hdb.handle hinfo now) ?_ hrun
      intro u n now info hu hshown hok hseen hlast
      obtain ⟨status, hinfo⟩ := hshown info (List.mem_of_getElem? hseen)
      exact (Account.agrees_iff hu hinfo hseen hlast now).mpr hok
    exact hcovered.agrees hpending hreads
  · intro hrun n now info hseen hlast
    obtain ⟨hshown, htracked⟩ := Watch.replica_run (Account.IsTracked a) h.shown h.tracked
      (fun db now info status hdb hinfo => hdb.handle hinfo now) hrun
    obtain ⟨status, hinfo⟩ := hshown info (List.mem_of_getElem? hseen)
    exact Account.agrees_iff htracked hinfo hseen hlast now

/-- The payment by virtual account of the order 1. -/
def oneAccount : Account where
  tossOrderId := .orderNumber 1
  paymentKey := "key"
  payment := 1
  order := 1
  paymentKey_ne := by decide

/-- The shop waits for the deposit, and so does the provider. -/
def depositWatch (total : Int) : Watch TossStatus TossPayment Db :=
  { source := .waitingForDeposit, replica := accountShop .confirmed total }

theorem depositWatch_starts (total : Int) : oneAccount.Starts (depositWatch total) where
  tracked := ⟨accountPayment, { World.oneOrder .confirmed with totalAmount := total },
    rfl, rfl, rfl, rfl, Or.inr ⟨rfl, rfl⟩⟩
  reads := rfl
  noticed := Or.inl rfl

/-- A deposit comes in, bounces and comes in again; the last handler runs at
`now`. -/
def depositAgain (now : Time) : List (WatchEvent TossStatus TossPayment Time) :=
  [.change .done 0, .look (accountReport .done), .apply 0 1,
    .change .waitingForDeposit 0, .look (accountReport .waitingForDeposit), .apply 0 2,
    .change .done 0, .look (accountReport .done), .apply 0 now]

theorem webhooks_converge_again :
    ∃ t, Run (Watch.step oneAccount.watched) (fun u e => oneAccount.keepsUp u e = true)
        (depositWatch 50) (depositAgain 100) t ∧ t.source = .done ∧
      oneAccount.hasStatus t.replica .done = true := by
  obtain ⟨t, hrun, hstate⟩ := Run.exists_of_execIf (by decide +kernel :
    (execIf (Watch.step oneAccount.watched) oneAccount.keepsUp (depositWatch 50)
      (depositAgain 100)).any (fun t => decide
        (t.source = .done ∧ t.pending = 0 ∧ t.reads = [])) = true)
  obtain ⟨hsource, hpending, hreads⟩ := of_decide_eq_true hstate
  have h := (webhooks_converge (depositWatch_starts 50)).1 hrun hpending hreads
  rw [hsource] at h
  exact ⟨t, hrun, hsource, h⟩

/-- A lookup that found the payment waiting is handled after the one that found
it done. -/
def staleLookup : List (WatchEvent TossStatus TossPayment Time) :=
  [.resend, .look (accountReport .waitingForDeposit), .change .done 0,
    .look (accountReport .done), .apply 1 1, .apply 0 2]

/-- Three runs that end with the deposit at the provider, and without it in the
shop: a lookup that is handled too late, a second deposit within 60 seconds of
the first, and a second deposit of an order that earned points with the
first. -/
theorem webhooks_diverge :
    (∃ t, Run (Watch.step oneAccount.watched) (fun _ _ => true = true) (depositWatch 50)
      staleLookup t ∧ t.pending = 0 ∧ t.reads = [] ∧ t.source = .done ∧
        oneAccount.hasStatus t.replica .waitingForDeposit = true) ∧
    (∃ t, Run (Watch.step oneAccount.watched) (fun _ _ => true = true) (depositWatch 50)
      (depositAgain 30) t ∧ t.pending = 0 ∧ t.reads = [] ∧ t.source = .done ∧
        oneAccount.hasStatus t.replica .waitingForDeposit = true) ∧
    ∃ t, Run (Watch.step oneAccount.watched) (fun _ _ => true = true) (depositWatch 10000)
      (depositAgain 100) t ∧ t.pending = 0 ∧ t.reads = [] ∧ t.source = .done ∧
        oneAccount.hasStatus t.replica .waitingForDeposit = true := by
  have hends : ∀ total es, (execIf (Watch.step oneAccount.watched) (fun _ _ => true)
      (depositWatch total) es).any (fun t => decide (t.pending = 0 ∧ t.reads = [] ∧
        t.source = .done ∧ oneAccount.hasStatus t.replica .waitingForDeposit = true)) = true →
      ∃ t, Run (Watch.step oneAccount.watched) (fun _ _ => true = true) (depositWatch total) es t ∧
        t.pending = 0 ∧ t.reads = [] ∧ t.source = .done ∧
          oneAccount.hasStatus t.replica .waitingForDeposit = true := by
    intro total es h
    obtain ⟨t, hrun, hstate⟩ := Run.exists_of_execIf h
    exact ⟨t, hrun, of_decide_eq_true hstate⟩
  exact ⟨hends 50 staleLookup (by decide +kernel), hends 50 (depositAgain 30) (by decide +kernel),
    hends 10000 (depositAgain 100) (by decide +kernel)⟩

end Shopping
