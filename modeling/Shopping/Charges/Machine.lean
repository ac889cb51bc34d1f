import Shopping.Models.Db

/-!
# The charge of an order

The abstract machine under the order and payment protocol.  A `Charge` is what
the shop records about one order and its payment: two statuses and a flag.
`Move` has one constructor for each thing that a function of the shop does to
a charge, with the statuses that the function accepts; which rows are locked,
what the provider answered and what else is written is gone.

The invariants of the protocol are about charges.  Whether a function keeps
one is a case analysis over the moves of the function; that the functions of
the shop do no other moves is the subject of `Shopping.Charges.Refinement`.
-/

namespace Shopping

/-- The statuses of an order and of its payment, and the flag `is_canceled`
of the payment. -/
structure Charge where
  order : Option OrderStatus
  payment : Option PaymentStatus
  isCanceled : Bool
  deriving DecidableEq, Repr

/-- The functions that move a charge. -/
inductive Act where
  | placeOrder
  | processOrder
  /-- `_abandon_stalled_order`. -/
  | abandonOrder
  | confirmAsync
  | confirmSync
  /-- `_mark_confirm_aborted`. -/
  | abort
  | finalize
  | webhookDone
  | webhookCanceled
  | webhookWaiting
  /-- A row that was read earlier with this flag, written back as failed. -/
  | fail (isCanceled : Bool)
  | rollback
  /-- `cancel_order`, with the status it closes the payment in. -/
  | cancelOrder (closed : PaymentStatus)
  | cancelPayment
  | cancelVirtualAccount
  | pointsOnly
  /-- `create_payment`. -/
  | request
  /-- `complete_refund`. -/
  | completeRefund
  deriving DecidableEq, Repr

/-- The status that a rollback leaves on a payment. -/
def PaymentStatus.rolledBack (s : PaymentStatus) : PaymentStatus :=
  if s ≠ .aborted ∧ s ≠ .expired then .aborted else s

/-- What each function does to a charge that it moves. -/
inductive Move : Act → Charge → Charge → Prop where
  | placeOrder {p : Option PaymentStatus} {c : Bool} :
      Move .placeOrder ⟨none, p, c⟩ ⟨some .pending, p, c⟩
  | orderConfirmed {p : Option PaymentStatus} {c : Bool} :
      Move .processOrder ⟨some .pending, p, c⟩ ⟨some .confirmed, p, c⟩
  | orderFailed {p : Option PaymentStatus} {c : Bool} :
      Move .processOrder ⟨some .pending, p, c⟩ ⟨some .failed, p, c⟩
  | abandonOrder {p : Option PaymentStatus} {c : Bool} :
      Move .abandonOrder ⟨some .pending, p, c⟩ ⟨some .failed, p, c⟩
  | confirmAsync {o : Option OrderStatus} {p : PaymentStatus} {c : Bool}
      (hp : p.admitsConfirm = true) (hnew : p ≠ .inProgress) :
      Move .confirmAsync ⟨o, some p, c⟩ ⟨o, some .inProgress, c⟩
  | syncIssued {o : Option OrderStatus} {p : PaymentStatus} {c : Bool}
      (hp : p.admitsConfirm = true) :
      Move .confirmSync ⟨o, some p, c⟩ ⟨o, some .waitingForDeposit, c⟩
  | syncPaid {s : OrderStatus} {p : PaymentStatus} {c : Bool} (hp : p.admitsConfirm = true) :
      Move .confirmSync ⟨some s, some p, c⟩ ⟨some .paid, some .done, c⟩
  | abort {o : Option OrderStatus} {p : PaymentStatus} {c : Bool} :
      Move .abort ⟨o, some p, c⟩ ⟨o, some .aborted, c⟩
  | finalizeIssued {o : Option OrderStatus} {p : PaymentStatus} {c : Bool} (hp : p ≠ .done) :
      Move .finalize ⟨o, some p, c⟩ ⟨o, some .waitingForDeposit, c⟩
  | finalizeCanceled {p : PaymentStatus} {c : Bool} (hp : p ≠ .done) :
      Move .finalize ⟨some .canceled, some p, c⟩ ⟨some .canceled, some .done, c⟩
  | finalizePaid {s : OrderStatus} {p : PaymentStatus} {c : Bool} (hp : p ≠ .done)
      (hs : s ≠ .canceled) :
      Move .finalize ⟨some s, some p, c⟩ ⟨some .paid, some .done, c⟩
  | doneCanceled {p : PaymentStatus} {c : Bool} (hp : p.isOpen = true) :
      Move .webhookDone ⟨some .canceled, some p, c⟩ ⟨some .canceled, some .done, c⟩
  | donePaid {s : OrderStatus} {p : PaymentStatus} {c : Bool} (hp : p.isOpen = true)
      (hs : s ≠ .canceled) :
      Move .webhookDone ⟨some s, some p, c⟩ ⟨some .paid, some .done, c⟩
  | canceled {s : OrderStatus} {p : PaymentStatus} (hp : p ≠ .aborted) :
      Move .webhookCanceled ⟨some s, some p, false⟩ ⟨some .canceled, some .canceled, true⟩
  | reverted {s : OrderStatus} {c : Bool} :
      Move .webhookWaiting ⟨some s, some .done, c⟩ ⟨some .confirmed, some .waitingForDeposit, c⟩
  | issued {o : Option OrderStatus} {p : PaymentStatus} {c : Bool} (hp : p.isOpen = true) :
      Move .webhookWaiting ⟨o, some p, c⟩ ⟨o, some .waitingForDeposit, c⟩
  | fail {o : Option OrderStatus} {p q : PaymentStatus} {c c' : Bool}
      (hq : q = .aborted ∨ q = .expired) :
      Move (.fail c') ⟨o, some p, c⟩ ⟨o, some q, c'⟩
  | rollback {s : OrderStatus} {p : Option PaymentStatus} {c : Bool} (hs : s.isUnpaid = true) :
      Move .rollback ⟨some s, p, c⟩ ⟨some .paymentFailed, p.map PaymentStatus.rolledBack, c⟩
  | cancelOrder {s : OrderStatus} {p : Option PaymentStatus} {closed : PaymentStatus} {c : Bool}
      (hs : s.isUnpaid = true) (hp : ∀ q, p = some q → q.isLive = false) :
      Move (.cancelOrder closed) ⟨some s, p, c⟩ ⟨some .canceled, p.map fun _ => closed, c⟩
  | cancelPayment {s : OrderStatus} (hs : s = .paid ∨ s = .canceled) :
      Move .cancelPayment ⟨some s, some .done, false⟩ ⟨some .canceled, some .canceled, true⟩
  | cancelVirtualAccount {s : OrderStatus} {c : Bool} (hs : s.isUnpaid = true) :
      Move .cancelVirtualAccount ⟨some s, some .waitingForDeposit, c⟩
        ⟨some .canceled, some .canceled, true⟩
  | pointsOnly {s : OrderStatus} {p : Option PaymentStatus} {c : Bool} (hp : p ≠ some .done) :
      Move .pointsOnly ⟨some s, p, c⟩ ⟨some .paid, some .done, c⟩
  | request {s : OrderStatus} {p : Option PaymentStatus} {c : Bool} :
      Move .request ⟨some s, p, c⟩ ⟨some s, some .ready, false⟩
  | pointsReturned {s s' : OrderStatus} {p : Option PaymentStatus} {c : Bool}
      (hs : s' = s ∨ s' = .refunded) : Move .completeRefund ⟨some s, p, c⟩ ⟨some s', p, c⟩
  | cashReturned {s s' : OrderStatus} {p q : PaymentStatus} {c c' : Bool}
      (hs : s' = s ∨ s' = .refunded) (hq : q = .canceled ∨ q = .partialCanceled) :
      Move .completeRefund ⟨some s, some p, c⟩ ⟨some s', some q, c'⟩

/-! ## The charges of a database -/

/-- The charge of the order `o`. -/
def Db.charge (db : Db) (o : OrderId) : Charge where
  order := (db.orders.get? o).map Order.status
  payment := (db.payments.ofOrder? o).map fun e => e.2.status
  isCanceled := (db.payments.ofOrder? o).any fun e => e.2.isCanceled

/-- No charge differs. -/
def SameCharges (db db' : Db) : Prop := ∀ i, db'.charge i = db.charge i

/-- The charge of `o` makes a move of `act`, and no other charge differs. -/
structure Acts (act : Act) (o : OrderId) (db db' : Db) : Prop where
  frame : ∀ i, i ≠ o → db'.charge i = db.charge i
  move : Move act (db.charge o) (db'.charge o)

/-- A function of `act` on the order `o`: it moves the charge or leaves every
charge as it is. -/
def Follows (act : Act) (o : OrderId) (db db' : Db) : Prop :=
  SameCharges db db' ∨ Acts act o db db'

theorem SameCharges.refl (db : Db) : SameCharges db db := fun _ => rfl

theorem SameCharges.of_tables {db db' : Db} (ho : db'.orders = db.orders)
    (hp : db'.payments = db.payments) : SameCharges db db' := by
  intro i
  unfold Db.charge
  rw [ho, hp]

/-- An invariant of every charge goes through a move that keeps it. -/
theorem Acts.invariant {act : Act} {o : OrderId} {db db' : Db} (h : Acts act o db db')
    {I : Charge → Prop} (hI : ∀ i, I (db.charge i))
    (hmove : ∀ c, Move act (db.charge o) c → I c) (i : OrderId) : I (db'.charge i) := by
  by_cases hi : i = o
  · rw [hi]
    exact hmove _ h.move
  · rw [h.frame i hi]
    exact hI i

end Shopping
