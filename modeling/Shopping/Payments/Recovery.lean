import Shopping.Payments.Tasks

/-!
# Recovering a failed payment

The two tasks of `shopping/tasks/payment_recovery_tasks.py` with what they
call of `shopping/services/payment_recovery_service.py`.
`retry_failed_payment` asks the provider for the confirmation again, outside of
the chain that `confirm_payment_async` starts, and marks the payment as paid
itself before it hands over to `finalize_payment_confirm`.
`check_sla_violations` looks for payments that take too long.  It asks nobody:
`abort_for_sla` only writes a dead letter and publishes the rollback.

The limits are the defaults of the settings.  Whether the circuit breaker
blocks the task is a parameter, and so is the time at which the payment row
was created, which nothing else reads.  The delay of a retry is left out: a
message can come at any time.
-/

namespace Shopping

namespace PaymentRecovery

/-- `RETRY_MAX_ATTEMPTS`. -/
def retryMaxAttempts : Nat := 3

/-- `SLA_TIMEOUT_SECONDS`. -/
def slaTimeoutSeconds : Nat := 300

/-- `failure_type` of a dead letter. -/
inductive FailureType where
  | nonRetryableError
  | maxRetriesExceeded
  | slaTimeout
  | unknown
  deriving DecidableEq, Repr

/-- What `move_to_dlq` records. -/
structure DeadLetter where
  payment : Nat
  order : OrderId
  failureType : FailureType
  errorCode : String
  errorMessage : String
  retryCount : Nat
  deriving DecidableEq, Repr

/-- The arguments of `confirm_payment`. -/
structure ConfirmRequest where
  paymentKey : String
  orderId : TossOrderId
  amount : Int
  deriving DecidableEq, Repr

/-- The results of `retry_failed_payment`; `raised` is the error of its last
`except`. -/
inductive RetryResult where
  | circuitBreakerOpen
  | paymentNotFound
  | slaAbort
  | alreadyPaid
  | paymentKeyMissing
  | success (attempt : Nat)
  | retryScheduled (attempt : Nat)
  | movedToDlq (reason : FailureType)
  | raised
  deriving DecidableEq, Repr

/-- What one execution of `retry_failed_payment` leaves: its result, the
database, what it published, what it asked the provider, and the dead letter
that it wrote. -/
structure Retry where
  result : RetryResult
  db : Db
  sent : List Message := []
  asked : Option ConfirmRequest := none
  deadLetter : Option DeadLetter := none

/-- `check_sla_timeout`. -/
def checkSlaTimeout (now createdAt : Time) : Bool := decide (slaTimeoutSeconds < now - createdAt)

/-- The whole seconds in the texts of `abort_for_sla`. -/
def elapsedText (now createdAt : Time) : String := toString (now - createdAt) ++ ".0s"

/-- `abort_for_sla`. -/
def abortForSla (db : Db) (now createdAt : Time) (k : Nat) (o : OrderId) (published : Bool) :
    Retry :=
  { result := if published then .slaAbort else .raised
    db := db
    sent := if published then
        [.rollback o ("SLA 타임아웃 (" ++ elapsedText now createdAt ++ ")")]
      else []
    deadLetter := some
      { payment := k, order := o, failureType := .slaTimeout, errorCode := "SLA_TIMEOUT"
        errorMessage := "SLA timeout exceeded: " ++ elapsedText now createdAt ++ " > "
          ++ toString slaTimeoutSeconds ++ "s"
        retryCount := 0 } }

/-- `handle_failure`: the result, and the dead letter that it writes. -/
def handleFailure (k : Nat) (o : OrderId) (e : TossPaymentError) (retryCount : Nat) :
    RetryResult × Option DeadLetter :=
  let letter := fun failureType =>
    some { payment := k, order := o, failureType := failureType, errorCode := e.code
           errorMessage := e.message, retryCount := retryCount }
  if e.code ∈ tossNonRetryableErrors then
    (.movedToDlq .nonRetryableError, letter .nonRetryableError)
  else if retryMaxAttempts ≤ retryCount then
    (.movedToDlq .maxRetriesExceeded, letter .maxRetriesExceeded)
  else if k ≠ 0 ∧ o ≠ 0 then (.retryScheduled (retryCount + 1), none)
  else (.movedToDlq .unknown, letter .unknown)

/-- The writes of `retry_failed_payment` after an approval, in one transaction. -/
def recordRetried (db : Db) (now : Time) (k : Nat) (payment : Payment) (attempt : Nat)
    (data : TossPayment) : Except ShopError Db := do
  let row ← payment.markAsPaid now data
  let saved ← db.savePayment k row
  .ok (saved.log k .approve ("결제 재시도 성공 (attempt=" ++ toString attempt ++ ")"))

/-- `retry_failed_payment` for the payment `k` and the order `o` of its
arguments; `toss` is the provider's answer if it is asked, and `published` says
whether the broker takes messages. -/
def retryFailedPayment (db : Db) (now createdAt : Time) (blocked : Bool) (k : Nat) (o : OrderId)
    (attempt : Nat) (toss : Except TossPaymentError TossPayment) (published : Bool) : Retry :=
  if blocked then { result := .circuitBreakerOpen, db := db }
  else
    match (db.payments.get? k).bind fun payment =>
        (db.orders.get? payment.order).map fun order => (payment, order) with
    | none => { result := .paymentNotFound, db := db }
    | some (payment, order) =>
      if checkSlaTimeout now createdAt then abortForSla db now createdAt k o published
      else if payment.isPaid then { result := .alreadyPaid, db := db }
      else
        match Payment.truthy payment.paymentKey with
        | none =>
          { result := if published then .paymentKeyMissing else .raised
            db := db
            deadLetter := some
              { payment := k, order := o, failureType := .nonRetryableError
                errorCode := "NO_PAYMENT_KEY", errorMessage := "Payment key is missing"
                retryCount := attempt } }
        | some key =>
          let asked := some ⟨key, payment.tossOrderId, payment.amount⟩
          match toss with
          | .error e =>
            let out := handleFailure k o e attempt
            if published then
              { result := out.1
                db := db.log k .error ("결제 재시도 실패 (attempt=" ++ toString attempt ++ "): "
                  ++ e.message)
                asked := asked
                deadLetter := out.2 }
            else { result := .raised, db := db, asked := asked, deadLetter := out.2 }
          | .ok data =>
            match recordRetried db now k payment attempt data with
            | .error _ => { result := .raised, db := db, asked := asked }
            | .ok saved =>
              { result := if published then .success attempt else .raised
                db := saved
                sent := if published then [.finalize data k order.user] else []
                asked := asked }

/-! ## The sweep -/

/-- What `check_sla_violations` counts, and what it leaves: the messages and
the dead letters.  `errors` are the payments whose abort raised. -/
structure SlaSweep where
  detected : Nat := 0
  aborted : Nat := 0
  errors : List Nat := []
  sent : List Message := []
  deadLetters : List DeadLetter := []

/-- `stale_payments` of `check_sla_violations`. -/
def stalePayments (db : Db) (now : Time) (createdAt : Nat → Time) (thresholdMinutes : Int) :
    List (Nat × Payment) :=
  db.payments.table.select fun k p =>
    decide (p.status = .inProgress) && decide (createdAt k < now - 60 * thresholdMinutes)

/-- The loop of `check_sla_violations`; `published` says for each payment
whether the broker takes its rollback. -/
def slaLoop (db : Db) (now : Time) (createdAt : Nat → Time) (published : Nat → Bool) :
    List (Nat × Payment) → SlaSweep
  | [] => {}
  | (k, payment) :: rest =>
    let out := slaLoop db now createdAt published rest
    let abort := abortForSla db now (createdAt k) k payment.order (published k)
    { detected := out.detected + 1
      aborted := if abort.result = .raised then out.aborted else out.aborted + 1
      errors := if abort.result = .raised then k :: out.errors else out.errors
      sent := abort.sent ++ out.sent
      deadLetters := abort.deadLetter.toList ++ out.deadLetters }

/-- `check_sla_violations`; without a threshold it is the limit in minutes. -/
def checkSlaViolations (db : Db) (now : Time) (createdAt : Nat → Time)
    (thresholdMinutes : Option Int) (published : Nat → Bool) : SlaSweep :=
  slaLoop db now createdAt published
    (stalePayments db now createdAt (thresholdMinutes.getD (slaTimeoutSeconds / 60)))

end PaymentRecovery

end Shopping
