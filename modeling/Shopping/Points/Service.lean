import Shopping.Lib.Draw
import Shopping.Points.Ledger
import Mathlib.Data.List.Sort

/-!
# `PointService`

The point operations of `shopping/services/point_service.py` on a `Ledger`.
Each is one transaction.  An operation that raises answers `Except.error`,
and the caller's transaction is rolled back with it; an operation that
reports a failure without raising answers the ledger as it stands at that
point, which is what the transaction commits.

Every call reads the clock once, as `now`.
-/

namespace Shopping

/-- What the database raises. -/
inductive DbError where
  | integrityError
  | doesNotExist
  deriving DecidableEq, Repr

namespace PointService

/-! ## Adding points -/

/-- `unique_earn_per_order`: an earn row of `order` is there already. -/
def earnExists (L : Ledger) (order : OrderId) : Bool :=
  L.histories.any fun _ r => decide (r.type = .earn) && decide (r.order = some order)

/-- `add_points`. -/
def addPoints (L : Ledger) (now : Time) (user : UserId) (amount : Int)
    (type : PointType := .earn) (order : Option OrderId := none)
    (returnId : Option Nat := none) : Except DbError (Bool × Ledger) :=
  if amount ≤ 0 then .ok (false, L)
  else
    let credited := L.setPoints user (L.points user + amount)
    if type = .earn ∧ (order.any fun o => earnExists L o) = true then
      .error .integrityError
    else
      .ok (true, credited.createHistory now user amount type order { returnId := returnId })

/-! ## Using points -/

/-- What `use_points_fifo` answers. -/
structure UseResult where
  success : Bool
  usedDetails : Details
  message : String
  deriving DecidableEq, Repr

/-- `MINIMUM_USE_AMOUNT`. -/
def minimumUseAmount : Int := 100

/-- `_validate_point_usage`: the refusal, if there is one. -/
def validatePointUsage (amount : Int) (type : PointType) (minimum : Int) : Option UseResult :=
  if amount ≤ 0 then
    some ⟨false, [], "사용할 포인트는 0보다 커야 합니다."⟩
  else if type = .use ∧ amount < minimum then
    some ⟨false, [], "포인트는 최소 " ++ toString minimum ++ "포인트 이상 사용 가능합니다."⟩
  else none

/-- Whether `_consume_points_fifo` may draw on a row: an earn row of the user
that is not flagged expired, and for a reclaim also one that is not due. -/
def isUsable (now : Time) (user : UserId) (type : PointType) (r : PointHistory) : Bool :=
  decide (r.user = user) && decide (r.type = .earn) &&
    (decide (type ≠ .cancelDeduct) || r.expiresAt.any fun e => decide (now < e)) &&
    !r.metadata.expired

/-- `order_by("expires_at", "created_at")`; the sort keeps id order on ties. -/
def expiresFirst (p q : Nat × PointHistory) : Prop :=
  p.2.expiry < q.2.expiry ∨ (p.2.expiry = q.2.expiry ∧ p.2.createdAt ≤ q.2.createdAt)

instance : DecidableRel expiresFirst := fun p q =>
  inferInstanceAs (Decidable (p.2.expiry < q.2.expiry ∨
    (p.2.expiry = q.2.expiry ∧ p.2.createdAt ≤ q.2.createdAt)))

/-- `available_points` of `_consume_points_fifo`. -/
def availablePoints (L : Ledger) (now : Time) (user : UserId) (type : PointType) :
    List (Nat × PointHistory) :=
  (L.histories.select fun _ r => isUsable now user type r).insertionSort expiresFirst

/-- The loop of `_consume_points_fifo` over the fetched rows. -/
def consumeLoop (now : Time) (L : Ledger) :
    List (Nat × PointHistory) → Int → Ledger × Details × Int
  | [], remainingToUse => (L, [], remainingToUse)
  | (k, r) :: rest, remainingToUse =>
    if remainingToUse ≤ 0 then (L, [], remainingToUse)
    else
      let available := r.remainingPoints
      if available ≤ 0 then consumeLoop now L rest remainingToUse
      else
        let useFromThis := min available remainingToUse
        let out := consumeLoop now (L.saveRow k (PointHistory.recordUse now useFromThis)) rest
          (remainingToUse - useFromThis)
        (out.1, (k, useFromThis) :: out.2.1, out.2.2)

/-- `_consume_points_fifo`: the ledger after it, `used_details` and
`remaining_to_use`. -/
def consumePointsFifo (L : Ledger) (now : Time) (user : UserId) (amount : Int)
    (type : PointType) : Ledger × Details × Int :=
  consumeLoop now L (availablePoints L now user type) amount

/-- `get_usable_points`. -/
def getUsablePoints (L : Ledger) (now : Time) (user : UserId) (forCancel : Bool := true) : Int :=
  L.histories.sum fun _ r =>
    if isUsable now user (if forCancel then .cancelDeduct else .use) r then r.remainingPoints
    else 0

/-- `use_points_fifo`.  The refusal of a reclaim after the consumption does
not raise, so what the consumption wrote stays. -/
def usePointsFifo (L : Ledger) (now : Time) (user : UserId) (amount : Int)
    (type : PointType := .use) (order : Option OrderId := none)
    (returnId : Option Nat := none) : UseResult × Ledger :=
  match validatePointUsage amount type minimumUseAmount with
  | some refusal => (refusal, L)
  | none =>
    if L.points user < amount then (⟨false, [], "포인트가 부족합니다."⟩, L)
    else
      let out := consumePointsFifo L now user amount type
      if type = .cancelDeduct ∧ 0 < out.2.2 then
        (⟨false, [], "유효한 포인트가 부족합니다. (필요: " ++ toString amount ++ ", 사용 가능: "
          ++ toString (amount - out.2.2) ++ ")"⟩, out.1)
      else
        (⟨true, out.2.1, toString amount ++ " 포인트를 사용했습니다."⟩,
          (out.1.setPoints user (out.1.points user - amount)).createHistory now user (-amount)
            type order { usedDetails := out.2.1, returnId := returnId })

/-! ## Giving used points back -/

/-- What `refund_used_points` answers. -/
structure RefundResult where
  success : Bool
  amount : Int
  restored : Details
  expired : Int
  unbacked : Int
  deriving DecidableEq, Repr

/-- What the rows of `order` say about the use of earn row `k`: what its use
rows took, less what its refund rows already gave back. -/
def outstanding (L : Ledger) (order : OrderId) (k : Nat) : Int :=
  L.histories.sum fun _ r =>
    if r.order = some order then
      if r.type = .use then amountAt k r.metadata.usedDetails
      else if r.type.isUsedPointsRefund then -amountAt k r.metadata.restoredDetails
      else 0
    else 0

/-- `order_by("-expires_at", "-id")`. -/
def expiresLast (p q : Nat × PointHistory) : Prop :=
  q.2.expiry < p.2.expiry ∨ (q.2.expiry = p.2.expiry ∧ q.1 ≤ p.1)

instance : DecidableRel expiresLast := fun p q =>
  inferInstanceAs (Decidable (q.2.expiry < p.2.expiry ∨
    (q.2.expiry = p.2.expiry ∧ q.1 ≤ p.1)))

/-- `earn_rows` of `refund_used_points`. -/
def earnRows (L : Ledger) (order : OrderId) : List (Nat × PointHistory) :=
  (L.histories.select fun k r =>
    decide (0 < outstanding L order k) && decide (r.type = .earn)).insertionSort expiresLast

/-- The loop of `refund_used_points`: the ledger, `restored`, `expired_now`
and `to_restore` after it.  A row past its expiry date keeps its
`used_amount`. -/
def restoreLoop (now : Time) (order : OrderId) (left : Nat → Int) (L : Ledger) :
    List (Nat × PointHistory) → Int → Ledger × Details × Int × Int
  | [], toRestore => (L, [], 0, toRestore)
  | (k, r) :: rest, toRestore =>
    if toRestore ≤ 0 then (L, [], 0, toRestore)
    else
      let back := min (left k) toRestore
      if r.expiry ≤ now then
        let out := restoreLoop now order left L rest (toRestore - back)
        (out.1, (k, back) :: out.2.1, back + out.2.2.1, out.2.2.2)
      else
        let out := restoreLoop now order left
          (L.saveRow k (PointHistory.recordRefund now order back)) rest (toRestore - back)
        (out.1, (k, back) :: out.2.1, out.2.2.1, out.2.2.2)

/-- `refund_used_points`. -/
def refundUsedPoints (L : Ledger) (now : Time) (user : UserId) (amount : Int) (order : OrderId)
    (type : PointType := .cancelRefund) (returnId : Option Nat := none) :
    RefundResult × Ledger :=
  if amount ≤ 0 then (⟨false, 0, [], 0, 0⟩, L)
  else
    let out := restoreLoop now order (outstanding L order) L (earnRows L order) amount
    let restored := out.2.1
    let expiredNow := out.2.2.1
    let toRestore := out.2.2.2
    let refundId := out.1.histories.next
    let credited := (out.1.setPoints user (out.1.points user + amount)).createHistory now user
      amount type (some order)
      { restoredDetails := restored, expiredOnRefund := expiredNow, unbacked := toRestore,
        returnId := returnId }
    let closed :=
      if 0 < expiredNow then
        (credited.setPoints user (max (credited.points user - expiredNow) 0)).createHistory now
          user (-expiredNow) .expire (some order)
          { refundHistoryId := some refundId, expiredAmount := some expiredNow }
      else credited
    (⟨true, amount, restored, expiredNow, toRestore⟩, closed)

/-! ## The expiry batch -/

/-- `get_expired_points`: the due earn rows that are not flagged, by expiry
date and id. -/
def getExpiredPoints (L : Ledger) (now : Time) : List (Nat × PointHistory) :=
  (L.histories.select fun _ r =>
    decide (r.type = .earn) && (r.expiresAt.any fun e => decide (e ≤ now)) &&
      !r.metadata.expired).insertionSort fun p q =>
        p.2.expiry < q.2.expiry ∨ (p.2.expiry = q.2.expiry ∧ p.1 ≤ q.1)

/-- `_expire_one` on the row `k`, which the batch read as `seen`. -/
def expireOne (L : Ledger) (now : Time) (k : Nat) (seen : PointHistory) :
    Except DbError (Bool × Ledger) :=
  if seen.remainingPoints ≤ 0 then .ok (false, L)
  else
    match L.histories.get? k with
    | none => .error .doesNotExist
    | some current =>
      if current.metadata.expired then .ok (false, L)
      else
        let remaining := current.remainingPoints
        if remaining ≤ 0 then .ok (false, L)
        else
          let debited := L.setPoints seen.user (max (L.points seen.user - remaining) 0)
          let logged := debited.createHistory now seen.user (-remaining) .expire none
            { originalHistoryId := some k, expiredAmount := some remaining }
          .ok (true, logged.saveRow k (PointHistory.recordExpiry now remaining))

/-- The loop of `expire_points`: each row is a transaction of its own, and
one that raises (`fails` are the rows the database refuses) leaves the others
alone.  Answers the count and the failed rows. -/
def expireLoop (now : Time) (fails : Nat → Bool) (L : Ledger) :
    List (Nat × PointHistory) → Ledger × Nat × List Nat
  | [] => (L, 0, [])
  | (k, seen) :: rest =>
    match (if fails k then .error .integrityError else expireOne L now k seen) with
    | .error _ =>
      let out := expireLoop now fails L rest
      (out.1, out.2.1, k :: out.2.2)
    | .ok (done, L') =>
      let out := expireLoop now fails L' rest
      (out.1, (if done then 1 else 0) + out.2.1, out.2.2)

/-- `PointExpiryIncompleteError`. -/
structure PointExpiryIncompleteError where
  expiredCount : Nat
  failedHistoryIds : List Nat
  deriving DecidableEq, Repr

/-- `expire_points`: what it answers or raises, and what it committed. -/
def expirePoints (L : Ledger) (now : Time) (fails : Nat → Bool) :
    Except PointExpiryIncompleteError Nat × Ledger :=
  let out := expireLoop now fails L (getExpiredPoints L now)
  if out.2.2 ≠ [] then (.error ⟨out.2.1, out.2.2⟩, out.1) else (.ok out.2.1, out.1)

end PointService

end Shopping
