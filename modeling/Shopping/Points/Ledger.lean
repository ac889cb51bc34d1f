import Shopping.Lib.Table

/-!
# The point ledger

`PointHistory` of `shopping/models/point.py` and the two places that hold a
user's points: the cached balance `user.points` and the history rows.  A row
is append-only except for its `metadata`, where an earn row keeps how much of
it is used and whether it is expired.

`Metadata` holds the keys that the point code writes.  The keys a caller adds
are left out, except `return_id`, which the refund of a return reads back.
`Details` are the `used_details` and `restored_details` lists, an earn row's
id and an amount for each entry; the copy of the row's own `expires_at` in
such an entry is left out, nothing reads it.
-/

namespace Shopping

abbrev UserId := Nat
abbrev OrderId := Nat

/-- Seconds of the server clock. -/
abbrev Time := Nat

/-- `PointHistory.TYPE_CHOICES`. -/
inductive PointType where
  | earn
  | use
  | cancelRefund
  | cancelDeduct
  | paymentFailRefund
  | expire
  | adminAdd
  | adminDeduct
  | event
  deriving DecidableEq, Repr

/-- The types that put points on the account: `positive_types` of
`PointHistory.clean`, and the refund of a failed payment. -/
def PointType.isPositive : PointType → Bool
  | .earn | .cancelRefund | .paymentFailRefund | .adminAdd | .event => true
  | .use | .cancelDeduct | .expire | .adminDeduct => false

/-- `USED_POINTS_REFUND_TYPES`. -/
def PointType.isUsedPointsRefund : PointType → Bool
  | .cancelRefund | .paymentFailRefund => true
  | _ => false

/-- Entries of `used_details` and `restored_details`: `history_id`, `amount`. -/
abbrev Details := List (Nat × Int)

/-- The `metadata` of a history row. -/
structure Metadata where
  usedAmount : Int := 0
  usageHistory : List (Int × Time) := []
  refundHistory : List (Int × OrderId × Time) := []
  expired : Bool := false
  expiredAt : Option Time := none
  expiredAmount : Option Int := none
  originalHistoryId : Option Nat := none
  usedDetails : Details := []
  restoredDetails : Details := []
  expiredOnRefund : Int := 0
  unbacked : Int := 0
  refundHistoryId : Option Nat := none
  returnId : Option Nat := none
  expiryNotified : Bool := false
  notifiedAt : Option Time := none
  deriving DecidableEq, Repr

/-- A row of `shopping_point_history`.  `create_history` gives every earn row
an expiry date, and no update touches the column. -/
structure PointHistory where
  user : UserId
  points : Int
  balance : Int
  type : PointType
  order : Option OrderId
  expiresAt : Option Time
  createdAt : Time
  metadata : Metadata
  earn_expires : type = .earn → expiresAt.isSome = true

/-- One year, the lifetime of earned points. -/
def earnLifetime : Time := 365 * 24 * 60 * 60

namespace PointHistory

/-- The row that `create_history` writes. -/
def create (now : Time) (user : UserId) (points balance : Int) (type : PointType)
    (order : Option OrderId) (metadata : Metadata) : PointHistory where
  user := user
  points := points
  balance := balance
  type := type
  order := order
  expiresAt := if type = .earn then some (now + earnLifetime) else none
  createdAt := now
  metadata := metadata
  earn_expires := by
    intro h
    rw [if_pos h]
    rfl

/-- The expiry date of an earn row. -/
def expiry (r : PointHistory) : Time := r.expiresAt.getD 0

/-- `remaining_points`: what is left of an earn row, 0 for any other row and
for an expired one. -/
def remainingPoints (r : PointHistory) : Int :=
  if r.type ≠ .earn then 0
  else if r.metadata.expired then 0
  else max 0 (r.points - r.metadata.usedAmount)

/-- `metadata` of an earn row after `amount` of it is used. -/
def recordUse (now : Time) (amount : Int) (r : PointHistory) : PointHistory :=
  { r with metadata :=
    { r.metadata with
      usedAmount := r.metadata.usedAmount + amount
      usageHistory := r.metadata.usageHistory ++ [(amount, now)] } }

/-- `metadata` of an earn row after `back` of its use by `order` is undone. -/
def recordRefund (now : Time) (order : OrderId) (back : Int) (r : PointHistory) : PointHistory :=
  { r with metadata :=
    { r.metadata with
      usedAmount := max 0 (r.metadata.usedAmount - back)
      refundHistory := r.metadata.refundHistory ++ [(back, order, now)] } }

/-- `metadata` of an earn row that the batch expired. -/
def recordExpiry (now : Time) (remaining : Int) (r : PointHistory) : PointHistory :=
  { r with metadata :=
    { r.metadata with
      expired := true
      expiredAt := some now
      expiredAmount := some remaining } }

theorem remainingPoints_nonneg (r : PointHistory) : 0 ≤ r.remainingPoints := by
  unfold remainingPoints
  split_ifs
  · exact le_refl 0
  · exact le_refl 0
  · exact le_max_left _ _

theorem remainingPoints_of_ne {r : PointHistory} (h : r.type ≠ .earn) :
    r.remainingPoints = 0 := by
  rw [remainingPoints, if_pos h]

/-- Only an earn row that is not expired has something left. -/
theorem live_of_remainingPoints_pos {r : PointHistory} (h : 0 < r.remainingPoints) :
    r.type = .earn ∧ r.metadata.expired = false ∧
      r.remainingPoints = r.points - r.metadata.usedAmount := by
  unfold remainingPoints at h ⊢
  split_ifs at h ⊢ with h1 h2
  · exact absurd h (lt_irrefl 0)
  · exact absurd h (lt_irrefl 0)
  · refine ⟨not_not.mp h1, by simpa using h2, ?_⟩
    rcases max_cases 0 (r.points - r.metadata.usedAmount) with ⟨hm, _⟩ | ⟨hm, _⟩
    · rw [hm] at h
      exact absurd h (lt_irrefl 0)
    · exact hm

end PointHistory

/-- The point state: `user.points` of every user, and the history table. -/
structure Ledger where
  points : UserId → Int
  histories : Table PointHistory

namespace Ledger

/-- No history and no points. -/
def empty : Ledger := ⟨fun _ => 0, Table.empty⟩

/-- `User.objects.filter(pk=user).update(points=...)`. -/
def setPoints (L : Ledger) (user : UserId) (points : Int) : Ledger :=
  { L with points := Function.update L.points user points }

/-- Add the row of `create_history`, with `user.points` as its balance. -/
def createHistory (L : Ledger) (now : Time) (user : UserId) (points : Int) (type : PointType)
    (order : Option OrderId) (metadata : Metadata) : Ledger :=
  let row := PointHistory.create now user points (L.points user) type order metadata
  { L with histories := L.histories.insert row }

/-- `PointHistory.save(update_fields=["metadata"])` on the row `k`. -/
def saveRow (L : Ledger) (k : Nat) (f : PointHistory → PointHistory) : Ledger :=
  { L with histories := L.histories.modify k f }

/-- The rows of one user, oldest first. -/
def rowsOf (L : Ledger) (user : UserId) : List (Nat × PointHistory) :=
  L.histories.select fun _ r => decide (r.user = user)

/-- Whether row `p` comes before row `q` under `order_by("-created_at", "-id")`. -/
def newer (p q : Nat × PointHistory) : Bool :=
  decide (q.2.createdAt < p.2.createdAt) ||
    (decide (q.2.createdAt = p.2.createdAt) && decide (q.1 < p.1))

/-- `order_by("-created_at", "-id").first()`. -/
def newest : List (Nat × PointHistory) → Option (Nat × PointHistory)
  | [] => none
  | p :: rest =>
    match newest rest with
    | none => some p
    | some q => if newer p q then some p else some q

/-- `PointHistory.get_user_balance`: the balance of the newest row, 0 without
a row. -/
def getUserBalance (L : Ledger) (user : UserId) : Int :=
  match newest (L.rowsOf user) with
  | none => 0
  | some p => p.2.balance

@[simp] theorem setPoints_histories (L : Ledger) (u : UserId) (p : Int) :
    (L.setPoints u p).histories = L.histories := rfl

@[simp] theorem setPoints_points_self (L : Ledger) (u : UserId) (p : Int) :
    (L.setPoints u p).points u = p := Function.update_self ..

theorem setPoints_points_of_ne (L : Ledger) {u v : UserId} (h : v ≠ u) (p : Int) :
    (L.setPoints u p).points v = L.points v := Function.update_of_ne h ..

@[simp] theorem createHistory_points (L : Ledger) (now : Time) (u : UserId) (p : Int)
    (type : PointType) (order : Option OrderId) (m : Metadata) :
    (L.createHistory now u p type order m).points = L.points := rfl

@[simp] theorem saveRow_points (L : Ledger) (k : Nat) (f : PointHistory → PointHistory) :
    (L.saveRow k f).points = L.points := rfl

end Ledger

end Shopping
