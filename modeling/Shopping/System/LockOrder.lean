import Mathlib.Data.Prod.Lex
import Shopping.Points.Refunds
import Shopping.Points.Uses
import Shopping.System.RowLocks
import Shopping.System.World

/-!
# The order of the row locks

The shop has no stated order of all its rows, only pieces of one in comments:
payment before order before user, products by id, the user before the earn
rows.  `Row.place` puts them together, with the carts after the orders, and
the products before the user as the order tasks have them.

`Txn.goesBack` are the branches that ask for a row below one that they hold, as
a test on what a transaction reads.  `Txn.climbs` says that there are no others,
and `no_cyclicWait` that transactions which take none of them never come to a
cycle of waits, whatever rows they share.
-/

namespace Shopping

open Locks

/-! ## Places -/

namespace Row

/-- The table of the row. -/
def kind : Row → Nat
  | .payment _ => 0
  | .order _ => 1
  | .cart _ => 2
  | .product _ => 3
  | .user _ => 4
  | .pointHistory _ _ => 5

/-- The key of the row; earn rows have no order among themselves. -/
def number : Row → Nat
  | .payment k => k
  | .order o => o
  | .cart c => c
  | .product p => p
  | .user u => u
  | .pointHistory _ _ => 0

def place (r : Row) : Nat ×ₗ Nat := toLex (r.kind, r.number)

/-- Earn rows are locked under the lock of their user. -/
def guard : Row → Option Row
  | .pointHistory u _ => some (.user u)
  | _ => none

theorem place_le {r r' : Row} : r.place ≤ r'.place ↔
    r.kind < r'.kind ∨ r.kind = r'.kind ∧ r.number ≤ r'.number := by
  unfold place
  rw [Prod.Lex.toLex_le_toLex]

theorem place_le_of_kind_lt {r r' : Row} (h : r.kind < r'.kind) : r.place ≤ r'.place :=
  place_le.mpr (Or.inl h)

/-- Only earn rows share a place. -/
theorem place_inj (r r' : Row) (h : r.place = r'.place) : r = r' ∨ r.guard.isSome = true := by
  have hpair : (r.kind, r.number) = (r'.kind, r'.number) := toLex.injective h
  rw [Prod.mk.injEq] at hpair
  cases r <;> cases r' <;> simp_all [kind, number, guard]

end Row

namespace RowLocks

/-- Who holds `held` asks for `rows` in order. -/
abbrev Climbs (held rows : List Row) : Prop := Ascends Row.place Row.guard held rows

/-- The next call on the points may lock the user. -/
def UserNext (u : UserId) (held : List Row) : Prop :=
  .user u ∈ held ∨ ∀ r ∈ held, r.kind < 4

section

variable {held : List Row}

/-- A row without guard above all that are held. -/
theorem inOrder_of_le {r : Row} (hheld : ∀ h ∈ held, h.place ≤ r.place) (hguard : r.guard = none) :
    InOrder Row.place Row.guard held r := by
  refine Or.inr ⟨hheld, ?_⟩
  intro g hg
  rw [hguard] at hg
  cases hg

theorem inOrder_of_kind {r : Row} (hheld : ∀ h ∈ held, h.kind < r.kind) (hguard : r.guard = none) :
    InOrder Row.place Row.guard held r :=
  inOrder_of_le (fun h hh => Row.place_le_of_kind_lt (hheld h hh)) hguard

theorem climbs_map {f : Nat → Row} {n : Nat} {ks : List Nat} (hkind : ∀ k, (f k).kind = n)
    (hnumber : ∀ k, (f k).number = k) (hguard : ∀ k, (f k).guard = none)
    (hheld : ∀ h ∈ held, h.kind < n) (hks : ks.Pairwise (· ≤ ·)) : Climbs held (ks.map f) := by
  apply ascends_of_pairwise
  · intro h hh r hr
    obtain ⟨k, _, rfl⟩ := List.mem_map.mp hr
    apply Row.place_le_of_kind_lt
    rw [hkind]
    exact hheld h hh
  · rw [List.pairwise_map]
    apply hks.imp
    intro a b hab
    rw [Row.place_le, hkind, hkind, hnumber, hnumber]
    exact Or.inr ⟨rfl, hab⟩
  · intro r hr g hg
    obtain ⟨k, _, rfl⟩ := List.mem_map.mp hr
    rw [hguard] at hg
    cases hg

/-! ## Carts and products -/

/-- The products of the items come in the order of their keys. -/
def SortedItems (items : List OrderItem) : Prop :=
  (items.filterMap OrderItem.product).Pairwise (· ≤ ·)

instance (items : List OrderItem) : Decidable (SortedItems items) :=
  inferInstanceAs (Decidable (List.Pairwise _ _))

theorem kind_products {items : List OrderItem} {r : Row} (h : r ∈ products items) : r.kind = 3 := by
  obtain ⟨k, _, rfl⟩ := List.mem_map.mp h
  rfl

theorem climbs_products {items : List OrderItem} (hheld : ∀ h ∈ held, h.kind < 3)
    (hitems : SortedItems items) : Climbs held (products items) :=
  climbs_map (fun _ => rfl) (fun _ => rfl) (fun _ => rfl) hheld hitems

/-- The user has a cart that the settlement of an order puts away. -/
def hasActiveCart (db : Db) (user : UserId) : Bool :=
  db.carts.any fun _ c => decide (c.user = some user) && c.isActive

theorem deactivateCarts_eq_nil {db : Db} {user : UserId} (h : hasActiveCart db user = false) :
    deactivateCarts db user = [] := by
  unfold deactivateCarts
  rw [List.map_eq_nil_iff, List.eq_nil_iff_forall_not_mem]
  intro p hp
  obtain ⟨hget, hp⟩ := Table.mem_select.mp hp
  rw [Table.any_eq_false.mp h p.1 p.2 hget] at hp
  cases hp

/-! ## Points -/

/-- The earn rows come under the lock of their user. -/
theorem climbs_histories {u : UserId} {rows : List (Nat × PointHistory)} (huser : .user u ∈ held)
    (hrows : ∀ p ∈ rows, p.2.user = u) : Climbs held (histories rows) := by
  have htop : ∀ r r' : Row, r'.kind = 5 → r'.number = 0 → r.place ≤ r'.place := by
    intro r r' hkind hnumber
    rw [Row.place_le, hkind, hnumber]
    cases r <;> simp [Row.kind, Row.number]
  have hrow : ∀ r ∈ histories rows, ∃ k, r = .pointHistory u k := by
    intro r hr
    obtain ⟨p, hp, rfl⟩ := List.mem_map.mp hr
    exact ⟨p.1, by rw [hrows p hp]⟩
  apply ascends_of_pairwise
  · intro h _ r hr
    obtain ⟨k, rfl⟩ := hrow r hr
    exact htop h _ rfl rfl
  · apply List.pairwise_of_forall_mem_list
    intro a _ b hb
    obtain ⟨k, rfl⟩ := hrow b hb
    exact htop a _ rfl rfl
  · intro r hr g hg
    obtain ⟨k, rfl⟩ := hrow r hr
    cases hg
    exact huser

theorem UserNext.inOrder {u : UserId} (h : UserNext u held) :
    InOrder Row.place Row.guard held (.user u) := by
  rcases h with hmem | hkind
  · exact Or.inl hmem
  · exact inOrder_of_kind hkind rfl

/-- A call on the points: the user, and then its earn rows. -/
theorem climbs_points {u : UserId} {rows : List (Nat × PointHistory)} (h : UserNext u held)
    (hrows : ∀ p ∈ rows, p.2.user = u) : Climbs held (.user u :: histories rows) :=
  ⟨h.inOrder, climbs_histories (by simp) hrows⟩

theorem climbs_usePointsFifo {L : Ledger} {now : Time} {u : UserId} {amount : Int}
    {type : PointType} (h : UserNext u held) :
    Climbs held (usePointsFifo L now u amount type) := by
  unfold usePointsFifo
  split
  · exact ascends_nil held
  · split
    · exact ⟨h.inOrder, ascends_nil _⟩
    · apply climbs_points h
      intro p hp
      obtain ⟨_, husable⟩ := (mem_availablePoints L now u type).mp hp
      exact (isUsable_user husable).1

/-- The uses of the order drew on rows of its user only. -/
def ownRows (L : Ledger) (o : OrderId) (u : UserId) : Bool :=
  (PointService.earnRows L o).all fun p => decide (p.2.user = u)

theorem climbs_refundUsedPoints {L : Ledger} {u : UserId} {amount : Int} {o : OrderId}
    (h : UserNext u held) (hown : ownRows L o u = true) :
    Climbs held (refundUsedPoints L u amount o) := by
  unfold refundUsedPoints
  split
  · exact ascends_nil held
  · apply climbs_points h
    intro p hp
    exact of_decide_eq_true (List.all_eq_true.mp hown p hp)

/-! ## The transactions in order -/

/-- The items and the earn rows of the order stand in order. -/
def tidy (db : Db) (o : OrderId) (order : Order) : Bool :=
  decide (SortedItems order.items) && ownRows db.ledger o order.user

/-- Products, and then the used points. -/
theorem climbs_giveBack {db : Db} {o : OrderId} {order : Order} (hheld : ∀ h ∈ held, h.kind < 3)
    (htidy : tidy db o order = true) (amount : Int) :
    Climbs held (products order.items ++ refundUsedPoints db.ledger order.user amount o) := by
  rw [tidy, Bool.and_eq_true, decide_eq_true_eq] at htidy
  refine (ascends_append _ _ _).mpr
    ⟨climbs_products hheld htidy.1, climbs_refundUsedPoints (Or.inr ?_) htidy.2⟩
  intro r hr
  rcases List.mem_append.mp hr with hr | hr
  · have hkind := hheld r hr
    omega
  · rw [kind_products hr]
    omega

theorem climbs_earnOnDone {db : Db} {order : Order} (hheld : ∀ r ∈ held, r.kind < 4) :
    Climbs held (earnOnDone db order) := by
  unfold earnOnDone addPoints
  split
  · exact ascends_nil held
  · split
    · exact ascends_nil held
    · exact ⟨inOrder_of_kind hheld rfl, ascends_nil _⟩

end

/-- The first row of a transaction is in order. -/
theorem inOrder_first {r : Row} (hguard : r.guard = none) : InOrder Row.place Row.guard [] r :=
  inOrder_of_le (by simp) hguard

section

variable {db : Db} {now : Time} {o : OrderId}

theorem climbs_createPayment {user : UserId} {key : Option String}
    (hnew : PaymentService.checkIdempotencyKey db now key o user = none →
      ∀ order, db.orders.get? o = some order → db.payments.ofOrder? o = none) :
    Climbs [] (createPayment db now o user key) := by
  unfold createPayment
  cases hkey : PaymentService.checkIdempotencyKey db now key o user with
  | some k => exact ascends_nil []
  | none =>
    cases hget : db.orders.get? o with
    | none => exact ascends_nil []
    | some order =>
      dsimp only
      rw [hnew hkey order hget]
      exact ⟨inOrder_first rfl, ascends_nil _⟩

/-- The cancellation of an order has a payment to close, or its items are not
in order. -/
def closesBehind (db : Db) (o : OrderId) (order : Order) : Bool :=
  order.status.isUnpaid &&
    match db.payments.ofOrder? o with
    | none => !tidy db o order
    | some (_, payment) => !payment.status.isLive

theorem climbs_cancelOrder {held : List Row} (hheld : ∀ h ∈ held, h = .order o)
    (hcloses : ∀ order, db.orders.get? o = some order → closesBehind db o order = false) :
    Climbs held (cancelOrder db o) := by
  have hfirst : InOrder Row.place Row.guard held (.order o) := by
    apply inOrder_of_le _ rfl
    intro h hh
    rw [hheld h hh]
  have hkind : ∀ h ∈ held ++ [Row.order o], h.kind < 3 := by
    intro h hh
    rw [List.mem_append, List.mem_singleton] at hh
    rcases hh with hh | rfl
    · rw [hheld h hh]
      show 1 < 3
      omega
    · show 1 < 3
      omega
  unfold cancelOrder
  cases hget : db.orders.get? o with
  | none => exact ascends_nil held
  | some order =>
    have hback := hcloses order hget
    unfold closesBehind at hback
    refine ⟨hfirst, ?_⟩
    split
    · exact ascends_nil _
    · rename_i hunpaid
      rw [Bool.not_eq_false] at hunpaid
      rw [hunpaid, Bool.true_and] at hback
      cases hpayment : db.payments.ofOrder? o with
      | none =>
        rw [hpayment, Bool.not_eq_false'] at hback
        have hboth := climbs_giveBack hkind hback order.usedPoints
        dsimp only
        split
        · exact hboth
        · rw [List.append_nil]
          exact ((ascends_append _ _ _).mp hboth).1
      | some e =>
        rw [hpayment, Bool.not_eq_false'] at hback
        dsimp only
        rw [if_pos hback]
        exact ascends_nil _

theorem climbs_expireOrder
    (hcloses : ∀ order, db.orders.get? o = some order → closesBehind db o order = false) :
    Climbs [] (expireOrder db o) := by
  unfold expireOrder
  split
  · exact ascends_nil []
  · refine ⟨inOrder_first rfl, ?_⟩
    split
    · exact ascends_nil _
    · exact climbs_cancelOrder (by simp) hcloses

theorem climbs_rollbackPaymentFailure
    (hopen : ∀ order, db.orders.get? o = some order →
      order.status = .pending ∨ order.status = .confirmed → tidy db o order = true ∧
        ∀ e, db.payments.ofOrder? o = some e → e.2.status = .aborted ∨ e.2.status = .expired) :
    Climbs [] (rollbackPaymentFailure db o) := by
  unfold rollbackPaymentFailure
  cases hget : db.orders.get? o with
  | none => exact ascends_nil []
  | some order =>
    refine ⟨inOrder_first rfl, ?_⟩
    split
    · exact ascends_nil _
    · rename_i hstatus
      obtain ⟨htidy, hfailed⟩ := hopen order hget (by tauto)
      rw [ascends_append]
      refine ⟨climbs_giveBack (by simp [Row.kind]) htidy _, ?_⟩
      cases hpayment : db.payments.ofOrder? o with
      | none => exact ascends_nil _
      | some e =>
        dsimp only
        rw [if_pos (hfailed e hpayment)]
        exact ascends_nil _

/-- The settlement of the order puts a cart away, or its items are not in
order. -/
def settlesBehind (db : Db) (user : UserId) (order : Order) : Bool :=
  hasActiveCart db user || !decide (SortedItems order.items)

theorem climbs_settlement {held : List Row} {user : UserId} {order : Order}
    (hheld : ∀ h ∈ held, h.kind < 3) (h : settlesBehind db user order = false) :
    Climbs held (products order.items ++ deactivateCarts db user) := by
  rw [settlesBehind, Bool.or_eq_false_iff, Bool.not_eq_false', decide_eq_true_eq] at h
  rw [deactivateCarts_eq_nil h.1, List.append_nil]
  exact climbs_products hheld h.2

theorem climbs_finalizePaymentConfirm {response : TossPayment} {k : Nat} {user : UserId}
    (hopen : ∀ p order, db.payments.get? k = some p → db.orders.get? p.order = some order →
      p.isPaid = false → response.status ≠ some .waitingForDeposit → order.status ≠ .canceled →
        settlesBehind db user order = false) :
    Climbs [] (finalizePaymentConfirm db now response k user) := by
  unfold finalizePaymentConfirm
  cases hpayment : db.payments.get? k with
  | none => exact ascends_nil []
  | some payment =>
    refine ⟨inOrder_first rfl, ?_⟩
    split
    · exact ascends_nil _
    · rename_i hunsettled
      rw [not_or, Bool.not_eq_true] at hunsettled
      cases hget : db.orders.get? payment.order with
      | none => exact ascends_nil _
      | some order =>
        refine ⟨inOrder_of_kind (by simp [Row.kind]) rfl, ?_⟩
        split
        · exact ascends_nil _
        · rename_i hgoes
          rw [not_or] at hgoes
          exact climbs_settlement (by simp [Row.kind])
            (hopen payment order hpayment hget hunsettled.1 hunsettled.2 hgoes.2)

/-- The view lets the order, as it read it, be paid with points. -/
def paidWithPoints (seen : Order) : Bool :=
  decide (seen.status = .confirmed ∧ seen.finalAmount = 0 ∧
    seen.totalAmount + seen.getTotalShippingFee - seen.usedPoints ≤ 0)

theorem climbs_completePointsOnlyPayment {seen : Order} {user : UserId}
    (hpaid : paidWithPoints seen = true → ∀ order, db.orders.get? o = some order →
      match db.payments.ofOrder? o with
      | none => settlesBehind db user order = false
      | some e => e.2.isPaid = true) :
    Climbs [] (completePointsOnlyPayment db o seen user) := by
  unfold completePointsOnlyPayment
  split
  · exact ascends_nil []
  · rename_i hseen
    have hpoints : paidWithPoints seen = true := by
      rw [not_or, not_or, not_not, not_not, not_lt] at hseen
      exact decide_eq_true hseen
    cases hget : db.orders.get? o with
    | none => exact ascends_nil []
    | some order =>
      have hfound := hpaid hpoints order hget
      refine ⟨inOrder_first rfl, ?_⟩
      cases hpayment : db.payments.ofOrder? o with
      | none =>
        rw [hpayment] at hfound
        exact climbs_settlement (by simp [Row.kind]) hfound
      | some e =>
        rw [hpayment] at hfound
        dsimp only
        rw [if_pos hfound]
        exact ascends_nil _

theorem climbs_handlePaymentDone {event : TossPayment}
    (hfound : ∀ id e order, event.orderId = some id →
      TossWebhookService.isWebhookDuplicate db now id .done = false →
      db.payments.ofTossOrderId? id = some e → e.2.status.isOpen = true →
      db.orders.get? e.2.order = some order → order.status ≠ .canceled → order.status ≠ .paid →
      settlesBehind db order.user order = false) :
    Climbs [] (handlePaymentDone db now event) := by
  unfold handlePaymentDone
  cases hid : event.orderId with
  | none => exact ascends_nil []
  | some id =>
    dsimp only
    split
    · exact ascends_nil []
    · rename_i hfirst
      rw [Bool.not_eq_true] at hfirst
      cases hpayment : db.payments.ofTossOrderId? id with
      | none => exact ascends_nil []
      | some e =>
        refine ⟨inOrder_first rfl, ?_⟩
        split
        · exact ascends_nil _
        · rename_i hopen
          rw [Bool.not_eq_false] at hopen
          cases hget : db.orders.get? e.2.order with
          | none => exact ascends_nil _
          | some order =>
            refine ⟨inOrder_of_kind (by simp [Row.kind]) rfl, ?_⟩
            split
            · exact ascends_nil _
            · rename_i hstatus
              rw [not_or, not_or] at hstatus
              have hbehind :=
                hfound id e order hid hfirst hpayment hopen hget hstatus.2.1 hstatus.2.2
              rw [ascends_append]
              refine ⟨climbs_settlement (by simp [Row.kind]) hbehind, climbs_earnOnDone ?_⟩
              rw [settlesBehind, Bool.or_eq_false_iff] at hbehind
              rw [deactivateCarts_eq_nil hbehind.1, List.append_nil]
              intro r hr
              simp only [List.nil_append, List.cons_append, List.mem_cons] at hr
              rcases hr with rfl | rfl | hr
              · show 0 < 4
                omega
              · show 1 < 4
                omega
              · rw [kind_products hr]
                omega

theorem climbs_handlePaymentCanceled {event : TossPayment}
    (hfound : ∀ id e order, event.orderId = some id →
      TossWebhookService.isWebhookDuplicate db now id .canceled = false →
      db.payments.ofTossOrderId? id = some e → e.2.isCanceled = false → e.2.status ≠ .aborted →
      db.orders.get? e.2.order = some order → order.status = .canceled) :
    Climbs [] (handlePaymentCanceled db now event) := by
  unfold handlePaymentCanceled
  cases hid : event.orderId with
  | none => exact ascends_nil []
  | some id =>
    dsimp only
    split
    · exact ascends_nil []
    · rename_i hfirst
      rw [Bool.not_eq_true] at hfirst
      cases hpayment : db.payments.ofTossOrderId? id with
      | none => exact ascends_nil []
      | some e =>
        refine ⟨inOrder_first rfl, ?_⟩
        split
        · exact ascends_nil _
        · rename_i hopen
          rw [not_or, Bool.not_eq_true] at hopen
          cases hget : db.orders.get? e.2.order with
          | none => exact ascends_nil _
          | some order =>
            have hcanceled := hfound id e order hid hfirst hpayment hopen.1 hopen.2 hget
            dsimp only
            rw [if_pos (Or.inr hcanceled)]
            exact ascends_nil _

theorem climbs_cancelPayment {k : Nat} {user : UserId}
    {toss : Except TossPaymentError TossPayment}
    (hpaid : ∀ p order, db.payments.get? k = some p → db.orders.get? p.order = some order →
      order.user = user → p.status = .done → order.status = .paid →
      order.earnedPoints ≤ 0 ∧ tidy db p.order order = true) :
    Climbs [] (cancelPayment db now k user toss) := by
  unfold cancelPayment
  cases hpayment : db.payments.get? k with
  | none => exact ascends_nil []
  | some payment =>
    dsimp only
    cases hget : db.orders.get? payment.order with
    | none => exact ascends_nil []
    | some order =>
      dsimp only
      split
      · exact ascends_nil []
      · rename_i huser
        have howner : order.user = user := not_not.mp huser
        refine ⟨inOrder_first rfl, inOrder_of_kind (by simp [Row.kind]) rfl, ?_⟩
        split
        · exact ascends_nil _
        · rename_i hdone
          rw [not_or, not_not] at hdone
          split
          · exact ascends_nil _
          · rename_i hstatus
            by_cases hcanceled : order.status = .canceled
            · rw [if_pos (Or.inl hcanceled), List.nil_append]
              split
              · rw [if_pos (Or.inr hcanceled)]
                exact ascends_nil _
              · exact ascends_nil _
            · have hstill : order.status = .paid := by tauto
              obtain ⟨hearned, htidy⟩ := hpaid payment order hpayment hget howner hdone.2 hstill
              have hdeduct : ∀ L, deductEarned L now user order = [] := by
                intro L
                exact if_pos (Or.inl hearned)
              rw [if_pos (Or.inr hearned), List.nil_append]
              split
              · split
                · exact ascends_nil _
                · rw [hdeduct, List.append_nil, ← howner]
                  exact climbs_giveBack (by simp [Row.kind]) htidy _
              · exact ascends_nil _

theorem climbs_settleReturn {held : List Row} {r : Return} {s : RefundSplit} {id : Nat}
    (hheld : .user r.user ∈ held) (hitems : ∀ it ∈ r.items, it.product = none)
    (hown : ownRows db.ledger r.order r.user = true) :
    Climbs held (settleReturn db now r s id) := by
  have hnone : returnedProducts r.items = [] := by
    unfold returnedProducts
    rw [List.map_eq_nil_iff, List.filterMap_eq_nil_iff]
    exact hitems
  unfold settleReturn
  rw [hnone, List.nil_append]
  refine (ascends_append _ _ _).mpr ⟨climbs_refundUsedPoints (Or.inl hheld) hown, ?_⟩
  split
  · exact ascends_nil _
  · exact climbs_usePointsFifo (Or.inl (List.mem_append_left _ hheld))

theorem climbs_checkedReturn {held : List Row} {r : Return} {s : RefundSplit} {id : Nat}
    {toss : Except TossPaymentError TossPayment} (hheld : .user r.user ∈ held)
    (hitems : ∀ it ∈ r.items, it.product = none)
    (hown : ownRows db.ledger r.order r.user = true) :
    Climbs held (checkedReturn db now r s id toss) := by
  have hsettle : Climbs held (settleReturn db now r s id) := climbs_settleReturn hheld hitems hown
  unfold checkedReturn
  split
  · split
    · exact hsettle
    · split
      · split
        · exact hsettle
        · exact ascends_nil held
      · exact ascends_nil held
  · exact ascends_nil held

theorem climbs_completeRefund {id : Nat} {toss : Except TossPaymentError TossPayment}
    (hreturn : ∀ r, db.returns.get? id = some r → r.type = .refund → r.status = .received →
      ReturnService.isSettled db id = false →
      (∀ it ∈ r.items, it.product = none) ∧ ownRows db.ledger r.order r.user = true) :
    Climbs [] (completeRefund db now id toss) := by
  unfold completeRefund
  cases hget : db.returns.get? id with
  | none => exact ascends_nil []
  | some r =>
    dsimp only
    split
    · exact ascends_nil []
    · rename_i hfirst
      rw [not_or, not_or, not_not, not_not, Bool.not_eq_true] at hfirst
      obtain ⟨hitems, hown⟩ := hreturn r hget hfirst.1 hfirst.2.1 hfirst.2.2
      have hpayment : Climbs [] (paymentOf db r.order) := by
        unfold paymentOf
        cases db.payments.ofOrder? r.order with
        | none => exact ascends_nil []
        | some e => exact ⟨inOrder_first rfl, ascends_nil _⟩
      have hkind : ∀ x ∈ paymentOf db r.order, x.kind = 0 := by
        intro x hx
        unfold paymentOf at hx
        rw [Option.mem_toList, Option.map_eq_some_iff] at hx
        obtain ⟨e, _, rfl⟩ := hx
        rfl
      refine (ascends_append _ _ _).mpr ⟨hpayment, ?_⟩
      cases db.orders.get? r.order with
      | none => exact ascends_nil _
      | some order =>
        refine ⟨inOrder_of_kind (fun x hx => ?_) rfl, inOrder_of_kind (fun x hx => ?_) rfl, ?_⟩
        · rw [hkind x hx]
          show 0 < 1
          omega
        · rw [List.nil_append, List.mem_append, List.mem_singleton] at hx
          rcases hx with hx | rfl
          · rw [hkind x hx]
            show 0 < 4
            omega
          · show 1 < 4
            omega
        · exact climbs_checkedReturn (by simp) hitems hown

/-! ### The order task -/

instance : Std.Total OrderTasks.byProduct := ⟨fun x y => Nat.le_total x.product y.product⟩

instance : IsTrans CartItem OrderTasks.byProduct := ⟨fun _ _ _ h h' => Nat.le_trans h h'⟩

/-- The loop locks the products of the cart up to the one that ends it. -/
theorem takeItems_begins (table : Table Product) (items : List CartItem) :
    takeItems table items <+: (items.map CartItem.product).map Row.product := by
  induction items generalizing table with
  | nil => exact List.prefix_refl []
  | cons it rest ih =>
    rw [takeItems, List.map_cons, List.map_cons]
    split
    · exact List.nil_prefix
    · rw [List.prefix_cons_inj]
      split
      · exact List.nil_prefix
      · exact ih _

theorem climbs_takeItems {held : List Row} (hheld : ∀ h ∈ held, h.kind < 3)
    (table : Table Product) (items : List CartItem) :
    Climbs held (takeItems table (items.insertionSort OrderTasks.byProduct)) := by
  have hsorted : ((items.insertionSort OrderTasks.byProduct).map CartItem.product).Pairwise
      (· ≤ ·) := by
    rw [List.pairwise_map]
    exact List.pairwise_insertionSort OrderTasks.byProduct items
  have hall : Climbs held (((items.insertionSort OrderTasks.byProduct).map
      CartItem.product).map Row.product) :=
    climbs_map (fun _ => rfl) (fun _ => rfl) (fun _ => rfl) hheld hsorted
  obtain ⟨rest, hrest⟩ := takeItems_begins table (items.insertionSort OrderTasks.byProduct)
  rw [← hrest] at hall
  exact ((ascends_append _ _ _).mp hall).1

theorem kind_takeItems {table : Table Product} {items : List CartItem} {r : Row}
    (h : r ∈ takeItems table items) : r.kind = 3 := by
  have hmem := (takeItems_begins table items).subset h
  obtain ⟨k, _, rfl⟩ := List.mem_map.mp hmem
  rfl

/-- The order items that the loop makes are of products that it locked. -/
theorem takeItems_made {table table' : Table Product} {items : List CartItem}
    {made : List OrderItem} {shortage : Option OrderTasks.Shortage}
    (h : OrderTasks.takeItems table items = .ok (table', made, shortage)) :
    ∀ it ∈ made, ∀ p, it.product = some p → .product p ∈ takeItems table items := by
  induction items generalizing table made shortage with
  | nil =>
    cases h
    intro it hit
    cases hit
  | cons x rest ih =>
    rw [OrderTasks.takeItems] at h
    rw [takeItems]
    cases hget : table.get? x.product with
    | none =>
      rw [hget] at h
      cases h
    | some p =>
      rw [hget] at h
      dsimp only at h ⊢
      by_cases hshort : p.stock < x.quantity
      · rw [if_pos hshort] at h
        cases h
        intro it hit
        cases hit
      · rw [if_neg hshort] at h ⊢
        obtain ⟨⟨taken, more, found⟩, htake, heq⟩ := map_eq_ok.mp h
        cases heq
        intro it hit q hq
        rcases List.mem_cons.mp hit with rfl | hit
        · cases hq
          exact List.mem_cons_self
        · exact List.mem_cons_of_mem _ (ih htake it hit q hq)

/-- The failure branches write to rows that the task holds. -/
theorem failOrder_held {held : List Row} {cartId : CartId} {cart : Cart} {items : List OrderItem}
    (hitems : ∀ it ∈ items, ∀ p, it.product = some p → .product p ∈ held)
    (hheld : .cart cartId ∈ held) (hcart : db.carts.get? cartId = some cart)
    (hother : otherActiveCart db cartId cart = none) :
    ∀ r ∈ failOrder db items cartId, r ∈ held := by
  have hproducts : ∀ r ∈ products (items.takeWhile fun it => it.product.isSome), r ∈ held := by
    intro r hr
    obtain ⟨p, hp, rfl⟩ := List.mem_map.mp hr
    obtain ⟨it, hit, hp⟩ := List.mem_filterMap.mp hp
    exact hitems it (List.takeWhile_subset _ hit) p hp
  have hrestore : ∀ r ∈ restoreCart db cartId, r ∈ held := by
    intro r hr
    simp only [restoreCart, hcart, hother, List.mem_singleton] at hr
    exact hr ▸ hheld
  intro r hr
  rw [failOrder, List.mem_append] at hr
  rcases hr with hr | hr
  · exact hproducts r hr
  · split at hr
    · cases hr
    · exact hrestore r hr

theorem climbs_processOrderHeavyTasks {cartId : CartId} {usePoints : Int}
    (hnew : ∀ order, db.orders.get? o = some order → order.status = .pending →
      order.items = [] ∧
        ∀ cart, db.carts.get? cartId = some cart → otherActiveCart db cartId cart = none) :
    Climbs [] (processOrderHeavyTasks db now o cartId usePoints) := by
  unfold processOrderHeavyTasks
  cases hget : db.orders.get? o with
  | none => exact ascends_nil []
  | some order =>
    refine ⟨inOrder_first rfl, ?_⟩
    split
    · exact ascends_nil _
    · rename_i hpending
      obtain ⟨hempty, hother⟩ := hnew order hget (not_not.mp hpending)
      cases hcart : db.carts.get? cartId with
      | none => exact ascends_nil _
      | some cart =>
        refine ⟨inOrder_of_kind (by simp [Row.kind]) rfl, ?_⟩
        rw [hempty]
        refine (ascends_append _ _ _).mpr ⟨climbs_takeItems (by simp [Row.kind]) _ _, ?_⟩
        generalize hsorted : cart.items.insertionSort OrderTasks.byProduct = sorted
        have hlow : ∀ x ∈ ([] ++ [Row.order o] ++ [Row.cart cartId]) ++
            takeItems db.products sorted, x.kind < 4 := by
          intro x hx
          rcases List.mem_append.mp hx with hx | hx
          · rw [List.nil_append, List.mem_append, List.mem_singleton, List.mem_singleton] at hx
            rcases hx with rfl | rfl
            · show 1 < 4
              omega
            · show 2 < 4
              omega
          · rw [kind_takeItems hx]
            omega
        have hfail : ∀ held made, .cart cartId ∈ held →
            (∀ x ∈ takeItems db.products sorted, x ∈ held) →
            (∃ table shortage, OrderTasks.takeItems db.products sorted
              = .ok (table, made, shortage)) →
            Climbs held (failOrder db made cartId) := by
          intro held made hheld htaken htake
          obtain ⟨table, shortage, htake⟩ := htake
          apply ascends_of_held
          apply failOrder_held _ hheld hcart (hother cart hcart)
          intro it hit p hp
          exact htaken _ (takeItems_made htake it hit p hp)
        split
        · exact ascends_nil _
        · rename_i table made _ htake
          exact hfail _ made (by simp) (fun x hx => List.mem_append_right _ hx) ⟨_, _, htake⟩
        · rename_i table made htake
          split
          · exact ascends_nil _
          · refine (ascends_append _ _ _).mpr ⟨climbs_usePointsFifo (Or.inr hlow), ?_⟩
            split
            · exact ascends_nil _
            · apply hfail _ made (by simp) _ ⟨_, _, htake⟩
              intro x hx
              exact List.mem_append_left _ (List.mem_append_right _ hx)

theorem climbs_expireOne {L : Ledger} {k : Nat} {seen : PointHistory} :
    Climbs [] (expireOne L k seen) := by
  unfold expireOne
  split
  · exact ascends_nil []
  · refine ⟨inOrder_first rfl, ?_⟩
    split
    · exact ascends_nil _
    · refine ⟨Or.inr ⟨?_, ?_⟩, ascends_nil _⟩
      · intro h hh
        rw [List.nil_append, List.mem_singleton] at hh
        rw [hh]
        exact Row.place_le_of_kind_lt (show 4 < 5 by omega)
      · intro g hg
        cases hg
        exact List.mem_singleton_self _

end

end RowLocks

/-! ## The branches that go back -/

namespace Txn

open RowLocks

/-- The branches that ask for a row below one that they hold:

* the order is locked and its payment comes after it: `create_payment` deletes
  one, `cancel_order` and `_expire_order` close one, the rollback aborts one,
  the payment with points takes over one;
* the cart is put away after the products of the order;
* `cancel_payment` and `complete_refund` lock the user before the products;
* `handle_payment_canceled` writes the order last;
* the order task gives the cart's items to another active cart, or the order
  had items before;
* the items of an order do not stand in the order of their products, or its
  uses drew on rows of another user.

A call that the guards before these branches turn away does not go back. -/
def goesBack (t : Txn) : Bool :=
  match t.call with
  | .processOrderHeavyTasks o cartId _ =>
    (t.db.orders.get? o).any fun order =>
      decide (order.status = .pending) && (decide (order.items ≠ []) ||
        (t.db.carts.get? cartId).any fun cart => (otherActiveCart t.db cartId cart).isSome)
  | .createPayment o user key =>
    (PaymentService.checkIdempotencyKey t.db t.now key o user).isNone &&
      (t.db.orders.get? o).any fun _ => (t.db.payments.ofOrder? o).isSome
  | .cancelOrder o | .expireOrder o => (t.db.orders.get? o).any (closesBehind t.db o)
  | .rollbackPaymentFailure o =>
    (t.db.orders.get? o).any fun order =>
      decide (order.status = .pending ∨ order.status = .confirmed) && (!tidy t.db o order ||
        (t.db.payments.ofOrder? o).any fun e =>
          decide (e.2.status ≠ .aborted ∧ e.2.status ≠ .expired))
  | .finalizePaymentConfirm response k user =>
    (t.db.payments.get? k).any fun payment =>
      (t.db.orders.get? payment.order).any fun order =>
        !payment.isPaid && decide (response.status ≠ some .waitingForDeposit) &&
          decide (order.status ≠ .canceled) && settlesBehind t.db user order
  | .completePointsOnlyPayment o seen user =>
    paidWithPoints seen && (t.db.orders.get? o).any fun order =>
      match t.db.payments.ofOrder? o with
      | none => settlesBehind t.db user order
      | some e => !e.2.isPaid
  | .cancelPayment k user _ =>
    (t.db.payments.get? k).any fun payment =>
      (t.db.orders.get? payment.order).any fun order =>
        decide (order.user = user ∧ payment.status = .done ∧ order.status = .paid) &&
          (decide (0 < order.earnedPoints) || !tidy t.db payment.order order)
  | .handlePaymentDone event =>
    event.orderId.any fun id => !TossWebhookService.isWebhookDuplicate t.db t.now id .done &&
      (t.db.payments.ofTossOrderId? id).any fun e => e.2.status.isOpen &&
        (t.db.orders.get? e.2.order).any fun order =>
          decide (order.status ≠ .canceled ∧ order.status ≠ .paid) &&
            settlesBehind t.db order.user order
  | .handlePaymentCanceled event =>
    event.orderId.any fun id => !TossWebhookService.isWebhookDuplicate t.db t.now id .canceled &&
      (t.db.payments.ofTossOrderId? id).any fun e =>
        decide (e.2.isCanceled = false ∧ e.2.status ≠ .aborted) &&
          (t.db.orders.get? e.2.order).any fun order => decide (order.status ≠ .canceled)
  | .completeRefund id _ =>
    (t.db.returns.get? id).any fun r =>
      decide (r.type = .refund ∧ r.status = .received) && !ReturnService.isSettled t.db id &&
        ((r.items.any fun it => it.product.isSome) || !ownRows t.db.ledger r.order r.user)
  | .expireOne _ _ => false

theorem any_eq_false {α : Type} {x : Option α} {p : α → Bool} (h : x.any p = false) :
    ∀ a, x = some a → p a = false := by
  intro a ha
  rw [ha] at h
  exact h

/-- A transaction that takes none of these branches asks for its rows in
order. -/
theorem climbs (t : Txn) (h : t.goesBack = false) : Climbs [] t.rows := by
  obtain ⟨db, now, call⟩ := t
  cases call with
  | processOrderHeavyTasks o cartId usePoints =>
    apply climbs_processOrderHeavyTasks
    intro order horder hpending
    have hback := any_eq_false h order horder
    rw [hpending, decide_eq_true rfl, Bool.true_and, Bool.or_eq_false_iff] at hback
    refine ⟨by simpa using hback.1, fun cart hcart => ?_⟩
    simpa using any_eq_false hback.2 cart hcart
  | createPayment o user key =>
    apply climbs_createPayment
    intro hkey order horder
    dsimp only [goesBack] at h
    rw [hkey, Option.isNone_none, Bool.true_and] at h
    simpa using any_eq_false h order horder
  | cancelOrder o => exact climbs_cancelOrder (by simp) (any_eq_false h)
  | expireOrder o => exact climbs_expireOrder (any_eq_false h)
  | rollbackPaymentFailure o =>
    apply climbs_rollbackPaymentFailure
    intro order horder hopen
    have hback := any_eq_false h order horder
    rw [decide_eq_true hopen, Bool.true_and, Bool.or_eq_false_iff] at hback
    refine ⟨by simpa using hback.1, fun e he => ?_⟩
    have hfailed := any_eq_false hback.2 e he
    rw [decide_eq_false_iff_not] at hfailed
    tauto
  | finalizePaymentConfirm response k user =>
    apply climbs_finalizePaymentConfirm
    intro p order hp horder hunpaid hresponse hstatus
    have hback := any_eq_false (any_eq_false h p hp) order horder
    rw [hunpaid, decide_eq_true hresponse, decide_eq_true hstatus] at hback
    exact hback
  | completePointsOnlyPayment o seen user =>
    apply climbs_completePointsOnlyPayment
    intro hseen order horder
    dsimp only [goesBack] at h
    rw [hseen, Bool.true_and] at h
    have hback := any_eq_false h order horder
    dsimp only at hback ⊢
    cases hpayment : db.payments.ofOrder? o with
    | none =>
      rw [hpayment] at hback
      exact hback
    | some e =>
      rw [hpayment, Bool.not_eq_false'] at hback
      exact hback
  | cancelPayment k user toss =>
    apply climbs_cancelPayment
    intro p order hp horder huser hdone hpaid
    have hback := any_eq_false (any_eq_false h p hp) order horder
    rw [decide_eq_true ⟨huser, hdone, hpaid⟩, Bool.true_and, Bool.or_eq_false_iff] at hback
    exact ⟨by simpa using hback.1, by simpa using hback.2⟩
  | handlePaymentDone event =>
    apply climbs_handlePaymentDone
    intro id e order hid hfirst he hopen horder hcanceled hpaid
    have hevent := any_eq_false h id hid
    rw [hfirst, Bool.not_false, Bool.true_and] at hevent
    have hpayment := any_eq_false hevent e he
    rw [hopen, Bool.true_and] at hpayment
    have hback := any_eq_false hpayment order horder
    rw [decide_eq_true ⟨hcanceled, hpaid⟩, Bool.true_and] at hback
    exact hback
  | handlePaymentCanceled event =>
    apply climbs_handlePaymentCanceled
    intro id e order hid hfirst he hopen haborted horder
    have hevent := any_eq_false h id hid
    rw [hfirst, Bool.not_false, Bool.true_and] at hevent
    have hpayment := any_eq_false hevent e he
    rw [decide_eq_true ⟨hopen, haborted⟩, Bool.true_and] at hpayment
    simpa using any_eq_false hpayment order horder
  | completeRefund id toss =>
    apply climbs_completeRefund
    intro r hr htype hstatus hfirst
    have hback := any_eq_false h r hr
    rw [decide_eq_true ⟨htype, hstatus⟩, hfirst, Bool.not_false, Bool.true_and, Bool.true_and,
      Bool.or_eq_false_iff] at hback
    exact ⟨by simpa using hback.1, by simpa using hback.2⟩
  | expireOne k seen => exact climbs_expireOne

/-! ## Cycles of waits -/

/-- The lock sequences of a set of transactions. -/
def locks (ts : List Txn) : Fin ts.length → List Row := fun i => (ts.get i).rows

/-- Transactions that do not go back run without a cycle of waits, in whatever
order they take their rows. -/
theorem no_cyclicWait {ts : List Txn} (h : ∀ t ∈ ts, t.goesBack = false) :
    ∀ s, Reaches (locks ts) s → ¬ CyclicWait (locks ts) s := by
  intro s hreach hcycle
  obtain ⟨k, ring, cut, hcrossing⟩ := (cyclicWait_iff_crossing _).mp ⟨s, hreach, hcycle⟩
  have hforward : ∀ m, Ascends Row.place Row.guard [] (locks ts (ring m)) := by
    intro m
    exact climbs _ (h _ (List.get_mem ts (ring m)))
  exact not_crossing_of_ascends Row.place_inj hforward hcrossing

/-- The user 7 has a paid order that earned 300 points, and the next one, with
the same book, is being processed. -/
def twoOrders : Db :=
  { (World.shop .paid .done).db with
    ledger := (Ledger.empty.setPoints 7 300).createHistory 0 7 300 .earn (some 1) {}
    carts := Table.empty.insert { user := some 7, isActive := false, items := [⟨1, 1, none⟩] }
    orders := (Table.empty.insert
        { World.oneOrder .paid with earnRateAtOrder := 3, earnedPoints := 300 }).insert
      { World.oneOrder .pending with
        cart := some 1, items := [], usedPoints := 100, finalAmount := 12900 } }

/-- The first order is confirmed twice, by the worker and by a webhook, while
the task takes the next order and the batch an earn row of their user. -/
def settleWhileProcessing : List Txn :=
  let db := { twoOrders with
    ledger := (Ledger.empty.setPoints 7 300).createHistory 0 7 300 .earn none {}
    orders := twoOrders.orders.modify 1 fun x => { x with status := .confirmed, earnedPoints := 0 }
    payments := .single (World.onePayment .inProgress) }
  [⟨db, 10, .finalizePaymentConfirm World.approval 1 7⟩,
    ⟨db, 10, .handlePaymentDone World.approval⟩,
    ⟨db, 10, .processOrderHeavyTasks 2 1 100⟩,
    ⟨db, 10, .expireOne 1 (PointHistory.create 0 7 300 300 .earn none {})⟩]

/-- They ask for the same product and the same user, and none waits in a
cycle. -/
theorem no_cyclicWait_processing :
    settleWhileProcessing.map Txn.rows
      = [[.payment 1, .order 1, .product 1],
        [.payment 1, .order 1, .product 1, .user 7],
        [.order 2, .cart 1, .product 1, .user 7, .pointHistory 7 1],
        [.user 7, .pointHistory 7 1]] ∧
      ∀ s, Reaches (locks settleWhileProcessing) s →
        ¬ CyclicWait (locks settleWhileProcessing) s :=
  ⟨by decide +kernel, no_cyclicWait (by decide +kernel)⟩

/-- The customer cancels the payment while the task takes the next order. -/
def cancelWhileProcessing : List Txn :=
  [⟨twoOrders, 10, .cancelPayment 1 7
      (.ok { status := some .canceled, orderId := some (.orderNumber 1) })⟩,
    ⟨twoOrders, 10, .processOrderHeavyTasks 2 1 100⟩]

/-- The cancellation holds the user and waits for the product, the task holds
the product and waits for the user. -/
theorem cancel_and_process_wait :
    ∃ s, Reaches (locks cancelWhileProcessing) s ∧ CyclicWait (locks cancelWhileProcessing) s := by
  have hcancel : locks cancelWhileProcessing (0 : Fin 2)
      = [.payment 1, .order 1, .user 7, .product 1, .user 7, .pointHistory 7 1] := by
    rfl
  have hprocess : locks cancelWhileProcessing (1 : Fin 2)
      = [.order 2, .cart 1, .product 1, .user 7, .pointHistory 7 1] := by
    rfl
  have hcrossing : Crossing (locks cancelWhileProcessing) (id : Fin (1 + 1) → Fin 2)
      fun _ => 3 := by
    constructor
    · have hapart : ((locks cancelWhileProcessing (0 : Fin 2)).take 3).Disjoint
          ((locks cancelWhileProcessing (1 : Fin 2)).take 3) := by
        rw [hcancel, hprocess, List.disjoint_left]
        decide
      show ∀ i j : Fin 2, i ≠ j → ((locks cancelWhileProcessing i).take 3).Disjoint
        ((locks cancelWhileProcessing j).take 3)
      rw [Fin.forall_fin_two, Fin.forall_fin_two, Fin.forall_fin_two]
      exact ⟨⟨fun h => absurd rfl h, fun _ => hapart⟩, fun _ => hapart.symm, fun h => absurd rfl h⟩
    · show ∀ m : Fin 2, m ≠ m + 1 ∧ ∃ r, (locks cancelWhileProcessing m)[3]? = some r ∧
        r ∈ (locks cancelWhileProcessing (m + 1 : Fin 2)).take 3
      rw [Fin.forall_fin_two]
      refine ⟨⟨by decide, .product 1, ?_, ?_⟩, ⟨by decide, .user 7, ?_, ?_⟩⟩
      · rw [hcancel]
        rfl
      · show Row.product 1 ∈ (locks cancelWhileProcessing (1 : Fin 2)).take 3
        rw [hprocess]
        decide
      · rw [hprocess]
        rfl
      · show Row.user 7 ∈ (locks cancelWhileProcessing (0 : Fin 2)).take 3
        rw [hcancel]
        decide
  exact hcrossing.reaches

end Txn

end Shopping
