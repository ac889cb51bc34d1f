import Mathlib.Algebra.BigOperators.Fin
import Mathlib.Algebra.Order.BigOperators.Group.Finset
import Shopping.Lib.Run
import Shopping.Returns.Requests
import Shopping.System.Refunds

/-!
# Returns of one order

Everything from the request of a return to its completion.  The checks of a
request and `create_return` are two events, and so are the read and the write
of a tracking number: neither pair holds a lock, so anything can come between.

The items of an order are bought in some quantity.  What refund returns ask
for of an item, unless they were rejected, is `reservedQuantity`; what came
back is `alreadyReturned`.  The code bounds each request by what has not come
back yet, which leaves out the requests that are still open, and it does not
look again.  `requestFits` is the bound that keeps the order within what was
bought.
-/

namespace Shopping

open ReturnService

/-! ## The desk -/

/-- The database, the requests that passed their checks, the rows that a
tracking number will be written to, and the refunds completed so far. -/
structure ReturnDesk where
  db : Db
  requests : List ReturnRequest := []
  trackingReads : List (Nat × Return) := []
  refunds : List (OrderId × RefundSplit) := []

/-- What can happen to returns. -/
inductive ReturnEvent where
  /-- `ReturnCreateSerializer.validate`. -/
  | validate (user : UserId) (data : ReturnData)
  /-- `create_return` on the n-th request. -/
  | create (n : Nat) (returnNumber : String)
  | approve (id : Nat)
  | reject (id : Nat) (reason : String)
  | readForTracking (id : Nat) (shippingCompany trackingNumber : String)
  /-- The write after the n-th of these reads. -/
  | writeTracking (n : Nat)
  | confirmReceive (id : Nat)
  | completeRefund (id : Nat) (toss : Except TossPaymentError TossPayment)
  | completeExchange (id : Nat)

namespace ReturnDesk

/-- The desk after a call, which is as before when the call raises. -/
def after {α : Type} (s : ReturnDesk) (x : Except ShopError α) (f : α → ReturnDesk) : ReturnDesk :=
  match x with
  | .ok a => f a
  | .error _ => s

def run (s : ReturnDesk) (now : Time) : ReturnEvent → ReturnDesk
  | .validate user data =>
    s.after (validateRequest s.db now user data) fun request =>
      { s with requests := s.requests ++ [request] }
  | .create n returnNumber =>
    match s.requests[n]? with
    | none => s
    | some request =>
      s.after (createReturn s.db returnNumber request) fun out => { s with db := out.2 }
  | .approve id => s.after (approveReturn s.db now id) fun db => { s with db := db }
  | .reject id reason => s.after (rejectReturn s.db id reason) fun db => { s with db := db }
  | .readForTracking id shippingCompany trackingNumber =>
    s.after (readForTracking s.db id shippingCompany trackingNumber) fun r =>
      { s with trackingReads := s.trackingReads ++ [(id, r)] }
  | .writeTracking n =>
    match s.trackingReads[n]? with
    | none => s
    | some (id, row) => { s with db := updateTracking s.db id row }
  | .confirmReceive id => s.after (confirmReceiveReturn s.db id) fun db => { s with db := db }
  | .completeRefund id toss =>
    match s.db.returns.get? id with
    | none => s
    | some r =>
      s.after (completeRefund s.db now id toss) fun out =>
        { s with db := out.2, refunds := s.refunds ++ [(r.order, out.1)] }
  | .completeExchange id => s.after (completeExchange s.db now id) fun db => { s with db := db }

/-- The step of the desk: every event can happen at any time. -/
def step (s : ReturnDesk) (e : Time × ReturnEvent) : Option ReturnDesk := some (s.run e.1 e.2)

end ReturnDesk

/-! ## Quantities -/

/-- The quantity of the order item `i` in the lines of a request. -/
def lineQuantity (i : Nat) (lines : List ReturnLine) : Int :=
  (lines.map fun line => if line.orderItem = i then (line.quantity : Int) else 0).sum

/-- A refund return of the order `o` that was not rejected. -/
def isKept (o : OrderId) (r : Return) : Bool :=
  decide (r.order = o) && decide (r.type = .refund) && decide (r.status ≠ .rejected)

/-- What the refund returns of the order that were not rejected have of the
item. -/
def reservedQuantity (db : Db) (o : OrderId) (i : Nat) : Int :=
  db.returns.sum fun _ r => if isKept o r then itemQuantity i r.items else 0

/-- A refund return asks for no more of an item than is left when what the
others ask for is left to them. -/
def requestFits (db : Db) (request : ReturnRequest) : Bool :=
  decide (request.type ≠ .refund) ||
    (db.orders.get? request.order).all fun order => request.lines.all fun line =>
      (order.items[line.orderItem]?).all fun it => decide
        ((line.quantity : Int) + reservedQuantity db request.order line.orderItem ≤ it.quantity)

/-- The request that is created fits, and a tracking number is written to the
row as it was read. -/
def keepsOrder (s : ReturnDesk) (e : Time × ReturnEvent) : Bool :=
  match e.2 with
  | .create n _ => (s.requests[n]?).all fun request => requestFits s.db request
  | .writeTracking n => (s.trackingReads[n]?).all fun x =>
      decide (s.db.returns.get? x.1 = some x.2)
  | _ => true

theorem itemQuantity_cons (i : Nat) (it : ReturnItem) (items : List ReturnItem) :
    itemQuantity i (it :: items)
      = (if it.orderItem = i then (it.quantity : Int) else 0) + itemQuantity i items := by
  simp [itemQuantity]

theorem lineQuantity_cons (i : Nat) (line : ReturnLine) (lines : List ReturnLine) :
    lineQuantity i (line :: lines)
      = (if line.orderItem = i then (line.quantity : Int) else 0) + lineQuantity i lines := by
  simp [lineQuantity]

/-- A line that asks for an item is the only one that does. -/
theorem lineQuantity_le {i : Nat} {n : Int} {lines : List ReturnLine} (hn : 0 ≤ n)
    (hnodup : (lines.map ReturnLine.orderItem).Nodup)
    (h : ∀ line ∈ lines, line.orderItem = i → (line.quantity : Int) ≤ n) :
    lineQuantity i lines ≤ n := by
  induction lines with
  | nil => exact hn
  | cons line rest ih =>
    rw [List.map_cons, List.nodup_cons] at hnodup
    have hrest := ih hnodup.2 fun x hx => h x (List.mem_cons_of_mem _ hx)
    rw [lineQuantity_cons]
    by_cases hline : line.orderItem = i
    · have hother : lineQuantity i rest = 0 := by
        apply List.sum_eq_zero
        intro x hx
        obtain ⟨y, hy, rfl⟩ := List.mem_map.mp hx
        rw [if_neg]
        intro hc
        apply hnodup.1
        rw [hline, ← hc]
        exact List.mem_map_of_mem hy
      have hown := h line List.mem_cons_self hline
      rw [if_pos hline, hother]
      omega
    · rw [if_neg hline, zero_add]
      exact hrest

theorem itemQuantity_nonneg (i : Nat) (items : List ReturnItem) : 0 ≤ itemQuantity i items := by
  apply List.sum_nonneg
  intro x hx
  obtain ⟨it, _, rfl⟩ := List.mem_map.mp hx
  split
  · exact Int.natCast_nonneg _
  · exact le_refl 0

/-- A completed refund return was not rejected. -/
theorem isKept_of_isCompleted {o : OrderId} {r : Return} (h : isCompleted o r = true) :
    isKept o r = true := by
  simp only [isCompleted, Bool.and_eq_true, decide_eq_true_eq] at h
  simp [isKept, h.1.1, h.1.2, h.2]

theorem alreadyReturned_le (db : Db) (o : OrderId) (i : Nat) :
    alreadyReturned db o i ≤ reservedQuantity db o i := by
  apply Table.sum_le_sum
  intro id r _
  have hnn := itemQuantity_nonneg i r.items
  by_cases hc : isCompleted o r = true
  · rw [if_pos hc, if_pos (isKept_of_isCompleted hc)]
  · rw [if_neg hc]
    split
    · exact hnn
    · exact le_refl 0

/-! ## Values -/

/-- The items are items of the order, at their prices. -/
def PricedItems (order : Order) (items : List ReturnItem) : Prop :=
  ∀ x ∈ items, ∃ it, order.items[x.orderItem]? = some it ∧ x.productPrice = it.price

theorem returnItems_ok {order : Order} {lines : List ReturnLine} {items : List ReturnItem}
    (h : returnItems order lines = .ok items) :
    PricedItems order items ∧ ∀ i, itemQuantity i items = lineQuantity i lines := by
  induction lines generalizing items with
  | nil =>
    cases h
    refine ⟨fun x hx => ?_, fun i => rfl⟩
    cases hx
  | cons line rest ih =>
    unfold returnItems at h
    cases hit : order.items[line.orderItem]? with
    | none =>
      rw [hit] at h
      cases h
    | some it =>
      rw [hit] at h
      obtain ⟨others, hothers, rfl⟩ := map_eq_ok.mp h
      obtain ⟨hpriced, hquantity⟩ := ih hothers
      constructor
      · intro x hx
        rcases List.mem_cons.mp hx with rfl | hx
        · exact ⟨it, hit, rfl⟩
        · exact hpriced x hx
      · intro i
        rw [itemQuantity_cons, lineQuantity_cons, hquantity]

/-- The price of the order item `i`. -/
def priceAt (order : Order) (i : Nat) : Int := ((order.items[i]?).map OrderItem.price).getD 0

/-- The value of items is their quantity of each order item at its price. -/
theorem calculateRefundAmount_eq {order : Order} {items : List ReturnItem}
    (h : PricedItems order items) : calculateRefundAmount items
      = ∑ i ∈ Finset.range order.items.length, priceAt order i * itemQuantity i items := by
  induction items with
  | nil => simp [calculateRefundAmount, itemQuantity]
  | cons x rest ih =>
    obtain ⟨it, hit, hprice⟩ := h x List.mem_cons_self
    have hlt : x.orderItem ∈ Finset.range order.items.length := by
      rw [Finset.mem_range]
      exact (List.getElem?_eq_some_iff.mp hit).1
    have hown : priceAt order x.orderItem = x.productPrice := by
      unfold priceAt
      rw [hit, hprice]
      rfl
    have hrest := ih fun y hy => h y (List.mem_cons_of_mem _ hy)
    have hsum : calculateRefundAmount (x :: rest)
        = x.productPrice * x.quantity + calculateRefundAmount rest := by
      simp [calculateRefundAmount]
    simp only [itemQuantity_cons, mul_add, Finset.sum_add_distrib, mul_ite, mul_zero,
      Finset.sum_ite_eq, if_pos hlt, hown, hsum, hrest]

/-- A sum over the rows of sums over the order items. -/
theorem sum_rows_items {α : Type} (t : Table α) (n : Nat) (c : Nat → Int)
    (f : Nat → Nat → α → Int) :
    (t.sum fun k a => ∑ i ∈ Finset.range n, c i * f i k a)
      = ∑ i ∈ Finset.range n, c i * t.sum (f i) := by
  unfold Table.sum
  induction t.rows with
  | nil => simp
  | cons p rest ih => simp only [List.map_cons, List.sum_cons, ih, mul_add, Finset.sum_add_distrib]

theorem sum_range_getElem? {α : Type} (f : Option α → Int) (l : List α) :
    ∑ i ∈ Finset.range l.length, f (l[i]?) = (l.map fun a => f (some a)).sum := by
  induction l with
  | nil => rfl
  | cons a rest ih =>
    rw [List.length_cons, Finset.sum_range_succ', List.map_cons, List.sum_cons]
    simp only [List.getElem?_cons_succ, List.getElem?_cons_zero, ih]
    omega

/-! ## Points -/

/-- An order that was delivered and of which nothing was sent back yet.  Its
goods are not worth more than what it charged for them. -/
structure Delivered (db : Db) (o : OrderId) (order : Order) : Prop where
  found : db.orders.get? o = some order
  total_lt : order.totalAmount < columnLimit
  used_nonneg : 0 ≤ order.usedPoints
  prices : ∀ it ∈ order.items, 0 ≤ it.price
  goods : (order.items.map fun it => it.price * (it.quantity : Int)).sum ≤ order.totalAmount
  fresh : ∀ id r, db.returns.get? id = some r → r.order ≠ o

section

variable {db db' : Db} {o : OrderId} {order : Order} {part part' : Int}

theorem Delivered.total_nonneg (h : Delivered db o order) : 0 ≤ order.totalAmount := by
  have hgoods : 0 ≤ (order.items.map fun it => it.price * (it.quantity : Int)).sum := by
    apply List.sum_nonneg
    intro x hx
    obtain ⟨it, hit, rfl⟩ := List.mem_map.mp hx
    exact mul_nonneg (h.prices it hit) (Int.natCast_nonneg _)
  exact hgoods.trans h.goods

/-- The share of the used points: nothing of an order without goods. -/
theorem Delivered.usedShare_eq (h : Delivered db o order) (hp : 0 ≤ part)
    (hpt : part ≤ order.totalAmount) : usedShare order part
      = if order.totalAmount ≤ 0 then 0 else usedForGoods order * part / order.totalAmount :=
  usedShare_ediv h.used_nonneg h.total_lt hp hpt

theorem Delivered.usedShare_mono (h : Delivered db o order) (hp : 0 ≤ part) (hpp : part ≤ part')
    (hpt : part' ≤ order.totalAmount) : usedShare order part ≤ usedShare order part' :=
  usedShare_le_usedShare h.used_nonneg h.total_lt hp hpp hpt

theorem Delivered.usedShare_le (h : Delivered db o order) (hp : 0 ≤ part)
    (hpt : part ≤ order.totalAmount) : usedShare order part ≤ order.usedPoints :=
  usedShare_le_usedPoints h.used_nonneg h.total_lt hp hpt

/-- The fee and a missing history only lower what is given back. -/
theorem pointsBack_le (db : Db) (order : Order) (r : Return)
    (hshare : 0 ≤ pointsShare order (completedGoods db r.order) r.refundAmount) :
    (refundSplit db order r).pointsBack
      ≤ pointsShare order (completedGoods db r.order) r.refundAmount := by
  have hfee : ∀ cash points : Int, 0 ≤ points → (takeFee cash points).2 ≤ points := by
    intro cash points hpoints
    unfold takeFee
    split
    · show max (points + cash) 0 ≤ points
      omega
    · exact le_refl points
  unfold refundSplit
  dsimp only
  split
  · exact hshare
  · exact hfee _ _ hshare

/-! ## The invariant -/

/-- The returns of the order are of its items, at their prices. -/
def PricedReturns (returns : Table Return) (o : OrderId) (order : Order) : Prop :=
  ∀ id r, returns.get? id = some r → r.order = o → r.type = .refund →
    PricedItems order r.items ∧ r.refundAmount = calculateRefundAmount r.items

/-- No item of the order is asked back more often than it was bought. -/
def WithinItems (db : Db) (o : OrderId) (order : Order) : Prop :=
  ∀ i it, order.items[i]? = some it → reservedQuantity db o i ≤ it.quantity

/-- The order is within what was bought. -/
structure WithinOrder (s : ReturnDesk) (o : OrderId) (order : Order) : Prop where
  row : ∃ status updatedAt,
    s.db.orders.get? o = some { order with status := status, updatedAt := updatedAt }
  priced : PricedReturns s.db.returns o order
  items : WithinItems s.db o order
  points : refundSum RefundSplit.pointsBack o s.refunds ≤ usedShare order (completedGoods s.db o)
  reads : ∀ x ∈ s.trackingReads, x.2.status = .approved

theorem completedGoods_nonneg (h : Delivered db o order)
    (hpriced : PricedReturns db'.returns o order) : 0 ≤ completedGoods db' o := by
  apply Table.sum_nonneg
  intro id r hr
  by_cases hc : isCompleted o r = true
  · rw [if_pos hc]
    simp only [isCompleted, Bool.and_eq_true, decide_eq_true_eq] at hc
    obtain ⟨hitems, hamount⟩ := hpriced id r hr hc.1.1 hc.1.2
    rw [hamount]
    apply List.sum_nonneg
    intro x hx
    obtain ⟨y, hy, rfl⟩ := List.mem_map.mp hx
    obtain ⟨it, hit, hprice⟩ := hitems y hy
    rw [hprice]
    exact mul_nonneg (h.prices it (List.mem_of_getElem? hit)) (Int.natCast_nonneg _)
  · rw [if_neg hc]

/-- What came back is worth no more than the order. -/
theorem completedGoods_le (h : Delivered db o order)
    (hpriced : PricedReturns db'.returns o order) (hitems : WithinItems db' o order) :
    completedGoods db' o ≤ order.totalAmount := by
  have hvalue : completedGoods db' o
      = ∑ i ∈ Finset.range order.items.length, priceAt order i * alreadyReturned db' o i := by
    unfold alreadyReturned
    rw [← sum_rows_items]
    apply Table.sum_congr
    intro id r hr
    by_cases hc : isCompleted o r = true
    · simp only [hc, if_true]
      simp only [isCompleted, Bool.and_eq_true, decide_eq_true_eq] at hc
      obtain ⟨hown, hamount⟩ := hpriced id r hr hc.1.1 hc.1.2
      rw [hamount, calculateRefundAmount_eq hown]
    · simp [hc]
  calc completedGoods db' o
      = ∑ i ∈ Finset.range order.items.length, priceAt order i * alreadyReturned db' o i := hvalue
    _ ≤ ∑ i ∈ Finset.range order.items.length,
          ((order.items[i]?).map fun it => it.price * (it.quantity : Int)).getD 0 := by
        apply Finset.sum_le_sum
        intro i _
        unfold priceAt
        cases hit : order.items[i]? with
        | none => simp
        | some it =>
          have hle := (alreadyReturned_le db' o i).trans (hitems i it hit)
          exact mul_le_mul_of_nonneg_left hle (h.prices it (List.mem_of_getElem? hit))
    _ = (order.items.map fun it => it.price * (it.quantity : Int)).sum :=
        sum_range_getElem? (fun x => (x.map fun it => it.price * (it.quantity : Int)).getD 0)
          order.items
    _ ≤ order.totalAmount := h.goods

theorem Delivered.within (h : Delivered db o order) : WithinOrder { db := db } o order := by
  have hnone : ∀ f : Return → Int, (db.returns.sum fun _ r =>
      if isKept o r then f r else 0) = 0 := by
    intro f
    refine (Table.sum_congr fun id r hr => ?_).trans (Table.sum_zero db.returns)
    rw [if_neg]
    intro hc
    simp only [isKept, Bool.and_eq_true, decide_eq_true_eq] at hc
    exact h.fresh id r hr hc.1.1
  have hgoods : completedGoods db o = 0 := by
    refine (Table.sum_congr fun id r hr => ?_).trans (Table.sum_zero db.returns)
    rw [if_neg]
    intro hc
    simp only [isCompleted, Bool.and_eq_true, decide_eq_true_eq] at hc
    exact h.fresh id r hr hc.1.1
  constructor
  · exact ⟨_, _, h.found⟩
  · intro id r hr ho
    exact absurd ho (h.fresh id r hr)
  · intro i it _
    unfold reservedQuantity
    rw [hnone fun r => itemQuantity i r.items]
    exact Int.natCast_nonneg _
  · show refundSum RefundSplit.pointsBack o [] ≤ usedShare order (completedGoods db o)
    rw [hgoods, refundSum_nil, h.usedShare_eq (le_refl 0) h.total_nonneg]
    split
    · exact le_refl 0
    · rw [mul_zero, Int.zero_ediv]
  · intro x hx
    cases hx

end

/-! ## One row moves on -/

section

variable {s : ReturnDesk} {db' : Db} {now : Time} {o : OrderId} {order : Order} {id : Nat}
  {r r' : Return}

/-- Only the way of the return through the statuses changes. -/
structure SameReturn (r r' : Return) : Prop where
  order : r'.order = r.order
  type : r'.type = r.type
  items : r'.items = r.items
  refundAmount : r'.refundAmount = r.refundAmount

theorem PricedReturns.updates {t t' : Table Return} (h : PricedReturns t o order)
    (hu : Table.Updates t t' id r r') (hsame : SameReturn r r') : PricedReturns t' o order := by
  intro j q hq ho ht
  obtain ⟨_, rfl⟩ | ⟨_, hbefore⟩ := hu.cases hq
  · rw [hsame.order] at ho
    rw [hsame.type] at ht
    rw [hsame.items, hsame.refundAmount]
    exact h id r hu.before ho ht
  · exact h j q hbefore ho ht

theorem WithinItems.updates (h : WithinItems s.db o order)
    (hu : Table.Updates s.db.returns db'.returns id r r') (hsame : SameReturn r r')
    (hkept : isKept o r' = true → isKept o r = true) : WithinItems db' o order := by
  intro i it hit
  have hbefore := h i it hit
  have hsum : reservedQuantity db' o i = reservedQuantity s.db o i
      - (if isKept o r then itemQuantity i r.items else 0)
      + (if isKept o r' then itemQuantity i r.items else 0) := by
    unfold reservedQuantity
    rw [hu.sum, hsame.items]
  have hnn := itemQuantity_nonneg i r.items
  rw [hsum]
  by_cases hk : isKept o r' = true
  · rw [if_pos hk, if_pos (hkept hk)]
    omega
  · rw [if_neg hk]
    split
    · omega
    · omega

/-- A return that is not completed before and not after moves on. -/
theorem WithinOrder.moves (hs : WithinOrder s o order) (horders : db'.orders = s.db.orders)
    (hu : Table.Updates s.db.returns db'.returns id r r') (hsame : SameReturn r r')
    (hkept : isKept o r' = true → isKept o r = true) (hbefore : isCompleted o r = false)
    (hafter : isCompleted o r' = false) : WithinOrder { s with db := db' } o order := by
  have hgoods : completedGoods db' o = completedGoods s.db o := by
    unfold completedGoods
    rw [hu.sum, hbefore, hafter]
    simp
  constructor
  · show ∃ status updatedAt, db'.orders.get? o = _
    rw [horders]
    exact hs.row
  · exact hs.priced.updates hu hsame
  · exact hs.items.updates hu hsame hkept
  · show refundSum RefundSplit.pointsBack o s.refunds ≤ usedShare order (completedGoods db' o)
    rw [hgoods]
    exact hs.points
  · exact hs.reads

/-- The moves of the seller: none leaves a rejected or a completed return. -/
theorem WithinOrder.moveReturn (hs : WithinOrder s o order) {source : ReturnStatus}
    {change : Return → Return} {message : String}
    (h : moveReturn s.db id source change message = .ok db') (hopen : source.isOpen = true)
    (hchange : ∀ r, SameReturn r (change r)) (hstatus : ∀ r, (change r).status ≠ .completed) :
    WithinOrder { s with db := db' } o order := by
  obtain ⟨r, hget, hfrom, rfl⟩ := moveReturn_ok h
  obtain ⟨horder, htype, _, _⟩ := hchange r
  refine hs.moves rfl (Table.updates_modify hget change) (hchange r) ?_ ?_ ?_
  · intro hk
    simp only [isKept, Bool.and_eq_true, decide_eq_true_eq, horder, htype] at hk ⊢
    refine ⟨hk.1, ?_⟩
    rw [hfrom]
    rintro rfl
    cases hopen
  · have hne : source ≠ .completed := by
      rintro rfl
      cases hopen
    simp [isCompleted, hfrom, hne]
  · simp [isCompleted, hstatus r]

theorem WithinOrder.completeExchange (hs : WithinOrder s o order)
    (h : completeExchange s.db now id = .ok db') : WithinOrder { s with db := db' } o order := by
  obtain ⟨r, products, hget, hexchange, hstatus, rfl⟩ := completeExchange_ok h
  refine hs.moves rfl (Table.updates_modify hget _) ⟨rfl, rfl, rfl, rfl⟩ ?_ ?_ ?_
  · intro hk
    simp [isKept, markCompleted, hexchange] at hk
  · simp [isCompleted, hexchange]
  · simp [isCompleted, markCompleted, hexchange]

/-- The tracking number, written to the row as it was read. -/
theorem WithinOrder.updateTracking (hs : WithinOrder s o order)
    (hget : s.db.returns.get? id = some r) (happroved : r.status = .approved) :
    WithinOrder { s with db := updateTracking s.db id r } o order := by
  have hitems : (s.db.returns.get? id).elim [] Return.items = r.items := by
    rw [hget]
    rfl
  refine hs.moves rfl (Table.updates_put hget _) ⟨rfl, rfl, hitems, rfl⟩ ?_ ?_ ?_
  · intro hk
    simp only [isKept, Bool.and_eq_true, decide_eq_true_eq] at hk ⊢
    refine ⟨hk.1, ?_⟩
    rw [happroved]
    decide
  · simp [isCompleted, happroved]
  · simp [isCompleted]

/-! ## A return is created -/

theorem createReturn_ok {db : Db} {returnNumber : String} {request : ReturnRequest}
    {out : Nat × Db} (h : createReturn db returnNumber request = .ok out) :
    ∃ row order, db.orders.get? request.order = some order ∧ PricedItems order row.items ∧
      (∀ i, itemQuantity i row.items = lineQuantity i request.lines) ∧
      (request.lines.map ReturnLine.orderItem).Nodup ∧ row.order = request.order ∧
      row.type = request.type ∧ row.status = .requested ∧
      (row.type = .refund → row.refundAmount = calculateRefundAmount row.items) ∧
      out.2 = { db with returns := db.returns.insert row } := by
  unfold createReturn at h
  obtain ⟨order, horder, h⟩ := bind_eq_ok.mp h
  rw [Db.getOrder_eq_ok] at horder
  obtain ⟨items, hitems, h⟩ := bind_eq_ok.mp h
  obtain ⟨exchangeProduct, _, h⟩ := bind_eq_ok.mp h
  obtain ⟨hpriced, hquantity⟩ := returnItems_ok hitems
  dsimp only at h
  by_cases hnumber : (db.returns.any fun _ r => decide (r.returnNumber = returnNumber)) = true
  · rw [if_pos hnumber] at h
    cases h
  · rw [if_neg hnumber] at h
    by_cases hnodup : ¬ (request.lines.map ReturnLine.orderItem).Nodup
    · rw [if_pos hnodup] at h
      cases h
    · rw [if_neg hnodup] at h
      cases h
      refine ⟨_, order, horder, hpriced, hquantity, not_not.mp hnodup, rfl, rfl, rfl,
        fun htype => ?_, rfl⟩
      exact if_pos htype

/-- What fits, line by line. -/
theorem fits_line {db : Db} {request : ReturnRequest} {x : Order} {line : ReturnLine}
    {it : OrderItem} (h : requestFits db request = true) (htype : request.type = .refund)
    (hx : db.orders.get? request.order = some x) (hline : line ∈ request.lines)
    (hit : x.items[line.orderItem]? = some it) :
    (line.quantity : Int) + reservedQuantity db request.order line.orderItem ≤ it.quantity := by
  unfold requestFits at h
  rw [hx, htype] at h
  simp only [ne_eq, not_true_eq_false, decide_false, Bool.false_or, Option.all_some,
    List.all_eq_true] at h
  have hall := h line hline
  rw [hit, Option.all_some, decide_eq_true_eq] at hall
  exact hall

theorem WithinOrder.create (hs : WithinOrder s o order) {returnNumber : String}
    {request : ReturnRequest} {out : Nat × Db} (hfits : requestFits s.db request = true)
    (h : createReturn s.db returnNumber request = .ok out) :
    WithinOrder { s with db := out.2 } o order := by
  obtain ⟨row, x, hx, hpriced, hquantity, hnodup, horder, htype, hstatus, hamount, hdb⟩ :=
    createReturn_ok h
  rw [hdb]
  obtain ⟨status, updatedAt, hrow⟩ := hs.row
  -- The order of the request is read from the table, in its present state.
  have hitems : request.order = o → x.items = order.items := by
    intro ho
    rw [ho, hrow] at hx
    cases hx
    rfl
  constructor
  · exact ⟨status, updatedAt, hrow⟩
  · intro j q hq ho ht
    have hq' : (s.db.returns.insert row).get? j = some q := hq
    rcases Table.insert_cases hq' with ⟨_, rfl⟩ | hq'
    · rw [horder] at ho
      refine ⟨fun y hy => ?_, hamount ht⟩
      obtain ⟨it, hit, hprice⟩ := hpriced y hy
      rw [hitems ho] at hit
      exact ⟨it, hit, hprice⟩
    · exact hs.priced j q hq' ho ht
  · intro i it hit
    have hsum : reservedQuantity { s.db with returns := s.db.returns.insert row } o i
        = reservedQuantity s.db o i + if isKept o row then itemQuantity i row.items else 0 :=
      Table.sum_insert s.db.returns row _
    have hbefore := hs.items i it hit
    show reservedQuantity { s.db with returns := s.db.returns.insert row } o i ≤ it.quantity
    rw [hsum]
    by_cases hk : isKept o row = true
    · simp only [isKept, Bool.and_eq_true, decide_eq_true_eq, horder, htype] at hk
      have hmore : lineQuantity i request.lines ≤ it.quantity - reservedQuantity s.db o i := by
        apply lineQuantity_le (by omega) hnodup
        intro line hline hi
        have hfit := fits_line hfits hk.1.2 hx hline (by rw [hitems hk.1.1, hi, hit])
        rw [hk.1.1, hi] at hfit
        omega
      rw [hquantity]
      split
      · omega
      · omega
    · rw [if_neg hk, add_zero]
      exact hbefore
  · show refundSum RefundSplit.pointsBack o s.refunds
      ≤ usedShare order (completedGoods { s.db with returns := s.db.returns.insert row } o)
    have hgoods : completedGoods { s.db with returns := s.db.returns.insert row } o
        = completedGoods s.db o + if isCompleted o row then row.refundAmount else 0 :=
      Table.sum_insert s.db.returns row _
    have hopen : isCompleted o row = false := by
      simp [isCompleted, hstatus]
    rw [hgoods, hopen]
    simpa using hs.points
  · exact hs.reads

/-! ## A refund is completed -/

theorem WithinOrder.completeRefund (hs : WithinOrder s o order) (h : Delivered db' o order)
    {x : Order} {split : RefundSplit} {done : Db}
    (hc : CompletesReturn s.db now id r x split done) :
    WithinOrder { s with db := done, refunds := s.refunds ++ [(r.order, split)] } o order := by
  have hu : Table.Updates s.db.returns done.returns id r (markCompleted now r) := by
    rw [hc.returns]
    exact Table.updates_modify hc.found _
  have hsame : SameReturn r (markCompleted now r) := ⟨rfl, rfl, rfl, rfl⟩
  have hkept : isKept o (markCompleted now r) = true → isKept o r = true := by
    intro hk
    simp only [isKept, Bool.and_eq_true, decide_eq_true_eq] at hk ⊢
    refine ⟨hk.1, ?_⟩
    rw [hc.received]
    decide
  have hpriced := hs.priced.updates hu hsame
  have hitems : WithinItems done o order := hs.items.updates hu hsame hkept
  have hgoods : completedGoods done o
      = completedGoods s.db o + if r.order = o then r.refundAmount else 0 :=
    completedGoods_complete hc
  have hle := completedGoods_le h hpriced hitems
  constructor
  · obtain ⟨status, updatedAt, hrow⟩ := hs.row
    show ∃ status updatedAt, done.orders.get? o = _
    rcases hc.orders with horders | horders
    · rw [horders]
      exact ⟨status, updatedAt, hrow⟩
    · rw [horders, Table.get?_modify]
      split
      · exact ⟨.refunded, now, by rw [hrow]; rfl⟩
      · exact ⟨status, updatedAt, hrow⟩
  · exact hpriced
  · exact hitems
  · show refundSum RefundSplit.pointsBack o (s.refunds ++ [(r.order, split)])
      ≤ usedShare order (completedGoods done o)
    rw [refundSum_snoc, hgoods]
    by_cases ho : r.order = o
    · rw [if_pos ho, if_pos ho]
      rw [if_pos ho] at hgoods
      obtain ⟨status, updatedAt, hrow⟩ := hs.row
      have hx := hc.orderFound
      rw [ho, hrow] at hx
      -- The amounts of the order are the ones it was delivered with.
      have hshares : pointsShare x (completedGoods s.db r.order) r.refundAmount
          = usedShare order (completedGoods s.db o + r.refundAmount)
            - usedShare order (completedGoods s.db o) := by
        cases hx
        rw [ho]
        rfl
      have hprev := completedGoods_nonneg h hs.priced
      have hamount : 0 ≤ r.refundAmount := by
        obtain ⟨hown, hvalue⟩ := hs.priced id r hc.found ho hc.type
        rw [hvalue]
        apply List.sum_nonneg
        intro y hy
        obtain ⟨z, hz, rfl⟩ := List.mem_map.mp hy
        obtain ⟨it, hit, hprice⟩ := hown z hz
        rw [hprice]
        exact mul_nonneg (h.prices it (List.mem_of_getElem? hit)) (Int.natCast_nonneg _)
      have hgrow := h.usedShare_mono hprev (by omega : completedGoods s.db o
        ≤ completedGoods s.db o + r.refundAmount) (by omega)
      have hback := pointsBack_le s.db x r (by rw [hshares]; omega)
      rw [hshares] at hback
      rw [hc.split]
      have hpoints := hs.points
      omega
    · rw [if_neg ho, if_neg ho, add_zero, add_zero]
      exact hs.points
  · exact hs.reads

end

/-! ## Runs -/

theorem WithinOrder.after {α : Type} {s : ReturnDesk} {o : OrderId} {order : Order}
    {x : Except ShopError α} {f : α → ReturnDesk} (hs : WithinOrder s o order)
    (hf : ∀ a, x = .ok a → WithinOrder (f a) o order) : WithinOrder (s.after x f) o order := by
  cases x with
  | error e => exact hs
  | ok a => exact hf a rfl

/-- Every event that keeps to the order leaves it within what was bought. -/
theorem WithinOrder.step {s : ReturnDesk} {db : Db} {o : OrderId} {order : Order} {now : Time}
    {e : ReturnEvent} (hs : WithinOrder s o order) (h : Delivered db o order)
    (hok : keepsOrder s (now, e) = true) : WithinOrder (s.run now e) o order := by
  cases e with
  | validate user data =>
    apply hs.after
    intro request _
    exact ⟨hs.row, hs.priced, hs.items, hs.points, hs.reads⟩
  | create n returnNumber =>
    unfold keepsOrder at hok
    simp only [ReturnDesk.run]
    cases hreq : s.requests[n]? with
    | none => exact hs
    | some request =>
      dsimp only at hok
      rw [hreq, Option.all_some] at hok
      apply hs.after
      intro out hout
      exact hs.create hok hout
  | approve id =>
    apply hs.after
    intro db hdb
    exact hs.moveReturn hdb rfl (fun _ => ⟨rfl, rfl, rfl, rfl⟩) fun _ => by simp [markApproved]
  | reject id reason =>
    apply hs.after
    intro db hdb
    exact hs.moveReturn hdb rfl (fun _ => ⟨rfl, rfl, rfl, rfl⟩) fun _ => by simp [markRejected]
  | readForTracking id company number =>
    apply hs.after
    intro r hr
    refine ⟨hs.row, hs.priced, hs.items, hs.points, fun x hx => ?_⟩
    rcases List.mem_append.mp hx with hx | hx
    · exact hs.reads x hx
    · cases List.mem_singleton.mp hx
      exact (readForTracking_ok hr).2
  | writeTracking n =>
    unfold keepsOrder at hok
    simp only [ReturnDesk.run]
    cases hread : s.trackingReads[n]? with
    | none => exact hs
    | some x =>
      obtain ⟨id, row⟩ := x
      dsimp only at hok
      rw [hread, Option.all_some] at hok
      exact hs.updateTracking (of_decide_eq_true hok)
        (hs.reads _ (List.mem_of_getElem? hread))
  | confirmReceive id =>
    apply hs.after
    intro db hdb
    exact hs.moveReturn hdb rfl (fun _ => ⟨rfl, rfl, rfl, rfl⟩) fun _ => by simp [markReceived]
  | completeRefund id toss =>
    simp only [ReturnDesk.run]
    cases hget : s.db.returns.get? id with
    | none => exact hs
    | some r =>
      apply hs.after
      intro out hout
      obtain ⟨split, done⟩ := out
      obtain ⟨q, x, hc⟩ := completeRefund_ok hout
      obtain rfl : r = q := Option.some.inj (hget.symm.trans hc.found)
      exact hs.completeRefund h hc
  | completeExchange id =>
    apply hs.after
    intro db hdb
    exact hs.completeExchange hdb

/-- No more came back than was bought, and no more points than were used. -/
structure ReturnsWithin (s : ReturnDesk) (o : OrderId) (order : Order) : Prop where
  quantity : ∀ i it, order.items[i]? = some it → alreadyReturned s.db o i ≤ it.quantity
  points : refundSum RefundSplit.pointsBack o s.refunds ≤ order.usedPoints

theorem WithinOrder.within {s : ReturnDesk} {db : Db} {o : OrderId} {order : Order}
    (hs : WithinOrder s o order) (h : Delivered db o order) : ReturnsWithin s o order := by
  constructor
  · intro i it hit
    exact (alreadyReturned_le s.db o i).trans (hs.items i it hit)
  · exact hs.points.trans (h.usedShare_le (completedGoods_nonneg h hs.priced)
      (completedGoods_le h hs.priced hs.items))

/-- Returns never give back more than was bought, as long as every refund
return that is created leaves the other open returns what they ask for, and
no tracking number overwrites a return that moved on. -/
theorem returns_within_order {db : Db} {s : ReturnDesk} {es : List (Time × ReturnEvent)}
    {o : OrderId} {order : Order} (hstart : Delivered db o order)
    (h : Run ReturnDesk.step (fun s e => keepsOrder s e = true) { db := db } es s) :
    ReturnsWithin s o order := by
  have hs : WithinOrder s o order := by
    refine h.invariant (fun s => WithinOrder s o order) hstart.within ?_
    intro t e u ht hok hstep
    cases hstep
    exact ht.step hstart hok
  exact hs.within hstart

/-! ## A request created at once -/

theorem validateLines_ok {db : Db} {o : OrderId} {order : Order} {lines : List ReturnLine}
    (h : validateLines db o order lines = .ok ()) {line : ReturnLine} (hline : line ∈ lines)
    {it : OrderItem} (hit : order.items[line.orderItem]? = some it) :
    (line.quantity : Int) + alreadyReturned db o line.orderItem ≤ it.quantity := by
  induction lines with
  | nil => cases hline
  | cons first rest ih =>
    unfold validateLines at h
    cases hfirst : order.items[first.orderItem]? with
    | none =>
      rw [hfirst] at h
      cases h
    | some x =>
      rw [hfirst] at h
      dsimp only at h
      split_ifs at h with hshort
      rcases List.mem_cons.mp hline with rfl | hline
      · rw [hfirst] at hit
        cases hit
        omega
      · exact ih h hline

theorem validateRequest_ok {db : Db} {now : Time} {user : UserId} {data : ReturnData}
    {request : ReturnRequest} (h : validateRequest db now user data = .ok request) :
    ∃ order, db.orders.get? request.order = some order ∧
      (db.returns.any fun _ r => decide (r.order = request.order) && r.status.isOpen) = false ∧
      validateLines db request.order order request.lines = .ok () := by
  unfold validateRequest at h
  obtain ⟨exchangeProduct, _, h⟩ := bind_eq_ok.mp h
  cases hid : data.orderId.filter fun o => decide (o ≠ 0) with
  | none =>
    rw [hid] at h
    cases h
  | some o =>
    rw [hid] at h
    dsimp only at h
    cases hfound : (db.orders.get? o).filter fun order => decide (order.user = user) with
    | none =>
      rw [hfound] at h
      cases h
    | some order =>
      rw [hfound] at h
      obtain ⟨_, horder, h⟩ := bind_eq_ok.mp h
      split_ifs at h with haccount
      obtain ⟨_, hitems, h⟩ := bind_eq_ok.mp h
      cases h
      unfold validateOrderForReturn at horder
      split_ifs at horder with hstatus hdays hopen
      unfold validateReturnItems at hitems
      split_ifs at hitems with hempty
      exact ⟨order, (Option.filter_eq_some_iff.mp hfound).1, Bool.eq_false_iff.mpr hopen, hitems⟩

/-- What comes between the checks of a request and its creation is all that
can keep it from fitting. -/
theorem requestFits_of_validated {db : Db} {now : Time} {user : UserId} {data : ReturnData}
    {request : ReturnRequest} (h : validateRequest db now user data = .ok request) :
    requestFits db request = true := by
  obtain ⟨order, horder, hclosed, hlines⟩ := validateRequest_ok h
  have hreserved : ∀ i, reservedQuantity db request.order i
      = alreadyReturned db request.order i := by
    intro i
    apply Table.sum_congr
    intro id r hr
    have hrow := Table.any_eq_false.mp hclosed id r hr
    by_cases ho : r.order = request.order
    · rw [decide_eq_true ho, Bool.true_and] at hrow
      have hsame : isKept request.order r = isCompleted request.order r := by
        cases hs : r.status <;> simp_all [isKept, isCompleted, ReturnStatus.isOpen]
      rw [hsame]
    · simp [isKept, isCompleted, ho]
  unfold requestFits
  rw [horder, Bool.or_eq_true]
  right
  simp only [Option.all_some, List.all_eq_true]
  intro line hline
  cases hit : order.items[line.orderItem]? with
  | none => rfl
  | some it =>
    rw [Option.all_some, hreserved, decide_eq_true_eq]
    exact validateLines_ok hlines hline hit

/-! ## An order paid with points alone -/

/-- The way of a return from its approval to its refund. -/
def arrives (id : Nat) (read : Nat) : List (Time × ReturnEvent) :=
  [(1, .approve id), (2, .readForTracking id "우체국택배" "1234"), (3, .writeTracking read),
    (4, .confirmReceive id), (5, .completeRefund id (.error ⟨"NOT_ASKED", "", 400⟩))]

/-- The order of one book, with its shipping paid in points. -/
def pointsOrder : Order :=
  { World.oneOrder .delivered with usedPoints := 13000, finalAmount := 0 }

/-- The user got 13000 points and used them. -/
def pointsDesk : ReturnDesk where
  db := { (World.shop .delivered .done).db with
    ledger := match PointService.addPoints Ledger.empty 0 7 13000 with
      | .error _ => Ledger.empty
      | .ok given => (PointService.usePointsFifo given.2 0 7 13000 .use (some 1)).2
    orders := Table.empty.insert pointsOrder }

/-- The book is sent back. -/
def bookBack : ReturnData :=
  { orderId := some 1, lines := [{ orderItem := 0, quantity := 1, positive := Nat.one_pos }]
    refundAccountBank := "국민", refundAccountNumber := "123" }

theorem pointsDesk_delivered : Delivered pointsDesk.db 1 pointsOrder where
  found := rfl
  total_lt := by decide
  used_nonneg := by decide
  prices := by decide
  goods := by decide
  fresh id r hr := by
    cases hr

/-- One return after the other: the second request is refused. -/
theorem returns_within_order_once :
    ∃ s, Run ReturnDesk.step (fun s e => keepsOrder s e = true) { db := pointsDesk.db }
        ([(0, .validate 7 bookBack), (0, .create 0 "RET001")] ++ arrives 1 0
          ++ [(6, .validate 7 bookBack)]) s ∧
      alreadyReturned s.db 1 0 = 1 ∧ s.requests.length = 1 ∧ ReturnsWithin s 1 pointsOrder := by
  obtain ⟨s, hrun, hstate⟩ := Run.exists_of_execIf (by decide +kernel :
    (execIf ReturnDesk.step keepsOrder { db := pointsDesk.db }
      ([(0, .validate 7 bookBack), (0, .create 0 "RET001")] ++ arrives 1 0
        ++ [(6, .validate 7 bookBack)])).any (fun s => decide
          (alreadyReturned s.db 1 0 = 1 ∧ s.requests.length = 1)) = true)
  obtain ⟨hreturned, hrequests⟩ := of_decide_eq_true hstate
  exact ⟨s, hrun, hreturned, hrequests, returns_within_order pointsDesk_delivered hrun⟩

/-- Two requests for the one book pass their checks before either is created:
the book comes back twice, and so do its points. -/
theorem returns_exceed_order :
    ∃ s, Run ReturnDesk.step (fun _ _ => true = true) { db := pointsDesk.db }
        ([(0, .validate 7 bookBack), (0, .validate 7 bookBack), (0, .create 0 "RET001"),
          (0, .create 1 "RET002")] ++ arrives 1 0 ++ arrives 2 1) s ∧
      alreadyReturned s.db 1 0 = 2 ∧ refundSum RefundSplit.pointsBack 1 s.refunds = 20000 ∧
      ¬ ReturnsWithin s 1 pointsOrder := by
  obtain ⟨s, hrun, hstate⟩ := Run.exists_of_execIf (by decide +kernel :
    (execIf ReturnDesk.step (fun _ _ => true) { db := pointsDesk.db }
      ([(0, .validate 7 bookBack), (0, .validate 7 bookBack), (0, .create 0 "RET001"),
        (0, .create 1 "RET002")] ++ arrives 1 0 ++ arrives 2 1)).any (fun s => decide
          (alreadyReturned s.db 1 0 = 2 ∧
            refundSum RefundSplit.pointsBack 1 s.refunds = 20000)) = true)
  obtain ⟨hreturned, hpoints⟩ := of_decide_eq_true hstate
  refine ⟨s, hrun, hreturned, hpoints, fun h => ?_⟩
  have hquantity := h.quantity 0 _ rfl
  rw [hreturned] at hquantity
  exact absurd hquantity (by decide)

end Shopping
