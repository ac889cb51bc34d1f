import Shopping.Lib.Run
import Shopping.Products.Serializer
import Shopping.System.EditedShop
import Shopping.System.World

/-!
# Product edits beside the orders

`ProductCreateUpdateSerializer.update` writes every column of a product that
was read when the seller's request came in, its stock and its count of sales
included.  An order that moved them in between is undone on the product.

A run is a list of edits and of order and return operations, in any order.
`product_edits_lose_nothing` is the run in which every edit meets the stock and
the count of sales it was read with: both end as the operations alone would
have left them.
-/

namespace Shopping

/-- The order and return operations that move stock or sales. -/
inductive ShopOp where
  | processOrder (o : OrderId) (cart : CartId) (usePoints : Int)
  | cancelOrder (o : OrderId) (closed : PaymentStatus)
  | rollback (o : OrderId) (reason : String)
  | finalize (response : TossPayment) (payment : Nat) (user : UserId) (published : Bool)
  | confirmSync (payment : Nat) (user : UserId) (toss : Except TossPaymentError TossPayment)
  | webhookDone (event : TossPayment)
  /-- `complete_points_only_payment` for the order that the view read as `seen`. -/
  | completePointsOnly (o : OrderId) (seen : Order) (user : UserId)
  | cancelPayment (payment : Nat) (user : UserId) (toss : Except TossPaymentError TossPayment)
  | completeRefund (id : Nat) (toss : Except TossPaymentError TossPayment)
  | completeExchange (id : Nat)

/-- The database that a call leaves behind: as before when it raises. -/
def leaves {α : Type} (db : Db) (x : Except ShopError α) (f : α → Db) : Db :=
  match x with
  | .ok a => f a
  | .error _ => db

/-- The database after the operation. -/
def ShopOp.apply (now : Time) (db : Db) : ShopOp → Db
  | .processOrder o cart usePoints =>
    leaves db (OrderTasks.processOrderHeavyTasks db now o cart usePoints) Outcome.db
  | .cancelOrder o closed => leaves db (OrderService.cancelOrder db now o closed) id
  | .rollback o reason => (PaymentTasks.rollbackPaymentFailure db now o reason).2
  | .finalize response k user published =>
    leaves db (PaymentTasks.finalizePaymentConfirm db now response k user published) Outcome.db
  | .confirmSync k user toss =>
    leaves db (PaymentService.confirmPaymentSync db now k user toss) Prod.snd
  | .webhookDone event => leaves db (TossWebhookService.handlePaymentDone db now event) Prod.snd
  | .completePointsOnly o seen user =>
    leaves db (PaymentService.completePointsOnlyPayment db now o seen user) Prod.snd
  | .cancelPayment k user toss =>
    leaves db (PaymentService.cancelPayment db now k user toss) Prod.snd
  | .completeRefund id toss => leaves db (ReturnService.completeRefund db now id toss) Prod.snd
  | .completeExchange i => leaves db (ReturnService.completeExchange db now i) id

/-- A product that came with a seller's request. -/
structure ProductRequest where
  product : ProductId
  row : Product
  deriving DecidableEq, Repr

/-- The database and the edits in progress. -/
structure Shopfront where
  now : Time
  db : Db
  edits : List ProductRequest := []

/-- What can happen. -/
inductive ShopfrontEvent where
  | tick (seconds : Nat)
  | operation (op : ShopOp)
  /-- A seller's request reads its product. -/
  | loadProduct (k : ProductId)
  /-- `update` of the n-th request, whose data passed the validation and does
  not have the stock. -/
  | saveProduct (n : Nat) (data : ProductCreateUpdateSerializer.ProductData)

/-- The event is the write of an edit. -/
def ShopfrontEvent.isSave : ShopfrontEvent → Bool
  | .saveProduct _ _ => true
  | _ => false

namespace Shopfront

/-- The shop with no edit in progress. -/
def start (db : Db) (now : Time) : Shopfront := ⟨now, db, []⟩

/-- One event. -/
def step (w : Shopfront) : ShopfrontEvent → Option Shopfront
  | .tick seconds => some { w with now := w.now + seconds }
  | .operation op => some { w with db := op.apply w.now w.db }
  | .loadProduct k => do
    let p ← w.db.products.get? k
    some { w with edits := w.edits ++ [⟨k, p⟩] }
  | .saveProduct n data => do
    let q ← w.edits[n]?
    if data.stock = none then
      let out := ProductCreateUpdateSerializer.update w.db.products q.product q.row data
      some { w with
        db := { w.db with products := out.2 }
        edits := w.edits.set n { q with row := out.1 } }
    else none

/-- The copy has the stock and the count of sales that the row has now. -/
def current (w : Shopfront) (q : ProductRequest) : Bool :=
  (w.db.products.get? q.product).any fun p =>
    decide (p.stock = q.row.stock) && decide (p.soldCount = q.row.soldCount)

/-- The copy of an edit that is written is current. -/
def fresh (w : Shopfront) : ShopfrontEvent → Bool
  | .saveProduct n _ => w.edits[n]?.all w.current
  | _ => true

end Shopfront

/-! ## The operations do not see the edits -/

section

variable {α : Type} {db db' : Db}

theorem SameShop.leaves {x y : Except ShopError α} {f : α → Db} (h : SameShop db db')
    (hxy : Both (fun a b => SameShop (f a) (f b)) x y) :
    SameShop (Shopping.leaves db x f) (Shopping.leaves db' y f) := by
  cases hxy with
  | error e₁ e₂ => exact h
  | ok hab => exact hab

/-- Every operation keeps the relation. -/
theorem SameShop.apply (h : SameShop db db') (now : Time) (op : ShopOp) :
    SameShop (op.apply now db) (op.apply now db') := by
  cases op with
  | processOrder o cart usePoints =>
    exact h.leaves (OrderTasks.processOrderHeavyTasks_both h now o cart usePoints)
  | cancelOrder o closed => exact h.leaves (OrderService.cancelOrder_both h now o closed)
  | rollback o reason => exact PaymentTasks.rollbackPaymentFailure_both h now o reason
  | finalize response k user published =>
    exact h.leaves (PaymentTasks.finalizePaymentConfirm_both h now response k user published)
  | confirmSync k user toss =>
    exact h.leaves (PaymentService.confirmPaymentSync_both h now k user toss)
  | webhookDone event => exact h.leaves (TossWebhookService.handlePaymentDone_both h now event)
  | completePointsOnly o seen user =>
    exact h.leaves (PaymentService.completePointsOnlyPayment_both h now o seen user)
  | cancelPayment k user toss =>
    exact h.leaves (PaymentService.cancelPayment_both h now k user toss)
  | completeRefund id toss => exact h.leaves (ReturnService.completeRefund_both h now id toss)
  | completeExchange i => exact h.leaves (ReturnService.completeExchange_both h now i)

/-- A write of a row with the numbers of the present one keeps the relation. -/
theorem SameShop.putProduct (h : SameShop db db') {k : ProductId} {p q : Product}
    (hp : db'.products.get? k = some p) (hq : SameNumbers p q) :
    SameShop db { db' with products := db'.products.put k q } := by
  cases h with
  | intro hproducts horders =>
    refine ⟨hproducts.put_right (fun a ha => ?_) ?_, horders⟩
    · have hk := hproducts k
      dsimp only at hp
      rw [ha, hp] at hk
      cases hk with
      | some hap =>
        constructor
        · rw [hq.stock, hap.stock]
        · rw [hq.soldCount, hap.soldCount]
    · dsimp only at hp
      rw [hp]
      rfl

end

namespace Shopfront

/-- The stock and the count of sales of a product. -/
def numbersOf (w : Shopfront) (k : ProductId) : Option (Int × Int) :=
  (w.db.products.get? k).map fun p => (p.stock, p.soldCount)

/-- The run `w`, and the state that its operations alone lead to. -/
structure Follows (w alone : Shopfront) : Prop where
  now : alone.now = w.now
  db : SameShop alone.db w.db

variable {w alone w' : Shopfront}

theorem Follows.numbersOf (h : Follows w alone) (k : ProductId) :
    w.numbersOf k = alone.numbersOf k := by
  have hdb := h.db
  unfold Shopfront.numbersOf
  generalize w.db = db' at hdb
  cases hdb with
  | intro hproducts _ =>
    refine (hproducts.map_get? (fun p q hpq => ?_) k).symm
    rw [hpq.stock, hpq.soldCount]

/-- The write of a current copy moves only the run. -/
theorem Follows.save (h : Follows w alone) {n : Nat}
    {data : ProductCreateUpdateSerializer.ProductData}
    (hfresh : w.fresh (.saveProduct n data) = true)
    (hstep : step w (.saveProduct n data) = some w') : Follows w' alone := by
  obtain ⟨q, hq, hw⟩ := Option.bind_eq_some_iff.mp hstep
  split_ifs at hw with hstock
  cases hw
  have hcurrent : w.current q = true := by
    simpa [fresh, hq] using hfresh
  obtain ⟨p, hp, hnumbers⟩ := (Option.any_eq_true _ _).mp hcurrent
  simp only [Bool.and_eq_true, decide_eq_true_eq] at hnumbers
  have hassign := ProductCreateUpdateSerializer.assign_numbers (p := q.row) hstock
  refine ⟨h.now, h.db.putProduct hp ⟨?_, ?_⟩⟩
  · rw [hassign.1, hnumbers.1]
  · rw [hassign.2, hnumbers.2]

/-- Every other event moves both. -/
theorem Follows.own (h : Follows w alone) {e : ShopfrontEvent} (hown : e.isSave = false)
    (hstep : step w e = some w') : ∃ alone', step alone e = some alone' ∧ Follows w' alone' := by
  cases e with
  | tick seconds =>
    cases hstep
    refine ⟨_, rfl, ?_, h.db⟩
    show alone.now + seconds = w.now + seconds
    rw [h.now]
  | operation op =>
    cases hstep
    refine ⟨_, rfl, h.now, ?_⟩
    show SameShop (op.apply alone.now alone.db) (op.apply w.now w.db)
    rw [h.now]
    exact h.db.apply w.now op
  | loadProduct k =>
    obtain ⟨p, hp, hw⟩ := Option.bind_eq_some_iff.mp hstep
    cases hw
    have hnumbers := h.numbersOf k
    unfold Shopfront.numbersOf at hnumbers
    rw [hp] at hnumbers
    obtain ⟨p', hp', _⟩ := Option.map_eq_some_iff.mp hnumbers.symm
    exact ⟨_, Option.bind_eq_some_iff.mpr ⟨p', hp', rfl⟩, h.now, h.db⟩
  | saveProduct n data => cases hown

end Shopfront

/-! ## The runs -/

/-- A run in which every edit that is written has the stock and the count of
sales of the row ends with those that its operations alone leave. -/
theorem product_edits_lose_nothing {db : Db} {now : Time} {es : List ShopfrontEvent}
    {w : Shopfront}
    (h : Run Shopfront.step (fun w e => w.fresh e = true) (Shopfront.start db now) es w) :
    ∃ alone, exec Shopfront.step (Shopfront.start db now) (es.filter fun e => !e.isSave)
        = some alone ∧
      ∀ k, w.numbersOf k = alone.numbersOf k := by
  have hstart : (Shopfront.start db now).Follows (Shopfront.start db now) :=
    ⟨rfl, SameShop.refl db⟩
  obtain ⟨alone, halone, hfollows⟩ :=
    Run.erase (fun e => !e.isSave) Shopfront.Follows hstart
      (fun _ e _ _ hR hfresh hstep hev => by
        cases e with
        | saveProduct n data => exact hR.save hfresh hstep
        | tick seconds => cases hev
        | operation op => cases hev
        | loadProduct k => cases hev)
      (fun _ e _ _ hR _ hstep hev => by
        have hown : e.isSave = false := by simpa using hev
        exact hR.own hown hstep) h
  exact ⟨alone, halone, hfollows.numbersOf⟩

/-- The book is read and renamed after its order is canceled. -/
theorem product_edits_lose_nothing_renamed :
    ∃ w, Run Shopfront.step (fun w e => w.fresh e = true)
        (Shopfront.start (World.shop .confirmed .ready).db 0)
        [.operation (.cancelOrder 1 .canceled), .loadProduct 1,
          .saveProduct 0 { name := some "책 (2판)" }] w ∧
      w.numbersOf 1 = some (10, 0) ∧
      ∃ alone, exec Shopfront.step (Shopfront.start (World.shop .confirmed .ready).db 0)
        [.operation (.cancelOrder 1 .canceled), .loadProduct 1] = some alone ∧
        ∀ k, w.numbersOf k = alone.numbersOf k := by
  obtain ⟨w, hrun, hend⟩ := Run.exists_of_execIf (by decide : (execIf Shopfront.step
    Shopfront.fresh (Shopfront.start (World.shop .confirmed .ready).db 0)
    [.operation (.cancelOrder 1 .canceled), .loadProduct 1,
      .saveProduct 0 { name := some "책 (2판)" }]).any
        (fun w => decide (w.numbersOf 1 = some (10, 0))) = true)
  exact ⟨w, hrun, of_decide_eq_true hend, product_edits_lose_nothing hrun⟩

/-- The order is canceled between the read and the write of an edit, and its
book is not in the stock again; it is settled there, and is not counted as
sold. -/
theorem stale_product_edit :
    (∃ w alone, exec Shopfront.step (Shopfront.start (World.shop .confirmed .ready).db 0)
        [.loadProduct 1, .operation (.cancelOrder 1 .canceled),
          .saveProduct 0 { name := some "책 (2판)" }] = some w ∧
      exec Shopfront.step (Shopfront.start (World.shop .confirmed .ready).db 0)
        [.loadProduct 1, .operation (.cancelOrder 1 .canceled)] = some alone ∧
      w.numbersOf 1 = some (9, 0) ∧ alone.numbersOf 1 = some (10, 0)) ∧
    ∃ w alone, exec Shopfront.step (Shopfront.start (World.shop .confirmed .inProgress).db 0)
        [.loadProduct 1, .operation (.finalize World.approval 1 7 true),
          .saveProduct 0 { price := some 12000 }] = some w ∧
      exec Shopfront.step (Shopfront.start (World.shop .confirmed .inProgress).db 0)
        [.loadProduct 1, .operation (.finalize World.approval 1 7 true)] = some alone ∧
      w.numbersOf 1 = some (9, 0) ∧ alone.numbersOf 1 = some (9, 1) :=
  ⟨⟨_, _, rfl, rfl, by decide, by decide⟩, ⟨_, _, rfl, rfl, by decide, by decide⟩⟩

end Shopping
