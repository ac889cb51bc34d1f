import Shopping.Carts.Merge

/-!
# Adding many products at once

`bulk_add_items` next to `add_item` for each entry.  Both check an entry by
itself in the same way (`isAddable`).  `add_item` also counts what the cart has
of the product already; `bulk_add_items` does not.

The two agree exactly when every entry that is good by itself fits in the
stock beside the cart and the entries before it
(`bulk_equals_adding_each_iff`).
-/

namespace Shopping

namespace CartService

/-- An entry with both of its values. -/
def bulkItem (e : ProductId × Int) : BulkItem := { productId := some e.1, quantity := some e.2 }

/-- `add_item` for each entry, without those that raise: the indexes of these,
and the database after the others. -/
def addEach (cartId : CartId) (db : Db) (index : Nat) : List (ProductId × Int) → List Nat × Db
  | [] => ([], db)
  | (k, quantity) :: rest =>
    match addItem db db.products cartId k quantity with
    | .error _ =>
      let out := addEach cartId db (index + 1) rest
      (index :: out.1, out.2)
    | .ok (_, db') => addEach cartId db' (index + 1) rest

/-- What a call of `bulk_add_items` answers and commits; one that raises
commits nothing. -/
def bulkCommitted (db : Db) (cartId : CartId) (items : List (ProductId × Int)) :
    BulkAddResult × Db :=
  match bulkAddItems db db.products cartId (items.map bulkItem) with
  | .ok out => out
  | .error _ => ({}, db)

/-- The indexes of `errors`. -/
def BulkAddResult.errorIndexes (r : BulkAddResult) : List Nat := r.errors.map BulkError.index

/-- The entry is good by itself. -/
def isAddable (products : Table Product) (e : ProductId × Int) : Bool :=
  decide (minQuantity ≤ e.2) && decide (e.2 ≤ maxQuantity) &&
    (activeProduct? products e.1).any fun product => decide (e.2 ≤ product.stock)

/-- How many of the product the good entries add. -/
def addedBy (products : Table Product) (items : List (ProductId × Int)) (k : ProductId) : Int :=
  ((items.filter fun e => isAddable products e && decide (e.1 = k)).map Prod.snd).sum

/-- The call reports an error for the entries that `each` left out, leaves the
database of `each`, and writes no quantity beyond the stock. -/
structure SameAsEach (products : Table Product) (bulk : BulkAddResult × Db)
    (each : List Nat × Db) : Prop where
  errors : bulk.1.errorIndexes = each.1
  database : bulk.2 = each.2
  in_stock : ∀ it ∈ bulk.1.addedItems, ∀ product, products.get? it.product = some product →
    it.quantity ≤ product.stock

/-- Every good entry fits in the stock, beside what the cart has and what the
good entries before it add. -/
def FitsStock (products : Table Product) (cart : Cart) (items : List (ProductId × Int)) : Prop :=
  ∀ before e after product, items = before ++ e :: after → isAddable products e = true →
    products.get? e.1 = some product →
      cart.quantityOf e.1 + addedBy products before e.1 + e.2 ≤ product.stock

/-! ## One entry -/

section

variable {db db' : Db} {cartId : CartId} {cart : Cart} {e : ProductId × Int} {k : ProductId}
  {product : Product}

theorem isAddable_iff {products : Table Product} : isAddable products e = true ↔
    1 ≤ e.2 ∧ e.2 ≤ 999 ∧
      ∃ product, activeProduct? products e.1 = some product ∧ e.2 ≤ product.stock := by
  unfold isAddable
  simp only [Bool.and_eq_true, decide_eq_true_eq, Option.any_eq_true, and_assoc]
  rfl

theorem activeProduct?_get {products : Table Product}
    (h : activeProduct? products k = some product) : products.get? k = some product :=
  (Option.filter_eq_some_iff.mp h).1

/-- The cart gets the quantity, and the item that is answered is the cart's. -/
theorem addOrUpdateItem_adds (hcart : db.carts.get? cartId = some cart)
    (hproduct : db.products.get? k = some product) (quantity : Nat) :
    ∃ it f, addOrUpdateItem db cartId k quantity = .ok (it, saveCart db cartId f) ∧
      it.product = k ∧ it.quantity = cart.quantityOf k + quantity ∧
      ∀ j, (f cart).quantityOf j = cart.quantityOf j + if j = k then quantity else 0 := by
  unfold addOrUpdateItem getCart
  rw [hcart, ok_bind]
  cases hitem : cart.item? k with
  | some it =>
    have hk : it.product = k := Cart.item?_product hitem
    refine ⟨_, _, rfl, hk, ?_, fun j => ?_⟩
    · unfold Cart.quantityOf
      rw [hitem]
      rfl
    · rw [hk]
      exact Cart.quantityOf_increaseQuantity hitem quantity
  | none =>
    dsimp only
    rw [hproduct]
    refine ⟨_, _, rfl, rfl, ?_, fun j => ?_⟩
    · unfold Cart.quantityOf
      rw [hitem]
      exact (Nat.zero_add quantity).symm
    · have hnew : cart.item? (CartItem.mk k quantity (some product.price)).product = none := hitem
      exact Cart.quantityOf_createItem hnew

theorem validateStock_eq_ok {quantity : Int} {u : Unit} :
    validateStock product quantity = .ok u ↔ quantity ≤ product.stock := by
  unfold validateStock
  split
  · simp_all
  · simp_all

theorem validateQuantity_eq_ok {quantity : Int} {u : Unit} :
    validateQuantity quantity = .ok u ↔ 1 ≤ quantity ∧ quantity ≤ 999 := by
  unfold validateQuantity minQuantity maxQuantity
  split
  · simp_all
  · split
    · simp_all
    · simp_all

theorem getProduct_eq_ok {products : Table Product} :
    getProduct products k = .ok product ↔ activeProduct? products k = some product := by
  unfold getProduct
  cases activeProduct? products k with
  | none => simp
  | some p => simp

theorem getCart_eq_ok : getCart db cartId = .ok cart ↔ db.carts.get? cartId = some cart := by
  unfold getCart
  cases db.carts.get? cartId with
  | none => simp
  | some c => simp

/-- The checks of `add_item`, and what is left of it after them. -/
theorem addItem_steps {quantity : Int} {out : CartItem × Db} :
    addItem db db.products cartId k quantity = .ok out ↔
      (1 ≤ quantity ∧ quantity ≤ 999) ∧
      ∃ product, activeProduct? db.products k = some product ∧
      ∃ cart, db.carts.get? cartId = some cart ∧
        quantity + cart.quantityOf k ≤ product.stock ∧
        addOrUpdateItem db cartId k quantity.toNat = .ok out := by
  unfold addItem
  rw [bind_eq_ok]
  simp only [bind_eq_ok, validateQuantity_eq_ok, getProduct_eq_ok, getCart_eq_ok,
    exists_const]
  refine and_congr Iff.rfl (exists_congr fun product => and_congr_right fun hproduct =>
    exists_congr fun cart => and_congr_right fun hcart => ?_)
  unfold addOrUpdateItem getCart Cart.quantityOf
  rw [hcart, ok_bind, activeProduct?_get hproduct]
  cases hitem : cart.item? k with
  | some it =>
    simp only [bind_eq_ok, validateStock_eq_ok, exists_const]
    rfl
  | none =>
    simp only [bind_eq_ok, validateStock_eq_ok, exists_const]
    show _ ↔ quantity + 0 ≤ product.stock ∧ _
    rw [add_zero]

/-- `add_item` adds an entry that is good by itself and fits beside the cart. -/
theorem addItem_eq_ok (hcart : db.carts.get? cartId = some cart) {out : CartItem × Db} :
    addItem db db.products cartId e.1 e.2 = .ok out ↔
      isAddable db.products e = true ∧
      (∃ product, db.products.get? e.1 = some product ∧
        cart.quantityOf e.1 + e.2 ≤ product.stock) ∧
      addOrUpdateItem db cartId e.1 e.2.toNat = .ok out := by
  rw [addItem_steps, isAddable_iff]
  constructor
  · rintro ⟨⟨hmin, hmax⟩, product, hproduct, cart', hcart', hstock, hadd⟩
    obtain rfl : cart = cart' := Option.some.inj (hcart.symm.trans hcart')
    exact ⟨⟨hmin, hmax, product, hproduct, by omega⟩,
      ⟨product, activeProduct?_get hproduct, by omega⟩, hadd⟩
  · rintro ⟨⟨hmin, hmax, product, hproduct, _⟩, ⟨product', hget, hstock⟩, hadd⟩
    obtain rfl : product = product' :=
      Option.some.inj ((activeProduct?_get hproduct).symm.trans hget)
    exact ⟨⟨hmin, hmax⟩, product, hproduct, cart, hcart, by omega, hadd⟩

/-- `bulk_add_items` adds every entry that is good by itself. -/
theorem validateBulkItem_eq_ok {products : Table Product} {index : Nat}
    {out : ProductId × Nat} :
    validateBulkItem products index (bulkItem e) = .ok out ↔
      e.1 ≠ 0 ∧ isAddable products e = true ∧ out = (e.1, e.2.toNat) := by
  unfold validateBulkItem bulkItem isAddable
  dsimp only
  by_cases hzero : e.1 = 0
  · rw [Option.filter_some, if_neg (by simp [hzero])]
    simp [hzero]
  · rw [Option.filter_some, if_pos (decide_eq_true hzero)]
    dsimp only
    cases activeProduct? products e.1 with
    | none => simp
    | some product =>
      dsimp only
      rw [Option.filter_some]
      by_cases hmin : minQuantity ≤ e.2
      · rw [if_pos (decide_eq_true hmin)]
        dsimp only
        by_cases hmax : maxQuantity < e.2
        · simp [hmax, not_le.mpr hmax]
        · by_cases hstock : product.stock < e.2
          · simp [hmax, hstock, not_le.mpr hstock]
          · simp [hmax, hstock, hzero, hmin, not_lt.mp hmax, not_lt.mp hstock, eq_comm]
      · simp [hmin]

/-! ## All entries -/

theorem isAddable_get {products : Table Product} (h : isAddable products e = true) :
    ∃ product, products.get? e.1 = some product := by
  obtain ⟨_, _, product, hproduct, _⟩ := isAddable_iff.mp h
  exact ⟨product, activeProduct?_get hproduct⟩

theorem addedBy_cons (products : Table Product) (e : ProductId × Int)
    (items : List (ProductId × Int)) (k : ProductId) :
    addedBy products (e :: items) k
      = (if isAddable products e = true ∧ k = e.1 then e.2 else 0) + addedBy products items k := by
  unfold addedBy
  rw [List.filter_cons]
  by_cases hadd : isAddable products e = true
  · by_cases hk : e.1 = k
    · simp [hadd, hk]
    · simp [hadd, hk, Ne.symm hk]
  · simp [hadd]

/-- The entries after the first fit beside the cart with the first in it. -/
theorem fitsStock_cons {products : Table Product} {cart cart' : Cart}
    {items : List (ProductId × Int)}
    (hcart' : ∀ k, (cart'.quantityOf k : Int) = cart.quantityOf k
      + if isAddable products e = true ∧ k = e.1 then e.2 else 0) :
    FitsStock products cart (e :: items) ↔
      (isAddable products e = true → ∀ product, products.get? e.1 = some product →
        cart.quantityOf e.1 + e.2 ≤ product.stock) ∧
      FitsStock products cart' items := by
  constructor
  · intro h
    refine ⟨fun hadd product hproduct => ?_, fun before e' after product hitems hadd hproduct => ?_⟩
    · have hfirst := h [] e items product rfl hadd hproduct
      simpa [addedBy] using hfirst
    · have hlater := h (e :: before) e' after product (by rw [hitems]; rfl) hadd hproduct
      rw [addedBy_cons] at hlater
      rw [hcart']
      omega
  · rintro ⟨hfirst, hrest⟩ before e' after product hitems hadd hproduct
    cases before with
    | nil =>
      obtain ⟨rfl, rfl⟩ := List.cons.inj hitems
      simpa [addedBy] using hfirst hadd product hproduct
    | cons b before =>
      obtain ⟨rfl, htail⟩ := List.cons.inj hitems
      have hlater := hrest before e' after product htail hadd hproduct
      rw [hcart'] at hlater
      rw [addedBy_cons]
      omega

theorem validateBulkItem_index {products : Table Product} {index : Nat} {item : BulkItem}
    {error : BulkError} (h : validateBulkItem products index item = .error error) :
    error.index = index := by
  unfold validateBulkItem at h
  split at h
  · cases h
    rfl
  · split at h
    · cases h
      rfl
    · split at h
      · cases h
        rfl
      · split_ifs at h
        · cases h
          rfl
        · cases h
          rfl

/-- The loop reports an entry under its index, and goes on. -/
theorem bulkLoop_failed (db : Db) (cartId : CartId) {products : Table Product} {index : Nat}
    {item : BulkItem} (rest : List BulkItem)
    (h : ∀ out, validateBulkItem products index item ≠ .ok out) :
    ∃ error : BulkError, error.index = index ∧
      bulkLoop products cartId db index (item :: rest)
        = ((bulkLoop products cartId db (index + 1) rest).1.failed error,
          (bulkLoop products cartId db (index + 1) rest).2) := by
  rw [bulkLoop]
  cases hitem : validateBulkItem products index item with
  | ok out => exact absurd hitem (h out)
  | error error => exact ⟨error, validateBulkItem_index hitem, rfl⟩

/-- The loop adds an entry, and goes on. -/
theorem bulkLoop_added {products : Table Product} {index : Nat} {item : BulkItem}
    {rest : List BulkItem} {quantity : Nat} {it : CartItem}
    (h : validateBulkItem products index item = .ok (k, quantity))
    (hadd : addOrUpdateItem db cartId k quantity = .ok (it, db')) :
    bulkLoop products cartId db index (item :: rest)
      = ((bulkLoop products cartId db' (index + 1) rest).1.added it,
        (bulkLoop products cartId db' (index + 1) rest).2) := by
  rw [bulkLoop, h]
  dsimp only
  rw [hadd]

theorem addEach_added {rest : List (ProductId × Int)} {index : Nat} {it : CartItem}
    (h : addItem db db.products cartId e.1 e.2 = .ok (it, db')) :
    addEach cartId db index (e :: rest) = addEach cartId db' (index + 1) rest := by
  rw [addEach, h]

theorem addEach_left {rest : List (ProductId × Int)} {index : Nat}
    (h : ∀ out, addItem db db.products cartId e.1 e.2 ≠ .ok out) :
    addEach cartId db index (e :: rest)
      = (index :: (addEach cartId db (index + 1) rest).1,
        (addEach cartId db (index + 1) rest).2) := by
  rw [addEach]
  split
  · rfl
  · rename_i hout
    exact absurd hout (h _)

theorem sameAsEach_added {products : Table Product} {bulk : BulkAddResult × Db}
    {each : List Nat × Db} {it : CartItem}
    (h : ∀ product, products.get? it.product = some product → it.quantity ≤ product.stock) :
    SameAsEach products (bulk.1.added it, bulk.2) each ↔ SameAsEach products bulk each := by
  constructor
  · intro hsame
    exact ⟨hsame.errors, hsame.database, fun it' hit' =>
      hsame.in_stock it' (List.mem_cons_of_mem _ hit')⟩
  · intro hsame
    refine ⟨hsame.errors, hsame.database, fun it' hit' => ?_⟩
    rcases List.mem_cons.mp hit' with rfl | hit'
    · exact h
    · exact hsame.in_stock it' hit'

theorem sameAsEach_failed {products : Table Product} {bulk : BulkAddResult × Db}
    {each : List Nat × Db} {error : BulkError} :
    SameAsEach products (bulk.1.failed error, bulk.2) (error.index :: each.1, each.2) ↔
      SameAsEach products bulk each := by
  constructor
  · intro hsame
    exact ⟨(List.cons.inj hsame.errors).2, hsame.database, hsame.in_stock⟩
  · intro hsame
    exact ⟨congrArg (error.index :: ·) hsame.errors, hsame.database, hsame.in_stock⟩

/-- The errors of the loop are those of the entries from `index` on. -/
theorem le_errorIndexes (products : Table Product) (items : List BulkItem) (db : Db)
    (index : Nat) : ∀ n ∈ (bulkLoop products cartId db index items).1.errorIndexes, index ≤ n := by
  induction items generalizing db index with
  | nil => nofun
  | cons item rest ih =>
    intro n hn
    rw [bulkLoop] at hn
    split at hn
    · rename_i error hitem
      rcases List.mem_cons.mp hn with rfl | hn
      · exact (validateBulkItem_index hitem).ge
      · exact (Nat.le_succ index).trans (ih db (index + 1) n hn)
    · split at hn
      · rcases List.mem_cons.mp hn with rfl | hn
        · exact le_rfl
        · exact (Nat.le_succ index).trans (ih db (index + 1) n hn)
      · exact (Nat.le_succ index).trans (ih _ (index + 1) n hn)

/-- An entry that the bulk call adds and `add_item` refuses sets the two apart. -/
theorem not_sameAsEach_of_left {products : Table Product} {items : List BulkItem} {index : Nat}
    {it : CartItem} {each : List Nat × Db} :
    ¬ SameAsEach products ((bulkLoop products cartId db (index + 1) items).1.added it,
        (bulkLoop products cartId db (index + 1) items).2) (index :: each.1, each.2) := by
  intro hsame
  have hmem : index ∈ (bulkLoop products cartId db (index + 1) items).1.errorIndexes := by
    show index ∈ BulkAddResult.errorIndexes (BulkAddResult.added it _)
    rw [hsame.errors]
    exact List.mem_cons_self
  have hlate := le_errorIndexes products items db (index + 1) index hmem
  omega

/-- `add_item` refuses an entry beyond the stock. -/
theorem addItem_exceeds {cart : Cart} {product : Product} (hcart : db.carts.get? cartId = some cart)
    (hproduct : db.products.get? e.1 = some product)
    (hexceeds : ¬ cart.quantityOf e.1 + e.2 ≤ product.stock) :
    ∀ out, addItem db db.products cartId e.1 e.2 ≠ .ok out := by
  intro out hout
  obtain ⟨_, ⟨product', hproduct', hstock⟩, _⟩ := (addItem_eq_ok hcart).mp hout
  rw [hproduct, Option.some.injEq] at hproduct'
  rw [← hproduct'] at hstock
  exact hexceeds hstock

end

/-- The two loops on the same entries. -/
theorem bulkLoop_sameAsEach_iff {cartId : CartId} (items : List (ProductId × Int)) (db : Db)
    {cart : Cart} (hcart : db.carts.get? cartId = some cart)
    (hzero : db.products.get? 0 = none) (index : Nat) :
    SameAsEach db.products (bulkLoop db.products cartId db index (items.map bulkItem))
        (addEach cartId db index items) ↔
      FitsStock db.products cart items := by
  induction items generalizing db cart index with
  | nil => exact ⟨fun _ before e after _ h => by simp at h, fun _ => ⟨rfl, rfl, nofun⟩⟩
  | cons e rest ih =>
    rw [List.map_cons]
    by_cases hadd : isAddable db.products e = true
    · obtain ⟨product, hproduct⟩ := isAddable_get hadd
      have hpos : 1 ≤ e.2 := (isAddable_iff.mp hadd).1
      have hid : e.1 ≠ 0 := by
        intro hc
        rw [hc, hzero] at hproduct
        cases hproduct
      have hitem : validateBulkItem db.products index (bulkItem e) = .ok (e.1, e.2.toNat) :=
        validateBulkItem_eq_ok.mpr ⟨hid, hadd, rfl⟩
      obtain ⟨it, f, hmade, hitProduct, hitQuantity, hquantity⟩ :=
        addOrUpdateItem_adds hcart hproduct e.2.toNat
      have hcart' : (saveCart db cartId f).carts.get? cartId = some (f cart) := by
        unfold saveCart
        rw [Table.get?_modify_self, hcart]
        rfl
      rw [bulkLoop_added hitem hmade, fitsStock_cons fun k => ?hquantity]
      case hquantity =>
        rw [hquantity k]
        by_cases hk : k = e.1
        · simp only [hk, hadd, and_self, if_true]
          omega
        · simp [hk]
      by_cases hfits : cart.quantityOf e.1 + e.2 ≤ product.stock
      · have heach : addItem db db.products cartId e.1 e.2 = .ok (it, saveCart db cartId f) :=
          (addItem_eq_ok hcart).mpr ⟨hadd, ⟨product, hproduct, hfits⟩, hmade⟩
        have hstock : ∀ product, db.products.get? it.product = some product →
            it.quantity ≤ product.stock := by
          intro product' hproduct'
          rw [hitProduct, hproduct, Option.some.injEq] at hproduct'
          rw [← hproduct', hitQuantity]
          omega
        have hfirst : isAddable db.products e = true → ∀ product,
            db.products.get? e.1 = some product → cart.quantityOf e.1 + e.2 ≤ product.stock := by
          intro _ product' hproduct'
          rw [hproduct, Option.some.injEq] at hproduct'
          rw [← hproduct']
          exact hfits
        rw [addEach_added heach, sameAsEach_added hstock, and_iff_right hfirst]
        exact ih (saveCart db cartId f) hcart' hzero (index + 1)
      · -- The bulk call reports no error for this entry.
        rw [addEach_left (addItem_exceeds hcart hproduct hfits)]
        exact ⟨fun hsame => absurd hsame not_sameAsEach_of_left,
          fun h => absurd (h.1 hadd product hproduct) hfits⟩
    · obtain ⟨error, hindex, hloop⟩ := bulkLoop_failed db cartId (rest.map bulkItem)
        fun out (hout : validateBulkItem db.products index (bulkItem e) = .ok out) =>
          hadd (validateBulkItem_eq_ok.mp hout).2.1
      have heach : ∀ out, addItem db db.products cartId e.1 e.2 ≠ .ok out :=
        fun out hout => hadd ((addItem_eq_ok hcart).mp hout).1
      rw [hloop, addEach_left heach, ← hindex, sameAsEach_failed, hindex,
        fitsStock_cons (fun k => by simp [hadd] : ∀ k, (cart.quantityOf k : Int) = _),
        and_iff_right fun h => absurd h hadd]
      exact ih db hcart hzero (index + 1)

/-- A bulk call does what `add_item` does for each entry in turn, and writes no
quantity beyond the stock, exactly when every entry that is good by itself fits
beside the cart and the good entries before it. -/
theorem bulk_equals_adding_each_iff {db : Db} {cartId : CartId} {cart : Cart}
    (hcart : db.carts.get? cartId = some cart) (hzero : db.products.get? 0 = none)
    (items : List (ProductId × Int)) :
    SameAsEach db.products (bulkCommitted db cartId items) (addEach cartId db 0 items) ↔
      FitsStock db.products cart items := by
  rw [← bulkLoop_sameAsEach_iff items db hcart hzero 0]
  unfold bulkCommitted bulkAddItems getCart
  by_cases hitems : items = []
  · rw [hitems]
    exact Iff.rfl
  · rw [if_neg (by rw [List.map_eq_nil_iff]; exact hitems), hcart]
    exact Iff.rfl

/-- A product with five in stock, and an empty cart. -/
def fiveInStock : Db where
  ledger := Ledger.empty
  membership := fun _ => .bronze
  products := Table.empty.insert { name := "컵", price := 9000, stock := 5 }
  carts := Table.empty.insert { user := some 7 }
  orders := Table.empty
  payments := PaymentTable.empty
  logs := []
  returns := Table.empty
  idempotencyKeys := []
  webhookMarks := []

theorem bulk_equals_adding_each_to_five :
    SameAsEach fiveInStock.products (bulkCommitted fiveInStock 1 [(1, 2), (1, 3)])
      (addEach 1 fiveInStock 0 [(1, 2), (1, 3)]) := by
  have hcart : fiveInStock.carts.get? 1 = some { user := some 7 } := rfl
  refine (bulk_equals_adding_each_iff hcart rfl _).mpr ?_
  rintro (_ | ⟨_, _ | ⟨_, _⟩⟩) e after product hitems _ hproduct
  · cases hitems
    cases hproduct
    decide +kernel
  · cases hitems
    cases hproduct
    decide +kernel
  · simp at hitems

/-- Three and three of five are in the cart after the bulk call, which reports
no error; `add_item` refuses the second three. -/
theorem bulk_exceeds_stock :
    (bulkCommitted fiveInStock 1 [(1, 3), (1, 3)]).1.errorIndexes = [] ∧
    ((bulkCommitted fiveInStock 1 [(1, 3), (1, 3)]).2.carts.get? 1).map
      (fun cart => cart.quantityOf 1) = some 6 ∧
    (addEach 1 fiveInStock 0 [(1, 3), (1, 3)]).1 = [1] ∧
    ((addEach 1 fiveInStock 0 [(1, 3), (1, 3)]).2.carts.get? 1).map
      (fun cart => cart.quantityOf 1) = some 3 := by
  decide +kernel

end CartService

end Shopping
