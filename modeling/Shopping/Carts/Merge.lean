import Shopping.Carts.Service

/-!
# The carts of a session, and their merge at a login

`CartService.merge_anonymous_cart` of `shopping/services/cart_service.py` and
`Cart.merge_anonymous_cart` of `shopping/models/cart.py`, which the login
calls.

The service moves the items that the member does not have, adds up the others
and leaves their rows in the session's cart, which it closes.  It reads that
cart before it waits for the lock of the member's cart, so it comes in three
parts here: `lookUp`, the check for items, and `absorb`.  The model reads the
session's cart under the lock, creates the items that the member does not have
again, without their price, and deletes the session's cart.
-/

namespace Shopping

namespace Cart

/-- How many of the product are in the cart. -/
def quantityOf (c : Cart) (k : ProductId) : Nat := ((c.item? k).map CartItem.quantity).getD 0

end Cart

namespace CartService

/-- `get_or_create_active_cart` for a session. -/
def getOrCreateSessionCart (db : Db) (sessionKey : String) : CartId × Db :=
  match db.carts.find? fun _ c => decide (c.sessionKey = some sessionKey) && c.isActive with
  | some (cartId, _) => (cartId, db)
  | none =>
    (db.carts.next,
      { db with carts := db.carts.insert { user := none, sessionKey := some sessionKey } })

/-- `Cart.objects.get(session_key=session_key, is_active=True)`. -/
def anonymousCart? (db : Db) (sessionKey : String) : Option (CartId × Cart) :=
  db.carts.find? fun _ c => decide (c.sessionKey = some sessionKey) && c.isActive

/-- The items that a query of the cart reads. -/
def itemsOf (db : Db) (cartId : CartId) : List CartItem :=
  ((db.carts.get? cartId).map Cart.items).getD []

/-- A new cart of a member is no cart of a session. -/
theorem anonymousCart?_getOrCreateActiveCart (db : Db) (user : UserId) (sessionKey : String) :
    anonymousCart? (getOrCreateActiveCart db user).2 sessionKey = anonymousCart? db sessionKey := by
  unfold getOrCreateActiveCart
  split
  · rfl
  · unfold anonymousCart?
    rw [Table.find?_insert]
    simp

/-! ## `CartService.merge_anonymous_cart` -/

/-- One round of the loop. -/
def mergeItem (anonymous userCart : CartId) (db : Db) (it : CartItem) : Db :=
  match (db.carts.get? userCart).bind fun c => c.item? it.product with
  | some existing =>
    saveCart db userCart (Cart.setQuantity it.product (existing.quantity + it.quantity))
  | none =>
    saveCart (saveCart db anonymous (Cart.deleteItem it.product)) userCart (Cart.createItem it)

/-- The cart that the merge finds for the session, before it takes a lock. -/
def lookUp (db : Db) (sessionKey : String) : Option CartId :=
  if sessionKey = "" then none else (anonymousCart? db sessionKey).map Prod.fst

/-- The merge from the lock of the member's cart to the end: how many items. -/
def absorb (db : Db) (user : UserId) (anonymous : CartId) : Nat × Db :=
  let (userCart, db) := getOrCreateActiveCart db user
  let items := itemsOf db anonymous
  (items.length, saveCart (items.foldl (mergeItem anonymous userCart) db) anonymous fun c =>
    { c with isActive := false })

/-- `merge_anonymous_cart`. -/
def mergeAnonymousCart (db : Db) (user : UserId) (sessionKey : String) : Nat × Db :=
  match lookUp db sessionKey with
  | none => (0, db)
  | some anonymous =>
    if itemsOf db anonymous = [] then (0, db) else absorb db user anonymous

end CartService

namespace Cart

/-! ## `Cart.merge_anonymous_cart` -/

/-- One round of the loop. -/
def mergeItem (userCart : CartId) (db : Db) (it : CartItem) : Db :=
  match (db.carts.get? userCart).bind fun c => c.item? it.product with
  | some _ => CartService.saveCart db userCart (increaseQuantity it.product it.quantity)
  | none =>
    CartService.saveCart db userCart
      (createItem { product := it.product, quantity := it.quantity })

/-- `merge_anonymous_cart`: the cart of the member. -/
def mergeAnonymousCart (db : Db) (user : UserId) (sessionKey : String) : CartId × Db :=
  let (userCart, db) := CartService.getOrCreateActiveCart db user
  match CartService.anonymousCart? db sessionKey with
  | none => (userCart, db)
  | some (anonymous, _) =>
    let db := (CartService.itemsOf db anonymous).foldl (mergeItem userCart) db
    (userCart, { db with carts := db.carts.delete fun k _ => decide (k = anonymous) })

/-! ## What a cart has of a product -/

variable {c : Cart} {k j : ProductId} {it : CartItem}

theorem item?_map {f : CartItem → CartItem} (hf : ∀ it, (f it).product = it.product) :
    ({ c with items := c.items.map f } : Cart).item? j = (c.item? j).map f := by
  have hp : (fun it => decide (CartItem.product it = j)) ∘ f
      = fun it => decide (CartItem.product it = j) := by
    funext it
    show decide ((f it).product = j) = decide (it.product = j)
    rw [hf]
  unfold item?
  rw [List.find?_map, hp]

theorem item?_product (h : c.item? k = some it) : it.product = k := by
  unfold item? at h
  simpa using List.find?_some h

/-- The quantity of the one product is set, the others stay. -/
theorem quantityOf_set {q : CartItem → Nat} (h : c.item? k = some it) :
    ({ c with items := c.items.map fun it =>
        if it.product = k then { it with quantity := q it } else it } : Cart).quantityOf j
      = if j = k then q it else c.quantityOf j := by
  unfold quantityOf
  rw [item?_map fun it => by split <;> rfl]
  by_cases hj : j = k
  · rw [if_pos hj, hj, h, Option.map_some, if_pos (item?_product h)]
    rfl
  · rw [if_neg hj]
    cases hitem : c.item? j with
    | none => rfl
    | some other =>
      have hother : other.product ≠ k := by
        rw [item?_product hitem]
        exact hj
      rw [Option.map_some, if_neg hother]

theorem quantityOf_setQuantity (h : c.item? k = some it) (q : Nat) :
    (setQuantity k (it.quantity + q) c).quantityOf j
      = c.quantityOf j + if j = k then q else 0 := by
  have hset := quantityOf_set (j := j) (q := fun _ => it.quantity + q) h
  show quantityOf { c with items := _ } j = _
  rw [hset]
  by_cases hj : j = k
  · rw [if_pos hj, if_pos hj, hj]
    unfold quantityOf
    rw [h]
    rfl
  · rw [if_neg hj, if_neg hj, Nat.add_zero]

theorem quantityOf_increaseQuantity (h : c.item? k = some it) (q : Nat) :
    (increaseQuantity k q c).quantityOf j = c.quantityOf j + if j = k then q else 0 := by
  have hset := quantityOf_set (j := j) (q := fun it => it.quantity + q) h
  show quantityOf { c with items := _ } j = _
  rw [hset]
  by_cases hj : j = k
  · rw [if_pos hj, if_pos hj, hj]
    unfold quantityOf
    rw [h]
    rfl
  · rw [if_neg hj, if_neg hj, Nat.add_zero]

theorem quantityOf_createItem (h : c.item? it.product = none) :
    (createItem it c).quantityOf j
      = c.quantityOf j + if j = it.product then it.quantity else 0 := by
  unfold quantityOf createItem item? at *
  rw [List.find?_append, List.find?_singleton]
  by_cases hj : j = it.product
  · rw [hj, h]
    simp
  · have hne : ¬ it.product = j := fun heq => hj heq.symm
    simp [hne, hj]

end Cart

/-! ## What the merges add -/

/-- Who the cart belongs to, and whether it is open. -/
def SameHead (c c' : Cart) : Prop :=
  c'.user = c.user ∧ c'.isActive = c.isActive ∧ c'.sessionKey = c.sessionKey

theorem SameHead.trans {c c' c'' : Cart} (h : SameHead c c') (h' : SameHead c' c'') :
    SameHead c c'' :=
  ⟨h'.1.trans h.1, h'.2.1.trans h.2.1, h'.2.2.trans h.2.2⟩

/-- The member's cart `u` gets the quantities `q`, and the session's cart `a`
may lose items. -/
structure Added (u a : CartId) (db db' : Db) (q : ProductId → Nat) : Prop where
  back : ∀ c cart', db'.carts.get? c = some cart' →
    ∃ cart, db.carts.get? c = some cart ∧ SameHead cart cart'
  member : ∀ m, db.carts.get? u = some m → ∃ m', db'.carts.get? u = some m' ∧ SameHead m m' ∧
    ∀ k, m'.quantityOf k = m.quantityOf k + q k
  anonymous : ∀ c, db.carts.get? a = some c → ∃ c', db'.carts.get? a = some c' ∧ SameHead c c' ∧
    c'.items.Sublist c.items

/-- The quantities of a list of items. -/
def amount (items : List CartItem) (k : ProductId) : Nat :=
  (items.map fun it => if k = it.product then it.quantity else 0).sum

section

variable {u a : CartId} {db db' db'' : Db} {q q' : ProductId → Nat}

theorem Added.refl (u a : CartId) (db : Db) : Added u a db db fun _ => 0 :=
  ⟨fun _ cart h => ⟨cart, h, rfl, rfl, rfl⟩, fun m h => ⟨m, h, ⟨rfl, rfl, rfl⟩, fun _ => rfl⟩,
    fun c h => ⟨c, h, ⟨rfl, rfl, rfl⟩, List.Sublist.refl _⟩⟩

theorem Added.trans (h : Added u a db db' q) (h' : Added u a db' db'' q') :
    Added u a db db'' fun k => q k + q' k := by
  refine ⟨fun c cart'' hget => ?_, fun m hm => ?_, fun c hc => ?_⟩
  · obtain ⟨cart', hget', hhead'⟩ := h'.back c cart'' hget
    obtain ⟨cart, hget, hhead⟩ := h.back c cart' hget'
    exact ⟨cart, hget, hhead.trans hhead'⟩
  · obtain ⟨m', hm', hhead, hq⟩ := h.member m hm
    obtain ⟨m'', hm'', hhead', hq'⟩ := h'.member m' hm'
    refine ⟨m'', hm'', hhead.trans hhead', fun k => ?_⟩
    have h1 := hq k
    have h2 := hq' k
    omega
  · obtain ⟨c', hc', hhead, hitems⟩ := h.anonymous c hc
    obtain ⟨c'', hc'', hhead', hitems'⟩ := h'.anonymous c' hc'
    exact ⟨c'', hc'', hhead.trans hhead', hitems'.trans hitems⟩

/-- An edit of the member's cart. -/
theorem Added.of_member (hne : u ≠ a) {f : Cart → Cart} (hhead : ∀ c, SameHead c (f c))
    (hq : ∀ m, db.carts.get? u = some m → ∀ k, (f m).quantityOf k = m.quantityOf k + q k) :
    Added u a db (CartService.saveCart db u f) q := by
  refine ⟨fun c cart' hget => ?_, fun m hm => ?_, fun c hc => ?_⟩
  · have hget : (db.carts.modify u f).get? c = some cart' := hget
    rw [Table.get?_modify] at hget
    split at hget
    · obtain ⟨cart, hcart, rfl⟩ := Option.map_eq_some_iff.mp hget
      exact ⟨cart, hcart, hhead cart⟩
    · exact ⟨cart', hget, rfl, rfl, rfl⟩
  · refine ⟨f m, ?_, hhead m, hq m hm⟩
    show (db.carts.modify u f).get? u = some (f m)
    rw [Table.get?_modify_self, hm]
    rfl
  · refine ⟨c, ?_, ⟨rfl, rfl, rfl⟩, List.Sublist.refl _⟩
    show (db.carts.modify u f).get? a = some c
    rw [Table.get?_modify, if_neg hne.symm]
    exact hc

/-- Items leave the session's cart. -/
theorem Added.of_anonymous (hne : u ≠ a) {f : Cart → Cart} (hhead : ∀ c, SameHead c (f c))
    (hitems : ∀ c, (f c).items.Sublist c.items) :
    Added u a db (CartService.saveCart db a f) fun _ => 0 := by
  refine ⟨fun c cart' hget => ?_, fun m hm => ?_, fun c hc => ?_⟩
  · have hget : (db.carts.modify a f).get? c = some cart' := hget
    rw [Table.get?_modify] at hget
    split at hget
    · obtain ⟨cart, hcart, rfl⟩ := Option.map_eq_some_iff.mp hget
      exact ⟨cart, hcart, hhead cart⟩
    · exact ⟨cart', hget, rfl, rfl, rfl⟩
  · refine ⟨m, ?_, ⟨rfl, rfl, rfl⟩, fun _ => rfl⟩
    show (db.carts.modify a f).get? u = some m
    rw [Table.get?_modify, if_neg hne]
    exact hm
  · refine ⟨f c, ?_, hhead c, hitems c⟩
    show (db.carts.modify a f).get? a = some (f c)
    rw [Table.get?_modify_self, hc]
    rfl

/-- One round of the service's loop adds the item. -/
theorem added_mergeItem (hne : u ≠ a) (db : Db) (it : CartItem) :
    Added u a db (CartService.mergeItem a u db it)
      fun k => if k = it.product then it.quantity else 0 := by
  unfold CartService.mergeItem
  split
  · rename_i existing hexisting
    refine Added.of_member hne (fun c => ⟨rfl, rfl, rfl⟩) fun m hm k => ?_
    rw [hm] at hexisting
    exact Cart.quantityOf_setQuantity hexisting it.quantity
  · rename_i hnone
    have hdelete :
        Added u a db (CartService.saveCart db a (Cart.deleteItem it.product)) fun _ => 0 :=
      Added.of_anonymous hne (fun c => ⟨rfl, rfl, rfl⟩) fun c => List.filter_sublist
    have hcreate : Added u a (CartService.saveCart db a (Cart.deleteItem it.product))
        (CartService.saveCart (CartService.saveCart db a (Cart.deleteItem it.product)) u
          (Cart.createItem it)) fun k => if k = it.product then it.quantity else 0 := by
      refine Added.of_member hne (fun c => ⟨rfl, rfl, rfl⟩) fun m hm k => ?_
      have hm : (db.carts.modify a (Cart.deleteItem it.product)).get? u = some m := hm
      rw [Table.get?_modify, if_neg hne] at hm
      rw [hm] at hnone
      exact Cart.quantityOf_createItem hnone
    have hboth := hdelete.trans hcreate
    simpa using hboth

/-- One round of the model's loop adds the item. -/
theorem added_modelItem (hne : u ≠ a) (db : Db) (it : CartItem) :
    Added u a db (Cart.mergeItem u db it)
      fun k => if k = it.product then it.quantity else 0 := by
  unfold Cart.mergeItem
  split
  · rename_i existing hexisting
    refine Added.of_member hne (fun c => ⟨rfl, rfl, rfl⟩) fun m hm k => ?_
    rw [hm] at hexisting
    exact Cart.quantityOf_increaseQuantity hexisting it.quantity
  · rename_i hnone
    refine Added.of_member hne (fun c => ⟨rfl, rfl, rfl⟩) fun m hm k => ?_
    rw [hm] at hnone
    let created : CartItem := { product := it.product, quantity := it.quantity }
    have hcreated : m.item? created.product = none := hnone
    exact Cart.quantityOf_createItem hcreated

/-- A loop whose rounds add their items adds all of them. -/
theorem Added.foldl {f : Db → CartItem → Db}
    (hf : ∀ db it, Added u a db (f db it) fun k => if k = it.product then it.quantity else 0)
    (items : List CartItem) (db : Db) : Added u a db (items.foldl f db) (amount items) := by
  induction items generalizing db with
  | nil => exact Added.refl u a db
  | cons it rest ih =>
    have hboth := (hf db it).trans (ih (f db it))
    have hsum : (fun k => (if k = it.product then it.quantity else 0) + amount rest k)
        = amount (it :: rest) := by
      funext k
      simp [amount]
    rwa [hsum] at hboth

/-- In a cart with one item of a product, the amount is its quantity. -/
theorem amount_items {c : Cart} (h : (c.items.map CartItem.product).Nodup) (k : ProductId) :
    amount c.items k = c.quantityOf k := by
  unfold Cart.quantityOf Cart.item?
  generalize c.items = items at h
  induction items with
  | nil => rfl
  | cons it rest ih =>
    rw [List.map_cons, List.nodup_cons] at h
    have hcons : amount (it :: rest) k
        = (if k = it.product then it.quantity else 0) + amount rest k := by
      simp [amount]
    rw [hcons, ih h.2]
    by_cases hk : k = it.product
    · have hrest : rest.find? (fun it => decide (it.product = k)) = none := by
        rw [List.find?_eq_none]
        intro other hother hproduct
        refine h.1 (List.mem_map.mpr ⟨other, hother, ?_⟩)
        rw [← hk]
        simpa using hproduct
      rw [if_pos hk, hrest, List.find?_cons_of_pos (by simp [hk])]
      simp
    · rw [if_neg hk, List.find?_cons_of_neg (by simpa using fun heq => hk heq.symm), Nat.zero_add]

end

end Shopping
