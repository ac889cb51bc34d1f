import Shopping.Carts.Service

/-!
# `WishlistService.move_to_cart`

The one function of `shopping/services/wishlist_service.py` that puts items
into a cart.  The products of a wishlist are those of the user, in the order
in which the query answers them.  A new item gets a quantity and no price.
-/

namespace Shopping

/-- `WishlistServiceError`. -/
inductive WishlistServiceError where
  | emptyProductIds
  | productsNotInWishlist (requestedIds userWishlistIds : List ProductId)
  deriving DecidableEq, Repr

namespace WishlistServiceError

def message : WishlistServiceError → String
  | emptyProductIds => "상품을 선택해주세요."
  | productsNotInWishlist _ _ => "찜 목록에 해당 상품이 없습니다."

/-- `code`. -/
def code : WishlistServiceError → String
  | emptyProductIds => "EMPTY_PRODUCT_IDS"
  | productsNotInWishlist _ _ => "PRODUCTS_NOT_IN_WISHLIST"

end WishlistServiceError

/-- `MoveToCartResult`: the names of the products. -/
structure MoveToCartResult where
  addedItems : List String := []
  alreadyInCart : List String := []
  outOfStock : List String := []
  message : String := ""
  deriving DecidableEq, Repr

namespace WishlistService

/-- `_build_move_to_cart_message`. -/
def buildMoveToCartMessage (r : MoveToCartResult) : String :=
  let count (names : List String) (text : String) : List String :=
    if names = [] then [] else [toString names.length ++ text]
  let parts := count r.addedItems "개 상품이 장바구니에 추가되었습니다."
    ++ count r.alreadyInCart "개 상품은 이미 장바구니에 있습니다."
    ++ count r.outOfStock "개 상품은 품절입니다."
  if parts = [] then "처리할 상품이 없습니다." else String.intercalate " " parts

/-- `user.wishlist_products.filter(id__in=product_ids)`. -/
def wishedProducts (db : Db) (wishlist productIds : List ProductId) : List (ProductId × Product) :=
  wishlist.filterMap fun k =>
    if k ∈ productIds then (db.products.get? k).map fun product => (k, product) else none

/-- `CartItem.objects.get_or_create(cart=cart, product=product, ...)`: whether
it created the item. -/
def getOrCreateItem (db : Db) (cartId : CartId) (k : ProductId) : Bool × Db :=
  match (db.carts.get? cartId).bind fun c => c.item? k with
  | some _ => (false, db)
  | none => (true, CartService.saveCart db cartId (Cart.createItem { product := k, quantity := 1 }))

/-- The loop of `move_to_cart`. -/
def moveLoop (cartId : CartId) (db : Db) : List (ProductId × Product) → MoveToCartResult × Db
  | [] => ({}, db)
  | (k, product) :: rest =>
    if product.stock ≤ 0 then
      let (r, db) := moveLoop cartId db rest
      ({ r with outOfStock := product.name :: r.outOfStock }, db)
    else
      let (created, db) := getOrCreateItem db cartId k
      let (r, db) := moveLoop cartId db rest
      if created then ({ r with addedItems := product.name :: r.addedItems }, db)
      else ({ r with alreadyInCart := product.name :: r.alreadyInCart }, db)

/-- `user.wishlist_products.remove(*Product.objects.filter(name__in=names))`. -/
def removeByName (db : Db) (wishlist : List ProductId) (names : List String) : List ProductId :=
  wishlist.filter fun k => !(db.products.get? k).any fun product => decide (product.name ∈ names)

/-- `move_to_cart`: the result, the wishlist after it, and the carts. -/
def moveToCart (db : Db) (wishlist : List ProductId) (user : UserId) (productIds : List ProductId)
    (removeFromWishlist : Bool := false) :
    Except WishlistServiceError (MoveToCartResult × List ProductId × Db) :=
  if productIds = [] then .error .emptyProductIds
  else
    let products := wishedProducts db wishlist productIds
    if products = [] then .error (.productsNotInWishlist productIds wishlist)
    else
      let (cartId, db) := CartService.getOrCreateActiveCart db user
      let (r, db) := moveLoop cartId db products
      let wishlist :=
        if removeFromWishlist ∧ r.addedItems ≠ [] then removeByName db wishlist r.addedItems
        else wishlist
      .ok ({ r with message := buildMoveToCartMessage r }, wishlist, db)

end WishlistService

end Shopping
