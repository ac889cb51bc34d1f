import Shopping.Models.Order

/-!
# Product edits

`ProductCreateUpdateSerializer.update`.  The seller's request reads the
product, validates the new values against it and writes the whole row.
-/

namespace Shopping

namespace ProductCreateUpdateSerializer

/-- `validated_data`: the fields of the request, `sold_count` is read-only. -/
structure ProductData where
  name : Option String := none
  price : Option Int := none
  stock : Option Int := none
  isActive : Option Bool := none
  deriving DecidableEq, Repr

/-- `setattr` for each field of `validated_data`. -/
def assign (p : Product) (data : ProductData) : Product :=
  { p with
    name := data.name.getD p.name
    price := data.price.getD p.price
    stock := data.stock.getD p.stock
    isActive := data.isActive.getD p.isActive }

/-- `update`: `instance.save()` writes every column of the instance. -/
def update (products : Table Product) (k : ProductId) (p : Product) (data : ProductData) :
    Product × Table Product :=
  let p := assign p data
  (p, products.put k p)

/-- The numbers that the orders and returns move. -/
theorem assign_numbers {p : Product} {data : ProductData} (h : data.stock = none) :
    (assign p data).stock = p.stock ∧ (assign p data).soldCount = p.soldCount := by
  unfold assign
  rw [h]
  exact ⟨rfl, rfl⟩

end ProductCreateUpdateSerializer

end Shopping
