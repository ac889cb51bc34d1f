import Shopping.Returns.Outcomes

/-!
# What an exchange takes and gives back

`complete_exchange` takes one unit of the exchange product, whatever the
quantities of the return items are, and gives each item's whole quantity back
to the product that it came from.  `restockExchanged_spec` is the loop over the
items, `unitsTaken_eq` what the call took.

The units taken are the units returned exactly when one unit was returned, or
none where there is no exchange product (`exchange_balances_iff`).
-/

namespace Shopping

open ReturnService

/-- The stock of a product, 0 when it is gone. -/
def stockAt (products : Table Product) (k : ProductId) : Int :=
  (products.get? k).elim 0 Product.stock

/-- How many units come back. -/
def returnedUnits (items : List ReturnItem) : Int :=
  (items.map fun it => (it.quantity : Int)).sum

/-- How many of them are of the product. -/
def returnedOf (k : ProductId) (items : List ReturnItem) : Int :=
  (items.map fun it => if it.product = some k then (it.quantity : Int) else 0).sum

/-- How many units left the stock of the exchange product: what it had and got
back, less what it has. -/
def unitsTaken (before after : Table Product) (r : Return) : Int :=
  r.exchangeProduct.elim 0 fun k =>
    stockAt before k + returnedOf k r.items - stockAt after k

/-- What `complete_exchange` asks for. -/
def exchangeable (products : Table Product) (r : Return) : Bool :=
  decide (r.type = .exchange) && decide (r.status = .received) &&
    (r.exchangeProduct.all fun k => (products.get? k).any fun p => decide (1 ≤ p.stock)) &&
    r.items.all fun it => it.product.all fun k => (products.get? k).isSome

/-- The exchange takes as many units as came back; a product exchanged for
itself keeps its stock; and a product with fewer units than came back is not
handed out. -/
structure ExchangeBalanced (db : Db) (now : Time) (id : Nat) (r : Return) : Prop where
  taken : ∀ db', completeExchange db now id = .ok db' →
    unitsTaken db.products db'.products r = returnedUnits r.items
  same_product : ∀ db' k, completeExchange db now id = .ok db' → r.exchangeProduct = some k →
    (∀ it ∈ r.items, it.product = some k) → stockAt db'.products k = stockAt db.products k
  covered : ∀ k p, r.exchangeProduct = some k → db.products.get? k = some p →
    p.stock < returnedUnits r.items → ∀ db', completeExchange db now id ≠ .ok db'

/-! ## The two loops -/

section

variable {products products' : Table Product} {items : List ReturnItem} {k : ProductId}

theorem isSome_modify (f : Product → Product) (j : ProductId) :
    ((products.modify j f).get? k).isSome = (products.get? k).isSome := by
  rw [Table.get?_modify]
  split
  · exact Option.isSome_map
  · rfl

theorem stockAt_addStock {n : Int} {j : ProductId} (hj : (products.get? j).isSome = true) :
    stockAt (products.modify j (addStock n)) k = stockAt products k + if k = j then n else 0 := by
  unfold stockAt
  rw [Table.get?_modify]
  by_cases hk : k = j
  · obtain ⟨p, hp⟩ := Option.isSome_iff_exists.mp hj
    rw [if_pos hk, if_pos hk, hk, hp]
    rfl
  · rw [if_neg hk, if_neg hk, add_zero]

theorem returnedOf_cons (it : ReturnItem) (items : List ReturnItem) :
    returnedOf k (it :: items)
      = (if it.product = some k then (it.quantity : Int) else 0) + returnedOf k items := rfl

/-- The loop goes through when the products are there, and each gets back what
the items have of it. -/
theorem restockExchanged_spec (items : List ReturnItem) (products : Table Product) :
    ((∃ products', restockExchanged products items = .ok products') ↔
      (items.all fun it => it.product.all fun k => (products.get? k).isSome) = true) ∧
    ∀ products', restockExchanged products items = .ok products' → ∀ k,
      stockAt products' k = stockAt products k + returnedOf k items := by
  induction items generalizing products with
  | nil =>
    refine ⟨⟨fun _ => rfl, fun _ => ⟨products, rfl⟩⟩, fun products' h k => ?_⟩
    cases h
    exact (add_zero _).symm
  | cons it rest ih =>
    rw [List.all_cons]
    unfold restockExchanged
    cases hit : it.product with
    | none =>
      rw [Option.all_none, Bool.true_and]
      refine ⟨(ih products).1, fun products' h k => ?_⟩
      rw [(ih products).2 products' h k, returnedOf_cons, hit, if_neg nofun, zero_add]
    | some j =>
      rw [Option.all_some]
      dsimp only
      cases hj : products.get? j with
      | none =>
        refine ⟨⟨nofun, nofun⟩, nofun⟩
      | some p =>
        have hsome : (products.get? j).isSome = true := by rw [hj]; rfl
        dsimp only
        rw [Option.isSome_some, Bool.true_and]
        constructor
        · rw [(ih (products.modify j (addStock it.quantity))).1]
          simp only [isSome_modify]
        · intro products' h k
          rw [(ih _).2 products' h k, stockAt_addStock hsome, returnedOf_cons, hit]
          by_cases hk : k = j
          · subst hk
            rw [if_pos rfl, if_pos rfl, add_assoc]
          · rw [if_neg hk, if_neg fun h => hk (Option.some.inj h).symm, add_zero, zero_add]

/-- One unit of the exchange product, if there is one. -/
theorem takeExchangeProduct_spec (exchangeProduct : Option ProductId) :
    ((∃ taken, takeExchangeProduct products exchangeProduct = .ok taken) ↔
      (exchangeProduct.all fun k => (products.get? k).any fun p => decide (1 ≤ p.stock)) = true) ∧
    ∀ taken, takeExchangeProduct products exchangeProduct = .ok taken → ∀ k,
      ((taken.get? k).isSome = (products.get? k).isSome) ∧
      stockAt taken k = stockAt products k - if exchangeProduct = some k then 1 else 0 := by
  unfold takeExchangeProduct
  cases exchangeProduct with
  | none =>
    refine ⟨⟨fun _ => rfl, fun _ => ⟨products, rfl⟩⟩, fun taken h k => ?_⟩
    cases h
    exact ⟨rfl, (sub_zero _).symm⟩
  | some j =>
    dsimp only
    rw [Option.all_some]
    cases hj : products.get? j with
    | none => exact ⟨⟨nofun, nofun⟩, nofun⟩
    | some p =>
      have hsome : (products.get? j).isSome = true := by rw [hj]; rfl
      dsimp only
      rw [Option.any_some]
      by_cases hstock : p.stock < 1
      · rw [if_pos hstock]
        simp [hstock]
      · rw [if_neg hstock]
        refine ⟨⟨fun _ => decide_eq_true (not_lt.mp hstock), fun _ => ⟨_, rfl⟩⟩, ?_⟩
        intro taken h k
        cases h
        refine ⟨isSome_modify _ _, ?_⟩
        rw [stockAt_addStock hsome]
        by_cases hk : k = j
        · rw [if_pos hk, if_pos (congrArg some hk.symm)]
          rfl
        · rw [if_neg hk, if_neg fun h => hk (Option.some.inj h).symm, add_zero, sub_zero]

end

/-! ## The call -/

section

variable {db db' : Db} {now : Time} {id : Nat} {r : Return}

theorem completeExchange_steps (hget : db.returns.get? id = some r) :
    completeExchange db now id = .ok db' ↔
      r.type = .exchange ∧ r.status = .received ∧
      ∃ taken, takeExchangeProduct db.products r.exchangeProduct = .ok taken ∧
      ∃ restocked, restockExchanged taken r.items = .ok restocked ∧
        { db with
          products := restocked, returns := db.returns.modify id (markCompleted now) } = db' := by
  unfold completeExchange
  rw [hget]
  dsimp only
  by_cases htype : r.type = .exchange
  · rw [if_neg (not_not.mpr htype)]
    by_cases hstatus : r.status = .received
    · rw [if_neg (not_not.mpr hstatus)]
      simp only [bind_eq_ok, Except.ok.injEq, htype, hstatus, true_and]
    · rw [if_pos hstatus]
      exact ⟨nofun, fun h => absurd h.2.1 hstatus⟩
  · rw [if_pos htype]
    exact ⟨nofun, fun h => absurd h.1 htype⟩

/-- The call completes an exchange that has what it asks for. -/
theorem completeExchange_returns (hget : db.returns.get? id = some r) (now : Time) :
    (∃ db', completeExchange db now id = .ok db') ↔ exchangeable db.products r = true := by
  simp only [completeExchange_steps hget]
  unfold exchangeable
  rw [Bool.and_eq_true, Bool.and_eq_true, Bool.and_eq_true, decide_eq_true_eq, decide_eq_true_eq]
  obtain ⟨htakes, htaken⟩ := @takeExchangeProduct_spec db.products r.exchangeProduct
  constructor
  · rintro ⟨_, htype, hstatus, taken, htake, restocked, hrestock, _⟩
    refine ⟨⟨⟨htype, hstatus⟩, htakes.mp ⟨taken, htake⟩⟩, ?_⟩
    have hthere := (restockExchanged_spec r.items taken).1.mp ⟨restocked, hrestock⟩
    simpa only [(htaken taken htake _).1] using hthere
  · rintro ⟨⟨⟨htype, hstatus⟩, htake⟩, hthere⟩
    obtain ⟨taken, htake⟩ := htakes.mpr htake
    simp only [← (htaken taken htake _).1] at hthere
    obtain ⟨restocked, hrestock⟩ := (restockExchanged_spec r.items taken).1.mpr hthere
    exact ⟨_, htype, hstatus, taken, htake, restocked, hrestock, rfl⟩

/-- The call takes one unit of the exchange product. -/
theorem unitsTaken_eq (hget : db.returns.get? id = some r)
    (h : completeExchange db now id = .ok db') :
    unitsTaken db.products db'.products r = if r.exchangeProduct.isSome = true then 1 else 0 := by
  obtain ⟨_, _, taken, htake, restocked, hrestock, rfl⟩ := (completeExchange_steps hget).mp h
  unfold unitsTaken
  cases hk : r.exchangeProduct with
  | none => rfl
  | some k =>
    rw [Option.elim_some, (restockExchanged_spec r.items taken).2 restocked hrestock,
      ((takeExchangeProduct_spec r.exchangeProduct).2 taken htake k).2, hk, if_pos rfl,
      Option.isSome_some, if_pos rfl]
    omega

/-- Everything that came back is of the one product. -/
theorem returnedOf_eq_units {items : List ReturnItem} {k : ProductId}
    (h : ∀ it ∈ items, it.product = some k) : returnedOf k items = returnedUnits items := by
  unfold returnedOf returnedUnits
  refine congrArg List.sum (List.map_congr_left fun it hit => ?_)
  rw [if_pos (h it hit)]

end

/-- An exchange balances the goods exactly when it is refused, or one unit came
back for the exchange product, or none came back without one. -/
theorem exchange_balances_iff {db : Db} {id : Nat} {r : Return}
    (hget : db.returns.get? id = some r) (now : Time) :
    ExchangeBalanced db now id r ↔
      (exchangeable db.products r = true →
        returnedUnits r.items = if r.exchangeProduct.isSome = true then 1 else 0) := by
  constructor
  · intro h hready
    obtain ⟨db', hdone⟩ := (completeExchange_returns hget now).mpr hready
    rw [← h.taken db' hdone, unitsTaken_eq hget hdone]
  · intro hunits
    have htaken : ∀ db', completeExchange db now id = .ok db' →
        unitsTaken db.products db'.products r = returnedUnits r.items := by
      intro db' hdone
      rw [unitsTaken_eq hget hdone, hunits ((completeExchange_returns hget now).mp ⟨db', hdone⟩)]
    refine ⟨htaken, fun db' k hdone hk hsame => ?_, fun k p hk hp hshort db' hdone => ?_⟩
    · have hbalance := htaken db' hdone
      unfold unitsTaken at hbalance
      rw [hk, Option.elim_some, returnedOf_eq_units hsame] at hbalance
      omega
    · have hready := (completeExchange_returns hget now).mp ⟨db', hdone⟩
      have hone := hunits hready
      rw [hk, Option.isSome_some, if_pos rfl] at hone
      have hstock : 1 ≤ p.stock := by
        unfold exchangeable at hready
        simp only [hk, hp, Option.all_some, Option.any_some, Bool.and_eq_true,
          decide_eq_true_eq] at hready
        exact hready.1.2
      omega

/-- Two books come back for two of the same book. -/
def twoBooksBack : Db where
  ledger := Ledger.empty
  membership := fun _ => .bronze
  products := Table.empty.insert { name := "책", price := 10000, stock := 1 }
  carts := Table.empty
  orders := Table.empty
  payments := PaymentTable.empty
  logs := []
  returns := Table.empty.insert
    { order := 1, user := 7, returnNumber := "RET20250115001", type := .exchange
      status := .received, refundAmount := 0
      items := [{ product := some 1, quantity := 2, productPrice := 10000 }]
      exchangeProduct := some 1 }
  idempotencyKeys := []
  webhookMarks := []

/-- One of the two books that come back, with the other still out. -/
def oneBookBack : Db :=
  { twoBooksBack with
    returns := twoBooksBack.returns.modify 1 fun r =>
      { r with items := [{ product := some 1, quantity := 1, productPrice := 10000 }] } }

theorem exchange_balances_one :
    ∃ r, oneBookBack.returns.get? 1 = some r ∧ ExchangeBalanced oneBookBack 5 1 r :=
  ⟨_, rfl, (exchange_balances_iff (rfl : oneBookBack.returns.get? 1 = some _) 5).mpr
    fun _ => by decide +kernel⟩

/-- One book is on the shelf, and the exchange of two for two goes through: one
is taken, two come back, and the shelf has two. -/
theorem exchange_takes_one_for_two :
    ∃ r db', twoBooksBack.returns.get? 1 = some r ∧
      completeExchange twoBooksBack 5 1 = .ok db' ∧ r.exchangeProduct = some 1 ∧
      returnedUnits r.items = 2 ∧ unitsTaken twoBooksBack.products db'.products r = 1 ∧
      stockAt twoBooksBack.products 1 = 1 ∧ stockAt db'.products 1 = 2 := by
  refine ⟨_, _, rfl, rfl, rfl, ?_⟩
  decide +kernel

end Shopping
