import Shopping.Carts.Merge
import Shopping.Lib.GetOrCreate
import Shopping.Orders.Processing

/-!
# The active cart of a customer

`Cart.get_or_create_active_cart` of `shopping/models/cart.py`, with its queries
apart: requests of one customer overlap, and the two unique constraints of the
table decide which of them creates the cart.  `CartOwner.claims` are these
constraints, and the calls are those of `GetOrCreate`.

`active_cart_agreed` is what the requests of a customer come back with, and
`active_cart_answered` says when one of them can raise `Cart.DoesNotExist`.
-/

namespace Shopping

open GetOrCreate (holds UniqueClaims Claimed LeavesWaiting LeavesClaimed getOrCreate)

/-- Whose cart it is: a member's, or a session's. -/
inductive CartOwner where
  | member (user : UserId)
  | session (sessionKey : String)
  deriving DecidableEq, Repr

namespace CartOwner

/-- `lookup_kwargs`, and the condition of the constraint. -/
def claims : CartOwner → Cart → Bool
  | .member user, c => decide (c.user = some user) && c.isActive
  | .session sessionKey, c => decide (c.sessionKey = some sessionKey) && c.isActive

/-- The cart that is created for the owner. -/
def newCart : CartOwner → Cart
  | .member user => { user := some user }
  | .session sessionKey => { user := none, sessionKey := some sessionKey }

/-- The owner of the cart, from an authenticated user and a session key. -/
def of (user : Option UserId) (sessionKey : Option String) : Except ShopError CartOwner :=
  match user, sessionKey with
  | some u, _ => .ok (.member u)
  | none, some key =>
    if key = "" then .error (.valueError "user 또는 session_key 중 하나는 필수입니다.")
    else .ok (.session key)
  | none, none => .error (.valueError "user 또는 session_key 중 하나는 필수입니다.")

theorem claims_newCart (x y : CartOwner) : y.claims x.newCart = true ↔ y = x := by
  cases x with
  | member u =>
    cases y with
    | member v =>
      simp only [claims, newCart, Bool.and_true, decide_eq_true_eq, Option.some.injEq,
        CartOwner.member.injEq]
      exact eq_comm
    | session key => simp [claims, newCart]
  | session key =>
    cases y with
    | member v => simp [claims, newCart]
    | session key' =>
      simp only [claims, newCart, Bool.and_true, decide_eq_true_eq, Option.some.injEq,
        CartOwner.session.injEq]
      exact eq_comm

end CartOwner

/-- `unique_active_cart_per_session`. -/
def UniqueSessionCarts (carts : Table Cart) : Prop :=
  ∀ k k' c c', carts.get? k = some c → carts.get? k' = some c' → c.isActive = true →
    c'.isActive = true → c.sessionKey.isSome = true → c.sessionKey = c'.sessionKey → k = k'

theorem holds_claims {carts : Table Cart} {x : CartOwner} {k : CartId} :
    holds CartOwner.claims carts x k = true ↔
      ∃ c, carts.get? k = some c ∧ x.claims c = true := by
  unfold holds
  rw [Option.any_eq_true]

/-- The carts that the database admits. -/
theorem uniqueClaims_iff {carts : Table Cart} : UniqueClaims CartOwner.claims carts ↔
    UniqueActiveCarts carts ∧ UniqueSessionCarts carts := by
  constructor
  · intro h
    constructor
    · intro k k' c c' hc hc' hactive hactive' hsome huser
      obtain ⟨u, hu⟩ := Option.isSome_iff_exists.mp hsome
      refine h (.member u) k k' (holds_claims.mpr ⟨c, hc, ?_⟩) (holds_claims.mpr ⟨c', hc', ?_⟩)
      · simp [CartOwner.claims, hu, hactive]
      · simp [CartOwner.claims, ← huser, hu, hactive']
    · intro k k' c c' hc hc' hactive hactive' hsome hkey
      obtain ⟨key, hk⟩ := Option.isSome_iff_exists.mp hsome
      refine h (.session key) k k' (holds_claims.mpr ⟨c, hc, ?_⟩) (holds_claims.mpr ⟨c', hc', ?_⟩)
      · simp [CartOwner.claims, hk, hactive]
      · simp [CartOwner.claims, ← hkey, hk, hactive']
  · rintro ⟨huser, hsession⟩ x k k' hk hk'
    obtain ⟨c, hc, hclaims⟩ := holds_claims.mp hk
    obtain ⟨c', hc', hclaims'⟩ := holds_claims.mp hk'
    cases x with
    | member u =>
      simp only [CartOwner.claims, Bool.and_eq_true, decide_eq_true_eq] at hclaims hclaims'
      obtain ⟨hu, hactive⟩ := hclaims
      obtain ⟨hu', hactive'⟩ := hclaims'
      exact huser k k' c c' hc hc' hactive hactive' (by rw [hu]; rfl) (hu.trans hu'.symm)
    | session key =>
      simp only [CartOwner.claims, Bool.and_eq_true, decide_eq_true_eq] at hclaims hclaims'
      obtain ⟨hkey, hactive⟩ := hclaims
      obtain ⟨hkey', hactive'⟩ := hclaims'
      exact hsession k k' c c' hc hc' hactive hactive' (by rw [hkey]; rfl)
        (hkey.trans hkey'.symm)

/-- `Cart.get_or_create_active_cart`, when nothing comes between its queries. -/
def Cart.getOrCreateActive (carts : Table Cart) (user : Option UserId)
    (sessionKey : Option String) : Except ShopError ((CartId × Bool) × Table Cart) :=
  (CartOwner.of user sessionKey).map (getOrCreate CartOwner.claims CartOwner.newCart carts)

theorem getOrCreateActiveCart_eq (db : Db) (user : UserId) (sessionKey : Option String) :
    Cart.getOrCreateActive db.carts (some user) sessionKey = .ok
      (((CartService.getOrCreateActiveCart db user).1,
        (GetOrCreate.find CartOwner.claims db.carts (.member user)).isNone),
        (CartService.getOrCreateActiveCart db user).2.carts) := by
  unfold Cart.getOrCreateActive CartService.getOrCreateActiveCart CartOwner.of getOrCreate
    GetOrCreate.find
  dsimp only [Except.map]
  unfold CartOwner.claims
  dsimp only
  cases db.carts.find? fun _ c => decide (c.user = some user) && c.isActive with
  | none => rfl
  | some q => rfl

theorem getOrCreateSessionCart_eq (db : Db) {sessionKey : String} (h : sessionKey ≠ "") :
    Cart.getOrCreateActive db.carts none (some sessionKey) = .ok
      (((CartService.getOrCreateSessionCart db sessionKey).1,
        (GetOrCreate.find CartOwner.claims db.carts (.session sessionKey)).isNone),
        (CartService.getOrCreateSessionCart db sessionKey).2.carts) := by
  unfold Cart.getOrCreateActive CartService.getOrCreateSessionCart CartOwner.of getOrCreate
    GetOrCreate.find
  dsimp only
  rw [if_neg h]
  dsimp only [Except.map]
  unfold CartOwner.claims
  dsimp only
  cases db.carts.find? fun _ c => decide (c.sessionKey = some sessionKey) && c.isActive with
  | none => rfl
  | some q => rfl

/-! ## Overlapping requests -/

/-- The carts, and the requests for the active one. -/
abbrev ActiveCartDesk := GetOrCreate.Desk Cart CartOwner

/-- A request, one query of it, or what others commit to the carts. -/
abbrev ActiveCartEvent := GetOrCreate.Event Cart CartOwner

def ActiveCartDesk.step : ActiveCartDesk → ActiveCartEvent → Option ActiveCartDesk :=
  GetOrCreate.step CartOwner.claims CartOwner.newCart

/-- A request that nothing comes between is the function. -/
theorem ActiveCartDesk.exec_alone {carts : Table Cart} {user : Option UserId}
    {sessionKey : Option String} {out : (CartId × Bool) × Table Cart}
    (h : Cart.getOrCreateActive carts user sessionKey = .ok out) :
    ∃ owner steps, exec ActiveCartDesk.step { rows := carts }
        (.call owner :: List.replicate steps (.step 0))
      = some { rows := out.2, calls := [{ key := owner, stage := .done (some out.1) }] } := by
  obtain ⟨owner, _, rfl⟩ := map_eq_ok.mp h
  obtain ⟨steps, hexec⟩ :=
    GetOrCreate.exec_alone CartOwner.claims CartOwner.newCart carts owner
  exact ⟨owner, steps, hexec⟩

section

variable {owner : CartOwner} {carts : Table Cart} {es : List ActiveCartEvent} {s : ActiveCartDesk}

/-- There is one active cart of each owner all the time, and a request raises
only when the active cart was put away while a request waited for its second
look. -/
theorem active_cart_answered (hunique : UniqueClaims CartOwner.claims carts)
    (h : Run ActiveCartDesk.step (LeavesWaiting CartOwner.claims owner) { rows := carts } es s) :
    UniqueActiveCarts s.rows ∧ UniqueSessionCarts s.rows ∧
      ∀ c ∈ s.calls, c.key = owner → c.stage ≠ .done none := by
  have hfresh : ∀ x y : CartOwner, y.claims x.newCart = true → y = x := fun x y =>
    (CartOwner.claims_newCart x y).mp
  have hsound : GetOrCreate.Sound CartOwner.claims owner s :=
    (GetOrCreate.Sound.start hunique).run hfresh h
  obtain ⟨huser, hsession⟩ := uniqueClaims_iff.mp hsound.unique
  refine ⟨huser, hsession, fun c hc hkey hstage => ?_⟩
  have hcall := hsound.calls c hc hkey
  rw [hstage] at hcall
  exact hcall rfl

/-- Two requests of the member 7 that both find no cart. -/
def overlapping : List ActiveCartEvent :=
  [.call (.member 7), .call (.member 7), .step 0, .step 1, .step 0, .step 1, .step 0, .step 1,
    .step 1, .step 1]

theorem uniqueClaims_empty : UniqueClaims CartOwner.claims Table.empty := by
  intro x k k' hk _
  obtain ⟨c, hc, _⟩ := holds_claims.mp hk
  cases hc

/-- Nobody else writes. -/
theorem overlapping_run {ok : ActiveCartDesk → ActiveCartEvent → Prop}
    (hcall : ∀ s x, ok s (.call x)) (hstep : ∀ s n, ok s (.step n)) {s : ActiveCartDesk}
    (h : exec ActiveCartDesk.step { rows := Table.empty } overlapping = some s) :
    Run ActiveCartDesk.step ok { rows := Table.empty } overlapping s := by
  refine Run.of_exec_mem (fun e he s => ?_) h
  simp only [overlapping, List.mem_cons, List.not_mem_nil, or_false] at he
  rcases he with rfl | rfl | rfl | rfl | rfl | rfl | rfl | rfl | rfl | rfl
  · exact hcall s _
  · exact hcall s _
  all_goals exact hstep s _

theorem active_cart_answered_overlapping :
    ∃ s, exec ActiveCartDesk.step { rows := Table.empty } overlapping = some s ∧
      s.calls.map GetOrCreate.Call.stage = [.done (some (1, true)), .done (some (1, false))] ∧
      UniqueActiveCarts s.rows := by
  have hexec : (exec ActiveCartDesk.step { rows := Table.empty } overlapping).any (fun s => decide
      (s.calls.map GetOrCreate.Call.stage = [.done (some (1, true)), .done (some (1, false))]))
      = true := by decide +kernel
  obtain ⟨s, hs, hstages⟩ := (Option.any_eq_true _ _).mp hexec
  have hrun : Run ActiveCartDesk.step (LeavesWaiting CartOwner.claims (.member 7))
      { rows := Table.empty } overlapping s :=
    overlapping_run (fun _ _ => trivial) (fun _ _ => trivial) hs
  exact ⟨s, hs, of_decide_eq_true hstages, (active_cart_answered uniqueClaims_empty hrun).1⟩

/-- The second request raises when the new cart is put away before its second
look. -/
example : (exec ActiveCartDesk.step { rows := Table.empty } (overlapping.take 8 ++
    [.write (Table.empty.insert { user := some 7, isActive := false }), .step 1])).any
      (fun s => decide (s.calls.map GetOrCreate.Call.stage
        = [.done (some (1, true)), .done none])) = true := by
  decide +kernel

/-- As long as nobody puts the active cart of the owner away, all requests come
back with it.  One of them at most created it, and none when it was there. -/
theorem active_cart_agreed (hunique : UniqueClaims CartOwner.claims carts)
    (h : Run ActiveCartDesk.step (LeavesClaimed CartOwner.claims owner) { rows := carts } es s) :
    (∀ c ∈ s.calls, c.key = owner → ∀ a, c.stage = .done a → ∃ k created cart,
      a = some (k, created) ∧ s.rows.get? k = some cart ∧ owner.claims cart = true) ∧
    (∀ c ∈ s.calls, ∀ c' ∈ s.calls, c.key = owner → c'.key = owner → ∀ a a',
      c.stage = .done (some a) → c'.stage = .done (some a') → a.1 = a'.1) ∧
    s.calls.countP (GetOrCreate.Call.created owner) ≤ 1 ∧
    (Claimed CartOwner.claims carts owner →
      s.calls.countP (GetOrCreate.Call.created owner) = 0) := by
  obtain ⟨hagreed, hbefore⟩ := GetOrCreate.agreed_of_run CartOwner.claims_newCart hunique h
  refine ⟨?_, ?_, ?_, ?_⟩
  · intro c hc hkey a hstage
    have hcall := hagreed.sound.calls c hc hkey
    rw [hstage] at hcall
    cases a with
    | none => exact absurd rfl hcall
    | some a =>
      have hanswer : c.stage.answer = some a := by
        rw [hstage]
        rfl
      obtain ⟨cart, hget, hclaims⟩ := holds_claims.mp (hagreed.answers c hc hkey a hanswer)
      exact ⟨a.1, a.2, cart, rfl, hget, hclaims⟩
  · intro c hc c' hc' hkey hkey' a a' hstage hstage'
    refine hagreed.same hc hc' hkey hkey' ?_ ?_
    · rw [hstage]
      rfl
    · rw [hstage']
      rfl
  · have hle := hagreed.created_le
    omega
  · intro hclaimed
    have hle := (hbefore hclaimed).created_le
    omega

/-- One of the two requests created the cart. -/
theorem active_cart_agreed_overlapping :
    ∃ s, exec ActiveCartDesk.step { rows := Table.empty } overlapping = some s ∧
      s.calls.countP (GetOrCreate.Call.created (.member 7)) ≤ 1 ∧
      ∀ c ∈ s.calls, c.key = .member 7 → ∀ a, c.stage = .done a → ∃ k created cart,
        a = some (k, created) ∧ s.rows.get? k = some cart ∧
          (CartOwner.member 7).claims cart = true := by
  obtain ⟨s, hs⟩ : ∃ s, exec ActiveCartDesk.step { rows := Table.empty } overlapping = some s :=
    Option.isSome_iff_exists.mp (by decide +kernel)
  have hrun : Run ActiveCartDesk.step (LeavesClaimed CartOwner.claims (.member 7))
      { rows := Table.empty } overlapping s :=
    overlapping_run (fun _ _ => trivial) (fun _ _ => trivial) hs
  obtain ⟨hanswers, _, hcreated, _⟩ := active_cart_agreed uniqueClaims_empty hrun
  exact ⟨s, hs, hcreated, hanswers⟩

end

end Shopping
