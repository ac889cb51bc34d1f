import Shopping.Carts.Merge
import Shopping.Lib.Run

/-!
# A login merges the session's cart once

Any number of `CartService.merge_anonymous_cart` calls for one user and one
session.  A call looks for the session's cart and for its items before it waits
for the lock of the member's cart; from there to the end it runs alone.  So it
has three steps here, and the steps of the calls come in any order.

A merge adds what the session's cart has then (`Merging.absorb`).  The first
one adds all of it and leaves the rows that it added up.  A second one that
has looked before the end of the first adds these rows again
(`login_merge_twice`).  `mergesOpen` says that a merge which gets the lock finds
the session's cart open, or empty; `login_merge_once` says that the quantities
are right exactly in the runs of such steps.
-/

namespace Shopping

open CartService

/-- The constraints of the cart tables, and what `get_or_create_active_cart`
keeps: a cart of a session has a key and no member. -/
structure CartConstraints (db : Db) : Prop where
  items : ∀ c cart, db.carts.get? c = some cart → (cart.items.map CartItem.product).Nodup
  member : ∀ c c' cart cart' user, db.carts.get? c = some cart → db.carts.get? c' = some cart' →
    cart.user = some user → cart'.user = some user → cart.isActive = true →
    cart'.isActive = true → c = c'
  session : ∀ c c' cart cart' key, db.carts.get? c = some cart → db.carts.get? c' = some cart' →
    cart.sessionKey = some key → cart'.sessionKey = some key → cart.isActive = true →
    cart'.isActive = true → c = c'
  anonymous : ∀ c cart key, db.carts.get? c = some cart → cart.sessionKey = some key →
    cart.user = none ∧ key ≠ ""

/-- How many of the product are in the member's cart. -/
def memberQuantity (db : Db) (user : UserId) (k : ProductId) : Nat :=
  match db.carts.find? fun _ c => decide (c.user = some user) && c.isActive with
  | none => 0
  | some (_, cart) => cart.quantityOf k

/-- How many of the product are in the session's cart. -/
def anonymousQuantity (db : Db) (sessionKey : String) (k : ProductId) : Nat :=
  match anonymousCart? db sessionKey with
  | none => 0
  | some (_, cart) => cart.quantityOf k

/-- How far a call of `merge_anonymous_cart` is. -/
inductive MergeStage where
  | called
  | found (anonymous : CartId)
  | filled (anonymous : CartId)
  | returned (merged : Nat)
  deriving DecidableEq, Repr

/-- The carts and the calls. -/
structure LoginMerge where
  db : Db
  calls : Nat → MergeStage := fun _ => .called

/-- The call goes on. -/
def LoginMerge.goOn (s : LoginMerge) (i : Nat) (stage : MergeStage) (db : Db) : LoginMerge :=
  { db := db, calls := Function.update s.calls i stage }

/-- The next step of the call `i`. -/
def LoginMerge.step (user : UserId) (sessionKey : String) (s : LoginMerge) (i : Nat) :
    Option LoginMerge :=
  match s.calls i with
  | .called =>
    match lookUp s.db sessionKey with
    | none => some (s.goOn i (.returned 0) s.db)
    | some a => some (s.goOn i (.found a) s.db)
  | .found a =>
    if itemsOf s.db a = [] then some (s.goOn i (.returned 0) s.db)
    else some (s.goOn i (.filled a) s.db)
  | .filled a => some (s.goOn i (.returned (absorb s.db user a).1) (absorb s.db user a).2)
  | .returned _ => none

/-- A merge that gets the lock finds the session's cart open, or no quantity in
it. -/
def mergesOpen (s : LoginMerge) (i : Nat) : Prop :=
  ∀ a cart, s.calls i = .filled a → s.db.carts.get? a = some cart →
    cart.isActive = true ∨ ∀ k, cart.quantityOf k = 0

/-! ## One merge -/

/-- `a` is the session's cart, and the only one; the member has one cart. -/
structure Merging (user : UserId) (sessionKey : String) (a : CartId) (db : Db) (anon : Cart) :
    Prop where
  found : db.carts.get? a = some anon
  anonymous : anon.user = none
  key : anon.sessionKey = some sessionKey
  distinct : (anon.items.map CartItem.product).Nodup
  session : ∀ c cart, db.carts.get? c = some cart → cart.sessionKey = some sessionKey →
    cart.isActive = true → c = a
  member : ∀ c c' cart cart', db.carts.get? c = some cart → db.carts.get? c' = some cart' →
    cart.user = some user → cart'.user = some user → cart.isActive = true →
    cart'.isActive = true → c = c'

section

variable {user : UserId} {sessionKey : String} {a u : CartId} {db db' : Db} {anon m : Cart}
  {q : ProductId → Nat}

theorem memberQuantity_eq
    (hmember : ∀ c c' cart cart', db.carts.get? c = some cart → db.carts.get? c' = some cart' →
      cart.user = some user → cart'.user = some user → cart.isActive = true →
      cart'.isActive = true → c = c')
    (hm : db.carts.get? u = some m) (huser : m.user = some user) (hactive : m.isActive = true)
    (k : ProductId) : memberQuantity db user k = m.quantityOf k := by
  have hfind : db.carts.find? (fun _ c => decide (c.user = some user) && c.isActive)
      = some (u, m) := by
    refine Table.find?_of_unique hm (by simp [huser, hactive]) fun c cart hget hp => ?_
    simp only [Bool.and_eq_true, decide_eq_true_eq] at hp
    exact hmember c u cart m hget hm hp.1 huser hp.2 hactive
  unfold memberQuantity
  rw [hfind]

/-- The session's cart is found as long as it is open. -/
theorem Merging.lookUp (h : Merging user sessionKey a db anon) :
    anonymousCart? db sessionKey = if anon.isActive then some (a, anon) else none := by
  unfold anonymousCart?
  by_cases hactive : anon.isActive = true
  · rw [if_pos hactive]
    refine Table.find?_of_unique h.found (by simp [h.key, hactive]) fun c cart hget hp => ?_
    simp only [Bool.and_eq_true, decide_eq_true_eq] at hp
    exact h.session c cart hget hp.1 hp.2
  · rw [if_neg hactive, Table.find?_eq_none]
    intro c cart hget
    by_contra hp
    simp only [Bool.not_eq_false, Bool.and_eq_true, decide_eq_true_eq] at hp
    have hc : c = a := h.session c cart hget hp.1 hp.2
    subst hc
    rw [h.found] at hget
    cases hget
    exact hactive hp.2

/-- The member's cart, made when there is none. -/
theorem Merging.getOrCreate (h : Merging user sessionKey a db anon) :
    Merging user sessionKey a (getOrCreateActiveCart db user).2 anon ∧
    ∃ m, (getOrCreateActiveCart db user).2.carts.get? (getOrCreateActiveCart db user).1 = some m ∧
      m.user = some user ∧ m.isActive = true ∧
      ∀ k, m.quantityOf k = memberQuantity db user k := by
  unfold getOrCreateActiveCart memberQuantity
  cases hfind : db.carts.find? fun _ c => decide (c.user = some user) && c.isActive with
  | some found =>
    obtain ⟨u, m⟩ := found
    obtain ⟨hget, hp⟩ := Table.find?_eq_some_get hfind
    simp only [Bool.and_eq_true, decide_eq_true_eq] at hp
    exact ⟨h, m, hget, hp.1, hp.2, fun k => rfl⟩
  | none =>
    have hnone := Table.find?_eq_none.mp hfind
    have hother : ∀ c cart, db.carts.get? c = some cart → cart.user = some user →
        cart.isActive = true → False := by
      intro c cart hget huser hactive
      have hp := hnone c cart hget
      simp [huser, hactive] at hp
    refine ⟨⟨Table.get?_insert_of_some h.found _, h.anonymous, h.key, h.distinct, ?_, ?_⟩,
      { user := some user }, Table.get?_insert_next _ _, rfl, rfl, fun k => rfl⟩
    · intro c cart hget hkey hactive
      rcases Table.insert_cases hget with ⟨_, rfl⟩ | hget
      · cases hkey
      · exact h.session c cart hget hkey hactive
    · intro c c' cart cart' hget hget' huser huser' hactive hactive'
      rcases Table.insert_cases hget with ⟨hc, _⟩ | hget
      · rcases Table.insert_cases hget' with ⟨hc', _⟩ | hget'
        · rw [hc, hc']
        · exact absurd (hother c' cart' hget' huser' hactive') id
      · exact absurd (hother c cart hget huser hactive) id

/-- What is added to the member's cart keeps the constraints. -/
theorem Merging.added (h : Merging user sessionKey a db anon) (hadd : Added u a db db' q) :
    ∃ anon', Merging user sessionKey a db' anon' ∧ anon'.isActive = anon.isActive ∧
      anon'.items.Sublist anon.items := by
  obtain ⟨anon', hget, hhead, hitems⟩ := hadd.anonymous anon h.found
  refine ⟨anon', ⟨hget, hhead.1.trans h.anonymous, hhead.2.2.trans h.key,
    h.distinct.sublist (hitems.map _), fun c cart' hcart' hkey hactive => ?_,
    fun c c' cart cart' hcart hcart' huser huser' hactive hactive' => ?_⟩, hhead.2.1, hitems⟩
  · obtain ⟨cart, hcart, hsame⟩ := hadd.back c cart' hcart'
    exact h.session c cart hcart (hsame.2.2.symm.trans hkey) (hsame.2.1.symm.trans hactive)
  · obtain ⟨before, hbefore, hsame⟩ := hadd.back c cart hcart
    obtain ⟨before', hbefore', hsame'⟩ := hadd.back c' cart' hcart'
    exact h.member c c' before before' hbefore hbefore' (hsame.1.symm.trans huser)
      (hsame'.1.symm.trans huser') (hsame.2.1.symm.trans hactive) (hsame'.2.1.symm.trans hactive')

/-- The session's cart is closed. -/
theorem Merging.close (h : Merging user sessionKey a db anon) :
    Merging user sessionKey a (saveCart db a fun c => { c with isActive := false })
      { anon with isActive := false } := by
  have hback : ∀ c cart', (db.carts.modify a fun c => { c with isActive := false }).get? c
      = some cart' → ∃ cart, db.carts.get? c = some cart ∧ cart'.user = cart.user ∧
        cart'.sessionKey = cart.sessionKey ∧ (cart'.isActive = true → cart.isActive = true) := by
    intro c cart' hget
    rcases Table.modify_cases hget with ⟨cart, _, hcart, rfl⟩ | ⟨_, hget⟩
    · exact ⟨cart, hcart, rfl, rfl, nofun⟩
    · exact ⟨cart', hget, rfl, rfl, id⟩
  refine ⟨?_, h.anonymous, h.key, h.distinct, fun c cart' hget hkey hactive => ?_,
    fun c c' cart cart' hget hget' huser huser' hactive hactive' => ?_⟩
  · show (db.carts.modify a _).get? a = _
    rw [Table.get?_modify_self, h.found]
    rfl
  · obtain ⟨cart, hcart, _, hkey', hactive'⟩ := hback c cart' hget
    exact h.session c cart hcart (hkey'.symm.trans hkey) (hactive' hactive)
  · obtain ⟨before, hbefore, hu, _, ha⟩ := hback c cart hget
    obtain ⟨before', hbefore', hu', _, ha'⟩ := hback c' cart' hget'
    exact h.member c c' before before' hbefore hbefore' (hu.symm.trans huser)
      (hu'.symm.trans huser') (ha hactive) (ha' hactive')

/-- A cart of the member is another one than the session's. -/
theorem Merging.ne (h : Merging user sessionKey a db anon) {m : Cart}
    (hm : db.carts.get? u = some m) (huser : m.user = some user) : u ≠ a := by
  intro heq
  rw [heq, h.found, Option.some.injEq] at hm
  rw [← hm, h.anonymous] at huser
  cases huser

theorem Merging.itemsOf (h : Merging user sessionKey a db anon) :
    CartService.itemsOf db a = anon.items := by
  unfold CartService.itemsOf
  rw [h.found]
  rfl

/-- A merge adds what the session's cart has, closes the cart and leaves some
of its items. -/
theorem Merging.absorb (h : Merging user sessionKey a db anon) :
    ∃ anon', Merging user sessionKey a (absorb db user a).2 anon' ∧ anon'.isActive = false ∧
      anon'.items.Sublist anon.items ∧
      ∀ k, memberQuantity (absorb db user a).2 user k
        = memberQuantity db user k + anon.quantityOf k := by
  obtain ⟨hmade, m, hm, huser, hactive, hbefore⟩ := h.getOrCreate
  have hne := hmade.ne hm huser
  have hitems := hmade.itemsOf
  have hadd := Added.foldl (added_mergeItem hne) anon.items (getOrCreateActiveCart db user).2
  obtain ⟨anon', hadded, _, hsub⟩ := hmade.added hadd
  obtain ⟨m', hm', hhead, hq⟩ := hadd.member m hm
  refine ⟨{ anon' with isActive := false }, ?_, rfl, hsub, fun k => ?_⟩
  · unfold CartService.absorb
    dsimp only
    rw [hitems]
    exact hadded.close
  · have hclosed := hadded.close
    have hm'' : (saveCart (anon.items.foldl (mergeItem a (getOrCreateActiveCart db user).1)
        (getOrCreateActiveCart db user).2) a fun c => { c with isActive := false }).carts.get?
          (getOrCreateActiveCart db user).1 = some m' := by
      show (Table.modify _ a _).get? _ = _
      rw [Table.get?_modify, if_neg hne]
      exact hm'
    have hquantity := memberQuantity_eq hclosed.member hm'' (hhead.1.trans huser)
      (hhead.2.1.trans hactive) k
    unfold CartService.absorb
    dsimp only
    rw [hitems, hquantity, hq k, hbefore k, amount_items h.distinct]

/-- A merge of the model adds the same. -/
theorem Merging.model (h : Merging user sessionKey a db anon) (k : ProductId) :
    memberQuantity (Cart.mergeAnonymousCart db user sessionKey).2 user k
      = memberQuantity db user k + anonymousQuantity db sessionKey k := by
  obtain ⟨hmade, m, hm, huser, hactive, hbefore⟩ := h.getOrCreate
  have hfind := anonymousCart?_getOrCreateActiveCart db user sessionKey
  unfold Cart.mergeAnonymousCart anonymousQuantity
  dsimp only
  rw [hfind, h.lookUp]
  by_cases hopen : anon.isActive = true
  · rw [if_pos hopen]
    dsimp only
    have hne := hmade.ne hm huser
    have hitems := hmade.itemsOf
    rw [hitems]
    have hadd := Added.foldl (added_modelItem hne) anon.items (getOrCreateActiveCart db user).2
    obtain ⟨anon', hadded, _, _⟩ := hmade.added hadd
    obtain ⟨m', hm', hhead, hq⟩ := hadd.member m hm
    have hquantity : memberQuantity { (anon.items.foldl
        (Cart.mergeItem (getOrCreateActiveCart db user).1) (getOrCreateActiveCart db user).2) with
          carts := (anon.items.foldl (Cart.mergeItem (getOrCreateActiveCart db user).1)
            (getOrCreateActiveCart db user).2).carts.delete fun k _ => decide (k = a) } user k
        = m'.quantityOf k := by
      refine memberQuantity_eq (u := (getOrCreateActiveCart db user).1) ?_ ?_
        (hhead.1.trans huser) (hhead.2.1.trans hactive) k
      · intro c c' cart cart' hget hget'
        simp only [Table.get?_delete, Option.filter_eq_some_iff] at hget hget'
        exact hadded.member c c' cart cart' hget.1 hget'.1
      · simp only [Table.get?_delete, Option.filter_eq_some_iff]
        exact ⟨hm', by simpa using hne⟩
    rw [hquantity, hq k, hbefore k, amount_items h.distinct]
  · rw [if_neg hopen]
    dsimp only
    rw [memberQuantity_eq hmade.member hm huser hactive k, hbefore k, Nat.add_zero]

end

/-! ## Any number of merges -/

section

variable {user : UserId} {sessionKey : String} {a : CartId} {q : ProductId → Nat}

/-- The calls are about the cart `a`, and none has returned while it is open
and has items; `extra` is what has been added twice. -/
structure MergeInv (user : UserId) (sessionKey : String) (a : CartId) (q extra : ProductId → Nat)
    (s : LoginMerge) (anon : Cart) : Prop where
  merging : Merging user sessionKey a s.db anon
  found : ∀ i b, s.calls i = .found b → b = a
  filled : ∀ i b, s.calls i = .filled b → b = a
  returned : ∀ i n, s.calls i = .returned n → anon.isActive = false ∨ anon.items = []
  total : ∀ k, memberQuantity s.db user k + (if anon.isActive then anon.quantityOf k else 0)
    = q k + extra k

variable {extra : ProductId → Nat} {s t : LoginMerge} {anon : Cart} {i : Nat}

/-- A call that goes on without a write. -/
theorem MergeInv.goOn (h : MergeInv user sessionKey a q extra s anon) {stage : MergeStage}
    (hfound : ∀ b, stage = .found b → b = a) (hfilled : ∀ b, stage = .filled b → b = a)
    (hreturned : ∀ n, stage = .returned n → anon.isActive = false ∨ anon.items = []) :
    MergeInv user sessionKey a q extra (s.goOn i stage s.db) anon := by
  have hcalls : ∀ j stage', (s.goOn i stage s.db).calls j = stage' →
      stage' = stage ∨ s.calls j = stage' := by
    intro j stage' hj
    simp only [LoginMerge.goOn, Function.update_apply] at hj
    split at hj
    · exact Or.inl hj.symm
    · exact Or.inr hj
  refine ⟨h.merging, fun j b hj => ?_, fun j b hj => ?_, fun j n hj => ?_, h.total⟩
  · rcases hcalls j _ hj with heq | hold
    · exact hfound b heq.symm
    · exact h.found j b hold
  · rcases hcalls j _ hj with heq | hold
    · exact hfilled b heq.symm
    · exact h.filled j b hold
  · rcases hcalls j _ hj with heq | hold
    · exact hreturned n heq.symm
    · exact h.returned j n hold

/-- A step keeps the invariant.  What it adds twice are the items that it finds
in a closed cart. -/
theorem MergeInv.step (h : MergeInv user sessionKey a q extra s anon) (hkey : sessionKey ≠ "")
    (hstep : LoginMerge.step user sessionKey s i = some t) :
    ∃ (anon' : Cart) (more : ProductId → Nat),
      MergeInv user sessionKey a q (fun k => extra k + more k) t anon' ∧
      (mergesOpen s i → ∀ k, more k = 0) ∧ (¬ mergesOpen s i → ∃ k, 0 < more k) := by
  unfold LoginMerge.step at hstep
  cases hcall : s.calls i with
  | called =>
    have hopen : mergesOpen s i := by
      intro b cart hb
      rw [hcall] at hb
      cases hb
    refine ⟨anon, fun _ => 0, ?_, fun _ _ => rfl, fun hnot => absurd hopen hnot⟩
    rw [hcall] at hstep
    simp only [lookUp, if_neg hkey, h.merging.lookUp] at hstep
    by_cases hactive : anon.isActive = true
    · rw [if_pos hactive] at hstep
      cases hstep
      exact h.goOn (fun b hb => by cases hb; rfl) nofun nofun
    · rw [if_neg hactive] at hstep
      cases hstep
      exact h.goOn nofun nofun fun _ _ => Or.inl (by simpa using hactive)
  | found b =>
    have hopen : mergesOpen s i := by
      intro c cart hc
      rw [hcall] at hc
      cases hc
    refine ⟨anon, fun _ => 0, ?_, fun _ _ => rfl, fun hnot => absurd hopen hnot⟩
    have hb : b = a := h.found i b hcall
    have hitems : itemsOf s.db a = anon.items := by
      unfold itemsOf
      rw [h.merging.found]
      rfl
    rw [hcall, hb] at hstep
    simp only [hitems] at hstep
    by_cases hempty : anon.items = []
    · rw [if_pos hempty] at hstep
      cases hstep
      exact h.goOn nofun nofun fun _ _ => Or.inr hempty
    · rw [if_neg hempty] at hstep
      cases hstep
      exact h.goOn nofun (fun c hc => by cases hc; rfl) nofun
  | filled b =>
    have hb : b = a := h.filled i b hcall
    rw [hcall, hb] at hstep
    cases hstep
    rw [hb] at hcall
    obtain ⟨anon', hmerging, hclosed, _, hquantity⟩ := h.merging.absorb
    refine ⟨anon', fun k => if anon.isActive then 0 else anon.quantityOf k,
      ⟨hmerging, fun j c hj => ?_, fun j c hj => ?_, fun _ _ _ => Or.inl hclosed, fun k => ?_⟩,
      fun hopen k => ?_, fun hnot => ?_⟩
    · simp only [LoginMerge.goOn, Function.update_apply] at hj
      split at hj
      · cases hj
      · exact h.found j c hj
    · simp only [LoginMerge.goOn, Function.update_apply] at hj
      split at hj
      · cases hj
      · exact h.filled j c hj
    · have htotal := h.total k
      have hq := hquantity k
      show memberQuantity (absorb s.db user a).2 user k
          + (if anon'.isActive then anon'.quantityOf k else 0)
        = q k + (extra k + if anon.isActive then 0 else anon.quantityOf k)
      rw [hclosed, hq, if_neg (by simp)]
      by_cases hactive : anon.isActive = true
      · rw [if_pos hactive] at htotal ⊢
        omega
      · rw [if_neg hactive] at htotal ⊢
        omega
    · show (if anon.isActive then 0 else anon.quantityOf k) = 0
      rcases hopen a anon hcall h.merging.found with hactive | hzero
      · rw [if_pos hactive]
      · rw [hzero k, ite_self]
    · unfold mergesOpen at hnot
      push Not at hnot
      obtain ⟨c, cart, hc, hcart, hinactive, k, hk⟩ := hnot
      rw [hcall, MergeStage.filled.injEq] at hc
      rw [← hc, h.merging.found, Option.some.injEq] at hcart
      rw [← hcart] at hinactive hk
      refine ⟨k, ?_⟩
      show 0 < if anon.isActive then 0 else anon.quantityOf k
      rw [if_neg hinactive]
      omega
  | returned n =>
    rw [hcall] at hstep
    cases hstep

end

/-! ## The claim -/

section

variable {db : Db} {user : UserId} {sessionKey : String}

/-- The session has a cart, or none. -/
theorem CartConstraints.merging (h : CartConstraints db) (user : UserId) {a : CartId} {anon : Cart}
    (hfind : anonymousCart? db sessionKey = some (a, anon)) :
    Merging user sessionKey a db anon ∧ anon.isActive = true ∧ sessionKey ≠ "" := by
  obtain ⟨hget, hp⟩ := Table.find?_eq_some_get hfind
  simp only [Bool.and_eq_true, decide_eq_true_eq] at hp
  obtain ⟨hkey, hactive⟩ := hp
  obtain ⟨huser, hne⟩ := h.anonymous a anon sessionKey hget hkey
  refine ⟨⟨hget, huser, hkey, h.items a anon hget, fun c cart hcart hkey' hactive' => ?_,
    fun c c' cart cart' hc hc' hu hu' ha ha' => ?_⟩, hactive, hne⟩
  · exact h.session c a cart anon sessionKey hcart hget hkey' hkey hactive' hactive
  · exact h.member c c' cart cart' user hc hc' hu hu' ha ha'

/-- The quantities after a run of merges are those before it and what was added
twice; nothing was exactly when every merge found the cart open. -/
theorem MergeInv.run (h : CartConstraints db) {a : CartId} {anon : Cart}
    (hfind : anonymousCart? db sessionKey = some (a, anon)) {es : List Nat} {s : LoginMerge}
    (hrun : Run (LoginMerge.step user sessionKey) (fun _ _ => True) { db := db } es s) :
    let q := fun k => memberQuantity db user k + anonymousQuantity db sessionKey k
    Run (LoginMerge.step user sessionKey) mergesOpen { db := db } es s ∧
        (∃ anon, MergeInv user sessionKey a q (fun _ => 0) s anon) ∨
      ¬ Run (LoginMerge.step user sessionKey) mergesOpen { db := db } es s ∧
        ∃ extra anon, MergeInv user sessionKey a q extra s anon ∧ ∃ k, 0 < extra k := by
  intro q
  obtain ⟨hmerging, hactive, hkey⟩ := h.merging user hfind
  refine hrun.good_or_bad (fun s => ∃ anon, MergeInv user sessionKey a q (fun _ => 0) s anon)
    (fun s => ∃ extra anon, MergeInv user sessionKey a q extra s anon ∧ ∃ k, 0 < extra k)
    ?_ ?_ ?_ ?_
  · refine ⟨anon, hmerging, nofun, nofun, nofun, fun k => ?_⟩
    rw [if_pos hactive]
    show _ = memberQuantity db user k + anonymousQuantity db sessionKey k + 0
    unfold anonymousQuantity
    rw [hfind]
    rfl
  · rintro s i t ⟨anon, hinv⟩ hopen hstep
    obtain ⟨anon', more, hinv', hnone, _⟩ := hinv.step hkey hstep
    have hzero : (fun k => 0 + more k) = fun _ => 0 := by
      funext k
      rw [hnone hopen k]
    rw [hzero] at hinv'
    exact ⟨anon', hinv'⟩
  · rintro s i t ⟨anon, hinv⟩ hclosed hstep
    obtain ⟨anon', more, hinv', _, hmore⟩ := hinv.step hkey hstep
    obtain ⟨k, hk⟩ := hmore hclosed
    exact ⟨_, anon', hinv', k, by omega⟩
  · rintro s i t ⟨extra, anon, hinv, k, hk⟩ hstep
    obtain ⟨anon', more, hinv', _, _⟩ := hinv.step hkey hstep
    exact ⟨_, anon', hinv', k, by omega⟩

/-- Without a cart of the session the calls do nothing. -/
theorem noCart_run (hfind : anonymousCart? db sessionKey = none) {es : List Nat} {s : LoginMerge}
    (hrun : Run (LoginMerge.step user sessionKey) (fun _ _ => True) { db := db } es s) :
    Run (LoginMerge.step user sessionKey) mergesOpen { db := db } es s ∧ s.db = db := by
  have hlook : lookUp db sessionKey = none := by
    unfold lookUp
    rw [hfind, Option.map_none, ite_self]
  have hall : Run (LoginMerge.step user sessionKey) mergesOpen { db := db } es s ∧
        (s.db = db ∧ ∀ i, s.calls i = .called ∨ s.calls i = .returned 0) ∨
      ¬ Run (LoginMerge.step user sessionKey) mergesOpen { db := db } es s ∧ False := by
    refine hrun.good_or_bad
      (fun s => s.db = db ∧ ∀ i, s.calls i = .called ∨ s.calls i = .returned 0) (fun _ => False)
      ⟨rfl, fun _ => Or.inl rfl⟩ ?_ ?_ (fun _ _ _ hf _ => hf)
    · rintro s i t ⟨hdb, hcalls⟩ _ hstep
      unfold LoginMerge.step at hstep
      rcases hcalls i with hcall | hcall
      · rw [hcall, hdb] at hstep
        simp only [hlook] at hstep
        cases hstep
        refine ⟨rfl, fun j => ?_⟩
        simp only [LoginMerge.goOn, Function.update_apply]
        split
        · exact Or.inr rfl
        · exact hcalls j
      · rw [hcall] at hstep
        cases hstep
    · rintro s i t ⟨_, hcalls⟩ hclosed _
      refine hclosed fun a cart hfilled _ => ?_
      rcases hcalls i with hcall | hcall
      · rw [hcall] at hfilled
        cases hfilled
      · rw [hcall] at hfilled
        cases hfilled
  rcases hall with ⟨hopen, hdb, _⟩ | ⟨_, hf⟩
  · exact ⟨hopen, hdb⟩
  · exact absurd hf id

theorem memberQuantity_getOrCreateActiveCart (db : Db) (user : UserId) (k : ProductId) :
    memberQuantity (getOrCreateActiveCart db user).2 user k = memberQuantity db user k := by
  unfold getOrCreateActiveCart
  split
  · rfl
  · rename_i hfind
    unfold memberQuantity
    rw [Table.find?_insert, hfind]
    simp [Cart.quantityOf, Cart.item?]

/-- One merge adds the quantities of the session's cart. -/
theorem memberQuantity_mergeAnonymousCart (h : CartConstraints db) (k : ProductId) :
    memberQuantity (CartService.mergeAnonymousCart db user sessionKey).2 user k
      = memberQuantity db user k + anonymousQuantity db sessionKey k := by
  unfold CartService.mergeAnonymousCart anonymousQuantity lookUp
  cases hfind : anonymousCart? db sessionKey with
  | none =>
    rw [Option.map_none, ite_self]
    rfl
  | some found =>
    obtain ⟨a, anon⟩ := found
    obtain ⟨hmerging, hactive, hkey⟩ := h.merging user hfind
    rw [if_neg hkey, Option.map_some]
    dsimp only
    have hitems : itemsOf db a = anon.items := by
      unfold itemsOf
      rw [hmerging.found]
      rfl
    rw [hitems]
    by_cases hempty : anon.items = []
    · have hnone : anon.quantityOf k = 0 := by
        unfold Cart.quantityOf Cart.item?
        rw [hempty]
        rfl
      rw [if_pos hempty, hnone, Nat.add_zero]
    · rw [if_neg hempty]
      obtain ⟨_, _, _, _, hquantity⟩ := hmerging.absorb
      exact hquantity k

theorem memberQuantity_modelMerge (h : CartConstraints db) (k : ProductId) :
    memberQuantity (Cart.mergeAnonymousCart db user sessionKey).2 user k
      = memberQuantity db user k + anonymousQuantity db sessionKey k := by
  cases hfind : anonymousCart? db sessionKey with
  | none =>
    unfold Cart.mergeAnonymousCart anonymousQuantity
    dsimp only
    rw [anonymousCart?_getOrCreateActiveCart, hfind]
    exact memberQuantity_getOrCreateActiveCart db user k
  | some found =>
    obtain ⟨a, anon⟩ := found
    exact (h.merging user hfind).1.model k

/-- A call whose steps come one after the other is `merge_anonymous_cart`. -/
theorem LoginMerge.step_alone (user : UserId) (sessionKey : String) {s : LoginMerge} {i : Nat}
    (hi : s.calls i = .called) :
    ∃ n, exec (LoginMerge.step user sessionKey) s (List.replicate n i)
      = some (s.goOn i (.returned (CartService.mergeAnonymousCart s.db user sessionKey).1)
          (CartService.mergeAnonymousCart s.db user sessionKey).2) := by
  unfold CartService.mergeAnonymousCart
  cases hlook : lookUp s.db sessionKey with
  | none =>
    refine ⟨1, ?_⟩
    simp [List.replicate, exec, LoginMerge.step, hi, hlook]
  | some a =>
    by_cases hempty : itemsOf s.db a = []
    · refine ⟨2, ?_⟩
      simp [List.replicate, exec, LoginMerge.step, LoginMerge.goOn, hi, hlook, hempty]
    · refine ⟨3, ?_⟩
      simp [List.replicate, exec, LoginMerge.step, LoginMerge.goOn, hi, hlook, hempty]

/-- Both merges add every item once.  So do any number of merges of the session
exactly in the runs in which each of them that gets the lock finds the session's
cart open, or no quantity in it. -/
theorem login_merge_once (h : CartConstraints db) :
    (∀ k, memberQuantity (CartService.mergeAnonymousCart db user sessionKey).2 user k
      = memberQuantity db user k + anonymousQuantity db sessionKey k) ∧
    (∀ k, memberQuantity (Cart.mergeAnonymousCart db user sessionKey).2 user k
      = memberQuantity (CartService.mergeAnonymousCart db user sessionKey).2 user k) ∧
    ∀ es s, Run (LoginMerge.step user sessionKey) (fun _ _ => True) { db := db } es s →
      (∃ i n, s.calls i = .returned n) →
      ((∀ k, memberQuantity s.db user k
          = memberQuantity db user k + anonymousQuantity db sessionKey k) ↔
        Run (LoginMerge.step user sessionKey) mergesOpen { db := db } es s) := by
  refine ⟨fun k => memberQuantity_mergeAnonymousCart h k, fun k => ?_, fun es s hrun hdone => ?_⟩
  · rw [memberQuantity_modelMerge h, memberQuantity_mergeAnonymousCart h]
  · cases hfind : anonymousCart? db sessionKey with
    | none =>
      obtain ⟨hopen, hdb⟩ := noCart_run hfind hrun
      refine ⟨fun _ => hopen, fun _ k => ?_⟩
      unfold anonymousQuantity
      rw [hdb, hfind]
      rfl
    | some found =>
      obtain ⟨a, anon₀⟩ := found
      obtain ⟨i, n, hreturned⟩ := hdone
      -- A call has returned, so nothing is left to be added.
      have hover : ∀ {extra anon}, MergeInv user sessionKey a
          (fun k => memberQuantity db user k + anonymousQuantity db sessionKey k) extra s anon →
          ∀ k, memberQuantity s.db user k
            = memberQuantity db user k + anonymousQuantity db sessionKey k + extra k := by
        intro extra anon hinv k
        have htotal := hinv.total k
        rcases hinv.returned i n hreturned with hclosed | hempty
        · rw [hclosed, if_neg (by simp)] at htotal
          exact htotal
        · have hnone : anon.quantityOf k = 0 := by
            unfold Cart.quantityOf Cart.item?
            rw [hempty]
            rfl
          rw [hnone, ite_self] at htotal
          exact htotal
      rcases MergeInv.run h hfind hrun with ⟨hopen, anon, hinv⟩ | ⟨hnot, extra, anon, hinv, k, hk⟩
      · exact ⟨fun _ => hopen, fun _ k => hover hinv k⟩
      · refine ⟨fun honce => ?_, fun hopen => absurd hopen hnot⟩
        have honce' := honce k
        have hover' := hover hinv k
        omega

end

/-- The session 's' has two of the book and one lamp, the user 7 one book. -/
def lampStore : Db where
  ledger := Ledger.empty
  membership := fun _ => .bronze
  products := (Table.empty.insert ⟨"책", 10000, 9, 0, true⟩).insert ⟨"램프", 20000, 9, 0, true⟩
  carts := (Table.empty.insert ⟨some 7, true, [⟨1, 1, some 10000⟩], none⟩).insert
    ⟨none, true, [⟨1, 2, some 10000⟩, ⟨2, 1, some 20000⟩], some "s"⟩
  orders := Table.empty
  payments := PaymentTable.empty
  logs := []
  returns := Table.empty
  idempotencyKeys := []
  webhookMarks := []

theorem lampStore_constraints : CartConstraints lampStore := by
  have hcases : ∀ c cart, lampStore.carts.get? c = some cart →
      (c = 2 ∧ cart = ⟨none, true, [⟨1, 2, some 10000⟩, ⟨2, 1, some 20000⟩], some "s"⟩) ∨
      (c = 1 ∧ cart = ⟨some 7, true, [⟨1, 1, some 10000⟩], none⟩) := by
    intro c cart hget
    unfold lampStore at hget
    rw [Table.get?_insert, Table.get?_insert] at hget
    split at hget
    · cases hget
      exact Or.inl ⟨by assumption, rfl⟩
    · split at hget
      · cases hget
        exact Or.inr ⟨by assumption, rfl⟩
      · cases hget
  refine ⟨fun c cart hget => ?_, fun c c' cart cart' user hget hget' hu hu' _ _ => ?_,
    fun c c' cart cart' key hget hget' hk hk' _ _ => ?_, fun c cart key hget hk => ?_⟩
  · rcases hcases c cart hget with ⟨_, rfl⟩ | ⟨_, rfl⟩
    · decide
    · decide
  · rcases hcases c cart hget with ⟨_, rfl⟩ | ⟨hc, _⟩
    · cases hu
    · rcases hcases c' cart' hget' with ⟨_, rfl⟩ | ⟨hc', _⟩
      · cases hu'
      · rw [hc, hc']
  · rcases hcases c cart hget with ⟨hc, _⟩ | ⟨_, rfl⟩
    · rcases hcases c' cart' hget' with ⟨hc', _⟩ | ⟨_, rfl⟩
      · rw [hc, hc']
      · cases hk'
    · cases hk
  · rcases hcases c cart hget with ⟨_, rfl⟩ | ⟨_, rfl⟩
    · cases hk
      exact ⟨rfl, by decide⟩
    · cases hk

/-- One merge after the other: three books. -/
theorem login_merge_once_sample :
    memberQuantity (CartService.mergeAnonymousCart lampStore 7 "s").2 7 1 = 3 ∧
    memberQuantity (Cart.mergeAnonymousCart lampStore 7 "s").2 7 1 = 3 ∧
    ∃ s, Run (LoginMerge.step 7 "s") (fun _ _ => True) { db := lampStore } [0, 0, 0, 1] s ∧
      memberQuantity s.db 7 1 = 3 ∧
      ((∀ k, memberQuantity s.db 7 k
          = memberQuantity lampStore 7 k + anonymousQuantity lampStore "s" k) ↔
        Run (LoginMerge.step 7 "s") mergesOpen { db := lampStore } [0, 0, 0, 1] s) := by
  obtain ⟨hservice, hmodel, hruns⟩ := @login_merge_once lampStore 7 "s" lampStore_constraints
  obtain ⟨s, hrun, hstate⟩ := Run.exists_of_execIf (by decide +kernel :
    (execIf (LoginMerge.step 7 "s") (fun _ _ => true) { db := lampStore } [0, 0, 0, 1]).any
      (fun s => decide (memberQuantity s.db 7 1 = 3 ∧ s.calls 1 = .returned 0)) = true)
  obtain ⟨hquantity, hreturned⟩ := of_decide_eq_true hstate
  have hany := hrun.mono fun _ _ _ => trivial
  refine ⟨?_, ?_, s, hany, hquantity, hruns _ s hany ⟨1, 0, hreturned⟩⟩
  · rw [hservice 1]
    decide
  · rw [hmodel 1, hservice 1]
    decide

/-- Both calls look before one merges: the books of the session are added
twice. -/
theorem login_merge_twice :
    memberQuantity lampStore 7 1 + anonymousQuantity lampStore "s" 1 = 3 ∧
    ∃ s, Run (LoginMerge.step 7 "s") (fun _ _ => True) { db := lampStore } [0, 1, 0, 1, 0, 1] s ∧
      s.calls 0 = .returned 2 ∧ s.calls 1 = .returned 1 ∧ memberQuantity s.db 7 1 = 5 := by
  refine ⟨by decide, ?_⟩
  obtain ⟨s, hrun, hstate⟩ := Run.exists_of_execIf (by decide +kernel :
    (execIf (LoginMerge.step 7 "s") (fun _ _ => true) { db := lampStore } [0, 1, 0, 1, 0, 1]).any
      (fun s => decide (s.calls 0 = .returned 2 ∧ s.calls 1 = .returned 1 ∧
        memberQuantity s.db 7 1 = 5)) = true)
  exact ⟨s, hrun.mono fun _ _ _ => trivial, of_decide_eq_true hstate⟩

end Shopping
