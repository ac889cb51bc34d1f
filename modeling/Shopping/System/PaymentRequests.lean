import Shopping.Lib.Run
import Shopping.System.Steps

/-!
# Payment requests for one order

A request is validated without a lock, looks up its idempotency key without a
lock, and then deletes the order's payment and makes a new one under the lock
of the order.  The key is in the cache before the transaction commits.  The
stages of different requests interleave, with each other and with everything
else that happens to the payment in between.

A request gets to the lock when its validation found no payment and its key
stands for none; neither is looked at again.  `stillHolds` is the condition that
the first would say the same under the lock: the order has the payment that the
validation found, which is none.
-/

namespace Shopping

open PaymentService

/-! ## The parts of `create_payment` -/

namespace PaymentService

/-- The key in the cache, with its user and order. -/
abbrev CacheKey := UserId × OrderId × String

/-- `_get_idempotency_cache_key`. -/
def idempotencyCacheKey (key : Option String) (o : OrderId) (user : UserId) : Option CacheKey :=
  (Payment.truthy key).map fun key => (user, o, key)

/-- The cache has the key. -/
def isCached (db : Db) (now : Time) (e : CacheKey) : Bool :=
  db.idempotencyKeys.any fun x => decide (x.1 = e) && decide (now < x.2.2)

/-- `cache.delete(cache_key)`. -/
def forgetKey (db : Db) (e : Option CacheKey) : Db :=
  { db with idempotencyKeys := db.idempotencyKeys.filter fun x => decide (some x.1 ≠ e) }

/-- `create_payment` after the lookup of the key, without the cache. -/
def replacePayment (db : Db) (now : Time) (o : OrderId) (order : Order) (method : String)
    (key : Option String) : Except ShopError (Nat × Db) := do
  let _ ← db.getOrder o
  let cleared := deletePayments db o
  let (payment, payments) ← cleared.payments.create
    { order := o
      tossOrderId := .orderNumber o
      amount := order.finalAmount
      method := method
      status := .ready
      idempotencyKey := key
      updatedAt := now }
  .ok (payment, { cleared with payments := payments }.log payment .request "결제 요청 생성")

variable {db : Db} {now : Time} {o : OrderId} {order : Order} {method : String}
  {key : Option String}

/-- The parts make up the whole. -/
theorem createPayment_parts : createPayment db now o order method key =
    match checkIdempotencyKey db now key o order.user with
    | some payment => .ok (payment, db)
    | none => (replacePayment db now o order method key).map fun out =>
        (out.1, { out.2 with
          idempotencyKeys :=
            (setIdempotencyKey db now key o order.user out.1).idempotencyKeys }) := by
  unfold createPayment
  cases checkIdempotencyKey db now key o order.user with
  | some payment => rfl
  | none =>
    unfold replacePayment
    cases db.getOrder o with
    | error e => rfl
    | ok found =>
      simp only [ok_bind]
      generalize (deletePayments db o).payments.create _ = created
      cases created with
      | error e => rfl
      | ok out =>
        obtain ⟨payment, payments⟩ := out
        simp only [ok_bind, Except.map]
        unfold setIdempotencyKey
        cases Payment.truthy key with
        | none => rfl
        | some key => rfl

/-- The payment that was made is the order's. -/
theorem replacePayment_ok {k : Nat} {db' : Db}
    (h : replacePayment db now o order method key = .ok (k, db')) :
    ∃ row, db'.payments.get? k = some row ∧ row.order = o := by
  unfold replacePayment at h
  obtain ⟨_, _, h⟩ := bind_eq_ok.mp h
  obtain ⟨⟨k', payments⟩, hcreate, h⟩ := bind_eq_ok.mp h
  cases h
  have hof := PaymentTable.ofOrder?_create hcreate o
  rw [if_pos rfl] at hof
  exact ⟨_, (PaymentTable.ofOrder?_eq_some.mp hof).1, rfl⟩

/-- A payment that the lookup of a key finds is the order's. -/
theorem checkIdempotencyKey_some {user : UserId} {k : Nat}
    (h : checkIdempotencyKey db now key o user = some k) :
    ∃ p, db.payments.get? k = some p ∧ p.order = o := by
  unfold checkIdempotencyKey at h
  split at h
  · cases h
  · split at h
    · cases h
    · split at h
      · cases h
      · rename_i p hget
        split at h
        · rename_i horder
          cases h
          exact ⟨p, hget, horder⟩
        · cases h

end PaymentService

/-- A confirmation has begun on the payment. -/
def PaymentStatus.isInUse : PaymentStatus → Bool
  | .inProgress | .waitingForDeposit | .done => true
  | _ => false

/-! ## The counter -/

/-- How far a request got. -/
inductive FormStage where
  | validated
  /-- The key stands for no payment; the request waits for the lock. -/
  | checked
  /-- The request is in its transaction, was answered, or raised. -/
  | left
  deriving DecidableEq, Repr

/-- A request and what its validation kept. -/
structure RequestForm where
  request : PaymentRequest
  method : String
  key : Option String
  stage : FormStage := .validated

/-- The key of the request in the cache. -/
def RequestForm.cacheKey (f : RequestForm) : Option CacheKey :=
  idempotencyCacheKey f.key f.request.orderId f.request.order.user

/-- The open transaction of `create_payment`. -/
structure OpenRequest where
  form : RequestForm
  payment : Nat
  db : Db

/-- The shop with the requests for one order. -/
structure PaymentCounter where
  world : World
  order : OrderId
  forms : List RequestForm := []
  writing : Option OpenRequest := none
  /-- The payments that were answered under keys that are cached since. -/
  answers : List (CacheKey × Nat) := []
  /-- The statuses of the payments that were deleted. -/
  deleted : List PaymentStatus := []

inductive CounterEvent where
  | validate (user : UserId) (isStaff : Bool) (method : String) (key : Option String)
  /-- The n-th request is answered with the payment that its validation found,
  or looks up its key. -/
  | start (n : Nat)
  /-- The n-th request takes the lock, and runs up to its commit. -/
  | write (n : Nat)
  | commit
  | abort
  | shop (e : Event)

/-- Every event of the shop that requests no payment and writes no payment that
was read long before. -/
def besideRequests : Event → Bool
  | .createRequest .. | .writeFailure .. => false
  | _ => true

namespace PaymentCounter

/-- The answers whose keys are still cached. -/
def current (s : PaymentCounter) (now : Time) : List (CacheKey × Nat) :=
  s.answers.filter fun x => isCached s.world.db now x.1

/-- A response with the payment `k`. -/
def answer (s : PaymentCounter) (now : Time) (form : RequestForm) (k : Nat) : PaymentCounter :=
  match form.cacheKey with
  | none => s
  | some e => if isCached s.world.db now e then { s with answers := s.answers ++ [(e, k)] } else s

/-- The n-th request goes on to the stage. -/
def setStage (s : PaymentCounter) (n : Nat) (form : RequestForm) (stage : FormStage) :
    PaymentCounter :=
  { s with forms := s.forms.set n { form with stage := stage } }

/-- The next part of the database, outside a transaction. -/
def withDb (s : PaymentCounter) (db : Db) : PaymentCounter :=
  { s with world := { s.world with db := db } }

def start (s : PaymentCounter) (now : Time) (n : Nat) : Option PaymentCounter :=
  match s.forms[n]? with
  | none => none
  | some form =>
    if form.stage ≠ .validated then none
    else
      match form.request.existing with
      | some k => some ((s.setStage n form .left).answer now form k)
      | none =>
        match checkIdempotencyKey s.world.db now form.key form.request.orderId
            form.request.order.user with
        | some k => some ((s.setStage n form .left).answer now form k)
        | none =>
          some ((s.setStage n form .checked).withDb (forgetKey s.world.db form.cacheKey))

def write (s : PaymentCounter) (now : Time) (n : Nat) : Option PaymentCounter :=
  match s.writing, s.forms[n]? with
  | none, some form =>
    if form.stage ≠ .checked then none
    else
      match replacePayment s.world.db now form.request.orderId form.request.order form.method
          form.key with
      | .error _ => some (s.setStage n form .left)
      | .ok (k, db) =>
        some { (s.setStage n form .left).withDb (setIdempotencyKey s.world.db now form.key
            form.request.orderId form.request.order.user k) with
          writing := some ⟨form, k, db⟩ }
  | _, _ => none

def commit (s : PaymentCounter) (now : Time) : Option PaymentCounter :=
  match s.writing with
  | none => none
  | some x =>
    let gone := (s.world.db.payments.ofOrder? s.order).toList.map fun e => e.2.status
    let committed := s.withDb { x.db with idempotencyKeys := s.world.db.idempotencyKeys }
    some ({ committed with writing := none, deleted := s.deleted ++ gone }.answer now x.form
      x.payment)

/-- The step of the counter.  The open transaction holds the locks that the
other functions wait for. -/
def step (s : PaymentCounter) (e : Time × CounterEvent) : Option PaymentCounter :=
  let s := { s with answers := s.current e.1 }
  match e.2 with
  | .validate user isStaff method key =>
    match validateOrderId s.world.db s.order user isStaff with
    | .error _ => some s
    | .ok request =>
      some { s with forms := s.forms ++ [⟨request, method, Payment.truthy key, .validated⟩] }
  | .start n => s.start e.1 n
  | .write n => s.write e.1 n
  | .commit => s.commit e.1
  | .abort => some { s with writing := none }
  | .shop event =>
    if s.writing.isNone && besideRequests event then
      some { s with world := s.world.run e.1 event }
    else none

/-- The payment is the order's. -/
def isThere (s : PaymentCounter) (k : Nat) : Bool :=
  (s.world.db.payments.get? k).any fun p => decide (p.order = s.order)

/-- What the validation found still holds when the request takes the lock. -/
def stillHolds (s : PaymentCounter) (e : Time × CounterEvent) : Bool :=
  match e.2 with
  | .write n => (s.forms[n]?).all fun form => decide
      ((s.world.db.payments.ofOrder? form.request.orderId).map Prod.fst = form.request.existing)
  | _ => true

/-! ## The invariant -/

/-- The payments that a validation found or an answer named are there, and the
open transaction makes the first one. -/
structure Kept (s : PaymentCounter) : Prop where
  orders : ∀ f ∈ s.forms, f.request.orderId = s.order
  found : ∀ f ∈ s.forms, ∀ k, f.request.existing = some k → s.isThere k = true
  checked : ∀ f ∈ s.forms, f.stage = .checked → f.request.existing = none
  unpaid : s.writing.isSome = true → s.world.db.payments.ofOrder? s.order = none
  writing : ∀ x, s.writing = some x → ∃ p, x.db.payments.get? x.payment = some p ∧
    p.order = s.order
  answers : ∀ x ∈ s.answers, s.isThere x.2 = true
  deleted : s.deleted = []

section

variable {s t : PaymentCounter} {now : Time} {form : RequestForm} {k n : Nat}

theorem isThere_iff :
    s.isThere k = true ↔ ∃ p, s.world.db.payments.get? k = some p ∧ p.order = s.order := by
  simp [isThere, Option.any_eq_true]

/-- A payment that is there is the order's. -/
theorem ofOrder?_of_isThere (h : s.isThere k = true) :
    s.world.db.payments.ofOrder? s.order ≠ none := by
  obtain ⟨p, hp, ho⟩ := isThere_iff.mp h
  rw [PaymentTable.ofOrder?_eq_some.mpr ⟨hp, ho⟩]
  exact Option.some_ne_none _

/-- The order has one payment: answers that are there are the same. -/
theorem Kept.same (h : Kept s) {x y : CacheKey × Nat} (hx : x ∈ s.answers) (hy : y ∈ s.answers) :
    x.2 = y.2 := by
  obtain ⟨p, hp, hpo⟩ := isThere_iff.mp (h.answers x hx)
  obtain ⟨q, hq, hqo⟩ := isThere_iff.mp (h.answers y hy)
  exact s.world.db.payments.unique x.2 y.2 p q hp hq (hpo.trans hqo.symm)

theorem Kept.current (h : Kept s) (now : Time) : Kept { s with answers := s.current now } :=
  ⟨h.orders, h.found, h.checked, h.unpaid, h.writing,
    fun x hx => h.answers x (List.mem_filter.mp hx).1, h.deleted⟩

theorem Kept.setStage (h : Kept s) (hform : form ∈ s.forms) (n : Nat) (stage : FormStage)
    (hstage : stage = .checked → form.request.existing = none) :
    Kept (s.setStage n form stage) := by
  have hset : ∀ f ∈ s.forms.set n { form with stage := stage },
      f ∈ s.forms ∨ f = { form with stage := stage } :=
    fun f hf => List.mem_or_eq_of_mem_set hf
  refine ⟨fun f hf => ?_, fun f hf k hk => ?_, fun f hf hf' => ?_, h.unpaid, h.writing, h.answers,
    h.deleted⟩
  · rcases hset f hf with hf | rfl
    · exact h.orders f hf
    · exact h.orders form hform
  · rcases hset f hf with hf | rfl
    · exact h.found f hf k hk
    · exact h.found form hform k hk
  · rcases hset f hf with hf | rfl
    · exact h.checked f hf hf'
    · exact hstage hf'

/-- A write that leaves the payments. -/
theorem Kept.withDb (h : Kept s) {db : Db} (hdb : db.payments = s.world.db.payments) :
    Kept (s.withDb db) := by
  have hthere : ∀ k, (s.withDb db).isThere k = s.isThere k := by
    intro k
    show (db.payments.get? k).any _ = _
    rw [hdb]
    rfl
  refine ⟨h.orders, fun f hf k hk => ?_, h.checked, fun hopen => ?_, h.writing, fun x hx => ?_,
    h.deleted⟩
  · rw [hthere]
    exact h.found f hf k hk
  · show db.payments.ofOrder? s.order = none
    rw [hdb]
    exact h.unpaid hopen
  · rw [hthere]
    exact h.answers x hx

theorem Kept.answer (h : Kept s) (hthere : s.isThere k = true) : Kept (s.answer now form k) := by
  unfold PaymentCounter.answer
  split
  · exact h
  · split
    · refine ⟨h.orders, h.found, h.checked, h.unpaid, h.writing, fun x hx => ?_, h.deleted⟩
      rcases List.mem_append.mp hx with hx | hx
      · exact h.answers x hx
      · rw [List.mem_singleton.mp hx]
        exact hthere
    · exact h

theorem Kept.start (h : Kept s) (hstart : s.start now n = some t) : Kept t := by
  unfold PaymentCounter.start at hstart
  split at hstart
  · cases hstart
  · rename_i form hform
    have hmem := List.mem_of_getElem? hform
    split at hstart
    · cases hstart
    · split at hstart
      · rename_i k hexisting
        cases hstart
        exact (h.setStage hmem n .left (by simp)).answer (h.found form hmem k hexisting)
      · rename_i hexisting
        split at hstart
        · rename_i k hcheck
          cases hstart
          obtain ⟨p, hp, hpo⟩ := checkIdempotencyKey_some hcheck
          rw [h.orders form hmem] at hpo
          exact (h.setStage hmem n .left (by simp)).answer (isThere_iff.mpr ⟨p, hp, hpo⟩)
        · cases hstart
          exact (h.setStage hmem n .checked fun _ => hexisting).withDb rfl

/-- A request that takes the lock finds no payment, as its validation did. -/
theorem Kept.write (h : Kept s) (hholds : (s.forms[n]?).all (fun form => decide
      ((s.world.db.payments.ofOrder? form.request.orderId).map Prod.fst
        = form.request.existing)) = true)
    (hwrite : s.write now n = some t) : Kept t := by
  unfold PaymentCounter.write at hwrite
  split at hwrite
  · rename_i form hclosed hform
    have hmem := List.mem_of_getElem? hform
    split at hwrite
    · cases hwrite
    · rename_i hstage
      have hnone : s.world.db.payments.ofOrder? s.order = none := by
        rw [hform, Option.all_some, decide_eq_true_eq, h.orders form hmem,
          h.checked form hmem (not_not.mp hstage), Option.map_eq_none_iff] at hholds
        exact hholds
      split at hwrite
      · cases hwrite
        exact h.setStage hmem n .left (by simp)
      · rename_i k db hreplace
        cases hwrite
        obtain ⟨row, hrow, horder⟩ := replacePayment_ok hreplace
        have hpayments := setIdempotencyKey_payments s.world.db now form.key
          form.request.orderId form.request.order.user k
        have hleft := (h.setStage hmem n .left (by simp)).withDb hpayments
        refine ⟨hleft.orders, hleft.found, hleft.checked, fun _ => ?_, fun x hx => ?_,
          hleft.answers, hleft.deleted⟩
        · show (setIdempotencyKey _ _ _ _ _ _).payments.ofOrder? s.order = none
          rw [hpayments]
          exact hnone
        · cases hx
          exact ⟨row, hrow, horder.trans (h.orders form hmem)⟩
  · cases hwrite

/-- A commit deletes nothing, and leaves the first payment of the order. -/
theorem Kept.commit (h : Kept s) (hcommit : s.commit now = some t) : Kept t := by
  unfold PaymentCounter.commit at hcommit
  split at hcommit
  · cases hcommit
  · rename_i x hwriting
    cases hcommit
    have hunpaid := h.unpaid (by rw [hwriting]; rfl)
    have habsent : ∀ k, s.isThere k ≠ true := fun k hk => ofOrder?_of_isThere hk hunpaid
    obtain ⟨row, hrow, horder⟩ := h.writing x hwriting
    refine Kept.answer ?_ (isThere_iff.mpr ⟨row, hrow, horder⟩)
    refine ⟨h.orders, fun f hf k hk => absurd (h.found f hf k hk) (habsent k), h.checked,
      fun hopen => Bool.noConfusion hopen, fun _ hx => (by cases hx),
      fun y hy => absurd (h.answers y hy) (habsent y.2), ?_⟩
    show s.deleted ++ _ = []
    rw [hunpaid, h.deleted]
    rfl

/-- The validation names the payment that the order has. -/
theorem validateOrderId_ok {db : Db} {o : OrderId} {user : UserId} {isStaff : Bool}
    {request : PaymentRequest} (h : validateOrderId db o user isStaff = .ok request) :
    request.orderId = o ∧ request.existing = (db.payments.ofOrder? o).map Prod.fst := by
  unfold validateOrderId at h
  split at h
  · cases h
  · split at h
    · cases h
    · dsimp only at h
      split at h
      · cases h
      · split at h
        · cases h
        · split at h
          · cases h
          · cases h
            exact ⟨rfl, rfl⟩

theorem Kept.validate (h : Kept s) {user : UserId} {isStaff : Bool} {request : PaymentRequest}
    (hvalid : validateOrderId s.world.db s.order user isStaff = .ok request) (method : String)
    (key : Option String) :
    Kept { s with forms := s.forms ++ [⟨request, method, key, .validated⟩] } := by
  obtain ⟨horder, hexisting⟩ := validateOrderId_ok hvalid
  refine ⟨fun f hf => ?_, fun f hf k hk => ?_, fun f hf hstage => ?_, h.unpaid, h.writing,
    h.answers, h.deleted⟩
  · rcases List.mem_append.mp hf with hf | hf
    · exact h.orders f hf
    · rw [List.mem_singleton.mp hf]
      exact horder
  · rcases List.mem_append.mp hf with hf | hf
    · exact h.found f hf k hk
    · rw [List.mem_singleton.mp hf] at hk
      rw [hexisting, Option.map_eq_some_iff] at hk
      obtain ⟨e, he, rfl⟩ := hk
      exact isThere_iff.mpr ⟨e.2, PaymentTable.ofOrder?_eq_some.mp he⟩
  · rcases List.mem_append.mp hf with hf | hf
    · exact h.checked f hf hstage
    · rw [List.mem_singleton.mp hf] at hstage
      cases hstage

/-- The rest of the shop keeps the payments, and waits while a request is in its
transaction. -/
theorem Kept.shop (h : Kept s) {event : Event} (hclosed : s.writing.isNone = true)
    (hbeside : besideRequests event = true) :
    Kept { s with world := s.world.run now event } := by
  have hkeeps : World.KeepsPayments s.world (s.world.run now event) := by
    refine World.run_keeps ?_ ?_
    · rintro n published rfl
      cases hbeside
    · rintro n method key rfl
      cases hbeside
  have hthere : ∀ k, s.isThere k = true →
      isThere { s with world := s.world.run now event } k = true := by
    intro k hk
    obtain ⟨p, hp, hpo⟩ := isThere_iff.mp hk
    obtain ⟨q, hq, hqo⟩ := hkeeps k p hp
    exact isThere_iff.mpr ⟨q, hq, hqo.trans hpo⟩
  refine ⟨h.orders, fun f hf k hk => hthere k (h.found f hf k hk), h.checked, fun hopen => ?_,
    h.writing, fun x hx => hthere x.2 (h.answers x hx), h.deleted⟩
  rw [Option.isNone_iff_eq_none] at hclosed
  rw [show ({ s with world := s.world.run now event } : PaymentCounter).writing = none from hclosed]
    at hopen
  cases hopen

theorem Kept.step (h : Kept s) {e : Time × CounterEvent} (hholds : s.stillHolds e = true)
    (hstep : s.step e = some t) : Kept t := by
  obtain ⟨now, event⟩ := e
  have hcurrent := h.current now
  cases event with
  | validate user isStaff method key =>
    simp only [PaymentCounter.step] at hstep
    split at hstep
    · cases hstep
      exact hcurrent
    · rename_i request hvalid
      cases hstep
      exact hcurrent.validate hvalid method _
  | start n => exact hcurrent.start hstep
  | write n => exact hcurrent.write hholds hstep
  | commit => exact hcurrent.commit hstep
  | abort =>
    cases hstep
    exact ⟨hcurrent.orders, hcurrent.found, hcurrent.checked, fun hopen => Bool.noConfusion hopen,
      fun _ hx => (by cases hx), hcurrent.answers, hcurrent.deleted⟩
  | shop event =>
    simp only [PaymentCounter.step] at hstep
    split at hstep
    · rename_i hallowed
      cases hstep
      rw [Bool.and_eq_true] at hallowed
      exact hcurrent.shop hallowed.1 hallowed.2
    · cases hstep

end

/-! ## The result -/

/-- No request was made yet. -/
structure Opens (s : PaymentCounter) : Prop where
  forms : s.forms = []
  writing : s.writing = none
  answers : s.answers = []
  deleted : s.deleted = []

/-- When what was validated still holds for each request that takes the lock,
nothing in use is ever deleted, and a key stands for one payment as long as it
is cached. -/
theorem requests_share_payment {s t : PaymentCounter} {es : List (Time × CounterEvent)}
    (h : s.Opens) (hrun : Run step (fun u e => u.stillHolds e = true) s es t) :
    (∀ st ∈ t.deleted, st.isInUse = false) ∧
      ∀ x ∈ t.answers, ∀ y ∈ t.answers, x.1 = y.1 → x.2 = y.2 := by
  have hopens : Kept s := by
    constructor
    · rw [h.forms]
      exact fun f hf => by cases hf
    · rw [h.forms]
      exact fun f hf => by cases hf
    · rw [h.forms]
      exact fun f hf => by cases hf
    · rw [h.writing]
      exact fun hopen => Bool.noConfusion hopen
    · rw [h.writing]
      exact fun x hx => by cases hx
    · rw [h.answers]
      exact fun x hx => by cases hx
    · exact h.deleted
  have hkept : Kept t := by
    refine hrun.invariant Kept hopens ?_
    intro u e v hu hok hstep
    exact hu.step hok hstep
  refine ⟨fun st hst => ?_, fun x hx y hy _ => hkept.same hx hy⟩
  rw [hkept.deleted] at hst
  cases hst

/-- The counter of the order 1, which is confirmed and has no payment yet. -/
def newCounter : PaymentCounter where
  world :=
    let w := World.shop .confirmed .ready
    { w with db := { w.db with payments := PaymentTable.empty } }
  order := 1

theorem newCounter_opens : newCounter.Opens := ⟨rfl, rfl, rfl, rfl⟩

/-- The n-th request comes as far as its answer. -/
def served (now : Time) (n : Nat) : List (Time × CounterEvent) :=
  [(now, .start n), (now, .write n), (now, .commit)]

/-- Three requests with one key: two that were validated before there was a
payment, and one that finds it. -/
def oneAfterAnother : List (Time × CounterEvent) :=
  [(1, .validate 7 false "card" (some "a")), (1, .validate 7 false "card" (some "a"))]
    ++ served 2 0 ++ [(3, .start 1), (4, .validate 7 false "card" (some "a")), (5, .start 2)]

theorem requests_share_payment_three :
    ∃ t, Run step (fun u e => u.stillHolds e = true) newCounter oneAfterAnother t ∧
      t.answers = [((7, 1, "a"), 1), ((7, 1, "a"), 1), ((7, 1, "a"), 1)] ∧
      (∀ st ∈ t.deleted, st.isInUse = false) ∧
      ∀ x ∈ t.answers, ∀ y ∈ t.answers, x.1 = y.1 → x.2 = y.2 := by
  obtain ⟨t, hrun, hstate⟩ := Run.exists_of_execIf (by decide +kernel :
    (execIf step stillHolds newCounter oneAfterAnother).any (fun t => decide
      (t.answers = [((7, 1, "a"), 1), ((7, 1, "a"), 1), ((7, 1, "a"), 1)])) = true)
  exact ⟨t, hrun, of_decide_eq_true hstate, requests_share_payment newCounter_opens hrun⟩

/-- A double click: both requests look up the key before either sets it. -/
def doubleClick : List (Time × CounterEvent) :=
  [(1, .validate 7 false "card" (some "a")), (1, .validate 7 false "card" (some "a")),
    (2, .start 0), (2, .start 1), (3, .write 0), (3, .commit), (4, .write 1), (4, .commit)]

/-- A second tab: its request was validated first, and is made while the
payment of the first is being confirmed. -/
def secondTab : List (Time × CounterEvent) :=
  [(1, .validate 7 false "card" (some "a")), (1, .validate 7 false "card" (some "b"))]
    ++ served 2 0 ++ [(3, .shop (.confirmAsync 1 "key" 13000 7 true))] ++ served 4 1

/-- A double click is answered with two payments, and the payment that is being
confirmed is deleted for another request. -/
theorem requests_destroy_payment :
    (∃ t, Run step (fun _ _ => true = true) newCounter doubleClick t ∧
      t.answers = [((7, 1, "a"), 1), ((7, 1, "a"), 2)]) ∧
    ∃ t, Run step (fun _ _ => true = true) newCounter secondTab t ∧
      t.deleted = [.inProgress] ∧ t.world.db.payments.get? 1 = none := by
  constructor
  · obtain ⟨t, hrun, hstate⟩ := Run.exists_of_execIf (by decide +kernel :
      (execIf step (fun _ _ => true) newCounter doubleClick).any (fun t => decide
        (t.answers = [((7, 1, "a"), 1), ((7, 1, "a"), 2)])) = true)
    exact ⟨t, hrun, of_decide_eq_true hstate⟩
  · obtain ⟨t, hrun, hstate⟩ := Run.exists_of_execIf (by decide +kernel :
      (execIf step (fun _ _ => true) newCounter secondTab).any (fun t => decide
        (t.deleted = [.inProgress] ∧ t.world.db.payments.get? 1 = none)) = true)
    exact ⟨t, hrun, of_decide_eq_true hstate⟩

end PaymentCounter

end Shopping
