import Shopping.Payments.Recovery
import Shopping.System.OrderOnce
import Shopping.System.Prices

/-!
# The amount that was approved

A customer opens a payment window at the provider, for any order number and
any amount, and gets a payment key for it.  The provider approves a key for the
order number and the amount of its window alone.  `Till` is the shop with these
windows and approvals, and with the four routes on which an approval settles an
order: the confirm view with its tasks, `payment_success`, the webhook, and the
reconciliation.

`Priced` is the invariant: whatever the provider approved is at the price of
its order.  Every route keeps it but `payment_success`, which asks the provider
for the amount of its query.
-/

namespace Shopping

open PaymentRecovery PaymentTasks TossWebhookService

/-! ## The provider -/

/-- The payment object is the one of this charge. -/
def isChargeOf (r : ConfirmRequest) (data : TossPayment) : Bool :=
  decide (data.paymentKey = some r.paymentKey) && matchesCharge data r.orderId r.amount

/-- A lookup shows a payment as approved only when it is. -/
def isTruthful (approved : List ConfirmRequest) (data : TossPayment) : Bool :=
  !(decide (data.status = some .done) || decide (data.status = some .waitingForDeposit)) ||
    approved.any fun r => isChargeOf r data

/-- A confirmation is answered for the charge that was asked for. -/
def confirmsAsked (approved : List ConfirmRequest) (r : ConfirmRequest)
    (toss : Except TossPaymentError TossPayment) : Bool :=
  match toss with
  | .error _ => true
  | .ok data => decide (r ∈ approved) && isChargeOf r data

/-! ## The till -/

/-- What `PaymentConfirmView` knows after the validation. -/
structure ConfirmView where
  payment : Nat
  order : OrderId
  paymentKey : String
  amount : Int
  user : UserId
  deriving DecidableEq, Repr

/-- The shop, the windows that customers opened, what the provider approved,
the confirm views after their validation, and the tasks of the confirmation. -/
structure Till where
  world : World
  windows : List ConfirmRequest := []
  approved : List ConfirmRequest := []
  views : List ConfirmView := []
  tasks : List Message := []

inductive TillEvent where
  /-- Any other event of the shop. -/
  | shop (e : Event)
  | openWindow (r : ConfirmRequest)
  | validateConfirm (o : OrderId) (paymentKey : String) (amount : Int) (user : UserId)
  /-- `confirm_payment_async` after the n-th validation. -/
  | confirm (n : Nat) (published : Bool)
  /-- `payment_success` with the three parameters of `r`. -/
  | paymentSuccess (r : ConfirmRequest) (user : UserId) (approves : Bool)
      (toss : Except TossPaymentError TossPayment)
  /-- Delivers the n-th task. -/
  | runTask (n : Nat) (d : Delivery) (approves : Bool)
  /-- A webhook whose lookup found `data`. -/
  | webhook (id : TossOrderId) (data : TossPayment)
  /-- `reconcile_stalled_payments` with the answers for the keys. -/
  | reconcile (stall : Time) (answers : List (String × TossPayment))

/-- No error is taken for a response. -/
theorem refusedDecision_ne_finalize {e : TossPaymentError} {retriesLeft : Bool}
    {response : TossPayment} {reconciled : Option String} :
    refusedDecision e retriesLeft ≠ .finalize response reconciled := by
  unfold refusedDecision
  dsimp only
  repeat' split
  all_goals exact fun h => by cases h

namespace Till

/-- The provider approves what it was asked, or does not. -/
def approve (s : Till) (approves : Bool) (r : ConfirmRequest) : Till :=
  if approves then { s with approved := r :: s.approved } else s

/-- `payment_success` comes as far as the provider. -/
def asksProvider (s : Till) (r : ConfirmRequest) : Bool :=
  (s.world.db.payments.ofTossOrderId? r.orderId).any fun e => e.2.status.admitsConfirm

/-- One execution of a task. -/
def runTask (s : Till) (now : Time) (d : Delivery) (approves : Bool) : Message → Till
  | .confirm key o amount id k user =>
    let asked := s.approve approves ⟨key, id, amount⟩
    let out := callTossConfirmApi s.world.db o amount id k user d.answer d.retriesLeft d.published
    { asked with world := s.world.commit out.db out.sent, tasks := s.tasks ++ out.sent }
  | .finalize response k user =>
    match finalizePaymentConfirm s.world.db now response k user d.published with
    | .ok out => { s with world := s.world.commit out.db out.sent }
    | .error _ =>
      if d.retriesLeft then s
      else { s with world := s.world.commit (alertFinalizeExhausted s.world.db k) }
  | _ => s

/-- The lookup of the reconciliation. -/
def lookupIn (answers : List (String × TossPayment)) (key : String) :
    Except TossPaymentError TossPayment :=
  match answers.lookup key with
  | none => .error ⟨"NETWORK_ERROR", "", 0⟩
  | some data => .ok data

/-- What happens in one event. -/
def run (s : Till) (now : Time) : TillEvent → Till
  | .shop e => { s with world := s.world.run now e }
  | .openWindow r => { s with windows := r :: s.windows }
  | .validateConfirm o paymentKey amount user =>
    match PaymentViews.validateConfirm s.world.db o amount user with
    | .error _ => s
    | .ok k => { s with views := s.views ++ [⟨k, o, paymentKey, amount, user⟩] }
  | .confirm n published =>
    match s.views[n]? with
    | none => s
    | some v =>
      match PaymentService.confirmPaymentAsync s.world.db now v.payment v.paymentKey v.order
          v.amount v.user published with
      | .error _ => s
      | .ok out =>
        { s with world := s.world.commit out.db out.sent, tasks := s.tasks ++ out.sent }
  | .paymentSuccess r user approves toss =>
    let asked := s.approve (approves && s.asksProvider r) r
    match PaymentViews.paymentSuccess s.world.db now r.orderId user toss with
    | .error _ => asked
    | .ok out => { asked with world := s.world.commit out.2 }
  | .runTask n d approves =>
    match s.tasks[n]? with
    | none => s
    | some m => s.runTask now d approves m
  | .webhook id data =>
    if data.orderId = some id ∧ data.status = some .done then
      match handlePaymentDone s.world.db now data with
      | .error _ => s
      | .ok out => { s with world := s.world.commit out.2 }
    else s
  | .reconcile stall answers =>
    let out := reconcileStalledPayments s.world.db now stall (lookupIn answers)
    { s with world := s.world.commit out.1 out.2, tasks := s.tasks ++ out.2 }

def step (s : Till) (e : Time × TillEvent) : Option Till := some (s.run e.1 e.2)

/-- The event is one of the four routes, which the till has on its own. -/
def isRoute (w : World) : Event → Bool
  | .confirmAsync .. | .confirmSync .. | .webhookDone .. | .reconcile .. => true
  | .deliver n _ =>
    match w.messages[n]? with
    | some (.confirm ..) | some (.finalize ..) => true
    | _ => false
  | _ => false

/-- The provider approves a key for its window alone, and tells the truth. -/
def allowed (s : Till) : TillEvent → Bool
  | .shop e => !isRoute s.world e
  | .paymentSuccess r _ approves toss =>
    (!approves || decide (r ∈ s.windows)) &&
      confirmsAsked (s.approve (approves && s.asksProvider r) r).approved r toss
  | .runTask n d approves =>
    match s.tasks[n]? with
    | some (.confirm key _ amount id _ _) =>
      let r : ConfirmRequest := ⟨key, id, amount⟩
      let approved := (s.approve approves r).approved
      (!approves || decide (r ∈ s.windows)) &&
        match d.answer with
        | .confirmed response => confirmsAsked approved r (.ok response)
        | .refused _ (.ok data) => isTruthful approved data
        | _ => true
    | _ => true
  | .webhook _ data => isTruthful s.approved data
  | .reconcile _ answers => answers.all fun a => isTruthful s.approved a.2
  | _ => true

/-- `payment_success` is called with the amount of the payment. -/
def paysPrice (s : Till) : TillEvent → Bool
  | .paymentSuccess r _ _ _ =>
    (s.world.db.payments.ofTossOrderId? r.orderId).all fun e => decide (e.2.amount = r.amount)
  | _ => true

@[simp] theorem approve_world (s : Till) (approves : Bool) (r : ConfirmRequest) :
    (s.approve approves r).world = s.world := by
  unfold approve
  split
  · rfl
  · rfl

@[simp] theorem approve_tasks (s : Till) (approves : Bool) (r : ConfirmRequest) :
    (s.approve approves r).tasks = s.tasks := by
  unfold approve
  split
  · rfl
  · rfl

/-! ## What the routes find -/

theorem ofTossOrderId?_id {t : PaymentTable} {id : TossOrderId} {k : Nat} {p : Payment}
    (h : t.ofTossOrderId? id = some (k, p)) : p.tossOrderId = id :=
  of_decide_eq_true (Table.find?_eq_some_get h).2

/-- The validation compares the amount with the payment. -/
theorem validateConfirm_ok {db : Db} {o : OrderId} {amount : Int} {user : UserId} {k : Nat}
    (h : PaymentViews.validateConfirm db o amount user = .ok k) :
    ∃ p, db.payments.get? k = some p ∧ p.amount = amount := by
  unfold PaymentViews.validateConfirm at h
  split at h
  · cases h
  · rename_i j p hof
    split at h
    · cases h
    · split at h
      · cases h
      · split at h
        · cases h
        · rename_i hamount
          cases h
          rw [Option.filter_eq_some_iff] at hof
          exact ⟨p, (PaymentTable.ofOrder?_eq_some.mp hof.1).1, not_not.mp hamount⟩

/-- The task goes on with a response that the provider gave to it: to the
confirmation, or to the lookup, where the task checks it. -/
theorem callTossConfirmApi_sends {db : Db} {o : OrderId} {amount : Int} {id : TossOrderId} {k : Nat}
    {user : UserId} {answer : TossAnswer} {retriesLeft published : Bool} {m : Message}
    (hm : m ∈ (callTossConfirmApi db o amount id k user answer retriesLeft published).sent) :
    (∃ reason, m = .rollback o reason) ∨ ∃ response, m = .finalize response k user ∧
      (answer = .confirmed response ∨
        ∃ e, answer = .refused e (.ok response) ∧ confirmsCharge response id amount = true) := by
  unfold callTossConfirmApi at hm
  cases hdecision : confirmDecision id amount retriesLeft answer with
  | finalize response reconciled =>
    rw [hdecision] at hm
    refine Or.inr ⟨response, List.mem_singleton.mp hm, ?_⟩
    unfold confirmDecision at hdecision
    split at hdecision
    · cases hdecision
      exact Or.inl rfl
    · split at hdecision
      · cases hdecision
      · cases hdecision
    · split at hdecision
      · split at hdecision
        · split at hdecision
          · cases hdecision
          · cases hdecision
        · split at hdecision
          · rename_i hconfirms
            cases hdecision
            exact Or.inr ⟨_, rfl, hconfirms⟩
          · exact absurd hdecision refusedDecision_ne_finalize
      · exact absurd hdecision refusedDecision_ne_finalize
  | retry log =>
    rw [hdecision] at hm
    cases hm
  | unresolved log =>
    rw [hdecision] at hm
    cases hm
  | abort log reason =>
    rw [hdecision] at hm
    dsimp only at hm
    split at hm
    · exact Or.inl ⟨reason, List.mem_singleton.mp hm⟩
    · cases hm

/-- The reconciliation goes on with what its lookup found. -/
theorem reconcileLoop_sends (lookup : String → Except TossPaymentError TossPayment)
    (rows : List (Nat × Payment)) (db : Db) :
    ∀ m ∈ (reconcileLoop lookup db rows).2, ∃ key data k p user, lookup key = .ok data ∧
      (k, p) ∈ rows ∧ confirmsCharge data p.tossOrderId p.amount = true ∧
      m = .finalize data k user := by
  have htail : ∀ {row : Nat × Payment} {rest : List (Nat × Payment)} {db' : Db},
      (∀ m ∈ (reconcileLoop lookup db' rest).2, ∃ key data k p user, lookup key = .ok data ∧
        (k, p) ∈ rest ∧ confirmsCharge data p.tossOrderId p.amount = true ∧
        m = .finalize data k user) →
      ∀ m ∈ (reconcileLoop lookup db' rest).2, ∃ key data k p user, lookup key = .ok data ∧
        (k, p) ∈ row :: rest ∧ confirmsCharge data p.tossOrderId p.amount = true ∧
        m = .finalize data k user := by
    intro row rest db' h m hm
    obtain ⟨key, data, k, p, user, hl, hrow, hrest⟩ := h m hm
    exact ⟨key, data, k, p, user, hl, List.mem_cons_of_mem _ hrow, hrest⟩
  induction rows generalizing db with
  | nil =>
    intro m hm
    cases hm
  | cons row rest ih =>
    obtain ⟨k, p⟩ := row
    unfold reconcileLoop
    split
    · exact htail (ih _)
    · rename_i key hkey
      split
      · split
        · exact htail (ih _)
        · exact htail (ih _)
      · rename_i data hlookup
        split
        · rename_i hconfirms
          dsimp only
          split
          · exact htail (ih _)
          · rename_i order _
            intro m hm
            rcases List.mem_cons.mp hm with rfl | hm
            · exact ⟨key, data, k, p, order.user, hlookup, List.mem_cons_self, hconfirms, rfl⟩
            · exact htail (ih _) m hm
        · exact htail (ih _)

/-- A lookup that confirms a charge shows an approval of its order number. -/
theorem approved_of_lookup {approved : List ConfirmRequest} {data : TossPayment} {id : TossOrderId}
    {amount : Int} (htruthful : isTruthful approved data = true)
    (hconfirms : confirmsCharge data id amount = true) :
    ∃ r ∈ approved, isChargeOf r data = true ∧ r.orderId = id := by
  simp only [confirmsCharge, matchesCharge, Bool.and_eq_true, Bool.or_eq_true,
    decide_eq_true_eq] at hconfirms
  obtain ⟨hstatus, hid, _⟩ := hconfirms
  have hany : approved.any (fun r => isChargeOf r data) = true := by
    unfold isTruthful at htruthful
    rcases hstatus with hstatus | hstatus
    · simpa [hstatus] using htruthful
    · simpa [hstatus] using htruthful
  obtain ⟨r, hr, hcharge⟩ := List.any_eq_true.mp hany
  refine ⟨r, hr, hcharge, ?_⟩
  simp only [isChargeOf, matchesCharge, Bool.and_eq_true, decide_eq_true_eq] at hcharge
  have hsame := hcharge.2.1
  rw [hid] at hsame
  exact (Option.some.inj hsame).symm

/-! ## Everything is at its price -/

/-- The invariant.  `ident` is the order number that a payment key of the shop
is for; a key is never used for another one. -/
structure Priced (ident : Nat → TossOrderId) (s : Till) : Prop where
  charges : Charged (fun k id amount => ident k = id ∧ PriceOf s.world.db id amount) s.world
  bounded : ∀ seen ∈ s.world.failureReads, seen.row.1 < s.world.db.payments.table.next
  requests : ∀ request ∈ s.world.paymentRequests,
    PriceOf s.world.db (.orderNumber request.orderId) request.order.finalAmount
  approved : ∀ r ∈ s.approved, PriceOf s.world.db r.orderId r.amount
  views : ∀ v ∈ s.views, v.payment < s.world.db.payments.table.next ∧
    PriceOf s.world.db (ident v.payment) v.amount
  confirms : ∀ key o amount id k user, .confirm key o amount id k user ∈ s.tasks →
    k < s.world.db.payments.table.next ∧ ident k = id ∧ PriceOf s.world.db id amount
  finals : ∀ response k user, .finalize response k user ∈ s.tasks →
    k < s.world.db.payments.table.next ∧
      ∃ r ∈ s.approved, isChargeOf r response = true ∧ r.orderId = ident k

/-- Before the first payment. -/
structure Fresh (s : Till) : Prop where
  payments : ∀ k, s.world.db.payments.get? k = none
  failureReads : s.world.failureReads = []
  paymentRequests : s.world.paymentRequests = []
  approved : s.approved = []
  views : s.views = []
  tasks : s.tasks = []

theorem Fresh.priced {s : Till} (h : s.Fresh) : Priced (fun _ => .points 0) s where
  charges := by
    refine ⟨fun k p hp => ?_, fun seen hseen => ?_⟩
    · rw [h.payments k] at hp
      cases hp
    · rw [h.failureReads] at hseen
      cases hseen
  bounded seen hseen := by simp [h.failureReads] at hseen
  requests request hr := by simp [h.paymentRequests] at hr
  approved r hr := by simp [h.approved] at hr
  views v hv := by simp [h.views] at hv
  confirms _ _ _ _ _ _ hm := by simp [h.tasks] at hm
  finals _ _ _ hm := by simp [h.tasks] at hm

namespace Priced

variable {ident : Nat → TossOrderId} {s : Till} {now : Time}

/-- The rest of the till, at a later database that keeps the prices. -/
theorem later (h : Priced ident s) {w : World} {ident' : Nat → TossOrderId}
    (hident : ∀ k < s.world.db.payments.table.next, ident' k = ident k)
    (hnext : s.world.db.payments.table.next ≤ w.db.payments.table.next)
    (hprice : ∀ id amount, PriceOf s.world.db id amount → PriceOf w.db id amount)
    (hcharges : Charged (fun k id amount => ident' k = id ∧ PriceOf w.db id amount) w)
    (hbounded : ∀ seen ∈ w.failureReads, seen.row.1 < w.db.payments.table.next)
    (hrequests : ∀ request ∈ w.paymentRequests,
      PriceOf w.db (.orderNumber request.orderId) request.order.finalAmount) :
    Priced ident' { s with world := w } := by
  refine ⟨hcharges, hbounded, hrequests, fun r hr => hprice _ _ (h.approved r hr), fun v hv => ?_,
    fun key o amount id k user hm => ?_, fun response k user hm => ?_⟩
  · obtain ⟨hlt, hp⟩ := h.views v hv
    rw [hident _ hlt]
    exact ⟨lt_of_lt_of_le hlt hnext, hprice _ _ hp⟩
  · obtain ⟨hlt, hid, hp⟩ := h.confirms key o amount id k user hm
    exact ⟨lt_of_lt_of_le hlt hnext, (hident k hlt).trans hid, hprice _ _ hp⟩
  · obtain ⟨hlt, r, hr, hcharge, hid⟩ := h.finals response k user hm
    exact ⟨lt_of_lt_of_le hlt hnext, r, hr, hcharge, hid.trans (hident k hlt).symm⟩

/-- A function of the shop that keeps the prices. -/
theorem commit (h : Priced ident s) {db : Db} (hk : KeepsPrices s.world.db db)
    (sent : List Message) : Priced ident { s with world := s.world.commit db sent } := by
  have hprice : ∀ id amount, PriceOf s.world.db id amount → PriceOf db id amount :=
    fun _ _ => hk.totals.priceOf
  refine h.later (fun _ _ => rfl) hk.charges.next hprice ⟨?_, fun seen hseen => ?_⟩
    (fun seen hseen => lt_of_lt_of_le (h.bounded seen hseen) hk.charges.next)
    fun request hr => hprice _ _ (h.requests request hr)
  · refine hk.charges.all fun k p hp => ?_
    obtain ⟨hid, hpr⟩ := h.charges.rows k p hp
    exact ⟨hid, hprice _ _ hpr⟩
  · obtain ⟨hid, hpr⟩ := h.charges.reads seen hseen
    exact ⟨hid, hprice _ _ hpr⟩

/-- The order number of the row that an event creates, if it does. -/
def newId (w : World) : Event → Option TossOrderId
  | .createRequest n _ _ => (w.paymentRequests[n]?).map fun r => .orderNumber r.orderId
  | .completePointsOnly n _ => (w.orderReads[n]?).map fun seen => .points seen.1
  | _ => none

/-- Any other event of the shop. -/
theorem shop (h : Priced ident s) (e : Event) :
    ∃ ident', Priced ident' { s with world := s.world.run now e } := by
  let next := s.world.db.payments.table.next
  let ident' : Nat → TossOrderId := fun k =>
    if k = next then (newId s.world e).getD (ident k) else ident k
  have hident : ∀ k < next, ident' k = ident k := fun k hk => if_neg (Nat.ne_of_lt hk)
  have hnew : ∀ {id : TossOrderId}, newId s.world e = some id → ident' next = id := by
    intro id hid
    simp [ident', hid]
  obtain ⟨hnext, htotals⟩ := World.run_totals s.world now e
  have hprice : ∀ id amount,
      PriceOf s.world.db id amount → PriceOf (s.world.run now e).db id amount :=
    fun _ _ => htotals.priceOf
  refine ⟨ident', h.later hident hnext hprice ?_ (fun seen hseen => ?_) fun request hr => ?_⟩
  · refine (World.run_charges ⟨fun k p hp => ?_, fun seen hseen => ?_⟩ ?_).1
    · obtain ⟨hid, hpr⟩ := h.charges.rows k p hp
      exact ⟨(hident k (Table.lt_next hp)).trans hid, hprice _ _ hpr⟩
    · obtain ⟨hid, hpr⟩ := h.charges.reads seen hseen
      exact ⟨(hident _ (h.bounded seen hseen)).trans hid, hprice _ _ hpr⟩
    · cases e with
      | createRequest n method key =>
        intro request hr
        have hprice' := h.requests request (List.mem_of_getElem? hr)
        exact ⟨hnew (by simp [newId, hr]), hprice _ _ hprice'⟩
      | completePointsOnly n user =>
        intro seen hseen
        exact ⟨hnew (by simp [newId, hseen]), rfl⟩
      | _ => trivial
  · rcases World.run_readsRows s.world now e seen hseen with hseen | hget
    · exact lt_of_lt_of_le (h.bounded seen hseen) hnext
    · exact lt_of_lt_of_le (Table.lt_next hget) hnext
  · rcases World.run_paymentRequests s.world e request hr with hr | hget
    · exact hprice _ _ (h.requests request hr)
    · have hprice' : PriceOf s.world.db (.orderNumber request.orderId) request.order.finalAmount :=
        ⟨_, hget, rfl⟩
      exact hprice _ _ hprice'

/-- The provider approves a charge at its price. -/
theorem approve (h : Priced ident s) (approves : Bool) {r : ConfirmRequest}
    (hr : approves = true → PriceOf s.world.db r.orderId r.amount) :
    Priced ident (s.approve approves r) := by
  unfold Till.approve
  split
  · rename_i happroves
    refine ⟨h.charges, h.bounded, h.requests, fun r' hr' => ?_, h.views, h.confirms,
      fun response k user hm => ?_⟩
    · rcases List.mem_cons.mp hr' with rfl | hr'
      · exact hr happroves
      · exact h.approved r' hr'
    · obtain ⟨hlt, r', hr', hrest⟩ := h.finals response k user hm
      exact ⟨hlt, r', List.mem_cons_of_mem _ hr', hrest⟩
  · exact h

/-- New tasks, whose charges are right. -/
theorem enqueue (h : Priced ident s) {sent : List Message}
    (hconfirms : ∀ key o amount id k user, .confirm key o amount id k user ∈ sent →
      k < s.world.db.payments.table.next ∧ ident k = id ∧ PriceOf s.world.db id amount)
    (hfinals : ∀ response k user, .finalize response k user ∈ sent →
      k < s.world.db.payments.table.next ∧
        ∃ r ∈ s.approved, isChargeOf r response = true ∧ r.orderId = ident k) :
    Priced ident { s with tasks := s.tasks ++ sent } := by
  refine ⟨h.charges, h.bounded, h.requests, h.approved, h.views,
    fun key o amount id k user hm => ?_, fun response k user hm => ?_⟩
  · rcases List.mem_append.mp hm with hm | hm
    · exact h.confirms key o amount id k user hm
    · exact hconfirms key o amount id k user hm
  · rcases List.mem_append.mp hm with hm | hm
    · exact h.finals response k user hm
    · exact hfinals response k user hm

/-- The key of a row and its charge. -/
theorem row (h : Priced ident s) {k : Nat} {p : Payment}
    (hget : s.world.db.payments.get? k = some p) : k < s.world.db.payments.table.next ∧
      ident k = p.tossOrderId ∧ PriceOf s.world.db p.tossOrderId p.amount :=
  ⟨Table.lt_next hget, h.charges.rows k p hget⟩

theorem validateConfirm (h : Priced ident s) {o : OrderId} {paymentKey : String} {amount : Int}
    {user : UserId} : Priced ident (s.run now (.validateConfirm o paymentKey amount user)) := by
  simp only [Till.run]
  cases hvalid : PaymentViews.validateConfirm s.world.db o amount user with
  | error _ => exact h
  | ok k =>
    obtain ⟨p, hget, rfl⟩ := validateConfirm_ok hvalid
    obtain ⟨hlt, hid, hprice⟩ := h.row hget
    refine ⟨h.charges, h.bounded, h.requests, h.approved, fun v hv => ?_, h.confirms, h.finals⟩
    rcases List.mem_append.mp hv with hv | hv
    · exact h.views v hv
    · cases List.mem_singleton.mp hv
      refine ⟨hlt, ?_⟩
      rw [hid]
      exact hprice

/-- The confirm view hands over the amount that it validated. -/
theorem confirm (h : Priced ident s) {n : Nat} {published : Bool} :
    Priced ident (s.run now (.confirm n published)) := by
  simp only [Till.run]
  cases hview : s.views[n]? with
  | none => exact h
  | some v =>
    dsimp only
    cases hout : PaymentService.confirmPaymentAsync s.world.db now v.payment v.paymentKey v.order
        v.amount v.user published with
    | error _ => exact h
    | ok out =>
      obtain ⟨hlt, hprice⟩ := h.views v (List.mem_of_getElem? hview)
      obtain ⟨p, saved, hget, _, _, _, _, hsent⟩ := PaymentService.confirmPaymentAsync_ok hout
      obtain ⟨_, hid, _⟩ := h.row hget
      have hk := PaymentService.confirmPaymentAsync_prices hout
      refine (h.commit hk out.sent).enqueue (fun key o amount id k user hm => ?_)
        fun response k user hm => ?_
      · rw [hsent] at hm
        split at hm
        · cases List.mem_singleton.mp hm
          refine ⟨lt_of_lt_of_le hlt hk.charges.next, hid, hk.totals.priceOf ?_⟩
          rw [← hid]
          exact hprice
        · cases hm
      · rw [hsent] at hm
        split at hm
        · cases List.mem_singleton.mp hm
        · cases hm

/-- The callback asks for the amount of its query, which is the one of the
payment. -/
theorem asked (h : Priced ident s) {r : ConfirmRequest} {user : UserId} {approves : Bool}
    {toss : Except TossPaymentError TossPayment}
    (hpays : s.paysPrice (.paymentSuccess r user approves toss) = true) :
    Priced ident (s.approve (approves && s.asksProvider r) r) := by
  refine h.approve _ fun hasks => ?_
  rw [Bool.and_eq_true] at hasks
  obtain ⟨⟨k, p⟩, hof, _⟩ := (Option.any_eq_true _ _).mp hasks.2
  have hamount : p.amount = r.amount := by simpa [Till.paysPrice, hof] using hpays
  obtain ⟨_, _, hprice⟩ := h.row (PaymentTable.ofTossOrderId?_get hof)
  rw [ofTossOrderId?_id hof, hamount] at hprice
  exact hprice

theorem paymentSuccess (h : Priced ident s) {r : ConfirmRequest} {user : UserId} {approves : Bool}
    {toss : Except TossPaymentError TossPayment}
    (hpays : s.paysPrice (.paymentSuccess r user approves toss) = true) :
    Priced ident (s.run now (.paymentSuccess r user approves toss)) := by
  have hasked := h.asked hpays
  simp only [Till.run]
  cases hout : PaymentViews.paymentSuccess s.world.db now r.orderId user toss with
  | error _ => exact hasked
  | ok out =>
    have hk : KeepsPrices s.world.db out.2 := by
      unfold PaymentViews.paymentSuccess at hout
      split at hout
      · cases hout
      · exact PaymentService.confirmPaymentSync_prices hout
    rw [← approve_world s (approves && s.asksProvider r) r] at hk
    have hcommit := hasked.commit hk []
    rw [approve_world] at hcommit
    exact hcommit

/-- The task that asks the provider. -/
theorem runConfirm (h : Priced ident s) {n : Nat} {d : Delivery} {approves : Bool} {key : String}
    {o : OrderId} {amount : Int} {id : TossOrderId} {k : Nat} {user : UserId}
    (hm : s.tasks[n]? = some (.confirm key o amount id k user))
    (hallowed : s.allowed (.runTask n d approves) = true) :
    Priced ident (s.runTask now d approves (.confirm key o amount id k user)) := by
  obtain ⟨hlt, hid, hprice⟩ := h.confirms key o amount id k user (List.mem_of_getElem? hm)
  have hasked : Priced ident (s.approve approves ⟨key, id, amount⟩) := h.approve _ fun _ => hprice
  have hk : KeepsPrices (s.approve approves ⟨key, id, amount⟩).world.db
      (callTossConfirmApi s.world.db o amount id k user d.answer d.retriesLeft d.published).db := by
    rw [approve_world]
    exact callTossConfirmApi_prices _ _ _ _ _ _
  have hcommit := hasked.commit hk
    (callTossConfirmApi s.world.db o amount id k user d.answer d.retriesLeft d.published).sent
  rw [approve_world] at hcommit hk
  simp only [Till.allowed, hm, Bool.and_eq_true] at hallowed
  have hnext : k < (callTossConfirmApi s.world.db o amount id k user d.answer d.retriesLeft
      d.published).db.payments.table.next := lt_of_lt_of_le hlt hk.charges.next
  rw [approve_tasks] at hcommit
  refine hcommit.enqueue (fun key' o' amount' id' k' user' hm' => ?_)
    fun response k' user' hm' => ?_
  · rcases callTossConfirmApi_sends hm' with ⟨_, hc⟩ | ⟨_, hc, _⟩
    · cases hc
    · cases hc
  · rcases callTossConfirmApi_sends hm' with ⟨_, hc⟩ | ⟨response', hc, hanswer⟩
    · cases hc
    · cases hc
      refine ⟨hnext, ?_⟩
      rcases hanswer with hanswer | ⟨e, hanswer, hconfirms⟩
      · have hasks := hallowed.2
        rw [hanswer] at hasks
        simp only [confirmsAsked, Bool.and_eq_true, decide_eq_true_eq] at hasks
        exact ⟨_, hasks.1, hasks.2, hid.symm⟩
      · have htruthful := hallowed.2
        rw [hanswer] at htruthful
        obtain ⟨r, hr, hcharge, hrid⟩ := approved_of_lookup htruthful hconfirms
        exact ⟨r, hr, hcharge, hrid.trans hid.symm⟩

/-- The task that finalises. -/
theorem runFinalize (h : Priced ident s) (d : Delivery) (approves : Bool) (response : TossPayment)
    (k : Nat) (user : UserId) :
    Priced ident (s.runTask now d approves (.finalize response k user)) := by
  simp only [Till.runTask]
  cases hout : finalizePaymentConfirm s.world.db now response k user d.published with
  | ok out => exact h.commit (finalizePaymentConfirm_prices hout) out.sent
  | error _ =>
    dsimp only
    split
    · exact h
    · exact h.commit (alertFinalizeExhausted_movesPoints _ _).prices []

theorem reconcile (h : Priced ident s) {stall : Time} {answers : List (String × TossPayment)}
    (hallowed : s.allowed (.reconcile stall answers) = true) :
    Priced ident (s.run now (.reconcile stall answers)) := by
  have hk : KeepsPrices s.world.db
      (reconcileStalledPayments s.world.db now stall (lookupIn answers)).1 :=
    (reconcileLoop_spec (lookupIn answers) _ s.world.db).1.prices
  refine (h.commit hk _).enqueue (fun key o amount id k user hm => ?_) fun response k user hm => ?_
  · obtain ⟨_, _, _, _, _, _, _, _, hc⟩ := reconcileLoop_sends (lookupIn answers) _ _ _ hm
    cases hc
  · obtain ⟨key, data, j, p, u, hlookup, hrow, hconfirms, hc⟩ :=
      reconcileLoop_sends (lookupIn answers) _ _ _ hm
    cases hc
    obtain ⟨hget, _⟩ := Table.mem_select.mp hrow
    obtain ⟨hlt, hid, _⟩ := h.row hget
    refine ⟨lt_of_lt_of_le hlt hk.charges.next, ?_⟩
    have htruthful : isTruthful s.approved response = true := by
      unfold lookupIn at hlookup
      split at hlookup
      · cases hlookup
      · rename_i found hfound
        cases hlookup
        have hall : answers.all (fun a => isTruthful s.approved a.2) = true := hallowed
        obtain ⟨before, after, hanswers, _⟩ := List.lookup_eq_some_iff.mp hfound
        refine List.all_eq_true.mp hall (key, response) ?_
        rw [hanswers]
        exact List.mem_append_right _ List.mem_cons_self
    obtain ⟨r, hr, hcharge, hrid⟩ := approved_of_lookup htruthful hconfirms
    exact ⟨r, hr, hcharge, hrid.trans hid.symm⟩

/-- Every event of the till keeps everything at its price. -/
theorem step (h : Priced ident s) {e : TillEvent} (hallowed : s.allowed e = true)
    (hpays : s.paysPrice e = true) : ∃ ident', Priced ident' (s.run now e) := by
  cases e with
  | shop e => exact h.shop e
  | openWindow r =>
    exact ⟨ident, h.charges, h.bounded, h.requests, h.approved, h.views, h.confirms, h.finals⟩
  | validateConfirm o paymentKey amount user => exact ⟨ident, h.validateConfirm⟩
  | confirm n published => exact ⟨ident, h.confirm⟩
  | paymentSuccess r user approves toss => exact ⟨ident, h.paymentSuccess hpays⟩
  | runTask n d approves =>
    refine ⟨ident, ?_⟩
    simp only [Till.run]
    cases hm : s.tasks[n]? with
    | none => exact h
    | some m =>
      cases m with
      | confirm key o amount id k user => exact h.runConfirm hm hallowed
      | finalize response k user => exact h.runFinalize d approves response k user
      | _ => exact h
  | webhook id data =>
    refine ⟨ident, ?_⟩
    simp only [Till.run]
    split
    · cases hout : handlePaymentDone s.world.db now data with
      | error _ => exact h
      | ok out => exact h.commit (handlePaymentDone_prices hout) []
    · exact h
  | reconcile stall answers => exact ⟨ident, h.reconcile hallowed⟩

end Priced

/-! ## What settles an order -/

/-- The payment of the order is what the provider approved. -/
def PaidAsApproved (s : Till) (o : OrderId) : Prop :=
  ∃ k p r, s.world.db.payments.ofOrder? o = some (k, p) ∧ r ∈ s.approved ∧
    p.paymentKey = some r.paymentKey ∧ r.orderId = p.tossOrderId ∧ r.amount = p.amount

/-- The order becomes paid with the step from `db` to `db'`. -/
def Settles (db db' : Db) (o : OrderId) : Prop :=
  db.statusOf o ≠ some .paid ∧ db'.statusOf o = some .paid

theorem not_settles_of_orders {db db' : Db} (h : db'.orders = db.orders) (o : OrderId) :
    ¬ Settles db db' o := by
  rintro ⟨hbefore, hafter⟩
  rw [statusOf_of_orders h] at hafter
  exact hbefore hafter

/-- A payment that was settled with `data` and with it the order `o`. -/
structure SettledWith (db db' : Db) (data : TossPayment) (k : Nat) (p : Payment) (o : OrderId) :
    Prop where
  found : db.payments.get? k = some p
  order : p.order = o
  written : ∃ row, db'.payments.ofOrder? o = some (k, row) ∧ row.paymentKey = data.paymentKey ∧
    row.tossOrderId = p.tossOrderId ∧ row.amount = p.amount

/-- A save of what `mark_as_paid` wrote, with an update of the order of the
payment, settles that order alone. -/
theorem settledWith_of_save {db saved db' : Db} {now : Time} {k : Nat} {p row : Payment}
    {data : TossPayment} {o : OrderId} (hget : db.payments.get? k = some p)
    (hrow : p.markAsPaid now data = .ok row) (hsaved : db.savePayment k row = .ok saved)
    (hpayments : db'.payments = saved.payments)
    (hframe : ∀ i, i ≠ p.order → db'.statusOf i = db.statusOf i) (hs : Settles db db' o) :
    SettledWith db db' data k p o := by
  have horder : p.order = o := by
    by_contra hne
    refine hs.1 ?_
    rw [← hframe o (Ne.symm hne)]
    exact hs.2
  subst horder
  obtain ⟨hsave, _⟩ := savePayment_payments hsaved
  have hsame := (Payment.markAsPaid_spec hrow).2
  refine ⟨hget, rfl, row, ?_, Payment.markAsPaid_paymentKey hrow, hsame.tossOrderId, hsame.amount⟩
  rw [hpayments]
  refine PaymentTable.ofOrder?_eq_some.mpr ⟨?_, hsame.order⟩
  rw [PaymentTable.get?_save hsave, if_pos rfl]

theorem confirmPaymentSync_settles {db db' : Db} {now : Time} {k : Nat} {user : UserId}
    {toss : Except TossPaymentError TossPayment} {result : PaymentService.ConfirmResult}
    {o : OrderId} (h : PaymentService.confirmPaymentSync db now k user toss = .ok (result, db'))
    (hs : Settles db db' o) : ∃ data p, toss = .ok data ∧ SettledWith db db' data k p o := by
  obtain ⟨p, data, htoss, hget, _, hcase⟩ := PaymentService.confirmPaymentSync_ok h
  refine ⟨data, p, htoss, ?_⟩
  cases hcase with
  | waiting _ hsaved =>
    exact absurd hs (not_settles_of_orders (savePayment_payments hsaved).2.1 o)
  | paid horder hrow hsaved hearned =>
    rename_i order row saved earned
    have hmod := settled_orders hsaved order.items p.order row.method now user
    exact settledWith_of_save hget hrow hsaved hearned.payments
      (fun i hi => (hearned.statusOf i).trans (statusOf_modify_ne hmod hi)) hs

theorem finalizePaymentConfirm_settles {db : Db} {now : Time} {response : TossPayment} {k : Nat}
    {user : UserId} {published : Bool} {out : Outcome FinalizeResult} {o : OrderId}
    (h : finalizePaymentConfirm db now response k user published = .ok out)
    (hs : Settles db out.db o) : ∃ p, SettledWith db out.db response k p o := by
  obtain ⟨p, hget, hcase⟩ := finalizePaymentConfirm_ok h
  refine ⟨p, ?_⟩
  cases hcase with
  | alreadyProcessed _ => exact absurd hs (not_settles_of_orders rfl o)
  | waiting _ _ _ hsaved =>
    exact absurd hs (not_settles_of_orders (savePayment_payments hsaved).2.1 o)
  | orderCanceled _ _ _ _ _ hsaved =>
    exact absurd hs (not_settles_of_orders (savePayment_payments hsaved).2.1 o)
  | success hpaid hstatus horder hcanceled hrow hsaved =>
    rename_i order row saved
    have hmod := settled_orders hsaved order.items p.order row.method now user
    exact settledWith_of_save hget hrow hsaved (by simp)
      (fun i hi => statusOf_modify_ne hmod hi) hs

theorem handlePaymentDone_settles_with {db db' : Db} {now : Time} {event : TossPayment}
    {result : DoneResult} {o : OrderId} (h : handlePaymentDone db now event = .ok (result, db'))
    (hs : Settles db db' o) : ∃ id k p, event.orderId = some id ∧
      db.payments.ofTossOrderId? id = some (k, p) ∧ SettledWith db db' event k p o := by
  rcases handlePaymentDone_ok h with ⟨heq, _⟩ | ⟨id, k, p, hid, hof, hcase⟩
  · rw [heq] at hs
    exact absurd hs (not_settles_of_orders rfl o)
  · refine ⟨id, k, p, hid, hof, ?_⟩
    have hget := PaymentTable.ofTossOrderId?_get hof
    cases hcase with
    | alreadyPaid _ => exact absurd hs (not_settles_of_orders rfl o)
    | chargedButFailed _ => exact absurd hs (not_settles_of_orders rfl o)
    | finalState _ => exact absurd hs (not_settles_of_orders rfl o)
    | depositAfterExpiry _ => exact absurd hs (not_settles_of_orders rfl o)
    | chargedOnCanceledOrder _ _ _ _ hsaved =>
      exact absurd hs (not_settles_of_orders (by simp [(savePayment_payments hsaved).2.1]) o)
    | orderAlreadyPaid _ _ _ _ hsaved =>
      exact absurd hs (not_settles_of_orders (by simp [(savePayment_payments hsaved).2.1]) o)
    | settled hopen horder hcanceled hpaid hrow hsaved hearned =>
      rename_i order row saved earned
      have hmod := settled_orders hsaved order.items p.order (methodOrCard row.method) now
        order.user
      refine settledWith_of_save hget hrow hsaved (by simpa using hearned.payments)
        (fun i hi => ?_) hs
      have hmark : (markWebhookProcessed (earned.log k .webhook "결제 완료 웹훅 처리")
          now id .done).orders = earned.orders := by simp
      exact (statusOf_of_orders hmark i).trans ((hearned.statusOf i).trans
        (statusOf_modify_ne hmod hi))

/-- Besides the four routes, a payment with points alone settles an order. -/
theorem shop_settles {w : World} {now : Time} {e : Event} {o : OrderId}
    (hroute : isRoute w e = false) (hs : Settles w.db (w.run now e).db o) :
    ∃ n user, e = .completePointsOnly n user := by
  by_cases hfail : ∃ n published, e = .writeFailure n published
  · obtain ⟨n, published, rfl⟩ := hfail
    exact absurd hs (not_settles_of_orders (World.run_writeFailure_orders w now n published) o)
  · have hreads : ∀ n published, e = .writeFailure n published → ReadsKept w :=
      fun n published he => absurd ⟨n, published, he⟩ hfail
    have hbefore : (w.db.charge o).order ≠ some .paid := hs.1
    have hafter : ((w.run now e).db.charge o).order = some .paid := hs.2
    rcases World.run_refines now hreads with hsame | ⟨act, i, hdoes, hacts⟩
    · rw [hsame o] at hafter
      exact absurd hafter hbefore
    · by_cases hoi : o = i
      · subst hoi
        have hmove := hacts.move
        generalize w.db.charge o = c at hmove hbefore
        generalize (w.run now e).db.charge o = c' at hmove hafter
        cases hdoes with
        | pointsOnly _ => exact ⟨_, _, rfl⟩
        | confirmAsync _ => cases hroute
        | confirmSync _ => cases hroute
        | webhookDone => cases hroute
        | abort hmsg _ =>
          rw [isRoute, hmsg] at hroute
          cases hroute
        | finalize hmsg _ _ _ =>
          rw [isRoute, hmsg] at hroute
          cases hroute
        | customer _ hact =>
          rcases hact with rfl | rfl | rfl
          · cases hmove
            cases hafter
          · cases hmove
            cases hafter
          · cases hmove
            cases hafter
        | fail _ _ _ =>
          cases hmove
          exact absurd hafter hbefore
        | webhookWaiting =>
          cases hmove with
          | reverted => cases hafter
          | issued _ => exact absurd hafter hbefore
        | request _ _ =>
          cases hmove
          exact absurd hafter hbefore
        | completeRefund _ =>
          cases hmove with
          | pointsReturned hs' =>
            rcases hs' with rfl | rfl
            · exact absurd hafter hbefore
            · cases hafter
          | cashReturned hs' _ =>
            rcases hs' with rfl | rfl
            · exact absurd hafter hbefore
            · cases hafter
        | processOrder _ =>
          cases hmove with
          | orderConfirmed => cases hafter
          | orderFailed => cases hafter
        | _ =>
          cases hmove
          cases hafter
      · rw [hacts.frame o hoi] at hafter
        exact absurd hafter hbefore

/-- The task that asks the provider settles nothing. -/
theorem callTossConfirmApi_not_settles (db : Db) (o i : OrderId) (amount : Int) (id : TossOrderId)
    (k : Nat) (user : UserId) (answer : TossAnswer) (retriesLeft published : Bool) :
    ¬ Settles db (callTossConfirmApi db o amount id k user answer retriesLeft published).db i := by
  rintro ⟨hbefore, hafter⟩
  have hbefore : (db.charge i).order ≠ some .paid := hbefore
  have hafter : ((callTossConfirmApi db o amount id k user answer retriesLeft
      published).db.charge i).order = some .paid := hafter
  obtain ⟨_, hsame | ⟨_, hacts⟩⟩ :=
    callTossConfirmApi_follows db o amount id k user answer retriesLeft published
  · rw [hsame i] at hafter
    exact hbefore hafter
  · by_cases hi : i = o
    · subst hi
      have hmove := hacts.move
      generalize db.charge i = c at hmove hbefore
      generalize Db.charge _ i = c' at hmove hafter
      cases hmove
      exact hbefore hafter
    · rw [hacts.frame i hi] at hafter
      exact hbefore hafter

/-- What was settled with an approved charge of its order number. -/
theorem Priced.paidAsApproved {ident : Nat → TossOrderId} {s t : Till} (h : Priced ident s)
    {data : TossPayment} {k : Nat} {p : Payment} {o : OrderId} {r : ConfirmRequest}
    (hsettled : SettledWith s.world.db t.world.db data k p o) (hr : r ∈ t.approved)
    (hprice : PriceOf s.world.db r.orderId r.amount) (hcharge : isChargeOf r data = true)
    (hid : r.orderId = p.tossOrderId) : PaidAsApproved t o := by
  obtain ⟨hget, _, row, hof, hkey, hrowId, hrowAmount⟩ := hsettled
  obtain ⟨_, _, hpaid⟩ := h.row hget
  have hdata : data.paymentKey = some r.paymentKey := by
    simp only [isChargeOf, Bool.and_eq_true, decide_eq_true_eq] at hcharge
    exact hcharge.1
  have hamount : r.amount = p.amount := by
    rw [hid] at hprice
    exact hprice.unique hpaid
  exact ⟨k, row, r, hof, hr, hkey.trans hdata, hid.trans hrowId.symm,
    hamount.trans hrowAmount.symm⟩

theorem Priced.settles_task {ident : Nat → TossOrderId} {s : Till} (h : Priced ident s) {now : Time}
    {n : Nat} {d : Delivery} {approves : Bool} {m : Message} {o : OrderId}
    (hm : s.tasks[n]? = some m)
    (hs : Settles s.world.db (s.runTask now d approves m).world.db o) :
    PaidAsApproved (s.runTask now d approves m) o := by
  cases m with
  | confirm key i amount id k user =>
    exact absurd hs (callTossConfirmApi_not_settles _ _ _ _ _ _ _ _ _ _)
  | finalize response k user =>
    simp only [Till.runTask] at hs ⊢
    cases hout : finalizePaymentConfirm s.world.db now response k user d.published with
    | ok out =>
      rw [hout] at hs
      obtain ⟨p, hsettled⟩ := finalizePaymentConfirm_settles hout hs
      obtain ⟨_, r, hr, hcharge, hid⟩ := h.finals response k user (List.mem_of_getElem? hm)
      obtain ⟨_, hident, _⟩ := h.row hsettled.found
      exact h.paidAsApproved hsettled hr (h.approved r hr) hcharge (hid.trans hident)
    | error _ =>
      rw [hout] at hs
      refine absurd hs (not_settles_of_orders ?_ o)
      dsimp only
      split
      · rfl
      · exact (alertFinalizeExhausted_movesPoints s.world.db k).orders
  | _ => exact absurd hs (not_settles_of_orders rfl o)

/-- Whatever settles an order at its price settles it with an approval. -/
theorem Priced.settles {ident : Nat → TossOrderId} {s : Till} (h : Priced ident s) {now : Time}
    {e : TillEvent} {o : OrderId} (hallowed : s.allowed e = true) (hpays : s.paysPrice e = true)
    (htoss : ∀ n user, e ≠ .shop (.completePointsOnly n user))
    (hs : Settles s.world.db (s.run now e).world.db o) : PaidAsApproved (s.run now e) o := by
  cases e with
  | shop e =>
    have hroute : isRoute s.world e = false := by simpa [Till.allowed] using hallowed
    obtain ⟨n, user, rfl⟩ := shop_settles hroute hs
    exact absurd rfl (htoss n user)
  | openWindow r => exact absurd hs (not_settles_of_orders rfl o)
  | validateConfirm i paymentKey amount user =>
    refine absurd hs (not_settles_of_orders ?_ o)
    simp only [Till.run]
    split
    · rfl
    · rfl
  | confirm n published =>
    refine absurd hs (not_settles_of_orders ?_ o)
    simp only [Till.run]
    split
    · rfl
    · split
      · rfl
      · rename_i hout
        obtain ⟨_, saved, _, _, _, hsaved, hdb, _⟩ := PaymentService.confirmPaymentAsync_ok hout
        show Db.orders _ = _
        rw [World.commit_db, hdb]
        exact (savePayment_payments hsaved).2.1
  | paymentSuccess r user approves toss =>
    have hasked := h.asked hpays
    simp only [Till.run] at hs ⊢
    cases hout : PaymentViews.paymentSuccess s.world.db now r.orderId user toss with
    | error _ =>
      rw [hout] at hs
      exact absurd hs (not_settles_of_orders (by simp) o)
    | ok out =>
      rw [hout] at hs
      unfold PaymentViews.paymentSuccess at hout
      split at hout
      · cases hout
      · rename_i k p hof
        obtain ⟨data, q, rfl, hsettled⟩ := confirmPaymentSync_settles hout hs
        have hget := PaymentTable.ofTossOrderId?_get hof
        have hq : p = q := Option.some.inj (hget.symm.trans hsettled.found)
        subst hq
        simp only [Till.allowed, confirmsAsked, Bool.and_eq_true, decide_eq_true_eq] at hallowed
        obtain ⟨_, hr, hcharge⟩ := hallowed
        have hprice := hasked.approved r hr
        rw [approve_world] at hprice
        exact h.paidAsApproved hsettled hr hprice hcharge (ofTossOrderId?_id hof).symm
  | runTask n d approves =>
    simp only [Till.run] at hs ⊢
    cases hm : s.tasks[n]? with
    | none =>
      rw [hm] at hs
      exact absurd hs (not_settles_of_orders rfl o)
    | some m =>
      rw [hm] at hs
      exact h.settles_task hm hs
  | webhook id data =>
    simp only [Till.run] at hs ⊢
    split at hs
    · rename_i hdone
      rw [if_pos hdone]
      cases hout : handlePaymentDone s.world.db now data with
      | error _ =>
        rw [hout] at hs
        exact absurd hs (not_settles_of_orders rfl o)
      | ok out =>
        rw [hout] at hs
        obtain ⟨id', k, p, hid', hof, hsettled⟩ := handlePaymentDone_settles_with hout hs
        have hany : s.approved.any (fun r => isChargeOf r data) = true := by
          simpa [Till.allowed, isTruthful, hdone.2] using hallowed
        obtain ⟨r, hr, hcharge⟩ := List.any_eq_true.mp hany
        refine h.paidAsApproved hsettled hr (h.approved r hr) hcharge ?_
        simp only [isChargeOf, matchesCharge, Bool.and_eq_true, decide_eq_true_eq] at hcharge
        have hsame := hcharge.2.1
        rw [hid'] at hsame
        rw [ofTossOrderId?_id hof]
        exact (Option.some.inj hsame).symm
    · exact absurd hs (not_settles_of_orders rfl o)
  | reconcile stall answers =>
    refine absurd hs (not_settles_of_orders ?_ o)
    exact (reconcileLoop_spec (lookupIn answers) _ s.world.db).1.orders

/-- When `payment_success` is only called with the amount of the payment, every
order that Toss settles is settled with an approval of its payment and of the
payment's amount. -/
theorem paid_as_approved {s₀ s t : Till} {es : List (Time × TillEvent)} {e : Time × TillEvent}
    {o : OrderId} (hstart : s₀.Fresh)
    (hrun : Run Till.step (fun s e => (s.allowed e.2 && s.paysPrice e.2) = true) s₀ es s)
    (hok : (s.allowed e.2 && s.paysPrice e.2) = true) (hstep : Till.step s e = some t)
    (htoss : ∀ n user, e.2 ≠ .shop (.completePointsOnly n user))
    (hs : Settles s.world.db t.world.db o) : PaidAsApproved t o := by
  obtain ⟨ident, h⟩ : ∃ ident, Priced ident s := by
    refine hrun.invariant (fun s => ∃ ident, Priced ident s) ⟨_, hstart.priced⟩ ?_
    rintro u f v ⟨ident, hu⟩ hf hv
    rw [Bool.and_eq_true] at hf
    cases hv
    exact hu.step hf.1 hf.2
  rw [Bool.and_eq_true] at hok
  cases hstep
  exact h.settles hok.1 hok.2 htoss hs

/-! ## A payment for less

The order 1 of the user 7 costs 13000 and has no payment yet. -/

/-- The till before the payment request. -/
def start : Till :=
  { world := { db := { (World.shop .confirmed .ready).db with payments := PaymentTable.empty } } }

theorem start_fresh : start.Fresh where
  payments _ := rfl
  failureReads := rfl
  paymentRequests := rfl
  approved := rfl
  views := rfl
  tasks := rfl

/-- The customer requests the payment and opens a window for `amount`. -/
def opened (amount : Int) : List (Time × TillEvent) :=
  [(1, .shop (.validateRequest 1 7 false)), (2, .shop (.createRequest 0 "card" none)),
    (3, .openWindow ⟨"key", .orderNumber 1, amount⟩)]

/-- `payment_success` with the amount of the window, which Toss approves. -/
def success (amount : Int) : Time × TillEvent :=
  (4, .paymentSuccess ⟨"key", .orderNumber 1, amount⟩ 7 true
    (.ok { World.approval with totalAmount := some amount }))

/-- The order becomes paid, decided. -/
def settles (s t : Till) (o : OrderId) : Bool :=
  decide (s.world.db.statusOf o ≠ some .paid) && decide (t.world.db.statusOf o = some .paid)

theorem settles_spec {s t : Till} {o : OrderId} (h : settles s t o = true) :
    Settles s.world.db t.world.db o := by
  simp only [settles, Bool.and_eq_true, decide_eq_true_eq] at h
  exact h

theorem paid_as_approved_in_full : ∃ s t, Till.step s (success 13000) = some t ∧
    Settles s.world.db t.world.db 1 ∧ PaidAsApproved t 1 := by
  obtain ⟨s, hrun, hend⟩ := Run.exists_of_execIf (by decide +kernel :
    (execIf Till.step (fun s e => s.allowed e.2 && s.paysPrice e.2) start (opened 13000)).any
      (fun s => (s.allowed (success 13000).2 && s.paysPrice (success 13000).2) &&
        settles s (s.run 4 (success 13000).2) 1) = true)
  rw [Bool.and_eq_true] at hend
  have hs := settles_spec hend.2
  exact ⟨s, _, rfl, hs, paid_as_approved start_fresh hrun hend.1 rfl nofun hs⟩

/-- Toss approves 100 for a payment of 13000, as it was asked to, and the order
is paid. -/
theorem paid_with_less : ∃ s t,
    Run Till.step (fun s e => s.allowed e.2 = true) start (opened 100) s ∧
      s.allowed (success 100).2 = true ∧ Till.step s (success 100) = some t ∧
      Settles s.world.db t.world.db 1 ∧ ¬ PaidAsApproved t 1 := by
  obtain ⟨s, hrun, hend⟩ := Run.exists_of_execIf (by decide +kernel :
    (execIf Till.step (fun s e => s.allowed e.2) start (opened 100)).any
      (fun s => decide (s.allowed (success 100).2 = true ∧
        settles s (s.run (success 100).1 (success 100).2) 1 = true ∧
        (s.run (success 100).1 (success 100).2).approved = [⟨"key", .orderNumber 1, 100⟩] ∧
        ((s.run (success 100).1 (success 100).2).world.db.payments.ofOrder? 1).map
          (fun e => e.2.amount) = some 13000)) = true)
  obtain ⟨hallowed, hsettles, happroved, hamount⟩ := of_decide_eq_true hend
  refine ⟨s, _, hrun, hallowed, rfl, settles_spec hsettles, ?_⟩
  rintro ⟨k, p, r, hof, hr, _, _, hsame⟩
  rw [hof] at hamount
  rw [happroved, List.mem_singleton] at hr
  rw [hr] at hsame
  have hp : p.amount = 13000 := Option.some.inj hamount
  rw [hp] at hsame
  exact absurd hsame (by decide)

end Till

end Shopping
