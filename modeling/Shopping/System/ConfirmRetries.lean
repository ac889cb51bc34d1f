import Shopping.Charges.Refinement
import Shopping.System.World

/-!
# The confirm task over its retries

`call_toss_confirm_api` asks the provider to confirm a payment key, and again
on each retry.  `ConfirmTask` is the task together with the provider's side of
the key: the executions that are queued, each with its number of retries, and
whether the provider has approved.  A queued execution is never taken away, so
it can be delivered twice, late or never.

`tossAnswers` is what the provider may answer.  A key that was approved once is
never confirmed again, and a lookup tells the truth.
-/

namespace Shopping

open PaymentTasks

/-- `max_retries` of `call_toss_confirm_api`. -/
def confirmMaxRetries : Nat := 3

/-- The arguments of the task, and the payment that the chain finalises. -/
structure ConfirmCall where
  order : OrderId
  amount : Int
  tossOrderId : TossOrderId
  payment : Nat
  user : UserId
  deriving DecidableEq, Repr

/-! ## The provider -/

/-- A lookup that fails, or says whether the charge is approved. -/
def ConfirmCall.truthful (c : ConfirmCall) (approved : Bool) :
    Except TossPaymentError TossPayment → Bool
  | .error _ => true
  | .ok data => confirmsCharge data c.tossOrderId c.amount == approved

/-- The request or the answer got lost, or the provider had a failure of its
own; the codes of `TOSS_NON_RETRYABLE_ERRORS` come with 400 to 404. -/
def TossPaymentError.isTransport (e : TossPaymentError) : Bool :=
  decide (e.code = "NETWORK_ERROR") || decide (e.code = "TIMEOUT") ||
    decide (500 ≤ e.statusCode) && decide (e.code ∉ tossNonRetryableErrors)

/-- What the provider may answer to one execution.  `before` and `after` say
whether the key is approved when the execution starts and when it ends. -/
def ConfirmCall.tossAnswers (c : ConfirmCall) (before after : Bool) : TossAnswer → Bool
  | .confirmed response =>
    !before && (confirmsCharge response c.tossOrderId c.amount == after)
  | .softTimeLimitExceeded => !before || after
  | .refused e lookup =>
    c.truthful after lookup &&
      (if before then after && (e.isTransport || decide (e.code ∈ tossReconcileErrors))
       else !after || e.isTransport)

/-! ## The task -/

/-- An execution that came to its end: its number of retries, what the provider
answered, whether the key was approved by then, the database it found and what
it did. -/
structure Attempt where
  retries : Nat
  answer : TossAnswer
  approved : Bool
  before : Db
  out : Outcome ConfirmDecision

/-- The task and the provider's side of its payment key. -/
structure ConfirmTask where
  db : Db
  queue : List Nat := [0]
  approved : Bool := false
  attempts : List Attempt := []

/-- What can happen to the task. -/
inductive ConfirmEvent where
  /-- The n-th queued execution. -/
  | execute (n : Nat) (approved : Bool) (answer : TossAnswer) (published : Bool)
  /-- An execution that dies after its request; its message goes back. -/
  | lose (approved : Bool)
  /-- The rest of the shop writes. -/
  | write (db : Db)

namespace ConfirmTask

/-- The next state of the task. -/
def step (c : ConfirmCall) (s : ConfirmTask) : ConfirmEvent → Option ConfirmTask
  | .execute n approved answer published =>
    match s.queue[n]? with
    | none => none
    | some retries =>
      let out := callTossConfirmApi s.db c.order c.amount c.tossOrderId c.payment c.user answer
        (decide (retries < confirmMaxRetries)) published
      some
        { db := out.db
          queue := match out.result with
            | .retry _ => s.queue ++ [retries + 1]
            | _ => s.queue
          approved := approved
          attempts := s.attempts ++ [⟨retries, answer, approved, s.db, out⟩] }
  | .lose approved => some { s with approved := approved }
  | .write db => some { s with db := db }

/-- The provider answers as it may, and takes no approval back. -/
def allowed (c : ConfirmCall) (s : ConfirmTask) : ConfirmEvent → Bool
  | .execute _ approved answer _ => c.tossAnswers s.approved approved answer
  | .lose approved => !s.approved || approved
  | .write _ => true

end ConfirmTask

/-- The execution marks the payment aborted or publishes the rollback. -/
def Attempt.RollsBack (c : ConfirmCall) (a : Attempt) : Prop :=
  a.out.db.payments ≠ a.before.payments ∨ ∃ reason, .rollback c.order reason ∈ a.out.sent

/-! ## One execution -/

/-- Only an execution that gives up with `.abort` touches the payment or
publishes the rollback. -/
theorem abort_of_rollsBack {c : ConfirmCall} {a : Attempt} {left published : Bool}
    (hout : a.out = callTossConfirmApi a.before c.order c.amount c.tossOrderId c.payment c.user
      a.answer left published) (h : a.RollsBack c) :
    ∃ log reason, confirmDecision c.tossOrderId c.amount left a.answer = .abort log reason := by
  have hlog : ∀ lt m, (logOnPayment a.before c.order lt m).payments = a.before.payments :=
    fun lt m => (logOnPayment_moves a.before c.order lt m).payments
  unfold Attempt.RollsBack at h
  rw [hout] at h
  unfold callTossConfirmApi at h
  cases hdecision : confirmDecision c.tossOrderId c.amount left a.answer with
  | finalize response reconciled =>
    rw [hdecision] at h
    cases reconciled with
    | none => simp at h
    | some message => simp [hlog] at h
  | retry log =>
    rw [hdecision] at h
    cases log with
    | none => simp at h
    | some message => simp [hlog] at h
  | unresolved log =>
    rw [hdecision] at h
    cases log with
    | none => simp at h
    | some message => simp [hlog] at h
  | abort log reason => exact ⟨log, reason, rfl⟩

theorem TossPaymentError.retryable_of_isTransport {e : TossPaymentError}
    (h : e.isTransport = true) :
    e.code ∉ tossNonRetryableErrors ∧ (e.code ∈ tossRetryableErrors ∨ 500 ≤ e.statusCode) := by
  simp only [TossPaymentError.isTransport, Bool.or_eq_true, Bool.and_eq_true,
    decide_eq_true_eq] at h
  rcases h with (h | h) | ⟨hstatus, hcode⟩
  · rw [h]
    exact ⟨by decide, Or.inl (by decide)⟩
  · rw [h]
    exact ⟨by decide, Or.inl (by decide)⟩
  · exact ⟨hcode, Or.inr hstatus⟩

/-- A failure on the way is retried, as long as a retry is left. -/
theorem refusedDecision_transport {e : TossPaymentError} {left : Bool} {log reason : String}
    (htransport : e.isTransport = true) (h : refusedDecision e left = .abort log reason) :
    left = false := by
  obtain ⟨hnon, hretry⟩ := TossPaymentError.retryable_of_isTransport htransport
  cases left with
  | false => rfl
  | true =>
    unfold refusedDecision at h
    dsimp only at h
    rw [if_neg hnon] at h
    by_cases hcode : e.code ∈ tossRetryableErrors
    · rw [if_pos hcode] at h
      cases h
    · rw [if_neg hcode, if_pos (hretry.resolve_left hcode)] at h
      cases h

theorem refusedDecision_exhausted (e : TossPaymentError) (log : Option String) :
    refusedDecision e false ≠ .retry log := by
  intro h
  unfold refusedDecision at h
  dsimp only at h
  split at h
  · cases h
  · split at h
    · cases h
    · split at h
      · cases h
      · cases h

/-- Without a retry left there is no retry. -/
theorem confirmDecision_exhausted (c : ConfirmCall) (answer : TossAnswer) (log : Option String) :
    confirmDecision c.tossOrderId c.amount false answer ≠ .retry log := by
  intro h
  cases answer with
  | confirmed response => cases h
  | softTimeLimitExceeded => cases h
  | refused e lookup =>
    unfold confirmDecision at h
    dsimp only at h
    split at h
    · cases lookup with
      | error _ => cases h
      | ok data =>
        dsimp only at h
        split at h
        · cases h
        · exact refusedDecision_exhausted e log h
    · exact refusedDecision_exhausted e log h

/-- With the key approved, the task gives up only without a retry left, on an
error of the confirmation itself. -/
theorem abort_of_approved {c : ConfirmCall} {before left : Bool} {answer : TossAnswer}
    {log reason : String} (hanswer : c.tossAnswers before true answer = true)
    (h : confirmDecision c.tossOrderId c.amount left answer = .abort log reason) :
    left = false ∧ ∃ e lookup, answer = .refused e lookup ∧ e.code ∉ tossReconcileErrors ∧
      (e.code ∈ tossRetryableErrors ∨ 500 ≤ e.statusCode) := by
  cases answer with
  | confirmed response => cases h
  | softTimeLimitExceeded =>
    unfold confirmDecision at h
    dsimp only at h
    split at h
    · cases h
    · cases h
  | refused e lookup =>
    simp only [ConfirmCall.tossAnswers, Bool.and_eq_true] at hanswer
    obtain ⟨htruthful, hkind⟩ := hanswer
    unfold confirmDecision at h
    dsimp only at h
    by_cases hcode : e.code ∈ tossReconcileErrors
    · rw [if_pos hcode] at h
      exfalso
      cases lookup with
      | error _ =>
        dsimp only at h
        split at h
        · cases h
        · cases h
      | ok data =>
        -- The lookup says that the charge is approved.
        have hconfirms : confirmsCharge data c.tossOrderId c.amount = true :=
          beq_iff_eq.mp htruthful
        dsimp only at h
        rw [if_pos hconfirms] at h
        cases h
    · rw [if_neg hcode] at h
      have htransport : e.isTransport = true := by
        cases before with
        | false => simpa using hkind
        | true => simpa [hcode] using hkind
      have hretry := (TossPaymentError.retryable_of_isTransport htransport).2
      exact ⟨refusedDecision_transport htransport h, e, lookup, rfl, hcode, hretry⟩

/-- An approval that the lookup confirms goes to the finalisation. -/
theorem finalize_of_lookup {c : ConfirmCall} {db : Db} {left published : Bool}
    {e : TossPaymentError} {data : TossPayment} (hcode : e.code ∈ tossReconcileErrors)
    (hdata : confirmsCharge data c.tossOrderId c.amount = true) :
    (callTossConfirmApi db c.order c.amount c.tossOrderId c.payment c.user (.refused e (.ok data))
      left published).sent = [.finalize data c.payment c.user] := by
  have hdecision : confirmDecision c.tossOrderId c.amount left (.refused e (.ok data))
      = .finalize data (some (e.code ++ " 수신 → 조회 API 로 승인 확인 (대사)")) := by
    unfold confirmDecision
    dsimp only
    rw [if_pos hcode, if_pos hdata]
  unfold callTossConfirmApi
  rw [hdecision]

/-! ## Runs -/

/-- Every recorded execution is one of the code, on an answer that the provider
may give, and no execution has more retries than there are. -/
structure ConfirmTask.Recorded (c : ConfirmCall) (s : ConfirmTask) : Prop where
  queue : ∀ n ∈ s.queue, n ≤ confirmMaxRetries
  attempts : ∀ a ∈ s.attempts, a.retries ≤ confirmMaxRetries ∧
    (∃ before, c.tossAnswers before a.approved a.answer = true) ∧
    ∃ published, a.out = callTossConfirmApi a.before c.order c.amount c.tossOrderId c.payment
      c.user a.answer (decide (a.retries < confirmMaxRetries)) published

theorem ConfirmTask.Recorded.step {c : ConfirmCall} {s s' : ConfirmTask} {e : ConfirmEvent}
    (hI : s.Recorded c) (hok : s.allowed c e = true) (h : s.step c e = some s') :
    s'.Recorded c := by
  cases e with
  | lose approved =>
    cases h
    exact ⟨hI.queue, hI.attempts⟩
  | write db =>
    cases h
    exact ⟨hI.queue, hI.attempts⟩
  | execute n approved answer published =>
    unfold ConfirmTask.step at h
    dsimp only at h
    split at h
    · cases h
    · rename_i retries hqueue
      cases h
      have hle : retries ≤ confirmMaxRetries := hI.queue retries (List.mem_of_getElem? hqueue)
      constructor
      · intro m hm
        dsimp only at hm
        split at hm
        · -- A retry is queued only when one is left.
          rename_i log hretry
          rcases List.mem_append.mp hm with hm | hm
          · exact hI.queue m hm
          · rw [List.mem_singleton.mp hm]
            rw [callTossConfirmApi_result] at hretry
            by_cases hleft : retries < confirmMaxRetries
            · omega
            · rw [decide_eq_false hleft] at hretry
              exact absurd hretry (confirmDecision_exhausted c answer log)
        · exact hI.queue m hm
      · intro a ha
        rcases List.mem_append.mp ha with ha | ha
        · exact hI.attempts a ha
        · rw [List.mem_singleton.mp ha]
          exact ⟨hle, ⟨s.approved, hok⟩, published, rfl⟩

/-- In every run of the task, over all retries, with lost executions and with
executions that are delivered again: an execution that rolls an approved
payment back has no retry left, and the confirmation itself failed on it with a
retryable or a server error.  An execution that got a reconcile error or hit its
time limit rolls no approved payment back, and an approval that the lookup
confirms goes to the finalisation. -/
theorem confirm_rolls_back_rightly {c : ConfirmCall} {db : Db} {approved : Bool}
    {s : ConfirmTask} {es : List ConfirmEvent}
    (h : Run (ConfirmTask.step c) (fun s e => s.allowed c e = true)
      { db := db, approved := approved } es s) :
    ∀ a ∈ s.attempts,
      (a.RollsBack c → a.approved = true → a.retries = confirmMaxRetries ∧
        ∃ e lookup, a.answer = .refused e lookup ∧ e.code ∉ tossReconcileErrors ∧
          (e.code ∈ tossRetryableErrors ∨ 500 ≤ e.statusCode)) ∧
      ((a.answer = .softTimeLimitExceeded ∨
          ∃ e lookup, a.answer = .refused e lookup ∧ e.code ∈ tossReconcileErrors) →
        a.approved = true → ¬ a.RollsBack c) ∧
      ∀ e data, a.answer = .refused e (.ok data) → e.code ∈ tossReconcileErrors →
        a.approved = true → a.out.sent = [.finalize data c.payment c.user] := by
  have hrecorded : s.Recorded c := by
    refine h.invariant (ConfirmTask.Recorded c) ⟨?_, fun a ha => ?_⟩
      fun t e u ht hok hs => ht.step hok hs
    · intro n hn
      rw [List.mem_singleton.mp hn]
      exact Nat.zero_le _
    · cases ha
  intro a ha
  obtain ⟨hle, ⟨before, hanswer⟩, published, hout⟩ := hrecorded.attempts a ha
  have hrolls : a.RollsBack c → a.approved = true → a.retries = confirmMaxRetries ∧
      ∃ e lookup, a.answer = .refused e lookup ∧ e.code ∉ tossReconcileErrors ∧
        (e.code ∈ tossRetryableErrors ∨ 500 ≤ e.statusCode) := by
    intro hback happroved
    obtain ⟨log, reason, habort⟩ := abort_of_rollsBack hout hback
    rw [happroved] at hanswer
    obtain ⟨hleft, herror⟩ := abort_of_approved hanswer habort
    rw [decide_eq_false_iff_not] at hleft
    exact ⟨by omega, herror⟩
  refine ⟨hrolls, fun hkind happroved hback => ?_, fun e data hrefused hcode happroved => ?_⟩
  · obtain ⟨_, e, lookup, hrefused, hcode, _⟩ := hrolls hback happroved
    rcases hkind with hlimit | ⟨e', lookup', hrefused', hcode'⟩
    · rw [hlimit] at hrefused
      cases hrefused
    · rw [hrefused'] at hrefused
      cases hrefused
      exact hcode hcode'
  · have hdata : confirmsCharge data c.tossOrderId c.amount = true := by
      rw [happroved, hrefused] at hanswer
      simp only [ConfirmCall.tossAnswers, Bool.and_eq_true] at hanswer
      exact beq_iff_eq.mp hanswer.1
    rw [hout, hrefused]
    exact finalize_of_lookup hcode hdata

/-- The confirmation of the payment of `World.shop`. -/
def oneCall : ConfirmCall := ⟨1, 13000, .orderNumber 1, 1, 7⟩

/-- The provider approves, but no answer to the confirmation comes back. -/
def lostAnswers : List ConfirmEvent :=
  let down : Except TossPaymentError TossPayment := .error ⟨"UNKNOWN", "", 500⟩
  let lost : TossAnswer := .refused ⟨"NETWORK_ERROR", "네트워크 오류", 500⟩ down
  let processed : TossAnswer := .refused ⟨"ALREADY_PROCESSED_PAYMENT", "", 400⟩ down
  [.execute 0 true lost true, .execute 1 true processed true, .execute 2 true lost true,
    .execute 3 true lost true]

/-- The last of four executions rolls the approved payment back. -/
theorem confirm_rolls_back_rightly_lost :
    ∃ s, Run (ConfirmTask.step oneCall) (fun s e => s.allowed oneCall e = true)
        { db := (World.shop .confirmed .inProgress).db } lostAnswers s ∧
      ∃ a ∈ s.attempts, a.approved = true ∧ a.RollsBack oneCall ∧
        a.retries = confirmMaxRetries := by
  obtain ⟨s, hrun, hlast⟩ := Run.exists_of_execIf (by decide +kernel :
    (execIf (ConfirmTask.step oneCall) (fun s e => s.allowed oneCall e)
      { db := (World.shop .confirmed .inProgress).db } lostAnswers).any (fun s =>
        s.attempts.any fun a => a.approved && decide (a.out.sent
          = [.rollback 1 "결제 실패 (재시도 초과): 네트워크 오류"])) = true)
  obtain ⟨a, ha, hrolled⟩ := List.any_eq_true.mp hlast
  rw [Bool.and_eq_true, decide_eq_true_eq] at hrolled
  have hback : a.RollsBack oneCall := by
    refine Or.inr ⟨"결제 실패 (재시도 초과): 네트워크 오류", ?_⟩
    rw [hrolled.2]
    exact List.mem_singleton.mpr rfl
  exact ⟨s, hrun, a, ha, hrolled.1, hback,
    ((confirm_rolls_back_rightly hrun a ha).1 hback hrolled.1).1⟩

end Shopping
