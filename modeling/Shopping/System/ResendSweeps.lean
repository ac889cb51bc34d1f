import Shopping.Lib.Run
import Shopping.Users.Resends

/-!
# Resends of a verification mail

Any number of sweeps and deliveries, statement by statement.  A sweep decides
from the list that it read, and claims a log by an update that looks at the
status alone.  So a log that failed again after another sweep's resend is
claimed once more, past `EMAIL_MAX_RESENDS`; and a log whose message could not
be published stays pending (`resend_sweeps_fail`).

`resend_sweeps` says when this does not happen: the claimed log has resends
left (`claimsBelow`), and the broker takes the message (`publishes`).  Every
claim publishes at most one message, in all runs.
-/

namespace Shopping

open EmailTasks

/-- A run of `retry_failed_emails_task`: the logs to go, the one that it has
claimed and not published yet, and its result. -/
structure Sweep where
  todo : List SweptLog
  claimed : Option SweptLog := none
  totalFailed : Nat
  retryAttempted : Nat := 0
  retrySuccess : Nat := 0
  deriving DecidableEq, Repr

/-- The tables, the messages and the sweeps.  `published` and `unpublished`
count the publications of a log that went well and that failed, `lastFailed`
says that the last one failed; the code does not keep them. -/
structure ResendSweeps where
  now : Time := 0
  db : AccountDb := {}
  deliveries : Table EmailTasks.Delivery := Table.empty
  sweeps : Table Sweep := Table.empty
  published : Nat → Nat := fun _ => 0
  unpublished : Nat → Nat := fun _ => 0
  lastFailed : Nat → Bool := fun _ => false

/-- The statements.  `edit` is whatever else writes users and tokens. -/
inductive SweepEvent where
  | edit (users : Table User) (tokens : Table EmailVerificationToken)
  | send (mail : VerificationMail)
  | lookUp (delivery : Nat)
  | create (delivery : Nat)
  | finish (delivery : Nat) (outcome : MailOutcome) (retry : Bool)
  | sweep
  | next (sweep : Nat)
  | publish (sweep : Nat) (ok : Bool)

namespace ResendSweeps

/-- No row is deleted. -/
def keepsRows {α : Type} (t t' : Table α) : Bool :=
  t.rows.all fun p => (t'.get? p.1).isSome

def setDelivery (s : ResendSweeps) (d : Nat) (delivery : EmailTasks.Delivery) :
    Table EmailTasks.Delivery :=
  s.deliveries.modify d fun _ => delivery

def setSweep (s : ResendSweeps) (k : Nat) (w : Sweep) : Table Sweep :=
  s.sweeps.modify k fun _ => w

/-- The sweep turns to the next log of its list. -/
def nextLog (s : ResendSweeps) (now : Time) (k : Nat) (w : Sweep) : Option ResendSweeps :=
  match w.claimed, w.todo with
  | none, x :: rest =>
    if isSkipped now x then
      some { s with now := now, sweeps := s.setSweep k { w with todo := rest } }
    else if (claimLog s.db x.id).1 then
      some { s with
        now := now
        db := (claimLog s.db x.id).2
        sweeps := s.setSweep k { w with
          todo := rest, claimed := some x, retryAttempted := w.retryAttempted + 1 }
        lastFailed := Function.update s.lastFailed x.id false }
    else
      some { s with
        now := now
        db := (claimLog s.db x.id).2
        sweeps := s.setSweep k { w with todo := rest } }
  | _, _ => none

/-- The sweep publishes the message of the log that it has claimed. -/
def publishLog (s : ResendSweeps) (now : Time) (k : Nat) (w : Sweep) (ok : Bool) :
    Option ResendSweeps :=
  match w.claimed with
  | none => none
  | some x =>
    if ok then
      some { s with
        now := now
        deliveries := s.deliveries.insert { mail := resendMail x }
        sweeps := s.setSweep k { w with claimed := none, retrySuccess := w.retrySuccess + 1 }
        published := Function.update s.published x.id (s.published x.id + 1) }
    else
      some { s with
        now := now
        sweeps := s.setSweep k { w with claimed := none }
        unpublished := Function.update s.unpublished x.id (s.unpublished x.id + 1)
        lastFailed := Function.update s.lastFailed x.id true }

/-- One statement, at the clock reading `e.1`. -/
def step (maxResends resendAfter : Nat) (s : ResendSweeps) (e : Time × SweepEvent) :
    Option ResendSweeps :=
  if e.1 < s.now then none
  else
    match e.2 with
    | .edit users tokens =>
      if keepsRows s.db.users users && keepsRows s.db.tokens tokens then
        some { s with now := e.1, db := { s.db with users := users, tokens := tokens } }
      else none
    | .send mail => some { s with now := e.1, deliveries := s.deliveries.insert { mail := mail } }
    | .lookUp d =>
      match s.deliveries.get? d with
      | some { mail, retries, stage := .queued } =>
        some { s with
          now := e.1
          deliveries := s.setDelivery d { mail, retries, stage := lookUpLog s.db mail } }
      | _ => none
    | .create d =>
      match s.deliveries.get? d with
      | some { mail, retries, stage := .creating user } =>
        let out := createLog s.db e.1 mail user
        some { s with
          now := e.1
          db := out.1
          deliveries := s.setDelivery d { mail, retries, stage := out.2 } }
      | _ => none
    | .finish d outcome retry =>
      match s.deliveries.get? d with
      | some { mail, retries, stage := .sending log } =>
        let out := finishMail s.db e.1 { mail, retries, stage := .sending log } log retry outcome
        some { s with now := e.1, db := out.1, deliveries := s.setDelivery d out.2 }
      | _ => none
    | .sweep =>
      let logs := failedLogs s.db e.1 maxResends resendAfter
      some { s with
        now := e.1
        sweeps := s.sweeps.insert { todo := logs, totalFailed := logs.length } }
    | .next k => (s.sweeps.get? k).bind fun w => s.nextLog e.1 k w
    | .publish k ok => (s.sweeps.get? k).bind fun w => s.publishLog e.1 k w ok

/-! ## What the sweeps are to keep -/

/-- No log is sent again more often than that. -/
def Bounded (maxResends : Nat) (s : ResendSweeps) : Prop :=
  ∀ id log, s.db.emailLogs.get? id = some log → log.resendCount ≤ maxResends

/-- Whether the sweep has claimed the log and not published it. -/
def claimOf (id : Nat) (w : Sweep) : Int :=
  if w.claimed.any fun x => decide (x.id = id) then 1 else 0

/-- How many sweeps have. -/
def claims (s : ResendSweeps) (id : Nat) : Int := s.sweeps.sum fun _ w => claimOf id w

/-- Each resend is counted for one claim, which publishes one message, or none,
or is still to publish it. -/
def OnePublish (s : ResendSweeps) : Prop :=
  ∀ id, (resendsOf s.db id : Int) = s.published id + s.unpublished id + s.claims id

/-- A message about the log is on its way. -/
def InFlight (s : ResendSweeps) (log : EmailLog) : Prop :=
  ∃ d delivery, s.deliveries.get? d = some delivery ∧ delivery.mail.token = log.token ∧
    delivery.stage ≠ .done

/-- A log that is pending, with no message on its way and no sweep that will
publish one. -/
def Lost (s : ResendSweeps) (id : Nat) : Prop :=
  ∃ log, s.db.emailLogs.get? id = some log ∧ log.status = .pending ∧ ¬ s.InFlight log ∧
    ∀ k w x, s.sweeps.get? k = some w → w.claimed = some x → x.id ≠ id

/-- No log whose publication failed is lost. -/
def NoneLost (s : ResendSweeps) : Prop := ∀ id, s.lastFailed id = true → ¬ s.Lost id

/-- A log that the step claims has resends left. -/
def claimsBelow (maxResends : Nat) (s : ResendSweeps) (e : Time × SweepEvent) : Bool :=
  match e.2 with
  | .next k =>
    (s.sweeps.get? k).all fun w =>
      w.claimed.isSome || w.todo.head?.all fun x =>
        isSkipped e.1 x || (s.db.emailLogs.get? x.id).all fun log =>
          decide (log.status ≠ .failed) || decide (log.resendCount < maxResends)
  | _ => true

/-- The broker takes the message. -/
def publishes (e : Time × SweepEvent) : Bool :=
  match e.2 with
  | .publish _ ok => ok
  | _ => true

/-! ## What one statement does -/

/-- The change that an event makes at the clock reading `now`. -/
inductive SweepChange (s : ResendSweeps) (now : Time) : SweepEvent → ResendSweeps → Prop
  /-- The accounts or the messages change, and no count. -/
  | quiet {ev : SweepEvent} {db : AccountDb} {deliveries : Table EmailTasks.Delivery}
      (hcount : ∀ j, resendsOf db j = resendsOf s.db j) :
      SweepChange s now ev { s with now := now, db := db, deliveries := deliveries }
  | sweep {ev : SweepEvent} {w : Sweep} (hnew : w.claimed = none) :
      SweepChange s now ev { s with now := now, sweeps := s.sweeps.insert w }
  | pass {ev : SweepEvent} {k : Nat} {w w' : Sweep} (hw : s.sweeps.get? k = some w)
      (hidle : w.claimed = none) (hidle' : w'.claimed = none) :
      SweepChange s now ev { s with now := now, sweeps := s.setSweep k w' }
  | claim {k : Nat} {w : Sweep} {x : SweptLog} {rest : List SweptLog}
      (hw : s.sweeps.get? k = some w) (hidle : w.claimed = none) (htodo : w.todo = x :: rest)
      (hskip : isSkipped now x = false) (hclaim : (claimLog s.db x.id).1 = true) :
      SweepChange s now (.next k) { s with
        now := now
        db := (claimLog s.db x.id).2
        sweeps := s.setSweep k { w with
          todo := rest, claimed := some x, retryAttempted := w.retryAttempted + 1 }
        lastFailed := Function.update s.lastFailed x.id false }
  | publish {k : Nat} {w : Sweep} {x : SweptLog} (hw : s.sweeps.get? k = some w)
      (hclaimed : w.claimed = some x) :
      SweepChange s now (.publish k true) { s with
        now := now
        deliveries := s.deliveries.insert { mail := resendMail x }
        sweeps := s.setSweep k { w with claimed := none, retrySuccess := w.retrySuccess + 1 }
        published := Function.update s.published x.id (s.published x.id + 1) }
  | fail {k : Nat} {w : Sweep} {x : SweptLog} (hw : s.sweeps.get? k = some w)
      (hclaimed : w.claimed = some x) :
      SweepChange s now (.publish k false) { s with
        now := now
        sweeps := s.setSweep k { w with claimed := none }
        unpublished := Function.update s.unpublished x.id (s.unpublished x.id + 1)
        lastFailed := Function.update s.lastFailed x.id true }

variable {maxResends resendAfter : Nat} {s u : ResendSweeps} {e : Time × SweepEvent}

theorem SweepChange.of_nextLog {now : Time} {k : Nat} {w : Sweep} (hw : s.sweeps.get? k = some w)
    (h : s.nextLog now k w = some u) : SweepChange s now (.next k) u := by
  unfold nextLog at h
  cases hidle : w.claimed with
  | some x =>
    rw [hidle] at h
    cases h
  | none =>
    cases htodo : w.todo with
    | nil =>
      rw [hidle, htodo] at h
      cases h
    | cons x rest =>
      rw [hidle, htodo] at h
      dsimp only at h
      by_cases hskip : isSkipped now x = true
      · rw [if_pos hskip] at h
        cases h
        exact .pass hw hidle rfl
      · rw [if_neg hskip] at h
        by_cases hclaim : (claimLog s.db x.id).1 = true
        · rw [if_pos hclaim] at h
          cases h
          exact .claim hw hidle htodo (by simpa using hskip) hclaim
        · rw [if_neg hclaim] at h
          have hsame : (claimLog s.db x.id).2 = s.db := by
            rcases claimLog_cases s.db x.id with ⟨hno, _⟩ | ⟨hyes, _⟩
            · rw [hno]
            · exact absurd hyes hclaim
          rw [hsame] at h
          cases h
          exact .pass hw hidle rfl

theorem SweepChange.of_publishLog {now : Time} {k : Nat} {w : Sweep} {ok : Bool}
    (hw : s.sweeps.get? k = some w) (h : s.publishLog now k w ok = some u) :
    SweepChange s now (.publish k ok) u := by
  unfold publishLog at h
  cases hclaimed : w.claimed with
  | none =>
    rw [hclaimed] at h
    cases h
  | some x =>
    rw [hclaimed] at h
    cases ok with
    | true =>
      cases h
      exact .publish hw hclaimed
    | false =>
      cases h
      exact .fail hw hclaimed

theorem step_cases (h : step maxResends resendAfter s e = some u) : SweepChange s e.1 e.2 u := by
  obtain ⟨now, ev⟩ := e
  unfold step at h
  by_cases hnow : now < s.now
  · rw [if_pos hnow] at h
    cases h
  · rw [if_neg hnow] at h
    cases ev with
    | edit users tokens =>
      dsimp only at h
      split at h
      · cases h
        exact .quiet fun _ => rfl
      · cases h
    | send mail =>
      cases h
      exact .quiet fun _ => rfl
    | lookUp d =>
      dsimp only at h
      split at h
      · cases h
        exact .quiet fun _ => rfl
      · cases h
    | create d =>
      dsimp only at h
      split at h
      · cases h
        exact .quiet fun j => resendsOf_createLog now _ _ j
      · cases h
    | finish d outcome retry =>
      dsimp only at h
      split at h
      · cases h
        exact .quiet fun j => resendsOf_finishMail now _ _ retry outcome j
      · cases h
    | sweep =>
      cases h
      exact .sweep rfl
    | next k =>
      obtain ⟨w, hw, h⟩ := Option.bind_eq_some_iff.mp h
      exact .of_nextLog hw h
    | publish k ok =>
      obtain ⟨w, hw, h⟩ := Option.bind_eq_some_iff.mp h
      exact .of_publishLog hw h

/-! ## One message for a claim -/

theorem claimOf_none {w : Sweep} (h : w.claimed = none) (id : Nat) : claimOf id w = 0 := by
  unfold claimOf
  rw [h]
  rfl

theorem claimOf_some {w : Sweep} {x : SweptLog} (h : w.claimed = some x) (id : Nat) :
    claimOf id w = if id = x.id then 1 else 0 := by
  unfold claimOf
  rw [h]
  by_cases hid : id = x.id
  · simp [hid]
  · have hne : ¬ x.id = id := fun heq => hid heq.symm
    simp [hid, hne]

/-- A change of one sweep. -/
theorem claims_setSweep {k : Nat} {w w' : Sweep} (hw : s.sweeps.get? k = some w)
    (hsweeps : u.sweeps = s.setSweep k w') (id : Nat) :
    u.claims id = s.claims id - claimOf id w + claimOf id w' := by
  unfold claims
  rw [hsweeps]
  exact Table.sum_modify hw (fun _ => w') fun _ w => claimOf id w

theorem OnePublish.step (h : OnePublish s) (hstep : step maxResends resendAfter s e = some u) :
    OnePublish u := by
  obtain ⟨now, ev⟩ := e
  have hchange := step_cases hstep
  intro id
  have hid := h id
  cases hchange with
  | quiet hcount =>
    show ((resendsOf _ id : Nat) : Int) = s.published id + s.unpublished id + s.claims id
    rw [hcount id]
    exact hid
  | sweep hnew =>
    rename_i w
    show (resendsOf s.db id : Int)
      = s.published id + s.unpublished id + (s.sweeps.insert w).sum fun _ w => claimOf id w
    rw [Table.sum_insert, claimOf_none hnew, Int.add_zero]
    exact hid
  | pass hw hidle hidle' =>
    rw [claims_setSweep hw rfl, claimOf_none hidle, claimOf_none hidle']
    show (resendsOf s.db id : Int) = s.published id + s.unpublished id + (s.claims id - 0 + 0)
    omega
  | claim hw hidle htodo hskip hclaim =>
    rename_i k w x rest
    rw [claims_setSweep hw rfl, claimOf_none hidle, claimOf_some rfl]
    show (resendsOf (claimLog s.db x.id).2 id : Int)
      = s.published id + s.unpublished id + (s.claims id - 0 + if id = x.id then 1 else 0)
    rcases claimLog_cases s.db x.id with ⟨hno, _⟩ | ⟨_, _, _, _, hcount⟩
    · rw [hno] at hclaim
      cases hclaim
    · rw [hcount id]
      split <;> omega
  | publish hw hclaimed =>
    rename_i k w x
    rw [claims_setSweep hw rfl, claimOf_some hclaimed, claimOf_none rfl]
    show (resendsOf s.db id : Int)
      = (Function.update s.published x.id (s.published x.id + 1) id : Nat) + s.unpublished id
        + (s.claims id - (if id = x.id then 1 else 0) + 0)
    rw [Function.update_apply]
    split
    · rename_i hx
      rw [hx] at hid ⊢
      omega
    · omega
  | fail hw hclaimed =>
    rename_i k w x
    rw [claims_setSweep hw rfl, claimOf_some hclaimed, claimOf_none rfl]
    show (resendsOf s.db id : Int)
      = s.published id + (Function.update s.unpublished x.id (s.unpublished x.id + 1) id : Nat)
        + (s.claims id - (if id = x.id then 1 else 0) + 0)
    rw [Function.update_apply]
    split
    · rename_i hx
      rw [hx] at hid ⊢
      omega
    · omega

/-! ## The bound -/

theorem bounded_iff : Bounded maxResends s ↔ ∀ id, resendsOf s.db id ≤ maxResends := by
  unfold Bounded resendsOf
  constructor
  · intro h id
    cases hget : s.db.emailLogs.get? id with
    | none => exact Nat.zero_le _
    | some log => exact h id log hget
  · intro h id log hget
    have hid := h id
    rwa [hget] at hid

/-- No statement takes a resend back, and the only one that counts one is a
claim. -/
theorem resends_step (h : step maxResends resendAfter s e = some u) :
    (∀ id, resendsOf u.db id = resendsOf s.db id) ∨
    ∃ k w x rest, e.2 = .next k ∧ s.sweeps.get? k = some w ∧ w.claimed = none ∧
      w.todo = x :: rest ∧ isSkipped e.1 x = false ∧
      (∃ log, s.db.emailLogs.get? x.id = some log ∧ log.status = .failed) ∧
      ∀ id, resendsOf u.db id = resendsOf s.db id + if id = x.id then 1 else 0 := by
  obtain ⟨now, ev⟩ := e
  have hchange := step_cases h
  cases hchange with
  | quiet hcount => exact Or.inl hcount
  | claim hw hidle htodo hskip hclaim =>
    rename_i k w x rest
    rcases claimLog_cases s.db x.id with ⟨hno, _⟩ | ⟨_, hfailed, _, _, hcount⟩
    · rw [hno] at hclaim
      cases hclaim
    · exact Or.inr ⟨k, w, x, rest, rfl, hw, hidle, htodo, hskip, hfailed, hcount⟩
  | _ => exact Or.inl fun _ => rfl

/-- A step out of the condition claims a log without resends left. -/
theorem claimsBelow_cases (hno : claimsBelow maxResends s e ≠ true) :
    ∃ k w x rest, e.2 = .next k ∧ s.sweeps.get? k = some w ∧ w.claimed = none ∧
      w.todo = x :: rest ∧ isSkipped e.1 x = false ∧
      (∃ log, s.db.emailLogs.get? x.id = some log ∧ log.status = .failed) ∧
      maxResends ≤ resendsOf s.db x.id := by
  obtain ⟨now, ev⟩ := e
  cases ev with
  | next k =>
    unfold claimsBelow at hno
    cases hw : s.sweeps.get? k with
    | none => simp [hw] at hno
    | some w =>
      cases htodo : w.todo with
      | nil => simp [hw, htodo] at hno
      | cons x rest =>
        cases hget : s.db.emailLogs.get? x.id with
        | none => simp [hw, htodo, hget] at hno
        | some log =>
          simp [hw, htodo, hget] at hno
          obtain ⟨hidle, hskip, hfailed, hmax⟩ := hno
          refine ⟨k, w, x, rest, rfl, hw, hidle, htodo, hskip, ⟨log, hget, hfailed⟩, ?_⟩
          unfold resendsOf
          rw [hget]
          exact hmax
  | _ => exact absurd rfl hno

/-- What such a step does. -/
theorem step_claim {k : Nat} {w : Sweep} {x : SweptLog} {rest : List SweptLog} {log : EmailLog}
    (he : e.2 = .next k) (hw : s.sweeps.get? k = some w) (hidle : w.claimed = none)
    (htodo : w.todo = x :: rest) (hskip : isSkipped e.1 x = false)
    (hget : s.db.emailLogs.get? x.id = some log) (hfailed : log.status = .failed)
    (h : step maxResends resendAfter s e = some u) :
    resendsOf u.db x.id = resendsOf s.db x.id + 1 := by
  have hclaim : (claimLog s.db x.id).1 = true ∧
      resendsOf (claimLog s.db x.id).2 x.id = resendsOf s.db x.id + 1 := by
    rcases claimLog_cases s.db x.id with ⟨_, hno⟩ | ⟨hyes, _, _, _, hcount⟩
    · exact absurd hfailed (hno log hget)
    · refine ⟨hyes, ?_⟩
      rw [hcount x.id, if_pos rfl]
  unfold step nextLog at h
  rw [he] at h
  simp only [hw, Option.bind_some, hidle, htodo, hskip, Bool.false_eq_true, if_false,
    if_pos hclaim.1] at h
  split at h
  · cases h
  · cases h
    exact hclaim.2

theorem bounded_run {es : List (Time × SweepEvent)}
    (h : Run (step maxResends resendAfter) (fun _ _ => True) {} es s) :
    Bounded maxResends s ↔
      Run (step maxResends resendAfter) (fun s e => claimsBelow maxResends s e = true) {} es s := by
  rw [bounded_iff]
  have hall : Run (step maxResends resendAfter) (fun s e => claimsBelow maxResends s e = true)
        {} es s ∧ (∀ id, resendsOf s.db id ≤ maxResends) ∨
      ¬ Run (step maxResends resendAfter) (fun s e => claimsBelow maxResends s e = true) {} es s ∧
        ∃ id, maxResends < resendsOf s.db id := by
    refine h.good_or_bad (fun s => ∀ id, resendsOf s.db id ≤ maxResends)
      (fun s => ∃ id, maxResends < resendsOf s.db id) (fun _ => Nat.zero_le _) ?_ ?_ ?_
    · intro t e v hgood hok hstep id
      have hid := hgood id
      rcases resends_step hstep with hsame |
        ⟨k, w, x, rest, he, hw, hidle, htodo, hskip, ⟨log, hget, hfailed⟩, hcount⟩
      · rw [hsame id]
        exact hid
      · have hbelow : resendsOf t.db x.id < maxResends := by
          unfold claimsBelow at hok
          rw [he] at hok
          unfold resendsOf
          simpa [hw, hidle, htodo, hskip, hget, hfailed] using hok
        rw [hcount id]
        split
        · rename_i hx
          rw [hx]
          omega
        · omega
    · intro t e v hgood hnot hstep
      obtain ⟨k, w, x, rest, he, hw, hidle, htodo, hskip, ⟨log, hget, hfailed⟩, hmax⟩ :=
        claimsBelow_cases hnot
      refine ⟨x.id, ?_⟩
      rw [step_claim he hw hidle htodo hskip hget hfailed hstep]
      omega
    · rintro t e v ⟨id, hid⟩ hstep
      refine ⟨id, ?_⟩
      rcases resends_step hstep with hsame | ⟨_, _, x, _, _, _, _, _, _, _, hcount⟩
      · rw [hsame id]
        exact hid
      · rw [hcount id]
        omega
  rcases hall with ⟨hrun, hgood⟩ | ⟨hnot, id, hid⟩
  · exact ⟨fun _ => hrun, fun _ => hgood⟩
  · refine ⟨fun hgood => ?_, fun hrun => absurd hrun hnot⟩
    have hle := hgood id
    omega

/-! ## Failed publications -/

/-- What a failed publication leaves: the log is lost unless it is not pending
any more, or another message or another sweep is about it. -/
theorem lost_of_fail {now : Time} {k : Nat} {w : Sweep} {x : SweptLog}
    (hw : s.sweeps.get? k = some w) (hclaimed : w.claimed = some x)
    (h : step maxResends resendAfter s (now, .publish k false) = some u) :
    u.Lost x.id ↔ ∃ log, s.db.emailLogs.get? x.id = some log ∧ log.status = .pending ∧
      ¬ s.InFlight log ∧
      ∀ j v y, j ≠ k → s.sweeps.get? j = some v → v.claimed = some y → y.id ≠ x.id := by
  have hu : u.db = s.db ∧ u.deliveries = s.deliveries ∧
      u.sweeps = s.setSweep k { w with claimed := none } := by
    unfold step publishLog at h
    simp only [hw, Option.bind_some, hclaimed, Bool.false_eq_true, if_false] at h
    split at h
    · cases h
    · cases h
      exact ⟨rfl, rfl, rfl⟩
  obtain ⟨hdb, hdeliveries, hsweeps⟩ := hu
  unfold Lost InFlight
  rw [hdb, hdeliveries, hsweeps]
  unfold setSweep
  refine exists_congr fun log => and_congr_right fun _ => and_congr_right fun _ =>
    and_congr_right fun _ => ⟨fun hall j v y hj hv hy => ?_, fun hall j v y hv hy => ?_⟩
  · refine hall j v y ?_ hy
    rw [Table.get?_modify, if_neg hj]
    exact hv
  · rcases (Table.updates_modify hw _).cases hv with ⟨_, rfl⟩ | ⟨hj, hv⟩
    · cases hy
    · exact hall j v y hj hv hy

/-- While the broker takes every message, no publication has failed. -/
theorem lastFailed_step (h : ∀ id, s.lastFailed id = false) (hok : publishes e = true)
    (hstep : step maxResends resendAfter s e = some u) (id : Nat) : u.lastFailed id = false := by
  obtain ⟨now, ev⟩ := e
  have hchange := step_cases hstep
  cases hchange with
  | claim =>
    show Function.update s.lastFailed _ false id = false
    rw [Function.update_apply]
    split
    · rfl
    · exact h id
  | fail => cases hok
  | _ => exact h id

end ResendSweeps

open ResendSweeps in
/-- While every claimed log has resends left and the broker takes every message,
the resends are bounded and no log is lost.  The bound holds in no other run, and
a failed publication loses its log unless something else is about it.  A claim
publishes one message at most in all runs. -/
theorem resend_sweeps (maxResends resendAfter : Nat) :
    (∀ es s, Run (step maxResends resendAfter)
        (fun s e => (claimsBelow maxResends s e && publishes e) = true) {} es s →
      Bounded maxResends s ∧ OnePublish s ∧ NoneLost s) ∧
    ∀ es s, Run (step maxResends resendAfter) (fun _ _ => True) {} es s →
      OnePublish s ∧
      (Bounded maxResends s ↔
        Run (step maxResends resendAfter) (fun s e => claimsBelow maxResends s e = true) {} es s) ∧
      ∀ now k w x u, s.sweeps.get? k = some w → w.claimed = some x →
        step maxResends resendAfter s (now, .publish k false) = some u →
        (u.Lost x.id ↔ ∃ log, s.db.emailLogs.get? x.id = some log ∧ log.status = .pending ∧
          ¬ s.InFlight log ∧
          ∀ j v y, j ≠ k → s.sweeps.get? j = some v → v.claimed = some y → y.id ≠ x.id) := by
  have hone : ∀ es s, Run (step maxResends resendAfter) (fun _ _ => True) {} es s → OnePublish s :=
    fun es s h => h.invariant OnePublish (fun _ => rfl) fun _ _ _ hI _ hs => hI.step hs
  refine ⟨fun es s h => ?_, fun es s h => ⟨hone es s h, bounded_run h, fun now k w x u hw hx hs =>
    lost_of_fail hw hx hs⟩⟩
  have hany := h.mono fun _ _ _ => trivial
  have hfailed : ∀ id, s.lastFailed id = false := by
    refine h.invariant (fun s => ∀ id, s.lastFailed id = false) (fun _ => rfl) ?_
    intro s e u hI hok hs
    rw [Bool.and_eq_true] at hok
    exact lastFailed_step hI hok.2 hs
  refine ⟨(bounded_run hany).mpr (h.mono fun s e hok => ?_), hone es s hany, fun id hid => ?_⟩
  · rw [Bool.and_eq_true] at hok
    exact hok.1
  · rw [hfailed id] at hid
    cases hid

namespace ResendSweeps

/-- The user 1 has the token 1, and the first mail to the address is refused. -/
def firstRefused : List (Time × SweepEvent) :=
  [(0, .edit (Table.empty.insert { username := "kim", email := "kim@shop.kr" })
      (Table.empty.insert
        { user := 1, token := 77, verificationCode := "123456", createdAt := 0 })),
    (0, .send ⟨1, 1, false⟩), (0, .lookUp 1), (0, .create 1), (0, .finish 1 .refused false)]

/-- One sweep `k` resends the log by the message `d`, which is refused. -/
def refusedAgain (now : Time) (k d : Nat) : List (Time × SweepEvent) :=
  [(now, .sweep), (now, .next k), (now, .publish k true), (now, .lookUp d),
    (now, .finish d .refused false)]

end ResendSweeps

open ResendSweeps in
/-- Three resends of a refused mail: the log has no more. -/
theorem resend_sweeps_three :
    ∃ s, Run (step 3 10) (fun s e => (claimsBelow 3 s e && publishes e) = true) {}
        (firstRefused ++ refusedAgain 600 1 2 ++ refusedAgain 1200 2 3 ++ refusedAgain 1800 3 4) s ∧
      resendsOf s.db 1 = 3 ∧ Bounded 3 s ∧ OnePublish s ∧ NoneLost s := by
  obtain ⟨s, hrun, hstate⟩ := Run.exists_of_execIf (by decide +kernel :
    (execIf (step 3 10) (fun s e => claimsBelow 3 s e && publishes e) {}
      (firstRefused ++ refusedAgain 600 1 2 ++ refusedAgain 1200 2 3 ++ refusedAgain 1800 3 4)).any
      (fun s => decide (resendsOf s.db 1 = 3)) = true)
  exact ⟨s, hrun, of_decide_eq_true hstate, (resend_sweeps 3 10).1 _ s hrun⟩

open ResendSweeps in
/-- Two sweeps read the log before the third resend; the second one claims it
when that has failed, for a fourth.  And a log whose message the broker does
not take stays pending. -/
theorem resend_sweeps_fail :
    (∃ s, Run (step 3 10) (fun _ _ => True) {}
        (firstRefused ++ refusedAgain 600 1 2 ++ refusedAgain 1200 2 3
          ++ (1800, .sweep) :: refusedAgain 1800 4 4 ++ [(1800, .next 3)]) s ∧
      ¬ Bounded 3 s) ∧
    ∃ s, Run (step 3 10) (fun _ _ => True) {}
        (firstRefused ++ [(600, .sweep), (600, .next 1), (600, .publish 1 false)]) s ∧
      ¬ NoneLost s := by
  constructor
  · obtain ⟨s, hrun, hstate⟩ := Run.exists_of_execIf (by decide +kernel :
      (execIf (step 3 10) (fun _ _ => true) {}
        (firstRefused ++ refusedAgain 600 1 2 ++ refusedAgain 1200 2 3
          ++ (1800, .sweep) :: refusedAgain 1800 4 4 ++ [(1800, .next 3)])).any
        (fun s => decide (resendsOf s.db 1 = 4)) = true)
    refine ⟨s, hrun.mono fun _ _ _ => trivial, fun h => ?_⟩
    have hle := bounded_iff.mp h 1
    rw [of_decide_eq_true hstate] at hle
    exact absurd hle (by decide)
  · obtain ⟨s, hrun, hstate⟩ := Run.exists_of_execIf (by decide +kernel :
      (execIf (step 3 10) (fun _ _ => true) {}
        (firstRefused ++ [(600, .sweep), (600, .next 1), (600, .publish 1 false)])).any
        (fun s => decide (s.lastFailed 1 = true ∧
          (s.db.emailLogs.get? 1).map EmailLog.status = some .pending ∧
          (s.deliveries.rows.all fun p => decide (p.2.stage = .done)) = true ∧
          (s.sweeps.rows.all fun p => decide (p.2.claimed = none)) = true)) = true)
    obtain ⟨hfailed, hpending, hdone, hidle⟩ := of_decide_eq_true hstate
    refine ⟨s, hrun.mono fun _ _ _ => trivial, fun h => h 1 hfailed ?_⟩
    obtain ⟨log, hget, hstatus⟩ := Option.map_eq_some_iff.mp hpending
    refine ⟨log, hget, hstatus, ?_, fun k w x hw hx => ?_⟩
    · rintro ⟨d, delivery, hd, _, hstage⟩
      have hrow := List.all_eq_true.mp hdone (d, delivery) (Table.get?_eq_some.mp hd)
      exact hstage (of_decide_eq_true hrow)
    · have hrow := List.all_eq_true.mp hidle (k, w) (Table.get?_eq_some.mp hw)
      rw [of_decide_eq_true hrow] at hx
      cases hx

end Shopping
