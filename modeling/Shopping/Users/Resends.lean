import Shopping.Users.Verification

/-!
# Sending and resending a verification mail

The statements of `send_verification_email_task` and
`retry_failed_emails_task` of `shopping/tasks/email_tasks.py`, one by one: each
of them reads or writes the logs as they are then.

A worker that dies gives its message back (`acks_late`), and a refused mail is
tried again `maxRetries` times.  `get_or_create` has no unique constraint to
hold on to, so it is a `get` and a `create`.
-/

namespace Shopping

namespace EmailTasks

/-- How far a delivery of the task is. -/
inductive Sending where
  | queued
  | creating (user : User)
  | sending (log : Nat)
  | done
  deriving DecidableEq, Repr

/-- A message of `send_verification_email_task`. -/
structure Delivery where
  mail : VerificationMail
  retries : Nat := 0
  stage : Sending := .queued
  deriving DecidableEq, Repr

/-- `max_retries`. -/
def maxRetries : Nat := 3

/-- The task up to the look for its log.  Two logs make `get` raise, and there
is no log to mark then. -/
def lookUpLog (db : AccountDb) (mail : VerificationMail) : Sending :=
  match db.users.get? mail.user, db.tokens.get? mail.token with
  | some user, some _ =>
    match db.emailLogs.select fun _ l => decide (l.token = mail.token) with
    | [] => .creating user
    | [(id, log)] => if log.status = .sent then .done else .sending id
    | _ => .done
  | _, _ => .done

/-- The `create` of `get_or_create`. -/
def createLog (db : AccountDb) (now : Time) (mail : VerificationMail) (user : User) :
    AccountDb × Sending :=
  ({ db with emailLogs := db.emailLogs.insert (newLog now mail user) },
    .sending db.emailLogs.next)

/-- The rest of the task: what it makes of the log and of its message. -/
def finishMail (db : AccountDb) (now : Time) (d : Delivery) (log : Nat) (retry : Bool) :
    MailOutcome → AccountDb × Delivery
  | .sent => (markAsSent db log, { d with stage := .done })
  | .died => (db, { d with stage := .queued })
  | .refused =>
    (markAsFailed db now log,
      if retry ∧ d.retries < maxRetries then
        { d with retries := d.retries + 1, stage := .queued }
      else { d with stage := .done })

/-- A log that the sweep has read, with its token and its user. -/
structure SweptLog where
  id : Nat
  log : EmailLog
  token : EmailVerificationToken
  user : User
  deriving DecidableEq, Repr

/-- `failed_logs`; `resendAfter` are minutes. -/
def failedLogs (db : AccountDb) (now : Time) (maxResends resendAfter : Nat) : List SweptLog :=
  (db.emailLogs.select fun _ l => decide (l.status = .failed) &&
    decide (now ≤ l.createdAt + 24 * 60 * 60) && decide (l.resendCount < maxResends) &&
    !l.failedAt.any fun failedAt => decide (now < failedAt + resendAfter * 60)).filterMap
    fun p =>
      (db.tokens.get? p.2.token).bind fun token =>
        (db.users.get? p.2.user).map fun user => ⟨p.1, p.2, token, user⟩

/-- The token of the log has expired, or its user is verified. -/
def isSkipped (now : Time) (x : SweptLog) : Bool :=
  x.token.isExpired now || x.user.isEmailVerified

/-- `filter(pk=email_log.pk, status="failed").update(...)`: whether it found
the row. -/
def claimLog (db : AccountDb) (id : Nat) : Bool × AccountDb :=
  match db.emailLogs.get? id with
  | none => (false, db)
  | some log =>
    if log.status = .failed then
      (true, saveLog db id fun l => { l with status := .pending, resendCount := l.resendCount + 1 })
    else (false, db)

/-- The message of `send_verification_email_task.delay(...)` in the sweep. -/
def resendMail (x : SweptLog) : VerificationMail :=
  { user := x.log.user, token := x.log.token, isResend := true }

/-! ## What the statements do -/

variable {db : AccountDb}

/-- How often the log has been sent again; a log that is not there has not. -/
def resendsOf (db : AccountDb) (id : Nat) : Nat :=
  ((db.emailLogs.get? id).map EmailLog.resendCount).getD 0

theorem resendsOf_saveLog (f : EmailLog → EmailLog) (hf : ∀ l, (f l).resendCount = l.resendCount)
    (id j : Nat) : resendsOf (saveLog db id f) j = resendsOf db j := by
  unfold resendsOf saveLog
  rw [Table.get?_modify]
  split
  · cases db.emailLogs.get? j with
    | none => rfl
    | some l => exact hf l
  · rfl

theorem resendsOf_createLog (now : Time) (mail : VerificationMail) (user : User) (j : Nat) :
    resendsOf (createLog db now mail user).1 j = resendsOf db j := by
  unfold resendsOf createLog
  rw [Table.get?_insert]
  split
  · rename_i hj
    rw [hj, Table.get?_next]
    rfl
  · rfl

theorem resendsOf_finishMail (now : Time) (d : Delivery) (log : Nat) (retry : Bool)
    (outcome : MailOutcome) (j : Nat) :
    resendsOf (finishMail db now d log retry outcome).1 j = resendsOf db j := by
  cases outcome with
  | sent => exact resendsOf_saveLog (fun l => { l with status := .sent }) (fun _ => rfl) log j
  | died => rfl
  | refused =>
    exact resendsOf_saveLog (fun l => { l with status := .failed, failedAt := some now })
      (fun _ => rfl) log j

/-- A claim counts one resend of a failed log. -/
theorem claimLog_cases (db : AccountDb) (id : Nat) :
    (claimLog db id = (false, db) ∧
      ∀ log, db.emailLogs.get? id = some log → log.status ≠ .failed) ∨
    ((claimLog db id).1 = true ∧
      (∃ log, db.emailLogs.get? id = some log ∧ log.status = .failed) ∧
      (claimLog db id).2.users = db.users ∧ (claimLog db id).2.tokens = db.tokens ∧
      ∀ j, resendsOf (claimLog db id).2 j = resendsOf db j + if j = id then 1 else 0) := by
  unfold claimLog
  cases hget : db.emailLogs.get? id with
  | none => exact Or.inl ⟨rfl, nofun⟩
  | some log =>
    by_cases hfailed : log.status = .failed
    · refine Or.inr ?_
      simp only [if_pos hfailed]
      refine ⟨trivial, ⟨log, rfl, hfailed⟩, rfl, rfl, fun j => ?_⟩
      unfold resendsOf saveLog
      rw [Table.get?_modify]
      by_cases hj : j = id
      · rw [if_pos hj, if_pos hj, hj, hget]
        rfl
      · rw [if_neg hj, if_neg hj, Nat.add_zero]
    · refine Or.inl ⟨by simp only [if_neg hfailed], fun l hl => ?_⟩
      cases hl
      exact hfailed

/-- The task as a whole, when no other statement comes between. -/
theorem sendVerificationEmailTask_eq {now : Time} {mail : VerificationMail} {outcome : MailOutcome}
    (hone : ∀ i j l l', db.emailLogs.get? i = some l → db.emailLogs.get? j = some l' →
      l.token = mail.token → l'.token = mail.token → i = j) :
    (sendVerificationEmailTask db now mail outcome).2 =
      match lookUpLog db mail with
      | .creating user =>
        (finishMail (createLog db now mail user).1 now { mail := mail } db.emailLogs.next false
          outcome).1
      | .sending id => (finishMail db now { mail := mail } id false outcome).1
      | _ => db := by
  unfold sendVerificationEmailTask lookUpLog
  cases db.users.get? mail.user with
  | none => rfl
  | some user =>
    cases db.tokens.get? mail.token with
    | none => rfl
    | some token =>
      dsimp only
      unfold getOrCreateLog
      cases hfind : db.emailLogs.find? fun _ l => decide (l.token = mail.token) with
      | none =>
        have hselect : (db.emailLogs.select fun _ l => decide (l.token = mail.token)) = [] := by
          rw [List.eq_nil_iff_forall_not_mem]
          rintro ⟨i, l⟩ hil
          obtain ⟨hget, hp⟩ := Table.mem_select.mp hil
          have hno := Table.find?_eq_none.mp hfind i l hget
          rw [hp] at hno
          cases hno
        rw [hselect]
        dsimp only
        rw [if_neg (by simp [newLog])]
        cases outcome <;> rfl
      | some found =>
        obtain ⟨id, log⟩ := found
        obtain ⟨hget, hp⟩ := Table.find?_eq_some_get hfind
        have htoken : log.token = mail.token := of_decide_eq_true hp
        have hselect : (db.emailLogs.select fun _ l => decide (l.token = mail.token))
            = [(id, log)] := by
          have hmem : ∀ p ∈ db.emailLogs.select fun _ l => decide (l.token = mail.token),
              p = (id, log) := by
            rintro ⟨i, l⟩ hil
            obtain ⟨hgetl, hpl⟩ := Table.mem_select.mp hil
            have hi : i = id := hone i id l log hgetl hget (of_decide_eq_true hpl) htoken
            subst hi
            rw [hget, Option.some.injEq] at hgetl
            rw [hgetl]
          refine List.perm_singleton.mp ((List.perm_ext_iff_of_nodup
            ((Table.select_nodup _ _).of_map _) (List.nodup_singleton _)).mpr fun p => ?_)
          rw [List.mem_singleton]
          refine ⟨hmem p, fun hpl => ?_⟩
          rw [hpl]
          exact Table.mem_select.mpr ⟨hget, hp⟩
        rw [hselect]
        dsimp only
        by_cases hsent : log.status = .sent
        · rw [if_pos hsent, if_pos hsent]
        · rw [if_neg hsent, if_neg hsent]
          cases outcome <;> rfl

end EmailTasks

end Shopping
