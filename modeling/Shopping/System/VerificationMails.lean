import Shopping.Lib.Run
import Shopping.Users.Outcomes
import Shopping.Users.Resends

/-!
# Verification mails and the transactions that publish them

`send_verification_email` and a registration publish the message of their token
in the transaction that writes the token, so a worker can look for the token
before it is there, and gives up.  `get_or_create` looks for the log of a token
and makes it in two steps, and what becomes of a mail is written to the log as
it was then.

`verification_mails` says exactly when this goes well: the message is still to
be executed when its transaction commits, no other execution has made the log
that an execution makes, and none marks a log as failed that was sent.
-/

namespace Shopping

open EmailTasks

/-- A transaction that has published its message and not committed: the rows
that it adds, and the tokens that it invalidates. -/
structure OpenTransaction where
  mail : VerificationMail
  /-- The new user of a registration. -/
  user : Option User
  token : EmailVerificationToken
  invalidated : List Nat

/-- The committed tables, the transactions and the messages.  `relapsed` are the
logs that were sent when they were marked as failed, which the code does not
keep. -/
structure MailDesk where
  now : Time := 0
  db : AccountDb := {}
  transactions : Table OpenTransaction := Table.empty
  deliveries : Table EmailTasks.Delivery := Table.empty
  relapsed : List Nat := []

/-- What can happen.  A token and a code are random values of the step that
makes them. -/
inductive MailEvent where
  | tick (seconds : Nat)
  /-- `perform_create` up to its commit. -/
  | register (data : RegisterData) (token : Nat) (code : String)
  /-- `send_verification_email` up to its commit. -/
  | send (user : UserId) (isResend : Bool) (token : Nat) (code : String)
  | commit (transaction : Nat)
  | rollback (transaction : Nat)
  /-- The broker delivers a message that was not acknowledged once more. -/
  | redeliver (delivery : Nat)
  /-- The worker of an execution dies, and the message goes back. -/
  | crash (delivery : Nat)
  | lookUp (delivery : Nat)
  | create (delivery : Nat)
  | finish (delivery : Nat) (outcome : MailOutcome) (retry : Bool)

namespace MailDesk

/-- No token was made yet. -/
def start (now : Time) (users : Table User) : MailDesk := { now := now, db := { users := users } }

/-- A unique constraint or a row lock lets `t` wait for another transaction. -/
def waitsFor (t other : OpenTransaction) : Bool :=
  decide (t.token.token = other.token.token) ||
    (decide (t.mail.user = other.mail.user) &&
      decide (t.token.verificationCode = other.token.verificationCode)) ||
    (t.user.any fun row => other.user.any fun row' =>
      decide (row.email = row'.email) || decide (row.username = row'.username)) ||
    t.invalidated.any fun id => decide (id ∈ other.invalidated)

/-- The transaction has its keys and has published its message. -/
def publish (w : MailDesk) (t : OpenTransaction) : MailDesk :=
  { w with
    db := { w.db with
      users := if t.user.isSome then w.db.users.reserve else w.db.users
      tokens := w.db.tokens.reserve }
    transactions := w.transactions.insert t
    deliveries := w.deliveries.insert { mail := t.mail } }

/-- The transaction up to its commit, when it does not have to wait. -/
def begin (w : MailDesk) (t : OpenTransaction) : Option MailDesk :=
  if w.transactions.any fun _ other => waitsFor t other then none else some (w.publish t)

/-- The transaction is over. -/
def close (w : MailDesk) (n : Nat) : Table OpenTransaction :=
  w.transactions.delete fun k _ => decide (k = n)

/-- The rows of a transaction that commits. -/
def committed (db : AccountDb) (t : OpenTransaction) : AccountDb :=
  { db with
    users :=
      match t.user with
      | none => db.users
      | some row => db.users.put t.mail.user row
    tokens := (db.tokens.mapRows fun id row =>
      if id ∈ t.invalidated then { row with isUsed := true } else row).put t.mail.token t.token }

/-- A delivery moves on. -/
def setDelivery (w : MailDesk) (n : Nat) (d : EmailTasks.Delivery) : MailDesk :=
  { w with deliveries := w.deliveries.modify n fun _ => d }

/-- The status of a log. -/
def statusOf (db : AccountDb) (log : Nat) : Option EmailStatus :=
  (db.emailLogs.get? log).map EmailLog.status

/-- What becomes of the mail of the n-th delivery. -/
def finish (w : MailDesk) (n : Nat) (d : EmailTasks.Delivery) (log : Nat) (outcome : MailOutcome)
    (retry : Bool) : MailDesk :=
  let out := finishMail w.db w.now d log retry outcome
  { w.setDelivery n out.2 with
    db := out.1
    relapsed :=
      if outcome = .refused ∧ statusOf w.db log = some .sent then w.relapsed ++ [log]
      else w.relapsed }

/-- One event.  A call that raises changes nothing. -/
def step (normalizeEmail : String → String) (w : MailDesk) : MailEvent → Option MailDesk
  | .tick seconds => some { w with now := w.now + seconds }
  | .register data token code =>
    match UserService.performCreate normalizeEmail w.db w.now data token code with
    | .error _ => some w
    | .ok (user, mail, db) => do
      let row ← db.users.get? user
      let written ← db.tokens.get? mail.token
      w.begin ⟨mail, some row, written, []⟩
  | .send user isResend token code => do
    let row ← w.db.users.get? user
    match EmailVerificationService.sendVerificationEmail w.db w.now user row isResend token
        code with
    | .error _ => some w
    | .ok (mail, db) => do
      let written ← db.tokens.get? mail.token
      let unused := w.db.tokens.select fun _ t => decide (t.user = user) && !t.isUsed
      w.begin ⟨mail, none, written, unused.map Prod.fst⟩
  | .commit n => do
    let t ← w.transactions.get? n
    some { w with db := committed w.db t, transactions := w.close n }
  | .rollback n => do
    let _ ← w.transactions.get? n
    some { w with transactions := w.close n }
  | .redeliver n => do
    let d ← w.deliveries.get? n
    if d.stage = .done then none
    else some { w with deliveries := w.deliveries.insert { d with stage := .queued } }
  | .crash n => do
    let d ← w.deliveries.get? n
    if d.stage = .done then none else some (w.setDelivery n { d with stage := .queued })
  | .lookUp n => do
    let d ← w.deliveries.get? n
    match d.stage with
    | .queued => some (w.setDelivery n { d with stage := lookUpLog w.db d.mail })
    | _ => none
  | .create n => do
    let d ← w.deliveries.get? n
    match d.stage with
    | .creating user =>
      let out := createLog w.db w.now d.mail user
      some { w.setDelivery n { d with stage := out.2 } with db := out.1 }
    | _ => none
  | .finish n outcome retry => do
    let d ← w.deliveries.get? n
    match d.stage with
    | .sending log => some (w.finish n d log outcome retry)
    | _ => none

/-! ## Lost and doubled mails -/

/-- A message for the token is on its way or is executed. -/
def inFlight (w : MailDesk) (token : Nat) : Bool :=
  w.deliveries.any fun _ d => decide (d.mail.token = token) && decide (d.stage ≠ .done)

/-- No message is in flight. -/
def Quiet (w : MailDesk) : Prop := ∀ n d, w.deliveries.get? n = some d → d.stage = .done

/-- The logs of a token. -/
def logsOf (db : AccountDb) (token : Nat) : List (Nat × EmailLog) :=
  db.emailLogs.select fun _ l => decide (l.token = token)

/-- Every committed token has one log, sent or failed, and no log that was sent
went back to failed. -/
def Delivered (w : MailDesk) : Prop :=
  (∀ token row, w.db.tokens.get? token = some row →
    ∃ id log, logsOf w.db token = [(id, log)] ∧ (log.status = .sent ∨ log.status = .failed)) ∧
  w.relapsed = []

/-- A transaction commits while its message is in flight, a log is made only
for a token without one, and a mail is not refused whose log says that it was
sent. -/
def inTime (w : MailDesk) : MailEvent → Bool
  | .commit n => (w.transactions.get? n).all fun t => w.inFlight t.mail.token
  | .create n => (w.deliveries.get? n).all fun d => (logsOf w.db d.mail.token).isEmpty
  | .finish n outcome _ => (w.deliveries.get? n).all fun d =>
    match d.stage with
    | .sending log => decide (outcome ≠ .refused) || decide (statusOf w.db log ≠ some .sent)
    | _ => true
  | _ => true

/-! ## What an event does -/

/-- The change that an event makes. -/
inductive MailChange (w : MailDesk) : MailEvent → MailDesk → Prop
  | quiet {e : MailEvent} (hin : w.inTime e = true) (now : Time) :
      MailChange w e { w with now := now }
  | publish {e : MailEvent} {t : OpenTransaction} (hin : w.inTime e = true)
      (hkey : t.mail.token = w.db.tokens.next)
      (howner : t.user.isSome = true ∨ (w.db.users.get? t.mail.user).isSome = true) :
      MailChange w e (w.publish t)
  | commit {n : Nat} {t : OpenTransaction} (ht : w.transactions.get? n = some t) :
      MailChange w (.commit n) { w with db := committed w.db t, transactions := w.close n }
  | rollback (n : Nat) : MailChange w (.rollback n) { w with transactions := w.close n }
  | redeliver {n : Nat} {d : EmailTasks.Delivery} (hd : w.deliveries.get? n = some d)
      (hlive : d.stage ≠ .done) : MailChange w (.redeliver n)
        { w with deliveries := w.deliveries.insert { d with stage := .queued } }
  /-- The execution looks for its log, or its message goes back. -/
  | move {e : MailEvent} {n : Nat} {d : EmailTasks.Delivery} {stage : Sending}
      (hin : w.inTime e = true) (hd : w.deliveries.get? n = some d) (hlive : d.stage ≠ .done)
      (hstage : stage = .queued ∨ stage = lookUpLog w.db d.mail) :
      MailChange w e (w.setDelivery n { d with stage := stage })
  | create {n : Nat} {d : EmailTasks.Delivery} {user : User} (hd : w.deliveries.get? n = some d)
      (hstage : d.stage = .creating user) : MailChange w (.create n)
        { w.setDelivery n { d with stage := .sending w.db.emailLogs.next } with
          db := (createLog w.db w.now d.mail user).1 }
  /-- The log is marked as sent or as failed. -/
  | mark {n : Nat} {d d' : EmailTasks.Delivery} {log : Nat} {outcome : MailOutcome} {retry : Bool}
      {f : EmailLog → EmailLog} {relapsed : List Nat} (hd : w.deliveries.get? n = some d)
      (hstage : d.stage = .sending log) (hmail : d'.mail = d.mail)
      (hd' : d'.stage = .queued ∨ d'.stage = .done) (hf : ∀ l, (f l).token = l.token)
      (hmarked : ∀ l, (f l).status ≠ .pending)
      (hrelapsed : relapsed =
        if w.inTime (.finish n outcome retry) then w.relapsed else w.relapsed ++ [log]) :
      MailChange w (.finish n outcome retry)
        { w.setDelivery n d' with db := saveLog w.db log f, relapsed := relapsed }

variable {normalizeEmail : String → String} {w w' : MailDesk} {e : MailEvent}

theorem MailChange.of_begin {t : OpenTransaction} (hin : w.inTime e = true)
    (hkey : t.mail.token = w.db.tokens.next)
    (howner : t.user.isSome = true ∨ (w.db.users.get? t.mail.user).isSome = true)
    (h : w.begin t = some w') : MailChange w e w' := by
  unfold begin at h
  split_ifs at h
  cases h
  exact .publish hin hkey howner

theorem createToken_key {db db' : AccountDb} {now : Time} {user : UserId} {token id : Nat}
    {code : String} (h : EmailVerificationToken.create db now user token code = .ok (id, db')) :
    id = db.tokens.next := by
  unfold EmailVerificationToken.create at h
  split_ifs at h
  cases h
  rfl

theorem performCreate_mail {db db' : AccountDb} {now : Time} {data : RegisterData} {token : Nat}
    {code : String} {user : UserId} {mail : VerificationMail}
    (h : UserService.performCreate normalizeEmail db now data token code = .ok (user, mail, db')) :
    mail.token = db.tokens.next := by
  unfold UserService.performCreate at h
  split_ifs at h
  obtain ⟨⟨user', created⟩, hcreated, h⟩ := bind_eq_ok.mp h
  obtain ⟨⟨mail', registered⟩, hregistered, h⟩ := bind_eq_ok.mp h
  cases h
  obtain ⟨_, hdb, _⟩ := createUser_ok hcreated
  subst hdb
  unfold UserService.registerUser at hregistered
  obtain ⟨⟨id, db''⟩, htoken, hregistered⟩ := bind_eq_ok.mp hregistered
  cases hregistered
  have hkey := createToken_key htoken
  exact hkey

theorem sendVerificationEmail_mail {db db' : AccountDb} {now : Time} {u : UserId} {user : User}
    {isResend : Bool} {token : Nat} {code : String} {mail : VerificationMail}
    (h : EmailVerificationService.sendVerificationEmail db now u user isResend token code
      = .ok (mail, db')) : mail.user = u ∧ mail.token = db.tokens.next := by
  unfold EmailVerificationService.sendVerificationEmail at h
  dsimp only at h
  split_ifs at h
  obtain ⟨⟨id, db''⟩, htoken, h⟩ := bind_eq_ok.mp h
  cases h
  have hkey := createToken_key htoken
  exact ⟨rfl, hkey⟩

/-- The end of an execution. -/
theorem MailChange.of_finish {n : Nat} {d : EmailTasks.Delivery} {log : Nat} {outcome : MailOutcome}
    {retry : Bool} (hd : w.deliveries.get? n = some d) (hstage : d.stage = .sending log) :
    MailChange w (.finish n outcome retry) (w.finish n d log outcome retry) := by
  have hin : w.inTime (.finish n outcome retry)
      = (decide (outcome ≠ .refused) || decide (statusOf w.db log ≠ some .sent)) := by
    simp only [inTime, hd, Option.all_some, hstage]
  have hlive : d.stage ≠ .done := by
    rw [hstage]
    exact nofun
  cases outcome with
  | sent =>
    refine .mark hd hstage rfl (Or.inr rfl) (fun _ => rfl) (fun _ => nofun) ?_
    rw [hin]
    rfl
  | died => exact .move (by rw [hin]; rfl) hd hlive (Or.inl rfl)
  | refused =>
    refine .mark hd hstage ?_ ?_ (fun _ => rfl) (fun _ => nofun) ?_
    · dsimp only [finishMail]
      split_ifs
      · rfl
      · rfl
    · dsimp only [finishMail]
      split_ifs
      · exact Or.inl rfl
      · exact Or.inr rfl
    · rw [hin]
      by_cases hsent : statusOf w.db log = some .sent
      · simp [hsent]
      · simp [hsent]

/-- Every event makes one of the changes. -/
theorem step_change (h : step normalizeEmail w e = some w') : MailChange w e w' := by
  cases e with
  | tick seconds =>
    cases h
    exact .quiet rfl _
  | register data token code =>
    simp only [step] at h
    cases hcreate : UserService.performCreate normalizeEmail w.db w.now data token code with
    | error e =>
      rw [hcreate] at h
      cases h
      exact .quiet rfl w.now
    | ok out =>
      obtain ⟨user, mail, db⟩ := out
      rw [hcreate] at h
      obtain ⟨row, _, h⟩ := Option.bind_eq_some_iff.mp h
      obtain ⟨written, _, h⟩ := Option.bind_eq_some_iff.mp h
      exact .of_begin rfl (performCreate_mail hcreate) (Or.inl rfl) h
  | send user isResend token code =>
    simp only [step] at h
    obtain ⟨row, hrow, h⟩ := Option.bind_eq_some_iff.mp h
    cases hsend : EmailVerificationService.sendVerificationEmail w.db w.now user row isResend
        token code with
    | error e =>
      rw [hsend] at h
      cases h
      exact .quiet rfl w.now
    | ok out =>
      obtain ⟨mail, db⟩ := out
      rw [hsend] at h
      obtain ⟨written, _, h⟩ := Option.bind_eq_some_iff.mp h
      obtain ⟨huser, hkey⟩ := sendVerificationEmail_mail hsend
      refine .of_begin rfl hkey (Or.inr ?_) h
      rw [huser, hrow]
      rfl
  | commit n =>
    obtain ⟨t, ht, h⟩ := Option.bind_eq_some_iff.mp h
    cases h
    exact .commit ht
  | rollback n =>
    obtain ⟨t, ht, h⟩ := Option.bind_eq_some_iff.mp h
    cases h
    exact .rollback n
  | redeliver n =>
    obtain ⟨d, hd, h⟩ := Option.bind_eq_some_iff.mp h
    split_ifs at h with hlive
    cases h
    exact .redeliver hd hlive
  | crash n =>
    obtain ⟨d, hd, h⟩ := Option.bind_eq_some_iff.mp h
    split_ifs at h with hlive
    cases h
    exact .move rfl hd hlive (Or.inl rfl)
  | lookUp n =>
    obtain ⟨d, hd, h⟩ := Option.bind_eq_some_iff.mp h
    split at h
    next hstage =>
      cases h
      exact .move rfl hd (by rw [hstage]; exact nofun) (Or.inr rfl)
    next => cases h
  | create n =>
    obtain ⟨d, hd, h⟩ := Option.bind_eq_some_iff.mp h
    split at h
    next hstage =>
      cases h
      exact .create hd hstage
    next => cases h
  | finish n outcome retry =>
    obtain ⟨d, hd, h⟩ := Option.bind_eq_some_iff.mp h
    split at h
    next hstage =>
      cases h
      exact .of_finish hd hstage
    next => cases h

/-! ### The tables after a change -/

section

variable {db : AccountDb} {t : OpenTransaction} {k : Nat}

theorem committed_tokens : ((committed db t).tokens.get? k).isSome = true ↔
    k = t.mail.token ∨ (db.tokens.get? k).isSome = true := by
  unfold committed
  dsimp only
  rw [Table.get?_put]
  by_cases hk : k = t.mail.token
  · simp [hk]
  · simp [hk]

theorem next_le_committed : db.tokens.next ≤ (committed db t).tokens.next := le_max_left _ _

theorem committed_users {u : UserId} (h : (db.users.get? u).isSome = true) :
    ((committed db t).users.get? u).isSome = true := by
  unfold committed
  dsimp only
  cases t.user with
  | none => exact h
  | some row =>
    dsimp only
    rw [Table.get?_put]
    split_ifs
    · rfl
    · exact h

/-- The user of the token is there with the token. -/
theorem committed_owner (h : t.user.isSome = true ∨ (db.users.get? t.mail.user).isSome = true) :
    ((committed db t).users.get? t.mail.user).isSome = true := by
  unfold committed
  dsimp only
  cases huser : t.user with
  | none =>
    rw [huser] at h
    exact h.resolve_left Bool.false_ne_true
  | some row =>
    dsimp only
    rw [Table.get?_put, if_pos rfl]
    rfl

theorem publish_users (w : MailDesk) (u : UserId) :
    (w.publish t).db.users.get? u = w.db.users.get? u := by
  unfold publish
  dsimp only
  split_ifs
  · rfl
  · rfl

theorem close_get? {w : MailDesk} {n m : Nat} (h : (w.close n).get? m = some t) :
    w.transactions.get? m = some t ∧ m ≠ n := by
  unfold close at h
  rw [Table.get?_delete, Option.filter_eq_some_iff] at h
  exact ⟨h.1, by simpa using h.2⟩

theorem lookUpLog_creating {mail : VerificationMail} {user : User}
    (h : lookUpLog db mail = .creating user) : (db.tokens.get? mail.token).isSome = true := by
  unfold lookUpLog at h
  split at h
  · rename_i htoken
    rw [htoken]
    rfl
  · cases h

theorem lookUpLog_sending {mail : VerificationMail} {id : Nat}
    (h : lookUpLog db mail = .sending id) :
    ∃ log, db.emailLogs.get? id = some log ∧ log.token = mail.token := by
  unfold lookUpLog at h
  split at h
  · split at h
    · cases h
    · rename_i id' log hlogs
      split_ifs at h
      cases h
      obtain ⟨hget, htoken⟩ := Table.mem_select.mp (hlogs ▸ List.mem_singleton_self (id, log))
      exact ⟨log, hget, of_decide_eq_true htoken⟩
    · cases h
  · cases h

/-- An execution gives up without its token, or when it finds a log that was
sent, or two. -/
theorem lookUpLog_done {mail : VerificationMail} (h : lookUpLog db mail = .done)
    (huser : (db.users.get? mail.user).isSome = true)
    (htoken : (db.tokens.get? mail.token).isSome = true) :
    (∃ id log, logsOf db mail.token = [(id, log)] ∧ log.status = .sent) ∨
      2 ≤ (logsOf db mail.token).length := by
  obtain ⟨user, huser⟩ := Option.isSome_iff_exists.mp huser
  obtain ⟨token, htoken⟩ := Option.isSome_iff_exists.mp htoken
  unfold lookUpLog at h
  rw [huser, htoken] at h
  dsimp only at h
  unfold logsOf
  split at h
  · cases h
  · rename_i id log hlogs
    split_ifs at h with hsent
    exact Or.inl ⟨id, log, hlogs, hsent⟩
  · rename_i hnil hone
    refine Or.inr ?_
    cases hlogs : db.emailLogs.select fun _ l => decide (l.token = mail.token) with
    | nil => exact absurd hlogs hnil
    | cons p rest =>
      cases rest with
      | nil => exact absurd hlogs (hone p.1 p.2)
      | cons q rest => exact Nat.le_add_left 2 rest.length

/-- A log that was marked was there, for the same token. -/
theorem saveLog_from {log id : Nat} {f : EmailLog → EmailLog} {l : EmailLog}
    (h : (saveLog db log f).emailLogs.get? id = some l) (hf : ∀ l, (f l).token = l.token) :
    ∃ l', db.emailLogs.get? id = some l' ∧ l'.token = l.token :=
  Table.modify_from (P := fun l' => l'.token = l.token) h rfl fun l' hl' => (hf l').symm.trans hl'

theorem mem_logsOf {token id : Nat} {log : EmailLog} :
    (id, log) ∈ logsOf db token ↔ db.emailLogs.get? id = some log ∧ log.token = token := by
  unfold logsOf
  rw [Table.mem_select, decide_eq_true_eq]

end

/-! ## Every run -/

/-- What the tables hold of a delivery. -/
structure Tracked (w : MailDesk) (d : EmailTasks.Delivery) : Prop where
  known : d.mail.token < w.db.tokens.next
  user : (w.db.tokens.get? d.mail.token).isSome = true →
    (w.db.users.get? d.mail.user).isSome = true
  mail : ∀ n t, w.transactions.get? n = some t → d.mail.token = t.mail.token → d.mail = t.mail
  creating : ∀ user, d.stage = .creating user → (w.db.tokens.get? d.mail.token).isSome = true
  sending : ∀ id, d.stage = .sending id →
    ∃ log, w.db.emailLogs.get? id = some log ∧ log.token = d.mail.token

/-- The token of a transaction is not there, a log has its token, and every
delivery is tracked. -/
structure WellFormed (w : MailDesk) : Prop where
  fresh : ∀ n t, w.transactions.get? n = some t →
    t.mail.token < w.db.tokens.next ∧ w.db.tokens.get? t.mail.token = none
  apart : ∀ n m t t', w.transactions.get? n = some t → w.transactions.get? m = some t' →
    t.mail.token = t'.mail.token → n = m
  owner : ∀ n t, w.transactions.get? n = some t →
    t.user.isSome = true ∨ (w.db.users.get? t.mail.user).isSome = true
  logs : ∀ id log, w.db.emailLogs.get? id = some log →
    (w.db.tokens.get? log.token).isSome = true
  deliveries : ∀ n d, w.deliveries.get? n = some d → Tracked w d

theorem WellFormed.start (now : Time) (users : Table User) : WellFormed (start now users) where
  fresh n t h := by cases h
  apart n m t t' h := by cases h
  owner n t h := by cases h
  logs id log h := by cases h
  deliveries n d h := by cases h

theorem WellFormed.publish (h : WellFormed w) {t : OpenTransaction}
    (hkey : t.mail.token = w.db.tokens.next)
    (howner : t.user.isSome = true ∨ (w.db.users.get? t.mail.user).isSome = true) :
    WellFormed (w.publish t) where
  fresh n t' ht' := by
    rcases Table.insert_cases ht' with ⟨_, rfl⟩ | ht'
    · refine ⟨hkey ▸ Nat.lt_succ_self _, ?_⟩
      rw [hkey]
      exact Table.get?_next _
    · obtain ⟨hlt, hnone⟩ := h.fresh n t' ht'
      exact ⟨Nat.lt_succ_of_lt hlt, hnone⟩
  apart n m t₁ t₂ h₁ h₂ hsame := by
    rcases Table.insert_cases h₁ with ⟨hn, rfl⟩ | hold₁
    · rcases Table.insert_cases h₂ with ⟨hm, _⟩ | hold₂
      · exact hn.trans hm.symm
      · exact absurd (hsame.symm.trans hkey) (Nat.ne_of_lt (h.fresh m t₂ hold₂).1)
    · rcases Table.insert_cases h₂ with ⟨hm, rfl⟩ | hold₂
      · exact absurd (hsame.trans hkey) (Nat.ne_of_lt (h.fresh n t₁ hold₁).1)
      · exact h.apart n m t₁ t₂ hold₁ hold₂ hsame
  owner n t' ht' := by
    rw [publish_users]
    rcases Table.insert_cases ht' with ⟨_, rfl⟩ | ht'
    · exact howner
    · exact h.owner n t' ht'
  logs := h.logs
  deliveries n d hd := by
    rcases Table.insert_cases hd with ⟨_, rfl⟩ | hd
    · refine ⟨hkey ▸ Nat.lt_succ_self _, fun htoken => ?_, fun m t' ht' hsame => ?_,
        fun user hs => ?_, fun id hs => ?_⟩
      · have hnone : (w.publish t).db.tokens.get? w.db.tokens.next = none := Table.get?_next _
        dsimp only at htoken
        rw [hkey, hnone] at htoken
        cases htoken
      · rcases Table.insert_cases ht' with ⟨_, rfl⟩ | ht'
        · rfl
        · exact absurd (hsame.symm.trans hkey) (Nat.ne_of_lt (h.fresh m t' ht').1)
      · cases hs
      · cases hs
    · have htracked := h.deliveries n d hd
      refine ⟨Nat.lt_succ_of_lt htracked.known, fun htoken => ?_, fun m t' ht' hsame => ?_,
        htracked.creating, htracked.sending⟩
      · rw [publish_users]
        exact htracked.user htoken
      · rcases Table.insert_cases ht' with ⟨_, rfl⟩ | ht'
        · exact absurd (hsame.trans hkey) (Nat.ne_of_lt htracked.known)
        · exact htracked.mail m t' ht' hsame

theorem WellFormed.rollback (h : WellFormed w) (n : Nat) :
    WellFormed { w with transactions := w.close n } where
  fresh m t ht := h.fresh m t (close_get? ht).1
  apart m m' t t' ht ht' := h.apart m m' t t' (close_get? ht).1 (close_get? ht').1
  owner m t ht := h.owner m t (close_get? ht).1
  logs := h.logs
  deliveries m d hd := by
    have htracked := h.deliveries m d hd
    exact ⟨htracked.known, htracked.user, fun k t ht => htracked.mail k t (close_get? ht).1,
      htracked.creating, htracked.sending⟩

theorem WellFormed.commit (h : WellFormed w) {n : Nat} {t : OpenTransaction}
    (ht : w.transactions.get? n = some t) :
    WellFormed { w with db := committed w.db t, transactions := w.close n } where
  fresh m t' ht' := by
    obtain ⟨hold, hne⟩ := close_get? ht'
    obtain ⟨hlt, hnone⟩ := h.fresh m t' hold
    refine ⟨Nat.lt_of_lt_of_le hlt next_le_committed, ?_⟩
    rw [← Option.not_isSome_iff_eq_none, committed_tokens, hnone]
    rintro (hsame | hsome)
    · exact hne (h.apart m n t' t hold ht hsame)
    · cases hsome
  apart m m' t₁ t₂ h₁ h₂ := h.apart m m' t₁ t₂ (close_get? h₁).1 (close_get? h₂).1
  owner m t' ht' := (h.owner m t' (close_get? ht').1).imp_right committed_users
  logs id log hlog := committed_tokens.mpr (Or.inr (h.logs id log hlog))
  deliveries m d hd := by
    have htracked := h.deliveries m d hd
    refine ⟨Nat.lt_of_lt_of_le htracked.known next_le_committed, fun htoken => ?_,
      fun k t' ht' => htracked.mail k t' (close_get? ht').1,
      fun user hstage => committed_tokens.mpr (Or.inr (htracked.creating user hstage)),
      htracked.sending⟩
    rcases committed_tokens.mp htoken with hsame | hsome
    · rw [htracked.mail n t ht hsame]
      exact committed_owner (h.owner n t ht)
    · exact committed_users (htracked.user hsome)

/-- A delivery in another stage. -/
theorem Tracked.stage {d d' : EmailTasks.Delivery} (h : Tracked w d) (hmail : d'.mail = d.mail)
    (hcreating : ∀ user, d'.stage = .creating user →
      (w.db.tokens.get? d.mail.token).isSome = true)
    (hsending : ∀ id, d'.stage = .sending id →
      ∃ log, w.db.emailLogs.get? id = some log ∧ log.token = d.mail.token) : Tracked w d' where
  known := hmail ▸ h.known
  user := hmail ▸ h.user
  mail := hmail ▸ h.mail
  creating := hmail ▸ hcreating
  sending := hmail ▸ hsending

/-- A delivery that waits for a worker, or is over. -/
theorem Tracked.rest {d d' : EmailTasks.Delivery} (h : Tracked w d) (hmail : d'.mail = d.mail)
    (hd' : d'.stage = .queued ∨ d'.stage = .done) : Tracked w d' := by
  refine h.stage hmail (fun user hs => ?_) fun id hs => ?_
  · rw [hs] at hd'
    exact absurd hd' (not_or.mpr ⟨nofun, nofun⟩)
  · rw [hs] at hd'
    exact absurd hd' (not_or.mpr ⟨nofun, nofun⟩)

theorem WellFormed.redeliver (h : WellFormed w) {n : Nat} {d : EmailTasks.Delivery}
    (hd : w.deliveries.get? n = some d) :
    WellFormed { w with deliveries := w.deliveries.insert { d with stage := .queued } } := by
  refine ⟨h.fresh, h.apart, h.owner, h.logs, fun m d' hd' => ?_⟩
  have htracked : Tracked w d' := by
    rcases Table.insert_cases hd' with ⟨_, rfl⟩ | hd'
    · exact (h.deliveries n d hd).rest rfl (Or.inl rfl)
    · exact h.deliveries m d' hd'
  exact ⟨htracked.known, htracked.user, htracked.mail, htracked.creating, htracked.sending⟩

theorem WellFormed.setDelivery (h : WellFormed w) (n : Nat) {d' : EmailTasks.Delivery}
    (hd' : Tracked w d') : WellFormed (w.setDelivery n d') := by
  refine ⟨h.fresh, h.apart, h.owner, h.logs, fun m d hd => ?_⟩
  have htracked : Tracked w d := by
    rcases Table.modify_cases hd with ⟨_, _, _, rfl⟩ | ⟨_, hd⟩
    · exact hd'
    · exact h.deliveries m d hd
  exact ⟨htracked.known, htracked.user, htracked.mail, htracked.creating, htracked.sending⟩

/-- Logs that keep their tokens. -/
theorem WellFormed.withLogs (h : WellFormed w) {logs : Table EmailLog} {relapsed : List Nat}
    (hold : ∀ id log, w.db.emailLogs.get? id = some log →
      ∃ log', logs.get? id = some log' ∧ log'.token = log.token)
    (hnew : ∀ id log, logs.get? id = some log → (w.db.tokens.get? log.token).isSome = true) :
    WellFormed { w with db := { w.db with emailLogs := logs }, relapsed := relapsed } := by
  refine ⟨h.fresh, h.apart, h.owner, hnew, fun m d hd => ?_⟩
  have htracked := h.deliveries m d hd
  refine ⟨htracked.known, htracked.user, htracked.mail, htracked.creating, fun id hstage => ?_⟩
  obtain ⟨log, hlog, htoken⟩ := htracked.sending id hstage
  obtain ⟨log', hlog', hsame⟩ := hold id log hlog
  exact ⟨log', hlog', hsame.trans htoken⟩

theorem WellFormed.change (h : WellFormed w) (hchange : MailChange w e w') : WellFormed w' := by
  cases hchange with
  | quiet _ now =>
    refine ⟨h.fresh, h.apart, h.owner, h.logs, fun m d hd => ?_⟩
    have htracked := h.deliveries m d hd
    exact ⟨htracked.known, htracked.user, htracked.mail, htracked.creating, htracked.sending⟩
  | publish _ hkey howner => exact h.publish hkey howner
  | commit ht => exact h.commit ht
  | rollback n => exact h.rollback n
  | redeliver hd _ => exact h.redeliver hd
  | @move _ n d stage _ hd _ hstage =>
    have htracked := h.deliveries n d hd
    rcases hstage with rfl | rfl
    · exact h.setDelivery n (htracked.rest rfl (Or.inl rfl))
    · exact h.setDelivery n (htracked.stage rfl (fun _ hs => lookUpLog_creating hs)
        fun _ hs => lookUpLog_sending hs)
  | @create n d user hd hstage =>
    have htracked := h.deliveries n d hd
    have hlogged : WellFormed { w with
        db := (createLog w.db w.now d.mail user).1, relapsed := w.relapsed } := by
      refine h.withLogs (fun id log hlog => ⟨log, Table.get?_insert_of_some hlog _, rfl⟩)
        fun id log hlog => ?_
      rcases Table.insert_cases hlog with ⟨_, rfl⟩ | hlog
      · exact htracked.creating user hstage
      · exact h.logs id log hlog
    refine hlogged.setDelivery n ⟨htracked.known, htracked.user, htracked.mail,
      fun user hs => ?_, fun id hs => ?_⟩
    · cases hs
    · cases hs
      exact ⟨_, Table.get?_insert_next _ _, rfl⟩
  | @mark n d d' log _ _ f relapsed hd hstage hmail hd' hf _ _ =>
    have hmarked : WellFormed { w with db := saveLog w.db log f, relapsed := relapsed } := by
      refine h.withLogs (fun id l hl => ?_) fun id l hl => ?_
      · exact Table.modify_keeps (P := fun l' => l'.token = l.token) hl rfl log (hf l)
      · obtain ⟨l', hl', hsame⟩ := saveLog_from hl hf
        rw [← hsame]
        exact h.logs id l' hl'
    exact hmarked.setDelivery n ((hmarked.deliveries n d hd).rest hmail hd')

/-! ### Messages in flight -/

theorem inFlight_eq_true {token : Nat} : w.inFlight token = true ↔
    ∃ n d, w.deliveries.get? n = some d ∧ d.mail.token = token ∧ d.stage ≠ .done := by
  unfold inFlight
  simp only [Table.any_eq_true, Bool.and_eq_true, decide_eq_true_eq]

/-- A new message is in flight, and takes none away. -/
theorem inFlight_insert {d : EmailTasks.Delivery} {deliveries : Table EmailTasks.Delivery}
    {token : Nat} (hdeliveries : w'.deliveries = deliveries.insert d)
    (hold : w.deliveries = deliveries) :
    w'.inFlight token = true ↔
      w.inFlight token = true ∨ d.mail.token = token ∧ d.stage ≠ .done := by
  rw [inFlight_eq_true, inFlight_eq_true, hdeliveries, hold]
  constructor
  · rintro ⟨n, d', hd', htoken, hlive⟩
    rcases Table.insert_cases hd' with ⟨_, rfl⟩ | hd'
    · exact Or.inr ⟨htoken, hlive⟩
    · exact Or.inl ⟨n, d', hd', htoken, hlive⟩
  · rintro (⟨n, d', hd', htoken, hlive⟩ | ⟨htoken, hlive⟩)
    · exact ⟨n, d', Table.get?_insert_of_some hd' d, htoken, hlive⟩
    · exact ⟨deliveries.next, d, Table.get?_insert_next _ _, htoken, hlive⟩

/-- A live delivery that moves on: its message stays in flight unless it is
done, and the other messages are as before. -/
theorem inFlight_of_setDelivery {n token : Nat} {d d' : EmailTasks.Delivery}
    (hd : w.deliveries.get? n = some d) (hlive : d.stage ≠ .done) (hmail : d'.mail = d.mail)
    (h : (w.setDelivery n d').inFlight token = true) : w.inFlight token = true := by
  obtain ⟨m, d₁, hd₁, htoken, hlive₁⟩ := inFlight_eq_true.mp h
  refine inFlight_eq_true.mpr ?_
  rcases Table.modify_cases hd₁ with ⟨_, _, _, rfl⟩ | ⟨_, hd₁⟩
  · exact ⟨n, d, hd, hmail ▸ htoken, hlive⟩
  · exact ⟨m, d₁, hd₁, htoken, hlive₁⟩

theorem inFlight_setDelivery {n token : Nat} {d d' : EmailTasks.Delivery}
    (hd : w.deliveries.get? n = some d) (hmail : d'.mail = d.mail)
    (hlive : d'.stage ≠ .done ∨ d.mail.token ≠ token) (h : w.inFlight token = true) :
    (w.setDelivery n d').inFlight token = true := by
  obtain ⟨m, d₁, hd₁, htoken, hlive₁⟩ := inFlight_eq_true.mp h
  refine inFlight_eq_true.mpr ?_
  by_cases hm : m = n
  · rw [hm, hd, Option.some.injEq] at hd₁
    refine ⟨n, d', ?_, ?_, ?_⟩
    · unfold setDelivery
      rw [Table.get?_modify_self, hd]
      rfl
    · rw [hmail, hd₁, htoken]
    · exact hlive.resolve_right fun hne => hne (hd₁ ▸ htoken)
  · refine ⟨m, d₁, ?_, htoken, hlive₁⟩
    unfold setDelivery
    rw [Table.get?_modify, if_neg hm]
    exact hd₁

/-! ## Runs in time -/

/-- A token has one log at most, a token whose log is missing or pending has a
message in flight, and no log went back to failed. -/
structure OnTime (w : MailDesk) : Prop where
  wellFormed : WellFormed w
  one : ∀ i j l l', w.db.emailLogs.get? i = some l → w.db.emailLogs.get? j = some l' →
    l.token = l'.token → i = j
  settled : ∀ token, (w.db.tokens.get? token).isSome = true → w.inFlight token = true ∨
    ∃ id log, w.db.emailLogs.get? id = some log ∧ log.token = token ∧ log.status ≠ .pending
  never : w.relapsed = []

theorem OnTime.start (now : Time) (users : Table User) : OnTime (start now users) where
  wellFormed := WellFormed.start now users
  one i j l l' h := by cases h
  settled token h := by cases h
  never := rfl

/-- The logs of a token are one, when it has at most one and has one. -/
theorem OnTime.logsOf_eq (h : OnTime w) {id : Nat} {log : EmailLog}
    (hlog : w.db.emailLogs.get? id = some log) : logsOf w.db log.token = [(id, log)] := by
  refine List.perm_singleton.mp ((List.perm_ext_iff_of_nodup
    ((Table.select_nodup _ _).of_map _) (List.nodup_singleton _)).mpr fun p => ?_)
  obtain ⟨i, l⟩ := p
  show (i, l) ∈ logsOf w.db log.token ↔ (i, l) ∈ [(id, log)]
  rw [mem_logsOf, List.mem_singleton, Prod.mk.injEq]
  constructor
  · rintro ⟨hl, htoken⟩
    obtain rfl := h.one i id l log hl hlog htoken
    rw [hlog, Option.some.injEq] at hl
    exact ⟨rfl, hl.symm⟩
  · rintro ⟨rfl, rfl⟩
    exact ⟨hlog, rfl⟩

/-- An execution that gives up found its log to be sent. -/
theorem OnTime.lookUpLog_done (h : OnTime w) {n : Nat} {d : EmailTasks.Delivery}
    (hd : w.deliveries.get? n = some d) (hdone : lookUpLog w.db d.mail = .done)
    (htoken : (w.db.tokens.get? d.mail.token).isSome = true) :
    ∃ id log, w.db.emailLogs.get? id = some log ∧ log.token = d.mail.token ∧
      log.status ≠ .pending := by
  have huser := (h.wellFormed.deliveries n d hd).user htoken
  rcases MailDesk.lookUpLog_done hdone huser htoken with ⟨id, log, hlogs, hsent⟩ | htwo
  · obtain ⟨hget, hlog⟩ := mem_logsOf.mp (hlogs ▸ List.mem_singleton_self (id, log))
    exact ⟨id, log, hget, hlog, by rw [hsent]; exact nofun⟩
  · cases hlogs : logsOf w.db d.mail.token with
    | nil =>
      rw [hlogs] at htwo
      cases htwo
    | cons p rest =>
      obtain ⟨id, log⟩ := p
      obtain ⟨hget, hlog⟩ := mem_logsOf.mp (hlogs ▸ List.mem_cons_self)
      rw [← hlog, h.logsOf_eq hget, List.length_singleton] at htwo
      omega

/-- When an execution moves on, its token has a message or a log that is settled. -/
theorem OnTime.settled_move (h : OnTime w) {n token : Nat} {d : EmailTasks.Delivery}
    {stage : Sending} (hd : w.deliveries.get? n = some d)
    (hstage : stage = .queued ∨ stage = lookUpLog w.db d.mail)
    (htoken : (w.db.tokens.get? token).isSome = true) :
    (w.setDelivery n { d with stage := stage }).inFlight token = true ∨
      ∃ id log, w.db.emailLogs.get? id = some log ∧ log.token = token ∧
        log.status ≠ .pending := by
  by_cases hdone : stage = .done
  · by_cases hsame : d.mail.token = token
    · refine Or.inr ?_
      rcases hstage with hstage | hstage
      · rw [hdone] at hstage
        cases hstage
      · rw [← hsame] at htoken ⊢
        exact h.lookUpLog_done hd (hstage.symm.trans hdone) htoken
    · exact (h.settled token htoken).imp_left (inFlight_setDelivery hd rfl (Or.inr hsame))
  · exact (h.settled token htoken).imp_left (inFlight_setDelivery hd rfl (Or.inl hdone))

/-- A log is made for a token without one. -/
theorem OnTime.create (h : OnTime w) {n : Nat} {d : EmailTasks.Delivery} {user : User}
    (hd : w.deliveries.get? n = some d) (hnone : logsOf w.db d.mail.token = [])
    (hwell : WellFormed { w.setDelivery n { d with stage := .sending w.db.emailLogs.next } with
      db := (createLog w.db w.now d.mail user).1 }) :
    OnTime { w.setDelivery n { d with stage := .sending w.db.emailLogs.next } with
      db := (createLog w.db w.now d.mail user).1 } := by
  have hfree : ∀ id log, w.db.emailLogs.get? id = some log → log.token ≠ d.mail.token := by
    intro id log hlog hsame
    have hmem := mem_logsOf.mpr ⟨hlog, hsame⟩
    rw [hnone] at hmem
    cases hmem
  refine ⟨hwell, fun i j l l' hi hj hsame => ?_, fun token htoken => ?_, h.never⟩
  · rcases Table.insert_cases hi with ⟨hi', rfl⟩ | hi
    · rcases Table.insert_cases hj with ⟨hj', _⟩ | hj
      · exact hi'.trans hj'.symm
      · exact absurd hsame.symm (hfree j l' hj)
    · rcases Table.insert_cases hj with ⟨_, rfl⟩ | hj
      · exact absurd hsame (hfree i l hi)
      · exact h.one i j l l' hi hj hsame
  · rcases h.settled token htoken with hflight | ⟨id, log, hlog, hrest⟩
    · exact Or.inl (inFlight_setDelivery hd rfl (Or.inl nofun) hflight)
    · exact Or.inr ⟨id, log, Table.get?_insert_of_some hlog _, hrest⟩

/-- A log is marked as sent, or one that was not sent as failed. -/
theorem OnTime.mark (h : OnTime w) {n log : Nat} {d d' : EmailTasks.Delivery}
    {f : EmailLog → EmailLog} (hd : w.deliveries.get? n = some d) (hstage : d.stage = .sending log)
    (hmail : d'.mail = d.mail) (hf : ∀ l, (f l).token = l.token)
    (hmarked : ∀ l, (f l).status ≠ .pending)
    (hwell : WellFormed { w.setDelivery n d' with db := saveLog w.db log f }) :
    OnTime { w.setDelivery n d' with db := saveLog w.db log f } := by
  obtain ⟨own, hown, hownToken⟩ := (h.wellFormed.deliveries n d hd).sending log hstage
  refine ⟨hwell, fun i j l l' hi hj hsame => ?_, fun token htoken => ?_, h.never⟩
  · obtain ⟨l₁, hl₁, hl₁token⟩ := saveLog_from hi hf
    obtain ⟨l₂, hl₂, hl₂token⟩ := saveLog_from hj hf
    exact h.one i j l₁ l₂ hl₁ hl₂ (hl₁token.trans (hsame.trans hl₂token.symm))
  · by_cases hsame : d.mail.token = token
    · refine Or.inr ⟨log, f own, ?_, ?_, hmarked own⟩
      · dsimp only [saveLog]
        rw [Table.get?_modify_self, hown]
        rfl
      · rw [hf, hownToken, hsame]
    · rcases h.settled token htoken with hflight | ⟨id, l, hl, hltoken, hstatus⟩
      · exact Or.inl (inFlight_setDelivery hd hmail (Or.inr hsame) hflight)
      · obtain ⟨l', hl', hltoken', hstatus'⟩ := Table.modify_keeps
          (P := fun l' => l'.token = token ∧ l'.status ≠ .pending) hl ⟨hltoken, hstatus⟩ log
          ⟨(hf l).trans hltoken, hmarked l⟩
        exact Or.inr ⟨id, l', hl', hltoken', hstatus'⟩

/-- A change in time. -/
theorem OnTime.change (h : OnTime w) (hin : w.inTime e = true) (hchange : MailChange w e w') :
    OnTime w' := by
  have hwell := h.wellFormed.change hchange
  cases hchange with
  | quiet _ now => exact ⟨hwell, h.one, h.settled, h.never⟩
  | publish _ hkey howner =>
    refine ⟨hwell, h.one, fun token htoken => ?_, h.never⟩
    refine (h.settled token htoken).imp_left fun hflight => ?_
    exact (inFlight_insert rfl rfl).mpr (Or.inl hflight)
  | @commit n t ht =>
    refine ⟨hwell, h.one, fun token htoken => ?_, h.never⟩
    rcases committed_tokens.mp htoken with rfl | hold
    · unfold inTime at hin
      dsimp only at hin
      rw [ht, Option.all_some] at hin
      exact Or.inl hin
    · exact h.settled token hold
  | rollback n => exact ⟨hwell, h.one, h.settled, h.never⟩
  | redeliver hd hlive =>
    refine ⟨hwell, h.one, fun token htoken => ?_, h.never⟩
    refine (h.settled token htoken).imp_left fun hflight => ?_
    exact (inFlight_insert rfl rfl).mpr (Or.inl hflight)
  | move _ hd _ hstage =>
    exact ⟨hwell, h.one, fun token htoken => h.settled_move hd hstage htoken, h.never⟩
  | create hd hstage =>
    unfold inTime at hin
    dsimp only at hin
    rw [hd, Option.all_some, List.isEmpty_iff] at hin
    exact h.create hd hin hwell
  | mark hd hstage hmail hd' hf hmarked hrelapsed =>
    rw [if_pos hin] at hrelapsed
    subst hrelapsed
    exact h.mark hd hstage hmail hf hmarked hwell

/-- Without messages in flight, everything was delivered. -/
theorem OnTime.delivered (h : OnTime w) (hquiet : w.Quiet) : Delivered w := by
  refine ⟨fun token row htoken => ?_, h.never⟩
  rcases h.settled token (by rw [htoken]; rfl) with hflight | ⟨id, log, hlog, rfl, hstatus⟩
  · obtain ⟨n, d, hd, _, hlive⟩ := inFlight_eq_true.mp hflight
    exact absurd (hquiet n d hd) hlive
  · refine ⟨id, log, h.logsOf_eq hlog, ?_⟩
    cases hs : log.status with
    | pending => exact absurd hs hstatus
    | sent => exact Or.inl rfl
    | failed => exact Or.inr rfl

/-! ## Runs that come too late -/

/-- A mail is lost for good, doubled, or a log went back to failed. -/
structure TooLate (w : MailDesk) : Prop where
  wellFormed : WellFormed w
  harm : (∃ token, (w.db.tokens.get? token).isSome = true ∧ w.inFlight token = false ∧
      ∀ id log, w.db.emailLogs.get? id = some log → log.token ≠ token) ∨
    (∃ i j l l', w.db.emailLogs.get? i = some l ∧ w.db.emailLogs.get? j = some l' ∧
      l.token = l'.token ∧ i ≠ j) ∨
    w.relapsed ≠ []

/-- A change that is not in time does harm. -/
theorem OnTime.late (h : OnTime w) (hin : w.inTime e = false) (hchange : MailChange w e w') :
    TooLate w' := by
  refine ⟨h.wellFormed.change hchange, ?_⟩
  cases hchange with
  | quiet hok _ => exact absurd (hok.symm.trans hin) (by decide)
  | publish hok _ _ => exact absurd (hok.symm.trans hin) (by decide)
  | @commit n t ht =>
    unfold inTime at hin
    dsimp only at hin
    rw [ht, Option.all_some] at hin
    refine Or.inl ⟨t.mail.token, committed_tokens.mpr (Or.inl rfl), hin, ?_⟩
    intro id log hlog hsame
    have hcommitted := h.wellFormed.logs id log hlog
    rw [hsame, (h.wellFormed.fresh n t ht).2] at hcommitted
    cases hcommitted
  | rollback n => cases hin
  | redeliver _ _ => cases hin
  | move hok _ _ _ => exact absurd (hok.symm.trans hin) (by decide)
  | @create n d user hd hstage =>
    unfold inTime at hin
    dsimp only at hin
    rw [hd, Option.all_some, List.isEmpty_eq_false_iff] at hin
    obtain ⟨⟨id, log⟩, hmem⟩ := List.exists_mem_of_ne_nil _ hin
    obtain ⟨hlog, hsame⟩ := mem_logsOf.mp hmem
    exact Or.inr (Or.inl ⟨id, w.db.emailLogs.next, log, _, Table.get?_insert_of_some hlog _,
      Table.get?_insert_next _ _, hsame, Nat.ne_of_lt (Table.lt_next hlog)⟩)
  | mark _ _ _ _ _ _ hrelapsed =>
    refine Or.inr (Or.inr ?_)
    dsimp only
    rw [hrelapsed, hin]
    exact List.append_ne_nil_of_right_ne_nil _ (List.cons_ne_nil _ _)

/-- No log is deleted or gets another token. -/
theorem MailChange.keeps_log (hchange : MailChange w e w') {id : Nat} {log : EmailLog}
    (hlog : w.db.emailLogs.get? id = some log) :
    ∃ log', w'.db.emailLogs.get? id = some log' ∧ log'.token = log.token := by
  cases hchange with
  | create _ _ => exact ⟨log, Table.get?_insert_of_some hlog _, rfl⟩
  | mark _ _ _ _ hf _ _ =>
    exact Table.modify_keeps (P := fun l => l.token = log.token) hlog rfl _ (hf log)
  | _ => exact ⟨log, hlog, rfl⟩

/-- A new log is made by an execution. -/
theorem MailChange.log_from (hchange : MailChange w e w') {id : Nat} {log : EmailLog}
    (hlog : w'.db.emailLogs.get? id = some log) :
    (∃ log', w.db.emailLogs.get? id = some log' ∧ log'.token = log.token) ∨
      w.inFlight log.token = true := by
  cases hchange with
  | @create n d user hd hstage =>
    rcases Table.insert_cases hlog with ⟨_, rfl⟩ | hlog
    · exact Or.inr (inFlight_eq_true.mpr ⟨n, d, hd, rfl, by rw [hstage]; exact nofun⟩)
    · exact Or.inl ⟨log, hlog, rfl⟩
  | mark _ _ _ _ hf _ _ =>
    exact Or.inl (saveLog_from hlog hf)
  | _ => exact Or.inl ⟨log, hlog, rfl⟩

theorem MailChange.keeps_token (hchange : MailChange w e w') {token : Nat}
    (htoken : (w.db.tokens.get? token).isSome = true) :
    (w'.db.tokens.get? token).isSome = true := by
  cases hchange with
  | commit _ => exact committed_tokens.mpr (Or.inr htoken)
  | _ => exact htoken

/-- Only a new token gets a message when it has none. -/
theorem MailChange.inFlight_from (hchange : MailChange w e w') {token : Nat}
    (hflight : w'.inFlight token = true) :
    w.inFlight token = true ∨ token = w.db.tokens.next := by
  cases hchange with
  | publish _ hkey _ =>
    rcases (inFlight_insert rfl rfl).mp hflight with hold | ⟨rfl, _⟩
    · exact Or.inl hold
    · exact Or.inr hkey
  | @redeliver n d hd hlive =>
    rcases (inFlight_insert rfl rfl).mp hflight with hold | ⟨hsame, _⟩
    · exact Or.inl hold
    · exact Or.inl (inFlight_eq_true.mpr ⟨n, d, hd, hsame, hlive⟩)
  | move _ hd hlive _ =>
    refine Or.inl (inFlight_of_setDelivery hd hlive ?_ hflight)
    rfl
  | create hd hstage =>
    refine Or.inl (inFlight_of_setDelivery hd (by rw [hstage]; exact nofun) ?_ hflight)
    rfl
  | mark hd hstage hmail _ _ _ _ =>
    exact Or.inl (inFlight_of_setDelivery hd (by rw [hstage]; exact nofun) hmail hflight)
  | _ => exact Or.inl hflight

/-- Harm stays. -/
theorem TooLate.change (h : TooLate w) (hchange : MailChange w e w') : TooLate w' := by
  refine ⟨h.wellFormed.change hchange, ?_⟩
  rcases h.harm with
    ⟨token, htoken, hflight, hnone⟩ | ⟨i, j, l, l', hl, hl', hsame, hne⟩ | hrelapsed
  · refine Or.inl ⟨token, hchange.keeps_token htoken, ?_, fun id log hlog htok => ?_⟩
    · by_contra hnew
      rw [Bool.not_eq_false] at hnew
      rcases hchange.inFlight_from hnew with hold | rfl
      · rw [hflight] at hold
        cases hold
      · rw [Table.get?_next] at htoken
        cases htoken
    · rcases hchange.log_from hlog with ⟨log', hlog', hsame⟩ | hold
      · exact hnone id log' hlog' (hsame.trans htok)
      · rw [htok, hflight] at hold
        cases hold
  · obtain ⟨k, hk, hktoken⟩ := hchange.keeps_log hl
    obtain ⟨k', hk', hktoken'⟩ := hchange.keeps_log hl'
    exact Or.inr (Or.inl ⟨i, j, k, k', hk, hk', hktoken.trans (hsame.trans hktoken'.symm), hne⟩)
  · refine Or.inr (Or.inr ?_)
    cases hchange with
    | mark _ _ _ _ _ _ hrel =>
      dsimp only
      rw [hrel]
      split_ifs
      · exact hrelapsed
      · exact List.append_ne_nil_of_left_ne_nil hrelapsed _
    | _ => exact hrelapsed

theorem TooLate.not_delivered (h : TooLate w) : ¬ Delivered w := by
  rintro ⟨hall, hnever⟩
  rcases h.harm with ⟨token, htoken, _, hnone⟩ | ⟨i, j, l, l', hl, hl', hsame, hne⟩ | hrelapsed
  · obtain ⟨row, hrow⟩ := Option.isSome_iff_exists.mp htoken
    obtain ⟨id, log, hlogs, _⟩ := hall token row hrow
    obtain ⟨hlog, hsame⟩ := mem_logsOf.mp (hlogs ▸ List.mem_singleton_self (id, log))
    exact hnone id log hlog hsame
  · obtain ⟨row, hrow⟩ := Option.isSome_iff_exists.mp (h.wellFormed.logs i l hl)
    obtain ⟨id, log, hlogs, _⟩ := hall l.token row hrow
    have hi : (i, l) ∈ [(id, log)] := hlogs ▸ mem_logsOf.mpr ⟨hl, rfl⟩
    have hj : (j, l') ∈ [(id, log)] := hlogs ▸ mem_logsOf.mpr ⟨hl', hsame.symm⟩
    rw [List.mem_singleton, Prod.mk.injEq] at hi hj
    exact hne (hi.1.trans hj.1.symm)
  · exact hrelapsed hnever

end MailDesk

/-! ## The runs -/

/-- A run from tables without tokens that ends with no message in flight has
delivered everything exactly when all its steps were in time. -/
theorem verification_mails {normalizeEmail : String → String} {now : Time} {users : Table User}
    {es : List MailEvent} {w : MailDesk}
    (h : Run (MailDesk.step normalizeEmail) (fun _ _ => True) (MailDesk.start now users) es w)
    (hquiet : w.Quiet) :
    w.Delivered ↔ Run (MailDesk.step normalizeEmail) (fun w e => w.inTime e = true)
      (MailDesk.start now users) es w := by
  have hends : Run (MailDesk.step normalizeEmail) (fun w e => w.inTime e = true)
        (MailDesk.start now users) es w ∧ w.OnTime ∨
      ¬ Run (MailDesk.step normalizeEmail) (fun w e => w.inTime e = true)
        (MailDesk.start now users) es w ∧ w.TooLate :=
    h.good_or_bad MailDesk.OnTime MailDesk.TooLate (MailDesk.OnTime.start now users)
    (fun w e w' hw hin hstep => hw.change hin (MailDesk.step_change hstep))
    (fun w e w' hw hin hstep => hw.late (Bool.not_eq_true _ ▸ hin) (MailDesk.step_change hstep))
    fun w e w' hw hstep => hw.change (MailDesk.step_change hstep)
  rcases hends with ⟨hrun, hgood⟩ | ⟨hrun, hbad⟩
  · exact ⟨fun _ => hrun, fun _ => hgood.delivered hquiet⟩
  · exact ⟨fun hdelivered => absurd hdelivered hbad.not_delivered, fun h' => absurd h' hrun⟩

/-- `lee` is registered and not verified. -/
def leeRegistered : MailDesk :=
  MailDesk.start 0 (Table.empty.insert { username := "lee", email := "lee@shop.kr" })

theorem MailDesk.quiet_of_rows {w : MailDesk}
    (h : (w.deliveries.rows.all fun p => decide (p.2.stage = .done)) = true) : w.Quiet := by
  intro n d hd
  exact of_decide_eq_true (List.all_eq_true.mp h (n, d) (Table.get?_eq_some.mp hd))

/-- The mail is refused once, and its message is delivered twice. -/
theorem verification_mails_retried :
    ∃ w, Run (MailDesk.step fun s => s) (fun w e => w.inTime e = true) leeRegistered
        [.send 1 false 77 "L33000", .commit 1, .lookUp 1, .create 1, .finish 1 .refused true,
          .redeliver 1, .lookUp 1, .finish 1 .sent false, .lookUp 2] w ∧
      w.Quiet ∧ w.Delivered := by
  obtain ⟨w, hrun, hend⟩ := Run.exists_of_execIf (by decide +kernel :
    (execIf (MailDesk.step fun s => s) MailDesk.inTime leeRegistered
      [.send 1 false 77 "L33000", .commit 1, .lookUp 1, .create 1, .finish 1 .refused true,
        .redeliver 1, .lookUp 1, .finish 1 .sent false, .lookUp 2]).any
      (fun w => w.deliveries.rows.all fun p => decide (p.2.stage = .done)) = true)
  have hquiet := MailDesk.quiet_of_rows hend
  have hall : Run (MailDesk.step fun s => s) (fun _ _ => True) leeRegistered _ w :=
    hrun.mono fun _ _ _ => trivial
  exact ⟨w, hrun, hquiet, (verification_mails hall hquiet).mpr hrun⟩

/-- A run that ends with a token without a log or with two, or with a log that
went back to failed. -/
theorem MailDesk.not_delivered_of_rows {es : List MailEvent}
    (h : (exec (MailDesk.step fun s => s) leeRegistered es).any (fun w =>
      (w.deliveries.rows.all fun p => decide (p.2.stage = .done)) &&
        ((w.db.tokens.rows.any fun p => decide ((MailDesk.logsOf w.db p.1).length ≠ 1)) ||
          decide (w.relapsed ≠ []))) = true) :
    ∃ w, exec (MailDesk.step fun s => s) leeRegistered es = some w ∧ w.Quiet ∧ ¬ w.Delivered := by
  obtain ⟨w, hw, hend⟩ := (Option.any_eq_true _ _).mp h
  obtain ⟨hquiet, hend⟩ := Bool.and_eq_true_iff.mp hend
  refine ⟨w, hw, MailDesk.quiet_of_rows hquiet, fun ⟨hall, hnever⟩ => ?_⟩
  rcases Bool.or_eq_true_iff.mp hend with hlogs | hrelapsed
  · obtain ⟨⟨token, row⟩, hmem, hlength⟩ := List.any_eq_true.mp hlogs
    obtain ⟨id, log, hone, _⟩ := hall token row (Table.get?_eq_some.mpr hmem)
    exact of_decide_eq_true hlength (by rw [hone]; rfl)
  · exact of_decide_eq_true hrelapsed hnever

/-- A worker looks for the token before the commit; two workers make the log of
one token; a worker fails to send after another one has sent. -/
theorem mails_not_delivered :
    (∃ w, exec (MailDesk.step fun s => s) leeRegistered
        [.send 1 false 77 "L33000", .lookUp 1, .commit 1] = some w ∧
      w.Quiet ∧ ¬ w.Delivered) ∧
    (∃ w, exec (MailDesk.step fun s => s) leeRegistered
        [.send 1 false 77 "L33000", .commit 1, .redeliver 1, .lookUp 1, .lookUp 2, .create 1,
          .create 2, .finish 1 .sent false, .finish 2 .sent false] = some w ∧
      w.Quiet ∧ ¬ w.Delivered) ∧
    ∃ w, exec (MailDesk.step fun s => s) leeRegistered
        [.send 1 false 77 "L33000", .commit 1, .lookUp 1, .create 1, .redeliver 1, .lookUp 2,
          .finish 1 .sent false, .finish 2 .refused false] = some w ∧
      w.Quiet ∧ ¬ w.Delivered :=
  ⟨MailDesk.not_delivered_of_rows (by decide +kernel),
    MailDesk.not_delivered_of_rows (by decide +kernel),
    MailDesk.not_delivered_of_rows (by decide +kernel)⟩

end Shopping
