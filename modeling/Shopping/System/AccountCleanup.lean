import Shopping.Orders.Outcomes
import Shopping.System.VerifiedEmail

/-!
# The clean-up of unverified accounts

`delete_unverified_users_task` and the command of the same name read the
unverified users that joined before a cutoff, look for the orders of one after
the other, and delete those without any.  The task deletes by id and reads
nothing again; the command deletes by email and looks at the flag again.

`trustsUnverified`, `trustsOrderless` and `trustsOwner` say what a job in
progress takes for granted without looking again.  A job is sound as long as
all of it is so (`CleanupJob.Sound`), and what a sound job deletes is eligible.

Verifications and changes of the email are those of `Identities`.  An order
whose user is deleted keeps the number of the user and is in `withoutUser`,
where the code writes a null.
-/

namespace Shopping

open OrderService (OrderDraft)

/-- The task or the command. -/
inductive CleanupKind where
  | task
  | command
  deriving DecidableEq, Repr

/-- `date_joined__lte=cutoff_date` of the task and `date_joined__lt` of the
command. -/
def CleanupKind.isOld (cutoff : Int) (joined : Time) : CleanupKind → Bool
  | .task => decide ((joined : Int) ≤ cutoff)
  | .command => decide ((joined : Int) < cutoff)

/-- What a job keeps of a user that it read. -/
structure UnverifiedUser where
  user : UserId
  email : String
  deriving DecidableEq, Repr

/-- How far a job is: it looks for the orders of `users`, it has selected the
rows to delete, or it is over. -/
inductive CleanupStage where
  | checking (users toDelete : List UnverifiedUser)
  | deleting (rows : List UserId)
  | finished

/-- A job in progress. -/
structure CleanupJob where
  kind : CleanupKind
  cutoff : Int
  stage : CleanupStage

/-- A user that was deleted, at the moment of the deletion. -/
structure Deletion where
  kind : CleanupKind
  cutoff : Int
  user : UserId
  row : User
  joined : Time
  hasOrder : Bool
  deriving DecidableEq, Repr

/-- The user was unverified, older than the cutoff and without any order. -/
def Deletion.Eligible (d : Deletion) : Prop :=
  d.row.isEmailVerified = false ∧ d.kind.isOld d.cutoff d.joined = true ∧ d.hasOrder = false

instance (d : Deletion) : Decidable d.Eligible := inferInstanceAs (Decidable (_ ∧ _ ∧ _))

/-- The accounts with `date_joined`, the shop with the calls of
`create_order_hybrid` that are before their transaction, the jobs, and the
deletions so far. -/
structure CleanedShop where
  accounts : Identities
  db : Db
  joined : UserId → Time
  withoutUser : List OrderId
  drafts : List (UserId × CartId × OrderDraft) := []
  jobs : List CleanupJob := []
  deletions : List Deletion := []

/-- What can happen. -/
inductive CleanupEvent where
  | account (e : IdentityEvent)
  /-- `create_order_hybrid` up to its transaction. -/
  | draftOrder (user : UserId) (cart : CartId) (postalCode : String) (usePoints : Int)
  /-- The transaction of the n-th draft. -/
  | placeOrder (n : Nat)
  /-- A job reads its users. -/
  | start (kind : CleanupKind) (days : Int)
  /-- The n-th job looks for the orders of its next user. -/
  | check (n : Nat)
  /-- The queries of the bulk delete: `yes` was entered, or not asked for. -/
  | select (n : Nat)
  /-- The deletion of the selected rows. -/
  | delete (n : Nat)
  /-- The worker dies, or the answer is not `yes`. -/
  | giveUp (n : Nat)

namespace CleanedShop

/-- `user.orders.exists()`. -/
def hasOrder (w : CleanedShop) (u : UserId) : Bool :=
  w.db.orders.any fun o order => decide (order.user = u) && decide (o ∉ w.withoutUser)

/-- Nothing is in progress. -/
def start (accounts : Identities) (db : Db) (joined : UserId → Time)
    (withoutUser : List OrderId) : CleanedShop :=
  { accounts := accounts, db := db, joined := joined, withoutUser := withoutUser }

/-- The users of a job, the newest first. -/
def readUsers (w : CleanedShop) (kind : CleanupKind) (cutoff : Int) : List UnverifiedUser :=
  ((w.accounts.db.users.select fun u row =>
    !row.isEmailVerified && kind.isOld cutoff (w.joined u)).insertionSort
      fun p q => w.joined q.1 ≤ w.joined p.1).map fun p => ⟨p.1, p.2.email⟩

/-- The next turn of the loop over the users. -/
def check (w : CleanedShop) (job : CleanupJob) : CleanupJob :=
  match job.stage with
  | .checking (c :: users) toDelete =>
    if w.hasOrder c.user then { job with stage := .checking users toDelete }
    else { job with stage := .checking users (toDelete ++ [c]) }
  | _ => job

/-- `filter(id__in=...)` of the task, and `filter(is_email_verified=False,
email__in=...)` of the command. -/
def rowsToDelete (w : CleanedShop) (toDelete : List UnverifiedUser) : CleanupKind → List UserId
  | .task =>
    (w.accounts.db.users.select fun u _ => decide (u ∈ toDelete.map UnverifiedUser.user)).map
      Prod.fst
  | .command =>
    (w.accounts.db.users.select fun _ row => !row.isEmailVerified &&
      decide (row.email ∈ toDelete.map UnverifiedUser.email)).map Prod.fst

/-- The queries of the delete; a return request protects its user. -/
def select (w : CleanedShop) (job : CleanupJob) : CleanupJob :=
  match job.stage with
  | .checking [] toDelete =>
    let rows := w.rowsToDelete toDelete job.kind
    if w.db.returns.any fun _ r => decide (r.user ∈ rows) then { job with stage := .finished }
    else { job with stage := .deleting rows }
  | _ => job

/-- The rows that are deleted, as they are now. -/
def deletionsOf (w : CleanedShop) (job : CleanupJob) (rows : List UserId) : List Deletion :=
  (w.accounts.db.users.select fun u _ => decide (u ∈ rows)).map fun p =>
    { kind := job.kind
      cutoff := job.cutoff
      user := p.1
      row := p.2
      joined := w.joined p.1
      hasOrder := w.hasOrder p.1 }

/-- The accounts without the rows and what goes with them. -/
def deleteAccounts (w : CleanedShop) (rows : List UserId) : AccountDb :=
  { w.accounts.db with
    users := w.accounts.db.users.delete fun u _ => decide (u ∈ rows)
    tokens := w.accounts.db.tokens.delete fun _ t => decide (t.user ∈ rows)
    socialAccounts := w.accounts.db.socialAccounts.filter fun u => decide (u ∉ rows) }

/-- The shop without the carts and the histories of the rows; their orders
stay. -/
def deleteInShop (w : CleanedShop) (rows : List UserId) : Db :=
  { w.db with
    carts := w.db.carts.delete fun _ c => c.user.any fun u => decide (u ∈ rows)
    ledger := { w.db.ledger with
      histories := w.db.ledger.histories.delete fun _ r => decide (r.user ∈ rows) } }

/-- The deletion of the selected rows. -/
def delete (w : CleanedShop) (job : CleanupJob) (rows : List UserId) : CleanedShop :=
  { w with
    accounts := { w.accounts with db := w.deleteAccounts rows }
    db := w.deleteInShop rows
    withoutUser := w.withoutUser ++
      (w.db.orders.select fun _ order => decide (order.user ∈ rows)).map Prod.fst
    deletions := w.deletions ++ w.deletionsOf job rows }

/-- The transaction of `create_order_hybrid`; an order needs its user. -/
def placed (w : CleanedShop) (user : UserId) (cart : CartId) (draft : OrderDraft) : Option Db :=
  match w.accounts.db.users.get? user with
  | none => none
  | some _ =>
    ((OrderService.placeOrder w.db w.accounts.now user cart draft).map Prod.snd).toOption

/-- A new state of the n-th job. -/
def setJob (w : CleanedShop) (n : Nat) (job : CleanupJob) : CleanedShop :=
  { w with jobs := w.jobs.set n job }

section

variable (upper normalizeEmail : String → String)

/-- One event.  What raises leaves the tables as they were. -/
def step (w : CleanedShop) : CleanupEvent → Option CleanedShop
  | .account e => do
    let accounts ← Identities.step upper normalizeEmail w.accounts e
    some { w with
      accounts := accounts
      joined := fun u => if u < w.accounts.db.users.next then w.joined u else w.accounts.now }
  | .draftOrder user cart postalCode usePoints =>
    match OrderDraft.of w.db user cart postalCode usePoints with
    | .error _ => some w
    | .ok draft => some { w with drafts := w.drafts ++ [(user, cart, draft)] }
  | .placeOrder n => do
    let (user, cart, draft) ← w.drafts[n]?
    match w.placed user cart draft with
    | none => some w
    | some db => some { w with db := db }
  | .start kind days =>
    let cutoff := (w.accounts.now : Int) - days * (24 * 60 * 60)
    some { w with jobs := w.jobs ++ [⟨kind, cutoff, .checking (w.readUsers kind cutoff) []⟩] }
  | .check n => do
    let job ← w.jobs[n]?
    some (w.setJob n (w.check job))
  | .select n => do
    let job ← w.jobs[n]?
    some (w.setJob n (w.select job))
  | .delete n => do
    let job ← w.jobs[n]?
    match job.stage with
    | .deleting rows => some ((w.delete job rows).setJob n { job with stage := .finished })
    | _ => none
  | .giveUp n => do
    let job ← w.jobs[n]?
    some (w.setJob n { job with stage := .finished })

end

end CleanedShop

/-! ## What a job trusts -/

namespace CleanupJob

/-- The users that the job may delete by id. -/
def users (job : CleanupJob) : List UserId :=
  match job.stage with
  | .checking users toDelete => (users ++ toDelete).map UnverifiedUser.user
  | .deleting rows => rows
  | .finished => []

/-- The job does not look at the flag of `u` again. -/
def trustsUnverified (hasOrder : UserId → Bool) (u : UserId) (job : CleanupJob) : Bool :=
  match job.kind, job.stage with
  | .task, .checking _ _ => decide (u ∈ job.users) && !hasOrder u
  | .command, .checking _ _ => false
  | _, .deleting rows => decide (u ∈ rows)
  | _, .finished => false

/-- The job does not look for orders of `u` again. -/
def trustsOrderless (u : UserId) (job : CleanupJob) : Bool :=
  match job.stage with
  | .checking _ toDelete => decide (u ∈ toDelete.map UnverifiedUser.user)
  | .deleting rows => decide (u ∈ rows)
  | .finished => false

/-- The job deletes whoever has `email`, and has not found `u` to be without
orders. -/
def trustsOwner (hasOrder : UserId → Bool) (u : UserId) (email : String) (job : CleanupJob) :
    Bool :=
  match job.kind, job.stage with
  | .command, .checking users toDelete =>
    !job.trustsOrderless u && (users ++ toDelete).any fun c =>
      decide (c.email = email) && decide (c.user ≠ u) && !hasOrder c.user
  | _, _ => false

end CleanupJob

/-- The email of a user. -/
def emailOf (users : Table User) (u : UserId) : Option String := (users.get? u).map User.email

/-- No two users have the same email, by the unique constraint. -/
def EmailsUnique (users : Table User) : Prop :=
  ∀ u v email, emailOf users u = some email → emailOf users v = some email → u = v

namespace CleanedShop

/-- A step verifies nobody whose flag a job does not look at again, gives
nobody an email by which a job deletes another, and places no order of a user
whose orders a job does not look for again. -/
def leavesJobsAlone (upper normalizeEmail : String → String) (w : CleanedShop) :
    CleanupEvent → Bool
  | .account e =>
    (Identities.step upper normalizeEmail w.accounts e).all fun accounts =>
      accounts.db.users.rows.all fun p =>
        (!p.2.isEmailVerified ||
          (w.accounts.db.users.get? p.1).any User.isEmailVerified ||
            !w.jobs.any (CleanupJob.trustsUnverified w.hasOrder p.1)) &&
        (decide (emailOf w.accounts.db.users p.1 = some p.2.email) ||
          !w.jobs.any (CleanupJob.trustsOwner w.hasOrder p.1 p.2.email))
  | .placeOrder n => w.drafts[n]?.all fun d =>
    (w.placed d.1 d.2.1 d.2.2).isNone || !w.jobs.any (CleanupJob.trustsOrderless d.1)
  | _ => true

end CleanedShop

theorem EmailsUnique.of_nodup {users : Table User}
    (h : (users.rows.map fun p => p.2.email).Nodup) : EmailsUnique users := by
  intro u v email hu hv
  obtain ⟨r, hr, hemail⟩ := Option.map_eq_some_iff.mp hu
  obtain ⟨s, hs, hemail'⟩ := Option.map_eq_some_iff.mp hv
  have hsame := List.inj_on_of_nodup_map h (Table.get?_eq_some.mp hr) (Table.get?_eq_some.mp hs)
    (hemail.trans hemail'.symm)
  exact congrArg Prod.fst hsame

/-! ## What a step does to the users -/

/-- At most one user is written: emails stay, or one user gets an email that
nobody else has. -/
inductive UsersStep (users users' : Table User) : Prop where
  | keep (hnext : users'.next = users.next) (h : ∀ u, emailOf users' u = emailOf users u)
  | write (k : UserId) (email : String) (hnext : users.next ≤ users'.next)
    (hfree : ∀ u, emailOf users u = some email → u = k)
    (h : ∀ u, emailOf users' u = if u = k then some email else emailOf users u)

namespace UsersStep

variable {users users' : Table User} {row : User} {k : UserId} {now : Time}

theorem next_le (h : UsersStep users users') : users.next ≤ users'.next := by
  cases h with
  | keep hnext _ => exact le_of_eq hnext.symm
  | write _ _ hnext _ _ => exact hnext

theorem emailsUnique (h : UsersStep users users') (hunique : EmailsUnique users) :
    EmailsUnique users' := by
  intro u v email hu hv
  cases h with
  | keep _ h => exact hunique u v email ((h u).symm.trans hu) ((h v).symm.trans hv)
  | write k written _ hfree h =>
    rw [h] at hu hv
    split_ifs at hu hv with huk hvk hvk
    · exact huk.trans hvk.symm
    · rw [huk, hfree v (hv.trans hu.symm)]
    · rw [hvk, hfree u (hu.trans hv.symm)]
    · exact hunique u v email hu hv

theorem insert (hfree : ∀ u r, users.get? u = some r → r.email ≠ row.email) :
    UsersStep users (users.insert row) := by
  refine .write users.next row.email (Nat.le_succ _) (fun u hu => ?_) fun u => ?_
  · obtain ⟨r, hget, hemail⟩ := Option.map_eq_some_iff.mp hu
    exact absurd hemail (hfree u r hget)
  · unfold emailOf
    rw [Table.get?_insert]
    split_ifs
    · rfl
    · rfl

theorem put (hfree : User.emailTaken users k row.email = false) :
    UsersStep users (users.put k row) := by
  refine .write k row.email (le_max_left _ _) (fun u hu => ?_) fun u => ?_
  · obtain ⟨r, hget, hemail⟩ := Option.map_eq_some_iff.mp hu
    have hr := Table.any_eq_false.mp hfree u r hget
    simpa [hemail] using hr
  · unfold emailOf
    rw [Table.get?_put]
    split_ifs
    · rfl
    · rfl

/-- A write of columns other than the email. -/
theorem saveFields {fields : User → User → User}
    (hfields : ∀ saved r, (fields saved r).email = r.email) :
    UsersStep users (User.saveFields users now k row fields).2 :=
  .keep rfl (User.saveFields_keeps (fun _ _ => rfl) hfields)

/-- A write of columns other than the email, after another step. -/
theorem thenSaveFields {fields : User → User → User} (h : UsersStep users users')
    (hfields : ∀ saved r, (fields saved r).email = r.email) :
    UsersStep users (User.saveFields users' now k row fields).2 := by
  have hkept : ∀ u, emailOf (User.saveFields users' now k row fields).2 u = emailOf users' u :=
    User.saveFields_keeps (fun _ _ => rfl) hfields
  cases h with
  | keep hnext h => exact .keep hnext fun u => (hkept u).trans (h u)
  | write j email hnext hfree h => exact .write j email hnext hfree fun u => (hkept u).trans (h u)

theorem refl (users : Table User) : UsersStep users users := .keep rfl fun _ => rfl

end UsersStep

section

variable {upper normalizeEmail : String → String}

theorem UserService.processSocialLogin_users {db db' : AccountDb} {now : Time} {provider : String}
    {info : SocialUserInfo} {result : SocialLoginResult}
    (h : processSocialLogin normalizeEmail db now provider info = .ok (result, db')) :
    UsersStep db.users db'.users := by
  unfold processSocialLogin at h
  obtain ⟨email, _, h⟩ := bind_eq_ok.mp h
  cases hfind : db.users.find? fun _ r => decide (r.email = email) with
  | some found =>
    rw [hfind] at h
    dsimp only at h
    split_ifs at h
    cases h
    dsimp only
    exact .saveFields fun _ _ => rfl
  | none =>
    rw [hfind] at h
    obtain ⟨⟨u, created⟩, hcreated, h⟩ := bind_eq_ok.mp h
    obtain ⟨_, hdb, hfree⟩ := createUser_ok hcreated
    subst hdb
    dsimp only at h
    split_ifs at h
    · cases h
      exact .insert hfree
    · cases h
      dsimp only
      exact (UsersStep.insert hfree).thenSaveFields fun _ _ => rfl

/-- What an event does to the emails of the users. -/
theorem Identities.IdentityChange.users {i i' : Identities} {e : IdentityEvent}
    (h : IdentityChange upper normalizeEmail i e i') : UsersStep i.db.users i'.db.users := by
  cases h with
  | register _ husers hfree _ =>
    rw [husers]
    exact .insert hfree
  | sendVerificationEmail husers _ =>
    rw [husers]
    exact .refl _
  | deliverMail husers _ =>
    rw [husers]
    exact .refl _
  | verifyByToken _ _ =>
    dsimp only [verified, EmailVerificationService.markVerified]
    exact .saveFields fun _ _ => rfl
  | verifyByCode _ _ _ =>
    dsimp only [close, verified, EmailVerificationService.markVerified]
    exact .saveFields fun _ _ => rfl
  | updateProfile _ haccepted hrow _ =>
    refine .put ?_
    rw [hrow, User.stamped_email]
    simpa [UserSerializer.accepted] using (Bool.and_eq_true_iff.mp haccepted).2
  | resetVerified =>
    dsimp only [UserSerializer.resetVerified]
    exact .saveFields fun _ _ => rfl
  | logIn hlogin _ => exact UserService.processSocialLogin_users hlogin
  | signUp hlogin _ => exact UserService.processSocialLogin_users hlogin
  | _ => exact .refl _

end

/-! ## Sound jobs -/

/-- What the job trusts is so, and its users are old. -/
structure CleanupJob.Sound (w : CleanedShop) (job : CleanupJob) : Prop where
  old : ∀ u ∈ job.users, u < w.accounts.db.users.next ∧
    job.kind.isOld job.cutoff (w.joined u) = true
  unverified : ∀ u row, job.trustsUnverified w.hasOrder u = true →
    w.accounts.db.users.get? u = some row → row.isEmailVerified = false
  orderless : ∀ u, job.trustsOrderless u = true → w.hasOrder u = false
  owner : ∀ u row, w.accounts.db.users.get? u = some row →
    job.trustsOwner w.hasOrder u row.email = false

namespace CleanupJob

variable {w w' : CleanedShop} {job : CleanupJob} {u : UserId}

section

variable {more fewer : UserId → Bool} (hmore : ∀ u, fewer u = true → more u = true)

include hmore

theorem trustsUnverified_anti (h : job.trustsUnverified more u = true) :
    job.trustsUnverified fewer u = true := by
  obtain ⟨kind, cutoff, stage⟩ := job
  cases stage with
  | checking users toDelete =>
    cases kind with
    | task =>
      obtain ⟨hmem, hnone⟩ := Bool.and_eq_true_iff.mp h
      refine Bool.and_eq_true_iff.mpr ⟨hmem, ?_⟩
      cases hfew : fewer u with
      | false => rfl
      | true => simp [hmore u hfew] at hnone
    | command => cases h
  | deleting rows =>
    cases kind with
    | task => exact h
    | command => exact h
  | finished =>
    cases kind with
    | task => cases h
    | command => cases h

theorem trustsOwner_anti {email : String} (h : job.trustsOwner fewer u email = false) :
    job.trustsOwner more u email = false := by
  obtain ⟨kind, cutoff, stage⟩ := job
  cases stage with
  | checking users toDelete =>
    cases kind with
    | task => rfl
    | command =>
      unfold trustsOwner at h ⊢
      dsimp only at h ⊢
      rw [Bool.and_eq_false_iff] at h ⊢
      refine h.imp_right fun hnone => ?_
      rw [List.any_eq_false] at hnone ⊢
      intro c hc hmatch
      rw [Bool.and_eq_true_iff] at hmatch
      refine hnone c hc (Bool.and_eq_true_iff.mpr ⟨hmatch.1, ?_⟩)
      cases hfew : fewer c.user with
      | false => rfl
      | true => simp [hmore c.user hfew] at hmatch
  | deleting rows => cases kind <;> rfl
  | finished => cases kind <;> rfl

end

theorem Sound.finished (w : CleanedShop) (kind : CleanupKind) (cutoff : Int) :
    Sound w ⟨kind, cutoff, .finished⟩ where
  old := nofun
  unverified u row h := by cases kind <;> cases h
  orderless := nofun
  owner u row _ := by cases kind <;> rfl

/-- A step that leaves alone what the job trusts. -/
theorem Sound.frame (h : job.Sound w) (hnext : w.accounts.db.users.next ≤ w'.accounts.db.users.next)
    (hjoined : ∀ u, u < w.accounts.db.users.next → w'.joined u = w.joined u)
    (horders : ∀ u, w.hasOrder u = true → w'.hasOrder u = true)
    (hflags : ∀ u row, job.trustsUnverified w.hasOrder u = true →
      w'.accounts.db.users.get? u = some row → row.isEmailVerified = false)
    (hfree : ∀ u, job.trustsOrderless u = true → w'.hasOrder u = false)
    (howner : ∀ u row, w'.accounts.db.users.get? u = some row →
      job.trustsOwner w.hasOrder u row.email = false) : job.Sound w' where
  old u hu := by
    obtain ⟨hlt, hold⟩ := h.old u hu
    refine ⟨Nat.lt_of_lt_of_le hlt hnext, ?_⟩
    rw [hjoined u hlt]
    exact hold
  unverified u row htrust := hflags u row (trustsUnverified_anti horders htrust)
  orderless := hfree
  owner u row hrow := trustsOwner_anti horders (howner u row hrow)

/-- The users that a job reads are unverified, old and the owners of their
emails. -/
theorem Sound.read (h : EmailsUnique w.accounts.db.users) (kind : CleanupKind) (cutoff : Int) :
    Sound w ⟨kind, cutoff, .checking (w.readUsers kind cutoff) []⟩ := by
  have hread : ∀ c ∈ w.readUsers kind cutoff, ∃ row,
      w.accounts.db.users.get? c.user = some row ∧ row.email = c.email ∧
        row.isEmailVerified = false ∧ kind.isOld cutoff (w.joined c.user) = true := by
    intro c hc
    obtain ⟨p, hp, rfl⟩ := List.mem_map.mp hc
    obtain ⟨hget, hp⟩ := Table.mem_select.mp ((List.mem_insertionSort _).mp hp)
    simp only [Bool.and_eq_true, Bool.not_eq_true'] at hp
    exact ⟨p.2, hget, rfl, hp.1, hp.2⟩
  refine ⟨fun u hu => ?_, fun u row htrust hrow => ?_, nofun, fun u row hrow => ?_⟩
  · simp only [users, List.append_nil, List.mem_map] at hu
    obtain ⟨c, hc, rfl⟩ := hu
    obtain ⟨row, hget, _, _, hold⟩ := hread c hc
    exact ⟨Table.lt_next hget, hold⟩
  · cases kind with
    | task =>
      simp only [trustsUnverified, users, List.append_nil,
        Bool.and_eq_true, decide_eq_true_eq, List.mem_map] at htrust
      obtain ⟨⟨c, hc, rfl⟩, _⟩ := htrust
      obtain ⟨row', hget, _, hflag, _⟩ := hread c hc
      rw [hrow] at hget
      cases hget
      exact hflag
    | command => cases htrust
  · cases kind with
    | task => rfl
    | command =>
      simp only [trustsOwner, List.append_nil, Bool.and_eq_false_iff]
      refine Or.inr (List.any_eq_false.mpr fun c hc hmatch => ?_)
      simp only [Bool.and_eq_true, decide_eq_true_eq] at hmatch
      obtain ⟨row', hget, hemail, _⟩ := hread c hc
      refine hmatch.1.2 (h c.user u row.email ?_ ?_)
      · rw [emailOf, hget, Option.map_some, hemail, hmatch.1.1]
      · rw [emailOf, hrow, Option.map_some]

/-- A later turn of the loop: it trusts in fewer users, and what it has found
is so. -/
theorem Sound.later {kind : CleanupKind} {cutoff : Int}
    {unchecked toDelete unchecked' toDelete' : List UnverifiedUser}
    (h : Sound w ⟨kind, cutoff, .checking unchecked toDelete⟩)
    (hmem : ∀ c ∈ unchecked' ++ toDelete', c ∈ unchecked ++ toDelete)
    (hkept : ∀ c ∈ toDelete, c ∈ toDelete')
    (hnone : ∀ c ∈ toDelete', w.hasOrder c.user = false) :
    Sound w ⟨kind, cutoff, .checking unchecked' toDelete'⟩ := by
  have husers : ∀ u ∈ (unchecked' ++ toDelete').map UnverifiedUser.user,
      u ∈ (unchecked ++ toDelete).map UnverifiedUser.user := by
    intro u hu
    obtain ⟨c, hc, rfl⟩ := List.mem_map.mp hu
    exact List.mem_map_of_mem (hmem c hc)
  refine ⟨fun u hu => h.old u (husers u hu), fun u row htrust => h.unverified u row ?_,
    fun u htrust => ?_, fun u row hrow => ?_⟩
  · cases kind with
    | command => cases htrust
    | task =>
      obtain ⟨hu, hnone⟩ := Bool.and_eq_true_iff.mp htrust
      have hlisted := husers u (of_decide_eq_true hu)
      exact Bool.and_eq_true_iff.mpr ⟨decide_eq_true hlisted, hnone⟩
  · obtain ⟨c, hc, rfl⟩ := List.mem_map.mp (of_decide_eq_true htrust)
    exact hnone c hc
  · have howner := h.owner u row hrow
    cases kind with
    | task => rfl
    | command =>
      simp only [trustsOwner, trustsOrderless, Bool.and_eq_false_iff, List.any_eq_false,
        Bool.not_eq_false', decide_eq_true_eq] at howner ⊢
      refine howner.imp (fun hlisted => ?_) fun hothers c hc => hothers c (hmem c hc)
      obtain ⟨c, hc, rfl⟩ := List.mem_map.mp hlisted
      exact List.mem_map_of_mem (hkept c hc)

/-- A user with orders is kept, and one without is found to be so. -/
theorem Sound.check (h : Sound w job) : Sound w (w.check job) := by
  obtain ⟨kind, cutoff, stage⟩ := job
  cases stage with
  | deleting rows => exact h
  | finished => exact h
  | checking unchecked toDelete =>
    cases unchecked with
    | nil => exact h
    | cons c rest =>
      have hnone : ∀ d ∈ toDelete, w.hasOrder d.user = false :=
        fun d hd => h.orderless d.user (decide_eq_true (List.mem_map_of_mem hd))
      unfold CleanedShop.check
      dsimp only
      by_cases horder : w.hasOrder c.user = true
      · rw [if_pos horder]
        exact h.later (fun d hd => List.mem_cons_of_mem c hd) (fun d hd => hd) hnone
      · rw [if_neg horder]
        rw [Bool.not_eq_true] at horder
        refine h.later (fun d hd => ?_) (fun d hd => List.mem_append_left _ hd) fun d hd => ?_
        · rw [← List.append_assoc, List.mem_append, List.mem_singleton] at hd
          rcases hd with hd | rfl
          · exact List.mem_cons_of_mem c hd
          · exact List.mem_cons_self
        · rcases List.mem_append.mp hd with hd | hd
          · exact hnone d hd
          · obtain rfl := List.mem_singleton.mp hd
            exact horder

/-- The rows of a sound job: what it has found of them, and that they are
unverified now. -/
theorem Sound.rowsToDelete {kind : CleanupKind} {cutoff : Int} {toDelete : List UnverifiedUser}
    (h : Sound w ⟨kind, cutoff, .checking [] toDelete⟩) {u : UserId}
    (hu : u ∈ w.rowsToDelete toDelete kind) :
    u ∈ toDelete.map UnverifiedUser.user ∧
      ∀ row, w.accounts.db.users.get? u = some row → row.isEmailVerified = false := by
  have hnone : ∀ v ∈ toDelete.map UnverifiedUser.user, w.hasOrder v = false :=
    fun v hv => h.orderless v (decide_eq_true hv)
  cases kind with
  | task =>
    obtain ⟨p, hp, rfl⟩ := List.mem_map.mp hu
    obtain ⟨_, hp⟩ := Table.mem_select.mp hp
    have hlisted := of_decide_eq_true hp
    refine ⟨hlisted, fun row => h.unverified p.1 row ?_⟩
    simp only [trustsUnverified, users, List.nil_append,
      hnone p.1 hlisted, Bool.not_false, Bool.and_true]
    exact decide_eq_true hlisted
  | command =>
    obtain ⟨p, hp, rfl⟩ := List.mem_map.mp hu
    obtain ⟨hget, hp⟩ := Table.mem_select.mp hp
    simp only [Bool.and_eq_true, Bool.not_eq_true', decide_eq_true_eq] at hp
    refine ⟨?_, fun row hrow => ?_⟩
    · obtain ⟨c, hc, hemail⟩ := List.mem_map.mp hp.2
      have howner := h.owner p.1 p.2 hget
      simp only [trustsOwner, trustsOrderless, List.nil_append,
        Bool.and_eq_false_iff, List.any_eq_false, Bool.not_eq_false', decide_eq_true_eq,
        Bool.and_eq_true, Bool.not_eq_true'] at howner
      rcases howner with hlisted | howner
      · exact hlisted
      · by_contra hother
        have hne : c.user ≠ p.1 := fun heq => hother (heq ▸ List.mem_map_of_mem hc)
        exact howner c hc ⟨⟨hemail, hne⟩, hnone c.user (List.mem_map_of_mem hc)⟩
    · rw [hrow] at hget
      cases hget
      exact hp.1

theorem Sound.select (h : Sound w job) : Sound w (w.select job) := by
  obtain ⟨kind, cutoff, stage⟩ := job
  cases stage with
  | deleting rows => exact h
  | finished => exact h
  | checking unchecked toDelete =>
    cases unchecked with
    | cons c rest => exact h
    | nil =>
      unfold CleanedShop.select
      dsimp only
      by_cases hprotected : (w.db.returns.any fun _ r =>
          decide (r.user ∈ w.rowsToDelete toDelete kind)) = true
      · rw [if_pos hprotected]
        exact Sound.finished w kind cutoff
      · rw [if_neg hprotected]
        refine ⟨fun u hu => ?_, fun u row htrust => ?_, fun u htrust => ?_, fun u row _ => ?_⟩
        · exact h.old u (Sound.rowsToDelete h hu).1
        · refine (Sound.rowsToDelete h ?_).2 row
          cases kind with
          | task => exact of_decide_eq_true htrust
          | command => exact of_decide_eq_true htrust
        · have hlisted := (Sound.rowsToDelete h (of_decide_eq_true htrust)).1
          exact h.orderless u (decide_eq_true hlisted)
        · cases kind <;> rfl

end CleanupJob

namespace CleanedShop

/-- Every job is sound, and every deletion so far was of an eligible user. -/
structure Sound (w : CleanedShop) : Prop where
  unique : EmailsUnique w.accounts.db.users
  jobs : ∀ job ∈ w.jobs, job.Sound w
  deletions : ∀ d ∈ w.deletions, d.Eligible

variable {upper normalizeEmail : String → String} {w w' : CleanedShop} {job : CleanupJob}

theorem Sound.start {accounts : Identities} {db : Db} {joined : UserId → Time}
    {withoutUser : List OrderId} (hunique : EmailsUnique accounts.db.users) :
    Sound (start accounts db joined withoutUser) := by
  refine ⟨hunique, fun job hjob => ?_, fun d hd => ?_⟩
  · exact absurd hjob List.not_mem_nil
  · exact absurd hd List.not_mem_nil

/-- A job that moves on. -/
theorem Sound.setJob (h : Sound w) (n : Nat) (hjob : job.Sound w) : Sound (w.setJob n job) := by
  refine ⟨h.unique, fun job' hmem => ?_, h.deletions⟩
  have hsound : job'.Sound w := by
    rcases List.mem_or_eq_of_mem_set hmem with hmem | rfl
    · exact h.jobs job' hmem
    · exact hjob
  exact ⟨hsound.old, hsound.unverified, hsound.orderless, hsound.owner⟩

/-! ## One step -/

/-- The accounts of an event that leaves the jobs alone. -/
theorem Sound.account (h : Sound w) {e : IdentityEvent}
    (halone : w.leavesJobsAlone upper normalizeEmail (.account e) = true)
    (hstep : step upper normalizeEmail w (.account e) = some w') : Sound w' := by
  obtain ⟨accounts, haccounts, hw⟩ := Option.bind_eq_some_iff.mp hstep
  cases hw
  have husers := (Identities.step_change haccounts).users
  unfold leavesJobsAlone at halone
  dsimp only at halone
  rw [haccounts, Option.all_some, List.all_eq_true] at halone
  refine ⟨husers.emailsUnique h.unique, fun job hjob => ?_, h.deletions⟩
  have hsound := h.jobs job hjob
  refine hsound.frame husers.next_le (fun u hu => if_pos hu) (fun u hu => hu)
    (fun u row htrust hrow => ?_) hsound.orderless fun u row hrow => ?_
  · have hrow' := (Bool.and_eq_true_iff.mp (halone (u, row) (Table.get?_eq_some.mp hrow))).1
    rw [Bool.or_eq_true, Bool.or_eq_true] at hrow'
    rcases hrow' with (hflag | hbefore) | hnone
    · exact Bool.not_eq_true' _ ▸ hflag
    · obtain ⟨row', hget, hverified⟩ := (Option.any_eq_true _ _).mp hbefore
      rw [hsound.unverified u row' htrust hget] at hverified
      cases hverified
    · rw [Bool.not_eq_true', List.any_eq_false] at hnone
      exact absurd htrust (hnone job hjob)
  · have hrow' := (Bool.and_eq_true_iff.mp (halone (u, row) (Table.get?_eq_some.mp hrow))).2
    rw [Bool.or_eq_true, decide_eq_true_eq] at hrow'
    rcases hrow' with hsame | hnone
    · obtain ⟨row', hget, hemail⟩ := Option.map_eq_some_iff.mp hsame
      exact hemail ▸ hsound.owner u row' hget
    · rw [Bool.not_eq_true', List.any_eq_false] at hnone
      exact Bool.not_eq_true _ ▸ hnone job hjob

theorem hasOrder_eq_true {u : UserId} : w.hasOrder u = true ↔
    ∃ o order, w.db.orders.get? o = some order ∧ order.user = u ∧ o ∉ w.withoutUser := by
  unfold hasOrder
  simp only [Table.any_eq_true, Bool.and_eq_true, decide_eq_true_eq]

/-- A placed order is the only new one. -/
theorem placed_orders {user : UserId} {cart : CartId} {draft : OrderDraft} {db : Db}
    (hplaced : w.placed user cart draft = some db) :
    ∃ order, order.user = user ∧ db.orders = w.db.orders.insert order := by
  unfold placed at hplaced
  split at hplaced
  · cases hplaced
  · obtain ⟨⟨o, db'⟩, hplace, rfl⟩ := map_eq_ok.mp (toOption_eq_some.mp hplaced)
    unfold OrderService.placeOrder at hplace
    split at hplace
    · cases hplace
    · split_ifs at hplace
      cases hplace
      exact ⟨_, rfl, rfl⟩

theorem hasOrder_of_placed {user : UserId} {cart : CartId} {draft : OrderDraft} {db : Db}
    (hplaced : w.placed user cart draft = some db) {u : UserId} (hu : w.hasOrder u = true) :
    { w with db := db }.hasOrder u = true := by
  obtain ⟨order, _, horders⟩ := placed_orders hplaced
  obtain ⟨o, row, hrow, huser, hhas⟩ := hasOrder_eq_true.mp hu
  refine hasOrder_eq_true.mpr ⟨o, row, ?_, huser, hhas⟩
  dsimp only
  rw [horders]
  exact Table.get?_insert_of_some hrow order

theorem of_hasOrder_placed {user : UserId} {cart : CartId} {draft : OrderDraft} {db : Db}
    (hplaced : w.placed user cart draft = some db) {u : UserId}
    (hu : { w with db := db }.hasOrder u = true) : w.hasOrder u = true ∨ u = user := by
  obtain ⟨order, horder, horders⟩ := placed_orders hplaced
  obtain ⟨o, row, hrow, huser, hhas⟩ := hasOrder_eq_true.mp hu
  dsimp only at hrow
  rw [horders] at hrow
  rcases Table.insert_cases hrow with ⟨_, rfl⟩ | hrow
  · exact Or.inr (huser.symm.trans horder)
  · exact Or.inl (hasOrder_eq_true.mpr ⟨o, row, hrow, huser, hhas⟩)

theorem Sound.placeOrder (h : Sound w) {n : Nat}
    (halone : w.leavesJobsAlone upper normalizeEmail (.placeOrder n) = true)
    (hstep : step upper normalizeEmail w (.placeOrder n) = some w') : Sound w' := by
  obtain ⟨⟨user, cart, draft⟩, hdraft, hw⟩ := Option.bind_eq_some_iff.mp hstep
  dsimp only at hw
  cases hplaced : w.placed user cart draft with
  | none =>
    rw [hplaced] at hw
    cases hw
    exact h
  | some db =>
    rw [hplaced] at hw
    cases hw
    unfold leavesJobsAlone at halone
    dsimp only at halone
    rw [hdraft, Option.all_some, hplaced, Option.isNone_some, Bool.false_or, Bool.not_eq_true',
      List.any_eq_false] at halone
    refine ⟨h.unique, fun job hjob => ?_, h.deletions⟩
    have hsound := h.jobs job hjob
    refine hsound.frame le_rfl (fun u _ => rfl) (fun u => hasOrder_of_placed hplaced)
      hsound.unverified (fun u htrust => ?_) hsound.owner
    by_contra horder
    rw [Bool.not_eq_false] at horder
    rcases of_hasOrder_placed hplaced horder with hold | rfl
    · rw [hsound.orderless u htrust] at hold
      cases hold
    · exact halone job hjob htrust

/-- A sound job deletes eligible users only. -/
theorem Sound.delete (h : Sound w) {rows : List UserId} (hjob : job.Sound w)
    (hstage : job.stage = .deleting rows) : Sound (w.delete job rows) := by
  have hfree : ∀ u ∈ rows, w.hasOrder u = false := by
    intro u hu
    refine hjob.orderless u ?_
    rw [CleanupJob.trustsOrderless, hstage]
    exact decide_eq_true hu
  have hget : ∀ u row, (w.delete job rows).accounts.db.users.get? u = some row →
      w.accounts.db.users.get? u = some row :=
    fun u row hu => Table.of_get?_delete hu
  -- The orders that lose their user are of users without orders.
  have horders : ∀ u, w.hasOrder u = true → (w.delete job rows).hasOrder u = true := by
    intro u hu
    obtain ⟨o, order, hrow, huser, hhas⟩ := hasOrder_eq_true.mp hu
    refine hasOrder_eq_true.mpr ⟨o, order, hrow, huser, fun hmem => ?_⟩
    rcases List.mem_append.mp hmem with hmem | hmem
    · exact hhas hmem
    · obtain ⟨p, hp, rfl⟩ := List.mem_map.mp hmem
      obtain ⟨hget, hp⟩ := Table.mem_select.mp hp
      rw [hrow] at hget
      cases hget
      rw [hfree u (huser ▸ of_decide_eq_true hp)] at hu
      cases hu
  have hnone : ∀ u, w.hasOrder u = false → (w.delete job rows).hasOrder u = false := by
    intro u hu
    by_contra hdel
    rw [Bool.not_eq_false] at hdel
    obtain ⟨o, order, hrow, huser, hhas⟩ := hasOrder_eq_true.mp hdel
    have hold : w.hasOrder u = true := hasOrder_eq_true.mpr
      ⟨o, order, hrow, huser, fun hmem => hhas (List.mem_append_left _ hmem)⟩
    rw [hu] at hold
    cases hold
  refine ⟨fun u v email hu hv => ?_, fun job' hmem => ?_, fun d hd => ?_⟩
  · obtain ⟨r, hr, hemail⟩ := Option.map_eq_some_iff.mp hu
    obtain ⟨s, hs, hemail'⟩ := Option.map_eq_some_iff.mp hv
    refine h.unique u v email ?_ ?_
    · rw [emailOf, hget u r hr, Option.map_some, hemail]
    · rw [emailOf, hget v s hs, Option.map_some, hemail']
  · have hsound := h.jobs job' hmem
    exact hsound.frame le_rfl (fun u _ => rfl) horders
      (fun u row htrust hrow => hsound.unverified u row htrust (hget u row hrow))
      (fun u htrust => hnone u (hsound.orderless u htrust))
      fun u row hrow => hsound.owner u row (hget u row hrow)
  · rcases List.mem_append.mp hd with hd | hd
    · exact h.deletions d hd
    · obtain ⟨p, hp, rfl⟩ := List.mem_map.mp hd
      obtain ⟨hrow, hp⟩ := Table.mem_select.mp hp
      have hu : p.1 ∈ rows := of_decide_eq_true hp
      refine ⟨hjob.unverified p.1 p.2 ?_ hrow, (hjob.old p.1 ?_).2, hfree p.1 hu⟩
      · obtain ⟨kind, cutoff, stage⟩ := job
        cases hstage
        cases kind with
        | task => exact decide_eq_true hu
        | command => exact decide_eq_true hu
      · rw [CleanupJob.users, hstage]
        exact hu

/-- Every step that leaves the jobs alone keeps them sound. -/
theorem Sound.step (h : Sound w) {e : CleanupEvent}
    (halone : w.leavesJobsAlone upper normalizeEmail e = true)
    (hstep : step upper normalizeEmail w e = some w') : Sound w' := by
  cases e with
  | account e => exact h.account halone hstep
  | draftOrder user cart postalCode usePoints =>
    simp only [CleanedShop.step] at hstep
    cases hdraft : OrderDraft.of w.db user cart postalCode usePoints with
    | error e =>
      rw [hdraft] at hstep
      cases hstep
      exact h
    | ok draft =>
      rw [hdraft] at hstep
      cases hstep
      refine ⟨h.unique, fun job hjob => ?_, h.deletions⟩
      have hsound := h.jobs job hjob
      exact ⟨hsound.old, hsound.unverified, hsound.orderless, hsound.owner⟩
  | placeOrder n => exact h.placeOrder halone hstep
  | start kind days =>
    cases hstep
    refine ⟨h.unique, fun job hjob => ?_, h.deletions⟩
    rcases List.mem_append.mp hjob with hjob | hjob
    · have hsound := h.jobs job hjob
      exact ⟨hsound.old, hsound.unverified, hsound.orderless, hsound.owner⟩
    · obtain rfl := List.mem_singleton.mp hjob
      have hsound := CleanupJob.Sound.read h.unique kind
        ((w.accounts.now : Int) - days * (24 * 60 * 60))
      exact ⟨hsound.old, hsound.unverified, hsound.orderless, hsound.owner⟩
  | check n =>
    obtain ⟨job, hjob, hw⟩ := Option.bind_eq_some_iff.mp hstep
    cases hw
    exact h.setJob n (h.jobs job (List.mem_of_getElem? hjob)).check
  | select n =>
    obtain ⟨job, hjob, hw⟩ := Option.bind_eq_some_iff.mp hstep
    cases hw
    exact h.setJob n (h.jobs job (List.mem_of_getElem? hjob)).select
  | delete n =>
    obtain ⟨job, hjob, hw⟩ := Option.bind_eq_some_iff.mp hstep
    cases hstage : job.stage with
    | checking unchecked toDelete =>
      rw [hstage] at hw
      cases hw
    | finished =>
      rw [hstage] at hw
      cases hw
    | deleting rows =>
      rw [hstage] at hw
      cases hw
      exact (h.delete (h.jobs job (List.mem_of_getElem? hjob)) hstage).setJob n
        (CleanupJob.Sound.finished _ job.kind job.cutoff)
  | giveUp n =>
    obtain ⟨job, hjob, hw⟩ := Option.bind_eq_some_iff.mp hstep
    cases hw
    exact h.setJob n (CleanupJob.Sound.finished w job.kind job.cutoff)

end CleanedShop

/-! ## The runs -/

/-- In every run whose steps leave the jobs alone, whatever accounts, tokens,
requests and orders there are at its start, every deleted user was eligible at
the moment of the deletion. -/
theorem account_cleanup {upper normalizeEmail : String → String} {accounts : Identities} {db : Db}
    {joined : UserId → Time} {withoutUser : List OrderId} {es : List CleanupEvent}
    {w : CleanedShop} (hunique : EmailsUnique accounts.db.users)
    (h : Run (CleanedShop.step upper normalizeEmail)
      (fun w e => w.leavesJobsAlone upper normalizeEmail e = true)
      (CleanedShop.start accounts db joined withoutUser) es w) :
    ∀ d ∈ w.deletions, d.Eligible := by
  have hsound : w.Sound := h.invariant CleanedShop.Sound (CleanedShop.Sound.start hunique)
    fun w e w' hw halone hstep => hw.step halone hstep
  exact hsound.deletions

/-- Eight days after `kim` and `lee` joined; `lee` has an order, and `park`
joins today. -/
def eightDays : CleanedShop :=
  CleanedShop.start
    { now := 8 * 24 * 60 * 60
      db := {
        users := ((Table.empty.insert { username := "kim", email := "kim@shop.kr" }).insert
          { username := "lee", email := "lee@shop.kr" }).insert
          { username := "park", email := "park@shop.kr" }
        tokens := (Table.empty.insert
          { user := 1, token := 77, verificationCode := "K1M000", createdAt := 691000 }).insert
          { user := 2, token := 78, verificationCode := "L33000", createdAt := 691000 } }
      mailed := [(1, "kim@shop.kr"), (2, "lee@shop.kr")] }
    { ledger := Ledger.empty
      membership := fun _ => .bronze
      products := Table.empty
      carts := Table.empty
      orders := Table.empty.insert
        { user := 2, totalAmount := 500, finalAmount := 3500, createdAt := 10, updatedAt := 10 }
      payments := PaymentTable.empty
      logs := []
      returns := Table.empty
      idempotencyKeys := []
      webhookMarks := [] }
    (fun u => if u = 3 then 8 * 24 * 60 * 60 else 0) []

/-- `lee`, who has an order, verifies while the task runs, and `kim` is
deleted. -/
theorem account_cleanup_kim :
    ∃ w, Run (CleanedShop.step (fun s => s) fun s => s)
        (fun w e => w.leavesJobsAlone (fun s => s) (fun s => s) e = true) eightDays
        [.start .task 7, .check 0, .account (.verifyByToken (.uuid 78)), .check 0, .select 0,
          .delete 0] w ∧
      w.deletions.map Deletion.user = [1] ∧ ∀ d ∈ w.deletions, d.Eligible := by
  obtain ⟨w, hrun, hend⟩ := Run.exists_of_execIf (by decide : (execIf
    (CleanedShop.step (fun s => s) fun s => s)
    (CleanedShop.leavesJobsAlone (fun s => s) fun s => s) eightDays
    [.start .task 7, .check 0, .account (.verifyByToken (.uuid 78)), .check 0, .select 0,
      .delete 0]).any (fun w => decide (w.deletions.map Deletion.user = [1])) = true)
  exact ⟨w, hrun, of_decide_eq_true hend, account_cleanup (.of_nodup (by decide)) hrun⟩

/-- `kim` verifies while the task runs and is deleted.  `park` takes the email
that `kim` gave up while the command waits for an answer, and is deleted in her
place, a user of today. -/
theorem ineligible_deleted :
    (∃ w, exec (CleanedShop.step (fun s => s) fun s => s) eightDays
        [.start .task 7, .check 0, .check 0, .account (.verifyByToken (.uuid 77)), .select 0,
          .delete 0] = some w ∧ ∃ d ∈ w.deletions, ¬ d.Eligible) ∧
    ∃ w, exec (CleanedShop.step (fun s => s) fun s => s) eightDays
        [.start .command 7, .check 0, .check 0, .account (.authenticate 1),
          .account (.updateProfile 0 { email := some "kim@new.kr" }), .account (.resetVerified 0),
          .account (.authenticate 3),
          .account (.updateProfile 1 { email := some "kim@shop.kr" }), .select 0,
          .delete 0] = some w ∧ ∃ d ∈ w.deletions, ¬ d.Eligible := by
  have hbad : ∀ es, (exec (CleanedShop.step (fun s => s) fun s => s) eightDays es).any
        (fun w => w.deletions.any fun d => !decide d.Eligible) = true →
      ∃ w, exec (CleanedShop.step (fun s => s) fun s => s) eightDays es = some w ∧
        ∃ d ∈ w.deletions, ¬ d.Eligible := by
    intro es h
    obtain ⟨w, hw, hdel⟩ := (Option.any_eq_true _ _).mp h
    obtain ⟨d, hd, hnot⟩ := List.any_eq_true.mp hdel
    exact ⟨w, hw, d, hd, by simpa using hnot⟩
  exact ⟨hbad _ (by decide), hbad _ (by decide)⟩

end Shopping
