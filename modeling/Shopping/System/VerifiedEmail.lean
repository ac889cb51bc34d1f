import Shopping.Lib.Run
import Shopping.Users.Outcomes

/-!
# What a verified email proves

A token belongs to a user, and the address of a user can change while a token
is out.  A profile update writes the new address with the flag that its copy of
the user had, and resets the flag in a second write.  Both let an account carry
the flag with an address that nobody proved.

`setBy` remembers what set the flag of each account: it moves with the flag,
also when a whole row is written, and the code does not read it.  The runs of
`verified_email_proved` change an address only with an unverified copy, and
verify only with a token that was mailed to the present address.
-/

namespace Shopping

open EmailTasks (MailOutcome)
open EmailVerificationService (TokenText)
open UserService (SocialUserInfo SocialLoginResult)

/-- What set the flag of an account: a token, or the social login that created
the account with an email. -/
inductive Provenance where
  | token (id : Nat)
  | social (email : String)
  deriving DecidableEq, Repr

/-- The token was mailed to `email`, or the social login came with it. -/
def Provenance.Proves (mailed : List (Nat × String)) (email : String) : Provenance → Prop
  | .token id => (id, email) ∈ mailed
  | .social created => created = email

/-- How far a request is. -/
inductive RequestStage where
  | opened
  | resetDue
  | closed
  deriving DecidableEq, Repr

/-- A user that came with a request. -/
structure IdentityRequest where
  user : UserId
  row : User
  setBy : Option Provenance
  stage : RequestStage := .opened

/-- The tables, the mails to send, the requests in progress, and what happened
so far: which token went to which address, and what set each flag. -/
structure Identities where
  now : Time
  db : AccountDb := {}
  mails : List VerificationMail := []
  requests : List IdentityRequest := []
  mailed : List (Nat × String) := []
  setBy : UserId → Option Provenance := fun _ => none

/-- What can happen.  A token and a code are random values of the step that
makes them. -/
inductive IdentityEvent where
  | tick (seconds : Nat)
  | register (data : RegisterData) (token : Nat) (code : String)
  | authenticate (user : UserId)
  | sendVerificationEmail (n : Nat) (isResend : Bool) (token : Nat) (code : String)
  | deliverMail (n : Nat) (outcome : MailOutcome)
  | verifyByToken (text : TokenText)
  | verifyByCode (n : Nat) (code : String)
  /-- `UserSerializer.update` of the n-th request, up to its first save. -/
  | updateProfile (n : Nat) (data : UserSerializer.ProfileData)
  /-- The second save of `UserSerializer.update`. -/
  | resetVerified (n : Nat)
  | socialLogin (provider : String) (info : SocialUserInfo)

namespace Identities

/-- Nobody is registered. -/
def start (now : Time) : Identities := { now := now }

/-- The n-th request, when it still waits at `stage`. -/
def request? (w : Identities) (n : Nat) (stage : RequestStage) : Option IdentityRequest :=
  w.requests[n]?.filter fun q => decide (q.stage = stage)

/-- The n-th request did its work. -/
def close (w : Identities) (n : Nat) (q : IdentityRequest) : Identities :=
  { w with requests := w.requests.set n { q with stage := .closed } }

/-- The token `id` was used to set the flag of `user`. -/
def verified (w : Identities) (user : UserId) (id : Nat) (db : AccountDb) : Identities :=
  { w with db := db, setBy := Function.update w.setBy user (some (.token id)) }

section

variable (upper normalizeEmail : String → String)

/-- One event.  A call that raises leaves the tables as they were.  A token
and a code are known only from a mail. -/
def step (w : Identities) : IdentityEvent → Option Identities
  | .tick seconds => some { w with now := w.now + seconds }
  | .register data token code =>
    match UserService.performCreate normalizeEmail w.db w.now data token code with
    | .error _ => some w
    | .ok (user, mail, db) => some
        { w with
          db := db
          mails := w.mails ++ [mail]
          setBy := Function.update w.setBy user none }
  | .authenticate user => do
    let row ← w.db.users.get? user
    some { w with requests := w.requests ++ [⟨user, row, w.setBy user, .opened⟩] }
  | .sendVerificationEmail n isResend token code => do
    let q ← w.request? n .opened
    match EmailVerificationService.sendVerificationEmail w.db w.now q.user q.row isResend token
        code with
    | .error _ => some (w.close n q)
    | .ok (mail, db) => some { w.close n q with db := db, mails := w.mails ++ [mail] }
  | .deliverMail n outcome => do
    let mail ← w.mails[n]?
    let out := EmailTasks.sendVerificationEmailTask w.db w.now mail outcome
    some { w with db := out.2, mailed := w.mailed ++ out.1 }
  | .verifyByToken text =>
    match text with
    | .uuid value =>
      match EmailVerificationService.findToken w.db value with
      | none => some w
      | some (id, t, _) =>
        if w.mailed.any fun m => decide (m.1 = id) then
          match EmailVerificationService.verifyByToken w.db w.now text with
          | .error _ => some w
          | .ok db => some (w.verified t.user id db)
        else none
    | _ => some w
  | .verifyByCode n code => do
    let q ← w.request? n .opened
    match EmailVerificationService.findByCode upper w.db w.now q.user code with
    | .error _ => some (w.close n q)
    | .ok id =>
      if w.mailed.any fun m => decide (m.1 = id) then
        match EmailVerificationService.verifyByCode upper w.db w.now q.user q.row code with
        | .error _ => some (w.close n q)
        | .ok (_, db) => some ((w.verified q.user id db).close n q)
      else none
  | .updateProfile n data => do
    let q ← w.request? n .opened
    match UserSerializer.update w.db.users w.now q.user q.row data with
    | .error _ => some (w.close n q)
    | .ok (row, users) =>
      let stage := if UserSerializer.emailChanged q.row data then .resetDue else .closed
      some
        { w with
          db := { w.db with users := users }
          requests := w.requests.set n { q with row := row, stage := stage }
          setBy := Function.update w.setBy q.user q.setBy }
  | .resetVerified n => do
    let q ← w.request? n .resetDue
    let out := UserSerializer.resetVerified w.db.users w.now q.user q.row
    some { w.close n q with db := { w.db with users := out.2 } }
  | .socialLogin provider info =>
    match UserService.processSocialLogin normalizeEmail w.db w.now provider info with
    | .error _ => some w
    | .ok (result, db) =>
      if result.isNewUser then
        let email := (UserService.socialEmail provider info).toOption.map normalizeEmail
        some { w with
          db := db
          setBy := Function.update w.setBy result.user (email.map Provenance.social) }
      else some { w with db := db }

/-- The token went to the address that the user has now. -/
def mailedToPresent (w : Identities) (user : UserId) (id : Nat) : Bool :=
  (w.db.users.get? user).all fun row => decide ((id, row.email) ∈ w.mailed)

/-- An address is changed only with an unverified copy, and a token that
passes its checks went to the present address. -/
def proper (w : Identities) : IdentityEvent → Bool
  | .updateProfile n data => (w.request? n .opened).all fun q =>
      !(UserSerializer.emailChanged q.row data &&
        UserSerializer.accepted w.db.users q.user q.row data) || !q.row.isEmailVerified
  | .verifyByToken (.uuid value) =>
    (EmailVerificationService.findToken w.db value).all fun found =>
      !(EmailVerificationService.validateToken w.now found.2.1 found.2.2).isOk ||
        w.mailedToPresent found.2.1.user found.1
  | .verifyByCode n code => (w.request? n .opened).all fun q =>
      q.row.isEmailVerified ||
        ((EmailVerificationService.findByCode upper w.db w.now q.user code).toOption.all fun id =>
          w.mailedToPresent q.user id)
  | _ => true

end

end Identities

/-! ## What an event does -/

namespace Identities

/-- The change that an event makes.  A call that raises changes nothing, or ends
its request. -/
inductive IdentityChange (upper normalizeEmail : String → String) (w : Identities) :
    IdentityEvent → Identities → Prop
  | tick (seconds : Nat) : IdentityChange upper normalizeEmail w (.tick seconds)
      { w with now := w.now + seconds }
  | refused (e : IdentityEvent) : IdentityChange upper normalizeEmail w e w
  | closed (e : IdentityEvent) (n : Nat) (q : IdentityRequest) :
      IdentityChange upper normalizeEmail w e (w.close n q)
  | register {data : RegisterData} {token : Nat} {code : String} {mail : VerificationMail}
      {db : AccountDb} {row : User} (hrow : row.isEmailVerified = false)
      (husers : db.users = w.db.users.insert row)
      (hfree : ∀ u r, w.db.users.get? u = some r → r.email ≠ row.email)
      (hlinked : db.socialAccounts = w.db.socialAccounts) :
      IdentityChange upper normalizeEmail w (.register data token code)
        { w with
          db := db
          mails := w.mails ++ [mail]
          setBy := Function.update w.setBy w.db.users.next none }
  | authenticate {user : UserId} {row : User} (hrow : w.db.users.get? user = some row) :
      IdentityChange upper normalizeEmail w (.authenticate user)
        { w with requests := w.requests ++ [⟨user, row, w.setBy user, .opened⟩] }
  | sendVerificationEmail {n token : Nat} {isResend : Bool} {code : String} {q : IdentityRequest}
      {mail : VerificationMail} {db : AccountDb} (husers : db.users = w.db.users)
      (hlinked : db.socialAccounts = w.db.socialAccounts) :
      IdentityChange upper normalizeEmail w (.sendVerificationEmail n isResend token code)
        { w.close n q with db := db, mails := w.mails ++ [mail] }
  | deliverMail {n : Nat} {outcome : MailOutcome} {db : AccountDb} {more : List (Nat × String)}
      (husers : db.users = w.db.users) (hlinked : db.socialAccounts = w.db.socialAccounts) :
      IdentityChange upper normalizeEmail w (.deliverMail n outcome)
        { w with db := db, mailed := w.mailed ++ more }
  | verifyByToken {value id : Nat} {t : EmailVerificationToken} {user : User}
      (hfound : EmailVerificationService.findToken w.db value = some (id, t, user))
      (hvalid : EmailVerificationService.validateToken w.now t user = .ok ()) :
      IdentityChange upper normalizeEmail w (.verifyByToken (.uuid value))
        (w.verified t.user id
          (EmailVerificationService.markVerified w.db w.now t.user user id).2)
  | verifyByCode {n id : Nat} {code : String} {q : IdentityRequest}
      (hq : w.request? n .opened = some q)
      (hfound : EmailVerificationService.findByCode upper w.db w.now q.user code = .ok id)
      (hflag : q.row.isEmailVerified = false) :
      IdentityChange upper normalizeEmail w (.verifyByCode n code)
        ((w.verified q.user id
          (EmailVerificationService.markVerified w.db w.now q.user q.row id).2).close n q)
  | updateProfile {n : Nat} {data : UserSerializer.ProfileData} {q : IdentityRequest}
      {row : User} {stage : RequestStage} (hq : w.request? n .opened = some q)
      (haccepted : UserSerializer.accepted w.db.users q.user q.row data = true)
      (hrow : row = (UserSerializer.assign q.row data).stamped w.now)
      (hstage : stage ≠ .opened) :
      IdentityChange upper normalizeEmail w (.updateProfile n data)
        { w with
          db := { w.db with users := w.db.users.put q.user row }
          requests := w.requests.set n { q with row := row, stage := stage }
          setBy := Function.update w.setBy q.user q.setBy }
  | resetVerified {n : Nat} {q : IdentityRequest} :
      IdentityChange upper normalizeEmail w (.resetVerified n)
        { w.close n q with
          db := { w.db with
            users := (UserSerializer.resetVerified w.db.users w.now q.user q.row).2 } }
  | logIn {provider : String} {info : SocialUserInfo} {result : SocialLoginResult}
      {db : AccountDb}
      (hlogin : UserService.processSocialLogin normalizeEmail w.db w.now provider info
        = .ok (result, db)) (hold : result.isNewUser = false) :
      IdentityChange upper normalizeEmail w (.socialLogin provider info) { w with db := db }
  | signUp {provider email : String} {info : SocialUserInfo} {result : SocialLoginResult}
      {db : AccountDb}
      (hlogin : UserService.processSocialLogin normalizeEmail w.db w.now provider info
        = .ok (result, db)) (hup : UserService.SignsUp w.db (normalizeEmail email) result.user db) :
      IdentityChange upper normalizeEmail w (.socialLogin provider info)
        { w with
          db := db
          setBy := Function.update w.setBy w.db.users.next
            (some (.social (normalizeEmail email))) }

variable {upper normalizeEmail : String → String} {w w' : Identities}

theorem change_of_verifyByToken {text : TokenText}
    (h : step upper normalizeEmail w (.verifyByToken text) = some w') :
    IdentityChange upper normalizeEmail w (.verifyByToken text) w' := by
  cases text with
  | missing =>
    cases h
    exact .refused _
  | notUuid =>
    cases h
    exact .refused _
  | uuid value =>
    simp only [step] at h
    cases hfound : EmailVerificationService.findToken w.db value with
    | none =>
      rw [hfound] at h
      cases h
      exact .refused _
    | some found =>
      obtain ⟨id, t, user⟩ := found
      rw [hfound] at h
      dsimp only at h
      split_ifs at h
      cases hverify : EmailVerificationService.verifyByToken w.db w.now (.uuid value) with
      | error e =>
        rw [hverify] at h
        cases h
        exact .refused _
      | ok db =>
        rw [hverify] at h
        cases h
        obtain ⟨hvalid, rfl⟩ := EmailVerificationService.verifyByToken_ok hfound hverify
        exact .verifyByToken hfound hvalid

theorem change_of_verifyByCode {n : Nat} {code : String}
    (h : step upper normalizeEmail w (.verifyByCode n code) = some w') :
    IdentityChange upper normalizeEmail w (.verifyByCode n code) w' := by
  obtain ⟨q, hq, h⟩ := Option.bind_eq_some_iff.mp h
  cases hfound : EmailVerificationService.findByCode upper w.db w.now q.user code with
  | error e =>
    rw [hfound] at h
    cases h
    exact .closed _ n q
  | ok id =>
    rw [hfound] at h
    dsimp only at h
    split_ifs at h
    cases hverify : EmailVerificationService.verifyByCode upper w.db w.now q.user q.row code with
    | error e =>
      rw [hverify] at h
      cases h
      exact .closed _ n q
    | ok out =>
      obtain ⟨user, db⟩ := out
      rw [hverify] at h
      cases h
      obtain ⟨hflag, rfl⟩ := EmailVerificationService.verifyByCode_ok hfound hverify
      exact .verifyByCode hq hfound hflag

theorem change_of_updateProfile {n : Nat} {data : UserSerializer.ProfileData}
    (h : step upper normalizeEmail w (.updateProfile n data) = some w') :
    IdentityChange upper normalizeEmail w (.updateProfile n data) w' := by
  obtain ⟨q, hq, h⟩ := Option.bind_eq_some_iff.mp h
  cases hupdate : UserSerializer.update w.db.users w.now q.user q.row data with
  | error e =>
    rw [hupdate] at h
    cases h
    exact .closed _ n q
  | ok out =>
    obtain ⟨row, users⟩ := out
    rw [hupdate] at h
    cases h
    obtain ⟨haccepted, hrow, rfl⟩ := UserSerializer.update_ok hupdate
    refine .updateProfile hq haccepted hrow ?_
    split_ifs
    · exact nofun
    · exact nofun

theorem change_of_socialLogin {provider : String} {info : SocialUserInfo}
    (h : step upper normalizeEmail w (.socialLogin provider info) = some w') :
    IdentityChange upper normalizeEmail w (.socialLogin provider info) w' := by
  simp only [step] at h
  cases hlogin : UserService.processSocialLogin normalizeEmail w.db w.now provider info with
  | error e =>
    rw [hlogin] at h
    cases h
    exact .refused _
  | ok out =>
    obtain ⟨result, db⟩ := out
    rw [hlogin] at h
    dsimp only at h
    obtain ⟨email, hemail, ⟨hold, _⟩ | ⟨hnew, hup⟩⟩ := UserService.processSocialLogin_ok hlogin
    · rw [hold] at h
      cases h
      exact .logIn hlogin hold
    · rw [hnew, if_pos rfl, hemail, hup.user] at h
      cases h
      exact .signUp hlogin hup

/-- Every event makes one of the changes. -/
theorem step_change {e : IdentityEvent} (h : step upper normalizeEmail w e = some w') :
    IdentityChange upper normalizeEmail w e w' := by
  cases e with
  | tick seconds =>
    cases h
    exact .tick seconds
  | register data token code =>
    simp only [step] at h
    cases hcreate : UserService.performCreate normalizeEmail w.db w.now data token code with
    | error e =>
      rw [hcreate] at h
      cases h
      exact .refused _
    | ok out =>
      obtain ⟨user, mail, db⟩ := out
      rw [hcreate] at h
      cases h
      obtain ⟨rfl, hlinked, row, hrow, husers, hfree⟩ := UserService.performCreate_ok hcreate
      exact .register hrow husers hfree hlinked
  | authenticate user =>
    obtain ⟨row, hrow, h⟩ := Option.bind_eq_some_iff.mp h
    cases h
    exact .authenticate hrow
  | sendVerificationEmail n isResend token code =>
    obtain ⟨q, _, h⟩ := Option.bind_eq_some_iff.mp h
    cases hsend : EmailVerificationService.sendVerificationEmail w.db w.now q.user q.row isResend
        token code with
    | error e =>
      rw [hsend] at h
      cases h
      exact .closed _ n q
    | ok out =>
      obtain ⟨mail, db⟩ := out
      rw [hsend] at h
      cases h
      obtain ⟨husers, hlinked⟩ := EmailVerificationService.sendVerificationEmail_users hsend
      exact .sendVerificationEmail husers hlinked
  | deliverMail n outcome =>
    obtain ⟨mail, _, h⟩ := Option.bind_eq_some_iff.mp h
    cases h
    obtain ⟨husers, hlinked⟩ := EmailTasks.sendVerificationEmailTask_users w.db w.now mail outcome
    exact .deliverMail husers hlinked
  | verifyByToken text => exact change_of_verifyByToken h
  | verifyByCode n code => exact change_of_verifyByCode h
  | updateProfile n data => exact change_of_updateProfile h
  | resetVerified n =>
    obtain ⟨q, _, h⟩ := Option.bind_eq_some_iff.mp h
    cases h
    exact .resetVerified
  | socialLogin provider info => exact change_of_socialLogin h

end Identities

/-! ## The invariant -/

/-- Something set the flag that proves `email`. -/
def Supported (mailed : List (Nat × String)) (email : String) (setBy : Option Provenance) : Prop :=
  ∃ p, setBy = some p ∧ p.Proves mailed email

theorem Supported.mono {mailed : List (Nat × String)} {email : String}
    {setBy : Option Provenance} (h : Supported mailed email setBy) (more : List (Nat × String)) :
    Supported (mailed ++ more) email setBy := by
  obtain ⟨p, hp, hproves⟩ := h
  refine ⟨p, hp, ?_⟩
  cases p with
  | token id => exact List.mem_append_left _ hproves
  | social created => exact hproves

namespace Identities

/-- Every flag is supported, in the table and in every copy that can still be
written; and no social account is linked. -/
structure Proved (w : Identities) : Prop where
  rows : ∀ u email, flagOf w.db.users u = some (email, true) →
    Supported w.mailed email (w.setBy u)
  copies : ∀ q ∈ w.requests, q.stage = .opened → q.row.isEmailVerified = true →
    Supported w.mailed q.row.email q.setBy
  linked : w.db.socialAccounts = []

variable {upper normalizeEmail : String → String} {w w' : Identities}

theorem Proved.start (now : Time) : Proved (start now) := by
  refine ⟨fun u email hu => ?_, fun q hq => ?_, rfl⟩
  · cases hu
  · cases hq

theorem request?_eq_some {n : Nat} {stage : RequestStage} {q : IdentityRequest}
    (h : w.request? n stage = some q) : q ∈ w.requests ∧ q.stage = stage := by
  unfold request? at h
  rw [Option.filter_eq_some_iff] at h
  exact ⟨List.mem_of_getElem? h.1, of_decide_eq_true h.2⟩

/-- A request that is replaced by one that writes no whole row any more. -/
theorem Proved.copies_set (h : Proved w) {n : Nat} {q : IdentityRequest}
    (hq : q.stage ≠ .opened) : ∀ q' ∈ w.requests.set n q, q'.stage = .opened →
      q'.row.isEmailVerified = true → Supported w.mailed q'.row.email q'.setBy := by
  intro q' hq' hopen
  rcases List.mem_or_eq_of_mem_set hq' with hq' | rfl
  · exact h.copies q' hq' hopen
  · exact absurd hopen hq

theorem Proved.close (h : Proved w) (n : Nat) (q : IdentityRequest) : Proved (w.close n q) := by
  refine ⟨h.rows, h.copies_set ?_, h.linked⟩
  exact fun hc => by cases hc

/-- The flag that a token sets. -/
theorem Proved.verified (h : Proved w) {user : UserId} {row : User} {id : Nat}
    (hmailed : w.mailedToPresent user id = true) :
    Proved (w.verified user id
      (EmailVerificationService.markVerified w.db w.now user row id).2) := by
  refine ⟨fun u email hu => ?_, h.copies, h.linked⟩
  replace hu : flagOf (EmailVerificationService.markVerified w.db w.now user row id).2.users u
      = some (email, true) := hu
  rw [EmailVerificationService.flagOf_markVerified] at hu
  by_cases hne : u = user
  · rw [if_pos hne, Option.map_eq_some_iff] at hu
    obtain ⟨⟨email', flag⟩, hflag, heq⟩ := hu
    cases heq
    obtain ⟨r, hr, hemail, _⟩ := flagOf_eq_some.mp hflag
    unfold mailedToPresent at hmailed
    rw [← hne, hr, Option.all_some, hemail] at hmailed
    have hmem : (id, email') ∈ w.mailed := of_decide_eq_true hmailed
    refine ⟨.token id, ?_, hmem⟩
    show Function.update w.setBy user (some (.token id)) u = some (.token id)
    rw [hne, Function.update_self]
  · rw [if_neg hne] at hu
    have hsetBy : (w.verified user id
        (EmailVerificationService.markVerified w.db w.now user row id).2).setBy u = w.setBy u :=
      Function.update_of_ne hne ..
    rw [hsetBy]
    exact h.rows u email hu

/-- A new row, with what set its flag. -/
theorem Proved.insert (h : Proved w) {db : AccountDb} (row : User) {mails : List VerificationMail}
    {setBy : Option Provenance} (hlinked : db.socialAccounts = w.db.socialAccounts)
    (hflags : ∀ u, flagOf db.users u = if u = w.db.users.next then
      some (row.email, row.isEmailVerified) else flagOf w.db.users u)
    (hsetBy : row.isEmailVerified = true → Supported w.mailed row.email setBy) :
    Proved { w with
      db := db
      mails := mails
      setBy := Function.update w.setBy w.db.users.next setBy } := by
  refine ⟨fun u email hu => ?_, h.copies, hlinked.trans h.linked⟩
  dsimp only at hu ⊢
  rw [hflags] at hu
  by_cases hnext : u = w.db.users.next
  · rw [if_pos hnext, Option.some.injEq, Prod.mk.injEq] at hu
    rw [hnext, Function.update_self, ← hu.1]
    exact hsetBy hu.2
  · rw [if_neg hnext] at hu
    rw [Function.update_of_ne hnext]
    exact h.rows u email hu

/-- The whole-row write of a profile update. -/
theorem Proved.update (h : Proved w) {n : Nat} {q q' : IdentityRequest} {row : User}
    (hflag : row.isEmailVerified = true → Supported w.mailed row.email q.setBy)
    (hstage : q'.stage ≠ .opened) :
    Proved { w with
      db := { w.db with users := w.db.users.put q.user row }
      requests := w.requests.set n q'
      setBy := Function.update w.setBy q.user q.setBy } := by
  refine ⟨fun u email hu => ?_, h.copies_set hstage, h.linked⟩
  dsimp only at hu ⊢
  rw [flagOf_put] at hu
  by_cases hne : u = q.user
  · rw [if_pos hne, Option.some.injEq, Prod.mk.injEq] at hu
    rw [hne, Function.update_self, ← hu.1]
    exact hflag hu.2
  · rw [if_neg hne] at hu
    rw [Function.update_of_ne hne]
    exact h.rows u email hu

/-- A step that writes no flag. -/
theorem Proved.frame (h : Proved w) (hrequests : w'.requests = w.requests)
    (hsetBy : w'.setBy = w.setBy) (hmailed : ∃ more, w'.mailed = w.mailed ++ more)
    (hflags : ∀ u, flagOf w'.db.users u = flagOf w.db.users u)
    (hlinked : w'.db.socialAccounts = w.db.socialAccounts) : Proved w' := by
  obtain ⟨more, hmore⟩ := hmailed
  refine ⟨fun u email hu => ?_, fun q hq hopen hflag => ?_, hlinked.trans h.linked⟩
  · rw [hflags] at hu
    rw [hsetBy, hmore]
    exact (h.rows u email hu).mono more
  · rw [hrequests] at hq
    rw [hmore]
    exact (h.copies q hq hopen hflag).mono more

/-! ## One step -/

/-- A changed address comes with an unverified copy, and any other write
restores an address with its own flag. -/
theorem Proved.updateProfile (h : Proved w) {n : Nat} {data : UserSerializer.ProfileData}
    {q q' : IdentityRequest} {row : User} (hq : w.request? n .opened = some q)
    (haccepted : UserSerializer.accepted w.db.users q.user q.row data = true)
    (hrow : row = (UserSerializer.assign q.row data).stamped w.now) (hstage : q'.stage ≠ .opened)
    (hproper : w.proper upper (.updateProfile n data) = true) :
    Proved { w with
      db := { w.db with users := w.db.users.put q.user row }
      requests := w.requests.set n q'
      setBy := Function.update w.setBy q.user q.setBy } := by
  refine h.update (fun hflag => ?_) hstage
  simp only [proper] at hproper
  rw [hq, Option.all_some] at hproper
  rw [hrow, User.stamped_isEmailVerified, UserSerializer.assign_isEmailVerified] at hflag
  have hsame : UserSerializer.emailChanged q.row data = false := by
    simpa [haccepted, hflag] using hproper
  rw [hrow, User.stamped_email, UserSerializer.assign_email hsame]
  exact h.copies q (request?_eq_some hq).1 (request?_eq_some hq).2 hflag

/-- The flag that is taken away. -/
theorem Proved.resetVerified (h : Proved w) (q : IdentityRequest) :
    Proved { w with db := { w.db with
      users := (UserSerializer.resetVerified w.db.users w.now q.user q.row).2 } } := by
  refine ⟨fun u email hu => ?_, h.copies, h.linked⟩
  dsimp only at hu
  unfold UserSerializer.resetVerified at hu
  rw [flagOf_saveFlag] at hu
  split_ifs at hu
  · obtain ⟨e, _, he⟩ := Option.map_eq_some_iff.mp hu
    cases he
  · exact h.rows u email hu

/-- An account that a social login creates has the email of the login. -/
theorem Proved.signUp (h : Proved w) {db : AccountDb} {email : String} {user : UserId}
    (hup : UserService.SignsUp w.db email user db) :
    Proved { w with
      db := db
      setBy := Function.update w.setBy w.db.users.next (some (.social email)) } := by
  refine h.insert { username := "", email := email, isEmailVerified := true } hup.linked
    hup.flags fun _ => ?_
  exact ⟨.social email, rfl, rfl⟩

/-- Every proper change keeps the invariant. -/
theorem Proved.change (h : Proved w) {e : IdentityEvent} (hproper : w.proper upper e = true)
    (hchange : IdentityChange upper normalizeEmail w e w') : Proved w' := by
  cases hchange with
  | tick seconds => exact ⟨h.rows, h.copies, h.linked⟩
  | refused => exact h
  | closed _ n q => exact h.close n q
  | @register _ _ _ _ db row hrow husers hfree hlinked =>
    have hnew : row.isEmailVerified = true → Supported w.mailed row.email none := by
      intro hc
      rw [hrow] at hc
      cases hc
    refine h.insert row hlinked (fun u => ?_) hnew
    rw [husers]
    exact flagOf_insert
  | @authenticate user row hrow =>
    -- a copy is as good as the row it is read from
    refine ⟨h.rows, fun q hq hopen hflag => ?_, h.linked⟩
    rcases List.mem_append.mp hq with hq | hq
    · exact h.copies q hq hopen hflag
    · obtain rfl := List.mem_singleton.mp hq
      have hrows : flagOf w.db.users user = some (row.email, true) :=
        flagOf_eq_some.mpr ⟨row, hrow, rfl, hflag⟩
      exact h.rows user row.email hrows
  | @sendVerificationEmail n _ _ _ q mail db husers hlinked =>
    refine (h.close n q).frame rfl rfl ⟨[], by simp⟩ (fun u => ?_) hlinked
    show flagOf db.users u = flagOf w.db.users u
    rw [husers]
  | deliverMail husers hlinked =>
    refine h.frame rfl rfl ⟨_, rfl⟩ (fun u => ?_) hlinked
    dsimp only
    rw [husers]
  | verifyByToken hfound hvalid =>
    simp only [proper] at hproper
    rw [hfound, Option.all_some, hvalid] at hproper
    exact h.verified hproper
  | @verifyByCode n id _ q hq hfound hflag =>
    simp only [proper] at hproper
    rw [hq, Option.all_some, hfound, hflag] at hproper
    exact (h.verified hproper).close n q
  | updateProfile hq haccepted hrow hstage =>
    exact h.updateProfile hq haccepted hrow hstage hproper
  | @resetVerified n q => exact (h.resetVerified q).close n q
  | logIn hlogin hold =>
    obtain ⟨_, _, ⟨_, hin⟩ | ⟨hnew, _⟩⟩ := UserService.processSocialLogin_ok hlogin
    · exact h.frame rfl rfl ⟨[], by simp⟩ hin.flags hin.linked
    · rw [hold] at hnew
      cases hnew
  | signUp _ hup => exact h.signUp hup

end Identities

/-! ## The runs -/

/-- In every state of a proper run, a verified email was proved: the token
that set the flag was mailed to it, or the social login that created the
account came with it.  So does the email of every social login into an account
that is there. -/
theorem verified_email_proved {upper normalizeEmail : String → String} {now : Time}
    {es : List IdentityEvent} {w : Identities}
    (h : Run (Identities.step upper normalizeEmail) (fun w e => w.proper upper e = true)
      (Identities.start now) es w) :
    (∀ u email, flagOf w.db.users u = some (email, true) →
      Supported w.mailed email (w.setBy u)) ∧
    ∀ provider info result db email,
      UserService.processSocialLogin normalizeEmail w.db w.now provider info = .ok (result, db) →
      result.isNewUser = false → UserService.socialEmail provider info = .ok email →
      Supported w.mailed email (w.setBy result.user) := by
  have hproved : w.Proved :=
    h.invariant Identities.Proved (Identities.Proved.start now)
      fun w e w' hw hproper hstep => hw.change hproper (Identities.step_change hstep)
  refine ⟨hproved.rows, fun provider info result db email hlogin hold hemail => ?_⟩
  obtain ⟨email', hemail', ⟨_, hin⟩ | ⟨hnew, _⟩⟩ := UserService.processSocialLogin_ok hlogin
  · rw [hemail] at hemail'
    cases hemail'
    obtain ⟨verified, hflag, hverified | hlinked⟩ := hin.found
    · rw [hverified] at hflag
      exact hproved.rows _ _ hflag
    · rw [hproved.linked] at hlinked
      cases hlinked
  · rw [hold] at hnew
    cases hnew

/-- The registration of `kim`. -/
def kimRegisters : IdentityEvent :=
  .register { username := "kim", email := "kim@shop.kr", password := "a", password2 := "a" } 77
    "K1M000"

/-- The social login of the owner of `lee@shop.kr`. -/
def leeLogsIn : SocialUserInfo := { email := "lee@shop.kr", providerId := "5" }

/-- `kim` moves to a new address, has a second token mailed there and enters
its code. -/
def kimMoves : List IdentityEvent :=
  [kimRegisters, .deliverMail 0 .sent, .authenticate 1,
    .updateProfile 0 { email := some "lee@shop.kr" }, .resetVerified 0, .authenticate 1,
    .sendVerificationEmail 1 false 78 "L33000", .deliverMail 1 .sent, .authenticate 1,
    .verifyByCode 2 "L33000"]

theorem verified_email_proved_moved :
    ∃ w, Run (Identities.step (fun s => s) fun s => s) (fun w e => w.proper (fun s => s) e = true)
        (Identities.start 0) kimMoves w ∧
      flagOf w.db.users 1 = some ("lee@shop.kr", true) ∧
      Supported w.mailed "lee@shop.kr" (w.setBy 1) := by
  obtain ⟨w, hrun, hend⟩ := Run.exists_of_execIf (by decide : (execIf
    (Identities.step (fun s => s) fun s => s) (Identities.proper fun s => s)
    (Identities.start 0) kimMoves).any (fun w =>
      decide (flagOf w.db.users 1 = some ("lee@shop.kr", true))) = true)
  have hflag := of_decide_eq_true hend
  exact ⟨w, hrun, hflag, (verified_email_proved hrun).1 1 _ hflag⟩

/-- A token that went to `kim@shop.kr` verifies `lee@shop.kr` after the change
of the address, and the social login of its owner enters the account of `kim`.
A verified user who changes the address has it verified until the second
write. -/
theorem unproved_email_verified :
    (∃ w, exec (Identities.step (fun s => s) fun s => s) (Identities.start 0)
        [kimRegisters, .deliverMail 0 .sent, .authenticate 1,
          .updateProfile 0 { email := some "lee@shop.kr" }, .resetVerified 0,
          .verifyByToken (.uuid 77)] = some w ∧
      flagOf w.db.users 1 = some ("lee@shop.kr", true) ∧
      ¬ Supported w.mailed "lee@shop.kr" (w.setBy 1) ∧
      (UserService.processSocialLogin (fun s => s) w.db w.now "google" leeLogsIn).toOption.map
        Prod.fst = some ⟨1, false⟩) ∧
    ∃ w, exec (Identities.step (fun s => s) fun s => s) (Identities.start 0)
        [kimRegisters, .deliverMail 0 .sent, .verifyByToken (.uuid 77), .authenticate 1,
          .updateProfile 0 { email := some "lee@shop.kr" }] = some w ∧
      flagOf w.db.users 1 = some ("lee@shop.kr", true) ∧
      ¬ Supported w.mailed "lee@shop.kr" (w.setBy 1) := by
  have hnever : ¬ Supported [(1, "kim@shop.kr")] "lee@shop.kr" (some (.token 1)) := by
    rintro ⟨p, hp, hproves⟩
    cases hp
    revert hproves
    show (1, "lee@shop.kr") ∈ [(1, "kim@shop.kr")] → False
    decide
  exact ⟨⟨_, rfl, by decide, hnever, by decide⟩, ⟨_, rfl, by decide, hnever⟩⟩

end Shopping
