import Shopping.Users.Account

/-!
# Verified emails

`EmailVerificationToken` and the services around it: registration, the mail
with the token, the verification by link or by code, and the social login that
trusts the flag.  A token belongs to a user; the mail goes to the address that
the user has when the task runs.

`upper` is `str.upper`, and `normalizeEmail` the method of Django's
`BaseUserManager`, which writes the domain in lower case.
-/

namespace Shopping

/-- A row of `email_verification_tokens`; `token` is the value of the UUID. -/
structure EmailVerificationToken where
  user : UserId
  token : Nat
  verificationCode : String
  createdAt : Time
  isUsed : Bool := false
  usedAt : Option Time := none
  deriving DecidableEq, Repr

/-- `EmailLog.STATUS_CHOICES`, as far as the task sets them. -/
inductive EmailStatus where
  | pending
  | sent
  | failed
  deriving DecidableEq, Repr

/-- A row of `email_logs` for a verification mail.  Nothing here deletes a user
or a token, so a log has both. -/
structure EmailLog where
  user : UserId
  token : Nat
  recipientEmail : String
  createdAt : Time
  status : EmailStatus := .pending
  failedAt : Option Time := none
  resendCount : Nat := 0
  deriving DecidableEq, Repr

/-- The tables of the accounts, and the users with a linked social account. -/
structure AccountDb where
  users : Table User := Table.empty
  tokens : Table EmailVerificationToken := Table.empty
  emailLogs : Table EmailLog := Table.empty
  socialAccounts : List UserId := []

/-- What the account services raise; the texts go with a code. -/
inductive AccountError where
  | emailVerificationServiceError (message code : String)
  | userServiceError (message code : String)
  | validationError (message : String)
  | db (error : DbError)
  deriving DecidableEq, Repr

namespace EmailVerificationToken

/-- `is_expired`. -/
def isExpired (now : Time) (t : EmailVerificationToken) : Bool :=
  decide (t.createdAt + 24 * 60 * 60 < now)

/-- `can_resend`. -/
def canResend (now : Time) (t : EmailVerificationToken) : Bool :=
  decide (t.createdAt + 60 < now)

/-- `mark_as_used`. -/
def markAsUsed (now : Time) (t : EmailVerificationToken) : EmailVerificationToken :=
  { t with isUsed := true, usedAt := some now }

/-- `order_by("-created_at").first()`. -/
def newest : List (Nat × EmailVerificationToken) → Option (Nat × EmailVerificationToken)
  | [] => none
  | p :: rest =>
    match newest rest with
    | none => some p
    | some q => if q.2.createdAt < p.2.createdAt then some p else some q

/-- `objects.create(user=user)`, with the random values `token` and `code`.
The user has no unused token with this code, and the constraints refuse a used
one. -/
def create (db : AccountDb) (now : Time) (user : UserId) (token : Nat) (code : String) :
    Except AccountError (Nat × AccountDb) :=
  if db.tokens.any fun _ t =>
      decide (t.token = token) ||
        (decide (t.user = user) && decide (t.verificationCode = code)) then
    .error (.db .integrityError)
  else
    let row : EmailVerificationToken :=
      { user := user, token := token, verificationCode := code, createdAt := now }
    .ok (db.tokens.next, { db with tokens := db.tokens.insert row })

end EmailVerificationToken

/-- `send_verification_email_task` with its arguments. -/
structure VerificationMail where
  user : UserId
  token : Nat
  isResend : Bool
  deriving DecidableEq, Repr

/-! ## Registration -/

/-- `validated_data` of `RegisterSerializer`. -/
structure RegisterData where
  username : String
  email : String
  password : String
  password2 : String
  profile : UserSerializer.ProfileData := {}
  deriving DecidableEq, Repr

/-- `create_user`, up to the unique constraints. -/
def createUser (db : AccountDb) (row : User) : Except AccountError (UserId × AccountDb) :=
  if db.users.any fun _ r => decide (r.username = row.username) || decide (r.email = row.email) then
    .error (.db .integrityError)
  else .ok (db.users.next, { db with users := db.users.insert row })

section

variable (upper normalizeEmail : String → String)

namespace UserService

/-- `register_user`: the token and its mail. -/
def registerUser (db : AccountDb) (now : Time) (user : UserId) (token : Nat) (code : String) :
    Except AccountError (VerificationMail × AccountDb) := do
  let (id, db') ← EmailVerificationToken.create db now user token code
  .ok ({ user := user, token := id, isResend := false }, db')

/-- `RegisterView.perform_create` after the validation: `create` of
`RegisterSerializer` and `register_user`, in one transaction. -/
def performCreate (db : AccountDb) (now : Time) (data : RegisterData) (token : Nat)
    (code : String) : Except AccountError (UserId × VerificationMail × AccountDb) := do
  if db.users.any fun _ r => decide (r.email = data.email) then
    .error (.validationError "이미 사용중인 이메일입니다.")
  else if db.users.any fun _ r => decide (r.username = data.username) then
    .error (.validationError "이미 사용중인 사용자명입니다.")
  else if data.password ≠ data.password2 then
    .error (.validationError "비밀번호가 일치하지 않습니다.")
  else do
    let blank : User :=
      { username := data.username, email := data.email, password := .hashed data.password }
    let row := UserSerializer.assign blank { data.profile with email := none }
    let (user, created) ← createUser db { row with email := normalizeEmail data.email }
    let (mail, registered) ← registerUser created now user token code
    .ok (user, mail, registered)

/-! ## Social login -/

/-- `user_info`; an empty text stands for a missing value. -/
structure SocialUserInfo where
  email : String := ""
  providerId : String := ""
  name : String := ""
  deriving DecidableEq, Repr

/-- `_generate_unique_username`: the first free name.  One of these names is
free, because there are more of them than users. -/
def generateUniqueUsername (users : Table User) (email provider : String) : String :=
  let username := (email.splitOn "@").headD "" ++ "_" ++ provider
  let names := username :: (List.range users.rows.length).map fun n =>
    username ++ "_" ++ toString (n + 1)
  (names.find? fun name => !users.any fun _ r => decide (r.username = name)).getD username

/-- The email that the login looks up. -/
def socialEmail (provider : String) (info : SocialUserInfo) : Except AccountError String :=
  if info.email ≠ "" then .ok info.email
  else if info.providerId ≠ "" then .ok (provider ++ "_" ++ info.providerId ++ "@social.local")
  else
    .error (.userServiceError
      "이메일 정보가 없습니다. OAuth 제공자 설정에서 이메일 권한을 확인하세요."
      "EMAIL_NOT_PROVIDED")

/-- The result of `process_social_login`, without the tokens. -/
structure SocialLoginResult where
  user : UserId
  isNewUser : Bool
  deriving DecidableEq, Repr

/-- `process_social_login`. -/
def processSocialLogin (db : AccountDb) (now : Time) (provider : String) (info : SocialUserInfo) :
    Except AccountError (SocialLoginResult × AccountDb) := do
  let email ← socialEmail provider info
  match db.users.find? fun _ r => decide (r.email = email) with
  | some (u, user) =>
    if user.isActive = false then
      .error (.userServiceError "탈퇴했거나 비활성화된 계정입니다." "ACCOUNT_INACTIVE")
    else if user.isEmailVerified = false ∧ u ∉ db.socialAccounts then
      .error (.userServiceError
        "이 이메일로 가입된 계정이 있지만 이메일 인증이 되어 있지 않습니다. 기존 계정으로 로그인해 이메일 인증을 마친 뒤 다시 시도해주세요."
        "EMAIL_NOT_VERIFIED")
    else
      let saved := User.saveFields db.users now u { user with lastLogin := some now }
        fun saved r => { r with lastLogin := saved.lastLogin }
      .ok ({ user := u, isNewUser := false }, { db with users := saved.2 })
  | none => do
    let row : User :=
      { username := generateUniqueUsername db.users email provider
        email := normalizeEmail email
        isEmailVerified := true }
    let (u, created) ← createUser db row
    if info.name = "" then .ok ({ user := u, isNewUser := true }, created)
    else
      let saved := User.saveFields created.users now u { row with firstName := info.name }
        fun saved r => { r with firstName := saved.firstName }
      .ok ({ user := u, isNewUser := true }, { created with users := saved.2 })

end UserService

/-! ## Verification -/

namespace EmailVerificationService

/-- `send_verification_email` for the user of a request. -/
def sendVerificationEmail (db : AccountDb) (now : Time) (u : UserId) (user : User)
    (isResend : Bool) (token : Nat) (code : String) :
    Except AccountError (VerificationMail × AccountDb) :=
  let latest := EmailVerificationToken.newest (db.tokens.select fun _ t => decide (t.user = u))
  if user.isEmailVerified then
    .error (.emailVerificationServiceError "이미 이메일 인증이 완료되었습니다." "ALREADY_VERIFIED")
  else if isResend = true ∧ (latest.any fun p => !p.2.canResend now) = true then
    .error (.emailVerificationServiceError "60초 후에 다시 시도해주세요." "RESEND_COOLDOWN")
  else do
    let invalidated := { db with tokens := db.tokens.mapRows fun _ t =>
      if t.user = u ∧ t.isUsed = false then { t with isUsed := true } else t }
    let (id, db') ← EmailVerificationToken.create invalidated now u token code
    .ok ({ user := u, token := id, isResend := isResend }, db')

/-- `_validate_token`. -/
def validateToken (now : Time) (t : EmailVerificationToken) (user : User) :
    Except AccountError Unit :=
  if t.isUsed then
    .error (.emailVerificationServiceError "이미 사용된 토큰입니다." "TOKEN_USED")
  else if t.isExpired now then
    .error (.emailVerificationServiceError
      "토큰이 만료되었습니다. 인증 이메일을 다시 요청해주세요." "TOKEN_EXPIRED")
  else if user.isEmailVerified then
    .error (.emailVerificationServiceError "이미 이메일 인증이 완료되었습니다." "ALREADY_VERIFIED")
  else .ok ()

/-- `user.is_email_verified = True` with its save, and `mark_as_used`. -/
def markVerified (db : AccountDb) (now : Time) (u : UserId) (user : User) (id : Nat) :
    User × AccountDb :=
  let saved := User.saveFields db.users now u { user with isEmailVerified := true }
    fun saved r => { r with isEmailVerified := saved.isEmailVerified }
  (saved.1, { db with
    users := saved.2
    tokens := db.tokens.modify id (EmailVerificationToken.markAsUsed now) })

/-- The `token` of a verification request, as `uuid.UUID` reads it. -/
inductive TokenText where
  | missing
  | notUuid
  | uuid (value : Nat)
  deriving DecidableEq, Repr

/-- `objects.select_related("user").get(token=token_str)`. -/
def findToken (db : AccountDb) (value : Nat) : Option (Nat × EmailVerificationToken × User) := do
  let (id, t) ← db.tokens.find? fun _ t => decide (t.token = value)
  let user ← db.users.get? t.user
  some (id, t, user)

/-- `verify_by_token`. -/
def verifyByToken (db : AccountDb) (now : Time) : TokenText → Except AccountError AccountDb
  | .missing =>
    .error (.emailVerificationServiceError "토큰이 제공되지 않았습니다." "TOKEN_MISSING")
  | .notUuid => .error (.emailVerificationServiceError "Must be a valid UUID." "TOKEN_INVALID")
  | .uuid value =>
    match findToken db value with
    | none => .error (.emailVerificationServiceError "유효하지 않은 토큰입니다." "TOKEN_INVALID")
    | some (id, t, user) => do
      validateToken now t user
      .ok (markVerified db now t.user user id).2

/-- The newest unused token of the user, when `code` is its code and it is
not expired. -/
def findByCode (db : AccountDb) (now : Time) (u : UserId) (code : String) :
    Except AccountError Nat :=
  match EmailVerificationToken.newest
      (db.tokens.select fun _ t => decide (t.user = u) && !t.isUsed) with
  | none =>
    .error (.emailVerificationServiceError
      "유효한 인증 토큰이 없습니다. 인증 이메일을 다시 요청해주세요." "NO_VALID_TOKEN")
  | some (id, t) =>
    if t.isExpired now then
      .error (.emailVerificationServiceError
        "인증 코드가 만료되었습니다. 인증 이메일을 다시 요청해주세요." "CODE_EXPIRED")
    else if upper t.verificationCode ≠ upper code then
      .error (.emailVerificationServiceError "인증 코드가 일치하지 않습니다." "CODE_MISMATCH")
    else .ok id

/-- `verify_by_code` for the user of a request. -/
def verifyByCode (db : AccountDb) (now : Time) (u : UserId) (user : User) (code : String) :
    Except AccountError (User × AccountDb) :=
  if code = "" then
    .error (.emailVerificationServiceError "인증 코드가 제공되지 않았습니다." "CODE_MISSING")
  else if user.isEmailVerified then
    .error (.emailVerificationServiceError "이미 이메일 인증이 완료되었습니다." "ALREADY_VERIFIED")
  else do
    let id ← findByCode upper db now u code
    .ok (markVerified db now u user id)

end EmailVerificationService

end

/-! ## The mail -/

namespace EmailTasks

/-- What becomes of a mail: it goes out and the log says so, it goes out and
the task dies before it says so, or the server refuses it. -/
inductive MailOutcome where
  | sent
  | died
  | refused
  deriving DecidableEq, Repr

/-- The row that the task makes for a token without one. -/
def newLog (now : Time) (mail : VerificationMail) (user : User) : EmailLog where
  user := mail.user
  token := mail.token
  recipientEmail := user.email
  createdAt := now

/-- `get_or_create(token=token)`. -/
def getOrCreateLog (db : AccountDb) (now : Time) (mail : VerificationMail) (user : User) :
    Nat × EmailLog × AccountDb :=
  match db.emailLogs.find? fun _ l => decide (l.token = mail.token) with
  | some (id, log) => (id, log, db)
  | none =>
    (db.emailLogs.next, newLog now mail user,
      { db with emailLogs := db.emailLogs.insert (newLog now mail user) })

/-- A write of one log. -/
def saveLog (db : AccountDb) (id : Nat) (f : EmailLog → EmailLog) : AccountDb :=
  { db with emailLogs := db.emailLogs.modify id f }

/-- `mark_as_sent`. -/
def markAsSent (db : AccountDb) (id : Nat) : AccountDb :=
  saveLog db id fun l => { l with status := .sent }

/-- `mark_as_failed`. -/
def markAsFailed (db : AccountDb) (now : Time) (id : Nat) : AccountDb :=
  saveLog db id fun l => { l with status := .failed, failedAt := some now }

/-- `send_verification_email_task`: the token and the address that the mail
went to. -/
def sendVerificationEmailTask (db : AccountDb) (now : Time) (mail : VerificationMail)
    (outcome : MailOutcome) : List (Nat × String) × AccountDb :=
  match db.users.get? mail.user, db.tokens.get? mail.token with
  | some user, some _ =>
    let (id, log, logged) := getOrCreateLog db now mail user
    if log.status = .sent then ([], logged)
    else
      match outcome with
      | .sent => ([(mail.token, user.email)], markAsSent logged id)
      | .died => ([(mail.token, user.email)], logged)
      | .refused => ([], markAsFailed logged now id)
  | _, _ => ([], db)

end EmailTasks

end Shopping
