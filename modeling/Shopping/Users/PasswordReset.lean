import Shopping.Users.Tokens
import Shopping.Users.Verification

/-!
# Password resets

`PasswordResetToken`, the validation of the confirmation request, the service
that changes the password, and the command that deletes old tokens.

`hashToken` is `_hash_token`, `timeout` the setting `PASSWORD_RESET_TIMEOUT`.
`lower` is `str.lower`, and `validatePassword` Django's policy with its
messages.  No user is deleted.
-/

namespace Shopping

/-- A row of `password_reset_tokens`; an old row has no hash. -/
structure PasswordResetToken where
  user : UserId
  tokenHash : Option String
  createdAt : Time
  isUsed : Bool := false
  usedAt : Option Time := none
  deriving DecidableEq, Repr

/-- `status` of a log, as far as a reset sets or reads it. -/
inductive ResetLogStatus where
  | pending
  | sent
  | failed
  | verified
  deriving DecidableEq, Repr

/-- A row of `email_logs` of the type `password_reset`. -/
structure ResetLog where
  user : UserId
  recipientEmail : String
  status : ResetLogStatus := .pending
  sentAt : Option Time := none
  verifiedAt : Option Time := none
  deriving DecidableEq, Repr

/-- The tables that a reset reads and writes. -/
structure ResetDb where
  users : Table User := Table.empty
  tokens : Table PasswordResetToken := Table.empty
  emailLogs : Table ResetLog := Table.empty
  sessions : TokenDb := {}

/-- What a reset raises: a `ValidationError` with its field, or an error of the
database. -/
inductive ResetError where
  | validationError (field : Option String) (messages : List String)
  | integrityError
  | databaseError
  deriving DecidableEq, Repr

namespace PasswordResetToken

/-- `is_expired`. -/
def isExpired (timeout : Nat) (now : Time) (t : PasswordResetToken) : Bool :=
  decide (t.createdAt + timeout < now)

/-- The unused tokens of a user. -/
def unusedOf (db : ResetDb) (user : UserId) : List Nat :=
  (db.tokens.select fun _ t => decide (t.user = user) && !t.isUsed).map Prod.fst

/-- `invalidate_previous_tokens`: how many there were. -/
def invalidatePreviousTokens (db : ResetDb) (now : Time) (user : UserId) : Nat × ResetDb :=
  ((unusedOf db user).length,
    { db with tokens := db.tokens.mapRows fun _ t =>
        if t.user = user ∧ t.isUsed = false then { t with isUsed := true, usedAt := some now }
        else t })

/-- `objects.create`; the hash is unique. -/
def create (hashToken : String → String) (db : ResetDb) (now : Time) (user : UserId)
    (rawToken : String) : Except ResetError ResetDb :=
  if db.tokens.any fun _ t => decide (t.tokenHash = some (hashToken rawToken)) then
    .error .integrityError
  else
    let row : PasswordResetToken :=
      { user := user, tokenHash := some (hashToken rawToken), createdAt := now }
    .ok { db with tokens := db.tokens.insert row }

/-- `generate_token`, in its transaction.  `rawToken` is the text of the new
UUID. -/
def generateToken (hashToken : String → String) (db : ResetDb) (now : Time) (user : UserId)
    (invalidatePrevious : Bool) (rawToken : String) : Except ResetError (String × ResetDb) := do
  let prepared :=
    if invalidatePrevious then (invalidatePreviousTokens db now user).2 else db
  let created ← create hashToken prepared now user rawToken
  .ok (rawToken, created)

/-- `verify_token`. -/
def verifyToken (hashToken : String → String) (timeout : Nat) (db : ResetDb) (now : Time)
    (user : UserId) (rawToken : String) : Option (Nat × PasswordResetToken) :=
  match db.tokens.find? fun _ t => decide (t.user = user) &&
      decide (t.tokenHash = some (hashToken rawToken)) && !t.isUsed with
  | none => none
  | some (id, t) => if t.isExpired timeout now then none else some (id, t)

/-- `mark_as_used`: a save of two columns, which raises without a row. -/
def markAsUsed (db : ResetDb) (now : Time) (id : Nat) : Except ResetError ResetDb :=
  match db.tokens.get? id with
  | none => .error .databaseError
  | some _ =>
    .ok { db with tokens := db.tokens.modify id fun t =>
      { t with isUsed := true, usedAt := some now } }

/-- `cleanup_expired_tokens`: the expired tokens that were not used, and the
tokens that were used more than `usedDays` ago. -/
def cleanupExpiredTokens (timeout : Nat) (db : ResetDb) (now : Time) (usedDays : Nat) : ResetDb :=
  { db with tokens := db.tokens.delete fun _ t =>
      (!t.isUsed && decide (t.createdAt + timeout < now)) ||
        (t.isUsed && t.usedAt.any fun at' => decide (at' + usedDays * 86400 < now)) }

end PasswordResetToken

/-! ## The request and its mail -/

namespace PasswordResetService

/-- `request_password_reset`, without the text of the mail. -/
def requestPasswordReset (hashToken : String → String) (db : ResetDb) (now : Time) (u : UserId)
    (user : User) (rawToken : String) : Except ResetError ResetDb := do
  let (_, db) ← PasswordResetToken.generateToken hashToken db now u true rawToken
  let log : ResetLog := { user := u, recipientEmail := user.email }
  .ok { db with emailLogs := db.emailLogs.insert log }

/-- The log of `send_email_task` for a mail that went out. -/
def logSent (db : ResetDb) (now : Time) (u : UserId) (user : User) : ResetDb :=
  let log : ResetLog :=
    { user := u, recipientEmail := user.email, status := .sent, sentAt := some now }
  { db with emailLogs := db.emailLogs.insert log }

/-! ## The confirmation -/

/-- `user.set_password` and its save. -/
def savePassword (db : ResetDb) (now : Time) (u : UserId) (user : User) (newPassword : String) :
    ResetDb :=
  { db with users := (User.saveFields db.users now u (user.setPassword newPassword)
      fun saved r => { r with password := saved.password }).2 }

/-- The update of the logs of the mails since the token. -/
def verifyLogs (db : ResetDb) (now : Time) (u : UserId) (token : PasswordResetToken) : ResetDb :=
  { db with emailLogs := db.emailLogs.mapRows fun _ l =>
      if l.user = u ∧ l.status = .sent ∧ (l.sentAt.any fun at' => decide (token.createdAt ≤ at'))
          = true then
        { l with status := .verified, verifiedAt := some now }
      else l }

/-- `TokenService.revoke_all_for_user(user)`. -/
def revokeAll (db : ResetDb) (now : Time) (u : UserId) : ResetDb :=
  { db with sessions :=
      TokenService.bulkCreate db.sessions (TokenService.pending db.sessions now u none) }

/-- `confirm_password_reset`, in its transaction.  `user` and `token` are the
objects of the validation. -/
def confirmPasswordReset (db : ResetDb) (now : Time) (u : UserId) (user : User) (id : Nat)
    (token : PasswordResetToken) (newPassword : String) : Except ResetError ResetDb := do
  let db ← PasswordResetToken.markAsUsed (savePassword db now u user newPassword) now id
  .ok (revokeAll (verifyLogs db now u token) now u)

end PasswordResetService

namespace PasswordResetConfirmSerializer

/-- The fields of the request, after their own checks. -/
structure ConfirmData where
  email : String
  token : String
  newPassword : String
  newPassword2 : String
  deriving DecidableEq, Repr

/-- What the validation leaves for `save`. -/
structure Validated where
  user : UserId
  row : User
  id : Nat
  token : PasswordResetToken
  newPassword : String
  deriving DecidableEq, Repr

section

variable (lower : String → String) (validatePassword : String → User → Except (List String) Unit)
  (hashToken : String → String) (timeout : Nat)

/-- `validate`, on the email that `validate_email` made lower case. -/
def validate (db : ResetDb) (now : Time) (data : ConfirmData) : Except ResetError Validated :=
  let invalid := ResetError.validationError none ["유효하지 않은 토큰입니다."]
  if data.newPassword ≠ data.newPassword2 then
    .error (.validationError (some "new_password2") ["비밀번호가 일치하지 않습니다."])
  else
    match db.users.find? fun _ r => decide (r.email = lower data.email) with
    | none => .error invalid
    | some (u, user) =>
      if user.isWithdrawn then
        .error (.validationError none ["탈퇴한 회원은 비밀번호 재설정을 할 수 없습니다."])
      else if user.isActive = false then
        .error (.validationError none ["비활성화된 계정입니다. 관리자에게 문의하세요."])
      else
        match validatePassword data.newPassword user with
        | .error messages => .error (.validationError (some "new_password") messages)
        | .ok _ =>
          match PasswordResetToken.verifyToken hashToken timeout db now u data.token with
          | none => .error invalid
          | some (id, token) =>
            .ok { user := u, row := user, id := id, token := token,
                  newPassword := data.newPassword }

/-- `save`. -/
def save (db : ResetDb) (now : Time) (v : Validated) : Except ResetError ResetDb :=
  PasswordResetService.confirmPasswordReset db now v.user v.row v.id v.token v.newPassword

end

end PasswordResetConfirmSerializer

/-! ## What the functions do -/

section

variable {lower : String → String} {validatePassword : String → User → Except (List String) Unit}
  {hashToken : String → String} {timeout : Nat} {db db' : ResetDb} {now : Time}

namespace PasswordResetToken

theorem mem_unusedOf {user : UserId} {k : Nat} :
    k ∈ unusedOf db user ↔
      ∃ t, db.tokens.get? k = some t ∧ t.user = user ∧ t.isUsed = false := by
  unfold unusedOf
  rw [List.mem_map]
  constructor
  · rintro ⟨⟨k, t⟩, hmem, rfl⟩
    obtain ⟨hget, hcond⟩ := Table.mem_select.mp hmem
    rw [Bool.and_eq_true, decide_eq_true_eq, Bool.not_eq_true'] at hcond
    exact ⟨t, hget, hcond⟩
  · rintro ⟨t, hget, huser, hunused⟩
    refine ⟨(k, t), Table.mem_select.mpr ⟨hget, ?_⟩, rfl⟩
    rw [huser, hunused]
    simp

/-- The invalidation uses the unused tokens of the user, and changes no other. -/
theorem invalidatePreviousTokens_used {user : UserId} {k : Nat} {t : PasswordResetToken}
    (h : (invalidatePreviousTokens db now user).2.tokens.get? k = some t) :
    ∃ before, db.tokens.get? k = some before ∧
      (t.isUsed = true ↔ k ∈ unusedOf db user ∨ before.isUsed = true) := by
  unfold invalidatePreviousTokens at h
  dsimp only at h
  rw [Table.get?_mapRows, Option.map_eq_some_iff] at h
  obtain ⟨before, hget, rfl⟩ := h
  refine ⟨before, hget, ?_⟩
  rw [mem_unusedOf]
  by_cases hmine : before.user = user ∧ before.isUsed = false
  · rw [if_pos hmine]
    exact ⟨fun _ => Or.inl ⟨before, hget, hmine⟩, fun _ => rfl⟩
  · rw [if_neg hmine]
    refine ⟨Or.inr, ?_⟩
    rintro (⟨t, ht, hother⟩ | hused)
    · cases hget.symm.trans ht
      exact absurd hother hmine
    · exact hused

/-- A new token comes under the next key. -/
theorem create_ok {user : UserId} {raw : String} (h : create hashToken db now user raw = .ok db') :
    ∃ row : PasswordResetToken, row.isUsed = false ∧
      db' = { db with tokens := db.tokens.insert row } := by
  unfold create at h
  split at h
  · cases h
  · cases h
    exact ⟨_, rfl, rfl⟩

/-- It comes after the invalidation, if there is one. -/
theorem generateToken_ok {user : UserId} {invalidatePrevious : Bool} {raw : String}
    {out : String × ResetDb}
    (h : generateToken hashToken db now user invalidatePrevious raw = .ok out) :
    out.1 = raw ∧ ∃ row : PasswordResetToken, row.isUsed = false ∧
      if invalidatePrevious = true then
        out.2 = { (invalidatePreviousTokens db now user).2 with
          tokens := (invalidatePreviousTokens db now user).2.tokens.insert row }
      else out.2 = { db with tokens := db.tokens.insert row } := by
  unfold generateToken at h
  dsimp only at h
  cases hcreate : create hashToken
      (if invalidatePrevious then (invalidatePreviousTokens db now user).2 else db) now user
      raw with
  | error e =>
    rw [hcreate] at h
    cases h
  | ok created =>
    rw [hcreate] at h
    cases h
    obtain ⟨row, hunused, rfl⟩ := create_ok hcreate
    refine ⟨rfl, row, hunused, ?_⟩
    cases invalidatePrevious with
    | true => rfl
    | false => rfl

/-- A verified token is an unused row of the user, with this hash, and not
expired. -/
theorem verifyToken_some {user : UserId} {raw : String} {id : Nat} {t : PasswordResetToken}
    (h : verifyToken hashToken timeout db now user raw = some (id, t)) :
    db.tokens.get? id = some t ∧ t.user = user ∧ t.tokenHash = some (hashToken raw) ∧
      t.isUsed = false ∧ t.isExpired timeout now = false := by
  unfold verifyToken at h
  split at h
  · cases h
  · rename_i k row hfind
    split at h
    · cases h
    · rename_i hexpired
      cases h
      obtain ⟨hget, hcond⟩ := Table.find?_eq_some_get hfind
      rw [Bool.and_eq_true, Bool.and_eq_true, decide_eq_true_eq, decide_eq_true_eq,
        Bool.not_eq_true'] at hcond
      exact ⟨hget, hcond.1.1, hcond.1.2, hcond.2, by simpa using hexpired⟩

end PasswordResetToken

/-- A request replaces the unused tokens of the user with a new one. -/
theorem PasswordResetService.requestPasswordReset_ok {u : UserId} {user : User} {raw : String}
    (h : requestPasswordReset hashToken db now u user raw = .ok db') :
    ∃ row : PasswordResetToken, row.isUsed = false ∧ db'.tokens
      = (PasswordResetToken.invalidatePreviousTokens db now u).2.tokens.insert row := by
  unfold requestPasswordReset at h
  cases hgenerate : PasswordResetToken.generateToken hashToken db now u true raw with
  | error e =>
    rw [hgenerate] at h
    cases h
  | ok out =>
    rw [hgenerate] at h
    cases h
    obtain ⟨_, row, hunused, hout⟩ := PasswordResetToken.generateToken_ok hgenerate
    rw [if_pos rfl] at hout
    exact ⟨row, hunused, by rw [hout]⟩

namespace PasswordResetConfirmSerializer

open PasswordResetToken

theorem validate_ok {data : ConfirmData} {v : Validated}
    (h : validate lower validatePassword hashToken timeout db now data = .ok v) :
    db.users.get? v.user = some v.row ∧ v.newPassword = data.newPassword ∧
      verifyToken hashToken timeout db now v.user data.token = some (v.id, v.token) := by
  unfold validate at h
  dsimp only at h
  split at h
  · cases h
  · split at h
    · cases h
    · rename_i u user hfind
      split at h
      · cases h
      · split at h
        · cases h
        · split at h
          · cases h
          · split at h
            · cases h
            · rename_i hverify
              cases h
              exact ⟨(Table.find?_eq_some_get hfind).1, rfl, hverify⟩

/-- The confirmation goes through as long as the row of the token is there,
whatever the row says. -/
theorem save_cases (db : ResetDb) (now : Time) (v : Validated) :
    (db.tokens.get? v.id = none ∧ save db now v = .error .databaseError) ∨
      ∃ t db', db.tokens.get? v.id = some t ∧ save db now v = .ok db' ∧
        db'.users = (PasswordResetService.savePassword db now v.user v.row v.newPassword).users ∧
        db'.tokens = db.tokens.modify v.id fun t =>
          { t with isUsed := true, usedAt := some now } := by
  unfold save PasswordResetService.confirmPasswordReset markAsUsed
  dsimp only [PasswordResetService.savePassword]
  cases hget : db.tokens.get? v.id with
  | none => exact Or.inl ⟨rfl, rfl⟩
  | some t => exact Or.inr ⟨t, _, rfl, rfl, rfl, rfl⟩

/-- An accepted confirmation sets the password of its user, and no other. -/
theorem save_password {v : Validated} (h : save db now v = .ok db') (u : UserId) :
    (db'.users.get? u).map User.password
      = if u = v.user then (db.users.get? u).map fun _ => .hashed v.newPassword
        else (db.users.get? u).map User.password := by
  rcases save_cases db now v with ⟨_, herror⟩ | ⟨t, db'', _, hok, husers, _⟩
  · rw [herror] at h
    cases h
  · rw [hok] at h
    cases h
    rw [husers]
    unfold PasswordResetService.savePassword
    rw [User.saveFields_get? _ _ _ _ _ fun _ _ => rfl]
    refine if_congr Iff.rfl (congrArg (Option.map · _) (funext fun r => ?_)) rfl
    unfold User.stamped User.setPassword
    split_ifs <;> rfl

end PasswordResetConfirmSerializer

end

end Shopping
