import Shopping.Users.Verification

/-!
# What the account services write

For each service, what it leaves of the email and the flag of every user.
-/

namespace Shopping

/-- The email of a user, and whether it is verified. -/
def flagOf (users : Table User) (u : UserId) : Option (String × Bool) :=
  (users.get? u).map fun r => (r.email, r.isEmailVerified)

section

variable {users : Table User} {now : Time} {k u : UserId} {row : User}

theorem flagOf_eq_some {email : String} {verified : Bool} :
    flagOf users u = some (email, verified) ↔
      ∃ r, users.get? u = some r ∧ r.email = email ∧ r.isEmailVerified = verified := by
  unfold flagOf
  rw [Option.map_eq_some_iff]
  exact exists_congr fun r => and_congr_right fun _ => Prod.mk.injEq .. ▸ Iff.rfl

theorem flagOf_insert : flagOf (users.insert row) u
    = if u = users.next then some (row.email, row.isEmailVerified) else flagOf users u := by
  unfold flagOf
  rw [Table.get?_insert]
  split_ifs
  · rfl
  · rfl

theorem flagOf_put : flagOf (users.put k row) u
    = if u = k then some (row.email, row.isEmailVerified) else flagOf users u := by
  unfold flagOf
  rw [Table.get?_put]
  split_ifs
  · rfl
  · rfl

/-- A write of named columns that keeps the email and the flag. -/
theorem flagOf_saveFields {fields : User → User → User}
    (hfields : ∀ saved r, ((fields saved r).email, (fields saved r).isEmailVerified)
      = (r.email, r.isEmailVerified)) :
    flagOf (User.saveFields users now k row fields).2 u = flagOf users u :=
  User.saveFields_keeps (fun _ _ => rfl) hfields u

/-- A write of the flag. -/
theorem flagOf_saveFlag (verified : Bool) :
    flagOf (User.saveFields users now k { row with isEmailVerified := verified }
        fun saved r => { r with isEmailVerified := saved.isEmailVerified }).2 u
      = if u = k then (flagOf users u).map fun e => (e.1, verified) else flagOf users u := by
  have hsaved := User.saveFields_get? users now k { row with isEmailVerified := verified }
    (fun saved r => { r with isEmailVerified := saved.isEmailVerified })
    (g := fun r => (r.email, r.isEmailVerified)) (fun _ _ => rfl) u
  unfold flagOf
  rw [hsaved]
  split_ifs
  · rw [Option.map_map]
    simp [Function.comp_def]
  · rfl

end

/-! ## The services -/

section

variable {upper normalizeEmail : String → String} {db db' : AccountDb} {now : Time}

/-- A new user gets the next key, and nobody has the email. -/
theorem createUser_ok {row : User} {user : UserId} (h : createUser db row = .ok (user, db')) :
    user = db.users.next ∧ db' = { db with users := db.users.insert row } ∧
      ∀ u r, db.users.get? u = some r → r.email ≠ row.email := by
  unfold createUser at h
  split_ifs at h with htaken
  cases h
  refine ⟨rfl, rfl, fun u r hu hemail => ?_⟩
  rw [Bool.not_eq_true, Table.any_eq_false] at htaken
  simpa [hemail] using htaken u r hu

theorem EmailVerificationToken.create_users {user : UserId} {token : Nat} {code : String}
    {id : Nat} (h : EmailVerificationToken.create db now user token code = .ok (id, db')) :
    db'.users = db.users ∧ db'.socialAccounts = db.socialAccounts := by
  unfold EmailVerificationToken.create at h
  split_ifs at h
  cases h
  exact ⟨rfl, rfl⟩

/-- A registered user is not verified and has an email of its own. -/
theorem UserService.performCreate_ok {data : RegisterData} {token : Nat} {code : String}
    {user : UserId} {mail : VerificationMail}
    (h : UserService.performCreate normalizeEmail db now data token code
      = .ok (user, mail, db')) :
    user = db.users.next ∧ db'.socialAccounts = db.socialAccounts ∧
      ∃ row, row.isEmailVerified = false ∧ db'.users = db.users.insert row ∧
        ∀ u r, db.users.get? u = some r → r.email ≠ row.email := by
  unfold UserService.performCreate at h
  split_ifs at h
  obtain ⟨⟨user', created⟩, hcreated, h⟩ := bind_eq_ok.mp h
  obtain ⟨⟨mail', registered⟩, hregistered, h⟩ := bind_eq_ok.mp h
  cases h
  obtain ⟨hnext, hdb, hfree⟩ := createUser_ok hcreated
  unfold UserService.registerUser at hregistered
  obtain ⟨⟨id, db''⟩, htoken, hregistered⟩ := bind_eq_ok.mp hregistered
  cases hregistered
  obtain ⟨husers, hlinked⟩ := EmailVerificationToken.create_users htoken
  subst hdb
  exact ⟨hnext, hlinked, _, rfl, husers, hfree⟩

theorem EmailVerificationService.sendVerificationEmail_users {u : UserId} {user : User}
    {isResend : Bool} {token : Nat} {code : String} {mail : VerificationMail}
    (h : EmailVerificationService.sendVerificationEmail db now u user isResend token code
      = .ok (mail, db')) :
    db'.users = db.users ∧ db'.socialAccounts = db.socialAccounts := by
  unfold EmailVerificationService.sendVerificationEmail at h
  dsimp only at h
  split_ifs at h
  obtain ⟨⟨id, db''⟩, htoken, h⟩ := bind_eq_ok.mp h
  cases h
  have htables := EmailVerificationToken.create_users htoken
  exact htables

theorem EmailTasks.sendVerificationEmailTask_users (db : AccountDb) (now : Time)
    (mail : VerificationMail) (outcome : EmailTasks.MailOutcome) :
    (EmailTasks.sendVerificationEmailTask db now mail outcome).2.users = db.users ∧
      (EmailTasks.sendVerificationEmailTask db now mail outcome).2.socialAccounts
        = db.socialAccounts := by
  have hlog : ∀ user, (EmailTasks.getOrCreateLog db now mail user).2.2.users = db.users ∧
      (EmailTasks.getOrCreateLog db now mail user).2.2.socialAccounts = db.socialAccounts := by
    intro user
    unfold EmailTasks.getOrCreateLog
    split
    · exact ⟨rfl, rfl⟩
    · exact ⟨rfl, rfl⟩
  unfold EmailTasks.sendVerificationEmailTask
  split
  · dsimp only
    split_ifs
    · exact hlog _
    · cases outcome with
      | sent => exact hlog _
      | died => exact hlog _
      | refused => exact hlog _
  · exact ⟨rfl, rfl⟩

/-- The verification sets the flag of one user and nothing else. -/
theorem EmailVerificationService.flagOf_markVerified {k : UserId} {user : User} {id : Nat}
    (u : UserId) :
    flagOf (EmailVerificationService.markVerified db now k user id).2.users u
      = if u = k then (flagOf db.users u).map fun e => (e.1, true) else flagOf db.users u :=
  flagOf_saveFlag true

theorem EmailVerificationService.verifyByToken_ok {value : Nat} {id : Nat}
    {t : EmailVerificationToken} {user : User}
    (hfound : EmailVerificationService.findToken db value = some (id, t, user))
    (h : EmailVerificationService.verifyByToken db now (.uuid value) = .ok db') :
    EmailVerificationService.validateToken now t user = .ok () ∧
      db' = (EmailVerificationService.markVerified db now t.user user id).2 := by
  unfold EmailVerificationService.verifyByToken at h
  dsimp only at h
  rw [hfound] at h
  obtain ⟨u, hvalid, h⟩ := bind_eq_ok.mp h
  cases h
  exact ⟨hvalid, rfl⟩

theorem EmailVerificationService.verifyByCode_ok {k : UserId} {user user' : User} {code : String}
    {id : Nat} (hfound : EmailVerificationService.findByCode upper db now k code = .ok id)
    (h : EmailVerificationService.verifyByCode upper db now k user code = .ok (user', db')) :
    user.isEmailVerified = false ∧
      db' = (EmailVerificationService.markVerified db now k user id).2 := by
  unfold EmailVerificationService.verifyByCode at h
  split_ifs at h with _ hverified
  rw [hfound] at h
  cases h
  exact ⟨Bool.not_eq_true _ ▸ hverified, rfl⟩

namespace UserService

/-- A login into an account that is there finds its email, and writes neither
email nor flag. -/
structure LogsIn (db : AccountDb) (email : String) (user : UserId) (db' : AccountDb) : Prop where
  found : ∃ verified, flagOf db.users user = some (email, verified) ∧
    (verified = true ∨ user ∈ db.socialAccounts)
  flags : ∀ u, flagOf db'.users u = flagOf db.users u
  linked : db'.socialAccounts = db.socialAccounts

/-- A login that creates the account sets its flag. -/
structure SignsUp (db : AccountDb) (email : String) (user : UserId) (db' : AccountDb) : Prop where
  user : user = db.users.next
  flags : ∀ u, flagOf db'.users u
    = if u = db.users.next then some (email, true) else flagOf db.users u
  linked : db'.socialAccounts = db.socialAccounts

/-- The two ways `process_social_login` succeeds. -/
theorem processSocialLogin_ok {provider : String} {info : SocialUserInfo}
    {result : SocialLoginResult}
    (h : processSocialLogin normalizeEmail db now provider info = .ok (result, db')) :
    ∃ email, socialEmail provider info = .ok email ∧
      (result.isNewUser = false ∧ LogsIn db email result.user db' ∨
        result.isNewUser = true ∧ SignsUp db (normalizeEmail email) result.user db') := by
  unfold processSocialLogin at h
  obtain ⟨email, hemail, h⟩ := bind_eq_ok.mp h
  refine ⟨email, hemail, ?_⟩
  cases hfind : db.users.find? fun _ r => decide (r.email = email) with
  | some found =>
    obtain ⟨u, user⟩ := found
    rw [hfind] at h
    dsimp only at h
    split_ifs at h with _ hrefused
    cases h
    obtain ⟨hget, hmatch⟩ := Table.find?_eq_some_get hfind
    refine Or.inl ⟨rfl, ⟨user.isEmailVerified, ?_, ?_⟩, fun v => ?_, rfl⟩
    · exact flagOf_eq_some.mpr ⟨user, hget, of_decide_eq_true hmatch, rfl⟩
    · rw [not_and_or, not_not, Bool.not_eq_false] at hrefused
      exact hrefused
    · dsimp only
      exact flagOf_saveFields fun _ _ => rfl
  | none =>
    rw [hfind] at h
    obtain ⟨⟨u, created⟩, hcreated, h⟩ := bind_eq_ok.mp h
    obtain ⟨hnext, hdb, _⟩ := createUser_ok hcreated
    subst hdb
    dsimp only at h
    split_ifs at h
    · cases h
      exact Or.inr ⟨rfl, hnext, fun v => flagOf_insert, rfl⟩
    · cases h
      refine Or.inr ⟨rfl, hnext, fun v => ?_, rfl⟩
      dsimp only
      rw [flagOf_saveFields, flagOf_insert]
      exact fun _ _ => rfl

end UserService

end

end Shopping
