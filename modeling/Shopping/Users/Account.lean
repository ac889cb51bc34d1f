import Shopping.Models.User

/-!
# Profiles, passwords and withdrawal

`UserSerializer`, `PasswordChangeSerializer` and `UserService.withdraw_user`.
Each works on the user that came with the request, a copy of the row that was
read when the request was authenticated.
-/

namespace Shopping

/-! ## The profile -/

namespace UserSerializer

/-- `validated_data`: the fields of the request that may be written. -/
structure ProfileData where
  email : Option String := none
  firstName : Option String := none
  lastName : Option String := none
  phoneNumber : Option String := none
  birthDate : Option (Option Nat) := none
  postalCode : Option String := none
  address : Option String := none
  addressDetail : Option String := none
  agreeMarketingEmail : Option Bool := none
  agreeMarketingSms : Option Bool := none
  deriving DecidableEq, Repr

/-- `validate_email`. -/
def validateEmail (users : Table User) (row : User) (value : String) :
    Except ShopError String :=
  if row.email = value then .ok value
  else if users.any fun _ r => decide (r.email = value) then
    .error (.validationError "이미 사용중인 이메일입니다.")
  else .ok value

/-- `setattr` for each field of `validated_data`. -/
def assign (row : User) (data : ProfileData) : User :=
  { row with
    email := data.email.getD row.email
    firstName := data.firstName.getD row.firstName
    lastName := data.lastName.getD row.lastName
    phoneNumber := data.phoneNumber.getD row.phoneNumber
    birthDate := data.birthDate.getD row.birthDate
    postalCode := data.postalCode.getD row.postalCode
    address := data.address.getD row.address
    addressDetail := data.addressDetail.getD row.addressDetail
    agreeMarketingEmail := data.agreeMarketingEmail.getD row.agreeMarketingEmail
    agreeMarketingSms := data.agreeMarketingSms.getD row.agreeMarketingSms }

/-- `email_changed`. -/
def emailChanged (row : User) (data : ProfileData) : Bool :=
  data.email.any fun email => decide (email ≠ row.email)

/-- `is_valid` and `super().update`, which ends in `instance.save()`.  The
check reads the emails again at the moment of the write, where the unique
constraint looks at them too, so an earlier check refuses nothing else that
would have been written. -/
def update (users : Table User) (now : Time) (k : UserId) (row : User) (data : ProfileData) :
    Except ShopError (User × Table User) := do
  if let some email := data.email then
    let _ ← validateEmail users row email
  User.save users now k (assign row data)

/-- `instance.is_email_verified = False` and its save, the second write of
`update` when the email changed. -/
def resetVerified (users : Table User) (now : Time) (k : UserId) (row : User) :
    User × Table User :=
  User.saveFields users now k { row with isEmailVerified := false }
    fun saved r => { r with isEmailVerified := saved.isEmailVerified }

/-- The checks of a profile update: the email is free, as `validate_email` and
the unique constraint see it. -/
def accepted (users : Table User) (k : UserId) (row : User) (data : ProfileData) : Bool :=
  (data.email.all fun email => (validateEmail users row email).isOk) &&
    !User.emailTaken users k (assign row data).email

@[simp] theorem assign_standing (row : User) (data : ProfileData) :
    (assign row data).standing = row.standing := rfl

@[simp] theorem assign_isEmailVerified (row : User) (data : ProfileData) :
    (assign row data).isEmailVerified = row.isEmailVerified := rfl

theorem assign_email {row : User} {data : ProfileData} (h : emailChanged row data = false) :
    (assign row data).email = row.email := by
  unfold emailChanged at h
  unfold assign
  cases hemail : data.email with
  | none => rfl
  | some email =>
    rw [hemail, Option.any_some, decide_eq_false_iff_not, not_not] at h
    exact h

/-- The first write of `update` is one save of the whole row. -/
theorem update_ok {users users' : Table User} {now : Time} {k : UserId} {row row' : User}
    {data : ProfileData} (h : update users now k row data = .ok (row', users')) :
    accepted users k row data = true ∧ row' = (assign row data).stamped now ∧
      users' = users.put k row' := by
  unfold update at h
  unfold accepted
  cases hemail : data.email with
  | none =>
    rw [hemail] at h
    obtain ⟨hrow, husers, hfree⟩ := User.save_ok h
    exact ⟨by simp [hfree], hrow, husers⟩
  | some email =>
    rw [hemail] at h
    obtain ⟨_, hvalid, h⟩ := bind_eq_ok.mp h
    obtain ⟨hrow, husers, hfree⟩ := User.save_ok h
    exact ⟨by simp [hvalid, hfree, Except.isOk, Except.toBool], hrow, husers⟩

end UserSerializer

/-! ## The password -/

namespace PasswordChangeSerializer

/-- `validate_old_password`, `validate` and `save`. -/
def save (users : Table User) (now : Time) (k : UserId) (row : User)
    (oldPassword newPassword newPassword2 : String) : Except ShopError (User × Table User) :=
  if !row.checkPassword oldPassword then
    .error (.validationError "현재 비밀번호가 올바르지 않습니다.")
  else if newPassword ≠ newPassword2 then
    .error (.validationError "새 비밀번호가 일치하지 않습니다")
  else User.save users now k (row.setPassword newPassword)

/-- The checks of a password change, with the unique constraint that the save
meets. -/
def accepted (users : Table User) (k : UserId) (row : User)
    (oldPassword newPassword newPassword2 : String) : Bool :=
  row.checkPassword oldPassword && decide (newPassword = newPassword2) &&
    !User.emailTaken users k row.email

theorem save_ok {users users' : Table User} {now : Time} {k : UserId} {row row' : User}
    {oldPassword newPassword newPassword2 : String}
    (h : save users now k row oldPassword newPassword newPassword2 = .ok (row', users')) :
    accepted users k row oldPassword newPassword newPassword2 = true ∧
      row' = (row.setPassword newPassword).stamped now ∧ users' = users.put k row' := by
  unfold save at h
  split_ifs at h with hold hnew
  obtain ⟨hrow, husers, hfree⟩ := User.save_ok h
  refine ⟨?_, hrow, husers⟩
  have hfree' : User.emailTaken users k row.email = false := hfree
  simp only [Bool.not_eq_true, Bool.not_eq_false'] at hold
  simp [accepted, hold, not_not.mp hnew, hfree']

end PasswordChangeSerializer

/-! ## Withdrawal -/

namespace UserService

/-- `withdraw_user`. -/
def withdrawUser (users : Table User) (now : Time) (k : UserId) (row : User) :
    User × Table User :=
  User.saveFields users now k
    { row with isWithdrawn := true, withdrawnAt := some now, isActive := false }
    fun saved r =>
      { r with
        isWithdrawn := saved.isWithdrawn
        withdrawnAt := saved.withdrawnAt
        isActive := saved.isActive }

end UserService

end Shopping
