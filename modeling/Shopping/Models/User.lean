import Shopping.Models.Payment

/-!
# Users

`User` of `shopping/models/user.py`, without the points, which the ledger
keeps for every user.  The two ways Django writes a row are `save`, which
writes every column of the object, and `saveFields`, the form with
`update_fields`, which leaves the other columns of the row alone.
-/

namespace Shopping

/-- The `password` column: a hash, or the mark of an account without one. -/
inductive Password where
  | unusable
  | hashed (raw : String)
  deriving DecidableEq, Repr

/-- A row of `shopping_users`. -/
structure User where
  username : String
  email : String
  password : Password := .unusable
  firstName : String := ""
  lastName : String := ""
  phoneNumber : String := ""
  birthDate : Option Nat := none
  postalCode : String := ""
  address : String := ""
  addressDetail : String := ""
  isEmailVerified : Bool := false
  agreeMarketingEmail : Bool := false
  agreeMarketingSms : Bool := false
  isActive : Bool := true
  isWithdrawn : Bool := false
  withdrawnAt : Option Time := none
  lastLogin : Option Time := none
  deriving DecidableEq, Repr

namespace User

/-- `check_password`. -/
def checkPassword (row : User) (raw : String) : Bool := decide (row.password = .hashed raw)

/-- `set_password`. -/
def setPassword (row : User) (raw : String) : User := { row with password := .hashed raw }

/-- The columns of a withdrawal. -/
def standing (row : User) : Bool × Bool := (row.isActive, row.isWithdrawn)

/-- What `User.save` does to the object before it writes: `withdrawn_at` is
set with `is_withdrawn` and cleared without it. -/
def stamped (row : User) (now : Time) : User :=
  if row.isWithdrawn && row.withdrawnAt.isNone then { row with withdrawnAt := some now }
  else if !row.isWithdrawn && row.withdrawnAt.isSome then { row with withdrawnAt := none }
  else row

/-- The unique constraint on `email`, for a write of the row `k`. -/
def emailTaken (users : Table User) (k : UserId) (email : String) : Bool :=
  users.any fun j r => decide (j ≠ k) && decide (r.email = email)

/-- `user.save()`: every column of the object goes to the row. -/
def save (users : Table User) (now : Time) (k : UserId) (row : User) :
    Except ShopError (User × Table User) :=
  let row := row.stamped now
  if emailTaken users k row.email then .error (.db .integrityError)
  else .ok (row, users.put k row)

/-- `user.save(update_fields=...)`: `fields` copies the named columns of the
object, and `withdrawn_at` goes with them when `User.save` touched it. -/
def saveFields (users : Table User) (now : Time) (k : UserId) (row : User)
    (fields : User → User → User) : User × Table User :=
  let saved := row.stamped now
  let write := fun r =>
    if saved.withdrawnAt = row.withdrawnAt then fields saved r
    else { fields saved r with withdrawnAt := saved.withdrawnAt }
  (saved, users.modify k write)

@[simp] theorem stamped_standing (row : User) (now : Time) :
    (row.stamped now).standing = row.standing := by
  unfold stamped
  split_ifs <;> rfl

@[simp] theorem stamped_email (row : User) (now : Time) :
    (row.stamped now).email = row.email := by
  unfold stamped
  split_ifs <;> rfl

@[simp] theorem stamped_isEmailVerified (row : User) (now : Time) :
    (row.stamped now).isEmailVerified = row.isEmailVerified := by
  unfold stamped
  split_ifs <;> rfl

/-- What a write of named columns leaves of anything but `withdrawn_at`. -/
theorem saveFields_get? {β : Type} (users : Table User) (now : Time) (k : UserId) (row : User)
    (fields : User → User → User) {g : User → β}
    (hg : ∀ r withdrawn, g { r with withdrawnAt := withdrawn } = g r) (u : UserId) :
    ((saveFields users now k row fields).2.get? u).map g
      = if u = k then (users.get? u).map fun r => g (fields (row.stamped now) r)
        else (users.get? u).map g := by
  unfold saveFields
  dsimp only
  rw [Table.get?_modify]
  by_cases hu : u = k
  · rw [if_pos hu, if_pos hu, Option.map_map]
    refine congrArg (Option.map · _) (funext fun r => ?_)
    rw [Function.comp_apply]
    split_ifs
    · rfl
    · exact hg _ _
  · rw [if_neg hu, if_neg hu]

/-- A write of named columns leaves the others alone. -/
theorem saveFields_keeps {β : Type} {users : Table User} {now : Time} {k : UserId} {row : User}
    {fields : User → User → User} {g : User → β}
    (hg : ∀ r withdrawn, g { r with withdrawnAt := withdrawn } = g r)
    (hfields : ∀ saved r, g (fields saved r) = g r) (u : UserId) :
    ((saveFields users now k row fields).2.get? u).map g = (users.get? u).map g := by
  rw [saveFields_get? users now k row fields hg u]
  split_ifs
  · simp only [hfields]
  · rfl

/-- What a write of the whole row leaves. -/
theorem save_ok {users users' : Table User} {now : Time} {k : UserId} {row row' : User}
    (h : save users now k row = .ok (row', users')) :
    row' = row.stamped now ∧ users' = users.put k row' ∧
      emailTaken users k row.email = false := by
  unfold save at h
  dsimp only at h
  split_ifs at h with htaken
  cases h
  refine ⟨rfl, rfl, ?_⟩
  rw [stamped_email, Bool.not_eq_true] at htaken
  exact htaken

end User

end Shopping
