import Shopping.Points.Ledger

/-!
# `TokenService`

The refresh tokens of `shopping/services/token_service.py`, with
`ROTATE_REFRESH_TOKENS` and `BLACKLIST_AFTER_ROTATION` on as in the settings.

A token is signed when it is registered: a login registers the token that it
answers, a rotation registers the new token before it answers it.  So the
table of `OutstandingToken` holds every token that passes the signature check,
and its key is the `jti`.  The signature check, the expiry check and
`blacklist()` belong to the token library.  `blacklist()` makes the row under
its unique constraint and says whether it made it.
-/

namespace Shopping

/-- A refresh token.  `chain` are the tokens that it was rotated from, the last
one first; the code does not read it. -/
structure RefreshToken where
  user : UserId
  exp : Time
  chain : List Nat := []
  deriving DecidableEq, Repr

/-- The tables that the tokens live in, and whose accounts may log in. -/
structure TokenDb where
  outstanding : Table RefreshToken := Table.empty
  blacklisted : List Nat := []
  active : UserId → Bool := fun _ => true

/-- `TokenServiceError`, by its code. -/
inductive TokenServiceError where
  | tokenRequired
  | invalidFormat
  | tokenBlacklisted
  | tokenInvalid
  | userInactive
  deriving DecidableEq, Repr

namespace TokenServiceError

/-- `code`. -/
def code : TokenServiceError → String
  | tokenRequired => "TOKEN_REQUIRED"
  | invalidFormat => "INVALID_FORMAT"
  | tokenBlacklisted => "TOKEN_BLACKLISTED"
  | tokenInvalid => "TOKEN_INVALID"
  | userInactive => "USER_INACTIVE"

end TokenServiceError

/-- The text that a request presents as its token. -/
inductive TokenArg where
  | missing
  | malformed
  | jwt (jti : Nat)
  deriving DecidableEq, Repr

namespace TokenService

/-! ## `validate_and_refresh_token` -/

/-- The steps 1 and 2: the format, and the first look at the blacklist. -/
def checkFormat (db : TokenDb) : TokenArg → Except TokenServiceError Nat
  | .missing => .error .tokenRequired
  | .malformed => .error .invalidFormat
  | .jwt jti => if jti ∈ db.blacklisted then .error .tokenBlacklisted else .ok jti

/-- `RefreshToken(refresh_token)`: the signature, the expiry date, and the
library's own look at the blacklist. -/
def verify (db : TokenDb) (now : Time) (jti : Nat) : Except TokenServiceError RefreshToken :=
  match db.outstanding.get? jti with
  | none => .error .tokenInvalid
  | some token =>
    if token.exp ≤ now ∨ jti ∈ db.blacklisted then .error .tokenInvalid else .ok token

/-- `_ensure_user_active`. -/
def ensureUserActive (db : TokenDb) (token : RefreshToken) : Except TokenServiceError Unit :=
  if db.active token.user then .ok () else .error .userInactive

/-- `token.blacklist()`: whether this call made the row. -/
def blacklist (db : TokenDb) (jti : Nat) : Bool × TokenDb :=
  if jti ∈ db.blacklisted then (false, db)
  else (true, { db with blacklisted := jti :: db.blacklisted })

/-- `token.outstand()` on the token with its new `jti` and expiry date. -/
def outstand (db : TokenDb) (jti : Nat) (token : RefreshToken) (exp : Time) : Nat × TokenDb :=
  let rotated : RefreshToken := { user := token.user, exp := exp, chain := jti :: token.chain }
  (db.outstanding.next, { db with outstanding := db.outstanding.insert rotated })

/-! ## `revoke_all_for_user` -/

/-- `keep_jti`. -/
def keepJti (db : TokenDb) (now : Time) (keep : Option Nat) : Option Nat :=
  keep.filter fun jti => (verify db now jti).toOption.isSome

/-- `pending`: what the sweep reads. -/
def pending (db : TokenDb) (now : Time) (user : UserId) (keep : Option Nat) : List Nat :=
  (db.outstanding.select fun jti token => decide (token.user = user) && decide (now < token.exp) &&
    !decide (jti ∈ db.blacklisted) && !decide (keep = some jti)).map Prod.fst

/-- `bulk_create(rows, ignore_conflicts=True)`. -/
def bulkCreate (db : TokenDb) (rows : List Nat) : TokenDb :=
  { db with blacklisted := rows ++ db.blacklisted }

/-! ## The other entry points -/

/-- `RefreshToken.for_user`, at a login. -/
def forUser (db : TokenDb) (user : UserId) (exp : Time) : TokenDb :=
  { db with outstanding := db.outstanding.insert { user := user, exp := exp } }

/-- `blacklist_token`, at a logout. -/
def blacklistToken (db : TokenDb) (now : Time) : TokenArg → Except TokenServiceError TokenDb
  | .missing => .error .tokenRequired
  | .malformed => .error .tokenInvalid
  | .jwt jti => (verify db now jti).map fun _ => (blacklist db jti).2

/-! ## What the steps do -/

variable {db : TokenDb} {now : Time} {jti : Nat}

theorem verify_ok {token : RefreshToken} (h : verify db now jti = .ok token) :
    db.outstanding.get? jti = some token ∧ now < token.exp ∧ jti ∉ db.blacklisted := by
  unfold verify at h
  cases hget : db.outstanding.get? jti with
  | none =>
    rw [hget] at h
    cases h
  | some row =>
    rw [hget] at h
    dsimp only at h
    split at h
    · cases h
    · rename_i hno
      cases h
      rw [not_or, not_le] at hno
      exact ⟨rfl, hno⟩

theorem mem_pending {user : UserId} {keep : Option Nat} :
    jti ∈ pending db now user keep ↔ ∃ token, db.outstanding.get? jti = some token ∧
      token.user = user ∧ now < token.exp ∧ jti ∉ db.blacklisted ∧ keep ≠ some jti := by
  unfold pending
  rw [List.mem_map]
  constructor
  · rintro ⟨p, hp, rfl⟩
    obtain ⟨hget, hcond⟩ := Table.mem_select.mp hp
    simp only [Bool.and_eq_true, Bool.not_eq_true', decide_eq_true_eq, decide_eq_false_iff_not]
      at hcond
    exact ⟨p.2, hget, hcond.1.1.1, hcond.1.1.2, hcond.1.2, hcond.2⟩
  · rintro ⟨token, hget, hu, hexp, hblack, hkeep⟩
    refine ⟨(jti, token), Table.mem_select.mpr ⟨hget, ?_⟩, rfl⟩
    simp only [Bool.and_eq_true, Bool.not_eq_true', decide_eq_true_eq, decide_eq_false_iff_not]
    exact ⟨⟨⟨hu, hexp⟩, hblack⟩, hkeep⟩

theorem blacklist_fst : (blacklist db jti).1 = true ↔ jti ∉ db.blacklisted := by
  unfold blacklist
  split
  · rename_i h
    simp [h]
  · rename_i h
    simp [h]

@[simp] theorem blacklist_outstanding : (blacklist db jti).2.outstanding = db.outstanding := by
  unfold blacklist
  split
  · rfl
  · rfl

theorem mem_blacklist {j : Nat} :
    j ∈ (blacklist db jti).2.blacklisted ↔ j = jti ∨ j ∈ db.blacklisted := by
  unfold blacklist
  split
  · rename_i h
    constructor
    · exact Or.inr
    · rintro (rfl | hj)
      · exact h
      · exact hj
  · exact List.mem_cons

end TokenService

end Shopping
