import Shopping.Lib.Json
import Shopping.Models.Toss
import Shopping.Users.Outcomes

/-!
# `normalize_user_info` and the identity behind a social login

Each payload of a provider has one address that it logs in with: the email that
the provider gave, or `provider_id@social.local`.  Two payloads share an account
exactly when their addresses meet: they are the same, or the second one is what
`normalize_email` made of the first one at the sign-up (`shares_iff`).  `Clash`
lists the ways in which they do.

`repr` is what `str` prints of a list or a dict.
-/

namespace Shopping

/-- `bool(value)` of a parsed JSON value; a number is as Python prints it. -/
def Json.truthy : Json → Bool
  | .null => false
  | .bool b => b
  | .number n => decide (n ∉ ["0", "0.0", "-0.0"])
  | .string s => decide (s ≠ "")
  | .array items => !items.isEmpty
  | .object fields => !fields.isEmpty

/-- `str(value)` of a parsed JSON value. -/
def Json.pyStr (repr : Json → String) : Json → String
  | .null => "None"
  | .bool true => "True"
  | .bool false => "False"
  | .number n => n
  | .string s => s
  | v => repr v

/-- `profile` of Kakao. -/
structure KakaoProfile where
  nickname : Field String := .absent

/-- `kakao_account`. -/
structure KakaoAccount where
  email : Field Json := .absent
  profile : Field KakaoProfile := .absent

/-- `response` of Naver. -/
structure NaverResponse where
  email : Field Json := .absent
  name : Field String := .absent
  nickname : Field String := .absent
  id : Field Json := .absent

/-- What a provider answers about a user. -/
inductive SocialPayload where
  | google (email : Field Json) (name : Field String) (id : Field Json)
  | kakao (id : Field Json) (account : Field KakaoAccount)
  | naver (response : Field NaverResponse)

/-- What a social login raises. -/
inductive SocialLoginError where
  /-- `None` has no `get`, and a number no `split`. -/
  | attributeError
  | account (error : AccountError)
  deriving DecidableEq, Repr

/-- A text, empty for `None`. -/
def textOf (field : Field String) : String := field.get.getD ""

/-- `data.get(key)`. -/
def valueOf (field : Field Json) : Json := field.get.getD .null

/-- `data.get(key, {})`, which `None` is no object for. -/
def objectOf {α : Type} (default : α) : Field α → Except SocialLoginError α
  | .absent => .ok default
  | .null => .error .attributeError
  | .value a => .ok a

section

variable (repr : Json → String) (normalizeEmail : String → String)

/-- A value that is only tested for truth and printed. -/
def printed (value : Json) : String := if value.truthy then value.pyStr repr else ""

namespace SocialPayload

/-- `provider`. -/
def provider : SocialPayload → String
  | .google .. => "google"
  | .kakao .. => "kakao"
  | .naver .. => "naver"

/-- `normalize_user_info`, without the picture. -/
def normalizeUserInfo : SocialPayload → Except SocialLoginError UserService.SocialUserInfo
  | .google email name id =>
    .ok {
      email := printed repr (valueOf email)
      providerId := printed repr (valueOf id)
      name := textOf name }
  | .kakao id account => do
    let account ← objectOf {} account
    let profile ← objectOf {} account.profile
    .ok {
      email := printed repr (valueOf account.email)
      providerId := (valueOf id).pyStr repr
      name := textOf profile.nickname }
  | .naver response => do
    let response ← objectOf {} response
    .ok {
      email := printed repr (valueOf response.email)
      providerId := printed repr (valueOf response.id)
      name := if textOf response.name ≠ "" then textOf response.name else textOf response.nickname }

/-- The email that the provider gave. -/
def givenEmail : SocialPayload → Field Json
  | .google email _ _ => email
  | .kakao _ (.value account) => account.email
  | .naver (.value response) => response.email
  | _ => .absent

/-- The id that the provider gave. -/
def givenId : SocialPayload → Field Json
  | .google _ _ id => id
  | .kakao id _ => id
  | .naver (.value response) => response.id
  | _ => .absent

/-- The email as it is looked up. -/
def emailText (p : SocialPayload) : String := printed repr (valueOf p.givenEmail)

/-- An email that is no text is looked up as one, but no username can be made
of it. -/
def makesUsername (p : SocialPayload) : Bool :=
  match valueOf p.givenEmail with
  | .string _ => true
  | _ => decide (p.emailText repr = "")

/-- `normalize_user_info` and `process_social_login`. -/
def login (db : AccountDb) (now : Time) (p : SocialPayload) :
    Except SocialLoginError (UserService.SocialLoginResult × AccountDb) := do
  let info ← p.normalizeUserInfo repr
  if p.makesUsername repr = false ∧
      (db.users.any fun _ r => decide (r.email = info.email)) = false then
    .error .attributeError
  else
    (UserService.processSocialLogin normalizeEmail db now p.provider info).mapError .account

/-- The accounts after some logins; a login that raises leaves them alone. -/
def logins (db : AccountDb) (payloads : List (Time × SocialPayload)) : AccountDb :=
  payloads.foldl (fun db p =>
    match login repr normalizeEmail db p.1 p.2 with
    | .ok (_, db) => db
    | .error _ => db) db

/-! ## Identities -/

/-- The same email, given by the provider. -/
def SameEmail (p q : SocialPayload) : Prop :=
  ∃ v : Json, v.truthy = true ∧ p.givenEmail = .value v ∧ q.givenEmail = .value v

/-- The same provider, and the same id that is not null. -/
def SameId (p q : SocialPayload) : Prop :=
  p.provider = q.provider ∧ valueOf p.givenId = valueOf q.givenId ∧ valueOf p.givenId ≠ .null

/-- `p` logs in, and after some other logins `q` logs into the same account. -/
def Shares (p q : SocialPayload) : Prop :=
  ∃ db now r db₁ between now' r' db₂, login repr normalizeEmail db now p = .ok (r, db₁) ∧
    login repr normalizeEmail (logins repr normalizeEmail db₁ between) now' q = .ok (r', db₂) ∧
      r.user = r'.user

/-- A payload with neither an email nor an id never logs in. -/
def RefusedWithoutIdentity (p : SocialPayload) : Prop :=
  (valueOf p.givenEmail).truthy = false → valueOf p.givenId = .null →
    ∀ db now, ∃ e, login repr normalizeEmail db now p = .error e

/-! ## Addresses -/

/-- The objects of the payload are there. -/
def readable : SocialPayload → Bool
  | .google .. => true
  | .kakao _ (.value account) => account.profile.fits
  | .kakao _ account => account.fits
  | .naver response => response.fits

/-- The id as it is printed; Kakao's is printed before it is tested. -/
def providerId : SocialPayload → String
  | .kakao id _ => (valueOf id).pyStr repr
  | p => printed repr (valueOf p.givenId)

/-- `f"{provider}_{provider_id}@social.local"`. -/
def fallback (provider id : String) : String := provider ++ "_" ++ id ++ "@social.local"

/-- The address that the payload logs in with. -/
def address (p : SocialPayload) : String :=
  if p.emailText repr ≠ "" then p.emailText repr else fallback p.provider (p.providerId repr)

/-- The payload has an address. -/
def HasAddress (p : SocialPayload) : Prop :=
  p.readable = true ∧ (p.emailText repr ≠ "" ∨ p.providerId repr ≠ "")

/-- The ways in which the address of `q` meets the one of `p`. -/
inductive Clash (p q : SocialPayload) : Prop where
  /-- Their emails are looked up as the same text. -/
  | emails (hp : p.emailText repr ≠ "") (h : q.emailText repr = p.emailText repr)
  /-- Without emails, their ids are printed as the same text. -/
  | ids (hp : p.emailText repr = "") (hq : q.emailText repr = "")
    (hprovider : q.provider = p.provider) (h : q.providerId repr = p.providerId repr)
  /-- The email of `p` is the fallback address of `q`. -/
  | named (hp : p.emailText repr ≠ "") (hq : q.emailText repr = "")
    (h : p.emailText repr = fallback q.provider (q.providerId repr))
  /-- The address of `q` is the email of `p` as the sign-up writes it. -/
  | written (s : String) (hp : p.givenEmail = .value (.string s)) (hgiven : s ≠ "")
    (hs : normalizeEmail s ≠ s) (h : q.address repr = normalizeEmail s)

/-- Kakao's answer without an email and without an id. -/
def NullKakao (p : SocialPayload) : Prop :=
  p.readable = true ∧ p.provider = "kakao" ∧ (valueOf p.givenEmail).truthy = false ∧
    valueOf p.givenId = .null

/-- Payloads that share an account have the same email or the same id, and one
without either never logs in. -/
def IdentitiesApart (p q : SocialPayload) : Prop :=
  (Shares repr normalizeEmail p q ∨ Shares repr normalizeEmail q p →
    SameEmail p q ∨ SameId p q) ∧
      RefusedWithoutIdentity repr normalizeEmail p ∧ RefusedWithoutIdentity repr normalizeEmail q

end SocialPayload

end

/-! ## Reading a payload -/

section

variable {repr : Json → String} {normalizeEmail : String → String} {p q : SocialPayload}
  {db db' : AccountDb} {now : Time} {r : UserService.SocialLoginResult}

namespace SocialPayload

variable (repr) in
/-- What is read of a payload, or the error of a key whose value is null. -/
theorem normalizeUserInfo_cases :
    (p.readable = true ∧ ∃ info, p.normalizeUserInfo repr = .ok info ∧
      info.email = p.emailText repr ∧ info.providerId = p.providerId repr) ∨
    p.readable = false ∧ p.normalizeUserInfo repr = .error .attributeError := by
  cases p with
  | google email name id => exact Or.inl ⟨rfl, _, rfl, rfl, rfl⟩
  | kakao id account =>
    cases account with
    | absent => exact Or.inl ⟨rfl, _, rfl, rfl, rfl⟩
    | null => exact Or.inr ⟨rfl, rfl⟩
    | value account =>
      obtain ⟨email, profile⟩ := account
      cases profile with
      | absent => exact Or.inl ⟨rfl, _, rfl, rfl, rfl⟩
      | null => exact Or.inr ⟨rfl, rfl⟩
      | value profile => exact Or.inl ⟨rfl, _, rfl, rfl, rfl⟩
  | naver response =>
    cases response with
    | absent => exact Or.inl ⟨rfl, _, rfl, rfl, rfl⟩
    | null => exact Or.inr ⟨rfl, rfl⟩
    | value response => exact Or.inl ⟨rfl, _, rfl, rfl, rfl⟩

variable (repr) in
theorem normalizeUserInfo_readable (h : p.readable = true) :
    ∃ info, p.normalizeUserInfo repr = .ok info ∧ info.email = p.emailText repr ∧
      info.providerId = p.providerId repr := by
  rcases normalizeUserInfo_cases repr with ⟨_, hinfo⟩ | ⟨hnull, _⟩
  · exact hinfo
  · rw [h] at hnull
    cases hnull

theorem address_given (h : p.emailText repr ≠ "") : p.address repr = p.emailText repr := if_pos h

theorem address_fallback (h : p.emailText repr = "") :
    p.address repr = fallback p.provider (p.providerId repr) := if_neg (not_not.mpr h)

/-- The address is the email that `process_social_login` looks up. -/
theorem socialEmail_eq_ok {info : UserService.SocialUserInfo} {email : String}
    (hemail : info.email = p.emailText repr) (hid : info.providerId = p.providerId repr) :
    UserService.socialEmail p.provider info = .ok email ↔
      (p.emailText repr ≠ "" ∨ p.providerId repr ≠ "") ∧ email = p.address repr := by
  unfold UserService.socialEmail address
  rw [hemail, hid]
  by_cases hgiven : p.emailText repr = ""
  · rw [if_neg (not_not.mpr hgiven), if_neg (not_not.mpr hgiven)]
    by_cases hprinted : p.providerId repr = ""
    · rw [if_neg (not_not.mpr hprinted)]
      exact ⟨nofun, fun h => absurd h.1 (by simp only [hgiven, hprinted, ne_eq, not_true, or_self,
        not_false_iff])⟩
    · rw [if_pos hprinted, Except.ok.injEq]
      exact ⟨fun h => ⟨Or.inr hprinted, h.symm⟩, fun h => h.2.symm⟩
  · rw [if_pos hgiven, if_pos hgiven, Except.ok.injEq]
    exact ⟨fun h => ⟨Or.inl hgiven, h.symm⟩, fun h => h.2.symm⟩

end SocialPayload

/-! ## One login -/

/-- A login that signs up found no user. -/
theorem UserService.processSocialLogin_new {provider email : String} {info : SocialUserInfo}
    (h : processSocialLogin normalizeEmail db now provider info = .ok (r, db'))
    (hemail : socialEmail provider info = .ok email) (hnew : r.isNewUser = true) :
    (db.users.any fun _ row => decide (row.email = email)) = false := by
  unfold processSocialLogin at h
  rw [hemail, ok_bind] at h
  cases hfind : db.users.find? fun _ row => decide (row.email = email) with
  | some found =>
    rw [hfind] at h
    dsimp only at h
    split_ifs at h
    cases h
    cases hnew
  | none => exact Table.any_eq_false.mpr (Table.find?_eq_none.mp hfind)

/-- The one user of the shop, who may log in with `email`. -/
structure SoleUser (db : AccountDb) (u : UserId) (email : String) : Prop where
  row : (db.users.get? u).map (fun r => (r.email, r.isActive, r.isEmailVerified))
    = some (email, true, true)
  only : ∀ j row, db.users.get? j = some row → j = u

namespace SoleUser

variable {u : UserId} {email : String}

/-- A write of other columns. -/
theorem saveFields {row : User} {fields : User → User → User} (h : SoleUser db u email)
    (hfields : ∀ saved r, ((fields saved r).email, (fields saved r).isActive,
      (fields saved r).isEmailVerified) = (r.email, r.isActive, r.isEmailVerified)) :
    SoleUser { db with users := (User.saveFields db.users now u row fields).2 } u email := by
  let g := fun r : User => (r.email, r.isActive, r.isEmailVerified)
  have hkept : ∀ j, ((User.saveFields db.users now u row fields).2.get? j).map g
      = (db.users.get? j).map g := User.saveFields_keeps (fun _ _ => rfl) hfields
  refine ⟨(hkept u).trans h.row, fun j row' hj => ?_⟩
  have hold := hkept j
  rw [show (User.saveFields db.users now u row fields).2.get? j = some row' from hj,
    Option.map_some, eq_comm, Option.map_eq_some_iff] at hold
  obtain ⟨old, hget, _⟩ := hold
  exact h.only j old hget

theorem find? (h : SoleUser db u email) :
    ∃ row, row.isActive = true ∧ row.isEmailVerified = true ∧
      db.users.find? (fun _ r => decide (r.email = email)) = some (u, row) := by
  obtain ⟨row, hget, hrow⟩ := Option.map_eq_some_iff.mp h.row
  simp only [Prod.mk.injEq] at hrow
  obtain ⟨hemail, hactive, hverified⟩ := hrow
  refine ⟨row, hactive, hverified, ?_⟩
  exact Table.find?_of_unique hget (decide_eq_true hemail) fun j b hj _ => h.only j b hj

variable (normalizeEmail) in
/-- The login of the one user. -/
theorem processSocialLogin {provider : String} {info : UserService.SocialUserInfo}
    (h : SoleUser db u email) (hemail : UserService.socialEmail provider info = .ok email)
    (now : Time) :
    ∃ db', UserService.processSocialLogin normalizeEmail db now provider info
      = .ok ({ user := u, isNewUser := false }, db') ∧ SoleUser db' u email := by
  obtain ⟨row, hactive, hverified, hfind⟩ := h.find?
  unfold UserService.processSocialLogin
  rw [hemail, ok_bind, hfind]
  dsimp only
  rw [if_neg (by simp [hactive]), if_neg (by simp [hverified])]
  exact ⟨_, rfl, h.saveFields fun _ _ => rfl⟩

end SoleUser

/-- A shop with one user. -/
theorem SoleUser.of_row (row : User) (hactive : row.isActive = true)
    (hverified : row.isEmailVerified = true) :
    SoleUser { users := Table.empty.insert row } (Table.empty : Table User).next row.email := by
  refine ⟨?_, fun j row' hj => ?_⟩
  · rw [Table.get?_insert_next, Option.map_some, hactive, hverified]
  · obtain ⟨hj, _⟩ | hj := Table.insert_cases hj
    · exact hj
    · exact absurd (Table.get?_eq_some.mp hj) List.not_mem_nil

variable (normalizeEmail) in
/-- The first sign-up. -/
theorem UserService.processSocialLogin_first {provider email : String} {info : SocialUserInfo}
    (hemail : socialEmail provider info = .ok email) (now : Time) :
    ∃ r db', processSocialLogin normalizeEmail {} now provider info = .ok (r, db') ∧
      SoleUser db' r.user (normalizeEmail email) := by
  unfold processSocialLogin
  rw [hemail, ok_bind]
  by_cases hname : info.name = ""
  · refine ⟨_, _, if_pos hname, SoleUser.of_row _ rfl rfl⟩
  · refine ⟨_, _, if_neg hname, (SoleUser.of_row _ rfl rfl).saveFields fun _ _ => rfl⟩

namespace SocialPayload

theorem emailText_of_not_makesUsername (h : p.makesUsername repr = false) :
    p.emailText repr ≠ "" := by
  unfold makesUsername at h
  split at h
  · cases h
  · exact of_decide_eq_false h

/-- The two ways a payload logs in. -/
theorem login_ok (h : login repr normalizeEmail db now p = .ok (r, db')) :
    p.HasAddress repr ∧ (UserService.LogsIn db (p.address repr) r.user db' ∨
      p.makesUsername repr = true ∧
        UserService.SignsUp db (normalizeEmail (p.address repr)) r.user db') := by
  rcases normalizeUserInfo_cases repr with ⟨hreadable, info, hinfo, hemail, hid⟩ | ⟨_, hnull⟩
  · unfold login at h
    rw [hinfo, ok_bind] at h
    split_ifs at h with hrefused
    have hlogin := mapError_eq_ok.mp h
    obtain ⟨email, hsocial, hway⟩ := UserService.processSocialLogin_ok hlogin
    obtain ⟨hgiven, haddress⟩ := (socialEmail_eq_ok hemail hid).mp hsocial
    subst haddress
    refine ⟨⟨hreadable, hgiven⟩, ?_⟩
    rcases hway with ⟨_, hin⟩ | ⟨hnew, hup⟩
    · exact Or.inl hin
    · refine Or.inr ⟨?_, hup⟩
      by_contra hname
      rw [Bool.not_eq_true] at hname
      have hnone := UserService.processSocialLogin_new hlogin hsocial hnew
      rw [address_given (emailText_of_not_makesUsername hname), ← hemail] at hnone
      exact hrefused ⟨hname, hnone⟩
  · unfold login at h
    rw [hnull] at h
    cases h

/-- A login leaves every user the email and the flag. -/
theorem login_flagOf {u : UserId} {flag : String × Bool}
    (h : login repr normalizeEmail db now p = .ok (r, db')) (hu : flagOf db.users u = some flag) :
    flagOf db'.users u = some flag := by
  obtain ⟨_, hin | ⟨_, hup⟩⟩ := login_ok h
  · rw [hin.flags, hu]
  · obtain ⟨row, hget, _⟩ := Option.map_eq_some_iff.mp hu
    rw [hup.flags, if_neg (Nat.ne_of_lt (Table.lt_next hget)), hu]

variable (repr normalizeEmail) in
theorem logins_flagOf {u : UserId} {flag : String × Bool} (between : List (Time × SocialPayload))
    (hu : flagOf db.users u = some flag) :
    flagOf (logins repr normalizeEmail db between).users u = some flag := by
  induction between generalizing db with
  | nil => exact hu
  | cons first rest ih =>
    unfold logins
    rw [List.foldl_cons]
    refine ih ?_
    cases hlogin : login repr normalizeEmail db first.1 first.2 with
    | error e => exact hu
    | ok result => exact login_flagOf hlogin hu

/-- The user of a login has its address, or what the sign-up made of it. -/
theorem login_email (h : login repr normalizeEmail db now p = .ok (r, db')) :
    ∃ email verified, flagOf db'.users r.user = some (email, verified) ∧
      (email = p.address repr ∨
        p.makesUsername repr = true ∧ email = normalizeEmail (p.address repr)) := by
  obtain ⟨_, hin | ⟨hname, hup⟩⟩ := login_ok h
  · obtain ⟨verified, hfound, _⟩ := hin.found
    exact ⟨_, verified, (hin.flags _).trans hfound, Or.inl rfl⟩
  · refine ⟨_, true, ?_, Or.inr ⟨hname, rfl⟩⟩
    rw [hup.flags, if_pos hup.user]

/-- A login into an account that was there had its email. -/
theorem login_found {email : String} {verified : Bool}
    (h : login repr normalizeEmail db now p = .ok (r, db'))
    (hu : flagOf db.users r.user = some (email, verified)) : email = p.address repr := by
  obtain ⟨_, hin | ⟨_, hup⟩⟩ := login_ok h
  · obtain ⟨_, hfound, _⟩ := hin.found
    rw [hu] at hfound
    exact (Prod.mk.inj (Option.some.inj hfound)).1
  · obtain ⟨row, hget, _⟩ := Option.map_eq_some_iff.mp hu
    exact absurd hup.user (Nat.ne_of_lt (Table.lt_next hget))

variable (normalizeEmail) in
/-- The one user logs in with the address. -/
theorem login_soleUser {u : UserId} (hp : p.HasAddress repr)
    (h : SoleUser db u (p.address repr)) (now : Time) :
    ∃ db', login repr normalizeEmail db now p = .ok ({ user := u, isNewUser := false }, db') ∧
      SoleUser db' u (p.address repr) := by
  obtain ⟨info, hinfo, hemail, hid⟩ := normalizeUserInfo_readable repr hp.1
  obtain ⟨db', hlogin, hsole⟩ := h.processSocialLogin normalizeEmail
    ((socialEmail_eq_ok hemail hid).mpr ⟨hp.2, rfl⟩) now
  refine ⟨db', ?_, hsole⟩
  unfold login
  rw [hinfo, ok_bind, if_neg, hlogin]
  · rfl
  · rintro ⟨hname, hnone⟩
    obtain ⟨row, _, _, hfind⟩ := h.find?
    rw [address_given (emailText_of_not_makesUsername hname), ← hemail] at hfind
    obtain ⟨hget, hmatch⟩ := Table.find?_eq_some_get hfind
    exact absurd hmatch (by rw [Table.any_eq_false.mp hnone u row hget]; exact Bool.false_ne_true)

variable (normalizeEmail) in
/-- A payload with a name for its user signs up in an empty shop. -/
theorem login_first (hp : p.HasAddress repr) (hname : p.makesUsername repr = true) (now : Time) :
    ∃ r db', login repr normalizeEmail {} now p = .ok (r, db') ∧
      SoleUser db' r.user (normalizeEmail (p.address repr)) := by
  obtain ⟨info, hinfo, hemail, hid⟩ := normalizeUserInfo_readable repr hp.1
  obtain ⟨r, db', hlogin, hsole⟩ := UserService.processSocialLogin_first
    normalizeEmail ((socialEmail_eq_ok hemail hid).mpr ⟨hp.2, rfl⟩) now
  refine ⟨r, db', ?_, hsole⟩
  unfold login
  rw [hinfo, ok_bind, if_neg (by rw [hname]; exact fun h => absurd h.1 (by decide)), hlogin]
  rfl

/-! ## Two logins -/

/-- Two payloads share an account exactly when the address of the second is
the one of the first, or what the sign-up of the first wrote. -/
theorem shares_iff : Shares repr normalizeEmail p q ↔
    p.HasAddress repr ∧ q.HasAddress repr ∧ (q.address repr = p.address repr ∨
      p.makesUsername repr = true ∧ q.address repr = normalizeEmail (p.address repr)) := by
  constructor
  · rintro ⟨db, now, r, db₁, between, now', r', db₂, hp, hq, hsame⟩
    obtain ⟨email, verified, hflag, hemail⟩ := login_email hp
    have hlater := logins_flagOf repr normalizeEmail between hflag
    have haddress := login_found hq (hsame ▸ hlater)
    exact ⟨(login_ok hp).1, (login_ok hq).1, haddress ▸ hemail⟩
  · rintro ⟨hp, hq, hsame | ⟨hname, hsame⟩⟩
    · -- A user with the address is there.
      have hsole := SoleUser.of_row
        { username := "", email := p.address repr, isEmailVerified := true } rfl rfl
      obtain ⟨db₁, hfirst, hkept⟩ := login_soleUser normalizeEmail hp hsole 0
      obtain ⟨db₂, hsecond, _⟩ := login_soleUser normalizeEmail hq
        (hsame.symm ▸ hkept) 0
      exact ⟨_, 0, _, db₁, [], 0, _, db₂, hfirst, hsecond, rfl⟩
    · obtain ⟨r, db₁, hfirst, hsole⟩ := login_first normalizeEmail hp hname 0
      obtain ⟨db₂, hsecond, _⟩ := login_soleUser normalizeEmail hq
        (hsame ▸ hsole) 0
      exact ⟨{}, 0, r, db₁, [], 0, _, db₂, hfirst, hsecond, rfl⟩

theorem fallback_inj {id id' : String} (h : fallback p.provider id = fallback q.provider id') :
    p.provider = q.provider ∧ id = id' := by
  have hprefix := (String.append_left_inj _).mp h
  -- The names of the providers begin with different letters.
  have hfirst := congrArg (fun s => s.toList.head?) hprefix
  have hprovider : p.provider = q.provider := by
    cases p <;> cases q <;> first | rfl | simp [provider] at hfirst
  rw [hprovider] at hprefix
  exact ⟨hprovider, (String.append_right_inj _).mp hprefix⟩

variable (repr) in
theorem emailText_string {s : String} (h : p.givenEmail = .value (.string s)) :
    p.emailText repr = s := by
  unfold emailText printed valueOf
  rw [h]
  by_cases hs : s = ""
  · rw [hs]
    rfl
  · exact if_pos (decide_eq_true hs)

/-- An email that a username is made of is a text. -/
theorem makesUsername_string (h : p.makesUsername repr = true) (hgiven : p.emailText repr ≠ "") :
    p.givenEmail = .value (.string (p.emailText repr)) := by
  unfold makesUsername at h
  split at h
  · rename_i s hvalue
    have hemail : p.givenEmail = .value (.string s) := by
      unfold valueOf at hvalue
      cases hfield : p.givenEmail with
      | absent => rw [hfield] at hvalue; cases hvalue
      | null => rw [hfield] at hvalue; cases hvalue
      | value v =>
        rw [hfield] at hvalue
        exact congrArg Field.value hvalue
    rw [emailText_string repr hemail]
    exact hemail
  · exact absurd (of_decide_eq_true h) hgiven

theorem Clash.shares (hp : p.HasAddress repr) (hq : q.HasAddress repr)
    (h : Clash repr normalizeEmail p q) : Shares repr normalizeEmail p q := by
  refine shares_iff.mpr ⟨hp, hq, ?_⟩
  cases h with
  | emails hp h =>
    refine Or.inl ?_
    rw [address_given hp, address_given (h ▸ hp), h]
  | ids hp hq hprovider h =>
    refine Or.inl ?_
    rw [address_fallback hp, address_fallback hq, hprovider, h]
  | named hp hq h =>
    refine Or.inl ?_
    rw [address_given hp, address_fallback hq, h]
  | written s hp hgiven hs h =>
    have htext := emailText_string repr hp
    refine Or.inr ⟨?_, ?_⟩
    · rw [makesUsername, valueOf, hp]
      rfl
    · rw [h, address_given (htext ▸ hgiven), htext]

/-- Equal addresses are a clash, one way round. -/
theorem clash_of_address (h : q.address repr = p.address repr) :
    Clash repr normalizeEmail p q ∨ Clash repr normalizeEmail q p := by
  by_cases hp : p.emailText repr = ""
  · rw [address_fallback hp] at h
    by_cases hq : q.emailText repr = ""
    · rw [address_fallback hq] at h
      obtain ⟨hprovider, hid⟩ := fallback_inj h
      exact Or.inl (.ids hp hq hprovider hid)
    · rw [address_given hq] at h
      exact Or.inr (.named hq hp h)
  · rw [address_given hp] at h
    by_cases hq : q.emailText repr = ""
    · rw [address_fallback hq] at h
      exact Or.inl (.named hp hq h.symm)
    · rw [address_given hq] at h
      exact Or.inl (.emails hp h)

theorem Shares.clash (hfallback : ∀ (p : SocialPayload) (id : String),
      normalizeEmail (fallback p.provider id) = fallback p.provider id)
    (h : Shares repr normalizeEmail p q) :
    Clash repr normalizeEmail p q ∨ Clash repr normalizeEmail q p := by
  obtain ⟨_, _, hsame | ⟨hname, hsame⟩⟩ := shares_iff.mp h
  · exact clash_of_address hsame
  · by_cases hgiven : p.emailText repr = ""
    · -- The sign-up writes a fallback address as it is.
      refine clash_of_address (hsame.trans ?_)
      rw [address_fallback hgiven, hfallback]
    · have haddress := address_given hgiven
      by_cases hwritten : normalizeEmail (p.emailText repr) = p.emailText repr
      · exact clash_of_address (by rw [hsame, haddress, hwritten])
      · exact Or.inl (.written _ (makesUsername_string hname hgiven) hgiven hwritten
          (by rw [hsame, haddress]))

/-- Only Kakao's answer without an email and an id is let in. -/
theorem refusedWithoutIdentity_iff :
    RefusedWithoutIdentity repr normalizeEmail p ↔ ¬ p.NullKakao := by
  constructor
  · rintro h ⟨hreadable, hkakao, hemail, hid⟩
    have hp : p.HasAddress repr := by
      refine ⟨hreadable, Or.inr ?_⟩
      cases p with
      | google email name id => exact absurd hkakao (by simp [provider])
      | kakao id account =>
        rw [providerId, show valueOf id = .null from hid]
        simp [Json.pyStr]
      | naver response => exact absurd hkakao (by simp [provider])
    obtain ⟨db', hlogin, _⟩ := login_soleUser normalizeEmail hp
      (SoleUser.of_row { username := "", email := p.address repr, isEmailVerified := true }
        rfl rfl) 0
    obtain ⟨e, hrefused⟩ := h hemail hid _ 0
    rw [hlogin] at hrefused
    cases hrefused
  · intro hkakao hemail hid db now
    cases hlogin : login repr normalizeEmail db now p with
    | error e => exact ⟨e, rfl⟩
    | ok result =>
      obtain ⟨r, db'⟩ := result
      obtain ⟨hreadable, hgiven⟩ := (login_ok hlogin).1
      have hnone : p.emailText repr = "" := if_neg (by rw [hemail]; exact Bool.false_ne_true)
      have hprinted : p.providerId repr ≠ "" := hgiven.resolve_left (not_not.mpr hnone)
      cases p with
      | google email name id =>
        refine absurd ?_ hprinted
        rw [providerId, hid]
        · rfl
        · exact nofun
      | kakao id account => exact absurd ⟨hreadable, rfl, hemail, hid⟩ hkakao
      | naver response =>
        refine absurd ?_ hprinted
        rw [providerId, hid]
        · rfl
        · exact nofun

/-- Social identities are kept apart exactly where the addresses of different
ones do not clash and Kakao gives an email or an id. -/
theorem identitiesApart_iff (hfallback : ∀ (p : SocialPayload) (id : String),
      normalizeEmail (fallback p.provider id) = fallback p.provider id) (p q : SocialPayload) :
    IdentitiesApart repr normalizeEmail p q ↔
      (p.HasAddress repr → q.HasAddress repr →
        Clash repr normalizeEmail p q ∨ Clash repr normalizeEmail q p →
          SameEmail p q ∨ SameId p q) ∧ ¬ p.NullKakao ∧ ¬ q.NullKakao := by
  unfold IdentitiesApart
  rw [refusedWithoutIdentity_iff, refusedWithoutIdentity_iff]
  refine and_congr_left fun _ => ⟨fun h hp hq hclash => h ?_, fun h hshares => ?_⟩
  · exact hclash.imp (Clash.shares hp hq) (Clash.shares hq hp)
  · rcases hshares with hshares | hshares
    · obtain ⟨hp, hq, _⟩ := shares_iff.mp hshares
      exact h hp hq (hshares.clash hfallback)
    · obtain ⟨hq, hp, _⟩ := shares_iff.mp hshares
      exact h hp hq (hshares.clash hfallback).symm

/-- Two people whose emails and ids the shop was given. -/
theorem identitiesApart_google : IdentitiesApart (fun _ => "[]") id
    (.google (.value (.string "kim@gmail.com")) .absent (.value (.string "1")))
    (.google (.value (.string "lee@gmail.com")) .absent (.value (.string "2"))) := by
  refine (identitiesApart_iff (fun _ _ => rfl) _ _).mpr ⟨fun _ _ hclash => ?_, ?_, ?_⟩
  · rcases hclash with hclash | hclash
    · cases hclash with
      | emails _ h => exact absurd h (by decide)
      | ids h => exact absurd h (by decide)
      | named _ h => exact absurd h (by decide)
      | written _ _ _ h => exact absurd rfl h
    · cases hclash with
      | emails _ h => exact absurd h (by decide)
      | ids h => exact absurd h (by decide)
      | named _ h => exact absurd h (by decide)
      | written _ _ _ h => exact absurd rfl h
  · rintro ⟨_, hkakao, _⟩
    exact absurd hkakao (by decide)
  · rintro ⟨_, hkakao, _⟩
    exact absurd hkakao (by decide)

/-- Two people at Kakao whose email and id were not given share
`kakao_None@social.local`. -/
theorem not_identitiesApart_kakao : ¬ IdentitiesApart (fun _ => "[]") id
    (.kakao .absent (.value { profile := .value { nickname := .value "kim" } }))
    (.kakao .absent (.value { profile := .value { nickname := .value "lee" } })) := by
  rintro ⟨happart, _⟩
  have hshares : Shares (fun _ => "[]") id
      (.kakao .absent (.value { profile := .value { nickname := .value "kim" } }))
      (.kakao .absent (.value { profile := .value { nickname := .value "lee" } })) :=
    shares_iff.mpr ⟨⟨rfl, Or.inr (by decide)⟩, ⟨rfl, Or.inr (by decide)⟩, Or.inl rfl⟩
  rcases happart (Or.inl hshares) with ⟨v, _, hemail, _⟩ | ⟨_, _, hid⟩
  · cases hemail
  · exact hid rfl

end SocialPayload

end

end Shopping
