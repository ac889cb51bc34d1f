import Shopping.Points.Runs
import Shopping.Users.Account

/-!
# Account writes beside the ledger

`UserSerializer.update` and `PasswordChangeSerializer.save` write every column
of a user that was read when the request came in.  Between the two the point
operations and a withdrawal may write the same row, and the old points and the
old standing then come back.

A run is a list of requests, point operations and withdrawals in any order.
`account_writes_lose_nothing` is the run in which every whole-row write meets
the points and the standing it was read with: it ends as its point operations
and withdrawals alone would have.
-/

namespace Shopping

/-- A user that came with a request: the copy of the row, with the points it
had.  `resetDue` marks the second write of a profile update. -/
structure AccountRequest where
  user : UserId
  row : User
  points : Int
  resetDue : Bool := false

/-- The user table, the ledger and the requests in progress. -/
structure Accounts where
  now : Time
  users : Table User
  ledger : Ledger
  requests : List AccountRequest := []

/-- What can happen to an account. -/
inductive AccountEvent where
  | tick (seconds : Nat)
  | points (op : PointOp)
  /-- A request is authenticated, which reads its user. -/
  | load (user : UserId)
  /-- `UserSerializer.update` of the n-th request, up to its first save. -/
  | updateProfile (n : Nat) (data : UserSerializer.ProfileData)
  /-- The second save of `UserSerializer.update`. -/
  | resetVerified (n : Nat)
  | changePassword (n : Nat) (oldPassword newPassword newPassword2 : String)
  | withdraw (n : Nat)

/-- The events of a profile update or a password change. -/
def AccountEvent.isSave : AccountEvent → Bool
  | .updateProfile _ _ | .resetVerified _ | .changePassword _ _ _ _ => true
  | _ => false

namespace Accounts

/-- No points yet, and no request. -/
def start (users : Table User) (now : Time) : Accounts := ⟨now, users, Ledger.empty, []⟩

/-- The copy of the n-th request after a write with `update_fields`. -/
def saved (w : Accounts) (n : Nat) (q : AccountRequest) (out : User × Table User) : Accounts :=
  { w with users := out.2, requests := w.requests.set n { q with row := out.1 } }

/-- A write of the whole row puts back the points of the copy as well; one
that raises leaves everything as it was. -/
def savedWhole (w : Accounts) (n : Nat) (q : AccountRequest)
    (x : Except ShopError (User × Table User)) : Accounts :=
  match x with
  | .ok out => { w.saved n q out with ledger := w.ledger.setPoints q.user q.points }
  | .error _ => w

/-- One event. -/
def step (owner : OrderId → UserId) (w : Accounts) : AccountEvent → Option Accounts
  | .tick seconds => some { w with now := w.now + seconds }
  | .points op =>
    if op.allowed owner = true then some { w with ledger := op.apply owner w.now w.ledger }
    else none
  | .load user => do
    let row ← w.users.get? user
    some { w with requests := w.requests ++ [⟨user, row, w.ledger.points user, false⟩] }
  | .updateProfile n data => do
    let q ← w.requests[n]?
    some (w.savedWhole n { q with resetDue := UserSerializer.emailChanged q.row data }
      (UserSerializer.update w.users w.now q.user q.row data))
  | .resetVerified n => do
    let q ← w.requests[n]?
    if q.resetDue then
      some (w.saved n { q with resetDue := false }
        (UserSerializer.resetVerified w.users w.now q.user q.row))
    else none
  | .changePassword n oldPassword newPassword newPassword2 => do
    let q ← w.requests[n]?
    some (w.savedWhole n q (PasswordChangeSerializer.save w.users w.now q.user q.row
      oldPassword newPassword newPassword2))
  | .withdraw n => do
    let q ← w.requests[n]?
    some (w.saved n q (UserService.withdrawUser w.users w.now q.user q.row))

/-- The copy has the points and the standing that the row has now. -/
def current (w : Accounts) (q : AccountRequest) : Bool :=
  decide (q.points = w.ledger.points q.user) &&
    decide ((w.users.get? q.user).map User.standing = some q.row.standing)

/-- A profile update or password change that passes its checks has a current
copy. -/
def fresh (w : Accounts) : AccountEvent → Bool
  | .updateProfile n data => w.requests[n]?.all fun q =>
      !UserSerializer.accepted w.users q.user q.row data || w.current q
  | .changePassword n oldPassword newPassword newPassword2 => w.requests[n]?.all fun q =>
      !PasswordChangeSerializer.accepted w.users q.user q.row oldPassword newPassword
        newPassword2 || w.current q
  | _ => true

end Accounts

/-! ## What the writes leave alone -/

section

variable {users : Table User} {now : Time} {k u : UserId} {row : User}

/-- The standing of a user in the table. -/
def standingOf (users : Table User) (u : UserId) : Option (Bool × Bool) :=
  (users.get? u).map User.standing

theorem standingOf_put (h : standingOf users k = some row.standing) :
    standingOf (users.put k row) u = standingOf users u := by
  unfold standingOf
  rw [Table.get?_put]
  by_cases hu : u = k
  · rw [if_pos hu, hu]
    exact h.symm
  · rw [if_neg hu]

/-- The second save of a profile update writes no column of the standing. -/
theorem standingOf_resetVerified :
    standingOf (UserSerializer.resetVerified users now k row).2 u = standingOf users u := by
  have hsaved := User.saveFields_get? users now k { row with isEmailVerified := false }
    (fun saved r => { r with isEmailVerified := saved.isEmailVerified })
    (g := User.standing) (fun _ _ => rfl) u
  unfold standingOf UserSerializer.resetVerified
  rw [hsaved]
  split_ifs
  · rfl
  · rfl

/-- A withdrawal writes the same standing whatever copy it works on. -/
theorem standingOf_withdrawUser :
    standingOf (UserService.withdrawUser users now k row).2 u
      = if u = k then (standingOf users u).map fun _ => (false, true) else standingOf users u := by
  have hsaved := User.saveFields_get? users now k
    { row with isWithdrawn := true, withdrawnAt := some now, isActive := false }
    (fun saved r => { r with
      isWithdrawn := saved.isWithdrawn
      withdrawnAt := saved.withdrawnAt
      isActive := saved.isActive })
    (g := User.standing) (fun _ _ => rfl) u
  unfold standingOf UserService.withdrawUser
  rw [hsaved]
  split_ifs
  · rw [Option.map_map]
    rfl
  · rfl

end

namespace Accounts

variable {owner : OrderId → UserId} {w a w' : Accounts}

/-- Two states with the same points, standings and requests in progress; the
rows and the copies may differ in every other column. -/
structure SameBooks (w a : Accounts) : Prop where
  now : a.now = w.now
  ledger : a.ledger = w.ledger
  standing : ∀ u, standingOf a.users u = standingOf w.users u
  requests : a.requests.map AccountRequest.user = w.requests.map AccountRequest.user

/-- The requests keep their users when one of them is replaced by itself with
another copy. -/
theorem map_user_set {requests : List AccountRequest} {n : Nat} {q q' : AccountRequest}
    (hq : requests[n]? = some q) (huser : q'.user = q.user) :
    (requests.set n q').map AccountRequest.user = requests.map AccountRequest.user := by
  refine List.ext_getElem? fun j => ?_
  rw [List.getElem?_map, List.getElem?_map, List.getElem?_set]
  by_cases hj : n = j
  · obtain ⟨hn, _⟩ := List.getElem?_eq_some_iff.mp hq
    rw [if_pos hj, ← hj, if_pos hn, hq, Option.map_some, Option.map_some, huser]
  · rw [if_neg hj]

/-- The n-th request of one state is the n-th request of the other, for the
same user. -/
theorem SameBooks.request (h : SameBooks w a) {n : Nat} {q : AccountRequest}
    (hq : w.requests[n]? = some q) : ∃ q', a.requests[n]? = some q' ∧ q'.user = q.user := by
  have hn : (a.requests.map AccountRequest.user)[n]? = some q.user := by
    rw [h.requests, List.getElem?_map, hq]
    rfl
  rw [List.getElem?_map, Option.map_eq_some_iff] at hn
  exact hn

/-- A write of a whole current copy changes neither the points nor the
standing of anybody. -/
theorem SameBooks.savedWhole (h : SameBooks w a) {n : Nat} {q q' : AccountRequest}
    {x : Except ShopError (User × Table User)} (hq : w.requests[n]? = some q)
    (huser : q'.user = q.user) (hpoints : q'.points = q.points)
    (hx : ∀ out, x = .ok out → w.current q = true ∧ out.1.standing = q.row.standing ∧
      out.2 = w.users.put q.user out.1) :
    SameBooks (w.savedWhole n q' x) a := by
  cases x with
  | error e => exact h
  | ok out =>
    obtain ⟨hcurrent, hstanding, husers⟩ := hx out rfl
    simp only [current, Bool.and_eq_true, decide_eq_true_eq] at hcurrent
    refine ⟨h.now, ?_, fun u => ?_, ?_⟩
    · show a.ledger = w.ledger.setPoints q'.user q'.points
      rw [huser, hpoints, hcurrent.1, h.ledger, Ledger.setPoints, Function.update_eq_self]
    · show standingOf a.users u = standingOf out.2 u
      rw [h.standing u, husers]
      refine (standingOf_put ?_).symm
      rw [hstanding]
      exact hcurrent.2
    · show a.requests.map AccountRequest.user = (w.requests.set n _).map AccountRequest.user
      rw [h.requests]
      refine (map_user_set hq ?_).symm
      exact huser

/-- A profile update or a password change that is fresh leaves the books as
they were. -/
theorem SameBooks.save (h : SameBooks w a) {e : AccountEvent} (hsave : e.isSave = true)
    (hfresh : w.fresh e = true) (hstep : step owner w e = some w') : SameBooks w' a := by
  cases e with
  | updateProfile n data =>
    obtain ⟨q, hq, hw⟩ := Option.bind_eq_some_iff.mp hstep
    cases hw
    refine h.savedWhole hq rfl rfl fun out hout => ?_
    obtain ⟨haccepted, hrow, husers⟩ := UserSerializer.update_ok hout
    have hcurrent : w.current q = true := by
      simpa [fresh, hq, haccepted] using hfresh
    exact ⟨hcurrent, by rw [hrow]; simp, husers⟩
  | resetVerified n =>
    obtain ⟨q, hq, hw⟩ := Option.bind_eq_some_iff.mp hstep
    split_ifs at hw
    cases hw
    refine ⟨h.now, h.ledger, fun u => ?_, ?_⟩
    · rw [h.standing u]
      exact standingOf_resetVerified.symm
    · rw [h.requests]
      refine (map_user_set hq ?_).symm
      rfl
  | changePassword n oldPassword newPassword newPassword2 =>
    obtain ⟨q, hq, hw⟩ := Option.bind_eq_some_iff.mp hstep
    cases hw
    refine h.savedWhole hq rfl rfl fun out hout => ?_
    obtain ⟨haccepted, hrow, husers⟩ := PasswordChangeSerializer.save_ok hout
    have hcurrent : w.current q = true := by
      simpa [fresh, hq, haccepted] using hfresh
    exact ⟨hcurrent, by rw [hrow]; exact User.stamped_standing _ _, husers⟩
  | tick seconds => cases hsave
  | points op => cases hsave
  | load user => cases hsave
  | withdraw n => cases hsave

/-- The other events run the same way in both states. -/
theorem SameBooks.own (h : SameBooks w a) {e : AccountEvent} (hown : e.isSave = false)
    (hstep : step owner w e = some w') :
    ∃ a', step owner a e = some a' ∧ SameBooks w' a' := by
  cases e with
  | tick seconds =>
    cases hstep
    refine ⟨_, rfl, ?_, h.ledger, h.standing, h.requests⟩
    show a.now + seconds = w.now + seconds
    rw [h.now]
  | points op =>
    simp only [step] at hstep ⊢
    split_ifs at hstep ⊢
    cases hstep
    refine ⟨_, rfl, h.now, ?_, h.standing, h.requests⟩
    show op.apply owner a.now a.ledger = op.apply owner w.now w.ledger
    rw [h.now, h.ledger]
  | load user =>
    obtain ⟨row, hrow, hw⟩ := Option.bind_eq_some_iff.mp hstep
    cases hw
    have hstanding : standingOf a.users user = some row.standing := by
      rw [h.standing, standingOf, hrow]
      rfl
    obtain ⟨row', hrow', _⟩ := Option.map_eq_some_iff.mp hstanding
    refine ⟨_, Option.bind_eq_some_iff.mpr ⟨row', hrow', rfl⟩, h.now, h.ledger, h.standing, ?_⟩
    simp [h.requests]
  | withdraw n =>
    obtain ⟨q, hq, hw⟩ := Option.bind_eq_some_iff.mp hstep
    cases hw
    obtain ⟨q', hq', huser⟩ := h.request hq
    refine ⟨_, Option.bind_eq_some_iff.mpr ⟨q', hq', rfl⟩, h.now, h.ledger, fun u => ?_, ?_⟩
    · show standingOf (UserService.withdrawUser ..).2 u
        = standingOf (UserService.withdrawUser ..).2 u
      rw [standingOf_withdrawUser, standingOf_withdrawUser, h.standing u, huser]
    · show (a.requests.set n _).map AccountRequest.user
        = (w.requests.set n _).map AccountRequest.user
      refine (map_user_set hq' ?_).trans (h.requests.trans (map_user_set hq ?_).symm)
      · rfl
      · rfl
  | updateProfile n data => cases hown
  | resetVerified n => cases hown
  | changePassword n oldPassword newPassword newPassword2 => cases hown

/-- A step that meets the points it writes keeps the invariant of the ledger. -/
theorem step_sound (hs : Sound owner w.now w.ledger) {e : AccountEvent}
    (hfresh : w.fresh e = true) (hstep : step owner w e = some w') :
    Sound owner w'.now w'.ledger := by
  by_cases hsave : e.isSave = true
  · have hsame : SameBooks w' w :=
      SameBooks.save ⟨rfl, rfl, fun _ => rfl, rfl⟩ hsave hfresh hstep
    rw [← hsame.now, ← hsame.ledger]
    exact hs
  · cases e with
    | tick seconds =>
      cases hstep
      exact hs.mono (Nat.le_add_right _ _)
    | points op =>
      simp only [step] at hstep
      split_ifs at hstep with hallowed
      cases hstep
      exact hs.apply hallowed
    | load user =>
      obtain ⟨row, _, hw⟩ := Option.bind_eq_some_iff.mp hstep
      cases hw
      exact hs
    | withdraw n =>
      obtain ⟨q, _, hw⟩ := Option.bind_eq_some_iff.mp hstep
      cases hw
      exact hs
    | updateProfile n data => exact absurd rfl hsave
    | resetVerified n => exact absurd rfl hsave
    | changePassword n oldPassword newPassword newPassword2 => exact absurd rfl hsave

end Accounts

/-! ## The runs -/

/-- A run in which every profile update and password change that is written
has the points and the standing of the row ends as its other events alone do,
and the points are the sum of the history. -/
theorem account_writes_lose_nothing {owner : OrderId → UserId} {users : Table User}
    {now : Time} {es : List AccountEvent} {w : Accounts}
    (h : Run (Accounts.step owner) (fun w e => w.fresh e = true) (Accounts.start users now)
      es w) :
    (∃ alone, exec (Accounts.step owner) (Accounts.start users now)
        (es.filter fun e => !e.isSave) = some alone ∧
      ∀ u, w.ledger.points u = alone.ledger.points u ∧
        standingOf w.users u = standingOf alone.users u) ∧
    ∀ u, w.ledger.points u = w.ledger.pointsSum u := by
  constructor
  · have hstart : (Accounts.start users now).SameBooks (Accounts.start users now) :=
      ⟨rfl, rfl, fun _ => rfl, rfl⟩
    obtain ⟨alone, halone, hsame⟩ :=
      Run.erase (fun e => !e.isSave) Accounts.SameBooks hstart
        (fun _ e _ _ hR hfresh hstep hev => by
          have hsave : e.isSave = true := by simpa using hev
          exact hR.save hsave hfresh hstep)
        (fun _ e _ _ hR _ hstep hev => by
          have hown : e.isSave = false := by simpa using hev
          exact hR.own hown hstep) h
    refine ⟨alone, halone, fun u => ⟨?_, (hsame.standing u).symm⟩⟩
    rw [hsame.ledger]
  · have hsound : Sound owner w.now w.ledger :=
      h.invariant (fun w => Sound owner w.now w.ledger) (Sound.empty owner now)
        fun w e w' hs hfresh hstep => Accounts.step_sound hs hfresh hstep
    exact hsound.booked.points_eq

/-- One user, `kim`, with a password. -/
def kim : Table User :=
  Table.empty.insert { username := "kim", email := "kim@shop.kr", password := .hashed "a" }

/-- Points arrive before the profile is read, and a withdrawal comes after a
password change. -/
theorem account_writes_lose_nothing_kim :
    ∃ w, Run (Accounts.step fun _ => 1) (fun w e => w.fresh e = true) (Accounts.start kim 0)
        [.points (.add 1 100 .earn none none), .load 1,
          .updateProfile 0 { firstName := some "민수" }, .load 1,
          .changePassword 1 "a" "b" "b", .withdraw 1] w ∧
      w.ledger.points 1 = 100 ∧ w.ledger.pointsSum 1 = 100 ∧
      standingOf w.users 1 = some (false, true) := by
  obtain ⟨w, hw, hend⟩ := Run.exists_of_execIf (by decide : (execIf (Accounts.step fun _ => 1)
    Accounts.fresh (Accounts.start kim 0)
    [.points (.add 1 100 .earn none none), .load 1,
      .updateProfile 0 { firstName := some "민수" }, .load 1,
      .changePassword 1 "a" "b" "b", .withdraw 1]).any (fun w =>
        decide (w.ledger.points 1 = 100) &&
          decide (standingOf w.users 1 = some (false, true))) = true)
  simp only [Bool.and_eq_true, decide_eq_true_eq] at hend
  have hsum := (account_writes_lose_nothing hw).2 1
  exact ⟨w, hw, hend.1, hsum ▸ hend.1, hend.2⟩

/-- Points that arrive between the read and the write of a profile update are
gone from the user and still in the history; a withdrawal there is undone. -/
theorem stale_profile_write :
    (∃ w alone, exec (Accounts.step fun _ => 1) (Accounts.start kim 0)
        [.load 1, .points (.add 1 100 .earn none none),
          .updateProfile 0 { firstName := some "민수" }] = some w ∧
      exec (Accounts.step fun _ => 1) (Accounts.start kim 0)
        [.load 1, .points (.add 1 100 .earn none none)] = some alone ∧
      w.ledger.points 1 = 0 ∧ w.ledger.pointsSum 1 = 100 ∧ alone.ledger.points 1 = 100) ∧
    ∃ w alone, exec (Accounts.step fun _ => 1) (Accounts.start kim 0)
        [.load 1, .load 1, .withdraw 1, .changePassword 0 "a" "b" "b"] = some w ∧
      exec (Accounts.step fun _ => 1) (Accounts.start kim 0)
        [.load 1, .load 1, .withdraw 1] = some alone ∧
      standingOf w.users 1 = some (true, false) ∧
      standingOf alone.users 1 = some (false, true) :=
  ⟨⟨_, _, rfl, rfl, by decide, by decide, by decide⟩,
    ⟨_, _, rfl, rfl, by decide, by decide⟩⟩

end Shopping
