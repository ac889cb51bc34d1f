import Shopping.Lib.Run
import Shopping.Users.Tokens

/-!
# Refresh tokens: used once, revoked for good

A refresh is a sequence of five database statements and no transaction, and a
revocation reads its list before it writes it.  `Tokens` is the state of all of
them, `tokenStep` lets any of them go on.

Two refreshes of one token race for the blacklist row, and one gets it
(`single_use`).  A revocation lists the tokens that are registered.  It misses
the new token of a refresh that has claimed the old one and not registered the
new one yet, that of a refresh which claims a listed token before the list is
written, and that of a refresh whose token expired after it was verified.
`sweepAlone` is the condition that no refresh of the user is in such a place.

`Live` are the tokens that can still lead to new ones, `Stale` those that a
revocation was to end.  `Covers` is the invariant of one revocation: a stale
token that is live is on its list, and the list is not written yet.
-/

namespace Shopping

open TokenService

/-- How far a call of `validate_and_refresh_token` is, by its last step. -/
inductive RefreshCall where
  | presented (jti : Nat)
  | verified (jti : Nat) (token : RefreshToken)
  | admitted (jti : Nat) (token : RefreshToken)
  | claimed (jti : Nat) (token : RefreshToken)
  | returned (jti new : Nat)
  | refused (error : TokenServiceError)
  deriving DecidableEq, Repr

namespace RefreshCall

/-- The token that the call has checked and not claimed. -/
def checked : RefreshCall → Option Nat
  | verified jti _ => some jti
  | admitted jti _ => some jti
  | _ => none

/-- The token that the call has claimed. -/
def won : RefreshCall → Option Nat
  | claimed jti _ => some jti
  | returned jti _ => some jti
  | _ => none

/-- The token row that the call read. -/
def read : RefreshCall → Option (Nat × RefreshToken)
  | verified jti token => some (jti, token)
  | admitted jti token => some (jti, token)
  | claimed jti token => some (jti, token)
  | _ => none

end RefreshCall

/-- A call of `revoke_all_for_user`: the list that it read, and whether it has
written it.  Tokens issued before it have a `jti` below `issuedBefore`. -/
structure Revocation where
  user : UserId
  kept : Option Nat
  issuedBefore : Nat
  rows : List Nat
  returned : Bool := false
  deriving DecidableEq, Repr

/-- The tables, the refreshes and the revocations. -/
structure Tokens where
  now : Time := 0
  db : TokenDb := {}
  calls : Table RefreshCall := Table.empty
  revocations : Table Revocation := Table.empty

/-- What can happen.  `advance` is the next statement of a refresh; the expiry
date of a new token is the library's. -/
inductive TokenEvent where
  | login (user : UserId) (exp : Time)
  | setActive (user : UserId) (active : Bool)
  | logout (token : TokenArg)
  | present (token : TokenArg)
  | advance (call : Nat) (exp : Time)
  | revoke (user : UserId) (keep : Option Nat)
  | finish (revocation : Nat)

/-- The next statement of a refresh. -/
def advanceCall (db : TokenDb) (now exp : Time) : RefreshCall → Option (TokenDb × RefreshCall)
  | .presented jti =>
    match verify db now jti with
    | .error e => some (db, .refused e)
    | .ok token => some (db, .verified jti token)
  | .verified jti token =>
    match ensureUserActive db token with
    | .error e => some (db, .refused e)
    | .ok _ => some (db, .admitted jti token)
  | .admitted jti token =>
    if (blacklist db jti).1 then some ((blacklist db jti).2, .claimed jti token)
    else some ((blacklist db jti).2, .refused .tokenBlacklisted)
  | .claimed jti token =>
    some ((outstand db jti token exp).2, .returned jti (outstand db jti token exp).1)
  | .returned _ _ => none
  | .refused _ => none

/-- One statement, at the clock reading `e.1`. -/
def tokenStep (s : Tokens) (e : Time × TokenEvent) : Option Tokens :=
  if e.1 < s.now then none
  else
    match e.2 with
    | .login user exp => some { s with now := e.1, db := forUser s.db user exp }
    | .setActive user active =>
      some { s with
        now := e.1
        db := { s.db with active := Function.update s.db.active user active } }
    | .logout token =>
      match blacklistToken s.db e.1 token with
      | .error _ => some { s with now := e.1 }
      | .ok db => some { s with now := e.1, db := db }
    | .present token =>
      match checkFormat s.db token with
      | .error error => some { s with now := e.1, calls := s.calls.insert (.refused error) }
      | .ok jti => some { s with now := e.1, calls := s.calls.insert (.presented jti) }
    | .advance call exp =>
      match s.calls.get? call with
      | none => none
      | some x =>
        (advanceCall s.db e.1 exp x).map fun out =>
          { s with now := e.1, db := out.1, calls := s.calls.modify call fun _ => out.2 }
    | .revoke user keep =>
      let kept := keepJti s.db e.1 keep
      some { s with
        now := e.1
        revocations := s.revocations.insert
          { user := user, kept := kept, issuedBefore := s.db.outstanding.next,
            rows := pending s.db e.1 user kept } }
    | .finish k =>
      match s.revocations.get? k with
      | none => none
      | some r =>
        some { s with
          now := e.1
          db := bulkCreate s.db r.rows
          revocations := s.revocations.modify k fun r => { r with returned := true } }

/-! ## What the revocations are about -/

/-- The token was issued before the revocation to its user, or comes from such
a token by rotations since; the kept token is left out. -/
def Stale (db : TokenDb) (r : Revocation) (j : Nat) : Prop :=
  ∃ token, db.outstanding.get? j = some token ∧ token.user = r.user ∧
    ∃ i, (j :: token.chain).find? (fun i => decide (i < r.issuedBefore)) = some i ∧ r.kept ≠ some i

/-- The token can still lead to a new one: a call may claim it, or has claimed
it and not answered. -/
def Live (s : Tokens) (j : Nat) : Prop :=
  (∃ token, s.db.outstanding.get? j = some token ∧ j ∉ s.db.blacklisted ∧
    (s.now < token.exp ∨ ∃ c x, s.calls.get? c = some x ∧ x.checked = some j)) ∨
  ∃ c token, s.calls.get? c = some (.claimed j token)

/-- In this step the call `c` claims the token `j`, or answers with new tokens
for it. -/
def Grants (s u : Tokens) (c j : Nat) : Prop :=
  s.calls.get? c ≠ u.calls.get? c ∧ ∃ x, u.calls.get? c = some x ∧ x.won = some j

/-- At most one call answers new tokens for a token. -/
def SingleUse (s : Tokens) : Prop :=
  ∀ j c c' n n', s.calls.get? c = some (.returned j n) → s.calls.get? c' = some (.returned j n') →
    c = c'

/-- No token that a finished revocation was to end is accepted in any next
step. -/
def RevokedRefused (s : Tokens) : Prop :=
  ∀ k r, s.revocations.get? k = some r → r.returned = true → ∀ j, Stale s.db r j →
    ∀ e u c, tokenStep s e = some u → ¬ Grants s u c j

/-- When a revocation reads its list, no refresh of a token of its user is
between the claim and the registration of the new token, and none has checked a
token that expired since.  No refresh claims a token on a list that is not
written yet. -/
def sweepAlone (s : Tokens) (e : Time × TokenEvent) : Bool :=
  match e.2 with
  | .advance call _ =>
    (s.calls.get? call).all fun x =>
      match x with
      | .admitted jti _ => decide (jti ∈ s.db.blacklisted) ||
          s.revocations.rows.all fun p => p.2.returned || !decide (jti ∈ p.2.rows)
      | _ => true
  | .revoke user _ =>
    s.calls.rows.all fun p =>
      match p.2 with
      | .verified jti token => decide (token.user ≠ user) || decide (e.1 < token.exp) ||
          decide (jti ∈ s.db.blacklisted)
      | .admitted jti token => decide (token.user ≠ user) || decide (e.1 < token.exp) ||
          decide (jti ∈ s.db.blacklisted)
      | .claimed _ token => decide (token.user ≠ user)
      | _ => true
  | _ => true

/-! ## What one statement does -/

/-- The change that an event makes at the clock reading `now`. -/
inductive Change (s : Tokens) (now : Time) : TokenEvent → Tokens → Prop
  /-- The accounts change, or a token is blacklisted. -/
  | accounts {ev : TokenEvent} {db : TokenDb} (hout : db.outstanding = s.db.outstanding)
      (hblack : ∀ j ∈ s.db.blacklisted, j ∈ db.blacklisted) :
      Change s now ev { s with now := now, db := db }
  | login (user : UserId) (exp : Time) :
      Change s now (.login user exp) { s with now := now, db := forUser s.db user exp }
  | present {ev : TokenEvent} {x : RefreshCall} (hread : x.read = none) (hwon : x.won = none) :
      Change s now ev { s with now := now, calls := s.calls.insert x }
  | refuse {ev : TokenEvent} {c : Nat} {x : RefreshCall} {db : TokenDb} {error : TokenServiceError}
      (hx : s.calls.get? c = some x) (hwon : x.won = none) (hdb : db = s.db) :
      Change s now ev
        { s with now := now, db := db, calls := s.calls.modify c fun _ => .refused error }
  | verify {ev : TokenEvent} {c j : Nat} {token : RefreshToken}
      (hx : s.calls.get? c = some (.presented j))
      (hok : TokenService.verify s.db now j = .ok token) :
      Change s now ev { s with now := now, calls := s.calls.modify c fun _ => .verified j token }
  | allow {ev : TokenEvent} {c j : Nat} {token : RefreshToken}
      (hx : s.calls.get? c = some (.verified j token)) :
      Change s now ev { s with now := now, calls := s.calls.modify c fun _ => .admitted j token }
  | claim {c j : Nat} {exp : Time} {token : RefreshToken}
      (hx : s.calls.get? c = some (.admitted j token)) (hfree : j ∉ s.db.blacklisted) :
      Change s now (.advance c exp) { s with
        now := now
        db := (blacklist s.db j).2
        calls := s.calls.modify c fun _ => .claimed j token }
  | answer {ev : TokenEvent} {c j : Nat} {exp : Time} {token : RefreshToken}
      (hx : s.calls.get? c = some (.claimed j token)) :
      Change s now ev { s with
        now := now
        db := (outstand s.db j token exp).2
        calls := s.calls.modify c fun _ => .returned j s.db.outstanding.next }
  | revoke (user : UserId) (keep : Option Nat) :
      Change s now (.revoke user keep) { s with
        now := now
        revocations := s.revocations.insert
          { user := user, kept := keepJti s.db now keep, issuedBefore := s.db.outstanding.next,
            rows := pending s.db now user (keepJti s.db now keep) } }
  | finish {k : Nat} {r : Revocation} (hr : s.revocations.get? k = some r) :
      Change s now (.finish k) { s with
        now := now
        db := bulkCreate s.db r.rows
        revocations := s.revocations.modify k fun r => { r with returned := true } }

/-- The next statement of a refresh. -/
theorem Change.of_advance {s : Tokens} {now exp : Time} {c : Nat} {x : RefreshCall}
    {out : TokenDb × RefreshCall} (hx : s.calls.get? c = some x)
    (h : advanceCall s.db now exp x = some out) :
    Change s now (.advance c exp)
      { s with now := now, db := out.1, calls := s.calls.modify c fun _ => out.2 } := by
  cases x with
  | presented j =>
    simp only [advanceCall] at h
    cases hv : TokenService.verify s.db now j with
    | error e =>
      rw [hv] at h
      cases h
      exact .refuse hx rfl rfl
    | ok token =>
      rw [hv] at h
      cases h
      exact .verify hx hv
  | verified j token =>
    simp only [advanceCall] at h
    cases ha : ensureUserActive s.db token with
    | error e =>
      rw [ha] at h
      cases h
      exact .refuse hx rfl rfl
    | ok _ =>
      rw [ha] at h
      cases h
      exact .allow hx
  | admitted j token =>
    simp only [advanceCall] at h
    by_cases hfree : j ∈ s.db.blacklisted
    · rw [if_neg (fun hc => blacklist_fst.mp hc hfree)] at h
      cases h
      refine .refuse hx rfl ?_
      unfold blacklist
      rw [if_pos hfree]
    · rw [if_pos (blacklist_fst.mpr hfree)] at h
      cases h
      exact .claim hx hfree
  | claimed j token =>
    cases h
    exact .answer hx
  | returned j n => cases h
  | refused e => cases h

theorem tokenStep_cases {s u : Tokens} {e : Time × TokenEvent} (h : tokenStep s e = some u) :
    s.now ≤ e.1 ∧ Change s e.1 e.2 u := by
  obtain ⟨now, ev⟩ := e
  unfold tokenStep at h
  by_cases hnow : now < s.now
  · rw [if_pos hnow] at h
    cases h
  · rw [if_neg hnow] at h
    refine ⟨not_lt.mp hnow, ?_⟩
    cases ev with
    | login user exp =>
      cases h
      exact .login user exp
    | setActive user active =>
      cases h
      exact .accounts rfl fun _ hj => hj
    | logout token =>
      simp only at h
      cases hb : blacklistToken s.db now token with
      | error error =>
        rw [hb] at h
        cases h
        show Change s now _ { s with now := now, db := s.db }
        exact .accounts rfl fun _ hj => hj
      | ok db =>
        rw [hb] at h
        cases h
        obtain ⟨j, hdb⟩ : ∃ j, db = (blacklist s.db j).2 := by
          cases token with
          | missing => cases hb
          | malformed => cases hb
          | jwt j =>
            refine ⟨j, ?_⟩
            simp only [blacklistToken] at hb
            cases hv : TokenService.verify s.db now j with
            | error error =>
              rw [hv] at hb
              cases hb
            | ok t =>
              rw [hv] at hb
              cases hb
              rfl
        refine .accounts ?_ fun i hi => ?_
        · rw [hdb, blacklist_outstanding]
        · rw [hdb]
          exact mem_blacklist.mpr (Or.inr hi)
    | present token =>
      simp only at h
      cases hf : checkFormat s.db token with
      | error error =>
        rw [hf] at h
        cases h
        exact .present rfl rfl
      | ok j =>
        rw [hf] at h
        cases h
        exact .present rfl rfl
    | advance c exp =>
      simp only at h
      cases hx : s.calls.get? c with
      | none =>
        rw [hx] at h
        cases h
      | some x =>
        rw [hx] at h
        obtain ⟨out, hout, rfl⟩ := Option.map_eq_some_iff.mp h
        exact .of_advance hx hout
    | revoke user keep =>
      cases h
      exact .revoke user keep
    | finish k =>
      simp only at h
      cases hr : s.revocations.get? k with
      | none =>
        rw [hr] at h
        cases h
      | some r =>
        rw [hr] at h
        cases h
        exact .finish hr

/-! ## Every token is claimed once -/

/-- A call that read a token read its row; a claimed token is blacklisted, and
claimed by one call. -/
structure TokensInv (s : Tokens) : Prop where
  known : ∀ c x j token, s.calls.get? c = some x → x.read = some (j, token) →
    s.db.outstanding.get? j = some token
  black : ∀ c x j, s.calls.get? c = some x → x.won = some j → j ∈ s.db.blacklisted
  once : ∀ c c' x x' j, s.calls.get? c = some x → s.calls.get? c' = some x' →
    x.won = some j → x'.won = some j → c = c'

theorem TokensInv.start : TokensInv {} := by
  refine ⟨fun c x j t h => ?_, fun c x j h => ?_, fun c c' x x' j h => ?_⟩
  all_goals cases h

/-- A call after one call was changed is that one or one from before. -/
theorem call_cases {s : Tokens} {c c' : Nat} {x y z : RefreshCall}
    (hx : s.calls.get? c = some x)
    (h : (s.calls.modify c fun _ => y).get? c' = some z) :
    (c' = c ∧ z = y) ∨ (c' ≠ c ∧ s.calls.get? c' = some z) := by
  rcases (Table.updates_modify hx fun _ => y).cases h with ⟨hc, hz⟩ | hother
  · exact Or.inl ⟨hc, hz⟩
  · exact Or.inr hother

/-- A statement that keeps the tokens and changes one call, which claims
nothing by it, keeps the invariant. -/
theorem TokensInv.modify {s : Tokens} (h : TokensInv s) {now : Time} {db : TokenDb}
    {c : Nat} {x y : RefreshCall} (hx : s.calls.get? c = some x)
    (hout : ∀ j token, s.db.outstanding.get? j = some token → db.outstanding.get? j = some token)
    (hblack : ∀ j ∈ s.db.blacklisted, j ∈ db.blacklisted)
    (hread : ∀ j token, y.read = some (j, token) → s.db.outstanding.get? j = some token)
    (hwon : ∀ j, y.won = some j → x.won = some j) :
    TokensInv { s with now := now, db := db, calls := s.calls.modify c fun _ => y } := by
  refine ⟨fun c' z j token hz hj => ?_, fun c' z j hz hj => ?_, fun c' d z z' j hz hz' hj hj' => ?_⟩
  · rcases call_cases hx hz with ⟨_, rfl⟩ | ⟨_, hz⟩
    · exact hout j token (hread j token hj)
    · exact hout j token (h.known c' z j token hz hj)
  · rcases call_cases hx hz with ⟨_, rfl⟩ | ⟨_, hz⟩
    · exact hblack j (h.black c x j hx (hwon j hj))
    · exact hblack j (h.black c' z j hz hj)
  · rcases call_cases hx hz with ⟨rfl, rfl⟩ | ⟨_, hold⟩
    · rcases call_cases hx hz' with ⟨rfl, _⟩ | ⟨_, hz'⟩
      · rfl
      · exact h.once c' d x z' j hx hz' (hwon j hj) hj'
    · rcases call_cases hx hz' with ⟨rfl, rfl⟩ | ⟨_, hz'⟩
      · exact h.once c' d z x j hold hx hj (hwon j hj')
      · exact h.once c' d z z' j hold hz' hj hj'

/-- A new call has neither read nor claimed a token. -/
theorem TokensInv.present {s : Tokens} (h : TokensInv s) {now : Time} {x : RefreshCall}
    (hread : x.read = none) (hwon : x.won = none) :
    TokensInv { s with now := now, calls := s.calls.insert x } := by
  refine ⟨fun c z j token hz hj => ?_, fun c z j hz hj => ?_, fun c c' z z' j hz hz' hj hj' => ?_⟩
  · rcases Table.insert_cases hz with ⟨_, rfl⟩ | hz
    · rw [hread] at hj
      cases hj
    · exact h.known c z j token hz hj
  · rcases Table.insert_cases hz with ⟨_, rfl⟩ | hz
    · rw [hwon] at hj
      cases hj
    · exact h.black c z j hz hj
  · rcases Table.insert_cases hz with ⟨_, rfl⟩ | hz
    · rw [hwon] at hj
      cases hj
    · rcases Table.insert_cases hz' with ⟨_, rfl⟩ | hz'
      · rw [hwon] at hj'
        cases hj'
      · exact h.once c c' z z' j hz hz' hj hj'

/-- A call claims a token that is not blacklisted. -/
theorem TokensInv.claim {s : Tokens} (h : TokensInv s) {now : Time} {c j : Nat}
    {token : RefreshToken} (hx : s.calls.get? c = some (.admitted j token))
    (hfree : j ∉ s.db.blacklisted) :
    TokensInv { s with
      now := now
      db := (blacklist s.db j).2
      calls := s.calls.modify c fun _ => .claimed j token } := by
  -- No call has claimed the token: it would be blacklisted.
  have hnone : ∀ c' z, s.calls.get? c' = some z → z.won ≠ some j :=
    fun c' z hz hj => hfree (h.black c' z j hz hj)
  refine ⟨fun c' z i t hz hi => ?_, fun c' z i hz hi => ?_, fun c' d z z' i hz hz' hi hi' => ?_⟩
  · show (blacklist s.db j).2.outstanding.get? i = some t
    rw [blacklist_outstanding]
    rcases call_cases hx hz with ⟨_, rfl⟩ | ⟨_, hz⟩
    · cases hi
      exact h.known c _ j token hx rfl
    · exact h.known c' z i t hz hi
  · refine mem_blacklist.mpr ?_
    rcases call_cases hx hz with ⟨_, rfl⟩ | ⟨_, hz⟩
    · cases hi
      exact Or.inl rfl
    · exact Or.inr (h.black c' z i hz hi)
  · rcases call_cases hx hz with ⟨rfl, rfl⟩ | ⟨_, hold⟩
    · cases hi
      rcases call_cases hx hz' with ⟨rfl, _⟩ | ⟨_, hz'⟩
      · rfl
      · exact absurd hi' (hnone d z' hz')
    · rcases call_cases hx hz' with ⟨rfl, rfl⟩ | ⟨_, hz'⟩
      · cases hi'
        exact absurd hi (hnone c' z hold)
      · exact h.once c' d z z' i hold hz' hi hi'

theorem TokensInv.step {s u : Tokens} {e : Time × TokenEvent} (h : TokensInv s)
    (hstep : tokenStep s e = some u) : TokensInv u := by
  obtain ⟨_, hchange⟩ := tokenStep_cases hstep
  -- A table with one token more has the tokens from before.
  have hinsert : ∀ (a : RefreshToken) (j : Nat) (token : RefreshToken),
      s.db.outstanding.get? j = some token →
        (s.db.outstanding.insert a).get? j = some token :=
    fun a j token hj => Table.get?_insert_of_some hj a
  generalize e.1 = now at hchange
  generalize e.2 = ev at hchange
  cases hchange with
  | accounts hout hblack =>
    refine ⟨fun c x j token hx hj => ?_, fun c x j hx hj => ?_, h.once⟩
    · rw [hout]
      exact h.known c x j token hx hj
    · exact hblack j (h.black c x j hx hj)
  | login user exp =>
    refine ⟨fun c x j token hx hj => ?_, h.black, h.once⟩
    exact hinsert _ j token (h.known c x j token hx hj)
  | present hread hwon => exact h.present hread hwon
  | refuse hx hwon hdb =>
    subst hdb
    exact h.modify hx (fun _ _ hj => hj) (fun _ hj => hj) nofun nofun
  | verify hx hok =>
    refine h.modify hx (fun _ _ hj => hj) (fun _ hj => hj) (fun j t hj => ?_) nofun
    cases hj
    exact (verify_ok hok).1
  | allow hx =>
    refine h.modify hx (fun _ _ hj => hj) (fun _ hj => hj) (fun j t hj => ?_) nofun
    exact h.known _ _ j t hx hj
  | claim hx hfree => exact h.claim hx hfree
  | answer hx =>
    exact h.modify hx (hinsert _) (fun _ hj => hj) nofun fun j hj => hj
  | revoke user keep => exact ⟨h.known, h.black, h.once⟩
  | finish hr =>
    refine ⟨h.known, fun c x j hx hj => ?_, h.once⟩
    exact List.mem_append_right _ (h.black c x j hx hj)

theorem single_use {ok : Tokens → Time × TokenEvent → Prop} {s : Tokens}
    {es : List (Time × TokenEvent)} (h : Run tokenStep ok {} es s) :
    TokensInv s ∧ SingleUse s := by
  have hinv : TokensInv s := h.invariant TokensInv TokensInv.start fun _ _ _ hI _ hs => hI.step hs
  exact ⟨hinv, fun j c c' n n' hc hc' => hinv.once c c' _ _ j hc hc' rfl rfl⟩

/-! ## A revocation ends what it was to end -/

/-- The invariant of one revocation. -/
structure Covers (s : Tokens) (r : Revocation) : Prop where
  before : r.issuedBefore ≤ s.db.outstanding.next
  stale : ∀ j, Stale s.db r j → Live s j → r.returned = false ∧ j ∈ r.rows
  rows : r.returned = false → ∀ j ∈ r.rows, ∀ c token, s.calls.get? c ≠ some (.claimed j token)

/-- A token that was not there is stale only if a token it comes from is. -/
theorem stale_insert {db db' : TokenDb} {a : RefreshToken} {r : Revocation} {j : Nat}
    (hdb : db'.outstanding = db.outstanding.insert a)
    (hbefore : r.issuedBefore ≤ db.outstanding.next)
    (h : Stale db' r j) :
    Stale db r j ∨ a.user = r.user ∧
      ∃ i, a.chain.find? (fun i => decide (i < r.issuedBefore)) = some i ∧ r.kept ≠ some i := by
  obtain ⟨token, hget, huser, i, hi, hkept⟩ := h
  rw [hdb, Table.get?_insert] at hget
  by_cases hj : j = db.outstanding.next
  · rw [if_pos hj, Option.some.injEq] at hget
    subst hget
    rw [List.find?_cons_of_neg (by simp; omega)] at hi
    exact Or.inr ⟨huser, i, hi, hkept⟩
  · rw [if_neg hj] at hget
    exact Or.inl ⟨token, hget, huser, i, hi, hkept⟩

/-- Nothing becomes live again: it was live if what keeps it so was there. -/
theorem Live.before {s u : Tokens} {j : Nat} (h : Live u j)
    (htoken : ∀ token, u.db.outstanding.get? j = some token → s.db.outstanding.get? j = some token)
    (hnow : s.now ≤ u.now) (hblack : j ∈ s.db.blacklisted → j ∈ u.db.blacklisted)
    (hchecked : ∀ c x, u.calls.get? c = some x → x.checked = some j →
      (∃ c' x', s.calls.get? c' = some x' ∧ x'.checked = some j) ∨ Live s j)
    (hclaimed : ∀ c token, u.calls.get? c = some (.claimed j token) → Live s j) : Live s j := by
  rcases h with ⟨token, hget, hfree, hexp | ⟨c, x, hx, hj⟩⟩ | ⟨c, token, hc⟩
  · exact Or.inl ⟨token, htoken token hget, fun hb => hfree (hblack hb),
      Or.inl (lt_of_le_of_lt hnow hexp)⟩
  · rcases hchecked c x hx hj with hbefore | hlive
    · exact Or.inl ⟨token, htoken token hget, fun hb => hfree (hblack hb), Or.inr hbefore⟩
    · exact hlive
  · exact hclaimed c token hc

/-- Nor when one call goes on, if what it checks or has claimed then was live. -/
theorem Live.before_call {s : Tokens} {now : Time} {db : TokenDb} {c j : Nat} {x y : RefreshCall}
    (h : Live { s with now := now, db := db, calls := s.calls.modify c fun _ => y } j)
    (hx : s.calls.get? c = some x)
    (htoken : ∀ token, db.outstanding.get? j = some token → s.db.outstanding.get? j = some token)
    (hnow : s.now ≤ now) (hblack : j ∈ s.db.blacklisted → j ∈ db.blacklisted)
    (hchecked : y.checked = some j → x.checked = some j ∨ Live s j)
    (hclaimed : ∀ token, y = .claimed j token → Live s j) : Live s j := by
  refine h.before htoken hnow hblack (fun c' z hz hj => ?_) fun c' token hz => ?_
  · rcases call_cases hx hz with ⟨_, rfl⟩ | ⟨_, hz⟩
    · rcases hchecked hj with hbefore | hlive
      · exact Or.inl ⟨c, x, hx, hbefore⟩
      · exact Or.inr hlive
    · exact Or.inl ⟨c', z, hz, hj⟩
  · rcases call_cases hx hz with ⟨_, heq⟩ | ⟨_, hz⟩
    · exact hclaimed token heq.symm
    · exact Or.inr ⟨c', token, hz⟩

/-- A call that goes on without a claim. -/
theorem claimed_before {s : Tokens} {c c' j : Nat} {x y : RefreshCall} {token : RefreshToken}
    (hx : s.calls.get? c = some x)
    (h : (s.calls.modify c fun _ => y).get? c' = some (.claimed j token))
    (hy : y ≠ .claimed j token) :
    s.calls.get? c' = some (.claimed j token) := by
  rcases call_cases hx h with ⟨_, heq⟩ | ⟨_, hold⟩
  · exact absurd heq.symm hy
  · exact hold

/-- A claim and an answer are for a token that was live. -/
theorem Grants.live {s u : Tokens} {e : Time × TokenEvent} {c j : Nat} (h : TokensInv s)
    (hstep : tokenStep s e = some u) (hg : Grants s u c j) : Live s j := by
  obtain ⟨hne, x, hx, hj⟩ := hg
  obtain ⟨_, hchange⟩ := tokenStep_cases hstep
  generalize e.1 = now at hchange
  generalize e.2 = ev at hchange
  cases hchange with
  | accounts => exact absurd rfl hne
  | login => exact absurd rfl hne
  | revoke => exact absurd rfl hne
  | finish => exact absurd rfl hne
  | present hread hwon =>
    simp only [Table.get?_insert] at hne hx
    split at hx
    · cases hx
      rw [hwon] at hj
      cases hj
    · rename_i hc
      rw [if_neg hc] at hne
      exact absurd rfl hne
  | refuse hy hwon hdb =>
    rcases call_cases hy hx with ⟨_, rfl⟩ | ⟨hc, hold⟩
    · cases hj
    · exact absurd (hold.trans hx.symm) hne
  | verify hy hok =>
    rcases call_cases hy hx with ⟨_, rfl⟩ | ⟨hc, hold⟩
    · cases hj
    · exact absurd (hold.trans hx.symm) hne
  | allow hy =>
    rcases call_cases hy hx with ⟨_, rfl⟩ | ⟨hc, hold⟩
    · cases hj
    · exact absurd (hold.trans hx.symm) hne
  | claim hy hfree =>
    rcases call_cases hy hx with ⟨_, rfl⟩ | ⟨hc, hold⟩
    · cases hj
      exact Or.inl ⟨_, h.known _ _ _ _ hy rfl, hfree, Or.inr ⟨_, _, hy, rfl⟩⟩
    · exact absurd (hold.trans hx.symm) hne
  | answer hy =>
    rcases call_cases hy hx with ⟨_, rfl⟩ | ⟨hc, hold⟩
    · cases hj
      exact Or.inr ⟨_, _, hy⟩
    · exact absurd (hold.trans hx.symm) hne

/-- A statement after which no token is newly stale and live, and no token on
the list newly claimed. -/
theorem Covers.of_less {s u : Tokens} {r : Revocation} (h : Covers s r)
    (hnext : s.db.outstanding.next ≤ u.db.outstanding.next)
    (hstale : ∀ j, Stale u.db r j → Live u j → Stale s.db r j ∧ Live s j)
    (hclaimed : r.returned = false → ∀ j ∈ r.rows, ∀ c token,
      u.calls.get? c = some (.claimed j token) →
        ∃ c' token', s.calls.get? c' = some (.claimed j token')) :
    Covers u r := by
  refine ⟨le_trans h.before hnext, fun j hj hlive => ?_, fun hret j hj c token hc => ?_⟩
  · obtain ⟨hj', hlive'⟩ := hstale j hj hlive
    exact h.stale j hj' hlive'
  · obtain ⟨c', token', hc'⟩ := hclaimed hret j hj c token hc
    exact h.rows hret j hj c' token' hc'

/-- The list of an unfinished revocation, as `sweepAlone` reads it. -/
theorem sweepAlone_claim {s : Tokens} {now exp : Time} {c j k : Nat} {token : RefreshToken}
    {r : Revocation} (hok : sweepAlone s (now, .advance c exp) = true)
    (hx : s.calls.get? c = some (.admitted j token)) (hfree : j ∉ s.db.blacklisted)
    (hr : s.revocations.get? k = some r) (hret : r.returned = false) : j ∉ r.rows := by
  simp only [sweepAlone, hx, Option.all_some, Bool.or_eq_true, decide_eq_true_eq] at hok
  rcases hok with hblack | hall
  · exact absurd hblack hfree
  · have hrow := List.all_eq_true.mp hall (k, r) (Table.get?_eq_some.mp hr)
    simpa [hret] using hrow

/-- Whatever is done next, a revocation that covers its tokens still does. -/
theorem Covers.keep {s u : Tokens} {e : Time × TokenEvent} {k : Nat} {r : Revocation}
    (h : Covers s r) (hinv : TokensInv s) (hr : s.revocations.get? k = some r)
    (hok : sweepAlone s e = true) (hstep : tokenStep s e = some u) : Covers u r := by
  obtain ⟨hnow, hchange⟩ := tokenStep_cases hstep
  obtain ⟨now, ev⟩ := e
  simp only at hnow hchange
  -- A token that was known before is the same token in a table with one more.
  have hsame : ∀ (a : RefreshToken) (j : Nat) (token : RefreshToken), Stale s.db r j →
      (s.db.outstanding.insert a).get? j = some token → s.db.outstanding.get? j = some token := by
    intro a j token hj hget
    obtain ⟨old, hold, _⟩ := hj
    rw [Table.get?_insert_of_some hold a] at hget
    rw [hold, hget]
  -- The calls are as before.
  have hchecked : ∀ j c x, s.calls.get? c = some x → x.checked = some j →
      (∃ c' x', s.calls.get? c' = some x' ∧ x'.checked = some j) ∨ Live s j :=
    fun j c x hx hj => Or.inl ⟨c, x, hx, hj⟩
  have hclaimed : ∀ j c token, s.calls.get? c = some (.claimed j token) → Live s j :=
    fun j c token hc => Or.inr ⟨c, token, hc⟩
  cases hchange with
  | accounts hout hblack =>
    refine h.of_less (le_of_eq (by rw [hout])) (fun j hj hlive => ?_) fun _ j _ c t hc => ⟨c, t, hc⟩
    refine ⟨?_, hlive.before (fun t ht => ?_) hnow (hblack j) (hchecked j) (hclaimed j)⟩
    · unfold Stale at hj
      rwa [hout] at hj
    · rwa [hout] at ht
  | login user exp =>
    refine h.of_less (Nat.le_succ _) (fun j hj hlive => ?_) fun _ j _ c t hc => ⟨c, t, hc⟩
    have hstale : Stale s.db r j := by
      rcases stale_insert rfl h.before hj with hold | ⟨_, i, hi, _⟩
      · exact hold
      · cases hi
    exact ⟨hstale,
      hlive.before (fun t ht => hsame _ j t hstale ht) hnow id (hchecked j) (hclaimed j)⟩
  | present hread hwon =>
    rename_i x
    refine h.of_less le_rfl (fun j hj hlive => ⟨hj, ?_⟩) fun _ j _ c t hc => ?_
    · refine hlive.before (fun t ht => ht) hnow id (fun c z hz hjz => ?_) fun c t hc => ?_
      · rcases Table.insert_cases hz with ⟨_, rfl⟩ | hz
        · cases z <;> cases hread <;> cases hjz
        · exact hchecked j c z hz hjz
      · rcases Table.insert_cases hc with ⟨_, rfl⟩ | hc
        · cases hread
        · exact hclaimed j c t hc
    · rcases Table.insert_cases hc with ⟨_, rfl⟩ | hc
      · cases hread
      · exact ⟨c, t, hc⟩
  | refuse hx hwon hdb =>
    subst hdb
    refine h.of_less le_rfl (fun j hj hlive => ⟨hj, ?_⟩)
      fun _ j _ c t hc => ⟨c, t, claimed_before hx hc nofun⟩
    exact hlive.before_call hx (fun t ht => ht) hnow id nofun nofun
  | verify hx hverify =>
    refine h.of_less le_rfl (fun j hj hlive => ⟨hj, ?_⟩)
      fun _ j _ c t hc => ⟨c, t, claimed_before hx hc nofun⟩
    refine hlive.before_call hx (fun t ht => ht) hnow id (fun hjz => ?_) nofun
    -- It is verified, so it has not expired and is not blacklisted.
    cases hjz
    obtain ⟨hget, hexp, hfree⟩ := verify_ok hverify
    exact Or.inr (Or.inl ⟨_, hget, hfree, Or.inl (lt_of_le_of_lt hnow hexp)⟩)
  | allow hx =>
    refine h.of_less le_rfl (fun j hj hlive => ⟨hj, ?_⟩)
      fun _ j _ c t hc => ⟨c, t, claimed_before hx hc nofun⟩
    exact hlive.before_call hx (fun t ht => ht) hnow id Or.inl nofun
  | claim hx hfree =>
    rename_i c₀ i exp token
    -- The claimed token was live: the call had checked it.
    have hi : Live s i :=
      Or.inl ⟨token, hinv.known c₀ _ i token hx rfl, hfree, Or.inr ⟨c₀, _, hx, rfl⟩⟩
    refine ⟨?_, fun j hj hlive => ?_, fun hret j hj c t hc => ?_⟩
    · show r.issuedBefore ≤ (blacklist s.db i).2.outstanding.next
      rw [blacklist_outstanding]
      exact h.before
    · have hstale : Stale s.db r j := by
        unfold Stale at hj
        rwa [blacklist_outstanding] at hj
      refine h.stale j hstale (hlive.before_call hx (fun t ht => ?_) hnow
        (fun hb => mem_blacklist.mpr (Or.inr hb)) nofun fun t ht => ?_)
      · rwa [blacklist_outstanding] at ht
      · cases ht
        exact hi
    · rcases call_cases hx hc with ⟨_, hcase⟩ | ⟨_, hc⟩
      · cases hcase
        exact sweepAlone_claim hok hx hfree hr hret hj
      · exact h.rows hret j hj c t hc
  | answer hx =>
    rename_i c₀ i exp token
    refine h.of_less (Nat.le_succ _) (fun j hj hlive => ?_)
      fun _ j _ c t hc => ⟨c, t, claimed_before hx hc nofun⟩
    have hstale : Stale s.db r j := by
      rcases stale_insert rfl h.before hj with hold | ⟨huser, i', hi', hkept⟩
      · exact hold
      · -- The claimed token would be stale and live, so listed; a listed one is not claimed.
        have hi : Stale s.db r i :=
          ⟨token, hinv.known c₀ _ i token hx rfl, huser, i', hi', hkept⟩
        obtain ⟨hret, hrow⟩ := h.stale i hi (Or.inr ⟨c₀, token, hx⟩)
        exact absurd hx (h.rows hret i hrow c₀ token)
    exact ⟨hstale, hlive.before_call hx (fun t ht => hsame _ j t hstale ht) hnow id nofun nofun⟩
  | revoke user keep =>
    refine h.of_less le_rfl (fun j hj hlive => ⟨hj, ?_⟩) fun _ j _ c t hc => ⟨c, t, hc⟩
    exact hlive.before (fun t ht => ht) hnow id (hchecked j) (hclaimed j)
  | finish hr' =>
    refine h.of_less le_rfl (fun j hj hlive => ⟨hj, ?_⟩) fun _ j _ c t hc => ⟨c, t, hc⟩
    exact hlive.before (fun t ht => ht) hnow (fun hb => List.mem_append_right _ hb) (hchecked j)
      (hclaimed j)

/-- The list is written: what is on it cannot be used, and what is stale and
live was on it. -/
theorem Covers.of_finish {s : Tokens} {now : Time} {r : Revocation} (h : Covers s r)
    (hnow : s.now ≤ now) {revocations : Table Revocation} :
    Covers { s with now := now, db := bulkCreate s.db r.rows, revocations := revocations }
      { r with returned := true } := by
  refine ⟨h.before, fun j hj hlive => ?_, nofun⟩
  have hbefore : Live s j := by
    refine hlive.before (fun t ht => ht) hnow (fun hb => List.mem_append_right _ hb)
      (fun c x hx hjx => Or.inl ⟨c, x, hx, hjx⟩) fun c t hc => Or.inr ⟨c, t, hc⟩
  obtain ⟨hret, hrow⟩ := h.stale j hj hbefore
  rcases hlive with ⟨_, _, hfree, _⟩ | ⟨c, token, hc⟩
  · exact absurd (List.mem_append_left _ hrow) hfree
  · exact absurd hc (h.rows hret j hrow c token)

/-- When a list is read, a token of the user that a call has checked has not
expired. -/
theorem sweepAlone_checked {s : Tokens} {now : Time} {user : UserId} {keep : Option Nat}
    {c j : Nat} {x : RefreshCall} {token : RefreshToken}
    (hok : sweepAlone s (now, .revoke user keep) = true) (hinv : TokensInv s)
    (hx : s.calls.get? c = some x) (hj : x.checked = some j)
    (hget : s.db.outstanding.get? j = some token) (huser : token.user = user)
    (hfree : j ∉ s.db.blacklisted) : now < token.exp := by
  simp only [sweepAlone, List.all_eq_true] at hok
  have hrow := hok (c, x) (Table.get?_eq_some.mp hx)
  cases x with
  | verified j' t =>
    cases hj
    cases hget.symm.trans (hinv.known c _ j t hx rfl)
    simpa [huser, hfree] using hrow
  | admitted j' t =>
    cases hj
    cases hget.symm.trans (hinv.known c _ j t hx rfl)
    simpa [huser, hfree] using hrow
  | _ => cases hj

/-- Nor has a call claimed such a token and not answered. -/
theorem sweepAlone_claimed {s : Tokens} {now : Time} {user : UserId} {keep : Option Nat}
    {c j : Nat} {token token' : RefreshToken}
    (hok : sweepAlone s (now, .revoke user keep) = true) (hinv : TokensInv s)
    (hget : s.db.outstanding.get? j = some token) (huser : token.user = user) :
    s.calls.get? c ≠ some (.claimed j token') := by
  intro hc
  simp only [sweepAlone, List.all_eq_true] at hok
  have hrow := hok (c, _) (Table.get?_eq_some.mp hc)
  cases hget.symm.trans (hinv.known c _ j token' hc rfl)
  exact absurd huser (of_decide_eq_true hrow)

/-- A revocation that reads its list with no refresh in its way reads all of
it. -/
theorem Covers.of_revoke {s : Tokens} {now : Time} {user : UserId} {keep : Option Nat}
    (hinv : TokensInv s) (hok : sweepAlone s (now, .revoke user keep) = true)
    {revocations : Table Revocation} :
    Covers { s with now := now, revocations := revocations }
      { user := user, kept := keepJti s.db now keep, issuedBefore := s.db.outstanding.next,
        rows := pending s.db now user (keepJti s.db now keep) } := by
  refine ⟨le_rfl, fun j hj hlive => ⟨rfl, ?_⟩, fun _ j hj c token hc => ?_⟩
  · obtain ⟨token, hget, huser, i, hi, hkept⟩ := hj
    have hown : i = j := by
      have hlt : j < s.db.outstanding.next := Table.lt_next hget
      rw [List.find?_cons_of_pos (by simpa using hlt), Option.some.injEq] at hi
      exact hi.symm
    subst hown
    refine mem_pending.mpr ⟨token, hget, huser, ?_⟩
    rcases hlive with ⟨token', hget', hfree, hexp | ⟨c, x, hx, hjx⟩⟩ | ⟨c, token', hc⟩
    · cases hget.symm.trans hget'
      exact ⟨hexp, hfree, hkept⟩
    · -- A call has checked the token, and it has not expired since.
      exact ⟨sweepAlone_checked hok hinv hx hjx hget huser hfree, hfree, hkept⟩
    · exact absurd hc (sweepAlone_claimed (s := s) hok hinv hget huser)
  · obtain ⟨token', hget, huser, _⟩ := mem_pending.mp hj
    exact sweepAlone_claimed hok hinv hget huser hc

theorem covers {s : Tokens} {es : List (Time × TokenEvent)}
    (h : Run tokenStep (fun s e => sweepAlone s e = true) {} es s) :
    TokensInv s ∧ ∀ k r, s.revocations.get? k = some r → Covers s r := by
  refine h.invariant (fun s => TokensInv s ∧ ∀ k r, s.revocations.get? k = some r → Covers s r)
    ⟨TokensInv.start, nofun⟩ fun s e u hI hok hstep => ⟨hI.1.step hstep, fun k r hr => ?_⟩
  obtain ⟨hinv, hcovers⟩ := hI
  have hkeep : ∀ k r, s.revocations.get? k = some r → Covers u r :=
    fun k r hr => (hcovers k r hr).keep hinv hr hok hstep
  obtain ⟨hnow, hchange⟩ := tokenStep_cases hstep
  obtain ⟨now, ev⟩ := e
  simp only at hnow hchange
  cases hchange with
  | revoke user keep =>
    rcases Table.insert_cases hr with ⟨_, rfl⟩ | hr
    · exact Covers.of_revoke hinv hok
    · exact hkeep k r hr
  | finish hr' =>
    rename_i k' r'
    rcases (Table.updates_modify hr' _).cases hr with ⟨_, rfl⟩ | ⟨_, hr⟩
    · exact (hcovers k' r' hr').of_finish hnow
    · exact hkeep k r hr
  | _ => exact hkeep k r hr

/-- Every token is used once, in all runs.  A finished revocation ends all the
tokens that it was to end, in the runs in which no refresh is in its way. -/
theorem refresh_tokens_revoked (es : List (Time × TokenEvent)) (s : Tokens) :
    (Run tokenStep (fun _ _ => True) {} es s → SingleUse s) ∧
    (Run tokenStep (fun s e => sweepAlone s e = true) {} es s → RevokedRefused s) := by
  refine ⟨fun h => (single_use h).2, fun h k r hr hret j hj e u c hstep hg => ?_⟩
  obtain ⟨hinv, hcovers⟩ := covers h
  obtain ⟨hopen, _⟩ := (hcovers k r hr).stale j hj (hg.live hinv hstep)
  rw [hret] at hopen
  cases hopen

/-- The user 7 logs in, refreshes the token, and has all tokens revoked. -/
theorem refresh_tokens_revoked_alone :
    ∃ s, Run tokenStep (fun s e => sweepAlone s e = true) {}
        [(0, .login 7 50), (1, .present (.jwt 1)), (1, .advance 1 0), (1, .advance 1 0),
          (1, .advance 1 0), (1, .advance 1 60), (2, .revoke 7 none), (2, .finish 1)] s ∧
      s.calls.get? 1 = some (.returned 1 2) ∧ SingleUse s ∧ RevokedRefused s := by
  obtain ⟨s, hrun, hstate⟩ := Run.exists_of_execIf (by decide +kernel :
    (execIf tokenStep sweepAlone {}
      [(0, .login 7 50), (1, .present (.jwt 1)), (1, .advance 1 0), (1, .advance 1 0),
        (1, .advance 1 0), (1, .advance 1 60), (2, .revoke 7 none), (2, .finish 1)]).any
      (fun s => decide (s.calls.get? 1 = some (.returned 1 2))) = true)
  obtain ⟨hsingle, hrevoked⟩ := refresh_tokens_revoked _ s
  exact ⟨s, hrun, of_decide_eq_true hstate, hsingle (hrun.mono fun _ _ _ => trivial),
    hrevoked hrun⟩

/-- The refresh has claimed the token 1 when the revocation reads its list, and
registers the token 2 after it.  The token 2 is claimed by the next refresh. -/
theorem rotation_outlives_revocation :
    ∃ s, Run tokenStep (fun _ _ => True) {}
        [(0, .login 7 50), (1, .present (.jwt 1)), (1, .advance 1 0), (1, .advance 1 0),
          (1, .advance 1 0), (2, .revoke 7 none), (2, .finish 1), (3, .advance 1 60),
          (4, .present (.jwt 2)), (4, .advance 2 0), (4, .advance 2 0)] s ∧
      ¬ RevokedRefused s := by
  obtain ⟨s, hrun, hstate⟩ := Run.exists_of_execIf (by decide +kernel :
    (execIf tokenStep (fun _ _ => true) {}
      [(0, .login 7 50), (1, .present (.jwt 1)), (1, .advance 1 0), (1, .advance 1 0),
        (1, .advance 1 0), (2, .revoke 7 none), (2, .finish 1), (3, .advance 1 60),
        (4, .present (.jwt 2)), (4, .advance 2 0), (4, .advance 2 0)]).any
      (fun s => decide (
        s.revocations.get? 1 = some ⟨7, none, 2, [], true⟩ ∧
        s.db.outstanding.get? 2 = some ⟨7, 60, [1]⟩ ∧
        s.calls.get? 2 = some (.admitted 2 ⟨7, 60, [1]⟩) ∧
        (tokenStep s (5, .advance 2 0)).any fun u =>
          decide (u.calls.get? 2 = some (.claimed 2 ⟨7, 60, [1]⟩)))) = true)
  obtain ⟨hrevocation, htoken, hcall, hnext⟩ := of_decide_eq_true hstate
  obtain ⟨u, hu, hclaimed⟩ := (Option.any_eq_true _ _).mp hnext
  have hclaimed := of_decide_eq_true hclaimed
  refine ⟨s, hrun.mono fun _ _ _ => trivial, fun h => ?_⟩
  refine h 1 _ hrevocation rfl 2 ⟨_, htoken, rfl, 1, rfl, nofun⟩ (5, .advance 2 0) u 2 hu ?_
  refine ⟨?_, _, hclaimed, rfl⟩
  rw [hcall, hclaimed]
  nofun

end Shopping
