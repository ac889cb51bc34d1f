import Shopping.Lib.Pruned
import Shopping.System.PasswordResets

/-!
# The clean-up of reset tokens leaves no trace

`cleanup_expired_tokens` deletes rows while requests and confirmations go on.
A row that it deletes is used or expired, so no validation would accept its
token again, and none answers otherwise than with the row (`validate_same`).

`ClockedResets` is the desk with its clock, which does not go back, and with
the hashes of all tokens there were: a new UUID is new also when the row of an
old one is deleted.  `cleanups_leave_no_trace` compares a run with the run
without its clean-ups.
-/

namespace Shopping

open PasswordResetToken PasswordResetConfirmSerializer

namespace ResetEvent

/-- The UUID that an event makes. -/
def newToken : ResetEvent → Option String
  | .generate _ _ rawToken | .request _ rawToken => some rawToken
  | .mailed _ _ | .validate _ | .save _ | .cleanup _ | .accounts _ _ => none

def isCleanup : ResetEvent → Bool
  | .cleanup _ => true
  | .generate _ _ _ | .request _ _ | .mailed _ _ | .validate _ | .save _ | .accounts _ _ => false

end ResetEvent

/-- The desk, the last reading of its clock, and the hashes of the tokens so
far. -/
structure ClockedResets where
  now : Time := 0
  hashes : List String
  desk : ResetDesk

/-- No validation accepts the token of this row from `now` on. -/
def PasswordResetToken.Spent (timeout : Nat) (now : Time) (t : PasswordResetToken) : Prop :=
  t.isUsed = true ∨ t.createdAt + timeout < now

/-- The rows have different hashes, and these are known. -/
structure HashedOnce (hashes : List String) (tokens : Table PasswordResetToken) : Prop where
  known : ∀ k t h, tokens.get? k = some t → t.tokenHash = some h → h ∈ hashes
  unique : ∀ j k a b h, tokens.get? j = some a → tokens.get? k = some b →
    a.tokenHash = some h → b.tokenHash = some h → j = k

namespace ClockedResets

section

variable (lower : String → String) (validatePassword : String → User → Except (List String) Unit)
  (hashToken : String → String) (timeout : Nat)

def step (s : ClockedResets) (e : Time × ResetEvent) : Option ClockedResets :=
  (ResetDesk.step lower validatePassword hashToken timeout s.desk e).map fun desk =>
    { now := e.1, hashes := s.hashes ++ (e.2.newToken.map hashToken).toList, desk := desk }

end

/-- The clock does not go back, a new UUID is new, and a confirmation finds the
row of its token. -/
def undisturbed (hashToken : String → String) (s : ClockedResets) (e : Time × ResetEvent) : Bool :=
  decide (s.now ≤ e.1) && (e.2.newToken.all fun raw => decide (hashToken raw ∉ s.hashes)) &&
    match e.2 with
    | .save c => (s.desk.calls.get? c).all fun v => (s.desk.db.tokens.get? v.id).isSome
    | _ => true

/-- The desks differ in spent tokens that the first one deleted. -/
structure Cleaned (timeout : Nat) (s t : ClockedResets) : Prop where
  users : s.desk.db.users = t.desk.db.users
  emailLogs : s.desk.db.emailLogs = t.desk.db.emailLogs
  sessions : s.desk.db.sessions = t.desk.db.sessions
  calls : s.desk.calls = t.desk.calls
  hashes : s.hashes = t.hashes
  tokens : Table.Pruned (Spent timeout s.now) s.desk.db.tokens t.desk.db.tokens
  hashed : HashedOnce t.hashes t.desk.db.tokens

end ClockedResets

section

variable {lower : String → String} {validatePassword : String → User → Except (List String) Unit}
  {hashToken : String → String} {timeout : Nat} {hashes : List String}
  {tokens : Table PasswordResetToken} {db : ResetDb} {now : Time}

theorem HashedOnce.mapRows (h : HashedOnce hashes tokens)
    {f : Nat → PasswordResetToken → PasswordResetToken}
    (hf : ∀ k t, (f k t).tokenHash = t.tokenHash) : HashedOnce hashes (tokens.mapRows f) := by
  refine ⟨fun k t hash ht hhash => ?_, fun j k a b hash ha hb hahash hbhash => ?_⟩
  · rw [Table.get?_mapRows, Option.map_eq_some_iff] at ht
    obtain ⟨t, ht, rfl⟩ := ht
    exact h.known k t hash ht (by rw [← hf k, hhash])
  · rw [Table.get?_mapRows, Option.map_eq_some_iff] at ha hb
    obtain ⟨a, ha, rfl⟩ := ha
    obtain ⟨b, hb, rfl⟩ := hb
    exact h.unique j k a b hash ha hb (by rw [← hf j, hahash]) (by rw [← hf k, hbhash])

theorem HashedOnce.insert (h : HashedOnce hashes tokens) {row : PasswordResetToken} {hash : String}
    (hrow : row.tokenHash = some hash) (hnew' : hash ∉ hashes) :
    HashedOnce (hashes ++ [hash]) (tokens.insert row) := by
  refine ⟨fun k t other ht hother => ?_, fun j k a b other ha hb hahash hbhash => ?_⟩
  · rcases Table.insert_cases ht with ⟨_, rfl⟩ | ht
    · cases hrow.symm.trans hother
      exact List.mem_append_right _ List.mem_cons_self
    · exact List.mem_append_left _ (h.known k t other ht hother)
  · rcases Table.insert_cases ha with ⟨hj, hnew⟩ | hold
    · rcases Table.insert_cases hb with ⟨hk, _⟩ | hold'
      · rw [hj, hk]
      · rw [hnew, hrow] at hahash
        cases hahash
        exact absurd (h.known k b hash hold' hbhash) hnew'
    · rcases Table.insert_cases hb with ⟨hk, hnew⟩ | hold'
      · rw [hnew, hrow] at hbhash
        cases hbhash
        exact absurd (h.known j a hash hold hahash) hnew'
      · exact h.unique j k a b other hold hold' hahash hbhash

theorem HashedOnce.new (h : HashedOnce hashes tokens) {hash : String} (hnew : hash ∉ hashes) :
    tokens.any (fun _ t => decide (t.tokenHash = some hash)) = false := by
  refine Table.any_eq_false.mpr fun k t ht => decide_eq_false fun hhash => ?_
  exact hnew (h.known k t hash ht hhash)

namespace PasswordResetToken

/-- The rows when a new token comes. -/
def preparedTokens (tokens : Table PasswordResetToken) (now : Time) (user : UserId)
    (invalidatePrevious : Bool) : Table PasswordResetToken :=
  if invalidatePrevious then
    tokens.mapRows fun _ t =>
      if t.user = user ∧ t.isUsed = false then { t with isUsed := true, usedAt := some now } else t
  else tokens

theorem generateToken_new {user : UserId} {invalidatePrevious : Bool} {raw : String}
    (hnew : db.tokens.any (fun _ t => decide (t.tokenHash = some (hashToken raw))) = false) :
    generateToken hashToken db now user invalidatePrevious raw = .ok (raw, { db with
      tokens := (preparedTokens db.tokens now user invalidatePrevious).insert
        { user := user, tokenHash := some (hashToken raw), createdAt := now } }) := by
  have hprepared : (if invalidatePrevious then (invalidatePreviousTokens db now user).2 else db)
      = { db with tokens := preparedTokens db.tokens now user invalidatePrevious } := by
    cases invalidatePrevious with
    | true => rfl
    | false => rfl
  have hfree : (preparedTokens db.tokens now user invalidatePrevious).any
      (fun _ t => decide (t.tokenHash = some (hashToken raw))) = false := by
    unfold preparedTokens
    split
    · rw [Table.any_mapRows, ← hnew]
      congr 1
      funext k t
      split
      · rfl
      · rfl
    · exact hnew
  unfold generateToken
  dsimp only
  rw [hprepared, create]
  dsimp only
  rw [hfree]
  rfl

theorem verifyToken_eq (user : UserId) (raw : String) :
    verifyToken hashToken timeout db now user raw
      = (db.tokens.find? fun _ t => decide (t.user = user) &&
          decide (t.tokenHash = some (hashToken raw)) && !t.isUsed).filter
            fun q => !q.2.isExpired timeout now := by
  unfold verifyToken
  split
  · rename_i hnone
    rw [hnone]
    rfl
  · rename_i id t hsome
    rw [hsome, Option.filter_some]
    cases t.isExpired timeout now with
    | true => rfl
    | false => rfl

theorem Spent.later {row : PasswordResetToken} {later : Time} (h : Spent timeout now row)
    (hle : now ≤ later) : Spent timeout later row :=
  h.imp_right fun hlt => Nat.lt_of_lt_of_le hlt hle

/-- The clean-up deletes spent rows. -/
theorem cleanupExpiredTokens_pruned (h : Table.Pruned (Spent timeout now) db.tokens tokens)
    (usedDays : Nat) :
    Table.Pruned (Spent timeout now) (cleanupExpiredTokens timeout db now usedDays).tokens
      tokens := by
  unfold cleanupExpiredTokens
  dsimp only
  refine h.delete fun k row hp => ?_
  simp only [Bool.or_eq_true, Bool.and_eq_true, decide_eq_true_eq] at hp
  rcases hp with ⟨_, hexpired⟩ | ⟨hused, _⟩
  · exact Or.inr hexpired
  · exact Or.inl hused

end PasswordResetToken

namespace PasswordResetConfirmSerializer

/-- What a confirmation writes when it finds the row of its token. -/
theorem save_found {v : Validated} {row : PasswordResetToken}
    (h : db.tokens.get? v.id = some row) :
    save db now v = .ok
      { users := (PasswordResetService.savePassword db now v.user v.row v.newPassword).users
        tokens := db.tokens.modify v.id fun t => { t with isUsed := true, usedAt := some now }
        emailLogs := (PasswordResetService.verifyLogs db now v.user v.token).emailLogs
        sessions := (PasswordResetService.revokeAll db now v.user).sessions } := by
  unfold save PasswordResetService.confirmPasswordReset markAsUsed
  dsimp only [PasswordResetService.savePassword]
  rw [h]
  rfl

end PasswordResetConfirmSerializer

namespace ClockedResets

variable {s s' t : ClockedResets} {e : Time × ResetEvent}

theorem Cleaned.start (hdb : HashedOnce hashes db.tokens) :
    Cleaned timeout { hashes := hashes, desk := { db := db } }
      { hashes := hashes, desk := { db := db } } :=
  ⟨rfl, rfl, rfl, rfl, rfl, .refl _ _, hdb⟩

theorem Cleaned.verifyToken_same (h : Cleaned timeout s t) (hnow : s.now ≤ now) (user : UserId)
    (raw : String) : verifyToken hashToken timeout s.desk.db now user raw
      = verifyToken hashToken timeout t.desk.db now user raw := by
  rw [verifyToken_eq, verifyToken_eq]
  refine h.tokens.find?_filter (fun j k a b ha hb hpa hpb => ?_) fun k row hspent hp => ?_
  · simp only [Bool.and_eq_true, decide_eq_true_eq] at hpa hpb
    exact h.hashed.unique j k a b _ ha hb hpa.1.2 hpb.1.2
  · simp only [Bool.and_eq_true, Bool.not_eq_true'] at hp
    rcases hspent with hused | hexpired
    · rw [hp.2] at hused
      cases hused
    · simpa [isExpired] using Nat.lt_of_lt_of_le hexpired hnow

/-- A confirmation is judged the same, with the same error. -/
theorem Cleaned.validate_same (h : Cleaned timeout s t) (hnow : s.now ≤ now) (data : ConfirmData) :
    validate lower validatePassword hashToken timeout s.desk.db now data
      = validate lower validatePassword hashToken timeout t.desk.db now data := by
  have hverify : ∀ u, verifyToken hashToken timeout s.desk.db now u data.token
      = verifyToken hashToken timeout t.desk.db now u data.token := fun u =>
    h.verifyToken_same hnow u data.token
  unfold validate
  simp only [h.users, hverify]

theorem spent_mapRows {f : Nat → PasswordResetToken → PasswordResetToken}
    (hused : ∀ k row, row.isUsed = true → (f k row).isUsed = true)
    (hcreated : ∀ k row, (f k row).createdAt = row.createdAt) (k : Nat) (row : PasswordResetToken)
    (h : Spent timeout now row) : Spent timeout now (f k row) := by
  rcases h with h | h
  · exact Or.inl (hused k row h)
  · exact Or.inr (by rwa [hcreated])

/-- The rows after a new token. -/
theorem Cleaned.generated (h : Cleaned timeout s t) (hnow : s.now ≤ now) (user : UserId)
    (invalidatePrevious : Bool) (row : PasswordResetToken) {hash : String}
    (hrow : row.tokenHash = some hash) (hnew : hash ∉ s.hashes) :
    Table.Pruned (Spent timeout now)
        ((preparedTokens s.desk.db.tokens now user invalidatePrevious).insert row)
        ((preparedTokens t.desk.db.tokens now user invalidatePrevious).insert row) ∧
      HashedOnce (t.hashes ++ [hash])
        ((preparedTokens t.desk.db.tokens now user invalidatePrevious).insert row) := by
  have htokens : Table.Pruned (Spent timeout now) s.desk.db.tokens t.desk.db.tokens :=
    h.tokens.mono fun _ hspent => hspent.later hnow
  rw [h.hashes] at hnew
  unfold preparedTokens
  cases invalidatePrevious with
  | false => exact ⟨htokens.insert row, h.hashed.insert hrow hnew⟩
  | true =>
    simp only [if_true]
    refine ⟨(htokens.mapRows (spent_mapRows ?_ ?_)).insert row,
      (h.hashed.mapRows ?_).insert hrow hnew⟩
    · intro k r hused
      split
      · rfl
      · exact hused
    · intro k r
      split
      · rfl
      · rfl
    · intro k r
      split
      · rfl
      · rfl

/-- An event that comes without a new token, and leaves the rows alone. -/
theorem Cleaned.quiet (h : Cleaned timeout s t) (hnow : s.now ≤ now) {a b : ResetDesk}
    (husers : a.db.users = b.db.users) (hlogs : a.db.emailLogs = b.db.emailLogs)
    (hsessions : a.db.sessions = b.db.sessions) (hcalls : a.calls = b.calls)
    (htokens : a.db.tokens = s.desk.db.tokens) (htokens' : b.db.tokens = t.desk.db.tokens) :
    Cleaned timeout { now := now, hashes := s.hashes ++ [], desk := a }
      { now := now, hashes := t.hashes ++ [], desk := b } := by
  refine ⟨husers, hlogs, hsessions, hcalls, congrArg (· ++ []) h.hashes, ?_, ?_⟩
  · rw [htokens, htokens']
    exact h.tokens.mono fun _ hspent => hspent.later hnow
  · rw [htokens', List.append_nil]
    exact h.hashed

/-- The row of a token is used. -/
theorem Cleaned.marked (h : Cleaned timeout s t) (hnow : s.now ≤ now) (id : Nat) :
    let mark := fun r : PasswordResetToken => { r with isUsed := true, usedAt := some now }
    Table.Pruned (Spent timeout now) (s.desk.db.tokens.modify id mark)
        (t.desk.db.tokens.modify id mark) ∧
      HashedOnce t.hashes (t.desk.db.tokens.modify id mark) := by
  have htokens : Table.Pruned (Spent timeout now) s.desk.db.tokens t.desk.db.tokens :=
    h.tokens.mono fun _ hspent => hspent.later hnow
  refine ⟨htokens.mapRows (spent_mapRows ?_ ?_), h.hashed.mapRows ?_⟩
  · intro k r hused
    split
    · rfl
    · exact hused
  · intro k r
    split
    · rfl
    · rfl
  · intro k r
    split
    · rfl
    · rfl

/-- Every event but the clean-up does the same on both desks. -/
theorem Cleaned.step (h : Cleaned timeout s t) (hok : undisturbed hashToken s e = true)
    (hs : step lower validatePassword hashToken timeout s e = some s')
    (hcleanup : e.2.isCleanup = false) :
    ∃ t', step lower validatePassword hashToken timeout t e = some t' ∧ Cleaned timeout s' t' := by
  obtain ⟨now, event⟩ := e
  unfold undisturbed at hok
  simp only [Bool.and_eq_true, decide_eq_true_eq] at hok
  obtain ⟨⟨hnow, hnew⟩, hfound⟩ := hok
  obtain ⟨desk, hdesk, rfl⟩ := Option.map_eq_some_iff.mp hs
  unfold ClockedResets.step
  cases event with
  | generate user invalidatePrevious raw =>
    have hfresh : hashToken raw ∉ s.hashes := by simpa [ResetEvent.newToken] using hnew
    have hfresh' : hashToken raw ∉ t.hashes := by rwa [← h.hashes]
    obtain ⟨hpruned, hhashed⟩ := h.generated hnow user invalidatePrevious
      { user := user, tokenHash := some (hashToken raw), createdAt := now } rfl hfresh
    dsimp only [ResetDesk.step] at hdesk ⊢
    rw [generateToken_new (h.hashed.new hfresh')]
    rw [generateToken_new (h.tokens.any (h.hashed.new hfresh'))] at hdesk
    cases hdesk
    exact ⟨_, rfl, h.users, h.emailLogs, h.sessions, h.calls,
      congrArg (· ++ [hashToken raw]) h.hashes, hpruned, hhashed⟩
  | request user raw =>
    have hfresh : hashToken raw ∉ s.hashes := by simpa [ResetEvent.newToken] using hnew
    have hfresh' : hashToken raw ∉ t.hashes := by rwa [← h.hashes]
    obtain ⟨hpruned, hhashed⟩ := h.generated hnow user true
      { user := user, tokenHash := some (hashToken raw), createdAt := now } rfl hfresh
    dsimp only [ResetDesk.step] at hdesk ⊢
    rw [← h.users]
    split at hdesk
    · cases hdesk
    · unfold PasswordResetService.requestPasswordReset at hdesk ⊢
      rw [generateToken_new (h.hashed.new hfresh')]
      rw [generateToken_new (h.tokens.any (h.hashed.new hfresh'))] at hdesk
      cases hdesk
      exact ⟨_, rfl, h.users, congrArg (Table.insert · _) h.emailLogs, h.sessions, h.calls,
        congrArg (· ++ [hashToken raw]) h.hashes, hpruned, hhashed⟩
  | mailed user row =>
    cases hdesk
    exact ⟨_, rfl, h.quiet hnow h.users (congrArg (Table.insert · _) h.emailLogs) h.sessions
      h.calls rfl rfl⟩
  | validate data =>
    dsimp only [ResetDesk.step] at hdesk ⊢
    rw [← h.validate_same hnow]
    split at hdesk
    · cases hdesk
      exact ⟨_, rfl, h.quiet hnow h.users h.emailLogs h.sessions h.calls rfl rfl⟩
    · rename_i v hv
      cases hdesk
      exact ⟨_, rfl, h.quiet hnow h.users h.emailLogs h.sessions
        (congrArg (Table.insert · v) h.calls) rfl rfl⟩
  | save c =>
    dsimp only [ResetDesk.step] at hdesk hfound ⊢
    rw [← h.calls]
    cases hv : s.desk.calls.get? c with
    | none =>
      rw [hv] at hdesk
      cases hdesk
    | some v =>
      rw [hv, Option.all_some] at hfound
      obtain ⟨row, hrow⟩ := Option.isSome_iff_exists.mp hfound
      rw [hv] at hdesk
      simp only [save_found hrow] at hdesk
      simp only [save_found (h.tokens.kept _ _ hrow)]
      cases hdesk
      obtain ⟨hpruned, hhashed⟩ := h.marked hnow v.id
      refine ⟨_, rfl, ?_, ?_, ?_, ?_, congrArg (· ++ []) h.hashes, hpruned, ?_⟩
      · simp [PasswordResetService.savePassword, h.users]
      · simp [PasswordResetService.verifyLogs, h.emailLogs]
      · simp [PasswordResetService.revokeAll, h.sessions]
      · simp [ResetDesk.closeCall, h.calls]
      · simpa [ResetEvent.newToken] using hhashed
  | cleanup usedDays => cases hcleanup
  | accounts f sessions =>
    cases hdesk
    exact ⟨_, rfl, h.quiet hnow (congrArg (Table.mapRows · _) h.users) h.emailLogs rfl h.calls
      rfl rfl⟩

theorem Cleaned.cleanup (h : Cleaned timeout s t) (hok : undisturbed hashToken s e = true)
    (hs : ClockedResets.step lower validatePassword hashToken timeout s e = some s')
    (hcleanup : e.2.isCleanup = true) : Cleaned timeout s' t := by
  obtain ⟨now, event⟩ := e
  unfold undisturbed at hok
  simp only [Bool.and_eq_true, decide_eq_true_eq] at hok
  obtain ⟨⟨hnow, -⟩, -⟩ := hok
  cases event with
  | cleanup usedDays =>
    cases hs
    refine ⟨h.users, h.emailLogs, h.sessions, h.calls, ?_, ?_, h.hashed⟩
    · simpa [ResetEvent.newToken] using h.hashes
    · have htokens : Table.Pruned (Spent timeout now) s.desk.db.tokens t.desk.db.tokens :=
        h.tokens.mono fun _ hspent => hspent.later hnow
      exact cleanupExpiredTokens_pruned htokens usedDays
  | _ => cases hcleanup

end ClockedResets

open ClockedResets

/-- The clean-ups leave no trace: in every run in which the clock does not go back, new UUIDs
are new, and each confirmation still finds the row of its token, the run without its clean-ups
accepts and refuses the same confirmations, and leaves the same accounts, sessions and logs.
Whatever is validated next gets the same answer after both, with the same error. -/
theorem cleanups_leave_no_trace {es : List (Time × ResetEvent)} {s : ClockedResets}
    (hdb : HashedOnce hashes db.tokens)
    (h : Run (ClockedResets.step lower validatePassword hashToken timeout)
      (fun s e => undisturbed hashToken s e = true) { hashes := hashes, desk := { db := db } }
      es s) :
    ∃ t, exec (ClockedResets.step lower validatePassword hashToken timeout)
        { hashes := hashes, desk := { db := db } } (es.filter fun e => !e.2.isCleanup) = some t ∧
      s.desk.calls = t.desk.calls ∧ s.desk.db.users = t.desk.db.users ∧
      s.desk.db.sessions = t.desk.db.sessions ∧ s.desk.db.emailLogs = t.desk.db.emailLogs ∧
      ∀ now data, s.now ≤ now →
        validate lower validatePassword hashToken timeout s.desk.db now data
          = validate lower validatePassword hashToken timeout t.desk.db now data := by
  have hother : ∀ s e u t, Cleaned timeout s t → undisturbed hashToken s e = true →
      ClockedResets.step lower validatePassword hashToken timeout s e = some u →
      (!e.2.isCleanup) = false → Cleaned timeout u t := fun s e u t hsame hok hs hown =>
    hsame.cleanup hok hs (by simpa using hown)
  have hown : ∀ s e u t, Cleaned timeout s t → undisturbed hashToken s e = true →
      ClockedResets.step lower validatePassword hashToken timeout s e = some u →
      (!e.2.isCleanup) = true → ∃ u', ClockedResets.step lower validatePassword hashToken timeout
        t e = some u' ∧ Cleaned timeout u u' := fun s e u t hsame hok hs hown =>
    hsame.step hok hs (by simpa using hown)
  obtain ⟨t, ht, hsame⟩ :=
    h.erase (fun e => !e.2.isCleanup) (Cleaned timeout) (.start hdb) hother hown
  exact ⟨t, ht, hsame.calls, hsame.users, hsame.sessions, hsame.emailLogs,
    fun _ data hnow => hsame.validate_same hnow data⟩

end

/-- The steps of the shop. -/
def clockedResetStep : ClockedResets → Time × ResetEvent → Option ClockedResets :=
  ClockedResets.step (fun email => email) (fun _ _ => .ok ()) digestOf 86400

/-- The used token is deleted the next minute, and the expired one a day later. -/
def cleanedUp : List (Time × ResetEvent) :=
  [(0, .request 1 firstUuid), (60, .validate (confirmFirst "NewPass123!")), (61, .save 1),
    (70, .cleanup 0), (80, .validate (confirmFirst "TwoPass123!")), (90, .request 1 secondUuid),
    (90000, .cleanup 0)]

theorem cleanups_leave_no_trace_kim : ∃ s t : ClockedResets,
    exec clockedResetStep { hashes := [], desk := { db := kimAlone } }
      (cleanedUp.filter fun e => !e.2.isCleanup) = some t ∧
    s.desk.db.tokens.rows = [] ∧ t.desk.db.tokens.rows.length = 2 ∧
    (s.desk.db.users.get? 1).map User.password = some (.hashed "NewPass123!") ∧
    s.desk.db.users = t.desk.db.users := by
  obtain ⟨s, hrun, hstate⟩ := Run.exists_of_execIf (by decide +kernel :
    (execIf clockedResetStep (ClockedResets.undisturbed digestOf)
      { hashes := [], desk := { db := kimAlone } } cleanedUp).any (fun s =>
        decide (s.desk.db.tokens.rows = [] ∧
          (s.desk.db.users.get? 1).map User.password = some (.hashed "NewPass123!"))) = true)
  have hempty : HashedOnce [] kimAlone.tokens := by
    constructor
    · intro k t h ht
      cases (Table.get?_empty k).symm.trans ht
    · intro j k a b h ha
      cases (Table.get?_empty j).symm.trans ha
  obtain ⟨t, ht, _, husers, _, _⟩ := cleanups_leave_no_trace hempty hrun
  obtain ⟨hnone, hpassword⟩ := of_decide_eq_true hstate
  have hrows : (exec clockedResetStep { hashes := [], desk := { db := kimAlone } }
      (cleanedUp.filter fun e => !e.2.isCleanup)).all
        (fun t => decide (t.desk.db.tokens.rows.length = 2)) = true := by decide +kernel
  rw [show exec clockedResetStep { hashes := [], desk := { db := kimAlone } }
    (cleanedUp.filter fun e => !e.2.isCleanup) = some t from ht, Option.all_some] at hrows
  exact ⟨s, t, ht, hnone, of_decide_eq_true hrows, hpassword, husers⟩

/-- A confirmation that is accepted in time and saved after the clean-up fails. -/
example : ((exec clockedResetStep { hashes := [], desk := { db := kimAlone } }
      [(0, .request 1 firstUuid), (86400, .validate (confirmFirst "NewPass123!")),
        (86401, .cleanup 30), (86402, .save 1)]).bind fun s =>
    (s.desk.db.users.get? 1).map User.password) = some (.hashed "OldPass123!") := by
  decide +kernel

end Shopping
