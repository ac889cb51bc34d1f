import Shopping.Lib.Run
import Shopping.Users.PasswordReset

/-!
# Password resets that overlap

A confirmation verifies its token in the validation of the request, and
changes the password later, in a transaction of its own.  It carries the token
object from one to the other and marks the row as used whatever the row says by
then.  A transaction that changes a password holds the row of the user, and one
that invalidates tokens holds their rows, so each of them is one step here.

`history` is what became of the tokens, in order: `generate_token` invalidated
one, or a confirmation changed a password with one.  The code does not read it.
A token is used at most once and never after its invalidation in exactly the
runs in which the row of a token is still unused when its confirmation commits
(`reset_tokens_work_once_iff`).
-/

namespace Shopping

open PasswordResetToken PasswordResetConfirmSerializer

/-- What becomes of a token. -/
inductive TokenMark where
  | invalidated (id : Nat)
  | changed (id : Nat)
  deriving DecidableEq, Repr

namespace TokenMark

def token : TokenMark → Nat
  | invalidated id => id
  | changed id => id

end TokenMark

/-- The tables, and the confirmations between their validation and their
`save`. -/
structure ResetDesk where
  db : ResetDb
  calls : Table Validated := Table.empty
  history : List TokenMark := []

inductive ResetEvent where
  /-- `generate_token`, by its arguments and the new UUID. -/
  | generate (user : UserId) (invalidatePrevious : Bool) (rawToken : String)
  /-- `request_password_reset`. -/
  | request (user : UserId) (rawToken : String)
  /-- The mail of a request went out. -/
  | mailed (user : UserId) (row : User)
  /-- The validation of a confirmation. -/
  | validate (data : ConfirmData)
  /-- The `save` of a validated confirmation. -/
  | save (c : Nat)
  /-- `cleanup_expired_tokens`. -/
  | cleanup (usedDays : Nat)
  /-- What else happens to the accounts and their sessions. -/
  | accounts (f : UserId → User → User) (sessions : TokenDb)

namespace ResetDesk

/-- The marks of an invalidation. -/
def invalidations (db : ResetDb) (user : UserId) : List TokenMark :=
  (unusedOf db user).map .invalidated

def closeCall (s : ResetDesk) (c : Nat) : ResetDesk :=
  { s with calls := s.calls.delete fun k _ => decide (k = c) }

section

variable (lower : String → String) (validatePassword : String → User → Except (List String) Unit)
  (hashToken : String → String) (timeout : Nat)

/-- One event, at the clock reading `e.1`.  A call that raises is rolled
back. -/
def step (s : ResetDesk) (e : Time × ResetEvent) : Option ResetDesk :=
  match e.2 with
  | .generate user invalidatePrevious rawToken =>
    match generateToken hashToken s.db e.1 user invalidatePrevious rawToken with
    | .error _ => some s
    | .ok out =>
      some { s with
        db := out.2
        history := s.history ++ if invalidatePrevious then invalidations s.db user else [] }
  | .request user rawToken =>
    match s.db.users.get? user with
    | none => none
    | some row =>
      match PasswordResetService.requestPasswordReset hashToken s.db e.1 user row rawToken with
      | .error _ => some s
      | .ok db => some { s with db := db, history := s.history ++ invalidations s.db user }
  | .mailed user row => some { s with db := PasswordResetService.logSent s.db e.1 user row }
  | .validate data =>
    match validate lower validatePassword hashToken timeout s.db e.1 data with
    | .error _ => some s
    | .ok v => some { s with calls := s.calls.insert v }
  | .save c =>
    match s.calls.get? c with
    | none => none
    | some v =>
      match PasswordResetConfirmSerializer.save s.db e.1 v with
      | .error _ => some (s.closeCall c)
      | .ok db => some { s.closeCall c with db := db, history := s.history ++ [.changed v.id] }
  | .cleanup usedDays => some { s with db := cleanupExpiredTokens timeout s.db e.1 usedDays }
  | .accounts f sessions =>
    some { s with db := { s.db with users := s.db.users.mapRows f, sessions := sessions } }

end

/-- When a confirmation commits, the row of its token is not used.  (Without
the row, the commit fails.) -/
def stillUnused (s : ResetDesk) (e : Time × ResetEvent) : Bool :=
  match e.2 with
  | .save c => (s.calls.get? c).all fun v => (s.db.tokens.get? v.id).all fun t => !t.isUsed
  | _ => true

/-! ## What one event does -/

section

variable {lower : String → String} {validatePassword : String → User → Except (List String) Unit}
  {hashToken : String → String} {timeout : Nat} {s s' : ResetDesk}

/-- What an event does to the tokens, the open calls and the history. -/
inductive Change (s : ResetDesk) (e : Time × ResetEvent) (s' : ResetDesk) : Prop
  | quiet (htokens : s'.db.tokens = s.db.tokens)
      (hcalls : ∀ c v, s'.calls.get? c = some v → s.calls.get? c = some v)
      (hhistory : s'.history = s.history)
  | created (row : PasswordResetToken) (hrow : row.isUsed = false)
      (htokens : s'.db.tokens = s.db.tokens.insert row) (hcalls : s'.calls = s.calls)
      (hhistory : s'.history = s.history)
  | replaced (user : UserId) (row : PasswordResetToken) (hrow : row.isUsed = false)
      (htokens : s'.db.tokens = (invalidatePreviousTokens s.db e.1 user).2.tokens.insert row)
      (hcalls : s'.calls = s.calls) (hhistory : s'.history = s.history ++ invalidations s.db user)
  | opened (v : Validated) (hv : s.db.tokens.get? v.id = some v.token)
      (hunused : v.token.isUsed = false) (htokens : s'.db.tokens = s.db.tokens)
      (hcalls : s'.calls = s.calls.insert v) (hhistory : s'.history = s.history)
  | changed (c : Nat) (v : Validated) (t : PasswordResetToken) (he : e.2 = .save c)
      (hv : s.calls.get? c = some v) (ht : s.db.tokens.get? v.id = some t)
      (htokens : s'.db.tokens = s.db.tokens.modify v.id fun t =>
        { t with isUsed := true, usedAt := some e.1 })
      (hcalls : ∀ c v, s'.calls.get? c = some v → s.calls.get? c = some v)
      (hhistory : s'.history = s.history ++ [.changed v.id])
  | deleted (hnext : s'.db.tokens.next = s.db.tokens.next)
      (htokens : ∀ k t, s'.db.tokens.get? k = some t → s.db.tokens.get? k = some t)
      (hcalls : s'.calls = s.calls) (hhistory : s'.history = s.history)

theorem get?_closeCall {c c' : Nat} {v : Validated}
    (h : (s.closeCall c).calls.get? c' = some v) : s.calls.get? c' = some v :=
  Table.of_get?_delete h

theorem step_cases {e : Time × ResetEvent}
    (h : step lower validatePassword hashToken timeout s e = some s') : Change s e s' := by
  have hsame : Change s e s := .quiet rfl (fun _ _ hv => hv) rfl
  obtain ⟨now, event⟩ := e
  cases event with
  | generate user invalidatePrevious rawToken =>
    dsimp only [step] at h
    split at h
    · cases h
      exact hsame
    · rename_i out hout
      cases h
      obtain ⟨_, row, hrow, hdb⟩ := generateToken_ok hout
      cases invalidatePrevious with
      | true =>
        rw [if_pos rfl] at hdb
        exact .replaced user row hrow (by rw [hdb]) rfl rfl
      | false =>
        rw [if_neg Bool.false_ne_true] at hdb
        refine .created row hrow (by rw [hdb]) rfl ?_
        dsimp only
        rw [if_neg Bool.false_ne_true, List.append_nil]
  | request user rawToken =>
    dsimp only [step] at h
    split at h
    · cases h
    · split at h
      · cases h
        exact hsame
      · rename_i db hrequest
        cases h
        obtain ⟨row, hrow, hdb⟩ := PasswordResetService.requestPasswordReset_ok hrequest
        exact .replaced user row hrow hdb rfl rfl
  | mailed user row =>
    cases h
    exact .quiet rfl (fun _ _ hv => hv) rfl
  | validate data =>
    dsimp only [step] at h
    split at h
    · cases h
      exact hsame
    · rename_i v hv
      cases h
      obtain ⟨_, _, hverify⟩ := validate_ok hv
      obtain ⟨hget, _, _, hunused, _⟩ := verifyToken_some hverify
      exact .opened v hget hunused rfl rfl rfl
  | save c =>
    dsimp only [step] at h
    split at h
    · cases h
    · rename_i v hv
      rcases save_cases s.db now v with ⟨_, herror⟩ | ⟨t, db, ht, hok, _, htokens⟩
      · rw [herror] at h
        cases h
        exact .quiet rfl (fun _ _ => get?_closeCall) rfl
      · rw [hok] at h
        cases h
        exact .changed c v t rfl hv ht htokens (fun _ _ => get?_closeCall) rfl
  | cleanup usedDays =>
    cases h
    exact .deleted rfl (fun k t ht => Table.of_get?_delete ht) rfl rfl
  | accounts f sessions =>
    cases h
    exact .quiet rfl (fun _ _ hv => hv) rfl

/-- A confirmation changes the password as long as the row is there. -/
theorem step_save {now : Time} {c : Nat} {v : Validated} {t : PasswordResetToken}
    (hv : s.calls.get? c = some v) (ht : s.db.tokens.get? v.id = some t)
    (h : step lower validatePassword hashToken timeout s (now, .save c) = some s') :
    s'.history = s.history ++ [.changed v.id] ∧
      (s'.db.users.get? v.user).map User.password
        = (s.db.users.get? v.user).map fun _ => .hashed v.newPassword := by
  obtain ⟨db, hok⟩ : ∃ db, PasswordResetConfirmSerializer.save s.db now v = .ok db := by
    rcases save_cases s.db now v with ⟨hnone, _⟩ | ⟨_, db, _, hok, _, _⟩
    · rw [ht] at hnone
      cases hnone
    · exact ⟨db, hok⟩
  have hnext : s' = { s.closeCall c with db := db, history := s.history ++ [.changed v.id] } := by
    unfold step at h
    simp only [hv, hok, Option.some.injEq] at h
    exact h.symm
  rw [hnext]
  refine ⟨rfl, ?_⟩
  rw [save_password hok, if_pos rfl]

/-! ## The invariant -/

/-- A token in the history is not an unused row.  An open call has a token that
was unused, so when it is used now the history says by what. -/
structure Marked (s : ResetDesk) : Prop where
  known : ∀ m ∈ s.history, m.token < s.db.tokens.next
  spent : ∀ m ∈ s.history, ∀ t, s.db.tokens.get? m.token = some t → t.isUsed = true
  opened : ∀ c v, s.calls.get? c = some v → ∀ t, s.db.tokens.get? v.id = some t →
    t.isUsed = true → ∃ m ∈ s.history, m.token = v.id
  bound : ∀ c v, s.calls.get? c = some v → v.id < s.db.tokens.next

theorem Marked.start (db : ResetDb) : Marked { db := db } := by
  refine ⟨nofun, nofun, fun c v hv => ?_, fun c v hv => ?_⟩
  · rw [Table.get?_empty] at hv
    cases hv
  · rw [Table.get?_empty] at hv
    cases hv

/-- The marks of an invalidation are on rows that it uses. -/
theorem mem_invalidations {db : ResetDb} {user : UserId} {m : TokenMark} :
    m ∈ invalidations db user ↔ ∃ k ∈ unusedOf db user, m = .invalidated k := by
  unfold invalidations
  rw [List.mem_map]
  exact exists_congr fun k => and_congr_right fun _ => eq_comm

/-- An unused row under the next key. -/
theorem Marked.insert (h : Marked s) {db : ResetDb} {row : PasswordResetToken}
    (hrow : row.isUsed = false) (htokens : db.tokens = s.db.tokens.insert row) :
    Marked { s with db := db } := by
  refine ⟨fun m hm => ?_, fun m hm t ht => ?_, fun c v hv t ht hused => ?_, fun c v hv => ?_⟩
  · dsimp only
    rw [htokens]
    exact Nat.lt_succ_of_lt (h.known m hm)
  · dsimp only at ht
    rw [htokens] at ht
    rcases Table.insert_cases ht with ⟨hnext, _⟩ | ht
    · exact absurd hnext (h.known m hm).ne
    · exact h.spent m hm t ht
  · dsimp only at ht
    rw [htokens] at ht
    rcases Table.insert_cases ht with ⟨_, rfl⟩ | ht
    · rw [hrow] at hused
      cases hused
    · exact h.opened c v hv t ht hused
  · dsimp only
    rw [htokens]
    exact Nat.lt_succ_of_lt (h.bound c v hv)

/-- The unused rows of a user are used, and marked. -/
theorem Marked.invalidate (h : Marked s) (now : Time) (user : UserId) :
    Marked { s with
      db := (invalidatePreviousTokens s.db now user).2
      history := s.history ++ invalidations s.db user } := by
  refine ⟨fun m hm => ?_, fun m hm t ht => ?_, fun c v hv t ht hused => ?_, h.bound⟩
  · rcases List.mem_append.mp hm with hm | hm
    · exact h.known m hm
    · obtain ⟨k, hk, rfl⟩ := mem_invalidations.mp hm
      obtain ⟨t, ht, _⟩ := mem_unusedOf.mp hk
      show k < s.db.tokens.next
      exact Table.lt_next ht
  · obtain ⟨before, hbefore, hiff⟩ := invalidatePreviousTokens_used ht
    rw [hiff]
    rcases List.mem_append.mp hm with hm | hm
    · exact Or.inr (h.spent m hm before hbefore)
    · obtain ⟨k, hk, rfl⟩ := mem_invalidations.mp hm
      exact Or.inl hk
  · obtain ⟨before, hbefore, hiff⟩ := invalidatePreviousTokens_used ht
    rcases hiff.mp hused with hk | hused
    · exact ⟨_, List.mem_append_right _ (mem_invalidations.mpr ⟨v.id, hk, rfl⟩), rfl⟩
    · obtain ⟨m, hm, htoken⟩ := h.opened c v hv before hbefore hused
      exact ⟨m, List.mem_append_left _ hm, htoken⟩

/-- The row of a token is used, and marked. -/
theorem Marked.change (h : Marked s) {id : Nat} {t : PasswordResetToken}
    (ht : s.db.tokens.get? id = some t) {db : ResetDb} {now : Time}
    (htokens : db.tokens = s.db.tokens.modify id fun t =>
      { t with isUsed := true, usedAt := some now }) :
    Marked { s with db := db, history := s.history ++ [.changed id] } := by
  have hnext : db.tokens.next = s.db.tokens.next := by
    rw [htokens]
    rfl
  have hrows : ∀ k t', db.tokens.get? k = some t' → (k = id ∧ t'.isUsed = true) ∨
      (k ≠ id ∧ s.db.tokens.get? k = some t') := by
    intro k t' ht'
    rw [htokens] at ht'
    rcases (Table.updates_modify ht _).cases ht' with ⟨hk, rfl⟩ | hother
    · exact Or.inl ⟨hk, rfl⟩
    · exact Or.inr hother
  refine ⟨fun m hm => ?_, fun m hm t' ht' => ?_, fun c v hv t' ht' hused => ?_, fun c v hv => ?_⟩
  · dsimp only
    rw [hnext]
    rcases List.mem_append.mp hm with hm | hm
    · exact h.known m hm
    · obtain rfl := List.mem_singleton.mp hm
      exact Table.lt_next ht
  · rcases hrows _ t' ht' with ⟨_, hused⟩ | ⟨hne, ht'⟩
    · exact hused
    · rcases List.mem_append.mp hm with hm | hm
      · exact h.spent m hm t' ht'
      · obtain rfl := List.mem_singleton.mp hm
        exact absurd rfl hne
  · rcases hrows _ t' ht' with ⟨hid, _⟩ | ⟨_, ht'⟩
    · exact ⟨.changed id, List.mem_append_right _ List.mem_cons_self, hid.symm⟩
    · obtain ⟨m, hm, htoken⟩ := h.opened c v hv t' ht' hused
      exact ⟨m, List.mem_append_left _ hm, htoken⟩
  · dsimp only
    rw [hnext]
    exact h.bound c v hv

/-- Fewer open calls. -/
theorem Marked.calls (h : Marked s) {calls : Table Validated}
    (hcalls : ∀ c v, calls.get? c = some v → s.calls.get? c = some v) :
    Marked { s with calls := calls } :=
  ⟨h.known, h.spent, fun c v hv => h.opened c v (hcalls c v hv),
    fun c v hv => h.bound c v (hcalls c v hv)⟩

/-- The invariant sees the tokens of the database only. -/
theorem Marked.congr (h : Marked s) (htokens : s'.db.tokens = s.db.tokens)
    (hcalls : s'.calls = s.calls) (hhistory : s'.history = s.history) : Marked s' := by
  obtain ⟨hknown, hspent, hopened, hbound⟩ := h
  constructor
  all_goals rw [htokens]
  · rwa [hhistory]
  · rwa [hhistory]
  · rwa [hhistory, hcalls]
  · rwa [hcalls]

theorem Marked.step (h : Marked s) {e : Time × ResetEvent}
    (hstep : ResetDesk.step lower validatePassword hashToken timeout s e = some s') :
    Marked s' := by
  cases step_cases hstep with
  | quiet htokens hcalls hhistory => exact (h.calls hcalls).congr htokens rfl hhistory
  | created row hrow htokens hcalls hhistory =>
    exact (h.insert hrow htokens).congr rfl hcalls hhistory
  | replaced user row hrow htokens hcalls hhistory =>
    exact ((h.invalidate e.1 user).insert hrow htokens).congr rfl hcalls hhistory
  | opened v hv hunused htokens hcalls hhistory =>
    have hopened : Marked { s with calls := s.calls.insert v } := by
      refine ⟨h.known, h.spent, fun c w hw t ht hused => ?_, fun c w hw => ?_⟩
      · rcases Table.insert_cases hw with ⟨_, rfl⟩ | hw
        · cases hv.symm.trans ht
          rw [hunused] at hused
          cases hused
        · exact h.opened c w hw t ht hused
      · rcases Table.insert_cases hw with ⟨_, rfl⟩ | hw
        · exact Table.lt_next hv
        · exact h.bound c w hw
    exact hopened.congr htokens hcalls hhistory
  | changed c v t he hv ht htokens hcalls hhistory =>
    exact ((h.change ht htokens).calls hcalls).congr rfl rfl hhistory
  | deleted hnext htokens hcalls hhistory =>
    refine ⟨?_, fun m hm t ht => ?_, fun c v hv t ht hused => ?_, ?_⟩
    · rw [hhistory, hnext]
      exact h.known
    · rw [hhistory] at hm
      exact h.spent m hm t (htokens _ t ht)
    · rw [hcalls] at hv
      rw [hhistory]
      exact h.opened c v hv t (htokens _ t ht) hused
    · rw [hcalls, hnext]
      exact h.bound

/-! ## The history -/

/-- A token that changes a password has no mark before. -/
def Orderly (history : List TokenMark) : Prop :=
  history.Pairwise fun a b => b ≠ .changed a.token

/-- Each token changes a password at most once. -/
def UsedOnce (history : List TokenMark) : Prop := ∀ k, history.count (.changed k) ≤ 1

/-- No token changes a password after it was invalidated. -/
def SparesInvalidated (history : List TokenMark) : Prop :=
  ∀ k, ¬ [.invalidated k, .changed k].Sublist history

theorem orderly_iff {history : List TokenMark} :
    Orderly history ↔ UsedOnce history ∧ SparesInvalidated history := by
  unfold Orderly
  rw [List.pairwise_iff_forall_sublist]
  constructor
  · intro h
    refine ⟨fun k => ?_, fun k hk => h hk rfl⟩
    by_contra hmore
    have htwo : [TokenMark.changed k, .changed k].Sublist history :=
      List.replicate_sublist_iff.mpr (not_le.mp hmore)
    exact h htwo rfl
  · rintro ⟨honce, hspares⟩ a b hab rfl
    cases a with
    | invalidated k => exact hspares k hab
    | changed k =>
      have htwo : 2 ≤ history.count (.changed k) :=
        List.replicate_sublist_iff.mp hab
      have := honce k
      omega

/-- The history only grows. -/
theorem step_history {e : Time × ResetEvent}
    (h : ResetDesk.step lower validatePassword hashToken timeout s e = some s') :
    ∃ more, s'.history = s.history ++ more ∧
      ∀ m ∈ more, m = .invalidated m.token ∨ ∃ c v t, e.2 = .save c ∧ s.calls.get? c = some v ∧
        s.db.tokens.get? v.id = some t ∧ more = [.changed v.id] := by
  cases step_cases h with
  | quiet _ _ hhistory => exact ⟨[], by rw [hhistory, List.append_nil], nofun⟩
  | created _ _ _ _ hhistory => exact ⟨[], by rw [hhistory, List.append_nil], nofun⟩
  | replaced user _ _ _ _ hhistory =>
    refine ⟨_, hhistory, fun m hm => Or.inl ?_⟩
    obtain ⟨k, _, rfl⟩ := mem_invalidations.mp hm
    rfl
  | opened _ _ _ _ _ hhistory => exact ⟨[], by rw [hhistory, List.append_nil], nofun⟩
  | changed c v t he hv ht _ _ hhistory =>
    exact ⟨_, hhistory, fun m _ => Or.inr ⟨c, v, t, he, hv, ht, rfl⟩⟩
  | deleted _ _ _ hhistory => exact ⟨[], by rw [hhistory, List.append_nil], nofun⟩

/-- An open call whose row is used comes after another use of its token. -/
theorem Marked.not_orderly (h : Marked s) {c : Nat} {v : Validated} {t : PasswordResetToken}
    (hv : s.calls.get? c = some v) (ht : s.db.tokens.get? v.id = some t)
    (hused : t.isUsed = true) : ¬ Orderly (s.history ++ [.changed v.id]) := by
  intro horderly
  obtain ⟨m, hm, htoken⟩ := h.opened c v hv t ht hused
  have hafter := (List.pairwise_append.mp horderly).2.2 m hm _ List.mem_cons_self
  rw [htoken] at hafter
  exact hafter rfl

theorem not_stillUnused {e : Time × ResetEvent} (h : ¬ stillUnused s e = true) :
    ∃ c v t, e.2 = .save c ∧ s.calls.get? c = some v ∧ s.db.tokens.get? v.id = some t ∧
      t.isUsed = true := by
  obtain ⟨now, event⟩ := e
  cases event with
  | save c =>
    unfold stillUnused at h
    simp only [Option.all_eq_true, not_forall] at h
    obtain ⟨v, hv, t, ht, hused⟩ := h
    exact ⟨c, v, t, rfl, hv, ht, by simpa using hused⟩
  | _ => exact absurd rfl h

/-- A confirmation whose token is still unused keeps the order. -/
theorem Marked.orderly_step (h : Marked s) (horderly : Orderly s.history)
    {e : Time × ResetEvent} (hunused : stillUnused s e = true)
    (hstep : ResetDesk.step lower validatePassword hashToken timeout s e = some s') :
    Orderly s'.history := by
  obtain ⟨more, hmore, hmarks⟩ := step_history hstep
  rw [hmore]
  refine List.pairwise_append.mpr ⟨horderly, ?_, fun a ha b hb => ?_⟩
  · rw [List.pairwise_iff_forall_sublist]
    intro a b hab
    rcases hmarks b (hab.subset (List.mem_cons_of_mem _ List.mem_cons_self)) with hb | hone
    · rw [hb]
      nofun
    · obtain ⟨_, _, _, _, _, _, rfl⟩ := hone
      have := hab.length_le
      simp at this
  · rcases hmarks b hb with hb | ⟨c, v, t, he, hv, ht, rfl⟩
    · rw [hb]
      nofun
    · obtain rfl := List.mem_singleton.mp hb
      unfold stillUnused at hunused
      rw [he] at hunused
      dsimp only at hunused
      rw [hv, Option.all_some, ht, Option.all_some, Bool.not_eq_true'] at hunused
      -- The row is unused, so its token has no mark.
      intro hsame
      have hid : v.id = a.token := TokenMark.changed.inj hsame
      rw [hid] at ht
      rw [h.spent a ha t ht] at hunused
      cases hunused

end

end ResetDesk

open ResetDesk

/-- In every run, each token changes a password at most once, and none does
after it was invalidated, exactly when the token of every confirmation is still
unused at its commit. -/
theorem reset_tokens_work_once_iff {lower : String → String}
    {validatePassword : String → User → Except (List String) Unit} {hashToken : String → String}
    {timeout : Nat} {db : ResetDb} {es : List (Time × ResetEvent)} {s : ResetDesk}
    (h : Run (ResetDesk.step lower validatePassword hashToken timeout) (fun _ _ => True)
      { db := db } es s) :
    UsedOnce s.history ∧ SparesInvalidated s.history ↔
      Run (ResetDesk.step lower validatePassword hashToken timeout)
        (fun s e => stillUnused s e = true) { db := db } es s := by
  rw [← orderly_iff]
  have hor : Run (ResetDesk.step lower validatePassword hashToken timeout)
        (fun s e => stillUnused s e = true) { db := db } es s ∧ Marked s ∧ Orderly s.history ∨
      ¬ Run (ResetDesk.step lower validatePassword hashToken timeout)
        (fun s e => stillUnused s e = true) { db := db } es s ∧ ¬ Orderly s.history := by
    refine Run.good_or_bad (fun s => Marked s ∧ Orderly s.history)
      (fun s => ¬ Orderly s.history) ⟨Marked.start db, List.Pairwise.nil⟩
      (fun s e s' hgood hok hstep => ?_) (fun s e s' hgood hnot hstep => ?_)
      (fun s e s' hbad hstep horderly => ?_) h
    · exact ⟨hgood.1.step hstep, hgood.1.orderly_step hgood.2 hok hstep⟩
    · obtain ⟨now, event⟩ := e
      obtain ⟨c, v, t, rfl, hv, ht, hused⟩ := not_stillUnused hnot
      rw [(step_save hv ht hstep).1]
      exact hgood.1.not_orderly hv ht hused
    · obtain ⟨more, hmore, _⟩ := step_history hstep
      rw [hmore] at horderly
      exact hbad (List.pairwise_append.mp horderly).1
  rcases hor with ⟨hrun, hgood⟩ | ⟨hnot, hbad⟩
  · exact iff_of_true hgood.2 hrun
  · exact iff_of_false hbad hnot

/-- One user, and no token. -/
def kimAlone : ResetDb :=
  { users := Table.empty.insert
      { username := "kim", email := "kim@shop.kr", password := .hashed "OldPass123!" } }

/-- The first and the second UUID that `kim` gets. -/
def firstUuid : String := "5f0c1b1e-3a7d-4c52-9e0b-6d7a2f4c8e11"

def secondUuid : String := "a94d2c70-81f5-4be3-b6c2-0f1e9d3b7a55"

/-- Their digests. -/
def digestOf (rawToken : String) : String :=
  if rawToken = firstUuid then "5597a94614f800824c292c1aac1e5c3de4c164569cc21d1aaff68608dbc8ca23"
  else if rawToken = secondUuid then
    "1b5113e1a7a064f112289563eabfb5c5388cb6a67c7125e8e2600cd6d34669a3"
  else ""

/-- A confirmation of `kim` with the first token. -/
def confirmFirst (newPassword : String) : ConfirmData :=
  { email := "kim@shop.kr", token := firstUuid, newPassword := newPassword,
    newPassword2 := newPassword }

/-- The steps of the shop, with a policy that accepts every password. -/
def resetStep : ResetDesk → Time × ResetEvent → Option ResetDesk :=
  ResetDesk.step (fun email => email) (fun _ _ => .ok ()) digestOf 86400

/-- A second confirmation comes after the first, and a third after a new
token. -/
theorem reset_token_works_once :
    ∃ s, Run resetStep (fun _ _ => True) { db := kimAlone }
        [(0, .request 1 firstUuid), (60, .validate (confirmFirst "NewPass123!")), (61, .save 1),
          (70, .validate (confirmFirst "TwoPass123!")), (80, .generate 1 true secondUuid),
          (90, .validate (confirmFirst "TwoPass123!"))] s ∧
      s.history = [.changed 1] ∧ UsedOnce s.history ∧ SparesInvalidated s.history := by
  obtain ⟨s, hrun, hstate⟩ := Run.exists_of_execIf (by decide +kernel :
    (execIf resetStep stillUnused { db := kimAlone }
      [(0, .request 1 firstUuid), (60, .validate (confirmFirst "NewPass123!")), (61, .save 1),
        (70, .validate (confirmFirst "TwoPass123!")), (80, .generate 1 true secondUuid),
        (90, .validate (confirmFirst "TwoPass123!"))]).any
      (fun s => decide (s.history = [.changed 1])) = true)
  have hany := hrun.mono fun _ _ _ => trivial
  exact ⟨s, hany, of_decide_eq_true hstate, (reset_tokens_work_once_iff hany).mpr hrun⟩

/-- Two confirmations verify the first token, then a new token invalidates it.
Both confirmations change the password with it. -/
theorem reset_token_works_twice :
    ∃ s, Run resetStep (fun _ _ => True) { db := kimAlone }
        [(0, .request 1 firstUuid), (60, .validate (confirmFirst "NewPass123!")),
          (60, .validate (confirmFirst "TwoPass123!")), (61, .generate 1 true secondUuid),
          (62, .save 1), (63, .save 2)] s ∧
      (s.db.users.get? 1).map User.password = some (.hashed "TwoPass123!") ∧
      ¬ UsedOnce s.history ∧ ¬ SparesInvalidated s.history := by
  obtain ⟨s, hrun, hstate⟩ := Run.exists_of_execIf (by decide +kernel :
    (execIf resetStep (fun _ _ => true) { db := kimAlone }
      [(0, .request 1 firstUuid), (60, .validate (confirmFirst "NewPass123!")),
        (60, .validate (confirmFirst "TwoPass123!")), (61, .generate 1 true secondUuid),
        (62, .save 1), (63, .save 2)]).any
      (fun s => decide ((s.db.users.get? 1).map User.password = some (.hashed "TwoPass123!") ∧
        s.history = [.invalidated 1, .changed 1, .changed 1])) = true)
  obtain ⟨hpassword, hhistory⟩ := of_decide_eq_true hstate
  refine ⟨s, hrun.mono fun _ _ _ => trivial, hpassword, fun h => ?_, fun h => ?_⟩
  · have htwice := h 1
    rw [hhistory] at htwice
    revert htwice
    decide
  · refine h 1 ?_
    rw [hhistory]
    decide

end Shopping
