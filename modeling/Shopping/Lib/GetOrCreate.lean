import Shopping.Lib.Run
import Shopping.Lib.Table

/-!
# Get or create, under a unique key

The rows of a table claim keys, and the database admits at most one row for
each key.  A call looks its key up, creates a row when there is none, and looks
again when the row is refused.  A query that locks finds the row first and has
the lock later, and by then the row may not claim the key any more.

Any number of calls interleave, and other transactions write what the database
admits.  A call comes back without a row only when such a write takes the key
from its row while a call for the key waits for its second look
(`Sound.run`).  As long as the row of a key keeps it, all calls for the key come
back with the same row, and one of them at most created it (`agreed_of_run`).
-/

namespace Shopping

namespace GetOrCreate

/-- How far a call is. -/
inductive Stage where
  | get
  /-- The row was found and is not locked yet. -/
  | lock (k : Nat)
  /-- The look for a row with the key, before the row is sent. -/
  | validate
  | insert
  | getAgain
  | lockAgain (k : Nat)
  /-- The row and whether the call created it, or nothing. -/
  | done (answer : Option (Nat × Bool))
  deriving DecidableEq, Repr

structure Call (κ : Type) where
  key : κ
  stage : Stage := .get
  deriving DecidableEq, Repr

/-- The table and the calls so far. -/
structure Desk (α κ : Type) where
  rows : Table α
  calls : List (Call κ) := []

inductive Event (α κ : Type) where
  | call (x : κ)
  /-- The next step of the n-th call. -/
  | step (n : Nat)
  /-- Other transactions commit. -/
  | write (rows : Table α)

section

variable {α κ : Type} (claims : κ → α → Bool) (fresh : κ → α)

/-- The row `k` claims the key. -/
def holds (rows : Table α) (x : κ) (k : Nat) : Bool := (rows.get? k).any (claims x)

/-- The row that claims the key. -/
def find (rows : Table α) (x : κ) : Option Nat :=
  (rows.find? fun _ a => claims x a).map Prod.fst

/-- One step of a call, and what it makes of the table. -/
def Call.next (rows : Table α) (c : Call κ) : Option (Table α × Call κ) :=
  match c.stage with
  | .get =>
    match find claims rows c.key with
    | some k => some (rows, { c with stage := .lock k })
    | none => some (rows, { c with stage := .validate })
  | .lock k =>
    if holds claims rows c.key k then some (rows, { c with stage := .done (some (k, false)) })
    else some (rows, { c with stage := .validate })
  | .validate =>
    match find claims rows c.key with
    | some _ => some (rows, { c with stage := .getAgain })
    | none => some (rows, { c with stage := .insert })
  | .insert =>
    match find claims rows c.key with
    | some _ => some (rows, { c with stage := .getAgain })
    | none =>
      some (rows.insert (fresh c.key), { c with stage := .done (some (rows.next, true)) })
  | .getAgain =>
    match find claims rows c.key with
    | some k => some (rows, { c with stage := .lockAgain k })
    | none => some (rows, { c with stage := .done none })
  | .lockAgain k =>
    if holds claims rows c.key k then some (rows, { c with stage := .done (some (k, false)) })
    else some (rows, { c with stage := .done none })
  | .done _ => none

def step (s : Desk α κ) : Event α κ → Option (Desk α κ)
  | .call x => some { s with calls := s.calls ++ [{ key := x }] }
  | .step n =>
    match s.calls[n]? with
    | none => none
    | some c =>
      (c.next claims fresh s.rows).map fun out =>
        { rows := out.1, calls := s.calls.set n out.2 }
  | .write rows => some { s with rows := rows }

/-- The same in one go. -/
def getOrCreate (rows : Table α) (x : κ) : (Nat × Bool) × Table α :=
  match find claims rows x with
  | some k => ((k, false), rows)
  | none => ((rows.next, true), rows.insert (fresh x))

/-- The database admits one row for each key. -/
def UniqueClaims (rows : Table α) : Prop :=
  ∀ x i j, holds claims rows x i = true → holds claims rows x j = true → i = j

/-- Some row claims the key. -/
def Claimed (rows : Table α) (x : κ) : Prop := ∃ k, holds claims rows x k = true

/-- The row of the key keeps it. -/
def Keeps (x : κ) (rows rows' : Table α) : Prop :=
  ∀ k, holds claims rows x k = true → holds claims rows' x k = true

end

/-! ## The table -/

section

variable {α κ : Type} {claims : κ → α → Bool} {fresh : κ → α} {rows rows' : Table α} {x : κ}
  {k : Nat}

theorem find_eq_some (h : find claims rows x = some k) : holds claims rows x k = true := by
  unfold find at h
  obtain ⟨⟨j, a⟩, hfind, rfl⟩ := Option.map_eq_some_iff.mp h
  obtain ⟨hget, hclaims⟩ := Table.find?_eq_some_get hfind
  unfold holds
  rw [hget]
  exact hclaims

theorem find_eq_none (h : find claims rows x = none) (k : Nat) :
    holds claims rows x k = false := by
  unfold find at h
  have hnone := Table.find?_eq_none.mp (Option.map_eq_none_iff.mp h)
  unfold holds
  cases hget : rows.get? k with
  | none => rfl
  | some a =>
    rw [Option.any_some]
    exact hnone k a hget

theorem find_isSome (h : Claimed claims rows x) : ∃ k, find claims rows x = some k := by
  obtain ⟨k, hk⟩ := h
  cases hfind : find claims rows x with
  | some j => exact ⟨j, rfl⟩
  | none =>
    rw [find_eq_none hfind k] at hk
    cases hk

theorem holds_insert (a : α) : holds claims (rows.insert a) x k
    = if k = rows.next then claims x a else holds claims rows x k := by
  unfold holds
  rw [Table.get?_insert]
  split
  · rfl
  · rfl

theorem holds_next : holds claims rows x rows.next = false := by
  unfold holds
  rw [Table.get?_next]
  rfl

theorem Keeps.insert (rows : Table α) (a : α) : Keeps claims x rows (rows.insert a) := by
  intro k hk
  rw [holds_insert, if_neg]
  · exact hk
  · rintro rfl
    rw [holds_next] at hk
    cases hk

/-- A row for a key that no row claims. -/
theorem UniqueClaims.insert (hfresh : ∀ x y, claims y (fresh x) = true → y = x)
    (h : UniqueClaims claims rows) (hfind : find claims rows x = none) :
    UniqueClaims claims (rows.insert (fresh x)) := by
  have hnew : ∀ y i, holds claims (rows.insert (fresh x)) y i = true →
      i = rows.next ∧ y = x ∨ holds claims rows y i = true := by
    intro y i hi
    rw [holds_insert] at hi
    split at hi
    · exact Or.inl ⟨‹i = rows.next›, hfresh x y hi⟩
    · exact Or.inr hi
  intro y i j hi hj
  rcases hnew y i hi with ⟨rfl, rfl⟩ | hi'
  · rcases hnew y j hj with ⟨rfl, _⟩ | hj'
    · rfl
    · rw [find_eq_none hfind] at hj'
      cases hj'
  · rcases hnew y j hj with ⟨_, rfl⟩ | hj'
    · rw [find_eq_none hfind] at hi'
      cases hi'
    · exact h y i j hi' hj'

end

/-! ## What a call does -/

section

variable {α κ : Type} {claims : κ → α → Bool} {fresh : κ → α} {rows rows' : Table α}
  {c c' : Call κ}

/-- What a call is at relies on the table like this. -/
def Stage.Sound (claims : κ → α → Bool) (rows : Table α) (x : κ) : Stage → Prop
  | .getAgain => Claimed claims rows x
  | .lockAgain k => holds claims rows x k = true
  | .done answer => answer ≠ none
  | .get | .lock _ | .validate | .insert => True

/-- The call waits for its second look. -/
def Stage.waits : Stage → Bool
  | .getAgain | .lockAgain _ => true
  | .get | .lock _ | .validate | .insert | .done _ => false

/-- The answer of a call: the row, and whether the call created it. -/
def Stage.answer : Stage → Option (Nat × Bool)
  | .done answer => answer
  | .get | .lock _ | .validate | .insert | .getAgain | .lockAgain _ => none

/-- What one step of a call does. -/
inductive Steps (claims : κ → α → Bool) (fresh : κ → α) (rows : Table α) (c : Call κ) :
    Table α → Call κ → Prop
  /-- The call goes on. -/
  | goes {stage : Stage} (hanswer : stage.answer = none) (hsound : stage.Sound claims rows c.key) :
      Steps claims fresh rows c rows { c with stage := stage }
  | found {k : Nat} (hk : holds claims rows c.key k = true) :
      Steps claims fresh rows c rows { c with stage := .done (some (k, false)) }
  | created (hfind : find claims rows c.key = none) :
      Steps claims fresh rows c (rows.insert (fresh c.key))
        { c with stage := .done (some (rows.next, true)) }

theorem Call.next_steps (h : c.next claims fresh rows = some (rows', c'))
    (hsound : c.stage.Sound claims rows c.key) : Steps claims fresh rows c rows' c' := by
  unfold Call.next at h
  split at h
  · split at h
    · cases h
      exact .goes rfl trivial
    · cases h
      exact .goes rfl trivial
  · split at h
    · cases h
      exact .found ‹_›
    · cases h
      exact .goes rfl trivial
  · split at h
    · rename_i hfind
      cases h
      exact .goes rfl ⟨_, find_eq_some hfind⟩
    · cases h
      exact .goes rfl trivial
  · split at h
    · rename_i hfind
      cases h
      exact .goes rfl ⟨_, find_eq_some hfind⟩
    · rename_i hfind
      cases h
      exact .created hfind
  · rename_i hstage
    rw [hstage] at hsound
    obtain ⟨k, hfind⟩ := find_isSome hsound
    rw [hfind] at h
    cases h
    exact .goes rfl (find_eq_some hfind)
  · rename_i hstage
    rw [hstage] at hsound
    have hholds : holds claims rows c.key _ = true := hsound
    rw [if_pos hholds] at h
    cases h
    exact .found hholds
  · cases h

theorem Steps.key (h : Steps claims fresh rows c rows' c') : c'.key = c.key := by
  cases h with
  | goes _ _ => rfl
  | found _ => rfl
  | created _ => rfl

theorem Steps.keeps (h : Steps claims fresh rows c rows' c') (x : κ) :
    Keeps claims x rows rows' := by
  cases h with
  | goes _ _ => exact fun _ hk => hk
  | found _ => exact fun _ hk => hk
  | created _ => exact .insert rows _

theorem Steps.unique (h : Steps claims fresh rows c rows' c')
    (hfresh : ∀ x y, claims y (fresh x) = true → y = x) (hunique : UniqueClaims claims rows) :
    UniqueClaims claims rows' := by
  cases h with
  | goes _ _ => exact hunique
  | found _ => exact hunique
  | created hfind => exact hunique.insert hfresh hfind

theorem Stage.Sound.mono {stage : Stage} {x : κ} (h : stage.Sound claims rows x)
    (hkeeps : stage.waits = true → Keeps claims x rows rows') :
    stage.Sound claims rows' x := by
  cases stage with
  | getAgain =>
    obtain ⟨k, hk⟩ := h
    exact ⟨k, hkeeps rfl k hk⟩
  | lockAgain k => exact hkeeps rfl k h
  | done answer => exact h
  | get | lock _ | validate | insert => trivial

theorem Steps.sound (h : Steps claims fresh rows c rows' c') :
    c'.stage.Sound claims rows' c'.key := by
  cases h with
  | goes _ hsound => exact hsound
  | found _ => exact Option.some_ne_none _
  | created _ => exact Option.some_ne_none _

/-- What any step does to the table. -/
theorem Call.next_rows (h : c.next claims fresh rows = some (rows', c')) : c'.key = c.key ∧
    (rows' = rows ∨ find claims rows c.key = none ∧ rows' = rows.insert (fresh c.key)) := by
  unfold Call.next at h
  split at h
  case h_4 =>
    split at h
    · cases h
      exact ⟨rfl, Or.inl rfl⟩
    · rename_i hfind
      cases h
      exact ⟨rfl, Or.inr ⟨hfind, rfl⟩⟩
  case h_7 => cases h
  all_goals
    split at h
    · cases h
      exact ⟨rfl, Or.inl rfl⟩
    · cases h
      exact ⟨rfl, Or.inl rfl⟩

theorem Call.next_keeps (h : c.next claims fresh rows = some (rows', c')) (x : κ) :
    Keeps claims x rows rows' := by
  rcases (Call.next_rows h).2 with rfl | ⟨_, rfl⟩
  · exact fun _ hk => hk
  · exact .insert rows _

theorem Call.next_unique (h : c.next claims fresh rows = some (rows', c'))
    (hfresh : ∀ x y, claims y (fresh x) = true → y = x) (hunique : UniqueClaims claims rows) :
    UniqueClaims claims rows' := by
  rcases (Call.next_rows h).2 with rfl | ⟨hfind, rfl⟩
  · exact hunique
  · exact hunique.insert hfresh hfind

end

/-! ## Runs -/

section

variable {α κ : Type} {claims : κ → α → Bool} {fresh : κ → α} {x : κ} {s s' : Desk α κ}
  {e : Event α κ}

/-- Others write what the database admits, and leave the row of the key while a
call for it waits for its second look. -/
def LeavesWaiting (claims : κ → α → Bool) (x : κ) (s : Desk α κ) : Event α κ → Prop
  | .write rows => UniqueClaims claims rows ∧
      ((∃ c ∈ s.calls, c.key = x ∧ c.stage.waits = true) → Keeps claims x s.rows rows)
  | .call _ | .step _ => True

/-- Others write what the database admits, and leave the row of the key. -/
def LeavesClaimed (claims : κ → α → Bool) (x : κ) (s : Desk α κ) : Event α κ → Prop
  | .write rows => UniqueClaims claims rows ∧ Keeps claims x s.rows rows
  | .call _ | .step _ => True

theorem step_step_cases {n : Nat} (h : step claims fresh s (.step n) = some s') :
    ∃ c rows' c', s.calls[n]? = some c ∧ c.next claims fresh s.rows = some (rows', c') ∧
      s' = { rows := rows', calls := s.calls.set n c' } := by
  rw [step] at h
  cases hn : s.calls[n]? with
  | none =>
    rw [hn] at h
    cases h
  | some c =>
    rw [hn] at h
    obtain ⟨⟨rows', c'⟩, hnext, rfl⟩ := Option.map_eq_some_iff.mp h
    exact ⟨c, rows', c', rfl, hnext, rfl⟩

/-- The calls for the key can rely on the table. -/
structure Sound (claims : κ → α → Bool) (x : κ) (s : Desk α κ) : Prop where
  unique : UniqueClaims claims s.rows
  calls : ∀ c ∈ s.calls, c.key = x → c.stage.Sound claims s.rows x

theorem Sound.start {rows : Table α} (h : UniqueClaims claims rows) :
    Sound claims x { rows := rows } :=
  ⟨h, fun _ hc => absurd hc List.not_mem_nil⟩

theorem Sound.step (hfresh : ∀ x y, claims y (fresh x) = true → y = x) (h : Sound claims x s)
    (hok : LeavesWaiting claims x s e) (hstep : step claims fresh s e = some s') :
    Sound claims x s' := by
  cases e with
  | call y =>
    cases hstep
    refine ⟨h.unique, fun c hc hx => ?_⟩
    rcases List.mem_append.mp hc with hc | hc
    · exact h.calls c hc hx
    · rw [List.mem_singleton.mp hc]
      trivial
  | write rows =>
    cases hstep
    refine ⟨hok.1, fun c hc hx => ?_⟩
    exact (h.calls c hc hx).mono fun hwaits => hok.2 ⟨c, hc, hx, hwaits⟩
  | step n =>
    obtain ⟨c, rows', c', hn, hnext, rfl⟩ := step_step_cases hstep
    refine ⟨Call.next_unique hnext hfresh h.unique, fun d hd hx => ?_⟩
    rcases List.mem_or_eq_of_mem_set hd with hd | rfl
    · exact (h.calls d hd hx).mono fun _ => Call.next_keeps hnext x
    · have hkey : c.key = x := (Call.next_rows hnext).1.symm.trans hx
      have hsound := h.calls c (List.mem_of_getElem? hn) hkey
      rw [← hkey] at hsound
      have hafter := (Call.next_steps hnext hsound).sound
      rwa [hx] at hafter

/-- A call for the key comes back without a row only when the key is taken from
its row while a call for it waits. -/
theorem Sound.run (hfresh : ∀ x y, claims y (fresh x) = true → y = x) (h : Sound claims x s)
    {es : List (Event α κ)} (hrun : Run (GetOrCreate.step claims fresh) (LeavesWaiting claims x) s
      es s') : Sound claims x s' :=
  hrun.invariant (Sound claims x) h fun _ _ _ hI hok hstep => hI.step hfresh hok hstep

/-! ## All calls agree -/

/-- The call created the row of the key. -/
def Call.created [DecidableEq κ] (x : κ) (c : Call κ) : Bool :=
  decide (c.key = x) && c.stage.answer.any fun a => a.2

/-- The answers for the key are its row, and at most one call created it, none
if the key was claimed before (`base`). -/
structure Agreed [DecidableEq κ] (claims : κ → α → Bool) (x : κ) (base : Nat) (s : Desk α κ) :
    Prop where
  sound : Sound claims x s
  answers : ∀ c ∈ s.calls, c.key = x → ∀ a, c.stage.answer = some a →
    holds claims s.rows x a.1 = true
  created : base + s.calls.countP (Call.created x) = 0 ∨
    base + s.calls.countP (Call.created x) = 1 ∧ Claimed claims s.rows x

theorem LeavesClaimed.leavesWaiting (h : LeavesClaimed claims x s e) :
    LeavesWaiting claims x s e := by
  cases e with
  | write rows => exact ⟨h.1, fun _ => h.2⟩
  | call _ | step _ => trivial

theorem Call.next_answer {rows rows' : Table α} {c c' : Call κ}
    (h : c.next claims fresh rows = some (rows', c')) : c.stage.answer = none := by
  unfold Call.next at h
  split at h
  case h_7 => cases h
  all_goals
    rename_i hstage
    rw [hstage]
    rfl

theorem Claimed.mono {rows rows' : Table α} (h : Claimed claims rows x)
    (hkeeps : Keeps claims x rows rows') : Claimed claims rows' x := by
  obtain ⟨k, hk⟩ := h
  exact ⟨k, hkeeps k hk⟩

variable [DecidableEq κ] {base : Nat}

/-- A step of a call that created nothing yet. -/
theorem countP_created_set {n : Nat} {c c' : Call κ} (hn : s.calls[n]? = some c)
    (hc : c.stage.answer = none) : (s.calls.set n c').countP (Call.created x)
      = s.calls.countP (Call.created x) + if Call.created x c' then 1 else 0 := by
  obtain ⟨hlt, hget⟩ := List.getElem?_eq_some_iff.mp hn
  rw [List.countP_set hlt, hget]
  have hnot : Call.created x c = false := by simp [Call.created, hc]
  rw [hnot]
  simp

theorem Agreed.step (hfresh : ∀ x y, claims y (fresh x) = true ↔ y = x)
    (h : Agreed claims x base s) (hok : LeavesClaimed claims x s e)
    (hstep : GetOrCreate.step claims fresh s e = some s') : Agreed claims x base s' := by
  have hsound := h.sound.step (fun x y => (hfresh x y).mp) hok.leavesWaiting hstep
  refine ⟨hsound, ?_, ?_⟩
  · cases e with
    | call y =>
      cases hstep
      intro c hc hx a ha
      rcases List.mem_append.mp hc with hc | hc
      · exact h.answers c hc hx a ha
      · rw [List.mem_singleton.mp hc] at ha
        cases ha
    | write rows =>
      cases hstep
      intro c hc hx a ha
      exact hok.2 _ (h.answers c hc hx a ha)
    | step n =>
      obtain ⟨c, rows', c', hn, hnext, rfl⟩ := step_step_cases hstep
      intro d hd hx a ha
      rcases List.mem_or_eq_of_mem_set hd with hd | rfl
      · exact Call.next_keeps hnext x _ (h.answers d hd hx a ha)
      · have hkey : c.key = x := (Call.next_rows hnext).1.symm.trans hx
        have hcsound := h.sound.calls c (List.mem_of_getElem? hn) hkey
        rw [← hkey] at hcsound
        cases Call.next_steps hnext hcsound with
        | goes hanswer _ =>
          rw [hanswer] at ha
          cases ha
        | found hk =>
          cases ha
          rwa [hkey] at hk
        | created _ =>
          cases ha
          rw [holds_insert, if_pos rfl]
          exact (hfresh _ _).mpr hkey.symm
  · cases e with
    | call y =>
      cases hstep
      have hnew : Call.created x { key := y } = false := by simp [Call.created, Stage.answer]
      simpa [List.countP_append, hnew] using h.created
    | write rows =>
      cases hstep
      exact h.created.imp_right fun hc => ⟨hc.1, hc.2.mono hok.2⟩
    | step n =>
      obtain ⟨c, rows', c', hn, hnext, rfl⟩ := step_step_cases hstep
      dsimp only
      rw [countP_created_set hn (Call.next_answer hnext)]
      by_cases hcreated : Call.created x c' = true
      · rw [if_pos hcreated]
        unfold Call.created at hcreated
        rw [Bool.and_eq_true, decide_eq_true_eq] at hcreated
        have hkey : c.key = x := (Call.next_rows hnext).1.symm.trans hcreated.1
        have hcsound := h.sound.calls c (List.mem_of_getElem? hn) hkey
        rw [← hkey] at hcsound
        -- only the call that inserts creates, and then no row had the key
        cases Call.next_steps hnext hcsound with
        | goes hanswer _ =>
          rw [hanswer] at hcreated
          exact absurd hcreated.2 Bool.false_ne_true
        | found _ => exact absurd hcreated.2 Bool.false_ne_true
        | created hfind =>
          rcases h.created with hzero | ⟨_, k, hk⟩
          · refine Or.inr ⟨by omega, s.rows.next, ?_⟩
            rw [holds_insert, if_pos rfl]
            exact (hfresh _ _).mpr hkey.symm
          · rw [← hkey, find_eq_none hfind] at hk
            cases hk
      · rw [if_neg hcreated, Nat.add_zero]
        exact h.created.imp_right fun hc => ⟨hc.1, hc.2.mono (Call.next_keeps hnext x)⟩

/-- While the row of the key keeps it, all calls for the key come back with this
row.  One of them at most created it, and none if it was there before. -/
theorem agreed_of_run (hfresh : ∀ x y, claims y (fresh x) = true ↔ y = x) {rows : Table α}
    (hunique : UniqueClaims claims rows) {es : List (Event α κ)}
    (hrun : Run (GetOrCreate.step claims fresh) (LeavesClaimed claims x) { rows := rows } es s) :
    Agreed claims x 0 s ∧ (Claimed claims rows x → Agreed claims x 1 s) := by
  have hstart : ∀ base, (base = 0 ∨ base = 1 ∧ Claimed claims rows x) →
      Agreed claims x base { rows := rows } := fun base hbase =>
    ⟨.start hunique, fun _ hc => absurd hc List.not_mem_nil, hbase⟩
  have hagreed : ∀ base, (base = 0 ∨ base = 1 ∧ Claimed claims rows x) →
      Agreed claims x base s := fun base hbase =>
    hrun.invariant (Agreed claims x base) (hstart base hbase) fun _ _ _ hI hok hstep =>
      hI.step hfresh hok hstep
  exact ⟨hagreed 0 (Or.inl rfl), fun hclaimed => hagreed 1 (Or.inr ⟨rfl, hclaimed⟩)⟩

/-- All answers for the key are the same row. -/
theorem Agreed.same (h : Agreed claims x base s) {c c' : Call κ} (hc : c ∈ s.calls)
    (hc' : c' ∈ s.calls) (hx : c.key = x) (hx' : c'.key = x) {a a' : Nat × Bool}
    (ha : c.stage.answer = some a) (ha' : c'.stage.answer = some a') : a.1 = a'.1 :=
  h.sound.unique x a.1 a'.1 (h.answers c hc hx a ha) (h.answers c' hc' hx' a' ha')

theorem Agreed.created_le (h : Agreed claims x base s) :
    base + s.calls.countP (Call.created x) ≤ 1 := by
  rcases h.created with hzero | ⟨hone, _⟩
  · omega
  · omega

omit [DecidableEq κ] in
/-- A call that nobody disturbs does what `getOrCreate` says. -/
theorem exec_alone (claims : κ → α → Bool) (fresh : κ → α) (rows : Table α) (x : κ) : ∃ steps,
    exec (GetOrCreate.step claims fresh) { rows := rows }
        (.call x :: List.replicate steps (.step 0))
      = some
        { rows := (getOrCreate claims fresh rows x).2
          calls := [{ key := x
                      stage := .done (some (getOrCreate claims fresh rows x).1) }] } := by
  unfold getOrCreate
  cases hfind : find claims rows x with
  | some k =>
    have hk : holds claims rows x k = true := find_eq_some hfind
    exact ⟨2, by simp [exec, GetOrCreate.step, Call.next, hfind, hk]⟩
  | none => exact ⟨3, by simp [exec, GetOrCreate.step, Call.next, hfind]⟩

end

end GetOrCreate

end Shopping
