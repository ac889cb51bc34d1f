import Shopping.Lib.Run
import Shopping.Returns.Numbers
import Shopping.System.World

/-!
# Calls of `create_return` on one day

`create_return` takes its number from a query, and inserts its row later in the
same transaction.  The query sees what is committed when it starts.  It locks
the one row that it answers with, so it waits for a call that holds the row;
the row is unchanged when it gets it, and the answer stays what it was.

The returns of the day are numbered `1 … m` after every run (`Numbered`): a
number that is taken is refused by the table.  The number of a call is free
exactly when no other return of the day came in since its query, and the day
has fewer than 1000 (`return_number_fresh_iff`).
-/

namespace Shopping

open ReturnService

/-- An open call: the row that its query answered with, whether the call has
locked it, and the number made of it. -/
structure NumberCall where
  request : ReturnRequest
  seen : Option String
  number : String
  locked : Bool := false
  deriving DecidableEq

structure NumberDesk where
  db : Db
  calls : Table NumberCall := Table.empty

/-- What can happen on the day. -/
inductive NumberEvent where
  /-- The query of a call, at a clock reading of the day. -/
  | query (now : Time) (request : ReturnRequest)
  /-- The lock of the row that it answered. -/
  | lock (c : Nat)
  /-- The insert and the commit. -/
  | create (c : Nat)
  /-- The call fails before its insert. -/
  | rollback (c : Nat)
  /-- A return that was numbered on another day. -/
  | other (row : Return)

namespace NumberDesk

/-- The prefix of the numbers of the day. -/
def prefixOf (day : Nat) : String := dayPrefix (Date.ofDays day)

/-- No other open call has the row with this number. -/
def isFree (s : NumberDesk) (c : Nat) (seen : Option String) : Bool :=
  !s.calls.any fun c' call => decide (c' ≠ c) && call.locked && decide (call.seen = seen)

/-- The call has the row that it waits for, if there is one. -/
def holds (call : NumberCall) : Bool := decide (call.seen = none) || call.locked

/-- The database after the insert; a call that raises is rolled back. -/
def insertNumbered (s : NumberDesk) (call : NumberCall) : Db :=
  match createReturn s.db call.number call.request with
  | .error _ => s.db
  | .ok out => out.2

def closeCall (s : NumberDesk) (c : Nat) : NumberDesk :=
  { s with calls := s.calls.delete fun k _ => decide (k = c) }

def step (day : Nat) (s : NumberDesk) : NumberEvent → Option NumberDesk
  | .query now request =>
    if now / 86400 = day then
      match generateReturnNumber s.db now with
      | .error _ => some s
      | .ok number =>
        let seen := lastReturn s.db (prefixOf day)
        some { s with
          calls := s.calls.insert { request := request, seen := seen, number := number } }
    else none
  | .lock c =>
    match s.calls.get? c with
    | none => none
    | some call =>
      if call.seen ≠ none ∧ s.isFree c call.seen = true then
        some { s with calls := s.calls.modify c fun call => { call with locked := true } }
      else none
  | .create c =>
    match s.calls.get? c with
    | none => none
    | some call =>
      if holds call = true then
        some ({ s with db := insertNumbered s call }.closeCall c)
      else none
  | .rollback c => some (s.closeCall c)
  | .other row =>
    if startsWith (prefixOf day) row.returnNumber = false then
      some { s with db := { s.db with returns := s.db.returns.insert row } }
    else none

/-! ## The invariant -/

/-- The returns of the day are numbered `1 … m`, and every open call has the
number after those of some earlier time. -/
structure Numbered (day m : Nat) (s : NumberDesk) : Prop where
  bound : m ≤ 1000
  numbers : todaysNumbers s.db (prefixOf day)
    = (List.range m).map fun i => numberOf (prefixOf day) (i + 1)
  calls : ∀ c call, s.calls.get? c = some call → ∃ m' ≤ m, call.seen = lastOf (prefixOf day) m' ∧
    call.number = numberOf (prefixOf day) (min m' 999 + 1)

section

variable {day m : Nat} {s s' : NumberDesk} {call : NumberCall}

theorem Numbered.lastReturn (h : Numbered day m s) :
    lastReturn s.db (prefixOf day) = lastOf (prefixOf day) m := by
  unfold ReturnService.lastReturn
  rw [h.numbers, greatest_numbers h.bound]

/-- What the query makes of the greatest number. -/
theorem Numbered.generate (h : Numbered day m s) {now : Time} (hnow : now / 86400 = day) :
    generateReturnNumber s.db now = .ok (numberOf (prefixOf day) (min m 999 + 1)) := by
  have hpre : dayPrefix (Date.ofSeconds now) = prefixOf day := by
    unfold prefixOf Date.ofSeconds
    rw [hnow]
  unfold generateReturnNumber
  dsimp only
  rw [hpre, h.lastReturn, nextNumber_lastOf]

/-- A number of the day is taken when it is one of the first `m`. -/
theorem Numbered.taken_iff (h : Numbered day m s) (i : Nat) :
    (∃ k r, s.db.returns.get? k = some r ∧ r.returnNumber = numberOf (prefixOf day) (i + 1)) ↔
      i < m := by
  have hmem : numberOf (prefixOf day) (i + 1) ∈ todaysNumbers s.db (prefixOf day) ↔ i < m := by
    rw [h.numbers, List.mem_map]
    constructor
    · rintro ⟨j, hj, heq⟩
      rw [List.mem_range] at hj
      have := numberOf_inj.mp heq
      omega
    · intro hi
      exact ⟨i, List.mem_range.mpr hi, rfl⟩
  rw [← hmem]
  unfold todaysNumbers
  rw [List.mem_map]
  constructor
  · rintro ⟨k, r, hr, hnumber⟩
    refine ⟨(k, r), Table.mem_select.mpr ⟨hr, ?_⟩, hnumber⟩
    rw [hnumber]
    exact startsWith_numberOf _ _
  · rintro ⟨⟨k, r⟩, hr, hnumber⟩
    exact ⟨k, r, (Table.mem_select.mp hr).1, hnumber⟩

/-- The number of a call is free when nothing came in since its query. -/
theorem Numbered.free_iff (h : Numbered day m s) {m' : Nat} (hm' : m' ≤ m) :
    (∀ k r, s.db.returns.get? k = some r →
      r.returnNumber ≠ numberOf (prefixOf day) (min m' 999 + 1)) ↔ m = m' ∧ m < 1000 := by
  have hbound := h.bound
  have htaken := h.taken_iff (min m' 999)
  constructor
  · intro hfree
    have hnot : ¬ min m' 999 < m := by
      rw [← htaken]
      rintro ⟨k, r, hr, hnumber⟩
      exact hfree k r hr hnumber
    omega
  · rintro ⟨rfl, hlt⟩ k r hr hnumber
    have hless := htaken.mp ⟨k, r, hr, hnumber⟩
    omega

/-- The insert of a call adds the next number, or nothing. -/
theorem Numbered.insertNumbered (h : Numbered day m s) {c : Nat}
    (hcall : s.calls.get? c = some call) :
    insertNumbered s call = s.db ∨
      ∃ row, m < 1000 ∧ row.returnNumber = numberOf (prefixOf day) (m + 1) ∧
        insertNumbered s call = { s.db with returns := s.db.returns.insert row } := by
  obtain ⟨m', hm', _, hcallNumber⟩ := h.calls c call hcall
  unfold NumberDesk.insertNumbered
  rw [hcallNumber]
  cases hcreate : createReturn s.db (numberOf (prefixOf day) (min m' 999 + 1)) call.request with
  | error e => exact Or.inl rfl
  | ok out =>
    obtain ⟨hfree, row, hnumber, hout⟩ := createReturn_number hcreate
    obtain ⟨rfl, hlt⟩ := (h.free_iff hm').mp hfree
    rw [Nat.min_eq_left (by omega)] at hnumber
    exact Or.inr ⟨row, hlt, hnumber, hout⟩

theorem Numbered.closeCall (h : Numbered day m s) (c : Nat) : Numbered day m (s.closeCall c) := by
  refine ⟨h.bound, h.numbers, fun c' call hcall => ?_⟩
  exact h.calls c' call (Table.of_get?_delete hcall)

/-- Every step keeps the numbering. -/
theorem Numbered.step (h : Numbered day m s) {e : NumberEvent}
    (hstep : NumberDesk.step day s e = some s') : ∃ m, Numbered day m s' := by
  cases e with
  | query now request =>
    dsimp only [NumberDesk.step] at hstep
    split at hstep
    · rename_i hnow
      rw [h.generate hnow] at hstep
      cases hstep
      refine ⟨m, h.bound, h.numbers, fun c call hcall => ?_⟩
      rcases Table.insert_cases hcall with ⟨_, rfl⟩ | hold
      · exact ⟨m, le_rfl, h.lastReturn, rfl⟩
      · exact h.calls c call hold
    · cases hstep
  | lock c =>
    dsimp only [NumberDesk.step] at hstep
    split at hstep
    · cases hstep
    · split at hstep
      · cases hstep
        refine ⟨m, h.bound, h.numbers, fun c' call hcall => ?_⟩
        dsimp only at hcall
        rcases Table.modify_cases hcall with ⟨before, _, hbefore, rfl⟩ | ⟨_, hcall⟩
        · exact h.calls c' before hbefore
        · exact h.calls c' call hcall
      · cases hstep
  | create c =>
    dsimp only [NumberDesk.step] at hstep
    split at hstep
    · cases hstep
    · rename_i call hcall
      split at hstep
      · cases hstep
        rcases h.insertNumbered hcall with hsame | ⟨row, hlt, hnumber, hinsert⟩
        · refine ⟨m, Numbered.closeCall ?_ c⟩
          rw [hsame]
          exact h
        · refine ⟨m + 1, Numbered.closeCall ⟨hlt, ?_, fun c' call' hcall' => ?_⟩ c⟩
          · dsimp only
            rw [hinsert, todaysNumbers_insert, hnumber, if_pos (startsWith_numberOf _ _),
              h.numbers, List.range_succ, List.map_append]
            rfl
          · obtain ⟨m', hm', hcall''⟩ := h.calls c' call' hcall'
            exact ⟨m', hm'.trans (Nat.le_succ m), hcall''⟩
      · cases hstep
  | rollback c =>
    cases hstep
    exact ⟨m, h.closeCall c⟩
  | other row =>
    dsimp only [NumberDesk.step] at hstep
    split at hstep
    · rename_i hother
      cases hstep
      refine ⟨m, h.bound, ?_, h.calls⟩
      dsimp only
      rw [todaysNumbers_insert, hother, if_neg Bool.false_ne_true, List.append_nil]
      exact h.numbers
    · cases hstep

/-- The desk at the start of the day. -/
def start (db : Db) : NumberDesk := { db := db }

theorem numbered_run {db : Db} {es : List NumberEvent}
    (hnone : todaysNumbers db (prefixOf day) = [])
    (h : Run (NumberDesk.step day) (fun _ _ => True) (start db) es s) : ∃ m, Numbered day m s := by
  refine h.invariant (fun s => ∃ m, Numbered day m s) ?_ fun s e u hI _ hstep => ?_
  · exact ⟨0, Nat.zero_le _, hnone, nofun⟩
  · obtain ⟨m, hm⟩ := hI
    exact hm.step hstep

end

end NumberDesk

open NumberDesk

/-- No return of the database has the number. -/
def IsFresh (db : Db) (number : String) : Prop :=
  ∀ k r, db.returns.get? k = some r → r.returnNumber ≠ number

/-- After every run of the day, a query answers with a number that no return
has exactly when the day has fewer than 1000 returns.  The number of an open
call is one that no return has exactly when, also, the last return of the day
is still the one that its query saw. -/
theorem return_number_fresh_iff {day : Nat} {db : Db} {s : NumberDesk} {es : List NumberEvent}
    (hnone : todaysNumbers db (prefixOf day) = [])
    (h : Run (NumberDesk.step day) (fun _ _ => True) (start db) es s) :
    (∀ now, now / 86400 = day → ∃ number, generateReturnNumber s.db now = .ok number ∧
      (IsFresh s.db number ↔ (todaysNumbers s.db (prefixOf day)).length < 1000)) ∧
    ∀ c call, s.calls.get? c = some call →
      (IsFresh s.db call.number ↔
        lastReturn s.db (prefixOf day) = call.seen ∧
          (todaysNumbers s.db (prefixOf day)).length < 1000) := by
  obtain ⟨m, hm⟩ := numbered_run hnone h
  have hcount : (todaysNumbers s.db (prefixOf day)).length = m := by
    rw [hm.numbers, List.length_map, List.length_range]
  rw [hcount]
  refine ⟨fun now hnow => ⟨_, hm.generate hnow, ?_⟩, fun c call hcall => ?_⟩
  · unfold IsFresh
    rw [hm.free_iff le_rfl]
    exact and_iff_right rfl
  · obtain ⟨m', hm', hseen, hnumber⟩ := hm.calls c call hcall
    unfold IsFresh
    rw [hnumber, hm.free_iff hm', hm.lastReturn, hseen]
    constructor
    · rintro ⟨rfl, hlt⟩
      exact ⟨rfl, hlt⟩
    · rintro ⟨hlast, hlt⟩
      exact ⟨(lastOf_inj hm' hlt).mp hlast, hlt⟩

/-- A delivered order, and no return. -/
def deliveredShop : Db := (World.shop .delivered .done).db

/-- A refund of its one item. -/
def bookReturn : ReturnRequest :=
  { order := 1, user := 7, type := .refund, lines := [{ orderItem := 0, quantity := 1 }] }

/-- The second call asks after the first has committed, and waits for no one. -/
theorem second_return_number_fresh :
    ∃ s call, Run (NumberDesk.step 0) (fun _ _ => True) (start deliveredShop)
        [.query 5 bookReturn, .create 1, .query 6 bookReturn, .lock 2] s ∧
      s.calls.get? 2 = some call ∧ call.number = "RET19700101002" ∧
      IsFresh s.db call.number := by
  obtain ⟨s, hrun, hstate⟩ := Run.exists_of_execIf (by decide +kernel :
    (execIf (NumberDesk.step 0) (fun _ _ => true) (start deliveredShop)
      [.query 5 bookReturn, .create 1, .query 6 bookReturn, .lock 2]).any
      (fun s => (s.calls.get? 2).any fun call => decide (call.number = "RET19700101002" ∧
        lastReturn s.db (prefixOf 0) = call.seen ∧
        (todaysNumbers s.db (prefixOf 0)).length < 1000)) = true)
  obtain ⟨call, hcall, hfields⟩ := (Option.any_eq_true _ _).mp hstate
  obtain ⟨hnumber, hcond⟩ := of_decide_eq_true hfields
  have hrun' := hrun.mono fun _ _ _ => trivial
  exact ⟨s, call, hrun', hcall, hnumber,
    ((return_number_fresh_iff (by decide +kernel) hrun').2 2 call hcall).mpr hcond⟩

/-- Two calls on a day without returns lock nothing and get one number; the
second to commit is refused by the unique column. -/
theorem concurrent_return_numbers_collide :
    ∃ s call, Run (NumberDesk.step 0) (fun _ _ => True) (start deliveredShop)
        [.query 5 bookReturn, .query 5 bookReturn, .create 1] s ∧
      s.calls.get? 2 = some call ∧ holds call = true ∧
      (s.db.returns.get? 1).map Return.returnNumber = some call.number ∧
      insertNumbered s call = s.db := by
  obtain ⟨s, hrun, hstate⟩ := Run.exists_of_execIf (by decide +kernel :
    (execIf (NumberDesk.step 0) (fun _ _ => true) (start deliveredShop)
      [.query 5 bookReturn, .query 5 bookReturn, .create 1]).any
      (fun s => (s.calls.get? 2).any fun call => decide (holds call = true ∧
        (s.db.returns.get? 1).map Return.returnNumber = some call.number)) = true)
  obtain ⟨call, hcall, hfields⟩ := (Option.any_eq_true _ _).mp hstate
  obtain ⟨hholds, hnumber⟩ := of_decide_eq_true hfields
  obtain ⟨row, hrow, hrowNumber⟩ := Option.map_eq_some_iff.mp hnumber
  refine ⟨s, call, hrun.mono fun _ _ _ => trivial, hcall, hholds, hnumber, ?_⟩
  unfold insertNumbered
  cases hcreate : createReturn s.db call.number call.request with
  | error e => rfl
  | ok out => exact absurd hrowNumber ((createReturn_number hcreate).1 1 row hrow)

end Shopping
