import Shopping.System.ReturnDesk

/-!
# The way of a return through its statuses

The steps of the seller lock the row and check its status again.  The two
actions of the customer do not: `ReturnUpdateSerializer` writes the whole row
as it was read, and `destroy` deletes the row whatever became of it.  Each is a
read and a write here, so the steps of the seller can come between.

`StepForward` says what a step may do to the returns: a status goes one place
on, only a return that is still requested disappears, and a time or a reason
is either kept or the one of this very step.  `onTime` is the condition on the
two writes.  A run keeps to the first exactly when it keeps to the second.
-/

namespace Shopping

open ReturnService

/-! ## The desk with its cancellations -/

/-- The desk, and the returns that passed the checks of `destroy`. -/
structure ReturnWorkflow where
  desk : ReturnDesk
  destroyReads : List Nat := []

inductive WorkflowEvent where
  | desk (e : ReturnEvent)
  | readForDestroy (user : UserId) (id : Nat)
  /-- The delete after the n-th of these reads. -/
  | delete (n : Nat)

namespace ReturnWorkflow

def returns (s : ReturnWorkflow) : Table Return := s.desk.db.returns

def run (s : ReturnWorkflow) (now : Time) : WorkflowEvent → ReturnWorkflow
  | .desk e => { s with desk := s.desk.run now e }
  | .readForDestroy user id =>
    match readForDestroy s.desk.db user id with
    | .error _ => s
    | .ok _ => { s with destroyReads := s.destroyReads ++ [id] }
  | .delete n =>
    match s.destroyReads[n]? with
    | none => s
    | some id => { s with desk := { s.desk with db := deleteReturn s.desk.db id } }

/-- The step of the workflow: every event can happen at any time. -/
def step (s : ReturnWorkflow) (e : Time × WorkflowEvent) : Option ReturnWorkflow :=
  some (s.run e.1 e.2)

end ReturnWorkflow

/-! ## Forward -/

/-- The places of a return, and the way from one to the next. -/
def ReturnStatus.isForward : ReturnStatus → ReturnStatus → Bool
  | .requested, .approved | .requested, .rejected | .approved, .shipping
  | .shipping, .received | .received, .completed => true
  | _, _ => false

/-- What a step at `now` may do to the row of the return `id`. -/
structure MovesForward (now : Time) (e : WorkflowEvent) (id : Nat) (r r' : Return) : Prop where
  status : r'.status = r.status ∨ r.status.isForward r'.status = true
  approvedAt : r'.approvedAt = r.approvedAt ∨ r'.approvedAt = some now
  completedAt : r'.completedAt = r.completedAt ∨ r'.completedAt = some now
  rejectedReason : r'.rejectedReason = r.rejectedReason ∨
    e = .desk (.reject id r'.rejectedReason)

/-- What a step may do to the returns. -/
structure StepForward (s : ReturnWorkflow) (e : Time × WorkflowEvent) : Prop where
  moved : ∀ id r r', s.returns.get? id = some r → (s.run e.1 e.2).returns.get? id = some r' →
    MovesForward e.1 e.2 id r r'
  deleted : ∀ id r, s.returns.get? id = some r → (s.run e.1 e.2).returns.get? id = none →
    r.status = .requested
  created : ∀ id r, s.returns.get? id = none → (s.run e.1 e.2).returns.get? id = some r →
    r.status = .requested

/-- A tracking number is written to a return that has not arrived yet, and a
return is deleted before the seller decided on it. -/
def onTime (s : ReturnWorkflow) (e : Time × WorkflowEvent) : Bool :=
  match e.2 with
  | .desk (.writeTracking n) =>
    (s.desk.trackingReads[n]?).all fun x => (s.returns.get? x.1).any fun r =>
      decide (r.status = .approved) || decide (r.status = .shipping)
  | .delete n =>
    (s.destroyReads[n]?).all fun id => (s.returns.get? id).all fun r =>
      decide (r.status = .requested)
  | _ => true

/-! ## What a step does -/

/-- The moves of the seller: each knows the place it starts from. -/
inductive SellerMove (now : Time) (id : Nat) (r : Return) : WorkflowEvent → Return → Prop
  | approve {e : WorkflowEvent} : r.status = .requested → SellerMove now id r e (markApproved now r)
  | reject {reason : String} :
      r.status = .requested →
        SellerMove now id r (.desk (.reject id reason)) (markRejected reason r)
  | receive {e : WorkflowEvent} : r.status = .shipping → SellerMove now id r e (markReceived r)
  | complete {e : WorkflowEvent} :
      r.status = .received → SellerMove now id r e (markCompleted now r)

/-- All that a step can do to the returns and to what was read of them. -/
inductive Stepped (now : Time) (s : ReturnWorkflow) (e : WorkflowEvent) (t : ReturnWorkflow) : Prop
  | quiet : t.returns = s.returns → t.desk.trackingReads = s.desk.trackingReads → Stepped now s e t
  | read {id : Nat} {row : Return} : s.returns.get? id = some row → row.status = .approved →
      t.returns = s.returns → t.desk.trackingReads = s.desk.trackingReads ++ [(id, row)] →
      Stepped now s e t
  | create {row : Return} : row.status = .requested → t.returns = s.returns.insert row →
      t.desk.trackingReads = s.desk.trackingReads → Stepped now s e t
  | move {id : Nat} {r r' : Return} : Table.Updates s.returns t.returns id r r' →
      SellerMove now id r e r' → t.desk.trackingReads = s.desk.trackingReads → Stepped now s e t
  | track {n id : Nat} {row : Return} : e = .desk (.writeTracking n) →
      s.desk.trackingReads[n]? = some (id, row) →
      t.returns = (updateTracking s.desk.db id row).returns →
      t.desk.trackingReads = s.desk.trackingReads → Stepped now s e t
  | delete {n id : Nat} : e = .delete n → s.destroyReads[n]? = some id →
      t.returns = s.returns.delete (fun k _ => k == id) →
      t.desk.trackingReads = s.desk.trackingReads → Stepped now s e t

/-- A call of the desk that raises changes nothing. -/
theorem Stepped.after {α : Type} {now : Time} {s : ReturnWorkflow} {e : WorkflowEvent}
    {x : Except ShopError α} {f : α → ReturnDesk}
    (h : ∀ a, x = .ok a → Stepped now s e { s with desk := f a }) :
    Stepped now s e { s with desk := s.desk.after x f } := by
  cases x with
  | error _ => exact .quiet rfl rfl
  | ok a => exact h a rfl

theorem run_stepped (now : Time) (s : ReturnWorkflow) (e : WorkflowEvent) :
    Stepped now s e (s.run now e) := by
  cases e with
  | readForDestroy user id =>
    simp only [ReturnWorkflow.run]
    cases readForDestroy s.desk.db user id with
    | error _ => exact .quiet rfl rfl
    | ok _ => exact .quiet rfl rfl
  | delete n =>
    simp only [ReturnWorkflow.run]
    cases hread : s.destroyReads[n]? with
    | none => exact .quiet rfl rfl
    | some id => exact .delete rfl hread rfl rfl
  | desk e =>
    cases e with
    | validate user data =>
      apply Stepped.after
      intro request _
      exact .quiet rfl rfl
    | create n returnNumber =>
      simp only [ReturnWorkflow.run, ReturnDesk.run]
      cases hrequest : s.desk.requests[n]? with
      | none => exact .quiet rfl rfl
      | some request =>
        apply Stepped.after
        intro out hout
        obtain ⟨row, _, _, _, _, _, _, _, hstatus, _, hdb⟩ := createReturn_ok hout
        refine .create hstatus ?_ rfl
        show out.2.returns = s.desk.db.returns.insert row
        rw [hdb]
    | approve id =>
      apply Stepped.after
      intro db hdb
      obtain ⟨r, hget, hstatus, rfl⟩ := moveReturn_ok hdb
      exact .move (Table.updates_modify hget _) (.approve hstatus) rfl
    | reject id reason =>
      apply Stepped.after
      intro db hdb
      obtain ⟨r, hget, hstatus, rfl⟩ := moveReturn_ok hdb
      exact .move (Table.updates_modify hget _) (.reject hstatus) rfl
    | readForTracking id company number =>
      apply Stepped.after
      intro row hrow
      obtain ⟨hget, hstatus⟩ := readForTracking_ok hrow
      exact .read hget hstatus rfl rfl
    | writeTracking n =>
      simp only [ReturnWorkflow.run, ReturnDesk.run]
      cases hread : s.desk.trackingReads[n]? with
      | none => exact .quiet rfl rfl
      | some x =>
        obtain ⟨id, row⟩ := x
        exact .track rfl hread rfl rfl
    | confirmReceive id =>
      apply Stepped.after
      intro db hdb
      obtain ⟨r, hget, hstatus, rfl⟩ := moveReturn_ok hdb
      exact .move (Table.updates_modify hget _) (.receive hstatus) rfl
    | completeRefund id toss =>
      simp only [ReturnWorkflow.run, ReturnDesk.run]
      cases hget : s.desk.db.returns.get? id with
      | none => exact .quiet rfl rfl
      | some _ =>
        apply Stepped.after
        intro out hout
        obtain ⟨split, done⟩ := out
        obtain ⟨r, order, hc⟩ := completeRefund_ok hout
        have hu : Table.Updates s.desk.db.returns done.returns id r (markCompleted now r) := by
          rw [hc.returns]
          exact Table.updates_modify hc.found _
        exact .move hu (.complete hc.received) rfl
    | completeExchange id =>
      apply Stepped.after
      intro db hdb
      obtain ⟨r, products, hget, _, hstatus, rfl⟩ := completeExchange_ok hdb
      exact .move (Table.updates_modify hget _) (.complete hstatus) rfl

/-! ## The two writes of the customer -/

section

variable {now : Time} {s : ReturnWorkflow} {e : WorkflowEvent} {id n : Nat} {row r r' : Return}

theorem onTime_track (hread : s.desk.trackingReads[n]? = some (id, row)) :
    onTime s (now, .desk (.writeTracking n)) = true ↔
      ∃ r, s.returns.get? id = some r ∧ (r.status = .approved ∨ r.status = .shipping) := by
  simp [onTime, hread, Option.any_eq_true]

theorem onTime_delete (hread : s.destroyReads[n]? = some id) :
    onTime s (now, .delete n) = true ↔
      ∀ r, s.returns.get? id = some r → r.status = .requested := by
  simp [onTime, hread, Option.all_eq_true]

/-- The tracking number of a return that is still there. -/
theorem track_updates {t : ReturnWorkflow} (hget : s.returns.get? id = some r)
    (hreturns : t.returns = (updateTracking s.desk.db id row).returns) :
    Table.Updates s.returns t.returns id r
      { row with status := .shipping, items := r.items } := by
  have hitems : (s.desk.db.returns.get? id).elim [] Return.items = r.items := by
    show (s.returns.get? id).elim [] Return.items = r.items
    rw [hget]
    rfl
  rw [hreturns]
  unfold updateTracking
  rw [hitems]
  exact Table.updates_put hget _

theorem get?_deleted {t : ReturnWorkflow}
    (hreturns : t.returns = s.returns.delete fun k _ => k == id) (j : Nat) :
    t.returns.get? j = if j = id then none else s.returns.get? j := by
  rw [hreturns, Table.get?_delete]
  by_cases hj : j = id
  · simp [hj]
  · cases s.returns.get? j with
    | none => simp
    | some r => simp [hj, Option.filter]

/-- Where a return can be that was approved when `row` was read.  Until it has
arrived it has the times and the reason that were read. -/
structure ReadApproved (row r : Return) : Prop where
  decided : r.status ≠ .requested ∧ r.status ≠ .rejected
  stamps : r.status = .approved ∨ r.status = .shipping →
    r.approvedAt = row.approvedAt ∧ r.completedAt = row.completedAt ∧
      r.rejectedReason = row.rejectedReason

/-- The returns that a tracking number was read for are still there. -/
def ReadsThere (s : ReturnWorkflow) : Prop :=
  ∀ x ∈ s.desk.trackingReads, ∃ r, s.returns.get? x.1 = some r ∧ ReadApproved x.2 r

/-- Reads of the same row stay good when the row moves on. -/
theorem ReadsThere.updates {t : ReturnWorkflow} (hs : ReadsThere s)
    (hu : Table.Updates s.returns t.returns id r r')
    (hmove : ∀ row, ReadApproved row r → ReadApproved row r')
    (hreads : t.desk.trackingReads = s.desk.trackingReads) : ReadsThere t := by
  intro x hx
  rw [hreads] at hx
  obtain ⟨q, hq, hread⟩ := hs x hx
  rw [hu.after]
  by_cases hid : x.1 = id
  · rw [hid, hu.before] at hq
    cases hq
    exact ⟨r', if_pos hid, hmove x.2 hread⟩
  · exact ⟨q, by rw [if_neg hid, hq], hread⟩

/-- A return that was approved when it was read only moves on from there. -/
theorem SellerMove.readApproved (h : SellerMove now id r e r') (hread : ReadApproved row r) :
    ReadApproved row r' := by
  cases h with
  | approve hstatus => exact absurd hstatus hread.decided.1
  | reject hstatus => exact absurd hstatus hread.decided.1
  | receive _ => exact ⟨by simp [markReceived], by simp [markReceived]⟩
  | complete _ => exact ⟨by simp [markCompleted], by simp [markCompleted]⟩

/-- The row that the tracking number makes of a return that has not arrived
yet. -/
theorem ReadApproved.tracked {items : List ReturnItem} {other : Return}
    (hrow : ReadApproved row r) (hother : ReadApproved other r)
    (hopen : r.status = .approved ∨ r.status = .shipping) :
    ReadApproved other { row with status := .shipping, items := items } := by
  obtain ⟨happroved, hcompleted, hreason⟩ := hrow.stamps hopen
  obtain ⟨happroved', hcompleted', hreason'⟩ := hother.stamps hopen
  refine ⟨⟨by simp, by simp⟩, fun _ => ⟨?_, ?_, ?_⟩⟩
  · exact happroved.symm.trans happroved'
  · exact hcompleted.symm.trans hcompleted'
  · exact hreason.symm.trans hreason'

theorem readsThere_step (hs : ReadsThere s) (hok : onTime s (now, e) = true) :
    ReadsThere (s.run now e) := by
  cases run_stepped now s e with
  | quiet hreturns hreads =>
    intro x hx
    rw [hreads] at hx
    rw [hreturns]
    exact hs x hx
  | read hget hstatus hreturns hreads =>
    intro x hx
    rw [hreads, List.mem_append] at hx
    rw [hreturns]
    rcases hx with hx | hx
    · exact hs x hx
    · cases List.mem_singleton.mp hx
      exact ⟨_, hget, by simp [hstatus], fun _ => ⟨rfl, rfl, rfl⟩⟩
  | create hstatus hreturns hreads =>
    intro x hx
    rw [hreads] at hx
    obtain ⟨q, hq, hread⟩ := hs x hx
    exact ⟨q, by rw [hreturns, Table.get?_insert_of_some hq], hread⟩
  | move hu hmove hreads => exact hs.updates hu (fun _ h => hmove.readApproved h) hreads
  | track he hread hreturns hreads =>
    subst he
    obtain ⟨q, hq, hopen⟩ := (onTime_track hread).mp hok
    obtain ⟨q', hq', hrow⟩ := hs _ (List.mem_of_getElem? hread)
    obtain rfl : q = q' := Option.some.inj (hq.symm.trans hq')
    have hu := track_updates hq hreturns
    exact hs.updates hu (fun _ hother => hrow.tracked hother hopen) hreads
  | delete he hread hreturns hreads =>
    subst he
    intro x hx
    rw [hreads] at hx
    obtain ⟨q, hq, happroved⟩ := hs x hx
    refine ⟨q, ?_, happroved⟩
    rw [get?_deleted hreturns, hq]
    -- a return that is deleted in time was not approved, so it is another one
    refine if_neg fun hid => ?_
    rw [hid] at hq
    exact happroved.decided.1 ((onTime_delete hread).mp hok q hq)

/-! ## On time is forward -/

theorem MovesForward.refl : MovesForward now e id r r :=
  ⟨Or.inl rfl, Or.inl rfl, Or.inl rfl, Or.inl rfl⟩

theorem SellerMove.forward (h : SellerMove now id r e r') : MovesForward now e id r r' := by
  cases h with
  | approve hstatus =>
    exact ⟨Or.inr (by rw [hstatus]; rfl), Or.inr rfl, Or.inl rfl, Or.inl rfl⟩
  | reject hstatus =>
    exact ⟨Or.inr (by rw [hstatus]; rfl), Or.inl rfl, Or.inl rfl, Or.inr rfl⟩
  | receive hstatus =>
    exact ⟨Or.inr (by rw [hstatus]; rfl), Or.inl rfl, Or.inl rfl, Or.inl rfl⟩
  | complete hstatus =>
    exact ⟨Or.inr (by rw [hstatus]; rfl), Or.inl rfl, Or.inr rfl, Or.inl rfl⟩

/-- The tracking number of a return that has not arrived yet. -/
theorem ReadApproved.forward {items : List ReturnItem} (h : ReadApproved row r)
    (hopen : r.status = .approved ∨ r.status = .shipping) :
    MovesForward now e id r { row with status := .shipping, items := items } := by
  obtain ⟨happroved, hcompleted, hreason⟩ := h.stamps hopen
  refine ⟨?_, Or.inl happroved.symm, Or.inl hcompleted.symm, Or.inl hreason.symm⟩
  rcases hopen with hstatus | hstatus
  · right
    rw [hstatus]
    rfl
  · left
    rw [hstatus]

theorem StepForward.of_updates (hu : Table.Updates s.returns (s.run now e).returns id r r')
    (hmove : MovesForward now e id r r') : StepForward s (now, e) := by
  constructor
  · intro j q q' hq hq'
    rcases hu.cases hq' with ⟨rfl, rfl⟩ | ⟨hj, hold⟩
    · rw [hu.before] at hq
      cases hq
      exact hmove
    · rw [hq] at hold
      cases hold
      exact .refl
  · intro j q hq hnone
    rw [hu.after] at hnone
    by_cases hj : j = id
    · rw [if_pos hj] at hnone
      cases hnone
    · rw [if_neg hj, hq] at hnone
      cases hnone
  · intro j q hnone hq
    rcases hu.cases hq with ⟨rfl, rfl⟩ | ⟨hj, hold⟩
    · rw [hu.before] at hnone
      cases hnone
    · rw [hnone] at hold
      cases hold

theorem StepForward.of_eq (h : (s.run now e).returns = s.returns) : StepForward s (now, e) := by
  constructor
  · intro j q q' hq hq'
    rw [h, hq] at hq'
    cases hq'
    exact .refl
  · intro j q hq hnone
    rw [h, hq] at hnone
    cases hnone
  · intro j q hnone hq
    rw [h, hnone] at hq
    cases hq

theorem stepForward_of_onTime (hs : ReadsThere s) (hok : onTime s (now, e) = true) :
    StepForward s (now, e) := by
  cases run_stepped now s e with
  | quiet hreturns _ => exact .of_eq hreturns
  | read _ _ hreturns _ => exact .of_eq hreturns
  | create hstatus hreturns _ =>
    constructor
    · intro j q q' hq hq'
      rw [hreturns, Table.get?_insert_of_some hq] at hq'
      cases hq'
      exact .refl
    · intro j q hq hnone
      rw [hreturns, Table.get?_insert_of_some hq] at hnone
      cases hnone
    · intro j q hnone hq
      rw [hreturns, Table.get?_insert, hnone] at hq
      split at hq
      · cases hq
        exact hstatus
      · cases hq
  | move hu hmove _ => exact .of_updates hu hmove.forward
  | track he hread hreturns _ =>
    subst he
    obtain ⟨q, hq, hopen⟩ := (onTime_track hread).mp hok
    obtain ⟨q', hq', hrow⟩ := hs _ (List.mem_of_getElem? hread)
    obtain rfl : q = q' := Option.some.inj (hq.symm.trans hq')
    exact .of_updates (track_updates hq hreturns) (hrow.forward hopen)
  | delete he hread hreturns _ =>
    subst he
    constructor
    · intro j q q' hq hq'
      rw [get?_deleted hreturns, hq] at hq'
      split at hq'
      · cases hq'
      · cases hq'
        exact .refl
    · intro j q hq hnone
      rw [get?_deleted hreturns, hq] at hnone
      split at hnone
      · rename_i hj
        rw [hj] at hq
        exact (onTime_delete hread).mp hok q hq
      · cases hnone
    · intro j q hnone hq
      rw [get?_deleted hreturns, hnone, ite_self] at hq
      cases hq

/-! ## Forward is on time -/

theorem onTime_of_stepForward (hs : ReadsThere s) (h : StepForward s (now, e)) :
    onTime s (now, e) = true := by
  cases e with
  | readForDestroy user id => rfl
  | delete n =>
    cases hread : s.destroyReads[n]? with
    | none => simp [onTime, hread]
    | some id =>
      rw [onTime_delete hread]
      intro r hr
      refine h.deleted id r hr ?_
      have hreturns : (s.run now (.delete n)).returns = s.returns.delete fun k _ => k == id := by
        simp only [ReturnWorkflow.run, hread]
        rfl
      rw [get?_deleted hreturns, if_pos rfl]
  | desk e =>
    cases e with
    | writeTracking n =>
      cases hread : s.desk.trackingReads[n]? with
      | none => simp [onTime, hread]
      | some x =>
        obtain ⟨id, row⟩ := x
        rw [onTime_track hread]
        obtain ⟨r, hr, hrow⟩ := hs _ (List.mem_of_getElem? hread)
        refine ⟨r, hr, ?_⟩
        have hreturns : (s.run now (.desk (.writeTracking n))).returns
            = (updateTracking s.desk.db id row).returns := by
          simp only [ReturnWorkflow.run, ReturnDesk.run, hread]
          rfl
        have hu := track_updates hr hreturns
        have hafter : (s.run now (.desk (.writeTracking n))).returns.get? id
            = some { row with status := .shipping, items := r.items } := by
          rw [hu.after, if_pos rfl]
        -- the status becomes shipping, and only one place leads there
        rcases (h.moved id r _ hr hafter).status with hsame | hforward
        · exact Or.inr hsame.symm
        · left
          revert hforward
          cases r.status <;> simp [ReturnStatus.isForward]
    | validate user data => rfl
    | create k returnNumber => rfl
    | approve k => rfl
    | reject k reason => rfl
    | readForTracking k company number => rfl
    | confirmReceive k => rfl
    | completeRefund k toss => rfl
    | completeExchange k => rfl

end

/-! ## Every run -/

/-- The desk before anything was read. -/
def ReturnWorkflow.start (db : Db) : ReturnWorkflow := { desk := { db := db } }

/-- Every step of a run moves the returns forward exactly when every tracking
number and every deletion of the run is on time. -/
theorem returns_move_forward (db : Db) (es : List (Time × WorkflowEvent)) (t : ReturnWorkflow) :
    Run ReturnWorkflow.step StepForward (.start db) es t ↔
      Run ReturnWorkflow.step (fun s e => onTime s e = true) (.start db) es t := by
  have hstart : ReadsThere (.start db) := by
    intro x hx
    cases hx
  refine (Run.iff_of_invariant ReadsThere hstart ?_ ?_).symm
  · intro s e u hs hok hstep
    cases hstep
    exact readsThere_step hs hok
  · intro s e hs
    exact ⟨stepForward_of_onTime hs, onTime_of_stepForward hs⟩

/-- The book was delivered, and is to be exchanged for another. -/
def exchangeShop : Db :=
  { (World.shop .delivered .done).db with
    returns := Table.empty.insert
      { order := 1, user := 7, returnNumber := "RET001", type := .exchange, refundAmount := 0
        items := [{ product := some 1, quantity := 1 }], exchangeProduct := some 1 } }

/-- The customer sends the form with the tracking number twice. -/
def exchanged : List (Time × WorkflowEvent) :=
  [(1, .desk (.approve 1)), (2, .desk (.readForTracking 1 "우체국택배" "1234")),
    (2, .desk (.readForTracking 1 "우체국택배" "1234")), (3, .desk (.writeTracking 0)),
    (4, .desk (.confirmReceive 1)), (5, .desk (.completeExchange 1))]

/-- The second write of the tracking number comes after the exchange was
completed: the return is on its way again, and has no time of completion. -/
theorem completed_return_ships_again :
    ∃ t, Run ReturnWorkflow.step (fun _ _ => true = true) (.start exchangeShop)
        (exchanged ++ [(6, .desk (.writeTracking 1))]) t ∧
      (t.returns.get? 1).map (fun r => (r.status, r.completedAt)) = some (.shipping, none) ∧
      ¬ Run ReturnWorkflow.step StepForward (.start exchangeShop)
        (exchanged ++ [(6, .desk (.writeTracking 1))]) t := by
  obtain ⟨s, hrun, hs⟩ := Run.exists_of_execIf (by decide +kernel :
    (execIf ReturnWorkflow.step (fun _ _ => true) (.start exchangeShop) exchanged).any (fun s =>
      decide ((s.returns.get? 1).map (fun r => (r.status, r.completedAt))
          = some (.completed, some 5) ∧
        ((s.run 6 (.desk (.writeTracking 1))).returns.get? 1).map
          (fun r => (r.status, r.completedAt)) = some (.shipping, none))) = true)
  obtain ⟨hcompleted, hshipping⟩ := of_decide_eq_true hs
  refine ⟨_, hrun.snoc rfl rfl, hshipping, fun h => ?_⟩
  obtain ⟨s', hrun', hforward, _⟩ := h.last
  obtain rfl : s' = s := hrun'.unique hrun
  rw [Option.map_eq_some_iff] at hcompleted hshipping
  obtain ⟨r, hr, hrstatus⟩ := hcompleted
  obtain ⟨r', hr', hrstatus'⟩ := hshipping
  rw [Prod.mk.injEq] at hrstatus hrstatus'
  rcases (hforward.moved 1 r r' hr hr').status with hsame | hmove
  · rw [hrstatus.1, hrstatus'.1] at hsame
    cases hsame
  · rw [hrstatus.1, hrstatus'.1] at hmove
    cases hmove

end Shopping
