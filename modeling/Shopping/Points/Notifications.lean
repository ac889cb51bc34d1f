import Shopping.Points.Runs

/-!
# Expiry notifications

`get_expiring_points_soon` and `send_expiry_notifications` of `PointService`.
The job reads the earn rows that are soon due, mails each user, and then saves
the user's rows, one by one and without a lock.  A save writes the whole
`metadata` column as the job read it, with its two keys added.

`NotifyState` lets any number of jobs and the point operations take turns.
`Ledger.unnotified` forgets the two keys.  No point operation reads them
(`apply_unnotified`), so a run is compared with its point operations alone:
the two agree up to the keys (`OnlyNotified`) as long as every row is saved
with the metadata that it still has (`savesFresh`).
-/

namespace Shopping

namespace PointHistory

/-- The row after `point.save(update_fields=["metadata"])`, when the job read
it as `seen`. -/
def recordNotified (now : Time) (seen r : PointHistory) : PointHistory :=
  { r with metadata := { seen.metadata with expiryNotified := true, notifiedAt := some now } }

/-- The row without the keys of the notification. -/
def unnotified (r : PointHistory) : PointHistory :=
  { r with metadata := { r.metadata with expiryNotified := false, notifiedAt := none } }

end PointHistory

namespace PointService

/-! ## The job -/

/-- `get_expiring_points_soon`, newest first as the model orders it. -/
def getExpiringPointsSoon (L : Ledger) (now : Time) (days : Nat := 7) :
    List (Nat × PointHistory) :=
  (L.histories.select fun _ r =>
    decide (r.type = .earn) &&
      (r.expiresAt.any fun e => decide (now < e) && decide (e ≤ now + days * 86400)) &&
      !r.metadata.expiryNotified).insertionSort fun p q => q.2.createdAt ≤ p.2.createdAt

/-- An entry of `user_points`. -/
structure UserPoints where
  user : UserId
  points : List (Nat × PointHistory) := []
  total : Int := 0

/-- One round of the grouping. -/
def addToUser (groups : List UserPoints) (p : Nat × PointHistory) : List UserPoints :=
  let groups :=
    if groups.any fun g => decide (g.user = p.2.user) then groups
    else groups ++ [{ user := p.2.user }]
  if 0 < p.2.remainingPoints then
    groups.map fun g =>
      if g.user = p.2.user then
        { g with points := g.points ++ [p], total := g.total + p.2.remainingPoints }
      else g
  else groups

/-- `user_points.values()`. -/
def userPoints (rows : List (Nat × PointHistory)) : List UserPoints := rows.foldl addToUser []

end PointService

open PointService

/-- A job: the users that it has not mailed, the rows of the last one that it
has not saved, and `notification_count`. -/
structure NotifyJob where
  users : List UserPoints
  saving : List (Nat × PointHistory) := []
  count : Nat := 0

structure NotifyState where
  now : Time
  ledger : Ledger
  jobs : Table NotifyJob := Table.empty

/-- A point operation, or the next statement of a job; `ok` says whether the
mail or the save went through. -/
inductive NotifyEvent where
  | point (op : PointOp)
  | read
  | mail (job : Nat) (ok : Bool)
  | save (job : Nat) (ok : Bool)

def NotifyEvent.isPoint : NotifyEvent → Bool
  | .point _ => true
  | _ => false

namespace NotifyState

def setJob (s : NotifyState) (j : Nat) (job : NotifyJob) : Table NotifyJob :=
  s.jobs.modify j fun _ => job

/-- The next user of a job.  A mail that raises leaves out the user. -/
def mail (s : NotifyState) (j : Nat) (ok : Bool) : Option NotifyState :=
  match s.jobs.get? j with
  | none => none
  | some job =>
    match job.saving, job.users with
    | [], u :: rest =>
      if 0 < u.total ∧ ok = true then
        some { s with jobs := s.setJob j { job with users := rest, saving := u.points } }
      else some { s with jobs := s.setJob j { job with users := rest } }
    | _, _ => none

/-- The next row of a job.  A save that raises leaves out the user's other
rows. -/
def save (s : NotifyState) (now : Time) (j : Nat) (ok : Bool) : Option NotifyState :=
  match s.jobs.get? j with
  | none => none
  | some job =>
    match job.saving with
    | [] => none
    | (k, seen) :: rest =>
      if ok then
        some { s with
          ledger := s.ledger.saveRow k (PointHistory.recordNotified now seen)
          jobs := s.setJob j
            { job with saving := rest, count := if rest = [] then job.count + 1 else job.count } }
      else some { s with jobs := s.setJob j { job with saving := [] } }

/-- One event, at the clock reading `e.1`. -/
def step (owner : OrderId → UserId) (s : NotifyState) (e : Time × NotifyEvent) :
    Option NotifyState :=
  if e.1 < s.now then none
  else
    let s := { s with now := e.1 }
    match e.2 with
    | .point op =>
      if op.allowed owner = true then some { s with ledger := op.apply owner e.1 s.ledger }
      else none
    | .read =>
      some { s with
        jobs := s.jobs.insert { users := userPoints (getExpiringPointsSoon s.ledger e.1) } }
    | .mail j ok => s.mail j ok
    | .save j ok => s.save e.1 j ok

/-- The row that is saved has the metadata with which the job read it, but for
the keys of other notifications. -/
def savesFresh (s : NotifyState) (e : Time × NotifyEvent) : Bool :=
  match e.2 with
  | .save j true =>
    ((s.jobs.get? j).bind fun job => job.saving.head?).all fun p =>
      (s.ledger.histories.get? p.1).all fun r =>
        decide (r.unnotified.metadata = p.2.unnotified.metadata)
  | _ => true

end NotifyState

/-! ## The point operations do not read the keys -/

/-- The ledger without the keys of the notification. -/
def Ledger.unnotified (L : Ledger) : Ledger :=
  { L with histories := L.histories.mapRows fun _ r => r.unnotified }

/-- A fetched row without the keys. -/
def unnotifiedRow (p : Nat × PointHistory) : Nat × PointHistory := (p.1, p.2.unnotified)

section

variable {owner : OrderId → UserId} {now : Time} {L L' : Ledger}

theorem Ledger.unnotified_setPoints (L : Ledger) (user : UserId) (p : Int) :
    (L.setPoints user p).unnotified = L.unnotified.setPoints user p := rfl

/-- A new row that does not have the keys. -/
theorem Ledger.unnotified_createHistory (L : Ledger) (now : Time) (user : UserId) (p : Int)
    (type : PointType) (order : Option OrderId) {m : Metadata}
    (hm : { m with expiryNotified := false, notifiedAt := none } = m) :
    (L.createHistory now user p type order m).unnotified
      = L.unnotified.createHistory now user p type order m := by
  have hrow : (PointHistory.create now user p (L.points user) type order m).unnotified
      = PointHistory.create now user p (L.points user) type order m := by
    unfold PointHistory.unnotified PointHistory.create
    simp only [hm]
  unfold Ledger.createHistory Ledger.unnotified
  dsimp only
  rw [Table.mapRows_insert, hrow]

theorem Ledger.unnotified_saveRow (L : Ledger) (k : Nat) (f : PointHistory → PointHistory)
    (hf : ∀ r, (f r).unnotified = f r.unnotified) :
    (L.saveRow k f).unnotified = L.unnotified.saveRow k f := by
  unfold Ledger.saveRow Ledger.unnotified
  dsimp only
  rw [Table.mapRows_modify L.histories hf]

/-- A query that does not look at the keys. -/
theorem unnotified_fetch (L : Ledger) {p : Nat → PointHistory → Bool}
    {le : Nat × PointHistory → Nat × PointHistory → Prop} [DecidableRel le]
    (hp : ∀ k r, p k r.unnotified = p k r)
    (hle : ∀ a b, le (unnotifiedRow a) (unnotifiedRow b) ↔ le a b) :
    (L.unnotified.histories.select p).insertionSort le
      = ((L.histories.select p).insertionSort le).map unnotifiedRow := by
  have hselect : L.unnotified.histories.select p = (L.histories.select p).map unnotifiedRow := by
    unfold Ledger.unnotified
    dsimp only
    rw [Table.select_mapRows]
    simp only [hp]
    rfl
  rw [hselect]
  exact (List.map_insertionSort le le unnotifiedRow _ fun a _ b _ => (hle a b).symm).symm

theorem outstanding_unnotified (L : Ledger) (order : OrderId) :
    outstanding L.unnotified order = outstanding L order := by
  funext k
  exact Table.sum_mapRows L.histories (fun _ r => r.unnotified) _

/-! ### `use_points_fifo` -/

theorem consumeLoop_unnotified (now : Time) (L : Ledger) (rows : List (Nat × PointHistory))
    (need : Int) :
    consumeLoop now L.unnotified (rows.map unnotifiedRow) need
      = ((consumeLoop now L rows need).1.unnotified, (consumeLoop now L rows need).2) := by
  induction rows generalizing L need with
  | nil => rfl
  | cons p rest ih =>
    obtain ⟨k, r⟩ := p
    rw [List.map_cons, unnotifiedRow, consumeLoop, consumeLoop]
    have hsame : r.unnotified.remainingPoints = r.remainingPoints := rfl
    rw [hsame]
    by_cases hneed : need ≤ 0
    · rw [if_pos hneed, if_pos hneed]
    · rw [if_neg hneed, if_neg hneed]
      dsimp only
      by_cases hleft : r.remainingPoints ≤ 0
      · rw [if_pos hleft, if_pos hleft]
        exact ih L need
      · rw [if_neg hleft, if_neg hleft]
        rw [← Ledger.unnotified_saveRow L k (PointHistory.recordUse now _) fun _ => rfl, ih]

theorem usePointsFifo_unnotified (L : Ledger) (now : Time) (user : UserId) (amount : Int)
    (type : PointType) (order : Option OrderId) (returnId : Option Nat) :
    (usePointsFifo L.unnotified now user amount type order returnId).2
      = (usePointsFifo L now user amount type order returnId).2.unnotified := by
  have hconsume : consumePointsFifo L.unnotified now user amount type
      = ((consumePointsFifo L now user amount type).1.unnotified,
          (consumePointsFifo L now user amount type).2) := by
    unfold consumePointsFifo availablePoints
    rw [unnotified_fetch L (fun _ _ => rfl) fun _ _ => Iff.rfl, consumeLoop_unnotified]
  unfold usePointsFifo
  cases validatePointUsage amount type minimumUseAmount with
  | some refusal => rfl
  | none =>
    have hpoints : L.unnotified.points = L.points := rfl
    dsimp only
    rw [hpoints, hconsume]
    by_cases hshort : L.points user < amount
    · rw [if_pos hshort, if_pos hshort]
    · rw [if_neg hshort, if_neg hshort]
      dsimp only
      split
      · rfl
      · rw [Ledger.unnotified_createHistory _ now user _ type order rfl]
        rfl

/-! ### `refund_used_points` -/

theorem restoreLoop_unnotified (now : Time) (order : OrderId) (left : Nat → Int) (L : Ledger)
    (rows : List (Nat × PointHistory)) (need : Int) :
    restoreLoop now order left L.unnotified (rows.map unnotifiedRow) need
      = ((restoreLoop now order left L rows need).1.unnotified,
          (restoreLoop now order left L rows need).2) := by
  induction rows generalizing L need with
  | nil => rfl
  | cons p rest ih =>
    obtain ⟨k, r⟩ := p
    rw [List.map_cons, unnotifiedRow, restoreLoop, restoreLoop]
    have hsame : r.unnotified.expiry = r.expiry := rfl
    rw [hsame]
    by_cases hneed : need ≤ 0
    · rw [if_pos hneed, if_pos hneed]
    · rw [if_neg hneed, if_neg hneed]
      dsimp only
      by_cases hdue : r.expiry ≤ now
      · rw [if_pos hdue, if_pos hdue, ih]
      · rw [if_neg hdue, if_neg hdue]
        rw [← Ledger.unnotified_saveRow L k (PointHistory.recordRefund now order _) fun _ => rfl,
          ih]

theorem refundUsedPoints_unnotified (L : Ledger) (now : Time) (user : UserId) (amount : Int)
    (order : OrderId) (type : PointType) (returnId : Option Nat) :
    (refundUsedPoints L.unnotified now user amount order type returnId).2
      = (refundUsedPoints L now user amount order type returnId).2.unnotified := by
  have hrestore : restoreLoop now order (outstanding L.unnotified order) L.unnotified
        (earnRows L.unnotified order) amount
      = ((restoreLoop now order (outstanding L order) L (earnRows L order) amount).1.unnotified,
          (restoreLoop now order (outstanding L order) L (earnRows L order) amount).2) := by
    unfold earnRows
    rw [outstanding_unnotified, unnotified_fetch L (fun _ _ => rfl) fun _ _ => Iff.rfl,
      restoreLoop_unnotified]
  unfold refundUsedPoints
  by_cases hpos : amount ≤ 0
  · rw [if_pos hpos, if_pos hpos]
  · rw [if_neg hpos, if_neg hpos]
    dsimp only
    rw [hrestore]
    split
    · rw [Ledger.unnotified_createHistory _ now user _ .expire (some order) rfl,
        Ledger.unnotified_setPoints,
        Ledger.unnotified_createHistory _ now user amount type (some order) rfl]
      rfl
    · rw [Ledger.unnotified_createHistory _ now user amount type (some order) rfl]
      rfl

/-! ### The expiry -/

theorem expireOne_unnotified (L : Ledger) (now : Time) (k : Nat) (seen : PointHistory) :
    expireOne L.unnotified now k seen
      = (expireOne L now k seen).map fun out => (out.1, out.2.unnotified) := by
  have hget : L.unnotified.histories.get? k
      = (L.histories.get? k).map PointHistory.unnotified := Table.get?_mapRows _ _ _
  unfold expireOne
  rw [hget]
  by_cases h0 : seen.remainingPoints ≤ 0
  · rw [if_pos h0, if_pos h0]
    rfl
  · rw [if_neg h0, if_neg h0]
    cases L.histories.get? k with
    | none => rfl
    | some current =>
      have hexpired : current.unnotified.metadata.expired = current.metadata.expired := rfl
      have hleft : current.unnotified.remainingPoints = current.remainingPoints := rfl
      simp only [Option.map_some, hexpired, hleft]
      by_cases hdone : current.metadata.expired = true
      · rw [if_pos hdone, if_pos hdone]
        rfl
      · rw [if_neg hdone, if_neg hdone]
        by_cases h1 : current.remainingPoints ≤ 0
        · rw [if_pos h1, if_pos h1]
          rfl
        · rw [if_neg h1, if_neg h1]
          simp only [Except.map]
          rw [Ledger.unnotified_saveRow _ k (PointHistory.recordExpiry now _) fun _ => rfl,
            Ledger.unnotified_createHistory _ now _ _ .expire none rfl]
          rfl

theorem expireLoop_unnotified (now : Time) (fails : Nat → Bool) (L : Ledger)
    (rows : List (Nat × PointHistory)) :
    expireLoop now fails L.unnotified (rows.map unnotifiedRow)
      = ((expireLoop now fails L rows).1.unnotified, (expireLoop now fails L rows).2) := by
  induction rows generalizing L with
  | nil => rfl
  | cons p rest ih =>
    obtain ⟨k, r⟩ := p
    rw [List.map_cons, unnotifiedRow, expireLoop, expireLoop]
    by_cases hfail : fails k = true
    · rw [if_pos hfail, if_pos hfail]
      dsimp only
      rw [ih]
    · have hseen : expireOne L.unnotified now k r.unnotified = expireOne L.unnotified now k r := rfl
      rw [if_neg hfail, if_neg hfail, hseen, expireOne_unnotified]
      cases expireOne L now k r with
      | error e =>
        dsimp only [Except.map]
        rw [ih]
      | ok out =>
        dsimp only [Except.map]
        rw [ih]

/-- No point operation reads the keys. -/
theorem apply_unnotified (op : PointOp) (L : Ledger) :
    op.apply owner now L.unnotified = (op.apply owner now L).unnotified := by
  cases op with
  | add user amount type order returnId =>
    have hexists : ∀ o, earnExists L.unnotified o = earnExists L o := fun o =>
      Table.any_mapRows L.histories (fun _ r => r.unnotified) _
    unfold PointOp.apply addPoints
    simp only [hexists]
    by_cases hpos : amount ≤ 0
    · rw [if_pos hpos, if_pos hpos]
    · rw [if_neg hpos, if_neg hpos]
      by_cases hagain : type = .earn ∧ (order.any fun o => earnExists L o) = true
      · rw [if_pos hagain, if_pos hagain]
      · rw [if_neg hagain, if_neg hagain]
        dsimp only
        rw [Ledger.unnotified_createHistory _ now user amount type order rfl]
        rfl
  | use user amount type order returnId =>
    exact usePointsFifo_unnotified L now user amount type order returnId
  | refund order amount type returnId =>
    exact refundUsedPoints_unnotified L now (owner order) amount order type returnId
  | expireOne k stale =>
    have hget : L.unnotified.histories.get? k
        = (L.histories.get? k).map PointHistory.unnotified := Table.get?_mapRows _ _ _
    unfold PointOp.apply
    dsimp only
    rw [hget]
    cases L.histories.get? k with
    | none => rfl
    | some r =>
      have hseen : expireOne L.unnotified now k { r.unnotified with metadata := stale }
          = expireOne L.unnotified now k { r with metadata := stale } := rfl
      simp only [Option.map_some]
      rw [hseen, expireOne_unnotified]
      cases expireOne L now k { r with metadata := stale } with
      | error e => rfl
      | ok out => rfl
  | expireAll fails =>
    have hrows : getExpiredPoints L.unnotified now
        = (getExpiredPoints L now).map unnotifiedRow :=
      unnotified_fetch L (fun _ _ => rfl) fun _ _ => Iff.rfl
    unfold PointOp.apply expirePoints
    dsimp only
    rw [hrows, expireLoop_unnotified]
    split
    · rfl
    · rfl

/-! ## A run and its point operations alone -/

/-- The ledgers differ in the keys of the notification at most. -/
def OnlyNotified (L L' : Ledger) : Prop := L.unnotified = L'.unnotified

theorem OnlyNotified.points (h : OnlyNotified L L') : L.points = L'.points := by
  have hpoints : L.unnotified.points = L'.unnotified.points := by rw [h]
  exact hpoints

theorem OnlyNotified.rows (h : OnlyNotified L L') (k : Nat) :
    (L.histories.get? k).map PointHistory.unnotified
      = (L'.histories.get? k).map PointHistory.unnotified := by
  have hget := congrArg (fun M : Ledger => M.histories.get? k) h
  simpa only [Ledger.unnotified, Table.get?_mapRows] using hget

/-- Every row has the use and the flag that it has in the other ledger. -/
theorem OnlyNotified.used (h : OnlyNotified L L') (k : Nat) :
    (L.histories.get? k).map (fun r => (r.metadata.usedAmount, r.metadata.expired))
      = (L'.histories.get? k).map fun r => (r.metadata.usedAmount, r.metadata.expired) := by
  have hrows := congrArg (Option.map fun r : PointHistory =>
    (r.metadata.usedAmount, r.metadata.expired)) (h.rows k)
  rwa [Option.map_map, Option.map_map] at hrows

theorem OnlyNotified.apply (h : OnlyNotified L L') (op : PointOp) :
    OnlyNotified (op.apply owner now L) (op.apply owner now L') := by
  unfold OnlyNotified at *
  rw [← apply_unnotified, h, apply_unnotified]

/-- A save leaves everything else alone exactly when the row still has the
metadata with which it was read. -/
theorem onlyNotified_save {k : Nat} {seen : PointHistory} :
    OnlyNotified (L.saveRow k (PointHistory.recordNotified now seen)) L ↔
      ∀ r, L.histories.get? k = some r → r.unnotified.metadata = seen.unnotified.metadata := by
  constructor
  · intro h r hr
    have hrow := h.rows k
    unfold Ledger.saveRow at hrow
    rw [Table.get?_modify_self, hr, Option.map_some, Option.map_some, Option.map_some,
      Option.some.injEq] at hrow
    exact (congrArg PointHistory.metadata hrow).symm
  · intro h
    unfold OnlyNotified Ledger.unnotified Ledger.saveRow Table.modify
    dsimp only
    rw [Table.mapRows_mapRows]
    congr 1
    refine Table.mapRows_congr fun j r hr => ?_
    split
    · rename_i hj
      subst hj
      have hsaved : (PointHistory.recordNotified now seen r).unnotified
          = { r with metadata := seen.unnotified.metadata } := rfl
      rw [hsaved, ← h r hr]
      rfl
    · rfl

namespace NotifyState

variable {s u : NotifyState} {e : Time × NotifyEvent}

/-- What an event does to the ledger. -/
theorem step_cases (h : step owner s e = some u) :
    s.now ≤ e.1 ∧ u.now = e.1 ∧
      ((∃ op, e.2 = .point op ∧ op.allowed owner = true ∧
          u.ledger = op.apply owner e.1 s.ledger) ∨
        (e.2.isPoint = false ∧ u.ledger = s.ledger ∧ savesFresh s e = true) ∨
        ∃ k seen, e.2.isPoint = false ∧
          u.ledger = s.ledger.saveRow k (PointHistory.recordNotified e.1 seen) ∧
          (savesFresh s e = true ↔ ∀ r, s.ledger.histories.get? k = some r →
            r.unnotified.metadata = seen.unnotified.metadata)) := by
  obtain ⟨now, ev⟩ := e
  unfold step at h
  by_cases hnow : now < s.now
  · rw [if_pos hnow] at h
    cases h
  · rw [if_neg hnow] at h
    have hle := not_lt.mp hnow
    cases ev with
    | point op =>
      dsimp only at h
      split at h
      · rename_i hop
        cases h
        exact ⟨hle, rfl, Or.inl ⟨op, rfl, hop, rfl⟩⟩
      · cases h
    | read =>
      cases h
      exact ⟨hle, rfl, Or.inr (Or.inl ⟨rfl, rfl, rfl⟩)⟩
    | mail j ok =>
      dsimp only [mail] at h
      split at h
      · cases h
      · split at h
        · split at h
          · cases h
            exact ⟨hle, rfl, Or.inr (Or.inl ⟨rfl, rfl, rfl⟩)⟩
          · cases h
            exact ⟨hle, rfl, Or.inr (Or.inl ⟨rfl, rfl, rfl⟩)⟩
        · cases h
    | save j ok =>
      dsimp only [save] at h
      cases hjob : s.jobs.get? j with
      | none =>
        rw [hjob] at h
        cases h
      | some job =>
        rw [hjob] at h
        dsimp only at h
        cases hsaving : job.saving with
        | nil =>
          rw [hsaving] at h
          cases h
        | cons p rest =>
          obtain ⟨k, seen⟩ := p
          rw [hsaving] at h
          dsimp only at h
          cases ok with
          | false =>
            cases h
            exact ⟨hle, rfl, Or.inr (Or.inl ⟨rfl, rfl, rfl⟩)⟩
          | true =>
            cases h
            refine ⟨hle, rfl, Or.inr (Or.inr ⟨k, seen, rfl, rfl, ?_⟩)⟩
            simp [savesFresh, hjob, hsaving, Option.all_eq_true]

/-- No jobs yet. -/
def start (now : Time) (L : Ledger) : NotifyState := { now := now, ledger := L }

end NotifyState

open NotifyState

/-- A run in which every row is saved with the metadata that it still has
leaves the ledger of its point operations alone, but for the keys of the
notification.  The first save of another kind does not. -/
theorem notifications_lose_nothing {t : Time} {s : NotifyState}
    {es : List (Time × NotifyEvent)}
    (h : Run (step owner) (fun s e => savesFresh s e = true) (start t L) es s) :
    ∃ alone, exec (step owner) (start t L) (es.filter fun e => e.2.isPoint) = some alone ∧
      (∀ k, (s.ledger.histories.get? k).map (fun r => (r.metadata.usedAmount, r.metadata.expired))
        = (alone.ledger.histories.get? k).map
            fun r => (r.metadata.usedAmount, r.metadata.expired)) ∧
      OnlyNotified s.ledger alone.ledger ∧
      ∀ e u, step owner s e = some u → e.2.isPoint = false →
        (OnlyNotified u.ledger alone.ledger ↔ savesFresh s e = true) := by
  let R : NotifyState → NotifyState → Prop := fun s a =>
    a.now ≤ s.now ∧ OnlyNotified s.ledger a.ledger
  have hother : ∀ s e u a, R s a → savesFresh s e = true → step owner s e = some u →
      e.2.isPoint = false → R u a := by
    intro s e u a hR hok hstep hjob
    obtain ⟨hnow, hsame⟩ := hR
    obtain ⟨hle, hclock, hcase⟩ := step_cases hstep
    refine ⟨?_, ?_⟩
    · rw [hclock]
      exact le_trans hnow hle
    · rcases hcase with ⟨op, hop, _⟩ | ⟨_, hledger, _⟩ | ⟨k, seen, _, hledger, hfresh⟩
      · rw [hop] at hjob
        cases hjob
      · rw [hledger]
        exact hsame
      · rw [hledger]
        have hsaved : OnlyNotified (s.ledger.saveRow k (PointHistory.recordNotified e.1 seen))
            s.ledger := onlyNotified_save.mpr (hfresh.mp hok)
        exact hsaved.trans hsame
  have hown : ∀ s e u a, R s a → savesFresh s e = true → step owner s e = some u →
      e.2.isPoint = true → ∃ b, step owner a e = some b ∧ R u b := by
    intro s e u a hR hok hstep hpoint
    obtain ⟨hnow, hsame⟩ := hR
    obtain ⟨hle, hclock, hcase⟩ := step_cases hstep
    rcases hcase with ⟨op, hop, hallowed, hledger⟩ | ⟨hno, _⟩ | ⟨_, _, hno, _⟩
    · refine ⟨{ a with now := e.1, ledger := op.apply owner e.1 a.ledger }, ?_, ?_, ?_⟩
      · unfold step
        rw [if_neg (not_lt.mpr (le_trans hnow hle)), hop]
        simp only [hallowed, if_true]
      · rw [hclock]
      · rw [hledger]
        exact hsame.apply op
    · rw [hno] at hpoint
      cases hpoint
    · rw [hno] at hpoint
      cases hpoint
  have hstart : R (start t L) (start t L) := ⟨le_rfl, rfl⟩
  obtain ⟨alone, halone, _, hsame⟩ :=
    h.erase (fun e => e.2.isPoint) R hstart hother hown
  refine ⟨alone, halone, hsame.used, hsame, fun e u hstep hjob => ?_⟩
  obtain ⟨_, _, hcase⟩ := step_cases hstep
  rcases hcase with ⟨op, hop, _⟩ | ⟨_, hledger, hfresh⟩ | ⟨k, seen, _, hledger, hfresh⟩
  · rw [hop] at hjob
    cases hjob
  · rw [hledger]
    exact iff_of_true hsame hfresh
  · rw [hledger, hfresh, ← onlyNotified_save]
    exact ⟨fun hafter => hafter.trans hsame.symm, fun hsaved => hsaved.trans hsame⟩

/-- 500 points that were earned on the first day, five days before they are
due. -/
def dueSoon : Ledger :=
  (PointOp.add 7 500 .earn none none).apply (fun _ => 7) 0 Ledger.empty

/-- The job reads the row, and the user spends 100 points after the job has
saved it. -/
theorem notifications_lose_nothing_after :
    ∃ s alone, Run (step fun _ => 7) (fun s e => savesFresh s e = true)
        (start 0 dueSoon) [(31104000, .read), (31104001, .mail 1 true), (31104002, .save 1 true),
          (31104003, .point (.use 7 100 .use none none))] s ∧
      exec (step fun _ => 7) (start 0 dueSoon)
        [(31104003, .point (.use 7 100 .use none none))] = some alone ∧
      OnlyNotified s.ledger alone.ledger := by
  obtain ⟨s, hrun, _⟩ := Run.exists_of_execIf (P := fun _ => true) (by decide +kernel :
    (execIf (step fun _ => 7) savesFresh (start 0 dueSoon)
      [(31104000, .read), (31104001, .mail 1 true), (31104002, .save 1 true),
        (31104003, .point (.use 7 100 .use none none))]).any (fun _ => true) = true)
  obtain ⟨alone, halone, _, hsame, _⟩ := notifications_lose_nothing hrun
  exact ⟨s, alone, hrun, halone, hsame⟩

/-- The user spends 300 of the 500 points while the mail is sent.  The save
takes the use off the row again: the row has 500 left, the account 200. -/
theorem notification_undoes_use :
    ∃ s alone, Run (step fun _ => 7) (fun _ _ => True) (start 0 dueSoon)
        [(31104000, .read), (31104001, .mail 1 true),
          (31104002, .point (.use 7 300 .use none none)), (31104003, .save 1 true)] s ∧
      exec (step fun _ => 7) (start 0 dueSoon)
        [(31104002, .point (.use 7 300 .use none none))] = some alone ∧
      s.ledger.points 7 = 200 ∧
      (s.ledger.histories.get? 1).map (fun r => r.metadata.usedAmount) = some 0 ∧
      (alone.ledger.histories.get? 1).map (fun r => r.metadata.usedAmount) = some 300 := by
  obtain ⟨s, hrun, hstate⟩ := Run.exists_of_execIf (by decide +kernel :
    (execIf (step fun _ => 7) (fun _ _ => true) (start 0 dueSoon)
      [(31104000, .read), (31104001, .mail 1 true),
        (31104002, .point (.use 7 300 .use none none)), (31104003, .save 1 true)]).any
      (fun s => decide (s.ledger.points 7 = 200 ∧
        (s.ledger.histories.get? 1).map (fun r => r.metadata.usedAmount) = some 0)) = true)
  obtain ⟨alone, halone, hused⟩ := (Option.any_eq_true _ _).mp (by decide +kernel :
    (exec (step fun _ => 7) (start 0 dueSoon)
      [(31104002, .point (.use 7 300 .use none none))]).any
      (fun s => decide ((s.ledger.histories.get? 1).map (fun r => r.metadata.usedAmount)
        = some 300)) = true)
  obtain ⟨hpoints, hundone⟩ := of_decide_eq_true hstate
  exact ⟨s, alone, hrun.mono fun _ _ _ => trivial, halone, hpoints, hundone,
    of_decide_eq_true hused⟩

end

end Shopping
