import Mathlib.Data.Rat.Defs
import Shopping.Lib.Calendar
import Shopping.Lib.Deepcopy

/-!
# `RollbackController`: snapshots and rollbacks

The states are dictionaries of arbitrary objects, so they stand in a heap together
with the objects of the callers.  A snapshot and the current state are addresses in
it, and a caller can hand over a state that holds what the controller holds.

The clock readings of a call are arguments of it.  A rollback is modelled without
`apply_fn`, so that no target can fail.
-/

namespace Shopping

/-- What kind of object an address stands for. -/
inductive Kind where
  | dict
  | list
  | tuple
  | set
  | object (cls : String)
  deriving DecidableEq, Repr

/-- Where a value stands in an object: under a text key, or anywhere else. -/
inductive Slot (α : Type) where
  | key (name : String)
  | place (a : α)
  deriving DecidableEq, Repr

/-- The objects of the process. -/
abbrev Memory (α : Type) := Heap Kind (Slot α) α

/-- `{}`. -/
def newDict (α : Type) : Object Kind (Slot α) α := ⟨.dict, Dict.empty⟩

/-! ## Targets -/

/-- `RollbackTarget`. -/
inductive RollbackTarget where
  | config
  | featureFlags
  | rateLimits
  | circuitBreakers
  | database
  | cache
  | all
  deriving DecidableEq, Repr

namespace RollbackTarget

/-- `target.value`. -/
def value : RollbackTarget → String
  | config => "config"
  | featureFlags => "feature_flags"
  | rateLimits => "rate_limits"
  | circuitBreakers => "circuit_breakers"
  | database => "database"
  | cache => "cache"
  | all => "all"

/-- The members in order. -/
def members : List RollbackTarget :=
  [config, featureFlags, rateLimits, circuitBreakers, database, cache, all]

theorem value_injective : Function.Injective value := by
  intro s t h
  cases s <;> cases t <;> first | rfl | exact absurd h (by decide)

/-- `RollbackTarget(text)`. -/
def ofValue? (text : String) : Option RollbackTarget := members.find? fun t => t.value = text

end RollbackTarget

/-- An element of `targets`. -/
inductive TargetArg where
  | target (t : RollbackTarget)
  | text (s : String)
  deriving DecidableEq, Repr

/-- `ValueError`: the text is no value of the enumeration. -/
inductive RollbackError where
  | notATarget (text : String)
  deriving DecidableEq, Repr

/-- `RollbackTarget(t) if isinstance(t, str) else t`. -/
def TargetArg.toTarget : TargetArg → Except RollbackError RollbackTarget
  | target t => .ok t
  | text s =>
    match RollbackTarget.ofValue? s with
    | some t => .ok t
    | none => .error (.notATarget s)

/-- A target can be given by its value. -/
theorem TargetArg.toTarget_value (t : RollbackTarget) : (text t.value).toTarget = .ok t := by
  cases t <;> rfl

/-! ## Clock readings -/

/-- A reading of the local clock, in microseconds. -/
abbrev Instant := Nat

namespace Instant

/-- The parts of a reading: its date, and hours, minutes, seconds and
microseconds of the day. -/
def date (t : Instant) : Date := Date.ofSeconds (t / 1000000)

def hour (t : Instant) : Nat := t / 3600000000 % 24

def minute (t : Instant) : Nat := t / 60000000 % 60

def second (t : Instant) : Nat := t / 1000000 % 60

def microsecond (t : Instant) : Nat := t % 1000000

/-- `strftime("%Y%m%d_%H%M%S")`. -/
def compact (t : Instant) : String :=
  t.date.compact ++ "_" ++ zeroPadded 2 t.hour ++ zeroPadded 2 t.minute ++ zeroPadded 2 t.second

/-- `strftime("%Y%m%d_%H%M%S_%f")`. -/
def stamp (t : Instant) : String := t.compact ++ "_" ++ zeroPadded 6 t.microsecond

/-- `isoformat()`, which leaves out microseconds that are zero. -/
def isoformat (t : Instant) : String :=
  zeroPadded 4 t.date.year ++ "-" ++ zeroPadded 2 t.date.month ++ "-" ++
    zeroPadded 2 t.date.day ++ "T" ++ zeroPadded 2 t.hour ++ ":" ++ zeroPadded 2 t.minute ++
    ":" ++ zeroPadded 2 t.second ++
    (if t.microsecond = 0 then "" else "." ++ zeroPadded 6 t.microsecond)

end Instant

/-! ## The controller -/

/-- `StateSnapshot`. -/
structure StateSnapshot where
  snapshotId : String
  createdAt : String
  state : Nat
  metadata : Nat
  deriving DecidableEq, Repr

/-- `RollbackResult`. -/
structure RollbackResult where
  success : Bool
  rollbackId : String
  triggeredAt : String
  completedAt : Option String
  triggerReason : String
  targetsRolledBack : List String
  snapshotUsed : Option String
  errors : List String
  deriving DecidableEq, Repr

/-- The configuration of a controller, with the defaults of the code. -/
structure RollbackConfig where
  maxSnapshots : Option Nat := some 10
  snapshotEnabled : Bool := true
  snapshotInterval : ℚ := 60
  targets : List TargetArg := [.text "config"]

/-- `RollbackController`, and the objects of the process. -/
structure RollbackController (α : Type) where
  config : RollbackConfig
  heap : Memory α
  snapshots : List StateSnapshot
  currentState : Nat
  rollbackHistory : List RollbackResult
  isRollingBack : Bool
  lastSnapshotTime : Option Instant

/-- `append` to a `deque` of the length `maxlen`: the oldest elements make room. -/
def dequeAppend {β : Type} (maxlen : Option Nat) (queue : List β) (x : β) : List β :=
  match maxlen with
  | none => queue ++ [x]
  | some n => (queue ++ [x]).drop (queue.length + 1 - n)

namespace RollbackController

variable {α : Type} [DecidableEq α]

/-- `__init__`. -/
def init (config : RollbackConfig) (heap : Memory α) : RollbackController α where
  config := config
  heap := heap ++ [newDict α]
  snapshots := []
  currentState := heap.length
  rollbackHistory := []
  isRollingBack := false
  lastSnapshotTime := none

/-! ### Snapshots -/

/-- The interval since the last snapshot is not over. -/
def tooEarly (c : RollbackController α) (now : Instant) : Bool :=
  match c.lastSnapshotTime with
  | none => false
  | some last => decide ((((now : Int) - last : Int) : ℚ) / 1000000 < c.config.snapshotInterval)

/-- `metadata or {}`. -/
def metadataOrNew (heap : Memory α) (metadata : Option Nat) : Nat × Memory α :=
  match metadata with
  | none => (heap.length, heap ++ [newDict α])
  | some m =>
    if (heap[m]?.map fun o => o.fields.entries.isEmpty) = some false then (m, heap)
    else (heap.length, heap ++ [newDict α])

/-- `take_snapshot`. -/
def takeSnapshot (c : RollbackController α) (state : Nat) (metadata : Option Nat) (force : Bool)
    (now : Instant) : Option (Option StateSnapshot × RollbackController α) :=
  if !c.config.snapshotEnabled then some (none, c)
  else if !force && c.tooEarly now then some (none, c)
  else
    (c.heap.deepcopyObject state).bind fun saved =>
      let metadata := metadataOrNew saved.2 metadata
      let snapshot :=
        { snapshotId := "snap_" ++ now.stamp
          createdAt := now.isoformat
          state := saved.1
          metadata := metadata.1 }
      (metadata.2.deepcopyObject state).map fun current =>
        (some snapshot,
          { c with
            heap := current.2
            snapshots := dequeAppend c.config.maxSnapshots c.snapshots snapshot
            currentState := current.1
            lastSnapshotTime := some now })

/-- `get_snapshot_by_id`. -/
def getSnapshotById (c : RollbackController α) (snapshotId : String) : Option StateSnapshot :=
  c.snapshots.find? fun s => s.snapshotId = snapshotId

/-- `get_stable_snapshot`. -/
def getStableSnapshot (c : RollbackController α) (offset : Nat) : Option StateSnapshot :=
  if c.snapshots.length > offset then c.snapshots[c.snapshots.length - (offset + 1)]?
  else c.snapshots.head?

/-! ### Rollbacks -/

/-- The snapshot of a rollback; an empty id counts as none. -/
def chooseSnapshot (c : RollbackController α) (snapshotId : Option String) :
    Option StateSnapshot :=
  match snapshotId with
  | none => c.getStableSnapshot 1
  | some i => if i = "" then c.getStableSnapshot 1 else c.getSnapshotById i

/-- The targets of a rollback. -/
def chooseTargets (c : RollbackController α) (targets : Option (List TargetArg)) :
    Except RollbackError (List RollbackTarget) :=
  (targets.getD c.config.targets).mapM TargetArg.toTarget

/-- `snapshot.state.get(target_value, {})`; the default is the object at `empty`. -/
def stateOf (heap : Memory α) (saved empty : Nat) (target : RollbackTarget) : Ref α :=
  (heap.field? saved (.key target.value)).getD (.addr empty)

/-- One target of the loop: the current state gets a copy of what the snapshot has
under the value of the target. -/
def restore (current saved : Nat) (target : RollbackTarget) (heap : Memory α) :
    Option (Memory α) :=
  -- The default `{}` is built in any case.
  let withDefault := heap ++ [newDict α]
  (withDefault.deepcopy (stateOf withDefault saved heap.length target)).map fun p =>
    p.2.setField current (.key target.value) p.1

/-- The loop over the targets. -/
def restoreAll (current saved : Nat) : List RollbackTarget → Memory α → Option (Memory α)
  | [], heap => some heap
  | target :: targets, heap =>
    (restore current saved target heap).bind fun heap => restoreAll current saved targets heap

/-- The clock readings of a rollback. -/
structure Readings where
  id : Instant
  triggered : Instant
  completed : Instant

/-- The result while another rollback is under way. -/
def inProgress (reason : String) (clock : Readings) : RollbackResult where
  success := false
  rollbackId := "rb_" ++ clock.id.compact
  triggeredAt := clock.triggered.isoformat
  completedAt := none
  triggerReason := reason
  targetsRolledBack := []
  snapshotUsed := none
  errors := ["Rollback already in progress"]

/-- The result where there is no snapshot. -/
def noSnapshot (reason : String) (clock : Readings) : RollbackResult where
  success := false
  rollbackId := "rb_" ++ clock.id.stamp
  triggeredAt := clock.triggered.isoformat
  completedAt := some clock.completed.isoformat
  triggerReason := reason
  targetsRolledBack := []
  snapshotUsed := none
  errors := ["No snapshot available for rollback"]

/-- The result after the loop: without `apply_fn` each target was rolled back, and
there are no errors. -/
def rolledBack (reason : String) (clock : Readings) (snapshot : StateSnapshot)
    (targets : List RollbackTarget) : RollbackResult where
  success := !targets.isEmpty
  rollbackId := "rb_" ++ clock.id.stamp
  triggeredAt := clock.triggered.isoformat
  completedAt := some clock.completed.isoformat
  triggerReason := reason
  targetsRolledBack := targets.map fun t => t.value
  snapshotUsed := some snapshot.snapshotId
  errors := []

/-- The `try` block of `rollback`. -/
def attempt (c : RollbackController α) (reason : String) (snapshotId : Option String)
    (targets : Option (List TargetArg)) (clock : Readings) :
    Option (Except RollbackError RollbackResult × RollbackController α) :=
  match c.chooseSnapshot snapshotId with
  | none => some (.ok (noSnapshot reason clock), c)
  | some snapshot =>
    match c.chooseTargets targets with
    | .error e => some (.error e, c)
    | .ok targets =>
      (restoreAll c.currentState snapshot.state targets c.heap).map fun heap =>
        let result := rolledBack reason clock snapshot targets
        (.ok result, { c with heap, rollbackHistory := c.rollbackHistory ++ [result] })

/-- `rollback`, without `apply_fn`. -/
def rollback (c : RollbackController α) (reason : String) (snapshotId : Option String)
    (targets : Option (List TargetArg)) (clock : Readings) :
    Option (Except RollbackError RollbackResult × RollbackController α) :=
  if c.isRollingBack then some (.ok (inProgress reason clock), c)
  else
    (attempt { c with isRollingBack := true } reason snapshotId targets clock).map fun p =>
      (p.1, { p.2 with isRollingBack := false })

end RollbackController

end Shopping
