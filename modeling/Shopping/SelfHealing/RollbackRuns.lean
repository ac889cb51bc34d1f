import Shopping.Lib.Run
import Shopping.SelfHealing.Rollback

/-!
# The runs of a `RollbackController`

The events of a run are the calls of one controller, and what its callers do with
objects of their own in between.  `Sound` is the invariant: no stored snapshot comes
to the current state.  A new snapshot and the new current state are separate copies
(`takeSnapshot_cases`), and a rollback writes to the current state only
(`rollback_cases`).  `rollback_honest_iff` says when the answer of a rollback is true.
-/

namespace Shopping

namespace RollbackController

open Heap

variable {α : Type} [DecidableEq α]

/-! ## Events -/

/-- A call of the controller, or a step of a caller: a new object, or a write to an
object. -/
inductive Event (α : Type) where
  | allocate (o : Object Kind (Slot α) α)
  | write (i : Nat) (o : Object Kind (Slot α) α)
  | takeSnapshot (state : Nat) (metadata : Option Nat) (force : Bool) (now : Instant)
  | rollback (reason : String) (snapshotId : Option String) (targets : Option (List TargetArg))
      (clock : Readings)

def step (c : RollbackController α) : Event α → Option (RollbackController α)
  | .allocate o => some { c with heap := c.heap ++ [o] }
  | .write i o => some { c with heap := c.heap.set i o }
  | .takeSnapshot state metadata force now =>
    (c.takeSnapshot state metadata force now).map fun p => p.2
  | .rollback reason snapshotId targets clock =>
    (c.rollback reason snapshotId targets clock).map fun p => p.2

/-- The object at `i` is a dictionary. -/
def isDict (c : RollbackController α) (i : Nat) : Bool :=
  c.heap[i]?.any fun o => decide (o.kind = .dict)

/-- The objects that a snapshot holds. -/
def roots (s : StateSnapshot) : List Nat := [s.state, s.metadata]

/-- Callers use objects that are there, and write to none that a stored snapshot
comes to. -/
def Allowed (c : RollbackController α) : Event α → Prop
  | .allocate o => ValidObject c.heap o
  | .write i o =>
    ValidObject c.heap o ∧ ∀ s ∈ c.snapshots, ∀ root ∈ roots s, ¬ c.heap.Reaches root i
  | .takeSnapshot state metadata _ _ =>
    c.isDict state = true ∧ ∀ m, metadata = some m → c.isDict m = true
  | .rollback _ _ _ _ => True

/-- No snapshot comes to the current state, and no rollback is under way between two
calls. -/
structure Sound (c : RollbackController α) : Prop where
  closed : c.heap.Closed
  current : c.currentState < c.heap.length
  stored : ∀ s ∈ c.snapshots, ∀ root ∈ roots s,
    root < c.heap.length ∧ ¬ c.heap.Reaches root c.currentState
  idle : c.isRollingBack = false

omit [DecidableEq α] in
theorem lt_of_isDict {c : RollbackController α} {i : Nat} (h : c.isDict i = true) :
    i < c.heap.length := by
  obtain ⟨o, ho, -⟩ := (Option.any_eq_true _ _).mp h
  exact (List.getElem?_eq_some_iff.mp ho).1

theorem sound_init {heap : Memory α} (hh : heap.Closed) (config : RollbackConfig) :
    Sound (init config heap) where
  closed := hh.append (validObject_newDict heap)
  current := by
    show heap.length < (heap ++ [newDict α]).length
    rw [List.length_append, List.length_singleton]
    omega
  stored s hs := by cases hs
  idle := rfl

theorem mem_dequeAppend {β : Type} {maxlen : Option Nat} {queue : List β} {x y : β}
    (h : y ∈ dequeAppend maxlen queue x) : y ∈ queue ∨ y = x := by
  have hmem : y ∈ queue ++ [x] := by
    cases maxlen with
    | none => exact h
    | some n => exact List.mem_of_mem_drop h
  simpa using hmem

omit [DecidableEq α] in
/-- What the choice finds is stored. -/
theorem mem_of_chooseSnapshot {c : RollbackController α} {snapshotId : Option String}
    {s : StateSnapshot} (h : c.chooseSnapshot snapshotId = some s) : s ∈ c.snapshots := by
  have hstable : c.getStableSnapshot 1 = some s → s ∈ c.snapshots := by
    intro h
    rw [getStableSnapshot] at h
    split at h
    · exact List.mem_of_getElem? h
    · exact List.mem_of_head? h
  cases snapshotId with
  | none => exact hstable h
  | some i =>
    rw [chooseSnapshot] at h
    split at h
    · exact hstable h
    · exact List.mem_of_find?_eq_some h

/-- The metadata of a snapshot: what the caller gave, or a new dictionary. -/
theorem metadataOrNew_spec {heap : Memory α} (hh : heap.Closed) {metadata : Option Nat}
    (hmeta : ∀ m, metadata = some m → m < heap.length) :
    Grows heap (metadataOrNew heap metadata).2 ∧ (metadataOrNew heap metadata).2.Closed ∧
      (metadataOrNew heap metadata).1 < (metadataOrNew heap metadata).2.length := by
  have hnew : Grows heap (heap ++ [newDict α]) ∧ Closed (heap ++ [newDict α]) ∧
      heap.length < (heap ++ [newDict α]).length := by
    refine ⟨grows_append heap _, hh.append (validObject_newDict heap), ?_⟩
    rw [List.length_append, List.length_singleton]
    omega
  cases metadata with
  | none => exact hnew
  | some m =>
    rw [metadataOrNew]
    split
    · exact ⟨.refl heap, hh, hmeta m rfl⟩
    · exact hnew

/-- The snapshot `s` was taken: it stands in the heap `heap`, and the new current
state in objects that came after it. -/
structure Taken (c : RollbackController α) (s : StateSnapshot) (heap : Memory α)
    (c' : RollbackController α) : Prop where
  grows : Grows c.heap heap
  stored : ∀ root ∈ roots s, root < heap.length
  copied : Grows heap c'.heap
  closed : heap.Closed ∧ c'.heap.Closed
  current : heap.length ≤ c'.currentState ∧ c'.currentState < c'.heap.length
  snapshots : c'.snapshots = dequeAppend c.config.maxSnapshots c.snapshots s
  idle : c'.isRollingBack = c.isRollingBack

/-- A snapshot is not taken, or it and then the new current state are copies in
objects that were not there. -/
theorem takeSnapshot_cases {c : RollbackController α} (hs : c.Sound) {state : Nat}
    (hstate : state < c.heap.length) {metadata : Option Nat}
    (hmeta : ∀ m, metadata = some m → m < c.heap.length) (force : Bool) (now : Instant) :
    c.takeSnapshot state metadata force now = some (none, c) ∨
      ∃ s c' heap, c.takeSnapshot state metadata force now = some (some s, c') ∧
        Taken c s heap c' := by
  rw [takeSnapshot]
  split
  · exact .inl rfl
  split
  · exact .inl rfl
  obtain ⟨saved, heap₁, hsaved, hgrow₁, hh₁, hle₁, hlt₁⟩ := exists_deepcopyObject hs.closed hstate
  have hmeta₁ : ∀ m, metadata = some m → m < heap₁.length :=
    fun m hm => (hmeta m hm).trans_le hgrow₁.length_le
  obtain ⟨hgrow₂, hh₂, hlt₂⟩ := metadataOrNew_spec hh₁ hmeta₁
  have hgrow := hgrow₁.trans hgrow₂
  obtain ⟨current, heap₃, hcurrent, hgrow₃, hh₃, hle₃, hlt₃⟩ :=
    exists_deepcopyObject hh₂ (hstate.trans_le hgrow.length_le)
  rw [hsaved, Option.bind_some]
  dsimp only
  rw [hcurrent, Option.map_some]
  refine .inr ⟨_, _, _, rfl, hgrow, ?_, hgrow₃, ⟨hh₂, hh₃⟩, ⟨hle₃, hlt₃⟩, rfl, rfl⟩
  intro root hroot
  rcases List.mem_pair.mp hroot with rfl | rfl
  · exact hlt₁.trans_le hgrow₂.length_le
  · exact hlt₂

/-- What the loop of a rollback to a stored snapshot does. -/
theorem exists_restoreAll {c : RollbackController α} (hs : c.Sound) {s : StateSnapshot}
    (hmem : s ∈ c.snapshots) (targets : List RollbackTarget) :
    ∃ heap', restoreAll c.currentState s.state targets c.heap = some heap' ∧
      Restored c.heap c.currentState s.state targets heap' := by
  obtain ⟨hlt, hapart⟩ := hs.stored s hmem s.state List.mem_cons_self
  exact restoreAll_spec hs.closed hs.current hlt hapart targets

/-- Between two calls no rollback is under way, and the flag is down again after
the call. -/
theorem rollback_eq_attempt {c : RollbackController α} (hidle : c.isRollingBack = false)
    (reason : String) (snapshotId : Option String) (targets : Option (List TargetArg))
    (clock : Readings) :
    c.rollback reason snapshotId targets clock = c.attempt reason snapshotId targets clock := by
  obtain ⟨config, heap, snapshots, currentState, history, rolling, time⟩ := c
  obtain rfl : rolling = false := hidle
  have hchoose : chooseSnapshot ⟨config, heap, snapshots, currentState, history, true, time⟩
      snapshotId = chooseSnapshot ⟨config, heap, snapshots, currentState, history, false, time⟩
        snapshotId := rfl
  have htargets : chooseTargets ⟨config, heap, snapshots, currentState, history, true, time⟩
      targets = chooseTargets ⟨config, heap, snapshots, currentState, history, false, time⟩
        targets := rfl
  rw [rollback, if_neg Bool.false_ne_true, attempt, attempt, hchoose, htargets]
  cases chooseSnapshot ⟨config, heap, snapshots, currentState, history, false, time⟩ snapshotId with
  | none => rfl
  | some s =>
    cases chooseTargets ⟨config, heap, snapshots, currentState, history, false, time⟩ targets with
    | error e => rfl
    | ok ts =>
      dsimp only
      rw [Option.map_map]
      rfl

/-- A rollback finds no snapshot or raises, and changes nothing, or it runs the loop
over the targets. -/
theorem rollback_cases {c : RollbackController α} (hs : c.Sound) (reason : String)
    (snapshotId : Option String) (targets : Option (List TargetArg)) (clock : Readings) :
    (c.chooseSnapshot snapshotId = none ∧
      c.rollback reason snapshotId targets clock = some (.ok (noSnapshot reason clock), c)) ∨
    (∃ s e, c.chooseSnapshot snapshotId = some s ∧ c.chooseTargets targets = .error e ∧
      c.rollback reason snapshotId targets clock = some (.error e, c)) ∨
    ∃ s ts heap', c.chooseSnapshot snapshotId = some s ∧ c.chooseTargets targets = .ok ts ∧
      Restored c.heap c.currentState s.state ts heap' ∧
      c.rollback reason snapshotId targets clock = some (.ok (rolledBack reason clock s ts),
        { c with
          heap := heap'
          rollbackHistory := c.rollbackHistory ++ [rolledBack reason clock s ts] }) := by
  rw [rollback_eq_attempt hs.idle, attempt]
  cases hchoose : c.chooseSnapshot snapshotId with
  | none => exact .inl ⟨rfl, rfl⟩
  | some s =>
    cases htargets : c.chooseTargets targets with
    | error e => exact .inr (.inl ⟨s, e, rfl, rfl, rfl⟩)
    | ok ts =>
      obtain ⟨heap', hloop, hrestored⟩ := exists_restoreAll hs (mem_of_chooseSnapshot hchoose) ts
      refine .inr (.inr ⟨s, ts, heap', rfl, rfl, hrestored, ?_⟩)
      dsimp only
      rw [hloop, Option.map_some]

/-! ## The invariant -/

theorem Sound.allocate {c : RollbackController α} (hs : c.Sound)
    {o : Object Kind (Slot α) α} (ho : ValidObject c.heap o) :
    Sound { c with heap := c.heap ++ [o] } where
  closed := hs.closed.append ho
  current := hs.current.trans_le (grows_append c.heap o).length_le
  stored s hmem root hroot := by
    obtain ⟨hlt, hapart⟩ := hs.stored s hmem root hroot
    refine ⟨hlt.trans_le (grows_append c.heap o).length_le, ?_⟩
    show ¬ Reaches (c.heap ++ [o]) root c.currentState
    rwa [(grows_append c.heap o).reaches_iff hs.closed hlt]
  idle := hs.idle

theorem Sound.write {c : RollbackController α} (hs : c.Sound) {i : Nat}
    {o : Object Kind (Slot α) α} (ho : ValidObject c.heap o)
    (hfree : ∀ s ∈ c.snapshots, ∀ root ∈ roots s, ¬ c.heap.Reaches root i) :
    Sound { c with heap := c.heap.set i o } where
  closed := hs.closed.set ho i
  current := by
    show c.currentState < (c.heap.set i o).length
    rw [List.length_set]
    exact hs.current
  stored s hmem root hroot := by
    obtain ⟨hlt, hapart⟩ := hs.stored s hmem root hroot
    refine ⟨by rwa [List.length_set], ?_⟩
    have hsame : ∀ k, c.heap.Reaches root k → (c.heap.set i o)[k]? = c.heap[k]? := by
      rintro k hk
      refine List.getElem?_set_ne ?_
      rintro rfl
      exact hfree s hmem root hroot hk
    show ¬ Reaches (c.heap.set i o) root c.currentState
    rwa [reaches_congr hsame]
  idle := hs.idle

theorem Sound.takeSnapshot {c c' : RollbackController α} (hs : c.Sound) {state : Nat}
    (hstate : c.isDict state = true) {metadata : Option Nat}
    (hmeta : ∀ m, metadata = some m → c.isDict m = true) {force : Bool} {now : Instant}
    {result : Option StateSnapshot}
    (h : c.takeSnapshot state metadata force now = some (result, c')) : Sound c' := by
  rcases takeSnapshot_cases hs (lt_of_isDict hstate) (fun m hm => lt_of_isDict (hmeta m hm)) force
      now with
    hnone | ⟨s, c'', heap, heq, htaken⟩
  · rw [hnone] at h
    cases h
    exact hs
  · rw [heq] at h
    cases h
    obtain ⟨hclosed, hclosed'⟩ := htaken.closed
    obtain ⟨hle, hlt⟩ := htaken.current
    refine ⟨hclosed', hlt, ?_, htaken.idle.trans hs.idle⟩
    intro t ht root hroot
    -- A stored object is older than the new current state.
    have hold : root < heap.length := by
      rw [htaken.snapshots] at ht
      rcases mem_dequeAppend ht with hmem | rfl
      · exact (hs.stored t hmem root hroot).1.trans_le htaken.grows.length_le
      · exact htaken.stored root hroot
    refine ⟨hold.trans_le htaken.copied.length_le, ?_⟩
    rw [htaken.copied.reaches_iff hclosed hold]
    intro hreach
    have hbefore := hreach.lt hclosed hold
    omega

theorem Sound.restored {c : RollbackController α} (hs : c.Sound) {saved : Nat}
    {targets : List RollbackTarget} {heap' : Memory α}
    (h : Restored c.heap c.currentState saved targets heap') (history : List RollbackResult) :
    Sound { c with heap := heap', rollbackHistory := history } where
  closed := h.closed
  current := hs.current.trans_le h.length_le
  stored s hmem root hroot := by
    obtain ⟨hlt, hapart⟩ := hs.stored s hmem root hroot
    refine ⟨hlt.trans_le h.length_le, ?_⟩
    show ¬ Reaches heap' root c.currentState
    rwa [reaches_congr fun i hi => h.reaches hs.closed hlt hapart hi]
  idle := hs.idle

theorem Sound.step {c c' : RollbackController α} (hs : c.Sound) {e : Event α}
    (hok : c.Allowed e) (h : c.step e = some c') : Sound c' := by
  cases e with
  | allocate o =>
    cases h
    exact hs.allocate hok
  | write i o =>
    cases h
    exact hs.write hok.1 hok.2
  | takeSnapshot state metadata force now =>
    obtain ⟨p, hp, rfl⟩ := Option.map_eq_some_iff.mp h
    exact hs.takeSnapshot hok.1 hok.2 hp
  | rollback reason snapshotId targets clock =>
    obtain ⟨p, hp, rfl⟩ := Option.map_eq_some_iff.mp h
    rcases rollback_cases hs reason snapshotId targets clock with
      ⟨-, heq⟩ | ⟨s, e, -, -, heq⟩ | ⟨s, ts, heap', -, -, hrestored, heq⟩
    · rw [heq] at hp
      cases hp
      exact hs
    · rw [heq] at hp
      cases hp
      exact hs
    · rw [heq] at hp
      cases hp
      exact hs.restored hrestored _

/-- The invariant of a run. -/
theorem sound_run {config : RollbackConfig} {heap : Memory α} (hh : heap.Closed)
    {es : List (Event α)} {c : RollbackController α}
    (h : Run step Allowed (init config heap) es c) : Sound c :=
  h.invariant Sound (sound_init hh config) fun _ _ _ hs hok hstep => hs.step hok hstep

/-! ## What a caller is told -/

/-- No stored snapshot has been modified. -/
def Intact (c c' : RollbackController α) : Prop :=
  c'.snapshots = c.snapshots ∧
    ∀ s ∈ c.snapshots, ∀ root ∈ roots s, ∀ i, c.heap.Reaches root i → c'.heap[i]? = c.heap[i]?

/-- What a rollback of `c` answers is true of the state `c'` that it leaves: success
says that the chosen snapshot is restored, and that there was no snapshot says that
nothing has changed. -/
def Honest (c : RollbackController α) (snapshotId : Option String)
    (targets : Option (List TargetArg)) (result : RollbackResult) (c' : RollbackController α) :
    Prop :=
  (result.success = true → ∃ s ts, c.chooseSnapshot snapshotId = some s ∧
    c.chooseTargets targets = .ok ts ∧ c'.currentState = c.currentState ∧
    Restores c.heap c'.heap c.currentState s.state ts ∧ c.Intact c') ∧
  (result.success = false → result.errors = ["No snapshot available for rollback"] → c' = c)

/-- The chosen snapshot, if there is one, can be restored. -/
def CanRestore (c : RollbackController α) (snapshotId : Option String)
    (targets : Option (List TargetArg)) : Prop :=
  ∀ s ts, c.chooseSnapshot snapshotId = some s → c.chooseTargets targets = .ok ts →
    Restorable c.heap c.currentState s.state ts

/-- A rollback writes to no stored snapshot. -/
theorem intact_of_restored {c : RollbackController α} (hs : c.Sound) {saved : Nat}
    {targets : List RollbackTarget} {heap' : Memory α}
    (h : Restored c.heap c.currentState saved targets heap') (history : List RollbackResult) :
    c.Intact { c with heap := heap', rollbackHistory := history } := by
  refine ⟨rfl, fun s hmem root hroot i hi => ?_⟩
  obtain ⟨hlt, hapart⟩ := hs.stored s hmem root hroot
  exact h.reaches hs.closed hlt hapart hi

/-- In every state that a controller reaches, a rollback with any arguments returns or
raises, and what it answers is true exactly when the snapshot can be restored. -/
theorem rollback_honest_iff {config : RollbackConfig} {heap : Memory α} (hh : heap.Closed)
    {es : List (Event α)} {c : RollbackController α}
    (hrun : Run step Allowed (init config heap) es c) (reason : String)
    (snapshotId : Option String) (targets : Option (List TargetArg)) (clock : Readings) :
    ∃ outcome c', c.rollback reason snapshotId targets clock = some (outcome, c') ∧
      ((∀ result, outcome = .ok result → c.Honest snapshotId targets result c') ↔
        c.CanRestore snapshotId targets) := by
  have hs := sound_run hh hrun
  rcases rollback_cases hs reason snapshotId targets clock with
    ⟨hnone, heq⟩ | ⟨s, e, hchoose, htargets, heq⟩ | ⟨s, ts, heap', hchoose, htargets, hres, heq⟩
  · refine ⟨_, _, heq, iff_of_true ?_ ?_⟩
    · rintro _ ⟨⟩
      exact ⟨fun h => (Bool.false_ne_true h).elim, fun _ _ => rfl⟩
    · intro s ts hchoose
      rw [hnone] at hchoose
      cases hchoose
  · refine ⟨_, _, heq, iff_of_true ?_ ?_⟩
    · intro result hresult
      cases hresult
    · intro s' ts _ hok
      rw [htargets] at hok
      cases hok
  · refine ⟨_, _, heq, ?_⟩
    obtain ⟨hlt, hapart⟩ := hs.stored s (mem_of_chooseSnapshot hchoose) s.state List.mem_cons_self
    have hiff := hres.restores_iff hs.closed hlt hapart
    constructor
    · rintro hhonest s' ts' hchoose' htargets'
      obtain rfl : s = s' := Option.some.inj (hchoose.symm.trans hchoose')
      obtain rfl : ts = ts' := Except.ok.inj (htargets.symm.trans htargets')
      cases ts with
      | nil => exact ⟨by rintro t ⟨⟩, by rintro ⟨⟩⟩
      | cons t ts =>
        obtain ⟨s', ts', hchoose', htargets', -, hrestores, -⟩ := (hhonest _ rfl).1 rfl
        obtain rfl : s = s' := Option.some.inj (hchoose.symm.trans hchoose')
        obtain rfl : t :: ts = ts' := Except.ok.inj (htargets.symm.trans htargets')
        exact hiff.mp hrestores
    · rintro hcan _ ⟨⟩
      refine ⟨fun _ => ⟨s, ts, hchoose, htargets, rfl, ?_, intact_of_restored hs hres _⟩, ?_⟩
      · exact hiff.mpr (hcan s ts hchoose htargets)
      · intro _ herrors
        cases herrors

/-- `{"config": n}`. -/
def configDict (n : Nat) : Object Kind (Slot Nat) Nat :=
  ⟨.dict, Dict.ofList [(.key "config", .atom n)]⟩

/-- Snapshots of `{"config": 1}` and of `{"config": 2}`, a minute apart. -/
def twoSnapshots : List (Event Nat) :=
  [.allocate (configDict 1), .allocate (configDict 2),
    .takeSnapshot 1 none false 1736942400000000, .takeSnapshot 2 none false 1736942460000000]

/-- The events of `twoSnapshots` that are allowed. -/
def permits (c : RollbackController Nat) : Event Nat → Bool
  | .allocate o => o.fields.entries.all fun e => decide (e.2 ∈ [.atom 1, .atom 2])
  | .takeSnapshot state none _ _ => c.isDict state
  | _ => false

theorem allowed_of_permits {c : RollbackController Nat} {e : Event Nat} (h : permits c e = true) :
    c.Allowed e := by
  cases e with
  | allocate o =>
    intro x hx i hi
    have hmem := of_decide_eq_true (List.all_eq_true.mp h x hx)
    rw [hi] at hmem
    simp at hmem
  | takeSnapshot state metadata force now =>
    cases metadata with
    | some m => cases h
    | none => exact ⟨h, fun m hm => by cases hm⟩
  | write i o => cases h
  | rollback reason snapshotId targets clock => cases h

/-- What a rollback of one target to the stable snapshot answers. -/
def answer (c : RollbackController Nat) (target : RollbackTarget) :
    Option (RollbackResult × RollbackController Nat) :=
  (c.rollback "error rate" none (some [.target target]) ⟨0, 0, 0⟩).bind fun p =>
    p.1.toOption.map fun result => (result, p.2)

theorem rollback_of_answer {c c' : RollbackController Nat} {target : RollbackTarget}
    {result : RollbackResult} (h : c.answer target = some (result, c')) :
    c.rollback "error rate" none (some [.target target]) ⟨0, 0, 0⟩ = some (.ok result, c') := by
  obtain ⟨⟨outcome, c''⟩, heq, hp⟩ := Option.bind_eq_some_iff.mp h
  obtain ⟨r, hr, hpair⟩ := Option.map_eq_some_iff.mp hp
  cases hpair
  cases outcome with
  | error e => cases hr
  | ok r' =>
    cases hr
    exact heq

/-- A restore of the key that both snapshots have. -/
theorem rollback_config_honest :
    ∃ c, Run step Allowed (init {} []) twoSnapshots c ∧
      ∃ result c', c.rollback "error rate" none (some [.target .config]) ⟨0, 0, 0⟩ =
          some (.ok result, c') ∧
        result.success = true ∧ c.Honest none (some [.target .config]) result c' := by
  obtain ⟨c, hrun, hend⟩ := Run.exists_of_execIf (by decide +kernel :
    (execIf step permits (init {} []) twoSnapshots).any (fun c =>
      ((c.getStableSnapshot 1).any fun s => (c.heap.field? s.state (.key "config")).isSome) &&
        (c.answer .config).any fun p => p.1.success) = true)
  have hrun : Run step Allowed (init {} []) twoSnapshots c :=
    hrun.mono fun _ _ h => allowed_of_permits h
  obtain ⟨hsaved, hanswer⟩ := Bool.and_eq_true_iff.mp hend
  obtain ⟨s, hs, hkey⟩ := (Option.any_eq_true _ _).mp hsaved
  obtain ⟨⟨result, c'⟩, hanswer, hsuccess⟩ := (Option.any_eq_true _ _).mp hanswer
  have hcan : c.CanRestore none (some [.target .config]) := by
    intro s' ts hchoose htargets
    obtain rfl : s = s' := Option.some.inj (hs.symm.trans hchoose)
    obtain rfl : [RollbackTarget.config] = ts := Except.ok.inj htargets
    refine ⟨?_, ?_⟩
    · rintro t ht -
      obtain rfl := List.mem_singleton.mp ht
      exact Option.isSome_iff_exists.mp hkey
    · intro hall
      cases List.mem_singleton.mp hall
  have hclosed : Closed ([] : Memory Nat) := by
    rintro i f r hf
    cases hf
  obtain ⟨outcome, c'', heq, hiff⟩ := rollback_honest_iff hclosed hrun "error rate" none
    (some [.target .config]) ⟨0, 0, 0⟩
  obtain ⟨rfl, rfl⟩ : outcome = .ok result ∧ c'' = c' := by
    have hsame := heq.symm.trans (rollback_of_answer hanswer)
    cases hsame
    exact ⟨rfl, rfl⟩
  exact ⟨c, hrun, result, c'', heq, hsuccess, hiff.mpr hcan result rfl⟩

/-- What an honest success says of a requested key. -/
theorem Honest.agrees {c c' : RollbackController α} {snapshotId : Option String}
    {targets : Option (List TargetArg)} {result : RollbackResult}
    (h : c.Honest snapshotId targets result c') (hsuccess : result.success = true)
    {s : StateSnapshot} (hchoose : c.chooseSnapshot snapshotId = some s)
    {ts : List RollbackTarget} (htargets : c.chooseTargets targets = .ok ts) {f : Slot α}
    (hf : Requested c.heap s.state ts f) :
    AgreesAt c'.heap c'.currentState c'.heap s.state f ∧
      c'.heap.field? s.state f = c.heap.field? s.state f := by
  obtain ⟨s', ts', hchoose', htargets', hcurrent, hrestores, -, hintact⟩ := h.1 hsuccess
  obtain rfl : s = s' := Option.some.inj (hchoose.symm.trans hchoose')
  obtain rfl : ts = ts' := Except.ok.inj (htargets.symm.trans htargets')
  refine ⟨hcurrent ▸ hrestores.1 f hf, field?_congr ?_ f⟩
  exact hintact s (mem_of_chooseSnapshot hchoose) s.state List.mem_cons_self s.state .refl

/-- A rollback of `ALL` leaves `config` at 2 where the snapshot has 1, and a rollback of
`cache` writes a key that the snapshot does not have.  Both report success. -/
theorem rollback_reports_success :
    ∃ c, Run step Allowed (init {} []) twoSnapshots c ∧
      (∃ result c', c.rollback "error rate" none (some [.target .all]) ⟨0, 0, 0⟩ =
          some (.ok result, c') ∧
        result.success = true ∧ ¬ c.Honest none (some [.target .all]) result c') ∧
      ∃ result c', c.rollback "error rate" none (some [.target .cache]) ⟨0, 0, 0⟩ =
          some (.ok result, c') ∧
        result.success = true ∧ ¬ c.Honest none (some [.target .cache]) result c' := by
  obtain ⟨c, hrun, hend⟩ := Run.exists_of_execIf (by decide +kernel :
    (execIf step permits (init {} []) twoSnapshots).any (fun c =>
      ((c.getStableSnapshot 1).any fun s =>
        decide (c.heap.field? s.state (.key "config") = some (.atom 1)) &&
          decide (c.heap.field? s.state (.key "cache") = none)) &&
      ((c.answer .all).any fun p => p.1.success &&
        decide (p.2.heap.field? p.2.currentState (.key "config") = some (.atom 2))) &&
      (c.answer .cache).any fun p => p.1.success &&
        (p.2.heap.field? p.2.currentState (.key "cache")).isSome) = true)
  have hrun : Run step Allowed (init {} []) twoSnapshots c :=
    hrun.mono fun _ _ h => allowed_of_permits h
  simp only [Bool.and_eq_true, Option.any_eq_true, decide_eq_true_eq] at hend
  obtain ⟨⟨⟨s, hs, hconfig, hcache⟩, ⟨all, allState⟩, hall, hallok, hold⟩, ⟨cache, cacheState⟩,
    hcacheans, hcacheok, hnew⟩ := hend
  refine ⟨c, hrun, ⟨all, allState, rollback_of_answer hall, hallok, fun h => ?_⟩,
    cache, cacheState, rollback_of_answer hcacheans, hcacheok, fun h => ?_⟩
  · have hf : Requested c.heap s.state [.all] (.key "config") :=
      .inr ⟨List.mem_cons_self, _, hconfig⟩
    obtain ⟨hagree, hkept⟩ := h.agrees hallok hs rfl hf
    have htwo := hagree.atom hold
    rw [hkept, hconfig] at htwo
    cases htwo
  · have hf : Requested c.heap s.state [.cache] (.key "cache") :=
      .inl ⟨.cache, List.mem_cons_self, RollbackTarget.noConfusion, rfl⟩
    obtain ⟨hagree, hkept⟩ := h.agrees hcacheok hs rfl hf
    obtain ⟨r, hr⟩ := Option.isSome_iff_exists.mp hnew
    obtain ⟨r', hr'⟩ := hagree.exists_some hr
    rw [hkept, hcache] at hr'
    cases hr'

end RollbackController

end Shopping
