import Shopping.Points.Service

/-!
# The entries of the history

An `Entry` is the part of a history row that is never updated: its order, its
type and its points.  The entries of a ledger only grow, and each point
operation appends the ones it books.  Of the metadata, which the operations do
update, only the key `return_id` stays, and `returnIds` are its values.

Both are columns of the history: what a column `g` has before and after an
operation is proved for every `g` that the updates leave alone.
-/

namespace Shopping

/-- The columns of a history row that stay. -/
structure Entry where
  order : Option OrderId
  type : PointType
  points : Int
  deriving DecidableEq, Repr

/-- The entry of a row. -/
def PointHistory.entry (r : PointHistory) : Entry := ⟨r.order, r.type, r.points⟩

namespace Ledger

section

variable {β : Type}

/-- What `g` reads of the rows, oldest first. -/
def column (g : PointHistory → β) (L : Ledger) : List β := L.histories.rows.map fun p => g p.2

theorem column_createHistory (g : PointHistory → β) (L : Ledger) (now : Time) (u : UserId)
    (p : Int) (type : PointType) (order : Option OrderId) (m : Metadata) :
    (L.createHistory now u p type order m).column g
      = L.column g ++ [g (PointHistory.create now u p (L.points u) type order m)] := by
  simp [column, createHistory, Table.insert]

theorem column_saveRow {g : PointHistory → β} (L : Ledger) (k : Nat)
    {f : PointHistory → PointHistory} (hf : ∀ r, g (f r) = g r) :
    (L.saveRow k f).column g = L.column g := by
  unfold column saveRow Table.modify Table.mapRows
  rw [List.map_map]
  refine List.map_congr_left fun p _ => ?_
  simp only [Function.comp_apply]
  split
  · exact hf p.2
  · rfl

/-- What a search of the history sees is in the column that it reads. -/
theorem any_column (g : PointHistory → β) (L : Ledger) (p : β → Bool) :
    (L.histories.any fun _ r => p (g r)) = (L.column g).any p := by
  simp [column, Table.any, List.any_map, Function.comp_def]

end

/-- The entries, oldest first. -/
def entries (L : Ledger) : List Entry := L.histories.rows.map fun p => p.2.entry

@[simp] theorem entries_setPoints (L : Ledger) (u : UserId) (p : Int) :
    (L.setPoints u p).entries = L.entries := rfl

@[simp] theorem entries_createHistory (L : Ledger) (now : Time) (u : UserId) (p : Int)
    (type : PointType) (order : Option OrderId) (m : Metadata) :
    (L.createHistory now u p type order m).entries = L.entries ++ [⟨order, type, p⟩] :=
  column_createHistory PointHistory.entry L now u p type order m

theorem entries_saveRow (L : Ledger) (k : Nat) {f : PointHistory → PointHistory}
    (hf : ∀ r, (f r).entry = r.entry) : (L.saveRow k f).entries = L.entries :=
  column_saveRow L k hf

/-- The returns that the history names, oldest row first. -/
def returnIds (L : Ledger) : List (Option Nat) := L.column fun r => r.metadata.returnId

@[simp] theorem returnIds_setPoints (L : Ledger) (u : UserId) (p : Int) :
    (L.setPoints u p).returnIds = L.returnIds := rfl

@[simp] theorem returnIds_createHistory (L : Ledger) (now : Time) (u : UserId) (p : Int)
    (type : PointType) (order : Option OrderId) (m : Metadata) :
    (L.createHistory now u p type order m).returnIds = L.returnIds ++ [m.returnId] :=
  column_createHistory _ L now u p type order m

/-- What a search of the history sees is in its entries. -/
theorem any_entries (L : Ledger) (p : Entry → Bool) :
    (L.histories.any fun _ r => p r.entry) = L.entries.any p :=
  any_column PointHistory.entry L p

end Ledger

namespace PointService

theorem addPoints_entries {L L' : Ledger} {now : Time} {user : UserId} {amount : Int}
    {type : PointType} {order : Option OrderId} {returnId : Option Nat} {b : Bool}
    (h : addPoints L now user amount type order returnId = .ok (b, L')) :
    L'.entries = L.entries ++ if 0 < amount then [⟨order, type, amount⟩] else [] := by
  unfold addPoints at h
  split at h
  · rename_i hle
    cases h
    rw [if_neg (not_lt.mpr hle), List.append_nil]
  · rename_i hpos
    split at h
    · cases h
    · cases h
      rw [if_pos (not_le.mp hpos), Ledger.entries_createHistory, Ledger.entries_setPoints]

theorem consumeLoop_column {β : Type} {g : PointHistory → β}
    (hg : ∀ now x r, g (PointHistory.recordUse now x r) = g r) (now : Time) (L : Ledger)
    (rows : List (Nat × PointHistory)) (need : Int) :
    (consumeLoop now L rows need).1.column g = L.column g := by
  induction rows generalizing L need with
  | nil => rfl
  | cons p rest ih =>
    obtain ⟨k, r⟩ := p
    rw [consumeLoop]
    by_cases h0 : need ≤ 0
    · rw [if_pos h0]
    · rw [if_neg h0]
      dsimp only
      by_cases h1 : r.remainingPoints ≤ 0
      · rw [if_pos h1]
        exact ih L need
      · rw [if_neg h1]
        exact (ih _ _).trans (L.column_saveRow k fun r => hg _ _ r)

theorem consumeLoop_entries (now : Time) (L : Ledger) (rows : List (Nat × PointHistory))
    (need : Int) : (consumeLoop now L rows need).1.entries = L.entries :=
  consumeLoop_column (fun _ _ _ => rfl) now L rows need

@[simp] theorem consumeLoop_returnIds (now : Time) (L : Ledger)
    (rows : List (Nat × PointHistory)) (need : Int) :
    (consumeLoop now L rows need).1.returnIds = L.returnIds :=
  consumeLoop_column (fun _ _ _ => rfl) now L rows need

theorem validatePointUsage_refused {amount minimum : Int} {type : PointType} {refusal : UseResult}
    (h : validatePointUsage amount type minimum = some refusal) : refusal.success = false := by
  unfold validatePointUsage at h
  split at h
  · cases h
    rfl
  · split at h
    · cases h
      rfl
    · cases h

/-- A use that succeeds books its amount; one that fails books nothing. -/
theorem usePointsFifo_entries (L : Ledger) (now : Time) (user : UserId) (amount : Int)
    (type : PointType) (order : Option OrderId) (returnId : Option Nat) :
    (usePointsFifo L now user amount type order returnId).2.entries
      = L.entries ++ if (usePointsFifo L now user amount type order returnId).1.success then
          [⟨order, type, -amount⟩] else [] := by
  unfold usePointsFifo
  split
  · rename_i refusal hval
    rw [validatePointUsage_refused hval]
    simp
  · split
    · simp
    · dsimp only
      split
      · simp [consumePointsFifo, consumeLoop_entries]
      · simp [consumePointsFifo, consumeLoop_entries]

/-- A use that succeeds names its return. -/
theorem usePointsFifo_returnIds (L : Ledger) (now : Time) (user : UserId) (amount : Int)
    (type : PointType) (order : Option OrderId) (returnId : Option Nat) :
    (usePointsFifo L now user amount type order returnId).2.returnIds
      = L.returnIds ++ if (usePointsFifo L now user amount type order returnId).1.success then
          [returnId] else [] := by
  unfold usePointsFifo
  split
  · rename_i refusal hval
    rw [validatePointUsage_refused hval]
    simp
  · split
    · simp
    · dsimp only
      split
      · simp [consumePointsFifo]
      · simp [consumePointsFifo]

theorem restoreLoop_column {β : Type} {g : PointHistory → β}
    (hg : ∀ now o x r, g (PointHistory.recordRefund now o x r) = g r) (now : Time)
    (order : OrderId) (left : Nat → Int) (L : Ledger) (rows : List (Nat × PointHistory))
    (need : Int) : (restoreLoop now order left L rows need).1.column g = L.column g := by
  induction rows generalizing L need with
  | nil => rfl
  | cons p rest ih =>
    obtain ⟨k, r⟩ := p
    rw [restoreLoop]
    by_cases h0 : need ≤ 0
    · rw [if_pos h0]
    · rw [if_neg h0]
      dsimp only
      by_cases hdue : r.expiry ≤ now
      · rw [if_pos hdue]
        exact ih L _
      · rw [if_neg hdue]
        exact (ih _ _).trans (L.column_saveRow k fun r => hg _ _ _ r)

theorem restoreLoop_entries (now : Time) (order : OrderId) (left : Nat → Int) (L : Ledger)
    (rows : List (Nat × PointHistory)) (need : Int) :
    (restoreLoop now order left L rows need).1.entries = L.entries :=
  restoreLoop_column (fun _ _ _ _ => rfl) now order left L rows need

@[simp] theorem restoreLoop_returnIds (now : Time) (order : OrderId) (left : Nat → Int)
    (L : Ledger) (rows : List (Nat × PointHistory)) (need : Int) :
    (restoreLoop now order left L rows need).1.returnIds = L.returnIds :=
  restoreLoop_column (fun _ _ _ _ => rfl) now order left L rows need

/-- A refund books itself for the order, and what of it expires at once. -/
theorem refundUsedPoints_entries (L : Ledger) (now : Time) (user : UserId) (amount : Int)
    (order : OrderId) (type : PointType) (returnId : Option Nat) :
    ∃ booked, (refundUsedPoints L now user amount order type returnId).2.entries
        = L.entries ++ booked ∧
      ∀ e ∈ booked, e.order = some order ∧ (e.type = type ∨ e.type = .expire ∧ e.points < 0) := by
  unfold refundUsedPoints
  split
  · exact ⟨[], by simp, by simp⟩
  · dsimp only
    split
    · rename_i hexpired
      exact ⟨[⟨some order, type, amount⟩, _], by simp [restoreLoop_entries]; rfl,
        by simp [hexpired]⟩
    · exact ⟨[⟨some order, type, amount⟩], by simp [restoreLoop_entries], by simp⟩

/-- A refund that pays something names its return. -/
theorem refundUsedPoints_returnIds (L : Ledger) (now : Time) (user : UserId) (amount : Int)
    (order : OrderId) (type : PointType) (returnId : Option Nat) :
    ∃ more, (refundUsedPoints L now user amount order type returnId).2.returnIds
        = L.returnIds ++ more ∧ (0 < amount → returnId ∈ more) := by
  unfold refundUsedPoints
  split
  · rename_i hamount
    exact ⟨[], by simp, fun hpos => absurd hpos (not_lt.mpr hamount)⟩
  · dsimp only
    split
    · exact ⟨[returnId, none], by simp, fun _ => List.mem_cons_self⟩
    · exact ⟨[returnId], by simp, fun _ => List.mem_cons_self⟩

end PointService

end Shopping
