import Shopping.Points.Standing

/-!
# Refunds in parts

The points of an order come back in one refund or in several.  A refund reads
what is outstanding from the use rows and from the refund rows before it, and
walks over the earn rows by expiry date, the latest first.

After a first refund the outstanding use is less by what it restored
(`refundUsedPoints_outstanding`), so a second one walks over what the first
left of the same rows (`restored_after`).  Two walks in a row are one walk for
the sum (`draw_add`), and the rest is bookkeeping.
-/

namespace Shopping

open PointService

/-! ## Sorting and filtering -/

/-- Rows that are sorted by a strict order stay sorted when some are left out. -/
theorem filter_insertionSort {α : Type} {r : α → α → Prop} [DecidableRel r] [Std.Total r]
    [IsTrans α r] (p : α → Bool) {l : List α}
    (hanti : ∀ a ∈ l, ∀ b ∈ l, r a b → r b a → a = b) :
    (l.filter p).insertionSort r = (l.insertionSort r).filter p := by
  have hperm : ((l.filter p).insertionSort r).Perm ((l.insertionSort r).filter p) :=
    (List.perm_insertionSort r _).trans ((List.perm_insertionSort r l).symm.filter p)
  apply List.Perm.eq_of_pairwise _ (List.pairwise_insertionSort r _) _ hperm
  · intro a b ha hb hab hba
    have ha' := (List.mem_filter.mp ((List.mem_insertionSort r).mp ha)).1
    have hb' := (List.mem_insertionSort r).mp (List.mem_filter.mp hb).1
    exact hanti a ha' b hb' hab hba
  · exact (List.pairwise_insertionSort r l).filter p

variable {owner : OrderId → UserId} {now : Time} {L : Ledger} {order : OrderId} {amount : Int}
  {user : UserId} {type : PointType}

theorem isUsedPointsRefund_ne_earn (h : type.isUsedPointsRefund = true) : type ≠ .earn := by
  intro hc
  rw [hc] at h
  cases h

/-! ## One refund -/

/-- What a refund answers. -/
theorem refundUsedPoints_answers (hpos : 0 < amount) (returnId : Option Nat) :
    (refundUsedPoints L now user amount order type returnId).1
      = ⟨true, amount, restored L order amount, L.dueAmount now (restored L order amount),
          unbacked L order amount⟩ := by
  unfold refundUsedPoints
  rw [if_neg (not_le.mpr hpos), restoreLoop_earnRows]

/-- A refund takes what it restored off the outstanding use of its order. -/
theorem refundUsedPoints_outstanding (hpos : 0 < amount) (htype : type.isUsedPointsRefund = true)
    (returnId : Option Nat) (k : Nat) :
    outstanding (refundUsedPoints L now user amount order type returnId).2 order k
      = outstanding L order k - amountAt k (restored L order amount) := by
  have hkeeps := keepsEntry_restoredBy now order (restored L order amount)
  have hexpire : ∀ p b m, recordedUse order k
      (PointHistory.create now user p b .expire (some order) m) = 0 :=
    fun p b m => recordedUse_eq_zero fun _ => ⟨fun hc => PointType.noConfusion hc, rfl⟩
  have hrefund : ∀ p b m, recordedUse order k
      (PointHistory.create now user p b type (some order) m) = -amountAt k m.restoredDetails := by
    intro p b m
    rw [recordedUse_refund htype]
    exact if_pos rfl
  have htouch : outstanding (L.touch (PointHistory.restoredBy now order
      (restored L order amount))) order k = outstanding L order k :=
    touch_outstanding hkeeps order k
  unfold refundUsedPoints
  rw [if_neg (not_le.mpr hpos), restoreLoop_earnRows]
  dsimp only
  split
  · rw [Ledger.outstanding_createHistory, hexpire, add_zero]
    show outstanding (Ledger.createHistory _ _ _ _ _ _ _) order k = _
    rw [Ledger.outstanding_createHistory, hrefund]
    show outstanding (L.touch _) order k + _ = _
    rw [htouch, sub_eq_add_neg]
  · rw [Ledger.outstanding_createHistory, hrefund]
    show outstanding (L.touch _) order k + _ = _
    rw [htouch, sub_eq_add_neg]

/-! ## The next refund -/

/-- `order_by("-expires_at", "-id")` sorts the rows of a table strictly. -/
theorem expiresLast_anti {p q : Nat × PointHistory} (hp : L.histories.get? p.1 = some p.2)
    (hq : L.histories.get? q.1 = some q.2) (hpq : expiresLast p q) (hqp : expiresLast q p) :
    p = q := by
  have hkeys : ∀ a b c d : Nat, (c < a ∨ c = a ∧ d ≤ b) → (a < c ∨ a = c ∧ b ≤ d) → b = d := by
    omega
  have hkey : p.1 = q.1 := hkeys _ _ _ _ hpq hqp
  rw [hkey, hq, Option.some.injEq] at hp
  exact Prod.ext hkey hp.symm

/-- The rows of the next refund: those that have a use outstanding still. -/
theorem earnRows_after {L' : Ledger} {f : Nat → PointHistory → PointHistory}
    (h : Touches f L L') (hf : KeepsRow f)
    (hle : ∀ k, outstanding L' order k ≤ outstanding L order k) :
    earnRows L' order = ((earnRows L order).filter fun p =>
      decide (0 < outstanding L' order p.1)).map fun p => (p.1, f p.1 p.2) := by
  have htotal : ∀ a b c d : Nat, (c < a ∨ c = a ∧ d ≤ b) ∨ (a < c ∨ a = c ∧ b ≤ d) := by
    omega
  have htrans : ∀ a b c d e f : Nat, (c < a ∨ c = a ∧ d ≤ b) → (e < c ∨ e = c ∧ f ≤ d) →
      (e < a ∨ e = a ∧ f ≤ b) := by
    omega
  have : Std.Total expiresLast := ⟨fun _ _ => htotal _ _ _ _⟩
  have : IsTrans (Nat × PointHistory) expiresLast := ⟨fun _ _ _ => htrans _ _ _ _ _ _⟩
  have hsel := h.select
    (p := fun k r => decide (0 < outstanding L' order k) && decide (r.type = .earn))
    (q := fun k r => decide (0 < outstanding L' order k) && decide (r.type = .earn))
    (fun k r => by rw [hf.type])
    fun k r hr => of_decide_eq_true (Bool.and_eq_true _ _ ▸ hr).2
  have hfilter : (L.histories.select fun k r =>
      decide (0 < outstanding L' order k) && decide (r.type = .earn))
      = (L.histories.select fun k r =>
          decide (0 < outstanding L order k) && decide (r.type = .earn)).filter
            fun p => decide (0 < outstanding L' order p.1) := by
    unfold Table.select
    rw [List.filter_filter]
    refine List.filter_congr fun p _ => ?_
    have hp := hle p.1
    rw [Bool.eq_iff_iff]
    simp only [Bool.and_eq_true, decide_eq_true_eq]
    constructor
    · intro ⟨h0, ht⟩
      exact ⟨h0, by omega, ht⟩
    · intro ⟨h0, _, ht⟩
      exact ⟨h0, ht⟩
  unfold earnRows
  rw [hsel, hfilter, ← filter_insertionSort]
  · refine (List.map_insertionSort _ _ _ _ fun p _ q _ => ?_).symm
    unfold expiresLast
    rw [hf.expiry, hf.expiry]
  · intro p hp q hq
    exact expiresLast_anti (Table.mem_select.mp hp).1 (Table.mem_select.mp hq).1

section After

variable {L' : Ledger} {f : Nat → PointHistory → PointHistory} {a b : Int}

/-- The next refund walks over what the first one left. -/
theorem walk_after (h : Touches f L L') (hf : KeepsRow f)
    (hout : ∀ k, outstanding L' order k
      = outstanding L order k - amountAt k (restored L order a)) (b : Int) :
    draw b (outstandingCaps (outstanding L' order) (earnRows L' order))
      = draw b ((outstandingCaps (outstanding L order) (earnRows L order)).less
          (restored L order a)) := by
  have hle : ∀ k, outstanding L' order k ≤ outstanding L order k := by
    intro k
    have h0 : 0 ≤ amountAt k (restored L order a) := restored_nonneg k
    rw [hout]
    omega
  have hcaps : outstandingCaps (outstanding L' order) (earnRows L' order)
      = ((outstandingCaps (outstanding L order) (earnRows L order)).less
          (restored L order a)).filter fun c => decide (0 < c.2) := by
    rw [earnRows_after h hf hle]
    unfold outstandingCaps Entries.less
    rw [List.map_map, List.map_map, List.filter_map]
    simp only [Function.comp_def, hout]
  rw [hcaps, draw_filter_pos]

/-- Two refunds restore of every row what one for the sum restores, and leave
the same part unbacked. -/
theorem restored_after (h : Touches f L L') (hf : KeepsRow f)
    (hout : ∀ k, outstanding L' order k
      = outstanding L order k - amountAt k (restored L order a)) (ha : 0 < a) (hb : 0 < b) :
    (∀ k, amountAt k (restored L order a) + amountAt k (restored L' order b)
        = amountAt k (restored L order (a + b))) ∧
      unbacked L order a + unbacked L' order b = unbacked L order (a + b) := by
  have hnodup : ((outstandingCaps (outstanding L order) (earnRows L order)).map
      Prod.fst).Nodup := by
    rw [outstandingCaps_keys]
    exact earnRows_nodup
  have hcaps : ∀ c ∈ outstandingCaps (outstanding L order) (earnRows L order), 0 ≤ c.2 := by
    intro c hc
    obtain ⟨p, hp, rfl⟩ := List.mem_map.mp hc
    exact le_of_lt (mem_earnRows.mp hp).2.1
  have hwalk := walk_after h hf hout b
  have hadd := draw_add (le_of_lt ha) (le_of_lt hb) hnodup hcaps
  unfold restored at hwalk
  unfold restored unbacked
  rw [hwalk]
  exact hadd

/-- The amounts of due rows do not depend on the rows added since. -/
theorem dueAmount_after (h : Touches f L L') (hf : KeepsRow f) (amount : Int) :
    L'.dueAmount now (restored L' order amount) = L.dueAmount now (restored L' order amount) := by
  obtain ⟨added, hrows, hadded⟩ := h
  unfold Ledger.dueAmount Table.sum
  rw [hrows, List.map_append, List.sum_append, List.map_map]
  have hnone : (added.map fun p => if p.2.expiry ≤ now then
      amountAt p.1 (restored L' order amount) else 0).sum = 0 := by
    refine List.sum_eq_zero fun x hx => ?_
    obtain ⟨p, hp, rfl⟩ := List.mem_map.mp hx
    have hget : L'.histories.get? p.1 = some p.2 := by
      rw [Table.get?_eq_some, hrows]
      exact List.mem_append_right _ hp
    have hzero : amountAt p.1 (restored L' order amount) = 0 := by
      by_contra h0
      obtain ⟨d, hd, hdp⟩ := List.mem_map.mp (mem_keys_of_amountAt h0)
      obtain ⟨r, hr, ht⟩ := restored_row hd
      rw [hdp, hget, Option.some.injEq] at hr
      exact hadded p hp (hr ▸ ht)
    rw [hzero, ite_self]
  rw [hnone, add_zero]
  refine congrArg List.sum (List.map_congr_left fun p _ => ?_)
  simp only [Function.comp_apply, hf.expiry]

/-- As long as the uses of an order stay, its refund restores the same. -/
theorem restored_same (h : Touches f L L') (hf : KeepsRow f)
    (hout : ∀ k, outstanding L' order k = outstanding L order k) (amount : Int) :
    restored L' order amount = restored L order amount := by
  have hcaps : outstandingCaps (outstanding L' order) (earnRows L' order)
      = outstandingCaps (outstanding L order) (earnRows L order) := by
    have hall : ((earnRows L order).filter fun p => decide (0 < outstanding L' order p.1))
        = earnRows L order := by
      rw [List.filter_eq_self]
      intro p hp
      rw [hout]
      exact decide_eq_true (mem_earnRows.mp hp).2.1
    rw [earnRows_after h hf fun k => le_of_eq (hout k), hall, funext hout]
    unfold outstandingCaps
    rw [List.map_map]
    rfl
  unfold restored
  rw [hcaps]

end After

/-- The refund of an order leaves the uses of the others. -/
theorem refundUsedPoints_outstanding_of_ne {other : OrderId} (hne : other ≠ order)
    (hpos : 0 < amount) (returnId : Option Nat) (k : Nat) :
    outstanding (refundUsedPoints L now user amount order type returnId).2 other k
      = outstanding L other k := by
  have hrow : ∀ p b t m, recordedUse other k
      (PointHistory.create now user p b t (some order) m) = 0 := by
    intro p b t m
    exact if_neg fun heq => hne (Option.some.inj heq).symm
  have htouch : outstanding (L.touch (PointHistory.restoredBy now order
      (restored L order amount))) other k = outstanding L other k :=
    touch_outstanding (keepsEntry_restoredBy now order (restored L order amount)) other k
  unfold refundUsedPoints
  rw [if_neg (not_le.mpr hpos), restoreLoop_earnRows]
  dsimp only
  split
  · rw [Ledger.outstanding_createHistory, hrow, add_zero]
    show outstanding (Ledger.createHistory _ _ _ _ _ _ _) other k = _
    rw [Ledger.outstanding_createHistory, hrow, add_zero]
    exact htouch
  · rw [Ledger.outstanding_createHistory, hrow, add_zero]
    exact htouch

/-- What a refund restores, and what of it is past its date, does not depend on
the refunds of other orders before it. -/
theorem refund_of_ne {other : OrderId} (hne : other ≠ order) (hpos : 0 < amount)
    (htype : type ≠ .earn) (returnId : Option Nat) (later : Time) (n : Int) :
    let L' := (refundUsedPoints L now user amount order type returnId).2
    restored L' other n = restored L other n ∧
      L'.dueAmount later (restored L' other n) = L.dueAmount later (restored L other n) := by
  have htouches : Touches (PointHistory.restoredBy now order (restored L order amount)) L
      (refundUsedPoints L now user amount order type returnId).2 :=
    refundUsedPoints_touches hpos htype returnId
  have hkeeps := keepsRow_restoredBy now order (restored L order amount)
  have hsame := restored_same htouches hkeeps
    (fun k => refundUsedPoints_outstanding_of_ne hne hpos returnId k) n
  refine ⟨hsame, ?_⟩
  rw [dueAmount_after htouches hkeeps, hsame]

/-- What is due of two lists of entries together. -/
theorem dueAmount_add {ds ds' sum : Details}
    (h : ∀ k, amountAt k ds + amountAt k ds' = amountAt k sum) :
    L.dueAmount now ds + L.dueAmount now ds' = L.dueAmount now sum := by
  unfold Ledger.dueAmount
  rw [← Table.sum_add]
  refine Table.sum_congr fun k r _ => ?_
  rw [← h k]
  split
  · rfl
  · rfl

/-! ## The earn rows after one refund and after two -/

/-- The use that a row of the owner records after a refund. -/
theorem earnRow_refund (h : Covered owner L) (hpos : 0 < amount)
    (htype : type.isUsedPointsRefund = true) (returnId : Option Nat) (v : UserId) (k : Nat) :
    (refundUsedPoints L now user amount order type returnId).2.earnRow v k
        = (L.earnRow v k).map (PointHistory.restoredBy now order (restored L order amount) k) ∧
      ∀ r, L.earnRow v k = some r →
        (PointHistory.restoredBy now order (restored L order amount) k r).metadata.usedAmount
          = r.metadata.usedAmount
            - if now < r.expiry then amountAt k (restored L order amount) else 0 := by
  have htouches : Touches (PointHistory.restoredBy now order (restored L order amount)) L
      (refundUsedPoints L now user amount order type returnId).2 :=
    refundUsedPoints_touches hpos (isUsedPointsRefund_ne_earn htype) returnId
  refine ⟨htouches.earnRow (keepsEntry_restoredBy _ _ _) v k, fun r hr => ?_⟩
  obtain ⟨hget, _, ht⟩ := Ledger.earnRow_eq_some.mp hr
  exact restoredBy_usedAmount h hget ht now order amount

/-! ## What an order took, and what came back -/

/-- What the use rows of `order` took from the earn row `k`. -/
def takenFrom (L : Ledger) (order : OrderId) (k : Nat) : Int :=
  L.histories.sum fun _ r =>
    if r.order = some order ∧ r.type = .use then amountAt k r.metadata.usedDetails else 0

/-- What the refund rows of `order` gave back to the earn row `k`. -/
def restoredTo (L : Ledger) (order : OrderId) (k : Nat) : Int :=
  L.histories.sum fun _ r =>
    if r.order = some order ∧ r.type.isUsedPointsRefund = true then
      amountAt k r.metadata.restoredDetails
    else 0

theorem outstanding_eq (L : Ledger) (order : OrderId) (k : Nat) :
    outstanding L order k = takenFrom L order k - restoredTo L order k := by
  unfold outstanding takenFrom restoredTo
  rw [← Table.sum_sub]
  refine Table.sum_congr fun j r _ => ?_
  by_cases ho : r.order = some order
  · cases ht : r.type with
    | use => simp [ho, PointType.isUsedPointsRefund]
    | _ => simp [ho, PointType.isUsedPointsRefund]
  · simp [ho]

/-- In a sound ledger no row got back more than the order took from it. -/
theorem Sound.restoredTo_le (h : Sound owner now L) (order : OrderId) (k : Nat) :
    restoredTo L order k ≤ takenFrom L order k := by
  have h0 := h.covered.out_nonneg order k
  rw [outstanding_eq] at h0
  omega

/-! ## In parts and at once -/

/-- The use that an earn row records after both refunds, and after the one. -/
theorem usedAmount_in_parts (h : Sound owner now L) (order : OrderId) {a b : Int} (ha : 0 < a)
    (hb : 0 < b) {type₁ type₂ type₃ : PointType} (h₁ : type₁.isUsedPointsRefund = true)
    (h₂ : type₂.isUsedPointsRefund = true) (h₃ : type₃.isUsedPointsRefund = true)
    (id₁ id₂ id₃ : Option Nat) {first : Ledger}
    (hfirst : first = (refundUsedPoints L now (owner order) a order type₁ id₁).2)
    (hsound : Sound owner now first)
    (hrestored : ∀ k, amountAt k (restored L order a) + amountAt k (restored first order b)
      = amountAt k (restored L order (a + b))) (v : UserId) (k : Nat) :
    ((refundUsedPoints first now (owner order) b order type₂ id₂).2.earnRow v k).map
        (fun r => r.metadata.usedAmount)
      = ((refundUsedPoints L now (owner order) (a + b) order type₃ id₃).2.earnRow v k).map
        fun r => r.metadata.usedAmount := by
  have hab : 0 < a + b := by omega
  obtain ⟨hrow₁, hused₁⟩ := @earnRow_refund owner now L order a (owner order) type₁ h.covered ha
    h₁ id₁ v k
  obtain ⟨hrow₂, hused₂⟩ := @earnRow_refund owner now first order b (owner order) type₂
    hsound.covered hb h₂ id₂ v k
  obtain ⟨hrow₃, hused₃⟩ := @earnRow_refund owner now L order (a + b) (owner order) type₃
    h.covered hab h₃ id₃ v k
  rw [← hfirst] at hrow₁
  rw [hrow₂, hrow₃]
  cases hr : L.earnRow v k with
  | none =>
    rw [hr] at hrow₁
    rw [hrow₁]
    rfl
  | some r =>
    rw [hr, Option.map_some] at hrow₁
    have hafter := hused₂ _ hrow₁
    rw [(keepsRow_restoredBy now order (restored L order a)).expiry] at hafter
    rw [hrow₁, Option.map_some, Option.map_some, Option.map_some, Option.map_some, hafter,
      hused₁ r hr, hused₃ r hr, Option.some.injEq, ← hrestored k]
    split
    · omega
    · omega

/-- The refund of `a` and then of `b` leaves what the refund of `a + b` leaves:
the balances, the use that every earn row records, and in all what was
restored to each row, what expired at once and what no row backed.  However
the points of the users move from there on, no earn row gets back more than an
order took from it. -/
theorem refund_in_parts (h : Sound owner now L) (order : OrderId) {a b : Int} (ha : 0 < a)
    (hb : 0 < b) {type₁ type₂ type₃ : PointType} (h₁ : type₁.isUsedPointsRefund = true)
    (h₂ : type₂.isUsedPointsRefund = true) (h₃ : type₃.isUsedPointsRefund = true)
    (id₁ id₂ id₃ : Option Nat) :
    let first := refundUsedPoints L now (owner order) a order type₁ id₁
    let second := refundUsedPoints first.2 now (owner order) b order type₂ id₂
    let once := refundUsedPoints L now (owner order) (a + b) order type₃ id₃
    (∀ v, second.2.points v = once.2.points v) ∧
    (∀ v k, (second.2.earnRow v k).map (fun r => r.metadata.usedAmount)
      = (once.2.earnRow v k).map fun r => r.metadata.usedAmount) ∧
    (∀ k, amountAt k first.1.restored + amountAt k second.1.restored
      = amountAt k once.1.restored) ∧
    first.1.expired + second.1.expired = once.1.expired ∧
    first.1.unbacked + second.1.unbacked = once.1.unbacked ∧
    ∀ es t, Run (pointStep owner) (fun _ _ => True) (now, L) es t →
      ∀ o k, restoredTo t.2 o k ≤ takenFrom t.2 o k := by
  intro first second once
  have hab : 0 < a + b := by omega
  have hkeeps := keepsRow_restoredBy now order (restored L order a)
  have hfirst : Sound owner now first.2 := h.refundUsedPoints h₁ id₁
  have htouches : Touches (PointHistory.restoredBy now order (restored L order a)) L first.2 :=
    refundUsedPoints_touches ha (isUsedPointsRefund_ne_earn h₁) id₁
  have hout : ∀ k, outstanding first.2 order k
      = outstanding L order k - amountAt k (restored L order a) :=
    refundUsedPoints_outstanding ha h₁ id₁
  obtain ⟨hrestored, hunbacked⟩ := restored_after htouches hkeeps hout ha hb
  have hdue : L.dueAmount now (restored L order a)
      + first.2.dueAmount now (restored first.2 order b)
        = L.dueAmount now (restored L order (a + b)) := by
    rw [dueAmount_after htouches hkeeps]
    exact dueAmount_add hrestored
  have hanswer₁ : first.1 = _ := refundUsedPoints_answers ha id₁
  have hanswer₂ : second.1 = _ := refundUsedPoints_answers hb id₂
  have hanswer₃ : once.1 = _ := refundUsedPoints_answers hab id₃
  refine ⟨fun v => ?_, fun v k => ?_, ?_, ?_, ?_, fun es t hrun o k => ?_⟩
  · have hpoints₁ : first.2.points v = _ :=
      refundUsedPoints_points ha (h.points_nonneg _) type₁ id₁ v
    have hpoints₂ : second.2.points v = _ :=
      refundUsedPoints_points hb (hfirst.points_nonneg _) type₂ id₂ v
    have hpoints₃ : once.2.points v = _ :=
      refundUsedPoints_points hab (h.points_nonneg _) type₃ id₃ v
    rw [hpoints₂, hpoints₁, hpoints₃]
    split
    · omega
    · omega
  · exact usedAmount_in_parts h order ha hb h₁ h₂ h₃ id₁ id₂ id₃ rfl hfirst hrestored v k
  · rw [hanswer₁, hanswer₂, hanswer₃]
    exact hrestored
  · rw [hanswer₁, hanswer₂, hanswer₃]
    exact hdue
  · rw [hanswer₁, hanswer₂, hanswer₃]
    exact hunbacked
  · have hsound : Sound owner t.1 t.2 := Sound.run (s := (now, L)) h hrun
    exact hsound.restoredTo_le o k

/-- An order that uses 1000 points of two earnings. -/
def orderedOps : List (Time × PointOp) :=
  [(0, .add 7 600 .earn none none), (10, .add 7 400 .earn none none),
    (20, .use 7 1000 .use (some 3) none)]

/-- Two refunds of 500 on a day when the first earning is due: the 600 points of
it are gone at once, in parts as in one. -/
theorem refund_in_parts_sample :
    ∃ L, exec (pointStep fun _ => 7) (0, Ledger.empty) orderedOps = some (20, L) ∧
      let first := refundUsedPoints L (earnLifetime + 5) 7 500 3
      let second := refundUsedPoints first.2 (earnLifetime + 5) 7 500 3
      let once := refundUsedPoints L (earnLifetime + 5) 7 (500 + 500) 3
      (∀ v, second.2.points v = once.2.points v) ∧
      (∀ v k, (second.2.earnRow v k).map (fun r => r.metadata.usedAmount)
        = (once.2.earnRow v k).map fun r => r.metadata.usedAmount) ∧
      (∀ k, amountAt k first.1.restored + amountAt k second.1.restored
        = amountAt k once.1.restored) ∧
      first.1.expired + second.1.expired = once.1.expired ∧
      first.1.unbacked + second.1.unbacked = once.1.unbacked ∧
      once.2.points 7 = 400 ∧ once.1.expired = 600 := by
  have hsome : (exec (pointStep fun _ => 7) (0, Ledger.empty) orderedOps).any (fun s =>
      decide (s.1 = 20 ∧ (refundUsedPoints s.2 (earnLifetime + 5) 7 (500 + 500) 3).2.points 7 = 400
        ∧ (refundUsedPoints s.2 (earnLifetime + 5) 7 (500 + 500) 3).1.expired = 600)) = true := by
    decide +kernel
  obtain ⟨⟨t, L⟩, hL, hstate⟩ := (Option.any_eq_true _ _).mp hsome
  obtain ⟨ht, hpoints, hexpired⟩ := of_decide_eq_true hstate
  dsimp only at ht
  subst ht
  have hsound : Sound (fun _ => 7) 20 L := pointRun_sound (Run.of_exec (fun _ _ => trivial) hL)
  have hpos : (0 : Int) < 500 := by decide
  have htype : PointType.cancelRefund.isUsedPointsRefund = true := rfl
  obtain ⟨hsame, hused, hrestored, hdue, hunbacked, _⟩ := refund_in_parts
    (hsound.mono (by decide : 20 ≤ earnLifetime + 5)) 3 hpos hpos htype htype htype none none none
  exact ⟨L, hL, hsame, hused, hrestored, hdue, hunbacked, hpoints, hexpired⟩

end Shopping
