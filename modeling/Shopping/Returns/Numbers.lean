import Shopping.Lib.Calendar
import Shopping.Returns.Requests

/-!
# `generate_return_number`

The next number of a day is one more than the last three digits of the
greatest number of the day, in the order of strings.  `todaysNumbers` are the
numbers of a day, oldest first.  As long as they are `1 … m` with `m ≤ 1000`,
the greatest is the `m`-th, or the 999th of 1000 (`greatest_numbers`): a number
with four digits comes before it.
-/

namespace Shopping

namespace ReturnService

/-- `order_by("-return_number").first()`. -/
def greatest (names : List String) : Option String :=
  names.foldl (fun best name =>
    match best with
    | none => some name
    | some b => if b.toList < name.toList then some name else some b) none

/-- `return_number__startswith`. -/
def startsWith (start name : String) : Bool := start.toList.isPrefixOf name.toList

/-- The prefix of a day. -/
def dayPrefix (today : Date) : String := "RET" ++ today.compact

/-- The numbers with the prefix, oldest first. -/
def todaysNumbers (db : Db) (start : String) : List String :=
  (db.returns.select fun _ r => startsWith start r.returnNumber).map fun q => q.2.returnNumber

/-- `last_return`. -/
def lastReturn (db : Db) (start : String) : Option String := greatest (todaysNumbers db start)

/-- `int(last_return[-3:])`. -/
def lastNumber (last : String) : Except ShopError Nat :=
  let digits := last.toList.drop (last.toList.length - 3)
  if digits ≠ [] ∧ digits.all Char.isDigit = true then .ok (Nat.ofDigitChars 10 digits 0)
  else
    .error (.valueError
      ("invalid literal for int() with base 10: '" ++ String.ofList digits ++ "'"))

/-- The number after the one that the query answered. -/
def nextNumber (start : String) : Option String → Except ShopError String
  | none => .ok (start ++ zeroPadded 3 1)
  | some last => (lastNumber last).map fun n => start ++ zeroPadded 3 (n + 1)

/-- `generate_return_number`. -/
def generateReturnNumber (db : Db) (now : Time) : Except ShopError String :=
  let start := dayPrefix (Date.ofSeconds now)
  nextNumber start (lastReturn db start)

/-! ## Numbers of one day -/

section

variable {start : String} {m i j : Nat}

/-- The number of the `i`-th return of a day. -/
def numberOf (start : String) (i : Nat) : String := start ++ zeroPadded 3 i

/-- The greatest of the first `m` numbers of a day. -/
def lastOf (start : String) (m : Nat) : Option String :=
  if m = 0 then none else some (numberOf start (min m 999))

theorem numberOf_toList (start : String) (i : Nat) :
    (numberOf start i).toList = start.toList ++ (zeroPadded 3 i).toList :=
  String.toList_append

theorem numberOf_inj : numberOf start i = numberOf start j ↔ i = j := by
  constructor
  · intro h
    have hlists := congrArg String.toList h
    rw [numberOf_toList, numberOf_toList, List.append_cancel_left_eq] at hlists
    exact zeroPadded_injective 3 (String.toList_inj.mp hlists)
  · exact congrArg _

theorem startsWith_numberOf (start : String) (i : Nat) :
    startsWith start (numberOf start i) = true := by
  unfold startsWith
  rw [numberOf_toList, List.isPrefixOf_iff_prefix]
  exact List.prefix_append _ _

theorem lastNumber_numberOf (hi : i < 1000) : lastNumber (numberOf start i) = .ok i := by
  have hlength : (zeroPadded 3 i).toList.length = 3 := length_zeroPadded (by decide) hi
  have hdrop : (numberOf start i).toList.drop ((numberOf start i).toList.length - 3)
      = (zeroPadded 3 i).toList := by
    rw [numberOf_toList, List.length_append, hlength, Nat.add_sub_cancel, List.drop_left]
  unfold lastNumber
  rw [hdrop]
  dsimp only
  have hnonempty : (zeroPadded 3 i).toList ≠ [] := by
    intro hnil
    rw [hnil] at hlength
    cases hlength
  have hdigits : (zeroPadded 3 i).toList.all Char.isDigit = true :=
    List.all_eq_true.mpr fun c hc => isDigit_zeroPadded hc
  rw [if_pos ⟨hnonempty, hdigits⟩, ofDigitChars_zeroPadded]

theorem nextNumber_lastOf (start : String) (m : Nat) :
    nextNumber start (lastOf start m) = .ok (numberOf start (min m 999 + 1)) := by
  unfold lastOf
  by_cases hm : m = 0
  · rw [if_pos hm, hm]
    rfl
  · rw [if_neg hm]
    have hlt : min m 999 < 1000 := by omega
    unfold nextNumber
    dsimp only
    rw [lastNumber_numberOf hlt]
    rfl

theorem numberOf_lt (hij : i < j) (hj : j < 1000) :
    (numberOf start i).toList < (numberOf start j).toList := by
  rw [numberOf_toList, numberOf_toList]
  exact List.append_left_lt (zeroPadded_lt_zeroPadded (by decide) hij hj)

/-- The number after the 999th comes before it in the order of strings. -/
theorem numberOf_thousand :
    ¬ (numberOf start 999).toList < (numberOf start 1000).toList := by
  rw [numberOf_toList, numberOf_toList]
  exact List.lt_asymm (List.append_left_lt (by decide +kernel))

/-- The greatest of the first `m` numbers. -/
theorem greatest_numbers (hm : m ≤ 1000) :
    greatest ((List.range m).map fun i => numberOf start (i + 1)) = lastOf start m := by
  induction m with
  | zero => rfl
  | succ m ih =>
    have hlast := ih (by omega)
    unfold greatest at hlast ⊢
    rw [List.range_succ, List.map_append, List.foldl_append, hlast]
    unfold lastOf
    rw [List.map_singleton, List.foldl_cons, List.foldl_nil, if_neg (Nat.succ_ne_zero m)]
    by_cases h0 : m = 0
    · rw [if_pos h0, h0]
      rfl
    · rw [if_neg h0]
      dsimp only
      by_cases h999 : m < 999
      · rw [if_pos, Nat.min_eq_left (show m + 1 ≤ 999 by omega)]
        exact numberOf_lt (by omega) (by omega)
      · obtain rfl : m = 999 := by omega
        rw [if_neg]
        · rfl
        · exact numberOf_thousand

theorem lastOf_inj {m' : Nat} (hm' : m' ≤ m) (hm : m < 1000) :
    lastOf start m = lastOf start m' ↔ m = m' := by
  constructor
  · intro h
    unfold lastOf at h
    split_ifs at h with h0 h0'
    · omega
    · rw [Option.some.injEq, numberOf_inj] at h
      omega
  · exact congrArg _

end

/-! ## The return that is created -/

/-- What `create_return` commits: a row with the number, which no row has. -/
theorem createReturn_number {db : Db} {number : String} {request : ReturnRequest}
    {out : Nat × Db} (h : createReturn db number request = .ok out) :
    (∀ k r, db.returns.get? k = some r → r.returnNumber ≠ number) ∧
    ∃ row : Return, row.returnNumber = number ∧
      out.2 = { db with returns := db.returns.insert row } := by
  unfold createReturn at h
  obtain ⟨order, _, h⟩ := bind_eq_ok.mp h
  obtain ⟨items, _, h⟩ := bind_eq_ok.mp h
  obtain ⟨exchangeProduct, _, h⟩ := bind_eq_ok.mp h
  dsimp only at h
  split at h
  · cases h
  · rename_i hfree
    split at h
    · cases h
    · cases h
      refine ⟨fun k r hr hnumber => hfree ?_, _, rfl, rfl⟩
      exact Table.any_eq_true.mpr ⟨k, r, hr, decide_eq_true hnumber⟩

/-- A new row is the last of its day. -/
theorem todaysNumbers_insert (db : Db) (start : String) (row : Return) :
    todaysNumbers { db with returns := db.returns.insert row } start
      = todaysNumbers db start ++
        if startsWith start row.returnNumber = true then [row.returnNumber] else [] := by
  unfold todaysNumbers
  dsimp only
  rw [Table.select_insert, List.map_append]
  split
  · rfl
  · rfl

end ReturnService

end Shopping
