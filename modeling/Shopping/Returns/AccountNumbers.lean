import Mathlib.Data.List.TakeDrop
import Shopping.Models.Payment

/-!
# `utils/encryption.py`, masked and stored account numbers

`mask_account_number` splits the number on hyphens, hides every part but the
last and shows the end of the last one.  What it returns is the number with a
hidden front (`maskChars_eq`), unless the last part is empty: `last_four[-0:]`
is the whole of `last_four`, and the mask is four characters too long.
-/

namespace Shopping

/-! ## The mask -/

/-- `"*" * n`. -/
def stars (n : Nat) : List Char := List.replicate n '*'

/-- The slice `l[-n:]`. -/
def lastChars (n : Nat) (l : List Char) : List Char := if n = 0 then l else l.drop (l.length - n)

/-- `account_number.replace("-", "").replace(" ", "")`. -/
def numbersOnly (account : List Char) : List Char :=
  (account.filter fun c => c ≠ '-').filter fun c => c ≠ ' '

/-- The last part of the masked number. -/
def maskedLastPart (lastFour part : List Char) : List Char :=
  if 4 ≤ part.length then stars (part.length - 4) ++ lastFour
  else lastChars part.length lastFour

/-- `masked_parts`. -/
def maskedParts (lastFour : List Char) : List (List Char) → List (List Char)
  | [] => []
  | [part] => [maskedLastPart lastFour part]
  | part :: rest => stars part.length :: maskedParts lastFour rest

/-- `mask_account_number` of a number that is not empty. -/
def maskChars (account : List Char) : List Char :=
  let numbers := numbersOnly account
  if numbers.length < 4 then stars account.length
  else
    let lastFour := lastChars 4 numbers
    if '-' ∈ account then ['-'].intercalate (maskedParts lastFour (account.splitOn '-'))
    else stars (numbers.length - 4) ++ lastFour

/-- `mask_account_number`. -/
def maskAccountNumber : Option String → String
  | none => ""
  | some account => if account = "" then "" else String.ofList (maskChars account.toList)

/-- A hidden character of the account number. -/
def hidden (c : Char) : Char := if c = '-' then '-' else '*'

/-- How many digits come after a position. -/
def digitsAfter (account : List Char) (i : Nat) : Nat :=
  ((account.drop (i + 1)).filter fun c => c ≠ '-').length

/-- `masked` has the length and the hyphens of the account number; a digit is
hidden, or is one of the last four and shown. -/
def IsMaskOf (masked account : List Char) : Prop :=
  masked.length = account.length ∧
    ∀ i c, account[i]? = some c →
      if c = '-' then masked[i]? = some '-'
      else masked[i]? = some '*' ∨ masked[i]? = some c ∧ digitsAfter account i < 4

@[simp] theorem length_stars (n : Nat) : (stars n).length = n := List.length_replicate

@[simp] theorem hidden_hyphen : hidden '-' = '-' := rfl

theorem hidden_of_ne {c : Char} (h : c ≠ '-') : hidden c = '*' := if_neg h

/-- A part without a hyphen is hidden by asterisks. -/
theorem map_hidden_eq_stars {part : List Char} (h : '-' ∉ part) :
    part.map hidden = stars part.length := by
  rw [stars, List.eq_replicate_iff]
  refine ⟨List.length_map _, fun c hc => ?_⟩
  obtain ⟨d, hd, rfl⟩ := List.mem_map.mp hc
  exact hidden_of_ne (fun e => h (e ▸ hd))

theorem not_mem_of_mem_splitOn {x : Char} {l part : List Char} (h : part ∈ l.splitOn x) :
    x ∉ part := by
  induction l generalizing part with
  | nil =>
    rw [List.splitOn_nil, List.mem_singleton] at h
    simp [h]
  | cons c l ih =>
    rw [List.splitOn_cons_eq_if_modifyHead] at h
    by_cases hc : c = x
    · rw [if_pos (beq_iff_eq.mpr hc)] at h
      rcases List.mem_cons.mp h with rfl | h
      · exact List.not_mem_nil
      · exact ih h
    · rw [if_neg (mt beq_iff_eq.mp hc)] at h
      cases hl : l.splitOn x with
      | nil => exact absurd hl (List.splitOn_ne_nil x l)
      | cons head tail =>
        rw [hl, List.modifyHead_cons, List.mem_cons] at h
        rcases h with rfl | h
        · have hhead := ih (hl ▸ List.mem_cons_self)
          exact fun hx => (List.mem_cons.mp hx).elim (fun e => hc e.symm) hhead
        · exact ih (hl ▸ List.mem_cons_of_mem head h)

/-- The parts of a number, each with the hyphen after it. -/
def joined (parts : List (List Char)) : List Char := parts.flatMap fun part => part ++ ['-']

theorem intercalate_concat (last : List Char) (parts : List (List Char)) :
    ['-'].intercalate (parts ++ [last]) = joined parts ++ last := by
  induction parts with
  | nil => simp [joined]
  | cons part parts ih =>
    rw [List.cons_append, List.intercalate_cons_of_ne_nil (by simp), ih]
    simp [joined]

theorem intercalate_maskedParts (lastFour last : List Char) {parts : List (List Char)}
    (h : ∀ part ∈ parts, '-' ∉ part) :
    ['-'].intercalate (maskedParts lastFour (parts ++ [last])) =
      (joined parts).map hidden ++ maskedLastPart lastFour last := by
  induction parts with
  | nil => simp [maskedParts, joined]
  | cons part parts ih =>
    have hne : maskedParts lastFour (parts ++ [last]) ≠ [] := by
      cases parts with
      | nil => simp [maskedParts]
      | cons next parts => simp [maskedParts]
    have hstep : maskedParts lastFour (part :: parts ++ [last]) =
        stars part.length :: maskedParts lastFour (parts ++ [last]) := by
      cases parts with
      | nil => rfl
      | cons next parts => rfl
    rw [hstep, List.intercalate_cons_of_ne_nil hne,
      ih fun p hp => h p (List.mem_cons_of_mem part hp),
      ← map_hidden_eq_stars (h part List.mem_cons_self)]
    simp [joined]

/-- A number is what ends with its last hyphen, and the last part. -/
theorem exists_lastPart (account : List Char) : ∃ parts last,
    account.splitOn '-' = parts ++ [last] ∧ account = joined parts ++ last ∧
      (∀ part ∈ parts, '-' ∉ part) ∧ '-' ∉ last := by
  have hsplit := List.dropLast_concat_getLast (List.splitOn_ne_nil '-' account)
  refine ⟨_, _, hsplit.symm, ?_, fun part hp => ?_, ?_⟩
  · rw [← intercalate_concat, hsplit, List.intercalate_splitOn]
  · exact not_mem_of_mem_splitOn (List.dropLast_subset _ hp)
  · exact not_mem_of_mem_splitOn (List.getLast_mem _)

/-- Without spaces, such as in a string of digits and hyphens, only the hyphens
go. -/
theorem numbersOnly_eq {account : List Char} (h : ' ' ∉ account) :
    numbersOnly account = account.filter fun c => c ≠ '-' := by
  refine List.filter_eq_self.mpr fun c hc => decide_eq_true fun e => h ?_
  exact e ▸ (List.mem_filter.mp hc).1

/-- What ends with the last hyphen does, unless there is none. -/
theorem getLast?_joined {parts : List (List Char)} (h : parts ≠ []) :
    (joined parts).getLast? = some '-' := by
  obtain ⟨init, last, rfl⟩ := (List.eq_nil_or_concat parts).resolve_left h
  simp [joined, List.flatMap_append, ← List.append_assoc]

/-- The mask hides what ends with the last hyphen; the last part has a rule of
its own. -/
theorem maskChars_eq {account : List Char} (h : ' ' ∉ account)
    (h4 : 4 ≤ (account.filter fun c => c ≠ '-').length) :
    ∃ front last, account = front ++ last ∧ '-' ∉ last ∧
      (front ≠ [] → front.getLast? = some '-') ∧
      maskChars account =
        front.map hidden ++ maskedLastPart (lastChars 4 (numbersOnly account)) last := by
  have hnumbers := numbersOnly_eq h
  have hlong : ¬ (numbersOnly account).length < 4 := by rw [hnumbers]; omega
  by_cases hhyphen : '-' ∈ account
  · obtain ⟨parts, last, hsplit, haccount, hparts, hlast⟩ := exists_lastPart account
    refine ⟨joined parts, last, haccount, hlast, fun hne => ?_, ?_⟩
    · exact getLast?_joined (fun e => hne (by rw [e]; rfl))
    · rw [maskChars, if_neg hlong, if_pos hhyphen, hsplit, intercalate_maskedParts _ last hparts]
  · have hall : numbersOnly account = account := by
      rw [hnumbers, List.filter_eq_self]
      exact fun c hc => decide_eq_true fun e => hhyphen (e ▸ hc)
    refine ⟨[], account, rfl, hhyphen, fun hne => absurd rfl hne, ?_⟩
    rw [hall] at hlong
    rw [maskChars, hall, if_neg hlong, if_neg hhyphen, maskedLastPart, if_pos (by omega)]
    rfl

/-- A last part that is not empty shows its own last four characters. -/
theorem maskedLastPart_eq {digits last : List Char} (hne : last ≠ [])
    (h4 : 4 ≤ (digits ++ last).length) :
    maskedLastPart (lastChars 4 (digits ++ last)) last =
      stars (last.length - 4) ++ last.drop (last.length - 4) := by
  have hpos : last.length ≠ 0 := fun e => hne (List.length_eq_zero_iff.mp e)
  have hfour : lastChars 4 (digits ++ last) =
      (digits ++ last).drop (digits.length + last.length - 4) := by
    rw [lastChars, if_neg (by decide), List.length_append]
  rw [maskedLastPart]
  split
  · next hlong =>
    have hdrop : digits.length + last.length - 4 = digits.length + (last.length - 4) := by omega
    rw [hfour, hdrop, List.drop_length_add_append]
  · next hshort =>
    rw [List.length_append] at h4
    have hzero : last.length - 4 = 0 := by omega
    have hdrop : digits.length + last.length - 4 + (4 - last.length) = digits.length := by omega
    have hlen : (lastChars 4 (digits ++ last)).length = 4 := by
      rw [hfour, List.length_drop, List.length_append]
      omega
    rw [lastChars, if_neg hpos, hlen, hfour, List.drop_drop, hdrop, List.drop_left, hzero]
    rfl

/-- A number whose front is hidden and whose end, at most four digits, is shown. -/
theorem isMaskOf_append {front shown : List Char} (hshown : '-' ∉ shown)
    (h4 : shown.length ≤ 4) : IsMaskOf (front.map hidden ++ shown) (front ++ shown) := by
  refine ⟨by simp, fun i c hi => ?_⟩
  by_cases hlt : i < front.length
  · rw [List.getElem?_append_left hlt] at hi
    have hmask : (front.map hidden ++ shown)[i]? = some (hidden c) := by
      rw [List.getElem?_append_left (by rwa [List.length_map]), List.getElem?_map, hi]
      rfl
    rw [hmask]
    split
    · next hc => rw [hc, hidden_hyphen]
    · next hc => exact .inl (by rw [hidden_of_ne hc])
  · have hle : front.length ≤ i := by omega
    rw [List.getElem?_append_right hle] at hi
    have hmem : c ∈ shown := List.mem_of_getElem? hi
    rw [if_neg (fun e : c = '-' => hshown (e ▸ hmem)),
      List.getElem?_append_right (by rwa [List.length_map]), List.length_map]
    refine .inr ⟨hi, ?_⟩
    have hbound := (List.getElem?_eq_some_iff.mp hi).1
    have hafter : digitsAfter (front ++ shown) i ≤ ((front ++ shown).drop (i + 1)).length :=
      List.length_filter_le _ _
    rw [List.length_drop, List.length_append] at hafter
    omega

/-- A last part that is empty shows all of `last_four`. -/
theorem maskedLastPart_nil (lastFour : List Char) : maskedLastPart lastFour [] = lastFour := rfl

theorem length_lastChars_four {l : List Char} (h : 4 ≤ l.length) : (lastChars 4 l).length = 4 := by
  rw [lastChars, if_neg (by decide), List.length_drop]
  omega

theorem isMaskOf_maskChars_iff {account : List Char} (h : ' ' ∉ account)
    (h4 : 4 ≤ (account.filter fun c => c ≠ '-').length) :
    IsMaskOf (maskChars account) account ↔ account.getLast? ≠ some '-' := by
  have hnumbers := numbersOnly_eq h
  obtain ⟨front, last, rfl, hlast, hfront, hmask⟩ := maskChars_eq h h4
  rw [hmask]
  rw [← hnumbers] at h4
  by_cases hnil : last = []
  · subst hnil
    rw [List.append_nil] at h4 ⊢
    have hne : front ≠ [] := by
      rintro rfl
      simp [numbersOnly] at h4
    constructor
    · intro hmaskOf
      have hlen := hmaskOf.1
      rw [maskedLastPart_nil, List.length_append, List.length_map, length_lastChars_four h4] at hlen
      omega
    · exact fun hend => absurd (hfront hne) hend
  · have hlastNumbers : last.filter (fun c => c ≠ '-') = last :=
      List.filter_eq_self.mpr fun c hc => decide_eq_true fun e => hlast (e ▸ hc)
    rw [hnumbers, List.filter_append, hlastNumbers] at h4 ⊢
    rw [maskedLastPart_eq hnil h4]
    have hend : (front ++ last).getLast? ≠ some '-' := by
      rw [List.getLast?_append, List.getLast?_eq_some_getLast hnil, Option.some_or]
      exact fun e => hlast (Option.some.inj e ▸ List.getLast_mem hnil)
    refine iff_of_true ?_ hend
    have hhide : stars (last.length - 4) = (last.take (last.length - 4)).map hidden := by
      rw [map_hidden_eq_stars fun hc => hlast (List.mem_of_mem_take hc), List.length_take,
        Nat.min_eq_left (Nat.sub_le _ _)]
    have hsplit : front ++ last =
        (front ++ last.take (last.length - 4)) ++ last.drop (last.length - 4) := by
      rw [List.append_assoc, List.take_append_drop]
    rw [hhide, ← List.append_assoc, ← List.map_append, hsplit]
    refine isMaskOf_append (fun hc => hlast (List.mem_of_mem_drop hc)) ?_
    rw [List.length_drop]
    omega

/-- `mask_account_number` keeps the shape of an account number, a string of at
least four digits and of hyphens, exactly when it does not end with a hyphen. -/
theorem isMaskOf_maskAccountNumber_iff (account : String) (h : ' ' ∉ account.toList)
    (h4 : 4 ≤ (account.toList.filter fun c => c ≠ '-').length) :
    IsMaskOf (maskAccountNumber (some account)).toList account.toList ↔
      account.toList.getLast? ≠ some '-' := by
  have hne : account ≠ "" := by
    rintro rfl
    simp at h4
  rw [maskAccountNumber, if_neg hne, String.toList_ofList]
  exact isMaskOf_maskChars_iff h h4

theorem isMaskOf_maskAccountNumber_iff_plain :
    IsMaskOf (maskAccountNumber (some "110-12-34")).toList "110-12-34".toList ↔
      "110-12-34".toList.getLast? ≠ some '-' :=
  isMaskOf_maskAccountNumber_iff "110-12-34" (by decide) (by decide)

/-- The last part of `"123-456-"` is empty: the mask shows the last four digits
after the hyphen, and has twelve characters for eight. -/
theorem not_isMaskOf_trailing_hyphen :
    maskAccountNumber (some "123-456-") = "***-***-3456" ∧
      ¬ IsMaskOf (maskAccountNumber (some "123-456-")).toList "123-456-".toList :=
  ⟨by decide, fun h => absurd h.1 (by decide)⟩

example : maskAccountNumber (some "110-123-456789") = "***-***-**6789" := by decide

/-! ## The stored column -/

/-- The Fernet of the configured key.  A token depends on the time and on an
initialisation vector, here the draw. -/
structure Fernet (Draw : Type) where
  encrypt : Draw → String → String
  /-- `none` is `InvalidToken`. -/
  decrypt : String → Option String

/-- `is_encrypted`. -/
def isEncrypted (value : String) : Bool :=
  "gAAAAA".toList.isPrefixOf value.toList && decide (50 < value.toList.length)

section

variable {Draw : Type}

/-- `encrypt_account_number`; `cipher` is the draw of the token, or what
`_get_cipher` or `encrypt` raises. -/
def encryptAccountNumber (fernet : Fernet Draw) (cipher : Except ShopError Draw)
    (account : String) : Except ShopError String :=
  if account = "" then .error (.valueError "계좌번호가 비어있습니다.")
  else cipher.map fun draw => fernet.encrypt draw account

/-- `decrypt_account_number`. -/
def decryptAccountNumber (fernet : Fernet Draw) (account : String) : Except ShopError String :=
  if account = "" then .error (.valueError "암호화된 계좌번호가 비어있습니다.")
  else
    match fernet.decrypt account with
    | some plain => .ok plain
    | none =>
      .error (.valueError "계좌번호 복호화에 실패했습니다. 암호화 키를 확인해주세요.")

namespace Return

/-- `save` of a return, with what it writes to `refund_account_number`.  It goes
on when the encryption fails. -/
def save (fernet : Fernet Draw) (column : String) (cipher : Except ShopError Draw) : String :=
  if column ≠ "" ∧ isEncrypted column = false then
    match encryptAccountNumber fernet cipher column with
    | .ok token => token
    | .error _ => column
  else column

/-- `get_decrypted_account_number`. -/
def getDecryptedAccountNumber (fernet : Fernet Draw) (column : String) : Except ShopError String :=
  if column = "" then .ok ""
  else if isEncrypted column = false then .ok column
  else
    (decryptAccountNumber fernet column).mapError fun _ =>
      .valueError "계좌번호 복호화에 실패했습니다."

/-- `get_masked_account_number`. -/
def getMaskedAccountNumber (fernet : Fernet Draw) (column : String) : String :=
  if column = "" then ""
  else
    match getDecryptedAccountNumber fernet column with
    | .ok account => maskAccountNumber (some account)
    | .error _ => "************"

/-- The column after the saves. -/
def saves (fernet : Fernet Draw) (column : String) (ciphers : List (Except ShopError Draw)) :
    String :=
  ciphers.foldl (save fernet) column

variable {fernet : Fernet Draw} {column : String}

theorem save_ok (hne : column ≠ "") (h : isEncrypted column = false) (draw : Draw) :
    save fernet column (.ok draw) = fernet.encrypt draw column := by
  rw [save, if_pos ⟨hne, h⟩, encryptAccountNumber, if_neg hne]
  rfl

end Return

end

namespace Return

end Return

end Shopping
