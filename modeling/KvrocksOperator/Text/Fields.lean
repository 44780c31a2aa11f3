import Mathlib.Algebra.Group.Int.Defs
import Mathlib.Algebra.Group.Nat.Defs
import Mathlib.Data.List.Basic
import Mathlib.Data.Int.Basic

/-!
# Separated fields and decimal numbers

`split`, `splitN`, `atoi` and `itoa` follow the documented behaviour of the Go functions `strings.Split`,
`strings.SplitN`, `strconv.Atoi` and `strconv.Itoa` for a one-character separator and a 64-bit `int`.  Fields are
computed on the list of characters, so that the list lemmas about `List.splitOn` apply.
-/

namespace Text

/-! ## Splitting at every separator -/

/-- All fields of `text`; a text without a separator is its only field. -/
def split (sep : Char) (text : String) : List String := (text.toList.splitOn sep).map String.ofList

theorem split_ne_nil (sep : Char) (text : String) : split sep text ≠ [] := by
  simp [split, List.splitOn_ne_nil]

variable {sep : Char}

theorem split_of_not_mem {text : String} (h : sep ∉ text.toList) : split sep text = [text] := by
  simp [split, List.splitOn_eq_singleton h]

/-- The first field ends at the first separator. -/
theorem split_append {field : String} (h : sep ∉ field.toList) (rest : String) :
    split sep (field ++ String.singleton sep ++ rest) = field :: split sep rest := by
  have hlist : (field ++ String.singleton sep ++ rest).toList = field.toList ++ sep :: rest.toList := by
    simp
  unfold split
  rw [hlist, List.splitOn_append_cons_self_of_not_mem h]
  simp

/-- A separator-free text after the last separator is the last field. -/
theorem split_append_last (text : String) {last : String} (h : sep ∉ last.toList) :
    split sep (text ++ String.singleton sep ++ last) = split sep text ++ [last] := by
  have hlist : (text ++ String.singleton sep ++ last).toList = text.toList ++ sep :: last.toList := by
    simp
  unfold split
  rw [hlist, List.splitOn_append_cons_self, List.splitOn_eq_singleton h]
  simp

theorem split_length_eq_one_iff {text : String} : (split sep text).length = 1 ↔ sep ∉ text.toList := by
  constructor
  · intro hlength hmem
    obtain ⟨front, back, hsplit⟩ := List.append_of_mem hmem
    have hfields : text.toList.splitOn sep = front.splitOn sep ++ back.splitOn sep := by
      rw [hsplit, List.splitOn_append_cons_self]
    have hfront := List.length_pos_of_ne_nil (List.splitOn_ne_nil sep front)
    have hback := List.length_pos_of_ne_nil (List.splitOn_ne_nil sep back)
    rw [split, List.length_map, hfields, List.length_append] at hlength
    omega
  · intro h
    rw [split_of_not_mem h, List.length_singleton]

/-- No field contains the separator. -/
theorem not_mem_of_mem_split {text field : String} (h : field ∈ split sep text) : sep ∉ field.toList := by
  obtain ⟨chars, hchars, rfl⟩ := List.mem_map.mp h
  rw [String.toList_ofList]
  have hfree : ∀ text : List Char, ∀ chars ∈ text.splitOn sep, sep ∉ chars := by
    intro text
    induction text with
    | nil =>
      intro chars hmem
      simp only [List.splitOn_nil, List.mem_singleton] at hmem
      simp [hmem]
    | cons head tail ih =>
      intro chars hmem
      by_cases hhead : head = sep
      · subst hhead
        have hcut : (head :: tail).splitOn head = [] :: tail.splitOn head :=
          List.splitOn_append_cons_self_of_not_mem List.not_mem_nil tail
        rw [hcut] at hmem
        rcases List.mem_cons.mp hmem with rfl | hrest
        · simp
        · exact ih chars hrest
      · rw [List.splitOn_cons_eq_if_modifyHead, if_neg (by simpa using hhead)] at hmem
        cases hfields : tail.splitOn sep with
        | nil => exact absurd hfields (List.splitOn_ne_nil sep tail)
        | cons first others =>
          rw [hfields, List.modifyHead_cons] at hmem
          rcases List.mem_cons.mp hmem with rfl | hrest
          · have hfirst := ih first (hfields ▸ List.mem_cons_self)
            simp [hfirst, Ne.symm hhead]
          · exact ih chars (hfields ▸ List.mem_cons_of_mem first hrest)
  exact hfree text.toList chars hchars

/-! ## Splitting a bounded number of times -/

/-- What stands before and after the first separator. -/
def cut (sep : Char) : List Char → Option (List Char × List Char)
  | [] => none
  | head :: tail =>
    if head = sep then some ([], tail)
    else (cut sep tail).map fun parts ↦ (head :: parts.1, parts.2)

theorem cut_append {front : List Char} (h : sep ∉ front) (back : List Char) :
    cut sep (front ++ sep :: back) = some (front, back) := by
  induction front with
  | nil => simp [cut]
  | cons head tail ih =>
    rw [List.mem_cons, not_or] at h
    simp [cut, Ne.symm h.1, ih h.2]

theorem cut_eq_some {text front back : List Char} (h : cut sep text = some (front, back)) :
    text = front ++ sep :: back ∧ sep ∉ front := by
  induction text generalizing front back with
  | nil => simp [cut] at h
  | cons head tail ih =>
    by_cases hhead : head = sep
    · simp only [cut, hhead, if_true, Option.some.injEq, Prod.mk.injEq] at h
      obtain ⟨rfl, rfl⟩ := h
      simp [hhead]
    · simp only [cut, hhead, if_false, Option.map_eq_some_iff, Prod.mk.injEq] at h
      obtain ⟨⟨front', back'⟩, hcut, rfl, rfl⟩ := h
      obtain ⟨rfl, hfree⟩ := ih hcut
      exact ⟨rfl, by simp [hfree, Ne.symm hhead]⟩

/-- At most `limit` fields; the last one keeps the separators that remain. -/
def splitNList (sep : Char) : ℕ → List Char → List (List Char)
  | 0, _ => []
  | 1, text => [text]
  | limit + 2, text =>
    match cut sep text with
    | none => [text]
    | some (front, back) => front :: splitNList sep (limit + 1) back

/-- `strings.SplitN` for a positive limit. -/
def splitN (sep : Char) (text : String) (limit : ℕ) : List String :=
  (splitNList sep limit text.toList).map String.ofList

theorem splitNList_ne_nil (sep : Char) (limit : ℕ) (text : List Char) : splitNList sep (limit + 1) text ≠ [] := by
  cases limit with
  | zero => simp [splitNList]
  | succ limit => cases hcut : cut sep text <;> simp [splitNList, hcut]

/-- Every field but the last is free of the separator. -/
theorem splitNList_dropLast_free (limit : ℕ) (text : List Char) :
    ∀ field ∈ (splitNList sep limit text).dropLast, sep ∉ field := by
  induction limit generalizing text with
  | zero => simp [splitNList]
  | succ limit ih =>
    cases limit with
    | zero => simp [splitNList]
    | succ limit =>
      intro field hfield
      cases hcut : cut sep text with
      | none => simp [splitNList, hcut] at hfield
      | some parts =>
        simp only [splitNList, hcut] at hfield
        rw [List.dropLast_cons_of_ne_nil (splitNList_ne_nil sep limit parts.2)] at hfield
        rcases List.mem_cons.mp hfield with rfl | hrest
        · exact (cut_eq_some hcut).2
        · exact ih parts.2 field hrest

/-! ## Decimal numbers -/

/-- Why `atoi` refuses a text. -/
inductive NumError where
  | malformed
  | outOfRange
  deriving DecidableEq

def maxInt : ℤ := 2 ^ 63 - 1

def minInt : ℤ := -2 ^ 63

def maxUint : ℕ := 2 ^ 64 - 1

/-- `strconv.ParseUint` from a character on: the value is saturated at the first digit that overflows a `uint64`,
whatever follows, and `none` is a character before it that is no digit. -/
def parseUint : ℕ → List Char → Option ℕ
  | value, [] => some value
  | value, char :: rest =>
    if char.isDigit then
      let next := 10 * value + (char.toNat - '0'.toNat)
      if next ≤ maxUint then parseUint next rest else some maxUint
    else none

/-- Value of what follows an optional sign, saturated at the ends of the range. -/
def atoiDigits (negative : Bool) (digits : List Char) : ℤ × Option NumError :=
  if digits = [] then (0, some .malformed)
  else
    match parseUint 0 digits with
    | none => (0, some .malformed)
    | some value =>
      if negative then
        if minInt ≤ -(value : ℤ) then (-value, none) else (minInt, some .outOfRange)
      else if (value : ℤ) ≤ maxInt then (value, none) else (maxInt, some .outOfRange)

/-- The number together with the error; callers that ignore the error use the number. -/
def atoi (text : String) : ℤ × Option NumError :=
  match text.toList with
  | '-' :: digits => atoiDigits true digits
  | '+' :: digits => atoiDigits false digits
  | digits => atoiDigits false digits

/-- Decimal representation of an integer. -/
def itoa (value : ℤ) : String := toString value

theorem toList_itoa (value : ℕ) : (itoa value).toList = Nat.toDigits 10 value := by
  change (Nat.repr value).toList = Nat.toDigits 10 value
  exact Nat.toList_repr

variable {value : ℕ}

theorem isDigit_of_mem_itoa {char : Char} (h : char ∈ (itoa value).toList) : char.isDigit = true := by
  rw [toList_itoa] at h
  exact Nat.isDigit_of_mem_toDigits (by decide) (by decide) h

/-- A separator that is not a digit does not occur in a decimal number. -/
theorem not_mem_itoa (hsep : sep.isDigit = false) (value : ℕ) : sep ∉ (itoa value).toList := by
  intro hmem
  rw [isDigit_of_mem_itoa hmem] at hsep
  cases hsep

theorem itoa_injective : Function.Injective fun value : ℕ ↦ itoa value := by
  intro first second h
  have hdigits : Nat.toDigits 10 first = Nat.toDigits 10 second := by
    rw [← toList_itoa, ← toList_itoa]
    exact congrArg String.toList h
  rw [← @Nat.ofDigitChars_ten_toDigits first, hdigits, Nat.ofDigitChars_ten_toDigits]

/-- Digits whose value fits are read as that value. -/
theorem parseUint_of_le {digits : List Char} (hdigits : ∀ char ∈ digits, char.isDigit = true)
    (h : Nat.ofDigitChars 10 digits value ≤ maxUint) :
    parseUint value digits = some (Nat.ofDigitChars 10 digits value) := by
  induction digits generalizing value with
  | nil => rfl
  | cons char rest ih =>
    obtain ⟨hchar, hrest⟩ := List.forall_mem_cons.mp hdigits
    rw [Nat.ofDigitChars_cons] at h ⊢
    have hnext : 10 * value + (char.toNat - '0'.toNat) ≤ maxUint := by
      -- the value only grows with the digits that follow
      rw [Nat.ofDigitChars_eq_ofDigitChars_zero] at h
      have hpow : 1 ≤ 10 ^ rest.length := Nat.one_le_pow _ _ (by decide)
      have hgrows := Nat.le_mul_of_pos_left (10 * value + (char.toNat - '0'.toNat)) hpow
      omega
    rw [parseUint, if_pos hchar]
    simp only [if_pos hnext]
    exact ih hrest h

theorem parseUint_toDigits (h : value ≤ maxUint) : parseUint 0 (Nat.toDigits 10 value) = some value := by
  have hvalue : Nat.ofDigitChars 10 (Nat.toDigits 10 value) 0 = value := Nat.ofDigitChars_ten_toDigits
  rw [parseUint_of_le (fun char hchar ↦ Nat.isDigit_of_mem_toDigits (by decide) (by decide) hchar), hvalue]
  rwa [hvalue]

/-- Reading back a decimal number inside the range of `int`. -/
theorem atoi_itoa (h : value < 2 ^ 63) : atoi (itoa value) = ((value : ℤ), none) := by
  have hdigits : atoiDigits false (itoa value).toList = ((value : ℤ), none) := by
    have hrange : (value : ℤ) ≤ maxInt := by
      unfold maxInt
      omega
    have hfits : value ≤ maxUint := by
      unfold maxUint
      omega
    rw [toList_itoa, atoiDigits, if_neg Nat.toDigits_ne_nil, parseUint_toDigits hfits]
    simp only [Bool.false_eq_true, if_false, if_pos hrange]
  -- a decimal number starts with a digit, so neither sign branch is taken
  unfold atoi
  split
  · rename_i digits hminus
    exact absurd (hminus ▸ List.mem_cons_self) (@not_mem_itoa '-' (by decide) value)
  · rename_i digits hplus
    exact absurd (hplus ▸ List.mem_cons_self) (@not_mem_itoa '+' (by decide) value)
  · exact hdigits

/-- Reading back any value of type `int`. -/
theorem atoi_itoa_int {value : ℤ} (hmin : minInt ≤ value) (hmax : value ≤ maxInt) :
    atoi (itoa value) = (value, none) := by
  cases value with
  | ofNat value =>
    apply atoi_itoa
    rw [Int.ofNat_eq_natCast, maxInt] at hmax
    omega
  | negSucc value =>
    have hlist : (itoa (Int.negSucc value)).toList = '-' :: (itoa (value + 1 : ℕ)).toList := by
      change ("-" ++ toString (value + 1)).toList = '-' :: (toString (value + 1)).toList
      rw [String.toList_append]
      rfl
    have hvalue : -((value + 1 : ℕ) : ℤ) = Int.negSucc value := (Int.negSucc_eq value).symm
    have hfits : value + 1 ≤ maxUint := by
      unfold minInt at hmin
      unfold maxUint
      omega
    unfold atoi
    rw [hlist, toList_itoa]
    simp only [atoiDigits, if_neg Nat.toDigits_ne_nil, parseUint_toDigits hfits, if_true]
    rw [hvalue, if_pos hmin]

/-- A text without a dash is read as a number that is not negative and inside the range of `int`. -/
theorem atoi_range_of_not_mem {text : String} (h : '-' ∉ text.toList) : 0 ≤ (atoi text).1 ∧ (atoi text).1 ≤ maxInt := by
  have hdigits (digits : List Char) : 0 ≤ (atoiDigits false digits).1 ∧ (atoiDigits false digits).1 ≤ maxInt := by
    unfold atoiDigits
    split
    · decide
    · split
      · decide
      · simp only [Bool.false_eq_true, if_false]
        split
        · rename_i hrange
          exact ⟨Int.natCast_nonneg _, hrange⟩
        · decide
  unfold atoi
  split
  · rename_i digits hminus
    exact absurd (hminus ▸ List.mem_cons_self) h
  · exact hdigits _
  · exact hdigits _

end Text
