import Failsafe.Timestamp.Text
import Mathlib.Algebra.Group.Nat.Defs
import Mathlib.Data.List.Basic
import Mathlib.Data.Option.Basic

/-!
# Timestamps as they are written

The reader of timestamps reads what the writer writes (`Timestamp.read?_text`). Each part of the text is read where it
stands, with the rest of the text behind it: digits end where the rest goes on with another character, or when as many
have been read as are allowed (`digits?_append`).
-/

namespace Failsafe

namespace Digits

variable {width n : Nat}

theorem value_eq_ofDigitChars (cs : List Char) : value cs = Nat.ofDigitChars 10 cs 0 := by
  unfold value Nat.ofDigitChars
  simp only [Nat.mul_comm]

theorem value_padded (width n : Nat) : value (padded 10 width n) = n := by
  unfold padded
  rw [value_eq_ofDigitChars, Nat.ofDigitChars_append, Nat.ofDigitChars_replicate_zero, Nat.mul_zero,
    Nat.ofDigitChars_toDigits (by decide) (by decide)]

theorem isDigit_of_mem_padded {c : Char} (h : c ∈ padded 10 width n) : c.isDigit = true := by
  rcases List.mem_append.mp h with h | h
  · rw [List.eq_of_mem_replicate h]
    decide
  · exact Nat.isDigit_of_mem_toDigits (by decide) (by decide) h

theorem length_padded (hwidth : 0 < width) (h : n < 10 ^ width) : (padded 10 width n).length = width := by
  have hlength := (Nat.length_toDigits_le_iff (b := 10) (by decide) hwidth).mpr h
  unfold padded
  rw [List.length_append, List.length_replicate]
  omega

theorem padded_ne_nil (width n : Nat) : padded 10 width n ≠ [] := by
  intro h
  exact Nat.toDigits_ne_nil (List.append_eq_nil_iff.mp h).2

end Digits

namespace Timestamp

open Digits

variable {c : Char} {digits rest : List Char} {width n : Nat}

/-! ## Blanks and digits -/

theorem isBlank_of_isDigit (h : c.isDigit = true) : Unicode.isBlank c = false := by
  have hblank : ∀ n < 58, 48 ≤ n → Unicode.blankRanges.contains n = false := by decide
  simp only [Char.isDigit, Bool.and_eq_true, decide_eq_true_eq, ge_iff_le, UInt32.le_iff_toNat_le] at h
  exact hblank c.toNat (Nat.lt_succ_of_le h.2) h.1

theorem skipBlanks_cons (h : Unicode.isBlank c = false) (rest : List Char) : skipBlanks (c :: rest) = c :: rest :=
  List.dropWhile_cons_of_neg (by rw [h]; exact Bool.false_ne_true)

theorem skipBlanks_digits (hdigits : ∀ c ∈ digits, c.isDigit = true) (hne : digits ≠ []) (rest : List Char) :
    skipBlanks (digits ++ rest) = digits ++ rest := by
  cases digits with
  | nil => exact absurd rfl hne
  | cons c digits => exact skipBlanks_cons (isBlank_of_isDigit (hdigits c List.mem_cons_self)) (digits ++ rest)

/-- Digits end where the rest goes on with another character, or when as many have been read as are allowed. -/
theorem digits?_append (hdigits : ∀ c ∈ digits, c.isDigit = true) (hne : digits ≠ []) (hwidth : digits.length ≤ width)
    (hend : digits.length = width ∨ rest.takeWhile Char.isDigit = []) :
    digits? width (digits ++ rest) = some (value digits, rest) := by
  have hrest : (rest.take (width - digits.length)).takeWhile Char.isDigit = [] := by
    rcases hend with hlength | hrest
    · rw [hlength, Nat.sub_self]
      rfl
    · cases rest with
      | nil => rw [List.take_nil, List.takeWhile_nil]
      | cons c rest =>
        have hc : ¬c.isDigit = true := fun hc => by simp [hc] at hrest
        cases width - digits.length with
        | zero => rfl
        | succ k => rw [List.take_succ_cons, List.takeWhile_cons_of_neg hc]
  have htaken : ((digits ++ rest).take width).takeWhile Char.isDigit = digits := by
    rw [List.take_append, List.take_of_length_le hwidth, List.takeWhile_append_of_pos hdigits, hrest, List.append_nil]
  unfold digits?
  dsimp only
  rw [htaken, if_neg (by simpa using hne), List.drop_left]

/-- A number that fills the places it may have, or that something else than a digit follows. -/
theorem digits?_padded (hwidth : 0 < width) (h : n < 10 ^ width) (rest : List Char) :
    digits? width (skipBlanks (padded 10 width n ++ rest)) = some (n, rest) := by
  have hlength := length_padded hwidth h
  rw [skipBlanks_digits (fun _ => isDigit_of_mem_padded) (padded_ne_nil width n),
    digits?_append (fun _ => isDigit_of_mem_padded) (padded_ne_nil width n) (Nat.le_of_eq hlength) (.inl hlength),
    value_padded]

theorem expect?_skipBlanks (h : Unicode.isBlank c = false) (rest : List Char) :
    Text.expect? c (skipBlanks (c :: rest)) = some rest := by
  rw [skipBlanks_cons h]
  exact if_pos rfl

/-! ## Dates -/

theorem daysIn_le (year : Int) (month : Nat) : Date.daysIn year month ≤ 31 := by
  unfold Date.daysIn
  split
  · split <;> decide
  all_goals decide

/-- A year that begins with a digit has four of them at most. -/
theorem year?_digits (hdigits : ∀ c ∈ digits, c.isDigit = true) (hne : digits ≠ []) (rest : List Char) :
    year? (digits ++ rest) = (digits? 4 (digits ++ rest)).map fun (n, rest) => ((n : Int), rest) := by
  cases digits with
  | nil => exact absurd rfl hne
  | cons c digits =>
    have hc := hdigits c List.mem_cons_self
    unfold year?
    split
    · next h =>
      obtain rfl := (List.cons.inj h).1
      exact absurd hc (by decide)
    · next h =>
      obtain rfl := (List.cons.inj h).1
      exact absurd hc (by decide)
    · rfl

theorem year?_yearText (year : Int) (rest : List Char) :
    year? (skipBlanks (yearText year ++ '-' :: rest)) = some (year, '-' :: rest) := by
  unfold yearText
  by_cases hplain : 0 ≤ year ∧ year ≤ 9999
  · have hyear : year.toNat < 10 ^ 4 := by omega
    rw [if_pos hplain, skipBlanks_digits (fun _ => isDigit_of_mem_padded) (padded_ne_nil 4 year.toNat),
      year?_digits (fun _ => isDigit_of_mem_padded) (padded_ne_nil 4 year.toNat),
      ← skipBlanks_digits (fun _ => isDigit_of_mem_padded) (padded_ne_nil 4 year.toNat),
      digits?_padded (by decide) hyear]
    show some ((year.toNat : Int), '-' :: rest) = _
    rw [Int.toNat_of_nonneg hplain.1]
  · -- Behind a sign there may be any number of digits; they end where the month is set off.
    have hdigits : digits? (padded 10 4 year.natAbs ++ '-' :: rest).length (padded 10 4 year.natAbs ++ '-' :: rest) =
        some (year.natAbs, '-' :: rest) := by
      rw [digits?_append (fun _ => isDigit_of_mem_padded) (padded_ne_nil 4 year.natAbs)
        (by rw [List.length_append]; omega) (.inr rfl), value_padded]
    rw [if_neg hplain, List.cons_append]
    by_cases hneg : year < 0
    · have habs : -(year.natAbs : Int) = year := by omega
      rw [if_pos hneg, skipBlanks_cons (by decide)]
      refine (congrArg (Option.map fun (n, rest) => (-(n : Int), rest)) hdigits).trans ?_
      show some (-(year.natAbs : Int), '-' :: rest) = _
      rw [habs]
    · have habs : (year.natAbs : Int) = year := by omega
      rw [if_neg hneg, skipBlanks_cons (by decide)]
      refine (congrArg (Option.map fun (n, rest) => ((n : Int), rest)) hdigits).trans ?_
      show some ((year.natAbs : Int), '-' :: rest) = _
      rw [habs]

theorem date?_dateText (d : Date) (rest : List Char) :
    date? (dateText d ++ 'T' :: rest) = some (d, 'T' :: rest) := by
  obtain ⟨-, -, -, hmonth, -, hday⟩ := d.isDate
  have hmonths : d.month < 10 ^ 2 := by omega
  have hdays : d.day < 10 ^ 2 := by
    have hle := daysIn_le d.year d.month
    omega
  have hdate : Date.of? d.year d.month d.day = some d := dif_pos d.isDate
  unfold date? dateText
  simp only [List.append_assoc, List.cons_append, year?_yearText, Option.bind_eq_bind, Option.bind_some,
    expect?_skipBlanks (show Unicode.isBlank '-' = false by decide), digits?_padded (by decide : 0 < 2) hmonths,
    digits?_padded (by decide : 0 < 2) hdays, hdate]

/-! ## Times of day -/

theorem fraction?_point (hdigits : ∀ c ∈ digits, c.isDigit = true) (hne : digits ≠ []) (hlength : digits.length ≤ 9)
    (rest : List Char) : fraction? ('.' :: (digits ++ 'Z' :: rest)) =
      some (value digits * 10 ^ (9 - digits.length), 'Z' :: rest) := by
  have htaken : (digits ++ 'Z' :: rest).takeWhile Char.isDigit = digits := by
    rw [List.takeWhile_append_of_pos hdigits]
    exact List.append_nil digits
  unfold fraction?
  simp only [htaken, guard, if_pos hne, List.take_of_length_le hlength, List.drop_left]
  rfl

theorem fraction?_padded (hwidth : 0 < width) (hle : width ≤ 9) (h : n < 10 ^ width) (rest : List Char) :
    fraction? ('.' :: (padded 10 width n ++ 'Z' :: rest)) = some (n * 10 ^ (9 - width), 'Z' :: rest) := by
  have hlength := length_padded hwidth h
  rw [fraction?_point (fun _ => isDigit_of_mem_padded) (padded_ne_nil width n) (by omega), hlength, value_padded]

/-- Three, six or nine digits of a fraction are as many as are needed. -/
theorem fraction?_fractionText (h : n < 1000000000) (rest : List Char) :
    fraction? (fractionText n ++ 'Z' :: rest) = some (n, 'Z' :: rest) := by
  unfold fractionText
  by_cases hzero : n = 0
  · rw [if_pos hzero, hzero]
    rfl
  · rw [if_neg hzero]
    by_cases hmillis : n % 1000000 = 0
    · rw [if_pos hmillis, List.cons_append, fraction?_padded (by decide) (by decide) (by omega)]
      congr 2
      omega
    · rw [if_neg hmillis]
      by_cases hmicros : n % 1000 = 0
      · rw [if_pos hmicros, List.cons_append, fraction?_padded (by decide) (by decide) (by omega)]
        congr 2
        omega
      · rw [if_neg hmicros, List.cons_append, fraction?_padded (by decide) (by decide) (by omega)]
        congr 2
        omega

theorem clock?_text {minute second nanos : Nat} (hminute : minute < 1440) (hsecond : second ≤ 60)
    (hnanos : nanos < 1000000000) :
    clock? (padded 10 2 (minute / 60) ++ ':' :: (padded 10 2 (minute % 60) ++ ':' :: (padded 10 2 second ++
      (fractionText nanos ++ ['Z'])))) = some ((minute / 60, minute % 60, second, nanos), ['Z']) := by
  have hhours : minute / 60 < 10 ^ 2 := by omega
  have hminutes : minute % 60 < 10 ^ 2 := by omega
  have hseconds : second < 10 ^ 2 := by omega
  have hclock : minute / 60 < 24 ∧ minute % 60 < 60 := by omega
  unfold clock?
  simp only [digits?_padded (by decide : 0 < 2) hhours, digits?_padded (by decide : 0 < 2) hminutes,
    digits?_padded (by decide : 0 < 2) hseconds, expect?_skipBlanks (show Unicode.isBlank ':' = false by decide),
    fraction?_fractionText hnanos, Option.bind_eq_bind, Option.bind_some, guard, if_pos hclock]
  rfl

/-! ## Timestamps -/

theorem ofLocal?_zero (t : Timestamp) : ofLocal? t.date t.minute t.second t.nanos 0 = some t := by
  have hminute := t.minute_lt
  have hof : of? t.date t.minute t.second t.nanos = some t := dif_pos ⟨t.minute_lt, t.second_le, t.nanos_lt⟩
  unfold ofLocal?
  dsimp only
  rw [if_neg (by omega), if_neg (by omega), Int.sub_zero, Int.toNat_natCast]
  exact hof

/-- **The reader of timestamps reads what the writer writes**, for every year there is and for leap seconds. -/
theorem read?_text (t : Timestamp) : read? t.text = some t := by
  have hclock := clock?_text t.minute_lt t.second_le t.nanos_lt
  have hminute : t.minute / 60 * 60 + t.minute % 60 = t.minute := Nat.div_add_mod' t.minute 60
  have hblanks : skipBlanks [] = [] := rfl
  unfold read? text
  simp only [String.toList_ofList, List.append_assoc, List.cons_append, date?_dateText, Option.bind_eq_bind,
    Option.bind_some, hclock, skipBlanks_cons (show Unicode.isBlank 'Z' = false by decide), zone?, hblanks, guard,
    if_true, hminute, ofLocal?_zero]
  rfl

end Timestamp

end Failsafe
