import Failsafe.Proofs.Redaction.Word

/-!
# No long hexadecimal number survives the first pass

`IsHexNumber` says what a long number is, and `HoldsHex` that one stands in a text as a word of its own. `hexLength`
finds exactly these (`hexLength_eq`, `exists_hexNumber`).

The first pass leaves none behind (`not_holdsHex_redactHex`). What stands on both sides of a number in its output is
what stood there before: a mark has brackets around it, but another number that touched this one would have made it
a part of a longer word.
-/

namespace Failsafe.Redaction

open Unicode (isWord)

/-- A long hexadecimal number. -/
inductive IsHexNumber : List Char → Prop where
  | plain {digits} (hlong : longHex ≤ digits.length) (hdigits : ∀ c ∈ digits, isHex c = true) : IsHexNumber digits
  | marked {x digits} (hx : x = 'x' ∨ x = 'X') (hlong : longHex ≤ digits.length)
    (hdigits : ∀ c ∈ digits, isHex c = true) : IsHexNumber ('0' :: x :: digits)

/-- A long hexadecimal number stands in a text as a word of its own. -/
def HoldsHex (text : List Char) : Prop :=
  ∃ front number rest, text = front ++ (number ++ rest) ∧ IsHexNumber number ∧
    (lastFrom none front).any isWord = false ∧ endsWord rest = true

/-! ## Characters -/

/-- A character that can stand in a hexadecimal number. -/
def isHexMark (c : Char) : Bool := isHex c || c = 'x' || c = 'X'

theorem isHexMark_iff (c : Char) : isHexMark c = true ↔
    (48 ≤ c.toNat ∧ c.toNat ≤ 57) ∨ (97 ≤ c.toNat ∧ c.toNat ≤ 102) ∨ (65 ≤ c.toNat ∧ c.toNat ≤ 70) ∨
      c.toNat = 120 ∨ c.toNat = 88 := by
  have hchar : ∀ d : Char, c = d ↔ c.toNat = d.toNat := fun d => Char.toNat_inj.symm
  simp only [isHexMark, isHex, Char.isDigit, Bool.or_eq_true, Bool.and_eq_true, decide_eq_true_eq, hchar,
    Char.le_def, ge_iff_le, UInt32.le_iff_toNat_le, or_assoc]
  rfl

theorem isHexMark_of_isHex {c : Char} (h : isHex c = true) : isHexMark c = true := by
  simp [isHexMark, h]

theorem isWord_of_isHexMark {c : Char} (h : isHexMark c = true) : isWord c = true := by
  rw [isHexMark_iff] at h
  have hascii : c.toNat < 0x80 := by omega
  have hclass : (48 ≤ c.toNat ∧ c.toNat ≤ 57) ∨ c.isAlpha = true := by
    rw [isAlpha_iff]
    omega
  unfold isWord Unicode.isWordAscii
  rw [if_pos hascii]
  rcases hclass with hdigit | halpha
  · have hisDigit : c.isDigit = true := by
      simp only [Char.isDigit, Bool.and_eq_true, decide_eq_true_eq, ge_iff_le, UInt32.le_iff_toNat_le]
      exact hdigit
    simp [Char.isAlphanum, hisDigit]
  · simp [Char.isAlphanum, halpha]

theorem isBare_of_isHexMark {c : Char} (h : isHexMark c = true) : isBare c = true := by
  rw [isHexMark_iff] at h
  have hblank : Unicode.isBlank c = false := by
    simp only [Unicode.isBlank, Unicode.Ranges.contains, Unicode.blankRanges, List.any_cons, List.any_nil,
      Bool.or_eq_false_iff, Bool.and_eq_false_iff, decide_eq_false_iff_not, and_true]
    omega
  have hchar : ∀ d : Char, c = d ↔ c.toNat = d.toNat := fun d => Char.toNat_inj.symm
  simp only [isBare, hblank, Bool.false_or, Bool.not_eq_true', Bool.or_eq_false_iff, decide_eq_false_iff_not, hchar]
  refine ⟨⟨?_, ?_⟩, ?_⟩ <;> · simp only [Char.reduceToNat]; omega

theorem endsWord_iff {rest : List Char} :
    endsWord rest = true ↔ ∀ c, rest.head? = some c → isWord c = false := by
  cases rest <;> simp [endsWord]

/-! ## Numbers -/

namespace IsHexNumber

variable {number : List Char}

theorem isHexMark (h : IsHexNumber number) : ∀ c ∈ number, isHexMark c = true := by
  cases h with
  | plain hlong hdigits => exact fun c hc => isHexMark_of_isHex (hdigits c hc)
  | marked hx hlong hdigits =>
    intro c hc
    rcases List.mem_cons.mp hc with rfl | hc
    · rfl
    rcases List.mem_cons.mp hc with rfl | hc
    · rcases hx with rfl | rfl <;> rfl
    · exact isHexMark_of_isHex (hdigits c hc)

theorem length_ge (h : IsHexNumber number) : longHex ≤ number.length := by
  cases h with
  | plain hlong hdigits => exact hlong
  | marked hx hlong hdigits =>
    simp only [List.length_cons]
    omega

theorem ne_nil (h : IsHexNumber number) : number ≠ [] := by
  rintro rfl
  exact absurd h.length_ge (by decide)

theorem isWord_lastFrom (h : IsHexNumber number) (before : Option Char) :
    (lastFrom before number).any isWord = true := by
  rcases List.eq_nil_or_concat number with rfl | ⟨front, c, rfl⟩
  · exact absurd rfl h.ne_nil
  · rw [List.concat_eq_append] at h ⊢
    rw [lastFrom_concat, Option.any_some]
    exact isWord_of_isHexMark (h.isHexMark c (by simp))

theorem endsWord_append (h : IsHexNumber number) (rest : List Char) : endsWord (number ++ rest) = false := by
  obtain ⟨c, more, rfl⟩ := List.exists_cons_of_ne_nil h.ne_nil
  have hc := isWord_of_isHexMark (h.isHexMark c List.mem_cons_self)
  simp [endsWord, hc]

theorem unbracketed (h : IsHexNumber number) : Unbracketed number :=
  ⟨fun hmem => absurd (h.isHexMark _ hmem) (by decide), fun hmem => absurd (h.isHexMark _ hmem) (by decide)⟩

/-- A text that holds a number is longer than a mark. -/
theorem not_infix_marks (h : IsHexNumber number) {text : List Char} (hin : number <:+: text) :
    ¬ text <:+: marker.toList ∧ ¬ text <:+: hexMarker.toList := by
  have hlong := Nat.le_trans h.length_ge hin.length_le
  constructor
  · intro hmarker
    exact absurd (Nat.le_trans hlong hmarker.length_le) (by decide)
  · intro hmarker
    exact absurd (Nat.le_trans hlong hmarker.length_le) (by decide)

end IsHexNumber

/-! ## Looking for numbers -/

theorem digitsLength_eq {digits rest : List Char} (hlong : longHex ≤ digits.length)
    (hdigits : ∀ c ∈ digits, isHex c = true) (hrest : endsWord rest = true) :
    digitsLength (digits ++ rest) = digits.length := by
  have hstretch : Stretch isHex digits rest := by
    refine ⟨hdigits, fun c hc => ?_⟩
    have hword := endsWord_iff.mp hrest c hc
    rw [Bool.eq_false_iff] at hword ⊢
    exact fun hhex => hword (isWord_of_isHexMark (isHexMark_of_isHex hhex))
  unfold digitsLength
  dsimp only
  rw [hstretch.takeWhile_eq, List.drop_left]
  exact if_pos ⟨hlong, hrest⟩

theorem exists_digits {cs : List Char} (h : digitsLength cs ≠ 0) :
    ∃ digits rest, cs = digits ++ rest ∧ longHex ≤ digits.length ∧ (∀ c ∈ digits, isHex c = true) ∧
      endsWord rest = true ∧ digits.length = digitsLength cs := by
  obtain ⟨digits, rest, hcs, hstretch, hdigits⟩ := exists_stretch isHex cs
  by_cases hlong : longHex ≤ digits.length ∧ endsWord rest = true
  · refine ⟨digits, rest, hcs, hlong.1, hstretch.all, hlong.2, ?_⟩
    rw [hcs, digitsLength_eq hlong.1 hstretch.all hlong.2]
  · exfalso
    refine h ?_
    unfold digitsLength
    dsimp only
    rw [← hdigits, hcs, List.drop_left]
    exact if_neg hlong

variable {before : Option Char} {cs number rest : List Char}

theorem hexLength_marked {x : Char} (hbefore : before.any isWord = false) (hx : x = 'x' ∨ x = 'X')
    (hdigits : digitsLength rest ≠ 0) : hexLength before ('0' :: x :: rest) = digitsLength rest + 2 := by
  simp only [hexLength, hbefore, Bool.false_eq_true, if_false, if_pos hx, if_pos hdigits]

theorem hexLength_plain (hbefore : before.any isWord = false)
    (hplain : ∀ x rest, cs = '0' :: x :: rest → (x = 'x' ∨ x = 'X') → digitsLength rest = 0) :
    hexLength before cs = digitsLength cs := by
  simp only [hexLength, hbefore, Bool.false_eq_true, if_false]
  split
  next x rest =>
    have hmarked : (if x = 'x' ∨ x = 'X' then digitsLength rest else 0) = 0 := by
      split
      next hx => exact hplain x rest rfl hx
      next => rfl
    rw [hmarked]
    exact if_neg fun hne => hne rfl
  next => exact if_neg fun hne => hne rfl

/-- A number that stands as a word of its own is found in its full length. -/
theorem hexLength_eq (hbefore : before.any isWord = false) (h : IsHexNumber number) (hrest : endsWord rest = true) :
    hexLength before (number ++ rest) = number.length := by
  cases h with
  | @marked x digits hx hlong hdigits =>
    have hlength := digitsLength_eq hlong hdigits hrest
    have hne : digitsLength (digits ++ rest) ≠ 0 := by
      rw [hlength]
      unfold longHex at hlong
      omega
    rw [List.cons_append, List.cons_append, hexLength_marked hbefore hx hne, hlength]
    rfl
  | plain hlong hdigits =>
    rw [hexLength_plain hbefore, digitsLength_eq hlong hdigits hrest]
    -- An x is no digit.
    intro x more heq hx
    exfalso
    unfold longHex at hlong
    match number, hlong with
    | d :: d' :: digits, _ =>
      obtain ⟨-, heq'⟩ := List.cons.inj heq
      obtain ⟨rfl, -⟩ := List.cons.inj heq'
      have hdigit := hdigits d' (by simp)
      rcases hx with rfl | rfl
      · exact absurd hdigit (by decide)
      · exact absurd hdigit (by decide)

/-- What is found is a number that stands as a word of its own. -/
theorem exists_hexNumber (h : hexLength before cs ≠ 0) :
    before.any isWord = false ∧ ∃ number rest, cs = number ++ rest ∧ IsHexNumber number ∧ endsWord rest = true ∧
      number.length = hexLength before cs := by
  have hbefore : before.any isWord = false := by
    rw [Bool.eq_false_iff]
    exact fun hbefore => h (if_pos hbefore)
  refine ⟨hbefore, ?_⟩
  have hfound : ∃ number rest, cs = number ++ rest ∧ IsHexNumber number ∧ endsWord rest = true := by
    by_cases hmarked : ∃ x rest, cs = '0' :: x :: rest ∧ (x = 'x' ∨ x = 'X') ∧ digitsLength rest ≠ 0
    · obtain ⟨x, more, rfl, hx, hne⟩ := hmarked
      obtain ⟨digits, rest, rfl, hlong, hdigits, hrest, -⟩ := exists_digits hne
      exact ⟨'0' :: x :: digits, rest, rfl, .marked hx hlong hdigits, hrest⟩
    · -- Where no marked number stands the first digit may still be a zero.
      rw [hexLength_plain hbefore] at h
      · obtain ⟨digits, rest, rfl, hlong, hdigits, hrest, -⟩ := exists_digits h
        exact ⟨digits, rest, rfl, .plain hlong hdigits, hrest⟩
      · intro x rest hcs hx
        exact Classical.not_not.mp fun hne => hmarked ⟨x, rest, hcs, hx, hne⟩
  obtain ⟨number, rest, rfl, hnumber, hrest⟩ := hfound
  exact ⟨number, rest, rfl, hnumber, hrest, (hexLength_eq hbefore hnumber hrest).symm⟩

theorem hexLength_le (before : Option Char) (cs : List Char) : hexLength before cs ≤ cs.length := by
  by_cases h : hexLength before cs = 0
  · omega
  · obtain ⟨-, number, rest, hcs, -, -, hlength⟩ := exists_hexNumber h
    rw [← hlength, hcs, List.length_append]
    omega

/-! ## The first pass -/

theorem pass_redactHex (cs : List Char) : Pass hexLength hexMarker.toList [] none cs 0 (redactHex cs) :=
  pass_replaceAll hexLength_le hexMarker cs

/-- The first pass leaves no long number behind. -/
theorem not_holdsHex_redactHex (cs : List Char) : ¬ HoldsHex (redactHex cs) := by
  rintro ⟨front', number, rest', hout, hnumber, hbefore, hafter⟩
  have hclear := hnumber.unbracketed.clear bracketed_hexMarker
  have hpass := pass_redactHex cs
  rw [hout] at hpass
  obtain ⟨front, rest, rfl, hfront, hrest⟩ :=
    hpass.cut hnumber.ne_nil hclear.noEnd (hnumber.not_infix_marks List.infix_rfl).2
  obtain ⟨more, rfl, hmore, hnone⟩ := hrest.eq_append hclear.noBegin
  rw [List.append_nil] at hnone hfront
  -- A number in front of this one would be no word of its own, and so would one behind it.
  have hbefore' : (lastFrom none front).any isWord = false := by
    rcases hfront.last_eq bracketed_hexMarker.ne_nil with hlast | ⟨begun, found, c, -, hfound⟩
    · rw [← hlast]
      exact hbefore
    · exfalso
      have hne : hexLength (lastFrom none begun) (found ++ [c] ++ (number ++ more)) ≠ 0 := by
        rw [hfound]
        omega
      obtain ⟨-, other, later, heq, -, hlater, hlength⟩ := exists_hexNumber hne
      rw [hfound] at hlength
      obtain ⟨-, rfl⟩ := List.append_inj heq (by simp [hlength])
      rw [hnumber.endsWord_append] at hlater
      exact absurd hlater (by simp)
  have hafter' : endsWord more = true := by
    rw [endsWord_iff] at hafter ⊢
    rcases hmore.head?_eq with hhead | ⟨-, hfound⟩
    · rw [← hhead]
      exact hafter
    · obtain ⟨hlast, -⟩ := exists_hexNumber hfound
      rw [hnumber.isWord_lastFrom] at hlast
      exact absurd hlast (by simp)
  have hlength := hexLength_eq hbefore' hnumber hafter'
  rw [hnone hnumber.ne_nil] at hlength
  exact hnumber.ne_nil (List.length_eq_zero_iff.mp hlength.symm)

/-- The first pass keeps a text that holds no long number. -/
theorem redactHex_eq_self {cs : List Char} (h : ¬ HoldsHex cs) : redactHex cs = cs := by
  refine ((pass_redactHex cs).eq_self fun front c rest hcs => ?_).2
  refine Classical.not_not.mp fun hne => h ?_
  obtain ⟨hbefore, number, more, heq, hnumber, hmore, -⟩ := exists_hexNumber hne
  rw [List.append_nil] at heq
  exact ⟨front, number, more, by rw [hcs, heq], hnumber, hbefore, hmore⟩

end Failsafe.Redaction
