import Failsafe.Proofs.Redaction.Hex
import Failsafe.Proofs.Redaction.Assignment

/-!
# Long numbers near a word

No long number reaches into a sensitive word (`IsWord.number_before`): a word goes on with letters, and one of them is
no hexadecimal digit. A number does not begin in the opening of an assignment either, since words are short. So the
first pass leaves the opening of an assignment as it is, and what it does in front of a word depends on nothing that
comes behind (`IsWord.exists_pass_before`, `IsOpening.redactHex_eq`).
-/

namespace Failsafe.Redaction

open Unicode (isWord isBlank)

/-! ## A letter that is no digit -/

/-- Among the letters that come first, there is one that is no hexadecimal digit. -/
def stopsHex : List Piece → Bool
  | .letter l :: rest => !isHexMark l || stopsHex rest
  | _ => false

theorem stopsHex_of_mem : ∀ pieces ∈ spellings, stopsHex pieces = true := by decide

theorem isHexMark_toLower {c : Char} (h : isHexMark c = true) : isHexMark c.toLower = true := by
  have hascii : c.toNat < 128 := by
    rw [isHexMark_iff] at h
    omega
  -- There are not many of them.
  have hall : ∀ n : Fin 128, isHexMark (Char.ofNat n) = true → isHexMark (Char.ofNat n).toLower = true := by
    decide +kernel
  have hc := hall ⟨c.toNat, hascii⟩
  rw [Char.ofNat_toNat] at hc
  exact hc h

theorem isHexMark_of_sameLetter {l c : Char} (h : sameLetter l c = true) (hc : isHexMark c = true) :
    isHexMark l = true := by
  simp only [sameLetter, Bool.or_eq_true, Bool.and_eq_true, decide_eq_true_eq] at h
  rcases h with (rfl | ⟨-, rfl⟩) | ⟨-, rfl⟩
  · exact isHexMark_toLower hc
  · exact absurd hc (by decide)
  · exact absurd hc (by decide)

variable {word front rest number more : List Char} {pieces : List Piece}

theorem Spells.eq_append (h : Spells pieces word) (hspaced : Spaced pieces = true) (hstops : stopsHex pieces = true) :
    ∃ front c rest, word = front ++ c :: rest ∧ (∀ d ∈ front, isWordLetter d = true) ∧ isWordLetter c = true ∧
      isHexMark c = false := by
  induction h with
  | nil => exact absurd hstops (by simp [stopsHex])
  | @letter l c pieces cs hletter hrest ih =>
    have hc := isWordLetter_of_sameLetter (isLower_of_spaced hspaced) hletter
    by_cases hhex : isHexMark c = true
    · have hstops' : stopsHex pieces = true := by
        simpa [stopsHex, isHexMark_of_sameLetter hletter hhex] using hstops
      obtain ⟨front, d, rest, rfl, hfront, hd, hnot⟩ := ih (spaced_tail hspaced) hstops'
      refine ⟨c :: front, d, rest, rfl, fun e he => ?_, hd, hnot⟩
      rcases List.mem_cons.mp he with rfl | he
      · exact hc
      · exact hfront e he
    · exact ⟨[], c, cs, rfl, fun d hd => absurd hd List.not_mem_nil, hc, by simpa using hhex⟩
  | gap => exact absurd hstops (by simp [stopsHex])
  | noGap => exact absurd hstops (by simp [stopsHex])

/-- A word begins with letters up to one that is no hexadecimal digit. -/
theorem IsWord.eq_append (h : IsWord word) :
    ∃ front c rest, word = front ++ c :: rest ∧ (∀ d ∈ front, isWordLetter d = true) ∧ isWordLetter c = true ∧
      isHexMark c = false := by
  obtain ⟨pieces, hmem, hspells⟩ := h
  exact hspells.eq_append (spaced_of_mem pieces hmem).1 (stopsHex_of_mem pieces hmem)

/-! ## Numbers in front of a word -/

theorem endsWord_of_isWordLetter {c : Char} (h : isWordLetter c = true) : endsWord (c :: rest) = false := by
  rw [endsWord, isWord_of_isWordLetter h]
  rfl

/-- A number that stands as a word of its own ends before a sensitive word. -/
theorem IsWord.number_before (h : IsWord word) (hnumber : IsHexNumber number) (hrest : endsWord rest = true)
    (heq : front ++ (word ++ more) = number ++ rest) :
    ∃ later, front = number ++ later ∧ rest = later ++ (word ++ more) := by
  rcases List.append_eq_append_iff.mp heq with ⟨reached, hreached, hword⟩ | ⟨later, hfront, hlater⟩
  · obtain ⟨letters, c, letters', rfl, hletters, hc, hhex⟩ := h.eq_append
    -- What the number reaches of the word ends before the letter that is no digit, and a letter follows.
    rw [List.append_assoc, List.cons_append] at hword
    rcases List.append_eq_append_iff.mp hword with ⟨middle, hmiddle, hmore⟩ | ⟨middle, hmiddle, hmore⟩
    · cases middle with
      | nil =>
        rw [List.nil_append] at hmore
        rw [← hmore, endsWord_of_isWordLetter hc] at hrest
        exact absurd hrest (by simp)
      | cons d middle =>
        obtain ⟨rfl, -⟩ := List.cons.inj hmore
        have hmem : c ∈ number := by
          rw [hreached, hmiddle]
          simp
        rw [hnumber.isHexMark c hmem] at hhex
        exact absurd hhex (by simp)
    · cases middle with
      | nil =>
        rw [List.nil_append] at hmore
        rw [hmore, endsWord_of_isWordLetter hc] at hrest
        exact absurd hrest (by simp)
      | cons d middle =>
        have hd : isWordLetter d = true := hletters d (by rw [hmiddle]; simp)
        rw [hmore, List.cons_append, endsWord_of_isWordLetter hd] at hrest
        exact absurd hrest (by simp)
  · exact ⟨later, hfront, hlater⟩

variable {before : Option Char}

theorem IsWord.hexLength_congr_of_ne_zero (h : IsWord word) (more' : List Char)
    (hne : hexLength before (front ++ (word ++ more)) ≠ 0) :
    hexLength before (front ++ (word ++ more')) = hexLength before (front ++ (word ++ more)) ∧
      hexLength before (front ++ (word ++ more)) ≤ front.length := by
  obtain ⟨hbefore, number, rest, heq, hnumber, hrest, hlength⟩ := exists_hexNumber hne
  obtain ⟨later, rfl, rfl⟩ := h.number_before hnumber hrest heq
  have hrest' : endsWord (later ++ (word ++ more')) = true := by
    obtain ⟨c, letters, rfl, -⟩ := h.eq_cons
    rw [endsWord_iff] at hrest ⊢
    intro d hd
    refine hrest d ?_
    rw [← hd]
    -- The first character is one of what is between, or the first letter of the word.
    cases later <;> rfl
  rw [← hlength, List.append_assoc, hexLength_eq hbefore hnumber hrest', List.length_append]
  omega

/-- What number begins in front of a word does not depend on what comes behind the word. -/
theorem IsWord.hexLength_congr (h : IsWord word) (before : Option Char) (front more more' : List Char) :
    hexLength before (front ++ (word ++ more')) = hexLength before (front ++ (word ++ more)) := by
  by_cases hzero : hexLength before (front ++ (word ++ more)) = 0
  · refine Classical.not_not.mp fun hne => ?_
    have hne' : hexLength before (front ++ (word ++ more')) ≠ 0 := by
      rwa [hzero] at hne
    have hsame := (h.hexLength_congr_of_ne_zero more hne').1
    exact hne hsame.symm
  · exact (h.hexLength_congr_of_ne_zero more' hzero).1

theorem IsWord.hexLength_le_length (h : IsWord word) (before : Option Char) (front more : List Char) :
    hexLength before (front ++ (word ++ more)) ≤ front.length := by
  by_cases hzero : hexLength before (front ++ (word ++ more)) = 0
  · omega
  · exact (h.hexLength_congr_of_ne_zero more hzero).2

/-- What the first pass does in front of a word. -/
theorem IsWord.exists_pass_before (h : IsWord word) (text : List Char) :
    ∃ out, ∀ more, Pass hexLength hexMarker.toList (word ++ more) none text 0 out := by
  obtain ⟨excess, out, hpass⟩ := exists_pass hexLength hexMarker.toList (word ++ []) none text
  rcases hpass.reached_or with rfl | ⟨front, found, out', -, -, hfound, hexcess, -⟩
  · exact ⟨out, fun more => hpass.congr_tail fun before c rest _ _ => h.hexLength_congr before (c :: rest) [] more⟩
  · have hle := h.hexLength_le_length (lastFrom none front) found []
    omega

/-! ## Numbers in an opening -/

/-- A number cannot begin within the last few characters before one that cannot be in a number. -/
theorem hexLength_eq_zero_of_short {c : Char} (hshort : front.length < longHex) (hc : isHexMark c = false) :
    hexLength before (front ++ c :: rest) = 0 := by
  refine Classical.not_not.mp fun hne => ?_
  obtain ⟨-, number, later, heq, hnumber, -, -⟩ := exists_hexNumber hne
  have hlong := hnumber.length_ge
  rcases List.append_eq_append_iff.mp heq with ⟨reached, rfl, hreached⟩ | ⟨reached, rfl, -⟩
  · cases reached with
    | nil =>
      rw [List.append_nil] at hlong
      omega
    | cons d reached =>
      obtain ⟨rfl, -⟩ := List.cons.inj hreached
      have hhex := hnumber.isHexMark c (by simp)
      rw [hc] at hhex
      exact absurd hhex (by simp)
  · rw [List.length_append] at hshort
    omega

theorem isHexMark_of_isBlank {c : Char} (h : isBlank c = true) : isHexMark c = false := by
  rw [Bool.eq_false_iff]
  intro hhex
  rw [isBlank_of_isBare (isBare_of_isHexMark hhex)] at h
  exact absurd h (by simp)

theorem isHexMark_of_isSeparator {c : Char} (h : isSeparator c = true) : isHexMark c = false := by
  simp only [isSeparator, Bool.or_eq_true, decide_eq_true_eq] at h
  rcases h with rfl | rfl <;> decide

/-- No number begins in an opening. -/
theorem IsOpening.hexLength_eq_zero {opening : List Char} {c : Char} (h : IsOpening opening)
    (heq : opening = front ++ c :: rest) : hexLength before (c :: rest ++ more) = 0 := by
  obtain ⟨word, gap, separator, gap', rfl, hword, hgap, hseparator, hgap'⟩ := h
  have hnone : ∀ d ∈ gap ++ separator :: gap', isHexMark d = false := by
    intro d hd
    rcases List.mem_append.mp hd with hd | hd
    · exact isHexMark_of_isBlank (hgap d hd)
    rcases List.mem_cons.mp hd with rfl | hd
    · exact isHexMark_of_isSeparator hseparator
    · exact isHexMark_of_isBlank (hgap' d hd)
  rcases List.append_eq_append_iff.mp heq with ⟨later, -, hlater⟩ | ⟨later, hfront, hlater⟩
  · -- The place is behind the word.
    have hc := hnone c (by rw [hlater]; simp)
    rw [← List.nil_append (c :: rest ++ more), List.cons_append]
    exact hexLength_eq_zero_of_short (by decide) hc
  · -- The place is in the word, which ends soon.
    have hshort : later.length < longHex := by
      have hle := hword.length_le
      rw [hfront, List.length_append] at hle
      simp only [longHex]
      omega
    obtain ⟨d, others, hothers⟩ := List.exists_cons_of_ne_nil (show gap ++ separator :: gap' ≠ [] by simp)
    rw [hlater, hothers, List.append_assoc, List.cons_append]
    exact hexLength_eq_zero_of_short hshort (hnone d (by rw [hothers]; exact List.mem_cons_self))

/-! ## The first pass -/

variable {text out opening : List Char}

/-- The first pass keeps a word at the end of a text. -/
theorem IsWord.redactHex_eq (h : IsWord word)
    (hpass : Pass hexLength hexMarker.toList (word ++ []) none text 0 out) :
    redactHex (text ++ word) = out ++ word := by
  have hrest := pass_replaceFrom hexLength_le hexMarker.toList (lastFrom none text) word
  obtain ⟨-, hkept⟩ := hrest.eq_self fun front c rest hword => by
    refine Classical.not_not.mp fun hne => ?_
    obtain ⟨-, number, later, heq, hnumber, -, -⟩ := exists_hexNumber hne
    have hle := h.length_le
    have hlong := hnumber.length_ge
    have hlength := congrArg List.length heq
    simp only [hword, List.length_append, List.length_cons, List.length_nil, longHex] at hle hlong hlength
    omega
  have hout := hpass.replaceFrom_eq
  rw [List.append_nil, hkept] at hout
  exact hout

/-- The first pass keeps the opening of an assignment. -/
theorem IsOpening.redactHex_eq {value : List Char} (h : IsOpening opening)
    (hpass : Pass hexLength hexMarker.toList (opening ++ value) none text 0 out) :
    ∃ before, redactHex (text ++ (opening ++ value)) =
      out ++ (opening ++ replaceFrom hexLength hexMarker.toList before 0 value) := by
  obtain ⟨excess, kept, hopening⟩ := exists_pass hexLength hexMarker.toList value (lastFrom none text) opening
  obtain ⟨rfl, rfl⟩ := hopening.eq_self fun front c rest heq => h.hexLength_eq_zero heq
  refine ⟨lastFrom (lastFrom none text) kept, ?_⟩
  rw [← hopening.replaceFrom_eq, ← hpass.replaceFrom_eq]
  rfl

end Failsafe.Redaction
