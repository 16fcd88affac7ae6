import Failsafe.Redaction.Text

/-!
# What spells a sensitive word

`Spells` says which texts a list of pieces stands for, with one rule for each way in which a piece can be met;
`IsWord` says that a text spells one of the sensitive words. The functions that look for words find exactly these:
`Spells.length_eq` and `exists_spells` for one list of pieces, `wordLength_ne_zero_iff` for all of them,
`holdsWord_iff` for a whole text.

What the other modules need to know about a word is little: it begins and ends with a letter
(`IsWord.eq_cons`, `IsWord.eq_concat`), it has no other characters than letters and fillers of gaps
(`IsWord.isSpelling`), and it is short (`IsWord.length_le`).
-/

namespace Failsafe.Redaction

/-- A text is a spelling of some pieces. -/
inductive Spells : List Piece → List Char → Prop where
  | nil : Spells [] []
  | letter {l c pieces cs} (hletter : sameLetter l c = true) (hrest : Spells pieces cs) :
    Spells (.letter l :: pieces) (c :: cs)
  | gap {blank required c pieces cs} (hgap : fillsGap blank c = true) (hrest : Spells pieces cs) :
    Spells (.gap blank required :: pieces) (c :: cs)
  | noGap {blank pieces cs} (hrest : Spells pieces cs) : Spells (.gap blank false :: pieces) cs

/-- A text spells a sensitive word. -/
def IsWord (word : List Char) : Prop := ∃ pieces ∈ spellings, Spells pieces word

/-! ## Characters -/

/-- A character that a letter of a word can be written as. -/
def isWordLetter (c : Char) : Bool := c.isAlpha || c = 'ſ' || c = '\u212a'

/-- A character that can be a part of a word. -/
def isSpelling (c : Char) : Bool := isWordLetter c || fillsGap true c

theorem isAlpha_iff (c : Char) :
    c.isAlpha = true ↔ (65 ≤ c.toNat ∧ c.toNat ≤ 90) ∨ (97 ≤ c.toNat ∧ c.toNat ≤ 122) := by
  unfold Char.isAlpha Char.isUpper Char.isLower
  simp only [Bool.or_eq_true, Bool.and_eq_true, decide_eq_true_eq, ge_iff_le, UInt32.le_iff_toNat_le]
  rfl

theorem isWordLetter_of_sameLetter {l c : Char} (hl : l.isLower = true) (h : sameLetter l c = true) :
    isWordLetter c = true := by
  unfold sameLetter at h
  unfold isWordLetter
  simp only [Bool.or_eq_true, Bool.and_eq_true, decide_eq_true_eq] at h ⊢
  rcases h with (h | ⟨-, hs⟩) | ⟨-, hk⟩
  · left
    left
    by_cases hupper : c.isUpper = true
    · exact Bool.or_eq_true_iff.mpr (.inl hupper)
    · have hsame : c.toLower = c := by
        unfold Char.toLower
        rw [dif_neg]
        unfold Char.isUpper at hupper
        simpa using hupper
      rw [hsame] at h
      subst h
      exact Bool.or_eq_true_iff.mpr (.inr hl)
  · exact .inl (.inr hs)
  · exact .inr hk

/-- A letter is no blank. -/
theorem isBlank_of_isWordLetter {c : Char} (h : isWordLetter c = true) : Unicode.isBlank c = false := by
  unfold isWordLetter at h
  simp only [Bool.or_eq_true, decide_eq_true_eq, isAlpha_iff] at h
  rcases h with (h | rfl) | rfl
  · simp only [Unicode.isBlank, Unicode.Ranges.contains, Unicode.blankRanges, List.any_cons, List.any_nil,
      Bool.or_eq_false_iff, Bool.and_eq_false_iff, decide_eq_false_iff_not, and_true]
    omega
  · decide
  · decide

theorem isWord_of_isWordLetter {c : Char} (h : isWordLetter c = true) : Unicode.isWord c = true := by
  unfold isWordLetter at h
  simp only [Bool.or_eq_true, decide_eq_true_eq] at h
  rcases h with (h | rfl) | rfl
  · have hascii : c.toNat < 0x80 := by
      rw [isAlpha_iff] at h
      omega
    unfold Unicode.isWord Unicode.isWordAscii
    rw [if_pos hascii]
    simp [Char.isAlphanum, h]
  · decide +kernel
  · decide +kernel

theorem isSpelling_of_sameLetter {l c : Char} (hl : l.isLower = true) (h : sameLetter l c = true) :
    isSpelling c = true := by
  simp [isSpelling, isWordLetter_of_sameLetter hl h]

theorem isSpelling_of_fillsGap {blank : Bool} {c : Char} (h : fillsGap blank c = true) :
    isSpelling c = true := by
  cases blank <;> simp_all [isSpelling, fillsGap]

/-- What fills a gap is no letter. -/
theorem isWordLetter_of_fillsGap {blank : Bool} {c : Char} (h : fillsGap blank c = true) :
    isWordLetter c = false := by
  unfold fillsGap at h
  simp only [Bool.or_eq_true, Bool.and_eq_true, decide_eq_true_eq] at h
  rcases h with (rfl | rfl) | ⟨-, hblank⟩
  · decide
  · decide
  · rw [Bool.eq_false_iff]
    intro hletter
    rw [isBlank_of_isWordLetter hletter] at hblank
    exact absurd hblank (by simp)

/-! ## Lists of pieces -/

/-- The letters are small, and a letter follows every gap. -/
def Spaced : List Piece → Bool
  | [] => true
  | .letter l :: rest => l.isLower && Spaced rest
  | .gap _ _ :: .letter l :: rest => l.isLower && Spaced rest
  | .gap _ _ :: _ => false

/-- The first piece is a letter. -/
def startsWithLetter : List Piece → Bool
  | .letter _ :: _ => true
  | _ => false

theorem spaced_of_mem : ∀ pieces ∈ spellings,
    Spaced pieces = true ∧ startsWithLetter pieces = true ∧ pieces.length ≤ 12 := by decide

variable {pieces : List Piece} {word : List Char}

theorem spaced_tail {piece : Piece} (h : Spaced (piece :: pieces) = true) : Spaced pieces = true := by
  cases piece with
  | letter l => simp_all [Spaced]
  | gap blank required =>
    cases pieces with
    | nil => rfl
    | cons next rest =>
      cases next with
      | letter l => simpa [Spaced] using h
      | gap => simp [Spaced] at h

theorem isLower_of_spaced {l : Char} (h : Spaced (.letter l :: pieces) = true) : l.isLower = true := by
  simp only [Spaced, Bool.and_eq_true] at h
  exact h.1

/-- A spelling of what follows a gap begins with a letter. -/
theorem Spells.eq_cons_of_gap {blank required : Bool} (h : Spells pieces word)
    (hspaced : Spaced (.gap blank required :: pieces) = true) :
    ∃ c cs, word = c :: cs ∧ isWordLetter c = true := by
  cases h with
  | nil => simp [Spaced] at hspaced
  | letter hletter hrest =>
    exact ⟨_, _, rfl, isWordLetter_of_sameLetter (isLower_of_spaced (spaced_tail hspaced)) hletter⟩
  | gap hgap hrest => simp [Spaced] at hspaced
  | noGap hrest => simp [Spaced] at hspaced

theorem Spells.length_le (h : Spells pieces word) : word.length ≤ pieces.length := by
  induction h with
  | nil => exact Nat.le_refl _
  | letter hletter hrest ih => exact Nat.succ_le_succ ih
  | gap hgap hrest ih => exact Nat.succ_le_succ ih
  | noGap hrest ih => exact Nat.le_succ_of_le ih

theorem Spells.isSpelling (h : Spells pieces word) (hspaced : Spaced pieces = true) :
    ∀ c ∈ word, isSpelling c = true := by
  induction h with
  | nil => exact fun c hc => absurd hc List.not_mem_nil
  | letter hletter hrest ih =>
    intro c hc
    rcases List.mem_cons.mp hc with rfl | hc
    · exact isSpelling_of_sameLetter (isLower_of_spaced hspaced) hletter
    · exact ih (spaced_tail hspaced) c hc
  | gap hgap hrest ih =>
    intro c hc
    rcases List.mem_cons.mp hc with rfl | hc
    · exact isSpelling_of_fillsGap hgap
    · exact ih (spaced_tail hspaced) c hc
  | noGap hrest ih => exact ih (spaced_tail hspaced)

/-- A spelling ends with a letter. -/
theorem Spells.eq_concat (h : Spells pieces word) (hspaced : Spaced pieces = true) (hne : word ≠ []) :
    ∃ front c, word = front ++ [c] ∧ isWordLetter c = true := by
  induction h with
  | nil => exact absurd rfl hne
  | @letter l c pieces cs hletter hrest ih =>
    cases cs with
    | nil => exact ⟨[], c, rfl, isWordLetter_of_sameLetter (isLower_of_spaced hspaced) hletter⟩
    | cons c' cs =>
      obtain ⟨front, d, hword, hd⟩ := ih (spaced_tail hspaced) (List.cons_ne_nil _ _)
      exact ⟨c :: front, d, by rw [hword]; rfl, hd⟩
  | @gap blank required c pieces cs hgap hrest ih =>
    -- A letter follows the gap, so the spelling does not end here.
    obtain ⟨c', cs', hcs, -⟩ := hrest.eq_cons_of_gap hspaced
    obtain ⟨front, d, hword, hd⟩ := ih (spaced_tail hspaced) (by rw [hcs]; exact List.cons_ne_nil _ _)
    exact ⟨c :: front, d, by rw [hword]; rfl, hd⟩
  | noGap hrest ih => exact ih (spaced_tail hspaced) hne

/-! ## The matcher of one list of pieces -/

/-- A spelling is found whatever comes after it, and in its full length. -/
theorem Spells.length_eq (h : Spells pieces word) (hspaced : Spaced pieces = true) (rest : List Char) :
    spellingLength? pieces (word ++ rest) = some word.length := by
  induction h with
  | nil => rfl
  | letter hletter hrest ih =>
    rw [List.cons_append, spellingLength?, if_pos hletter, ih (spaced_tail hspaced)]
    rfl
  | @gap blank required c pieces cs hgap hrest ih =>
    have hih := ih (spaced_tail hspaced)
    cases required with
    | true =>
      rw [List.cons_append, spellingLength?, if_pos hgap, hih]
      rfl
    | false =>
      rw [List.cons_append, spellingLength?, if_pos hgap, hih]
      rfl
  | @noGap blank pieces cs hrest ih =>
    obtain ⟨c, cs', rfl, hc⟩ := hrest.eq_cons_of_gap hspaced
    -- The letter does not fill the gap, so the gap is left out.
    have hgap : ¬ fillsGap blank c = true := by
      intro hgap
      rw [isWordLetter_of_fillsGap hgap] at hc
      exact absurd hc (by simp)
    have hih := ih (spaced_tail hspaced)
    rw [List.cons_append] at hih ⊢
    rw [spellingLength?, if_neg hgap, hih]

/-- What is found is a spelling. -/
theorem exists_spells {cs : List Char} {n : Nat} (h : spellingLength? pieces cs = some n) :
    ∃ word rest, cs = word ++ rest ∧ Spells pieces word ∧ word.length = n := by
  fun_induction spellingLength? pieces cs generalizing n with
  | case1 cs =>
    obtain rfl := Option.some.inj h
    exact ⟨[], cs, rfl, .nil, rfl⟩
  | case2 => exact absurd h (by simp)
  | case3 l rest c cs hletter ih =>
    obtain ⟨m, hm, rfl⟩ := Option.map_eq_some_iff.mp h
    obtain ⟨word, more, rfl, hspells, rfl⟩ := ih hm
    exact ⟨c :: word, more, rfl, .letter hletter hspells, rfl⟩
  | case4 => exact absurd h (by simp)
  | case5 => exact absurd h (by simp)
  | case6 blank rest c cs hgap ih =>
    obtain ⟨m, hm, rfl⟩ := Option.map_eq_some_iff.mp h
    obtain ⟨word, more, rfl, hspells, rfl⟩ := ih hm
    exact ⟨c :: word, more, rfl, .gap hgap hspells, rfl⟩
  | case7 => exact absurd h (by simp)
  | case8 blank rest ih =>
    obtain ⟨word, more, hcs, hspells, hlength⟩ := ih h
    exact ⟨word, more, hcs, .noGap hspells, hlength⟩
  | case9 blank rest c cs hgap m hm ih =>
    obtain rfl := Option.some.inj h
    obtain ⟨word, more, rfl, hspells, rfl⟩ := ih hm
    exact ⟨c :: word, more, rfl, .gap hgap hspells, rfl⟩
  | case10 blank rest c cs hgap hnone ih ih' =>
    obtain ⟨word, more, hcs, hspells, hlength⟩ := ih' h
    exact ⟨word, more, hcs, .noGap hspells, hlength⟩
  | case11 blank rest c cs hgap ih =>
    obtain ⟨word, more, hcs, hspells, hlength⟩ := ih h
    exact ⟨word, more, hcs, .noGap hspells, hlength⟩

/-! ## Words -/

namespace IsWord

variable {word : List Char}

theorem isSpelling (h : IsWord word) : ∀ c ∈ word, isSpelling c = true := by
  obtain ⟨pieces, hmem, hspells⟩ := h
  exact hspells.isSpelling (spaced_of_mem pieces hmem).1

theorem length_le (h : IsWord word) : word.length ≤ 12 := by
  obtain ⟨pieces, hmem, hspells⟩ := h
  exact Nat.le_trans hspells.length_le (spaced_of_mem pieces hmem).2.2

/-- A word begins with a letter. -/
theorem eq_cons (h : IsWord word) : ∃ c rest, word = c :: rest ∧ isWordLetter c = true := by
  obtain ⟨pieces, hmem, hspells⟩ := h
  obtain ⟨hspaced, hstarts, -⟩ := spaced_of_mem pieces hmem
  cases hspells with
  | nil => exact absurd hstarts (by decide)
  | letter hletter hrest => exact ⟨_, _, rfl, isWordLetter_of_sameLetter (isLower_of_spaced hspaced) hletter⟩
  | gap hgap hrest => exact absurd hstarts (by simp [startsWithLetter])
  | noGap hrest => exact absurd hstarts (by simp [startsWithLetter])

theorem ne_nil (h : IsWord word) : word ≠ [] := by
  obtain ⟨c, rest, rfl, -⟩ := h.eq_cons
  exact List.cons_ne_nil c rest

/-- A word ends with a letter. -/
theorem eq_concat (h : IsWord word) : ∃ front c, word = front ++ [c] ∧ isWordLetter c = true := by
  have hne := h.ne_nil
  obtain ⟨pieces, hmem, hspells⟩ := h
  exact hspells.eq_concat (spaced_of_mem pieces hmem).1 hne

end IsWord

/-! ## Looking for words -/

/-- At the start of a text a word is found in its length, if there is one. -/
theorem exists_isWord {cs : List Char} (h : wordLength cs ≠ 0) :
    ∃ word rest, cs = word ++ rest ∧ IsWord word ∧ word.length = wordLength cs := by
  unfold wordLength at h ⊢
  cases hfind : spellings.findSome? (spellingLength? · cs) with
  | none => simp [hfind] at h
  | some n =>
    obtain ⟨pieces, hmem, hlength⟩ := List.exists_of_findSome?_eq_some hfind
    obtain ⟨word, rest, hcs, hspells, hn⟩ := exists_spells hlength
    exact ⟨word, rest, hcs, ⟨pieces, hmem, hspells⟩, hn⟩

/-- A text is a word if the whole of it is found. -/
theorem isWord_iff {word : List Char} :
    IsWord word ↔ ∃ pieces ∈ spellings, spellingLength? pieces word = some word.length := by
  constructor
  · rintro ⟨pieces, hmem, hspells⟩
    have hlength := hspells.length_eq (spaced_of_mem pieces hmem).1 []
    rw [List.append_nil] at hlength
    exact ⟨pieces, hmem, hlength⟩
  · rintro ⟨pieces, hmem, hlength⟩
    obtain ⟨found, rest, hword, hspells, hfound⟩ := exists_spells hlength
    have hrest : rest = [] := by
      rw [hword, List.length_append] at hfound
      exact List.length_eq_zero_iff.mp (by omega)
    rw [hrest, List.append_nil] at hword
    rw [hword]
    exact ⟨pieces, hmem, hspells⟩

instance (word : List Char) : Decidable (IsWord word) := decidable_of_iff _ isWord_iff.symm

theorem IsWord.wordLength_ne_zero {word : List Char} (h : IsWord word) (rest : List Char) :
    wordLength (word ++ rest) ≠ 0 := by
  have hne := h.ne_nil
  obtain ⟨pieces, hmem, hspells⟩ := h
  have hlength := hspells.length_eq (spaced_of_mem pieces hmem).1 rest
  unfold wordLength
  cases hfind : spellings.findSome? (spellingLength? · (word ++ rest)) with
  | none =>
    rw [List.findSome?_eq_none_iff] at hfind
    rw [hfind pieces hmem] at hlength
    exact absurd hlength (by simp)
  | some n =>
    obtain ⟨other, hother, hn⟩ := List.exists_of_findSome?_eq_some hfind
    obtain ⟨found, more, -, hspells', rfl⟩ := exists_spells hn
    have hfound : IsWord found := ⟨other, hother, hspells'⟩
    simpa using hfound.ne_nil

theorem wordLength_ne_zero_iff {cs : List Char} :
    wordLength cs ≠ 0 ↔ ∃ word rest, cs = word ++ rest ∧ IsWord word := by
  constructor
  · intro h
    obtain ⟨word, rest, hcs, hword, -⟩ := exists_isWord h
    exact ⟨word, rest, hcs, hword⟩
  · rintro ⟨word, rest, rfl, hword⟩
    exact hword.wordLength_ne_zero rest

theorem wordLength_le (cs : List Char) : wordLength cs ≤ cs.length := by
  by_cases h : wordLength cs = 0
  · omega
  · obtain ⟨word, rest, hcs, -, hlength⟩ := exists_isWord h
    rw [← hlength, hcs, List.length_append]
    omega

/-- A text holds a sensitive word if one stands in it anywhere. -/
theorem holdsWord_iff {cs : List Char} : holdsWord cs = true ↔ ∃ word, IsWord word ∧ word <:+: cs := by
  induction cs with
  | nil =>
    constructor
    · exact fun h => absurd h (by simp [holdsWord])
    · rintro ⟨word, hword, hin⟩
      exact absurd (List.infix_nil.mp hin) hword.ne_nil
  | cons c rest ih =>
    rw [holdsWord, Bool.or_eq_true, ih, decide_eq_true_eq, wordLength_ne_zero_iff]
    constructor
    · rintro (⟨word, more, hcs, hword⟩ | ⟨word, hword, hin⟩)
      · exact ⟨word, hword, [], more, hcs.symm⟩
      · exact ⟨word, hword, List.infix_cons hin⟩
    · rintro ⟨word, hword, hin⟩
      rcases List.infix_cons_iff.mp hin with ⟨more, hcs⟩ | hin
      · exact .inl ⟨word, more, hcs.symm, hword⟩
      · exact .inr ⟨word, hword, hin⟩

theorem holdsWord_eq_false_iff {cs : List Char} :
    holdsWord cs = false ↔ ∀ word, IsWord word → ¬ word <:+: cs := by
  rw [Bool.eq_false_iff, ne_eq, holdsWord_iff]
  simp

end Failsafe.Redaction
