import Failsafe.Proofs.Redaction.Settling

/-!
# The sensitive words, one by one

The pieces of a word stand for finitely many texts, once capital letters, the two odd letters and the blanks are
folded (`folded`). `sensitiveWords` lists these texts for all the words, and `isWord_iff_mem_sensitiveWords` says that a
text is a word exactly when it folds to one of the list. So what is said here of redacted texts needs neither the
pieces nor the functions that look for them.

No part of a redacted text folds to a word of the list (`sanitize_wordless`), wherever the part begins and ends: the
redacted text has no word of its own, and none that a marker and the text beside it make up.
-/

namespace Failsafe.Redaction

/-- A character without its case: besides the capital letter, the long s folds to an s and the Kelvin sign to a k. All
blanks fold to one. -/
def folded (c : Char) : Char :=
  if Unicode.isBlank c then ' '
  else if c = 'ſ' then 's'
  else if c = '\u212a' then 'k'
  else c.toLower

/-- What can stand in a gap, folded. -/
def fillers (blank : Bool) : List Char := if blank then ['_', '-', ' '] else ['_', '-']

/-- The texts that pieces stand for, folded. -/
def forms : List Piece → List (List Char)
  | [] => [[]]
  | .letter l :: rest => (forms rest).map (l :: ·)
  | .gap blank required :: rest =>
    (fillers blank).flatMap (fun c => (forms rest).map (c :: ·)) ++ if required then [] else forms rest

/-- The sensitive words, folded. -/
def sensitiveWords : List String :=
  ["private_key", "private-key", "private key", "privatekey", "secret_key", "secret-key", "secretkey", "secret",
   "password", "passwd", "api_key", "api-key", "apikey", "access_token", "access-token", "accesstoken", "token",
   "mnemonic", "seed_phrase", "seed-phrase", "seed phrase"]

/-! ## Characters -/

/-- Lower case changes capital letters only, and to small ones. -/
theorem eq_of_toLower_eq {c d : Char} (hd : d.isLower = false) (h : c.toLower = d) : c = d := by
  unfold Char.toLower at h
  split at h
  · next hupper =>
    exfalso
    subst h
    have hsmall (c : Char) : c.isLower = (decide (97 ≤ c.val) && decide (c.val ≤ 122)) := rfl
    simp only [hsmall, Bool.and_eq_false_iff, decide_eq_false_iff_not, UInt32.le_iff_toNat_le, ge_iff_le,
      UInt32.toNat_add] at hd hupper
    simp at hd hupper
    omega
  · exact h

theorem sameLetter_iff {l c : Char} (hl : l.isLower = true) : sameLetter l c = true ↔ folded c = l := by
  unfold folded
  constructor
  · intro h
    rw [if_neg (by simp [isBlank_of_isWordLetter (isWordLetter_of_sameLetter hl h)])]
    simp only [sameLetter, Bool.or_eq_true, Bool.and_eq_true, decide_eq_true_eq] at h
    rcases h with (h | ⟨rfl, rfl⟩) | ⟨rfl, rfl⟩
    · -- Lower case leaves the two odd letters as they are, so that `c` is neither.
      have hodd : ∀ odd : Char, odd.toLower = odd → odd.isLower = false → c ≠ odd := by
        intro odd hsame hnone heq
        rw [heq, hsame] at h
        rw [h, hl] at hnone
        exact absurd hnone (by simp)
      rw [if_neg (hodd 'ſ' (by decide) (by decide)), if_neg (hodd '\u212a' (by decide) (by decide))]
      exact h
    · rfl
    · rfl
  · intro h
    simp only [sameLetter, Bool.or_eq_true, Bool.and_eq_true, decide_eq_true_eq]
    split at h
    · subst h
      exact absurd hl (by decide)
    · split at h
      · next hc => exact .inl (.inr ⟨h.symm, hc⟩)
      · split at h
        · next hc => exact .inr ⟨h.symm, hc⟩
        · exact .inl (.inl h)

/-- Only letters and blanks are folded to something else. -/
theorem eq_of_folded_eq {c d : Char} (hblank : Unicode.isBlank c = false) (hd : d.isLower = false)
    (h : folded c = d) : c = d := by
  unfold folded at h
  rw [if_neg (by simp [hblank])] at h
  split at h
  · subst h
    exact absurd hd (by decide)
  · split at h
    · subst h
      exact absurd hd (by decide)
    · exact eq_of_toLower_eq hd h

theorem fillsGap_iff {blank : Bool} {c : Char} : fillsGap blank c = true ↔ folded c ∈ fillers blank := by
  by_cases hblank : Unicode.isBlank c = true
  · have hfolded : folded c = ' ' := if_pos hblank
    have hline : c ≠ '_' ∧ c ≠ '-' := by
      constructor
      all_goals
        rintro rfl
        exact absurd hblank (by decide)
    rw [hfolded]
    cases blank <;> simp [fillsGap, fillers, hblank, hline]
  · rw [Bool.not_eq_true] at hblank
    have hiff : ∀ d, d.isLower = false → folded d = d → (folded c = d ↔ c = d) := by
      intro d hd hself
      constructor
      · exact eq_of_folded_eq hblank hd
      · rintro rfl
        exact hself
    have hspace : folded c ≠ ' ' := by
      intro h
      rw [eq_of_folded_eq hblank (by decide) h] at hblank
      exact absurd hblank (by decide)
    have hunderscore := hiff '_' (by decide) (by decide)
    have hhyphen := hiff '-' (by decide) (by decide)
    cases blank <;> simp [fillsGap, fillers, hblank, hspace, hunderscore, hhyphen]

/-! ## Words -/

variable {pieces : List Piece}

theorem spells_cons_letter {l c : Char} {cs : List Char} :
    Spells (.letter l :: pieces) (c :: cs) ↔ sameLetter l c = true ∧ Spells pieces cs := by
  constructor
  · intro h
    cases h with
    | letter hletter hrest => exact ⟨hletter, hrest⟩
  · exact fun h => .letter h.1 h.2

theorem spells_gap_iff {blank required : Bool} {word : List Char} :
    Spells (.gap blank required :: pieces) word ↔
      (∃ c cs, word = c :: cs ∧ fillsGap blank c = true ∧ Spells pieces cs) ∨
        required = false ∧ Spells pieces word := by
  constructor
  · intro h
    cases h with
    | gap hgap hrest => exact .inl ⟨_, _, rfl, hgap, hrest⟩
    | noGap hrest => exact .inr ⟨rfl, hrest⟩
  · rintro (⟨c, cs, rfl, hgap, hrest⟩ | ⟨rfl, hrest⟩)
    · exact .gap hgap hrest
    · exact .noGap hrest

/-- Pieces stand for the texts that fold to one of their forms. -/
theorem spells_iff_mem_forms (hspaced : Spaced pieces = true) {word : List Char} :
    Spells pieces word ↔ word.map folded ∈ forms pieces := by
  induction pieces generalizing word with
  | nil =>
    constructor
    · intro h
      cases h with
      | nil => exact List.mem_singleton_self _
    · intro h
      have hnil : word = [] := by simpa [forms] using h
      rw [hnil]
      exact .nil
  | cons piece pieces ih =>
    have ih' {word : List Char} := @ih (spaced_tail hspaced) word
    cases piece with
    | letter l =>
      cases word with
      | nil =>
        constructor
        · intro h
          cases h
        · intro h
          simp [forms] at h
      | cons c cs =>
        rw [spells_cons_letter, sameLetter_iff (isLower_of_spaced hspaced), ih', forms, List.mem_map]
        constructor
        · rintro ⟨rfl, hform⟩
          exact ⟨_, hform, rfl⟩
        · rintro ⟨form, hform, heq⟩
          obtain ⟨rfl, rfl⟩ := List.cons.inj heq
          exact ⟨rfl, hform⟩
    | gap blank required =>
      rw [spells_gap_iff, forms, List.mem_append, List.mem_flatMap]
      refine or_congr ?_ ?_
      · constructor
        · rintro ⟨c, cs, rfl, hgap, hrest⟩
          exact ⟨folded c, fillsGap_iff.mp hgap, List.mem_map_of_mem (ih'.mp hrest)⟩
        · rintro ⟨d, hd, hmem⟩
          obtain ⟨form, hform, heq⟩ := List.mem_map.mp hmem
          cases word with
          | nil => exact absurd heq (List.cons_ne_nil _ _)
          | cons c cs =>
            obtain ⟨rfl, rfl⟩ := List.cons.inj heq
            exact ⟨c, cs, rfl, fillsGap_iff.mpr hd, ih'.mpr hform⟩
      · cases required <;> simp [ih']

theorem forms_spellings : spellings.flatMap forms = sensitiveWords.map String.toList := by decide

/-- A text is a word if it is one of the list but for its case and for the kind of its blanks. -/
theorem isWord_iff_mem_sensitiveWords {word : List Char} :
    IsWord word ↔ String.ofList (word.map folded) ∈ sensitiveWords := by
  have hlist : String.ofList (word.map folded) ∈ sensitiveWords ↔ word.map folded ∈ spellings.flatMap forms := by
    rw [forms_spellings, List.mem_map]
    constructor
    · exact fun h => ⟨_, h, String.toList_ofList⟩
    · rintro ⟨s, hs, heq⟩
      rw [← heq, String.ofList_toList]
      exact hs
  rw [hlist, List.mem_flatMap]
  constructor
  · rintro ⟨pieces, hmem, hspells⟩
    exact ⟨pieces, hmem, (spells_iff_mem_forms (spaced_of_mem pieces hmem).1).mp hspells⟩
  · rintro ⟨pieces, hmem, hform⟩
    exact ⟨pieces, hmem, (spells_iff_mem_forms (spaced_of_mem pieces hmem).1).mpr hform⟩

/-! ## Texts -/

/-- **No sensitive word is left.** Whatever the text, no part of the redacted text folds to one of the sensitive words.
And redacting does no more than it has to: the text stays as it is if, and only if, no part of it folds to a sensitive
word and no long hexadecimal number stands in it. -/
theorem sanitize_wordless (text : String) :
    (¬ ∃ part, part <:+: (sanitize text).toList ∧ String.ofList (part.map folded) ∈ sensitiveWords) ∧
      (sanitize text = text ↔
        (¬ ∃ part, part <:+: text.toList ∧ String.ofList (part.map folded) ∈ sensitiveWords) ∧
          ¬ HoldsHex text.toList) := by
  have hwords : ∀ cs : List Char, (¬ ∃ part, part <:+: cs ∧ String.ofList (part.map folded) ∈ sensitiveWords) ↔
      holdsWord cs = false := by
    intro cs
    rw [holdsWord_eq_false_iff]
    constructor
    · exact fun h word hword hin => h ⟨word, hin, isWord_iff_mem_sensitiveWords.mp hword⟩
    · rintro h ⟨part, hin, hmem⟩
      exact h part (isWord_iff_mem_sensitiveWords.mpr hmem) hin
  rw [hwords, hwords, toList_sanitize]
  refine ⟨holdsWord_sanitizeChars text.toList, ?_⟩
  rw [← String.toList_inj, toList_sanitize, sanitizeChars_eq_self_iff]
  exact and_comm

end Failsafe.Redaction
