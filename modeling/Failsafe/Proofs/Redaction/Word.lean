import Failsafe.Proofs.Redaction.Pass
import Failsafe.Proofs.Redaction.Spelling

/-!
# No word survives

A text is redacted in three passes. After the last one no sensitive word is left (`holdsWord_sanitizeChars`): a word
in what the pass writes would have no bracket in it, so the pass would have kept it at a place where it found no word.
-/

namespace Failsafe.Redaction

/-- The first pass. -/
def redactHex (cs : List Char) : List Char := replaceAll hexLength hexMarker cs

/-- The second pass. -/
def redactAssignments (cs : List Char) : List Char := replaceAll (fun _ => assignmentLength) marker cs

/-- The third pass. -/
def redactWords (cs : List Char) : List Char := replaceAll (fun _ => wordLength) marker cs

theorem sanitizeChars_eq (cs : List Char) :
    sanitizeChars cs = redactWords (redactAssignments (redactHex cs)) := rfl

@[simp]
theorem toList_sanitize (text : String) : (sanitize text).toList = sanitizeChars text.toList := by
  simp [sanitize]

theorem bracketed_marker : Bracketed marker.toList := ⟨"REDACTED".toList, by decide⟩

theorem bracketed_hexMarker : Bracketed hexMarker.toList := ⟨"REDACTED_HEX".toList, by decide⟩

theorem isSpelling_bracket : isSpelling '[' = false ∧ isSpelling ']' = false := by decide

theorem IsWord.unbracketed {word : List Char} (h : IsWord word) : Unbracketed word := by
  constructor
  · intro hmem
    have hspelling := h.isSpelling _ hmem
    rw [isSpelling_bracket.1] at hspelling
    exact absurd hspelling (by simp)
  · intro hmem
    have hspelling := h.isSpelling _ hmem
    rw [isSpelling_bracket.2] at hspelling
    exact absurd hspelling (by simp)

theorem pass_redactWords (cs : List Char) :
    Pass (fun _ => wordLength) marker.toList [] none cs 0 (redactWords cs) :=
  pass_replaceAll (fun _ => wordLength_le) marker cs

theorem holdsWord_redactWords (cs : List Char) : holdsWord (redactWords cs) = false := by
  rw [holdsWord_eq_false_iff]
  intro word hword hin
  have hclear := hword.unbracketed.clear bracketed_marker
  have hnot : ¬ word <:+: marker.toList := by
    have hmarker : holdsWord marker.toList = false := by decide
    exact holdsWord_eq_false_iff.mp hmarker word hword
  have hpass := pass_redactWords cs
  obtain ⟨front', rest', hout⟩ := hin
  rw [← hout, List.append_assoc] at hpass
  obtain ⟨front, rest, -, -, hrest⟩ := hpass.cut hword.ne_nil hclear.noEnd hnot
  -- The pass has kept the word at a place where it has found no word.
  obtain ⟨more, -, -, hnone⟩ := hrest.eq_append hclear.noBegin
  exact hword.wordLength_ne_zero _ (hnone hword.ne_nil)

/-- The third pass keeps a text that has no word in it. -/
theorem redactWords_eq_self (h : holdsWord cs = false) : redactWords cs = cs := by
  refine ((pass_redactWords cs).eq_self fun front c more hcs => ?_).2
  refine Classical.not_not.mp fun hne => ?_
  obtain ⟨word, later, heq, hword, -⟩ := exists_isWord hne
  refine holdsWord_eq_false_iff.mp h word hword ⟨front, later, ?_⟩
  rw [List.append_nil] at heq
  rw [hcs, heq]
  simp

/-- No sensitive word is left in a text that has been redacted. -/
theorem holdsWord_sanitizeChars (cs : List Char) : holdsWord (sanitizeChars cs) = false :=
  holdsWord_redactWords _

theorem isSensitive_sanitize (text : String) : isSensitive (sanitize text) = false := by
  unfold isSensitive
  rw [toList_sanitize]
  exact holdsWord_sanitizeChars text.toList

end Failsafe.Redaction
