import Failsafe.Incident
import Failsafe.Proofs.Failure.Extension

/-!
# What a failed call says before its text

A failed call has a label in front of its text that names its kind, and the classifier reads the two as one message. A
label could matter in three ways: it holds a word that the classifier looks for, the text completes a word that the
label begins, or the label ends in the beginning of a word and the text happens to go on with the rest. None of the
labels does (`keepsApart_callLabel`): each ends in a colon and a blank, and no word has a colon in it or begins with a
blank. So the same words are found with a label and without it (`holds_callLabel`), and the failure is classified by its
text alone (`incident_call`).
-/

namespace Failsafe

open Unicode

/-- No word is in the label, and no beginning of the word stands at its end. -/
def KeepsApart (label word : List Char) : Prop :=
  ¬ word <:+: label ∧ ∀ n < word.length, n ≠ 0 → ¬ word.take n <:+ label

instance (label word : List Char) : Decidable (KeepsApart label word) := instDecidableAnd

/-- A word that keeps apart from a label is found behind the label where it is found without it. -/
theorem KeepsApart.infix_append_iff {label word : List Char} (h : KeepsApart label word) (text : List Char) :
    word <:+: label ++ text ↔ word <:+: text := by
  constructor
  · intro hword
    rcases List.infix_append_iff.mp hword with hlabel | htext | ⟨first, rest, rfl, hfirst, hrest⟩
    · exact absurd hlabel h.1
    · exact htext
    · -- The word lies across the end of the label, with `first` before it.
      by_cases hnone : first = []
      · rw [hnone, List.nil_append]
        exact hrest.isInfix
      by_cases hall : rest = []
      · rw [hall, List.append_nil] at h
        exact absurd hfirst.isInfix h.1
      have hlt : first.length < (first ++ rest).length := by
        rw [List.length_append]
        exact Nat.lt_add_of_pos_right (List.length_pos_of_ne_nil hall)
      have hbegins := h.2 first.length hlt (mt List.length_eq_zero_iff.mp hnone)
      rw [List.take_left] at hbegins
      exact absurd hfirst hbegins
  · exact fun hword => hword.trans (List.suffix_append label text).isInfix

/-- Labels are in lower case. -/
theorem flatMap_plainForm_callLabel (kind : FailureKind) :
    kind.callLabel.toList.flatMap plainForm = kind.callLabel.toList := by
  cases kind <;> decide

theorem keepsApart_callLabel (kind : FailureKind) :
    ∀ word ∈ vocabulary, KeepsApart kind.callLabel.toList word.toList := by
  cases kind <;> decide

/-- A word that the classifier looks for is found in the message of a failed call if and only if it is found in the text
behind the label. -/
theorem holds_callLabel (kind : FailureKind) (text : String) {word : String} (hword : word ∈ vocabulary) :
    holds (lowerFrom [] (kind.callLabel ++ text).toList) word = holds (lowerFrom [] text.toList) word := by
  have hfree := sigmaFree_vocabulary hword
  rw [Bool.eq_iff_iff, holds_lowerFrom_iff hfree, holds_lowerFrom_iff hfree, String.toList_append, List.flatMap_append,
    flatMap_plainForm_callLabel]
  exact (keepsApart_callLabel kind word hword).infix_append_iff _

/-- **A failed call is classified by its text.** Whatever the kind and the text, and whatever the text begins with: the
incident has the category and the severity of the text without the label, and each word that the classifier looks for,
in rules and among the critical markers, is in the message as the classifier reads it if and only if it is in the text. -/
theorem incident_call (limits : RetryLimits) (kind : FailureKind) (text operation : String) (data : Option Fields) :
    let incident := limits.incident (.call kind text) operation data
    (incident.category, incident.severity) = classify kind text ∧
      ∀ word ∈ vocabulary,
        holds (lowerFrom [] incident.message.toList) word = holds (lowerFrom [] text.toList) word := by
  have hwords : ∀ word ∈ vocabulary,
      holds (lowerFrom [] (kind.callLabel ++ text).toList) word = holds (lowerFrom [] text.toList) word :=
    fun word hword => holds_callLabel kind text hword
  refine ⟨?_, hwords⟩
  show classify kind (kind.callLabel ++ text) = classify kind text
  by_cases hkind : kind ≠ .connection ∧ kind ≠ .timeout
  · rw [classify_eq hkind, classify_eq hkind]
    exact classifyText_congr hwords kind
  · -- Connection failures and timeouts are known by their kind.
    rw [not_and_or, not_ne_iff, not_ne_iff] at hkind
    rcases hkind with rfl | rfl <;> rfl

end Failsafe
