import Failsafe.Proofs.Redaction.Hex
import Failsafe.Proofs.Redaction.Assignment

/-!
# Redacting a redacted text

Long numbers are redacted before words are. A number that touches a word is no word of its own then, but it may become
one when the word is replaced. So a redacted text may hold a long number, and redacting it once more replaces it. That
is the only way in which a redacted text is not yet settled (`sanitize_sanitize`):

* each of the later passes can lay bare only a number that touches a word (`holdsHex_of_pass`);
* no pass makes a word and a number touch that have not touched before (`TouchesHex.of_pass`);
* a text without words is changed by the first pass only, which leaves no long number.
-/

namespace Failsafe.Redaction

open Unicode (isWord)

/-- A sensitive word and a long hexadecimal number touch somewhere in a text. -/
def TouchesHex (text : List Char) : Prop :=
  ∃ word number, IsWord word ∧ IsHexNumber number ∧ (word ++ number <:+: text ∨ number ++ word <:+: text)

variable {cs out : List Char} {matchLength : List Char → Nat}

/-! ## Texts without words -/

theorem holdsWord_redactHex (h : holdsWord cs = false) : holdsWord (redactHex cs) = false := by
  rw [holdsWord_eq_false_iff] at h ⊢
  intro word hword hin
  rcases (pass_redactHex cs).infix_or hword.ne_nil (hword.unbracketed.clear bracketed_hexMarker) hin with hin | hin
  · exact h word hword hin
  · have hmarker : holdsWord hexMarker.toList = false := by decide
    exact holdsWord_eq_false_iff.mp hmarker word hword hin

/-- Only the first pass changes a text without words. -/
theorem sanitizeChars_eq_redactHex (h : holdsWord cs = false) : sanitizeChars cs = redactHex cs := by
  have hwords := holdsWord_redactHex h
  rw [sanitizeChars_eq, redactAssignments_eq_self hwords, redactWords_eq_self hwords]

theorem sanitizeChars_eq_self_iff : sanitizeChars cs = cs ↔ ¬ HoldsHex cs ∧ holdsWord cs = false := by
  constructor
  · intro hself
    have hwords : holdsWord cs = false := by
      rw [← hself]
      exact holdsWord_sanitizeChars cs
    rw [sanitizeChars_eq_redactHex hwords] at hself
    refine ⟨?_, hwords⟩
    rw [← hself]
    exact not_holdsHex_redactHex cs
  · rintro ⟨hhex, hwords⟩
    rw [sanitizeChars_eq_redactHex hwords, redactHex_eq_self hhex]

/-! ## What the later passes lay bare -/

theorem IsHexNumber.not_infix_marker {number part : List Char} (h : IsHexNumber number) (hin : number <:+: part) :
    ¬ part <:+: marker.toList := (h.not_infix_marks hin).1

/-- A pass that replaces texts with words at their beginning can lay bare a number only if it has touched a word. -/
theorem holdsHex_of_pass (hpass : Pass (fun _ => matchLength) marker.toList [] none cs 0 out)
    (hbegins : ∀ text, matchLength text ≠ 0 → ∃ word rest, text = word ++ rest ∧ IsWord word)
    (hends : ∀ found c number rest, IsHexNumber number →
      matchLength (found ++ [c] ++ (number ++ rest)) = found.length + 1 → IsWord (found ++ [c]) ∨ isWord c = false)
    (h : HoldsHex out) : HoldsHex cs ∨ TouchesHex cs := by
  obtain ⟨front', number, rest', rfl, hnumber, hbefore, hafter⟩ := h
  have hclear := hnumber.unbracketed.clear bracketed_marker
  obtain ⟨front, rest, rfl, hfront, hrest⟩ :=
    hpass.cut hnumber.ne_nil hclear.noEnd (hnumber.not_infix_marker List.infix_rfl)
  obtain ⟨more, rfl, hmore, -⟩ := hrest.eq_append hclear.noBegin
  by_cases htouches : TouchesHex (front ++ (number ++ more))
  · exact .inr htouches
  left
  refine ⟨front, number, more, rfl, hnumber, ?_, ?_⟩
  · rcases hfront.last_eq bracketed_marker.ne_nil with hlast | ⟨begun, found, c, rfl, hfound⟩
    · rw [← hlast]
      exact hbefore
    · rw [List.append_nil] at hfound
      rcases hends found c number more hnumber hfound with hword | hc
      · exfalso
        exact htouches ⟨found ++ [c], number, hword, hnumber, .inl ⟨begun, more, by simp⟩⟩
      · rw [← List.append_assoc, lastFrom_concat, Option.any_some]
        exact hc
  · rw [endsWord_iff] at hafter ⊢
    rcases hmore.head?_eq with hhead | ⟨-, hfound⟩
    · rw [← hhead]
      exact hafter
    · exfalso
      obtain ⟨word, last, heq, hword⟩ := hbegins (more ++ []) hfound
      rw [List.append_nil] at heq
      subst heq
      exact htouches ⟨word, number, hword, hnumber, .inr ⟨front, last, by simp⟩⟩

theorem holdsHex_of_redactWords (h : HoldsHex (redactWords cs)) : HoldsHex cs ∨ TouchesHex cs := by
  refine holdsHex_of_pass (pass_redactWords cs) (fun text => wordLength_ne_zero_iff.mp) ?_ h
  intro found c number rest hnumber hfound
  left
  obtain ⟨word, later, heq, hword, hlength⟩ := exists_isWord (by rw [hfound]; omega)
  rw [hfound] at hlength
  obtain ⟨rfl, -⟩ := List.append_inj heq (by simp [hlength])
  exact hword

theorem holdsHex_of_redactAssignments (h : HoldsHex (redactAssignments cs)) : HoldsHex cs ∨ TouchesHex cs := by
  refine holdsHex_of_pass (pass_redactAssignments cs) (fun text hne => ?_) ?_ h
  · obtain ⟨opening, value, rest, rfl, hopening, -, -⟩ := exists_assignment hne
    obtain ⟨word, more, rfl, hword⟩ := hopening.eq_append
    exact ⟨word, more ++ (value ++ rest), by simp, hword⟩
  · intro found c number rest hnumber hfound
    right
    obtain ⟨opening, value, later, heq, -, hvalue, hlength⟩ := exists_assignment (by rw [hfound]; omega)
    rw [hfound] at hlength
    rw [← List.append_assoc opening] at heq
    obtain ⟨hmatch, rfl⟩ := List.append_inj heq (by simp [hlength])
    rcases hvalue.ends with ⟨front, quote, rfl, hquote⟩ | hstops
    · -- The value ends with its quote.
      rw [← List.append_assoc] at hmatch
      obtain rfl := List.singleton_inj.mp (List.append_inj_right' hmatch rfl)
      simp only [isQuote, Bool.or_eq_true, decide_eq_true_eq] at hquote
      rcases hquote with rfl | rfl <;> decide
    · -- A value without quotes would go on with the number.
      exfalso
      obtain ⟨d, digits, rfl⟩ := List.exists_cons_of_ne_nil hnumber.ne_nil
      have hbare := isBare_of_isHexMark (hnumber.isHexMark d List.mem_cons_self)
      rw [hstops d rfl] at hbare
      exact absurd hbare (by simp)

/-! ## Words and numbers that touch -/

/-- No pass makes a word and a number touch. -/
theorem TouchesHex.of_pass {matchLength : Option Char → List Char → Nat} {mark : List Char} (h : TouchesHex out)
    (hpass : Pass matchLength mark [] none cs 0 out) (hmark : mark = marker.toList ∨ mark = hexMarker.toList) :
    TouchesHex cs := by
  have hbracketed : Bracketed mark := by
    rcases hmark with rfl | rfl
    · exact bracketed_marker
    · exact bracketed_hexMarker
  have hback : ∀ {number part}, IsHexNumber number → number <:+: part → Unbracketed part → part <:+: out →
      part <:+: cs := by
    intro number part hnumber hpart hunbracketed hin
    obtain ⟨hnot, hnot'⟩ := hnumber.not_infix_marks hpart
    have hne : part ≠ [] := by
      rintro rfl
      exact hnumber.ne_nil (List.infix_nil.mp hpart)
    rcases hpass.infix_or hne (hunbracketed.clear hbracketed) hin with hin | hin
    · exact hin
    · rcases hmark with rfl | rfl
      · exact absurd hin hnot
      · exact absurd hin hnot'
  obtain ⟨word, number, hword, hnumber, hin⟩ := h
  refine ⟨word, number, hword, hnumber, ?_⟩
  rcases hin with hin | hin
  · left
    exact hback hnumber (List.suffix_append word number).isInfix (hword.unbracketed.append hnumber.unbracketed) hin
  · right
    exact hback hnumber (List.prefix_append number word).isInfix (hnumber.unbracketed.append hword.unbracketed) hin

/-- A redacted text holds a long number only if the number has touched a word. -/
theorem touchesHex_of_holdsHex (h : HoldsHex (sanitizeChars cs)) : TouchesHex cs := by
  have hhex := pass_redactHex cs
  have hassignments := pass_redactAssignments (redactHex cs)
  rw [sanitizeChars_eq] at h
  rcases holdsHex_of_redactWords h with h | h
  · rcases holdsHex_of_redactAssignments h with h | h
    · exact absurd h (not_holdsHex_redactHex cs)
    · exact h.of_pass hhex (.inr rfl)
  · exact (h.of_pass hassignments (.inl rfl)).of_pass hhex (.inr rfl)

theorem not_holdsHex_sanitizeChars_sanitizeChars (cs : List Char) : ¬ HoldsHex (sanitizeChars (sanitizeChars cs)) := by
  rw [sanitizeChars_eq_redactHex (holdsWord_sanitizeChars cs)]
  exact not_holdsHex_redactHex _

/-! ## Texts -/

/-- Redacting a redacted text changes it only if a long number stands in it. Such a number has touched a sensitive word,
and it is gone when the text is redacted a second time, which settles the text. -/
theorem sanitize_sanitize (text : String) :
    (sanitize (sanitize text) = sanitize text ↔ ¬ HoldsHex (sanitize text).toList) ∧
      (HoldsHex (sanitize text).toList → TouchesHex text.toList) ∧
      ¬ HoldsHex (sanitize (sanitize text)).toList ∧
      sanitize (sanitize (sanitize text)) = sanitize (sanitize text) := by
  have hself : ∀ s : String, sanitize s = s ↔ sanitizeChars s.toList = s.toList := by
    intro s
    rw [← String.toList_inj, toList_sanitize]
  refine ⟨?_, ?_, ?_, ?_⟩
  · rw [hself, sanitizeChars_eq_self_iff, toList_sanitize]
    have hwords := holdsWord_sanitizeChars text.toList
    constructor
    · exact fun h => h.1
    · exact fun h => ⟨h, hwords⟩
  · rw [toList_sanitize]
    exact touchesHex_of_holdsHex
  · rw [toList_sanitize, toList_sanitize]
    exact not_holdsHex_sanitizeChars_sanitizeChars text.toList
  · rw [hself, sanitizeChars_eq_self_iff, toList_sanitize, toList_sanitize]
    exact ⟨not_holdsHex_sanitizeChars_sanitizeChars _, holdsWord_sanitizeChars _⟩

/-- A number behind a word: the first pass takes both for one word, and the third lays the number bare. -/
theorem holdsHex_sanitize_touching :
    HoldsHex (sanitize "passwordaaaaaaaaaaaaaaaaaaaaaaaaaaaaaaaaaaaaaaaa").toList := by
  have hout : sanitizeChars "passwordaaaaaaaaaaaaaaaaaaaaaaaaaaaaaaaaaaaaaaaa".toList =
      marker.toList ++ List.replicate 40 'a' := by decide +kernel
  rw [toList_sanitize, hout]
  have hdigits : ∀ c ∈ List.replicate 40 'a', isHex c = true := by
    intro c hc
    rw [List.eq_of_mem_replicate hc]
    rfl
  exact ⟨marker.toList, List.replicate 40 'a', [], by simp, .plain (by decide) hdigits, by decide +kernel, rfl⟩

theorem sanitize_sanitize_password :
    TouchesHex "passwordaaaaaaaaaaaaaaaaaaaaaaaaaaaaaaaaaaaaaaaa".toList ∧
      ¬ HoldsHex (sanitize (sanitize "passwordaaaaaaaaaaaaaaaaaaaaaaaaaaaaaaaaaaaaaaaa")).toList := by
  obtain ⟨-, htouches, hsettled, -⟩ := sanitize_sanitize "passwordaaaaaaaaaaaaaaaaaaaaaaaaaaaaaaaaaaaaaaaa"
  exact ⟨htouches holdsHex_sanitize_touching, hsettled⟩

/-- A redacted text may hold a long number, and redacting it once more changes it. -/
theorem holdsHex_sanitize_password :
    HoldsHex (sanitize "passwordaaaaaaaaaaaaaaaaaaaaaaaaaaaaaaaaaaaaaaaa").toList ∧
      sanitize (sanitize "passwordaaaaaaaaaaaaaaaaaaaaaaaaaaaaaaaaaaaaaaaa") ≠
        sanitize "passwordaaaaaaaaaaaaaaaaaaaaaaaaaaaaaaaaaaaaaaaa" := by
  refine ⟨holdsHex_sanitize_touching, fun hself => ?_⟩
  have hholds := holdsHex_sanitize_touching
  rw [← hself, toList_sanitize, toList_sanitize] at hholds
  exact not_holdsHex_sanitizeChars_sanitizeChars _ hholds

end Failsafe.Redaction
