import Failsafe.Proofs.Redaction.Number
import Mathlib.Data.List.Infix

/-!
# The value of an assignment does not survive

A text ends with an assignment to a sensitive word. The first pass leaves its opening alone, and whatever it makes of
the value is still a value. So the second pass, when it comes to the word, replaces the rest of the text.

It may not come to the word, since an assignment that begins earlier may reach into this one
(`Assigned.assignment_reaches`). Then either it takes all of the rest for its own value, or a blank ends that value in
the opening, behind the first letter of the word. In the second case the rest of the opening and the value stay where
they are: in "password=token =abc" the value of the password is "token". `sanitize_removes_value` leaves this case out.
It shows in the text before the value: the second pass does not leave the word standing at the end of this text
(`Assigned.not_suffix_of_reaches`).
-/

namespace Failsafe.Redaction

open Unicode (isBlank)

/-- An opening that begins with a word, and a value that is not quoted. -/
structure Assigned (word opening value : List Char) : Prop where
  isWord : IsWord word
  isOpening : IsOpening opening
  begins : word <+: opening
  ne_nil : value ≠ []
  bare : ∀ c ∈ value, isBare c = true
  noQuote : ∀ c ∈ value, isQuote c = false

variable {word opening value front earlier found rest text out : List Char}

theorem IsOpening.plain (h : IsOpening opening) :
    ∀ c ∈ opening, isQuote c = false ∧ (isBlank c = false → isBare c = true) := by
  obtain ⟨word, gap, separator, gap', rfl, hword, hgap, hseparator, hgap'⟩ := h
  have hblank : ∀ c, isBlank c = true → isQuote c = false ∧ (isBlank c = false → isBare c = true) := by
    intro c hc
    constructor
    · rw [Bool.eq_false_iff]
      intro hquote
      rw [isBlank_of_isBare (isBare_of_isQuote hquote)] at hc
      exact absurd hc (by simp)
    · intro hnot
      rw [hnot] at hc
      exact absurd hc (by simp)
  intro c hc
  rcases List.mem_append.mp hc with hc | hc
  · exact (of_isSpelling (hword.isSpelling c hc)).2
  rcases List.mem_append.mp hc with hc | hc
  · exact hblank c (hgap c hc)
  rcases List.mem_cons.mp hc with rfl | hc
  · refine ⟨?_, fun _ => isBare_of_isSeparator hseparator⟩
    simp only [isSeparator, Bool.or_eq_true, decide_eq_true_eq] at hseparator
    rcases hseparator with rfl | rfl <;> decide
  · exact hblank c (hgap' c hc)

/-! ## Values and what comes behind them -/

/-- A value stays a value when the text ends earlier behind it. -/
theorem IsValue.of_append {later more : List Char} (h : IsValue value (later ++ more)) (hne : later ≠ []) :
    IsValue value later := by
  cases h with
  | quoted hquote hinside => exact .quoted hquote hinside
  | bare hvalue hbare hopen =>
    refine .bare hvalue ⟨hbare.all, fun c hc => hbare.stops c ?_⟩ fun quote later' hquote heq hmem => ?_
    · obtain ⟨d, later, rfl⟩ := List.exists_cons_of_ne_nil hne
      exact hc
    · refine hopen quote (later' ++ more) hquote ?_ (List.mem_append_left _ hmem)
      rw [← List.append_assoc, heq]
      rfl

namespace Assigned

theorem isValue (h : Assigned word opening value) : IsValue value [] := by
  refine .bare h.ne_nil ⟨h.bare, fun c hc => absurd hc (by simp)⟩ fun quote more hquote heq _ => ?_
  have hmem : quote ∈ value := by
    rw [List.append_nil] at heq
    rw [heq]
    exact List.mem_cons_self
  rw [h.noQuote quote hmem] at hquote
  exact absurd hquote (by simp)

theorem head_isBare (h : Assigned word opening value) : ∃ c more, word = c :: more ∧ isBare c = true := by
  obtain ⟨c, more, rfl, hc⟩ := h.isWord.eq_cons
  exact ⟨c, more, rfl, (of_isSpelling (h.isWord.isSpelling c List.mem_cons_self)).2.2 (isBlank_of_isWordLetter hc)⟩

/-- A gap with which the word begins is empty. -/
theorem eq_nil_of_isBlank (h : Assigned word opening value) {more gap : List Char} (heq : word ++ more = gap ++ rest)
    (hgap : ∀ c ∈ gap, isBlank c = true) : gap = [] := by
  cases gap with
  | nil => rfl
  | cons d gap =>
    exfalso
    obtain ⟨c, letters, hword, hc⟩ := h.head_isBare
    rw [hword, List.cons_append, List.cons_append] at heq
    obtain ⟨rfl, -⟩ := List.cons.inj heq
    have hblank := hgap c List.mem_cons_self
    rw [isBlank_of_isBare hc] at hblank
    exact absurd hblank (by simp)

theorem eq_append (h : Assigned word opening value) : ∃ more, opening ++ value = word ++ more := by
  obtain ⟨more, rfl⟩ := h.begins
  exact ⟨more ++ value, by simp⟩

theorem isQuote_eq (h : Assigned word opening value) : ∀ c ∈ opening ++ value, isQuote c = false := by
  intro c hc
  rcases List.mem_append.mp hc with hc | hc
  · exact (h.isOpening.plain c hc).1
  · exact h.noQuote c hc

theorem valueLength_ne_zero_iff (h : Assigned word opening value) :
    valueLength (found ++ word) ≠ 0 ↔ valueLength (found ++ (opening ++ value)) ≠ 0 := by
  obtain ⟨c, more, rfl, -⟩ := h.head_isBare
  obtain ⟨more', hmore'⟩ := h.eq_append
  rw [hmore', Redaction.valueLength_ne_zero_iff, Redaction.valueLength_ne_zero_iff]
  cases found with
  | nil => simp
  | cons d found => simp

/-! ## Assignments that begin earlier -/

/-- An assignment that begins before this one has its opening there, or it is this one with a longer word. -/
theorem opening_cases (h : Assigned word opening value) {opening' value' : List Char} (hopening' : IsOpening opening')
    (hvalue' : IsValue value' rest) (heq : found ++ (opening ++ value) = opening' ++ (value' ++ rest)) :
    (∃ later, found = opening' ++ later ∧ value' ++ rest = later ++ (opening ++ value)) ∨
      opening' = found ++ opening ∧ value' ++ rest = value := by
  rcases List.append_eq_append_iff.mp heq with ⟨later, rfl, hlater⟩ | ⟨later, rfl, hlater⟩
  · obtain ⟨more, hmore⟩ := h.eq_append
    rcases hopening'.separates.of_append with hseparates | hblank
    · right
      have hhead : ∀ c, value.head? = some c → isBlank c = false := by
        have hvalue := h.isValue.head_isBlank
        rwa [List.append_nil] at hvalue
      obtain ⟨rfl, rfl⟩ := h.isOpening.separates.unique hseparates hlater hhead hvalue'.head_isBlank
      exact ⟨rfl, rfl⟩
    · rw [hmore] at hlater ⊢
      obtain rfl := h.eq_nil_of_isBlank hlater hblank
      exact .inl ⟨[], by simp, hlater.symm⟩
  · exact .inl ⟨later, rfl, hlater⟩

theorem opening_cases_word (h : Assigned word opening value) {opening' : List Char} (hopening' : IsOpening opening')
    (heq : found ++ word = opening' ++ rest) : ∃ later, found = opening' ++ later ∧ rest = later ++ word := by
  rcases List.append_eq_append_iff.mp heq with ⟨later, rfl, hlater⟩ | ⟨later, rfl, hlater⟩
  · rcases hopening'.separates.of_append with hseparates | hblank
    · exact absurd ⟨[], rest, hlater.symm⟩ (hseparates.not_infix h.isWord)
    · rw [← List.append_nil word] at hlater
      obtain rfl := h.eq_nil_of_isBlank hlater hblank
      exact ⟨[], by simp, by simpa using hlater.symm⟩
  · exact ⟨later, rfl, hlater⟩

/-- An assignment that ends before this one does not depend on what comes behind the word. -/
theorem assignmentLength_congr (h : Assigned word opening value)
    (hle : assignmentLength (found ++ (opening ++ value)) ≤ found.length) :
    assignmentLength (found ++ word) = assignmentLength (found ++ (opening ++ value)) := by
  obtain ⟨more, hmore⟩ := h.eq_append
  by_cases hzero : assignmentLength (found ++ (opening ++ value)) = 0
  · rw [hzero]
    refine Classical.not_not.mp fun hne => ?_
    obtain ⟨opening', value', rest, heq, hopening', hvalue', -⟩ := exists_assignment hne
    obtain ⟨later, rfl, hlater⟩ := h.opening_cases_word hopening' heq
    -- The same opening has a value in the longer text as well, since the value begins with the same character.
    have hvalue : valueLength (later ++ word) ≠ 0 := by
      rw [← hlater, valueLength_eq hvalue']
      obtain ⟨c, others, rfl, -⟩ := hvalue'.eq_cons
      simp
    obtain ⟨value'', rest', heq', hvalue''⟩ := exists_value (h.valueLength_ne_zero_iff.mp hvalue)
    rw [List.append_assoc, heq'] at hzero
    exact assignmentLength_ne_zero hopening' hvalue'' hzero
  · obtain ⟨opening', value', rest, heq, hopening', hvalue', hlength⟩ := exists_assignment hzero
    rcases h.opening_cases hopening' hvalue' heq with ⟨later, rfl, hlater⟩ | ⟨rfl, -⟩
    · -- The value ends before the word.
      obtain ⟨later', rfl, rfl⟩ : ∃ later', later = value' ++ later' ∧ rest = later' ++ (opening ++ value) := by
        rcases List.append_eq_append_iff.mp hlater with ⟨later', hlater', hrest⟩ | ⟨reached, hreached, hrest⟩
        · exact ⟨later', hlater', hrest⟩
        · have hnil : reached = [] := by
            rw [← hlength, hreached] at hle
            simp only [List.length_append] at hle
            exact List.length_eq_zero_iff.mp (by omega)
          subst hnil
          exact ⟨[], by rw [hreached]; simp, hrest.symm⟩
      rw [hmore, ← List.append_assoc] at hvalue'
      have hvalue'' : IsValue value' (later' ++ word) := by
        refine hvalue'.of_append ?_
        simp [h.isWord.ne_nil]
      rw [← hlength, List.append_assoc, List.append_assoc, assignmentLength_eq hopening' hvalue'']
    · exfalso
      have hpos := List.length_pos_iff.mpr h.isOpening.ne_nil
      rw [← hlength, List.length_append] at hle
      omega

/-- A value that reaches into the opening goes on to the end of the text, unless a blank ends it in the opening; then
it has reached the word. -/
theorem value_reaches (h : Assigned word opening value) {value' : List Char} (hvalue' : IsValue value' rest)
    (heq : value' ++ rest = found ++ (opening ++ value)) (hlt : found.length < value'.length) :
    rest = [] ∨ (∃ c ∈ opening, isBlank c = true) ∧ found.length < valueLength (found ++ word) := by
  obtain ⟨reached, rfl, hreached⟩ : ∃ reached, value' = found ++ reached ∧ opening ++ value = reached ++ rest := by
    rcases List.append_eq_append_iff.mp heq with ⟨later, rfl, -⟩ | ⟨reached, rfl, hreached⟩
    · rw [List.length_append] at hlt
      omega
    · exact ⟨reached, rfl, hreached⟩
  generalize hvalue : found ++ reached = value' at hvalue'
  cases hvalue' with
  | @quoted quote inside rest hquote hinside =>
    -- The closing quote is not in this assignment.
    exfalso
    rcases List.eq_nil_or_concat reached with rfl | ⟨reached, c, rfl⟩
    · simp at hlt
    · rw [List.concat_eq_append] at hvalue hreached
      have hc : c = quote := by
        rw [← List.append_assoc, ← List.cons_append] at hvalue
        exact List.singleton_inj.mp (List.append_inj_right' hvalue rfl)
      have hnot := h.isQuote_eq c (by rw [hreached]; simp)
      rw [hc, hquote] at hnot
      exact absurd hnot (by simp)
  | bare hne hbare hopen =>
    subst hvalue
    by_cases hblank : ∃ c ∈ opening, isBlank c = true
    · right
      refine ⟨hblank, ?_⟩
      obtain ⟨more, hmore⟩ := h.eq_append
      obtain ⟨c, letters, hword, hc⟩ := h.head_isBare
      rw [valueLength_open, List.takeWhile_append_of_pos, hword, List.takeWhile_cons_of_pos hc]
      · simp
      · exact fun d hd => hbare.all d (List.mem_append_left _ hd)
      · intro quote later hquote hlater hmem
        refine hopen quote (later ++ more) hquote ?_ (List.mem_append_left _ hmem)
        rw [heq, hmore, ← List.append_assoc, hlater]
        rfl
    · left
      cases rest with
      | nil => rfl
      | cons c rest =>
        exfalso
        have hnot := hbare.stops c rfl
        have hmem : c ∈ opening ++ value := by
          rw [hreached]
          simp
        rcases List.mem_append.mp hmem with hmem | hmem
        · have hc : isBlank c = false := by
            rw [Bool.eq_false_iff]
            exact fun hc => hblank ⟨c, hmem, hc⟩
          rw [(h.isOpening.plain c hmem).2 hc] at hnot
          exact absurd hnot (by simp)
        · rw [h.bare c hmem] at hnot
          exact absurd hnot (by simp)

/-- An assignment that reaches into this one goes on to the end of the text, unless a blank in the opening ends it; then
its value has reached the word. -/
theorem assignment_reaches (h : Assigned word opening value)
    (hlt : found.length < assignmentLength (found ++ (opening ++ value))) :
    assignmentLength (found ++ (opening ++ value)) = (found ++ (opening ++ value)).length ∨
      (∃ c ∈ opening, isBlank c = true) ∧ found.length < assignmentLength (found ++ word) := by
  obtain ⟨opening', value', rest, heq, hopening', hvalue', hlength⟩ := exists_assignment (Nat.ne_zero_of_lt hlt)
  rw [← hlength, heq]
  rw [← hlength] at hlt
  rcases h.opening_cases hopening' hvalue' heq with ⟨later, rfl, hlater⟩ | ⟨rfl, hvalue⟩
  · have hlt' : later.length < value'.length := by
      rw [List.length_append] at hlt
      omega
    rcases h.value_reaches hvalue' hlater hlt' with rfl | ⟨hblank, hreaches⟩
    · left
      simp
    · right
      refine ⟨hblank, ?_⟩
      obtain ⟨value'', rest', heq', hvalue''⟩ := exists_value (Nat.ne_zero_of_lt hreaches)
      rw [heq', valueLength_eq hvalue''] at hreaches
      rw [List.append_assoc, heq', assignmentLength_eq hopening' hvalue'', List.length_append]
      omega
  · left
    have hsame := valueLength_eq hvalue'
    have hwhole := valueLength_eq h.isValue
    rw [List.append_nil] at hwhole
    rw [hvalue, hwhole] at hsame
    rw [hvalue, ← hsame, ← List.length_append]

/-! ## The second pass -/

/-- The second pass replaces the assignment when it comes to the word. -/
theorem replaceFrom_eq (h : Assigned word opening value) (mark : List Char) (before : Option Char) :
    replaceFrom (fun _ => assignmentLength) mark before 0 (opening ++ value) = mark := by
  have hlength := assignmentLength_eq h.isOpening h.isValue
  rw [List.append_nil, ← List.length_append] at hlength
  have hfound : assignmentLength (opening ++ value ++ []) = (opening ++ value).length + 0 := by
    rw [List.append_nil, hlength, Nat.add_zero]
  have hne : opening ++ value ≠ [] := by simp [h.ne_nil]
  have hout := @replaceFrom_found (fun _ => assignmentLength) mark before [] 0 (opening ++ value) hne hfound
  rwa [List.append_nil, replaceFrom, List.append_nil] at hout

end Assigned

/-- The second pass keeps what is left of a word at the end of a text. -/
theorem IsWord.replaceFrom_eq (h : IsWord word) (before : Option Char) {excess : Nat} (hexcess : excess ≤ word.length) :
    replaceFrom (fun _ => assignmentLength) marker.toList before excess word = word.drop excess := by
  have hskip := @replaceFrom_skip (fun _ => assignmentLength) marker.toList before (word.take excess)
    (word.drop excess) 0
  rw [List.take_append_drop, List.length_take, Nat.min_eq_left hexcess, Nat.add_zero] at hskip
  rw [hskip]
  have hpass := pass_replaceFrom (fun _ => assignmentLength_le) marker.toList (lastFrom before (word.take excess))
    (word.drop excess)
  refine (hpass.eq_self fun front c rest hword => Classical.not_not.mp fun hne => ?_).2
  -- An assignment would have a separator, and there is none in the word.
  obtain ⟨opening, value, later, heq, hopening, -, -⟩ := exists_assignment hne
  have hin : opening <:+: word.drop excess := by
    rw [hword, ← List.append_nil (c :: rest), heq]
    exact ⟨front, value ++ later, by simp⟩
  exact hopening.separates.not_infix h (hin.trans (List.drop_suffix excess word).isInfix)

namespace Assigned

/-- If an assignment reaches the word from in front of it, the second pass does not leave the word standing at the end
of the text before. -/
theorem not_suffix_of_reaches (h : Assigned word opening value) (hne : found ≠ [])
    (hfront : Pass (fun _ => assignmentLength) marker.toList (found ++ (opening ++ value)) none front 0 out)
    (hreaches : found.length < assignmentLength (found ++ word)) :
    ¬ word <:+ redactAssignments (front ++ (found ++ word)) := by
  intro hsuffix
  have hfront' : Pass (fun _ => assignmentLength) marker.toList (found ++ word) none front 0 out := by
    refine hfront.congr_tail fun _ c rest _ hle => ?_
    rw [← List.append_assoc] at hle ⊢
    rw [← List.append_assoc (c :: rest)]
    refine h.assignmentLength_congr (Nat.le_trans hle ?_)
    rw [List.length_append]
    omega
  obtain ⟨excess, hexcess⟩ := Nat.exists_eq_add_of_le (Nat.le_of_lt hreaches)
  have hle := assignmentLength_le (found ++ word)
  rw [hexcess, List.length_append] at hle
  have hout := hfront'.replaceFrom_eq
  rw [replaceFrom_found hne hexcess, h.isWord.replaceFrom_eq _ (by omega)] at hout
  -- What is left of the word is shorter than the word, so the bracket before it would be in the word.
  obtain ⟨inner, hmarker⟩ := bracketed_marker
  have hend : ']' :: word.drop excess <:+ redactAssignments (front ++ (found ++ word)) := by
    refine ⟨out ++ '[' :: inner, ?_⟩
    rw [redactAssignments, replaceAll, hout, hmarker]
    simp
  have hbracket : ']' :: word.drop excess <:+ word := by
    refine List.suffix_of_suffix_length_le hend hsuffix ?_
    rw [List.length_cons, List.length_drop]
    omega
  exact h.isWord.unbracketed.2 (hbracket.mem List.mem_cons_self)

/-- The second pass replaces the value together with the word, or with an assignment that begins earlier. -/
theorem exists_redactAssignments (h : Assigned word opening value) (text : List Char)
    (hword : word <:+ redactAssignments (text ++ word) ∨ ∀ c ∈ opening, isBlank c = false) :
    ∃ excess out, Pass (fun _ => assignmentLength) marker.toList (opening ++ value) none text excess out ∧
      (redactAssignments (text ++ (opening ++ value)) = out ∨
        redactAssignments (text ++ (opening ++ value)) = out ++ marker.toList) := by
  obtain ⟨excess, out, hpass⟩ :=
    exists_pass (fun _ => assignmentLength) marker.toList (opening ++ value) none text
  refine ⟨excess, out, hpass, ?_⟩
  have hout := hpass.replaceFrom_eq
  rcases hpass.reached_or with rfl | ⟨front, found, out', rfl, hne, hfound, hexcess, hfront, -⟩
  · right
    rw [h.replaceFrom_eq] at hout
    exact hout
  · left
    have hlt : found.length < assignmentLength (found ++ (opening ++ value)) := by omega
    rcases h.assignment_reaches hlt with hwhole | ⟨⟨c, hc, hblank⟩, hreaches⟩
    · rw [hwhole, List.length_append] at hfound
      obtain rfl : excess = (opening ++ value).length := by omega
      have hskip := @replaceFrom_skip (fun _ => assignmentLength) marker.toList
        (lastFrom none (front ++ found)) (opening ++ value) [] 0
      rw [List.append_nil, Nat.add_zero, replaceFrom] at hskip
      rw [hskip, List.append_nil] at hout
      exact hout
    · exfalso
      rcases hword with hword | hnone
      · rw [List.append_assoc] at hword
        exact h.not_suffix_of_reaches hne hfront hreaches hword
      · rw [hnone c hc] at hblank
        exact absurd hblank (by simp)

end Assigned

/-! ## Whole texts -/

/-- The first pass leaves an assignment behind. -/
theorem Assigned.of_replaceFrom (h : Assigned word opening value) (before : Option Char) :
    Assigned word opening (replaceFrom hexLength hexMarker.toList before 0 value) := by
  have hpass := pass_replaceFrom hexLength_le hexMarker.toList before value
  have hmark : hexMarker.toList.all (fun c => isBare c && !isQuote c) = true := by decide
  simp only [List.all_eq_true, Bool.and_eq_true, Bool.not_eq_true'] at hmark
  refine ⟨h.isWord, h.isOpening, h.begins, hpass.ne_nil bracketed_hexMarker.ne_nil h.ne_nil, fun c hc => ?_,
    fun c hc => ?_⟩
  · rcases hpass.mem c hc with hc | hc
    · exact h.bare c hc
    · exact (hmark c hc).1
  · rcases hpass.mem c hc with hc | hc
    · exact h.noQuote c hc
    · exact (hmark c hc).2

theorem Assigned.not_infix_sanitizeChars {before : List Char} (h : Assigned word opening value)
    (hnew : ¬ value <:+: before) (hmarker : ¬ value <:+: marker.toList) (hhexMarker : ¬ value <:+: hexMarker.toList)
    (hclear : Clear marker.toList value) (hclearHex : Clear hexMarker.toList value)
    (hword : word <:+ redactAssignments (redactHex (before ++ word)) ∨ ∀ c ∈ opening, isBlank c = false) :
    ¬ value <:+: sanitizeChars (before ++ (opening ++ value)) := by
  intro hin
  obtain ⟨out, hpass⟩ := h.isWord.exists_pass_before before
  obtain ⟨more, hmore⟩ := h.eq_append
  have hhex := hpass more
  rw [← hmore] at hhex
  obtain ⟨last, hredacted⟩ := h.isOpening.redactHex_eq hhex
  rw [h.isWord.redactHex_eq (hpass [])] at hword
  obtain ⟨excess, out', hpass', hout⟩ := (h.of_replaceFrom last).exists_redactAssignments out hword
  rw [sanitizeChars_eq, hredacted] at hin
  -- The value would have been there after the second pass, so after the first, so before.
  have hthird := (pass_redactWords _).infix_or h.ne_nil hclear hin
  have hsecond : value <:+: out' := by
    rcases hthird with hin | hin
    · rcases hout with hout | hout
      · rwa [hout] at hin
      · rw [hout] at hin
        rcases hclear.noBegin.infix_or hin with hin | hin
        · exact hin
        · exact absurd hin hmarker
    · exact absurd hin hmarker
  rcases hpass'.infix_or h.ne_nil hclear hsecond with hfirst | hin
  · rcases hhex.infix_or h.ne_nil hclearHex hfirst with hin | hin
    · exact hnew hin
    · exact hhexMarker hin
  · exact hmarker hin

/-- A text ends with an assignment to a sensitive word, and the value is not in the text before, nor in a mark. -/
structure NewAssignment (before word gap : String) (separator : Char) (gap' value : String) : Prop where
  isWord : IsWord word.toList
  blank : gap.toList.all isBlank = true
  separates : separator = ':' ∨ separator = '='
  blank' : gap'.toList.all isBlank = true
  ne_empty : value ≠ ""
  bare : value.toList.all isBare = true
  noQuote : value.toList.any isQuote = false
  new : ¬ value.toList <:+: (before ++ word ++ gap ++ String.singleton separator ++ gap').toList
  noMark : ¬ value.toList <:+: marker.toList ∧ ¬ value.toList <:+: hexMarker.toList

/-- The text that ends with the value. -/
def assignmentText (before word gap : String) (separator : Char) (gap' value : String) : String :=
  before ++ word ++ gap ++ String.singleton separator ++ gap' ++ value

variable {before word gap gap' value : String} {separator : Char}

theorem newAssignment_iff : NewAssignment before word gap separator gap' value ↔
    (IsWord word.toList ∧ gap.toList.all isBlank = true ∧ (separator = ':' ∨ separator = '=') ∧
      gap'.toList.all isBlank = true) ∧
    (value ≠ "" ∧ value.toList.all isBare = true ∧ value.toList.any isQuote = false) ∧
    ¬ value.toList <:+: before.toList ++ word.toList ++ gap.toList ++ [separator] ++ gap'.toList ∧
    ¬ value.toList <:+: marker.toList ∧ ¬ value.toList <:+: hexMarker.toList := by
  have htext : before.toList ++ word.toList ++ gap.toList ++ [separator] ++ gap'.toList =
      (before ++ word ++ gap ++ String.singleton separator ++ gap').toList := by
    simp only [String.toList_append, String.toList_singleton]
  rw [htext]
  constructor
  · exact fun h => ⟨⟨h.isWord, h.blank, h.separates, h.blank'⟩, ⟨h.ne_empty, h.bare, h.noQuote⟩, h.new, h.noMark⟩
  · exact fun ⟨⟨hword, hgap, hseparator, hgap'⟩, ⟨hne, hbare, hquote⟩, hnew, hmark⟩ =>
      ⟨hword, hgap, hseparator, hgap', hne, hbare, hquote, hnew, hmark⟩

instance : Decidable (NewAssignment before word gap separator gap' value) := decidable_of_iff _ newAssignment_iff.symm

/-- The value of an assignment to a sensitive word does not survive, if

* no mark that is put into the text can make up a part of the value together with what stands beside it, and
* the word is not taken for the value of an earlier assignment that a blank ends before this value: there is no blank,
  or the word still stands at the end of the text before when the first two passes have gone over this text. -/
theorem sanitize_removes_value (h : NewAssignment before word gap separator gap' value)
    (hclear : Clear marker.toList value.toList ∧ Clear hexMarker.toList value.toList)
    (hword : word.toList <:+ redactAssignments (redactHex (before ++ word).toList) ∨
      ∀ c ∈ (word ++ gap ++ gap').toList, isBlank c = false) :
    ¬ value.toList <:+: (sanitize (assignmentText before word gap separator gap' value)).toList := by
  have hseparator : isSeparator separator = true := by
    simpa [isSeparator] using h.separates
  have hassigned : Assigned word.toList (word.toList ++ (gap.toList ++ separator :: gap'.toList)) value.toList := by
    have hopening : IsOpening (word.toList ++ (gap.toList ++ separator :: gap'.toList)) :=
      ⟨_, _, _, _, rfl, h.isWord, List.all_eq_true.mp h.blank, hseparator, List.all_eq_true.mp h.blank'⟩
    refine ⟨h.isWord, hopening, List.prefix_append _ _, ?_, List.all_eq_true.mp h.bare, ?_⟩
    · simpa using h.ne_empty
    · simpa using h.noQuote
  have hnew : ¬ value.toList <:+: before.toList := by
    intro hin
    refine h.new (hin.trans (List.IsPrefix.isInfix ?_))
    simp only [String.toList_append, List.append_assoc]
    exact List.prefix_append _ _
  have hblank : word.toList <:+ redactAssignments (redactHex (before.toList ++ word.toList)) ∨
      ∀ c ∈ word.toList ++ (gap.toList ++ separator :: gap'.toList), isBlank c = false := by
    rw [← String.toList_append]
    refine hword.imp_right fun hnone c hc => ?_
    simp only [String.toList_append, List.mem_append, List.mem_cons] at hc hnone
    rcases hc with hc | hc | rfl | hc
    · exact hnone c (.inl (.inl hc))
    · exact hnone c (.inl (.inr hc))
    · exact isBlank_of_isBare (isBare_of_isSeparator hseparator)
    · exact hnone c (.inr hc)
  have hnot := hassigned.not_infix_sanitizeChars hnew h.noMark.1 h.noMark.2 hclear.1 hclear.2 hblank
  simpa [assignmentText] using hnot

theorem sanitize_removes_value_privateKey :
    NewAssignment "login " "Private Key" " " '=' "" "hunter2" ∧
      ¬ "hunter2".toList <:+: (sanitize (assignmentText "login " "Private Key" " " '=' "" "hunter2")).toList := by
  have hnew : NewAssignment "login " "Private Key" " " '=' "" "hunter2" := by decide +kernel
  have hplain : Unbracketed "hunter2".toList := by
    constructor <;> decide
  have hword : "Private Key".toList <:+ redactAssignments (redactHex ("login " ++ "Private Key").toList) := by
    rw [String.toList_append]
    decide +kernel
  refine ⟨hnew, sanitize_removes_value hnew ⟨?_, ?_⟩ (.inl hword)⟩
  · exact hplain.clear bracketed_marker
  · exact hplain.clear bracketed_hexMarker

/-- What the conditions are for. Here the word is the value of another assignment, and there the end of a mark and the
character behind it make up the value. -/
theorem sanitize_keeps_value :
    (NewAssignment "password=" "token" " " '=' "" "abc" ∧
      "abc".toList <:+: (sanitize (assignmentText "password=" "token" " " '=' "" "abc")).toList) ∧
    NewAssignment "password." "token" "" '=' "" "]." ∧
      "].".toList <:+: (sanitize (assignmentText "password." "token" "" '=' "" "].")).toList := by
  refine ⟨⟨by decide +kernel, ?_⟩, by decide +kernel, ?_⟩
  · simp only [toList_sanitize, assignmentText, String.toList_append, String.toList_singleton]
    decide +kernel
  · simp only [toList_sanitize, assignmentText, String.toList_append, String.toList_singleton]
    decide +kernel

end Failsafe.Redaction
